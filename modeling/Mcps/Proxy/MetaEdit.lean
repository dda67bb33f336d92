import Mcps.Core.Wire

/-!
# Editing JSON in place

How the proxy edits the documents it passes on: mutable indexing as `serde_json`
documents it, which makes objects out of nulls and panics on every other non-object,
and the recursive removal of the proxy-owned keys from every `_meta` object.
-/

namespace Mcps

open Json Assoc

/-! ## Mutable indexing -/

/-- Why a step unwound. -/
inductive Panic where
  | cannotAccessKey (key : String)
  deriving DecidableEq, Repr

/-- Change the value that a chain of `IndexMut` by keys refers to.  A missing key is
entered with null, null becomes an object, anything else that is not an object panics. -/
def indexMut : List String → (Value → Value) → Value → Except Panic Value
  | [], change, value => .ok (change value)
  | key :: path, change, .object members => do
    let updated ← indexMut path change ((Assoc.find? key members).getD .null)
    return .object (Assoc.insert codePointLt key updated members)
  | key :: path, change, .null => do
    return .object [(key, ← indexMut path change .null)]
  | key :: _, _, _ => .error (.cannotAccessKey key)

/-- The members indexing into a value starts from. -/
def indexable : Value → Option (List (String × Value))
  | .object members => some members
  | .null => some []
  | _ => none

@[simp] theorem indexMut_nil (change : Value → Value) (value : Value) :
    indexMut [] change value = .ok (change value) := by
  cases value <;> rfl

variable {value : Value} {members : List (String × Value)}

theorem indexMut_cons (indexes : indexable value = some members) (key : String) (path : List String)
    (change : Value → Value) :
    indexMut (key :: path) change value =
      (indexMut path change ((find? key members).getD .null)).map
        fun updated => .object (insert codePointLt key updated members) := by
  cases value with
  | object _ =>
    cases indexes
    simp only [indexMut]
    cases indexMut path change ((find? key members).getD .null) <;> rfl
  | null =>
    cases indexes
    cases indexMut path change .null <;> rfl
  | _ => simp [indexable] at indexes

theorem indexMut_panics (unindexed : indexable value = none) (key : String) (path : List String)
    (change : Value → Value) :
    indexMut (key :: path) change value = .error (.cannotAccessKey key) := by
  cases value with
  | object _ | null => simp [indexable] at unindexed
  | _ => rfl

theorem sortedKeys_of_indexable (sorted : value.SortedKeys)
    (indexes : indexable value = some members) : (object members).SortedKeys := by
  cases value with
  | object _ =>
    cases indexes
    exact sorted
  | null =>
    cases indexes
    exact sortedKeys_object.mpr ⟨List.Pairwise.nil, nofun⟩
  | _ => simp [indexable] at indexes

theorem sortedKeys_indexMut {path : List String} {change : Value → Value} {edited : Value}
    (sorted : value.SortedKeys) (keeps : ∀ held : Value, held.SortedKeys → (change held).SortedKeys)
    (indexed : indexMut path change value = .ok edited) : edited.SortedKeys := by
  induction path generalizing value edited with
  | nil =>
    cases indexed
    exact keeps value sorted
  | cons key path ih =>
    cases indexes : indexable value with
    | none =>
      rw [indexMut_panics indexes] at indexed
      cases indexed
    | some members =>
      rw [indexMut_cons indexes] at indexed
      have membersSorted := sortedKeys_of_indexable sorted indexes
      have heldSorted : ((find? key members).getD .null).SortedKeys := by
        cases found : find? key members with
        | none => exact sortedKeys_null
        | some held => exact membersSorted.get (show get key (.object members) = some held from found)
      cases step : indexMut path change ((find? key members).getD .null) with
      | error panic =>
        rw [step] at indexed
        cases indexed
      | ok updated =>
        rw [step] at indexed
        cases indexed
        exact membersSorted.insert key (ih heldSorted step)

/-! ## Proxy-owned keys -/

/-- The `_meta` keys only the proxy may write. -/
def proxyOwnedMetaKeys : List String :=
  [requestMetaKey, responseMetaKey, verifiedMetaKey, authorizationMetaKey]

/-- Whether scrubbing keeps a member of an object that is, or is not, a `_meta`. -/
def keepsMember (own : Bool) (key : String) : Bool := !(own && key ∈ proxyOwnedMetaKeys)

mutual
/-- Remove the proxy-owned keys from every `_meta` object below a value; `own` says that
the value is itself some object's `_meta`. -/
def scrubAt (own : Bool) : Value → Value
  | .object members => .object (scrubMembers own members)
  | .array items => .array (scrubItems items)
  | .null => .null
  | .bool b => .bool b
  | .number n => .number n
  | .string s => .string s

/-- The loop over the items of an array. -/
def scrubItems : List Value → List Value
  | [] => []
  | item :: rest => scrubAt false item :: scrubItems rest

/-- The loop over the members of an object, some of them removed if it is a `_meta`. -/
def scrubMembers (own : Bool) : List (String × Value) → List (String × Value)
  | [] => []
  | (key, value) :: rest =>
    if keepsMember own key then (key, scrubAt (key = "_meta") value) :: scrubMembers own rest
    else scrubMembers own rest
end

def scrubProxyOwnedMeta (value : Value) : Value := scrubAt false value

theorem scrubItems_eq_map (items : List Value) : scrubItems items = items.map (scrubAt false) := by
  induction items with
  | nil => rfl
  | cons item rest ih => simp [scrubItems, ih]

theorem scrubMembers_eq_map (own : Bool) (members : List (String × Value)) :
    scrubMembers own members =
      (members.filter fun member => keepsMember own member.1).map
        fun member => (member.1, scrubAt (member.1 = "_meta") member.2) := by
  induction members with
  | nil => rfl
  | cons member rest ih =>
    obtain ⟨key, _⟩ := member
    by_cases kept : keepsMember own key = true
    · simp [scrubMembers, kept, ih]
    · simp [scrubMembers, kept, ih]

theorem find?_scrubMembers {own : Bool} {key : String} (kept : keepsMember own key = true)
    (members : List (String × Value)) :
    find? key (scrubMembers own members) =
      (find? key members).map (scrubAt (key = "_meta")) := by
  fun_induction find? key members with
  | case1 => rfl
  | case2 => rw [scrubMembers, if_pos kept, find?_cons_self, Option.map_some]
  | case3 _ _ _ different ih =>
    rw [scrubMembers]
    split
    · rw [find?_cons_ne different, ih]
    · exact ih

theorem scrubAt_object (own : Bool) (members : List (String × Value)) :
    scrubAt own (.object members) = .object (scrubMembers own members) := rfl

theorem sortedKeys_scrubAt (sorted : value.SortedKeys) (own : Bool) :
    (scrubAt own value).SortedKeys := by
  induction value using inductionOn generalizing own with
  | null | bool _ | number _ | string _ => exact sorted
  | array items ih =>
    have every := sortedKeys_array.mp sorted
    rw [scrubAt, scrubItems_eq_map, sortedKeys_array]
    intro item member
    obtain ⟨source, here, rfl⟩ := List.mem_map.mp member
    exact ih source here (every source here) false
  | object members ih =>
    obtain ⟨ordered, every⟩ := sortedKeys_object.mp sorted
    rw [scrubAt_object, scrubMembers_eq_map, sortedKeys_object]
    constructor
    · exact List.pairwise_map.mpr (ordered.filter _)
    · intro member here
      obtain ⟨source, kept, rfl⟩ := List.mem_map.mp here
      have inside := List.mem_of_mem_filter kept
      exact ih source inside (every source inside) _

end Mcps
