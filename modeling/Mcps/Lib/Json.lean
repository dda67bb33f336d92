import Mcps.Lib.Assoc
import Mcps.Lib.CodeUnits

/-!
# JSON trees

JSON values over an arbitrary type of numbers.  An object is the list of its
members; a tree whose objects are all in key order (`SortedKeys`) is the value a
sorted-map representation holds, and two such trees are equal exactly when they
are equal as JSON values.

`Everywhere` lifts a property of one node to every node of a tree, so that the
properties of whole documents need no recursion of their own.
-/

/-- A JSON value whose numbers are drawn from `ν`. -/
inductive Json (ν : Type) where
  | null
  | bool (value : Bool)
  | number (value : ν)
  | string (value : String)
  | array (items : List (Json ν))
  | object (members : List (String × Json ν))
  deriving Repr

namespace Json

open List Assoc

variable {ν μ : Type}

/-- Structural induction with the hypotheses for the parts of a container stated
by membership. -/
@[induction_eliminator, elab_as_elim]
theorem inductionOn {motive : Json ν → Prop} (tree : Json ν)
    (null : motive .null) (bool : ∀ value, motive (.bool value))
    (number : ∀ value, motive (.number value)) (string : ∀ value, motive (.string value))
    (array : ∀ items, (∀ item ∈ items, motive item) → motive (.array items))
    (object : ∀ members, (∀ member ∈ members, motive member.2) → motive (.object members)) :
    motive tree :=
  @Json.rec ν motive (fun items => ∀ item ∈ items, motive item)
    (fun members => ∀ member ∈ members, motive member.2) (fun member => motive member.2)
    null bool number string (fun items => array items) (fun members => object members)
    (fun _ => nofun) (fun _ _ head tail => forall_mem_cons.mpr ⟨head, tail⟩)
    (fun _ => nofun) (fun _ _ head tail => forall_mem_cons.mpr ⟨head, tail⟩)
    (fun _ _ value => value) tree

section

variable [DecidableEq ν]

mutual
/-- Decide equality of two trees. -/
def decEq : (left right : Json ν) → Decidable (left = right)
  | .null, .null => isTrue rfl
  | .bool left, .bool right => decidable_of_iff (left = right) (by simp)
  | .number left, .number right => decidable_of_iff (left = right) (by simp)
  | .string left, .string right => decidable_of_iff (left = right) (by simp)
  | .array left, .array right =>
    have := decEqItems left right
    decidable_of_iff (left = right) (by simp)
  | .object left, .object right =>
    have := decEqMembers left right
    decidable_of_iff (left = right) (by simp)
  | .null, .bool _ | .null, .number _ | .null, .string _ | .null, .array _ | .null, .object _
  | .bool _, .null | .bool _, .number _ | .bool _, .string _ | .bool _, .array _
  | .bool _, .object _ | .number _, .null | .number _, .bool _ | .number _, .string _
  | .number _, .array _ | .number _, .object _ | .string _, .null | .string _, .bool _
  | .string _, .number _ | .string _, .array _ | .string _, .object _ | .array _, .null
  | .array _, .bool _ | .array _, .number _ | .array _, .string _ | .array _, .object _
  | .object _, .null | .object _, .bool _ | .object _, .number _ | .object _, .string _
  | .object _, .array _ => isFalse nofun

/-- Decide equality of two lists of items. -/
def decEqItems : (left right : List (Json ν)) → Decidable (left = right)
  | [], [] => isTrue rfl
  | left :: lefts, right :: rights =>
    have := decEq left right
    have := decEqItems lefts rights
    decidable_of_iff (left = right ∧ lefts = rights) (by simp)
  | [], _ :: _ | _ :: _, [] => isFalse nofun

/-- Decide equality of two lists of members. -/
def decEqMembers : (left right : List (String × Json ν)) → Decidable (left = right)
  | [], [] => isTrue rfl
  | (leftKey, left) :: lefts, (rightKey, right) :: rights =>
    have := decEq left right
    have := decEqMembers lefts rights
    decidable_of_iff (leftKey = rightKey ∧ left = right ∧ lefts = rights) (by simp [and_assoc])
  | [], _ :: _ | _ :: _, [] => isFalse nofun
end

instance : DecidableEq (Json ν) := decEq

end

/-- The member of an object under a key; nothing else has members. -/
def get (key : String) : Json ν → Option (Json ν)
  | .object members => Assoc.find? key members
  | _ => none

/-- The text of a string value. -/
def asStr : Json ν → Option String
  | .string value => some value
  | _ => none

/-- The members of an object value. -/
def asObject : Json ν → Option (List (String × Json ν))
  | .object members => some members
  | _ => none

variable (key : String) (members : List (String × Json ν))

@[simp] theorem get_object : (Json.object members).get key = find? key members := rfl

@[simp] theorem asObject_object : (Json.object members).asObject = some members := rfl

variable {held : Option (Json ν)}

theorem bind_asStr_eq_some {text : String} :
    held.bind asStr = some text ↔ held = some (.string text) := by
  cases held with
  | none => simp
  | some tree => cases tree <;> simp [asStr]

theorem bind_asObject_eq_some {members : List (String × Json ν)} :
    held.bind asObject = some members ↔ held = some (.object members) := by
  cases held with
  | none => simp
  | some tree => cases tree <;> simp [asObject]

variable {tree value : Json ν}

theorem get_eq_some {key : String} (found : tree.get key = some value) :
    ∃ members, tree = .object members ∧ find? key members = some value := by
  cases tree <;> simp_all [get]

/-! ## Properties of every node -/

mutual
/-- The property holds of the tree and of every tree inside it. -/
def Everywhere (property : Json ν → Prop) : Json ν → Prop
  | .array items => property (.array items) ∧ EverywhereItems property items
  | .object members => property (.object members) ∧ EverywhereMembers property members
  | leaf => property leaf

/-- `Everywhere` for the items of an array. -/
def EverywhereItems (property : Json ν → Prop) : List (Json ν) → Prop
  | [] => True
  | item :: rest => Everywhere property item ∧ EverywhereItems property rest

/-- `Everywhere` for the members of an object. -/
def EverywhereMembers (property : Json ν → Prop) : List (String × Json ν) → Prop
  | [] => True
  | (_, value) :: rest => Everywhere property value ∧ EverywhereMembers property rest
end

mutual
/-- A decidable property of nodes is decidable of whole trees. -/
def decidableEverywhere (property : Json ν → Prop) [DecidablePred property] :
    (tree : Json ν) → Decidable (tree.Everywhere property)
  | .null => inferInstanceAs (Decidable (property .null))
  | .bool value => inferInstanceAs (Decidable (property (.bool value)))
  | .number value => inferInstanceAs (Decidable (property (.number value)))
  | .string value => inferInstanceAs (Decidable (property (.string value)))
  | .array items =>
    have := decidableEverywhereItems property items
    inferInstanceAs (Decidable (property (.array items) ∧ EverywhereItems property items))
  | .object members =>
    have := decidableEverywhereMembers property members
    inferInstanceAs (Decidable (property (.object members) ∧ EverywhereMembers property members))

/-- `decidableEverywhere` for the items of an array. -/
def decidableEverywhereItems (property : Json ν → Prop) [DecidablePred property] :
    (items : List (Json ν)) → Decidable (EverywhereItems property items)
  | [] => isTrue trivial
  | item :: rest =>
    have := decidableEverywhere property item
    have := decidableEverywhereItems property rest
    inferInstanceAs (Decidable (Everywhere property item ∧ EverywhereItems property rest))

/-- `decidableEverywhere` for the members of an object. -/
def decidableEverywhereMembers (property : Json ν → Prop) [DecidablePred property] :
    (members : List (String × Json ν)) → Decidable (EverywhereMembers property members)
  | [] => isTrue trivial
  | (_, value) :: rest =>
    have := decidableEverywhere property value
    have := decidableEverywhereMembers property rest
    inferInstanceAs (Decidable (Everywhere property value ∧ EverywhereMembers property rest))
end

instance (property : Json ν → Prop) [DecidablePred property] (tree : Json ν) :
    Decidable (tree.Everywhere property) := decidableEverywhere property tree

variable {property : Json ν → Prop} {items : List (Json ν)}

theorem everywhereItems_iff :
    EverywhereItems property items ↔ ∀ item ∈ items, item.Everywhere property := by
  induction items with
  | nil => simp [EverywhereItems]
  | cons item rest ih => simp [EverywhereItems, ih]

theorem everywhereMembers_iff {members : List (String × Json ν)} :
    EverywhereMembers property members ↔ ∀ member ∈ members, member.2.Everywhere property := by
  induction members with
  | nil => simp [EverywhereMembers]
  | cons member rest ih => simp [EverywhereMembers, ih]

@[simp] theorem everywhere_array :
    (Json.array items).Everywhere property ↔
      property (.array items) ∧ ∀ item ∈ items, item.Everywhere property := by
  rw [Everywhere, everywhereItems_iff]

@[simp] theorem everywhere_object {members : List (String × Json ν)} :
    (Json.object members).Everywhere property ↔
      property (.object members) ∧ ∀ member ∈ members, member.2.Everywhere property := by
  rw [Everywhere, everywhereMembers_iff]

/-! ## Nesting -/

mutual
/-- How many containers are open at the deepest place of the tree. -/
def depth : Json ν → Nat
  | .array items => itemsDepth items + 1
  | .object members => membersDepth members + 1
  | _ => 0

/-- The largest depth of the items of an array. -/
def itemsDepth : List (Json ν) → Nat
  | [] => 0
  | item :: rest => max (depth item) (itemsDepth rest)

/-- The largest depth of the values of an object. -/
def membersDepth : List (String × Json ν) → Nat
  | [] => 0
  | (_, value) :: rest => max (depth value) (membersDepth rest)
end

theorem depth_array_le {levels : Nat} :
    (Json.array items).depth ≤ levels + 1 ↔ ∀ item ∈ items, item.depth ≤ levels := by
  rw [depth, Nat.add_le_add_iff_right]
  induction items with
  | nil => simp [itemsDepth]
  | cons item rest ih => simp [itemsDepth, ih]

theorem depth_object_le {members : List (String × Json ν)} {levels : Nat} :
    (Json.object members).depth ≤ levels + 1 ↔ ∀ member ∈ members, member.2.depth ≤ levels := by
  rw [depth, Nat.add_le_add_iff_right]
  induction members with
  | nil => simp [membersDepth]
  | cons member rest ih => simp [membersDepth, ih]

/-! ## Key order -/

/-- The members of this node, if it is an object, are in key order. -/
def KeysOrdered : Json ν → Prop
  | .object members => Assoc.Ordered codePointLt members
  | _ => True

instance : DecidablePred (KeysOrdered (ν := ν))
  | .object members => inferInstanceAs (Decidable (Assoc.Ordered codePointLt members))
  | .null | .bool _ | .number _ | .string _ | .array _ => isTrue trivial

/-- Every object of the tree has its members in key order. -/
def SortedKeys (tree : Json ν) : Prop := tree.Everywhere KeysOrdered

instance (tree : Json ν) : Decidable tree.SortedKeys :=
  inferInstanceAs (Decidable (tree.Everywhere KeysOrdered))

@[simp] theorem sortedKeys_null : (Json.null : Json ν).SortedKeys := trivial
@[simp] theorem sortedKeys_bool (value : Bool) : (Json.bool value : Json ν).SortedKeys := trivial
@[simp] theorem sortedKeys_number (value : ν) : (Json.number value).SortedKeys := trivial
@[simp] theorem sortedKeys_string (value : String) :
    (Json.string value : Json ν).SortedKeys := trivial

@[simp] theorem sortedKeys_array :
    (Json.array items).SortedKeys ↔ ∀ item ∈ items, item.SortedKeys := by
  simp [SortedKeys, KeysOrdered]

@[simp] theorem sortedKeys_object {members : List (String × Json ν)} :
    (Json.object members).SortedKeys ↔
      Assoc.Ordered codePointLt members ∧ ∀ member ∈ members, member.2.SortedKeys := by
  simp [SortedKeys, KeysOrdered]

theorem SortedKeys.get {key : String} (sorted : tree.SortedKeys)
    (found : tree.get key = some value) : value.SortedKeys := by
  obtain ⟨_, rfl, found⟩ := get_eq_some found
  exact (sortedKeys_object.mp sorted).2 (key, value) (mem_of_find? found)

theorem SortedKeys.insert {members : List (String × Json ν)}
    (sorted : (Json.object members).SortedKeys) (key : String) (valueSorted : value.SortedKeys) :
    (Json.object (insert codePointLt key value members)).SortedKeys := by
  obtain ⟨ordered, every⟩ := sortedKeys_object.mp sorted
  refine sortedKeys_object.mpr ⟨ordered.insert key value, fun member inserted => ?_⟩
  rcases mem_insert codePointLt inserted with rfl | held
  · exact valueSorted
  · exact every member held

theorem SortedKeys.erase {members : List (String × Json ν)}
    (sorted : (Json.object members).SortedKeys) (key : String) :
    (Json.object (erase key members)).SortedKeys := by
  obtain ⟨ordered, every⟩ := sortedKeys_object.mp sorted
  exact sortedKeys_object.mpr
    ⟨ordered.erase key, fun member held => every member (mem_erase.mp held).1⟩

/-- The members of this node, if it is an object, have distinct keys. -/
def KeysDistinct : Json ν → Prop
  | .object members => (members.map Prod.fst).Nodup
  | _ => True

instance : DecidablePred (KeysDistinct (ν := ν))
  | .object members => inferInstanceAs (Decidable (members.map Prod.fst).Nodup)
  | .null | .bool _ | .number _ | .string _ | .array _ => isTrue trivial

/-- No object of the tree has two members under one key. -/
def UniqueKeys (tree : Json ν) : Prop := tree.Everywhere KeysDistinct

instance (tree : Json ν) : Decidable tree.UniqueKeys :=
  inferInstanceAs (Decidable (tree.Everywhere KeysDistinct))

variable {first second : Json ν → Prop}

theorem everywhere_of_both {third : Json ν → Prop}
    (both : ∀ node, first node → second node → third node) (every : tree.Everywhere first)
    (also : tree.Everywhere second) : tree.Everywhere third := by
  induction tree with
  | array items ih =>
    rw [everywhere_array] at every also ⊢
    exact ⟨both _ every.1 also.1,
      fun item held => ih item held (every.2 item held) (also.2 item held)⟩
  | object members ih =>
    rw [everywhere_object] at every also ⊢
    exact ⟨both _ every.1 also.1,
      fun member held => ih member held (every.2 member held) (also.2 member held)⟩
  | _ => exact both _ every also

theorem everywhere_mono (weaker : ∀ node, first node → second node)
    (every : tree.Everywhere first) : tree.Everywhere second :=
  everywhere_of_both (fun node holds _ => weaker node holds) every every

theorem SortedKeys.uniqueKeys (sorted : tree.SortedKeys) : tree.UniqueKeys := by
  refine everywhere_mono ?_ sorted
  intro node ordered
  cases node with
  | object members =>
    apply pairwise_map.mpr
    apply ordered.imp
    intro earlier later below
    exact ne_of_irrefl (r := codePointLt) below
  | _ => trivial

section

variable (le : String → String → Prop) [DecidableRel le]

mutual
/-- Sort the members of every object of the tree by `le` on their keys. -/
def sortMembers : Json ν → Json ν
  | .array items => .array (sortItems items)
  | .object members => .object ((sortEach members).insertionSort fun a b => le a.1 b.1)
  | .null => .null
  | .bool value => .bool value
  | .number value => .number value
  | .string value => .string value

/-- `sortMembers` in every item of an array. -/
def sortItems : List (Json ν) → List (Json ν)
  | [] => []
  | item :: rest => sortMembers item :: sortItems rest

/-- `sortMembers` in the value of every member of an object. -/
def sortEach : List (String × Json ν) → List (String × Json ν)
  | [] => []
  | (key, value) :: rest => (key, sortMembers value) :: sortEach rest
end

theorem sortItems_eq_map (items : List (Json ν)) :
    sortItems le items = items.map (sortMembers le) := by
  induction items with
  | nil => rfl
  | cons item rest ih => simp [sortItems, ih]

theorem sortEach_eq_map (members : List (String × Json ν)) :
    sortEach le members = members.map fun member => (member.1, sortMembers le member.2) := by
  induction members with
  | nil => rfl
  | cons member rest ih => simp [sortEach, ih]

theorem ordered_sortEach {members : List (String × Json ν)} (ordered : Assoc.Ordered codePointLt members) :
    Assoc.Ordered codePointLt (sortEach le members) := by
  rw [sortEach_eq_map]
  exact pairwise_map.mpr ordered

theorem list_eq_of_map_eq {α β : Type} {image : α → β} {left right : List α}
    (separates : ∀ a ∈ left, ∀ b ∈ right, image a = image b → a = b)
    (same : left.map image = right.map image) : left = right := by
  induction left generalizing right with
  | nil => simpa using same.symm
  | cons a left ih =>
    cases right with
    | nil => simp at same
    | cons b right =>
      simp only [map_cons, cons.injEq] at same
      have heads : a = b := separates a (by simp) b (by simp) same.1
      have tails : left = right := by
        refine ih (fun x inLeft y inRight => ?_) same.2
        exact separates x (mem_cons_of_mem _ inLeft) y (mem_cons_of_mem _ inRight)
      rw [heads, tails]

theorem eq_of_sortMembers_eq {left right : Json ν} (leftSorted : left.SortedKeys)
    (rightSorted : right.SortedKeys) (same : sortMembers le left = sortMembers le right) :
    left = right := by
  induction left generalizing right with
  | null | bool _ | number _ | string _ => cases right <;> simp_all [sortMembers]
  | array items ih =>
    cases right <;> simp only [sortMembers, reduceCtorEq, Json.array.injEq] at same
    rw [sortItems_eq_map, sortItems_eq_map] at same
    rw [sortedKeys_array] at leftSorted rightSorted
    refine congrArg Json.array (list_eq_of_map_eq (fun a inLeft b inRight => ?_) same)
    exact ih a inLeft (leftSorted a inLeft) (rightSorted b inRight)
  | object members ih =>
    cases right <;> simp only [sortMembers, reduceCtorEq, Json.object.injEq] at same
    rename_i others
    obtain ⟨ordered, every⟩ := sortedKeys_object.mp leftSorted
    obtain ⟨otherOrdered, otherEvery⟩ := sortedKeys_object.mp rightSorted
    have entries : (sortEach le members).Perm (sortEach le others) := by
      have sorted := perm_insertionSort (fun a b => le a.1 b.1) (sortEach le members)
      rw [same] at sorted
      exact sorted.symm.trans (perm_insertionSort _ _)
    have lists := (ordered_sortEach le ordered).eq_of_perm (ordered_sortEach le otherOrdered)
      entries
    rw [sortEach_eq_map, sortEach_eq_map] at lists
    refine congrArg Json.object (list_eq_of_map_eq (fun a inLeft b inRight agree => ?_) lists)
    obtain ⟨keys, values⟩ := Prod.mk.inj agree
    exact Prod.ext keys (ih a inLeft (every a inLeft) (otherEvery b inRight) values)

end

/-! ## Changing the numbers -/

mutual
/-- Apply a function to every number of the tree. -/
def mapNumbers (image : ν → μ) : Json ν → Json μ
  | .null => .null
  | .bool value => .bool value
  | .number value => .number (image value)
  | .string value => .string value
  | .array items => .array (mapItems image items)
  | .object members => .object (mapMembers image members)

/-- `mapNumbers` in every item of an array. -/
def mapItems (image : ν → μ) : List (Json ν) → List (Json μ)
  | [] => []
  | item :: rest => mapNumbers image item :: mapItems image rest

/-- `mapNumbers` in the value of every member of an object. -/
def mapMembers (image : ν → μ) : List (String × Json ν) → List (String × Json μ)
  | [] => []
  | (key, value) :: rest => (key, mapNumbers image value) :: mapMembers image rest
end

variable (image : ν → μ)

theorem mapItems_eq_map (items : List (Json ν)) :
    mapItems image items = items.map (mapNumbers image) := by
  induction items with
  | nil => rfl
  | cons item rest ih => simp [mapItems, ih]

theorem mapMembers_eq_map (members : List (String × Json ν)) :
    mapMembers image members = members.map fun member => (member.1, mapNumbers image member.2) := by
  induction members with
  | nil => rfl
  | cons member rest ih => simp [mapMembers, ih]

theorem find?_mapMembers (key : String) (members : List (String × Json ν)) :
    find? key (mapMembers image members) =
      (find? key members).map (mapNumbers image) := by
  rw [mapMembers_eq_map]
  exact find?_map_snd (fun _ => mapNumbers image) key members

theorem get_mapNumbers (key : String) (tree : Json ν) :
    (tree.mapNumbers image).get key = (tree.get key).map (mapNumbers image) := by
  cases tree with
  | object members => exact find?_mapMembers image key members
  | _ => rfl

theorem sortedKeys_mapNumbers {image : ν → μ} :
    (tree.mapNumbers image).SortedKeys ↔ tree.SortedKeys := by
  induction tree with
  | null | bool _ | number _ | string _ => simp [mapNumbers]
  | array items ih =>
    rw [mapNumbers, mapItems_eq_map, sortedKeys_array, sortedKeys_array, forall_mem_map]
    exact forall₂_congr ih
  | object members ih =>
    rw [mapNumbers, mapMembers_eq_map, sortedKeys_object, sortedKeys_object]
    refine and_congr pairwise_map ?_
    rw [forall_mem_map]
    exact forall₂_congr ih

theorem erase_mapMembers (key : String) (members : List (String × Json ν)) :
    erase key (mapMembers image members) = mapMembers image (erase key members) := by
  rw [mapMembers_eq_map, mapMembers_eq_map, erase, filter_map]
  rfl

theorem mapNumbers_mapNumbers {ρ : Type} {first : ν → μ} {second : μ → ρ} {both : ν → ρ}
    (agree : tree.Everywhere fun node =>
      ∀ value, node = .number value → second (first value) = both value) :
    (tree.mapNumbers first).mapNumbers second = tree.mapNumbers both := by
  induction tree using inductionOn with
  | null | bool _ | string _ => rfl
  | number value => rw [mapNumbers, mapNumbers, mapNumbers, agree value rfl]
  | array items ih =>
    have every := (everywhere_array.mp agree).2
    simp only [mapNumbers, mapItems_eq_map, map_map, array.injEq]
    exact map_congr_left fun item member => ih item member (every item member)
  | object members ih =>
    have every := (everywhere_object.mp agree).2
    simp only [mapNumbers, mapMembers_eq_map, map_map, object.injEq]
    apply map_congr_left
    intro member held
    rw [Function.comp_apply, ih member held (every member held)]

theorem mapNumbers_injective {image : ν → μ} (injective : Function.Injective image) :
    Function.Injective (mapNumbers image) := by
  intro left
  induction left using inductionOn with
  | null | bool _ | string _ =>
    intro right same
    cases right <;> simp_all [mapNumbers]
  | number value =>
    intro right same
    cases right with
    | number other =>
      rw [mapNumbers, mapNumbers, number.injEq] at same
      rw [injective same]
    | _ => simp [mapNumbers] at same
  | array items ih =>
    intro right same
    cases right with
    | array others =>
      rw [mapNumbers, mapNumbers, array.injEq, mapItems_eq_map, mapItems_eq_map] at same
      rw [list_eq_of_map_eq (fun item held other _ => @ih item held other) same]
    | _ => simp [mapNumbers] at same
  | object members ih =>
    intro right same
    cases right with
    | object others =>
      rw [mapNumbers, mapNumbers, object.injEq, mapMembers_eq_map, mapMembers_eq_map] at same
      rw [list_eq_of_map_eq _ same]
      intro member held other _ alike
      obtain ⟨keys, values⟩ := Prod.mk.inj alike
      exact Prod.ext keys (ih member held values)
    | _ => simp [mapNumbers] at same

/-! ## Changing a member in place -/

@[simp] theorem get_insert_self (value : Json ν) (members : List (String × Json ν)) :
    get key (.object (insert codePointLt key value members)) = some value :=
  find?_insert_self codePointLt key value members

/-- Drop the member under a key; anything but an object is left alone. -/
def removeMember (key : String) : Json ν → Json ν
  | .object members => .object (Assoc.erase key members)
  | other => other

/-- Enter a member into an object; anything else is left alone. -/
def insertMember (key : String) (value : Json ν) : Json ν → Json ν
  | .object members => .object (Assoc.insert codePointLt key value members)
  | other => other

/-- Change the member under a key in place, if there is one. -/
def updateMember (key : String) (change : Json ν → Json ν) : Json ν → Json ν
  | .object members => .object
      (members.map fun member => (member.1, if member.1 = key then change member.2 else member.2))
  | other => other

/-- Change the value at the end of a path of keys, if every key on it is there. -/
def modifyAt : List String → (Json ν → Json ν) → Json ν → Json ν
  | [], change => change
  | key :: path, change => updateMember key (modifyAt path change)

/-- Delete the member at the end of a path of keys, if every key on it is there. -/
def erasePath : List String → Json ν → Json ν
  | [] => id
  | [key] => removeMember key
  | key :: next :: path => updateMember key (erasePath (next :: path))

theorem erasePath_append_singleton (path : List String) (key : String) :
    erasePath (path ++ [key]) = modifyAt path (removeMember (ν := ν) key) := by
  induction path with
  | nil => rfl
  | cons first rest ih =>
    cases rest with
    | nil => rfl
    | cons second rest =>
      rw [modifyAt, ← ih]
      rfl

theorem updateMember_updateMember (first second : Json ν → Json ν) (tree : Json ν) :
    updateMember key second (updateMember key first tree) =
      updateMember key (second ∘ first) tree := by
  cases tree with
  | object members =>
    simp only [updateMember, map_map, Json.object.injEq]
    apply map_congr_left
    intro member _
    by_cases same : member.1 = key <;> simp [same]
  | _ => rfl

theorem modifyAt_modifyAt (path : List String) (first second : Json ν → Json ν) (tree : Json ν) :
    modifyAt path second (modifyAt path first tree) = modifyAt path (second ∘ first) tree := by
  induction path generalizing tree with
  | nil => rfl
  | cons key path ih =>
    rw [modifyAt, modifyAt, updateMember_updateMember]
    congr 1
    funext value
    exact ih value

theorem get_updateMember (other : String) (change : Json ν → Json ν) (tree : Json ν) :
    (tree.updateMember key change).get other =
      (tree.get other).map fun value => if other = key then change value else value := by
  cases tree with
  | object members =>
    exact find?_map_snd (fun candidate value => if candidate = key then change value else value)
      other members
  | _ => rfl

theorem get_updateMember_ne {key other : String} (different : other ≠ key)
    (change : Json ν → Json ν) (tree : Json ν) :
    (tree.updateMember key change).get other = tree.get other := by
  simp [get_updateMember, different]

theorem get_updateMember_self (change : Json ν → Json ν) (tree : Json ν) :
    (tree.updateMember key change).get key = (tree.get key).map change := by
  simp [get_updateMember]

theorem get_removeMember_ne {key other : String} (different : other ≠ key) (tree : Json ν) :
    (tree.removeMember key).get other = tree.get other := by
  cases tree with
  | object members => exact find?_erase_ne different members
  | _ => rfl

theorem updateMember_insert {members : List (String × Json ν)}
    (ordered : Assoc.Ordered codePointLt members) (key : String) (value : Json ν)
    (change : Json ν → Json ν) :
    updateMember key change (.object (insert codePointLt key value members)) =
      .object (insert codePointLt key (change value) members) := by
  rw [updateMember, Json.object.injEq]
  have changed : Assoc.Ordered codePointLt
      ((insert codePointLt key value members).map fun member =>
        (member.1, if member.1 = key then change member.2 else member.2)) :=
    pairwise_map.mpr (ordered.insert key value)
  apply changed.eq_of_mem_iff (ordered.insert key (change value))
  intro entry
  rw [mem_map, ordered.mem_insert_iff]
  constructor
  · rintro ⟨member, held, rfl⟩
    rcases ordered.mem_insert_iff.mp held with rfl | ⟨inside, different⟩
    · simp
    · simp [inside, different]
  · rintro (rfl | ⟨inside, different⟩)
    · exact ⟨(key, value), ordered.mem_insert_iff.mpr (.inl rfl), by simp⟩
    · exact ⟨entry, ordered.mem_insert_iff.mpr (.inr ⟨inside, different⟩), by simp [different]⟩

theorem SortedKeys.removeMember (sorted : tree.SortedKeys) (key : String) :
    (tree.removeMember key).SortedKeys := by
  cases tree with
  | object members => exact sorted.erase key
  | _ => exact sorted

variable {change : Json ν → Json ν}

theorem SortedKeys.updateMember (sorted : tree.SortedKeys) (key : String)
    (keeps : ∀ value, value.SortedKeys → (change value).SortedKeys) :
    (tree.updateMember key change).SortedKeys := by
  cases tree with
  | object members =>
    obtain ⟨ordered, every⟩ := sortedKeys_object.mp sorted
    apply sortedKeys_object.mpr
    constructor
    · exact pairwise_map.mpr ordered
    · rw [forall_mem_map]
      intro member held
      split
      · exact keeps _ (every member held)
      · exact every member held
  | _ => exact sorted

theorem SortedKeys.modifyAt (sorted : tree.SortedKeys) (path : List String)
    (keeps : ∀ value, value.SortedKeys → (change value).SortedKeys) :
    (tree.modifyAt path change).SortedKeys := by
  induction path generalizing tree with
  | nil => exact keeps tree sorted
  | cons key path ih => exact sorted.updateMember key fun value => ih

/-! ## Reading into sorted maps -/

mutual
/-- The value a reader that fills sorted maps holds: members in key order, the last one
of several under one key. -/
def intoMaps : Json ν → Json ν
  | .null => .null
  | .bool value => .bool value
  | .number value => .number value
  | .string value => .string value
  | .array items => .array (itemsIntoMaps items)
  | .object members => .object (membersIntoMap members)

/-- `intoMaps` in every item of an array. -/
def itemsIntoMaps : List (Json ν) → List (Json ν)
  | [] => []
  | item :: rest => intoMaps item :: itemsIntoMaps rest

/-- The sorted map of a list of members. -/
def membersIntoMap : List (String × Json ν) → List (String × Json ν)
  | [] => []
  | (key, value) :: rest =>
    let later := membersIntoMap rest
    if (Assoc.find? key later).isSome then later
    else Assoc.insert codePointLt key (intoMaps value) later
end

mutual
theorem sortedKeys_intoMaps : (tree : Json ν) → tree.intoMaps.SortedKeys
  | .null => trivial
  | .bool _ => trivial
  | .number _ => trivial
  | .string _ => trivial
  | .array items => sortedKeys_array.mpr (sortedKeys_itemsIntoMaps items)
  | .object members => sortedKeys_membersIntoMap members

theorem sortedKeys_itemsIntoMaps : (items : List (Json ν)) →
    ∀ item ∈ itemsIntoMaps items, item.SortedKeys
  | [] => nofun
  | item :: rest => List.forall_mem_cons.mpr
      ⟨sortedKeys_intoMaps item, sortedKeys_itemsIntoMaps rest⟩

theorem sortedKeys_membersIntoMap : (members : List (String × Json ν)) →
    (Json.object (membersIntoMap members)).SortedKeys
  | [] => sortedKeys_object.mpr ⟨List.Pairwise.nil, nofun⟩
  | (key, value) :: rest => by
    have later := sortedKeys_membersIntoMap rest
    rw [membersIntoMap]
    split
    · exact later
    · exact later.insert key (sortedKeys_intoMaps value)
end

/-! ## Everything at a path -/

/-- The property holds of every value at the end of a path of keys. -/
def EveryAt : List String → (Json ν → Prop) → Json ν → Prop
  | [], property, tree => property tree
  | key :: path, property, .object members =>
    ∀ member ∈ members, member.1 = key → EveryAt path property member.2
  | _ :: _, _, _ => True

/-- A decidable property is decidable of every value at a path. -/
def decidableEveryAt (property : Json ν → Prop) [DecidablePred property] :
    (path : List String) → (tree : Json ν) → Decidable (tree.EveryAt path property)
  | [], tree => inferInstanceAs (Decidable (property tree))
  | key :: path, .object members =>
    have := fun member : String × Json ν => decidableEveryAt property path member.2
    inferInstanceAs (Decidable
      (∀ member ∈ members, member.1 = key → member.2.EveryAt path property))
  | _ :: _, .null => isTrue trivial
  | _ :: _, .bool _ => isTrue trivial
  | _ :: _, .number _ => isTrue trivial
  | _ :: _, .string _ => isTrue trivial
  | _ :: _, .array _ => isTrue trivial

instance (property : Json ν → Prop) [DecidablePred property] (path : List String)
    (tree : Json ν) : Decidable (tree.EveryAt path property) :=
  decidableEveryAt property path tree

theorem EveryAt.imp {path : List String} (weaker : ∀ value, first value → second value)
    (every : tree.EveryAt path first) : tree.EveryAt path second := by
  induction path generalizing tree with
  | nil => exact weaker tree every
  | cons key path ih =>
    cases tree with
    | object members => exact fun member held same => ih (every member held same)
    | _ => trivial

theorem everyAt_of_everywhere (every : tree.Everywhere property) (path : List String) :
    tree.EveryAt path (Everywhere property) := by
  induction path generalizing tree with
  | nil => exact every
  | cons key path ih =>
    cases tree with
    | object members =>
      exact fun member held _ => ih ((everywhere_object.mp every).2 member held)
    | _ => trivial

section

variable {property : Json ν → Prop}

variable {change : Json ν → Json ν}

theorem everywhere_updateMember
    (keysOnly : ∀ first second : List (String × Json ν),
      first.map Prod.fst = second.map Prod.fst →
        (property (.object first) ↔ property (.object second))) {key : String}
    {members : List (String × Json ν)}
    (agrees : ∀ member ∈ members, member.1 = key →
      ((change member.2).Everywhere property ↔ member.2.Everywhere property)) :
    (updateMember key change (.object members)).Everywhere property ↔
      (Json.object members).Everywhere property := by
  rw [updateMember, everywhere_object, everywhere_object, forall_mem_map]
  refine and_congr (keysOnly _ _ (by simp)) (forall₂_congr fun member held => ?_)
  by_cases same : member.1 = key
  · simp only [same]
    exact agrees member held same
  · simp [same]

theorem everywhere_modifyAt
    (keysOnly : ∀ first second : List (String × Json ν),
      first.map Prod.fst = second.map Prod.fst →
        (property (.object first) ↔ property (.object second))) {path : List String} {tree : Json ν}
    (agrees : tree.EveryAt path fun value =>
      (change value).Everywhere property ↔ value.Everywhere property) :
    (tree.modifyAt path change).Everywhere property ↔ tree.Everywhere property := by
  induction path generalizing tree with
  | nil => exact agrees
  | cons key path ih =>
    cases tree with
    | object members =>
      exact everywhere_updateMember keysOnly fun member held same =>
        ih (agrees member held same)
    | _ => exact Iff.rfl

end

theorem mapNumbers_removeMember (key : String) (tree : Json ν) :
    (tree.removeMember key).mapNumbers image = (tree.mapNumbers image).removeMember key := by
  cases tree with
  | object members => simp only [removeMember, mapNumbers, erase_mapMembers]
  | _ => rfl

theorem mapNumbers_modifyAt {image : ν → μ} {changed : Json μ → Json μ}
    (commutes : ∀ value, (change value).mapNumbers image = changed (value.mapNumbers image))
    (path : List String) (tree : Json ν) :
    (tree.modifyAt path change).mapNumbers image =
      (tree.mapNumbers image).modifyAt path changed := by
  induction path generalizing tree with
  | nil => exact commutes tree
  | cons key path ih =>
    cases tree with
    | object members =>
      simp only [modifyAt, updateMember, mapNumbers, mapMembers_eq_map, map_map, Json.object.injEq]
      apply map_congr_left
      intro member _
      by_cases same : member.1 = key <;> simp [same, ih]
    | _ => rfl

theorem ordered_membersIntoMap : Assoc.Ordered codePointLt (membersIntoMap members) :=
  (sortedKeys_object.mp (sortedKeys_membersIntoMap members)).1

theorem membersIntoMap_erase :
    membersIntoMap (erase key members) = erase key (membersIntoMap members) := by
  induction members with
  | nil => rfl
  | cons member rest ih =>
    obtain ⟨candidate, _⟩ := member
    by_cases same : candidate = key
    · subst same
      rw [erase_cons_self, ih, membersIntoMap]
      split
      · rfl
      · rw [erase_insert_self]
    · rw [erase_cons_ne same, membersIntoMap, membersIntoMap, ih, find?_erase_ne same]
      split
      · rfl
      · rw [erase_insert_ne (ordered_membersIntoMap rest) same]

theorem intoMaps_removeMember (tree : Json ν) :
    (tree.removeMember key).intoMaps = tree.intoMaps.removeMember key := by
  cases tree with
  | object members => simp only [removeMember, intoMaps, membersIntoMap_erase]
  | _ => rfl

theorem intoMaps_updateMember (commutes : ∀ value, (change value).intoMaps = change value.intoMaps)
    (key : String) (tree : Json ν) :
    (tree.updateMember key change).intoMaps = tree.intoMaps.updateMember key change := by
  cases tree with
  | object members =>
    simp only [updateMember, intoMaps, Json.object.injEq]
    induction members with
    | nil => rfl
    | cons member rest ih =>
      obtain ⟨candidate, value⟩ := member
      let image : String → Json ν → Json ν := fun candidate value =>
        if candidate = key then change value else value
      have commutes' : (image candidate value).intoMaps = image candidate value.intoMaps := by
        by_cases same : candidate = key <;> simp [image, same, commutes]
      simp only [map_cons, membersIntoMap, ih]
      rw [find?_map_snd image, Option.isSome_map]
      split
      · rfl
      · exact commutes' ▸ insert_map_snd codePointLt image candidate _ _
  | _ => rfl

theorem intoMaps_modifyAt (commutes : ∀ value, (change value).intoMaps = change value.intoMaps)
    (path : List String) (tree : Json ν) :
    (tree.modifyAt path change).intoMaps = tree.intoMaps.modifyAt path change := by
  induction path generalizing tree with
  | nil => exact commutes tree
  | cons key path ih => exact intoMaps_updateMember ih key tree

/-! ## Numbers and maps of whole trees -/

theorem depth_mapNumbers (tree : Json ν) : (tree.mapNumbers image).depth = tree.depth := by
  have below : ∀ levels, (tree.mapNumbers image).depth ≤ levels ↔ tree.depth ≤ levels := by
    induction tree with
    | null | bool _ | number _ | string _ => simp [mapNumbers, depth]
    | array items ih =>
      rintro (_ | levels)
      · simp [mapNumbers, depth]
      · rw [mapNumbers, mapItems_eq_map, depth_array_le, depth_array_le, forall_mem_map]
        exact forall₂_congr fun item held => ih item held levels
    | object members ih =>
      rintro (_ | levels)
      · simp [mapNumbers, depth]
      · rw [mapNumbers, mapMembers_eq_map, depth_object_le, depth_object_le, forall_mem_map]
        exact forall₂_congr fun member held => ih member held levels
  exact le_antisymm ((below _).mpr le_rfl) ((below _).mp le_rfl)

theorem everywhere_mapNumbers {image : ν → μ} {property : Json μ → Prop} :
    (tree.mapNumbers image).Everywhere property ↔
      tree.Everywhere fun node => property (node.mapNumbers image) := by
  induction tree with
  | null | bool _ | number _ | string _ => exact Iff.rfl
  | array items ih =>
    rw [everywhere_array, mapNumbers, everywhere_array, mapItems_eq_map, forall_mem_map]
    exact and_congr Iff.rfl (forall₂_congr ih)
  | object members ih =>
    rw [everywhere_object, mapNumbers, everywhere_object, mapMembers_eq_map, forall_mem_map]
    exact and_congr Iff.rfl (forall₂_congr ih)

@[simp] theorem mapNumbers_id (tree : Json ν) : tree.mapNumbers id = tree := by
  induction tree with
  | null | bool _ | number _ | string _ => rfl
  | array items ih =>
    rw [mapNumbers, mapItems_eq_map, map_congr_left ih, map_id']
  | object members ih =>
    have same : ∀ member ∈ members, (member.1, mapNumbers id member.2) = member :=
      fun member held => Prod.ext rfl (ih member held)
    rw [mapNumbers, mapMembers_eq_map, map_congr_left same, map_id']

theorem everywhere_and :
    (tree.Everywhere fun node => first node ∧ second node) ↔
      tree.Everywhere first ∧ tree.Everywhere second := by
  constructor
  · intro every
    exact ⟨everywhere_mono (fun _ both => both.1) every,
      everywhere_mono (fun _ both => both.2) every⟩
  · intro ⟨every, also⟩
    exact everywhere_of_both (fun _ => And.intro) every also

theorem intoMaps_of_sortedKeys (sorted : tree.SortedKeys) : tree.intoMaps = tree := by
  induction tree with
  | null | bool _ | number _ | string _ => rfl
  | array items ih =>
    rw [intoMaps, array.injEq]
    have every := sortedKeys_array.mp sorted
    clear sorted
    induction items with
    | nil => rfl
    | cons item rest ihRest =>
      rw [itemsIntoMaps, ih item mem_cons_self (every item mem_cons_self),
        ihRest (fun item held => ih item (mem_cons_of_mem _ held))
          fun item held => every item (mem_cons_of_mem _ held)]
  | object members ih =>
    rw [intoMaps, object.injEq]
    obtain ⟨ordered, every⟩ := sortedKeys_object.mp sorted
    clear sorted
    induction members with
    | nil => rfl
    | cons member rest ihRest =>
      obtain ⟨key, value⟩ := member
      obtain ⟨below, orderedRest⟩ := pairwise_cons.mp ordered
      have later : membersIntoMap rest = rest :=
        ihRest (fun member held => ih member (mem_cons_of_mem _ held)) orderedRest
          fun member held => every member (mem_cons_of_mem _ held)
      have absent : find? key rest = none := by
        apply find?_eq_none_iff.mpr
        intro member held same
        exact irrefl_of codePointLt key (same ▸ below member held)
      rw [membersIntoMap, later, absent,
        ih (key, value) mem_cons_self (every (key, value) mem_cons_self)]
      cases rest with
      | nil => rfl
      | cons next rest =>
        have smaller := below next mem_cons_self
        have different : next.1 ≠ key := by
          intro same
          exact irrefl_of codePointLt key (same ▸ smaller)
        simp [Assoc.insert, different, smaller]

end Json
