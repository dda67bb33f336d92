import Mathlib.Data.List.Sort
import Mathlib.Order.Defs.Unbundled
import Mathlib.Tactic

/-!
# Association lists kept in key order

A finite map is represented by the list of its entries.  Lookup and erasure need
decidable equality of keys only; insertion places a new entry before the first
larger key.  On lists in strictly increasing key order this is the map a balanced
search tree denotes, with one representative per map, so equality of lists is
equality of maps.
-/

namespace Assoc

open List Option

variable {κ α β : Type}

/-- Entries in strictly increasing key order: no key twice, one list per map. -/
def Ordered (lt : κ → κ → Prop) (entries : List (κ × α)) : Prop :=
  entries.Pairwise fun earlier later => lt earlier.1 later.1

instance (lt : κ → κ → Prop) [DecidableRel lt] (entries : List (κ × α)) :
    Decidable (Ordered lt entries) :=
  inferInstanceAs (Decidable (entries.Pairwise _))

section

variable [DecidableEq κ]

/-- The value of the first entry under `key`. -/
def find? (key : κ) : List (κ × α) → Option α
  | [] => none
  | (candidate, value) :: rest => if candidate = key then some value else find? key rest

/-- Drop every entry under `key`. -/
def erase (key : κ) (entries : List (κ × α)) : List (κ × α) :=
  entries.filter fun entry => entry.1 ≠ key

@[simp] theorem find?_nil (key : κ) : find? key ([] : List (κ × α)) = none := rfl

@[simp] theorem find?_cons_self (key : κ) (value : α) (rest : List (κ × α)) :
    find? key ((key, value) :: rest) = some value := by
  simp [find?]

variable {key : κ}

theorem find?_cons_ne {candidate : κ} (different : candidate ≠ key) (value : α)
    (rest : List (κ × α)) : find? key ((candidate, value) :: rest) = find? key rest := by
  simp [find?, different]

theorem find?_append (key : κ) (left right : List (κ × α)) :
    find? key (left ++ right) = (find? key left).or (find? key right) := by
  fun_induction find? key left with
  | case1 => rfl
  | case2 => simp
  | case3 _ _ _ different ih => rw [cons_append, find?_cons_ne different, ih]

variable {value : α} {entries : List (κ × α)}

theorem mem_of_find? (found : find? key entries = some value) : (key, value) ∈ entries := by
  fun_induction find? key entries with
  | case1 => cases found
  | case2 =>
    cases found
    exact mem_cons_self
  | case3 _ _ _ _ ih => exact mem_cons_of_mem _ (ih found)

theorem find?_of_mem (unique : entries.Pairwise fun earlier later => earlier.1 ≠ later.1)
    (member : (key, value) ∈ entries) : find? key entries = some value := by
  induction entries with
  | nil => simp at member
  | cons entry rest ih =>
    obtain ⟨different, unique⟩ := pairwise_cons.mp unique
    rcases mem_cons.mp member with rfl | inRest
    · exact find?_cons_self key value rest
    · rw [find?_cons_ne (different _ inRest), ih unique inRest]

theorem find?_eq_none_iff : find? key entries = none ↔ ∀ entry ∈ entries, entry.1 ≠ key := by
  induction entries with
  | nil => simp
  | cons entry rest ih =>
    obtain ⟨candidate, _⟩ := entry
    by_cases same : candidate = key <;> simp [find?, same, ih]

variable {keep : κ × α → Bool}

theorem find?_filter (found : find? key entries = some value) (kept : keep (key, value) = true) :
    find? key (entries.filter keep) = some value := by
  fun_induction find? key entries with
  | case1 => cases found
  | case2 =>
    cases found
    simp [kept]
  | case3 candidate held _ different ih =>
    cases kept : keep (candidate, held) with
    | false => simpa [kept] using ih found
    | true => simpa [kept, find?_cons_ne different] using ih found

theorem find?_filter_eq {key : κ} {entries : List (κ × α)} {keep : κ × α → Bool}
    (unique : entries.Pairwise fun earlier later => earlier.1 ≠ later.1) :
    find? key (entries.filter keep) = (find? key entries).filter fun value => keep (key, value) := by
  cases found : find? key entries with
  | none =>
    apply find?_eq_none_iff.mpr
    intro entry member
    exact find?_eq_none_iff.mp found entry (mem_of_mem_filter member)
  | some value =>
    cases kept : keep (key, value) with
    | true => simp [find?_filter found kept, Option.filter, kept]
    | false =>
      rw [filter_some_neg (by simp [kept])]
      apply find?_eq_none_iff.mpr
      rintro ⟨_, _⟩ member rfl
      obtain ⟨isHeld, isKept⟩ := mem_filter.mp member
      rw [find?_of_mem unique isHeld, some.injEq] at found
      rw [found, kept] at isKept
      cases isKept

@[simp] theorem erase_cons_self (key : κ) (value : α) (rest : List (κ × α)) :
    erase key ((key, value) :: rest) = erase key rest := by
  simp [erase]

theorem erase_cons_ne {candidate : κ} (different : candidate ≠ key) (value : α)
    (rest : List (κ × α)) :
    erase key ((candidate, value) :: rest) = (candidate, value) :: erase key rest := by
  simp [erase, different]

@[simp] theorem find?_erase_self (key : κ) (entries : List (κ × α)) :
    find? key (erase key entries) = none := by
  simp [find?_eq_none_iff, erase]

theorem find?_erase_ne {other : κ} (different : other ≠ key) (entries : List (κ × α)) :
    find? other (erase key entries) = find? other entries := by
  fun_induction find? other entries with
  | case1 => rfl
  | case2 => rw [erase_cons_ne different, find?_cons_self]
  | case3 candidate _ _ isOther ih =>
    by_cases same : candidate = key
    · rw [same, erase_cons_self, ih]
    · rw [erase_cons_ne same, find?_cons_ne isOther, ih]

theorem erase_of_find?_none (absent : find? key entries = none) : erase key entries = entries := by
  simpa [erase] using find?_eq_none_iff.mp absent

theorem mem_erase {entry : κ × α} :
    entry ∈ erase key entries ↔ entry ∈ entries ∧ entry.1 ≠ key := by
  simp [erase]

theorem countP_eq_erase_add (distinct : entries.Pairwise fun earlier later => earlier.1 ≠ later.1)
    (key : κ) (counts : κ × α → Bool) :
    entries.countP counts = (erase key entries).countP counts +
      ((find? key entries).any fun value => counts (key, value)).toNat := by
  induction entries with
  | nil => rfl
  | cons entry rest ih =>
    obtain ⟨candidate, held⟩ := entry
    obtain ⟨first, others⟩ := pairwise_cons.mp distinct
    by_cases same : candidate = key
    · subst same
      have absent : find? candidate rest = none := by
        apply find?_eq_none_iff.mpr
        exact fun later member => (first later member).symm
      rw [erase_cons_self, erase_of_find?_none absent, find?_cons_self, countP_cons, any_some]
      cases counts (candidate, held) <;> rfl
    · rw [erase_cons_ne same, find?_cons_ne same, countP_cons, countP_cons, ih others]
      omega

end

section

variable [DecidableEq κ] (lt : κ → κ → Prop) [DecidableRel lt]

/-- Put `value` under `key`: replace the entry already there, or place a new one
before the first larger key. -/
def insert (key : κ) (value : α) : List (κ × α) → List (κ × α)
  | [] => [(key, value)]
  | (candidate, held) :: rest =>
    if candidate = key then (key, value) :: rest
    else if lt key candidate then (key, value) :: (candidate, held) :: rest
    else (candidate, held) :: insert key value rest

@[simp] theorem find?_insert_self (key : κ) (value : α) (entries : List (κ × α)) :
    find? key (insert lt key value entries) = some value := by
  fun_induction insert lt key value entries with
  | case1 | case2 | case3 => exact find?_cons_self ..
  | case4 _ _ _ different _ ih => rw [find?_cons_ne different, ih]

theorem find?_insert_ne {key other : κ} (different : other ≠ key) (value : α)
    (entries : List (κ × α)) :
    find? other (insert lt key value entries) = find? other entries := by
  fun_induction insert lt key value entries with
  | case1 | case2 | case3 => simp [find?, Ne.symm different]
  | case4 _ _ _ _ _ ih => simp only [find?, ih]

@[simp] theorem erase_insert_self (key : κ) (value : α) (entries : List (κ × α)) :
    erase key (insert lt key value entries) = erase key entries := by
  fun_induction insert lt key value entries with
  | case1 | case2 | case3 => simp
  | case4 _ _ _ different _ ih => rw [erase_cons_ne different, erase_cons_ne different, ih]

@[simp] theorem insert_insert (key : κ) (first second : α) (entries : List (κ × α)) :
    insert lt key second (insert lt key first entries) = insert lt key second entries := by
  fun_induction insert lt key first entries with
  | case1 | case2 => simp [insert]
  | case3 _ _ _ different smaller => simp [insert, different, smaller]
  | case4 _ _ _ different larger ih => simp [insert, different, larger, ih]

theorem insert_perm {key : κ} (value : α) {entries : List (κ × α)}
    (absent : find? key entries = none) :
    (insert lt key value entries).Perm ((key, value) :: entries) := by
  induction entries with
  | nil => exact .refl _
  | cons entry rest ih =>
    obtain ⟨candidate, held⟩ := entry
    have others := find?_eq_none_iff.mp absent
    have different : candidate ≠ key := others (candidate, held) (by simp)
    rw [insert, if_neg different]
    split
    · exact .refl _
    · have later := ih (find?_eq_none_iff.mpr fun entry member => others entry (by simp [member]))
      exact (later.cons _).trans (.swap _ _ _)

theorem mem_insert {key : κ} {value : α} {entry : κ × α} {entries : List (κ × α)}
    (member : entry ∈ insert lt key value entries) :
    entry = (key, value) ∨ entry ∈ entries := by
  fun_induction insert lt key value entries with
  | case1 => exact .inl (mem_singleton.mp member)
  | case2 => exact (mem_cons.mp member).imp_right (mem_cons_of_mem _)
  | case3 => exact mem_cons.mp member
  | case4 _ _ _ _ _ ih =>
    rcases mem_cons.mp member with rfl | inRest
    · exact .inr mem_cons_self
    · exact (ih inRest).imp_right (mem_cons_of_mem _)

end

/-! ## Ordered lists -/

/-- Keys that are pairs are ordered by the first part, then by the second. -/
instance lexOrder {left : κ → κ → Prop} {right : α → α → Prop} [IsStrictTotalOrder κ left]
    [IsStrictTotalOrder α right] : IsStrictTotalOrder (κ × α) (Prod.Lex left right) where
  trichotomous first second notBefore notAfter := by
    simp only [Prod.lex_iff, not_or, not_and] at notBefore notAfter
    have same : first.1 = second.1 := by
      rcases trichotomous_of left first.1 second.1 with below | same | above
      · exact absurd below notBefore.1
      · exact same
      · exact absurd above notAfter.1
    rcases trichotomous_of right first.2 second.2 with below | equal | above
    · exact absurd below (notBefore.2 same)
    · exact Prod.ext same equal
    · exact absurd above (notAfter.2 same.symm)
  irrefl pair below := by
    rcases Prod.lex_iff.mp below with below | ⟨_, below⟩
    · exact irrefl_of left _ below
    · exact irrefl_of right _ below
  trans first second third below above := by
    rw [Prod.lex_iff] at below above ⊢
    rcases below with below | ⟨same, below⟩
    · rcases above with above | ⟨same, _⟩
      · exact .inl (trans_of left below above)
      · exact .inl (same ▸ below)
    · rcases above with above | ⟨equal, above⟩
      · exact .inl (same ▸ above)
      · exact .inr ⟨same.trans equal, trans_of right below above⟩

section

variable [DecidableEq κ] {lt : κ → κ → Prop}

variable {entries : List (κ × α)}

theorem Ordered.erase (ordered : Ordered lt entries) (key : κ) :
    Ordered lt (Assoc.erase key entries) :=
  ordered.filter _

variable [DecidableRel lt] [IsStrictTotalOrder κ lt]

theorem Ordered.insert (ordered : Ordered lt entries) (key : κ) (value : α) :
    Ordered lt (Assoc.insert lt key value entries) := by
  fun_induction Assoc.insert lt key value entries with
  | case1 => exact pairwise_singleton _ _
  | case2 => exact pairwise_cons.mpr (pairwise_cons.mp ordered)
  | case3 candidate _ _ _ smaller =>
    refine pairwise_cons.mpr ⟨?_, ordered⟩
    intro later member
    rcases mem_cons.mp member with rfl | inRest
    · exact smaller
    · exact trans_of lt smaller (rel_of_pairwise_cons ordered inRest)
  | case4 candidate _ _ different larger ih =>
    obtain ⟨below, ordered⟩ := pairwise_cons.mp ordered
    refine pairwise_cons.mpr ⟨?_, ih ordered⟩
    intro later member
    rcases mem_insert lt member with rfl | inRest
    · rcases trichotomous_of lt candidate key with smaller | equal | smaller
      · exact smaller
      · exact absurd equal different
      · exact absurd smaller larger
    · exact below later inRest

variable {key : κ} {value : α}

omit [DecidableRel lt] in
theorem Ordered.find?_of_mem (ordered : Ordered lt entries) (member : (key, value) ∈ entries) :
    find? key entries = some value :=
  Assoc.find?_of_mem (ordered.imp ne_of_irrefl) member

theorem insert_of_find? (ordered : Ordered lt entries) (found : find? key entries = some value) :
    Assoc.insert lt key value entries = entries := by
  fun_induction Assoc.insert lt key value entries with
  | case1 => cases found
  | case2 =>
    rw [find?_cons_self] at found
    cases found
    rfl
  | case3 _ _ _ different smaller =>
    rw [find?_cons_ne different] at found
    exact absurd (rel_of_pairwise_cons ordered (mem_of_find? found)) (asymm_of lt smaller)
  | case4 _ _ _ different _ ih =>
    rw [find?_cons_ne different] at found
    rw [ih ordered.of_cons found]

theorem insert_erase (ordered : Ordered lt entries) (found : find? key entries = some value) :
    Assoc.insert lt key value (Assoc.erase key entries) = entries := by
  induction entries with
  | nil => simp at found
  | cons entry rest ih =>
    obtain ⟨candidate, _⟩ := entry
    obtain ⟨below, ordered⟩ := pairwise_cons.mp ordered
    by_cases same : candidate = key
    · subst same
      simp only [find?_cons_self, some.injEq] at found
      have absent : find? candidate rest = none := by
        apply find?_eq_none_iff.mpr
        intro later member
        exact (ne_of_irrefl (below later member)).symm
      rw [erase_cons_self, erase_of_find?_none absent, found]
      cases rest with
      | nil => rfl
      | cons next rest =>
        have smaller : lt candidate next.1 := below next (by simp)
        rw [Assoc.insert, if_neg (ne_of_irrefl smaller).symm, if_pos smaller]
    · rw [find?_cons_ne same] at found
      have larger : lt candidate key := below _ (mem_of_find? found)
      rw [erase_cons_ne same, Assoc.insert, if_neg same, if_neg (asymm_of lt larger),
        ih ordered found]

theorem Ordered.mem_insert_iff (ordered : Ordered lt entries) {entry : κ × α} :
    entry ∈ Assoc.insert lt key value entries ↔
      entry = (key, value) ∨ entry ∈ entries ∧ entry.1 ≠ key := by
  induction entries with
  | nil => simp [Assoc.insert]
  | cons head rest ih =>
    obtain ⟨candidate, _⟩ := head
    obtain ⟨below, ordered⟩ := pairwise_cons.mp ordered
    by_cases same : candidate = key
    · subst same
      have others : ∀ later ∈ rest, later.1 ≠ candidate :=
        fun later member => (ne_of_irrefl (below later member)).symm
      simp only [Assoc.insert]
      grind
    · by_cases smaller : lt key candidate
      · have others : ∀ later ∈ rest, later.1 ≠ key :=
          fun later member =>
            (ne_of_irrefl (trans_of lt smaller (below later member))).symm
        simp only [Assoc.insert]
        grind
      · simp only [Assoc.insert, same, ↓reduceIte, smaller, mem_cons, ih ordered]
        grind

variable {left right : List (κ × α)}

omit [DecidableEq κ] [DecidableRel lt] in
theorem Ordered.eq_of_perm (orderedLeft : Ordered lt left) (orderedRight : Ordered lt right)
    (same : left.Perm right) : left = right := by
  apply same.eq_of_pairwise ?_ orderedLeft orderedRight
  intro first second _ _ below above
  exact absurd above (asymm_of lt below)

omit [DecidableEq κ] [DecidableRel lt] in
theorem Ordered.eq_of_mem_iff (orderedLeft : Ordered lt left) (orderedRight : Ordered lt right)
    (same : ∀ entry, entry ∈ left ↔ entry ∈ right) : left = right := by
  have nodup : ∀ {entries : List (κ × α)}, Ordered lt entries → entries.Nodup := by
    intro entries ordered
    apply List.Pairwise.imp ?_ ordered
    rintro first second below rfl
    exact irrefl_of lt first.1 below
  apply orderedLeft.eq_of_perm orderedRight
  exact (perm_ext_iff_of_nodup (nodup orderedLeft) (nodup orderedRight)).mpr same

theorem erase_insert_ne (ordered : Ordered lt entries) {other : κ} (different : key ≠ other)
    (value : α) :
    Assoc.erase other (Assoc.insert lt key value entries) =
      Assoc.insert lt key value (Assoc.erase other entries) := by
  apply ((ordered.insert key value).erase other).eq_of_mem_iff
    ((ordered.erase other).insert key value)
  intro entry
  rw [mem_erase, ordered.mem_insert_iff, (ordered.erase other).mem_insert_iff, mem_erase]
  grind

end

section

variable [DecidableEq κ]

theorem find?_map_snd {β : Type} (image : κ → α → β) (key : κ) (entries : List (κ × α)) :
    find? key (entries.map fun entry => (entry.1, image entry.1 entry.2)) =
      (find? key entries).map (image key) := by
  fun_induction find? key entries with
  | case1 => rfl
  | case2 => simp
  | case3 _ _ _ different ih => rw [map_cons, find?_cons_ne different, ih]

theorem insert_map_snd (lt : κ → κ → Prop) [DecidableRel lt] (image : κ → α → α) (key : κ)
    (value : α) (entries : List (κ × α)) :
    insert lt key (image key value) (entries.map fun entry => (entry.1, image entry.1 entry.2)) =
      (insert lt key value entries).map fun entry => (entry.1, image entry.1 entry.2) := by
  fun_induction insert lt key value entries with
  | case1 | case2 => simp [insert]
  | case3 _ _ _ different smaller => simp [insert, different, smaller]
  | case4 _ _ _ different larger ih => simp [insert, different, larger, ih]

end

theorem insertionSort_map_snd (le : κ → κ → Prop) [DecidableRel le] (image : α → β)
    (entries : List (κ × α)) :
    (entries.map fun entry => (entry.1, image entry.2)).insertionSort (fun a b => le a.1 b.1) =
      (entries.insertionSort fun a b => le a.1 b.1).map
        fun entry => (entry.1, image entry.2) := by
  symm
  apply map_insertionSort
  intro first _ second _
  exact Iff.rfl

/-! ## Sorted maps -/

/-- A finite map as its entries in key order. -/
abbrev SortedMap (lt : κ → κ → Prop) (α : Type) :=
  { entries : List (κ × α) // Ordered lt entries }

namespace SortedMap

variable {lt : κ → κ → Prop}

def empty : SortedMap lt α := ⟨[], List.Pairwise.nil⟩

def size (map : SortedMap lt α) : Nat := map.val.length

/-- Keep the entries that satisfy a condition. -/
def retain (keep : κ × α → Bool) (map : SortedMap lt α) : SortedMap lt α :=
  ⟨map.val.filter keep, map.property.filter keep⟩

variable [DecidableEq κ]

def get? (map : SortedMap lt α) (key : κ) : Option α := find? key map.val

def remove (map : SortedMap lt α) (key : κ) : SortedMap lt α :=
  ⟨Assoc.erase key map.val, map.property.erase key⟩

variable {map : SortedMap lt α} {key other : κ} {value : α}

@[simp] theorem get?_empty : (empty : SortedMap lt α).get? key = none := rfl

theorem get?_remove_ne (different : other ≠ key) : (map.remove key).get? other = map.get? other :=
  find?_erase_ne different _

theorem get?_remove_eq_some :
    (map.remove key).get? other = some value ↔ other ≠ key ∧ map.get? other = some value := by
  by_cases same : other = key
  · subst same
    have gone : (map.remove other).get? other = none := find?_erase_self other _
    simp [gone]
  · rw [get?_remove_ne same]
    simp [same]

variable [DecidableRel lt] [IsStrictTotalOrder κ lt]

def insert (map : SortedMap lt α) (key : κ) (value : α) : SortedMap lt α :=
  ⟨Assoc.insert lt key value map.val, map.property.insert key value⟩

@[simp] theorem get?_insert_self : (map.insert key value).get? key = some value :=
  find?_insert_self _ _ _ _

theorem get?_insert_ne (different : other ≠ key) :
    (map.insert key value).get? other = map.get? other :=
  find?_insert_ne _ different _ _

omit [DecidableRel lt] in
theorem get?_retain {keep : κ × α → Bool} :
    (map.retain keep).get? key = (map.get? key).filter fun value => keep (key, value) :=
  find?_filter_eq (map.property.imp ne_of_irrefl)

end SortedMap

end Assoc
