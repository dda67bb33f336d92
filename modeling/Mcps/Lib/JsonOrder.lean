import Mcps.Lib.Json

/-!
# JSON trees up to the order of members

Two trees are the same value if one is the other with the members of its objects in another
order, at every level.  Sorting the members of every object and filling maps with them keep
the value.
-/

namespace Json

open List

variable {ν : Type}

mutual
/-- The trees are equal up to the order of the members of every object. -/
def Reordered : Json ν → Json ν → Prop
  | .null, .null => True
  | .bool left, .bool right => left = right
  | .number left, .number right => left = right
  | .string left, .string right => left = right
  | .array items, .array others => ReorderedItems items others
  | .object members, .object others =>
    ∃ paired, ReorderedMembers members paired ∧ paired.Perm others
  | _, _ => False

/-- The items are equal up to order in pairs. -/
def ReorderedItems : List (Json ν) → List (Json ν) → Prop
  | [], [] => True
  | item :: items, other :: others => Reordered item other ∧ ReorderedItems items others
  | _, _ => False

/-- The members have the same keys, and values that are equal up to order, in pairs. -/
def ReorderedMembers : List (String × Json ν) → List (String × Json ν) → Prop
  | [], [] => True
  | (key, value) :: members, (otherKey, other) :: others =>
    key = otherKey ∧ Reordered value other ∧ ReorderedMembers members others
  | _, _ => False
end

theorem reorderedItems_iff {items others : List (Json ν)} :
    ReorderedItems items others ↔ List.Forall₂ Reordered items others := by
  induction items generalizing others with
  | nil => cases others <;> simp [ReorderedItems]
  | cons item items ih => cases others <;> simp [ReorderedItems, ih]

variable {members : List (String × Json ν)}

theorem reorderedMembers_iff {others : List (String × Json ν)} :
    ReorderedMembers members others ↔
      List.Forall₂ (fun left right => left.1 = right.1 ∧ Reordered left.2 right.2)
        members others := by
  induction members generalizing others with
  | nil => cases others <;> simp [ReorderedMembers]
  | cons member members ih => cases others <;> simp [ReorderedMembers, ih, and_assoc]

variable {left right : Json ν}

/-- Trees that are equal up to order agree in what holds of equal scalars and passes from the
parts to the whole. -/
theorem Reordered.induction {motive : Json ν → Json ν → Prop} (null : motive .null .null)
    (bool : ∀ value, motive (.bool value) (.bool value))
    (number : ∀ value, motive (.number value) (.number value))
    (string : ∀ value, motive (.string value) (.string value))
    (array : ∀ items others, List.Forall₂ (fun item other => Reordered item other ∧
      motive item other) items others → motive (.array items) (.array others))
    (object : ∀ members paired others, List.Forall₂ (fun member other => member.1 = other.1 ∧
      Reordered member.2 other.2 ∧ motive member.2 other.2) members paired →
      paired.Perm others → motive (.object members) (.object others))
    (reordered : Reordered left right) : motive left right := by
  induction left generalizing right with
  | null =>
    cases right with
    | null => exact null
    | _ => exact reordered.elim
  | bool value =>
    cases right with
    | bool other => exact (show value = other from reordered) ▸ bool value
    | _ => exact reordered.elim
  | number value =>
    cases right with
    | number other => exact (show value = other from reordered) ▸ number value
    | _ => exact reordered.elim
  | string value =>
    cases right with
    | string other => exact (show value = other from reordered) ▸ string value
    | _ => exact reordered.elim
  | array items ih =>
    cases right with
    | array others =>
      rw [Reordered, reorderedItems_iff] at reordered
      have pairs := (forall₂_and_left items others).mpr
        ⟨fun item held right => @ih item held right, reordered⟩
      exact array items others (pairs.imp fun item other paired => ⟨paired.2, paired.1 _ paired.2⟩)
    | _ => simp [Reordered] at reordered
  | object members ih =>
    cases right with
    | object others =>
      obtain ⟨paired, reordered, perm⟩ := reordered
      have pairs := (forall₂_and_left members paired).mpr
        ⟨fun member held right => @ih member held right, reorderedMembers_iff.mp reordered⟩
      apply object members paired others _ perm
      apply pairs.imp
      intro member other ⟨holds, keys, reordered⟩
      exact ⟨keys, reordered, holds _ reordered⟩
    | _ => simp [Reordered] at reordered

/-! ## Sorting decides -/

section

variable {α : Type} (le : String → String → Prop)

instance total_byKey [Std.Total le] : Std.Total fun a b : String × α => le a.1 b.1 :=
  ⟨fun a b => Std.Total.total a.1 b.1⟩

instance isTrans_byKey [IsTrans String le] :
    IsTrans (String × α) fun a b => le a.1 b.1 :=
  ⟨fun a b c => IsTrans.trans a.1 b.1 c.1⟩

end

variable {α β : Type}

theorem forall₂_of_map_eq_map {image : α → β} {left right : List α}
    (same : left.map image = right.map image) :
    List.Forall₂ (fun a b => image a = image b) left right := by
  rw [← @List.forall₂_map_left_iff _ _ _ fun c b => c = image b,
    ← @List.forall₂_map_right_iff _ _ _ (· = ·), forall₂_eq_eq_eq]
  exact same

section

variable (le : String → String → Prop) [DecidableRel le]

/-- Trees that agree once their members are sorted differ in the order of members only. -/
theorem reordered_of_sortMembers_eq {left right : Json ν}
    (same : sortMembers le left = sortMembers le right) : Reordered left right := by
  induction left generalizing right with
  | null | bool _ | number _ | string _ => cases right <;> simp_all [sortMembers, Reordered]
  | array items ih =>
    cases right with
    | array others =>
      rw [sortMembers, sortMembers, array.injEq, sortItems_eq_map, sortItems_eq_map] at same
      rw [Reordered, reorderedItems_iff]
      have pairs := (forall₂_and_left items others).mpr
        ⟨fun item held right => @ih item held right, forall₂_of_map_eq_map same⟩
      exact pairs.imp fun item other paired => paired.1 _ paired.2
    | _ => simp [sortMembers] at same
  | object members ih =>
    cases right with
    | object others =>
      rw [sortMembers, sortMembers, object.injEq] at same
      have sorted : (sortEach le members).Perm (sortEach le others) := by
        have perm := perm_insertionSort (fun a b => le a.1 b.1) (sortEach le members)
        rw [same] at perm
        exact perm.symm.trans (perm_insertionSort _ _)
      rw [sortEach_eq_map, sortEach_eq_map] at sorted
      have images : List.Forall₂ (fun image member => image = (member.1, sortMembers le member.2))
          (others.map fun member => (member.1, sortMembers le member.2)) others := by
        rw [forall₂_map_left_iff, forall₂_same]
        exact fun _ _ => rfl
      obtain ⟨paired, pairs, perm⟩ := perm_comp_forall₂ sorted images
      rw [forall₂_map_left_iff] at pairs
      refine ⟨paired, reorderedMembers_iff.mpr ?_, perm⟩
      have both := (forall₂_and_left members paired).mpr
        ⟨fun member held right => @ih member held right, pairs⟩
      apply both.imp
      rintro member other ⟨reorders, image⟩
      obtain ⟨keys, values⟩ := Prod.mk.inj image
      exact ⟨keys, reorders _ values⟩
    | _ => simp [sortMembers] at same

variable [Std.Total le] [IsTrans String le]

theorem sortMembers_sortMembers (tree : Json ν) :
    sortMembers le (sortMembers le tree) = sortMembers le tree := by
  induction tree with
  | null | bool _ | number _ | string _ => rfl
  | array items ih =>
    simp only [sortMembers, sortItems_eq_map, map_map, array.injEq]
    exact map_congr_left ih
  | object members ih =>
    have each : sortEach le (sortEach le members) = sortEach le members := by
      simp only [sortEach_eq_map, map_map]
      apply map_congr_left
      intro member held
      rw [Function.comp_apply, ih member held]
    have moved : sortEach le ((sortEach le members).insertionSort fun a b => le a.1 b.1) =
        (sortEach le (sortEach le members)).insertionSort fun a b => le a.1 b.1 := by
      rw [sortEach_eq_map, sortEach_eq_map le (sortEach le members),
        Assoc.insertionSort_map_snd le (sortMembers le)]
    rw [sortMembers, sortMembers, moved, each,
      (pairwise_insertionSort _ (sortEach le members)).insertionSort_eq]

theorem reordered_sortMembers (tree : Json ν) : Reordered tree (sortMembers le tree) :=
  reordered_of_sortMembers_eq le (sortMembers_sortMembers le tree).symm

end

theorem forall₂_of_forall₂ {γ : Type} {first : α → β → Prop} {second : α → γ → Prop}
    {result : β → γ → Prop} {items : List α} {left : List β} {right : List γ}
    (combine : ∀ item ∈ items, ∀ a b, first item a → second item b → result a b)
    (lefts : List.Forall₂ first items left) (rights : List.Forall₂ second items right) :
    List.Forall₂ result left right := by
  induction lefts generalizing right with
  | nil =>
    cases rights
    exact .nil
  | cons head _ ih =>
    cases rights with
    | cons other others =>
      exact .cons (combine _ (by simp) _ _ head other)
        (ih (fun item member => combine item (by simp [member])) others)

theorem exists_of_mem_forall₂ {relation : α → β → Prop} {left : List α} {right : List β}
    (pairs : List.Forall₂ relation left right) {item : α} (held : item ∈ left) :
    ∃ other ∈ right, relation item other := by
  induction pairs with
  | nil => cases held
  | cons paired _ ih =>
    cases held with
    | head => exact ⟨_, by simp, paired⟩
    | tail _ held =>
      obtain ⟨other, member, paired⟩ := ih held
      exact ⟨other, by simp [member], paired⟩

/-- Pairs together with something that is there for each of them. -/
theorem exists_triples {γ : Type} {relation : α → β → Prop} {also : α → β → γ → Prop}
    {left : List α} {right : List β} (pairs : List.Forall₂ relation left right)
    (each : ∀ item ∈ left, ∀ other, relation item other → ∃ third, also item other third) :
    ∃ triples : List (α × β × γ), left = triples.map Prod.fst ∧
      right = triples.map (·.2.1) ∧
      ∀ triple ∈ triples, relation triple.1 triple.2.1 ∧ also triple.1 triple.2.1 triple.2.2 := by
  induction pairs with
  | nil => exact ⟨[], rfl, rfl, nofun⟩
  | @cons item other _ _ paired _ ih =>
    obtain ⟨third, found⟩ := each item (by simp) other paired
    obtain ⟨triples, rfl, rfl, every⟩ := ih fun item held => each item (by simp [held])
    exact ⟨(item, other, third) :: triples, rfl, rfl,
      forall_mem_cons.mpr ⟨⟨paired, found⟩, every⟩⟩

theorem Reordered.everywhere {property : Json ν → Prop} (arrays : ∀ items, property (.array items))
    (objects : ∀ members, property (.object members)) (reordered : Reordered left right) :
    right.Everywhere property → left.Everywhere property := by
  apply reordered.induction
  · exact id
  · exact fun _ => id
  · exact fun _ => id
  · exact fun _ => id
  · intro items others pairs every
    refine everywhere_array.mpr ⟨arrays items, fun item held => ?_⟩
    obtain ⟨other, member, _, holds⟩ := exists_of_mem_forall₂ pairs held
    exact holds ((everywhere_array.mp every).2 other member)
  · intro members paired others pairs perm every
    refine everywhere_object.mpr ⟨objects members, fun member held => ?_⟩
    obtain ⟨other, inside, _, _, holds⟩ := exists_of_mem_forall₂ pairs held
    exact holds ((everywhere_object.mp every).2 other (perm.mem_iff.mp inside))

theorem Reordered.depth_le (reordered : Reordered left right) :
    ∀ levels, right.depth ≤ levels → left.depth ≤ levels := by
  apply reordered.induction
  · exact fun _ => id
  · exact fun _ _ => id
  · exact fun _ _ => id
  · exact fun _ _ => id
  · intro items others pairs levels low
    cases levels with
    | zero => simp [depth] at low
    | succ levels =>
      apply depth_array_le.mpr
      intro item held
      obtain ⟨other, member, _, lower⟩ := exists_of_mem_forall₂ pairs held
      exact lower levels (depth_array_le.mp low other member)
  · intro members paired others pairs perm levels low
    cases levels with
    | zero => simp [depth] at low
    | succ levels =>
      apply depth_object_le.mpr
      intro member held
      obtain ⟨other, inside, _, _, lower⟩ := exists_of_mem_forall₂ pairs held
      exact lower levels (depth_object_le.mp low other (perm.mem_iff.mp inside))

theorem Reordered.symm (reordered : Reordered left right) : Reordered right left := by
  apply reordered.induction
  · trivial
  · exact fun _ => rfl
  · exact fun _ => rfl
  · exact fun _ => rfl
  · intro items others pairs
    rw [Reordered, reorderedItems_iff]
    exact (pairs.imp fun _ _ paired => paired.2).flip
  · intro members paired others pairs perm
    have flipped : List.Forall₂ (fun other member => other.1 = member.1 ∧
        Reordered other.2 member.2) paired members :=
      (pairs.imp fun _ _ pair => And.intro pair.1.symm pair.2.2).flip
    obtain ⟨matched, pairs, perm⟩ := perm_comp_forall₂ perm.symm flipped
    exact ⟨matched, reorderedMembers_iff.mpr pairs, perm⟩

theorem Reordered.mapNumbers {μ : Type} (image : ν → μ) (reordered : Reordered left right) :
    Reordered (left.mapNumbers image) (right.mapNumbers image) := by
  apply reordered.induction
  · trivial
  · exact fun _ => rfl
  · exact fun _ => rfl
  · exact fun _ => rfl
  · intro items others pairs
    rw [Json.mapNumbers, Json.mapNumbers, mapItems_eq_map, mapItems_eq_map, Reordered,
      reorderedItems_iff, forall₂_map_left_iff, forall₂_map_right_iff]
    exact pairs.imp fun _ _ paired => paired.2
  · intro members paired others pairs perm
    rw [Json.mapNumbers, Json.mapNumbers, mapMembers_eq_map, mapMembers_eq_map]
    refine ⟨_, reorderedMembers_iff.mpr ?_, perm.map _⟩
    rw [forall₂_map_left_iff, forall₂_map_right_iff]
    exact pairs.imp fun _ _ paired => ⟨paired.1, paired.2.2⟩

theorem uniqueKeys_mapNumbers {μ : Type} {image : ν → μ} {tree : Json ν} :
    (tree.mapNumbers image).UniqueKeys ↔ tree.UniqueKeys := by
  have node : ∀ node : Json ν, KeysDistinct (node.mapNumbers image) ↔ KeysDistinct node := by
    intro node
    cases node with
    | object members =>
      rw [Json.mapNumbers, mapMembers_eq_map, KeysDistinct, map_map]
      exact Iff.rfl
    | _ => exact Iff.rfl
  rw [UniqueKeys, everywhere_mapNumbers]
  simp only [node]
  exact Iff.rfl

/-! ## Filling maps -/

theorem itemsIntoMaps_eq_map (items : List (Json ν)) : itemsIntoMaps items = items.map intoMaps := by
  induction items with
  | nil => rfl
  | cons item items ih => rw [itemsIntoMaps, ih, map_cons]

theorem membersIntoMap_perm (distinct : (members.map Prod.fst).Nodup) :
    (membersIntoMap members).Perm (members.map fun member => (member.1, intoMaps member.2)) := by
  induction members with
  | nil => exact .nil
  | cons member members ih =>
    obtain ⟨key, _⟩ := member
    rw [map_cons, nodup_cons] at distinct
    have later := ih distinct.2
    have absent : Assoc.find? key (membersIntoMap members) = none := by
      apply Assoc.find?_eq_none_iff.mpr
      intro entry held same
      obtain ⟨source, inside, rfl⟩ := mem_map.mp (later.mem_iff.mp held)
      exact distinct.1 (mem_map.mpr ⟨source, inside, same⟩)
    rw [membersIntoMap, absent]
    exact (Assoc.insert_perm codePointLt _ absent).trans (later.cons _)

theorem reordered_intoMaps {tree : Json ν} (unique : tree.UniqueKeys) :
    Reordered tree tree.intoMaps := by
  induction tree with
  | null => trivial
  | bool value | number value | string value => exact rfl
  | array items ih =>
    have every := (everywhere_array.mp unique).2
    rw [intoMaps, itemsIntoMaps_eq_map, Reordered, reorderedItems_iff,
      forall₂_map_right_iff, forall₂_same]
    exact fun item held => ih item held (every item held)
  | object members ih =>
    obtain ⟨distinct, every⟩ := everywhere_object.mp unique
    refine ⟨_, reorderedMembers_iff.mpr ?_, (membersIntoMap_perm distinct).symm⟩
    rw [forall₂_map_right_iff, forall₂_same]
    exact fun member held => ⟨rfl, ih member held (every member held)⟩

end Json
