import Mcps.Core.DocumentDomain

/-!
# The JSON crate and its texts

What `serde_json` reads from a text and what it writes for a value, stated through the
document of the text.  How one number is spelled and read is left open as far as it is not
a safe integer.

On the texts the crate writes, the two parsers of the code agree with it: the text of a
value canonicalizes exactly when the value is safe, and the text of a safe value is read
back as that value.
-/

namespace Mcps

open Json

/-! ## Safe values -/

/-- A node that is a safe integer if it is a number. -/
def SafeNumber : Value → Prop
  | .number n => n.Safe
  | _ => True

theorem jcsSafe_iff {value : Value} {levels : Nat} :
    JcsSafe [] levels [] value ↔ value.Everywhere SafeNumber ∧ value.depth ≤ levels := by
  induction value using inductionOn generalizing levels with
  | null | bool _ | string _ => simp [JcsSafe, Json.Everywhere, SafeNumber, depth]
  | number n => simp [JcsSafe, Json.Everywhere, SafeNumber, depth]
  | array items ih =>
    cases levels with
    | zero => simp [JcsSafe, depth]
    | succ levels =>
      rw [jcsSafe_array, everywhere_array, depth_array_le]
      constructor
      · intro safe
        exact ⟨⟨trivial, fun item held => ((ih item held).mp (safe item held)).1⟩,
          fun item held => ((ih item held).mp (safe item held)).2⟩
      · rintro ⟨⟨_, safe⟩, low⟩ item held
        exact (ih item held).mpr ⟨safe item held, low item held⟩
  | object members ih =>
    cases levels with
    | zero => simp [JcsSafe, depth]
    | succ levels =>
      simp only [jcsSafe_object, everywhere_object, depth_object_le,
        List.not_mem_nil, false_or, ite_self]
      constructor
      · intro safe
        exact ⟨⟨trivial, fun member held => ((ih member held).mp (safe member held)).1⟩,
          fun member held => ((ih member held).mp (safe member held)).2⟩
      · rintro ⟨⟨_, safe⟩, low⟩ member held
        exact (ih member held).mpr ⟨safe member held, low member held⟩

/-! ## Reading -/

/-- A node whose number, if it is one, has a representation. -/
def Denotes (numberOf : List Char → Option Number) : Document → Prop
  | .number spelling => (numberOf spelling).isSome
  | _ => True

instance (numberOf : List Char → Option Number) : DecidablePred (Denotes numberOf)
  | .number spelling => inferInstanceAs (Decidable ((numberOf spelling).isSome = true))
  | .null | .bool _ | .string _ | .array _ | .object _ => isTrue trivial

/-- The value a document is read as: every number needs a representation, and of several
members under one key the last one is held. -/
def serdeValue (numberOf : List Char → Option Number) (document : Document) : Option MapValue :=
  if document.Everywhere (Denotes numberOf) then
    some ⟨(document.mapNumbers fun spelling =>
      (numberOf spelling).getD (numberOfInteger 0)).intoMaps, Json.sortedKeys_intoMaps _⟩
  else none

/-- How `serde_json::from_slice` reads a document that does not nest too deeply, given how
it reads the spelling of one number; it reads the spelling of every safe integer. -/
structure SerdeReads [Crates] (numberOf : List Char → Option Number) : Prop where
  reads : ∀ {input : Bytes} {document : Document}, readDocument input = some document →
    document.depth ≤ serdeRecursionLimit →
      Crates.fromSlice input = serdeValue numberOf document
  integers : ∀ {spelling : List Char}, (safeNumber spelling).isSome → (numberOf spelling).isSome

/-! ## Writing -/

/-- How `serde_json` writes a value, given how it spells a number: the text of the value,
with safe integers in decimal and every other number not as one; and reading the decimal
of a safe integer gives that integer. -/
structure SerdeWrites [Crates] (spell : Number → List Char)
    (numberOf : List Char → Option Number) : Prop where
  writes : ∀ {value : MapValue} {bytes : Bytes}, Crates.toVec value.val = some bytes →
    readDocument bytes = some (value.val.mapNumbers spell)
  integers : ∀ {n : Number} {i : Int}, n.integer? = some i → SafeInteger i →
    spell n = writeInteger i
  others : ∀ {n : Number}, ¬ n.Safe → safeNumber (spell n) = none
  inverse : ∀ {i : Int}, SafeInteger i → numberOf (writeInteger i) = some (numberOfInteger i)

section

variable [Crates] {spell : Number → List Char} {numberOf : List Char → Option Number}
  {value : MapValue} {bytes : Bytes}

theorem SerdeWrites.safeNumber_isSome (writes : SerdeWrites spell numberOf) {n : Number} :
    (safeNumber (spell n)).isSome ↔ n.Safe := by
  by_cases safe : n.Safe
  · obtain ⟨i, denotes, inRange⟩ := safe
    rw [writes.integers denotes inRange, safeNumber_writeInteger inRange]
    exact iff_of_true rfl ⟨i, denotes, inRange⟩
  · rw [writes.others safe]
    simp [safe]

theorem SerdeWrites.canonicalize_isOk_iff (writes : SerdeWrites spell numberOf)
    (written : Crates.toVec value.val = some bytes) :
    (∃ canonical, canonicalize bytes = .ok canonical) ↔
      value.val.Everywhere SafeNumber ∧ value.val.depth ≤ maxParseDepth := by
  rw [Mcps.canonicalize_isOk_iff (writes.writes written), depth_mapNumbers, everywhere_mapNumbers]
  refine and_congr ?_ Iff.rfl
  have node : ∀ node : Value, SafeNode (node.mapNumbers spell) ↔
      node.KeysDistinct ∧ SafeNumber node := by
    intro node
    cases node with
    | number n =>
      simp only [Json.KeysDistinct, true_and]
      exact writes.safeNumber_isSome
    | object members =>
      simp only [mapNumbers, SafeNode, SafeNumber, and_true, mapMembers_eq_map, List.map_map]
      exact Iff.rfl
    | _ =>
      simp [mapNumbers, SafeNode, Json.KeysDistinct, SafeNumber]
  simp only [node, everywhere_and]
  exact and_iff_right value.property.uniqueKeys

theorem SerdeWrites.fromSlice_eq (writes : SerdeWrites spell numberOf)
    (reads : SerdeReads numberOf) (written : Crates.toVec value.val = some bytes)
    (safe : value.val.Everywhere SafeNumber)
    (shallow : value.val.depth ≤ serdeRecursionLimit) :
    Crates.fromSlice bytes = some value := by
  have number : ∀ {n : Number}, n.Safe → numberOf (spell n) = some n := by
    rintro n ⟨i, denotes, inRange⟩
    rw [writes.integers denotes inRange, writes.inverse inRange, numberOfInteger_integer? denotes]
  have denotes : (value.val.mapNumbers spell).Everywhere (Denotes numberOf) := by
    rw [everywhere_mapNumbers]
    refine everywhere_mono ?_ safe
    intro node safe
    cases node with
    | number n =>
      change (numberOf (spell n)).isSome
      rw [number safe]
      rfl
    | _ => trivial
  have inverse : value.val.Everywhere fun node =>
      ∀ n, node = .number n → (numberOf (spell n)).getD (numberOfInteger 0) = id n := by
    refine everywhere_mono ?_ safe
    rintro node safe n rfl
    rw [number safe]
    rfl
  rw [reads.reads (writes.writes written) (by rwa [depth_mapNumbers]), serdeValue,
    if_pos denotes, Option.some.injEq]
  apply Subtype.ext
  change intoMaps _ = value.val
  rw [mapNumbers_mapNumbers inverse, mapNumbers_id, intoMaps_of_sortedKeys value.property]

end

end Mcps
