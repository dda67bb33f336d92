import Mcps.Core.CanonicalRoundTrip

/-!
# The values that canonicalize

A value canonicalizes exactly when its numbers are safe integers and its containers are
nested no deeper than the limit.  `JcsSafe` states this of a tree with room for some
levels.  It can leave members aside: those of the tree's own object under the keys
`ignored`, and those of every `_meta` object below it under the keys `owned`.
-/

namespace Mcps

/-- A number that is a safe integer. -/
def Number.Safe (n : Number) : Prop := ∃ i ∈ n.integer?, SafeInteger i

instance (n : Number) : Decidable n.Safe :=
  inferInstanceAs (Decidable (∃ i ∈ n.integer?, SafeInteger i))

mutual
/-- The numbers of a tree are safe integers and its containers nest at most `levels` deep,
apart from the members that are left aside. -/
def JcsSafe (owned : List String) : Nat → List String → Value → Prop
  | _, _, .null => True
  | _, _, .bool _ => True
  | _, _, .number n => n.Safe
  | _, _, .string _ => True
  | levels, _, .array items => 0 < levels ∧ JcsSafeItems owned (levels - 1) items
  | levels, ignored, .object members =>
    0 < levels ∧ JcsSafeMembers owned (levels - 1) ignored members

/-- Every item of an array. -/
def JcsSafeItems (owned : List String) : Nat → List Value → Prop
  | _, [] => True
  | levels, item :: rest => JcsSafe owned levels [] item ∧ JcsSafeItems owned levels rest

/-- Every member of an object that is not left aside. -/
def JcsSafeMembers (owned : List String) : Nat → List String → List (String × Value) → Prop
  | _, _, [] => True
  | levels, ignored, (key, value) :: rest =>
    (key ∈ ignored ∨ JcsSafe owned levels (if key = "_meta" then owned else []) value) ∧
      JcsSafeMembers owned levels ignored rest
end

variable {owned : List String} {levels : Nat} {items : List Value}

theorem jcsSafeItems_iff :
    JcsSafeItems owned levels items ↔ ∀ item ∈ items, JcsSafe owned levels [] item := by
  induction items with
  | nil => simp [JcsSafeItems]
  | cons item rest ih => simp [JcsSafeItems, ih]

variable {ignored : List String} {members : List (String × Value)}

theorem jcsSafeMembers_iff :
    JcsSafeMembers owned levels ignored members ↔ ∀ member ∈ members,
      member.1 ∈ ignored ∨
        JcsSafe owned levels (if member.1 = "_meta" then owned else []) member.2 := by
  induction members with
  | nil => simp [JcsSafeMembers]
  | cons member rest ih => simp [JcsSafeMembers, ih]

@[simp] theorem jcsSafe_string (owned ignored : List String) (levels : Nat) (text : String) :
    JcsSafe owned levels ignored (.string text) := by
  trivial

theorem jcsSafe_array :
    JcsSafe owned (levels + 1) ignored (.array items) ↔
      ∀ item ∈ items, JcsSafe owned levels [] item := by
  simp [JcsSafe, jcsSafeItems_iff]

theorem jcsSafe_object :
    JcsSafe owned (levels + 1) ignored (.object members) ↔ ∀ member ∈ members,
      member.1 ∈ ignored ∨
        JcsSafe owned levels (if member.1 = "_meta" then owned else []) member.2 := by
  simp [JcsSafe, jcsSafeMembers_iff]

/-! ## Converting -/

theorem integerOfNumber_isOk_iff {n : Number} :
    (∃ i, integerOfNumber n = .ok i) ↔ n.Safe := by
  simp only [integerOfNumber_eq_ok, Number.Safe, Option.mem_def]

mutual
theorem jcsSafe_of_fromSerdeValueAt {value : Value} {depth : Nat} {jcs : JcsValue}
    (converted : fromSerdeValueAt value depth = .ok jcs) :
    JcsSafe [] (maxParseDepth - depth) [] value := by
  cases value with
  | null | bool _ | string _ => simp [JcsSafe]
  | number n =>
    obtain ⟨i, read, _⟩ := Except.bind_eq_ok.mp converted
    exact integerOfNumber_isOk_iff.mp ⟨i, read⟩
  | array items =>
    obtain ⟨room, converted⟩ := Except.guard_eq_ok.mp converted
    obtain ⟨parts, converted, _⟩ := Except.bind_eq_ok.mp converted
    rw [JcsSafe]
    exact ⟨by omega, jcsSafe_of_fromSerdeItems converted⟩
  | object members =>
    obtain ⟨room, converted⟩ := Except.guard_eq_ok.mp converted
    obtain ⟨parts, converted, _⟩ := Except.bind_eq_ok.mp converted
    rw [JcsSafe]
    exact ⟨by omega, jcsSafe_of_fromSerdeMembers converted⟩

theorem jcsSafe_of_fromSerdeItems {items : List Value} {depth : Nat} {parts : List JcsValue}
    (converted : fromSerdeItems items depth = .ok parts) :
    JcsSafeItems [] (maxParseDepth - depth) items := by
  cases items with
  | nil => trivial
  | cons item rest =>
    obtain ⟨part, first, converted⟩ := Except.bind_eq_ok.mp converted
    obtain ⟨parts, others, _⟩ := Except.bind_eq_ok.mp converted
    exact ⟨jcsSafe_of_fromSerdeValueAt first, jcsSafe_of_fromSerdeItems others⟩

theorem jcsSafe_of_fromSerdeMembers {members : List (String × Value)} {depth : Nat}
    {parts : List (String × JcsValue)} (converted : fromSerdeMembers members depth = .ok parts) :
    JcsSafeMembers [] (maxParseDepth - depth) [] members := by
  cases members with
  | nil => trivial
  | cons member rest =>
    obtain ⟨key, value⟩ := member
    obtain ⟨part, first, converted⟩ := Except.bind_eq_ok.mp converted
    obtain ⟨parts, others, _⟩ := Except.bind_eq_ok.mp converted
    refine ⟨.inr ?_, jcsSafe_of_fromSerdeMembers others⟩
    rw [ite_self]
    exact jcsSafe_of_fromSerdeValueAt first
end

/-! ## Writing -/

theorem hasAdjacentDuplicate_of_nodup {α : Type} {entries : List (String × α)}
    (distinct : (entries.map Prod.fst).Nodup) : hasAdjacentDuplicate entries = false := by
  induction entries with
  | nil => rfl
  | cons first rest ih =>
    cases rest with
    | nil => rfl
    | cons second rest =>
      rw [List.map_cons, List.nodup_cons] at distinct
      have different : first.1 ≠ second.1 := by
        intro same
        apply distinct.1
        simp [same]
      simp [hasAdjacentDuplicate, different, ih distinct.2]

variable {depth : Nat}

theorem writeValue_array {items : List JcsValue} {texts : List (List Char)}
    (room : depth < maxParseDepth) (written : writeItems items (depth + 1) = .ok texts) :
    writeValue (.array items) depth = .ok ('[' :: (commaSeparated texts ++ [']'])) := by
  rw [writeValue, if_neg room.not_ge, written]
  rfl

theorem writeValue_object {members : List (String × JcsValue)} {texts : List (String × List Char)}
    (room : depth < maxParseDepth) (written : writeMembers members (depth + 1) = .ok texts)
    (distinct : (texts.map Prod.fst).Nodup) :
    writeValue (.object members) depth = .ok ('{' :: (commaSeparated
      ((texts.insertionSort fun a b => leUtf16 a.1 b.1).map writeMember) ++ ['}'])) := by
  have sortedDistinct :
      ((texts.insertionSort fun a b => leUtf16 a.1 b.1).map Prod.fst).Nodup :=
    ((List.perm_insertionSort _ texts).map Prod.fst).nodup_iff.mpr distinct
  rw [writeValue, if_neg room.not_ge, written]
  simp only [Except.bind_ok, hasAdjacentDuplicate_of_nodup sortedDistinct]
  rfl

/-- A value found at a depth converts there, and what it converts to can be written. -/
def Writes (value : Value) (depth : Nat) : Prop :=
  ∃ jcs text, fromSerdeValueAt value depth = .ok jcs ∧ writeValue jcs depth = .ok text

theorem writes_items (every : ∀ item ∈ items, Writes item depth) :
    ∃ parts texts, fromSerdeItems items depth = .ok parts ∧ writeItems parts depth = .ok texts := by
  induction items with
  | nil => exact ⟨[], [], rfl, rfl⟩
  | cons item rest ih =>
    obtain ⟨part, text, converted, written⟩ := every item (by simp)
    rcases ih fun item member => every item (by simp [member]) with
      ⟨parts, texts, othersConverted, othersWritten⟩
    refine ⟨part :: parts, text :: texts, ?_, ?_⟩
    · simp [fromSerdeItems, converted, othersConverted]
    · simp [writeItems, written, othersWritten]

theorem writes_members (every : ∀ member ∈ members, Writes member.2 depth) :
    ∃ parts texts, fromSerdeMembers members depth = .ok parts ∧
      writeMembers parts depth = .ok texts ∧ texts.map Prod.fst = members.map Prod.fst := by
  induction members with
  | nil => exact ⟨[], [], rfl, rfl, rfl⟩
  | cons member rest ih =>
    obtain ⟨key, value⟩ := member
    rcases every (key, value) (by simp) with ⟨part, text, converted, written⟩
    rcases ih fun member held => every member (by simp [held]) with
      ⟨parts, texts, othersConverted, othersWritten, keys⟩
    refine ⟨(key, part) :: parts, (key, text) :: texts, ?_, ?_, ?_⟩
    · simp [fromSerdeMembers, converted, othersConverted]
    · simp [writeMembers, written, othersWritten]
    · simp [keys]

theorem writes_of_jcsSafe {value : Value} (unique : value.UniqueKeys)
    (safe : JcsSafe [] (maxParseDepth - depth) [] value) : Writes value depth := by
  induction value using Json.inductionOn generalizing depth with
  | null => exact ⟨.null, _, rfl, rfl⟩
  | bool b => cases b <;> exact ⟨_, _, rfl, rfl⟩
  | string s => exact ⟨.string s, _, rfl, rfl⟩
  | number n =>
    obtain ⟨i, read⟩ := integerOfNumber_isOk_iff.mpr safe
    exact ⟨.number i, writeInteger i, by simp [fromSerdeValueAt, read], rfl⟩
  | array items ih =>
    rw [JcsSafe, jcsSafeItems_iff] at safe
    have uniques := (Json.everywhere_array.mp unique).2
    have room : depth < maxParseDepth := by omega
    have every : ∀ item ∈ items, Writes item (depth + 1) := by
      intro item member
      exact ih item member (uniques item member) (safe.2 item member)
    obtain ⟨parts, texts, converted, written⟩ := writes_items every
    refine ⟨.array parts, _, ?_, writeValue_array room written⟩
    rw [fromSerdeValueAt, if_neg room.not_ge, converted]
    rfl
  | object members ih =>
    rw [JcsSafe, jcsSafeMembers_iff] at safe
    obtain ⟨distinct, uniques⟩ := Json.everywhere_object.mp unique
    have room : depth < maxParseDepth := by omega
    have every : ∀ member ∈ members, Writes member.2 (depth + 1) := by
      intro member held
      have inside := safe.2 member held
      rw [ite_self] at inside
      apply ih member held (uniques member held)
      exact inside.resolve_left (List.not_mem_nil)
    obtain ⟨parts, texts, converted, written, keys⟩ := writes_members every
    refine ⟨.object parts, _, ?_, writeValue_object room written (keys ▸ distinct)⟩
    rw [fromSerdeValueAt, if_neg room.not_ge, converted]
    rfl

theorem canonicalizeJsonValue_isOk_iff (value : MapValue) :
    (∃ bytes, canonicalizeJsonValue value.val = .ok bytes) ↔
      JcsSafe [] maxParseDepth [] value.val := by
  constructor
  · rintro ⟨_, canonical⟩
    obtain ⟨jcs, converted, _⟩ := Except.bind_eq_ok.mp canonical
    exact jcsSafe_of_fromSerdeValueAt converted
  · intro safe
    have writes : Writes value.val 0 := writes_of_jcsSafe value.property.uniqueKeys safe
    obtain ⟨jcs, text, converted, written⟩ := writes
    refine ⟨encodeUtf8 text, ?_⟩
    simp [canonicalizeJsonValue, fromSerdeValue, converted, canonicalizeValue, written]

/-! ## The one failure -/

section

open Except

mutual
theorem failsWith_writeValue (value : JcsValue) (depth : Nat) :
    (writeValue value depth).FailsWith .canonicalizationFailed := by
  cases value with
  | null | number _ | string _ => exact failsWith_ok _ _
  | bool b => cases b <;> exact failsWith_ok _ _
  | array items =>
    rw [writeValue]
    apply (failsWith_error _).ite
    exact (failsWith_writeItems items _).bind fun _ => failsWith_ok _ _
  | object members =>
    rw [writeValue]
    apply (failsWith_error _).ite
    apply (failsWith_writeMembers members _).bind
    intro entries
    exact (failsWith_error _).ite (failsWith_ok _ _)

theorem failsWith_writeItems (items : List JcsValue) (depth : Nat) :
    (writeItems items depth).FailsWith .canonicalizationFailed := by
  cases items with
  | nil => exact failsWith_ok _ _
  | cons item rest =>
    apply (failsWith_writeValue item depth).bind
    intro text
    exact (failsWith_writeItems rest depth).bind fun _ => failsWith_ok _ _

theorem failsWith_writeMembers (members : List (String × JcsValue)) (depth : Nat) :
    (writeMembers members depth).FailsWith .canonicalizationFailed := by
  cases members with
  | nil => exact failsWith_ok _ _
  | cons member rest =>
    apply (failsWith_writeValue member.2 depth).bind
    intro text
    exact (failsWith_writeMembers rest depth).bind fun _ => failsWith_ok _ _
end

theorem failsWith_integerOfNumber (n : Number) :
    (integerOfNumber n).FailsWith .canonicalizationFailed := by
  unfold integerOfNumber checkSafeInteger
  split
  next => exact ((failsWith_ok _ _).ite (failsWith_error _)).bind fun _ => failsWith_ok _ _
  next =>
    split
    next => exact (failsWith_error _).ite (failsWith_ok _ _)
    next => exact failsWith_error _

mutual
theorem failsWith_fromSerdeValueAt (value : Value) (depth : Nat) :
    (fromSerdeValueAt value depth).FailsWith .canonicalizationFailed := by
  cases value with
  | null | bool _ | string _ => exact failsWith_ok _ _
  | number n => exact (failsWith_integerOfNumber n).bind fun _ => failsWith_ok _ _
  | array items =>
    rw [fromSerdeValueAt]
    apply (failsWith_error _).ite
    exact (failsWith_fromSerdeItems items _).bind fun _ => failsWith_ok _ _
  | object members =>
    rw [fromSerdeValueAt]
    apply (failsWith_error _).ite
    exact (failsWith_fromSerdeMembers members _).bind fun _ => failsWith_ok _ _

theorem failsWith_fromSerdeItems (items : List Value) (depth : Nat) :
    (fromSerdeItems items depth).FailsWith .canonicalizationFailed := by
  cases items with
  | nil => exact failsWith_ok _ _
  | cons item rest =>
    apply (failsWith_fromSerdeValueAt item depth).bind
    intro part
    exact (failsWith_fromSerdeItems rest depth).bind fun _ => failsWith_ok _ _

theorem failsWith_fromSerdeMembers (members : List (String × Value)) (depth : Nat) :
    (fromSerdeMembers members depth).FailsWith .canonicalizationFailed := by
  cases members with
  | nil => exact failsWith_ok _ _
  | cons member rest =>
    apply (failsWith_fromSerdeValueAt member.2 depth).bind
    intro part
    exact (failsWith_fromSerdeMembers rest depth).bind fun _ => failsWith_ok _ _
end

theorem failsWith_canonicalizeValue (value : JcsValue) :
    (canonicalizeValue value).FailsWith .canonicalizationFailed :=
  (failsWith_writeValue value 0).bind fun _ => failsWith_ok _ _

theorem failsWith_canonicalizeJsonValue (value : Value) :
    (canonicalizeJsonValue value).FailsWith .canonicalizationFailed :=
  (failsWith_fromSerdeValueAt value 0).bind failsWith_canonicalizeValue

theorem failsWith_parse (bytes : Bytes) : (parse bytes).FailsWith .canonicalizationFailed := by
  unfold parse
  split
  next => exact failsWith_ok _ _
  next => exact failsWith_error _

theorem failsWith_canonicalize (bytes : Bytes) :
    (canonicalize bytes).FailsWith .canonicalizationFailed :=
  (failsWith_parse bytes).bind failsWith_canonicalizeValue

end

/-! ## Serialization by the JSON crate -/

/-- What `serde_json::to_vec` does on a value: it does not fail, and what it writes for a
safe value it writes for no other. -/
structure SerdeJson [Crates] : Prop where
  writes : ∀ value : MapValue, ∃ bytes, Crates.toVec value.val = some bytes
  distinguishes : ∀ {value other : MapValue} {bytes : Bytes},
    JcsSafe [] maxParseDepth [] value.val → Crates.toVec value.val = some bytes →
      Crates.toVec other.val = some bytes → other = value

/-- What the text of a value means: a document within the in-house grammar that the crate
writes for a value is parsed in-house as the conversion of that value, and of the value the
crate reads from it. -/
structure JsonText [Crates] : Prop where
  written : ∀ {value : MapValue} {bytes : Bytes} {jcs : JcsValue},
    Crates.toVec value.val = some bytes → parse bytes = .ok jcs →
      fromSerdeValue value.val = .ok jcs.intoMaps
  read : ∀ {value other : MapValue} {bytes : Bytes} {jcs : JcsValue},
    Crates.toVec other.val = some bytes → Crates.fromSlice bytes = some value →
      parse bytes = .ok jcs → fromSerdeValue value.val = .ok jcs.intoMaps

/-- A node that is not a floating-point number. -/
def IntegerNode : Value → Prop
  | .number n => n.integer?.isSome
  | _ => True

/-- The nesting that `serde_json` reads: it gives up at 128 open brackets. -/
def serdeRecursionLimit : Nat := 127

/-- That `serde_json` reads back what it writes: the text of a value without floats is read
as that value or not at all, and the text of a safe value is read, unless it nests too
deeply. -/
structure PrintParse [Crates] : Prop where
  inverse : ∀ {value read : MapValue} {bytes : Bytes}, value.val.Everywhere IntegerNode →
    Crates.toVec value.val = some bytes → Crates.fromSlice bytes = some read → read = value
  reads : ∀ {value : MapValue} {bytes : Bytes}, JcsSafe [] serdeRecursionLimit [] value.val →
    Crates.toVec value.val = some bytes → (Crates.fromSlice bytes).isSome

theorem fromSerdeValue_injective {left right : Value} {jcs : JcsValue}
    (fromLeft : fromSerdeValue left = .ok jcs) (fromRight : fromSerdeValue right = .ok jcs) :
    left = right :=
  (fromSerdeValueAt_eq_ok fromLeft).1.symm.trans (fromSerdeValueAt_eq_ok fromRight).1

end Mcps
