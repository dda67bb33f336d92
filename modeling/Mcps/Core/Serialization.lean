import Mcps.Core.DocumentDomain
import Mcps.Lib.Numeral

/-!
# Serialization by RFC 8785

The serialization of a value as the standard describes it, not as the writer computes it:
names in strictly increasing order of their UTF-16 code units, the prescribed escapes, the
shortest decimals, and nothing between the tokens.  A value has at most one serialization,
and values that are equal up to the order of members have the same.

The writer emits it for every value that has one and does not nest too deeply.
-/

namespace Mcps

open List Except Json

/-! ## The standard -/

/-- The order of names: by the code units of UTF-16. -/
def NameBefore (left right : String) : Prop := encodeUtf16 left < encodeUtf16 right

/-- The characters with an escape of their own, with the letter behind its backslash. -/
def shortEscapes : List (Char × Char) :=
  [('"', '"'), ('\\', '\\'), ('\x08', 'b'), ('\t', 't'), ('\n', 'n'), ('\x0c', 'f'), ('\r', 'r')]

/-- The text of a character inside a string: its own escape, four lowercase hexadecimal digits
for another control character, or the character itself. -/
inductive CharText : Char → List Char → Prop
  | short {c letter : Char} : (c, letter) ∈ shortEscapes → CharText c ['\\', letter]
  | control {c : Char} {high low : Nat} : (∀ letter, (c, letter) ∉ shortEscapes) →
      c.toNat < 0x20 → c.toNat = 16 * high + low → low < 16 →
      CharText c ['\\', 'u', '0', '0', high.digitChar, low.digitChar]
  | plain {c : Char} : (∀ letter, (c, letter) ∉ shortEscapes) → 0x20 ≤ c.toNat → CharText c [c]

/-- The text of a string. -/
def StringText (value : String) (text : List Char) : Prop :=
  ∃ pieces, List.Forall₂ CharText value.toList pieces ∧ text = '"' :: (pieces.flatten ++ ['"'])

/-- A decimal text of an integer, with a minus sign or without. -/
def DecimalText (value : Int) (text : List Char) : Prop :=
  ∃ digits, digits ≠ [] ∧ (∀ c ∈ digits, c.isDigit = true) ∧
    ((text = digits ∧ value = Nat.ofDigitChars 10 digits 0) ∨
      (text = '-' :: digits ∧ value = -(Nat.ofDigitChars 10 digits 0 : Int)))

/-- The shortest decimal text of an integer. -/
def IntegerText (value : Int) (text : List Char) : Prop :=
  DecimalText value text ∧ ∀ other, DecimalText value other → text.length ≤ other.length

/-- The text of a member, given that of its value. -/
def MemberText (entry : String × List Char) (text : List Char) : Prop :=
  ∃ name, StringText entry.1 name ∧ text = name ++ ':' :: entry.2

mutual
/-- The serialization of a value. -/
inductive Serializes : JcsValue → List Char → Prop
  | null : Serializes .null ['n', 'u', 'l', 'l']
  | true : Serializes (.bool true) ['t', 'r', 'u', 'e']
  | false : Serializes (.bool false) ['f', 'a', 'l', 's', 'e']
  | number {value : Int} {text : List Char} : IntegerText value text →
      Serializes (.number value) text
  | string {value : String} {text : List Char} : StringText value text →
      Serializes (.string value) text
  | array {items : List JcsValue} {texts : List (List Char)} : SerializesItems items texts →
      Serializes (.array items) ('[' :: (List.intercalate [','] texts ++ [']']))
  | object {members : List (String × JcsValue)} {entries ordered : List (String × List Char)}
      {texts : List (List Char)} : SerializesMembers members entries → ordered.Perm entries →
      ordered.Pairwise (fun first second => NameBefore first.1 second.1) →
      List.Forall₂ MemberText ordered texts →
      Serializes (.object members) ('{' :: (List.intercalate [','] texts ++ ['}']))

/-- The serializations of the items of an array. -/
inductive SerializesItems : List JcsValue → List (List Char) → Prop
  | nil : SerializesItems [] []
  | cons {item : JcsValue} {text : List Char} {items : List JcsValue} {texts : List (List Char)} :
      Serializes item text → SerializesItems items texts →
      SerializesItems (item :: items) (text :: texts)

/-- The names of the members of an object with the serializations of their values. -/
inductive SerializesMembers : List (String × JcsValue) → List (String × List Char) → Prop
  | nil : SerializesMembers [] []
  | cons {name : String} {value : JcsValue} {text : List Char} {members : List (String × JcsValue)}
      {entries : List (String × List Char)} : Serializes value text →
      SerializesMembers members entries →
      SerializesMembers ((name, value) :: members) ((name, text) :: entries)
end

theorem serializesItems_iff {items : List JcsValue} {texts : List (List Char)} :
    SerializesItems items texts ↔ List.Forall₂ Serializes items texts := by
  constructor
  · intro every
    induction items generalizing texts with
    | nil => cases every; exact .nil
    | cons item items ih =>
      cases every with
      | cons first others => exact .cons first (ih others)
  · intro every
    induction every with
    | nil => exact .nil
    | cons first _ ih => exact .cons first ih

theorem serializesMembers_iff {members : List (String × JcsValue)}
    {entries : List (String × List Char)} :
    SerializesMembers members entries ↔ List.Forall₂
      (fun member entry => member.1 = entry.1 ∧ Serializes member.2 entry.2) members entries := by
  constructor
  · intro every
    induction members generalizing entries with
    | nil => cases every; exact .nil
    | cons member members ih =>
      cases every with
      | cons first others => exact .cons ⟨rfl, first⟩ (ih others)
  · intro every
    induction every with
    | nil => exact .nil
    | @cons member entry _ _ first _ ih =>
      obtain ⟨_, _⟩ := entry
      obtain ⟨rfl, first⟩ := first
      exact .cons first ih

/-! ## The order of names -/

theorem utf16Units_cancel {c d : Char} {left right : List Nat}
    (same : utf16Units c ++ left = utf16Units d ++ right) : c = d ∧ left = right := by
  have first := toNat_char c
  have second := toNat_char d
  simp only [utf16Units] at same
  split at same <;> split at same <;> simp only [cons_append, cons.injEq] at same
  · exact ⟨Char.toNat_inj.mp same.1, same.2⟩
  · omega
  · omega
  · exact ⟨Char.toNat_inj.mp (by omega), same.2.2⟩

theorem encodeUtf16_injective : Function.Injective encodeUtf16 := by
  have flat : ∀ left right : List Char,
      left.flatMap utf16Units = right.flatMap utf16Units → left = right := by
    intro left
    induction left with
    | nil =>
      intro right same
      cases right with
      | nil => rfl
      | cons d right =>
        simp only [flatMap_cons, utf16Units] at same
        split at same <;> cases same
    | cons c left ih =>
      intro right same
      cases right with
      | nil =>
        simp only [flatMap_cons, utf16Units] at same
        split at same <;> cases same
      | cons d right =>
        obtain ⟨rfl, rest⟩ := utf16Units_cancel same
        rw [ih right rest]
  intro left right same
  simp only [encodeUtf16, textChars_eq] at same
  exact String.toList_injective (flat _ _ same)

theorem leUtf16_iff {left right : String} :
    leUtf16 left right ↔ encodeUtf16 left ≤ encodeUtf16 right := by
  rw [leUtf16, cmpUtf16, ← not_lt, ← compareUnits_eq_lt_iff, compareUnits_swap]
  cases compareUnits (encodeUtf16 right) (encodeUtf16 left) <;> decide

instance : Std.Total leUtf16 where
  total left right := by
    simp only [leUtf16_iff]
    exact le_total _ _

instance : IsTrans String leUtf16 where
  trans first second third below above := by
    simp only [leUtf16_iff] at below above ⊢
    exact below.trans above

/-! ## Tokens -/

theorem eq_writeChar {c : Char} {text : List Char} (written : CharText c text) :
    text = writeChar c := by
  have other {control letter : Char} (plain : ∀ letter, (c, letter) ∉ shortEscapes)
      (escaped : (control, letter) ∈ shortEscapes) : c ≠ control := by
    rintro rfl
    exact plain letter escaped
  cases written with
  | short escaped =>
    simp only [shortEscapes, mem_cons, not_mem_nil, or_false] at escaped
    rcases escaped with ⟨rfl, rfl⟩ | ⟨rfl, rfl⟩ | ⟨rfl, rfl⟩ | ⟨rfl, rfl⟩ | ⟨rfl, rfl⟩ |
      ⟨rfl, rfl⟩ | ⟨rfl, rfl⟩ <;> rfl
  | @control high low plain small split digit =>
    have halves : c.toNat / 16 = high ∧ c.toNat % 16 = low := by omega
    simp [writeChar, other plain (show ('"', '"') ∈ shortEscapes by decide),
      other plain (show ('\\', '\\') ∈ shortEscapes by decide),
      other plain (show ('\x08', 'b') ∈ shortEscapes by decide),
      other plain (show ('\t', 't') ∈ shortEscapes by decide),
      other plain (show ('\n', 'n') ∈ shortEscapes by decide),
      other plain (show ('\x0c', 'f') ∈ shortEscapes by decide),
      other plain (show ('\r', 'r') ∈ shortEscapes by decide), halves,
      show c.toNat ≤ 31 by omega]
  | plain plain printable =>
    exact (writeChar_literal (other plain (show ('"', '"') ∈ shortEscapes by decide))
      (other plain (show ('\\', '\\') ∈ shortEscapes by decide)) (by omega)).symm

theorem charText_writeChar (c : Char) : CharText c (writeChar c) := by
  have written : ∃ text, CharText c text := by
    by_cases escaped : ∃ letter, (c, letter) ∈ shortEscapes
    · obtain ⟨letter, escaped⟩ := escaped
      exact ⟨_, .short escaped⟩
    · have plain := not_exists.mp escaped
      by_cases control : c.toNat < 0x20
      · exact ⟨_, .control plain control (Nat.div_add_mod c.toNat 16).symm (Nat.mod_lt _ (by decide))⟩
      · exact ⟨_, .plain plain (not_lt.mp control)⟩
  obtain ⟨text, written⟩ := written
  rwa [← eq_writeChar written]

theorem stringText_iff {value : String} {text : List Char} :
    StringText value text ↔ text = writeString value := by
  have pieces {chars : List Char} {pieces : List (List Char)} :
      List.Forall₂ CharText chars pieces ↔ pieces = chars.map writeChar := by
    constructor
    · intro every
      induction every with
      | nil => rfl
      | cons first _ ih => rw [map_cons, eq_writeChar first, ih]
    · rintro rfl
      rw [forall₂_map_right_iff, forall₂_same]
      exact fun c _ => charText_writeChar c
  simp only [StringText, pieces, exists_eq_left, writeString, writeChars, flatMap_def, textChars_eq]

theorem memberText_iff {entry : String × List Char} {text : List Char} :
    MemberText entry text ↔ text = writeMember entry := by
  simp only [MemberText, stringText_iff, exists_eq_left, writeMember]

theorem decimalText_writeInteger (value : Int) : DecimalText value (writeInteger value) := by
  refine ⟨Nat.toDigits 10 value.natAbs, Nat.toDigits_ne_nil,
    fun c member => Numeral.isDigit_of_mem_toDigits member, ?_⟩
  rw [writeInteger, Nat.ofDigitChars_ten_toDigits]
  split
  · exact .inr ⟨rfl, by omega⟩
  · exact .inl ⟨rfl, by omega⟩

theorem length_writeInteger_le {value : Int} {text : List Char} (decimal : DecimalText value text) :
    (writeInteger value).length ≤ text.length := by
  rcases decimal with ⟨_, some, every, ⟨rfl, same⟩ | ⟨rfl, same⟩⟩
  · have shortest := Numeral.length_toDigits_le some every
    rw [same]
    exact shortest
  · have shortest := Numeral.length_toDigits_le some every
    rw [writeInteger, same, Int.natAbs_neg, Int.natAbs_natCast, length_cons]
    split
    · rw [length_cons]
      omega
    · omega

theorem integerText_iff {value : Int} {text : List Char} :
    IntegerText value text ↔ text = writeInteger value := by
  constructor
  · intro ⟨decimal, shortest⟩
    have size : text.length = (writeInteger value).length :=
      le_antisymm (shortest _ (decimalText_writeInteger value)) (length_writeInteger_le decimal)
    rcases decimal with ⟨_, some, every, ⟨rfl, same⟩ | ⟨rfl, same⟩⟩
    · rw [writeInteger, same, Int.natAbs_natCast] at size ⊢
      apply Numeral.eq_of_ofDigitChars_eq every
        (fun c member => Numeral.isDigit_of_mem_toDigits member) size
      rw [Nat.ofDigitChars_ten_toDigits]
    · have content := length_pos_iff.mpr some
      by_cases negative : value < 0
      · rw [writeInteger, if_pos negative, same, Int.natAbs_neg, Int.natAbs_natCast,
          length_cons, length_cons] at size
        rw [writeInteger, if_pos negative, same, Int.natAbs_neg, Int.natAbs_natCast]
        congr 1
        apply Numeral.eq_of_ofDigitChars_eq every
          (fun c member => Numeral.isDigit_of_mem_toDigits member) (by omega)
        rw [Nat.ofDigitChars_ten_toDigits]
      · have zero : value = 0 := by omega
        rw [zero, length_cons] at size
        have one : (writeInteger 0).length = 1 := by decide
        omega
  · rintro rfl
    exact ⟨decimalText_writeInteger value, fun other decimal => length_writeInteger_le decimal⟩

theorem forall₂_memberText_iff {entries : List (String × List Char)} {texts : List (List Char)} :
    List.Forall₂ MemberText entries texts ↔ texts = entries.map writeMember := by
  constructor
  · intro every
    induction every with
    | nil => rfl
    | cons first _ ih => rw [map_cons, memberText_iff.mp first, ih]
  · rintro rfl
    rw [forall₂_map_right_iff, forall₂_same]
    exact fun entry _ => memberText_iff.mpr rfl

theorem commaSeparated_eq (pieces : List (List Char)) :
    commaSeparated pieces = intercalate [','] pieces := by
  induction pieces with
  | nil => rfl
  | cons piece rest ih =>
    cases rest with
    | nil => simp [commaSeparated]
    | cons next rest =>
      rw [commaSeparated, ih, intercalate_cons_cons, append_assoc]
      rfl

/-! ## One serialization for each value -/

theorem eq_of_forall₂ {α β : Type} {relation : α → β → Prop} {items : List α} {left right : List β}
    (functional : ∀ item ∈ items, ∀ a b, relation item a → relation item b → a = b)
    (first : List.Forall₂ relation items left) (second : List.Forall₂ relation items right) :
    left = right := by
  rw [← forall₂_eq_eq_eq]
  exact forall₂_of_forall₂ functional first second

theorem ordered_unique {entries left right : List (String × List Char)} (leftPerm : left.Perm entries)
    (rightPerm : right.Perm entries)
    (leftOrdered : left.Pairwise fun first second => NameBefore first.1 second.1)
    (rightOrdered : right.Pairwise fun first second => NameBefore first.1 second.1) :
    left = right := by
  apply List.Perm.eq_of_pairwise _ leftOrdered rightOrdered (leftPerm.trans rightPerm.symm)
  intro a b _ _ before after
  exact absurd (lt_trans before after) (lt_irrefl _)

theorem Serializes.unique {value : JcsValue} {left right : List Char}
    (first : Serializes value left) (second : Serializes value right) : left = right := by
  induction value using inductionOn generalizing left right with
  | null =>
    cases first
    cases second
    rfl
  | bool b => cases first <;> cases second <;> rfl
  | number i =>
    cases first with
    | number first =>
      cases second with
      | number second => rw [integerText_iff.mp first, integerText_iff.mp second]
  | string s =>
    cases first with
    | string first =>
      cases second with
      | string second => rw [stringText_iff.mp first, stringText_iff.mp second]
  | array items ih =>
    cases first with
    | array first =>
      cases second with
      | array second =>
        rw [eq_of_forall₂ (fun item held a b => ih item held)
          (serializesItems_iff.mp first) (serializesItems_iff.mp second)]
  | object members ih =>
    cases first with
    | object first perm ordered texts =>
      cases second with
      | object second otherPerm otherOrdered otherTexts =>
        have entries := eq_of_forall₂ (fun member held a b one two =>
          Prod.ext (one.1.symm.trans two.1) (ih member held one.2 two.2))
          (serializesMembers_iff.mp first) (serializesMembers_iff.mp second)
        rw [← entries] at otherPerm
        have same := ordered_unique perm otherPerm ordered otherOrdered
        rw [forall₂_memberText_iff.mp texts, forall₂_memberText_iff.mp otherTexts, same]

theorem keys_of_serializesMembers {members : List (String × JcsValue)}
    {entries : List (String × List Char)} (each : SerializesMembers members entries) :
    members.map Prod.fst = entries.map Prod.fst := by
  induction members generalizing entries with
  | nil =>
    cases each
    rfl
  | cons member members ih =>
    cases each with
    | cons first others => rw [map_cons, map_cons, ih others]

theorem Serializes.uniqueKeys {value : JcsValue} {text : List Char}
    (written : Serializes value text) : value.UniqueKeys := by
  induction value using inductionOn generalizing text with
  | null | bool _ | number _ | string _ => trivial
  | array items ih =>
    cases written with
    | array items =>
      apply everywhere_array.mpr
      refine ⟨trivial, fun item held => ?_⟩
      obtain ⟨_, _, written⟩ := exists_of_mem_forall₂ (serializesItems_iff.mp items) held
      exact ih item held written
  | object members ih =>
    cases written with
    | @object _ entries ordered _ each perm increasing _ =>
      have pairs := serializesMembers_iff.mp each
      apply everywhere_object.mpr
      constructor
      · change (members.map Prod.fst).Nodup
        have distinct : (ordered.map Prod.fst).Nodup := by
          apply pairwise_map.mpr
          apply increasing.imp
          intro first second before same
          exact absurd (same ▸ before) (lt_irrefl _)
        rw [keys_of_serializesMembers each]
        exact (perm.map Prod.fst).nodup_iff.mp distinct
      · intro member held
        obtain ⟨_, _, _, written⟩ := exists_of_mem_forall₂ pairs held
        exact ih member held written

theorem Serializes.reordered {value other : JcsValue} (reordered : value.Reordered other) :
    ∀ {text : List Char}, Serializes value text → Serializes other text := by
  apply reordered.induction
  · exact id
  · exact fun _ _ => id
  · exact fun _ _ => id
  · exact fun _ _ => id
  · intro items others pairs text written
    cases written with
    | array each =>
      refine .array (serializesItems_iff.mpr ?_)
      apply forall₂_of_forall₂ _ pairs (serializesItems_iff.mp each)
      intro item _ other text paired written
      exact paired.2 written
  · intro members paired others pairs perm text written
    cases written with
    | @object _ entries ordered _ each same increasing texts =>
      have values : List.Forall₂ (fun member entry =>
          member.1 = entry.1 ∧ Serializes member.2 entry.2) paired entries := by
        apply forall₂_of_forall₂ _ pairs (serializesMembers_iff.mp each)
        intro member _ other entry alike written
        exact ⟨alike.1.symm.trans written.1, alike.2.2 written.2⟩
      obtain ⟨_, pairs, back⟩ := perm_comp_forall₂ perm.symm values
      exact .object (serializesMembers_iff.mpr pairs) (same.trans back.symm) increasing texts

/-! ## The writer -/

theorem increasing_of_sorted {entries : List (String × List Char)}
    (sorted : entries.Pairwise fun first second => leUtf16 first.1 second.1)
    (distinct : hasAdjacentDuplicate entries = false) :
    entries.Pairwise fun first second => NameBefore first.1 second.1 := by
  induction entries with
  | nil => exact .nil
  | cons first rest ih =>
    rw [pairwise_cons] at sorted ⊢
    cases rest with
    | nil => exact ⟨nofun, .nil⟩
    | cons second rest =>
      rw [hasAdjacentDuplicate, Bool.or_eq_false_iff, decide_eq_false_iff_not] at distinct
      have behind := ih sorted.2 distinct.2
      have below := leUtf16_iff.mp (sorted.1 second (by simp))
      have before : NameBefore first.1 second.1 :=
        lt_of_le_of_ne below fun same => distinct.1 (encodeUtf16_injective same)
      refine ⟨?_, behind⟩
      intro entry held
      cases held with
      | head => exact before
      | tail _ held => exact lt_trans before ((pairwise_cons.mp behind).1 entry held)

theorem serializes_writeValue {value : JcsValue} {depth : Nat} {text : List Char}
    (written : writeValue value depth = .ok text) : Serializes value text := by
  induction value using inductionOn generalizing depth text with
  | null =>
    cases written
    exact .null
  | bool b =>
    cases b <;> cases written
    · exact .false
    · exact .true
  | number i =>
    cases written
    exact .number (integerText_iff.mpr rfl)
  | string s =>
    cases written
    exact .string (stringText_iff.mpr rfl)
  | array items ih =>
    rw [writeValue, guard_eq_ok] at written
    obtain ⟨texts, each, written⟩ := bind_eq_ok.mp written.2
    cases written
    have pairs := (forall₂_and_left items texts).mpr
      ⟨fun item held text => @ih item held (depth + 1) text, writeItems_eq_ok each⟩
    rw [commaSeparated_eq]
    apply Serializes.array
    exact serializesItems_iff.mpr (pairs.imp fun item text paired => paired.1 _ paired.2)
  | object members ih =>
    rw [writeValue, guard_eq_ok] at written
    obtain ⟨entries, each, written⟩ := bind_eq_ok.mp written.2
    obtain ⟨distinct, written⟩ := guard_eq_ok.mp written
    cases written
    have pairs := (forall₂_and_left members entries).mpr
      ⟨fun member held text => @ih member held (depth + 1) text, writeMembers_eq_ok each⟩
    have values : SerializesMembers members entries := by
      apply serializesMembers_iff.mpr
      apply pairs.imp
      intro member entry ⟨serializes, names, written⟩
      exact ⟨names, serializes _ written⟩
    rw [commaSeparated_eq]
    exact .object values (perm_insertionSort _ entries)
      (increasing_of_sorted (pairwise_insertionSort _ entries) (by simpa using distinct))
      (forall₂_memberText_iff.mpr rfl)

theorem depth_le_of_writeValue {value : JcsValue} {depth : Nat} {text : List Char}
    (reached : depth ≤ maxParseDepth) (written : writeValue value depth = .ok text) :
    depth + value.depth ≤ maxParseDepth := by
  induction value using inductionOn generalizing depth text with
  | null | bool _ | number _ | string _ => exact reached
  | array items ih =>
    rw [writeValue, guard_eq_ok] at written
    obtain ⟨_, each, _⟩ := bind_eq_ok.mp written.2
    have below : (array items).depth ≤ (maxParseDepth - (depth + 1)) + 1 := by
      apply depth_array_le.mpr
      intro item held
      obtain ⟨text, _, inside⟩ := exists_of_mem_forall₂ (writeItems_eq_ok each) held
      have fits := ih item held (by omega) inside
      omega
    omega
  | object members ih =>
    rw [writeValue, guard_eq_ok] at written
    obtain ⟨_, each, _⟩ := bind_eq_ok.mp written.2
    have below : (object members).depth ≤ (maxParseDepth - (depth + 1)) + 1 := by
      apply depth_object_le.mpr
      intro member held
      obtain ⟨_, _, _, inside⟩ := exists_of_mem_forall₂ (writeMembers_eq_ok each) held
      have fits := ih member held (by omega) inside
      omega
    omega

theorem canonicalizeValue_isOk_iff {value : JcsValue} :
    (∃ bytes, canonicalizeValue value = .ok bytes) ↔
      value.UniqueKeys ∧ value.depth ≤ maxParseDepth := by
  constructor
  · intro ⟨_, canonical⟩
    obtain ⟨text, written, _⟩ := canonicalizeValue_eq_ok canonical
    have fits := depth_le_of_writeValue (Nat.zero_le _) written
    exact ⟨(serializes_writeValue written).uniqueKeys, by omega⟩
  · intro ⟨unique, fits⟩
    obtain ⟨text, written⟩ := writeValue_isOk unique (Nat.zero_add value.depth ▸ fits)
    exact ⟨encodeUtf8 text, by rw [canonicalizeValue, written]; rfl⟩

/-- Canonical bytes are the one serialization of the value, and canonicalization fails exactly
on values that repeat a name or nest too deeply. -/
theorem canonicalizeValue_serializes (value : JcsValue) :
    (∀ bytes, canonicalizeValue value = .ok bytes →
      ∃ text, bytes = encodeUtf8 text ∧ Serializes value text ∧
        ∀ other, Serializes value other → other = text) ∧
    ((∃ failure, canonicalizeValue value = .error failure) ↔
      ¬ value.UniqueKeys ∨ maxParseDepth < value.depth) := by
  constructor
  · intro bytes canonical
    rcases canonicalizeValue_eq_ok canonical with ⟨text, written, rfl⟩
    have serializes := serializes_writeValue written
    exact ⟨text, rfl, serializes, fun other again => again.unique serializes⟩
  · rw [← not_le, ← not_and_or, ← canonicalizeValue_isOk_iff]
    cases canonicalizeValue value <;> simp

end Mcps
