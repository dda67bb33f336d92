import Mcps.Core.Document
import Mcps.Core.GrammarTokens

/-!
# The language of the reader

The reader against the grammar of RFC 8259, for documents whose numbers are integers.  What
it reads is the text of a tree that resolves to the document, and it reads every text of such
a tree, in front of anything that cannot continue a number.
-/

namespace Mcps

open List Option

open JsonGrammar (Spelled ValueText MemberText IntegerLiteral Unescapes Resolves)

/-! ## Numbers -/

/-- What is read and what is left make up the input. -/
def Splits (read : List Char → Option (List Char × List Char)) : Prop :=
  ∀ input text rest, read input = some (text, rest) → input = text ++ rest

theorem splits_readDigits : Splits readDigits := by
  intro input text rest read
  unfold readDigits at read
  split at read
  next => cases read
  next =>
    split_ifs at read
    cases read
    simp [takeWhile_append_dropWhile]

theorem splits_readInteger : Splits readInteger := by
  intro input text rest read
  unfold readInteger at read
  split at read
  next => cases read
  next =>
    split_ifs at read with zero digit
    · cases read
      simp [zero]
    · cases read
      simp [takeWhile_append_dropWhile]

theorem splits_readFraction : Splits readFraction := by
  intro input text rest read
  unfold readFraction at read
  split at read
  next =>
    obtain ⟨⟨_, _⟩, found, same⟩ := bind_eq_some_iff.mp read
    cases same
    rw [splits_readDigits _ _ _ found]
    rfl
  next => cases read; rfl

theorem splits_readPower : Splits readPower := by
  intro input text rest read
  unfold readPower at read
  split at read
  iterate 2
    next =>
      obtain ⟨⟨_, _⟩, found, same⟩ := bind_eq_some_iff.mp read
      cases same
      rw [splits_readDigits _ _ _ found]
      rfl
  next => exact splits_readDigits _ _ _ read

theorem splits_readExponent : Splits readExponent := by
  intro input text rest read
  unfold readExponent at read
  split at read
  iterate 2
    next =>
      obtain ⟨⟨_, _⟩, found, same⟩ := bind_eq_some_iff.mp read
      cases same
      rw [splits_readPower _ _ _ found]
      rfl
  next => cases read; rfl

theorem splits_readUnsigned : Splits readUnsigned := by
  intro input text rest read
  obtain ⟨⟨_, _⟩, isInteger, read⟩ := bind_eq_some_iff.mp read
  obtain ⟨⟨_, _⟩, isTail, same⟩ := bind_eq_some_iff.mp read
  cases same
  obtain ⟨⟨_, _⟩, isFraction, isTail⟩ := bind_eq_some_iff.mp isTail
  obtain ⟨⟨_, _⟩, isExponent, same⟩ := bind_eq_some_iff.mp isTail
  cases same
  rw [splits_readInteger _ _ _ isInteger, splits_readFraction _ _ _ isFraction,
    splits_readExponent _ _ _ isExponent]
  simp

theorem splits_readNumber : Splits readNumber := by
  intro input text rest read
  unfold readNumber at read
  split at read
  next =>
    obtain ⟨⟨_, _⟩, found, same⟩ := bind_eq_some_iff.mp read
    cases same
    rw [splits_readUnsigned _ _ _ found]
    rfl
  next => exact splits_readUnsigned _ _ _ read

variable {spelling rest : List Char}

theorem integerLiteral_of_readNumber {input : List Char} {i : Int}
    (read : readNumber input = some (spelling, rest)) (safe : safeNumber spelling = some i) :
    input = spelling ++ rest ∧ IntegerLiteral spelling i := by
  have split := splits_readNumber input spelling rest read
  have parsed : parseNumber input = some (.number i, rest) := by
    rw [parseNumber_eq, read, bind_some, safe]
    rfl
  obtain ⟨_, _, again, denotes, same, -⟩ := parseNumber_eq_some parsed
  cases same
  cases append_cancel_right (split.symm.trans again)
  exact ⟨split, denotes⟩

theorem readTail_of_endsNumber (ends : EndsNumber rest) : readTail rest = some ([], rest) := by
  cases rest with
  | nil => rfl
  | cons c rest =>
    obtain ⟨-, notDot, notLower, notUpper⟩ := ends c rfl
    simp [readTail, readFraction, readExponent, notDot, notLower, notUpper]

theorem readUnsigned_integerText {integer : List Char} (digits : JsonGrammar.IntegerText integer)
    (ends : EndsNumber rest) : readUnsigned (integer ++ rest) = some (integer, rest) := by
  have tail := readTail_of_endsNumber ends
  cases digits with
  | zero => simp [readUnsigned, readInteger, tail]
  | @digits c digits low high every =>
    obtain ⟨taken, dropped⟩ := takeWhile_isDigit_append every ends
    have notZero : c ≠ '0' := by
      intro zero
      exact absurd low (zero ▸ by decide)
    simp [readUnsigned, readInteger, notZero, low, high, taken, dropped, tail]

theorem readNumber_literal {i : Int} (literal : IntegerLiteral spelling i)
    (ends : EndsNumber rest) : readNumber (spelling ++ rest) = some (spelling, rest) := by
  cases literal with
  | negative digits =>
    simp [readNumber, readUnsigned_integerText digits ends]
  | natural digits =>
    have read := readUnsigned_integerText digits ends
    unfold readNumber
    split
    next tail minus =>
      cases spelling with
      | nil => cases digits
      | cons c spelling =>
        exact absurd (congrArg (· :: spelling) (cons.inj minus).1) (digits.ne_minus _)
    next => exact read

theorem integerLiteral_head {i : Int} (literal : IntegerLiteral spelling i) :
    ∃ c rest, spelling = c :: rest ∧ (c = '-' || c.isDigit) = true := by
  have head : ∀ {integer}, JsonGrammar.IntegerText integer →
      ∃ c rest, integer = c :: rest ∧ (c = '-' || c.isDigit) = true := by
    intro integer digits
    cases digits with
    | zero => exact ⟨_, _, rfl, rfl⟩
    | @digits c _ low high _ =>
      have above : ('0' : Char).val ≤ c.val := UInt32.le_trans (by decide) low
      have digit : c.isDigit = true := by
        simp only [Char.isDigit, Bool.and_eq_true, decide_eq_true_eq]
        exact ⟨above, high⟩
      exact ⟨_, _, rfl, by simp [digit]⟩
  cases literal with
  | natural digits => exact head digits
  | negative _ => exact ⟨_, _, rfl, rfl⟩

/-! ## Containers -/

/-- A name and the value behind it. -/
def readMember (readItem : List Char → Option (Document × List Char)) (input : List Char) :
    Option ((String × Document) × List Char) := do
  let (key, input) ← parseString input
  let input ← expect ':' (skipWs input)
  let (value, input) ← readItem (skipWs input)
  return ((key, value), input)

section

variable {readItem : List Char → Option (Document × List Char)} {input rest : List Char}
  {document : Document}

theorem readItems_eq (fuel : Nat) (input : List Char) :
    readItems readItem fuel input = Separated.readParts isWs ']' readItem fuel input := by
  induction fuel generalizing input with
  | zero => rfl
  | succ fuel ih =>
    rw [readItems]
    congr 1
    funext read
    obtain ⟨part, behind⟩ := read
    simp only [skipWs]
    cases behind.dropWhile isWs with
    | nil => rfl
    | cons c rest => grind

theorem readMembers_eq (fuel : Nat) (input : List Char) :
    readMembers readItem fuel input =
      Separated.readParts isWs '}' (readMember readItem) fuel input := by
  induction fuel generalizing input with
  | zero => rfl
  | succ fuel ih =>
    rw [readMembers, Separated.readParts, readMember]
    simp only [bind_eq_bind, bind_assoc, Option.pure_def, bind_some]
    congr 1
    funext read
    obtain ⟨key, behind⟩ := read
    congr 1
    funext behind
    congr 1
    funext read
    obtain ⟨value, behind⟩ := read
    simp only [skipWs]
    cases behind.dropWhile isWs with
    | nil => rfl
    | cons c rest => grind

theorem readArray_eq (input : List Char) :
    readArray readItem input = (expect '[' input).bind fun opened =>
      (Separated.readRest isWs ']' readItem opened).bind fun read =>
        some (.array read.1, read.2) := by
  rw [readArray]
  congr 1
  funext opened
  simp only [Separated.readRest, skipWs, readItems_eq, Option.pure_def]
  cases opened.dropWhile isWs with
  | nil => rfl
  | cons c others => grind

theorem readObject_eq (input : List Char) :
    readObject readItem input = (expect '{' input).bind fun opened =>
      (Separated.readRest isWs '}' (readMember readItem) opened).bind fun read =>
        some (.object read.1, read.2) := by
  rw [readObject]
  congr 1
  funext opened
  simp only [Separated.readRest, skipWs, readMembers_eq, Option.pure_def]
  cases opened.dropWhile isWs with
  | nil => rfl
  | cons c others => grind

/-! ## What is read -/

/-- The numbers of a document are safe integers. -/
def Integral : Document → Prop
  | .number spelling => ∃ i, safeNumber spelling = some i
  | _ => True

/-- What is read is the text of a tree that resolves to it. -/
def ReadsSpelled (read : List Char → Option (Document × List Char)) : Prop :=
  ∀ input document rest, read input = some (document, rest) → document.Everywhere Integral →
    ∃ tree text, input = text ++ rest ∧ ValueText tree text ∧ Resolves tree document

theorem readsSpelled_array (inner : ReadsSpelled readItem) : ReadsSpelled (readArray readItem) := by
  intro input document rest read integral
  simp only [readArray_eq, bind_eq_some_iff, expect_eq_some, Prod.exists] at read
  obtain ⟨_, rfl, _, _, read, same⟩ := read
  cases same
  obtain ⟨_, rfl, every, text, rfl, spelled⟩ :=
    Separated.readRest_eq_some inner (Json.everywhere_array.mp integral).2 read
  exact ⟨_, _, rfl, JsonGrammar.valueText_array_iff.mpr ⟨text, rfl, spelled⟩, .array every⟩

theorem readMember_spelled (inner : ReadsSpelled readItem) (input : List Char)
    (member : String × Document) (rest : List Char)
    (read : readMember readItem input = some (member, rest))
    (integral : member.2.Everywhere Integral) :
    ∃ tree text, input = text ++ rest ∧ MemberText tree text ∧
      (Unescapes tree.1.toList member.1.toList ∧ Resolves tree.2 member.2) := by
  simp only [readMember, bind_eq_bind, bind_eq_some_iff, expect_eq_some, Prod.exists] at read
  obtain ⟨_, afterKey, isKey, afterColon, colon, _, _, isValue, same⟩ := read
  cases same
  obtain ⟨spelling, rfl, unescapes⟩ := parseString_eq_some isKey
  obtain ⟨tree, text, split, spelled, resolves⟩ := inner _ _ _ isValue integral
  obtain ⟨afterName, blankAfter, nameSplit⟩ := @Separated.blank_split isWs afterKey
  obtain ⟨beforeValue, blankBefore, valueSplit⟩ := @Separated.blank_split isWs afterColon
  rw [skipWs] at colon split
  refine ⟨(spelling, tree), _, ?_, ⟨afterName, beforeValue, text, JsonGrammar.blank_iff.mpr blankAfter,
    JsonGrammar.blank_iff.mpr blankBefore, unescapes.stringText, spelled, rfl⟩, unescapes, resolves⟩
  rw [nameSplit, colon, valueSplit, split]
  simp

theorem readsSpelled_object (inner : ReadsSpelled readItem) :
    ReadsSpelled (readObject readItem) := by
  intro input document rest read integral
  simp only [readObject_eq, bind_eq_some_iff, expect_eq_some, Prod.exists] at read
  obtain ⟨_, rfl, _, _, read, same⟩ := read
  cases same
  obtain ⟨_, rfl, every, text, rfl, spelled⟩ :=
    Separated.readRest_eq_some (readMember_spelled inner) (Json.everywhere_object.mp integral).2
      read
  exact ⟨_, _, rfl, JsonGrammar.valueText_object_iff.mpr ⟨text, rfl, spelled⟩,
    .object (fun pair held => (every pair held).1) fun pair held => (every pair held).2⟩

end

theorem parseLiteral_eq_some {literal input : List Char} :
    parseLiteral literal input = some rest ↔ input = literal ++ rest := by
  induction literal generalizing input with
  | nil => simp [parseLiteral]
  | cons expected literal ih =>
    simp only [parseLiteral, bind_eq_bind, bind_eq_some_iff, expect_eq_some, ih]
    simp

theorem readsSpelled_valueWith {inner : Option (List Char → Option (Document × List Char))}
    (items : ∀ readItem ∈ inner, ReadsSpelled readItem) : ReadsSpelled (readValueWith inner) := by
  intro input document rest read integral
  unfold readValueWith at read
  split at read
  next =>
    obtain ⟨readItem, held, read⟩ := bind_eq_some_iff.mp read
    exact readsSpelled_object (items readItem held) input document rest read integral
  next =>
    obtain ⟨readItem, held, read⟩ := bind_eq_some_iff.mp read
    exact readsSpelled_array (items readItem held) input document rest read integral
  next =>
    obtain ⟨⟨_, behind⟩, read, ⟨⟩⟩ := bind_eq_some_iff.mp read
    obtain ⟨spelling, rfl, denotes⟩ := parseString_eq_some read
    exact ⟨.string spelling, '"' :: (spelling.toList ++ ['"']), by simp,
      .string denotes.stringText, .string denotes⟩
  next =>
    obtain ⟨last, read, ⟨⟩⟩ := bind_eq_some_iff.mp read
    exact ⟨_, _, parseLiteral_eq_some.mp read, .true, .bool⟩
  next =>
    obtain ⟨last, read, ⟨⟩⟩ := bind_eq_some_iff.mp read
    exact ⟨_, _, parseLiteral_eq_some.mp read, .false, .bool⟩
  next =>
    obtain ⟨last, read, ⟨⟩⟩ := bind_eq_some_iff.mp read
    exact ⟨_, _, parseLiteral_eq_some.mp read, .null, .null⟩
  next =>
    split at read
    next =>
      obtain ⟨⟨spelling, behind⟩, read, ⟨⟩⟩ := bind_eq_some_iff.mp read
      obtain ⟨i, safe⟩ := integral
      obtain ⟨split, literal⟩ := integerLiteral_of_readNumber read safe
      exact ⟨_, _, split, .number literal.numberText, .number literal⟩
    next => cases read
  next => cases read

theorem readsSpelled_value (room : Nat) : ReadsSpelled (readValue room) := by
  induction room with
  | zero => exact readsSpelled_valueWith nofun
  | succ room ih =>
    apply readsSpelled_valueWith
    intro readItem held
    cases held
    exact ih

/-! ## What must be read -/

theorem ne_of_numeric {c d : Char} (numeric : (c = '-' || c.isDigit) = true)
    (notNumeric : (d = '-' || d.isDigit) = false) : c ≠ d := by
  intro same
  rw [same, notNumeric] at numeric
  cases numeric

theorem readValue_number {c : Char} (numeric : (c = '-' || c.isDigit) = true) (room : Nat)
    (rest : List Char) : readValue room (c :: rest) =
      (readNumber (c :: rest)).bind fun read => some (.number read.1, read.2) := by
  have reader : ∃ inner, readValue room = readValueWith inner := by
    cases room with
    | zero => exact ⟨none, rfl⟩
    | succ room => exact ⟨some (readValue room), rfl⟩
  obtain ⟨inner, same⟩ := reader
  rw [same]
  unfold readValueWith
  split
  iterate 6
    next head => exact absurd (some.inj head) (ne_of_numeric numeric (by decide))
  next head =>
    cases head
    rw [if_pos numeric]
    rfl
  next head => cases head

theorem opens_of_resolves {tree document : Spelled} {text : List Char}
    (resolves : Resolves tree document) (spelled : ValueText tree text) :
    Separated.Opens isWs ']' text := by
  cases spelled with
  | number _ =>
    cases resolves with
    | number literal =>
      obtain ⟨c, rest, shape, numeric⟩ := integerLiteral_head literal
      refine ⟨c, rest, shape, ?_, ne_of_numeric numeric (by decide)⟩
      simp [isWs, ne_of_numeric numeric]
  | _ => exact ⟨_, _, rfl, by decide, by decide⟩

theorem endsNumber_ws {c : Char} (white : isWs c = true) (rest : List Char) :
    EndsNumber (c :: rest) := by
  simp only [isWs, Bool.or_eq_true, decide_eq_true_eq] at white
  obtain ((rfl | rfl) | rfl) | rfl := white <;> exact endsNumber_cons _ (by decide)

theorem endsNumber_blank {close : Char} (ends : ∀ rest, EndsNumber (close :: rest))
    (blank : List Char) (c : Char) (rest : List Char) (blanks : Separated.Blank isWs blank)
    (final : c = ',' ∨ c = close) : EndsNumber (blank ++ c :: rest) := by
  cases blank with
  | nil =>
    cases final with
    | inl comma => exact comma ▸ endsNumber_cons rest (by decide)
    | inr closing => exact closing ▸ ends rest
  | cons d blank => exact endsNumber_ws (blanks d mem_cons_self) _

theorem readMember_complete {readItem : List Char → Option (Document × List Char)}
    {member : String × Spelled} {key : String} {document : Document} {text rest : List Char}
    (spelled : MemberText member text) (name : Unescapes member.1.toList key.toList)
    (opens : ∀ text, ValueText member.2 text → Separated.Opens isWs ']' text)
    (reads : ∀ text, ValueText member.2 text → readItem (text ++ rest) = some (document, rest)) :
    readMember readItem (text ++ rest) = some ((key, document), rest) := by
  obtain ⟨afterName, beforeValue, value, blankAfter, blankBefore, -, spelled, rfl⟩ := spelled
  have shape : '"' :: (member.1.toList ++ '"' :: (afterName ++ ':' :: (beforeValue ++ value)))
      ++ rest = '"' :: (member.1.toList ++ '"' :: (afterName ++ ':' ::
        (beforeValue ++ (value ++ rest)))) := by simp
  have colon : skipWs (afterName ++ ':' :: (beforeValue ++ (value ++ rest))) =
      ':' :: (beforeValue ++ (value ++ rest)) :=
    (Separated.dropWhile_blank (JsonGrammar.blank_iff.mp blankAfter) _).trans rfl
  have shown : skipWs (beforeValue ++ (value ++ rest)) = value ++ rest :=
    (Separated.dropWhile_blank (JsonGrammar.blank_iff.mp blankBefore) _).trans
      ((opens value spelled).dropWhile rest)
  simp only [readMember, shape, parseString_unescapes name, bind_eq_bind, bind_some,
    colon, expect, ↓reduceIte, shown, reads value spelled, Option.pure_def]

theorem readValue_complete {tree document : Spelled} (resolves : Resolves tree document)
    {room : Nat} (fits : tree.depth ≤ room) {text : List Char} (spelled : ValueText tree text)
    (ends : EndsNumber rest) : readValue room (text ++ rest) = some (document, rest) := by
  induction resolves generalizing room text rest with
  | null =>
    cases spelled
    cases room <;> rfl
  | bool =>
    cases spelled <;> cases room <;> rfl
  | number literal =>
    cases spelled
    obtain ⟨c, _, shape, numeric⟩ := integerLiteral_head literal
    have read := readNumber_literal literal ends
    rw [shape, cons_append] at read ⊢
    rw [readValue_number numeric, read, bind_some]
  | string unescapes =>
    cases spelled
    have read := parseString_unescapes unescapes rest
    rw [cons_append, append_assoc]
    cases room <;> exact congrArg (bind · _) read
  | @array pairs each ih =>
    obtain ⟨inside, rfl, between⟩ := JsonGrammar.valueText_array_iff.mp spelled
    obtain ⟨room, rfl⟩ := Nat.exists_eq_add_of_lt (Nat.lt_of_lt_of_le (Nat.succ_pos _) fits)
    rw [Nat.zero_add] at fits ⊢
    have shallow := Json.depth_array_le.mp fits
    have read := @Separated.readRest_complete _ _ isWs ']' ValueText (readValue room) _ EndsNumber
      rfl rfl (by decide) (endsNumber_blank fun _ => endsNumber_cons _ (by decide)) pairs
      (fun pair held _ => opens_of_resolves (each pair held))
      (fun pair held _ spelled _ => ih pair held (shallow _ (mem_map_of_mem held)) spelled)
      between rest
    change readArray (readValue room) ('[' :: (inside ++ rest)) = _
    simp [readArray_eq, expect, read]
  | @object pairs names each ih =>
    obtain ⟨inside, rfl, between⟩ := JsonGrammar.valueText_object_iff.mp spelled
    obtain ⟨room, rfl⟩ := Nat.exists_eq_add_of_lt (Nat.lt_of_lt_of_le (Nat.succ_pos _) fits)
    rw [Nat.zero_add] at fits ⊢
    have shallow := Json.depth_object_le.mp fits
    have read := @Separated.readRest_complete _ _ isWs '}' MemberText
      (readMember (readValue room)) _ EndsNumber rfl rfl (by decide)
      (endsNumber_blank fun _ => endsNumber_cons _ (by decide)) pairs
      (fun pair held _ spelled => by
        obtain ⟨_, _, _, -, -, -, -, rfl⟩ := spelled
        exact ⟨_, _, rfl, rfl, by decide⟩)
      (fun pair held _ spelled _ ends => readMember_complete spelled (names pair held)
        (fun _ => opens_of_resolves (each pair held))
        fun _ spelled => ih pair held (shallow _ (mem_map_of_mem held)) spelled ends)
      between rest
    change readObject (readValue room) ('{' :: (inside ++ rest)) = _
    simp [readObject_eq, expect, read]

end Mcps
