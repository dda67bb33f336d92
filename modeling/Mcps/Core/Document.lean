import Mathlib.Data.List.TakeWhile
import Mcps.Core.CanonicalParser

/-!
# JSON documents

A document is what a JSON text says before any restriction of the JCS-safe domain: members
in the order of the text, also several under one key, numbers by their spelling, and
nesting of any depth.  `readDocument` reads the grammar of JSON.

The raw-bytes parser is the reader followed by the restrictions: it accepts a text exactly
when the text is a document whose keys are distinct, whose numbers are safe integers and
which nests no deeper than the limit.
-/

namespace Mcps

open List Option

/-- A JSON text as a tree; a number is its spelling. -/
abbrev Document := Json (List Char)

/-! ## Numbers -/

/-- One digit or more. -/
def readDigits : List Char → Option (List Char × List Char)
  | [] => none
  | c :: rest =>
    if c.isDigit then some (c :: rest.takeWhile Char.isDigit, rest.dropWhile Char.isDigit)
    else none

/-- A single zero, or digits that do not start with one. -/
def readInteger : List Char → Option (List Char × List Char)
  | [] => none
  | c :: rest =>
    if c = '0' then some (['0'], rest)
    else if '1' ≤ c ∧ c ≤ '9' then
      some (c :: rest.takeWhile Char.isDigit, rest.dropWhile Char.isDigit)
    else none

/-- A fraction, if there is one. -/
def readFraction : List Char → Option (List Char × List Char)
  | '.' :: rest => do
    let (digits, rest) ← readDigits rest
    return ('.' :: digits, rest)
  | input => some ([], input)

/-- The sign and digits of an exponent after its letter. -/
def readPower : List Char → Option (List Char × List Char)
  | '+' :: rest => do
    let (digits, rest) ← readDigits rest
    return ('+' :: digits, rest)
  | '-' :: rest => do
    let (digits, rest) ← readDigits rest
    return ('-' :: digits, rest)
  | input => readDigits input

/-- An exponent, if there is one. -/
def readExponent : List Char → Option (List Char × List Char)
  | 'e' :: rest => do
    let (power, rest) ← readPower rest
    return ('e' :: power, rest)
  | 'E' :: rest => do
    let (power, rest) ← readPower rest
    return ('E' :: power, rest)
  | input => some ([], input)

/-- What may follow the integer part. -/
def readTail (input : List Char) : Option (List Char × List Char) := do
  let (fraction, input) ← readFraction input
  let (exponent, input) ← readExponent input
  return (fraction ++ exponent, input)

/-- A number without its sign. -/
def readUnsigned (input : List Char) : Option (List Char × List Char) := do
  let (integer, input) ← readInteger input
  let (tail, input) ← readTail input
  return (integer ++ tail, input)

def readNumber : List Char → Option (List Char × List Char)
  | '-' :: rest => do
    let (digits, rest) ← readUnsigned rest
    return ('-' :: digits, rest)
  | input => readUnsigned input

/-- The number of a parse that left nothing over. -/
def wholeNumber : Option (JcsValue × List Char) → Option Int
  | some (.number value, []) => some value
  | _ => none

/-- The value of a spelling that is a safe integer. -/
def safeNumber (spelling : List Char) : Option Int := wholeNumber (parseNumber spelling)

/-! ## Values -/

def readItems (readItem : List Char → Option (Document × List Char)) :
    Nat → List Char → Option (List Document × List Char)
  | 0, _ => none
  | fuel + 1, input => do
    let (value, input) ← readItem (skipWs input)
    match skipWs input with
    | ',' :: rest =>
      let (items, rest) ← readItems readItem fuel rest
      return (value :: items, rest)
    | ']' :: rest => return ([value], rest)
    | _ => none

def readMembers (readItem : List Char → Option (Document × List Char)) :
    Nat → List Char → Option (List (String × Document) × List Char)
  | 0, _ => none
  | fuel + 1, input => do
    let (key, input) ← parseString (skipWs input)
    let input ← expect ':' (skipWs input)
    let (value, input) ← readItem (skipWs input)
    match skipWs input with
    | ',' :: rest =>
      let (members, rest) ← readMembers readItem fuel rest
      return ((key, value) :: members, rest)
    | '}' :: rest => return ([(key, value)], rest)
    | _ => none

def readArray (readItem : List Char → Option (Document × List Char)) (input : List Char) :
    Option (Document × List Char) := do
  let input ← expect '[' input
  match skipWs input with
  | ']' :: rest => return (.array [], rest)
  | input =>
    let (items, rest) ← readItems readItem input.length input
    return (.array items, rest)

def readObject (readItem : List Char → Option (Document × List Char)) (input : List Char) :
    Option (Document × List Char) := do
  let input ← expect '{' input
  match skipWs input with
  | '}' :: rest => return (.object [], rest)
  | input =>
    let (members, rest) ← readMembers readItem input.length input
    return (.object members, rest)

def readValueWith (inner : Option (List Char → Option (Document × List Char)))
    (input : List Char) : Option (Document × List Char) :=
  match input.head? with
  | some '{' => do readObject (← inner) input
  | some '[' => do readArray (← inner) input
  | some '"' => do
    let (s, rest) ← parseString input
    return (.string s, rest)
  | some 't' => do return (.bool true, ← parseLiteral ['t', 'r', 'u', 'e'] input)
  | some 'f' => do return (.bool false, ← parseLiteral ['f', 'a', 'l', 's', 'e'] input)
  | some 'n' => do return (.null, ← parseLiteral ['n', 'u', 'l', 'l'] input)
  | some c =>
    if c = '-' || c.isDigit then do
      let (spelling, rest) ← readNumber input
      return (.number spelling, rest)
    else none
  | none => none

/-- Read a value with the given number of container levels at most. -/
def readValue : Nat → List Char → Option (Document × List Char)
  | 0 => readValueWith none
  | room + 1 => readValueWith (some (readValue room))

/-- Read a whole text.  It cannot nest deeper than it is long. -/
def readText (text : List Char) : Option Document := do
  let (document, rest) ← readValue (text.length + maxParseDepth) (skipWs text)
  if (skipWs rest).isEmpty then return document else none

def readDocument (input : Bytes) : Option Document := (decodeUtf8 input).bind readText

/-! ## The JCS-safe domain -/

/-- Take over members under keys that were not seen before. -/
def jcsMembers (convert : Document → Option JcsValue) :
    List String → List (String × Document) → Option (List (String × JcsValue))
  | _, [] => some []
  | seen, (key, document) :: rest =>
    if key ∈ seen then none
    else do
      let value ← convert document
      let members ← jcsMembers convert (key :: seen) rest
      return (key, value) :: members

def jcsWith (inner : Option (Document → Option JcsValue)) : Document → Option JcsValue
  | .null => some .null
  | .bool value => some (.bool value)
  | .number spelling => (safeNumber spelling).map .number
  | .string value => some (.string value)
  | .array items => do return .array (← items.mapM (← inner))
  | .object members => do return .object (← jcsMembers (← inner) [] members)

/-- The JCS-safe value of a document with at most the given number of levels. -/
def jcsAt : Nat → Document → Option JcsValue
  | 0 => jcsWith none
  | room + 1 => jcsWith (some (jcsAt room))

/-! ## Reading and restricting -/

theorem readInteger_eq_some {input integer rest : List Char}
    (read : readInteger input = some (integer, rest)) (negative : Bool) :
    parseDigits negative input = finishNumber negative integer rest ∧
      ∀ tail, (∀ c, tail.head? = some c → c.isDigit = false) →
        parseDigits negative (integer ++ tail) = finishNumber negative integer tail := by
  cases input with
  | nil => simp [readInteger] at read
  | cons c input =>
    rw [readInteger] at read
    split at read
    · rename_i zero
      cases read
      exact ⟨by simp [parseDigits, zero], fun tail _ => by simp [parseDigits]⟩
    · rename_i notZero
      split at read
      · rename_i digit
        cases read
        refine ⟨by rw [parseDigits, if_neg notZero, if_pos digit], fun tail stops => ?_⟩
        have every : ∀ d ∈ input.takeWhile Char.isDigit, d.isDigit :=
          fun d member => mem_takeWhile_imp member
        have ends : tail.takeWhile Char.isDigit = [] ∧ tail.dropWhile Char.isDigit = tail := by
          cases tail with
          | nil => simp
          | cons d tail => simp [stops d rfl]
        rw [cons_append, parseDigits, if_neg notZero, if_pos digit,
          takeWhile_append_of_pos every, dropWhile_append_of_pos every, ends.1, ends.2,
          append_nil]
      · cases read

theorem parseDigits_of_readInteger_eq_none {input : List Char}
    (unread : readInteger input = none) (negative : Bool) : parseDigits negative input = none := by
  cases input with
  | nil => rfl
  | cons c input =>
    rw [readInteger] at unread
    split at unread
    · cases unread
    · rename_i notZero
      split at unread
      · cases unread
      · rename_i notDigit
        rw [parseDigits, if_neg notZero, if_neg notDigit]

/-- The characters that make a number a fraction or an exponent. -/
def ExtendsNumber (c : Char) : Prop := c = '.' ∨ c = 'e' ∨ c = 'E'

theorem isDigit_of_extendsNumber {c : Char} (continues : ExtendsNumber c) : c.isDigit = false := by
  rcases continues with rfl | rfl | rfl <;> decide

theorem readTail_cases (input : List Char) :
    ((∀ c, input.head? = some c → ¬ ExtendsNumber c) ∧ readTail input = some ([], input)) ∨
      ∃ c, ExtendsNumber c ∧ input.head? = some c ∧
        ∀ tail rest, readTail input = some (tail, rest) → tail.head? = some c := by
  cases input with
  | nil => exact .inl ⟨by simp, rfl⟩
  | cons c input =>
    by_cases point : c = '.'
    · subst point
      refine .inr ⟨'.', .inl rfl, rfl, fun tail rest read => ?_⟩
      simp only [readTail, readFraction, bind_eq_bind, bind_eq_some_iff, Prod.exists] at read
      obtain ⟨_, _, ⟨_, _, _, rfl, rfl⟩, _, _, _, rfl, _⟩ := read
      rfl
    · have whole : readFraction (c :: input) = some ([], c :: input) := by
        unfold readFraction
        split
        · rename_i same
          exact absurd (cons.inj same).1 point
        · rfl
      by_cases lower : c = 'e'
      · subst lower
        refine .inr ⟨'e', .inr (.inl rfl), rfl, fun tail rest read => ?_⟩
        simp only [readTail, whole, readExponent, bind_eq_bind, bind_some, bind_eq_some_iff,
          Prod.exists] at read
        obtain ⟨_, _, ⟨_, _, _, rfl, rfl⟩, rfl, _⟩ := read
        rfl
      · by_cases upper : c = 'E'
        · subst upper
          refine .inr ⟨'E', .inr (.inr rfl), rfl, fun tail rest read => ?_⟩
          simp only [readTail, whole, readExponent, bind_eq_bind, bind_some, bind_eq_some_iff,
            Prod.exists] at read
          obtain ⟨_, _, ⟨_, _, _, rfl, rfl⟩, rfl, _⟩ := read
          rfl
        · refine .inl ⟨by simp [ExtendsNumber, point, lower, upper], ?_⟩
          have unscaled : readExponent (c :: input) = some ([], c :: input) := by
            unfold readExponent
            split
            · rename_i same
              exact absurd (cons.inj same).1 lower
            · rename_i same
              exact absurd (cons.inj same).1 upper
            · rfl
          simp [readTail, whole, unscaled]

theorem finishNumber_eq_none {negative : Bool} {digits rest : List Char} {c : Char}
    (continues : ExtendsNumber c) (head : rest.head? = some c) :
    finishNumber negative digits rest = none := by
  rcases continues with rfl | rfl | rfl <;> simp [finishNumber, head]

theorem finishNumber_eq_map {negative : Bool} {digits rest : List Char}
    (ends : ∀ c, rest.head? = some c → ¬ ExtendsNumber c) :
    finishNumber negative digits rest =
      (wholeNumber (finishNumber negative digits [])).map (fun value => (.number value, rest)) := by
  have alone : finishNumber negative digits rest = (do
      let value ← parseI64 negative digits
      if SafeInteger value then return (.number value, rest) else none) := by
    unfold finishNumber
    split
    · rename_i head
      exact absurd (.inl rfl) (ends _ head)
    · rename_i head
      exact absurd (.inr (.inl rfl)) (ends _ head)
    · rename_i head
      exact absurd (.inr (.inr rfl)) (ends _ head)
    · rfl
  rw [alone]
  cases value : parseI64 negative digits with
  | none => simp [finishNumber, value, wholeNumber]
  | some value' =>
    by_cases safe : SafeInteger value' <;> simp [finishNumber, value, safe, wholeNumber]

theorem parseDigits_eq (negative : Bool) (input : List Char) :
    parseDigits negative input = (readUnsigned input).bind fun read =>
      (wholeNumber (parseDigits negative read.1)).map (fun value => (.number value, read.2)) := by
  cases integer : readInteger input with
  | none => simp [readUnsigned, integer, parseDigits_of_readInteger_eq_none integer]
  | some read =>
    obtain ⟨_, rest⟩ := read
    obtain ⟨parsed, again⟩ := readInteger_eq_some integer negative
    rw [parsed]
    rcases readTail_cases rest with ⟨ends, alone⟩ | ⟨c, continues, head, spelled⟩
    · have reread := again [] (by simp)
      rw [append_nil] at reread
      simp [readUnsigned, integer, alone, reread, finishNumber_eq_map ends]
    · rw [finishNumber_eq_none continues head]
      cases more : readTail rest with
      | none => simp [readUnsigned, integer, more]
      | some read =>
        obtain ⟨tail, rest'⟩ := read
        have tailHead := spelled tail rest' more
        have stops : ∀ d, tail.head? = some d → d.isDigit = false := by
          intro d same
          rw [tailHead] at same
          exact some.inj same ▸ isDigit_of_extendsNumber continues
        simp [readUnsigned, integer, more, again tail stops,
          finishNumber_eq_none continues tailHead, wholeNumber]

theorem head_of_readUnsigned {c : Char} {input spelling rest : List Char}
    (read : readUnsigned (c :: input) = some (spelling, rest)) : spelling.head? = some c := by
  simp only [readUnsigned, bind_eq_bind, bind_eq_some_iff, Prod.exists] at read
  obtain ⟨_, _, isInteger, _, _, _, rfl, _⟩ := read
  rw [readInteger] at isInteger
  split at isInteger
  · rename_i zero
    cases isInteger
    rw [zero]
    rfl
  · split at isInteger
    · cases isInteger
      rfl
    · cases isInteger

theorem parseNumber_eq (input : List Char) :
    parseNumber input = (readNumber input).bind fun read =>
      (safeNumber read.1).map (fun value => (.number value, read.2)) := by
  cases input with
  | nil => rfl
  | cons c input =>
    by_cases minus : c = '-'
    · subst minus
      rw [parseNumber, parseDigits_eq]
      cases read : readUnsigned input with
      | none => simp [readNumber, read]
      | some read => simp [readNumber, read, safeNumber, parseNumber]
    · have unsigned : readNumber (c :: input) = readUnsigned (c :: input) := by
        unfold readNumber
        split
        · rename_i same
          exact absurd (cons.inj same).1 minus
        · rfl
      rw [parseNumber, if_neg minus, parseDigits_eq, unsigned]
      cases read : readUnsigned (c :: input) with
      | none => rfl
      | some read' =>
        obtain ⟨spelling, _⟩ := read'
        have head := head_of_readUnsigned read
        cases spelling with
        | nil => simp at head
        | cons d spelling =>
          simp only [head?_cons, some.injEq] at head
          simp [safeNumber, parseNumber, head, minus]

/-- Parsing is reading followed by a restriction. -/
def Restricts (convert : α → Option β) (read : List Char → Option (α × List Char))
    (parse : List Char → Option (β × List Char)) : Prop :=
  ∀ input, parse input =
    (read input).bind fun found => (convert found.1).map (fun value => (value, found.2))

theorem restricts_number :
    Restricts (fun spelling => (safeNumber spelling).map Json.number) readNumber parseNumber := by
  intro input
  simp only [parseNumber_eq, Option.map_map]
  rfl

section

variable {readItem : List Char → Option (Document × List Char)}
  {parseItem : List Char → Option (JcsValue × List Char)}
  {convert : Document → Option JcsValue}

theorem restricts_items (inner : Restricts convert readItem parseItem) (fuel : Nat) :
    Restricts (mapM convert) (readItems readItem fuel) (parseItems parseItem fuel) := by
  induction fuel with
  | zero => intro input; rfl
  | succ fuel ih =>
    intro input
    rw [parseItems, readItems, inner]
    cases first : readItem (skipWs input) with
    | none => rfl
    | some found =>
      obtain ⟨document, rest⟩ := found
      simp only [bind_eq_bind, bind_some]
      cases value : convert document with
      | none =>
        split
        · cases readItems readItem fuel _ <;> simp [value]
        · simp [value]
        · rfl
      | some value' =>
        simp only [map_some, bind_some]
        generalize skipWs rest = next
        split
        · rename_i others
          rw [ih]
          rcases (readItems readItem fuel others).eq_none_or_eq_some with read | ⟨found, read⟩
          · simp [read]
          · cases more : found.1.mapM convert <;> simp [read, value, more]
        · simp [value]
        · rename_i notComma notClose
          simp

theorem restricts_members (inner : Restricts convert readItem parseItem) (fuel : Nat)
    (seen : List String) :
    Restricts (jcsMembers convert seen) (readMembers readItem fuel)
      (parseMembers parseItem fuel seen) := by
  induction fuel generalizing seen with
  | zero => intro input; rfl
  | succ fuel ih =>
    intro input
    rw [parseMembers, readMembers]
    cases parseString (skipWs input) with
    | none => rfl
    | some key =>
      obtain ⟨key, afterKey⟩ := key
      simp only [bind_eq_bind, bind_some]
      by_cases duplicate : key ∈ seen
      · rw [if_pos duplicate]
        cases expect ':' (skipWs afterKey) with
        | none => rfl
        | some afterColon =>
          simp only [bind_some]
          cases readItem (skipWs afterColon) with
          | none => rfl
          | some found =>
            simp only [bind_some]
            split
            · cases readMembers readItem fuel _ <;> simp [jcsMembers, duplicate]
            · simp [jcsMembers, duplicate]
            · rfl
      · rw [if_neg duplicate]
        cases expect ':' (skipWs afterKey) with
        | none => rfl
        | some afterColon =>
          simp only [bind_some, inner (skipWs afterColon)]
          cases readItem (skipWs afterColon) with
          | none => rfl
          | some found =>
            obtain ⟨document, rest⟩ := found
            simp only [bind_some]
            cases value : convert document with
            | none =>
              split
              · cases readMembers readItem fuel _ <;>
                  simp [jcsMembers, value]
              · simp [jcsMembers, value]
              · rfl
            | some value' =>
              simp only [map_some, bind_some]
              generalize skipWs rest = next
              split
              · rename_i others
                rw [ih]
                rcases (readMembers readItem fuel others).eq_none_or_eq_some with
                  read | ⟨found, read⟩
                · simp [read]
                · cases more : jcsMembers convert (key :: seen) found.1 <;>
                    simp [jcsMembers, duplicate, read, value, more]
              · simp [jcsMembers, duplicate, value]
              · rename_i notComma notClose
                simp

theorem restricts_array (inner : Restricts convert readItem parseItem) :
    Restricts (jcsWith (some convert)) (readArray readItem) (parseArray parseItem) := by
  intro input
  rw [parseArray, readArray]
  cases expect '[' input with
  | none => rfl
  | some opened =>
    simp only [bind_eq_bind, bind_some]
    generalize skipWs opened = next
    split
    · rfl
    · rename_i notClose
      simp only [restricts_items inner _ _]
      cases readItems readItem _ _ with
      | none => rfl
      | some found => cases values : found.1.mapM convert <;> simp [jcsWith, values]

theorem restricts_object (inner : Restricts convert readItem parseItem) :
    Restricts (jcsWith (some convert)) (readObject readItem) (parseObject parseItem) := by
  intro input
  rw [parseObject, readObject]
  cases expect '{' input with
  | none => rfl
  | some opened =>
    simp only [bind_eq_bind, bind_some]
    generalize skipWs opened = next
    split
    · rfl
    · rename_i notClose
      simp only [restricts_members inner _ _ _]
      cases readMembers readItem _ _ with
      | none => rfl
      | some found => cases values : jcsMembers convert [] found.1 <;> simp [jcsWith, values]

end

theorem restricts_valueWith {readInner : Option (List Char → Option (Document × List Char))}
    {parseInner : Option (List Char → Option (JcsValue × List Char))}
    {convertInner : Option (Document → Option JcsValue)}
    (objects : Restricts (jcsWith convertInner) (fun input => readInner.bind (readObject · input))
      (fun input => parseInner.bind (parseObject · input)))
    (arrays : Restricts (jcsWith convertInner) (fun input => readInner.bind (readArray · input))
      (fun input => parseInner.bind (parseArray · input))) :
    Restricts (jcsWith convertInner) (readValueWith readInner) (parseValueWith parseInner) := by
  intro input
  rw [parseValueWith, readValueWith]
  generalize head : input.head? = first
  split
  · exact objects input
  · exact arrays input
  · cases parseString input <;> rfl
  · cases parseLiteral ['t', 'r', 'u', 'e'] input <;> rfl
  · cases parseLiteral ['f', 'a', 'l', 's', 'e'] input <;> rfl
  · cases parseLiteral ['n', 'u', 'l', 'l'] input <;> rfl
  · split
    · rw [restricts_number]
      cases read : readNumber input with
      | none => simp [*]
      | some found => simp [*, jcsWith]
    · simp [*]
  · rfl

theorem restricts_value {room fuel : Nat} (enough : room ≤ fuel) :
    Restricts (jcsAt room) (readValue fuel) (parseValue room) := by
  induction room generalizing fuel with
  | zero =>
    have unreadable : ∀ readInner, Restricts (jcsWith none) (readValueWith readInner)
        (parseValueWith none) := by
      intro readInner
      apply restricts_valueWith
      · intro input
        cases readInner with
        | none => rfl
        | some readItem =>
          simp only [readObject]
          cases expect '{' input with
          | none => rfl
          | some opened =>
            simp only [bind_eq_bind, bind_some]
            split
            · rfl
            · cases readMembers readItem _ _ <;> rfl
      · intro input
        cases readInner with
        | none => rfl
        | some readItem =>
          simp only [readArray]
          cases expect '[' input with
          | none => rfl
          | some opened =>
            simp only [bind_eq_bind, bind_some]
            split
            · rfl
            · cases readItems readItem _ _ <;> rfl
    cases fuel with
    | zero => exact unreadable none
    | succ fuel => exact unreadable _
  | succ room ih =>
    cases fuel with
    | zero => omega
    | succ fuel =>
      have inner := ih (Nat.le_of_succ_le_succ enough)
      exact restricts_valueWith (restricts_object inner) (restricts_array inner)

theorem parse_eq (input : Bytes) :
    parse input = ((readDocument input).bind (jcsAt maxParseDepth)).okOr
      .canonicalizationFailed := by
  have text : parseText = fun text => (readText text).bind (jcsAt maxParseDepth) := by
    funext text
    rw [parseText, readText, restricts_value (Nat.le_add_left maxParseDepth text.length)]
    cases readValue (text.length + maxParseDepth) (skipWs text) with
    | none => rfl
    | some found =>
      simp only [bind_eq_bind, bind_some]
      by_cases whole : (skipWs found.2).isEmpty = true
      · rw [if_pos whole]
        have ended := isEmpty_iff.mp whole
        cases jcs : jcsAt maxParseDepth found.1 <;> simp [ended, jcs]
      · rw [if_neg whole]
        have left := mt List.isEmpty_iff.mpr whole
        cases jcsAt maxParseDepth found.1 <;> simp [left]
  rw [parse, readDocument, text, bind_assoc]
  cases (decodeUtf8 input).bind fun text => (readText text).bind (jcsAt maxParseDepth) <;> rfl

end Mcps
