import Mcps.Lib.JsonOrder
import Mcps.Lib.Separated

/-!
# The grammar of JSON

RFC 8259 as relations between texts and trees.  A spelled tree keeps every number and every
string as it is spelled in the text, a string without its quotes; what the spellings denote
is said separately.  The grammar lets a `\u` escape be any code unit, while a string denotes
characters only if its surrogates come in pairs.

Blanks stand around values and names, which is where the structural characters allow them.
-/

namespace JsonGrammar

/-- A JSON text as a tree of spellings. -/
abbrev Spelled := Json (List Char)

/-! ## Tokens -/

/-- Insignificant whitespace. -/
def Blank (text : List Char) : Prop := ∀ c ∈ text, c = ' ' ∨ c = '\t' ∨ c = '\n' ∨ c = '\r'

/-- A hexadecimal digit and its value. -/
inductive HexDigit : Char → Nat → Prop
  | decimal {c : Char} : '0' ≤ c → c ≤ '9' → HexDigit c (c.toNat - '0'.toNat)
  | lower {c : Char} : 'a' ≤ c → c ≤ 'f' → HexDigit c (c.toNat - 'a'.toNat + 10)
  | upper {c : Char} : 'A' ≤ c → c ≤ 'F' → HexDigit c (c.toNat - 'A'.toNat + 10)

/-- Four hexadecimal digits and the code unit they write. -/
inductive CodeUnit : List Char → Nat → Prop
  | digits {a b c d : Char} {i j k l : Nat} : HexDigit a i → HexDigit b j → HexDigit c k →
      HexDigit d l → CodeUnit [a, b, c, d] (((i * 16 + j) * 16 + k) * 16 + l)

/-- A character that may stand in a string as it is. -/
def Unescaped (c : Char) : Prop := 0x20 ≤ c.toNat ∧ c ≠ '"' ∧ c ≠ '\\'

/-- The letters behind a backslash, with what they stand for. -/
def escapeLetters : List (Char × Char) :=
  [('"', '"'), ('\\', '\\'), ('/', '/'), ('b', '\x08'), ('f', '\x0c'), ('n', '\n'), ('r', '\r'),
    ('t', '\t')]

/-- The spelling of a string. -/
inductive StringText : List Char → Prop
  | nil : StringText []
  | plain {c : Char} {text : List Char} : Unescaped c → StringText text → StringText (c :: text)
  | short {letter c : Char} {text : List Char} : (letter, c) ∈ escapeLetters → StringText text →
      StringText ('\\' :: letter :: text)
  | escape {digits text : List Char} {unit : Nat} : CodeUnit digits unit → StringText text →
      StringText ('\\' :: 'u' :: (digits ++ text))

def HighSurrogate (unit : Nat) : Prop := 0xD800 ≤ unit ∧ unit ≤ 0xDBFF

def LowSurrogate (unit : Nat) : Prop := 0xDC00 ≤ unit ∧ unit ≤ 0xDFFF

/-- Every surrogate escape of a spelling is part of a high-low pair. -/
inductive Paired : List Char → Prop
  | nil : Paired []
  | plain {c : Char} {text : List Char} : Unescaped c → Paired text → Paired (c :: text)
  | short {letter c : Char} {text : List Char} : (letter, c) ∈ escapeLetters → Paired text →
      Paired ('\\' :: letter :: text)
  | escape {digits text : List Char} {unit : Nat} : CodeUnit digits unit →
      ¬ HighSurrogate unit → ¬ LowSurrogate unit → Paired text →
      Paired ('\\' :: 'u' :: (digits ++ text))
  | pair {first second text : List Char} {high low : Nat} : CodeUnit first high →
      HighSurrogate high → CodeUnit second low → LowSurrogate low → Paired text →
      Paired ('\\' :: 'u' :: (first ++ '\\' :: 'u' :: (second ++ text)))

/-- The characters a spelling denotes. -/
inductive Unescapes : List Char → List Char → Prop
  | nil : Unescapes [] []
  | plain {c : Char} {text chars : List Char} : Unescaped c → Unescapes text chars →
      Unescapes (c :: text) (c :: chars)
  | short {letter c : Char} {text chars : List Char} : (letter, c) ∈ escapeLetters →
      Unescapes text chars → Unescapes ('\\' :: letter :: text) (c :: chars)
  | escape {c : Char} {digits text chars : List Char} : CodeUnit digits c.toNat →
      Unescapes text chars → Unescapes ('\\' :: 'u' :: (digits ++ text)) (c :: chars)
  | pair {c : Char} {first second text chars : List Char} {high low : Nat} :
      CodeUnit first high → HighSurrogate high → CodeUnit second low → LowSurrogate low →
      c.toNat = 0x10000 + (high - 0xD800) * 0x400 + (low - 0xDC00) → Unescapes text chars →
      Unescapes ('\\' :: 'u' :: (first ++ '\\' :: 'u' :: (second ++ text))) (c :: chars)

/-- An integer without its sign: a zero, or digits that do not begin with one. -/
inductive IntegerText : List Char → Prop
  | zero : IntegerText ['0']
  | digits {c : Char} {digits : List Char} : '1' ≤ c → c ≤ '9' →
      (∀ d ∈ digits, d.isDigit = true) → IntegerText (c :: digits)

/-- A fraction, or none. -/
inductive FractionText : List Char → Prop
  | none : FractionText []
  | digits {digits : List Char} : digits ≠ [] → (∀ d ∈ digits, d.isDigit = true) →
      FractionText ('.' :: digits)

/-- A minus sign, or none. -/
def MinusText (sign : List Char) : Prop := sign = [] ∨ sign = ['-']

/-- An exponent, or none. -/
inductive ExponentText : List Char → Prop
  | none : ExponentText []
  | digits {letter : Char} {sign digits : List Char} : letter = 'e' ∨ letter = 'E' →
      MinusText sign ∨ sign = ['+'] → digits ≠ [] → (∀ d ∈ digits, d.isDigit = true) →
      ExponentText (letter :: (sign ++ digits))

/-- The spelling of a number. -/
inductive NumberText : List Char → Prop
  | number {sign integer fraction exponent : List Char} : MinusText sign → IntegerText integer →
      FractionText fraction → ExponentText exponent →
      NumberText (sign ++ integer ++ fraction ++ exponent)

/-- A number without a fraction and an exponent, and its value. -/
inductive IntegerLiteral : List Char → Int → Prop
  | natural {integer : List Char} : IntegerText integer →
      IntegerLiteral integer (Nat.ofDigitChars 10 integer 0)
  | negative {integer : List Char} : IntegerText integer →
      IntegerLiteral ('-' :: integer) (-(Nat.ofDigitChars 10 integer 0 : Int))

/-! ## Texts -/

mutual
/-- The text of a value, without blanks around it. -/
inductive ValueText : Spelled → List Char → Prop
  | null : ValueText .null ['n', 'u', 'l', 'l']
  | true : ValueText (.bool true) ['t', 'r', 'u', 'e']
  | false : ValueText (.bool false) ['f', 'a', 'l', 's', 'e']
  | number {spelling : List Char} : NumberText spelling → ValueText (.number spelling) spelling
  | string {spelling : String} : StringText spelling.toList →
      ValueText (.string spelling) ('"' :: (spelling.toList ++ ['"']))
  | emptyArray {blank : List Char} : Blank blank → ValueText (.array []) ('[' :: (blank ++ [']']))
  | array {items : List Spelled} {text : List Char} : ItemsText items text →
      ValueText (.array items) ('[' :: (text ++ [']']))
  | emptyObject {blank : List Char} : Blank blank →
      ValueText (.object []) ('{' :: (blank ++ ['}']))
  | object {members : List (String × Spelled)} {text : List Char} : MembersText members text →
      ValueText (.object members) ('{' :: (text ++ ['}']))

/-- One value or more, with commas between them. -/
inductive ItemsText : List Spelled → List Char → Prop
  | last {item : Spelled} {before text after : List Char} : Blank before → ValueText item text →
      Blank after → ItemsText [item] (before ++ (text ++ after))
  | more {item : Spelled} {items : List Spelled} {before text after rest : List Char} :
      Blank before → ValueText item text → Blank after → ItemsText items rest →
      ItemsText (item :: items) (before ++ (text ++ (after ++ ',' :: rest)))

/-- One member or more, with commas between them. -/
inductive MembersText : List (String × Spelled) → List Char → Prop
  | last {name : String} {value : Spelled} {before afterName beforeValue text after : List Char} :
      Blank before → StringText name.toList → Blank afterName → Blank beforeValue →
      ValueText value text → Blank after →
      MembersText [(name, value)] (before ++ ('"' :: (name.toList ++ '"' ::
        (afterName ++ ':' :: (beforeValue ++ (text ++ after))))))
  | more {name : String} {value : Spelled} {members : List (String × Spelled)}
      {before afterName beforeValue text after rest : List Char} :
      Blank before → StringText name.toList → Blank afterName → Blank beforeValue →
      ValueText value text → Blank after → MembersText members rest →
      MembersText ((name, value) :: members) (before ++ ('"' :: (name.toList ++ '"' ::
        (afterName ++ ':' :: (beforeValue ++ (text ++ (after ++ ',' :: rest)))))))
end

/-- A JSON text: a value with blanks around it. -/
def JsonText (text : List Char) (tree : Spelled) : Prop :=
  ∃ before value after, Blank before ∧ ValueText tree value ∧ Blank after ∧
    text = before ++ (value ++ after)

/-! ## Restrictions -/

/-- A number, if the node is one, is an integer literal of at most some magnitude. -/
def IntegerWithin (bound : Int) : Spelled → Prop
  | .number spelling => ∃ value, IntegerLiteral spelling value ∧ -bound ≤ value ∧ value ≤ bound
  | _ => True

/-- No two names of the node, if it is an object, denote the same. -/
def NamesDiffer : Spelled → Prop
  | .object members => members.Pairwise fun first second =>
    ∀ chars, ¬ (Unescapes first.1.toList chars ∧ Unescapes second.1.toList chars)
  | _ => True

/-- The surrogate escapes in the strings of the node are paired. -/
def SurrogatesPaired : Spelled → Prop
  | .string spelling => Paired spelling.toList
  | .object members => ∀ member ∈ members, Paired member.1.toList
  | _ => True

/-! ## Meaning -/

mutual
/-- The value a tree denotes, if its numbers are integers. -/
inductive Denotes : Spelled → Json Int → Prop
  | null : Denotes .null .null
  | bool {value : Bool} : Denotes (.bool value) (.bool value)
  | number {spelling : List Char} {value : Int} : IntegerLiteral spelling value →
      Denotes (.number spelling) (.number value)
  | string {spelling value : String} : Unescapes spelling.toList value.toList →
      Denotes (.string spelling) (.string value)
  | array {items : List Spelled} {values : List (Json Int)} : DenotesItems items values →
      Denotes (.array items) (.array values)
  | object {members : List (String × Spelled)} {values : List (String × Json Int)} :
      DenotesMembers members values → Denotes (.object members) (.object values)

/-- The values of the items of an array. -/
inductive DenotesItems : List Spelled → List (Json Int) → Prop
  | nil : DenotesItems [] []
  | cons {item : Spelled} {value : Json Int} {items : List Spelled} {values : List (Json Int)} :
      Denotes item value → DenotesItems items values →
      DenotesItems (item :: items) (value :: values)

/-- The names and values of the members of an object. -/
inductive DenotesMembers : List (String × Spelled) → List (String × Json Int) → Prop
  | nil : DenotesMembers [] []
  | cons {spelling name : String} {item : Spelled} {value : Json Int}
      {members : List (String × Spelled)} {values : List (String × Json Int)} :
      Unescapes spelling.toList name.toList → Denotes item value →
      DenotesMembers members values →
      DenotesMembers ((spelling, item) :: members) ((name, value) :: values)
end

/-! ## Spellings that denote something -/

variable {text : List Char}

theorem Unescapes.stringText {chars : List Char} (denotes : Unescapes text chars) :
    StringText text := by
  induction denotes with
  | nil => exact .nil
  | plain unescaped _ ih => exact .plain unescaped ih
  | short letter _ ih => exact .short letter ih
  | escape digits _ ih => exact .escape digits ih
  | pair first _ second _ _ _ ih => exact .escape first (.escape second ih)

theorem Unescapes.paired {chars : List Char} (denotes : Unescapes text chars) : Paired text := by
  induction denotes with
  | nil => exact .nil
  | plain unescaped _ ih => exact .plain unescaped ih
  | short letter _ ih => exact .short letter ih
  | @escape c _ _ _ digits _ ih =>
    have proper := toNat_char c
    refine .escape digits ?_ ?_ ih
    · rw [HighSurrogate]
      omega
    · rw [LowSurrogate]
      omega
  | pair first high second low _ _ ih => exact .pair first high second low ih

theorem IntegerLiteral.numberText {spelling : List Char} {value : Int}
    (literal : IntegerLiteral spelling value) : NumberText spelling := by
  cases literal with
  | natural integer =>
    have number := NumberText.number (.inl rfl) integer .none .none
    simpa using number
  | negative integer =>
    have number := NumberText.number (.inr rfl) integer .none .none
    simpa using number

theorem IntegerText.ne_minus {integer : List Char} (digits : IntegerText integer)
    (rest : List Char) : integer ≠ '-' :: rest := by
  intro same
  cases digits with
  | zero => cases same
  | digits low _ _ =>
    cases same
    exact absurd low (by decide)

theorem IntegerLiteral.unique {spelling : List Char} {first second : Int}
    (one : IntegerLiteral spelling first) (other : IntegerLiteral spelling second) :
    first = second := by
  cases one with
  | natural digits =>
    cases other with
    | natural _ => rfl
    | negative _ => exact absurd rfl (digits.ne_minus _)
  | negative _ =>
    cases other with
    | natural digits => exact absurd rfl (digits.ne_minus _)
    | negative _ => rfl

/-! ## The parts of containers -/

variable {items : List Spelled}

theorem denotesItems_iff {values : List (Json Int)} :
    DenotesItems items values ↔ List.Forall₂ Denotes items values := by
  constructor
  · intro every
    induction items generalizing values with
    | nil =>
      cases every
      exact .nil
    | cons item items ih =>
      cases every with
      | cons first others => exact .cons first (ih others)
  · intro every
    induction every with
    | nil => exact .nil
    | cons first _ ih => exact .cons first ih

variable {members : List (String × Spelled)}

theorem denotesMembers_iff {values : List (String × Json Int)} :
    DenotesMembers members values ↔ List.Forall₂ (fun member value =>
      Unescapes member.1.toList value.1.toList ∧ Denotes member.2 value.2) members values := by
  constructor
  · intro every
    induction members generalizing values with
    | nil =>
      cases every
      exact .nil
    | cons member members ih =>
      cases every with
      | cons name first others => exact .cons ⟨name, first⟩ (ih others)
  · intro every
    induction every with
    | nil => exact .nil
    | cons first _ ih => exact .cons first.1 first.2 ih

/-- A blank character. -/
def isBlank (c : Char) : Bool := c = ' ' || c = '\t' || c = '\n' || c = '\r'

theorem blank_iff : Blank text ↔ Separated.Blank isBlank text := by
  simp [Blank, Separated.Blank, isBlank, or_assoc]

/-- The text of a member. -/
def MemberText (member : String × Spelled) (text : List Char) : Prop :=
  ∃ afterName beforeValue value, Blank afterName ∧ Blank beforeValue ∧
    StringText member.1.toList ∧ ValueText member.2 value ∧
    text = '"' :: (member.1.toList ++ '"' :: (afterName ++ ':' :: (beforeValue ++ value)))

theorem itemsText_iff :
    ItemsText items text ↔ Separated.PartsText isBlank ValueText items text := by
  constructor
  · intro spelled
    induction items generalizing text with
    | nil => cases spelled
    | cons item items ih =>
      cases spelled with
      | last before value after => exact .last (blank_iff.mp before) value (blank_iff.mp after)
      | more before value after others =>
        exact .more (blank_iff.mp before) value (blank_iff.mp after) (ih others)
  · intro spelled
    induction spelled with
    | last before value after => exact .last (blank_iff.mpr before) value (blank_iff.mpr after)
    | more before value after _ ih =>
      exact .more (blank_iff.mpr before) value (blank_iff.mpr after) ih

theorem membersText_iff :
    MembersText members text ↔ Separated.PartsText isBlank MemberText members text := by
  constructor
  · intro spelled
    induction members generalizing text with
    | nil => cases spelled
    | cons member members ih =>
      cases spelled with
      | last before name afterName beforeValue value after =>
        have member : MemberText (_, _) _ :=
          ⟨_, _, _, afterName, beforeValue, name, value, rfl⟩
        simpa using Separated.PartsText.last (blank_iff.mp before) member (blank_iff.mp after)
      | more before name afterName beforeValue value after others =>
        have member : MemberText (_, _) _ :=
          ⟨_, _, _, afterName, beforeValue, name, value, rfl⟩
        simpa using Separated.PartsText.more (blank_iff.mp before) member (blank_iff.mp after)
          (ih others)
  · intro spelled
    induction spelled with
    | last before member after =>
      obtain ⟨_, _, _, afterName, beforeValue, name, value, rfl⟩ := member
      have members := MembersText.last (blank_iff.mpr before) name afterName beforeValue value
        (blank_iff.mpr after)
      simpa using members
    | more before member after _ ih =>
      obtain ⟨_, _, _, afterName, beforeValue, name, value, rfl⟩ := member
      have members := MembersText.more (blank_iff.mpr before) name afterName beforeValue value
        (blank_iff.mpr after) ih
      simpa using members

theorem valueText_array_iff :
    ValueText (.array items) text ↔
      ∃ rest, text = '[' :: rest ∧ Separated.RestText isBlank ']' ValueText items rest := by
  constructor
  · intro spelled
    cases spelled with
    | emptyArray blanks => exact ⟨_, rfl, .empty (blank_iff.mp blanks)⟩
    | array items => exact ⟨_, rfl, .parts (itemsText_iff.mp items)⟩
  · intro ⟨_, same, spelled⟩
    subst same
    cases spelled with
    | empty blanks => exact .emptyArray (blank_iff.mpr blanks)
    | parts items => exact .array (itemsText_iff.mpr items)

theorem valueText_object_iff :
    ValueText (.object members) text ↔
      ∃ rest, text = '{' :: rest ∧ Separated.RestText isBlank '}' MemberText members rest := by
  constructor
  · intro spelled
    cases spelled with
    | emptyObject blanks => exact ⟨_, rfl, .empty (blank_iff.mp blanks)⟩
    | object members => exact ⟨_, rfl, .parts (membersText_iff.mp members)⟩
  · intro ⟨_, same, spelled⟩
    subst same
    cases spelled with
    | empty blanks => exact .emptyObject (blank_iff.mpr blanks)
    | parts members => exact .object (membersText_iff.mpr members)

/-! ## Documents of integers -/

/-- A tree whose numbers are integer literals, and the tree of what its strings denote. -/
inductive Resolves : Spelled → Spelled → Prop
  | null : Resolves .null .null
  | bool {value : Bool} : Resolves (.bool value) (.bool value)
  | number {spelling : List Char} {value : Int} : IntegerLiteral spelling value →
      Resolves (.number spelling) (.number spelling)
  | string {spelling value : String} : Unescapes spelling.toList value.toList →
      Resolves (.string spelling) (.string value)
  | array {pairs : List (Spelled × Spelled)} : (∀ pair ∈ pairs, Resolves pair.1 pair.2) →
      Resolves (.array (pairs.map Prod.fst)) (.array (pairs.map Prod.snd))
  | object {pairs : List ((String × Spelled) × (String × Spelled))} :
      (∀ pair ∈ pairs, Unescapes pair.1.1.toList pair.2.1.toList) →
      (∀ pair ∈ pairs, Resolves pair.1.2 pair.2.2) →
      Resolves (.object (pairs.map Prod.fst)) (.object (pairs.map Prod.snd))

end JsonGrammar
