import Mcps.Proxy.EnvoyQuoting

/-!
# The common name of a certificate, directly and forwarded

With direct TLS the common name is the first one of the leaf's subject.  Behind a reverse
proxy it is read off the subject as an RFC 2253 string, which begins with the last relative
name and escapes special characters and the spaces at the ends of a value.

The two agree on a subject with one common name that has no whitespace around it.  They
differ for a second common name in another relative name, because the string is reversed, and
for whitespace in front, which only the forwarded identity loses.
-/

namespace Mcps

open List

/-! ## Certificates -/

/-- A character of an attribute keyword or of a dotted object identifier. -/
def isKeywordChar (c : Char) : Bool := c.isAlphanum || c = '.' || c = '-'

/-- The keyword of an attribute type other than the common name. -/
structure Keyword where
  text : List Char
  plain : ∀ c ∈ text, isKeywordChar c = true
  other : toAsciiLowercase text ≠ ['c', 'n']

inductive AttributeType where
  | commonName
  | other (keyword : Keyword)

structure Attribute where
  type : AttributeType
  value : List Char

/-- The relative distinguished names of a subject in the order of the certificate. -/
abbrev Subject := List (List Attribute)

inductive GeneralName where
  | uri (name : String)
  | dnsName (name : String)
  | other

/-- What a parsed certificate says about its subject. -/
structure Certificate where
  subject : Subject
  subjectAlternativeName : Option (List GeneralName)

def Attribute.commonName? (attr : Attribute) : Option (List Char) :=
  match attr.type with
  | .commonName => some attr.value
  | .other _ => none

/-- `iter_common_name().next()`. -/
def firstCommonName (subject : Subject) : Option (List Char) :=
  subject.flatten.findSome? Attribute.commonName?

/-- The identity of a leaf certificate, if it parses and has the field. -/
def extractIdentity (leaf : Option Certificate) (policy : IdentityPolicy) :
    Option TransportIdentity := do
  let certificate ← leaf
  match policy with
  | .uriSan =>
    let names ← certificate.subjectAlternativeName
    names.findSome? fun name =>
      match name with
      | .uri uri => some ⟨uri, .uriSan⟩
      | _ => none
  | .dnsSan =>
    let names ← certificate.subjectAlternativeName
    names.findSome? fun name =>
      match name with
      | .dnsName dns => some ⟨dns, .dnsSan⟩
      | _ => none
  | .cnLegacy =>
    let commonName ← firstCommonName certificate.subject
    return ⟨String.ofList commonName, .commonName⟩

theorem extractIdentity_cnLegacy (certificate : Certificate) :
    extractIdentity (some certificate) .cnLegacy =
      (firstCommonName certificate.subject).map fun name =>
        ⟨String.ofList name, .commonName⟩ := by
  rw [Option.map_eq_bind]
  rfl

/-! ## RFC 2253 -/

def isSpecial (c : Char) : Bool :=
  c = ',' || c = '+' || c = '"' || c = '\\' || c = '<' || c = '>' || c = ';'

def escapeChar (c : Char) : List Char := if isSpecial c then ['\\', c] else [c]

def escapeFirst (c : Char) : List Char := if c = ' ' || c = '#' then ['\\', c] else escapeChar c

/-- Escape special characters, and a space or a number sign in front. -/
def escapeLeading : List Char → List Char
  | [] => []
  | c :: rest => escapeFirst c ++ rest.flatMap escapeChar

/-- Escape an attribute value; a space at its end too. -/
def escapeValue (value : List Char) : List Char :=
  if value.getLast? = some ' ' then escapeLeading value.dropLast ++ ['\\', ' ']
  else escapeLeading value

def AttributeType.name : AttributeType → List Char
  | .commonName => ['C', 'N']
  | .other keyword => keyword.text

def renderAttribute (attr : Attribute) : List Char := attr.type.name ++ '=' :: escapeValue attr.value

def renderRdn (rdn : List Attribute) : List Char := List.intercalate ['+'] (rdn.map renderAttribute)

/-- The subject as a string, with the last relative name first. -/
def renderSubject (subject : Subject) : List Char :=
  List.intercalate [','] (subject.reverse.map renderRdn)

/-! ## Resolving escapes -/

theorem unescapeBytes_cons {byte : UInt8} (plain : byte ≠ backslash) (rest : Bytes) :
    unescapeBytes (byte :: rest) = (unescapeBytes rest).map (byte :: ·) := by
  cases rest with
  | nil => simp [unescapeBytes, plain]
  | cons next rest =>
    rw [unescapeBytes.eq_def (byte :: next :: rest)]
    simp [plain]

theorem unescapeBytes_append {bytes : Bytes} (plain : backslash ∉ bytes) (rest : Bytes) :
    unescapeBytes (bytes ++ rest) = (unescapeBytes rest).map (bytes ++ ·) := by
  induction bytes with
  | nil => simp
  | cons byte bytes ih =>
    obtain ⟨other, plain⟩ := not_or.mp (mt mem_cons.mpr plain)
    rw [cons_append, unescapeBytes_cons (Ne.symm other), ih plain, Option.map_map]
    rfl

theorem unescapeBytes_escape {next : UInt8} (literal : hexDigit next = none) (rest : Bytes) :
    unescapeBytes (backslash :: next :: rest) = (unescapeBytes rest).map (next :: ·) := by
  cases rest with
  | nil => simp [unescapeBytes]
  | cons after rest => simp [unescapeBytes, literal]

/-- Resolve the escapes of a text without quotes around it. -/
def unescapeText (text : List Char) : Option (List Char) :=
  unescapeBytes (encodeUtf8 text) >>= decodeUtf8

/-- A character that an escape makes literal. -/
def Escapable (c : Char) : Prop := isSpecial c = true ∨ c = ' ' ∨ c = '#'

variable {c : Char}

theorem unescapeBytes_escaped (escapable : Escapable c) (rest : List Char) :
    unescapeBytes (encodeUtf8 (['\\', c] ++ rest)) =
      (unescapeBytes (encodeUtf8 rest)).map (encodeUtf8 [c] ++ ·) := by
  have known : c ∈ [',', '+', '"', '\\', '<', '>', ';', ' ', '#'] := by
    simpa [Escapable, isSpecial, or_assoc] using escapable
  have encoded : ∀ c ∈ [',', '+', '"', '\\', '<', '>', ';', ' ', '#'],
      encodeUtf8 ['\\', c] = backslash :: encodeUtf8 [c] ∧
        ∃ byte, encodeUtf8 [c] = [byte] ∧ hexDigit byte = none := by
    intro c member
    refine ⟨rfl, UInt8.ofNat c.toNat, ?_⟩
    revert c
    decide
  obtain ⟨escape, byte, single, literal⟩ := encoded c known
  rw [encodeUtf8_append, escape, single]
  exact unescapeBytes_escape literal _

theorem unescapeBytes_escapeChar (c : Char) (rest : List Char) :
    unescapeBytes (encodeUtf8 (escapeChar c ++ rest)) =
      (unescapeBytes (encodeUtf8 rest)).map (encodeUtf8 [c] ++ ·) := by
  by_cases special : isSpecial c = true
  · rw [escapeChar, if_pos special]
    exact unescapeBytes_escaped (.inl special) rest
  · rw [escapeChar, if_neg special, encodeUtf8_append]
    apply unescapeBytes_append
    have other : '\\' ∉ [c] := by
      rintro member
      cases mem_singleton.mp member
      exact special (by decide)
    exact ascii_notMem_encodeUtf8 (by decide) other

variable (text : List Char)

theorem unescapeBytes_flatMap (rest : List Char) :
    unescapeBytes (encodeUtf8 (text.flatMap escapeChar ++ rest)) =
      (unescapeBytes (encodeUtf8 rest)).map (encodeUtf8 text ++ ·) := by
  induction text with
  | nil => simp [encodeUtf8]
  | cons c text ih =>
    rw [flatMap_cons, append_assoc, unescapeBytes_escapeChar, ih]
    simp [Function.comp_def, encodeUtf8]

theorem unescapeBytes_escapeFirst (c : Char) (rest : List Char) :
    unescapeBytes (encodeUtf8 (escapeFirst c ++ rest)) =
      (unescapeBytes (encodeUtf8 rest)).map (encodeUtf8 [c] ++ ·) := by
  rw [escapeFirst]
  split
  · rename_i edge
    exact unescapeBytes_escaped (.inr (by simpa using edge)) rest
  · exact unescapeBytes_escapeChar c rest

theorem unescapeText_eq_some {text resolved : List Char}
    (bytes : unescapeBytes (encodeUtf8 text) = some (encodeUtf8 resolved)) :
    unescapeText text = some resolved := by
  rw [unescapeText, bytes, Option.bind_eq_bind, Option.bind_some, decodeUtf8_encodeUtf8]

theorem unescapeBytes_flatMap_nil :
    unescapeBytes (encodeUtf8 (text.flatMap escapeChar)) = some (encodeUtf8 text) := by
  have resolved := unescapeBytes_flatMap text []
  have empty : unescapeBytes (encodeUtf8 []) = some [] := rfl
  rw [empty] at resolved
  simpa using resolved

theorem unescapeText_flatMap : unescapeText (text.flatMap escapeChar) = some text :=
  unescapeText_eq_some (unescapeBytes_flatMap_nil text)

theorem unescapeText_escapeFirst (c : Char) (text : List Char) :
    unescapeText (escapeFirst c ++ text.flatMap escapeChar) = some (c :: text) := by
  apply unescapeText_eq_some
  rw [unescapeBytes_escapeFirst, unescapeBytes_flatMap_nil, Option.map_some, ← encodeUtf8_append]
  rfl

theorem unescapeText_dangling : unescapeText (text.flatMap escapeChar ++ ['\\']) = none := by
  have none : unescapeBytes (encodeUtf8 ['\\']) = none := by decide
  rw [unescapeText, unescapeBytes_flatMap]
  rfl

theorem unescapeText_escapeFirst_dangling (c : Char) (text : List Char) :
    unescapeText (escapeFirst c ++ text.flatMap escapeChar ++ ['\\']) = none := by
  have none : unescapeBytes (encodeUtf8 ['\\']) = none := by decide
  rw [unescapeText, append_assoc, unescapeBytes_escapeFirst, unescapeBytes_flatMap]
  rfl

/-! ## Escapes and trimming -/

theorem escapeChar_of_space (space : isWhitespace c = true) : escapeChar c = [c] := by
  have plain : isSpecial c ≠ true := by
    intro special
    have known : c ∈ [',', '+', '"', '\\', '<', '>', ';'] := by
      simpa [isSpecial, or_assoc] using special
    have bare : ∀ c ∈ [',', '+', '"', '\\', '<', '>', ';'], isWhitespace c = false := by decide
    simp [bare c known] at space
  rw [escapeChar, if_neg plain]

theorem flatMap_spaces {text : List Char} (spaces : ∀ c ∈ text, isWhitespace c = true) :
    text.flatMap escapeChar = text := by
  rw [flatMap_congr fun c member => escapeChar_of_space (spaces c member), flatMap_singleton']

theorem head?_escapeChar (c : Char) (rest : List Char) :
    (escapeChar c ++ rest).head? = some '\\' ∨ (escapeChar c ++ rest).head? = some c := by
  rw [escapeChar]
  split
  · exact .inl rfl
  · exact .inr rfl

theorem getLast?_flatMap : (text.flatMap escapeChar).getLast? = text.getLast? := by
  rcases eq_nil_or_concat text with rfl | ⟨_, c, rfl⟩
  · rfl
  · have ends : (escapeChar c).getLast? = some c := by
      rw [escapeChar]
      split <;> rfl
    rw [concat_eq_append, flatMap_append, flatMap_singleton, getLast?_append, ends]
    simp

theorem head_flatMap {text : List Char} (first : ∀ c ∈ text.head?, isWhitespace c = false) :
    ∀ c ∈ (text.flatMap escapeChar).head?, isWhitespace c = false := by
  cases text with
  | nil => simp
  | cons c text =>
    intro d head
    rcases head?_escapeChar c (text.flatMap escapeChar) with slash | plain
    · cases slash.symm.trans head
      decide
    · cases plain.symm.trans head
      exact first c rfl

theorem bare_flatMap {core : List Char} (bare : Bare core) : Bare (core.flatMap escapeChar) := by
  refine ⟨head_flatMap bare.1, ?_⟩
  rw [getLast?_flatMap]
  exact bare.2

theorem escapeFirst_of_ne (space : isWhitespace c = true) (other : c ≠ ' ') :
    escapeFirst c = [c] := by
  have sharp : c ≠ '#' := by
    rintro rfl
    exact absurd space (by decide)
  rw [escapeFirst, if_neg (by simp [other, sharp]), escapeChar_of_space space]

theorem escapeFirst_space : escapeFirst ' ' = ['\\', ' '] := rfl

theorem getLast?_escapeFirst (c : Char) (core : List Char) :
    (escapeFirst c ++ core.flatMap escapeChar).getLast? = (c :: core).getLast? := by
  by_cases edge : (c = ' ' || c = '#') = true
  · rw [escapeFirst, if_pos edge, getLast?_append, getLast?_flatMap]
    cases core with
    | nil => rfl
    | cons d core => simp [getLast?_cons]
  · rw [escapeFirst, if_neg edge]
    exact getLast?_flatMap (c :: core)

theorem head_escapeFirst (first : c = ' ' ∨ isWhitespace c = false) (core : List Char) :
    ∀ d ∈ (escapeFirst c ++ core.flatMap escapeChar).head?, isWhitespace d = false := by
  by_cases edge : (c = ' ' || c = '#') = true
  · rw [escapeFirst, if_pos edge]
    intro d head
    cases head
    decide
  · have other : c ≠ ' ' := by
      rintro rfl
      exact edge rfl
    rw [escapeFirst, if_neg edge]
    apply @head_flatMap (c :: core)
    rintro d ⟨⟩
    exact first.resolve_left other

theorem bare_escapeFirst {core : List Char} (first : c = ' ' ∨ isWhitespace c = false)
    (last : ∀ d ∈ (c :: core).getLast?, isWhitespace d = false) :
    Bare (escapeFirst c ++ core.flatMap escapeChar) := by
  refine ⟨head_escapeFirst first core, ?_⟩
  rw [getLast?_escapeFirst]
  exact last

theorem trim_spaces {text : List Char} (spaces : ∀ c ∈ text, isWhitespace c = true) :
    trim text = [] := by
  simpa using @trim_append text [] [] ⟨nofun, nofun⟩ spaces (by simp)

variable {value : List Char}

theorem unescapeText_spaces (spaces : ∀ c ∈ value, isWhitespace c = true) :
    unescapeText (trim (escapeLeading value)) = some [] ∨
      unescapeText (trim (escapeLeading value)) = none := by
  cases value with
  | nil => exact .inl rfl
  | cons w rest =>
    have kept : rest.flatMap escapeChar = rest :=
      flatMap_spaces fun c member => spaces c (by simp [member])
    by_cases space : w = ' '
    · subst space
      have text : escapeLeading (' ' :: rest) = [] ++ ['\\'] ++ ' ' :: rest := by
        simp [escapeLeading, kept, escapeFirst_space]
      rw [text, trim_append ⟨by decide, by decide⟩ (by simp) spaces]
      exact .inr (unescapeText_dangling [])
    · have text : escapeLeading (w :: rest) = w :: rest := by
        simp [escapeLeading, kept, escapeFirst_of_ne (spaces w (by simp)) space]
      rw [text, trim_spaces spaces]
      exact .inl rfl

theorem unescapeText_trim (some : trim value ≠ []) :
    ∃ found, unescapeText (trim (escapeLeading value)) = Option.some found ∧
      trim found = trim value := by
  obtain ⟨left, right, split, leading, trailing⟩ := trim_split value
  have bare := bare_trim value
  generalize trim value = core at split bare some
  subst split
  have kept : right.flatMap escapeChar = right := flatMap_spaces trailing
  cases left with
  | nil =>
    obtain ⟨c, rest, rfl⟩ := exists_cons_of_ne_nil some
    have text : escapeLeading ([] ++ (c :: rest) ++ right) =
        [] ++ (escapeFirst c ++ rest.flatMap escapeChar) ++ right := by
      simp [escapeLeading, kept]
    rw [text, trim_append (bare_escapeFirst (.inr (bare.1 c rfl)) bare.2) (by simp) trailing]
    exact ⟨c :: rest, unescapeText_escapeFirst c rest, trim_of_bare bare⟩
  | cons w left =>
    have front : left.flatMap escapeChar = left :=
      flatMap_spaces fun c member => leading c (by simp [member])
    by_cases space : w = ' '
    · subst space
      have text : escapeLeading (' ' :: left ++ core ++ right) =
          [] ++ (escapeFirst ' ' ++ (left ++ core).flatMap escapeChar) ++ right := by
        simp [escapeLeading, kept]
      have ends : (' ' :: (left ++ core)).getLast? = core.getLast? := by
        rcases eq_nil_or_concat core with rfl | ⟨_, c, rfl⟩
        · exact absurd rfl some
        · simp [getLast?_cons]
      rw [text, trim_append (bare_escapeFirst (.inl rfl) (by rw [ends]; exact bare.2)) (by simp)
        trailing]
      exact ⟨' ' :: (left ++ core), unescapeText_escapeFirst ' ' _,
        by simpa using @trim_append (' ' :: left) core [] bare leading (by simp)⟩
    · have text : escapeLeading (w :: left ++ core ++ right) =
          (w :: left) ++ core.flatMap escapeChar ++ right := by
        simp [escapeLeading, kept, front, escapeFirst_of_ne (leading w (by simp)) space]
      rw [text, trim_append (bare_flatMap bare) leading trailing]
      exact ⟨core, unescapeText_flatMap core, trim_of_bare bare⟩

theorem escapeLeading_split (value : List Char) :
    ∃ dropped body, escapeLeading value = dropped ++ body ∧
      (∀ c ∈ dropped, isWhitespace c = true) ∧ (∀ c ∈ body.head?, isWhitespace c = false) ∧
        unescapeText (body ++ ['\\']) = none := by
  cases value with
  | nil => exact ⟨[], [], rfl, by simp, by simp, unescapeText_dangling []⟩
  | cons w rest =>
    by_cases plain : isWhitespace w = true ∧ w ≠ ' '
    · refine ⟨(w :: rest).takeWhile isWhitespace,
        ((w :: rest).dropWhile isWhitespace).flatMap escapeChar, ?_,
        fun c => mem_takeWhile_imp, head_flatMap ?_, unescapeText_dangling _⟩
      · have spaces : ((w :: rest).takeWhile isWhitespace).flatMap escapeChar =
            (w :: rest).takeWhile isWhitespace :=
          flatMap_spaces fun c member => mem_takeWhile_imp member
        have text : escapeLeading (w :: rest) = (w :: rest).flatMap escapeChar := by
          rw [escapeLeading, escapeFirst_of_ne plain.1 plain.2, flatMap_cons,
            escapeChar_of_space plain.1]
        have joined := @List.takeWhile_append_dropWhile Char isWhitespace (w :: rest)
        rw [text, ← congrArg (flatMap escapeChar) joined, flatMap_append, spaces]
      · intro c head
        simpa [Option.mem_def.mp head] using head?_dropWhile_not isWhitespace (w :: rest)
    · have first : w = ' ' ∨ isWhitespace w = false := by
        by_cases space : w = ' '
        · exact .inl space
        · exact .inr (by simpa [space] using plain)
      exact ⟨[], escapeFirst w ++ rest.flatMap escapeChar, rfl, by simp,
        head_escapeFirst first rest, unescapeText_escapeFirst_dangling w rest⟩

theorem unescapeText_trailing (value : List Char) :
    unescapeText (trim (escapeLeading value ++ ['\\', ' '])) = none := by
  obtain ⟨dropped, body, text, spaces, first, dangling⟩ := escapeLeading_split value
  have bare : Bare (body ++ ['\\']) := by
    constructor
    · cases body with
      | nil => decide
      | cons c body => exact first
    · simp [show isWhitespace '\\' = false by decide]
  have parts : escapeLeading value ++ ['\\', ' '] = dropped ++ (body ++ ['\\']) ++ [' '] := by
    simp [text]
  rw [parts, trim_append bare spaces (by decide), dangling]

theorem exists_unescapeText_iff {identity : List Char} (some : identity ≠ []) :
    (∃ found, unescapeText (trim (escapeValue value)) = Option.some found ∧
        trim found = identity) ↔
      value.getLast? ≠ Option.some ' ' ∧ trim value = identity := by
  rw [escapeValue]
  by_cases trailing : value.getLast? = Option.some ' '
  · rw [if_pos trailing, unescapeText_trailing]
    simp [trailing]
  · rw [if_neg trailing]
    by_cases blank : trim value = []
    · have spaces : ∀ c ∈ value, isWhitespace c = true := by
        obtain ⟨_, _, split, leading, following⟩ := trim_split value
        rw [split, blank]
        simpa [or_imp, forall_and] using And.intro leading following
      constructor
      · rintro ⟨found, resolved, trimmed⟩
        rcases unescapeText_spaces spaces with empty | none
        · cases empty.symm.trans resolved
          exact absurd trimmed.symm some
        · cases none.symm.trans resolved
      · rintro ⟨_, trimmed⟩
        exact absurd (trimmed.symm.trans blank) some
    · obtain ⟨found, resolved, trimmed⟩ := unescapeText_trim blank
      constructor
      · rintro ⟨_, same, rfl⟩
        cases resolved.symm.trans same
        exact ⟨trailing, trimmed.symm⟩
      · rintro ⟨_, rfl⟩
        exact ⟨found, resolved, trimmed⟩

/-! ## Splitting a rendered subject -/

section

variable {separator : Char}

theorem passes_escaped (separator c : Char) :
    (escapeScanner separator).Passes ⟨false, false⟩ ['\\', c] := by
  refine ⟨⟨?_, ?_, trivial⟩, ?_⟩ <;> simp [escapeScanner]

theorem passes_plain {c : Char} (other : c ≠ separator) (literal : c ≠ '\\') (unquoted : c ≠ '"') :
    (escapeScanner separator).Passes ⟨false, false⟩ [c] := by
  apply Scanner.Passes.singleton <;> simp [escapeScanner, other, literal, unquoted]

theorem passes_escapeChar (special : isSpecial separator = true) (c : Char) :
    (escapeScanner separator).Passes ⟨false, false⟩ (escapeChar c) := by
  rw [escapeChar]
  split
  · exact passes_escaped separator c
  · rename_i plain
    have differs : ∀ d, isSpecial d = true → c ≠ d := by
      rintro d known rfl
      exact plain known
    exact passes_plain (differs _ special) (differs _ (by decide)) (differs _ (by decide))

theorem passes_escapeLeading (special : isSpecial separator = true) (value : List Char) :
    (escapeScanner separator).Passes ⟨false, false⟩ (escapeLeading value) := by
  cases value with
  | nil => exact ⟨trivial, rfl⟩
  | cons c rest =>
    have first : (escapeScanner separator).Passes ⟨false, false⟩ (escapeFirst c) := by
      rw [escapeFirst]
      split
      · exact passes_escaped separator c
      · exact passes_escapeChar special c
    exact first.append (Scanner.Passes.flatMap fun c _ => passes_escapeChar special c)

theorem passes_escapeValue (special : isSpecial separator = true) (value : List Char) :
    (escapeScanner separator).Passes ⟨false, false⟩ (escapeValue value) := by
  rw [escapeValue]
  split
  · exact (passes_escapeLeading special _).append (passes_escaped separator ' ')
  · exact passes_escapeLeading special value

theorem AttributeType.mem_name {type : AttributeType} {c : Char} (member : c ∈ type.name) :
    isKeywordChar c = true := by
  cases type with
  | commonName => revert c; decide
  | other keyword => exact keyword.plain c member

theorem passes_renderAttribute (splits : separator = ',' ∨ separator = '+') (attr : Attribute) :
    (escapeScanner separator).Passes ⟨false, false⟩ (renderAttribute attr) := by
  have special : isSpecial separator = true := by rcases splits with rfl | rfl <;> decide
  have known : isKeywordChar separator = false := by rcases splits with rfl | rfl <;> decide
  have name : (escapeScanner separator).Passes ⟨false, false⟩ attr.type.name := by
    apply Scanner.Passes.of_forall
    intro c member
    have differs : ∀ d, isKeywordChar d = false → c ≠ d := by
      rintro d other rfl
      simp [AttributeType.mem_name member] at other
    exact passes_plain (differs _ known) (differs _ (by decide)) (differs _ (by decide))
  have equals : (escapeScanner separator).Passes ⟨false, false⟩ ['='] := by
    apply passes_plain <;> rcases splits with rfl | rfl <;> decide
  have parts : renderAttribute attr = attr.type.name ++ ['='] ++ escapeValue attr.value := by
    simp [renderAttribute]
  rw [parts]
  exact (name.append equals).append (passes_escapeValue special attr.value)

theorem splitUnescaped_intercalate {parts : List (List Char)}
    (splits : separator = ',' ∨ separator = '+')
    (passes : ∀ part ∈ parts, (escapeScanner separator).Passes ⟨false, false⟩ part) :
    splitUnescaped (intercalate [separator] parts) separator =
      if parts = [] then [[]] else parts := by
  by_cases empty : parts = []
  · subst empty
    rfl
  · rw [if_neg empty]
    apply Scanner.pieces_intercalate empty ?_ ?_ passes
    · rcases splits with rfl | rfl <;> rfl
    · rcases splits with rfl | rfl <;> rfl

theorem splitUnescaped_renderRdn (rdn : List Attribute) :
    splitUnescaped (renderRdn rdn) '+' = if rdn = [] then [[]] else rdn.map renderAttribute := by
  rw [renderRdn, splitUnescaped_intercalate (.inr rfl)
    (forall_mem_map.mpr fun attr _ => passes_renderAttribute (.inr rfl) attr)]
  simp

theorem passes_renderRdn (rdn : List Attribute) :
    (escapeScanner ',').Passes ⟨false, false⟩ (renderRdn rdn) := by
  apply Scanner.Passes.intercalate
  · apply passes_plain <;> decide
  · exact forall_mem_map.mpr fun attr _ => passes_renderAttribute (.inl rfl) attr

theorem splitUnescaped_renderSubject (subject : Subject) :
    splitUnescaped (renderSubject subject) ',' =
      if subject = [] then [[]] else subject.reverse.map renderRdn := by
  rw [renderSubject, splitUnescaped_intercalate (.inl rfl)
    (forall_mem_map.mpr fun rdn _ => passes_renderRdn rdn)]
  simp

end

/-! ## Reading the common name -/

theorem isWhitespace_of_isKeywordChar (keyword : isKeywordChar c = true) :
    isWhitespace c = false := by
  simp only [isKeywordChar, Bool.or_eq_true, decide_eq_true_eq, or_assoc] at keyword
  rcases keyword with alphanumeric | rfl | rfl
  · exact isWhitespace_of_isAlphanum alphanumeric
  · decide
  · decide

theorem trim_name (type : AttributeType) : trim type.name = type.name := by
  apply trim_of_bare
  constructor
  · intro c head
    exact isWhitespace_of_isKeywordChar (AttributeType.mem_name (mem_of_mem_head? head))
  · intro c last
    exact isWhitespace_of_isKeywordChar (AttributeType.mem_name (mem_of_getLast? last))

theorem commonNameAttribute_renderAttribute (attr : Attribute) :
    commonNameAttribute (renderAttribute attr) =
      attr.commonName?.map fun value => trim (escapeValue value) := by
  have absent : '=' ∉ attr.type.name := by
    intro member
    exact absurd (AttributeType.mem_name member) (by decide)
  rw [commonNameAttribute, renderAttribute, splitOnce_append absent, Option.bind_eq_bind,
    Option.bind_some]
  simp only [trim_name, Attribute.commonName?]
  cases attr.type with
  | commonName => rfl
  | other keyword => rw [AttributeType.name, if_neg keyword.other, Option.map_none]

theorem findSome?_renderRdn (rdn : List Attribute) :
    (splitUnescaped (renderRdn rdn) '+').findSome? commonNameAttribute =
      (rdn.findSome? Attribute.commonName?).map fun value => trim (escapeValue value) := by
  rw [splitUnescaped_renderRdn]
  cases rdn with
  | nil => rfl
  | cons attr rdn =>
    have read : commonNameAttribute ∘ renderAttribute =
        Option.map (fun value => trim (escapeValue value)) ∘ Attribute.commonName? := by
      funext attr
      exact commonNameAttribute_renderAttribute attr
    rw [if_neg (by simp), findSome?_map, read, map_findSome?]

theorem findSome?_renderRdns (rdns : List (List Attribute)) :
    ((rdns.map renderRdn).flatMap fun rdn => splitUnescaped rdn '+').findSome?
        commonNameAttribute =
      (rdns.flatten.findSome? Attribute.commonName?).map fun value => trim (escapeValue value) := by
  induction rdns with
  | nil => rfl
  | cons rdn rdns ih =>
    rw [map_cons, flatMap_cons, findSome?_append, ih, findSome?_renderRdn,
      flatten_cons, findSome?_append, Option.map_or]

/-- The subject's values hold no double quotes. -/
def Unquoted (subject : Subject) : Prop := ∀ rdn ∈ subject, ∀ attr ∈ rdn, '"' ∉ attr.value

instance (subject : Subject) : Decidable (Unquoted subject) :=
  inferInstanceAs (Decidable (∀ rdn ∈ subject, ∀ attr ∈ rdn, '"' ∉ attr.value))

variable {subject : Subject}

theorem firstCommonName_mem (first : firstCommonName subject = some value) :
    ∃ rdn ∈ subject, ∃ attr ∈ rdn, attr.value = value := by
  obtain ⟨attr, member, found⟩ := exists_of_findSome?_eq_some first
  obtain ⟨rdn, inside, held⟩ := mem_flatten.mp member
  refine ⟨rdn, inside, attr, held, ?_⟩
  obtain ⟨type, _⟩ := attr
  cases type with
  | commonName => exact Option.some.inj found
  | other keyword => cases found

theorem quote_notMem_escapeChar (other : c ≠ '"') : '"' ∉ escapeChar c := by
  rw [escapeChar]
  split <;> simp [Ne.symm other]

theorem quote_notMem_escapeValue (unquoted : '"' ∉ value) : '"' ∉ escapeValue value := by
  have leading : ∀ value : List Char, '"' ∉ value → '"' ∉ escapeLeading value := by
    intro value unquoted
    cases value with
    | nil => simp [escapeLeading]
    | cons c rest =>
      obtain ⟨first, rest⟩ := not_or.mp (mt mem_cons.mpr unquoted)
      rw [escapeLeading, mem_append, not_or]
      constructor
      · rw [escapeFirst]
        split
        · simp [first]
        · exact quote_notMem_escapeChar (Ne.symm first)
      · intro member
        obtain ⟨c, inside, escaped⟩ := mem_flatMap.mp member
        exact quote_notMem_escapeChar (fun same => rest (same ▸ inside)) escaped
  rw [escapeValue]
  split
  · have shorter := leading value.dropLast fun member => unquoted (mem_of_mem_dropLast member)
    simp [shorter]
  · exact leading value unquoted

theorem commonNameFromRfc2253_renderSubject (unquoted : Unquoted subject) :
    commonNameFromRfc2253 (renderSubject subject) =
      (firstCommonName subject.reverse).bind fun value => unescapeText (trim (escapeValue value)) := by
  have attributes : ((splitUnescaped (renderSubject subject) ',').flatMap fun rdn =>
      splitUnescaped rdn '+').findSome? commonNameAttribute =
        (firstCommonName subject.reverse).map fun value => trim (escapeValue value) := by
    rw [splitUnescaped_renderSubject]
    cases subject with
    | nil => rfl
    | cons rdn subject =>
      exact findSome?_renderRdns _
  rw [commonNameFromRfc2253, attributes]
  cases first : firstCommonName subject.reverse with
  | none => rfl
  | some value =>
    obtain ⟨rdn, inside, attr, held, rfl⟩ := firstCommonName_mem first
    have clean := quote_notMem_escapeValue (unquoted rdn (by simpa using inside) attr held)
    rw [Option.map_some, Option.bind_eq_bind, Option.bind_some, Option.bind_some,
      unescapeRfc2253Value, stripOptionalQuotes_of_notMem (notMem_trim clean)]
    rfl

/-! ## The forwarded subject -/

/-- The subject in quotes. -/
def subjectPair (subject : Subject) : List Char :=
  ['S', 'u', 'b', 'j', 'e', 'c', 't'] ++ '=' :: ('"' :: (renderSubject subject ++ ['"']))

/-- One certificate element with a subject between other fields. -/
def subjectElement (before : CertElement) (subject : Subject) (after : CertElement) : List Char :=
  List.intercalate [';'] (before.map renderPair ++ subjectPair subject :: after.map renderPair)

/-- A field that does not name the subject. -/
structure OtherField (pair : List Char × List Char) : Prop where
  free : QuoteFree pair
  unselected : ¬ IdentityPolicy.cnLegacy.Selects pair.1

theorem notMem_intercalate {separator : Char} {parts : List (List Char)} (other : c ≠ separator)
    (absent : ∀ part ∈ parts, c ∉ part) : c ∉ intercalate [separator] parts := by
  induction parts with
  | nil => simp
  | cons part parts ih =>
    have rest := ih fun part member => absent part (by simp [member])
    cases parts with
    | nil => simpa using absent part (by simp)
    | cons next parts =>
      rw [intercalate_cons_cons]
      simp only [mem_append, mem_singleton, not_or]
      exact ⟨⟨absent part (by simp), other⟩, rest⟩

theorem quote_notMem_renderSubject (unquoted : Unquoted subject) : '"' ∉ renderSubject subject := by
  apply notMem_intercalate (by decide)
  rw [forall_mem_map]
  intro rdn inside
  apply notMem_intercalate (by decide)
  rw [forall_mem_map]
  intro attr held
  have name : '"' ∉ attr.type.name := by
    intro member
    exact absurd (AttributeType.mem_name member) (by decide)
  have value := quote_notMem_escapeValue (unquoted rdn (by simpa using inside) attr held)
  simp [renderAttribute, name, value]

theorem passes_subjectPair {separator : Char} (splits : separator = ',' ∨ separator = ';')
    (unquoted : Unquoted subject) :
    (quoteScanner separator).Passes false (subjectPair subject) := by
  have key : (quoteScanner separator).Passes false
      (['S', 'u', 'b', 'j', 'e', 'c', 't'] ++ ['=']) := by
    apply passes_of_notMem <;> rcases splits with rfl | rfl <;> decide
  exact key.append (passes_quoted separator (quote_notMem_renderSubject unquoted))

theorem selectedField_subjectPair (subject : Subject) :
    IdentityPolicy.cnLegacy.selectedField (subjectPair subject) =
      some (['s', 'u', 'b', 'j', 'e', 'c', 't'], renderSubject subject) := by
  apply IdentityPolicy.selectedField_eq_some.mpr
  refine ⟨_, _, splitOnce_append (by decide) _, by decide, ?_⟩
  rw [trim_of_bare (bare_quoted _), stripOptionalQuotes_quoted]
  rfl

theorem selectedField_otherField {pair : List Char × List Char} (other : OtherField pair) :
    IdentityPolicy.cnLegacy.selectedField (renderPair pair) = none := by
  have read := selectedField_renderPair .cnLegacy other.free
  rw [if_neg other.unselected, Option.map_eq_none_iff] at read
  exact read

theorem forall_subjectElement {before after : CertElement} {property : List Char → Prop}
    (fields : ∀ pair ∈ before ++ after, property (renderPair pair))
    (named : property (subjectPair subject)) :
    ∀ part ∈ before.map renderPair ++ subjectPair subject :: after.map renderPair,
      property part := by
  obtain ⟨first, second⟩ := forall_mem_append.mp fields
  exact forall_mem_append.mpr ⟨forall_mem_map.mpr first,
    forall_mem_cons.mpr ⟨named, forall_mem_map.mpr second⟩⟩

theorem asserts_subjectElement_iff {before after : CertElement}
    (others : ∀ pair ∈ before ++ after, OtherField pair) (unquoted : Unquoted subject)
    {found : List Char} :
    ReverseProxyMtlsProvider.Asserts .cnLegacy (subjectElement before subject after) found ↔
      commonNameFromRfc2253 (renderSubject subject) = some found ∧
        WellFormedIdentity (trim found) := by
  have passes : ∀ separator, separator = ',' ∨ separator = ';' →
      ∀ part ∈ before.map renderPair ++ subjectPair subject :: after.map renderPair,
        (quoteScanner separator).Passes false part := fun separator splits =>
    forall_subjectElement (fun pair held => passes_renderPair splits (others pair held).free)
      (passes_subjectPair splits unquoted)
  have pieces : paritySplit (subjectElement before subject after) =
      before.map renderPair ++ subjectPair subject :: after.map renderPair :=
    paritySplit_intercalate (by simp) passes
  have selected : ∀ part ∈ before.map renderPair ++ subjectPair subject :: after.map renderPair,
      ∀ field, IdentityPolicy.cnLegacy.selectedField part = some field →
        field = (['s', 'u', 'b', 'j', 'e', 'c', 't'], renderSubject subject) := by
    apply forall_subjectElement
    · intro pair held field selects
      rw [selectedField_otherField (others pair held)] at selects
      cases selects
    · intro field selects
      rw [selectedField_subjectPair] at selects
      exact (Option.some.inj selects).symm
  constructor
  · intro asserts
    have agreed := asserts.agreed.same (subjectPair subject) (by simp [pieces]) _
      (selectedField_subjectPair subject)
    exact ⟨agreed, asserts.wellFormed⟩
  · rintro ⟨read, wellFormed⟩
    refine ⟨?_, ⟨?_, ?_, ?_⟩, wellFormed⟩
    · have semicolon : (quoteScanner ',').Passes false [';'] := by
        apply Scanner.Passes.singleton <;> simp [quoteScanner]
      have whole := (Scanner.Passes.intercalate semicolon (passes ',' (.inl rfl))).2
      rw [quoteScanner_after, decide_eq_false_iff_not, ← subjectElement] at whole
      omega
    · rintro rfl
      exact wellFormed.nonempty rfl
    · exact ⟨subjectPair subject, by simp [pieces], _, selectedField_subjectPair subject⟩
    · intro part member field selects
      rw [pieces] at member
      rw [selected part member field selects]
      exact read

/-- The common name the string begins with is refused, or it is the certificate's first. -/
def SameCommonName (subject : Subject) : Prop :=
  ∀ value, firstCommonName subject.reverse = some value →
    value.getLast? = some ' ' ∨ ¬ WellFormedIdentity (trim value) ∨
      firstCommonName subject = some (trim value)

/-- The forwarded identity is the one of the certificate exactly if the common name the string
begins with is refused, or is the certificate's first without whitespace around it. -/
theorem verifiedIdentity_commonName_iff (provider : ReverseProxyMtlsProvider)
    (request : RequestHeaders) (subject : Subject) (alternatives : Option (List GeneralName))
    (before after : CertElement) (legacy : provider.policy = .cnLegacy)
    (xfcc : provider.format = .xfcc) (once : request.count provider.headerName = 1)
    (rendered : request.first provider.headerName =
      some (String.ofList (subjectElement before subject after)))
    (others : ∀ pair ∈ before ++ after, OtherField pair) (unquoted : Unquoted subject) :
    (∀ identity, provider.verifiedIdentity request = some identity →
        extractIdentity (some ⟨subject, alternatives⟩) provider.policy = some identity) ↔
      SameCommonName subject := by
  have accepts : ∀ identity, provider.verifiedIdentity request = some identity ↔
      ∃ value, firstCommonName subject.reverse = some value ∧ value.getLast? ≠ some ' ' ∧
        WellFormedIdentity (trim value) ∧ identity = ⟨String.ofList (trim value), .commonName⟩ := by
    intro identity
    have source : provider.source = .commonName := by
      rw [ReverseProxyMtlsProvider.source, legacy]
      rfl
    rw [ReverseProxyMtlsProvider.verifiedIdentity_xfcc xfcc, rendered]
    simp only [once, true_and, Option.some.injEq, exists_eq_left',
      ReverseProxyMtlsProvider.parseXfcc_eq_some, textChars_eq, String.toList_ofList, legacy,
      asserts_subjectElement_iff others unquoted, commonNameFromRfc2253_renderSubject unquoted,
      Option.bind_eq_some_iff, source]
    constructor
    · rintro ⟨found, ⟨⟨value, first, resolved⟩, wellFormed⟩, rfl⟩
      rcases (exists_unescapeText_iff wellFormed.nonempty).mp ⟨found, resolved, rfl⟩ with
        ⟨ends, trimmed⟩
      exact ⟨value, first, ends, trimmed ▸ wellFormed, by rw [trimmed]⟩
    · rintro ⟨value, first, ends, wellFormed, rfl⟩
      rcases (exists_unescapeText_iff wellFormed.nonempty).mpr ⟨ends, rfl⟩ with
        ⟨found, resolved, trimmed⟩
      exact ⟨found, ⟨⟨value, first, resolved⟩, trimmed ▸ wellFormed⟩, by rw [trimmed]⟩
  have direct : ∀ value, extractIdentity (some ⟨subject, alternatives⟩) provider.policy =
      some ⟨String.ofList value, .commonName⟩ ↔ firstCommonName subject = some value := by
    intro value
    rw [legacy, extractIdentity_cnLegacy, Option.map_eq_some_iff]
    simp [String.ofList_inj]
  constructor
  · intro same value first
    by_cases refused : value.getLast? = some ' ' ∨ ¬ WellFormedIdentity (trim value)
    · exact refused.imp id .inl
    · rcases not_or.mp refused with ⟨ends, wellFormed⟩
      exact .inr (.inr ((direct _).mp
        (same _ ((accepts _).mpr ⟨value, first, ends, not_not.mp wellFormed, rfl⟩))))
  · intro same identity accepted
    rcases (accepts identity).mp accepted with ⟨value, first, ends, wellFormed, rfl⟩
    rcases same value first with space | malformed | agree
    · exact absurd space ends
    · exact absurd wellFormed malformed
    · exact (direct _).mpr agree

/-- A subject with an organisation in front of the common name. -/
def singleSubject : Subject :=
  [[⟨.other ⟨['O'], by decide, by decide⟩, textChars "Example, Inc."⟩],
    [⟨.commonName, textChars "agent-1"⟩]]

def legacyProvider : ReverseProxyMtlsProvider := ⟨"x-forwarded-client-cert", .xfcc, .cnLegacy⟩

def forwardedSubject (subject : Subject) : RequestHeaders :=
  .fromPairs [("x-forwarded-client-cert", String.ofList (subjectElement [] subject []))]

/-- One common name is the identity either way. -/
theorem verifiedIdentity_commonName_single :
    legacyProvider.verifiedIdentity (forwardedSubject singleSubject) =
        some ⟨"agent-1", .commonName⟩ ∧
      ∀ identity,
        legacyProvider.verifiedIdentity (forwardedSubject singleSubject) = some identity →
          extractIdentity (some ⟨singleSubject, none⟩) .cnLegacy = some identity := by
  refine ⟨by decide +kernel, ?_⟩
  refine (verifiedIdentity_commonName_iff legacyProvider (forwardedSubject singleSubject)
    singleSubject none [] [] rfl rfl (by decide +kernel) (by decide +kernel) nofun
    (by decide +kernel)).mpr ?_
  intro value first
  have name : firstCommonName singleSubject.reverse = some (textChars "agent-1") := rfl
  cases name.symm.trans first
  exact .inr (.inr (by decide +kernel))

/-- A subject with a common name in each of two relative names. -/
def doubleSubject : Subject :=
  [[⟨.commonName, textChars "agent-1"⟩], [⟨.commonName, textChars "agent-2"⟩]]

/-- The string begins with the last common name, the certificate with the first. -/
theorem verifiedIdentity_commonName_double :
    legacyProvider.verifiedIdentity (forwardedSubject doubleSubject) =
        some ⟨"agent-2", .commonName⟩ ∧
      extractIdentity (some ⟨doubleSubject, none⟩) .cnLegacy =
        some ⟨"agent-1", .commonName⟩ := by
  decide +kernel

end Mcps
