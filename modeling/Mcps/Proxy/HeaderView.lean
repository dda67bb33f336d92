import Mcps.Proxy.HttpServer

/-!
# The header view and the wire

The framing check admits a header block only if its lines end with CRLF and nothing else.
The lines the header view is read from are then those on the wire.  The view trims the
names it reads, though: a field name that stands with whitespace around it on the wire is
counted under the name without.
-/

namespace Mcps.Http

open MessageFrame List

/-! ## Lines on the wire -/

/-- Put a character in front of the first line. -/
def extendFirst (c : Char) : List (List Char) → List (List Char)
  | [] => [[c]]
  | first :: more => (c :: first) :: more

/-- The lines of a text that CRLF separates. -/
def wireLines : List Char → List (List Char)
  | [] => [[]]
  | [c] => [[c]]
  | c :: d :: rest =>
    if c = '\r' ∧ d = '\n' then [] :: wireLines rest else extendFirst c (wireLines (d :: rest))

/-- The name of a header line: all that stands before its first colon. -/
def fieldName (line : List Char) : Option (List Char) :=
  if ':' ∈ line then some (line.takeWhile (· ≠ ':')) else none

/-- The field names of a header block, behind its request line. -/
def wireNames (block : List Char) : List (List Char) :=
  ((wireLines block).drop 1).filterMap fieldName

/-- Names that are equal but for the case of ASCII letters. -/
def SameName (left right : List Char) : Prop := toAsciiLowercase left = toAsciiLowercase right

instance : DecidableRel SameName := fun _ _ => inferInstanceAs (Decidable (_ = _))

/-- How many header lines stand on the wire under a name. -/
def wireCount (block : List Char) (name : String) : Nat :=
  (wireNames block).countP (SameName · (textChars name))

theorem fieldName_eq (line : List Char) : fieldName line = (splitOnce ':' line).map Prod.fst := by
  induction line with
  | nil => rfl
  | cons c line ih =>
    by_cases colon : c = ':'
    · simp [fieldName, splitOnce, colon]
    · have cut : fieldName (c :: line) = (fieldName line).map (c :: ·) := by
        by_cases member : ':' ∈ line
        · simp [fieldName, colon, member]
        · simp [fieldName, member, Ne.symm colon]
      rw [cut, ih, splitOnce, if_neg colon, Option.map_map, Option.map_map]
      rfl

theorem wireLines_cases (text : List Char) :
    wireLines text = [text] ∨
      ∃ line rest, text = line ++ '\r' :: '\n' :: rest ∧ wireLines text = line :: wireLines rest := by
  induction text using wireLines.induct with
  | case1 => exact .inl rfl
  | case2 c => exact .inl rfl
  | case3 c d rest ends ih =>
    obtain ⟨rfl, rfl⟩ := ends
    exact .inr ⟨[], rest, rfl, by rw [wireLines, if_pos ⟨rfl, rfl⟩]⟩
  | case4 c d rest inside ih =>
    rw [wireLines, if_neg inside]
    cases ih with
    | inl single =>
      left
      rw [single]
      rfl
    | inr split =>
      obtain ⟨line, behind, joined, cut⟩ := split
      right
      refine ⟨c :: line, behind, by rw [joined, cons_append], ?_⟩
      rw [cut]
      rfl

/-! ## What the framing check admits -/

theorem rejectMalformed_plain {bytes : Bytes} (some : bytes ≠ [])
    (unbroken : carriageReturn ∉ bytes ∧ lineFeed ∉ bytes) (previous : Option UInt8) (rest : Bytes) :
    ∃ last, last ≠ carriageReturn ∧
      rejectMalformedAfter previous (bytes ++ rest) = rejectMalformedAfter (.some last) rest := by
  induction bytes generalizing previous with
  | nil => exact absurd rfl some
  | cons byte bytes ih =>
    obtain ⟨notReturn, noReturn⟩ := not_or.mp (mt mem_cons.mpr unbroken.1)
    obtain ⟨notFeed, noFeed⟩ := not_or.mp (mt mem_cons.mpr unbroken.2)
    rw [cons_append, rejectMalformed_other (Ne.symm notReturn) (Ne.symm notFeed)]
    cases bytes with
    | nil => exact ⟨byte, Ne.symm notReturn, rfl⟩
    | cons next bytes => exact ih (by simp) ⟨noReturn, noFeed⟩ (.some byte)

variable {previous : Option UInt8}

theorem rejectMalformed_return {rest : Bytes}
    (framed : rejectMalformedAfter previous (carriageReturn :: rest) = .ok ()) :
    rest.head? = some lineFeed ∧ rejectMalformedAfter (some carriageReturn) rest = .ok () := by
  have other : carriageReturn ≠ lineFeed := by decide
  by_cases followed : rest.head? = some lineFeed
  · simpa [rejectMalformedAfter, followed, other] using framed
  · simp [rejectMalformedAfter, followed] at framed

theorem rejectMalformed_feed {rest : Bytes}
    (framed : rejectMalformedAfter previous (lineFeed :: rest) = .ok ()) :
    previous = some carriageReturn ∧ rejectMalformedAfter (some lineFeed) rest = .ok () := by
  have other : lineFeed ≠ carriageReturn := by decide
  by_cases preceded : previous = some carriageReturn
  · rw [rejectMalformedAfter, if_neg fun bare => other bare.1, if_neg fun bare => bare.2 preceded]
      at framed
    split at framed
    · cases framed
    · exact ⟨preceded, framed⟩
  · simp [rejectMalformedAfter, preceded, other] at framed

theorem head_of_encodeUtf8 {rest : List Char} (feed : (encodeUtf8 rest).head? = some lineFeed) :
    rest.head? = some '\n' := by
  cases rest with
  | nil => cases feed
  | cons d rest =>
    by_contra other
    have different : d.toNat ≠ '\n'.toNat :=
      fun same => other (congrArg some (Char.toNat_inj.mp same))
    have absent := ascii_notMem_utf8EncodeChar (show '\n'.toNat < 0x80 by decide) different
    obtain ⟨_, _, encoded⟩ := exists_cons_of_ne_nil (utf8EncodeChar_ne_nil d)
    rw [encodeUtf8_cons, encoded] at feed
    cases feed
    exact absent (by simp [encoded, lineFeed])

theorem framed_step {c : Char} {rest : List Char} (start : previous ≠ some carriageReturn)
    (inside : ¬ (c = '\r' ∧ rest.head? = some '\n'))
    (framed : rejectMalformedAfter previous (encodeUtf8 (c :: rest)) = .ok ()) :
    (c ≠ '\r' ∧ c ≠ '\n') ∧ ∃ next, next ≠ some carriageReturn ∧
      rejectMalformedAfter next (encodeUtf8 rest) = .ok () := by
  have notReturn : c ≠ '\r' := by
    rintro rfl
    exact inside ⟨rfl, head_of_encodeUtf8 (rejectMalformed_return framed).1⟩
  have notFeed : c ≠ '\n' := by
    rintro rfl
    exact start (rejectMalformed_feed framed).1
  have unbroken : carriageReturn ∉ String.utf8EncodeChar c ∧ lineFeed ∉ String.utf8EncodeChar c :=
    ⟨@ascii_notMem_utf8EncodeChar '\r'.toNat (by decide) c (mt Char.toNat_inj.mp notReturn),
      @ascii_notMem_utf8EncodeChar '\n'.toNat (by decide) c (mt Char.toNat_inj.mp notFeed)⟩
  rcases rejectMalformed_plain (utf8EncodeChar_ne_nil c) unbroken previous (encodeUtf8 rest) with
    ⟨last, other, same⟩
  refine ⟨⟨notReturn, notFeed⟩, some last, by simpa using other, ?_⟩
  rw [← same, ← encodeUtf8_cons, framed]

variable {line : List Char}

theorem mem_extendFirst {c : Char} {pieces : List (List Char)}
    (member : line ∈ extendFirst c pieces) :
    line ∈ pieces ∨ ∃ first, line = c :: first ∧ (first = [] ∨ first ∈ pieces) := by
  cases pieces with
  | nil => exact .inr ⟨[], mem_singleton.mp member, .inl rfl⟩
  | cons first more =>
    cases mem_cons.mp member with
    | inl same => exact .inr ⟨first, same, .inr (by simp)⟩
    | inr behind => exact .inl (by simp [behind])

variable {text : List Char}

theorem unbroken_of_framed (start : previous ≠ some carriageReturn)
    (framed : rejectMalformedAfter previous (encodeUtf8 text) = .ok ()) :
    ∀ line ∈ wireLines text, '\r' ∉ line ∧ '\n' ∉ line := by
  induction text using wireLines.induct generalizing previous with
  | case1 => simp [wireLines]
  | case2 c =>
    obtain ⟨unbroken, _⟩ := framed_step start (by simp) framed
    simp [wireLines, unbroken.1.symm, unbroken.2.symm]
  | case3 c d rest ends ih =>
    obtain ⟨rfl, rfl⟩ := ends
    rw [wireLines, if_pos ⟨rfl, rfl⟩, forall_mem_cons]
    refine ⟨by simp, ih (show some lineFeed ≠ some carriageReturn by decide) ?_⟩
    exact (rejectMalformed_feed (rejectMalformed_return framed).2).2
  | case4 c d rest inside ih =>
    obtain ⟨unbroken, _, other, admitted⟩ := framed_step start (by simpa using inside) framed
    have behind := ih other admitted
    rw [wireLines, if_neg inside]
    intro line member
    cases mem_extendFirst member with
    | inl below => exact behind line below
    | inr extended =>
      rcases extended with ⟨first, rfl, empty | below⟩
      · simp [empty, unbroken.1.symm, unbroken.2.symm]
      · have clean := behind first below
        simp [unbroken.1.symm, unbroken.2.symm, clean]

/-! ## The view's names -/

theorem linesAfter_single (unbroken : '\n' ∉ line) (begun : List Char) :
    linesAfter begun line = if begun ++ line = [] then [] else [begun ++ line] := by
  induction line generalizing begun with
  | nil => simp [linesAfter]
  | cons c line ih =>
    obtain ⟨other, unbroken⟩ := not_or.mp (mt mem_cons.mpr unbroken)
    rw [linesAfter, if_neg (Ne.symm other), ih unbroken]
    simp

theorem filterMap_lines (unbroken : ∀ line ∈ wireLines text, '\n' ∉ line) :
    (lines text).filterMap fieldName = (wireLines text).filterMap fieldName := by
  induction size : text.length using Nat.strong_induction_on generalizing text with
  | _ n ih =>
    cases wireLines_cases text with
    | inl single =>
      rw [single] at unbroken ⊢
      rw [lines, linesAfter_single (unbroken text (by simp)), nil_append]
      split
      next empty => simp [empty, fieldName]
      next => rfl
    | inr split =>
      obtain ⟨line, rest, joined, cut⟩ := split
      rw [cut] at unbroken ⊢
      have shorter : rest.length < n := by
        rw [← size, joined]
        simp
        omega
      rw [joined, lines, linesAfter_cons (unbroken line (by simp)), nil_append,
        filterMap_cons, filterMap_cons,
        ih _ shorter (fun line member => unbroken line (by simp [member])) rfl]

theorem filterMap_drop_lines (unbroken : ∀ line ∈ wireLines text, '\n' ∉ line) :
    ((lines text).drop 1).filterMap fieldName = wireNames text := by
  rw [wireNames]
  cases wireLines_cases text with
  | inl single =>
    rw [single] at unbroken ⊢
    rw [lines, linesAfter_single (unbroken text (by simp))]
    split <;> rfl
  | inr split =>
    obtain ⟨line, _, joined, cut⟩ := split
    rw [cut] at unbroken ⊢
    rw [joined, lines, linesAfter_cons (unbroken line (by simp))]
    exact filterMap_lines fun line member => unbroken line (by simp [member])

theorem fieldName_of_blank (blank : (trim line).isEmpty = true) : fieldName line = none := by
  have absent : ':' ∉ line := by
    intro member
    obtain ⟨_, _, split, leading, trailing⟩ := trim_split line
    rw [isEmpty_iff.mp blank, append_nil] at split
    rw [split] at member
    have white : isWhitespace ':' = true := by
      cases mem_append.mp member with
      | inl before => exact leading _ before
      | inr behind => exact trailing _ behind
    exact absurd white (by decide)
  rw [fieldName, if_neg absent]

theorem names_parse (block : List Char) :
    (RequestHeaders.parse block).headers.map Prod.fst =
      (((lines block).drop 1).filterMap fieldName).map
        fun name => String.ofList (toAsciiLowercase (trim name)) := by
  rw [RequestHeaders.parse, map_filterMap, map_filterMap]
  apply filterMap_congr
  intro line _
  split
  next blank => rw [fieldName_of_blank blank]; rfl
  next =>
    rw [fieldName_eq, Option.map_map, Option.map_map]
    rfl

theorem count_eq_countP (request : RequestHeaders) (name : String) :
    request.count name = (request.headers.map Prod.fst).countP
      (· = String.ofList (toAsciiLowercase (textChars name))) := by
  rw [RequestHeaders.count, RequestHeaders.values, length_map, ← countP_eq_length_filter,
    countP_map]
  rfl

theorem count_parse {block : List Char}
    (framed : rejectMalformedHeaderFraming (encodeUtf8 block) = .ok ()) (name : String) :
    (RequestHeaders.parse block).count name =
      (wireNames block).countP fun field => SameName (trim field) (textChars name) := by
  have unbroken := unbroken_of_framed (by simp) framed
  rw [count_eq_countP, names_parse, filterMap_drop_lines fun line member => (unbroken line member).2,
    countP_map]
  apply countP_congr
  intro field _
  simp [SameName, String.ofList_inj]

/-! ## Names with whitespace around them -/

theorem isWhitespace_toLower (c : Char) : isWhitespace c.toLower = isWhitespace c := by
  rw [Char.toLower]
  split
  next upper =>
    have code : c.val.toNat = c.toNat := rfl
    have bounds : 65 ≤ c.toNat ∧ c.toNat ≤ 90 := by
      exact upper
    have lowered : (c.val + ('a'.val - 'A'.val)).toNat = c.toNat + 32 := by
      have shift : ('a'.val - 'A'.val).toNat = 32 := rfl
      rw [UInt32.toNat_add]
      omega
    rw [@isWhitespace_of_printable c (by omega) (by omega)]
    exact isWhitespace_of_printable (lowered.ge.trans' (by omega)) (lowered.le.trans (by omega))
  next => rfl

theorem bare_toAsciiLowercase : Bare (toAsciiLowercase text) ↔ Bare text := by
  simp [Bare, toAsciiLowercase, isWhitespace_toLower]

theorem SameName.bare_iff {left right : List Char} (same : SameName left right) :
    Bare left ↔ Bare right := by
  rw [← bare_toAsciiLowercase, same, bare_toAsciiLowercase]

theorem countP_eq_countP_iff {α : Type} {weak strong : α → Bool} {items : List α}
    (implies : ∀ item ∈ items, strong item = true → weak item = true) :
    items.countP weak = items.countP strong ↔
      ∀ item ∈ items, weak item = true → strong item = true := by
  induction items with
  | nil => simp
  | cons item items ih =>
    rw [forall_mem_cons] at implies
    have less := countP_mono_left implies.2
    rw [forall_mem_cons, ← ih implies.2, countP_cons, countP_cons]
    cases weakly : weak item <;> cases strongly : strong item <;> simp
    · exact absurd (implies.1 strongly) (by simp [weakly])
    · omega

/-- The header view of an admitted block counts a name as often as it stands on the wire
exactly if no field name that is the name, as it stands or trimmed, has whitespace around it. -/
theorem count_eq_wireCount_iff (block : List Char)
    (framed : rejectMalformedHeaderFraming (encodeUtf8 block) = .ok ()) (name : String) :
    (RequestHeaders.parse block).count name = wireCount block name ↔
      ∀ field ∈ wireNames block,
        SameName field (textChars name) ∨ SameName (trim field) (textChars name) →
          trim field = field := by
  rw [count_parse framed, wireCount]
  by_cases bare : Bare (textChars name)
  · have implies : ∀ field ∈ wireNames block, SameName field (textChars name) →
        SameName (trim field) (textChars name) := by
      intro field _ same
      rwa [trim_of_bare (same.bare_iff.mpr bare)]
    rw [countP_eq_countP_iff (by simpa using implies)]
    simp only [decide_eq_true_eq]
    constructor
    · intro exact field member same
      cases same with
      | inl stands => exact trim_of_bare (stands.bare_iff.mpr bare)
      | inr trimmed => exact trim_of_bare ((exact field member trimmed).bare_iff.mpr bare)
    · intro trimmed field member same
      rwa [trimmed field member (.inr same)] at same
  · have never : ∀ field, ¬ SameName (trim field) (textChars name) :=
      fun field same => bare (same.bare_iff.mp (bare_trim field))
    have none : (wireNames block).countP (fun field => SameName (trim field) (textChars name)) = 0 := by
      simpa using fun field _ => never field
    rw [none, eq_comm, List.countP_eq_zero]
    constructor
    · intro absent field member same
      cases same with
      | inl stands => exact absurd (decide_eq_true stands) (absent field member)
      | inr trimmed => exact absurd trimmed (never field)
    · intro trimmed field member same
      have stands := of_decide_eq_true same
      have kept := trimmed field member (.inl stands)
      rw [← kept] at stands
      exact never field stands

/-- A header block with a blank between a field name and its colon. -/
def spacedBlock : List Char := textChars "POST / HTTP/1.1\r\nX-Client-Id : a\r\n\r\n"

theorem count_ne_wireCount :
    rejectMalformedHeaderFraming (encodeUtf8 spacedBlock) = .ok () ∧
      (RequestHeaders.parse spacedBlock).count "x-client-id" = 1 ∧
      wireCount spacedBlock "x-client-id" = 0 := by
  decide +kernel

/-- A header block without such a field name. -/
def plainBlock : List Char := textChars "POST / HTTP/1.1\r\nX-Client-Id: a\r\nx-client-id: b\r\n\r\n"

theorem count_eq_wireCount_plain :
    rejectMalformedHeaderFraming (encodeUtf8 plainBlock) = .ok () ∧
      (RequestHeaders.parse plainBlock).count "X-Client-ID" = wireCount plainBlock "X-Client-ID" ∧
      wireCount plainBlock "X-Client-ID" = 2 := by
  have framed : rejectMalformedHeaderFraming (encodeUtf8 plainBlock) = .ok () := by decide +kernel
  refine ⟨framed, (count_eq_wireCount_iff plainBlock framed _).mpr ?_, by decide +kernel⟩
  decide +kernel

end Mcps.Http
