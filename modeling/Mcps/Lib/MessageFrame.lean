import Mcps.Lib.Utf8

/-!
# Messages with a header block

A message is a header block and a body: lines that each end with CRLF, then an empty line,
then any bytes.  A reader looks for the first blank line; in a message with at least one
line, and none of its lines empty or broken, that is where the header block ends, whatever
the body holds and however much of it has arrived.
-/

namespace MessageFrame

open List Option

/-! ## The first window -/

section

variable {α : Type}

/-- The contiguous parts of a length. -/
def windows (size : Nat) (text : List α) : List (List α) :=
  (List.range (text.length + 1 - size)).map fun start => (text.drop start).take size

variable [DecidableEq α]

/-- Where a text is found first. -/
def position (needle text : List α) : Option Nat :=
  (windows needle.length text).findIdx? (· = needle)

variable {needle text : List α}

theorem position_of_short (short : text.length < needle.length) : position needle text = none := by
  have none : text.length + 1 - needle.length = 0 := by omega
  simp [position, windows, none]

theorem position_cons (some : needle ≠ []) (item : α) (rest : List α) :
    position needle (item :: rest) =
      if needle <+: item :: rest then Option.some 0 else (position needle rest).map (· + 1) := by
  by_cases fits : needle.length ≤ rest.length + 1
  · have one : (item :: rest).length + 1 - needle.length =
        (rest.length + 1 - needle.length) + 1 := by
      rw [length_cons]
      omega
    have begins : (((item :: rest).drop 0).take needle.length = needle) =
        (needle <+: item :: rest) :=
      propext (eq_comm.trans prefix_iff_eq_take.symm)
    rw [position, windows, one, range_succ_eq_map, map_cons, findIdx?_cons, List.map_map]
    simp only [begins, decide_eq_true_eq]
    rfl
  · have size := length_pos_iff.mpr some
    have here : position needle (item :: rest) = none :=
      position_of_short (by simpa using fits)
    have below : position needle rest = none := position_of_short (by omega)
    rw [here, below, if_neg fun begins => fits begins.length_le]
    rfl

/-- What has arrived of a text holds the needle once all of it has. -/
theorem position_take (some : needle ≠ []) {start : Nat}
    (found : position needle text = Option.some start) (arrived : Nat) :
    position needle (text.take arrived) =
      if start + needle.length ≤ arrived then Option.some start else none := by
  have size := length_pos_iff.mpr some
  induction text generalizing start arrived with
  | nil => simp [position_of_short (show ([] : List α).length < needle.length from size)] at found
  | cons item rest ih =>
    rw [position_cons some] at found
    by_cases enough : needle.length ≤ arrived
    · cases arrived with
      | zero => omega
      | succ arrived =>
        have begins : needle <+: item :: rest.take arrived ↔ needle <+: item :: rest := by
          rw [← take_succ_cons, prefix_take_iff, and_iff_left enough]
        rw [take_succ_cons, position_cons some]
        by_cases here : needle <+: item :: rest
        · rw [if_pos here] at found
          cases found
          rw [if_pos (begins.mpr here), if_pos (by omega)]
        · rw [if_neg here] at found
          obtain ⟨below, foundBelow, rfl⟩ := map_eq_some_iff.mp found
          have bound : below + 1 + needle.length ≤ arrived + 1 ↔
            below + needle.length ≤ arrived := by omega
          rw [if_neg (mt begins.mp here), ih foundBelow]
          simp only [bound]
          split <;> rfl
    · have short : ((item :: rest).take arrived).length < needle.length := by
        rw [length_take]
        omega
      rw [position_of_short short, if_neg (by omega)]

theorem position_eq_some {start : Nat} :
    position needle text = some start ↔
      start + needle.length ≤ text.length ∧ (text.drop start).take needle.length = needle ∧
        ∀ earlier < start, (text.drop earlier).take needle.length ≠ needle := by
  have bound : start < text.length + 1 - needle.length ↔ start + needle.length ≤ text.length := by
    omega
  rw [position, findIdx?_eq_some_iff_getElem]
  simp only [windows, length_map, length_range, getElem_map, getElem_range,
    decide_eq_true_eq, exists_prop, bound]

theorem position_le {start : Nat} (found : position needle text = some start) :
    start + needle.length ≤ text.length :=
  (position_eq_some.mp found).1

theorem position_append (more : List α) {start : Nat}
    (found : position needle text = some start) :
    position needle (text ++ more) = some start := by
  obtain ⟨_, _, earlier⟩ := position_eq_some.mp found
  have same (place : Nat) (before : place ≤ start) :
      ((text ++ more).drop place).take needle.length = (text.drop place).take needle.length := by
    rw [drop_append_of_le_length (by omega), take_append_of_le_length]
    rw [length_drop]
    omega
  refine position_eq_some.mpr ⟨?_, by rwa [same start le_rfl], ?_⟩
  · rw [length_append]
    omega
  · intro place before
    rw [same place before.le]
    exact earlier place before

end

/-! ## Header blocks -/

def carriageReturn : UInt8 := 13

def lineFeed : UInt8 := 10

def crlf : Bytes := [carriageReturn, lineFeed]

def blankLine : Bytes := crlf ++ crlf

/-- The lines of a header block, each with its line end, and the empty line. -/
def header (lines : List Bytes) : Bytes := lines.flatMap (· ++ crlf) ++ crlf

/-- A line that neither ends the header block nor breaks or continues a line. -/
structure CleanLine (line : Bytes) : Prop where
  nonempty : line ≠ []
  unbroken : carriageReturn ∉ line ∧ lineFeed ∉ line
  unfolded : ∀ byte ∈ line.head?, byte ≠ 32 ∧ byte ≠ 9

theorem header_cons (line : Bytes) (lines : List Bytes) :
    header (line :: lines) = line ++ crlf ++ header lines := by
  simp [header]

theorem head_header {lines : List Bytes} (clean : ∀ line ∈ lines, CleanLine line) :
    ∃ byte rest, header lines = byte :: rest ∧ byte ≠ 32 ∧ byte ≠ 9 ∧
      (lines ≠ [] → byte ≠ carriageReturn) := by
  cases lines with
  | nil => exact ⟨carriageReturn, [lineFeed], rfl, by decide, by decide, fun some => absurd rfl some⟩
  | cons line lines =>
    have first := clean line (by simp)
    obtain ⟨byte, _, rfl⟩ := exists_cons_of_ne_nil first.nonempty
    refine ⟨byte, _, by rw [header_cons]; rfl, (first.unfolded byte rfl).1,
      (first.unfolded byte rfl).2, ?_⟩
    intro _ same
    exact first.unbroken.1 (by simp [same])

theorem position_line {line : Bytes} (unbroken : carriageReturn ∉ line) (rest : Bytes) :
    position blankLine (line ++ rest) = (position blankLine rest).map (· + line.length) := by
  induction line with
  | nil => simp
  | cons byte line ih =>
    obtain ⟨other, unbroken⟩ := not_or.mp (mt mem_cons.mpr unbroken)
    have elsewhere : ¬ blankLine <+: byte :: (line ++ rest) := by
      intro begins
      exact other (cons_prefix_cons.mp begins).1
    rw [cons_append, position_cons (by decide), if_neg elsewhere, ih unbroken, Option.map_map]
    rfl

theorem position_lineEnd {byte : UInt8} (other : byte ≠ carriageReturn) (rest : Bytes) :
    position blankLine (carriageReturn :: lineFeed :: byte :: rest) =
      (position blankLine (byte :: rest)).map (· + 2) := by
  have first : ¬ blankLine <+: carriageReturn :: lineFeed :: byte :: rest := by
    intro begins
    have third := (cons_prefix_cons.mp (cons_prefix_cons.mp begins).2).2
    exact other (cons_prefix_cons.mp third).1.symm
  have second : ¬ blankLine <+: lineFeed :: byte :: rest := by
    intro begins
    exact absurd (cons_prefix_cons.mp begins).1 (by decide)
  rw [position_cons (by decide), if_neg first, position_cons (by decide), if_neg second,
    Option.map_map]
  rfl

theorem position_blankLine (body : Bytes) : position blankLine (blankLine ++ body) = some 0 := by
  have begins : blankLine <+: carriageReturn :: lineFeed :: (crlf ++ body) := ⟨body, rfl⟩
  exact (position_cons (by decide) _ _).trans (if_pos begins)

theorem position_header {lines : List Bytes} (some : lines ≠ [])
    (clean : ∀ line ∈ lines, CleanLine line) (body : Bytes) :
    ∃ start, position blankLine (header lines ++ body) = Option.some start ∧
      start + blankLine.length = (header lines).length := by
  induction lines with
  | nil => exact absurd rfl some
  | cons line lines ih =>
    have first := clean line (by simp)
    have split : header (line :: lines) ++ body =
        line ++ carriageReturn :: lineFeed :: (header lines ++ body) := by
      rw [header_cons, crlf]
      simp
    rw [split, position_line first.unbroken.1]
    cases lines with
    | nil =>
      refine ⟨line.length, ?_, by simp [header, blankLine]⟩
      rw [show carriageReturn :: lineFeed :: (header [] ++ body) = blankLine ++ body from rfl,
        position_blankLine, map_some, Nat.zero_add]
    | cons next lines =>
      have others : ∀ line ∈ next :: lines, CleanLine line :=
        fun line member => clean line (by simp [member])
      obtain ⟨start, found, _⟩ := ih (by simp) others
      obtain ⟨_, _, begins, _, _, other⟩ := head_header others
      refine ⟨start + 2 + line.length, ?_, ?_⟩
      · rw [begins, cons_append] at found ⊢
        rw [position_lineEnd (other (by simp)), found]
        rfl
      · rw [header_cons, length_append, length_append, crlf]
        simp only [length_cons, length_nil]
        omega

end MessageFrame
