import Mcps.Lib.Utf8

/-!
# Lines from a pipe

A reader that takes newline-terminated lines from a pipe behind a buffer.  It serves what
is buffered, and waits for the pipe only when the buffer is drained; a wait can time out or
fail, and a line may not grow beyond a cap.

Whatever the pipe delivers at once and however long it takes, a line that is read is the
first line of what was unread, and the rest is still unread.  Without timeouts a call gives
what it gives when all that is unread comes at once.
-/

namespace LineReader

open List

def newline : UInt8 := 10

/-! ## Lines of a text -/

/-- The complete lines of a text behind the beginning of the first one. -/
def linesAfter (line : Bytes) : Bytes → List Bytes
  | [] => []
  | byte :: rest =>
    if byte = newline then line :: linesAfter [] rest else linesAfter (line ++ [byte]) rest

/-- The complete lines of a text, without their newlines. -/
def lines (text : Bytes) : List Bytes := linesAfter [] text

theorem linesAfter_append {text : Bytes} (unbroken : newline ∉ text) (line rest : Bytes) :
    linesAfter line (text ++ newline :: rest) = (line ++ text) :: lines rest := by
  induction text generalizing line with
  | nil => simp [linesAfter, lines]
  | cons byte text ih =>
    obtain ⟨other, unbroken⟩ := not_or.mp (mt mem_cons.mpr unbroken)
    rw [cons_append, linesAfter, if_neg (Ne.symm other), ih unbroken]
    simp

theorem lines_append {text : Bytes} (unbroken : newline ∉ text) (rest : Bytes) :
    lines (text ++ newline :: rest) = text :: lines rest :=
  linesAfter_append unbroken [] rest

theorem firstLine_unique {left right leftRest rightRest : Bytes} (leftUnbroken : newline ∉ left)
    (rightUnbroken : newline ∉ right)
    (same : left ++ newline :: leftRest = right ++ newline :: rightRest) :
    left = right ∧ leftRest = rightRest := by
  rcases append_eq_append_iff.mp same with ⟨between, rfl, split⟩ | ⟨between, rfl, split⟩
  · cases between with
    | nil => exact ⟨by simp, (cons_eq_cons.mp split).2⟩
    | cons byte between =>
      cases (cons_eq_cons.mp split).1
      simp at rightUnbroken
  · cases between with
    | nil => exact ⟨by simp, (cons_eq_cons.mp split).2.symm⟩
    | cons byte between =>
      cases (cons_eq_cons.mp split).1
      simp at leftUnbroken

/-! ## The reader -/

/-- A pipe behind a buffer. -/
structure Source where
  buffered : Bytes
  pipe : Bytes
  deriving DecidableEq, Repr

def Source.unread (source : Source) : Bytes := source.buffered ++ source.pipe

/-- How a wait for the pipe ends.  A pipe that is readable delivers its next byte and some
more, or nothing if it has ended. -/
inductive Wait where
  | timedOut
  | failed (detail : String)
  | readable (more : Nat)
  deriving DecidableEq, Repr

inductive ReadError where
  | overlong
  | timedOut
  | failed (detail : String)
  deriving DecidableEq, Repr

/-- A line, with its newline unless the pipe ended in it; or the end of the pipe. -/
inductive Outcome where
  | line (bytes : Bytes)
  | eof
  deriving DecidableEq, Repr

/-- How taking bytes from the buffer ended. -/
inductive Drained where
  | newline
  | overlong
  | exhausted
  deriving DecidableEq, Repr

/-- Move buffered bytes to the line, up to a newline or beyond the cap; with the line and the
bytes that stay. -/
def drain (cap : Nat) (line : Bytes) : Bytes → Drained × Bytes × Bytes
  | [] => (.exhausted, line, [])
  | byte :: rest =>
    if byte = newline then (.newline, line ++ [byte], rest)
    else if (line ++ [byte]).length > cap then (.overlong, line ++ [byte], rest)
    else drain cap (line ++ [byte]) rest

structure Read where
  outcome : Except ReadError Outcome
  source : Source
  waits : List Wait

/-- Read one line, given how the waits for the pipe end; there is no time for more of them. -/
def readLine (cap : Nat) (line : Bytes) (source : Source) (waits : List Wait) : Read :=
  match drain cap line source.buffered with
  | (.overlong, _, rest) => ⟨.error .overlong, { source with buffered := rest }, waits⟩
  | (.newline, line, rest) => ⟨.ok (.line line), { source with buffered := rest }, waits⟩
  | (.exhausted, line, _) =>
    match waits with
    | [] => ⟨.error .timedOut, ⟨[], source.pipe⟩, []⟩
    | .timedOut :: waits => ⟨.error .timedOut, ⟨[], source.pipe⟩, waits⟩
    | .failed detail :: waits => ⟨.error (.failed detail), ⟨[], source.pipe⟩, waits⟩
    | .readable more :: waits =>
      if source.pipe = [] then
        ⟨.ok (if line = [] then .eof else .line line), ⟨[], []⟩, waits⟩
      else
        readLine cap line ⟨source.pipe.take (more + 1), source.pipe.drop (more + 1)⟩ waits

/-! ## What a reader reads -/

theorem drain_cases (cap : Nat) (line buffered : Bytes) :
    (∃ taken rest, drain cap line buffered = (.overlong, taken, rest)) ∨
      (∃ taken rest, buffered = taken ++ newline :: rest ∧ newline ∉ taken ∧
        drain cap line buffered = (.newline, line ++ taken ++ [newline], rest)) ∨
      newline ∉ buffered ∧ drain cap line buffered = (.exhausted, line ++ buffered, []) := by
  fun_induction drain cap line buffered with
  | case1 => simp
  | case2 line rest => exact .inr (.inl ⟨[], rest, rfl, by simp, by simp⟩)
  | case3 => exact .inl ⟨_, _, rfl⟩
  | case4 line byte rest ends _ ih =>
    rcases ih with tooLong | ⟨taken, left, split, unbroken, drained⟩ | ⟨unbroken, drained⟩
    · exact .inl tooLong
    · exact .inr (.inl ⟨byte :: taken, left, by rw [split]; rfl,
        by simp [Ne.symm ends, unbroken], by simp [drained]⟩)
    · exact .inr (.inr ⟨by simp [Ne.symm ends, unbroken], by simp [drained]⟩)

/-- Reading fails, or gives the first line of a text and leaves the rest. -/
def Reads (read : Read) (text rest : Bytes) : Prop :=
  (∃ error, read.outcome = .error error) ∨
    read.outcome = .ok (.line (text ++ [newline])) ∧ read.source.unread = rest

section

variable {cap : Nat} {line text rest : Bytes} {source : Source}

theorem reads_or_exhausted (waits : List Wait) (begun : newline ∉ line)
    (unbroken : newline ∉ text) (ahead : line ++ source.unread = text ++ newline :: rest) :
    Reads (readLine cap line source waits) text rest ∨
      newline ∉ source.buffered ∧
        drain cap line source.buffered = (.exhausted, line ++ source.buffered, []) := by
  rcases drain_cases cap line source.buffered with
    ⟨taken, left, drained⟩ | ⟨taken, left, split, clean, drained⟩ | exhausted
  · refine .inl (.inl ⟨.overlong, ?_⟩)
    rw [readLine.eq_def, drained]
  · have parts : (line ++ taken) ++ newline :: (left ++ source.pipe) =
        text ++ newline :: rest := by
      rw [← ahead, Source.unread, split]
      simp
    rcases firstLine_unique (by simp [begun, clean]) unbroken parts with ⟨same, unread⟩
    rw [readLine.eq_def, drained]
    exact .inl (.inr ⟨by rw [same], unread⟩)
  · exact .inr exhausted

theorem reads_readLine (waits : List Wait) (begun : newline ∉ line) (unbroken : newline ∉ text)
    (ahead : line ++ source.unread = text ++ newline :: rest) :
    Reads (readLine cap line source waits) text rest := by
  induction waits generalizing line source with
  | nil =>
    rcases reads_or_exhausted [] begun unbroken ahead with reads | ⟨_, drained⟩
    · exact reads
    · rw [readLine.eq_def, drained]
      exact .inl ⟨_, rfl⟩
  | cons wait waits ih =>
    rcases reads_or_exhausted (wait :: waits) begun unbroken ahead with reads | ⟨clean, drained⟩
    · exact reads
    · rw [readLine.eq_def, drained]
      cases wait with
      | timedOut | failed _ => exact .inl ⟨_, rfl⟩
      | readable more =>
        have inPipe : newline ∈ source.pipe := by
          have member : newline ∈ line ++ source.unread := by simp [ahead]
          simpa [Source.unread, begun, clean] using member
        dsimp only
        rw [if_neg (ne_nil_of_mem inPipe)]
        apply ih
        · simp [begun, clean]
        · rw [← ahead, Source.unread, Source.unread, take_append_drop, append_assoc]

end

theorem readLine_nil (cap : Nat) {source : Source} (waits : List Wait)
    (nothing : source.unread = []) :
    (∃ error, (readLine cap [] source waits).outcome = .error error) ∨
      (readLine cap [] source waits).outcome = .ok .eof := by
  obtain ⟨buffer, pipe⟩ := append_eq_nil_iff.mp nothing
  unfold readLine
  rw [buffer, drain]
  cases waits with
  | nil => exact .inl ⟨_, rfl⟩
  | cons wait waits =>
    cases wait with
    | timedOut | failed _ => exact .inl ⟨_, rfl⟩
    | readable more => exact .inr (by simp [pipe])

/-! ## Successive calls -/

/-- What a call gives, and what stays unread, if all that is unread is drained at once. -/
def verdict : Drained × Bytes × Bytes → Except ReadError Outcome × Bytes
  | (.newline, line, rest) => (.ok (.line line), rest)
  | (.overlong, _, rest) => (.error .overlong, rest)
  | (.exhausted, line, _) => (.ok (if line = [] then .eof else .line line), [])

def readLines (cap : Nat) : Nat → Source → List Wait → List (Except ReadError Outcome)
  | 0, _, _ => []
  | calls + 1, source, waits =>
    let read := readLine cap [] source waits
    read.outcome :: readLines cap calls read.source read.waits

/-- What the line holds during a call: what some of the buffered bytes have made of it, or
what it holds once the drained buffer is filled again. -/
inductive Holds (cap : Nat) : Bytes → Source → List Wait → Bytes → Prop
  | drained (line : Bytes) (source : Source) (waits : List Wait) (count : Nat) :
      Holds cap line source waits (drain cap line (source.buffered.take count)).2.1
  | refilled {line taken rest bytes : Bytes} {source : Source} {more : Nat} {waits : List Wait} :
      drain cap line source.buffered = (.exhausted, taken, rest) → source.pipe ≠ [] →
      Holds cap taken ⟨source.pipe.take (more + 1), source.pipe.drop (more + 1)⟩ waits bytes →
      Holds cap line source (.readable more :: waits) bytes

variable {cap : Nat} {line : Bytes}

theorem drain_append (first second : Bytes) :
    drain cap line (first ++ second) =
      match drain cap line first with
      | (.exhausted, line, _) => drain cap line second
      | (stopped, line, rest) => (stopped, line, rest ++ second) := by
  induction first generalizing line with
  | nil => rfl
  | cons byte first ih =>
    rw [cons_append, drain, drain]
    split_ifs
    · rfl
    · rfl
    · exact ih

theorem drain_unbroken {text : Bytes} (unbroken : newline ∉ text)
    (short : (line ++ text).length ≤ cap) (rest : Bytes) :
    drain cap line (text ++ rest) = drain cap (line ++ text) rest := by
  induction text generalizing line with
  | nil => simp
  | cons byte text ih =>
    obtain ⟨other, unbroken⟩ := not_or.mp (mt mem_cons.mpr unbroken)
    rw [append_cons] at short ⊢
    rw [cons_append, drain, if_neg (Ne.symm other),
      if_neg (by rw [length_append] at short; omega), ih unbroken short]

theorem drain_overlong {text : Bytes} (unbroken : newline ∉ text) (long : text.length = cap + 1)
    (rest : Bytes) : drain cap [] (text ++ rest) = (.overlong, text, rest) := by
  cases text using reverseRecOn with
  | nil => cases long
  | append_singleton text byte =>
    rw [mem_append, mem_singleton, not_or] at unbroken
    rw [append_assoc, drain_unbroken unbroken.1 (by simpa using long.le), nil_append,
      singleton_append, drain, if_neg (Ne.symm unbroken.2), if_pos (by simp_all)]

/-- However the text comes in, a call gives the same as on all of it at once; it waits at most
once for each byte and once for the end. -/
theorem readLine_delivered (line : Bytes) (source : Source) (sizes : List Nat)
    (enough : source.pipe.length < sizes.length) :
    ∃ outcome after, ∃ left : List Nat, readLine cap line source (sizes.map .readable) =
        ⟨outcome, after, left.map .readable⟩ ∧
      (outcome, after.unread) = verdict (drain cap line source.unread) ∧
      after.pipe.length + sizes.length ≤ source.pipe.length + left.length + 1 := by
  induction sizes generalizing line source with
  | nil => cases enough
  | cons more sizes ih =>
    rw [readLine.eq_def, Source.unread, drain_append]
    rcases drained : drain cap line source.buffered with ⟨_ | _ | _, taken, _⟩
    · exact ⟨_, _, more :: sizes, rfl, rfl, by simp⟩
    · exact ⟨_, _, more :: sizes, rfl, rfl, by simp⟩
    · by_cases ended : source.pipe = []
      · exact ⟨_, _, sizes, if_pos ended, by simp [ended, drain, verdict, Source.unread], by simp⟩
      · have some := length_pos_iff.mpr ended
        obtain ⟨outcome, after, left, read, same, spent⟩ := ih
          taken ⟨source.pipe.take (more + 1), source.pipe.drop (more + 1)⟩
          (by simp at enough ⊢; omega)
        refine ⟨outcome, after, left, (if_neg ended).trans read, ?_, ?_⟩
        · rw [same, Source.unread, take_append_drop]
        · simp at spent ⊢
          omega

theorem readLines_delivered {calls : Nat} (sizes : List Nat) {source : Source}
    {outcome : Except ReadError Outcome} {rest : Bytes}
    (enough : source.pipe.length + (calls + 1) ≤ sizes.length)
    (next : verdict (drain cap [] source.unread) = (outcome, rest)) :
    ∃ after : Source, ∃ left : List Nat, after.unread = rest ∧ after.pipe.length + calls ≤ left.length ∧
      readLines cap (calls + 1) source (sizes.map .readable) =
        outcome :: readLines cap calls after (left.map .readable) := by
  obtain ⟨_, after, left, read, same, _⟩ :=
    @readLine_delivered cap [] source sizes (by omega)
  rw [next] at same
  cases same
  exact ⟨after, left, rfl, by omega, by rw [readLines, read]⟩

/-- The lines of a text are read one after another, whatever follows them. -/
theorem readLines_lines {lines : List Bytes} {rest : Bytes}
    (unbroken : ∀ line ∈ lines, newline ∉ line) (short : ∀ line ∈ lines, line.length ≤ cap)
    {calls : Nat} (sizes : List Nat) {source : Source}
    (enough : source.pipe.length + (lines.length + calls) ≤ sizes.length)
    (text : source.unread = lines.flatMap (· ++ [newline]) ++ rest) :
    ∃ after : Source, ∃ left : List Nat, after.unread = rest ∧ after.pipe.length + calls ≤ left.length ∧
      readLines cap (lines.length + calls) source (sizes.map .readable) =
        lines.map (fun line => .ok (.line (line ++ [newline]))) ++
          readLines cap calls after (left.map .readable) := by
  induction lines generalizing source sizes with
  | nil => exact ⟨source, sizes, text, by simpa using enough, by simp⟩
  | cons line lines ih =>
    have drained : drain cap [] source.unread =
        (.newline, line ++ [newline], lines.flatMap (· ++ [newline]) ++ rest) := by
      rw [text, flatMap_cons, append_assoc, append_assoc,
        drain_unbroken (unbroken line (by simp)) (short line (by simp))]
      rfl
    rw [length_cons, Nat.add_right_comm] at enough ⊢
    obtain ⟨_, left, unread, enough, first⟩ :=
      readLines_delivered sizes enough (congrArg verdict drained)
    obtain ⟨last, remaining, ends, enough, others⟩ := ih
      (fun line member => unbroken line (by simp [member]))
      (fun line member => short line (by simp [member])) left enough unread
    exact ⟨last, remaining, ends, enough, by rw [first, others]; rfl⟩

theorem readLines_eof (calls : Nat) (sizes : List Nat) {source : Source}
    (enough : source.pipe.length + calls ≤ sizes.length) (nothing : source.unread = []) :
    readLines cap calls source (sizes.map .readable) = replicate calls (.ok .eof) := by
  induction calls generalizing source sizes with
  | zero => rfl
  | succ calls ih =>
    obtain ⟨_, left, unread, enough, first⟩ :=
      @readLines_delivered cap calls sizes source (.ok .eof) [] enough (by rw [nothing]; rfl)
    rw [first, ih left enough unread, replicate_succ]

theorem length_drain (short : line.length ≤ cap) (text : Bytes) :
    (drain cap line text).2.1.length ≤
      if (drain cap line text).1 = .exhausted then cap else cap + 1 := by
  fun_induction drain cap line text with
  | case1 => exact short
  | case2 | case3 => simpa using short
  | case4 _ _ _ _ long ih => exact ih (not_lt.mp long)

theorem Holds.length_le {bytes : Bytes} {source : Source} {waits : List Wait}
    (holds : Holds cap line source waits bytes) (short : line.length ≤ cap) :
    bytes.length ≤ cap + 1 := by
  induction holds with
  | drained line source waits count =>
    have bound := length_drain short (source.buffered.take count)
    split at bound <;> omega
  | @refilled _ _ _ _ source _ _ drained _ _ ih =>
    have bound := length_drain short source.buffered
    rw [drained] at bound
    exact ih bound

end LineReader
