import Mathlib.Data.List.DropRight
import Mcps.Sdk.Displacement

/-!
# Inbound bodies of the streamable HTTP transport

`decodeInbound` turns a body into its JSON-RPC payloads by content type: the events of a
`text/event-stream`, or one direct message.  `verifyInboundMessages` hands every payload to
`verifyInbound`; a payload that raises a `ValueError` is rejected on its own, and any other
exception ends the verification of the body.
-/

namespace Mcps.Sdk

open ClientCore List Except

/-! ## Event streams -/

/-- `text.replace("\r\n", "\n")`. -/
def replaceCrlf : List Char → List Char
  | [] => []
  | [c] => [c]
  | c :: next :: rest =>
    if c = '\r' ∧ next = '\n' then '\n' :: replaceCrlf rest else c :: replaceCrlf (next :: rest)

/-- One terminator for every line: CRLF and a bare CR become LF. -/
def normalizeLines (text : List Char) : List Char :=
  (replaceCrlf text).map fun c => if c = '\r' then '\n' else c

/-- The payloads of the events read so far, and the data lines of the current one. -/
structure EventReader where
  events : List Bytes
  dataLines : List (List Char)

namespace EventReader

/-- End the current event; without a payload it yields nothing. -/
def dispatch (reader : EventReader) : EventReader :=
  if reader.dataLines = [] then reader
  else
    let payload := List.intercalate ['\n'] reader.dataLines
    ⟨if payload = [] then reader.events else reader.events ++ [encodeUtf8 payload], []⟩

/-- The value of a field line: what follows the colon, without one leading space. -/
def fieldValue (line : List Char) : List Char :=
  match (line.dropWhile (· != ':')).tail with
  | ' ' :: value => value
  | value => value

/-- Read one line: a blank line ends the event, and of the others only `data` fields count;
the field of a comment is empty. -/
def readLine (reader : EventReader) (line : List Char) : EventReader :=
  if line = [] then reader.dispatch
  else if line.takeWhile (· != ':') = textChars "data" then
    { reader with dataLines := reader.dataLines ++ [fieldValue line] }
  else reader

end EventReader

/-- The payload of each event of a `text/event-stream` body. -/
def sseDataEvents (raw : Bytes) : Except PyException (List Bytes) := do
  let text ← (decodeUtf8 raw).okOr .valueError
  return (((normalizeLines text).splitOn '\n').foldl EventReader.readLine ⟨[], []⟩).dispatch.events

/-! ## Rendered streams -/

/-- How the lines of a stream end. -/
inductive Terminator where
  | lf
  | cr
  | crlf

def Terminator.text : Terminator → List Char
  | .lf => ['\n']
  | .cr => ['\r']
  | .crlf => ['\r', '\n']

/-- A field that carries no payload. -/
inductive SideField where
  | event
  | id
  | retry

def SideField.text : SideField → List Char
  | .event => textChars "event"
  | .id => textChars "id"
  | .retry => textChars "retry"

/-- A line: blank, a comment, a field without payload, perhaps without a value either, or a line
of a payload, with or without a space after the colon. -/
inductive StreamLine where
  | blank
  | comment (text : List Char)
  | side (field : SideField) (value : Option (List Char))
  | data (spaced : Bool) (text : List Char)

def Unbroken (text : List Char) : Prop := '\n' ∉ text ∧ '\r' ∉ text

namespace StreamLine

def text : StreamLine → List Char
  | .blank => []
  | .comment text => ':' :: text
  | .side field none => field.text
  | .side field (some value) => field.text ++ ':' :: value
  | .data spaced text => textChars "data:" ++ (if spaced then ' ' :: text else text)

/-- A line that says nothing about payloads. -/
def Ignored : StreamLine → Prop
  | .comment text => Unbroken text
  | .side _ value => ∀ text ∈ value, Unbroken text
  | .blank | .data _ _ => False

end StreamLine

/-- The lines render the payloads.  Inside an event there is its payload and the lines of it that
are still to come; an event begins after a blank line or at the beginning, and a last blank line
may stand or not. -/
inductive Renders : Option (List Char) → List (List Char) → List (List Char) →
    List StreamLine → Prop where
  | done (current : Option (List Char)) : Renders current [] [] []
  | blank (current : Option (List Char)) {payloads : List (List Char)} {lines : List StreamLine} :
      Renders none [] payloads lines → Renders current [] payloads (.blank :: lines)
  | ignored {current : Option (List Char)} {pending payloads : List (List Char)}
      {lines : List StreamLine} {line : StreamLine} : line.Ignored →
      Renders current pending payloads lines → Renders current pending payloads (line :: lines)
  | data {payload text : List Char} {pending payloads : List (List Char)}
      {lines : List StreamLine} {spaced : Bool} : (spaced = false → text.head? ≠ some ' ') →
      Renders (some payload) pending payloads lines →
      Renders (some payload) (text :: pending) payloads (.data spaced text :: lines)
  | event {payload : List Char} {payloads : List (List Char)} {lines : List StreamLine} :
      Renders (some payload) (payload.splitOn '\n') payloads lines →
      Renders none [] (payload :: payloads) lines

/-- The text of some lines; a terminator at its end is one before an empty line. -/
def Terminator.render (style : Terminator) (lines : List StreamLine) : List Char :=
  List.intercalate style.text (lines.map StreamLine.text)

namespace EventReader

variable {reader : EventReader}

theorem dispatch_of_empty (empty : reader.dataLines = []) : reader.dispatch = reader := by
  rw [dispatch, if_pos empty]

theorem dispatch_of_payload {payload : List Char} (some : payload ≠ [])
    (complete : intercalate ['\n'] reader.dataLines = payload) :
    reader.dispatch = ⟨reader.events ++ [encodeUtf8 payload], []⟩ := by
  have lines : reader.dataLines ≠ [] := by
    intro empty
    rw [empty] at complete
    exact some complete.symm
  simp only [dispatch, if_neg lines, complete, if_neg some]

theorem readLine_ignored {line : StreamLine} (ignored : line.Ignored) :
    reader.readLine line.text = reader := by
  cases line with
  | comment text => simp [readLine, StreamLine.text]
  | side field value => cases field <;> cases value <;> simp [readLine, StreamLine.text, SideField.text]
  | blank | data => cases ignored

theorem readLine_data {spaced : Bool} {text : List Char}
    (space : spaced = false → text.head? ≠ some ' ') :
    reader.readLine (StreamLine.data spaced text).text =
      { reader with dataLines := reader.dataLines ++ [text] } := by
  cases spaced with
  | true => simp [readLine, StreamLine.text, fieldValue]
  | false =>
    have value : fieldValue (textChars "data:" ++ text) = text := by
      cases text with
      | nil => rfl
      | cons c text =>
        have other : c ≠ ' ' := fun same => space rfl (congrArg some same)
        simp [fieldValue, other]
    simpa [readLine, StreamLine.text] using value

/-- What the reader has of the current event and what is to come of it make up the payload. -/
def Holds (reader : EventReader) (pending : List (List Char)) : Option (List Char) → Prop
  | none => reader.dataLines = []
  | some payload =>
    payload ≠ [] ∧ List.intercalate ['\n'] (reader.dataLines ++ pending) = payload

variable {current : Option (List Char)}

theorem Holds.dispatch (holds : reader.Holds [] current) :
    reader.dispatch = ⟨reader.events ++ current.toList.map encodeUtf8, []⟩ := by
  cases current with
  | none =>
    have empty : reader.dataLines = [] := holds
    rw [dispatch_of_empty empty]
    obtain ⟨_, _⟩ := reader
    cases empty
    simp
  | some payload => exact dispatch_of_payload holds.1 (by simpa using holds.2)

theorem foldl_readLine_renders {pending payloads : List (List Char)} {lines : List StreamLine}
    (renders : Renders current pending payloads lines) (holds : reader.Holds pending current)
    (nonempty : ∀ payload ∈ payloads, payload ≠ []) :
    ((lines.map StreamLine.text).foldl readLine reader).dispatch.events =
      reader.events ++ (current.toList ++ payloads).map encodeUtf8 := by
  induction renders generalizing reader with
  | done current => simp [holds.dispatch]
  | blank current renders ih =>
    have ended : reader.readLine StreamLine.blank.text = reader.dispatch := rfl
    rw [map_cons, foldl_cons, ended, holds.dispatch, @ih ⟨_, []⟩ rfl nonempty]
    simp
  | ignored ignored renders ih =>
    rw [map_cons, foldl_cons, readLine_ignored ignored, ih holds nonempty]
  | data space renders ih =>
    rw [map_cons, foldl_cons, readLine_data space, ih ⟨holds.1, by simpa using holds.2⟩ nonempty]
  | @event payload payloads lines renders ih =>
    have first := nonempty payload mem_cons_self
    have whole : intercalate ['\n'] (reader.dataLines ++ payload.splitOn '\n') = payload := by
      rw [show reader.dataLines = [] from holds, nil_append, intercalate_splitOn]
    rw [ih ⟨first, whole⟩ fun other member => nonempty other (mem_cons_of_mem _ member)]
    rfl

end EventReader

theorem mem_splitOn {separator : Char} {text part : List Char}
    (member : part ∈ text.splitOn separator) : separator ∉ part ∧ part ⊆ text := by
  induction text generalizing part with
  | nil => simp_all
  | cons c text ih =>
    rw [splitOn_cons_eq_if_modifyHead] at member
    split at member
    next =>
      obtain rfl | member := mem_cons.mp member
      · simp
      · exact ⟨(ih member).1, subset_cons_of_subset c (ih member).2⟩
    next other =>
      cases parts : text.splitOn separator with
      | nil => exact absurd parts (splitOn_ne_nil _ _)
      | cons first parts =>
        rw [parts] at member ih
        obtain rfl | member := mem_cons.mp member
        · have held := ih mem_cons_self
          have kept : separator ≠ c := fun same => other (by simp [same])
          exact ⟨by simp [kept, held.1], cons_subset_cons c held.2⟩
        · have held := ih (mem_cons_of_mem first member)
          exact ⟨held.1, subset_cons_of_subset c held.2⟩

theorem StreamLine.Ignored.unbroken {line : StreamLine} (ignored : line.Ignored) :
    Unbroken line.text := by
  cases line with
  | comment text =>
    have clean : Unbroken text := ignored
    simpa [Unbroken, StreamLine.text] using clean
  | side field value =>
    cases value with
    | none => cases field <;> exact ⟨by decide, by decide⟩
    | some value =>
      have clean : Unbroken value := ignored value rfl
      cases field <;> simpa [Unbroken, StreamLine.text, SideField.text] using clean
  | blank | data => cases ignored

variable {payloads : List (List Char)}

theorem Renders.unbroken {current : Option (List Char)} {pending : List (List Char)}
    {lines : List StreamLine} (renders : Renders current pending payloads lines)
    (pendingUnbroken : ∀ text ∈ pending, Unbroken text)
    (clean : ∀ payload ∈ payloads, '\r' ∉ payload) :
    ∀ line ∈ lines.map StreamLine.text, Unbroken line := by
  induction renders with
  | done current => nofun
  | blank current renders ih =>
    exact forall_mem_cons.mpr ⟨⟨nofun, nofun⟩, ih nofun clean⟩
  | @ignored _ _ _ _ line ignored renders ih =>
    exact forall_mem_cons.mpr ⟨ignored.unbroken, ih pendingUnbroken clean⟩
  | @data _ text _ _ _ spaced space renders ih =>
    obtain ⟨first, others⟩ := forall_mem_cons.mp pendingUnbroken
    refine forall_mem_cons.mpr ⟨?_, ih others clean⟩
    cases spaced <;> simpa [Unbroken, StreamLine.text] using first
  | event renders ih =>
    obtain ⟨first, others⟩ := forall_mem_cons.mp clean
    refine ih ?_ others
    intro text member
    obtain ⟨unsplit, inside⟩ := mem_splitOn member
    exact ⟨unsplit, fun held => first (inside held)⟩

theorem replaceCrlf_cons {c : Char} (other : c ≠ '\r') (rest : List Char) :
    replaceCrlf (c :: rest) = c :: replaceCrlf rest := by
  cases rest with
  | nil => rfl
  | cons next rest => rw [replaceCrlf, if_neg fun both => other both.1]

theorem normalizeLines_append {line : List Char} (unbroken : '\r' ∉ line) (rest : List Char) :
    normalizeLines (line ++ rest) = line ++ normalizeLines rest := by
  induction line with
  | nil => rfl
  | cons c line ih =>
    obtain ⟨other, unbroken⟩ := not_or.mp (mt mem_cons.mpr unbroken)
    rw [normalizeLines] at ih ⊢
    rw [cons_append, replaceCrlf_cons (Ne.symm other), map_cons, ih unbroken,
      if_neg (Ne.symm other)]
    rfl

theorem normalizeLines_terminator (style : Terminator) {rest : List Char}
    (next : style = .cr → rest.head? ≠ some '\n') :
    normalizeLines (style.text ++ rest) = '\n' :: normalizeLines rest := by
  cases style with
  | lf => exact @normalizeLines_append ['\n'] (by decide) rest
  | crlf => rfl
  | cr =>
    cases rest with
    | nil => rfl
    | cons c rest =>
      have other : c ≠ '\n' := fun same => next rfl (congrArg some same)
      simp [normalizeLines, Terminator.text, replaceCrlf, other]

variable {lines : List (List Char)}

theorem head?_intercalate_cr (unbroken : ∀ line ∈ lines, Unbroken line) :
    (intercalate ['\r'] lines).head? ≠ some '\n' := by
  cases lines with
  | nil => simp
  | cons line lines =>
    have first := (unbroken line mem_cons_self).1
    cases line with
    | nil => cases lines <;> simp
    | cons c line =>
      have other : c ≠ '\n' := fun same => first (same ▸ mem_cons_self)
      cases lines <;> simp [other]

theorem normalizeLines_intercalate (style : Terminator) (unbroken : ∀ line ∈ lines, Unbroken line) :
    normalizeLines (intercalate style.text lines) = intercalate ['\n'] lines := by
  induction lines with
  | nil => simp [normalizeLines, replaceCrlf]
  | cons line lines ih =>
    obtain ⟨first, others⟩ := forall_mem_cons.mp unbroken
    cases lines with
    | nil => simpa [normalizeLines, replaceCrlf] using normalizeLines_append first.2 []
    | cons next lines =>
      rw [intercalate_cons_cons, append_assoc,
        normalizeLines_append first.2, normalizeLines_terminator, ih others]
      · simp
      · rintro rfl
        exact head?_intercalate_cr others

theorem Renders.sseDataEvents_eq {lines : List StreamLine}
    (renders : Renders none [] payloads lines) (style : Terminator)
    (texts : ∀ payload ∈ payloads, payload ≠ [] ∧ '\r' ∉ payload) :
    sseDataEvents (encodeUtf8 (style.render lines)) = .ok (payloads.map encodeUtf8) := by
  have unbroken := renders.unbroken nofun fun payload member => (texts payload member).2
  have nonempty : ∀ payload ∈ payloads, payload ≠ [] :=
    fun payload member => (texts payload member).1
  have start : EventReader.Holds ⟨[], []⟩ [] none := rfl
  rw [sseDataEvents, decodeUtf8_encodeUtf8, Option.okOr_some, bind_ok, Terminator.render,
    normalizeLines_intercalate style unbroken]
  cases lines with
  | nil =>
    have read := EventReader.foldl_readLine_renders (.blank none renders) start nonempty
    exact congrArg ok read
  | cons line lines =>
    rw [splitOn_intercalate '\n' (fun line member => (unbroken line member).1) (by simp)]
    exact congrArg ok (EventReader.foldl_readLine_renders renders start nonempty)

/-- Reading inverts rendering: every rendering of non-empty payloads without carriage returns is
read as the payloads. -/
theorem sseDataEvents_rendered (style : Terminator) (payloads : List (List Char))
    (lines : List StreamLine) (texts : ∀ payload ∈ payloads, payload ≠ [] ∧ '\r' ∉ payload)
    (renders : Renders none [] payloads lines) :
    sseDataEvents (encodeUtf8 (style.render lines)) = .ok (payloads.map encodeUtf8) :=
  renders.sseDataEvents_eq style texts

/-- Two events, the second of two lines with a field between them, and no blank line at the end. -/
def twoEvents : List StreamLine :=
  [.comment [' ', 'o', 'k'], .data false ['a'], .blank, .blank, .side .event (some [' ', 'm']),
    .data true ['b'], .side .id none, .data true [' ', 'c']]

theorem sseDataEvents_twoEvents :
    Renders none [] [['a'], ['b', '\n', ' ', 'c']] twoEvents ∧
      sseDataEvents (encodeUtf8 (Terminator.crlf.render twoEvents)) =
        .ok [encodeUtf8 ['a'], encodeUtf8 ['b', '\n', ' ', 'c']] := by
  have renders : Renders none [] [['a'], ['b', '\n', ' ', 'c']] twoEvents := by
    refine .ignored ⟨by decide, by decide⟩ (.event (.data (by decide) (.blank _ (.blank _
      (.ignored ?_ (.event (.data nofun (.ignored nofun (.data nofun (.done _))))))))))
    rintro _ ⟨⟩
    exact ⟨by decide, by decide⟩
  exact ⟨renders, sseDataEvents_rendered .crlf _ _ (by decide) renders⟩

/-! ## Bodies -/

/-- `str.isspace` of one character. -/
def isSpace (c : Char) : Bool :=
  let code := c.toNat
  (0x09 ≤ code && code ≤ 0x0D) || (0x1C ≤ code && code ≤ 0x20) || code = 0x85 || code = 0xA0 ||
    code = 0x1680 || (0x2000 ≤ code && code ≤ 0x200A) || code = 0x2028 || code = 0x2029 ||
    code = 0x202F || code = 0x205F || code = 0x3000

/-- The whitespace `bytes.strip` removes. -/
def isSpaceByte (byte : UInt8) : Bool := byte = 0x20 || (0x09 ≤ byte && byte ≤ 0x0D)

/-- Remove what satisfies a predicate from both ends. -/
def strip {α : Type} (space : α → Bool) (items : List α) : List α :=
  (items.dropWhile space).rdropWhile space

/-- The media type of a content type.  No character beyond ASCII lowers to a letter of the one
media type it is compared with. -/
def mediaType (contentType : Option String) : List Char :=
  (strip isSpace ((textChars (contentType.getD "")).takeWhile (· != ';'))).map Char.toLower

/-- The payloads of a body. -/
def decodeInbound (contentType : Option String) (body : Bytes) : Except PyException (List Bytes) :=
  if mediaType contentType = textChars "text/event-stream" then sseDataEvents body
  else
    let trimmed := strip isSpaceByte body
    .ok (if trimmed = [] then [] else [trimmed])

section

variable [Crates] [Python]

/-- Verify one payload; a `ValueError` is a reject. -/
def verifyPayload (config : McpsConfig) (correlation : CorrelationStore) (payload : Bytes)
    (nowUnix : Int) : Except PyException InboundOutcome × CorrelationStore :=
  match verifyInbound config correlation payload nowUnix with
  | (.error .valueError, correlation) => (.ok (.reject "mcps.missing_envelope"), correlation)
  | verified => verified

/-- Verify the payloads in order, up to the first exception that is not a `ValueError`. -/
def verifyPayloads (config : McpsConfig) (nowUnix : Int) (correlation : CorrelationStore) :
    List Bytes → Except PyException (List InboundOutcome) × CorrelationStore
  | [] => (.ok [], correlation)
  | payload :: rest =>
    if payload = [] then verifyPayloads config nowUnix correlation rest
    else
      match verifyPayload config correlation payload nowUnix with
      | (.error exception, correlation) => (.error exception, correlation)
      | (.ok outcome, correlation) =>
        let (outcomes, correlation) := verifyPayloads config nowUnix correlation rest
        (outcomes.map (outcome :: ·), correlation)

/-- Decode a body and verify every message in it. -/
def verifyInboundMessages (contentType : Option String) (body : Bytes) (config : McpsConfig)
    (correlation : CorrelationStore) (nowUnix : Int) :
    Except PyException (List InboundOutcome) × CorrelationStore :=
  match decodeInbound contentType body with
  | .error _ => (.ok [.reject "mcps.missing_envelope"], correlation)
  | .ok payloads => verifyPayloads config nowUnix correlation payloads

/-! ## What verification makes of a body -/

theorem pending_verifyInbound_sublist (config : McpsConfig) (correlation : CorrelationStore)
    (line : Bytes) (nowUnix : Int) :
    (verifyInbound config correlation line nowUnix).2.pending.Sublist correlation.pending := by
  rcases verifyInbound_cases config correlation line nowUnix with
    ⟨_, _, made⟩ | ⟨_, _, ⟨_, made⟩ | ⟨_, made | ⟨_, _, _, made⟩⟩⟩
  · rw [made]
  · rw [made]
  · rw [made]
  · rw [made, pending_handleResponse]
    exact filter_sublist

theorem verifyPayload_cases (config : McpsConfig) (correlation : CorrelationStore)
    (payload : Bytes) (nowUnix : Int) :
    (verifyPayload config correlation payload nowUnix).2 =
        (verifyInbound config correlation payload nowUnix).2 ∧
      ((verifyPayload config correlation payload nowUnix).1 =
          (verifyInbound config correlation payload nowUnix).1 ∨
        (verifyPayload config correlation payload nowUnix).1 =
          .ok (.reject "mcps.missing_envelope")) := by
  unfold verifyPayload
  split
  next raised => simp [raised]
  next => exact ⟨rfl, .inl rfl⟩

/-- A payload is verified so against a store that holds nothing but what the given one does. -/
def Verifies (config : McpsConfig) (correlation : CorrelationStore) (nowUnix : Int)
    (payload : Bytes) (made : Except PyException InboundOutcome) : Prop :=
  ∃ store : CorrelationStore, store.pending.Sublist correlation.pending ∧
    (verifyPayload config store payload nowUnix).1 = made

/-- Every payload is verified in turn, or one of them raises. -/
theorem verifyPayloads_cases (config : McpsConfig) (nowUnix : Int)
    (correlation : CorrelationStore) (payloads : List Bytes) :
    (∃ outcomes, (verifyPayloads config nowUnix correlation payloads).1 = .ok outcomes ∧
      Forall₂ (fun payload outcome => Verifies config correlation nowUnix payload (.ok outcome))
        (payloads.filter (· ≠ [])) outcomes) ∨
    ∃ exception, (verifyPayloads config nowUnix correlation payloads).1 = .error exception ∧
      ∃ payload ∈ payloads.filter (· ≠ []),
        Verifies config correlation nowUnix payload (.error exception) := by
  induction payloads generalizing correlation with
  | nil => exact .inl ⟨[], rfl, .nil⟩
  | cons payload rest ih =>
    rw [verifyPayloads]
    by_cases empty : payload = []
    · rw [if_pos empty, filter_cons_of_neg (by simp [empty])]
      exact ih correlation
    rw [if_neg empty, filter_cons_of_pos (by simp [empty])]
    split
    next exception store step =>
      exact .inr ⟨exception, rfl, payload, mem_cons_self, correlation, .refl _,
        congrArg Prod.fst step⟩
    next outcome store step =>
      have shrinks := pending_verifyInbound_sublist config correlation payload nowUnix
      rw [← (verifyPayload_cases config correlation payload nowUnix).1, step] at shrinks
      have weaken : ∀ {payload made}, Verifies config store nowUnix payload made →
          Verifies config correlation nowUnix payload made := by
        rintro _ _ ⟨later, held, made⟩
        exact ⟨later, held.trans shrinks, made⟩
      have first : Verifies config correlation nowUnix payload (.ok outcome) :=
        ⟨correlation, .refl _, congrArg Prod.fst step⟩
      rcases ih store with ⟨outcomes, made, pairs⟩ | ⟨exception, made, other, member, raised⟩
      · refine .inl ⟨outcome :: outcomes, ?_, .cons first (pairs.imp fun _ _ => weaken)⟩
        simp only [made, Except.map]
      · refine .inr ⟨exception, ?_, other, mem_cons_of_mem _ member, weaken raised⟩
        simp only [made, Except.map]

theorem pending_verifyPayloads_sublist (config : McpsConfig) (nowUnix : Int)
    (correlation : CorrelationStore) (payloads : List Bytes) :
    (verifyPayloads config nowUnix correlation payloads).2.pending.Sublist
      correlation.pending := by
  induction payloads generalizing correlation with
  | nil => exact List.Sublist.refl _
  | cons payload rest ih =>
    have first := pending_verifyInbound_sublist config correlation payload nowUnix
    rw [← (verifyPayload_cases config correlation payload nowUnix).1] at first
    rw [verifyPayloads]
    split
    next => exact ih correlation
    next =>
      split
      next step =>
        rw [step] at first
        exact first
      next step =>
        rw [step] at first
        exact (ih _).trans first

theorem pending_verifyInboundMessages_sublist (contentType : Option String) (body : Bytes)
    (config : McpsConfig) (correlation : CorrelationStore) (nowUnix : Int) :
    (verifyInboundMessages contentType body config correlation nowUnix).2.pending.Sublist
      correlation.pending := by
  unfold verifyInboundMessages
  split
  next => exact List.Sublist.refl _
  next payloads _ => exact pending_verifyPayloads_sublist config nowUnix correlation payloads

end

end Mcps.Sdk
