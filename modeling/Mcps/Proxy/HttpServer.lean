import Mcps.Lib.MessageFrame
import Mcps.Lib.Numeral
import Mcps.Proxy.PersistentInner
import Mcps.Proxy.ReverseProxy

/-!
# Reading a request from a connection

The proxy reads one request per connection, in chunks, until the blank line behind the
header block, checks the framing of the header block, and reads as much of a body as the
`Content-Length` says.  Both parts are capped.

A header block of clean lines passes the check, and its lines are found again.
-/

namespace Mcps.Http

open MessageFrame List
open Proxy.PersistentInner (Utf8Lossy)

/-! ## The source's functions -/

inductive ErrorKind where
  | invalidData
  | unexpectedEof
  | wouldBlock
  | timedOut
  | other
  deriving DecidableEq, Repr

structure IoError where
  kind : ErrorKind
  message : String
  deriving DecidableEq, Repr

/-- The limits of a connection; `usize` has 64 bits, and durations are whole seconds. -/
structure ServerLimits where
  maxHeaderBytes : UInt64
  maxBodyBytes : UInt64
  readTimeout : Option UInt64
  requestDeadline : Option UInt64
  writeTimeout : Option UInt64
  maxConcurrentConnections : UInt64
  deriving DecidableEq, Repr

def ServerLimits.default : ServerLimits where
  maxHeaderBytes := 64 * 1024
  maxBodyBytes := 16 * 1024 * 1024
  readTimeout := some 30
  requestDeadline := some 30
  writeTimeout := some 30
  maxConcurrentConnections := 256

/-- What one read puts into a buffer of 1024 bytes. -/
structure Chunk where
  bytes : Bytes
  fits : bytes.length ≤ 1024
  deriving DecidableEq, Repr

/-- How the reads of a connection end, one after the other; behind the last it is closed. -/
abbrev Stream : Type := List (Except IoError Chunk)

structure HttpRequest where
  headerBlock : List Char
  body : Bytes
  deriving DecidableEq, Repr

/-- The framing check behind a byte. -/
def rejectMalformedAfter (previous : Option UInt8) : Bytes → Except IoError Unit
  | [] => .ok ()
  | byte :: rest =>
    if byte = carriageReturn ∧ rest.head? ≠ some lineFeed then
      .error ⟨.invalidData, "malformed HTTP header framing: bare CR (not part of a CRLF)"⟩
    else if byte = lineFeed ∧ previous ≠ some carriageReturn then
      .error ⟨.invalidData, "malformed HTTP header framing: bare LF (not part of a CRLF)"⟩
    else if byte = lineFeed ∧ (rest.head? = some 32 ∨ rest.head? = some 9) then
      .error ⟨.invalidData, "malformed HTTP header framing: obs-fold continuation line"⟩
    else rejectMalformedAfter (some byte) rest

def rejectMalformedHeaderFraming (headerBytes : Bytes) : Except IoError Unit :=
  rejectMalformedAfter none headerBytes

def findSubsequence (haystack needle : Bytes) : Option Nat :=
  if needle = [] ∨ haystack.length < needle.length then none else position needle haystack

def parseUsize (text : List Char) : Option Nat := Numeral.parseUnsigned (2 ^ 64) text

/-- The value of the first `Content-Length` among some lines. -/
def contentLengthOf : List (List Char) → Option Nat
  | [] => none
  | line :: rest =>
    match splitOnce ':' line with
    | some (name, value) =>
      if toAsciiLowercase (trim name) = textChars "content-length" then parseUsize (trim value)
      else contentLengthOf rest
    | none => contentLengthOf rest

def parseContentLength (headers : List Char) : Option Nat := contentLengthOf (lines headers)

/-- The loop that reads until the end of the headers; with what was read, where the headers
end and the reads to come. -/
def readHeaders (limits : ServerLimits) (buf : Bytes) (stream : Stream) :
    Except IoError (Bytes × Nat × Stream) :=
  match findSubsequence buf blankLine with
  | some pos => .ok (buf, pos + 4, stream)
  | none =>
    if buf.length > limits.maxHeaderBytes.toNat then
      .error ⟨.invalidData, "HTTP header block exceeds max_header_bytes"⟩
    else
      match stream with
      | [] => .error ⟨.unexpectedEof, "connection closed before end of HTTP headers"⟩
      | .error failure :: _ => .error failure
      | .ok chunk :: rest =>
        if chunk.bytes = [] then
          .error ⟨.unexpectedEof, "connection closed before end of HTTP headers"⟩
        else readHeaders limits (buf ++ chunk.bytes) rest

/-- The loop that reads the body, up to the end of the stream at most. -/
def readBody (limits : ServerLimits) (contentLength : Nat) (body : Bytes) (stream : Stream) :
    Except IoError Bytes :=
  if body.length < contentLength then
    if body.length > limits.maxBodyBytes.toNat then
      .error ⟨.invalidData, "request body exceeds max_body_bytes"⟩
    else
      match stream with
      | [] => .ok body
      | .error failure :: _ => .error failure
      | .ok chunk :: rest =>
        if chunk.bytes = [] then .ok body
        else readBody limits contentLength (body ++ chunk.bytes) rest
  else .ok body

def readHttpRequest (lossy : Utf8Lossy) (limits : ServerLimits) (stream : Stream) :
    Except IoError HttpRequest := do
  let (buf, headerEnd, stream) ← readHeaders limits [] stream
  rejectMalformedHeaderFraming (buf.take headerEnd)
  let headerBlock := lossy.decode (buf.take headerEnd)
  let contentLength := (parseContentLength headerBlock).getD 0
  if contentLength > limits.maxBodyBytes.toNat then
    throw ⟨.invalidData, "Content-Length exceeds max_body_bytes"⟩
  let body ← readBody limits contentLength (buf.drop headerEnd) stream
  return ⟨headerBlock, body.take contentLength⟩

/-- What is written for a response. -/
def writeHttpResponse (body : Bytes) : Bytes :=
  textBytes ("HTTP/1.1 200 OK\r\nContent-Type: application/json\r\nContent-Length: " ++
    toString body.length ++ "\r\nConnection: close\r\n\r\n") ++ body

/-! ## The header block of a framed request -/

/-- A header line of a framed text. -/
structure CleanText (line : List Char) : Prop where
  nonempty : line ≠ []
  unbroken : '\r' ∉ line ∧ '\n' ∉ line
  unfolded : ∀ c ∈ line.head?, c ≠ ' ' ∧ c ≠ '\t'

/-- The text of a header block with some lines. -/
def headerText (lines : List (List Char)) : List Char :=
  lines.flatMap (· ++ ['\r', '\n']) ++ ['\r', '\n']

theorem encodeUtf8_headerText (lines : List (List Char)) :
    encodeUtf8 (headerText lines) = header (lines.map encodeUtf8) := by
  have lineEnd : encodeUtf8 ['\r', '\n'] = crlf := by decide
  induction lines with
  | nil => exact lineEnd
  | cons line lines ih =>
    have split : headerText (line :: lines) = line ++ ['\r', '\n'] ++ headerText lines := by
      simp [headerText]
    rw [split, encodeUtf8_append, encodeUtf8_append, lineEnd, ih, map_cons, header_cons]

theorem CleanText.cleanLine {line : List Char} (clean : CleanText line) :
    CleanLine (encodeUtf8 line) := by
  obtain ⟨c, _, rfl⟩ := exists_cons_of_ne_nil clean.nonempty
  obtain ⟨first, _, encoded⟩ := exists_cons_of_ne_nil (utf8EncodeChar_ne_nil c)
  have other (n : Nat) (ascii : n < 0x80) (different : c.toNat ≠ n) : first ≠ UInt8.ofNat n := by
    rintro rfl
    exact ascii_notMem_utf8EncodeChar ascii different (by simp [encoded])
  have differ (d : Char) (different : c ≠ d) : c.toNat ≠ d.toNat :=
    fun same => different (Char.toNat_inj.mp same)
  constructor
  · rw [encodeUtf8_cons]
    simp
  · exact ⟨@ascii_notMem_encodeUtf8 '\r' (by decide) _ clean.unbroken.1,
      newline_notMem_encodeUtf8 clean.unbroken.2⟩
  · intro byte head
    rw [encodeUtf8_cons, encoded] at head
    cases head
    have start := clean.unfolded c rfl
    exact ⟨other 32 (by decide) (differ ' ' start.1), other 9 (by decide) (differ '\t' start.2)⟩

theorem cleanLine_of_mem_map {texts : List (List Char)} (clean : ∀ text ∈ texts, CleanText text) :
    ∀ line ∈ texts.map encodeUtf8, CleanLine line := by
  rw [forall_mem_map]
  intro text member
  exact (clean text member).cleanLine

theorem linesAfter_cons {line : List Char} (unbroken : '\n' ∉ line) (begun rest : List Char) :
    linesAfter begun (line ++ '\r' :: '\n' :: rest) = (begun ++ line) :: lines rest := by
  induction line generalizing begun with
  | nil => simp [linesAfter, lines]
  | cons c line ih =>
    obtain ⟨other, unbroken⟩ := not_or.mp (mt mem_cons.mpr unbroken)
    rw [cons_append, linesAfter, if_neg (Ne.symm other), ih unbroken]
    simp

theorem lines_headerText {texts : List (List Char)} (clean : ∀ text ∈ texts, CleanText text) :
    lines (headerText texts) = texts ++ [[]] := by
  induction texts with
  | nil => rfl
  | cons text texts ih =>
    have split : headerText (text :: texts) = text ++ '\r' :: '\n' :: headerText texts := by
      simp [headerText]
    rw [split, lines, linesAfter_cons (clean text (by simp)).unbroken.2,
      ih fun text member => clean text (by simp [member])]
    rfl

theorem rejectMalformed_other {byte : UInt8} (notReturn : byte ≠ carriageReturn)
    (notFeed : byte ≠ lineFeed) (previous : Option UInt8) (rest : Bytes) :
    rejectMalformedAfter previous (byte :: rest) = rejectMalformedAfter (some byte) rest := by
  rw [rejectMalformedAfter, if_neg fun bare => notReturn bare.1, if_neg fun bare => notFeed bare.1,
    if_neg fun folded => notFeed folded.1]

theorem rejectMalformed_line {line : Bytes} (unbroken : carriageReturn ∉ line ∧ lineFeed ∉ line)
    (previous : Option UInt8) {byte : UInt8} (unfolded : byte ≠ 32 ∧ byte ≠ 9) (rest : Bytes) :
    rejectMalformedAfter previous (line ++ crlf ++ byte :: rest) =
      rejectMalformedAfter (some lineFeed) (byte :: rest) := by
  induction line generalizing previous with
  | nil =>
    have ends : lineFeed ≠ carriageReturn := by decide
    rw [nil_append, crlf, cons_append, cons_append, rejectMalformedAfter, rejectMalformedAfter]
    simp [ends, ends.symm, unfolded]
  | cons first line ih =>
    obtain ⟨notReturn, noReturn⟩ := not_or.mp (mt mem_cons.mpr unbroken.1)
    obtain ⟨notFeed, noFeed⟩ := not_or.mp (mt mem_cons.mpr unbroken.2)
    rw [cons_append, cons_append, rejectMalformed_other (Ne.symm notReturn)
      (Ne.symm notFeed)]
    exact ih ⟨noReturn, noFeed⟩ (some first)

theorem rejectMalformed_header {lines : List Bytes} (clean : ∀ line ∈ lines, CleanLine line)
    (previous : Option UInt8) : rejectMalformedAfter previous (header lines) = .ok () := by
  induction lines generalizing previous with
  | nil => rfl
  | cons line lines ih =>
    have others : ∀ line ∈ lines, CleanLine line := fun line member => clean line (by simp [member])
    obtain ⟨_, _, begins, notBlank, notTab, _⟩ := head_header others
    rw [header_cons, begins, rejectMalformed_line (clean line (by simp)).unbroken previous
      ⟨notBlank, notTab⟩, ← begins]
    exact ih others _

/-! ## The end of the header block -/

theorem findSubsequence_blankLine (text : Bytes) :
    findSubsequence text blankLine = position blankLine text := by
  unfold findSubsequence
  split
  next short => exact (position_of_short (short.resolve_left (by decide))).symm
  next => rfl

/-- The bytes that some reads deliver. -/
def delivered (chunks : List Chunk) : Bytes := chunks.flatMap Chunk.bytes

/-- The blank line is found once it has arrived. -/
theorem findSubsequence_arrived {text buf rest : Bytes} {start : Nat}
    (found : position blankLine text = some start) (split : buf ++ rest = text) :
    findSubsequence buf blankLine =
      if start + blankLine.length ≤ buf.length then some start else none := by
  have arrived : text.take buf.length = buf := by rw [← split, take_left]
  rw [findSubsequence_blankLine, ← position_take (by decide) found, arrived]

end Mcps.Http
