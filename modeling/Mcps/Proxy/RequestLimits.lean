import Mcps.Proxy.HttpServer

/-!
# Limits and lengths of a request

Which byte streams the reader of a request accepts, over every way to cut them into reads.
The cap on the header block is tested only while its end has not arrived, so the block may
exceed the cap by what one read delivers.  The body is never longer than its cap, but its
length is that of the first `Content-Length` alone, and of whatever arrived of it.
-/

namespace Mcps.Http

open MessageFrame List Option
open Proxy.PersistentInner (Utf8Lossy utf8Lossy)

/-! ## Streams of bytes -/

/-- The reads deliver some bytes, each at least one, and then the stream ends. -/
structure Splits (chunks : List Chunk) (bytes : Bytes) : Prop where
  joined : delivered chunks = bytes
  filled : ∀ chunk ∈ chunks, chunk.bytes ≠ []

/-- How long the header block of a stream is, up to and including its blank line. -/
def headerSize (bytes : Bytes) : Option Nat := (position blankLine bytes).map (· + 4)

/-- What is read of a stream of bytes. -/
def readBytes (lossy : Utf8Lossy) (limits : ServerLimits) (chunks : List Chunk) :
    Except IoError HttpRequest :=
  readHttpRequest lossy limits (chunks.map .ok)

@[simp] theorem delivered_nil : delivered [] = [] := rfl

@[simp] theorem delivered_cons (chunk : Chunk) (chunks : List Chunk) :
    delivered (chunk :: chunks) = chunk.bytes ++ delivered chunks :=
  flatMap_cons

@[simp] theorem delivered_append (left right : List Chunk) :
    delivered (left ++ right) = delivered left ++ delivered right :=
  flatMap_append

/-! ## The end of the headers -/

section

variable {bytes buf rest : Bytes}

variable {size : Nat}

theorem headerSize_append (more : Bytes) (found : headerSize bytes = some size) :
    headerSize (bytes ++ more) = some size := by
  obtain ⟨_, search, rfl⟩ := map_eq_some_iff.mp found
  rw [headerSize, position_append more search, map_some]

theorem headerSize_le (found : headerSize bytes = some size) : size ≤ bytes.length := by
  obtain ⟨_, search, rfl⟩ := map_eq_some_iff.mp found
  exact position_le search

/-- What has arrived holds the end of the headers once it is long enough. -/
theorem headerSize_arrived (found : headerSize bytes = some size) (split : buf ++ rest = bytes)
    (arrived : size ≤ buf.length) : headerSize buf = some size := by
  obtain ⟨start, search, rfl⟩ := map_eq_some_iff.mp found
  have here := findSubsequence_arrived search split
  rw [if_pos (show start + blankLine.length ≤ buf.length from arrived), findSubsequence_blankLine]
    at here
  rw [headerSize, here, map_some]

end

section

variable {limits : ServerLimits} {chunks : List Chunk} {bytes buf : Bytes}

/-- One turn of the loop over the headers. -/
theorem readHeaders_eq (limits : ServerLimits) (buf : Bytes) (stream : Stream) :
    readHeaders limits buf stream =
      match headerSize buf with
      | some size => .ok (buf, size, stream)
      | none =>
        if buf.length > limits.maxHeaderBytes.toNat then
          .error ⟨.invalidData, "HTTP header block exceeds max_header_bytes"⟩
        else
          match stream with
          | [] => .error ⟨.unexpectedEof, "connection closed before end of HTTP headers"⟩
          | .error failure :: _ => .error failure
          | .ok chunk :: rest =>
            if chunk.bytes = [] then
              .error ⟨.unexpectedEof, "connection closed before end of HTTP headers"⟩
            else readHeaders limits (buf ++ chunk.bytes) rest := by
  rw [readHeaders.eq_def, findSubsequence_blankLine, headerSize]
  cases position blankLine buf <;> rfl

/-- What the loop over the headers returns: all that has arrived of a stream, where the
headers in it end, and the reads to come. -/
structure HeadersRead (limits : ServerLimits) (bytes found : Bytes) (size : Nat) (stream : Stream) :
    Prop where
  ends : headerSize bytes = some size
  bounded : size ≤ limits.maxHeaderBytes.toNat + 1024
  arrived : ∃ body rest, found = bytes.take size ++ body ∧ stream = rest.map .ok ∧
    (∀ chunk ∈ rest, chunk.bytes ≠ []) ∧ body ++ delivered rest = bytes.drop size

variable {size : Nat}

theorem headersRead_of_headerSize (filled : ∀ chunk ∈ chunks, chunk.bytes ≠ [])
    (split : buf ++ delivered chunks = bytes)
    (short : buf.length ≤ limits.maxHeaderBytes.toNat + 1024)
    (search : headerSize buf = some size) : HeadersRead limits bytes buf size (chunks.map .ok) := by
  have inside := headerSize_le search
  rw [← split]
  constructor
  · exact headerSize_append _ search
  · exact inside.trans short
  · rw [take_append_of_le_length inside, drop_append_of_le_length inside]
    exact ⟨buf.drop size, chunks, (take_append_drop size buf).symm, rfl, filled, rfl⟩

theorem readHeaders_eq_ok {found : Bytes} {stream : Stream}
    (filled : ∀ chunk ∈ chunks, chunk.bytes ≠ []) (split : buf ++ delivered chunks = bytes)
    (short : buf.length ≤ limits.maxHeaderBytes.toNat + 1024)
    (read : readHeaders limits buf (chunks.map .ok) = .ok (found, size, stream)) :
    HeadersRead limits bytes found size stream := by
  induction chunks generalizing buf with
  | nil =>
    rw [readHeaders_eq] at read
    cases search : headerSize buf with
    | some here =>
      rw [search] at read
      cases read
      exact headersRead_of_headerSize filled split short search
    | none =>
      rw [search] at read
      dsimp only [map_nil] at read
      split at read <;> cases read
  | cons chunk chunks ih =>
    rw [readHeaders_eq] at read
    cases search : headerSize buf with
    | some here =>
      rw [search] at read
      cases read
      exact headersRead_of_headerSize filled split short search
    | none =>
      rw [search, map_cons] at read
      dsimp only at read
      split at read
      · cases read
      · rw [if_neg (filled chunk (by simp))] at read
        have fits := chunk.fits
        apply ih (fun chunk member => filled chunk (by simp [member])) _ _ read
        · rw [append_assoc, ← split, delivered_cons]
        · rw [length_append]
          omega

theorem readHeaders_isOk (found : headerSize bytes = some size)
    (filled : ∀ chunk ∈ chunks, chunk.bytes ≠ []) (split : buf ++ delivered chunks = bytes)
    (below : ∀ taken left, chunks = taken ++ left → buf.length + (delivered taken).length < size →
      buf.length + (delivered taken).length ≤ limits.maxHeaderBytes.toNat) :
    ∃ result, readHeaders limits buf (chunks.map .ok) = .ok result := by
  induction chunks generalizing buf with
  | nil =>
    rw [delivered_nil, append_nil] at split
    rw [readHeaders_eq, split, found]
    exact ⟨_, rfl⟩
  | cons chunk chunks ih =>
    rw [readHeaders_eq]
    cases search : headerSize buf with
    | some here => exact ⟨_, rfl⟩
    | none =>
      have missing : buf.length < size := by
        by_contra arrived
        rw [headerSize_arrived found split (not_lt.mp arrived)] at search
        cases search
      have small := below [] (chunk :: chunks) rfl (by simpa using missing)
      rw [delivered_nil, length_nil, Nat.add_zero] at small
      rw [map_cons]
      dsimp only
      rw [if_neg (not_lt.mpr small), if_neg (filled chunk (by simp))]
      apply ih (fun chunk member => filled chunk (by simp [member]))
      · rw [append_assoc, ← split, delivered_cons]
      · intro taken left cut
        have next := below (chunk :: taken) left (by rw [cut, cons_append])
        rwa [delivered_cons, length_append, ← Nat.add_assoc, ← length_append] at next

end

/-! ## The body -/

variable {limits : ServerLimits}

theorem readBody_eq_ok {contentLength : Nat} {chunks : List Chunk} {arrived rest : Bytes}
    (fits : contentLength ≤ limits.maxBodyBytes.toNat) (filled : ∀ chunk ∈ chunks, chunk.bytes ≠ [])
    (split : arrived ++ delivered chunks = rest) :
    ∃ body, readBody limits contentLength arrived (chunks.map .ok) = .ok body ∧
      body.take contentLength = rest.take contentLength := by
  induction chunks generalizing arrived with
  | nil =>
    rw [delivered_nil, append_nil] at split
    refine ⟨rest, ?_, rfl⟩
    rw [readBody.eq_def, split, map_nil]
    split
    next more => rw [if_neg (by omega)]
    next => rfl
  | cons chunk chunks ih =>
    rw [readBody.eq_def]
    by_cases more : arrived.length < contentLength
    · rw [if_pos more, if_neg (by omega), map_cons]
      dsimp only
      rw [if_neg (filled chunk (by simp))]
      apply ih fun chunk member => filled chunk (by simp [member])
      rw [append_assoc, ← split, delivered_cons]
    · refine ⟨arrived, by rw [if_neg more], ?_⟩
      rw [← split, take_append_of_le_length (not_lt.mp more)]

/-! ## The accepted streams -/

/-- The length of the body that a header block announces; none is announced as zero. -/
def announcedLength (lossy : Utf8Lossy) (headerBytes : Bytes) : Nat :=
  (parseContentLength (lossy.decode headerBytes)).getD 0

/-- The checks a header block passes once it is read. -/
structure Admitted (lossy : Utf8Lossy) (limits : ServerLimits) (headerBytes : Bytes) : Prop where
  framed : rejectMalformedHeaderFraming headerBytes = .ok ()
  announced : announcedLength lossy headerBytes ≤ limits.maxBodyBytes.toNat

/-- The request in a stream whose header block has a size. -/
def requestIn (lossy : Utf8Lossy) (bytes : Bytes) (size : Nat) : HttpRequest where
  headerBlock := lossy.decode (bytes.take size)
  body := (bytes.drop size).take (announcedLength lossy (bytes.take size))

section

variable {lossy : Utf8Lossy} {limits : ServerLimits} {chunks : List Chunk} {bytes : Bytes}

variable {size : Nat} {request : HttpRequest}

theorem HeadersRead.readBytes_eq_ok_iff {found : Bytes} {stream : Stream}
    (read : HeadersRead limits bytes found size stream)
    (headers : readHeaders limits [] (chunks.map .ok) = .ok (found, size, stream)) :
    readBytes lossy limits chunks = .ok request ↔
      Admitted lossy limits (bytes.take size) ∧ request = requestIn lossy bytes size := by
  obtain ⟨body, rest, rfl, rfl, filled, split⟩ := read.arrived
  have cut : (bytes.take size).length = size := length_take_of_le (headerSize_le read.ends)
  have steps : readBytes lossy limits chunks = (do
      rejectMalformedHeaderFraming (bytes.take size)
      if announcedLength lossy (bytes.take size) > limits.maxBodyBytes.toNat then
        throw ⟨.invalidData, "Content-Length exceeds max_body_bytes"⟩
      let received ← readBody limits (announcedLength lossy (bytes.take size)) body (rest.map .ok)
      return ⟨lossy.decode (bytes.take size),
        received.take (announcedLength lossy (bytes.take size))⟩) := by
    rw [readBytes, readHttpRequest, headers, Except.bind_ok]
    simp only [take_left' cut, drop_left' cut]
    rfl
  rw [steps]
  cases framed : rejectMalformedHeaderFraming (bytes.take size) with
  | error failure =>
    constructor
    · intro read
      cases read
    · intro ⟨admitted, _⟩
      cases framed.symm.trans admitted.framed
  | ok =>
    by_cases announced : announcedLength lossy (bytes.take size) ≤ limits.maxBodyBytes.toNat
    · obtain ⟨received, readRest, same⟩ := readBody_eq_ok announced filled split
      rw [if_neg (not_lt.mpr announced), readRest]
      simp only [Except.bind_ok, same]
      constructor
      · intro read
        cases read
        exact ⟨⟨framed, announced⟩, rfl⟩
      · intro ⟨_, whole⟩
        rw [whole]
        rfl
    · rw [if_pos (not_le.mp announced)]
      constructor
      · intro read
        cases read
      · intro ⟨admitted, _⟩
        exact absurd admitted.announced announced

/-- A stream of bytes is accepted once its headers are read and admitted. -/
theorem readBytes_eq_ok_iff (splits : Splits chunks bytes) :
    readBytes lossy limits chunks = .ok request ↔
      (∃ result, readHeaders limits [] (chunks.map .ok) = .ok result) ∧
      ∃ size, headerSize bytes = some size ∧ size ≤ limits.maxHeaderBytes.toNat + 1024 ∧
        Admitted lossy limits (bytes.take size) ∧ request = requestIn lossy bytes size := by
  cases headers : readHeaders limits [] (chunks.map .ok) with
  | error failure => simp [readBytes, readHttpRequest, headers]
  | ok result =>
    have read := readHeaders_eq_ok splits.filled (by rw [splits.joined])
      (by simp) headers
    rw [read.readBytes_eq_ok_iff headers]
    constructor
    · intro admitted
      exact ⟨⟨_, rfl⟩, _, read.ends, read.bounded, admitted⟩
    · intro ⟨_, _, ends, _, admitted⟩
      cases read.ends.symm.trans ends
      exact admitted

/-- Reads of one byte each. -/
def bytewise (bytes : Bytes) : List Chunk := bytes.map fun byte => ⟨[byte], by simp⟩

theorem splits_bytewise (bytes : Bytes) : Splits (bytewise bytes) bytes := by
  constructor
  · rw [bytewise, delivered, flatMap_map]
    exact flatMap_singleton' bytes
  · intro chunk member
    obtain ⟨_, _, rfl⟩ := mem_map.mp member
    simp

/-- Reads of one byte up to the cap, then as much as one read delivers. -/
def cautious (limits : ServerLimits) (bytes : Bytes) : List Chunk :=
  let behind := bytes.drop limits.maxHeaderBytes.toNat
  let large : Chunk := ⟨behind.take 1024, List.length_take_le _ _⟩
  bytewise (bytes.take limits.maxHeaderBytes.toNat) ++
    if behind = [] then [] else large :: bytewise (behind.drop 1024)

theorem splits_cautious (limits : ServerLimits) (bytes : Bytes) :
    Splits (cautious limits bytes) bytes := by
  have start := splits_bytewise (bytes.take limits.maxHeaderBytes.toNat)
  have ends := splits_bytewise ((bytes.drop limits.maxHeaderBytes.toNat).drop 1024)
  rw [cautious]
  split
  next complete =>
    rw [append_nil]
    rwa [take_of_length_le (drop_eq_nil_iff.mp complete)] at start ⊢
  next more =>
    constructor
    · rw [delivered_append, delivered_cons, start.joined, ends.joined, take_append_drop,
        take_append_drop]
    · intro chunk member
      rw [mem_append, mem_cons] at member
      rcases member with before | rfl | behind
      · exact start.filled chunk before
      · simpa using more
      · exact ends.filled chunk behind

theorem readHeaders_cautious (found : headerSize bytes = some size)
    (bounded : size ≤ limits.maxHeaderBytes.toNat + 1024) :
    ∃ result, readHeaders limits [] ((cautious limits bytes).map .ok) = .ok result := by
  have splits := splits_cautious limits bytes
  apply readHeaders_isOk found splits.filled (by rw [nil_append, splits.joined])
  intro taken left cut missing
  rw [length_nil, Nat.zero_add] at missing ⊢
  have start := (splits_bytewise (bytes.take limits.maxHeaderBytes.toNat)).joined
  have inside := headerSize_le found
  rcases append_eq_append_iff.mp cut with ⟨more, rfl, behind⟩ | ⟨more, before, rfl⟩
  · cases more with
    | nil =>
      rw [append_nil, start]
      exact length_take_le _ _
    | cons large more =>
      split at behind
      · cases behind
      · rw [cons_append] at behind
        rw [(cons.inj behind).1.symm, delivered_append, start, delivered_cons,
          length_append, length_append, length_take, length_take,
          length_drop] at missing
        omega
  · have part := congrArg (fun chunks => (delivered chunks).length) before
    simp only [start, delivered_append, length_append, length_take] at part
    omega

theorem exists_readBytes_eq_ok (found : headerSize bytes = some size)
    (bounded : size ≤ limits.maxHeaderBytes.toNat + 1024)
    (admitted : Admitted lossy limits (bytes.take size)) :
    ∃ chunks, Splits chunks bytes ∧
      readBytes lossy limits chunks = .ok (requestIn lossy bytes size) := by
  have splits := splits_cautious limits bytes
  refine ⟨cautious limits bytes, splits, (readBytes_eq_ok_iff splits).mpr ?_⟩
  exact ⟨readHeaders_cautious found bounded, size, found, bounded, admitted, rfl⟩

theorem readBytes_of_small (splits : Splits chunks bytes) (found : headerSize bytes = some size)
    (small : size ≤ limits.maxHeaderBytes.toNat)
    (admitted : Admitted lossy limits (bytes.take size)) :
    readBytes lossy limits chunks = .ok (requestIn lossy bytes size) := by
  have headers : ∃ result, readHeaders limits [] (chunks.map .ok) = .ok result := by
    apply readHeaders_isOk found splits.filled (by rw [nil_append, splits.joined])
    intro taken left _ missing
    exact missing.le.trans small
  exact (readBytes_eq_ok_iff splits).mpr ⟨headers, size, found, by omega, admitted, rfl⟩

/-- A request that was framed with clean lines and its body's length is read back, however its
bytes are cut into reads. -/
theorem readHttpRequest_framed (lossy : Utf8Lossy) {texts : List (List Char)} (some : texts ≠ [])
    (clean : ∀ text ∈ texts, CleanText text)
    (small : (encodeUtf8 (headerText texts)).length ≤ limits.maxHeaderBytes.toNat) {body : Bytes}
    (fits : body.length ≤ limits.maxBodyBytes.toNat)
    (announced : contentLengthOf (texts ++ [[]]) = Option.some body.length)
    (filled : ∀ chunk ∈ chunks, chunk.bytes ≠ [])
    (split : delivered chunks = encodeUtf8 (headerText texts) ++ body) :
    readHttpRequest lossy limits (chunks.map .ok) = .ok ⟨headerText texts, body⟩ := by
  have cleanLines := cleanLine_of_mem_map clean
  have decoded := lossy.lossless (headerText texts)
  have found : headerSize (encodeUtf8 (headerText texts) ++ body) =
      Option.some (encodeUtf8 (headerText texts)).length := by
    obtain ⟨_, search, ends⟩ := position_header (by simpa using some) cleanLines body
    rw [encodeUtf8_headerText, headerSize, search, ← ends]
    rfl
  have length : announcedLength lossy (encodeUtf8 (headerText texts)) = body.length := by
    rw [announcedLength, decoded, parseContentLength, lines_headerText clean, announced, getD_some]
  have admitted : Admitted lossy limits (encodeUtf8 (headerText texts)) := by
    constructor
    · rw [encodeUtf8_headerText]
      exact rejectMalformed_header cleanLines none
    · rwa [length]
  have read := readBytes_of_small ⟨split, filled⟩ found small
    (show Admitted lossy limits _ by rwa [take_left])
  rwa [requestIn, take_left, drop_left, length, take_length, decoded] at read

end

/-! ## The cap on the headers -/

/-- Both caps hold for what is accepted of a stream, and whether it is accepted does not depend
on the reads. -/
structure LimitsEnforced (lossy : Utf8Lossy) (limits : ServerLimits) (bytes : Bytes) : Prop where
  bounded : ∀ chunks request, Splits chunks bytes → readBytes lossy limits chunks = .ok request →
    (∃ size, headerSize bytes = some size ∧ size ≤ limits.maxHeaderBytes.toNat) ∧
      request.body.length ≤ limits.maxBodyBytes.toNat
  independent : ∀ chunks other, Splits chunks bytes → Splits other bytes →
    ((readBytes lossy limits chunks).isOk ↔ (readBytes lossy limits other).isOk)

/-- The limits are enforced on a stream exactly if its header block does not exceed the cap by
what one read delivers at most and would be admitted otherwise. -/
theorem limitsEnforced_iff (lossy : Utf8Lossy) (limits : ServerLimits) (bytes : Bytes) :
    LimitsEnforced lossy limits bytes ↔
      ∀ size, headerSize bytes = some size → limits.maxHeaderBytes.toNat < size →
        size ≤ limits.maxHeaderBytes.toNat + 1024 → ¬ Admitted lossy limits (bytes.take size) := by
  constructor
  · intro enforced size found large bounded admitted
    rcases exists_readBytes_eq_ok found bounded admitted with ⟨chunks, splits, read⟩
    rcases (enforced.bounded chunks _ splits read).1 with ⟨other, same, small⟩
    cases found.symm.trans same
    omega
  · intro refused
    have accepted {chunks : List Chunk} {request : HttpRequest} (splits : Splits chunks bytes)
        (read : readBytes lossy limits chunks = .ok request) :
        ∃ size, headerSize bytes = some size ∧ size ≤ limits.maxHeaderBytes.toNat ∧
          Admitted lossy limits (bytes.take size) ∧ request = requestIn lossy bytes size := by
      rcases ((readBytes_eq_ok_iff splits).mp read).2 with ⟨size, found, bounded, admitted, same⟩
      refine ⟨size, found, ?_, admitted, same⟩
      by_contra large
      exact refused size found (not_le.mp large) bounded admitted
    have transfer {chunks other : List Chunk} (splits : Splits chunks bytes)
        (others : Splits other bytes) (ok : (readBytes lossy limits chunks).isOk) :
        (readBytes lossy limits other).isOk := by
      cases read : readBytes lossy limits chunks with
      | error failure =>
        rw [read] at ok
        cases ok
      | ok request =>
        rcases accepted splits read with ⟨size, found, small, admitted, _⟩
        rw [readBytes_of_small others found small admitted]
        rfl
    constructor
    · intro chunks request splits read
      rcases accepted splits read with ⟨size, found, small, admitted, rfl⟩
      refine ⟨⟨size, found, small⟩, ?_⟩
      exact (List.length_take_le _ _).trans admitted.announced
    · intro chunks other splits others
      exact ⟨transfer splits others, transfer others splits⟩

/-- Limits with a small cap on the headers. -/
def sixBytes : ServerLimits := { ServerLimits.default with maxHeaderBytes := 6 }

/-- A header block of nine bytes. -/
def nineBytes : Chunk := ⟨textBytes "GET /\r\n\r\n", by decide +kernel⟩

/-- In one read the block is accepted, though it is too long; byte by byte it is not. -/
theorem limits_exceeded :
    headerSize nineBytes.bytes = some 9 ∧ sixBytes.maxHeaderBytes = 6 ∧
      readBytes utf8Lossy sixBytes [nineBytes] = .ok ⟨textChars "GET /\r\n\r\n", []⟩ ∧
      readBytes utf8Lossy sixBytes (bytewise nineBytes.bytes) =
        .error ⟨.invalidData, "HTTP header block exceeds max_header_bytes"⟩ ∧
      ¬ LimitsEnforced utf8Lossy sixBytes nineBytes.bytes := by
  have one : readBytes utf8Lossy sixBytes [nineBytes] = .ok ⟨textChars "GET /\r\n\r\n", []⟩ := by
    decide +kernel
  have each : readBytes utf8Lossy sixBytes (bytewise nineBytes.bytes) =
      .error ⟨.invalidData, "HTTP header block exceeds max_header_bytes"⟩ := by
    decide +kernel
  refine ⟨by decide +kernel, rfl, one, each, ?_⟩
  intro enforced
  have splits : Splits [nineBytes] nineBytes.bytes := ⟨by decide +kernel, by decide +kernel⟩
  have same := enforced.independent _ _ splits (splits_bytewise _)
  rw [one, each] at same
  exact absurd (same.mp rfl) (by decide)

/-! ## Lengths -/

/-- The value of a line that names `Content-Length`. -/
def lengthField (line : List Char) : Option (List Char) :=
  (splitOnce ':' line).bind fun (name, value) =>
    if toAsciiLowercase (trim name) = textChars "content-length" then some (trim value) else none

/-- The values of the header lines that name `Content-Length`, behind the request line. -/
def lengthFields (block : List Char) : List (List Char) :=
  ((lines block).drop 1).filterMap lengthField

/-- The number that decimal digits write. -/
def decimal? (text : List Char) : Option Nat :=
  if text ≠ [] ∧ ∀ c ∈ text, c.isDigit then some (Nat.ofDigitChars 10 text 0) else none

/-- No length is declared, for a body of none; or all the lengths declared are one. -/
def Declares (fields : List (List Char)) (length : Nat) : Prop :=
  (fields = [] ∧ length = 0) ∨ (fields ≠ [] ∧ ∀ field ∈ fields, decimal? field = some length)

instance (fields : List (List Char)) (length : Nat) : Decidable (Declares fields length) :=
  inferInstanceAs (Decidable (_ ∨ _))

/-- What is accepted of a stream has the body that its header lines declare. -/
def ContentLengthHonoured (lossy : Utf8Lossy) (limits : ServerLimits) (bytes : Bytes) : Prop :=
  ∀ chunks request, Splits chunks bytes → readBytes lossy limits chunks = .ok request →
    ∃ size length, headerSize bytes = some size ∧ Declares (lengthFields request.headerBlock) length ∧
      length ≤ (bytes.drop size).length ∧ request.body = (bytes.drop size).take length

theorem contentLengthOf_eq (texts : List (List Char)) :
    contentLengthOf texts = (texts.findSome? lengthField).bind parseUsize := by
  induction texts with
  | nil => rfl
  | cons text texts ih =>
    rw [contentLengthOf, findSome?_cons, ih, lengthField]
    cases splitOnce ':' text with
    | none => rfl
    | some parts =>
      simp only [bind_some]
      split <;> rfl

theorem parseUsize_of_decimal {text : List Char} {number : Nat} (digits : decimal? text = some number) :
    parseUsize text = if number < 2 ^ 64 then some number else none := by
  rw [decimal?] at digits
  split at digits
  next spelled =>
    cases digits
    exact Numeral.parseUnsigned_digits _ spelled.1 spelled.2
  next => cases digits

theorem parseContentLength_eq (block : List Char) :
    parseContentLength block =
      (((lines block).head?.bind lengthField).or (lengthFields block).head?).bind parseUsize := by
  rw [parseContentLength, contentLengthOf_eq, lengthFields]
  cases lines block with
  | nil => rfl
  | cons first others =>
    rw [findSome?_cons, head?_cons, bind_some, head?_filterMap]
    cases lengthField first <;> rfl

/-- A length is declared that is there and that the reader can represent, and the request line
names no other. -/
def WellSized (block : List Char) (rest : Bytes) : Prop :=
  ∃ length, Declares (lengthFields block) length ∧ length ≤ rest.length ∧ length < 2 ^ 64 ∧
    ∀ field ∈ (lines block).head?.bind lengthField,
      min ((parseUsize field).getD 0) rest.length = length

theorem wellSized_iff (block : List Char) (rest : Bytes) :
    WellSized block rest ↔ ∃ length, Declares (lengthFields block) length ∧ length ≤ rest.length ∧
      min ((parseContentLength block).getD 0) rest.length = length := by
  apply exists_congr
  intro length
  rw [parseContentLength_eq]
  apply and_congr_right
  intro declares
  apply and_congr_right
  intro available
  cases (lines block).head?.bind lengthField with
  | some field =>
    rw [some_or, bind_some]
    constructor
    · intro ⟨_, only⟩
      exact only field rfl
    · intro taken
      refine ⟨?_, ?_⟩
      · rw [← taken]
        cases read : parseUsize field with
        | none => simp
        | some number => exact (min_le_left _ _).trans_lt (Numeral.parseUnsigned_lt read)
      · intro other same
        cases same
        exact taken
  | none =>
    rw [none_or]
    cases declares with
    | inl empty => simp [empty]
    | inr spelled =>
      obtain ⟨first, _, fields⟩ := exists_cons_of_ne_nil spelled.1
      have digits := spelled.2 first (by simp [fields])
      rw [fields, head?_cons, bind_some, parseUsize_of_decimal digits]
      split
      next small => simpa [available] using small
      next large =>
        have positive : length ≠ 0 := by omega
        simpa [Ne.symm positive] using large

/-- `Content-Length` is honoured on a stream exactly if no reads get its header block accepted,
or the block declares the length of a body that is there. -/
theorem contentLengthHonoured_iff (lossy : Utf8Lossy) (limits : ServerLimits) (bytes : Bytes) :
    ContentLengthHonoured lossy limits bytes ↔
      ∀ size, headerSize bytes = some size → size ≤ limits.maxHeaderBytes.toNat + 1024 →
        Admitted lossy limits (bytes.take size) →
          WellSized (lossy.decode (bytes.take size)) (bytes.drop size) := by
  constructor
  · intro honoured size found bounded admitted
    rcases exists_readBytes_eq_ok found bounded admitted with ⟨chunks, splits, read⟩
    rcases honoured chunks _ splits read with ⟨other, length, ends, declares, available, body⟩
    cases found.symm.trans ends
    refine (wellSized_iff _ _).mpr ⟨length, declares, available, ?_⟩
    have same := List.take_eq_take_iff.mp body
    rwa [min_eq_left available] at same
  · intro sized chunks request splits read
    rcases ((readBytes_eq_ok_iff splits).mp read).2 with ⟨size, found, bounded, admitted, rfl⟩
    rcases (wellSized_iff _ _).mp (sized size found bounded admitted) with
      ⟨length, declares, available, taken⟩
    refine ⟨size, length, found, declares, available, List.take_eq_take_iff.mpr ?_⟩
    rw [min_eq_left available]
    exact taken

theorem not_honoured_of_undeclared {lossy : Utf8Lossy} {chunks : List Chunk} {bytes : Bytes}
    {request : HttpRequest} (splits : Splits chunks bytes)
    (read : readBytes lossy limits chunks = .ok request)
    (undeclared : ∀ length, ¬ Declares (lengthFields request.headerBlock) length) :
    ¬ ContentLengthHonoured lossy limits bytes := by
  intro honoured
  obtain ⟨_, length, _, declares, _⟩ := honoured chunks request splits read
  exact undeclared length declares

/-- A request with two lengths, and a body of neither. -/
def conflictingLengths : Chunk :=
  ⟨textBytes "POST / HTTP/1.1\r\nContent-Length: 5\r\nContent-Length: 3\r\n\r\nab", by decide +kernel⟩

/-- It is accepted with the two bytes that arrived. -/
theorem contentLength_ignored :
    (∃ block, readBytes utf8Lossy .default [conflictingLengths] = .ok ⟨block, textBytes "ab"⟩ ∧
      lengthFields block = [textChars "5", textChars "3"]) ∧
      ¬ ContentLengthHonoured utf8Lossy .default conflictingLengths.bytes := by
  have read : readBytes utf8Lossy .default [conflictingLengths] =
      .ok ⟨textChars "POST / HTTP/1.1\r\nContent-Length: 5\r\nContent-Length: 3\r\n\r\n",
        textBytes "ab"⟩ := by
    decide +kernel
  have fields : lengthFields
      (textChars "POST / HTTP/1.1\r\nContent-Length: 5\r\nContent-Length: 3\r\n\r\n") =
        [textChars "5", textChars "3"] := by
    decide +kernel
  refine ⟨⟨_, read, fields⟩, not_honoured_of_undeclared ⟨by decide +kernel, by decide +kernel⟩ read ?_⟩
  intro length declares
  rw [fields] at declares
  cases declares with
  | inl empty => cases empty.1
  | inr spelled =>
    have five := spelled.2 (textChars "5") (by simp)
    have three := spelled.2 (textChars "3") (by simp)
    exact absurd (five.trans three.symm) (by decide +kernel)

end Mcps.Http
