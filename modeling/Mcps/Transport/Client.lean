import Mcps.Proxy.RequestLimits

/-!
# The mTLS client's framing

The client writes one POST per connection and takes the body of what comes back.  Its two
halves meet the proxy's: the proxy reads what the client frames, and the client finds the
body of what the proxy writes, whatever bytes the bodies hold.
-/

namespace Mcps.Transport

open MessageFrame Http List
open Proxy.PersistentInner (Utf8Lossy)

/-! ## The source's functions -/

def isDnsChar (c : Char) : Bool := c.isAlphanum || c = '-' || c = '_' || c = '.'

def isAddressChar (c : Char) : Bool := c.isAlphanum || c = ':' || c = '.'

/-- The expected name of a server, as `ServerName` holds it: a DNS name, or an address, here
by the text it is displayed with. -/
inductive ServerName where
  | dnsName (name : { text : List Char // ∀ c ∈ text, isDnsChar c = true })
  | ipAddress (display : { text : List Char // ∀ c ∈ text, isAddressChar c = true })
  | other

def serverNameHost : ServerName → List Char
  | .dnsName name => name.val
  | .ipAddress display => display.val
  | .other => textChars "localhost"

/-- The header block of a request. -/
def requestHeader (name : ServerName) (body : Bytes) : List Char :=
  textChars "POST / HTTP/1.1\r\nHost: " ++ serverNameHost name ++
    textChars "\r\nContent-Length: " ++ Nat.toDigits 10 body.length ++
    textChars "\r\nConnection: close\r\n\r\n"

/-- What is written for a request. -/
def requestBytes (name : ServerName) (body : Bytes) : Bytes :=
  encodeUtf8 (requestHeader name body) ++ body

def extractBody (response : Bytes) : Bytes :=
  response.drop (((position blankLine response).map (· + blankLine.length)).getD 0)

/-! ## The lines of the two header blocks -/

/-- The line is not empty, and holds no control character and no blank in front. -/
def plainLine (line : List Char) : Bool :=
  line ≠ [] && line.all (' ' ≤ ·) && line.head? ≠ some ' '

theorem cleanText_field {name value : List Char} (plainName : plainLine name = true)
    (plainValue : ∀ c ∈ value, ' ' ≤ c) : CleanText (name ++ value) := by
  simp only [plainLine, Bool.and_eq_true, decide_eq_true_eq, all_eq_true] at plainName
  obtain ⟨⟨nonempty, plain⟩, unfolded⟩ := plainName
  have every : ∀ c ∈ name ++ value, ' ' ≤ c := by
    intro c member
    exact (mem_append.mp member).elim (plain c) (plainValue c)
  constructor
  · simp [nonempty]
  · exact ⟨fun member => absurd (every _ member) (by decide),
      fun member => absurd (every _ member) (by decide)⟩
  · intro c head
    rw [head?_append_of_ne_nil name nonempty] at head
    constructor
    · rintro rfl
      exact unfolded head
    · rintro rfl
      exact absurd (plain _ (mem_of_head? head)) (by decide)

theorem cleanText_of_plainLine {line : List Char} (plain : plainLine line = true) :
    CleanText line := by
  simpa using @cleanText_field line [] plain nofun

def requestLines (name : ServerName) (body : Bytes) : List (List Char) :=
  [textChars "POST / HTTP/1.1", textChars "Host: " ++ serverNameHost name,
    textChars "Content-Length: " ++ Nat.toDigits 10 body.length, textChars "Connection: close"]

def responseLines (body : Bytes) : List (List Char) :=
  [textChars "HTTP/1.1 200 OK", textChars "Content-Type: application/json",
    textChars "Content-Length: " ++ Nat.toDigits 10 body.length, textChars "Connection: close"]

variable (name : ServerName) (body : Bytes)

theorem requestHeader_eq : requestHeader name body = headerText (requestLines name body) := by
  simp [requestHeader, requestLines, headerText]

theorem writeHttpResponse_eq :
    writeHttpResponse body = encodeUtf8 (headerText (responseLines body)) ++ body := by
  simp [writeHttpResponse, textBytes_eq, responseLines, headerText]

theorem plain_of_isAlphanum {c : Char} (alphanumeric : c.isAlphanum = true) : ' ' ≤ c := by
  have least : ' '.toNat ≤ c.toNat := le_trans (by decide) (toNat_of_isAlphanum alphanumeric).1
  exact least

theorem plain_serverNameHost : ∀ c ∈ serverNameHost name, ' ' ≤ c := by
  cases name with
  | dnsName name =>
    intro c member
    have allowed := name.property c member
    simp only [isDnsChar, Bool.or_eq_true, decide_eq_true_eq, or_assoc] at allowed
    rcases allowed with alphanumeric | rfl | rfl | rfl
    · exact plain_of_isAlphanum alphanumeric
    all_goals decide
  | ipAddress display =>
    intro c member
    have allowed := display.property c member
    simp only [isAddressChar, Bool.or_eq_true, decide_eq_true_eq, or_assoc] at allowed
    rcases allowed with alphanumeric | rfl | rfl
    · exact plain_of_isAlphanum alphanumeric
    all_goals decide
  | other => exact (by decide +kernel)

theorem plain_toDigits (n : Nat) : ∀ c ∈ Nat.toDigits 10 n, ' ' ≤ c := by
  intro c member
  have digit := Numeral.isDigit_of_mem_toDigits member
  exact plain_of_isAlphanum (by simp [Char.isAlphanum, digit])

theorem cleanText_requestLines : ∀ line ∈ requestLines name body, CleanText line := by
  simp only [requestLines, forall_mem_cons]
  refine ⟨?_, ?_, ?_, ?_, nofun⟩
  · exact cleanText_of_plainLine (by decide +kernel)
  · exact cleanText_field (by decide +kernel) (plain_serverNameHost name)
  · exact cleanText_field (by decide +kernel) (plain_toDigits _)
  · exact cleanText_of_plainLine (by decide +kernel)

theorem cleanText_responseLines : ∀ line ∈ responseLines body, CleanText line := by
  simp only [responseLines, forall_mem_cons]
  refine ⟨?_, ?_, ?_, ?_, nofun⟩
  · exact cleanText_of_plainLine (by decide +kernel)
  · exact cleanText_of_plainLine (by decide +kernel)
  · exact cleanText_field (by decide +kernel) (plain_toDigits _)
  · exact cleanText_of_plainLine (by decide +kernel)

/-! ## What the proxy reads and the client finds -/

theorem parseUsize_field {n : Nat} (fits : n < 2 ^ 64) :
    parseUsize (trim (' ' :: Nat.toDigits 10 n)) = some n := by
  have solid {c : Char} (member : c ∈ Nat.toDigits 10 n) : isWhitespace c = false :=
    isWhitespace_of_isAlphanum (by simp [Char.isAlphanum, Numeral.isDigit_of_mem_toDigits member])
  have bare : Bare (Nat.toDigits 10 n) :=
    ⟨fun c head => solid (mem_of_head? head), fun c last => solid (mem_of_getLast? last)⟩
  have trimmed := @trim_append [' '] _ [] bare (by decide) (forall_mem_nil _)
  rw [append_nil, singleton_append] at trimmed
  rw [trimmed]
  exact Numeral.parseUnsigned_toDigits fits

theorem contentLengthOf_requestLines {body : Bytes} (fits : body.length < 2 ^ 64) :
    contentLengthOf (requestLines name body ++ [[]]) = some body.length := by
  have post : splitOnce ':' (textChars "POST / HTTP/1.1") = none := by decide +kernel
  have host : splitOnce ':' (textChars "Host: " ++ serverNameHost name) =
      some (textChars "Host", ' ' :: serverNameHost name) := by
    simpa using @splitOnce_append ':' (textChars "Host") (by decide +kernel)
      (' ' :: serverNameHost name)
  have length : splitOnce ':' (textChars "Content-Length: " ++ Nat.toDigits 10 body.length) =
      some (textChars "Content-Length", ' ' :: Nat.toDigits 10 body.length) := by
    simpa using @splitOnce_append ':' (textChars "Content-Length") (by decide +kernel)
      (' ' :: Nat.toDigits 10 body.length)
  have other : toAsciiLowercase (trim (textChars "Host")) ≠ textChars "content-length" := by
    decide +kernel
  have same : toAsciiLowercase (trim (textChars "Content-Length")) =
      textChars "content-length" := by decide +kernel
  simp only [requestLines, cons_append, contentLengthOf, post, host, length, other, same,
    if_true, if_false, parseUsize_field fits]

theorem extractBody_framed {texts : List (List Char)} (some : texts ≠ [])
    (clean : ∀ text ∈ texts, CleanText text) (body : Bytes) :
    extractBody (encodeUtf8 (headerText texts) ++ body) = body := by
  have cleanLines := cleanLine_of_mem_map clean
  obtain ⟨_, found, ends⟩ := position_header (by simpa using some) cleanLines body
  rw [encodeUtf8_headerText, extractBody, found, Option.map_some, Option.getD_some, ends, drop_left]

variable {limits : ServerLimits}

theorem readHttpRequest_requestBytes (lossy : Utf8Lossy) {name : ServerName} {body : Bytes}
    {chunks : List Chunk} (fits : body.length ≤ limits.maxBodyBytes.toNat)
    (small : (encodeUtf8 (requestHeader name body)).length ≤ limits.maxHeaderBytes.toNat)
    (filled : ∀ chunk ∈ chunks, chunk.bytes ≠ [])
    (split : delivered chunks = requestBytes name body) :
    readHttpRequest lossy limits (chunks.map .ok) = .ok ⟨requestHeader name body, body⟩ := by
  rw [requestBytes, requestHeader_eq] at split
  rw [requestHeader_eq] at small ⊢
  exact readHttpRequest_framed lossy (by simp [requestLines]) (cleanText_requestLines name body)
    small fits (contentLengthOf_requestLines name (fits.trans_lt limits.maxBodyBytes.toNat_lt)) filled split

theorem extractBody_writeHttpResponse : extractBody (writeHttpResponse body) = body := by
  rw [writeHttpResponse_eq]
  exact extractBody_framed (by simp [responseLines]) (cleanText_responseLines body) body

/-- The two codecs are inverse: the proxy reads the body that the client framed, however the
bytes are cut into reads, and the client finds the body that the proxy wrote. -/
theorem framing_roundTrip (lossy : Utf8Lossy) (limits : ServerLimits) (name : ServerName)
    (body : Bytes) (chunks : List Chunk) (fits : body.length ≤ limits.maxBodyBytes.toNat)
    (small : (encodeUtf8 (requestHeader name body)).length ≤ limits.maxHeaderBytes.toNat)
    (filled : ∀ chunk ∈ chunks, chunk.bytes ≠ [])
    (split : delivered chunks = requestBytes name body) :
    (∃ request, readHttpRequest lossy limits (chunks.map .ok) = .ok request ∧
        request.body = body) ∧
      ∀ response, extractBody (writeHttpResponse response) = response :=
  ⟨⟨_, readHttpRequest_requestBytes lossy fits small filled split, rfl⟩,
    extractBody_writeHttpResponse⟩

def exampleName : ServerName := .dnsName ⟨textChars "proxy.example", by decide +kernel⟩

/-- A body with a blank line of its own. -/
def blankBody : Bytes := textBytes "a\r\n\r\nb"

/-- A request in two reads, cut inside the blank line behind its headers. -/
def cutChunks : List Chunk :=
  [⟨(requestBytes exampleName blankBody).take 77, by decide +kernel⟩,
    ⟨(requestBytes exampleName blankBody).drop 77, by decide +kernel⟩]

/-- The request that is cut inside the blank line is read. -/
theorem framing_roundTrip_cut :
    delivered cutChunks = requestBytes exampleName blankBody ∧
      (∃ request, readHttpRequest Proxy.PersistentInner.utf8Lossy .default
          (cutChunks.map .ok) = .ok request ∧ request.body = blankBody) ∧
      ∀ response, extractBody (writeHttpResponse response) = response := by
  have whole : delivered cutChunks = requestBytes exampleName blankBody := by decide +kernel
  exact ⟨whole, framing_roundTrip Proxy.PersistentInner.utf8Lossy .default exampleName blankBody
    cutChunks (by decide +kernel) (by decide +kernel) (by decide +kernel) whole⟩

end Mcps.Transport
