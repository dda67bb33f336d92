import Mcps.Core.Reference
import Mcps.Lib.Framing
import Mcps.Proxy.XfccIdentity

/-!
# Soundness of ingress assertions

An accepted assertion was signed, field by field, by the key that was added last under its key
id; it is bound to the digest of the request in hand, and its time is within the window.

The header is trimmed before it is read, so whitespace around the five fields does not matter.
The asserted identity is trimmed for the check of its shape only and is returned as it was
signed: control characters that count as whitespace pass at its ends.
-/

namespace Mcps

open List Option Except Assoc

/-! ## The preimage -/

theorem length_toBeBytes (n : Int) : (toBeBytes n).length = 8 := rfl

theorem toNat_toBeBytes (n : Int) :
    (toBeBytes n).map UInt8.toNat = [7, 6, 5, 4, 3, 2, 1, 0].map fun place =>
      (n % 2 ^ 64).toNat / 256 ^ place % 256 := by
  simp [toBeBytes]

theorem emod_eq_of_toBeBytes {left right : Int} (same : toBeBytes left = toBeBytes right) :
    left % 2 ^ 64 = right % 2 ^ 64 := by
  have small : ∀ n : Int, (n % 2 ^ 64).toNat < 256 ^ 8 := by
    intro n
    omega
  have digits : ∀ place ∈ [7, 6, 5, 4, 3, 2, 1, 0],
      (left % 2 ^ 64).toNat / 256 ^ place % 256 = (right % 2 ^ 64).toNat / 256 ^ place % 256 := by
    rw [← map_inj_left, ← toNat_toBeBytes, ← toNat_toBeBytes, same]
  have equal : (left % 2 ^ 64).toNat = (right % 2 ^ 64).toNat := by
    apply Framing.eq_of_digits_eq 8 (small left) (small right)
    intro place below
    exact digits place (by interval_cases place <;> decide)
  omega

/-- A text whose length is a `u64`. -/
def FitsU64 (text : String) : Prop := (textBytes text).length < 2 ^ 64

theorem field_append_inj {left right : String} {leftRest rightRest : Bytes}
    (leftFits : FitsU64 left) (rightFits : FitsU64 right)
    (same : toBeBytes (textBytes left).length ++ textBytes left ++ leftRest =
      toBeBytes (textBytes right).length ++ textBytes right ++ rightRest) :
    left = right ∧ leftRest = rightRest := by
  have apart : toBeBytes (textBytes left).length = toBeBytes (textBytes right).length →
      (textBytes left).length = (textBytes right).length := by
    intro headers
    have equal := emod_eq_of_toBeBytes headers
    unfold FitsU64 at leftFits rightFits
    omega
  obtain ⟨fields, rests⟩ := Framing.fixed_append_inj
    (fun length => length_toBeBytes (length : Int)) apart same
  exact ⟨textBytes_injective fields, rests⟩

/-- The fields of an assertion are in the ranges of their types. -/
structure LbAssertion.InRange (assertion : LbAssertion) : Prop where
  keyId : FitsU64 assertion.keyId
  identity : FitsU64 assertion.assertedClientIdentity
  requestHash : FitsU64 assertion.requestHash
  time : i64Min ≤ assertion.validationTime ∧ assertion.validationTime ≤ i64Max

/-- The load balancer signs the same bytes for no two assertions. -/
theorem signingPreimage_injective (left right : LbAssertion) (leftRange : left.InRange)
    (rightRange : right.InRange) (same : left.signingPreimage = right.signingPreimage) :
    left = right := by
  simp only [LbAssertion.signingPreimage, List.flatMap_cons, List.flatMap_nil, List.append_nil,
    List.append_assoc, List.append_cancel_left_eq] at same
  simp only [← List.append_assoc (toBeBytes _) (textBytes _)] at same
  obtain ⟨keyIds, same⟩ := field_append_inj leftRange.keyId rightRange.keyId same
  obtain ⟨identities, same⟩ := field_append_inj leftRange.identity rightRange.identity same
  obtain ⟨hashes, same⟩ := field_append_inj leftRange.requestHash rightRange.requestHash same
  have times : left.validationTime = right.validationTime := by
    have equal := emod_eq_of_toBeBytes same
    have leftTime := leftRange.time
    have rightTime := rightRange.time
    unfold i64Min i64Max at leftTime rightTime
    omega
  cases left
  cases right
  simp_all

/-- The preimage of an assertion whose fields are written in two ways. -/
theorem signingPreimage_injective_client :
    (⟨"lb-1", "client", "", -1⟩ : LbAssertion).InRange ∧
      (⟨"lb-1", "client", "", -1⟩ : LbAssertion).signingPreimage =
        (⟨"lb" ++ "-1", "cli" ++ "ent", "", 0 - 1⟩ : LbAssertion).signingPreimage ∧
      (⟨"lb-1", "client", "", -1⟩ : LbAssertion) = ⟨"lb" ++ "-1", "cli" ++ "ent", "", 0 - 1⟩ := by
  have inRange : (⟨"lb-1", "client", "", -1⟩ : LbAssertion).InRange := by
    constructor
    all_goals first | (unfold FitsU64; decide +kernel) | decide
  have same : (⟨"lb-1", "client", "", -1⟩ : LbAssertion).signingPreimage =
      (⟨"lb" ++ "-1", "cli" ++ "ent", "", 0 - 1⟩ : LbAssertion).signingPreimage := by
    decide +kernel
  exact ⟨inRange, same, signingPreimage_injective _ _ inRange inRange same⟩

/-! ## Margins -/

/-- The whitespace around a text. -/
def margins (text : List Char) : List Char :=
  text.takeWhile isWhitespace ++ (text.dropWhile isWhitespace).rtakeWhile isWhitespace

theorem mem_iff_margins {text : List Char} {c : Char} :
    c ∈ text ↔ c ∈ trim text ∨ c ∈ margins text := by
  nth_rewrite 1 [← takeWhile_append_trim text]
  simp only [margins, mem_append]
  tauto

/-! ## Trusted keys -/

namespace LbAssertionBinding

/-- A binding after a sequence of additions. -/
def addKeys (binding : LbAssertionBinding) (calls : List (String × VerificationKey)) :
    LbAssertionBinding :=
  calls.foldl (fun binding call => binding.addKey call.1 call.2) binding

variable (binding : LbAssertionBinding)

theorem find?_addKey (keyId : String) (key : VerificationKey) (wanted : String) :
    find? wanted (binding.addKey keyId key).keys =
      if keyId = wanted then some key else find? wanted binding.keys := by
  rw [addKey, Assoc.find?_append]
  by_cases same : keyId = wanted
  · simp [same]
  · rw [if_neg same, find?_erase_ne (Ne.symm same), find?_cons_ne same, Assoc.find?_nil, or_none]

variable (calls : List (String × VerificationKey))

theorem find?_addKeys (wanted : String) :
    find? wanted (binding.addKeys calls).keys =
      (find? wanted calls.reverse).or (find? wanted binding.keys) := by
  induction calls generalizing binding with
  | nil => rfl
  | cons call calls ih =>
    obtain ⟨keyId, _⟩ := call
    rw [addKeys, foldl_cons, ← addKeys, ih, find?_addKey, reverse_cons,
      Assoc.find?_append, Option.or_assoc]
    by_cases same : keyId = wanted
    · simp [same]
    · rw [if_neg same, find?_cons_ne same, Assoc.find?_nil, none_or]

theorem maxAgeSecs_addKeys : (binding.addKeys calls).maxAgeSecs = binding.maxAgeSecs := by
  induction calls generalizing binding with
  | nil => rfl
  | cons call calls ih => exact ih _

theorem abs_age_le {now time maxAge : Int} (forward : 0 ≤ maxAge) (finite : maxAge < i64Max)
    (young : saturatingSub now time ≤ maxAge) (past : wrappingNeg maxAge ≤ saturatingSub now time) :
    |now - time| ≤ maxAge := by
  have negated : wrappingNeg maxAge = -maxAge := if_neg (by omega)
  simp only [saturatingSub, clampI64, i64Min, i64Max] at young past finite
  rw [abs_le]
  omega

end LbAssertionBinding

section

variable [Crates]

/-! ## Reading an assertion -/

theorem decodeB64urlField_eq_ok {field : List Char} {text : String} :
    decodeB64urlField field = .ok text ↔
      Crates.b64urlDecode (String.ofList field) = some (textBytes text) := by
  constructor
  · intro decoded
    obtain ⟨_, read, decoded⟩ := bind_eq_ok.mp decoded
    obtain ⟨_, utf8, made⟩ := bind_eq_ok.mp decoded
    cases made
    rw [okOr_eq_ok.mp read, textBytes_eq, String.toList_ofList,
      encodeUtf8_of_decodeUtf8 (okOr_eq_ok.mp utf8)]
  · intro read
    have utf8 : decodeUtf8 (textBytes text) = some text.toList := by
      rw [textBytes_eq, decodeUtf8_encodeUtf8]
    simp [decodeB64urlField, read, utf8]

theorem parseHashId_length {text : String} {digest : Bytes} (parsed : parseHashId text = .ok digest) :
    digest.length = 32 := by
  obtain ⟨_, parsed⟩ := guard_eq_ok.mp parsed
  obtain ⟨_, _, parsed⟩ := bind_eq_ok.mp parsed
  obtain ⟨length, made⟩ := guard_eq_ok.mp parsed
  cases made
  exact not_not.mp length

/-- Five base64url fields between dots that decode to an assertion and its signature. -/
def Presents (text : List Char) (assertion : LbAssertion) (signature : String) : Prop :=
  ∃ keyId identity requestHash time signed,
    text.splitOn '.' = [keyId, identity, requestHash, time, signed] ∧
      Crates.b64urlDecode (String.ofList keyId) = some (textBytes assertion.keyId) ∧
      Crates.b64urlDecode (String.ofList identity) =
        some (textBytes assertion.assertedClientIdentity) ∧
      Crates.b64urlDecode (String.ofList requestHash) = some (textBytes assertion.requestHash) ∧
      (∃ bytes, Crates.b64urlDecode (String.ofList time) = some bytes ∧
        i64FromBeBytes bytes = some assertion.validationTime) ∧
      String.ofList signed = signature

namespace LbAssertionBinding

/-- What a parsed header says. -/
structure Parsed (value : String) (assertion : LbAssertion) (signature : String) : Prop where
  bounded : (encodeUtf8 (trim (textChars value))).length ≤ maxAssertedIdentityLen
  presents : Presents (trim (textChars value)) assertion signature
  wellFormed : WellFormedIdentity (trim (textChars assertion.assertedClientIdentity))

variable {value : String} {assertion : LbAssertion}

theorem parsed_of_parse {signature : String} (parsed : parse value = .ok (assertion, signature)) :
    Parsed value assertion signature := by
  obtain ⟨shape, parsed⟩ := guard_eq_ok.mp parsed
  have bounded : (encodeUtf8 (trim (textChars value))).length ≤ maxAssertedIdentityLen := by
    simp only [Bool.or_eq_true, decide_eq_true_eq] at shape
    omega
  split at parsed
  · rename_i keyId identity requestHash time signed fields
    simp only [throw_eq_error, bind_error, bind_eq_ok, guard_eq_ok, okOr_eq_ok,
      decodeB64urlField_eq_ok] at parsed
    obtain ⟨_, keyIdRead, _, identityRead, _, hashRead, timeBytes, timeRead, _, timeMade, _, valid,
      _, ⟨⟩⟩ := parsed
    refine ⟨bounded, ⟨keyId, identity, requestHash, time, signed, fields, keyIdRead, identityRead,
      hashRead, ⟨timeBytes, timeRead, timeMade⟩, rfl⟩, ?_⟩
    obtain ⟨_, validated⟩ := ne_none_iff_exists'.mp (by simpa using valid)
    rcases validateAssertedIdentityValue_eq_ok.mp (toOption_eq_some.mp validated) with
      ⟨rfl, wellFormed⟩
    exact wellFormed
  · cases parsed

/-- What an accepted assertion has passed. -/
structure Accepted (binding : LbAssertionBinding) (value inHand : String) (now : Int)
    (assertion : LbAssertion) (signature : String) : Prop where
  parsed : parse value = .ok (assertion, signature)
  signed : ∃ key bytes, Assoc.find? assertion.keyId binding.keys = some key ∧
    Crates.b64urlDecode signature = some bytes ∧
      Crates.verifyStrict key.inner assertion.signingPreimage bytes = true
  bound : ∃ digest, parseHashId assertion.requestHash = .ok digest ∧ parseHashId inHand = .ok digest
  fresh : saturatingSub now assertion.validationTime ≤ binding.maxAgeSecs ∧
    wrappingNeg binding.maxAgeSecs ≤ saturatingSub now assertion.validationTime

theorem accepted_of_verify {binding : LbAssertionBinding} {inHand : String} {now : Int}
    {identity : TransportIdentity} (verified : binding.verify value inHand now = .ok identity) :
    ∃ assertion signature, Accepted binding value inHand now assertion signature ∧
      identity = ⟨assertion.assertedClientIdentity, binding.source⟩ := by
  simp only [LbAssertionBinding.verify, throw_eq_error, bind_error, bind_eq_ok, guard_eq_ok,
    okOr_eq_ok, mapError_eq_ok, not_not, Bool.or_eq_true, decide_eq_true_eq, not_or, not_lt,
    Prod.exists] at verified
  obtain ⟨assertion, signature, parsed, key, found, _, signed, digest, bound, _, inHand, rfl, fresh,
    ⟨⟩⟩ := verified
  obtain ⟨bytes, decoded, _, verifies⟩ := verifyEd25519With_eq_ok.mp signed
  exact ⟨assertion, signature, ⟨parsed, ⟨key, bytes, found, decoded, verifies⟩,
    ⟨digest, bound, inHand⟩, fresh⟩, rfl⟩

/-! ## Soundness -/

/-- The header presents an assertion of this identity, signed by the key that was added last
under its key id, for the digest of the request in hand, and not older than the window. -/
def Vouched (calls : List (String × VerificationKey)) (maxAge : Int) (text : List Char)
    (inHand : String) (now : Int) (identity : String) : Prop :=
  ∃ assertion signature key bytes digest,
    Presents text assertion signature ∧ assertion.assertedClientIdentity = identity ∧
      Assoc.find? assertion.keyId calls.reverse = some key ∧
      Crates.b64urlDecode signature = some bytes ∧
      Crates.verifyStrict key.inner assertion.signingPreimage bytes = true ∧
      parseHashId assertion.requestHash = .ok digest ∧ parseHashId inHand = .ok digest ∧
      digest.length = 32 ∧ |now - assertion.validationTime| ≤ maxAge

/-- An accepted header vouches for the identity once it is trimmed. -/
theorem vouched_of_verify (source : IdentitySource) (calls : List (String × VerificationKey))
    (maxAge : Int) (value inHand : String) (now : Int) (identity : TransportIdentity)
    (forward : 0 ≤ maxAge) (finite : maxAge < i64Max)
    (verified : (((new source).withMaxAgeSecs maxAge).addKeys calls).verify value inHand now =
      .ok identity) :
    Vouched calls maxAge (trim (textChars value)) inHand now identity.value := by
  rcases accepted_of_verify verified with ⟨assertion, signature, accepted, rfl⟩
  rcases accepted.signed with ⟨key, bytes, found, decoded, verifies⟩
  rcases accepted.bound with ⟨digest, bound, held⟩
  rw [find?_addKeys] at found
  have fresh := accepted.fresh
  rw [maxAgeSecs_addKeys, withMaxAgeSecs] at fresh
  refine ⟨assertion, signature, key, bytes, digest, (parsed_of_parse accepted.parsed).presents, rfl,
    ?_, decoded, verifies, bound, held, parseHashId_length bound,
    abs_age_le forward finite fresh.1 fresh.2⟩
  simpa [new, withMaxAgeSecs] using found

/-! ## The shape of the identity -/

theorem length_identity_le
    (shrinks : ∀ text bytes, Crates.b64urlDecode text = some bytes →
      bytes.length ≤ (textBytes text).length) {signature : String}
    (parsed : Parsed value assertion signature) :
    (encodeUtf8 (textChars assertion.assertedClientIdentity)).length ≤ maxAssertedIdentityLen := by
  rcases parsed.presents with
    ⟨keyId, identity, requestHash, time, signed, fields, _, decoded, _⟩
  have joined : intercalate ['.'] [keyId, identity, requestHash, time, signed] =
      trim (textChars value) := by
    rw [← fields, intercalate_splitOn]
  have shorter := shrinks _ _ decoded
  have bounded := parsed.bounded
  rw [← joined] at bounded
  rw [textBytes_eq, textBytes_eq, String.toList_ofList] at shorter
  simp only [intercalate_cons_cons, encodeUtf8_append, length_append] at bounded
  rw [textChars_eq]
  omega

/-- The whitespace around the asserted identity holds no control character, unless the
assertion is rejected. -/
def CleanMargins (binding : LbAssertionBinding) (value inHand : String) (now : Int) : Prop :=
  ∀ assertion signature, parse value = .ok (assertion, signature) →
    (∃ rejection, binding.verify value inHand now = .error rejection) ∨
      ∀ c ∈ margins (textChars assertion.assertedClientIdentity), isControl c = false

/-- Every identity that is returned is well formed exactly if the margins of an accepted
assertion's identity are clean. -/
theorem wellFormed_identities_iff
    (shrinks : ∀ text bytes, Crates.b64urlDecode text = some bytes →
      bytes.length ≤ (textBytes text).length)
    (provider : ReverseProxyMtlsProvider) (request : RequestHeaders)
    (binding : LbAssertionBinding) (value inHand : String) (now : Int) :
    ((∀ identity, provider.verifiedIdentity request = some identity →
          WellFormedIdentity (textChars identity.value)) ∧
        ∀ identity, binding.verify value inHand now = .ok identity →
          WellFormedIdentity (textChars identity.value)) ↔
      CleanMargins binding value inHand now := by
  have forwarded : ∀ identity, provider.verifiedIdentity request = some identity →
      WellFormedIdentity (textChars identity.value) :=
    fun identity => ReverseProxyMtlsProvider.wellFormed_verifiedIdentity
  rw [and_iff_right forwarded]
  constructor
  · intro wellFormed assertion signature parsed
    cases verified : binding.verify value inHand now with
    | error rejection => exact .inl ⟨rejection, rfl⟩
    | ok identity =>
      right
      rcases accepted_of_verify verified with ⟨held, _, accepted, rfl⟩
      cases accepted.parsed.symm.trans parsed
      intro c member
      exact (wellFormed _ verified).clean c (mem_iff_margins.mpr (.inr member))
  · intro clean identity verified
    rcases accepted_of_verify verified with ⟨assertion, signature, accepted, rfl⟩
    have parsed := parsed_of_parse accepted.parsed
    rcases clean assertion signature accepted.parsed with ⟨rejection, rejected⟩ | clean
    · cases verified.symm.trans rejected
    · refine ⟨?_, length_identity_le shrinks parsed, ?_⟩
      · intro empty
        have nonempty := parsed.wellFormed.nonempty
        rw [empty] at nonempty
        exact nonempty rfl
      · intro c member
        rcases mem_iff_margins.mp member with inside | around
        · exact parsed.wellFormed.clean c inside
        · exact clean c around

end LbAssertionBinding

end

/-! ## A load balancer -/

def lbKey : VerificationKey :=
  ⟨(b64urlDecodeText "GX9rI-FshTLGq8g4-s1ep4m-DHaykgM0A5v6iz02jWE").getD []⟩

/-- The hash of the request in hand. -/
def lbRequestHash : String := "sha256:AAECAwQFBgcICQoLDA0ODxAREhMUFRYXGBkaGxwdHh8"

def lbAssertion (identity : String) : LbAssertion := ⟨"lb-1", identity, lbRequestHash, 1700000000⟩

def agentSignature : String :=
  "6xEZnQNfE425Y3WoZiNK1W9D0f8406kAFAwwXOpe3705DJ1KYs3jjhRJ9dObS1iHe1jA_s-ysr1SFm8tloypDw"

def tabbedSignature : String :=
  "XFvtQZt0M2dqMh9QpN-QioLVl2HFP1u6zUFfja2tivTp8RdtwCJGSok71sat-AD5-rooZmsZjRs_WtdjwlrcBA"

/-- The key's signatures over two assertions. -/
@[reducible] def lbCrates : Crates :=
  let key := "GX9rI-FshTLGq8g4-s1ep4m-DHaykgM0A5v6iz02jWE"
  referenceCrates "" [⟨key, (lbAssertion "agent-1").signingPreimage, agentSignature⟩,
    ⟨key, (lbAssertion "\tagent-1").signingPreimage, tabbedSignature⟩] []

/-- The header of an assertion: its fields as base64url, and the signature. -/
def lbHeader (identity signature : String) : String :=
  String.ofList (List.intercalate ['.'] (([textBytes "lb-1", textBytes identity,
    textBytes lbRequestHash, toBeBytes 1700000000].map fun bytes =>
      textChars (b64urlEncodeBytes bytes)) ++ [textChars signature]))

/-- The key that an earlier one was replaced by. -/
def lbCalls : List (String × VerificationKey) := [("lb-1", ⟨[]⟩), ("lb-1", lbKey)]

def lbBinding : LbAssertionBinding :=
  ((LbAssertionBinding.new .uriSan).withMaxAgeSecs 30).addKeys lbCalls

theorem verify_agent :
    letI := lbCrates
    lbBinding.verify (lbHeader "agent-1" agentSignature) lbRequestHash 1700000010 =
      .ok ⟨"agent-1", .uriSan⟩ := by
  decide +kernel

theorem vouched_agent :
    letI := lbCrates
    lbBinding.verify (lbHeader "agent-1" agentSignature) lbRequestHash 1700000010 =
        .ok ⟨"agent-1", .uriSan⟩ ∧
      LbAssertionBinding.Vouched lbCalls 30
        (trim (textChars (lbHeader "agent-1" agentSignature))) lbRequestHash 1700000010 "agent-1" := by
  let crates := lbCrates
  exact ⟨verify_agent, LbAssertionBinding.vouched_of_verify .uriSan lbCalls 30 _ lbRequestHash
    1700000010 ⟨"agent-1", .uriSan⟩ (by decide) (by decide) verify_agent⟩

/-- A header with a space in front is accepted, but its first field is no base64url. -/
theorem verify_spaced :
    letI := lbCrates
    let header := " " ++ lbHeader "agent-1" agentSignature
    lbBinding.verify header lbRequestHash 1700000010 = .ok ⟨"agent-1", .uriSan⟩ ∧
      ∀ assertion signature, ¬ Presents (textChars header) assertion signature := by
  let crates := lbCrates
  intro header
  refine ⟨by decide +kernel, ?_⟩
  rintro assertion signature ⟨keyId, identity, requestHash, time, signed, fields, first, _⟩
  have spaced : ((textChars header).splitOn '.').head?.map
      (fun field => b64urlDecodeText (String.ofList field)) = some none := by decide +kernel
  rw [fields] at spaced
  have unread : b64urlDecodeText (String.ofList keyId) = none := Option.some.inj spaced
  exact absurd (unread.symm.trans first) nofun

theorem length_b64DecodeDigits {digits bytes : List Nat}
    (decoded : b64DecodeDigits digits = some bytes) : bytes.length ≤ digits.length := by
  fun_induction b64DecodeDigits digits generalizing bytes with
  | case1 a b c d rest ih =>
    obtain ⟨_, read, made⟩ := bind_eq_some_iff.mp decoded
    cases made
    have shorter := ih read
    simp only [cons_append, nil_append, length_cons]
    omega
  | case2 a b c zero =>
    cases decoded
    simp
  | case4 a b zero =>
    cases decoded
    simp
  | case7 =>
    cases decoded
    simp
  | _ => cases decoded

theorem length_b64urlDecodeText {text : String} {bytes : Bytes}
    (decoded : b64urlDecodeText text = some bytes) : bytes.length ≤ (textBytes text).length := by
  obtain ⟨_, read, decoded⟩ := bind_eq_some_iff.mp decoded
  obtain ⟨_, converted, made⟩ := bind_eq_some_iff.mp decoded
  cases made
  have digitCount := (mapM_eq_some.mp read).length_eq.symm
  have fewer := length_b64DecodeDigits converted
  have longer := length_le_encodeUtf8 text.toList
  rw [textBytes_eq, length_map]
  rw [textChars_eq] at digitCount
  omega

/-- A clean identity is returned as it was signed. -/
theorem wellFormed_identities_agent :
    letI := lbCrates
    lbBinding.verify (lbHeader "agent-1" agentSignature) lbRequestHash 1700000010 =
        .ok ⟨"agent-1", .uriSan⟩ ∧
      ∀ identity,
        lbBinding.verify (lbHeader "agent-1" agentSignature) lbRequestHash 1700000010 =
            .ok identity →
          WellFormedIdentity (textChars identity.value) := by
  let crates := lbCrates
  refine ⟨verify_agent, ?_⟩
  refine ((LbAssertionBinding.wellFormed_identities_iff (fun _ _ => length_b64urlDecodeText)
    ⟨"x-client-identity", .plain, .uriSan⟩ ⟨[]⟩ lbBinding (lbHeader "agent-1" agentSignature)
    lbRequestHash 1700000010).mpr ?_).2
  intro assertion signature parsed
  have read : LbAssertionBinding.parse (lbHeader "agent-1" agentSignature) =
      .ok (lbAssertion "agent-1", agentSignature) := by decide +kernel
  cases read.symm.trans parsed
  exact .inr (by decide +kernel)

/-- An identity with a tab in front is accepted and returned with it. -/
theorem verify_tabbed :
    letI := lbCrates
    lbBinding.verify (lbHeader "\tagent-1" tabbedSignature) lbRequestHash 1700000010 =
        .ok ⟨"\tagent-1", .uriSan⟩ ∧
      ¬ WellFormedIdentity (textChars "\tagent-1") := by
  let crates := lbCrates
  refine ⟨by decide +kernel, ?_⟩
  intro wellFormed
  exact absurd (wellFormed.clean '\t' (by decide +kernel)) (by decide)

end Mcps
