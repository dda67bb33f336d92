import Mcps.Proxy.SignedResponse

/-!
# What a hostile inner server can do to the answer

The inner server's reply decides two things that the handler promises to be
independent of it.  A reply whose `result._meta` is neither null nor an object unwinds
the handler, and a reply whose signed part is not safe is answered with an unsigned
error.  On every other reply the handler returns, and its answer is signed.
-/

namespace Mcps.Proxy

open List Option Json Assoc

/-! ## A proxy to evaluate -/

/-- The response to the conformance vector, without its signature value. -/
def vectorResponse : Value :=
  .object [("id", .string "req-1"), ("jsonrpc", .string "2.0"), ("result", .object [
    ("_meta", .object [(responseMetaKey, .object [
      ("issued_at", .string "2026-05-28T20:01:00Z"),
      ("request_hash", .string vectorVerified.requestHash),
      ("server_signer", .string "did:example:server-1"),
      ("signature", .object [("alg", .string "Ed25519"), ("key_id", .string "server-key-1")])])]),
    ("content", .string "hello")])]

def serverKey : String := "gTl3Dqh9F19Wo1Rmw0x-zMuNipG07jeiXfYPW4_Js5Q"

def serverVerificationKey : VerificationKey := ⟨(b64urlDecodeText serverKey).getD []⟩

/-- The signatures of the conformance vector and of the response to it. -/
def exchangeSignatures : List KnownSignature :=
  [⟨vectorKey, bytesOf (vectorRequest []), vectorSignature⟩,
    ⟨serverKey, bytesOf vectorResponse,
      "czQGLtu_DG7QYRQjbyG01H_zhPR2tmdCq2HQAHjkF5Iv3PgHVOyl4lwAbXCCdNneQBSQPVEQDn3YSwjxLaWZCg"⟩]

/-- A reply with an integer that is one too large to be safe. -/
def unsafeReply : Bytes := textBytes "\x7b\"result\":\x7b\"total\":9007199254740992\x7d\x7d"

def unsafeMessage : MapValue :=
  ⟨.object [("result", .object [("total", .number (.posInt 9007199254740992 (by decide)))])], by
    decide⟩

@[reducible] def exchangeCrates : Crates :=
  referenceCrates "JHosIIT-pj5x4AJwqFH82HxDaBFxJV-XzeCGioieN1A" exchangeSignatures
    [(unsafeReply, unsafeMessage)]

/-- A proxy with a policy and an exact transport binding, in front of an inner server
that always sends one reply. -/
def replyingProxy (reply : Bytes) : Proxy where
  signer preimage := some
    (referenceSignature exchangeSignatures serverVerificationKey.inner preimage)
  serverSigner := "did:example:server-1"
  keyId := "server-key-1"
  resolver := vectorResolver
  config := vectorConfig
  versionPolicy := .draft01AndDraft02
  inner _ := reply
  policy := some fun _ _ _ _ => .allow
  transportBinding := some exactMatchBinding
  lbAssertion := none
  logSink := true

/-- The channel of the conformance vector's signer. -/
def vectorChannel : Option TransportIdentity := some ⟨"did:example:agent-1", .uriSan⟩

def freshReplay : RefCell InMemoryReplayCache := ⟨.new 300, false⟩

theorem replyingProxy_admits (reply : Bytes) :
    letI := exchangeCrates
    (replyingProxy reply).Admits freshReplay vectorBytes 1779998460 vectorChannel none
      vectorVerified := by
  let crates := exchangeCrates
  have facts : (verifyRequestDispatch vectorBytes vectorResolver (InMemoryReplayCache.new 300)
      vectorConfig 1779998460 .draft01AndDraft02).1 = .ok vectorVerified ∧
      (Crates.fromSlice vectorBytes).isSome = true := by
    decide +kernel
  obtain ⟨verifies, parsed⟩ := facts
  obtain ⟨message, read⟩ := isSome_iff_exists.mp parsed
  refine ⟨rfl, verifies, ?_, vectorChannel, rfl, ?_⟩
  · rintro evaluate ⟨⟩
    exact ⟨message, read, rfl⟩
  · rintro check ⟨⟩
    decide +kernel

/-! ## Returning -/

section

variable [Crates] {σ : Type} [ReplayCache σ]

/-- A reply whose result carries a `_meta` that cannot be indexed: a boolean, a number, a
string or an array. -/
def UnindexableMeta (reply : Bytes) : Prop :=
  ∃ (message : MapValue) (result metaValue : Value), Crates.fromSlice reply = some message ∧
    message.val.get "result" = some result ∧ result.get "_meta" = some metaValue ∧
    indexable metaValue = none

omit [Crates] in
theorem outcomeMeta_eq_none {inner : Value} :
    outcomeMeta inner = none ↔ ∃ result metaValue, inner.get "result" = some result ∧
      result.get "_meta" = some metaValue ∧ indexable metaValue = none := by
  unfold outcomeMeta outcomeMembers
  cases found : inner.get "result" with
  | none => simp [Assoc.find?, responseWrapInnerErrorKey, indexable]
  | some result =>
    cases result with
    | object members =>
      cases held : find? "_meta" members with
      | none => simp [held, indexable]
      | some metaValue => simp [held]
    | _ =>
      simp [Json.get, Assoc.find?, responseWrapValueKey, indexable]

theorem answer_eq_ok {id : Value} {result : Except Stop Bytes} :
    (∃ bytes, answer id result = .ok bytes) ↔ ∀ cause, result ≠ .error (.panic cause) := by
  cases result with
  | ok bytes => simp [answer]
  | error stop =>
    cases stop with
    | error _ | panic _ => simp [answer]

theorem signEmitted_ne_panic (proxy : Proxy) (id inner : Value)
    (fields metaMembers : List (String × Value)) (cause : Panic) :
    proxy.signEmitted id inner fields metaMembers ≠ .error (.panic cause) := by
  intro unwound
  rcases Except.bind_eq_error.mp unwound with failed | ⟨_, _, unwound⟩
  · obtain ⟨_, _, impossible⟩ := Except.mapError_eq_error.mp failed
    cases impossible
  · rcases Except.bind_eq_error.mp unwound with failed | ⟨_, _, failed⟩
    · cases (okOr_eq_error.mp failed).2
    · cases (okOr_eq_error.mp failed).2

/-- The answer to an admitted request, by the inner server's reply. -/
theorem handleWithTransport_answer {proxy : Proxy} {replay : RefCell σ} {requestBytes : Bytes}
    {now : Int} {transportIdentity : Option TransportIdentity} {header : Option String}
    {verified : VerifiedRequest} {reply : Bytes}
    (writes : ∀ value : MapValue, ∃ bytes, Crates.toVec value.val = some bytes)
    (answers : ∀ forwarded, proxy.inner forwarded = reply)
    (admits : proxy.Admits replay requestBytes now transportIdentity header verified) :
    (proxy.handleWithTransport replay requestBytes now transportIdentity header).outcome =
      answer (requestId requestBytes)
        (proxy.buildSignedResponse reply verified now (requestId requestBytes)) := by
  rcases handleWithTransport_admits proxy replay requestBytes now transportIdentity header
    admits with ⟨_, outcome⟩
  obtain ⟨request, built⟩ := buildForwardedRequest_cases admits.known proxy now
  obtain ⟨_, written⟩ := writes request
  rw [outcome, dispatchAndSign, built, written]
  simp only [answers]
  cases proxy.buildSignedResponse reply verified now (requestId requestBytes) <;> rfl

/-- The handler returns, with every answer of the inner server, unless a request is
admitted and the reply's `result._meta` is neither null nor an object. -/
theorem handleWithTransport_returns_iff
    (writes : ∀ value : MapValue, ∃ bytes, Crates.toVec value.val = some bytes)
    (proxy : Proxy) (replay : RefCell σ) (requestBytes : Bytes) (now : Int)
    (transportIdentity : Option TransportIdentity) (header : Option String) (reply : Bytes)
    (answers : ∀ forwarded, proxy.inner forwarded = reply) :
    (∃ bytes, (proxy.handleWithTransport replay requestBytes now transportIdentity
        header).outcome = .ok bytes) ↔
      ¬ ((∃ verified, proxy.Admits replay requestBytes now transportIdentity header verified) ∧
        UnindexableMeta reply) := by
  by_cases admitted :
      ∃ verified, proxy.Admits replay requestBytes now transportIdentity header verified
  · rcases admitted with ⟨verified, admits⟩
    rw [handleWithTransport_answer writes answers admits]
    have exists_admits :
        ∃ verified, proxy.Admits replay requestBytes now transportIdentity header verified :=
      ⟨verified, admits⟩
    simp only [exists_admits, true_and]
    cases read : Crates.fromSlice reply with
    | none =>
      constructor
      · rintro _ ⟨message, _, _, parsed, _⟩
        rw [read] at parsed
        cases parsed
      · intro _
        rw [buildSignedResponse, read]
        exact ⟨_, rfl⟩
    | some inner =>
      rcases exists_envelopeFields admits.known.identified proxy now with ⟨fields, described⟩
      rw [buildSignedResponse_eq described read]
      cases indexes : outcomeMeta inner.val with
      | none =>
        rcases outcomeMeta_eq_none.mp indexes with ⟨result, metaValue, held⟩
        constructor
        · rintro ⟨bytes, returned⟩
          cases returned
        · intro fine
          exact absurd ⟨inner, result, metaValue, read, held⟩ fine
      | some metaMembers =>
        constructor
        · rintro _ ⟨message, result, metaValue, parsed, held⟩
          rw [read, Option.some.injEq] at parsed
          subst parsed
          have none := outcomeMeta_eq_none.mpr ⟨result, metaValue, held⟩
          rw [indexes] at none
          cases none
        · intro _
          exact answer_eq_ok.mpr (signEmitted_ne_panic proxy _ _ _ _)
  · rcases handleWithTransport_refuses proxy replay requestBytes now transportIdentity header
      (not_exists.mp admitted) with ⟨_, bytes, returned, _⟩
    simp only [admitted, false_and, not_false_eq_true, iff_true]
    exact ⟨bytes, returned⟩

end

/-- A reply with nothing unusual about it. -/
def plainReply : Bytes := textBytes "\x7b\"result\":\x7b\"content\":\"hello\"\x7d\x7d"

def plainMessage : MapValue :=
  ⟨.object [("result", .object [("content", .string "hello")])], by decide⟩

theorem fromSlice_plainReply :
    letI := exchangeCrates
    Crates.fromSlice plainReply = some plainMessage := by
  decide +kernel

/-- The handler returns with the plain reply. -/
theorem handleWithTransport_returns_plainReply :
    letI := exchangeCrates
    ∃ bytes, ((replyingProxy plainReply).handleWithTransport freshReplay vectorBytes 1779998460
      vectorChannel none).outcome = .ok bytes := by
  let crates := exchangeCrates
  apply (handleWithTransport_returns_iff (serdeJson_referenceCrates _ _ _).writes _ freshReplay
    vectorBytes 1779998460 vectorChannel none plainReply fun _ => rfl).mpr
  rintro ⟨_, message, result, metaValue, read, found, inside, _⟩
  rw [fromSlice_plainReply, Option.some.injEq] at read
  subst read
  cases found
  cases inside

/-- It unwinds with a reply that has a number for its result's `_meta`. -/
theorem handleWithTransport_panics_on_numeric_meta :
    letI := exchangeCrates
    ((replyingProxy (textBytes "\x7b\"result\":\x7b\"_meta\":5\x7d\x7d")).handleWithTransport
      freshReplay vectorBytes 1779998460 vectorChannel none).outcome =
        .error (.cannotAccessKey responseMetaKey) := by
  decide +kernel

/-! ## Signing -/

section

variable [Crates] {σ : Type} [ReplayCache σ]

/-- An outcome the proxy can sign.  A result's `_meta`, if it has one, is null or an
object; apart from the proxy-owned keys of any `_meta` and the trace keys of the result's
own, all numbers are safe integers; and there is room for two levels around it. -/
def SignableOutcome (inner : Value) : Prop :=
  match inner.get "result" with
  | some (.object members) =>
    (∀ metaValue, Assoc.find? "_meta" members = some metaValue →
      indexable metaValue ≠ none) ∧
    ∀ member ∈ members, JcsSafe proxyOwnedMetaKeys 126
      (if member.1 = "_meta" then proxyOwnedMetaKeys ++ observabilityMetaKeys else []) member.2
  | some result => JcsSafe proxyOwnedMetaKeys 126 [] result
  | none => JcsSafe proxyOwnedMetaKeys 126 [] inner

/-- The keys of a member that are not signed as the inner server sent them. -/
def unsignedKeys (key : String) : List String :=
  if key = "_meta" then proxyOwnedMetaKeys ++ observabilityMetaKeys else []

omit [Crates] in
theorem signableOutcome_iff {inner : Value} :
    SignableOutcome inner ↔ outcomeMeta inner ≠ none ∧
      ∀ member ∈ outcomeMembers inner,
        JcsSafe proxyOwnedMetaKeys 126 (unsignedKeys member.1) member.2 := by
  unfold SignableOutcome outcomeMeta outcomeMembers
  cases found : inner.get "result" with
  | none => simp [Assoc.find?, responseWrapInnerErrorKey, indexable, unsignedKeys]
  | some result =>
    cases result with
    | object members =>
      cases held : find? "_meta" members with
      | none => simp [held, indexable, unsignedKeys]
      | some metaValue => simp [held, unsignedKeys]
    | _ =>
      simp [Assoc.find?, responseWrapValueKey, indexable, unsignedKeys]

omit [Crates] in
theorem jcsSafe_scrubbed_meta {value : Value} {metaMembers : List (String × Value)}
    (indexes : indexable value = some metaMembers) :
    (∀ member ∈ withoutTrace (scrubMembers true metaMembers), member.1 ≠ responseMetaKey →
        JcsSafe [] 125 [] member.2) ↔
      JcsSafe proxyOwnedMetaKeys 126 (unsignedKeys "_meta") value := by
  have aside : ∀ key : String, keepsMember true key = true ↔ key ∉ proxyOwnedMetaKeys := by
    simp [keepsMember]
  have envelope : responseMetaKey ∈ proxyOwnedMetaKeys := by decide
  cases value with
  | object members =>
    cases indexes
    simp only [jcsSafe_object, mem_withoutTrace, scrubMembers_eq_map, unsignedKeys, ↓reduceIte,
      List.mem_map, mem_filter, mem_append, aside]
    constructor
    · intro safe member held
      by_cases owned : member.1 ∈ proxyOwnedMetaKeys
      · exact .inl (.inl owned)
      by_cases trace : member.1 ∈ observabilityMetaKeys
      · exact .inl (.inr trace)
      have scrubbed := safe (member.1, scrubAt (member.1 = "_meta") member.2)
        ⟨⟨member, ⟨held, owned⟩, rfl⟩, trace⟩ fun same => owned (same ▸ envelope)
      rw [jcsSafe_scrubAt] at scrubbed
      simpa using Or.inr scrubbed
    · rintro safe _ ⟨⟨member, ⟨held, owned⟩, rfl⟩, trace⟩ _
      rw [jcsSafe_scrubAt]
      have inside := (safe member held).resolve_left (not_or.mpr ⟨owned, trace⟩)
      simpa using inside
  | null =>
    cases indexes
    simp [withoutTrace, scrubMembers, observabilityMetaKeys, erase, JcsSafe]
  | _ => simp [indexable] at indexes

section

variable {proxy : Proxy} {verified : VerifiedRequest} {now : Int} {id : Value} {inner : MapValue}
  {metaMembers fields : List (String × Value)}

omit [Crates] in
/-- The emitted document has a preimage exactly when the id and the outcome are safe. -/
theorem emitted_preimage_isOk_iff (described : proxy.EnvelopeFields verified now fields)
    (idSorted : id.SortedKeys) (indexes : outcomeMeta inner.val = some metaMembers)
    {block : Value} (isObject : block.asObject.isSome)
    (stripped : block.removeMember "value" = proxy.unsignedBlock) :
    (∃ preimage, responseSigningPreimage (emitted id inner.val metaMembers fields block) =
        .ok preimage) ↔
      JcsSafe [] 127 [] id ∧ ∀ member ∈ outcomeMembers inner.val,
        JcsSafe proxyOwnedMetaKeys 126 (unsignedKeys member.1) member.2 := by
  have payload := sortedKeys_outcomeMembers inner.property
  have scrubbed := sortedKeys_scrubAt payload false
  have metaSorted := sortedKeys_withoutTrace
    (sortedKeys_scrubAt (sortedKeys_outcomeMeta inner.property indexes) true)
  let document : MapValue := ⟨_, sortedKeys_responseWith idSorted scrubbed metaSorted
    (sortedKeys_envelope described (sortedKeys_unsignedBlock proxy))⟩
  rw [emitted_preimage described indexes isObject stripped]
  rw [show _ ↔ JcsSafe [] maxParseDepth [] document.val from
    canonicalizeJsonValue_isOk_iff document]
  rw [jcsSafe_responseWith proxy id (sortedKeys_object.mp scrubbed).1
    (sortedKeys_object.mp metaSorted).1 described.ordered described.texts,
    jcsSafe_scrubbed_meta indexes]
  refine and_congr_right fun _ => ?_
  constructor
  · rintro ⟨others, own⟩ ⟨key, value⟩ held
    by_cases isMeta : key = "_meta"
    · subst isMeta
      rwa [(sortedKeys_object.mp payload).1.find?_of_mem held] at own
    · have safe := others (key, scrubAt (key = "_meta") value) ?_ isMeta
      · rw [jcsSafe_scrubAt] at safe
        simpa [isMeta, unsignedKeys] using safe
      · rw [scrubMembers_eq_map]
        exact mem_map.mpr ⟨(key, value), by simpa [keepsMember] using held, rfl⟩
  · intro safe
    constructor
    · intro member held notMeta
      rw [scrubMembers_eq_map] at held
      obtain ⟨source, kept, rfl⟩ := mem_map.mp held
      have inside := safe source (mem_of_mem_filter kept)
      rw [jcsSafe_scrubAt]
      simpa [unsignedKeys, show source.1 ≠ "_meta" from notMeta] using inside
    · cases found : find? "_meta" (outcomeMembers inner.val) with
      | none => simp [JcsSafe]
      | some value => exact safe ("_meta", value) (mem_of_find? found)

end

omit [Crates] in
theorem jcsSafe_get {owned ignored : List String} {levels : Nat} {value member : Value}
    {key : String} (safe : JcsSafe owned (levels + 1) ignored value)
    (found : value.get key = some member) (looked : key ∉ ignored) (other : key ≠ "_meta") :
    JcsSafe owned levels [] member := by
  obtain ⟨_, rfl, held⟩ := get_eq_some found
  have inside := (jcsSafe_object.mp safe (key, member) (mem_of_find? held)).resolve_left
    looked
  simpa [other] using inside

theorem jcsSafe_requestId {requestBytes : Bytes} {verified : VerifiedRequest}
    (known : Verified requestBytes verified) : JcsSafe [] 127 [] (requestId requestBytes) := by
  obtain ⟨message, _, read, _, preimage, signed⟩ := known.request
  rw [requestId, read]
  cases found : message.val.get "id" with
  | none => simp [found, JcsSafe]
  | some id =>
    have canonical := signingPreimage_eq_ok signed
    let rest : MapValue := ⟨_, sortedKeys_deletePaths message.property .request⟩
    have safe : JcsSafe [] maxParseDepth [] rest.val :=
      (canonicalizeJsonValue_isOk_iff rest).mp ⟨preimage, canonical⟩
    have kept : rest.val.get "id" = some id := by
      rw [← found]
      simp only [rest, deletePaths, preimageExclusionPaths, observabilityMetaKeys, map_cons, map_nil, foldl_cons,
        foldl_nil, erasePath]
      rw [get_updateMember_ne (by decide), get_updateMember_ne (by decide),
        get_updateMember_ne (by decide), get_updateMember_ne (by decide)]
    simpa [found] using jcsSafe_get safe kept (by simp) (by decide)

/-- The bytes of a response that carries an envelope bound to a request hash, with a
signature that verifies under a key. -/
def SignedAnswer (key : VerificationKey) (requestHash : String) (bytes : Bytes) : Prop :=
  ∃ (response : MapValue) (envelope : Value) (signature : String) (preimage : Bytes),
    Crates.toVec response.val = some bytes ∧
    locateEnvelope response.val "result" responseMetaKey = .ok envelope ∧
    envelope.get "request_hash" = some (.string requestHash) ∧
    (envelope.get "signature").bind (Json.get "value") = some (.string signature) ∧
    responseSigningPreimage response.val = .ok preimage ∧
    verifyEd25519With preimage signature key .responseSigInvalid = .ok ()

section

variable {proxy : Proxy} {verified : VerifiedRequest} {now : Int} {id : Value} {inner : MapValue}
  {metaMembers fields : List (String × Value)}

omit [Crates] in
theorem locateEnvelope_emitted (block : Value) :
    locateEnvelope (emitted id inner.val metaMembers fields block) "result" responseMetaKey =
      .ok (.object (insert codePointLt "signature" block fields)) := by
  rw [emitted, locateEnvelope, get_responseWith, bind_some, resultWith,
    get_insert_self, bind_some, get_insert_self, okOr_some]

omit [Crates] in
theorem jcsSafe_errorObject (policy code : String) (safe : JcsSafe [] 127 [] id) :
    JcsSafe [] maxParseDepth [] (errorObject policy code id) := by
  have code : Number.Safe (.negInt (-32003) (by decide)) := ⟨-32003, rfl, by decide⟩
  simp [errorObject, JcsSafe, JcsSafeMembers, maxParseDepth, safe, code]

theorem jsonRpcErrorObject_written (serde : SerdeJson) (error : McpsError)
    (sorted : id.SortedKeys) :
    ∃ object : MapValue, object.val = errorObject "core" error.wireCode id ∧
      Crates.toVec object.val = some (jsonRpcErrorObject error id) := by
  rcases serde.writes ⟨_, sortedKeys_errorObject "core" error.wireCode sorted⟩ with
    ⟨_, written⟩
  refine ⟨⟨_, sortedKeys_errorObject "core" error.wireCode sorted⟩, rfl, ?_⟩
  rw [jsonRpcErrorObject, errorBytes, written, getD_some]

/-- The signed document is a signed answer, and no error. -/
theorem signedAnswer_emitted (serde : SerdeJson) {key : VerificationKey}
    (described : proxy.EnvelopeFields verified now fields) (idSorted : id.SortedKeys)
    (idSafe : JcsSafe [] 127 [] id)
    (indexes : outcomeMeta inner.val = some metaMembers) {preimage bytes : Bytes}
    {signature : String}
    (preimaged : responseSigningPreimage
      (emitted id inner.val metaMembers fields proxy.unsignedBlock) = .ok preimage)
    (verifies : verifyEd25519With preimage signature key .responseSigInvalid = .ok ())
    (written : Crates.toVec (emitted id inner.val metaMembers fields
      (proxy.signedBlock signature)) = some bytes) :
    SignedAnswer key verified.requestHash bytes ∧
      ∀ error, bytes ≠ jsonRpcErrorObject error id := by
  let response : MapValue :=
    ⟨_, sortedKeys_emitted described idSorted indexes (sortedKeys_signedBlock proxy signature)⟩
  have same : responseSigningPreimage response.val = .ok preimage := by
    rw [← preimaged, emitted_preimage described indexes rfl rfl,
      emitted_preimage described indexes rfl rfl]
  constructor
  · refine ⟨response, _, signature, preimage, written, locateEnvelope_emitted _, ?_, ?_, same,
      verifies⟩
    · have different : "request_hash" ≠ "signature" := by decide
      rw [Json.get, find?_insert_ne codePointLt different]
      exact described.bound
    · rw [get_insert_self]
      rfl
  · intro error same
    obtain ⟨object, shape, errorWritten⟩ := jsonRpcErrorObject_written serde error idSorted
    rw [← same] at errorWritten
    have safe : JcsSafe [] maxParseDepth [] object.val := by
      rw [shape]
      exact jcsSafe_errorObject _ _ idSafe
    have identical : response = object := serde.distinguishes safe errorWritten written
    have resultless : response.val.get "result" = none := by
      rw [identical, shape]
      rfl
    exact absurd resultless (by simp [response, emitted, get_responseWith])

end

/-- With a signer that succeeds, the answer to an admitted request is signed and bound to
it exactly when the inner server's outcome can be signed. -/
theorem handleWithTransport_signed_iff (serde : SerdeJson) (proxy : Proxy) (replay : RefCell σ)
    (requestBytes : Bytes) (now : Int) (transportIdentity : Option TransportIdentity)
    (header : Option String) (key : VerificationKey)
    (signs : ∀ preimage, ∃ signature, proxy.signer preimage = some signature ∧
      verifyEd25519With preimage signature key .responseSigInvalid = .ok ())
    {verified : VerifiedRequest}
    (admits : proxy.Admits replay requestBytes now transportIdentity header verified)
    {reply : Bytes} (answers : ∀ forwarded, proxy.inner forwarded = reply) {inner : MapValue}
    (valid : Crates.fromSlice reply = some inner) :
    (∃ bytes, (proxy.handleWithTransport replay requestBytes now transportIdentity
        header).outcome = .ok bytes ∧
        SignedAnswer key verified.requestHash bytes ∧
        ∀ error, bytes ≠ jsonRpcErrorObject error (requestId requestBytes)) ↔
      SignableOutcome inner.val := by
  have idSorted := sortedKeys_requestId requestBytes
  have idSafe := jcsSafe_requestId admits.known
  rcases exists_envelopeFields admits.known.identified proxy now with ⟨fields, described⟩
  rw [handleWithTransport_answer serde.writes answers admits, buildSignedResponse_eq described valid,
    signableOutcome_iff]
  cases indexes : outcomeMeta inner.val with
  | none =>
    constructor
    · rintro ⟨bytes, returned, _⟩
      cases returned
    · rintro ⟨present, _⟩
      exact absurd rfl present
  | some metaMembers =>
    have safe_iff := emitted_preimage_isOk_iff described idSorted indexes
      (rfl : proxy.unsignedBlock.asObject.isSome = true) rfl
    simp only [Option.elim_some, signEmitted]
    cases preimaged : responseSigningPreimage (emitted (requestId requestBytes) inner.val
        metaMembers fields proxy.unsignedBlock) with
    | error error =>
      constructor
      · rintro ⟨bytes, returned, _, clean⟩
        cases returned
        exact absurd rfl (clean error)
      · rintro ⟨_, safe⟩
        rcases safe_iff.mpr ⟨idSafe, safe⟩ with ⟨preimage, signed⟩
        rw [preimaged] at signed
        cases signed
    | ok preimage =>
      rcases signs preimage with ⟨signature, signed, verifies⟩
      have safe := (safe_iff.mp ⟨preimage, preimaged⟩).2
      rcases serde.writes ⟨_, sortedKeys_emitted described idSorted indexes
        (sortedKeys_signedBlock proxy signature)⟩ with ⟨bytes, written⟩
      constructor
      · intro _
        exact ⟨by simp, safe⟩
      · intro _
        refine ⟨bytes, ?_, signedAnswer_emitted serde described idSorted idSafe indexes preimaged
          verifies written⟩
        simp only [Except.mapError, Except.bind_ok, signed, Option.okOr_some, written]
        rfl

end

theorem exchangeSignatures_length :
    ∀ entry ∈ exchangeSignatures, (b64urlDecodeText entry.signature).map length = some 64 := by
  decide +kernel

/-- The plain reply is signed, under the key of the server. -/
theorem handleWithTransport_signs_plainReply :
    letI := exchangeCrates
    ∃ bytes, ((replyingProxy plainReply).handleWithTransport freshReplay vectorBytes 1779998460
        vectorChannel none).outcome = .ok bytes ∧
      SignedAnswer serverVerificationKey vectorVerified.requestHash bytes ∧
      ∀ error, bytes ≠ jsonRpcErrorObject error (requestId vectorBytes) := by
  let crates := exchangeCrates
  apply (handleWithTransport_signed_iff (serdeJson_referenceCrates _ _ _)
    (replyingProxy plainReply) freshReplay vectorBytes 1779998460 vectorChannel none
    serverVerificationKey ?_ (replyingProxy_admits plainReply) (fun _ => rfl)
    fromSlice_plainReply).mpr
  · constructor
    · rintro metaValue ⟨⟩
    · simp [JcsSafe]
  · intro preimage
    exact ⟨_, rfl, verifyEd25519With_referenceSignature _ _ _ exchangeSignatures_length _ _ _⟩

/-- A reply with an integer out of range is answered with an unsigned error, although the
request is admitted, the reply is valid JSON and the signer does not fail. -/
theorem handleWithTransport_unsigned_on_unsafeReply :
    letI := exchangeCrates
    (replyingProxy unsafeReply).Admits freshReplay vectorBytes 1779998460 vectorChannel none
      vectorVerified ∧
    Crates.fromSlice unsafeReply = some unsafeMessage ∧
    (∀ preimage, ((replyingProxy unsafeReply).signer preimage).isSome) ∧
    ((replyingProxy unsafeReply).handleWithTransport freshReplay vectorBytes 1779998460
        vectorChannel none).outcome =
      .ok (jsonRpcErrorObject .canonicalizationFailed (.string "req-1")) := by
  let crates := exchangeCrates
  refine ⟨replyingProxy_admits unsafeReply, ?_, fun _ => rfl, ?_⟩
  · decide +kernel
  · decide +kernel

end Mcps.Proxy
