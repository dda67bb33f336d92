import Mcps.Core.DocumentReference
import Mcps.Core.Profiles

/-!
# Trace context does not interfere

The trace-context members of a request's own `_meta` are outside the signature, so that
tracing middle boxes may rewrite them.  Nothing else of the verification sees them either:
two requests that differ in these members only get the same answer, the same error
included, and leave the replay cache alike.

What may differ is stated on the texts: their documents are equal once the trace members
are removed (`TraceVariants`).  The reading of a document commutes with the removal, and
every later step gives on a value what it gives on the value without the trace members.
-/

namespace Mcps

open List Option Except Json

/-! ## Trace members -/

/-- Remove the trace-context members of an object. -/
def removeTrace {ν : Type} (tree : Json ν) : Json ν :=
  observabilityMetaKeys.foldl (fun tree key => tree.removeMember key) tree

/-- Remove the trace-context members of a request's own `_meta`. -/
def withoutTrace {ν : Type} (tree : Json ν) : Json ν :=
  tree.modifyAt EnvelopeLocation.request.metaPath removeTrace

/-- The trace members of a `_meta` object are JCS-safe, one under each key at most. -/
def CarriesTrace : Document → Prop
  | .object members =>
    ((members.filter fun member => member.1 ∈ observabilityMetaKeys).map Prod.fst).Nodup ∧
      ∀ member ∈ members, member.1 ∈ observabilityMetaKeys → member.2.Everywhere SafeNode
  | _ => True

instance : DecidablePred CarriesTrace
  | .object members => inferInstanceAs (Decidable
      (((members.filter fun member => member.1 ∈ observabilityMetaKeys).map Prod.fst).Nodup ∧
        ∀ member ∈ members, member.1 ∈ observabilityMetaKeys → member.2.Everywhere SafeNode))
  | .null | .bool _ | .number _ | .string _ | .array _ => isTrue trivial

/-- Two requests that differ in the presence or the values of trace members only. -/
structure TraceVariants (first second : Document) : Prop where
  same : withoutTrace first = withoutTrace second
  firstTrace : first.EveryAt EnvelopeLocation.request.metaPath CarriesTrace
  secondTrace : second.EveryAt EnvelopeLocation.request.metaPath CarriesTrace

instance (first second : Document) : Decidable (TraceVariants first second) :=
  decidable_of_iff (withoutTrace first = withoutTrace second ∧
    first.EveryAt EnvelopeLocation.request.metaPath CarriesTrace ∧
    second.EveryAt EnvelopeLocation.request.metaPath CarriesTrace)
    ⟨fun parts => ⟨parts.1, parts.2.1, parts.2.2⟩,
      fun variants => ⟨variants.same, variants.firstTrace, variants.secondTrace⟩⟩

section

variable {ν : Type}

theorem removeTrace_object (members : List (String × Json ν)) :
    removeTrace (.object members) =
      .object (members.filter fun member => member.1 ∉ observabilityMetaKeys) := by
  simp only [removeTrace, observabilityMetaKeys, foldl_cons, foldl_nil,
    removeMember, Assoc.erase, List.filter_filter, object.injEq]
  apply filter_congr
  intro member _
  grind

theorem intoMaps_removeTrace (tree : Json ν) :
    (removeTrace tree).intoMaps = removeTrace tree.intoMaps := by
  simp [removeTrace, observabilityMetaKeys, intoMaps_removeMember]

theorem mapNumbers_removeTrace {μ : Type} (image : ν → μ) (tree : Json ν) :
    (removeTrace tree).mapNumbers image = removeTrace (tree.mapNumbers image) := by
  simp [removeTrace, observabilityMetaKeys, mapNumbers_removeMember]

theorem sortedKeys_withoutTrace {tree : Json ν} (sorted : tree.SortedKeys) :
    (withoutTrace tree).SortedKeys :=
  sorted.modifyAt _ fun _ sorted => ((sorted.removeMember _).removeMember _).removeMember _

end

theorem nodup_keys_iff {members : List (String × Document)}
    (trace : ((members.filter fun member => member.1 ∈ observabilityMetaKeys).map
      Prod.fst).Nodup) :
    ((members.filter fun member => member.1 ∉ observabilityMetaKeys).map Prod.fst).Nodup ↔
      (members.map Prod.fst).Nodup := by
  constructor
  · intro others
    have parts := filter_append_perm
      (fun member : String × Document => decide (member.1 ∈ observabilityMetaKeys)) members
    apply (parts.map Prod.fst).nodup_iff.mp
    rw [map_append]
    refine List.Nodup.append trace (by simpa using others) ?_
    intro key inTrace inOthers
    simp only [List.mem_map, mem_filter] at inTrace inOthers
    grind
  · intro distinct
    exact distinct.sublist ((filter_sublist).map Prod.fst)

theorem everywhere_safeNode_removeTrace {document : Document} (carries : CarriesTrace document) :
    (removeTrace document).Everywhere SafeNode ↔ document.Everywhere SafeNode := by
  cases document with
  | object members =>
    obtain ⟨once, _⟩ := carries
    rw [removeTrace_object, everywhere_object, everywhere_object]
    refine and_congr (nodup_keys_iff once) ?_
    simp only [mem_filter]
    grind
  | _ => exact Iff.rfl

section

variable {numberOf : List Char → Option Number}

variable {document : Document}

theorem everywhere_denotes_of_safeNode
    (integers : ∀ {spelling}, (safeNumber spelling).isSome → (numberOf spelling).isSome)
    (safe : document.Everywhere SafeNode) : document.Everywhere (Denotes numberOf) := by
  refine everywhere_mono ?_ safe
  intro node admitted
  cases node with
  | number spelling => exact integers admitted
  | _ => trivial

theorem everywhere_denotes_removeTrace
    (integers : ∀ {spelling}, (safeNumber spelling).isSome → (numberOf spelling).isSome)
    (carries : CarriesTrace document) :
    (removeTrace document).Everywhere (Denotes numberOf) ↔
      document.Everywhere (Denotes numberOf) := by
  cases document with
  | object members =>
    have safe := fun member held named =>
      everywhere_denotes_of_safeNode integers (carries.2 member held named)
    rw [removeTrace_object, everywhere_object, everywhere_object]
    refine and_congr Iff.rfl ?_
    simp only [mem_filter]
    grind
  | _ => exact Iff.rfl

theorem serdeValue_withoutTrace
    (integers : ∀ {spelling}, (safeNumber spelling).isSome → (numberOf spelling).isSome)
    (carries : document.EveryAt EnvelopeLocation.request.metaPath CarriesTrace) :
    (serdeValue numberOf (withoutTrace document)).map Subtype.val =
      ((serdeValue numberOf document).map Subtype.val).map withoutTrace := by
  have readable : (withoutTrace document).Everywhere (Denotes numberOf) ↔
      document.Everywhere (Denotes numberOf) :=
    everywhere_modifyAt (fun _ _ _ => Iff.rfl)
      (carries.imp fun _ trace => everywhere_denotes_removeTrace integers trace)
  unfold serdeValue
  by_cases denotes : document.Everywhere (Denotes numberOf)
  · rw [if_pos (readable.mpr denotes), if_pos denotes]
    simp only [map_some]
    rw [withoutTrace, mapNumbers_modifyAt (mapNumbers_removeTrace _),
      intoMaps_modifyAt intoMaps_removeTrace]
    rfl
  · rw [if_neg (mt readable.mp denotes), if_neg denotes]
    rfl

end

theorem everywhere_safeNode_withoutTrace {document : Document}
    (carries : document.EveryAt EnvelopeLocation.request.metaPath CarriesTrace) :
    (withoutTrace document).Everywhere SafeNode ↔ document.Everywhere SafeNode := by
  apply everywhere_modifyAt
  · intro first second keys
    change (first.map Prod.fst).Nodup ↔ (second.map Prod.fst).Nodup
    rw [keys]
  · exact carries.imp fun _ trace => everywhere_safeNode_removeTrace trace

/-! ## Steps on a value -/

variable (value : Value)

theorem rejectBatch_withoutTrace : rejectBatch (withoutTrace value) = rejectBatch value := by
  cases value <;> rfl

theorem rejectNotification_withoutTrace :
    rejectNotification (withoutTrace value) = rejectNotification value := by
  unfold rejectNotification
  rw [show (withoutTrace value).get "id" = value.get "id" from
    get_updateMember_ne (by decide) _ value]

theorem get_removeTrace {key : String} (other : key ∉ observabilityMetaKeys) (tree : Value) :
    (removeTrace tree).get key = tree.get key := by
  simp only [observabilityMetaKeys, mem_cons, not_or] at other
  obtain ⟨first, second, third, _⟩ := other
  simp only [removeTrace, observabilityMetaKeys, foldl_cons, foldl_nil,
    get_removeMember_ne first, get_removeMember_ne second,
    get_removeMember_ne third]

theorem locateEnvelope_withoutTrace :
    locateEnvelope (withoutTrace value) "params" requestMetaKey =
      locateEnvelope value "params" requestMetaKey := by
  have params : (withoutTrace value).get "params" =
      (value.get "params").map (updateMember "_meta" removeTrace) :=
    get_updateMember_self "params" _ value
  unfold locateEnvelope
  rw [params]
  cases value.get "params" with
  | none => rfl
  | some params =>
    simp only [map_some, bind_some, get_updateMember_self]
    cases params.get "_meta" with
    | none => rfl
    | some metaValue =>
      simp only [map_some, bind_some]
      rw [get_removeTrace (by decide)]

theorem selectVersion_withoutTrace (policy : ExpectedVersionPolicy) :
    selectVersion (withoutTrace value) policy = selectVersion value policy := by
  simp only [selectVersion, readRequestEnvelopeVersion, locateEnvelope_withoutTrace]

theorem extractRequestEnvelope_withoutTrace :
    extractRequestEnvelope (withoutTrace value) = extractRequestEnvelope value := by
  simp only [extractRequestEnvelope, locateEnvelope_withoutTrace]

theorem extractDraft02RequestEnvelope_withoutTrace :
    extractDraft02RequestEnvelope (withoutTrace value) = extractDraft02RequestEnvelope value := by
  simp only [extractDraft02RequestEnvelope, locateEnvelope_withoutTrace]

theorem stripSignatureValue_eq :
    stripSignatureValue value .request = (do
      let envelope ← locateEnvelope value "params" requestMetaKey
      let signature ← (envelope.get "signature").okOr .missingEnvelope
      let _ ← signature.asObject.okOr McpsError.missingEnvelope
      return value.modifyAt EnvelopeLocation.request.signaturePath
        (removeMember "value")) := by
  simp only [stripSignatureValue, locateEnvelope, EnvelopeLocation.containerKey]
  cases value.get "params" with
  | none => rfl
  | some params =>
    simp only [bind_some, okOr, bind_ok]
    cases params.get "_meta" with
    | none => rfl
    | some metaValue =>
      cases metaValue.get requestMetaKey <;> rfl

theorem removeTrace_updateMember (key : String) (change : Value → Value) (tree : Value) :
    removeTrace (tree.updateMember key change) = (removeTrace tree).updateMember key change := by
  cases tree with
  | object members =>
    simp only [updateMember, removeTrace_object, List.filter_map]
    rfl
  | _ => rfl

theorem removeTrace_removeTrace (tree : Value) : removeTrace (removeTrace tree) = removeTrace tree := by
  cases tree with
  | object members => simp [removeTrace_object]
  | _ => rfl

theorem requestSigningPreimage_withoutTrace :
    requestSigningPreimage (withoutTrace value) = requestSigningPreimage value := by
  have covered : ∀ value : Value, stripObservabilityMeta (value.modifyAt
      EnvelopeLocation.request.signaturePath (removeMember "value")) .request =
        value.modifyAt EnvelopeLocation.request.metaPath fun metaValue =>
          removeTrace (metaValue.updateMember requestMetaKey
            (modifyAt ["signature"] (removeMember "value"))) :=
    fun value => modifyAt_modifyAt EnvelopeLocation.request.metaPath _ _ value
  have stripped : stripObservabilityMeta ((withoutTrace value).modifyAt
      EnvelopeLocation.request.signaturePath (removeMember "value")) .request =
        stripObservabilityMeta (value.modifyAt
          EnvelopeLocation.request.signaturePath (removeMember "value")) .request := by
    rw [covered, covered, withoutTrace, modifyAt_modifyAt]
    congr 1
    funext metaValue
    rw [Function.comp_apply, removeTrace_updateMember, removeTrace_removeTrace,
      removeTrace_updateMember]
  simp only [requestSigningPreimage, signingPreimage, stripSignatureValue_eq,
    locateEnvelope_withoutTrace]
  cases locateEnvelope value "params" requestMetaKey with
  | error e => rfl
  | ok envelope =>
    simp only [bind_ok]
    cases envelope.get "signature" with
    | none => rfl
    | some signature =>
      simp only [okOr, bind_ok]
      cases signature.asObject with
      | none => rfl
      | some _ =>
        exact congrArg canonicalizeJsonValue stripped

/-- The structural steps on what was read. -/
def messageOf (read : Option Value) : Except McpsError Value := do
  let value ← read.okOr .canonicalizationFailed
  rejectBatch value
  rejectNotification value
  return value

theorem messageOf_withoutTrace (read : Option Value) :
    messageOf (read.map withoutTrace) = (messageOf read).map withoutTrace := by
  cases read with
  | none => rfl
  | some value =>
    simp only [messageOf, map_some, okOr, bind_ok,
      rejectBatch_withoutTrace, rejectNotification_withoutTrace]
    cases rejectBatch value with
    | error e => rfl
    | ok _ => cases rejectNotification value <;> rfl

section

variable [Crates]

theorem requestHash_withoutTrace (value : Value) :
    requestHash (withoutTrace value) = requestHash value := by
  simp only [requestHash, requestSigningPreimage_withoutTrace]

/-- Evidence about a request without its trace members. -/
def RequestEvidence.untraced (evidence : RequestEvidence) : RequestEvidence :=
  { evidence with value := withoutTrace evidence.value }

theorem acceptEvidence_untraced {σ : Type} [ReplayCache σ]
    (evidence : Except McpsError RequestEvidence) (replay : σ) :
    acceptEvidence (evidence.map RequestEvidence.untraced) replay =
      acceptEvidence evidence replay := by
  cases evidence with
  | error e => rfl
  | ok evidence =>
    simp only [Except.map, acceptEvidence, acceptFresh, RequestEvidence.untraced,
      requestHash_withoutTrace]

theorem parseMessage_eq (rawBytes : Bytes) :
    parseMessage rawBytes = messageOf ((Crates.fromSlice rawBytes).map Subtype.val) := by
  unfold parseMessage messageOf
  cases Crates.fromSlice rawBytes <;> rfl

/-- The draft-01 steps from the envelope to the signature. -/
def evidenceOf (value : Value) (resolver : TrustResolver) (config : VerificationConfig)
    (now : Int) : Except McpsError RequestEvidence := do
  let envelope ← extractRequestEnvelope value
  checkAuthorizationHash envelope.authorizationHash
  let expires ← checkClaims value envelope.claims envelope.signature resolver config now
  return ⟨value, envelope.claims, expires⟩

/-- The draft-02 steps from the envelope to the signature. -/
def evidenceOfDraft02 (value : Value) (resolver : TrustResolver) (config : VerificationConfig)
    (now : Int) : Except McpsError RequestEvidence := do
  let envelope ← extractDraft02RequestEnvelope value
  let expires ← checkClaims value envelope.claims envelope.signature resolver config now
  return ⟨value, envelope.claims, expires⟩

section

variable (value : Value) (resolver : TrustResolver) (config : VerificationConfig) (now : Int)

theorem checkClaims_withoutTrace (claims : RequestClaims) (signature : SignatureBlock) :
    checkClaims (withoutTrace value) claims signature resolver config now =
      checkClaims value claims signature resolver config now := by
  simp only [checkClaims, requestSigningPreimage_withoutTrace]

theorem evidenceOf_withoutTrace :
    evidenceOf (withoutTrace value) resolver config now =
      (evidenceOf value resolver config now).map RequestEvidence.untraced := by
  simp only [evidenceOf, extractRequestEnvelope_withoutTrace, checkClaims_withoutTrace]
  cases extractRequestEnvelope value with
  | error e => rfl
  | ok envelope =>
    simp only [bind_ok]
    cases checkAuthorizationHash envelope.authorizationHash with
    | error e => rfl
    | ok _ =>
      cases checkClaims value envelope.claims envelope.signature resolver config now <;> rfl

theorem evidenceOfDraft02_withoutTrace :
    evidenceOfDraft02 (withoutTrace value) resolver config now =
      (evidenceOfDraft02 value resolver config now).map RequestEvidence.untraced := by
  simp only [evidenceOfDraft02, extractDraft02RequestEnvelope_withoutTrace,
    checkClaims_withoutTrace]
  cases extractDraft02RequestEnvelope value with
  | error e => rfl
  | ok envelope =>
    simp only [bind_ok]
    cases checkClaims value envelope.claims envelope.signature resolver config now <;> rfl

end

/-! ## The two requests -/

/-- What a verifier learns from the bytes: the message without its trace members, and
whether the bytes canonicalize. -/
structure SameReading (firstBytes secondBytes : Bytes) : Prop where
  message : (parseMessage firstBytes).map withoutTrace =
    (parseMessage secondBytes).map withoutTrace
  canonical : (canonicalize firstBytes).map (fun _ => ()) =
    (canonicalize secondBytes).map (fun _ => ())

theorem TraceVariants.sameReading {numberOf : List Char → Option Number}
    (serde : SerdeReads numberOf) {firstBytes secondBytes : Bytes} {first second : Document}
    (readFirst : readDocument firstBytes = some first)
    (readSecond : readDocument secondBytes = some second)
    (variants : TraceVariants first second)
    (firstDepth : first.depth ≤ serdeRecursionLimit)
    (secondDepth : second.depth ≤ serdeRecursionLimit) :
    SameReading firstBytes secondBytes := by
  constructor
  · rw [parseMessage_eq, parseMessage_eq, ← messageOf_withoutTrace, ← messageOf_withoutTrace,
      serde.reads readFirst firstDepth, serde.reads readSecond secondDepth,
      ← serdeValue_withoutTrace serde.integers variants.firstTrace,
      ← serdeValue_withoutTrace serde.integers variants.secondTrace, variants.same]
  · have within : serdeRecursionLimit ≤ maxParseDepth := by decide
    have alike : (∃ bytes, canonicalize firstBytes = .ok bytes) ↔
        ∃ bytes, canonicalize secondBytes = .ok bytes := by
      rw [canonicalize_isOk_iff readFirst, canonicalize_isOk_iff readSecond,
        ← everywhere_safeNode_withoutTrace variants.firstTrace,
        ← everywhere_safeNode_withoutTrace variants.secondTrace, variants.same]
      exact and_congr Iff.rfl (iff_of_true (firstDepth.trans within) (secondDepth.trans within))
    cases firstResult : canonicalize firstBytes with
    | ok bytes =>
      rcases alike.mp ⟨bytes, firstResult⟩ with ⟨other, secondResult⟩
      rw [secondResult]
      rfl
    | error e =>
      cases secondResult : canonicalize secondBytes with
      | ok bytes =>
        rcases alike.mpr ⟨bytes, secondResult⟩ with ⟨other, firstOk⟩
        rw [firstOk] at firstResult
        cases firstResult
      | error e' =>
        rw [failsWith_canonicalize firstBytes e firstResult,
          failsWith_canonicalize secondBytes e' secondResult]

variable {σ : Type} [ReplayCache σ] {firstBytes secondBytes : Bytes}

/-- A pipeline whose steps on the value do not see the trace members gives the same answer
on texts that are read alike. -/
theorem SameReading.acceptEvidence_eq (reading : SameReading firstBytes secondBytes)
    {evidence : Value → Except McpsError RequestEvidence}
    (blind : ∀ value, evidence (withoutTrace value) =
      (evidence value).map RequestEvidence.untraced) (replay : σ) :
    acceptEvidence (do
        let value ← parseMessage firstBytes
        let _ ← canonicalize firstBytes
        evidence value) replay =
      acceptEvidence (do
        let value ← parseMessage secondBytes
        let _ ← canonicalize secondBytes
        evidence value) replay := by
  have untraced : ∀ bytes, (do
      let value ← parseMessage bytes
      let _ ← canonicalize bytes
      evidence value).map RequestEvidence.untraced = (do
        let value ← (parseMessage bytes).map withoutTrace
        let _ ← (canonicalize bytes).map fun _ => ()
        evidence value) := by
    intro bytes
    cases parseMessage bytes with
    | error e => rfl
    | ok value =>
      cases canonicalize bytes with
      | error e => rfl
      | ok _ => exact (blind value).symm
  rw [← acceptEvidence_untraced, ← acceptEvidence_untraced (do
    let value ← parseMessage secondBytes
    let _ ← canonicalize secondBytes
    evidence value), untraced, untraced, reading.message, reading.canonical]

theorem SameReading.selectVersion_eq (reading : SameReading firstBytes secondBytes)
    (policy : ExpectedVersionPolicy) :
    (do selectVersion (← parseMessage firstBytes) policy) =
      (do selectVersion (← parseMessage secondBytes) policy) := by
  have untraced : ∀ bytes, (do selectVersion (← parseMessage bytes) policy) =
      (do selectVersion (← (parseMessage bytes).map withoutTrace) policy) := by
    intro bytes
    cases parseMessage bytes with
    | error e => rfl
    | ok value => exact (selectVersion_withoutTrace value policy).symm
  rw [untraced, untraced, reading.message]

/-- Two requests that differ only in the presence or the values of their trace members get
the same verified request or the same error, and leave the same replay state. -/
theorem verifyRequestDispatch_eq_of_traceVariants {numberOf : List Char → Option Number}
    (serde : SerdeReads numberOf) {first second : Document}
    (readFirst : readDocument firstBytes = some first)
    (readSecond : readDocument secondBytes = some second)
    (variants : TraceVariants first second)
    (firstDepth : first.depth ≤ serdeRecursionLimit)
    (secondDepth : second.depth ≤ serdeRecursionLimit)
    (resolver : TrustResolver) (replay : σ) (config : VerificationConfig) (now : Int)
    (policy : ExpectedVersionPolicy) :
    verifyRequestDispatch firstBytes resolver replay config now policy =
      verifyRequestDispatch secondBytes resolver replay config now policy := by
  have reading : SameReading firstBytes secondBytes :=
    variants.sameReading serde readFirst readSecond firstDepth secondDepth
  have draft01 : verifyRequest firstBytes resolver replay config now =
      verifyRequest secondBytes resolver replay config now :=
    reading.acceptEvidence_eq (evidenceOf_withoutTrace · resolver config now) replay
  have draft02 : verifyRequestDraft02 firstBytes resolver replay config now =
      verifyRequestDraft02 secondBytes resolver replay config now :=
    reading.acceptEvidence_eq (evidenceOfDraft02_withoutTrace · resolver config now) replay
  unfold verifyRequestDispatch
  rw [reading.selectVersion_eq policy, draft01, draft02]

end

/-! ## A traced request -/

/-- The conformance vector as a middle box forwards it: with a trace of its own. -/
def forwardedBytes : Bytes :=
  bytesOf ((vectorRequest [("value", .string vectorSignature)]).modifyAt
    EnvelopeLocation.request.metaPath (Json.insertMember "traceparent"
      (.string "00-4bf92f3577b34da6a3ce929d0e0e4736-00f067aa0ba902b7-01")))

def documentOf (input : Bytes) : Document := (readDocument input).getD .null

/-- The vector is accepted as it was signed and as it was forwarded. -/
theorem verifyRequestDispatch_eq_of_traceVariants_vector :
    letI := documentReader vectorCrates
    let verified := fun bytes => verifyRequestDispatch bytes vectorResolver
      (InMemoryReplayCache.new 300) vectorConfig 1779998400 .draft01AndDraft02
    forwardedBytes ≠ vectorBytes ∧ (verified vectorBytes).1 = .ok vectorVerified ∧
      verified forwardedBytes = verified vectorBytes := by
  let crates := documentReader vectorCrates
  have facts : TraceVariants (documentOf forwardedBytes) (documentOf vectorBytes) ∧
      readDocument forwardedBytes = some (documentOf forwardedBytes) ∧
      readDocument vectorBytes = some (documentOf vectorBytes) ∧
      (documentOf forwardedBytes).depth ≤ serdeRecursionLimit ∧
      (documentOf vectorBytes).depth ≤ serdeRecursionLimit ∧
      forwardedBytes ≠ vectorBytes := by
    decide +kernel
  rcases facts with ⟨variants, readForwarded, readVector, shallow, shallowVector, different⟩
  refine ⟨different, by decide +kernel, ?_⟩
  exact @verifyRequestDispatch_eq_of_traceVariants crates _ _ _ _ _
    (serdeReads_documentReader vectorCrates) _ _ readForwarded readVector variants shallow
    shallowVector _ _ _ _ _

end Mcps
