import Mcps.Core.Evidence

/-!
# The shape of accepted envelopes

A derived struct can be read from an array as well, and an optional member may be left out or
be null.  That the envelope of an accepted request is nevertheless an object with exactly the
members of its profile takes several steps of the pipeline together: deserialization denies
other members and asks for the required ones, the check of the signature block asks for a
signature value, and the preimage is made by taking that value out of an object in an object.
-/

namespace Mcps

open List Option Except Json Assoc

/-! ## Shapes -/

/-- The value is an object with exactly the members of the shape, each as the shape says. -/
def ExactMembers (shape : List (String × (Value → Prop))) (value : Value) : Prop :=
  ∃ members, value = .object members ∧ (members.map Prod.fst).Perm (shape.map Prod.fst) ∧
    ∀ entry ∈ shape, ∃ member, Assoc.find? entry.1 members = some member ∧ entry.2 member

def IsText (value : Value) : Prop := ∃ text, value = .string text

def IsNonEmptyText (value : Value) : Prop := ∃ text, value = .string text ∧ text ≠ ""

/-- String members under the names. -/
def texts (names : List String) : List (String × (Value → Prop)) :=
  names.map fun name => (name, IsText)

def signatureShape : List (String × (Value → Prop)) := texts ["alg", "key_id", "value"]

/-- The draft-01 request envelope. -/
def requestEnvelopeShape : List (String × (Value → Prop)) :=
  texts ["version", "signer", "on_behalf_of", "audience", "authorization_hash", "nonce",
    "issued_at", "expires_at"] ++ [("signature", ExactMembers signatureShape)]

def opaqueBytesShape : List (String × (Value → Prop)) :=
  [("binding_type", (· = .string bindingTypeOpaqueBytes)),
    ("digest_alg", (· = .string digestAlgSha256)), ("digest_value", IsNonEmptyText)]

def authzSystemReferenceShape : List (String × (Value → Prop)) :=
  [("binding_type", (· = .string bindingTypeAuthzSystemReference)),
    ("authorization_system_id", IsNonEmptyText), ("reference_scheme_id", IsNonEmptyText),
    ("reference_value", IsNonEmptyText), ("digest_alg", (· = .string digestAlgSha256)),
    ("digest_value", IsNonEmptyText)]

def IsBinding (value : Value) : Prop :=
  ExactMembers opaqueBytesShape value ∨ ExactMembers authzSystemReferenceShape value

/-- The draft-02 request envelope. -/
def draft02RequestEnvelopeShape : List (String × (Value → Prop)) :=
  texts ["version", "canonicalization_id", "signer", "on_behalf_of", "audience", "nonce",
    "issued_at", "expires_at"] ++
    [("authorization_binding", IsBinding), ("signature", ExactMembers signatureShape)]

section

variable {shape : List (String × (Value → Prop))} {members : List (String × Value)}

theorem keys_nodup (sorted : (object members).SortedKeys) :
    (members.map Prod.fst).Nodup :=
  (everywhere_object.mp sorted.uniqueKeys).1

theorem names_subset (present : ∀ entry ∈ shape, ∃ member,
      find? entry.1 members = some member ∧ entry.2 member) :
    shape.map Prod.fst ⊆ members.map Prod.fst := by
  intro name listed
  obtain ⟨entry, inside, rfl⟩ := mem_map.mp listed
  obtain ⟨_, found, _⟩ := present entry inside
  exact mem_map_of_mem (mem_of_find? found)

theorem exactMembers_of_known (sorted : (object members).SortedKeys)
    (distinct : (shape.map Prod.fst).Nodup)
    (known : ∀ member ∈ members, member.1 ∈ shape.map Prod.fst)
    (present : ∀ entry ∈ shape, ∃ member,
      find? entry.1 members = some member ∧ entry.2 member) :
    ExactMembers shape (.object members) := by
  refine ⟨members, rfl, ?_, present⟩
  apply (perm_ext_iff_of_nodup (keys_nodup sorted) distinct).mpr
  intro name
  constructor
  · intro held
    obtain ⟨member, inside, rfl⟩ := mem_map.mp held
    exact known member inside
  · exact fun listed => names_subset present listed

theorem exactMembers_of_length (distinct : (shape.map Prod.fst).Nodup)
    (length : members.length = shape.length)
    (present : ∀ entry ∈ shape, ∃ member,
      find? entry.1 members = some member ∧ entry.2 member) :
    ExactMembers shape (.object members) := by
  refine ⟨members, rfl, ?_, present⟩
  have inside := distinct.subperm (names_subset present)
  exact (inside.perm_of_length_le (by simp [length])).symm

end

/-! ## Deserialized objects -/

section

variable {fields : List Field} {members : List (String × Value)}

theorem known_of_checkStruct (checked : checkStruct fields (.object members) = .ok ()) :
    ∀ member ∈ members, member.1 ∈ fields.map Field.name := by
  intro member held
  obtain ⟨_, inside, _⟩ := bind_eq_ok.mp checked
  obtain ⟨field, found, _⟩ := check_of_checkMembers inside held
  have named : field.name = member.1 := by simpa using find?_some found
  exact mem_map.mpr ⟨field, mem_of_find?_eq_some found, named⟩

/-- A deserialized object has exactly its text fields and some others. -/
theorem exactMembers_of_checkStruct {names : List String} {others : List (String × (Value → Prop))}
    (sorted : (object members).SortedKeys)
    (checked : checkStruct fields (.object members) = .ok ())
    (same : (fields.map Field.name).Perm (names ++ others.map Prod.fst))
    (distinct : (fields.map Field.name).Nodup)
    (named : ∀ name ∈ names, (fields.find? fun field => field.name = name) = some (textField name))
    (present : ∀ entry ∈ others, ∃ member,
      find? entry.1 members = some member ∧ entry.2 member) :
    ExactMembers (texts names ++ others) (.object members) := by
  have listed : (texts names ++ others).map Prod.fst = names ++ others.map Prod.fst := by
    simp [texts, Function.comp_def]
  apply exactMembers_of_known sorted
  · rw [listed]
    exact same.nodup_iff.mp distinct
  · intro member held
    rw [listed]
    exact same.mem_iff.mp (known_of_checkStruct checked member held)
  · intro entry held
    cases mem_append.mp held with
    | inl text =>
      obtain ⟨name, inside, rfl⟩ := mem_map.mp text
      exact ⟨_, text_of_checkStruct checked (named name inside), _, rfl⟩
    | inr other => exact present entry other

theorem exactMembers_signature (sorted : (object members).SortedKeys)
    (checked : checkStruct signatureFields (.object members) = .ok ())
    (valued : (readSignatureBlock (.object members)).value.isSome) :
    ExactMembers signatureShape (.object members) := by
  have value : ∃ member, find? "value" members = some member ∧ IsText member := by
    obtain ⟨text, read⟩ := isSome_iff_exists.mp valued
    have held : (find? "value" members).bind asStr = some text := by
      rw [← read]
      change _ = ((find? "value" members).getD .null).asStr
      cases find? "value" members <;> rfl
    exact ⟨_, bind_asStr_eq_some.mp held, text, rfl⟩
  exact @exactMembers_of_checkStruct _ _ ["alg", "key_id"] [("value", IsText)] sorted checked
    (.refl _) (by decide) (forall_mem_cons.mpr ⟨rfl, forall_mem_singleton.mpr rfl⟩)
    (forall_mem_singleton.mpr value)

end

/-! ## The parts of an envelope -/

/-- Where the envelope of a request is. -/
def envelopeOf (message : Value) : Option Value :=
  ((message.get "params").bind (Json.get "_meta")).bind (Json.get requestMetaKey)

theorem locateEnvelope_eq_ok {message raw : Value} :
    locateEnvelope message "params" requestMetaKey = .ok raw ↔ envelopeOf message = some raw :=
  okOr_eq_ok

theorem sortedKeys_envelopeOf {message raw : Value} (sorted : message.SortedKeys)
    (located : envelopeOf message = some raw) : raw.SortedKeys := by
  obtain ⟨_, inside, held⟩ := bind_eq_some_iff.mp located
  obtain ⟨_, outer, inner⟩ := bind_eq_some_iff.mp inside
  exact ((sorted.get outer).get inner).get held

theorem signature_of_preimage {value : Value} {preimage : Bytes}
    (signed : requestSigningPreimage value = .ok preimage) :
    ∃ raw block, envelopeOf value = some raw ∧ raw.get "signature" = some (.object block) := by
  obtain ⟨_, strip, _⟩ := bind_eq_ok.mp signed
  simp only [stripSignatureValue, bind_eq_ok, okOr_eq_ok] at strip
  rcases strip with ⟨container, hasContainer, metaValue, hasMeta, raw, hasRaw, signature, held,
    block, isObject, _⟩
  change Option.bind (some signature) asObject = some block at isObject
  rw [← held, bind_asObject_eq_some] at isObject
  refine ⟨raw, block, ?_, isObject⟩
  change value.get "params" = some container at hasContainer
  rw [envelopeOf, hasContainer, bind_some, hasMeta]
  exact hasRaw

theorem checkSignatureBlock_eq_ok {alg : String} {value : Option String}
    (checked : checkSignatureBlock alg value = .ok ()) : value.isSome := by
  obtain ⟨_, _, checked⟩ := bind_eq_ok.mp checked
  obtain ⟨present, _⟩ := guard_eq_ok.mp checked
  simpa [isSome_iff_ne_none] using present

theorem requiredBindingMembers_eq_ok {bindingType : String} {members : List (String × Value)}
    {required : List String} (listed : requiredBindingMembers bindingType members = .ok required) :
    bindingType = bindingTypeOpaqueBytes ∧ required = opaqueBytesShape.map Prod.fst ∨
      bindingType = bindingTypeAuthzSystemReference ∧
        required = authzSystemReferenceShape.map Prod.fst := by
  unfold requiredBindingMembers at listed
  split at listed
  next isOpaque =>
    obtain ⟨_, same⟩ := guard_eq_ok.mp listed
    cases same
    exact .inl ⟨isOpaque, rfl⟩
  next =>
    split at listed
    next isReference =>
      cases listed
      exact .inr ⟨isReference, rfl⟩
    next => cases listed

theorem isBinding_of_check {raw : Value} (checked : checkAuthorizationBinding raw = .ok ()) :
    ∃ binding, raw.get "authorization_binding" = some binding ∧ IsBinding binding := by
  simp only [checkAuthorizationBinding, throw_eq_error, bind_error, bind_eq_ok, guard_eq_ok,
    okOr_eq_ok, ne_eq, not_not, bind_asStr_eq_some] at checked
  obtain ⟨_, held, members, isObject, _, typed, required, listed, length, nonEmpty, digest, _⟩ :=
    checked
  have object : raw.get "authorization_binding" = some (.object members) := by
    rw [← bind_asObject_eq_some, held]
    exact isObject
  have text : ∀ key ∈ required, ∃ member, find? key members = some member ∧
      IsNonEmptyText member := by
    intro key inside
    rw [Bool.not_eq_true, Bool.not_eq_false', List.all_eq_true] at nonEmpty
    have shown := nonEmpty key inside
    cases held : (find? key members).bind asStr with
    | none =>
      rw [held] at shown
      cases shown
    | some text =>
      refine ⟨_, bind_asStr_eq_some.mp held, text, rfl, ?_⟩
      intro empty
      rw [held, empty] at shown
      cases shown
  refine ⟨_, object, ?_⟩
  rcases requiredBindingMembers_eq_ok listed with ⟨rfl, rfl⟩ | ⟨rfl, rfl⟩
  · left
    apply exactMembers_of_length (by decide) (by simpa using length)
    simp only [opaqueBytesShape, forall_mem_cons]
    exact ⟨⟨_, typed, rfl⟩, ⟨_, digest, rfl⟩, text _ (by decide), forall_mem_nil _⟩
  · right
    apply exactMembers_of_length (by decide) (by simpa using length)
    simp only [authzSystemReferenceShape, forall_mem_cons]
    exact ⟨⟨_, typed, rfl⟩, text _ (by decide), text _ (by decide), text _ (by decide),
      ⟨_, digest, rfl⟩, text _ (by decide), forall_mem_nil _⟩

/-- A deserialized envelope whose request has a preimage has its texts, others and a signature. -/
theorem exactMembers_of_signed {fields : List Field} {names : List String}
    {others : List (String × (Value → Prop))} {value raw : Value} (sorted : value.SortedKeys)
    (located : envelopeOf value = some raw)
    (deserialized : deserializeEnvelope fields raw = .ok ())
    (valued : (readSignatureBlock (fieldValue fields "signature" raw)).value.isSome)
    (signed : ∃ preimage, requestSigningPreimage value = .ok preimage)
    (same : (fields.map Field.name).Perm (names ++ (others.map Prod.fst ++ ["signature"])))
    (distinct : (fields.map Field.name).Nodup)
    (block : (fields.find? fun field => field.name = "signature") = some signatureField)
    (named : ∀ name ∈ names, (fields.find? fun field => field.name = name) = some (textField name))
    (present : ∀ entry ∈ others, ∃ member, raw.get entry.1 = some member ∧ entry.2 member) :
    ExactMembers (texts names ++ (others ++ [("signature", ExactMembers signatureShape)])) raw := by
  have checked := deserializeEnvelope_eq_ok.mp deserialized
  obtain ⟨_, signed⟩ := signed
  obtain ⟨again, _, relocated, held⟩ := signature_of_preimage signed
  cases located.symm.trans relocated
  obtain ⟨members, rfl, found⟩ := get_eq_some held
  have inside := sortedKeys_envelopeOf sorted located
  apply exactMembers_of_checkStruct inside checked (by simpa using same) distinct named
  refine forall_mem_append.mpr ⟨present, forall_mem_singleton.mpr ⟨_, found, ?_⟩⟩
  obtain ⟨_, again, passed⟩ := @required_of_checkStruct _ _ checked signatureField block rfl
  cases found.symm.trans again
  apply exactMembers_signature (inside.get held) passed
  rwa [fieldValue, found] at valued

/-! ## Accepted requests -/

section

variable [Crates] {rawBytes : Bytes} {resolver : TrustResolver} {config : VerificationConfig}
  {now : Int} {evidence : RequestEvidence}

theorem signed_of_checkClaims {value : Value} {claims : RequestClaims} {signature : SignatureBlock}
    {expires : Int}
    (checked : checkClaims value claims signature resolver config now = .ok expires) :
    signature.value.isSome ∧ ∃ preimage, requestSigningPreimage value = .ok preimage := by
  refine ⟨?_, (checkClaims_eq_ok checked).1⟩
  simp only [checkClaims, bind_eq_ok] at checked
  obtain ⟨_, _, _, block, _⟩ := checked
  exact checkSignatureBlock_eq_ok block

theorem shape_of_requestEvidence
    (collected : requestEvidence rawBytes resolver config now = .ok evidence) :
    ∃ message : MapValue, Crates.fromSlice rawBytes = some message ∧
      ∃ envelope, envelopeOf message.val = some envelope ∧
        ExactMembers requestEnvelopeShape envelope := by
  simp only [requestEvidence, extractRequestEnvelope, throw_eq_error, bind_error, bind_eq_ok,
    guard_eq_ok, mapError_eq_ok, locateEnvelope_eq_ok] at collected
  obtain ⟨_, parsed, _, _, _, ⟨_, located, _, deserialized, _, ⟨⟩⟩, _, _, _, checked, _⟩ := collected
  obtain ⟨message, read, rfl⟩ := parseMessage_eq_ok parsed
  obtain ⟨valued, signed⟩ := signed_of_checkClaims checked
  refine ⟨message, read, _, located, @exactMembers_of_signed _ _ [] _ _ message.property located
    deserialized valued signed (by decide) (by decide) rfl ?_ (forall_mem_nil _)⟩
  simp only [forall_mem_cons]
  exact ⟨rfl, rfl, rfl, rfl, rfl, rfl, rfl, rfl, forall_mem_nil _⟩

theorem shape_of_requestEvidenceDraft02
    (collected : requestEvidenceDraft02 rawBytes resolver config now = .ok evidence) :
    ∃ message : MapValue, Crates.fromSlice rawBytes = some message ∧
      ∃ envelope, envelopeOf message.val = some envelope ∧
        ExactMembers draft02RequestEnvelopeShape envelope := by
  simp only [requestEvidenceDraft02, extractDraft02RequestEnvelope, bind_eq_ok, mapError_eq_ok,
    locateEnvelope_eq_ok] at collected
  obtain ⟨_, parsed, _, _, _, ⟨_, located, _, _, _, _, _, bound, _, deserialized, ⟨⟩⟩, _, checked,
    _⟩ := collected
  obtain ⟨message, read, rfl⟩ := parseMessage_eq_ok parsed
  obtain ⟨valued, signed⟩ := signed_of_checkClaims checked
  refine ⟨message, read, _, located, @exactMembers_of_signed _ _ [("authorization_binding", IsBinding)]
    _ _ message.property located deserialized valued signed (by decide) (by decide) rfl ?_
    (forall_mem_singleton.mpr (isBinding_of_check bound))⟩
  simp only [forall_mem_cons]
  exact ⟨rfl, rfl, rfl, rfl, rfl, rfl, rfl, rfl, forall_mem_nil _⟩

/-- The envelope of a request that a profile accepts has exactly the shape of the profile. -/
theorem acceptedEnvelope_shape {σ : Type} [ReplayCache σ] (rawBytes : Bytes)
    (resolver : TrustResolver) (replay : σ) (config : VerificationConfig) (now : Int) :
    (∀ verified, (verifyRequest rawBytes resolver replay config now).1 = .ok verified →
      ∃ message : MapValue, Crates.fromSlice rawBytes = some message ∧
        ∃ envelope, envelopeOf message.val = some envelope ∧
          ExactMembers requestEnvelopeShape envelope) ∧
    ∀ verified, (verifyRequestDraft02 rawBytes resolver replay config now).1 = .ok verified →
      ∃ message : MapValue, Crates.fromSlice rawBytes = some message ∧
        ∃ envelope, envelopeOf message.val = some envelope ∧
          ExactMembers draft02RequestEnvelopeShape envelope := by
  constructor
  · intro verified accepted
    rcases evidence_of_accepted accepted with ⟨evidence, collected, _⟩
    exact shape_of_requestEvidence collected
  · intro verified accepted
    rcases evidence_of_accepted accepted with ⟨evidence, collected, _⟩
    exact shape_of_requestEvidenceDraft02 collected

end

end Mcps
