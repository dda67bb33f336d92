import Mcps.Core.EnvelopeShape

/-!
# What a missing principal is reported as

Deserialization reports the first field it misses and no more.  For draft-01 the extraction
therefore looks at the envelope again and gives a missing authorization hash, and after it a
missing principal, an error of its own.  For draft-02 it looks again for the authorization
binding alone, which was checked before.  A missing principal stays a generic failure there.
-/

namespace Mcps

open List Option Except Json Assoc

/-! ## Deserialization of known members -/

/-- The members of an envelope and of its signature block are all among the fields. -/
structure KnownMembers (fields : List Field) (members : List (String × Value)) : Prop where
  envelope : ∀ member ∈ members, member.1 ∈ fields.map Field.name
  signature : ∀ block, ("signature", Json.object block) ∈ members →
    ∀ member ∈ block, member.1 ∈ signatureFields.map Field.name

section

variable {fields : List Field} {members : List (String × Value)}

variable (value : Value)

theorem failsWith_checkText : (checkText value).FailsWith .other := by
  cases value with
  | string text => exact failsWith_ok _ _
  | _ => exact failsWith_error _

theorem failsWith_checkOptionalText : (checkOptionalText value).FailsWith .other := by
  cases value with
  | null | string _ => exact failsWith_ok _ _
  | _ => exact failsWith_error _

theorem failsWith_checkBinding : (checkBinding value).FailsWith .other := by
  apply Except.FailsWith.bind (failsWith_okOr _ _)
  intro bindingType
  apply Except.FailsWith.bind (failsWith_okOr _ _)
  intro names
  exact Except.FailsWith.ite (failsWith_ok _ _) (failsWith_error _)

theorem failsWith_checkItems (each : ∀ field ∈ fields, ∀ value, (field.check value).FailsWith .other)
    (items : List Value) : (checkItems fields items).FailsWith .other := by
  induction fields generalizing items with
  | nil => cases items <;> first | exact failsWith_ok _ _ | exact failsWith_error _
  | cons field fields ih =>
    rw [forall_mem_cons] at each
    cases items with
    | nil => exact failsWith_error _
    | cons item items =>
      apply Except.FailsWith.bind (each.1 item)
      intro _
      exact ih each.2 items

theorem failsWith_checkMembers (known : ∀ member ∈ members, member.1 ∈ fields.map Field.name)
    (each : ∀ member ∈ members, ∀ field ∈ fields, field.name = member.1 →
      (field.check member.2).FailsWith .other) :
    (checkMembers fields members).FailsWith .other := by
  induction members with
  | nil => exact failsWith_ok _ _
  | cons member members ih =>
    rw [forall_mem_cons] at known each
    obtain ⟨candidate, listed, named⟩ := mem_map.mp known.1
    cases found : fields.find? fun field => field.name = member.1 with
    | none =>
      have other := find?_eq_none.mp found candidate listed
      simp [named] at other
    | some field =>
      have isNamed : field.name = member.1 := by simpa using find?_some found
      simp only [checkMembers, found, okOr_some, bind_ok]
      apply Except.FailsWith.bind
      · exact each.1 field (mem_of_find?_eq_some found) isNamed
      · intro _
        exact ih known.2 each.2

theorem failsWith_checkStruct (known : ∀ member ∈ members, member.1 ∈ fields.map Field.name)
    (each : ∀ member ∈ members, ∀ field ∈ fields, field.name = member.1 →
      (field.check member.2).FailsWith .other) :
    (checkStruct fields (.object members)).FailsWith .other := by
  apply Except.FailsWith.bind (failsWith_checkMembers known each)
  intro _
  exact Except.FailsWith.ite (failsWith_ok _ _) (failsWith_error _)

theorem failsWith_checkSignature
    (known : ∀ block, value = .object block →
      ∀ member ∈ block, member.1 ∈ signatureFields.map Field.name) :
    (checkStruct signatureFields value).FailsWith .other := by
  have each : ∀ field ∈ signatureFields, ∀ value, (field.check value).FailsWith .other := by
    simp only [signatureFields, forall_mem_cons]
    exact ⟨failsWith_checkText, failsWith_checkText, failsWith_checkOptionalText, nofun⟩
  cases value with
  | object block =>
    apply failsWith_checkStruct (known block rfl)
    intro member _ field listed _
    exact each field listed member.2
  | array items => exact failsWith_checkItems each items
  | _ => exact failsWith_error _

/-- A field of an envelope: a text, the authorization binding or the signature block. -/
def EnvelopeField (field : Field) : Prop :=
  (∀ value, (field.check value).FailsWith .other) ∨ field = signatureField

theorem deserializeEnvelope_missing (fieldsOf : ∀ field ∈ fields, EnvelopeField field)
    (known : KnownMembers fields members) {name : String}
    (required : textField name ∈ fields) (absent : find? name members = none) :
    deserializeEnvelope fields (.object members) = .error .canonicalizationFailed := by
  have fails : (checkStruct fields (.object members)).FailsWith .other := by
    apply failsWith_checkStruct known.envelope
    intro member held field listed named
    rcases fieldsOf field listed with plain | rfl
    · exact plain member.2
    · apply failsWith_checkSignature
      intro block same
      apply known.signature block
      rw [← same, show "signature" = member.1 from named]
      exact held
  have incomplete : checkStruct fields (.object members) ≠ .ok () := by
    intro checked
    obtain ⟨_, _, complete⟩ := bind_eq_ok.mp checked
    split at complete
    next every =>
      have present := all_eq_true.mp every _ required
      simp [textField, absent] at present
    next => cases complete
  cases checked : checkStruct fields (.object members) with
  | ok _ => exact absurd checked incomplete
  | error failure =>
    rw [deserializeEnvelope, checked, fails failure checked]

end

theorem envelopeField_text (name : String) : EnvelopeField (textField name) :=
  .inl failsWith_checkText

theorem envelopeFields_request : ∀ field ∈ requestEnvelopeFields, EnvelopeField field := by
  simp only [requestEnvelopeFields, forall_mem_cons]
  exact ⟨envelopeField_text _, envelopeField_text _, envelopeField_text _, envelopeField_text _,
    envelopeField_text _, envelopeField_text _, envelopeField_text _, envelopeField_text _,
    .inr rfl, nofun⟩

theorem envelopeFields_draft02Request :
    ∀ field ∈ draft02RequestEnvelopeFields, EnvelopeField field := by
  simp only [draft02RequestEnvelopeFields, forall_mem_cons]
  exact ⟨envelopeField_text _, envelopeField_text _, envelopeField_text _, envelopeField_text _,
    envelopeField_text _, .inl failsWith_checkBinding, envelopeField_text _, envelopeField_text _,
    envelopeField_text _, .inr rfl, nofun⟩

/-! ## Bindings -/

variable {members : List (String × Value)}

theorem requiredBindingMembers_opaqueBytes
    (names : (members.map Prod.fst).Perm (opaqueBytesShape.map Prod.fst)) :
    requiredBindingMembers bindingTypeOpaqueBytes members =
      .ok (opaqueBytesShape.map Prod.fst) := by
  have foreign : ∀ key ∈ ["authorization_system_id", "reference_scheme_id", "reference_value"],
      (find? key members).isSome = false := by
    intro key listed
    rw [isSome_eq_false_iff, isNone_iff_eq_none, find?_eq_none_iff]
    rintro entry held rfl
    have inShape := names.mem_iff.mp (mem_map_of_mem held)
    revert listed inShape
    generalize entry.1 = key
    intro listed inShape
    simp only [opaqueBytesShape, map_cons, map_nil, mem_cons, not_mem_nil, or_false] at inShape
    rcases inShape with rfl | rfl | rfl <;> revert listed <;> decide
  rw [requiredBindingMembers, if_pos rfl, if_neg]
  · rfl
  · simpa using foreign

theorem checkAuthorizationBinding_of_members {raw : Value} {bindingType : String}
    {names : List String} (held : raw.get "authorization_binding" = some (.object members))
    (typed : find? "binding_type" members = some (.string bindingType))
    (required : requiredBindingMembers bindingType members = .ok names)
    (length : members.length = names.length)
    (present : ∀ name ∈ names, ∃ member, find? name members = some member ∧
      IsNonEmptyText member)
    (digest : find? "digest_alg" members = some (.string digestAlgSha256)) :
    checkAuthorizationBinding raw = .ok () := by
  have nonEmpty : (names.all fun name =>
      ((find? name members).bind asStr).any fun text => !text.isEmpty) = true := by
    rw [List.all_eq_true]
    intro name listed
    obtain ⟨_, found, text, rfl, notEmpty⟩ := present name listed
    simp [found, asStr, notEmpty]
  simp only [checkAuthorizationBinding, held, okOr_some, bind_ok,
    asObject_object, bind_asStr_eq_some.mpr typed, required, length, nonEmpty,
    bind_asStr_eq_some.mpr digest]
  simp

theorem isNonEmptyText_string {text : String} (notEmpty : text ≠ "") :
    IsNonEmptyText (.string text) :=
  ⟨text, rfl, notEmpty⟩

theorem checkAuthorizationBinding_of_isBinding {raw binding : Value}
    (held : raw.get "authorization_binding" = some binding) (bound : IsBinding binding) :
    checkAuthorizationBinding raw = .ok () := by
  rcases bound with ⟨members, rfl, names, present⟩ | ⟨members, rfl, names, present⟩
  · have length : members.length = (opaqueBytesShape.map Prod.fst).length := by
      simpa using names.length_eq
    simp only [opaqueBytesShape, forall_mem_cons] at present
    obtain ⟨⟨_, typed, rfl⟩, ⟨_, digest, rfl⟩, value, _⟩ := present
    apply checkAuthorizationBinding_of_members held typed
      (requiredBindingMembers_opaqueBytes names) length _ digest
    simp only [opaqueBytesShape, map_cons, forall_mem_cons]
    exact ⟨⟨_, typed, isNonEmptyText_string (by decide)⟩,
      ⟨_, digest, isNonEmptyText_string (by decide)⟩, value, forall_mem_nil _⟩
  · have length : members.length = (authzSystemReferenceShape.map Prod.fst).length := by
      simpa using names.length_eq
    simp only [authzSystemReferenceShape, forall_mem_cons] at present
    obtain ⟨⟨_, typed, rfl⟩, system, scheme, reference, ⟨_, digest, rfl⟩, value, _⟩ := present
    apply checkAuthorizationBinding_of_members held typed rfl length _ digest
    simp only [forall_mem_cons]
    exact ⟨⟨_, typed, isNonEmptyText_string (by decide)⟩, system, scheme, reference,
      ⟨_, digest, isNonEmptyText_string (by decide)⟩, value, forall_mem_nil _⟩

/-! ## The principal -/

/-- A request whose draft-02 envelope has everything that is looked at before it is
deserialized, and no member that is not known. -/
structure PresentsDraft02 (request : Value) (members : List (String × Value)) : Prop where
  located : envelopeOf request = some (.object members)
  version : Assoc.find? "version" members = some (.string versionDraft02)
  canonicalization : ∃ id ∈ draft02CanonicalizationAllowlist,
    Assoc.find? "canonicalization_id" members = some (.string id)
  binding : ∃ binding, Assoc.find? "authorization_binding" members = some binding ∧
    IsBinding binding
  known : KnownMembers draft02RequestEnvelopeFields members

/-- A request whose draft-01 envelope has an authorization hash, and no member that is not
known. -/
structure PresentsDraft01 (request : Value) (members : List (String × Value)) : Prop where
  located : envelopeOf request = some (.object members)
  authorizationHash : (Assoc.find? "authorization_hash" members).isSome
  known : KnownMembers requestEnvelopeFields members

section

variable {request : Value} {members : List (String × Value)}

theorem extractRequestEnvelope_missingPrincipal (presents : PresentsDraft01 request members)
    (absent : find? "on_behalf_of" members = none) :
    extractRequestEnvelope request = .error .onBehalfOfMissing := by
  have failed := deserializeEnvelope_missing envelopeFields_request presents.known
    (show textField "on_behalf_of" ∈ requestEnvelopeFields by simp [requestEnvelopeFields]) absent
  obtain ⟨_, found⟩ := isSome_iff_exists.mp presents.authorizationHash
  have classified : classifyRequestEnvelopeError (.object members) .canonicalizationFailed =
      .onBehalfOfMissing := by
    simp [classifyRequestEnvelopeError, classifyMissing, found, absent]
  rw [extractRequestEnvelope, locateEnvelope_eq_ok.mpr presents.located, bind_ok, failed,
    Except.mapError, classified]
  rfl

theorem extractDraft02RequestEnvelope_missingPrincipal (presents : PresentsDraft02 request members)
    (absent : find? "on_behalf_of" members = none) :
    extractDraft02RequestEnvelope request = .error .canonicalizationFailed := by
  have failed := deserializeEnvelope_missing envelopeFields_draft02Request presents.known
    (show textField "on_behalf_of" ∈ draft02RequestEnvelopeFields by
      simp [draft02RequestEnvelopeFields]) absent
  obtain ⟨_, allowed, identified⟩ := presents.canonicalization
  obtain ⟨_, held, bound⟩ := presents.binding
  have version : requireDraft02Version (.object members) = .ok () :=
    requireDraft02Version_eq_ok.mpr (bind_asStr_eq_some.mpr presents.version)
  have canonicalization : checkCanonicalizationId (.object members) = .ok () := by
    rw [checkCanonicalizationId, get_object, bind_asStr_eq_some.mpr identified]
    exact if_pos allowed
  have binds : checkAuthorizationBinding (.object members) = .ok () :=
    checkAuthorizationBinding_of_isBinding held bound
  have classified : classifyDraft02RequestEnvelopeError (.object members)
      .canonicalizationFailed = .canonicalizationFailed := by
    simp [classifyDraft02RequestEnvelopeError, classifyMissing, held]
  rw [extractDraft02RequestEnvelope, locateEnvelope_eq_ok.mpr presents.located, bind_ok,
    version, canonicalization, binds, failed,
    Except.mapError, classified]
  rfl

end

/-- The extraction of the profile reports a missing principal as such. -/
def ReportsPrincipal {envelope : Type} (extracted : Except McpsError envelope)
    (members : List (String × Value)) : Prop :=
  Assoc.find? "on_behalf_of" members = none → extracted = .error .onBehalfOfMissing

/-- For draft-01 a missing principal is reported as such.  For draft-02 it never is: the
extraction keeps to that only where the principal is there. -/
theorem missingPrincipal_reported_iff (request : Value) (members : List (String × Value)) :
    (PresentsDraft01 request members →
      ReportsPrincipal (extractRequestEnvelope request) members) ∧
    (PresentsDraft02 request members →
      (ReportsPrincipal (extractDraft02RequestEnvelope request) members ↔
        (Assoc.find? "on_behalf_of" members).isSome)) := by
  constructor
  · intro presents absent
    exact extractRequestEnvelope_missingPrincipal presents absent
  · intro presents
    constructor
    · intro reports
      by_contra missing
      have absent : Assoc.find? "on_behalf_of" members = none := by simpa using missing
      have failed := extractDraft02RequestEnvelope_missingPrincipal presents absent
      cases failed.symm.trans (reports absent)
    · intro present absent
      rw [absent] at present
      cases present

/-! ## An envelope without a principal -/

/-- A request with some envelope and nothing else. -/
def requestAround (members : List (String × Value)) : Value :=
  .object [("params", .object [("_meta", .object [(requestMetaKey, .object members)])])]

/-- A draft-02 envelope that lacks its principal alone. -/
def draft02WithoutPrincipal : List (String × Value) := [
  ("audience", .string "did:example:server-1"),
  ("authorization_binding", .object [("binding_type", .string bindingTypeOpaqueBytes),
    ("digest_alg", .string digestAlgSha256), ("digest_value", .string "digest")]),
  ("canonicalization_id", .string canonicalizationIdInt53V1),
  ("expires_at", .string "2026-05-28T20:05:00Z"),
  ("issued_at", .string "2026-05-28T20:00:00Z"),
  ("nonce", .string "nonce-1"),
  ("signature", .object [("alg", .string sigAlgEd25519), ("key_id", .string "key-1"),
    ("value", .string "signature")]),
  ("signer", .string "did:example:agent-1"),
  ("version", .string versionDraft02)]

theorem presentsDraft02_withoutPrincipal :
    PresentsDraft02 (requestAround draft02WithoutPrincipal) draft02WithoutPrincipal := by
  refine ⟨rfl, rfl, ⟨_, mem_singleton_self _, rfl⟩, ⟨_, rfl, .inl ⟨_, rfl, .refl _, ?_⟩⟩, ?_, ?_⟩
  · simp only [opaqueBytesShape, forall_mem_cons]
    exact ⟨⟨_, rfl, rfl⟩, ⟨_, rfl, rfl⟩, ⟨_, rfl, isNonEmptyText_string (by decide)⟩,
      forall_mem_nil _⟩
  · decide
  · intro block held
    simp [draft02WithoutPrincipal] at held
    rw [held]
    decide

/-- The envelope that lacks its principal alone is a generic failure for draft-02. -/
theorem missingPrincipal_unreported :
    PresentsDraft02 (requestAround draft02WithoutPrincipal) draft02WithoutPrincipal ∧
      Assoc.find? "on_behalf_of" draft02WithoutPrincipal = none ∧
      extractDraft02RequestEnvelope (requestAround draft02WithoutPrincipal) =
        .error .canonicalizationFailed :=
  ⟨presentsDraft02_withoutPrincipal, rfl,
    extractDraft02RequestEnvelope_missingPrincipal presentsDraft02_withoutPrincipal rfl⟩

end Mcps
