import Mcps.Core.Signing

/-!
# Envelopes and their extraction

The signed envelopes, the deserialization their `serde` derives generate, and the
fail-closed shape constraints that locate an envelope in a message and read it.

A derived struct is read from an object member by member in key order, or from an
array position by position; an unknown member is reported before its value is looked
at, and a missing field only after all members were read.  `checkStruct` follows that
order for any list of fields, so that the first failure is the one the code reports.
-/

namespace Mcps

open Assoc

/-! ## Envelope structures -/

structure SignatureBlock where
  alg : String
  keyId : String
  value : Option String
  deriving DecidableEq, Repr

structure RequestEnvelope where
  version : String
  signer : String
  onBehalfOf : String
  audience : String
  authorizationHash : String
  nonce : String
  issuedAt : String
  expiresAt : String
  signature : SignatureBlock
  deriving DecidableEq, Repr

structure ResponseEnvelope where
  requestHash : String
  serverSigner : String
  issuedAt : String
  signature : SignatureBlock
  deriving DecidableEq, Repr

/-- The typed authorization commitment of a draft-02 request. -/
inductive AuthorizationBinding where
  | opaqueBytes (digestAlg digestValue : String)
  | authzSystemReference (authorizationSystemId referenceSchemeId referenceValue digestAlg
      digestValue : String)
  deriving DecidableEq, Repr

structure Draft02RequestEnvelope where
  version : String
  canonicalizationId : String
  signer : String
  onBehalfOf : String
  audience : String
  authorizationBinding : AuthorizationBinding
  nonce : String
  issuedAt : String
  expiresAt : String
  signature : SignatureBlock
  deriving DecidableEq, Repr

structure Draft02ResponseEnvelope where
  version : String
  canonicalizationId : String
  requestHash : String
  serverSigner : String
  issuedAt : String
  signature : SignatureBlock
  deriving DecidableEq, Repr

/-! ## Derived deserialization -/

/-- What the code can tell apart about a failed deserialization: whether the message
starts with `unknown field`. -/
inductive DecodeError where
  | unknownField
  | other
  deriving DecidableEq, Repr

/-- A field of a derived struct: its name, whether it may be left out of an object,
and the values it accepts. -/
structure Field where
  name : String
  optional : Bool
  check : Value → Except DecodeError Unit

/-- The values of a `String` field. -/
def checkText : Value → Except DecodeError Unit
  | .string _ => .ok ()
  | _ => .error .other

/-- The values of an `Option<String>` field. -/
def checkOptionalText : Value → Except DecodeError Unit
  | .null | .string _ => .ok ()
  | _ => .error .other

def textField (name : String) : Field := ⟨name, false, checkText⟩

/-- Read the members of an object in key order. -/
def checkMembers (fields : List Field) : List (String × Value) → Except DecodeError Unit
  | [] => .ok ()
  | (key, value) :: rest => do
    let field ← (fields.find? fun field => field.name = key).okOr .unknownField
    field.check value
    checkMembers fields rest

/-- Read the elements of an array, one field each. -/
def checkItems : List Field → List Value → Except DecodeError Unit
  | [], [] => .ok ()
  | field :: fields, item :: items => do
    field.check item
    checkItems fields items
  | _, _ => .error .other

/-- Deserialize a value as a struct that denies unknown fields. -/
def checkStruct (fields : List Field) : Value → Except DecodeError Unit
  | .object members => do
    checkMembers fields members
    if fields.all fun field => field.optional || (Assoc.find? field.name members).isSome then
      .ok ()
    else .error .other
  | .array items => checkItems fields items
  | _ => .error .other

variable {fields : List Field} {members : List (String × Value)}

theorem check_of_checkMembers (checked : checkMembers fields members = .ok ()) {key : String}
    {value : Value} (member : (key, value) ∈ members) :
    ∃ field, (fields.find? fun field => field.name = key) = some field ∧
      field.check value = .ok () := by
  induction members with
  | nil => simp at member
  | cons first rest ih =>
    simp only [checkMembers, Except.bind_eq_ok] at checked
    obtain ⟨field, found, _, passed, checked⟩ := checked
    rcases List.mem_cons.mp member with rfl | inRest
    · exact ⟨field, Option.okOr_eq_ok.mp found, passed⟩
    · exact ih checked inRest

theorem required_of_checkStruct {fields : List Field} {members : List (String × Value)}
    (checked : checkStruct fields (.object members) = .ok ()) {field : Field}
    (named : (fields.find? fun candidate => candidate.name = field.name) = some field)
    (required : field.optional = false) :
    ∃ value, find? field.name members = some value ∧ field.check value = .ok () := by
  obtain ⟨_, inside, complete⟩ := Except.bind_eq_ok.mp checked
  have present : (find? field.name members).isSome := by
    by_cases every : fields.all fun field =>
        field.optional || (find? field.name members).isSome
    · have here := List.all_eq_true.mp every field (List.mem_of_find?_eq_some named)
      rwa [required] at here
    · rw [if_neg every] at complete
      cases complete
  obtain ⟨value, found⟩ := Option.isSome_iff_exists.mp present
  obtain ⟨_, sameName, passed⟩ := check_of_checkMembers inside (mem_of_find? found)
  cases named.symm.trans sameName
  exact ⟨value, found, passed⟩

/-- The value a deserialized struct got a field from. -/
def fieldValue (fields : List Field) (name : String) : Value → Value
  | .object members => (Assoc.find? name members).getD .null
  | .array items => (items[fields.findIdx fun field => field.name = name]?).getD .null
  | _ => .null

/-- The text of a deserialized `String` field. -/
def fieldText (fields : List Field) (raw : Value) (name : String) : String :=
  (fieldValue fields name raw).asStr.getD ""

theorem text_of_checkStruct (checked : checkStruct fields (.object members) = .ok ())
    {name : String}
    (named : (fields.find? fun field => field.name = name) = some (textField name)) :
    find? name members = some (.string (fieldText fields (.object members) name)) := by
  obtain ⟨value, found, passed⟩ := @required_of_checkStruct _ _ checked (textField name) named rfl
  change find? name members = some value at found
  cases value with
  | string text => simp [fieldText, fieldValue, found, Json.asStr]
  | _ => cases passed

def signatureFields : List Field :=
  [textField "alg", textField "key_id", ⟨"value", true, checkOptionalText⟩]

def signatureField : Field := ⟨"signature", false, checkStruct signatureFields⟩

/-- The signature block of a value that passed `checkStruct signatureFields`. -/
def readSignatureBlock (raw : Value) : SignatureBlock where
  alg := fieldText signatureFields raw "alg"
  keyId := fieldText signatureFields raw "key_id"
  value := (fieldValue signatureFields "value" raw).asStr

/-- The members an authorization binding of a given type is read from. -/
def bindingFieldNames (bindingType : String) : Option (List String) :=
  if bindingType = bindingTypeOpaqueBytes then some ["digest_alg", "digest_value"]
  else if bindingType = bindingTypeAuthzSystemReference then
    some ["authorization_system_id", "reference_scheme_id", "reference_value", "digest_alg",
      "digest_value"]
  else none

/-- Deserialize the internally tagged binding.  It is only reached with an object that
`checkAuthorizationBinding` accepted, so its sequence form is not modelled. -/
def checkBinding (raw : Value) : Except DecodeError Unit := do
  let bindingType ← ((raw.get "binding_type").bind Json.asStr).okOr .other
  let names ← (bindingFieldNames bindingType).okOr .other
  if names.all fun name => ((raw.get name).bind Json.asStr).isSome then .ok ()
  else .error .other

def readBinding (raw : Value) : AuthorizationBinding :=
  let text (name : String) : String := ((raw.get name).bind Json.asStr).getD ""
  if text "binding_type" = bindingTypeOpaqueBytes then
    .opaqueBytes (text "digest_alg") (text "digest_value")
  else
    .authzSystemReference (text "authorization_system_id") (text "reference_scheme_id")
      (text "reference_value") (text "digest_alg") (text "digest_value")

/-- The serialized authorization binding. -/
def bindingValue : AuthorizationBinding → Value
  | .opaqueBytes digestAlg digestValue => .object [
      ("binding_type", .string bindingTypeOpaqueBytes),
      ("digest_alg", .string digestAlg), ("digest_value", .string digestValue)]
  | .authzSystemReference authorizationSystemId referenceSchemeId referenceValue digestAlg
      digestValue => .object [
      ("authorization_system_id", .string authorizationSystemId),
      ("binding_type", .string bindingTypeAuthzSystemReference),
      ("digest_alg", .string digestAlg), ("digest_value", .string digestValue),
      ("reference_scheme_id", .string referenceSchemeId),
      ("reference_value", .string referenceValue)]

def requestEnvelopeFields : List Field :=
  [textField "version", textField "signer", textField "on_behalf_of", textField "audience",
    textField "authorization_hash", textField "nonce", textField "issued_at",
    textField "expires_at", signatureField]

def responseEnvelopeFields : List Field :=
  [textField "request_hash", textField "server_signer", textField "issued_at", signatureField]

def draft02RequestEnvelopeFields : List Field :=
  [textField "version", textField "canonicalization_id", textField "signer",
    textField "on_behalf_of", textField "audience",
    ⟨"authorization_binding", false, checkBinding⟩, textField "nonce", textField "issued_at",
    textField "expires_at", signatureField]

def draft02ResponseEnvelopeFields : List Field :=
  [textField "version", textField "canonicalization_id", textField "request_hash",
    textField "server_signer", textField "issued_at", signatureField]

/-- Deserialize a located envelope, telling unknown fields from every other failure. -/
def deserializeEnvelope (fields : List Field) (raw : Value) : Except McpsError Unit :=
  match checkStruct fields raw with
  | .ok () => .ok ()
  | .error .unknownField => .error .unknownEnvelopeField
  | .error .other => .error .canonicalizationFailed

theorem deserializeEnvelope_eq_ok {raw : Value} :
    deserializeEnvelope fields raw = .ok () ↔ checkStruct fields raw = .ok () := by
  unfold deserializeEnvelope
  split
  next checked => simp [checked]
  next checked => simp [checked]
  next checked => simp [checked]

/-! ## Shape constraints -/

def rejectBatch : Value → Except McpsError Unit
  | .array _ => .error .batchForbidden
  | _ => .ok ()

def rejectNotification (msg : Value) : Except McpsError Unit :=
  match msg.get "id" with
  | some .null | none => .error .notificationForbidden
  | some _ => .ok ()

def locateEnvelope (msg : Value) (outer metaKey : String) : Except McpsError Value :=
  (((msg.get outer).bind (Json.get "_meta")).bind (Json.get metaKey)).okOr .missingEnvelope

/-- Give a generic failure the dedicated token of the first required member it lacks. -/
def classifyMissing (required : List (String × McpsError)) (raw : Value) (original : McpsError) :
    McpsError :=
  if original ≠ .canonicalizationFailed then original
  else
    match raw with
    | .object members =>
      match required.find? fun entry => (Assoc.find? entry.1 members).isNone with
      | some (_, missing) => missing
      | none => original
    | _ => original

def classifyRequestEnvelopeError (raw : Value) (original : McpsError) : McpsError :=
  classifyMissing [("authorization_hash", .authorizationHashMissing),
    ("on_behalf_of", .onBehalfOfMissing)] raw original

def classifyDraft02RequestEnvelopeError (raw : Value) (original : McpsError) : McpsError :=
  classifyMissing [("authorization_binding", .authorizationBindingMissing)] raw original

/-- Read and version-check the draft-01 request envelope. -/
def extractRequestEnvelope (msg : Value) : Except McpsError RequestEnvelope := do
  let raw ← locateEnvelope msg "params" requestMetaKey
  (deserializeEnvelope requestEnvelopeFields raw).mapError (classifyRequestEnvelopeError raw)
  let text := fieldText requestEnvelopeFields raw
  if text "version" ≠ versionDraft01 then throw .unsupportedVersion
  return {
    version := text "version"
    signer := text "signer"
    onBehalfOf := text "on_behalf_of"
    audience := text "audience"
    authorizationHash := text "authorization_hash"
    nonce := text "nonce"
    issuedAt := text "issued_at"
    expiresAt := text "expires_at"
    signature := readSignatureBlock (fieldValue requestEnvelopeFields "signature" raw) }

/-- Read the draft-01 response envelope, which carries no version. -/
def extractResponseEnvelope (msg : Value) : Except McpsError ResponseEnvelope := do
  let raw ← locateEnvelope msg "result" responseMetaKey
  deserializeEnvelope responseEnvelopeFields raw
  let text := fieldText responseEnvelopeFields raw
  return {
    requestHash := text "request_hash"
    serverSigner := text "server_signer"
    issuedAt := text "issued_at"
    signature := readSignatureBlock (fieldValue responseEnvelopeFields "signature" raw) }

def requireDraft02Version (raw : Value) : Except McpsError Unit :=
  if (raw.get "version").bind Json.asStr = some versionDraft02 then .ok ()
  else .error .unsupportedVersion

theorem requireDraft02Version_eq_ok {raw : Value} :
    requireDraft02Version raw = .ok () ↔
      (raw.get "version").bind Json.asStr = some versionDraft02 := by
  unfold requireDraft02Version
  split <;> simp_all

def knownCanonicalizationSchemes : List String := [canonicalizationIdInt53V1]

def classifyCanonicalizationId (id : String) (allowlist known : List String) :
    Except McpsError Unit :=
  if id ∈ allowlist then .ok ()
  else if id ∈ known then .error .canonicalizationIdNotAllowed
  else .error .canonicalizationIdUnknown

def checkCanonicalizationId (raw : Value) : Except McpsError Unit :=
  match (raw.get "canonicalization_id").bind Json.asStr with
  | some id =>
    classifyCanonicalizationId id draft02CanonicalizationAllowlist knownCanonicalizationSchemes
  | none => .error .canonicalizationIdMissing

/-- The exact member names of an accepted binding, by its type. -/
def requiredBindingMembers (bindingType : String) (members : List (String × Value)) :
    Except McpsError (List String) :=
  if bindingType = bindingTypeOpaqueBytes then
    if ["authorization_system_id", "reference_scheme_id", "reference_value"].any fun key =>
        (Assoc.find? key members).isSome then
      .error .authorizationBindingAmbiguousBytes
    else .ok ["binding_type", "digest_alg", "digest_value"]
  else if bindingType = bindingTypeAuthzSystemReference then
    .ok ["binding_type", "authorization_system_id", "reference_scheme_id", "reference_value",
      "digest_alg", "digest_value"]
  else .error .authorizationBindingTypeUnsupported

def checkAuthorizationBinding (raw : Value) : Except McpsError Unit := do
  let binding ← (raw.get "authorization_binding").okOr .authorizationBindingMissing
  let members ← binding.asObject.okOr .authorizationBindingMalformed
  let bindingType ← ((Assoc.find? "binding_type" members).bind Json.asStr).okOr
    .authorizationBindingMalformed
  let required ← requiredBindingMembers bindingType members
  if members.length ≠ required.length then throw .authorizationBindingMalformed
  if !required.all fun key =>
      ((Assoc.find? key members).bind Json.asStr).any fun text => !text.isEmpty then
    throw .authorizationBindingMalformed
  if (Assoc.find? "digest_alg" members).bind Json.asStr ≠ some digestAlgSha256 then
    throw .authorizationBindingMalformed

/-- Read the draft-02 request envelope. -/
def extractDraft02RequestEnvelope (msg : Value) : Except McpsError Draft02RequestEnvelope := do
  let raw ← locateEnvelope msg "params" requestMetaKey
  requireDraft02Version raw
  checkCanonicalizationId raw
  checkAuthorizationBinding raw
  (deserializeEnvelope draft02RequestEnvelopeFields raw).mapError
    (classifyDraft02RequestEnvelopeError raw)
  let text := fieldText draft02RequestEnvelopeFields raw
  return {
    version := text "version"
    canonicalizationId := text "canonicalization_id"
    signer := text "signer"
    onBehalfOf := text "on_behalf_of"
    audience := text "audience"
    authorizationBinding := readBinding
      (fieldValue draft02RequestEnvelopeFields "authorization_binding" raw)
    nonce := text "nonce"
    issuedAt := text "issued_at"
    expiresAt := text "expires_at"
    signature := readSignatureBlock (fieldValue draft02RequestEnvelopeFields "signature" raw) }

/-- Read the draft-02 response envelope. -/
def extractDraft02ResponseEnvelope (msg : Value) : Except McpsError Draft02ResponseEnvelope := do
  let raw ← locateEnvelope msg "result" responseMetaKey
  requireDraft02Version raw
  checkCanonicalizationId raw
  deserializeEnvelope draft02ResponseEnvelopeFields raw
  let text := fieldText draft02ResponseEnvelopeFields raw
  return {
    version := text "version"
    canonicalizationId := text "canonicalization_id"
    requestHash := text "request_hash"
    serverSigner := text "server_signer"
    issuedAt := text "issued_at"
    signature := readSignatureBlock (fieldValue draft02ResponseEnvelopeFields "signature" raw) }

end Mcps
