import Mcps.Lib.Json

/-!
# Wire vocabulary and error taxonomy

The frozen identifiers of the security profile, its error taxonomy with the wire
tokens, and the data every layer works on: the JSON values of the `serde_json`
crate and the functions of the third-party crates the code calls.
-/

namespace Mcps

/-! ## Identifiers -/

def requestMetaKey : String := "se.syncom/mcps.request"
def responseMetaKey : String := "se.syncom/mcps.response"
def verifiedMetaKey : String := "se.syncom/mcps.verified"
def authorizationMetaKey : String := "se.syncom/mcps.authorization"
def versionDraft01 : String := "draft-01"
def versionDraft02 : String := "draft-02"
def canonicalizationIdInt53V1 : String := "mcps-jcs-int53-json-v1"
def draft02CanonicalizationAllowlist : List String := [canonicalizationIdInt53V1]
def sigAlgEd25519 : String := "Ed25519"
def bindingTypeOpaqueBytes : String := "opaque-bytes"
def bindingTypeAuthzSystemReference : String := "authz-system-reference"
def digestAlgSha256 : String := "sha256"
def responseWrapValueKey : String := "value"
def responseWrapInnerErrorKey : String := "inner_error"
def observabilityMetaKeys : List String := ["traceparent", "tracestate", "baggage"]

/-! ## Errors -/

/-- The frozen `mcps.*` error taxonomy. -/
inductive McpsError where
  | missingEnvelope
  | unsupportedVersion
  | invalidSignature
  | canonicalizationFailed
  | expiredRequest
  | replayDetected
  | invalidAudience
  | actorBindingFailed
  | transportBindingFailed
  | authorizationHashMissing
  | onBehalfOfMissing
  | onBehalfOfInvalidFormat
  | responseSigInvalid
  | responseHashMismatch
  | downgradeForbidden
  | batchForbidden
  | notificationForbidden
  | unknownEnvelopeField
  | trustResolverUnavailable
  | replayCacheUnavailable
  | canonicalizationIdMissing
  | canonicalizationIdUnknown
  | canonicalizationIdNotAllowed
  | canonicalizationIdMismatch
  | authorizationBindingMissing
  | authorizationBindingTypeUnsupported
  | authorizationBindingMalformed
  | authorizationBindingProfileRequired
  | authorizationBindingAmbiguousBytes
  deriving DecidableEq, Repr

/-- The bare wire token of an error. -/
def McpsError.wireCode : McpsError → String
  | .missingEnvelope => "mcps.missing_envelope"
  | .unsupportedVersion => "mcps.unsupported_version"
  | .invalidSignature => "mcps.invalid_signature"
  | .canonicalizationFailed => "mcps.canonicalization_failed"
  | .expiredRequest => "mcps.expired_request"
  | .replayDetected => "mcps.replay_detected"
  | .invalidAudience => "mcps.invalid_audience"
  | .actorBindingFailed => "mcps.actor_binding_failed"
  | .transportBindingFailed => "mcps.transport_binding_failed"
  | .authorizationHashMissing => "mcps.authorization_hash_missing"
  | .onBehalfOfMissing => "mcps.on_behalf_of_missing"
  | .onBehalfOfInvalidFormat => "mcps.on_behalf_of_invalid_format"
  | .responseSigInvalid => "mcps.response_sig_invalid"
  | .responseHashMismatch => "mcps.response_hash_mismatch"
  | .downgradeForbidden => "mcps.downgrade_forbidden"
  | .batchForbidden => "mcps.batch_forbidden"
  | .notificationForbidden => "mcps.notification_forbidden"
  | .unknownEnvelopeField => "mcps.unknown_envelope_field"
  | .trustResolverUnavailable => "mcps.trust_resolver_unavailable"
  | .replayCacheUnavailable => "mcps.replay_cache_unavailable"
  | .canonicalizationIdMissing => "mcps.canonicalization_id_missing"
  | .canonicalizationIdUnknown => "mcps.canonicalization_id_unknown"
  | .canonicalizationIdNotAllowed => "mcps.canonicalization_id_not_allowed"
  | .canonicalizationIdMismatch => "mcps.canonicalization_id_mismatch"
  | .authorizationBindingMissing => "mcps.authorization_binding_missing"
  | .authorizationBindingTypeUnsupported => "mcps.authorization_binding_type_unsupported"
  | .authorizationBindingMalformed => "mcps.authorization_binding_malformed"
  | .authorizationBindingProfileRequired => "mcps.authorization_binding_profile_required"
  | .authorizationBindingAmbiguousBytes => "mcps.authorization_binding_ambiguous_bytes"

/-! ## JSON values of the `serde_json` crate -/

/-- A `serde_json::Number`: an unsigned 64-bit integer, a negative signed 64-bit
integer, or a finite double given by its bits. -/
inductive Number where
  | posInt (value : Nat) (bounded : value < 2 ^ 64)
  | negInt (value : Int) (bounded : -2 ^ 63 ≤ value ∧ value < 0)
  | float (bits : UInt64)
  deriving DecidableEq, Repr

/-- `Number::as_i64`. -/
def Number.asI64 : Number → Option Int
  | .posInt value _ => if value < 2 ^ 63 then some value else none
  | .negInt value _ => some value
  | .float _ => none

/-- `Number::as_u64`. -/
def Number.asU64 : Number → Option Nat
  | .posInt value _ => some value
  | .negInt _ _ => none
  | .float _ => none

/-- The tree of a `serde_json::Value`. -/
abbrev Value := Json Number

/-- A `serde_json::Value` as the crate can hold it.  Its maps are search trees, so
every object has its members in key order and no key twice; equality of two such
trees is equality as JSON values. -/
abbrev MapValue := { value : Value // value.SortedKeys }

/-- A number with the sign of a float zero dropped. -/
def Number.unsignedZero : Number → Number
  | .float bits => if bits = 0x8000000000000000 then .float 0 else .float bits
  | other => other

/-- Equality of two values as the crate compares them: by kind and content, and doubles
as numbers, so that the two zeros are equal. -/
def SameValue (left right : Value) : Prop :=
  left.mapNumbers Number.unsignedZero = right.mapNumbers Number.unsignedZero

instance (left right : Value) : Decidable (SameValue left right) :=
  inferInstanceAs (Decidable (_ = _))

/-! ## Third-party crates -/

/-- The functions of other crates that the code calls, by their documented
signatures: JSON reading and writing (`serde_json`), the SHA-256 digest (`sha2`),
unpadded base64url (`base64`) and strict Ed25519 verification (`ed25519-dalek`). -/
class Crates where
  /-- `serde_json::from_slice::<Value>`. -/
  fromSlice : Bytes → Option MapValue
  /-- `serde_json::to_vec`. -/
  toVec : Value → Option Bytes
  /-- `Value::to_string`, the compact JSON text. -/
  valueToString : Value → String
  /-- `Sha256::digest`. -/
  sha256 : Bytes → Bytes
  /-- Unpadded base64url encoding. -/
  b64urlEncode : Bytes → String
  /-- Unpadded base64url decoding. -/
  b64urlDecode : String → Option Bytes
  /-- `VerifyingKey::verify_strict` of a message and a 64-byte signature. -/
  verifyStrict : (key message signature : Bytes) → Bool

end Mcps
