import Mcps.Core.Pipeline

/-!
# Errors and results on the wire

A refused request is answered with an unsigned JSON-RPC error object; Core and the
authorization policy render it alike.  A verified response carries its payload in
`result` next to the envelope, under a wrapper key when the inner server's outcome was
not an object; `unwrapVerifiedResult` takes the payload back out.
-/

namespace Mcps

/-! ## Error objects -/

/-- Why the authorization policy denied a request. -/
inductive PolicyError where
  | authorizationBlockMissing
  | authorizationHashMismatch
  | authorizationProfileUnsupported
  | authorizationMalformed
  | authorizationSignatureInvalid
  | authorizationSignerMismatch
  | authorizationSubjectMismatch
  | authorizationAudienceMismatch
  | authorizationExpired
  | authorizationRevoked
  | authorizationRevocationUnavailable
  | authorizationScopeDenied
  | authorizationBindingProfileRequired
  deriving DecidableEq, Repr

def PolicyError.wireCode : PolicyError → String
  | .authorizationBlockMissing => "mcps.authorization_block_missing"
  | .authorizationHashMismatch => "mcps.authorization_hash_mismatch"
  | .authorizationProfileUnsupported => "mcps.authorization_profile_unsupported"
  | .authorizationMalformed => "mcps.authorization_malformed"
  | .authorizationSignatureInvalid => "mcps.authorization_signature_invalid"
  | .authorizationSignerMismatch => "mcps.authorization_signer_mismatch"
  | .authorizationSubjectMismatch => "mcps.authorization_subject_mismatch"
  | .authorizationAudienceMismatch => "mcps.authorization_audience_mismatch"
  | .authorizationExpired => "mcps.authorization_expired"
  | .authorizationRevoked => "mcps.authorization_revoked"
  | .authorizationRevocationUnavailable => "mcps.authorization_revocation_unavailable"
  | .authorizationScopeDenied => "mcps.authorization_scope_denied"
  | .authorizationBindingProfileRequired => "mcps.authorization_binding_profile_required"

inductive AuthorizationDecision where
  | allow
  | deny (error : PolicyError)
  deriving DecidableEq, Repr

/-- The error object for a wire token of a policy, bound to a request id. -/
def errorObject (policy code : String) (id : Value) : Value :=
  .object [
    ("error", .object [
      ("code", .number (.negInt (-32003) (by decide))),
      ("data", .object [("details", .string code), ("mcps_error", .string code),
        ("policy", .string policy), ("retryable", .bool false)]),
      ("message", .string code)]),
    ("id", id),
    ("jsonrpc", .string "2.0")]

theorem sortedKeys_errorObject (policy code : String) {id : Value} (sorted : id.SortedKeys) :
    (errorObject policy code id).SortedKeys := by
  simp [errorObject, Assoc.Ordered, sorted]
  decide

/-- The literal that stands in for an error object that does not serialize. -/
def fallbackErrorBytes : Bytes :=
  textBytes "\x7b\"jsonrpc\":\"2.0\",\"id\":null,\"error\":\x7b\"code\":-32603\x7d\x7d"

section

variable [Crates]

/-- The bytes of an error object. -/
def errorBytes (policy code : String) (id : Value) : Bytes :=
  (Crates.toVec (errorObject policy code id)).getD fallbackErrorBytes

def jsonRpcErrorObject (error : McpsError) (id : Value) : Bytes :=
  errorBytes "core" error.wireCode id

def jsonRpcAuthorizationError (error : PolicyError) (id : Value) : Bytes :=
  errorBytes "authorization" error.wireCode id

/-- The bytes of a JSON-RPC error: an object with an `error` member and no `result` that
could carry an envelope. -/
def ErrorBytes (bytes : Bytes) : Prop :=
  ∃ object : MapValue, Crates.toVec object.val = some bytes ∧
    (object.val.get "error").isSome ∧ object.val.get "result" = none

/-- An unsigned JSON-RPC error object, or the literal in place of one. -/
def UnsignedError (bytes : Bytes) : Prop := ErrorBytes bytes ∨ bytes = fallbackErrorBytes

theorem unsignedError_errorBytes (policy code : String) {id : Value} (sorted : id.SortedKeys) :
    UnsignedError (errorBytes policy code id) := by
  unfold errorBytes
  cases written : Crates.toVec (errorObject policy code id) with
  | none => exact .inr rfl
  | some bytes =>
    exact .inl ⟨⟨_, sortedKeys_errorObject policy code sorted⟩, written, rfl, rfl⟩

end

/-! ## Unwrapping -/

/-- The payload of a verified result. -/
inductive UnwrappedResult where
  | object (payload : Value)
  | scalar (value : Value)
  | innerError (error : Value)
  deriving DecidableEq

/-- The payload as one value, whatever its kind. -/
def UnwrappedResult.intoValue : UnwrappedResult → Value
  | .object payload => payload
  | .scalar value => value
  | .innerError error => error

/-- Recognise the wrapper of a scalar or of an inner error by its being the only member. -/
def unwrapPayload : List (String × Value) → UnwrappedResult
  | [(key, value)] =>
    if key = responseWrapValueKey then .scalar value
    else if key = responseWrapInnerErrorKey then .innerError value
    else .object (.object [(key, value)])
  | payload => .object (.object payload)

/-- Take the payload out of a verified result, without its `_meta`. -/
def unwrapVerifiedResult : Value → Except McpsError UnwrappedResult
  | .object members => .ok (unwrapPayload (Assoc.erase "_meta" members))
  | _ => .error .canonicalizationFailed

end Mcps
