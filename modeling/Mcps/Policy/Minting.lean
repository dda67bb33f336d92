import Mcps.Core.RawValue
import Mcps.Policy.UnreadMembers

/-!
# Minted grants

`mintReferenceGrant` writes the artifact of a grant: one object with the claims of the
specification, signed over its canonical bytes before the signature value is entered.

What it returns is canonical already and reads back as the grant of the specification, so
the profile allows exactly what the specification says.
-/

namespace Mcps.Policy

open Except

/-! ## The model -/

/-- One granted operation, with constraints on its arguments if there are any. -/
structure GrantedOperation where
  method : String
  tool : String
  arguments : Option MapValue
  deriving DecidableEq

/-- The claims of a grant. -/
structure ReferenceGrantSpec where
  issuer : String
  grantee : String
  subject : String
  audience : String
  operations : List GrantedOperation
  notBefore : String
  expiresAt : String
  revocationId : String
  deriving DecidableEq

/-- The entry of an operation in the artifact. -/
def GrantedOperation.entry (operation : GrantedOperation) : Value :=
  .object ((operation.arguments.map fun constraint => ("arguments", constraint.val)).toList ++
    [("method", .string operation.method), ("tool", .string operation.tool)])

/-- The artifact before it is signed. -/
def unsignedGrant (spec : ReferenceGrantSpec) (keyId : String) : Value :=
  .object [
    ("audience", .string spec.audience),
    ("expires_at", .string spec.expiresAt),
    ("grantee", .string spec.grantee),
    ("grants", .array (spec.operations.map GrantedOperation.entry)),
    ("issuer", .string spec.issuer),
    ("not_before", .string spec.notBefore),
    ("profile", .string referenceProfileId),
    ("revocation_id", .string spec.revocationId),
    ("signature", .object [("alg", .string sigAlgEd25519), ("key_id", .string keyId)]),
    ("subject", .string spec.subject)]

/-- The artifact with its signature value. -/
def signedGrant (spec : ReferenceGrantSpec) (keyId value : String) : Value :=
  (unsignedGrant spec keyId).updateMember "signature" (Json.insertMember "value" (.string value))

/-- Mint a signed grant and return its canonical bytes.  An empty target is refused. -/
def mintReferenceGrant (spec : ReferenceGrantSpec) (sign : Bytes → String) (keyId : String) :
    Except PolicyError Bytes := do
  if spec.operations.any fun operation => operation.tool.isEmpty then
    throw .authorizationMalformed
  let preimage ← (canonicalizeJsonValue (unsignedGrant spec keyId)).mapError
    fun _ => .authorizationMalformed
  (canonicalizeJsonValue (signedGrant spec keyId (sign preimage))).mapError
    fun _ => .authorizationMalformed

/-! ## What is minted -/

/-- The operation as the profile reads it. -/
def GrantedOperation.grant (operation : GrantedOperation) : Grant :=
  ⟨operation.method, operation.tool, operation.arguments.map Subtype.val⟩

/-- The grant of a specification as the profile reads it. -/
def ReferenceGrantSpec.grant (spec : ReferenceGrantSpec) (keyId value : String) :
    ReferenceGrant where
  issuer := spec.issuer
  grantee := spec.grantee
  subject := spec.subject
  audience := spec.audience
  grants := spec.operations.map GrantedOperation.grant
  notBefore := spec.notBefore
  expiresAt := spec.expiresAt
  revocationId := spec.revocationId
  signature := ⟨sigAlgEd25519, keyId, value⟩

/-- The constraints of an operation, if there are any, are an object. -/
def GrantedOperation.Constrained (operation : GrantedOperation) : Prop :=
  ∀ constraint, operation.arguments = some constraint → ∃ members, constraint.val = .object members

section

variable {spec : ReferenceGrantSpec} {keyId value : String} {operation : GrantedOperation}

theorem sortedKeys_entry (operation : GrantedOperation) : operation.entry.SortedKeys := by
  cases arguments : operation.arguments with
  | none =>
    simp [GrantedOperation.entry, arguments, Assoc.Ordered]
    decide
  | some constraint =>
    have sorted := constraint.property
    simp [GrantedOperation.entry, arguments, Assoc.Ordered, sorted]
    decide

theorem sortedKeys_unsignedGrant : (unsignedGrant spec keyId).SortedKeys := by
  simp [unsignedGrant, Assoc.Ordered, sortedKeys_entry]
  decide

theorem sortedKeys_signedGrant : (signedGrant spec keyId value).SortedKeys := by
  apply sortedKeys_unsignedGrant.updateMember
  intro block sorted
  cases block with
  | object members => exact sorted.insert "value" (Json.sortedKeys_string value)
  | _ => exact sorted

theorem signedGrant_eq : signedGrant spec keyId value =
    .object [
      ("audience", .string spec.audience),
      ("expires_at", .string spec.expiresAt),
      ("grantee", .string spec.grantee),
      ("grants", .array (spec.operations.map GrantedOperation.entry)),
      ("issuer", .string spec.issuer),
      ("not_before", .string spec.notBefore),
      ("profile", .string referenceProfileId),
      ("revocation_id", .string spec.revocationId),
      ("signature", .object [("alg", .string sigAlgEd25519), ("key_id", .string keyId),
        ("value", .string value)]),
      ("subject", .string spec.subject)] := by
  rfl

theorem erasePath_signedGrant :
    (signedGrant spec keyId value).erasePath ["signature", "value"] = unsignedGrant spec keyId := by
  rfl

theorem readGrant_entry (constrained : operation.Constrained) :
    readGrant operation.entry = some operation.grant := by
  cases arguments : operation.arguments with
  | none => simp [readGrant, GrantedOperation.entry, GrantedOperation.grant, arguments,
      structFields, Assoc.find?, optionalValue, Json.asStr]
  | some constraint =>
    obtain ⟨_, isObject⟩ := constrained constraint arguments
    simp [readGrant, GrantedOperation.entry, GrantedOperation.grant, arguments, isObject,
      structFields, Assoc.find?, optionalValue, Json.asStr]

theorem readReferenceGrant_signedGrant
    (constrained : ∀ operation ∈ spec.operations, operation.Constrained) :
    readReferenceGrant (signedGrant spec keyId value) = some (spec.grant keyId value) := by
  have grants : (spec.operations.map GrantedOperation.entry).mapM readGrant =
      some (spec.operations.map GrantedOperation.grant) := by
    rw [Option.mapM_eq_some, List.forall₂_map_left_iff, List.forall₂_map_right_iff,
      List.forall₂_same]
    intro operation held
    exact readGrant_entry (constrained operation held)
  rw [signedGrant_eq, readReferenceGrant_eq_some]
  exact {
    issuer := rfl
    grantee := rfl
    subject := rfl
    audience := rfl
    grants := grants
    notBefore := rfl
    expiresAt := rfl
    revocationId := rfl
    signature := rfl }

end

/-! ## What a minted grant allows -/

section

variable [Crates] {spec : ReferenceGrantSpec} {sign : Bytes → String} {keyId : String}
  {bytes : Bytes} {resolver : TrustResolver} {key : VerificationKey}

omit [Crates] in
theorem mintReferenceGrant_eq_ok :
    mintReferenceGrant spec sign keyId = .ok bytes ↔
      (∀ operation ∈ spec.operations, operation.tool ≠ "") ∧
      ∃ preimage, canonicalizeJsonValue (unsignedGrant spec keyId) = .ok preimage ∧
        canonicalizeJsonValue (signedGrant spec keyId (sign preimage)) = .ok bytes := by
  simp only [mintReferenceGrant, throw_eq_error, bind_error, bind_eq_ok, guard_eq_ok,
    mapError_eq_ok]
  exact and_congr_left fun _ => by simp

theorem issuerSigned_signedGrant {preimage : Bytes}
    (canonical : canonicalizeJsonValue (unsignedGrant spec keyId) = .ok preimage)
    (known : resolver spec.issuer keyId = .ok key)
    (signs : ∀ message, verifyEd25519 message (sign message) key = .ok ()) :
    IssuerSigned (signedGrant spec keyId (sign preimage)) (spec.grant keyId (sign preimage))
      resolver := by
  obtain ⟨signature, decoded, length, verifies⟩ := verifyEd25519With_eq_ok.mp (signs preimage)
  constructor
  · exact ⟨_, _, signedGrant_eq, rfl⟩
  · rfl
  · refine ⟨preimage, key, signature, ?_, known, decoded, length, verifies⟩
    rw [erasePath_signedGrant]
    exact canonical

/-- A minted grant is canonical and hashes as it is, and the profile allows exactly the
requests in its scope. -/
theorem mintReferenceGrant_authorizes {numberOf : List Char → Option Number}
    (serde : SerdeDefaults numberOf) (spec : ReferenceGrantSpec) (sign : Bytes → String)
    (keyId : String) (bytes : Bytes) (minted : mintReferenceGrant spec sign keyId = .ok bytes)
    (shallow : ∀ document, readDocument bytes = some document →
      document.depth ≤ serdeRecursionLimit)
    (notBefore expiresAt : Int) (starts : parseRfc3339Utc spec.notBefore = .ok notBefore)
    (ends : parseRfc3339Utc spec.expiresAt = .ok expiresAt)
    (constrained : ∀ operation ∈ spec.operations, operation.Constrained)
    (resolver : TrustResolver) (key : VerificationKey)
    (known : resolver spec.issuer keyId = .ok key)
    (signs : ∀ message, verifyEd25519 message (sign message) key = .ok ()) :
    canonicalize bytes = .ok bytes ∧
      ReferenceProfile.expectedAuthorizationHash bytes = .ok (sha256HashId bytes) ∧
      ∀ verified request revocation now,
        ReferenceProfile.authorize bytes verified request resolver revocation now = .allow ↔
          spec.grantee = verified.verifiedSigner ∧ spec.subject = verified.onBehalfOf ∧
          spec.audience = verified.audience ∧ notBefore ≤ now ∧ now ≤ expiresAt ∧
          revocation spec.revocationId = .ok .notRevoked ∧
          ∃ operation ∈ spec.operations, operation.grant.Permits request := by
  rcases mintReferenceGrant_eq_ok.mp minted with ⟨targeted, preimage, canonical, written⟩
  rcases @SerdeDefaults.fromSlice_canonicalizeJsonValue _ _ serde ⟨_, sortedKeys_signedGrant⟩ _
    written shallow with ⟨fixed, parsed⟩
  have signed := issuerSigned_signedGrant canonical known signs
  refine ⟨fixed, by simp [ReferenceProfile.expectedAuthorizationHash, fixed, Except.mapError], ?_⟩
  intro verified request revocation now
  rw [ReferenceProfile.authorize_eq_allow_of_read fixed parsed
    (readReferenceGrant_signedGrant constrained) signed]
  constructor
  · intro covers
    rcases covers.window with ⟨first, last, firstParsed, lastParsed, started, notEnded⟩
    cases starts.symm.trans firstParsed
    cases ends.symm.trans lastParsed
    rcases covers.permitted with ⟨_, granted, permits⟩
    rcases List.mem_map.mp granted with ⟨operation, held, rfl⟩
    exact ⟨covers.grantee, covers.subject, covers.audience, started, notEnded, covers.notRevoked,
      operation, held, permits⟩
  · rintro ⟨grantee, subject, audience, started, notEnded, notRevoked, operation, held, permits⟩
    constructor
    · exact grantee
    · exact subject
    · exact audience
    · exact ⟨notBefore, expiresAt, starts, ends, started, notEnded⟩
    · exact notRevoked
    · intro granted member
      rcases List.mem_map.mp member with ⟨operation, held, rfl⟩
      exact targeted operation held
    · exact ⟨operation.grant, List.mem_map_of_mem held, permits⟩

end

/-- A grant to echo one text. -/
def echoSpec : ReferenceGrantSpec where
  issuer := "did:example:authority-1"
  grantee := "did:example:agent-1"
  subject := "did:example:user-1"
  audience := "did:example:server-1"
  operations := [⟨"tools/call", "echo", some ⟨.object [("text", .string "hello")], by decide⟩⟩]
  notBefore := "2026-05-28T20:00:00Z"
  expiresAt := "2026-05-28T21:00:00Z"
  revocationId := "rev-1"

def echoSignature : String :=
  "eDcmQvl6pd2cwEd3MXstjAemYpaWK0qQ886HeswbK_sjmEfz8er2fKwU_aKKDwqegTA91Vxm_eC3k-Box5ZUAA"

/-- What the issuer signs. -/
def echoSignatures : List KnownSignature :=
  [⟨issuerKey, bytesOf (unsignedGrant echoSpec "authority-key-1"), echoSignature⟩]

def issuerKeyBytes : Bytes := (b64urlDecodeText issuerKey).getD []

/-- The minted bytes of that grant. -/
def echoMinted : Bytes := bytesOf (signedGrant echoSpec "authority-key-1" echoSignature)

def echoDigest : String := "tOhxtwd-dqUBAAw7SMEqPpt0xuwPH5MVQjrDqSafgAg"

/-- Crates with the defaults of the JSON crate that know the issuer's signature and the digest
of the minted bytes. -/
@[reducible] def mintingCrates : Crates :=
  defaultsReader (referenceCrates echoDigest echoSignatures [])

/-- The issuer mints the grant, and the call it is for is allowed. -/
theorem mintReferenceGrant_echo :
    letI := mintingCrates
    let sign := referenceSignature echoSignatures issuerKeyBytes
    mintReferenceGrant echoSpec sign "authority-key-1" = .ok echoMinted ∧
      canonicalize echoMinted = .ok echoMinted ∧
      ReferenceProfile.expectedAuthorizationHash echoMinted = .ok (sha256HashId echoMinted) ∧
      ReferenceProfile.authorize echoMinted (opaqueRequest echoDigest) (echoCall echoMinted)
        issuerResolver (inMemoryRevocationSource []) 1780000200 = .allow := by
  let crates := mintingCrates
  intro sign
  have evaluated : mintReferenceGrant echoSpec sign "authority-key-1" = .ok echoMinted ∧
      ((readDocument echoMinted).all fun document => document.depth ≤ serdeRecursionLimit) = true ∧
      parseRfc3339Utc echoSpec.notBefore = .ok 1779998400 ∧
      parseRfc3339Utc echoSpec.expiresAt = .ok 1780002000 ∧
      issuerResolver echoSpec.issuer "authority-key-1" = .ok ⟨issuerKeyBytes⟩ ∧
      (∀ entry ∈ echoSignatures, (b64urlDecodeText entry.signature).map List.length = some 64) := by
    decide +kernel
  rcases evaluated with ⟨minted, shallow, starts, ends, known, lengths⟩
  have constrained : ∀ operation ∈ echoSpec.operations, operation.Constrained := by
    intro operation held constraint stated
    cases List.mem_singleton.mp held
    cases stated
    exact ⟨_, rfl⟩
  have permits : (GrantedOperation.mk "tools/call" "echo"
      (some ⟨.object [("text", .string "hello")], by decide⟩)).grant.Permits
      (echoCall echoMinted) := by
    refine ⟨rfl, .inl ⟨.inl rfl, rfl⟩, ?_⟩
    intro constraint stated
    cases stated
    refine ⟨_, rfl, ?_⟩
    intro entry held
    cases List.mem_singleton.mp held
    exact ⟨_, rfl, by decide⟩
  rcases mintReferenceGrant_authorizes (serdeDefaults_defaultsReader _) echoSpec sign
    "authority-key-1" echoMinted minted
    (fun document read => by simpa [read] using shallow)
    1779998400 1780002000 starts ends constrained issuerResolver ⟨issuerKeyBytes⟩ known
    (fun message => verifyEd25519With_referenceSignature echoDigest echoSignatures [] lengths
      ⟨issuerKeyBytes⟩ message .invalidSignature) with ⟨fixed, hash, allows⟩
  refine ⟨minted, fixed, hash, (allows _ _ _ _).mpr ?_⟩
  exact ⟨rfl, rfl, rfl, by decide, by decide, rfl, _, List.mem_singleton_self _, permits⟩

end Mcps.Policy
