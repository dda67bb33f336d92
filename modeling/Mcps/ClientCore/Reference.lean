import Mcps.ClientCore.Request
import Mcps.Core.Reference

/-!
# A draft-02 exchange

A call of a tool as the client signs it, and two responses of the remote end that are
signed for it: a success, and the wrapped error of a tool that failed.
-/

namespace Mcps.ClientCore

def toolsAudience : AudienceTuple where
  scheme := "https"
  host := "api.example.com"
  port := 443
  tenantId := "acme"
  routeId := "tools"
  realm := "prod"
  discriminated := by decide

def callBinding : AuthorizationBinding :=
  .opaqueBytes digestAlgSha256 "RBNvo1WzZ4oRRq0W9-hknpT7T8If536DEMBg9hyq_4o"

def callInputs : RequestSigningInputs where
  signer := "did:example:agent-1"
  keyId := "key-1"
  onBehalfOf := "did:example:user-1"
  audience := toolsAudience.toAudienceString
  authorizationBinding := callBinding
  nonce := "Zm9vYmFyYmF6cXV4MTIzNDU2Nzg5MA"
  issuedAt := "2026-05-28T20:00:00Z"
  expiresAt := "2026-05-28T20:05:00Z"
  canonicalizationId := canonicalizationIdInt53V1

/-- The parameters of the call, with or without a `_meta`. -/
def callParams (own : List (String × Value)) : List (String × Value) :=
  own ++ [("arguments", .object [("text", .string "hello")]), ("name", .string "echo")]

/-- The request the call is signed as, without its signature value. -/
def callRequest : Value :=
  unsignedRequest (.string "req-1") "tools/call" (callParams []) callInputs

def callRequestHash : String := "sha256:Nvf-uMW1AEKxqJu3x2BMUTajFQETV-GlQRaRBHwECxA"

/-- The response with one member of the result and a signature block. -/
def responseWithBlock (member : String × Value) (block : Value) : Value :=
  .object [("id", .string "req-1"), ("jsonrpc", .string "2.0"), ("result", .object [
    ("_meta", .object [(responseMetaKey, .object [
      ("canonicalization_id", .string canonicalizationIdInt53V1),
      ("issued_at", .string "2026-05-28T20:01:00Z"), ("request_hash", .string callRequestHash),
      ("server_signer", .string "did:example:server-1"), ("signature", block),
      ("version", .string versionDraft02)])]),
    member])]

/-- The response, with or without its signature value. -/
def callResponse (member : String × Value) (signature : List (String × Value)) : Value :=
  responseWithBlock member (.object
    ([("alg", .string sigAlgEd25519), ("key_id", .string "server-key-1")] ++ signature))

def successMember : String × Value := ("content", .string "hello")

/-- The wrapped error of a tool that failed. -/
def errorMember : String × Value :=
  (responseWrapInnerErrorKey, .object [
    ("error", .object [("code", .number (.negInt (-32000) (by decide))),
      ("message", .string "tool failed")]),
    ("id", .string "req-1"), ("jsonrpc", .string "2.0")])

def remoteKey : String := "gTl3Dqh9F19Wo1Rmw0x-zMuNipG07jeiXfYPW4_Js5Q"

def callSignature : String :=
  "38ieyQFB9dG-xuj2pzOoUMu0_zNAcuUt3BSze1QC4mIfVDwDdFtnclXzo7jDQ8DSQ5NLUvXArnkX3_XKIzwmBw"

def successSignature : String :=
  "luDDi_7oeOcoOmPJIJND1svgVDdC830D8GxMJTZsomU_kzli6cBdaafwrkkqbexgLXmCTQ-cLLFbjhyKhp84Bw"

def errorSignature : String :=
  "ihq1b4lEXe87yWjsJJLEytsjce6wLuchz_mJ-5RfHe-F8rS13A2OsGZyi6CWgptexPdwyG5AsEn-8HoMKwiECA"

/-- The signatures of the call and of both responses. -/
def callSignatures : List KnownSignature :=
  [⟨vectorKey, bytesOf callRequest, callSignature⟩,
    ⟨remoteKey, bytesOf (callResponse successMember []), successSignature⟩,
    ⟨remoteKey, bytesOf (callResponse errorMember []), errorSignature⟩]

@[reducible] def callCrates : Crates :=
  referenceCrates "Nvf-uMW1AEKxqJu3x2BMUTajFQETV-GlQRaRBHwECxA" callSignatures []

/-- The client's signing identity. -/
def agentSigner : ClientSigner where
  signerId := "did:example:agent-1"
  keyId := "key-1"
  custody := .softwareHeldPrivate
  signPreimage preimage := .ok
    (referenceSignature callSignatures ((b64urlDecodeText vectorKey).getD []) preimage)

def agentPolicy : SignerPolicy := ⟨"did:example:agent-1", [], .production, true, false⟩

/-- A resolver that knows the remote end's signer. -/
def remoteResolver : TrustResolver := fun signer keyId =>
  if signer = "did:example:server-1" && keyId = "server-key-1" then
    (b64urlDecodeText remoteKey).elim (.error .malformedKey) fun key => .ok ⟨key⟩
  else .error .notFound

/-- The remote end's reply with a payload and its signature. -/
def replyWith (member : String × Value) (signature : String) : Bytes :=
  bytesOf (callResponse member [("value", .string signature)])

end Mcps.ClientCore
