import Mcps.ClientCore.Reference
import Mcps.Sdk.Transport

/-!
# A connection to evaluate

The interpreter's functions on the values of one exchange, and a strict connection that
signs the call of the draft-02 exchange.
-/

namespace Mcps.Sdk

open ClientCore

def callArguments : PyValue :=
  .object [("name", .string "echo"), ("arguments", .object [("text", .string "hello")])]

/-- The message the session sends for the call. -/
def callMessage : SessionMessage :=
  ⟨.object [("method", .string "tools/call"), ("params", callArguments),
    ("jsonrpc", .string "2.0"), ("id", .string "req-1")]⟩

/-- The shape of a JSON-RPC response. -/
def validateResponse (obj : PyValue) : Except PyException Unit :=
  match obj.get "jsonrpc", obj.get "id", obj.get "result" with
  | some (.string "2.0"), some (.string _), some (.object _) => .ok ()
  | some (.string "2.0"), some (.number (.int _)), some (.object _) => .ok ()
  | _, _, _ => .error .valueError

/-- An interpreter that reads JCS-safe documents, writes what the call needs, and takes
responses. -/
@[reducible] def callPython : Python where
  loadsOther _ := .error .valueError
  strOther _ := ""
  dumps value :=
    if value = .string "req-1" then textBytes "\"req-1\""
    else if value = callArguments then
      textBytes "\x7b\"name\": \"echo\", \"arguments\": \x7b\"text\": \"hello\"\x7d\x7d"
    else []
  validateMessage := validateResponse
  dumpMessage _ := []

/-- A strict connection to the remote end. -/
def callConfig : McpsConfig where
  signer := agentSigner
  policy := agentPolicy
  resolver := remoteResolver
  audience := toolsAudience.toAudienceString
  onBehalfOf := "did:example:user-1"
  authorization := none
  authorizationPolicy := none
  bindingDigestAlg := digestAlgSha256
  bindingDigestValue := "RBNvo1WzZ4oRRq0W9-hknpT7T8If536DEMBg9hyq_4o"
  expectedServerSigner := some "did:example:server-1"
  enforcementMode := "require_mcps"
  legacyAllowed := false
  routeId := "tools"
  allowUnverifiedServerInitiated := false

def callOutbound : OutboundRequest := ⟨.string "req-1", "tools/call", some callArguments⟩

/-- The call as the connection signs it. -/
def callSigned : SignedRequest where
  wireBytes := bytesOf (graftSignature callRequest callSignature)
  requestHash := callRequestHash
  object := graftSignature callRequest callSignature

/-- The correlation store once the call is sent. -/
def callStore : CorrelationStore :=
  letI := callCrates
  letI := callPython
  (signOutbound callConfig .new callMessage 1779998400 "Zm9vYmFyYmF6cXV4MTIzNDU2Nzg5MA"
    1779998700).2

theorem signRequest_call :
    letI := callCrates
    letI := callPython
    signRequest callConfig callOutbound 1779998400 "Zm9vYmFyYmF6cXV4MTIzNDU2Nzg5MA" 1779998700 =
      .ok callSigned := by
  decide +kernel

end Mcps.Sdk
