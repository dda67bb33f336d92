import Mcps.Proxy.HttpServer

/-!
# The proxy's command line

The argument parser of the proxy: a loop that takes a flag, and a value unless the flag is a
switch, until `--inner-command` takes the rest; then the checks across flags, the
configuration, and the strict posture.

The flags are tables from their names to what they set.  A value flag reads its value into a
change of the settings, so that no value flag can touch a switch.
-/

namespace Mcps.Cli

open Http (ServerLimits)

/-! ## Settings -/

inductive KeySourceKind where
  | file
  | env
  | pkcs11
  | awsKms
  | gcpKms
  deriving DecidableEq, Repr

inductive ReplayKind where
  | memory
  | file
  | shared
  deriving DecidableEq, Repr

inductive BindingKind where
  | none
  | exact
  | lbAssertion
  deriving DecidableEq, Repr

inductive OcspKind where
  | off
  | require
  deriving DecidableEq, Repr

inductive AuthzKind where
  | off
  | reference
  deriving DecidableEq, Repr

inductive InnerModeKind where
  | oneShot
  | persistent
  deriving DecidableEq, Repr

inductive SandboxMode where
  | off
  | enforce
  deriving DecidableEq, Repr

inductive NetworkPolicy where
  | denyAll
  | allow
  deriving DecidableEq, Repr

inductive ReplayDurabilityTier where
  | redisAsyncBounded
  | redisWaitQuorum (quorum : UInt32) (timeoutMs : UInt64)
  | linearizable
  | singleStoreFailClosed
  deriving DecidableEq, Repr

inductive RevocationTier where
  | boundedCache (tSecs : Int)
  | live
  | push (tSecs : Int)
  deriving DecidableEq, Repr

structure RLimits where
  nofile : Option UInt64 := none
  cpuSeconds : Option UInt64 := none
  addressSpaceBytes : Option UInt64 := none
  dataBytes : Option UInt64 := none
  coreBytes : Option UInt64 := some 0
  fsizeBytes : Option UInt64 := none
  bestEffort : Bool := false
  deriving DecidableEq, Repr

structure SandboxProfile where
  mode : SandboxMode := .off
  fsAllowRead : List String := []
  fsAllowWrite : List String := []
  network : NetworkPolicy := .denyAll
  deriving DecidableEq, Repr

structure InnerLaunchConfig where
  inheritEnv : Bool := false
  explicitEnv : List (String × String) := []
  allowEnvNames : List String := []
  workingDir : Option String := none
  stderrCapBytes : UInt64 := 64 * 1024
  stderrCapLines : UInt64 := 1024
  rlimits : RLimits := {}
  innerReadTimeout : UInt64 := 30
  sandbox : SandboxProfile := {}
  deriving DecidableEq, Repr

/-- What value flags choose, with what it is without them. -/
structure Choices where
  maxClockSkew : Int := 300
  expectedVersionPolicy : ExpectedVersionPolicy := .draft01AndDraft02
  keySource : KeySourceKind := .file
  clientCrlPaths : List String := []
  clientOcsp : OcspKind := .off
  ocspResponderUrl : Option String := none
  replay : ReplayKind := .memory
  replayPath : Option String := none
  replayRedisUrl : Option String := none
  cpstoreEtcdEndpoint : Option String := none
  replayDurabilityTier : Option ReplayDurabilityTier := none
  revocationTier : RevocationTier := .boundedCache 60
  binding : BindingKind := .exact
  identitySource : IdentityPolicy := .uriSan
  reverseProxyIdentityHeader : Option String := none
  reverseProxyHeaderFormat : ReverseProxyHeaderFormat := .xfcc
  ingressLbKeys : List (String × String) := []
  authz : AuthzKind := .off
  revocationListPaths : List String := []
  innerMode : InnerModeKind := .oneShot
  pkcs11Module : Option String := none
  pkcs11Pin : Option String := none
  pkcs11TokenLabel : Option String := none
  pkcs11KeyLabel : Option String := none
  pkcs11TlsKeyLabel : Option String := none
  awsKmsRegion : Option String := none
  awsKmsKeyId : Option String := none
  awsKmsEndpoint : Option String := none
  awsKmsTlsKeyId : Option String := none
  gcpKmsKeyVersion : Option String := none
  gcpKmsEndpoint : Option String := none
  gcpKmsTlsKeyVersion : Option String := none
  limits : ServerLimits := .default
  maxClientCertLifetime : Option UInt64 := some 3600
  innerLaunch : InnerLaunchConfig := {}
  sandboxExplicitlyOff : Bool := false
  deriving DecidableEq, Repr

/-- All that value flags set; the required texts may be missing so far. -/
structure Settings extends Choices where
  bind : Option String := none
  audience : Option String := none
  serverSigner : Option String := none
  serverKeyId : Option String := none
  signingKeySeed : Option String := none
  tlsCert : Option String := none
  tlsKey : Option String := none
  clientCa : Option String := none
  trustPath : Option String := none
  deriving DecidableEq, Repr

/-- What flags without a value switch on. -/
structure Switches where
  allowEnvKeysource : Bool := false
  crlAllowUnknownStatus : Bool := false
  ocspSoftFail : Bool := false
  allowEmptyRevocation : Bool := false
  allowReferenceAuthz : Bool := false
  gcpKmsUseMetadata : Bool := false
  strict : Bool := false
  deriving DecidableEq, Repr

/-- The parser's state. -/
structure Parsed where
  settings : Settings := {}
  switches : Switches := {}
  innerCommand : List String := []
  deriving DecidableEq, Repr

structure Config extends Choices, Switches where
  bind : String
  audience : String
  serverSigner : String
  serverKeyId : String
  signingKeySeed : String
  tlsCert : String
  tlsKey : String
  clientCa : String
  trustPath : String
  innerCommand : List String
  deriving DecidableEq, Repr

/-- What the parser takes from outside this crate: whether the build has the `online_ocsp`
feature, `str::to_lowercase`, and whether a text is a verification key in base64url. -/
structure Build where
  onlineOcsp : Bool
  toLowercase : List Char → List Char
  isVerificationKey : String → Bool

/-! ## Reading values -/

def parseU64 (value : String) : Option UInt64 :=
  (Numeral.parseUnsigned (2 ^ 64) (textChars value)).map UInt64.ofNat

def parseI64 (value : String) : Option Int :=
  Numeral.parseSigned i64Min i64Max (textChars value)

/-- One of some words. -/
def oneOf {τ : Type} (flag : String) (words : List (String × τ)) (value : String) :
    Except String τ :=
  (Assoc.find? value words).okOr ("unknown " ++ flag ++ " '" ++ value ++ "' (" ++
    "|".intercalate (words.map Prod.fst) ++ ")")

/-- Paths separated by commas, none of them empty. -/
def pathSegments (flag value : String) : Except String (List String) :=
  let segments := ((textChars value).splitOn ',').map String.ofList
  if "" ∈ segments then
    .error ("invalid " ++ flag ++ " '" ++ value ++ "' (empty path segment)")
  else .ok segments

/-- A text that is not only whitespace. -/
def nonEmpty (flag kind value : String) : Except String String :=
  if trim (textChars value) = [] then .error (flag ++ " requires a non-empty " ++ kind)
  else .ok value

def parseNumber (flag value : String) : Except String UInt64 :=
  (parseU64 value).okOr ("invalid " ++ flag)

def parsePositive (flag value : String) : Except String UInt64 := do
  let n ← parseNumber flag value
  if n = 0 then throw (flag ++ " must be > 0")
  return n

def maxInnerReadTimeoutSecs : UInt64 := 86400

def overlongTimeout (flag : String) (secs : UInt64) : String :=
  flag ++ " must be <= " ++ toString maxInnerReadTimeoutSecs ++ " seconds (1 day); got " ++
    toString secs

def parseTimeout (flag value : String) : Except String (Option UInt64) := do
  let secs ← parseNumber flag value
  if secs > maxInnerReadTimeoutSecs then throw (overlongTimeout flag secs)
  return if secs = 0 then none else some secs

def parsePositiveTimeout (flag value : String) : Except String UInt64 := do
  let secs ← (parseU64 value).okOr
    ("invalid " ++ flag ++ " '" ++ value ++ "' (expected a positive integer of seconds)")
  if secs = 0 then
    throw (flag ++ " must be > 0 (the inner read timeout is always bounded; there is no disable)")
  if secs > maxInnerReadTimeoutSecs then throw (overlongTimeout flag secs)
  return secs

/-- The text before a last character. -/
def stripLast (last : Char) (text : List Char) : Option (List Char) :=
  if text.getLast? = some last then some text.dropLast else none

/-- A lifetime with an optional unit; the product wraps as in release builds. -/
def parseCertLifetime (value : String) : Except String (Option UInt64) :=
  if value = "none" then .ok none
  else
    let text := textChars value
    let (digits, multiplier) : List Char × UInt64 :=
      match stripLast 'h' text with
      | some digits => (digits, 3600)
      | none =>
        match stripLast 'm' text with
        | some digits => (digits, 60)
        | none => ((stripLast 's' text).getD text, 1)
    match parseU64 (String.ofList digits) with
    | none => .error
        ("invalid --max-client-cert-lifetime '" ++ value ++ "' (e.g. 1h, 30m, 3600, none)")
    | some n => .ok (if n = 0 then none else some (n * multiplier))

def parseEnvPair (value : String) : Except String (String × String) :=
  match splitOnce '=' (textChars value) with
  | some ([], _) =>
    .error ("invalid --inner-env '" ++ value ++ "' (empty key; expected KEY=VALUE)")
  | some (key, val) => .ok (String.ofList key, String.ofList val)
  | none => .error ("invalid --inner-env '" ++ value ++ "' (expected KEY=VALUE)")

def parseRlimitValue (flag value : String) : Except String (Option UInt64) :=
  if value = "none" then .ok none
  else (parseU64 value).map some |>.okOr
    ("invalid " ++ flag ++ " '" ++ value ++ "' (expected a non-negative integer or 'none')")

def parseIngressLbKey (value : String) : Except String (String × String) :=
  match splitOnce ':' (textChars value) with
  | none => .error ("invalid --ingress-lb-key '" ++ value ++
      "' (expected <keyid>:<base64url-ed25519-pub>)")
  | some (keyId, keyB64) =>
    if keyId = [] ∨ keyB64 = [] then
      .error ("invalid --ingress-lb-key '" ++ value ++ "' (empty key id or key body)")
    else .ok (String.ofList keyId, String.ofList keyB64)

def fromConfig (value : String) : Except String ExpectedVersionPolicy :=
  if value = "draft-02-only" then .ok .draft02Only
  else if value = "draft-01-and-draft-02" then .ok .draft01AndDraft02
  else .error ("invalid --expected-version-policy: unrecognized expected-version policy: " ++ value)

/-- The fields behind a keyword, each after a colon; none if something else follows it. -/
def colonFields (rest : List Char) : Option (List (List Char)) :=
  match rest.splitOn ':' with
  | [] :: fields => some fields
  | _ => none

/-- A number of at least one, below a limit. -/
def positiveField (limit : Nat) (field : Option (List Char)) : Option Nat :=
  (field.bind (Numeral.parseUnsigned limit)).filter (1 ≤ ·)

def ReplayDurabilityTier.parse (build : Build) (value : String) :
    Except String ReplayDurabilityTier :=
  let lower := build.toLowercase (trim (textChars value))
  if lower = textChars "redis-async" then .ok .redisAsyncBounded
  else if lower = textChars "linearizable" then .ok .linearizable
  else if lower = textChars "single-store-fail-closed" then .ok .singleStoreFailClosed
  else do
    let rest ← (lower.dropPrefix? (textChars "redis-wait-quorum")).okOr
      ("unknown replay durability tier '" ++ value ++ "' (expected redis-async | " ++
        "redis-wait-quorum:<quorum>:<timeout_ms> | linearizable | single-store-fail-closed)")
    let fields ← (colonFields rest).okOr
      ("redis-wait-quorum requires ':<quorum>:<timeout_ms>' (got '" ++ value ++ "')")
    let quorum ← (positiveField (2 ^ 32) fields[0]?).okOr
      ("redis-wait-quorum quorum must be a positive integer (in '" ++ value ++ "')")
    let timeoutMs ← (positiveField (2 ^ 64) fields[1]?).okOr
      ("redis-wait-quorum timeout_ms must be a positive integer (in '" ++ value ++ "')")
    if fields.length > 2 then
      throw ("redis-wait-quorum takes exactly ':<quorum>:<timeout_ms>' (got '" ++ value ++ "')")
    return .redisWaitQuorum (.ofNat quorum) (.ofNat timeoutMs)

def ReplayDurabilityTier.wireName : ReplayDurabilityTier → String
  | .redisAsyncBounded => "REDIS_ASYNC"
  | .redisWaitQuorum _ _ => "REDIS_WAIT_QUORUM"
  | .linearizable => "LINEARIZABLE"
  | .singleStoreFailClosed => "SINGLE_STORE_FAIL_CLOSED"

def ReplayDurabilityTier.meetsStrictProductionMinimum : ReplayDurabilityTier → Bool
  | .redisWaitQuorum _ _ | .linearizable => true
  | .redisAsyncBounded | .singleStoreFailClosed => false

/-- The window behind a tier's keyword. -/
def parseWindow (rest : List Char) (original tier : String) : Except String Int := do
  let fields ← (colonFields rest).okOr
    (tier ++ " requires ':<t_secs>' (got '" ++ original ++ "')")
  let tSecs ← ((fields[0]?.bind (Numeral.parseSigned i64Min i64Max)).filter (1 ≤ ·)).okOr
    (tier ++ " t_secs must be a positive integer (in '" ++ original ++ "')")
  if fields.length > 1 then
    throw (tier ++ " takes exactly ':<t_secs>' (got '" ++ original ++ "')")
  return tSecs

def RevocationTier.parse (build : Build) (value : String) : Except String RevocationTier :=
  let lower := build.toLowercase (trim (textChars value))
  if lower = textChars "live" then .ok .live
  else
    match lower.dropPrefix? (textChars "bounded-cache") with
    | some rest => (parseWindow rest value "bounded-cache").map .boundedCache
    | none =>
      match lower.dropPrefix? (textChars "push") with
      | some rest => (parseWindow rest value "push").map .push
      | none => .error ("unknown revocation tier '" ++ value ++
          "' (expected bounded-cache:<t_secs> | live | push:<t_secs>)")

/-! ## Flags -/

/-- Flags without a value. -/
def switchFlags : List (String × (Switches → Switches)) := [
  ("--allow-env-keysource", fun switches => { switches with allowEnvKeysource := true }),
  ("--crl-allow-unknown-status", fun switches => { switches with crlAllowUnknownStatus := true }),
  ("--ocsp-soft-fail", fun switches => { switches with ocspSoftFail := true }),
  ("--allow-empty-revocation", fun switches => { switches with allowEmptyRevocation := true }),
  ("--allow-reference-authz", fun switches => { switches with allowReferenceAuthz := true }),
  ("--gcp-kms-use-metadata", fun switches => { switches with gcpKmsUseMetadata := true }),
  ("--strict", fun switches => { switches with strict := true }),
  ("--production", fun switches => { switches with strict := true })]

/-- What a value flag makes of its value: a change of the settings. -/
abbrev Reader := String → Except String (Settings → Settings)

/-- Store what is read of the value. -/
def reading {τ : Type} (read : String → Except String τ) (store : τ → Settings → Settings) :
    Reader := fun value => (read value).map store

/-- Store the value as it is. -/
def storing (store : String → Settings → Settings) : Reader := fun value => .ok (store value)

def changeLimits (change : ServerLimits → ServerLimits) (settings : Settings) : Settings :=
  { settings with limits := change settings.limits }

def changeLaunch (change : InnerLaunchConfig → InnerLaunchConfig) (settings : Settings) :
    Settings :=
  { settings with innerLaunch := change settings.innerLaunch }

def changeRlimits (change : RLimits → RLimits) : Settings → Settings :=
  changeLaunch fun launch => { launch with rlimits := change launch.rlimits }

def changeSandbox (change : SandboxProfile → SandboxProfile) : Settings → Settings :=
  changeLaunch fun launch => { launch with sandbox := change launch.sandbox }

def rlimitFlag (flag : String) (store : Option UInt64 → RLimits → RLimits) : String × Reader :=
  (flag, reading (parseRlimitValue flag) fun ceiling => changeRlimits (store ceiling))

/-- `--inner-sandbox`; an explicit `off` is remembered. -/
def setSandboxMode (mode : SandboxMode) (settings : Settings) : Settings :=
  let settings :=
    if mode = .off then { settings with sandboxExplicitlyOff := true } else settings
  changeSandbox (fun sandbox => { sandbox with mode := mode }) settings

def booleans : List (String × Bool) := [("true", true), ("false", false)]

/-- Flags with a value. -/
def valueFlags (build : Build) : List (String × Reader) := [
  ("--bind", storing fun value settings => { settings with bind := some value }),
  ("--audience", storing fun value settings => { settings with audience := some value }),
  ("--server-signer", storing fun value settings => { settings with serverSigner := some value }),
  ("--server-key-id", storing fun value settings => { settings with serverKeyId := some value }),
  ("--max-clock-skew",
    reading (fun value => (parseI64 value).okOr "invalid --max-clock-skew")
      fun skew settings => { settings with maxClockSkew := skew }),
  ("--expected-version-policy",
    reading fromConfig fun policy settings => { settings with expectedVersionPolicy := policy }),
  ("--key-source",
    reading (oneOf "--key-source" [("file", KeySourceKind.file), ("env", .env),
        ("pkcs11", .pkcs11), ("aws-kms", .awsKms), ("gcp-kms", .gcpKms)])
      fun kind settings => { settings with keySource := kind }),
  ("--pkcs11-module", storing fun value settings => { settings with pkcs11Module := some value }),
  ("--pkcs11-pin", storing fun value settings => { settings with pkcs11Pin := some value }),
  ("--pkcs11-token-label",
    storing fun value settings => { settings with pkcs11TokenLabel := some value }),
  ("--pkcs11-key-label",
    storing fun value settings => { settings with pkcs11KeyLabel := some value }),
  ("--pkcs11-tls-key-label",
    storing fun value settings => { settings with pkcs11TlsKeyLabel := some value }),
  ("--aws-kms-region", storing fun value settings => { settings with awsKmsRegion := some value }),
  ("--aws-kms-key-id", storing fun value settings => { settings with awsKmsKeyId := some value }),
  ("--aws-kms-endpoint",
    storing fun value settings => { settings with awsKmsEndpoint := some value }),
  ("--aws-kms-tls-key-id",
    storing fun value settings => { settings with awsKmsTlsKeyId := some value }),
  ("--gcp-kms-key-version",
    storing fun value settings => { settings with gcpKmsKeyVersion := some value }),
  ("--gcp-kms-endpoint",
    storing fun value settings => { settings with gcpKmsEndpoint := some value }),
  ("--gcp-kms-tls-key-version",
    storing fun value settings => { settings with gcpKmsTlsKeyVersion := some value }),
  ("--signing-key-seed",
    storing fun value settings => { settings with signingKeySeed := some value }),
  ("--tls-cert", storing fun value settings => { settings with tlsCert := some value }),
  ("--tls-key", storing fun value settings => { settings with tlsKey := some value }),
  ("--client-ca", storing fun value settings => { settings with clientCa := some value }),
  ("--client-crl",
    reading (pathSegments "--client-crl") fun paths settings =>
      { settings with clientCrlPaths := settings.clientCrlPaths ++ paths }),
  ("--trust", storing fun value settings => { settings with trustPath := some value }),
  ("--revocation-list",
    reading (pathSegments "--revocation-list") fun paths settings =>
      { settings with revocationListPaths := settings.revocationListPaths ++ paths }),
  ("--client-ocsp",
    reading (oneOf "--client-ocsp" [("off", OcspKind.off), ("require", .require)])
      fun kind settings => { settings with clientOcsp := kind }),
  ("--ocsp-responder-url",
    reading (nonEmpty "--ocsp-responder-url" "URL")
      fun url settings => { settings with ocspResponderUrl := some url }),
  ("--replay-cache",
    reading (oneOf "--replay-cache"
        [("memory", ReplayKind.memory), ("file", .file), ("shared", .shared)])
      fun kind settings => { settings with replay := kind }),
  ("--replay-path", storing fun value settings => { settings with replayPath := some value }),
  ("--replay-redis-url",
    storing fun value settings => { settings with replayRedisUrl := some value }),
  ("--cpstore-etcd-endpoint",
    reading (nonEmpty "--cpstore-etcd-endpoint" "etcd v3 gateway URL")
      fun endpoint settings => { settings with cpstoreEtcdEndpoint := some endpoint }),
  ("--replay-durability-tier",
    reading (ReplayDurabilityTier.parse build)
      fun tier settings => { settings with replayDurabilityTier := some tier }),
  ("--revocation-tier",
    reading (RevocationTier.parse build)
      fun tier settings => { settings with revocationTier := tier }),
  ("--transport-binding",
    reading (oneOf "--transport-binding"
        [("none", BindingKind.none), ("exact", .exact), ("lb-assertion", .lbAssertion)])
      fun kind settings => { settings with binding := kind }),
  ("--ingress-lb-key",
    reading parseIngressLbKey fun key settings =>
      { settings with ingressLbKeys := settings.ingressLbKeys ++ [key] }),
  ("--transport-identity-source",
    reading (oneOf "--transport-identity-source"
        [("uri_san", IdentityPolicy.uriSan), ("dns_san", .dnsSan), ("cn_legacy", .cnLegacy)])
      fun policy settings => { settings with identitySource := policy }),
  ("--reverse-proxy-identity-header",
    reading (nonEmpty "--reverse-proxy-identity-header" "header name")
      fun name settings => { settings with reverseProxyIdentityHeader := some name }),
  ("--reverse-proxy-header-format",
    reading (oneOf "--reverse-proxy-header-format"
        [("plain", ReverseProxyHeaderFormat.plain), ("xfcc", .xfcc)])
      fun format settings => { settings with reverseProxyHeaderFormat := format }),
  ("--authz",
    reading (oneOf "--authz" [("off", AuthzKind.off), ("reference", .reference)])
      fun kind settings => { settings with authz := kind }),
  ("--inner-mode",
    reading (oneOf "--inner-mode"
        [("oneshot", InnerModeKind.oneShot), ("persistent", .persistent)])
      fun mode settings => { settings with innerMode := mode }),
  ("--max-header-bytes",
    reading (parseNumber "--max-header-bytes") fun n =>
      changeLimits fun limits => { limits with maxHeaderBytes := n }),
  ("--max-body-bytes",
    reading (parseNumber "--max-body-bytes") fun n =>
      changeLimits fun limits => { limits with maxBodyBytes := n }),
  ("--read-timeout-secs",
    reading (parseTimeout "--read-timeout-secs") fun timeout =>
      changeLimits fun limits => { limits with readTimeout := timeout }),
  ("--request-deadline-secs",
    reading (parseTimeout "--request-deadline-secs") fun deadline =>
      changeLimits fun limits => { limits with requestDeadline := deadline }),
  ("--write-timeout-secs",
    reading (parseTimeout "--write-timeout-secs") fun timeout =>
      changeLimits fun limits => { limits with writeTimeout := timeout }),
  ("--inner-read-timeout-secs",
    reading (parsePositiveTimeout "--inner-read-timeout-secs") fun timeout =>
      changeLaunch fun launch => { launch with innerReadTimeout := timeout }),
  ("--max-connections",
    reading (parsePositive "--max-connections") fun n =>
      changeLimits fun limits => { limits with maxConcurrentConnections := n }),
  ("--max-client-cert-lifetime",
    reading parseCertLifetime fun lifetime settings =>
      { settings with maxClientCertLifetime := lifetime }),
  ("--inherit-env",
    reading (oneOf "--inherit-env" booleans) fun inherit =>
      changeLaunch fun launch => { launch with inheritEnv := inherit }),
  ("--inner-env",
    reading parseEnvPair fun pair =>
      changeLaunch fun launch => { launch with explicitEnv := launch.explicitEnv ++ [pair] }),
  ("--inner-env-allow",
    storing fun name =>
      changeLaunch fun launch => { launch with allowEnvNames := launch.allowEnvNames ++ [name] }),
  ("--inner-working-dir",
    storing fun path => changeLaunch fun launch => { launch with workingDir := some path }),
  ("--inner-stderr-cap-bytes",
    reading (parsePositive "--inner-stderr-cap-bytes") fun n =>
      changeLaunch fun launch => { launch with stderrCapBytes := n }),
  ("--inner-stderr-cap-lines",
    reading (parsePositive "--inner-stderr-cap-lines") fun n =>
      changeLaunch fun launch => { launch with stderrCapLines := n }),
  rlimitFlag "--inner-rlimit-nofile" fun ceiling rlimits => { rlimits with nofile := ceiling },
  rlimitFlag "--inner-rlimit-cpu-seconds"
    fun ceiling rlimits => { rlimits with cpuSeconds := ceiling },
  rlimitFlag "--inner-rlimit-as-bytes"
    fun ceiling rlimits => { rlimits with addressSpaceBytes := ceiling },
  rlimitFlag "--inner-rlimit-data-bytes"
    fun ceiling rlimits => { rlimits with dataBytes := ceiling },
  rlimitFlag "--inner-rlimit-core-bytes"
    fun ceiling rlimits => { rlimits with coreBytes := ceiling },
  rlimitFlag "--inner-rlimit-fsize-bytes"
    fun ceiling rlimits => { rlimits with fsizeBytes := ceiling },
  ("--inner-rlimit-best-effort",
    reading (oneOf "--inner-rlimit-best-effort" booleans) fun bestEffort =>
      changeRlimits fun rlimits => { rlimits with bestEffort := bestEffort }),
  ("--inner-sandbox",
    reading (oneOf "--inner-sandbox" [("off", SandboxMode.off), ("enforce", .enforce)])
      setSandboxMode),
  ("--inner-fs-allow-read",
    reading (pathSegments "--inner-fs-allow-read") fun paths => changeSandbox fun sandbox =>
      { sandbox with fsAllowRead := sandbox.fsAllowRead ++ paths }),
  ("--inner-fs-allow-write",
    reading (pathSegments "--inner-fs-allow-write") fun paths => changeSandbox fun sandbox =>
      { sandbox with fsAllowWrite := sandbox.fsAllowWrite ++ paths }),
  ("--inner-net",
    reading (oneOf "--inner-net" [("deny", NetworkPolicy.denyAll), ("allow", .allow)])
      fun policy => changeSandbox fun sandbox => { sandbox with network := policy })]

/-- The flags that the rest behind `--inner-command` is searched for. -/
def knownProxyFlags : List String := [
  "--allow-env-keysource", "--allow-reference-authz", "--crl-allow-unknown-status",
  "--ocsp-soft-fail", "--gcp-kms-use-metadata", "--strict", "--production", "--bind",
  "--audience", "--server-signer", "--server-key-id", "--max-clock-skew",
  "--expected-version-policy", "--key-source", "--pkcs11-module", "--pkcs11-pin",
  "--pkcs11-token-label", "--pkcs11-key-label", "--pkcs11-tls-key-label", "--aws-kms-region",
  "--aws-kms-key-id", "--aws-kms-endpoint", "--aws-kms-tls-key-id", "--gcp-kms-key-version",
  "--gcp-kms-endpoint", "--gcp-kms-tls-key-version", "--signing-key-seed", "--tls-cert",
  "--tls-key", "--client-ca", "--client-crl", "--trust", "--client-ocsp", "--ocsp-responder-url",
  "--replay-cache", "--replay-path", "--replay-redis-url", "--cpstore-etcd-endpoint",
  "--replay-durability-tier", "--revocation-tier", "--transport-binding",
  "--transport-identity-source", "--reverse-proxy-identity-header",
  "--reverse-proxy-header-format", "--ingress-lb-key", "--authz", "--revocation-list",
  "--allow-empty-revocation", "--inner-mode", "--max-body-bytes", "--read-timeout-secs",
  "--request-deadline-secs", "--write-timeout-secs", "--inner-read-timeout-secs",
  "--max-connections", "--max-client-cert-lifetime", "--inherit-env", "--inner-env",
  "--inner-env-allow", "--inner-working-dir", "--inner-stderr-cap-bytes",
  "--inner-stderr-cap-lines", "--inner-rlimit-nofile", "--inner-rlimit-cpu-seconds",
  "--inner-rlimit-as-bytes", "--inner-rlimit-data-bytes", "--inner-rlimit-core-bytes",
  "--inner-rlimit-fsize-bytes", "--inner-rlimit-best-effort", "--inner-sandbox",
  "--inner-fs-allow-read", "--inner-fs-allow-write", "--inner-net"]

/-! ## The loop over the arguments -/

def misplacedFlag (misplaced : String) : String :=
  "proxy flag " ++ misplaced ++ " appears AFTER --inner-command, where it would be silently " ++
    "passed to the inner server instead of configuring the proxy; move " ++ misplaced ++
    " (and any other proxy flags) BEFORE --inner-command"

def parseLoop (build : Build) (parsed : Parsed) (args : List String) : Except String Parsed :=
  match args with
  | [] => .ok parsed
  | flag :: rest =>
    if flag = "--inner-command" then
      match rest.find? (· ∈ knownProxyFlags) with
      | some misplaced => .error (misplacedFlag misplaced)
      | none => .ok { parsed with innerCommand := rest }
    else
      match Assoc.find? flag switchFlags with
      | some switch => parseLoop build { parsed with switches := switch parsed.switches } rest
      | none =>
        match rest with
        | [] => .error ("flag " ++ flag ++ " requires a value")
        | value :: rest =>
          match Assoc.find? flag (valueFlags build) with
          | none => .error ("unknown flag " ++ flag)
          | some read =>
            match read value with
            | .error error => .error error
            | .ok change =>
              parseLoop build { parsed with settings := change parsed.settings } rest

/-! ## Checks across flags -/

/-- Refuse under a condition. -/
def refuseIf (condition : Bool) (message : String) : Except String Unit :=
  if condition then .error message else .ok ()

def checkReplay (choices : Choices) : Except String Unit := do
  refuseIf (choices.replay = .file && choices.replayPath.isNone)
    "--replay-cache file requires --replay-path"
  refuseIf (choices.replay = .shared && choices.replayDurabilityTier.isNone)
    ("--replay-cache shared requires --replay-durability-tier (redis-async | " ++
      "redis-wait-quorum:<quorum>:<timeout_ms> | linearizable | single-store-fail-closed)")
  let tierIsLinearizable := choices.replayDurabilityTier = some .linearizable
  refuseIf (choices.replay = .shared && tierIsLinearizable && choices.cpstoreEtcdEndpoint.isNone)
    ("--replay-durability-tier linearizable requires a CP/linearizable store endpoint: " ++
      "--cpstore-etcd-endpoint <http://host:2379> (the LINEARIZABLE claim is forbidden without " ++
      "a configured CPStore; it is NEVER silently downgraded to Redis or in-memory)")
  refuseIf (choices.replay = .shared && !tierIsLinearizable && choices.replayRedisUrl.isNone)
    "--replay-cache shared requires --replay-redis-url"
  refuseIf (choices.cpstoreEtcdEndpoint.isSome &&
      !(choices.replay = .shared && tierIsLinearizable))
    ("--cpstore-etcd-endpoint has no effect without --replay-cache shared " ++
      "--replay-durability-tier linearizable")

def checkKeySource (choices : Choices) (switches : Switches) : Except String Unit := do
  refuseIf (choices.keySource = .env && !switches.allowEnvKeysource)
    ("--key-source env requires --allow-env-keysource (env key material is dev/CI-only; " ++
      "use --key-source file in production)")
  refuseIf (choices.innerLaunch.inheritEnv && choices.keySource = .env)
    ("--inherit-env true passes the proxy's ENTIRE environment to the inner server, but " ++
      "--key-source env reads the signing-key seed from a proxy environment variable, so full " ++
      "inheritance would leak that signing seed into the inner process; these are " ++
      "incompatible. Use --inherit-env false with explicit --inner-env / --inner-env-allow, " ++
      "or a non-env --key-source")
  refuseIf (choices.keySource = .pkcs11 && choices.pkcs11Module.isNone)
    "--key-source pkcs11 requires --pkcs11-module <path>"
  refuseIf (choices.keySource = .pkcs11 && choices.pkcs11Pin.isNone)
    "--key-source pkcs11 requires --pkcs11-pin <pin>"
  refuseIf (choices.keySource = .pkcs11 && choices.pkcs11TokenLabel.isNone)
    "--key-source pkcs11 requires --pkcs11-token-label <label>"
  refuseIf (choices.keySource = .pkcs11 && choices.pkcs11KeyLabel.isNone)
    "--key-source pkcs11 requires --pkcs11-key-label <label>"
  refuseIf (choices.pkcs11TlsKeyLabel.isSome && choices.keySource ≠ .pkcs11)
    "--pkcs11-tls-key-label has no effect without --key-source pkcs11"
  refuseIf (choices.keySource = .awsKms && choices.awsKmsRegion.isNone)
    "--key-source aws-kms requires --aws-kms-region <region>"
  refuseIf (choices.keySource = .awsKms && choices.awsKmsKeyId.isNone)
    "--key-source aws-kms requires --aws-kms-key-id <key-id|arn|alias>"
  refuseIf (choices.awsKmsTlsKeyId.isSome && choices.keySource ≠ .awsKms)
    "--aws-kms-tls-key-id has no effect without --key-source aws-kms"
  refuseIf (choices.keySource = .gcpKms && choices.gcpKmsKeyVersion.isNone)
    ("--key-source gcp-kms requires --gcp-kms-key-version " ++
      "<projects/.../cryptoKeyVersions/N>")
  refuseIf (choices.gcpKmsTlsKeyVersion.isSome && choices.keySource ≠ .gcpKms)
    "--gcp-kms-tls-key-version has no effect without --key-source gcp-kms"
  refuseIf (switches.gcpKmsUseMetadata && choices.keySource ≠ .gcpKms)
    "--gcp-kms-use-metadata has no effect without --key-source gcp-kms"

/-- Every key is valid, and its id is new. -/
def checkLbKeys (build : Build) (seen : List String) :
    List (String × String) → Except String Unit
  | [] => .ok ()
  | (keyId, keyB64) :: rest =>
    if keyId ∈ seen then
      .error ("duplicate --ingress-lb-key id '" ++ keyId ++ "' (each LB key id must be unique)")
    else if build.isVerificationKey keyB64 then checkLbKeys build (keyId :: seen) rest
    else .error ("invalid --ingress-lb-key '" ++ keyId ++
      "': the body must be a base64url-no-pad 32-byte Ed25519 public key")

def checkIngress (build : Build) (choices : Choices) : Except String Unit := do
  refuseIf (choices.reverseProxyIdentityHeader.isSome && choices.maxClientCertLifetime.isSome)
    ("--reverse-proxy-identity-header terminates mTLS UPSTREAM, so the local " ++
      "client-certificate identity path is disabled and a local --max-client-cert-lifetime " ++
      "cannot be enforced; pass --max-client-cert-lifetime none to acknowledge that local " ++
      "client-cert controls do not apply in reverse-proxy mode")
  refuseIf (choices.ingressLbKeys ≠ [] && choices.binding ≠ .lbAssertion)
    "--ingress-lb-key has no effect without --transport-binding lb-assertion"
  refuseIf (choices.binding = .lbAssertion && choices.ingressLbKeys = [])
    ("--transport-binding lb-assertion requires at least one --ingress-lb-key " ++
      "<keyid>:<base64url-ed25519-pub> (the trusted LB verification key)")
  checkLbKeys build [] choices.ingressLbKeys

def checkOcsp (build : Build) (choices : Choices) (switches : Switches) : Except String Unit := do
  refuseIf (choices.clientOcsp ≠ .require && choices.ocspResponderUrl.isSome)
    "--ocsp-responder-url has no effect without --client-ocsp require"
  refuseIf (choices.clientOcsp ≠ .require && switches.ocspSoftFail)
    "--ocsp-soft-fail has no effect without --client-ocsp require"
  refuseIf (choices.clientOcsp = .require && !build.onlineOcsp)
    ("--client-ocsp require needs the online_ocsp feature, which is not available in this " ++
      "build (rebuild with --features online_ocsp)")
  refuseIf (choices.clientOcsp = .require && build.onlineOcsp &&
      choices.reverseProxyIdentityHeader.isSome)
    ("--client-ocsp require checks the locally-terminated client certificate, which is absent " ++
      "in reverse-proxy mode (--reverse-proxy-identity-header); online OCSP cannot apply there")

def validateTlsSigningExclusivity (hasDelegatedTls hasExportedTlsKey : Bool) :
    Except String Unit :=
  refuseIf (hasDelegatedTls && hasExportedTlsKey)
    ("TLS signing is delegated XOR exported (ADR-MCPS-028 §G): a delegated-TLS key source must " ++
      "not also be given an exported --tls-key. Remove --tls-key when using a delegated " ++
      "(non-exporting device/KMS) TLS signer.")

def require (text : Option String) (name : String) : Except String String :=
  text.okOr ("missing required " ++ name)

def hasDelegatedTls (choices : Choices) : Bool :=
  choices.pkcs11TlsKeyLabel.isSome || choices.awsKmsTlsKeyId.isSome ||
    choices.gcpKmsTlsKeyVersion.isSome

/-- The TLS key's path, which a delegated key does without. -/
def exportedTlsKey (settings : Settings) : Except String String :=
  if hasDelegatedTls settings.toChoices then .ok (settings.tlsKey.getD "")
  else require settings.tlsKey "--tls-key"

def buildConfig (parsed : Parsed) : Except String Config := do
  let settings := parsed.settings
  let bind ← require settings.bind "--bind"
  let audience ← require settings.audience "--audience"
  let serverSigner ← require settings.serverSigner "--server-signer"
  let serverKeyId ← require settings.serverKeyId "--server-key-id"
  let signingKeySeed ← require settings.signingKeySeed "--signing-key-seed"
  let tlsCert ← require settings.tlsCert "--tls-cert"
  let tlsKey ← exportedTlsKey settings
  let clientCa ← require settings.clientCa "--client-ca"
  let trustPath ← require settings.trustPath "--trust"
  return { settings.toChoices, parsed.switches with
    bind, audience, serverSigner, serverKeyId, signingKeySeed, tlsCert, tlsKey, clientCa,
    trustPath, innerCommand := parsed.innerCommand }

def checkAuthz (config : Config) : Except String Unit := do
  refuseIf (config.authz = .reference && config.revocationListPaths = [] &&
      !config.allowEmptyRevocation)
    ("--authz reference enforces signed-authorization grants but no revocation deny-list is " ++
      "configured, so NO grant could ever be revoked (silent fail-open); supply " ++
      "--revocation-list <file>, or explicitly accept the no-revocation posture with " ++
      "--allow-empty-revocation")
  refuseIf (config.authz = .reference && !config.allowReferenceAuthz)
    ("--authz reference makes the reference signed-authorization profile the SOLE " ++
      "authorization authority, but it is a conformance/reference profile, NOT the long-term " ++
      "production recommendation (ADR-MCPS-013; Biscuit is the intended first serious external " ++
      "profile). Explicitly acknowledge running it as the production authority with " ++
      "--allow-reference-authz (and prefer landing a production profile)")

/-! ## The strict posture -/

/-- A violation under a condition. -/
def violationIf (condition : Bool) (message : String) : List String :=
  if condition then [message] else []

/-- The tier of a shared replay store is too weak. -/
def tierViolation (config : Config) : List String :=
  match config.replay, config.replayDurabilityTier with
  | .shared, some tier => violationIf (!tier.meetsStrictProductionMinimum)
      ("--replay-durability-tier " ++ tier.wireName ++ " is weaker than the strict-production " ++
        "minimum; declare redis-wait-quorum:<quorum>:<timeout_ms> or a linearizable tier")
  | _, _ => []

def strictViolations (config : Config) : List String := List.flatten [
  violationIf (config.keySource = .env)
    ("--key-source env (env key material is visible to the process tree and dev/CI-only); " ++
      "use --key-source file"),
  violationIf config.maxClientCertLifetime.isNone
    ("--max-client-cert-lifetime none/0 disables client-cert lifetime enforcement; set a " ++
      "bounded lifetime (default 1h)"),
  violationIf config.innerLaunch.inheritEnv
    ("--inherit-env true passes the proxy's ENTIRE environment to the inner server (leaks " ++
      "env-loaded secrets); use --inherit-env false with explicit --inner-env / " ++
      "--inner-env-allow"),
  violationIf (config.identitySource = .cnLegacy)
    ("--transport-identity-source cn_legacy is a deprecated, insecure identity binding; use " ++
      "uri_san or dns_san"),
  violationIf config.innerLaunch.rlimits.bestEffort
    ("--inner-rlimit-best-effort true silently degrades resource ceilings to logged no-ops; " ++
      "production must fail closed (--inner-rlimit-best-effort false)"),
  violationIf (config.replay = .memory)
    ("--replay-cache memory is non-durable: it keeps admitted nonces only in process memory " ++
      "(and is the cache used when --replay-cache is omitted), so a proxy RESTART forgets them " ++
      "and re-opens a replay window for any still-fresh captured envelope until its " ++
      "expires_at+skew; production must use a durable replay store: --replay-cache file " ++
      "(single-node durability) or --replay-cache shared (horizontal durability)"),
  tierViolation config,
  violationIf config.sandboxExplicitlyOff
    ("--inner-sandbox off explicitly disables inner-server containment (the inner server can " ++
      "reach any file/socket its OS credentials permit); production must request containment " ++
      "(--inner-sandbox enforce)"),
  violationIf config.reverseProxyIdentityHeader.isSome
    ("--reverse-proxy-identity-header trusts a forwarded identity header that any peer able to " ++
      "reach the socket can spoof; production must terminate mTLS locally (omit " ++
      "--reverse-proxy-identity-header)"),
  violationIf (config.binding = .none)
    ("--transport-binding none ignores the mTLS channel identity, decoupling the verified " ++
      "request signer from the authenticated channel; production must bind them " ++
      "(--transport-binding exact)"),
  violationIf (config.binding = .lbAssertion)
    ("--transport-binding lb-assertion places the load balancer in the trusted computing base " ++
      "(the LB terminates the client mTLS and signs a request-bound assertion); this is " ++
      "request-bound ingress assertion, NOT end-to-end client↔node mTLS; production must bind " ++
      "end-to-end (--transport-binding exact with locally-terminated client mTLS)"),
  violationIf (config.crlAllowUnknownStatus && config.clientCrlPaths ≠ [])
    ("--crl-allow-unknown-status admits a client cert whose revocation status cannot be " ++
      "determined from the configured CRLs (fail-open); production must fail closed (omit " ++
      "--crl-allow-unknown-status)"),
  violationIf (config.authz = .reference && config.allowEmptyRevocation)
    ("--allow-empty-revocation runs --authz reference with no revocation deny-list, so a " ++
      "leaked-but-unexpired authorization grant can never be revoked (fail-open); production " ++
      "must supply --revocation-list <file>"),
  violationIf (config.authz = .reference)
    ("--authz reference makes the reference/conformance signed-authorization profile the SOLE " ++
      "authorization authority; it is NOT the long-term production recommendation " ++
      "(ADR-MCPS-013); production must run a production authorization profile (Biscuit)"),
  violationIf config.ocspSoftFail
    ("--ocsp-soft-fail admits a connection on an indeterminate online-OCSP result " ++
      "(Unknown/unreachable/timeout/parse error — fail-open); production must fail closed " ++
      "(omit --ocsp-soft-fail)")]

def checkStrict (config : Config) : Except String Unit :=
  refuseIf (config.strict && strictViolations config ≠ [])
    ("--strict/--production refuses unsafe configuration:\n  - " ++
      "\n  - ".intercalate (strictViolations config))

/-! ## The parser -/

def validate (build : Build) (parsed : Parsed) : Except String Config := do
  let choices := parsed.settings.toChoices
  checkReplay choices
  checkKeySource choices parsed.switches
  refuseIf parsed.innerCommand.isEmpty "missing required --inner-command <cmd> [args...]"
  checkIngress build choices
  checkOcsp build choices parsed.switches
  validateTlsSigningExclusivity (hasDelegatedTls choices) parsed.settings.tlsKey.isSome
  let config ← buildConfig parsed
  checkAuthz config
  checkStrict config
  return config

def parseArgs (build : Build) (args : List String) : Except String Config := do
  let parsed ← parseLoop build {} args
  validate build parsed

end Mcps.Cli
