import Mcps.Lib.KeyedActions
import Mcps.Proxy.CliSafety

/-!
# The order of the options

Options in front of `--inner-command` may be given in any order that keeps the order of those
with the same flag.  A value flag reads its value into a change of one entry of the settings,
and no two flags are about the same entry; switches only ever turn something on.
-/

namespace Mcps.Cli

open List Assoc

open KeyedActions (OnEntry)

/-! ## The entries of the settings -/

abbrev Entry := (τ : Type) × τ

/-- The entries, in the order of the flags that set them.  `--inner-sandbox` sets the mode and
whether it is off on purpose. -/
def Settings.entries (settings : Settings) : List Entry :=
  let { limits, innerLaunch, .. } := settings
  let { rlimits, sandbox, .. } := innerLaunch
  [⟨_, settings.bind⟩, ⟨_, settings.audience⟩, ⟨_, settings.serverSigner⟩,
    ⟨_, settings.serverKeyId⟩, ⟨_, settings.maxClockSkew⟩, ⟨_, settings.expectedVersionPolicy⟩,
    ⟨_, settings.keySource⟩, ⟨_, settings.pkcs11Module⟩, ⟨_, settings.pkcs11Pin⟩,
    ⟨_, settings.pkcs11TokenLabel⟩, ⟨_, settings.pkcs11KeyLabel⟩, ⟨_, settings.pkcs11TlsKeyLabel⟩,
    ⟨_, settings.awsKmsRegion⟩, ⟨_, settings.awsKmsKeyId⟩, ⟨_, settings.awsKmsEndpoint⟩,
    ⟨_, settings.awsKmsTlsKeyId⟩, ⟨_, settings.gcpKmsKeyVersion⟩, ⟨_, settings.gcpKmsEndpoint⟩,
    ⟨_, settings.gcpKmsTlsKeyVersion⟩, ⟨_, settings.signingKeySeed⟩, ⟨_, settings.tlsCert⟩,
    ⟨_, settings.tlsKey⟩, ⟨_, settings.clientCa⟩, ⟨_, settings.clientCrlPaths⟩,
    ⟨_, settings.trustPath⟩, ⟨_, settings.revocationListPaths⟩, ⟨_, settings.clientOcsp⟩,
    ⟨_, settings.ocspResponderUrl⟩, ⟨_, settings.replay⟩, ⟨_, settings.replayPath⟩,
    ⟨_, settings.replayRedisUrl⟩, ⟨_, settings.cpstoreEtcdEndpoint⟩,
    ⟨_, settings.replayDurabilityTier⟩, ⟨_, settings.revocationTier⟩, ⟨_, settings.binding⟩,
    ⟨_, settings.ingressLbKeys⟩, ⟨_, settings.identitySource⟩,
    ⟨_, settings.reverseProxyIdentityHeader⟩, ⟨_, settings.reverseProxyHeaderFormat⟩,
    ⟨_, settings.authz⟩, ⟨_, settings.innerMode⟩, ⟨_, limits.maxHeaderBytes⟩,
    ⟨_, limits.maxBodyBytes⟩, ⟨_, limits.readTimeout⟩, ⟨_, limits.requestDeadline⟩,
    ⟨_, limits.writeTimeout⟩, ⟨_, innerLaunch.innerReadTimeout⟩,
    ⟨_, limits.maxConcurrentConnections⟩, ⟨_, settings.maxClientCertLifetime⟩,
    ⟨_, innerLaunch.inheritEnv⟩, ⟨_, innerLaunch.explicitEnv⟩, ⟨_, innerLaunch.allowEnvNames⟩,
    ⟨_, innerLaunch.workingDir⟩, ⟨_, innerLaunch.stderrCapBytes⟩, ⟨_, innerLaunch.stderrCapLines⟩,
    ⟨_, rlimits.nofile⟩, ⟨_, rlimits.cpuSeconds⟩, ⟨_, rlimits.addressSpaceBytes⟩,
    ⟨_, rlimits.dataBytes⟩, ⟨_, rlimits.coreBytes⟩, ⟨_, rlimits.fsizeBytes⟩,
    ⟨_, rlimits.bestEffort⟩, ⟨_, (sandbox.mode, settings.sandboxExplicitlyOff)⟩,
    ⟨_, sandbox.fsAllowRead⟩, ⟨_, sandbox.fsAllowWrite⟩, ⟨_, sandbox.network⟩]

attribute [ext] Settings Http.ServerLimits InnerLaunchConfig RLimits SandboxProfile

theorem Settings.entries_injective : Function.Injective Settings.entries := by
  intro left right same
  simp only [Settings.entries, cons.injEq, Sigma.mk.injEq, heq_eq_eq, Prod.mk.injEq] at same
  simp only [Settings.ext_iff, Http.ServerLimits.ext_iff, InnerLaunchConfig.ext_iff,
    RLimits.ext_iff, SandboxProfile.ext_iff, same, and_self]

/-- The change is one of the entry at the index: it leaves the others alone and only looks at its
own. -/
structure Touches (index : Nat) (change : Settings → Settings) : Prop where
  others : ∀ settings, (change settings).entries.eraseIdx index = settings.entries.eraseIdx index
  own : ∀ settings other : Settings, settings.entries[index]? = other.entries[index]? →
    (change settings).entries[index]? = (change other).entries[index]?

def TouchesOnly (index : Nat) (read : Reader) : Prop :=
  ∀ value change, read value = .ok change → Touches index change

theorem touchesOnly_storing {index : Nat} {store : String → Settings → Settings}
    (touches : ∀ value, Touches index (store value)) : TouchesOnly index (storing store) := by
  intro value change read
  cases read
  exact touches value

theorem touchesOnly_reading {τ : Type} {index : Nat} {read : String → Except String τ}
    {store : τ → Settings → Settings} (touches : ∀ value, Touches index (store value)) :
    TouchesOnly index (reading read store) := by
  intro text change read
  obtain ⟨value, _, rfl⟩ := Except.map_eq_ok.mp read
  exact touches value

variable {index : Nat} {change : Settings → Settings}

theorem Touches.getElem?_ne (touches : Touches index change) (settings : Settings) {other : Nat}
    (different : other ≠ index) : (change settings).entries[other]? = settings.entries[other]? := by
  have kept := touches.others settings
  obtain before | after := Nat.lt_or_gt_of_ne different
  · have same := congrArg (fun entries => entries[other]?) kept
    simpa [getElem?_eraseIdx, before] using same
  · have same := congrArg (fun entries => entries[other - 1]?) kept
    have past : ¬ other - 1 < index := by omega
    have back : other - 1 + 1 = other := by omega
    simpa [getElem?_eraseIdx, past, back] using same

theorem touches_setSandboxMode (mode : SandboxMode) : Touches 62 (setSandboxMode mode) := by
  cases mode with
  | off =>
    have sets : setSandboxMode .off = fun settings => changeSandbox
        (fun sandbox => { sandbox with mode := .off })
        { settings with sandboxExplicitlyOff := true } := by
      funext settings
      simp [setSandboxMode]
    rw [sets]
    exact ⟨fun _ => rfl, fun _ _ _ => rfl⟩
  | enforce =>
    refine ⟨fun _ => rfl, fun settings other same => ?_⟩
    have pairs := eq_of_heq (Sigma.mk.inj (Option.some.inj same)).2
    have explicit : settings.sandboxExplicitlyOff = other.sandboxExplicitlyOff :=
      (Prod.mk.inj pairs).2
    exact congrArg (fun off => (some ⟨_, (SandboxMode.enforce, off)⟩ : Option Entry)) explicit

theorem append_entry {α : Type} {left right : List α}
    (same : (some ⟨_, left⟩ : Option Entry) = some ⟨_, right⟩) (added : List α) :
    (some ⟨_, left ++ added⟩ : Option Entry) = some ⟨_, right ++ added⟩ := by
  simp only [Option.some.injEq, Sigma.mk.injEq, heq_eq_eq, true_and] at same
  rw [same]

variable (build : Build)

theorem touchesOnly_valueFlags :
    ∀ entry ∈ (valueFlags build).zipIdx, TouchesOnly entry.2 entry.1.2 := by
  simp only [valueFlags, zipIdx_cons, zipIdx_nil, forall_mem_cons,
    not_mem_nil, IsEmpty.forall_iff, implies_true, and_true]
  and_intros
  all_goals
    first
    | apply touchesOnly_storing
    | apply touchesOnly_reading
    first
    | exact fun _ => ⟨fun _ => rfl, fun _ _ _ => rfl⟩
    | exact fun _ => ⟨fun _ => rfl, fun _ _ same => append_entry same _⟩
    | exact touches_setSandboxMode

theorem names_nodup : ((valueFlags build).map Prod.fst).Nodup := by
  have names : (valueFlags build).map Prod.fst = (valueFlags asciiBuild).map Prod.fst := rfl
  rw [names]
  decide +kernel

/-- The entry that a flag sets. -/
def entry (build : Build) (settings : Settings) (flag : String) : Option Entry :=
  settings.entries[((valueFlags build).map Prod.fst).idxOf flag]?

theorem entry_injective : Function.Injective (entry build) := by
  intro left right same
  apply Settings.entries_injective
  apply ext_getElem?
  intro index
  by_cases inside : index < ((valueFlags build).map Prod.fst).length
  · have found := congrFun same ((valueFlags build).map Prod.fst)[index]
    rwa [entry, entry, (names_nodup build).idxOf_getElem] at found
  · have past (settings : Settings) : settings.entries[index]? = none :=
      getElem?_eq_none (not_lt.mp inside)
    rw [past, past]

theorem onEntry_of_find? {build : Build} {flag value : String} {read : Reader}
    (found : find? flag (valueFlags build) = some read) (reads : read value = .ok change) :
    OnEntry (entry build) flag change := by
  obtain ⟨index, inside, held⟩ := getElem_of_mem (mem_of_find? found)
  have named : index < ((valueFlags build).map Prod.fst).length := by simpa using inside
  have name : ((valueFlags build).map Prod.fst)[index] = flag := by simp [held]
  have position : ((valueFlags build).map Prod.fst).idxOf flag = index := by
    rw [← name]
    exact (names_nodup build).idxOf_getElem index named
  have touches : Touches index change := by
    apply touchesOnly_valueFlags build ((flag, read), index) _ value change reads
    rw [mem_zipIdx_iff_getElem?, getElem?_eq_getElem inside, held]
  refine ⟨?_, ?_⟩
  · intro settings other different
    apply touches.getElem?_ne
    intro same
    have found := getElem_idxOf (same ▸ named)
    apply different
    rw [← found, ← name]
    congr 1
  · intro settings other same
    rw [entry, entry, position] at same ⊢
    exact touches.own settings other same

/-! ## Options -/

/-- A flag without a value, or one with its value. -/
inductive FlagUnit where
  | switch (flag : String)
  | value (flag text : String)
  deriving DecidableEq

namespace FlagUnit

def flag : FlagUnit → String
  | .switch flag => flag
  | .value flag _ => flag

def args : FlagUnit → List String
  | .switch flag => [flag]
  | .value flag text => [flag, text]

/-- The parser takes the flag for what it is here. -/
def WellFormed : FlagUnit → Prop
  | .switch flag => flag ∈ switchFlags.map Prod.fst
  | .value flag _ => flag ∉ switchFlags.map Prod.fst ∧ flag ≠ "--inner-command"

def onSwitches (switches : Switches) : FlagUnit → Switches
  | .switch flag => ((Assoc.find? flag switchFlags).getD id) switches
  | .value _ _ => switches

/-- What a flag with a value does to the settings, if it is known and its value is read. -/
def change? (build : Build) : FlagUnit → Option (Settings → Settings)
  | .switch _ => some id
  | .value flag text =>
    (Assoc.find? flag (valueFlags build)).bind fun read => (read text).toOption

def onSettings (build : Build) (settings : Settings) (unit : FlagUnit) : Settings :=
  (unit.change? build).getD id settings

def onParsed (build : Build) (parsed : Parsed) (unit : FlagUnit) : Parsed :=
  { parsed with
    settings := unit.onSettings build parsed.settings
    switches := unit.onSwitches parsed.switches }

end FlagUnit

/-- Options in front of the inner command. -/
def arguments (units : List FlagUnit) (tail : List String) : List String :=
  units.flatMap FlagUnit.args ++ "--inner-command" :: tail

/-- The same options, with those of the same flag in the same order. -/
def Reorders (units reordered : List FlagUnit) : Prop :=
  ∀ flag, units.filter (·.flag = flag) = reordered.filter (·.flag = flag)

theorem onEntry_onSettings (unit : FlagUnit) :
    OnEntry (entry build) unit.flag (FlagUnit.onSettings build · unit) := by
  unfold FlagUnit.onSettings
  cases changed : unit.change? build with
  | none => exact KeyedActions.onEntry_id unit.flag
  | some change =>
    cases unit with
    | switch flag =>
      cases changed
      exact KeyedActions.onEntry_id flag
    | value flag text =>
      obtain ⟨_, found, reads⟩ := Option.bind_eq_some_iff.mp changed
      exact onEntry_of_find? found (Except.toOption_eq_some.mp reads)

theorem parseLoop_unit {build : Build} {parsed final : Parsed} {unit : FlagUnit}
    (wellFormed : unit.WellFormed) (rest : List String) :
    parseLoop build parsed (unit.args ++ rest) = .ok final ↔
      (unit.change? build).isSome = true ∧
        parseLoop build (unit.onParsed build parsed) rest = .ok final := by
  cases unit with
  | switch flag =>
    have other : flag ≠ "--inner-command" := by
      intro same
      rw [FlagUnit.WellFormed, same] at wellFormed
      exact absurd wellFormed (by decide)
    cases found : find? flag switchFlags with
    | none => exact absurd wellFormed (notMem_names_of_find? found)
    | some switch =>
      rw [FlagUnit.args, parseLoop.eq_def]
      simp [other, found, FlagUnit.change?, FlagUnit.onParsed, FlagUnit.onSettings,
        FlagUnit.onSwitches]
  | value flag text =>
    have noSwitch : find? flag switchFlags = none := by
      by_contra found
      obtain ⟨switch, found⟩ := Option.ne_none_iff_exists'.mp found
      exact wellFormed.1 (mem_names_of_find? found)
    rw [FlagUnit.args, cons_append, parseLoop.eq_def]
    simp only [wellFormed.2, noSwitch, FlagUnit.change?, FlagUnit.onParsed, FlagUnit.onSettings,
      FlagUnit.onSwitches]
    cases found : find? flag (valueFlags build) with
    | none => simp
    | some read =>
      cases reads : read text with
      | error _ | ok _ => simp [reads, Except.toOption]

variable {units : List FlagUnit}

theorem parseLoop_units {build : Build} {parsed final : Parsed}
    (wellFormed : ∀ unit ∈ units, unit.WellFormed) (rest : List String) :
    parseLoop build parsed (units.flatMap FlagUnit.args ++ rest) = .ok final ↔
      (∀ unit ∈ units, (unit.change? build).isSome = true) ∧
        parseLoop build (units.foldl (FlagUnit.onParsed build) parsed) rest = .ok final := by
  induction units generalizing parsed with
  | nil => simp
  | cons unit units ih =>
    obtain ⟨first, others⟩ := forall_mem_cons.mp wellFormed
    rw [flatMap_cons, append_assoc, parseLoop_unit first, ih others,
      forall_mem_cons, and_assoc, foldl_cons]

theorem foldl_onParsed (units : List FlagUnit) (parsed : Parsed) :
    units.foldl (FlagUnit.onParsed build) parsed =
      { parsed with
        settings := units.foldl (FlagUnit.onSettings build) parsed.settings
        switches := units.foldl FlagUnit.onSwitches parsed.switches } := by
  induction units generalizing parsed with
  | nil => rfl
  | cons unit units ih => exact ih _

theorem switchFlags_comm : ∀ first ∈ switchFlags, ∀ second ∈ switchFlags, ∀ switches,
    second.2 (first.2 switches) = first.2 (second.2 switches) := by
  simp [switchFlags]

theorem onSwitches_comm (switches : Switches) (first second : FlagUnit) :
    second.onSwitches (first.onSwitches switches) =
      first.onSwitches (second.onSwitches switches) := by
  cases first with
  | value => rfl
  | switch flag =>
    cases second with
    | value => rfl
    | switch other =>
      simp only [FlagUnit.onSwitches]
      cases one : find? flag switchFlags with
      | none => rfl
      | some change =>
        cases two : find? other switchFlags with
        | none => rfl
        | some next =>
          exact switchFlags_comm _ (mem_of_find? one) _ (mem_of_find? two)
            switches

variable {reordered : List FlagUnit}

theorem Reorders.perm (same : Reorders units reordered) : units.Perm reordered := by
  rw [perm_iff_count]
  intro unit
  rw [← count_filter (p := (·.flag = unit.flag)) (by simp), same unit.flag, count_filter (by simp)]

theorem reorders_append_comm {first second : List FlagUnit}
    (disjoint : ∀ one ∈ first, ∀ other ∈ second, one.flag ≠ other.flag) :
    Reorders (first ++ second) (second ++ first) := by
  intro flag
  rw [filter_append, filter_append]
  cases held : first.filter (·.flag = flag) with
  | nil => simp
  | cons one rest =>
    have one_held : one ∈ first.filter (·.flag = flag) := held ▸ mem_cons_self
    obtain ⟨member, _⟩ := mem_filter.mp one_held
    have none_held : second.filter (·.flag = flag) = [] := by
      rw [filter_eq_nil_iff]
      intro other inside same
      exact disjoint one member other inside (by simp_all)
    rw [none_held, nil_append, append_nil]

theorem Reorders.foldl_onParsed (same : Reorders units reordered) (parsed : Parsed) :
    units.foldl (FlagUnit.onParsed build) parsed =
      reordered.foldl (FlagUnit.onParsed build) parsed := by
  rw [Cli.foldl_onParsed, Cli.foldl_onParsed,
    KeyedActions.foldl_eq_of_filter_eq (entry_injective build) (onEntry_onSettings build) same,
    same.perm.foldl_eq' fun first _ second _ switches => onSwitches_comm switches first second]

/-- Options in front of the inner command may be given in another order: what the parser
accepts is accepted with the same configuration, as long as options of one flag stay in order. -/
theorem parseArgs_reordered (build : Build) (units reordered : List FlagUnit) (tail : List String)
    (config : Config) (wellFormed : ∀ unit ∈ units, unit.WellFormed)
    (same : Reorders units reordered)
    (accepted : parseArgs build (arguments units tail) = .ok config) :
    parseArgs build (arguments reordered tail) = .ok config := by
  obtain ⟨parsed, looped, valid⟩ := Except.bind_eq_ok.mp accepted
  obtain ⟨changes, ended⟩ := (parseLoop_units wellFormed _).mp looped
  refine Except.bind_eq_ok.mpr ⟨parsed, ?_, valid⟩
  refine (parseLoop_units ?_ _).mpr ⟨?_, ?_⟩
  · exact fun unit member => wellFormed unit (same.perm.mem_iff.mpr member)
  · exact fun unit member => changes unit (same.perm.mem_iff.mpr member)
  · rwa [← same.foldl_onParsed]

/-- A strict sidecar, with one flag given twice. -/
def strictUnits : List FlagUnit := [
  .switch "--strict", .value "--replay-cache" "file", .value "--replay-path" "replay.log",
  .value "--bind" "127.0.0.1:8443", .value "--audience" "did:example:server-0",
  .value "--server-signer" "did:example:server-1", .value "--server-key-id" "key-1",
  .value "--signing-key-seed" "seed", .value "--tls-cert" "cert.pem",
  .value "--tls-key" "key.pem", .value "--client-ca" "ca.pem", .value "--trust" "trust.json",
  .value "--audience" "did:example:server-1"]

/-- The strict options, with the switch and the replay cache last. -/
def strictUnitsReordered : List FlagUnit :=
  strictUnits.drop 3 ++ strictUnits.take 3

/-- The strict options in another order give the same configuration. -/
theorem parseArgs_reordered_strict :
    ∃ config, parseArgs asciiBuild (arguments strictUnits ["server"]) = .ok config ∧
      parseArgs asciiBuild (arguments strictUnitsReordered ["server"]) = .ok config := by
  have parses : (parseArgs asciiBuild (arguments strictUnits ["server"])).toOption.isSome = true := by
    decide +kernel
  obtain ⟨config, parsed⟩ := Option.isSome_iff_exists.mp parses
  have accepted := Except.toOption_eq_some.mp parsed
  refine ⟨config, accepted, ?_⟩
  refine parseArgs_reordered asciiBuild strictUnits strictUnitsReordered ["server"] config ?_ ?_
    accepted
  · simp [strictUnits, FlagUnit.WellFormed, switchFlags]
  · exact reorders_append_comm (by decide : ∀ first ∈ strictUnits.take 3,
      ∀ second ∈ strictUnits.drop 3, first.flag ≠ second.flag)

end Mcps.Cli
