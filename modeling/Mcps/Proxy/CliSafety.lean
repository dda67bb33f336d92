import Mcps.Proxy.Cli

/-!
# What the argument parser does with a flag

Which arguments the loop takes as flags, as a scan of its own: a switch stands alone, any
other flag is followed by a value, and `--inner-command` ends the scan.  Along the loop, the
strict posture is on exactly if a strict switch is met in flag position, and a known flag
behind `--inner-command` makes the parser fail.
-/

namespace Mcps.Cli

open List Assoc

/-- The arguments in flag position, and those behind `--inner-command`. -/
def positions (args : List String) : List String × Option (List String) :=
  match args with
  | [] => ([], none)
  | flag :: rest =>
    if flag = "--inner-command" then ([], some rest)
    else if flag ∈ switchFlags.map Prod.fst then
      (flag :: (positions rest).1, (positions rest).2)
    else
      match rest with
      | [] => ([flag], none)
      | _ :: rest => (flag :: (positions rest).1, (positions rest).2)

def isStrictFlag (flag : String) : Bool := flag = "--strict" || flag = "--production"

/-- The strict posture is asked for in flag position. -/
def asksStrict (args : List String) : Bool := (positions args).1.any isStrictFlag

/-- The loop accepts some arguments with the flag in flag position. -/
def Recognizes (build : Build) (flag : String) : Prop :=
  ∃ args parsed, flag ∈ (positions args).1 ∧ parseLoop build {} args = .ok parsed

/-! ## The scan along the loop -/

section

variable {flag : String} {rest : List String}

theorem positions_innerCommand : positions ("--inner-command" :: rest) = ([], some rest) := by
  rw [positions.eq_def]
  rfl

theorem positions_switch (other : flag ≠ "--inner-command")
    (isSwitch : flag ∈ switchFlags.map Prod.fst) :
    positions (flag :: rest) = (flag :: (positions rest).1, (positions rest).2) := by
  rw [positions.eq_def]
  simp only [if_neg other, if_pos isSwitch]

theorem positions_value (other : flag ≠ "--inner-command")
    (noSwitch : flag ∉ switchFlags.map Prod.fst) (value : String) :
    positions (flag :: value :: rest) = (flag :: (positions rest).1, (positions rest).2) := by
  rw [positions.eq_def]
  simp only [if_neg other, if_neg noSwitch]

end

theorem mem_names_of_find? {τ : Type} {flag : String} {flags : List (String × τ)} {found : τ}
    (lookup : find? flag flags = some found) : flag ∈ flags.map Prod.fst :=
  mem_map.mpr ⟨_, mem_of_find? lookup, rfl⟩

theorem notMem_names_of_find? {τ : Type} {flag : String} {flags : List (String × τ)}
    (lookup : find? flag flags = none) : flag ∉ flags.map Prod.fst := by
  intro member
  obtain ⟨entry, inside, rfl⟩ := mem_map.mp member
  exact find?_eq_none_iff.mp lookup entry inside rfl

/-! ## Accepted arguments -/

/-- The loop accepts the arguments, argument by argument. -/
inductive Accepts (build : Build) : Parsed → List String → Parsed → Prop where
  | done {parsed : Parsed} : Accepts build parsed [] parsed
  | innerCommand {parsed : Parsed} {rest : List String}
      (clean : ∀ token ∈ rest, token ∉ knownProxyFlags) :
      Accepts build parsed ("--inner-command" :: rest) { parsed with innerCommand := rest }
  | switch {parsed final : Parsed} {flag : String} {rest : List String}
      {change : Switches → Switches} (other : flag ≠ "--inner-command")
      (found : Assoc.find? flag switchFlags = some change)
      (next : Accepts build { parsed with switches := change parsed.switches } rest final) :
      Accepts build parsed (flag :: rest) final
  | value {parsed final : Parsed} {flag value : String} {rest : List String} {read : Reader}
      {change : Settings → Settings} (other : flag ≠ "--inner-command")
      (noSwitch : Assoc.find? flag switchFlags = none)
      (found : Assoc.find? flag (valueFlags build) = some read) (reads : read value = .ok change)
      (next : Accepts build { parsed with settings := change parsed.settings } rest final) :
      Accepts build parsed (flag :: value :: rest) final

theorem accepts_of_parseLoop {build : Build} {parsed final : Parsed} {args : List String}
    (accepted : parseLoop build parsed args = .ok final) : Accepts build parsed args final := by
  fun_induction parseLoop build parsed args with
  | case1 parsed =>
    cases accepted
    exact .done
  | case2 => cases accepted
  | case3 parsed rest clean =>
    cases accepted
    exact .innerCommand fun token member => by simpa using find?_eq_none.mp clean token member
  | case4 parsed flag rest other change found ih => exact .switch other found (ih accepted)
  | case5 | case6 | case7 => cases accepted
  | case8 parsed flag other noSwitch value rest read found change reads ih =>
    exact .value other noSwitch found reads (ih accepted)

section

variable {build : Build} {parsed final : Parsed} {args : List String}

theorem Accepts.flags_known (accepts : Accepts build parsed args final) :
    ∀ flag ∈ (positions args).1,
      flag ∈ switchFlags.map Prod.fst ∨ flag ∈ (valueFlags build).map Prod.fst := by
  induction accepts with
  | done => nofun
  | innerCommand clean =>
    rw [positions_innerCommand]
    nofun
  | switch other found next ih =>
    have isSwitch := mem_names_of_find? found
    rw [positions_switch other isSwitch]
    exact forall_mem_cons.mpr ⟨.inl isSwitch, ih⟩
  | value other noSwitch found reads next ih =>
    rw [positions_value other (notMem_names_of_find? noSwitch)]
    exact forall_mem_cons.mpr ⟨.inr (mem_names_of_find? found), ih⟩

theorem Accepts.tail_clean (accepts : Accepts build parsed args final) :
    ∀ tail ∈ (positions args).2, ∀ token ∈ tail, token ∉ knownProxyFlags := by
  induction accepts with
  | done => nofun
  | innerCommand clean =>
    rw [positions_innerCommand]
    rintro tail ⟨⟩
    exact clean
  | switch other found next ih =>
    rw [positions_switch other (mem_names_of_find? found)]
    exact ih
  | value other noSwitch found reads next ih =>
    rw [positions_value other (notMem_names_of_find? noSwitch)]
    exact ih

theorem strict_switch {flag : String} {change : Switches → Switches}
    (found : find? flag switchFlags = some change) (switches : Switches) :
    (change switches).strict = (switches.strict || isStrictFlag flag) := by
  have member := mem_of_find? found
  simp only [switchFlags, mem_cons, not_mem_nil, or_false] at member
  rcases member with ⟨rfl, rfl⟩ | ⟨rfl, rfl⟩ | ⟨rfl, rfl⟩ | ⟨rfl, rfl⟩ | ⟨rfl, rfl⟩ | ⟨rfl, rfl⟩ |
    ⟨rfl, rfl⟩ | ⟨rfl, rfl⟩
  all_goals simp [isStrictFlag]

theorem isStrictFlag_of_noSwitch {flag : String}
    (noSwitch : find? flag switchFlags = none) : isStrictFlag flag = false := by
  rw [Bool.eq_false_iff]
  intro isStrict
  have named : flag ∈ switchFlags.map Prod.fst := by
    rcases (by simpa [isStrictFlag] using isStrict : flag = "--strict" ∨ flag = "--production")
      with rfl | rfl
    · simp [switchFlags]
    · simp [switchFlags]
  exact notMem_names_of_find? noSwitch named

theorem Accepts.strict_eq (accepts : Accepts build parsed args final) :
    final.switches.strict = (parsed.switches.strict || asksStrict args) := by
  unfold asksStrict
  induction accepts with
  | done => simp [positions]
  | innerCommand clean => simp [positions_innerCommand]
  | switch other found next ih =>
    rw [ih, strict_switch found, positions_switch other (mem_names_of_find? found),
      any_cons, Bool.or_assoc]
  | value other noSwitch found reads next ih =>
    rw [ih, positions_value other (notMem_names_of_find? noSwitch), any_cons,
      isStrictFlag_of_noSwitch noSwitch, Bool.false_or]

end

/-! ## Flags behind the inner command -/

/-- A build without online OCSP that takes any text for a key. -/
def asciiBuild : Build := ⟨false, toAsciiLowercase, fun _ => true⟩

theorem known_of_flag {build : Build} {flag : String} (other : flag ≠ "--max-header-bytes")
    (named : flag ∈ switchFlags.map Prod.fst ∨ flag ∈ (valueFlags build).map Prod.fst) :
    flag ∈ knownProxyFlags := by
  have listed : ∀ name ∈ switchFlags.map Prod.fst ++ (valueFlags asciiBuild).map Prod.fst,
      name ≠ "--max-header-bytes" → name ∈ knownProxyFlags := by decide +kernel
  exact listed flag (mem_append.mpr named) other

/-- Arguments that the parser accepts. -/
def plainArgs (audience : String) : List String :=
  ["--bind", "127.0.0.1:8443", "--audience", audience, "--server-signer", "did:example:server-1",
    "--server-key-id", "key-1", "--signing-key-seed", "seed", "--tls-cert", "cert.pem",
    "--tls-key", "key.pem", "--client-ca", "ca.pem", "--trust", "trust.json",
    "--inner-command", "server"]

/-- The cap on headers behind the inner command. -/
def cappedArgs : List String := plainArgs "did:example:server-1" ++ ["--max-header-bytes", "1"]

theorem parseArgs_cappedArgs (build : Build) :
    (parseArgs build cappedArgs).toOption.isSome = true := by
  rfl

/-- A flag that the parser recognizes makes it fail wherever it stands behind the inner
command, exactly if it is not the cap on headers. -/
theorem parseArgs_misplaced_iff (build : Build) (flag : String)
    (recognized : Recognizes build flag) :
    (∀ args tail, (positions args).2 = some tail → flag ∈ tail →
        ∃ error, parseArgs build args = .error error) ↔
      flag ≠ "--max-header-bytes" := by
  rcases recognized with ⟨accepted, parsed, inFlags, accepts⟩
  constructor
  · rintro fails rfl
    rcases fails cappedArgs ["server", "--max-header-bytes", "1"] (by decide +kernel) (by simp) with
      ⟨error, failed⟩
    have succeeds := parseArgs_cappedArgs build
    rw [failed] at succeeds
    cases succeeds
  · intro other args tail behind member
    cases loop : parseLoop build {} args with
    | error error => exact ⟨error, by rw [parseArgs, loop]; rfl⟩
    | ok final =>
      have named := (accepts_of_parseLoop accepts).flags_known flag inFlags
      exact absurd (known_of_flag other named)
        ((accepts_of_parseLoop loop).tail_clean tail behind flag member)

theorem recognizes_audience : Recognizes asciiBuild "--audience" :=
  ⟨["--audience", "did:example:server-1"], _, by decide +kernel, rfl⟩

/-- The audience behind the inner command makes the parser fail. -/
theorem parseArgs_misplaced_audience :
    Recognizes asciiBuild "--audience" ∧
      ((∀ args tail, (positions args).2 = some tail → "--audience" ∈ tail →
          ∃ error, parseArgs asciiBuild args = .error error) ↔
        "--audience" ≠ "--max-header-bytes") :=
  ⟨recognizes_audience, parseArgs_misplaced_iff asciiBuild "--audience" recognizes_audience⟩

/-- The cap on headers is recognized as a flag, and swallowed behind the inner command. -/
theorem parseArgs_swallows_cap :
    Recognizes asciiBuild "--max-header-bytes" ∧
      (positions cappedArgs).2 = some ["server", "--max-header-bytes", "1"] ∧
      (parseArgs asciiBuild cappedArgs).toOption.map
          (fun config => (config.innerCommand, config.limits.maxHeaderBytes)) =
        some (["server", "--max-header-bytes", "1"], 65536) :=
  ⟨⟨["--max-header-bytes", "1"], _, by decide +kernel, rfl⟩, by decide +kernel, by decide +kernel⟩

/-! ## The strict posture -/

theorem refuseIf_eq_ok {condition : Bool} {message : String} {passed : Unit} :
    refuseIf condition message = .ok passed ↔ condition = false := by
  cases condition <;> simp [refuseIf]

theorem strict_of_buildConfig {parsed : Parsed} {config : Config}
    (built : buildConfig parsed = .ok config) : config.strict = parsed.switches.strict := by
  simp only [buildConfig, Except.bind_eq_ok] at built
  obtain ⟨_, _, _, _, _, _, _, _, _, _, _, _, _, _, _, _, _, _, built⟩ := built
  cases built
  rfl

theorem strict_of_validate {build : Build} {parsed : Parsed} {config : Config}
    (validated : validate build parsed = .ok config) :
    config.strict = parsed.switches.strict ∧ (config.strict = true → strictViolations config = []) := by
  simp only [validate, Except.bind_eq_ok] at validated
  rcases validated with
    ⟨_, _, _, _, _, _, _, _, _, _, _, _, _, built, _, _, _, strictly, returned⟩
  cases returned
  refine ⟨strict_of_buildConfig built, ?_⟩
  intro strict
  have refused := refuseIf_eq_ok.mp strictly
  simpa [strict] using refused

/-- An accepted configuration is strict and without violations exactly if a flag, not a
value, asks for the strict posture. -/
theorem parseArgs_strict_iff (build : Build) (args : List String) (config : Config)
    (accepted : parseArgs build args = .ok config) :
    (config.strict = true ∧ strictViolations config = []) ↔ asksStrict args = true := by
  rcases Except.bind_eq_ok.mp accepted with ⟨parsed, loop, validated⟩
  rcases strict_of_validate validated with ⟨same, sound⟩
  have asked := (accepts_of_parseLoop loop).strict_eq
  rw [Bool.false_or] at asked
  rw [← asked, ← same]
  exact ⟨And.left, fun strict => ⟨strict, sound strict⟩⟩

/-- Strict arguments that the parser accepts. -/
def strictArgs : List String :=
  ["--strict", "--replay-cache", "file", "--replay-path", "replay.log"] ++
    plainArgs "did:example:server-1"

/-- The strict arguments give a strict configuration. -/
theorem parseArgs_strict_asked :
    ∃ config, parseArgs asciiBuild strictArgs = .ok config ∧
      ((config.strict = true ∧ strictViolations config = []) ↔ asksStrict strictArgs = true) := by
  have parses : (parseArgs asciiBuild strictArgs).toOption.isSome = true := by decide +kernel
  rcases Option.isSome_iff_exists.mp parses with ⟨config, parsed⟩
  have accepted := Except.toOption_eq_some.mp parsed
  exact ⟨config, accepted, parseArgs_strict_iff asciiBuild strictArgs config accepted⟩

/-- A strict switch that is taken for the audience is lost, and the configuration violates
the strict posture. -/
theorem parseArgs_strict_lost :
    "--strict" ∈ plainArgs "--strict" ∧
      (parseArgs asciiBuild (plainArgs "--strict")).toOption.map
          (fun config => (config.strict, (strictViolations config).isEmpty)) =
        some (false, false) := by
  decide +kernel

end Mcps.Cli
