import Mcps.Proxy.Cli

/-!
# Certificate lifetimes

A lifetime on the command line is a decimal count with an optional unit.  What the parser makes
of it is compared with the seconds it is written for: the two agree as long as the product of
the count and its unit fits into 64 bits.
-/

namespace Mcps.Cli

/-- The seconds of the unit behind a lifetime; a bare count is one of seconds. -/
def unitSeconds : List Char → Option Nat
  | [] => some 1
  | ['s'] => some 1
  | ['m'] => some 60
  | ['h'] => some 3600
  | _ => none

/-- A lifetime as it is written: a decimal count and a unit. -/
def WritesLifetime (value : String) (count seconds : Nat) : Prop :=
  ∃ number unit factor, textChars value = number ++ unit ∧ Numeral.Denotes number count ∧
    unitSeconds unit = some factor ∧ seconds = count * factor

/-- A lifetime is read as it is written: the exact seconds of a positive count, and nothing for
`none` or a zero count only. -/
structure ReadsLifetime (value : String) : Prop where
  exact (seconds : UInt64) : parseCertLifetime value = .ok (some seconds) →
    ∃ count, 0 < count ∧ WritesLifetime value count seconds.toNat
  disabled : parseCertLifetime value = .ok none → value = "none" ∨ WritesLifetime value 0 0

/-- The count of a lifetime and the seconds of its unit, as the parser splits them. -/
def splitUnit (text : List Char) : List Char × UInt64 :=
  match stripLast 'h' text with
  | some digits => (digits, 3600)
  | none =>
    match stripLast 'm' text with
    | some digits => (digits, 60)
    | none => ((stripLast 's' text).getD text, 1)

variable {value : String} {text number unit : List Char} {count seconds factor : Nat}

theorem stripLast_eq_some {last : Char} {body : List Char} :
    stripLast last text = some body ↔ text = body ++ [last] := by
  constructor
  · intro stripped
    obtain ⟨ends, same⟩ := Option.ite_none_right_eq_some.mp stripped
    rw [← Option.some.inj same, List.dropLast_append_getLast? last ends]
  · intro split
    simp [stripLast, split]

theorem unitSeconds_le (units : unitSeconds unit = some factor) : factor ≤ 3600 := by
  unfold unitSeconds at units
  split at units <;> simp_all <;> omega

theorem splitUnit_eq (text : List Char) : ∃ unit factor,
    text = (splitUnit text).1 ++ unit ∧ unitSeconds unit = some factor ∧
      (splitUnit text).2 = UInt64.ofNat factor := by
  unfold splitUnit
  cases hours : stripLast 'h' text with
  | some digits => exact ⟨['h'], 3600, stripLast_eq_some.mp hours, rfl, rfl⟩
  | none =>
    cases minutes : stripLast 'm' text with
    | some digits => exact ⟨['m'], 60, stripLast_eq_some.mp minutes, rfl, rfl⟩
    | none =>
      cases bare : stripLast 's' text with
      | some digits => exact ⟨['s'], 1, stripLast_eq_some.mp bare, rfl, rfl⟩
      | none => exact ⟨[], 1, (List.append_nil text).symm, rfl, rfl⟩

/-- A count with a unit is split there, since a count ends in a digit. -/
theorem splitUnit_append (counts : Numeral.Denotes number count)
    (units : unitSeconds unit = some factor) :
    splitUnit (number ++ unit) = (number, UInt64.ofNat factor) := by
  obtain ⟨sign, digits, rfl, -, nonempty, every, -⟩ := counts
  have digit := every _ (List.getLast_mem nonempty)
  have last : (sign ++ digits).getLast? = some (digits.getLast nonempty) := by
    rw [List.getLast?_append_of_ne_nil _ nonempty, List.getLast?_eq_getLast_of_ne_nil nonempty]
  have other : ∀ c : Char, c.isDigit = false → digits.getLast nonempty ≠ c := by
    intro c letter same
    rw [same, letter] at digit
    cases digit
  unfold unitSeconds at units
  split at units <;> cases units
  · simp [splitUnit, stripLast, last, other 'h' rfl, other 'm' rfl, other 's' rfl]
  all_goals simp [splitUnit, stripLast]

theorem WritesLifetime.unique {count' seconds' : Nat} (first : WritesLifetime value count seconds)
    (second : WritesLifetime value count' seconds') : seconds = seconds' := by
  obtain ⟨_, _, _, split, counts, units, total⟩ := first
  obtain ⟨_, _, _, split', counts', units', total'⟩ := second
  have parts := splitUnit_append counts units
  rw [← split, split', splitUnit_append counts' units', Prod.mk.injEq] at parts
  obtain ⟨rfl, factors⟩ := parts
  have same := congrArg UInt64.toNat factors
  rw [UInt64.toNat_ofNat_of_lt', UInt64.toNat_ofNat_of_lt'] at same
  · rw [total, total', counts.unique counts', same]
  · exact Nat.lt_of_le_of_lt (unitSeconds_le units) (by decide)
  · exact Nat.lt_of_le_of_lt (unitSeconds_le units') (by decide)

theorem parseCertLifetime_eq (other : value ≠ "none")
    (split : splitUnit (textChars value) = (number, UInt64.ofNat factor)) :
    parseCertLifetime value =
      ((Numeral.parseUnsigned (2 ^ 64) number).okOr
        ("invalid --max-client-cert-lifetime '" ++ value ++ "' (e.g. 1h, 30m, 3600, none)")).map
        fun n => if n = 0 then none else some (UInt64.ofNat (n * factor)) := by
  have shape : parseCertLifetime value =
      (parseU64 (String.ofList (splitUnit (textChars value)).1)).elim (.error
        ("invalid --max-client-cert-lifetime '" ++ value ++ "' (e.g. 1h, 30m, 3600, none)"))
        fun n => .ok (if n = 0 then none else some (n * (splitUnit (textChars value)).2)) := by
    rw [parseCertLifetime, if_neg other, splitUnit]
    dsimp only
    cases stripLast 'h' (textChars value) with
    | some digits => cases parseU64 (String.ofList digits) <;> rfl
    | none =>
      cases stripLast 'm' (textChars value) with
      | some digits => cases parseU64 (String.ofList digits) <;> rfl
      | none => cases parseU64 (String.ofList ((stripLast 's' (textChars value)).getD _)) <;> rfl
  rw [shape, split]
  simp only [parseU64, textChars_eq, String.toList_ofList]
  cases read : Numeral.parseUnsigned (2 ^ 64) number with
  | none => rfl
  | some n =>
    have zero : UInt64.ofNat n = 0 ↔ n = 0 := by
      rw [← UInt64.toNat_inj, UInt64.toNat_ofNat_of_lt' (Numeral.parseUnsigned_lt read)]
      rfl
    simp [zero, Except.map]

theorem parseCertLifetime_eq_ok {result : Option UInt64} :
    parseCertLifetime value = .ok result ↔ value = "none" ∧ result = none ∨
      ∃ count seconds, WritesLifetime value count seconds ∧ count < 2 ^ 64 ∧
        result = if count = 0 then none else some (UInt64.ofNat seconds) := by
  by_cases disabled : value = "none"
  · have unwritten : ∀ count seconds, ¬ WritesLifetime value count seconds := by
      intro count seconds ⟨number, unit, factor, split, counts, units, _⟩
      have parts := splitUnit_append counts units
      have read := Numeral.parseUnsigned_eq_some.mpr ⟨counts, count.lt_succ_self⟩
      rw [← split, disabled] at parts
      rw [← show _ = number from congrArg Prod.fst parts] at read
      cases read
    simp [parseCertLifetime, disabled ▸ unwritten, disabled, eq_comm]
  · simp only [disabled, false_and, false_or]
    constructor
    · intro read
      obtain ⟨unit, factor, split, units, same⟩ := splitUnit_eq (textChars value)
      rw [parseCertLifetime_eq disabled (Prod.ext rfl same), Except.map_eq_ok] at read
      obtain ⟨n, read, same⟩ := read
      obtain ⟨counts, fits⟩ := Numeral.parseUnsigned_eq_some.mp (Option.okOr_eq_ok.mp read)
      exact ⟨n, _, ⟨_, unit, factor, split, counts, units, rfl⟩, fits, same.symm⟩
    · intro ⟨count, seconds, ⟨number, unit, factor, split, counts, units, total⟩, fits, same⟩
      rw [parseCertLifetime_eq disabled (split ▸ splitUnit_append counts units),
        Numeral.parseUnsigned_eq_some.mpr ⟨counts, fits⟩, same, total]
      rfl

/-- A lifetime is read as it is written exactly if its seconds fit, unless its count does not
fit either. -/
theorem readsLifetime_iff (value : String) :
    ReadsLifetime value ↔
      ∀ count seconds, WritesLifetime value count seconds → count < 2 ^ 64 → seconds < 2 ^ 64 := by
  constructor
  · intro reads count seconds written fits
    by_cases zero : count = 0
    · obtain ⟨number, unit, factor, -, -, -, total⟩ := written
      simp [total, zero]
    · obtain ⟨other, -, again⟩ := reads.exact _
        (parseCertLifetime_eq_ok.mpr (.inr ⟨count, seconds, written, fits, (if_neg zero).symm⟩))
      rw [written.unique again]
      exact UInt64.toNat_lt _
  · intro fit
    constructor
    · intro seconds read
      obtain ⟨_, same⟩ | ⟨count, total, written, fits, same⟩ := parseCertLifetime_eq_ok.mp read
      · cases same
      · obtain ⟨positive, same⟩ := Option.ite_none_left_eq_some.mp same.symm
        refine ⟨count, Nat.pos_of_ne_zero positive, ?_⟩
        rw [← Option.some.inj same, UInt64.toNat_ofNat_of_lt' (fit count total written fits)]
        exact written
    · intro read
      obtain ⟨same, _⟩ | ⟨count, total, written, fits, same⟩ := parseCertLifetime_eq_ok.mp read
      · exact .inl same
      · have zero : count = 0 := by simpa using same.symm
        obtain ⟨number, unit, factor, split, counts, units, total⟩ := written
        rw [zero] at counts
        exact .inr ⟨number, unit, factor, split, counts, units, (Nat.zero_mul factor).symm⟩

/-- Five thousand billion hours and more are read as less than one hour. -/
theorem parseCertLifetime_wraps :
    parseCertLifetime "5124095576030432h" = .ok (some 3584) ∧ ¬ ReadsLifetime "5124095576030432h" := by
  have read : parseCertLifetime "5124095576030432h" = .ok (some 3584) := by rfl
  refine ⟨read, fun reads => ?_⟩
  obtain ⟨count, -, written⟩ := reads.exact _ read
  have spelled : WritesLifetime "5124095576030432h" 5124095576030432 18446744073709555200 :=
    ⟨(textChars "5124095576030432h").dropLast, ['h'], 3600, by decide +kernel,
      ⟨[], _, rfl, .inl rfl, by decide +kernel, by decide +kernel, by decide +kernel⟩, rfl, rfl⟩
  exact absurd (spelled.unique written) (by decide)

end Mcps.Cli
