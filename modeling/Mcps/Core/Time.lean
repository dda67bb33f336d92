import Mcps.Core.Vocabulary

/-!
# Timestamps and freshness

The strict RFC 3339 UTC grammar, the civil-calendar arithmetic behind it and the
freshness window of a signed request.  Seconds are signed 64-bit integers in the
code; the sums that could leave that range there saturate, and do so here.
-/

namespace Mcps

/-! ## Saturating arithmetic -/

def i64Min : Int := -2 ^ 63
def i64Max : Int := 2 ^ 63 - 1
def u64Max : Nat := 2 ^ 64 - 1

/-- A signed 64-bit integer. -/
abbrev I64 := { value : Int // i64Min ≤ value ∧ value ≤ i64Max }

/-- Clamp an exact result to the range of a signed 64-bit integer. -/
def clampI64 (exact : Int) : Int := max i64Min (min i64Max exact)

/-- `i64::saturating_add`. -/
def saturatingAdd (left right : Int) : Int := clampI64 (left + right)

/-- `i64::saturating_sub`. -/
def saturatingSub (left right : Int) : Int := clampI64 (left - right)

theorem clampI64_mono {low high : Int} (le : low ≤ high) : clampI64 low ≤ clampI64 high :=
  max_le_max_left _ (min_le_min_left _ le)

theorem clampI64_mem (exact : Int) : i64Min ≤ clampI64 exact ∧ clampI64 exact ≤ i64Max :=
  ⟨le_max_left _ _, max_le (by decide) (min_le_left _ _)⟩

theorem saturatingAdd_le_saturatingAdd {left low high : Int} (le : low ≤ high) :
    saturatingAdd left low ≤ saturatingAdd left high :=
  clampI64_mono (by omega)

theorem saturatingAdd_le (start : I64) {duration : Int} (forward : 0 ≤ duration) :
    saturatingAdd start.val duration ≤ start.val + duration := by
  exact max_le (by omega) (min_le_right _ _)

/-! ## Timestamps -/

def isAsciiDigit (byte : UInt8) : Bool := 48 ≤ byte && byte ≤ 57

def isLeapYear (year : Int) : Bool :=
  (year.tmod 4 = 0 && year.tmod 100 ≠ 0) || year.tmod 400 = 0

def daysInMonth : List Int := [31, 28, 31, 30, 31, 30, 31, 31, 30, 31, 30, 31]

/-- The value of `n` decimal digits starting at a position. -/
def parseFixedDigits (bytes : List UInt8) (start n : Nat) : Option Int :=
  if start + n > bytes.length then none
  else
    ((bytes.drop start).take n).foldl
      (fun value byte =>
        value.bind fun value =>
          if isAsciiDigit byte then some (value * 10 + (byte.toNat - 48 : Int)) else none)
      (some 0)

/-- Days from the Unix epoch to a civil date. -/
def daysFromCivil (year month day : Int) : Int :=
  let y := if month ≤ 2 then year - 1 else year
  let era := (if y ≥ 0 then y else y - 399).tdiv 400
  let yoe := y - era * 400
  let doy := (153 * (if month > 2 then month - 3 else month + 9) + 2).tdiv 5 + day - 1
  let doe := yoe * 365 + yoe.tdiv 4 - yoe.tdiv 100 + doy
  era * 146097 + doe - 719468

/-- What may follow the seconds: a bare `Z`, or a fraction of at least one digit
and then `Z`. -/
def fractionOk (tail : List UInt8) : Bool :=
  if tail = [90] then true
  else
    match tail with
    | 46 :: fraction =>
      match fraction.getLast? with
      | some 90 => !fraction.dropLast.isEmpty && fraction.dropLast.all isAsciiDigit
      | _ => false
    | _ => false

/-- Parse a strict RFC 3339 UTC timestamp to Unix seconds; every deviation is
`expiredRequest`. -/
def parseRfc3339Utc (s : String) : Except McpsError Int :=
  let bytes := textBytes s
  if bytes.length < 20 then .error .expiredRequest
  else if bytes[4]? ≠ some 45 || bytes[7]? ≠ some 45 || bytes[10]? ≠ some 84
      || bytes[13]? ≠ some 58 || bytes[16]? ≠ some 58 then .error .expiredRequest
  else
    match parseFixedDigits bytes 0 4, parseFixedDigits bytes 5 2, parseFixedDigits bytes 8 2,
      parseFixedDigits bytes 11 2, parseFixedDigits bytes 14 2, parseFixedDigits bytes 17 2 with
    | some year, some month, some day, some hour, some minute, some second =>
      if !fractionOk (bytes.drop 19) then .error .expiredRequest
      else if month < 1 || month > 12 then .error .expiredRequest
      else
        let listed := daysInMonth.getD (month - 1).toNat 0
        let maxDay := if month = 2 && isLeapYear year then 29 else listed
        if day < 1 || day > maxDay then .error .expiredRequest
        else if hour > 23 || minute > 59 || second > 59 then .error .expiredRequest
        else .ok (daysFromCivil year month day * 86400 + hour * 3600 + minute * 60 + second)
    | _, _, _, _, _, _ => .error .expiredRequest

/-- Accept `now` inside the signed window widened by the tolerated clock skew, both
ends included. -/
def checkFreshness (issuedAt expiresAt : String) (now maxClockSkewSecs : Int) :
    Except McpsError Unit := do
  let issued ← parseRfc3339Utc issuedAt
  let expires ← parseRfc3339Utc expiresAt
  if expires < issued then throw .expiredRequest
  let lower := saturatingSub issued maxClockSkewSecs
  let upper := saturatingAdd expires maxClockSkewSecs
  if now < lower || now > upper then throw .expiredRequest

/-- Civil date of a day number counted from the Unix epoch. -/
def civilFromDays (days : Int) : Int × Int × Int :=
  let z := days + 719468
  let era := (if z ≥ 0 then z else z - 146096).tdiv 146097
  let doe := z - era * 146097
  let yoe := (doe - doe.tdiv 1460 + doe.tdiv 36524 - doe.tdiv 146096).tdiv 365
  let y := yoe + era * 400
  let doy := doe - (365 * yoe + yoe.tdiv 4 - yoe.tdiv 100)
  let mp := (5 * doy + 2).tdiv 153
  let d := doy - (153 * mp + 2).tdiv 5 + 1
  let m := if mp < 10 then mp + 3 else mp - 9
  (if m ≤ 2 then y + 1 else y, m, d)

/-- Decimal text of an integer, filled with zeros behind the sign up to a width
that counts the sign. -/
def zeroPadded (width : Nat) (value : Int) : String :=
  let digits := value.natAbs.repr
  if value < 0 then "-" ++ String.ofList (List.replicate (width - 1 - digits.length) '0') ++ digits
  else String.ofList (List.replicate (width - digits.length) '0') ++ digits

/-- Render Unix seconds as an RFC 3339 UTC timestamp. -/
def unixToRfc3339Utc (unix : Int) : String :=
  let days := unix / 86400
  let secs := unix % 86400
  let (year, month, day) := civilFromDays days
  zeroPadded 4 year ++ "-" ++ zeroPadded 2 month ++ "-" ++ zeroPadded 2 day ++ "T" ++
    zeroPadded 2 (secs / 3600) ++ ":" ++ zeroPadded 2 (secs % 3600 / 60) ++ ":" ++
    zeroPadded 2 (secs % 60) ++ "Z"

theorem checkFreshness_ok {issuedAt expiresAt : String} {now skew : Int}
    (fresh : checkFreshness issuedAt expiresAt now skew = .ok ()) :
    ∃ expires, parseRfc3339Utc expiresAt = .ok expires ∧ now ≤ saturatingAdd expires skew := by
  unfold checkFreshness at fresh
  cases issued : parseRfc3339Utc issuedAt with
  | error e => simp [issued, bind, Except.bind] at fresh
  | ok issuedUnix =>
    cases expires : parseRfc3339Utc expiresAt with
    | error e => simp [issued, expires, bind, Except.bind] at fresh
    | ok expiresUnix =>
      refine ⟨expiresUnix, rfl, ?_⟩
      by_contra late
      simp only [issued, expires, bind, Except.bind, not_le.mp late] at fresh
      split at fresh <;> simp at fresh

example : parseRfc3339Utc "2026-05-28T20:00:00.999Z" = .ok 1779998400 := by decide
example : unixToRfc3339Utc 1779998400 = "2026-05-28T20:00:00Z" := by decide

end Mcps
