import Mcps.Core.Time
import Mcps.Lib.Calendar

/-!
# Civil dates and day numbers

The era formulas of the timestamp code count the days of the Gregorian calendar: the number
of a date is how many days lie between it and the first of January 1970, and the date of a
number is the one that has it.
-/

namespace Mcps

open Calendar

variable (year : Int)

theorem isLeapYear_iff : isLeapYear year = true ↔ LeapYear year := by
  simp only [isLeapYear, LeapYear, Bool.or_eq_true, Bool.and_eq_true, decide_eq_true_eq, ne_eq,
    ← Int.dvd_iff_tmod_eq_zero]
  omega

/-- The source lowers a negative number before it rounds towards zero, which rounds down. -/
theorem era_eq (number : Int) {length : Int} (positive : 0 < length) :
    (if number ≥ 0 then number else number - (length - 1)).tdiv length = number / length := by
  split
  · rename_i forward
    exact Int.tdiv_eq_ediv_of_nonneg forward
  · have parts := Int.mul_ediv_add_emod number length
    have least := Int.emod_nonneg number positive.ne'
    have most := Int.emod_lt_of_pos number positive
    have turned : -(number - (length - 1)) =
        (length - 1 - number % length) + length * -(number / length) := by
      rw [Int.mul_neg]
      omega
    have whole : -(number - (length - 1)) / length = -(number / length) := by
      rw [turned, Int.add_mul_ediv_left _ _ positive.ne',
        Int.ediv_eq_zero_of_lt (by omega) (by omega), zero_add]
    rw [← Int.neg_neg (number - (length - 1)), Int.neg_tdiv,
      Int.tdiv_eq_ediv_of_nonneg (by omega), whole, Int.neg_neg]

/-! ## From dates to numbers -/

theorem daysFromCivil_eq (day : Int) {month : Int} (real : 1 ≤ month) :
    daysFromCivil year month day =
      if month ≤ 2 then
        365 * (year - 1) + (year - 1) / 4 - (year - 1) / 100 + (year - 1) / 400 +
          (153 * (month + 9) + 2) / 5 + day - 719469
      else
        365 * year + year / 4 - year / 100 + year / 400 + (153 * (month - 3) + 2) / 5 + day -
          719469 := by
  have early := era_eq (year - 1) (show 0 < (400 : Int) by decide)
  have late := era_eq year (show 0 < (400 : Int) by decide)
  norm_num only at early late
  by_cases first : month ≤ 2
  · simp only [daysFromCivil, first, ↓reduceIte]
    rw [early, Int.tdiv_eq_ediv_of_nonneg (by omega), Int.tdiv_eq_ediv_of_nonneg (by omega),
      Int.tdiv_eq_ediv_of_nonneg (by omega)]
    omega
  · simp only [daysFromCivil, first, ↓reduceIte]
    rw [late, Int.tdiv_eq_ediv_of_nonneg (by omega), Int.tdiv_eq_ediv_of_nonneg (by omega),
      Int.tdiv_eq_ediv_of_nonneg (by omega)]
    omega

/-- The number of the first of January. -/
def yearStart (year : Int) : Int := daysFromCivil year 1 1

theorem yearStart_eq :
    yearStart year =
      365 * (year - 1) + (year - 1) / 4 - (year - 1) / 100 + (year - 1) / 400 - 719162 := by
  rw [yearStart, daysFromCivil_eq year 1 (by decide)]
  omega

theorem yearStart_succ : yearStart (year + 1) = yearStart year + yearLength year := by
  rw [yearStart_eq, yearStart_eq, yearLength_eq]
  split
  all_goals
    rename_i leap
    simp only [LeapYear] at leap
    omega

theorem daysThrough_eq {month : Nat} (least : 1 ≤ month) (most : month ≤ 12) :
    (daysThrough year (month - 1) : Int) =
      if month ≤ 2 then (153 * ((month : Int) + 9) + 2) / 5 - 306
      else (153 * ((month : Int) - 3) + 2) / 5 + if LeapYear year then 60 else 59 := by
  by_cases leap : LeapYear year <;> interval_cases month <;>
    simp [daysThrough, monthLength, leap]

theorem daysFromCivil_date (date : Date) :
    daysFromCivil date.year date.month date.day = date.count yearStart := by
  have through := daysThrough_eq date.year date.monthReal.1 date.monthReal.2
  rw [daysFromCivil_eq _ _ (by exact_mod_cast date.monthReal.1), Date.count, Date.dayOfYear,
    Nat.cast_add, through, yearStart_eq]
  simp only [Nat.cast_le_ofNat]
  by_cases early : date.month ≤ 2
  · rw [if_pos early]
    omega
  · rw [if_neg early, if_neg early]
    split
    all_goals
      rename_i leap
      simp only [LeapYear] at leap
      omega

/-! ## From numbers to dates -/

theorem yearOfEra_eq {doe century cycle year rest : Int} (centuries : 0 ≤ century ∧ century ≤ 3)
    (cycles : 0 ≤ cycle) (inCycle : 0 ≤ rest ∧ rest ≤ 1460)
    (inCentury : 1461 * cycle + rest < 36524)
    (parts : doe = 36524 * century + 1461 * cycle + rest) (years : 0 ≤ year ∧ year ≤ 3)
    (begun : 365 * year ≤ rest) (ends : rest < 365 * (year + 1) ∨ year = 3) :
    (doe - doe / 1460 + doe / 36524 - doe / 146096) / 365 = 100 * century + 4 * cycle + year := by
  have noEra : doe / 146096 = 0 := by omega
  have whichCentury : doe / 36524 = century := by omega
  have whichCycle :
      doe / 1460 = 25 * century + cycle + (24 * century + cycle + rest) / 1460 := by
    omega
  have cycleEnds : (24 * century + cycle + rest) / 1460 = 0 ∧ rest < 1460 ∨
      (24 * century + cycle + rest) / 1460 = 1 ∧ 1364 ≤ rest := by
    omega
  rcases cycleEnds with ⟨_, _⟩ | ⟨_, _⟩
  · omega
  · omega

theorem exists_yearOfEra {doe : Int} (least : 0 ≤ doe) (most : doe < 146097) :
    ∃ yoe doy : Int, (doe - doe / 1460 + doe / 36524 - doe / 146096) / 365 = yoe ∧
      0 ≤ yoe ∧ doe = 365 * yoe + yoe / 4 - yoe / 100 + doy ∧ 0 ≤ doy ∧
      (doy < 365 ∨ doy = 365 ∧ LeapYear (yoe + 1)) ∧ yoe < 400 := by
  by_cases last : doe = 146096
  · subst last
    exact ⟨399, 365, by decide⟩
  · obtain ⟨century, cycle, rest, parts, centuries, cycles, inCycle, inCentury⟩ :
        ∃ century cycle rest : Int, doe = 36524 * century + 1461 * cycle + rest ∧
          (0 ≤ century ∧ century ≤ 3) ∧ 0 ≤ cycle ∧ (0 ≤ rest ∧ rest ≤ 1460) ∧
          1461 * cycle + rest < 36524 :=
      ⟨doe / 36524, doe % 36524 / 1461, doe % 36524 % 1461, by omega⟩
    obtain ⟨year, years, begun, ends⟩ : ∃ year : Int, (0 ≤ year ∧ year ≤ 3) ∧
        365 * year ≤ rest ∧ (rest < 365 * (year + 1) ∨ year = 3) := by
      by_cases early : rest < 1095
      · exact ⟨rest / 365, by omega⟩
      · exact ⟨3, by omega⟩
    have byFour : (100 * century + 4 * cycle + year) / 4 = 25 * century + cycle := by omega
    have byHundred : (100 * century + 4 * cycle + year) / 100 = century := by omega
    refine ⟨100 * century + 4 * cycle + year, rest - 365 * year,
      yearOfEra_eq centuries cycles inCycle inCentury parts years begun ends, by omega, ?_,
      by omega, ?_, by omega⟩
    · rw [byHundred]
      omega
    · simp only [LeapYear]
      omega

/-- The date of a day, from its year of an era and its place in it. -/
theorem civilFromDays_eq {days era doe yoe doy : Int} (number : days + 719468 = era * 146097 + doe)
    (least : 0 ≤ doe) (most : doe < 146097)
    (year : (doe - doe / 1460 + doe / 36524 - doe / 146096) / 365 = yoe) (years : 0 ≤ yoe)
    (place : doe = 365 * yoe + yoe / 4 - yoe / 100 + doy) (inYear : 0 ≤ doy) :
    civilFromDays days =
      if (5 * doy + 2) / 153 < 10 then
        (yoe + era * 400, (5 * doy + 2) / 153 + 3, doy - (153 * ((5 * doy + 2) / 153) + 2) / 5 + 1)
      else
        (yoe + era * 400 + 1, (5 * doy + 2) / 153 - 9,
          doy - (153 * ((5 * doy + 2) / 153) + 2) / 5 + 1) := by
  have whichEra : (days + 719468) / 146097 = era := by omega
  have inEra : days + 719468 - era * 146097 = doe := by omega
  have inYearPlace : doe - (365 * yoe + yoe / 4 - yoe / 100) = doy := by omega
  have rounds := era_eq (days + 719468) (show 0 < (146097 : Int) by decide)
  norm_num only at rounds
  simp only [civilFromDays, rounds, whichEra, inEra]
  rw [Int.tdiv_eq_ediv_of_nonneg (a := doe) least, Int.tdiv_eq_ediv_of_nonneg (a := doe) least,
    Int.tdiv_eq_ediv_of_nonneg (a := doe) least,
    Int.tdiv_eq_ediv_of_nonneg (a := doe - doe / 1460 + doe / 36524 - doe / 146096) (by omega), year,
    Int.tdiv_eq_ediv_of_nonneg (a := yoe) years, Int.tdiv_eq_ediv_of_nonneg (a := yoe) years,
    inYearPlace, Int.tdiv_eq_ediv_of_nonneg (a := 5 * doy + 2) (by omega),
    Int.tdiv_eq_ediv_of_nonneg (by omega)]
  split
  · rw [if_neg (by omega)]
  · rw [if_pos (by omega)]

theorem monthLength_march {mp : Int} (least : 0 ≤ mp) (most : mp ≤ 10) :
    (monthLength year (if mp < 10 then mp + 3 else mp - 9).toNat : Int) =
      (153 * (mp + 1) + 2) / 5 - (153 * mp + 2) / 5 := by
  interval_cases mp <;> rfl

theorem exists_monthDay {year doy mp : Int} (inYear : 0 ≤ doy)
    (length : doy < 365 ∨ doy = 365 ∧ LeapYear (year + 1)) (month : mp = (5 * doy + 2) / 153) :
    ∃ date : Date, date.year = (if mp < 10 then year else year + 1) ∧
      (date.month : Int) = (if mp < 10 then mp + 3 else mp - 9) ∧
      (date.day : Int) = doy - (153 * mp + 2) / 5 + 1 := by
  have places : 0 ≤ mp ∧ mp ≤ 11 := by omega
  have ends : doy - (153 * mp + 2) / 5 + 1 ≤ monthLength (if mp < 10 then year else year + 1)
      (if mp < 10 then mp + 3 else mp - 9).toNat := by
    by_cases february : mp = 11
    · subst february
      by_cases leap : LeapYear (year + 1)
      · simp [monthLength, leap]
        omega
      · have short := length.resolve_right fun both => leap both.2
        simp [monthLength]
        omega
    · rw [monthLength_march _ places.1 (by omega)]
      omega
  exact ⟨⟨_, _, (doy - (153 * mp + 2) / 5 + 1).toNat, by omega, by omega, Int.toNat_le.mpr ends⟩,
    rfl, Int.toNat_of_nonneg (by omega), Int.toNat_of_nonneg (by omega)⟩

theorem exists_date (days : Int) :
    ∃ date : Date, civilFromDays days = (date.year, (date.month : Int), (date.day : Int)) ∧
      date.count yearStart = days := by
  obtain ⟨era, doe, number, least, most⟩ : ∃ era doe : Int,
      days + 719468 = era * 146097 + doe ∧ 0 ≤ doe ∧ doe < 146097 :=
    ⟨(days + 719468) / 146097, (days + 719468) % 146097, by omega⟩
  obtain ⟨yoe, doy, year, years, place, inYear, length, _⟩ := exists_yearOfEra least most
  have longEnough : doy < 365 ∨ doy = 365 ∧ LeapYear (yoe + era * 400 + 1) := by
    simp only [LeapYear] at length ⊢
    omega
  obtain ⟨date, yearIs, monthIs, dayIs⟩ := exists_monthDay inYear longEnough rfl
  refine ⟨date, ?_, ?_⟩
  · rw [civilFromDays_eq number least most year years place inYear, yearIs, monthIs, dayIs]
    split <;> rfl
  · have real := date.monthReal
    have byFour : (yoe + era * 400) / 4 = yoe / 4 + era * 100 := by omega
    have byHundred : (yoe + era * 400) / 100 = yoe / 100 + era * 4 := by omega
    have byEra : (yoe + era * 400) / 400 = era := by omega
    rw [← daysFromCivil_date, daysFromCivil_eq _ _ (by omega), dayIs]
    by_cases early : (5 * doy + 2) / 153 < 10
    · rw [if_pos early] at yearIs monthIs
      rw [if_neg (by omega), yearIs, monthIs, Int.add_sub_cancel, byFour, byHundred, byEra]
      omega
    · rw [if_neg early] at yearIs monthIs
      rw [if_pos (by omega), yearIs, monthIs, Int.sub_add_cancel, Int.add_sub_cancel, byFour,
        byHundred, byEra]
      omega

/-- A date as the source has it. -/
def civil (date : Date) : Int × Int × Int := (date.year, date.month, date.day)

theorem civilFromDays_count (date : Date) : civilFromDays (date.count yearStart) = civil date := by
  obtain ⟨_, same, counted⟩ := exists_date (date.count yearStart)
  rw [Date.count_injective yearStart_succ counted] at same
  exact same

/-- Day numbers and dates of the calendar are turned into each other, and the number after a
day's is that of the day after. -/
theorem civilFromDays_inverse :
    (∀ days, ∃ date : Date, civilFromDays days = civil date ∧
      daysFromCivil date.year date.month date.day = days ∧
      civilFromDays (days + 1) = civil date.next) ∧
    ∀ date : Date, civilFromDays (daysFromCivil date.year date.month date.day) = civil date := by
  constructor
  · intro days
    obtain ⟨date, same, counted⟩ := exists_date days
    refine ⟨date, same, (daysFromCivil_date date).trans counted, ?_⟩
    rw [← counted, ← Date.counts yearStart_succ date, civilFromDays_count]
  · intro date
    rw [daysFromCivil_date, civilFromDays_count]

/-! ## Seconds -/

theorem january_real : 1 ≤ 1 ∧ 1 ≤ 12 := by decide

/-- The first of January 1970 at midnight. -/
def unixEpoch : Moment := (Date.first 1970 1 january_real).midnight

/-- The number of a second when the days have the numbers of the source. -/
def unixSeconds (moment : Moment) : Int := moment.count (Date.count yearStart)

variable (moment : Moment)

theorem unixSeconds_eq :
    unixSeconds moment = daysFromCivil moment.year moment.month moment.day * 86400 +
      moment.hour * 3600 + moment.minute * 60 + moment.second := by
  rw [unixSeconds, Moment.count, ← daysFromCivil_date, Moment.secondOfDay]
  push_cast
  ring

theorem unixSeconds_injective : Function.Injective unixSeconds :=
  Moment.count_injective (Date.count_injective yearStart_succ)

theorem stepsFrom_unixEpoch {seconds : Int} {moment : Moment} :
    StepsFrom Moment.next unixEpoch seconds moment ↔ unixSeconds moment = seconds := by
  have counts : Counts Moment.next unixSeconds := Moment.counts (Date.counts yearStart_succ)
  exact counts.stepsFrom_iff unixSeconds_injective (by decide)

theorem le_year_iff : year ≤ moment.year ↔ yearStart year * 86400 ≤ unixSeconds moment := by
  have place := moment.dayOfYear_le
  have time : moment.secondOfDay < 86400 := by
    have hour := moment.hourReal
    have minute := moment.minuteReal
    have second := moment.secondReal
    rw [Moment.secondOfDay]
    omega
  have mono : Monotone yearStart := (yearStart_strictMono yearStart_succ).monotone
  rw [unixSeconds, Moment.count, Date.count]
  constructor
  · intro begun
    have starts := mono begun
    omega
  · intro begun
    by_contra early
    have ends := mono (Int.add_one_le_of_lt (not_le.mp early))
    rw [yearStart_succ] at ends
    omega

theorem fourDigitYear_iff :
    0 ≤ moment.year ∧ moment.year ≤ 9999 ↔
      -62167219200 ≤ unixSeconds moment ∧ unixSeconds moment ≤ 253402300799 := by
  have least := le_year_iff 0 moment
  have most := le_year_iff 10000 moment
  rw [show yearStart 0 = -719528 by decide] at least
  rw [show yearStart 10000 = 2932897 by decide] at most
  omega

end Mcps
