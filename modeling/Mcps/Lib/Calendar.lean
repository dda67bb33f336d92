import Mathlib.Logic.Function.Iterate
import Mathlib.Tactic

/-!
# The Gregorian calendar

Dates and moments of the proleptic Gregorian calendar, each with the one that follows it.
How far a moment lies from another is a count of successors, so nothing here rests on a
formula for it; a formula is right when it starts at zero, grows by one at each successor
and tells moments apart.
-/

namespace Calendar

/-! ## Counting along a successor -/

section

variable {α : Type} {next : α → α} {origin : α}

/-- A point lies so many successors behind the origin, or before it when negative. -/
def StepsFrom (next : α → α) (origin : α) (steps : Int) (point : α) : Prop :=
  next^[steps.toNat] origin = next^[(-steps).toNat] point

/-- A function that grows by one at each successor. -/
def Counts (next : α → α) (rank : α → Int) : Prop :=
  ∀ point, rank (next point) = rank point + 1

theorem Counts.iterate {rank : α → Int} (counts : Counts next rank) (steps : Nat) (point : α) :
    rank (next^[steps] point) = rank point + steps := by
  induction steps generalizing point with
  | zero => simp
  | succ steps ih =>
    rw [Function.iterate_succ_apply, ih, counts point]
    push_cast
    ring

theorem Counts.stepsFrom_iff {rank : α → Int} (counts : Counts next rank)
    (injective : Function.Injective rank) (start : rank origin = 0) {steps : Int} {point : α} :
    StepsFrom next origin steps point ↔ rank point = steps := by
  have left := counts.iterate steps.toNat origin
  have right := counts.iterate (-steps).toNat point
  constructor
  · intro same
    rw [same] at left
    omega
  · intro here
    apply injective
    omega

end

/-! ## Years and months -/

def LeapYear (year : Int) : Prop := 4 ∣ year ∧ (¬100 ∣ year ∨ 400 ∣ year)

instance (year : Int) : Decidable (LeapYear year) :=
  inferInstanceAs (Decidable (_ ∧ _))

def monthLength (year : Int) (month : Nat) : Nat :=
  match month with
  | 2 => if LeapYear year then 29 else 28
  | 4 | 6 | 9 | 11 => 30
  | _ => 31

/-- How many days the first months of a year have. -/
def daysThrough (year : Int) : Nat → Nat
  | 0 => 0
  | month + 1 => daysThrough year month + monthLength year (month + 1)

theorem daysThrough_mono (year : Int) : Monotone (daysThrough year) :=
  monotone_nat_of_le_succ fun _ => Nat.le_add_right _ _

def yearLength (year : Int) : Nat := daysThrough year 12

theorem yearLength_eq (year : Int) : yearLength year = if LeapYear year then 366 else 365 := by
  by_cases leap : LeapYear year <;> simp [yearLength, daysThrough, monthLength, leap]

/-! ## Dates -/

/-- A day that the calendar has. -/
@[ext] structure Date where
  year : Int
  month : Nat
  day : Nat
  monthReal : 1 ≤ month ∧ month ≤ 12
  dayReal : 1 ≤ day ∧ day ≤ monthLength year month

theorem monthLength_mem (year : Int) (month : Nat) :
    1 ≤ monthLength year month ∧ monthLength year month ≤ 31 := by
  by_cases leap : LeapYear year <;> (simp only [monthLength, leap]; split <;> decide)

/-- The first day of a month. -/
def Date.first (year : Int) (month : Nat) (real : 1 ≤ month ∧ month ≤ 12) : Date :=
  ⟨year, month, 1, real, le_rfl, (monthLength_mem year month).1⟩

/-- The day after. -/
def Date.next (date : Date) : Date :=
  if inMonth : date.day < monthLength date.year date.month then
    ⟨date.year, date.month, date.day + 1, date.monthReal, by omega, inMonth⟩
  else if inYear : date.month < 12 then
    .first date.year (date.month + 1) (by omega)
  else
    .first (date.year + 1) 1 (by decide)

/-- The place of a date in its year, counted from one. -/
def Date.dayOfYear (date : Date) : Nat := daysThrough date.year (date.month - 1) + date.day

theorem daysThrough_month (date : Date) :
    daysThrough date.year date.month =
      daysThrough date.year (date.month - 1) + monthLength date.year date.month := by
  have month := date.monthReal
  generalize date.month = number at month
  cases number with
  | zero => omega
  | succ number => rfl

theorem Date.dayOfYear_le (date : Date) :
    1 ≤ date.dayOfYear ∧ date.dayOfYear ≤ daysThrough date.year date.month ∧
      date.dayOfYear ≤ yearLength date.year := by
  have day := date.dayReal
  have through := daysThrough_month date
  have within := daysThrough_mono date.year date.monthReal.2
  simp only [Date.dayOfYear, yearLength]
  omega

theorem Date.eq_of_dayOfYear {left right : Date} (year : left.year = right.year)
    (same : left.dayOfYear = right.dayOfYear) : left = right := by
  have apart : ∀ first second : Date, first.year = second.year →
      first.month < second.month → first.dayOfYear < second.dayOfYear := by
    intro first second year before
    have ends := first.dayOfYear_le.2.1
    have begins := second.dayReal.1
    have between := daysThrough_mono second.year (Nat.le_sub_one_of_lt before)
    rw [year] at ends
    rw [Date.dayOfYear.eq_1 second]
    omega
  have month : left.month = right.month := by
    rcases lt_trichotomy left.month right.month with before | equal | after
    · exact absurd same (apart left right year before).ne
    · exact equal
    · exact absurd same (apart right left year.symm after).ne'
  have day : left.day = right.day := by
    rw [Date.dayOfYear, Date.dayOfYear, year, month] at same
    omega
  exact Date.ext year month day

/-! ## Day counts -/

/-- The number of a date when the years begin at these numbers. -/
def Date.count (yearStart : Int → Int) (date : Date) : Int :=
  yearStart date.year + date.dayOfYear - 1

section

variable {yearStart : Int → Int}
  (years : ∀ year, yearStart (year + 1) = yearStart year + yearLength year)

include years

theorem yearStart_strictMono : StrictMono yearStart := by
  apply strictMono_int_of_lt_succ
  intro year
  have length := yearLength_eq year
  rw [years year]
  split at length <;> omega

theorem Date.counts : Counts Date.next (Date.count yearStart) := by
  intro date
  have through := daysThrough_month date
  have day := date.dayReal
  unfold Date.next
  split
  · simp only [Date.count, Date.dayOfYear]
    omega
  · split
    · simp only [Date.count, Date.dayOfYear, Date.first, Nat.add_sub_cancel]
      omega
    · have last : date.month = 12 := by
        have month := date.monthReal
        omega
      have ends : daysThrough date.year date.month = yearLength date.year := by
        rw [last, yearLength]
      simp only [Date.count, Date.dayOfYear, Date.first, years, Nat.sub_self, daysThrough]
      omega

theorem Date.count_injective : Function.Injective (Date.count yearStart) := by
  have apart : ∀ first second : Date, first.year < second.year →
      first.count yearStart < second.count yearStart := by
    intro first second before
    have ends := first.dayOfYear_le.2.2
    have begins := second.dayOfYear_le.1
    have between := (yearStart_strictMono years).monotone (Int.add_one_le_of_lt before)
    rw [years] at between
    simp only [Date.count]
    omega
  intro left right same
  have year : left.year = right.year := by
    rcases lt_trichotomy left.year right.year with before | equal | after
    · exact absurd same (apart left right before).ne
    · exact equal
    · exact absurd same (apart right left after).ne'
  apply Date.eq_of_dayOfYear year
  simp only [Date.count, year] at same
  omega

end

/-! ## Moments -/

/-- A second of a date. -/
@[ext] structure Moment extends Date where
  hour : Nat
  minute : Nat
  second : Nat
  hourReal : hour ≤ 23
  minuteReal : minute ≤ 59
  secondReal : second ≤ 59

/-- Midnight, where a date begins. -/
def Date.midnight (date : Date) : Moment :=
  ⟨date, 0, 0, 0, by decide, by decide, by decide⟩

/-- The second after. -/
def Moment.next (moment : Moment) : Moment :=
  if inMinute : moment.second < 59 then
    { moment with second := moment.second + 1, secondReal := inMinute }
  else if inHour : moment.minute < 59 then
    { moment with minute := moment.minute + 1, second := 0, minuteReal := inHour,
                  secondReal := by decide }
  else if inDay : moment.hour < 23 then
    { moment with hour := moment.hour + 1, minute := 0, second := 0, hourReal := inDay,
                  minuteReal := by decide, secondReal := by decide }
  else moment.toDate.next.midnight

def Moment.secondOfDay (moment : Moment) : Nat :=
  moment.hour * 3600 + moment.minute * 60 + moment.second

/-- The number of a second when the days have these numbers. -/
def Moment.count (days : Date → Int) (moment : Moment) : Int :=
  days moment.toDate * 86400 + moment.secondOfDay

theorem Moment.counts {days : Date → Int} (counts : Counts Date.next days) :
    Counts Moment.next (Moment.count days) := by
  intro moment
  have hour := moment.hourReal
  have minute := moment.minuteReal
  have second := moment.secondReal
  unfold Moment.next
  split
  · simp only [Moment.count, Moment.secondOfDay]
    omega
  · split
    · simp only [Moment.count, Moment.secondOfDay]
      omega
    · split
      · simp only [Moment.count, Moment.secondOfDay]
        omega
      · simp only [Moment.count, Moment.secondOfDay, Date.midnight, counts moment.toDate]
        omega

theorem Moment.count_injective {days : Date → Int} (injective : Function.Injective days) :
    Function.Injective (Moment.count days) := by
  intro left right same
  have leftTime : left.hour ≤ 23 ∧ left.minute ≤ 59 ∧ left.second ≤ 59 :=
    ⟨left.hourReal, left.minuteReal, left.secondReal⟩
  have rightTime : right.hour ≤ 23 ∧ right.minute ≤ 59 ∧ right.second ≤ 59 :=
    ⟨right.hourReal, right.minuteReal, right.secondReal⟩
  simp only [Moment.count, Moment.secondOfDay] at same
  have date : left.toDate = right.toDate := by
    apply injective
    omega
  apply Moment.ext
  · exact congrArg Date.year date
  · exact congrArg Date.month date
  · exact congrArg Date.day date
  all_goals omega

end Calendar
