import Mcps.Core.CivilDate
import Mcps.Lib.Numeral
import Mcps.Lib.Result

/-!
# Timestamps name moments

A text is read as Unix seconds exactly when it names a moment of the calendar, and the
seconds are those between the epoch and that moment.  What is written for Unix seconds names
their moment when that lies in a year of four digits, and is read back exactly then.
-/

namespace Mcps

open Calendar List Option Except
open Numeral (Spells)

/-! ## What a timestamp is -/

/-- A fraction of a second behind a point, or nothing. -/
def IsFraction (text : List Char) : Prop :=
  text = [] ∨ ∃ digits, digits ≠ [] ∧ (∀ c ∈ digits, c.isDigit = true) ∧ text = '.' :: digits

/-- A text names a moment: `YYYY-MM-DDTHH:MM:SS`, then perhaps a fraction, then `Z`. -/
def Names (moment : Moment) (text : List Char) : Prop :=
  ∃ year month day hour minute second fraction : List Char,
    0 ≤ moment.year ∧ Spells 4 moment.year.toNat year ∧ Spells 2 moment.month month ∧
    Spells 2 moment.day day ∧ Spells 2 moment.hour hour ∧ Spells 2 moment.minute minute ∧
    Spells 2 moment.second second ∧ IsFraction fraction ∧
    text = year ++ '-' :: (month ++ '-' :: (day ++ 'T' :: (hour ++ ':' :: (minute ++ ':' ::
      (second ++ (fraction ++ ['Z']))))))

/-! ## Digits -/

variable {byte : UInt8}

theorem exists_isDigit (digit : isAsciiDigit byte = true) :
    ∃ c : Char, c.isDigit = true ∧ String.utf8EncodeChar c = [byte] := by
  simp only [isAsciiDigit, Bool.and_eq_true, decide_eq_true_eq, UInt8.le_iff_toNat_le,
    UInt8.reduceToNat] at digit
  obtain ⟨least, most⟩ := digit
  rw [← UInt8.ofNat_toNat (x := byte)]
  generalize byte.toNat = n at least most
  refine ⟨Char.ofNat n, ?_⟩
  interval_cases n <;> decide

theorem isAsciiDigit_ofNat {c : Char} (digit : c.isDigit = true) :
    isAsciiDigit (UInt8.ofNat c.toNat) = true := by
  have bounds := Numeral.toNat_of_isDigit digit
  simp only [isAsciiDigit, Bool.and_eq_true, decide_eq_true_eq, UInt8.le_iff_toNat_le, toNat_ofNat_of_lt (show c.toNat < 256 by omega)]
  exact bounds

variable {text : List Char}

theorem ascii_of_isDigit (digits : ∀ c ∈ text, c.isDigit = true) : ∀ c ∈ text, c.toNat < 0x80 := by
  intro c member
  have bounds := Numeral.toNat_of_isDigit (digits c member)
  omega

variable {bytes : Bytes}

theorem all_isAsciiDigit_iff :
    bytes.all isAsciiDigit = true ↔
      ∃ text : List Char, (∀ c ∈ text, c.isDigit = true) ∧ encodeUtf8 text = bytes := by
  constructor
  · intro every
    induction bytes with
    | nil => exact ⟨[], by simp, rfl⟩
    | cons byte bytes ih =>
      rw [all_cons, Bool.and_eq_true] at every
      obtain ⟨c, digit, encoded⟩ := exists_isDigit every.1
      obtain ⟨text, digits, rest⟩ := ih every.2
      refine ⟨c :: text, forall_mem_cons.mpr ⟨digit, digits⟩, ?_⟩
      rw [encodeUtf8_cons, encoded, rest]
      rfl
  · intro ⟨text, digits, same⟩
    subst same
    induction text with
    | nil => rfl
    | cons c text ih =>
      have digit := digits c (by simp)
      rw [encodeUtf8_cons, utf8EncodeChar_ascii (ascii_of_isDigit digits c (by simp)),
        all_append, ih fun c member => digits c (by simp [member]), all_cons,
        isAsciiDigit_ofNat digit]
      rfl

/-- The value of digits, as the source accumulates it. -/
def digitsValue (bytes : Bytes) : Option Int :=
  bytes.foldl (fun value byte => value.bind fun value =>
    if isAsciiDigit byte then some (value * 10 + (byte.toNat - 48 : Int)) else none) (some 0)

theorem digitsValue_concat (bytes : Bytes) (byte : UInt8) :
    digitsValue (bytes ++ [byte]) = (digitsValue bytes).bind fun value =>
      if isAsciiDigit byte then some (value * 10 + (byte.toNat - 48 : Int)) else none := by
  rw [digitsValue, foldl_append]
  rfl

theorem all_of_digitsValue {value : Int} (read : digitsValue bytes = some value) :
    bytes.all isAsciiDigit = true := by
  induction bytes using reverseRecOn generalizing value with
  | nil => rfl
  | append_singleton bytes byte ih =>
    rw [digitsValue_concat] at read
    obtain ⟨_, readBefore, last⟩ := bind_eq_some_iff.mp read
    rw [ite_none_right_eq_some] at last
    rw [all_append, ih readBefore, all_cons, last.1]
    rfl

theorem digitsValue_encodeUtf8 (digits : ∀ c ∈ text, c.isDigit = true) :
    digitsValue (encodeUtf8 text) = some (Nat.ofDigitChars 10 text 0 : Int) := by
  induction text using reverseRecOn with
  | nil => rfl
  | append_singleton text c ih =>
    have digit := digits c (by simp)
    have bounds := Numeral.toNat_of_isDigit digit
    rw [encodeUtf8_append, encodeUtf8_cons, utf8EncodeChar_ascii (by omega),
      Numeral.ofDigitChars_concat]
    simp only [encodeUtf8, flatMap_nil, append_nil]
    rw [digitsValue_concat, ← encodeUtf8, ih fun c member => digits c (by simp [member])]
    simp only [bind_some, isAsciiDigit_ofNat digit, ↓reduceIte, some.injEq,
      toNat_ofNat_of_lt (show c.toNat < 256 by omega)]
    omega

/-! ## Positions -/

variable {start : Nat}

theorem drop_of_getElem? (found : bytes[start]? = some byte) :
    bytes.drop start = byte :: bytes.drop (start + 1) := by
  obtain ⟨inside, same⟩ := List.getElem?_eq_some_iff.mp found
  rw [drop_eq_getElem_cons inside, same]

variable {rest : Bytes}

theorem getElem?_of_drop (here : bytes.drop start = byte :: rest) : bytes[start]? = some byte := by
  rw [← Nat.add_zero start, ← getElem?_drop, here]
  rfl

variable {width : Nat}

theorem drop_add (left : Bytes) (here : bytes.drop start = left ++ rest)
    (length : left.length = width) : bytes.drop (start + width) = rest := by
  rw [← drop_drop, here, drop_left' length]

theorem length_encodeUtf8_spells {value : Nat} (spells : Spells width value text) :
    (encodeUtf8 text).length = width := by
  rw [length_encodeUtf8_ascii (ascii_of_isDigit spells.digits), spells.length]

theorem parseFixedDigits_of_spells {value : Nat} (positive : 0 < width)
    (spells : Spells width value text) (here : bytes.drop start = encodeUtf8 text ++ rest) :
    parseFixedDigits bytes start width = some (value : Int) := by
  have size := length_encodeUtf8_spells spells
  have inside : ¬start + width > bytes.length := by
    have length := congrArg length here
    rw [length_drop, length_append] at length
    omega
  rw [parseFixedDigits, if_neg inside, here, take_left' size, ← digitsValue,
    digitsValue_encodeUtf8 spells.digits, spells.value]

theorem exists_spells {value : Int} (read : parseFixedDigits bytes start width = some value) :
    ∃ (text : List Char) (number : Nat), value = number ∧ Spells width number text ∧
      bytes.drop start = encodeUtf8 text ++ bytes.drop (start + width) := by
  rw [parseFixedDigits, ite_none_left_eq_some] at read
  obtain ⟨_, read⟩ := read
  rw [← digitsValue] at read
  obtain ⟨text, digits, same⟩ := all_isAsciiDigit_iff.mp (all_of_digitsValue read)
  rw [← same, digitsValue_encodeUtf8 digits, some.injEq] at read
  refine ⟨text, _, read.symm, ⟨?_, digits, rfl⟩, ?_⟩
  · rw [← length_encodeUtf8_ascii (ascii_of_isDigit digits), same, length_take, length_drop]
    omega
  · rw [same, ← drop_drop, take_append_drop]

theorem encodeUtf8_singleton_z : encodeUtf8 ['Z'] = [90] := by decide

theorem fractionOk_iff {tail : Bytes} :
    fractionOk tail = true ↔
      ∃ fraction, IsFraction fraction ∧ tail = encodeUtf8 (fraction ++ ['Z']) := by
  constructor
  · intro accepted
    unfold fractionOk at accepted
    split at accepted
    · rename_i bare
      exact ⟨[], .inl rfl, bare⟩
    · split at accepted
      · rename_i fraction
        split at accepted
        · rename_i ends
          rw [Bool.and_eq_true, Bool.not_eq_true', isEmpty_eq_false_iff] at accepted
          obtain ⟨some, every⟩ := accepted
          obtain ⟨digits, all, same⟩ := all_isAsciiDigit_iff.mp every
          refine ⟨'.' :: digits, .inr ⟨digits, ?_, all, rfl⟩, ?_⟩
          · intro empty
            rw [empty] at same
            exact some same.symm
          · rw [cons_append, encodeUtf8_cons, encodeUtf8_append, same,
              encodeUtf8_singleton_z, dropLast_append_getLast? 90 ends]
            rfl
        · cases accepted
      · cases accepted
  · intro ⟨fraction, isFraction, same⟩
    subst same
    rcases isFraction with empty | ⟨digits, some, all, same⟩
    · rw [empty]
      decide
    · have every := all_isAsciiDigit_iff.mpr ⟨digits, all, rfl⟩
      have written : encodeUtf8 digits ≠ [] := by
        intro empty
        exact some (encodeUtf8_injective empty)
      rw [same, cons_append, encodeUtf8_cons, encodeUtf8_append, encodeUtf8_singleton_z,
        show String.utf8EncodeChar '.' = [46] by decide]
      simp [fractionOk, every, written]

/-! ## Reading -/

theorem maxDay_eq (year : Int) {month : Nat} (least : 1 ≤ month) (most : month ≤ 12) :
    (if (month : Int) = 2 && isLeapYear year then 29
      else daysInMonth.getD ((month : Int) - 1).toNat 0) = (monthLength year month : Int) := by
  have leap := isLeapYear_iff year
  interval_cases month
  case «2» => by_cases itIs : LeapYear year <;> simp_all [monthLength, daysInMonth]
  all_goals rfl

/-- What the parser has checked when it accepts the bytes with these fields. -/
structure TimestampChecks (bytes : Bytes) (year month day hour minute second : Int) : Prop where
  dashes : bytes[4]? = some 45 ∧ bytes[7]? = some 45
  letter : bytes[10]? = some 84
  colons : bytes[13]? = some 58 ∧ bytes[16]? = some 58
  date : parseFixedDigits bytes 0 4 = some year ∧ parseFixedDigits bytes 5 2 = some month ∧
    parseFixedDigits bytes 8 2 = some day
  time : parseFixedDigits bytes 11 2 = some hour ∧ parseFixedDigits bytes 14 2 = some minute ∧
    parseFixedDigits bytes 17 2 = some second
  tail : fractionOk (bytes.drop 19) = true
  monthReal : 1 ≤ month ∧ month ≤ 12
  dayReal : 1 ≤ day ∧ day ≤
    if month = 2 && isLeapYear year then 29 else daysInMonth.getD (month - 1).toNat 0
  timeReal : hour ≤ 23 ∧ minute ≤ 59 ∧ second ≤ 59

theorem TimestampChecks.long {year month day hour minute second : Int}
    (accepted : TimestampChecks bytes year month day hour minute second) : ¬bytes.length < 20 := by
  intro short
  have tail := accepted.tail
  rw [drop_eq_nil_of_le (by omega)] at tail
  exact absurd tail (by decide)

variable {s : String}

theorem parseRfc3339Utc_eq_ok {seconds : Int} :
    parseRfc3339Utc s = .ok seconds ↔ ∃ year month day hour minute second,
      TimestampChecks (textBytes s) year month day hour minute second ∧
      seconds = daysFromCivil year month day * 86400 + hour * 3600 + minute * 60 + second := by
  constructor
  · intro parsed
    simp only [parseRfc3339Utc, guard_eq_ok, Bool.or_eq_true, decide_eq_true_eq, not_or,
      not_not] at parsed
    obtain ⟨_, ⟨⟨⟨⟨dash, secondDash⟩, letter⟩, colon⟩, secondColon⟩, parsed⟩ := parsed
    split at parsed
    · rename_i year month day hour minute second readYear readMonth readDay readHour readMinute
        readSecond
      simp only [guard_eq_ok] at parsed
      obtain ⟨tail, months, days, time, parsed⟩ := parsed
      simp only [not_or, not_lt] at months days time
      cases parsed
      exact ⟨year, month, day, hour, minute, second,
        ⟨⟨dash, secondDash⟩, letter, ⟨colon, secondColon⟩, ⟨readYear, readMonth, readDay⟩,
          ⟨readHour, readMinute, readSecond⟩, by simpa using tail, months, days,
          ⟨time.1.1, time.1.2, time.2⟩⟩, rfl⟩
    · cases parsed
  · rintro ⟨year, month, day, hour, minute, second, accepted, same⟩
    have time := accepted.timeReal
    simp only [parseRfc3339Utc, accepted.date, accepted.time, accepted.tail, accepted.dashes,
      accepted.letter, accepted.colons, guard_eq_ok, Bool.or_eq_true, decide_eq_true_eq, not_or,
      not_lt]
    exact ⟨not_lt.mp accepted.long, by simp, by simp, accepted.monthReal, accepted.dayReal,
      ⟨⟨time.1, time.2.1⟩, time.2.2⟩, congrArg _ same.symm⟩

theorem exists_names_of_parseRfc3339Utc {seconds : Int} (parsed : parseRfc3339Utc s = .ok seconds) :
    ∃ moment, Names moment s.toList ∧ unixSeconds moment = seconds := by
  obtain ⟨_, _, _, _, _, _, accepted, same⟩ := parseRfc3339Utc_eq_ok.mp parsed
  obtain ⟨readYear, readMonth, readDay⟩ := accepted.date
  obtain ⟨readHour, readMinute, readSecond⟩ := accepted.time
  obtain ⟨yearText, year, rfl, years, at0⟩ := exists_spells readYear
  obtain ⟨monthText, month, rfl, months, at5⟩ := exists_spells readMonth
  obtain ⟨dayText, day, rfl, days, at8⟩ := exists_spells readDay
  obtain ⟨hourText, hour, rfl, hours, at11⟩ := exists_spells readHour
  obtain ⟨minuteText, minute, rfl, minutes, at14⟩ := exists_spells readMinute
  obtain ⟨secondText, second, rfl, seconds, at17⟩ := exists_spells readSecond
  obtain ⟨fraction, isFraction, at19⟩ := fractionOk_iff.mp accepted.tail
  have at4 := drop_of_getElem? accepted.dashes.1
  have at7 := drop_of_getElem? accepted.dashes.2
  have at10 := drop_of_getElem? accepted.letter
  have at13 := drop_of_getElem? accepted.colons.1
  have at16 := drop_of_getElem? accepted.colons.2
  have monthReal := accepted.monthReal
  have dayReal := accepted.dayReal
  have timeReal := accepted.timeReal
  rw [maxDay_eq year (by omega) (by omega)] at dayReal
  let moment : Moment := ⟨⟨year, month, day, by omega, by omega⟩, hour, minute, second,
    by omega, by omega, by omega⟩
  refine ⟨moment, ⟨yearText, monthText, dayText, hourText, minuteText, secondText, fraction,
    Int.natCast_nonneg year, years, months, days, hours, minutes, seconds, isFraction, ?_⟩, ?_⟩
  · apply encodeUtf8_injective
    calc encodeUtf8 s.toList
      _ = (textBytes s).drop 0 := (textBytes_eq s).symm
      _ = encodeUtf8 yearText ++ 45 :: (encodeUtf8 monthText ++ 45 :: (encodeUtf8 dayText ++
            84 :: (encodeUtf8 hourText ++ 58 :: (encodeUtf8 minuteText ++ 58 ::
            (encodeUtf8 secondText ++ encodeUtf8 (fraction ++ ['Z'])))))) := by
          rw [at0, at4, at5, at7, at8, at10, at11, at13, at14, at16, at17, at19]
      _ = _ := by
          simp only [encodeUtf8_append, encodeUtf8_cons]
          rfl
  · rw [unixSeconds_eq, same]

theorem parseRfc3339Utc_of_names {moment : Moment} (names : Names moment s.toList) :
    parseRfc3339Utc s = .ok (unixSeconds moment) := by
  obtain ⟨year, month, day, hour, minute, second, fraction, forward, years, months, days, hours,
    minutes, seconds, isFraction, text⟩ := names
  have whole : (textBytes s).drop 0 = encodeUtf8 year ++ 45 :: (encodeUtf8 month ++ 45 ::
      (encodeUtf8 day ++ 84 :: (encodeUtf8 hour ++ 58 :: (encodeUtf8 minute ++ 58 ::
      (encodeUtf8 second ++ encodeUtf8 (fraction ++ ['Z'])))))) := by
    rw [textBytes_eq, text]
    simp only [encodeUtf8_append, encodeUtf8_cons]
    rfl
  have at4 := drop_add _ whole (length_encodeUtf8_spells years)
  have at5 := drop_add [45] at4 rfl
  have at7 := drop_add _ at5 (length_encodeUtf8_spells months)
  have at8 := drop_add [45] at7 rfl
  have at10 := drop_add _ at8 (length_encodeUtf8_spells days)
  have at11 := drop_add [84] at10 rfl
  have at13 := drop_add _ at11 (length_encodeUtf8_spells hours)
  have at14 := drop_add [58] at13 rfl
  have at16 := drop_add _ at14 (length_encodeUtf8_spells minutes)
  have at17 := drop_add [58] at16 rfl
  have at19 := drop_add _ at17 (length_encodeUtf8_spells seconds)
  have readYear := parseFixedDigits_of_spells (by decide) years whole
  rw [Int.toNat_of_nonneg forward] at readYear
  have monthReal := moment.monthReal
  have dayReal := moment.dayReal
  have timeReal := And.intro moment.hourReal (And.intro moment.minuteReal moment.secondReal)
  refine parseRfc3339Utc_eq_ok.mpr ⟨_, _, _, _, _, _, ?_, unixSeconds_eq moment⟩
  exact {
    dashes := ⟨getElem?_of_drop at4, getElem?_of_drop at7⟩
    letter := getElem?_of_drop at10
    colons := ⟨getElem?_of_drop at13, getElem?_of_drop at16⟩
    date := ⟨readYear, parseFixedDigits_of_spells (by decide) months at5,
      parseFixedDigits_of_spells (by decide) days at8⟩
    time := ⟨parseFixedDigits_of_spells (by decide) hours at11,
      parseFixedDigits_of_spells (by decide) minutes at14,
      parseFixedDigits_of_spells (by decide) seconds at17⟩
    tail := fractionOk_iff.mpr ⟨fraction, isFraction, at19⟩
    monthReal := by omega
    dayReal := by
      rw [maxDay_eq moment.year monthReal.1 monthReal.2]
      omega
    timeReal := by omega }

/-! ## Writing -/

theorem spells_zeroPadded {width value : Nat} (positive : 0 < width) (fits : value < 10 ^ width) :
    Spells width value (zeroPadded width value).toList := by
  have written : (zeroPadded width value).toList =
      replicate (width - (Nat.toDigits 10 value).length) '0' ++ Nat.toDigits 10 value := by
    rw [zeroPadded, if_neg (by omega)]
    simp [← String.length_toList]
  rw [written]
  exact Numeral.spells_filled positive fits

theorem exists_moment (unix : Int) :
    ∃ moment : Moment, unixSeconds moment = unix ∧
      (unixToRfc3339Utc unix).toList =
        (zeroPadded 4 moment.year).toList ++ '-' :: ((zeroPadded 2 moment.month).toList ++ '-' ::
        ((zeroPadded 2 moment.day).toList ++ 'T' :: ((zeroPadded 2 moment.hour).toList ++ ':' ::
        ((zeroPadded 2 moment.minute).toList ++ ':' :: ((zeroPadded 2 moment.second).toList ++
        ['Z']))))) := by
  obtain ⟨date, civil, _⟩ := exists_date (unix / 86400)
  let moment : Moment := ⟨date, (unix % 86400 / 3600).toNat, (unix % 86400 % 3600 / 60).toNat,
    (unix % 86400 % 60).toNat, by omega, by omega, by omega⟩
  refine ⟨moment, ?_, ?_⟩
  · rw [unixSeconds, Moment.count, Moment.secondOfDay]
    simp only [moment]
    omega
  · have hour : (moment.hour : Int) = unix % 86400 / 3600 := Int.toNat_of_nonneg (by omega)
    have minute : (moment.minute : Int) = unix % 86400 % 3600 / 60 :=
      Int.toNat_of_nonneg (by omega)
    have second : (moment.second : Int) = unix % 86400 % 60 := Int.toNat_of_nonneg (by omega)
    rw [hour, minute, second]
    simp [unixToRfc3339Utc, civil, moment]

theorem names_unixToRfc3339Utc {moment : Moment} (least : 0 ≤ moment.year)
    (most : moment.year ≤ 9999) :
    Names moment (unixToRfc3339Utc (unixSeconds moment)).toList := by
  obtain ⟨_, same, text⟩ := exists_moment (unixSeconds moment)
  cases unixSeconds_injective same
  have monthReal := moment.monthReal
  have dayReal := moment.dayReal
  have length := monthLength_mem moment.year moment.month
  have timeReal := And.intro moment.hourReal (And.intro moment.minuteReal moment.secondReal)
  have year := @spells_zeroPadded 4 moment.year.toNat (by decide) (by omega)
  rw [Int.toNat_of_nonneg least] at year
  exact ⟨_, _, _, _, _, _, [], least, year, spells_zeroPadded (by decide) (by omega),
    spells_zeroPadded (by decide) (by omega), spells_zeroPadded (by decide) (by omega),
    spells_zeroPadded (by decide) (by omega), spells_zeroPadded (by decide) (by omega),
    .inl rfl, text⟩

/-! ## Exactness -/

/-- Unix seconds in a year of four digits. -/
def FourDigitYear (unix : Int) : Prop := -62167219200 ≤ unix ∧ unix ≤ 253402300799

instance (unix : Int) : Decidable (FourDigitYear unix) := inferInstanceAs (Decidable (_ ∧ _))

theorem parseRfc3339Utc_unixToRfc3339Utc (unix : Int) :
    parseRfc3339Utc (unixToRfc3339Utc unix) = .ok unix ↔ FourDigitYear unix := by
  obtain ⟨_, same, _⟩ := exists_moment unix
  subst same
  rw [FourDigitYear, ← fourDigitYear_iff]
  constructor
  · intro parsed
    obtain ⟨_, names, same⟩ := exists_names_of_parseRfc3339Utc parsed
    cases unixSeconds_injective same
    obtain ⟨_, _, _, _, _, _, _, least, year, _⟩ := names
    have most := year.lt
    omega
  · intro ⟨least, most⟩
    exact parseRfc3339Utc_of_names (names_unixToRfc3339Utc least most)

/-- A text is read as Unix seconds exactly when it names the moment that lies so many seconds
from the epoch; and the seconds of a moment in a year of four digits are written as a text
that is read back. -/
theorem parseRfc3339Utc_exact :
    (∀ s seconds, parseRfc3339Utc s = .ok seconds ↔
      ∃ moment, Names moment s.toList ∧ StepsFrom Moment.next unixEpoch seconds moment) ∧
    ∀ seconds moment, StepsFrom Moment.next unixEpoch seconds moment →
      0 ≤ moment.year → moment.year ≤ 9999 →
      parseRfc3339Utc (unixToRfc3339Utc seconds) = .ok seconds := by
  simp only [stepsFrom_unixEpoch]
  refine ⟨fun s seconds => ⟨exists_names_of_parseRfc3339Utc, ?_⟩, ?_⟩
  · intro ⟨moment, names, same⟩
    rw [← same]
    exact parseRfc3339Utc_of_names names
  · intro seconds moment same least most
    rw [← same]
    exact parseRfc3339Utc_of_names (names_unixToRfc3339Utc least most)

end Mcps
