import Mathlib.Data.List.GetD
import Mathlib.Data.Nat.Find
import StarLens.Go.Time

/-! # Timestamps

Instants as RFC 3339 writes them: the date of the Gregorian calendar, the time of
the day and as many decimals as it takes, in UTC. -/

namespace StarLens.Go

structure Date where
  year : Nat
  month : Nat
  day : Nat
deriving DecidableEq

namespace Date

/-! ## The calendar -/

def isLeap (year : Nat) : Bool := year % 4 = 0 && (year % 100 ≠ 0 || year % 400 = 0)

def daysBefore (year : Nat) : Nat :=
  365 * year + (year + 3) / 4 - (year + 99) / 100 + (year + 399) / 400

def yearOf (days : Nat) : Nat :=
  Nat.findGreatest (fun year => daysBefore year ≤ days) (days / 365)

def monthLengths (leap : Bool) : List Nat :=
  [31, if leap then 29 else 28, 31, 30, 31, 30, 31, 31, 30, 31, 30, 31]

def split : List Nat → Nat → Nat × Nat
  | [], days => (0, days)
  | length :: lengths, days =>
      if days < length then (0, days)
      else
        let rest := split lengths (days - length)
        (rest.1 + 1, rest.2)

def ofDays (days : Nat) : Date :=
  let year := yearOf days
  let (month, day) := split (monthLengths (isLeap year)) (days - daysBefore year)
  { year, month := month + 1, day := day + 1 }

/-- The days up to a date; none for one that is not in the calendar. -/
def toDays (date : Date) : Option Nat :=
  let lengths := monthLengths (isLeap date.year)
  match date.month, date.day with
  | month + 1, day + 1 =>
      if day < lengths.getD month 0 then
        some (daysBefore date.year + ((lengths.take month).sum + day))
      else none
  | _, _ => none

private theorem daysBefore_succ (year : Nat) :
    daysBefore (year + 1) = daysBefore year + (365 + if isLeap year then 1 else 0) := by
  have fours : (year + 1 + 3) / 4 = (year + 3) / 4 + if year % 4 = 0 then 1 else 0 := by
    split <;> omega
  have hundreds : (year + 1 + 99) / 100 = (year + 99) / 100 + if year % 100 = 0 then 1 else 0 := by
    split <;> omega
  have fourHundreds :
      (year + 1 + 399) / 400 = (year + 399) / 400 + if year % 400 = 0 then 1 else 0 := by
    split <;> omega
  have leap : (if isLeap year then 1 else 0) + (if year % 100 = 0 then 1 else 0) =
      (if year % 4 = 0 then 1 else 0) + if year % 400 = 0 then 1 else 0 := by
    by_cases four : year % 4 = 0
    · by_cases hundred : year % 100 = 0
      · by_cases fourHundred : year % 400 = 0 <;> simp [isLeap, four, hundred, fourHundred]
      · have fourHundred : year % 400 ≠ 0 := by omega
        simp [isLeap, four, hundred, fourHundred]
    · have hundred : year % 100 ≠ 0 := by omega
      have fourHundred : year % 400 ≠ 0 := by omega
      simp [isLeap, four, hundred, fourHundred]
  have enough : (year + 99) / 100 ≤ 365 * year + (year + 3) / 4 := by omega
  simp only [daysBefore, fours, hundreds, fourHundreds]
  omega

private theorem le_daysBefore (year : Nat) : 365 * year ≤ daysBefore year := by
  rw [daysBefore]
  omega

private theorem daysBefore_yearOf (days : Nat) : daysBefore (yearOf days) ≤ days :=
  Nat.findGreatest_spec (P := fun year => daysBefore year ≤ days) (m := 0) (Nat.zero_le _)
    (Nat.zero_le days)

private theorem daysBefore_mono {year later : Nat} (le : year ≤ later) :
    daysBefore year ≤ daysBefore later := by
  induction le with
  | refl => exact Nat.le_refl _
  | step _ induction =>
      rw [daysBefore_succ]
      omega

private theorem le_yearOf_iff (year days : Nat) : year ≤ yearOf days ↔ daysBefore year ≤ days := by
  apply Iff.intro
  · intro le
    exact (daysBefore_mono le).trans (daysBefore_yearOf days)
  · intro early
    have within : year ≤ days / 365 := by
      have least := le_daysBefore year
      omega
    exact Nat.le_findGreatest within early

private theorem lt_daysBefore_yearOf (days : Nat) : days < daysBefore (yearOf days + 1) := by
  rw [← Nat.not_le, ← le_yearOf_iff]
  exact Nat.not_succ_le_self _

private theorem sum_monthLengths (leap : Bool) :
    (monthLengths leap).sum = 365 + if leap then 1 else 0 := by
  cases leap <;> rfl

private theorem split_spec (lengths : List Nat) (days : Nat) (within : days < lengths.sum) :
    (split lengths days).2 < lengths.getD (split lengths days).1 0 ∧
      (lengths.take (split lengths days).1).sum + (split lengths days).2 = days := by
  induction lengths generalizing days with
  | nil => exact absurd within (Nat.not_lt_zero _)
  | cons length lengths induction =>
      rw [split]
      by_cases inside : days < length
      · rw [if_pos inside]
        exact ⟨inside, Nat.zero_add days⟩
      · rw [if_neg inside]
        rw [List.sum_cons] at within
        rcases induction (days - length) (by omega) with ⟨day, total⟩
        refine ⟨day, ?_⟩
        dsimp only
        rw [List.take_succ_cons, List.sum_cons]
        omega

private theorem toDays_ofDays (days : Nat) : (ofDays days).toDays = some days := by
  have lower := daysBefore_yearOf days
  have upper := lt_daysBefore_yearOf days
  rw [daysBefore_succ] at upper
  have within : days - daysBefore (yearOf days) < (monthLengths (isLeap (yearOf days))).sum := by
    rw [sum_monthLengths]
    omega
  rcases split_spec _ _ within with ⟨day, total⟩
  simp only [toDays, ofDays, if_pos day, total]
  rw [Nat.add_sub_cancel' lower]

private theorem bounds_of_toDays {date : Date} {days : Nat} (inCalendar : date.toDays = some days) :
    date.month < 100 ∧ date.day < 100 := by
  rcases date with ⟨year, month, day⟩
  cases month with
  | zero => cases inCalendar
  | succ month =>
      cases day with
      | zero => cases inCalendar
      | succ day =>
          simp only [toDays] at inCalendar
          split at inCalendar
          case isTrue within =>
              have short : month < 12 := by
                by_contra beyond
                rw [List.getD_eq_default _ _ (by simpa [monthLengths] using beyond)] at within
                exact absurd within (Nat.not_lt_zero _)
              have lengths : ∀ length ∈ monthLengths (isLeap year), length ≤ 31 := by
                cases isLeap year <;> decide
              have member : (monthLengths (isLeap year)).getD month 0 ∈
                  monthLengths (isLeap year) := by
                rw [List.getD_eq_getElem _ _ (by simpa [monthLengths] using short)]
                exact List.getElem_mem _
              have most := lengths _ member
              exact ⟨by dsimp only; omega, by dsimp only; omega⟩
          case isFalse => cases inCalendar

end Date

/-! ## Digits -/

namespace Timestamp

def digits : (width value : Nat) → List Char
  | 0, _ => []
  | width + 1, value => digits width (value / 10) ++ [(value % 10).digitChar]

def readDigits (width : Nat) (text : List Char) : Option (Nat × List Char) :=
  let number := text.take width
  if number.length = width ∧ number.all Char.isDigit then
    some (Nat.ofDigitChars 10 number 0, text.drop width)
  else none

def skip (char : Char) : List Char → Option (List Char)
  | first :: text => if first = char then some text else none
  | [] => none

private theorem length_digits (width value : Nat) : (digits width value).length = width := by
  induction width generalizing value with
  | zero => rfl
  | succ width induction => rw [digits, List.length_append, induction, List.length_singleton]

private theorem isDigit_digits (width value : Nat) : ∀ char ∈ digits width value, char.isDigit := by
  induction width generalizing value with
  | zero => exact nofun
  | succ width induction =>
      intro char member
      rw [digits, List.mem_append, List.mem_singleton] at member
      rcases member with member | rfl
      · exact induction _ char member
      · simpa [Nat.isDigit_digitChar] using Nat.mod_lt value (by decide : 0 < 10)

private theorem ofDigitChars_digits (width value : Nat) (small : value < 10 ^ width) :
    Nat.ofDigitChars 10 (digits width value) 0 = value := by
  induction width generalizing value with
  | zero =>
      rw [pow_zero, Nat.lt_one_iff] at small
      rw [small]
      rfl
  | succ width induction =>
      have shorter : value / 10 < 10 ^ width := by
        rw [Nat.div_lt_iff_lt_mul (by decide), ← pow_succ]
        exact small
      rw [digits, Nat.ofDigitChars_append, induction _ shorter,
        Nat.ofDigitChars_cons_digitChar_of_lt_ten (Nat.mod_lt _ (by decide)), Nat.ofDigitChars_nil]
      omega

theorem readDigits_digits {width value : Nat} (small : value < 10 ^ width) (rest : List Char) :
    readDigits width (digits width value ++ rest) = some (value, rest) := by
  have taken : (digits width value ++ rest).take width = digits width value :=
    List.take_left' (length_digits width value)
  have dropped : (digits width value ++ rest).drop width = rest :=
    List.drop_left' (length_digits width value)
  have all : (digits width value).all Char.isDigit := List.all_eq_true.mpr (isDigit_digits _ _)
  rw [readDigits, taken, dropped, if_pos ⟨length_digits width value, all⟩,
    ofDigitChars_digits width value small]

private theorem skip_cons (char : Char) (text : List Char) : skip char (char :: text) = some text :=
  if_pos rfl

end Timestamp

/-! ## Instants -/

namespace Time

open Duration Timestamp

def nanosPerSecond : Nat := 1000000000

/-- From the first of the year 0 to the zero time. -/
def zeroTime : Nat := 366 * 86400 * nanosPerSecond

/-- `MarshalJSON` without the quotes; none for a year that four digits do not
hold. -/
def marshal (time : Time) : Option (List Char) :=
  let nanos := time.wall + zeroTime
  let seconds := nanos.toNat / nanosPerSecond
  let date := Date.ofDays (seconds / 86400)
  let clock := seconds % 86400
  if nanos < 0 ∨ 10000 ≤ date.year then none
  else
    some (digits 4 date.year ++ '-' :: (digits 2 date.month ++ '-' :: (digits 2 date.day ++
      'T' :: (digits 2 (clock / 3600) ++ ':' :: (digits 2 (clock / 60 % 60) ++
        ':' :: (digits 2 (clock % 60) ++ ((fmtFrac 9 nanos.toNat []).1 ++ ['Z'])))))))

def unmarshal (text : List Char) : Option Time := do
  let (year, text) ← readDigits 4 text
  let text ← skip '-' text
  let (month, text) ← readDigits 2 text
  let text ← skip '-' text
  let (day, text) ← readDigits 2 text
  let days ← Date.toDays { year, month, day }
  let text ← skip 'T' text
  let (hours, text) ← readDigits 2 text
  let text ← skip ':' text
  let (minutes, text) ← readDigits 2 text
  let text ← skip ':' text
  let (seconds, text) ← readDigits 2 text
  let (decimals, text) := cutFraction text
  guard (text = ['Z'] ∧ hours < 24 ∧ minutes < 60 ∧ seconds < 60)
  let nanos := Nat.ofDigitChars 10 decimals 0 * nanosPerSecond / 10 ^ decimals.length
  let clock := (days * 86400 + hours * 3600 + minutes * 60 + seconds) * nanosPerSecond + nanos
  return { wall := clock - zeroTime }

def FourDigitYear (time : Time) : Prop :=
  0 ≤ time.wall + zeroTime ∧
    (time.wall + zeroTime).toNat / nanosPerSecond / 86400 < Date.daysBefore 10000

theorem marshal_isSome_iff (time : Time) : time.marshal.isSome ↔ time.FourDigitYear := by
  have year : 10000 ≤ (Date.ofDays ((time.wall + zeroTime).toNat / nanosPerSecond / 86400)).year ↔
      Date.daysBefore 10000 ≤ (time.wall + zeroTime).toNat / nanosPerSecond / 86400 :=
    Date.le_yearOf_iff _ _
  simp only [marshal, year, FourDigitYear]
  split
  case isTrue out =>
      simp only [Option.isSome_none, Bool.false_eq_true, false_iff]
      omega
  case isFalse within =>
      simp only [Option.isSome_some, true_iff]
      omega

/-- A timestamp is read back as the instant on the wall clock that it was written
of, to the nanosecond. -/
theorem unmarshal_marshal {time : Time} {text : List Char} (written : time.marshal = some text) :
    unmarshal text = some time.utc := by
  simp only [marshal] at written
  split at written
  case isTrue => cases written
  case isFalse within =>
      rw [not_or, not_le, not_lt] at within
      rcases within with ⟨after, fourDigits⟩
      rcases Int.eq_ofNat_of_zero_le after with ⟨nanos, total⟩
      rw [total, Int.toNat_natCast] at written fourDigits
      have inCalendar := Date.toDays_ofDays (nanos / nanosPerSecond / 86400)
      generalize Date.ofDays (nanos / nanosPerSecond / 86400) = date at *
      rcases Date.bounds_of_toDays inCalendar with ⟨month, day⟩
      rcases fmtFrac_nil 9 nanos with ⟨decimals, fraction, allDigits, -, number⟩
      have cut : cutFraction (fractionText decimals ++ ['Z']) = (decimals, ['Z']) := by
        apply cutFraction_fractionText allDigits
        intro char member
        rw [← Option.some.inj member]
        decide
      generalize seconds : nanos / nanosPerSecond = clock at *
      have hours : clock % 86400 / 3600 < 24 := by omega
      have minutes : clock / 60 % 60 < 60 := Nat.mod_lt _ (by decide)
      have inMinute : clock % 60 < 60 := Nat.mod_lt _ (by decide)
      have sixties : clock % 86400 / 60 % 60 = clock / 60 % 60 ∧
          clock % 86400 % 60 = clock % 60 := by
        omega
      rw [sixties.1, sixties.2] at written
      rw [← Option.some.inj written, fraction]
      have readYear := readDigits_digits (show date.year < 10 ^ 4 from fourDigits)
      have readMonth := readDigits_digits (show date.month < 10 ^ 2 from month)
      have readDay := readDigits_digits (show date.day < 10 ^ 2 from day)
      have readHours := readDigits_digits (show clock % 86400 / 3600 < 10 ^ 2 by omega)
      have readMinutes := readDigits_digits (show clock / 60 % 60 < 10 ^ 2 by omega)
      have readSeconds := readDigits_digits (show clock % 60 < 10 ^ 2 by omega)
      simp only [unmarshal, bind, readYear, readMonth, readDay, readHours, readMinutes, readSeconds,
        skip_cons, cut, Option.bind_some]
      have inDay : True ∧ clock % 86400 / 3600 < 24 ∧ clock / 60 % 60 < 60 ∧ clock % 60 < 60 :=
        ⟨trivial, hours, minutes, inMinute⟩
      rw [inCalendar, Option.bind_some, guard, if_pos inDay]
      have whole : (clock / 86400 * 86400 + clock % 86400 / 3600 * 3600 + clock / 60 % 60 * 60 +
          clock % 60) = clock := by omega
      have elapsed : clock * nanosPerSecond + nanos % 10 ^ 9 = nanos := by
        rw [← seconds, Nat.mul_comm]
        exact Nat.div_add_mod _ _
      have back : Nat.ofDigitChars 10 decimals 0 * nanosPerSecond / 10 ^ decimals.length =
          nanos % 10 ^ 9 := number
      rw [whole, back, elapsed, ← total, Int.add_sub_cancel]
      rfl

end Time

end StarLens.Go
