import Mathlib.Logic.Function.Iterate
import Mathlib.Tactic.IntervalCases

/-!
# The Gregorian calendar

Dates that exist (`Date`), the day after a date (`Date.next`), and the number of a day in closed
form (`dayNumber`).

* `Date.number_next` — the day after has the next number.
* `Date.exists_iterate_next` — every later date is reached by going from day to day.
-/

namespace DnsFilter.Calendar

def isLeapYear (year : Nat) : Bool := (year % 4 == 0 && year % 100 != 0) || year % 400 == 0

def daysInMonth (year month : Nat) : Nat :=
  if month = 2 then if isLeapYear year then 29 else 28
  else if month = 4 ∨ month = 6 ∨ month = 9 ∨ month = 11 then 30
  else 31

/-- A date of the Gregorian calendar, extended backwards to the year 0. -/
@[ext] structure Date where
  year : Nat
  month : Nat
  day : Nat
  month_pos : 1 ≤ month
  month_le : month ≤ 12
  day_pos : 1 ≤ day
  day_le : day ≤ daysInMonth year month

theorem daysInMonth_pos (year month : Nat) : 1 ≤ daysInMonth year month := by
  unfold daysInMonth
  split_ifs <;> omega

theorem daysInMonth_le (year month : Nat) : daysInMonth year month ≤ 31 := by
  unfold daysInMonth
  split_ifs <;> omega

namespace Date

/-- The first day of a month. -/
def firstOf (year month : Nat) (hpos : 1 ≤ month) (hle : month ≤ 12) : Date where
  year := year
  month := month
  day := 1
  month_pos := hpos
  month_le := hle
  day_pos := Nat.le_refl 1
  day_le := daysInMonth_pos year month

/-- The day after. -/
def next (d : Date) : Date :=
  if hday : d.day < daysInMonth d.year d.month then
    { d with day := d.day + 1, day_pos := by omega, day_le := hday }
  else if hmonth : d.month < 12 then firstOf d.year (d.month + 1) (by omega) hmonth
  else firstOf (d.year + 1) 1 (Nat.le_refl 1) (by decide)

end Date

/-- The number of a day, counted from the first of March of the year 0. The year is taken to start
in March, so that a leap day is its last day. -/
def dayNumber (year month day : Int) : Int :=
  let y := if month ≤ 2 then year - 1 else year
  let m := if month ≤ 2 then month + 9 else month - 3
  365 * y + y / 4 - y / 100 + y / 400 + (153 * m + 2) / 5 + day - 1

theorem isLeapYear_iff (year : Nat) :
    isLeapYear year = true ↔ (year % 4 = 0 ∧ year % 100 ≠ 0) ∨ year % 400 = 0 := by
  simp [isLeapYear]

theorem dayNumber_succ (year month day : Int) :
    dayNumber year month (day + 1) = dayNumber year month day + 1 := by
  simp only [dayNumber]
  omega

/-- Over the end of a month; in February the leap day is what the divisions of the year count. -/
theorem dayNumber_next_month {year month : Nat} (hpos : 1 ≤ month) (hlt : month < 12) :
    dayNumber year (month + 1) 1 = dayNumber year month (daysInMonth year month) + 1 := by
  have hleap := isLeapYear_iff year
  unfold daysInMonth
  by_cases hyear : isLeapYear year = true
  · rw [if_pos hyear]
    have hyear' := hleap.1 hyear
    interval_cases month <;> simp [dayNumber] <;> omega
  · rw [if_neg hyear]
    have hyear' := mt hleap.2 hyear
    interval_cases month <;> simp [dayNumber] <;> omega

theorem dayNumber_next_year (year : Int) :
    dayNumber (year + 1) 1 1 = dayNumber year 12 31 + 1 := by
  simp [dayNumber]
  omega

namespace Date

def number (d : Date) : Int := dayNumber d.year d.month d.day

/-- **The day after has the next number**, over the ends of months, years and centuries. -/
theorem number_next (d : Date) : d.next.number = d.number + 1 := by
  have hpos := d.month_pos
  have hle := d.month_le
  have hlast := d.day_le
  unfold next number
  by_cases hinside : d.day < daysInMonth d.year d.month
  · rw [dif_pos hinside]
    exact dayNumber_succ d.year d.month d.day
  · rw [dif_neg hinside]
    have hend : d.day = daysInMonth d.year d.month := by omega
    by_cases hmonth : d.month < 12
    · rw [dif_pos hmonth, hend]
      exact dayNumber_next_month hpos hmonth
    · rw [dif_neg hmonth, hend]
      have htwelve : d.month = 12 := by omega
      rw [htwelve]
      exact dayNumber_next_year d.year

theorem number_iterate_next (d : Date) (n : Nat) : (next^[n] d).number = d.number + n := by
  induction n with
  | zero => simp
  | succ n ih =>
      rw [Function.iterate_succ_apply', number_next, ih]
      omega

/-! ## From day to day -/

/-- Every day of a month is reached from its first day. -/
theorem exists_iterate_day (d : Date) :
    ∃ n, next^[n] (firstOf d.year d.month d.month_pos d.month_le) = d := by
  obtain ⟨year, month, day, hpos, hle, hday, hlast⟩ := d
  induction day, hday using Nat.le_induction with
  | base => exact ⟨0, rfl⟩
  | succ day hday ih =>
      obtain ⟨n, hn⟩ := ih (by omega)
      have hinside : day < daysInMonth year month := hlast
      exact ⟨n + 1, by rw [Function.iterate_succ_apply', hn, next, dif_pos hinside]⟩

/-- The first day of the next month is reached from the last day of a month. -/
theorem exists_iterate_firstOf (year months : Nat) :
    ∃ n, next^[n] (firstOf year 1 (Nat.le_refl 1) (by decide)) =
      firstOf (year + months / 12) (months % 12 + 1) (by omega) (by omega) := by
  induction months with
  | zero => exact ⟨0, rfl⟩
  | succ months ih =>
      obtain ⟨n, hn⟩ := ih
      let last : Date :=
        { year := year + months / 12
          month := months % 12 + 1
          day := daysInMonth (year + months / 12) (months % 12 + 1)
          month_pos := by omega
          month_le := by omega
          day_pos := daysInMonth_pos _ _
          day_le := Nat.le_refl _ }
      obtain ⟨k, hk⟩ := exists_iterate_day last
      refine ⟨k + n + 1, ?_⟩
      rw [Function.iterate_succ_apply', Function.iterate_add_apply, hn]
      show (next^[k] (firstOf last.year last.month last.month_pos last.month_le)).next = _
      rw [hk, next, dif_neg (Nat.lt_irrefl _)]
      by_cases hmonth : last.month < 12
      · rw [dif_pos hmonth]
        have hmod : months % 12 + 1 < 12 := hmonth
        ext
        · show year + months / 12 = year + (months + 1) / 12
          omega
        · show months % 12 + 1 + 1 = (months + 1) % 12 + 1
          omega
        · rfl
      · rw [dif_neg hmonth]
        have hmod : ¬ months % 12 + 1 < 12 := hmonth
        ext
        · show year + months / 12 + 1 = year + (months + 1) / 12
          omega
        · show 1 = (months + 1) % 12 + 1
          omega
        · rfl

/-- **Every date is reached** by going from day to day, from the start of any year before. -/
theorem exists_iterate_next {year : Nat} (d : Date) (h : year ≤ d.year) :
    ∃ n, next^[n] (firstOf year 1 (Nat.le_refl 1) (by decide)) = d := by
  have hpos := d.month_pos
  have hle := d.month_le
  obtain ⟨n, hn⟩ := exists_iterate_firstOf year ((d.year - year) * 12 + (d.month - 1))
  obtain ⟨k, hk⟩ := exists_iterate_day d
  refine ⟨k + n, ?_⟩
  have hfirst : firstOf (year + ((d.year - year) * 12 + (d.month - 1)) / 12)
      (((d.year - year) * 12 + (d.month - 1)) % 12 + 1) (by omega) (by omega) =
        firstOf d.year d.month d.month_pos d.month_le := by
    ext
    · show year + ((d.year - year) * 12 + (d.month - 1)) / 12 = d.year
      omega
    · show ((d.year - year) * 12 + (d.month - 1)) % 12 + 1 = d.month
      omega
    · rfl
  rw [Function.iterate_add_apply, hn, hfirst, hk]

end Date

/-- A time of day, in seconds; no leap second is counted. -/
structure TimeOfDay where
  hour : Nat
  minute : Nat
  second : Nat
  hour_lt : hour < 24
  minute_lt : minute < 60
  second_lt : second < 60

def TimeOfDay.seconds (t : TimeOfDay) : Nat := t.hour * 3600 + t.minute * 60 + t.second

end DnsFilter.Calendar
