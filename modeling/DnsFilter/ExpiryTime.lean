import DnsFilter.X509Proof

/-!
# The expiry time is exact

The two notations of a time in a certificate, and what `parse_asn1_time` makes of them.

* `asn1Time_exact` — the date arithmetic goes from day to day as the calendar does, and a time
  from 1970 on is read as its number of seconds since then.
-/

namespace DnsFilter.X509

open Machine Utf8 Numeral Calendar

/-! ## Notations of a time -/

/-- The part of a time that both notations share, with the final `Z`. -/
def timeText (year : String) (d : Date) (t : TimeOfDay) : TimeText where
  year := year
  month := zeroPadded 2 d.month
  day := zeroPadded 2 d.day
  hour := zeroPadded 2 t.hour
  minute := zeroPadded 2 t.minute
  second := zeroPadded 2 t.second
  rest := "Z"

/-- UTCTime, `YYMMDDHHMMSSZ`. -/
def utcTime (d : Date) (t : TimeOfDay) : List UInt8 :=
  (timeText (zeroPadded 2 (d.year % 100)) d t).text.toUTF8.toList

/-- GeneralizedTime, `YYYYMMDDHHMMSSZ`. -/
def generalizedTime (d : Date) (t : TimeOfDay) : List UInt8 :=
  (timeText (zeroPadded 4 d.year) d t).text.toUTF8.toList

theorem january_pos : 1 ≤ 1 := Nat.le_refl 1

theorem january_le : 1 ≤ 12 := by decide

/-- The first day of 1970. -/
def epoch : Date := .firstOf 1970 1 january_pos january_le

theorem isNumber_zeroPadded {width n : Nat} (hpos : 0 < width) (hwidth : n < 10 ^ width)
    (h : n < 2 ^ 32) : IsNumber width (zeroPadded width n) n := by
  refine ⟨?_, parseUnsigned_zeroPadded width h⟩
  rw [byteSize_of_ascii, length_zeroPadded hpos hwidth]
  intro c hc
  have hdigit := isDigit_of_mem_zeroPadded hc
  unfold Char.isDigit at hdigit
  rw [Bool.and_eq_true, decide_eq_true_eq, decide_eq_true_eq, UInt32.le_iff_toNat_le] at hdigit
  exact lt_of_le_of_lt hdigit.2 (by decide)

/-! ## What is read -/

/-- The fields of a time that exists. -/
def timeFieldsOf (d : Date) (t : TimeOfDay) : TimeFields :=
  ⟨d.year, d.month, d.day, t.hour, t.minute, t.second⟩

theorem denotes_timeText {tag : UInt8} {year : String} {d : Date} {t : TimeOfDay}
    (hyear : IsYear tag year d.year) :
    (timeText year d t).Denotes tag (timeFieldsOf d t) := by
  have hmonth := d.month_le
  have hday := d.day_le.trans (daysInMonth_le d.year d.month)
  have hhour := t.hour_lt
  have hminute := t.minute_lt
  have hsecond := t.second_lt
  have htwo {n : Nat} (h : n < 100) : IsNumber 2 (zeroPadded 2 n) n :=
    isNumber_zeroPadded (by decide) h (by omega)
  exact ⟨hyear, htwo (by omega), htwo (by omega), htwo (by omega), htwo (by omega),
    htwo (by omega)⟩

/-- A time from 1970 on, in either notation, is read as its seconds since then. -/
theorem parseAsn1Time_timeText {tag : UInt8} {year : String} {d : Date} {t : TimeOfDay} {n : Nat}
    (hyear : IsYear tag year d.year) (hn : Date.next^[n] epoch = d) :
    parseAsn1Time tag (timeText year d t).text.toUTF8.toList = .ok (n * 86400 + t.seconds) := by
  have hdenotes : (timeText year d t).Denotes tag (timeFieldsOf d t) := denotes_timeText hyear
  have hfields : timeFields tag (timeText year d t).text.toUTF8.toList = .ok (timeFieldsOf d t) :=
    timeFields_eq_ok.2 ⟨_, rfl, hdenotes⟩
  have hnumber : d.number = epoch.number + n := by
    rw [← hn, Date.number_iterate_next]
  have hseconds : (timeFieldsOf d t).seconds = (n * 86400 + t.seconds : Nat) := by
    have hdays : dayNumber d.year d.month d.day - dayNumber 1970 1 1 = n := by
      have hday : d.number = dayNumber d.year d.month d.day := rfl
      have hepoch : epoch.number = dayNumber 1970 1 1 := rfl
      omega
    show (dayNumber d.year d.month d.day - dayNumber 1970 1 1) * 86400 + t.hour * 3600 +
      t.minute * 60 + t.second = _
    rw [hdays, TimeOfDay.seconds]
    omega
  have hunderflow : ¬ ((timeFieldsOf d t).month = 3 ∧ (timeFieldsOf d t).day = 0) := by
    intro h
    have hpos := d.day_pos
    have hzero : d.day = 0 := h.2
    omega
  rw [parseAsn1Time, hfields, ok_bind, unixTime_eq hdenotes.inRange, if_neg hunderflow, hseconds,
    if_neg (by omega), Int.toNat_natCast]

theorem daysFromCivil_date (d : Date) :
    daysFromCivil d.year d.month d.day = i64 d.number := by
  have hmonth := d.month_le
  have hday := d.day_le.trans (daysInMonth_le d.year d.month)
  have hpos := d.day_pos
  rw [daysFromCivil_eq (by omega) (by omega), if_neg (by omega)]
  rfl

/-- **The expiry time is exact.** The date arithmetic of the day after is that of the day plus one,
for every date from the year 0 on, and it leaves the 64-bit range where that sum does. A time from
1970 on, in either notation, is read as 86400 seconds for each day since the epoch and the seconds
of its day. -/
theorem asn1Time_exact :
    (∀ d : Date, daysFromCivil d.next.year d.next.month d.next.day =
      daysFromCivil d.year d.month d.day >>= fun days => i64 (days + 1)) ∧
    ∀ (d : Date) (t : TimeOfDay), 1970 ≤ d.year →
      ∃ days, Date.next^[days] epoch = d ∧
        (d.year < 2050 →
          parseAsn1Time 0x17 (utcTime d t) = .ok (days * 86400 + t.seconds)) ∧
        (d.year < 10000 →
          parseAsn1Time 0x18 (generalizedTime d t) = .ok (days * 86400 + t.seconds)) := by
  refine ⟨?_, ?_⟩
  · intro d
    rw [daysFromCivil_date, daysFromCivil_date, Date.number_next]
    by_cases hlarge : d.number < 0x8000000000000000
    · have hlow : -1000 ≤ d.number := by
        have hpos := d.month_pos
        have hday := d.day_pos
        simp only [Date.number, dayNumber]
        split_ifs <;> omega
      rw [i64_eq (n := d.number) (by omega) hlarge, ok_bind]
    · rw [i64_of_le (n := d.number) (by omega), error_bind, i64_of_le (by omega)]
  · intro d t hepoch
    obtain ⟨days, hdays⟩ := Date.exists_iterate_next d hepoch
    refine ⟨days, hdays, ?_, ?_⟩
    · intro hyear
      apply parseAsn1Time_timeText _ hdays
      refine .inl ⟨rfl, d.year % 100, isNumber_zeroPadded (by decide) (by omega) (by omega), ?_⟩
      split_ifs <;> omega
    · intro hyear
      apply parseAsn1Time_timeText _ hdays
      exact .inr ⟨rfl, isNumber_zeroPadded (by decide) (by omega) (by omega)⟩

/-- The leap day of 2024. -/
def leapDay : Date := ⟨2024, 2, 29, by decide, by decide, by decide, by decide⟩

def noon : TimeOfDay := ⟨12, 0, 0, by decide, by decide, by decide⟩

theorem asn1Time_exact_leapDay :
    ∃ days, Date.next^[days] epoch = leapDay ∧
      parseAsn1Time 0x17 (utcTime leapDay noon) = .ok (days * 86400 + 43200) := by
  obtain ⟨days, hdays, hutc, -⟩ := asn1Time_exact.2 leapDay noon (by decide)
  exact ⟨days, hdays, hutc (by decide)⟩

end DnsFilter.X509
