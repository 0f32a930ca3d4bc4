import DnsFilter.Lib.Calendar
import DnsFilter.X509

/-!
# Reading the expiry time of a certificate

* `daysFromCivil_eq` — the date arithmetic computes the number of the day in the Gregorian
  calendar, also for months and days that do not exist, except for the day 0 of March.
-/

namespace DnsFilter.X509

open Machine Utf8 Numeral Calendar

/-! ## The date arithmetic -/

theorem dayOfYear_eq {m day : Nat} (hm : m ≤ 99) (hday : day ≤ 99) :
    dayOfYear m day =
      if m = 3 ∧ day = 0 then .error .overflow
      else .ok ((153 * (if 2 < m then m - 3 else m + 9) + 2) / 5 + day - 1) := by
  have hshifted : (if 2 < m then u64 ((m : Int) - (3 : Nat)) else u64 (m + 9 : Nat)) =
      .ok (if 2 < m then m - 3 else m + 9) := by
    by_cases h : 2 < m
    · rw [if_pos h, if_pos h]
      exact u64_sub h (by omega)
    · rw [if_neg h, if_neg h]
      exact u64_eq (by omega)
  have hbound : (if 2 < m then m - 3 else m + 9) ≤ 96 := by
    split_ifs <;> omega
  have hzero : (153 * (if 2 < m then m - 3 else m + 9) + 2) / 5 + day = 0 ↔ m = 3 ∧ day = 0 := by
    split_ifs <;> omega
  unfold dayOfYear
  rw [hshifted, ok_bind]
  generalize (if 2 < m then m - 3 else m + 9) = shifted at hbound hzero ⊢
  rw [u64_eq (by omega), ok_bind, u64_eq (by omega), ok_bind, u64_eq (by omega), ok_bind]
  by_cases hunderflow : m = 3 ∧ day = 0
  · rw [if_pos hunderflow]
    apply u64_of_neg
    have := hzero.2 hunderflow
    omega
  · rw [if_neg hunderflow]
    have := mt hzero.1 hunderflow
    exact u64_sub (by omega) (by omega)

theorem dayOfEra_eq {yoe doy : Nat} (hyoe : yoe < 400) (hdoy : doy ≤ 10000) :
    dayOfEra yoe doy = .ok (yoe * 365 + yoe / 4 - yoe / 100 + doy) := by
  unfold dayOfEra
  rw [u64_eq (by omega), ok_bind, u64_eq (by omega), ok_bind, u64_sub (by omega) (by omega),
    ok_bind, u64_eq (by omega)]

/-- The number of the day, computed by the era of the year. -/
theorem dayNumber_of_era {year month day : Nat} (hunderflow : ¬ (month = 3 ∧ day = 0)) {y : Int}
    (hy : y = if (month : Int) ≤ 2 then (year : Int) - 1 else year) :
    dayNumber year month day = y / 400 * 146097 +
      ((y % 400).toNat * 365 + (y % 400).toNat / 4 - (y % 400).toNat / 100 +
        ((153 * (if 2 < month then month - 3 else month + 9) + 2) / 5 + day - 1) : Nat) := by
  simp only [dayNumber, ← hy]
  split_ifs <;> omega

/-- The part of `days_from_civil` that follows the choice of the year. -/
theorem daysFromCivil_of_year {year month day : Nat} (hmonth : month ≤ 99) (hday : day ≤ 99)
    {y : Int} (hy : y = if (month : Int) ≤ 2 then (year : Int) - 1 else year) :
    ((if 0 ≤ y then .ok y else i64 (y - 399)) >>= fun numerator =>
      i64 (numerator.tdiv 400 * 400) >>= fun eraStart =>
      i64 (y - eraStart) >>= fun yoe =>
      dayOfYear (asU64 month) (asU64 day) >>= fun doy =>
      dayOfEra (asU64 yoe) doy >>= fun doe =>
      i64 (numerator.tdiv 400 * 146097) >>= fun eraDays =>
      i64 (eraDays + asI64 doe)) =
      if month = 3 ∧ day = 0 then .error .overflow else i64 (dayNumber year month day) := by
  have hle : -1 ≤ y := by
    rw [hy]
    split_ifs <;> omega
  -- The quotient rounds towards zero, and the numerator is moved down to make it round down.
  have hera : ∃ numerator : Int, (if 0 ≤ y then .ok y else i64 (y - 399)) = .ok numerator ∧
      numerator.tdiv 400 = y / 400 := by
    by_cases hnonneg : 0 ≤ y
    · exact ⟨y, if_pos hnonneg, Int.tdiv_eq_ediv_of_nonneg hnonneg⟩
    · obtain rfl : y = -1 := by omega
      exact ⟨-400, rfl, rfl⟩
  obtain ⟨numerator, hnumerator, hquotient⟩ := hera
  rw [hnumerator, ok_bind, hquotient]
  have hlarge : month = 3 ∧ day = 0 ∨
      (dayNumber year month day = y / 400 * 146097 +
        ((y % 400).toNat * 365 + (y % 400).toNat / 4 - (y % 400).toNat / 100 +
          ((153 * (if 2 < month then month - 3 else month + 9) + 2) / 5 + day - 1) : Nat)) := by
    by_cases hunderflow : month = 3 ∧ day = 0
    · exact .inl hunderflow
    · exact .inr (dayNumber_of_era hunderflow hy)
  by_cases hstart : y / 400 * 400 < 0x8000000000000000
  · have hyoe : y - y / 400 * 400 = ((y % 400).toNat : Nat) := by omega
    have hyoelt : (y % 400).toNat < 400 := by omega
    rw [i64_eq (by omega) hstart, ok_bind, hyoe, i64_eq (by omega) (by omega), ok_bind,
      asU64_natCast (by omega), asU64_natCast (by omega), asU64_natCast (by omega),
      dayOfYear_eq hmonth hday]
    by_cases hunderflow : month = 3 ∧ day = 0
    · rw [if_pos hunderflow, if_pos hunderflow, error_bind]
    · rw [if_neg hunderflow, if_neg hunderflow, ok_bind]
      have hnumber := hlarge.resolve_left hunderflow
      have hdoy :
          (153 * (if 2 < month then month - 3 else month + 9) + 2) / 5 + day - 1 ≤ 10000 := by
        split_ifs <;> omega
      rw [dayOfEra_eq hyoelt hdoy, ok_bind, asI64_eq (by omega)]
      by_cases hdays : y / 400 * 146097 < 0x8000000000000000
      · rw [i64_eq (by omega) hdays, ok_bind, hnumber]
      · rw [i64_of_le (by omega), error_bind, i64_of_le (by omega)]
  · rw [i64_of_le (by omega), error_bind]
    rcases hlarge with hunderflow | hnumber
    · rw [if_pos hunderflow]
    · rw [i64_of_le (by omega), ite_self]

/-- **The date arithmetic is the calendar's.** It stops where the number of the day leaves the
64-bit range, and for the day 0 of March. -/
theorem daysFromCivil_eq {year month day : Nat} (hmonth : month ≤ 99) (hday : day ≤ 99) :
    daysFromCivil year month day =
      if month = 3 ∧ day = 0 then .error .overflow else i64 (dayNumber year month day) := by
  unfold daysFromCivil
  by_cases hfirst : (month : Int) ≤ 2
  · rw [if_pos hfirst]
    by_cases hyear : (year : Int) - 1 < 0x8000000000000000
    · rw [i64_eq (by omega) hyear, ok_bind]
      exact daysFromCivil_of_year hmonth hday (if_pos hfirst).symm
    · have hunderflow : ¬ (month = 3 ∧ day = 0) := by omega
      have hnumber := @dayNumber_of_era year month day hunderflow _ rfl
      rw [if_pos hfirst] at hnumber
      rw [i64_of_le (by omega), error_bind, if_neg (by omega), i64_of_le (by omega)]
  · rw [if_neg hfirst, ok_bind]
    exact daysFromCivil_of_year hmonth hday (if_neg hfirst).symm

/-! ## The fields of a time -/

/-- A numeral of `width` bytes. -/
def IsNumber (width : Nat) (text : String) (n : Nat) : Prop :=
  byteSize text.toList = width ∧ parseUnsigned 32 text = some n

/-- The year of a UTC time, where 50 to 99 are of the 20th century, or of a generalised time. -/
def IsYear (tag : UInt8) (text : String) (year : Nat) : Prop :=
  (tag = 0x17 ∧ ∃ y, IsNumber 2 text y ∧ year = if 50 ≤ y then 1900 + y else 2000 + y) ∨
    (tag = 0x18 ∧ IsNumber 4 text year)

/-- The text of a time, cut into its parts. -/
structure TimeText where
  year : String
  month : String
  day : String
  hour : String
  minute : String
  second : String
  rest : String

def TimeText.text (x : TimeText) : String :=
  x.year ++ (x.month ++ x.day ++ x.hour ++ x.minute ++ x.second ++ x.rest)

/-- The parts are numerals of the time's fields. -/
structure TimeText.Denotes (x : TimeText) (tag : UInt8) (t : TimeFields) : Prop where
  year : IsYear tag x.year t.year
  month : IsNumber 2 x.month t.month
  day : IsNumber 2 x.day t.day
  hour : IsNumber 2 x.hour t.hour
  minute : IsNumber 2 x.minute t.minute
  second : IsNumber 2 x.second t.second

/-- A text with a numeral at a given place. -/
theorem number_eq_ok {front back : String} {start width n : Nat}
    (hfront : byteSize front.toList = start) :
    number (front ++ back) start (start + width) = .ok n ↔
      ∃ text rest, back = text ++ rest ∧ IsNumber width text n := by
  rw [number, ofOption_eq_ok, Option.bind_eq_some_iff]
  constructor
  · intro h
    obtain ⟨text, htext, hn⟩ := h
    obtain ⟨before, after, hchars, hstart, hstop⟩ := getBytes_eq_some.1 htext
    rw [String.toList_append, List.append_assoc] at hchars
    obtain ⟨rfl, hback⟩ := append_inj_of_byteSize hchars (hfront.trans hstart.symm)
    refine ⟨text, .ofList after, ?_, by omega, hn⟩
    rw [← String.toList_inj, hback, String.toList_append, String.toList_ofList]
  · intro h
    obtain ⟨text, rest, rfl, hwidth, hn⟩ := h
    refine ⟨text, getBytes_eq_some.2 ⟨front.toList, rest.toList, ?_, hfront, by omega⟩, hn⟩
    rw [String.toList_append, String.toList_append, List.append_assoc]

theorem isNumber_lt {width n : Nat} {text : String} (h : IsNumber width text n) :
    n < 10 ^ width := by
  have hlength : text.toList.length ≤ width := by
    rw [← h.1]
    exact length_le_byteSize text.toList
  have hten : 0 < 10 := by decide
  exact lt_of_lt_of_le (parseUnsigned_lt_pow_length h.2) (Nat.pow_le_pow_right hten hlength)

theorem getBytesFrom_append {front back rest : String} :
    getBytesFrom (front ++ back) (byteSize front.toList) = some rest ↔ rest = back := by
  rw [getBytesFrom_eq_some]
  constructor
  · intro h
    obtain ⟨before, hchars, hsize⟩ := h
    rw [String.toList_append] at hchars
    obtain ⟨-, hback⟩ := append_inj_of_byteSize hchars hsize.symm
    exact String.toList_inj.1 hback.symm
  · intro h
    exact ⟨front.toList, by rw [h, String.toList_append], rfl⟩

/-- A number at the start of a text, and the text behind it. -/
theorem number_bind_eq_ok {s rest : String} {width n : Nat} :
    (number s 0 width = .ok n ∧ getBytesFrom s width = some rest) ↔
      ∃ text, s = text ++ rest ∧ IsNumber width text n := by
  have hnumber : number s 0 width = .ok n ↔ ∃ text rest, s = text ++ rest ∧
      IsNumber width text n := by
    have h := @number_eq_ok "" s 0 width n rfl
    rwa [String.empty_append, Nat.zero_add] at h
  rw [hnumber]
  constructor
  · intro h
    obtain ⟨⟨text, rest', rfl, htext⟩, hrest⟩ := h
    rw [← htext.1, getBytesFrom_append] at hrest
    exact ⟨text, by rw [hrest], htext⟩
  · intro h
    obtain ⟨text, rfl, htext⟩ := h
    refine ⟨⟨text, rest, rfl, htext⟩, ?_⟩
    rw [← htext.1, getBytesFrom_append]

theorem yearField_eq_ok {tag : UInt8} {s rest : String} {year : Nat} :
    yearField tag s = .ok (year, rest) ↔ ∃ text, s = text ++ rest ∧ IsYear tag text year := by
  have hcentury : ∀ {y : Nat}, y < 100 →
      (if 50 ≤ y then u32 (1900 + y : Nat) else u32 (2000 + y : Nat)) =
        .ok (if 50 ≤ y then 1900 + y else 2000 + y) := by
    intro y hy
    by_cases h : 50 ≤ y
    · rw [if_pos h, if_pos h, u32_eq (by omega)]
    · rw [if_neg h, if_neg h, u32_eq (by omega)]
  unfold yearField IsYear
  by_cases hutc : tag = 0x17
  · subst hutc
    rw [if_pos rfl, bind_eq_ok]
    constructor
    · intro h
      obtain ⟨y, hy, h⟩ := h
      obtain ⟨year', hyear, h⟩ := bind_eq_ok.1 h
      obtain ⟨rest', hrest, h⟩ := bind_eq_ok.1 h
      obtain ⟨rfl, rfl⟩ := Prod.mk.inj (Except.ok.inj h)
      obtain ⟨text, hs, htext⟩ := number_bind_eq_ok.1 ⟨hy, ofOption_eq_ok.1 hrest⟩
      rw [hcentury (isNumber_lt htext)] at hyear
      exact ⟨text, hs, .inl ⟨rfl, y, htext, (Except.ok.inj hyear).symm⟩⟩
    · intro h
      obtain ⟨text, hs, hyear⟩ := h
      obtain ⟨-, y, htext, rfl⟩ := hyear.resolve_right fun h => absurd h.1 (by decide)
      obtain ⟨hy, hrest⟩ := number_bind_eq_ok.2 ⟨text, hs, htext⟩
      refine ⟨y, hy, ?_⟩
      rw [hcentury (isNumber_lt htext), ok_bind, ofOption_eq_ok.2 hrest]
      rfl
  · rw [if_neg hutc]
    by_cases hgeneralized : tag = 0x18
    · subst hgeneralized
      rw [if_pos rfl, bind_eq_ok]
      constructor
      · intro h
        obtain ⟨y, hy, h⟩ := h
        obtain ⟨rest', hrest, h⟩ := bind_eq_ok.1 h
        obtain ⟨rfl, rfl⟩ := Prod.mk.inj (Except.ok.inj h)
        obtain ⟨text, hs, htext⟩ := number_bind_eq_ok.1 ⟨hy, ofOption_eq_ok.1 hrest⟩
        exact ⟨text, hs, .inr ⟨rfl, htext⟩⟩
      · intro h
        obtain ⟨text, hs, hyear⟩ := h
        obtain ⟨-, htext⟩ := hyear.resolve_left fun h => absurd h.1 (by decide)
        obtain ⟨hy, hrest⟩ := number_bind_eq_ok.2 ⟨text, hs, htext⟩
        refine ⟨year, hy, ?_⟩
        rw [ofOption_eq_ok.2 hrest]
        rfl
    · rw [if_neg hgeneralized]
      simp [hutc, hgeneralized]

/-- The next number of a text, behind the part that was read before. -/
theorem exists_of_number {s front back : String} {start n : Nat} (hs : s = front ++ back)
    (hfront : byteSize front.toList = start) (h : number s start (start + 2) = .ok n) :
    ∃ text rest, s = front ++ text ++ rest ∧ byteSize (front ++ text).toList = start + 2 ∧
      IsNumber 2 text n := by
  rw [hs] at h
  obtain ⟨text, rest, rfl, htext⟩ := (number_eq_ok hfront).1 h
  refine ⟨text, rest, by rw [hs, String.append_assoc], ?_, htext⟩
  rw [String.toList_append, byteSize_append, hfront, htext.1]

theorem number_of_parts {s front text rest : String} {start n : Nat}
    (hs : s = front ++ (text ++ rest)) (hfront : byteSize front.toList = start)
    (htext : IsNumber 2 text n) : number s start (start + 2) = .ok n := by
  rw [hs]
  exact (number_eq_ok hfront).2 ⟨text, rest, rfl, htext⟩

/-- **What is read as a time**: a text that starts with the numerals of its fields. -/
theorem timeFields_eq_ok {tag : UInt8} {bytes : List UInt8} {t : TimeFields} :
    timeFields tag bytes = .ok t ↔
      ∃ x : TimeText, x.text.toUTF8.toList = bytes ∧ x.Denotes tag t := by
  unfold timeFields
  constructor
  · intro h
    obtain ⟨s, hs, h⟩ := bind_eq_ok.1 h
    obtain ⟨⟨year, rest⟩, hyear, h⟩ := bind_eq_ok.1 h
    obtain ⟨month, hmonth, h⟩ := bind_eq_ok.1 h
    obtain ⟨day, hday, h⟩ := bind_eq_ok.1 h
    obtain ⟨hour, hhour, h⟩ := bind_eq_ok.1 h
    obtain ⟨minute, hminute, h⟩ := bind_eq_ok.1 h
    obtain ⟨second, hsecond, h⟩ := bind_eq_ok.1 h
    obtain rfl := Except.ok.inj h
    obtain ⟨y, hstext, hy⟩ := yearField_eq_ok.1 hyear
    obtain ⟨mo, rest₁, hrest, hsize, hmo⟩ := exists_of_number String.empty_append.symm rfl hmonth
    obtain ⟨d, rest₂, hrest, hsize, hd⟩ := exists_of_number hrest hsize hday
    obtain ⟨ho, rest₃, hrest, hsize, hho⟩ := exists_of_number hrest hsize hhour
    obtain ⟨mi, rest₄, hrest, hsize, hmi⟩ := exists_of_number hrest hsize hminute
    obtain ⟨se, rest₅, hrest, hsize, hse⟩ := exists_of_number hrest hsize hsecond
    rw [String.empty_append] at hrest
    refine ⟨⟨y, mo, d, ho, mi, se, rest₅⟩, ?_, ⟨hy, hmo, hd, hho, hmi, hse⟩⟩
    rw [TimeText.text, ← hrest, ← hstext]
    exact fromUTF8?_eq_some.1 (ofOption_eq_ok.1 hs)
  · intro h
    obtain ⟨x, hbytes, hx⟩ := h
    have hsize {a b : String} {m n k : Nat} (ha : byteSize a.toList = m) (hb : IsNumber n b k) :
        byteSize (a ++ b).toList = m + n := by
      rw [String.toList_append, byteSize_append, ha, hb.1]
    have hday := hsize hx.month.1 hx.day
    have hhour := hsize hday hx.hour
    have hminute := hsize hhour hx.minute
    let rest := x.month ++ x.day ++ x.hour ++ x.minute ++ x.second ++ x.rest
    have hrest₁ : rest = "" ++ (x.month ++ (x.day ++ x.hour ++ x.minute ++ x.second ++ x.rest)) := by
      simp only [rest, String.empty_append, String.append_assoc]
    have hrest₂ : rest = x.month ++ (x.day ++ (x.hour ++ x.minute ++ x.second ++ x.rest)) := by
      simp only [rest, String.append_assoc]
    have hrest₃ : rest = x.month ++ x.day ++ (x.hour ++ (x.minute ++ x.second ++ x.rest)) := by
      simp only [rest, String.append_assoc]
    have hrest₄ : rest = x.month ++ x.day ++ x.hour ++ (x.minute ++ (x.second ++ x.rest)) := by
      simp only [rest, String.append_assoc]
    have hrest₅ : rest = x.month ++ x.day ++ x.hour ++ x.minute ++ (x.second ++ x.rest) := by
      simp only [rest, String.append_assoc]
    have hyear : yearField tag x.text = .ok (t.year, rest) :=
      yearField_eq_ok.2 ⟨x.year, rfl, hx.year⟩
    rw [ofOption_eq_ok.2 (fromUTF8?_eq_some.2 hbytes), ok_bind, hyear, ok_bind]
    dsimp only
    have hm : number rest 0 2 = .ok t.month := number_of_parts hrest₁ rfl hx.month
    have hd : number rest 2 4 = .ok t.day := number_of_parts hrest₂ hx.month.1 hx.day
    have hh : number rest 4 6 = .ok t.hour := number_of_parts hrest₃ hday hx.hour
    have hmi : number rest 6 8 = .ok t.minute := number_of_parts hrest₄ hhour hx.minute
    have hs : number rest 8 10 = .ok t.second := number_of_parts hrest₅ hminute hx.second
    rw [hm, ok_bind, hd, ok_bind, hh, ok_bind, hmi, ok_bind, hs, ok_bind]
    rfl

/-- The numbers have as many digits as a time has room for. -/
structure TimeFields.InRange (t : TimeFields) : Prop where
  year : t.year < 10000
  month : t.month < 100
  day : t.day < 100
  hour : t.hour < 100
  minute : t.minute < 100
  second : t.second < 100

theorem TimeText.Denotes.inRange {x : TimeText} {tag : UInt8} {t : TimeFields}
    (h : x.Denotes tag t) : t.InRange := by
  have hyear : t.year < 10000 := by
    rcases h.year with ⟨-, y, hy, hyear⟩ | ⟨-, hyear⟩
    · have hy' : y < 100 := isNumber_lt hy
      rw [hyear]
      split_ifs <;> omega
    · exact isNumber_lt hyear
  exact ⟨hyear, isNumber_lt h.month, isNumber_lt h.day, isNumber_lt h.hour, isNumber_lt h.minute,
    isNumber_lt h.second⟩

/-- The seconds from the start of 1970 to a time, in the calendar's numbers. -/
def TimeFields.seconds (t : TimeFields) : Int :=
  (dayNumber t.year t.month t.day - dayNumber 1970 1 1) * 86400 + t.hour * 3600 + t.minute * 60 +
    t.second

theorem daysFromCivil_epoch : daysFromCivil 1970 1 1 = .ok 719468 := by decide +kernel

/-- **The seconds are the calendar's.** The computation stops only for the day 0 of March, and
returns nothing for times before 1970. -/
theorem unixTime_eq {t : TimeFields} (h : t.InRange) :
    unixTime t =
      if t.month = 3 ∧ t.day = 0 then .error .overflow
      else if t.seconds < 0 then .error .absent
      else .ok t.seconds.toNat := by
  obtain ⟨hyear, hmonth, hday, hhour, hminute, hsecond⟩ := h
  unfold unixTime
  rw [daysFromCivil_eq (by omega) (by omega)]
  by_cases hunderflow : t.month = 3 ∧ t.day = 0
  · rw [if_pos hunderflow, if_pos hunderflow, error_bind]
  · have hepoch : dayNumber 1970 1 1 = 719468 := by decide +kernel
    have hbound : -1000 ≤ dayNumber t.year t.month t.day ∧
        dayNumber t.year t.month t.day < 4000000 := by
      simp only [dayNumber]
      split_ifs <;> omega
    rw [if_neg hunderflow, if_neg hunderflow, TimeFields.seconds, hepoch]
    generalize dayNumber t.year t.month t.day = days at hbound ⊢
    rw [i64_eq (by omega) (by omega), ok_bind, i64_eq (by omega) (by omega), ok_bind,
      i64_eq (by omega) (by omega), ok_bind, i64_eq (by omega) (by omega), ok_bind,
      i64_eq (by omega) (by omega), ok_bind, i64_eq (by omega) (by omega), ok_bind,
      i64_eq (by omega) (by omega), ok_bind, daysFromCivil_epoch, ok_bind,
      i64_eq (by omega) (by omega), ok_bind, i64_eq (by omega) (by omega), ok_bind]
    have hsecs : days * 86400 + (t.hour * 3600 : Nat) + (t.minute * 60 : Nat) + t.second -
        719468 * 86400 = (days - 719468) * 86400 + t.hour * 3600 + t.minute * 60 + t.second := by
      omega
    rw [hsecs]
    have hsmall : (days - 719468) * 86400 + t.hour * 3600 + t.minute * 60 + t.second <
        0x8000000000000000 := by
      omega
    generalize (days - 719468) * 86400 + t.hour * 3600 + t.minute * 60 + t.second = secs at hsmall ⊢
    by_cases hneg : secs < 0
    · rw [if_pos hneg, if_pos hneg]
    · obtain ⟨n, rfl⟩ := Int.eq_ofNat_of_zero_le (not_lt.1 hneg)
      rw [if_neg hneg, if_neg hneg, asU64_natCast (by omega), i64_eq (by omega) hsmall, ok_bind]
      rfl

end DnsFilter.X509
