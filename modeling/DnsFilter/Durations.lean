import DnsFilter.Interval

/-!
# The four duration parsers

Durations are read in four places: by the engine (`parseInterval`), by the seeding and by the
management API (`Seed.parseIntervalSecs`, `parseIntervalSecs`) and by the certificate manager
(`Acme.parseDuration`). What the engine accepts is a `DurationText`, a numeral and a unit of
seconds, minutes, hours or days.

**`durations_agree_iff`** — on the texts that the engine accepts, the other three give the same
number of seconds exactly if the unit is not the day, which two of them do not know, and the numeral
is in the signed range.
-/

namespace DnsFilter

open Numeral Text

/-- `seed::parse_interval_secs`; its body is that of `server_operations::parse_interval_secs`. -/
def Seed.parseIntervalSecs (interval : Option String) : Int := DnsFilter.parseIntervalSecs interval

namespace Acme

/-- The numeral and the seconds of the unit: the chain of `strip_suffix` in `parse_duration`. -/
def splitDuration (s : String) : Option (String × Nat) :=
  match stripSuffix "d" s with
  | some numeral => some (numeral, 86400)
  | none => match stripSuffix "h" s with
    | some numeral => some (numeral, 3600)
    | none => match stripSuffix "m" s with
      | some numeral => some (numeral, 60)
      | none => match stripSuffix "s" s with
        | some numeral => some (numeral, 1)
        | none => none

/-- `acme::parse_duration`: the seconds, or the text of the configuration error. The product is
taken in the machine's register. -/
def parseDuration (s : String) : Except String Nat :=
  let s := trim s
  if s = "" then .error "empty duration string"
  else match splitDuration s with
    | none => .error ("invalid duration '" ++ s ++ "': must end with d, h, m, or s")
    | some (numeral, unit) => match parseUnsigned 64 numeral with
      | none => .error ("invalid duration '" ++ s ++ "': not a valid number")
      | some num => .ok (wrapUnsigned 64 (num * unit))

end Acme

/-! ## The texts of the engine -/

/-- A numeral with a unit: the number and the seconds of the unit. -/
inductive DurationText : String → Nat → Nat → Prop
  | seconds {text : String} {value : Nat} (h : parseUnsigned 64 text = some value) :
      DurationText (text ++ "s") value 1
  | minutes {text : String} {value : Nat} (h : parseUnsigned 64 text = some value) :
      DurationText (text ++ "m") value 60
  | hours {text : String} {value : Nat} (h : parseUnsigned 64 text = some value) :
      DurationText (text ++ "h") value 3600
  | days {text : String} {value : Nat} (h : parseUnsigned 64 text = some value) :
      DurationText (text ++ "d") value 86400

theorem wrapUnsigned_mul (n a b : Nat) :
    wrapUnsigned 64 (wrapUnsigned 64 (n * a) * b) = wrapUnsigned 64 (n * (a * b)) := by
  unfold wrapUnsigned
  rw [Nat.mod_mul_mod, Nat.mul_assoc]

theorem parseUnsigned_lt {w : Nat} {text : String} {value : Nat}
    (h : parseUnsigned w text = some value) : value < 2 ^ w := by
  rw [parseUnsigned] at h
  simpa using (Option.filter_eq_some_iff.1 h).2

/-- What the engine accepts. -/
theorem durationText_of_parseInterval {s : String} {n : Nat} (h : parseInterval s = .ok n) :
    ∃ value factor, DurationText (trim s) value factor ∧ n = wrapUnsigned 64 (value * factor) := by
  rw [parseInterval] at h
  dsimp only at h
  split at h
  · exact absurd h (by simp)
  · rename_i unit hunit
    have hsplit : trim s = String.ofList (trim s).toList.dropLast ++ String.ofList [unit] := by
      apply String.toList_inj.1
      rw [String.toList_append, String.toList_ofList, String.toList_ofList]
      exact (List.dropLast_append_getLast? _ hunit).symm
    generalize String.ofList (trim s).toList.dropLast = text at h hsplit
    split at h
    · exact absurd h (by simp)
    · split at h
      · exact absurd h (by simp)
      · rename_i value hvalue
        rw [hsplit]
        unfold scaleInterval at h
        split_ifs at h with hs hm hh hd
        · obtain rfl := Except.ok.inj h
          rw [hs]
          refine ⟨value, 1, .seconds hvalue, ?_⟩
          rw [Nat.mul_one, wrapUnsigned, Nat.mod_eq_of_lt (parseUnsigned_lt hvalue)]
        · obtain rfl := Except.ok.inj h
          rw [hm]
          exact ⟨value, 60, .minutes hvalue, rfl⟩
        · obtain rfl := Except.ok.inj h
          rw [hh]
          refine ⟨value, 3600, .hours hvalue, ?_⟩
          rw [wrapUnsigned_mul]
        · obtain rfl := Except.ok.inj h
          rw [hd]
          refine ⟨value, 86400, .days hvalue, ?_⟩
          rw [wrapUnsigned_mul, wrapUnsigned_mul]

/-! ## The other parsers on these texts -/

theorem DurationText.ne_empty {text : String} {value factor : Nat}
    (h : DurationText text value factor) : text ≠ "" := by
  cases h <;> simp

/-- The certificate manager finds the numeral and the unit. -/
theorem Acme.splitDuration_of_text {text : String} {value factor : Nat}
    (h : DurationText text value factor) :
    ∃ numeral, Acme.splitDuration text = some (numeral, factor) ∧
      parseUnsigned 64 numeral = some value := by
  cases h with
  | @seconds numeral _ hvalue =>
      have hd : stripSuffix "d" (numeral ++ "s") = none :=
        stripSuffix_other_unit rfl rfl (by decide)
      have hh : stripSuffix "h" (numeral ++ "s") = none :=
        stripSuffix_other_unit rfl rfl (by decide)
      have hm : stripSuffix "m" (numeral ++ "s") = none :=
        stripSuffix_other_unit rfl rfl (by decide)
      exact ⟨numeral, by simp only [splitDuration, hd, hh, hm, stripSuffix_append], hvalue⟩
  | @minutes numeral _ hvalue =>
      have hd : stripSuffix "d" (numeral ++ "m") = none :=
        stripSuffix_other_unit rfl rfl (by decide)
      have hh : stripSuffix "h" (numeral ++ "m") = none :=
        stripSuffix_other_unit rfl rfl (by decide)
      exact ⟨numeral, by simp only [splitDuration, hd, hh, stripSuffix_append], hvalue⟩
  | @hours numeral _ hvalue =>
      have hd : stripSuffix "d" (numeral ++ "h") = none :=
        stripSuffix_other_unit rfl rfl (by decide)
      exact ⟨numeral, by simp only [splitDuration, hd, stripSuffix_append], hvalue⟩
  | @days numeral _ hvalue =>
      exact ⟨numeral, by simp only [splitDuration, stripSuffix_append], hvalue⟩

/-- The certificate manager reads them all. -/
theorem Acme.parseDuration_of_text {s : String} {value factor : Nat}
    (h : DurationText (trim s) value factor) :
    Acme.parseDuration s = .ok (wrapUnsigned 64 (value * factor)) := by
  obtain ⟨numeral, hsplit, hvalue⟩ := Acme.splitDuration_of_text h
  simp only [Acme.parseDuration, if_neg h.ne_empty, hsplit, hvalue]

/-- An unsigned numeral is a signed one if it is in range. -/
theorem parseSigned_of_parseUnsigned {text : String} {value : Nat}
    (h : parseUnsigned 64 text = some value) :
    parseSigned 64 text = if value < 2 ^ 63 then some (value : Int) else none := by
  have hdigits : ∀ ds : List Char, (parseDigits ds).filter (· < 2 ^ 64) = some value →
      ((parseDigits ds).filter (· < 2 ^ 63)).map Int.ofNat =
        if value < 2 ^ 63 then some (value : Int) else none := by
    intro ds hds
    rw [(Option.filter_eq_some_iff.1 hds).1, Option.filter_some]
    by_cases hlt : value < 2 ^ 63
    · rw [if_pos (decide_eq_true hlt), if_pos hlt]
      rfl
    · rw [if_neg (by rw [decide_eq_false hlt]; exact Bool.false_ne_true), if_neg hlt]
      rfl
  rw [parseUnsigned] at h
  rw [parseSigned]
  split
  · rename_i ds heq
    -- a sign is no digit
    rw [heq] at h
    simp [parseDigits] at h
  · rename_i ds heq
    rw [heq] at h
    exact hdigits ds h
  · rename_i hminus hplus
    split at h
    · rename_i ds heq
      exact absurd heq (hplus ds)
    · exact hdigits _ h

/-- The seconds of a duration in a signed register. -/
theorem wrapSigned_of_wrapUnsigned {product : Nat} (h : wrapUnsigned 64 product < 2 ^ 63) :
    wrapSigned 64 (product : Int) = (wrapUnsigned 64 product : Nat) := by
  have hmod : (product : Int) % ((2 ^ 64 : Nat) : Int) = (wrapUnsigned 64 product : Nat) :=
    (Int.natCast_emod product (2 ^ 64)).symm
  rw [wrapSigned, Int.bmod_def, hmod, if_pos]
  exact_mod_cast h

/-- An interval text with a unit has a signed numeral before the unit. -/
theorem not_intervalText {text unit : String} {c : Char} (hunit : unit.toList = [c])
    (hdigit : c.isDigit = false)
    (h : (c = 'h' ∨ c = 'm' ∨ c = 's') → parseSigned 64 text = none) (n : Int) :
    ¬ IntervalText (text ++ unit) n := by
  have hlast : (text ++ unit).toList.getLast? = some c := by
    rw [String.toList_append, hunit, List.getLast?_concat]
  have hsame : ∀ {other suffix : String} {d : Char}, suffix.toList = [d] →
      other ++ suffix = text ++ unit → c = d ∧ other = text := by
    intro other suffix d hsuffix heq
    have hchars := congrArg String.toList heq
    rw [String.toList_append, String.toList_append, hsuffix, hunit] at hchars
    obtain ⟨hother, hc⟩ := List.append_inj' hchars rfl
    exact ⟨(List.cons.inj hc).1.symm, String.toList_inj.1 hother⟩
  intro htext
  generalize heq : text ++ unit = whole at htext
  cases htext with
  | hours hk =>
      obtain ⟨hc, rfl⟩ := hsame rfl heq.symm
      rw [h (.inl hc)] at hk
      exact absurd hk (by simp)
  | minutes hk =>
      obtain ⟨hc, rfl⟩ := hsame rfl heq.symm
      rw [h (.inr (.inl hc))] at hk
      exact absurd hk (by simp)
  | seconds hk =>
      obtain ⟨hc, rfl⟩ := hsame rfl heq.symm
      rw [h (.inr (.inr hc))] at hk
      exact absurd hk (by simp)
  | plain hk =>
      obtain ⟨d, hd, hisDigit⟩ := getLast?_of_parseSigned hk
      rw [← heq, hlast] at hd
      obtain rfl := Option.some.inj hd
      exact absurd hisDigit (by simp [hdigit])

/-- What the seeding and the API read: the default for days and for numerals out of range. -/
theorem parseIntervalSecs_of_durationText {s : String} {value factor : Nat}
    (h : DurationText (trim s) value factor)
    (hle : wrapUnsigned 64 (value * factor) < 2 ^ 63) :
    parseIntervalSecs (some s) =
      if factor ≠ 86400 ∧ value < 2 ^ 63 then ((wrapUnsigned 64 (value * factor) : Nat) : Int)
      else defaultIntervalSecs := by
  have hread : ∀ {text : String}, value < 2 ^ 63 → parseUnsigned 64 text = some value →
      parseSigned 64 text = some (value : Int) := by
    intro text hvalue hparse
    rw [parseSigned_of_parseUnsigned hparse, if_pos hvalue]
  have hnone : ∀ {text : String}, ¬ value < 2 ^ 63 → parseUnsigned 64 text = some value →
      parseSigned 64 text = none := by
    intro text hvalue hparse
    rw [parseSigned_of_parseUnsigned hparse, if_neg hvalue]
  have hwrap := wrapSigned_of_wrapUnsigned hle
  push_cast at hwrap
  generalize htrim : trim s = t at h
  by_cases hvalue : value < 2 ^ 63
  · cases h with
    | seconds hparse =>
        have htext := IntervalText.seconds (hread hvalue hparse)
        rw [← htrim] at htext
        rw [parseIntervalSecs_of_text htext, if_pos ⟨by decide, hvalue⟩, ← hwrap]
        simp
    | minutes hparse =>
        have htext := IntervalText.minutes (hread hvalue hparse)
        rw [← htrim] at htext
        rw [parseIntervalSecs_of_text htext, if_pos ⟨by decide, hvalue⟩, ← hwrap]
        rfl
    | hours hparse =>
        have htext := IntervalText.hours (hread hvalue hparse)
        rw [← htrim] at htext
        rw [parseIntervalSecs_of_text htext, if_pos ⟨by decide, hvalue⟩, ← hwrap]
        rfl
    | days hparse =>
        rw [if_neg (by simp)]
        apply parseIntervalSecs_of_no_text
        rw [htrim]
        exact not_intervalText rfl rfl fun hc => absurd hc (by decide)
  · rw [if_neg fun hcond => hvalue hcond.2]
    apply parseIntervalSecs_of_no_text
    rw [htrim]
    cases h with
    | seconds hparse => exact not_intervalText rfl rfl fun _ => hnone hvalue hparse
    | minutes hparse => exact not_intervalText rfl rfl fun _ => hnone hvalue hparse
    | hours hparse => exact not_intervalText rfl rfl fun _ => hnone hvalue hparse
    | days hparse => exact not_intervalText rfl rfl fun _ => hnone hvalue hparse

/-! ## Agreement -/

/-- All four parsers read the duration alike: its unit is not the day, and its numeral is in the
signed range, or its seconds happen to be the default. -/
def ReadAlike (s : String) : Prop :=
  ∃ value factor, DurationText (trim s) value factor ∧ factor ≠ 86400 ∧
    (value < 2 ^ 63 ∨ wrapUnsigned 64 (value * factor) = 43200)

theorem DurationText.unique {text : String} {value factor value' factor' : Nat}
    (h : DurationText text value factor) (h' : DurationText text value' factor') :
    value = value' ∧ factor = factor' := by
  have hsame : ∀ {t t' unit unit' : String} {c c' : Char}, unit.toList = [c] → unit'.toList = [c'] →
      t ++ unit = t' ++ unit' → c = c' ∧ t = t' := by
    intro t t' unit unit' c c' hunit hunit' heq
    have hchars := congrArg String.toList heq
    rw [String.toList_append, String.toList_append, hunit, hunit'] at hchars
    obtain ⟨ht, hc⟩ := List.append_inj' hchars rfl
    exact ⟨(List.cons.inj hc).1, String.toList_inj.1 ht⟩
  generalize hcopy : text = copy at h'
  cases h with
  | _ hvalue =>
      cases h' with
      | _ hvalue' =>
          obtain ⟨hc, rfl⟩ := hsame rfl rfl hcopy
          rw [hvalue] at hvalue'
          first
            | exact ⟨Option.some.inj hvalue', rfl⟩
            | exact absurd hc (by decide)

/-- **The duration parsers agree on what the engine accepts exactly for the durations that are
`ReadAlike`.** -/
theorem durations_agree_iff {s : String} {n : Nat} (h : parseInterval s = .ok n)
    (hn : n < 2 ^ 63) :
    (Seed.parseIntervalSecs (some s) = n ∧ parseIntervalSecs (some s) = n ∧
      Acme.parseDuration s = .ok n) ↔ ReadAlike s := by
  obtain ⟨value, factor, htext, rfl⟩ := durationText_of_parseInterval h
  have hacme := Acme.parseDuration_of_text htext
  have hsecs := parseIntervalSecs_of_durationText htext hn
  have hsame : (Seed.parseIntervalSecs (some s) = (wrapUnsigned 64 (value * factor) : Nat) ∧
      parseIntervalSecs (some s) = (wrapUnsigned 64 (value * factor) : Nat) ∧
      Acme.parseDuration s = .ok (wrapUnsigned 64 (value * factor))) ↔
      parseIntervalSecs (some s) = (wrapUnsigned 64 (value * factor) : Nat) := by
    rw [Seed.parseIntervalSecs]
    exact ⟨fun hall => hall.1, fun heq => ⟨heq, heq, hacme⟩⟩
  have halike : ReadAlike s ↔ factor ≠ 86400 ∧
      (value < 2 ^ 63 ∨ wrapUnsigned 64 (value * factor) = 43200) := by
    constructor
    · intro ⟨value', factor', htext', hcond⟩
      obtain ⟨rfl, rfl⟩ := htext.unique htext'
      exact hcond
    · intro hcond
      exact ⟨value, factor, htext, hcond⟩
  rw [hsame, halike, hsecs]
  by_cases hfactor : factor = 86400
  · -- no number of days is twelve hours, also not in the register
    rw [if_neg (by simp [hfactor]), hfactor]
    refine iff_of_false ?_ (by simp)
    unfold wrapUnsigned defaultIntervalSecs
    omega
  · by_cases hvalue : value < 2 ^ 63
    · rw [if_pos ⟨hfactor, hvalue⟩]
      exact iff_of_true rfl ⟨hfactor, .inl hvalue⟩
    · rw [if_neg fun hcond => hvalue hcond.2]
      simp only [hfactor, hvalue, ne_eq, not_false_eq_true, true_and, false_or]
      unfold defaultIntervalSecs
      omega

theorem durations_agree_iff_halfHour :
    parseInterval "30m" = .ok 1800 ∧
      ((Seed.parseIntervalSecs (some "30m") = (1800 : Nat) ∧
        parseIntervalSecs (some "30m") = (1800 : Nat) ∧
        Acme.parseDuration "30m" = .ok 1800) ↔ ReadAlike "30m") :=
  have h : parseInterval "30m" = .ok 1800 := by decide +kernel
  ⟨h, durations_agree_iff h (by decide)⟩

/-- A list that is to be refreshed once a day is refreshed twice a day. -/
theorem day_read_as_default :
    parseInterval "1d" = .ok 86400 ∧ Acme.parseDuration "1d" = .ok 86400 ∧
      Seed.parseIntervalSecs (some "1d") = 43200 ∧ parseIntervalSecs (some "1d") = 43200 ∧
      ¬ (Seed.parseIntervalSecs (some "1d") = 86400 ∨ parseIntervalSecs (some "1d") = 86400) := by
  decide +kernel

end DnsFilter
