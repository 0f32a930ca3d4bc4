import DnsFilter.Durations

/-!
# Durations without overflow

The parsers of the engine and of the certificate manager once more, on a machine that stops where
the program would panic: at a slice that cuts a character in two, and at a product that does not fit
into 64 bits. Without that check the product is wrapped, which is what the release build does.

* `sliceTo_dropLast` — cutting off the last character of a text by its length never fails.
* **`exactDurations_iff`** — both parsers return an error or the exact number of seconds, and never
  stop, exactly on the texts whose numeral and unit have a product below `2 ^ 64`.
-/

namespace DnsFilter

open Numeral Text

/-! ## Slices -/

/-- The first `n` bytes of the characters; `none` if they end inside a character. -/
def takeBytes : Nat → List Char → Option (List Char)
  | 0, _ => some []
  | _ + 1, [] => none
  | n + 1, c :: cs =>
      if c.utf8Size ≤ n + 1 then (takeBytes (n + 1 - c.utf8Size) cs).map (c :: ·) else none

/-- The slice `&s[..n]`; `none` where it panics. -/
def sliceTo (n : Nat) (s : String) : Option String := (takeBytes n s.toList).map .ofList

theorem utf8ByteSize_ofList_append (l m : List Char) :
    (String.ofList (l ++ m)).utf8ByteSize =
      (String.ofList l).utf8ByteSize + (String.ofList m).utf8ByteSize := by
  rw [String.ofList_append, String.utf8ByteSize_append]

theorem utf8ByteSize_ofList_singleton (c : Char) :
    (String.ofList [c]).utf8ByteSize = c.utf8Size := by
  rw [← String.singleton_eq_ofList, String.utf8ByteSize_singleton]

/-- A character boundary is a good place to cut. -/
theorem takeBytes_append (pre rest : List Char) :
    takeBytes (String.ofList pre).utf8ByteSize (pre ++ rest) = some pre := by
  induction pre with
  | nil => cases rest <;> rfl
  | cons c pre ih =>
      have hsize : (String.ofList (c :: pre)).utf8ByteSize =
          c.utf8Size + (String.ofList pre).utf8ByteSize := by
        rw [← utf8ByteSize_ofList_singleton c, ← utf8ByteSize_ofList_append]
        rfl
      obtain ⟨k, hk⟩ := Nat.exists_eq_add_one.2 c.utf8Size_pos
      have hsucc : c.utf8Size + (String.ofList pre).utf8ByteSize =
          (k + (String.ofList pre).utf8ByteSize) + 1 := by omega
      have hrest : k + (String.ofList pre).utf8ByteSize + 1 - c.utf8Size =
          (String.ofList pre).utf8ByteSize := by omega
      rw [hsize, hsucc, List.cons_append, takeBytes, if_pos (by omega), hrest, ih]
      rfl

/-- The last character of a text can be cut off by its length. -/
theorem sliceTo_dropLast {s : String} {c : Char} (h : s.toList.getLast? = some c) :
    sliceTo (s.utf8ByteSize - c.utf8Size) s = some (.ofList s.toList.dropLast) := by
  have hsplit : s.toList.dropLast ++ [c] = s.toList := List.dropLast_append_getLast? _ h
  have hsize : s.utf8ByteSize =
      (String.ofList s.toList.dropLast).utf8ByteSize + c.utf8Size := by
    rw [← utf8ByteSize_ofList_singleton c, ← utf8ByteSize_ofList_append, hsplit,
      String.ofList_toList]
  have htake := takeBytes_append s.toList.dropLast [c]
  rw [hsplit] at htake
  rw [sliceTo, hsize, Nat.add_sub_cancel, htake]
  rfl

/-! ## Parsers that stop -/

/-- The product of two numbers; `none` if it does not fit into `u64`. -/
def mulU64 (a b : Nat) : Option Nat := if a * b < 2 ^ 64 then some (a * b) else none

/-- The last match of `filtering::parse_interval`; `none` where a product overflows. -/
def runScaleInterval (value : Nat) (unit : Char) : Option (Except String Nat) :=
  if unit = 's' then some (.ok value)
  else if unit = 'm' then (mulU64 value 60).map .ok
  else if unit = 'h' then ((mulU64 value 60).bind (mulU64 · 60)).map .ok
  else if unit = 'd' then (((mulU64 value 24).bind (mulU64 · 60)).bind (mulU64 · 60)).map .ok
  else some (.error ("unsupported interval suffix '" ++ unit.toString ++
    "'; use one of: s, m, h, d"))

/-- `filtering::parse_interval`; `none` where it panics. -/
def runParseInterval (input : String) : Option (Except String Nat) :=
  let trimmed := trim input
  match trimmed.toList.getLast? with
  | none => some (.error "interval cannot be empty")
  | some unit =>
      (sliceTo (trimmed.utf8ByteSize - unit.utf8Size) trimmed).bind fun valueText =>
        if valueText = "" then some (.error "interval is missing its numeric value")
        else match parseUnsigned 64 valueText with
          | none => some (.error ("invalid interval number: " ++ valueText))
          | some value => runScaleInterval value unit

/-- `acme::parse_duration`; `none` where it panics. -/
def Acme.runParseDuration (s : String) : Option (Except String Nat) :=
  let s := trim s
  if s = "" then some (.error "empty duration string")
  else match Acme.splitDuration s with
    | none => some (.error ("invalid duration '" ++ s ++ "': must end with d, h, m, or s"))
    | some (numeral, unit) => match parseUnsigned 64 numeral with
      | none => some (.error ("invalid duration '" ++ s ++ "': not a valid number"))
      | some num => (mulU64 num unit).map .ok

/-- The parser returns an error, or the number of the text times the seconds of its unit. -/
def ExactOrError (text : String) (result : Except String Nat) : Prop :=
  ∀ n, result = .ok n → ∃ value factor, DurationText (trim text) value factor ∧ n = value * factor

/-- Neither parser stops on the text, and what they return is exact. -/
def ExactDurations (text : String) : Prop :=
  (∃ result, runParseInterval text = some result ∧ parseInterval text = result ∧
    ExactOrError text result) ∧
  ∃ result, Acme.runParseDuration text = some result ∧ Acme.parseDuration text = result ∧
    ExactOrError text result

/-- If the text is a numeral and a unit, their product fits into 64 bits. -/
def FitsU64 (text : String) : Prop :=
  ∀ value factor, DurationText (trim text) value factor → value * factor < 2 ^ 64

/-! ## The product of a numeral and a unit -/

theorem mulU64_bind_mulU64 (value a b : Nat) (hb : 0 < b) :
    (mulU64 value a).bind (mulU64 · b) = mulU64 value (a * b) := by
  unfold mulU64
  rw [← Nat.mul_assoc]
  by_cases hall : value * a * b < 2 ^ 64
  · have hfirst : value * a < 2 ^ 64 := lt_of_le_of_lt (Nat.le_mul_of_pos_right _ hb) hall
    rw [if_pos hfirst, Option.bind_some, if_pos hall]
  · rw [if_neg hall]
    by_cases hfirst : value * a < 2 ^ 64
    · rw [if_pos hfirst, Option.bind_some, if_neg hall]
    · rw [if_neg hfirst, Option.bind_none]

/-- A product that fits is the one in the register. -/
theorem mulU64_eq_some {value factor n : Nat} :
    mulU64 value factor = some n ↔ value * factor < 2 ^ 64 ∧ n = value * factor := by
  unfold mulU64
  by_cases hlt : value * factor < 2 ^ 64
  · rw [if_pos hlt, Option.some.injEq]
    exact ⟨fun h => ⟨hlt, h.symm⟩, fun h => h.2.symm⟩
  · rw [if_neg hlt]
    exact iff_of_false (by simp) fun h => hlt h.1

/-- The engine's parser finds the numeral and the unit. -/
theorem parseInterval_of_trim {s text unitText : String} {unit : Char} {value : Nat}
    (hlast : unitText.toList = [unit]) (htrim : trim s = text ++ unitText)
    (hvalue : parseUnsigned 64 text = some value) :
    parseInterval s = scaleInterval value unit ∧
      runParseInterval s = runScaleInterval value unit := by
  have hchars : (trim s).toList = text.toList ++ [unit] := by
    rw [htrim, String.toList_append, hlast]
  have hget : (trim s).toList.getLast? = some unit := by
    rw [hchars, List.getLast?_concat]
  have hdrop : String.ofList (trim s).toList.dropLast = text := by
    rw [hchars, List.dropLast_concat, String.ofList_toList]
  have hne : text ≠ "" := by
    intro hempty
    have hnone : parseUnsigned 64 "" = none := by decide +kernel
    rw [hempty, hnone] at hvalue
    exact absurd hvalue (by simp)
  unfold parseInterval runParseInterval
  simp only [hget, sliceTo_dropLast hget, hdrop, Option.bind_some, if_neg hne, hvalue, and_self]

/-- The engine's parser on a text that it accepts. -/
theorem parseInterval_of_text {s : String} {value factor : Nat}
    (h : DurationText (trim s) value factor) :
    parseInterval s = .ok (wrapUnsigned 64 (value * factor)) ∧
      runParseInterval s = (mulU64 value factor).map .ok := by
  generalize htrim : trim s = t at h
  cases h with
  | seconds hvalue =>
      have hlt := parseUnsigned_lt hvalue
      obtain ⟨hparse, hrun⟩ := parseInterval_of_trim rfl htrim hvalue
      rw [hparse, hrun, mulU64, if_pos (by omega), Nat.mul_one, wrapUnsigned,
        Nat.mod_eq_of_lt hlt]
      exact ⟨rfl, rfl⟩
  | minutes hvalue =>
      obtain ⟨hparse, hrun⟩ := parseInterval_of_trim rfl htrim hvalue
      exact ⟨hparse, hrun⟩
  | hours hvalue =>
      obtain ⟨hparse, hrun⟩ := parseInterval_of_trim rfl htrim hvalue
      rw [hparse, hrun, ← wrapUnsigned_mul value 60 60,
        ← mulU64_bind_mulU64 value 60 60 (by decide)]
      exact ⟨rfl, rfl⟩
  | days hvalue =>
      obtain ⟨hparse, hrun⟩ := parseInterval_of_trim rfl htrim hvalue
      rw [hparse, hrun, ← wrapUnsigned_mul value (24 * 60) 60, ← wrapUnsigned_mul value 24 60,
        ← mulU64_bind_mulU64 value (24 * 60) 60 (by decide),
        ← mulU64_bind_mulU64 value 24 60 (by decide)]
      exact ⟨rfl, rfl⟩

/-- An error of the engine's parser stops nothing. -/
theorem runParseInterval_of_error {s e : String} (h : parseInterval s = .error e) :
    runParseInterval s = some (.error e) := by
  unfold parseInterval at h
  unfold runParseInterval
  dsimp only at h ⊢
  cases hlast : (trim s).toList.getLast? with
  | none =>
      rw [hlast] at h
      rw [Except.error.inj h]
  | some unit =>
      simp only [hlast] at h
      simp only [sliceTo_dropLast hlast, Option.bind_some]
      split at h
      · rename_i hempty
        rw [if_pos hempty, Except.error.inj h]
      · rename_i hne
        rw [if_neg hne]
        cases hvalue : parseUnsigned 64 (.ofList (trim s).toList.dropLast) with
        | none =>
            rw [hvalue] at h
            rw [Except.error.inj h]
        | some value =>
            rw [hvalue] at h
            change scaleInterval value unit = .error e at h
            show runScaleInterval value unit = some (.error e)
            unfold scaleInterval at h
            unfold runScaleInterval
            split_ifs at h ⊢
            rw [Except.error.inj h]

theorem Acme.runParseDuration_of_text {s : String} {value factor : Nat}
    (h : DurationText (trim s) value factor) :
    Acme.runParseDuration s = (mulU64 value factor).map .ok := by
  obtain ⟨numeral, hsplit, hvalue⟩ := Acme.splitDuration_of_text h
  simp only [Acme.runParseDuration, if_neg h.ne_empty, hsplit, hvalue]

/-- What the certificate manager splits is a text and one of the units. -/
theorem Acme.splitDuration_eq_some {text numeral : String} {factor value : Nat}
    (h : Acme.splitDuration text = some (numeral, factor))
    (hvalue : parseUnsigned 64 numeral = some value) : DurationText text value factor := by
  unfold Acme.splitDuration at h
  split at h
  · rename_i rest hrest
    obtain ⟨rfl, rfl⟩ := Prod.mk.inj (Option.some.inj h)
    rw [stripSuffix_eq_some.1 hrest]
    exact .days hvalue
  split at h
  · rename_i rest hrest
    obtain ⟨rfl, rfl⟩ := Prod.mk.inj (Option.some.inj h)
    rw [stripSuffix_eq_some.1 hrest]
    exact .hours hvalue
  split at h
  · rename_i rest hrest
    obtain ⟨rfl, rfl⟩ := Prod.mk.inj (Option.some.inj h)
    rw [stripSuffix_eq_some.1 hrest]
    exact .minutes hvalue
  split at h
  · rename_i rest hrest
    obtain ⟨rfl, rfl⟩ := Prod.mk.inj (Option.some.inj h)
    rw [stripSuffix_eq_some.1 hrest]
    exact .seconds hvalue
  · exact absurd h (by simp)

/-- On a text that is no duration, the certificate manager returns an error. -/
theorem Acme.runParseDuration_of_no_text {s : String}
    (h : ∀ value factor, ¬ DurationText (trim s) value factor) :
    ∃ e, Acme.parseDuration s = .error e ∧ Acme.runParseDuration s = some (.error e) := by
  unfold Acme.parseDuration Acme.runParseDuration
  dsimp only
  by_cases hempty : trim s = ""
  · rw [if_pos hempty, if_pos hempty]
    exact ⟨_, rfl, rfl⟩
  · rw [if_neg hempty, if_neg hempty]
    cases hsplit : Acme.splitDuration (trim s) with
    | none => exact ⟨_, rfl, rfl⟩
    | some pair =>
        obtain ⟨numeral, factor⟩ := pair
        dsimp only
        cases hvalue : parseUnsigned 64 numeral with
        | none => exact ⟨_, rfl, rfl⟩
        | some value => exact absurd (Acme.splitDuration_eq_some hsplit hvalue) (h value factor)

/-- On a text that is no duration, the engine's parser returns an error. -/
theorem runParseInterval_of_no_text {s : String}
    (h : ∀ value factor, ¬ DurationText (trim s) value factor) :
    ∃ e, parseInterval s = .error e ∧ runParseInterval s = some (.error e) := by
  cases hparse : parseInterval s with
  | error e => exact ⟨e, rfl, runParseInterval_of_error hparse⟩
  | ok n =>
      obtain ⟨value, factor, htext, -⟩ := durationText_of_parseInterval hparse
      exact absurd htext (h value factor)

/-! ## Exact durations -/

theorem fitsU64_of_text {text : String} {value factor : Nat}
    (htext : DurationText (trim text) value factor) :
    FitsU64 text ↔ value * factor < 2 ^ 64 := by
  constructor
  · intro hfits
    exact hfits value factor htext
  · intro hlt value' factor' htext'
    obtain ⟨rfl, rfl⟩ := htext.unique htext'
    exact hlt

/-- On a text that is a duration, both parsers are exact if the product fits. -/
theorem exactDurations_of_text {text : String} {value factor : Nat}
    (htext : DurationText (trim text) value factor) :
    ExactDurations text ↔ value * factor < 2 ^ 64 := by
  rw [ExactDurations, (parseInterval_of_text htext).1, (parseInterval_of_text htext).2,
    Acme.runParseDuration_of_text htext, Acme.parseDuration_of_text htext]
  constructor
  · intro ⟨⟨result, hresult, _⟩, _⟩
    obtain ⟨n, hn, -⟩ := Option.map_eq_some_iff.1 hresult
    exact (mulU64_eq_some.1 hn).1
  · intro hlt
    have hexact : ExactOrError text (.ok (value * factor)) := by
      intro n hn
      exact ⟨value, factor, htext, (Except.ok.inj hn).symm⟩
    have hmul : mulU64 value factor = some (value * factor) := mulU64_eq_some.2 ⟨hlt, rfl⟩
    have hwrap : wrapUnsigned 64 (value * factor) = value * factor := Nat.mod_eq_of_lt hlt
    rw [hmul, hwrap]
    exact ⟨⟨_, rfl, rfl, hexact⟩, ⟨_, rfl, rfl, hexact⟩⟩

/-- On any other text, both return an error. -/
theorem exactDurations_of_no_text {text : String}
    (hno : ∀ value factor, ¬ DurationText (trim text) value factor) : ExactDurations text := by
  have herror (e : String) : ExactOrError text (.error e) := by
    intro n hn
    exact absurd hn (by simp)
  obtain ⟨e, hparse, hrun⟩ := runParseInterval_of_no_text hno
  obtain ⟨e', hparse', hrun'⟩ := Acme.runParseDuration_of_no_text hno
  exact ⟨⟨.error e, hrun, hparse, herror e⟩, ⟨.error e', hrun', hparse', herror e'⟩⟩

/-- **Both parsers are exact, and never stop, on the texts whose product fits into 64 bits, and on
no others.** Cutting off the unit never fails. -/
theorem exactDurations_iff (text : String) :
    (ExactDurations text ↔ FitsU64 text) ∧
      ∀ unit, (trim text).toList.getLast? = some unit →
        (sliceTo ((trim text).utf8ByteSize - unit.utf8Size) (trim text)).isSome = true := by
  refine ⟨?_, ?_⟩
  · by_cases htext : ∃ value factor, DurationText (trim text) value factor
    · obtain ⟨value, factor, htext⟩ := htext
      rw [exactDurations_of_text htext, fitsU64_of_text htext]
    · have hno : ∀ value factor, ¬ DurationText (trim text) value factor := by
        intro value factor hduration
        exact htext ⟨value, factor, hduration⟩
      refine iff_of_true (exactDurations_of_no_text hno) ?_
      intro value factor hduration
      exact absurd hduration (hno value factor)
  · intro unit hunit
    rw [sliceTo_dropLast hunit]
    rfl

/-- A number of days whose seconds do not fit: one build stops, the other returns seventeen
hours. -/
theorem days_overflow :
    runParseInterval "213503982334602d" = none ∧
      parseInterval "213503982334602d" = .ok 61184 ∧
      Acme.parseDuration "213503982334602d" = .ok 61184 ∧
      ¬ ExactDurations "213503982334602d" := by
  have hrun : runParseInterval "213503982334602d" = none := by decide +kernel
  refine ⟨hrun, by decide +kernel, by decide +kernel, ?_⟩
  intro ⟨⟨result, hresult, _⟩, _⟩
  rw [hrun] at hresult
  exact absurd hresult (by simp)

end DnsFilter
