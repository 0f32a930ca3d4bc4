import DnsFilter.Lib.Numeral

/-!
# Interval parsers

Two of the program's duration parsers: `parseInterval`, which the engine and the resolver cache
read their configuration with, and `parseIntervalSecs`, which the management API reads list
intervals with. The first rejects what it does not understand, the second falls back to a
default; the first works on unsigned and the second on signed 64-bit numbers.

Products are taken in the machine's registers, as the release build takes them.

* `parseInterval_formatSeconds` — which stored numbers of seconds the first parser reads back.
* `parseIntervalSecs_of_text`, `usableInterval_iff` — the texts that the second parser recognises,
  and which of them the engine can use.
-/

namespace DnsFilter

open Numeral Text

/-- The last match of `filtering::parse_interval`: scale a number by its unit suffix. -/
def scaleInterval (value : Nat) (unit : Char) : Except String Nat :=
  if unit = 's' then .ok value
  else if unit = 'm' then .ok (wrapUnsigned 64 (value * 60))
  else if unit = 'h' then .ok (wrapUnsigned 64 (wrapUnsigned 64 (value * 60) * 60))
  else if unit = 'd' then
    .ok (wrapUnsigned 64 (wrapUnsigned 64 (wrapUnsigned 64 (value * 24) * 60) * 60))
  else .error ("unsupported interval suffix '" ++ unit.toString ++ "'; use one of: s, m, h, d")

/-- `filtering::parse_interval`: the number of seconds a text like `30m` stands for. -/
def parseInterval (input : String) : Except String Nat :=
  let trimmed := trim input
  match trimmed.toList.getLast? with
  | none => .error "interval cannot be empty"
  | some unit =>
      let valueText := String.ofList trimmed.toList.dropLast
      if valueText = "" then .error "interval is missing its numeric value"
      else match parseUnsigned 64 valueText with
        | none => .error ("invalid interval number: " ++ valueText)
        | some value => scaleInterval value unit

/-- `DEFAULT_INTERVAL_SECS`: twelve hours. -/
def defaultIntervalSecs : Int := 12 * 60 * 60

/-- `server_operations::parse_interval_secs`. -/
def parseIntervalSecs (interval : Option String) : Int :=
  match interval with
  | none => defaultIntervalSecs
  | some s =>
      let s := trim s
      if s = "" then defaultIntervalSecs
      else match (stripSuffix "h" s).bind (parseSigned 64) with
        | some h => wrapSigned 64 (h * 3600)
        | none => match (stripSuffix "m" s).bind (parseSigned 64) with
          | some m => wrapSigned 64 (m * 60)
          | none => match (stripSuffix "s" s).bind (parseSigned 64) with
            | some sec => sec
            | none => (parseSigned 64 s).getD defaultIntervalSecs

/-- How an `i64` number of seconds is written back into the configuration: `{n}s`. -/
def formatSeconds (n : Int) : String := toString n ++ "s"

/-- A non-empty text without leading white space, followed by a unit, is split there again. -/
theorem parseInterval_append_s {text : String} (hne : text ≠ "")
    (hhead : ∀ c ∈ text.toList.head?, isWhitespace c = false) :
    parseInterval (text ++ "s") =
      match parseUnsigned 64 text with
      | none => .error ("invalid interval number: " ++ text)
      | some value => .ok value := by
  have hchars : (text ++ "s").toList = text.toList ++ ['s'] := String.toList_append
  have hne' : text.toList ≠ [] := by simpa using hne
  have htrim : trim (text ++ "s") = text ++ "s" := by
    apply trim_eq_self
    · intro c hc
      rw [hchars, List.head?_append_of_ne_nil _ hne'] at hc
      exact hhead c hc
    · intro c hc
      rw [hchars, List.getLast?_concat, Option.mem_some] at hc
      exact hc ▸ rfl
  simp only [parseInterval, htrim, hchars, List.getLast?_concat, List.dropLast_concat,
    String.ofList_toList, if_neg hne]
  rfl

theorem toString_int_ne_empty (n : Int) : toString n ≠ "" := by
  cases n with
  | ofNat m =>
      intro h
      have h' : (Nat.toDigits 10 m) = [] := by
        rw [← Nat.toList_repr]
        exact congrArg String.toList h
      exact Nat.toDigits_ne_nil h'
  | negSucc m =>
      intro h
      have := congrArg String.toList h
      simp [toString, Int.repr] at this

/-- The first character of a printed integer is a digit or the minus sign. -/
theorem isWhitespace_head_toString_int (n : Int) :
    ∀ c ∈ (toString n).toList.head?, isWhitespace c = false := by
  intro c hc
  cases n with
  | ofNat m =>
      have htext : (toString (Int.ofNat m)).toList = Nat.toDigits 10 m := Nat.toList_repr
      rw [htext] at hc
      have hmem : c ∈ Nat.toDigits 10 m := List.mem_of_mem_head? hc
      have hdigit : c.isDigit = true := Nat.isDigit_of_mem_toDigits (by decide) (by decide) hmem
      have hrange : 48 ≤ c.toNat ∧ c.toNat ≤ 57 := by
        rw [Char.isDigit, Bool.and_eq_true, decide_eq_true_eq, decide_eq_true_eq] at hdigit
        exact ⟨UInt32.le_iff_toNat_le.1 hdigit.1, UInt32.le_iff_toNat_le.1 hdigit.2⟩
      simp only [isWhitespace, Bool.or_eq_false_iff, Bool.and_eq_false_iff, beq_eq_false_iff_ne,
        decide_eq_false_iff_not]
      omega
  | negSucc m =>
      have htext : (toString (Int.negSucc m)).toList = '-' :: (Nat.repr (m + 1)).toList := by
        show ("-" ++ Nat.repr (m + 1)).toList = _
        rw [String.toList_append]
        rfl
      rw [htext, List.head?_cons, Option.mem_some] at hc
      exact hc ▸ rfl

/-- Which stored numbers of seconds are read back, and as what. -/
theorem parseInterval_formatSeconds {n : Int} {secs : Nat} :
    parseInterval (formatSeconds n) = .ok secs ↔ 0 ≤ n ∧ n < 2 ^ 64 ∧ secs = n.toNat := by
  rw [formatSeconds, parseInterval_append_s (toString_int_ne_empty n)
    (isWhitespace_head_toString_int n), ← parseUnsigned_toString_int]
  cases parseUnsigned 64 (toString n) with
  | none => simp
  | some value => simp

/-! ## The texts of the management API -/

/-- The interval texts that `parse_interval_secs` recognises, and the seconds they stand for: a
signed number with the unit `h`, `m` or `s`, or without a unit. -/
inductive IntervalText : String → Int → Prop
  | hours {text : String} {k : Int} (h : parseSigned 64 text = some k) :
      IntervalText (text ++ "h") (k * 3600)
  | minutes {text : String} {k : Int} (h : parseSigned 64 text = some k) :
      IntervalText (text ++ "m") (k * 60)
  | seconds {text : String} {k : Int} (h : parseSigned 64 text = some k) :
      IntervalText (text ++ "s") k
  | plain {text : String} {k : Int} (h : parseSigned 64 text = some k) : IntervalText text k

theorem wrapSigned_of_parseSigned {text : String} {k : Int} (h : parseSigned 64 text = some k) :
    wrapSigned 64 k = k := by
  have hk := bounds_of_parseSigned h
  exact wrapSigned_eq_self (by omega) (by omega)

/-- A text that ends in another character does not end in `unit`. -/
theorem stripSuffix_of_getLast? {text unit : String} {c d : Char} (hunit : unit.toList = [d])
    (hlast : text.toList.getLast? = some c) (hne : c ≠ d) : stripSuffix unit text = none := by
  rw [Option.eq_none_iff_forall_ne_some]
  intro r hr
  rw [stripSuffix_eq_some.1 hr, String.toList_append, hunit, List.getLast?_concat] at hlast
  exact hne (Option.some.inj hlast).symm

theorem stripSuffix_other_unit {text unit other : String} {c d : Char} (hunit : unit.toList = [c])
    (hother : other.toList = [d]) (hne : c ≠ d) : stripSuffix other (text ++ unit) = none :=
  stripSuffix_of_getLast? hother
    (by rw [String.toList_append, hunit, List.getLast?_concat]) hne

theorem stripSuffix_append (text unit : String) : stripSuffix unit (text ++ unit) = some text :=
  stripSuffix_eq_some.2 rfl

theorem IntervalText.ne_empty {text : String} {n : Int} (h : IntervalText text n) : text ≠ "" := by
  have hunit {t u : String} {c : Char} (hu : u.toList = [c]) : t ++ u ≠ "" := by
    intro heq
    have := congrArg String.toList heq
    simp [hu] at this
  cases h with
  | hours => exact hunit rfl
  | minutes => exact hunit rfl
  | seconds => exact hunit rfl
  | plain h =>
      rintro rfl
      have hnone : parseSigned 64 "" = none := by decide +kernel
      exact absurd (hnone.symm.trans h) (by simp)

theorem parseIntervalSecs_of_text {text : String} {n : Int} (h : IntervalText (trim text) n) :
    parseIntervalSecs (some text) = wrapSigned 64 n := by
  have hne := h.ne_empty
  rw [parseIntervalSecs]
  simp only [if_neg hne]
  generalize trim text = s at h
  cases h with
  | hours hk => simp only [stripSuffix_append, Option.bind_some, hk]
  | @minutes t _ hk =>
      have hh : stripSuffix "h" (t ++ "m") = none := stripSuffix_other_unit rfl rfl (by decide)
      simp only [hh, stripSuffix_append, Option.bind_none, Option.bind_some, hk]
  | @seconds t _ hk =>
      have hh : stripSuffix "h" (t ++ "s") = none := stripSuffix_other_unit rfl rfl (by decide)
      have hm : stripSuffix "m" (t ++ "s") = none := stripSuffix_other_unit rfl rfl (by decide)
      simp only [hh, hm, stripSuffix_append, Option.bind_none, Option.bind_some, hk,
        wrapSigned_of_parseSigned hk]
  | plain hk =>
      obtain ⟨c, hc, hdigit⟩ := getLast?_of_parseSigned hk
      have hunit {u : String} {d : Char} (hu : u.toList = [d]) (hd : d.isDigit = false) :
          stripSuffix u s = none :=
        stripSuffix_of_getLast? hu hc fun heq => by simp [← heq, hdigit] at hd
      simp only [hunit (u := "h") rfl rfl, hunit (u := "m") rfl rfl, hunit (u := "s") rfl rfl,
        Option.bind_none, hk, Option.getD_some, wrapSigned_of_parseSigned hk]

/-- Everything else stands for the default. -/
theorem parseIntervalSecs_of_no_text {text : String} (h : ∀ n, ¬ IntervalText (trim text) n) :
    parseIntervalSecs (some text) = defaultIntervalSecs := by
  have hunit {unit : String} (hcase : ∀ t k, parseSigned 64 t = some k → trim text ≠ t ++ unit) :
      (stripSuffix unit (trim text)).bind (parseSigned 64) = none := by
    rw [Option.bind_eq_none_iff]
    intro t ht
    rw [Option.eq_none_iff_forall_ne_some]
    exact fun k hk => hcase t k hk (stripSuffix_eq_some.1 ht)
  have hh := hunit fun t k hk heq => h (k * 3600) (heq ▸ .hours hk)
  have hm := hunit fun t k hk heq => h (k * 60) (heq ▸ .minutes hk)
  have hs := hunit fun t k hk heq => h k (heq ▸ .seconds hk)
  have hplain : parseSigned 64 (trim text) = none :=
    Option.eq_none_iff_forall_ne_some.2 fun k hk => h k (.plain hk)
  rw [parseIntervalSecs]
  simp only [hh, hm, hs, hplain, Option.getD_none, ite_self]

/-- The seconds of an interval text are kept in a signed 64-bit number. -/
theorem parseIntervalSecs_lt (interval : Option String) : parseIntervalSecs interval < 2 ^ 63 := by
  cases interval with
  | none => decide
  | some text =>
      by_cases h : ∃ n, IntervalText (trim text) n
      · obtain ⟨n, hn⟩ := h
        rw [parseIntervalSecs_of_text hn, wrapSigned]
        exact Int.bmod_lt (by decide)
      · rw [parseIntervalSecs_of_no_text (not_exists.1 h)]
        decide

/-- An interval of the API that the engine can use: its seconds, in the register, are not negative,
and not zero either for a list that is refreshed. -/
def UsableInterval (interval : Option String) (enabled : Bool) : Prop :=
  ∀ text, interval = some text → ∀ n, IntervalText (trim text) n →
    0 ≤ wrapSigned 64 n ∧ (enabled → wrapSigned 64 n ≠ 0)

theorem usableInterval_iff {interval : Option String} {enabled : Bool} :
    UsableInterval interval enabled ↔
      0 ≤ parseIntervalSecs interval ∧ (enabled → parseIntervalSecs interval ≠ 0) := by
  have hdefault : 0 ≤ defaultIntervalSecs ∧ (enabled → defaultIntervalSecs ≠ 0) :=
    ⟨by decide, fun _ => by decide⟩
  cases interval with
  | none => exact iff_of_true (fun _ h => absurd h (by simp)) hdefault
  | some text =>
      constructor
      · intro h
        by_cases htext : ∃ n, IntervalText (trim text) n
        · obtain ⟨n, hn⟩ := htext
          rw [parseIntervalSecs_of_text hn]
          exact h text rfl n hn
        · rw [parseIntervalSecs_of_no_text (not_exists.1 htext)]
          exact hdefault
      · rintro h _ ⟨⟩ n hn
        rwa [parseIntervalSecs_of_text hn] at h

attribute [irreducible] parseInterval

end DnsFilter
