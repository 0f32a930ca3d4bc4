import Mathlib.Algebra.Group.Int.Defs
import Mathlib.Algebra.Group.Nat.Defs
import DnsFilter.Lib.Text

/-!
# Numerals

Decimal numerals as a fixed-width integer type reads them: an optional sign, at least one
ASCII digit, nothing else, and a value inside the type's range. `toString` prints them, and
`parseUnsigned_toString` says what reading a printed number gives.
-/

namespace DnsFilter.Numeral

/-- The value of a non-empty run of ASCII digits. -/
def parseDigits (l : List Char) : Option Nat :=
  if l ≠ [] ∧ l.all Char.isDigit then some (Nat.ofDigitChars 10 l 0) else none

/-- Read an unsigned `w`-bit numeral; a leading `+` is allowed. -/
def parseUnsigned (w : Nat) (s : String) : Option Nat :=
  let digits := match s.toList with
    | '+' :: ds => ds
    | ds => ds
  (parseDigits digits).filter (· < 2 ^ w)

/-- Read a signed `w`-bit numeral; a leading `+` or `-` is allowed. -/
def parseSigned (w : Nat) (s : String) : Option Int :=
  match s.toList with
  | '-' :: ds => ((parseDigits ds).filter (· ≤ 2 ^ (w - 1))).map fun n : Nat => -(n : Int)
  | '+' :: ds => ((parseDigits ds).filter (· < 2 ^ (w - 1))).map Int.ofNat
  | ds => ((parseDigits ds).filter (· < 2 ^ (w - 1))).map Int.ofNat

/-- The value of `n` in a signed `w`-bit register. -/
def wrapSigned (w : Nat) (n : Int) : Int := n.bmod (2 ^ w)

/-- The value of `n` in an unsigned `w`-bit register. -/
def wrapUnsigned (w : Nat) (n : Nat) : Nat := n % 2 ^ w

/-- The cast keeps a number that fits. -/
theorem wrapSigned_eq_self {w : Nat} {n : Int} (hle : -2 ^ w ≤ 2 * n) (hlt : 2 * n < 2 ^ w) :
    wrapSigned w n = n := by
  unfold wrapSigned
  have hcast : ((2 ^ w : Nat) : Int) = 2 ^ w := by norm_cast
  exact Int.bmod_eq_of_le_mul_two (by omega) (by omega)

theorem wrapSigned_lt (w : Nat) (n : Int) : 2 * wrapSigned (w + 1) n < 2 ^ (w + 1) := by
  unfold wrapSigned
  have hcast : ((2 ^ (w + 1) : Nat) : Int) = 2 ^ (w + 1) := by norm_cast
  have hpos : 0 < 2 ^ (w + 1) := Nat.two_pow_pos (w + 1)
  have hlt := Int.bmod_lt (x := n) hpos
  rw [hcast] at hlt
  have heven : (2 : Int) ^ (w + 1) = 2 * 2 ^ w := by rw [Int.pow_succ, Int.mul_comm]
  omega

theorem wrapSigned_emod (w : Nat) (n : Int) : wrapSigned w n % 2 ^ w = n % 2 ^ w := by
  have hmod : Int.bmod n (2 ^ w) % ((2 ^ w : Nat) : Int) = n % ((2 ^ w : Nat) : Int) :=
    Int.bmod_emod
  push_cast at hmod
  exact hmod

@[simp] theorem parseDigits_toDigits (n : Nat) : parseDigits (Nat.toDigits 10 n) = some n := by
  have hdigit : (Nat.toDigits 10 n).all Char.isDigit = true :=
    List.all_eq_true.2 fun c hc => Nat.isDigit_of_mem_toDigits (by decide) (by decide) hc
  rw [parseDigits, if_pos ⟨Nat.toDigits_ne_nil, hdigit⟩, Nat.ofDigitChars_ten_toDigits]

theorem toDigits_head_isDigit {n : Nat} {c : Char} {cs : List Char}
    (h : Nat.toDigits 10 n = c :: cs) : c.isDigit = true :=
  Nat.isDigit_of_mem_toDigits (b := 10) (n := n) (by decide) (by decide) (by rw [h]; simp)

theorem parseDigits_eq_some {l : List Char} {n : Nat} (h : parseDigits l = some n) :
    l ≠ [] ∧ ∀ c ∈ l, c.isDigit = true := by
  rw [parseDigits] at h
  split at h
  · rename_i hl
    exact ⟨hl.1, List.all_eq_true.1 hl.2⟩
  · exact absurd h (by simp)

theorem ofDigitChars_lt {l : List Char} (h : ∀ c ∈ l, c.isDigit = true) (init : Nat) :
    Nat.ofDigitChars 10 l init < (init + 1) * 10 ^ l.length := by
  induction l generalizing init with
  | nil => simp
  | cons c l ih =>
      have hdigit : c.toNat - '0'.toNat ≤ 9 := by
        have hc := h c List.mem_cons_self
        unfold Char.isDigit at hc
        rw [Bool.and_eq_true, decide_eq_true_eq, decide_eq_true_eq, UInt32.le_iff_toNat_le] at hc
        have hle : c.toNat ≤ 57 := hc.2
        have hzero : '0'.toNat = 48 := rfl
        omega
      rw [Nat.ofDigitChars_cons, List.length_cons]
      calc Nat.ofDigitChars 10 l (10 * init + (c.toNat - '0'.toNat))
          < (10 * init + (c.toNat - '0'.toNat) + 1) * 10 ^ l.length :=
            ih (fun d hd => h d (List.mem_cons_of_mem c hd)) _
        _ ≤ (init + 1) * 10 * 10 ^ l.length := Nat.mul_le_mul_right _ (by omega)
        _ = (init + 1) * 10 ^ (l.length + 1) := by rw [Nat.mul_assoc, Nat.pow_succ, Nat.mul_comm 10]

/-- A numeral of a few characters is a small number. -/
theorem parseUnsigned_lt_pow_length {w : Nat} {s : String} {n : Nat}
    (h : parseUnsigned w s = some n) : n < 10 ^ s.toList.length := by
  have hdigits : ∀ digits : List Char, digits.length ≤ s.toList.length →
      (parseDigits digits).filter (· < 2 ^ w) = some n → n < 10 ^ s.toList.length := by
    intro digits hlength hn
    have hparse := (Option.filter_eq_some_iff.1 hn).1
    have hall := (parseDigits_eq_some hparse).2
    rw [parseDigits] at hparse
    split at hparse
    · obtain rfl := Option.some.inj hparse
      calc Nat.ofDigitChars 10 digits 0 < (0 + 1) * 10 ^ digits.length := ofDigitChars_lt hall 0
        _ = 10 ^ digits.length := by rw [Nat.zero_add, Nat.one_mul]
        _ ≤ 10 ^ s.toList.length := Nat.pow_le_pow_right (by decide) hlength
    · exact absurd hparse (by simp)
  unfold parseUnsigned at h
  dsimp only at h
  split at h
  · rename_i ds heq
    exact hdigits ds (by rw [heq, List.length_cons]; omega) h
  · exact hdigits _ (Nat.le_refl _) h

/-- A signed numeral ends with a digit. -/
theorem getLast?_of_parseSigned {w : Nat} {s : String} {i : Int} (h : parseSigned w s = some i) :
    ∃ c, s.toList.getLast? = some c ∧ c.isDigit = true := by
  have hlast {ds : List Char} {n : Nat} (hds : parseDigits ds = some n) :
      ∃ c, ds.getLast? = some c ∧ c.isDigit = true := by
    obtain ⟨hne, hdigits⟩ := parseDigits_eq_some hds
    exact ⟨ds.getLast hne, List.getLast?_eq_getLast_of_ne_nil hne, hdigits _ (List.getLast_mem hne)⟩
  have hcons {a : Char} {ds : List Char} {n : Nat} (hds : parseDigits ds = some n) :
      (a :: ds).getLast? = ds.getLast? := by
    obtain ⟨hne, -⟩ := parseDigits_eq_some hds
    cases ds with
    | nil => exact absurd rfl hne
    | cons b ds => exact List.getLast?_cons_cons
  rw [parseSigned] at h
  split at h
  · rename_i ds heq
    obtain ⟨n, hn, -⟩ := Option.map_eq_some_iff.1 h
    have hds := (Option.filter_eq_some_iff.1 hn).1
    rw [heq, hcons hds]
    exact hlast hds
  · rename_i ds heq
    obtain ⟨n, hn, -⟩ := Option.map_eq_some_iff.1 h
    have hds := (Option.filter_eq_some_iff.1 hn).1
    rw [heq, hcons hds]
    exact hlast hds
  · obtain ⟨n, hn, -⟩ := Option.map_eq_some_iff.1 h
    exact hlast (Option.filter_eq_some_iff.1 hn).1

/-- A signed numeral is in the range of its type. -/
theorem bounds_of_parseSigned {w : Nat} {s : String} {i : Int} (h : parseSigned w s = some i) :
    -2 ^ (w - 1) ≤ i ∧ i < 2 ^ (w - 1) := by
  have hpos : (0 : Int) < 2 ^ (w - 1) := Int.pow_pos (by decide)
  have hnat {n : Nat} (hn : n < 2 ^ (w - 1)) : -2 ^ (w - 1) ≤ (n : Int) ∧ (n : Int) < 2 ^ (w - 1) :=
    ⟨Int.le_trans (Int.neg_nonpos_of_nonneg (Int.le_of_lt hpos)) (Int.natCast_nonneg n),
      by exact_mod_cast hn⟩
  rw [parseSigned] at h
  split at h
  · obtain ⟨n, hn, rfl⟩ := Option.map_eq_some_iff.1 h
    have hle : n ≤ 2 ^ (w - 1) := by simpa using (Option.filter_eq_some_iff.1 hn).2
    have hle' : (n : Int) ≤ 2 ^ (w - 1) := by exact_mod_cast hle
    exact ⟨Int.neg_le_neg hle',
      Int.lt_of_le_of_lt (Int.neg_nonpos_of_nonneg (Int.natCast_nonneg n)) hpos⟩
  · obtain ⟨n, hn, rfl⟩ := Option.map_eq_some_iff.1 h
    exact hnat (by simpa using (Option.filter_eq_some_iff.1 hn).2)
  · obtain ⟨n, hn, rfl⟩ := Option.map_eq_some_iff.1 h
    exact hnat (by simpa using (Option.filter_eq_some_iff.1 hn).2)

/-- A printed numeral does not start with a sign. -/
theorem toDigits_ne_sign {n : Nat} {c : Char} {cs : List Char}
    (h : Nat.toDigits 10 n = c :: cs) : c ≠ '+' ∧ c ≠ '-' := by
  have hd := toDigits_head_isDigit h
  constructor <;> rintro rfl <;> exact absurd hd (by decide)

/-- A printed number is read back as itself if it is in range. -/
theorem parseUnsigned_toString (w n : Nat) :
    parseUnsigned w (toString n) = (some n).filter (· < 2 ^ w) := by
  have htext : (toString n).toList = Nat.toDigits 10 n := Nat.toList_repr
  have hdigits : (match (toString n).toList with
      | '+' :: ds => ds
      | ds => ds) = Nat.toDigits 10 n := by
    rw [htext]
    split
    · rename_i ds heq
      exact absurd rfl (toDigits_ne_sign heq).1
    · rfl
  rw [parseUnsigned, hdigits, parseDigits_toDigits]

/-- A number with zeros in front, up to the given width. -/
def zeroPadded (width n : Nat) : String := .ofList ((Nat.toDigits 10 n).leftpad width '0')

theorem toList_zeroPadded (width n : Nat) : (zeroPadded width n).toList =
    List.replicate (width - (Nat.toDigits 10 n).length) '0' ++ Nat.toDigits 10 n := by
  rw [zeroPadded, String.toList_ofList]
  rfl

theorem isDigit_of_mem_zeroPadded {width n : Nat} {c : Char}
    (h : c ∈ (zeroPadded width n).toList) : c.isDigit = true := by
  rw [toList_zeroPadded, List.mem_append] at h
  rcases h with h | h
  · rw [List.eq_of_mem_replicate h]
    rfl
  · exact Nat.isDigit_of_mem_toDigits (by decide) (by decide) h

theorem length_zeroPadded {width n : Nat} (hpos : 0 < width) (h : n < 10 ^ width) :
    (zeroPadded width n).toList.length = width := by
  have hlength := (Nat.length_toDigits_le_iff (by decide) hpos).2 h
  rw [toList_zeroPadded, List.length_append, List.length_replicate]
  omega

/-- A padded number is read back as itself if it is in range. -/
theorem parseUnsigned_zeroPadded {w n : Nat} (width : Nat) (h : n < 2 ^ w) :
    parseUnsigned w (zeroPadded width n) = some n := by
  have hparse : parseDigits (zeroPadded width n).toList = some n := by
    have hne : (zeroPadded width n).toList ≠ [] := by
      rw [toList_zeroPadded]
      exact List.append_ne_nil_of_right_ne_nil _ Nat.toDigits_ne_nil
    have hall : (zeroPadded width n).toList.all Char.isDigit = true :=
      List.all_eq_true.2 fun c hc => isDigit_of_mem_zeroPadded hc
    rw [parseDigits, if_pos ⟨hne, hall⟩, toList_zeroPadded, Nat.ofDigitChars_append,
      Nat.ofDigitChars_replicate_zero, Nat.mul_zero, Nat.ofDigitChars_ten_toDigits]
  have hdigits : (match (zeroPadded width n).toList with
      | '+' :: ds => ds
      | ds => ds) = (zeroPadded width n).toList := by
    split
    · rename_i ds heq
      have hplus : '+' ∈ (zeroPadded width n).toList := by
        rw [heq]
        exact List.mem_cons_self
      exact absurd (isDigit_of_mem_zeroPadded hplus) (by decide)
    · rfl
  rw [parseUnsigned, hdigits, hparse, Option.filter_some, if_pos (decide_eq_true h)]

/-- A numeral whose value is negative is no unsigned numeral. -/
theorem parseUnsigned_toString_neg {w : Nat} {i : Int} (h : i < 0) :
    parseUnsigned w (toString i) = none := by
  obtain ⟨m, rfl⟩ := Int.eq_negSucc_of_lt_zero h
  have htext : (toString (Int.negSucc m)).toList = '-' :: Nat.toDigits 10 (m + 1) := by
    show ("-" ++ Nat.repr (m + 1)).toList = _
    rw [String.toList_append, Nat.toList_repr]
    rfl
  rw [parseUnsigned, htext]
  simp [parseDigits]

/-- Which printed integers are unsigned numerals. -/
theorem parseUnsigned_toString_int {w : Nat} {i : Int} {n : Nat} :
    parseUnsigned w (toString i) = some n ↔ 0 ≤ i ∧ i < 2 ^ w ∧ n = i.toNat := by
  rcases Int.lt_or_le i 0 with hi | hi
  · rw [parseUnsigned_toString_neg hi]
    exact ⟨fun h => absurd h (by simp), fun h => absurd h.1 (Int.not_le.2 hi)⟩
  · obtain ⟨m, rfl⟩ := Int.eq_ofNat_of_zero_le hi
    have htext : toString (m : Int) = toString m := rfl
    have hlt : (m : Int) < 2 ^ w ↔ m < 2 ^ w := by norm_cast
    rw [htext, parseUnsigned_toString, hlt, Option.filter_eq_some_iff, Int.toNat_natCast]
    simp only [Option.some.injEq, decide_eq_true_eq]
    exact ⟨fun ⟨heq, hn⟩ => ⟨hi, heq ▸ hn, heq.symm⟩, fun ⟨_, hm, heq⟩ => ⟨heq.symm, heq ▸ hm⟩⟩

attribute [irreducible] parseUnsigned parseSigned wrapSigned

end DnsFilter.Numeral
