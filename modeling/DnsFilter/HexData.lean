import DnsFilter.Lib.Result
import DnsFilter.Lib.Utf8
import DnsFilter.ZoneAuthority

/-!
# Hexadecimal certificate data

`decode_hex` (`zone_authority.rs`) cuts the trimmed text into pairs of bytes and gives each pair to
a general integer parser. That parser allows a sign: as the first character of a pair, `+` counts
as the digit zero (`decodeHex_eq_ok`).

* `decodeHex_exact` — the text decodes as hexadecimal notation says, unless it is made of pairs of
  which one starts with `+`.
-/

namespace DnsFilter.ZoneAuthority

open Text Utf8

/-! ## Hexadecimal notation -/

/-- Two digits per byte, in lower case. -/
def hexEncode (bytes : Bytes) : String :=
  .ofList (bytes.flatMap fun b => [Nat.digitChar (b.toNat / 16), Nat.digitChar (b.toNat % 16)])

/-- The digits `0` to `9`, `a` to `f` and `A` to `F`. -/
def isHexChar (c : Char) : Bool := "0123456789abcdefABCDEF".toList.contains c

/-- An even number of hexadecimal digits. -/
def IsHexText (s : String) : Prop := s.toList.length % 2 = 0 ∧ ∀ c ∈ s.toList, isHexChar c = true

/-- The text decodes as hexadecimal notation says: encoded bytes decode to these bytes whatever the
case of the digits and the white space around them, and anything else is an error. -/
def DecodesAsHex (value : String) : Prop :=
  (∀ bytes, toAsciiLowercase (trim value) = hexEncode bytes → decodeHex value = .ok bytes) ∧
    (¬ IsHexText (trim value) → ∃ message, decodeHex value = .error message)

/-- Pairs of characters: a hexadecimal digit or `+`, then a hexadecimal digit. -/
def isPairs : List Char → Bool
  | hi :: lo :: rest => (isHexChar hi || hi == '+') && isHexChar lo && isPairs rest
  | [_] => false
  | [] => true

/-- Text made of pairs of which one starts with `+`. -/
def HasSignedPair (s : String) : Prop := isPairs s.toList = true ∧ '+' ∈ s.toList

/-! ## Digits -/

theorem toNat_of_hexDigit {c : Char} {n : Nat} (h : hexDigit c = some n) : c.toNat < 128 := by
  by_contra hlarge
  have hnone : hexDigit c = none := by
    unfold hexDigit Char.isDigit
    have hdigit : ¬ (c.val ≥ 48 ∧ c.val ≤ 57) := by
      intro hc
      exact hlarge (lt_of_le_of_lt (UInt32.le_iff_toNat_le.1 hc.2) (by decide))
    have hlower : ¬ ('a' ≤ c ∧ c ≤ 'f') := by
      intro hc
      exact hlarge (lt_of_le_of_lt (UInt32.le_iff_toNat_le.1 hc.2) (by decide))
    have hupper : ¬ ('A' ≤ c ∧ c ≤ 'F') := by
      intro hc
      exact hlarge (lt_of_le_of_lt (UInt32.le_iff_toNat_le.1 hc.2) (by decide))
    rw [if_neg (by simpa using hdigit), if_neg hlower, if_neg hupper]
  rw [hnone] at h
  exact absurd h (by simp)

/-- What holds of the first 128 characters holds of every ASCII character. -/
theorem forall_ascii {P : Char → Prop} (h : ∀ n < 128, P (Char.ofNat n)) {c : Char}
    (hc : c.toNat < 128) : P c := by
  have hp := h c.toNat hc
  rwa [Char.ofNat_toNat] at hp

theorem toNat_of_isHexChar {c : Char} (h : isHexChar c = true) : c.toNat < 128 := by
  rw [isHexChar, List.contains_iff_mem] at h
  exact of_decide_eq_true (List.all_eq_true.1 (by decide : "0123456789abcdefABCDEF".toList.all
    (fun c => decide (c.toNat < 128)) = true) c h)

theorem isSome_hexDigit (c : Char) : (hexDigit c).isSome = isHexChar c := by
  by_cases hc : c.toNat < 128
  · exact forall_ascii (P := fun c => (hexDigit c).isSome = isHexChar c) (by decide +kernel) hc
  · rw [Bool.eq_iff_iff, Option.isSome_iff_exists]
    constructor
    · intro h
      obtain ⟨n, hn⟩ := h
      exact absurd (toNat_of_hexDigit hn) hc
    · intro h
      exact absurd (toNat_of_isHexChar h) hc

theorem hexDigit_lt {c : Char} {n : Nat} (h : hexDigit c = some n) : n < 16 := by
  have hall := forall_ascii (P := fun c => (hexDigit c).all (· < 16) = true) (by decide +kernel)
    (toNat_of_hexDigit h)
  rw [h] at hall
  exact of_decide_eq_true hall

/-- The letters count the same in both cases. -/
theorem hexDigit_toLower (c : Char) : hexDigit c.toLower = hexDigit c := by
  by_cases hc : c.toNat < 128
  · exact forall_ascii (P := fun c => hexDigit c.toLower = hexDigit c) (by decide +kernel) hc
  · rcases toLower_eq_or c with hsame | ⟨hupper, -⟩
    · rw [hsame]
    · omega

theorem hexDigit_digitChar {n : Nat} (h : n < 16) : hexDigit (Nat.digitChar n) = some n := by
  have hall : ∀ n < 16, hexDigit (Nat.digitChar n) = some n := by decide +kernel
  exact hall n h

/-! ## Pairs -/

/-- What the first character of a pair counts. -/
def firstDigit (c : Char) : Option Nat := if c = '+' then some 0 else hexDigit c

/-- What a pair of characters decodes to. -/
def pairValue (hi lo : Char) : Option UInt8 :=
  (firstDigit hi).bind fun h => (hexDigit lo).map fun l => UInt8.ofNat (16 * h + l)

/-- What a list of characters decodes to. -/
def pairValues : List Char → Option Bytes
  | hi :: lo :: rest => (pairValue hi lo).bind fun b => (pairValues rest).map (b :: ·)
  | [_] => none
  | [] => some []

theorem fromStrRadix16_pair (hi lo : Char) :
    fromStrRadix16 (.ofList [hi, lo]) = pairValue hi lo := by
  unfold fromStrRadix16 pairValue firstDigit
  rw [String.toList_ofList]
  by_cases hplus : hi = '+'
  · subst hplus
    cases hlo : hexDigit lo with
    | none => simp [hlo]
    | some l =>
        have hl := hexDigit_lt hlo
        have hbound : l < 256 := by omega
        simp [hlo, hbound]
  · cases hhi : hexDigit hi with
    | none => simp [hplus, hhi]
    | some h =>
        cases hlo : hexDigit lo with
        | none => simp [hplus, hhi, hlo]
        | some l =>
            have hh := hexDigit_lt hhi
            have hl := hexDigit_lt hlo
            have hbound : 16 * h + l < 256 := by omega
            simp [hplus, hhi, hlo, hbound]

theorem ascii_of_mapM_hexDigit {l : List Char} {ns : List Nat} (h : l.mapM hexDigit = some ns) :
    ∀ c ∈ l, c.toNat < 128 := by
  induction l generalizing ns with
  | nil => simp
  | cons c l ih =>
      rw [List.mapM_cons] at h
      cases hc : hexDigit c with
      | none => simp [hc] at h
      | some n =>
          cases hrest : l.mapM hexDigit with
          | none => simp [hc, hrest] at h
          | some ns => exact List.forall_mem_cons.2 ⟨toNat_of_hexDigit hc, ih hrest⟩

/-- The integer parser accepts ASCII only. -/
theorem ascii_of_fromStrRadix16 {text : String} {b : UInt8} (h : fromStrRadix16 text = some b) :
    ∀ c ∈ text.toList, c.toNat < 128 := by
  have hdigits : ∀ digits : List Char,
      (if digits = [] then none
        else ((digits.mapM hexDigit).map (·.foldl (fun n d => 16 * n + d) 0)).bind fun n =>
          if n < 256 then some (UInt8.ofNat n) else none) = some b →
        ∀ c ∈ digits, c.toNat < 128 := by
    intro digits hdigits
    by_cases hempty : digits = []
    · simp [hempty]
    · rw [if_neg hempty] at hdigits
      cases hvalues : digits.mapM hexDigit with
      | none => simp [hvalues] at hdigits
      | some ns => exact ascii_of_mapM_hexDigit hvalues
  unfold fromStrRadix16 at h
  dsimp only at h
  split at h
  · rename_i d ds htext
    rw [htext, List.forall_mem_cons]
    exact ⟨by decide, hdigits _ h⟩
  · exact hdigits _ h

/-- A pair of bytes decodes if it is a pair of characters that does. -/
theorem decodeHexPair_eq_ok {x y b : UInt8} :
    decodeHexPair [x, y] = .ok b ↔
      ∃ hi lo, [x, y] = [hi, lo].map asciiByte ∧ pairValue hi lo = some b := by
  unfold decodeHexPair
  constructor
  · intro h
    cases hpair : String.fromUTF8? ⟨[x, y].toArray⟩ with
    | none => simp [hpair] at h
    | some pair =>
        cases hbyte : fromStrRadix16 pair with
        | none => simp [hpair, hbyte] at h
        | some byte =>
            obtain rfl : byte = b := by simpa [hpair, hbyte] using h
            have hbytes := fromUTF8?_eq_some.1 hpair
            rw [toUTF8_of_ascii (ascii_of_fromStrRadix16 hbyte)] at hbytes
            match hchars : pair.toList, hbytes with
            | [hi, lo], hbytes =>
                refine ⟨hi, lo, hbytes.symm, ?_⟩
                rw [← fromStrRadix16_pair, ← hchars, String.ofList_toList, hbyte]
            | [], hbytes => simp at hbytes
            | [_], hbytes => simp at hbytes
            | _ :: _ :: _ :: _, hbytes => simp at hbytes
  · intro h
    obtain ⟨hi, lo, hbytes, hvalue⟩ := h
    rw [← fromStrRadix16_pair] at hvalue
    have hpair : String.fromUTF8? ⟨[x, y].toArray⟩ = some (.ofList [hi, lo]) := by
      rw [fromUTF8?_eq_some, toUTF8_of_ascii (ascii_of_fromStrRadix16 hvalue),
        String.toList_ofList, hbytes]
    rw [hpair]
    simp only [hvalue]

theorem ascii_of_pairValue {hi lo : Char} {b : UInt8} (h : pairValue hi lo = some b) :
    hi.toNat < 128 ∧ lo.toNat < 128 := by
  rw [← fromStrRadix16_pair] at h
  have hall := ascii_of_fromStrRadix16 h
  rw [String.toList_ofList] at hall
  exact ⟨hall hi (by simp), hall lo (by simp)⟩

theorem ascii_of_pairValues : ∀ {l : List Char} {bytes : Bytes}, pairValues l = some bytes →
    ∀ c ∈ l, c.toNat < 128
  | [], _, _ => by simp
  | [_], _, h => by simp [pairValues] at h
  | hi :: lo :: rest, bytes, h => by
      rw [pairValues] at h
      obtain ⟨b, hb, h⟩ := Option.bind_eq_some_iff.1 h
      obtain ⟨bs, hbs, -⟩ := Option.map_eq_some_iff.1 h
      have hpair := ascii_of_pairValue hb
      exact List.forall_mem_cons.2 ⟨hpair.1, List.forall_mem_cons.2 ⟨hpair.2,
        ascii_of_pairValues hbs⟩⟩

theorem length_of_pairValues : ∀ {l : List Char} {bytes : Bytes}, pairValues l = some bytes →
    l.length % 2 = 0
  | [], _, _ => rfl
  | [_], _, h => by simp [pairValues] at h
  | hi :: lo :: rest, bytes, h => by
      rw [pairValues] at h
      obtain ⟨b, hb, h⟩ := Option.bind_eq_some_iff.1 h
      obtain ⟨bs, hbs, -⟩ := Option.map_eq_some_iff.1 h
      have hrest := length_of_pairValues hbs
      simp only [List.length_cons]
      omega

/-- An even number of bytes decodes if it is a list of characters that does. -/
theorem mapM_decodeHexPair : ∀ {bytes : Bytes} {decoded : Bytes}, bytes.length % 2 = 0 →
    ((chunks2 bytes).mapM decodeHexPair = .ok decoded ↔
      ∃ l, bytes = l.map asciiByte ∧ pairValues l = some decoded)
  | [], decoded, _ => by
      rw [chunks2, List.mapM_nil]
      constructor
      · intro h
        exact ⟨[], rfl, congrArg some (Except.ok.inj h)⟩
      · intro h
        obtain ⟨l, hl, hvalues⟩ := h
        obtain rfl := List.map_eq_nil_iff.1 hl.symm
        exact congrArg Except.ok (Option.some.inj hvalues)
  | [_], _, heven => absurd heven (by simp)
  | x :: y :: rest, decoded, heven => by
      have hrest : rest.length % 2 = 0 := by
        simp only [List.length_cons] at heven
        omega
      rw [chunks2, List.mapM_cons, bind_eq_ok]
      constructor
      · intro h
        obtain ⟨b, hb, h⟩ := h
        obtain ⟨bs, hbs, h⟩ := bind_eq_ok.1 h
        obtain ⟨hi, lo, hpair, hvalue⟩ := decodeHexPair_eq_ok.1 hb
        obtain ⟨l, hl, hvalues⟩ := (mapM_decodeHexPair hrest).1 hbs
        refine ⟨hi :: lo :: l, ?_, ?_⟩
        · rw [List.map_cons, List.map_cons, ← hl]
          simpa using hpair
        · rw [pairValues, hvalue, Option.bind_some, hvalues, Option.map_some]
          exact congrArg some (Except.ok.inj h)
      · intro h
        obtain ⟨l, hl, hvalues⟩ := h
        match l, hl, hvalues with
        | hi :: lo :: l, hl, hvalues =>
            rw [pairValues] at hvalues
            obtain ⟨b, hb, hvalues⟩ := Option.bind_eq_some_iff.1 hvalues
            obtain ⟨bs, hbs, hdecoded⟩ := Option.map_eq_some_iff.1 hvalues
            simp only [List.map_cons, List.cons.injEq] at hl
            obtain ⟨hx, hy, hl⟩ := hl
            refine ⟨b, decodeHexPair_eq_ok.2 ⟨hi, lo, by rw [hx, hy]; rfl, hb⟩, bind_eq_ok.2 ⟨bs,
              (mapM_decodeHexPair hrest).2 ⟨l, hl, hbs⟩, ?_⟩⟩
            exact congrArg Except.ok hdecoded
        | [], hl, _ => exact absurd hl (by simp)
        | [_], hl, _ => exact absurd hl (by simp)

/-- **What decodes.** The trimmed text is read in pairs, and `+` may stand for the first digit. -/
theorem decodeHex_eq_ok {value : String} {bytes : Bytes} :
    decodeHex value = .ok bytes ↔ pairValues (trim value).toList = some bytes := by
  have hofList : ∀ {l : List Char}, (∀ c ∈ l, c.toNat < 128) →
      (trim value).toUTF8.toList = l.map asciiByte → (trim value).toList = l := by
    intro l hl hbytes
    have hl' : ∀ c ∈ (String.ofList l).toList, c.toNat < 128 := by
      rwa [String.toList_ofList]
    have hsame : (trim value).toUTF8.toList = (String.ofList l).toUTF8.toList := by
      rw [toUTF8_of_ascii hl', hbytes, String.toList_ofList]
    have heq := (fromUTF8?_eq_some.2 hsame).symm.trans (fromUTF8?_eq_some.2 rfl)
    rw [Option.some.inj heq, String.toList_ofList]
  rw [decodeHex]
  by_cases hempty : trim value = ""
  · simp only [hempty, if_true, String.toList_empty, pairValues, Except.ok.injEq, Option.some.injEq]
  · rw [if_neg hempty]
    by_cases hodd : (trim value).toUTF8.size % 2 ≠ 0
    · rw [if_pos hodd]
      refine iff_of_false (by simp) ?_
      intro hvalues
      apply hodd
      rw [← length_toList, toUTF8_of_ascii (ascii_of_pairValues hvalues), List.length_map]
      exact length_of_pairValues hvalues
    · rw [if_neg hodd]
      have heven : (trim value).toUTF8.toList.length % 2 = 0 := by
        rw [length_toList]
        exact not_not.1 hodd
      rw [mapM_decodeHexPair heven]
      constructor
      · intro h
        obtain ⟨l, hl, hvalues⟩ := h
        rw [hofList (ascii_of_pairValues hvalues) hl]
        exact hvalues
      · intro hvalues
        exact ⟨_, toUTF8_of_ascii (ascii_of_pairValues hvalues), hvalues⟩

/-! ## Hexadecimal text -/

theorem isSome_pairValue (hi lo : Char) :
    (pairValue hi lo).isSome = ((isHexChar hi || hi == '+') && isHexChar lo) := by
  rw [← isSome_hexDigit hi, ← isSome_hexDigit lo, pairValue, firstDigit]
  by_cases hplus : hi = '+'
  · rw [if_pos hplus]
    simp [hplus]
  · rw [if_neg hplus]
    cases hexDigit hi <;> simp [hplus]

theorem isSome_pairValues : ∀ l : List Char, (pairValues l).isSome = isPairs l
  | [] => rfl
  | [_] => rfl
  | hi :: lo :: rest => by
      rw [pairValues, isPairs, ← isSome_pairValue, ← isSome_pairValues rest]
      cases pairValue hi lo <;> simp

/-- Encoded bytes, in any case, are pairs that decode to these bytes. -/
theorem pairValues_of_hexEncode : ∀ {bytes : Bytes} {l : List Char},
    l.map Char.toLower = (hexEncode bytes).toList → pairValues l = some bytes
  | [], l, h => by
      obtain rfl := List.map_eq_nil_iff.1 h
      rfl
  | b :: bytes, l, h => by
      rw [hexEncode, String.toList_ofList, List.flatMap_cons] at h
      match l, h with
      | hi :: lo :: rest, h =>
          simp only [List.map_cons, List.cons_append, List.nil_append, List.cons.injEq] at h
          obtain ⟨hhi, hlo, hrest⟩ := h
          have hb := b.toNat_lt
          have hhigh : hexDigit hi = some (b.toNat / 16) := by
            rw [← hexDigit_toLower, hhi, hexDigit_digitChar (by omega)]
          have hlow : hexDigit lo = some (b.toNat % 16) := by
            rw [← hexDigit_toLower, hlo, hexDigit_digitChar (by omega)]
          have hplus : hi ≠ '+' := by
            intro hplus
            have hnone : hexDigit '+' = none := by decide +kernel
            rw [hplus, hnone] at hhigh
            exact absurd hhigh (by simp)
          have hbyte : UInt8.ofNat (16 * (b.toNat / 16) + b.toNat % 16) = b := by
            rw [Nat.div_add_mod, UInt8.ofNat_toNat]
          have hvalues : pairValues rest = some bytes := by
            apply pairValues_of_hexEncode
            rw [hrest, hexEncode, String.toList_ofList]
          rw [pairValues, pairValue, firstDigit, if_neg hplus, hhigh, hlow, Option.bind_some,
            Option.map_some, Option.bind_some, hbyte, hvalues, Option.map_some]
      | [], h => exact absurd h (by simp)
      | [_], h => exact absurd h (by simp)

theorem isHexText_of_isPairs : ∀ {l : List Char}, isPairs l = true → '+' ∉ l →
    l.length % 2 = 0 ∧ ∀ c ∈ l, isHexChar c = true
  | [], _, _ => by simp
  | [_], h, _ => by simp [isPairs] at h
  | hi :: lo :: rest, h, hplus => by
      simp only [isPairs, Bool.and_eq_true, Bool.or_eq_true, beq_iff_eq] at h
      obtain ⟨⟨hhi, hlo⟩, hrest⟩ := h
      simp only [List.mem_cons, not_or] at hplus
      obtain ⟨hlength, hall⟩ := isHexText_of_isPairs hrest hplus.2.2
      have hfirst : isHexChar hi = true := hhi.resolve_right fun heq => hplus.1 heq.symm
      refine ⟨?_, List.forall_mem_cons.2 ⟨hfirst, List.forall_mem_cons.2 ⟨hlo, hall⟩⟩⟩
      simp only [List.length_cons]
      omega

/-- **Hexadecimal notation, but for signs.** The text decodes as hexadecimal notation says, unless
it is made of pairs of which one starts with `+`: these decode instead of being rejected. -/
theorem decodeHex_exact (value : String) :
    DecodesAsHex value ↔ ¬ HasSignedPair (trim value) := by
  have hencoded : ∀ bytes, toAsciiLowercase (trim value) = hexEncode bytes →
      decodeHex value = .ok bytes := by
    intro bytes hbytes
    rw [decodeHex_eq_ok]
    apply pairValues_of_hexEncode
    rw [← toList_toAsciiLowercase, hbytes]
  have herror : (∃ message, decodeHex value = .error message) ↔
      isPairs (trim value).toList = false := by
    rw [← isSome_pairValues, Option.isSome_eq_false_iff, Option.isNone_iff_eq_none]
    cases hdecoded : decodeHex value with
    | ok bytes => simp [decodeHex_eq_ok.1 hdecoded]
    | error message =>
        refine iff_of_true ⟨message, rfl⟩ (Option.eq_none_iff_forall_ne_some.2 ?_)
        intro bytes hbytes
        rw [decodeHex_eq_ok.2 hbytes] at hdecoded
        exact absurd hdecoded (by simp)
  rw [DecodesAsHex, and_iff_right hencoded, herror, HasSignedPair]
  constructor
  · intro h hsigned
    have hnot : ¬ IsHexText (trim value) := by
      intro htext
      exact absurd (htext.2 '+' hsigned.2) (by decide)
    rw [h hnot] at hsigned
    exact absurd hsigned.1 (by simp)
  · intro hsigned hnot
    by_contra hpairs
    rw [Bool.not_eq_false] at hpairs
    apply hnot
    apply isHexText_of_isPairs hpairs
    intro hplus
    exact hsigned ⟨hpairs, hplus⟩

/-- A sign in front of a digit is accepted. -/
theorem not_decodesAsHex_signed : ¬ DecodesAsHex "+f" := by
  intro h
  have hnot : ¬ IsHexText (trim "+f") := by
    intro htext
    exact absurd (htext.2 '+' (by decide +kernel)) (by decide)
  obtain ⟨message, hmessage⟩ := h.2 hnot
  have hok : decodeHex "+f" = .ok [15] := by decide +kernel
  rw [hok] at hmessage
  exact absurd hmessage (by simp)

end DnsFilter.ZoneAuthority
