import DnsFilter.X509Proof

/-!
# Reading any bytes as a certificate

What the walk through a certificate accepts, as a grammar of its bytes (`Certificate`), and that no
bytes at all make it leave the range of a position.

* `notAfterField_eq_ok` — the walk finds the end of the validity period exactly in the bytes that
  the grammar describes.
* `parseX509NotAfter_safe` — no operation overflows, except on a certificate that is valid until
  the day 0 of March.
-/

namespace DnsFilter.X509

open Machine Utf8 Numeral Calendar

/-! ## Lengths -/

/-- A number in base 256, the most significant byte first. -/
def bigEndian (digits : List UInt8) : Nat := digits.foldl (fun n d => n * 256 + d.toNat) 0

/-- The bytes of a length: one below 128, or 128 plus the number of bytes of the length, which is
at most four. -/
inductive LengthBytes : Nat → List UInt8 → Prop
  | short {first : UInt8} (h : first.toNat < 0x80) : LengthBytes first.toNat [first]
  | long {first : UInt8} {digits : List UInt8} (h : first.toNat = 0x80 + digits.length)
      (hle : digits.length ≤ 4) : LengthBytes (bigEndian digits) (first :: digits)

theorem LengthBytes.ne_nil {n : Nat} {l : List UInt8} (h : LengthBytes n l) : l ≠ [] := by
  cases h <;> simp

theorem foldl_lt {l : List UInt8} {n k : Nat} (hn : n < 256 ^ k) :
    l.foldl (fun n d => n * 256 + d.toNat) n < 256 ^ (k + l.length) := by
  induction l generalizing n k with
  | nil => exact hn
  | cons d l ih =>
      have hd := d.toNat_lt
      have hnext : n * 256 + d.toNat < 256 ^ (k + 1) := by
        rw [Nat.pow_succ]
        omega
      have h := ih hnext
      rw [List.foldl_cons, List.length_cons, Nat.add_comm l.length 1, ← Nat.add_assoc]
      exact h

theorem LengthBytes.lt {n : Nat} {l : List UInt8} (h : LengthBytes n l) : n < 0x100000000 := by
  cases h with
  | short h => omega
  | long h hle =>
      calc bigEndian _ < 256 ^ (0 + _) := foldl_lt (by decide)
        _ ≤ 256 ^ 4 := Nat.pow_le_pow_right (by decide) (by omega)
        _ = 0x100000000 := by decide

theorem LengthBytes.length_le {n : Nat} {l : List UInt8} (h : LengthBytes n l) : l.length ≤ 5 := by
  cases h with
  | short h => exact Nat.le_add_left 1 4
  | long h hle => exact Nat.succ_le_succ hle

variable {der : Slice}

theorem get_eq_ok {pos : Nat} {b : UInt8} :
    der.get pos = .ok b ↔ ∃ rest, der.bytes.drop pos = b :: rest := by
  rw [Slice.get, ofOption_eq_ok, ← List.head?_drop, List.head?_eq_some_iff]

/-- One step of the loop: the length has at most three bytes before it, so nothing is shifted
out. -/
theorem readLengthBytes_succ {n len pos k : Nat} (hlen : len < 256 ^ k) (hk : k ≤ 3)
    (hpos : pos < 0x8000000300000000) :
    readLengthBytes der (n + 1) len pos =
      der.get pos >>= fun byte => readLengthBytes der n (len * 256 + byte.toNat) (pos + 1) := by
  have hsmall : len < 16777216 := lt_of_lt_of_le hlen (Nat.pow_le_pow_right (by decide) hk)
  rw [readLengthBytes]
  cases der.get pos with
  | error e => rfl
  | ok byte =>
      have hbyte := byte.toNat_lt
      have hmod : len * 256 % 0x10000000000000000 = len * 256 := Nat.mod_eq_of_lt (by omega)
      have hsum : len * 256 + byte.toNat < 0x10000000000000000 := by omega
      rw [ok_bind, ok_bind, hmod]
      dsimp only
      rw [if_pos hsum, ok_bind, u64_eq (by omega), ok_bind]

theorem safe_get (pos : Nat) : Safe (der.get pos) := safe_ofOption _

theorem readLengthBytes_safe {n len pos k : Nat} (hlen : len < 256 ^ k) (hk : k + n ≤ 4)
    (hpos : pos + n < 0x8000000300000000) : Safe (readLengthBytes der n len pos) := by
  induction n generalizing len pos k with
  | zero => exact safe_ok _
  | succ n ih =>
      rw [readLengthBytes_succ hlen (by omega) (by omega)]
      apply safe_bind (safe_get pos)
      intro byte hbyte
      have hb := byte.toNat_lt
      refine @ih _ _ (k + 1) ?_ (by omega) (by omega)
      rw [Nat.pow_succ]
      omega

/-- The loop reads the given number of bytes. -/
theorem readLengthBytes_eq_ok {n len pos k len' pos' : Nat} (hlen : len < 256 ^ k) (hk : k + n ≤ 4)
    (hpos : pos + n < 0x8000000300000000) :
    readLengthBytes der n len pos = .ok (len', pos') ↔
      ∃ digits rest, der.bytes.drop pos = digits ++ rest ∧ digits.length = n ∧
        len' = digits.foldl (fun n d => n * 256 + d.toNat) len ∧ pos' = pos + n := by
  induction n generalizing len pos k with
  | zero =>
      rw [readLengthBytes, Except.ok.injEq, Prod.mk.injEq]
      constructor
      · intro h
        exact ⟨[], _, rfl, rfl, h.1.symm, h.2.symm⟩
      · intro h
        obtain ⟨digits, rest, -, hlength, hvalue, hpos'⟩ := h
        obtain rfl := List.length_eq_zero_iff.1 hlength
        exact ⟨hvalue.symm, hpos'.symm⟩
  | succ n ih =>
      have hnext (byte : UInt8) : len * 256 + byte.toNat < 256 ^ (k + 1) := by
        have hb := byte.toNat_lt
        rw [Nat.pow_succ]
        omega
      rw [readLengthBytes_succ hlen (by omega) (by omega), bind_eq_ok]
      constructor
      · intro h
        obtain ⟨byte, hbyte, h⟩ := h
        obtain ⟨rest, hrest⟩ := get_eq_ok.1 hbyte
        obtain ⟨digits, rest', hdrop, hlength, hvalue, hpos'⟩ :=
          (ih (hnext byte) (by omega) (by omega)).1 h
        refine ⟨byte :: digits, rest', ?_, by rw [List.length_cons, hlength], hvalue, by omega⟩
        rw [← List.drop_drop, hrest] at hdrop
        rw [hrest, List.cons_append, ← hdrop]
        rfl
      · intro h
        obtain ⟨digits, rest, hdrop, hlength, hvalue, hpos'⟩ := h
        match digits, hlength, hdrop, hvalue with
        | byte :: digits, hlength, hdrop, hvalue =>
            refine ⟨byte, get_eq_ok.2 ⟨_, hdrop⟩, ?_⟩
            refine (ih (hnext byte) (by omega) (by omega)).2 ⟨digits, rest, ?_,
              Nat.succ.inj hlength, hvalue, by omega⟩
            rw [← List.drop_drop, hdrop]
            rfl

/-- The low seven bits of a byte from 128 on. -/
theorem toNat_and_seven {first : UInt8} (h : 0x80 ≤ first.toNat) :
    (first &&& 0x7F).toNat = first.toNat - 0x80 := by
  have hlt := first.toNat_lt
  rw [UInt8.toNat_and]
  show first.toNat &&& (2 ^ 7 - 1) = _
  rw [Nat.and_two_pow_sub_one_eq_mod]
  omega

theorem parseAsn1Length_safe {pos : Nat} (hpos : pos < 0x8000000200000000) :
    Safe (parseAsn1Length der pos) := by
  apply safe_bind (safe_get pos)
  intro first hfirst
  rw [u64_eq (by omega), ok_bind]
  by_cases hshort : first.toNat < 0x80
  · rw [if_pos hshort]
    exact safe_ok _
  · rw [if_neg hshort]
    dsimp only
    by_cases hmany : 4 < (first &&& 0x7F).toNat
    · rw [if_pos hmany]
      exact safe_absent
    · rw [if_neg hmany]
      exact @readLengthBytes_safe der _ 0 (pos + 1) 0 (by decide) (by omega) (by omega)

/-- What is read as a length. -/
theorem parseAsn1Length_eq_ok {pos len pos' : Nat} (hpos : pos < 0x8000000200000000) :
    parseAsn1Length der pos = .ok (len, pos') ↔
      ∃ octets rest, der.bytes.drop pos = octets ++ rest ∧ LengthBytes len octets ∧
        pos' = pos + octets.length := by
  unfold parseAsn1Length
  rw [bind_eq_ok]
  constructor
  · intro h
    obtain ⟨first, hfirst, h⟩ := h
    obtain ⟨rest, hrest⟩ := get_eq_ok.1 hfirst
    rw [u64_eq (by omega), ok_bind] at h
    by_cases hshort : first.toNat < 0x80
    · rw [if_pos hshort] at h
      obtain ⟨rfl, rfl⟩ := Prod.mk.inj (Except.ok.inj h)
      exact ⟨[first], rest, hrest, .short hshort, rfl⟩
    · rw [if_neg hshort] at h
      dsimp only at h
      by_cases hmany : 4 < (first &&& 0x7F).toNat
      · rw [if_pos hmany] at h
        exact absurd h (by simp)
      · rw [if_neg hmany] at h
        obtain ⟨digits, rest', hdrop, hlength, rfl, rfl⟩ :=
          (@readLengthBytes_eq_ok der _ 0 (pos + 1) 0 _ _ (by decide) (by omega) (by omega)).1 h
        have hseven := toNat_and_seven (not_lt.1 hshort)
        refine ⟨first :: digits, rest', ?_, .long (by omega) (by omega), ?_⟩
        · rw [← List.drop_drop, hrest] at hdrop
          rw [hrest, List.cons_append, ← hdrop]
          rfl
        · rw [List.length_cons]
          omega
  · intro h
    obtain ⟨octets, rest, hdrop, hoctets, rfl⟩ := h
    cases hoctets with
    | short hshort =>
        rename_i first
        refine ⟨first, get_eq_ok.2 ⟨rest, hdrop⟩, ?_⟩
        rw [u64_eq (by omega), ok_bind, if_pos hshort]
        rfl
    | long hlong hle =>
        rename_i first digits
        refine ⟨first, get_eq_ok.2 ⟨digits ++ rest, hdrop⟩, ?_⟩
        have hseven := @toNat_and_seven first (by omega)
        rw [u64_eq (by omega), ok_bind, if_neg (by omega)]
        dsimp only
        rw [if_neg (by omega)]
        refine (@readLengthBytes_eq_ok der _ 0 (pos + 1) 0 _ _ (by decide) (by omega)
          (by omega)).2 ⟨digits, rest, ?_, by omega, rfl, ?_⟩
        · rw [← List.drop_drop, hdrop]
          rfl
        · rw [List.length_cons]
          omega

/-! ## Elements -/

/-- The tag and the length of an element. -/
def Header (tag : UInt8) (bytes : List UInt8) : Prop :=
  ∃ len octets, bytes = tag :: octets ∧ LengthBytes len octets

/-- An element: a tag, a length and as many bytes as that says. -/
def Tlv (tag : UInt8) (bytes : List UInt8) : Prop :=
  ∃ octets content, bytes = tag :: (octets ++ content) ∧ LengthBytes content.length octets

section Elements

variable {front back : List UInt8} {pos' : Nat}

theorem front_length_lt (h : der.bytes = front ++ back) : front.length < 0x8000000000000000 := by
  have hlt := der.length_lt
  rw [h, List.length_append] at hlt
  omega

theorem drop_front (h : der.bytes = front ++ back) : der.bytes.drop front.length = back := by
  rw [h, List.drop_left]

theorem parseAsn1Length_at {len : Nat} (h : der.bytes = front ++ back) :
    parseAsn1Length der front.length = .ok (len, pos') ↔
      ∃ octets rest, back = octets ++ rest ∧ LengthBytes len octets ∧
        pos' = (front ++ octets).length := by
  have hfront := front_length_lt h
  rw [parseAsn1Length_eq_ok (by omega), drop_front h]
  simp only [List.length_append]

theorem get_at {b : UInt8} (h : der.bytes = front ++ back) :
    der.get front.length = .ok b ↔ ∃ rest, back = b :: rest := by
  rw [get_eq_ok, drop_front h]

/-- Behind the tag. -/
theorem parseAsn1Length_behind {tag : UInt8} {rest : List UInt8} {len : Nat}
    (h : der.bytes = front ++ tag :: rest) :
    parseAsn1Length der (front.length + 1) = .ok (len, pos') ↔
      ∃ octets rest', rest = octets ++ rest' ∧ LengthBytes len octets ∧
        pos' = (front ++ tag :: octets).length := by
  have hbehind : der.bytes = (front ++ [tag]) ++ rest := by
    rw [h, List.append_assoc]
    rfl
  have hiff := @parseAsn1Length_at der (front ++ [tag]) rest pos' len hbehind
  rw [List.length_append] at hiff
  rw [show front.length + 1 = front.length + [tag].length from rfl, hiff]
  simp only [List.append_assoc, List.singleton_append]

/-- What is skipped as a tag and a length. -/
theorem skipTagAndLength_eq_ok {tag : UInt8} (h : der.bytes = front ++ back) :
    skipTagAndLength der front.length tag = .ok pos' ↔
      ∃ header rest, back = header ++ rest ∧ Header tag header ∧
        pos' = (front ++ header).length := by
  have hfront := front_length_lt h
  unfold skipTagAndLength
  rw [bind_eq_ok]
  constructor
  · intro hskip
    obtain ⟨first, hfirst, hskip⟩ := hskip
    obtain ⟨rest, rfl⟩ := (get_at h).1 hfirst
    by_cases htag : first ≠ tag
    · rw [if_pos htag] at hskip
      exact absurd hskip (by simp)
    · obtain rfl : first = tag := not_not.1 htag
      rw [if_neg htag, u64_eq (by omega), ok_bind] at hskip
      obtain ⟨⟨len, pos⟩, hlength, hskip⟩ := bind_eq_ok.1 hskip
      obtain rfl : pos = pos' := Except.ok.inj hskip
      obtain ⟨octets, rest', rfl, hoctets, hpos⟩ := (parseAsn1Length_behind h).1 hlength
      exact ⟨first :: octets, rest', rfl, ⟨len, octets, rfl, hoctets⟩, hpos⟩
  · intro hheader
    obtain ⟨header, rest, rfl, ⟨len, octets, rfl, hoctets⟩, hpos⟩ := hheader
    refine ⟨tag, (get_at h).2 ⟨octets ++ rest, rfl⟩, ?_⟩
    rw [if_neg (not_not.2 rfl), u64_eq (by omega), ok_bind,
      (parseAsn1Length_behind h).2 ⟨octets, rest, rfl, hoctets, hpos⟩, ok_bind]
    rfl

/-- What is skipped as an element, if its end is still inside. -/
theorem skipTlv_eq_ok (h : der.bytes = front ++ back) :
    skipTlv der front.length = .ok pos' ∧ pos' ≤ der.bytes.length ↔
      ∃ tag element rest, back = element ++ rest ∧ Tlv tag element ∧
        pos' = (front ++ element).length := by
  have hfront := front_length_lt h
  have hlength := congrArg List.length h
  rw [List.length_append] at hlength
  unfold skipTlv
  rw [u64_eq (by omega), ok_bind]
  constructor
  · intro hskip
    obtain ⟨hskip, hinside⟩ := hskip
    obtain ⟨⟨len, pos⟩, hlen, hskip⟩ := bind_eq_ok.1 hskip
    match back, h with
    | [], h =>
        have hnone := (parseAsn1Length_eq_ok (by omega)).1 hlen
        obtain ⟨octets, rest, hdrop, hoctets, -⟩ := hnone
        rw [List.drop_eq_nil_of_le (by rw [h, List.append_nil]; omega)] at hdrop
        exact absurd (List.append_eq_nil_iff.1 hdrop.symm).1 hoctets.ne_nil
    | tag :: rest, h =>
        obtain ⟨octets, rest', rfl, hoctets, rfl⟩ := (parseAsn1Length_behind h).1 hlen
        have hlt := hoctets.lt
        have hle := hoctets.length_le
        dsimp only at hskip
        rw [u64_eq (by simp only [List.length_append, List.length_cons]; omega)] at hskip
        obtain rfl := Except.ok.inj hskip
        simp only [List.length_append, List.length_cons] at hinside hlength
        refine ⟨tag, tag :: (octets ++ rest'.take len), rest'.drop len, ?_,
          ⟨octets, rest'.take len, rfl, ?_⟩, ?_⟩
        · rw [List.cons_append, List.append_assoc, List.take_append_drop]
        · rw [List.length_take, Nat.min_eq_left (by omega)]
          exact hoctets
        · simp only [List.length_append, List.length_cons, List.length_take]
          omega
  · intro helement
    obtain ⟨tag, element, rest, rfl, ⟨octets, content, rfl, hoctets⟩, hpos⟩ := helement
    have hlt := hoctets.lt
    have hle := hoctets.length_le
    have hbehind := (@parseAsn1Length_behind der front _ tag (octets ++ content ++ rest) _ h).2
      ⟨octets, content ++ rest, List.append_assoc _ _ _, hoctets, rfl⟩
    simp only [List.length_append, List.length_cons] at hpos hlength
    rw [hbehind, ok_bind]
    dsimp only
    rw [u64_eq (by simp only [List.length_append, List.length_cons]; omega)]
    simp only [List.length_append, List.length_cons, Except.ok.injEq]
    omega

end Elements

/-! ## Positions -/

section Positions

variable {pos pos' : Nat}

theorem get_bounds {b : UInt8} (h : der.get pos = .ok b) : pos < der.bytes.length := by
  obtain ⟨rest, hdrop⟩ := get_eq_ok.1 h
  have hlength := congrArg List.length hdrop
  rw [List.length_drop, List.length_cons] at hlength
  omega

theorem parseAsn1Length_bounds {len : Nat} (hpos : pos < 0x8000000200000000)
    (h : parseAsn1Length der pos = .ok (len, pos')) :
    pos < pos' ∧ pos' ≤ der.bytes.length ∧ len < 0x100000000 := by
  obtain ⟨octets, rest, hdrop, hoctets, rfl⟩ := (parseAsn1Length_eq_ok hpos).1 h
  have hlength := congrArg List.length hdrop
  have hone := List.length_pos_iff.2 hoctets.ne_nil
  rw [List.length_drop, List.length_append] at hlength
  exact ⟨by omega, by omega, hoctets.lt⟩

theorem skipTagAndLength_safe {tag : UInt8} (hpos : pos < 0x8000000100000000) :
    Safe (skipTagAndLength der pos tag) := by
  apply safe_bind (safe_get pos)
  intro first hfirst
  by_cases htag : first ≠ tag
  · rw [if_pos htag]
    exact safe_absent
  · rw [if_neg htag, u64_eq (by omega), ok_bind]
    apply safe_bind (parseAsn1Length_safe (by omega))
    intro p hp
    exact safe_ok _

theorem skipTagAndLength_bounds {tag : UInt8} (hpos : pos < 0x8000000100000000)
    (h : skipTagAndLength der pos tag = .ok pos') :
    pos < der.bytes.length ∧ pos' ≤ der.bytes.length := by
  obtain ⟨first, hfirst, h⟩ := bind_eq_ok.1 h
  refine ⟨get_bounds hfirst, ?_⟩
  by_cases htag : first ≠ tag
  · rw [if_pos htag] at h
    exact absurd h (by simp)
  · rw [if_neg htag, u64_eq (by omega), ok_bind] at h
    obtain ⟨⟨len, pos₁⟩, hlength, h⟩ := bind_eq_ok.1 h
    obtain rfl : pos₁ = pos' := Except.ok.inj h
    exact (parseAsn1Length_bounds (by omega) hlength).2.1

theorem skipTlv_safe (hpos : pos < 0x8000000100000000) : Safe (skipTlv der pos) := by
  unfold skipTlv
  rw [u64_eq (by omega), ok_bind]
  apply safe_bind (parseAsn1Length_safe (by omega))
  intro p hp
  have hlt := der.length_lt
  obtain ⟨-, hinside, hlen⟩ := parseAsn1Length_bounds (by omega) hp
  dsimp only
  rw [u64_eq (by omega)]
  exact safe_ok _

/-- An element that is skipped starts inside, and its end is not far outside. -/
theorem skipTlv_bounds (hpos : pos < 0x8000000100000000) (h : skipTlv der pos = .ok pos') :
    pos < der.bytes.length ∧ pos' < 0x8000000100000000 := by
  have hlt := der.length_lt
  unfold skipTlv at h
  rw [u64_eq (by omega), ok_bind] at h
  obtain ⟨⟨len, pos₁⟩, hlength, h⟩ := bind_eq_ok.1 h
  obtain ⟨hstart, hinside, hlen⟩ := parseAsn1Length_bounds (by omega) hlength
  dsimp only at h
  rw [u64_eq (by omega)] at h
  obtain rfl := Except.ok.inj h
  omega

theorem skipVersion_safe {first : UInt8} (hpos : pos < 0x8000000100000000) :
    Safe (if first = 0xA0 then skipTlv der pos else .ok pos) := by
  by_cases hfirst : first = 0xA0
  · rw [if_pos hfirst]
    exact skipTlv_safe hpos
  · rw [if_neg hfirst]
    exact safe_ok _

theorem skipVersion_bounds {first : UInt8} (hpos : pos < 0x8000000100000000)
    (h : (if first = 0xA0 then skipTlv der pos else .ok pos) = .ok pos') :
    pos' < 0x8000000100000000 := by
  by_cases hfirst : first = 0xA0
  · rw [if_pos hfirst] at h
    exact (skipTlv_bounds hpos h).2
  · rw [if_neg hfirst] at h
    obtain rfl := Except.ok.inj h
    exact hpos

/-- No position overflows on the way to the end of the validity period. -/
theorem notAfterField_safe : Safe (notAfterField der) := by
  have hlt := der.length_lt
  apply safe_bind (skipTagAndLength_safe (by decide))
  intro pos₁ h₁
  have hb₁ := skipTagAndLength_bounds (by decide) h₁
  apply safe_bind (skipTagAndLength_safe (by omega))
  intro pos₂ h₂
  have hb₂ := skipTagAndLength_bounds (by omega) h₂
  apply safe_bind (safe_get pos₂)
  intro first hfirst
  apply safe_bind (skipVersion_safe (by omega))
  intro pos₃ h₃
  have hb₃ := skipVersion_bounds (by omega) h₃
  apply safe_bind (skipTlv_safe hb₃)
  intro pos₄ h₄
  apply safe_bind (skipTlv_safe (skipTlv_bounds hb₃ h₄).2)
  intro pos₅ h₅
  have hb₅ := (skipTlv_bounds (skipTlv_bounds hb₃ h₄).2 h₅).2
  apply safe_bind (skipTlv_safe hb₅)
  intro pos₆ h₆
  have hb₆ := (skipTlv_bounds hb₅ h₆).2
  apply safe_bind (skipTagAndLength_safe hb₆)
  intro pos₇ h₇
  have hb₇ := skipTagAndLength_bounds hb₆ h₇
  apply safe_bind (skipTlv_safe (by omega))
  intro pos₈ h₈
  apply safe_bind (safe_get pos₈)
  intro tag htag
  have hb₈ := get_bounds htag
  rw [u64_eq (by omega), ok_bind]
  apply safe_bind (parseAsn1Length_safe (by omega))
  intro p hp
  obtain ⟨-, hinside, hlen⟩ := parseAsn1Length_bounds (by omega) hp
  dsimp only
  rw [u64_eq (by omega), ok_bind]
  have hrange : Safe (der.getRange p.2 (p.2 + p.1)) := by
    unfold Slice.getRange
    split_ifs
    · exact safe_ok _
    · exact safe_absent
  apply safe_bind hrange
  intro bytes hbytes
  exact safe_ok _

end Positions

/-! ## Certificates -/

/-- The bytes of a certificate, cut at what the walk skips. The version may be missing; otherwise
it is recognised by its tag. -/
structure Certificate where
  outer : List UInt8
  tbs : List UInt8
  version : List UInt8
  serial : List UInt8
  signature : List UInt8
  issuer : List UInt8
  validity : List UInt8
  notBefore : List UInt8
  tag : UInt8
  octets : List UInt8
  time : List UInt8
  rest : List UInt8
  outer_header : Header 0x30 outer
  tbs_header : Header 0x30 tbs
  version_serial : (version = [] ∧ ∃ t, t ≠ 0xA0 ∧ Tlv t serial) ∨
    (Tlv 0xA0 version ∧ ∃ t, Tlv t serial)
  signature_tlv : ∃ t, Tlv t signature
  issuer_tlv : ∃ t, Tlv t issuer
  validity_header : Header 0x30 validity
  notBefore_tlv : ∃ t, Tlv t notBefore
  time_length : LengthBytes time.length octets

def Certificate.bytes (c : Certificate) : List UInt8 :=
  c.outer ++ c.tbs ++ c.version ++ c.serial ++ c.signature ++ c.issuer ++ c.validity ++
    c.notBefore ++ c.tag :: (c.octets ++ c.time ++ c.rest)

section Walk

variable {front back : List UInt8} {pos' : Nat}

theorem Tlv.head_eq {tag first : UInt8} {element rest rest' : List UInt8} (h : Tlv tag element)
    (heq : element ++ rest = first :: rest') : first = tag := by
  obtain ⟨octets, content, rfl, -⟩ := h
  exact (List.cons.inj heq).1.symm

theorem exists_of_skipTagAndLength {tag : UInt8} (h : der.bytes = front ++ back)
    (hskip : skipTagAndLength der front.length tag = .ok pos') :
    ∃ header rest, der.bytes = front ++ header ++ rest ∧ Header tag header ∧
      pos' = (front ++ header).length := by
  obtain ⟨header, rest, rfl, hheader, hpos⟩ := (skipTagAndLength_eq_ok h).1 hskip
  exact ⟨header, rest, by rw [h, List.append_assoc], hheader, hpos⟩

theorem exists_of_skipTlv (h : der.bytes = front ++ back)
    (hskip : skipTlv der front.length = .ok pos') (hinside : pos' ≤ der.bytes.length) :
    ∃ tag element rest, der.bytes = front ++ element ++ rest ∧ back = element ++ rest ∧
      Tlv tag element ∧ pos' = (front ++ element).length := by
  obtain ⟨tag, element, rest, rfl, helement, hpos⟩ := (skipTlv_eq_ok h).1 ⟨hskip, hinside⟩
  exact ⟨tag, element, rest, by rw [h, List.append_assoc], rfl, helement, hpos⟩

theorem append_cons_append (l : List UInt8) (b : UInt8) (l₁ l₂ : List UInt8) :
    l ++ b :: (l₁ ++ l₂) = l ++ b :: l₁ ++ l₂ := by
  rw [List.append_assoc, List.cons_append]

theorem getRange_at (h : der.bytes = front ++ back) {len : Nat} {bytes : List UInt8} :
    der.getRange front.length (front.length + len) = .ok bytes ↔
      ∃ rest, back = bytes ++ rest ∧ bytes.length = len := by
  have hlength := congrArg List.length h
  rw [List.length_append] at hlength
  unfold Slice.getRange
  rw [drop_front h, Nat.add_sub_cancel_left]
  constructor
  · intro hrange
    by_cases hinside : front.length ≤ front.length + len ∧ front.length + len ≤ der.bytes.length
    · rw [if_pos hinside] at hrange
      obtain rfl := Except.ok.inj hrange
      refine ⟨back.drop len, (List.take_append_drop len back).symm, ?_⟩
      rw [List.length_take]
      omega
    · rw [if_neg hinside] at hrange
      exact absurd hrange (by simp)
  · intro hbytes
    obtain ⟨rest, rfl, rfl⟩ := hbytes
    rw [List.length_append] at hlength
    rw [if_pos (by omega), List.take_left]

/-- The version is skipped if its tag is there, and the serial number has another tag if not. -/
theorem exists_of_version {first : UInt8} (h : der.bytes = front ++ back)
    (hfirst : der.get front.length = .ok first)
    (hskip : (if first = 0xA0 then skipTlv der front.length else .ok front.length) = .ok pos')
    (hinside : pos' ≤ der.bytes.length) :
    ∃ version rest, der.bytes = front ++ version ++ rest ∧ pos' = (front ++ version).length ∧
      ∀ {t serial rest'}, rest = serial ++ rest' → Tlv t serial →
        (version = [] ∧ ∃ t, t ≠ 0xA0 ∧ Tlv t serial) ∨ (Tlv 0xA0 version ∧ ∃ t, Tlv t serial) := by
  obtain ⟨rest, rfl⟩ := (get_at h).1 hfirst
  by_cases hversion : first = 0xA0
  · rw [if_pos hversion] at hskip
    obtain ⟨t, version, rest', hd, hback, hversion', hpos⟩ := exists_of_skipTlv h hskip hinside
    obtain rfl := hversion'.head_eq hback.symm
    refine ⟨version, rest', hd, hpos, ?_⟩
    intro t serial _ _ hserial
    exact .inr ⟨hversion ▸ hversion', t, hserial⟩
  · rw [if_neg hversion] at hskip
    refine ⟨[], first :: rest, by rw [h, List.append_nil], ?_, ?_⟩
    · rw [List.append_nil]
      exact (Except.ok.inj hskip).symm
    · intro t serial _ hrest hserial
      obtain rfl := hserial.head_eq hrest.symm
      exact .inl ⟨rfl, first, hversion, hserial⟩

theorem skipVersion_of_certificate {version serial rest : List UInt8}
    (h : der.bytes = front ++ (version ++ (serial ++ rest)))
    (hversion : (version = [] ∧ ∃ t, t ≠ 0xA0 ∧ Tlv t serial) ∨
      (Tlv 0xA0 version ∧ ∃ t, Tlv t serial)) :
    ∃ first : UInt8, der.get front.length = .ok first ∧
      (if first = 0xA0 then skipTlv der front.length else .ok front.length) =
        .ok (front ++ version).length := by
  rcases hversion with ⟨rfl, t, ht, ⟨octets, content, rfl, -⟩⟩ | ⟨htlv, -⟩
  · refine ⟨t, (get_at h).2 ⟨_, rfl⟩, ?_⟩
    rw [if_neg ht, List.append_nil]
  · refine ⟨0xA0, ?_, ?_⟩
    · obtain ⟨octets, content, rfl, -⟩ := htlv
      exact (get_at h).2 ⟨_, rfl⟩
    · rw [if_pos rfl]
      exact ((skipTlv_eq_ok h).2 ⟨0xA0, version, _, rfl, htlv, rfl⟩).1

/-- What the walk gets through is a certificate. -/
theorem exists_certificate_of_notAfterField {tag : UInt8} {time : List UInt8}
    (h : notAfterField der = .ok (tag, time)) :
    ∃ c : Certificate, c.bytes = der.bytes ∧ c.tag = tag ∧ c.time = time := by
  have hlt := der.length_lt
  obtain ⟨pos₁, h₁, h⟩ := bind_eq_ok.1 h
  obtain ⟨outer, r₁, hd₁, houter, rfl⟩ := @exists_of_skipTagAndLength der [] _ _ _ rfl h₁
  rw [List.nil_append] at hd₁ h
  obtain ⟨pos₂, h₂, h⟩ := bind_eq_ok.1 h
  obtain ⟨tbs, r₂, hd₂, htbs, rfl⟩ := exists_of_skipTagAndLength hd₁ h₂
  obtain ⟨first, hfirst, h⟩ := bind_eq_ok.1 h
  obtain ⟨pos₃, h₃, h⟩ := bind_eq_ok.1 h
  obtain ⟨pos₄, h₄, h⟩ := bind_eq_ok.1 h
  obtain ⟨pos₅, h₅, h⟩ := bind_eq_ok.1 h
  obtain ⟨pos₆, h₆, h⟩ := bind_eq_ok.1 h
  obtain ⟨pos₇, h₇, h⟩ := bind_eq_ok.1 h
  obtain ⟨pos₈, h₈, h⟩ := bind_eq_ok.1 h
  obtain ⟨tag', htag, h⟩ := bind_eq_ok.1 h
  have hb₂ : (outer ++ tbs).length < 0x8000000100000000 :=
    lt_trans (front_length_lt hd₂) (by decide)
  have hb₃ := skipVersion_bounds hb₂ h₃
  have hb₄ := skipTlv_bounds hb₃ h₄
  have hb₅ := skipTlv_bounds hb₄.2 h₅
  have hb₆ := skipTlv_bounds hb₅.2 h₆
  have hb₇ := skipTagAndLength_bounds hb₆.2 h₇
  have hb₈ := get_bounds htag
  obtain ⟨version, r₃, hd₃, rfl, hversion⟩ := exists_of_version hd₂ hfirst h₃ (by omega)
  obtain ⟨t₄, serial, r₄, hd₄, hr₃, hserial, rfl⟩ := exists_of_skipTlv hd₃ h₄ (by omega)
  obtain ⟨t₅, signature, r₅, hd₅, -, hsignature, rfl⟩ := exists_of_skipTlv hd₄ h₅ (by omega)
  obtain ⟨t₆, issuer, r₆, hd₆, -, hissuer, rfl⟩ := exists_of_skipTlv hd₅ h₆ (by omega)
  obtain ⟨validity, r₇, hd₇, hvalidity, rfl⟩ := exists_of_skipTagAndLength hd₆ h₇
  obtain ⟨t₈, notBefore, r₈, hd₈, -, hnotBefore, rfl⟩ := exists_of_skipTlv hd₇ h₈ (by omega)
  obtain ⟨r₉, rfl⟩ := (get_at hd₈).1 htag
  rw [u64_eq (by omega), ok_bind] at h
  obtain ⟨⟨len, pos₉⟩, h₉, h⟩ := bind_eq_ok.1 h
  obtain ⟨octets, r₁₀, rfl, hoctets, rfl⟩ := (parseAsn1Length_behind hd₈).1 h₉
  have hlen := (parseAsn1Length_bounds (by omega) h₉).2
  dsimp only at h
  rw [u64_eq (by omega), ok_bind] at h
  obtain ⟨bytes, hbytes, h⟩ := bind_eq_ok.1 h
  obtain ⟨rfl, rfl⟩ := Prod.mk.inj (Except.ok.inj h)
  have hd₉ := hd₈.trans (append_cons_append _ tag' octets r₁₀)
  obtain ⟨rest, rfl, rfl⟩ := (getRange_at hd₉).1 hbytes
  refine ⟨⟨outer, tbs, version, serial, signature, issuer, validity, notBefore, tag', octets,
    bytes, rest, houter, htbs, hversion hr₃ hserial, ⟨t₅, hsignature⟩, ⟨t₆, hissuer⟩, hvalidity,
    ⟨t₈, hnotBefore⟩, hoctets⟩, ?_, rfl, rfl⟩
  rw [Certificate.bytes, hd₈, List.append_assoc octets]

/-- The walk gets through a certificate. -/
theorem notAfterField_certificate (c : Certificate) (hbytes : c.bytes = der.bytes) :
    notAfterField der = .ok (c.tag, c.time) := by
  have hlt := der.length_lt
  have hd₈ : der.bytes = c.outer ++ c.tbs ++ c.version ++ c.serial ++ c.signature ++ c.issuer ++
      c.validity ++ c.notBefore ++ c.tag :: (c.octets ++ c.time ++ c.rest) := hbytes.symm
  have hd₇ := hd₈.trans (List.append_assoc _ _ _)
  have hd₆ := hd₇.trans (List.append_assoc _ _ _)
  have hd₅ := hd₆.trans (List.append_assoc _ _ _)
  have hd₄ := hd₅.trans (List.append_assoc _ _ _)
  have hd₃ := hd₄.trans (List.append_assoc _ _ _)
  have hd₂ := hd₃.trans (List.append_assoc _ _ _)
  have hd₁ := hd₂.trans (List.append_assoc _ _ _)
  have h₁ : skipTagAndLength der 0 0x30 = .ok c.outer.length :=
    (@skipTagAndLength_eq_ok der [] _ _ _ hd₁).2 ⟨c.outer, _, rfl, c.outer_header, rfl⟩
  have h₂ := (skipTagAndLength_eq_ok hd₁).2 ⟨c.tbs, _, rfl, c.tbs_header, rfl⟩
  obtain ⟨first, hfirst, h₃⟩ := skipVersion_of_certificate hd₂ c.version_serial
  obtain ⟨t₄, hserial⟩ : ∃ t, Tlv t c.serial := by
    rcases c.version_serial with ⟨-, t, -, h⟩ | ⟨-, t, h⟩
    · exact ⟨t, h⟩
    · exact ⟨t, h⟩
  obtain ⟨t₅, hsignature⟩ := c.signature_tlv
  obtain ⟨t₆, hissuer⟩ := c.issuer_tlv
  obtain ⟨t₈, hnotBefore⟩ := c.notBefore_tlv
  have h₄ := ((skipTlv_eq_ok hd₃).2 ⟨t₄, c.serial, _, rfl, hserial, rfl⟩).1
  have h₅ := ((skipTlv_eq_ok hd₄).2 ⟨t₅, c.signature, _, rfl, hsignature, rfl⟩).1
  have h₆ := ((skipTlv_eq_ok hd₅).2 ⟨t₆, c.issuer, _, rfl, hissuer, rfl⟩).1
  have h₇ := (skipTagAndLength_eq_ok hd₆).2 ⟨c.validity, _, rfl, c.validity_header, rfl⟩
  have h₈ := ((skipTlv_eq_ok hd₇).2 ⟨t₈, c.notBefore, _, rfl, hnotBefore, rfl⟩).1
  have htag := (get_at hd₈).2 ⟨_, rfl⟩
  have h₉ := (parseAsn1Length_behind hd₈).2 ⟨c.octets, _, List.append_assoc _ _ _,
    c.time_length, rfl⟩
  have hlength := congrArg List.length hd₈
  simp only [List.length_append, List.length_cons] at hlength
  rw [List.append_assoc c.octets] at hd₈
  have hd₉ := hd₈.trans (append_cons_append _ c.tag _ (c.time ++ c.rest))
  have hrange := (getRange_at hd₉).2 ⟨c.rest, rfl, rfl⟩
  unfold notAfterField
  rw [h₁, ok_bind, h₂, ok_bind, hfirst, ok_bind, h₃, ok_bind, h₄, ok_bind, h₅, ok_bind, h₆,
    ok_bind, h₇, ok_bind, h₈, ok_bind, htag, ok_bind,
    u64_eq (by simp only [List.length_append]; omega), ok_bind, h₉, ok_bind]
  dsimp only
  rw [u64_eq (by simp only [List.length_append, List.length_cons]; omega), ok_bind, hrange]
  rfl

/-- **What the walk accepts.** -/
theorem notAfterField_eq_ok {tag : UInt8} {time : List UInt8} :
    notAfterField der = .ok (tag, time) ↔
      ∃ c : Certificate, c.bytes = der.bytes ∧ c.tag = tag ∧ c.time = time := by
  refine ⟨exists_certificate_of_notAfterField, ?_⟩
  intro h
  obtain ⟨c, hbytes, rfl, rfl⟩ := h
  exact notAfterField_certificate c hbytes

end Walk

/-! ## The day 0 of March -/

/-- A certificate whose validity ends on the day 0 of March of some year, in one of the two
notations of a time. -/
def EndsOnMarchZero (der : List UInt8) : Prop :=
  ∃ (c : Certificate) (x : TimeText) (t : TimeFields), c.bytes = der ∧
    x.text.toUTF8.toList = c.time ∧ x.Denotes c.tag t ∧ t.month = 3 ∧ t.day = 0

theorem safe_number (s : String) (start stop : Nat) : Safe (number s start stop) := safe_ofOption _

theorem yearField_safe (tag : UInt8) (s : String) : Safe (yearField tag s) := by
  unfold yearField
  by_cases hutc : tag = 0x17
  · rw [if_pos hutc]
    apply safe_bind (safe_number s 0 2)
    intro y hy
    obtain ⟨text, rest, -, htext⟩ := (@number_eq_ok "" s 0 2 y rfl).1 (by rwa [String.empty_append])
    have hlt : y < 100 := isNumber_lt htext
    have hyear : Safe (if 50 ≤ y then u32 (1900 + y : Nat) else u32 (2000 + y : Nat)) := by
      rw [u32_eq (by omega), u32_eq (by omega)]
      split_ifs <;> exact safe_ok _
    apply safe_bind hyear
    intro year _
    apply safe_bind (safe_ofOption _)
    intro rest _
    exact safe_ok _
  · rw [if_neg hutc]
    by_cases hgeneralized : tag = 0x18
    · rw [if_pos hgeneralized]
      apply safe_bind (safe_number s 0 4)
      intro year _
      apply safe_bind (safe_ofOption _)
      intro rest _
      exact safe_ok _
    · rw [if_neg hgeneralized]
      exact safe_absent

theorem timeFields_safe (tag : UInt8) (bytes : List UInt8) : Safe (timeFields tag bytes) := by
  apply safe_bind (safe_ofOption _)
  intro s _
  apply safe_bind (yearField_safe tag s)
  intro p _
  apply safe_bind (safe_number _ _ _)
  intro month _
  apply safe_bind (safe_number _ _ _)
  intro day _
  apply safe_bind (safe_number _ _ _)
  intro hour _
  apply safe_bind (safe_number _ _ _)
  intro minute _
  apply safe_bind (safe_number _ _ _)
  intro second _
  exact safe_ok _

/-- The arithmetic on a time stops for the day 0 of March only. -/
theorem not_safe_unixTime {t : TimeFields} (h : t.InRange) :
    ¬ Safe (unixTime t) ↔ t.month = 3 ∧ t.day = 0 := by
  rw [unixTime_eq h]
  by_cases hmarch : t.month = 3 ∧ t.day = 0
  · rw [if_pos hmarch]
    simp [Safe, hmarch]
  · rw [if_neg hmarch]
    refine iff_of_false (not_not.2 ?_) hmarch
    split_ifs
    · exact safe_absent
    · exact safe_ok _

/-- **No bytes overflow, but for one date.** Whatever the bytes are, every position, length and
number stays in the range of its type, unless they are a certificate that is valid until the day 0
of March: one is then subtracted from an unsigned zero. -/
theorem parseX509NotAfter_safe (der : Slice) :
    Safe (parseX509NotAfter der) ↔ ¬ EndsOnMarchZero der.bytes := by
  rw [← not_iff_not, not_not, parseX509NotAfter, not_safe_bind notAfterField_safe]
  constructor
  · intro h
    obtain ⟨⟨tag, time⟩, hfield, h⟩ := h
    obtain ⟨c, hbytes, rfl, rfl⟩ := notAfterField_eq_ok.1 hfield
    obtain ⟨t, ht, h⟩ := (not_safe_bind (timeFields_safe c.tag c.time)).1 h
    obtain ⟨x, hx, hdenotes⟩ := timeFields_eq_ok.1 ht
    obtain ⟨hmonth, hday⟩ := (not_safe_unixTime hdenotes.inRange).1 h
    exact ⟨c, x, t, hbytes, hx, hdenotes, hmonth, hday⟩
  · intro h
    obtain ⟨c, x, t, hbytes, hx, hdenotes, hmarch⟩ := h
    refine ⟨(c.tag, c.time), notAfterField_eq_ok.2 ⟨c, hbytes, rfl, rfl⟩, ?_⟩
    refine (not_safe_bind (timeFields_safe c.tag c.time)).2 ⟨t, timeFields_eq_ok.2 ⟨x, hx, hdenotes⟩,
      ?_⟩
    exact (not_safe_unixTime hdenotes.inRange).2 hmarch

/-- A certificate with an empty algorithm and issuer, valid from `250101000000Z` until
`250300000000Z`. -/
def marchZero : Slice where
  bytes := [0x30, 0x29, 0x30, 0x27, 0x02, 0x01, 0x01, 0x30, 0x00, 0x30, 0x00, 0x30, 0x1E, 0x17,
    0x0D] ++ "250101000000Z".toUTF8.toList ++ [0x17, 0x0D] ++ "250300000000Z".toUTF8.toList
  length_lt := by decide +kernel

theorem not_safe_marchZero : ¬ Safe (parseX509NotAfter marchZero) := by
  intro h
  exact h (by decide +kernel)

end DnsFilter.X509
