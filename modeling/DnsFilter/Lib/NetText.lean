import DnsFilter.Lib.Net
import DnsFilter.Lib.Tokens
import Mathlib.Data.List.Forall2

/-!
# Addresses as text

How a systems language's standard library prints addresses, and that reading a printed address
gives it back. A printed address may be followed by more text, as long as that does not continue
it (`readIpv4Addr_chars`, `readIpv6Addr_chars`).

* `parseIpAddr_display` — reading inverts printing, for addresses.
* `parseSocketAddr_display` — reading inverts printing, for addresses with a port.
-/

namespace DnsFilter.Net

/-! ## Runs of digits -/

/-- Is the character a digit in the given radix? -/
def isDigitOf (radix : Nat) (c : Char) : Bool := (toDigit radix c).isSome

theorem readDigits_snd (radix : Nat) (l : List Char) :
    (readDigits radix l).2 = l.dropWhile (isDigitOf radix) := by
  induction l with
  | nil => rfl
  | cons c l ih =>
      rw [readDigits]
      cases hc : toDigit radix c with
      | none => rw [List.dropWhile_cons_of_neg (by simp [isDigitOf, hc])]
      | some d =>
          rw [List.dropWhile_cons_of_pos (by simp [isDigitOf, hc])]
          exact ih

/-- A run of digits, ended by something else. -/
theorem readDigits_append {radix : Nat} {l rest : List Char} {ds : List Nat}
    (hl : List.Forall₂ (fun c d => toDigit radix c = some d) l ds)
    (hrest : ∀ c ∈ rest.head?, toDigit radix c = none) :
    readDigits radix (l ++ rest) = (ds, rest) := by
  induction hl with
  | nil =>
      cases rest with
      | nil => rfl
      | cons c rest =>
          rw [List.nil_append, readDigits, hrest c rfl]
  | cons hc _ ih =>
      rw [List.cons_append, readDigits, hc]
      dsimp only
      rw [ih]

theorem toDigit_digitChar {radix d : Nat} (hradix : radix ≤ 16) (hd : d < radix) :
    toDigit radix (Nat.digitChar d) = some d := by
  have hall : ∀ d < 16, toDigit 16 (Nat.digitChar d) = some d := by decide +kernel
  have h := hall d (by omega)
  unfold toDigit at h ⊢
  rw [Option.filter_eq_some_iff] at h ⊢
  exact ⟨h.1, decide_eq_true hd⟩

/-- The digits of a number, by their values. -/
theorem exists_digits_toDigits {radix : Nat} (hone : 1 < radix) (hradix : radix ≤ 16) (n : Nat) :
    ∃ ds, List.Forall₂ (fun c d => toDigit radix c = some d) (Nat.toDigits radix n) ds ∧
      ds.foldl (fun acc d => acc * radix + d) 0 = n := by
  induction n using Nat.strongRecOn with
  | ind n ih =>
      by_cases hn : n < radix
      · rw [Nat.toDigits_of_lt_base hn]
        refine ⟨[n], .cons (toDigit_digitChar hradix hn) .nil, ?_⟩
        simp
      · have hle : radix ≤ n := Nat.le_of_not_lt hn
        obtain ⟨ds, hds, hvalue⟩ := ih (n / radix) (Nat.div_lt_self (by omega) hone)
        rw [Nat.toDigits_of_base_le hone hle]
        refine ⟨ds ++ [n % radix], List.rel_append hds (.cons ?_ .nil), ?_⟩
        · exact toDigit_digitChar hradix (Nat.mod_lt n (by omega))
        · rw [List.foldl_append, hvalue, List.foldl_cons, List.foldl_nil, Nat.mul_comm,
            Nat.div_add_mod]

/-- A printed number, followed by something that is no digit. -/
theorem readNumber_toDigits {radix n bound : Nat} {maxDigits : Option Nat} {allowZeroPrefix : Bool}
    {rest : List Char} (hone : 1 < radix) (hradix : radix ≤ 16)
    (hrest : ∀ c ∈ rest.head?, toDigit radix c = none) (hbound : n < bound)
    (hmax : ∀ k ∈ maxDigits, (Nat.toDigits radix n).length ≤ k)
    (hzero : allowZeroPrefix = false → (Nat.toDigits radix n).head? = some '0' →
      (Nat.toDigits radix n).length ≤ 1) :
    readNumber radix maxDigits allowZeroPrefix bound (Nat.toDigits radix n ++ rest) =
      some (n, rest) := by
  obtain ⟨ds, hds, hvalue⟩ := exists_digits_toDigits hone hradix n
  have hlength := hds.length_eq
  have hne : ds ≠ [] := by
    intro hnil
    rw [hnil, List.length_nil, List.length_eq_zero_iff] at hlength
    exact Nat.toDigits_ne_nil hlength
  have hhead : (Nat.toDigits radix n ++ rest).head? = (Nat.toDigits radix n).head? :=
    List.head?_append_of_ne_nil _ Nat.toDigits_ne_nil
  rw [readNumber, readDigits_append hds hrest]
  dsimp only
  rw [hvalue, if_neg]
  intro h
  rcases h with h | h | h | ⟨hallow, hstart, hlong⟩
  · exact hne h
  · cases maxDigits with
    | none => simp at h
    | some k =>
        have hk := hmax k rfl
        simp only [Option.any_some, decide_eq_true_eq] at h
        omega
  · omega
  · rw [hhead] at hstart
    have := hzero hallow hstart
    omega

/-! ## IPv4 -/

/-- The characters of a printed IPv4 address. -/
def Ipv4Addr.chars (addr : Ipv4Addr) : List Char :=
  Nat.toDigits 10 addr.a.toNat ++ '.' :: (Nat.toDigits 10 addr.b.toNat ++ '.' ::
    (Nat.toDigits 10 addr.c.toNat ++ '.' :: Nat.toDigits 10 addr.d.toNat))

theorem readOctet {b : UInt8} {rest : List Char}
    (hrest : ∀ c ∈ rest.head?, toDigit 10 c = none) :
    readNumber 10 (some 3) false 256 (Nat.toDigits 10 b.toNat ++ rest) = some (b.toNat, rest) := by
  have hshort : ∀ n < 256, (Nat.toDigits 10 n).length ≤ 3 ∧
      ((Nat.toDigits 10 n).head? = some '0' → (Nat.toDigits 10 n).length ≤ 1) := by
    decide +kernel
  obtain ⟨hlength, hzero⟩ := hshort b.toNat b.toNat_lt
  apply readNumber_toDigits (by decide) (by decide) hrest b.toNat_lt
  · intro k hk
    obtain rfl := Option.some.inj hk
    exact hlength
  · intro _
    exact hzero

theorem readIpv4Addr_chars (addr : Ipv4Addr) {rest : List Char}
    (hrest : ∀ c ∈ rest.head?, toDigit 10 c = none) :
    readIpv4Addr (addr.chars ++ rest) = some (addr, rest) := by
  have hdot : ∀ {l : List Char}, ∀ c ∈ ('.' :: l).head?, toDigit 10 c = none := by
    intro l c hc
    obtain rfl := Option.some.inj hc
    decide +kernel
  have hskip : ∀ {i : Nat} {b : UInt8} {l : List Char}, (∀ c ∈ l.head?, toDigit 10 c = none) →
      readSeparator '.' (i + 1) (readNumber 10 (some 3) false 256)
        ('.' :: (Nat.toDigits 10 b.toNat ++ l)) = some (b.toNat, l) := by
    intro i b l hl
    rw [readSeparator, if_neg (by omega), readGivenChar, if_pos rfl]
    exact readOctet hl
  unfold readIpv4Addr
  rw [Ipv4Addr.chars]
  simp only [List.append_assoc, List.cons_append]
  rw [readSeparator, if_pos rfl, readOctet hdot]
  simp only [Option.bind_eq_bind, Option.bind_some, hskip hdot, hskip hrest, UInt8.ofNat_toNat]
  rfl

/-- Reading an IPv4 address starts with a run of decimal digits and a dot. -/
theorem dropWhile_of_readIpv4Addr {l rest : List Char} {addr : Ipv4Addr}
    (h : readIpv4Addr l = some (addr, rest)) :
    ∃ rest', l.dropWhile (isDigitOf 10) = '.' :: rest' := by
  obtain ⟨⟨a, l₁⟩, ha, h⟩ := Option.bind_eq_some_iff.1 h
  obtain ⟨⟨b, l₂⟩, hb, -⟩ := Option.bind_eq_some_iff.1 h
  have hl₁ : l₁ = l.dropWhile (isDigitOf 10) := by
    change readNumber 10 (some 3) false 256 l = some (a, l₁) at ha
    rw [readNumber] at ha
    dsimp only at ha
    split at ha
    · exact absurd ha (by simp)
    · rw [← readDigits_snd]
      exact (Prod.mk.inj (Option.some.inj ha)).2.symm
  obtain ⟨⟨_, l₁'⟩, hdot, -⟩ := Option.bind_eq_some_iff.1 hb
  rw [← hl₁]
  cases l₁ with
  | nil => exact absurd hdot (by simp [readGivenChar])
  | cons c l₁ =>
      rw [readGivenChar] at hdot
      split at hdot
      · rename_i hc
        exact ⟨l₁, by rw [hc]⟩
      · exact absurd hdot (by simp)

/-! ## IPv6 -/

/-- The characters of a printed group. -/
def hexChars (group : UInt16) : List Char := Nat.toDigits 16 group.toNat

/-- The characters of printed groups from the index `i` on: a colon before each but the first. -/
def groupChars : Nat → List UInt16 → List Char
  | _, [] => []
  | i, g :: gs => (if i = 0 then [] else [':']) ++ (hexChars g ++ groupChars (i + 1) gs)

/-- A range of groups. -/
structure Span where
  start : Nat := 0
  len : Nat := 0
  deriving DecidableEq, Repr

/-- The first longest run of zero groups, from the index `i` on. -/
def longestZeroes : List UInt16 → Nat → Span → Span → Span
  | [], _, longest, _ => longest
  | g :: gs, i, longest, current =>
      if g = 0 then
        let current : Span := if current.len = 0 then ⟨i, 1⟩ else ⟨current.start, current.len + 1⟩
        longestZeroes gs (i + 1) (if longest.len < current.len then current else longest) current
      else longestZeroes gs (i + 1) longest {}

/-- The IPv4 address of an IPv4-mapped IPv6 address. -/
def Ipv6Addr.toIpv4Mapped (addr : Ipv6Addr) : Option Ipv4Addr :=
  match addr.segments with
  | [0, 0, 0, 0, 0, 0xffff, ab, cd] =>
      some ⟨.ofNat (ab.toNat / 256), .ofNat (ab.toNat % 256), .ofNat (cd.toNat / 256),
        .ofNat (cd.toNat % 256)⟩
  | _ => none

/-- The characters of a printed IPv6 address. -/
def Ipv6Addr.chars (addr : Ipv6Addr) : List Char :=
  match addr.toIpv4Mapped with
  | some ipv4 => "::ffff:".toList ++ ipv4.chars
  | none =>
      let zeroes := longestZeroes addr.segments 0 {} {}
      if 1 < zeroes.len then
        groupChars 0 (addr.segments.take zeroes.start) ++ ':' :: ':' ::
          groupChars 0 (addr.segments.drop (zeroes.start + zeroes.len))
      else groupChars 0 addr.segments

/-- What may follow a printed IPv6 address: nothing that continues it. -/
def EndsIpv6 (rest : List Char) : Prop :=
  ∀ c ∈ rest.head?, toDigit 16 c = none ∧ c ≠ ':' ∧ c ≠ '.'

theorem toDigit_ten_of_sixteen {c : Char} (h : toDigit 16 c = none) : toDigit 10 c = none := by
  unfold toDigit at h ⊢
  rw [Option.filter_eq_none_iff] at h ⊢
  intro d hd hlt
  apply h d hd
  simp only [decide_eq_true_eq] at hlt ⊢
  omega

theorem mem_hexChars {group : UInt16} {c : Char} (h : c ∈ hexChars group) :
    isDigitOf 16 c = true := by
  obtain ⟨ds, hds, -⟩ := exists_digits_toDigits (by decide : 1 < 16) (by decide) group.toNat
  obtain ⟨i, hi, rfl⟩ := List.getElem_of_mem h
  have hget := List.Forall₂.get hds hi (hds.length_eq ▸ hi)
  rw [List.get_eq_getElem] at hget
  exact Option.isSome_of_eq_some hget

/-- A group is no start of an IPv4 address unless a dot follows. -/
theorem readIpv4Addr_hexChars (group : UInt16) {rest : List Char}
    (hrest : ∀ c ∈ rest.head?, toDigit 16 c = none ∧ c ≠ '.') :
    readIpv4Addr (hexChars group ++ rest) = none := by
  cases h : readIpv4Addr (hexChars group ++ rest) with
  | none => rfl
  | some p =>
      obtain ⟨rest', hdrop⟩ := dropWhile_of_readIpv4Addr h
      exfalso
      have hall : ∀ l : List Char, (∀ c ∈ l, isDigitOf 16 c = true) →
          (l ++ rest).dropWhile (isDigitOf 10) ≠ '.' :: rest' := by
        intro l hl
        induction l with
        | nil =>
            cases rest with
            | nil => simp
            | cons c rest =>
                obtain ⟨hc, hdot⟩ := hrest c rfl
                rw [List.nil_append, List.dropWhile_cons_of_neg (by
                  rw [isDigitOf, toDigit_ten_of_sixteen hc]; decide)]
                intro heq
                exact hdot (List.cons.inj heq).1
        | cons c l ih =>
            by_cases hc : isDigitOf 10 c = true
            · rw [List.cons_append, List.dropWhile_cons_of_pos hc]
              exact ih fun d hd => hl d (List.mem_cons_of_mem c hd)
            · rw [List.cons_append, List.dropWhile_cons_of_neg hc]
              intro heq
              have hhex := hl c List.mem_cons_self
              rw [(List.cons.inj heq).1] at hhex
              exact absurd hhex (by decide +kernel)
      exact hall _ (fun c hc => mem_hexChars hc) hdrop

theorem readGroup (group : UInt16) {rest : List Char}
    (hrest : ∀ c ∈ rest.head?, toDigit 16 c = none) :
    readNumber 16 (some 4) true 65536 (hexChars group ++ rest) = some (group.toNat, rest) := by
  apply readNumber_toDigits (by decide) (by decide) hrest group.toNat_lt
  · intro k hk
    obtain rfl := Option.some.inj hk
    exact (Nat.length_toDigits_le_iff (by decide) (by decide)).2 group.toNat_lt
  · intro h
    exact absurd h (by decide)

theorem head?_groupChars {i : Nat} {gs : List UInt16} {rest : List Char}
    (hrest : ∀ c ∈ rest.head?, toDigit 16 c = none ∧ c ≠ '.') :
    ∀ c ∈ (groupChars (i + 1) gs ++ rest).head?, toDigit 16 c = none ∧ c ≠ '.' := by
  cases gs with
  | nil => exact hrest
  | cons g gs =>
      intro c hc
      rw [groupChars, if_neg (by omega)] at hc
      obtain rfl := Option.some.inj hc
      exact ⟨by decide +kernel, by decide⟩

/-- Printed groups, up to the limit or followed by something that is no group. -/
theorem readGroups_groupChars {limit fuel i : Nat} {gs : List UInt16} {rest : List Char}
    (hfuel : gs.length ≤ fuel)
    (hrest : ∀ c ∈ rest.head?, toDigit 16 c = none ∧ c ≠ '.')
    (hstop : gs.length < fuel → readSeparator ':' (i + gs.length) readIpv4Addr rest = none ∧
      readSeparator ':' (i + gs.length) (readNumber 16 (some 4) true 65536) rest = none) :
    readGroups limit fuel i (groupChars i gs ++ rest) = (gs, false, rest) := by
  induction gs generalizing fuel i with
  | nil =>
      cases fuel with
      | zero => rfl
      | succ fuel =>
          obtain ⟨hipv4, hnumber⟩ := hstop (Nat.succ_pos fuel)
          rw [List.length_nil, Nat.add_zero] at hipv4 hnumber
          rw [groupChars, List.nil_append, readGroups, hipv4, ite_self, hnumber]
  | cons g gs ih =>
      cases fuel with
      | zero => exact absurd hfuel (by simp)
      | succ fuel =>
          have hnext := @head?_groupChars i gs rest hrest
          have hskip {α : Type} (reader : Reader α) :
              readSeparator ':' i reader (groupChars i (g :: gs) ++ rest) =
                reader (hexChars g ++ (groupChars (i + 1) gs ++ rest)) := by
            rw [readSeparator, groupChars]
            by_cases hi : i = 0
            · rw [if_pos hi, if_pos hi, List.nil_append, List.append_assoc]
            · rw [if_neg hi, if_neg hi, List.cons_append, List.nil_append, List.cons_append,
                List.append_assoc, readGivenChar, if_pos rfl]
              rfl
          rw [readGroups, hskip, hskip, readIpv4Addr_hexChars g hnext, ite_self,
            readGroup g fun c hc => (hnext c hc).1]
          dsimp only
          rw [ih (by simpa using hfuel), UInt16.ofNat_toNat]
          intro hlt
          have hstop' := hstop (by rw [List.length_cons]; omega)
          rw [List.length_cons, ← Nat.add_assoc, Nat.add_right_comm] at hstop'
          exact hstop'

/-! Runs of zeroes. -/

/-- The range holds zero groups only. -/
def Span.IsZero (span : Span) (gs : List UInt16) : Prop :=
  gs = gs.take span.start ++ (List.replicate span.len 0 ++ gs.drop (span.start + span.len))

theorem isZero_append (before after : List UInt16) (n : Nat) :
    Span.IsZero ⟨before.length, n⟩ (before ++ (List.replicate n 0 ++ after)) := by
  have hlength : before.length + n = (before ++ List.replicate n 0).length := by
    rw [List.length_append, List.length_replicate]
  rw [Span.IsZero, List.take_left, hlength, ← List.append_assoc, List.drop_left]
  exact List.append_assoc _ _ _

/-- The loop looks at `done ++ gs` and stands behind `done`, which ends with the current run. -/
theorem isZero_longestZeroes {gs done : List UInt16} {longest current : Span}
    (hlongest : longest.IsZero (done ++ gs))
    (hcurrent : current.len = 0 ∨ ∃ before, done = before ++ List.replicate current.len 0 ∧
      current.start = before.length) :
    (longestZeroes gs done.length longest current).IsZero (done ++ gs) := by
  induction gs generalizing done longest current with
  | nil => exact hlongest
  | cons g gs ih =>
      have hdone : done ++ g :: gs = (done ++ [g]) ++ gs := by
        rw [List.append_assoc]
        rfl
      have hlength : done.length + 1 = (done ++ [g]).length := by
        rw [List.length_append]
        rfl
      rw [longestZeroes]
      by_cases hg : g = 0
      · subst hg
        rw [if_pos rfl, hlength]
        rw [hdone] at hlongest ⊢
        have hnext : ∃ before n, done ++ [0] = before ++ List.replicate n 0 ∧
            (if current.len = 0 then ⟨done.length, 1⟩ else ⟨current.start, current.len + 1⟩ : Span) =
              ⟨before.length, n⟩ := by
          by_cases hzero : current.len = 0
          · rw [if_pos hzero]
            exact ⟨done, 1, rfl, rfl⟩
          · obtain ⟨before, hbefore, hstart⟩ := hcurrent.resolve_left hzero
            rw [if_neg hzero, hstart]
            refine ⟨before, current.len + 1, ?_, rfl⟩
            rw [hbefore, List.append_assoc, List.replicate_succ']
        obtain ⟨before, n, hbefore, hspan⟩ := hnext
        dsimp only
        rw [hspan]
        have hrun : Span.IsZero ⟨before.length, n⟩ (done ++ [0] ++ gs) := by
          rw [hbefore, List.append_assoc]
          exact isZero_append before gs n
        apply ih
        · by_cases hlonger : longest.len < n
          · rw [if_pos hlonger]
            exact hrun
          · rw [if_neg hlonger]
            exact hlongest
        · exact .inr ⟨before, hbefore, rfl⟩
      · rw [if_neg hg, hlength]
        rw [hdone] at hlongest ⊢
        exact ih hlongest (.inl rfl)

/-- The run that is printed as a double colon. -/
theorem longestZeroes_isZero (gs : List UInt16) : (longestZeroes gs 0 {} {}).IsZero gs :=
  @isZero_longestZeroes gs [] {} {} (isZero_append [] gs 0) (.inl rfl)

/-- Nothing is read where no digit stands. -/
theorem readNumber_eq_none {radix bound : Nat} {maxDigits : Option Nat} {allowZeroPrefix : Bool}
    {l : List Char} (h : ∀ c ∈ l.head?, toDigit radix c = none) :
    readNumber radix maxDigits allowZeroPrefix bound l = none := by
  have hdigits : readDigits radix l = ([], l) := readDigits_append .nil h
  rw [readNumber, hdigits]
  exact if_pos (.inl rfl)

theorem readIpv4Addr_eq_none {l : List Char} (h : ∀ c ∈ l.head?, toDigit 10 c = none) :
    readIpv4Addr l = none := by
  unfold readIpv4Addr
  simp only [readSeparator, if_true, readNumber_eq_none h]
  rfl

/-- No group is read where no hexadecimal digit stands, with or without a colon before. -/
theorem readSeparator_eq_none {i : Nat} {l : List Char}
    (hzero : i = 0 → ∀ c ∈ l.head?, toDigit 16 c = none)
    (hsep : i ≠ 0 → ∀ rest, l = ':' :: rest → ∀ c ∈ rest.head?, toDigit 16 c = none) :
    readSeparator ':' i readIpv4Addr l = none ∧
      readSeparator ':' i (readNumber 16 (some 4) true 65536) l = none := by
  unfold readSeparator
  by_cases hi : i = 0
  · rw [if_pos hi, if_pos hi]
    exact ⟨readIpv4Addr_eq_none fun c hc => toDigit_ten_of_sixteen (hzero hi c hc),
      readNumber_eq_none (hzero hi)⟩
  · rw [if_neg hi, if_neg hi]
    cases l with
    | nil => exact ⟨rfl, rfl⟩
    | cons c rest =>
        by_cases hc : c = ':'
        · subst hc
          have hrest := hsep hi rest rfl
          rw [readGivenChar, if_pos rfl]
          exact ⟨readIpv4Addr_eq_none fun c hc => toDigit_ten_of_sixteen (hrest c hc),
            readNumber_eq_none hrest⟩
        · rw [readGivenChar, if_neg hc]
          exact ⟨rfl, rfl⟩

theorem toDigit_colon : toDigit 16 ':' = none := by decide +kernel

/-- Printed groups before a double colon. -/
theorem readGroups_doubleColon {gs : List UInt16} (hgs : gs.length ≤ 8) (rest : List Char) :
    readGroups 8 8 0 (groupChars 0 gs ++ ':' :: ':' :: rest) = (gs, false, ':' :: ':' :: rest) := by
  apply readGroups_groupChars hgs
  · intro c hc
    obtain rfl := Option.some.inj hc
    exact ⟨toDigit_colon, by decide⟩
  · intro _
    apply readSeparator_eq_none
    · intro _ c hc
      obtain rfl := Option.some.inj hc
      exact toDigit_colon
    · intro _ rest' hrest' c hc
      rw [← (List.cons.inj hrest').2] at hc
      obtain rfl := Option.some.inj hc
      exact toDigit_colon

/-- Printed groups at the end of an address. -/
theorem readGroups_last {limit : Nat} {gs : List UInt16} (hgs : gs.length ≤ limit)
    {rest : List Char} (hrest : EndsIpv6 rest) :
    readGroups limit limit 0 (groupChars 0 gs ++ rest) = (gs, false, rest) := by
  apply readGroups_groupChars hgs
  · intro c hc
    exact ⟨(hrest c hc).1, (hrest c hc).2.2⟩
  · intro _
    apply readSeparator_eq_none
    · intro _ c hc
      exact (hrest c hc).1
    · intro _ rest' hrest' c _
      exact absurd rfl (hrest ':' (by rw [hrest']; rfl)).2.1

theorem ofSegments_segments (addr : Ipv6Addr) : Ipv6Addr.ofSegments addr.segments = addr := by
  obtain ⟨segments, hlength⟩ := addr
  rw [Ipv6Addr.ofSegments, Ipv6Addr.mk.injEq, ← hlength, List.take_left]

/-- The two bytes of a group. -/
theorem ofNat_bytes (group : UInt16) :
    UInt16.ofNat ((UInt8.ofNat (group.toNat / 256)).toNat * 256 +
      (UInt8.ofNat (group.toNat % 256)).toNat) = group := by
  have hlt : group.toNat < 65536 := group.toNat_lt
  rw [UInt8.toNat_ofNat', UInt8.toNat_ofNat']
  have hsum : group.toNat / 256 % 2 ^ 8 * 256 + group.toNat % 256 % 2 ^ 8 = group.toNat := by omega
  rw [hsum, UInt16.ofNat_toNat]

/-- Groups that end with a dotted IPv4 address. -/
theorem readGroups_mapped (addr : Ipv4Addr) {rest : List Char} (hrest : EndsIpv6 rest) :
    readGroups 7 7 0 (hexChars 0xffff ++ (':' :: (addr.chars ++ rest))) =
      ([0xffff, .ofNat (addr.a.toNat * 256 + addr.b.toNat),
        .ofNat (addr.c.toNat * 256 + addr.d.toNat)], true, rest) := by
  have hcolon : ∀ c ∈ (':' :: (addr.chars ++ rest)).head?, toDigit 16 c = none ∧ c ≠ '.' := by
    intro c hc
    obtain rfl := Option.some.inj hc
    exact ⟨toDigit_colon, by decide⟩
  have hipv4 : readSeparator ':' 1 readIpv4Addr (':' :: (addr.chars ++ rest)) =
      some (addr, rest) := by
    rw [readSeparator, if_neg (by decide), readGivenChar, if_pos rfl]
    exact readIpv4Addr_chars addr fun c hc => toDigit_ten_of_sixteen (hrest c hc).1
  have hfirst {α : Type} (reader : Reader α) (l : List Char) :
      readSeparator ':' 0 reader l = reader l := by
    rw [readSeparator, if_pos rfl]
  rw [readGroups, hfirst, hfirst, readIpv4Addr_hexChars _ hcolon, ite_self,
    readGroup _ fun c hc => (hcolon c hc).1]
  dsimp only
  rw [readGroups, if_pos (by decide), hipv4]
  rfl

/-- Reading inverts printing, for an IPv4 address that is mapped to IPv6. -/
theorem readIpv6Addr_mapped {addr : Ipv6Addr} {ipv4 : Ipv4Addr}
    (hmapped : addr.toIpv4Mapped = some ipv4) {rest : List Char} (hrest : EndsIpv6 rest) :
    readIpv6Addr ("::ffff:".toList ++ ipv4.chars ++ rest) = some (addr, rest) := by
  have hsegments : ∃ ab cd, addr.segments = [0, 0, 0, 0, 0, 0xffff, ab, cd] ∧
      ipv4 = ⟨.ofNat (ab.toNat / 256), .ofNat (ab.toNat % 256), .ofNat (cd.toNat / 256),
        .ofNat (cd.toNat % 256)⟩ := by
    unfold Ipv6Addr.toIpv4Mapped at hmapped
    split at hmapped
    · rename_i ab cd hsegments
      exact ⟨ab, cd, hsegments, (Option.some.inj hmapped).symm⟩
    · exact absurd hmapped (by simp)
  obtain ⟨ab, cd, hsegments, rfl⟩ := hsegments
  have hchars : ∀ l : List Char, "::ffff:".toList ++ l ++ rest =
      groupChars 0 [] ++ ':' :: ':' :: (hexChars 0xffff ++ (':' :: (l ++ rest))) := by
    intro l
    have hffff : hexChars 0xffff = ['f', 'f', 'f', 'f'] := by decide +kernel
    rw [hffff]
    rfl
  unfold readIpv6Addr
  rw [hchars, readGroups_doubleColon (by decide)]
  dsimp only
  rw [if_neg (by decide), readGivenChar, if_pos rfl]
  simp only [Option.bind_eq_bind, Option.bind_some, readGivenChar, if_true, Bool.false_eq_true,
    if_false]
  have htail := readGroups_mapped ⟨.ofNat (ab.toNat / 256), .ofNat (ab.toNat % 256),
    .ofNat (cd.toNat / 256), .ofNat (cd.toNat % 256)⟩ hrest
  rw [List.length_nil, htail]
  dsimp only
  rw [ofNat_bytes, ofNat_bytes, ← ofSegments_segments addr, hsegments]
  rfl

/-- **Reading inverts printing**, for IPv6 addresses. -/
theorem readIpv6Addr_chars (addr : Ipv6Addr) {rest : List Char} (hrest : EndsIpv6 rest) :
    readIpv6Addr (addr.chars ++ rest) = some (addr, rest) := by
  unfold Ipv6Addr.chars
  cases hmapped : addr.toIpv4Mapped with
  | some ipv4 => exact readIpv6Addr_mapped hmapped hrest
  | none =>
      unfold readIpv6Addr
      dsimp only
      by_cases hrun : 1 < (longestZeroes addr.segments 0 {} {}).len
      · rw [if_pos hrun]
        have hzero := longestZeroes_isZero addr.segments
        generalize longestZeroes addr.segments 0 {} {} = zeroes at hrun hzero ⊢
        have hlength := addr.length_segments
        rw [hzero, List.length_append, List.length_append, List.length_replicate] at hlength
        rw [List.append_assoc, List.cons_append, List.cons_append,
          readGroups_doubleColon (by omega)]
        dsimp only
        rw [if_neg (by omega)]
        simp only [Option.bind_eq_bind, Option.bind_some, readGivenChar, if_true,
          Bool.false_eq_true, if_false]
        rw [readGroups_last (by omega) hrest]
        dsimp only
        have hlen : 8 - (addr.segments.take zeroes.start).length -
            (addr.segments.drop (zeroes.start + zeroes.len)).length = zeroes.len := by
          omega
        rw [hlen, List.append_assoc, ← hzero, ofSegments_segments]
        rfl
      · rw [if_neg hrun, readGroups_last (Nat.le_of_eq addr.length_segments) hrest]
        dsimp only
        rw [if_pos addr.length_segments, ofSegments_segments]

/-- An IPv6 address is no start of an IPv4 address. -/
theorem readIpv4Addr_ipv6 (addr : Ipv6Addr) : readIpv4Addr addr.chars = none := by
  have hgroups : ∀ (gs : List UInt16) (rest : List Char),
      (∀ c ∈ rest.head?, toDigit 16 c = none ∧ c ≠ '.') →
        readIpv4Addr (groupChars 0 gs ++ rest) = none := by
    intro gs rest hrest
    cases gs with
    | nil => exact readIpv4Addr_eq_none fun c hc => toDigit_ten_of_sixteen (hrest c hc).1
    | cons g gs =>
        rw [groupChars, if_pos rfl, List.nil_append, List.append_assoc]
        exact readIpv4Addr_hexChars g (head?_groupChars hrest)
  have hcolon : ∀ (rest : List Char), ∀ c ∈ (':' :: rest).head?, toDigit 16 c = none ∧ c ≠ '.' := by
    intro rest c hc
    obtain rfl := Option.some.inj hc
    exact ⟨toDigit_colon, by decide⟩
  unfold Ipv6Addr.chars
  cases addr.toIpv4Mapped with
  | some ipv4 => exact hgroups [] _ (hcolon _)
  | none =>
      dsimp only
      by_cases hrun : 1 < (longestZeroes addr.segments 0 {} {}).len
      · rw [if_pos hrun]
        exact hgroups _ _ (hcolon _)
      · rw [if_neg hrun, ← List.append_nil (groupChars 0 addr.segments)]
        exact hgroups _ [] (by simp)

/-! ## Whole strings -/

def IpAddr.chars : IpAddr → List Char
  | .v4 addr => addr.chars
  | .v6 addr => addr.chars

/-- The printed address. -/
def IpAddr.display (ip : IpAddr) : String := .ofList ip.chars

/-- The printed address with its port: an IPv6 address stands in brackets, with its scope if it
has one. -/
def SocketAddr.display (addr : SocketAddr) : String :=
  match addr.ip with
  | .v4 ip => .ofList (ip.chars ++ ':' :: Nat.toDigits 10 addr.port.toNat)
  | .v6 ip =>
      let scope := if addr.scopeId = 0 then [] else '%' :: Nat.toDigits 10 addr.scopeId.toNat
      .ofList ('[' :: (ip.chars ++ (scope ++ ']' :: ':' :: Nat.toDigits 10 addr.port.toNat)))

theorem parseWith_ofList {α : Type} {reader : Reader α} {l : List Char} {a : α}
    (h : reader l = some (a, [])) : parseWith reader (.ofList l) = some a := by
  unfold parseWith
  rw [String.toList_ofList, h]

/-- **Reading inverts printing**, for addresses. -/
theorem parseIpAddr_display (ip : IpAddr) : parseIpAddr ip.display = some ip := by
  apply parseWith_ofList
  cases ip with
  | v4 addr =>
      have hread := @readIpv4Addr_chars addr [] (by simp)
      rw [List.append_nil] at hread
      rw [IpAddr.chars, readIpAddr, hread]
  | v6 addr =>
      have hread := @readIpv6Addr_chars addr [] (by simp [EndsIpv6])
      rw [List.append_nil] at hread
      rw [IpAddr.chars, readIpAddr, readIpv4Addr_ipv6]
      dsimp only
      rw [hread]
      rfl

theorem readPort_toDigits (port : UInt16) :
    readPort (':' :: Nat.toDigits 10 port.toNat) = some (port.toNat, []) := by
  have hnumber : readNumber 10 none true 65536 (Nat.toDigits 10 port.toNat ++ []) =
      some (port.toNat, []) := by
    apply readNumber_toDigits (by decide) (by decide) (by simp) port.toNat_lt
    · simp
    · intro h
      exact absurd h (by decide)
  rw [List.append_nil] at hnumber
  rw [readPort, readGivenChar, if_pos rfl]
  exact hnumber

/-- **Reading inverts printing**, for addresses with a port. -/
theorem parseSocketAddr_display (ip : IpAddr) (port : UInt16) :
    parseSocketAddr (SocketAddr.display ⟨ip, port, 0⟩) = some ⟨ip, port, 0⟩ := by
  cases ip with
  | v4 addr =>
      apply parseWith_ofList
      have hread := @readIpv4Addr_chars addr (':' :: Nat.toDigits 10 port.toNat) (by
        intro c hc
        obtain rfl := Option.some.inj hc
        decide +kernel)
      have hv4 : readSocketAddrV4 (addr.chars ++ ':' :: Nat.toDigits 10 port.toNat) =
          some (⟨.v4 addr, port, 0⟩, []) := by
        unfold readSocketAddrV4
        rw [hread]
        simp only [Option.bind_eq_bind, Option.bind_some, readPort_toDigits, UInt16.ofNat_toNat]
        rfl
      rw [readSocketAddr, hv4]
      rfl
  | v6 addr =>
      apply parseWith_ofList
      have hread := @readIpv6Addr_chars addr (']' :: ':' :: Nat.toDigits 10 port.toNat) (by
        intro c hc
        obtain rfl := Option.some.inj hc
        exact ⟨by decide +kernel, by decide, by decide⟩)
      have hv4 : readSocketAddrV4 ('[' :: (addr.chars ++ ']' :: ':' :: Nat.toDigits 10 port.toNat)) =
          none := by
        unfold readSocketAddrV4
        rw [readIpv4Addr_eq_none]
        · rfl
        · intro c hc
          obtain rfl := Option.some.inj hc
          decide +kernel
      have hv6 : readSocketAddrV6 ('[' :: (addr.chars ++ ']' :: ':' :: Nat.toDigits 10 port.toNat)) =
          some (⟨.v6 addr, port, 0⟩, []) := by
        unfold readSocketAddrV6
        rw [readGivenChar, if_pos rfl]
        simp only [Option.bind_eq_bind, Option.bind_some, hread, readScopeId, readGivenChar,
          Char.reduceEq, if_false, Option.bind_none, Option.getD_none, if_true, readPort_toDigits,
          UInt16.ofNat_toNat]
        rfl
      show readSocketAddr ('[' :: (addr.chars ++ ']' :: ':' :: Nat.toDigits 10 port.toNat)) = _
      rw [readSocketAddr, hv4, hv6]
      rfl

end DnsFilter.Net
