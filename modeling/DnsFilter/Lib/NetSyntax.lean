import DnsFilter.Lib.NetText

/-!
# What is no address

A text is ruled out as an address by its first character, by its colons or by its last character,
and an IPv4 address in front of a colon is one on its own.

* `parseSocketAddr_of_parseIpAddr` — an address without a port is no address with a port.
* `parseSocketAddr_host_port`, `parseIpAddr_host_port` — a name and a port are neither, unless the
  name is an address.
* `parseSocketAddr_of_no_colon`, `parseIpAddr_trailing_dot` — nor are a name alone and a name with a
  dot at its end.
-/

namespace DnsFilter.Net

/-! ## The first character -/

theorem readIpv6Addr_eq_none {c : Char} {l : List Char} (hdigit : toDigit 16 c = none)
    (hcolon : c ≠ ':') : readIpv6Addr (c :: l) = none := by
  have hgroups : readGroups 8 8 0 (c :: l) = ([], false, c :: l) := by
    have hnone := @readSeparator_eq_none 0 (c :: l) (by
      intro _ d hd
      obtain rfl := Option.some.inj hd
      exact hdigit) (fun h => absurd rfl h)
    rw [readGroups, hnone.1, hnone.2, ite_self]
  unfold readIpv6Addr
  rw [hgroups]
  simp [readGivenChar, hcolon]

theorem readIpAddr_eq_none {c : Char} {l : List Char} (hdigit : toDigit 16 c = none)
    (hcolon : c ≠ ':') : readIpAddr (c :: l) = none := by
  have hipv4 : readIpv4Addr (c :: l) = none := by
    apply readIpv4Addr_eq_none
    intro d hd
    obtain rfl := Option.some.inj hd
    exact toDigit_ten_of_sixteen hdigit
  rw [readIpAddr, hipv4, readIpv6Addr_eq_none hdigit hcolon]
  rfl

/-- An IPv6 address with a port starts with a bracket. -/
theorem readSocketAddrV6_eq_none {l : List Char} (h : ∀ c ∈ l.head?, c ≠ '[') :
    readSocketAddrV6 l = none := by
  unfold readSocketAddrV6
  cases l with
  | nil => rfl
  | cons c l =>
      rw [readGivenChar, if_neg (h c rfl)]
      rfl

theorem readSocketAddr_eq_none {c : Char} {l : List Char} (hdigit : toDigit 10 c = none)
    (hbracket : c ≠ '[') : readSocketAddr (c :: l) = none := by
  have hv4 : readSocketAddrV4 (c :: l) = none := by
    unfold readSocketAddrV4
    rw [readIpv4Addr_eq_none]
    · rfl
    · intro d hd
      obtain rfl := Option.some.inj hd
      exact hdigit
  have hv6 : readSocketAddrV6 (c :: l) = none := by
    apply readSocketAddrV6_eq_none
    intro d hd
    obtain rfl := Option.some.inj hd
    exact hbracket
  rw [readSocketAddr, hv4, hv6]
  rfl

/-! ## Whole strings -/

theorem parseWith_eq_some {α : Type} {reader : Reader α} {s : String} {a : α} :
    parseWith reader s = some a ↔ reader s.toList = some (a, []) := by
  unfold parseWith
  split
  · rename_i b heq
    rw [heq]
    simp
  · rename_i hne
    constructor
    · intro h
      exact absurd h (by simp)
    · intro h
      exact absurd h (hne a)

theorem parseWith_eq_none {α : Type} {reader : Reader α} {s : String}
    (h : reader s.toList = none) : parseWith reader s = none := by
  cases hparse : parseWith reader s with
  | none => rfl
  | some a =>
      rw [parseWith_eq_some, h] at hparse
      exact absurd hparse (by simp)

/-- An address without a port is no address with a port. -/
theorem parseSocketAddr_of_parseIpAddr {s : String} {ip : IpAddr} (h : parseIpAddr s = some ip) :
    parseSocketAddr s = none := by
  have hread := parseWith_eq_some.1 h
  have hbracket : ∀ c ∈ s.toList.head?, c ≠ '[' := by
    intro c hc heq
    subst heq
    obtain ⟨l, hl⟩ := List.head?_eq_some_iff.1 hc
    rw [hl, readIpAddr_eq_none (by decide +kernel) (by decide)] at hread
    exact absurd hread (by simp)
  have hv4 : readSocketAddrV4 s.toList = none := by
    unfold readSocketAddrV4
    cases hipv4 : readIpv4Addr s.toList with
    | none => rfl
    | some p =>
        rw [readIpAddr, hipv4] at hread
        obtain ⟨-, hrest⟩ := Prod.mk.inj (Option.some.inj hread)
        simp [hrest, readPort, readGivenChar]
  apply parseWith_eq_none
  rw [readSocketAddr, hv4, readSocketAddrV6_eq_none hbracket]
  rfl

/-! ## What a reader consumes -/

theorem length_readDigits (radix : Nat) (l : List Char) :
    (readDigits radix l).1.length = (l.takeWhile (isDigitOf radix)).length := by
  induction l with
  | nil => rfl
  | cons c l ih =>
      rw [readDigits]
      cases hc : toDigit radix c with
      | none =>
          rw [List.takeWhile_cons_of_neg (by simp [isDigitOf, hc])]
          rfl
      | some d =>
          rw [List.takeWhile_cons_of_pos (by simp [isDigitOf, hc])]
          exact congrArg (· + 1) ih

/-- A number is a run of digits. -/
theorem readNumber_eq_append {radix bound n : Nat} {maxDigits : Option Nat} {allowZeroPrefix : Bool}
    {l rest : List Char}
    (h : readNumber radix maxDigits allowZeroPrefix bound l = some (n, rest)) :
    ∃ front, l = front ++ rest ∧ front ≠ [] ∧ ∀ c ∈ front, isDigitOf radix c = true := by
  rw [readNumber] at h
  dsimp only at h
  split at h
  · exact absurd h (by simp)
  · rename_i hok
    obtain ⟨-, rfl⟩ := Prod.mk.inj (Option.some.inj h)
    refine ⟨l.takeWhile (isDigitOf radix), ?_, ?_, fun c hc => List.mem_takeWhile_imp hc⟩
    · rw [readDigits_snd, List.takeWhile_append_dropWhile]
    · intro hnil
      have hlength := length_readDigits radix l
      rw [hnil] at hlength
      exact hok (.inl (List.length_eq_zero_iff.1 hlength))

/-- Digits and dots, with a digit at the end. -/
structure IsDotted (front : List Char) : Prop where
  chars : ∀ c ∈ front, isDigitOf 10 c = true ∨ c = '.'
  last : ∃ c, front.getLast? = some c ∧ isDigitOf 10 c = true

theorem IsDotted.append {front front' : List Char} (h : IsDotted front) (h' : IsDotted front') :
    IsDotted (front ++ front') := by
  obtain ⟨c, hlast, hc⟩ := h'.last
  refine ⟨List.forall_mem_append.2 ⟨h.chars, h'.chars⟩, c, ?_, hc⟩
  rw [List.getLast?_append, hlast]
  rfl

theorem isDotted_of_octet {i n : Nat} {l rest : List Char}
    (h : readSeparator '.' i (readNumber 10 (some 3) false 256) l = some (n, rest)) :
    ∃ front, l = front ++ rest ∧ IsDotted front := by
  have hnumber : ∀ {l : List Char}, readNumber 10 (some 3) false 256 l = some (n, rest) →
      ∃ front, l = front ++ rest ∧ IsDotted front := by
    intro l h
    obtain ⟨front, rfl, hne, hall⟩ := readNumber_eq_append h
    refine ⟨front, rfl, fun c hc => .inl (hall c hc), front.getLast hne, ?_, ?_⟩
    · exact List.getLast?_eq_some_getLast hne
    · exact hall _ (List.getLast_mem hne)
  rw [readSeparator] at h
  by_cases hi : i = 0
  · rw [if_pos hi] at h
    exact hnumber h
  · rw [if_neg hi] at h
    obtain ⟨⟨_, l'⟩, hdot, h⟩ := Option.bind_eq_some_iff.1 h
    obtain ⟨front, hl', hfront⟩ := hnumber h
    cases l with
    | nil => exact absurd hdot (by simp [readGivenChar])
    | cons c l =>
        rw [readGivenChar] at hdot
        split at hdot
        · rename_i hc
          obtain rfl := (Prod.mk.inj (Option.some.inj hdot)).2
          refine ⟨c :: front, by rw [hl', List.cons_append], ?_, ?_⟩
          · exact List.forall_mem_cons.2 ⟨.inr hc, hfront.chars⟩
          · obtain ⟨d, hlast, hd⟩ := hfront.last
            exact ⟨d, by rw [List.getLast?_cons, hlast]; rfl, hd⟩
        · exact absurd hdot (by simp)

/-- An IPv4 address is made of digits and dots. -/
theorem isDotted_of_readIpv4Addr {l rest : List Char} {addr : Ipv4Addr}
    (h : readIpv4Addr l = some (addr, rest)) : ∃ front, l = front ++ rest ∧ IsDotted front := by
  obtain ⟨⟨a, l₁⟩, ha, h⟩ := Option.bind_eq_some_iff.1 h
  obtain ⟨⟨b, l₂⟩, hb, h⟩ := Option.bind_eq_some_iff.1 h
  obtain ⟨⟨c, l₃⟩, hc, h⟩ := Option.bind_eq_some_iff.1 h
  obtain ⟨⟨d, l₄⟩, hd, h⟩ := Option.bind_eq_some_iff.1 h
  obtain ⟨-, rfl⟩ := Prod.mk.inj (Option.some.inj h)
  obtain ⟨fa, hfa, hdotted⟩ := isDotted_of_octet ha
  obtain ⟨fb, hfb, hb⟩ := isDotted_of_octet hb
  obtain ⟨fc, hfc, hc⟩ := isDotted_of_octet hc
  obtain ⟨fd, hfd, hd⟩ := isDotted_of_octet hd
  exact ⟨fa ++ (fb ++ (fc ++ fd)), by rw [hfa, hfb, hfc, hfd]; simp only [List.append_assoc],
    hdotted.append (hb.append (hc.append hd))⟩

/-! ## Colons -/

theorem count_colon_of_isDotted {front : List Char} (h : IsDotted front) : front.count ':' = 0 := by
  rw [List.count_eq_zero]
  intro hmem
  rcases h.chars ':' hmem with hdigit | hdot
  · exact absurd hdigit (by decide +kernel)
  · exact absurd hdot (by decide)

theorem count_colon_of_readIpv4Addr {l rest : List Char} {addr : Ipv4Addr}
    (h : readIpv4Addr l = some (addr, rest)) : l.count ':' = rest.count ':' := by
  obtain ⟨front, rfl, hfront⟩ := isDotted_of_readIpv4Addr h
  rw [List.count_append, count_colon_of_isDotted hfront, Nat.zero_add]

theorem count_colon_of_readGroup {l rest : List Char} {n : Nat}
    (h : readNumber 16 (some 4) true 65536 l = some (n, rest)) : l.count ':' = rest.count ':' := by
  obtain ⟨front, rfl, -, hall⟩ := readNumber_eq_append h
  rw [List.count_append, List.count_eq_zero.2, Nat.zero_add]
  intro hmem
  exact absurd (hall ':' hmem) (by decide +kernel)

/-- A separated item takes a colon unless it is the first. -/
theorem count_colon_of_readSeparator {α : Type} {reader : Reader α} {i : Nat} {l rest : List Char}
    {a : α} (hreader : ∀ {l rest : List Char} {a : α}, reader l = some (a, rest) →
      l.count ':' = rest.count ':')
    (h : readSeparator ':' i reader l = some (a, rest)) :
    l.count ':' = rest.count ':' + if i = 0 then 0 else 1 := by
  rw [readSeparator] at h
  by_cases hi : i = 0
  · rw [if_pos hi] at h ⊢
    exact hreader h
  · rw [if_neg hi] at h ⊢
    obtain ⟨⟨_, l'⟩, hcolon, h⟩ := Option.bind_eq_some_iff.1 h
    cases l with
    | nil => exact absurd hcolon (by simp [readGivenChar])
    | cons c l =>
        rw [readGivenChar] at hcolon
        split at hcolon
        · rename_i hc
          obtain rfl := (Prod.mk.inj (Option.some.inj hcolon)).2
          rw [hc, List.count_cons_self, hreader h]
        · exact absurd hcolon (by simp)

theorem eq_cons_of_readGivenChar {c : Char} {u : Unit} {l rest : List Char}
    (h : readGivenChar c l = some (u, rest)) : l = c :: rest := by
  cases l with
  | nil => exact absurd h (by simp [readGivenChar])
  | cons d l =>
      rw [readGivenChar] at h
      split at h
      · rename_i hd
        rw [hd, (Prod.mk.inj (Option.some.inj h)).2]
      · exact absurd h (by simp)

/-- Groups are separated by colons; an IPv4 address at the end stands for two of them. -/
theorem count_colon_of_readGroups {limit fuel i : Nat} {l rest : List Char} {gs : List UInt16}
    {v4 : Bool} (h : readGroups limit fuel i l = (gs, v4, rest)) :
    rest.count ':' ≤ l.count ':' ∧
      gs.length + rest.count ':' ≤ l.count ':' + if i = 0 then 2 else 1 := by
  have hstop : ∀ {n k : Nat}, n ≤ n ∧ 0 + n ≤ n + k := by
    intro n k
    omega
  induction fuel generalizing i l gs v4 rest with
  | zero =>
      rw [readGroups] at h
      simp only [Prod.mk.injEq] at h
      obtain ⟨rfl, -, rfl⟩ := h
      exact hstop
  | succ fuel ih =>
      rw [readGroups] at h
      cases hipv4 : (if i + 1 < limit then readSeparator ':' i readIpv4Addr l else none) with
      | some p =>
          obtain ⟨addr, rest'⟩ := p
          have hread : readSeparator ':' i readIpv4Addr l = some (addr, rest') := by
            split at hipv4
            · exact hipv4
            · exact absurd hipv4 (by simp)
          have hcount := count_colon_of_readSeparator count_colon_of_readIpv4Addr hread
          rw [hipv4] at h
          simp only [Prod.mk.injEq] at h
          obtain ⟨rfl, -, rfl⟩ := h
          simp only [List.length_cons, List.length_nil]
          split_ifs at hcount ⊢ <;> omega
      | none =>
          rw [hipv4] at h
          dsimp only at h
          cases hgroup : readSeparator ':' i (readNumber 16 (some 4) true 65536) l with
          | none =>
              rw [hgroup] at h
              simp only [Prod.mk.injEq] at h
              obtain ⟨rfl, -, rfl⟩ := h
              exact hstop
          | some p =>
              obtain ⟨g, l'⟩ := p
              have hcount := count_colon_of_readSeparator count_colon_of_readGroup hgroup
              rcases hnext : readGroups limit fuel (i + 1) l' with ⟨gs', v4', rest'⟩
              have hrest := ih hnext
              rw [if_neg (by omega)] at hrest
              rw [hgroup] at h
              dsimp only at h
              rw [hnext] at h
              simp only [Prod.mk.injEq] at h
              obtain ⟨rfl, -, rfl⟩ := h
              rw [List.length_cons]
              split_ifs at hcount ⊢ <;> omega

/-- An IPv6 address has at least two colons. -/
theorem two_le_count_of_readIpv6Addr {l rest : List Char} {addr : Ipv6Addr}
    (h : readIpv6Addr l = some (addr, rest)) : 2 ≤ l.count ':' := by
  unfold readIpv6Addr at h
  rcases hread : readGroups 8 8 0 l with ⟨head, headIpv4, l'⟩
  have hcount := count_colon_of_readGroups hread
  rw [if_pos rfl] at hcount
  rw [hread] at h
  dsimp only at h
  by_cases hfull : head.length = 8
  · omega
  · rw [if_neg hfull] at h
    by_cases hipv4 : headIpv4 = true
    · rw [if_pos hipv4] at h
      exact absurd h (by simp)
    · rw [if_neg hipv4] at h
      obtain ⟨p, hfirst, h⟩ := Option.bind_eq_some_iff.1 h
      obtain ⟨q, hsecond, -⟩ := Option.bind_eq_some_iff.1 h
      have hl' : l' = ':' :: ':' :: q.2 := by
        rw [eq_cons_of_readGivenChar hfirst, eq_cons_of_readGivenChar hsecond]
      rw [hl', List.count_cons_self, List.count_cons_self] at hcount
      omega

/-! ## Names and ports -/

theorem parseIpv6_of_count {s : String} (h : s.toList.count ':' < 2) :
    readIpv6Addr s.toList = none := by
  cases hread : readIpv6Addr s.toList with
  | none => rfl
  | some p =>
      have := two_le_count_of_readIpv6Addr hread
      omega

/-- Without a colon there is no port. -/
theorem parseSocketAddr_of_no_colon {s : String} (hcolon : ':' ∉ s.toList)
    (hbracket : ∀ c ∈ s.toList.head?, c ≠ '[') : parseSocketAddr s = none := by
  have hv4 : readSocketAddrV4 s.toList = none := by
    unfold readSocketAddrV4
    cases hipv4 : readIpv4Addr s.toList with
    | none => rfl
    | some p =>
        have hcount := count_colon_of_readIpv4Addr hipv4
        rw [List.count_eq_zero.2 hcolon] at hcount
        cases hport : readPort p.2 with
        | none => simp [hport]
        | some q =>
            obtain ⟨r, hr, -⟩ := Option.bind_eq_some_iff.1 hport
            rw [eq_cons_of_readGivenChar hr, List.count_cons_self] at hcount
            omega
  apply parseWith_eq_none
  rw [readSocketAddr, hv4, readSocketAddrV6_eq_none hbracket]
  rfl

/-- No address ends with a dot. -/
theorem parseIpAddr_trailing_dot {s : String} (hcolon : ':' ∉ s.toList)
    (hdot : s.toList.getLast? = some '.') : parseIpAddr s = none := by
  cases hparse : parseIpAddr s with
  | none => rfl
  | some ip =>
      have hread := parseWith_eq_some.1 hparse
      rw [readIpAddr] at hread
      cases hipv4 : readIpv4Addr s.toList with
      | none =>
          rw [hipv4] at hread
          dsimp only at hread
          rw [parseIpv6_of_count (by rw [List.count_eq_zero.2 hcolon]; decide)] at hread
          exact absurd hread (by simp)
      | some p =>
          rw [hipv4] at hread
          obtain ⟨-, hrest⟩ := Prod.mk.inj (Option.some.inj hread)
          obtain ⟨front, hfront, hdotted⟩ := isDotted_of_readIpv4Addr hipv4
          rw [hrest, List.append_nil] at hfront
          obtain ⟨c, hlast, hc⟩ := hdotted.last
          rw [← hfront, hdot] at hlast
          obtain rfl := Option.some.inj hlast
          exact absurd hc (by decide +kernel)

section BeforeColon

variable {l rest : List Char}

theorem readDigits_before_colon {radix : Nat} (hcolon : toDigit radix ':' = none) :
    readDigits radix (l ++ ':' :: rest) =
      ((readDigits radix l).1, (readDigits radix l).2 ++ ':' :: rest) := by
  induction l with
  | nil =>
      have hstop : readDigits radix (':' :: rest) = ([], ':' :: rest) := by
        rw [readDigits, hcolon]
      rw [List.nil_append, hstop]
      rfl
  | cons c l ih =>
      rw [List.cons_append, readDigits, readDigits]
      cases toDigit radix c with
      | none => rfl
      | some d =>
          dsimp only
          rw [ih]

/-- A number in front of a colon is one on its own. -/
theorem readNumber_before_colon {maxDigits : Option Nat} {bound : Nat} :
    readNumber 10 maxDigits false bound (l ++ ':' :: rest) =
      (readNumber 10 maxDigits false bound l).map fun p => (p.1, p.2 ++ ':' :: rest) := by
  rw [readNumber, readNumber, readDigits_before_colon (by decide +kernel)]
  dsimp only
  have hhead : (readDigits 10 l).1 = [] ∨ (l ++ ':' :: rest).head? = l.head? := by
    cases l with
    | nil => exact .inl rfl
    | cons c l => exact .inr rfl
  rcases hhead with hnil | hhead
  · rw [if_pos (.inl hnil), if_pos (.inl hnil)]
    rfl
  · rw [hhead]
    split_ifs <;> rfl

theorem readOctet_before_colon (i : Nat) :
    readSeparator '.' i (readNumber 10 (some 3) false 256) (l ++ ':' :: rest) =
      (readSeparator '.' i (readNumber 10 (some 3) false 256) l).map fun p =>
        (p.1, p.2 ++ ':' :: rest) := by
  rw [readSeparator, readSeparator]
  by_cases hi : i = 0
  · rw [if_pos hi, if_pos hi, readNumber_before_colon]
  · rw [if_neg hi, if_neg hi]
    cases l with
    | nil => rfl
    | cons c l =>
        rw [List.cons_append, readGivenChar, readGivenChar]
        by_cases hc : c = '.'
        · rw [if_pos hc, if_pos hc]
          exact readNumber_before_colon
        · rw [if_neg hc, if_neg hc]
          rfl

/-- An IPv4 address in front of a colon is one on its own. -/
theorem readIpv4Addr_before_colon :
    readIpv4Addr (l ++ ':' :: rest) =
      (readIpv4Addr l).map fun p => (p.1, p.2 ++ ':' :: rest) := by
  unfold readIpv4Addr
  dsimp only
  rw [readOctet_before_colon]
  cases h₀ : readSeparator '.' 0 (readNumber 10 (some 3) false 256) l with
  | none => rfl
  | some p₀ =>
      simp only [Option.map_some, Option.bind_eq_bind, Option.bind_some]
      rw [readOctet_before_colon]
      cases h₁ : readSeparator '.' 1 (readNumber 10 (some 3) false 256) p₀.2 with
      | none => rfl
      | some p₁ =>
          simp only [Option.map_some, Option.bind_some]
          rw [readOctet_before_colon]
          cases h₂ : readSeparator '.' 2 (readNumber 10 (some 3) false 256) p₁.2 with
          | none => rfl
          | some p₂ =>
              simp only [Option.map_some, Option.bind_some]
              rw [readOctet_before_colon]
              cases h₃ : readSeparator '.' 3 (readNumber 10 (some 3) false 256) p₂.2 with
              | none => rfl
              | some p₃ => rfl

end BeforeColon

section HostPort

variable {host port : String}

/-- A name and a port are an address with a port only if the name is an address. -/
theorem parseSocketAddr_host_port (hhost : parseIpAddr host = none) (hcolon : ':' ∉ host.toList)
    (hbracket : ∀ c ∈ (host ++ ":" ++ port).toList.head?, c ≠ '[') :
    parseSocketAddr (host ++ ":" ++ port) = none := by
  have htext : (host ++ ":" ++ port).toList = host.toList ++ ':' :: port.toList := by
    rw [String.toList_append, String.toList_append, List.append_assoc]
    rfl
  have hv4 : readSocketAddrV4 (host ++ ":" ++ port).toList = none := by
    unfold readSocketAddrV4
    rw [htext, readIpv4Addr_before_colon]
    cases hipv4 : readIpv4Addr host.toList with
    | none => rfl
    | some p =>
        obtain ⟨addr, rest⟩ := p
        simp only [Option.map_some, Option.bind_eq_bind, Option.bind_some]
        cases hport : readPort (rest ++ ':' :: port.toList) with
        | none => rfl
        | some q =>
            obtain ⟨r, hr, -⟩ := Option.bind_eq_some_iff.1 hport
            have hrest := eq_cons_of_readGivenChar hr
            cases rest with
            | nil =>
                have hip : parseIpAddr host = some (.v4 addr) := by
                  apply parseWith_eq_some.2
                  rw [readIpAddr, hipv4]
                rw [hhost] at hip
                exact absurd hip (by simp)
            | cons c rest =>
                obtain ⟨front, hfront, -⟩ := isDotted_of_readIpv4Addr hipv4
                rw [List.cons_append] at hrest
                rw [(List.cons.inj hrest).1] at hfront
                exact absurd (by rw [hfront]; simp) hcolon
  apply parseWith_eq_none
  rw [readSocketAddr, hv4, readSocketAddrV6_eq_none hbracket]
  rfl

/-- A name and a port are no address. -/
theorem parseIpAddr_host_port (hcolon : ':' ∉ host.toList) (hport : ':' ∉ port.toList) :
    parseIpAddr (host ++ ":" ++ port) = none := by
  have htext : (host ++ ":" ++ port).toList = host.toList ++ ':' :: port.toList := by
    rw [String.toList_append, String.toList_append, List.append_assoc]
    rfl
  have hcount : (host ++ ":" ++ port).toList.count ':' = 1 := by
    rw [htext, List.count_append, List.count_cons_self, List.count_eq_zero.2 hcolon,
      List.count_eq_zero.2 hport]
  cases hparse : parseIpAddr (host ++ ":" ++ port) with
  | none => rfl
  | some ip =>
      have hread := parseWith_eq_some.1 hparse
      rw [readIpAddr] at hread
      cases hipv4 : readIpv4Addr (host ++ ":" ++ port).toList with
      | none =>
          rw [hipv4] at hread
          dsimp only at hread
          rw [parseIpv6_of_count (by omega)] at hread
          exact absurd hread (by simp)
      | some p =>
          have hsame := count_colon_of_readIpv4Addr hipv4
          rw [hipv4] at hread
          obtain ⟨-, hrest⟩ := Prod.mk.inj (Option.some.inj hread)
          rw [hcount, hrest] at hsame
          exact absurd hsame (by decide)

end HostPort

end DnsFilter.Net
