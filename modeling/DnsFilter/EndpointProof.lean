import DnsFilter.Bootstrap
import DnsFilter.Lib.NetSyntax
import DnsFilter.Lib.NetText
import DnsFilter.Lib.WebUrl
import DnsFilter.Lib.Result

/-!
# The endpoints of encrypted upstreams

The DoT and the DoQ client try four grammars on the same text: an address with a port, an address,
a name with a port and a name (`readEndpoint`). What they make of a text differs in the default
port only (`EndpointKind.toOption_parseEndpoint`).

* `endpoint_grammars` — printed addresses and host names, with or without a port and the scheme, give
  the endpoint they denote, and the two clients agree on every text without a scheme.
* `parseDohUrl_static_iff` — of the addresses in DoH URLs only those of IPv4 are used as addresses:
  an IPv6 address stands in brackets there, and the text with its brackets is looked up as a name.
-/

namespace DnsFilter

open Net Text Numeral WebUrl

/-! ## What a text denotes -/

/-- What an endpoint is at: an address or a name. -/
inductive EndpointTarget
  | address (ip : IpAddr) (scopeId : UInt32)
  | name (host : String)
  deriving DecidableEq, Repr

/-- The endpoint at a port. -/
def EndpointTarget.endpoint : EndpointTarget → Nat → Endpoint
  | .address ip scopeId, port => .static ⟨ip, UInt16.ofNat port, scopeId⟩
  | .name host, port => .hostname host port

def isHostLabel (label : String) : Bool :=
  !(label = "" || label.utf8ByteSize > 63) && !(startsWith "-" label || endsWith "-" label) &&
    label.toList.all fun c => isAsciiAlphanumeric c || c == '-'

def isHostname (host : String) : Bool :=
  !(host = "" || host.utf8ByteSize > 253) && (split '.' host).all isHostLabel

/-- A name, with its port if one is given. -/
def readHostname (value : String) : Option (EndpointTarget × Option Nat) :=
  let host := trimEndMatches '.' (EndpointKind.splitPort value).1
  if isHostname host then
    match (EndpointKind.splitPort value).2 with
    | none => some (.name host, none)
    | some port => (parseUnsigned 16 port).map fun port => (.name host, some port)
  else none

/-- What a text without a scheme denotes, with the port if it names one. -/
def readEndpoint (value : String) : Option (EndpointTarget × Option Nat) :=
  if trim value = "" then none
  else match parseSocketAddr value with
    | some address => some (.address address.ip address.scopeId, some address.port.toNat)
    | none => match parseIpAddr value with
      | some ip => some (.address ip 0, none)
      | none => readHostname value

namespace EndpointKind

variable {kind : EndpointKind}

theorem validateLabel_eq_ok {label : String} :
    kind.validateLabel label = .ok () ↔ isHostLabel label = true := by
  unfold validateLabel isHostLabel
  generalize (decide (label = "") || decide (label.utf8ByteSize > 63)) = length
  generalize (startsWith "-" label || endsWith "-" label) = hyphen
  generalize (label.toList.all fun c => isAsciiAlphanumeric c || c == '-') = chars
  cases length <;> cases hyphen <;> cases chars <;> simp

theorem validateHostname_eq_ok {host : String} :
    kind.validateHostname host = .ok () ↔ isHostname host = true := by
  unfold validateHostname isHostname
  generalize (decide (host = "") || decide (host.utf8ByteSize > 253)) = length
  cases length with
  | true => simp
  | false =>
      rw [if_neg (by simp), forM_eq_ok]
      simp [validateLabel_eq_ok]

theorem toOption_parseHostname (kind : EndpointKind) (value : String) :
    ((kind.parseHostnameWithOptionalPort value).map fun p => Endpoint.hostname p.1 p.2).toOption =
      (readHostname value).map fun r => r.1.endpoint (r.2.getD kind.defaultPort) := by
  unfold parseHostnameWithOptionalPort readHostname
  rcases hsplit : splitPort value with ⟨hostText, portText⟩
  dsimp only
  by_cases hhost : isHostname (trimEndMatches '.' hostText) = true
  · rw [if_pos hhost, validateHostname_eq_ok.2 hhost]
    cases portText with
    | none => rfl
    | some port =>
        cases hport : parseUnsigned 16 port with
        | none => simp [hport, bind, Except.bind, Except.map, Except.toOption]
        | some n =>
            simp [hport, bind, Except.bind, Except.map, Except.toOption, pure, Except.pure,
              EndpointTarget.endpoint]
  · rw [if_neg hhost]
    cases hvalid : kind.validateHostname (trimEndMatches '.' hostText) with
    | ok u => exact absurd (validateHostname_eq_ok.1 hvalid) hhost
    | error e => rfl

/-- **What a client makes of a text** without its scheme. -/
theorem toOption_parseEndpoint (kind : EndpointKind) (value : String) :
    (kind.parseEndpoint value).toOption =
      (readEndpoint ((stripPrefix kind.scheme value).getD value)).map fun r =>
        r.1.endpoint (r.2.getD kind.defaultPort) := by
  unfold parseEndpoint readEndpoint
  generalize (stripPrefix kind.scheme value).getD value = endpoint
  dsimp only
  by_cases hempty : trim endpoint = ""
  · rw [if_pos hempty, if_pos hempty]
    rfl
  · rw [if_neg hempty, if_neg hempty]
    cases parseSocketAddr endpoint with
    | some address =>
        simp [Except.toOption, EndpointTarget.endpoint]
    | none =>
        dsimp only
        cases parseIpAddr endpoint with
        | some ip => rfl
        | none => exact toOption_parseHostname kind endpoint

end EndpointKind

/-! ## Host names -/

section Hostname

variable {host : String}

theorem trim_ne_empty_of_mem {c : Char} (hc : isWhitespace c = false) {s : String} (h : c ∈ s.toList) :
    trim s ≠ "" := by
  intro hempty
  have hmem := mem_trim hc h
  rw [hempty] at hmem
  exact absurd hmem (by simp)

theorem ne_empty_of_isHostname (h : isHostname host = true) : host ≠ "" := by
  intro hempty
  rw [hempty] at h
  exact absurd h (by decide +kernel)

theorem chars_of_isHostname (h : isHostname host = true) :
    ∀ c ∈ host.toList, isAsciiAlphanumeric c = true ∨ c = '-' ∨ c = '.' := by
  intro c hc
  by_cases hdot : c = '.'
  · exact .inr (.inr hdot)
  · obtain ⟨label, hlabel, hmem⟩ := exists_mem_split hdot hc
    rw [isHostname, Bool.and_eq_true, List.all_eq_true] at h
    have hchars := h.2 label hlabel
    rw [isHostLabel, Bool.and_eq_true, List.all_eq_true] at hchars
    have hchar := hchars.2 c hmem
    rw [Bool.or_eq_true, beq_iff_eq] at hchar
    rcases hchar with hchar | hchar
    · exact .inl hchar
    · exact .inr (.inl hchar)

theorem not_mem_of_isHostname (h : isHostname host = true) {c : Char}
    (hc : isAsciiAlphanumeric c = false) (hhyphen : c ≠ '-') (hdot : c ≠ '.') :
    c ∉ host.toList := by
  intro hmem
  rcases chars_of_isHostname h c hmem with halnum | hhyphen' | hdot'
  · rw [hc] at halnum
    exact absurd halnum (by simp)
  · exact hhyphen hhyphen'
  · exact hdot hdot'

/-- A host name does not end with a dot. -/
theorem getLast?_of_isHostname (h : isHostname host = true) :
    ∀ c ∈ host.toList.getLast?, c ≠ '.' := by
  intro c hc hdot
  subst hdot
  have hends : endsWith "." host = true := by
    rw [endsWith, List.isSuffixOf_iff_suffix]
    obtain ⟨front, hfront⟩ := List.getLast?_eq_some_iff.1 hc
    exact ⟨front, hfront.symm⟩
  obtain ⟨rest, rfl⟩ := endsWith_iff.1 hends
  have hlabel : "" ∈ split '.' (rest ++ ".") := by
    have hsplit := @split_append '.' "." rfl rest ""
    rw [String.append_empty] at hsplit
    rw [hsplit, @split_eq_singleton '.' "" (by simp)]
    simp
  rw [isHostname, Bool.and_eq_true, List.all_eq_true] at h
  exact absurd (h.2 "" hlabel) (by decide +kernel)

theorem trim_ne_empty_of_isHostname (h : isHostname host = true) (ending : String) :
    trim (host ++ ending) ≠ "" := by
  obtain ⟨c, hc⟩ := List.exists_mem_of_ne_nil host.toList (by
    intro hnil
    exact ne_empty_of_isHostname h (String.toList_eq_nil_iff.1 hnil))
  have hspace : isWhitespace c = false := by
    apply not_isWhitespace_of_isSchemeChar
    rcases chars_of_isHostname h c hc with halnum | rfl | rfl
    · rw [isSchemeChar, halnum]
      rfl
    · rfl
    · rfl
  exact trim_ne_empty_of_mem hspace (by simp [hc])

theorem stripPrefix_of_isHostname (h : isHostname host = true) {scheme ending : String}
    (hscheme : '/' ∈ scheme.toList) (hending : '/' ∉ ending.toList) :
    stripPrefix scheme (host ++ ending) = none := by
  rw [stripPrefix, if_neg]
  intro hstarts
  obtain ⟨rest, hrest⟩ := startsWith_iff.1 hstarts
  have hmem : '/' ∈ (host ++ ending).toList := by
    rw [hrest, String.toList_append]
    exact List.mem_append_left _ hscheme
  rw [String.toList_append, List.mem_append] at hmem
  rcases hmem with hmem | hmem
  · exact not_mem_of_isHostname h (by decide) (by decide) (by decide) hmem
  · exact hending hmem

theorem head?_of_isHostname (h : isHostname host = true) (ending : String) :
    ∀ c ∈ (host ++ ending).toList.head?, c ≠ '[' := by
  intro c hc heq
  subst heq
  rw [String.toList_append, List.head?_append_of_ne_nil] at hc
  · exact not_mem_of_isHostname h (by decide) (by decide) (by decide) (List.mem_of_mem_head? hc)
  · intro hnil
    exact ne_empty_of_isHostname h (String.toList_eq_nil_iff.1 hnil)

theorem trimEndMatches_of_isHostname (h : isHostname host = true) {dots : String}
    (hdots : ∀ c ∈ dots.toList, c = '.') : trimEndMatches '.' (host ++ dots) = host := by
  rw [trimEndMatches_append_of_forall hdots, trimEndMatches_eq_self (getLast?_of_isHostname h)]

/-- A name that is no address, with or without trailing dots, denotes itself. -/
theorem readEndpoint_hostname (h : isHostname host = true) (hip : parseIpAddr host = none)
    {dots : String} (hdots : ∀ c ∈ dots.toList, c = '.') :
    readEndpoint (host ++ dots) = some (.name host, none) := by
  have hcolon : ':' ∉ (host ++ dots).toList := by
    rw [String.toList_append, List.mem_append]
    intro hmem
    rcases hmem with hmem | hmem
    · exact not_mem_of_isHostname h (by decide) (by decide) (by decide) hmem
    · exact absurd (hdots ':' hmem) (by decide)
  have haddress : parseIpAddr (host ++ dots) = none := by
    by_cases hempty : dots = ""
    · rw [hempty, String.append_empty]
      exact hip
    · apply parseIpAddr_trailing_dot hcolon
      have hne : dots.toList ≠ [] := fun hnil => hempty (String.toList_eq_nil_iff.1 hnil)
      rw [String.toList_append, List.getLast?_append_of_ne_nil _ hne,
        List.getLast?_eq_getLast_of_ne_nil hne,
        hdots _ (List.getLast_mem hne)]
  rw [readEndpoint, if_neg (trim_ne_empty_of_isHostname h dots),
    parseSocketAddr_of_no_colon hcolon (head?_of_isHostname h dots), haddress]
  dsimp only
  rw [readHostname, EndpointKind.splitPort, rsplitOnce_eq_none hcolon]
  dsimp only
  rw [trimEndMatches_of_isHostname h hdots, if_pos h]

/-- A name that is no address, in front of a port, denotes itself at that port. -/
theorem readEndpoint_hostname_port (h : isHostname host = true) (hip : parseIpAddr host = none)
    {port : String} {n : Nat} (hport : ':' ∉ port.toList) (hread : parseUnsigned 16 port = some n) :
    readEndpoint (host ++ ":" ++ port) = some (.name host, some n) := by
  have hcolon : ':' ∉ host.toList :=
    not_mem_of_isHostname h (by decide) (by decide) (by decide)
  have hhead : ∀ c ∈ (host ++ ":" ++ port).toList.head?, c ≠ '[' := by
    rw [String.append_assoc]
    exact head?_of_isHostname h _
  have htrim : trim (host ++ ":" ++ port) ≠ "" := by
    rw [String.append_assoc]
    exact trim_ne_empty_of_isHostname h _
  have hcontains : contains ":" host = false := by
    rw [contains, decide_eq_false_iff_not]
    intro hinside
    exact hcolon (hinside.subset (by simp))
  have hsplit : EndpointKind.splitPort (host ++ ":" ++ port) = (host, some port) := by
    rw [EndpointKind.splitPort, rsplitOnce_append rfl host hport]
    dsimp only
    rw [hcontains]
    rfl
  rw [readEndpoint, if_neg htrim, parseSocketAddr_host_port hip hcolon hhead,
    parseIpAddr_host_port hcolon hport]
  dsimp only
  rw [readHostname, hsplit]
  dsimp only
  rw [trimEndMatches_eq_self (getLast?_of_isHostname h), if_pos h, hread]
  rfl

theorem not_mem_toString {c : Char} (hc : c.isDigit = false) (n : Nat) :
    c ∉ (toString n).toList := by
  rw [show (toString n).toList = Nat.toDigits 10 n from Nat.toList_repr]
  intro hmem
  have hdigit : c.isDigit = true := Nat.isDigit_of_mem_toDigits (by decide) (by decide) hmem
  rw [hc] at hdigit
  exact absurd hdigit (by simp)

theorem parseUnsigned_toString_port (port : UInt16) :
    parseUnsigned 16 (toString port.toNat) = some port.toNat := by
  have hlt : port.toNat < 2 ^ 16 := port.toNat_lt
  rw [parseUnsigned_toString, Option.filter_eq_some_iff]
  exact ⟨rfl, decide_eq_true hlt⟩

end Hostname

/-! ## Printed addresses -/

theorem readEndpoint_socketAddr (ip : IpAddr) (port : UInt16) :
    readEndpoint (SocketAddr.display ⟨ip, port, 0⟩) = some (.address ip 0, some port.toNat) := by
  have htrim : trim (SocketAddr.display ⟨ip, port, 0⟩) ≠ "" := by
    apply @trim_ne_empty_of_mem ':' (by decide)
    cases ip with
    | v4 addr => simp [SocketAddr.display]
    | v6 addr => simp [SocketAddr.display]
  rw [readEndpoint, if_neg htrim, parseSocketAddr_display]

theorem readEndpoint_ipAddr (ip : IpAddr) :
    readEndpoint ip.display = some (.address ip 0, none) := by
  have hparse := parseIpAddr_display ip
  have htrim : trim ip.display ≠ "" := by
    cases ip with
    | v4 addr =>
        apply @trim_ne_empty_of_mem '.' (by decide)
        simp [IpAddr.display, IpAddr.chars, Ipv4Addr.chars]
    | v6 addr =>
        apply @trim_ne_empty_of_mem ':' (by decide)
        have hread := @readIpv6Addr_chars addr [] (by simp [EndsIpv6])
        rw [List.append_nil] at hread
        have hcount := two_le_count_of_readIpv6Addr hread
        rw [IpAddr.display, String.toList_ofList]
        exact List.count_pos_iff.1 (by rw [IpAddr.chars]; omega)
  rw [readEndpoint, if_neg htrim, parseSocketAddr_of_parseIpAddr hparse, hparse]

/-! ## With and without the scheme -/

/-- A text that is an address or an address with a port starts with no scheme. -/
theorem stripPrefix_of_parse {scheme value : String} {c : Char} {rest : List Char}
    (hscheme : scheme.toList = c :: rest) (hdigit : toDigit 16 c = none) (hcolon : c ≠ ':')
    (hbracket : c ≠ '[')
    (h : parseSocketAddr value ≠ none ∨ parseIpAddr value ≠ none) :
    stripPrefix scheme value = none := by
  rw [stripPrefix, if_neg]
  intro hstarts
  obtain ⟨tail, rfl⟩ := startsWith_iff.1 hstarts
  have hchars : (scheme ++ tail).toList = c :: (rest ++ tail.toList) := by
    rw [String.toList_append, hscheme, List.cons_append]
  rcases h with h | h
  · apply h
    apply parseWith_eq_none
    rw [hchars]
    exact readSocketAddr_eq_none (toDigit_ten_of_sixteen hdigit) hbracket
  · apply h
    apply parseWith_eq_none
    rw [hchars]
    exact readIpAddr_eq_none hdigit hcolon

namespace EndpointKind

variable {kind : EndpointKind} {pre value : String}

theorem stripPrefix_address (hkind : kind ∈ [dotEndpoint, doqEndpoint])
    (h : parseSocketAddr value ≠ none ∨ parseIpAddr value ≠ none) :
    stripPrefix kind.scheme value = none := by
  simp only [List.mem_cons, List.not_mem_nil, or_false] at hkind
  rcases hkind with rfl | rfl
  · exact @stripPrefix_of_parse _ _ 't' _ rfl (by decide) (by decide) (by decide) h
  · exact @stripPrefix_of_parse _ _ 'q' _ rfl (by decide) (by decide) (by decide) h

theorem slash_mem_scheme (hkind : kind ∈ [dotEndpoint, doqEndpoint]) :
    '/' ∈ kind.scheme.toList := by
  simp only [List.mem_cons, List.not_mem_nil, or_false] at hkind
  rcases hkind with rfl | rfl <;> decide

/-- The scheme in front of a text that does not start with it makes no difference. -/
theorem parseEndpoint_eq_ok (hpre : pre ∈ ["", kind.scheme])
    (hstrip : stripPrefix kind.scheme value = none) {target : EndpointTarget} {port : Option Nat}
    (h : readEndpoint value = some (target, port)) :
    kind.parseEndpoint (pre ++ value) = .ok (target.endpoint (port.getD kind.defaultPort)) := by
  have hvalue : (stripPrefix kind.scheme (pre ++ value)).getD (pre ++ value) = value := by
    simp only [List.mem_cons, List.not_mem_nil, or_false] at hpre
    rcases hpre with rfl | rfl
    · rw [String.empty_append, hstrip]
      rfl
    · rw [stripPrefix_append]
      rfl
  have hparse := toOption_parseEndpoint kind (pre ++ value)
  rw [hvalue, h] at hparse
  exact toOption_eq_some.1 hparse

theorem parseEndpoint_socketAddr (hkind : kind ∈ [dotEndpoint, doqEndpoint])
    (hpre : pre ∈ ["", kind.scheme]) (ip : IpAddr) (port : UInt16) :
    kind.parseEndpoint (pre ++ SocketAddr.display ⟨ip, port, 0⟩) =
      .ok (.static ⟨ip, port, 0⟩) := by
  have hstrip : stripPrefix kind.scheme (SocketAddr.display ⟨ip, port, 0⟩) = none := by
    apply stripPrefix_address hkind
    rw [parseSocketAddr_display]
    exact .inl (by simp)
  rw [parseEndpoint_eq_ok hpre hstrip (readEndpoint_socketAddr ip port)]
  simp [EndpointTarget.endpoint]

theorem parseEndpoint_ipAddr (hkind : kind ∈ [dotEndpoint, doqEndpoint])
    (hpre : pre ∈ ["", kind.scheme]) (ip : IpAddr) :
    kind.parseEndpoint (pre ++ ip.display) =
      .ok (.static ⟨ip, UInt16.ofNat kind.defaultPort, 0⟩) := by
  have hstrip : stripPrefix kind.scheme ip.display = none := by
    apply stripPrefix_address hkind
    rw [parseIpAddr_display]
    exact .inr (by simp)
  exact parseEndpoint_eq_ok hpre hstrip (readEndpoint_ipAddr ip)

theorem parseEndpoint_hostname_port (hkind : kind ∈ [dotEndpoint, doqEndpoint])
    (hpre : pre ∈ ["", kind.scheme]) {host : String} (hhost : isHostname host = true)
    (hip : parseIpAddr host = none) (port : UInt16) :
    kind.parseEndpoint (pre ++ (host ++ ":" ++ toString port.toNat)) =
      .ok (.hostname host port.toNat) := by
  have hread := readEndpoint_hostname_port hhost hip (not_mem_toString (by decide) _)
    (parseUnsigned_toString_port port)
  have hstrip : stripPrefix kind.scheme (host ++ ":" ++ toString port.toNat) = none := by
    rw [String.append_assoc]
    apply stripPrefix_of_isHostname hhost (slash_mem_scheme hkind)
    rw [String.toList_append, List.mem_append]
    intro hmem
    rcases hmem with hmem | hmem
    · exact absurd hmem (by decide)
    · exact not_mem_toString (by decide) _ hmem
  exact parseEndpoint_eq_ok hpre hstrip hread

theorem parseEndpoint_hostname (hkind : kind ∈ [dotEndpoint, doqEndpoint])
    (hpre : pre ∈ ["", kind.scheme]) {host dots : String} (hhost : isHostname host = true)
    (hip : parseIpAddr host = none) (hdots : ∀ c ∈ dots.toList, c = '.') :
    kind.parseEndpoint (pre ++ (host ++ dots)) = .ok (.hostname host kind.defaultPort) := by
  have hstrip : stripPrefix kind.scheme (host ++ dots) = none := by
    apply stripPrefix_of_isHostname hhost (slash_mem_scheme hkind)
    intro hmem
    exact absurd (hdots '/' hmem) (by decide)
  exact parseEndpoint_eq_ok hpre hstrip (readEndpoint_hostname hhost hip hdots)

/-- Without a scheme the clients differ in the default port only. -/
theorem toOption_parseEndpoint_plain (hkind : kind ∈ [dotEndpoint, doqEndpoint])
    (htls : stripPrefix "tls://" value = none) (hquic : stripPrefix "quic://" value = none) :
    (kind.parseEndpoint value).toOption =
      (readEndpoint value).map fun r => r.1.endpoint (r.2.getD kind.defaultPort) := by
  have hstrip : stripPrefix kind.scheme value = none := by
    simp only [List.mem_cons, List.not_mem_nil, or_false] at hkind
    rcases hkind with rfl | rfl
    · exact htls
    · exact hquic
  rw [toOption_parseEndpoint, hstrip]
  rfl

end EndpointKind

/-- **The endpoint syntax of the DoT and the DoQ client.** The four grammars do not get in each
other's way, and the two clients read every text without a scheme alike. -/
theorem endpoint_grammars :
    (∀ kind ∈ [dotEndpoint, doqEndpoint], ∀ pre ∈ ["", kind.scheme],
      (∀ (ip : IpAddr) (port : UInt16),
        kind.parseEndpoint (pre ++ SocketAddr.display ⟨ip, port, 0⟩) =
            .ok (.static ⟨ip, port, 0⟩) ∧
          kind.parseEndpoint (pre ++ ip.display) =
            .ok (.static ⟨ip, UInt16.ofNat kind.defaultPort, 0⟩)) ∧
      ∀ host, kind.validateHostname host = .ok () → parseIpAddr host = none →
        (∀ port : UInt16,
          kind.parseEndpoint (pre ++ (host ++ ":" ++ toString port.toNat)) =
            .ok (.hostname host port.toNat)) ∧
        ∀ dots : String, (∀ c ∈ dots.toList, c = '.') →
          kind.parseEndpoint (pre ++ (host ++ dots)) = .ok (.hostname host kind.defaultPort)) ∧
    ∀ value, stripPrefix "tls://" value = none → stripPrefix "quic://" value = none →
      ∃ read : Option (EndpointTarget × Option Nat), ∀ kind ∈ [dotEndpoint, doqEndpoint],
        (kind.parseEndpoint value).toOption =
          read.map fun r => r.1.endpoint (r.2.getD kind.defaultPort) := by
  refine ⟨?_, ?_⟩
  · intro kind hkind pre hpre
    refine ⟨?_, ?_⟩
    · intro ip port
      exact ⟨EndpointKind.parseEndpoint_socketAddr hkind hpre ip port,
        EndpointKind.parseEndpoint_ipAddr hkind hpre ip⟩
    · intro host hvalid hip
      have hhost := EndpointKind.validateHostname_eq_ok.1 hvalid
      exact ⟨EndpointKind.parseEndpoint_hostname_port hkind hpre hhost hip,
        fun dots hdots => EndpointKind.parseEndpoint_hostname hkind hpre hhost hip hdots⟩
  · intro value htls hquic
    exact ⟨readEndpoint value, fun kind hkind =>
      EndpointKind.toOption_parseEndpoint_plain hkind htls hquic⟩

theorem endpoint_grammars_dnsGoogle :
    (dotEndpoint.validateHostname "dns.google" = .ok () ∧ parseIpAddr "dns.google" = none) ∧
      dotEndpoint.parseEndpoint ("tls://" ++ ("dns.google" ++ ":" ++ toString (53 : UInt16).toNat)) =
        .ok (.hostname "dns.google" (53 : UInt16).toNat) ∧
      doqEndpoint.parseEndpoint ("" ++ ("dns.google" ++ "..")) = .ok (.hostname "dns.google" 8853) ∧
      ∃ read : Option (EndpointTarget × Option Nat), ∀ kind ∈ [dotEndpoint, doqEndpoint],
        (kind.parseEndpoint "dns.google").toOption =
          read.map fun r => r.1.endpoint (r.2.getD kind.defaultPort) := by
  have hvalid : dotEndpoint.validateHostname "dns.google" = .ok () := by decide +kernel
  have hvalid' : doqEndpoint.validateHostname "dns.google" = .ok () := by decide +kernel
  have hip : parseIpAddr "dns.google" = none := by decide +kernel
  refine ⟨⟨hvalid, hip⟩, ?_, ?_, ?_⟩
  · exact ((endpoint_grammars.1 dotEndpoint (by simp) "tls://" (by decide)).2 _ hvalid hip).1 53
  · exact ((endpoint_grammars.1 doqEndpoint (by simp) "" (by simp)).2 _ hvalid' hip).2 ".."
      (by simp)
  · exact endpoint_grammars.2 "dns.google" (by decide +kernel) (by decide +kernel)

/-! ## DNS over HTTPS -/

/-- How `host_str` writes an address: an IPv6 address in brackets. -/
def IsHostLiteral (host : String) : IpAddr → Prop
  | .v4 addr => host = (IpAddr.v4 addr).display
  | .v6 addr => ∃ text, parseIpAddr text = some (.v6 addr) ∧ host = "[" ++ text ++ "]"

/-- The parts of an HTTPS URL at an address. The default port is not among them. -/
structure Url.IsAddressUrl (url : Url) (ip : IpAddr) (port : UInt16) : Prop where
  scheme : url.scheme = "https"
  hostStr : ∃ host, url.hostStr = some host ∧ IsHostLiteral host ip
  port : url.port = if port = 443 then none else some port.toNat

section Doh

variable {lib : Libraries} {value host : String} {url : Url} {ip : IpAddr} {port : UInt16}

theorem parseIpAddr_hostLiteral_v4 {addr : Ipv4Addr} (h : IsHostLiteral host (.v4 addr)) :
    parseIpAddr host = some (.v4 addr) := by
  rw [h, parseIpAddr_display]

theorem parseIpAddr_hostLiteral_v6 {addr : Ipv6Addr} (h : IsHostLiteral host (.v6 addr)) :
    parseIpAddr host = none := by
  obtain ⟨text, -, rfl⟩ := h
  apply parseWith_eq_none
  rw [String.toList_append, String.toList_append]
  exact readIpAddr_eq_none (by decide) (by decide)

theorem Url.IsAddressUrl.port_eq (h : url.IsAddressUrl ip port) :
    UInt16.ofNat (url.port.getD 443) = port := by
  rw [h.port]
  by_cases hdefault : port = 443
  · rw [if_pos hdefault, hdefault]
    rfl
  · rw [if_neg hdefault, Option.getD_some, UInt16.ofNat_toNat]

/-- What is made of a URL at an address: the host is looked up unless its text is an address. -/
theorem parseDohUrl_address (hparse : lib.urlParse value = some url)
    (hurl : url.IsAddressUrl ip port) (hhost : url.hostStr = some host) :
    ∃ path, parseDohUrl lib value =
      .ok (match parseIpAddr host with
        | some ip => .static ⟨ip, port, 0⟩
        | none => .hostname host (url.port.getD 443), host, path) := by
  unfold parseDohUrl
  rw [hparse]
  dsimp only
  rw [if_neg (by rw [hurl.scheme]; simp), hhost]
  dsimp only
  rw [hurl.port_eq]
  exact ⟨_, rfl⟩

/-- **Which addresses of a DoH URL are used as addresses**: those of IPv4. -/
theorem parseDohUrl_static_iff (hparse : lib.urlParse value = some url)
    (hurl : url.IsAddressUrl ip port) :
    (∃ name path, parseDohUrl lib value = .ok (.static ⟨ip, port, 0⟩, name, path)) ↔
      ∃ addr : Ipv4Addr, ip = .v4 addr := by
  obtain ⟨host, hhost, hliteral⟩ := hurl.hostStr
  obtain ⟨path, hresult⟩ := parseDohUrl_address hparse hurl hhost
  rw [hresult]
  cases ip with
  | v4 addr =>
      rw [parseIpAddr_hostLiteral_v4 hliteral]
      exact ⟨fun _ => ⟨addr, rfl⟩, fun _ => ⟨host, path, rfl⟩⟩
  | v6 addr =>
      rw [parseIpAddr_hostLiteral_v6 hliteral]
      simp

end Doh

/-- A URL library that knows two URLs. -/
def addressLibraries : Libraries where
  urlParse text :=
    if text = "https://1.1.1.1/dns-query" then
      some ⟨"https", some "1.1.1.1", none, "/dns-query"⟩
    else if text = "https://[::1]:8443/dns-query" then
      some ⟨"https", some "[::1]", some 8443, "/dns-query"⟩
    else none
  headerValueFromStr _ := true
  base64Encode text := text
  readToString _ := none
  trustAnchorsFromFile _ := none
  recursorNew roots _ _ _ := roots ≠ []

theorem parseDohUrl_static_iff_cloudflare :
    ∃ name path, parseDohUrl addressLibraries "https://1.1.1.1/dns-query" =
      .ok (.static ⟨.v4 ⟨1, 1, 1, 1⟩, 443, 0⟩, name, path) := by
  have hurl : Url.IsAddressUrl ⟨"https", some "1.1.1.1", none, "/dns-query"⟩
      (.v4 ⟨1, 1, 1, 1⟩) 443 := by
    refine ⟨rfl, ⟨"1.1.1.1", rfl, ?_⟩, rfl⟩
    unfold IsHostLiteral
    decide +kernel
  exact (parseDohUrl_static_iff rfl hurl).2 ⟨⟨1, 1, 1, 1⟩, rfl⟩

theorem not_static_ipv6 :
    ¬ ∀ (lib : Libraries) (value : String) (url : Url) (ip : IpAddr) (port : UInt16),
      lib.urlParse value = some url → url.IsAddressUrl ip port →
        ∃ name path, parseDohUrl lib value = .ok (.static ⟨ip, port, 0⟩, name, path) := by
  intro hall
  obtain ⟨name, path, h⟩ := hall addressLibraries "https://[::1]:8443/dns-query"
    ⟨"https", some "[::1]", some 8443, "/dns-query"⟩
    (.v6 (.ofSegments [0, 0, 0, 0, 0, 0, 0, 1])) 8443 rfl
    ⟨rfl, ⟨"[::1]", rfl, "::1", by decide +kernel, rfl⟩, rfl⟩
  have hresult : parseDohUrl addressLibraries "https://[::1]:8443/dns-query" =
      .ok (.hostname "[::1]" 8443, "[::1]", "/dns-query") := by decide +kernel
  rw [hresult] at h
  exact absurd h (by simp)

end DnsFilter
