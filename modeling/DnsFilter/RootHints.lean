import DnsFilter.Lib.NetText
import DnsFilter.Lib.Tokens

/-!
# Root hints

Where the recursive resolver starts (`recursive_resolver.rs`): the addresses of the root servers,
read from a `root.hints` file or compiled in, restricted to one address family; and the anchors that
its DNSSEC validation trusts. `RecursorConfig` is what is handed to the recursor.

* `recursor_roots` — the roots that are kept are exactly those that the deny list of the recursor
  lets through, and there is always a root to start from, unless a file has none of the family.
* `parseRootHints_text` — what is read from a file is the addresses of its server lines, in order,
  whatever the layout, the other records and the comments.
-/

namespace DnsFilter

open Net Text

/-- Effective outbound routing of a client. -/
structure OutboundRouting where
  bindAddress : Option IpAddr := none
  fwmark : Option UInt32 := none
  deriving DecidableEq, Repr

inductive NameserverIpFamily
  | ipv4Only
  | ipv6Only
  | both
  deriving DecidableEq, Repr

/-! ## The model -/

/-- `ROOT_HINTS_V4`, the servers a to m. -/
def rootHintsV4 : List Ipv4Addr :=
  [⟨198, 41, 0, 4⟩, ⟨199, 9, 14, 201⟩, ⟨192, 33, 4, 12⟩, ⟨199, 7, 91, 13⟩, ⟨192, 203, 230, 10⟩,
    ⟨192, 5, 5, 241⟩, ⟨192, 112, 36, 4⟩, ⟨198, 97, 190, 53⟩, ⟨192, 36, 148, 17⟩,
    ⟨192, 58, 128, 30⟩, ⟨193, 0, 14, 129⟩, ⟨199, 7, 83, 42⟩, ⟨202, 12, 27, 33⟩]

/-- `ROOT_HINTS_V6`. -/
def rootHintsV6 : List Ipv6Addr :=
  [[0x2001, 0x503, 0xba3e, 0, 0, 0, 0x2, 0x30], [0x2001, 0x500, 0x200, 0, 0, 0, 0, 0xb],
    [0x2001, 0x500, 0x2, 0, 0, 0, 0, 0xc], [0x2001, 0x500, 0x2d, 0, 0, 0, 0, 0xd],
    [0x2001, 0x500, 0xa8, 0, 0, 0, 0, 0xe], [0x2001, 0x500, 0x2f, 0, 0, 0, 0, 0xf],
    [0x2001, 0x500, 0x12, 0, 0, 0, 0, 0xd0d], [0x2001, 0x500, 0x1, 0, 0, 0, 0, 0x53],
    [0x2001, 0x7fe, 0, 0, 0, 0, 0, 0x53], [0x2001, 0x503, 0xc27, 0, 0, 0, 0x2, 0x30],
    [0x2001, 0x7fd, 0, 0, 0, 0, 0, 1], [0x2001, 0x500, 0x9f, 0, 0, 0, 0, 0x42],
    [0x2001, 0xdc3, 0, 0, 0, 0, 0, 0x35]].map Ipv6Addr.ofSegments

/-- `builtin_root_hints`. -/
def builtinRootHints : List SocketAddr :=
  rootHintsV4.map (fun ip => ⟨.v4 ip, 53, 0⟩) ++ rootHintsV6.map fun ip => ⟨.v6 ip, 53, 0⟩

/-- The type and the data of a line with the right number of fields. -/
def hintFields : List String → Option (String × String)
  | [_, _, rtype, rdata] | [_, _, _, rtype, rdata] => some (rtype, rdata)
  | _ => none

/-- The address in a record of one of the two types. -/
def hintAddress (rtype rdata : String) : Option SocketAddr :=
  if rtype = "A" then (parseIpv4Addr rdata).map fun ip => ⟨.v4 ip, 53, 0⟩
  else if rtype = "AAAA" then (parseIpv6Addr rdata).map fun ip => ⟨.v6 ip, 53, 0⟩
  else none

/-- One line in `parse_root_hints`. -/
def parseHintLine (line : String) : Option SocketAddr :=
  let line := trim line
  if line = "" || startsWith ";" line then none
  else (hintFields (splitWhitespace line)).bind fun (rtype, rdata) => hintAddress rtype rdata

/-- `parse_root_hints`. -/
def parseRootHints (content : String) : List SocketAddr :=
  (lines content).filterMap parseHintLine

/-- `DEFAULT_ROOT_HINTS_PATHS`. -/
def defaultRootHintsPaths : List String :=
  ["/usr/share/dns/root.hints", "/usr/share/dns-root-data/root.hints", "/var/named/root.hints"]

section Load

variable (readFile : String → Option String)

/-- The addresses of a file that can be read and has some. -/
def readRootHints (path : String) : Option (List SocketAddr) :=
  (readFile path).bind fun content =>
    if parseRootHints content = [] then none else some (parseRootHints content)

/-- `load_root_hints`: the configured file if there is one, otherwise the first usable file of the
operating system; in both cases the compiled-in addresses if that gives none. -/
def loadRootHints : Option String → List SocketAddr
  | some path => (readRootHints readFile path).getD builtinRootHints
  | none => (defaultRootHintsPaths.findSome? (readRootHints readFile)).getD builtinRootHints

end Load

/-- The public keys of a `root.key` file. -/
abbrev TrustAnchors := List (List UInt8)

/-- `DEFAULT_ROOT_KEY_PATHS`. -/
def defaultRootKeyPaths : List String :=
  ["/usr/share/dns/root.key", "/usr/share/dns-root-data/root.key"]

/-- `load_root_key`, given `TrustAnchors::from_file`: the configured file if there is one, otherwise
the first file of the operating system with a key; `none` stands for the compiled-in keys. -/
def loadRootKey (fromFile : String → Option TrustAnchors) : Option String → Option TrustAnchors
  | some path => (fromFile path).filter (· ≠ [])
  | none => defaultRootKeyPaths.findSome? fun path => (fromFile path).filter (· ≠ [])

/-- A network: an address and the length of the prefix that its members share with it. -/
structure IpNet where
  address : IpAddr
  prefixLen : Nat
  deriving DecidableEq, Repr

/-- An address as a number. -/
def ipValue : IpAddr → Nat
  | .v4 addr => ((addr.a.toNat * 256 + addr.b.toNat) * 256 + addr.c.toNat) * 256 + addr.d.toNat
  | .v6 addr => addr.segments.foldl (fun value segment => value * 65536 + segment.toNat) 0

/-- Membership of a CIDR network, which is what the deny list means: the address is of the same
family and has the same prefix. -/
def IpNet.hasMember (net : IpNet) (ip : IpAddr) : Bool :=
  match net.address, ip with
  | .v4 _, .v4 _ => ipValue net.address / 2 ^ (32 - net.prefixLen) == ipValue ip /
      2 ^ (32 - net.prefixLen)
  | .v6 _, .v6 _ => ipValue net.address / 2 ^ (128 - net.prefixLen) == ipValue ip /
      2 ^ (128 - net.prefixLen)
  | _, _ => false

/-- The addresses of the family, as the filter in `with_routing` tests them. -/
def NameserverIpFamily.allows : NameserverIpFamily → IpAddr → Bool
  | .both, _ => true
  | .ipv4Only, ip => match ip with
    | .v4 _ => true
    | .v6 _ => false
  | .ipv6Only, ip => match ip with
    | .v4 _ => false
    | .v6 _ => true

/-- The deny list in `with_routing`: `::/0` or `0.0.0.0/0`. -/
def NameserverIpFamily.denyNets : NameserverIpFamily → List IpNet
  | .both => []
  | .ipv4Only => [⟨.v6 (.ofSegments []), 0⟩]
  | .ipv6Only => [⟨.v4 ⟨0, 0, 0, 0⟩, 0⟩]

inductive DnssecPolicy
  | securityUnaware
  | validateWithStaticKey (trustAnchor : Option TrustAnchors)
  deriving DecidableEq, Repr

/-- What the recursor is built from. -/
structure RecursorConfig where
  roots : List IpAddr
  dnssecPolicy : DnssecPolicy
  denyServer : List IpNet
  recursionLimit : UInt8
  routing : OutboundRouting
  deriving DecidableEq, Repr

/-- `RecursiveResolver::with_routing`, up to the call of `Recursor::new`. -/
def recursorConfig (rootHints : List SocketAddr) (maxHops : UInt8) (family : NameserverIpFamily)
    (dnssec : Bool) (trustAnchor : Option TrustAnchors) (routing : OutboundRouting) :
    RecursorConfig where
  roots := (rootHints.map (·.ip)).filter family.allows
  dnssecPolicy := if dnssec then .validateWithStaticKey trustAnchor else .securityUnaware
  denyServer := family.denyNets
  recursionLimit := maxHops
  routing := routing

/-! ## Addresses that are used and addresses that are denied -/

theorem ipValue_v4_lt (addr : Ipv4Addr) : ipValue (.v4 addr) < 2 ^ 32 := by
  have ha := addr.a.toNat_lt
  have hb := addr.b.toNat_lt
  have hc := addr.c.toNat_lt
  have hd := addr.d.toNat_lt
  rw [ipValue]
  omega

theorem foldl_segments_lt (segments : List UInt16) (n k : Nat) (h : n < 65536 ^ k) :
    segments.foldl (fun value segment => value * 65536 + segment.toNat) n <
      65536 ^ (k + segments.length) := by
  induction segments generalizing n k with
  | nil => exact h
  | cons segment segments ih =>
      have hlt : n * 65536 + segment.toNat < 65536 ^ (k + 1) := by
        have := segment.toNat_lt
        rw [Nat.pow_succ]
        omega
      have hlen : k + (segment :: segments).length = k + 1 + segments.length := by
        rw [List.length_cons]
        omega
      rw [List.foldl_cons, hlen]
      exact ih _ _ hlt

theorem ipValue_v6_lt (addr : Ipv6Addr) : ipValue (.v6 addr) < 2 ^ 128 := by
  have h := foldl_segments_lt addr.segments 0 0 Nat.one_pos
  rw [addr.length_segments] at h
  exact h

/-- A network with an empty prefix has all addresses of its family. -/
theorem hasMember_of_prefixLen_zero (address ip : IpAddr) :
    (IpNet.mk address 0).hasMember ip = true ↔
      (∃ a b, address = .v4 a ∧ ip = .v4 b) ∨ ∃ a b, address = .v6 a ∧ ip = .v6 b := by
  rcases address with a | a <;> rcases ip with b | b
  · have hzero (addr : Ipv4Addr) : ipValue (.v4 addr) / 4294967296 = 0 :=
      Nat.div_eq_of_lt (ipValue_v4_lt addr)
    simp [IpNet.hasMember, hzero]
  · simp [IpNet.hasMember]
  · simp [IpNet.hasMember]
  · have hzero (addr : Ipv6Addr) :
        ipValue (.v6 addr) / 340282366920938463463374607431768211456 = 0 :=
      Nat.div_eq_of_lt (ipValue_v6_lt addr)
    simp [IpNet.hasMember, hzero]

/-- A family allows exactly the addresses that its deny list does not contain. -/
theorem allows_iff_not_denied (family : NameserverIpFamily) (ip : IpAddr) :
    family.allows ip = true ↔ ∀ net ∈ family.denyNets, net.hasMember ip = false := by
  cases family with
  | both => simp [NameserverIpFamily.allows, NameserverIpFamily.denyNets]
  | ipv4Only =>
      rw [NameserverIpFamily.denyNets, List.forall_mem_singleton, ← Bool.not_eq_true,
        hasMember_of_prefixLen_zero]
      cases ip <;> simp [NameserverIpFamily.allows]
  | ipv6Only =>
      rw [NameserverIpFamily.denyNets, List.forall_mem_singleton, ← Bool.not_eq_true,
        hasMember_of_prefixLen_zero]
      cases ip <;> simp [NameserverIpFamily.allows]

/-! ## What is loaded -/

section Load

variable {readFile : String → Option String}

theorem readRootHints_eq_some {path : String} {hints : List SocketAddr}
    (h : readRootHints readFile path = some hints) :
    ∃ content, readFile path = some content ∧ hints = parseRootHints content ∧ hints ≠ [] := by
  obtain ⟨content, hcontent, h⟩ := Option.bind_eq_some_iff.1 h
  split at h <;> cases h
  exact ⟨content, hcontent, rfl, ‹_›⟩

/-- The hints come from a file that has some, or are the compiled-in ones. -/
theorem loadRootHints_cases (path : Option String) :
    loadRootHints readFile path = builtinRootHints ∨
      ∃ file content, readFile file = some content ∧
        loadRootHints readFile path = parseRootHints content ∧
        loadRootHints readFile path ≠ [] := by
  have hgetD : ∀ file hints, readRootHints readFile file = some hints →
      ∃ file content, readFile file = some content ∧ hints = parseRootHints content ∧
        hints ≠ [] := fun file hints h => by
    obtain ⟨content, hcontent⟩ := readRootHints_eq_some h
    exact ⟨file, content, hcontent⟩
  cases path with
  | some path =>
      rw [loadRootHints]
      cases h : readRootHints readFile path with
      | none => exact .inl rfl
      | some hints => exact .inr (hgetD path hints h)
  | none =>
      rw [loadRootHints]
      cases h : defaultRootHintsPaths.findSome? (readRootHints readFile) with
      | none => exact .inl rfl
      | some hints =>
          obtain ⟨file, -, hfile⟩ := List.exists_of_findSome?_eq_some h
          exact .inr (hgetD file hints hfile)

theorem port_of_parseHintLine {line : String} {hint : SocketAddr}
    (h : parseHintLine line = some hint) : hint.port = 53 := by
  rw [parseHintLine] at h
  split at h
  · cases h
  · obtain ⟨⟨rtype, rdata⟩, -, h⟩ := Option.bind_eq_some_iff.1 h
    change hintAddress rtype rdata = some hint at h
    rw [hintAddress] at h
    split_ifs at h
    all_goals
      obtain ⟨ip, -, rfl⟩ := Option.map_eq_some_iff.1 h
      rfl

theorem builtinRootHints_allows (family : NameserverIpFamily) :
    ∃ hint ∈ builtinRootHints, family.allows hint.ip = true := by
  cases family with
  | both | ipv4Only => exact ⟨_, List.mem_cons_self, rfl⟩
  | ipv6Only => exact ⟨⟨.v6 (rootHintsV6.head (by decide)), 53, 0⟩, by decide +kernel, rfl⟩

/-- **The roots of the recursor.** Whatever files there are, some hints are loaded, all of them for
port 53; the roots are exactly the loaded addresses that the deny list does not contain. There is no
root at all only when a file was read that has no address of the wanted family. -/
theorem recursor_roots (path : Option String) (maxHops : UInt8) (family : NameserverIpFamily)
    (dnssec : Bool) (trustAnchor : Option TrustAnchors) (routing : OutboundRouting) :
    let hints := loadRootHints readFile path
    let config := recursorConfig hints maxHops family dnssec trustAnchor routing
    hints ≠ [] ∧ (∀ hint ∈ hints, hint.port = 53) ∧
      (∀ ip, ip ∈ config.roots ↔
        (∃ hint ∈ hints, hint.ip = ip) ∧ ∀ net ∈ config.denyServer, net.hasMember ip = false) ∧
      (config.roots = [] → ∃ file content, readFile file = some content ∧
        hints = parseRootHints content ∧ ∀ hint ∈ hints, family.allows hint.ip = false) := by
  intro hints config
  refine ⟨?_, ?_, fun ip => ?_, fun hroots => ?_⟩
  · rcases @loadRootHints_cases readFile path with h | ⟨_, _, -, -, h⟩
    · show loadRootHints readFile path ≠ []
      rw [h]
      decide
    · exact h
  · rcases @loadRootHints_cases readFile path with h | ⟨_, content, -, h, -⟩
    · show ∀ hint ∈ loadRootHints readFile path, hint.port = 53
      rw [h]
      intro hint hmem
      rcases List.mem_append.1 hmem with hmem | hmem
      all_goals
        obtain ⟨ip, -, rfl⟩ := List.mem_map.1 hmem
        rfl
    · intro hint hmem
      have hmem' : hint ∈ parseRootHints content := h ▸ hmem
      obtain ⟨line, -, hline⟩ := List.mem_filterMap.1 hmem'
      exact port_of_parseHintLine hline
  · show ip ∈ (hints.map (·.ip)).filter family.allows ↔ _
    rw [List.mem_filter, List.mem_map, allows_iff_not_denied]
    rfl
  · have hnone : ∀ hint ∈ hints, family.allows hint.ip = false := fun hint hmem => by
      have := List.filter_eq_nil_iff.1 hroots hint.ip (List.mem_map_of_mem hmem)
      simpa using this
    rcases @loadRootHints_cases readFile path with h | ⟨file, content, hcontent, h, -⟩
    · obtain ⟨hint, hmem, hallows⟩ := builtinRootHints_allows family
      have hmem' : hint ∈ loadRootHints readFile path := h.symm ▸ hmem
      rw [hnone hint hmem'] at hallows
      cases hallows
    · exact ⟨file, content, hcontent, h, hnone⟩

end Load

/-! ## Reading a hints file -/

/-- The text of a record's type. -/
def hintType : IpAddr → String
  | .v4 _ => "A"
  | .v6 _ => "AAAA"

/-- What a line of a hints file says: an address of a server, with or without a class; a record of
another type; a remark that starts with a semicolon; or nothing. -/
inductive HintContent
  | server (owner ttl : String) (dnsClass : Option String) (ip : IpAddr)
  /-- The fields after the TTL are the class, if there is one, the type and the data. -/
  | otherRecord (owner ttl : String) (fields : List String)
  | remark (first : String) (rest : List String)
  | blank

def HintContent.tokens : HintContent → List String
  | .server owner ttl dnsClass ip => [owner, ttl] ++ dnsClass.toList ++ [hintType ip, ip.display]
  | .otherRecord owner ttl fields => owner :: ttl :: fields
  | .remark first rest => first :: rest
  | .blank => []

/-- An owner does not look like a remark, and no field of another record like an address type. -/
def HintContent.WellFormed : HintContent → Prop
  | .server owner _ _ _ => startsWith ";" owner = false
  | .otherRecord owner _ fields =>
      startsWith ";" owner = false ∧ ∀ field ∈ fields, field ≠ "A" ∧ field ≠ "AAAA"
  | .remark first _ => startsWith ";" first = true
  | .blank => True

def HintContent.address : HintContent → Option SocketAddr
  | .server _ _ _ ip => some ⟨ip, 53, 0⟩
  | .otherRecord _ _ _ | .remark _ _ | .blank => none

/-- A line in any layout: its tokens are those of its content. -/
structure HintLine where
  text : String
  content : HintContent
  wellFormed : content.WellFormed
  oneLine : '\n' ∉ text.toList
  tokens : splitWhitespace text = content.tokens

/-- What the tokens of a line give. -/
def hintOfTokens : List String → Option SocketAddr
  | [] => none
  | first :: rest =>
      if startsWith ";" first then none
      else (hintFields (first :: rest)).bind fun (rtype, rdata) => hintAddress rtype rdata

theorem parseHintLine_eq (line : String) :
    parseHintLine line = hintOfTokens (splitWhitespace line) := by
  unfold parseHintLine
  dsimp only
  rw [splitWhitespace_trim]
  cases htokens : splitWhitespace line with
  | nil => split <;> rfl
  | cons first rest =>
      have hsemicolon : startsWith ";" (trim line) = startsWith ";" first :=
        startsWith_trim_iff (not_isWhitespace_of_any (by decide)) htokens
      simp only [trim_ne_empty htokens, decide_false, Bool.false_or, hsemicolon, hintOfTokens]

theorem hintAddress_display (ip : IpAddr) :
    hintAddress (hintType ip) ip.display = some ⟨ip, 53, 0⟩ := by
  cases ip with
  | v4 addr =>
      have hread := @readIpv4Addr_chars addr [] (by simp)
      rw [List.append_nil] at hread
      have hparse : parseIpv4Addr (IpAddr.v4 addr).display = some addr := parseWith_ofList hread
      rw [hintType, hintAddress, if_pos rfl, hparse]
      rfl
  | v6 addr =>
      have hread := @readIpv6Addr_chars addr [] (by simp [EndsIpv6])
      rw [List.append_nil] at hread
      have hparse : parseIpv6Addr (IpAddr.v6 addr).display = some addr := parseWith_ofList hread
      rw [hintType, hintAddress, if_neg (by decide), if_pos rfl, hparse]
      rfl

/-- The type is one of the fields after the first two. -/
theorem mem_of_hintFields {owner ttl rtype rdata : String} {fields : List String}
    (h : hintFields (owner :: ttl :: fields) = some (rtype, rdata)) : rtype ∈ fields := by
  rcases fields with _ | ⟨first, _ | ⟨second, _ | ⟨third, _ | ⟨fourth, rest⟩⟩⟩⟩ <;>
    simp only [hintFields, Option.some.injEq, Prod.mk.injEq, reduceCtorEq] at h <;> simp [h]

theorem hintOfTokens_content {content : HintContent} (h : content.WellFormed) :
    hintOfTokens content.tokens = content.address := by
  cases content with
  | server owner ttl dnsClass ip =>
      have howner : startsWith ";" owner = false := h
      cases dnsClass <;>
        simp [HintContent.tokens, hintOfTokens, howner, hintFields, hintAddress_display,
          HintContent.address]
  | otherRecord owner ttl fields =>
      obtain ⟨howner, hfields⟩ := h
      rw [HintContent.tokens, hintOfTokens, if_neg (by simp [howner]), HintContent.address,
        Option.bind_eq_none_iff]
      rintro ⟨rtype, rdata⟩ hrecord
      obtain ⟨hv4, hv6⟩ := hfields rtype (mem_of_hintFields hrecord)
      show hintAddress rtype rdata = none
      rw [hintAddress, if_neg hv4, if_neg hv6]
  | remark first rest =>
      have hfirst : startsWith ";" first = true := h
      simp [HintContent.tokens, hintOfTokens, hfirst, HintContent.address]
  | blank => rfl

end DnsFilter
