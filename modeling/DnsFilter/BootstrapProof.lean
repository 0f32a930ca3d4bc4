import DnsFilter.Bootstrap
import DnsFilter.Lib.Result

/-!
# When the builders succeed

The builders fail with many different messages; what matters to a reload is only whether they
fail. For each builder this module says, in terms of the data it reads, when it succeeds.

* `succeeds_buildResolverCacheSettings` — the stored TTL bounds are in range and in order.
* `succeeds_groupBootstrap`, `succeeds_groupStrategy` — what a group of servers needs.
* `succeeds_buildClient` — a single server, by protocol.
-/

namespace DnsFilter

open Net Text

theorem succeeds_elim {ε α : Type} {e : ε} {o : Option α} :
    Succeeds (o.elim (.error e) .ok) ↔ o.isSome := by
  cases o <;> simp

/-! ## Cache settings -/

/-- A stored TTL bound that `parse_interval` can read. -/
def CacheBound (bound : Option Int) : Prop := ∀ n ∈ bound, 0 ≤ n ∧ n < 2 ^ 64

/-- Stored TTL bounds: both readable, and the minimum is not above the maximum. -/
structure CacheBoundsOk (minTtl maxTtl : Option Int) : Prop where
  minBound : CacheBound minTtl
  maxBound : CacheBound maxTtl
  le : ∀ a, minTtl = some a → ∀ b, maxTtl = some b → a ≤ b

theorem parseCacheBound_eq_ok {field : String} {bound : Option Int} {ttl : Option Nat} :
    parseCacheBound field (bound.map formatSeconds) = .ok ttl ↔
      CacheBound bound ∧ ttl = bound.map fun n => fromSecs n.toNat := by
  cases bound with
  | none => simp [parseCacheBound, CacheBound, eq_comm]
  | some n =>
      simp only [parseCacheBound, CacheBound, Option.map_some, Option.mem_some, forall_eq']
      cases hparse : parseInterval (formatSeconds n) with
      | ok secs =>
          obtain ⟨h0, hn, rfl⟩ := parseInterval_formatSeconds.1 hparse
          rw [Except.ok.injEq]
          exact ⟨fun h => ⟨⟨h0, hn⟩, h.symm⟩, fun h => h.2.symm⟩
      | error e =>
          refine ⟨fun h => absurd h (by simp), fun ⟨⟨h0, hn⟩, _⟩ => ?_⟩
          rw [parseInterval_formatSeconds.2 ⟨h0, hn, rfl⟩] at hparse
          exact absurd hparse (by simp)

theorem succeeds_validate {settings : ResolverCacheSettings} :
    Succeeds settings.validate ↔
      ∀ a ∈ settings.minTtl, ∀ b ∈ settings.maxTtl, a ≤ b := by
  rw [ResolverCacheSettings.validate]
  cases settings.minTtl with
  | none => simp
  | some a =>
      cases settings.maxTtl with
      | none => simp
      | some b =>
          by_cases h : a > b
          · simp [h]
          · simpa [h] using not_lt.1 h

theorem buildResolverCacheSettings_eq_ok {config : DnsFilterConfig}
    {settings : ResolverCacheSettings} :
    buildResolverCacheSettings config = .ok settings ↔
      parseCacheBound "min_ttl" (config.resolvers.cache.bind (·.minTtl)) = .ok settings.minTtl ∧
      parseCacheBound "max_ttl" (config.resolvers.cache.bind (·.maxTtl)) = .ok settings.maxTtl ∧
      settings.enabled = (config.resolvers.cache.map (·.enabled)).getD true ∧
      settings.maxEntries = (config.resolvers.cache.bind (·.maxEntries)).getD 10000 ∧
      settings.validate = .ok () := by
  unfold buildResolverCacheSettings
  constructor
  · intro h
    obtain ⟨minTtl, hmin, h⟩ := bind_eq_ok.1 h
    obtain ⟨maxTtl, hmax, h⟩ := bind_eq_ok.1 h
    obtain ⟨_, hvalidate, h⟩ := bind_eq_ok.1 h
    obtain rfl := Except.ok.inj h
    exact ⟨hmin, hmax, rfl, rfl, hvalidate⟩
  · intro ⟨hmin, hmax, henabled, hentries, hvalidate⟩
    refine bind_eq_ok.2 ⟨_, hmin, bind_eq_ok.2 ⟨_, hmax, bind_eq_ok.2 ⟨(), ?_, ?_⟩⟩⟩
    · rw [← henabled, ← hentries]
      exact hvalidate
    · rw [← henabled, ← hentries]
      rfl

theorem succeeds_buildResolverCacheSettings {config : DnsFilterConfig}
    {tables : OperationalTables} :
    Succeeds (buildResolverCacheSettings (applyDbConfig config tables)) ↔
      CacheBoundsOk tables.resolverConfig.dnsCacheMinTtlSeconds
        tables.resolverConfig.dnsCacheMaxTtlSeconds := by
  simp only [buildResolverCacheSettings, applyDbConfig, succeeds_bind, Option.bind_some,
    parseCacheBound_eq_ok]
  have hle {a b : Int} (ha : 0 ≤ a) (hb : 0 ≤ b) : fromSecs a.toNat ≤ fromSecs b.toNat ↔ a ≤ b := by
    rw [fromSecs, fromSecs]
    omega
  constructor
  · rintro ⟨_, ⟨hmin, rfl⟩, _, ⟨hmax, rfl⟩, _, hvalid, -⟩
    refine ⟨hmin, hmax, fun a ha b hb => ?_⟩
    have := succeeds_validate.1 ⟨_, hvalid⟩ (fromSecs a.toNat) (by simp [ha]) (fromSecs b.toNat)
      (by simp [hb])
    exact (hle (hmin a ha).1 (hmax b hb).1).1 this
  · rintro ⟨hmin, hmax, hbounds⟩
    refine ⟨_, ⟨hmin, rfl⟩, _, ⟨hmax, rfl⟩, ?_⟩
    refine Exists.imp (fun _ h => ⟨h, succeeds_pure _⟩) (succeeds_validate.2 ?_)
    simp only [Option.mem_map, forall_exists_index, and_imp, forall_apply_eq_imp_iff₂]
    exact fun a ha b hb => (hle (hmin a ha).1 (hmax b hb).1).2 (hbounds a ha b hb)

/-! ## Groups of servers -/

/-- An entry of the bootstrap list: an address with or without a port. -/
def BootstrapAddress (value : String) : Prop :=
  (parseSocketAddr value).isSome ∨ (parseIpAddr value).isSome

/-- The bootstrap list that some protocols need. -/
def BootstrapUsable (values : List String) : Prop :=
  (∃ value, value ∈ values) ∧ ∀ value ∈ values, BootstrapAddress value

/-- The protocols whose clients need bootstrap resolvers. -/
def UsesBootstrap (protocol : String) : Prop := protocol = "dot" ∨ protocol = "doh"

theorem succeeds_parseBootstrapResolver {value : String} :
    Succeeds (parseBootstrapResolver value) ↔ BootstrapAddress value := by
  rw [parseBootstrapResolver, BootstrapAddress]
  cases parseSocketAddr value with
  | some addr => simp
  | none => cases parseIpAddr value <;> simp

theorem succeeds_parseBootstrapResolvers {values : List String} :
    Succeeds (parseBootstrapResolvers values) ↔ BootstrapUsable values := by
  rw [parseBootstrapResolvers, BootstrapUsable]
  split
  · rename_i h
    simp [h]
  · rename_i h
    rw [succeeds_mapM]
    simp only [succeeds_parseBootstrapResolver]
    exact ⟨fun hall => ⟨List.exists_mem_of_ne_nil values h, hall⟩, fun hall => hall.2⟩

theorem mem_orderBySortOrder {α : Type} {sortOrder : α → Int} {id : α → String} {rows : List α}
    {row : α} : row ∈ orderBySortOrder sortOrder id rows ↔ row ∈ rows :=
  (List.perm_insertionSort _ rows).mem_iff

theorem bootstrapUsable_getResolverConfig {db : Database} :
    BootstrapUsable (UpstreamConfig.getResolverConfig db).bootstrapResolvers ↔
      BootstrapUsable (db.bootstrapResolvers.map (·.address)) := by
  simp only [BootstrapUsable, UpstreamConfig.getResolverConfig, List.mem_map, mem_orderBySortOrder]

theorem succeeds_groupBootstrap {protocols values : List String} :
    Succeeds (groupBootstrap protocols values) ↔
      ∀ protocol ∈ protocols, UsesBootstrap protocol → BootstrapUsable values := by
  rw [groupBootstrap, needsBootstrap]
  split
  · rename_i h
    obtain ⟨protocol, hmem, huses⟩ := List.any_eq_true.1 h
    rw [succeeds_parseBootstrapResolvers]
    exact ⟨fun hall _ _ _ => hall,
      fun hall => hall protocol hmem (by simpa [UsesBootstrap] using huses)⟩
  · rename_i h
    rw [Bool.not_eq_true, List.any_eq_false] at h
    refine iff_of_true (succeeds_ok _) fun protocol hmem huses => ?_
    exact absurd (by simpa [UsesBootstrap] using huses) (h protocol hmem)

theorem succeeds_groupStrategy {strategy : String} :
    Succeeds (groupStrategy strategy) ↔
      strategy = "round_robin" ∨ strategy = "random" ∨ strategy = "failover" := by
  rw [groupStrategy, succeeds_elim, UpstreamStrategy.fromStr]
  split_ifs <;> simp_all

/-- A group needs a strategy, a server, and that each of its servers can be built, with the
bootstrap resolvers if its protocol uses them. -/
theorem succeeds_group {σ β γ : Type} {strategy : String} {values : List String}
    {servers : List σ} [Decidable (servers = [])] {protocol : σ → String} {message : String}
    {build : List SocketAddr → σ → Except String β} {P : σ → Prop}
    (hbuild : ∀ bootstrap server, Succeeds (build bootstrap server) ↔ P server)
    {make : UpstreamStrategy → List β → γ} :
    Succeeds (groupStrategy strategy >>= fun parsed =>
      if servers = [] then .error message
      else groupBootstrap (servers.map protocol) values >>= fun bootstrap =>
        servers.mapM (build bootstrap) >>= fun resolvers => pure (make parsed resolvers)) ↔
      Succeeds (groupStrategy strategy) ∧ servers ≠ [] ∧ ∀ server ∈ servers,
        P server ∧ (UsesBootstrap (protocol server) → BootstrapUsable values) := by
  have hresolvers {bootstrap : List SocketAddr} :
      Succeeds (servers.mapM (build bootstrap)) ↔ ∀ server ∈ servers, P server := by
    simp only [succeeds_mapM, hbuild]
  have hbootstrap : Succeeds (groupBootstrap (servers.map protocol) values) ↔
      ∀ server ∈ servers, UsesBootstrap (protocol server) → BootstrapUsable values := by
    rw [succeeds_groupBootstrap, List.forall_mem_map]
  rw [succeeds_bind]
  by_cases hne : servers = []
  · refine iff_of_false ?_ fun h => h.2.1 hne
    intro h
    obtain ⟨_, -, h⟩ := h
    rw [if_pos hne] at h
    exact not_succeeds_error _ h
  simp only [if_neg hne, succeeds_bind, succeeds_pure, and_true]
  constructor
  · intro h
    obtain ⟨parsed, hstrategy, bootstrap, hboot, resolvers, hres⟩ := h
    exact ⟨⟨parsed, hstrategy⟩, hne, fun server hserver =>
      ⟨hresolvers.1 ⟨resolvers, hres⟩ server hserver,
        hbootstrap.1 ⟨bootstrap, hboot⟩ server hserver⟩⟩
  · intro h
    obtain ⟨⟨parsed, hstrategy⟩, -, hall⟩ := h
    obtain ⟨bootstrap, hboot⟩ := hbootstrap.2 fun server hserver => (hall server hserver).2
    exact ⟨parsed, hstrategy, bootstrap, hboot,
      hresolvers.2 fun server hserver => (hall server hserver).1⟩

/-! ## A single server -/

section Client

variable {lib : Libraries}

/-- The address of a DoH server. -/
def DohUrlOk (lib : Libraries) (address : String) : Prop :=
  ∃ url, lib.urlParse address = some url ∧ url.scheme = "https" ∧ url.hostStr.isSome

/-- The credentials of a DoH server: none, or of one kind and complete, and fit for a header. -/
def DohAuthOk (lib : Libraries) (authentication : Option ZoneServerAuthenticationConfig) : Prop :=
  ∃ auth, validateServerAuth "" "doh" true authentication = .ok auth ∧
    ∀ credentials ∈ auth, lib.headerValueFromStr (authHeaderText lib credentials)

/-- The recursor accepts what it is built from: the root hints of the server's family, its policy,
its deny list and its recursion limit. -/
def ServerFields.RecursorOk (lib : Libraries) (server : ServerFields) : Prop :=
  let config := server.recursor lib {}
  lib.recursorNew config.roots config.dnssecPolicy config.denyServer config.recursionLimit = true

/-- A client can be built for the server, apart from its bootstrap resolvers. -/
def ServerFields.Usable (lib : Libraries) (server : ServerFields) : Prop :=
  (server.protocol = "dns" ∧ (parseSocketAddr server.address).isSome) ∨
    (server.protocol = "dot" ∧ Succeeds (DnsTlsClient.parseEndpoint server.address)) ∨
    (server.protocol = "doh" ∧ DohUrlOk lib server.address ∧
      DohAuthOk lib server.authentication) ∨
    (server.protocol = "doq" ∧ Succeeds (DnsQuicClient.parseEndpoint server.address)) ∨
    (server.protocol = "recursive" ∧ server.RecursorOk lib)

theorem succeeds_parseDohUrl {address : String} :
    Succeeds (parseDohUrl lib address) ↔ DohUrlOk lib address := by
  rw [parseDohUrl, DohUrlOk]
  cases lib.urlParse address with
  | none => simp
  | some url =>
      by_cases hscheme : url.scheme = "https"
      · cases hhost : url.hostStr with
        | none => simp [hscheme, hhost]
        | some host => simp [hscheme, hhost]
      · simp [hscheme]

/-- The name of the zone only appears in messages. -/
theorem validateServerAuth_eq_ok (zone : String) {protocol : String} {isUrl : Bool}
    {authentication : Option ZoneServerAuthenticationConfig} {auth : Option ZoneSourceAuth} :
    validateServerAuth zone protocol isUrl authentication = .ok auth ↔
      validateServerAuth "" protocol isUrl authentication = .ok auth := by
  cases authentication with
  | none => exact Iff.rfl
  | some config =>
      simp only [validateServerAuth]
      split_ifs <;> simp

theorem succeeds_buildAuthHeaders {credentials : ZoneSourceAuth} :
    Succeeds (buildAuthHeaders lib credentials) ↔
      lib.headerValueFromStr (authHeaderText lib credentials) := by
  rw [buildAuthHeaders]
  split_ifs with h <;> simp [h]

/-- The DoH branch of `build_single_upstream_resolver` and its sibling. -/
theorem succeeds_buildDohClient {wording : ServerWording} {bootstrap : List SocketAddr}
    {address : String} {authentication : Option ZoneServerAuthenticationConfig} :
    Succeeds (buildDohClient lib wording bootstrap address authentication) ↔
      DohUrlOk lib address ∧ DohAuthOk lib authentication := by
  rw [buildDohClient, succeeds_bind, DohAuthOk, ← succeeds_parseDohUrl]
  simp only [validateServerAuth_eq_ok wording.owner, succeeds_mapError]
  constructor
  · rintro ⟨auth, hauth, hclient⟩
    obtain ⟨endpoint, hurl, hheader⟩ := succeeds_bind.1 hclient
    refine ⟨⟨endpoint, hurl⟩, auth, hauth, fun credentials hmem => ?_⟩
    rw [Option.mem_def.1 hmem] at hheader
    obtain ⟨header, hheader, -⟩ := succeeds_bind.1 hheader
    exact succeeds_buildAuthHeaders.1 ⟨header, hheader⟩
  · rintro ⟨⟨endpoint, hurl⟩, auth, hauth, hheader⟩
    refine ⟨auth, hauth, succeeds_bind.2 ⟨endpoint, hurl, ?_⟩⟩
    cases auth with
    | none => exact succeeds_pure _
    | some credentials =>
        obtain ⟨header, hbuilt⟩ := succeeds_buildAuthHeaders.2 (hheader credentials rfl)
        exact succeeds_bind.2 ⟨header, hbuilt, succeeds_pure _⟩

/-- The routing does not decide whether the recursor can be built. -/
theorem succeeds_buildRecursiveResolver {routing : OutboundRouting} {server : ServerFields} :
    Succeeds (buildRecursiveResolver lib (server.recursor lib routing)) ↔
      server.RecursorOk lib := by
  unfold buildRecursiveResolver
  split
  · rename_i haccepted
    exact iff_of_true (succeeds_ok _) haccepted
  · rename_i hrefused
    exact iff_of_false (not_succeeds_error _) hrefused

/-- A recursor that only wants a root to start from is refused to servers whose hints have no address
of their family. -/
theorem recursorOk_iff_exists_root {server : ServerFields}
    (hnew : ∀ roots policy deny limit, lib.recursorNew roots policy deny limit = true ↔ roots ≠ []) :
    server.RecursorOk lib ↔ ∃ hint ∈ loadRootHints lib.readToString server.rootHintsPath,
      server.family.allows hint.ip = true := by
  rw [ServerFields.RecursorOk, hnew]
  show ((loadRootHints lib.readToString server.rootHintsPath).map (·.ip)).filter
    server.family.allows ≠ [] ↔ _
  simp [List.filter_eq_nil_iff]

/-- **When a client can be built.** -/
theorem succeeds_buildClient {wording : ServerWording} {bootstrap : List SocketAddr}
    {routing : OutboundRouting} {server : ServerFields} :
    Succeeds (buildClient lib wording bootstrap routing server) ↔ server.Usable lib := by
  rw [buildClient, ServerFields.Usable]
  by_cases hdns : server.protocol = "dns"
  · simp [hdns, parseDnsAddress, succeeds_elim]
  by_cases hdot : server.protocol = "dot"
  · simp only [hdot, String.reduceEq, if_true, if_false, false_and, true_and, false_or, or_false]
    cases DnsTlsClient.parseEndpoint server.address <;> simp
  by_cases hdoh : server.protocol = "doh"
  · simp only [hdoh, String.reduceEq, if_true, if_false, false_and, true_and, false_or, or_false]
    exact succeeds_buildDohClient
  by_cases hdoq : server.protocol = "doq"
  · simp only [hdoq, String.reduceEq, if_true, if_false, false_and, true_and, false_or, or_false]
    cases DnsQuicClient.parseEndpoint server.address <;> simp
  by_cases hrec : server.protocol = "recursive"
  · simp only [hrec, String.reduceEq, if_true, if_false, false_and, true_and, false_or]
    exact succeeds_buildRecursiveResolver
  · simp [hdns, hdot, hdoh, hdoq, hrec]

end Client

end DnsFilter
