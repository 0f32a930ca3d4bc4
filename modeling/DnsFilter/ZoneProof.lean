import DnsFilter.BootstrapProof
import DnsFilter.OperationsProof
import DnsFilter.ZoneAuthority
import DnsFilter.Lib.Run

/-!
# Do the zones stay buildable?

`build_zone_entries` rejects the whole configuration if a single enabled zone or discovery entry
cannot be built. The management API checks the charset of a zone's name, the protocols of its
servers and the URL of a discovery index; everything else is stored as it comes.

* `zonesBuild_iff` — what the builder asks of the stored tables.
* `zonesUsable_step` — one call, by kind of call.
* `zones_stay_buildable_iff` — any sequence of calls.

The documents that are fetched on the way are assumed to be valid for their zones (`DocumentsLoad`);
a zone without a name has no valid document (`rejectsUnnamed_withDocuments`).
-/

namespace DnsFilter

open Table Net Text

/-! ## Building one zone -/

/-- No document is accepted for a zone without a name. -/
def ZoneLoaders.RejectsUnnamed (loaders : ZoneLoaders) : Prop :=
  ∀ zone source auth, Succeeds (loaders.loadSnapshot zone source auth) →
    (normalizeName zone).isSome

/-- A JSON server can be used for a zone, apart from its document. -/
structure ZoneServerConfig.JsonUsable (server : ZoneServerConfig) : Prop where
  address : trim server.address ≠ ""
  url : server.checkInterval.isSome → isHttpUrl (trim server.address)
  interval : ∀ value, server.checkInterval = some value → Succeeds (parseInterval value)
  auth : Succeeds (validateServerAuth "" "json" (isHttpUrl (trim server.address))
    server.authentication)
  source : Succeeds (parseZoneSource (trim server.address))

/-- The zone's document is fetched from the source with the credentials: it has a single enabled
server, a JSON server that can be used. -/
def ResolverZoneConfig.Fetches (zone : ResolverZoneConfig) (source : ZoneSource)
    (auth : Option ZoneSourceAuth) : Prop :=
  ∃ server, zone.servers.filter (·.enabled) = [server] ∧ server.protocol = "json" ∧
    server.JsonUsable ∧ parseZoneSource (trim server.address) = .ok source ∧
    validateServerAuth "" "json" (isHttpUrl (trim server.address)) server.authentication = .ok auth

/-- What is fetched for the zone is a document for it, if there can be one. -/
def ResolverZoneConfig.DocumentLoads (loaders : ZoneLoaders) (zone : ResolverZoneConfig) : Prop :=
  (normalizeName zone.zone).isSome → ∀ source auth, zone.Fetches source auth →
    Succeeds (loaders.loadSnapshot zone.zone source auth)

/-- A zone can be built: it has a single enabled server and that one is a usable JSON server, or
its enabled servers are usable upstream servers. -/
def ResolverZoneConfig.Usable (lib : Libraries) (bootstrap : List String)
    (zone : ResolverZoneConfig) : Prop :=
  (∃ server, zone.servers.filter (·.enabled) = [server] ∧ server.protocol = "json" ∧
      server.JsonUsable ∧ (normalizeName zone.zone).isSome) ∨
    (zone.servers.filter (·.enabled) ≠ [] ∧
      (∀ server ∈ zone.servers.filter (·.enabled), server.protocol ≠ "json" ∧
        server.fields.Usable lib ∧ (UsesBootstrap server.protocol → BootstrapUsable bootstrap)) ∧
      Succeeds (groupStrategy (zone.strategy.getD "failover")) ∧ (normalizeZone zone.zone).isSome)

section Builders

variable {lib : Libraries} {loaders : ZoneLoaders}

theorem succeeds_parseCheckInterval (context : String) {value : Option String} :
    Succeeds (parseCheckInterval context value) ↔
      ∀ text, value = some text → Succeeds (parseInterval text) := by
  cases value with
  | none => simp [parseCheckInterval]
  | some text => cases h : parseInterval text <;> simp [parseCheckInterval, h]

theorem succeeds_validateServerAuth {zone protocol : String} {isUrl : Bool}
    {authentication : Option ZoneServerAuthenticationConfig} :
    Succeeds (validateServerAuth zone protocol isUrl authentication) ↔
      Succeeds (validateServerAuth "" protocol isUrl authentication) :=
  exists_congr fun _ => validateServerAuth_eq_ok _

theorem succeeds_zoneAuthorityFromSource {zone source : String} {checkInterval : Option Nat}
    {auth : Option ZoneSourceAuth} :
    Succeeds (zoneAuthorityFromSource loaders zone source checkInterval auth) ↔
      ∃ parsed, parseZoneSource source = .ok parsed ∧
        Succeeds (loaders.loadSnapshot zone parsed auth) := by
  rw [zoneAuthorityFromSource, succeeds_bind]
  simp only [succeeds_bind, succeeds_pure, and_true]
  rfl

theorem succeeds_buildZoneJsonResolver {zone : ResolverZoneConfig} {server : ZoneServerConfig}
    (hunnamed : loaders.RejectsUnnamed) (hloads : zone.DocumentLoads loaders)
    (hsingle : zone.servers.filter (·.enabled) = [server]) (hprotocol : server.protocol = "json") :
    Succeeds (buildZoneJsonResolver loaders zone server) ↔
      server.JsonUsable ∧ (normalizeName zone.zone).isSome := by
  unfold buildZoneJsonResolver
  dsimp only
  by_cases haddress : trim server.address = ""
  · rw [if_pos haddress]
    exact iff_of_false (not_succeeds_error _) fun h => h.1.address haddress
  rw [if_neg haddress]
  by_cases hurl : (!isHttpUrl (trim server.address) && server.checkInterval.isSome) = true
  · rw [if_pos hurl]
    refine iff_of_false (not_succeeds_error _) fun h => ?_
    simp only [Bool.and_eq_true, Bool.not_eq_true'] at hurl
    exact absurd (h.1.url hurl.2) (by simp [hurl.1])
  rw [if_neg hurl, hprotocol]
  simp only [Bool.and_eq_true, Bool.not_eq_true', not_and] at hurl
  constructor
  · intro h
    obtain ⟨auth, hauth, h⟩ := succeeds_bind.1 h
    obtain ⟨checkInterval, hinterval, h⟩ := succeeds_bind.1 h
    obtain ⟨source, hsource, hload⟩ := succeeds_zoneAuthorityFromSource.1 (succeeds_mapError.1 h)
    refine ⟨⟨haddress, fun hsome => ?_, (succeeds_parseCheckInterval _).1 ⟨_, hinterval⟩,
      succeeds_validateServerAuth.1 ⟨auth, hauth⟩, ⟨source, hsource⟩⟩, hunnamed _ _ _ hload⟩
    by_contra hno
    exact hurl (by simpa using hno) hsome
  · rintro ⟨husable, hname⟩
    obtain ⟨auth, hauth⟩ := husable.auth
    obtain ⟨source, hsource⟩ := husable.source
    obtain ⟨checkInterval, hinterval⟩ := (succeeds_parseCheckInterval
      ("invalid check_interval for zone '" ++ zone.zone ++ "' json server: ")).2 husable.interval
    have hload : Succeeds (loaders.loadSnapshot zone.zone source auth) :=
      hloads hname source auth ⟨server, hsingle, hprotocol, husable, hsource, hauth⟩
    exact succeeds_bind.2 ⟨auth, (validateServerAuth_eq_ok _).2 hauth,
      succeeds_bind.2 ⟨checkInterval, hinterval,
        succeeds_mapError.2 (succeeds_zoneAuthorityFromSource.2 ⟨source, hsource, hload⟩)⟩⟩

theorem succeeds_zoneEntry {ρ : Type} {zone : String} {bypassFilter fallback : Bool}
    {resolver : ρ} :
    Succeeds (ZoneEntry.new zone bypassFilter fallback resolver) ↔ (normalizeZone zone).isSome := by
  rw [ZoneEntry.new]
  cases normalizeZone zone <;> simp

theorem normalizeZone_of_normalizeName {zone : String} (h : (normalizeName zone).isSome) :
    (normalizeZone zone).isSome := by
  rw [normalizeName] at h
  rw [normalizeZone]
  by_cases hempty : trimEndMatches '.' (trim zone) = ""
  · simp [hempty] at h
  · simp [hempty]

theorem succeeds_buildZoneUpstreamResolverGroup {strategy : String}
    {bootstrapResolvers : List String} {servers : List ZoneServerConfig}
    {settings : ResolverCacheSettings} :
    Succeeds (buildZoneUpstreamResolverGroup lib strategy bootstrapResolvers servers settings) ↔
      Succeeds (groupStrategy strategy) ∧ servers ≠ [] ∧ ∀ server ∈ servers,
        server.fields.Usable lib ∧
          (UsesBootstrap server.protocol → BootstrapUsable bootstrapResolvers) := by
  have hbuild (bootstrap : List SocketAddr) (server : ZoneServerConfig) :
      Succeeds (buildSingleZoneUpstreamResolver lib bootstrap server) ↔
        server.fields.Usable lib := by
    rw [buildSingleZoneUpstreamResolver, succeeds_map, succeeds_buildClient]
  exact succeeds_group hbuild

/-- The JSON arm of `build_zone_entry`. -/
theorem succeeds_jsonZoneEntry {zone : ResolverZoneConfig} {server : ZoneServerConfig}
    (hunnamed : loaders.RejectsUnnamed) (hloads : zone.DocumentLoads loaders)
    (hsingle : zone.servers.filter (·.enabled) = [server]) (hprotocol : server.protocol = "json") :
    Succeeds (do
      let resolver ← buildZoneJsonResolver loaders zone server
      ZoneEntry.new zone.zone zone.bypassFilter zone.fallbackToDefaultResolvers resolver) ↔
      server.JsonUsable ∧ (normalizeName zone.zone).isSome := by
  have hresolves := succeeds_buildZoneJsonResolver hunnamed hloads hsingle hprotocol
  rw [succeeds_bind, ← hresolves]
  simp only [succeeds_zoneEntry]
  constructor
  · rintro ⟨resolver, hresolver, -⟩
    exact ⟨resolver, hresolver⟩
  · rintro ⟨resolver, hresolver⟩
    obtain ⟨-, hname⟩ := hresolves.1 ⟨resolver, hresolver⟩
    exact ⟨resolver, hresolver, normalizeZone_of_normalizeName hname⟩

/-- Building a zone whose enabled servers are all JSON servers. -/
theorem succeeds_buildZoneEntry_of_json {bootstrapResolvers : List String}
    {settings : ResolverCacheSettings} {zone : ResolverZoneConfig}
    (hunnamed : loaders.RejectsUnnamed) (hloads : zone.DocumentLoads loaders)
    (hne : zone.servers.filter (·.enabled) ≠ [])
    (hjson : ∀ server ∈ zone.servers.filter (·.enabled), server.protocol = "json") :
    Succeeds (buildZoneEntry lib loaders bootstrapResolvers settings zone) ↔
      zone.Usable lib bootstrapResolvers := by
  unfold buildZoneEntry ResolverZoneConfig.Usable
  generalize henabled : zone.servers.filter (·.enabled) = enabled at hne hjson ⊢
  have hself : enabled.filter (·.protocol = "json") = enabled :=
    List.filter_eq_self.2 fun server hserver => by simp [hjson server hserver]
  have hnil : enabled.filter (·.protocol ≠ "json") = [] :=
    List.filter_eq_nil_iff.2 fun server hserver => by simp [hjson server hserver]
  rw [if_neg hne, hself, hnil]
  rcases enabled with _ | ⟨server, _ | ⟨other, rest⟩⟩
  · exact absurd rfl hne
  · have hprotocol := hjson server (List.mem_singleton_self server)
    refine (succeeds_jsonZoneEntry hunnamed hloads henabled hprotocol).trans ⟨fun h => ?_, ?_⟩
    · exact .inl ⟨server, rfl, hprotocol, h.1, h.2⟩
    · rintro (⟨server', hsingle, -, h⟩ | ⟨-, hall, -⟩)
      · obtain ⟨rfl, -⟩ := List.cons.inj hsingle
        exact h
      · exact absurd hprotocol (hall server (List.mem_singleton_self server)).1
  · refine iff_of_false (not_succeeds_error _) ?_
    rintro (⟨server', hsingle, -⟩ | ⟨-, hall, -⟩)
    · exact absurd hsingle (by simp)
    · exact (hall server List.mem_cons_self).1 (hjson server List.mem_cons_self)

/-- Building a zone whose enabled servers are all upstream servers. -/
theorem succeeds_buildZoneEntry_of_upstream {bootstrapResolvers : List String}
    {settings : ResolverCacheSettings} {zone : ResolverZoneConfig}
    (hne : zone.servers.filter (·.enabled) ≠ [])
    (hupstream : ∀ server ∈ zone.servers.filter (·.enabled), server.protocol ≠ "json") :
    Succeeds (buildZoneEntry lib loaders bootstrapResolvers settings zone) ↔
      zone.Usable lib bootstrapResolvers := by
  unfold buildZoneEntry ResolverZoneConfig.Usable
  generalize zone.servers.filter (·.enabled) = enabled at hne hupstream ⊢
  have hnil : enabled.filter (·.protocol = "json") = [] :=
    List.filter_eq_nil_iff.2 fun server hserver => by simp [hupstream server hserver]
  have hself : enabled.filter (·.protocol ≠ "json") = enabled :=
    List.filter_eq_self.2 fun server hserver => by simp [hupstream server hserver]
  rw [if_neg hne, hself, hnil]
  simp only [succeeds_bind, succeeds_zoneEntry, mapError_eq_ok, exists_and_right]
  rw [show (∃ group, buildZoneUpstreamResolverGroup lib (zone.strategy.getD "failover")
    bootstrapResolvers enabled settings = .ok group) ↔ _ from
      succeeds_buildZoneUpstreamResolverGroup]
  constructor
  · rintro ⟨⟨hstrategy, hne, hall⟩, hname⟩
    exact .inr ⟨hne, fun server hserver => ⟨hupstream server hserver, hall server hserver⟩,
      hstrategy, hname⟩
  · rintro (⟨server, rfl, hprotocol, -⟩ | ⟨hne, hall, hstrategy, hname⟩)
    · exact absurd hprotocol (hupstream server (List.mem_singleton_self server))
    · exact ⟨⟨hstrategy, hne, fun server hserver => (hall server hserver).2⟩, hname⟩

/-- A zone with both kinds of servers cannot be built. -/
theorem not_succeeds_buildZoneEntry_of_mixed {bootstrapResolvers : List String}
    {settings : ResolverCacheSettings} {zone : ResolverZoneConfig}
    {json upstream : ZoneServerConfig} (hjsonmem : json ∈ zone.servers.filter (·.enabled))
    (hjson : json.protocol = "json") (hupmem : upstream ∈ zone.servers.filter (·.enabled))
    (hupstream : upstream.protocol ≠ "json") :
    ¬ Succeeds (buildZoneEntry lib loaders bootstrapResolvers settings zone) := by
  unfold buildZoneEntry
  generalize zone.servers.filter (·.enabled) = enabled at hjsonmem hupmem ⊢
  have hjsonmem' : json ∈ enabled.filter (·.protocol = "json") :=
    List.mem_filter.2 ⟨hjsonmem, decide_eq_true hjson⟩
  have hupmem' : upstream ∈ enabled.filter (·.protocol ≠ "json") :=
    List.mem_filter.2 ⟨hupmem, decide_eq_true hupstream⟩
  obtain ⟨j, js, hjs⟩ := List.exists_cons_of_ne_nil (List.ne_nil_of_mem hjsonmem')
  obtain ⟨u, us, hus⟩ := List.exists_cons_of_ne_nil (List.ne_nil_of_mem hupmem')
  rw [if_neg (List.ne_nil_of_mem hjsonmem), hjs, hus]
  cases js <;> exact not_succeeds_error _

/-- **When a zone can be built.** -/
theorem succeeds_buildZoneEntry {bootstrapResolvers : List String}
    {settings : ResolverCacheSettings} {zone : ResolverZoneConfig}
    (hunnamed : loaders.RejectsUnnamed) (hloads : zone.DocumentLoads loaders) :
    Succeeds (buildZoneEntry lib loaders bootstrapResolvers settings zone) ↔
      zone.Usable lib bootstrapResolvers := by
  by_cases hempty : zone.servers.filter (·.enabled) = []
  · unfold buildZoneEntry ResolverZoneConfig.Usable
    rw [if_pos hempty]
    refine iff_of_false (not_succeeds_error _) ?_
    rintro (⟨server, hsingle, -⟩ | ⟨hne, -⟩)
    · exact absurd (hempty.symm.trans hsingle) (by simp)
    · exact hne hempty
  by_cases hjson : ∀ server ∈ zone.servers.filter (·.enabled), server.protocol = "json"
  · exact succeeds_buildZoneEntry_of_json hunnamed hloads hempty hjson
  by_cases hupstream : ∀ server ∈ zone.servers.filter (·.enabled), server.protocol ≠ "json"
  · exact succeeds_buildZoneEntry_of_upstream hempty hupstream
  · push Not at hjson hupstream
    obtain ⟨upstream, hupmem, hnotJson⟩ := hjson
    obtain ⟨json, hjsonmem, hisJson⟩ := hupstream
    refine iff_of_false
      (not_succeeds_buildZoneEntry_of_mixed hjsonmem hisJson hupmem hnotJson) ?_
    rintro (⟨server, hsingle, hprotocol, -⟩ | ⟨-, hall, -⟩)
    · rw [hsingle, List.mem_singleton] at hupmem
      exact hnotJson (hupmem ▸ hprotocol)
    · exact (hall json hjsonmem).1 hisJson

end Builders

/-! ## Building all zones -/

/-- The entries that reload and startup build from the database. -/
def ZonesBuild (lib : Libraries) (loaders : ZoneLoaders) (config : DnsFilterConfig)
    (db : Database) : Prop :=
  Succeeds (buildZoneEntries lib loaders (applyDbConfig config (.ofDatabase db)))

/-- The configuration of a zone with the given servers. -/
def ZoneRow.withServers (row : ZoneRow) (servers : List ZoneServerRecord) : ResolverZoneConfig :=
  ({ row with servers := servers } : ZoneRecord).toConfig

/-- The servers stored for a zone. -/
def Database.serversOf (db : Database) (row : ZoneRow) : List ZoneServerRecord :=
  db.zoneServers.filter (·.zoneId = row.id)

/-- What is fetched for the enabled zones of the database are documents for them. -/
def DocumentsLoad (loaders : ZoneLoaders) (db : Database) : Prop :=
  ∀ row ∈ db.zones, row.enabled → (row.withServers (db.serversOf row)).DocumentLoads loaders

/-- The check interval of an enabled discovery entry can be read. -/
def ZoneDiscoveryRow.Usable (row : ZoneDiscoveryRow) : Prop :=
  ∀ value, row.checkInterval = some value → Succeeds (parseInterval value)

/-- What the builder asks of the stored tables. -/
structure ZonesUsable (lib : Libraries) (db : Database) : Prop where
  bounds : CacheBoundsOk db.resolverConfig.dnsCacheMinTtlSeconds
    db.resolverConfig.dnsCacheMaxTtlSeconds
  zones : ∀ row ∈ db.zones, row.enabled →
    (row.withServers (db.serversOf row)).Usable lib (db.bootstrapResolvers.map (·.address))
  discovery : ∀ row ∈ db.zoneDiscovery, row.enabled → row.Usable

/-- The order of the servers, and of the bootstrap list, does not matter. -/
theorem ResolverZoneConfig.Usable.congr {lib : Libraries} {bootstrap bootstrap' : List String}
    {row : ZoneRow} {servers servers' : List ZoneServerRecord}
    (h : (row.withServers servers).Usable lib bootstrap) (hperm : servers.Perm servers')
    (hbootstrap : BootstrapUsable bootstrap → BootstrapUsable bootstrap') :
    (row.withServers servers').Usable lib bootstrap' := by
  have hfilter : ((row.withServers servers).servers.filter (·.enabled)).Perm
      ((row.withServers servers').servers.filter (·.enabled)) := (hperm.map _).filter _
  rcases h with ⟨server, hsingle, hrest⟩ | ⟨hne, hall, hrest⟩
  · rw [hsingle, List.singleton_perm] at hfilter
    exact .inl ⟨server, hfilter.symm, hrest⟩
  · refine .inr ⟨fun hnil => hne ?_, fun server hserver => ?_, hrest⟩
    · rw [hnil] at hfilter
      exact hfilter.eq_nil
    · obtain ⟨hprotocol, husable, huses⟩ := hall server (hfilter.mem_iff.2 hserver)
      exact ⟨hprotocol, husable, fun h => hbootstrap (huses h)⟩

/-- Neither does the order of the servers for what is fetched. -/
theorem ResolverZoneConfig.DocumentLoads.congr {loaders : ZoneLoaders} {row : ZoneRow}
    {servers servers' : List ZoneServerRecord}
    (h : (row.withServers servers).DocumentLoads loaders) (hperm : servers.Perm servers') :
    (row.withServers servers').DocumentLoads loaders := by
  rintro hname source auth ⟨server, hsingle, hrest⟩
  have hfilter : ((row.withServers servers).servers.filter (·.enabled)).Perm
      ((row.withServers servers').servers.filter (·.enabled)) := (hperm.map _).filter _
  rw [hsingle, List.perm_singleton] at hfilter
  exact h hname source auth ⟨server, hfilter, hrest⟩

/-- The join of the zones with their servers. -/
theorem mem_getAllWithServers {db : Database} (hvalid : db.Valid) {record : ZoneRecord} :
    record ∈ Zones.getAllWithServers db ↔
      ∃ row ∈ db.zones, record = { row with servers :=
        (orderBySortOrder (·.sortOrder) (·.id) db.zoneServers).filter (·.zoneId = row.id) } := by
  have hsorted := List.perm_insertionSort (fun a b : ZoneRow => a.zone ≤ b.zone) db.zones
  rw [getAllWithServers_eq hvalid, List.mem_map]
  simp only [hsorted.mem_iff]
  exact exists_congr fun row => and_congr_right fun _ => ⟨Eq.symm, Eq.symm⟩

/-- The discovery entries are the stored rows with their types. -/
theorem map_getAll_discovery (db : Database) :
    (ZoneDiscovery.getAll db).map (·.toZoneDiscoveryRow) =
      db.zoneDiscovery.insertionSort fun a b => a.id ≤ b.id := by
  have hjoin : (ZoneDiscovery.getAll db).map (·.toZoneDiscoveryRow) = _ :=
    map_attach (by intros; rfl) _ _
  rw [hjoin, List.map_map]
  exact List.map_id _

theorem forall_discovery (db : Database) (P : ZoneDiscoveryRow → Prop) :
    (∀ record ∈ ZoneDiscovery.getAll db, P record.toZoneDiscoveryRow) ↔
      ∀ row ∈ db.zoneDiscovery, P row := by
  have hperm : ((ZoneDiscovery.getAll db).map (·.toZoneDiscoveryRow)).Perm db.zoneDiscovery :=
    (map_getAll_discovery db).symm ▸ List.perm_insertionSort _ _
  rw [← List.forall_mem_map (f := ZoneDiscoveryRecord.toZoneDiscoveryRow)]
  exact forall_congr' fun row => by rw [hperm.mem_iff]

/-- Only a check interval that cannot be read fails a discovery entry. -/
theorem succeeds_buildDiscovered {loaders : ZoneLoaders} {manualZoneNames : List String}
    {discovery : ZoneDiscoveryConfig} :
    Succeeds (buildDiscovered loaders manualZoneNames discovery) ↔
      ∀ value, discovery.checkInterval = some value → Succeeds (parseInterval value) := by
  rw [buildDiscovered, succeeds_bind, ← succeeds_parseCheckInterval
    ("invalid check_interval for zone_discovery '" ++ discovery.address ++ "': ")]
  refine exists_congr fun checkInterval => and_iff_left ?_
  cases loaders.discoveryEntries discovery manualZoneNames checkInterval with
  | ok entries => exact succeeds_pure _
  | error e => exact succeeds_pure _

theorem zonesBuild_iff {lib : Libraries} {loaders : ZoneLoaders} {config : DnsFilterConfig}
    {db : Database} (hunnamed : loaders.RejectsUnnamed) (hloads : DocumentsLoad loaders db)
    (hvalid : db.Valid) : ZonesBuild lib loaders config db ↔ ZonesUsable lib db := by
  have hstored (row : ZoneRow) :
      ((orderBySortOrder (·.sortOrder) (·.id) db.zoneServers).filter (·.zoneId = row.id)).Perm
        (db.serversOf row) :=
    (List.perm_insertionSort _ db.zoneServers).filter _
  have hzones : (∀ record ∈ Zones.getAllWithServers db, record.enabled → record.toConfig.Usable lib
      (UpstreamConfig.getResolverConfig db).bootstrapResolvers) ↔
      ∀ row ∈ db.zones, row.enabled → (row.withServers (db.serversOf row)).Usable lib
        (db.bootstrapResolvers.map (·.address)) := by
    constructor
    · intro hall row hrow hen
      have hrecord := hall _ ((mem_getAllWithServers hvalid).2 ⟨row, hrow, rfl⟩) hen
      exact ResolverZoneConfig.Usable.congr hrecord (hstored row)
        bootstrapUsable_getResolverConfig.1
    · intro hall record hrecord hen
      obtain ⟨row, hrow, rfl⟩ := (mem_getAllWithServers hvalid).1 hrecord
      exact (hall row hrow hen).congr (hstored row).symm bootstrapUsable_getResolverConfig.2
  have hdiscovery := forall_discovery db fun row => row.enabled → row.Usable
  have hdocuments : ∀ record ∈ Zones.getAllWithServers db, record.enabled →
      record.toConfig.DocumentLoads loaders := by
    intro record hrecord hen
    obtain ⟨row, hrow, rfl⟩ := (mem_getAllWithServers hvalid).1 hrecord
    exact (hloads row hrow hen).congr (hstored row).symm
  have hentries (settings : ResolverCacheSettings) :
      Succeeds ((((Zones.getAllWithServers db).map (·.toConfig)).filter (·.enabled)).mapM
        (buildZoneEntry lib loaders (UpstreamConfig.getResolverConfig db).bootstrapResolvers
          settings)) ↔ _ := succeeds_mapM.trans (by
      simp only [List.mem_filter, List.mem_map, and_imp, forall_exists_index,
        forall_apply_eq_imp_iff₂]
      refine Iff.trans (forall₃_congr fun record hrecord hen => ?_) hzones
      exact succeeds_buildZoneEntry hunnamed (hdocuments record hrecord hen))
  have hdiscovered (names : List String) :
      Succeeds ((((ZoneDiscovery.getAll db).map (·.toConfig)).filter (·.enabled)).mapM
        (buildDiscovered loaders names)) ↔ _ := succeeds_mapM.trans (by
      simp only [succeeds_buildDiscovered, List.mem_filter, List.mem_map, and_imp,
        forall_exists_index, forall_apply_eq_imp_iff₂]
      exact hdiscovery)
  rw [ZonesBuild, buildZoneEntries, succeeds_bind]
  constructor
  · rintro ⟨settings, hsettings, h⟩
    obtain ⟨entries, hbuilt, h⟩ := succeeds_bind.1 h
    obtain ⟨discovered, hfound, -⟩ := succeeds_bind.1 h
    exact ⟨succeeds_buildResolverCacheSettings.1 ⟨settings, hsettings⟩,
      (hentries settings).1 ⟨entries, hbuilt⟩, (hdiscovered _).1 ⟨discovered, hfound⟩⟩
  · rintro ⟨hbounds, hzones, hdiscovery⟩
    obtain ⟨settings, hsettings⟩ : Succeeds (buildResolverCacheSettings
        (applyDbConfig config (.ofDatabase db))) := succeeds_buildResolverCacheSettings.2 hbounds
    obtain ⟨entries, hbuilt⟩ := (hentries settings).2 hzones
    obtain ⟨discovered, hfound⟩ := (hdiscovered _).2 hdiscovery
    exact ⟨settings, hsettings, succeeds_bind.2 ⟨entries, hbuilt,
      succeeds_bind.2 ⟨discovered, hfound, succeeds_pure _⟩⟩⟩

/-! ## What a successful call did -/

/-- The calls that add and update zones and discovery entries. -/
inductive ZoneMutation
  | addZone (zoneId : String) (newUuid : Nat → String) (input : CreateZoneInput)
  | updateZone (newUuid : Nat → String) (zoneName : String) (input : UpdateZoneInput)
  | addDiscovery (id : String) (newUuid : Nat → String) (input : CreateZoneDiscoveryInput)
  | updateDiscovery (newUuid : Nat → String) (id : String) (input : UpdateZoneDiscoveryInput)

def ZoneMutation.toMutation : ZoneMutation → Mutation
  | .addZone zoneId newUuid input => .addZone zoneId newUuid input
  | .updateZone newUuid zoneName input => .updateZone newUuid zoneName input
  | .addDiscovery id newUuid input => .addZoneDiscovery id newUuid input
  | .updateDiscovery newUuid id input => .updateZoneDiscovery newUuid id input

/-- A call that returns `Ok`. -/
def ZoneMutation.step (lib : Libraries) (db : Database) (m : ZoneMutation) : Option Database :=
  Mutation.step lib db m.toMutation

section Calls

variable {lib : Libraries} {db db' : Database}

/-- The loop over the servers, when it succeeds. -/
theorem run_createZoneServers_eq_ok {newUuid : Nat → String} {zoneId : String} {i : Nat}
    {servers : List CreateZoneServerInput} {records : List ZoneServerRecord}
    (h : (createZoneServers newUuid zoneId i servers).run db = (.ok records, db')) :
    db' = { db with zoneServers := db.zoneServers ++ newZoneServers newUuid zoneId i servers } := by
  induction servers generalizing i db records with
  | nil =>
      obtain ⟨-, rfl⟩ := Prod.mk.inj h
      simp [newZoneServers]
  | cons server rest ih =>
      obtain ⟨_, -, h⟩ := Op.run_ofExcept_bind_eq_ok.1 h
      obtain ⟨_, db₁, hinsert, h⟩ := Op.run_bind_eq_ok.1 h
      obtain ⟨_, db₂, hrest, hend⟩ := Op.run_bind_eq_ok.1 h
      obtain ⟨-, -, rfl⟩ := createZoneServer_eq_ok.1 (run_repo_eq_ok.1 hinsert)
      obtain ⟨-, rfl⟩ := Prod.mk.inj hend
      rw [ih hrest, newZoneServers]
      simp

theorem step_addZone {zoneId : String} {newUuid : Nat → String} {input : CreateZoneInput}
    (h : ZoneMutation.step lib db (.addZone zoneId newUuid input) = some db') :
    (∀ zone ∈ db.zones, zone.id ≠ zoneId) ∧
      db' = { db with
        zones := db.zones ++ [(newZone zoneId input).toZoneRow]
        zoneServers := db.zoneServers ++
          newZoneServers newUuid zoneId 0 (input.servers.getD []) } := by
  obtain ⟨_, h⟩ := run_discard_eq_ok.1 (Mutation.step_eq_some.1 h)
  obtain ⟨_, -, h⟩ := Op.run_ofExcept_bind_eq_ok.1 h
  obtain ⟨_, -, h⟩ := Op.run_ofExcept_bind_eq_ok.1 h
  obtain ⟨_, db₁, hcreate, h⟩ := Op.run_bind_eq_ok.1 h
  obtain ⟨_, db₂, hservers, hend⟩ := Op.run_bind_eq_ok.1 h
  obtain ⟨hfree, rfl⟩ := createZone_eq_ok.1 (run_repo_eq_ok.1 hcreate)
  obtain ⟨-, rfl⟩ := Prod.mk.inj hend
  exact ⟨fun zone hzone => (hfree zone hzone).1, run_createZoneServers_eq_ok hservers⟩

/-- The zone servers after an update of a zone. -/
def UpdateZoneInput.serversAfter (input : UpdateZoneInput) (newUuid : Nat → String)
    (zoneId : String) (rows : List ZoneServerRecord) : List ZoneServerRecord :=
  match input.servers with
  | some servers => deleteRows (·.zoneId) zoneId rows ++ newZoneServers newUuid zoneId 0 servers
  | none => rows

theorem step_updateZone {newUuid : Nat → String} {zoneName : String} {input : UpdateZoneInput}
    (h : ZoneMutation.step lib db (.updateZone newUuid zoneName input) = some db') :
    ∃ record, Zones.getByZone zoneName db = some record ∧
      db' = { db with
        zones := updateRows (·.id) (editZone input record).toZoneRow db.zones
        zoneServers := input.serversAfter newUuid record.id db.zoneServers } := by
  obtain ⟨_, h⟩ := run_discard_eq_ok.1 (Mutation.step_eq_some.1 h)
  obtain ⟨record, hget, h⟩ := run_fetch_bind_eq_ok.1 h
  obtain ⟨_, db₁, hupdate, hservers⟩ := Op.run_bind_eq_ok.1 h
  have hzones := statement_eq_ok.1 (run_repo_eq_ok.1 hupdate)
  split at hzones
  · exact absurd hzones (by simp)
  obtain rfl := Option.some.inj hzones
  refine ⟨record, hget, ?_⟩
  rw [UpdateZoneInput.serversAfter]
  cases hinput : input.servers with
  | none =>
      rw [hinput] at hservers
      exact (congrArg Prod.snd hservers).symm
  | some servers =>
      rw [hinput] at hservers
      obtain ⟨_, db₂, hdelete, hinsert⟩ := Op.run_bind_eq_ok.1 hservers
      have hkept := statement_eq_ok.1 (run_repo_eq_ok.1 hdelete)
      obtain rfl := Option.some.inj hkept
      obtain ⟨_, db₃, hloop, hend⟩ := Op.run_bind_eq_ok.1 hinsert
      obtain ⟨-, rfl⟩ := Prod.mk.inj hend
      exact run_createZoneServers_eq_ok hloop

theorem step_addDiscovery {id : String} {newUuid : Nat → String} {input : CreateZoneDiscoveryInput}
    (h : ZoneMutation.step lib db (.addDiscovery id newUuid input) = some db') :
    ∃ types, db' = { db with
      zoneDiscovery := db.zoneDiscovery ++ [(newZoneDiscovery id input).toZoneDiscoveryRow]
      allowedTypes := types } := by
  obtain ⟨_, h⟩ := run_discard_eq_ok.1 (Mutation.step_eq_some.1 h)
  obtain ⟨_, -, h⟩ := Op.run_ofExcept_bind_eq_ok.1 h
  have hcreate := (run_repo_finish_eq_ok.1 h).1
  rw [ZoneDiscovery.create] at hcreate
  split at hcreate
  · exact absurd (congrArg Prod.fst hcreate) (by simp)
  · rename_i rows hrows
    obtain ⟨-, rfl⟩ := insertRow_eq_some.1 hrows
    exact ⟨_, (congrArg Prod.snd hcreate).symm⟩

theorem step_updateDiscovery {newUuid : Nat → String} {id : String}
    {input : UpdateZoneDiscoveryInput}
    (h : ZoneMutation.step lib db (.updateDiscovery newUuid id input) = some db') :
    ∃ record edited types, ZoneDiscovery.getById id db = some record ∧
      editZoneDiscovery input record = .ok edited ∧ db' = { db with
        zoneDiscovery := updateRows (·.id) edited.toZoneDiscoveryRow db.zoneDiscovery
        allowedTypes := types } := by
  obtain ⟨_, h⟩ := run_discard_eq_ok.1 (Mutation.step_eq_some.1 h)
  obtain ⟨record, hget, h⟩ := run_fetch_bind_eq_ok.1 h
  obtain ⟨edited, hedit, h⟩ := Op.run_ofExcept_bind_eq_ok.1 h
  have hupdate := (run_repo_finish_eq_ok.1 h).1
  exact ⟨record, edited, _, hget, hedit, (congrArg Prod.snd hupdate).symm⟩

end Calls

/-! ## Which calls keep the zones buildable -/

/-- The condition on a call: an enabled zone that it writes can be built with the servers that it
has then, and the check interval of an enabled discovery entry can be read. -/
def ZoneMutation.Fits (lib : Libraries) (db : Database) : ZoneMutation → Prop
  | .addZone zoneId newUuid input =>
      (newZone zoneId input).enabled →
        ((newZone zoneId input).withServers
          (newZoneServers newUuid zoneId 0 (input.servers.getD []))).Usable lib
            (db.bootstrapResolvers.map (·.address))
  | .updateZone newUuid zoneName input =>
      ∀ row ∈ db.zones, row.zone = zoneName → (editZone input (Zones.ofRow row)).enabled →
        ((editZone input (Zones.ofRow row)).withServers
          (input.servers.elim (db.serversOf row) (newZoneServers newUuid row.id 0))).Usable lib
            (db.bootstrapResolvers.map (·.address))
  | .addDiscovery id _ input =>
      (newZoneDiscovery id input).enabled → (newZoneDiscovery id input).Usable
  | .updateDiscovery _ id input =>
      ∀ row ∈ db.zoneDiscovery, row.id = id → input.enabled.getD row.enabled →
        ∀ value, input.checkInterval.or row.checkInterval = some value →
          Succeeds (parseInterval value)

section Steps

variable {lib : Libraries} {db db' : Database}

theorem zoneId_of_mem_newZoneServers {newUuid : Nat → String} {zoneId : String} :
    ∀ {i : Nat} {servers : List CreateZoneServerInput} {record : ZoneServerRecord},
      record ∈ newZoneServers newUuid zoneId i servers → record.zoneId = zoneId
  | _, [], _, h => absurd h (by simp [newZoneServers])
  | _, _ :: _, _, h => (List.mem_cons.1 h).elim (fun heq => heq ▸ rfl) zoneId_of_mem_newZoneServers

/-- The servers of the zone that got new ones. -/
theorem filter_append_self {rows : List ZoneServerRecord} {newUuid : Nat → String}
    {zoneId : String} {servers : List CreateZoneServerInput}
    (hrows : ∀ server ∈ rows, server.zoneId ≠ zoneId) :
    (rows ++ newZoneServers newUuid zoneId 0 servers).filter (·.zoneId = zoneId) =
      newZoneServers newUuid zoneId 0 servers := by
  have hnil : rows.filter (·.zoneId = zoneId) = [] :=
    List.filter_eq_nil_iff.2 fun server hserver => by simpa using hrows server hserver
  have hself : (newZoneServers newUuid zoneId 0 servers).filter (·.zoneId = zoneId) =
      newZoneServers newUuid zoneId 0 servers :=
    List.filter_eq_self.2 fun server hserver => by
      simpa using zoneId_of_mem_newZoneServers hserver
  rw [List.filter_append, hnil, hself, List.nil_append]

/-- The servers of the other zones. -/
theorem filter_append_other {rows : List ZoneServerRecord} {newUuid : Nat → String}
    {zoneId other : String} {servers : List CreateZoneServerInput} (hne : other ≠ zoneId) :
    (rows ++ newZoneServers newUuid zoneId 0 servers).filter (·.zoneId = other) =
      rows.filter (·.zoneId = other) := by
  have hnil : (newZoneServers newUuid zoneId 0 servers).filter (·.zoneId = other) = [] :=
    List.filter_eq_nil_iff.2 fun server hserver => by
      simpa [zoneId_of_mem_newZoneServers hserver] using hne.symm
  rw [List.filter_append, hnil, List.append_nil]

theorem filter_deleteRows_other {rows : List ZoneServerRecord} {zoneId other : String}
    (hne : other ≠ zoneId) :
    (deleteRows (·.zoneId) zoneId rows).filter (·.zoneId = other) =
      rows.filter (·.zoneId = other) := by
  rw [deleteRows, List.filter_filter]
  refine List.filter_congr fun server _ => ?_
  by_cases heq : server.zoneId = other
  · simp [heq, hne]
  · simp [heq]

theorem filter_serversAfter_self {input : UpdateZoneInput} {newUuid : Nat → String}
    {zoneId : String} {rows : List ZoneServerRecord} :
    (input.serversAfter newUuid zoneId rows).filter (·.zoneId = zoneId) =
      input.servers.elim (rows.filter (·.zoneId = zoneId)) (newZoneServers newUuid zoneId 0) := by
  rw [UpdateZoneInput.serversAfter]
  cases input.servers with
  | none => rfl
  | some servers => exact filter_append_self fun server hserver => (mem_deleteRows.1 hserver).2

theorem filter_serversAfter_other {input : UpdateZoneInput} {newUuid : Nat → String}
    {zoneId other : String} {rows : List ZoneServerRecord} (hne : other ≠ zoneId) :
    (input.serversAfter newUuid zoneId rows).filter (·.zoneId = other) =
      rows.filter (·.zoneId = other) := by
  rw [UpdateZoneInput.serversAfter]
  cases input.servers with
  | none => rfl
  | some servers => exact (filter_append_other hne).trans (filter_deleteRows_other hne)

/-- Only the zones change. -/
theorem zonesUsable_of_zones (h : ZonesUsable lib db) {zones : List ZoneRow}
    {servers : List ZoneServerRecord} :
    ZonesUsable lib { db with zones := zones, zoneServers := servers } ↔
      ∀ row ∈ zones, row.enabled →
        (row.withServers (servers.filter (·.zoneId = row.id))).Usable lib
          (db.bootstrapResolvers.map (·.address)) :=
  ⟨fun h' => h'.zones, fun h' => ⟨h.bounds, h', h.discovery⟩⟩

/-- Only the discovery entries change. -/
theorem zonesUsable_of_discovery (h : ZonesUsable lib db) {rows : List ZoneDiscoveryRow}
    {types : List AllowedTypeRow} :
    ZonesUsable lib { db with zoneDiscovery := rows, allowedTypes := types } ↔
      ∀ row ∈ rows, row.enabled → row.Usable :=
  ⟨fun h' => h'.discovery, fun h' => ⟨h.bounds, h.zones, h'⟩⟩

theorem zonesUsable_addZone (hvalid : db.Valid) (h : ZonesUsable lib db) {zoneId : String}
    {newUuid : Nat → String} {input : CreateZoneInput}
    (hstep : ZoneMutation.step lib db (.addZone zoneId newUuid input) = some db') :
    ZonesUsable lib db' ↔ (ZoneMutation.addZone zoneId newUuid input).Fits lib db := by
  obtain ⟨hfree, rfl⟩ := step_addZone hstep
  have hnone : ∀ server ∈ db.zoneServers, server.zoneId ≠ zoneId := by
    intro server hserver heq
    obtain ⟨zone, hzone, hid⟩ := hvalid.zoneServerZone server hserver
    exact hfree zone hzone (hid.trans heq)
  rw [zonesUsable_of_zones h, List.forall_mem_append, List.forall_mem_singleton,
    show (newZone zoneId input).id = zoneId from rfl, filter_append_self hnone]
  refine and_iff_right fun row hrow hen => ?_
  rw [filter_append_other (hfree row hrow)]
  exact h.zones row hrow hen

theorem zonesUsable_updateZone (hvalid : db.Valid) (h : ZonesUsable lib db)
    {newUuid : Nat → String} {zoneName : String} {input : UpdateZoneInput}
    (hstep : ZoneMutation.step lib db (.updateZone newUuid zoneName input) = some db') :
    ZonesUsable lib db' ↔ (ZoneMutation.updateZone newUuid zoneName input).Fits lib db := by
  obtain ⟨record, hget, rfl⟩ := step_updateZone hstep
  obtain ⟨hrow, rfl, -⟩ := getByZone_eq_some hget
  rw [zonesUsable_of_zones h]
  have honly : (ZoneMutation.updateZone newUuid record.zone input).Fits lib db ↔
      ((editZone input record).enabled → ((editZone input record).withServers
        (input.servers.elim (db.serversOf record.toZoneRow)
          (newZoneServers newUuid record.id 0))).Usable lib
            (db.bootstrapResolvers.map (·.address))) := by
    refine ⟨fun hfits => hfits record.toZoneRow hrow rfl, fun hfits row hmem hname => ?_⟩
    rw [hvalid.zoneName.eq_of_key hmem hrow hname]
    exact hfits
  rw [honly]
  constructor
  · intro hall hen
    have hzone := hall _ (mem_updateRows.2 (.inl ⟨rfl, record.toZoneRow, hrow, rfl⟩)) hen
    rw [editZone_id, filter_serversAfter_self] at hzone
    exact hzone
  · intro hfits row hmem hen
    rcases mem_updateRows.1 hmem with ⟨rfl, -⟩ | ⟨hmem, hne⟩
    · rw [editZone_id, filter_serversAfter_self]
      exact hfits hen
    · rw [editZone_id] at hne
      rw [filter_serversAfter_other hne]
      exact h.zones row hmem hen

theorem zonesUsable_addDiscovery (h : ZonesUsable lib db) {id : String} {newUuid : Nat → String}
    {input : CreateZoneDiscoveryInput}
    (hstep : ZoneMutation.step lib db (.addDiscovery id newUuid input) = some db') :
    ZonesUsable lib db' ↔ (ZoneMutation.addDiscovery id newUuid input).Fits lib db := by
  obtain ⟨types, rfl⟩ := step_addDiscovery hstep
  rw [zonesUsable_of_discovery h, List.forall_mem_append, List.forall_mem_singleton]
  exact and_iff_right h.discovery

theorem zonesUsable_updateDiscovery (hvalid : db.Valid) (h : ZonesUsable lib db)
    {newUuid : Nat → String} {id : String} {input : UpdateZoneDiscoveryInput}
    (hstep : ZoneMutation.step lib db (.updateDiscovery newUuid id input) = some db') :
    ZonesUsable lib db' ↔ (ZoneMutation.updateDiscovery newUuid id input).Fits lib db := by
  obtain ⟨record, edited, types, hget, hedit, rfl⟩ := step_updateDiscovery hstep
  obtain ⟨hid, hen, hinterval, -⟩ := editZoneDiscovery_eq_ok hedit
  obtain ⟨row, hfind, rfl⟩ := Option.map_eq_some_iff.1 hget
  have hrow : row ∈ db.zoneDiscovery := List.mem_of_find?_eq_some hfind
  obtain rfl : row.id = id := by simpa using List.find?_some hfind
  have honly : (ZoneMutation.updateDiscovery newUuid row.id input).Fits lib db ↔
      (edited.enabled → edited.Usable) := by
    rw [ZoneDiscoveryRow.Usable, hen, hinterval]
    refine ⟨fun hfits => hfits row hrow rfl, fun hfits other hother hid => ?_⟩
    rw [hvalid.discoveryId.eq_of_key hother hrow hid]
    exact hfits
  rw [zonesUsable_of_discovery h, honly]
  constructor
  · intro hall
    exact hall _ (mem_updateRows.2 (.inl ⟨rfl, row, hrow, hid.symm⟩))
  · intro hfits other hother
    rcases mem_updateRows.1 hother with ⟨rfl, -⟩ | ⟨hother, -⟩
    · exact hfits
    · exact h.discovery other hother

/-- **One call.** -/
theorem zonesUsable_step (hvalid : db.Valid) (h : ZonesUsable lib db) {m : ZoneMutation}
    (hstep : ZoneMutation.step lib db m = some db') :
    ZonesUsable lib db' ↔ m.Fits lib db := by
  cases m with
  | addZone zoneId newUuid input => exact zonesUsable_addZone hvalid h hstep
  | updateZone newUuid zoneName input => exact zonesUsable_updateZone hvalid h hstep
  | addDiscovery id newUuid input => exact zonesUsable_addDiscovery h hstep
  | updateDiscovery newUuid id input => exact zonesUsable_updateDiscovery hvalid h hstep

end Steps

/-- **Along any sequence of successful calls the zones stay buildable exactly if every call meets
the condition**, as long as what is fetched for the zones are documents for them. -/
theorem zones_stay_buildable_iff (lib : Libraries) (loaders : ZoneLoaders)
    (config : DnsFilterConfig) (hunnamed : loaders.RejectsUnnamed) {db db' : Database}
    {ms : List ZoneMutation} (hvalid : db.Valid)
    (hrun : run (ZoneMutation.step lib) db ms = some db')
    (hloads : ∀ pre, pre <+: ms → ∀ u, run (ZoneMutation.step lib) db pre = some u →
      DocumentsLoad loaders u)
    (hbuilds : ZonesBuild lib loaders config db) :
    (∀ pre, pre <+: ms → ∀ u, run (ZoneMutation.step lib) db pre = some u →
      ZonesBuild lib loaders config u) ↔
      AllSteps (ZoneMutation.step lib) (fun s m => m.Fits lib s) db ms := by
  have hinv : ∀ s m s', s.Valid → ZoneMutation.step lib s m = some s' → s'.Valid :=
    fun _ _ _ h hstep => Mutation.step_valid h hstep
  have hreached : ∀ pre, pre <+: ms → ∀ u, run (ZoneMutation.step lib) db pre = some u →
      u.Valid ∧ DocumentsLoad loaders u :=
    fun pre hpre u hu => ⟨run_invariant hinv hu hvalid, hloads pre hpre u hu⟩
  refine forall_reached_iff_allSteps_of_reached (fun s m s' hs hs' hP hstep => ?_) hrun hreached
    hbuilds
  rw [zonesBuild_iff hunnamed hs'.2 hs'.1]
  exact zonesUsable_step hs.1 ((zonesBuild_iff hunnamed hs.2 hs.1).1 hP) hstep

/-- The loader rejects a zone without a name. -/
theorem rejectsUnnamed_withDocuments (loaders : ZoneLoaders) (lib : Libraries)
    (nameFromAscii : String → Except String Name)
    (fromStr : String → Option ZoneAuthority.ZoneJsonDocument)
    (loadSourceContent : ZoneSource → Option ZoneSourceAuth → Except String String) :
    (ZoneAuthority.withDocuments loaders lib nameFromAscii fromStr
      loadSourceContent).RejectsUnnamed := by
  intro zone source auth hload
  obtain ⟨snapshot, hload⟩ := succeeds_map.1 hload
  obtain ⟨content, -, hload⟩ := bind_eq_ok.1 hload
  obtain ⟨document, -, hload⟩ := bind_eq_ok.1 hload
  obtain ⟨zone', hzone, -⟩ := bind_eq_ok.1 hload
  rw [ZoneAuthority.documentZone] at hzone
  cases hname : normalizeName zone with
  | some name => rfl
  | none =>
      rw [hname] at hzone
      split at hzone <;> exact absurd hzone (by simp)

/-! ### Concrete calls -/

instance (lib : Libraries) (loaders : ZoneLoaders) (config : DnsFilterConfig) (db : Database) :
    Decidable (ZonesBuild lib loaders config db) :=
  inferInstanceAs (Decidable (Succeeds _))

/-- Every zone has a document, and no index lists any zone. -/
def plainLoaders : ZoneLoaders where
  loadSnapshot zone _ _ :=
    if (normalizeName zone).isSome then .ok () else .error "configured zone must not be empty"
  discoveryEntries _ _ _ := .ok []

/-- The document of the zone "lan". -/
def lanText : String := "\x7b\"zone\": \"lan\", \"records\": []\x7d"

/-- There is a single document, at one address. -/
def lanLoaders : ZoneLoaders :=
  ZoneAuthority.withDocuments plainLoaders plainLibraries (fun text => .ok ⟨text⟩)
    (fun text => if text = lanText then some ⟨"lan", none, none, []⟩ else none)
    (fun source auth =>
      if source = .url "https://zones.example/lan.json" ∧ auth = none then .ok lanText
      else .error "not found")

/-- All zones are "lan", from that address. -/
def OnlyLan (db : Database) : Prop :=
  (∀ row ∈ db.zones, row.zone = "lan") ∧ ∀ server ∈ db.zoneServers,
    server.address = "https://zones.example/lan.json" ∧
      server.toConfig.authentication = none

instance (db : Database) : Decidable (OnlyLan db) := inferInstanceAs (Decidable (_ ∧ _))

theorem documentsLoad_of_onlyLan {db : Database} (h : OnlyLan db) :
    DocumentsLoad lanLoaders db := by
  rintro row hrow - - source auth ⟨server, hsingle, hprotocol, husable, hsource, hauth⟩
  have hserver : server ∈ (row.withServers (db.serversOf row)).servers :=
    (List.mem_filter.1 (hsingle ▸ List.mem_singleton_self server)).1
  obtain ⟨record, hrecord, rfl⟩ := List.mem_map.1 hserver
  obtain ⟨haddress, hnone⟩ := h.2 record (List.mem_filter.1 hrecord).1
  have hparsed : parseZoneSource (trim "https://zones.example/lan.json") =
      .ok (.url "https://zones.example/lan.json") := by decide +kernel
  have hsource' : parseZoneSource (trim record.address) = .ok source := hsource
  rw [haddress, hparsed] at hsource'
  rw [hnone] at hauth
  obtain rfl := Except.ok.inj hsource'
  obtain rfl : none = auth := Except.ok.inj hauth
  show Succeeds (lanLoaders.loadSnapshot row.zone _ _)
  rw [h.1 row hrow]
  decide +kernel

/-- `add_zone` for "lan" with the given servers. -/
def addLanZone (servers : List CreateZoneServerInput) : ZoneMutation :=
  .addZone "zone-lan" numberedUuid { zone := "lan", servers := some servers }

/-- `add_zone` for "lan" with a document, then `add_zone_discovery`. -/
def addLanAndIndex : List ZoneMutation :=
  [addLanZone
      [{ protocol := "json"
         address := "https://zones.example/lan.json"
         checkInterval := some "5m" }],
    .addDiscovery "index" numberedUuid
      { address := "https://zones.example/index.json", checkInterval := some "5m" }]

theorem zones_stay_buildable_lanAndIndex :
    ∃ db', run (ZoneMutation.step plainLibraries) {} addLanAndIndex = some db' ∧
      ∀ pre, pre <+: addLanAndIndex → ∀ u,
        run (ZoneMutation.step plainLibraries) {} pre = some u →
          ZonesBuild plainLibraries lanLoaders minimalConfig u := by
  have hany : (run (ZoneMutation.step plainLibraries) {} addLanAndIndex).any (fun _ => true) =
      true := by decide +kernel
  obtain ⟨db', hrun, -⟩ := exists_run_of_any hany
  have hbuilds : ZonesBuild plainLibraries lanLoaders minimalConfig {} := by decide +kernel
  have hlan : ∀ pre ∈ addLanAndIndex.inits, ∀ u ∈ run (ZoneMutation.step plainLibraries) {} pre,
      OnlyLan u := by decide +kernel
  refine ⟨db', hrun, (zones_stay_buildable_iff plainLibraries lanLoaders minimalConfig
    (rejectsUnnamed_withDocuments _ _ _ _ _) valid_empty hrun
    (fun pre hpre u hu => documentsLoad_of_onlyLan (hlan pre ((List.mem_inits _ _).2 hpre) u hu))
    hbuilds).2 ⟨fun _ => .inl ⟨_, rfl, rfl, ⟨?_, ?_, ?_, ?_, ?_⟩, ?_⟩,
      fun _ _ => ⟨fun _ => ?_, fun _ _ => trivial⟩⟩⟩
  · decide +kernel
  · decide +kernel
  · rintro _ ⟨⟩
    decide +kernel
  · decide +kernel
  · decide +kernel
  · decide +kernel
  · rintro _ ⟨⟩
    decide +kernel

/-- The API accepts a zone without servers; the builder then rejects the whole configuration. -/
theorem accepted_zone_not_buildable :
    lanLoaders.RejectsUnnamed ∧ ({} : Database).Valid ∧
      ZonesBuild plainLibraries lanLoaders minimalConfig {} ∧
        ∃ db', run (ZoneMutation.step plainLibraries) {} [addLanZone []] = some db' ∧
          DocumentsLoad lanLoaders db' ∧
          ¬ ZonesBuild plainLibraries lanLoaders minimalConfig db' := by
  refine ⟨rejectsUnnamed_withDocuments _ _ _ _ _, valid_empty, by decide +kernel, ?_⟩
  have hany : (run (ZoneMutation.step plainLibraries) {} [addLanZone []]).any
      (fun db' => OnlyLan db' ∧ ¬ ZonesBuild plainLibraries lanLoaders minimalConfig db') =
        true := by
    decide +kernel
  obtain ⟨db', hrun, htest⟩ := exists_run_of_any hany
  obtain ⟨honly, hnot⟩ := of_decide_eq_true htest
  exact ⟨db', hrun, documentsLoad_of_onlyLan honly, hnot⟩

end DnsFilter
