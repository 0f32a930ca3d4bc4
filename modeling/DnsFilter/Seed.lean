import DnsFilter.Interval
import DnsFilter.Lib.Op
import DnsFilter.Repository
import DnsFilter.Schema

/-!
# Seeding the database

`seed_if_empty` (`seed.rs`) imports the operational part of the configuration file into an empty
database: the filter lists, the filtering settings, the resolver configuration, the upstream
servers, the zones with their servers and the discovery entries, one repository call after the
other and without a transaction. A database that holds a filter list or an upstream server counts
as seeded.
-/

namespace DnsFilter

open Table Numeral

/-- The places where seeding draws an identifier. -/
inductive SeedDraw
  | filterList (i : Nat)
  | bootstrap (i : Nat)
  | server (i : Nat)
  | zone (i : Nat)
  | zoneServer (zone i : Nat)
  | discovery (i : Nat)
  | allowedType (discovery i : Nat)
  deriving DecidableEq, Repr

/-- An operation of the seeding; its errors are texts. -/
abbrev SeedOp (α : Type) := Op Database String α

/-- A repository call with a context for its error. -/
def seedCall (context : String) (call : RepoCall Unit) : SeedOp Unit :=
  Op.access fun db => ((call db).1.mapError fun _ => context, (call db).2)

variable (draw : SeedDraw → String)

/-! ## Filter lists -/

/-- The record of a list; `parse_interval_secs` is the same function as in
`server_operations.rs`. -/
def seedFilterList (kind : String) (i : Nat) (list : NamedList) : FilterListRecord where
  id := draw (.filterList i)
  name := list.name
  kind := kind
  url := list.url
  intervalSeconds := parseIntervalSecs list.interval
  enabled := list.enabled.getD true
  listType := list.listType.getD "adguard"

/-- `seed_filter_lists`. -/
def seedFilterLists (config : DnsFilterConfig) : SeedOp Unit := do
  Op.each (fun i list => seedCall ("seeding blocklist '" ++ list.name ++ "'")
    (FilterLists.create (seedFilterList draw "block" i list))) 0 config.blocklists
  Op.each (fun i list => seedCall ("seeding allowlist '" ++ list.name ++ "'")
    (FilterLists.create (seedFilterList draw "allow" i list)))
    config.blocklists.length config.allowlists

/-! ## Settings -/

/-- The filtering settings with their defaults filled in. -/
def seedFilteringRecord (config : DnsFilterConfig) : FilteringConfigRecord where
  sinkholeIpv4 := (config.filtering.bind (·.sinkholeIpv4)).getD "0.0.0.0"
  sinkholeIpv6 := (config.filtering.bind (·.sinkholeIpv6)).getD "::"
  anyQueryPolicy := (config.filtering.bind (·.anyQueryPolicy)).getD "notimp"

/-- `seed_filtering_config`. -/
def seedFilteringConfig (config : DnsFilterConfig) : SeedOp Unit :=
  seedCall "seeding filtering config" (updateFilteringConfig (seedFilteringRecord config))

/-- A cache bound of the configuration in seconds, cast to `i64`. -/
def seedTtlSeconds (ttl : Option String) : Except String (Option Int) :=
  match ttl with
  | none => .ok none
  | some text => (parseInterval text).map fun (secs : Nat) => some (wrapSigned 64 secs)

/-- The record of `seed_resolver_config`. -/
def seedResolverRecord (config : DnsFilterConfig) : Except String ResolverConfigRecord := do
  let minTtl ← seedTtlSeconds (config.resolvers.cache.bind (·.minTtl))
  let maxTtl ← seedTtlSeconds (config.resolvers.cache.bind (·.maxTtl))
  return {
    strategy := config.resolvers.strategy
    bootstrapResolvers := config.resolvers.bootstrapResolvers
    dnsCacheEnabled := (config.resolvers.cache.map (·.enabled)).getD true
    dnsCacheMinTtlSeconds := minTtl
    dnsCacheMaxTtlSeconds := maxTtl }

/-- `seed_resolver_config`. -/
def seedResolverConfig (config : DnsFilterConfig) : SeedOp Unit := do
  let record ← Op.ofExcept (seedResolverRecord config)
  seedCall "seeding resolver config"
    (UpstreamConfig.updateResolverConfig (fun i => draw (.bootstrap i)) record)

/-! ## Upstream servers -/

/-- The record of an upstream server, the `i`-th of the configuration. -/
def seedUpstreamServer (i : Nat) (server : UpstreamServer) : UpstreamServerRecord where
  id := draw (.server i)
  enabled := server.enabled
  protocol := server.protocol
  address := server.address
  authToken := server.authentication.bind (·.token)
  authUsername := server.authentication.bind (·.username)
  authPassword := server.authentication.bind (·.password)
  maxHops := server.maxHops.map fun hops => (hops.toNat : Int)
  nameserverIpFamily := server.nameserverIpFamily
  rootHintsPath := server.rootHintsPath
  rootKeyPath := server.rootKeyPath
  dnssec := server.dnssec.getD true
  sortOrder := wrapSigned 32 i
  bindAddress := server.bindAddress
  fwmark := server.fwmark.map fun mark => wrapSigned 32 mark.toNat

/-- `seed_upstream_servers`. -/
def seedUpstreamServers (config : DnsFilterConfig) : SeedOp Unit :=
  Op.each (fun i server => seedCall ("seeding upstream server #" ++ toString i)
    (UpstreamConfig.createServer (seedUpstreamServer draw i server))) 0 config.resolvers.servers

/-! ## Zones -/

/-- The record of a zone, without its servers. -/
def seedZone (i : Nat) (zone : ResolverZoneConfig) : ZoneRecord where
  id := draw (.zone i)
  zone := zone.zone
  enabled := zone.enabled
  bypassFilter := zone.bypassFilter
  fallbackToDefaultResolvers := zone.fallbackToDefaultResolvers
  strategy := zone.strategy
  servers := []

/-- The record of a zone server, the `i`-th of its zone. -/
def seedZoneServer (zone i : Nat) (server : ZoneServerConfig) : ZoneServerRecord where
  id := draw (.zoneServer zone i)
  zoneId := draw (.zone zone)
  enabled := server.enabled
  protocol := server.protocol
  address := server.address
  authToken := server.authentication.bind (·.token)
  authUsername := server.authentication.bind (·.username)
  authPassword := server.authentication.bind (·.password)
  checkInterval := server.checkInterval
  maxHops := server.maxHops.map fun hops => (hops.toNat : Int)
  nameserverIpFamily := server.nameserverIpFamily
  rootHintsPath := server.rootHintsPath
  rootKeyPath := server.rootKeyPath
  dnssec := server.dnssec.getD true
  sortOrder := wrapSigned 32 i

/-- One turn of the loop of `seed_zones`. -/
def seedOneZone (i : Nat) (zone : ResolverZoneConfig) : SeedOp Unit := do
  seedCall ("seeding zone '" ++ zone.zone ++ "'") (Zones.createZone (seedZone draw i zone))
  Op.each (fun j server => seedCall
    ("seeding zone server #" ++ toString j ++ " for zone '" ++ zone.zone ++ "'")
    (Zones.createZoneServer (seedZoneServer draw i j server))) 0 zone.servers

/-- `seed_zones`. -/
def seedZones (config : DnsFilterConfig) : SeedOp Unit :=
  Op.each (seedOneZone draw) 0 config.resolvers.zones

/-! ## Zone discovery -/

/-- The record of a discovery entry. -/
def seedDiscovery (i : Nat) (discovery : ZoneDiscoveryConfig) : ZoneDiscoveryRecord where
  id := draw (.discovery i)
  enabled := discovery.enabled
  address := discovery.address
  checkInterval := discovery.checkInterval
  allowedTypes := discovery.allowedTypes
  bypassFilter := discovery.bypassFilter
  fallbackToDefaultResolvers := discovery.fallbackToDefaultResolvers
  authToken := discovery.authentication.bind (·.token)
  authUsername := discovery.authentication.bind (·.username)
  authPassword := discovery.authentication.bind (·.password)

/-- `seed_zone_discovery`. -/
def seedZoneDiscovery (config : DnsFilterConfig) : SeedOp Unit :=
  Op.each (fun i discovery => seedCall "seeding zone discovery entry"
    (ZoneDiscovery.create (fun j => draw (.allowedType i j)) (seedDiscovery draw i discovery)))
    0 config.resolvers.zoneDiscovery

/-! ## The import -/

/-- The six groups of inserts. -/
def seedAll (config : DnsFilterConfig) : SeedOp Unit := do
  seedFilterLists draw config
  seedFilteringConfig config
  seedResolverConfig draw config
  seedUpstreamServers draw config
  seedZones draw config
  seedZoneDiscovery draw config

/-- `seed_if_empty`. -/
def seedIfEmpty (config : DnsFilterConfig) : SeedOp Bool := do
  let count ← Op.read FilterLists.count
  let upstreamCount ← Op.read fun db => (UpstreamConfig.getAllServers db).length
  if 0 < count ∨ 0 < upstreamCount then return false
  else do
    seedAll draw config
    return true

end DnsFilter
