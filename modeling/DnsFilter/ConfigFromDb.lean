import DnsFilter.Repository
import DnsFilter.Interval
import DnsFilter.Lib.Op
import DnsFilter.Schema

/-!
# The configuration from the database

`apply_db_config` (`config_from_db.rs`) reads six groups of tables one after the other and
overwrites the operational part of a configuration with them. The reads (`readTables`) are kept
apart from what is made of them (`applyDbConfig`), since a reload makes them one at a time while
the database changes.
-/

namespace DnsFilter

/-- What `apply_db_config` reads, in the order in which it reads. -/
structure OperationalTables where
  filterLists : List FilterListRecord
  filteringConfig : FilteringConfigRecord
  resolverConfig : ResolverConfigRecord
  servers : List UpstreamServerRecord
  zones : List ZoneRecord
  zoneDiscovery : List ZoneDiscoveryRecord
  deriving DecidableEq, Repr

/-- All reads at one instant. -/
def OperationalTables.ofDatabase (db : Database) : OperationalTables where
  filterLists := FilterLists.getAll db
  filteringConfig := db.filteringConfig
  resolverConfig := UpstreamConfig.getResolverConfig db
  servers := UpstreamConfig.getAllServers db
  zones := Zones.getAllWithServers db
  zoneDiscovery := ZoneDiscovery.getAll db

/-- The reads of `apply_db_config`, one repository call after the other. -/
def readTables : Op Database String OperationalTables := do
  let filterLists ← .read FilterLists.getAll
  let filteringConfig ← .read (·.filteringConfig)
  let resolverConfig ← .read UpstreamConfig.getResolverConfig
  let servers ← .read UpstreamConfig.getAllServers
  let zones ← .read Zones.getAllWithServers
  let zoneDiscovery ← .read ZoneDiscovery.getAll
  return ⟨filterLists, filteringConfig, resolverConfig, servers, zones, zoneDiscovery⟩

theorem readOnly_readTables : readTables.ReadOnly :=
  Op.readOnly_bind (Op.readOnly_read _) fun _ =>
  Op.readOnly_bind (Op.readOnly_read _) fun _ =>
  Op.readOnly_bind (Op.readOnly_read _) fun _ =>
  Op.readOnly_bind (Op.readOnly_read _) fun _ =>
  Op.readOnly_bind (Op.readOnly_read _) fun _ =>
  Op.readOnly_bind (Op.readOnly_read _) fun _ => trivial

/-- Without anything in between, the reads see one instant. -/
theorem run_readTables (db : Database) :
    readTables.run db = (.ok (OperationalTables.ofDatabase db), db) := by
  simp only [readTables, Op.run_read_bind, Op.run_pure, OperationalTables.ofDatabase]

/-- `build_auth`. -/
def buildAuth (token username password : Option String) : Option ZoneServerAuthenticationConfig :=
  if token.isSome || username.isSome || password.isSome then
    some { token := token, username := username, password := password }
  else none

def FilterListRecord.toNamedList (record : FilterListRecord) : NamedList where
  name := record.name
  url := record.url
  interval := some (formatSeconds record.intervalSeconds)
  enabled := some record.enabled
  listType := some record.listType

def UpstreamServerRecord.toConfig (s : UpstreamServerRecord) : UpstreamServer where
  enabled := s.enabled
  protocol := s.protocol
  address := s.address
  authentication := buildAuth s.authToken s.authUsername s.authPassword
  maxHops := s.maxHops.map UInt8.ofInt
  nameserverIpFamily := s.nameserverIpFamily
  rootHintsPath := s.rootHintsPath
  rootKeyPath := s.rootKeyPath
  dnssec := some s.dnssec
  bindAddress := s.bindAddress
  fwmark := s.fwmark.map UInt32.ofInt

def ZoneServerRecord.toConfig (s : ZoneServerRecord) : ZoneServerConfig where
  enabled := s.enabled
  protocol := s.protocol
  address := s.address
  authentication := buildAuth s.authToken s.authUsername s.authPassword
  checkInterval := s.checkInterval
  maxHops := s.maxHops.map UInt8.ofInt
  nameserverIpFamily := s.nameserverIpFamily
  rootHintsPath := s.rootHintsPath
  rootKeyPath := s.rootKeyPath
  dnssec := some s.dnssec

def ZoneRecord.toConfig (z : ZoneRecord) : ResolverZoneConfig where
  zone := z.zone
  enabled := z.enabled
  bypassFilter := z.bypassFilter
  fallbackToDefaultResolvers := z.fallbackToDefaultResolvers
  strategy := z.strategy
  servers := z.servers.map (·.toConfig)

def ZoneDiscoveryRecord.toConfig (d : ZoneDiscoveryRecord) : ZoneDiscoveryConfig where
  enabled := d.enabled
  address := d.address
  checkInterval := d.checkInterval
  allowedTypes := d.allowedTypes
  bypassFilter := d.bypassFilter
  fallbackToDefaultResolvers := d.fallbackToDefaultResolvers
  authentication := buildAuth d.authToken d.authUsername d.authPassword

/-- `apply_db_config`, given what it read. Lists of an unknown kind are skipped; the rest of the
configuration is left alone. -/
def applyDbConfig (config : DnsFilterConfig) (tables : OperationalTables) : DnsFilterConfig :=
  { config with
    blocklists := (tables.filterLists.filter (·.kind = "block")).map (·.toNamedList)
    allowlists := (tables.filterLists.filter (·.kind = "allow")).map (·.toNamedList)
    filtering := some {
      sinkholeIpv4 := some tables.filteringConfig.sinkholeIpv4
      sinkholeIpv6 := some tables.filteringConfig.sinkholeIpv6
      anyQueryPolicy := some tables.filteringConfig.anyQueryPolicy }
    resolvers := {
      strategy := tables.resolverConfig.strategy
      bootstrapResolvers := tables.resolverConfig.bootstrapResolvers
      cache := some {
        enabled := tables.resolverConfig.dnsCacheEnabled
        minTtl := tables.resolverConfig.dnsCacheMinTtlSeconds.map formatSeconds
        maxTtl := tables.resolverConfig.dnsCacheMaxTtlSeconds.map formatSeconds
        maxEntries := none }
      servers := tables.servers.map (·.toConfig)
      zones := tables.zones.map (·.toConfig)
      zoneDiscovery := tables.zoneDiscovery.map (·.toConfig) } }

end DnsFilter
