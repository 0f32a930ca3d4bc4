import DnsFilter.Lib.Numeral
import DnsFilter.Lib.Table
import Mathlib.Data.String.Basic

/-!
# The database and its repositories

The operational configuration lives in a relational database: the record types of
`repository_types.rs`, the tables of `migrations/`, and the repositories of `frameworks/database/`
that read and write them. A repository call is a function on the database; a write that consists
of several statements and fails in the middle leaves the effects of the earlier statements.

The constraints of the schema (`PRIMARY KEY`, `UNIQUE`, `CHECK`, `REFERENCES`) decide which
statements fail; `Database.Valid` states them. Random identifiers are given by `newUuid`, one for
each number in the order in which a call draws them. The text that the database driver adds to an
error is left out.
-/

namespace DnsFilter

open Table Numeral

/-! ## Records -/

structure FilterListRecord where
  id : String
  name : String
  kind : String
  url : String
  intervalSeconds : Int
  enabled : Bool
  listType : String
  deriving DecidableEq, Repr

structure FilteringConfigRecord where
  sinkholeIpv4 : String := "0.0.0.0"
  sinkholeIpv6 : String := "::"
  anyQueryPolicy : String := "notimp"
  deriving DecidableEq, Repr

structure ResolverConfigRecord where
  strategy : String
  bootstrapResolvers : List String
  dnsCacheEnabled : Bool
  dnsCacheMinTtlSeconds : Option Int
  dnsCacheMaxTtlSeconds : Option Int
  deriving DecidableEq, Repr

structure UpstreamServerRecord where
  id : String
  enabled : Bool
  protocol : String
  address : String
  authToken : Option String
  authUsername : Option String
  authPassword : Option String
  maxHops : Option Int
  nameserverIpFamily : Option String
  rootHintsPath : Option String
  rootKeyPath : Option String
  dnssec : Bool
  sortOrder : Int
  bindAddress : Option String
  fwmark : Option Int
  deriving DecidableEq, Repr

structure ZoneServerRecord where
  id : String
  zoneId : String
  enabled : Bool
  protocol : String
  address : String
  authToken : Option String
  authUsername : Option String
  authPassword : Option String
  checkInterval : Option String
  maxHops : Option Int
  nameserverIpFamily : Option String
  rootHintsPath : Option String
  rootKeyPath : Option String
  dnssec : Bool
  sortOrder : Int
  deriving DecidableEq, Repr

/-- A row of `zones`: a `ZoneRecord` without its servers. -/
structure ZoneRow where
  id : String
  zone : String
  enabled : Bool
  bypassFilter : Bool
  fallbackToDefaultResolvers : Bool
  strategy : Option String
  deriving DecidableEq, Repr

structure ZoneRecord extends ZoneRow where
  servers : List ZoneServerRecord
  deriving DecidableEq, Repr

/-- A row of `zone_discovery`: a `ZoneDiscoveryRecord` without its allowed types. -/
structure ZoneDiscoveryRow where
  id : String
  enabled : Bool
  address : String
  checkInterval : Option String
  bypassFilter : Bool
  fallbackToDefaultResolvers : Bool
  authToken : Option String
  authUsername : Option String
  authPassword : Option String
  deriving DecidableEq, Repr

structure ZoneDiscoveryRecord extends ZoneDiscoveryRow where
  allowedTypes : List String
  deriving DecidableEq, Repr

/-! ## Tables -/

/-- The single row of `resolver_config`. -/
structure ResolverConfigRow where
  strategy : String := "round_robin"
  dnsCacheEnabled : Bool := true
  dnsCacheMinTtlSeconds : Option Int := none
  dnsCacheMaxTtlSeconds : Option Int := none
  deriving DecidableEq, Repr

structure BootstrapResolverRow where
  id : String
  address : String
  sortOrder : Int
  deriving DecidableEq, Repr

structure AllowedTypeRow where
  id : String
  zoneDiscoveryId : String
  allowedType : String
  deriving DecidableEq, Repr

/-- The tables of the operational configuration. -/
structure Database where
  filterLists : List FilterListRecord := []
  filteringConfig : FilteringConfigRecord := {}
  resolverConfig : ResolverConfigRow := {}
  bootstrapResolvers : List BootstrapResolverRow := []
  upstreamServers : List UpstreamServerRecord := []
  zones : List ZoneRow := []
  zoneServers : List ZoneServerRecord := []
  zoneDiscovery : List ZoneDiscoveryRow := []
  allowedTypes : List AllowedTypeRow := []
  deriving DecidableEq, Repr

/-- The constraints of the schema. -/
structure Database.Valid (db : Database) : Prop where
  filterListId : Keyed (·.id) db.filterLists
  filterListName : Keyed (·.name) db.filterLists
  filterListKind : ∀ list ∈ db.filterLists, list.kind = "block" ∨ list.kind = "allow"
  bootstrapId : Keyed (·.id) db.bootstrapResolvers
  bootstrapAddress : Keyed (·.address) db.bootstrapResolvers
  serverId : Keyed (·.id) db.upstreamServers
  zoneId : Keyed (·.id) db.zones
  zoneName : Keyed (·.zone) db.zones
  zoneServerId : Keyed (·.id) db.zoneServers
  zoneServerZone : ∀ server ∈ db.zoneServers, ∃ zone ∈ db.zones, zone.id = server.zoneId
  discoveryId : Keyed (·.id) db.zoneDiscovery
  allowedTypeId : Keyed (·.id) db.allowedTypes
  allowedTypeUnique : Keyed (fun row => (row.zoneDiscoveryId, row.allowedType)) db.allowedTypes
  allowedTypeDiscovery : ∀ row ∈ db.allowedTypes, ∃ d ∈ db.zoneDiscovery,
    d.id = row.zoneDiscoveryId

/-! ## Repository calls -/

/-- A call of a repository: its result, or the context of its error, and the database after it. -/
abbrev RepoCall (α : Type) := Database → Except String α × Database

/-- A single statement; if a constraint refuses it the database is as before. -/
def statement (context : String) (f : Database → Option Database) : RepoCall Unit := fun db =>
  match f db with
  | some db' => (.ok (), db')
  | none => (.error context, db)

/-- The rows by `sort_order, id`. -/
def orderBySortOrder {α : Type} (sortOrder : α → Int) (id : α → String) (rows : List α) : List α :=
  rows.insertionSort fun a b =>
    sortOrder a < sortOrder b ∨ sortOrder a = sortOrder b ∧ id a ≤ id b

/-- Insert one row for each value, in order, until one is refused. -/
def insertEach {α β : Type} (conflicts : α → α → Bool) (row : Nat → β → α) (context : β → String) :
    Nat → List β → List α → Except String Unit × List α
  | _, [], rows => (.ok (), rows)
  | i, value :: rest, rows =>
      match insertRow conflicts (row i value) rows with
      | some rows => insertEach conflicts row context (i + 1) rest rows
      | none => (.error (context value), rows)

namespace FilterLists

/-- `get_all`. -/
def getAll (db : Database) : List FilterListRecord :=
  db.filterLists.insertionSort fun a b => a.name ≤ b.name

/-- `get_by_name`. -/
def getByName (name : String) (db : Database) : Option FilterListRecord :=
  db.filterLists.find? (·.name = name)

/-- `create`. -/
def create (record : FilterListRecord) : RepoCall Unit :=
  statement ("failed to insert filter list '" ++ record.name ++ "'") fun db =>
    if record.kind = "block" ∨ record.kind = "allow" then
      (insertRow (fun a b => a.id = b.id || a.name = b.name) record db.filterLists).map fun rows =>
        { db with filterLists := rows }
    else none

/-- `update`; the new name must not be the name of another row. -/
def update (record : FilterListRecord) : RepoCall Unit :=
  statement ("failed to update filter list '" ++ record.name ++ "'") fun db =>
    if (db.filterLists.any (·.id = record.id) ∧
        (db.filterLists.any fun r => r.id ≠ record.id ∧ r.name = record.name)) ∨
      ¬ (record.kind = "block" ∨ record.kind = "allow") then none
    else some { db with filterLists := updateRows (·.id) record db.filterLists }

/-- `delete`. -/
def delete (id : String) : RepoCall Unit :=
  statement ("failed to delete filter list '" ++ id ++ "'") fun db =>
    some { db with filterLists := deleteRows (·.id) id db.filterLists }

/-- `count`. -/
def count (db : Database) : Nat := db.filterLists.length

end FilterLists

/-- `FilteringConfigRepository::update`. -/
def updateFilteringConfig (record : FilteringConfigRecord) : RepoCall Unit :=
  statement "failed to update filtering config" fun db =>
    some { db with filteringConfig := record }

namespace UpstreamConfig

/-- `get_resolver_config`. -/
def getResolverConfig (db : Database) : ResolverConfigRecord where
  strategy := db.resolverConfig.strategy
  bootstrapResolvers :=
    (orderBySortOrder (·.sortOrder) (·.id) db.bootstrapResolvers).map (·.address)
  dnsCacheEnabled := db.resolverConfig.dnsCacheEnabled
  dnsCacheMinTtlSeconds := db.resolverConfig.dnsCacheMinTtlSeconds
  dnsCacheMaxTtlSeconds := db.resolverConfig.dnsCacheMaxTtlSeconds

/-- `update_resolver_config`: the row, then the bootstrap resolvers deleted and inserted again. -/
def updateResolverConfig (newUuid : Nat → String) (record : ResolverConfigRecord) :
    RepoCall Unit := fun db =>
  let (result, bootstrap) := insertEach
    (fun a b : BootstrapResolverRow => a.id = b.id || a.address = b.address)
    (fun i address => ⟨newUuid i, address, wrapSigned 32 i⟩)
    (fun address => "failed to insert bootstrap resolver '" ++ address ++ "'")
    0 record.bootstrapResolvers []
  (result, { db with
    resolverConfig :=
      { strategy := record.strategy
        dnsCacheEnabled := record.dnsCacheEnabled
        dnsCacheMinTtlSeconds := record.dnsCacheMinTtlSeconds
        dnsCacheMaxTtlSeconds := record.dnsCacheMaxTtlSeconds }
    bootstrapResolvers := bootstrap })

/-- `get_all_servers`. -/
def getAllServers (db : Database) : List UpstreamServerRecord :=
  orderBySortOrder (·.sortOrder) (·.id) db.upstreamServers

/-- `get_server_by_id`. -/
def getServerById (id : String) (db : Database) : Option UpstreamServerRecord :=
  db.upstreamServers.find? (·.id = id)

/-- `create_server`. -/
def createServer (record : UpstreamServerRecord) : RepoCall Unit :=
  statement ("failed to insert upstream server '" ++ record.id ++ "'") fun db =>
    (insertRow (fun a b => a.id = b.id) record db.upstreamServers).map fun rows =>
      { db with upstreamServers := rows }

/-- `update_server`. -/
def updateServer (record : UpstreamServerRecord) : RepoCall Unit :=
  statement ("failed to update upstream server '" ++ record.id ++ "'") fun db =>
    some { db with upstreamServers := updateRows (·.id) record db.upstreamServers }

/-- `delete_server`. -/
def deleteServer (id : String) : RepoCall Unit :=
  statement ("failed to delete upstream server '" ++ id ++ "'") fun db =>
    some { db with upstreamServers := deleteRows (·.id) id db.upstreamServers }

end UpstreamConfig

namespace Zones

/-- A zone row joined with no servers yet. -/
def ofRow (row : ZoneRow) : ZoneRecord := { row with servers := [] }

/-- `get_all_with_servers`: each server row goes to the first zone with its `zone_id`. -/
def getAllWithServers (db : Database) : List ZoneRecord :=
  attach (·.id) (·.zoneId) (fun server zone => { zone with servers := zone.servers ++ [server] })
    (orderBySortOrder (·.sortOrder) (·.id) db.zoneServers)
    ((db.zones.insertionSort fun a b => a.zone ≤ b.zone).map ofRow)

/-- `get_by_zone`. -/
def getByZone (zone : String) (db : Database) : Option ZoneRecord :=
  (db.zones.find? (·.zone = zone)).map fun row =>
    { row with
      servers := orderBySortOrder (·.sortOrder) (·.id) (db.zoneServers.filter (·.zoneId = row.id)) }

/-- `create_zone`. -/
def createZone (record : ZoneRecord) : RepoCall Unit :=
  statement ("failed to insert zone '" ++ record.zone ++ "'") fun db =>
    (insertRow (fun a b => a.id = b.id || a.zone = b.zone) record.toZoneRow db.zones).map
      fun rows => { db with zones := rows }

/-- `create_zone_server`; its zone must exist. -/
def createZoneServer (record : ZoneServerRecord) : RepoCall Unit :=
  statement ("failed to insert zone server '" ++ record.id ++ "'") fun db =>
    if db.zones.any (·.id = record.zoneId) then
      (insertRow (fun a b => a.id = b.id) record db.zoneServers).map fun rows =>
        { db with zoneServers := rows }
    else none

/-- `update_zone`; the new name must not be the name of another row. -/
def updateZone (record : ZoneRecord) : RepoCall Unit :=
  statement ("failed to update zone '" ++ record.zone ++ "'") fun db =>
    if db.zones.any (·.id = record.id) ∧
        (db.zones.any fun r => r.id ≠ record.id ∧ r.zone = record.zone) then none
    else some { db with zones := updateRows (·.id) record.toZoneRow db.zones }

/-- `delete_zone`; its servers are deleted with it. -/
def deleteZone (id : String) : RepoCall Unit :=
  statement ("failed to delete zone '" ++ id ++ "'") fun db =>
    some { db with
      zones := deleteRows (·.id) id db.zones
      zoneServers := deleteRows (·.zoneId) id db.zoneServers }

/-- `delete_zone_servers`. -/
def deleteZoneServers (zoneId : String) : RepoCall Unit :=
  statement ("failed to delete zone servers for zone '" ++ zoneId ++ "'") fun db =>
    some { db with zoneServers := deleteRows (·.zoneId) zoneId db.zoneServers }

end Zones

namespace ZoneDiscovery

/-- A discovery row joined with no allowed types yet. -/
def ofRow (row : ZoneDiscoveryRow) : ZoneDiscoveryRecord := { row with allowedTypes := [] }

/-- `get_all`: each allowed type goes to the first entry with its `zone_discovery_id`. -/
def getAll (db : Database) : List ZoneDiscoveryRecord :=
  attach (·.id) (·.zoneDiscoveryId)
    (fun row record => { record with allowedTypes := record.allowedTypes ++ [row.allowedType] })
    (db.allowedTypes.insertionSort fun a b =>
      a.zoneDiscoveryId < b.zoneDiscoveryId ∨
        a.zoneDiscoveryId = b.zoneDiscoveryId ∧ a.allowedType ≤ b.allowedType)
    ((db.zoneDiscovery.insertionSort fun a b => a.id ≤ b.id).map ofRow)

/-- `get_by_id`. -/
def getById (id : String) (db : Database) : Option ZoneDiscoveryRecord :=
  (db.zoneDiscovery.find? (·.id = id)).map fun row =>
    { row with
      allowedTypes := ((db.allowedTypes.filter (·.zoneDiscoveryId = id)).insertionSort
        fun a b => a.allowedType ≤ b.allowedType).map (·.allowedType) }

def insertAllowedTypeContext (id allowedType : String) : String :=
  "failed to insert allowed type '" ++ allowedType ++ "' for zone discovery '" ++ id ++ "'"

/-- The inserts of the allowed types, in `create` and in `update`. -/
def insertAllowedTypes (newUuid : Nat → String) (record : ZoneDiscoveryRecord) :
    List AllowedTypeRow → Except String Unit × List AllowedTypeRow :=
  insertEach
    (fun a b : AllowedTypeRow => a.id = b.id ||
      (a.zoneDiscoveryId = b.zoneDiscoveryId && a.allowedType = b.allowedType))
    (fun i allowedType => ⟨newUuid i, record.id, allowedType⟩)
    (insertAllowedTypeContext record.id)
    0 record.allowedTypes

/-- `create`. -/
def create (newUuid : Nat → String) (record : ZoneDiscoveryRecord) : RepoCall Unit := fun db =>
  match insertRow (fun a b => a.id = b.id) record.toZoneDiscoveryRow db.zoneDiscovery with
  | none => (.error ("failed to insert zone discovery '" ++ record.id ++ "'"), db)
  | some rows =>
      let (result, allowedTypes) := insertAllowedTypes newUuid record db.allowedTypes
      (result, { db with zoneDiscovery := rows, allowedTypes := allowedTypes })

/-- `update`: the row, then the allowed types deleted and inserted again. If the entry is gone by
then, the first insert is refused. -/
def update (newUuid : Nat → String) (record : ZoneDiscoveryRecord) : RepoCall Unit := fun db =>
  let kept := deleteRows (·.zoneDiscoveryId) record.id db.allowedTypes
  let (result, allowedTypes) :=
    if db.zoneDiscovery.any (·.id = record.id) then insertAllowedTypes newUuid record kept
    else
      (match record.allowedTypes with
        | [] => .ok ()
        | allowedType :: _ => .error (insertAllowedTypeContext record.id allowedType), kept)
  (result, { db with
    zoneDiscovery := updateRows (·.id) record.toZoneDiscoveryRow db.zoneDiscovery
    allowedTypes := allowedTypes })

/-- `delete`; the allowed types are deleted with the entry. -/
def delete (id : String) : RepoCall Unit :=
  statement ("failed to delete zone discovery '" ++ id ++ "'") fun db =>
    some { db with
      zoneDiscovery := deleteRows (·.id) id db.zoneDiscovery
      allowedTypes := deleteRows (·.zoneDiscoveryId) id db.allowedTypes }

end ZoneDiscovery

end DnsFilter
