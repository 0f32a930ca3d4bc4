import DnsFilter.ConcurrentUpdates
import DnsFilter.FilterListProof
import DnsFilter.Lib.Lookup
import DnsFilter.UpstreamProof
import DnsFilter.ZoneProof

/-!
# The tables as a store of records

What the tables are for: a filter list under each name, the resolver configuration, an upstream
server under each identifier, a zone with its servers under each name, a discovery entry with its
types under each identifier (`ConfigStore`). The rows, their order, the foreign keys and the rows
that are deleted and inserted again are how the repositories keep it.

* **`reload_reads_written_store`** — a run of successful calls is a run of writes to single entries
  of this store (`ConfigStore.write`), and a reload reads the store and nothing else.
* **`reordered_calls_agree`** — so calls for different entries may come in any order.

Two lists are read back in the order of their numbers, the bootstrap resolvers and the servers of
a zone. This is the order they were given in up to 2^31 of them (`keepsOrder_of_length_le`).
-/

namespace DnsFilter

open Table Numeral Function

/-! ## The store -/

structure ConfigStore where
  filterLists : String → Option FilterListRecord
  filteringConfig : FilteringConfigRecord
  resolverConfig : ResolverConfigRecord
  upstreamServers : String → Option UpstreamServerRecord
  zones : String → Option ZoneRecord
  zoneDiscovery : String → Option ZoneDiscoveryRecord

/-- The store that the tables keep. -/
def Database.store (db : Database) : ConfigStore where
  filterLists name := FilterLists.getByName name db
  filteringConfig := db.filteringConfig
  resolverConfig := UpstreamConfig.getResolverConfig db
  upstreamServers id := UpstreamConfig.getServerById id db
  zones name := Zones.getByZone name db
  zoneDiscovery id := ZoneDiscovery.getById id db

/-- The record of a new server where `n` servers are stored. -/
def CreateUpstreamServerInput.record (input : CreateUpstreamServerInput) (newUuid : Nat → String)
    (n : Nat) : UpstreamServerRecord :=
  newUpstreamServer newUuid input (input.fwmark.map fun mark => (mark.toNat : Int))
    (input.sortOrder.getD (wrapSigned 32 n))

/-- The records of zone servers as they are read back. -/
def inReadOrder (servers : List ZoneServerRecord) : List ZoneServerRecord :=
  orderBySortOrder (·.sortOrder) (·.id) servers

def CreateZoneInput.record (input : CreateZoneInput) (zoneId : String) (newUuid : Nat → String) :
    ZoneRecord :=
  { newZone zoneId input with
    servers := inReadOrder (newZoneServers newUuid zoneId 0 (input.servers.getD [])) }

def UpdateZoneInput.record (input : UpdateZoneInput) (newUuid : Nat → String) (zone : ZoneRecord) :
    ZoneRecord :=
  { editZone input zone with
    servers := input.servers.elim zone.servers fun servers =>
      inReadOrder (newZoneServers newUuid zone.id 0 servers) }

/-- A discovery entry as it is read back. -/
def ZoneDiscoveryRecord.sorted (record : ZoneDiscoveryRecord) : ZoneDiscoveryRecord :=
  { record with allowedTypes := record.allowedTypes.insertionSort (· ≤ ·) }

/-- The record with the given fields. -/
def UpdateZoneDiscoveryInput.applied (input : UpdateZoneDiscoveryInput)
    (record : ZoneDiscoveryRecord) : ZoneDiscoveryRecord where
  id := record.id
  enabled := input.enabled.getD record.enabled
  address := input.address.getD record.address
  checkInterval := input.checkInterval.or record.checkInterval
  bypassFilter := input.bypassFilter.getD record.bypassFilter
  fallbackToDefaultResolvers :=
    input.fallbackToDefaultResolvers.getD record.fallbackToDefaultResolvers
  authToken := input.authentication.elim record.authToken (·.token)
  authUsername := input.authentication.elim record.authUsername (·.username)
  authPassword := input.authentication.elim record.authPassword (·.password)
  allowedTypes := input.allowedTypes.getD record.allowedTypes

/-- What a successful call makes of the store: one entry is written, from the input and from what
it held. Only a new server without a sort order also depends on how many servers there are. -/
noncomputable def ConfigStore.write (store : ConfigStore) : Mutation → ConfigStore
  | .addFilterList newUuid kind input => { store with
      filterLists :=
        update store.filterLists input.name (some (newFilterList newUuid kind input)) }
  | .updateFilterList name input => { store with
      filterLists := update store.filterLists name ((store.filterLists name).map input.applied) }
  | .deleteFilterList name => { store with
      filterLists := update store.filterLists name none }
  | .updateResolverConfig newUuid input =>
      let record := input.applied store.resolverConfig
      { store with resolverConfig := { record with
          bootstrapResolvers := readByPosition newUuid record.bootstrapResolvers } }
  | .addUpstreamServer newUuid input => { store with
      upstreamServers := update store.upstreamServers (newUuid 0)
        (some (input.record newUuid {id | (store.upstreamServers id).isSome}.ncard)) }
  | .updateUpstreamServer id input => { store with
      upstreamServers :=
        update store.upstreamServers id ((store.upstreamServers id).map input.applied) }
  | .deleteUpstreamServer id => { store with
      upstreamServers := update store.upstreamServers id none }
  | .addZone zoneId newUuid input => { store with
      zones := update store.zones input.zone (some (input.record zoneId newUuid)) }
  | .updateZone newUuid zoneName input => { store with
      zones := update store.zones zoneName ((store.zones zoneName).map (input.record newUuid)) }
  | .deleteZone zoneName => { store with zones := update store.zones zoneName none }
  | .addZoneDiscovery id _ input => { store with
      zoneDiscovery := update store.zoneDiscovery id (some (newZoneDiscovery id input).sorted) }
  | .updateZoneDiscovery _ id input => { store with
      zoneDiscovery := update store.zoneDiscovery id
        ((store.zoneDiscovery id).map fun record => (input.applied record).sorted) }
  | .deleteZoneDiscovery id => { store with
      zoneDiscovery := update store.zoneDiscovery id none }

section Steps

variable {lib : Libraries} {db db' : Database}

/-! ## Filter lists -/

theorem store_addFilterList (hvalid' : db'.Valid) {newUuid : Nat → String} {kind : String}
    {input : CreateFilterListInput}
    (h : Mutation.step lib db (.addFilterList newUuid kind input) = some db') :
    db'.store = db.store.write (.addFilterList newUuid kind input) := by
  obtain rfl := step_add h
  have hlists := lookup_append hvalid'.filterListName.free
  exact congrArg (fun lists => { db.store with filterLists := lists }) hlists

/-- An edited list has the identifier and the name of the list. -/
theorem editFilterList_eq_applied {input : UpdateFilterListInput} {record edited : FilterListRecord}
    (h : editFilterList input record = .ok edited) : edited = input.applied record := by
  rw [editFilterList_eq] at h
  exact eq_of_check_pure _ h

theorem store_updateFilterList (hvalid : db.Valid) {name : String} {input : UpdateFilterListInput}
    (h : Mutation.step lib db (.updateFilterList name input) = some db') :
    db'.store = db.store.write (.updateFilterList name input) := by
  obtain ⟨record, edited, hget, hedit, rfl⟩ := step_update h
  obtain rfl := editFilterList_eq_applied hedit
  obtain ⟨hmem, rfl⟩ := (lookup_eq_some hvalid.filterListName).1 hget
  have hid : (input.applied record).id = record.id := rfl
  have hname : (input.applied record).name = record.name := rfl
  have hlists : lookup (·.name) (updateRows (·.id) (input.applied record) db.filterLists) =
      update db.store.filterLists record.name
        ((db.store.filterLists record.name).map input.applied) := by
    rw [updateRows_eq_of_keys hvalid.filterListId hvalid.filterListName hmem hid hname,
      lookup_updateRows ⟨record, hmem, hname.symm⟩,
      show db.store.filterLists record.name = some record from hget]
    rfl
  exact congrArg (fun lists => { db.store with filterLists := lists }) hlists

theorem step_deleteFilterList {name : String}
    (h : Mutation.step lib db (.deleteFilterList name) = some db') :
    ∃ record, FilterLists.getByName name db = some record ∧
      db' = { db with filterLists := deleteRows (·.id) record.id db.filterLists } := by
  obtain ⟨_, h⟩ := run_discard_eq_ok.1 (Mutation.step_eq_some.1 h)
  obtain ⟨record, hget, h⟩ := run_fetch_bind_eq_ok.1 h
  have hdelete := statement_eq_ok.1 (run_repo_finish_eq_ok.1 h).1
  exact ⟨record, hget, (Option.some.inj hdelete).symm⟩

theorem store_deleteFilterList (hvalid : db.Valid) {name : String}
    (h : Mutation.step lib db (.deleteFilterList name) = some db') :
    db'.store = db.store.write (.deleteFilterList name) := by
  obtain ⟨record, hget, rfl⟩ := step_deleteFilterList h
  obtain ⟨hmem, rfl⟩ := (lookup_eq_some hvalid.filterListName).1 hget
  have hlists : lookup (·.name) (deleteRows (·.id) record.id db.filterLists) =
      update db.store.filterLists record.name none := by
    rw [deleteRows_eq_of_keys hvalid.filterListId hvalid.filterListName hmem, lookup_deleteRows]
    rfl
  exact congrArg (fun lists => { db.store with filterLists := lists }) hlists

/-! ## The resolver configuration and the upstream servers -/

theorem store_updateResolverConfig {newUuid : Nat → String} {input : UpdateResolverConfigInput}
    (h : Mutation.step lib db (.updateResolverConfig newUuid input) = some db') :
    db'.store = db.store.write (.updateResolverConfig newUuid input) := by
  obtain ⟨edited, hedit, hwrite⟩ := step_updateResolverConfig h
  rw [editResolverConfig_eq] at hedit
  obtain rfl := eq_of_check_pure _ hedit
  obtain ⟨hresult, rfl⟩ := Prod.mk.inj hwrite
  exact congrArg (fun record => { db.store with resolverConfig := record })
    (view_storeResolverConfig hresult)

theorem run_newSortOrder {given : Option Int} {sortOrder : Int}
    (h : (newSortOrder given).run db = (.ok sortOrder, db')) :
    db' = db ∧ sortOrder = given.getD (wrapSigned 32 db.upstreamServers.length) := by
  cases given with
  | none =>
      rw [newSortOrder, Op.run_read] at h
      obtain ⟨hvalue, hdb⟩ := Prod.mk.inj h
      rw [UpstreamConfig.getAllServers, orderBySortOrder, List.length_insertionSort] at hvalue
      rw [Option.getD_none]
      exact ⟨hdb.symm, (Except.ok.inj hvalue).symm⟩
  | some value =>
      rw [newSortOrder, Op.run_ofExcept] at h
      obtain ⟨hvalue, hdb⟩ := Prod.mk.inj h
      rw [validateSortOrder] at hvalue
      split at hvalue
      · cases hvalue
      · exact ⟨hdb.symm, (Except.ok.inj hvalue).symm⟩

theorem validateUpstreamServerInput_eq_ok {input : CreateUpstreamServerInput}
    {fwmark : Option Int} (h : validateUpstreamServerInput lib input = .ok fwmark) :
    fwmark = input.fwmark.map fun mark => (mark.toNat : Int) := by
  obtain ⟨_, -, h⟩ := bind_eq_ok.1 h
  obtain ⟨_, -, h⟩ := bind_eq_ok.1 h
  obtain ⟨_, -, h⟩ := bind_eq_ok.1 h
  cases hmark : input.fwmark with
  | none =>
      rw [hmark] at h
      exact (Except.ok.inj h).symm
  | some mark =>
      rw [hmark, parseFwmark] at h
      obtain ⟨value, hvalue, rfl⟩ := map_eq_ok.1 h
      rw [parseSingleFwmark] at hvalue
      split at hvalue
      · exact congrArg some (Except.ok.inj hvalue).symm
      · cases hvalue

theorem step_addUpstreamServer {newUuid : Nat → String} {input : CreateUpstreamServerInput}
    (h : Mutation.step lib db (.addUpstreamServer newUuid input) = some db') :
    db' = { db with upstreamServers :=
      db.upstreamServers ++ [input.record newUuid db.upstreamServers.length] } := by
  obtain ⟨_, h⟩ := run_discard_eq_ok.1 (Mutation.step_eq_some.1 h)
  obtain ⟨fwmark, hinput, h⟩ := Op.run_ofExcept_bind_eq_ok.1 h
  obtain ⟨sortOrder, db₁, hsort, hcreate⟩ := Op.run_bind_eq_ok.1 h
  obtain ⟨rfl, rfl⟩ := run_newSortOrder hsort
  obtain rfl := validateUpstreamServerInput_eq_ok hinput
  have hinsert := statement_eq_ok.1 (run_repo_finish_eq_ok.1 hcreate).1
  obtain ⟨rows, hrows, rfl⟩ := Option.map_eq_some_iff.1 hinsert
  obtain ⟨-, rfl⟩ := insertRow_eq_some.1 hrows
  rfl

theorem store_upstreamServers (db : Database) :
    db.store.upstreamServers = lookup (·.id) db.upstreamServers := rfl

theorem store_addUpstreamServer (hvalid : db.Valid) (hvalid' : db'.Valid)
    {newUuid : Nat → String} {input : CreateUpstreamServerInput}
    (h : Mutation.step lib db (.addUpstreamServer newUuid input) = some db') :
    db'.store = db.store.write (.addUpstreamServer newUuid input) := by
  obtain rfl := step_addUpstreamServer h
  have hservers := lookup_append hvalid'.serverId.free
  rw [ConfigStore.write, store_upstreamServers, ← length_eq_ncard hvalid.serverId]
  exact congrArg (fun servers => { db.store with upstreamServers := servers }) hservers

theorem store_updateUpstreamServer (hvalid : db.Valid) {id : String}
    {input : UpdateUpstreamServerInput}
    (h : Mutation.step lib db (.updateUpstreamServer id input) = some db') :
    db'.store = db.store.write (.updateUpstreamServer id input) := by
  obtain ⟨record, edited, hget, hedit, rfl⟩ := step_updateServer h
  rw [editUpstreamServer_eq] at hedit
  obtain rfl := eq_of_check_pure _ hedit
  obtain ⟨hmem, rfl⟩ := (lookup_eq_some hvalid.serverId).1 hget
  have hid : (input.applied record).id = record.id := rfl
  have hservers : lookup (·.id) (updateRows (·.id) (input.applied record) db.upstreamServers) =
      update db.store.upstreamServers record.id
        ((db.store.upstreamServers record.id).map input.applied) := by
    rw [lookup_updateRows ⟨record, hmem, hid.symm⟩,
      show db.store.upstreamServers record.id = some record from hget]
    rfl
  exact congrArg (fun servers => { db.store with upstreamServers := servers }) hservers

theorem store_deleteUpstreamServer {id : String}
    (h : Mutation.step lib db (.deleteUpstreamServer id) = some db') :
    db'.store = db.store.write (.deleteUpstreamServer id) := by
  obtain rfl := step_deleteServer h
  exact congrArg (fun servers => { db.store with upstreamServers := servers }) lookup_deleteRows

/-! ## Zones -/

/-- A zone with its servers. -/
def withServersOf (servers : List ZoneServerRecord) (row : ZoneRow) : ZoneRecord :=
  { row with servers := inReadOrder (servers.filter (·.zoneId = row.id)) }

def joinZones (zones : List ZoneRow) (servers : List ZoneServerRecord) (name : String) :
    Option ZoneRecord :=
  (lookup (·.zone) zones name).map (withServersOf servers)

theorem withServersOf_congr {servers servers' : List ZoneServerRecord} {row : ZoneRow}
    (h : servers.filter (·.zoneId = row.id) = servers'.filter (·.zoneId = row.id)) :
    withServersOf servers row = withServersOf servers' row :=
  congrArg (fun servers => ({ row with servers := inReadOrder servers } : ZoneRecord)) h

/-- Zones under different names have different identifiers. -/
theorem id_ne_of_lookup (hvalid : db.Valid) {name : String} {row other : ZoneRow}
    (hrow : row ∈ db.zones) (hne : name ≠ row.zone)
    (hother : lookup (·.zone) db.zones name = some other) : other.id ≠ row.id := by
  obtain ⟨hmem, rfl⟩ := (lookup_eq_some hvalid.zoneName).1 hother
  intro heq
  exact hne (congrArg ZoneRow.zone (hvalid.zoneId.eq_of_key hmem hrow heq))

theorem store_addZone (hvalid : db.Valid) (hvalid' : db'.Valid) {zoneId : String}
    {newUuid : Nat → String} {input : CreateZoneInput}
    (h : Mutation.step lib db (.addZone zoneId newUuid input) = some db') :
    db'.store = db.store.write (.addZone zoneId newUuid input) := by
  obtain ⟨hfree, rfl⟩ := step_addZone h
  have hservers : ∀ server ∈ db.zoneServers, server.zoneId ≠ zoneId := by
    intro server hserver heq
    obtain ⟨zone, hzone, hid⟩ := hvalid.zoneServerZone server hserver
    exact hfree zone hzone (hid.trans heq)
  refine congrArg (fun zones => { db.store with zones := zones }) ?_
  show joinZones (db.zones ++ [(newZone zoneId input).toZoneRow]) _ =
    update (joinZones _ _) input.zone (some (input.record zoneId newUuid))
  unfold joinZones
  rw [lookup_append hvalid'.zoneName.free]
  refine (map_update (withServersOf db.zoneServers) fun name hname row hrow => ?_).trans ?_
  · have hmem := ((lookup_eq_some hvalid.zoneName).1 hrow).1
    exact withServersOf_congr (filter_append_other (hfree row hmem))
  · refine congrArg (update _ _) (congrArg some ?_)
    show ZoneRecord.mk _ (inReadOrder _) = ZoneRecord.mk _ (inReadOrder _)
    exact congrArg (ZoneRecord.mk _) (congrArg inReadOrder (filter_append_self hservers))

theorem store_updateZone (hvalid : db.Valid) {newUuid : Nat → String} {zoneName : String}
    {input : UpdateZoneInput}
    (h : Mutation.step lib db (.updateZone newUuid zoneName input) = some db') :
    db'.store = db.store.write (.updateZone newUuid zoneName input) := by
  obtain ⟨record, hget, rfl⟩ := step_updateZone h
  obtain ⟨row, hrow, rfl⟩ := Option.map_eq_some_iff.1 hget
  obtain ⟨hmem, rfl⟩ := (lookup_eq_some hvalid.zoneName).1 hrow
  refine congrArg (fun zones => { db.store with zones := zones }) ?_
  show joinZones (updateRows (·.id) (editZone input (withServersOf db.zoneServers row)).toZoneRow
      db.zones) (input.serversAfter newUuid row.id db.zoneServers) =
    update (joinZones db.zones db.zoneServers) row.zone
      ((joinZones db.zones db.zoneServers row.zone).map (input.record newUuid))
  have hid : (editZone input (withServersOf db.zoneServers row)).toZoneRow.id = row.id := rfl
  have hname : (editZone input (withServersOf db.zoneServers row)).toZoneRow.zone = row.zone := rfl
  unfold joinZones
  rw [updateRows_eq_of_keys hvalid.zoneId hvalid.zoneName hmem hid hname,
    lookup_updateRows ⟨row, hmem, hname.symm⟩]
  refine (map_update (withServersOf db.zoneServers) fun name hne other hother => ?_).trans ?_
  · have hother' := id_ne_of_lookup hvalid hmem hne hother
    exact withServersOf_congr (filter_serversAfter_other hother')
  · rw [show lookup (·.zone) db.zones row.zone = some row from hrow]
    refine congrArg (update _ _) (congrArg some ?_)
    show ZoneRecord.mk _ (inReadOrder _) = ZoneRecord.mk _ _
    refine congrArg (ZoneRecord.mk _) ((congrArg inReadOrder filter_serversAfter_self).trans ?_)
    cases input.servers with
    | none => rfl
    | some servers => rfl

theorem step_deleteZone {zoneName : String}
    (h : Mutation.step lib db (.deleteZone zoneName) = some db') :
    ∃ row, lookup (·.zone) db.zones zoneName = some row ∧ db' = { db with
      zones := deleteRows (·.id) row.id db.zones
      zoneServers := deleteRows (·.zoneId) row.id db.zoneServers } := by
  obtain ⟨_, h⟩ := run_discard_eq_ok.1 (Mutation.step_eq_some.1 h)
  obtain ⟨record, hget, h⟩ := run_fetch_bind_eq_ok.1 h
  obtain ⟨row, hrow, rfl⟩ := Option.map_eq_some_iff.1 hget
  have hdelete := statement_eq_ok.1 (run_repo_finish_eq_ok.1 h).1
  exact ⟨row, hrow, (Option.some.inj hdelete).symm⟩

theorem store_deleteZone (hvalid : db.Valid) {zoneName : String}
    (h : Mutation.step lib db (.deleteZone zoneName) = some db') :
    db'.store = db.store.write (.deleteZone zoneName) := by
  obtain ⟨row, hrow, rfl⟩ := step_deleteZone h
  obtain ⟨hmem, rfl⟩ := (lookup_eq_some hvalid.zoneName).1 hrow
  refine congrArg (fun zones => { db.store with zones := zones }) ?_
  show joinZones (deleteRows (·.id) row.id db.zones) _ = update (joinZones _ _) row.zone none
  unfold joinZones
  rw [deleteRows_eq_of_keys hvalid.zoneId hvalid.zoneName hmem, lookup_deleteRows]
  refine map_update (withServersOf db.zoneServers) fun name hne other hother => ?_
  have hother' := id_ne_of_lookup hvalid hmem hne hother
  exact withServersOf_congr (filter_deleteRows_other hother')

/-! ## Zone discovery -/

/-- A discovery entry with its types. -/
def withTypesOf (types : List AllowedTypeRow) (row : ZoneDiscoveryRow) : ZoneDiscoveryRecord :=
  ZoneDiscoveryRecord.sorted
    { row with allowedTypes := (types.filter (·.zoneDiscoveryId = row.id)).map (·.allowedType) }

def joinTypes (rows : List ZoneDiscoveryRow) (types : List AllowedTypeRow) (id : String) :
    Option ZoneDiscoveryRecord :=
  (lookup (·.id) rows id).map (withTypesOf types)

theorem withTypesOf_congr {types types' : List AllowedTypeRow} {row : ZoneDiscoveryRow}
    (h : types.filter (·.zoneDiscoveryId = row.id) = types'.filter (·.zoneDiscoveryId = row.id)) :
    withTypesOf types row = withTypesOf types' row :=
  congrArg (fun types : List AllowedTypeRow => ZoneDiscoveryRecord.sorted
    { row with allowedTypes := types.map (·.allowedType) }) h

theorem store_zoneDiscovery (db : Database) :
    db.store.zoneDiscovery = joinTypes db.zoneDiscovery db.allowedTypes := by
  funext id
  refine Option.map_congr fun row hrow => ?_
  have hid : row.id = id := by simpa using List.find?_some hrow
  have hsort := List.map_insertionSort (fun a b : AllowedTypeRow => a.allowedType ≤ b.allowedType)
    (· ≤ ·) (fun row : AllowedTypeRow => row.allowedType)
    (db.allowedTypes.filter (·.zoneDiscoveryId = id)) fun _ _ _ _ => Iff.rfl
  show ZoneDiscoveryRecord.mk row _ = ZoneDiscoveryRecord.mk row _
  rw [hsort, hid]

theorem store_withDiscovery (db : Database) (rows : List ZoneDiscoveryRow)
    (types : List AllowedTypeRow) :
    Database.store { db with zoneDiscovery := rows, allowedTypes := types } =
      { db.store with zoneDiscovery := joinTypes rows types } :=
  congrArg (fun discovery => { db.store with zoneDiscovery := discovery })
    (store_zoneDiscovery { db with zoneDiscovery := rows, allowedTypes := types })

theorem insertAllowedTypes_eq_ok {newUuid : Nat → String} {record : ZoneDiscoveryRecord}
    {rows rows' : List AllowedTypeRow}
    (h : ZoneDiscovery.insertAllowedTypes newUuid record rows = (.ok (), rows')) :
    rows' = rows ++ allowedTypeRows newUuid record.id record.allowedTypes := by
  have hrows := insertEach_of_ok h
  simpa [allowedTypeRows] using hrows

theorem step_addZoneDiscovery {id : String} {newUuid : Nat → String}
    {input : CreateZoneDiscoveryInput}
    (h : Mutation.step lib db (.addZoneDiscovery id newUuid input) = some db') :
    db' = { db with
      zoneDiscovery := db.zoneDiscovery ++ [(newZoneDiscovery id input).toZoneDiscoveryRow]
      allowedTypes := db.allowedTypes ++
        allowedTypeRows newUuid id (newZoneDiscovery id input).allowedTypes } := by
  obtain ⟨_, h⟩ := run_discard_eq_ok.1 (Mutation.step_eq_some.1 h)
  obtain ⟨_, -, h⟩ := Op.run_ofExcept_bind_eq_ok.1 h
  have hcreate := (run_repo_finish_eq_ok.1 h).1
  rw [ZoneDiscovery.create] at hcreate
  split at hcreate
  · exact absurd (congrArg Prod.fst hcreate) (by simp)
  · rename_i rows hrows
    obtain ⟨-, rfl⟩ := insertRow_eq_some.1 hrows
    obtain ⟨hresult, rfl⟩ := Prod.mk.inj hcreate
    have htypes := insertAllowedTypes_eq_ok (Prod.ext hresult rfl)
    exact congrArg (fun types => { db with
      zoneDiscovery := db.zoneDiscovery ++ [(newZoneDiscovery id input).toZoneDiscoveryRow]
      allowedTypes := types }) htypes

theorem filter_append_types_other {rows : List AllowedTypeRow} {newUuid : Nat → String}
    {id other : String} {types : List String} (hne : other ≠ id) :
    (rows ++ allowedTypeRows newUuid id types).filter (·.zoneDiscoveryId = other) =
      rows.filter (·.zoneDiscoveryId = other) := by
  have hnil : (allowedTypeRows newUuid id types).filter (·.zoneDiscoveryId = other) = [] :=
    List.filter_eq_nil_iff.2 fun row hrow => by
      simpa [zoneDiscoveryId_of_mem_allowedTypeRows hrow] using hne.symm
  rw [List.filter_append, hnil, List.append_nil]

theorem filter_deleteRows_types_other {rows : List AllowedTypeRow} {id other : String}
    (hne : other ≠ id) :
    (deleteRows (·.zoneDiscoveryId) id rows).filter (·.zoneDiscoveryId = other) =
      rows.filter (·.zoneDiscoveryId = other) :=
  filter_deleteRows_of_false fun row _ hrow => by simpa [hrow] using hne.symm

theorem store_addZoneDiscovery (hvalid : db.Valid) (hvalid' : db'.Valid) {id : String}
    {newUuid : Nat → String} {input : CreateZoneDiscoveryInput}
    (h : Mutation.step lib db (.addZoneDiscovery id newUuid input) = some db') :
    db'.store = db.store.write (.addZoneDiscovery id newUuid input) := by
  obtain rfl := step_addZoneDiscovery h
  have hfree : ∀ row ∈ db.zoneDiscovery, row.id ≠ id := hvalid'.discoveryId.free
  have htypes : deleteRows (·.zoneDiscoveryId) id db.allowedTypes = db.allowedTypes := by
    refine List.filter_eq_self.2 fun row hrow => decide_eq_true fun heq => ?_
    obtain ⟨entry, hentry, hid⟩ := hvalid.allowedTypeDiscovery row hrow
    exact hfree entry hentry (hid.trans heq)
  rw [store_withDiscovery]
  refine congrArg (fun discovery => { db.store with zoneDiscovery := discovery }) ?_
  rw [store_zoneDiscovery]
  show joinTypes (db.zoneDiscovery ++ [(newZoneDiscovery id input).toZoneDiscoveryRow]) _ =
    update (joinTypes _ _) (newZoneDiscovery id input).id (some (newZoneDiscovery id input).sorted)
  unfold joinTypes
  rw [lookup_append hvalid'.discoveryId.free]
  refine (map_update (withTypesOf db.allowedTypes) fun other hother row hrow => ?_).trans ?_
  · have hid := ((lookup_eq_some hvalid.discoveryId).1 hrow).2
    exact withTypesOf_congr (filter_append_types_other (hid ▸ hother))
  · refine congrArg (update _ _) (congrArg some ?_)
    have hadded := @map_filter_allowedTypeRows newUuid db.allowedTypes id
      (newZoneDiscovery id input).allowedTypes
    rw [htypes] at hadded
    exact congrArg (fun types => ZoneDiscoveryRecord.sorted
      { newZoneDiscovery id input with allowedTypes := types }) hadded

theorem editZoneDiscovery_eq_applied {input : UpdateZoneDiscoveryInput}
    {record edited : ZoneDiscoveryRecord} (h : editZoneDiscovery input record = .ok edited) :
    edited = input.applied record := by
  obtain ⟨r₁, h₁, h⟩ := bind_eq_ok.1 h
  obtain ⟨r₂, h₂, h⟩ := bind_eq_ok.1 h
  have hr₁ := edit_eq_set (fun address => { record with address := address }) record.address h₁
    (fun address => eq_of_check_pure (validateUrl address)) rfl
  have hr₂ := edit_eq_set (fun types => { r₁ with
    enabled := input.enabled.getD r₁.enabled
    checkInterval := input.checkInterval.or r₁.checkInterval
    allowedTypes := types }) r₁.allowedTypes h₂
    (fun types => eq_of_check_pure (types.forM validateAllowedType)) rfl
  obtain rfl := Except.ok.inj h
  rw [hr₂, hr₁]
  unfold UpdateZoneDiscoveryInput.applied
  cases input.authentication with
  | none => rfl
  | some authentication => rfl

theorem step_updateZoneDiscovery {newUuid : Nat → String} {id : String}
    {input : UpdateZoneDiscoveryInput}
    (h : Mutation.step lib db (.updateZoneDiscovery newUuid id input) = some db') :
    ∃ record, ZoneDiscovery.getById id db = some record ∧ db' = { db with
      zoneDiscovery :=
        updateRows (·.id) (input.applied record).toZoneDiscoveryRow db.zoneDiscovery
      allowedTypes := deleteRows (·.zoneDiscoveryId) record.id db.allowedTypes ++
        allowedTypeRows newUuid record.id (input.applied record).allowedTypes } := by
  obtain ⟨_, h⟩ := run_discard_eq_ok.1 (Mutation.step_eq_some.1 h)
  obtain ⟨record, hget, h⟩ := run_fetch_bind_eq_ok.1 h
  obtain ⟨edited, hedit, h⟩ := Op.run_ofExcept_bind_eq_ok.1 h
  obtain rfl := editZoneDiscovery_eq_applied hedit
  refine ⟨record, hget, ?_⟩
  have hfound : db.zoneDiscovery.any (·.id = (input.applied record).id) = true := by
    obtain ⟨⟨row, hrow, hid⟩, -⟩ := getById_eq_some hget
    exact List.any_eq_true.2 ⟨row, hrow, decide_eq_true hid⟩
  have hupdate := (run_repo_finish_eq_ok.1 h).1
  rw [ZoneDiscovery.update, if_pos hfound] at hupdate
  obtain ⟨hresult, rfl⟩ := Prod.mk.inj hupdate
  have htypes := insertAllowedTypes_eq_ok (Prod.ext hresult rfl)
  exact congrArg (fun types => { db with
    zoneDiscovery := updateRows (·.id) (input.applied record).toZoneDiscoveryRow db.zoneDiscovery
    allowedTypes := types }) htypes

theorem store_updateZoneDiscovery (hvalid : db.Valid) {newUuid : Nat → String} {id : String}
    {input : UpdateZoneDiscoveryInput}
    (h : Mutation.step lib db (.updateZoneDiscovery newUuid id input) = some db') :
    db'.store = db.store.write (.updateZoneDiscovery newUuid id input) := by
  obtain ⟨record, hget, rfl⟩ := step_updateZoneDiscovery h
  have hjoin : joinTypes db.zoneDiscovery db.allowedTypes id = some record := by
    rw [← store_zoneDiscovery]
    exact hget
  obtain ⟨row, hrow, hrecord⟩ := Option.map_eq_some_iff.1 hjoin
  obtain ⟨hmem, rfl⟩ := (lookup_eq_some hvalid.discoveryId).1 hrow
  have hid : (input.applied record).toZoneDiscoveryRow.id = row.id := hrecord ▸ rfl
  rw [store_withDiscovery]
  refine congrArg (fun discovery => { db.store with zoneDiscovery := discovery }) ?_
  rw [store_zoneDiscovery, hjoin]
  show joinTypes (updateRows (·.id) _ _) _ = _
  unfold joinTypes
  rw [lookup_updateRows ⟨row, hmem, hid.symm⟩]
  refine (map_update (withTypesOf db.allowedTypes) fun other hother row' hrow' => ?_).trans ?_
  · have hid' := ((lookup_eq_some hvalid.discoveryId).1 hrow').2
    have hne : row'.id ≠ record.id := fun heq => hother (hid'.symm.trans heq)
    exact withTypesOf_congr
      ((filter_append_types_other hne).trans (filter_deleteRows_types_other hne))
  · rw [hid]
    refine congrArg (update _ _) (congrArg some ?_)
    exact congrArg (fun types => ZoneDiscoveryRecord.sorted
      { input.applied record with allowedTypes := types }) (map_filter_allowedTypeRows _ _ _)

theorem step_deleteZoneDiscovery {id : String}
    (h : Mutation.step lib db (.deleteZoneDiscovery id) = some db') :
    db' = { db with
      zoneDiscovery := deleteRows (·.id) id db.zoneDiscovery
      allowedTypes := deleteRows (·.zoneDiscoveryId) id db.allowedTypes } := by
  obtain ⟨_, h⟩ := run_discard_eq_ok.1 (Mutation.step_eq_some.1 h)
  obtain ⟨record, hget, h⟩ := run_fetch_bind_eq_ok.1 h
  have hdelete := statement_eq_ok.1 (run_repo_finish_eq_ok.1 h).1
  exact (Option.some.inj hdelete).symm

theorem store_deleteZoneDiscovery (hvalid : db.Valid) {id : String}
    (h : Mutation.step lib db (.deleteZoneDiscovery id) = some db') :
    db'.store = db.store.write (.deleteZoneDiscovery id) := by
  obtain rfl := step_deleteZoneDiscovery h
  rw [store_withDiscovery]
  refine congrArg (fun discovery => { db.store with zoneDiscovery := discovery }) ?_
  rw [store_zoneDiscovery]
  show joinTypes (deleteRows (·.id) id _) _ = _
  unfold joinTypes
  rw [lookup_deleteRows]
  refine map_update (withTypesOf db.allowedTypes) fun other hother row hrow => ?_
  have hid := ((lookup_eq_some hvalid.discoveryId).1 hrow).2
  exact withTypesOf_congr (filter_deleteRows_types_other (hid ▸ hother))

/-! ## Runs -/

/-- A successful call writes its entry of the store. -/
theorem store_step (hvalid : db.Valid) {m : Mutation} (h : Mutation.step lib db m = some db') :
    db'.store = db.store.write m := by
  have hvalid' := Mutation.step_valid hvalid h
  cases m with
  | addFilterList newUuid kind input => exact store_addFilterList hvalid' h
  | updateFilterList name input => exact store_updateFilterList hvalid h
  | deleteFilterList name => exact store_deleteFilterList hvalid h
  | updateResolverConfig newUuid input => exact store_updateResolverConfig h
  | addUpstreamServer newUuid input => exact store_addUpstreamServer hvalid hvalid' h
  | updateUpstreamServer id input => exact store_updateUpstreamServer hvalid h
  | deleteUpstreamServer id => exact store_deleteUpstreamServer h
  | addZone zoneId newUuid input => exact store_addZone hvalid hvalid' h
  | updateZone newUuid zoneName input => exact store_updateZone hvalid h
  | deleteZone zoneName => exact store_deleteZone hvalid h
  | addZoneDiscovery id newUuid input => exact store_addZoneDiscovery hvalid hvalid' h
  | updateZoneDiscovery newUuid id input => exact store_updateZoneDiscovery hvalid h
  | deleteZoneDiscovery id => exact store_deleteZoneDiscovery hvalid h

/-- A run of successful calls writes one entry after the other. -/
theorem store_run (hvalid : db.Valid) {ms : List Mutation}
    (hrun : run (Mutation.step lib) db ms = some db') :
    db'.store = ms.foldl ConfigStore.write db.store := by
  induction ms generalizing db with
  | nil => exact (congrArg Database.store (Option.some.inj hrun)).symm
  | cons m ms ih =>
      obtain ⟨db₁, hstep, hrest⟩ := run_cons_eq_some.1 hrun
      rw [List.foldl_cons, ← store_step hvalid hstep]
      exact ih (Mutation.step_valid hvalid hstep) hrest

end Steps

/-! ## What a reload reads -/

section Reads

variable {db db' : Database}

theorem getAllServers_eq_iff (hvalid : db.Valid) (hvalid' : db'.Valid) :
    UpstreamConfig.getAllServers db = UpstreamConfig.getAllServers db' ↔
      db.store.upstreamServers = db'.store.upstreamServers := by
  have hread (db : Database) : (UpstreamConfig.getAllServers db).Perm db.upstreamServers :=
    List.perm_insertionSort _ _
  rw [store_upstreamServers, store_upstreamServers,
    ← perm_iff_lookup_eq hvalid.serverId hvalid'.serverId]
  constructor
  · intro heq
    exact (hread db).symm.trans (heq ▸ hread db')
  · intro hperm
    exact orderBySortOrder_eq hvalid.serverId ((hread db').trans hperm.symm)
      (pairwise_orderBySortOrder _ _ _)

/-- The zones with their servers, as one table. -/
def Database.joinedZones (db : Database) : List ZoneRecord :=
  db.zones.map (withServersOf db.zoneServers)

theorem keyed_joinedZones (hvalid : db.Valid) : Keyed (·.zone) db.joinedZones := by
  rw [Keyed, Database.joinedZones, List.map_map]
  exact hvalid.zoneName

theorem getAllWithServers_eq_sorted (hvalid : db.Valid) :
    Zones.getAllWithServers db = db.joinedZones.insertionSort (·.zone ≤ ·.zone) := by
  have hsort := List.map_insertionSort (fun a b : ZoneRow => a.zone ≤ b.zone)
    (fun a b : ZoneRecord => a.zone ≤ b.zone) (withServersOf db.zoneServers) db.zones
    fun _ _ _ _ => Iff.rfl
  rw [Database.joinedZones, ← hsort, getAllWithServers_eq hvalid]
  refine List.map_congr_left fun row _ => ?_
  exact congrArg (fun servers => ({ row with servers := servers } : ZoneRecord))
    (filter_orderBySortOrder hvalid.zoneServerId _)

theorem store_zones_eq_lookup (db : Database) :
    db.store.zones = lookup (·.zone) db.joinedZones := by
  funext name
  have hmap : lookup (fun zone : ZoneRecord => zone.zone) db.joinedZones name =
      (lookup (fun row : ZoneRow => row.zone) db.zones name).map (withServersOf db.zoneServers) :=
    lookup_map fun _ => rfl
  exact hmap.symm

/-- The discovery entries with their types, as one table. -/
def Database.joinedDiscovery (db : Database) : List ZoneDiscoveryRecord :=
  db.zoneDiscovery.map (withTypesOf db.allowedTypes)

theorem keyed_joinedDiscovery (hvalid : db.Valid) : Keyed (·.id) db.joinedDiscovery := by
  rw [Keyed, Database.joinedDiscovery, List.map_map]
  exact hvalid.discoveryId

/-- Sorting all types and taking those of an entry is sorting those of the entry. -/
theorem map_filter_sorted_types (types : List AllowedTypeRow) (id : String) :
    ((types.insertionSort fun a b => a.zoneDiscoveryId < b.zoneDiscoveryId ∨
        a.zoneDiscoveryId = b.zoneDiscoveryId ∧ a.allowedType ≤ b.allowedType).filter
          (·.zoneDiscoveryId = id)).map (·.allowedType) =
      ((types.filter (·.zoneDiscoveryId = id)).map (·.allowedType)).insertionSort (· ≤ ·) := by
  have hperm := ((List.perm_insertionSort (fun a b : AllowedTypeRow =>
    a.zoneDiscoveryId < b.zoneDiscoveryId ∨
      a.zoneDiscoveryId = b.zoneDiscoveryId ∧ a.allowedType ≤ b.allowedType) types).filter
        (·.zoneDiscoveryId = id)).map (·.allowedType)
  refine List.Perm.eq_of_pairwise (fun _ _ _ _ => le_antisymm) ?_
    (List.pairwise_insertionSort _ _) (hperm.trans (List.perm_insertionSort _ _).symm)
  have hsorted := pairwise_insertionSort_lex (fun row : AllowedTypeRow => row.zoneDiscoveryId)
    (fun row => row.allowedType) types
  refine List.pairwise_map.2 (List.Pairwise.imp_of_mem ?_ (hsorted.filter _))
  intro a b ha hb hab
  have ha' := of_decide_eq_true (List.mem_filter.1 ha).2
  have hb' := of_decide_eq_true (List.mem_filter.1 hb).2
  rcases hab with hlt | ⟨-, hle⟩
  · exact absurd (ha'.trans hb'.symm) hlt.ne
  · exact hle

theorem getAll_discovery_eq_sorted (hvalid : db.Valid) :
    ZoneDiscovery.getAll db = db.joinedDiscovery.insertionSort (·.id ≤ ·.id) := by
  have hsort := List.map_insertionSort (fun a b : ZoneDiscoveryRow => a.id ≤ b.id)
    (fun a b : ZoneDiscoveryRecord => a.id ≤ b.id) (withTypesOf db.allowedTypes) db.zoneDiscovery
    fun _ _ _ _ => Iff.rfl
  rw [Database.joinedDiscovery, ← hsort, getAll_discovery_eq hvalid]
  refine List.map_congr_left fun row _ => ?_
  exact congrArg (ZoneDiscoveryRecord.mk row) (map_filter_sorted_types _ _)

theorem store_zoneDiscovery_eq_lookup (db : Database) :
    db.store.zoneDiscovery = lookup (·.id) db.joinedDiscovery := by
  rw [store_zoneDiscovery]
  funext id
  have hmap : lookup (fun entry : ZoneDiscoveryRecord => entry.id) db.joinedDiscovery id =
      (lookup (fun row : ZoneDiscoveryRow => row.id) db.zoneDiscovery id).map
        (withTypesOf db.allowedTypes) :=
    lookup_map fun _ => rfl
  exact hmap.symm

/-- A reload reads all of the store, and nothing else. -/
theorem ofDatabase_eq_iff (hvalid : db.Valid) (hvalid' : db'.Valid) :
    OperationalTables.ofDatabase db = OperationalTables.ofDatabase db' ↔ db.store = db'.store := by
  have hlists : FilterLists.getAll db = FilterLists.getAll db' ↔ _ :=
    insertionSort_eq_iff hvalid.filterListName hvalid'.filterListName
  have hservers := getAllServers_eq_iff hvalid hvalid'
  have hzones : Zones.getAllWithServers db = Zones.getAllWithServers db' ↔
      db.store.zones = db'.store.zones := by
    rw [getAllWithServers_eq_sorted hvalid, getAllWithServers_eq_sorted hvalid',
      store_zones_eq_lookup, store_zones_eq_lookup]
    exact insertionSort_eq_iff (keyed_joinedZones hvalid) (keyed_joinedZones hvalid')
  have hdiscovery : ZoneDiscovery.getAll db = ZoneDiscovery.getAll db' ↔
      db.store.zoneDiscovery = db'.store.zoneDiscovery := by
    rw [getAll_discovery_eq_sorted hvalid, getAll_discovery_eq_sorted hvalid',
      store_zoneDiscovery_eq_lookup, store_zoneDiscovery_eq_lookup]
    exact insertionSort_eq_iff (keyed_joinedDiscovery hvalid) (keyed_joinedDiscovery hvalid')
  rw [OperationalTables.ofDatabase, OperationalTables.ofDatabase, OperationalTables.mk.injEq,
    hlists, hservers, hzones, hdiscovery]
  exact ConfigStore.mk.injEq .. ▸ Iff.rfl

end Reads

section Runs

variable {lib : Libraries} {db t t' : Database} {ms ms' : List Mutation}

/-- **The tables are a store of records.** After any run of successful calls the tables hold the
store that the calls write, one entry each, and a reload finds in them what it finds in any other
database with this store. -/
theorem reload_reads_written_store (hvalid : db.Valid)
    (hrun : run (Mutation.step lib) db ms = some t) :
    t.store = ms.foldl ConfigStore.write db.store ∧
      ∀ other : Database, other.Valid →
        (OperationalTables.ofDatabase t = OperationalTables.ofDatabase other ↔
          other.store = ms.foldl ConfigStore.write db.store) := by
  have hstore := store_run hvalid hrun
  have hend : t.Valid := run_invariant (fun _ _ _ => Mutation.step_valid) hrun hvalid
  refine ⟨hstore, fun other hother => ?_⟩
  rw [ofDatabase_eq_iff hend hother, hstore]
  exact eq_comm

end Runs

def addLan : Mutation := .addZone "zone-1" (fun _ => "server-1")
  { zone := "lan", servers := some [{ protocol := "dns", address := "10.0.0.1:53" }] }

theorem reload_reads_written_store_lan :
    ∃ t, run (Mutation.step plainLibraries) adsDatabase
        [moveAds "https://a.example/ads", addLan] = some t ∧
      t.store = (adsDatabase.store.write (moveAds "https://a.example/ads")).write addLan ∧
      (OperationalTables.ofDatabase t = OperationalTables.ofDatabase adsDatabase ↔
        adsDatabase.store =
          (adsDatabase.store.write (moveAds "https://a.example/ads")).write addLan) := by
  obtain ⟨t, hrun, -⟩ := @exists_run_of_any _ _ (Mutation.step plainLibraries) adsDatabase
    [moveAds "https://a.example/ads", addLan] (fun t => t.zoneServers.length = 1)
    (by decide +kernel)
  obtain ⟨hstore, hreads⟩ := reload_reads_written_store valid_adsDatabase hrun
  exact ⟨t, hrun, hstore, hreads adsDatabase valid_adsDatabase⟩

/-! ## The order of calls -/

inductive ConfigEntry
  | filterList (name : String)
  | resolverConfig
  | upstreamServer (id : String)
  | zone (name : String)
  | zoneDiscovery (id : String)
  deriving DecidableEq, Repr

/-- The entry that a call writes. -/
def Mutation.entry : Mutation → ConfigEntry
  | .addFilterList _ _ input => .filterList input.name
  | .updateFilterList name _ => .filterList name
  | .deleteFilterList name => .filterList name
  | .updateResolverConfig _ _ => .resolverConfig
  | .addUpstreamServer newUuid _ => .upstreamServer (newUuid 0)
  | .updateUpstreamServer id _ => .upstreamServer id
  | .deleteUpstreamServer id => .upstreamServer id
  | .addZone _ _ input => .zone input.zone
  | .updateZone _ zoneName _ => .zone zoneName
  | .deleteZone zoneName => .zone zoneName
  | .addZoneDiscovery id _ _ => .zoneDiscovery id
  | .updateZoneDiscovery _ id _ => .zoneDiscovery id
  | .deleteZoneDiscovery id => .zoneDiscovery id

/-- A new server without a sort order gets one from the number of servers. -/
def Mutation.CountsServers : Mutation → Prop
  | .addUpstreamServer _ input => input.sortOrder = none
  | _ => False

/-- The number of servers may change. -/
def Mutation.ChangesCount : Mutation → Prop
  | .addUpstreamServer _ _ | .deleteUpstreamServer _ => True
  | _ => False

/-- The calls write different entries, and neither counts what the other one adds or deletes. -/
structure Mutation.Independent (m m' : Mutation) : Prop where
  entry_ne : m.entry ≠ m'.entry
  counts : ¬ (m.CountsServers ∧ m'.ChangesCount)
  counts' : ¬ (m'.CountsServers ∧ m.ChangesCount)

namespace ConfigStore

variable {store store' : ConfigStore} {m m' : Mutation}

/-- The stores hold the same in an entry. -/
def AgreesAt (store store' : ConfigStore) : ConfigEntry → Prop
  | .filterList name => store.filterLists name = store'.filterLists name
  | .resolverConfig => store.resolverConfig = store'.resolverConfig
  | .upstreamServer id => store.upstreamServers id = store'.upstreamServers id
  | .zone name => store.zones name = store'.zones name
  | .zoneDiscovery id => store.zoneDiscovery id = store'.zoneDiscovery id

/-- The identifiers of the stored servers. -/
def serverIds (store : ConfigStore) : Set String := {id | (store.upstreamServers id).isSome}

theorem eq_of_agreesAt (h : ∀ entry, store.AgreesAt store' entry)
    (hfiltering : store.filteringConfig = store'.filteringConfig) : store = store' := by
  obtain ⟨lists, filtering, resolver, servers, zones, discovery⟩ := store
  obtain rfl : lists = store'.filterLists := funext fun name => h (.filterList name)
  obtain rfl : resolver = store'.resolverConfig := h .resolverConfig
  obtain rfl : servers = store'.upstreamServers := funext fun id => h (.upstreamServer id)
  obtain rfl : zones = store'.zones := funext fun name => h (.zone name)
  obtain rfl : discovery = store'.zoneDiscovery := funext fun id => h (.zoneDiscovery id)
  obtain rfl : filtering = store'.filteringConfig := hfiltering
  rfl

/-- What a call does not name, it leaves. -/
theorem write_agreesAt {entry : ConfigEntry} (h : entry ≠ m.entry) :
    (store.write m).AgreesAt store entry := by
  cases m <;> cases entry <;> first
    | rfl
    | exact update_of_ne (fun heq => h (congrArg _ heq)) _ _
    | exact absurd rfl h

theorem filteringConfig_write : (store.write m).filteringConfig = store.filteringConfig := by
  cases m <;> rfl

/-- What a call writes depends on its entry only, and on the number of servers if it counts them. -/
theorem agreesAt_write (h : store.AgreesAt store' m.entry)
    (hcount : m.CountsServers → store.serverIds = store'.serverIds) :
    (store.write m).AgreesAt (store'.write m) m.entry := by
  cases m with
  | addUpstreamServer newUuid input =>
      show update _ _ _ _ = update _ _ _ _
      rw [update_self, update_self]
      unfold CreateUpstreamServerInput.record
      cases hsort : input.sortOrder with
      | none =>
          have hids : {id | (store.upstreamServers id).isSome} =
              {id | (store'.upstreamServers id).isSome} := hcount hsort
          rw [hids]
      | some value => rw [Option.getD_some, Option.getD_some]
  | updateResolverConfig newUuid input =>
      have h : store.resolverConfig = store'.resolverConfig := h
      show (store.write _).resolverConfig = (store'.write _).resolverConfig
      rw [write, write, h]
  | updateFilterList name input | updateUpstreamServer name input | updateZone _ name input
  | updateZoneDiscovery _ name input =>
      show update _ _ _ _ = update _ _ _ _
      rw [update_self, update_self]
      exact congrArg (Option.map _) h
  | _ =>
      show update _ _ _ _ = update _ _ _ _
      rw [update_self, update_self]

theorem serverIds_write (h : ¬ m.ChangesCount) : (store.write m).serverIds = store.serverIds := by
  cases m with
  | addUpstreamServer newUuid input => exact absurd trivial h
  | deleteUpstreamServer id => exact absurd trivial h
  | updateUpstreamServer id input =>
      ext other
      show (update store.upstreamServers id _ other).isSome ↔ (store.upstreamServers other).isSome
      by_cases hother : other = id
      · subst hother
        rw [update_self, Option.isSome_map]
      · rw [update_of_ne hother]
  | _ => rfl

theorem AgreesAt.symm {entry : ConfigEntry} (h : store.AgreesAt store' entry) :
    store'.AgreesAt store entry := by
  cases entry <;> exact Eq.symm h

theorem AgreesAt.trans {store'' : ConfigStore} {entry : ConfigEntry}
    (h : store.AgreesAt store' entry) (h' : store'.AgreesAt store'' entry) :
    store.AgreesAt store'' entry := by
  cases entry <;> exact Eq.trans h h'

/-- Independent calls write the same in either order. -/
theorem write_comm (h : m.Independent m') :
    (store.write m).write m' = (store.write m').write m := by
  refine eq_of_agreesAt (fun entry => ?_) (by simp only [filteringConfig_write])
  by_cases hm : entry = m.entry
  · -- Only the first call writes here, and the other one leaves what it depends on.
    subst hm
    refine (write_agreesAt h.entry_ne).trans (agreesAt_write ?_ ?_)
    · exact (write_agreesAt h.entry_ne).symm
    · intro hcounts
      exact (serverIds_write fun hchanges => h.counts ⟨hcounts, hchanges⟩).symm
  · by_cases hm' : entry = m'.entry
    · subst hm'
      refine AgreesAt.trans (agreesAt_write (write_agreesAt hm) ?_) (write_agreesAt hm).symm
      intro hcounts
      exact serverIds_write fun hchanges => h.counts' ⟨hcounts, hchanges⟩
    · exact ((write_agreesAt hm').trans (write_agreesAt hm)).trans
        ((write_agreesAt hm).trans (write_agreesAt hm')).symm

end ConfigStore

/-- Two neighbours that are independent change places. -/
inductive Swaps : List Mutation → List Mutation → Prop
  | swap {m m' : Mutation} (before after : List Mutation) (h : m.Independent m') :
      Swaps (before ++ m :: m' :: after) (before ++ m' :: m :: after)

section Order

variable {lib : Libraries} {db t t' : Database} {ms ms' : List Mutation}

theorem foldl_write_of_swaps (h : Relation.ReflTransGen Swaps ms ms') (store : ConfigStore) :
    ms.foldl ConfigStore.write store = ms'.foldl ConfigStore.write store := by
  induction h with
  | refl => rfl
  | tail _ hswap ih =>
      rw [ih]
      obtain ⟨before, after, hindependent⟩ := hswap
      rw [List.foldl_append, List.foldl_append, List.foldl_cons, List.foldl_cons, List.foldl_cons,
        List.foldl_cons, ConfigStore.write_comm hindependent]

/-- **The order of independent calls does not matter.** Two runs of successful calls that differ in
the order of independent calls leave databases that a reload reads alike. -/
theorem reordered_calls_agree (hvalid : db.Valid) (hswaps : Relation.ReflTransGen Swaps ms ms')
    (hrun : run (Mutation.step lib) db ms = some t)
    (hrun' : run (Mutation.step lib) db ms' = some t') :
    OperationalTables.ofDatabase t = OperationalTables.ofDatabase t' := by
  have hend : t.Valid := run_invariant (fun _ _ _ => Mutation.step_valid) hrun hvalid
  have hend' : t'.Valid := run_invariant (fun _ _ _ => Mutation.step_valid) hrun' hvalid
  rw [ofDatabase_eq_iff hend hend', store_run hvalid hrun, store_run hvalid hrun']
  exact foldl_write_of_swaps hswaps _

end Order

theorem reordered_calls_agree_lan :
    ∃ t t', run (Mutation.step plainLibraries) adsDatabase
        [moveAds "https://a.example/ads", addLan] = some t ∧
      run (Mutation.step plainLibraries) adsDatabase
        [addLan, moveAds "https://a.example/ads"] = some t' ∧
      OperationalTables.ofDatabase t = OperationalTables.ofDatabase t' := by
  obtain ⟨t, hrun, -⟩ := @exists_run_of_any _ _ (Mutation.step plainLibraries) adsDatabase
    [moveAds "https://a.example/ads", addLan] (fun t => t.zoneServers.length = 1)
    (by decide +kernel)
  obtain ⟨t', hrun', -⟩ := @exists_run_of_any _ _ (Mutation.step plainLibraries) adsDatabase
    [addLan, moveAds "https://a.example/ads"] (fun t => t.zoneServers.length = 1)
    (by decide +kernel)
  have hindependent : (moveAds "https://a.example/ads").Independent addLan :=
    ⟨by decide, fun h => h.1, fun h => h.1⟩
  have hswaps := Relation.ReflTransGen.single (Swaps.swap [] [] hindependent)
  exact ⟨t, t', hrun, hrun', reordered_calls_agree valid_adsDatabase hswaps hrun hrun'⟩

end DnsFilter
