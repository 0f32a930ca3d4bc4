import DnsFilter.ReplaceProof
import DnsFilter.Seed
import Mathlib.Data.Nat.Pairing

/-!
# What seeding leaves behind

Each group of inserts is described by what it adds and when it fails; a failure is a repeated name
of a list or of a zone, a repeated bootstrap resolver or allowed type, or a cache bound that does
not parse.

* `run_seedAll` — the import succeeds exactly on `Importable` configurations, and the database
  after it.
* `failed_seed_is_retried_iff` — when a database that a failed import left behind is not taken for
  a complete one.
-/

namespace DnsFilter

open Table Numeral

/-! ## Loops of inserts -/

@[simp] theorem run_seedCall (context : String) (call : RepoCall Unit) (db : Database) :
    (seedCall context call).run db = ((call db).1.mapError fun _ => context, (call db).2) := by
  rw [seedCall, Op.run_access]

theorem run_seedCall_ok {context : String} {call : RepoCall Unit} {db db' : Database}
    (h : call db = (.ok (), db')) : (seedCall context call).run db = (.ok (), db') := by
  rw [run_seedCall, h]
  rfl

theorem create_filterList_eq {record : FilterListRecord}
    (hkind : record.kind = "block" ∨ record.kind = "allow") (db : Database) :
    FilterLists.create record db =
      (insertRow (fun a b => a.id = b.id || a.name = b.name) record db.filterLists).elim
        (.error ("failed to insert filter list '" ++ record.name ++ "'"), db)
        fun rows => (.ok (), { db with filterLists := rows }) := by
  rw [FilterLists.create, statement, if_pos hkind]
  cases insertRow (fun a b => a.id = b.id || a.name = b.name) record db.filterLists <;> rfl

theorem createServer_eq (record : UpstreamServerRecord) (db : Database) :
    UpstreamConfig.createServer record db =
      (insertRow (fun a b => a.id = b.id) record db.upstreamServers).elim
        (.error ("failed to insert upstream server '" ++ record.id ++ "'"), db)
        fun rows => (.ok (), { db with upstreamServers := rows }) := by
  rw [UpstreamConfig.createServer, statement]
  cases insertRow (fun a b => a.id = b.id) record db.upstreamServers <;> rfl

theorem createZoneServer_eq {record : ZoneServerRecord} {db : Database}
    (hzone : db.zones.any (·.id = record.zoneId) = true) :
    Zones.createZoneServer record db =
      (insertRow (fun a b => a.id = b.id) record db.zoneServers).elim
        (.error ("failed to insert zone server '" ++ record.id ++ "'"), db)
        fun rows => (.ok (), { db with zoneServers := rows }) := by
  rw [Zones.createZoneServer, statement, if_pos hzone]
  cases insertRow (fun a b => a.id = b.id) record db.zoneServers <;> rfl

/-- **A loop of inserts into one table.** It adds the values up to the first conflict, and fails if
there is one. -/
theorem run_each_insert {α β : Type} {call : Nat → β → RepoCall Unit} {text : Nat → β → String}
    (conflicts : α → α → Bool) (row : Nat → β → α) (same : β → β → Bool)
    (context : Nat → β → String) (put : List α → Database)
    (hcall : ∀ i value rows, call i value (put rows) =
      (insertRow conflicts (row i value) rows).elim (.error (text i value), put rows)
        fun rows' => (.ok (), put rows'))
    (hrow : ∀ i j value value', i < j →
      conflicts (row j value') (row i value) = same value' value)
    (i : Nat) (values seen : List β) (rows : List α)
    (hseen : ∀ j value, i ≤ j → rows.any (conflicts (row j value)) = seen.any (same value)) :
    ∃ result, (Op.each (fun i value => seedCall (context i value) (call i value)) i values).run
          (put rows) =
        (result, put (rows ++ (takeFree same seen values).mapIdx fun k => row (i + k))) ∧
      (result = .ok () ↔ takeFree same seen values = values) := by
  have hloop : ∀ i values rows, ∃ result,
      (Op.each (fun i value => seedCall (context i value) (call i value)) i values).run
          (put rows) = (result, put (insertEach conflicts row (fun _ => "") i values rows).2) ∧
        (result = .ok () ↔ (insertEach conflicts row (fun _ => "") i values rows).1 = .ok ()) := by
    intro i values
    induction values generalizing i with
    | nil => exact fun rows => ⟨.ok (), rfl, Iff.rfl⟩
    | cons value rest ih =>
        intro rows
        rw [Op.run_each_cons, run_seedCall, hcall, insertEach]
        cases insertRow conflicts (row i value) rows with
        | none => exact ⟨.error (context i value), rfl, by simp⟩
        | some rows' => exact ih (i + 1) rows'
  obtain ⟨result, hrun, hresult⟩ := hloop i values rows
  obtain ⟨result', hinsert, hresult'⟩ :=
    insertEach_eq same (fun _ => "") hrow i values seen rows hseen
  rw [hinsert] at hrun hresult
  exact ⟨result, hrun, hresult.trans hresult'⟩

variable {draw : SeedDraw → String} {config : DnsFilterConfig} {db : Database}

theorem any_mapIdx {α β : Type} {p : α → Bool} {q : β → Bool} {f : Nat → β → α} {values : List β}
    (h : ∀ i value, i < values.length → p (f i value) = q value) :
    (values.mapIdx f).any p = values.any q := by
  induction values generalizing f with
  | nil => rfl
  | cons value rest ih =>
      rw [List.mapIdx_cons, List.any_cons, List.any_cons, h 0 value (by simp)]
      congr 1
      exact ih fun i value hi => h (i + 1) value (by simpa using hi)

/-! ## Filter lists -/

/-- Two lists of the same name. -/
def sameName (a b : NamedList) : Bool := a.name = b.name

/-- All lists of the configuration, in the order of their import. -/
def DnsFilterConfig.lists (config : DnsFilterConfig) : List NamedList :=
  config.blocklists ++ config.allowlists

/-- The rows of the imported filter lists. -/
def seededFilterLists (draw : SeedDraw → String) (config : DnsFilterConfig) :
    List FilterListRecord :=
  config.blocklists.mapIdx (seedFilterList draw "block") ++
    config.allowlists.mapIdx fun k => seedFilterList draw "allow" (config.blocklists.length + k)

theorem names_nodup_iff :
    (config.lists.map (·.name)).Nodup ↔
      takeFree sameName [] config.blocklists = config.blocklists ∧
        takeFree sameName config.blocklists config.allowlists = config.allowlists := by
  rw [takeFree_eq_self, takeFree_eq_self, DnsFilterConfig.lists, List.map_append,
    List.nodup_append]
  simp only [List.Nodup, List.pairwise_map, sameName, decide_eq_false_iff_not,
    List.any_nil, implies_true, and_true,
    List.any_eq_false, decide_eq_true_eq, List.mem_map]
  constructor
  · intro ⟨hblock, hallow, hboth⟩
    exact ⟨hblock.imp Ne.symm, hallow.imp Ne.symm, fun list hlist other hother heq =>
      hboth _ ⟨other, hother, rfl⟩ _ ⟨list, hlist, rfl⟩ heq.symm⟩
  · intro ⟨hblock, hallow, hboth⟩
    refine ⟨hblock.imp Ne.symm, hallow.imp Ne.symm, ?_⟩
    rintro _ ⟨other, hother, rfl⟩ _ ⟨list, hlist, rfl⟩ heq
    exact hboth list hlist other hother heq.symm

/-- One of the two loops over lists. -/
theorem run_seedLists (hinj : Function.Injective draw) {kind : String}
    (hkind : kind = "block" ∨ kind = "allow") (context : String) (i : Nat)
    (values seen : List NamedList) (rows : List FilterListRecord)
    (hseen : ∀ j value, i ≤ j → rows.any (fun row =>
        decide (draw (.filterList j) = row.id) || decide (value.name = row.name)) =
      seen.any (sameName value)) :
    ∃ result, (Op.each (fun i list => seedCall (context ++ list.name ++ "'")
        (FilterLists.create (seedFilterList draw kind i list))) i values).run
          { db with filterLists := rows } =
        (result, { db with filterLists := rows ++
          (takeFree sameName seen values).mapIdx fun k => seedFilterList draw kind (i + k) }) ∧
      (result = .ok () ↔ takeFree sameName seen values = values) := by
  have hrow : ∀ i j (list list' : NamedList), i < j →
      (decide (draw (.filterList j) = draw (.filterList i)) || decide (list'.name = list.name)) =
        sameName list' list := by
    intro i j list list' hlt
    have hne : draw (.filterList j) ≠ draw (.filterList i) :=
      fun heq => absurd (hinj heq) (by simp; omega)
    rw [decide_eq_false hne, Bool.false_or]
    rfl
  exact run_each_insert (fun a b => a.id = b.id || a.name = b.name) (seedFilterList draw kind)
    sameName (fun _ list => context ++ list.name ++ "'")
    (fun rows => { db with filterLists := rows })
    (fun i list rows => create_filterList_eq hkind { db with filterLists := rows })
    hrow i values seen rows hseen

theorem run_seedFilterLists (hinj : Function.Injective draw) (hempty : db.filterLists = []) :
    ∃ result rows, (seedFilterLists draw config).run db =
        (result, { db with filterLists := rows }) ∧
      (result = .ok () ↔ (config.lists.map (·.name)).Nodup) ∧
      (result = .ok () → rows = seededFilterLists draw config) ∧
      (config.lists ≠ [] → rows ≠ []) := by
  have hdb : db = { db with filterLists := [] } := by rw [← hempty]
  obtain ⟨blocked, hblock, hblockOk⟩ := @run_seedLists draw db hinj "block" (Or.inl rfl)
    "seeding blocklist '" 0 config.blocklists [] [] (by simp)
  simp only [Nat.zero_add, List.nil_append, ← hdb] at hblock
  rw [names_nodup_iff, ← hblockOk, seedFilterLists, Op.run_bind, hblock]
  cases hcase : blocked with
  | error e =>
      refine ⟨.error e, _, rfl, by simp, by simp, fun _ hnil => ?_⟩
      have hnone := takeFree_eq_nil (List.mapIdx_eq_nil_iff.1 hnil)
      rw [hnone, hcase] at hblockOk
      exact absurd (hblockOk.2 rfl) (by simp)
  | ok _ =>
      have htaken := hblockOk.1 hcase
      rw [htaken]
      obtain ⟨allowed, hallow, hallowOk⟩ := @run_seedLists draw db hinj "allow" (Or.inr rfl)
        "seeding allowlist '" config.blocklists.length config.allowlists config.blocklists
        (config.blocklists.mapIdx (seedFilterList draw "block"))
        (fun j value hj => any_mapIdx fun i list hi => by
          have hne : draw (.filterList j) ≠ draw (.filterList i) :=
            fun heq => absurd (hinj heq) (by simp; omega)
          simp only [seedFilterList, hne, decide_false, Bool.false_or]
          rfl)
      refine ⟨allowed, _, hallow, by rw [hallowOk]; simp, fun hok => ?_, fun hne hnil => ?_⟩
      · rw [hallowOk.1 hok]
        rfl
      · obtain ⟨hblocks, hallows⟩ := List.append_eq_nil_iff.1 hnil
        have hblocks := List.mapIdx_eq_nil_iff.1 hblocks
        rw [hblocks, List.mapIdx_eq_nil_iff] at hallows
        exact hne (by rw [DnsFilterConfig.lists, hblocks, takeFree_eq_nil hallows]; rfl)

/-! ## Settings -/

theorem run_seedFilteringConfig :
    (seedFilteringConfig config).run db =
      (.ok (), { db with filteringConfig := seedFilteringRecord config }) :=
  run_seedCall_ok rfl

theorem run_seedResolverConfig_error {e : String} (h : seedResolverRecord config = .error e) :
    (seedResolverConfig draw config).run db = (.error e, db) := by
  rw [seedResolverConfig, Op.run_bind, Op.run_ofExcept, h]

theorem run_seedResolverConfig (hinj : Function.Injective draw) {record : ResolverConfigRecord}
    (h : seedResolverRecord config = .ok record) :
    ∃ result, (seedResolverConfig draw config).run db =
        (result, { db with
          resolverConfig := record.toRow
          bootstrapResolvers := bootstrapRows (fun i => draw (.bootstrap i))
            (takeNew record.bootstrapResolvers) }) ∧
      (result = .ok () ↔ record.bootstrapResolvers.Nodup) := by
  have hinj' : Function.Injective fun i => draw (.bootstrap i) := fun i j heq => by
    simpa using hinj heq
  obtain ⟨result, hrun, hresult⟩ := updateResolverConfig_inserts hinj' record db
  refine ⟨result.mapError fun _ => "seeding resolver config", ?_, ?_⟩
  · rw [seedResolverConfig, Op.run_bind, Op.run_ofExcept, h]
    show (seedCall _ _).run db = _
    rw [run_seedCall, hrun]
  · rw [← hresult, mapError_eq_ok]

/-! ## Upstream servers -/

theorem run_seedUpstreamServers (hinj : Function.Injective draw)
    (hempty : db.upstreamServers = []) :
    (seedUpstreamServers draw config).run db = (.ok (), { db with
      upstreamServers := config.resolvers.servers.mapIdx (seedUpstreamServer draw) }) := by
  have hdb : db = { db with upstreamServers := [] } := by rw [← hempty]
  have hrow : ∀ i j (server server' : UpstreamServer), i < j →
      decide (draw (.server j) = draw (.server i)) = false := by
    intro i j _ _ hlt
    exact decide_eq_false fun heq => absurd (hinj heq) (by simp; omega)
  have hall : takeFree (fun _ _ => false) [] config.resolvers.servers = config.resolvers.servers :=
    takeFree_eq_self.2 ⟨List.pairwise_of_forall fun _ _ => rfl, by simp⟩
  obtain ⟨result, hrun, hresult⟩ := run_each_insert (fun a b => a.id = b.id)
    (seedUpstreamServer draw) (fun _ _ => false)
    (fun i _ => "seeding upstream server #" ++ toString i)
    (fun rows => { db with upstreamServers := rows })
    (fun i server rows => createServer_eq (seedUpstreamServer draw i server)
      { db with upstreamServers := rows }) hrow 0 config.resolvers.servers [] [] (by simp)
  rw [hall, hresult.2 hall] at hrun
  simp only [Nat.zero_add, List.nil_append, ← hdb] at hrun
  exact hrun

/-! ## Zones -/

/-- An identifier that is still to be drawn is in no table, also not among the rows just added. -/
theorem ne_draw_append {α : Type*} {key : α → String} {rows added : List α} {next : SeedDraw}
    (hinj : Function.Injective draw) (hrows : ∀ row ∈ rows, key row ≠ draw next)
    (hadded : ∀ row ∈ added, ∃ drawn, key row = draw drawn ∧ drawn ≠ next) :
    ∀ row ∈ rows ++ added, key row ≠ draw next := by
  intro row hrow heq
  rcases List.mem_append.1 hrow with hrow | hrow
  · exact hrows row hrow heq
  · obtain ⟨drawn, hkey, hne⟩ := hadded row hrow
    exact hne (hinj (hkey.symm.trans heq))

/-- The servers of a zone that was created just before. -/
theorem run_seedZoneServers (hinj : Function.Injective draw) (i : Nat) (zone : ResolverZoneConfig)
    (hzone : ∃ row ∈ db.zones, row.id = draw (.zone i))
    (hfresh : ∀ j, ∀ server ∈ db.zoneServers, server.id ≠ draw (.zoneServer i j)) :
    (Op.each (fun j server => seedCall
        ("seeding zone server #" ++ toString j ++ " for zone '" ++ zone.zone ++ "'")
        (Zones.createZoneServer (seedZoneServer draw i j server))) 0 zone.servers).run db =
      (.ok (), { db with
        zoneServers := db.zoneServers ++ zone.servers.mapIdx (seedZoneServer draw i) }) := by
  have hany : db.zones.any (·.id = draw (.zone i)) = true := by simpa using hzone
  have hrow : ∀ j k (server server' : ZoneServerConfig), j < k →
      decide (draw (.zoneServer i k) = draw (.zoneServer i j)) = false := by
    intro j k _ _ hlt
    exact decide_eq_false fun heq => absurd (hinj heq) (by simp; omega)
  have hall : takeFree (fun _ _ => false) [] zone.servers = zone.servers :=
    takeFree_eq_self.2 ⟨List.pairwise_of_forall fun _ _ => rfl, by simp⟩
  have hseen : ∀ j (server : ZoneServerConfig), 0 ≤ j →
      (db.zoneServers.any fun row => decide (draw (.zoneServer i j) = row.id)) =
        ([] : List ZoneServerConfig).any fun _ => false := by
    intro j _ _
    rw [List.any_nil, List.any_eq_false]
    intro row hrow
    simpa using Ne.symm (hfresh j row hrow)
  obtain ⟨result, hrun, hresult⟩ := run_each_insert (fun a b => a.id = b.id)
    (seedZoneServer draw i) (fun _ _ => false)
    (fun j _ => "seeding zone server #" ++ toString j ++ " for zone '" ++ zone.zone ++ "'")
    (fun rows => { db with zoneServers := rows })
    (fun j server rows => @createZoneServer_eq (seedZoneServer draw i j server)
      { db with zoneServers := rows } hany) hrow 0 zone.servers [] db.zoneServers hseen
  rw [hall, hresult.2 hall] at hrun
  simp only [Nat.zero_add] at hrun
  exact hrun

theorem run_seedOneZone (hinj : Function.Injective draw) (i : Nat) (zone : ResolverZoneConfig)
    (hid : ∀ row ∈ db.zones, row.id ≠ draw (.zone i))
    (hname : ∀ row ∈ db.zones, row.zone ≠ zone.zone)
    (hfresh : ∀ j, ∀ server ∈ db.zoneServers, server.id ≠ draw (.zoneServer i j)) :
    (seedOneZone draw i zone).run db = (.ok (), { db with
      zones := db.zones ++ [(seedZone draw i zone).toZoneRow]
      zoneServers := db.zoneServers ++ zone.servers.mapIdx (seedZoneServer draw i) }) := by
  have hcreate : Zones.createZone (seedZone draw i zone) db =
      (.ok (), { db with zones := db.zones ++ [(seedZone draw i zone).toZoneRow] }) :=
    createZone_eq_ok.2 ⟨fun row hrow => ⟨hid row hrow, hname row hrow⟩, rfl⟩
  rw [seedOneZone, Op.run_bind, run_seedCall_ok hcreate]
  exact run_seedZoneServers hinj i zone ⟨_, List.mem_append_right _ List.mem_cons_self, rfl⟩ hfresh

theorem run_seedOneZone_error (i : Nat) (zone : ResolverZoneConfig)
    (hname : ∃ row ∈ db.zones, row.zone = zone.zone) :
    ∃ e, (seedOneZone draw i zone).run db = (.error e, db) := by
  obtain ⟨row, hrow, heq⟩ := hname
  have hany : (db.zones.any fun r => decide ((seedZone draw i zone).id = r.id) ||
      decide ((seedZone draw i zone).zone = r.zone)) = true :=
    List.any_eq_true.2 ⟨row, hrow, by simp [seedZone, heq]⟩
  have hcreate : Zones.createZone (seedZone draw i zone) db =
      (.error ("failed to insert zone '" ++ zone.zone ++ "'"), db) := by
    rw [Zones.createZone, statement, insertRow, if_pos hany]
    rfl
  rw [seedOneZone, Op.run_bind, run_seedCall, hcreate]
  exact ⟨_, rfl⟩

/-- The rows of the servers of the imported zones, numbered from `i`. -/
def seededZoneServers (draw : SeedDraw → String) (i : Nat) (zones : List ResolverZoneConfig) :
    List ZoneServerRecord :=
  (zones.mapIdx fun k zone => zone.servers.mapIdx (seedZoneServer draw (i + k))).flatten

theorem run_seedZones (hinj : Function.Injective draw) (i : Nat) (zones : List ResolverZoneConfig)
    (hnodup : (db.zones.map (·.zone)).Nodup)
    (hid : ∀ j, i ≤ j → ∀ row ∈ db.zones, row.id ≠ draw (.zone j))
    (hserver : ∀ j, i ≤ j → ∀ k, ∀ server ∈ db.zoneServers,
      server.id ≠ draw (.zoneServer j k)) :
    ∃ result db', (Op.each (seedOneZone draw) i zones).run db = (result, db') ∧
      (result = .ok () ↔ (db.zones.map (·.zone) ++ zones.map (·.zone)).Nodup) ∧
      (result = .ok () → db' = { db with
        zones := db.zones ++ zones.mapIdx fun k zone => (seedZone draw (i + k) zone).toZoneRow
        zoneServers := db.zoneServers ++ seededZoneServers draw i zones }) := by
  induction zones generalizing i db with
  | nil => exact ⟨.ok (), db, rfl, by simpa using hnodup, by simp [seededZoneServers]⟩
  | cons zone rest ih =>
      rw [Op.run_each_cons]
      by_cases hname : ∃ row ∈ db.zones, row.zone = zone.zone
      · obtain ⟨e, hrun⟩ := @run_seedOneZone_error draw db i zone hname
        rw [hrun]
        refine ⟨.error e, db, rfl, ?_, by simp⟩
        obtain ⟨row, hrow, heq⟩ := hname
        simp only [reduceCtorEq, false_iff]
        intro hall
        exact (List.nodup_append.1 hall).2.2 row.zone (List.mem_map_of_mem hrow) zone.zone
          (by simp) heq
      · have hname : ∀ row ∈ db.zones, row.zone ≠ zone.zone :=
          fun row hrow heq => hname ⟨row, hrow, heq⟩
        rw [run_seedOneZone hinj i zone (hid i le_rfl) hname (hserver i le_rfl)]
        obtain ⟨result, db', hrun, hresult, hdb'⟩ := @ih { db with
            zones := db.zones ++ [(seedZone draw i zone).toZoneRow]
            zoneServers := db.zoneServers ++ zone.servers.mapIdx (seedZoneServer draw i) } (i + 1)
          (by
            rw [List.map_append]
            refine List.nodup_append.2 ⟨hnodup, List.nodup_singleton _, ?_⟩
            intro a ha b hb
            obtain ⟨row, hrow, rfl⟩ := List.mem_map.1 ha
            rw [List.mem_singleton.1 hb]
            exact hname row hrow)
          (by
            intro j hj
            refine ne_draw_append hinj (hid j (by omega)) ?_
            intro row hrow
            exact ⟨.zone i, by rw [List.mem_singleton.1 hrow]; rfl, by simp; omega⟩)
          (by
            intro j hj k
            refine ne_draw_append hinj (hserver j (by omega) k) ?_
            intro server hmem
            obtain ⟨n, hn, rfl⟩ := List.mem_mapIdx.1 hmem
            exact ⟨.zoneServer i n, rfl, by simp; omega⟩)
        refine ⟨result, db', hrun, hresult.trans (by simp [seedZone]), fun hok => ?_⟩
        rw [hdb' hok]
        simp [seededZoneServers, List.mapIdx_cons, Nat.add_assoc, Nat.add_comm 1]

/-! ## Zone discovery -/

/-- The rows of the allowed types of the imported discovery entries, numbered from `i`. -/
def seededAllowedTypes (draw : SeedDraw → String) (i : Nat) (entries : List ZoneDiscoveryConfig) :
    List AllowedTypeRow :=
  (entries.mapIdx fun k entry =>
    allowedTypeRows (fun j => draw (.allowedType (i + k) j)) (draw (.discovery (i + k)))
      entry.allowedTypes).flatten

theorem run_seedZoneDiscovery (hinj : Function.Injective draw) (hvalid : db.Valid) (i : Nat)
    (entries : List ZoneDiscoveryConfig)
    (hid : ∀ j, i ≤ j → ∀ row ∈ db.zoneDiscovery, row.id ≠ draw (.discovery j))
    (htype : ∀ j, i ≤ j → ∀ k, ∀ row ∈ db.allowedTypes, row.id ≠ draw (.allowedType j k)) :
    ∃ result db', (Op.each (fun i discovery => seedCall "seeding zone discovery entry"
        (ZoneDiscovery.create (fun j => draw (.allowedType i j))
          (seedDiscovery draw i discovery))) i entries).run db = (result, db') ∧
      (result = .ok () ↔ ∀ entry ∈ entries, entry.allowedTypes.Nodup) ∧
      (result = .ok () → db' = { db with
        zoneDiscovery := db.zoneDiscovery ++
          entries.mapIdx fun k entry => (seedDiscovery draw (i + k) entry).toZoneDiscoveryRow
        allowedTypes := db.allowedTypes ++ seededAllowedTypes draw i entries }) := by
  induction entries generalizing i db with
  | nil => exact ⟨.ok (), db, rfl, by simp, by simp [seededAllowedTypes]⟩
  | cons entry rest ih =>
      have hinj' : Function.Injective fun j => draw (.allowedType i j) := fun j k heq => by
        simpa using hinj heq
      obtain ⟨created, hcreate, hcreated⟩ := createDiscovery_inserts hvalid hinj' (htype i le_rfl)
        (seedDiscovery draw i entry) (hid i le_rfl)
      have hvalid' := hvalid.createDiscovery (fun j => draw (.allowedType i j))
        (seedDiscovery draw i entry)
      rw [Op.run_each_cons, run_seedCall, hcreate]
      rw [hcreate] at hvalid'
      cases hcase : created with
      | error e =>
          rw [hcase] at hcreated
          refine ⟨_, _, rfl, ?_, by simp⟩
          simp only [reduceCtorEq, false_iff, List.forall_mem_cons, not_and]
          intro hnodup
          exact absurd (hcreated.2 hnodup) (by simp)
      | ok _ =>
          have hnodup : entry.allowedTypes.Nodup := hcreated.1 hcase
          obtain ⟨result, db', hrun, hresult, hdb'⟩ := ih hvalid' (i + 1)
            (by
              intro j hj
              refine ne_draw_append hinj (hid j (by omega)) ?_
              intro row hrow
              exact ⟨.discovery i, by rw [List.mem_singleton.1 hrow]; rfl, by simp; omega⟩)
            (by
              intro j hj k
              refine ne_draw_append hinj (htype j (by omega) k) ?_
              intro row hrow
              obtain ⟨n, hn, rfl⟩ := List.mem_mapIdx.1 hrow
              exact ⟨.allowedType i n, rfl, by simp; omega⟩)
          refine ⟨result, db', hrun, ?_, fun hok => ?_⟩
          · rw [hresult, List.forall_mem_cons]
            exact ⟨fun h => ⟨hnodup, h⟩, fun h => h.2⟩
          · have htaken : takeNew (seedDiscovery draw i entry).allowedTypes = entry.allowedTypes :=
              takeNew_eq_self.2 hnodup
            rw [hdb' hok, htaken]
            simp [seededAllowedTypes, List.mapIdx_cons, Nat.add_assoc, Nat.add_comm 1,
              seedDiscovery]

/-! ## The whole import -/

/-- No table that seeding inserts into holds a row; the bootstrap resolvers are replaced. -/
structure Database.Unseeded (db : Database) : Prop where
  filterLists : db.filterLists = []
  upstreamServers : db.upstreamServers = []
  zones : db.zones = []
  zoneServers : db.zoneServers = []
  zoneDiscovery : db.zoneDiscovery = []
  allowedTypes : db.allowedTypes = []

/-- The resolver section can be imported: its cache bounds parse and no bootstrap resolver is
repeated. -/
structure ResolverImportable (config : DnsFilterConfig) : Prop where
  minTtl : ∀ text, config.resolvers.cache.bind (·.minTtl) = some text →
    Succeeds (parseInterval text)
  maxTtl : ∀ text, config.resolvers.cache.bind (·.maxTtl) = some text →
    Succeeds (parseInterval text)
  bootstrap : config.resolvers.bootstrapResolvers.Nodup

/-- Every part of the configuration can be imported. -/
structure Importable (config : DnsFilterConfig) : Prop where
  lists : (config.lists.map (·.name)).Nodup
  resolver : ResolverImportable config
  zones : (config.resolvers.zones.map (·.zone)).Nodup
  allowedTypes : ∀ entry ∈ config.resolvers.zoneDiscovery, entry.allowedTypes.Nodup

theorem succeeds_seedTtlSeconds {ttl : Option String} :
    Succeeds (seedTtlSeconds ttl) ↔ ∀ text, ttl = some text → Succeeds (parseInterval text) := by
  cases ttl with
  | none => simp [seedTtlSeconds]
  | some text => simp [seedTtlSeconds]

theorem seedResolverRecord_eq_ok {record : ResolverConfigRecord} :
    seedResolverRecord config = .ok record ↔ ∃ minTtl maxTtl,
      seedTtlSeconds (config.resolvers.cache.bind (·.minTtl)) = .ok minTtl ∧
      seedTtlSeconds (config.resolvers.cache.bind (·.maxTtl)) = .ok maxTtl ∧ record = {
        strategy := config.resolvers.strategy
        bootstrapResolvers := config.resolvers.bootstrapResolvers
        dnsCacheEnabled := (config.resolvers.cache.map (·.enabled)).getD true
        dnsCacheMinTtlSeconds := minTtl
        dnsCacheMaxTtlSeconds := maxTtl } := by
  unfold seedResolverRecord
  constructor
  · intro h
    obtain ⟨minTtl, hmin, h⟩ := bind_eq_ok.1 h
    obtain ⟨maxTtl, hmax, h⟩ := bind_eq_ok.1 h
    exact ⟨minTtl, maxTtl, hmin, hmax, (Except.ok.inj h).symm⟩
  · rintro ⟨minTtl, maxTtl, hmin, hmax, rfl⟩
    exact bind_eq_ok.2 ⟨minTtl, hmin, bind_eq_ok.2 ⟨maxTtl, hmax, rfl⟩⟩

theorem resolverImportable_iff : ResolverImportable config ↔
    Succeeds (seedResolverRecord config) ∧ config.resolvers.bootstrapResolvers.Nodup := by
  constructor
  · intro ⟨hmin, hmax, hnodup⟩
    obtain ⟨minTtl, hmin⟩ := succeeds_seedTtlSeconds.2 hmin
    obtain ⟨maxTtl, hmax⟩ := succeeds_seedTtlSeconds.2 hmax
    exact ⟨⟨_, seedResolverRecord_eq_ok.2 ⟨minTtl, maxTtl, hmin, hmax, rfl⟩⟩, hnodup⟩
  · intro ⟨⟨record, hrecord⟩, hnodup⟩
    obtain ⟨minTtl, maxTtl, hmin, hmax, -⟩ := seedResolverRecord_eq_ok.1 hrecord
    exact ⟨succeeds_seedTtlSeconds.1 ⟨_, hmin⟩, succeeds_seedTtlSeconds.1 ⟨_, hmax⟩, hnodup⟩

/-! ### What the later groups leave alone -/

section Keeps

variable {Inv : Database → Prop}

theorem keeps_seedCall {context : String} {call : RepoCall Unit}
    (h : KeptBy Inv call) : (seedCall context call).Keeps Inv :=
  Op.keeps_access h

theorem keeps_seedZones
    (hzone : ∀ record, KeptBy Inv (Zones.createZone record))
    (hserver : ∀ record, KeptBy Inv (Zones.createZoneServer record)) :
    (seedZones draw config).Keeps Inv :=
  Op.keeps_each (fun _ _ => Op.keeps_bind (keeps_seedCall (hzone _)) fun _ =>
    Op.keeps_each (fun _ _ => keeps_seedCall (hserver _)) _ _) _ _

theorem keeps_seedZoneDiscovery
    (hcreate : ∀ newUuid record, KeptBy Inv (ZoneDiscovery.create newUuid record)) :
    (seedZoneDiscovery draw config).Keeps Inv :=
  Op.keeps_each (fun _ _ => keeps_seedCall (hcreate _ _)) _ _

end Keeps

/-- The lists and the servers are those of the database given. -/
def SameListsAndServers (db db' : Database) : Prop :=
  db'.filterLists = db.filterLists ∧ db'.upstreamServers = db.upstreamServers

theorem sameListsAndServers_createZone (db₀ : Database) (record : ZoneRecord) (db : Database)
    (h : SameListsAndServers db₀ db) :
    SameListsAndServers db₀ (Zones.createZone record db).2 := by
  refine statement_invariant h fun db' hdb' => ?_
  obtain ⟨rows, -, rfl⟩ := Option.map_eq_some_iff.1 hdb'
  exact h

theorem sameListsAndServers_createZoneServer (db₀ : Database) (record : ZoneServerRecord)
    (db : Database) (h : SameListsAndServers db₀ db) :
    SameListsAndServers db₀ (Zones.createZoneServer record db).2 := by
  refine statement_invariant h fun db' hdb' => ?_
  split at hdb'
  · obtain ⟨rows, -, rfl⟩ := Option.map_eq_some_iff.1 hdb'
    exact h
  · exact absurd hdb' (by simp)

theorem sameListsAndServers_createDiscovery (db₀ : Database) (newUuid : Nat → String)
    (record : ZoneDiscoveryRecord) (db : Database) (h : SameListsAndServers db₀ db) :
    SameListsAndServers db₀ (ZoneDiscovery.create newUuid record db).2 := by
  unfold ZoneDiscovery.create
  cases insertRow (fun a b => a.id = b.id) record.toZoneDiscoveryRow db.zoneDiscovery with
  | none => exact h
  | some rows => exact h

/-- The database after a successful import; nothing of the one before is left. -/
def seededDatabase (draw : SeedDraw → String) (config : DnsFilterConfig)
    (record : ResolverConfigRecord) : Database where
  filterLists := seededFilterLists draw config
  filteringConfig := seedFilteringRecord config
  resolverConfig := record.toRow
  bootstrapResolvers := bootstrapRows (fun i => draw (.bootstrap i)) record.bootstrapResolvers
  upstreamServers := config.resolvers.servers.mapIdx (seedUpstreamServer draw)
  zones := config.resolvers.zones.mapIdx fun i zone => (seedZone draw i zone).toZoneRow
  zoneServers := seededZoneServers draw 0 config.resolvers.zones
  zoneDiscovery :=
    config.resolvers.zoneDiscovery.mapIdx fun i entry => (seedDiscovery draw i entry).toZoneDiscoveryRow
  allowedTypes := seededAllowedTypes draw 0 config.resolvers.zoneDiscovery

/-- The last two groups. -/
theorem run_seedZones_discovery (hinj : Function.Injective draw) (hvalid : db.Valid)
    (hzones : db.zones = []) (hservers : db.zoneServers = []) (hentries : db.zoneDiscovery = [])
    (htypes : db.allowedTypes = []) :
    ∃ result db', (seedZones draw config >>= fun _ => seedZoneDiscovery draw config).run db =
        (result, db') ∧
      (result = .ok () ↔ (config.resolvers.zones.map (·.zone)).Nodup ∧
        ∀ entry ∈ config.resolvers.zoneDiscovery, entry.allowedTypes.Nodup) ∧
      (result = .ok () → db' = { db with
        zones := config.resolvers.zones.mapIdx fun i zone => (seedZone draw i zone).toZoneRow
        zoneServers := seededZoneServers draw 0 config.resolvers.zones
        zoneDiscovery := config.resolvers.zoneDiscovery.mapIdx fun i entry =>
          (seedDiscovery draw i entry).toZoneDiscoveryRow
        allowedTypes := seededAllowedTypes draw 0 config.resolvers.zoneDiscovery }) ∧
      SameListsAndServers db db' := by
  obtain ⟨zones, db₁, hrun₁, hzonesOk, hdb₁⟩ := @run_seedZones draw db hinj 0
    config.resolvers.zones (by simp [hzones]) (by simp [hzones]) (by simp [hservers])
  have hrun₁ : (seedZones draw config).run db = (zones, db₁) := hrun₁
  rw [hzones, List.map_nil, List.nil_append] at hzonesOk
  have hkeepsZones : (seedZones draw config).Keeps (SameListsAndServers db) :=
    keeps_seedZones (sameListsAndServers_createZone db) (sameListsAndServers_createZoneServer db)
  have hsame := Op.keeps_run hkeepsZones ⟨rfl, rfl⟩
  have hkeepsValid : (seedZones draw config).Keeps Database.Valid :=
    keeps_seedZones (fun record _ h => h.createZone record)
      fun record _ h => h.createZoneServer record
  have hvalid₁ := Op.keeps_run hkeepsValid hvalid
  rw [hrun₁] at hsame hvalid₁
  cases hcase : zones with
  | error e =>
      rw [hcase] at hrun₁ hzonesOk
      refine ⟨.error e, db₁, Op.run_bind_error hrun₁ _, ?_, by simp, hsame⟩
      rw [← hzonesOk]
      simp
  | ok _ =>
      have hdb₁ := hdb₁ hcase
      obtain ⟨result, db', hrun, hresult, hdb'⟩ := @run_seedZoneDiscovery draw db₁ hinj hvalid₁ 0
        config.resolvers.zoneDiscovery (by simp [hdb₁, hentries]) (by simp [hdb₁, htypes])
      have hrun : (seedZoneDiscovery draw config).run db₁ = (result, db') := hrun
      have hkeeps : (seedZoneDiscovery draw config).Keeps (SameListsAndServers db) :=
        keeps_seedZoneDiscovery (sameListsAndServers_createDiscovery db)
      have hsame' := Op.keeps_run hkeeps hsame
      rw [hrun] at hsame'
      refine ⟨result, db', ?_, ?_, fun hok => ?_, hsame'⟩
      · rw [Op.run_bind_ok (hcase ▸ hrun₁), hrun]
      · rw [hresult, and_iff_right (hzonesOk.1 hcase)]
      · rw [hdb' hok, hdb₁]
        simp [hzones, hservers, hentries, htypes]

/-- Of an import that fails, nothing is left that counts as seeded. -/
def LeavesUnseeded (config : DnsFilterConfig) : Prop :=
  config.lists = [] ∧ (¬ ResolverImportable config ∨ config.resolvers.servers = [])

theorem seededFilterLists_eq_nil : seededFilterLists draw config = [] ↔ config.lists = [] := by
  simp [seededFilterLists, DnsFilterConfig.lists]

theorem keepsValid_seedFilterLists : (seedFilterLists draw config).Keeps Database.Valid :=
  Op.keeps_bind (Op.keeps_each (fun _ _ => keeps_seedCall fun _ h => h.createFilterList _) _ _)
    fun _ => Op.keeps_each (fun _ _ => keeps_seedCall fun _ h => h.createFilterList _) _ _

theorem keepsValid_seedResolverConfig : (seedResolverConfig draw config).Keeps Database.Valid :=
  Op.keeps_bind (Op.keeps_ofExcept _) fun _ => keeps_seedCall fun _ h => h.updateResolverConfig _ _

theorem keepsValid_seedUpstreamServers : (seedUpstreamServers draw config).Keeps Database.Valid :=
  Op.keeps_each (fun _ _ => keeps_seedCall fun _ h => h.createServer _) _ _

theorem keepsValid_seedAll : (seedAll draw config).Keeps Database.Valid :=
  Op.keeps_bind keepsValid_seedFilterLists fun _ =>
  Op.keeps_bind (keeps_seedCall fun _ h => { h with }) fun _ =>
  Op.keeps_bind keepsValid_seedResolverConfig fun _ =>
  Op.keeps_bind keepsValid_seedUpstreamServers fun _ =>
  Op.keeps_bind (keeps_seedZones (fun record _ h => h.createZone record)
    fun record _ h => h.createZoneServer record) fun _ =>
  keeps_seedZoneDiscovery fun newUuid record _ h => h.createDiscovery newUuid record

/-- The groups from the resolver section on. -/
theorem run_seedResolver_rest (hinj : Function.Injective draw) (hvalid : db.Valid)
    (hservers : db.upstreamServers = []) (hzones : db.zones = [])
    (hzoneServers : db.zoneServers = []) (hentries : db.zoneDiscovery = [])
    (htypes : db.allowedTypes = []) :
    ∃ result db', (seedResolverConfig draw config >>= fun _ =>
        seedUpstreamServers draw config >>= fun _ => seedZones draw config >>= fun _ =>
          seedZoneDiscovery draw config).run db = (result, db') ∧
      (result = .ok () ↔ ResolverImportable config ∧
        (config.resolvers.zones.map (·.zone)).Nodup ∧
          ∀ entry ∈ config.resolvers.zoneDiscovery, entry.allowedTypes.Nodup) ∧
      (result = .ok () → ∃ record, seedResolverRecord config = .ok record ∧
        db' = { seededDatabase draw config record with
          filterLists := db.filterLists
          filteringConfig := db.filteringConfig }) ∧
      db'.filterLists = db.filterLists ∧
      (result ≠ .ok () → (db'.upstreamServers = [] ↔
        ¬ ResolverImportable config ∨ config.resolvers.servers = [])) := by
  cases hrecord : seedResolverRecord config with
  | error e =>
      have hnot : ¬ ResolverImportable config := by
        rw [resolverImportable_iff, hrecord]
        simp
      exact ⟨.error e, db, Op.run_bind_error (run_seedResolverConfig_error hrecord) _,
        by simp [hnot], by simp, rfl, fun _ => iff_of_true hservers (Or.inl hnot)⟩
  | ok record =>
      obtain ⟨minTtl, maxTtl, -, -, hbootstrap⟩ := seedResolverRecord_eq_ok.1 hrecord
      obtain ⟨written, hwrite, hwritten⟩ :=
        @run_seedResolverConfig draw config db hinj record hrecord
      have himportable : ResolverImportable config ↔ record.bootstrapResolvers.Nodup := by
        rw [resolverImportable_iff, hrecord, hbootstrap]
        simp
      cases hcase : written with
      | error e =>
          rw [hcase] at hwrite hwritten
          have hnot : ¬ ResolverImportable config := by
            rw [himportable, ← hwritten]
            simp
          exact ⟨.error e, _, Op.run_bind_error hwrite _, by simp [hnot], by simp, rfl,
            fun _ => iff_of_true hservers (Or.inl hnot)⟩
      | ok _ =>
          have hnodup := hwritten.1 hcase
          have hresolver := himportable.2 hnodup
          rw [hcase, takeNew_eq_self.2 hnodup] at hwrite
          have hvalid₁ := Op.keeps_run (@keepsValid_seedResolverConfig draw config) hvalid
          rw [hwrite] at hvalid₁
          have hinsert := @run_seedUpstreamServers draw config { db with
            resolverConfig := record.toRow
            bootstrapResolvers := bootstrapRows (fun i => draw (.bootstrap i))
              record.bootstrapResolvers } hinj hservers
          have hvalid₂ := Op.keeps_run (@keepsValid_seedUpstreamServers draw config) hvalid₁
          rw [hinsert] at hvalid₂
          obtain ⟨result, db', hrun, hresult, hdb', hlists, hserversKept⟩ :=
            @run_seedZones_discovery draw config _ hinj hvalid₂ hzones hzoneServers hentries htypes
          refine ⟨result, db', ?_, ?_, fun hok => ⟨record, rfl, ?_⟩, hlists, fun _ => ?_⟩
          · rw [Op.run_bind_ok hwrite, Op.run_bind_ok hinsert, hrun]
          · rw [hresult, and_iff_right hresolver]
          · rw [hdb' hok]
            rfl
          · rw [hserversKept, List.mapIdx_eq_nil_iff, or_iff_right (not_not.2 hresolver)]

/-- **The import.** -/
theorem run_seedAll (hinj : Function.Injective draw) (hvalid : db.Valid) (hempty : db.Unseeded) :
    ∃ result db', (seedAll draw config).run db = (result, db') ∧
      (result = .ok () ↔ Importable config) ∧
      (result = .ok () → ∃ record, seedResolverRecord config = .ok record ∧
        db' = seededDatabase draw config record) ∧
      (result ≠ .ok () →
        (db'.filterLists = [] ∧ db'.upstreamServers = [] ↔ LeavesUnseeded config)) := by
  obtain ⟨lists, rows, hlists, hlistsOk, hrows, hrowsNe⟩ :=
    @run_seedFilterLists draw config db hinj hempty.filterLists
  cases hcase : lists with
  | error e =>
      rw [hcase] at hlists hlistsOk
      have hrepeat : ¬ (config.lists.map (·.name)).Nodup := fun h => absurd (hlistsOk.2 h) (by simp)
      have hne : config.lists ≠ [] := fun hnil => hrepeat (by rw [hnil]; exact List.nodup_nil)
      refine ⟨.error e, _, Op.run_bind_error hlists _, ?_, by simp, fun _ => ?_⟩
      · simp only [reduceCtorEq, false_iff]
        exact fun h => hrepeat h.lists
      · exact iff_of_false (fun h => hrowsNe hne h.1) fun h => hne h.1
  | ok _ =>
      rw [hrows hcase] at hlists
      have hnames := hlistsOk.1 hcase
      have hrun : (seedAll draw config).run db = (seedResolverConfig draw config >>= fun _ =>
          seedUpstreamServers draw config >>= fun _ => seedZones draw config >>= fun _ =>
            seedZoneDiscovery draw config).run { db with
              filterLists := seededFilterLists draw config
              filteringConfig := seedFilteringRecord config } := by
        rw [seedAll, Op.run_bind_ok (hcase ▸ hlists), Op.run_bind_ok run_seedFilteringConfig]
      have hvalid₁ := Op.keeps_run (@keepsValid_seedFilterLists draw config) hvalid
      rw [hlists] at hvalid₁
      obtain ⟨result, db', hrest, hresult, hdb', hkept, hleft⟩ :=
        @run_seedResolver_rest draw config { db with
          filterLists := seededFilterLists draw config
          filteringConfig := seedFilteringRecord config } hinj { hvalid₁ with }
          hempty.upstreamServers hempty.zones hempty.zoneServers hempty.zoneDiscovery
          hempty.allowedTypes
      refine ⟨result, db', hrun.trans hrest, ?_, fun hok => ?_, fun hfail => ?_⟩
      · rw [hresult]
        exact ⟨fun h => ⟨hnames, h.1, h.2.1, h.2.2⟩, fun h => ⟨h.resolver, h.zones, h.allowedTypes⟩⟩
      · obtain ⟨record, hrecord, rfl⟩ := hdb' hok
        exact ⟨record, hrecord, rfl⟩
      · rw [hkept, hleft hfail]
        exact and_congr_left fun _ => seededFilterLists_eq_nil

/-! ## Restarts -/

theorem run_seedIfEmpty_seeded (h : db.filterLists ≠ [] ∨ db.upstreamServers ≠ []) :
    (seedIfEmpty draw config).run db = (.ok false, db) := by
  have hcount : 0 < FilterLists.count db ∨ 0 < (UpstreamConfig.getAllServers db).length := by
    rw [FilterLists.count, UpstreamConfig.getAllServers, orderBySortOrder,
      List.length_insertionSort]
    exact h.imp List.length_pos_iff.2 List.length_pos_iff.2
  rw [seedIfEmpty, Op.run_read_bind, Op.run_read_bind, if_pos hcount]
  rfl

theorem run_seedIfEmpty_unseeded (hlists : db.filterLists = [])
    (hservers : db.upstreamServers = []) :
    (seedIfEmpty draw config).run db =
      (((seedAll draw config).run db).1.map fun _ => true, ((seedAll draw config).run db).2) := by
  have hcount : ¬ (0 < FilterLists.count db ∨ 0 < (UpstreamConfig.getAllServers db).length) := by
    simp [FilterLists.count, UpstreamConfig.getAllServers, orderBySortOrder, hlists, hservers]
  rw [seedIfEmpty, Op.run_read_bind, Op.run_read_bind, if_neg hcount, Op.run_bind]
  rcases (seedAll draw config).run db with ⟨e | _, db'⟩ <;> rfl

theorem seedIfEmpty_eq_false_iff :
    ((seedIfEmpty draw config).run db).1 = .ok false ↔
      db.filterLists ≠ [] ∨ db.upstreamServers ≠ [] := by
  constructor
  · intro h
    by_contra hempty
    rw [not_or, not_not, not_not] at hempty
    rw [run_seedIfEmpty_unseeded hempty.1 hempty.2] at h
    cases hall : ((seedAll draw config).run db).1 with
    | error e => exact absurd (hall ▸ h) (by simp [Except.map])
    | ok _ => exact absurd (hall ▸ h) (by simp [Except.map])
  · intro h
    rw [run_seedIfEmpty_seeded h]

/-- If the import fails, no later call on the database it leaves takes that for a seeded one. -/
def RetriedAfterFailure (draw : SeedDraw → String) (config : DnsFilterConfig) (db : Database) :
    Prop :=
  ∀ e db', (seedIfEmpty draw config).run db = (.error e, db') →
    ∀ draw' config', ((seedIfEmpty draw' config').run db').1 ≠ .ok false

/-- **When a failed import is noticed.** Either the import does not fail, or the configuration has
no filter lists and, if it gets past the resolver section, no upstream servers. -/
theorem failed_seed_is_retried_iff (hinj : Function.Injective draw) (hvalid : db.Valid)
    (hempty : db.Unseeded) :
    RetriedAfterFailure draw config db ↔ Importable config ∨ LeavesUnseeded config := by
  obtain ⟨result, db', hrun, hresult, -, hleft⟩ := @run_seedAll draw config db hinj hvalid hempty
  have hseed := @run_seedIfEmpty_unseeded draw config db hempty.filterLists hempty.upstreamServers
  rw [hrun] at hseed
  cases hcase : result with
  | ok _ =>
      refine iff_of_true ?_ (Or.inl (hresult.1 hcase))
      intro e db₁ hfail
      rw [hseed, hcase] at hfail
      exact absurd (congrArg Prod.fst hfail) (by simp [Except.map])
  | error e =>
      rw [hcase] at hseed hresult hleft
      have hnot : ¬ Importable config := by
        rw [← hresult]
        simp
      rw [or_iff_right hnot, ← hleft (by simp)]
      constructor
      · intro h
        have hlater := h e db' hseed draw config
        rw [Ne, seedIfEmpty_eq_false_iff, not_or, not_not, not_not] at hlater
        exact hlater
      · intro h e₁ db₁ hfail draw' config'
        obtain rfl : db' = db₁ := congrArg Prod.snd (hseed.symm.trans hfail)
        rw [Ne, seedIfEmpty_eq_false_iff, not_or, not_not, not_not]
        exact h

/-- What a successful call did. -/
theorem seedIfEmpty_eq_ok_true (hinj : Function.Injective draw) (hvalid : db.Valid)
    (hempty : db.Unseeded) {db' : Database}
    (h : (seedIfEmpty draw config).run db = (.ok true, db')) :
    Importable config ∧ db'.Valid ∧
      ∃ record, seedResolverRecord config = .ok record ∧
        db' = seededDatabase draw config record := by
  obtain ⟨result, db₁, hrun, hresult, hdb₁, -⟩ := @run_seedAll draw config db hinj hvalid hempty
  have hvalid₁ := Op.keeps_run (@keepsValid_seedAll draw config) hvalid
  rw [run_seedIfEmpty_unseeded hempty.filterLists hempty.upstreamServers] at h
  rw [hrun] at h hvalid₁
  obtain ⟨hok, rfl⟩ := Prod.mk.inj h
  have hok : result = .ok () := by
    cases hcase : result with
    | error e => exact absurd (hcase ▸ hok) (by simp [Except.map])
    | ok _ => rfl
  exact ⟨hresult.1 hok, hvalid₁, hdb₁ hok⟩

/-! A configuration with a repeated zone name. -/

/-- Numbers as identifiers, different for each place. -/
def numberedDraw : SeedDraw → String
  | .filterList i => numberedUuid (7 * i)
  | .bootstrap i => numberedUuid (7 * i + 1)
  | .server i => numberedUuid (7 * i + 2)
  | .zone i => numberedUuid (7 * i + 3)
  | .zoneServer zone i => numberedUuid (7 * Nat.pair zone i + 4)
  | .discovery i => numberedUuid (7 * i + 5)
  | .allowedType discovery i => numberedUuid (7 * Nat.pair discovery i + 6)

theorem numberedDraw_injective : Function.Injective numberedDraw := by
  intro a b h
  cases a <;> cases b <;> have h := numberedUuid_injective h
  all_goals
    first
      | (exact congrArg _ (by omega))
      | (exfalso; omega)
      | (have hpair := Nat.eq_of_mul_eq_mul_left (by decide) (Nat.add_right_cancel h)
         obtain ⟨rfl, rfl⟩ := Nat.pair_eq_pair.1 hpair
         rfl)

theorem unseeded_empty : ({} : Database).Unseeded := ⟨rfl, rfl, rfl, rfl, rfl, rfl⟩

/-- One blocklist, and the zone "lan" twice. -/
def repeatedZone : DnsFilterConfig :=
  { minimalConfig with
    blocklists := [{ name := "ads", url := "https://lists.example/ads.txt" }]
    resolvers := { minimalConfig.resolvers with
      zones := [{ zone := "lan" }, { zone := "lan", bypassFilter := true }] } }

theorem failed_seed_is_retried_iff_repeatedZone :
    Function.Injective numberedDraw ∧ ({} : Database).Valid ∧ ({} : Database).Unseeded ∧
      (RetriedAfterFailure numberedDraw repeatedZone {} ↔
        Importable repeatedZone ∨ LeavesUnseeded repeatedZone) :=
  ⟨numberedDraw_injective, valid_empty, unseeded_empty,
    failed_seed_is_retried_iff numberedDraw_injective valid_empty unseeded_empty⟩

/-- The import stops at the second zone, and the next start takes the database for seeded. -/
theorem repeatedZone_taken_for_seeded :
    let first := (seedIfEmpty numberedDraw repeatedZone).run {}
    let second := (seedIfEmpty numberedDraw repeatedZone).run first.2
    ({} : Database).Valid ∧ ({} : Database).Unseeded ∧
      first.1 = .error "seeding zone 'lan'" ∧ second.1 = .ok false ∧
      second.2.zones.map (·.zone) = ["lan"] ∧
      ¬ RetriedAfterFailure numberedDraw repeatedZone {} := by
  intro first second
  have hfirst : first.1 = .error "seeding zone 'lan'" := by decide +kernel
  have hsecond : second.1 = .ok false := by decide +kernel
  refine ⟨valid_empty, unseeded_empty, hfirst, hsecond, by decide +kernel, fun h => ?_⟩
  exact h _ _ (Prod.ext hfirst rfl) numberedDraw repeatedZone hsecond

end DnsFilter
