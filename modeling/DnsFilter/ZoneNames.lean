import DnsFilter.Lib.Run
import DnsFilter.ZoneProof

/-!
# The names of the stored zones

`add_zone` refuses a zone whose name is stored already, compared as a text. Queries are routed by
the name that `normalize_zone` makes of it. So a zone can be stored twice under two spellings.

* `zones_afterAdd`, `zoneNames_afterUpdate`, `zones_afterDelete` — what a call does to the zones,
  whatever it returns.
* `nodup_zoneEntries` — zones with distinct normalised names give entries with distinct names.
* **`distinctZones_iff`** — along a run of calls no two zones have the same normalised name exactly
  if no zone is added under another spelling of a stored one.
-/

namespace DnsFilter

open Table

/-- A call that adds, updates or deletes a zone. -/
inductive ZoneCall
  | add (zoneId : String) (newUuid : Nat → String) (input : CreateZoneInput)
  | update (newUuid : Nat → String) (zoneName : String) (input : UpdateZoneInput)
  | delete (zoneName : String)

/-- The database after a call, whether it returns `Ok` or an error. -/
def ZoneCall.after (db : Database) : ZoneCall → Database
  | add zoneId newUuid input => ((addZone zoneId newUuid input).run db).2
  | update newUuid zoneName input => ((updateZone newUuid zoneName input).run db).2
  | delete zoneName => ((deleteZone zoneName).run db).2

/-- Any call can be made in any state. -/
def ZoneCall.step (db : Database) (call : ZoneCall) : Option Database := some (call.after db)

/-- No two zones have the same normalised name. -/
def DistinctZones (db : Database) : Prop := Keyed (fun row => normalizeZone row.zone) db.zones

instance (db : Database) : Decidable (DistinctZones db) :=
  inferInstanceAs (Decidable (db.zones.map _).Nodup)

/-- If a zone is added, no stored zone is another spelling of it. -/
def ZoneCall.NewSpelling (db : Database) : ZoneCall → Prop
  | add zoneId _ input =>
      Succeeds (validateZoneName input.zone) → (∀ row ∈ db.zones, row.id ≠ zoneId) →
        ∀ row ∈ db.zones, normalizeZone row.zone = normalizeZone input.zone →
          row.zone = input.zone
  | update _ _ _ => True
  | delete _ => True

instance (db : Database) : ∀ call : ZoneCall, Decidable (call.NewSpelling db)
  | .add _ _ _ => inferInstanceAs (Decidable (_ → _))
  | .update _ _ _ => inferInstanceAs (Decidable True)
  | .delete _ => inferInstanceAs (Decidable True)

/-! ## The zones after a call -/

section Calls

variable {db : Database}

theorem ZoneCall.after_valid (hvalid : db.Valid) (call : ZoneCall) : (call.after db).Valid := by
  cases call with
  | add zoneId newUuid input =>
      exact Op.keeps_run (addZone_keeps zoneId newUuid input
        (fun record _ h => h.createZone record) fun record _ h => h.createZoneServer record) hvalid
  | update newUuid zoneName input =>
      exact Op.keeps_run (updateZone_keeps newUuid zoneName input
        (fun record _ h => h.updateZone record) (fun id _ h => h.deleteZoneServers id)
        fun record _ h => h.createZoneServer record) hvalid
  | delete zoneName =>
      exact Op.keeps_run
        (standard_deleteZone zoneName fun id _ h => h.deleteZone id).keeps hvalid

/-- The loop over the servers does not touch the zones. -/
theorem zones_run_createZoneServers (newUuid : Nat → String) (zoneId : String) (i : Nat)
    (servers : List CreateZoneServerInput) (db : Database) :
    ((createZoneServers newUuid zoneId i servers).run db).2.zones = db.zones := by
  have hkept : ∀ record, KeptBy (fun db' => db'.zones = db.zones)
      (Zones.createZoneServer record) := by
    intro record
    apply keptBy_statement
    intro db₁ db₂ h hinsert
    split at hinsert
    · obtain ⟨rows, _, rfl⟩ := Option.map_eq_some_iff.1 hinsert
      exact h
    · exact absurd hinsert (by simp)
  exact Op.keeps_run (createZoneServers_keeps hkept i servers) rfl

/-- `add_zone` stores the zone if its name is valid and neither its name nor its identifier is
stored. -/
theorem zones_afterAdd (zoneId : String) (newUuid : Nat → String) (input : CreateZoneInput) :
    (ZoneCall.after db (.add zoneId newUuid input)).zones =
      if Succeeds (validateZoneName input.zone) ∧
          (∀ row ∈ db.zones, row.id ≠ zoneId) ∧ ∀ row ∈ db.zones, row.zone ≠ input.zone
      then db.zones ++ [(newZone zoneId input).toZoneRow] else db.zones := by
  rw [ZoneCall.after]
  cases hname : validateZoneName input.zone with
  | error e => simp [addZone, Op.run_bind, hname]
  | ok _ =>
      cases hget : Zones.getByZone input.zone db with
      | some record =>
          obtain ⟨hrow, hzone, _⟩ := getByZone_eq_some hget
          have hstored : ¬ ∀ row ∈ db.zones, row.zone ≠ input.zone :=
            fun h => h _ hrow hzone
          rw [if_neg fun h => hstored h.2.2]
          simp [addZone, Op.run_bind, hname, hget, require]
      | none =>
          have hnames := getByZone_eq_none.1 hget
          by_cases hids : ∀ row ∈ db.zones, row.id ≠ zoneId
          · have hcreate : Zones.createZone (newZone zoneId input) db = _ :=
              createZone_eq_ok.2 ⟨fun row hrow => ⟨hids row hrow, hnames row hrow⟩, rfl⟩
            rw [run_addZone hname hget hcreate, if_pos ⟨succeeds_ok _, hids, hnames⟩]
            exact zones_run_createZoneServers newUuid zoneId 0 _ _
          · have hconflict : insertRow (fun a b : ZoneRow => a.id = b.id || a.zone = b.zone)
                (newZone zoneId input).toZoneRow db.zones = none := by
              push Not at hids
              obtain ⟨row, hrow, hid⟩ := hids
              rw [insertRow, if_pos]
              exact List.any_eq_true.2 ⟨row, hrow, by simp [newZone, hid]⟩
            rw [if_neg fun h => hids h.2.1]
            simp [addZone, Op.run_bind, hname, hget, require, Zones.createZone, statement,
              hconflict, Except.mapError]

theorem map_zone_updateRows {rows : List ZoneRow} {old new : ZoneRow} (hkeyed : Keyed (·.id) rows)
    (hold : old ∈ rows) (hid : new.id = old.id) (hzone : new.zone = old.zone) :
    (updateRows (·.id) new rows).map (·.zone) = rows.map (·.zone) := by
  rw [updateRows, List.map_map]
  apply List.map_congr_left
  intro row hrow
  by_cases hsame : row.id = new.id
  · rw [hkeyed.eq_of_key hrow hold (hsame.trans hid)]
    simp [hid, hzone]
  · simp [hsame]

/-- `update_zone` keeps the names. -/
theorem zoneNames_afterUpdate (hvalid : db.Valid) (newUuid : Nat → String) (zoneName : String)
    (input : UpdateZoneInput) :
    (ZoneCall.after db (.update newUuid zoneName input)).zones.map (·.zone) =
      db.zones.map (·.zone) := by
  rw [ZoneCall.after]
  cases hget : Zones.getByZone zoneName db with
  | none => simp [updateZone, Op.run_bind, hget]
  | some record =>
      obtain ⟨hrow, -, -⟩ := getByZone_eq_some hget
      have hupdate : Zones.updateZone (editZone input record) db = _ :=
        updateZone_of_mem hvalid hrow rfl rfl
      have hnames : (updateRows (·.id) (editZone input record).toZoneRow db.zones).map (·.zone) =
          db.zones.map (·.zone) := map_zone_updateRows hvalid.zoneId hrow rfl rfl
      cases hservers : input.servers with
      | none =>
          simp [updateZone, Op.run_bind, hget, hupdate, hservers, Except.mapError, finish, hnames]
      | some servers =>
          rw [run_updateZone hget hservers hupdate, zones_run_createZoneServers]
          exact hnames

/-- `delete_zone` deletes zones only. -/
theorem zones_afterDelete (zoneName : String) :
    (ZoneCall.after db (.delete zoneName)).zones.Sublist db.zones := by
  rw [ZoneCall.after]
  cases hget : Zones.getByZone zoneName db with
  | none => simp [deleteZone, Op.run_bind, hget]
  | some record =>
      simp [deleteZone, Op.run_bind, hget, Zones.deleteZone, statement, Except.mapError, finish,
        deleteRows]

/-- One call keeps the normalised names distinct exactly if it adds no other spelling. -/
theorem distinctZones_after_iff (hvalid : db.Valid) (hdistinct : DistinctZones db)
    (call : ZoneCall) : DistinctZones (call.after db) ↔ call.NewSpelling db := by
  cases call with
  | add zoneId newUuid input =>
      rw [DistinctZones, zones_afterAdd, ZoneCall.NewSpelling]
      split
      · rename_i hadded
        obtain ⟨hname, hids, hnames⟩ := hadded
        have happend : Keyed (fun row : ZoneRow => normalizeZone row.zone)
            (db.zones ++ [(newZone zoneId input).toZoneRow]) ↔
              ∀ row ∈ db.zones, normalizeZone row.zone ≠ normalizeZone input.zone := by
          constructor
          · intro h row hrow heq
            rw [Keyed, List.map_append, List.nodup_append] at h
            exact h.2.2 _ (List.mem_map_of_mem hrow) _ (List.mem_singleton_self _) heq
          · intro h
            exact Keyed.append hdistinct h
        rw [happend]
        constructor
        · intro h _ _ row hrow heq
          exact absurd heq (h row hrow)
        · intro h row hrow heq
          exact hnames row hrow (h hname hids row hrow heq)
      · rename_i hrefused
        refine iff_of_true hdistinct ?_
        intro hname hids row hrow heq
        by_contra hne
        apply hrefused
        refine ⟨hname, hids, ?_⟩
        intro other hother hsame
        -- the stored zone of this name has the same normalised name as `row`
        have hrows : other = row :=
          Keyed.eq_of_key hdistinct hother hrow (by rw [hsame, heq])
        exact hne (hrows ▸ hsame)
  | update newUuid zoneName input =>
      refine iff_of_true ?_ trivial
      have hnames := congrArg (List.map normalizeZone)
        (zoneNames_afterUpdate hvalid newUuid zoneName input)
      rw [List.map_map, List.map_map] at hnames
      exact (congrArg List.Nodup hnames).mpr hdistinct
  | delete zoneName =>
      refine iff_of_true ?_ trivial
      exact List.Nodup.sublist ((zones_afterDelete zoneName).map _) hdistinct

end Calls

/-! ## The entries of the zones -/

section Entries

variable {lib : Libraries} {loaders : ZoneLoaders}

theorem zone_of_zoneEntry {ρ : Type} {zone : String} {bypassFilter fallback : Bool} {resolver : ρ}
    {entry : ZoneEntry ρ} (h : ZoneEntry.new zone bypassFilter fallback resolver = .ok entry) :
    normalizeZone zone = some entry.zone := by
  unfold ZoneEntry.new at h
  split at h
  · rename_i name hname
    obtain rfl := Except.ok.inj h
    exact hname
  · exact absurd h (by simp)

/-- An entry has the normalised name of its zone. -/
theorem zone_of_buildZoneEntry {bootstrap : List String} {settings : ResolverCacheSettings}
    {zone : ResolverZoneConfig} {entry : ZoneEntry ZoneResolver}
    (h : buildZoneEntry lib loaders bootstrap settings zone = .ok entry) :
    normalizeZone zone.zone = some entry.zone := by
  unfold buildZoneEntry at h
  dsimp only at h
  split at h
  · exact absurd h (by simp)
  · split at h
    · obtain ⟨_, _, h⟩ := bind_eq_ok.1 h
      exact zone_of_zoneEntry h
    · exact absurd h (by simp)
    · obtain ⟨_, _, h⟩ := bind_eq_ok.1 h
      exact zone_of_zoneEntry h
    · exact absurd h (by simp)

theorem map_zone_of_mapM {bootstrap : List String} {settings : ResolverCacheSettings}
    {zones : List ResolverZoneConfig} {entries : List (ZoneEntry ZoneResolver)}
    (h : zones.mapM (buildZoneEntry lib loaders bootstrap settings) = .ok entries) :
    zones.map (fun zone => normalizeZone zone.zone) = entries.map fun entry => some entry.zone := by
  have hall := mapM_eq_ok.1 h
  clear h
  induction hall with
  | nil => rfl
  | cons hentry _ ih => rw [List.map_cons, List.map_cons, zone_of_buildZoneEntry hentry, ih]

/-- The configured zones are the stored ones. -/
theorem map_zone_getAllWithServers (db : Database) :
    ((Zones.getAllWithServers db).map (·.toConfig.zone)).Perm (db.zones.map (·.zone)) := by
  have hjoin : (Zones.getAllWithServers db).map (·.toConfig.zone) = _ :=
    map_attach (by intros; rfl) _ _
  rw [hjoin, List.map_map]
  exact (List.perm_insertionSort (fun a b : ZoneRow => a.zone ≤ b.zone) db.zones).map (·.zone)

/-- The entries that `build_zone_entries` makes of the stored zones have distinct names, if the
zones have distinct normalised names. -/
theorem nodup_zoneEntries {db : Database} (hdistinct : DistinctZones db) {bootstrap : List String}
    {settings : ResolverCacheSettings} {entries : List (ZoneEntry ZoneResolver)}
    (h : (((Zones.getAllWithServers db).map (·.toConfig)).filter (·.enabled)).mapM
      (buildZoneEntry lib loaders bootstrap settings) = .ok entries) :
    (entries.map (·.zone)).Nodup := by
  have hstored : ((Zones.getAllWithServers db).map (·.toConfig)).map
      (fun zone => normalizeZone zone.zone) |>.Nodup := by
    have hperm := (map_zone_getAllWithServers db).map normalizeZone
    rw [List.map_map, List.map_map] at hperm
    rw [List.map_map]
    exact hperm.nodup_iff.2 hdistinct
  have hsome : (entries.map fun entry => some entry.zone).Nodup := by
    rw [← map_zone_of_mapM h]
    exact hstored.sublist (List.filter_sublist.map _)
  exact List.Nodup.of_map some (by rwa [List.map_map])

end Entries

/-! ## Runs -/

/-- **Zones keep distinct normalised names exactly as long as none is added under another spelling
of a stored one.** While they do, `build_zone_entries` makes entries with distinct names of
them. -/
theorem distinctZones_iff {db : Database} (hvalid : db.Valid) (hempty : db.zones = [])
    (calls : List ZoneCall) :
    ((∀ pre, pre <+: calls → ∀ db', run ZoneCall.step db pre = some db' → DistinctZones db') ↔
        AllSteps ZoneCall.step (fun db' call => call.NewSpelling db') db calls) ∧
      (AllSteps ZoneCall.step (fun db' call => call.NewSpelling db') db calls →
        ∀ pre, pre <+: calls → ∀ db', run ZoneCall.step db pre = some db' →
          ∀ lib loaders bootstrap settings entries,
            (((Zones.getAllWithServers db').map (·.toConfig)).filter (·.enabled)).mapM
              (buildZoneEntry lib loaders bootstrap settings) = .ok entries →
            (entries.map (·.zone)).Nodup) := by
  have hdistinct : DistinctZones db := by
    rw [DistinctZones, hempty]
    exact List.nodup_nil
  have hstep : ∀ db₁ call db₂, db₁.Valid → DistinctZones db₁ →
      ZoneCall.step db₁ call = some db₂ → (DistinctZones db₂ ↔ call.NewSpelling db₁) := by
    intro db₁ call db₂ hvalid₁ hdistinct₁ h
    obtain rfl := Option.some.inj h
    exact distinctZones_after_iff hvalid₁ hdistinct₁ call
  have hkeeps : ∀ db₁ call db₂, db₁.Valid → ZoneCall.step db₁ call = some db₂ → db₂.Valid := by
    intro db₁ call db₂ hvalid₁ h
    obtain rfl := Option.some.inj h
    exact call.after_valid hvalid₁
  obtain ⟨last, hrun⟩ : ∃ last, run ZoneCall.step db calls = some last := by
    clear hempty hdistinct hstep hkeeps hvalid
    induction calls generalizing db with
    | nil => exact ⟨db, rfl⟩
    | cons call calls ih =>
        obtain ⟨last, hlast⟩ := @ih (call.after db)
        exact ⟨last, run_cons_eq_some.2 ⟨_, rfl, hlast⟩⟩
  have hiff := forall_reached_iff_allSteps hkeeps hstep hrun hvalid hdistinct
  refine ⟨hiff, ?_⟩
  intro hall pre hpre db' hdb' lib loaders bootstrap settings entries hentries
  exact nodup_zoneEntries (hiff.2 hall pre hpre db' hdb') hentries

/-- A call that adds a zone without servers. -/
def addNamed (zoneId zone : String) : ZoneCall :=
  .add zoneId (fun i => zoneId ++ "-" ++ toString i) { zone := zone }

theorem distinctZones_iff_twoZones :
    ({} : Database).Valid ∧
      AllSteps ZoneCall.step (fun db call => call.NewSpelling db) {}
        [addNamed "1" "lan", addNamed "2" "home.arpa"] ∧
      ∀ pre, pre <+: [addNamed "1" "lan", addNamed "2" "home.arpa"] →
        ∀ db, run ZoneCall.step {} pre = some db → DistinctZones db := by
  have hsteps : AllSteps ZoneCall.step (fun db call => call.NewSpelling db) {}
      [addNamed "1" "lan", addNamed "2" "home.arpa"] := by
    decide +kernel
  exact ⟨valid_empty, hsteps, (distinctZones_iff valid_empty rfl _).1.2 hsteps⟩

/-- Two spellings of a zone are stored side by side. -/
theorem two_spellings_stored :
    ∃ db, run ZoneCall.step {} [addNamed "1" "lan", addNamed "2" "LAN."] = some db ∧
      db.zones.map (·.zone) = ["lan", "LAN."] ∧ ¬ DistinctZones db := by
  obtain ⟨db, hrun, hdb⟩ : ∃ db,
      run ZoneCall.step {} [addNamed "1" "lan", addNamed "2" "LAN."] = some db ∧
        decide (db.zones.map (·.zone) = ["lan", "LAN."] ∧ ¬ DistinctZones db) = true :=
    exists_run_of_any (by decide +kernel)
  exact ⟨db, hrun, of_decide_eq_true hdb⟩

end DnsFilter
