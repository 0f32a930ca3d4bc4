import DnsFilter.Lib.Run
import DnsFilter.SeedProof

/-!
# Seeding once

`seed_if_empty` takes a database for a seeded one if it has a filter list or an upstream server. Both
can be deleted through the API, and the next start then imports the YAML file again.

* `seedRows` — the number of rows that `seed_if_empty` looks at; `seedRows_of_seeded` says how many
  an import leaves.
* `keptBy_seedRows`, `seedRows_of_deletes` — a call that deletes neither a list nor a server keeps
  this number from falling; one that does lowers it by one.
* **`seeds_once_iff`** — along a run of API calls the database stays seeded exactly if the import
  left a row and no call deletes the last one.
-/

namespace DnsFilter

open Table

/-- The rows that `seed_if_empty` counts. -/
def seedRows (db : Database) : Nat := db.filterLists.length + db.upstreamServers.length

theorem seedIfEmpty_eq_false_iff_seedRows {draw : SeedDraw → String} {config : DnsFilterConfig}
    {db : Database} : ((seedIfEmpty draw config).run db).1 = .ok false ↔ 0 < seedRows db := by
  rw [seedIfEmpty_eq_false_iff, seedRows, ← List.length_pos_iff, ← List.length_pos_iff]
  omega

/-! ## What an import leaves -/

section Import

variable {draw : SeedDraw → String} {config : DnsFilterConfig} {db db' : Database}

theorem seedRows_of_same (h : SameListsAndServers db db') : seedRows db' = seedRows db := by
  rw [seedRows, seedRows, h.1, h.2]

theorem run_seedCall_eq_ok {context : String} {call : RepoCall Unit}
    (h : (seedCall context call).run db = (.ok (), db')) : call db = (.ok (), db') := by
  rw [seedCall, Op.run_access] at h
  rcases hcall : call db with ⟨e | a, db''⟩
  · rw [hcall] at h
    exact absurd (congrArg Prod.fst h) (by simp [Except.mapError])
  · rw [hcall] at h
    exact Prod.ext rfl (congrArg Prod.snd h)

theorem seedRows_createFilterList {record : FilterListRecord}
    (h : FilterLists.create record db = (.ok (), db')) : seedRows db' = seedRows db + 1 := by
  rw [FilterLists.create, statement_eq_ok] at h
  split at h
  · obtain ⟨rows, hrows, rfl⟩ := Option.map_eq_some_iff.1 h
    obtain ⟨-, rfl⟩ := insertRow_eq_some.1 hrows
    simp only [seedRows, List.length_append, List.length_singleton]
    omega
  · exact absurd h (by simp)

theorem seedRows_createServer {record : UpstreamServerRecord}
    (h : UpstreamConfig.createServer record db = (.ok (), db')) :
    seedRows db' = seedRows db + 1 := by
  rw [UpstreamConfig.createServer, statement_eq_ok] at h
  obtain ⟨rows, hrows, rfl⟩ := Option.map_eq_some_iff.1 h
  obtain ⟨-, rfl⟩ := insertRow_eq_some.1 hrows
  simp only [seedRows, List.length_append, List.length_singleton]
  omega

theorem seedRows_seedFilterLists (h : (seedFilterLists draw config).run db = (.ok (), db')) :
    seedRows db' = seedRows db + config.lists.length := by
  obtain ⟨_, db₁, hblock, hallow⟩ := Op.run_bind_eq_ok.1 h
  have hblock := Op.measure_run_each (fun _ _ _ _ hstep =>
    seedRows_createFilterList (run_seedCall_eq_ok hstep)) hblock
  have hallow := Op.measure_run_each (fun _ _ _ _ hstep =>
    seedRows_createFilterList (run_seedCall_eq_ok hstep)) hallow
  simp only [DnsFilterConfig.lists, List.length_append]
  omega

theorem seedRows_seedUpstreamServers
    (h : (seedUpstreamServers draw config).run db = (.ok (), db')) :
    seedRows db' = seedRows db + config.resolvers.servers.length :=
  Op.measure_run_each (fun _ _ _ _ hstep =>
    seedRows_createServer (run_seedCall_eq_ok hstep)) h

theorem seedRows_of_keeps {op : SeedOp Unit} (hkeeps : op.Keeps (SameListsAndServers db))
    (h : op.run db = (.ok (), db')) : seedRows db' = seedRows db := by
  have hsame := Op.keeps_run hkeeps ⟨rfl, rfl⟩
  rw [h] at hsame
  exact seedRows_of_same hsame

/-- An import adds a row for each list and each server. -/
theorem seedRows_seedAll (h : (seedAll draw config).run db = (.ok (), db')) :
    seedRows db' = seedRows db + config.lists.length + config.resolvers.servers.length := by
  obtain ⟨_, db₁, hlists, h⟩ := Op.run_bind_eq_ok.1 h
  obtain ⟨_, db₂, hfiltering, h⟩ := Op.run_bind_eq_ok.1 h
  obtain ⟨_, db₃, hresolver, h⟩ := Op.run_bind_eq_ok.1 h
  obtain ⟨_, db₄, hservers, h⟩ := Op.run_bind_eq_ok.1 h
  obtain ⟨_, db₅, hzones, hdiscovery⟩ := Op.run_bind_eq_ok.1 h
  have h₂ : seedRows db₂ = seedRows db₁ :=
    seedRows_of_keeps (keeps_seedCall fun _ hsame => hsame) hfiltering
  have h₃ : seedRows db₃ = seedRows db₂ :=
    seedRows_of_keeps (Op.keeps_bind (Op.keeps_ofExcept _) fun _ =>
      keeps_seedCall fun _ hsame => hsame) hresolver
  have h₅ : seedRows db₅ = seedRows db₄ :=
    seedRows_of_keeps (keeps_seedZones (sameListsAndServers_createZone db₄)
      (sameListsAndServers_createZoneServer db₄)) hzones
  have h₆ : seedRows db' = seedRows db₅ :=
    seedRows_of_keeps (keeps_seedZoneDiscovery (sameListsAndServers_createDiscovery db₅))
      hdiscovery
  rw [h₆, h₅, seedRows_seedUpstreamServers hservers, h₃, h₂, seedRows_seedFilterLists hlists]

/-- What `seed_if_empty` did if it returned `Ok(true)`. -/
theorem run_seedAll_of_seeded (h : (seedIfEmpty draw config).run db = (.ok true, db')) :
    seedRows db = 0 ∧ (seedAll draw config).run db = (.ok (), db') := by
  have hempty : seedRows db = 0 := by
    by_contra hne
    have hfalse : ((seedIfEmpty draw config).run db).1 = .ok false :=
      seedIfEmpty_eq_false_iff_seedRows.2 (Nat.pos_of_ne_zero hne)
    rw [h] at hfalse
    exact absurd hfalse (by simp)
  have hlists : db.filterLists = [] :=
    List.length_eq_zero_iff.1 (Nat.eq_zero_of_add_eq_zero hempty).1
  have hservers : db.upstreamServers = [] :=
    List.length_eq_zero_iff.1 (Nat.eq_zero_of_add_eq_zero hempty).2
  rw [run_seedIfEmpty_unseeded hlists hservers] at h
  refine ⟨hempty, ?_⟩
  rcases hall : (seedAll draw config).run db with ⟨e | a, db''⟩
  · rw [hall] at h
    exact absurd (congrArg Prod.fst h) (by simp [Except.map])
  · rw [hall] at h
    obtain rfl : db'' = db' := congrArg Prod.snd h
    rfl

theorem seedRows_of_seeded (h : (seedIfEmpty draw config).run db = (.ok true, db')) :
    seedRows db' = config.lists.length + config.resolvers.servers.length := by
  obtain ⟨hempty, hall⟩ := run_seedAll_of_seeded h
  rw [seedRows_seedAll hall, hempty, Nat.zero_add]

theorem valid_of_seeded (hvalid : db.Valid)
    (h : (seedIfEmpty draw config).run db = (.ok true, db')) : db'.Valid := by
  have hkeeps := Op.keeps_run (@keepsValid_seedAll draw config) hvalid
  rw [(run_seedAll_of_seeded h).2] at hkeeps
  exact hkeeps

end Import

/-! ## What the API does -/

/-- The call deletes a filter list or an upstream server. -/
def Mutation.DeletesSeedRow : Mutation → Bool
  | .deleteFilterList _ => true
  | .deleteUpstreamServer _ => true
  | _ => false

/-- The call does not delete the last row that counts as seeded. -/
def Mutation.KeepsSeeded (db : Database) (m : Mutation) : Prop :=
  m.DeletesSeedRow → 2 ≤ seedRows db

/-- A call that deletes neither a list nor a server never lowers their number. -/
theorem keptBy_seedRows {m : Mutation} {call : RepoCall Unit} (hcall : m.Calls call)
    (hkeep : m.DeletesSeedRow = false) (n : Nat) : KeptBy (fun db => n ≤ seedRows db) call := by
  have hinsert {α : Type} {conflicts : α → α → Bool} {row : α} {rows rows' : List α}
      (h : insertRow conflicts row rows = some rows') : rows.length ≤ rows'.length := by
    obtain ⟨-, rfl⟩ := insertRow_eq_some.1 h
    simp
  cases hcall with
  | createFilterList _ _ _ record =>
      apply keptBy_statement
      intro db db' h hcreate
      split at hcreate
      · obtain ⟨rows, hrows, rfl⟩ := Option.map_eq_some_iff.1 hcreate
        exact h.trans (Nat.add_le_add_right (hinsert hrows) _)
      · exact absurd hcreate (by simp)
  | updateFilterList _ _ record =>
      apply keptBy_statement
      intro db db' h hupdate
      split at hupdate
      · exact absurd hupdate (by simp)
      · obtain rfl := Option.some.inj hupdate
        simpa [seedRows, updateRows] using h
  | deleteFilterList _ _ => exact absurd hkeep (by simp [Mutation.DeletesSeedRow])
  | updateResolverConfig _ _ _ => exact fun db h => h
  | createServer _ _ record =>
      apply keptBy_statement
      intro db db' h hcreate
      obtain ⟨rows, hrows, rfl⟩ := Option.map_eq_some_iff.1 hcreate
      exact h.trans (Nat.add_le_add_left (hinsert hrows) _)
  | updateServer _ _ record =>
      apply keptBy_statement
      intro db db' h hupdate
      obtain rfl := Option.some.inj hupdate
      simpa [seedRows, updateRows] using h
  | deleteServer _ => exact absurd hkeep (by simp [Mutation.DeletesSeedRow])
  | createZone _ _ _ record =>
      intro db h
      rw [seedRows_of_same (sameListsAndServers_createZone db record db ⟨rfl, rfl⟩)]
      exact h
  | createZoneServer _ _ _ record =>
      intro db h
      rw [seedRows_of_same (sameListsAndServers_createZoneServer db record db ⟨rfl, rfl⟩)]
      exact h
  | recreateZoneServer _ _ _ record =>
      intro db h
      rw [seedRows_of_same (sameListsAndServers_createZoneServer db record db ⟨rfl, rfl⟩)]
      exact h
  | updateZone _ _ _ record =>
      apply keptBy_statement
      intro db db' h hupdate
      split at hupdate
      · exact absurd hupdate (by simp)
      · obtain rfl := Option.some.inj hupdate
        exact h
  | deleteZoneServers _ _ _ _ => exact fun db h => h
  | deleteZone _ _ => exact fun db h => h
  | createDiscovery _ newUuid _ record =>
      intro db h
      rw [seedRows_of_same (sameListsAndServers_createDiscovery db newUuid record db ⟨rfl, rfl⟩)]
      exact h
  | updateDiscovery _ _ _ _ => exact fun db h => h
  | deleteDiscovery _ => exact fun db h => h

/-- A call that deletes a list or a server and returns `Ok` lowers their number by one. -/
theorem seedRows_of_deletes {lib : Libraries} {db db' : Database} (hvalid : db.Valid)
    {m : Mutation} (hdelete : m.DeletesSeedRow = true)
    (hstep : Mutation.step lib db m = some db') : seedRows db' + 1 = seedRows db := by
  have hrun := Mutation.step_eq_some.1 hstep
  cases m with
  | deleteFilterList name =>
      obtain ⟨_, hrun⟩ := run_discard_eq_ok.1 hrun
      obtain ⟨record, hget, hrun⟩ := run_fetch_bind_eq_ok.1 hrun
      obtain ⟨hdeleted, -⟩ := run_repo_finish_eq_ok.1 hrun
      rw [FilterLists.delete, statement_eq_ok] at hdeleted
      obtain rfl := Option.some.inj hdeleted
      have hlength : (deleteRows (·.id) record.id db.filterLists).length + 1 =
          db.filterLists.length :=
        length_deleteRows hvalid.filterListId (List.mem_of_find?_eq_some hget)
      simp only [seedRows]
      omega
  | deleteUpstreamServer id =>
      obtain ⟨_, hrun⟩ := run_discard_eq_ok.1 hrun
      obtain ⟨record, hget, hrun⟩ := run_fetch_bind_eq_ok.1 hrun
      obtain ⟨hdeleted, -⟩ := run_repo_finish_eq_ok.1 hrun
      rw [UpstreamConfig.deleteServer, statement_eq_ok] at hdeleted
      obtain rfl := Option.some.inj hdeleted
      have hid : record.id = id := by simpa using List.find?_some hget
      have hlength : (deleteRows (·.id) record.id db.upstreamServers).length + 1 =
          db.upstreamServers.length :=
        length_deleteRows hvalid.serverId (List.mem_of_find?_eq_some hget)
      simp only [seedRows, ← hid]
      omega
  | _ => exact absurd hdelete (by simp [Mutation.DeletesSeedRow])

/-- One call leaves a seeded database seeded exactly if it does not delete the last row. -/
theorem seeded_step_iff {lib : Libraries} {db db' : Database} (hvalid : db.Valid)
    (hseeded : 0 < seedRows db) {m : Mutation} (hstep : Mutation.step lib db m = some db') :
    0 < seedRows db' ↔ m.KeepsSeeded db := by
  unfold Mutation.KeepsSeeded
  by_cases hdelete : m.DeletesSeedRow = true
  · have hrows := seedRows_of_deletes hvalid hdelete hstep
    simp only [hdelete, forall_const]
    omega
  · rw [Bool.not_eq_true] at hdelete
    have hkept : (m.operation lib).Keeps fun db => 1 ≤ seedRows db :=
      Mutation.keeps_of_calls fun _ hcall => keptBy_seedRows hcall hdelete 1
    have hafter := Op.keeps_run hkept hseeded
    rw [Mutation.step_eq_some.1 hstep] at hafter
    exact iff_of_true hafter (by simp [hdelete])

/-! ## Runs -/

/-- **The YAML file is imported once exactly if a list or a server is always left.** After an import,
no start in the course of a run of API calls imports the file again exactly if the import left a
list or a server, and no call of the run deletes the last of them. -/
theorem seeds_once_iff {draw : SeedDraw → String} {config : DnsFilterConfig} {db₀ db : Database}
    (hvalid : db₀.Valid) (hseed : (seedIfEmpty draw config).run db₀ = (.ok true, db))
    {lib : Libraries} {calls : List Mutation} {last : Database}
    (hrun : run (Mutation.step lib) db calls = some last) :
    (∀ pre, pre <+: calls → ∀ db', run (Mutation.step lib) db pre = some db' →
        ∀ draw' config', ((seedIfEmpty draw' config').run db').1 = .ok false) ↔
      (config.lists ≠ [] ∨ config.resolvers.servers ≠ []) ∧
        AllSteps (Mutation.step lib) (fun db' m => m.KeepsSeeded db') db calls := by
  have hrows := seedRows_of_seeded hseed
  have hstart : 0 < seedRows db ↔ config.lists ≠ [] ∨ config.resolvers.servers ≠ [] := by
    rw [hrows, ← List.length_pos_iff, ← List.length_pos_iff]
    omega
  have hruns (hpos : 0 < seedRows db) :
      (∀ pre, pre <+: calls → ∀ db', run (Mutation.step lib) db pre = some db' →
        0 < seedRows db') ↔ AllSteps (Mutation.step lib) (fun db' m => m.KeepsSeeded db') db calls :=
    forall_reached_iff_allSteps (fun _ _ _ h hstep => Mutation.step_valid h hstep)
      (fun _ _ _ h hpos hstep => seeded_step_iff h hpos hstep) hrun (valid_of_seeded hvalid hseed)
      hpos
  simp only [seedIfEmpty_eq_false_iff_seedRows]
  constructor
  · intro h
    have hpos : 0 < seedRows db := h [] List.nil_prefix db rfl draw config
    refine ⟨hstart.1 hpos, (hruns hpos).1 ?_⟩
    intro pre hpre db' hdb'
    exact h pre hpre db' hdb' draw config
  · intro ⟨hne, hall⟩ pre hpre db' hdb' _ _
    exact (hruns (hstart.2 hne)).2 hall pre hpre db' hdb'

instance (db : Database) (m : Mutation) : Decidable (m.KeepsSeeded db) :=
  inferInstanceAs (Decidable (_ → _))

/-- A configuration with one blocklist. -/
def oneList : DnsFilterConfig :=
  { minimalConfig with
    blocklists := [{ name := "ads", url := "https://lists.example/ads.txt" }] }

/-- A configuration with two blocklists. -/
def twoLists : DnsFilterConfig :=
  { oneList with
    blocklists := oneList.blocklists ++
      [{ name := "trackers", url := "https://lists.example/trackers.txt" }] }

/-- One of the two lists is deleted, then the other one disabled. -/
def keepOne : List Mutation :=
  [.deleteFilterList "ads", .updateFilterList "trackers" { enabled := some false }]

theorem seeds_once_iff_twoLists :
    ∃ db last, (seedIfEmpty numberedDraw twoLists).run {} = (.ok true, db) ∧
      run (Mutation.step plainLibraries) db keepOne = some last ∧
      last.filterLists.map (·.name) = ["trackers"] ∧
      ∀ draw' config', ((seedIfEmpty draw' config').run last).1 = .ok false := by
  have hseed : (seedIfEmpty numberedDraw twoLists).run {} =
      (.ok true, ((seedIfEmpty numberedDraw twoLists).run {}).2) :=
    Prod.ext (by decide +kernel) rfl
  obtain ⟨last, hrun, hlast⟩ : ∃ last, run (Mutation.step plainLibraries)
      ((seedIfEmpty numberedDraw twoLists).run {}).2 keepOne = some last ∧
        decide (last.filterLists.map (·.name) = ["trackers"]) = true :=
    exists_run_of_any (by decide +kernel)
  have hall : AllSteps (Mutation.step plainLibraries) (fun db m => m.KeepsSeeded db)
      ((seedIfEmpty numberedDraw twoLists).run {}).2 keepOne := by decide +kernel
  have hlists : twoLists.lists ≠ [] ∨ twoLists.resolvers.servers ≠ [] := by decide
  have honce := (seeds_once_iff valid_empty hseed hrun).2 ⟨hlists, hall⟩
  exact ⟨_, last, hseed, hrun, of_decide_eq_true hlast,
    honce _ (List.prefix_refl _) last hrun⟩

/-- Deleting the only list brings it back at the next start. -/
theorem deleted_list_comes_back :
    ∃ db last, (seedIfEmpty numberedDraw oneList).run {} = (.ok true, db) ∧
      run (Mutation.step plainLibraries) db [.deleteFilterList "ads"] = some last ∧
      last.filterLists = [] ∧
      ((seedIfEmpty numberedDraw oneList).run last).1 = .ok true ∧
      ((seedIfEmpty numberedDraw oneList).run last).2.filterLists.map (·.name) = ["ads"] := by
  have hseed : (seedIfEmpty numberedDraw oneList).run {} =
      (.ok true, ((seedIfEmpty numberedDraw oneList).run {}).2) :=
    Prod.ext (by decide +kernel) rfl
  obtain ⟨last, hrun, hlast⟩ : ∃ last, run (Mutation.step plainLibraries)
      ((seedIfEmpty numberedDraw oneList).run {}).2 [.deleteFilterList "ads"] = some last ∧
        decide (last.filterLists = [] ∧
          ((seedIfEmpty numberedDraw oneList).run last).1 = .ok true ∧
          ((seedIfEmpty numberedDraw oneList).run last).2.filterLists.map (·.name) = ["ads"]) =
            true :=
    exists_run_of_any (by decide +kernel)
  exact ⟨_, last, hseed, hrun, of_decide_eq_true hlast⟩

end DnsFilter
