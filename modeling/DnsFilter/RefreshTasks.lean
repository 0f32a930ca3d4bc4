import DnsFilter.Filtering.DocumentCache
import DnsFilter.Reload

/-!
# Refresh tasks

Every engine that startup or a reload builds starts one task for each of its lists, which refreshes
the list again and again (`start_background_refresh`). Nothing ends these tasks: after a reload the
tasks of all earlier engines go on, and all of them write to one table of documents, under the name
and kind of their list.

* `TaskState.step` — calls of `update_filter_list`, reloads, and refreshes by any task.
* `DocumentWrite.Follows` — a document comes from where the installed engine's list says.
* `writes_follow_installed` — this holds as long as no reload finds a list with another source or
  format than an earlier engine has for it, and only then.
* `stale_task_overwrites` — a list is moved to another address; the first engine goes on writing
  what it finds at the old one.
-/

namespace DnsFilter

open Table ListFilterEngine

/-- A document that was written: the source and the format of the list that the writing task
refreshes, and what it fetched there. `installed` are the lists of the engine that the last reload
had installed, empty before the first one. Nothing in the program reads these. -/
structure DocumentWrite where
  record : FilterCacheDocumentRecord
  url : String
  format : ListFormat
  content : String
  installed : List ListRuntime

/-- `engines` are all engines ever started, the installed one first. -/
structure TaskState where
  db : Database
  documents : List FilterCacheDocumentRecord
  engines : List ListFilterEngine
  writes : List DocumentWrite

inductive TaskEvent
  | updateFilterList (name : String) (input : UpdateFilterListInput)
  /-- A reload that succeeds. -/
  | reload (loaders : ZoneLoaders)
  /-- The task for a list of the engine built `age` reloads ago has fetched its source. -/
  | tick (age list : Nat) (fetched : Except String String) (stored : Bool)

def TaskEvent.isTick : TaskEvent → Bool
  | .tick _ _ _ _ => true
  | _ => false

namespace TaskState

/-- The lists of the engines. -/
def lists (state : TaskState) : List (List ListRuntime) := state.engines.map (·.runtimes)

/-- The lists that a reload has installed. -/
def installedByReload (state : TaskState) : List ListRuntime :=
  match state.lists with
  | installed :: _ :: _ => installed
  | _ => []

section Step

variable (lib : Libraries) (nameFromAscii : String → Bool)
variable (toJson : CachedListDocument → String) (fromJson : String → Option CachedListDocument)
variable (yaml : DnsFilterConfig)

/-- Startup. -/
def start (db : Database) (documents : List FilterCacheDocumentRecord) :
    Except String TaskState := do
  let engine ← buildDomainFilterWithCache fromJson (applyDbConfig yaml (.ofDatabase db))
    (some (FilterCache.load documents))
  return { db := db, documents := documents, engines := [engine], writes := [] }

/-- What a refresh writes. -/
def writesOf (state : TaskState) (call : RefreshCall) : List DocumentWrite :=
  match call.fetched, call.stored with
  | .ok content, true =>
      [{ record := documentRecord nameFromAscii toJson call.runtime content
         url := call.runtime.url
         format := call.runtime.format
         content := content
         installed := state.installedByReload }]
  | _, _ => []

/-- One event; `none` if it cannot happen. -/
def step (state : TaskState) : TaskEvent → Option TaskState
  | .updateFilterList name input =>
      some { state with db := ((updateFilterList name input).run state.db).2 }
  | .reload loaders =>
      let environment := { filterCache := FilterCache.load state.documents, loaders := loaders }
      match buildReloaded lib fromJson yaml environment (.ofDatabase state.db) with
      | .ok reloaded => some { state with engines := reloaded.filter :: state.engines }
      | .error _ => none
  | .tick age list fetched stored =>
      match state.engines[age]? with
      | some engine =>
          match engine.runtimes[list]? with
          | some runtime =>
              let call : RefreshCall := ⟨runtime, fetched, stored⟩
              let after := refresh nameFromAscii toJson ⟨engine, state.documents⟩ call
              some { state with
                engines := state.engines.set age after.engine
                documents := after.documents
                writes := state.writes ++ state.writesOf nameFromAscii toJson call }
          | none => none
      | none => none

end Step

end TaskState

/-- The document under the key of an installed list holds what was fetched from the list's source,
parsed in the list's format. -/
def DocumentWrite.Follows (nameFromAscii : String → Bool) (toJson : CachedListDocument → String)
    (write : DocumentWrite) : Prop :=
  ∀ rt ∈ write.installed, rt.key = write.record.key →
    write.url = rt.url ∧ write.format = rt.format ∧
      write.record = documentRecord nameFromAscii toJson rt write.content

/-- The cache key of a stored list. -/
def FilterListRecord.cacheKey (record : FilterListRecord) : Option String :=
  if record.kind = "block" then some (listKey .block record.name)
  else if record.kind = "allow" then some (listKey .allow record.name)
  else none

namespace TaskState

/-- All documents written so far follow the lists that were installed when they were written. -/
def WritesFollow (nameFromAscii : String → Bool) (toJson : CachedListDocument → String)
    (state : TaskState) : Prop :=
  ∀ write ∈ state.writes, write.Follows nameFromAscii toJson

/-- The enabled lists of the database have the source and the format that every engine started so
far has for them. -/
def KeepsSources (state : TaskState) : Prop :=
  ∀ runtimes ∈ state.lists, ∀ rt ∈ runtimes, ∀ record ∈ state.db.filterLists,
    record.enabled → record.cacheKey = some rt.key →
      record.url = rt.url ∧ ListFormat.fromOption (some record.listType) = .ok rt.format

instance (state : TaskState) : Decidable state.KeepsSources :=
  inferInstanceAs (Decidable (∀ runtimes ∈ state.lists, ∀ rt ∈ runtimes,
    ∀ record ∈ state.db.filterLists, record.enabled → record.cacheKey = some rt.key →
      record.url = rt.url ∧ ListFormat.fromOption (some record.listType) = .ok rt.format))

/-- The condition on an event: a reload finds no list changed. -/
def ReloadsUnchanged (state : TaskState) : TaskEvent → Prop
  | .reload _ => state.KeepsSources
  | _ => True

instance (state : TaskState) : ∀ event, Decidable (state.ReloadsUnchanged event)
  | .reload _ => inferInstanceAs (Decidable state.KeepsSources)
  | .updateFilterList _ _ => isTrue trivial
  | .tick _ _ _ _ => isTrue trivial

end TaskState

/-! ## Stored lists and the lists of an engine -/

/-- The stored list gives the engine this list. -/
def FilterListRecord.Gives (record : FilterListRecord) (rt : ListRuntime) : Prop :=
  record.cacheKey = some rt.key ∧ record.url = rt.url ∧
    ListFormat.fromOption (some record.listType) = .ok rt.format

theorem FilterListRecord.cacheKey_inj {db : Database} (hvalid : db.Valid)
    {record record' : FilterListRecord} (h : record ∈ db.filterLists)
    (h' : record' ∈ db.filterLists) {key : String} (hkey : record.cacheKey = some key)
    (hkey' : record'.cacheKey = some key) : record = record' := by
  have hname : ∀ r : FilterListRecord, r.cacheKey = some key →
      ∃ kind, listKey kind r.name = key := by
    intro r hr
    rw [cacheKey] at hr
    split at hr
    · exact ⟨_, Option.some.inj hr⟩
    · split at hr
      · exact ⟨_, Option.some.inj hr⟩
      · exact absurd hr (by simp)
  obtain ⟨kind, hk⟩ := hname record hkey
  obtain ⟨kind', hk'⟩ := hname record' hkey'
  exact hvalid.filterListName.eq_of_key h h' (listKey_inj (hk.trans hk'.symm)).2

theorem gives_of_buildRuntime {kind : ListKind} {record : FilterListRecord} {rt : ListRuntime}
    (hkey : record.cacheKey = some (listKey kind record.name))
    (h : buildRuntime kind record.toNamedList = .ok rt) : record.Gives rt := by
  obtain ⟨interval, -, h⟩ := bind_eq_ok.1 h
  obtain ⟨format, hformat, h⟩ := bind_eq_ok.1 h
  obtain rfl := Except.ok.inj h
  exact ⟨hkey, rfl, mapError_eq_ok.1 hformat⟩

/-- One kind of lists: every runtime comes from an enabled record, and these all give one. -/
theorem gives_of_buildRuntimes {kind : ListKind} {records : List FilterListRecord}
    {rts : List ListRuntime}
    (hkey : ∀ record ∈ records, record.cacheKey = some (listKey kind record.name))
    (h : buildRuntimes (records.map (·.toNamedList)) kind = .ok rts) :
    (∀ rt ∈ rts, ∃ record ∈ records, record.enabled ∧ record.Gives rt) ∧
      ∀ record ∈ records, record.enabled → ∃ rt ∈ rts, record.Gives rt := by
  constructor
  · intro rt hrt
    obtain ⟨list, hlist, hbuild⟩ := exists_of_mem_mapM h hrt
    obtain ⟨hlist, hen⟩ := List.mem_filter.1 hlist
    obtain ⟨record, hrecord, rfl⟩ := List.mem_map.1 hlist
    exact ⟨record, hrecord, hen, gives_of_buildRuntime (hkey record hrecord) hbuild⟩
  · intro record hrecord hen
    have hlist : record.toNamedList ∈ (records.map (·.toNamedList)).filter
        (·.enabled.getD true) := List.mem_filter.2 ⟨List.mem_map_of_mem hrecord, hen⟩
    obtain ⟨rt, hrt, hbuild⟩ := exists_mem_of_mapM h hlist
    exact ⟨rt, hrt, gives_of_buildRuntime (hkey record hrecord) hbuild⟩

/-- **An engine built from the database** has exactly its enabled lists. -/
theorem gives_of_built {fromJson : String → Option CachedListDocument} {yaml : DnsFilterConfig}
    {db : Database} (hvalid : db.Valid)
    {cacheRepo : Option (String → Except String (Option FilterCacheDocumentRecord))}
    {engine : ListFilterEngine} (h : buildDomainFilterWithCache fromJson
      (applyDbConfig yaml (.ofDatabase db)) cacheRepo = .ok engine) :
    (∀ rt ∈ engine.runtimes, ∃ record ∈ db.filterLists, record.enabled ∧ record.Gives rt) ∧
      ∀ record ∈ db.filterLists, record.enabled → ∃ rt ∈ engine.runtimes, record.Gives rt := by
  obtain ⟨-, -, h⟩ := bind_eq_ok.1 h
  obtain ⟨blocks, allows, hblocks, hallows, hruntimes⟩ := fromConfigWithCache_runtimes h
  have hmem : ∀ {record : FilterListRecord}, record ∈ FilterLists.getAll db ↔
      record ∈ db.filterLists := (List.perm_insertionSort _ _).mem_iff
  have hb := gives_of_buildRuntimes (fun record hrecord => by
    rw [FilterListRecord.cacheKey, if_pos (of_decide_eq_true (List.mem_filter.1 hrecord).2)])
    hblocks
  have ha := gives_of_buildRuntimes (fun record hrecord => by
    have hkind : record.kind = "allow" := of_decide_eq_true (List.mem_filter.1 hrecord).2
    rw [FilterListRecord.cacheKey, if_neg (by rw [hkind]; decide), if_pos hkind]) hallows
  rw [hruntimes]
  constructor
  · intro rt hrt
    rcases List.mem_append.1 hrt with hrt | hrt
    · obtain ⟨record, hrecord, hgives⟩ := hb.1 rt hrt
      exact ⟨record, hmem.1 (List.mem_filter.1 hrecord).1, hgives⟩
    · obtain ⟨record, hrecord, hgives⟩ := ha.1 rt hrt
      exact ⟨record, hmem.1 (List.mem_filter.1 hrecord).1, hgives⟩
  · intro record hrecord hen
    rcases hvalid.filterListKind record hrecord with hkind | hkind
    · obtain ⟨rt, hrt, hgives⟩ := hb.2 record
        (List.mem_filter.2 ⟨hmem.2 hrecord, decide_eq_true hkind⟩) hen
      exact ⟨rt, List.mem_append_left _ hrt, hgives⟩
    · obtain ⟨rt, hrt, hgives⟩ := ha.2 record
        (List.mem_filter.2 ⟨hmem.2 hrecord, decide_eq_true hkind⟩) hen
      exact ⟨rt, List.mem_append_right _ hrt, hgives⟩

namespace TaskState

variable {lib : Libraries} {nameFromAscii : String → Bool}
variable {toJson : CachedListDocument → String} {fromJson : String → Option CachedListDocument}
variable {yaml : DnsFilterConfig} {state after : TaskState} {event : TaskEvent}

/-! ## Steps -/

/-- A reload that succeeds starts an engine built from the current tables. -/
theorem step_reload {loaders : ZoneLoaders}
    (h : step lib nameFromAscii toJson fromJson yaml state (.reload loaders) = some after) :
    ∃ engine, buildDomainFilterWithCache fromJson (applyDbConfig yaml (.ofDatabase state.db))
        (some (FilterCache.load state.documents)) = .ok engine ∧
      after = { state with engines := engine :: state.engines } := by
  simp only [step] at h
  split at h
  · rename_i reloaded hbuild
    obtain ⟨_, -, hbuild⟩ := bind_eq_ok.1 hbuild
    obtain ⟨engine, hengine, hbuild⟩ := bind_eq_ok.1 hbuild
    obtain ⟨_, -, hbuild⟩ := bind_eq_ok.1 hbuild
    obtain ⟨_, -, hbuild⟩ := bind_eq_ok.1 hbuild
    obtain rfl := Except.ok.inj hbuild
    exact ⟨engine, hengine, (Option.some.inj h).symm⟩
  · exact absurd h (by simp)

theorem refresh_runtimes (cached : CachedEngine) (call : RefreshCall) :
    (refresh nameFromAscii toJson cached call).engine.runtimes = cached.engine.runtimes := by
  rw [refresh]
  split <;> rfl

theorem step_tick_of_task {age list : Nat} {engine : ListFilterEngine} {runtime : ListRuntime}
    (hengine : state.engines[age]? = some engine) (hruntime : engine.runtimes[list]? = some runtime)
    (fetched : Except String String) (stored : Bool) :
    step lib nameFromAscii toJson fromJson yaml state (.tick age list fetched stored) =
      let call : RefreshCall := ⟨runtime, fetched, stored⟩
      let after := refresh nameFromAscii toJson ⟨engine, state.documents⟩ call
      some { state with
        engines := state.engines.set age after.engine
        documents := after.documents
        writes := state.writes ++ state.writesOf nameFromAscii toJson call } := by
  simp only [step, hengine, hruntime]

/-- A refresh leaves the lists of all engines alone, and writes for one of them. -/
theorem step_tick {age list : Nat} {fetched : Except String String} {stored : Bool}
    (h : step lib nameFromAscii toJson fromJson yaml state (.tick age list fetched stored) =
      some after) :
    after.db = state.db ∧ after.lists = state.lists ∧
      ∃ runtimes ∈ state.lists, ∃ runtime ∈ runtimes, after.writes = state.writes ++
        state.writesOf nameFromAscii toJson ⟨runtime, fetched, stored⟩ := by
  simp only [step] at h
  split at h
  · rename_i engine hengine
    split at h
    · rename_i runtime hruntime
      obtain rfl := Option.some.inj h
      refine ⟨rfl, ?_, engine.runtimes,
        List.mem_map_of_mem (List.mem_of_getElem? hengine), runtime,
        List.mem_of_getElem? hruntime, rfl⟩
      have hlists : (state.engines.map (·.runtimes))[age]? = some engine.runtimes := by
        rw [List.getElem?_map, hengine]
        rfl
      obtain ⟨hlt, hget⟩ := List.getElem?_eq_some_iff.1 hlists
      rw [lists, lists, List.map_set, refresh_runtimes]
      simp only
      rw [← hget]
      exact List.set_getElem_self hlt
    · exact absurd h (by simp)
  · exact absurd h (by simp)

/-! ## Invariants -/

/-- The database obeys its constraints, there is an engine, and every list has the key made from
kind and name. -/
structure Inv (state : TaskState) : Prop where
  valid : state.db.Valid
  started : state.lists ≠ []
  keyed : ∀ runtimes ∈ state.lists, ∀ rt ∈ runtimes, rt.key = listKey rt.kind rt.name

/-- Every engine has the source and the format of each list that a reload has installed. -/
def Agree (state : TaskState) : Prop :=
  ∀ runtimes ∈ state.lists, ∀ rt ∈ runtimes, ∀ rt' ∈ state.installedByReload,
    rt.key = rt'.key → rt.url = rt'.url ∧ rt.format = rt'.format

theorem inv_start {db : Database} {documents : List FilterCacheDocumentRecord}
    (hvalid : db.Valid) (h : start fromJson yaml db documents = .ok state) :
    state.Inv ∧ state.Agree ∧ state.WritesFollow nameFromAscii toJson := by
  obtain ⟨engine, hengine, h⟩ := bind_eq_ok.1 h
  obtain rfl := Except.ok.inj h
  obtain ⟨-, -, hengine⟩ := bind_eq_ok.1 hengine
  refine ⟨⟨hvalid, List.cons_ne_nil _ _, ?_⟩, ?_, ?_⟩
  · intro runtimes hruntimes
    rw [List.mem_singleton.1 hruntimes]
    exact fromConfigWithCache_key hengine
  · intro _ _ rt _ rt' hrt'
    exact absurd hrt' (by simp [installedByReload, lists])
  · intro write hwrite
    exact absurd hwrite (by simp)

theorem inv_step (h : state.Inv)
    (hstep : step lib nameFromAscii toJson fromJson yaml state event = some after) : after.Inv := by
  cases event with
  | updateFilterList name input =>
      obtain rfl := Option.some.inj hstep
      exact { h with valid := Op.keeps_run (standard_updateFilterList name input
        fun record _ hvalid => hvalid.updateFilterList record).keeps h.valid }
  | reload loaders =>
      obtain ⟨engine, hengine, rfl⟩ := step_reload hstep
      obtain ⟨-, -, hengine⟩ := bind_eq_ok.1 hengine
      refine ⟨h.valid, List.cons_ne_nil _ _, ?_⟩
      intro runtimes hruntimes
      rcases List.mem_cons.1 hruntimes with rfl | hruntimes
      · exact fromConfigWithCache_key hengine
      · exact h.keyed runtimes hruntimes
  | tick age list fetched stored =>
      obtain ⟨hdb, hlists, -⟩ := step_tick hstep
      exact ⟨hdb ▸ h.valid, hlists ▸ h.started, hlists ▸ h.keyed⟩

/-- What a reload installs. -/
theorem installedByReload_cons (h : state.lists ≠ []) (engine : ListFilterEngine) :
    installedByReload { state with engines := engine :: state.engines } = engine.runtimes := by
  obtain ⟨runtimes, rest, hlists⟩ := List.exists_cons_of_ne_nil h
  have hcons : lists { state with engines := engine :: state.engines } =
      engine.runtimes :: runtimes :: rest := congrArg (List.cons engine.runtimes) hlists
  rw [installedByReload, hcons]

theorem exists_of_mem_installed {rt : ListRuntime} (h : rt ∈ state.installedByReload) :
    ∃ runtimes ∈ state.lists, rt ∈ runtimes := by
  rw [installedByReload] at h
  split at h
  · rename_i hlists
    exact ⟨_, hlists ▸ List.mem_cons_self, h⟩
  · exact absurd h (by simp)

/-- Two lists of one engine with the same key are the same stored list. -/
theorem agree_self {db : Database} (hvalid : db.Valid) {runtimes : List ListRuntime}
    (hgives : ∀ rt ∈ runtimes, ∃ record ∈ db.filterLists, record.enabled ∧ record.Gives rt)
    {rt rt' : ListRuntime} (hrt : rt ∈ runtimes) (hrt' : rt' ∈ runtimes) (hkey : rt.key = rt'.key) :
    rt.url = rt'.url ∧ rt.format = rt'.format := by
  obtain ⟨record, hrecord, -, hk, hurl, hformat⟩ := hgives rt hrt
  obtain ⟨record', hrecord', -, hk', hurl', hformat'⟩ := hgives rt' hrt'
  obtain rfl := FilterListRecord.cacheKey_inj hvalid hrecord hrecord' hk (hkey ▸ hk')
  exact ⟨hurl.symm.trans hurl', Except.ok.inj (hformat.symm.trans hformat')⟩

/-- **A reload that finds no list changed** leaves all engines in agreement with what it installs,
whatever was installed before. -/
theorem agree_reload (h : state.Inv) {loaders : ZoneLoaders} (hkeeps : state.KeepsSources)
    (hstep : step lib nameFromAscii toJson fromJson yaml state (.reload loaders) = some after) :
    after.Agree := by
  obtain ⟨engine, hengine, rfl⟩ := step_reload hstep
  have hgives := (gives_of_built h.valid hengine).1
  intro runtimes hruntimes rt hrt rt' hrt' hkey
  rw [installedByReload_cons h.started] at hrt'
  rcases List.mem_cons.1 hruntimes with rfl | hruntimes
  · exact agree_self h.valid hgives hrt hrt' hkey
  · obtain ⟨record, hrecord, hen, hk, hurl, hformat⟩ := hgives rt' hrt'
    obtain ⟨hurl₀, hformat₀⟩ := hkeeps runtimes hruntimes rt hrt record hrecord hen (hkey ▸ hk)
    exact ⟨hurl₀.symm.trans hurl, Except.ok.inj (hformat₀.symm.trans hformat)⟩

/-- What a task writes follows the installed lists if its engine agrees with them. -/
theorem follows_writesOf (h : state.Inv) (hagree : state.Agree) {runtimes : List ListRuntime}
    (hruntimes : runtimes ∈ state.lists) {call : RefreshCall} (hcall : call.runtime ∈ runtimes) :
    ∀ write ∈ state.writesOf nameFromAscii toJson call, write.Follows nameFromAscii toJson := by
  intro write hwrite
  rw [writesOf] at hwrite
  split at hwrite
  · rw [List.mem_singleton.1 hwrite]
    intro rt hrt hkey
    have hkey : call.runtime.key = rt.key := hkey.symm
    obtain ⟨hurl, hformat⟩ := hagree runtimes hruntimes call.runtime hcall rt hrt hkey
    have hkind : call.runtime.kind = rt.kind := by
      obtain ⟨installed, hinstalled, hmem⟩ := exists_of_mem_installed hrt
      have hkeys := hkey
      rw [h.keyed runtimes hruntimes _ hcall, h.keyed installed hinstalled rt hmem] at hkeys
      exact (listKey_inj hkeys).1
    refine ⟨hurl, hformat, ?_⟩
    simp only [documentRecord, persistListDocument, loadedContent, hkey, hkind, hformat]
  · exact absurd hwrite (by simp)

/-! ## Runs -/

/-- **One step** keeps the engines in agreement and the documents right, a reload if it finds no list
changed. -/
theorem agree_step (h : state.Inv)
    (hagree : state.Agree ∧ state.WritesFollow nameFromAscii toJson)
    (hevent : state.ReloadsUnchanged event)
    (hstep : step lib nameFromAscii toJson fromJson yaml state event = some after) :
    after.Agree ∧ after.WritesFollow nameFromAscii toJson := by
  cases event with
  | updateFilterList name input =>
      obtain rfl := Option.some.inj hstep
      exact hagree
  | reload loaders =>
      have hafter := agree_reload h hevent hstep
      obtain ⟨engine, -, rfl⟩ := step_reload hstep
      exact ⟨hafter, hagree.2⟩
  | tick age list fetched stored =>
      obtain ⟨-, hlists, runtimes, hruntimes, runtime, hruntime, hwrites⟩ := step_tick hstep
      constructor
      · rw [Agree, installedByReload, hlists]
        exact hagree.1
      · intro write hwrite
        rw [hwrites] at hwrite
        rcases List.mem_append.1 hwrite with hwrite | hwrite
        · exact hagree.2 write hwrite
        · exact follows_writesOf h hagree.1 hruntimes hruntime write hwrite

/-- Every run whose reloads all find their lists unchanged. -/
theorem agree_run {started : TaskState} (h : started.Inv)
    (hagree : started.Agree ∧ started.WritesFollow nameFromAscii toJson) {events : List TaskEvent}
    (hrun : run (step lib nameFromAscii toJson fromJson yaml) started events = some state)
    (hevents : AllSteps (step lib nameFromAscii toJson fromJson yaml) ReloadsUnchanged started
      events) : state.Agree ∧ state.WritesFollow nameFromAscii toJson := by
  have hstep : ∀ s event s', (s.Inv ∧ s.Agree ∧ s.WritesFollow nameFromAscii toJson) →
      s.ReloadsUnchanged event →
      step lib nameFromAscii toJson fromJson yaml s event = some s' →
      s'.Inv ∧ s'.Agree ∧ s'.WritesFollow nameFromAscii toJson :=
    fun _ _ _ hs hevent hstep => ⟨inv_step hs.1 hstep, agree_step hs.1 hs.2 hevent hstep⟩
  exact (run_invariant_of_allSteps hstep hrun hevents ⟨h, hagree⟩).2

/-- Refreshes alone meet the condition. -/
theorem allSteps_of_ticks {ticks : List TaskEvent} (hticks : ∀ event ∈ ticks, event.isTick) :
    AllSteps (step lib nameFromAscii toJson fromJson yaml) ReloadsUnchanged state ticks := by
  induction ticks generalizing state with
  | nil => trivial
  | cons event ticks ih =>
      rw [List.forall_mem_cons] at hticks
      refine ⟨?_, fun _ _ => ih hticks.2⟩
      cases event with
      | updateFilterList name input => trivial
      | reload loaders => exact absurd hticks.1 (by simp [TaskEvent.isTick])
      | tick age list fetched stored => trivial

/-- **After a reload that finds a list changed** a task of an earlier engine writes a document from
elsewhere. -/
theorem exists_tick_of_changed (h : state.Inv) {loaders : ZoneLoaders}
    (hstep : step lib nameFromAscii toJson fromJson yaml state (.reload loaders) = some after)
    (hchanged : ¬ state.KeepsSources) (content : String) :
    ∃ age list later, step lib nameFromAscii toJson fromJson yaml after
        (.tick age list (.ok content) true) = some later ∧
      ¬ later.WritesFollow nameFromAscii toJson := by
  obtain ⟨engine, hengine, rfl⟩ := step_reload hstep
  simp only [KeepsSources, not_forall] at hchanged
  obtain ⟨runtimes, hruntimes, rt, hrt, record, hrecord, hen, hkey, hchanged⟩ := hchanged
  obtain ⟨rt', hrt', hkey', hurl, hformat⟩ := (gives_of_built h.valid hengine).2 record hrecord hen
  obtain ⟨old, hold, rfl⟩ := List.mem_map.1 hruntimes
  obtain ⟨age, hage⟩ := List.mem_iff_getElem?.1 hold
  obtain ⟨list, hlist⟩ := List.mem_iff_getElem?.1 hrt
  have hage' : (engine :: state.engines)[age + 1]? = some old :=
    List.getElem?_cons_succ.trans hage
  have htick := @step_tick_of_task lib nameFromAscii toJson fromJson yaml
    { state with engines := engine :: state.engines } (age + 1) list old rt hage' hlist
    (.ok content) true
  refine ⟨age + 1, list, _, htick, ?_⟩
  intro hfollows
  have hwrite := hfollows _ (List.mem_append_right _ (List.mem_singleton_self _))
  rw [DocumentWrite.Follows] at hwrite
  simp only [installedByReload_cons h.started] at hwrite
  obtain ⟨hurl', hformat', -⟩ := hwrite rt' hrt' (Option.some.inj (hkey'.symm.trans hkey))
  exact hchanged ⟨hurl.trans hurl'.symm, hformat'.symm ▸ hformat⟩

/-- **Documents and the installed lists.** In every run whose reloads find no list changed, every
document under the key of an installed list comes from that list's source and is parsed in its
format. And this is what it takes: after a reload, all documents that the refreshes write are right
exactly if the reload has found no list changed. -/
theorem writes_follow_installed {db : Database} {documents : List FilterCacheDocumentRecord}
    {started : TaskState} (hvalid : db.Valid)
    (hstart : start fromJson yaml db documents = .ok started) {events : List TaskEvent}
    (hrun : run (step lib nameFromAscii toJson fromJson yaml) started events = some state) :
    (AllSteps (step lib nameFromAscii toJson fromJson yaml) ReloadsUnchanged started events →
      state.WritesFollow nameFromAscii toJson) ∧
    (state.WritesFollow nameFromAscii toJson → ∀ loaders after,
      step lib nameFromAscii toJson fromJson yaml state (.reload loaders) = some after →
        ((∀ ticks later, (∀ event ∈ ticks, event.isTick) →
            run (step lib nameFromAscii toJson fromJson yaml) after ticks = some later →
            later.WritesFollow nameFromAscii toJson) ↔ state.KeepsSources)) := by
  obtain ⟨hinv, hagree⟩ := inv_start hvalid hstart
  have hstate : state.Inv := run_invariant (fun _ _ _ hs hstep => inv_step hs hstep) hrun hinv
  refine ⟨fun hevents => (agree_run hinv hagree hrun hevents).2, ?_⟩
  intro hwrites loaders after hreload
  constructor
  · intro hticks
    by_contra hchanged
    obtain ⟨age, list, later, hstep, hnot⟩ := exists_tick_of_changed hstate hreload hchanged ""
    refine hnot (hticks [.tick age list (.ok "") true] later (by simp [TaskEvent.isTick]) ?_)
    rw [run, hstep]
    rfl
  · intro hkeeps ticks later hticks hlater
    have hafter := agree_reload hstate hkeeps hreload
    have hinvAfter := inv_step hstate hreload
    obtain ⟨engine, -, rfl⟩ := step_reload hreload
    exact (agree_run hinvAfter ⟨hafter, hwrites⟩ hlater (allSteps_of_ticks hticks)).2

/-! A list, and one upstream server without which a reload does not succeed. -/

def oneList : Database where
  filterLists := [{
    id := "list", name := "ads", kind := "block", url := "https://old.example/ads"
    intervalSeconds := 3600, enabled := true, listType := "adguard" }]
  upstreamServers := [{
    id := "server", enabled := true, protocol := "dns", address := "9.9.9.9:53"
    authToken := none, authUsername := none, authPassword := none, maxHops := none
    nameserverIpFamily := none, rootHintsPath := none, rootKeyPath := none, dnssec := true
    sortOrder := 0, bindAddress := none, fwmark := none }]

theorem valid_oneList : oneList.Valid := by
  constructor <;> simp [oneList, Keyed]

/-- The interval is changed, a reload follows, and then both tasks refresh the list. -/
def changeInterval : List TaskEvent :=
  [.updateFilterList "ads" { interval := some "2h" }, .reload ReloadState.offline.loaders,
    .tick 0 0 (.ok "||ads.example^") true, .tick 1 0 (.ok "||ads.example^") true]

theorem writes_follow_installed_changeInterval :
    ∃ started state, start (fun _ => none) minimalConfig oneList [] = .ok started ∧
      run (step plainLibraries (fun _ => true) documentText (fun _ => none) minimalConfig) started
        changeInterval = some state ∧
      state.writes.length = 2 ∧ state.WritesFollow (fun _ => true) documentText := by
  let next := step plainLibraries (fun _ => true) documentText (fun _ => none) minimalConfig
  have hany : (start (fun _ => none) minimalConfig oneList []).toOption.any (fun started =>
      decide (AllSteps next ReloadsUnchanged started changeInterval) &&
        (run next started changeInterval).any fun state =>
          decide (state.writes.length = 2)) = true := by decide +kernel
  obtain ⟨started, hstart, hany⟩ := exists_ok_of_any hany
  rw [Bool.and_eq_true, decide_eq_true_eq] at hany
  obtain ⟨state, hrun, hwrites⟩ := exists_run_of_any hany.2
  have h := writes_follow_installed valid_oneList hstart hrun
  exact ⟨started, state, hstart, hrun, of_decide_eq_true hwrites, h.1 hany.1⟩

/-- The list is moved; after the reload the first task refreshes it from its old place. -/
def moveList : List TaskEvent :=
  [.updateFilterList "ads" { url := some "https://new.example/ads" },
    .reload ReloadState.offline.loaders, .tick 1 0 (.ok "||ads.example^") true]

theorem stale_task_overwrites :
    oneList.Valid ∧ ∃ started state, start (fun _ => none) minimalConfig oneList [] = .ok started ∧
      run (step plainLibraries (fun _ => true) documentText (fun _ => none) minimalConfig) started
        moveList = some state ∧
      ¬ state.WritesFollow (fun _ => true) documentText := by
  have hany : (start (fun _ => none) minimalConfig oneList []).toOption.any (fun started =>
      (run (step plainLibraries (fun _ => true) documentText (fun _ => none) minimalConfig) started
        moveList).any fun state => state.writes.any fun write => write.installed.any fun rt =>
          decide (rt.key = write.record.key ∧ write.url ≠ rt.url)) = true := by decide +kernel
  obtain ⟨started, hstart, hany⟩ := exists_ok_of_any hany
  obtain ⟨state, hrun, htest⟩ := exists_run_of_any hany
  refine ⟨valid_oneList, started, state, hstart, hrun, ?_⟩
  intro hfollows
  obtain ⟨write, hwrite, hany⟩ := List.any_eq_true.1 htest
  obtain ⟨rt, hrt, hne⟩ := List.any_eq_true.1 hany
  obtain ⟨hkey, hurl⟩ := of_decide_eq_true hne
  exact hurl (hfollows write hwrite rt hrt hkey).1

end TaskState

end DnsFilter
