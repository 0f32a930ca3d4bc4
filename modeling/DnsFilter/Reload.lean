import DnsFilter.OperationsProof
import DnsFilter.Lib.Run

/-!
# Reloads

Mutations run on many tasks at once; each of them makes its repository calls and then sends a
message on the reload channel, waiting while it is full. A single task (`main.rs`) receives the
messages. For each of them it reads the tables one after the other, builds a pipeline from what it
read (`reload_config_from_db_cached`) and, if that succeeds, installs it.

* `ReloadState.step` — the atomic steps of mutations and of the reload task.
* `ReloadState.Covered` — whatever has been written is read by a reload that is still to come, or
  the reload under way or the last one has read it.
* `quiescent_reload_current` — in every quiescent state after a mutation the last reload has read
  the current tables, and what is installed is built from them.
-/

namespace DnsFilter

/-! ## Building -/

/-- What a build finds outside the tables that it read: the cached list documents and whatever zone
documents and discovery indexes are fetched. -/
structure ReloadEnvironment where
  filterCache : String → Except String (Option FilterCacheDocumentRecord)
  loaders : ZoneLoaders

/-- What a reload produces, and what a pipeline is assembled from. -/
structure ReloadedConfig where
  resolver : UpstreamGroup
  filter : ListFilterEngine
  anyQueryPolicy : AnyQueryPolicy
  zoneEntries : List (ZoneEntry ZoneResolver)

section Build

variable (lib : Libraries) (fromJson : String → Option CachedListDocument) (yaml : DnsFilterConfig)

/-- `reload_config_from_db_cached` once the tables are read; `yaml` is the cached configuration
file, which startup has loaded and validated already. -/
def buildReloaded (environment : ReloadEnvironment) (tables : OperationalTables) :
    Except String ReloadedConfig := do
  let config := applyDbConfig yaml tables
  let resolver ← buildUpstreamResolver lib config
  let filter ← buildDomainFilterWithCache fromJson config (some environment.filterCache)
  let anyQueryPolicy ← buildAnyQueryPolicy config
  let zoneEntries ← buildZoneEntries lib environment.loaders config
  return ⟨resolver, filter, anyQueryPolicy, zoneEntries⟩

end Build

/-! ## The system -/

/-- Where the reload task stands: waiting for a message, in the middle of its reads, or about to
install what it built. -/
inductive ReloadPhase
  | waiting
  | reading (rest : Op Database String OperationalTables)
  | installing (pipeline : ReloadedConfig)

/-- A reload that got as far as building: what it read, and what it found outside. -/
structure Reload where
  tables : OperationalTables
  environment : ReloadEnvironment

/-- The database, the mutations in progress (as what they have still to do), the number of messages
in the channel, the reload task, and the installed pipeline. `last` is not in the program: it
records the last reload. -/
structure ReloadState where
  db : Database
  calls : List (Operation Unit)
  channel : Nat
  phase : ReloadPhase
  slot : ReloadedConfig
  last : Option Reload

/-- The atomic steps. -/
inductive ReloadStep
  /-- A mutation is called. -/
  | start (mutation : Mutation)
  /-- A mutation in progress makes its next repository call, sends, or returns. -/
  | advance (call : Nat)
  /-- SIGHUP, the control socket or the API asks for a reload. -/
  | request
  /-- The reload task receives a message. -/
  | receive
  /-- The reload task reads the next table. -/
  | read
  /-- The reload task builds. -/
  | build (environment : ReloadEnvironment)
  /-- The reload task installs what it built. -/
  | install

/-- The bound of the reload channel. -/
def reloadChannelCapacity : Nat := 4

namespace ReloadState

/-- A running server before the first mutation. -/
def initial (db : Database) (slot : ReloadedConfig) : ReloadState where
  db := db
  calls := []
  channel := 0
  phase := .waiting
  slot := slot
  last := none

/-- No call in progress, the channel empty, the reload task waiting. -/
def Quiescent (state : ReloadState) : Prop :=
  state.calls = [] ∧ state.channel = 0 ∧ state.phase = .waiting

/-- `Quiescent` as a test. -/
def quiescent (state : ReloadState) : Bool :=
  state.calls.isEmpty && state.channel == 0 && match state.phase with
    | .waiting => true
    | _ => false

theorem quiescent_iff {state : ReloadState} : state.quiescent = true ↔ state.Quiescent := by
  rw [quiescent, Quiescent, Bool.and_eq_true, Bool.and_eq_true, List.isEmpty_iff, beq_iff_eq,
    and_assoc]
  cases state.phase <;> simp

section Steps

variable (lib : Libraries) (fromJson : String → Option CachedListDocument) (yaml : DnsFilterConfig)

/-- The next step of the mutation at place `i`. One that has failed makes no step any more: only
calls that return `Ok` are followed to their end. -/
def advance (state : ReloadState) (i : Nat) : Option ReloadState :=
  match state.calls[i]? with
  | some (.call effect next) =>
      some { state with db := effect state.db, calls := state.calls.set i (next state.db) }
  | some (.send next) =>
      if state.channel < reloadChannelCapacity then
        some { state with channel := state.channel + 1, calls := state.calls.set i next }
      else none
  | some (.ok _) => some { state with calls := state.calls.eraseIdx i }
  | some (.fail _) | none => none

/-- One atomic step; `none` if it cannot happen in this state. -/
def step (state : ReloadState) : ReloadStep → Option ReloadState
  | .start mutation => some { state with calls := state.calls ++ [mutation.operation lib] }
  | .advance i => state.advance i
  | .request =>
      if state.channel < reloadChannelCapacity then
        some { state with channel := state.channel + 1 }
      else none
  | .receive =>
      match state.phase, state.channel with
      | .waiting, rest + 1 => some { state with channel := rest, phase := .reading readTables }
      | _, _ => none
  | .read =>
      match state.phase with
      | .reading (.call effect next) =>
          some { state with db := effect state.db, phase := .reading (next state.db) }
      | _ => none
  | .build environment =>
      match state.phase with
      | .reading (.ok tables) =>
          let state := { state with last := some ⟨tables, environment⟩ }
          match buildReloaded lib fromJson yaml environment tables with
          | .ok pipeline => some { state with phase := .installing pipeline }
          -- the previous pipeline stays
          | .error _ => some { state with phase := .waiting }
      | _ => none
  | .install =>
      match state.phase with
      | .installing pipeline => some { state with slot := pipeline, phase := .waiting }
      | _ => none

end Steps

/-! ## The invariant -/

/-- Every call in progress has still to send, or has only to return. -/
def Orderly (state : ReloadState) : Prop :=
  ∀ call ∈ state.calls, call.SendsLast ∨ ∃ a, call = .ok a

section Covered

variable (lib : Libraries) (fromJson : String → Option CachedListDocument) (yaml : DnsFilterConfig)

/-- The last reload has read the current tables, and if it could build from them, `P` holds of the
result. -/
def LastRead (state : ReloadState) (P : ReloadedConfig → Prop) : Prop :=
  ∃ reload, state.last = some reload ∧ reload.tables = .ofDatabase state.db ∧
    ∀ pipeline, buildReloaded lib fromJson yaml reload.environment (.ofDatabase state.db) =
      .ok pipeline → P pipeline

/-- The reload task has the current tables: the last reload read them, or the one under way has
read nothing else so far. -/
def UpToDate (state : ReloadState) : Prop :=
  match state.phase with
  | .waiting => state.LastRead lib fromJson yaml (state.slot = ·)
  | .reading rest => rest.ReadOnly ∧ rest.run state.db = (.ok (.ofDatabase state.db), state.db)
  | .installing built => state.LastRead lib fromJson yaml (built = ·)

/-- Some call has still to send, a message waits, or the reload task is up to date. -/
def Covered (state : ReloadState) : Prop :=
  (∃ call ∈ state.calls, call.SendsLast) ∨ 0 < state.channel ∨ state.UpToDate lib fromJson yaml

end Covered

variable {lib : Libraries} {fromJson : String → Option CachedListDocument} {yaml : DnsFilterConfig}

/-! ### Steps of the mutations -/

/-- Replacing a call leaves the other calls in progress. -/
theorem orderly_set {state : ReloadState} (h : state.Orderly) {i : Nat} {call : Operation Unit}
    (hcall : call.SendsLast ∨ ∃ a, call = .ok a) (db : Database) (channel : Nat) :
    Orderly { state with db := db, channel := channel, calls := state.calls.set i call } := by
  intro other hother
  rcases List.mem_or_eq_of_mem_set hother with hother | rfl
  · exact h other hother
  · exact hcall

/-- **A mutation is covered until it has sent, and its message covers it afterwards.** -/
theorem inv_advance {state state' : ReloadState} {i : Nat} (horderly : state.Orderly)
    (hstep : state.advance i = some state') :
    state'.Orderly ∧
      (state.Covered lib fromJson yaml → state'.Covered lib fromJson yaml) := by
  rw [advance] at hstep
  split at hstep
  · rename_i effect next hi
    cases hstep
    -- not yet at its end, so it sends after this call, whatever the call has read
    have hnext : (next state.db).SendsLast := by
      rcases horderly _ (List.mem_of_getElem? hi) with hsends | ⟨a, ha⟩
      · exact hsends state.db
      · exact absurd ha (by simp)
    have hlt := (List.getElem?_eq_some_iff.1 hi).1
    exact ⟨orderly_set horderly (.inl hnext) _ _,
      fun _ => .inl ⟨_, List.mem_set hlt _, hnext⟩⟩
  · rename_i next hi
    split at hstep
    · cases hstep
      have hnext : ∃ a, next = .ok a := by
        rcases horderly _ (List.mem_of_getElem? hi) with hsends | ⟨a, ha⟩
        · exact hsends
        · exact absurd ha (by simp)
      exact ⟨orderly_set horderly (.inr hnext) _ _, fun _ => .inr (.inl (Nat.succ_pos _))⟩
    · exact absurd hstep (by simp)
  · rename_i a hi
    cases hstep
    refine ⟨fun call hcall => horderly call (List.mem_of_mem_eraseIdx hcall), ?_⟩
    rintro (⟨call, hcall, hsends⟩ | hrest)
    · -- the call that returns is not the one that has still to send
      obtain ⟨j, hj⟩ := List.mem_iff_getElem?.1 hcall
      have hji : j ≠ i := by
        rintro rfl
        rw [hi, Option.some.injEq] at hj
        subst hj
        exact hsends
      exact .inl ⟨call, List.mem_eraseIdx_iff_getElem?.2 ⟨j, hji, hj⟩, hsends⟩
    · exact .inr hrest
  · exact absurd hstep (by simp)
  · exact absurd hstep (by simp)

/-! ### Steps of the reload task -/

/-- A message is consumed, and the reads that start see everything written so far. -/
theorem covered_receive {state : ReloadState} (channel : Nat) :
    Covered lib fromJson yaml { state with channel := channel, phase := .reading readTables } :=
  .inr (.inr ⟨readOnly_readTables, run_readTables state.db⟩)

/-- The next read of a reload that is up to date. -/
theorem upToDate_read {state : ReloadState} {effect : Database → Database}
    {next : Database → Op Database String OperationalTables}
    (hphase : state.phase = .reading (.call effect next))
    (h : state.UpToDate lib fromJson yaml) :
    UpToDate lib fromJson yaml
      { state with db := effect state.db, phase := .reading (next state.db) } := by
  simp only [UpToDate, hphase] at h
  obtain ⟨⟨rfl, hnext⟩, hrun⟩ := h
  exact ⟨hnext state.db, hrun⟩

/-- What a reload has read when all reads are done. -/
theorem tables_eq_of_upToDate {state : ReloadState} {tables : OperationalTables}
    (hphase : state.phase = .reading (.ok tables)) (h : state.UpToDate lib fromJson yaml) :
    tables = .ofDatabase state.db := by
  simp only [UpToDate, hphase, Op.run, Prod.mk.injEq, Except.ok.injEq] at h
  exact h.2.1

/-- A step of the reload task that touches neither the calls nor the channel need only keep the
reload up to date. -/
theorem covered_of_upToDate {state state' : ReloadState} (hcalls : state'.calls = state.calls)
    (hchannel : state'.channel = state.channel)
    (hupToDate : state.UpToDate lib fromJson yaml → state'.UpToDate lib fromJson yaml)
    (h : state.Covered lib fromJson yaml) : state'.Covered lib fromJson yaml := by
  rw [Covered, hcalls, hchannel]
  exact h.imp_right (.imp_right hupToDate)

theorem covered_build {state state' : ReloadState} {environment : ReloadEnvironment}
    (hstep : step lib fromJson yaml state (.build environment) = some state') :
    state'.calls = state.calls ∧
      (state.Covered lib fromJson yaml → state'.Covered lib fromJson yaml) := by
  simp only [step] at hstep
  split at hstep
  · rename_i tables hphase
    split at hstep
    · rename_i pipeline hbuild
      cases hstep
      refine ⟨rfl, covered_of_upToDate rfl rfl fun h => ?_⟩
      have htables := tables_eq_of_upToDate hphase h
      refine ⟨⟨tables, environment⟩, rfl, htables, fun pipeline' hbuild' => ?_⟩
      rw [htables] at hbuild
      exact Except.ok.inj (hbuild.symm.trans hbuild')
    · rename_i error hbuild
      cases hstep
      refine ⟨rfl, covered_of_upToDate rfl rfl fun h => ?_⟩
      have htables := tables_eq_of_upToDate hphase h
      refine ⟨⟨tables, environment⟩, rfl, htables, fun pipeline' hbuild' => ?_⟩
      rw [htables] at hbuild
      exact absurd (hbuild.symm.trans hbuild') (by simp)
  · exact absurd hstep (by simp)

/-! ### All steps -/

/-- One step keeps the calls orderly and what is written covered. -/
theorem inv_step {state state' : ReloadState} {l : ReloadStep} (horderly : state.Orderly)
    (hstep : step lib fromJson yaml state l = some state') :
    state'.Orderly ∧
      (state.Covered lib fromJson yaml → state'.Covered lib fromJson yaml) := by
  cases l with
  | start mutation =>
      cases hstep
      refine ⟨fun call hcall => ?_, ?_⟩
      · rcases List.mem_append.1 hcall with hcall | hcall
        · exact horderly call hcall
        · rw [List.mem_singleton.1 hcall]
          exact .inl (mutation.sendsLast lib)
      · rintro (⟨call, hcall, hsends⟩ | hrest)
        · exact .inl ⟨call, List.mem_append_left _ hcall, hsends⟩
        · exact .inr hrest
  | advance i => exact inv_advance horderly hstep
  | request =>
      simp only [step] at hstep
      split at hstep
      · cases hstep
        exact ⟨horderly, fun _ => .inr (.inl (Nat.succ_pos _))⟩
      · exact absurd hstep (by simp)
  | receive =>
      simp only [step] at hstep
      split at hstep
      · cases hstep
        exact ⟨horderly, fun _ => covered_receive _⟩
      · exact absurd hstep (by simp)
  | read =>
      simp only [step] at hstep
      split at hstep
      · rename_i hphase
        cases hstep
        exact ⟨horderly, covered_of_upToDate rfl rfl (upToDate_read hphase)⟩
      · exact absurd hstep (by simp)
  | build environment =>
      obtain ⟨hcalls, hcovered⟩ := covered_build hstep
      exact ⟨by rwa [Orderly, hcalls], hcovered⟩
  | install =>
      simp only [step] at hstep
      split at hstep
      · rename_i pipeline hphase
        cases hstep
        refine ⟨horderly, covered_of_upToDate rfl rfl fun h => ?_⟩
        simp only [UpToDate, hphase] at h
        exact h
      · exact absurd hstep (by simp)

/-- Starting a mutation makes everything covered: its message is still to come. -/
theorem covered_start {state state' : ReloadState} {mutation : Mutation}
    (hstep : step lib fromJson yaml state (.start mutation) = some state') :
    state'.Covered lib fromJson yaml := by
  cases hstep
  exact .inl ⟨_, List.mem_append_right _ (List.mem_singleton_self _), mutation.sendsLast lib⟩

/-- From the first mutation on, every state is covered. -/
theorem covered_of_run {db : Database} {slot : ReloadedConfig} {ls : List ReloadStep}
    {state : ReloadState} (hrun : run (step lib fromJson yaml) (initial db slot) ls = some state)
    (hmutation : ∃ mutation, .start mutation ∈ ls) : state.Covered lib fromJson yaml := by
  obtain ⟨mutation, hmem⟩ := hmutation
  obtain ⟨pre, post, rfl⟩ := List.append_of_mem hmem
  rw [run_append, Option.bind_eq_some_iff] at hrun
  obtain ⟨before, hpre, hrest⟩ := hrun
  obtain ⟨started, hstart, hpost⟩ := run_cons_eq_some.1 hrest
  have horderly : before.Orderly :=
    run_invariant (fun _ _ _ h hs => (inv_step h hs).1) hpre
      (fun call hcall => absurd hcall (by simp [initial]))
  have hstarted : started.Orderly ∧ started.Covered lib fromJson yaml :=
    ⟨(inv_step horderly hstart).1, covered_start hstart⟩
  exact (run_invariant (fun _ _ _ h hs => (inv_step h.1 hs).imp_right fun k => k h.2) hpost
    hstarted).2

/-- **No write is missed.** In every run that calls mutations, in whatever order their steps and
those of the reload task are interleaved, every quiescent state has a last reload; it has read
exactly the current tables, and if it could build from them, the installed pipeline is the one
built. -/
theorem quiescent_reload_current (lib : Libraries) (fromJson : String → Option CachedListDocument)
    (yaml : DnsFilterConfig) {db : Database} {slot : ReloadedConfig} {ls : List ReloadStep}
    {state : ReloadState} (hrun : run (step lib fromJson yaml) (initial db slot) ls = some state)
    (hmutation : ∃ mutation, .start mutation ∈ ls) (hquiet : state.Quiescent) :
    ∃ reload, state.last = some reload ∧
      reload.tables = OperationalTables.ofDatabase state.db ∧
      ∀ pipeline, buildReloaded lib fromJson yaml reload.environment
        (OperationalTables.ofDatabase state.db) = .ok pipeline → state.slot = pipeline := by
  obtain ⟨hcalls, hchannel, hphase⟩ := hquiet
  rcases covered_of_run hrun hmutation with ⟨call, hcall, -⟩ | hmessage | hupToDate
  · rw [hcalls] at hcall
    exact absurd hcall (by simp)
  · omega
  · simp only [UpToDate, hphase] at hupToDate
    exact hupToDate

/-! ### A concrete run -/

/-- No list document is cached, and nothing can be fetched. -/
def offline : ReloadEnvironment where
  filterCache _ := .ok none
  loaders := {
    loadSnapshot := fun _ _ _ => .error "failed to fetch zone source"
    discoveryEntries := fun _ _ _ => .error "failed to fetch zone index" }

/-- A pipeline with one upstream server and nothing to filter. -/
def onlyUpstream : ReloadedConfig where
  resolver :=
    { resolvers := [{ client := .dns ⟨.v4 ⟨1, 1, 1, 1⟩, 53, 0⟩ }]
      strategy := .roundRobin
      cache := none }
  filter :=
    { sinkholeV4 := ⟨0, 0, 0, 0⟩, sinkholeV6 := .ofSegments [], runtimes := [], lists := ∅,
      snapshot := {} }
  anyQueryPolicy := .notImp
  zoneEntries := []

/-- `add_upstream_server` runs and triggers a reload. After that has read the filter lists,
`add_filter_list` adds one, so a second reload is needed. -/
def overlappingMutations : List ReloadStep :=
  let server : Mutation := .addUpstreamServer numberedUuid
    { protocol := "dns", address := "9.9.9.9:53" }
  let list : Mutation := .addFilterList numberedUuid "block"
    { name := "ads", url := "https://lists.example/ads" }
  [.start server, .advance 0, .advance 0, .advance 0, .receive, .read, .advance 0,
    .start list, .advance 0, .advance 0, .read, .read, .read, .read, .read, .build offline,
    .advance 0, .install, .receive, .read, .read, .read, .read, .read, .read, .advance 0,
    .build offline, .install]

/-- A server is added, and a list while the first reload is reading. -/
theorem quiescent_reload_current_overlapping :
    ∃ state, run (step plainLibraries (fun _ => none) minimalConfig) (initial {} onlyUpstream)
        overlappingMutations = some state ∧
      state.Quiescent ∧ state.slot.filter.runtimes.map (·.name) = ["ads"] ∧
      ∃ reload, state.last = some reload ∧
        reload.tables = OperationalTables.ofDatabase state.db ∧
        ∀ pipeline, buildReloaded plainLibraries (fun _ => none) minimalConfig reload.environment
          (OperationalTables.ofDatabase state.db) = .ok pipeline → state.slot = pipeline := by
  have hany : (run (step plainLibraries (fun _ => none) minimalConfig) (initial {} onlyUpstream)
      overlappingMutations).any (fun state => state.quiescent &&
        decide (state.slot.filter.runtimes.map (·.name) = ["ads"])) = true := by decide +kernel
  obtain ⟨state, hrun, htest⟩ := exists_run_of_any hany
  rw [Bool.and_eq_true, decide_eq_true_eq, quiescent_iff] at htest
  exact ⟨state, hrun, htest.1, htest.2, quiescent_reload_current plainLibraries (fun _ => none)
    minimalConfig hrun ⟨_, List.mem_cons_self⟩ htest.1⟩

end ReloadState

end DnsFilter
