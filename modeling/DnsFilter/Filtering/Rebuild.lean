import DnsFilter.Filtering.Engine
import DnsFilter.Lib.Run

/-!
# Overlapping rebuilds

`enable_list`, `disable_list` and `refresh_single_list` run on several tasks at once. Each of them
changes a flag or a list and then calls `rebuild_snapshot`, which reads flags and lists, computes
a snapshot and publishes it. The lists' read lock is held from the computation to the
publication: it keeps list writers out, but neither flag stores nor other rebuilds.

* `RebuildState.step` — the atomic steps of these calls.
* `quiescent_snapshot_eq` — as long as no call publishes a snapshot that misses a change whose
  own call has already published, every quiescent state has the snapshot of its flags and lists.
* `stale_publish` — two overlapping calls that break this leave a wrong snapshot behind.
-/

namespace DnsFilter

open ListFilterEngine

/-- A call in progress. `changed` is the number of its own change, `computed` the snapshot it
computed with the number of the last change that computation saw. -/
structure RebuildCall where
  changed : Nat
  computed : Option (Nat × FilterSnapshot)
  deriving DecidableEq

/-- The engine with the calls in progress. `changes` counts the flag stores and list inserts so
far; `settled` is the last change whose call has published, and `seen` the last change that the
published snapshot saw. The three counters are not in the program: they only name which change is
which. -/
structure RebuildState where
  engine : ListFilterEngine
  calls : List RebuildCall
  changes : Nat
  settled : Nat
  seen : Nat

/-- The atomic steps. -/
inductive RebuildStep
  /-- `enable_list` or `disable_list` stores the flag. -/
  | store (name : String) (flag : Bool)
  /-- `refresh_single_list` inserts the content it fetched. -/
  | insert (name : String) (content : String)
  /-- A call enters `rebuild_snapshot`, reads flags and lists and computes. -/
  | compute (call : Nat)
  /-- A call publishes what it computed and returns. -/
  | publish (call : Nat)

namespace RebuildState

/-- A state between calls. -/
def Quiescent (state : RebuildState) : Prop := state.calls = []

/-- The snapshot is the one the current flags and lists give. -/
def UpToDate (state : RebuildState) : Prop :=
  state.engine.snapshot = computeSnapshot state.engine.runtimes state.engine.lists

/-- Does some call hold the read lock of the lists? -/
def readLocked (state : RebuildState) : Bool :=
  state.calls.any (·.computed.isSome)

/-- An engine before any call. -/
def initial (engine : ListFilterEngine) : RebuildState where
  engine := engine
  calls := []
  changes := 0
  settled := 0
  seen := 0

/-- A new call has made its change to the engine. -/
def begin (state : RebuildState) (engine : ListFilterEngine) : RebuildState :=
  { state with
    engine := engine
    calls := state.calls ++ [⟨state.changes + 1, none⟩]
    changes := state.changes + 1 }

/-- One atomic step; `none` if it cannot happen in this state. -/
def step (nameFromAscii : String → Bool) (state : RebuildState) : RebuildStep → Option RebuildState
  | .store name flag =>
      (setRuntimeDisabled name flag state.engine.runtimes).map fun runtimes =>
        state.begin { state.engine with runtimes := runtimes }
  | .insert name content =>
      -- the write lock waits for every rebuild that has read the lists
      if state.readLocked then none
      else (state.engine.runtimes.find? (·.name = name)).map fun runtime =>
        state.begin { state.engine with
          lists := state.engine.lists.insert runtime.key
            (loadedContent nameFromAscii runtime content) }
  | .compute i =>
      match state.calls[i]? with
      | some ⟨changed, none⟩ =>
          let snapshot := computeSnapshot state.engine.runtimes state.engine.lists
          some { state with
            calls := state.calls.set i ⟨changed, some (state.changes, snapshot)⟩ }
      | _ => none
  | .publish i =>
      match state.calls[i]? with
      | some ⟨changed, some (saw, snapshot)⟩ =>
          some { state with
            engine := { state.engine with snapshot := snapshot }
            calls := state.calls.eraseIdx i
            settled := max state.settled changed
            seen := saw }
      | _ => none

/-- The step does not publish a snapshot that misses a change whose call has already
published. -/
def inOrder (state : RebuildState) : RebuildStep → Bool
  | .publish i =>
      match state.calls[i]? with
      | some ⟨_, some (saw, _)⟩ => state.settled ≤ saw
      | _ => true
  | _ => true

/-! ## The invariant -/

/-- What the steps keep as long as they are in order. The last change is either settled or its
call is still under way; a computation that saw the last change has the current snapshot. -/
structure Inv (state : RebuildState) : Prop where
  current : ∀ call ∈ state.calls, ∀ snapshot, call.computed = some (state.changes, snapshot) →
    snapshot = computeSnapshot state.engine.runtimes state.engine.lists
  published : state.seen = state.changes → state.UpToDate
  settled_le : state.settled ≤ state.seen
  pending : state.settled = state.changes ∨ ∃ call ∈ state.calls, call.changed = state.changes
  bound : state.seen ≤ state.changes ∧ ∀ call ∈ state.calls, call.changed ≤ state.changes ∧
    ∀ saw snapshot, call.computed = some (saw, snapshot) → call.changed ≤ saw ∧ saw ≤ state.changes

theorem inv_initial {engine : ListFilterEngine} (h : (initial engine).UpToDate) :
    Inv (initial engine) where
  current call hcall := absurd hcall (by simp [initial])
  published _ := h
  settled_le := Nat.le_refl _
  pending := .inl rfl
  bound := ⟨Nat.le_refl _, fun call hcall => absurd hcall (by simp [initial])⟩

/-- A new change makes every computation and the published snapshot old. -/
theorem inv_begin {state : RebuildState} (h : Inv state) (engine : ListFilterEngine) :
    Inv (state.begin engine) := by
  obtain ⟨hseen, hcalls⟩ := h.bound
  refine ⟨fun call hcall snapshot hcomp => ?_, fun hs => ?_, h.settled_le, .inr ?_, ?_, ?_⟩
  · rcases List.mem_append.1 hcall with hcall | hcall
    · have := ((hcalls call hcall).2 _ _ hcomp).2
      simp only [begin] at this
      omega
    · rw [List.mem_singleton] at hcall
      subst hcall
      exact absurd hcomp (by simp)
  · simp only [begin] at hs
    omega
  · exact ⟨_, List.mem_append_right _ (List.mem_singleton_self _), rfl⟩
  · exact Nat.le_succ_of_le hseen
  · intro call hcall
    rcases List.mem_append.1 hcall with hcall | hcall
    · obtain ⟨hchanged, hcomp⟩ := hcalls call hcall
      exact ⟨Nat.le_succ_of_le hchanged, fun saw snapshot hc =>
        ⟨(hcomp saw snapshot hc).1, Nat.le_succ_of_le (hcomp saw snapshot hc).2⟩⟩
    · rw [List.mem_singleton] at hcall
      subst hcall
      exact ⟨Nat.le_refl _, fun saw snapshot hc => absurd hc (by simp)⟩

theorem inv_compute {state : RebuildState} (h : Inv state) {i changed : Nat}
    (hi : state.calls[i]? = some ⟨changed, none⟩) :
    Inv { state with
      calls := state.calls.set i ⟨changed, some (state.changes,
        computeSnapshot state.engine.runtimes state.engine.lists)⟩ } := by
  obtain ⟨hseen, hcalls⟩ := h.bound
  have hold : (⟨changed, none⟩ : RebuildCall) ∈ state.calls := List.mem_of_getElem? hi
  refine ⟨fun call hcall snapshot hcomp => ?_, h.published, h.settled_le, ?_, hseen, ?_⟩
  · rcases List.mem_or_eq_of_mem_set hcall with hcall | rfl
    · exact h.current call hcall snapshot hcomp
    · simpa using hcomp.symm
  · refine h.pending.imp_right ?_
    rintro ⟨call, hcall, hlast⟩
    obtain ⟨j, hj⟩ := List.mem_iff_getElem?.1 hcall
    by_cases hij : i = j
    · subst hij
      rw [hi, Option.some.injEq] at hj
      subst hj
      have hlt := (List.getElem?_eq_some_iff.1 hi).1
      exact ⟨_, List.mem_set hlt _, hlast⟩
    · refine ⟨call, List.mem_of_getElem? (i := j) ?_, hlast⟩
      rw [List.getElem?_set_ne hij, hj]
  · intro call hcall
    rcases List.mem_or_eq_of_mem_set hcall with hcall | rfl
    · exact hcalls call hcall
    · refine ⟨(hcalls _ hold).1, fun saw snapshot hc => ?_⟩
      simp only [Option.some.injEq, Prod.mk.injEq] at hc
      exact ⟨hc.1 ▸ (hcalls _ hold).1, hc.1 ▸ Nat.le_refl _⟩

theorem inv_publish {state : RebuildState} (h : Inv state) {i changed saw : Nat}
    {snapshot : FilterSnapshot} (hi : state.calls[i]? = some ⟨changed, some (saw, snapshot)⟩)
    (horder : state.settled ≤ saw) :
    Inv { state with
      engine := { state.engine with snapshot := snapshot }
      calls := state.calls.eraseIdx i
      settled := max state.settled changed
      seen := saw } := by
  obtain ⟨hseen, hcalls⟩ := h.bound
  have hmem : (⟨changed, some (saw, snapshot)⟩ : RebuildCall) ∈ state.calls :=
    List.mem_of_getElem? hi
  have hsub := List.eraseIdx_sublist state.calls i
  have hchanged : changed ≤ state.changes := (hcalls _ hmem).1
  have hbounds := (hcalls _ hmem).2 saw snapshot rfl
  refine ⟨fun call hcall => h.current call (hsub.subset hcall), fun hs => ?_,
    by simp only [max_le_iff]; exact ⟨horder, hbounds.1⟩, ?_, hbounds.2,
    fun call hcall => hcalls call (hsub.subset hcall)⟩
  · simp only at hs
    subst hs
    exact h.current _ hmem snapshot rfl
  · rcases h.pending with hlast | ⟨call, hcall, hlast⟩
    · left
      simp only
      omega
    · obtain ⟨j, hj⟩ := List.mem_iff_getElem?.1 hcall
      by_cases hij : j = i
      · subst hij
        rw [hi, Option.some.injEq] at hj
        subst hj
        left
        simp only at hlast ⊢
        have := h.settled_le
        omega
      · right
        exact ⟨call, List.mem_eraseIdx_iff_getElem?.2 ⟨j, hij, hj⟩, hlast⟩

/-- One step in order keeps the invariant. -/
theorem inv_step {nameFromAscii : String → Bool} {state state' : RebuildState} {l : RebuildStep}
    (h : Inv state) (horder : state.inOrder l = true)
    (hstep : step nameFromAscii state l = some state') : Inv state' := by
  cases l with
  | store name flag =>
      obtain ⟨runtimes, -, rfl⟩ := Option.map_eq_some_iff.1 hstep
      exact inv_begin h _
  | insert name content =>
      simp only [step] at hstep
      split at hstep
      · exact absurd hstep (by simp)
      · obtain ⟨runtime, -, rfl⟩ := Option.map_eq_some_iff.1 hstep
        exact inv_begin h _
  | compute i =>
      simp only [step] at hstep
      split at hstep
      · rename_i hi
        rw [Option.some.injEq] at hstep
        exact hstep ▸ inv_compute h hi
      · exact absurd hstep (by simp)
  | publish i =>
      simp only [step] at hstep
      split at hstep
      · rename_i hi
        rw [Option.some.injEq] at hstep
        exact hstep ▸ inv_publish h hi (by simpa [inOrder, hi] using horder)
      · exact absurd hstep (by simp)

/-- **Rebuilds in order.** In every run that starts between calls with a snapshot that is up to
date, and in which no call publishes a snapshot that misses a change whose own call has already
published, the snapshot is up to date in every quiescent state reached. -/
theorem quiescent_snapshot_eq {nameFromAscii : String → Bool} {engine : ListFilterEngine}
    (hstart : engine.snapshot = computeSnapshot engine.runtimes engine.lists)
    {ls : List RebuildStep} {state : RebuildState}
    (hrun : run (step nameFromAscii) (initial engine) ls = some state)
    (horder : AllSteps (step nameFromAscii) (inOrder · ·) (initial engine) ls)
    (hquiet : state.Quiescent) :
    state.engine.snapshot = computeSnapshot state.engine.runtimes state.engine.lists := by
  have hinv : Inv state :=
    run_invariant_of_allSteps (fun _ _ _ h ho hs => inv_step h ho hs) hrun horder
      (inv_initial hstart)
  refine hinv.published ?_
  -- no call is left, so the last change is settled and the published snapshot saw it
  have hsettled : state.settled = state.changes := by
    refine hinv.pending.resolve_right ?_
    rintro ⟨call, hcall, -⟩
    rw [hquiet] at hcall
    exact absurd hcall (by simp)
  have := hinv.settled_le
  have := hinv.bound.1
  omega

/-- An engine with two block lists, nothing loaded yet. -/
def twoBlockLists : ListFilterEngine where
  sinkholeV4 := ⟨0, 0, 0, 0⟩
  sinkholeV6 := .ofSegments []
  runtimes := ["ads", "trackers"].map fun name =>
    { key := listKey .block name, name := name, url := "https://lists.example/" ++ name,
      interval := 3600, kind := .block, format := .domains, runtimeDisabled := false }
  lists := ∅
  snapshot := {}

/-- Both lists are loaded one after the other. -/
def loadBoth : List RebuildStep :=
  [.insert "ads" "ads.example", .compute 0, .publish 0,
    .insert "trackers" "tracker.example", .compute 0, .publish 0]

/-- Then two calls of `disable_list` overlap: the first computes before the second stores its flag.
They publish in the order in which they computed. -/
def disableBoth : List RebuildStep :=
  loadBoth ++ ([.store "ads" true, .compute 0, .store "trackers" true, .compute 1, .publish 0,
    .publish 0] : List RebuildStep)

theorem quiescent_snapshot_eq_disableBoth :
    ∃ state, run (step fun _ => true) (initial twoBlockLists) disableBoth = some state ∧
      state.engine.decideDomain "cdn.ads.example" = .neutral ∧
      state.engine.decideDomain "cdn.tracker.example" = .neutral ∧
      state.engine.snapshot = computeSnapshot state.engine.runtimes state.engine.lists := by
  have hany : (run (step fun _ => true) (initial twoBlockLists) disableBoth).any
      (fun state => state.calls = [] ∧
        state.engine.decideDomain "cdn.ads.example" = .neutral ∧
        state.engine.decideDomain "cdn.tracker.example" = .neutral) = true := by decide +kernel
  obtain ⟨state, hrun, htest⟩ := exists_run_of_any hany
  obtain ⟨hquiet, hads, htrackers⟩ := of_decide_eq_true htest
  exact ⟨state, hrun, hads, htrackers,
    quiescent_snapshot_eq (by decide +kernel) hrun (by decide +kernel) hquiet⟩

/-- The same calls, but the second one publishes first. -/
def overlappingDisables : List RebuildStep :=
  loadBoth ++ ([.store "ads" true, .compute 0, .store "trackers" true, .compute 1, .publish 1,
    .publish 0] : List RebuildStep)

theorem stale_publish :
    ¬ ∀ engine : ListFilterEngine,
        engine.snapshot = computeSnapshot engine.runtimes engine.lists →
        ∀ ls state, run (step fun _ => true) (initial engine) ls = some state →
          state.Quiescent →
          state.engine.snapshot = computeSnapshot state.engine.runtimes state.engine.lists := by
  intro h
  have hany : (run (step fun _ => true) (initial twoBlockLists) overlappingDisables).any
      (fun state => state.calls = [] ∧ state.engine.snapshot ≠
        computeSnapshot state.engine.runtimes state.engine.lists) = true := by decide +kernel
  obtain ⟨state, hrun, htest⟩ := exists_run_of_any hany
  obtain ⟨hquiet, hstale⟩ := of_decide_eq_true htest
  exact hstale (h twoBlockLists (by decide +kernel) overlappingDisables state hrun hquiet)

end RebuildState

end DnsFilter
