import DnsFilter.EditProof
import DnsFilter.Filtering.EngineProof
import DnsFilter.Lib.Run

/-!
# Do stored list intervals stay usable?

The interval of a filter list is read from the API by `parse_interval_secs`, stored as a number of
seconds, written into the configuration as `{n}s` and read again by `parse_interval`; the result
is the period of the list's refresh task. A negative number is rejected by the second parser and
fails the build of the engine; a zero period makes the timer panic.

* `intervalsSafe_iff` — which stored numbers are fine.
* `intervals_stay_safe_iff` — which calls keep them fine, over any sequence of calls.
-/

namespace DnsFilter

open Table Numeral

/-! ## What a successful call did -/

/-- The calls that write an interval. -/
inductive FilterListMutation
  | add (newUuid : Nat → String) (kind : String) (input : CreateFilterListInput)
  | update (name : String) (input : UpdateFilterListInput)

def FilterListMutation.toMutation : FilterListMutation → Mutation
  | .add newUuid kind input => .addFilterList newUuid kind input
  | .update name input => .updateFilterList name input

/-- A call that returns `Ok`. -/
def FilterListMutation.step (lib : Libraries) (db : Database) (m : FilterListMutation) :
    Option Database :=
  Mutation.step lib db m.toMutation

theorem step_add {lib : Libraries} {db db' : Database} {newUuid : Nat → String} {kind : String}
    {input : CreateFilterListInput}
    (h : FilterListMutation.step lib db (.add newUuid kind input) = some db') :
    db' = { db with filterLists := db.filterLists ++ [newFilterList newUuid kind input] } := by
  obtain ⟨_, h⟩ := run_discard_eq_ok.1 (Mutation.step_eq_some.1 h)
  obtain ⟨_, -, h⟩ := Op.run_ofExcept_bind_eq_ok.1 h
  obtain ⟨_, -, h⟩ := Op.run_ofExcept_bind_eq_ok.1 h
  have hcreate := statement_eq_ok.1 (run_repo_finish_eq_ok.1 h).1
  split at hcreate
  · obtain ⟨rows, hrows, rfl⟩ := Option.map_eq_some_iff.1 hcreate
    obtain ⟨-, rfl⟩ := insertRow_eq_some.1 hrows
    rfl
  · exact absurd hcreate (by simp)

theorem step_update {lib : Libraries} {db db' : Database} {name : String}
    {input : UpdateFilterListInput}
    (h : FilterListMutation.step lib db (.update name input) = some db') :
    ∃ record edited, FilterLists.getByName name db = some record ∧
      editFilterList input record = .ok edited ∧
        db' = { db with filterLists := updateRows (·.id) edited db.filterLists } := by
  obtain ⟨_, h⟩ := run_discard_eq_ok.1 (Mutation.step_eq_some.1 h)
  obtain ⟨record, hget, h⟩ := run_fetch_bind_eq_ok.1 h
  obtain ⟨edited, hedit, h⟩ := Op.run_ofExcept_bind_eq_ok.1 h
  have hupdate := statement_eq_ok.1 (run_repo_finish_eq_ok.1 h).1
  split at hupdate
  · exact absurd hupdate (by simp)
  · exact ⟨record, edited, hget, hedit, (Option.some.inj hupdate).symm⟩

/-- The interval that an update leaves in the record. -/
def UpdateFilterListInput.intervalSeconds (input : UpdateFilterListInput)
    (record : FilterListRecord) : Int :=
  match input.interval with
  | some interval => parseIntervalSecs (some interval)
  | none => record.intervalSeconds

theorem editFilterList_eq_ok {input : UpdateFilterListInput} {record edited : FilterListRecord}
    (h : editFilterList input record = .ok edited) :
    edited.id = record.id ∧ edited.enabled = input.enabled.getD record.enabled ∧
      edited.intervalSeconds = input.intervalSeconds record := by
  rw [editFilterList_eq] at h
  rw [eq_of_check_pure _ h]
  refine ⟨rfl, rfl, ?_⟩
  show input.seconds.getD record.intervalSeconds = _
  unfold UpdateFilterListInput.seconds UpdateFilterListInput.intervalSeconds
  cases input.interval with
  | none => rfl
  | some interval => rfl

/-! ## What a stored interval has to be -/

/-- The intervals of a database are safe: each is accepted when it is read back, the check in
`build_domain_filter_with_cache` passes, no enabled list has the period zero, and no timer of an
engine that is built is given one. -/
structure IntervalsSafe (db : Database) : Prop where
  reads : ∀ list ∈ db.filterLists, Succeeds (parseInterval (formatSeconds list.intervalSeconds))
  checked : ∀ config, ∀ list ∈ (applyDbConfig config (.ofDatabase db)).blocklists ++
    (applyDbConfig config (.ofDatabase db)).allowlists, checkListInterval list = .ok ()
  periods : ∀ list ∈ db.filterLists, list.enabled → listInterval list.toNamedList ≠ .ok 0
  timers : ∀ fromJson config cacheRepo engine,
    buildDomainFilterWithCache fromJson (applyDbConfig config (.ofDatabase db)) cacheRepo =
      .ok engine → ∀ period ∈ engine.backgroundRefreshPeriods, period ≠ 0

/-- The same for a single record, as a condition on the number. -/
def FilterListRecord.IntervalOk (list : FilterListRecord) : Prop :=
  0 ≤ list.intervalSeconds ∧ list.intervalSeconds < 2 ^ 64 ∧
    (list.enabled → list.intervalSeconds ≠ 0)

theorem listInterval_toNamedList (list : FilterListRecord) :
    listInterval list.toNamedList = (parseInterval (formatSeconds list.intervalSeconds)).mapError
      fun _ => "invalid interval for list '" ++ list.name ++ "': '" ++
        formatSeconds list.intervalSeconds ++ "'" :=
  rfl

/-- The lists of the configuration are the stored ones. -/
theorem exists_of_mem_lists {config : DnsFilterConfig} {db : Database} {list : NamedList}
    (h : list ∈ (applyDbConfig config (.ofDatabase db)).blocklists ++
      (applyDbConfig config (.ofDatabase db)).allowlists) :
    ∃ record ∈ db.filterLists, record.toNamedList = list := by
  have hstored {kind : String} (h : list ∈ ((FilterLists.getAll db).filter (·.kind = kind)).map
      (·.toNamedList)) : ∃ record ∈ db.filterLists, record.toNamedList = list := by
    obtain ⟨record, hrecord, rfl⟩ := List.mem_map.1 h
    exact ⟨record, (List.perm_insertionSort _ _).mem_iff.1 (List.mem_filter.1 hrecord).1, rfl⟩
  exact (List.mem_append.1 h).elim hstored hstored

/-- The periods of an engine are the intervals of the enabled lists. -/
theorem exists_of_mem_periods {fromJson : String → Option CachedListDocument}
    {config : DnsFilterConfig}
    {cacheRepo : Option (String → Except String (Option FilterCacheDocumentRecord))}
    {engine : ListFilterEngine}
    (h : ListFilterEngine.fromConfigWithCache fromJson config cacheRepo = .ok engine) {period : Nat}
    (hperiod : period ∈ engine.backgroundRefreshPeriods) :
    ∃ list ∈ config.blocklists ++ config.allowlists, list.enabled.getD true ∧
      listInterval list = .ok period := by
  obtain ⟨runtime, hruntime, rfl⟩ := List.mem_map.1 hperiod
  obtain ⟨blocks, allows, hblocks, hallows, hruntimes⟩ :=
    fromConfigWithCache_runtimes h
  have hbuilt {lists : List NamedList} {kind : ListKind} {runtimes : List ListRuntime}
      (hbuild : buildRuntimes lists kind = .ok runtimes) (hmem : runtime ∈ runtimes) :
      ∃ list ∈ lists, list.enabled.getD true ∧ listInterval list = .ok runtime.interval := by
    obtain ⟨list, hlist, hruntime⟩ := exists_of_mem_mapM hbuild hmem
    obtain ⟨interval, hinterval, hrest⟩ := bind_eq_ok.1 hruntime
    obtain ⟨format, -, hrest⟩ := bind_eq_ok.1 hrest
    obtain rfl := Except.ok.inj hrest
    exact ⟨list, (List.mem_filter.1 hlist).1, (List.mem_filter.1 hlist).2, hinterval⟩
  rw [hruntimes] at hruntime
  rcases List.mem_append.1 hruntime with hmem | hmem
  · obtain ⟨list, hlist, hen⟩ := hbuilt hblocks hmem
    exact ⟨list, List.mem_append_left _ hlist, hen⟩
  · obtain ⟨list, hlist, hen⟩ := hbuilt hallows hmem
    exact ⟨list, List.mem_append_right _ hlist, hen⟩

theorem intervalsSafe_iff {db : Database} :
    IntervalsSafe db ↔ ∀ list ∈ db.filterLists, list.IntervalOk := by
  constructor
  · intro h list hlist
    obtain ⟨secs, hsecs⟩ := h.reads list hlist
    obtain ⟨h0, hlt, rfl⟩ := parseInterval_formatSeconds.1 hsecs
    refine ⟨h0, hlt, fun hen hzero => h.periods list hlist hen ?_⟩
    rw [listInterval_toNamedList, hsecs, hzero]
    rfl
  · intro h
    have hreads (list : FilterListRecord) (hlist : list ∈ db.filterLists) :
        parseInterval (formatSeconds list.intervalSeconds) = .ok list.intervalSeconds.toNat :=
      parseInterval_formatSeconds.2 ⟨(h list hlist).1, (h list hlist).2.1, rfl⟩
    have hperiods (list : FilterListRecord) (hlist : list ∈ db.filterLists) (hen : list.enabled) :
        listInterval list.toNamedList ≠ .ok 0 := by
      rw [listInterval_toNamedList, hreads list hlist]
      intro hzero
      have hzero : list.intervalSeconds.toNat = 0 := Except.ok.inj hzero
      have := (h list hlist).1
      exact (h list hlist).2.2 hen (by omega)
    refine ⟨fun list hlist => ⟨_, hreads list hlist⟩, fun config list hlist => ?_, hperiods,
      fun fromJson config cacheRepo engine hbuild period hperiod hzero => ?_⟩
    · obtain ⟨record, hrecord, rfl⟩ := exists_of_mem_lists hlist
      simp only [checkListInterval, FilterListRecord.toNamedList, hreads record hrecord]
    · obtain ⟨_, -, hengine⟩ := bind_eq_ok.1 hbuild
      obtain ⟨list, hlist, hen, hinterval⟩ := exists_of_mem_periods hengine hperiod
      obtain ⟨record, hrecord, rfl⟩ := exists_of_mem_lists hlist
      exact hperiods record hrecord hen (hzero ▸ hinterval)

/-! ## Which calls keep the intervals safe -/

/-- The condition on a call: the interval that it gives is usable; without an interval in the
call, a list that it leaves enabled has a stored interval other than zero. -/
def FilterListMutation.Fits (db : Database) : FilterListMutation → Prop
  | .add _ _ input => UsableInterval input.interval (input.enabled.getD true)
  | .update name input =>
      ∀ record ∈ db.filterLists, record.name = name →
        if input.interval.isSome then
          UsableInterval input.interval (input.enabled.getD record.enabled)
        else input.enabled.getD record.enabled → record.intervalSeconds ≠ 0

section Steps

variable {lib : Libraries} {db db' : Database}

theorem intervalOk_of_parse {list : FilterListRecord} {interval : Option String}
    (h : list.intervalSeconds = parseIntervalSecs interval) :
    list.IntervalOk ↔ UsableInterval interval list.enabled := by
  have hlt := parseIntervalSecs_lt interval
  rw [FilterListRecord.IntervalOk, usableInterval_iff, h]
  exact ⟨fun h => ⟨h.1, h.2.2⟩, fun h => ⟨h.1, by omega, h.2⟩⟩

theorem intervalsSafe_step (hvalid : db.Valid) (h : IntervalsSafe db) {m : FilterListMutation}
    (hstep : FilterListMutation.step lib db m = some db') : IntervalsSafe db' ↔ m.Fits db := by
  rw [intervalsSafe_iff] at h ⊢
  cases m with
  | add newUuid kind input =>
      rw [step_add hstep, List.forall_mem_append, List.forall_mem_singleton]
      exact (and_iff_right h).trans (intervalOk_of_parse rfl)
  | update name input =>
      obtain ⟨record, edited, hget, hedit, rfl⟩ := step_update hstep
      obtain ⟨hid, hen, hsecs⟩ := editFilterList_eq_ok hedit
      have hrecord : record ∈ db.filterLists := List.mem_of_find?_eq_some hget
      obtain rfl : record.name = name := by simpa using List.find?_some hget
      have hall : (∀ list ∈ updateRows (·.id) edited db.filterLists, list.IntervalOk) ↔
          edited.IntervalOk := by
        refine ⟨fun hall => hall edited (mem_updateRows.2 (.inl ⟨rfl, record, hrecord, hid.symm⟩)),
          fun hedited list hlist => ?_⟩
        rcases mem_updateRows.1 hlist with ⟨rfl, -⟩ | ⟨hlist, -⟩
        · exact hedited
        · exact h list hlist
      have honly : (FilterListMutation.update record.name input).Fits db ↔
          if input.interval.isSome then
            UsableInterval input.interval (input.enabled.getD record.enabled)
          else input.enabled.getD record.enabled → record.intervalSeconds ≠ 0 := by
        refine ⟨fun hfits => hfits record hrecord rfl, fun hfits r hr hname => ?_⟩
        rw [hvalid.filterListName.eq_of_key hr hrecord hname]
        exact hfits
      rw [hall, honly, ← hen]
      cases hinterval : input.interval with
      | some text =>
          rw [UpdateFilterListInput.intervalSeconds, hinterval] at hsecs
          exact intervalOk_of_parse hsecs
      | none =>
          rw [UpdateFilterListInput.intervalSeconds, hinterval] at hsecs
          have hstored := h record hrecord
          rw [FilterListRecord.IntervalOk, hsecs]
          exact ⟨fun hok => hok.2.2, fun hne => ⟨hstored.1, hstored.2.1, hne⟩⟩

end Steps

/-- **Along any sequence of successful calls the stored intervals stay safe exactly if every call
meets the condition.** -/
theorem intervals_stay_safe_iff (lib : Libraries) {db db' : Database} {ms : List FilterListMutation}
    (hvalid : db.Valid) (hsafe : IntervalsSafe db)
    (hrun : run (FilterListMutation.step lib) db ms = some db') :
    (∀ pre, pre <+: ms → ∀ u, run (FilterListMutation.step lib) db pre = some u →
      IntervalsSafe u) ↔
      AllSteps (FilterListMutation.step lib) (fun s m => m.Fits s) db ms := by
  have hinv : ∀ s m s', s.Valid → FilterListMutation.step lib s m = some s' → s'.Valid :=
    fun _ _ _ h hstep => Mutation.step_valid h hstep
  exact forall_reached_iff_allSteps hinv
    (fun _ _ _ hs hP hstep => intervalsSafe_step hs hP hstep) hrun hvalid hsafe

/-! ### Concrete calls -/

/-- `add_filter_list` for the list "ads" with the given interval. -/
def addAds (interval : String) : FilterListMutation :=
  .add (fun _ => "list-ads") "block"
    { name := "ads", url := "https://lists.example/ads.txt", interval := some interval }

theorem intervalsSafe_empty : IntervalsSafe {} :=
  intervalsSafe_iff.2 fun _ h => absurd h (by simp)

theorem intervals_stay_safe_sixHours :
    ∃ db', run (FilterListMutation.step plainLibraries) {} [addAds "6h"] = some db' ∧
      ∀ pre, pre <+: [addAds "6h"] → ∀ u,
        run (FilterListMutation.step plainLibraries) {} pre = some u → IntervalsSafe u := by
  have hany : (run (FilterListMutation.step plainLibraries) {} [addAds "6h"]).any
      (fun _ => true) = true := by decide +kernel
  obtain ⟨db', hrun, -⟩ := exists_run_of_any hany
  refine ⟨db', hrun, (intervals_stay_safe_iff plainLibraries valid_empty intervalsSafe_empty
    hrun).2 ⟨?_, fun _ _ => trivial⟩⟩
  exact usableInterval_iff.2 ⟨by decide +kernel, fun _ => by decide +kernel⟩

/-- Is zero among the periods of the engine that the database gives? -/
def hasZeroPeriod (db : Database) : Bool :=
  match buildDomainFilterWithCache (fun _ => none) (applyDbConfig minimalConfig (.ofDatabase db))
      none with
  | .ok engine => engine.backgroundRefreshPeriods.contains 0
  | .error _ => false

theorem not_intervalsSafe_of_zeroPeriod {db : Database} (h : hasZeroPeriod db = true) :
    ¬ IntervalsSafe db := by
  intro hsafe
  rw [hasZeroPeriod] at h
  split at h
  · rename_i engine hbuild
    exact hsafe.timers _ _ _ engine hbuild 0 (by simpa using h) rfl
  · exact absurd h (by simp)

/-- With the interval "0s" the engine is built and its timer gets the period zero; with "-5s" the
stored interval is rejected when it is read back. -/
theorem accepted_interval_not_safe :
    ({} : Database).Valid ∧ IntervalsSafe {} ∧
      (∃ db', run (FilterListMutation.step plainLibraries) {} [addAds "0s"] = some db' ∧
        hasZeroPeriod db' = true ∧ ¬ IntervalsSafe db') ∧
      ∃ db', run (FilterListMutation.step plainLibraries) {} [addAds "-5s"] = some db' ∧
        ¬ ∀ list ∈ db'.filterLists,
          Succeeds (parseInterval (formatSeconds list.intervalSeconds)) := by
  refine ⟨valid_empty, intervalsSafe_empty, ?_, ?_⟩
  · have hany : (run (FilterListMutation.step plainLibraries) {} [addAds "0s"]).any
        hasZeroPeriod = true := by decide +kernel
    obtain ⟨db', hrun, hzero⟩ := exists_run_of_any hany
    exact ⟨db', hrun, hzero, not_intervalsSafe_of_zeroPeriod hzero⟩
  · have hany : (run (FilterListMutation.step plainLibraries) {} [addAds "-5s"]).any
        (fun db' => !decide (∀ list ∈ db'.filterLists,
          Succeeds (parseInterval (formatSeconds list.intervalSeconds)))) = true := by
      decide +kernel
    obtain ⟨db', hrun, hnot⟩ := exists_run_of_any hany
    exact ⟨db', hrun, by simpa using hnot⟩

end DnsFilter
