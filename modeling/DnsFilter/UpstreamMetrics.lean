import DnsFilter.Lib.Result
import DnsFilter.Lib.Tally
import DnsFilter.Strategy

/-!
# Upstream counters

`build_single_upstream_resolver` wraps the client of a default upstream in an
`InstrumentedUpstreamResolver`, which records each answer of the client under the label of the
upstream. The counters outlive the resolvers: a reload builds new ones, while calls to the old ones
are still on their way. `snapshot` reads the counters back, one row for each label.

A record is made in two steps, and a snapshot reads one metric after the other: while an answer is
being recorded, the metrics do not agree.

* `observe`, `countError`, `upstreamSnapshots` — the counters, written and read.
* `UpstreamSystem`, `upstreamStep` — groups of resolvers that come up one after the other, calls to
  each of them that overlap, and the counters they share. All groups that are built for default
  upstreams can come up (`start_of_built`), and all answers can come in and are recorded
  (`exists_answer`, `exists_recorded`).
* **`upstream_snapshot_exact`** — what a snapshot says of the calls, after any run, if no answer is
  being recorded while it is taken.

Not modelled: the latencies, which are floating-point numbers; the number of them is. The error
counters are floating-point numbers as well; they are exact up to `2 ^ 53`.
-/

namespace DnsFilter

open Net Tally

/-! ## The counters -/

/-- The label of an error, in `InstrumentedUpstreamResolver::resolve`. -/
def UpstreamResolveError.errorLabel : UpstreamResolveError → String
  | .io _ => "io"
  | .timeout => "timeout"
  | .protocol _ => "protocol"
  | .allFailed => "all_failed"
  | .withSource _ _ => "protocol"

/-- The label of the error, if the answer is one. -/
def errorLabelOf : Answer → Option String
  | .ok _ => none
  | .error e => some e.errorLabel

/-- The metrics with an `upstream` label: how many latencies
`upstream_request_duration_seconds` has observed for an upstream, and `upstream_errors_total` for an
upstream and an error. -/
structure UpstreamCounters where
  requests : List (String × Nat) := []
  errors : List ((String × String) × Nat) := []
  deriving DecidableEq

/-- `record_upstream_request`, with the metrics initialised: the latency is observed first. -/
def UpstreamCounters.observe (counters : UpstreamCounters) (upstream : String) :
    UpstreamCounters :=
  { counters with requests := inc upstream counters.requests }

/-- The rest of `record_upstream_request`: the error, if there was one, is counted. -/
def UpstreamCounters.countError (counters : UpstreamCounters) (upstream : String)
    (error : Option String) : UpstreamCounters :=
  { counters with
    errors := error.elim counters.errors fun error => inc (upstream, error) counters.errors }

structure UpstreamSnapshot where
  upstream : String := ""
  requestsTotal : Nat := 0
  errorsTotal : Nat := 0
  latencyCount : Nat := 0
  deriving DecidableEq

/-- The entry of an upstream, given the number of its latencies. -/
def UpstreamSnapshot.addRequests (row : String × Nat) (entry : UpstreamSnapshot) :
    UpstreamSnapshot :=
  { entry with upstream := row.1, requestsTotal := row.2, latencyCount := row.2 }

/-- The entry of an upstream, given the number of its errors of some kind. -/
def UpstreamSnapshot.addErrors (row : (String × String) × Nat) (entry : UpstreamSnapshot) :
    UpstreamSnapshot :=
  { entry with
    upstream := if entry.upstream = "" then row.1.1 else entry.upstream
    errorsTotal := entry.errorsTotal + row.2 }

/-- The map that `snapshot` fills, where the two metrics are collected in some order. -/
def upstreamEntries (requests : List (String × Nat)) (errors : List ((String × String) × Nat)) :
    List (String × UpstreamSnapshot) :=
  errors.foldl
    (fun upstreams row => modifyEntry {} (UpstreamSnapshot.addErrors row) row.1.1 upstreams)
    (requests.foldl
      (fun upstreams row => modifyEntry {} (UpstreamSnapshot.addRequests row) row.1 upstreams) [])

/-- The `upstreams` of `snapshot`: the values of a `BTreeMap`, sorted by its keys. -/
def upstreamSnapshots (requests : List (String × Nat)) (errors : List ((String × String) × Nat)) :
    List UpstreamSnapshot :=
  ((upstreamEntries requests errors).insertionSort (·.1 ≤ ·.1)).map (·.2)

/-! ## Groups of upstreams -/

/-- A group of default upstreams, and the calls that were made to it. -/
structure InstrumentedGroup where
  labels : List String
  dispatch : Dispatch
  deriving DecidableEq

/-- `StrategyUpstreamResolver::new`, over instrumented resolvers. The resolvers of zones are not
instrumented, and are left out here. -/
def UpstreamGroup.start (group : UpstreamGroup) : Option InstrumentedGroup := do
  let labels ← group.resolvers.mapM (·.label)
  return ⟨labels, ⟨⟨labels.length, group.strategy, 0, Nat.two_pow_pos 64⟩, []⟩⟩

/-- An answer that is being recorded, of the resolver with this label: its latency has been observed
if there were metrics, its error has not been counted, and the call has not been given it. -/
structure Recording where
  group : Nat
  call : Nat
  label : String
  answer : Answer
  observed : Bool
  deriving DecidableEq

/-- The call that is answered. -/
def Recording.key (recording : Recording) : Nat × Nat := (recording.group, recording.call)

structure UpstreamSystem where
  groups : List InstrumentedGroup := []
  metrics : Option UpstreamCounters := none
  recording : List Recording := []
  deriving DecidableEq

inductive UpstreamEvent
  | initPrometheusMetrics
  | install (group : UpstreamGroup)
  | begin (group random : Nat)
  /-- The client of the resolver that the call has asked answers. -/
  | answer (group call : Nat) (answer : Answer)
  /-- The answer is recorded, and the call goes on with it. -/
  | recorded (group call : Nat)
  deriving DecidableEq

/-- What the group gets from an instrumented resolver whose client answers. -/
def instrumented (label : String) (answer : Answer) : Answer := answer.mapError (.withSource label)

/-- The label of the resolver that a call waits for. -/
def InstrumentedGroup.awaited (group : InstrumentedGroup) (j : Nat) : Option String := do
  let call ← group.dispatch.calls[j]?
  if call.outcome = none then
    let idx ← call.remaining.head?
    group.labels[idx]?
  else none

/-- A step of the groups and the counters. -/
def upstreamStep (s : UpstreamSystem) : UpstreamEvent → Option UpstreamSystem
  | .initPrometheusMetrics => some { s with metrics := some (s.metrics.getD {}) }
  | .install group => do
      let group ← group.start
      return { s with groups := s.groups ++ [group] }
  | .begin i random => do
      let group ← s.groups[i]?
      let dispatch ← dispatchStep group.dispatch (.begin random)
      return { s with groups := s.groups.set i { group with dispatch := dispatch } }
  | .answer i j answer => do
      let group ← s.groups[i]?
      let label ← group.awaited j
      if Table.lookup Recording.key s.recording (i, j) = none then
        return { s with
          metrics := s.metrics.map (·.observe label)
          recording := s.recording ++ [⟨i, j, label, answer, s.metrics.isSome⟩] }
      else none
  | .recorded i j => do
      let recording ← Table.lookup Recording.key s.recording (i, j)
      let group ← s.groups[i]?
      let dispatch ← dispatchStep group.dispatch
        (.answer j (instrumented recording.label recording.answer))
      return {
        groups := s.groups.set i { group with dispatch := dispatch }
        metrics :=
          if recording.observed then
            s.metrics.map (·.countError recording.label (errorLabelOf recording.answer))
          else s.metrics
        recording := Table.deleteRows Recording.key (i, j) s.recording }

/-- All a step can do to the groups and the counters. -/
inductive UpstreamStepped (s : UpstreamSystem) : UpstreamEvent → UpstreamSystem → Prop
  | init : UpstreamStepped s .initPrometheusMetrics { s with metrics := some (s.metrics.getD {}) }
  | install {group : UpstreamGroup} {labels : List String} {strategy : UpstreamStrategy} :
      UpstreamStepped s (.install group) { s with
        groups := s.groups ++
          [⟨labels, ⟨⟨labels.length, strategy, 0, Nat.two_pow_pos 64⟩, []⟩⟩] }
  | begin {i random : Nat} {group : InstrumentedGroup} {dispatch : Dispatch}
      (hgroup : s.groups[i]? = some group)
      (hdispatch : dispatchStep group.dispatch (.begin random) = some dispatch) :
      UpstreamStepped s (.begin i random)
        { s with groups := s.groups.set i { group with dispatch := dispatch } }
  | answer {i j : Nat} {answer : Answer} {group : InstrumentedGroup} {label : String}
      (hgroup : s.groups[i]? = some group) (hlabel : group.awaited j = some label)
      (hfree : Table.lookup Recording.key s.recording (i, j) = none) :
      UpstreamStepped s (.answer i j answer) { s with
        metrics := s.metrics.map (·.observe label)
        recording := s.recording ++ [⟨i, j, label, answer, s.metrics.isSome⟩] }
  | recorded {i j : Nat} {recording : Recording} {group : InstrumentedGroup} {dispatch : Dispatch}
      (hrecording : Table.lookup Recording.key s.recording (i, j) = some recording)
      (hgroup : s.groups[i]? = some group)
      (hdispatch : dispatchStep group.dispatch
        (.answer j (instrumented recording.label recording.answer)) = some dispatch) :
      UpstreamStepped s (.recorded i j) {
        groups := s.groups.set i { group with dispatch := dispatch }
        metrics :=
          if recording.observed then
            s.metrics.map (·.countError recording.label (errorLabelOf recording.answer))
          else s.metrics
        recording := Table.deleteRows Recording.key (i, j) s.recording }

theorem upstreamStepped {s t : UpstreamSystem} {event : UpstreamEvent}
    (h : upstreamStep s event = some t) : UpstreamStepped s event t := by
  cases event with
  | initPrometheusMetrics => exact Option.some.inj h ▸ .init
  | install group =>
      obtain ⟨started, hstart, h⟩ := Option.bind_eq_some_iff.1 h
      obtain ⟨labels, -, hstart⟩ := Option.bind_eq_some_iff.1 hstart
      obtain rfl := Option.some.inj hstart
      exact Option.some.inj h ▸ .install
  | begin i random =>
      obtain ⟨group, hgroup, h⟩ := Option.bind_eq_some_iff.1 h
      obtain ⟨dispatch, hdispatch, h⟩ := Option.bind_eq_some_iff.1 h
      exact Option.some.inj h ▸ .begin hgroup hdispatch
  | answer i j answer =>
      obtain ⟨group, hgroup, h⟩ := Option.bind_eq_some_iff.1 h
      obtain ⟨label, hlabel, h⟩ := Option.bind_eq_some_iff.1 h
      obtain ⟨hfree, h⟩ := Option.ite_none_right_eq_some.1 h
      exact Option.some.inj h ▸ .answer hgroup hlabel hfree
  | recorded i j =>
      obtain ⟨recording, hrecording, h⟩ := Option.bind_eq_some_iff.1 h
      obtain ⟨group, hgroup, h⟩ := Option.bind_eq_some_iff.1 h
      obtain ⟨dispatch, hdispatch, h⟩ := Option.bind_eq_some_iff.1 h
      exact Option.some.inj h ▸ .recorded hrecording hgroup hdispatch

theorem start_of_labels {group : UpstreamGroup} {labels : List String}
    (h : group.resolvers.mapM (·.label) = some labels) :
    group.start =
      some ⟨labels, ⟨⟨labels.length, group.strategy, 0, Nat.two_pow_pos 64⟩, []⟩⟩ := by
  rw [UpstreamGroup.start, h]
  rfl

/-- The label of a default upstream. -/
theorem label_of_buildSingle {lib : Libraries} {bootstrap : List SocketAddr}
    {outbound : Option OutboundConfig} {server : UpstreamServer} {spec : ResolverSpec}
    (h : buildSingleUpstreamResolver lib bootstrap outbound server = .ok spec) :
    spec.label = some (server.protocol ++ "://" ++ server.address) := by
  obtain ⟨bindAddress, -, h⟩ := bind_eq_ok.1 h
  obtain ⟨client, -, h⟩ := bind_eq_ok.1 h
  obtain rfl := Except.ok.inj h
  rfl

theorem mapM_label {lib : Libraries} {bootstrap : List SocketAddr}
    {outbound : Option OutboundConfig} {servers : List UpstreamServer}
    {resolvers : List ResolverSpec} (h : List.Forall₂
      (fun server spec => buildSingleUpstreamResolver lib bootstrap outbound server = .ok spec)
      servers resolvers) :
    resolvers.mapM (·.label) =
      some (servers.map fun server => server.protocol ++ "://" ++ server.address) := by
  induction h with
  | nil => rfl
  | cons hserver hrest ih =>
      rw [List.mapM_cons, label_of_buildSingle hserver, ih]
      rfl

/-- The groups that are built for default upstreams are instrumented throughout. -/
theorem start_of_built {lib : Libraries} {strategy : String} {bootstrapResolvers : List String}
    {servers : List UpstreamServer} {outbound : Option OutboundConfig}
    {settings : ResolverCacheSettings} {group : UpstreamGroup}
    (h : buildUpstreamResolverGroup lib strategy bootstrapResolvers servers outbound settings =
      .ok group) :
    ∃ started, group.start = some started ∧
      started.labels = (servers.filter (·.enabled)).map fun server =>
        server.protocol ++ "://" ++ server.address := by
  obtain ⟨strategy, -, h⟩ := bind_eq_ok.1 h
  by_cases hnone : servers.filter (·.enabled) = []
  · have herror := (if_pos hnone).symm.trans h
    exact absurd herror (by simp)
  · have h := (if_neg hnone).symm.trans h
    obtain ⟨bootstrap, -, h⟩ := bind_eq_ok.1 h
    obtain ⟨resolvers, hresolvers, h⟩ := bind_eq_ok.1 h
    obtain rfl := Except.ok.inj h
    exact ⟨_, start_of_labels (mapM_label (mapM_eq_ok.1 hresolvers)), rfl⟩

/-! ## What a snapshot says of the requests -/

/-- A request on record: the label of its upstream, and that of its error if there was one. -/
abbrev UpstreamRequest := String × Option String

/-- The counters count the requests. -/
structure UpstreamCounters.Counts (counters : UpstreamCounters) (seen : List UpstreamRequest) :
    Prop where
  requests : Tallies counters.requests (seen.map (·.1))
  errors : Tallies counters.errors (seen.filterMap fun request => request.2.map (request.1, ·))

/-- The row of an upstream, given all requests. -/
def snapshotOf (seen : List UpstreamRequest) (label : String) : UpstreamSnapshot where
  upstream := label
  requestsTotal := seen.countP (·.1 = label)
  errorsTotal := seen.countP fun request => request.1 = label && request.2.isSome
  latencyCount := seen.countP (·.1 = label)

/-- The errors of an upstream add up. -/
theorem foldl_addErrors {label : String} {rows : List ((String × String) × Nat)}
    (hrows : ∀ row ∈ rows, row.1.1 = label) {entry : UpstreamSnapshot}
    (hentry : entry.upstream = label) :
    rows.foldl (fun entry row => UpstreamSnapshot.addErrors row entry) entry =
      { entry with errorsTotal := entry.errorsTotal + (rows.map (·.2)).sum } := by
  induction rows generalizing entry with
  | nil => rfl
  | cons row rows ih =>
      have hstep : UpstreamSnapshot.addErrors row entry =
          { entry with errorsTotal := entry.errorsTotal + row.2 } := by
        have hrow : row.1.1 = entry.upstream := (hrows row List.mem_cons_self).trans hentry.symm
        rw [UpstreamSnapshot.addErrors, hrow, ite_self]
      have ih := @ih (fun r hr => hrows r (List.mem_cons_of_mem _ hr))
        { entry with errorsTotal := entry.errorsTotal + row.2 } hentry
      rw [List.foldl_cons, hstep, ih, List.map_cons, List.sum_cons, Nat.add_assoc]

section Snapshot

variable {requests : List (String × Nat)} {errors : List ((String × String) × Nat)}
  {seen : List UpstreamRequest}

theorem keyed_upstreamEntries : Table.Keyed (·.1) (upstreamEntries requests errors) :=
  keyed_foldl errors (keyed_foldl requests List.nodup_nil)

/-- Every upstream that was asked has an entry, and no other. -/
theorem exists_upstreamEntries (h : UpstreamCounters.Counts ⟨requests, errors⟩ seen)
    (label : String) :
    (∃ row ∈ upstreamEntries requests errors, row.1 = label) ↔ label ∈ seen.map (·.1) := by
  unfold upstreamEntries
  rw [exists_foldl, exists_foldl]
  constructor
  · rintro (⟨row, hrow, rfl⟩ | ⟨row, hrow, rfl⟩ | ⟨row, hrow, -⟩)
    · -- an error is recorded with a request
      obtain ⟨request, hrequest, hkey⟩ :=
        List.mem_filterMap.1 ((h.errors.mem row.1).1 ⟨row, hrow, rfl⟩)
      obtain ⟨error, -, hkey⟩ := Option.map_eq_some_iff.1 hkey
      rw [← hkey]
      exact List.mem_map_of_mem hrequest
    · exact (h.requests.mem row.1).1 ⟨row, hrow, rfl⟩
    · exact absurd hrow List.not_mem_nil
  · intro hlabel
    exact .inr (.inl ((h.requests.mem label).2 hlabel))

theorem entryOr_upstreamEntries (h : UpstreamCounters.Counts ⟨requests, errors⟩ seen)
    {label : String} (hlabel : label ∈ seen.map (·.1)) :
    entryOr {} (upstreamEntries requests errors) label = snapshotOf seen label := by
  have hcount : (seen.map (·.1)).count label = seen.countP (·.1 = label) := by
    rw [List.count, List.countP_map]
    rfl
  have hrequests : requests.filter (·.1 = label) = [(label, seen.countP (·.1 = label))] := by
    obtain ⟨row, hrow, rfl⟩ := (h.requests.mem label).2 hlabel
    rw [Table.filter_key h.requests.keyed, (Table.lookup_eq_some h.requests.keyed).2 ⟨hrow, rfl⟩,
      ← hcount, ← h.requests.snd_eq hrow]
    rfl
  have herrors : ((errors.filter (·.1.1 = label)).map (·.2)).sum =
      seen.countP fun request => request.1 = label && request.2.isSome := by
    rw [h.errors.sum fun key => decide (key.1 = label), List.countP_filterMap]
    refine List.countP_congr fun request _ => ?_
    cases request.2 with
    | none => simp
    | some error => simp
  have hrows : ∀ row ∈ errors.filter (·.1.1 = label), row.1.1 = label := by
    intro row hrow
    exact of_decide_eq_true (List.mem_filter.1 hrow).2
  unfold upstreamEntries
  rw [entryOr_foldl, entryOr_foldl, hrequests, List.foldl_cons, List.foldl_nil,
    foldl_addErrors hrows rfl, herrors, snapshotOf]
  show UpstreamSnapshot.mk _ _ (0 + _) _ = _
  rw [Nat.zero_add]
  rfl

theorem snd_of_mem_upstreamEntries (h : UpstreamCounters.Counts ⟨requests, errors⟩ seen)
    {entry : String × UpstreamSnapshot} (hentry : entry ∈ upstreamEntries requests errors) :
    entry.2 = snapshotOf seen entry.1 := by
  have hlabel := (exists_upstreamEntries h entry.1).1 ⟨entry, hentry, rfl⟩
  rw [← entryOr_upstreamEntries h hlabel, entryOr_of_mem keyed_upstreamEntries hentry]

theorem mem_upstreamSnapshots (h : UpstreamCounters.Counts ⟨requests, errors⟩ seen)
    {row : UpstreamSnapshot} :
    row ∈ upstreamSnapshots requests errors ↔
      row.upstream ∈ seen.map (·.1) ∧ row = snapshotOf seen row.upstream := by
  unfold upstreamSnapshots
  rw [List.mem_map]
  constructor
  · rintro ⟨entry, hmem, rfl⟩
    rw [List.mem_insertionSort] at hmem
    rw [snd_of_mem_upstreamEntries h hmem]
    exact ⟨(exists_upstreamEntries h entry.1).1 ⟨entry, hmem, rfl⟩, rfl⟩
  · rintro ⟨hlabel, hrow⟩
    obtain ⟨entry, hmem, hkey⟩ := (exists_upstreamEntries h row.upstream).2 hlabel
    refine ⟨entry, (List.mem_insertionSort _).2 hmem, ?_⟩
    rw [snd_of_mem_upstreamEntries h hmem, hkey, ← hrow]

/-- The rows are sorted by upstream, and have different ones. -/
theorem pairwise_upstreamSnapshots (h : UpstreamCounters.Counts ⟨requests, errors⟩ seen) :
    (upstreamSnapshots requests errors).Pairwise (·.upstream < ·.upstream) := by
  have hperm := List.perm_insertionSort (·.1 ≤ ·.1) (upstreamEntries requests errors)
  have hsorted := List.pairwise_insertionSort (·.1 ≤ ·.1) (upstreamEntries requests errors)
  have hkeyed := (hperm.map Prod.fst).nodup_iff.2 keyed_upstreamEntries
  rw [List.Nodup, List.pairwise_map] at hkeyed
  unfold upstreamSnapshots
  rw [List.pairwise_map]
  refine (hsorted.and hkeyed).imp_of_mem fun {a b} ha hb hab => ?_
  rw [snd_of_mem_upstreamEntries h (hperm.mem_iff.1 ha),
    snd_of_mem_upstreamEntries h (hperm.mem_iff.1 hb)]
  exact lt_of_le_of_ne hab.1 hab.2

/-- Rows summed over the upstreams. -/
theorem sum_upstreamSnapshots (h : UpstreamCounters.Counts ⟨requests, errors⟩ seen)
    (p : UpstreamRequest → Bool) {f : UpstreamSnapshot → Nat}
    (hf : ∀ label, f (snapshotOf seen label) =
      seen.countP fun request => request.1 = label && p request) :
    ((upstreamSnapshots requests errors).map f).sum = seen.countP p := by
  have hkeys : ∀ request ∈ seen,
      request.1 ∈ (upstreamSnapshots requests errors).map (·.upstream) := by
    intro request hrequest
    exact List.mem_map.2 ⟨snapshotOf seen request.1,
      (mem_upstreamSnapshots h).2 ⟨List.mem_map_of_mem hrequest, rfl⟩, rfl⟩
  have hnodup : ((upstreamSnapshots requests errors).map (·.upstream)).Nodup := by
    rw [List.Nodup, List.pairwise_map]
    exact (pairwise_upstreamSnapshots h).imp fun hlt => hlt.ne
  rw [← sum_countP_key hnodup hkeys p, List.map_map]
  refine congrArg List.sum (List.map_congr_left fun row hrow => ?_)
  have hrow := ((mem_upstreamSnapshots h).1 hrow).2
  rw [congrArg f hrow, hf]
  rfl

end Snapshot

/-! ## What a run records -/

/-- What the resolvers of a group have answered: the label of each, and whether it failed. -/
def InstrumentedGroup.served (group : InstrumentedGroup) : List (String × Bool) :=
  group.dispatch.calls.flatMap fun call => call.answers.filterMap fun given =>
    group.labels[given.1]?.map (·, !given.2.isOk)

/-- The response that the call has ended with. -/
def Call.replies (call : Call) : List Bytes :=
  match call.outcome with
  | some (.ok resp) => [resp]
  | _ => []

def InstrumentedGroup.replies (group : InstrumentedGroup) : List Bytes :=
  group.dispatch.calls.flatMap Call.replies

def UpstreamSystem.served (s : UpstreamSystem) : List (String × Bool) :=
  s.groups.flatMap InstrumentedGroup.served

/-- The responses that callers of the groups have been given. -/
def UpstreamSystem.replies (s : UpstreamSystem) : List Bytes :=
  s.groups.flatMap InstrumentedGroup.replies

section Steps

variable {group : InstrumentedGroup} {dispatch : Dispatch}

theorem awaited_eq_some {j : Nat} {label : String} :
    group.awaited j = some label ↔ ∃ call idx, group.dispatch.calls[j]? = some call ∧
      call.outcome = none ∧ call.remaining.head? = some idx ∧ group.labels[idx]? = some label := by
  unfold InstrumentedGroup.awaited
  constructor
  · intro h
    obtain ⟨call, hcall, h⟩ := Option.bind_eq_some_iff.1 h
    obtain ⟨hnone, h⟩ := Option.ite_none_right_eq_some.1 h
    obtain ⟨idx, hidx, hlabel⟩ := Option.bind_eq_some_iff.1 h
    exact ⟨call, idx, hcall, hnone, hidx, hlabel⟩
  · rintro ⟨call, idx, hcall, hnone, hidx, hlabel⟩
    simp [hcall, hnone, hidx, hlabel]

/-- What one call waits for is left alone by the other calls. -/
theorem awaited_dispatchStep {event : DispatchEvent} {j : Nat} {label : String}
    (h : dispatchStep group.dispatch event = some dispatch)
    (hother : ∀ answer, event ≠ .answer j answer) (hlabel : group.awaited j = some label) :
    ({ group with dispatch := dispatch } : InstrumentedGroup).awaited j = some label := by
  obtain ⟨call, idx, hcall, hrest⟩ := awaited_eq_some.1 hlabel
  refine awaited_eq_some.2 ⟨call, idx, ?_, hrest⟩
  rcases dispatchStep_eq_some h with ⟨random, -, -, rfl⟩ | ⟨i, answer, -, call', rfl, -, -, rfl⟩
  · show (group.dispatch.calls ++ _)[j]? = some call
    rw [List.getElem?_append_left (List.getElem?_eq_some_iff.1 hcall).1]
    exact hcall
  · have hij : i ≠ j := by
      rintro rfl
      exact hother answer rfl
    show (group.dispatch.calls.set i call')[j]? = some call
    rw [List.getElem?_set_ne hij]
    exact hcall

/-- A call that begins has not been answered. -/
theorem served_begin {random : Nat}
    (h : dispatchStep group.dispatch (.begin random) = some dispatch) :
    ({ group with dispatch := dispatch } : InstrumentedGroup).served = group.served ∧
      ({ group with dispatch := dispatch } : InstrumentedGroup).replies = group.replies := by
  rcases dispatchStep_eq_some h with ⟨random, -, -, rfl⟩ | ⟨i, answer, call, call', heq, -⟩
  · constructor
    · simp [InstrumentedGroup.served, StrategyUpstreamResolver.beginCall]
    · simp [InstrumentedGroup.replies, StrategyUpstreamResolver.beginCall, Call.replies]
  · cases heq

/-- A resolver that answers has answered once more; its response, if it gave one, ends the call. -/
theorem served_answer {i : Nat} {answer : Answer} {label : String}
    (hlabel : group.awaited i = some label)
    (h : dispatchStep group.dispatch (.answer i answer) = some dispatch) :
    (({ group with dispatch := dispatch } : InstrumentedGroup).served.Perm
      (group.served ++ [(label, !answer.isOk)])) ∧
    ({ group with dispatch := dispatch } : InstrumentedGroup).replies.Perm
      (group.replies ++ answer.toOption.toList) := by
  obtain ⟨call, idx, hcall, -, hidx, hlabel⟩ := awaited_eq_some.1 hlabel
  rcases dispatchStep_eq_some h with ⟨random, heq, -⟩ | ⟨j, given, asking, call', heq, hasking,
    hanswered, rfl⟩
  · cases heq
  · obtain ⟨rfl, rfl⟩ := DispatchEvent.answer.inj heq
    obtain rfl := Option.some.inj (hcall.symm.trans hasking)
    obtain ⟨idx', rest, hnone, hremaining, -, -, hanswers, houtcome⟩ :=
      Call.answered_eq_some hanswered
    rw [hremaining, List.head?_cons, Option.some.injEq] at hidx
    subst hidx
    constructor
    · refine Map.flatMap_set_perm hcall ?_
      rw [hanswers, List.filterMap_append]
      refine List.Perm.append_left _ ?_
      simp [hlabel]
    · refine Map.flatMap_set_perm hcall ?_
      have hbefore : call.replies = [] := by rw [Call.replies, hnone]
      rw [hbefore]
      rcases houtcome with ⟨resp, rfl, hend⟩ | ⟨e, rfl, -, hend⟩
      · rw [Call.replies, hend]
        rfl
      · rw [Call.replies, hend]
        by_cases hrest : rest = []
        · rw [if_pos hrest]
          rfl
        · rw [if_neg hrest]
          rfl

end Steps

/-- The answers that are being recorded are those of resolvers that are waited for, one for each
call. -/
structure UpstreamSystem.Awaited (s : UpstreamSystem) : Prop where
  keyed : Table.Keyed Recording.key s.recording
  awaited : ∀ recording ∈ s.recording, ∃ group, s.groups[recording.group]? = some group ∧
    group.awaited recording.call = some recording.label

section Runs

variable {s t u : UpstreamSystem} {event : UpstreamEvent} {events : List UpstreamEvent}

/-- A step of one group leaves alone what the calls of the others, and its own other calls, wait
for. -/
theorem awaited_set {groups : List InstrumentedGroup} {i k j : Nat}
    {group other : InstrumentedGroup} {dispatch : Dispatch} {event : DispatchEvent} {label : String}
    (hgroup : groups[i]? = some group)
    (h : dispatchStep group.dispatch event = some dispatch)
    (hevent : k = i → ∀ answer, event ≠ .answer j answer)
    (hother : groups[k]? = some other) (hlabel : other.awaited j = some label) :
    ∃ g, (groups.set i { group with dispatch := dispatch })[k]? = some g ∧
      g.awaited j = some label := by
  by_cases hk : k = i
  · subst hk
    obtain rfl := Option.some.inj (hgroup.symm.trans hother)
    refine ⟨_, ?_, awaited_dispatchStep h (hevent rfl) hlabel⟩
    rw [List.getElem?_set_self (List.getElem?_eq_some_iff.1 hgroup).1]
  · refine ⟨other, ?_, hlabel⟩
    rw [List.getElem?_set_ne (Ne.symm hk)]
    exact hother

theorem awaited_step (hs : s.Awaited) (h : upstreamStep s event = some t) : t.Awaited := by
  cases upstreamStepped h with
  | init => exact ⟨hs.keyed, hs.awaited⟩
  | install =>
      refine ⟨hs.keyed, fun recording hmem => ?_⟩
      obtain ⟨group, hgroup, hlabel⟩ := hs.awaited recording hmem
      refine ⟨group, ?_, hlabel⟩
      show (s.groups ++ _)[recording.group]? = some group
      rw [List.getElem?_append_left (List.getElem?_eq_some_iff.1 hgroup).1]
      exact hgroup
  | begin hgroup hdispatch =>
      refine ⟨hs.keyed, fun recording hmem => ?_⟩
      obtain ⟨other, hother, hlabel⟩ := hs.awaited recording hmem
      exact awaited_set hgroup hdispatch (fun _ _ => by simp) hother hlabel
  | @answer i j answer group label hgroup hlabel hfree =>
      refine ⟨hs.keyed.append (Table.lookup_eq_none.1 hfree), fun recording hmem => ?_⟩
      rcases List.mem_append.1 hmem with hmem | hmem
      · exact hs.awaited recording hmem
      · rw [List.mem_singleton.1 hmem]
        exact ⟨group, hgroup, hlabel⟩
  | @recorded i j recording group dispatch hrecording hgroup hdispatch =>
      refine ⟨hs.keyed.delete, fun other hmem => ?_⟩
      obtain ⟨hmem, hkey⟩ := Table.mem_deleteRows.1 hmem
      obtain ⟨others, hothers, hlabel⟩ := hs.awaited other hmem
      refine awaited_set hgroup hdispatch (fun hi answer heq => hkey ?_) hothers hlabel
      exact Prod.ext hi (DispatchEvent.answer.inj heq).1.symm

/-- What happened to the upstreams since the counters started: these requests were recorded. -/
structure UpstreamSystem.Records (s t : UpstreamSystem) (seen : List UpstreamRequest) : Prop where
  awaited : t.Awaited
  observed : ∀ recording ∈ t.recording, recording.observed = true
  served : t.served.Perm (s.served ++ seen.map fun request => (request.1, request.2.isSome))
  replies : t.replies.length = s.replies.length + seen.countP (·.2.isNone)
  metrics : ∃ counters, t.metrics = some counters ∧
    Tallies counters.requests (seen.map (·.1) ++ t.recording.map (·.label)) ∧
    Tallies counters.errors (seen.filterMap fun request => request.2.map (request.1, ·))

theorem UpstreamSystem.Records.countP_served {seen : List UpstreamRequest} (h : s.Records t seen)
    (label : String) : t.served.countP (·.1 = label) =
      s.served.countP (·.1 = label) + seen.countP (·.1 = label) := by
  rw [h.served.countP_eq, List.countP_append, List.countP_map]
  rfl

theorem UpstreamSystem.Records.count_failed {seen : List UpstreamRequest} (h : s.Records t seen)
    (label : String) : t.served.count (label, true) = s.served.count (label, true) +
      seen.countP fun request => request.1 = label && request.2.isSome := by
  have hmap : (seen.map fun request => (request.1, request.2.isSome)).count (label, true) =
      seen.countP fun request => request.1 = label && request.2.isSome := by
    rw [List.count, List.countP_map]
    refine List.countP_congr fun request _ => ?_
    simp
  rw [h.served.count_eq, List.count_append, hmap]

/-- What is counted once the error of an answer is. -/
theorem UpstreamSystem.Records.recorded {seen : List UpstreamRequest} {i j : Nat}
    {recording : Recording} {group : InstrumentedGroup} {dispatch : Dispatch}
    (hs : s.Records t seen) (h : upstreamStep t (.recorded i j) = some u)
    (hrecording : Table.lookup Recording.key t.recording (i, j) = some recording)
    (hgroup : t.groups[i]? = some group)
    (hdispatch : dispatchStep group.dispatch
      (.answer j (instrumented recording.label recording.answer)) = some dispatch)
    (hgroups : u.groups = t.groups.set i { group with dispatch := dispatch })
    (hmetrics : u.metrics = if recording.observed then
      t.metrics.map (·.countError recording.label (errorLabelOf recording.answer)) else t.metrics)
    (hrest : u.recording = Table.deleteRows Recording.key (i, j) t.recording) :
    s.Records u (seen ++ [(recording.label, errorLabelOf recording.answer)]) := by
  obtain ⟨hmem, hkey⟩ := (Table.lookup_eq_some hs.awaited.keyed).1 hrecording
  obtain ⟨rfl, rfl⟩ := Prod.mk.inj hkey
  obtain ⟨group', hgroup', hlabel⟩ := hs.awaited.awaited recording hmem
  obtain rfl := Option.some.inj (hgroup.symm.trans hgroup')
  obtain ⟨hserved, hreplies⟩ := served_answer hlabel hdispatch
  obtain ⟨counters, hcounters, hrequests, herrors⟩ := hs.metrics
  refine ⟨awaited_step hs.awaited h, fun other hother => ?_, ?_, ?_, ?_⟩
  · rw [hrest] at hother
    exact hs.observed other (Table.mem_deleteRows.1 hother).1
  · have hall : u.served.Perm (t.served ++
        [(recording.label, !(instrumented recording.label recording.answer).isOk)]) := by
      rw [UpstreamSystem.served, hgroups]
      exact Map.flatMap_set_perm hgroup hserved
    rw [List.map_append, ← List.append_assoc]
    refine hall.trans ((hs.served.append_right _).trans ?_)
    cases recording.answer with
    | ok resp => exact List.Perm.refl _
    | error e => exact List.Perm.refl _
  · have hall : u.replies.length = t.replies.length +
        (instrumented recording.label recording.answer).toOption.toList.length := by
      rw [UpstreamSystem.replies, hgroups, ← List.length_append]
      exact (Map.flatMap_set_perm hgroup hreplies).length_eq
    rw [hall, hs.replies, List.countP_append, Nat.add_assoc]
    cases recording.answer with
    | ok resp => rfl
    | error e => rfl
  · rw [hs.observed recording hmem, if_pos rfl, hcounters, Option.map_some] at hmetrics
    refine ⟨_, hmetrics, hrequests.of_seen_perm ?_, ?_⟩
    · rw [List.map_append, List.append_assoc, hrest]
      exact List.Perm.append_left _
        ((Table.perm_cons_deleteRows hs.awaited.keyed hrecording).map _)
    · rw [List.filterMap_append]
      cases recording.answer with
      | ok resp => simpa [UpstreamCounters.countError, errorLabelOf] using herrors
      | error e => exact herrors.inc (recording.label, e.errorLabel)

/-- A step records the answer of a client, and nothing else. -/
theorem exists_records_of_step {seen : List UpstreamRequest} (hs : s.Records t seen)
    (h : upstreamStep t event = some u) : ∃ seen, s.Records u seen := by
  have hawaited := awaited_step hs.awaited h
  obtain ⟨counters, hcounters, hrequests, herrors⟩ := hs.metrics
  cases upstreamStepped h with
  | init =>
      -- starting the counters again leaves them as they are
      refine ⟨seen, hawaited, hs.observed, hs.served, hs.replies, counters, ?_, hrequests, herrors⟩
      show some (t.metrics.getD {}) = _
      rw [hcounters]
      rfl
  | install =>
      refine ⟨seen, hawaited, hs.observed, ?_, ?_, hs.metrics⟩
      · simpa [UpstreamSystem.served, InstrumentedGroup.served] using hs.served
      · simpa [UpstreamSystem.replies, InstrumentedGroup.replies] using hs.replies
  | @begin i random group dispatch hgroup hdispatch =>
      obtain ⟨hserved, hreplies⟩ := served_begin hdispatch
      have hservedPerm : ({ group with dispatch := dispatch } : InstrumentedGroup).served.Perm
          (group.served ++ []) := by rw [hserved, List.append_nil]
      have hrepliesPerm : ({ group with dispatch := dispatch } : InstrumentedGroup).replies.Perm
          (group.replies ++ []) := by rw [hreplies, List.append_nil]
      have hall := Map.flatMap_set_perm hgroup hservedPerm
      have hlength := (Map.flatMap_set_perm hgroup hrepliesPerm).length_eq
      rw [List.append_nil] at hall hlength
      exact ⟨seen, hawaited, hs.observed, hall.trans hs.served, hlength.trans hs.replies,
        hs.metrics⟩
  | @answer i j answer group label hgroup hlabel hfree =>
      refine ⟨seen, hawaited, fun recording hmem => ?_, hs.served, hs.replies,
        counters.observe label, ?_, ?_, herrors⟩
      · rcases List.mem_append.1 hmem with hmem | hmem
        · exact hs.observed recording hmem
        · rw [List.mem_singleton.1 hmem]
          exact congrArg Option.isSome hcounters
      · show t.metrics.map _ = _
        rw [hcounters]
        rfl
      · rw [List.map_append, ← List.append_assoc]
        exact hrequests.inc label
  | recorded hrecording hgroup hdispatch =>
      exact ⟨_, hs.recorded h hrecording hgroup hdispatch rfl rfl rfl⟩

/-- The metrics count what a run has recorded since they were empty. -/
theorem exists_records_of_run (hfresh : s.metrics = some {}) (hidle : s.recording = [])
    (hrun : run upstreamStep s events = some t) : ∃ seen, s.Records t seen := by
  have hstep : ∀ (u : UpstreamSystem) (event : UpstreamEvent) (v : UpstreamSystem),
      (∃ seen, s.Records u seen) → upstreamStep u event = some v → ∃ seen, s.Records v seen :=
    fun u event v ⟨seen, hseen⟩ h => exists_records_of_step hseen h
  refine run_invariant hstep hrun
    ⟨[], ⟨?_, ?_⟩, ?_, by simp, rfl, {}, hfresh, ?_, tallies_nil⟩
  · rw [hidle]
    exact List.nodup_nil
  · rw [hidle]
    exact nofun
  · rw [hidle]
    exact nofun
  · rw [hidle]
    exact tallies_nil

end Runs

/-! ## Answers are taken -/

/-- Every resolver that a call can ask has a label. -/
def UpstreamSystem.Covered (s : UpstreamSystem) : Prop :=
  ∀ group ∈ s.groups,
    group.dispatch.resolver.resolvers = group.labels.length ∧ group.dispatch.Follows

section Progress

variable {s t : UpstreamSystem} {event : UpstreamEvent} {events : List UpstreamEvent}

/-- A group stays covered while calls go through it. -/
theorem covered_dispatch {group : InstrumentedGroup} {dispatch : Dispatch} {event : DispatchEvent}
    (hs : s.Covered) {i : Nat} (hgroup : s.groups[i]? = some group)
    (h : dispatchStep group.dispatch event = some dispatch) :
    ∀ other ∈ s.groups.set i { group with dispatch := dispatch },
      other.dispatch.resolver.resolvers = other.labels.length ∧ other.dispatch.Follows := by
  obtain ⟨hlabels, hfollows⟩ := hs group (List.mem_of_getElem? hgroup)
  intro other hother
  rcases List.mem_or_eq_of_mem_set hother with hother | rfl
  · exact hs other hother
  · exact ⟨(resolvers_dispatchStep h).trans hlabels, follows_dispatchStep hfollows h⟩

theorem covered_step (hs : s.Covered) (h : upstreamStep s event = some t) : t.Covered := by
  cases upstreamStepped h with
  | init => exact hs
  | install =>
      intro other hother
      rcases List.mem_append.1 hother with hother | hother
      · exact hs other hother
      · rw [List.mem_singleton.1 hother]
        exact ⟨rfl, fun call hcall => absurd hcall List.not_mem_nil⟩
  | begin hgroup hdispatch => exact covered_dispatch hs hgroup hdispatch
  | answer hgroup hlabel hfree => exact hs
  | recorded hrecording hgroup hdispatch => exact covered_dispatch hs hgroup hdispatch

/-- Whatever has happened, the resolver that a call waits for can answer anything, unless it has. -/
theorem exists_answer (hrun : run upstreamStep {} events = some t) {i j idx : Nat}
    {rest : List Nat} {group : InstrumentedGroup} {call : Call}
    (hgroup : t.groups[i]? = some group) (hcall : group.dispatch.calls[j]? = some call)
    (hwaits : call.outcome = none) (hremaining : call.remaining = idx :: rest)
    (hfree : ∀ recording ∈ t.recording, recording.key ≠ (i, j)) (answer : Answer) :
    ∃ u, upstreamStep t (.answer i j answer) = some u := by
  have hcovered : t.Covered := run_invariant (fun _ _ _ => covered_step) hrun
    fun group hgroup => absurd hgroup List.not_mem_nil
  obtain ⟨hlabels, hfollows⟩ := hcovered group (List.mem_of_getElem? hgroup)
  have hlt : idx < group.labels.length := by
    have horder := (hfollows call (List.mem_of_getElem? hcall)).order
    have hmem : idx ∈ cyclicOrder call.start group.dispatch.resolver.resolvers := by
      rw [← horder, hremaining]
      simp
    exact hlabels ▸ lt_of_mem_cyclicOrder hmem
  have hlabel : group.awaited j = some group.labels[idx] :=
    awaited_eq_some.2 ⟨call, idx, hcall, hwaits, by rw [hremaining]; rfl,
      List.getElem?_eq_getElem hlt⟩
  simp [upstreamStep, hgroup, hlabel, Table.lookup_eq_none.2 hfree]

/-- What is being recorded will be, and the call goes on. -/
theorem exists_recorded (hrun : run upstreamStep {} events = some t) {recording : Recording}
    (hmem : recording ∈ t.recording) :
    ∃ u, upstreamStep t (.recorded recording.group recording.call) = some u := by
  have hawaited : t.Awaited := run_invariant (fun _ _ _ => awaited_step) hrun
    ⟨List.nodup_nil, nofun⟩
  obtain ⟨group, hgroup, hlabel⟩ := hawaited.awaited recording hmem
  obtain ⟨call, idx, hcall, hnone, hidx, -⟩ := awaited_eq_some.1 hlabel
  have hlookup : Table.lookup Recording.key t.recording (recording.group, recording.call) =
      some recording := (Table.lookup_eq_some hawaited.keyed).2 ⟨hmem, rfl⟩
  have hanswered : ∃ call', call.answered (instrumented recording.label recording.answer) =
      some call' := by
    obtain ⟨rest, hremaining⟩ := List.head?_eq_some_iff.1 hidx
    unfold Call.answered
    rw [hnone, hremaining]
    cases instrumented recording.label recording.answer with
    | ok resp => exact ⟨_, rfl⟩
    | error e => exact ⟨_, rfl⟩
  obtain ⟨call', hcall'⟩ := hanswered
  simp [upstreamStep, dispatchStep, hlookup, hgroup, hcall, hcall']

end Progress

/-! ## Snapshots of a running system -/

/-- The rows say what has happened since the first state. -/
structure UpstreamSystem.SnapshotSince (s t : UpstreamSystem) (rows : List UpstreamSnapshot) :
    Prop where
  sorted : rows.Pairwise (·.upstream < ·.upstream)
  upstreams : ∀ label, (∃ row ∈ rows, row.upstream = label) ↔
    s.served.countP (·.1 = label) < t.served.countP (·.1 = label)
  requests : ∀ row ∈ rows, t.served.countP (·.1 = row.upstream) =
    s.served.countP (·.1 = row.upstream) + row.requestsTotal
  latencies : ∀ row ∈ rows, row.latencyCount = row.requestsTotal
  errors : ∀ row ∈ rows, t.served.count (row.upstream, true) =
    s.served.count (row.upstream, true) + row.errorsTotal
  replies : t.replies.length + (rows.map (·.errorsTotal)).sum =
    s.replies.length + (rows.map (·.requestsTotal)).sum

theorem UpstreamSystem.Records.snapshotSince {s t : UpstreamSystem} {seen : List UpstreamRequest}
    {requests : List (String × Nat)} {errors : List ((String × String) × Nat)}
    (h : s.Records t seen) (hcounts : UpstreamCounters.Counts ⟨requests, errors⟩ seen) :
    s.SnapshotSince t (upstreamSnapshots requests errors) := by
  have hrow : ∀ row ∈ upstreamSnapshots requests errors, row = snapshotOf seen row.upstream :=
    fun row hmem => ((mem_upstreamSnapshots hcounts).1 hmem).2
  refine ⟨pairwise_upstreamSnapshots hcounts, fun label => ?_, fun row hmem => ?_,
    fun row hmem => ?_, fun row hmem => ?_, ?_⟩
  · rw [h.countP_served, Nat.lt_add_right_iff_pos, List.countP_pos_iff]
    constructor
    · rintro ⟨row, hmem, rfl⟩
      obtain ⟨request, hrequest, hlabel⟩ :=
        List.mem_map.1 ((mem_upstreamSnapshots hcounts).1 hmem).1
      exact ⟨request, hrequest, decide_eq_true hlabel⟩
    · rintro ⟨request, hrequest, hlabel⟩
      obtain rfl := of_decide_eq_true hlabel
      exact ⟨snapshotOf seen request.1, (mem_upstreamSnapshots hcounts).2
        ⟨List.mem_map_of_mem hrequest, rfl⟩, rfl⟩
  · rw [h.countP_served, congrArg UpstreamSnapshot.requestsTotal (hrow row hmem)]
    rfl
  · rw [hrow row hmem]
    rfl
  · rw [h.count_failed, congrArg UpstreamSnapshot.errorsTotal (hrow row hmem)]
    rfl
  · have herrors := sum_upstreamSnapshots hcounts (fun request => request.2.isSome)
      (f := UpstreamSnapshot.errorsTotal) fun label => rfl
    have hrequests := sum_upstreamSnapshots hcounts (fun _ => true)
      (f := UpstreamSnapshot.requestsTotal) fun label => by simp [snapshotOf]
    have hlength : seen.length =
        seen.countP (fun request => request.2.isNone) +
          seen.countP fun request => request.2.isSome := by
      rw [seen.length_eq_countP_add_countP fun request => request.2.isNone]
      refine congrArg _ (List.countP_congr fun request _ => ?_)
      cases request.2 with
      | none => simp
      | some error => simp
    rw [h.replies, herrors, hrequests, List.countP_true, hlength, Nat.add_assoc]

/-- The step is a part of recording an answer. -/
def UpstreamEvent.records : UpstreamEvent → Bool
  | .answer _ _ _ | .recorded _ _ => true
  | .initPrometheusMetrics | .install _ | .begin _ _ => false

theorem metrics_step {s t : UpstreamSystem} {event : UpstreamEvent} {counters : UpstreamCounters}
    (hs : s.metrics = some counters) (hevent : event.records = false)
    (h : upstreamStep s event = some t) : t.metrics = some counters := by
  cases upstreamStepped h with
  | init =>
      show some (s.metrics.getD {}) = _
      rw [hs]
      rfl
  | install => exact hs
  | begin => exact hs
  | answer => cases hevent
  | recorded => cases hevent

theorem metrics_run {s t : UpstreamSystem} {events : List UpstreamEvent}
    {counters : UpstreamCounters} (hs : s.metrics = some counters)
    (hevents : ∀ event ∈ events, event.records = false)
    (hrun : run upstreamStep s events = some t) : t.metrics = some counters := by
  induction events generalizing s with
  | nil =>
      rw [run_nil, Option.some.injEq] at hrun
      exact hrun ▸ hs
  | cons event events ih =>
      obtain ⟨s', hstep, hrest⟩ := run_cons_eq_some.1 hrun
      exact ih (metrics_step hs (hevents event List.mem_cons_self) hstep)
        (fun event' hmem => hevents event' (List.mem_cons_of_mem _ hmem)) hrest

/-- **A snapshot is exact.** Whatever groups there are when the counters start, whatever groups
come after them and however the calls to all of them overlap: if no answer is being recorded while
`snapshot` reads the latencies and then the errors, the rows are those of the upstreams that have
answered since, in order, each counts the answers and the failures of its upstream, and all in all
the answers that are no failures are the responses the callers got. -/
theorem upstream_snapshot_exact {s t u : UpstreamSystem} {events between : List UpstreamEvent}
    (hfresh : s.metrics = some {}) (hidle : s.recording = [])
    (hrun : run upstreamStep s events = some t) (hquiet : t.recording = [])
    (hread : run upstreamStep t between = some u)
    (hnone : ∀ event ∈ between, event.records = false) :
    ∃ counters counters', t.metrics = some counters ∧ u.metrics = some counters' ∧
      ∀ requests errors, requests.Perm counters.requests → errors.Perm counters'.errors →
        s.SnapshotSince t (upstreamSnapshots requests errors) := by
  obtain ⟨seen, hrecords⟩ := exists_records_of_run hfresh hidle hrun
  obtain ⟨counters, hcounters, hrequests, herrors⟩ := hrecords.metrics
  rw [hquiet, List.map_nil, List.append_nil] at hrequests
  refine ⟨counters, counters, hcounters, metrics_run hcounters hnone hread,
    fun requests errors hrows hrows' => ?_⟩
  exact hrecords.snapshotSince ⟨hrequests.of_perm hrows.symm, herrors.of_perm hrows'.symm⟩

/-- A call is on its way when a reload replaces the group, and ends after it. Its second answer and
one of the new group are recorded at the same time. -/
def reloadWhileAsked : List UpstreamEvent :=
  [.begin 0 0, .answer 0 0 (.error .timeout), .recorded 0 0,
    .install ⟨[{ client := .dns ⟨.v4 ⟨9, 9, 9, 9⟩, 53, 0⟩, label := some "dns://9.9.9.9:53" }],
      .failover, none⟩,
    .begin 1 0, .answer 0 0 (.ok []), .answer 1 0 (.error .timeout), .recorded 1 0, .recorded 0 0]

/-- Two upstreams, whose counters have just started. -/
def twoUpstreams : UpstreamSystem where
  groups := [⟨["dns://9.9.9.9:53", "dns://1.1.1.1:53"],
    ⟨⟨2, .failover, 0, Nat.two_pow_pos 64⟩, []⟩⟩]
  metrics := some {}

/-- A call begins while the snapshot is taken. -/
theorem upstream_snapshot_exact_reload :
    ∃ t u counters counters', run upstreamStep twoUpstreams reloadWhileAsked = some t ∧
      run upstreamStep t [.begin 0 0] = some u ∧ t.metrics = some counters ∧
      u.metrics = some counters' ∧
      ∀ requests errors, requests.Perm counters.requests → errors.Perm counters'.errors →
        twoUpstreams.SnapshotSince t (upstreamSnapshots requests errors) := by
  obtain ⟨t, hrun, ht⟩ := @exists_run_of_any _ _ upstreamStep twoUpstreams reloadWhileAsked
    (fun t => decide (t.recording = []) && (run upstreamStep t [.begin 0 0]).isSome)
    (by decide +kernel)
  rw [Bool.and_eq_true, decide_eq_true_eq, Option.isSome_iff_exists] at ht
  obtain ⟨hquiet, u, hread⟩ := ht
  obtain ⟨counters, counters', hsnapshot⟩ :=
    upstream_snapshot_exact rfl rfl hrun hquiet hread (by decide)
  exact ⟨t, u, counters, counters', hrun, hread, hsnapshot⟩

end DnsFilter
