import DnsFilter.Lib.Run
import DnsFilter.PipelineProof

/-!
# Query counters

`frameworks/metrics` counts the queries by what the filter decided on them. The counters grow where
the pipeline records a decision, which only `DnsFilterStage` does. The stage for zones that bypass
the filter comes before it, so a query it answers is not counted at all.

* `queriesTotal_exact` — over any sequence of requests, the total counts every request and is the
  sum of the other counters exactly as long as the bypass stage answers none of them.
-/

namespace DnsFilter

/-- The counters the pipeline adds to. -/
structure MetricsState where
  dnsQueriesTotal : Nat := 0
  dnsQueriesBlocked : Nat := 0
  dnsQueriesAllowed : Nat := 0
  dnsQueriesPassthrough : Nat := 0
  blocklistHitsTotal : String → Nat := fun _ => 0

namespace MetricsState

/-- `record_dns_query`, with the metrics initialised. -/
def recordDnsQuery (metrics : MetricsState) (decision : QueryDecision) : MetricsState :=
  let metrics := { metrics with dnsQueriesTotal := metrics.dnsQueriesTotal + 1 }
  match decision with
  | .blocked => { metrics with dnsQueriesBlocked := metrics.dnsQueriesBlocked + 1 }
  | .allowed => { metrics with dnsQueriesAllowed := metrics.dnsQueriesAllowed + 1 }
  | .passthrough => { metrics with dnsQueriesPassthrough := metrics.dnsQueriesPassthrough + 1 }

/-- A hit of one list. -/
def hit (metrics : MetricsState) (name : String) : MetricsState :=
  { metrics with
    blocklistHitsTotal :=
      Function.update metrics.blocklistHitsTotal name (metrics.blocklistHitsTotal name + 1) }

/-- `record_blocklist_hit`, with the metrics initialised. -/
def recordBlocklistHit (metrics : MetricsState) (listNames : List String) : MetricsState :=
  if listNames = [] then metrics.hit "unknown" else listNames.foldl hit metrics

/-- The total is the sum of the other counters. -/
def Balanced (metrics : MetricsState) : Prop :=
  metrics.dnsQueriesTotal =
    metrics.dnsQueriesBlocked + metrics.dnsQueriesAllowed + metrics.dnsQueriesPassthrough

end MetricsState

section Counting

variable {ρ : Type*}

/-- What an event does to the metrics; before they are initialised, nothing. -/
def Event.record (metrics : Option MetricsState) : Event ρ → Option MetricsState
  | .resolve _ _ => metrics
  | .recordDnsQuery decision => metrics.map (·.recordDnsQuery decision)
  | .recordBlocklistHit lists => metrics.map (·.recordBlocklistHit lists)

/-- The decisions on record. -/
def decisions (log : List (Event ρ)) : List QueryDecision :=
  log.filterMap fun
    | .recordDnsQuery decision => some decision
    | _ => none

@[simp] theorem decisions_append (log log' : List (Event ρ)) :
    decisions (log ++ log') = decisions log ++ decisions log' := by
  simp [decisions]

/-- The counters are those of the decisions, added to the ones at the start. -/
structure MetricsState.Counts (metrics start : MetricsState) (decided : List QueryDecision) :
    Prop where
  total : metrics.dnsQueriesTotal = start.dnsQueriesTotal + decided.length
  blocked : metrics.dnsQueriesBlocked = start.dnsQueriesBlocked + decided.count .blocked
  allowed : metrics.dnsQueriesAllowed = start.dnsQueriesAllowed + decided.count .allowed
  passthrough :
    metrics.dnsQueriesPassthrough = start.dnsQueriesPassthrough + decided.count .passthrough

theorem MetricsState.counts_recordDnsQuery {metrics start : MetricsState}
    {decided : List QueryDecision} (h : metrics.Counts start decided) (decision : QueryDecision) :
    (metrics.recordDnsQuery decision).Counts start (decided ++ [decision]) := by
  obtain ⟨htotal, hblocked, hallowed, hpassthrough⟩ := h
  constructor <;> cases decision <;> simp [recordDnsQuery, *] <;> omega

/-- Hits of lists are counted apart. -/
theorem MetricsState.counts_recordBlocklistHit {metrics start : MetricsState}
    {decided : List QueryDecision} (h : metrics.Counts start decided) (listNames : List String) :
    (metrics.recordBlocklistHit listNames).Counts start decided := by
  have hhit : ∀ {metrics : MetricsState} (name : String), metrics.Counts start decided →
      (metrics.hit name).Counts start decided := fun _ h => ⟨h.1, h.2, h.3, h.4⟩
  have hfold : ∀ (names : List String) {metrics : MetricsState}, metrics.Counts start decided →
      (names.foldl hit metrics).Counts start decided := by
    intro names
    induction names with
    | nil => exact fun h => h
    | cons name names ih => exact fun h => ih (hhit name h)
  rw [recordBlocklistHit]
  by_cases hempty : listNames = []
  · rw [if_pos hempty]
    exact hhit _ h
  · rw [if_neg hempty]
    exact hfold _ h

/-- **What the counters say of a log**: how often each decision was recorded. -/
theorem counts_foldl_record (start : MetricsState) (log : List (Event ρ)) :
    ∃ metrics, log.foldl Event.record (some start) = some metrics ∧
      metrics.Counts start (decisions log) := by
  induction log using List.reverseRecOn with
  | nil => exact ⟨start, rfl, ⟨rfl, rfl, rfl, rfl⟩⟩
  | append_singleton log event ih =>
      obtain ⟨metrics, hfold, hcounts⟩ := ih
      rw [List.foldl_append, hfold, decisions_append]
      cases event with
      | resolve resolver query =>
          exact ⟨metrics, rfl, by simpa [decisions] using hcounts⟩
      | recordDnsQuery decision =>
          exact ⟨_, rfl, MetricsState.counts_recordDnsQuery hcounts decision⟩
      | recordBlocklistHit lists =>
          refine ⟨_, rfl, ?_⟩
          simpa [decisions] using MetricsState.counts_recordBlocklistHit hcounts lists

theorem length_eq_counts (decided : List QueryDecision) :
    decided.length = decided.count .blocked + decided.count .allowed +
      decided.count .passthrough := by
  induction decided with
  | nil => rfl
  | cons decision decided ih =>
      rw [List.length_cons, ih]
      cases decision <;> simp <;> omega

theorem MetricsState.Counts.balanced {metrics start : MetricsState} {decided : List QueryDecision}
    (h : metrics.Counts start decided) (hstart : start.Balanced) : metrics.Balanced := by
  unfold Balanced at *
  rw [h.total, h.blocked, h.allowed, h.passthrough, hstart, length_eq_counts decided]
  omega

end Counting

/-! ## What a request adds -/

section Stages

variable {ρ : Type*} {codec : MessageCodec} {oracle : Oracle ρ}

/-- A stage that records no decision. -/
def Silent (stage : Stage ρ) : Prop :=
  ∀ log request, decisions (stage log request).2 = decisions log

/-- Only the first stage records decisions if the others are silent. -/
theorem decisions_handleRequest_cons {stage : Stage ρ} {stages : List (Stage ρ)}
    (h : Silent (handleRequest stages)) (log : List (Event ρ)) (request : DnsPipelineRequest) :
    decisions (handleRequest (stage :: stages) log request).2 =
      decisions (stage log request).2 := by
  rw [handleRequest]
  rcases stage log request with ⟨error | _ | response, log'⟩
  · rfl
  · exact h log' request
  · rfl

theorem silent_handleRequest {stages : List (Stage ρ)} (h : ∀ stage ∈ stages, Silent stage) :
    Silent (handleRequest stages) := by
  induction stages with
  | nil => exact fun log request => rfl
  | cons stage stages ih =>
      intro log request
      have hrest := ih fun stage hmem => h stage (List.mem_cons_of_mem _ hmem)
      rw [decisions_handleRequest_cons hrest, h stage List.mem_cons_self]

theorem silent_zoneForwardingStage (entries : List (ZoneEntry ρ)) :
    Silent (zoneForwardingStage codec oracle entries) := by
  intro log request
  unfold zoneForwardingStage
  cases (extractQueryName codec request.query).bind (matchingEntry entries) with
  | none => rfl
  | some entry =>
      dsimp only
      cases oracle log entry.resolver request.query with
      | ok response => simp [decisions]
      | error error =>
          by_cases hfallback : entry.fallbackToDefaultResolvers = true
          · simp [decisions, hfallback]
          · simp [decisions, hfallback]

theorem silent_dnsAnyQueryPolicyStage (policy : AnyQueryPolicy) :
    Silent (dnsAnyQueryPolicyStage codec policy : Stage ρ) := by
  intro log request
  unfold dnsAnyQueryPolicyStage
  split
  · split <;> rfl
  · rfl

theorem silent_dnsUpstreamStage (resolver : ρ) :
    Silent (dnsUpstreamStage codec oracle resolver) := by
  intro log request
  unfold dnsUpstreamStage
  dsimp only
  cases oracle log resolver request.query with
  | ok response => simp [decisions]
  | error error =>
      by_cases hnodata : isDnssecNodataProtocolError error = true
      · simp [decisions, hnodata]
      · simp [decisions, hnodata]

/-- The filter records one decision on a query with a question. -/
theorem decisions_dnsFilterStage {request : DnsPipelineRequest}
    (hquestion : extractQueryName codec request.query ≠ none) (filter : DomainFilter)
    (filteringEnabled : Bool) (log : List (Event ρ)) :
    ∃ decision, decisions (dnsFilterStage codec filter filteringEnabled log request).2 =
      decisions log ++ [decision] := by
  unfold dnsFilterStage
  cases filteringEnabled with
  | false => exact ⟨.passthrough, by simp [decisions]⟩
  | true =>
      unfold extractQueryName at hquestion
      cases hmessage : codec.fromVec request.query with
      | none => exact absurd (by rw [hmessage]; rfl) hquestion
      | some message =>
          rw [hmessage] at hquestion
          cases hfirst : message.queries.head? with
          | none => exact absurd (by simp [hfirst]) hquestion
          | some question =>
              cases hdecision : filter.decideDomain question.name.toAscii with
              | allow => exact ⟨.allowed, by simp [decisions, hfirst, hdecision]⟩
              | neutral => exact ⟨.passthrough, by simp [decisions, hfirst, hdecision]⟩
              | block => exact ⟨.blocked, by simp [decisions, hfirst, hdecision]⟩

end Stages

/-- A request with a question, and what the server is configured to at that time. -/
structure Arrival (codec : MessageCodec) (ρ : Type*) where
  query : Bytes
  hasQuestion : extractQueryName codec query ≠ none
  resolver : ρ
  filter : DomainFilter
  anyQueryPolicy : AnyQueryPolicy
  zoneEntries : List (ZoneEntry ρ)
  filteringEnabled : Option Bool

namespace Arrival

variable {codec : MessageCodec} {ρ : Type*} (oracle : Oracle ρ)

/-- The log after the request. -/
def handle (arrival : Arrival codec ρ) (log : List (Event ρ)) : List (Event ρ) :=
  (handleRequest (buildDnsRequestPipelineFull codec oracle arrival.resolver arrival.filter
    arrival.anyQueryPolicy arrival.zoneEntries arrival.filteringEnabled) log
      (.new arrival.query)).2

/-- The entry of the bypass stage for the request, if any. -/
def bypassEntry (arrival : Arrival codec ρ) : Option (ZoneEntry ρ) :=
  (extractQueryName codec arrival.query).bind (matchingEntry (bypassOnly arrival.zoneEntries))

/-- The bypass stage does not answer the request: no entry is for it, or that entry's resolver
fails and the default resolvers are to be used. -/
def ReachesFilter (log : List (Event ρ)) (arrival : Arrival codec ρ) : Prop :=
  ∀ entry ∈ arrival.bypassEntry, entry.fallbackToDefaultResolvers = true ∧
    (oracle log entry.resolver arrival.query).toOption = none

variable {oracle} {arrival : Arrival codec ρ} {log : List (Event ρ)}

theorem bypassStage_passes_iff (oracle : Oracle ρ) (arrival : Arrival codec ρ) (log : List (Event ρ)) :
    ∃ outcome log', zoneForwardingStage codec oracle (bypassOnly arrival.zoneEntries) log
        (.new arrival.query) = (.ok outcome, log') ∧
      (outcome = none ↔ arrival.ReachesFilter oracle log) := by
  have hentry : (extractQueryName codec (DnsPipelineRequest.new arrival.query).query).bind
      (matchingEntry (bypassOnly arrival.zoneEntries)) = arrival.bypassEntry := rfl
  unfold zoneForwardingStage ReachesFilter
  rw [hentry]
  cases arrival.bypassEntry with
  | none => exact ⟨none, log, rfl, by simp⟩
  | some entry =>
      have hquery : (DnsPipelineRequest.new arrival.query).query = arrival.query := rfl
      rw [hquery]
      dsimp only
      cases hresult : oracle log entry.resolver arrival.query with
      | ok response => exact ⟨_, _, rfl, by simp [hresult, Except.toOption]⟩
      | error error =>
          by_cases hfallback : entry.fallbackToDefaultResolvers = true
          · refine ⟨none, _, by rw [if_pos hfallback], ?_⟩
            simp [hresult, hfallback, Except.toOption]
          · refine ⟨some _, _, by rw [if_neg hfallback], ?_⟩
            simp [hfallback]

/-- **What a request adds to the record**: one decision if it gets to the filter, else nothing. -/
theorem length_decisions_handle [Decidable (arrival.ReachesFilter oracle log)] :
    (decisions (arrival.handle oracle log)).length =
      (decisions log).length + if arrival.ReachesFilter oracle log then 1 else 0 := by
  obtain ⟨outcome, log₁, hbypass, hreaches⟩ := bypassStage_passes_iff oracle arrival log
  have hsilent := @silent_zoneForwardingStage ρ codec oracle (bypassOnly arrival.zoneEntries) log
    (.new arrival.query)
  rw [hbypass] at hsilent
  unfold handle buildDnsRequestPipelineFull
  cases outcome with
  | some response =>
      rw [handleRequest_answer hbypass, if_neg (by rw [← hreaches]; simp), hsilent]
      rfl
  | none =>
      rw [handleRequest_pass hbypass, if_pos (hreaches.1 rfl), ← hsilent]
      obtain ⟨decision, hdecision⟩ := @decisions_dnsFilterStage ρ codec (.new arrival.query)
        arrival.hasQuestion arrival.filter (arrival.filteringEnabled.getD true) log₁
      rw [decisions_handleRequest_cons, hdecision, List.length_append]
      · rfl
      · apply silent_handleRequest
        simp only [List.forall_mem_cons]
        exact ⟨silent_dnsAnyQueryPolicyStage _, silent_zoneForwardingStage _,
          silent_dnsUpstreamStage _, fun _ _ => rfl, by simp⟩

end Arrival

/-! ## Runs -/

/-- The server between two requests: everything that happened, and how many requests there were. -/
structure ServerLog (ρ : Type*) where
  log : List (Event ρ) := []
  requests : Nat := 0

namespace ServerLog

variable {codec : MessageCodec} {ρ : Type*} (oracle : Oracle ρ)

/-- A request is handled. -/
def step (server : ServerLog ρ) (arrival : Arrival codec ρ) : Option (ServerLog ρ) :=
  some ⟨arrival.handle oracle server.log, server.requests + 1⟩

/-- The metrics, which were initialised before the first request. -/
def metrics (server : ServerLog ρ) : Option MetricsState :=
  server.log.foldl Event.record (some {})

/-- Every request is counted, as blocked, allowed or passed through. -/
def CountsAll (server : ServerLog ρ) : Prop :=
  ∃ metrics, server.metrics = some metrics ∧ metrics.dnsQueriesTotal = server.requests ∧
    metrics.Balanced

variable {oracle}

/-- The sum is always right. What can be wrong is the total. -/
theorem countsAll_iff {server : ServerLog ρ} :
    server.CountsAll ↔ (decisions server.log).length = server.requests := by
  obtain ⟨metrics, hmetrics, hcounts⟩ := counts_foldl_record {} server.log
  have htotal : metrics.dnsQueriesTotal = (decisions server.log).length := by
    rw [hcounts.total, Nat.zero_add]
  unfold CountsAll
  rw [ServerLog.metrics, hmetrics, ← htotal]
  constructor
  · rintro ⟨metrics', hsame, htotal', -⟩
    rw [Option.some.inj hsame]
    exact htotal'
  · intro h
    exact ⟨metrics, rfl, h, hcounts.balanced rfl⟩

theorem countsAll_step {server server' : ServerLog ρ} {arrival : Arrival codec ρ}
    (h : server.CountsAll) (hstep : step oracle server arrival = some server') :
    server'.CountsAll ↔ arrival.ReachesFilter oracle server.log := by
  classical
  rw [countsAll_iff] at h
  rw [← Option.some.inj hstep, countsAll_iff]
  dsimp only
  rw [Arrival.length_decisions_handle, h]
  split_ifs with hreaches <;> simp [hreaches]

theorem exists_run (oracle : Oracle ρ) (server : ServerLog ρ) (arrivals : List (Arrival codec ρ)) :
    ∃ server', run (step oracle) server arrivals = some server' ∧
      server'.requests = server.requests + arrivals.length := by
  induction arrivals generalizing server with
  | nil => exact ⟨server, rfl, rfl⟩
  | cons arrival arrivals ih =>
      obtain ⟨server', hrun, hrequests⟩ :=
        ih ⟨arrival.handle oracle server.log, server.requests + 1⟩
      refine ⟨server', run_cons_eq_some.2 ⟨_, rfl, hrun⟩, ?_⟩
      rw [hrequests, List.length_cons]
      dsimp only
      omega

/-- **The query counters over any sequence of requests**: they account for every request exactly as
long as the bypass stage answers none. -/
theorem queriesTotal_exact (oracle : Oracle ρ) (arrivals : List (Arrival codec ρ)) :
    (∀ pre, pre <+: arrivals → ∃ server, run (step oracle) {} pre = some server ∧
      server.requests = pre.length ∧ server.CountsAll) ↔
      AllSteps (step oracle) (fun server arrival => arrival.ReachesFilter oracle server.log) {}
        arrivals := by
  obtain ⟨last, hlast, -⟩ := exists_run oracle {} arrivals
  have hstart : ({} : ServerLog ρ).CountsAll := countsAll_iff.2 rfl
  have hiff := @forall_reached_iff_allSteps (ServerLog ρ) (Arrival codec ρ) (step oracle)
    (fun _ => True) CountsAll (fun server arrival => arrival.ReachesFilter oracle server.log)
    (fun _ _ _ _ _ => trivial) (fun _ _ _ _ h hstep => countsAll_step h hstep) {} last arrivals
    hlast trivial hstart
  rw [← hiff]
  constructor
  · intro h pre hpre server hrun
    obtain ⟨server', hrun', -, hcounts⟩ := h pre hpre
    rw [hrun, Option.some.injEq] at hrun'
    rwa [hrun']
  · intro h pre hpre
    obtain ⟨server, hrun, hrequests⟩ := exists_run oracle {} pre
    refine ⟨server, hrun, ?_, h pre hpre server hrun⟩
    rw [hrequests, Nat.zero_add]

/-- A query for `ads.example` while that zone bypasses the filter. -/
def adsArrival : Arrival adsCodec Nat where
  query := adsQueryBytes
  hasQuestion := by decide +kernel
  resolver := 0
  filter := blockAll
  anyQueryPolicy := .passthrough
  zoneEntries := [⟨"ads.example", true, false, 1⟩]
  filteringEnabled := none

theorem not_countsAll_bypass :
    ¬ ∀ (codec : MessageCodec) (ρ : Type) (oracle : Oracle ρ) (arrivals : List (Arrival codec ρ)),
      ∀ pre, pre <+: arrivals → ∃ server, run (step oracle) {} pre = some server ∧
        server.requests = pre.length ∧ server.CountsAll := by
  intro hall
  obtain ⟨server, hrun, -, hcounts⟩ := hall adsCodec Nat (fun _ _ query => .ok query) [adsArrival]
    [adsArrival] (List.prefix_refl _)
  have hserver : server = ⟨adsArrival.handle (fun _ _ query => .ok query) [], 1⟩ :=
    (Option.some.inj hrun).symm
  rw [countsAll_iff, hserver] at hcounts
  exact absurd hcounts (by decide +kernel)

end ServerLog

end DnsFilter
