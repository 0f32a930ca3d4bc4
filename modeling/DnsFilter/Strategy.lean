import DnsFilter.Bootstrap
import DnsFilter.Lib.Cycle
import DnsFilter.Lib.Run
import DnsFilter.Pipeline

/-!
# Choosing an upstream resolver

`StrategyUpstreamResolver::resolve` asks its resolvers one after the other, from a start that its
strategy chooses, until one of them answers. Resolvers are named by their position.

* `AsksInOrder` — what a call should do, and `resolve_inOrder`, that it does it for every strategy.
* `Dispatch`, `dispatchStep` — calls that overlap: a call begins, which advances the shared counter,
  and the resolver that a call is waiting for answers. `Call.Follows` is the invariant: a call goes
  as `resolve` goes, and until it ends it has a resolver left to ask.
* `starts_run` — the starts of the calls follow the counter, however the calls overlap.
* **`strategy_inOrder_balanced`** — every call asks in order, and round robin is fair.
-/

namespace DnsFilter

/-- What a resolver answers to a query. -/
abbrev Answer := Except UpstreamResolveError Bytes

/-! ## One call -/

/-- The loop of `resolve` over the positions it goes through: the result, and which resolvers were
asked for it. -/
def tryResolvers (ask : Nat → Answer) : UpstreamResolveError → List Nat → Answer × List Nat
  | lastErr, [] => (.error lastErr, [])
  | _, idx :: rest =>
      match ask idx with
      | .ok resp => (.ok resp, [idx])
      | .error e => ((tryResolvers ask e rest).1, idx :: (tryResolvers ask e rest).2)

/-- `StrategyUpstreamResolver`: the number of its resolvers, and a 64-bit counter. -/
structure StrategyUpstreamResolver where
  resolvers : Nat
  strategy : UpstreamStrategy
  counter : Nat
  counter_lt : counter < 2 ^ 64
  deriving DecidableEq

namespace StrategyUpstreamResolver

/-- `counter.fetch_add(1)`. -/
def fetchAdd (resolver : StrategyUpstreamResolver) : StrategyUpstreamResolver :=
  { resolver with
    counter := (resolver.counter + 1) % 2 ^ 64
    counter_lt := Nat.mod_lt _ (by decide) }

/-- `resolve`, with the number that the random strategy draws and the answers of the resolvers. -/
def resolve (resolver : StrategyUpstreamResolver) (random : Nat) (ask : Nat → Answer) :
    (Answer × List Nat) × StrategyUpstreamResolver :=
  if resolver.resolvers = 0 then ((.error .allFailed, []), resolver)
  else match resolver.strategy with
    | .roundRobin =>
        let start := resolver.counter % resolver.resolvers
        (tryResolvers ask .allFailed
          ((List.range resolver.resolvers).map fun i => (start + i) % resolver.resolvers),
          resolver.fetchAdd)
    | .random =>
        (tryResolvers ask .allFailed
          ((List.range resolver.resolvers).map fun i => (random + i) % resolver.resolvers),
          resolver)
    | .failover => (tryResolvers ask .allFailed (List.range resolver.resolvers), resolver)

/-- Where a call starts. -/
def startIndex (resolver : StrategyUpstreamResolver) (random : Nat) : Nat :=
  match resolver.strategy with
  | .roundRobin => resolver.counter % resolver.resolvers
  | .random => random
  | .failover => 0

end StrategyUpstreamResolver

/-- What a call with these answers should do: ask in the order, stop at the first success and return
it, or return the last error. -/
structure AsksInOrder (ask : Nat → Answer) (order : List Nat) (result : Answer) (asked : List Nat) :
    Prop where
  asked_prefix : asked <+: order
  asked_once : asked.Nodup
  stops : ∀ before idx after, asked = before ++ idx :: after → (∃ resp, ask idx = .ok resp) →
    after = []
  ok_iff : (∃ resp, result = .ok resp) ↔ ∃ idx ∈ order, ∃ resp, ask idx = .ok resp
  ok_last : ∀ resp, result = .ok resp → ∃ idx, asked.getLast? = some idx ∧ ask idx = .ok resp
  error_last : ∀ e, result = .error e →
    asked = order ∧ ∃ idx, asked.getLast? = some idx ∧ ask idx = .error e

section Loop

variable {ask : Nat → Answer} {lastErr : UpstreamResolveError} {order : List Nat}

/-- A success ends the loop. -/
theorem tryResolvers_of_ok {before after : List Nat} {idx : Nat} {resp : Bytes}
    (hbefore : ∀ j ∈ before, ∃ e, ask j = .error e) (hidx : ask idx = .ok resp) :
    tryResolvers ask lastErr (before ++ idx :: after) = (.ok resp, before ++ [idx]) := by
  induction before generalizing lastErr with
  | nil => simp [tryResolvers, hidx]
  | cons j before ih =>
      obtain ⟨e, he⟩ := hbefore j List.mem_cons_self
      have ih := @ih e fun i hi => hbefore i (List.mem_cons_of_mem _ hi)
      simp [tryResolvers, he, ih]

/-- Without a success the loop returns the last error. -/
theorem tryResolvers_of_error (h : ∀ j ∈ order, ∃ e, ask j = .error e) (hne : order ≠ []) :
    ∃ idx e, order.getLast? = some idx ∧ ask idx = .error e ∧
      tryResolvers ask lastErr order = (.error e, order) := by
  induction order generalizing lastErr with
  | nil => exact absurd rfl hne
  | cons j order ih =>
      obtain ⟨e, he⟩ := h j List.mem_cons_self
      by_cases hnil : order = []
      · exact ⟨j, e, by simp [hnil], he, by simp [tryResolvers, he, hnil]⟩
      · obtain ⟨idx, e', hidx, hask, htry⟩ :=
          @ih e (fun i hi => h i (List.mem_cons_of_mem _ hi)) hnil
        refine ⟨idx, e', ?_, hask, ?_⟩
        · rw [List.getLast?_cons_of_ne_nil hnil, hidx]
        · simp [tryResolvers, he, htry]

/-- The first success among the answers, if there is one. -/
theorem exists_first_ok (h : ∃ idx ∈ order, ∃ resp, ask idx = .ok resp) :
    ∃ before idx after resp, order = before ++ idx :: after ∧
      (∀ j ∈ before, ∃ e, ask j = .error e) ∧ ask idx = .ok resp := by
  induction order with
  | nil => exact absurd h (by simp)
  | cons j order ih =>
      cases hj : ask j with
      | ok resp => exact ⟨[], j, order, resp, rfl, by simp, hj⟩
      | error e =>
          have hrest : ∃ idx ∈ order, ∃ resp, ask idx = .ok resp := by
            obtain ⟨idx, hmem, resp, hidx⟩ := h
            rcases List.mem_cons.1 hmem with rfl | hmem
            · exact absurd (hidx.symm.trans hj) (by simp)
            · exact ⟨idx, hmem, resp, hidx⟩
          obtain ⟨before, idx, after, resp, rfl, hbefore, hidx⟩ := ih hrest
          refine ⟨j :: before, idx, after, resp, rfl, ?_, hidx⟩
          intro i hi
          rcases List.mem_cons.1 hi with rfl | hi
          · exact ⟨e, hj⟩
          · exact hbefore i hi

/-- A loop that meets a success does what a call should do. -/
theorem inOrder_of_ok (hnodup : order.Nodup) (hok : ∃ idx ∈ order, ∃ resp, ask idx = .ok resp) :
    AsksInOrder ask order (tryResolvers ask lastErr order).1
      (tryResolvers ask lastErr order).2 := by
  obtain ⟨before, idx, after, resp, rfl, hbefore, hidx⟩ := exists_first_ok hok
  rw [tryResolvers_of_ok hbefore hidx]
  have hpre : before ++ [idx] <+: before ++ idx :: after := ⟨after, by simp⟩
  refine ⟨hpre, hnodup.sublist hpre.sublist, ?_, iff_of_true ⟨resp, rfl⟩ hok, ?_, ?_⟩
  · intro before' idx' after' heq hsuccess
    -- anything before the last resolver that was asked has failed
    by_contra hafter
    have hdrop := congrArg List.dropLast heq
    rw [List.dropLast_concat, List.dropLast_append_of_ne_nil (by simp),
      List.dropLast_cons_of_ne_nil hafter] at hdrop
    obtain ⟨e, he⟩ := hbefore idx' (by rw [hdrop]; simp)
    obtain ⟨resp', hresp'⟩ := hsuccess
    exact absurd (he.symm.trans hresp') (by simp)
  · intro resp' hresp'
    refine ⟨idx, by simp, ?_⟩
    rw [hidx, Except.ok.inj hresp']
  · intro e he
    exact absurd he (by simp)

/-- So does one that meets none. -/
theorem inOrder_of_error (hnodup : order.Nodup) (hne : order ≠ [])
    (herr : ∀ j ∈ order, ∃ e, ask j = .error e) :
    AsksInOrder ask order (tryResolvers ask lastErr order).1
      (tryResolvers ask lastErr order).2 := by
  have hno : ∀ j ∈ order, ¬ ∃ resp, ask j = .ok resp := by
    intro j hj ⟨resp, hresp⟩
    obtain ⟨e, he⟩ := herr j hj
    exact absurd (he.symm.trans hresp) (by simp)
  obtain ⟨idx, e, hlast, hidx, htry⟩ := @tryResolvers_of_error ask lastErr order herr hne
  rw [htry]
  refine ⟨List.prefix_rfl, hnodup, ?_, ?_, ?_, ?_⟩
  · intro before idx' after heq hsuccess
    have horder : order = before ++ idx' :: after := heq
    exact absurd hsuccess (hno idx' (by rw [horder]; simp))
  · refine iff_of_false (by simp) ?_
    intro ⟨j, hj, hsuccess⟩
    exact hno j hj hsuccess
  · intro resp hresp
    exact absurd hresp (by simp)
  · intro e' he'
    refine ⟨rfl, idx, hlast, ?_⟩
    rw [hidx, Except.error.inj he']

/-- The loop does what a call should do. -/
theorem inOrder_tryResolvers (hnodup : order.Nodup) (hne : order ≠ []) :
    AsksInOrder ask order (tryResolvers ask lastErr order).1
      (tryResolvers ask lastErr order).2 := by
  by_cases hok : ∃ idx ∈ order, ∃ resp, ask idx = .ok resp
  · exact inOrder_of_ok hnodup hok
  · apply inOrder_of_error hnodup hne
    intro j hj
    cases hask : ask j with
    | ok resp => exact absurd ⟨j, hj, resp, hask⟩ hok
    | error e => exact ⟨e, rfl⟩

end Loop

/-- Every strategy goes once round the resolvers from its start. -/
theorem resolve_eq {resolver : StrategyUpstreamResolver} (h : resolver.resolvers ≠ 0) (random : Nat)
    (ask : Nat → Answer) :
    (resolver.resolve random ask).1 =
      tryResolvers ask .allFailed
        (cyclicOrder (resolver.startIndex random) resolver.resolvers) := by
  unfold StrategyUpstreamResolver.resolve StrategyUpstreamResolver.startIndex
  rw [if_neg h]
  cases resolver.strategy with
  | roundRobin => rfl
  | random => rfl
  | failover =>
      show tryResolvers ask .allFailed (List.range resolver.resolvers) = _
      rw [cyclicOrder_zero]

theorem resolve_inOrder {resolver : StrategyUpstreamResolver} (h : resolver.resolvers ≠ 0)
    (random : Nat) (ask : Nat → Answer) :
    AsksInOrder ask (cyclicOrder (resolver.startIndex random) resolver.resolvers)
      (resolver.resolve random ask).1.1 (resolver.resolve random ask).1.2 := by
  rw [resolve_eq h]
  exact inOrder_tryResolvers (nodup_cyclicOrder _ _) (cyclicOrder_ne_nil _ h)

/-! ## Calls that overlap -/

/-- A call on its way: where it started, the resolvers it has still to ask, what it has been
answered, and its result. -/
structure Call where
  start : Nat
  remaining : List Nat
  lastErr : UpstreamResolveError
  answers : List (Nat × Answer)
  outcome : Option Answer
  deriving DecidableEq

/-- The resolvers that the call has asked. -/
def Call.asked (call : Call) : List Nat := call.answers.map (·.1)

/-- A resolver and the calls that were made to it. -/
structure Dispatch where
  resolver : StrategyUpstreamResolver
  calls : List Call
  deriving DecidableEq

inductive DispatchEvent
  | begin (random : Nat)
  | answer (call : Nat) (answer : Answer)
  deriving DecidableEq

/-- The call that begins, up to its first question. -/
def StrategyUpstreamResolver.beginCall (resolver : StrategyUpstreamResolver) (random : Nat) :
    Call where
  start := resolver.startIndex random
  remaining := cyclicOrder (resolver.startIndex random) resolver.resolvers
  lastErr := .allFailed
  answers := []
  outcome := none

/-- The resolver after a call has begun. -/
def StrategyUpstreamResolver.advance (resolver : StrategyUpstreamResolver) :
    StrategyUpstreamResolver :=
  if resolver.strategy = .roundRobin then resolver.fetchAdd else resolver

/-- The resolver that the call is waiting for answers; the call asks the next one or ends. -/
def Call.answered (call : Call) (answer : Answer) : Option Call :=
  match call.outcome, call.remaining with
  | none, idx :: rest =>
      match answer with
      | .ok resp =>
          some { call with
            remaining := rest
            answers := call.answers ++ [(idx, .ok resp)]
            outcome := some (.ok resp) }
      | .error e =>
          some { call with
            remaining := rest
            lastErr := e
            answers := call.answers ++ [(idx, .error e)]
            outcome := if rest = [] then some (.error e) else none }
  | _, _ => none

/-- A step of the overlapping calls. The random strategy draws a position. -/
def dispatchStep (state : Dispatch) : DispatchEvent → Option Dispatch
  | .begin random =>
      if random < state.resolver.resolvers then
        some ⟨state.resolver.advance, state.calls ++ [state.resolver.beginCall random]⟩
      else none
  | .answer i answer => do
      let call ← state.calls[i]?
      let call ← call.answered answer
      return { state with calls := state.calls.set i call }

/-! ## What a call has done -/

/-- The rest of the call, given what the resolvers will answer. -/
def Call.replay (call : Call) (ask : Nat → Answer) : Answer × List Nat :=
  match call.outcome with
  | some result => (result, call.asked)
  | none => ((tryResolvers ask call.lastErr call.remaining).1,
      call.asked ++ (tryResolvers ask call.lastErr call.remaining).2)

/-- The answers are those that the call has been given. -/
def Call.Answers (call : Call) (ask : Nat → Answer) : Prop :=
  ∀ given ∈ call.answers, ask given.1 = given.2

/-- The call goes as the loop goes from its start. As long as it has not ended, it has a resolver
left to ask, and those it asked have failed. -/
structure Call.Follows (n : Nat) (call : Call) : Prop where
  order : call.asked ++ call.remaining = cyclicOrder call.start n
  replay : ∀ ask, call.Answers ask →
    tryResolvers ask .allFailed (cyclicOrder call.start n) = call.replay ask
  pending : call.outcome = none →
    call.remaining ≠ [] ∧ ∀ given ∈ call.answers, ∃ e, given.2 = .error e

theorem follows_beginCall {resolver : StrategyUpstreamResolver} (h : resolver.resolvers ≠ 0)
    (random : Nat) : (resolver.beginCall random).Follows resolver.resolvers where
  order := rfl
  replay _ _ := rfl
  pending _ := ⟨cyclicOrder_ne_nil _ h, by simp [StrategyUpstreamResolver.beginCall]⟩

theorem Call.answered_eq_some {call call' : Call} {answer : Answer}
    (h : call.answered answer = some call') :
    ∃ idx rest, call.outcome = none ∧ call.remaining = idx :: rest ∧
      call'.start = call.start ∧ call'.remaining = rest ∧
      call'.answers = call.answers ++ [(idx, answer)] ∧
      ((∃ resp, answer = .ok resp ∧ call'.outcome = some (.ok resp)) ∨
        ∃ e, answer = .error e ∧ call'.lastErr = e ∧
          call'.outcome = if rest = [] then some (.error e) else none) := by
  unfold Call.answered at h
  split at h
  · rename_i idx rest hnone hremaining
    cases answer with
    | ok resp =>
        obtain rfl := Option.some.inj h
        exact ⟨idx, rest, hnone, hremaining, rfl, rfl, rfl, .inl ⟨resp, rfl, rfl⟩⟩
    | error e =>
        obtain rfl := Option.some.inj h
        exact ⟨idx, rest, hnone, hremaining, rfl, rfl, rfl, .inr ⟨e, rfl, rfl, rfl⟩⟩
  · exact absurd h (by simp)

theorem Call.Follows.answered {n : Nat} {call call' : Call} {answer : Answer} (h : call.Follows n)
    (hanswer : call.answered answer = some call') : call'.Follows n := by
  obtain ⟨idx, rest, hnone, hremaining, hstart, hrest, hanswers, houtcome⟩ :=
    Call.answered_eq_some hanswer
  have hasked : call'.asked = call.asked ++ [idx] := by
    rw [Call.asked, hanswers, List.map_append]
    rfl
  refine ⟨?_, ?_, ?_⟩
  · rw [hasked, hrest, hstart, ← h.order, hremaining]
    simp
  · intro ask hask
    rw [Call.Answers, hanswers] at hask
    have hidx : ask idx = answer := hask (idx, answer) (by simp)
    have hbefore := h.replay ask fun given hgiven => hask given (by simp [hgiven])
    rw [Call.replay, hnone, hremaining] at hbefore
    rw [hstart, hbefore, Call.replay, hasked, hrest]
    rcases houtcome with ⟨resp, rfl, hout⟩ | ⟨e, rfl, hlast, hout⟩
    · simp [tryResolvers, hidx, hout]
    · by_cases hnil : rest = []
      · simp [tryResolvers, hidx, hout, hnil]
      · simp [tryResolvers, hidx, hout, hnil, hlast]
  · intro hnone'
    rcases houtcome with ⟨resp, rfl, hout⟩ | ⟨e, rfl, hlast, hout⟩
    · exact absurd (hnone'.symm.trans hout) (by simp)
    · rw [hout] at hnone'
      rw [hrest, hanswers]
      refine ⟨fun hnil => absurd hnone' (by simp [hnil]), ?_⟩
      intro given hgiven
      rcases List.mem_append.1 hgiven with hgiven | hgiven
      · exact (h.pending hnone).2 given hgiven
      · exact ⟨e, by rw [List.mem_singleton.1 hgiven]⟩

/-- What a step does to the resolver and the calls. -/
theorem dispatchStep_eq_some {s t : Dispatch} {event : DispatchEvent}
    (h : dispatchStep s event = some t) :
    (∃ random, event = .begin random ∧ random < s.resolver.resolvers ∧
      t = ⟨s.resolver.advance, s.calls ++ [s.resolver.beginCall random]⟩) ∨
    ∃ i answer call call', event = .answer i answer ∧ s.calls[i]? = some call ∧
      call.answered answer = some call' ∧ t = { s with calls := s.calls.set i call' } := by
  cases event with
  | begin random =>
      rw [dispatchStep, Option.ite_none_right_eq_some] at h
      exact .inl ⟨random, rfl, h.1, (Option.some.inj h.2).symm⟩
  | answer i answer =>
      obtain ⟨call, hcall, h⟩ := Option.bind_eq_some_iff.1 h
      obtain ⟨call', hanswered, h⟩ := Option.bind_eq_some_iff.1 h
      exact .inr ⟨i, answer, call, call', rfl, hcall, hanswered, (Option.some.inj h).symm⟩

@[simp] theorem StrategyUpstreamResolver.advance_resolvers (resolver : StrategyUpstreamResolver) :
    resolver.advance.resolvers = resolver.resolvers := by
  unfold StrategyUpstreamResolver.advance
  split <;> rfl

@[simp] theorem StrategyUpstreamResolver.advance_strategy (resolver : StrategyUpstreamResolver) :
    resolver.advance.strategy = resolver.strategy := by
  unfold StrategyUpstreamResolver.advance
  split <;> rfl

theorem resolvers_dispatchStep {s t : Dispatch} {event : DispatchEvent}
    (h : dispatchStep s event = some t) : t.resolver.resolvers = s.resolver.resolvers := by
  rcases dispatchStep_eq_some h with ⟨random, -, -, rfl⟩ | ⟨i, answer, call, call', -, -, -, rfl⟩
  · exact s.resolver.advance_resolvers
  · rfl

/-- The calls all follow the loop. -/
def Dispatch.Follows (state : Dispatch) : Prop :=
  ∀ call ∈ state.calls, call.Follows state.resolver.resolvers

theorem follows_dispatchStep {s t : Dispatch} {event : DispatchEvent} (hs : s.Follows)
    (h : dispatchStep s event = some t) : t.Follows := by
  rcases dispatchStep_eq_some h with ⟨random, -, hlt, rfl⟩ |
    ⟨i, answer, call, call', -, hcall, hanswered, rfl⟩
  · intro call hcall
    show call.Follows s.resolver.advance.resolvers
    rw [StrategyUpstreamResolver.advance_resolvers]
    rcases List.mem_append.1 hcall with hcall | hcall
    · exact hs call hcall
    · rw [List.mem_singleton.1 hcall]
      exact follows_beginCall (Nat.ne_zero_of_lt hlt) random
  · intro other hother
    rcases List.mem_or_eq_of_mem_set hother with hother | rfl
    · exact hs other hother
    · exact (hs call (List.mem_of_getElem? hcall)).answered hanswered

/-- Answers given to distinct questions are those of some resolvers. -/
theorem Call.exists_answers {call : Call} (h : call.asked.Nodup) : ∃ ask, call.Answers ask := by
  unfold Call.Answers
  unfold Call.asked at h
  generalize call.answers = answers at h ⊢
  induction answers with
  | nil => exact ⟨fun _ => .error .allFailed, by simp⟩
  | cons given answers ih =>
      rw [List.map_cons, List.nodup_cons] at h
      obtain ⟨ask, hask⟩ := ih h.2
      refine ⟨Function.update ask given.1 given.2, ?_⟩
      intro other hother
      rcases List.mem_cons.1 hother with rfl | hother
      · rw [Function.update_self]
      · rw [Function.update_of_ne, hask other hother]
        intro heq
        exact h.1 (heq ▸ List.mem_map_of_mem hother)

theorem Call.Follows.nodup {n : Nat} {call : Call} (h : call.Follows n) :
    (call.asked ++ call.remaining).Nodup := by
  rw [h.order]
  exact nodup_cyclicOrder call.start n

/-- A call that has not ended has met no success, and has a resolver left to ask. -/
theorem Call.Follows.of_outcome_eq_none {n : Nat} {call : Call} (h : call.Follows n)
    (houtcome : call.outcome = none) :
    (∃ j < n, j ∉ call.asked) ∧ ∀ given ∈ call.answers, ∃ e, given.2 = .error e := by
  obtain ⟨hne, hfailed⟩ := h.pending houtcome
  refine ⟨?_, hfailed⟩
  obtain ⟨j, hj⟩ := List.exists_mem_of_ne_nil _ hne
  have hmem : j ∈ cyclicOrder call.start n := h.order ▸ List.mem_append_right _ hj
  refine ⟨j, mem_cyclicOrder.1 hmem, ?_⟩
  intro hasked
  exact (List.nodup_append.1 h.nodup).2.2 j hasked j hj rfl

/-- A call that has ended did what a call should do. -/
theorem Call.Follows.inOrder {n : Nat} {call : Call} (h : call.Follows n) {result : Answer}
    (houtcome : call.outcome = some result) (hn : n ≠ 0) :
    ∃ ask, call.Answers ask ∧ AsksInOrder ask (cyclicOrder call.start n) result call.asked := by
  obtain ⟨ask, hask⟩ := Call.exists_answers (List.nodup_append.1 h.nodup).1
  have hreplay := h.replay ask hask
  rw [Call.replay, houtcome] at hreplay
  have hloop := @inOrder_tryResolvers ask .allFailed _ (nodup_cyclicOrder call.start n)
    (cyclicOrder_ne_nil _ hn)
  rw [hreplay] at hloop
  exact ⟨ask, hask, hloop⟩

/-! ## Where calls start -/

/-- How many calls begin. -/
def begins (events : List DispatchEvent) : Nat :=
  events.countP fun event => match event with
    | .begin _ => true
    | .answer _ _ => false

/-- Where the calls started, in the order in which they began. -/
def Dispatch.starts (state : Dispatch) : List Nat := state.calls.map (·.start)

theorem starts_dispatchStep {s t : Dispatch} {event : DispatchEvent}
    (h : dispatchStep s event = some t) (hstrategy : s.resolver.strategy = .roundRobin) :
    t.resolver.resolvers = s.resolver.resolvers ∧ t.resolver.strategy = .roundRobin ∧
      ((begins [event] = 0 ∧ t.resolver.counter = s.resolver.counter ∧ t.starts = s.starts) ∨
        begins [event] = 1 ∧ t.resolver.counter = (s.resolver.counter + 1) % 2 ^ 64 ∧
          t.starts = s.starts ++ [s.resolver.counter % s.resolver.resolvers]) := by
  rcases dispatchStep_eq_some h with ⟨random, rfl, -, rfl⟩ |
    ⟨i, answer, call, call', rfl, hcall, hanswered, rfl⟩
  · have hadvance : s.resolver.advance = s.resolver.fetchAdd := if_pos hstrategy
    have hstart : (s.resolver.beginCall random).start =
        s.resolver.counter % s.resolver.resolvers := by
      show s.resolver.startIndex random = _
      rw [StrategyUpstreamResolver.startIndex, hstrategy]
    refine ⟨by simp, by simp [hstrategy], .inr ⟨rfl, ?_, ?_⟩⟩
    · rw [hadvance]
      rfl
    · simp [Dispatch.starts, hstart]
  · refine ⟨rfl, hstrategy, .inl ⟨rfl, rfl, ?_⟩⟩
    obtain ⟨idx, rest, -, -, hstart, -⟩ := Call.answered_eq_some hanswered
    obtain ⟨hi, hget⟩ := List.getElem?_eq_some_iff.1 hcall
    have hmap : i < (s.calls.map (·.start)).length := by rwa [List.length_map]
    have hsame : call'.start = (s.calls.map (·.start))[i] := by
      rw [hstart, List.getElem_map, hget]
    show (s.calls.set i call').map (·.start) = s.calls.map (·.start)
    rw [List.map_set, hsame, List.set_getElem_self]

/-- However calls overlap, the counter alone decides where they start. -/
theorem starts_run {s t : Dispatch} {events : List DispatchEvent}
    (h : run dispatchStep s events = some t) (hstrategy : s.resolver.strategy = .roundRobin) :
    t.starts = s.starts ++ (List.range (begins events)).map fun i =>
      (s.resolver.counter + i) % 2 ^ 64 % s.resolver.resolvers := by
  induction events generalizing s with
  | nil =>
      rw [run_nil, Option.some.injEq] at h
      simp [h, begins]
  | cons event events ih =>
      obtain ⟨s', hstep, hrun⟩ := run_cons_eq_some.1 h
      obtain ⟨hresolvers, hstrategy', hcases⟩ := starts_dispatchStep hstep hstrategy
      have hbegins : begins (event :: events) = begins [event] + begins events := by
        rw [begins, begins, begins, ← List.countP_append]
        rfl
      rcases hcases with ⟨hzero, hsame, hstarts⟩ | ⟨hone, hnext, hstarts⟩
      · rw [ih hrun hstrategy', hstarts, hsame, hresolvers, hbegins, hzero, Nat.zero_add]
      · have hhead : (s.resolver.counter + 0) % 2 ^ 64 % s.resolver.resolvers =
            s.resolver.counter % s.resolver.resolvers := by
          rw [Nat.add_zero, Nat.mod_eq_of_lt s.resolver.counter_lt]
        rw [ih hrun hstrategy', hstarts, hnext, hresolvers, hbegins, hone, Nat.add_comm 1,
          List.range_succ_eq_map, List.map_cons, List.map_map, List.append_assoc,
          List.singleton_append, hhead]
        congr 2
        apply List.map_congr_left
        intro i _
        show _ = (s.resolver.counter + (i + 1)) % 2 ^ 64 % s.resolver.resolvers
        rw [Nat.mod_add_mod, Nat.add_assoc, Nat.add_comm 1 i]

/-- **Every strategy asks in order, and round robin is fair.** A call goes through the resolvers
from its start and stops at the first success, alone or among other calls; among others it has ended
once a resolver has succeeded or all of them have answered. As long as the counter does not wrap,
`k` rounds of calls start at every resolver `k` times. -/
theorem strategy_inOrder_balanced :
    (∀ (resolver : StrategyUpstreamResolver) (random : Nat) (ask : Nat → Answer),
      1 ≤ resolver.resolvers → random < resolver.resolvers →
      AsksInOrder ask (cyclicOrder (resolver.startIndex random) resolver.resolvers)
        (resolver.resolve random ask).1.1 (resolver.resolve random ask).1.2) ∧
    (∀ (resolver : StrategyUpstreamResolver) (events : List DispatchEvent) (t : Dispatch),
      1 ≤ resolver.resolvers → run dispatchStep ⟨resolver, []⟩ events = some t →
      ∀ call ∈ t.calls,
        (call.outcome = none → (∃ j < resolver.resolvers, j ∉ call.asked) ∧
          ∀ given ∈ call.answers, ∃ e, given.2 = .error e) ∧
        ∀ result, call.outcome = some result →
          ∃ ask, call.Answers ask ∧
            AsksInOrder ask (cyclicOrder call.start resolver.resolvers) result call.asked) ∧
    (∀ (s t : Dispatch) (events : List DispatchEvent) (k : Nat),
      run dispatchStep s events = some t → s.resolver.strategy = .roundRobin →
      1 ≤ s.resolver.resolvers → begins events = k * s.resolver.resolvers →
      s.resolver.counter + k * s.resolver.resolvers ≤ 2 ^ 64 →
      ∃ starts, t.starts = s.starts ++ starts ∧
        ∀ j < s.resolver.resolvers, starts.count j = k) := by
  refine ⟨?_, ?_, ?_⟩
  · intro resolver random ask hn _
    exact resolve_inOrder (by omega) random ask
  · intro resolver events t hn hrun call hcall
    have hstep : ∀ (s : Dispatch) (event : DispatchEvent) (s' : Dispatch),
        s.resolver.resolvers = resolver.resolvers ∧ s.Follows → dispatchStep s event = some s' →
        s'.resolver.resolvers = resolver.resolvers ∧ s'.Follows := by
      intro s event s' hs h
      exact ⟨(resolvers_dispatchStep h).trans hs.1, follows_dispatchStep hs.2 h⟩
    obtain ⟨hresolvers, hfollows⟩ := run_invariant hstep hrun ⟨rfl, by simp [Dispatch.Follows]⟩
    have hcall := hfollows call hcall
    rw [← hresolvers]
    exact ⟨fun hnone => hcall.of_outcome_eq_none hnone,
      fun result houtcome => hcall.inOrder houtcome (by omega)⟩
  · intro s t events k hrun hstrategy hn hbegins hwrap
    refine ⟨_, starts_run hrun hstrategy, ?_⟩
    intro j hj
    have hmap : (List.range (k * s.resolver.resolvers)).map (fun i =>
        (s.resolver.counter + i) % 2 ^ 64 % s.resolver.resolvers) =
        (List.range (k * s.resolver.resolvers)).map fun i =>
          (s.resolver.counter + i) % s.resolver.resolvers := by
      apply List.map_congr_left
      intro i hi
      have hlt := List.mem_range.1 hi
      have hfit : s.resolver.counter + i < 2 ^ 64 := by omega
      rw [Nat.mod_eq_of_lt hfit]
    rw [hbegins, hmap, count_rounds _ _ hj]

/-- Two resolvers, the counter at the second one. -/
def twoResolvers : StrategyUpstreamResolver := ⟨2, .roundRobin, 5, by decide⟩

/-- Four calls that overlap: two succeed, one fails at both resolvers, one has no answer yet. -/
def overlappingCalls : List DispatchEvent :=
  [.begin 0, .begin 0, .answer 1 (.error .timeout), .answer 0 (.ok []), .begin 0, .answer 1 (.ok []),
    .answer 2 (.error .timeout), .begin 0, .answer 2 (.error .timeout)]

theorem strategy_inOrder_balanced_twoResolvers :
    (∀ ask : Nat → Answer, AsksInOrder ask (cyclicOrder (twoResolvers.startIndex 0) 2)
      (twoResolvers.resolve 0 ask).1.1 (twoResolvers.resolve 0 ask).1.2) ∧
    ∃ t, run dispatchStep ⟨twoResolvers, []⟩ overlappingCalls = some t ∧
      t.calls.map (·.asked) = [[1], [0, 1], [1, 0], []] ∧
      t.calls.map (·.outcome) =
        [some (.ok []), some (.ok []), some (.error .timeout), none] ∧
      (∀ call ∈ t.calls,
        (call.outcome = none → (∃ j < 2, j ∉ call.asked) ∧
          ∀ given ∈ call.answers, ∃ e, given.2 = .error e) ∧
        ∀ result, call.outcome = some result →
          ∃ ask, call.Answers ask ∧
            AsksInOrder ask (cyclicOrder call.start 2) result call.asked) ∧
      ∃ starts, t.starts = [] ++ starts ∧ ∀ j < 2, starts.count j = 2 := by
  refine ⟨fun ask => strategy_inOrder_balanced.1 twoResolvers 0 ask (by decide) (by decide), ?_⟩
  have hany : (run dispatchStep ⟨twoResolvers, []⟩ overlappingCalls).any (fun t =>
      t.calls.map (·.asked) = [[1], [0, 1], [1, 0], []] ∧
      t.calls.map (·.outcome) = [some (.ok []), some (.ok []), some (.error .timeout), none]) =
        true := by decide
  obtain ⟨t, hrun, htest⟩ := exists_run_of_any hany
  obtain ⟨hasked, houtcomes⟩ := of_decide_eq_true htest
  refine ⟨t, hrun, hasked, houtcomes, ?_, ?_⟩
  · exact strategy_inOrder_balanced.2.1 twoResolvers _ t (by decide) hrun
  · exact strategy_inOrder_balanced.2.2 _ t _ 2 hrun rfl (by decide) rfl (by decide)

end DnsFilter
