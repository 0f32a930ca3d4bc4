import DnsFilter.Lib.Run
import DnsFilter.PipelineProof

/-!
# Requests in flight

`HickoryRequestHandler::handle_request` takes the installed pipeline once and runs it stage by
stage. While it waits for a resolver, and between any two stages, other requests are served, a
reload installs another pipeline, lists are refreshed and filtering is switched on or off.

* `Serving.step` — these steps, in any order. A request asks at most one zone that bypasses the
  filter, one other zone and the default resolver. A step is what lies between two points where the
  task can be overtaken; the wait for a lock that it takes is not a step of its own.
* `InFlight.resume` — what is left of a request, run without interruption. No step changes what that
  will be, given what the request has read and been answered (`Sound.advance`, `Sound.answer`).
-/

namespace DnsFilter

/-- The engine with these flags in place of its own. -/
def ListFilterEngine.withFlags (engine : ListFilterEngine) (flags : List Bool) :
    ListFilterEngine :=
  { engine with
    runtimes := engine.runtimes.zipWith
      (fun runtime flag => { runtime with runtimeDisabled := flag }) flags }

/-- The arguments of `build_dns_request_pipeline_full`. `φ` are the filters: a pipeline keeps its
filter, but what that decides changes with its lists. -/
structure InstalledPipeline (ρ φ : Type*) where
  resolver : ρ
  filter : φ
  anyQueryPolicy : AnyQueryPolicy
  zoneEntries : List (ZoneEntry ρ)

/-- The entries of a zone stage. -/
def InstalledPipeline.entries {ρ φ : Type*} (pipeline : InstalledPipeline ρ φ) (bypass : Bool) :
    List (ZoneEntry ρ) :=
  if bypass then bypassOnly pipeline.zoneEntries else nonBypass pipeline.zoneEntries

/-- What a request does next, or waits for. -/
inductive RequestPhase (ρ : Type*)
  /-- A zone stage. -/
  | zones (bypass : Bool)
  | zoneAsked (bypass : Bool) (entry : ZoneEntry ρ)
  /-- The filter stage, which reads the flag, then decides. -/
  | flag
  | decision (message : Message) (domain : String)
  /-- `blocked_by` has read these flags of the lists. It reads the others one by one, and only then
  what is in the lists. -/
  | blocked (message : Message) (domain : String) (flags : List Bool)
  | anyPolicy
  | upstream
  | upstreamAsked
  | answered (response : Bytes)

/-- The response, once there is one. -/
def RequestPhase.response {ρ : Type*} : RequestPhase ρ → Option Bytes
  | .answered response => some response
  | _ => none

/-- An answer of a resolver: the log when it was asked, which one, and what it returned. -/
structure GivenAnswer (ρ : Type*) where
  before : List (Event ρ)
  resolver : ρ
  result : Except UpstreamResolveError Bytes

/-- A request. The program reads none of the last four fields: they say what it was answered by
resolvers and what it read from the filter. -/
structure InFlight (ρ φ : Type*) where
  metadata : Metadata
  pipeline : InstalledPipeline ρ φ
  request : DnsPipelineRequest
  phase : RequestPhase ρ
  log : List (Event ρ)
  answers : List (GivenAnswer ρ)
  flagRead : Option Bool
  decisionRead : Option ListFilterEngine
  blockRead : Option ListFilterEngine

/-- The server: the slot, the shared flag, what each filter is at present, and the requests. -/
structure Serving (ρ φ : Type*) where
  slot : InstalledPipeline ρ φ
  filteringEnabled : Bool
  filters : φ → ListFilterEngine
  requests : Nat → Option (InFlight ρ φ)

inductive ServingStep (ρ φ : Type*)
  /-- The reload task has built a pipeline. -/
  | install (pipeline : InstalledPipeline ρ φ)
  | setFiltering (enabled : Bool)
  /-- A task that refreshes, enables or disables a list has changed a flag, the lists or the
  snapshot. -/
  | filterChanges (filter : φ) (engine : ListFilterEngine)
  | receive (i : Nat) (metadata : Metadata) (query : Bytes)
  /-- The request goes on without waiting. -/
  | advance (i : Nat)
  /-- The resolver that the request waits for returns. -/
  | answer (i : Nat) (result : Except UpstreamResolveError Bytes)

section Model

variable {ρ φ : Type*} (codec : MessageCodec)

/-- What `DnsUpstreamStage` answers with. -/
def upstreamAnswer (request : DnsPipelineRequest) : Except UpstreamResolveError Bytes → Bytes
  | .ok response => fixResponseId codec response request.clientQueryId
  | .error e =>
      if isDnssecNodataProtocolError e then buildNodataResponse codec request.query
      else buildServfailResponse codec request.query

namespace InFlight

/-- The request when it comes. -/
def begin (pipeline : InstalledPipeline ρ φ) (metadata : Metadata) (query : Bytes) :
    InFlight ρ φ where
  metadata := metadata
  pipeline := pipeline
  request := .new query
  phase := .zones true
  log := []
  answers := []
  flagRead := none
  decisionRead := none
  blockRead := none

/-- After a zone stage that has not answered. -/
def afterZones (bypass : Bool) : RequestPhase ρ := if bypass then .flag else .upstream

/-- Go on in this phase, after these events. -/
def goOn (r : InFlight ρ φ) (phase : RequestPhase ρ) (events : List (Event ρ)) : InFlight ρ φ :=
  { r with phase := phase, log := r.log ++ events }

/-- The next step of a request that waits for nothing, with what the flag and the filter of its
pipeline are at present. -/
def advance (flag : Bool) (engine : ListFilterEngine) (r : InFlight ρ φ) :
    Option (InFlight ρ φ) :=
  match r.phase with
  | .zones bypass =>
      match (extractQueryName codec r.request.query).bind
          (matchingEntry (r.pipeline.entries bypass)) with
      | none => some (r.goOn (afterZones bypass) [])
      | some entry =>
          some (r.goOn (.zoneAsked bypass entry) [.resolve entry.resolver r.request.query])
  | .flag =>
      let r := { r with flagRead := some flag }
      if !flag then some (r.goOn .anyPolicy [.recordDnsQuery .passthrough])
      else
        match codec.fromVec r.request.query with
        | none => some (r.goOn .anyPolicy [])
        | some message =>
            match message.queries.head? with
            | none => some (r.goOn .anyPolicy [])
            | some firstQuery => some (r.goOn (.decision message firstQuery.name.toAscii) [])
  | .decision message domain =>
      let r := { r with decisionRead := some engine }
      match engine.decideDomain domain with
      | .allow => some (r.goOn .anyPolicy [.recordDnsQuery .allowed])
      | .neutral => some (r.goOn .anyPolicy [.recordDnsQuery .passthrough])
      | .block => some (r.goOn (.blocked message domain []) [])
  | .blocked message domain flags =>
      match engine.runtimes[flags.length]? with
      | some runtime =>
          some (r.goOn (.blocked message domain (flags ++ [runtime.runtimeDisabled])) [])
      | none =>
          let engine := engine.withFlags flags
          let response := buildSinkholeResponse codec message engine.sinkholeV4 engine.sinkholeV6
          some ({ r with blockRead := some engine }.goOn (.answered response)
            [.recordDnsQuery .blocked, .recordBlocklistHit (engine.blockedBy domain)])
  | .anyPolicy =>
      match r.pipeline.anyQueryPolicy.responseCode,
          (codec.fromVec r.request.query).bind (·.queries.head?) with
      | some responseCode, some firstQuery =>
          if firstQuery.queryType = .any then
            some (r.goOn (.answered (buildErrorResponse codec r.request.query responseCode)) [])
          else some (r.goOn (.zones false) [])
      | _, _ => some (r.goOn (.zones false) [])
  | .upstream =>
      some (r.goOn .upstreamAsked [.resolve r.pipeline.resolver r.request.query])
  | .zoneAsked _ _ | .upstreamAsked | .answered _ => none

/-- The resolver that the request has asked last returns. -/
def noteAnswer (r : InFlight ρ φ) (resolver : ρ) (result : Except UpstreamResolveError Bytes) :
    InFlight ρ φ :=
  { r with answers := r.answers ++ [⟨r.log.dropLast, resolver, result⟩] }

/-- The next step of a request that waits for a resolver. -/
def answer (result : Except UpstreamResolveError Bytes) (r : InFlight ρ φ) :
    Option (InFlight ρ φ) :=
  match r.phase with
  | .zoneAsked bypass entry =>
      match zoneAnswer codec r.request entry result with
      | some response => some ((r.noteAnswer entry.resolver result).goOn (.answered response) [])
      | none => some ((r.noteAnswer entry.resolver result).goOn (afterZones bypass) [])
  | .upstreamAsked =>
      some ((r.noteAnswer r.pipeline.resolver result).goOn
        (.answered (upstreamAnswer codec r.request result)) [])
  | _ => none

/-- What is handed to the response handler, once there is an answer. -/
def reply (r : InFlight ρ φ) : Option HandlerReply :=
  r.phase.response.map fun response => hickoryReply codec r.metadata (.ok (some response))

end InFlight

namespace Serving

variable [DecidableEq φ]

/-- A step of one request. -/
def stepRequest (s : Serving ρ φ) (i : Nat) (f : InFlight ρ φ → Option (InFlight ρ φ)) :
    Option (Serving ρ φ) :=
  ((s.requests i).bind f).map fun r => { s with requests := Function.update s.requests i (some r) }

/-- One step; `none` if it cannot happen. -/
def step (s : Serving ρ φ) : ServingStep ρ φ → Option (Serving ρ φ)
  | .install pipeline => some { s with slot := pipeline }
  | .setFiltering enabled => some { s with filteringEnabled := enabled }
  | .filterChanges filter engine =>
      -- which lists there are is settled when the engine is built
      if engine.runtimes.length = (s.filters filter).runtimes.length then
        some { s with filters := Function.update s.filters filter engine }
      else none
  | .receive i metadata query =>
      match s.requests i with
      | some _ => none
      | none =>
          some { s with
            requests := Function.update s.requests i (some (.begin s.slot metadata query)) }
  | .advance i =>
      s.stepRequest i fun r =>
        r.advance codec s.filteringEnabled (s.filters r.pipeline.filter)
  | .answer i result => s.stepRequest i (·.answer codec result)

end Serving

end Model

/-! ## What is left of a request -/

section Resume

variable {ρ φ : Type*} (codec : MessageCodec) (oracle : Oracle ρ) (flag : Bool)
  (filter : DomainFilter)

/-- The stages of a pipeline, with what the flag and the filter are. -/
def InstalledPipeline.stages (pipeline : InstalledPipeline ρ φ) : List (Stage ρ) :=
  buildDnsRequestPipelineFull codec oracle pipeline.resolver filter pipeline.anyQueryPolicy
    pipeline.zoneEntries (some flag)

namespace InFlight

/-- The request, run alone from its start. -/
def alone (r : InFlight ρ φ) : StageOutcome × List (Event ρ) :=
  handleRequest (r.pipeline.stages codec oracle flag filter) [] r.request

/-- The stages from the given one on, run without interruption. -/
def stagesFrom (r : InFlight ρ φ) (k : Nat) : StageOutcome × List (Event ρ) :=
  handleRequest ((r.pipeline.stages codec oracle flag filter).drop k) r.log r.request

/-- What is left of the request, run without interruption. A resolver that it waits for was asked
before the last event. -/
def resume (r : InFlight ρ φ) : StageOutcome × List (Event ρ) :=
  match r.phase with
  | .zones bypass => r.stagesFrom codec oracle flag filter (if bypass then 0 else 3)
  | .zoneAsked bypass entry =>
      match zoneAnswer codec r.request entry
          (oracle r.log.dropLast entry.resolver r.request.query) with
      | some response => (.ok (some response), r.log)
      | none => r.stagesFrom codec oracle flag filter (if bypass then 1 else 4)
  | .flag => r.stagesFrom codec oracle flag filter 1
  | .decision message domain =>
      match filter.decideDomain domain with
      | .allow =>
          (r.goOn .anyPolicy [.recordDnsQuery .allowed]).stagesFrom codec oracle flag filter 2
      | .neutral =>
          (r.goOn .anyPolicy [.recordDnsQuery .passthrough]).stagesFrom codec oracle flag filter 2
      | .block =>
          (.ok (some
              (buildSinkholeResponse codec message filter.sinkholeIpv4 filter.sinkholeIpv6)),
            r.log ++ [.recordDnsQuery .blocked, .recordBlocklistHit (filter.blockedBy domain)])
  | .blocked message domain _ =>
      (.ok (some (buildSinkholeResponse codec message filter.sinkholeIpv4 filter.sinkholeIpv6)),
        r.log ++ [.recordDnsQuery .blocked, .recordBlocklistHit (filter.blockedBy domain)])
  | .anyPolicy => r.stagesFrom codec oracle flag filter 2
  | .upstream => r.stagesFrom codec oracle flag filter 4
  | .upstreamAsked =>
      (.ok (some (upstreamAnswer codec r.request
          (oracle r.log.dropLast r.pipeline.resolver r.request.query))), r.log)
  | .answered response => (.ok (some response), r.log)

/-- The flag and the filter are what the request has read of them. -/
structure Reads (r : InFlight ρ φ) : Prop where
  flag : ∀ b ∈ r.flagRead, flag = b
  decision : ∀ engine ∈ r.decisionRead, filter.decideDomain = engine.decideDomain
  block : ∀ engine ∈ r.blockRead, filter.blockedBy = engine.blockedBy ∧
    filter.sinkholeIpv4 = engine.sinkholeV4 ∧ filter.sinkholeIpv6 = engine.sinkholeV6

/-- The resolvers answer as they have answered the request. -/
def Agrees (r : InFlight ρ φ) : Prop :=
  ∀ answer ∈ r.answers, oracle answer.before answer.resolver r.request.query = answer.result

end InFlight

end Resume

/-! ## One step of a request -/

namespace InFlight

variable {ρ φ : Type*} {codec : MessageCodec} {oracle : Oracle ρ} {flag flag₀ : Bool}
  {filter : DomainFilter} {engine : ListFilterEngine} {r r' : InFlight ρ φ}

/-- Whether a request in this phase waits for a resolver. -/
def waits : RequestPhase ρ → Bool
  | .zoneAsked _ _ | .upstreamAsked => true
  | _ => false

/-- What the request reads later it has not read yet. -/
def Fresh (r : InFlight ρ φ) : Prop :=
  match r.phase with
  | .zones true | .zoneAsked true _ | .flag =>
      r.flagRead = none ∧ r.decisionRead = none ∧ r.blockRead = none
  | .decision _ _ => r.decisionRead = none ∧ r.blockRead = none
  | .blocked _ _ _ => r.blockRead = none
  | _ => True

/-- The requests that a step of this one can lead to: it says what is asked and recorded, and what
is read of the flag and the filter. -/
inductive Advanced (codec : MessageCodec) (flag : Bool) (engine : ListFilterEngine)
    (r : InFlight ρ φ) : InFlight ρ φ → Prop
  | noZone {bypass : Bool} (hphase : r.phase = .zones bypass)
      (hentry : (extractQueryName codec r.request.query).bind
        (matchingEntry (r.pipeline.entries bypass)) = none) :
      Advanced codec flag engine r (r.goOn (afterZones bypass) [])
  | askZone {bypass : Bool} {entry : ZoneEntry ρ} (hphase : r.phase = .zones bypass)
      (hentry : (extractQueryName codec r.request.query).bind
        (matchingEntry (r.pipeline.entries bypass)) = some entry) :
      Advanced codec flag engine r
        (r.goOn (.zoneAsked bypass entry) [.resolve entry.resolver r.request.query])
  | switchedOff (hphase : r.phase = .flag) (hflag : flag = false) :
      Advanced codec flag engine r
        ({ r with flagRead := some flag }.goOn .anyPolicy [.recordDnsQuery .passthrough])
  | noQuestion (hphase : r.phase = .flag) (hflag : flag = true)
      (hquestion : (codec.fromVec r.request.query).bind (·.queries.head?) = none) :
      Advanced codec flag engine r ({ r with flagRead := some flag }.goOn .anyPolicy [])
  | toDecide {message : Message} {question : Query} (hphase : r.phase = .flag)
      (hflag : flag = true) (hmessage : codec.fromVec r.request.query = some message)
      (hquestion : message.queries.head? = some question) :
      Advanced codec flag engine r
        ({ r with flagRead := some flag }.goOn (.decision message question.name.toAscii) [])
  | allowed {message : Message} {domain : String} (hphase : r.phase = .decision message domain)
      (hdecide : engine.decideDomain domain = .allow) :
      Advanced codec flag engine r
        ({ r with decisionRead := some engine }.goOn .anyPolicy [.recordDnsQuery .allowed])
  | neutral {message : Message} {domain : String} (hphase : r.phase = .decision message domain)
      (hdecide : engine.decideDomain domain = .neutral) :
      Advanced codec flag engine r
        ({ r with decisionRead := some engine }.goOn .anyPolicy [.recordDnsQuery .passthrough])
  | toBlock {message : Message} {domain : String} (hphase : r.phase = .decision message domain)
      (hdecide : engine.decideDomain domain = .block) :
      Advanced codec flag engine r
        ({ r with decisionRead := some engine }.goOn (.blocked message domain []) [])
  | readFlag {message : Message} {domain : String} {flags : List Bool} {runtime : ListRuntime}
      (hphase : r.phase = .blocked message domain flags)
      (hruntime : engine.runtimes[flags.length]? = some runtime) :
      Advanced codec flag engine r
        (r.goOn (.blocked message domain (flags ++ [runtime.runtimeDisabled])) [])
  | sinkhole {message : Message} {domain : String} {flags : List Bool}
      (hphase : r.phase = .blocked message domain flags)
      (hread : engine.runtimes[flags.length]? = none) :
      Advanced codec flag engine r
        ({ r with blockRead := some (engine.withFlags flags) }.goOn
          (.answered (buildSinkholeResponse codec message engine.sinkholeV4 engine.sinkholeV6))
          [.recordDnsQuery .blocked,
            .recordBlocklistHit ((engine.withFlags flags).blockedBy domain)])
  | refused {responseCode : ResponseCode} {question : Query} (hphase : r.phase = .anyPolicy)
      (hcode : r.pipeline.anyQueryPolicy.responseCode = some responseCode)
      (hquestion : (codec.fromVec r.request.query).bind (·.queries.head?) = some question)
      (hany : question.queryType = .any) :
      Advanced codec flag engine r
        (r.goOn (.answered (buildErrorResponse codec r.request.query responseCode)) [])
  | notAny (hphase : r.phase = .anyPolicy)
      (hpass : ∀ log, dnsAnyQueryPolicyStage codec r.pipeline.anyQueryPolicy log r.request =
        ((.ok none, log) : StageOutcome × List (Event ρ))) :
      Advanced codec flag engine r (r.goOn (.zones false) [])
  | askUpstream (hphase : r.phase = .upstream) :
      Advanced codec flag engine r
        (r.goOn .upstreamAsked [.resolve r.pipeline.resolver r.request.query])

theorem advanced (h : r.advance codec flag engine = some r') :
    Advanced codec flag engine r r' := by
  cases hphase : r.phase with
  | zones bypass =>
      simp only [advance, hphase] at h
      split at h
      · rename_i hentry
        exact Option.some.inj h ▸ .noZone hphase hentry
      · rename_i entry hentry
        exact Option.some.inj h ▸ .askZone hphase hentry
  | flag =>
      simp only [advance, hphase] at h
      cases flag with
      | false => exact Option.some.inj h ▸ .switchedOff hphase rfl
      | true =>
          cases hmessage : codec.fromVec r.request.query with
          | none =>
              simp only [hmessage] at h
              exact Option.some.inj h ▸ .noQuestion hphase rfl (by simp [hmessage])
          | some message =>
              cases hquestion : message.queries.head? with
              | none =>
                  simp only [hmessage, hquestion] at h
                  exact Option.some.inj h ▸ .noQuestion hphase rfl (by simp [hmessage, hquestion])
              | some question =>
                  simp only [hmessage, hquestion] at h
                  exact Option.some.inj h ▸ .toDecide hphase rfl hmessage hquestion
  | decision message domain =>
      simp only [advance, hphase] at h
      cases hdecide : engine.decideDomain domain with
      | allow =>
          simp only [hdecide] at h
          exact Option.some.inj h ▸ .allowed hphase hdecide
      | neutral =>
          simp only [hdecide] at h
          exact Option.some.inj h ▸ .neutral hphase hdecide
      | block =>
          simp only [hdecide] at h
          exact Option.some.inj h ▸ .toBlock hphase hdecide
  | blocked message domain flags =>
      simp only [advance, hphase] at h
      split at h
      · rename_i runtime hruntime
        exact Option.some.inj h ▸ .readFlag hphase hruntime
      · rename_i hread
        exact Option.some.inj h ▸ .sinkhole hphase hread
  | anyPolicy =>
      simp only [advance, hphase] at h
      split at h
      · rename_i responseCode question hcode hquestion
        split at h
        · rename_i hany
          exact Option.some.inj h ▸ .refused hphase hcode hquestion hany
        · rename_i hany
          refine Option.some.inj h ▸ .notAny hphase fun log => ?_
          rw [dnsAnyQueryPolicyStage, hcode, hquestion]
          exact if_neg hany
      · rename_i hnone
        refine Option.some.inj h ▸ .notAny hphase fun log => ?_
        rw [dnsAnyQueryPolicyStage]
        split
        · rename_i responseCode question hcode hquestion
          exact absurd hquestion (hnone responseCode question hcode)
        · rfl
  | upstream =>
      simp only [advance, hphase] at h
      exact Option.some.inj h ▸ .askUpstream hphase
  | zoneAsked bypass entry => simp [advance, hphase] at h
  | upstreamAsked => simp [advance, hphase] at h
  | answered response => simp [advance, hphase] at h

/-- What an answer of a resolver does to a request that waits for it. -/
inductive Replied (codec : MessageCodec) (result : Except UpstreamResolveError Bytes)
    (r : InFlight ρ φ) : InFlight ρ φ → Prop
  | zoneReplies {bypass : Bool} {entry : ZoneEntry ρ} {response : Bytes}
      (hphase : r.phase = .zoneAsked bypass entry)
      (hanswer : zoneAnswer codec r.request entry result = some response) :
      Replied codec result r
        ((r.noteAnswer entry.resolver result).goOn (.answered response) [])
  | zoneFails {bypass : Bool} {entry : ZoneEntry ρ} (hphase : r.phase = .zoneAsked bypass entry)
      (hanswer : zoneAnswer codec r.request entry result = none) :
      Replied codec result r
        ((r.noteAnswer entry.resolver result).goOn (afterZones bypass) [])
  | upstreamReplies (hphase : r.phase = .upstreamAsked) :
      Replied codec result r ((r.noteAnswer r.pipeline.resolver result).goOn
        (.answered (upstreamAnswer codec r.request result)) [])

theorem replied {result : Except UpstreamResolveError Bytes}
    (h : r.answer codec result = some r') : Replied codec result r r' := by
  cases hphase : r.phase with
  | zoneAsked bypass entry =>
      simp only [answer, hphase] at h
      cases hanswer : zoneAnswer codec r.request entry result with
      | none =>
          simp only [hanswer] at h
          exact Option.some.inj h ▸ .zoneFails hphase hanswer
      | some response =>
          simp only [hanswer] at h
          exact Option.some.inj h ▸ .zoneReplies hphase hanswer
  | upstreamAsked =>
      simp only [answer, hphase] at h
      exact Option.some.inj h ▸ .upstreamReplies hphase
  | _ => simp [answer, hphase] at h

/-! ### The rest of the request stays the same -/

theorem stagesFrom_zones_none {bypass : Bool} (hentry : (extractQueryName codec
    r.request.query).bind (matchingEntry (r.pipeline.entries bypass)) = none) :
    r.stagesFrom codec oracle flag filter (if bypass then 0 else 3) =
      r.stagesFrom codec oracle flag filter (if bypass then 1 else 4) := by
  have hstage : zoneForwardingStage codec oracle (r.pipeline.entries bypass) r.log r.request =
      (.ok none, r.log) := by
    rw [zoneForwardingStage, hentry]
  cases bypass with
  | true => exact handleRequest_pass hstage
  | false => exact handleRequest_pass hstage

theorem stagesFrom_zones_some {bypass : Bool} {entry : ZoneEntry ρ}
    (hentry : (extractQueryName codec r.request.query).bind
      (matchingEntry (r.pipeline.entries bypass)) = some entry) :
    r.stagesFrom codec oracle flag filter (if bypass then 0 else 3) =
      (r.goOn (.zoneAsked bypass entry) [.resolve entry.resolver r.request.query]).resume codec
        oracle flag filter := by
  have hstage : zoneForwardingStage codec oracle (r.pipeline.entries bypass) r.log r.request =
      (.ok (zoneAnswer codec r.request entry (oracle r.log entry.resolver r.request.query)),
        r.log ++ [.resolve entry.resolver r.request.query]) := by
    simp only [zoneForwardingStage, hentry]
    cases oracle r.log entry.resolver r.request.query with
    | ok response => rfl
    | error e => cases hf : entry.fallbackToDefaultResolvers <;> simp [zoneAnswer, hf]
  simp only [resume, goOn, List.dropLast_concat]
  cases hanswer : zoneAnswer codec r.request entry
      (oracle r.log entry.resolver r.request.query) with
  | some response =>
      rw [hanswer] at hstage
      cases bypass <;> exact handleRequest_answer hstage
  | none =>
      rw [hanswer] at hstage
      cases bypass <;> exact handleRequest_pass hstage

theorem resume_afterZones (bypass : Bool) :
    (r.goOn (afterZones bypass) []).resume codec oracle flag filter =
      r.stagesFrom codec oracle flag filter (if bypass then 1 else 4) := by
  cases bypass <;> simp [resume, goOn, afterZones, stagesFrom]

theorem resume_advance (h : r.advance codec flag₀ engine = some r')
    (hreads : r'.Reads flag filter) :
    r'.resume codec oracle flag filter = r.resume codec oracle flag filter := by
  cases advanced h with
  | @noZone bypass hphase hentry =>
      rw [resume_afterZones, ← stagesFrom_zones_none hentry]
      simp only [resume, hphase]
  | @askZone bypass entry hphase hentry =>
      rw [← stagesFrom_zones_some hentry]
      simp only [resume, hphase]
  | switchedOff hphase hflag =>
      obtain rfl : flag = flag₀ := hreads.flag flag₀ rfl
      subst hflag
      simp only [resume, hphase, goOn]
      refine (handleRequest_pass ?_).symm
      simp [dnsFilterStage]
  | noQuestion hphase hflag hquestion =>
      obtain rfl : flag = flag₀ := hreads.flag flag₀ rfl
      subst hflag
      simp only [resume, hphase, goOn, List.append_nil]
      refine (handleRequest_pass ?_).symm
      rw [dnsFilterStage]
      cases hmessage : codec.fromVec r.request.query with
      | none => rfl
      | some message =>
          have hnone : message.queries.head? = none := by simpa [hmessage] using hquestion
          simp [hnone]
  | @toDecide message question hphase hflag hmessage hquestion =>
      obtain rfl : flag = flag₀ := hreads.flag flag₀ rfl
      subst hflag
      simp only [resume, hphase, goOn, List.append_nil]
      cases hdecide : filter.decideDomain question.name.toAscii with
      | allow | neutral =>
          refine (handleRequest_pass ?_).symm
          simp [dnsFilterStage, hmessage, hquestion, hdecide]
      | block =>
          exact (handleRequest_answer (dnsFilterStage_of_block hmessage hquestion hdecide)).symm
  | @allowed message domain hphase hdecide | @neutral message domain hphase hdecide =>
      have hfilter : filter.decideDomain = engine.decideDomain := hreads.decision engine rfl
      simp only [resume, hphase, hfilter, hdecide]
      rfl
  | @toBlock message domain hphase hdecide =>
      have hfilter : filter.decideDomain = engine.decideDomain := hreads.decision engine rfl
      simp only [resume, hphase, hfilter, hdecide, goOn, List.append_nil]
  | readFlag hphase hruntime => simp only [resume, hphase, goOn, List.append_nil]
  | @sinkhole message domain flags hphase hread =>
      obtain ⟨hlists, hv4, hv6⟩ := hreads.block (engine.withFlags flags) rfl
      simp only [resume, hphase, hlists, hv4, hv6, goOn]
      rfl
  | @refused responseCode question hphase hcode hquestion hany =>
      simp only [resume, hphase, goOn, List.append_nil]
      refine (handleRequest_answer ?_).symm
      rw [dnsAnyQueryPolicyStage, hcode, hquestion]
      exact if_pos hany
  | notAny hphase hpass =>
      simp only [resume, hphase, goOn, List.append_nil]
      exact (handleRequest_pass (hpass r.log)).symm
  | askUpstream hphase =>
      simp only [resume, hphase, goOn, List.dropLast_concat]
      refine (handleRequest_answer ?_).symm
      rw [dnsUpstreamStage]
      cases oracle r.log r.pipeline.resolver r.request.query with
      | ok response => rfl
      | error e => simp only [upstreamAnswer]; split <;> rfl

theorem resume_answer {result : Except UpstreamResolveError Bytes}
    (h : r.answer codec result = some r') (hagrees : r'.Agrees oracle) :
    r'.resume codec oracle flag filter = r.resume codec oracle flag filter := by
  have hlast : ∀ {resolver : ρ}, r'.answers = (r.noteAnswer resolver result).answers →
      r'.request = r.request → oracle r.log.dropLast resolver r.request.query = result := by
    intro resolver hanswers hrequest
    rw [← hrequest]
    exact hagrees ⟨r.log.dropLast, resolver, result⟩
      (hanswers ▸ List.mem_append_right _ List.mem_cons_self)
  cases replied h with
  | @zoneReplies bypass entry response hphase hanswer =>
      simp only [resume, hphase, @hlast entry.resolver rfl rfl, hanswer]
      simp [goOn, noteAnswer]
  | @zoneFails bypass entry hphase hanswer =>
      rw [resume_afterZones]
      simp only [resume, hphase, @hlast entry.resolver rfl rfl, hanswer]
      rfl
  | upstreamReplies hphase =>
      simp only [resume, hphase, @hlast r.pipeline.resolver rfl rfl]
      simp [goOn, noteAnswer]

/-! ### What it has read and what it was answered -/

theorem fresh_advance (hfresh : r.Fresh) (h : r.advance codec flag₀ engine = some r') :
    r'.Fresh := by
  cases advanced h with
  | @noZone bypass hphase | @askZone bypass entry hphase =>
      simp only [Fresh, hphase] at hfresh
      cases bypass with
      | true => exact hfresh
      | false => trivial
  | toDecide hphase =>
      simp only [Fresh, hphase] at hfresh
      exact hfresh.2
  | toBlock hphase =>
      simp only [Fresh, hphase] at hfresh
      exact hfresh.2
  | readFlag hphase =>
      simp only [Fresh, hphase] at hfresh
      exact hfresh
  | _ => trivial

/-- What a step reads was not read before. -/
theorem reads_of_advance (hfresh : r.Fresh) (h : r.advance codec flag₀ engine = some r')
    (hreads : r'.Reads flag filter) : r.Reads flag filter := by
  cases advanced h with
  | switchedOff hphase | noQuestion hphase | toDecide hphase =>
      simp only [Fresh, hphase] at hfresh
      exact ⟨by simp [hfresh.1], hreads.decision, hreads.block⟩
  | allowed hphase | neutral hphase | toBlock hphase =>
      simp only [Fresh, hphase] at hfresh
      exact ⟨hreads.flag, by simp [hfresh.1], hreads.block⟩
  | sinkhole hphase =>
      simp only [Fresh, hphase] at hfresh
      exact ⟨hreads.flag, hreads.decision, by simp [hfresh]⟩
  | _ => exact ⟨hreads.flag, hreads.decision, hreads.block⟩

theorem fresh_answer {result : Except UpstreamResolveError Bytes} (hfresh : r.Fresh)
    (h : r.answer codec result = some r') : r'.Fresh := by
  cases replied h with
  | @zoneFails bypass entry hphase =>
      simp only [Fresh, hphase] at hfresh
      cases bypass with
      | true => exact hfresh
      | false => trivial
  | _ => trivial

/-- The answers were given one after the other, all of them before the last event if that asks a
resolver. -/
structure InOrder (r : InFlight ρ φ) : Prop where
  increasing : r.answers.Pairwise fun a b => a.before.length < b.before.length
  before_last : ∀ a ∈ r.answers, a.before.length + (waits r.phase).toNat < r.log.length
  asked : (waits r.phase).toNat ≤ r.log.length

theorem InOrder.goOn {phase : RequestPhase ρ} {events : List (Event ρ)} (hr : r.InOrder)
    (hwaits : (waits phase).toNat ≤ (waits r.phase).toNat + events.length) :
    (r.goOn phase events).InOrder := by
  refine ⟨hr.increasing, fun a ha => ?_, ?_⟩
  · have := hr.before_last a ha
    simp only [InFlight.goOn, List.length_append]
    omega
  · have := hr.asked
    simp only [InFlight.goOn, List.length_append]
    omega

theorem inOrder_advance (hr : r.InOrder) (h : r.advance codec flag₀ engine = some r') :
    r'.InOrder := by
  cases advanced h with
  | @noZone bypass => exact hr.goOn (by cases bypass <;> simp [waits, afterZones])
  | askZone | askUpstream => exact hr.goOn (by simp [waits])
  | refused | notAny | readFlag => exact hr.goOn (by simp [waits])
  | switchedOff | noQuestion | toDecide =>
      exact InOrder.goOn ⟨hr.increasing, hr.before_last, hr.asked⟩ (by simp [waits])
  | allowed | neutral | toBlock =>
      exact InOrder.goOn ⟨hr.increasing, hr.before_last, hr.asked⟩ (by simp [waits])
  | sinkhole =>
      exact InOrder.goOn ⟨hr.increasing, hr.before_last, hr.asked⟩ (by simp [waits])

theorem inOrder_answer {result : Except UpstreamResolveError Bytes} (hr : r.InOrder)
    (h : r.answer codec result = some r') : r'.InOrder := by
  have hnote : ∀ {resolver phase}, waits r.phase = true → waits phase = false →
      ((r.noteAnswer resolver result).goOn phase []).InOrder := by
    intro resolver phase hwaits hphase
    have hasked := hr.asked
    rw [hwaits, Bool.toNat_true] at hasked
    refine ⟨?_, ?_, ?_⟩
    · refine List.pairwise_append.2 ⟨hr.increasing, List.pairwise_singleton _ _, ?_⟩
      intro a ha b hb
      rw [List.mem_singleton.1 hb, List.length_dropLast]
      have := hr.before_last a ha
      rw [hwaits, Bool.toNat_true] at this
      omega
    · intro a ha
      simp only [InFlight.goOn, noteAnswer, hphase, List.append_nil, Bool.toNat_false,
        Nat.add_zero] at ha ⊢
      rcases List.mem_append.1 ha with ha | ha
      · have := hr.before_last a ha
        omega
      · rw [List.mem_singleton.1 ha, List.length_dropLast]
        omega
    · simp [InFlight.goOn, hphase]
  cases replied h with
  | zoneReplies hphase hanswer => exact hnote (by rw [hphase]; rfl) rfl
  | @zoneFails bypass entry hphase hanswer =>
      exact hnote (by rw [hphase]; rfl) (by cases bypass <;> rfl)
  | upstreamReplies hphase => exact hnote (by rw [hphase]; rfl) rfl

/-- Resolvers that answer like this exist. -/
theorem InOrder.exists_agrees (hr : r.InOrder) : ∃ oracle, r.Agrees oracle := by
  refine ⟨fun log _ _ => ((r.answers.find? fun a => a.before.length = log.length).map
    (·.result)).getD (.error .timeout), fun answer hanswer => ?_⟩
  obtain ⟨pre, post, hanswers⟩ := List.append_of_mem hanswer
  have hpre : ∀ a ∈ pre, ¬ a.before.length = answer.before.length := by
    intro a ha
    have hincreasing := hr.increasing
    rw [hanswers] at hincreasing
    exact Nat.ne_of_lt ((List.pairwise_append.1 hincreasing).2.2 a ha answer List.mem_cons_self)
  have hfind : r.answers.find? (fun a => a.before.length = answer.before.length) = some answer := by
    rw [hanswers, List.find?_append, List.find?_eq_none.2 (by simpa using hpre)]
    simp
  simp only [hfind]
  rfl

/-! ### The invariant -/

/-- The request has not read anything twice, was answered in order, and is on the way to what it
would give alone, whatever else the flag, the filter and the resolvers are. -/
structure Sound (codec : MessageCodec) (r : InFlight ρ φ) : Prop where
  fresh : r.Fresh
  inOrder : r.InOrder
  resume_eq : ∀ oracle flag filter, r.Reads flag filter → r.Agrees oracle →
    r.resume codec oracle flag filter = r.alone codec oracle flag filter

theorem sound_begin (pipeline : InstalledPipeline ρ φ) (metadata : Metadata) (query : Bytes) :
    (begin pipeline metadata query).Sound codec :=
  ⟨⟨rfl, rfl, rfl⟩, ⟨List.Pairwise.nil, nofun, Nat.le_refl 0⟩, fun _ _ _ _ _ => rfl⟩

/-- A step changes neither the request nor its pipeline. -/
theorem frame_advance (h : r.advance codec flag engine = some r') :
    r'.pipeline = r.pipeline ∧ r'.request = r.request ∧ r'.metadata = r.metadata ∧
      r'.answers = r.answers := by
  cases advanced h with
  | _ => exact ⟨rfl, rfl, rfl, rfl⟩

theorem frame_answer {result : Except UpstreamResolveError Bytes}
    (h : r.answer codec result = some r') :
    r'.pipeline = r.pipeline ∧ r'.request = r.request ∧ r'.metadata = r.metadata ∧
      r'.flagRead = r.flagRead ∧ r'.decisionRead = r.decisionRead ∧ r'.blockRead = r.blockRead := by
  cases replied h with
  | _ => exact ⟨rfl, rfl, rfl, rfl, rfl, rfl⟩

theorem Sound.advance (hr : r.Sound codec) (h : r.advance codec flag engine = some r') :
    r'.Sound codec := by
  refine ⟨fresh_advance hr.fresh h, inOrder_advance hr.inOrder h, ?_⟩
  intro oracle flag' filter' hreads hagrees
  obtain ⟨hpipeline, hrequest, -, hanswers⟩ := frame_advance h
  have hagrees' : r.Agrees oracle := by
    rw [Agrees, hanswers, hrequest] at hagrees
    exact hagrees
  rw [resume_advance h hreads,
    hr.resume_eq oracle flag' filter' (reads_of_advance hr.fresh h hreads) hagrees', alone, alone,
    hpipeline, hrequest]

theorem Sound.answer {result : Except UpstreamResolveError Bytes} (hr : r.Sound codec)
    (h : r.answer codec result = some r') : r'.Sound codec := by
  refine ⟨fresh_answer hr.fresh h, inOrder_answer hr.inOrder h, ?_⟩
  intro oracle flag' filter' hreads hagrees
  obtain ⟨hpipeline, hrequest, -, hflag, hdecision, hblock⟩ := frame_answer h
  have hreads' : r.Reads flag' filter' :=
    ⟨hflag ▸ hreads.flag, hdecision ▸ hreads.decision, hblock ▸ hreads.block⟩
  have hagrees' : r.Agrees oracle := by
    intro a ha
    rw [← hrequest]
    refine hagrees a ?_
    cases replied h with
    | _ => exact List.mem_append_left _ ha
  rw [resume_answer h hagrees, hr.resume_eq oracle flag' filter' hreads' hagrees', alone, alone,
    hpipeline, hrequest]

end InFlight

end DnsFilter
