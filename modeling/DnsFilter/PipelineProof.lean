import DnsFilter.Filtering.EngineProof
import DnsFilter.Pipeline

/-!
# The request pipeline: blocked names stay blocked

A stage is described by what it does on one request (`zoneForwardingStage_of_entry`,
`dnsFilterStage_of_block`), and the pipeline by what its first answering stage does
(`handleRequest_pass`, `handleRequest_answer`).

* `blocked_query` — a name that the filter blocks reaches no resolver, except the one of the
  bypass zone that is responsible for it; unless that zone answers, the response is the
  sinkhole's.
* `listed_name_is_sinkholed` — so are the names that the loaded lists block, for the engine in any
  state it reaches.
* `query_is_answered` — every query that parses gets a response, and the response carries the
  query's ID unless it is an upstream response that does not parse.
-/

namespace DnsFilter

open Net

variable {ρ : Type*}

/-! ## Events -/

/-- The resolver calls of a log. -/
def resolverCalls (log : List (Event ρ)) : List (ρ × Bytes) :=
  log.filterMap fun
    | .resolve resolver query => some (resolver, query)
    | _ => none

@[simp] theorem resolverCalls_append (log log' : List (Event ρ)) :
    resolverCalls (log ++ log') = resolverCalls log ++ resolverCalls log' :=
  List.filterMap_append

/-! ## Stage by stage -/

section Handler

variable {stage : Stage ρ} {stages : List (Stage ρ)} {log log' : List (Event ρ)}
  {request : DnsPipelineRequest}

theorem handleRequest_pass (h : stage log request = (.ok none, log')) :
    handleRequest (stage :: stages) log request = handleRequest stages log' request := by
  rw [handleRequest, h]

theorem handleRequest_answer {response : Bytes}
    (h : stage log request = (.ok (some response), log')) :
    handleRequest (stage :: stages) log request = (.ok (some response), log') := by
  rw [handleRequest, h]

end Handler

variable {codec : MessageCodec} {oracle : Oracle ρ} {log : List (Event ρ)}
  {request : DnsPipelineRequest} {message : Message} {question : Query}

theorem extractQueryName_eq (hmsg : codec.fromVec request.query = some message)
    (hfirst : message.queries.head? = some question) :
    extractQueryName codec request.query = some question.name.toAscii := by
  simp [extractQueryName, hmsg, hfirst]

theorem zoneForwardingStage_of_none (hmsg : codec.fromVec request.query = some message)
    (hfirst : message.queries.head? = some question) {entries : List (ZoneEntry ρ)}
    (hentry : matchingEntry entries question.name.toAscii = none) :
    zoneForwardingStage codec oracle entries log request = (.ok none, log) := by
  simp [zoneForwardingStage, extractQueryName_eq hmsg hfirst, hentry]

/-- What a zone stage answers with once an entry matches: nothing if the entry's resolver fails and
the entry falls back. -/
def zoneAnswer (codec : MessageCodec) (request : DnsPipelineRequest) (entry : ZoneEntry ρ) :
    Except UpstreamResolveError Bytes → Option Bytes
  | .ok response => some (fixResponseId codec response request.clientQueryId)
  | .error _ =>
      if entry.fallbackToDefaultResolvers then none
      else some (buildServfailResponse codec request.query)

theorem zoneForwardingStage_of_entry (hmsg : codec.fromVec request.query = some message)
    (hfirst : message.queries.head? = some question) {entries : List (ZoneEntry ρ)}
    {entry : ZoneEntry ρ} (hentry : matchingEntry entries question.name.toAscii = some entry) :
    zoneForwardingStage codec oracle entries log request =
      (.ok (zoneAnswer codec request entry (oracle log entry.resolver request.query)),
        log ++ [Event.resolve entry.resolver request.query]) := by
  simp only [zoneForwardingStage, extractQueryName_eq hmsg hfirst, Option.bind_some, hentry]
  cases oracle log entry.resolver request.query with
  | ok response => rfl
  | error e => cases hf : entry.fallbackToDefaultResolvers <;> simp [zoneAnswer, hf]

/-- An entry of the bypass stage is one of the configured entries. -/
theorem mem_of_matchingEntry {entries : List (ZoneEntry ρ)} {name : String} {entry : ZoneEntry ρ}
    (h : matchingEntry (bypassOnly entries) name = some entry) :
    entry ∈ entries ∧ entry.bypassFilter = true := by
  have hfound : entry ∈ bypassOnly entries := by
    rw [matchingEntry] at h
    split at h
    · exact List.mem_of_find?_eq_some h
    · exact absurd h (by simp)
  exact List.mem_filter.1 ((List.mem_insertionSort _).1 hfound)

theorem dnsFilterStage_of_block (hmsg : codec.fromVec request.query = some message)
    (hfirst : message.queries.head? = some question) {filter : DomainFilter}
    (hblock : filter.decideDomain question.name.toAscii = .block) :
    dnsFilterStage codec filter true log request =
      (.ok (some (buildSinkholeResponse codec message filter.sinkholeIpv4 filter.sinkholeIpv6)),
        log ++ [Event.recordDnsQuery .blocked,
          Event.recordBlocklistHit (filter.blockedBy question.name.toAscii)]) := by
  simp [dnsFilterStage, hmsg, hfirst, hblock]

/-! ## The responses -/

/-- What a sinkhole at the two addresses answers to a question, by its type. -/
structure SinkholesQuestion (v4 : Ipv4Addr) (v6 : Ipv6Addr) (question : Query)
    (answers : List Record) : Prop where
  a : question.queryType = .a → answers = [⟨question.name, 1, 60, .a v4⟩]
  aaaa : question.queryType = .aaaa → answers = [⟨question.name, 1, 60, .aaaa v6⟩]
  any : question.queryType = .any →
    answers = [⟨question.name, 1, 60, .a v4⟩, ⟨question.name, 1, 60, .aaaa v6⟩]
  other : question.queryType ≠ .a → question.queryType ≠ .aaaa → question.queryType ≠ .any →
    answers = []

/-- The outcome is a NOERROR response under the query's ID with exactly the sinkhole's answers. -/
def IsSinkhole (codec : MessageCodec) (filter : DomainFilter) (message : Message)
    (question : Query) (outcome : StageOutcome) : Prop :=
  ∃ bytes response, outcome = .ok (some bytes) ∧ codec.fromVec bytes = some response ∧
    response.metadata.id = message.metadata.id ∧ response.metadata.responseCode = .noError ∧
    SinkholesQuestion filter.sinkholeIpv4 filter.sinkholeIpv6 question response.answers

/-- The outcome is a SERVFAIL response under the query's ID, without answers. -/
def IsServfail (codec : MessageCodec) (message : Message) (outcome : StageOutcome) : Prop :=
  ∃ bytes response, outcome = .ok (some bytes) ∧ codec.fromVec bytes = some response ∧
    response.metadata.id = message.metadata.id ∧ response.metadata.responseCode = .servFail ∧
    response.answers = []

theorem isServfail_of_roundTrip {query : Bytes} (hmsg : codec.fromVec query = some message)
    (hcodec : codec.RoundTripsOn (errorMessage (some message) .servFail)) :
    IsServfail codec message (.ok (some (buildServfailResponse codec query))) := by
  obtain ⟨bytes, htoVec, hfromVec⟩ := hcodec
  refine ⟨bytes, _, ?_, hfromVec, rfl, rfl, rfl⟩
  rw [buildServfailResponse, buildErrorResponse, hmsg, htoVec, Option.getD_some]

/-- The answers that the code builds are the sinkhole's, whatever is asked. -/
theorem sinkholesQuestion_sinkholeAnswers (v4 : Ipv4Addr) (v6 : Ipv6Addr) (question : Query) :
    SinkholesQuestion v4 v6 question (sinkholeAnswers question v4 v6) := by
  obtain ⟨name, queryType, queryClass⟩ := question
  cases queryType <;> refine ⟨?_, ?_, ?_, ?_⟩ <;>
    simp [sinkholeAnswers, makeARecord, makeAaaaRecord]

theorem isSinkhole_of_roundTrip (hfirst : message.queries.head? = some question)
    {filter : DomainFilter}
    (hcodec : codec.RoundTripsOn
      (sinkholeMessage message filter.sinkholeIpv4 filter.sinkholeIpv6)) :
    IsSinkhole codec filter message question
      (.ok (some (buildSinkholeResponse codec message filter.sinkholeIpv4
        filter.sinkholeIpv6))) := by
  obtain ⟨bytes, htoVec, hfromVec⟩ := hcodec
  refine ⟨bytes, _, ?_, hfromVec, rfl, rfl, ?_⟩
  · rw [buildSinkholeResponse, htoVec, Option.getD_some]
  · rw [sinkholeMessage, hfirst]
    exact sinkholesQuestion_sinkholeAnswers _ _ question

/-- Where no bypass zone matches, a blocked name gets the sinkhole's response, and the hit is
recorded. -/
theorem handleRequest_of_block (resolver : ρ) {filter : DomainFilter}
    (anyQueryPolicy : AnyQueryPolicy) {zoneEntries : List (ZoneEntry ρ)}
    {filteringEnabled : Option Bool} {query : Bytes} (henabled : filteringEnabled.getD true = true)
    (hmsg : codec.fromVec query = some message) (hfirst : message.queries.head? = some question)
    (hblock : filter.decideDomain question.name.toAscii = .block)
    (hentry : matchingEntry (bypassOnly zoneEntries) question.name.toAscii = none) :
    handleRequest (buildDnsRequestPipelineFull codec oracle resolver filter anyQueryPolicy
        zoneEntries filteringEnabled) log (.new query) =
      (.ok (some (buildSinkholeResponse codec message filter.sinkholeIpv4 filter.sinkholeIpv6)),
        log ++ [Event.recordDnsQuery .blocked,
          Event.recordBlocklistHit (filter.blockedBy question.name.toAscii)]) := by
  have hmsg' : codec.fromVec (DnsPipelineRequest.new query).query = some message := hmsg
  rw [buildDnsRequestPipelineFull, henabled,
    handleRequest_pass (zoneForwardingStage_of_none hmsg' hfirst hentry)]
  exact handleRequest_answer (dnsFilterStage_of_block hmsg' hfirst hblock)

/-- **A blocked name reaches no resolver but the bypass zone's.** If no bypass zone matches, nothing
is resolved and the sinkhole answers. If one does, its resolver alone is called, once; the
response is the zone's answer, or SERVFAIL if the zone failed without a fallback, or the
sinkhole's. -/
theorem blocked_query (resolver : ρ) (filter : DomainFilter) (anyQueryPolicy : AnyQueryPolicy)
    (zoneEntries : List (ZoneEntry ρ)) {filteringEnabled : Option Bool} {query : Bytes}
    (henabled : filteringEnabled.getD true = true) (hmsg : codec.fromVec query = some message)
    (hfirst : message.queries.head? = some question)
    (hblock : filter.decideDomain question.name.toAscii = .block)
    (hsinkhole : codec.RoundTripsOn
      (sinkholeMessage message filter.sinkholeIpv4 filter.sinkholeIpv6))
    (hservfail : codec.RoundTripsOn (errorMessage (some message) .servFail)) :
    let result := handleRequest (buildDnsRequestPipelineFull codec oracle resolver filter
      anyQueryPolicy zoneEntries filteringEnabled) log (.new query)
    match matchingEntry (bypassOnly zoneEntries) question.name.toAscii with
    | none =>
        resolverCalls result.2 = resolverCalls log ∧
          IsSinkhole codec filter message question result.1
    | some entry =>
        entry ∈ zoneEntries ∧ entry.bypassFilter = true ∧
        resolverCalls result.2 = resolverCalls log ++ [(entry.resolver, query)] ∧
          match oracle log entry.resolver query with
          | .ok response =>
              result.1 = .ok (some (fixResponseId codec response (queryId query)))
          | .error _ =>
              if entry.fallbackToDefaultResolvers then
                IsSinkhole codec filter message question result.1
              else IsServfail codec message result.1 := by
  intro result
  have hmsg' : codec.fromVec (DnsPipelineRequest.new query).query = some message := hmsg
  cases hentry : matchingEntry (bypassOnly zoneEntries) question.name.toAscii with
  | none =>
      have hresult : result = _ :=
        handleRequest_of_block resolver anyQueryPolicy henabled hmsg hfirst hblock hentry
      rw [hresult]
      exact ⟨by simp [resolverCalls], isSinkhole_of_roundTrip hfirst hsinkhole⟩
  | some entry =>
      obtain ⟨hmem, hbypass⟩ := mem_of_matchingEntry hentry
      have hstage : zoneForwardingStage codec oracle (bypassOnly zoneEntries) log (.new query) =
          _ := zoneForwardingStage_of_entry hmsg' hfirst hentry
      have ho : oracle log entry.resolver (DnsPipelineRequest.new query).query =
          oracle log entry.resolver query := rfl
      refine ⟨hmem, hbypass, ?_⟩
      rw [ho] at hstage
      cases hanswer : oracle log entry.resolver query with
      | ok response =>
          rw [hanswer, zoneAnswer] at hstage
          have hresult : result = _ := handleRequest_answer hstage
          rw [hresult]
          exact ⟨by simp [resolverCalls, DnsPipelineRequest.new], rfl⟩
      | error e =>
          rw [hanswer, zoneAnswer] at hstage
          by_cases hfall : entry.fallbackToDefaultResolvers = true
          · rw [if_pos hfall] at hstage
            have hresult : result = _ :=
              (handleRequest_pass hstage).trans
                (handleRequest_answer (henabled ▸ dnsFilterStage_of_block hmsg' hfirst hblock))
            rw [hresult]
            refine ⟨by simp [resolverCalls, DnsPipelineRequest.new], ?_⟩
            rw [if_pos hfall]
            exact isSinkhole_of_roundTrip hfirst hsinkhole
          · rw [if_neg hfall] at hstage
            have hresult : result = _ := handleRequest_answer hstage
            rw [hresult]
            refine ⟨by simp [resolverCalls, DnsPipelineRequest.new], ?_⟩
            rw [if_neg hfall]
            exact isServfail_of_roundTrip hmsg hservfail

/-! A blocked query whose bypass zone fails and falls back. -/

/-- The wire format of the question `ads.example A IN`. -/
def adsQuestionBytes : Bytes :=
  [3, 97, 100, 115, 7, 101, 120, 97, 109, 112, 108, 101, 0, 0, 1, 0, 1]

/-- A query for `ads.example`. -/
def adsQueryBytes : Bytes := [0x12, 0x34, 0x01, 0x00, 0, 1, 0, 0, 0, 0, 0, 0] ++ adsQuestionBytes

def adsQuery : Message where
  metadata := { id := 0x1234, messageType := .query, opCode := .query, recursionDesired := true }
  queries := [{ name := ⟨"ads.example."⟩, queryType := .a }]

/-- A filter that blocks everything. -/
def blockAll : DomainFilter where
  decideDomain _ := .block
  blockedBy _ := ["ads"]
  sinkholeIpv4 := ⟨0, 0, 0, 0⟩
  sinkholeIpv6 := .ofSegments []

/-- The wire format of the query and of its possible responses. -/
def adsCodecTable : List (Bytes × Message) :=
  [ (adsQueryBytes, adsQuery),
    ([0x12, 0x34, 0x81, 0x80, 0, 1, 0, 1, 0, 0, 0, 0] ++ adsQuestionBytes ++
        [0xc0, 0x0c, 0, 1, 0, 1, 0, 0, 0, 60, 0, 4, 0, 0, 0, 0],
      sinkholeMessage adsQuery blockAll.sinkholeIpv4 blockAll.sinkholeIpv6),
    ([0x12, 0x34, 0x81, 0x82, 0, 1, 0, 0, 0, 0, 0, 0] ++ adsQuestionBytes,
      errorMessage (some adsQuery) .servFail) ]

def adsCodec : MessageCodec where
  fromVec bytes := (adsCodecTable.find? (·.1 = bytes)).map (·.2)
  toVec message := (adsCodecTable.find? (·.2 = message)).map (·.1)

/-- The bypass zone fails and falls back; the answer is the address `0.0.0.0`, for a minute. -/
theorem blocked_query_ads :
    let entries : List (ZoneEntry Nat) :=
      [⟨"example", false, false, 1⟩, ⟨"ads.example", true, true, 2⟩, ⟨"example", true, false, 3⟩]
    let result := handleRequest (buildDnsRequestPipelineFull adsCodec
      (fun _ _ _ => .error .timeout) 0 blockAll .notImp entries none) [] (.new adsQueryBytes)
    resolverCalls result.2 = [(2, adsQueryBytes)] ∧
      ∃ bytes response, result.1 = .ok (some bytes) ∧ adsCodec.fromVec bytes = some response ∧
        response.metadata.id = 0x1234 ∧ response.metadata.responseCode = .noError ∧
        response.answers = [⟨⟨"ads.example."⟩, 1, 60, .a ⟨0, 0, 0, 0⟩⟩] := by
  intro entries result
  have h := @blocked_query Nat adsCodec (fun _ _ _ => .error .timeout) [] adsQuery
    ⟨⟨"ads.example."⟩, .a, 1⟩ 0 blockAll .notImp entries none adsQueryBytes rfl
    (by decide +kernel) rfl rfl ⟨_, rfl, by decide +kernel⟩ ⟨_, rfl, by decide +kernel⟩
  have hentry : matchingEntry (bypassOnly entries) "ads.example." =
      some ⟨"ads.example", true, true, 2⟩ := by decide +kernel
  simp only [hentry] at h
  obtain ⟨bytes, response, houtcome, hresponse, hid, hcode, hanswers⟩ := h.2.2.2
  exact ⟨h.2.2.1, bytes, response, houtcome, hresponse, hid, hcode, hanswers.a rfl⟩

/-! ## With the engine as the filter -/

/-- **What the lists block is sinkholed.** After any operations on an engine's lists, a query for a
name that the loaded contents block, and that no bypass zone takes, is answered by the sinkhole;
nothing is resolved, and the lists that are counted are exactly those that block the name. -/
theorem listed_name_is_sinkholed {nameFromAscii : String → Bool}
    {fromJson : String → Option CachedListDocument} {config : DnsFilterConfig}
    {cacheRepo : Option (String → Except String (Option FilterCacheDocumentRecord))}
    {built : ListFilterEngine}
    (hbuilt : ListFilterEngine.fromConfigWithCache fromJson config cacheRepo = .ok built)
    (hnames : (listNames config).Nodup) (ops : List EngineOp) (resolver : ρ)
    (anyQueryPolicy : AnyQueryPolicy) {zoneEntries : List (ZoneEntry ρ)}
    {filteringEnabled : Option Bool} {query : Bytes} (henabled : filteringEnabled.getD true = true)
    (hmsg : codec.fromVec query = some message) (hfirst : message.queries.head? = some question)
    (hblock : specDecision
      (allowSet nameFromAscii fromJson built.runtimes (cacheRepo.toList.map EngineOp.restore ++ ops))
      (blockSet nameFromAscii fromJson built.runtimes (cacheRepo.toList.map EngineOp.restore ++ ops))
      question.name.toAscii = .block)
    (hentry : matchingEntry (bypassOnly zoneEntries) question.name.toAscii = none)
    (hsinkhole : ∀ v4 v6, codec.RoundTripsOn (sinkholeMessage message v4 v6)) :
    let engine := runOps nameFromAscii fromJson ops built
    let result := handleRequest (buildDnsRequestPipelineFull codec oracle resolver
      engine.toDomainFilter anyQueryPolicy zoneEntries filteringEnabled) log (.new query)
    IsSinkhole codec engine.toDomainFilter message question result.1 ∧
      result.2 = log ++ [Event.recordDnsQuery .blocked,
        Event.recordBlocklistHit (blockingNames nameFromAscii fromJson built.runtimes
          (cacheRepo.toList.map EngineOp.restore ++ ops) question.name.toAscii)] := by
  intro engine result
  obtain ⟨hwn, hsim⟩ := sim_built nameFromAscii hbuilt hnames
  have hdecide : engine.toDomainFilter.decideDomain question.name.toAscii = .block :=
    (decideDomain_eq_spec hwn (hsim ops) question.name.toAscii).trans hblock
  have hresult : result = _ :=
    handleRequest_of_block resolver anyQueryPolicy henabled hmsg hfirst hdecide hentry
  have hby := blockedBy_eq_spec hwn (hsim ops) (blockingNames_ne_nil hblock).1
  rw [hresult, ← hby]
  exact ⟨isSinkhole_of_roundTrip hfirst (hsinkhole _ _), rfl⟩

/-! ## Every query is answered -/

/-- The message can be encoded, and decoding gives a message with its ID. -/
def MessageCodec.KeepsId (codec : MessageCodec) (message : Message) : Prop :=
  ∃ bytes decoded, codec.toVec message = some bytes ∧ codec.fromVec bytes = some decoded ∧
    decoded.metadata.id = message.metadata.id

/-- The codes of the error responses that the stages build. -/
def stageResponseCodes : List ResponseCode := [.servFail, .noError, .refused, .notImp]

/-- A response to the query, given while the log grew from `log` to `log'`: what a resolver call of
this time returned, the last event, if that does not parse; otherwise a message with the query's
ID. -/
def IsReply (codec : MessageCodec) (oracle : Oracle ρ) (query : Bytes) (log log' : List (Event ρ))
    (response : Bytes) : Prop :=
  (codec.fromVec response = none ∧ ∃ before resolver, log <+: before ∧
      log' = before ++ [Event.resolve resolver query] ∧
        oracle before resolver query = .ok response) ∨
    ∃ message, codec.fromVec response = some message ∧ message.metadata.id = queryId query

/-- On the query the stage answers or passes on, and never fails. -/
def StageReplies (codec : MessageCodec) (oracle : Oracle ρ) (query : Bytes) (stage : Stage ρ) :
    Prop :=
  ∀ log, ∃ log', log <+: log' ∧ (stage log (.new query) = (.ok none, log') ∨
    ∃ response, stage log (.new query) = (.ok (some response), log') ∧
      IsReply codec oracle query log log' response)

section Replies

variable {query : Bytes} {stage : Stage ρ} {stages : List (Stage ρ)} {log' : List (Event ρ)}
  {response : Bytes}

theorem IsReply.mono {log₁ : List (Event ρ)} (hpre : log <+: log₁)
    (h : IsReply codec oracle query log₁ log' response) :
    IsReply codec oracle query log log' response := by
  obtain ⟨hparse, before, resolver, hbefore, hrest⟩ | hmessage := h
  · exact Or.inl ⟨hparse, before, resolver, hpre.trans hbefore, hrest⟩
  · exact Or.inr hmessage

theorem isReply_of_keepsId (hid : message.metadata.id = queryId query)
    (hkeeps : codec.KeepsId message) :
    IsReply codec oracle query log log' ((codec.toVec message).getD []) := by
  obtain ⟨bytes, decoded, htoVec, hfromVec, hdecoded⟩ := hkeeps
  refine Or.inr ⟨decoded, ?_, hdecoded.trans hid⟩
  rw [htoVec, Option.getD_some, hfromVec]

/-- What a resolver returns is a reply once its ID is fixed. -/
theorem isReply_fixResponseId {resolver : ρ} (h : oracle log resolver query = .ok response)
    (hreencode : ∀ bytes decoded, codec.fromVec bytes = some decoded →
      codec.KeepsId (decoded.withId (queryId query))) :
    IsReply codec oracle query log (log ++ [Event.resolve resolver query])
      (fixResponseId codec response (queryId query)) := by
  unfold fixResponseId
  cases hdecoded : codec.fromVec response with
  | none => exact Or.inl ⟨hdecoded, log, resolver, List.prefix_refl log, rfl, h⟩
  | some decoded =>
      obtain ⟨bytes, reread, htoVec, hfromVec, hid⟩ := hreencode response decoded hdecoded
      refine Or.inr ⟨reread, ?_, hid⟩
      show codec.fromVec ((codec.toVec (decoded.withId (queryId query))).getD response) = _
      rw [htoVec, Option.getD_some, hfromVec]

theorem isReply_buildErrorResponse (hmsg : codec.fromVec query = some message)
    (hid : message.metadata.id = queryId query) {code : ResponseCode}
    (herror : codec.KeepsId (errorMessage (some message) code)) :
    IsReply codec oracle query log log' (buildErrorResponse codec query code) := by
  unfold buildErrorResponse
  rw [hmsg]
  exact isReply_of_keepsId hid herror

theorem isReply_buildSinkholeResponse {filter : DomainFilter}
    (hid : message.metadata.id = queryId query)
    (hsinkhole : codec.KeepsId
      (sinkholeMessage message filter.sinkholeIpv4 filter.sinkholeIpv6)) :
    IsReply codec oracle query log log'
      (buildSinkholeResponse codec message filter.sinkholeIpv4 filter.sinkholeIpv6) := by
  unfold buildSinkholeResponse
  exact isReply_of_keepsId hid hsinkhole

/-- Stages that reply, followed by the fallback: the first that does not pass on gives the
response. -/
theorem handleRequest_replies (hstages : ∀ stage ∈ stages, StageReplies codec oracle query stage)
    (hlast : ∀ log log' : List (Event ρ), IsReply codec oracle query log log'
      (buildServfailResponse codec query)) :
    ∃ response log',
      handleRequest (stages ++ [dnsServfailFallbackStage codec]) log (.new query) =
          (.ok (some response), log') ∧ IsReply codec oracle query log log' response := by
  induction stages generalizing log with
  | nil => exact ⟨_, log, rfl, hlast log log⟩
  | cons stage stages ih =>
      obtain ⟨log₁, hpre, hpass | ⟨response, hanswer, hreply⟩⟩ :=
        hstages stage List.mem_cons_self log
      · rw [List.cons_append, handleRequest_pass hpass]
        obtain ⟨response, log', hrest, hreply⟩ :=
          @ih log₁ fun other h => hstages other (List.mem_cons_of_mem _ h)
        exact ⟨response, log', hrest, hreply.mono hpre⟩
      · rw [List.cons_append, handleRequest_answer hanswer]
        exact ⟨response, log₁, rfl, hreply⟩

/-! ### Stage by stage -/

theorem stageReplies_zoneForwardingStage (entries : List (ZoneEntry ρ))
    (hreencode : ∀ bytes decoded, codec.fromVec bytes = some decoded →
      codec.KeepsId (decoded.withId (queryId query)))
    (hservfail : ∀ log log' : List (Event ρ), IsReply codec oracle query log log'
      (buildServfailResponse codec query)) :
    StageReplies codec oracle query (zoneForwardingStage codec oracle entries) := by
  intro log
  unfold zoneForwardingStage
  cases (extractQueryName codec (DnsPipelineRequest.new query).query).bind
      (matchingEntry entries) with
  | none => exact ⟨log, List.prefix_refl log, Or.inl rfl⟩
  | some entry =>
      refine ⟨log ++ [Event.resolve entry.resolver query], List.prefix_append _ _, ?_⟩
      simp only [DnsPipelineRequest.new]
      cases h : oracle log entry.resolver query with
      | ok response => exact Or.inr ⟨_, rfl, isReply_fixResponseId h hreencode⟩
      | error e =>
          by_cases hfallback : entry.fallbackToDefaultResolvers = true
          · exact Or.inl (by simp [hfallback])
          · exact Or.inr ⟨_, by simp [hfallback], hservfail _ _⟩

theorem stageReplies_dnsFilterStage {filter : DomainFilter} (filteringEnabled : Bool)
    (hmsg : codec.fromVec query = some message) (hid : message.metadata.id = queryId query)
    (hsinkhole : codec.KeepsId
      (sinkholeMessage message filter.sinkholeIpv4 filter.sinkholeIpv6)) :
    StageReplies codec oracle query (dnsFilterStage codec filter filteringEnabled) := by
  intro log
  unfold dnsFilterStage
  by_cases henabled : filteringEnabled = true
  · simp only [henabled, DnsPipelineRequest.new, hmsg]
    cases message.queries.head? with
    | none => exact ⟨log, List.prefix_refl log, Or.inl rfl⟩
    | some question =>
        cases hdecide : filter.decideDomain question.name.toAscii with
        | allow =>
            exact ⟨log ++ [Event.recordDnsQuery .allowed], List.prefix_append _ _,
              Or.inl (by simp [hdecide])⟩
        | neutral =>
            exact ⟨log ++ [Event.recordDnsQuery .passthrough], List.prefix_append _ _,
              Or.inl (by simp [hdecide])⟩
        | block =>
            exact ⟨log ++ [Event.recordDnsQuery .blocked,
              Event.recordBlocklistHit (filter.blockedBy question.name.toAscii)],
              List.prefix_append _ _,
              Or.inr ⟨_, by simp only [hdecide]; rfl, isReply_buildSinkholeResponse hid hsinkhole⟩⟩
  · exact ⟨log ++ [Event.recordDnsQuery .passthrough], List.prefix_append _ _,
      Or.inl (by simp [henabled])⟩

theorem stageReplies_dnsAnyQueryPolicyStage (policy : AnyQueryPolicy)
    (herror : ∀ code ∈ stageResponseCodes, ∀ log log' : List (Event ρ),
      IsReply codec oracle query log log' (buildErrorResponse codec query code)) :
    StageReplies codec oracle query (dnsAnyQueryPolicyStage codec policy) := by
  intro log
  refine ⟨log, List.prefix_refl log, ?_⟩
  unfold dnsAnyQueryPolicyStage
  cases hcode : policy.responseCode with
  | none => exact Or.inl rfl
  | some code =>
      have hmem : code ∈ stageResponseCodes := by
        cases policy <;> simp_all [AnyQueryPolicy.responseCode, stageResponseCodes]
      cases (codec.fromVec (DnsPipelineRequest.new query).query).bind (·.queries.head?) with
      | none => exact Or.inl rfl
      | some question =>
          by_cases hany : question.queryType = RecordType.any
          · exact Or.inr ⟨_, if_pos hany, herror code hmem log log⟩
          · exact Or.inl (if_neg hany)

theorem stageReplies_dnsUpstreamStage (resolver : ρ)
    (hreencode : ∀ bytes decoded, codec.fromVec bytes = some decoded →
      codec.KeepsId (decoded.withId (queryId query)))
    (herror : ∀ code ∈ stageResponseCodes, ∀ log log' : List (Event ρ),
      IsReply codec oracle query log log' (buildErrorResponse codec query code)) :
    StageReplies codec oracle query (dnsUpstreamStage codec oracle resolver) := by
  intro log
  refine ⟨log ++ [Event.resolve resolver query], List.prefix_append _ _, Or.inr ?_⟩
  unfold dnsUpstreamStage
  simp only [DnsPipelineRequest.new]
  cases h : oracle log resolver query with
  | ok response => exact ⟨_, rfl, isReply_fixResponseId h hreencode⟩
  | error error =>
      by_cases hnodata : isDnssecNodataProtocolError error = true
      · exact ⟨buildNodataResponse codec query, by simp [hnodata],
          herror .noError (by simp [stageResponseCodes]) _ _⟩
      · exact ⟨buildServfailResponse codec query, by simp [hnodata],
          herror .servFail (by simp [stageResponseCodes]) _ _⟩

end Replies

/-- **Every query is answered under its own ID.** Whatever the zones, the filter, the policy and the
resolvers do, the pipeline returns a response to a query that parses. Unless it is an upstream
response that does not parse, passed through unchanged, it is a message with the query's ID. The
listener's defensive branch is not taken. -/
theorem query_is_answered (resolver : ρ) (filter : DomainFilter) (anyQueryPolicy : AnyQueryPolicy)
    (zoneEntries : List (ZoneEntry ρ)) (filteringEnabled : Option Bool) {query : Bytes}
    (hread : ∀ bytes decoded, codec.fromVec bytes = some decoded →
      decoded.metadata.id = queryId bytes)
    (hreencode : ∀ bytes decoded, codec.fromVec bytes = some decoded →
      codec.KeepsId (decoded.withId (queryId query)))
    (hmsg : codec.fromVec query = some message)
    (hsinkhole : codec.KeepsId
      (sinkholeMessage message filter.sinkholeIpv4 filter.sinkholeIpv6))
    (herror : ∀ code ∈ stageResponseCodes,
      codec.KeepsId (errorMessage (some message) code)) :
    let result := handleRequest (buildDnsRequestPipelineFull codec oracle resolver filter
      anyQueryPolicy zoneEntries filteringEnabled) log (.new query)
    (∃ response, result.1 = .ok (some response) ∧
        IsReply codec oracle query log result.2 response) ∧
      hickoryReply codec message.metadata result.1 ≠ .noResponse := by
  intro result
  have hid := hread query message hmsg
  have hreply : ∀ code ∈ stageResponseCodes, ∀ log log' : List (Event ρ),
      IsReply codec oracle query log log' (buildErrorResponse codec query code) :=
    fun code hcode _ _ => isReply_buildErrorResponse hmsg hid (herror code hcode)
  have hservfail := hreply .servFail (by simp [stageResponseCodes])
  have hstages : ∀ stage ∈ (buildDnsRequestPipelineFull codec oracle resolver filter
      anyQueryPolicy zoneEntries filteringEnabled).dropLast,
      StageReplies codec oracle query stage := by
    simp only [buildDnsRequestPipelineFull, List.dropLast, List.forall_mem_cons]
    exact ⟨stageReplies_zoneForwardingStage _ hreencode hservfail,
      stageReplies_dnsFilterStage _ hmsg hid hsinkhole,
      stageReplies_dnsAnyQueryPolicyStage _ hreply,
      stageReplies_zoneForwardingStage _ hreencode hservfail,
      stageReplies_dnsUpstreamStage _ hreencode hreply, by simp⟩
  obtain ⟨response, log', hresult, hisReply⟩ : ∃ response log',
      result = (.ok (some response), log') ∧ IsReply codec oracle query log log' response :=
    handleRequest_replies hstages hservfail
  rw [hresult]
  refine ⟨⟨response, rfl, hisReply⟩, ?_⟩
  show buildResponse codec message.metadata response ≠ HandlerReply.noResponse
  unfold buildResponse
  cases codec.fromVec response <;> simp

/-! A query without questions whose upstream response carries another ID. -/

/-- Messages under ID 0 with what follows the ID on the wire: the query and the responses that the
stages can give to it. -/
def headerCodecTable : List (Bytes × Message) :=
  let query := Message.new 0 .query .query
  [ ([0x00, 0x00, 0, 0, 0, 0, 0, 0, 0, 0], query),
    ([0x80, 0x80, 0, 0, 0, 0, 0, 0, 0, 0], errorMessage (some query) .noError),
    ([0x80, 0x82, 0, 0, 0, 0, 0, 0, 0, 0], errorMessage (some query) .servFail),
    ([0x80, 0x84, 0, 0, 0, 0, 0, 0, 0, 0], errorMessage (some query) .notImp),
    ([0x80, 0x85, 0, 0, 0, 0, 0, 0, 0, 0], errorMessage (some query) .refused) ]

/-- The wire format of messages that are a header only. -/
def headerCodec : MessageCodec where
  fromVec bytes :=
    ((headerCodecTable.find? (·.1 = bytes.drop 2)).map (·.2.withId (queryId bytes)))
  toVec message :=
    (headerCodecTable.find? (·.2 = message.withId 0)).map fun row =>
      [UInt8.ofNat (message.metadata.id.toNat / 256), UInt8.ofNat message.metadata.id.toNat] ++
        row.1

theorem headerCodec_readsId {bytes : Bytes} {decoded : Message}
    (h : headerCodec.fromVec bytes = some decoded) : decoded.metadata.id = queryId bytes := by
  obtain ⟨row, -, rfl⟩ := Option.map_eq_some_iff.1 h
  rfl

theorem queryId_idBytes (id : UInt16) (rest : Bytes) :
    queryId (UInt8.ofNat (id.toNat / 256) :: UInt8.ofNat id.toNat :: rest) = id := by
  have hlt := id.toNat_lt
  apply UInt16.toNat.inj
  simp only [queryId, UInt16.toNat_ofNat', UInt8.toNat_ofNat']
  omega

theorem headerCodec_keepsId {message : Message}
    (h : message.withId 0 ∈ headerCodecTable.map (·.2)) : headerCodec.KeepsId message := by
  have hkeeps : ∀ bytes decoded, headerCodec.toVec message = some bytes →
      headerCodec.fromVec bytes = some decoded → decoded.metadata.id = message.metadata.id := by
    intro bytes decoded htoVec hfromVec
    obtain ⟨found, -, rfl⟩ := Option.map_eq_some_iff.1 htoVec
    rw [headerCodec_readsId hfromVec]
    exact queryId_idBytes message.metadata.id found.1
  obtain ⟨row, hrow, heq⟩ := List.mem_map.1 h
  have hmessage : message = row.2.withId message.metadata.id := by rw [heq]; rfl
  rw [hmessage] at hkeeps ⊢
  simp only [headerCodecTable, List.mem_cons, List.not_mem_nil, or_false] at hrow
  obtain rfl | rfl | rfl | rfl | rfl := hrow <;>
    exact ⟨_, _, rfl, rfl, hkeeps _ _ rfl rfl⟩

theorem query_is_answered_header :
    let query : Bytes := [0x12, 0x34, 0x00, 0x00, 0, 0, 0, 0, 0, 0, 0, 0]
    let oracle : Oracle Unit := fun _ _ _ => .ok [0xbe, 0xef, 0x80, 0x80, 0, 0, 0, 0, 0, 0, 0, 0]
    let result := handleRequest (buildDnsRequestPipelineFull headerCodec oracle () blockAll .notImp
      [⟨".", true, false, ()⟩] none) [] (.new query)
    (∃ response, result.1 = .ok (some response) ∧
        IsReply headerCodec oracle query [] result.2 response) ∧
      hickoryReply headerCodec (Message.new 0x1234 .query .query).metadata result.1 ≠
        .noResponse := by
  intro query oracle result
  have hmsg : headerCodec.fromVec query = some (Message.new 0x1234 .query .query) := by decide
  refine query_is_answered () blockAll .notImp [⟨".", true, false, ()⟩] none
    (fun _ _ => headerCodec_readsId) ?_ hmsg ?_ ?_
  · intro bytes decoded h
    obtain ⟨row, hrow, rfl⟩ := Option.map_eq_some_iff.1 h
    have hzero : ∀ row ∈ headerCodecTable, row.2.withId 0 ∈ headerCodecTable.map (·.2) := by decide
    apply headerCodec_keepsId
    rw [Message.withId_withId, Message.withId_withId]
    exact hzero row (List.mem_of_find?_eq_some hrow)
  · exact headerCodec_keepsId (by decide)
  · intro code hcode
    have hcodes : ∀ code ∈ stageResponseCodes,
        (errorMessage (some (Message.new 0x1234 .query .query)) code).withId 0 ∈
          headerCodecTable.map (·.2) := by decide
    exact headerCodec_keepsId (hcodes code hcode)

end DnsFilter
