import DnsFilter.Message
import DnsFilter.Filtering.Engine
import Mathlib.Data.List.Sort

/-!
# The request pipeline

`AsyncPipelineHandler` and the six stages that `build_dns_request_pipeline_full` puts together
(`request_pipeline.rs`, `zone_forwarding.rs`, `config_bootstrap.rs`). A stage either answers,
passes the request on, or fails.

Resolvers are outside: what a resolver returns is given by an oracle, which may depend on
everything that happened before. Every call of a resolver and every recorded metric is an event,
and the pipeline threads the log of events through its stages.
-/

namespace DnsFilter

open Net Text

/-- `UpstreamResolveError`. -/
inductive UpstreamResolveError
  | io (message : String)
  | timeout
  | protocol (message : String)
  | allFailed
  | withSource (resolver : String) (inner : UpstreamResolveError)
  deriving DecidableEq, Repr

/-- The `Display` text of an error. -/
def UpstreamResolveError.display : UpstreamResolveError → String
  | .io message => "I/O error: " ++ message
  | .timeout => "query timed out"
  | .protocol message => "protocol error: " ++ message
  | .allFailed => "all upstreams failed"
  | .withSource resolver inner => "[" ++ resolver ++ "] " ++ inner.display

/-- The only way a pipeline could fail. -/
inductive DnsPipelineError
  | upstream (error : UpstreamResolveError)
  deriving DecidableEq, Repr

inductive QueryDecision
  | allowed
  | blocked
  | passthrough
  deriving DecidableEq, Repr

/-- What the pipeline does to its surroundings; `ρ` are the resolvers. -/
inductive Event (ρ : Type*)
  | resolve (resolver : ρ) (query : Bytes)
  | recordDnsQuery (decision : QueryDecision)
  | recordBlocklistHit (lists : List String)
  deriving DecidableEq, Repr

/-- What a resolver returns, given everything that happened before. -/
abbrev Oracle (ρ : Type*) := List (Event ρ) → ρ → Bytes → Except UpstreamResolveError Bytes

structure DnsPipelineRequest where
  query : Bytes
  clientQueryId : UInt16
  deriving DecidableEq, Repr

/-- `DnsPipelineRequest::new`. -/
def DnsPipelineRequest.new (query : Bytes) : DnsPipelineRequest where
  query := query
  clientQueryId := queryId query

/-- What a stage returns: an answer in wire format, nothing, or an error. -/
abbrev StageOutcome := Except DnsPipelineError (Option Bytes)

/-- A stage maps the log and the request to its outcome and the longer log. -/
abbrev Stage (ρ : Type*) := List (Event ρ) → DnsPipelineRequest → StageOutcome × List (Event ρ)

/-- `AsyncPipelineHandler::handle_request`: the stages in turn, until one answers or fails. -/
def handleRequest {ρ : Type*} : List (Stage ρ) → Stage ρ
  | [], log, _ => (.ok none, log)
  | stage :: rest, log, request =>
      match stage log request with
      | (.ok none, log) => handleRequest rest log request
      | outcome => outcome

/-- The filter a pipeline consults (`trait DomainFilter`). -/
structure DomainFilter where
  decideDomain : String → FilterDecision
  blockedBy : String → List String
  sinkholeIpv4 : Ipv4Addr
  sinkholeIpv6 : Ipv6Addr

/-- The engine as a filter, in its current state. -/
def ListFilterEngine.toDomainFilter (engine : ListFilterEngine) : DomainFilter where
  decideDomain := engine.decideDomain
  blockedBy := engine.blockedBy
  sinkholeIpv4 := engine.sinkholeV4
  sinkholeIpv6 := engine.sinkholeV6

inductive AnyQueryPolicy
  | passthrough
  | refused
  | notImp
  deriving DecidableEq, Repr

/-! ## Responses -/

section Responses

variable (codec : MessageCodec)

/-- `make_a_record`. -/
def makeARecord (name : Name) (addr : Ipv4Addr) : Record :=
  { name := name, ttl := 60, data := .a addr }

/-- `make_aaaa_record`. -/
def makeAaaaRecord (name : Name) (addr : Ipv6Addr) : Record :=
  { name := name, ttl := 60, data := .aaaa addr }

/-- The answers of `build_sinkhole_response`. -/
def sinkholeAnswers (question : Query) (v4 : Ipv4Addr) (v6 : Ipv6Addr) : List Record :=
  match question.queryType with
  | .a => [makeARecord question.name v4]
  | .aaaa => [makeAaaaRecord question.name v6]
  | .any => [makeARecord question.name v4, makeAaaaRecord question.name v6]
  | .other _ => []

/-- The message of `build_sinkhole_response`, before it is encoded. -/
def sinkholeMessage (query : Message) (v4 : Ipv4Addr) (v6 : Ipv6Addr) : Message where
  metadata :=
    { id := query.metadata.id
      messageType := .response
      opCode := .query
      recursionDesired := query.metadata.recursionDesired
      recursionAvailable := true
      responseCode := .noError }
  queries := query.queries
  answers :=
    match query.queries.head? with
    | some question => sinkholeAnswers question v4 v6
    | none => []

/-- `build_sinkhole_response`. -/
def buildSinkholeResponse (query : Message) (v4 : Ipv4Addr) (v6 : Ipv6Addr) : Bytes :=
  (codec.toVec (sinkholeMessage query v4 v6)).getD []

/-- The message of `build_error_response`, before it is encoded. -/
def errorMessage (query : Option Message) (responseCode : ResponseCode) : Message :=
  let response : Message :=
    { metadata :=
        { id := 0
          messageType := .response
          opCode := .query
          recursionAvailable := true
          responseCode := responseCode } }
  match query with
  | some query =>
      { response with
        metadata := { response.metadata with
          id := query.metadata.id
          recursionDesired := query.metadata.recursionDesired }
        queries := query.queries }
  | none => response

/-- `build_error_response`. -/
def buildErrorResponse (queryBytes : Bytes) (responseCode : ResponseCode) : Bytes :=
  (codec.toVec (errorMessage (codec.fromVec queryBytes) responseCode)).getD []

/-- `build_servfail_response`. -/
def buildServfailResponse (queryBytes : Bytes) : Bytes :=
  buildErrorResponse codec queryBytes .servFail

/-- `build_nodata_response`. -/
def buildNodataResponse (queryBytes : Bytes) : Bytes :=
  buildErrorResponse codec queryBytes .noError

/-- `fix_response_id`, and the same lines at the end of `DnsUpstreamStage::handle`. -/
def fixResponseId (response : Bytes) (clientQueryId : UInt16) : Bytes :=
  match codec.fromVec response with
  | some message => (codec.toVec (message.withId clientQueryId)).getD response
  | none => response

/-- `is_dnssec_nodata_protocol_error`. -/
def isDnssecNodataProtocolError : UpstreamResolveError → Bool
  | .protocol message => contains "Dns(Nsec" message || contains "Nsec \x7b" message
  | .withSource _ inner => isDnssecNodataProtocolError inner
  | _ => false

end Responses

/-! ## Zones -/

/-- A zone with its own resolver. The zone's name is normalised and not empty. -/
structure ZoneEntry (ρ : Type*) where
  zone : String
  bypassFilter : Bool
  fallbackToDefaultResolvers : Bool
  resolver : ρ
  deriving DecidableEq, Repr

/-- `normalize_zone`. -/
def normalizeZone (value : String) : Option String :=
  let trimmed := trimEndMatches '.' (trim value)
  if trimmed = "" then
    if trim value = "." then some "." else none
  else some (toAsciiLowercase trimmed)

/-- `ZoneEntry::new`. -/
def ZoneEntry.new {ρ : Type*} (zone : String) (bypassFilter fallbackToDefaultResolvers : Bool)
    (resolver : ρ) : Except String (ZoneEntry ρ) :=
  match normalizeZone zone with
  | some zone => .ok ⟨zone, bypassFilter, fallbackToDefaultResolvers, resolver⟩
  | none => .error "zone name must not be empty"

/-- `domain_matches_zone` of `zone_forwarding.rs`. -/
def domainMatchesZone (domain zone : String) : Bool :=
  if zone = "." then true
  else domain = zone ||
    match stripSuffix zone domain with
    | some rest => endsWith "." rest
    | none => false

/-- `sort_entries`: longest zone first, otherwise in the given order. -/
def sortEntries {ρ : Type*} (entries : List (ZoneEntry ρ)) : List (ZoneEntry ρ) :=
  entries.insertionSort fun a b => b.zone.utf8ByteSize ≤ a.zone.utf8ByteSize

/-- The entries of `ZoneForwardingStage::bypass_only`. -/
def bypassOnly {ρ : Type*} (entries : List (ZoneEntry ρ)) : List (ZoneEntry ρ) :=
  sortEntries (entries.filter (·.bypassFilter))

/-- The entries of `ZoneForwardingStage::non_bypass`. -/
def nonBypass {ρ : Type*} (entries : List (ZoneEntry ρ)) : List (ZoneEntry ρ) :=
  sortEntries (entries.filter (!·.bypassFilter))

/-- `matching_entry`. -/
def matchingEntry {ρ : Type*} (entries : List (ZoneEntry ρ)) (domain : String) :
    Option (ZoneEntry ρ) :=
  match normalizeZone domain with
  | some domain => entries.find? fun entry => domainMatchesZone domain entry.zone
  | none => none

/-! ## The stages -/

section Stages

variable {ρ : Type*} (codec : MessageCodec) (oracle : Oracle ρ)

/-- `extract_query_name`. -/
def extractQueryName (query : Bytes) : Option String := do
  let message ← codec.fromVec query
  let query ← message.queries.head?
  return query.name.toAscii

/-- `ZoneForwardingStage::handle`. -/
def zoneForwardingStage (entries : List (ZoneEntry ρ)) : Stage ρ := fun log request =>
  match (extractQueryName codec request.query).bind (matchingEntry entries) with
  | none => (.ok none, log)
  | some entry =>
      let log' := log ++ [Event.resolve entry.resolver request.query]
      match oracle log entry.resolver request.query with
      | .ok response => (.ok (some (fixResponseId codec response request.clientQueryId)), log')
      | .error _ =>
          if entry.fallbackToDefaultResolvers then (.ok none, log')
          else (.ok (some (buildServfailResponse codec request.query)), log')

/-- `DnsFilterStage::handle`; the flag is read when the request arrives. -/
def dnsFilterStage (filter : DomainFilter) (filteringEnabled : Bool) : Stage ρ := fun log request =>
  if !filteringEnabled then (.ok none, log ++ [Event.recordDnsQuery .passthrough])
  else
    match codec.fromVec request.query with
    | none => (.ok none, log)
    | some message =>
        match message.queries.head? with
        | none => (.ok none, log)
        | some firstQuery =>
            let domain := firstQuery.name.toAscii
            match filter.decideDomain domain with
            | .allow => (.ok none, log ++ [Event.recordDnsQuery .allowed])
            | .neutral => (.ok none, log ++ [Event.recordDnsQuery .passthrough])
            | .block =>
                (.ok (some
                    (buildSinkholeResponse codec message filter.sinkholeIpv4 filter.sinkholeIpv6)),
                  log ++ [Event.recordDnsQuery .blocked,
                    Event.recordBlocklistHit (filter.blockedBy domain)])

/-- The response code of a policy that does not pass ANY queries on. -/
def AnyQueryPolicy.responseCode : AnyQueryPolicy → Option ResponseCode
  | .passthrough => none
  | .refused => some .refused
  | .notImp => some .notImp

/-- `DnsAnyQueryPolicyStage::handle`. -/
def dnsAnyQueryPolicyStage (policy : AnyQueryPolicy) : Stage ρ := fun log request =>
  match policy.responseCode, (codec.fromVec request.query).bind (·.queries.head?) with
  | some responseCode, some firstQuery =>
      if firstQuery.queryType = .any then
        (.ok (some (buildErrorResponse codec request.query responseCode)), log)
      else (.ok none, log)
  | _, _ => (.ok none, log)

/-- `DnsUpstreamStage::handle`. -/
def dnsUpstreamStage (resolver : ρ) : Stage ρ := fun log request =>
  let log' := log ++ [Event.resolve resolver request.query]
  match oracle log resolver request.query with
  | .ok response => (.ok (some (fixResponseId codec response request.clientQueryId)), log')
  | .error error =>
      if isDnssecNodataProtocolError error then
        (.ok (some (buildNodataResponse codec request.query)), log')
      else (.ok (some (buildServfailResponse codec request.query)), log')

/-- `DnsServfailFallbackStage::handle`. -/
def dnsServfailFallbackStage : Stage ρ := fun log request =>
  (.ok (some (buildServfailResponse codec request.query)), log)

/-- `build_dns_request_pipeline_full`; without a shared flag filtering is on. -/
def buildDnsRequestPipelineFull (resolver : ρ) (filter : DomainFilter)
    (anyQueryPolicy : AnyQueryPolicy) (zoneEntries : List (ZoneEntry ρ))
    (filteringEnabled : Option Bool) : List (Stage ρ) :=
  [ zoneForwardingStage codec oracle (bypassOnly zoneEntries),
    dnsFilterStage codec filter (filteringEnabled.getD true),
    dnsAnyQueryPolicyStage codec anyQueryPolicy,
    zoneForwardingStage codec oracle (nonBypass zoneEntries),
    dnsUpstreamStage codec oracle resolver,
    dnsServfailFallbackStage codec ]

end Stages

/-! ## The listener's handler -/

/-- `Metadata::response_from_request`. -/
def Metadata.responseFromRequest (request : Metadata) : Metadata where
  id := request.id
  messageType := .response
  opCode := request.opCode
  recursionDesired := request.recursionDesired
  checkingDisabled := request.checkingDisabled

/-- What `HickoryRequestHandler` hands to the response handler. -/
inductive HandlerReply
  /-- The SERVFAIL of the defensive branch: the pipeline produced no response. -/
  | noResponse
  /-- The SERVFAIL of `build_response`: the pipeline's response does not parse. -/
  | unparsable
  | built (metadata : Metadata) (answers authorities additionals : List Record)
  deriving DecidableEq, Repr

/-- `build_response`, up to the sending. -/
def buildResponse (codec : MessageCodec) (request : Metadata) (responseBytes : Bytes) :
    HandlerReply :=
  match codec.fromVec responseBytes with
  | none => .unparsable
  | some response =>
      .built
        { request.responseFromRequest with
          responseCode := response.metadata.responseCode
          authoritative := response.metadata.authoritative
          recursionAvailable := response.metadata.recursionAvailable
          authenticData := response.metadata.authenticData
          checkingDisabled := response.metadata.checkingDisabled }
        response.answers response.authorities response.additionals

/-- `HickoryRequestHandler::handle_request`, given the outcome of the pipeline. -/
def hickoryReply (codec : MessageCodec) (request : Metadata) : StageOutcome → HandlerReply
  | .ok (some response) => buildResponse codec request response
  | .ok none | .error _ => .noResponse

end DnsFilter
