import DnsFilter.Filtering.EngineProof
import DnsFilter.Lib.Run

/-!
# The running server

Startup builds one `ListFilterEngine` and hands it to the request pipeline and to
`ServerOperations` (`main.rs`). A reload builds a new engine and puts it into the pipeline slot;
`ServerOperations` keeps the engine it was given. Refresh tasks run on every engine that was ever
built.

* `Server.step` — reloads, refreshes and the calls of the API, one at a time.
* `dnsLookup_eq_stageDecision` — until the first reload the API and the pipeline agree, and
  lists disabled through the API do not contribute to decisions.
* `reload_separates` — a reload after `disable_list` breaks both.
-/

namespace DnsFilter

open ListFilterEngine

/-- The API holds `apiEngine`, the one of startup; `reloaded` are the engines of the reloads, latest
first. `disabledByApi` records the names on which `disable_list` succeeded and `enable_list` was not
called since; nothing in the program reads it. -/
structure Server where
  apiEngine : ListFilterEngine
  reloaded : List ListFilterEngine
  filteringEnabled : Bool
  disabledByApi : List String

/-- What happens to the server. -/
inductive ServerEvent
  /-- A reload that succeeds with this configuration. -/
  | reload (config : DnsFilterConfig)
      (cacheRepo : String → Except String (Option FilterCacheDocumentRecord))
  /-- A task of the engine built `age` reloads ago refreshes a list. -/
  | refresh (age : Nat) (name : String) (fetched : Except String String)
  | enableList (name : String)
  | disableList (name : String)
  | setFiltering (enabled : Bool)
  | dnsLookup (domain : String)

structure DnsLookupResult where
  domain : String
  decision : String
  filteringEnabled : Bool
  deriving DecidableEq, Repr

namespace Server

/-- The engine of the installed pipeline: the latest one. -/
def installedEngine (server : Server) : ListFilterEngine :=
  server.reloaded.head?.getD server.apiEngine

/-- What the `DnsFilterStage` of the installed pipeline decides. -/
def stageDecision (server : Server) (domain : String) : FilterDecision :=
  server.installedEngine.decideDomain domain

/-- The texts of `dns_lookup`. -/
def decisionStatus : FilterDecision → String
  | .allow => "allowed"
  | .block => "blocked"
  | .neutral => "neutral (passthrough)"

/-- `ServerOperations::dns_lookup`. -/
def dnsLookup (server : Server) (domain : String) : DnsLookupResult where
  domain := domain
  decision := decisionStatus (server.apiEngine.decideDomain domain)
  filteringEnabled := server.filteringEnabled

section Step

variable (nameFromAscii : String → Bool) (fromJson : String → Option CachedListDocument)

/-- Startup. -/
def start (config : DnsFilterConfig)
    (cacheRepo : String → Except String (Option FilterCacheDocumentRecord)) :
    Except String Server := do
  let engine ← fromConfigWithCache fromJson config (some cacheRepo)
  return { apiEngine := engine, reloaded := [], filteringEnabled := true, disabledByApi := [] }

/-- One event; `none` if it cannot happen. -/
def step (server : Server) : ServerEvent → Option Server
  | .reload config cacheRepo =>
      match fromConfigWithCache fromJson config (some cacheRepo) with
      | .ok engine => some { server with reloaded := engine :: server.reloaded }
      | .error _ => none
  | .refresh age name fetched =>
      let op := EngineOp.refresh name fetched
      if age < server.reloaded.length then
        some { server with
          reloaded := server.reloaded.modify age (op.apply nameFromAscii fromJson ·) }
      else if age = server.reloaded.length then
        some { server with apiEngine := op.apply nameFromAscii fromJson server.apiEngine }
      else none
  | .enableList name =>
      some { server with
        apiEngine := (server.apiEngine.enableList name).2
        disabledByApi := server.disabledByApi.filter (· ≠ name) }
  | .disableList name =>
      let (found, engine) := server.apiEngine.disableList name
      some { server with
        apiEngine := engine
        disabledByApi := if found then name :: server.disabledByApi else server.disabledByApi }
  | .setFiltering enabled => some { server with filteringEnabled := enabled }
  | .dnsLookup _ => some server

end Step

/-- The event is not a reload. -/
def noReload : ServerEvent → Bool
  | .reload _ _ => false
  | _ => true

end Server

/-- Erasing the list's content would change some decision. -/
def ListFilterEngine.ListContributes (engine : ListFilterEngine) (rt : ListRuntime) : Prop :=
  ∃ domain, (rebuildSnapshot { engine with
    lists := engine.lists.erase rt.key }).decideDomain domain ≠ engine.decideDomain domain

/-! ## Lists that are switched off -/

section SwitchedOff

variable {nameFromAscii : String → Bool} {fromJson : String → Option CachedListDocument}
variable {rts : List ListRuntime} {ops : List EngineOp} {engine : ListFilterEngine}

/-- Without the content of a disabled list the snapshot is the same. -/
theorem computeSnapshot_erase {runtimes : List ListRuntime} {lists : ListMap} {key : String}
    (hkey : key ∈ disabledKeys runtimes) :
    computeSnapshot runtimes (lists.erase key) = computeSnapshot runtimes lists := by
  apply computeSnapshot_congr
  intro key' hkey'
  have hne : key' ≠ key := fun h => hkey' (h ▸ hkey)
  exact AList.lookup_erase_ne hne

theorem not_listContributes (hwn : WellNamed rts) (h : Sim nameFromAscii fromJson rts ops engine)
    {rt : ListRuntime} (hrt : rt ∈ rts) (hdis : isDisabled rt ops = true) :
    ¬ engine.ListContributes rt := by
  rintro ⟨domain, hne⟩
  refine hne ?_
  rw [decideDomain, decideDomain, rebuildSnapshot, h.snapshot]
  simp only
  rw [computeSnapshot_erase ((mem_disabledKeys hwn h hrt).2 hdis)]

end SwitchedOff

/-! ## Before the first reload -/

namespace Server

variable {nameFromAscii : String → Bool} {fromJson : String → Option CachedListDocument}

/-- The invariant of the runs without a reload: there is one engine, it follows the history of the
calls, and the names recorded as disabled are disabled in that history. -/
structure Inv (nameFromAscii : String → Bool) (fromJson : String → Option CachedListDocument)
    (rts : List ListRuntime) (server : Server) : Prop where
  single : server.reloaded = []
  history : ∃ ops, Sim nameFromAscii fromJson rts ops server.apiEngine ∧
    ∀ name ∈ server.disabledByApi, ∀ rt ∈ rts, rt.name = name → isDisabled rt ops = true

theorem inv_start (nameFromAscii : String → Bool) {config : DnsFilterConfig}
    {cacheRepo : String → Except String (Option FilterCacheDocumentRecord)} {server : Server}
    (hstart : start fromJson config cacheRepo = .ok server) (hnames : (listNames config).Nodup) :
    WellNamed server.apiEngine.runtimes ∧
      Inv nameFromAscii fromJson server.apiEngine.runtimes server := by
  obtain ⟨engine, hengine, h⟩ := bind_eq_ok.1 hstart
  cases h
  obtain ⟨hwn, hsim⟩ := sim_built nameFromAscii hengine hnames
  exact ⟨hwn, rfl, _, hsim [], fun name hname => absurd hname (by simp)⟩

theorem inv_step {rts : List ListRuntime} (hwn : WellNamed rts) {server server' : Server}
    {event : ServerEvent} (h : Inv nameFromAscii fromJson rts server)
    (hnoReload : noReload event = true)
    (hstep : step nameFromAscii fromJson server event = some server') :
    Inv nameFromAscii fromJson rts server' := by
  obtain ⟨hsingle, ops, hsim, hdis⟩ := h
  cases event with
  | reload config cacheRepo => exact absurd hnoReload (by simp [noReload])
  | refresh age name fetched =>
      simp only [step, hsingle, List.length_nil, Nat.not_lt_zero, if_false] at hstep
      split at hstep
      · cases hstep
        refine ⟨rfl, ops ++ [EngineOp.refresh name fetched], sim_apply hwn hsim _, ?_⟩
        intro name' hname' rt hrt hn
        rw [isDisabled_concat]
        exact hdis name' hname' rt hrt hn
      · exact absurd hstep (by simp)
  | enableList name =>
      cases hstep
      refine ⟨hsingle, ops ++ [EngineOp.enable name], sim_apply hwn hsim (.enable name), ?_⟩
      rintro name' hname' rt hrt rfl
      obtain ⟨hname', hne⟩ := List.mem_filter.1 hname'
      have hne : name ≠ rt.name := Ne.symm (by simpa using hne)
      rw [isDisabled_concat, EngineOp.switches, if_neg hne]
      exact hdis _ hname' rt hrt rfl
  | disableList name =>
      cases hstep
      refine ⟨hsingle, ops ++ [EngineOp.disable name], sim_apply hwn hsim (.disable name), ?_⟩
      rintro name' hname' rt hrt rfl
      rw [isDisabled_concat, EngineOp.switches]
      split
      · rfl
      · rename_i hne
        refine hdis _ ?_ rt hrt rfl
        simp only at hname'
        split at hname'
        · exact (List.mem_cons.1 hname').resolve_left (Ne.symm hne)
        · exact hname'
  | setFiltering enabled =>
      cases hstep
      exact ⟨hsingle, ops, hsim, hdis⟩
  | dnsLookup domain =>
      cases hstep
      exact ⟨hsingle, ops, hsim, hdis⟩

/-- **Before the first reload** the API reports the decisions of the installed pipeline, and a
list disabled through the API does not contribute to them. -/
theorem dnsLookup_eq_stageDecision {config : DnsFilterConfig}
    {cacheRepo : String → Except String (Option FilterCacheDocumentRecord)} {started : Server}
    (hstart : start fromJson config cacheRepo = .ok started) (hnames : (listNames config).Nodup)
    {events : List ServerEvent} {server : Server}
    (hrun : run (step nameFromAscii fromJson) started events = some server)
    (hnoReload : AllSteps (step nameFromAscii fromJson) (fun _ event => noReload event) started
      events) :
    (∀ domain, (server.dnsLookup domain).decision = decisionStatus (server.stageDecision domain)) ∧
      ∀ name ∈ server.disabledByApi, ∀ rt ∈ server.installedEngine.runtimes, rt.name = name →
        ¬ server.installedEngine.ListContributes rt := by
  obtain ⟨hwn, hinv⟩ := inv_start nameFromAscii hstart hnames
  obtain ⟨hsingle, ops, hsim, hdis⟩ :=
    run_invariant_of_allSteps (fun _ _ _ h hno hs => inv_step hwn h hno hs) hrun hnoReload hinv
  have hinstalled : server.installedEngine = server.apiEngine := by
    rw [installedEngine, hsingle]
    rfl
  refine ⟨fun domain => by rw [dnsLookup, stageDecision, hinstalled], ?_⟩
  rw [hinstalled]
  intro name hname rt hrt hn
  rw [hsim.runtimes, List.mem_map] at hrt
  obtain ⟨rt, hrt, rfl⟩ := hrt
  have hnot := not_listContributes hwn hsim hrt (hdis name hname rt hrt hn)
  exact hnot

/-- A configuration with one blocklist. -/
def oneListConfig : DnsFilterConfig where
  blocklists := [{ name := "ads", url := "https://lists.example/ads" }]
  resolvers := { strategy := "failover", bootstrapResolvers := [], servers := [] }

/-- A list is loaded and then disabled through the API. -/
def loadAndDisable : List ServerEvent :=
  [.refresh 0 "ads" (.ok "ads.example"), .dnsLookup "ads.example", .disableList "ads"]

theorem dnsLookup_eq_stageDecision_loadAndDisable :
    ∃ started server, start (fun _ => none) oneListConfig (fun _ => .ok none) = .ok started ∧
      run (step (fun _ => true) (fun _ => none)) started loadAndDisable = some server ∧
      (server.dnsLookup "ads.example").decision =
        decisionStatus (server.stageDecision "ads.example") ∧
      ∃ rt ∈ server.installedEngine.runtimes, ¬ server.installedEngine.ListContributes rt := by
  have hany : (start (fun _ => none) oneListConfig fun _ => .ok none).toOption.any (fun started =>
      (run (step (fun _ => true) (fun _ => none)) started loadAndDisable).any
        (fun server => server.disabledByApi = ["ads"] ∧
          server.installedEngine.runtimes.map (·.name) = ["ads"])) = true := by decide +kernel
  obtain ⟨started, hstart, hany⟩ := exists_ok_of_any hany
  obtain ⟨server, hrun, htest⟩ := exists_run_of_any hany
  obtain ⟨hdis, hruntimes⟩ := of_decide_eq_true htest
  obtain ⟨hlookup, hoff⟩ := dnsLookup_eq_stageDecision hstart (by decide) hrun
    ⟨rfl, fun _ _ => ⟨rfl, fun _ _ => ⟨rfl, fun _ _ => trivial⟩⟩⟩
  obtain ⟨rt, hrt, hname⟩ : ∃ rt ∈ server.installedEngine.runtimes, rt.name = "ads" := by
    have : "ads" ∈ server.installedEngine.runtimes.map (·.name) := by simp [hruntimes]
    simpa using this
  exact ⟨started, server, hstart, hrun, hlookup _, rt, hrt,
    hoff "ads" (by simp [hdis]) rt hrt hname⟩

/-- After the reload the pipeline's engine loads the list, which the API still reports as
disabled. -/
theorem reload_separates :
    ¬ ∀ (config : DnsFilterConfig)
        (cacheRepo : String → Except String (Option FilterCacheDocumentRecord)) (started : Server)
        (events : List ServerEvent) (server : Server),
        start (fun _ => none) config cacheRepo = .ok started → (listNames config).Nodup →
        run (step (fun _ => true) (fun _ => none)) started events = some server →
        (∀ domain,
          (server.dnsLookup domain).decision = decisionStatus (server.stageDecision domain)) ∧
        ∀ name ∈ server.disabledByApi, ∀ rt ∈ server.installedEngine.runtimes, rt.name = name →
          ¬ server.installedEngine.ListContributes rt := by
  intro h
  let events := loadAndDisable ++ [ServerEvent.reload oneListConfig fun _ => .ok none,
    ServerEvent.refresh 0 "ads" (.ok "ads.example")]
  have hany : (start (fun _ => none) oneListConfig fun _ => .ok none).toOption.any (fun started =>
      (run (step (fun _ => true) (fun _ => none)) started events).any
        (fun server => (server.dnsLookup "ads.example").decision = "neutral (passthrough)" ∧
          server.stageDecision "ads.example" = .block)) = true := by decide +kernel
  obtain ⟨started, hstart, hany⟩ := exists_ok_of_any hany
  obtain ⟨server, hrun, htest⟩ := exists_run_of_any hany
  obtain ⟨hapi, hpipeline⟩ := of_decide_eq_true htest
  have heq := (h oneListConfig _ started events server hstart (by decide) hrun).1 "ads.example"
  rw [hapi, hpipeline] at heq
  exact absurd heq (by decide)

end Server

end DnsFilter
