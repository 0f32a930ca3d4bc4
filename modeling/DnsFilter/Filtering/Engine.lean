import DnsFilter.Filtering.Lines
import DnsFilter.Interval
import DnsFilter.Schema
import Mathlib.Data.List.AList
import Mathlib.Data.Finset.Sort
import Mathlib.Data.String.Basic

/-!
# The filter engine

`ListFilterEngine` (`use_cases/filtering/mod.rs`): the configured lists with their runtime
flags, the loaded content of each list, and the merged snapshot that answers queries. Every
operation that changes flags or content rebuilds the snapshot; `decide` reads the snapshot,
`blocked_by` reads the lists.

The engine's document cache is a key-value store outside the engine. A refresh produces the
document it stores there (`persistListDocument`), and a restore reads one document for each list
(`tryRestoreDocumentCache`). The JSON reader is the parameter `fromJson`.
-/

namespace DnsFilter

open Net

inductive FilterDecision
  | allow
  | block
  | neutral
  deriving DecidableEq, Repr

inductive ListKind
  | block
  | allow
  deriving DecidableEq, Repr

/-- A configured list; `runtimeDisabled` is the current value of its shared flag. -/
structure ListRuntime where
  key : String
  name : String
  url : String
  interval : Nat
  kind : ListKind
  format : ListFormat
  runtimeDisabled : Bool
  deriving DecidableEq, Repr

/-- The loaded content of a list. -/
structure ListDomains where
  kind : ListKind
  domains : Finset String
  exceptions : Finset String
  deriving DecidableEq

structure FilterSnapshot where
  blocked : Finset String := ∅
  allowed : Finset String := ∅
  deriving DecidableEq

/-- The content of each list that has been loaded, by list key. -/
abbrev ListMap := AList fun _ : String => ListDomains

/-- A cached, parsed list document. -/
structure CachedListDocument where
  kind : ListKind
  domains : List String
  exceptions : List String
  deriving DecidableEq, Repr

/-- A row of the document cache. -/
structure FilterCacheDocumentRecord where
  key : String
  value : String
  deriving DecidableEq, Repr

/-- What the API reports about a list. -/
structure ListInfo where
  name : String
  url : String
  kind : String
  listType : String
  enabled : Bool
  intervalSecs : Nat
  domainCount : Nat
  exceptionCount : Nat
  deriving DecidableEq, Repr

structure ListFilterEngine where
  sinkholeV4 : Ipv4Addr
  sinkholeV6 : Ipv6Addr
  runtimes : List ListRuntime
  lists : ListMap
  snapshot : FilterSnapshot

/-! ## Building -/

/-- `DEFAULT_LIST_INTERVAL_SECS`. -/
def defaultListIntervalSecs : Nat := 12 * 60 * 60

/-- The cache key of a list: its name behind its kind. -/
def listKey (kind : ListKind) (name : String) : String :=
  match kind with
  | .block => "block:" ++ name
  | .allow => "allow:" ++ name

/-- The refresh interval of a list. -/
def listInterval (list : NamedList) : Except String Nat :=
  match list.interval with
  | some value =>
      (parseInterval value).mapError fun _ =>
        "invalid interval for list '" ++ list.name ++ "': '" ++ value ++ "'"
  | none => .ok defaultListIntervalSecs

/-- The body of the `map` in `build_runtimes`. -/
def buildRuntime (kind : ListKind) (list : NamedList) : Except String ListRuntime := do
  let interval ← listInterval list
  let format ← (ListFormat.fromOption list.listType).mapError fun e =>
    "invalid list_type for list '" ++ list.name ++ "': " ++ e
  return {
    key := listKey kind list.name
    name := list.name
    url := list.url
    interval := interval
    kind := kind
    format := format
    runtimeDisabled := false }

/-- `build_runtimes`: lists that the configuration disables get no runtime. -/
def buildRuntimes (lists : List NamedList) (kind : ListKind) : Except String (List ListRuntime) :=
  (lists.filter (·.enabled.getD true)).mapM (buildRuntime kind)

/-- `parse_sinkhole_addrs`. -/
def parseSinkholeAddrs (config : DnsFilterConfig) : Except String (Ipv4Addr × Ipv6Addr) := do
  let text4 := (config.filtering.bind (·.sinkholeIpv4)).getD "0.0.0.0"
  let text6 := (config.filtering.bind (·.sinkholeIpv6)).getD "::"
  let v4 ← (parseIpv4Addr text4).elim (.error "invalid filtering.sinkhole_ipv4") .ok
  let v6 ← (parseIpv6Addr text6).elim (.error "invalid filtering.sinkhole_ipv6") .ok
  return (v4, v6)

/-! ## The snapshot -/

/-- The keys of the lists that are disabled at run time. -/
def disabledKeys (runtimes : List ListRuntime) : Finset String :=
  ((runtimes.filter (·.runtimeDisabled)).map (·.key)).toFinset

/-- The body of the loop in `rebuild_snapshot`. Inline exceptions of any list override
blocking. -/
def FilterSnapshot.addList (disabled : Finset String) (snapshot : FilterSnapshot)
    (entry : Σ _ : String, ListDomains) : FilterSnapshot :=
  if entry.1 ∈ disabled then snapshot
  else match entry.2.kind with
    | .block =>
        { blocked := snapshot.blocked ∪ entry.2.domains
          allowed := snapshot.allowed ∪ entry.2.exceptions }
    | .allow =>
        { blocked := snapshot.blocked
          allowed := snapshot.allowed ∪ entry.2.domains ∪ entry.2.exceptions }

/-- What `rebuild_snapshot` computes from the flags and the lists. -/
def computeSnapshot (runtimes : List ListRuntime) (lists : ListMap) : FilterSnapshot :=
  lists.entries.foldl (FilterSnapshot.addList (disabledKeys runtimes)) {}

namespace ListFilterEngine

/-- `rebuild_snapshot`. -/
def rebuildSnapshot (engine : ListFilterEngine) : ListFilterEngine :=
  { engine with snapshot := computeSnapshot engine.runtimes engine.lists }

/-! ## Loading lists -/

section Loading

variable (nameFromAscii : String → Bool)

/-- The content a fetched document gives a list. -/
def loadedContent (runtime : ListRuntime) (content : String) : ListDomains :=
  let parsed := parseListContent nameFromAscii content runtime.format
  { kind := runtime.kind, domains := parsed.blocks, exceptions := parsed.exceptions }

/-- `refresh_single_list`, given what fetching the list's source returned. -/
def refreshSingleList (engine : ListFilterEngine) (runtime : ListRuntime)
    (fetched : Except String String) : ListFilterEngine :=
  match fetched with
  | .ok content =>
      { engine with
        lists := engine.lists.insert runtime.key (loadedContent nameFromAscii runtime content) }
        |>.rebuildSnapshot
  | .error _ => engine

/-- The names of a set in sorted order. -/
def sortedNames (names : Finset String) : List String := names.sort (· ≤ ·)

/-- `persist_list_document`: the row a successful refresh stores, its sets in sorted order. -/
def persistListDocument (toJson : CachedListDocument → String) (runtime : ListRuntime)
    (content : ListDomains) : FilterCacheDocumentRecord where
  key := runtime.key
  value := toJson {
    kind := runtime.kind
    domains := sortedNames content.domains
    exceptions := sortedNames content.exceptions }

end Loading

/-- The content a cached document gives a list; a document that does not parse or is of the
other kind is ignored. -/
def restoredContent (fromJson : String → Option CachedListDocument)
    (load : String → Except String (Option FilterCacheDocumentRecord)) (runtime : ListRuntime) :
    Option ListDomains :=
  match load runtime.key with
  | .ok (some record) =>
      match fromJson record.value with
      | some document =>
          if runtime.kind = document.kind then
            some {
              kind := runtime.kind
              domains := document.domains.toFinset
              exceptions := document.exceptions.toFinset }
          else none
      | none => none
  | _ => none

/-- The loop of `try_restore_document_cache`: the map with what the cache holds, and how many
lists were restored. -/
def restoreLists (fromJson : String → Option CachedListDocument)
    (load : String → Except String (Option FilterCacheDocumentRecord)) :
    List ListRuntime → ListMap × Nat → ListMap × Nat
  | [], acc => acc
  | runtime :: rest, (lists, restored) =>
      match restoredContent fromJson load runtime with
      | some content =>
          restoreLists fromJson load rest (lists.insert runtime.key content, restored + 1)
      | none => restoreLists fromJson load rest (lists, restored)

/-- `try_restore_document_cache`. -/
def tryRestoreDocumentCache (fromJson : String → Option CachedListDocument)
    (load : String → Except String (Option FilterCacheDocumentRecord))
    (engine : ListFilterEngine) : ListFilterEngine :=
  let (lists, restored) := restoreLists fromJson load engine.runtimes (engine.lists, 0)
  if 0 < restored then { engine with lists := lists }.rebuildSnapshot else engine

/-- `from_config_with_cache`. -/
def fromConfigWithCache (fromJson : String → Option CachedListDocument) (config : DnsFilterConfig)
    (cacheRepo : Option (String → Except String (Option FilterCacheDocumentRecord))) :
    Except String ListFilterEngine := do
  let (v4, v6) ← parseSinkholeAddrs config
  let blocks ← buildRuntimes config.blocklists .block
  let allows ← buildRuntimes config.allowlists .allow
  let engine : ListFilterEngine :=
    { sinkholeV4 := v4, sinkholeV6 := v6, runtimes := blocks ++ allows, lists := ∅, snapshot := {} }
  return match cacheRepo with
    | some load => engine.tryRestoreDocumentCache fromJson load
    | none => engine

/-! ## Decisions -/

/-- `decide`. -/
def decideDomain (engine : ListFilterEngine) (domain : String) : FilterDecision :=
  let normalized := normalizeDomain domain
  if normalized = "" then .neutral
  else if matchesAny engine.snapshot.allowed normalized then .allow
  else if matchesAny engine.snapshot.blocked normalized then .block
  else .neutral

/-- Does this list's loaded content block the domain? -/
def listMatches (engine : ListFilterEngine) (normalized : String) (runtime : ListRuntime) : Bool :=
  match engine.lists.lookup runtime.key with
  | some content => matchesAny content.domains normalized
  | none => false

/-- `blocked_by`: the names of the lists that block the domain, in configuration order. -/
def blockedBy (engine : ListFilterEngine) (domain : String) : List String :=
  let normalized := normalizeDomain domain
  if normalized = "" then []
  else
    (engine.runtimes.filter fun runtime =>
      runtime.kind = .block && !decide (runtime.key ∈ disabledKeys engine.runtimes) &&
        engine.listMatches normalized runtime).map (·.name)

/-- `list_names`. -/
def listNames (engine : ListFilterEngine) : List ListInfo :=
  engine.runtimes.map fun runtime =>
    let content := engine.lists.lookup runtime.key
    { name := runtime.name
      url := runtime.url
      kind := match runtime.kind with
        | .block => "blocklist"
        | .allow => "allowlist"
      listType := runtime.format.asStr
      enabled := !runtime.runtimeDisabled
      intervalSecs := runtime.interval
      domainCount := (content.map (·.domains.card)).getD 0
      exceptionCount := (content.map (·.exceptions.card)).getD 0 }

/-! ## Switching lists -/

/-- Set the flag of the first list with the given name; `none` if there is no such list. -/
def setRuntimeDisabled (name : String) (flag : Bool) :
    List ListRuntime → Option (List ListRuntime)
  | [] => none
  | runtime :: rest =>
      if runtime.name = name then some ({ runtime with runtimeDisabled := flag } :: rest)
      else (setRuntimeDisabled name flag rest).map (runtime :: ·)

/-- The common body of `disable_list` and `enable_list`. -/
def switchList (name : String) (flag : Bool) (engine : ListFilterEngine) :
    Bool × ListFilterEngine :=
  match setRuntimeDisabled name flag engine.runtimes with
  | some runtimes => (true, { engine with runtimes := runtimes }.rebuildSnapshot)
  | none => (false, engine)

/-- `disable_list`. -/
def disableList (name : String) : ListFilterEngine → Bool × ListFilterEngine :=
  switchList name true

/-- `enable_list`. -/
def enableList (name : String) : ListFilterEngine → Bool × ListFilterEngine :=
  switchList name false

/-- `start_background_refresh`: the period each spawned refresh task ticks with. -/
def backgroundRefreshPeriods (engine : ListFilterEngine) : List Nat :=
  engine.runtimes.map (·.interval)

end ListFilterEngine

end DnsFilter
