import DnsFilter.Filtering.EngineProof
import DnsFilter.Lib.Table

/-!
# The document cache

A refresh that succeeds writes the parsed list to the table `filter_cache_documents`
(`frameworks/database/filter_cache_repo.rs`); a new engine starts from the documents it finds there.
So the loaded lists exist twice, in memory and in the table, and are written by separate code.

* `FilterCache.load`, `FilterCache.store` — the table.
* `refresh` — `refresh_single_list` on an engine and its table.
* `Mirrors` — the engine holds what a restore from the table would give it. A new engine does, and
  every refresh keeps it.
* `restart_keeps_filter` — an engine built from the table after any run of refreshes answers as the
  one that made them.
-/

namespace DnsFilter

open Table ListFilterEngine

/-! ## The table -/

namespace FilterCache

/-- `SqlxFilterCacheRepository::load`. -/
def load (documents : List FilterCacheDocumentRecord) (key : String) :
    Except String (Option FilterCacheDocumentRecord) :=
  .ok (documents.find? fun document => document.key = key)

/-- `SqlxFilterCacheRepository::store`. -/
def store (record : FilterCacheDocumentRecord) (documents : List FilterCacheDocumentRecord) :
    List FilterCacheDocumentRecord :=
  upsertRow (·.key) record documents

theorem load_store (record : FilterCacheDocumentRecord)
    (documents : List FilterCacheDocumentRecord) (key : String) :
    load (store record documents) key =
      if key = record.key then .ok (some record) else load documents key := by
  rw [load, store, find?_upsertRow]
  split <;> rfl

end FilterCache

/-! ## Refreshes -/

/-- A call of `refresh_single_list`: the list, what its source returned, and whether the document
could be stored. -/
structure RefreshCall where
  runtime : ListRuntime
  fetched : Except String String
  stored : Bool

/-- An engine and the table it persists to. -/
structure CachedEngine where
  engine : ListFilterEngine
  documents : List FilterCacheDocumentRecord

section Refresh

variable (nameFromAscii : String → Bool) (toJson : CachedListDocument → String)

/-- The document that a fetched source gives. -/
def cachedDocument (runtime : ListRuntime) (content : String) : CachedListDocument where
  kind := runtime.kind
  domains := sortedNames (loadedContent nameFromAscii runtime content).domains
  exceptions := sortedNames (loadedContent nameFromAscii runtime content).exceptions

/-- The row that a fetched source gives. -/
def documentRecord (runtime : ListRuntime) (content : String) : FilterCacheDocumentRecord :=
  persistListDocument toJson runtime (loadedContent nameFromAscii runtime content)

/-- `refresh_single_list`: a document that cannot be stored is only reported. -/
def refresh (state : CachedEngine) (call : RefreshCall) : CachedEngine :=
  match call.fetched with
  | .ok content =>
      { engine := state.engine.refreshSingleList nameFromAscii call.runtime (.ok content)
        documents :=
          if call.stored then
            FilterCache.store (documentRecord nameFromAscii toJson call.runtime content)
              state.documents
          else state.documents }
  | .error _ => state

/-- Refreshes, one after the other. -/
def refreshes (calls : List RefreshCall) (state : CachedEngine) : CachedEngine :=
  calls.foldl (refresh nameFromAscii toJson) state

end Refresh

/-! ## Two copies of the lists -/

/-- The engine's lists are those that a restore from the documents would load, and its snapshot is
theirs. -/
structure Mirrors (fromJson : String → Option CachedListDocument) (state : CachedEngine) :
    Prop where
  keyed : ∀ rt ∈ state.engine.runtimes, rt.key = listKey rt.kind rt.name
  lists : ∀ rt ∈ state.engine.runtimes, state.engine.lists.lookup rt.key =
    restoredContent fromJson (FilterCache.load state.documents) rt
  owner : ∀ key, key ∉ state.engine.runtimes.map (·.key) → state.engine.lists.lookup key = none
  snapshot : state.engine.snapshot = computeSnapshot state.engine.runtimes state.engine.lists

variable {fromJson : String → Option CachedListDocument} {nameFromAscii : String → Bool}
variable {toJson : CachedListDocument → String} {state : CachedEngine}

theorem Mirrors.kind_eq (h : Mirrors fromJson state) {rt rt' : ListRuntime}
    (hrt : rt ∈ state.engine.runtimes) (hrt' : rt' ∈ state.engine.runtimes)
    (hkey : rt.key = rt'.key) : rt.kind = rt'.kind := by
  rw [h.keyed rt hrt, h.keyed rt' hrt'] at hkey
  exact (listKey_inj hkey).1

/-- What is restored from a document that was written for a list with this key. -/
theorem restoredContent_store {rt runtime : ListRuntime} {content : String}
    {documents : List FilterCacheDocumentRecord}
    (hjson : fromJson (toJson (cachedDocument nameFromAscii runtime content)) =
      some (cachedDocument nameFromAscii runtime content))
    (hkey : rt.key = runtime.key) (hkind : rt.kind = runtime.kind) :
    restoredContent fromJson (FilterCache.load (FilterCache.store
      (documentRecord nameFromAscii toJson runtime content) documents)) rt =
        some (loadedContent nameFromAscii runtime content) := by
  have hrecord : documentRecord nameFromAscii toJson runtime content =
      ⟨runtime.key, toJson (cachedDocument nameFromAscii runtime content)⟩ := rfl
  rw [restoredContent, FilterCache.load_store, hrecord, if_pos hkey]
  simp only
  rw [hjson]
  simp only
  have hsame : rt.kind = (cachedDocument nameFromAscii runtime content).kind := hkind
  rw [if_pos hsame, hkind]
  simp only [cachedDocument, sortedNames, Finset.sort_toFinset]
  rfl

/-- A document of another list changes nothing for this one. -/
theorem restoredContent_store_ne {rt : ListRuntime} {record : FilterCacheDocumentRecord}
    {documents : List FilterCacheDocumentRecord} (hkey : rt.key ≠ record.key) :
    restoredContent fromJson (FilterCache.load (FilterCache.store record documents)) rt =
      restoredContent fromJson (FilterCache.load documents) rt := by
  rw [restoredContent, restoredContent, FilterCache.load_store, if_neg hkey]

/-- **One refresh** keeps the two copies equal if it stores what it loads. -/
theorem mirrors_refresh (h : Mirrors fromJson state) {call : RefreshCall}
    (hruntime : call.runtime ∈ state.engine.runtimes) (hstored : call.stored = true)
    (hjson : ∀ content, call.fetched = .ok content →
      fromJson (toJson (cachedDocument nameFromAscii call.runtime content)) =
        some (cachedDocument nameFromAscii call.runtime content)) :
    Mirrors fromJson (refresh nameFromAscii toJson state call) ∧
      (refresh nameFromAscii toJson state call).engine.runtimes = state.engine.runtimes := by
  rw [refresh]
  split
  · rename_i content hfetched
    rw [if_pos hstored]
    refine ⟨?_, rfl⟩
    constructor
    · exact h.keyed
    · intro rt hrt
      by_cases hkey : rt.key = call.runtime.key
      · rw [restoredContent_store (hjson content hfetched) hkey (h.kind_eq hrt hruntime hkey)]
        simp only [refreshSingleList, rebuildSnapshot]
        rw [hkey, AList.lookup_insert]
      · rw [restoredContent_store_ne hkey]
        simp only [refreshSingleList, rebuildSnapshot]
        rw [AList.lookup_insert_ne hkey]
        exact h.lists rt hrt
    · intro key hkey
      have hne : key ≠ call.runtime.key := fun heq =>
        hkey (heq ▸ List.mem_map_of_mem hruntime)
      simp only [refreshSingleList, rebuildSnapshot]
      rw [AList.lookup_insert_ne hne]
      exact h.owner key hkey
    · rfl
  · exact ⟨h, rfl⟩

theorem mirrors_refreshes {calls : List RefreshCall} (h : Mirrors fromJson state)
    (hruntimes : ∀ call ∈ calls, call.runtime ∈ state.engine.runtimes)
    (hstored : ∀ call ∈ calls, call.stored = true)
    (hjson : ∀ call ∈ calls, ∀ content, call.fetched = .ok content →
      fromJson (toJson (cachedDocument nameFromAscii call.runtime content)) =
        some (cachedDocument nameFromAscii call.runtime content)) :
    Mirrors fromJson (refreshes nameFromAscii toJson calls state) ∧
      (refreshes nameFromAscii toJson calls state).engine.runtimes = state.engine.runtimes := by
  induction calls generalizing state with
  | nil => exact ⟨h, rfl⟩
  | cons call calls ih =>
      rw [List.forall_mem_cons] at hruntimes hstored hjson
      obtain ⟨hnext, heq⟩ := mirrors_refresh h hruntimes.1 hstored.1 hjson.1
      obtain ⟨hlast, hlastEq⟩ := ih hnext (by rw [heq]; exact hruntimes.2) hstored.2 hjson.2
      exact ⟨hlast, hlastEq.trans heq⟩

/-- **A new engine** holds what it has restored. -/
theorem mirrors_built {config : DnsFilterConfig} {engine : ListFilterEngine}
    {documents : List FilterCacheDocumentRecord}
    (h : fromConfigWithCache fromJson config (some (FilterCache.load documents)) = .ok engine) :
    Mirrors fromJson ⟨engine, documents⟩ := by
  obtain ⟨empty, hempty, rfl⟩ := exists_empty_of_built h
  obtain ⟨-, hrt, hlists, hsnapshot⟩ := fromConfigWithCache_none hempty
  have hkinds : ∀ rt ∈ empty.runtimes, ∀ rt' ∈ empty.runtimes, rt.key = rt'.key →
      rt.kind = rt'.kind := by
    intro rt hmem rt' hmem' hkey
    rw [(hrt rt hmem).1, (hrt rt' hmem').1] at hkey
    exact (listKey_inj hkey).1
  have howner : ∀ key, key ∉ empty.runtimes.map (·.key) → empty.lists.lookup key = none := by
    intro key _
    rw [hlists]
    rfl
  rw [Option.elim_some, tryRestoreDocumentCache]
  split
  rename_i lists restored heq
  split
  · constructor
    · intro rt hmem
      exact (hrt rt hmem).1
    · intro rt hmem
      have hlookup := @lookup_restoreLists fromJson (FilterCache.load documents) empty.runtimes
        (empty.lists, 0) hkinds rt hmem
      rw [heq, hlists] at hlookup
      exact hlookup.trans Option.or_none
    · intro key hkey
      have hlookup := @lookup_restoreLists_of_notMem fromJson (FilterCache.load documents) key
        empty.runtimes (empty.lists, 0) hkey
      rw [heq] at hlookup
      exact hlookup.trans (howner key hkey)
    · rfl
  · rename_i hzero
    have hcount : (restoreLists fromJson (FilterCache.load documents) empty.runtimes
        (empty.lists, 0)).2 = 0 := by
      rw [heq]
      exact Nat.eq_zero_of_not_pos hzero
    constructor
    · intro rt hmem
      exact (hrt rt hmem).1
    · intro rt hmem
      rw [(le_restoreLists_count empty.runtimes _).2 hcount rt hmem]
      rw [hlists]
      rfl
    · exact howner
    · rw [hsnapshot, hlists]
      rfl

/-! ## Restarts -/

/-- Engines with the same lists answer alike. -/
structure SameFilter (engine engine' : ListFilterEngine) : Prop where
  decisions : ∀ domain, engine.decideDomain domain = engine'.decideDomain domain
  blockedBy : ∀ domain, engine.blockedBy domain = engine'.blockedBy domain
  counts : engine.listNames = engine'.listNames

theorem Mirrors.sameFilter {state' : CachedEngine} (h : Mirrors fromJson state)
    (h' : Mirrors fromJson state') (hruntimes : state.engine.runtimes = state'.engine.runtimes)
    (hdocuments : state.documents = state'.documents) :
    SameFilter state.engine state'.engine := by
  have hlookup : ∀ key, state.engine.lists.lookup key = state'.engine.lists.lookup key := by
    intro key
    by_cases hkey : key ∈ state.engine.runtimes.map (·.key)
    · obtain ⟨rt, hrt, rfl⟩ := List.mem_map.1 hkey
      rw [h.lists rt hrt, h'.lists rt (hruntimes ▸ hrt), hdocuments]
    · rw [h.owner key hkey, h'.owner key (hruntimes ▸ hkey)]
  have hsnapshot : state.engine.snapshot = state'.engine.snapshot := by
    rw [h.snapshot, h'.snapshot, hruntimes]
    exact computeSnapshot_congr fun key _ => hlookup key
  constructor
  · intro domain
    rw [decideDomain, decideDomain, hsnapshot]
  · intro domain
    simp only [ListFilterEngine.blockedBy, listMatches, hlookup, hruntimes]
  · simp only [ListFilterEngine.listNames, hlookup, hruntimes]

/-- **A restart changes nothing.** After any run of refreshes whose documents are all stored, an
engine built from the same configuration and the documents answers as the one in memory: same
decisions, same blocking lists, same counts. -/
theorem restart_keeps_filter {config : DnsFilterConfig} {engine : ListFilterEngine}
    {documents : List FilterCacheDocumentRecord} {calls : List RefreshCall}
    (hbuilt : fromConfigWithCache fromJson config (some (FilterCache.load documents)) =
      .ok engine)
    (hruntimes : ∀ call ∈ calls, call.runtime ∈ engine.runtimes)
    (hstored : ∀ call ∈ calls, call.stored = true)
    (hjson : ∀ call ∈ calls, ∀ content, call.fetched = .ok content →
      fromJson (toJson (cachedDocument nameFromAscii call.runtime content)) =
        some (cachedDocument nameFromAscii call.runtime content)) :
    let after := refreshes nameFromAscii toJson calls ⟨engine, documents⟩
    ∃ restarted, fromConfigWithCache fromJson config (some (FilterCache.load after.documents)) =
        .ok restarted ∧ SameFilter restarted after.engine := by
  intro after
  obtain ⟨hafter, heq⟩ := mirrors_refreshes (mirrors_built hbuilt) hruntimes hstored hjson
  obtain ⟨empty, hempty, hengine⟩ := exists_empty_of_built hbuilt
  have hrestarted : fromConfigWithCache fromJson config (some (FilterCache.load after.documents)) =
      .ok (empty.tryRestoreDocumentCache fromJson (FilterCache.load after.documents)) := by
    rw [fromConfigWithCache_some, hempty]
    rfl
  refine ⟨_, hrestarted, (mirrors_built hrestarted).sameFilter hafter ?_ rfl⟩
  rw [tryRestoreDocumentCache_runtimes, heq, hengine, Option.elim_some,
    tryRestoreDocumentCache_runtimes]

/-! One list is refreshed, the other cannot be fetched. -/

/-- What `serde_json` writes, for entries without characters to escape. -/
def documentText (document : CachedListDocument) : String :=
  let array := fun entries : List String =>
    "[" ++ ",".intercalate (entries.map fun entry => "\"" ++ entry ++ "\"") ++ "]"
  let kind := match document.kind with
    | .block => "block"
    | .allow => "allow"
  "\x7b\"kind\":\"" ++ kind ++ "\",\"domains\":" ++ array document.domains ++
    ",\"exceptions\":" ++ array document.exceptions ++ "\x7d"

def adsDocument : CachedListDocument where
  kind := .block
  domains := ["ads.example"]
  exceptions := []

/-- A reader that knows one document. -/
def readAdsDocument (text : String) : Option CachedListDocument :=
  if text = documentText adsDocument then some adsDocument else none

def adsRuntime : ListRuntime where
  key := "block:ads"
  name := "ads"
  url := "https://lists.example/ads"
  interval := defaultListIntervalSecs
  kind := .block
  format := .adguard
  runtimeDisabled := false

theorem restart_keeps_filter_ads :
    ∃ engine restarted,
      fromConfigWithCache readAdsDocument twoListConfig (some (FilterCache.load [])) =
          .ok engine ∧
        let after := refreshes (fun _ => true) documentText
          [⟨adsRuntime, .ok "||ads.example^", true⟩, ⟨adsRuntime, .error "timeout", true⟩]
          ⟨engine, []⟩
        fromConfigWithCache readAdsDocument twoListConfig
              (some (FilterCache.load after.documents)) = .ok restarted ∧
          SameFilter restarted after.engine ∧
          restarted.decideDomain "ads.example" = .block := by
  let calls : List RefreshCall :=
    [⟨adsRuntime, .ok "||ads.example^", true⟩, ⟨adsRuntime, .error "timeout", true⟩]
  have hany : (fromConfigWithCache readAdsDocument twoListConfig
      (some (FilterCache.load []))).toOption.any (fun engine =>
        adsRuntime ∈ engine.runtimes ∧
          (refreshes (fun _ => true) documentText calls ⟨engine, []⟩).engine.decideDomain
            "ads.example" = .block) = true := by decide +kernel
  obtain ⟨engine, hbuilt, htest⟩ := exists_ok_of_any hany
  obtain ⟨hmem, hblock⟩ := of_decide_eq_true htest
  have hdocument : cachedDocument (fun _ => true) adsRuntime "||ads.example^" = adsDocument := by
    have hdomains : (loadedContent (fun _ => true) adsRuntime "||ads.example^").domains =
        {"ads.example"} := by decide +kernel
    have hexceptions : (loadedContent (fun _ => true) adsRuntime "||ads.example^").exceptions =
        ∅ := by decide +kernel
    rw [cachedDocument, hdomains, hexceptions, sortedNames, sortedNames, Finset.sort_singleton,
      Finset.sort_empty]
    rfl
  obtain ⟨restarted, hrestarted, hsame⟩ := @restart_keeps_filter readAdsDocument (fun _ => true)
    documentText twoListConfig engine [] calls hbuilt (by simp [calls, hmem]) (by simp [calls])
    (by simp [calls, hdocument, readAdsDocument])
  exact ⟨engine, restarted, hbuilt, hrestarted, hsame, (hsame.decisions _).trans hblock⟩

end DnsFilter
