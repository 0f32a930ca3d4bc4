import DnsFilter.Filtering.Engine
import DnsFilter.Lib.Result

/-!
# The filter engine: correctness

The engine keeps three pieces of state that say the same thing in different ways: the flags on
the runtimes, the loaded content of each list, and the merged snapshot. This file relates all
three to the *history* of operations, and reads decisions off the history.

* `lastLoaded`, `isDisabled` — what a history says about one list: the content it loaded last
  and whether it is switched off.
* `Sim` — the engine's state says what the history says. Every operation keeps it
  (`sim_apply`), so every run does (`sim_runOps`).
* `decideDomain_eq_spec`, `blockedBy_eq_spec` — under `Sim` the two read paths, written
  separately in the source, follow one specification.
-/

namespace DnsFilter

open Text ListFilterEngine

/-! ## What a rebuild computes -/

/-- The domains a list's content adds to the blocked set. -/
def ListDomains.blocks (content : ListDomains) : Finset String :=
  match content.kind with
  | .block => content.domains
  | .allow => ∅

/-- The domains a list's content adds to the allowed set. -/
def ListDomains.allows (content : ListDomains) : Finset String :=
  match content.kind with
  | .block => content.exceptions
  | .allow => content.domains ∪ content.exceptions

theorem FilterSnapshot.addList_of_notMem {disabled : Finset String} {snapshot : FilterSnapshot}
    {entry : Σ _ : String, ListDomains} (h : entry.1 ∉ disabled) :
    snapshot.addList disabled entry =
      ⟨snapshot.blocked ∪ entry.2.blocks, snapshot.allowed ∪ entry.2.allows⟩ := by
  rw [FilterSnapshot.addList, if_neg h]
  cases hk : entry.2.kind <;> simp [ListDomains.blocks, ListDomains.allows, hk]

theorem mem_foldl_addList {disabled : Finset String} {x : String} :
    ∀ (entries : List (Σ _ : String, ListDomains)) (snapshot : FilterSnapshot),
      (x ∈ (entries.foldl (FilterSnapshot.addList disabled) snapshot).blocked ↔
        x ∈ snapshot.blocked ∨ ∃ entry ∈ entries, entry.1 ∉ disabled ∧ x ∈ entry.2.blocks) ∧
      (x ∈ (entries.foldl (FilterSnapshot.addList disabled) snapshot).allowed ↔
        x ∈ snapshot.allowed ∨ ∃ entry ∈ entries, entry.1 ∉ disabled ∧ x ∈ entry.2.allows) := by
  intro entries
  induction entries with
  | nil => intro snapshot; simp
  | cons entry entries ih =>
      intro snapshot
      rw [List.foldl_cons, (ih _).1, (ih _).2]
      by_cases h : entry.1 ∈ disabled
      · simp [FilterSnapshot.addList, h]
      · rw [FilterSnapshot.addList_of_notMem h]
        simp [h, or_assoc]

/-- The blocked set is the union of what the lists that are not disabled block. -/
theorem mem_computeSnapshot_blocked {runtimes : List ListRuntime} {lists : ListMap} {x : String} :
    x ∈ (computeSnapshot runtimes lists).blocked ↔
      ∃ key content, lists.lookup key = some content ∧ key ∉ disabledKeys runtimes ∧
        x ∈ content.blocks := by
  rw [computeSnapshot, (mem_foldl_addList lists.entries {}).1]
  constructor
  · rintro (h | ⟨⟨key, content⟩, hmem, hdis, hx⟩)
    · simp at h
    · exact ⟨key, content, AList.mem_lookup_iff.2 hmem, hdis, hx⟩
  · rintro ⟨key, content, hl, hdis, hx⟩
    exact .inr ⟨⟨key, content⟩, AList.mem_lookup_iff.1 hl, hdis, hx⟩

/-- The allowed set is the union of what the lists that are not disabled allow. -/
theorem mem_computeSnapshot_allowed {runtimes : List ListRuntime} {lists : ListMap} {x : String} :
    x ∈ (computeSnapshot runtimes lists).allowed ↔
      ∃ key content, lists.lookup key = some content ∧ key ∉ disabledKeys runtimes ∧
        x ∈ content.allows := by
  rw [computeSnapshot, (mem_foldl_addList lists.entries {}).2]
  constructor
  · rintro (h | ⟨⟨key, content⟩, hmem, hdis, hx⟩)
    · simp at h
    · exact ⟨key, content, AList.mem_lookup_iff.2 hmem, hdis, hx⟩
  · rintro ⟨key, content, hl, hdis, hx⟩
    exact .inr ⟨⟨key, content⟩, AList.mem_lookup_iff.1 hl, hdis, hx⟩

/-- The snapshot depends only on what the enabled lists hold. -/
theorem computeSnapshot_congr {runtimes : List ListRuntime} {lists lists' : ListMap}
    (h : ∀ key ∉ disabledKeys runtimes, lists.lookup key = lists'.lookup key) :
    computeSnapshot runtimes lists = computeSnapshot runtimes lists' := by
  have hcontent : ∀ (part : ListDomains → Finset String) (x : String),
      (∃ key content, lists.lookup key = some content ∧ key ∉ disabledKeys runtimes ∧
          x ∈ part content) ↔
        ∃ key content, lists'.lookup key = some content ∧ key ∉ disabledKeys runtimes ∧
          x ∈ part content := by
    intro part x
    refine exists_congr fun key => exists_congr fun content => ?_
    by_cases hkey : key ∈ disabledKeys runtimes
    · simp [hkey]
    · rw [h key hkey]
  have hext : ∀ s t : FilterSnapshot, s.blocked = t.blocked → s.allowed = t.allowed → s = t := by
    intro ⟨_, _⟩ ⟨_, _⟩ hblocked hallowed
    exact congrArg₂ FilterSnapshot.mk hblocked hallowed
  apply hext
  · ext x
    rw [mem_computeSnapshot_blocked, mem_computeSnapshot_blocked, hcontent]
  · ext x
    rw [mem_computeSnapshot_allowed, mem_computeSnapshot_allowed, hcontent]

/-! ## Names and keys -/

theorem listKey_inj {k k' : ListKind} {n n' : String} (h : listKey k n = listKey k' n') :
    k = k' ∧ n = n' := by
  have hchars := congrArg String.toList h
  cases k <;> cases k' <;> simp only [listKey, String.toList_append] at hchars
  · exact ⟨rfl, String.toList_inj.1 (List.append_cancel_left hchars)⟩
  · exact absurd hchars (by simp)
  · exact absurd hchars (by simp)
  · exact ⟨rfl, String.toList_inj.1 (List.append_cancel_left hchars)⟩

/-- Lists as the configuration gives them: distinct names, the key made from kind and name. -/
structure WellNamed (rts : List ListRuntime) : Prop where
  nodup : (rts.map (·.name)).Nodup
  key : ∀ rt ∈ rts, rt.key = listKey rt.kind rt.name

namespace WellNamed

variable {rts : List ListRuntime}

theorem eq_of_name (h : WellNamed rts) {rt rt' : ListRuntime} (hrt : rt ∈ rts) (hrt' : rt' ∈ rts)
    (hn : rt.name = rt'.name) : rt = rt' :=
  List.inj_on_of_nodup_map h.nodup hrt hrt' hn

theorem eq_of_key (h : WellNamed rts) {rt rt' : ListRuntime} (hrt : rt ∈ rts) (hrt' : rt' ∈ rts)
    (hk : rt.key = rt'.key) : rt = rt' := by
  refine h.eq_of_name hrt hrt' ?_
  rw [h.key rt hrt, h.key rt' hrt'] at hk
  exact (listKey_inj hk).2

end WellNamed

/-! ## Histories -/

section History

variable (nameFromAscii : String → Bool) (fromJson : String → Option CachedListDocument)

/-- A completed operation on the engine. -/
inductive EngineOp
  | refresh (name : String) (fetched : Except String String)
  | restore (load : String → Except String (Option FilterCacheDocumentRecord))
  | enable (name : String)
  | disable (name : String)

/-- What an operation does to the engine. -/
def EngineOp.apply (engine : ListFilterEngine) : EngineOp → ListFilterEngine
  | .refresh name fetched =>
      match engine.runtimes.find? (·.name = name) with
      | some runtime => engine.refreshSingleList nameFromAscii runtime fetched
      | none => engine
  | .restore load => engine.tryRestoreDocumentCache fromJson load
  | .enable name => (engine.enableList name).2
  | .disable name => (engine.disableList name).2

/-- The engine after a sequence of completed operations. -/
def runOps (ops : List EngineOp) (engine : ListFilterEngine) : ListFilterEngine :=
  ops.foldl (EngineOp.apply nameFromAscii fromJson) engine

/-- The content an operation loads into a list, if it loads any. -/
def EngineOp.loads (rt : ListRuntime) : EngineOp → Option ListDomains
  | .refresh name (.ok content) =>
      if name = rt.name then some (loadedContent nameFromAscii rt content) else none
  | .refresh _ (.error _) => none
  | .restore load => restoredContent fromJson load rt
  | .enable _ => none
  | .disable _ => none

/-- The flag an operation sets on a list, if it sets it. -/
def EngineOp.switches (rt : ListRuntime) : EngineOp → Option Bool
  | .enable name => if name = rt.name then some false else none
  | .disable name => if name = rt.name then some true else none
  | .refresh _ _ => none
  | .restore _ => none

/-- Does an operation concern this list? -/
def EngineOp.concerns (rt : ListRuntime) : EngineOp → Bool
  | .refresh name _ => name = rt.name
  | .restore _ => true
  | .enable name => name = rt.name
  | .disable name => name = rt.name

/-- The content a list loaded last. -/
def lastLoaded (rt : ListRuntime) (ops : List EngineOp) : Option ListDomains :=
  ops.foldl (fun acc op => (op.loads nameFromAscii fromJson rt).or acc) none

/-- Whether a list is switched off. -/
def isDisabled (rt : ListRuntime) (ops : List EngineOp) : Bool :=
  ops.foldl (fun acc op => (op.switches rt).getD acc) false

@[simp] theorem lastLoaded_concat (rt : ListRuntime) (ops : List EngineOp) (op : EngineOp) :
    lastLoaded nameFromAscii fromJson rt (ops ++ [op]) =
      (op.loads nameFromAscii fromJson rt).or (lastLoaded nameFromAscii fromJson rt ops) := by
  simp [lastLoaded]

@[simp] theorem isDisabled_concat (rt : ListRuntime) (ops : List EngineOp) (op : EngineOp) :
    isDisabled rt (ops ++ [op]) = (op.switches rt).getD (isDisabled rt ops) := by
  simp [isDisabled]

theorem EngineOp.loads_kind {rt : ListRuntime} {op : EngineOp} {content : ListDomains}
    (h : op.loads nameFromAscii fromJson rt = some content) : content.kind = rt.kind := by
  cases op with
  | refresh name fetched =>
      cases fetched with
      | error e => simp [EngineOp.loads] at h
      | ok text =>
          simp only [EngineOp.loads] at h
          split at h
          · cases h; rfl
          · exact absurd h (by simp)
  | restore load =>
      simp only [EngineOp.loads, restoredContent] at h
      split at h
      · split at h
        · split at h
          · cases h; rfl
          · exact absurd h (by simp)
        · exact absurd h (by simp)
      · exact absurd h (by simp)
  | enable name => simp [EngineOp.loads] at h
  | disable name => simp [EngineOp.loads] at h

/-- What a list loaded is of the list's kind. -/
theorem lastLoaded_kind {rt : ListRuntime} {ops : List EngineOp} {content : ListDomains}
    (h : lastLoaded nameFromAscii fromJson rt ops = some content) : content.kind = rt.kind := by
  induction ops using List.reverseRecOn with
  | nil => simp [lastLoaded] at h
  | append_singleton ops op ih =>
      rw [lastLoaded_concat, Option.or_eq_some_iff] at h
      rcases h with h | ⟨-, h⟩
      · exact EngineOp.loads_kind nameFromAscii fromJson h
      · exact ih h

theorem EngineOp.loads_eq_none_of_not_concerns {rt : ListRuntime} {op : EngineOp}
    (h : op.concerns rt = false) : op.loads nameFromAscii fromJson rt = none := by
  cases op with
  | refresh name fetched =>
      have hne : name ≠ rt.name := by simpa [EngineOp.concerns] using h
      cases fetched <;> simp [EngineOp.loads, hne]
  | restore load => simp [EngineOp.concerns] at h
  | enable name => rfl
  | disable name => rfl

theorem EngineOp.switches_eq_none_of_not_concerns {rt : ListRuntime} {op : EngineOp}
    (h : op.concerns rt = false) : op.switches rt = none := by
  cases op with
  | refresh name fetched => rfl
  | restore load => rfl
  | enable name => simpa [EngineOp.switches, EngineOp.concerns] using h
  | disable name => simpa [EngineOp.switches, EngineOp.concerns] using h

/-- Only the operations that concern a list decide what it loaded last and whether it is off. -/
theorem lastLoaded_filter (rt : ListRuntime) (ops : List EngineOp) :
    lastLoaded nameFromAscii fromJson rt (ops.filter (·.concerns rt)) =
        lastLoaded nameFromAscii fromJson rt ops ∧
      isDisabled rt (ops.filter (·.concerns rt)) = isDisabled rt ops := by
  induction ops using List.reverseRecOn with
  | nil => exact ⟨rfl, rfl⟩
  | append_singleton ops op ih =>
      rw [List.filter_append, lastLoaded_concat, isDisabled_concat]
      cases hc : op.concerns rt with
      | true =>
          have hsingle : [op].filter (·.concerns rt) = [op] := by simp [hc]
          rw [hsingle, lastLoaded_concat, isDisabled_concat, ih.1, ih.2]
          exact ⟨rfl, rfl⟩
      | false =>
          have hnil : [op].filter (·.concerns rt) = [] := by simp [hc]
          rw [hnil, List.append_nil, ih.1, ih.2,
            EngineOp.loads_eq_none_of_not_concerns nameFromAscii fromJson hc,
            EngineOp.switches_eq_none_of_not_concerns hc]
          exact ⟨rfl, rfl⟩

/-! ## The engine follows the history -/

/-- A configured list with the flag a history gives it. -/
def flagged (ops : List EngineOp) (rt : ListRuntime) : ListRuntime :=
  { rt with runtimeDisabled := isDisabled rt ops }

@[simp] theorem flagged_name (ops : List EngineOp) (rt : ListRuntime) :
    (flagged ops rt).name = rt.name := rfl

@[simp] theorem flagged_key (ops : List EngineOp) (rt : ListRuntime) :
    (flagged ops rt).key = rt.key := rfl

@[simp] theorem flagged_kind (ops : List EngineOp) (rt : ListRuntime) :
    (flagged ops rt).kind = rt.kind := rfl

@[simp] theorem flagged_runtimeDisabled (ops : List EngineOp) (rt : ListRuntime) :
    (flagged ops rt).runtimeDisabled = isDisabled rt ops := rfl

/-- The engine's state says what the history says: flags and content are those of the history,
no content is stray, and the snapshot is the one a rebuild would compute. -/
structure Sim (rts : List ListRuntime) (ops : List EngineOp) (engine : ListFilterEngine) :
    Prop where
  runtimes : engine.runtimes = rts.map (flagged ops)
  lookup : ∀ rt ∈ rts, engine.lists.lookup rt.key = lastLoaded nameFromAscii fromJson rt ops
  owner : ∀ key content, engine.lists.lookup key = some content → ∃ rt ∈ rts, rt.key = key
  snapshot : engine.snapshot = computeSnapshot engine.runtimes engine.lists

variable {nameFromAscii fromJson}
variable {rts : List ListRuntime} {ops : List EngineOp} {engine : ListFilterEngine}

/-- An operation without effect on any list may be added to the history. -/
theorem Sim.concat_of_noEffect (h : Sim nameFromAscii fromJson rts ops engine) {op : EngineOp}
    (hloads : ∀ rt ∈ rts, op.loads nameFromAscii fromJson rt = none)
    (hswitches : ∀ rt ∈ rts, op.switches rt = none) :
    Sim nameFromAscii fromJson rts (ops ++ [op]) engine where
  runtimes := by
    rw [h.runtimes]
    refine List.map_congr_left fun rt hrt => ?_
    rw [flagged, flagged, isDisabled_concat, hswitches rt hrt, Option.getD_none]
  lookup rt hrt := by rw [h.lookup rt hrt, lastLoaded_concat, hloads rt hrt, Option.none_or]
  owner := h.owner
  snapshot := h.snapshot

/-- An operation that only loads content: the new content map must hold what was loaded. -/
theorem Sim.concat_of_loads (h : Sim nameFromAscii fromJson rts ops engine) {op : EngineOp}
    {lists : ListMap} (hswitches : ∀ rt ∈ rts, op.switches rt = none)
    (hlookup : ∀ rt ∈ rts, lists.lookup rt.key =
      (op.loads nameFromAscii fromJson rt).or (engine.lists.lookup rt.key))
    (howner : ∀ key content, lists.lookup key = some content → ∃ rt ∈ rts, rt.key = key) :
    Sim nameFromAscii fromJson rts (ops ++ [op])
      (ListFilterEngine.rebuildSnapshot { engine with lists := lists }) where
  runtimes := by
    rw [rebuildSnapshot, h.runtimes]
    refine List.map_congr_left fun rt hrt => ?_
    rw [flagged, flagged, isDisabled_concat, hswitches rt hrt, Option.getD_none]
  lookup rt hrt := by rw [rebuildSnapshot, hlookup rt hrt, lastLoaded_concat, h.lookup rt hrt]
  owner := howner
  snapshot := rfl

theorem find?_runtimes (h : Sim nameFromAscii fromJson rts ops engine) (name : String) :
    engine.runtimes.find? (·.name = name) =
      (rts.find? (·.name = name)).map (flagged ops) := by
  rw [h.runtimes, List.find?_map]
  rfl

theorem sim_refresh (hwn : WellNamed rts) (h : Sim nameFromAscii fromJson rts ops engine)
    (name : String) (fetched : Except String String) :
    Sim nameFromAscii fromJson rts (ops ++ [EngineOp.refresh name fetched])
      ((EngineOp.refresh name fetched).apply nameFromAscii fromJson engine) := by
  rw [EngineOp.apply, find?_runtimes h]
  cases hfind : rts.find? (·.name = name) with
  | none =>
      refine h.concat_of_noEffect (fun rt hrt => ?_) fun _ _ => rfl
      have hne : rt.name ≠ name := by simpa using List.find?_eq_none.1 hfind rt hrt
      exact EngineOp.loads_eq_none_of_not_concerns _ _ (by simp [EngineOp.concerns, hne.symm])
  | some rt =>
      have hmem : rt ∈ rts := List.mem_of_find?_eq_some hfind
      have hname : rt.name = name := by simpa using List.find?_some hfind
      cases fetched with
      | error e => exact h.concat_of_noEffect (fun _ _ => rfl) fun _ _ => rfl
      | ok text =>
          refine h.concat_of_loads (fun _ _ => rfl) (fun rt' hrt' => ?_) fun key content hl => ?_
          · by_cases hrt : rt' = rt
            · subst hrt
              simp [EngineOp.loads, hname, loadedContent, flagged]
            · have hkey : rt'.key ≠ rt.key := fun hk => hrt (hwn.eq_of_key hrt' hmem hk)
              have hne : name ≠ rt'.name := fun hn =>
                hrt (hwn.eq_of_name hrt' hmem (hn ▸ hname.symm))
              rw [flagged_key, AList.lookup_insert_ne hkey]
              simp [EngineOp.loads, hne]
          · by_cases hk : key = rt.key
            · exact ⟨rt, hmem, hk.symm⟩
            · rw [flagged_key, AList.lookup_insert_ne hk] at hl
              exact h.owner key content hl

/-! ### Restoring from the document cache -/

variable {load : String → Except String (Option FilterCacheDocumentRecord)}

/-- What the cache gives a list depends on its key and its kind only. -/
theorem restoredContent_congr {rt rt' : ListRuntime} (hkey : rt.key = rt'.key)
    (hkind : rt.kind = rt'.kind) :
    restoredContent fromJson load rt = restoredContent fromJson load rt' := by
  rw [restoredContent, restoredContent, hkey, hkind]

theorem lookup_restoreLists_of_notMem {key : String} :
    ∀ (rts : List ListRuntime) (acc : ListMap × Nat), key ∉ rts.map (·.key) →
        (restoreLists fromJson load rts acc).1.lookup key = acc.1.lookup key := by
  intro rts
  induction rts with
  | nil => intro acc _; rfl
  | cons rt rts ih =>
      intro acc hkey
      rw [List.map_cons, List.mem_cons, not_or] at hkey
      rw [restoreLists]
      split
      · rw [ih _ hkey.2, AList.lookup_insert_ne hkey.1]
      · exact ih _ hkey.2

/-- A list has what the cache gives it, else what it had; lists with one key are given the same. -/
theorem lookup_restoreLists :
    ∀ (rts : List ListRuntime) (acc : ListMap × Nat),
      (∀ rt ∈ rts, ∀ rt' ∈ rts, rt.key = rt'.key → rt.kind = rt'.kind) → ∀ rt ∈ rts,
      (restoreLists fromJson load rts acc).1.lookup rt.key =
        (restoredContent fromJson load rt).or (acc.1.lookup rt.key) := by
  intro rts
  induction rts with
  | nil => intro acc _ rt hrt; exact absurd hrt (by simp)
  | cons rt₀ rts ih =>
      intro acc hkinds rt hrt
      have hkinds' : ∀ rt ∈ rts, ∀ rt' ∈ rts, rt.key = rt'.key → rt.kind = rt'.kind :=
        fun rt h rt' h' => hkinds rt (.tail _ h) rt' (.tail _ h')
      by_cases hkey : rt.key = rt₀.key
      · have hcontent : restoredContent fromJson load rt = restoredContent fromJson load rt₀ :=
          restoredContent_congr hkey (hkinds rt hrt rt₀ (.head _) hkey)
        rw [hcontent, hkey]
        by_cases hlater : rt₀.key ∈ rts.map (·.key)
        · obtain ⟨rt', hrt', hkey'⟩ := List.mem_map.1 hlater
          have hcontent' : restoredContent fromJson load rt' = restoredContent fromJson load rt₀ :=
            restoredContent_congr hkey' (hkinds rt' (.tail _ hrt') rt₀ (.head _) hkey')
          rw [restoreLists, ← hkey']
          split
          · rename_i content hsome
            rw [ih _ hkinds' rt' hrt', hcontent', hsome]
            rfl
          · rw [ih _ hkinds' rt' hrt', hcontent']
        · rw [restoreLists]
          split
          · rename_i content hsome
            rw [lookup_restoreLists_of_notMem _ _ hlater, AList.lookup_insert, hsome]
            rfl
          · rename_i hnone
            rw [lookup_restoreLists_of_notMem _ _ hlater, hnone]
            rfl
      · have hrt' : rt ∈ rts := (List.mem_cons.1 hrt).resolve_left fun h => hkey (h ▸ rfl)
        rw [restoreLists]
        split
        · rw [ih _ hkinds' rt hrt', AList.lookup_insert_ne hkey]
        · exact ih _ hkinds' rt hrt'

theorem le_restoreLists_count :
    ∀ (rts : List ListRuntime) (acc : ListMap × Nat),
      acc.2 ≤ (restoreLists fromJson load rts acc).2 ∧
        ((restoreLists fromJson load rts acc).2 = acc.2 →
          ∀ rt ∈ rts, restoredContent fromJson load rt = none) := by
  intro rts
  induction rts with
  | nil => intro acc; exact ⟨Nat.le_refl _, fun _ rt hrt => absurd hrt (by simp)⟩
  | cons rt₀ rts ih =>
      intro acc
      rw [restoreLists]
      split
      · have hle := (ih (acc.1.insert rt₀.key ‹_›, acc.2 + 1)).1
        refine ⟨by omega, fun heq => ?_⟩
        omega
      · rename_i hnone
        refine ⟨(ih acc).1, fun heq rt hrt => ?_⟩
        rcases List.mem_cons.1 hrt with rfl | hrt
        · exact hnone
        · exact (ih acc).2 heq rt hrt

theorem restoredContent_flagged (rt : ListRuntime) :
    restoredContent fromJson load (flagged ops rt) = restoredContent fromJson load rt := rfl

theorem WellNamed.nodup_key (hwn : WellNamed rts) : (rts.map (·.key)).Nodup :=
  (List.Nodup.of_map _ hwn.nodup).map_on fun _ h _ h' hk => hwn.eq_of_key h h' hk

theorem sim_restore (hwn : WellNamed rts) (h : Sim nameFromAscii fromJson rts ops engine)
    (load : String → Except String (Option FilterCacheDocumentRecord)) :
    Sim nameFromAscii fromJson rts (ops ++ [EngineOp.restore load])
      ((EngineOp.restore load).apply nameFromAscii fromJson engine) := by
  have hkeys : engine.runtimes.map (·.key) = rts.map (·.key) := by
    rw [h.runtimes, List.map_map]; rfl
  have hnodup : (engine.runtimes.map (·.key)).Nodup := hkeys ▸ hwn.nodup_key
  have hkinds : ∀ rt ∈ engine.runtimes, ∀ rt' ∈ engine.runtimes, rt.key = rt'.key →
      rt.kind = rt'.kind := fun rt h rt' h' hk =>
    congrArg (·.kind) (List.inj_on_of_nodup_map hnodup h h' hk)
  have hflagged : ∀ rt ∈ rts, flagged ops rt ∈ engine.runtimes := fun rt hrt =>
    h.runtimes ▸ List.mem_map_of_mem hrt
  rw [EngineOp.apply, tryRestoreDocumentCache]
  split
  rename_i lists restored heq
  split
  · refine h.concat_of_loads (fun _ _ => rfl) (fun rt hrt => ?_) fun key content hl => ?_
    · have hlookup : (restoreLists fromJson load engine.runtimes (engine.lists, 0)).1.lookup _ =
          _ := lookup_restoreLists _ _ hkinds _ (hflagged rt hrt)
      rw [heq] at hlookup
      simpa [restoredContent_flagged, EngineOp.loads] using hlookup
    · by_cases hk : key ∈ rts.map (·.key)
      · simpa using hk
      · have hlookup : (restoreLists fromJson load engine.runtimes (engine.lists, 0)).1.lookup key =
            engine.lists.lookup key :=
          lookup_restoreLists_of_notMem _ _ (hkeys ▸ hk)
        rw [heq] at hlookup
        exact h.owner key content (hlookup ▸ hl)
  · rename_i hzero
    refine h.concat_of_noEffect (fun rt hrt => ?_) fun _ _ => rfl
    have hcount : (restoreLists fromJson load engine.runtimes (engine.lists, 0)).2 = 0 := by
      rw [heq]
      simpa using hzero
    have hnone := (le_restoreLists_count engine.runtimes _).2 hcount _ (hflagged rt hrt)
    exact hnone

/-! ### Switching lists on and off -/

theorem setRuntimeDisabled_eq_none {name : String} {flag : Bool} :
    ∀ {rts : List ListRuntime}, name ∉ rts.map (·.name) →
      setRuntimeDisabled name flag rts = none
  | [], _ => rfl
  | rt :: rts, h => by
      rw [List.map_cons, List.mem_cons, not_or] at h
      rw [setRuntimeDisabled, if_neg (Ne.symm h.1), setRuntimeDisabled_eq_none h.2]
      rfl

/-- With distinct names the first list of that name is the only one. -/
theorem setRuntimeDisabled_eq_some {name : String} {flag : Bool} :
    ∀ {rts : List ListRuntime}, (rts.map (·.name)).Nodup → name ∈ rts.map (·.name) →
      setRuntimeDisabled name flag rts =
        some (rts.map fun rt => if rt.name = name then { rt with runtimeDisabled := flag } else rt)
  | [], _, h => absurd h (by simp)
  | rt :: rts, hnodup, h => by
      rw [List.map_cons, List.nodup_cons] at hnodup
      rw [setRuntimeDisabled, List.map_cons]
      by_cases hn : rt.name = name
      · rw [if_pos hn, if_pos hn]
        have hrest : rts.map (fun rt => if rt.name = name then
            { rt with runtimeDisabled := flag } else rt) = rts := by
          conv_rhs => rw [← List.map_id rts]
          refine List.map_congr_left fun rt' hrt' => ?_
          have hne : rt'.name ≠ name := fun hn' =>
            hnodup.1 (hn ▸ hn' ▸ List.mem_map_of_mem (f := (·.name)) hrt')
          simp [hne]
        rw [hrest]
      · rw [if_neg hn, if_neg hn]
        have hmem : name ∈ rts.map (·.name) := by
          rw [List.map_cons, List.mem_cons] at h
          exact h.resolve_left (Ne.symm hn)
        rw [setRuntimeDisabled_eq_some hnodup.2 hmem]
        rfl

/-- `enable_list` and `disable_list` as one operation. -/
theorem sim_switch (hwn : WellNamed rts) (h : Sim nameFromAscii fromJson rts ops engine)
    {op : EngineOp} {name : String} {flag : Bool}
    (hloads : ∀ rt, op.loads nameFromAscii fromJson rt = none)
    (hswitches : ∀ rt, op.switches rt = if name = rt.name then some flag else none) :
    Sim nameFromAscii fromJson rts (ops ++ [op]) (engine.switchList name flag).2 := by
  have hnames : engine.runtimes.map (·.name) = rts.map (·.name) := by
    rw [h.runtimes, List.map_map]; rfl
  rw [switchList]
  by_cases hname : name ∈ engine.runtimes.map (·.name)
  · rw [setRuntimeDisabled_eq_some (hnames ▸ hwn.nodup) hname]
    constructor
    · simp only [rebuildSnapshot, h.runtimes, List.map_map]
      refine List.map_congr_left fun rt _ => ?_
      by_cases hn : name = rt.name
      · simp [flagged, hswitches, hn]
      · simp [flagged, hswitches, hn, Ne.symm hn]
    · intro rt hrt
      rw [lastLoaded_concat, hloads, Option.none_or]
      exact h.lookup rt hrt
    · exact h.owner
    · rfl
  · rw [setRuntimeDisabled_eq_none hname]
    refine h.concat_of_noEffect (fun rt _ => hloads rt) fun rt hrt => ?_
    rw [hswitches, if_neg]
    rintro rfl
    exact hname (hnames ▸ List.mem_map_of_mem hrt)

/-- Every operation keeps the relation. -/
theorem sim_apply (hwn : WellNamed rts) (h : Sim nameFromAscii fromJson rts ops engine)
    (op : EngineOp) :
    Sim nameFromAscii fromJson rts (ops ++ [op]) (op.apply nameFromAscii fromJson engine) := by
  cases op with
  | refresh name fetched => exact sim_refresh hwn h name fetched
  | restore load => exact sim_restore hwn h load
  | enable name => exact sim_switch hwn h (fun _ => rfl) fun _ => rfl
  | disable name => exact sim_switch hwn h (fun _ => rfl) fun _ => rfl

/-- **Every run keeps the relation.** -/
theorem sim_runOps (hwn : WellNamed rts) (h : Sim nameFromAscii fromJson rts ops engine)
    (more : List EngineOp) :
    Sim nameFromAscii fromJson rts (ops ++ more) (runOps nameFromAscii fromJson more engine) := by
  induction more generalizing ops engine with
  | nil => simpa [runOps] using h
  | cons op more ih =>
      have := ih (sim_apply hwn h op)
      rwa [List.append_assoc, List.singleton_append] at this

/-! ## The engine a configuration builds -/

theorem buildRuntime_eq_ok {kind : ListKind} {list : NamedList} {rt : ListRuntime}
    (h : buildRuntime kind list = .ok rt) :
    rt.name = list.name ∧ rt.key = listKey rt.kind rt.name ∧ rt.runtimeDisabled = false := by
  obtain ⟨interval, -, h⟩ := bind_eq_ok.1 h
  obtain ⟨format, -, h⟩ := bind_eq_ok.1 h
  cases h
  exact ⟨rfl, rfl, rfl⟩

/-- The runtimes carry the names of the lists the configuration enables, in its order. -/
theorem buildRuntimes_eq_ok {lists : List NamedList} {kind : ListKind} {rts : List ListRuntime}
    (h : buildRuntimes lists kind = .ok rts) :
    rts.map (·.name) = (lists.filter (·.enabled.getD true)).map (·.name) ∧
      ∀ rt ∈ rts, rt.key = listKey rt.kind rt.name ∧ rt.runtimeDisabled = false := by
  have hall := mapM_eq_ok.1 h
  clear h
  generalize lists.filter (·.enabled.getD true) = enabled at hall ⊢
  induction hall with
  | nil => simp
  | cons hrt _ ih =>
      obtain ⟨hname, hkey, hflag⟩ := buildRuntime_eq_ok hrt
      refine ⟨by rw [List.map_cons, List.map_cons, hname, ih.1], fun rt' hrt' => ?_⟩
      rcases List.mem_cons.1 hrt' with rfl | hrt'
      · exact ⟨hkey, hflag⟩
      · exact ih.2 rt' hrt'

/-- The names of all configured lists, blocklists first. -/
def listNames (config : DnsFilterConfig) : List String :=
  config.blocklists.map (·.name) ++ config.allowlists.map (·.name)

theorem tryRestoreDocumentCache_runtimes (engine : ListFilterEngine) :
    (engine.tryRestoreDocumentCache fromJson load).runtimes = engine.runtimes := by
  rw [tryRestoreDocumentCache]
  split
  split <;> rfl

theorem fromConfigWithCache_runtimes {config : DnsFilterConfig}
    {cacheRepo : Option (String → Except String (Option FilterCacheDocumentRecord))}
    (h : fromConfigWithCache fromJson config cacheRepo = .ok engine) :
    ∃ blocks allows, buildRuntimes config.blocklists .block = .ok blocks ∧
      buildRuntimes config.allowlists .allow = .ok allows ∧ engine.runtimes = blocks ++ allows := by
  obtain ⟨⟨v4, v6⟩, -, h⟩ := bind_eq_ok.1 h
  obtain ⟨blocks, hblocks, h⟩ := bind_eq_ok.1 h
  obtain ⟨allows, hallows, h⟩ := bind_eq_ok.1 h
  refine ⟨blocks, allows, hblocks, hallows, ?_⟩
  cases cacheRepo with
  | none => cases h; rfl
  | some load => cases h; exact tryRestoreDocumentCache_runtimes _

/-- The cache plays no part in whether an engine can be built; it only fills a new one. -/
theorem fromConfigWithCache_some (config : DnsFilterConfig)
    (load : String → Except String (Option FilterCacheDocumentRecord)) :
    fromConfigWithCache fromJson config (some load) =
      (fromConfigWithCache fromJson config none).map (tryRestoreDocumentCache fromJson load) := by
  unfold fromConfigWithCache
  cases parseSinkholeAddrs config with
  | error e => rfl
  | ok addrs =>
      cases buildRuntimes config.blocklists .block with
      | error e => rfl
      | ok blocks =>
          cases buildRuntimes config.allowlists .allow with
          | error e => rfl
          | ok allows => rfl

/-- An engine without a cache: the enabled lists in their order, none of them loaded. -/
theorem fromConfigWithCache_none {config : DnsFilterConfig}
    (h : fromConfigWithCache fromJson config none = .ok engine) :
    engine.runtimes.map (·.name) = ((config.blocklists ++ config.allowlists).filter
        (·.enabled.getD true)).map (·.name) ∧
      (∀ rt ∈ engine.runtimes, rt.key = listKey rt.kind rt.name ∧ rt.runtimeDisabled = false) ∧
      engine.lists = ∅ ∧ engine.snapshot = {} := by
  obtain ⟨⟨v4, v6⟩, -, h⟩ := bind_eq_ok.1 h
  obtain ⟨blocks, hblocks, h⟩ := bind_eq_ok.1 h
  obtain ⟨allows, hallows, h⟩ := bind_eq_ok.1 h
  obtain ⟨hbnames, hb⟩ := buildRuntimes_eq_ok hblocks
  obtain ⟨hanames, ha⟩ := buildRuntimes_eq_ok hallows
  cases h
  refine ⟨?_, fun rt hrt => (List.mem_append.1 hrt).elim (hb rt) (ha rt), rfl, rfl⟩
  rw [List.map_append, hbnames, hanames, List.filter_append, List.map_append]

/-- A new engine is an empty one after the restore, if there is a cache. -/
theorem exists_empty_of_built {config : DnsFilterConfig}
    {cacheRepo : Option (String → Except String (Option FilterCacheDocumentRecord))}
    (h : fromConfigWithCache fromJson config cacheRepo = .ok engine) :
    ∃ empty : ListFilterEngine, fromConfigWithCache fromJson config none = .ok empty ∧
      engine = cacheRepo.elim empty fun load => empty.tryRestoreDocumentCache fromJson load := by
  cases cacheRepo with
  | none => exact ⟨engine, h, rfl⟩
  | some load =>
      rw [fromConfigWithCache_some] at h
      obtain ⟨empty, hempty, rfl⟩ := map_eq_ok.1 h
      exact ⟨empty, hempty, rfl⟩

theorem fromConfigWithCache_names {config : DnsFilterConfig}
    {cacheRepo : Option (String → Except String (Option FilterCacheDocumentRecord))}
    (h : fromConfigWithCache fromJson config cacheRepo = .ok engine) :
    engine.runtimes.map (·.name) = ((config.blocklists ++ config.allowlists).filter
      (·.enabled.getD true)).map (·.name) := by
  obtain ⟨empty, hempty, rfl⟩ := exists_empty_of_built h
  have hnames := (fromConfigWithCache_none hempty).1
  cases cacheRepo with
  | none => exact hnames
  | some load => rwa [Option.elim_some, tryRestoreDocumentCache_runtimes]

theorem fromConfigWithCache_key {config : DnsFilterConfig}
    {cacheRepo : Option (String → Except String (Option FilterCacheDocumentRecord))}
    (h : fromConfigWithCache fromJson config cacheRepo = .ok engine) :
    ∀ rt ∈ engine.runtimes, rt.key = listKey rt.kind rt.name := by
  obtain ⟨empty, hempty, rfl⟩ := exists_empty_of_built h
  have hrt := (fromConfigWithCache_none hempty).2.1
  cases cacheRepo with
  | none => exact fun rt hmem => (hrt rt hmem).1
  | some load =>
      rw [Option.elim_some, tryRestoreDocumentCache_runtimes]
      exact fun rt hmem => (hrt rt hmem).1

/-- A freshly built engine is an empty one after the restores of the document cache. -/
theorem fromConfigWithCache_eq_ok (nameFromAscii : String → Bool) {config : DnsFilterConfig}
    {cacheRepo : Option (String → Except String (Option FilterCacheDocumentRecord))}
    (h : fromConfigWithCache fromJson config cacheRepo = .ok engine)
    (hnames : (listNames config).Nodup) :
    WellNamed engine.runtimes ∧
      ∃ empty : ListFilterEngine, Sim nameFromAscii fromJson engine.runtimes [] empty ∧
        engine = runOps nameFromAscii fromJson (cacheRepo.toList.map .restore) empty := by
  obtain ⟨empty, hempty, rfl⟩ := exists_empty_of_built h
  obtain ⟨hempties, hrt, hlists, hsnapshot⟩ := fromConfigWithCache_none hempty
  have hwn : WellNamed empty.runtimes := by
    refine ⟨?_, fun rt h => (hrt rt h).1⟩
    rw [hempties]
    rw [listNames, ← List.map_append] at hnames
    exact hnames.sublist (List.filter_sublist.map _)
  have hsim : Sim nameFromAscii fromJson empty.runtimes [] empty := by
    constructor
    · conv_lhs => rw [← List.map_id empty.runtimes]
      refine List.map_congr_left fun rt hmem => ?_
      rw [flagged, isDisabled, List.foldl_nil, ← (hrt rt hmem).2]
      rfl
    · intro rt _
      rw [hlists]
      rfl
    · intro key content hl
      rw [hlists] at hl
      exact absurd hl (by simp)
    · rw [hsnapshot, hlists]
      rfl
  cases cacheRepo with
  | none => exact ⟨hwn, empty, hsim, rfl⟩
  | some load =>
      rw [Option.elim_some, tryRestoreDocumentCache_runtimes]
      exact ⟨hwn, empty, hsim, rfl⟩

/-- **A built engine and all its runs follow the history**, which starts with the restore. -/
theorem sim_built (nameFromAscii : String → Bool) {config : DnsFilterConfig}
    {cacheRepo : Option (String → Except String (Option FilterCacheDocumentRecord))}
    (h : fromConfigWithCache fromJson config cacheRepo = .ok engine)
    (hnames : (listNames config).Nodup) :
    WellNamed engine.runtimes ∧ ∀ ops,
      Sim nameFromAscii fromJson engine.runtimes (cacheRepo.toList.map EngineOp.restore ++ ops)
        (runOps nameFromAscii fromJson ops engine) := by
  obtain ⟨hwn, empty, hempty, heq⟩ := fromConfigWithCache_eq_ok nameFromAscii h hnames
  refine ⟨hwn, fun ops => ?_⟩
  have hbase := sim_runOps hwn hempty (cacheRepo.toList.map .restore)
  rw [← heq, List.nil_append] at hbase
  exact sim_runOps hwn hbase ops

/-! ## Decisions -/

section Spec

variable (nameFromAscii fromJson)

/-- The list is switched on and its last loaded content has `x` among the given domains. -/
def Contributes (rt : ListRuntime) (ops : List EngineOp) (part : ListDomains → Finset String)
    (x : String) : Prop :=
  isDisabled rt ops = false ∧
    ∃ content, lastLoaded nameFromAscii fromJson rt ops = some content ∧ x ∈ part content

/-- The domains of the block lists that are not disabled. -/
def blockSet (rts : List ListRuntime) (ops : List EngineOp) : Set String :=
  {x | ∃ rt ∈ rts, rt.kind = .block ∧ Contributes nameFromAscii fromJson rt ops (·.domains) x}

/-- The domains of the allow lists and the exceptions of all lists that are not disabled. -/
def allowSet (rts : List ListRuntime) (ops : List EngineOp) : Set String :=
  {x | (∃ rt ∈ rts, rt.kind = .allow ∧ Contributes nameFromAscii fromJson rt ops (·.domains) x) ∨
    ∃ rt ∈ rts, Contributes nameFromAscii fromJson rt ops (·.exceptions) x}

open Classical in
/-- What the engine is for: the allowed set overrides the blocked set, and both speak about a
domain and everything below it. -/
noncomputable def specDecision (allowed blocked : Set String) (domain : String) : FilterDecision :=
  if normalizeDomain domain = "" then .neutral
  else if ∃ s ∈ allowed, LabelSuffix s (normalizeDomain domain) then .allow
  else if ∃ s ∈ blocked, LabelSuffix s (normalizeDomain domain) then .block
  else .neutral

/-- The list blocks the domain: a switched-on block list with a label suffix of it. -/
def ListBlocks (ops : List EngineOp) (domain : String) (rt : ListRuntime) : Prop :=
  rt.kind = .block ∧ ∃ s, LabelSuffix s (normalizeDomain domain) ∧
    Contributes nameFromAscii fromJson rt ops (·.domains) s

open Classical in
/-- The names of the lists that block the domain, in configuration order. -/
noncomputable def blockingNames (rts : List ListRuntime) (ops : List EngineOp) (domain : String) :
    List String :=
  (rts.filter fun rt => ListBlocks nameFromAscii fromJson ops domain rt).map (·.name)

end Spec

theorem mem_disabledKeys (hwn : WellNamed rts) (h : Sim nameFromAscii fromJson rts ops engine)
    {rt : ListRuntime} (hrt : rt ∈ rts) :
    rt.key ∈ disabledKeys engine.runtimes ↔ isDisabled rt ops = true := by
  rw [disabledKeys, h.runtimes, List.mem_toFinset, List.mem_map]
  constructor
  · rintro ⟨rt', hrt', hkey⟩
    rw [List.mem_filter, List.mem_map] at hrt'
    obtain ⟨⟨rt'', hrt'', rfl⟩, hflag⟩ := hrt'
    obtain rfl : rt'' = rt := hwn.eq_of_key hrt'' hrt hkey
    exact hflag
  · intro hdis
    exact ⟨flagged ops rt, List.mem_filter.2 ⟨List.mem_map_of_mem hrt, hdis⟩, rfl⟩

/-- What a part of the lists contributes to the snapshot, read off the history. -/
theorem exists_lookup_iff (hwn : WellNamed rts) (h : Sim nameFromAscii fromJson rts ops engine)
    {part : ListDomains → Finset String} {x : String} :
    (∃ key content, engine.lists.lookup key = some content ∧
        key ∉ disabledKeys engine.runtimes ∧ x ∈ part content) ↔
      ∃ rt ∈ rts, Contributes nameFromAscii fromJson rt ops part x := by
  constructor
  · rintro ⟨key, content, hl, hdis, hx⟩
    obtain ⟨rt, hrt, rfl⟩ := h.owner key content hl
    rw [mem_disabledKeys hwn h hrt, Bool.not_eq_true] at hdis
    exact ⟨rt, hrt, hdis, content, by rw [← h.lookup rt hrt, hl], hx⟩
  · rintro ⟨rt, hrt, hdis, content, hl, hx⟩
    refine ⟨rt.key, content, by rw [h.lookup rt hrt, hl], ?_, hx⟩
    rw [mem_disabledKeys hwn h hrt, hdis]
    exact Bool.false_ne_true

theorem mem_snapshot_blocked (hwn : WellNamed rts) (h : Sim nameFromAscii fromJson rts ops engine)
    {x : String} :
    x ∈ engine.snapshot.blocked ↔ x ∈ blockSet nameFromAscii fromJson rts ops := by
  rw [h.snapshot, mem_computeSnapshot_blocked, exists_lookup_iff hwn h]
  refine exists_congr fun rt => and_congr_right fun _ => ?_
  constructor
  · rintro ⟨hdis, content, hl, hx⟩
    have hkind := lastLoaded_kind _ _ hl
    cases hk : content.kind with
    | block => exact ⟨hkind ▸ hk, hdis, content, hl, by simpa [ListDomains.blocks, hk] using hx⟩
    | allow => simp [ListDomains.blocks, hk] at hx
  · rintro ⟨hk, hdis, content, hl, hx⟩
    have hkind := (lastLoaded_kind _ _ hl).trans hk
    exact ⟨hdis, content, hl, by simpa [ListDomains.blocks, hkind] using hx⟩

theorem mem_snapshot_allowed (hwn : WellNamed rts) (h : Sim nameFromAscii fromJson rts ops engine)
    {x : String} :
    x ∈ engine.snapshot.allowed ↔ x ∈ allowSet nameFromAscii fromJson rts ops := by
  rw [h.snapshot, mem_computeSnapshot_allowed, exists_lookup_iff hwn h]
  constructor
  · rintro ⟨rt, hrt, hdis, content, hl, hx⟩
    have hkind := lastLoaded_kind _ _ hl
    cases hk : content.kind with
    | block =>
        exact .inr ⟨rt, hrt, hdis, content, hl, by simpa [ListDomains.allows, hk] using hx⟩
    | allow =>
        rw [ListDomains.allows, hk, Finset.mem_union] at hx
        rcases hx with hx | hx
        · exact .inl ⟨rt, hrt, hkind ▸ hk, hdis, content, hl, hx⟩
        · exact .inr ⟨rt, hrt, hdis, content, hl, hx⟩
  · rintro (⟨rt, hrt, hk, hdis, content, hl, hx⟩ | ⟨rt, hrt, hdis, content, hl, hx⟩)
    · have hkind := (lastLoaded_kind _ _ hl).trans hk
      exact ⟨rt, hrt, hdis, content, hl, by simp [ListDomains.allows, hkind, hx]⟩
    · refine ⟨rt, hrt, hdis, content, hl, ?_⟩
      cases hk : content.kind <;> simp [ListDomains.allows, hk, hx]

/-- The snapshot's answer is the specification's. -/
theorem decideDomain_eq_spec (hwn : WellNamed rts)
    (h : Sim nameFromAscii fromJson rts ops engine) (domain : String) :
    engine.decideDomain domain =
      specDecision (allowSet nameFromAscii fromJson rts ops)
        (blockSet nameFromAscii fromJson rts ops) domain := by
  classical
  simp only [decideDomain, specDecision, matchesAny_iff, mem_snapshot_allowed hwn h,
    mem_snapshot_blocked hwn h]

/-- The per-list answer is the specification's. -/
theorem listMatches_iff (h : Sim nameFromAscii fromJson rts ops engine) {rt : ListRuntime}
    (hrt : rt ∈ rts) {domain : String} :
    engine.listMatches (normalizeDomain domain) rt = true ↔
      ∃ content, lastLoaded nameFromAscii fromJson rt ops = some content ∧
        ∃ s ∈ content.domains, LabelSuffix s (normalizeDomain domain) := by
  rw [listMatches, h.lookup rt hrt]
  cases lastLoaded nameFromAscii fromJson rt ops with
  | none => simp
  | some content => simp [matchesAny_iff]

theorem listBlocks_iff (hwn : WellNamed rts) (h : Sim nameFromAscii fromJson rts ops engine)
    {rt : ListRuntime} (hrt : rt ∈ rts) {domain : String} :
    (rt.kind = .block && !decide (rt.key ∈ disabledKeys engine.runtimes) &&
        engine.listMatches (normalizeDomain domain) rt) = true ↔
      ListBlocks nameFromAscii fromJson ops domain rt := by
  simp only [Bool.and_eq_true, decide_eq_true_eq, Bool.not_eq_true', decide_eq_false_iff_not,
    listMatches_iff h hrt, mem_disabledKeys hwn h hrt, Bool.not_eq_true]
  constructor
  · rintro ⟨⟨hk, hdis⟩, content, hl, s, hs, hsuf⟩
    exact ⟨hk, s, hsuf, hdis, content, hl, hs⟩
  · rintro ⟨hk, s, hsuf, hdis, content, hl, hs⟩
    exact ⟨⟨hk, hdis⟩, content, hl, s, hs, hsuf⟩

theorem blockedBy_eq_spec (hwn : WellNamed rts) (h : Sim nameFromAscii fromJson rts ops engine)
    {domain : String} (hne : normalizeDomain domain ≠ "") :
    engine.blockedBy domain = blockingNames nameFromAscii fromJson rts ops domain := by
  simp only [blockedBy, if_neg hne, blockingNames]
  conv_lhs => rw [h.runtimes, List.filter_map, List.map_map]
  rw [← h.runtimes]
  congr 1
  refine List.filter_congr fun rt hrt => ?_
  classical
  rw [Bool.eq_iff_iff, decide_eq_true_iff, ← listBlocks_iff hwn h hrt]
  rfl

/-- A blocked domain is blocked by some list. -/
theorem blockingNames_ne_nil {domain : String}
    (h : specDecision (allowSet nameFromAscii fromJson rts ops)
      (blockSet nameFromAscii fromJson rts ops) domain = .block) :
    normalizeDomain domain ≠ "" ∧ blockingNames nameFromAscii fromJson rts ops domain ≠ [] := by
  rw [specDecision] at h
  split at h
  · exact absurd h (by simp)
  · rename_i hne
    refine ⟨hne, ?_⟩
    split at h
    · exact absurd h (by simp)
    · split at h
      · rename_i hblock
        obtain ⟨s, ⟨rt, hrt, hk, hcontr⟩, hsuf⟩ := hblock
        classical
        refine List.ne_nil_of_mem (List.mem_map_of_mem (List.mem_filter.2 ⟨hrt, ?_⟩))
        exact decide_eq_true ⟨hk, s, hsuf, hcontr⟩
      · exact absurd h (by simp)

/-- Histories that agree, list by list, on the operations that concern the list give the same
sets. -/
theorem sets_eq_of_filter_eq {ops' : List EngineOp}
    (h : ∀ rt ∈ rts, ops'.filter (·.concerns rt) = ops.filter (·.concerns rt)) :
    allowSet nameFromAscii fromJson rts ops' = allowSet nameFromAscii fromJson rts ops ∧
      blockSet nameFromAscii fromJson rts ops' = blockSet nameFromAscii fromJson rts ops := by
  have hcontr : ∀ rt ∈ rts, ∀ part x,
      Contributes nameFromAscii fromJson rt ops' part x ↔
        Contributes nameFromAscii fromJson rt ops part x := by
    intro rt hrt part x
    have hl := lastLoaded_filter nameFromAscii fromJson rt
    rw [Contributes, Contributes, ← (hl ops').1, ← (hl ops').2, h rt hrt, (hl ops).1, (hl ops).2]
  constructor
  · ext x
    simp only [allowSet, Set.mem_ofPred_eq]
    refine or_congr (exists_congr fun rt => and_congr_right fun hrt => ?_)
      (exists_congr fun rt => and_congr_right fun hrt => hcontr rt hrt _ x)
    rw [hcontr rt hrt]
  · ext x
    simp only [blockSet, Set.mem_ofPred_eq]
    refine exists_congr fun rt => and_congr_right fun hrt => ?_
    rw [hcontr rt hrt]

theorem apply_refresh_error (name err : String) :
    (EngineOp.refresh name (.error err)).apply nameFromAscii fromJson engine = engine := by
  rw [EngineOp.apply]
  split <;> rfl

/-- **Decisions follow the lists.** After any run of operations on a freshly built engine, a
decision is the specification's on the last loaded content of the lists that are not disabled.
It does not depend on how operations on different lists interleave, a failed refresh leaves it
alone, and a blocked domain is reported with exactly the lists that block it. -/
theorem decideDomain_runOps {config : DnsFilterConfig}
    {cacheRepo : Option (String → Except String (Option FilterCacheDocumentRecord))}
    {built : ListFilterEngine} (hbuilt : fromConfigWithCache fromJson config cacheRepo = .ok built)
    (hnames : (listNames config).Nodup) (ops : List EngineOp) (domain : String) :
    let past := cacheRepo.toList.map EngineOp.restore ++ ops
    let engine := runOps nameFromAscii fromJson ops built
    built.runtimes.map (·.name) = ((config.blocklists ++ config.allowlists).filter
        (·.enabled.getD true)).map (·.name) ∧
      engine.decideDomain domain =
        specDecision (allowSet nameFromAscii fromJson built.runtimes past)
          (blockSet nameFromAscii fromJson built.runtimes past) domain ∧
      (∀ ops', (∀ rt ∈ built.runtimes,
          ops'.filter (·.concerns rt) = ops.filter (·.concerns rt)) →
        (runOps nameFromAscii fromJson ops' built).decideDomain domain =
          engine.decideDomain domain) ∧
      (∀ before after name err, ops = before ++ after →
        (runOps nameFromAscii fromJson (before ++ EngineOp.refresh name (.error err) :: after)
          built).decideDomain domain = engine.decideDomain domain) ∧
      (engine.decideDomain domain = .block →
        engine.blockedBy domain ≠ [] ∧
          engine.blockedBy domain =
            blockingNames nameFromAscii fromJson built.runtimes past domain) := by
  obtain ⟨hwn, hsim⟩ := sim_built nameFromAscii hbuilt hnames
  intro past engine
  have hspec := decideDomain_eq_spec hwn (hsim ops) domain
  refine ⟨fromConfigWithCache_names hbuilt, hspec, ?_, ?_, ?_⟩
  · intro ops' hops'
    have hpast : ∀ rt ∈ built.runtimes,
        (cacheRepo.toList.map EngineOp.restore ++ ops').filter (·.concerns rt) =
          past.filter (·.concerns rt) := fun rt hrt => by
      rw [List.filter_append, List.filter_append, hops' rt hrt]
    rw [decideDomain_eq_spec hwn (hsim ops') domain, (sets_eq_of_filter_eq hpast).1,
      (sets_eq_of_filter_eq hpast).2, hspec]
  · rintro before after name err rfl
    simp only [engine, runOps, List.foldl_append, List.foldl_cons, apply_refresh_error]
  · intro hblock
    obtain ⟨hne, hnil⟩ := blockingNames_ne_nil (hspec ▸ hblock)
    have hby := blockedBy_eq_spec hwn (hsim ops) hne
    exact ⟨hby ▸ hnil, hby⟩

/-- A configuration with one blocklist and one allowlist. -/
def twoListConfig : DnsFilterConfig where
  blocklists := [{ name := "ads", url := "https://lists.example/ads" }]
  allowlists := [{ name := "ours", url := "/etc/allow.txt", interval := some "5m" }]
  resolvers := { strategy := "failover", bootstrapResolvers := [], servers := [] }

theorem decideDomain_runOps_twoLists :
    ∃ built, fromConfigWithCache (fun _ => none) twoListConfig none = .ok built ∧
      let ops : List EngineOp :=
        [.refresh "ads" (.ok "ads.example"), .refresh "ours" (.ok "ok.ads.example"),
          .disable "ours", .refresh "ads" (.error "timeout")]
      let engine := runOps (fun _ => true) (fun _ => none) ops built
      engine.decideDomain "ok.ads.example." = .block ∧
        blockingNames (fun _ => true) (fun _ => none) built.runtimes ops "ok.ads.example." =
          ["ads"] := by
  have hany : (fromConfigWithCache (fun _ => none) twoListConfig none).toOption.any (fun built =>
      let engine := runOps (fun _ => true) (fun _ => none)
        [.refresh "ads" (.ok "ads.example"), .refresh "ours" (.ok "ok.ads.example"),
          .disable "ours", .refresh "ads" (.error "timeout")] built
      engine.decideDomain "ok.ads.example." = .block ∧
        engine.blockedBy "ok.ads.example." = ["ads"]) = true := by decide +kernel
  obtain ⟨built, hbuilt, htest⟩ := exists_ok_of_any hany
  obtain ⟨hblock, hnames⟩ := of_decide_eq_true htest
  refine ⟨built, hbuilt, ?_⟩
  intro ops engine
  have hby := (decideDomain_runOps hbuilt (by decide) ops "ok.ads.example.").2.2.2.2 hblock
  exact ⟨hblock, hby.2.symm.trans hnames⟩

end History

end DnsFilter
