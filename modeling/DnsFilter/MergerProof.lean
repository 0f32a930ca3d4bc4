import DnsFilter.Lib.Result
import DnsFilter.Merger

/-!
# What the merged configuration says

* `atPath_deepMerge` — where the overlay has a value, it is merged with the value of the base.
* `pathLaw` — the four cases of a lookup in a merged value.
* `sameUpToOrder_deepMerge` — laying a base under the merged value once more changes nothing.
* `atPath_normalizeListenAddresses` — the sections under `listen` after the normalisation.
* `mergeWithExample_laws` — the law of paths, a second merge, and the addresses of the listeners.
-/

namespace DnsFilter.Merger

open Yaml IndexMap Value

variable {κ : Type} [DecidableEq κ] {base overlay : Value κ} {path : List (Key κ)}

/-! ## Merging under a key -/

/-- What is found in a merged mapping, from what is found in the base and in the overlay. -/
def mergeOption : Option (Value κ) → Option (Value κ) → Option (Value κ)
  | base, none => base
  | none, some overlay => some overlay
  | some base, some overlay => some (deepMerge base overlay)

@[simp] theorem mergeOption_none (base : Option (Value κ)) : mergeOption base none = base := by
  cases base <;> rfl

theorem mergeOption_eq_none {base overlay : Option (Value κ)}
    (h : mergeOption base overlay = none) : base = none := by
  cases base with
  | none => rfl
  | some w =>
      cases overlay with
      | none => exact h
      | some v => exact absurd h (by simp [mergeOption])

theorem mergeEntries_cons (baseMap rest : List (Key κ × Value κ)) (key : Key κ)
    (overlayVal : Value κ) : ∃ merged,
      mergeOption (get key baseMap) (some overlayVal) = some merged ∧
      mergeEntries baseMap ((key, overlayVal) :: rest) =
        mergeEntries (insert key merged (swapRemove key baseMap)) rest := by
  rw [mergeEntries]
  cases hget : get key baseMap with
  | none => exact ⟨overlayVal, rfl, rfl⟩
  | some baseVal => exact ⟨deepMerge baseVal overlayVal, rfl, rfl⟩

theorem get_mergeEntries {baseMap overlayMap : List (Key κ × Value κ)} (hbase : Distinct baseMap)
    (hoverlay : Distinct overlayMap) (k : Key κ) :
    get k (mergeEntries baseMap overlayMap) = mergeOption (get k baseMap) (get k overlayMap) := by
  induction overlayMap generalizing baseMap with
  | nil => rfl
  | cons e rest ih =>
      obtain ⟨key, overlayVal⟩ := e
      obtain ⟨hnot, hrest⟩ := List.nodup_cons.1 hoverlay
      obtain ⟨merged, hmerged, hstep⟩ := mergeEntries_cons baseMap rest key overlayVal
      have hnext : Distinct (insert key merged (swapRemove key baseMap)) :=
        hbase.swapRemove.insert merged
      rw [hstep, ih hnext hrest, get_insert]
      by_cases hk : k = key
      · subst hk
        rw [if_pos rfl, get_eq_none_iff.2 hnot, mergeOption_none]
        simp [IndexMap.get, hmerged]
      · rw [if_neg hk, get_swapRemove hbase, if_neg hk]
        simp [IndexMap.get, Ne.symm hk]

theorem distinct_mergeEntries {baseMap overlayMap : List (Key κ × Value κ)}
    (hbase : Distinct baseMap) : Distinct (mergeEntries baseMap overlayMap) := by
  induction overlayMap generalizing baseMap with
  | nil => exact hbase
  | cons e rest ih =>
      obtain ⟨merged, -, hstep⟩ := mergeEntries_cons baseMap rest e.1 e.2
      rw [hstep]
      exact ih (hbase.swapRemove.insert merged)

/-- Only two mappings are merged. -/
theorem deepMerge_eq_overlay (h : ¬ base.IsMapping ∨ ¬ overlay.IsMapping) :
    deepMerge base overlay = overlay := by
  cases overlay with
  | mapping overlayMap =>
      cases base with
      | mapping baseMap => exact absurd trivial (h.elim id fun h => absurd trivial h)
      | _ => rfl
  | _ => rfl

theorem isMapping_deepMerge (h : base.IsMapping) (h' : overlay.IsMapping) :
    (deepMerge base overlay).IsMapping := by
  obtain ⟨baseMap, rfl⟩ := isMapping_iff.1 h
  obtain ⟨overlayMap, rfl⟩ := isMapping_iff.1 h'
  trivial

theorem get_deepMerge (hb : base.WellFormed) (ho : overlay.WellFormed) (hbase : base.IsMapping)
    (hoverlay : overlay.IsMapping) (key : Key κ) :
    (deepMerge base overlay).get key = mergeOption (base.get key) (overlay.get key) := by
  obtain ⟨baseMap, rfl⟩ := isMapping_iff.1 hbase
  obtain ⟨overlayMap, rfl⟩ := isMapping_iff.1 hoverlay
  exact get_mergeEntries hb.distinct ho.distinct key

theorem wellFormed_deepMerge (hb : base.WellFormed) (ho : overlay.WellFormed) :
    (deepMerge base overlay).WellFormed := by
  induction ho generalizing base with
  | @mapping overlayMap hkeys hvalues ih =>
      by_cases hbase : base.IsMapping
      · obtain ⟨baseMap, rfl⟩ := isMapping_iff.1 hbase
        refine wellFormed_mapping_iff.2 ⟨distinct_mergeEntries hb.distinct, ?_⟩
        intro key v hget
        rw [get_mergeEntries hb.distinct hkeys] at hget
        cases hoverlay : get key overlayMap with
        | none =>
            rw [hoverlay, mergeOption_none] at hget
            exact hb.get hget
        | some overlayVal =>
            have hmem : (key, overlayVal) ∈ overlayMap := mem_of_get hoverlay
            rw [hoverlay] at hget
            cases hin : get key baseMap with
            | none =>
                rw [hin] at hget
                exact Option.some.inj hget ▸ hvalues _ hmem
            | some baseVal =>
                rw [hin] at hget
                exact Option.some.inj hget ▸ ih _ hmem (hb.get hin)
      · rw [deepMerge_eq_overlay (.inl hbase)]
        exact .mapping hkeys hvalues
  | sequence h => exact .sequence h
  | null => exact .null
  | bool b => exact .bool b
  | number n => exact .number n
  | string s => exact .string s

/-! ## Lookups along a path -/

/-- **Where the overlay has a value, it is merged with what the base has there.** -/
theorem atPath_deepMerge (hb : base.WellFormed) (ho : overlay.WellFormed) {v : Value κ}
    (h : atPath path overlay = some v) :
    atPath path (deepMerge base overlay) = mergeOption (atPath path base) (some v) := by
  induction path generalizing base overlay with
  | nil =>
      rw [← h]
      rfl
  | cons key path ih =>
      obtain ⟨next, hget, hat⟩ := Option.bind_eq_some_iff.1 h
      by_cases hbase : base.IsMapping
      · have hmerged := get_deepMerge hb ho hbase (isMapping_of_get hget) key
        rw [hget] at hmerged
        simp only [atPath, hmerged]
        cases hin : base.get key with
        | none => simpa [mergeOption] using hat
        | some next' => simpa [mergeOption] using ih (hb.get hin) (ho.get hget) hat
      · rw [deepMerge_eq_overlay (.inl hbase), atPath_cons_of_not_isMapping hbase]
        exact h

theorem atPath_deepMerge_of_lacksKey (hb : base.WellFormed) (ho : overlay.WellFormed)
    (h : LacksKey path overlay) : atPath path (deepMerge base overlay) = atPath path base := by
  obtain ⟨before, key, after, entries, rfl, hat, hget⟩ := h
  rw [atPath_append, atPath_append, atPath_deepMerge hb ho hat]
  cases hin : atPath before base with
  | none => simp [mergeOption, atPath, Value.get, hget]
  | some w =>
      show atPath (key :: after) (deepMerge w (.mapping entries)) = atPath (key :: after) w
      by_cases hw : w.IsMapping
      · have hmerged := get_deepMerge (hb.atPath hin) (ho.atPath hat) hw trivial key
        have hnone : (Value.mapping entries).get key = none := hget
        rw [hnone] at hmerged
        simp only [atPath, hmerged, mergeOption_none]
      · rw [deepMerge_eq_overlay (.inl hw), atPath_cons_of_not_isMapping hw]
        simp [atPath, Value.get, hget]

theorem atPath_deepMerge_of_blocked (hb : base.WellFormed) (ho : overlay.WellFormed)
    (h : Blocked path overlay) : atPath path (deepMerge base overlay) = none := by
  obtain ⟨before, key, after, w, rfl, hat, hw⟩ := h
  have hstays : atPath before (deepMerge base overlay) = some w := by
    rw [atPath_deepMerge hb ho hat]
    cases atPath before base with
    | none => rfl
    | some w' => exact congrArg some (deepMerge_eq_overlay (.inr hw))
  rw [atPath_append, hstays]
  exact atPath_cons_of_not_isMapping hw key after

/-- A lookup in a merged value, by what the base and the overlay have at the path. -/
structure PathLaw (base overlay : Value κ) (path : List (Key κ)) : Prop where
  overlay_wins : ∀ v, atPath path overlay = some v →
    (¬ v.IsMapping ∨ ¬ ∃ w, atPath path base = some w ∧ w.IsMapping) →
      atPath path (deepMerge base overlay) = some v
  merges : ∀ v w, atPath path overlay = some v → atPath path base = some w →
    v.IsMapping → w.IsMapping → atPath path (deepMerge base overlay) = some (deepMerge w v)
  base_stays : LacksKey path overlay →
    atPath path (deepMerge base overlay) = atPath path base
  blocked : Blocked path overlay → atPath path (deepMerge base overlay) = none

theorem pathLaw (hb : base.WellFormed) (ho : overlay.WellFormed) (path : List (Key κ)) :
    PathLaw base overlay path where
  overlay_wins := by
    intro v hat hwins
    rw [atPath_deepMerge hb ho hat]
    cases hin : atPath path base with
    | none => rfl
    | some w =>
        have hnot : ¬ w.IsMapping ∨ ¬ v.IsMapping :=
          hwins.symm.imp_left fun h hw => h ⟨w, hin, hw⟩
        exact congrArg some (deepMerge_eq_overlay hnot)
  merges := by
    intro v w hat hin _ _
    rw [atPath_deepMerge hb ho hat, hin]
    rfl
  base_stays := atPath_deepMerge_of_lacksKey hb ho
  blocked := atPath_deepMerge_of_blocked hb ho

theorem atPath_deepMerge_eq_none (hb : base.WellFormed) (ho : overlay.WellFormed)
    (hbase : atPath path base = none) (hoverlay : atPath path overlay = none) :
    atPath path (deepMerge base overlay) = none := by
  rcases lacksKey_or_blocked hoverlay with hlacks | hblocked
  · rw [atPath_deepMerge_of_lacksKey hb ho hlacks, hbase]
  · exact atPath_deepMerge_of_blocked hb ho hblocked

/-- Below a mapping of the merged value, the overlay is not in the way. -/
theorem lacksKey_of_isMapping (hb : base.WellFormed) (ho : overlay.WellFormed) {m : Value κ}
    (hat : atPath path (deepMerge base overlay) = some m) (hm : m.IsMapping) {key : Key κ}
    (hnone : atPath (path ++ [key]) overlay = none) : LacksKey (path ++ [key]) overlay := by
  cases hover : atPath path overlay with
  | none =>
      rcases lacksKey_or_blocked hover with hlacks | hblocked
      · obtain ⟨before, k, after, entries, rfl, hmapping, hget⟩ := hlacks
        exact ⟨before, k, after ++ [key], entries, by simp, hmapping, hget⟩
      · rw [atPath_deepMerge_of_blocked hb ho hblocked] at hat
        exact absurd hat (by simp)
  | some v =>
      have hv : v.IsMapping := by
        by_contra hnot
        rw [(pathLaw hb ho path).overlay_wins v hover (.inl hnot)] at hat
        exact hnot (Option.some.inj hat ▸ hm)
      obtain ⟨entries, rfl⟩ := isMapping_iff.1 hv
      refine ⟨path, key, [], entries, rfl, hover, ?_⟩
      simpa [atPath_append, hover, atPath, Value.get] using hnone

/-! ## Merging twice -/

/-- A merged mapping has every key of the base. -/
theorem get_base_eq_none (hb : base.WellFormed) (ho : overlay.WellFormed) {key : Key κ}
    (hmapping : (deepMerge base overlay).IsMapping)
    (hget : (deepMerge base overlay).get key = none) : base.get key = none := by
  by_cases hbase : base.IsMapping
  · have hoverlay : overlay.IsMapping := by
      by_contra hnot
      rw [deepMerge_eq_overlay (.inr hnot)] at hmapping
      exact hnot hmapping
    rw [get_deepMerge hb ho hbase hoverlay] at hget
    exact mergeOption_eq_none hget
  · exact get_of_not_isMapping hbase key

theorem atPath_base_eq_none (hb : base.WellFormed) (ho : overlay.WellFormed)
    (h : LacksKey path (deepMerge base overlay)) : atPath path base = none := by
  obtain ⟨before, key, after, entries, rfl, hat, hget⟩ := h
  cases hin : atPath before base with
  | none => rw [atPath_append, hin, Option.bind_none]
  | some w =>
      suffices hkey : w.get key = none by
        rw [atPath_append, hin]
        simp [atPath, hkey]
      cases hover : atPath before overlay with
      | none =>
          -- The mapping is one of the base.
          rcases lacksKey_or_blocked hover with hlacks | hblocked
          · rw [atPath_deepMerge_of_lacksKey hb ho hlacks, hin] at hat
            obtain rfl := Option.some.inj hat
            exact hget
          · rw [atPath_deepMerge_of_blocked hb ho hblocked] at hat
            exact absurd hat (by simp)
      | some v =>
          rw [atPath_deepMerge hb ho hover, hin] at hat
          have hmerged : deepMerge w v = .mapping entries := Option.some.inj hat
          apply get_base_eq_none (hb.atPath hin) (ho.atPath hover)
          · rw [hmerged]
            trivial
          · rw [hmerged]
            exact hget

/-- **The base is merged into a value once**: a second time only reorders keys. -/
theorem sameUpToOrder_deepMerge (hb : base.WellFormed) (ho : overlay.WellFormed) :
    SameUpToOrder (deepMerge base (deepMerge base overlay)) (deepMerge base overlay) := by
  intro path
  have hm := wellFormed_deepMerge hb ho
  cases hat : atPath path (deepMerge base overlay) with
  | none =>
      right
      rcases lacksKey_or_blocked hat with hlacks | hblocked
      · rw [atPath_deepMerge_of_lacksKey hb hm hlacks]
        exact atPath_base_eq_none hb ho hlacks
      · exact atPath_deepMerge_of_blocked hb hm hblocked
  | some v =>
      rw [atPath_deepMerge hb hm hat]
      cases hin : atPath path base with
      | none => exact .inr rfl
      | some w =>
          by_cases hboth : w.IsMapping ∧ v.IsMapping
          · left
            obtain ⟨entries, rfl⟩ := isMapping_iff.1 hboth.2
            obtain ⟨entries', hmerged⟩ := isMapping_iff.1 (isMapping_deepMerge hboth.1 hboth.2)
            exact ⟨entries', entries, congrArg some hmerged, rfl⟩
          · right
            exact congrArg some (deepMerge_eq_overlay (not_and_or.1 hboth))

/-! ## The sections under `listen` -/

/-- The three cases of `normalizeSection`. -/
theorem normalizeSection_cases (entries : List (Key κ × Value κ)) :
    (get addressKey entries = none ∧ normalizeSection entries = entries) ∨
    (∃ addresses, get addressesKey entries = some addresses ∧
      normalizeSection entries = swapRemove addressKey entries) ∨
    (∃ address, get addressKey entries = some address ∧ get addressesKey entries = none ∧
      normalizeSection entries =
        insert addressesKey (addressList address) (swapRemove addressKey entries)) := by
  cases haddress : get addressKey entries with
  | none => exact .inl ⟨rfl, by simp [normalizeSection, haddress]⟩
  | some address =>
      right
      cases haddresses : get addressesKey entries with
      | none => exact .inr ⟨address, rfl, rfl, by simp [normalizeSection, haddress, haddresses]⟩
      | some addresses =>
          exact .inl ⟨addresses, rfl, by simp [normalizeSection, haddress, haddresses]⟩

omit [DecidableEq κ] in
theorem addressKey_ne_addressesKey : (addressKey : Key κ) ≠ addressesKey := by
  simp [addressKey, addressesKey]

section Section

variable {entries : List (Key κ × Value κ)} (h : Distinct entries)
include h

theorem get_address_normalizeSection : get addressKey (normalizeSection entries) = none := by
  have hremoved : get addressKey (swapRemove addressKey entries) = none := by
    rw [get_swapRemove h, if_pos rfl]
  rcases normalizeSection_cases entries with ⟨hnone, hsame⟩ | ⟨_, _, hboth⟩ | ⟨_, _, _, hnew⟩
  · rw [hsame, hnone]
  · rw [hboth, hremoved]
  · rw [hnew, get_insert, if_neg addressKey_ne_addressesKey, hremoved]

theorem get_addresses_normalizeSection : get addressesKey (normalizeSection entries) =
    (get addressesKey entries).or ((get addressKey entries).map addressList) := by
  rcases normalizeSection_cases entries with
    ⟨hnone, hsame⟩ | ⟨addresses, hsome, hboth⟩ | ⟨address, hsome, hnone, hnew⟩
  · rw [hsame, hnone, Option.map_none, Option.or_none]
  · rw [hboth, get_swapRemove h, if_neg addressKey_ne_addressesKey.symm, hsome, Option.some_or]
  · rw [hnew, get_insert, if_pos rfl, hsome, hnone, Option.map_some, Option.none_or]

theorem get_normalizeSection_of_ne {k : Key κ} (haddress : k ≠ addressKey)
    (haddresses : k ≠ addressesKey) : get k (normalizeSection entries) = get k entries := by
  have hstays : get k (swapRemove addressKey entries) = get k entries := by
    rw [get_swapRemove h, if_neg haddress]
  rcases normalizeSection_cases entries with ⟨_, hsame⟩ | ⟨_, _, hboth⟩ | ⟨_, _, _, hnew⟩
  · rw [hsame]
  · rw [hboth, hstays]
  · rw [hnew, get_insert, if_neg haddresses, hstays]

theorem distinct_normalizeSection : Distinct (normalizeSection entries) := by
  rcases normalizeSection_cases entries with ⟨_, hsame⟩ | ⟨_, _, hboth⟩ | ⟨_, _, _, hnew⟩
  · rw [hsame]
    exact h
  · rw [hboth]
    exact h.swapRemove
  · rw [hnew]
    exact h.swapRemove.insert _

end Section

theorem normalizeListener_of_not_isMapping {v : Value κ} (h : ¬ v.IsMapping) :
    normalizeListener v = v := by
  cases v with
  | mapping entries => exact absurd trivial h
  | _ => rfl

theorem normalizeListen_of_not_isMapping {v : Value κ} (h : ¬ v.IsMapping) :
    normalizeListen v = v := by
  cases v with
  | mapping entries => exact absurd trivial h
  | _ => rfl

theorem normalizeListenAddresses_of_not_isMapping {v : Value κ} (h : ¬ v.IsMapping) :
    normalizeListenAddresses v = v := by
  cases v with
  | mapping entries => exact absurd trivial h
  | _ => rfl

omit [DecidableEq κ] in
theorem wellFormed_addressList {v : Value κ} (h : v.WellFormed) : (addressList v).WellFormed := by
  cases v with
  | sequence items => exact h
  | _ =>
      refine .sequence ?_
      intro item hitem
      rw [List.mem_singleton.1 hitem]
      exact h

theorem wellFormed_normalizeListener {v : Value κ} (h : v.WellFormed) :
    (normalizeListener v).WellFormed := by
  by_cases hv : v.IsMapping
  · obtain ⟨entries, rfl⟩ := isMapping_iff.1 hv
    refine wellFormed_mapping_iff.2 ⟨distinct_normalizeSection h.distinct, ?_⟩
    intro k w hget
    by_cases haddress : k = addressKey
    · rw [haddress, get_address_normalizeSection h.distinct] at hget
      exact absurd hget (by simp)
    · by_cases haddresses : k = addressesKey
      · rw [haddresses, get_addresses_normalizeSection h.distinct, Option.or_eq_some_iff] at hget
        rcases hget with hget | ⟨-, hget⟩
        · exact h.get hget
        · obtain ⟨address, haddr, rfl⟩ := Option.map_eq_some_iff.1 hget
          exact wellFormed_addressList (h.get haddr)
      · rw [get_normalizeSection_of_ne h.distinct haddress haddresses] at hget
        exact h.get hget
  · rw [normalizeListener_of_not_isMapping hv]
    exact h

theorem get_normalizeListen {v : Value κ} (h : v.WellFormed) (key : Key κ) :
    (normalizeListen v).get key = (v.get key).map normalizeListener := by
  by_cases hv : v.IsMapping
  · obtain ⟨listen, rfl⟩ := isMapping_iff.1 hv
    show get key (modifyEach normalizeListener (listen.map Prod.fst) listen) =
      (get key listen).map normalizeListener
    rw [get_modifyEach _ h.distinct]
    split
    · rfl
    · rename_i hnot
      rw [get_eq_none_iff.2 hnot]
      rfl
  · rw [normalizeListen_of_not_isMapping hv, get_of_not_isMapping hv, Option.map_none]

theorem wellFormed_normalizeListen {v : Value κ} (h : v.WellFormed) :
    (normalizeListen v).WellFormed := by
  by_cases hv : v.IsMapping
  · obtain ⟨listen, rfl⟩ := isMapping_iff.1 hv
    refine wellFormed_mapping_iff.2 ⟨h.distinct.modifyEach _ _, ?_⟩
    intro key w hget
    have hmap := (get_normalizeListen h key).symm.trans hget
    obtain ⟨w', hold, rfl⟩ := Option.map_eq_some_iff.1 hmap
    exact wellFormed_normalizeListener (h.get hold)
  · rw [normalizeListen_of_not_isMapping hv]
    exact h

theorem get_normalizeListenAddresses (v : Value κ) (key : Key κ) :
    (normalizeListenAddresses v).get key =
      if key = listenKey then (v.get key).map normalizeListen else v.get key := by
  cases v with
  | mapping root => exact get_modify normalizeListen
  | _ => simp [normalizeListenAddresses, Value.get]

theorem wellFormed_normalizeListenAddresses {v : Value κ} (h : v.WellFormed) :
    (normalizeListenAddresses v).WellFormed := by
  by_cases hv : v.IsMapping
  · obtain ⟨root, rfl⟩ := isMapping_iff.1 hv
    refine wellFormed_mapping_iff.2 ⟨h.distinct.modify _, ?_⟩
    intro key w hget
    have hmap := (get_normalizeListenAddresses (.mapping root) key).symm.trans hget
    split at hmap
    · obtain ⟨w', hold, rfl⟩ := Option.map_eq_some_iff.1 hmap
      exact wellFormed_normalizeListen (h.get hold)
    · exact h.get hmap
  · rw [normalizeListenAddresses_of_not_isMapping hv]
    exact h

/-- **Each section under `listen` is normalised.** -/
theorem atPath_normalizeListenAddresses {v : Value κ} (h : v.WellFormed) (key : Key κ) :
    atPath [listenKey, key] (normalizeListenAddresses v) =
      (atPath [listenKey, key] v).map normalizeListener := by
  simp only [atPath, get_normalizeListenAddresses, if_true]
  cases hlisten : v.get listenKey with
  | none => rfl
  | some listen =>
      simp only [Option.map_some, Option.bind_some, get_normalizeListen (h.get hlisten)]
      cases listen.get key <;> rfl

theorem atPath_section (v : Value κ) (key key' : Key κ) :
    atPath [listenKey, key, key'] v = (atPath [listenKey, key] v).bind (Value.get key') := by
  have hsplit : [listenKey, key, key'] = [listenKey, key] ++ [key'] := rfl
  rw [hsplit, atPath_append]
  congr 1
  funext w
  exact Option.bind_fun_some _

theorem atPath_address_normalized {v : Value κ} (h : v.WellFormed) (key : Key κ) :
    atPath [listenKey, key, addressKey] (normalizeListenAddresses v) = none := by
  rw [atPath_section, atPath_normalizeListenAddresses h]
  cases hat : atPath [listenKey, key] v with
  | none => rfl
  | some w =>
      cases w with
      | mapping entries => exact get_address_normalizeSection (h.atPath hat).distinct
      | _ => rfl

theorem atPath_addresses_normalized {v : Value κ} (h : v.WellFormed) (key : Key κ) :
    atPath [listenKey, key, addressesKey] (normalizeListenAddresses v) =
      (atPath [listenKey, key, addressesKey] v).or
        ((atPath [listenKey, key, addressKey] v).map addressList) := by
  rw [atPath_section, atPath_section, atPath_section, atPath_normalizeListenAddresses h]
  cases hat : atPath [listenKey, key] v with
  | none => rfl
  | some w =>
      cases w with
      | mapping entries => exact get_addresses_normalizeSection (h.atPath hat).distinct
      | _ => rfl

/-- Without legacy addresses there is nothing to do. -/
theorem normalizeListenAddresses_eq_self {v : Value κ}
    (h : ∀ key, atPath [listenKey, key, addressKey] v = none) :
    normalizeListenAddresses v = v := by
  by_cases hv : v.IsMapping
  · obtain ⟨root, rfl⟩ := isMapping_iff.1 hv
    refine congrArg Value.mapping (modify_eq_self ?_)
    intro listen hlisten
    cases listen with
    | mapping sections =>
        refine congrArg Value.mapping (modifyEach_eq_self ?_)
        intro key _ w hw
        cases w with
        | mapping entries =>
            have hnone : get addressKey entries = none := by
              have hat := h key
              simpa [atPath, Value.get, hlisten, hw] using hat
            simp [normalizeListener, normalizeSection, hnone]
        | _ => rfl
    | _ => rfl
  · exact normalizeListenAddresses_of_not_isMapping hv

/-! ## The example -/

omit [DecidableEq κ] in
theorem wellFormed_record_iff {fields : List (String × Value κ)} :
    (record fields).WellFormed ↔
      (fields.map Prod.fst).Nodup ∧ ∀ field ∈ fields, field.2.WellFormed := by
  have hkeys : (fields.map fun field => ((Key.string field.1 : Key κ), field.2)).map Prod.fst =
      (fields.map Prod.fst).map Key.string := by
    simp
  have hnodup : Distinct (fields.map fun field => ((Key.string field.1 : Key κ), field.2)) ↔
      (fields.map Prod.fst).Nodup := by
    rw [Distinct, hkeys]
    exact List.nodup_map_iff fun _ _ heq => Key.string.inj heq
  constructor
  · intro h
    cases h with
    | mapping hdistinct hvalues =>
        refine ⟨hnodup.1 hdistinct, ?_⟩
        intro field hfield
        exact hvalues _ (List.mem_map_of_mem hfield)
  · intro h
    refine .mapping (hnodup.2 h.1) ?_
    intro entry hentry
    obtain ⟨field, hfield, rfl⟩ := List.mem_map.1 hentry
    exact h.2 field hfield

omit [DecidableEq κ] in
theorem wellFormed_exampleConfig : (exampleConfig : Value κ).WellFormed := by
  simp [exampleConfig, wellFormed_record_iff, wellFormed_sequence_iff, WellFormed.bool,
    WellFormed.number, WellFormed.string]

theorem atPath_listen_exampleConfig (key : Key κ) :
    atPath [listenKey, key] exampleConfig = if key = .string "dns" then
      some (record [("enabled", .bool true), ("port", .number (.posInt 53)),
        ("addresses", .sequence [.string "0.0.0.0", .string "::"])]) else none := by
  simp [exampleConfig, record, atPath, Value.get, IndexMap.get, listenKey, eq_comm]

theorem atPath_address_exampleConfig (key : Key κ) :
    atPath [listenKey, key, addressKey] exampleConfig = none := by
  rw [atPath_section, atPath_listen_exampleConfig]
  split
  · simp [record, Value.get, IndexMap.get, addressKey]
  · rfl

theorem not_isMapping_addresses_exampleConfig {key : Key κ} {v : Value κ}
    (h : atPath [listenKey, key, addressesKey] exampleConfig = some v) : ¬ v.IsMapping := by
  rw [atPath_section, atPath_listen_exampleConfig] at h
  split at h
  · simp only [record, Value.get, IndexMap.get, addressesKey, Option.bind_some, List.map_cons,
      List.map_nil] at h
    obtain rfl : Value.sequence [.string "0.0.0.0", .string "::"] = v := by simpa using h
    exact id
  · exact absurd h (by simp)

theorem normalizeListenAddresses_exampleConfig :
    normalizeListenAddresses (exampleConfig : Value κ) = exampleConfig :=
  normalizeListenAddresses_eq_self atPath_address_exampleConfig

/-! ## The merged configuration -/

section Merged

variable {user : Value κ} (hu : user.WellFormed)
include hu

/-- No section of the result has the legacy key. -/
theorem atPath_address_mergeValues (key : Key κ) :
    atPath [listenKey, key, addressKey] (mergeValues exampleConfig user) = none := by
  rw [mergeValues, normalizeListenAddresses_exampleConfig]
  exact atPath_deepMerge_eq_none wellFormed_exampleConfig (wellFormed_normalizeListenAddresses hu)
    (atPath_address_exampleConfig key) (atPath_address_normalized hu key)

/-- The addresses of a section of the result: those of the user, else those of the example. -/
theorem atPath_addresses_mergeValues {key : Key κ} {entries : List (Key κ × Value κ)}
    (h : atPath [listenKey, key] (mergeValues exampleConfig user) = some (.mapping entries)) :
    atPath [listenKey, key, addressesKey] (mergeValues exampleConfig user) =
      ((atPath [listenKey, key, addressesKey] user).or
        ((atPath [listenKey, key, addressKey] user).map addressList)).or
          (atPath [listenKey, key, addressesKey] exampleConfig) := by
  have he : (exampleConfig : Value κ).WellFormed := wellFormed_exampleConfig
  have hn := wellFormed_normalizeListenAddresses hu
  rw [mergeValues, normalizeListenAddresses_exampleConfig] at h ⊢
  rw [← atPath_addresses_normalized hu]
  cases haddresses : atPath [listenKey, key, addressesKey] (normalizeListenAddresses user) with
  | some v =>
      rw [(pathLaw he hn _).overlay_wins v haddresses, Option.some_or]
      right
      intro ⟨w, hw, hmapping⟩
      exact not_isMapping_addresses_exampleConfig hw hmapping
  | none =>
      rw [Option.none_or]
      exact atPath_deepMerge_of_lacksKey he hn (lacksKey_of_isMapping he hn h trivial haddresses)

/-- **Merging the result again only reorders keys.** -/
theorem sameUpToOrder_mergeValues :
    SameUpToOrder (mergeValues exampleConfig (mergeValues exampleConfig user))
      (mergeValues exampleConfig user) := by
  have hagain : mergeValues exampleConfig (mergeValues exampleConfig user) =
      deepMerge exampleConfig (mergeValues exampleConfig user) := by
    rw [mergeValues, normalizeListenAddresses_exampleConfig,
      normalizeListenAddresses_eq_self (atPath_address_mergeValues hu)]
  rw [hagain, mergeValues, normalizeListenAddresses_exampleConfig]
  exact sameUpToOrder_deepMerge wellFormed_exampleConfig (wellFormed_normalizeListenAddresses hu)

end Merged

/-- Printing the value and reading the text gives the value back. -/
def YamlLibrary.RoundTrips (lib : YamlLibrary κ) (v : Value κ) : Prop :=
  ∃ text, lib.toText v = some text ∧ lib.fromStr text = some v

theorem mergeWithExample_eq_ok {lib : YamlLibrary κ} {text : String} {user : Value κ}
    (hexample : lib.fromStr exampleConfigText = some exampleConfig)
    (huser : lib.fromStr text = some user)
    (hround : lib.RoundTrips (mergeValues exampleConfig user)) :
    ∃ text', mergeWithExample lib text = .ok text' ∧
      lib.fromStr text' = some (mergeValues exampleConfig user) := by
  obtain ⟨text', hprint, hread⟩ := hround
  refine ⟨text', ?_, hread⟩
  unfold mergeWithExample
  rw [hexample, huser]
  show (lib.toText (mergeValues exampleConfig user)).elim _ _ = _
  rw [hprint]
  rfl

/-- The addresses of a listener's section after a merge: the user's; else the user's legacy address,
which is left alone if it is a list and becomes a list of one otherwise; else the example's. -/
structure ListenerAddresses (user : Value κ) (key : Key κ) (addresses : Option (Value κ)) :
    Prop where
  own : ∀ value, atPath [listenKey, key, addressesKey] user = some value → addresses = some value
  legacyList : atPath [listenKey, key, addressesKey] user = none →
    ∀ items, atPath [listenKey, key, addressKey] user = some (.sequence items) →
      addresses = some (.sequence items)
  legacyOther : atPath [listenKey, key, addressesKey] user = none →
    ∀ value, atPath [listenKey, key, addressKey] user = some value →
      (∀ items, value ≠ .sequence items) → addresses = some (.sequence [value])
  shipped : atPath [listenKey, key, addressesKey] user = none →
    atPath [listenKey, key, addressKey] user = none →
      addresses = atPath [listenKey, key, addressesKey] exampleConfig

omit [DecidableEq κ] in
theorem addressList_of_not_sequence {value : Value κ} (h : ∀ items, value ≠ .sequence items) :
    addressList value = .sequence [value] := by
  cases value with
  | sequence items => exact absurd rfl (h items)
  | _ => rfl

theorem listenerAddresses_or (user : Value κ) (key : Key κ) :
    ListenerAddresses user key (((atPath [listenKey, key, addressesKey] user).or
      ((atPath [listenKey, key, addressKey] user).map addressList)).or
        (atPath [listenKey, key, addressesKey] exampleConfig)) where
  own value h := by rw [h, Option.some_or, Option.some_or]
  legacyList hnone items h := by
    rw [hnone, h, Option.none_or, Option.map_some, Option.some_or, addressList]
  legacyOther hnone value h hother := by
    rw [hnone, h, Option.none_or, Option.map_some, Option.some_or,
      addressList_of_not_sequence hother]
  shipped hnone hlegacy := by
    rw [hnone, hlegacy, Option.none_or, Option.map_none, Option.none_or]

/-- **The laws of merging.** A lookup in a merged value follows `PathLaw`. Merging the merged text
again gives the same configuration up to the order of keys, and in every section under `listen`
there is no legacy address, and the addresses are as `ListenerAddresses` says. -/
theorem mergeWithExample_laws (lib : YamlLibrary κ) (userConfig : String) (user : Value κ)
    (hexample : lib.fromStr exampleConfigText = some exampleConfig)
    (huser : lib.fromStr userConfig = some user) (hu : user.WellFormed)
    (hround : lib.RoundTrips (mergeValues exampleConfig user))
    (hround' : lib.RoundTrips (mergeValues exampleConfig (mergeValues exampleConfig user))) :
    (∀ base overlay : Value κ, base.WellFormed → overlay.WellFormed →
      ∀ path, PathLaw base overlay path) ∧
    ∃ text merged, mergeWithExample lib userConfig = .ok text ∧ lib.fromStr text = some merged ∧
      (∃ text' merged', mergeWithExample lib text = .ok text' ∧ lib.fromStr text' = some merged' ∧
        SameUpToOrder merged' merged) ∧
      ∀ key entries, atPath [listenKey, key] merged = some (.mapping entries) →
        get addressKey entries = none ∧
          ListenerAddresses user key (get addressesKey entries) := by
  refine ⟨fun base overlay hb ho path => pathLaw hb ho path, ?_⟩
  obtain ⟨text, hmerge, hread⟩ := mergeWithExample_eq_ok hexample huser hround
  obtain ⟨text', hmerge', hread'⟩ := mergeWithExample_eq_ok hexample hread hround'
  refine ⟨text, mergeValues exampleConfig user, hmerge, hread,
    ⟨text', _, hmerge', hread', sameUpToOrder_mergeValues hu⟩, ?_⟩
  intro key entries hentries
  have hget : ∀ key', atPath [listenKey, key, key'] (mergeValues exampleConfig user) =
      get key' entries := by
    intro key'
    rw [atPath_section, hentries]
    rfl
  rw [← hget addressKey, ← hget addressesKey, atPath_addresses_mergeValues hu hentries]
  exact ⟨atPath_address_mergeValues hu key, listenerAddresses_or user key⟩

/-- A configuration file with a legacy address. -/
def legacyText : String := "listen:\n  dns:\n    address: 127.0.0.1\n"

def legacyConfig : Value Empty :=
  record [("listen", record [("dns", record [("address", .string "127.0.0.1")])])]

/-- Its merge with the example. The database section has taken the place of `listen`, which was
removed and inserted again. -/
def mergedText : String :=
  "database:\n  url: sqlite://db/dns-filter.db\nblocklists: []\nallowlists: []\n" ++
  "filtering:\n  sinkhole_ipv4: 0.0.0.0\n  sinkhole_ipv6: '::'\n  any_query_policy: notimp\n" ++
  "resolvers:\n  strategy: round_robin\n  cache:\n    enabled: true\n" ++
  "    max_entries: 10000\n    min_ttl: 60s\n    max_ttl: 1h\n" ++
  "  bootstrap_resolvers:\n  - 194.242.2.2\n  - 2a07:e340::2\n" ++
  "  servers:\n  - enabled: true\n    protocol: doh\n" ++
  "    address: https://dns.mullvad.net/dns-query\n  zones: []\n  zone_discovery: []\n" ++
  "plugins: []\nlogging:\n  stdout:\n    enabled: true\n    level: info\n" ++
  "control:\n  socket_path: run/dns-filter.sock\n" ++
  "listen:\n  dns:\n    enabled: true\n    port: 53\n    addresses:\n    - 127.0.0.1\n"

/-- The text after a second merge. -/
def mergedAgainText : String :=
  "control:\n  socket_path: run/dns-filter.sock\n" ++
  "database:\n  url: sqlite://db/dns-filter.db\nblocklists: []\nallowlists: []\n" ++
  "filtering:\n  sinkhole_ipv6: '::'\n  sinkhole_ipv4: 0.0.0.0\n  any_query_policy: notimp\n" ++
  "resolvers:\n  zones: []\n  strategy: round_robin\n  cache:\n    min_ttl: 60s\n" ++
  "    enabled: true\n    max_entries: 10000\n    max_ttl: 1h\n" ++
  "  bootstrap_resolvers:\n  - 194.242.2.2\n  - 2a07:e340::2\n" ++
  "  servers:\n  - enabled: true\n    protocol: doh\n" ++
  "    address: https://dns.mullvad.net/dns-query\n  zone_discovery: []\n" ++
  "plugins: []\nlogging:\n  stdout:\n    enabled: true\n    level: info\n" ++
  "listen:\n  dns:\n    port: 53\n    enabled: true\n    addresses:\n    - 127.0.0.1\n"

/-- What the library reads and prints of these files. -/
def legacyLibrary : YamlLibrary Empty :=
  let merged := mergeValues exampleConfig legacyConfig
  let files := [(exampleConfigText, exampleConfig), (legacyText, legacyConfig),
    (mergedText, merged), (mergedAgainText, mergeValues exampleConfig merged)]
  { fromStr := fun text => (files.find? fun file => file.1 = text).map Prod.snd
    toText := fun value => (files.find? fun file => file.2 = value).map Prod.fst }

/-- The legacy address has become a list of one. -/
theorem mergeWithExample_laws_legacyConfig :
    ∃ text merged entries, mergeWithExample legacyLibrary legacyText = .ok text ∧
      legacyLibrary.fromStr text = some merged ∧
      (∃ text' merged', mergeWithExample legacyLibrary text = .ok text' ∧
        legacyLibrary.fromStr text' = some merged' ∧ SameUpToOrder merged' merged) ∧
      atPath [listenKey, .string "dns"] merged = some (.mapping entries) ∧
      get addressKey entries = none ∧
      get addressesKey entries = some (.sequence [.string "127.0.0.1"]) := by
  obtain ⟨text, merged, hmerge, hread, hagain, hsections⟩ :=
    (mergeWithExample_laws legacyLibrary legacyText legacyConfig (by decide +kernel)
      (by decide +kernel)
      (by simp [legacyConfig, wellFormed_record_iff, WellFormed.string])
      ⟨mergedText, by decide +kernel, by decide +kernel⟩
      ⟨mergedAgainText, by decide +kernel, by decide +kernel⟩).2
  have htext : mergeWithExample legacyLibrary legacyText = .ok mergedText := by decide +kernel
  obtain rfl : text = mergedText := Except.ok.inj (hmerge.symm.trans htext)
  have hmerged : legacyLibrary.fromStr mergedText =
      some (mergeValues exampleConfig legacyConfig) := by decide +kernel
  obtain rfl := Option.some.inj (hread.symm.trans hmerged)
  have hdns : atPath [listenKey, .string "dns"] (mergeValues exampleConfig legacyConfig) =
      some (.mapping [(.string "enabled", .bool true), (.string "port", .number (.posInt 53)),
        (.string "addresses", .sequence [.string "127.0.0.1"])]) := by decide +kernel
  obtain ⟨hgone, haddresses⟩ := hsections _ _ hdns
  exact ⟨_, _, _, hmerge, hread, hagain, hdns, hgone,
    haddresses.legacyOther (by decide +kernel) _ (by decide +kernel) (by simp)⟩

end DnsFilter.Merger
