import DnsFilter.Discovery
import DnsFilter.ZoneNames
import DnsFilter.ZoneProof

/-!
# What discovery may import

A discovery index is a remote document. Two things keep it in bounds: a zone that the configuration
defines itself is not imported, and zones are loaded over HTTP. Both are checks on text, and both
have gaps.

* The check for configured zones strips one trailing dot (`normalizeDiscoveryZone`), entries are
  named by stripping all of them (`normalizeZone`). `manualZones_first_iff` — when no imported zone
  has the name of a configured one.
* A reference is only looked at for `http://` and `https://`; `parse_zone_source` reads what is
  neither as a file. `sources_areUrls_iff` — when only URLs are loaded.
-/

namespace DnsFilter

open Text WebUrl

/-! ## The two normalisers -/

/-- A zone's name without its trailing dots. -/
def zoneBody (name : String) : String := toAsciiLowercase (trimEndMatches '.' (trim name))

/-- The number of trailing dots beyond the first. -/
def extraDots (name : String) : Nat := ((trim name).toList.rtakeWhile (· == '.')).length - 1

theorem getLast?_zoneBody (name : String) : ∀ c ∈ (zoneBody name).toList.getLast?, c ≠ '.' := by
  intro c hc
  rw [zoneBody, toList_toAsciiLowercase, List.getLast?_map] at hc
  obtain ⟨d, hd, rfl⟩ := Option.map_eq_some_iff.1 hc
  intro hdot
  exact getLast?_trimEndMatches '.' (trim name) d hd (eq_of_toLower_eq (by decide) hdot)

/-- A name is its body and its trailing dots. -/
theorem toList_lower_trim (name : String) :
    (toAsciiLowercase (trim name)).toList = (zoneBody name).toList ++
      List.replicate ((trim name).toList.rtakeWhile (· == '.')).length '.' := by
  have hdots : ((trim name).toList.rtakeWhile (· == '.')).map Char.toLower =
      List.replicate ((trim name).toList.rtakeWhile (· == '.')).length '.' := by
    rw [List.eq_replicate_iff]
    refine ⟨List.length_map _, ?_⟩
    intro c hc
    obtain ⟨d, hd, rfl⟩ := List.mem_map.1 hc
    have hdot : d = '.' := by simpa using List.mem_rtakeWhile_imp hd
    rw [hdot]
    rfl
  rw [zoneBody, toList_toAsciiLowercase, toList_toAsciiLowercase, trimEndMatches, toList_trimEndBy,
    ← hdots, ← List.map_append, List.rdropWhile_append_rtakeWhile]

/-- `normalize_discovery_zone` leaves the dots beyond the first. -/
theorem toList_normalizeDiscoveryZone (name : String) :
    (normalizeDiscoveryZone name).toList =
      (zoneBody name).toList ++ List.replicate (extraDots name) '.' := by
  have hname := toList_lower_trim name
  rw [normalizeDiscoveryZone]
  generalize toAsciiLowercase (trim name) = lowered at hname ⊢
  rw [extraDots]
  cases hdots : ((trim name).toList.rtakeWhile (· == '.')).length with
  | zero =>
      rw [hdots, List.replicate_zero, List.append_nil] at hname
      have hnone : stripSuffix "." lowered = none := by
        cases hstrip : stripSuffix "." lowered with
        | none => rfl
        | some rest =>
            have hlast : lowered.toList.getLast? = some '.' := by
              rw [stripSuffix_eq_some.1 hstrip, String.toList_append]
              exact List.getLast?_concat
            rw [hname] at hlast
            exact absurd rfl (getLast?_zoneBody name '.' hlast)
      rw [hnone, Option.getD_none, hname]
      simp
  | succ dots =>
      rw [hdots, List.replicate_succ', ← List.append_assoc] at hname
      have hstrip : stripSuffix "." lowered =
          some (.ofList ((zoneBody name).toList ++ List.replicate dots '.')) := by
        rw [stripSuffix_eq_some]
        apply String.toList_inj.1
        rw [hname, String.toList_append, String.toList_ofList]
        rfl
      rw [hstrip, Option.getD_some, String.toList_ofList, Nat.add_sub_cancel]

/-- Two names are the same for the discovery check if they have the same body and as many dots
beyond the first. -/
theorem normalizeDiscoveryZone_eq_iff {a b : String} :
    normalizeDiscoveryZone a = normalizeDiscoveryZone b ↔
      zoneBody a = zoneBody b ∧ extraDots a = extraDots b := by
  constructor
  · intro h
    have hbody (name : String) :
        trimEndMatches '.' (normalizeDiscoveryZone name) = zoneBody name := by
      have happend : normalizeDiscoveryZone name =
          zoneBody name ++ .ofList (List.replicate (extraDots name) '.') := by
        apply String.toList_inj.1
        rw [toList_normalizeDiscoveryZone, String.toList_append, String.toList_ofList]
      rw [happend, trimEndMatches_append_of_forall, trimEndMatches_eq_self (getLast?_zoneBody name)]
      intro c hc
      rw [String.toList_ofList] at hc
      exact (List.mem_replicate.1 hc).2
    have hsame : zoneBody a = zoneBody b := by rw [← hbody a, h, hbody b]
    refine ⟨hsame, ?_⟩
    have hlength := congrArg List.length (congrArg String.toList h)
    rw [toList_normalizeDiscoveryZone, toList_normalizeDiscoveryZone, List.length_append,
      List.length_append, List.length_replicate, List.length_replicate, hsame] at hlength
    omega
  · intro h
    apply String.toList_inj.1
    rw [toList_normalizeDiscoveryZone, toList_normalizeDiscoveryZone, h.1, h.2]

/-- An entry is named by the body of its zone's name; only a single dot is the root. -/
theorem normalizeZone_eq_zoneBody (name : String) :
    normalizeZone name = if zoneBody name = "" then if trim name = "." then some "." else none
      else some (zoneBody name) := by
  rw [normalizeZone, zoneBody]
  simp only [toAsciiLowercase_eq_empty]

/-- Names of zones have the same body if their entries have the same name. -/
theorem zoneBody_eq_iff {a b : String} (ha : (normalizeZone a).isSome)
    (hb : (normalizeZone b).isSome) :
    zoneBody a = zoneBody b ↔ normalizeZone a = normalizeZone b := by
  have hroot (name : String) : zoneBody name ≠ "." := by
    intro hdot
    exact getLast?_zoneBody name '.' (by rw [hdot]; rfl) rfl
  have hempty {name : String} (h : (normalizeZone name).isSome) (hbody : zoneBody name = "") :
      normalizeZone name = some "." := by
    rw [normalizeZone_eq_zoneBody, if_pos hbody] at h ⊢
    by_cases htrim : trim name = "."
    · rw [if_pos htrim]
    · rw [if_neg htrim] at h
      exact absurd h (by simp)
  have hnamed {name : String} (hbody : zoneBody name ≠ "") :
      normalizeZone name = some (zoneBody name) := by
    rw [normalizeZone_eq_zoneBody, if_neg hbody]
  by_cases hbodyA : zoneBody a = ""
  · by_cases hbodyB : zoneBody b = ""
    · rw [hempty ha hbodyA, hempty hb hbodyB, hbodyA, hbodyB]
      exact iff_of_true rfl rfl
    · rw [hempty ha hbodyA, hnamed hbodyB, hbodyA]
      refine iff_of_false (Ne.symm hbodyB) ?_
      intro h
      exact hroot b (Option.some.inj h).symm
  · by_cases hbodyB : zoneBody b = ""
    · rw [hempty hb hbodyB, hnamed hbodyA, hbodyB]
      refine iff_of_false hbodyA ?_
      intro h
      exact hroot a (Option.some.inj h)
    · rw [hnamed hbodyA, hnamed hbodyB, Option.some_inj]

/-- The discovery check recognises a configured zone by the name of its entry and by its number of
dots beyond the first. -/
theorem isConfigured_iff {item : ZoneIndexEntry} {existingZoneNames : List String}
    (hitem : (normalizeZone item.name).isSome)
    (hexisting : ∀ name ∈ existingZoneNames, (normalizeZone name).isSome) :
    item.isConfigured existingZoneNames = true ↔
      ∃ existing ∈ existingZoneNames, normalizeZone existing = normalizeZone item.name ∧
        extraDots existing = extraDots item.name := by
  rw [ZoneIndexEntry.isConfigured, List.any_eq_true]
  refine exists_congr fun existing => and_congr_right fun hmem => ?_
  rw [beq_iff_eq, normalizeDiscoveryZone_eq_iff, zoneBody_eq_iff (hexisting existing hmem) hitem]

/-! ## Loading the zones of an index -/

section Loop

variable {υ : Type} {urls : UrlApi υ} {client : IndexClient} {loaders : ZoneLoaders}
  {discovery : ZoneDiscoveryConfig} {existingZoneNames : List String} {checkInterval : Option Nat}
  {baseUrl : υ} {auth : Option ZoneSourceAuth}

/-- Is the item to be imported? -/
def ZoneDiscoveryConfig.Imports (discovery : ZoneDiscoveryConfig) (existingZoneNames : List String)
    (item : ZoneIndexEntry) : Prop :=
  discovery.allows item = true ∧ item.isConfigured existingZoneNames = false

instance (item : ZoneIndexEntry) : Decidable (discovery.Imports existingZoneNames item) :=
  inferInstanceAs (Decidable (_ ∧ _))

/-- The item's reference can be resolved, what is found there is a document for its zone, and the
zone has a name. -/
def ZoneIndexEntry.Loads (urls : UrlApi υ) (loaders : ZoneLoaders) (baseUrl : υ)
    (auth : Option ZoneSourceAuth) (item : ZoneIndexEntry) : Prop :=
  ∃ source parsed, resolveHref urls baseUrl item.href = .ok source ∧
    parseZoneSource source = .ok parsed ∧ Succeeds (loaders.loadSnapshot item.name parsed auth) ∧
    (normalizeZone item.name).isSome

theorem succeeds_importZone {item : ZoneIndexEntry} {source : String} :
    Succeeds (importZone loaders discovery checkInterval auth item source) ↔
      ∃ parsed, parseZoneSource source = .ok parsed ∧
        Succeeds (loaders.loadSnapshot item.name parsed auth) ∧
        (normalizeZone item.name).isSome := by
  rw [importZone, succeeds_bind]
  simp only [mapError_eq_ok, succeeds_mapError, succeeds_zoneEntry, zoneAuthorityFromSource]
  constructor
  · intro h
    obtain ⟨resolver, hresolver, hname⟩ := h
    obtain ⟨parsed, hparsed, hresolver⟩ := bind_eq_ok.1 hresolver
    obtain ⟨loaded, hloaded, -⟩ := bind_eq_ok.1 hresolver
    exact ⟨parsed, hparsed, ⟨loaded, hloaded⟩, hname⟩
  · intro h
    obtain ⟨parsed, hparsed, ⟨loaded, hloaded⟩, hname⟩ := h
    exact ⟨_, bind_eq_ok.2 ⟨parsed, hparsed, bind_eq_ok.2 ⟨loaded, hloaded, rfl⟩⟩, hname⟩

/-- An imported entry is named after its item. -/
theorem zone_of_importZone {item : ZoneIndexEntry} {source : String}
    {entry : ZoneEntry ZoneResolver}
    (h : importZone loaders discovery checkInterval auth item source = .ok entry) :
    normalizeZone item.name = some entry.zone := by
  obtain ⟨resolver, -, hentry⟩ := bind_eq_ok.1 h
  exact zone_of_zoneEntry (mapError_eq_ok.1 hentry)

/-- What the loop does with an item to be imported. -/
def importItem (urls : UrlApi υ) (loaders : ZoneLoaders) (discovery : ZoneDiscoveryConfig)
    (checkInterval : Option Nat) (baseUrl : υ) (auth : Option ZoneSourceAuth)
    (item : ZoneIndexEntry) : Except String (ZoneEntry ZoneResolver) := do
  let source ← resolveHref urls baseUrl item.href
  importZone loaders discovery checkInterval auth item source

theorem succeeds_importItem {item : ZoneIndexEntry} :
    Succeeds (importItem urls loaders discovery checkInterval baseUrl auth item) ↔
      item.Loads urls loaders baseUrl auth := by
  rw [importItem, succeeds_bind]
  simp only [succeeds_importZone]
  constructor
  · intro h
    obtain ⟨source, hsource, parsed, hparsed⟩ := h
    exact ⟨source, parsed, hsource, hparsed⟩
  · intro h
    obtain ⟨source, parsed, hsource, hparsed⟩ := h
    exact ⟨source, hsource, parsed, hparsed⟩

theorem zone_of_importItem {item : ZoneIndexEntry} {entry : ZoneEntry ZoneResolver}
    (h : importItem urls loaders discovery checkInterval baseUrl auth item = .ok entry) :
    normalizeZone item.name = some entry.zone := by
  obtain ⟨source, -, himport⟩ := bind_eq_ok.1 h
  exact zone_of_importZone himport

theorem importZones_cons_of_not_imports {item : ZoneIndexEntry} {items : List ZoneIndexEntry}
    (h : ¬ discovery.Imports existingZoneNames item) :
    importZones urls loaders discovery existingZoneNames checkInterval baseUrl auth
        (item :: items) =
      importZones urls loaders discovery existingZoneNames checkInterval baseUrl auth items := by
  rw [importZones]
  by_cases hallows : discovery.allows item = true
  · have hconfigured : item.isConfigured existingZoneNames = true := by
      by_contra hno
      exact h ⟨hallows, Bool.eq_false_of_not_eq_true hno⟩
    rw [if_neg (by simp [hallows]), if_pos hconfigured]
  · rw [if_pos (by simpa using hallows)]

/-- An item that does not load ends the import; its source may have been passed on already. -/
theorem importZones_cons_of_not_loads {item : ZoneIndexEntry} {items : List ZoneIndexEntry}
    (himports : discovery.Imports existingZoneNames item)
    (hloads : ¬ item.Loads urls loaders baseUrl auth) :
    ¬ Succeeds (importZones urls loaders discovery existingZoneNames checkInterval baseUrl auth
        (item :: items)).result ∧
      ∀ source, source ∈ (importZones urls loaders discovery existingZoneNames checkInterval baseUrl
        auth (item :: items)).sources ↔ resolveHref urls baseUrl item.href = .ok source := by
  rw [importZones, if_neg (by simp [himports.1]), if_neg (by simp [himports.2])]
  cases hresolve : resolveHref urls baseUrl item.href with
  | error e => exact ⟨not_succeeds_error _, by simp⟩
  | ok source =>
      dsimp only
      cases himport : importZone loaders discovery checkInterval auth item source with
      | error e => exact ⟨not_succeeds_error _, by simp [eq_comm]⟩
      | ok entry =>
          have hitem : importItem urls loaders discovery checkInterval baseUrl auth item =
              .ok entry := bind_eq_ok.2 ⟨source, hresolve, himport⟩
          exact absurd (succeeds_importItem.1 ⟨entry, hitem⟩) hloads

theorem importZones_cons_of_importItem {item : ZoneIndexEntry} {items : List ZoneIndexEntry}
    (himports : discovery.Imports existingZoneNames item) {entry : ZoneEntry ZoneResolver}
    (hitem : importItem urls loaders discovery checkInterval baseUrl auth item = .ok entry) :
    ∃ source, resolveHref urls baseUrl item.href = .ok source ∧
      importZones urls loaders discovery existingZoneNames checkInterval baseUrl auth
          (item :: items) =
        { sources := source :: (importZones urls loaders discovery existingZoneNames checkInterval
            baseUrl auth items).sources
          result := (importZones urls loaders discovery existingZoneNames checkInterval baseUrl auth
            items).result.map fun entries => entry :: entries } := by
  obtain ⟨source, hresolve, himport⟩ := bind_eq_ok.1 hitem
  refine ⟨source, hresolve, ?_⟩
  rw [importZones, if_neg (by simp [himports.1]), if_neg (by simp [himports.2]), hresolve]
  dsimp only
  rw [himport]

/-- **The entries of an import are those of the items to be imported**, in the index's order. -/
theorem result_importZones {index : List ZoneIndexEntry} {entries : List (ZoneEntry ZoneResolver)} :
    (importZones urls loaders discovery existingZoneNames checkInterval baseUrl auth index).result =
        .ok entries ↔
      (index.filter fun item => discovery.Imports existingZoneNames item).mapM
        (importItem urls loaders discovery checkInterval baseUrl auth) = .ok entries := by
  induction index generalizing entries with
  | nil => rfl
  | cons item items ih =>
      by_cases himports : discovery.Imports existingZoneNames item
      · rw [List.filter_cons_of_pos (by simpa using himports), List.mapM_cons]
        cases hitem : importItem urls loaders discovery checkInterval baseUrl auth item with
        | ok entry =>
            obtain ⟨source, -, hcons⟩ := importZones_cons_of_importItem himports hitem
            rw [hcons, map_eq_ok, bind_eq_ok]
            constructor
            · intro h
              obtain ⟨rest, hrest, rfl⟩ := h
              exact ⟨entry, rfl, bind_eq_ok.2 ⟨rest, ih.1 hrest, rfl⟩⟩
            · intro h
              obtain ⟨entry', hentry, h⟩ := h
              obtain rfl := Except.ok.inj hentry
              obtain ⟨rest, hrest, h⟩ := bind_eq_ok.1 h
              exact ⟨rest, ih.2 hrest, (Except.ok.inj h).symm⟩
        | error e =>
            have hloads : ¬ item.Loads urls loaders baseUrl auth := by
              rw [← succeeds_importItem, hitem]
              exact not_succeeds_error e
            refine iff_of_false ?_ ?_
            · intro h
              exact (importZones_cons_of_not_loads himports hloads).1 ⟨entries, h⟩
            · intro h
              obtain ⟨entry, hentry, -⟩ := bind_eq_ok.1 h
              exact absurd hentry (by simp)
      · rw [importZones_cons_of_not_imports himports, ih,
          List.filter_cons_of_neg (by simpa using himports)]

/-- Every item to be imported loads. -/
def AllLoad (urls : UrlApi υ) (loaders : ZoneLoaders) (discovery : ZoneDiscoveryConfig)
    (existingZoneNames : List String) (baseUrl : υ) (auth : Option ZoneSourceAuth)
    (index : List ZoneIndexEntry) : Prop :=
  ∀ item ∈ index, discovery.Imports existingZoneNames item → item.Loads urls loaders baseUrl auth

theorem succeeds_importZones {index : List ZoneIndexEntry} :
    Succeeds (importZones urls loaders discovery existingZoneNames checkInterval baseUrl auth
        index).result ↔ AllLoad urls loaders discovery existingZoneNames baseUrl auth index := by
  have hresult : Succeeds (importZones urls loaders discovery existingZoneNames checkInterval
      baseUrl auth index).result ↔
        Succeeds ((index.filter fun item => discovery.Imports existingZoneNames item).mapM
          (importItem urls loaders discovery checkInterval baseUrl auth)) :=
    exists_congr fun entries => result_importZones
  rw [hresult, succeeds_mapM]
  simp only [List.mem_filter, decide_eq_true_eq, succeeds_importItem, and_imp]
  rfl

/-! ## The sources of a run -/

/-- The item is to be imported, and every item to be imported before it loads. -/
def Reached (urls : UrlApi υ) (loaders : ZoneLoaders) (discovery : ZoneDiscoveryConfig)
    (existingZoneNames : List String) (baseUrl : υ) (auth : Option ZoneSourceAuth)
    (index : List ZoneIndexEntry) (item : ZoneIndexEntry) : Prop :=
  ∃ pre post, index = pre ++ item :: post ∧ discovery.Imports existingZoneNames item ∧
    ∀ earlier ∈ pre, discovery.Imports existingZoneNames earlier →
      earlier.Loads urls loaders baseUrl auth

theorem reached_nil {item : ZoneIndexEntry} :
    ¬ Reached urls loaders discovery existingZoneNames baseUrl auth [] item := by
  intro h
  obtain ⟨pre, post, heq, -⟩ := h
  exact absurd heq (by simp)

theorem reached_cons {first item : ZoneIndexEntry} {items : List ZoneIndexEntry} :
    Reached urls loaders discovery existingZoneNames baseUrl auth (first :: items) item ↔
      (item = first ∧ discovery.Imports existingZoneNames first) ∨
        ((discovery.Imports existingZoneNames first → first.Loads urls loaders baseUrl auth) ∧
          Reached urls loaders discovery existingZoneNames baseUrl auth items item) := by
  constructor
  · intro h
    obtain ⟨pre, post, heq, himports, hearlier⟩ := h
    cases pre with
    | nil =>
        obtain ⟨rfl, -⟩ := List.cons.inj heq
        exact .inl ⟨rfl, himports⟩
    | cons other pre =>
        obtain ⟨rfl, hitems⟩ := List.cons.inj heq
        refine .inr ⟨hearlier first List.mem_cons_self, pre, post, hitems, himports, ?_⟩
        intro earlier hmem
        exact hearlier earlier (List.mem_cons_of_mem _ hmem)
  · intro h
    rcases h with ⟨rfl, himports⟩ | ⟨hfirst, pre, post, rfl, himports, hearlier⟩
    · exact ⟨[], items, rfl, himports, by simp⟩
    · refine ⟨first :: pre, post, rfl, himports, ?_⟩
      intro earlier hmem
      rcases List.mem_cons.1 hmem with rfl | hmem
      · exact hfirst
      · exact hearlier earlier hmem

/-- **The sources of an import are those of the items it reaches.** -/
theorem mem_sources_importZones {index : List ZoneIndexEntry} {source : String} :
    source ∈ (importZones urls loaders discovery existingZoneNames checkInterval baseUrl auth
        index).sources ↔
      ∃ item, Reached urls loaders discovery existingZoneNames baseUrl auth index item ∧
        resolveHref urls baseUrl item.href = .ok source := by
  induction index with
  | nil =>
      refine iff_of_false (by simp [importZones]) ?_
      intro h
      obtain ⟨item, hreached, -⟩ := h
      exact reached_nil hreached
  | cons first items ih =>
      simp only [reached_cons, or_and_right, exists_or]
      by_cases himports : discovery.Imports existingZoneNames first
      · have hfirst : (∃ item, (item = first ∧ discovery.Imports existingZoneNames first) ∧
            resolveHref urls baseUrl item.href = .ok source) ↔
              resolveHref urls baseUrl first.href = .ok source := by
          simp [himports]
        rw [hfirst]
        by_cases hloads : first.Loads urls loaders baseUrl auth
        · obtain ⟨entry, hitem⟩ : Succeeds (importItem urls loaders discovery checkInterval baseUrl
              auth first) := succeeds_importItem.2 hloads
          obtain ⟨found, hfound, hcons⟩ := importZones_cons_of_importItem himports hitem
          rw [hcons, List.mem_cons, ih, hfound]
          simp [himports, hloads, eq_comm]
        · rw [(importZones_cons_of_not_loads himports hloads).2]
          simp [himports, hloads]
      · rw [importZones_cons_of_not_imports himports, ih]
        simp [himports]

/-- The names of the entries that discovery finds. -/
theorem exists_discovered_iff {zone : String} :
    (∃ entry ∈ (buildZoneDiscoveryEntries urls client loaders discovery existingZoneNames
        checkInterval).toOption.getD [], entry.zone = zone) ↔
      ∃ index baseUrl auth, openIndex urls client discovery = .ok (index, baseUrl, auth) ∧
        AllLoad urls loaders discovery existingZoneNames baseUrl auth index ∧
        ∃ item ∈ index, discovery.Imports existingZoneNames item ∧
          normalizeZone item.name = some zone := by
  rw [buildZoneDiscoveryEntries, discoveryRun]
  cases hopen : openIndex urls client discovery with
  | error e => simp [Except.toOption]
  | ok opened =>
      obtain ⟨index, baseUrl, auth⟩ := opened
      dsimp only
      constructor
      · intro h
        obtain ⟨entry, hentry, rfl⟩ := h
        obtain ⟨entries, hentries, hmem⟩ := mem_toOption_getD.1 hentry
        have hload := succeeds_importZones.1 ⟨entries, hentries⟩
        obtain ⟨item, hitem, himport⟩ := exists_of_mem_mapM (result_importZones.1 hentries) hmem
        obtain ⟨hindex, himports⟩ := List.mem_filter.1 hitem
        exact ⟨index, baseUrl, auth, rfl, hload, item, hindex, of_decide_eq_true himports,
          zone_of_importItem himport⟩
      · intro h
        obtain ⟨index', baseUrl', auth', hsame, hload, item, hindex, himports, hname⟩ := h
        obtain ⟨rfl, hbase⟩ := Prod.mk.inj (Except.ok.inj hsame)
        obtain ⟨rfl, rfl⟩ := Prod.mk.inj hbase
        obtain ⟨entries, hentries⟩ := succeeds_importZones.2 hload
        obtain ⟨entry, hmem, himport⟩ := exists_mem_of_mapM (result_importZones.1 hentries)
          (List.mem_filter.2 ⟨hindex, decide_eq_true himports⟩)
        refine ⟨entry, mem_toOption_getD.2 ⟨entries, hentries, hmem⟩, ?_⟩
        exact Option.some.inj ((zone_of_importItem himport).symm.trans hname)

end Loop

/-! ## Configured zones come first -/

section Build

variable {υ : Type} {lib : Libraries} {urls : UrlApi υ} {client : IndexClient}
  {loaders : ZoneLoaders} {config : DnsFilterConfig}

/-- The names of the enabled zones. -/
def DnsFilterConfig.manualZoneNames (config : DnsFilterConfig) : List String :=
  (config.resolvers.zones.filter (·.enabled)).map (·.zone)

/-- In every index whose zones load, an item of an allowed type that names a configured zone has as
many dots beyond the first as some configured zone of that name. -/
def SpelledAlike (urls : UrlApi υ) (client : IndexClient) (loaders : ZoneLoaders)
    (config : DnsFilterConfig) : Prop :=
  ∀ discovery ∈ config.resolvers.zoneDiscovery, discovery.enabled = true →
    ∀ index baseUrl auth, openIndex urls client discovery = .ok (index, baseUrl, auth) →
      AllLoad urls loaders discovery config.manualZoneNames baseUrl auth index →
        ∀ item ∈ index, discovery.allows item = true →
          ∀ zone ∈ config.manualZoneNames, normalizeZone item.name = normalizeZone zone →
            ∃ other ∈ config.manualZoneNames, normalizeZone other = normalizeZone zone ∧
              extraDots other = extraDots item.name

theorem buildZoneEntries_eq_ok {entries : List (ZoneEntry ZoneResolver)}
    (h : buildZoneEntries lib loaders config = .ok entries) :
    ∃ settings manual discovered,
      (config.resolvers.zones.filter (·.enabled)).mapM
        (buildZoneEntry lib loaders config.resolvers.bootstrapResolvers settings) = .ok manual ∧
      (config.resolvers.zoneDiscovery.filter (·.enabled)).mapM
        (buildDiscovered loaders config.manualZoneNames) = .ok discovered ∧
      entries = manual ++ discovered.flatten := by
  obtain ⟨settings, -, h⟩ := bind_eq_ok.1 h
  obtain ⟨manual, hmanual, h⟩ := bind_eq_ok.1 h
  obtain ⟨discovered, hdiscovered, h⟩ := bind_eq_ok.1 h
  exact ⟨settings, manual, discovered, hmanual, hdiscovered, (Except.ok.inj h).symm⟩

theorem buildDiscovered_eq_ok {manualZoneNames : List String} {discovery : ZoneDiscoveryConfig}
    {entries : List (ZoneEntry ZoneResolver)}
    (h : buildDiscovered loaders manualZoneNames discovery = .ok entries) :
    ∃ checkInterval, entries =
      (loaders.discoveryEntries discovery manualZoneNames checkInterval).toOption.getD [] := by
  obtain ⟨checkInterval, -, h⟩ := bind_eq_ok.1 h
  refine ⟨checkInterval, ?_⟩
  cases hentries : loaders.discoveryEntries discovery manualZoneNames checkInterval with
  | ok found =>
      rw [hentries] at h
      exact (Except.ok.inj h).symm
  | error e =>
      rw [hentries] at h
      exact (Except.ok.inj h).symm

/-- The manual entries have the normalised names of the enabled zones. -/
theorem exists_manual_iff {settings : ResolverCacheSettings}
    {manual : List (ZoneEntry ZoneResolver)}
    (h : (config.resolvers.zones.filter (·.enabled)).mapM
      (buildZoneEntry lib loaders config.resolvers.bootstrapResolvers settings) = .ok manual)
    {name : Option String} :
    (∃ zone ∈ config.manualZoneNames, normalizeZone zone = name) ↔
      ∃ entry ∈ manual, some entry.zone = name := by
  have hmem : name ∈ config.manualZoneNames.map normalizeZone ↔
      name ∈ manual.map fun entry => some entry.zone := by
    rw [← map_zone_of_mapM h, DnsFilterConfig.manualZoneNames, List.map_map]
    rfl
  rwa [List.mem_map, List.mem_map] at hmem

/-- The names of the entries of all discovery sources. -/
theorem exists_flatten_discovered_iff {manualZoneNames : List String}
    {discovered : List (List (ZoneEntry ZoneResolver))}
    (h : (config.resolvers.zoneDiscovery.filter (·.enabled)).mapM
      (buildDiscovered (loaders.withDiscovery urls client) manualZoneNames) = .ok discovered)
    {name : String} :
    (∃ entry ∈ discovered.flatten, entry.zone = name) ↔
      ∃ discovery ∈ config.resolvers.zoneDiscovery, discovery.enabled = true ∧
        ∃ index baseUrl auth, openIndex urls client discovery = .ok (index, baseUrl, auth) ∧
          AllLoad urls loaders discovery manualZoneNames baseUrl auth index ∧
          ∃ item ∈ index, discovery.Imports manualZoneNames item ∧
            normalizeZone item.name = some name := by
  constructor
  · intro hentry
    obtain ⟨entry, hentry, hname⟩ := hentry
    obtain ⟨entries, hentries, hmem⟩ := List.mem_flatten.1 hentry
    obtain ⟨discovery, hdiscovery, hbuild⟩ := exists_of_mem_mapM h hentries
    obtain ⟨hconfig, henabled⟩ := List.mem_filter.1 hdiscovery
    obtain ⟨checkInterval, rfl⟩ := buildDiscovered_eq_ok hbuild
    exact ⟨discovery, hconfig, henabled, exists_discovered_iff.1 ⟨entry, hmem, hname⟩⟩
  · intro hfound
    obtain ⟨discovery, hconfig, henabled, hfound⟩ := hfound
    obtain ⟨entries, hentries, hbuild⟩ :=
      exists_mem_of_mapM h (List.mem_filter.2 ⟨hconfig, henabled⟩)
    obtain ⟨checkInterval, rfl⟩ := buildDiscovered_eq_ok hbuild
    obtain ⟨entry, hmem, hname⟩ := exists_discovered_iff.2 hfound
    exact ⟨entry, List.mem_flatten.2 ⟨_, hentries, hmem⟩, hname⟩

/-- **When configured zones take priority over discovered ones.** The entries of the configured
zones come first; none of the others has the name of one of them exactly if every item that names a
configured zone is spelled with as many trailing dots as one, none counting as one. -/
theorem manualZones_first_iff {entries : List (ZoneEntry ZoneResolver)}
    (h : buildZoneEntries lib (loaders.withDiscovery urls client) config = .ok entries) :
    (∀ manual ∈ entries.take config.manualZoneNames.length,
        ∀ discovered ∈ entries.drop config.manualZoneNames.length,
          discovered.zone ≠ manual.zone) ↔
      SpelledAlike urls client loaders config := by
  obtain ⟨settings, manual, discovered, hmanual, hdiscovered, rfl⟩ := buildZoneEntries_eq_ok h
  have hlength : config.manualZoneNames.length = manual.length := by
    have hnames := congrArg List.length (map_zone_of_mapM hmanual)
    rwa [List.length_map, List.length_map, ← List.length_map (·.zone)] at hnames
  have hsome : ∀ name ∈ config.manualZoneNames, (normalizeZone name).isSome := by
    intro name hname
    obtain ⟨entry, -, hentry⟩ := (exists_manual_iff hmanual).1 ⟨name, hname, rfl⟩
    rw [← hentry]
    rfl
  rw [hlength, List.take_left, List.drop_left]
  constructor
  · intro hfirst discovery hconfig henabled index baseUrl auth hopen hload item hitem hallows zone
      hzone hsame
    obtain ⟨entry, hentry, hname⟩ := (exists_manual_iff hmanual).1 ⟨zone, hzone, rfl⟩
    rw [← hname] at hsame
    -- an item that is not recognised would be imported under the zone's name
    by_contra hno
    have himports : discovery.Imports config.manualZoneNames item := by
      refine ⟨hallows, Bool.eq_false_of_not_eq_true ?_⟩
      rw [isConfigured_iff (by rw [hsame]; rfl) hsome, hsame, hname]
      exact hno
    obtain ⟨found, hfound, hfoundName⟩ := (exists_flatten_discovered_iff hdiscovered).2
      ⟨discovery, hconfig, henabled, index, baseUrl, auth, hopen, hload, item, hitem, himports,
        hsame⟩
    exact hfirst entry hentry found hfound hfoundName
  · intro hspelled entry hentry found hfound heq
    obtain ⟨discovery, hconfig, henabled, index, baseUrl, auth, hopen, hload, item, hitem, himports,
      hname⟩ := (exists_flatten_discovered_iff hdiscovered).1 ⟨found, hfound, heq⟩
    obtain ⟨zone, hzone, hzoneName⟩ := (exists_manual_iff hmanual).2 ⟨entry, hentry, rfl⟩
    obtain ⟨other, hother, hotherName, hdots⟩ := hspelled discovery hconfig henabled index baseUrl
      auth hopen hload item hitem himports.1 zone hzone (hname.trans hzoneName.symm)
    have hconfigured : item.isConfigured config.manualZoneNames = true := by
      rw [isConfigured_iff (by rw [hname]; rfl) hsome]
      exact ⟨other, hother, by rw [hotherName, hzoneName, hname], hdots⟩
    exact absurd hconfigured (by simp [himports.2])

end Build

/-- A URL library for URLs with two slashes after the scheme and for absolute paths. -/
def plainUrls : UrlApi (String × String) where
  parse := absolute
  join base reference :=
    match scheme? reference with
    | some _ => absolute reference
    | none =>
        if startsWith "/" reference && !startsWith "//" reference then
          .ok (base.1, (split '/' base.2).headD "" ++ reference)
        else .error "not an absolute path"
  scheme := Prod.fst
  toText url := url.1 ++ "://" ++ url.2
where
  absolute (text : String) : Except String (String × String) :=
    match scheme? text with
    | some scheme =>
        match stripPrefix (scheme ++ "://") text with
        | some rest => .ok (scheme, rest)
        | none => .error "no slashes after the scheme"
    | none => .error "relative URL without a base"

theorem scheme_absolute {text : String} {url : String × String}
    (h : plainUrls.absolute text = .ok url) : scheme? text = some url.1 := by
  unfold plainUrls.absolute at h
  split at h
  · rename_i scheme hscheme
    split at h
    · rw [hscheme, ← Except.ok.inj h]
    · exact absurd h (by simp)
  · exact absurd h (by simp)

theorem plainUrls_standard : plainUrls.Standard where
  scheme_parse := scheme_absolute
  scheme_join := by
    intro base reference url h
    unfold plainUrls at h
    dsimp only at h
    split at h
    · rw [scheme_absolute h]
      rfl
    · rename_i hnone
      split at h
      · rw [hnone, ← Except.ok.inj h]
        rfl
      · exact absurd h (by simp)
  toText_eq url := ⟨_, append_slashes url.1 url.2⟩
  toText_http url _ := ⟨url.2, rfl⟩

/-- An endpoint that serves the given index. -/
def servesIndex (index : List ZoneIndexEntry) : IndexClient where
  get _ _ := .ok ⟨none, .ok ""⟩
  fromStr _ := some index

def lanIndex : ZoneDiscoveryConfig where
  address := "https://zones.example/index.json"

/-- A configuration with the zone "lan" and a discovery source. -/
def lanConfig : DnsFilterConfig where
  resolvers :=
    { strategy := "round_robin"
      bootstrapResolvers := []
      servers := []
      zones := [{
        zone := "lan"
        servers := [{ enabled := true, protocol := "dns", address := "192.168.1.1:53" }] }]
      zoneDiscovery := [lanIndex] }

theorem manualZones_first_lan :
    ∃ entries, buildZoneEntries plainLibraries (plainLoaders.withDiscovery plainUrls (servesIndex
        [⟨"/zone/lan", "LAN.", "forward"⟩, ⟨"/zone/home", "home.arpa", "forward"⟩])) lanConfig =
          .ok entries ∧
      SpelledAlike plainUrls (servesIndex
        [⟨"/zone/lan", "LAN.", "forward"⟩, ⟨"/zone/home", "home.arpa", "forward"⟩])
          plainLoaders lanConfig := by
  have hany : (buildZoneEntries plainLibraries (plainLoaders.withDiscovery plainUrls (servesIndex
      [⟨"/zone/lan", "LAN.", "forward"⟩, ⟨"/zone/home", "home.arpa", "forward"⟩]))
        lanConfig).toOption.any (fun entries =>
          decide (∀ manual ∈ entries.take lanConfig.manualZoneNames.length,
            ∀ discovered ∈ entries.drop lanConfig.manualZoneNames.length,
              discovered.zone ≠ manual.zone)) = true := by
    decide +kernel
  obtain ⟨entries, hbuild, hfirst⟩ := exists_ok_of_any hany
  exact ⟨entries, hbuild, (manualZones_first_iff hbuild).1 (of_decide_eq_true hfirst)⟩

/-- A second trailing dot passes the check: the index takes over the configured zone's name. -/
theorem discovered_lan_beside_manual :
    ∃ entries, buildZoneEntries plainLibraries (plainLoaders.withDiscovery plainUrls (servesIndex
        [⟨"/zone/lan", "lan..", "forward"⟩])) lanConfig = .ok entries ∧
      ∃ manual ∈ entries.take lanConfig.manualZoneNames.length,
        ∃ discovered ∈ entries.drop lanConfig.manualZoneNames.length,
          discovered.zone = manual.zone := by
  have hany : (buildZoneEntries plainLibraries (plainLoaders.withDiscovery plainUrls (servesIndex
      [⟨"/zone/lan", "lan..", "forward"⟩])) lanConfig).toOption.any (fun entries =>
        decide (∃ manual ∈ entries.take lanConfig.manualZoneNames.length,
          ∃ discovered ∈ entries.drop lanConfig.manualZoneNames.length,
            discovered.zone = manual.zone)) = true := by
    decide +kernel
  obtain ⟨entries, hbuild, hsame⟩ := exists_ok_of_any hany
  exact ⟨entries, hbuild, of_decide_eq_true hsame⟩

/-! ## Only URLs are loaded -/

theorem url_parseZoneSource_iff {source : String} :
    (∃ url, parseZoneSource source = .ok (.url url)) ↔ startsWithHttp (trim source) = true := by
  rw [parseZoneSource, ← startsWithHttp]
  by_cases hhttp : startsWithHttp (trim source) = true
  · rw [if_pos hhttp]
    exact iff_of_true ⟨_, rfl⟩ hhttp
  · rw [if_neg hhttp]
    refine iff_of_false ?_ hhttp
    intro h
    obtain ⟨url, hurl⟩ := h
    split at hurl
    · exact absurd (Except.ok.inj hurl) (by simp)
    · split at hurl
      · exact absurd hurl (by simp)
      · exact absurd (Except.ok.inj hurl) (by simp)

/-- The reference has no scheme of its own, or one of HTTP. -/
def IsHttpReference (href : String) : Prop := ∀ scheme, scheme? href = some scheme → IsHttp scheme

theorem isHttpReference_of_startsWithHttp {href : String} (h : startsWithHttp href = true) :
    IsHttpReference href := by
  intro scheme hscheme
  obtain ⟨own, hown, howned⟩ := scheme?_of_startsWithHttp h
  rwa [← Option.some.inj (hown.symm.trans hscheme)]

section Sources

variable {υ : Type} {urls : UrlApi υ} {client : IndexClient} {loaders : ZoneLoaders}
  {discovery : ZoneDiscoveryConfig} {existingZoneNames : List String} {checkInterval : Option Nat}
  {index : List ZoneIndexEntry} {baseUrl : υ} {auth : Option ZoneSourceAuth}

theorem resolveHref_of_startsWithHttp {href : String} (h : startsWithHttp href = true) :
    resolveHref urls baseUrl href = .ok href := by
  rw [resolveHref, ← startsWithHttp, if_pos h]

theorem resolveHref_eq_ok {href source : String} (h : startsWithHttp href = false) :
    resolveHref urls baseUrl href = .ok source ↔
      ∃ url, urls.join baseUrl href = .ok url ∧ source = urls.toText url := by
  rw [resolveHref, ← startsWithHttp, if_neg (by simp [h])]
  cases urls.join baseUrl href with
  | error e => simp
  | ok url => simp [eq_comm]

/-- A resolved reference is read as a URL exactly if it has no scheme of its own or one of HTTP. -/
theorem url_of_resolveHref (hurls : urls.Standard) (hbase : IsHttp (urls.scheme baseUrl))
    {href source : String} (h : resolveHref urls baseUrl href = .ok source) :
    (∃ url, parseZoneSource source = .ok (.url url)) ↔ IsHttpReference href := by
  rw [url_parseZoneSource_iff]
  cases hhttp : startsWithHttp href with
  | true =>
      rw [resolveHref_of_startsWithHttp hhttp] at h
      obtain rfl := Except.ok.inj h
      refine iff_of_true ?_ ?_
      · obtain ⟨scheme, rest, hscheme, heq⟩ := startsWithHttp_iff.1 hhttp
        rw [String.append_assoc] at heq
        rw [heq] at hhttp ⊢
        rw [startsWithHttp_trim hscheme.isScheme, hhttp]
      · exact isHttpReference_of_startsWithHttp hhttp
  | false =>
      obtain ⟨url, hjoin, rfl⟩ := (resolveHref_eq_ok hhttp).1 h
      obtain ⟨hscheme, hiff⟩ := hurls.isHttp_join hbase hjoin
      have htext := hurls.startsWithHttp_toText hscheme
      obtain ⟨rest, hrest⟩ := hurls.toText_eq url
      rw [String.append_assoc] at hrest
      rw [hrest] at htext ⊢
      rw [startsWithHttp_trim hscheme, htext, hiff, IsHttpReference]

/-- An accepted configuration has an HTTP address. -/
theorem isHttp_of_openIndex (hurls : urls.Standard)
    (h : openIndex urls client discovery = .ok (index, baseUrl, auth)) :
    IsHttp (urls.scheme baseUrl) := by
  unfold openIndex at h
  dsimp only at h
  by_cases hempty : trim discovery.address = ""
  · rw [if_pos hempty] at h
    exact absurd h (by simp)
  rw [if_neg hempty, ← Bool.not_or, ← startsWithHttp] at h
  cases hhttp : startsWithHttp (trim discovery.address) with
  | false =>
      rw [hhttp] at h
      exact absurd h (by simp)
  | true =>
      rw [if_neg (by simp [hhttp])] at h
      obtain ⟨auth', -, h⟩ := bind_eq_ok.1 h
      obtain ⟨-, -, h⟩ := bind_eq_ok.1 h
      obtain ⟨index', -, h⟩ := bind_eq_ok.1 h
      obtain ⟨baseUrl', hparse, h⟩ := bind_eq_ok.1 h
      obtain ⟨-, hbase⟩ := Prod.mk.inj (Except.ok.inj h)
      obtain ⟨rfl, -⟩ := Prod.mk.inj hbase
      obtain ⟨scheme, hscheme, hishttp⟩ := scheme?_of_startsWithHttp hhttp
      have hparsed := hurls.scheme_parse (mapError_eq_ok.1 hparse)
      rwa [← Option.some.inj (hscheme.symm.trans hparsed)]

/-- **When discovery loads zones over HTTP only.** Every source that a run passes on is read as a
URL exactly if each item that the run reaches has a reference without a scheme of its own, one of
HTTP, or one that cannot be joined. -/
theorem sources_areUrls_iff (hurls : urls.Standard)
    (hopen : openIndex urls client discovery = .ok (index, baseUrl, auth)) :
    (∀ source ∈ (discoveryRun urls client loaders discovery existingZoneNames
          checkInterval).sources,
        ∃ url, parseZoneSource source = .ok (.url url)) ↔
      ∀ item, Reached urls loaders discovery existingZoneNames baseUrl auth index item →
        Succeeds (urls.join baseUrl item.href) → IsHttpReference item.href := by
  have hbase := isHttp_of_openIndex hurls hopen
  rw [discoveryRun, hopen]
  dsimp only
  constructor
  · intro hsources item hreached hjoin
    obtain ⟨source, hresolve⟩ : Succeeds (resolveHref urls baseUrl item.href) := by
      cases hhttp : startsWithHttp item.href with
      | true => exact ⟨_, resolveHref_of_startsWithHttp hhttp⟩
      | false =>
          obtain ⟨url, hurl⟩ := hjoin
          exact ⟨_, (resolveHref_eq_ok hhttp).2 ⟨url, hurl, rfl⟩⟩
    rw [← url_of_resolveHref hurls hbase hresolve]
    exact hsources source (mem_sources_importZones.2 ⟨item, hreached, hresolve⟩)
  · intro hitems source hsource
    obtain ⟨item, hreached, hresolve⟩ := mem_sources_importZones.1 hsource
    rw [url_of_resolveHref hurls hbase hresolve]
    cases hhttp : startsWithHttp item.href with
    | true => exact isHttpReference_of_startsWithHttp hhttp
    | false =>
        obtain ⟨url, hurl, -⟩ := (resolveHref_eq_ok hhttp).1 hresolve
        exact hitems item hreached ⟨url, hurl⟩

end Sources

/-- References without a scheme and with one of HTTP. -/
def httpItems : List ZoneIndexEntry :=
  [⟨"/zone/lan", "lan", "forward"⟩, ⟨"http://other.example/home", "home.arpa", "forward"⟩]

theorem sources_areUrls_httpItems :
    plainUrls.Standard ∧
      openIndex plainUrls (servesIndex httpItems) lanIndex =
        .ok (httpItems, ("https", "zones.example/index.json"), none) ∧
      ∀ source ∈ (discoveryRun plainUrls (servesIndex httpItems) plainLoaders lanIndex []
          none).sources,
        ∃ url, parseZoneSource source = .ok (.url url) := by
  have hopen : openIndex plainUrls (servesIndex httpItems) lanIndex =
      .ok (httpItems, ("https", "zones.example/index.json"), none) := by decide +kernel
  refine ⟨plainUrls_standard, hopen, (sources_areUrls_iff plainUrls_standard hopen).2 ?_⟩
  intro item hreached _ scheme hscheme
  obtain ⟨pre, post, heq, -⟩ := hreached
  have hmem : item ∈ httpItems := by
    rw [heq]
    exact List.mem_append_right pre List.mem_cons_self
  have hall : ∀ item ∈ httpItems, ∀ scheme ∈ scheme? item.href,
      scheme = "http" ∨ scheme = "https" := by decide +kernel
  exact hall item hmem scheme hscheme

/-- An absolute reference of another scheme makes the server read a local file. -/
theorem fileReference_read :
    plainUrls.Standard ∧
      (discoveryRun plainUrls (servesIndex [⟨"file:///etc/passwd", "lan", "forward"⟩]) plainLoaders
        lanIndex [] none).sources = ["file:///etc/passwd"] ∧
      parseZoneSource "file:///etc/passwd" = .ok (.file "/etc/passwd") :=
  ⟨plainUrls_standard, by decide +kernel, by decide +kernel⟩

end DnsFilter
