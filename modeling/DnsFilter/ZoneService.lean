import DnsFilter.Lib.Map
import DnsFilter.Lib.Trace
import DnsFilter.ZoneAuthorityProof
import DnsFilter.ZoneSearch

/-!
# A zone in service

A zone is loaded once and, if its source is a URL, again from time to time
(`spawn_periodic_url_refresh`); a document that does not load leaves the previous one in place. The
management interface lists the zones and their records (`list_zones`, `list_records`).

* `serves_last_good_document` — at any time the answers are those of the last document that loaded.
* `listed_records_are_served` — what is listed are the records that queries are answered from, each
  once.
-/

namespace DnsFilter.ZoneAuthority

open Net Text

/-! ## Refreshes -/

section Service

variable (lib : Libraries) (nameFromAscii : String → Except String Name)
  (fromStr : String → Option ZoneJsonDocument) (expectedZone sourceLabel : String)

/-- One refresh of the snapshot with what reading the source returned. -/
def refreshSnapshot (snapshot : ZoneSnapshot) (content : Except String String) : ZoneSnapshot :=
  match loadSnapshot lib nameFromAscii fromStr expectedZone sourceLabel content with
  | .ok loaded => loaded
  -- the last good snapshot stays
  | .error _ => snapshot

/-- What happens to a zone: a refresh, or a query, which looks at one snapshot. -/
inductive ZoneEvent
  | refresh (content : Except String String)
  | query (bytes : Bytes)

/-- One event. -/
def serviceStep (snapshot : ZoneSnapshot) : ZoneEvent → Option ZoneSnapshot
  | .refresh content =>
      some (refreshSnapshot lib nameFromAscii fromStr expectedZone sourceLabel snapshot content)
  | .query _ => some snapshot

/-- The last content of the run that loads is this text, and the snapshot was loaded from it;
`initial` is what startup read. -/
def IsLastGood (initial : Except String String) (events : List ZoneEvent) (text : String)
    (snapshot : ZoneSnapshot) : Prop :=
  ∃ before after, .refresh initial :: events = before ++ .refresh (.ok text) :: after ∧
    loadSnapshot lib nameFromAscii fromStr expectedZone sourceLabel (.ok text) = .ok snapshot ∧
    ∀ later, .refresh later ∈ after →
      ∃ e, loadSnapshot lib nameFromAscii fromStr expectedZone sourceLabel later = .error e

end Service

section Run

variable {lib : Libraries} {nameFromAscii : String → Except String Name}
  {fromStr : String → Option ZoneJsonDocument} {expectedZone sourceLabel : String}

/-- An event that loads nothing leaves the last good content where it is. -/
theorem isLastGood_concat {initial : Except String String} {events : List ZoneEvent}
    {event : ZoneEvent} {text : String} {snapshot : ZoneSnapshot}
    (h : IsLastGood lib nameFromAscii fromStr expectedZone sourceLabel initial events text snapshot)
    (hevent : ∀ later, event = .refresh later →
      ∃ e, loadSnapshot lib nameFromAscii fromStr expectedZone sourceLabel later = .error e) :
    IsLastGood lib nameFromAscii fromStr expectedZone sourceLabel initial (events ++ [event]) text
      snapshot := by
  obtain ⟨before, after, hevents, hload, hafter⟩ := h
  refine ⟨before, after ++ [event], ?_, hload, ?_⟩
  · rw [← List.cons_append, hevents, List.append_assoc, List.cons_append]
  · intro later hlater
    rcases List.mem_append.1 hlater with hlater | hlater
    · exact hafter later hlater
    · exact hevent later (List.mem_singleton.1 hlater).symm

/-- A content that loads is the last good one. -/
theorem isLastGood_of_load {initial content : Except String String} {events : List ZoneEvent}
    {before : List ZoneEvent} {snapshot : ZoneSnapshot}
    (hload : loadSnapshot lib nameFromAscii fromStr expectedZone sourceLabel content = .ok snapshot)
    (hevents : .refresh initial :: events = before ++ [.refresh content]) :
    ∃ text, IsLastGood lib nameFromAscii fromStr expectedZone sourceLabel initial events text
      snapshot := by
  obtain ⟨text, -, rfl, -⟩ := loadSnapshot_eq_ok hload
  exact ⟨text, before, [], hevents, hload, by simp⟩

/-- In every run the snapshot is that of the last good content. -/
theorem exists_isLastGood {initial : Except String String} {start : ZoneSnapshot}
    (hstart : loadSnapshot lib nameFromAscii fromStr expectedZone sourceLabel initial = .ok start)
    {events : List ZoneEvent} {snapshot : ZoneSnapshot}
    (hrun : run (serviceStep lib nameFromAscii fromStr expectedZone sourceLabel) start events =
      some snapshot) :
    ∃ text, IsLastGood lib nameFromAscii fromStr expectedZone sourceLabel initial events text
      snapshot := by
  refine @run_history _ _ _ (fun events snapshot => ∃ text, IsLastGood lib nameFromAscii fromStr
    expectedZone sourceLabel initial events text snapshot) start ?_ ?_ _ _ hrun
  · exact @isLastGood_of_load _ _ _ _ _ initial initial [] [] _ hstart rfl
  · intro events last event next _ ih hnext
    obtain ⟨text, ih⟩ := ih
    cases event with
    | query bytes =>
        obtain rfl := Option.some.inj hnext
        exact ⟨text, isLastGood_concat ih (by simp)⟩
    | refresh content =>
        have hrefresh : refreshSnapshot lib nameFromAscii fromStr expectedZone sourceLabel last
            content = next := Option.some.inj hnext
        rw [refreshSnapshot] at hrefresh
        split at hrefresh
        · rename_i loaded hload
          subst hrefresh
          exact @isLastGood_of_load _ _ _ _ _ initial content (events ++ [.refresh content])
            (.refresh initial :: events) _ hload rfl
        · rename_i e herror
          subst hrefresh
          refine ⟨text, isLastGood_concat ih fun later hlater => ⟨e, ?_⟩⟩
          rw [← ZoneEvent.refresh.inj hlater]
          exact herror

/-- The keys of a snapshot are in lower case, so names are looked up in lower case. -/
theorem ownerRecords_eq {document : ZoneJsonDocument} {zone : String}
    (hkeys : LowerCaseKeys (servedRecords lib nameFromAscii document zone)) (name : String) :
    ownerRecords lib nameFromAscii document zone name =
      recordsOf (servedRecords lib nameFromAscii document zone) (toAsciiLowercase name) := by
  rw [← filter_eqIgnoreAsciiCase hkeys (toAsciiLowercase_toAsciiLowercase name), ownerRecords]
  simp [eqIgnoreAsciiCase]

/-- **The answers are those of the last document that loaded.** In every run of queries and
refreshes, whatever was fetched, the zone stays the configured one, and every query for a plain name
gets what the last document that could be loaded says. -/
theorem serves_last_good_document {codec : MessageCodec} {wire : RData → Bytes}
    {initial : Except String String} {start : ZoneSnapshot}
    (hstart : loadSnapshot lib nameFromAscii fromStr expectedZone sourceLabel initial = .ok start)
    {events : List ZoneEvent} {snapshot : ZoneSnapshot}
    (hrun : run (serviceStep lib nameFromAscii fromStr expectedZone sourceLabel) start events =
      some snapshot) :
    ∃ text document zone soa,
      IsLastGood lib nameFromAscii fromStr expectedZone sourceLabel initial events text snapshot ∧
      fromStr text = some document ∧ normalizeName expectedZone = some zone ∧
      apexSoa lib nameFromAscii document zone = some soa ∧
      ∀ query request question name, codec.fromVec query = some request →
        request.queries.head? = some question → IsPlainName question.name name →
        ∃ response, (∀ bytes, resolve codec wire snapshot query = .ok bytes ↔
            codec.toVec response = some bytes) ∧
          IsResponse wire (servedRecords lib nameFromAscii document zone) soa
            (LabelSuffix zone (toAsciiLowercase name))
            (ownerRecords lib nameFromAscii document zone name) question.queryType response := by
  obtain ⟨text, hlast⟩ := exists_isLastGood hstart hrun
  obtain ⟨before, after, hevents, hload, hafter⟩ := hlast
  obtain ⟨text', document, htext, hdocument, -, hzone, hkeys, hholds, ⟨soa, hsoa⟩, happex⟩ :=
    loadSnapshot_eq_ok hload
  obtain rfl := Except.ok.inj htext
  refine ⟨text, document, snapshot.zone, soa, ⟨before, after, hevents, hload, hafter⟩, hdocument,
    hzone, happex.symm.trans hsoa, ?_⟩
  intro query request question name hrequest hquestion hname
  refine ⟨respond wire snapshot request question (toAsciiLowercase name), ?_, ?_⟩
  · exact resolve_eq_ok_iff hrequest hquestion hname.normalizeName_eq
  · rw [ownerRecords_eq hkeys]
    exact isResponse_respond hholds hsoa request question (toAsciiLowercase name)

/-- The document of `example.com` after its name server has moved. -/
def movedDocument : ZoneJsonDocument :=
  { nsDocument with
    records :=
      [{ name := "@", recordType := "NS", ttl := none
         data := .object [("target", .string "ns.example.com")] },
       { name := "ns.example.com.", recordType := "A", ttl := none
         data := .object [("address", .string "192.0.2.2")] }] }

/-- What the texts of the source decode to. -/
def nsFromStr : String → Option ZoneJsonDocument
  | "first" => some nsDocument
  | "moved" => some movedDocument
  | _ => none

/-- A refresh loads the other document; the source fails at the next two. -/
def nsEvents : List ZoneEvent :=
  [.query nsQuery, .refresh (.ok "moved"), .query nsQuery, .refresh (.error "timeout"),
    .refresh (.ok "<html>")]

/-- The addresses that a snapshot has for the name server. -/
def nsAddresses (snapshot : ZoneSnapshot) : Option (List RData) :=
  (snapshot.recordsByName.lookup "ns.example.com").map fun records => records.map (·.data)

theorem serves_last_good_document_ns :
    ∃ start snapshot,
      loadSnapshot plainLibraries (fun text => .ok ⟨text⟩) nsFromStr "example.com" "example.json"
        (.ok "first") = .ok start ∧
      run (serviceStep plainLibraries (fun text => .ok ⟨text⟩) nsFromStr "example.com"
        "example.json") start nsEvents = some snapshot ∧
      nsAddresses start = some [.a ⟨192, 0, 2, 1⟩,
        .aaaa (.ofSegments [0x2001, 0xdb8, 0, 0, 0, 0, 0, 0x53])] ∧
      nsAddresses snapshot = some [.a ⟨192, 0, 2, 2⟩] ∧
      ∃ text document zone soa,
        IsLastGood plainLibraries (fun text => .ok ⟨text⟩) nsFromStr "example.com" "example.json"
          (.ok "first") nsEvents text snapshot ∧
        nsFromStr text = some document ∧ normalizeName "example.com" = some zone ∧
        apexSoa plainLibraries (fun text => .ok ⟨text⟩) document zone = some soa ∧
        ∀ query request question name, nsCodec.fromVec query = some request →
          request.queries.head? = some question → IsPlainName question.name name →
          ∃ response, (∀ bytes, resolve nsCodec nsWire snapshot query = .ok bytes ↔
              nsCodec.toVec response = some bytes) ∧
            IsResponse nsWire
              (servedRecords plainLibraries (fun text => .ok ⟨text⟩) document zone) soa
              (LabelSuffix zone (toAsciiLowercase name))
              (ownerRecords plainLibraries (fun text => .ok ⟨text⟩) document zone name)
              question.queryType response := by
  have hany : (loadSnapshot plainLibraries (fun text => .ok ⟨text⟩) nsFromStr "example.com"
      "example.json" (.ok "first")).toOption.any (fun start =>
        nsAddresses start = some [.a ⟨192, 0, 2, 1⟩,
          .aaaa (.ofSegments [0x2001, 0xdb8, 0, 0, 0, 0, 0, 0x53])] ∧
        (run (serviceStep plainLibraries (fun text => .ok ⟨text⟩) nsFromStr "example.com"
          "example.json") start nsEvents).any (fun snapshot =>
            nsAddresses snapshot = some [.a ⟨192, 0, 2, 2⟩]) = true) = true := by
    decide +kernel
  obtain ⟨start, hstart, htest⟩ := exists_ok_of_any hany
  obtain ⟨hfirst, hevents⟩ := of_decide_eq_true htest
  obtain ⟨snapshot, hrun, hmoved⟩ := exists_run_of_any hevents
  exact ⟨start, snapshot, hstart, hrun, hfirst, of_decide_eq_true hmoved,
    serves_last_good_document hstart hrun⟩

end Run

/-! ## Listing -/

structure ZoneInfo where
  name : String
  recordCount : Nat
  bypassFilter : Bool
  fallbackToDefaultResolvers : Bool
  deriving DecidableEq, Repr

structure ZoneListResult where
  zones : List ZoneInfo
  total : Nat
  deriving DecidableEq, Repr

/-- `record_count`. -/
def SearchableZone.recordCount (zone : SearchableZone) : Nat :=
  (zone.iteration.map fun entry => entry.2.length).sum

/-- `list_records`, with `snapshot_to_zone_records`. -/
def SearchableZone.listRecords (search : SearchLibrary) (zone : SearchableZone)
    (recordType : Option String) : List ZoneRecord :=
  let typeFilter := recordType.bind (parseRecordTypeFilter search)
  zone.iteration.flatMap fun entry =>
    (entry.2.filter fun record => typeFilter.all fun t => record.recordType = t).map
      fun record => recordToZoneRecord search record entry.1 zone.snapshot.zone

/-- The entry of a zone in `ZoneRegistry::list_zones`. -/
def zoneInfo (zone : SearchableZone × ZoneMetadata) : ZoneInfo where
  name := zone.1.snapshot.zone
  recordCount := zone.1.recordCount
  bypassFilter := zone.2.bypassFilter
  fallbackToDefaultResolvers := zone.2.fallbackToDefaultResolvers

/-- `list_zones`, with `ZoneRegistry::list_zones` and `zone_count`. -/
def listZones (registry : Option ZoneRegistry) : Validated ZoneListResult :=
  match registry with
  | none => .error (.internal "no zones configured")
  | some registry => .ok ⟨registry.zones.map zoneInfo, registry.zones.length⟩

/-- The entries of a snapshot are the loaded records, grouped by their owners. -/
theorem Holds.entries_perm {records : RecordMap} {loaded : List (String × Record)}
    (h : Holds records loaded) :
    (records.entries.flatMap fun entry => entry.2.map fun record => (entry.1, record)).Perm
      loaded := by
  have hentry : ∀ entry ∈ records.entries, (entry.2.map fun record => (entry.1, record)) =
      loaded.filter (·.1 = entry.1) := by
    intro entry hentry
    have hlookup : records.lookup entry.1 = some entry.2 := AList.mem_lookup_iff.2 hentry
    have hrecords : records.recordsAt entry.1 = entry.2 := by rw [RecordMap.recordsAt, hlookup]; rfl
    rw [← hrecords, h.recordsAt, recordsOf, List.map_map]
    conv_rhs => rw [← List.map_id (loaded.filter _)]
    apply List.map_congr_left
    intro pair hpair
    have hkey : pair.1 = entry.1 := by simpa using (List.mem_filter.1 hpair).2
    exact Prod.ext hkey.symm rfl
  have hkeys : ∀ pair ∈ loaded, pair.1 ∈ records.keys := by
    intro pair hpair
    rw [← AList.mem_keys, ← AList.lookup_isSome, h pair.1, if_neg]
    · rfl
    · intro hnil
      have hmem : pair.2 ∈ recordsOf loaded pair.1 :=
        List.mem_map_of_mem (List.mem_filter.2 ⟨hpair, by simp⟩)
      rw [hnil] at hmem
      exact absurd hmem List.not_mem_nil
  have hperm := Map.flatMap_filter_perm records.nodupKeys hkeys
  rw [List.flatMap_congr hentry]
  rwa [List.keys, List.flatMap_map] at hperm

/-- The records of a zone that pass a filter, as they are listed. -/
theorem SearchableZone.listing_perm {search : SearchLibrary} {zone : SearchableZone}
    {served : List (String × Record)} (h : Holds zone.snapshot.recordsByName served)
    (p : Record → Bool) :
    (zone.iteration.flatMap fun entry => (entry.2.filter p).map fun record =>
        recordToZoneRecord search record entry.1 zone.snapshot.zone).Perm
      ((served.filter fun entry => p entry.2).map fun entry =>
        recordToZoneRecord search entry.2 entry.1 zone.snapshot.zone) := by
  have hperm := ((h.entries_perm.filter fun entry => p entry.2).map fun entry =>
    recordToZoneRecord search entry.2 entry.1 zone.snapshot.zone)
  refine (zone.iteration_perm.flatMap_right _).trans (List.Perm.trans (List.Perm.of_eq ?_) hperm)
  rw [List.filter_flatMap, List.map_flatMap]
  refine congrArg (fun f => List.flatMap f _) ?_
  funext entry
  rw [List.filter_map, List.map_map]
  rfl

theorem SearchableZone.recordCount_eq {zone : SearchableZone} {served : List (String × Record)}
    (h : Holds zone.snapshot.recordsByName served) : zone.recordCount = served.length := by
  rw [← h.entries_perm.length_eq, List.length_flatMap, SearchableZone.recordCount]
  simp only [List.length_map]
  exact (zone.iteration_perm.map _).sum_eq

section Listed

variable {lib : Libraries} {nameFromAscii : String → Except String Name}
  {fromStr : String → Option ZoneJsonDocument} {expectedZone sourceLabel : String}
  {search : SearchLibrary}

/-- **The zones list what they serve.** In every run of queries and refreshes a zone is listed under
its configured name, with the records of the last document that loaded and of the apex, each once:
all of them, or those of a type. A type without a supported name is as none. -/
theorem listed_records_are_served {initial : Except String String} {start : ZoneSnapshot}
    (hstart : loadSnapshot lib nameFromAscii fromStr expectedZone sourceLabel initial = .ok start)
    {events : List ZoneEvent} {zone : SearchableZone}
    (hrun : run (serviceStep lib nameFromAscii fromStr expectedZone sourceLabel) start events =
      some zone.snapshot) :
    ∃ text document name,
      IsLastGood lib nameFromAscii fromStr expectedZone sourceLabel initial events text
        zone.snapshot ∧
      fromStr text = some document ∧ normalizeName expectedZone = some name ∧
      (∀ metadata : ZoneMetadata, zoneInfo (zone, metadata) =
        { name := name
          recordCount := (servedRecords lib nameFromAscii document name).length
          bypassFilter := metadata.bypassFilter
          fallbackToDefaultResolvers := metadata.fallbackToDefaultResolvers }) ∧
      (∀ recordType, IsSupportedType search recordType →
        (zone.listRecords search recordType).Perm
          (((servedRecords lib nameFromAscii document name).filter fun entry =>
            matchesType search recordType entry.2).map fun entry =>
              recordToZoneRecord search entry.2 entry.1 name)) ∧
      ∀ recordType, ¬ IsSupportedType search recordType →
        (zone.listRecords search recordType).Perm
          ((servedRecords lib nameFromAscii document name).map fun entry =>
            recordToZoneRecord search entry.2 entry.1 name) := by
  obtain ⟨text, hlast⟩ := exists_isLastGood hstart hrun
  obtain ⟨before, after, hevents, hload, hafter⟩ := hlast
  obtain ⟨text', document, htext, hdocument, -, hzone, -, hholds, -, -⟩ := loadSnapshot_eq_ok hload
  obtain rfl := Except.ok.inj htext
  refine ⟨text, document, zone.snapshot.zone, ⟨before, after, hevents, hload, hafter⟩, hdocument,
    hzone, ?_, ?_, ?_⟩
  · intro metadata
    rw [zoneInfo, zone.recordCount_eq hholds]
  · intro recordType htype
    rw [SearchableZone.listRecords, typeFilter_eq_matchesType htype]
    exact SearchableZone.listing_perm hholds (matchesType search recordType)
  · intro recordType htype
    have hnone : recordType.bind (parseRecordTypeFilter search) = none := by
      rw [IsSupportedType] at htype
      push Not at htype
      obtain ⟨type, rfl, htype⟩ := htype
      exact htype
    have hperm := @SearchableZone.listing_perm search zone _ hholds fun _ => true
    rw [List.filter_true] at hperm
    rw [SearchableZone.listRecords, hnone]
    exact hperm

/-- The zone `example.com` after a refresh that failed: its name server, the address of that, and
the automatic SOA record. -/
theorem listed_records_are_served_ns :
    ∃ (start : ZoneSnapshot) (zone : SearchableZone),
      loadSnapshot plainLibraries (fun text => .ok ⟨text⟩) (fun _ => some nsDocument) "example.com"
        "example.json" (.ok "") = .ok start ∧
      run (serviceStep plainLibraries (fun text => .ok ⟨text⟩) (fun _ => some nsDocument)
        "example.com" "example.json") start [.refresh (.error "timeout")] = some zone.snapshot ∧
      ∃ text document name,
        IsLastGood plainLibraries (fun text => .ok ⟨text⟩) (fun _ => some nsDocument) "example.com"
          "example.json" (.ok "") [.refresh (.error "timeout")] text zone.snapshot ∧
        some nsDocument = some document ∧ normalizeName "example.com" = some name ∧
        (∀ metadata : ZoneMetadata, zoneInfo (zone, metadata) =
          { name := name
            recordCount := (servedRecords plainLibraries (fun text => .ok ⟨text⟩) document
              name).length
            bypassFilter := metadata.bypassFilter
            fallbackToDefaultResolvers := metadata.fallbackToDefaultResolvers }) ∧
        (zone.listRecords subsequenceLibrary (some "soa")).Perm
          (((servedRecords plainLibraries (fun text => .ok ⟨text⟩) document name).filter
            fun entry => matchesType subsequenceLibrary (some "soa") entry.2).map fun entry =>
              recordToZoneRecord subsequenceLibrary entry.2 entry.1 name) := by
  obtain ⟨start, hstart, -⟩ := exists_nsSnapshot
  have htype : IsSupportedType subsequenceLibrary (some "soa") := by decide +kernel
  obtain ⟨text, document, name, hlast, hdocument, hname, hinfo, hlisted, -⟩ :=
    @listed_records_are_served plainLibraries (fun text => .ok ⟨text⟩) (fun _ => some nsDocument)
      "example.com" "example.json" subsequenceLibrary (.ok "") start hstart
      [.refresh (.error "timeout")] ⟨start, _, List.Perm.refl _⟩ rfl
  exact ⟨start, _, hstart, rfl, text, document, name, hlast, hdocument, hname, hinfo,
    hlisted _ htype⟩

end Listed

end DnsFilter.ZoneAuthority
