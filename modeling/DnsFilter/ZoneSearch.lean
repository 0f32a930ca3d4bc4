import DnsFilter.Lib.NetText
import DnsFilter.Lib.TopK
import DnsFilter.Operations
import DnsFilter.ZoneAuthority
import Mathlib.Algebra.GroupWithZero.Nat
import Mathlib.Algebra.Order.BigOperators.Group.List

/-!
# Searching the records of zones

`ZoneRegistry::search_records` (`zone_registry.rs`) asks every selected zone for its best matches,
merges what they return and keeps the best. A zone cuts its own list to the limit first
(`ZoneAuthorityResolver::search_records`).

The records of a zone stand in a hash map, so the order in which a search comes by them is not
fixed: a `SearchableZone` has one with its snapshot. The lock around the snapshot is left out; its
only writer stores a snapshot that is already loaded.

* `searchRecords_top` — a search returns the best matches of all selected zones: cutting each zone
  first loses none.
* `totalMatches_eq_iff` — the number of matches is reported right exactly if no selected zone has
  more of them than the limit.
-/

namespace DnsFilter.ZoneAuthority

open Net Text TopK

/-- The library functions a search uses. -/
structure SearchLibrary where
  /-- `fuzzy_match` of the matcher: the score, if the pattern matches. -/
  fuzzyMatch : String → String → Option Int
  /-- `str::to_uppercase`. -/
  toUppercase : String → String
  displayName : Name → String
  /-- The debug output of record data. -/
  debugRData : RData → String

/-- A record as searches show it. -/
structure ZoneRecord where
  name : String
  recordType : String
  ttl : UInt32
  data : String
  zone : String
  deriving DecidableEq, Repr

structure ZoneSearchResult where
  record : ZoneRecord
  score : Int
  deriving DecidableEq, Repr

/-- A zone at the time of a search: the snapshot, and the order in which the search comes by its
records. -/
structure SearchableZone where
  snapshot : ZoneSnapshot
  iteration : List (Sigma fun _ : String => List Record)
  iteration_perm : iteration.Perm snapshot.recordsByName.entries

structure ZoneMetadata where
  bypassFilter : Bool
  fallbackToDefaultResolvers : Bool
  deriving DecidableEq, Repr

structure ZoneRegistry where
  zones : List (SearchableZone × ZoneMetadata)

/-- The text of `record_type`. -/
def Record.typeName (record : Record) : String :=
  match record.data with
  | .a _ => "A"
  | .aaaa _ => "AAAA"
  | .ns _ => "NS"
  | .cname _ => "CNAME"
  | .ptr _ => "PTR"
  | .mx _ _ => "MX"
  | .txt _ => "TXT"
  | .soa _ => "SOA"
  | .srv _ _ _ _ => "SRV"
  | .caa _ _ => "CAA"
  | .tlsa _ _ _ _ => "TLSA"
  | .naptr _ _ _ _ _ _ => "NAPTR"

section Model

variable (lib : SearchLibrary)

/-- `rdata_display`. -/
def rdataDisplay : RData → String
  | .a address => (IpAddr.v4 address).display
  | .aaaa address => (IpAddr.v6 address).display
  | .ns target => lib.displayName target
  | .cname target => lib.displayName target
  | .ptr target => lib.displayName target
  | .mx preference exchange => toString preference.toNat ++ " " ++ lib.displayName exchange
  | .txt values => String.join values
  | .soa soa =>
      " ".intercalate [lib.displayName soa.mname, lib.displayName soa.rname,
        toString soa.serial.toNat, toString soa.refresh.toInt, toString soa.retry.toInt,
        toString soa.expire.toInt, toString soa.minimum.toNat]
  | .srv priority weight port target =>
      " ".intercalate [toString priority.toNat, toString weight.toNat, toString port.toNat,
        lib.displayName target]
  | data => lib.debugRData data

/-- `record_to_zone_record`. -/
def recordToZoneRecord (record : Record) (name zone : String) : ZoneRecord where
  name := name
  recordType := record.typeName
  ttl := record.ttl
  data := rdataDisplay lib record.data
  zone := zone

/-- `parse_record_type_filter`. -/
def parseRecordTypeFilter (text : String) : Option RecordType :=
  match lib.toUppercase text with
  | "A" => some .a
  | "AAAA" => some .aaaa
  | "NS" => some typeNs
  | "CNAME" => some typeCname
  | "PTR" => some (.other 12)
  | "MX" => some (.other 15)
  | "TXT" => some (.other 16)
  | "SOA" => some typeSoa
  | "SRV" => some (.other 33)
  | "CAA" => some (.other 257)
  | "TLSA" => some (.other 52)
  | "NAPTR" => some (.other 35)
  | _ => none

/-- The records of a zone that pass the filters, with their scores. -/
def SearchableZone.scoredRecords (zone : SearchableZone) (query : String)
    (recordType : Option String) : List (ZoneRecord × Int) :=
  let typeFilter := recordType.bind (parseRecordTypeFilter lib)
  zone.iteration.flatMap fun entry =>
    let score := lib.fuzzyMatch entry.1 query
    (entry.2.filter fun record => typeFilter.all fun t => record.recordType = t).filterMap
      fun record => score.map fun s =>
        (recordToZoneRecord lib record entry.1 zone.snapshot.zone, s)

/-- `ZoneAuthorityResolver::search_records`. -/
def SearchableZone.searchRecords (zone : SearchableZone) (query : String)
    (recordType : Option String) (limit : Nat) : List (ZoneRecord × Int) :=
  top Prod.snd limit (zone.scoredRecords lib query recordType)

/-- The zones a search looks into. -/
def ZoneRegistry.selected (registry : ZoneRegistry) (zoneFilter : Option String) :
    List SearchableZone :=
  (registry.zones.map Prod.fst).filter fun zone => zoneFilter.all fun name =>
    zone.snapshot.zone = name

/-- What the zones return, before the registry sorts it. -/
def ZoneRegistry.allResults (registry : ZoneRegistry) (query : String)
    (zoneFilter recordType : Option String) (limit : Nat) : List ZoneSearchResult :=
  (registry.selected zoneFilter).flatMap fun zone =>
    (zone.searchRecords lib query recordType limit).map fun scored => ⟨scored.1, scored.2⟩

/-- `ZoneRegistry::search_records`: the results and the number of matches. -/
def ZoneRegistry.searchRecords (registry : ZoneRegistry) (query : String)
    (zoneFilter recordType : Option String) (limit : Nat) : List ZoneSearchResult × Nat :=
  let limit := min limit 500
  let allResults := registry.allResults lib query zoneFilter recordType limit
  (top ZoneSearchResult.score limit allResults, allResults.length)

structure ZoneSearchResultList where
  query : String
  results : List ZoneSearchResult
  totalMatches : Nat
  limit : Nat
  deriving DecidableEq, Repr

/-- The limit of `search_zone_records`. -/
def searchLimit (limit : Option Nat) : Nat := min (limit.getD 50) 500

/-- `search_zone_records`. -/
def searchZoneRecords (registry : Option ZoneRegistry) (query : String)
    (zone recordType : Option String) (limit : Option Nat) : Validated ZoneSearchResultList :=
  match registry with
  | none => .error (.internal "no zones configured")
  | some registry =>
      let limit := searchLimit limit
      let (results, totalMatches) := registry.searchRecords lib query zone recordType limit
      .ok { query, results, totalMatches, limit }

end Model

/-! ## What a search is for -/

section Matches

variable (lib : SearchLibrary)

/-- Is the record of the type that is asked for? -/
def matchesType (recordType : Option String) (record : Record) : Bool :=
  recordType.all fun text => lib.toUppercase text = record.typeName

/-- The records of the zone that match the query and the type. -/
def SearchableZone.matchingRecords (zone : SearchableZone) (query : String)
    (recordType : Option String) : List ZoneSearchResult :=
  zone.snapshot.recordsByName.entries.flatMap fun entry =>
    match lib.fuzzyMatch entry.1 query with
    | none => []
    | some score => (entry.2.filter (matchesType lib recordType)).map fun record =>
        ⟨recordToZoneRecord lib record entry.1 zone.snapshot.zone, score⟩

/-- The zone has the name that is asked for; without a name every zone is meant. -/
def SearchableZone.HasName (zone : SearchableZone) (zoneFilter : Option String) : Prop :=
  ∀ name ∈ zoneFilter, zone.snapshot.zone = name

instance (zone : SearchableZone) (zoneFilter : Option String) :
    Decidable (zone.HasName zoneFilter) :=
  inferInstanceAs (Decidable (∀ name ∈ zoneFilter, zone.snapshot.zone = name))

/-- The records that match the query and the type, of all zones with the name. -/
def ZoneRegistry.matchingRecords (registry : ZoneRegistry) (query : String)
    (zoneFilter recordType : Option String) : List ZoneSearchResult :=
  registry.zones.flatMap fun entry =>
    if entry.1.HasName zoneFilter then entry.1.matchingRecords lib query recordType else []

/-- A type that is absent or has a supported name. -/
def IsSupportedType (recordType : Option String) : Prop :=
  ∀ text ∈ recordType, parseRecordTypeFilter lib text ≠ none

instance (recordType : Option String) : Decidable (IsSupportedType lib recordType) :=
  inferInstanceAs (Decidable (∀ text ∈ recordType, parseRecordTypeFilter lib text ≠ none))

end Matches

section Search

variable {lib : SearchLibrary} {query : String} {zoneFilter recordType : Option String}

/-- A search looks into the registered zones with the name. -/
theorem mem_selected {registry : ZoneRegistry} {zone : SearchableZone} :
    zone ∈ registry.selected zoneFilter ↔
      (∃ metadata, (zone, metadata) ∈ registry.zones) ∧ zone.HasName zoneFilter := by
  unfold ZoneRegistry.selected
  rw [List.mem_filter, List.mem_map, Option.all_eq_true]
  simp only [decide_eq_true_eq, Prod.exists, exists_and_right, exists_eq_right]
  rfl

theorem matchingRecords_eq_flatMap (registry : ZoneRegistry) :
    registry.matchingRecords lib query zoneFilter recordType =
      (registry.selected zoneFilter).flatMap fun zone =>
        zone.matchingRecords lib query recordType := by
  unfold ZoneRegistry.matchingRecords ZoneRegistry.selected
  induction registry.zones with
  | nil => rfl
  | cons entry zones ih =>
      have hiff : (zoneFilter.all fun name => entry.1.snapshot.zone = name) = true ↔
          entry.1.HasName zoneFilter := by
        simp [Option.all_eq_true, SearchableZone.HasName]
      rw [List.flatMap_cons, List.map_cons, List.filter_cons, ih]
      by_cases hname : entry.1.HasName zoneFilter
      · rw [if_pos hname, if_pos (hiff.2 hname), List.flatMap_cons]
      · rw [if_neg hname, if_neg fun h => hname (hiff.1 h), List.nil_append]

/-- The name of a stored type is a supported name, and the only one of that type. -/
theorem parseRecordTypeFilter_eq_some {text : String} {record : Record} :
    parseRecordTypeFilter lib text = some record.recordType ↔
      lib.toUppercase text = record.typeName := by
  obtain ⟨name, ttl, data⟩ := record
  unfold parseRecordTypeFilter Record.recordType Record.typeName
  generalize lib.toUppercase text = upper
  constructor
  · intro h
    split at h <;> cases data <;> simp_all [typeNs, typeCname, typeSoa]
  · intro h
    cases data <;> subst h <;> rfl

/-- For a supported type the filter of the search is what it should be. -/
theorem typeFilter_eq_matchesType (h : IsSupportedType lib recordType) :
    (fun record : Record =>
      (recordType.bind (parseRecordTypeFilter lib)).all fun t => record.recordType = t) =
      matchesType lib recordType := by
  funext record
  cases recordType with
  | none => rfl
  | some text =>
      obtain ⟨t, ht⟩ := Option.ne_none_iff_exists'.1 (h text rfl)
      have hiff : record.recordType = t ↔ lib.toUppercase text = record.typeName := by
        rw [← parseRecordTypeFilter_eq_some, ht, Option.some.injEq, eq_comm]
      simp [matchesType, ht, hiff]

theorem scoredRecords_perm (h : IsSupportedType lib recordType) (zone : SearchableZone) :
    ((zone.scoredRecords lib query recordType).map fun scored => ⟨scored.1, scored.2⟩).Perm
      (zone.matchingRecords lib query recordType) := by
  unfold SearchableZone.scoredRecords SearchableZone.matchingRecords
  dsimp only
  rw [typeFilter_eq_matchesType h, List.map_flatMap]
  refine List.Perm.trans (zone.iteration_perm.flatMap_right _) (List.Perm.of_eq ?_)
  refine congrArg (fun f => List.flatMap f _) ?_
  funext entry
  cases lib.fuzzyMatch entry.1 query with
  | none => simp
  | some score => simp [List.filterMap_eq_map', List.map_map, Function.comp_def]

/-- A zone returns its best matches. -/
theorem SearchableZone.isTop_searchRecords (h : IsSupportedType lib recordType) (limit : Nat)
    (zone : SearchableZone) :
    IsTop ZoneSearchResult.score limit (zone.matchingRecords lib query recordType)
      ((zone.searchRecords lib query recordType limit).map fun scored => ⟨scored.1, scored.2⟩) := by
  have htop := isTop_top Prod.snd limit (zone.scoredRecords lib query recordType)
  have hmap := @IsTop.map _ _ _ _ _ _ _ _ ZoneSearchResult.score
    (fun scored : ZoneRecord × Int => ⟨scored.1, scored.2⟩) (fun _ => rfl) htop
  exact hmap.perm (scoredRecords_perm h zone)

/-- **A search returns the best matches.** Nothing is lost where a zone cuts its own list. -/
theorem searchRecords_top (registry : ZoneRegistry) (limit : Nat)
    (h : IsSupportedType lib recordType) :
    let results := (registry.searchRecords lib query zoneFilter recordType limit).1
    let matching := registry.matchingRecords lib query zoneFilter recordType
    results.Pairwise (fun a b => b.score ≤ a.score) ∧
      results.length = min limit (min 500 matching.length) ∧
      ∃ leftOut, (results ++ leftOut).Perm matching ∧
        ∀ a ∈ results, ∀ b ∈ leftOut, b.score ≤ a.score := by
  have htop : IsTop ZoneSearchResult.score (min limit 500)
      (registry.matchingRecords lib query zoneFilter recordType)
      (registry.searchRecords lib query zoneFilter recordType limit).1 := by
    rw [matchingRecords_eq_flatMap]
    apply isTop_top_flatMap
    intro zone _
    exact zone.isTop_searchRecords h (min limit 500)
  refine ⟨htop.sorted, ?_, htop.rest⟩
  rw [htop.length_eq, Nat.min_assoc]

/-- A matcher for subsequences: the less is left of the text, the better the match. -/
def subsequenceLibrary : SearchLibrary where
  fuzzyMatch choice pattern :=
    if pattern.toList.isSublist choice.toList then
      some (pattern.toList.length - choice.toList.length)
    else none
  toUppercase := toAsciiUppercase
  displayName name := name.toAscii
  debugRData _ := ""

/-- A zone with two addresses for one name. -/
def twoAddressZone : SearchableZone where
  snapshot :=
    { zone := "lan"
      recordsByName := AList.singleton "host.lan"
        [⟨⟨"host.lan."⟩, 60, .a ⟨10, 0, 0, 1⟩⟩, ⟨⟨"host.lan."⟩, 60, .a ⟨10, 0, 0, 2⟩⟩]
      soa := none }
  iteration := [⟨"host.lan",
    [⟨⟨"host.lan."⟩, 60, .a ⟨10, 0, 0, 1⟩⟩, ⟨⟨"host.lan."⟩, 60, .a ⟨10, 0, 0, 2⟩⟩]⟩]
  iteration_perm := List.Perm.refl _

def twoAddressRegistry : ZoneRegistry := ⟨[(twoAddressZone, ⟨false, false⟩)]⟩

/-- The records of another zone, which has two names and an address of each kind for one of them. -/
def officeRecords : AList fun _ : String => List Record :=
  (AList.singleton "hostel.office" [⟨⟨"hostel.office."⟩, 60, .a ⟨10, 1, 0, 2⟩⟩]).insert
    "host.office" [⟨⟨"host.office."⟩, 60, .a ⟨10, 1, 0, 1⟩⟩,
      ⟨⟨"host.office."⟩, 60, .aaaa (.ofSegments [0xfd00, 0, 0, 0, 0, 0, 0, 1])⟩]

def officeZone : SearchableZone where
  snapshot := { zone := "office", recordsByName := officeRecords, soa := none }
  iteration := officeRecords.entries.reverse
  iteration_perm := List.reverse_perm _

/-- Of the two zones the filter selects one, which has two matches for the type; the limit leaves
the better one. -/
theorem searchRecords_top_office :
    let registry : ZoneRegistry :=
      ⟨[(twoAddressZone, ⟨false, false⟩), (officeZone, ⟨true, false⟩)]⟩
    let results := (registry.searchRecords subsequenceLibrary "host" (some "office") (some "a") 1).1
    results = [⟨⟨"host.office", "A", 60, "10.1.0.1", "office"⟩, -7⟩] ∧
      ∃ leftOut, (results ++ leftOut).Perm
          [⟨⟨"host.office", "A", 60, "10.1.0.1", "office"⟩, -7⟩,
            ⟨⟨"hostel.office", "A", 60, "10.1.0.2", "office"⟩, -9⟩] ∧
        ∀ a ∈ results, ∀ b ∈ leftOut, b.score ≤ a.score := by
  intro registry results
  have hmatching : registry.matchingRecords subsequenceLibrary "host" (some "office") (some "a") =
      [⟨⟨"host.office", "A", 60, "10.1.0.1", "office"⟩, -7⟩,
        ⟨⟨"hostel.office", "A", 60, "10.1.0.2", "office"⟩, -9⟩] := by decide +kernel
  have htop := @searchRecords_top subsequenceLibrary "host" (some "office") (some "a") registry 1
    (by decide +kernel)
  rw [hmatching] at htop
  exact ⟨by decide +kernel, htop.2.2⟩

/-! ## The number of matches -/

/-- No zone with the name has more matches than the limit. A type without a supported name filters
nothing, although no record is of it: nothing must match then, or nothing may be returned. -/
def ZoneRegistry.CountsAll (lib : SearchLibrary) (registry : ZoneRegistry) (query : String)
    (zoneFilter recordType : Option String) (limit : Nat) : Prop :=
  if IsSupportedType lib recordType then
    ∀ entry ∈ registry.zones, entry.1.HasName zoneFilter →
      (entry.1.matchingRecords lib query recordType).length ≤ limit
  else
    limit = 0 ∨ ∀ entry ∈ registry.zones, entry.1.HasName zoneFilter →
      entry.1.matchingRecords lib query none = []

theorem length_allResults (registry : ZoneRegistry) (limit : Nat) :
    (registry.allResults lib query zoneFilter recordType limit).length =
      ((registry.selected zoneFilter).map fun zone =>
        min limit (zone.scoredRecords lib query recordType).length).sum := by
  rw [ZoneRegistry.allResults, List.length_flatMap]
  refine congrArg (fun f => (List.map f _).sum) ?_
  funext zone
  rw [List.length_map, SearchableZone.searchRecords, (isTop_top _ _ _).length_eq]

theorem length_matchingRecords (registry : ZoneRegistry) :
    (registry.matchingRecords lib query zoneFilter recordType).length =
      ((registry.selected zoneFilter).map fun zone =>
        (zone.matchingRecords lib query recordType).length).sum := by
  rw [matchingRecords_eq_flatMap, List.length_flatMap]

theorem length_scoredRecords (h : IsSupportedType lib recordType) (zone : SearchableZone) :
    (zone.scoredRecords lib query recordType).length =
      (zone.matchingRecords lib query recordType).length := by
  rw [← (scoredRecords_perm h zone).length_eq, List.length_map]

/-- A sum of cut numbers is the whole sum exactly if nothing is cut. -/
theorem sum_min_eq_iff {β : Type*} {l : List β} {f : β → Nat} {k : Nat} :
    (l.map fun b => min k (f b)).sum = (l.map f).sum ↔ ∀ b ∈ l, f b ≤ k := by
  induction l with
  | nil => simp
  | cons b l ih =>
      have hle : (l.map fun b => min k (f b)).sum ≤ (l.map f).sum :=
        List.sum_le_sum fun b _ => Nat.min_le_right k (f b)
      rw [List.forall_mem_cons, ← ih, List.map_cons, List.map_cons, List.sum_cons, List.sum_cons]
      omega

theorem eq_some_of_not_isSupportedType (h : ¬ IsSupportedType lib recordType) :
    ∃ text, recordType = some text ∧ parseRecordTypeFilter lib text = none := by
  cases recordType with
  | none => exact absurd (fun _ hmem => absurd hmem (by simp)) h
  | some text =>
      refine ⟨text, rfl, ?_⟩
      by_contra hne
      apply h
      intro text' htext
      rwa [← Option.some.inj htext]

/-- A type without a supported name filters nothing. -/
theorem scoredRecords_of_not_isSupportedType (h : ¬ IsSupportedType lib recordType)
    (zone : SearchableZone) :
    zone.scoredRecords lib query recordType = zone.scoredRecords lib query none := by
  obtain ⟨text, rfl, hnone⟩ := eq_some_of_not_isSupportedType h
  unfold SearchableZone.scoredRecords
  rw [Option.bind_some, hnone]
  rfl

/-- No record is of a type without a supported name. -/
theorem matchingRecords_of_not_isSupportedType (h : ¬ IsSupportedType lib recordType)
    (zone : SearchableZone) : zone.matchingRecords lib query recordType = [] := by
  obtain ⟨text, rfl, hnone⟩ := eq_some_of_not_isSupportedType h
  have hfilter : ∀ records : List Record, records.filter (matchesType lib (some text)) = [] := by
    intro records
    rw [List.filter_eq_nil_iff]
    intro record _ hmatch
    have hsome := parseRecordTypeFilter_eq_some.2 (of_decide_eq_true hmatch)
    rw [hnone] at hsome
    exact absurd hsome (by simp)
  rw [SearchableZone.matchingRecords, List.flatMap_eq_nil_iff]
  intro entry _
  rw [hfilter]
  cases lib.fuzzyMatch entry.1 query <;> rfl

theorem forall_mem_selected {registry : ZoneRegistry} {p : SearchableZone → Prop} :
    (∀ zone ∈ registry.selected zoneFilter, p zone) ↔
      ∀ entry ∈ registry.zones, entry.1.HasName zoneFilter → p entry.1 := by
  simp only [mem_selected, and_imp, forall_exists_index, Prod.forall]

theorem length_allResults_eq_iff (registry : ZoneRegistry) (limit : Nat) :
    (registry.allResults lib query zoneFilter recordType limit).length =
      (registry.matchingRecords lib query zoneFilter recordType).length ↔
      registry.CountsAll lib query zoneFilter recordType limit := by
  unfold ZoneRegistry.CountsAll
  rw [length_allResults, length_matchingRecords]
  have hselected := fun p => @forall_mem_selected zoneFilter registry p
  by_cases h : IsSupportedType lib recordType
  · rw [if_pos h, ← hselected fun zone =>
      (zone.matchingRecords lib query recordType).length ≤ limit, ← sum_min_eq_iff]
    simp only [length_scoredRecords h]
  · have hnone : IsSupportedType lib none := fun _ hmem => absurd hmem (by simp)
    rw [if_neg h, ← hselected fun zone => zone.matchingRecords lib query none = []]
    simp only [scoredRecords_of_not_isSupportedType h, matchingRecords_of_not_isSupportedType h,
      length_scoredRecords hnone, List.length_nil]
    have hzero : ((registry.selected zoneFilter).map fun _ => 0).sum = 0 :=
      List.sum_eq_zero fun n hn => by
        obtain ⟨_, _, rfl⟩ := List.mem_map.1 hn
        rfl
    rw [hzero, List.sum_eq_zero_iff, List.forall_mem_map]
    by_cases hlimit : limit = 0
    · simp [hlimit]
    · simp [hlimit]

/-- **The reported number of matches** is right exactly if no selected zone has more of them than
the limit. -/
theorem totalMatches_eq_iff (registry : ZoneRegistry) (limit : Option Nat) :
    ∃ result, searchZoneRecords lib (some registry) query zoneFilter recordType limit =
        .ok result ∧
      (result.totalMatches = (registry.matchingRecords lib query zoneFilter recordType).length ↔
        registry.CountsAll lib query zoneFilter recordType (searchLimit limit)) := by
  have hlimit : min (searchLimit limit) 500 = searchLimit limit := by
    rw [searchLimit, Nat.min_assoc, Nat.min_self]
  refine ⟨_, rfl, ?_⟩
  dsimp only
  rw [hlimit, length_allResults_eq_iff]

theorem not_totalMatches_two :
    ¬ ∀ (lib : SearchLibrary) (registry : ZoneRegistry) (query : String)
        (zoneFilter recordType : Option String) (limit : Option Nat)
        (result : ZoneSearchResultList),
      searchZoneRecords lib (some registry) query zoneFilter recordType limit = .ok result →
        result.totalMatches =
          (registry.matchingRecords lib query zoneFilter recordType).length := by
  intro hall
  have h := hall subsequenceLibrary twoAddressRegistry "host" none none (some 1) _ rfl
  exact absurd h (by decide +kernel)

end Search

end DnsFilter.ZoneAuthority
