import DnsFilter.OperationsProof
import DnsFilter.ZoneAuthority

/-!
# What a zone document answers

`ownerRecords` says which records a document gives a name: the entries with that owner, in document
order, and at the apex the automatic NS and SOA records that the document leaves out. A loaded
snapshot holds just these (`loadSnapshot_eq_ok`), and the response to a query is computed from them
(**`resolve_answers_document`**).

* `resolveRecordName_at`, `resolveRecordName_absolute`, `resolveRecordName_relative` say which name
  the owner of an entry stands for.
* `Holds` relates the map of a snapshot to the list of loaded records; `Holds.pushRecord` is the
  step of the loading loop and `foldl_storeEntry` the whole loop.
* `IsGlue` says what the additional section is: the addresses of the NS targets, each once.
* A name below which the zone has records is said not to exist exactly if it owns none itself
  (**`nxDomain_hides_nothing_iff`**).
-/

namespace DnsFilter.ZoneAuthority

open Text

/-! ## Names -/

/-- A label of letters, digits, hyphens and underscores. -/
def PlainLabel (label : String) : Prop :=
  label ≠ "" ∧ ∀ c ∈ label.toList, isAsciiAlphanumeric c ∨ c = '-' ∨ c = '_'

instance (label : String) : Decidable (PlainLabel label) :=
  -- The characters of the label are tried, not all characters.
  @instDecidableAnd (label ≠ "") _ inferInstance (List.decidableBAll _ _)

/-- The name is one or more plain labels, given without the final dot. A name read from a message
prints with one. -/
def IsPlainName (name : Name) (text : String) : Prop :=
  name.toAscii = text ++ "." ∧ ∀ label ∈ split '.' text, PlainLabel label

instance (name : Name) (text : String) : Decidable (IsPlainName name text) :=
  inferInstanceAs (Decidable (_ ∧ _))

theorem not_isWhitespace_of_plain {c : Char}
    (h : isAsciiAlphanumeric c = true ∨ c = '-' ∨ c = '_') : isWhitespace c = false := by
  have hrange : 45 ≤ c.toNat ∧ c.toNat ≤ 122 := by
    rcases h with h | rfl | rfl
    · have hclass : isAsciiAlphanumeric c =
          ((decide (c.val ≥ 65 ∧ c.val ≤ 90) || (decide (c.val ≥ 97) && decide (c.val ≤ 122))) ||
            (decide (c.val ≥ 48) && decide (c.val ≤ 57))) := rfl
      simp only [hclass, Bool.or_eq_true, Bool.and_eq_true, decide_eq_true_eq, ge_iff_le,
        UInt32.le_iff_toNat_le] at h
      simp at h
      omega
    · decide
    · decide
  simp [isWhitespace]
  omega

theorem IsPlainName.not_isWhitespace {name : Name} {text : String} (h : IsPlainName name text) :
    ∀ c ∈ name.toAscii.toList, isWhitespace c = false := by
  intro c hc
  by_cases hdot : c = '.'
  · rw [hdot]
    decide
  · rw [h.1, String.toList_append, List.mem_append] at hc
    have hc : c ∈ text.toList := by
      rcases hc with hc | hc
      · exact hc
      · exact absurd (by simpa using hc) hdot
    obtain ⟨label, hlabel, hc⟩ := exists_mem_split hdot hc
    exact not_isWhitespace_of_plain ((h.2 label hlabel).2 c hc)

theorem IsPlainName.not_endsWith {name : Name} {text : String} (h : IsPlainName name text) :
    ¬ endsWith "." text := by
  intro hend
  obtain ⟨rest, hrest⟩ := endsWith_iff.1 hend
  have hsplit : split '.' text = split '.' rest ++ [""] := by
    have happ := split_append (c := '.') (show ".".toList = ['.'] from rfl) rest ""
    rw [String.append_empty, ← hrest, split_eq_singleton (s := "") (by simp)] at happ
    exact happ
  have hempty := h.2 "" (by simp [hsplit])
  exact hempty.1 rfl

theorem IsPlainName.ne_empty {name : Name} {text : String} (h : IsPlainName name text) :
    text ≠ "" := by
  intro hempty
  have hlabel := h.2 "" (by rw [hempty, split_eq_singleton (by simp)]; simp)
  exact hlabel.1 rfl

theorem IsPlainName.trim_toAscii {name : Name} {text : String} (h : IsPlainName name text) :
    trim name.toAscii = name.toAscii :=
  trim_eq_self_of_forall h.not_isWhitespace

/-- A plain name is looked up in lower case, without its final dot. -/
theorem IsPlainName.normalizeName_eq {name : Name} {text : String} (h : IsPlainName name text) :
    normalizeName name.toAscii = some (toAsciiLowercase text) := by
  have hdot : trimEndMatches '.' (text ++ ".") = text := trimEndMatches_append rfl h.not_endsWith
  rw [normalizeName, h.trim_toAscii, h.1, hdot]
  simp [h.ne_empty]

/-! ## Owners -/

/-- Text of one or more plain labels. -/
def PlainText (text : String) : Prop := ∀ label ∈ split '.' text, PlainLabel label

theorem PlainText.isPlainName {text : String} (h : PlainText text) :
    IsPlainName ⟨text ++ "."⟩ text :=
  ⟨rfl, h⟩

theorem PlainText.append {text zone : String} (h : PlainText text) (hzone : PlainText zone) :
    PlainText (text ++ "." ++ zone) := by
  intro label hlabel
  rw [split_append rfl] at hlabel
  exact (List.mem_append.1 hlabel).elim (h label) (hzone label)

/-- The text of plain labels is not trimmed. -/
theorem PlainText.trim_eq {text : String} (h : PlainText text) : trim text = text := by
  apply trim_eq_self_of_forall
  intro c hc
  exact h.isPlainName.not_isWhitespace c (by simp [hc])

theorem PlainText.normalizeName_eq {text : String} (h : PlainText text) :
    normalizeName text = some (toAsciiLowercase text) := by
  have hdot : trimEndMatches '.' text = text := by
    apply trimEndMatches_eq_self
    rintro c hc rfl
    apply h.isPlainName.not_endsWith
    obtain ⟨front, hfront⟩ := List.getLast?_eq_some_iff.1 hc
    refine endsWith_iff.2 ⟨String.ofList front, String.toList_inj.1 ?_⟩
    simp [hfront]
  rw [normalizeName, h.trim_eq, hdot]
  simp [h.isPlainName.ne_empty]

/-- `@` is the zone. -/
theorem resolveRecordName_at (zone : String) : resolveRecordName zone "@" = .ok zone := by
  have htrim : trim "@" = "@" := by decide +kernel
  rw [resolveRecordName, htrim]
  rfl

/-- A name with a final dot is absolute. -/
theorem resolveRecordName_absolute (zone : String) {text : String} (h : PlainText text) :
    resolveRecordName zone (text ++ ".") = .ok (toAsciiLowercase text) := by
  have hname := h.isPlainName
  have hends : endsWith "." (text ++ ".") = true := endsWith_iff.2 ⟨text, rfl⟩
  have hne {other : String} (hother : endsWith "." other = false) : text ++ "." ≠ other := by
    rintro rfl
    exact absurd (hends.symm.trans hother) (by simp)
  have hat : text ++ "." ≠ "@" := hne (by decide +kernel)
  have hempty : text ++ "." ≠ "" := hne (by decide +kernel)
  rw [resolveRecordName, show trim (text ++ ".") = text ++ "." from hname.trim_toAscii]
  simp only [if_neg hempty, if_neg hat, hends, if_true]
  rw [show normalizeName (text ++ ".") = _ from hname.normalizeName_eq]

/-- Any other name is relative to the zone. -/
theorem resolveRecordName_relative {zone label : String} (h : PlainText label)
    (hzone : PlainText zone) :
    resolveRecordName zone label = .ok (toAsciiLowercase (label ++ "." ++ zone)) := by
  have hat : label ≠ "@" := by
    rintro rfl
    exact absurd ((h "@" (by rw [split_eq_singleton (by decide)]; simp)).2 '@' (by decide))
      (by decide)
  have hends : endsWith "." label = false := Bool.eq_false_iff.2 h.isPlainName.not_endsWith
  rw [resolveRecordName, h.trim_eq]
  simp only [if_neg h.isPlainName.ne_empty, if_neg hat, hends, Bool.false_eq_true, if_false]
  rw [(h.append hzone).normalizeName_eq]

theorem toAsciiLowercase_of_normalizeName {value name : String}
    (h : normalizeName value = some name) : toAsciiLowercase name = name := by
  unfold normalizeName at h
  simp only [Option.ite_none_left_eq_some, Option.some.injEq] at h
  rw [← h.2, toAsciiLowercase_toAsciiLowercase]

/-- A name is served if it is the zone or below it. -/
theorem domainMatchesZone_iff {domain zone : String} :
    domainMatchesZone domain zone = true ↔ LabelSuffix zone domain := by
  rw [labelSuffix_iff, domainMatchesZone, Bool.or_eq_true, decide_eq_true_eq]
  apply or_congr_right
  constructor
  · intro h
    cases hstrip : stripSuffix zone domain with
    | none => simp [hstrip] at h
    | some rest =>
        rw [hstrip] at h
        obtain ⟨p, rfl⟩ := endsWith_iff.1 h
        exact ⟨p, stripSuffix_eq_some.1 hstrip⟩
  · intro ⟨p, hp⟩
    rw [stripSuffix_eq_some.2 hp]
    exact endsWith_iff.2 ⟨p, rfl⟩

/-! ## The records of a document -/

section Records

variable (lib : Libraries) (nameFromAscii : String → Except String Name)
  (document : ZoneJsonDocument) (zone : String)

/-- The entries of the document with their resolved owners, in document order. -/
def documentRecords : List (String × Record) :=
  document.records.filterMap fun entry =>
    (loadEntry lib nameFromAscii zone document.defaultTtl entry).toOption

/-- The document has a record of this type at the apex. -/
def HasApex (recordType : RecordType) : Prop :=
  ∃ entry ∈ documentRecords lib nameFromAscii document zone,
    eqIgnoreAsciiCase entry.1 zone ∧ entry.2.recordType = recordType

instance (recordType : RecordType) :
    Decidable (HasApex lib nameFromAscii document zone recordType) :=
  inferInstanceAs (Decidable (∃ entry ∈ _, _))

/-- The NS record of the apex, if the document has none. -/
def automaticNs : List (String × Record) :=
  if HasApex lib nameFromAscii document zone typeNs then []
  else (defaultApexNs nameFromAscii zone document.defaultTtl).toOption.toList.map (zone, ·)

/-- The SOA record of the apex, if the document has none. -/
def automaticSoa : List (String × Record) :=
  if HasApex lib nameFromAscii document zone typeSoa then []
  else (buildDefaultSoaRecord nameFromAscii document zone document.defaultTtl).toOption.toList.map
    (zone, ·)

/-- All records served for the document. -/
def servedRecords : List (String × Record) :=
  documentRecords lib nameFromAscii document zone ++
    automaticNs lib nameFromAscii document zone ++ automaticSoa lib nameFromAscii document zone

/-- The records of a name, compared up to case. -/
def ownerRecords (name : String) : List Record :=
  ((servedRecords lib nameFromAscii document zone).filter (eqIgnoreAsciiCase ·.1 name)).map (·.2)

/-- The SOA record of the zone: the first one at its apex. -/
def apexSoa : Option Record :=
  (ownerRecords lib nameFromAscii document zone zone).find? (·.recordType = typeSoa)

end Records

/-! ## Loading -/

/-- The records listed under a key. -/
def recordsOf (loaded : List (String × Record)) (key : String) : List Record :=
  (loaded.filter (·.1 = key)).map (·.2)

/-- The map has the listed records under each key, and no key without records. -/
def Holds (records : RecordMap) (loaded : List (String × Record)) : Prop :=
  ∀ key, records.lookup key =
    if recordsOf loaded key = [] then none else some (recordsOf loaded key)

theorem Holds.recordsAt {records : RecordMap} {loaded : List (String × Record)}
    (h : Holds records loaded) (key : String) : records.recordsAt key = recordsOf loaded key := by
  rw [RecordMap.recordsAt, h key]
  split
  · rename_i hnil
    simp [hnil]
  · rfl

theorem Holds.pushRecord {records : RecordMap} {loaded : List (String × Record)}
    (h : Holds records loaded) (key : String) (record : Record) :
    Holds (records.pushRecord key record) (loaded ++ [(key, record)]) := by
  intro key'
  rw [RecordMap.pushRecord, h.recordsAt key]
  by_cases hkey : key' = key
  · subst hkey
    have happ : recordsOf (loaded ++ [(key', record)]) key' =
        recordsOf loaded key' ++ [record] := by
      simp [recordsOf]
    rw [AList.lookup_insert, happ]
    simp
  · have happ : recordsOf (loaded ++ [(key, record)]) key' = recordsOf loaded key' := by
      simp [recordsOf, Ne.symm hkey]
    rw [AList.lookup_insert_ne hkey, happ, h key']

theorem holds_empty : Holds ∅ [] := by
  intro key
  simp [recordsOf]

/-- An SOA record at the apex. -/
def IsApexSoa (zone : String) (entry : String × Record) : Bool :=
  entry.2.recordType = typeSoa && entry.1 = zone

/-- The loading loop keeps every record under its owner, and the first SOA record of the apex. -/
theorem foldl_storeEntry {zone : String} {records : RecordMap} {soa : Option Record}
    {before : List (String × Record)} (h : Holds records before)
    (hsoa : soa = (before.find? (IsApexSoa zone)).map (·.2)) (loaded : List (String × Record)) :
    Holds (loaded.foldl (storeEntry zone) (records, soa)).1 (before ++ loaded) ∧
      (loaded.foldl (storeEntry zone) (records, soa)).2 =
        ((before ++ loaded).find? (IsApexSoa zone)).map (·.2) := by
  induction loaded generalizing records soa before with
  | nil => simpa using ⟨h, hsoa⟩
  | cons entry loaded ih =>
      rw [List.append_cons]
      apply ih (h.pushRecord entry.1 entry.2)
      rw [List.find?_append, Option.map_or, ← hsoa]
      cases soa with
      | some soa => simp
      | none =>
          by_cases hentry : entry.2.recordType = typeSoa ∧ entry.1 = zone
          · simp [IsApexSoa, hentry]
          · simp [IsApexSoa, hentry]

/-- Loaded records are listed under owners in lower case. -/
def LowerCaseKeys (loaded : List (String × Record)) : Prop :=
  ∀ entry ∈ loaded, toAsciiLowercase entry.1 = entry.1

theorem filter_eqIgnoreAsciiCase {loaded : List (String × Record)} (h : LowerCaseKeys loaded)
    {name : String} (hname : toAsciiLowercase name = name) :
    (loaded.filter (eqIgnoreAsciiCase ·.1 name)).map (·.2) = recordsOf loaded name := by
  rw [recordsOf]
  congr 1
  apply List.filter_congr
  intro entry hentry
  rw [eqIgnoreAsciiCase, h entry hentry, hname, Bool.eq_iff_iff]
  simp

theorem find?_recordsOf (loaded : List (String × Record)) (key : String) (p : Record → Bool) :
    (recordsOf loaded key).find? p =
      (loaded.find? fun entry => p entry.2 && entry.1 = key).map (·.2) := by
  rw [recordsOf, List.find?_map, List.find?_filter]
  congr 2
  funext entry
  simp [Bool.and_comm]

theorem toAsciiLowercase_of_resolveRecordName {zone label key : String}
    (hzone : toAsciiLowercase zone = zone) (h : resolveRecordName zone label = .ok key) :
    toAsciiLowercase key = key := by
  unfold resolveRecordName at h
  dsimp only at h
  split at h
  · exact absurd h (by simp)
  · split at h
    · rw [← Except.ok.inj h, hzone]
    · split at h <;> split at h
      · rename_i hname
        rw [← Except.ok.inj h]
        exact toAsciiLowercase_of_normalizeName hname
      · exact absurd h (by simp)
      · rename_i hname
        rw [← Except.ok.inj h]
        exact toAsciiLowercase_of_normalizeName hname
      · exact absurd h (by simp)

section Load

variable {lib : Libraries} {nameFromAscii : String → Except String Name}
  {document : ZoneJsonDocument} {zone : String}

theorem lowerCaseKeys_of_mapM (hzone : toAsciiLowercase zone = zone)
    {loaded : List (String × Record)}
    (h : document.records.mapM (loadEntry lib nameFromAscii zone document.defaultTtl) =
      .ok loaded) : LowerCaseKeys loaded := by
  intro entry hentry
  obtain ⟨_, _, hload⟩ := exists_of_mem_mapM h hentry
  obtain ⟨key, hkey, hload⟩ := bind_eq_ok.1 hload
  obtain ⟨_, _, hload⟩ := bind_eq_ok.1 hload
  obtain ⟨_, _, hload⟩ := bind_eq_ok.1 hload
  rw [← Except.ok.inj hload]
  exact toAsciiLowercase_of_resolveRecordName hzone hkey

/-- What the apex has, read off the loaded records. -/
theorem hasApex_iff (hzone : toAsciiLowercase zone = zone)
    (hkeys : LowerCaseKeys (documentRecords lib nameFromAscii document zone))
    (recordType : RecordType) :
    HasApex lib nameFromAscii document zone recordType ↔
      ∃ record ∈ recordsOf (documentRecords lib nameFromAscii document zone) zone,
        record.recordType = recordType := by
  rw [← filter_eqIgnoreAsciiCase hkeys hzone, HasApex]
  constructor
  · intro ⟨entry, hentry, hname, htype⟩
    exact ⟨entry.2, List.mem_map_of_mem (List.mem_filter.2 ⟨hentry, hname⟩), htype⟩
  · intro ⟨record, hrecord, htype⟩
    obtain ⟨entry, hentry, rfl⟩ := List.mem_map.1 hrecord
    obtain ⟨hentry, hname⟩ := List.mem_filter.1 hentry
    exact ⟨entry, hentry, hname, htype⟩

theorem lowerCaseKeys_servedRecords (hzone : toAsciiLowercase zone = zone)
    (hkeys : LowerCaseKeys (documentRecords lib nameFromAscii document zone)) :
    LowerCaseKeys (servedRecords lib nameFromAscii document zone) := by
  intro entry hentry
  simp only [servedRecords, automaticNs, automaticSoa, List.mem_append] at hentry
  rcases hentry with (hentry | hentry) | hentry
  · exact hkeys entry hentry
  all_goals
    split at hentry
    · exact absurd hentry List.not_mem_nil
    · obtain ⟨record, _, rfl⟩ := List.mem_map.1 hentry
      exact hzone

theorem Holds.ensureDefaultApexNs (hzone : toAsciiLowercase zone = zone)
    (hkeys : LowerCaseKeys (documentRecords lib nameFromAscii document zone))
    {records records' : RecordMap}
    (h : Holds records (documentRecords lib nameFromAscii document zone))
    (hok : ensureDefaultApexNs nameFromAscii zone document.defaultTtl records = .ok records') :
    Holds records' (documentRecords lib nameFromAscii document zone ++
      automaticNs lib nameFromAscii document zone) := by
  have hapex : (records.recordsAt zone).any (·.recordType = typeNs) = true ↔
      HasApex lib nameFromAscii document zone typeNs := by
    rw [hasApex_iff hzone hkeys, h.recordsAt, List.any_eq_true]
    simp
  unfold ZoneAuthority.ensureDefaultApexNs at hok
  rw [automaticNs]
  by_cases hns : HasApex lib nameFromAscii document zone typeNs
  · rw [if_pos (hapex.2 hns)] at hok
    rw [if_pos hns, List.append_nil, ← Except.ok.inj hok]
    exact h
  · rw [if_neg (mt hapex.1 hns)] at hok
    obtain ⟨record, hrecord, hok⟩ := bind_eq_ok.1 hok
    rw [if_neg hns, hrecord, ← Except.ok.inj hok]
    exact h.pushRecord zone record

theorem find?_apexSoa_eq_none (hzone : toAsciiLowercase zone = zone)
    (hkeys : LowerCaseKeys (documentRecords lib nameFromAscii document zone)) :
    (documentRecords lib nameFromAscii document zone).find? (IsApexSoa zone) = none ↔
      ¬ HasApex lib nameFromAscii document zone typeSoa := by
  have hfind := find?_recordsOf (documentRecords lib nameFromAscii document zone) zone
    (·.recordType = typeSoa)
  rw [hasApex_iff hzone hkeys, ← Option.map_eq_none_iff (f := Prod.snd)]
  unfold IsApexSoa
  rw [← hfind, List.find?_eq_none]
  simp

theorem recordType_of_defaultApexNs {ttl : UInt32} {record : Record}
    (h : defaultApexNs nameFromAscii zone ttl = .ok record) : record.recordType = typeNs := by
  obtain ⟨_, _, h⟩ := bind_eq_ok.1 h
  obtain ⟨_, _, h⟩ := bind_eq_ok.1 h
  rw [← Except.ok.inj h]
  rfl

theorem recordType_of_buildDefaultSoaRecord {ttl : UInt32} {record : Record}
    (h : buildDefaultSoaRecord nameFromAscii document zone ttl = .ok record) :
    record.recordType = typeSoa := by
  obtain ⟨_, _, h⟩ := bind_eq_ok.1 h
  obtain ⟨_, _, h⟩ := bind_eq_ok.1 h
  obtain ⟨_, _, h⟩ := bind_eq_ok.1 h
  rw [← Except.ok.inj h]
  rfl

theorem find?_automaticNs :
    (automaticNs lib nameFromAscii document zone).find? (IsApexSoa zone) = none := by
  rw [List.find?_eq_none]
  intro entry hentry
  rw [automaticNs] at hentry
  split at hentry
  · exact absurd hentry List.not_mem_nil
  · obtain ⟨record, hrecord, rfl⟩ := List.mem_map.1 hentry
    cases hns : defaultApexNs nameFromAscii zone document.defaultTtl with
    | error e => simp [hns, Except.toOption] at hrecord
    | ok ns =>
        obtain rfl : record = ns := by simpa [hns, Except.toOption] using hrecord
        simp [IsApexSoa, recordType_of_defaultApexNs hns, typeNs, typeSoa]

/-- The SOA record of the zone is the first one of the document, or the automatic one. -/
theorem apexSoa_eq (hzone : toAsciiLowercase zone = zone)
    (hkeys : LowerCaseKeys (documentRecords lib nameFromAscii document zone)) :
    apexSoa lib nameFromAscii document zone =
      (((documentRecords lib nameFromAscii document zone).find? (IsApexSoa zone)).or
        ((automaticSoa lib nameFromAscii document zone).find? (IsApexSoa zone))).map (·.2) := by
  have hserved : (servedRecords lib nameFromAscii document zone).find? (IsApexSoa zone) =
      ((documentRecords lib nameFromAscii document zone).find? (IsApexSoa zone)).or
        ((automaticSoa lib nameFromAscii document zone).find? (IsApexSoa zone)) := by
    rw [servedRecords, List.find?_append, List.find?_append, find?_automaticNs, Option.or_none]
  rw [apexSoa, ownerRecords,
    filter_eqIgnoreAsciiCase (lowerCaseKeys_servedRecords hzone hkeys) hzone, find?_recordsOf,
    ← hserved]
  rfl

theorem apexSoa_of_document (hzone : toAsciiLowercase zone = zone)
    (hkeys : LowerCaseKeys (documentRecords lib nameFromAscii document zone))
    {entry : String × Record}
    (h : (documentRecords lib nameFromAscii document zone).find? (IsApexSoa zone) = some entry) :
    automaticSoa lib nameFromAscii document zone = [] ∧
      apexSoa lib nameFromAscii document zone = some entry.2 := by
  have hhas : HasApex lib nameFromAscii document zone typeSoa := by
    by_contra hhas
    rw [(find?_apexSoa_eq_none hzone hkeys).2 hhas] at h
    exact absurd h (by simp)
  refine ⟨if_pos hhas, ?_⟩
  rw [apexSoa_eq hzone hkeys, h]
  rfl

theorem apexSoa_of_default (hzone : toAsciiLowercase zone = zone)
    (hkeys : LowerCaseKeys (documentRecords lib nameFromAscii document zone)) {record : Record}
    (h : (documentRecords lib nameFromAscii document zone).find? (IsApexSoa zone) = none)
    (hrecord : buildDefaultSoaRecord nameFromAscii document zone document.defaultTtl =
      .ok record) :
    automaticSoa lib nameFromAscii document zone = [(zone, record)] ∧
      apexSoa lib nameFromAscii document zone = some record := by
  have hauto : automaticSoa lib nameFromAscii document zone = [(zone, record)] := by
    rw [automaticSoa, if_neg ((find?_apexSoa_eq_none hzone hkeys).1 h), hrecord]
    rfl
  refine ⟨hauto, ?_⟩
  rw [apexSoa_eq hzone hkeys, h, hauto]
  simp [IsApexSoa, recordType_of_buildDefaultSoaRecord hrecord]

theorem normalizeName_of_documentZone {expectedZone : String}
    (h : documentZone expectedZone document = .ok zone) :
    normalizeName document.zone = some zone ∧ normalizeName expectedZone = some zone := by
  unfold documentZone at h
  split at h
  · exact absurd h (by simp)
  · rename_i jsonZone hjson
    split at h
    · exact absurd h (by simp)
    · rename_i expected hexpected
      split at h
      · rename_i heq
        cases h
        exact ⟨hjson, heq ▸ hexpected⟩
      · exact absurd h (by simp)

/-- **A loaded snapshot holds the records of its document.** -/
theorem loadSnapshot_eq_ok {fromStr : String → Option ZoneJsonDocument}
    {expectedZone sourceLabel : String} {content : Except String String}
    {snapshot : ZoneSnapshot}
    (h : loadSnapshot lib nameFromAscii fromStr expectedZone sourceLabel content = .ok snapshot) :
    ∃ text document, content = .ok text ∧ fromStr text = some document ∧
      normalizeName document.zone = some snapshot.zone ∧
      normalizeName expectedZone = some snapshot.zone ∧
      LowerCaseKeys (servedRecords lib nameFromAscii document snapshot.zone) ∧
      Holds snapshot.recordsByName (servedRecords lib nameFromAscii document snapshot.zone) ∧
      (∃ soa, snapshot.soa = some soa) ∧
      snapshot.soa = apexSoa lib nameFromAscii document snapshot.zone := by
  unfold loadSnapshot at h
  obtain ⟨text, htext, h⟩ := bind_eq_ok.1 h
  obtain ⟨document, hdocument, h⟩ := bind_eq_ok.1 h
  obtain ⟨zone, hzone, h⟩ := bind_eq_ok.1 h
  obtain ⟨⟨records, soa⟩, hloop, h⟩ := bind_eq_ok.1 h
  obtain ⟨loaded, hloaded, hstate⟩ := foldlM_eq_ok.1 hloop
  obtain ⟨records', hns, h⟩ := bind_eq_ok.1 h
  obtain ⟨hjson, hexpected⟩ := normalizeName_of_documentZone hzone
  have hlower := toAsciiLowercase_of_normalizeName hjson
  have hdoc : documentRecords lib nameFromAscii document zone = loaded :=
    filterMap_toOption_of_mapM hloaded
  have hkeys : LowerCaseKeys (documentRecords lib nameFromAscii document zone) :=
    hdoc ▸ lowerCaseKeys_of_mapM hlower hloaded
  obtain ⟨hholds, hsoa⟩ := @foldl_storeEntry zone ∅ none [] holds_empty rfl loaded
  rw [← hstate, List.nil_append, ← hdoc] at hholds hsoa
  have hholdsNs := hholds.ensureDefaultApexNs hlower hkeys hns
  refine ⟨text, document, htext, elim_eq_ok.1 hdocument, ?_⟩
  cases hfind : (documentRecords lib nameFromAscii document zone).find? (IsApexSoa zone) with
  | some entry =>
      obtain ⟨hauto, happex⟩ := apexSoa_of_document hlower hkeys hfind
      obtain rfl : soa = some entry.2 := hsoa.trans (by rw [hfind]; rfl)
      obtain rfl := Except.ok.inj h
      refine ⟨hjson, hexpected, lowerCaseKeys_servedRecords hlower hkeys, ?_, ⟨_, rfl⟩,
        happex.symm⟩
      rw [servedRecords, hauto, List.append_nil]
      exact hholdsNs
  | none =>
      obtain rfl : soa = none := hsoa.trans (by rw [hfind]; rfl)
      obtain ⟨record, hrecord, h⟩ := bind_eq_ok.1 h
      obtain ⟨hauto, happex⟩ := apexSoa_of_default hlower hkeys hfind hrecord
      obtain rfl := Except.ok.inj h
      refine ⟨hjson, hexpected, lowerCaseKeys_servedRecords hlower hkeys, ?_, ⟨_, rfl⟩,
        happex.symm⟩
      rw [servedRecords, hauto]
      exact hholdsNs.pushRecord zone record

end Load

/-! ## Answering -/

/-- The records of the queried type, all of them for `ANY`. -/
def ofQueriedType (records : List Record) (queryType : RecordType) : List Record :=
  records.filter fun record => queryType = .any ∨ record.recordType = queryType

/-- The answers for a name: the records of the queried type, or else its aliases. -/
def expectedAnswers (records : List Record) (queryType : RecordType) : List Record :=
  if ofQueriedType records queryType ≠ [] then ofQueriedType records queryType
  else records.filter (·.recordType = typeCname)

theorem filterAnswers_eq (records : List Record) (queryType : RecordType) :
    filterAnswers records queryType = ofQueriedType records queryType := by
  unfold filterAnswers ofQueriedType
  by_cases hany : queryType = .any
  · simp [hany]
  · simp [hany]

theorem selectAnswers_eq (records : List Record) (queryType : RecordType) :
    selectAnswers records queryType = expectedAnswers records queryType := by
  have hcname : filterAnswers records typeCname = records.filter (·.recordType = typeCname) := by
    simp [filterAnswers, typeCname]
  unfold selectAnswers expectedAnswers
  rw [filterAnswers_eq, ← hcname]
  by_cases hnil : ofQueriedType records queryType = []
  · by_cases htype : queryType = typeCname
    · subst htype
      simp [hnil, filterAnswers_eq]
    · simp [hnil, htype]
  · simp [hnil]

/-- The target of an NS answer, as a key. -/
def IsTarget (answers : List Record) (key : String) : Prop :=
  ∃ answer ∈ answers, ∃ target, answer.data = .ns target ∧ normalizeName target.toAscii = some key

/-- The record is an address. -/
def Record.IsAddress (record : Record) : Prop :=
  record.recordType = .a ∨ record.recordType = .aaaa

/-- The address records of the targets of the NS answers, no two of them equal. Equality of records
is the library's, which leaves the TTL out. -/
structure IsGlue (served : List (String × Record)) (answers glue : List Record) : Prop where
  sound : ∀ record ∈ glue, record.IsAddress ∧ ∃ key, IsTarget answers key ∧ (key, record) ∈ served
  complete : ∀ key record, IsTarget answers key → (key, record) ∈ served → record.IsAddress →
    ∃ other ∈ glue, other.same record
  distinct : glue.Pairwise fun record other => ¬ record.same other

theorem Record.same_self (record : Record) : record.same record = true := by
  simp [Record.same, eqIgnoreAsciiCase]

theorem subset_foldl_addGlue (records glue : List Record) :
    glue ⊆ records.foldl addGlue glue := by
  induction records generalizing glue with
  | nil => exact List.Subset.refl _
  | cons first records ih =>
      have hstep : glue ⊆ addGlue glue first := by
        unfold addGlue
        split
        · exact List.Subset.refl _
        · exact List.subset_append_left _ _
      exact List.Subset.trans hstep (ih _)

theorem mem_of_mem_foldl_addGlue {records glue : List Record} {record : Record}
    (h : record ∈ records.foldl addGlue glue) : record ∈ glue ∨ record ∈ records := by
  induction records generalizing glue with
  | nil => exact .inl h
  | cons first records ih =>
      rcases ih h with h | h
      · unfold addGlue at h
        split at h
        · exact .inl h
        · rcases List.mem_append.1 h with h | h
          · exact .inl h
          · rw [List.mem_singleton.1 h]
            exact .inr List.mem_cons_self
      · exact .inr (List.mem_cons_of_mem _ h)

theorem exists_same_foldl_addGlue {records : List Record} (glue : List Record) {record : Record}
    (h : record ∈ records) : ∃ other ∈ records.foldl addGlue glue, other.same record := by
  induction records generalizing glue with
  | nil => exact absurd h List.not_mem_nil
  | cons first records ih =>
      rcases List.mem_cons.1 h with rfl | h
      · have hstep : ∃ other ∈ addGlue glue record, other.same record := by
          unfold addGlue
          split
          · rename_i hany
            exact List.any_eq_true.1 hany
          · exact ⟨record, by simp, record.same_self⟩
        obtain ⟨other, hother, hsame⟩ := hstep
        exact ⟨other, subset_foldl_addGlue records _ hother, hsame⟩
      · exact ih _ h

theorem pairwise_foldl_addGlue (records : List Record) {glue : List Record}
    (h : glue.Pairwise fun record other => ¬ record.same other) :
    (records.foldl addGlue glue).Pairwise fun record other => ¬ record.same other := by
  induction records generalizing glue with
  | nil => exact h
  | cons first records ih =>
      apply ih
      unfold addGlue
      split
      · exact h
      · rename_i hany
        rw [List.pairwise_append]
        refine ⟨h, List.pairwise_singleton _ _, ?_⟩
        intro record hrecord other hother hsame
        rw [List.mem_singleton.1 hother] at hsame
        exact hany (List.any_eq_true.2 ⟨record, hrecord, hsame⟩)

theorem mem_targetAddresses {records : RecordMap} {served : List (String × Record)}
    (h : Holds records served) {answer record : Record} :
    record ∈ targetAddresses records answer ↔ record.IsAddress ∧
      ∃ key, (∃ target, answer.data = .ns target ∧ normalizeName target.toAscii = some key) ∧
        (key, record) ∈ served := by
  have hmem : ∀ key, record ∈ recordsOf served key ↔ (key, record) ∈ served := by
    intro key
    simp [recordsOf]
  unfold targetAddresses
  split
  · rename_i target hdata
    cases hkey : normalizeName target.toAscii with
    | none => simp [hdata, hkey]
    | some key => simp [hdata, hkey, h.recordsAt, hmem, Record.IsAddress, and_comm]
  · rename_i hdata
    constructor
    · intro hrecord
      exact absurd hrecord List.not_mem_nil
    · intro ⟨_, _, ⟨target, htarget, _⟩, _⟩
      exact absurd htarget (hdata target)

/-- The collected records are the glue of the answers. -/
theorem isGlue_collectNsGlueRecords {records : RecordMap} {served : List (String × Record)}
    (h : Holds records served) (answers : List Record) :
    IsGlue served answers (collectNsGlueRecords answers records) := by
  have hflat : collectNsGlueRecords answers records =
      (answers.flatMap (targetAddresses records)).foldl addGlue [] := by
    rw [collectNsGlueRecords, List.foldl_flatMap]
  rw [hflat]
  constructor
  · intro record hrecord
    rcases mem_of_mem_foldl_addGlue hrecord with hrecord | hrecord
    · exact absurd hrecord List.not_mem_nil
    · obtain ⟨answer, hanswer, hrecord⟩ := List.mem_flatMap.1 hrecord
      obtain ⟨haddress, key, htarget, hserved⟩ := (mem_targetAddresses h).1 hrecord
      exact ⟨haddress, key, ⟨answer, hanswer, htarget⟩, hserved⟩
  · intro key record ⟨answer, hanswer, htarget⟩ hserved haddress
    apply exists_same_foldl_addGlue
    exact List.mem_flatMap.2
      ⟨answer, hanswer, (mem_targetAddresses h).2 ⟨haddress, key, htarget, hserved⟩⟩
  · exact pairwise_foldl_addGlue _ List.Pairwise.nil

/-- What the response to a query should be, given the records of the queried name. -/
structure IsResponse (wire : RData → Bytes) (served : List (String × Record)) (soa : Record)
    (inZone : Prop) (records : List Record) (queryType : RecordType) (response : Message) :
    Prop where
  refused : ¬ inZone → response.metadata.responseCode = .refused ∧ response.answers = [] ∧
    response.authorities = [] ∧ response.additionals = []
  nxDomain : inZone → records = [] → response.metadata.responseCode = .nxDomain ∧
    response.answers = [] ∧ response.authorities = [soa.toMessage wire] ∧
    response.additionals = []
  noData : inZone → records ≠ [] → expectedAnswers records queryType = [] →
    response.metadata.responseCode = .noError ∧ response.answers = [] ∧
    response.authorities = [soa.toMessage wire] ∧ response.additionals = []
  answers : inZone → expectedAnswers records queryType ≠ [] →
    response.metadata.responseCode = .noError ∧
    response.answers = (expectedAnswers records queryType).map (·.toMessage wire) ∧
    response.authorities = [] ∧
    ∃ glue, IsGlue served (expectedAnswers records queryType) glue ∧
      response.additionals = glue.map (·.toMessage wire)

theorem expectedAnswers_nil (queryType : RecordType) : expectedAnswers [] queryType = [] := by
  simp [expectedAnswers, ofQueriedType]

/-- The response is the expected one if the snapshot holds the records. -/
theorem isResponse_respond {wire : RData → Bytes} {served : List (String × Record)}
    {snapshot : ZoneSnapshot} (hholds : Holds snapshot.recordsByName served) {soa : Record}
    (hsoa : snapshot.soa = some soa) (request : Message) (question : Query) (name : String) :
    IsResponse wire served soa (LabelSuffix snapshot.zone name) (recordsOf served name)
      question.queryType (respond wire snapshot request question name) := by
  have hlookup := hholds name
  have hmatch := @domainMatchesZone_iff name snapshot.zone
  constructor
  · intro hzone
    have hmatch := mt hmatch.1 hzone
    simp [respond, hmatch, emptyResponse, Message.new]
  · intro hzone hnil
    rw [if_pos hnil] at hlookup
    simp [respond, hmatch.2 hzone, hlookup, hsoa, emptyResponse, Message.new]
  · intro hzone hne hempty
    rw [if_neg hne] at hlookup
    simp [respond, hmatch.2 hzone, hlookup, hsoa, selectAnswers_eq, hempty, emptyResponse,
      Message.new]
  · intro hzone hanswers
    have hne : recordsOf served name ≠ [] := by
      intro hnil
      rw [hnil] at hanswers
      exact hanswers (expectedAnswers_nil _)
    rw [if_neg hne] at hlookup
    have hglue := isGlue_collectNsGlueRecords hholds
      (expectedAnswers (recordsOf served name) question.queryType)
    refine ⟨?_, ?_, ?_, _, hglue, ?_⟩ <;>
      simp [respond, hmatch.2 hzone, hlookup, selectAnswers_eq, hanswers, emptyResponse,
        Message.new]

/-- A query for a valid name gets the response, if the response can be encoded. -/
theorem resolve_eq_ok_iff {codec : MessageCodec} {wire : RData → Bytes} {snapshot : ZoneSnapshot}
    {query : Bytes} {request : Message} {question : Query} {name : String}
    (hrequest : codec.fromVec query = some request)
    (hquestion : request.queries.head? = some question)
    (hname : normalizeName question.name.toAscii = some name) (bytes : Bytes) :
    resolve codec wire snapshot query = .ok bytes ↔
      codec.toVec (respond wire snapshot request question name) = some bytes := by
  simp only [resolve, hrequest, Option.elim_some, bind, Except.bind, hquestion, hname]
  exact elim_eq_ok

/-- **Every name gets what the document says.** The response to a query for a plain name is REFUSED
outside the zone, NXDOMAIN for a name without records, and else has the records of the queried type
or the aliases of the name, with the addresses of name servers. -/
theorem resolve_answers_document {lib : Libraries} {nameFromAscii : String → Except String Name}
    {fromStr : String → Option ZoneJsonDocument} {expectedZone sourceLabel text : String}
    {document : ZoneJsonDocument} {snapshot : ZoneSnapshot} {codec : MessageCodec}
    {wire : RData → Bytes} {query : Bytes} {request : Message} {question : Query} {name : String}
    (hdocument : fromStr text = some document)
    (hload : loadSnapshot lib nameFromAscii fromStr expectedZone sourceLabel (.ok text) =
      .ok snapshot)
    (hrequest : codec.fromVec query = some request)
    (hquestion : request.queries.head? = some question)
    (hname : IsPlainName question.name name) :
    ∃ zone soa response, normalizeName document.zone = some zone ∧
      apexSoa lib nameFromAscii document zone = some soa ∧
      (∀ bytes, resolve codec wire snapshot query = .ok bytes ↔
        codec.toVec response = some bytes) ∧
      IsResponse wire (servedRecords lib nameFromAscii document zone) soa
        (LabelSuffix zone (toAsciiLowercase name))
        (ownerRecords lib nameFromAscii document zone name) question.queryType response := by
  obtain ⟨text', document', htext, hdocument', hzone, _, hkeys, hholds, ⟨soa, hsoa⟩, happex⟩ :=
    loadSnapshot_eq_ok hload
  obtain rfl := Except.ok.inj htext
  obtain rfl := Option.some.inj (hdocument.symm.trans hdocument')
  have hrecords : ownerRecords lib nameFromAscii document snapshot.zone name =
      recordsOf (servedRecords lib nameFromAscii document snapshot.zone)
        (toAsciiLowercase name) := by
    rw [← filter_eqIgnoreAsciiCase hkeys (toAsciiLowercase_toAsciiLowercase name), ownerRecords]
    simp [eqIgnoreAsciiCase]
  refine ⟨snapshot.zone, soa, respond wire snapshot request question (toAsciiLowercase name),
    hzone, happex.symm.trans hsoa, ?_, ?_⟩
  · exact resolve_eq_ok_iff hrequest hquestion hname.normalizeName_eq
  · rw [hrecords]
    exact isResponse_respond hholds hsoa request question (toAsciiLowercase name)

/-- A document with a name server inside its zone, which has one relative and one absolute
owner. -/
def nsDocument : ZoneJsonDocument where
  zone := "Example.com."
  ttlDefault := none
  serial := none
  records :=
    [{ name := "@", recordType := "ns", ttl := none
       data := .object [("target", .string "NS.example.com")] },
     { name := "ns", recordType := "A", ttl := none
       data := .object [("address", .string "192.0.2.1")] },
     { name := "NS.Example.com.", recordType := "AAAA", ttl := none
       data := .object [("address", .string "2001:db8::53")] }]

/-- A query for the name servers of `example.com`. -/
def nsRequest : Message where
  metadata :=
    { id := 0x1234, messageType := .query, opCode := .query, recursionDesired := true }
  queries := [⟨⟨"example.com."⟩, typeNs, 1⟩]

/-- `ns.example.com` on the wire. -/
def nsWire : RData → Bytes
  | .ns _ => [2, 110, 115, 7, 101, 120, 97, 109, 112, 108, 101, 3, 99, 111, 109, 0]
  | _ => []

def nsResponse : Message where
  metadata :=
    { id := 0x1234, messageType := .response, opCode := .query, authoritative := true
      recursionDesired := true }
  queries := [⟨⟨"example.com."⟩, typeNs, 1⟩]
  answers :=
    [{ name := ⟨"example.com."⟩, ttl := 3600, data := .other 2 (nsWire (.ns ⟨"ns.example.com."⟩)) }]
  additionals :=
    [{ name := ⟨"ns.example.com."⟩, ttl := 3600, data := .a ⟨192, 0, 2, 1⟩ },
      { name := ⟨"ns.example.com."⟩, ttl := 3600
        data := .aaaa (.ofSegments [0x2001, 0xdb8, 0, 0, 0, 0, 0, 0x53]) }]

def nsQuery : Bytes :=
  [0x12, 0x34, 1, 0, 0, 1, 0, 0, 0, 0, 0, 0, 7, 101, 120, 97, 109, 112, 108, 101, 3, 99, 111, 109,
    0, 0, 2, 0, 1]

def nsBytes : Bytes :=
  [0x12, 0x34, 0x85, 0, 0, 1, 0, 1, 0, 0, 0, 2, 7, 101, 120, 97, 109, 112, 108, 101, 3, 99, 111,
    109, 0, 0, 2, 0, 1, 0xc0, 0x0c, 0, 2, 0, 1, 0, 0, 0x0e, 0x10, 0, 5, 2, 110, 115, 0xc0, 0x0c,
    0xc0, 0x29, 0, 1, 0, 1, 0, 0, 0x0e, 0x10, 0, 4, 192, 0, 2, 1, 0xc0, 0x29, 0, 28, 0, 1, 0, 0,
    0x0e, 0x10, 0, 16, 0x20, 1, 0x0d, 0xb8, 0, 0, 0, 0, 0, 0, 0, 0, 0, 0, 0, 0x53]

/-- The wire format of the query and its response. -/
def nsCodec : MessageCodec where
  fromVec := fun bytes =>
    if bytes = nsQuery then some nsRequest else if bytes = nsBytes then some nsResponse else none
  toVec := fun message =>
    if message = nsRequest then some nsQuery
    else if message = nsResponse then some nsBytes else none

theorem exists_nsSnapshot :
    ∃ snapshot,
      loadSnapshot plainLibraries (fun text => .ok ⟨text⟩) (fun _ => some nsDocument) "example.com"
        "example.json" (.ok "") = .ok snapshot ∧
      snapshot.zone = "example.com" ∧ resolve nsCodec nsWire snapshot nsQuery = .ok nsBytes := by
  have hany : (loadSnapshot plainLibraries (fun text => .ok ⟨text⟩) (fun _ => some nsDocument)
      "example.com" "example.json" (.ok "")).toOption.any (fun snapshot =>
        decide (snapshot.zone = "example.com" ∧
          (resolve nsCodec nsWire snapshot nsQuery).toOption = some nsBytes)) = true := by
    decide +kernel
  obtain ⟨snapshot, hload, htest⟩ := exists_ok_of_any hany
  obtain ⟨hzone, hresolve⟩ := of_decide_eq_true htest
  exact ⟨snapshot, hload, hzone, toOption_eq_some.1 hresolve⟩

theorem fromVec_nsQuery : nsCodec.fromVec nsQuery = some nsRequest := by decide +kernel

theorem resolve_answers_document_ns :
    ∃ snapshot,
      loadSnapshot plainLibraries (fun text => .ok ⟨text⟩) (fun _ => some nsDocument) "example.com"
        "example.json" (.ok "") = .ok snapshot ∧
      resolve nsCodec nsWire snapshot nsQuery = .ok nsBytes ∧
      ∃ zone soa response, normalizeName nsDocument.zone = some zone ∧
        apexSoa plainLibraries (fun text => .ok ⟨text⟩) nsDocument zone = some soa ∧
        (∀ bytes, resolve nsCodec nsWire snapshot nsQuery = .ok bytes ↔
          nsCodec.toVec response = some bytes) ∧
        IsResponse nsWire (servedRecords plainLibraries (fun text => .ok ⟨text⟩) nsDocument zone)
          soa (LabelSuffix zone (toAsciiLowercase "example.com"))
          (ownerRecords plainLibraries (fun text => .ok ⟨text⟩) nsDocument zone "example.com")
          typeNs response := by
  obtain ⟨snapshot, hload, -, hresolve⟩ := exists_nsSnapshot
  have hname : IsPlainName ⟨"example.com."⟩ "example.com" := by decide +kernel
  exact ⟨snapshot, hload, hresolve,
    resolve_answers_document rfl hload fromVec_nsQuery rfl hname⟩

/-! ## Empty non-terminals -/

/-- The name owns no record, but a name below it does. -/
def IsEmptyNonTerminal (loaded : List (String × Record)) (name : String) : Prop :=
  (∀ entry ∈ loaded, entry.1 ≠ name) ∧
    ∃ entry ∈ loaded, entry.1 ≠ name ∧ LabelSuffix name entry.1

theorem recordsOf_eq_nil_iff {loaded : List (String × Record)} {name : String} :
    recordsOf loaded name = [] ↔ ∀ entry ∈ loaded, entry.1 ≠ name := by
  simp [recordsOf]

/-- A name of the zone gets NXDOMAIN exactly if it owns no record. -/
theorem nxDomain_iff {wire : RData → Bytes} {served : List (String × Record)} {soa : Record}
    {inZone : Prop} {records : List Record} {queryType : RecordType} {response : Message}
    (h : IsResponse wire served soa inZone records queryType response) (hzone : inZone) :
    response.metadata.responseCode = .nxDomain ↔ records = [] := by
  constructor
  · intro hcode
    by_contra hne
    have hnoError : response.metadata.responseCode = .noError := by
      by_cases hnil : expectedAnswers records queryType = []
      · exact (h.noData hzone hne hnil).1
      · exact (h.answers hzone hnil).1
    rw [hnoError] at hcode
    exact absurd hcode (by decide)
  · intro hnil
    exact (h.nxDomain hzone hnil).1

/-- **NXDOMAIN hides no record exactly if the name is no empty non-terminal.** A name of the zone
that is answered with NXDOMAIN has no record at or below it, unless all of them are below. -/
theorem nxDomain_hides_nothing_iff {lib : Libraries}
    {nameFromAscii : String → Except String Name}
    {fromStr : String → Option ZoneJsonDocument} {expectedZone sourceLabel text : String}
    {document : ZoneJsonDocument} {snapshot : ZoneSnapshot} {codec : MessageCodec}
    {wire : RData → Bytes} {query : Bytes} {request : Message} {question : Query} {name : String}
    (hdocument : fromStr text = some document)
    (hload : loadSnapshot lib nameFromAscii fromStr expectedZone sourceLabel (.ok text) =
      .ok snapshot)
    (hrequest : codec.fromVec query = some request)
    (hquestion : request.queries.head? = some question)
    (hname : normalizeName question.name.toAscii = some name)
    (hzone : LabelSuffix snapshot.zone name) :
    ∃ response,
      (∀ bytes, resolve codec wire snapshot query = .ok bytes ↔
        codec.toVec response = some bytes) ∧
      ((response.metadata.responseCode = .nxDomain →
          ∀ entry ∈ servedRecords lib nameFromAscii document snapshot.zone,
            ¬ LabelSuffix name entry.1) ↔
        ¬ IsEmptyNonTerminal (servedRecords lib nameFromAscii document snapshot.zone) name) := by
  obtain ⟨text', document', htext, hdocument', _, _, _, hholds, ⟨soa, hsoa⟩, _⟩ :=
    loadSnapshot_eq_ok hload
  obtain rfl := Except.ok.inj htext
  obtain rfl := Option.some.inj (hdocument.symm.trans hdocument')
  refine ⟨respond wire snapshot request question name,
    resolve_eq_ok_iff hrequest hquestion hname, ?_⟩
  rw [nxDomain_iff (isResponse_respond hholds hsoa request question name) hzone,
    recordsOf_eq_nil_iff]
  constructor
  · intro h ⟨hnone, entry, hentry, _, hbelow⟩
    exact h hnone entry hentry hbelow
  · intro h hnone entry hentry hbelow
    exact h ⟨hnone, entry, hentry, hnone entry hentry, hbelow⟩

theorem nxDomain_hides_nothing_iff_ns :
    ∃ snapshot,
      loadSnapshot plainLibraries (fun text => .ok ⟨text⟩) (fun _ => some nsDocument) "example.com"
        "example.json" (.ok "") = .ok snapshot ∧
      ∃ response,
        (∀ bytes, resolve nsCodec nsWire snapshot nsQuery = .ok bytes ↔
          nsCodec.toVec response = some bytes) ∧
        ((response.metadata.responseCode = .nxDomain →
            ∀ entry ∈ servedRecords plainLibraries (fun text => .ok ⟨text⟩) nsDocument
              snapshot.zone, ¬ LabelSuffix "example.com" entry.1) ↔
          ¬ IsEmptyNonTerminal (servedRecords plainLibraries (fun text => .ok ⟨text⟩) nsDocument
            snapshot.zone) "example.com") := by
  obtain ⟨snapshot, hload, hzone, -⟩ := exists_nsSnapshot
  have hname : normalizeName "example.com." = some "example.com" := by decide +kernel
  refine ⟨snapshot, hload, nxDomain_hides_nothing_iff rfl hload fromVec_nsQuery rfl hname ?_⟩
  rw [hzone]
  exact List.suffix_refl _

/-- A reverse zone with one host. -/
def reverseDocument : ZoneJsonDocument where
  zone := "168.192.in-addr.arpa"
  ttlDefault := none
  serial := none
  records :=
    [{ name := "5.1", recordType := "PTR", ttl := none
       data := .object [("target", .string "host.example.com")] }]

/-- A query for the name between the zone and the host. -/
def reverseRequest : Message where
  metadata :=
    { id := 0x1234, messageType := .query, opCode := .query, recursionDesired := true }
  queries := [⟨⟨"1.168.192.in-addr.arpa."⟩, .other 12, 1⟩]

def reverseResponse : Message where
  metadata :=
    { id := 0x1234, messageType := .response, opCode := .query, authoritative := true
      recursionDesired := true, responseCode := .nxDomain }
  queries := [⟨⟨"1.168.192.in-addr.arpa."⟩, .other 12, 1⟩]
  authorities :=
    [{ name := ⟨"168.192.in-addr.arpa."⟩, ttl := 3600
       data := .soa { mname := ⟨"ns1.168.192.in-addr.arpa."⟩
                      rname := ⟨"hostmaster.168.192.in-addr.arpa."⟩, serial := 1
                      refresh := 3600, retry := 900, expire := 604800, minimum := 300 } }]

def reverseQuestion : Bytes :=
  [1, 49, 3, 49, 54, 56, 3, 49, 57, 50, 7, 105, 110, 45, 97, 100, 100, 114, 4, 97, 114, 112, 97, 0,
    0, 12, 0, 1]

def reverseQuery : Bytes := [0x12, 0x34, 1, 0, 0, 1, 0, 0, 0, 0, 0, 0] ++ reverseQuestion

def reverseBytes : Bytes :=
  [0x12, 0x34, 0x85, 3, 0, 1, 0, 0, 0, 1, 0, 0] ++ reverseQuestion ++
    [0xc0, 0x0e, 0, 6, 0, 1, 0, 0, 0x0e, 0x10, 0, 39, 3, 110, 115, 49, 0xc0, 0x0e,
      10, 104, 111, 115, 116, 109, 97, 115, 116, 101, 114, 0xc0, 0x0e, 0, 0, 0, 1,
      0, 0, 0x0e, 0x10, 0, 0, 3, 0x84, 0, 9, 0x3a, 0x80, 0, 0, 1, 0x2c]

/-- The wire format of the query and its response. -/
def reverseCodec : MessageCodec where
  fromVec := fun bytes =>
    if bytes = reverseQuery then some reverseRequest
    else if bytes = reverseBytes then some reverseResponse else none
  toVec := fun message =>
    if message = reverseRequest then some reverseQuery
    else if message = reverseResponse then some reverseBytes else none

/-- The name between the zone and its only host is answered with NXDOMAIN. -/
theorem nxDomain_hides_host :
    ∃ snapshot bytes response,
      loadSnapshot plainLibraries (fun text => .ok ⟨text⟩) (fun _ => some reverseDocument)
        "168.192.in-addr.arpa" "reverse.json" (.ok "") = .ok snapshot ∧
      resolve reverseCodec nsWire snapshot reverseQuery = .ok bytes ∧
      reverseCodec.fromVec bytes = some response ∧
      response.metadata.responseCode = .nxDomain ∧
      ∃ entry ∈ servedRecords plainLibraries (fun text => .ok ⟨text⟩) reverseDocument
        "168.192.in-addr.arpa", entry.1 = "5.1.168.192.in-addr.arpa" ∧
          LabelSuffix "1.168.192.in-addr.arpa" entry.1 := by
  have hresolve : ((loadSnapshot plainLibraries (fun text => .ok ⟨text⟩)
      (fun _ => some reverseDocument) "168.192.in-addr.arpa" "reverse.json"
        (.ok "")).toOption.bind fun snapshot =>
          (resolve reverseCodec nsWire snapshot reverseQuery).toOption) = some reverseBytes := by
    decide +kernel
  obtain ⟨snapshot, hload, hresolve⟩ := Option.bind_eq_some_iff.1 hresolve
  refine ⟨snapshot, reverseBytes, reverseResponse, toOption_eq_some.1 hload,
    toOption_eq_some.1 hresolve, ?_⟩
  decide +kernel

end DnsFilter.ZoneAuthority
