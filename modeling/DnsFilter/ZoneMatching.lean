import DnsFilter.Filtering.Lines
import DnsFilter.Lib.Sort
import DnsFilter.Pipeline
import DnsFilter.ZoneAuthorityProof

/-!
# Zones and their subdomains

Three functions decide whether a name lies in a zone: `matchesAny` of the filter compares the last
labels, the two `domainMatchesZone` strip the zone from the end of the name.

* **`matchers_agree`** — they are one relation, `LabelSuffix`.
* `MostSpecific` — what a forwarding stage should select: a matching zone, and no matching zone has
  more labels.
* **`matchingEntry_mostSpecific_iff`** — the stage orders its zones by their length. Among the zones
  of one name this is the order by labels, but `.` is as long as a zone of one character
  (`RootHides`).
-/

namespace DnsFilter

open Text

/-! ## One relation -/

/-- Below the root, the forwarding stage matches as the zone authority does. -/
theorem domainMatchesZone_eq {domain zone : String} (h : zone ≠ ".") :
    domainMatchesZone domain zone = ZoneAuthority.domainMatchesZone domain zone := by
  show (if zone = "." then true else ZoneAuthority.domainMatchesZone domain zone) = _
  rw [if_neg h]

theorem matchesAny_singleton_iff {domain zone : String} :
    matchesAny {zone} domain = true ↔ LabelSuffix zone domain := by
  simp [matchesAny_iff]

/-- **The three matchers agree.** They compare whole labels: a name that is not the zone matches
with a dot before the zone. -/
theorem matchers_agree (domain zone : String) :
    matchesAny {zone} domain = ZoneAuthority.domainMatchesZone domain zone ∧
      (zone ≠ "." →
        domainMatchesZone domain zone = ZoneAuthority.domainMatchesZone domain zone) ∧
      (ZoneAuthority.domainMatchesZone domain zone = true ↔
        split '.' zone <:+ split '.' domain) ∧
      (ZoneAuthority.domainMatchesZone domain zone = true →
        domain = zone ∨ ∃ labels, domain = labels ++ "." ++ zone) := by
  refine ⟨?_, domainMatchesZone_eq, ZoneAuthority.domainMatchesZone_iff, ?_⟩
  · rw [Bool.eq_iff_iff, matchesAny_singleton_iff, ZoneAuthority.domainMatchesZone_iff]
  · intro h
    exact labelSuffix_iff.1 (ZoneAuthority.domainMatchesZone_iff.1 h)

/-! ## The zones of a stage -/

/-- The root has no labels. -/
def zoneLabels (zone : String) : Nat :=
  if zone = "." then 0 else (split '.' zone).length

/-- The zone is the root, or the name is the zone or below it. -/
def InZone (domain zone : String) : Prop :=
  zone = "." ∨ ∃ name, normalizeZone domain = some name ∧ LabelSuffix zone name

/-- The entry is one that `ZoneEntry::new` returns. -/
def ZoneEntry.Built {ρ : Type*} (entry : ZoneEntry ρ) : Prop :=
  ∃ zone, ZoneEntry.new zone entry.bypassFilter entry.fallbackToDefaultResolvers entry.resolver =
    .ok entry

/-- What a stage with these entries should select for a name. -/
def MostSpecific {ρ : Type*} (entries : List (ZoneEntry ρ)) (domain : String) :
    Option (ZoneEntry ρ) → Prop
  | some entry =>
      entry ∈ entries ∧ InZone domain entry.zone ∧
        ∀ other ∈ entries, InZone domain other.zone →
          zoneLabels other.zone ≤ zoneLabels entry.zone
  | none => ∀ entry ∈ entries, ¬ InZone domain entry.zone

/-- The zones of the name are the root, which stands first, and zones of one byte. -/
def RootHides {ρ : Type*} (entries : List (ZoneEntry ρ)) (domain : String) : Prop :=
  (∃ before root after, entries = before ++ root :: after ∧ root.zone = "." ∧
    ∀ entry ∈ before, ¬ InZone domain entry.zone) ∧
  (∃ entry ∈ entries, InZone domain entry.zone ∧ entry.zone ≠ ".") ∧
  ∀ entry ∈ entries, InZone domain entry.zone → entry.zone.utf8ByteSize = 1

theorem domainMatchesZone_iff_inZone {domain name : String} (h : normalizeZone domain = some name)
    {zone : String} : domainMatchesZone name zone = true ↔ InZone domain zone := by
  by_cases hroot : zone = "."
  · rw [domainMatchesZone, if_pos hroot]
    exact iff_of_true rfl (.inl hroot)
  · rw [domainMatchesZone_eq hroot, ZoneAuthority.domainMatchesZone_iff, InZone, h]
    simp [hroot]

theorem normalizeZone_ne_empty {value zone : String} (h : normalizeZone value = some zone) :
    zone ≠ "" := by
  unfold normalizeZone at h
  simp only at h
  split at h
  · split at h
    · cases h
      decide
    · exact absurd h (by simp)
  · rename_i hne
    intro hempty
    rw [Option.some.injEq, hempty] at h
    exact hne (toAsciiLowercase_eq_empty.1 h)

theorem ZoneEntry.Built.zone_ne_empty {ρ : Type*} {entry : ZoneEntry ρ} (h : entry.Built) :
    entry.zone ≠ "" := by
  obtain ⟨zone, hnew⟩ := h
  unfold ZoneEntry.new at hnew
  split at hnew
  · rename_i name hname
    rw [← Except.ok.inj hnew]
    exact normalizeZone_ne_empty hname
  · exact absurd hnew (by simp)

/-! ## Longer zones -/

/-- A zone above another zone of the name is shorter. -/
theorem utf8ByteSize_lt_of_labelSuffix {zone other : String} (h : LabelSuffix zone other)
    (hne : other ≠ zone) : zone.utf8ByteSize < other.utf8ByteSize := by
  obtain ⟨labels, rfl⟩ := (labelSuffix_iff.1 h).resolve_left hne
  rw [String.utf8ByteSize_append, String.utf8ByteSize_append]
  have hdot : ".".utf8ByteSize = 1 := rfl
  omega

/-- Among the zones of one name, a longer zone has at least as many labels. -/
theorem labels_le_of_utf8ByteSize_le {name zone other : String} (hzone : LabelSuffix zone name)
    (hother : LabelSuffix other name) (hle : other.utf8ByteSize ≤ zone.utf8ByteSize) :
    (split '.' other).length ≤ (split '.' zone).length := by
  by_contra hlt
  have hsuffix : LabelSuffix zone other :=
    List.suffix_of_suffix_length_le hzone hother (by omega)
  have hne : other ≠ zone := by
    intro heq
    rw [heq] at hlt
    exact hlt le_rfl
  have hsize := utf8ByteSize_lt_of_labelSuffix hsuffix hne
  omega

section Selection

variable {ρ : Type*} {entries : List (ZoneEntry ρ)} {domain name : String}

/-- The matching entry of a sorted stage is the longest zone of the name. -/
theorem utf8ByteSize_le_of_matchingEntry {entry other : ZoneEntry ρ}
    (h : (sortEntries entries).find? (fun entry => domainMatchesZone name entry.zone) = some entry)
    (hother : other ∈ entries) (hmatch : domainMatchesZone name other.zone = true) :
    other.zone.utf8ByteSize ≤ entry.zone.utf8ByteSize := by
  have hsorted := List.pairwise_insertionSort
    (fun a b : ZoneEntry ρ => b.zone.utf8ByteSize ≤ a.zone.utf8ByteSize) entries
  exact Sort.rel_of_find?_eq_some hsorted (fun _ => le_rfl) h
    ((List.mem_insertionSort _).2 hother) hmatch

/-- Zones of one length are searched in the given order. -/
theorem find?_sortEntries_of_utf8ByteSize_eq {p : ZoneEntry ρ → Bool} {n : Nat}
    (h : ∀ entry ∈ entries, p entry = true → entry.zone.utf8ByteSize = n) :
    (sortEntries entries).find? p = entries.find? p := by
  apply Sort.find?_insertionSort_of_forall
  intro a ha b hb hpa hpb
  rw [h a ha hpa, h b hb hpb]

theorem zoneLabels_pos {zone : String} (h : zone ≠ ".") : 0 < zoneLabels zone := by
  rw [zoneLabels, if_neg h]
  exact List.length_pos_iff.2 (split_ne_nil _ _)

theorem one_le_utf8ByteSize {zone : String} (h : zone ≠ "") : 1 ≤ zone.utf8ByteSize := by
  have hne : zone.utf8ByteSize ≠ 0 := by
    rw [ne_eq, String.utf8ByteSize_eq_zero_iff]
    exact h
  omega

/-- The root that hides the other zones of the name is what the stage finds. -/
theorem RootHides.find?_eq (h : RootHides entries domain)
    (hname : normalizeZone domain = some name) :
    ∃ root, root.zone = "." ∧
      (sortEntries entries).find? (fun entry => domainMatchesZone name entry.zone) = some root := by
  obtain ⟨⟨before, root, after, hentries, hroot, hbefore⟩, -, hsize⟩ := h
  refine ⟨root, hroot, ?_⟩
  rw [find?_sortEntries_of_utf8ByteSize_eq (n := 1)]
  · rw [List.find?_eq_some_iff_append]
    refine ⟨(domainMatchesZone_iff_inZone hname).2 (.inl hroot), before, after, hentries, ?_⟩
    intro entry hentry
    have hno := hbefore entry hentry
    rw [← domainMatchesZone_iff_inZone hname] at hno
    simpa using hno
  · intro entry hentry hmatch
    exact hsize entry hentry ((domainMatchesZone_iff_inZone hname).1 hmatch)

/-- If the stage finds the root although the name has another zone, the root hides it. -/
theorem rootHides_of_find?_eq (hbuilt : ∀ entry ∈ entries, entry.Built)
    (hname : normalizeZone domain = some name) {root other : ZoneEntry ρ} (hroot : root.zone = ".")
    (hfind : (sortEntries entries).find? (fun entry => domainMatchesZone name entry.zone) =
      some root)
    (hother : other ∈ entries) (hmatch : InZone domain other.zone) (hne : other.zone ≠ ".") :
    RootHides entries domain := by
  have hsize : ∀ entry ∈ entries, domainMatchesZone name entry.zone = true →
      entry.zone.utf8ByteSize = 1 := by
    intro entry hentry hentryMatch
    have hle := utf8ByteSize_le_of_matchingEntry hfind hentry hentryMatch
    have hpos := one_le_utf8ByteSize (hbuilt entry hentry).zone_ne_empty
    have hdot : root.zone.utf8ByteSize = 1 := by
      rw [hroot]
      rfl
    omega
  rw [find?_sortEntries_of_utf8ByteSize_eq hsize] at hfind
  obtain ⟨-, before, after, hentries, hbefore⟩ := List.find?_eq_some_iff_append.1 hfind
  refine ⟨⟨before, root, after, hentries, hroot, ?_⟩, ⟨other, hother, hmatch, hne⟩, ?_⟩
  · intro entry hentry
    rw [← domainMatchesZone_iff_inZone hname]
    simpa using hbefore entry hentry
  · intro entry hentry hin
    exact hsize entry hentry ((domainMatchesZone_iff_inZone hname).2 hin)

/-- What a stage with sorted entries selects, for a text that is a name. -/
theorem mostSpecific_find?_iff (hbuilt : ∀ entry ∈ entries, entry.Built)
    (hname : normalizeZone domain = some name) :
    MostSpecific entries domain
        ((sortEntries entries).find? fun entry => domainMatchesZone name entry.zone) ↔
      ¬ RootHides entries domain := by
  cases hfind : (sortEntries entries).find? fun entry => domainMatchesZone name entry.zone with
  | none =>
      have hnone : ∀ entry ∈ entries, ¬ InZone domain entry.zone := by
        intro entry hentry
        rw [← domainMatchesZone_iff_inZone hname]
        exact List.find?_eq_none.1 hfind entry ((List.mem_insertionSort _).2 hentry)
      refine iff_of_true hnone ?_
      intro ⟨_, ⟨entry, hentry, hmatch, _⟩, _⟩
      exact hnone entry hentry hmatch
  | some entry =>
      have hentry : entry ∈ entries :=
        (List.mem_insertionSort _).1 (List.mem_of_find?_eq_some hfind)
      have hmatch : domainMatchesZone name entry.zone = true := by
        have hfound := List.find?_some hfind
        exact hfound
      constructor
      · intro hspecific hhides
        obtain ⟨root, hroot, hfound⟩ := hhides.find?_eq hname
        rw [hfind, Option.some.injEq] at hfound
        obtain ⟨-, ⟨other, hother, hmatchOther, hne⟩, -⟩ := hhides
        have hle := hspecific.2.2 other hother hmatchOther
        rw [hfound, hroot] at hle
        have hpos := zoneLabels_pos hne
        have hzero : zoneLabels "." = 0 := rfl
        omega
      · intro hhides
        refine ⟨hentry, (domainMatchesZone_iff_inZone hname).1 hmatch, ?_⟩
        intro other hother hin
        by_cases hotherRoot : other.zone = "."
        · rw [hotherRoot]
          exact Nat.zero_le _
        by_cases hentryRoot : entry.zone = "."
        · exact absurd
            (rootHides_of_find?_eq hbuilt hname hentryRoot hfind hother hin hotherRoot) hhides
        · have hmatchOther := (domainMatchesZone_iff_inZone hname).2 hin
          have hsize := utf8ByteSize_le_of_matchingEntry hfind hother hmatchOther
          rw [domainMatchesZone_eq hotherRoot, ZoneAuthority.domainMatchesZone_iff] at hmatchOther
          rw [domainMatchesZone_eq hentryRoot, ZoneAuthority.domainMatchesZone_iff] at hmatch
          rw [zoneLabels, zoneLabels, if_neg hotherRoot, if_neg hentryRoot]
          exact labels_le_of_utf8ByteSize_le hmatch hmatchOther hsize

/-- The text is a name, or the stage has no entry for the root. -/
def NameOrNoRoot (entries : List (ZoneEntry ρ)) (domain : String) : Prop :=
  normalizeZone domain = none → ∀ entry ∈ entries, entry.zone ≠ "."

theorem mostSpecific_sortEntries_iff (hbuilt : ∀ entry ∈ entries, entry.Built) :
    MostSpecific entries domain (matchingEntry (sortEntries entries) domain) ↔
      NameOrNoRoot entries domain ∧ ¬ RootHides entries domain := by
  unfold matchingEntry NameOrNoRoot
  cases hname : normalizeZone domain with
  | some name =>
      rw [← mostSpecific_find?_iff hbuilt hname]
      simp
  | none =>
      have hin : ∀ zone, InZone domain zone ↔ zone = "." := by
        intro zone
        simp [InZone, hname]
      have hhides : ¬ RootHides entries domain := by
        intro ⟨_, ⟨entry, _, hmatch, hne⟩, _⟩
        exact hne ((hin entry.zone).1 hmatch)
      simp [MostSpecific, hin, hhides]

/-- **Each stage selects the most specific of its zones, unless the root hides it**: the root stands
before the other zones of the name, and all of these have one character. -/
theorem matchingEntry_mostSpecific_iff {entries : List (ZoneEntry ρ)}
    (hbuilt : ∀ entry ∈ entries, entry.Built) (domain : String) :
    (MostSpecific (entries.filter (·.bypassFilter)) domain
        (matchingEntry (bypassOnly entries) domain) ↔
      NameOrNoRoot (entries.filter (·.bypassFilter)) domain ∧
        ¬ RootHides (entries.filter (·.bypassFilter)) domain) ∧
    (MostSpecific (entries.filter (!·.bypassFilter)) domain
        (matchingEntry (nonBypass entries) domain) ↔
      NameOrNoRoot (entries.filter (!·.bypassFilter)) domain ∧
        ¬ RootHides (entries.filter (!·.bypassFilter)) domain) := by
  refine ⟨mostSpecific_sortEntries_iff ?_, mostSpecific_sortEntries_iff ?_⟩
  · intro entry hentry
    exact hbuilt entry (List.mem_of_mem_filter hentry)
  · intro entry hentry
    exact hbuilt entry (List.mem_of_mem_filter hentry)

end Selection

/-- The zones of a configuration that forwards the root and one more zone. -/
def rootAnd (zone : String) : List (ZoneEntry String) :=
  [⟨".", false, false, "root"⟩, ⟨zone, false, false, "inner"⟩]

theorem built_rootAnd {zone : String} (h : normalizeZone zone = some zone) :
    ∀ entry ∈ rootAnd zone, entry.Built := by
  intro entry hentry
  simp only [rootAnd, List.mem_cons, List.not_mem_nil, or_false] at hentry
  rcases hentry with rfl | rfl
  · exact ⟨".", by decide +kernel⟩
  · exact ⟨zone, by rw [ZoneEntry.new, h]⟩

theorem matchingEntry_mostSpecific_lan :
    (∀ entry ∈ rootAnd "lan", entry.Built) ∧
      (MostSpecific ((rootAnd "lan").filter (!·.bypassFilter)) "Nas.LAN."
          (matchingEntry (nonBypass (rootAnd "lan")) "Nas.LAN.") ↔
        NameOrNoRoot ((rootAnd "lan").filter (!·.bypassFilter)) "Nas.LAN." ∧
          ¬ RootHides ((rootAnd "lan").filter (!·.bypassFilter)) "Nas.LAN.") :=
  have hbuilt : ∀ entry ∈ rootAnd "lan", entry.Built := built_rootAnd (by decide +kernel)
  ⟨hbuilt, (matchingEntry_mostSpecific_iff hbuilt "Nas.LAN.").2⟩

/-- The root is selected for a name below the zone `a`. -/
theorem root_hides_one_letter_zone :
    (∀ entry ∈ rootAnd "a", entry.Built) ∧
      (matchingEntry (nonBypass (rootAnd "a")) "x.a").map (·.zone) = some "." ∧
      ¬ MostSpecific ((rootAnd "a").filter (!·.bypassFilter)) "x.a"
          (matchingEntry (nonBypass (rootAnd "a")) "x.a") := by
  have hselected : matchingEntry (nonBypass (rootAnd "a")) "x.a" =
      some ⟨".", false, false, "root"⟩ := by decide +kernel
  refine ⟨built_rootAnd (by decide +kernel), by rw [hselected]; rfl, ?_⟩
  rw [hselected]
  intro hspecific
  have hin : InZone "x.a" "a" := .inr ⟨"x.a", by decide +kernel, by decide +kernel⟩
  have hle := hspecific.2.2 ⟨"a", false, false, "inner"⟩ (by simp [rootAnd]) hin
  exact absurd hle (by decide +kernel)

end DnsFilter
