import DnsFilter.Filtering.EngineProof
import DnsFilter.Filtering.LinesProof

/-!
# No dead entries

The domains of a list are normalised when the list is parsed, the name of a query when it is
looked up.

* `IsNormal` — the texts that the normaliser leaves alone. Every domain of a parsed list is one
  (`isNormal_of_mem_entries`).
* `withLabels` — a name below a domain. However the domain's case is written, and with dots at the
  end, the normaliser finds the domain in it (`normalizeDomain_append`, `labelSuffix_withLabels`).
* **`noDeadEntries`** — so an entry of a loaded list that is not switched off decides its domain and
  every name below it.
-/

namespace DnsFilter

open Text ListFilterEngine

/-! ## Normal forms -/

/-- The text is trimmed, in lower case, and has no dot at the end and no wildcard in front. -/
structure IsNormal (domain : String) : Prop where
  notWhitespace : ∀ c ∈ domain.toList, isWhitespace c = false
  lower : ∀ c ∈ domain.toList, c.toLower = c
  noTrailingDot : ∀ c ∈ domain.toList.getLast?, c ≠ '.'
  noWildcard : startsWith "*." domain = false

theorem toAsciiLowercase_eq_self {s : String} (h : ∀ c ∈ s.toList, c.toLower = c) :
    toAsciiLowercase s = s := by
  apply String.toList_inj.1
  rw [toList_toAsciiLowercase, List.map_congr_left h, List.map_id']

/-- Trailing dots and upper case do not change what the normaliser returns. -/
theorem normalizeDomain_append {text dots : String} (h : IsNormal (toAsciiLowercase text))
    (hdots : ∀ c ∈ dots.toList, c = '.') :
    normalizeDomain (text ++ dots) = toAsciiLowercase text := by
  have hspace : ∀ c ∈ (text ++ dots).toList, isWhitespace c = false := by
    intro c hc
    rw [String.toList_append, List.mem_append] at hc
    rcases hc with hc | hc
    · rw [← isWhitespace_toLower]
      apply h.notWhitespace
      rw [toList_toAsciiLowercase]
      exact List.mem_map_of_mem hc
    · rw [hdots c hc]
      rfl
  have hdot : ∀ c ∈ text.toList.getLast?, c ≠ '.' := by
    intro c hc heq
    apply h.noTrailingDot '.' _ rfl
    rw [toList_toAsciiLowercase, List.getLast?_map, hc, heq]
    rfl
  rw [normalizeDomain, trim_eq_self_of_forall hspace, trimEndMatches_append_of_forall hdots,
    trimEndMatches_eq_self hdot, trimStartMatches_eq_self h.noWildcard]

theorem IsNormal.normalizeDomain_eq {domain : String} (h : IsNormal domain) :
    normalizeDomain domain = domain := by
  have hlower := toAsciiLowercase_eq_self h.lower
  have hnormal : normalizeDomain (domain ++ "") = toAsciiLowercase domain :=
    normalizeDomain_append (by rwa [hlower]) (by simp)
  rwa [hlower, String.append_empty] at hnormal

/-- What the normaliser returns is normal, if it has no white space. -/
theorem isNormal_normalizeDomain {input : String}
    (h : ∀ c ∈ (normalizeDomain input).toList, isWhitespace c = false) :
    IsNormal (normalizeDomain input) := by
  have hsuffix : (normalizeDomain input).toList <:+
      (toAsciiLowercase (trimEndMatches '.' (trim input))).toList :=
    toList_trimStartMatches_suffix "*." _
  rw [toList_toAsciiLowercase] at hsuffix
  refine ⟨h, ?_, ?_, startsWith_trimStartMatches (by decide) _⟩
  · intro c hc
    obtain ⟨d, -, rfl⟩ := List.mem_map.1 (hsuffix.subset hc)
    exact toLower_toLower d
  · intro c hc heq
    obtain ⟨front, hfront⟩ := hsuffix
    have hlast := congrArg List.getLast? hfront
    rw [List.getLast?_append, hc, List.getLast?_map, Option.some_or] at hlast
    obtain ⟨d, hd, hlower⟩ := Option.map_eq_some_iff.1 hlast.symm
    exact getLast?_trimEndMatches '.' _ d hd (eq_of_toLower_eq (by decide) (hlower.trans heq))

/-! ## Names below a domain -/

/-- The label is of letters, digits and hyphens. -/
def IsLdhLabel (label : String) : Prop :=
  label ≠ "" ∧ ∀ c ∈ label.toList, isAsciiAlphanumeric c || c == '-'

/-- The name with labels in front of it. -/
def withLabels (labels : List String) (name : String) : String :=
  labels.foldr (fun label name => label ++ "." ++ name) name

theorem isWhitespace_of_isAsciiAlphanumeric {c : Char} (h : isAsciiAlphanumeric c = true) :
    isWhitespace c = false := by
  have hnat := toNat_of_isAsciiAlphanumeric h
  simp [isWhitespace]
  omega

/-- Labels hold no white space and no wildcard. -/
theorem ne_star_of_ldh {c : Char} (h : (isAsciiAlphanumeric c || c == '-') = true) :
    isWhitespace c = false ∧ c ≠ '*' := by
  rw [Bool.or_eq_true, beq_iff_eq] at h
  rcases h with h | rfl
  · refine ⟨isWhitespace_of_isAsciiAlphanumeric h, ?_⟩
    intro heq
    subst heq
    exact absurd h (by decide)
  · decide

theorem toAsciiLowercase_withLabel (label name : String) :
    toAsciiLowercase (label ++ "." ++ name) =
      toAsciiLowercase label ++ "." ++ toAsciiLowercase name := by
  apply String.toList_inj.1
  simp [toList_toAsciiLowercase]

theorem isNormal_withLabel {label name : String} (hlabel : IsLdhLabel label)
    (h : IsNormal (toAsciiLowercase name)) (hne : name ≠ "") :
    IsNormal (toAsciiLowercase (label ++ "." ++ name)) := by
  have hchars : (toAsciiLowercase (label ++ "." ++ name)).toList =
      label.toList.map Char.toLower ++ '.' :: (toAsciiLowercase name).toList := by
    rw [toAsciiLowercase_withLabel]
    simp [toList_toAsciiLowercase]
  refine ⟨?_, ?_, ?_, ?_⟩
  · intro c hc
    rw [hchars, List.mem_append, List.mem_cons] at hc
    rcases hc with hc | rfl | hc
    · obtain ⟨d, hd, rfl⟩ := List.mem_map.1 hc
      rw [isWhitespace_toLower]
      exact (ne_star_of_ldh (hlabel.2 d hd)).1
    · rfl
    · exact h.notWhitespace c hc
  · intro c hc
    rw [toList_toAsciiLowercase] at hc
    obtain ⟨d, -, rfl⟩ := List.mem_map.1 hc
    exact toLower_toLower d
  · intro c hc
    rw [hchars, List.getLast?_append, List.getLast?_cons] at hc
    have hlast : (toAsciiLowercase name).toList.getLast?.isSome := by
      rw [List.getLast?_isSome, ne_eq, String.toList_eq_nil_iff, toAsciiLowercase_eq_empty]
      exact hne
    obtain ⟨d, hd⟩ := Option.isSome_iff_exists.1 hlast
    rw [hd] at hc
    rw [← Option.some.inj hc]
    exact h.noTrailingDot d hd
  · rw [Bool.eq_false_iff]
    intro hstart
    obtain ⟨rest, hrest⟩ := startsWith_iff.1 hstart
    rw [hrest] at hchars
    cases hl : label.toList with
    | nil => exact hlabel.1 (String.toList_eq_nil_iff.1 hl)
    | cons c cs =>
        rw [hl, String.toList_append] at hchars
        have hc : '*' = c.toLower := (List.cons.inj hchars).1
        have hstar := (ne_star_of_ldh (hlabel.2 c (by simp [hl]))).2
        exact hstar (eq_of_toLower_eq (by decide) hc.symm)

theorem isNormal_withLabels {labels : List String} (hlabels : ∀ label ∈ labels, IsLdhLabel label)
    {name : String} (h : IsNormal (toAsciiLowercase name)) (hne : name ≠ "") :
    withLabels labels name ≠ "" ∧ IsNormal (toAsciiLowercase (withLabels labels name)) := by
  induction labels with
  | nil => exact ⟨hne, h⟩
  | cons label labels ih =>
      have ih := ih fun l hl => hlabels l (List.mem_cons_of_mem _ hl)
      refine ⟨?_, isNormal_withLabel (hlabels label List.mem_cons_self) ih.2 ih.1⟩
      intro hempty
      have hlength := congrArg (fun s : String => s.toList.length) hempty
      simp [withLabels] at hlength

theorem labelSuffix_withLabels (labels : List String) (name : String) :
    LabelSuffix (toAsciiLowercase name) (toAsciiLowercase (withLabels labels name)) := by
  induction labels with
  | nil => exact List.suffix_rfl
  | cons label labels ih =>
      have hcons := toAsciiLowercase_withLabel label (withLabels labels name)
      show LabelSuffix _ (toAsciiLowercase (label ++ "." ++ withLabels labels name))
      rw [hcons]
      exact ih.trans (labelSuffix_iff.2 (.inr ⟨_, rfl⟩))

/-! ## The domains of a list -/

section Entries

variable {nameFromAscii : String → Bool}

/-- The domain a line blocks or allows. -/
def ParsedLine.domain : ParsedLine → String
  | .block domain => domain
  | .allow domain => domain

/-- A line blocks or allows what the normaliser made of one of its tokens. -/
def FromToken (nameFromAscii : String → Bool) (result : ParseDomainLineResult) : Prop :=
  ∀ rule, result = .parsed rule → ∃ token, normalizeDomainOpt nameFromAscii token = some rule.domain

theorem fromToken_skipped : FromToken nameFromAscii .skipped := by
  intro rule hrule
  exact absurd hrule (by simp)

theorem fromToken_parsedOrSkipped {wrap : String → ParsedLine} (hwrap : ∀ d, (wrap d).domain = d)
    (token : String) : FromToken nameFromAscii (parsedOrSkipped nameFromAscii wrap token) := by
  intro rule hrule
  obtain ⟨domain, hdomain, rfl⟩ := parsedOrSkipped_eq_parsed.1 hrule
  exact ⟨token, by rw [hdomain, hwrap]⟩

theorem fromToken_block (token : String) :
    FromToken nameFromAscii (parsedOrSkipped nameFromAscii .block token) :=
  fromToken_parsedOrSkipped (fun _ => rfl) token

theorem fromToken_of_pure {parsed result : ParseDomainLineResult}
    (hparsed : FromToken nameFromAscii parsed) (h : (pure parsed : Option _) = some result) :
    FromToken nameFromAscii result :=
  Option.some.inj h ▸ hparsed

theorem fromToken_adguard {line : String} {result : ParseDomainLineResult}
    (h : parseAdguardLine nameFromAscii line = some result) : FromToken nameFromAscii result := by
  unfold parseAdguardLine at h
  obtain ⟨trimmed, -, h⟩ := Option.bind_eq_some_iff.1 h
  split at h
  · exact fromToken_of_pure fromToken_skipped h
  cases hexception : stripPrefix "@@" trimmed with
  | some rule =>
      simp only [hexception, if_true] at h
      split at h
      · split at h
        · exact fromToken_of_pure fromToken_skipped h
        · exact fromToken_of_pure (fromToken_parsedOrSkipped (fun _ => rfl) _) h
      · exact fromToken_of_pure fromToken_skipped h
  | none =>
      simp only [hexception, Bool.false_eq_true, if_false] at h
      split at h
      · split at h
        · exact fromToken_of_pure fromToken_skipped h
        · exact fromToken_of_pure (fromToken_block _) h
      · split at h
        · exact absurd h (by simp)
        · exact fromToken_of_pure (fromToken_block _) h
        · exact fromToken_of_pure (fromToken_block _) h

theorem fromToken_domainList {line : String} {result : ParseDomainLineResult}
    (h : parseDomainListLine nameFromAscii line = some result) :
    FromToken nameFromAscii result := by
  unfold parseDomainListLine at h
  obtain ⟨trimmed, -, h⟩ := Option.bind_eq_some_iff.1 h
  obtain ⟨domain, -, h⟩ := Option.bind_eq_some_iff.1 h
  rw [← Option.some.inj h]
  exact fromToken_block domain

theorem fromToken_hosts {line : String} {result : ParseDomainLineResult}
    (h : result ∈ parseHostsLine nameFromAscii line) : FromToken nameFromAscii result := by
  have hmap : ∀ tokens : List String,
      result ∈ tokens.map (parsedOrSkipped nameFromAscii .block) →
        FromToken nameFromAscii result := by
    intro tokens hmem
    obtain ⟨token, -, rfl⟩ := List.mem_map.1 hmem
    exact fromToken_block token
  unfold parseHostsLine at h
  split at h
  · exact absurd h List.not_mem_nil
  · split at h
    · exact absurd h List.not_mem_nil
    · split at h
      · split at h
        · rw [List.mem_singleton.1 h]
          exact fromToken_skipped
        · exact hmap _ h
      · exact hmap _ h

theorem fromToken_rpz {line : String} {result : ParseDomainLineResult}
    (h : parseRpzLine nameFromAscii line = some result) : FromToken nameFromAscii result := by
  unfold parseRpzLine at h
  simp only at h
  split at h
  · exact absurd h (by simp)
  split at h
  · exact absurd h (by simp)
  split at h
  · exact fromToken_of_pure fromToken_skipped h
  obtain ⟨⟨owner, rtypeIdx⟩, -, h⟩ := Option.bind_eq_some_iff.1 h
  dsimp only at h
  split at h
  · exact absurd h (by simp)
  split at h
  · split at h
    · split at h
      · exact fromToken_of_pure (fromToken_block owner) h
      · split at h
        · exact fromToken_of_pure (fromToken_parsedOrSkipped (fun _ => rfl) owner) h
        · exact fromToken_of_pure (fromToken_block owner) h
    · exact fromToken_of_pure fromToken_skipped h
  · split at h
    · exact fromToken_of_pure (fromToken_block owner) h
    · exact fromToken_of_pure fromToken_skipped h

theorem fromToken_of_mem_parseLines {content : String} {format : ListFormat}
    {result : ParseDomainLineResult} (h : result ∈ parseLines nameFromAscii content format) :
    FromToken nameFromAscii result := by
  cases format with
  | adguard =>
      obtain ⟨line, -, hline⟩ := List.mem_filterMap.1 h
      exact fromToken_adguard hline
  | hosts =>
      obtain ⟨line, -, hline⟩ := List.mem_flatMap.1 h
      exact fromToken_hosts hline
  | rpz =>
      obtain ⟨line, -, hline⟩ := List.mem_filterMap.1 h
      exact fromToken_rpz hline
  | domains =>
      obtain ⟨line, -, hline⟩ := List.mem_filterMap.1 h
      exact fromToken_domainList hline
  | wildcard =>
      obtain ⟨line, -, hline⟩ := List.mem_filterMap.1 h
      exact fromToken_domainList hline

/-- The sets collect the domains of the lines. -/
theorem mem_foldl_collect (results : List ParseDomainLineResult) (acc : ParsedList) (d : String) :
    (d ∈ (results.foldl ParsedList.collect acc).blocks ↔
        d ∈ acc.blocks ∨ .parsed (.block d) ∈ results) ∧
      (d ∈ (results.foldl ParsedList.collect acc).exceptions ↔
        d ∈ acc.exceptions ∨ .parsed (.allow d) ∈ results) := by
  induction results generalizing acc with
  | nil => simp
  | cons result results ih =>
      rw [List.foldl_cons, (ih _).1, (ih _).2]
      cases result with
      | skipped => simp [ParsedList.collect]
      | parsed line =>
          cases line with
          | block e => simp [ParsedList.collect, or_assoc, or_left_comm]
          | allow e => simp [ParsedList.collect, or_assoc, or_left_comm]

/-- The domains of a parsed list. -/
def ParsedList.entries (parsed : ParsedList) : Finset String := parsed.blocks ∪ parsed.exceptions

theorem exists_token_of_mem_entries {content : String} {format : ListFormat} {d : String}
    (h : d ∈ (parseListContent nameFromAscii content format).entries) :
    ∃ token, normalizeDomainOpt nameFromAscii token = some d := by
  rw [ParsedList.entries, Finset.mem_union, parseListContent, (mem_foldl_collect _ _ d).1,
    (mem_foldl_collect _ _ d).2] at h
  rcases h with (h | h) | (h | h)
  · exact absurd h (by simp)
  · exact fromToken_of_mem_parseLines h _ rfl
  · exact absurd h (by simp)
  · exact fromToken_of_mem_parseLines h _ rfl

/-- What the DNS library accepts as a name: ASCII text without white space. -/
def AcceptsAscii (nameFromAscii : String → Bool) : Prop :=
  ∀ name, nameFromAscii name = true →
    ∀ c ∈ name.toList, c.toNat < 128 ∧ isWhitespace c = false

theorem normalizeDomainOpt_eq_some {token d : String}
    (h : normalizeDomainOpt nameFromAscii token = some d) :
    normalizeDomain token = d ∧ d ≠ "" ∧ nameFromAscii d = true := by
  unfold normalizeDomainOpt at h
  simp only at h
  split at h
  · exact absurd h (by simp)
  · rename_i hne
    split at h
    · rename_i hname
      rw [Option.some.injEq] at h
      exact ⟨h, h ▸ hne, h ▸ hname⟩
    · exact absurd h (by simp)

theorem isNormal_of_mem_entries (hname : AcceptsAscii nameFromAscii) {content : String}
    {format : ListFormat} {d : String}
    (h : d ∈ (parseListContent nameFromAscii content format).entries) : d ≠ "" ∧ IsNormal d := by
  obtain ⟨token, htoken⟩ := exists_token_of_mem_entries h
  obtain ⟨hnorm, hne, hvalid⟩ := normalizeDomainOpt_eq_some htoken
  refine ⟨hne, ?_⟩
  rw [← hnorm] at hvalid ⊢
  exact isNormal_normalizeDomain fun c hc => (hname _ hvalid c hc).2

end Entries

/-! ## Decisions -/

section Decisions

variable {nameFromAscii : String → Bool} {fromJson : String → Option CachedListDocument}

/-- The snapshot is the one that a rebuild would compute. -/
def SnapshotCurrent (engine : ListFilterEngine) : Prop :=
  engine.snapshot = computeSnapshot engine.runtimes engine.lists

theorem snapshotCurrent_apply {engine : ListFilterEngine} (h : SnapshotCurrent engine)
    (op : EngineOp) : SnapshotCurrent (op.apply nameFromAscii fromJson engine) := by
  have hswitch : ∀ name flag, SnapshotCurrent (engine.switchList name flag).2 := by
    intro name flag
    unfold switchList
    split
    · rfl
    · exact h
  cases op with
  | refresh name fetched =>
      unfold EngineOp.apply
      dsimp only
      split
      · cases fetched with
        | ok content => rfl
        | error e => exact h
      · exact h
  | restore load =>
      show SnapshotCurrent (engine.tryRestoreDocumentCache fromJson load)
      unfold tryRestoreDocumentCache
      dsimp only
      split
      · rfl
      · exact h
  | enable name => exact hswitch name false
  | disable name => exact hswitch name true

theorem snapshotCurrent_runOps {engine : ListFilterEngine} (h : SnapshotCurrent engine)
    (ops : List EngineOp) : SnapshotCurrent (runOps nameFromAscii fromJson ops engine) := by
  induction ops generalizing engine with
  | nil => exact h
  | cons op ops ih => exact ih (snapshotCurrent_apply h op)

theorem snapshotCurrent_built {config : DnsFilterConfig}
    {cacheRepo : Option (String → Except String (Option FilterCacheDocumentRecord))}
    {built : ListFilterEngine}
    (h : fromConfigWithCache fromJson config cacheRepo = .ok built) : SnapshotCurrent built := by
  obtain ⟨empty, hempty, rfl⟩ := exists_empty_of_built h
  obtain ⟨-, -, hlists, hsnapshot⟩ := fromConfigWithCache_none hempty
  have hcurrent : SnapshotCurrent empty := by
    rw [SnapshotCurrent, hsnapshot, hlists]
    rfl
  cases cacheRepo with
  | none => exact hcurrent
  | some load =>
      have hrestored : SnapshotCurrent
          ((EngineOp.restore load).apply (fun _ => true) fromJson empty) :=
        snapshotCurrent_apply hcurrent (.restore load)
      exact hrestored

/-- An entry of a list that is loaded and not switched off is in the snapshot. -/
theorem mem_snapshot_of_loaded {engine : ListFilterEngine} (h : SnapshotCurrent engine)
    {runtime : ListRuntime} {content : String}
    (hloaded : engine.lists.lookup runtime.key =
      some (loadedContent nameFromAscii runtime content))
    (henabled : runtime.key ∉ disabledKeys engine.runtimes) {d : String}
    (hd : d ∈ (parseListContent nameFromAscii content runtime.format).entries) :
    d ∈ engine.snapshot.blocked ∨ d ∈ engine.snapshot.allowed := by
  rw [h, mem_computeSnapshot_blocked, mem_computeSnapshot_allowed]
  have hcontent : d ∈ (loadedContent nameFromAscii runtime content).blocks ∨
      d ∈ (loadedContent nameFromAscii runtime content).allows := by
    rw [ParsedList.entries, Finset.mem_union] at hd
    unfold ListDomains.blocks ListDomains.allows loadedContent
    cases runtime.kind with
    | block => exact hd
    | allow => exact .inr (Finset.mem_union.2 hd)
  rcases hcontent with hd | hd
  · exact .inl ⟨_, _, hloaded, henabled, hd⟩
  · exact .inr ⟨_, _, hloaded, henabled, hd⟩

theorem decideDomain_ne_neutral {engine : ListFilterEngine} {d domain : String}
    (hd : d ∈ engine.snapshot.blocked ∨ d ∈ engine.snapshot.allowed)
    (hne : normalizeDomain domain ≠ "") (hsuffix : LabelSuffix d (normalizeDomain domain)) :
    engine.decideDomain domain ≠ .neutral := by
  unfold decideDomain
  dsimp only
  rw [if_neg hne]
  by_cases hallow : matchesAny engine.snapshot.allowed (normalizeDomain domain) = true
  · rw [if_pos hallow]
    simp
  · rw [if_neg hallow]
    rcases hd with hd | hd
    · rw [if_pos (matchesAny_iff.2 ⟨d, hd, hsuffix⟩)]
      simp
    · exact absurd (matchesAny_iff.2 ⟨d, hd, hsuffix⟩) hallow

/-- **No entry of a list is dead.** The domains of a list are normal; whenever the list is loaded
and not switched off, each of them decides itself and every name below it, in every spelling of
its case and with any dots at the end. -/
theorem noDeadEntries (hname : AcceptsAscii nameFromAscii) (content : String) :
    (∀ format, ∀ d ∈ (parseListContent nameFromAscii content format).blocks ∪
        (parseListContent nameFromAscii content format).exceptions,
      d ≠ "" ∧ normalizeDomain d = d) ∧
    ∀ (config : DnsFilterConfig)
      (cacheRepo : Option (String → Except String (Option FilterCacheDocumentRecord)))
      (built : ListFilterEngine) (ops : List EngineOp) (runtime : ListRuntime),
      fromConfigWithCache fromJson config cacheRepo = .ok built →
      (runOps nameFromAscii fromJson ops built).lists.lookup runtime.key =
        some (loadedContent nameFromAscii runtime content) →
      runtime.key ∉ disabledKeys (runOps nameFromAscii fromJson ops built).runtimes →
      ∀ d ∈ (parseListContent nameFromAscii content runtime.format).blocks ∪
          (parseListContent nameFromAscii content runtime.format).exceptions,
        ∀ (labels : List String) (variant dots : String),
          (∀ label ∈ labels, IsLdhLabel label) → eqIgnoreAsciiCase variant d = true →
          (∀ c ∈ dots.toList, c = '.') →
          (runOps nameFromAscii fromJson ops built).decideDomain
            (withLabels labels variant ++ dots) ≠ .neutral := by
  refine ⟨?_, ?_⟩
  · intro format d hd
    obtain ⟨hne, hnormal⟩ := isNormal_of_mem_entries hname hd
    exact ⟨hne, hnormal.normalizeDomain_eq⟩
  · intro config cacheRepo built ops runtime hbuilt hloaded henabled d hd labels variant dots
      hlabels hvariant hdots
    obtain ⟨hne, hnormal⟩ := isNormal_of_mem_entries hname hd
    have hcurrent : SnapshotCurrent (runOps nameFromAscii fromJson ops built) :=
      snapshotCurrent_runOps (snapshotCurrent_built hbuilt) ops
    -- the variant differs from the domain in its case only
    have hlower : toAsciiLowercase variant = d := by
      rw [eqIgnoreAsciiCase, beq_iff_eq] at hvariant
      rw [hvariant, toAsciiLowercase_eq_self hnormal.lower]
    have hvariantNe : variant ≠ "" := by
      intro hempty
      exact hne (by rw [← hlower, toAsciiLowercase_eq_empty, hempty])
    obtain ⟨hfullNe, hfull⟩ := isNormal_withLabels hlabels (by rwa [hlower]) hvariantNe
    have hnorm := normalizeDomain_append hfull hdots
    apply decideDomain_ne_neutral (mem_snapshot_of_loaded hcurrent hloaded henabled hd)
    · rw [hnorm, ne_eq, toAsciiLowercase_eq_empty]
      exact hfullNe
    · rw [hnorm, ← hlower]
      exact labelSuffix_withLabels labels variant

theorem acceptsAscii_isHostName : AcceptsAscii isHostName := by
  intro name hname c hc
  have hchar := List.all_eq_true.1 hname c hc
  simp only [Bool.or_eq_true, beq_iff_eq] at hchar
  rcases hchar with ((halnum | rfl) | rfl) | rfl
  · have hnat := toNat_of_isAsciiAlphanumeric halnum
    exact ⟨by omega, isWhitespace_of_isAsciiAlphanumeric halnum⟩
  all_goals decide

/-- The runtime of the blocklist of `twoListConfig`. -/
def adsListRuntime : ListRuntime where
  key := "block:ads"
  name := "ads"
  url := "https://lists.example/ads"
  interval := 43200
  kind := .block
  format := .adguard
  runtimeDisabled := false

theorem noDeadEntries_ads :
    ∃ built, fromConfigWithCache (fun _ => none) twoListConfig none = .ok built ∧
      (runOps isHostName (fun _ => none) [.refresh "ads" (.ok "||Ads.Example.^")]
        built).decideDomain (withLabels ["www"] "ADS.example" ++ "..") ≠ .neutral := by
  have hany : (fromConfigWithCache (fun _ => none) twoListConfig none).toOption.any (fun built =>
      let engine := runOps isHostName (fun _ => none) [.refresh "ads" (.ok "||Ads.Example.^")] built
      engine.lists.lookup adsListRuntime.key =
          some (loadedContent isHostName adsListRuntime "||Ads.Example.^") ∧
        adsListRuntime.key ∉ disabledKeys engine.runtimes) = true := by decide +kernel
  obtain ⟨built, hbuilt, htest⟩ := exists_ok_of_any hany
  obtain ⟨hloaded, henabled⟩ := of_decide_eq_true htest
  refine ⟨built, hbuilt, ?_⟩
  refine (noDeadEntries acceptsAscii_isHostName "||Ads.Example.^").2 twoListConfig none built _
    adsListRuntime hbuilt hloaded henabled "ads.example" (by decide +kernel) ["www"] "ADS.example"
    ".." ?_ (by decide +kernel) (by simp)
  intro label hlabel
  rw [List.mem_singleton.1 hlabel]
  exact ⟨by decide, List.all_eq_true.1 (by decide)⟩

end Decisions

end DnsFilter
