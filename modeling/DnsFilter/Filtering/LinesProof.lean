import DnsFilter.Filtering.Lines

/-!
# What the line parsers accept

Two comparisons of a line parser with what it is meant to accept.

* **`sameBlocks_iff`** — the fallback of the AdGuard parser against the hosts parser. The fallback
  takes one host name of a line, the hosts parser all of them, so they agree exactly on lines that
  name one domain.
* **`networkRule_failClosed_iff`** — the network rules of the AdGuard parser. A rule is a domain, an
  optional `^` and modifiers that mean the same at the DNS level; the parser also takes rules with
  text after the `^`, and modifiers without a key.
-/

namespace DnsFilter

open Text

/-! ## Names -/

/-- The texts that are domain names of letters, digits, hyphens and underscores. -/
def isHostName (name : String) : Bool :=
  name.toList.all fun c => isAsciiAlphanumeric c || c == '-' || c == '_' || c == '.'

variable {nameFromAscii : String → Bool}

theorem parsedOrSkipped_eq_parsed {rule : String → ParsedLine} {token : String}
    {line : ParsedLine} :
    parsedOrSkipped nameFromAscii rule token = .parsed line ↔
      ∃ domain, normalizeDomainOpt nameFromAscii token = some domain ∧ rule domain = line := by
  unfold parsedOrSkipped
  cases normalizeDomainOpt nameFromAscii token with
  | none => simp
  | some d => simp

theorem parsedOrSkipped_eq_block {token domain : String} :
    parsedOrSkipped nameFromAscii .block token = .parsed (.block domain) ↔
      normalizeDomainOpt nameFromAscii token = some domain := by
  unfold parsedOrSkipped
  cases normalizeDomainOpt nameFromAscii token with
  | none => simp
  | some d => simp

/-! ## Hosts lines -/

/-- The line is left to the fallback of the AdGuard parser: it is no network rule, no exception and
no cosmetic rule. -/
structure FallbackLine (line : String) : Prop where
  notRule : startsWith "||" (trim line) = false
  notException : startsWith "@@" (trim line) = false
  notCosmetic : ∀ marker ∈ cosmeticMarkers, contains marker (trim line) = false

/-- The domains that the results of a line block. -/
def blockedDomains (results : List ParseDomainLineResult) : Set String :=
  { domain | .parsed (.block domain) ∈ results }

/-- The tokens of a line that is no comment. -/
def hostTokens (line : String) : List String :=
  match skipCommentLine line with
  | none => []
  | some trimmed => splitWhitespace (withoutComment trimmed)

/-- The fallback of the AdGuard parser on the tokens of a line. -/
def adguardTokens (nameFromAscii : String → Bool) :
    List String → Option ParseDomainLineResult
  | [] => none
  | [first] => some (parsedOrSkipped nameFromAscii .block first)
  | first :: second :: _ =>
      some (parsedOrSkipped nameFromAscii .block (if isIpLike first then second else first))

/-- The host names among the tokens of a hosts line. -/
def lineHosts : List String → List String
  | [] => []
  | first :: rest => if isIpLike first then rest else first :: rest

/-- A line that is not skipped is trimmed. -/
theorem eq_trim_of_skipCommentLine {line trimmed : String}
    (h : skipCommentLine line = some trimmed) : trimmed = trim line := by
  unfold skipCommentLine at h
  dsimp only at h
  split at h
  · exact absurd h (by simp)
  · exact (Option.some.inj h).symm

theorem parseAdguardLine_fallback {line : String} (h : FallbackLine line) :
    parseAdguardLine nameFromAscii line = adguardTokens nameFromAscii (hostTokens line) := by
  obtain ⟨hrule, hexception, hcosmetic⟩ := h
  unfold parseAdguardLine hostTokens
  cases hskip : skipCommentLine line with
  | none => rfl
  | some trimmed =>
      have htrim := eq_trim_of_skipCommentLine hskip
      have hno : (cosmeticMarkers.any (contains · trimmed)) = false := by
        rw [htrim, List.any_eq_false]
        intro marker hmarker
        simp [hcosmetic marker hmarker]
      have hnoException : stripPrefix "@@" trimmed = none := by
        rw [htrim, stripPrefix, hexception]
        rfl
      have hnoRule : stripPrefix "||" trimmed = none := by
        rw [htrim, stripPrefix, hrule]
        rfl
      simp only [bind, Option.bind, hno, Bool.false_eq_true, if_false, hnoException, hnoRule]
      cases splitWhitespace (withoutComment trimmed) with
      | nil => rfl
      | cons first rest =>
          cases rest with
          | nil => rfl
          | cons second rest => rfl

theorem mem_blockedDomains_hosts {line domain : String} :
    domain ∈ blockedDomains (parseHostsLine nameFromAscii line) ↔
      ∃ token ∈ lineHosts (hostTokens line),
        normalizeDomainOpt nameFromAscii token = some domain := by
  have hmap : ∀ tokens : List String,
      .parsed (.block domain) ∈ tokens.map (parsedOrSkipped nameFromAscii .block) ↔
        ∃ token ∈ tokens, normalizeDomainOpt nameFromAscii token = some domain := by
    intro tokens
    simp only [List.mem_map, parsedOrSkipped_eq_block]
  unfold blockedDomains parseHostsLine hostTokens
  cases skipCommentLine line with
  | none => simp [lineHosts]
  | some trimmed =>
      simp only
      cases splitWhitespace (withoutComment trimmed) with
      | nil => simp [lineHosts]
      | cons first rest =>
          unfold lineHosts
          by_cases hip : isIpLike first = true
          · by_cases hrest : rest = []
            · simp [hip, hrest]
            · simp only [hip, hrest, if_true, if_false, Set.mem_ofPred_eq, hmap]
          · simp only [hip, if_false, Set.mem_ofPred_eq, hmap, Bool.false_eq_true]

/-- The AdGuard fallback blocks what the hosts parser blocks. -/
def SameBlocks (nameFromAscii : String → Bool) (line : String) : Prop :=
  blockedDomains (parseAdguardLine nameFromAscii line).toList =
    blockedDomains (parseHostsLine nameFromAscii line)

/-- The tokens name at most one domain: an address alone on its line is no domain name, and every
host name after the first is that domain again or no domain name. -/
def NamesOneDomain (nameFromAscii : String → Bool) (tokens : List String) : Prop :=
  match lineHosts tokens with
  | [] => ∀ address ∈ tokens, normalizeDomainOpt nameFromAscii address = none
  | host :: others => ∀ other ∈ others, normalizeDomainOpt nameFromAscii other = none ∨
      normalizeDomainOpt nameFromAscii other = normalizeDomainOpt nameFromAscii host

/-- The token that the fallback takes is the first host name, or an address that stands alone. -/
theorem adguardTokens_eq (tokens : List String) :
    adguardTokens nameFromAscii tokens =
      ((lineHosts tokens).head?.or tokens.head?).map (parsedOrSkipped nameFromAscii .block) := by
  cases tokens with
  | nil => rfl
  | cons first rest =>
      cases rest with
      | nil => cases hip : isIpLike first <;> simp [adguardTokens, lineHosts, hip]
      | cons second rest => cases hip : isIpLike first <;> simp [adguardTokens, lineHosts, hip]

theorem mem_blockedDomains_adguard {line domain : String} (h : FallbackLine line) :
    domain ∈ blockedDomains (parseAdguardLine nameFromAscii line).toList ↔
      ∃ token ∈ (lineHosts (hostTokens line)).head?.or (hostTokens line).head?,
        normalizeDomainOpt nameFromAscii token = some domain := by
  rw [parseAdguardLine_fallback h, adguardTokens_eq]
  cases (lineHosts (hostTokens line)).head?.or (hostTokens line).head? with
  | none => simp [blockedDomains]
  | some token =>
      simp [blockedDomains, eq_comm (a := ParseDomainLineResult.parsed _), parsedOrSkipped_eq_block]

/-- An address that stands alone is the only token of its line. -/
theorem eq_singleton_of_lineHosts_eq_nil {tokens : List String} (h : lineHosts tokens = []) :
    tokens = [] ∨ ∃ address, tokens = [address] := by
  cases tokens with
  | nil => exact .inl rfl
  | cons first rest =>
      rw [lineHosts] at h
      split at h
      · exact .inr ⟨first, by rw [h]⟩
      · exact absurd h (by simp)

/-- **The AdGuard fallback and the hosts parser block the same domains exactly on the lines that
name one domain.** -/
theorem sameBlocks_iff {line : String} (h : FallbackLine line) :
    SameBlocks nameFromAscii line ↔ NamesOneDomain nameFromAscii (hostTokens line) := by
  have hsame : SameBlocks nameFromAscii line ↔ ∀ domain,
      (∃ token ∈ (lineHosts (hostTokens line)).head?.or (hostTokens line).head?,
        normalizeDomainOpt nameFromAscii token = some domain) ↔
      ∃ token ∈ lineHosts (hostTokens line),
        normalizeDomainOpt nameFromAscii token = some domain := by
    rw [SameBlocks, Set.ext_iff]
    simp only [mem_blockedDomains_adguard h, mem_blockedDomains_hosts]
  rw [hsame]
  unfold NamesOneDomain
  cases hhosts : lineHosts (hostTokens line) with
  | nil =>
      rcases eq_singleton_of_lineHosts_eq_nil hhosts with htokens | ⟨address, htokens⟩
      · simp [htokens]
      · simp [htokens, Option.eq_none_iff_forall_ne_some]
  | cons host others =>
      simp only [List.head?_cons, Option.some_or, Option.mem_some_iff, exists_eq_left',
        List.mem_cons, exists_eq_or_imp]
      constructor
      · intro hall other hother
        cases hnorm : normalizeDomainOpt nameFromAscii other with
        | none => exact .inl rfl
        | some domain =>
            right
            rw [(hall domain).2 (.inr ⟨other, hother, hnorm⟩)]
      · intro hall domain
        constructor
        · intro hhost
          exact .inl hhost
        · intro hex
          rcases hex with hhost | ⟨other, hother, hnorm⟩
          · exact hhost
          · rcases hall other hother with hnone | heq
            · exact absurd (hnone.symm.trans hnorm) (by simp)
            · rw [← heq, hnorm]

theorem sameBlocks_iff_oneHost :
    FallbackLine "0.0.0.0 ads.example # tracker" ∧
      (SameBlocks isHostName "0.0.0.0 ads.example # tracker" ↔
        NamesOneDomain isHostName (hostTokens "0.0.0.0 ads.example # tracker")) :=
  have h : FallbackLine "0.0.0.0 ads.example # tracker" :=
    ⟨by decide +kernel, by decide +kernel, by decide +kernel⟩
  ⟨h, sameBlocks_iff h⟩

/-- The second host name of a line is dropped. -/
theorem second_host_not_blocked :
    FallbackLine "0.0.0.0 ads.example tracker.example" ∧
      parseAdguardLine isHostName "0.0.0.0 ads.example tracker.example" =
        some (.parsed (.block "ads.example")) ∧
      parseHostsLine isHostName "0.0.0.0 ads.example tracker.example" =
        [.parsed (.block "ads.example"), .parsed (.block "tracker.example")] ∧
      ¬ SameBlocks isHostName "0.0.0.0 ads.example tracker.example" := by
  have hadguard : parseAdguardLine isHostName "0.0.0.0 ads.example tracker.example" =
      some (.parsed (.block "ads.example")) := by decide +kernel
  have hhosts : parseHostsLine isHostName "0.0.0.0 ads.example tracker.example" =
      [.parsed (.block "ads.example"), .parsed (.block "tracker.example")] := by decide +kernel
  refine ⟨⟨by decide +kernel, by decide +kernel, by decide +kernel⟩, hadguard, hhosts, ?_⟩
  intro hsame
  rw [SameBlocks, hadguard, hhosts, Set.ext_iff] at hsame
  have htracker := (hsame "tracker.example").2 (by simp [blockedDomains])
  simp [blockedDomains] at htracker

/-! ## Network rules -/

/-- The trimmed line is the pattern of a block or an exception rule. -/
def NetworkLine (line rule : String) : Prop :=
  trim line = "||" ++ rule ∨ trim line = "@@||" ++ rule

/-- The forms of a network rule: its text and its modifiers. -/
inductive NetworkRule (domain : String) : String → String → Prop
  | plain : NetworkRule domain domain ""
  | caret : NetworkRule domain (domain ++ "^") ""
  | modifiers (modifiers : String) : NetworkRule domain (domain ++ "$" ++ modifiers) modifiers
  | caretModifiers (modifiers : String) :
      NetworkRule domain (domain ++ "^" ++ ("$" ++ modifiers)) modifiers

/-- The key of a modifier, as the modifier loop reads it. -/
def modifierKey (raw : String) : String :=
  trim ((split '=' (trimStartBy (· == '~') (trim raw))).headD "")

/-- The modifier is blank or means the same at the DNS level. -/
def SafeModifier (raw : String) : Prop :=
  trim raw = "" ∨ modifierKey raw = "important" ∨ modifierKey raw = "match-case" ∨
    modifierKey raw = "all" ∨
    modifierKey raw ≠ "" ∧ (modifierKey raw).toList.all (· == '_') = true

/-- The rule is a domain with safe modifiers, and stands for this name. -/
def IsNetworkRule (nameFromAscii : String → Bool) (rule name : String) : Prop :=
  ∃ domain modifiers, NetworkRule domain rule modifiers ∧ '^' ∉ domain.toList ∧
    '$' ∉ domain.toList ∧ normalizeDomainOpt nameFromAscii domain = some name ∧
    ∀ raw ∈ split ',' modifiers, SafeModifier raw

/-- The line is skipped, unless its rule is a domain with safe modifiers. -/
def FailClosed (nameFromAscii : String → Bool) (line rule : String) : Prop :=
  parseAdguardLine nameFromAscii line = some .skipped ∨
    ∃ name, (parseAdguardLine nameFromAscii line = some (.parsed (.block name)) ∨
      parseAdguardLine nameFromAscii line = some (.parsed (.allow name))) ∧
      IsNetworkRule nameFromAscii rule name

/-- Nothing but modifiers follows the first `^`. -/
def NothingAfterCaret (rule : String) : Prop :=
  ∀ domain rest, '^' ∉ domain.toList → rule = domain ++ "^" ++ rest →
    rest = "" ∨ ∃ modifiers, rest = "$" ++ modifiers

/-- The domain and the modifiers of a rule: the domain ends at the first `^`, or else at the first
`$`; behind a `^` the modifiers start with `$`. -/
inductive RuleParts : String → String → String → Prop
  | plain {rule : String} (hcaret : '^' ∉ rule.toList) (hdollar : '$' ∉ rule.toList) :
      RuleParts rule rule ""
  | modifiers {domain modifiers : String} (hcaret : '^' ∉ (domain ++ "$" ++ modifiers).toList)
      (hdollar : '$' ∉ domain.toList) : RuleParts (domain ++ "$" ++ modifiers) domain modifiers
  | caret {domain rest : String} (hcaret : '^' ∉ domain.toList)
      (hrest : ∀ modifiers, rest ≠ "$" ++ modifiers) : RuleParts (domain ++ "^" ++ rest) domain ""
  | caretModifiers {domain modifiers : String} (hcaret : '^' ∉ domain.toList) :
      RuleParts (domain ++ "^" ++ ("$" ++ modifiers)) domain modifiers

/-- No modifier of the rule has an empty key, but for blank ones. -/
def ModifiersHaveKeys (rule : String) : Prop :=
  ∀ domain modifiers, RuleParts rule domain modifiers →
    ∀ raw ∈ split ',' modifiers, trim raw = "" ∨ modifierKey raw ≠ ""

/-- The line is skipped for its markers, its modifiers or its domain: it has a cosmetic marker, or
its rule has a modifier with a key that is not safe, or the domain of the rule is no name. -/
def IsSkipped (nameFromAscii : String → Bool) (line rule : String) : Prop :=
  (∃ marker ∈ cosmeticMarkers, ∃ before after, trim line = before ++ marker ++ after) ∨
    ∃ domain modifiers, RuleParts rule domain modifiers ∧
      ((∃ raw ∈ split ',' modifiers, ¬ SafeModifier raw ∧ modifierKey raw ≠ "") ∨
        normalizeDomainOpt nameFromAscii domain = none)

theorem restrictingKey_eq_none {raw : String} :
    restrictingKey raw = none ↔ SafeModifier raw ∨ modifierKey raw = "" := by
  have hkey : restrictingKey raw =
      if trim raw = "" then none
      else if modifierKey raw = "important" ∨ modifierKey raw = "match-case" ∨
        modifierKey raw = "all" then none
      else if modifierKey raw ≠ "" ∧ (modifierKey raw).toList.all (· == '_') then none
      else if modifierKey raw = "" then none
      else some (modifierKey raw) := rfl
  rw [hkey, SafeModifier]
  generalize modifierKey raw = key
  split_ifs with hblank hsafe hnoop hempty
  · exact iff_of_true rfl (.inl (.inl hblank))
  · refine iff_of_true rfl (.inl (.inr ?_))
    tauto
  · exact iff_of_true rfl (.inl (.inr (.inr (.inr (.inr hnoop)))))
  · exact iff_of_true rfl (.inr hempty)
  · refine iff_of_false (by simp) ?_
    tauto

theorem restrictingModifier_eq_none {modifiers : String} :
    (restrictingModifier modifiers).isSome = false ↔
      ∀ raw ∈ split ',' modifiers, SafeModifier raw ∨ modifierKey raw = "" := by
  rw [Option.isSome_eq_false_iff, Option.isNone_iff_eq_none, restrictingModifier,
    List.findSome?_eq_none_iff]
  simp only [restrictingKey_eq_none]

/-- A safe modifier that is not blank has a key. -/
theorem SafeModifier.key_ne_empty {raw : String} (h : SafeModifier raw) :
    trim raw = "" ∨ modifierKey raw ≠ "" := by
  rcases h with h | h | h | h | h
  · exact .inl h
  · exact .inr (by simp [h])
  · exact .inr (by simp [h])
  · exact .inr (by simp [h])
  · exact .inr h.1

/-- The characters that cannot be trimmed are still there after normalisation. -/
theorem mem_normalizeDomain {c : Char} (hspace : isWhitespace c = false) (hdot : c ≠ '.')
    (hstar : c ≠ '*') (hlower : c.toLower = c) {domain : String} (h : c ∈ domain.toList) :
    c ∈ (normalizeDomain domain).toList := by
  apply mem_trimStartMatches (by simp [hdot, hstar])
  apply mem_toAsciiLowercase hlower
  exact mem_trimEndBy (by simpa using hdot) (mem_trim hspace h)

/-- A domain that normalises to a name has no `$`. -/
theorem dollar_notMem_of_normalizes (hname : ∀ name, nameFromAscii name = true → '$' ∉ name.toList)
    {domain name : String} (h : normalizeDomainOpt nameFromAscii domain = some name) :
    '$' ∉ domain.toList := by
  intro hmem
  have hnormal := mem_normalizeDomain (by decide) (by decide) (by decide) (by decide) hmem
  unfold normalizeDomainOpt at h
  dsimp only at h
  split at h
  · exact absurd h (by simp)
  · split at h
    · rename_i haccepted
      exact hname _ haccepted hnormal
    · exact absurd h (by simp)

theorem toList_caret : "^".toList = ['^'] := rfl

theorem toList_dollar : "$".toList = ['$'] := rfl

theorem stripPrefix_dollar_empty : (stripPrefix "$" "").getD "" = "" := by decide +kernel

/-- How the text of a rule is split, by its first `^` and `$`. -/
theorem splitDomainAndModifiers_caret {domain : String} (h : '^' ∉ domain.toList) (rest : String) :
    splitDomainAndModifiers (domain ++ "^" ++ rest) =
      (domain, (stripPrefix "$" rest).getD "") := by
  rw [splitDomainAndModifiers, splitOnce_append rfl h]

theorem splitDomainAndModifiers_dollar {domain : String} (h : '$' ∉ domain.toList)
    (modifiers : String) (hrule : '^' ∉ (domain ++ "$" ++ modifiers).toList) :
    splitDomainAndModifiers (domain ++ "$" ++ modifiers) = (domain, modifiers) := by
  rw [splitDomainAndModifiers, splitOnce_eq_none hrule]
  dsimp only
  rw [splitOnce_append rfl h]
  rfl

theorem splitDomainAndModifiers_plain {rule : String} (hcaret : '^' ∉ rule.toList)
    (hdollar : '$' ∉ rule.toList) : splitDomainAndModifiers rule = (rule, "") := by
  rw [splitDomainAndModifiers, splitOnce_eq_none hcaret]
  dsimp only
  rw [splitOnce_eq_none hdollar]
  rfl

/-- The parser finds the parts of the rule. -/
theorem ruleParts_iff {rule domain modifiers : String} :
    RuleParts rule domain modifiers ↔ splitDomainAndModifiers rule = (domain, modifiers) := by
  constructor
  · intro h
    cases h with
    | plain hcaret hdollar => exact splitDomainAndModifiers_plain hcaret hdollar
    | modifiers hcaret hdollar => exact splitDomainAndModifiers_dollar hdollar _ hcaret
    | @caret _ rest hcaret hrest =>
        have hstrip : stripPrefix "$" rest = none := by
          rw [Option.eq_none_iff_forall_ne_some]
          exact fun modifiers h => hrest modifiers (stripPrefix_eq_some.1 h)
        rw [splitDomainAndModifiers_caret hcaret, hstrip]
        rfl
    | caretModifiers hcaret =>
        rw [splitDomainAndModifiers_caret hcaret, stripPrefix_append]
        rfl
  · intro h
    rcases exists_splitOnce toList_caret rule with hcaret | ⟨front, rest, hcaret, rfl⟩
    · rcases exists_splitOnce toList_dollar rule with hdollar | ⟨front, rest, hdollar, rfl⟩
      · rw [splitDomainAndModifiers_plain hcaret hdollar] at h
        obtain ⟨rfl, rfl⟩ := Prod.mk.inj h
        exact .plain hcaret hdollar
      · rw [splitDomainAndModifiers_dollar hdollar rest hcaret] at h
        obtain ⟨rfl, rfl⟩ := Prod.mk.inj h
        exact .modifiers hcaret hdollar
    · rw [splitDomainAndModifiers_caret hcaret] at h
      cases hstrip : stripPrefix "$" rest with
      | none =>
          rw [hstrip] at h
          obtain ⟨rfl, rfl⟩ := Prod.mk.inj h
          refine .caret hcaret ?_
          rintro modifiers rfl
          rw [stripPrefix_append] at hstrip
          exact absurd hstrip (by simp)
      | some modifiers' =>
          rw [hstrip] at h
          obtain ⟨rfl, rfl⟩ := Prod.mk.inj h
          rw [stripPrefix_eq_some.1 hstrip]
          exact .caretModifiers hcaret

theorem modifiersHaveKeys_iff {rule : String} :
    ModifiersHaveKeys rule ↔
      ∀ raw ∈ split ',' (splitDomainAndModifiers rule).2, trim raw = "" ∨ modifierKey raw ≠ "" := by
  simp only [ModifiersHaveKeys, ruleParts_iff, Prod.ext_iff]
  constructor
  · intro h
    exact h _ _ ⟨rfl, rfl⟩
  · rintro h _ _ ⟨-, rfl⟩
    exact h

theorem isSkipped_iff {line rule : String} :
    IsSkipped nameFromAscii line rule ↔
      cosmeticMarkers.any (contains · (trim line)) = true ∨
        (restrictingModifier (splitDomainAndModifiers rule).2).isSome = true ∨
        normalizeDomainOpt nameFromAscii (splitDomainAndModifiers rule).1 = none := by
  have hmarker (marker : String) :
      contains marker (trim line) = true ↔ ∃ before after, trim line = before ++ marker ++ after :=
    contains_iff
  have hmodifier (modifiers : String) : (restrictingModifier modifiers).isSome = true ↔
      ∃ raw ∈ split ',' modifiers, ¬ SafeModifier raw ∧ modifierKey raw ≠ "" := by
    rw [← not_iff_not, Bool.not_eq_true, restrictingModifier_eq_none]
    simp only [not_exists, not_and, not_not, or_iff_not_imp_left]
  rw [IsSkipped, List.any_eq_true]
  simp only [hmarker, hmodifier, ruleParts_iff, Prod.ext_iff]
  apply or_congr_right
  constructor
  · rintro ⟨_, _, ⟨rfl, rfl⟩, h⟩
    exact h
  · intro h
    exact ⟨_, _, ⟨rfl, rfl⟩, h⟩

/-- A rule of one of the forms is split into its domain and its modifiers, if what stands before the
first `^` has no `$`. -/
theorem NetworkRule.split {domain rule modifiers : String} (h : NetworkRule domain rule modifiers)
    (hcaret : '^' ∉ domain.toList) (hdollar : '$' ∉ domain.toList)
    (hbefore : '$' ∉ (splitDomainAndModifiers rule).1.toList) :
    NothingAfterCaret rule ∧ splitDomainAndModifiers rule = (domain, modifiers) := by
  cases h with
  | plain =>
      refine ⟨?_, splitDomainAndModifiers_plain hcaret hdollar⟩
      intro before rest _ heq
      exact absurd (by simp [heq]) hcaret
  | caret =>
      have hsplit := splitDomainAndModifiers_caret hcaret ""
      rw [String.append_empty] at hsplit
      refine ⟨?_, ?_⟩
      · intro before rest hnot heq
        have hfirst := splitOnce_append toList_caret hcaret ""
        rw [String.append_empty, heq, splitOnce_append toList_caret hnot] at hfirst
        exact .inl (Prod.mk.inj (Option.some.inj hfirst)).2
      · rw [hsplit, stripPrefix_dollar_empty]
  | modifiers modifiers =>
      by_cases hrule : '^' ∈ (domain ++ "$" ++ modifiers).toList
      · -- the first `^` stands after the `$`, so the `$` is in what stands before it
        obtain ⟨first, rest, hnot, rfl⟩ : ∃ first rest, '^' ∉ first.toList ∧
            modifiers = first ++ "^" ++ rest := by
          have hmem : '^' ∈ modifiers.toList := by
            simpa [hcaret] using hrule
          rcases exists_splitOnce toList_caret modifiers with hno | hex
          · exact absurd hmem hno
          · exact hex
        have hfront : '^' ∉ (domain ++ "$" ++ first).toList := by
          simp [hcaret, hnot]
        have hassoc : domain ++ "$" ++ (first ++ "^" ++ rest) =
            domain ++ "$" ++ first ++ "^" ++ rest := by
          simp [String.append_assoc]
        rw [hassoc, splitDomainAndModifiers_caret hfront] at hbefore
        exact absurd (by simp) hbefore
      · refine ⟨?_, splitDomainAndModifiers_dollar hdollar modifiers hrule⟩
        intro before rest _ heq
        exact absurd (by simp [heq]) hrule
  | caretModifiers modifiers =>
      refine ⟨?_, ?_⟩
      · intro before rest hnot heq
        have hfirst := splitOnce_append toList_caret hcaret ("$" ++ modifiers)
        rw [heq, splitOnce_append toList_caret hnot] at hfirst
        exact .inr ⟨modifiers, (Prod.mk.inj (Option.some.inj hfirst)).2⟩
      · rw [splitDomainAndModifiers_caret hcaret, stripPrefix_append]
        rfl

/-- A rule with nothing after its `^` has one of the forms. -/
theorem networkRule_of_split {rule : String} (h : NothingAfterCaret rule)
    (hbefore : '$' ∉ (splitDomainAndModifiers rule).1.toList) :
    NetworkRule (splitDomainAndModifiers rule).1 rule (splitDomainAndModifiers rule).2 ∧
      '^' ∉ (splitDomainAndModifiers rule).1.toList := by
  rcases exists_splitOnce toList_caret rule with hcaret | ⟨domain, rest, hcaret, rfl⟩
  · rcases exists_splitOnce toList_dollar rule with hdollar | ⟨domain, rest, hdollar, rfl⟩
    · rw [splitDomainAndModifiers_plain hcaret hdollar]
      exact ⟨.plain, hcaret⟩
    · rw [splitDomainAndModifiers_dollar hdollar rest hcaret]
      refine ⟨.modifiers rest, ?_⟩
      intro hmem
      exact hcaret (by simp [hmem])
  · rw [splitDomainAndModifiers_caret hcaret]
    refine ⟨?_, hcaret⟩
    rcases h domain rest hcaret rfl with rfl | ⟨modifiers, rfl⟩
    · rw [stripPrefix_dollar_empty, String.append_empty]
      exact .caret
    · rw [stripPrefix_append]
      exact .caretModifiers modifiers

variable (nameFromAscii) in
/-- A network line is skipped, or parsed as the domain before its first `^` or `$`. -/
theorem parseAdguardLine_networkLine {line rule : String} (h : NetworkLine line rule) :
    ∃ kind : String → ParsedLine, (kind = .block ∨ kind = .allow) ∧
      parseAdguardLine nameFromAscii line =
        some (if cosmeticMarkers.any (contains · (trim line)) then .skipped
          else if (restrictingModifier (splitDomainAndModifiers rule).2).isSome then .skipped
          else parsedOrSkipped nameFromAscii kind (splitDomainAndModifiers rule).1) := by
  have hhead : ∀ text : String, (trim line).toList.head? ≠ text.toList.head? →
      text ≠ "" → startsWith text (trim line) = false := by
    intro text hne hempty
    rw [Bool.eq_false_iff, Ne, startsWith_iff]
    rintro ⟨rest, hrest⟩
    apply hne
    rw [hrest, String.toList_append, List.head?_append_of_ne_nil]
    simpa using hempty
  have hskip : skipCommentLine line = some (trim line) := by
    have hfirst : (trim line).toList.head? = some '|' ∨ (trim line).toList.head? = some '@' := by
      rcases h with h | h
      · exact .inl (by simp [h])
      · exact .inr (by simp [h])
    have hne : trim line ≠ "" := by
      intro hempty
      rw [hempty] at hfirst
      exact absurd hfirst (by decide)
    have hhash := hhead "#" (by rcases hfirst with h | h <;> simp [h]) (by simp)
    have hbang := hhead "!" (by rcases hfirst with h | h <;> simp [h]) (by simp)
    simp [skipCommentLine, hne, hhash, hbang]
  unfold parseAdguardLine
  rw [hskip]
  rcases h with h | h
  · refine ⟨.block, .inl rfl, ?_⟩
    have hexception : stripPrefix "@@" (trim line) = none := by
      rw [stripPrefix, hhead "@@" (by simp [h]) (by simp)]
      rfl
    have hrule : stripPrefix "||" (trim line) = some rule := by
      rw [h, stripPrefix_append]
    simp only [bind, Option.bind, hexception, hrule, pure, Bool.false_eq_true, if_false]
    split_ifs <;> rfl
  · refine ⟨.allow, .inr rfl, ?_⟩
    have hexception : stripPrefix "@@" (trim line) = some ("||" ++ rule) :=
      stripPrefix_eq_some.2 h
    simp only [bind, Option.bind, hexception, stripPrefix_append, pure, if_true]
    split_ifs <;> rfl

/-- **A network rule is parsed fail-closed exactly if it is skipped anyway, or nothing but modifiers
follows its `^` and all its modifiers have keys.** -/
theorem networkRule_failClosed_iff
    (hname : ∀ name, nameFromAscii name = true → '$' ∉ name.toList) {line rule : String}
    (h : NetworkLine line rule) :
    FailClosed nameFromAscii line rule ↔
      IsSkipped nameFromAscii line rule ∨ NothingAfterCaret rule ∧ ModifiersHaveKeys rule := by
  obtain ⟨kind, hkind, hparse⟩ := parseAdguardLine_networkLine nameFromAscii h
  rw [isSkipped_iff, modifiersHaveKeys_iff]
  unfold FailClosed
  rw [hparse]
  by_cases hcosmetic : cosmeticMarkers.any (contains · (trim line)) = true
  · simp [hcosmetic]
  by_cases hmodifiers : (restrictingModifier (splitDomainAndModifiers rule).2).isSome = true
  · simp [hmodifiers]
  cases hdomain : normalizeDomainOpt nameFromAscii (splitDomainAndModifiers rule).1 with
  | none => simp [parsedOrSkipped, hdomain]
  | some name =>
      have hbefore := dollar_notMem_of_normalizes hname hdomain
      have hsafe := restrictingModifier_eq_none.1 (Bool.eq_false_iff.2 hmodifiers)
      have hrule : IsNetworkRule nameFromAscii rule name ↔ NothingAfterCaret rule ∧
          ∀ raw ∈ split ',' (splitDomainAndModifiers rule).2,
            trim raw = "" ∨ modifierKey raw ≠ "" := by
        constructor
        · intro ⟨domain, modifiers, hform, hcaret, hdollar, _, hall⟩
          obtain ⟨hafter, hsplit⟩ := hform.split hcaret hdollar hbefore
          refine ⟨hafter, ?_⟩
          intro raw hraw
          rw [hsplit] at hraw
          exact (hall raw hraw).key_ne_empty
        · intro ⟨hafter, hkeys⟩
          obtain ⟨hform, hcaret⟩ := networkRule_of_split hafter hbefore
          refine ⟨_, _, hform, hcaret, hbefore, hdomain, ?_⟩
          intro raw hraw
          rcases hsafe raw hraw with hsafe | hempty
          · exact hsafe
          · exact .inl ((hkeys raw hraw).resolve_right fun hne => hne hempty)
      have hresult : parsedOrSkipped nameFromAscii kind (splitDomainAndModifiers rule).1 =
          .parsed (kind name) := by
        simp [parsedOrSkipped, hdomain]
      simp only [hcosmetic, hmodifiers, if_false, Bool.false_eq_true, hresult, false_or,
        reduceCtorEq, Option.some.injEq]
      rw [← hrule]
      rcases hkind with rfl | rfl
      · simp
      · simp

theorem dollar_notMem_of_isHostName (name : String) (h : isHostName name = true) :
    '$' ∉ name.toList := by
  intro hmem
  exact absurd (List.all_eq_true.1 h _ hmem) (by decide)

theorem networkRule_failClosed_iff_important :
    NetworkLine "||ads.example^$important" "ads.example^$important" ∧
      (FailClosed isHostName "||ads.example^$important" "ads.example^$important" ↔
        IsSkipped isHostName "||ads.example^$important" "ads.example^$important" ∨
          NothingAfterCaret "ads.example^$important" ∧
            ModifiersHaveKeys "ads.example^$important") :=
  have h : NetworkLine "||ads.example^$important" "ads.example^$important" :=
    .inl (by decide +kernel)
  ⟨h, networkRule_failClosed_iff dollar_notMem_of_isHostName h⟩

/-- A rule for one path of a site blocks the whole site. -/
theorem path_rule_blocks_site :
    NetworkLine "||example.com^/banner" "example.com^/banner" ∧
      parseAdguardLine isHostName "||example.com^/banner" =
        some (.parsed (.block "example.com")) ∧
      ¬ FailClosed isHostName "||example.com^/banner" "example.com^/banner" := by
  have hparse : parseAdguardLine isHostName "||example.com^/banner" =
      some (.parsed (.block "example.com")) := by decide +kernel
  refine ⟨.inl (by decide +kernel), hparse, ?_⟩
  intro h
  rw [FailClosed, hparse] at h
  rcases h with h | ⟨name, _, domain, modifiers, hform, hcaret, hdollar, _⟩
  · exact absurd h (by simp)
  · obtain ⟨hafter, _⟩ := hform.split hcaret hdollar (by decide +kernel)
    rcases hafter "example.com" "/banner" (by decide) rfl with hempty | ⟨rest, hrest⟩
    · exact absurd hempty (by decide)
    · have hfirst := congrArg (fun text => text.toList.head?) hrest
      simp at hfirst

end DnsFilter
