import DnsFilter.Lib.Net
import Mathlib.Data.Finset.Insert
import Mathlib.Data.Finset.Union

/-!
# Filter lists: line formats

The domain normaliser, the suffix matcher and the five line formats of
`use_cases/filtering`. `parseListContent` collects a whole document into the set of blocked
domains, the set of excepted domains and the number of skipped lines.

Whether a normalised text is a valid DNS name is decided by the DNS library; the parsers take
that decision as the parameter `nameFromAscii`.
-/

namespace DnsFilter

open Text

/-! ## Domains -/

/-- `normalize_domain`. -/
def normalizeDomain (input : String) : String :=
  trimStartMatches "*." (toAsciiLowercase (trimEndMatches '.' (trim input)))

/-- `matches_any`: is some suffix of the domain's labels, joined again, in the set? -/
def matchesAny (set : Finset String) (domain : String) : Bool :=
  let labels := split '.' domain
  (List.range labels.length).any fun idx => decide (join '.' (labels.drop idx) ∈ set)

/-- `matches_any` looks for a label suffix of the domain. -/
theorem matchesAny_iff {set : Finset String} {domain : String} :
    matchesAny set domain = true ↔ ∃ s ∈ set, LabelSuffix s domain := by
  simp only [matchesAny, List.any_eq_true, List.mem_range, decide_eq_true_eq]
  constructor
  · rintro ⟨idx, hidx, hmem⟩
    exact ⟨_, hmem, labelSuffix_iff_exists_drop.2 ⟨idx, hidx, rfl⟩⟩
  · rintro ⟨s, hs, hsuf⟩
    obtain ⟨idx, hidx, rfl⟩ := labelSuffix_iff_exists_drop.1 hsuf
    exact ⟨idx, hidx, hs⟩

/-- `is_ip_like`. -/
def isIpLike (value : String) : Bool :=
  (Net.parseIpv4Addr value).isSome || (Net.parseIpv6Addr value).isSome

/-! ## Line formats -/

inductive ParsedLine
  | block (domain : String)
  | allow (domain : String)
  deriving DecidableEq, Repr

inductive ParseDomainLineResult
  | parsed (line : ParsedLine)
  | skipped
  deriving DecidableEq, Repr

inductive ListFormat
  | adguard
  | hosts
  | rpz
  | domains
  | wildcard
  deriving DecidableEq, Repr

namespace ListFormat

def asStr : ListFormat → String
  | .adguard => "adguard"
  | .hosts => "hosts"
  | .rpz => "rpz"
  | .domains => "domains"
  | .wildcard => "wildcard"

/-- `ListFormat::from_option`: an absent list type means AdGuard syntax. -/
def fromOption (input : Option String) : Except String ListFormat :=
  match input.getD "adguard" with
  | "adguard" => .ok .adguard
  | "hosts" => .ok .hosts
  | "rpz" => .ok .rpz
  | "domains" => .ok .domains
  | "wildcard" => .ok .wildcard
  | other => .error ("unsupported list_type '" ++ other ++
      "'; valid values are: adguard, hosts, rpz, domains, wildcard")

end ListFormat

section Lines

variable (nameFromAscii : String → Bool)

/-- `normalize_domain_opt`. -/
def normalizeDomainOpt (input : String) : Option String :=
  let normalized := normalizeDomain input
  if normalized = "" then none
  else if nameFromAscii normalized then some normalized else none

/-- The normalised domain wrapped as a rule, or the line counted as skipped. -/
def parsedOrSkipped (rule : String → ParsedLine) (domain : String) : ParseDomainLineResult :=
  match normalizeDomainOpt nameFromAscii domain with
  | some d => .parsed (rule d)
  | none => .skipped

/-- `skip_comment_line`. -/
def skipCommentLine (line : String) : Option String :=
  let trimmed := trim line
  if trimmed = "" || startsWith "#" trimmed || startsWith "!" trimmed then none else some trimmed

/-- The text before the first `#`, trimmed. -/
def withoutComment (trimmed : String) : String := trim ((split '#' trimmed).headD trimmed)

/-- `COSMETIC_MARKERS`: the markers of rules that are not network rules. -/
def cosmeticMarkers : List String :=
  ["#@$?#", "#$?#", "#@?#", "#?#", "#@$#", "#@%#", "#@#", "##", "#$#", "#%#", "$@$", "$$"]

/-- `split_domain_and_modifiers`. -/
def splitDomainAndModifiers (stripped : String) : String × String :=
  match splitOnce '^' stripped with
  | some (domain, afterCaret) => (domain, (stripPrefix "$" afterCaret).getD "")
  | none => (splitOnce '$' stripped).getD (stripped, "")

/-- The body of the modifier loop: the key of a modifier that the DNS level cannot evaluate. -/
def restrictingKey (raw : String) : Option String :=
  let m := trim raw
  if m = "" then none
  else
    let key := trim ((split '=' (trimStartBy (· == '~') m)).headD "")
    if key = "important" ∨ key = "match-case" ∨ key = "all" then none
    else if key ≠ "" ∧ key.toList.all (· == '_') then none
    else if key = "" then none
    else some key

/-- `restricting_modifier`: the first modifier that is not DNS-safe. -/
def restrictingModifier (modifiers : String) : Option String :=
  (split ',' modifiers).findSome? restrictingKey

/-- `parse_adguard_line`. -/
def parseAdguardLine (line : String) : Option ParseDomainLineResult := do
  let trimmed ← skipCommentLine line
  if cosmeticMarkers.any (contains · trimmed) then
    return .skipped
  let (isException, rule) := match stripPrefix "@@" trimmed with
    | some rest => (true, rest)
    | none => (false, trimmed)
  match stripPrefix "||" rule with
  | some stripped =>
      let (domainPart, modifiers) := splitDomainAndModifiers stripped
      if (restrictingModifier modifiers).isSome then
        return .skipped
      return parsedOrSkipped nameFromAscii (if isException then .allow else .block) domainPart
  | none =>
      if isException then
        return .skipped
      -- hosts-file and plain-domain fallback
      match splitWhitespace (withoutComment trimmed) with
      | [] => none
      | [first] => return parsedOrSkipped nameFromAscii .block first
      | first :: second :: _ =>
          return parsedOrSkipped nameFromAscii .block (if isIpLike first then second else first)

/-- `parse_hosts_line`: a line may name several domains. -/
def parseHostsLine (line : String) : List ParseDomainLineResult :=
  match skipCommentLine line with
  | none => []
  | some trimmed =>
      match splitWhitespace (withoutComment trimmed) with
      | [] => []
      | first :: parts =>
          if isIpLike first then
            -- an address alone on its line counts as skipped
            if parts = [] then [.skipped] else parts.map (parsedOrSkipped nameFromAscii .block)
          else (first :: parts).map (parsedOrSkipped nameFromAscii .block)

/-- `parse_domain_list_line`. -/
def parseDomainListLine (line : String) : Option ParseDomainLineResult := do
  let trimmed ← skipCommentLine line
  let domain ← (splitWhitespace (withoutComment trimmed)).head?
  return parsedOrSkipped nameFromAscii .block domain

/-- `parse_wildcard_line`: the normaliser strips the `*.` prefix, so the body is that of a flat
domain list. -/
def parseWildcardLine (line : String) : Option ParseDomainLineResult :=
  parseDomainListLine nameFromAscii line

/-- Tokens that may stand between the owner and the record type: a TTL or a class. -/
def isTtlOrClass (token : String) : Bool :=
  token.toList.all Char.isDigit || eqIgnoreAsciiCase token "IN" || eqIgnoreAsciiCase token "CH" ||
    eqIgnoreAsciiCase token "HS"

/-- `find_rtype_index`: the owner and the position of the record type, unless the owner is the
zone origin or there is no type. -/
def findRtypeIndex (tokens : List String) : Option (String × Nat) := do
  let owner ← tokens.head?
  if owner = "@" then none
  else
    let idx ← (tokens.drop 1).findIdx? (!isTtlOrClass ·)
    return (owner, idx + 1)

/-- `parse_rpz_line`. -/
def parseRpzLine (line : String) : Option ParseDomainLineResult := do
  let trimmed := trim line
  if trimmed = "" || startsWith ";" trimmed then none
  else if startsWith "$TTL" trimmed || startsWith "$ORIGIN" trimmed ||
      startsWith "$INCLUDE" trimmed then none
  else
    let tokens := splitWhitespace trimmed
    if tokens.length < 2 then
      return .skipped
    let (owner, rtypeIdx) ← findRtypeIndex tokens
    let rtype := toAsciiUppercase (tokens.getD rtypeIdx "")
    if rtype = "SOA" ∨ rtype = "NS" then none
    else if rtype = "CNAME" then
      match tokens[rtypeIdx + 1]?.map (trimEndMatches '.') with
      | some target =>
          if target = "" ∨ target = "." ∨ target = "*" then
            return parsedOrSkipped nameFromAscii .block owner
          else if eqIgnoreAsciiCase target "rpz-passthru" then
            return parsedOrSkipped nameFromAscii .allow owner
          else
            return parsedOrSkipped nameFromAscii .block owner
      | none => return .skipped
    else if rtype = "A" ∨ rtype = "AAAA" then
      return parsedOrSkipped nameFromAscii .block owner
    else
      return .skipped

/-! ## Whole documents -/

/-- The results of all lines of a document, in order. -/
def parseLines (content : String) : ListFormat → List ParseDomainLineResult
  | .adguard => (lines content).filterMap (parseAdguardLine nameFromAscii)
  | .hosts => (lines content).flatMap (parseHostsLine nameFromAscii)
  | .rpz => (lines content).filterMap (parseRpzLine nameFromAscii)
  | .domains => (lines content).filterMap (parseDomainListLine nameFromAscii)
  | .wildcard => (lines content).filterMap (parseWildcardLine nameFromAscii)

/-- The accumulator of `parse_list_content`. -/
structure ParsedList where
  blocks : Finset String := ∅
  exceptions : Finset String := ∅
  skippedEntries : Nat := 0
  deriving DecidableEq

/-- The `collect` closure. -/
def ParsedList.collect (acc : ParsedList) : ParseDomainLineResult → ParsedList
  | .parsed (.block d) => { acc with blocks := insert d acc.blocks }
  | .parsed (.allow d) => { acc with exceptions := insert d acc.exceptions }
  | .skipped => { acc with skippedEntries := acc.skippedEntries + 1 }

/-- `parse_list_content`. -/
def parseListContent (content : String) (format : ListFormat) : ParsedList :=
  (parseLines nameFromAscii content format).foldl ParsedList.collect {}

end Lines

example : parseAdguardLine (fun _ => true) "@@||a.b^" = some (.parsed (.allow "a.b")) := by
  decide +kernel
example : parseAdguardLine (fun _ => true) "||a.b^$script" = some .skipped := by decide +kernel

end DnsFilter
