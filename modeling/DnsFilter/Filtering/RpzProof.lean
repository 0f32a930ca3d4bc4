import DnsFilter.Filtering.LinesProof
import DnsFilter.Lib.Tokens

/-!
# Response policy zones

The records of a response policy zone, read line by line.

* `RecordLine` — a line of an owner, TTL and class tokens in any number and order, a type and data.
  **`parseRpzLine_recordLine`** says what the parser makes of it: only the owner, the type and the
  first token of the data count.
* **`inheritedOwner_not_parsed_iff`** — a line that starts with white space has no owner of its own.
  The parser trims the line first and takes its first token, a TTL or a class, for the owner.
-/

namespace DnsFilter

open Text

variable {nameFromAscii : String → Bool}

/-- The token starts a record of its own: it is not the origin, a comment or a directive. -/
structure IsOwner (owner : String) : Prop where
  notOrigin : owner ≠ "@"
  notComment : startsWith ";" owner = false
  notTtlDirective : startsWith "$TTL" owner = false
  notOriginDirective : startsWith "$ORIGIN" owner = false
  notIncludeDirective : startsWith "$INCLUDE" owner = false

/-- The tokens of the line are an owner, TTLs and classes, a type and data. -/
structure RecordLine (line owner : String) (skips : List String) (rtype : String)
    (data : List String) : Prop where
  tokens : splitWhitespace line = owner :: (skips ++ rtype :: data)
  skips_ttlOrClass : ∀ token ∈ skips, isTtlOrClass token = true
  rtype_not_ttlOrClass : isTtlOrClass rtype = false

/-- The first token of the data asks to let the owner pass. -/
def isPassthru (target : String) : Bool :=
  eqIgnoreAsciiCase (trimEndMatches '.' target) "rpz-passthru"

/-- What a record says of its owner, by its type in upper case and the first token of its data. -/
def rpzRecord (nameFromAscii : String → Bool) (owner rtype : String) (target : Option String) :
    Option ParseDomainLineResult :=
  if rtype = "SOA" ∨ rtype = "NS" then none
  else if rtype = "CNAME" then
    match target with
    | some target =>
        if isPassthru target then
          some (parsedOrSkipped nameFromAscii .allow owner)
        else some (parsedOrSkipped nameFromAscii .block owner)
    | none => some .skipped
  else if rtype = "A" ∨ rtype = "AAAA" then some (parsedOrSkipped nameFromAscii .block owner)
  else some .skipped

/-! ## Lines -/

theorem findRtypeIndex_cons {owner : String} (howner : owner ≠ "@") (rest : List String) :
    findRtypeIndex (owner :: rest) =
      (rest.findIdx? (!isTtlOrClass ·)).map fun idx => (owner, idx + 1) := by
  simp only [findRtypeIndex, List.head?_cons, List.drop_one, List.tail_cons, bind, Option.bind,
    if_neg howner]
  cases rest.findIdx? (!isTtlOrClass ·) with
  | none => rfl
  | some idx => rfl

/-- The targets of the blocking policies are not the one that passes through. -/
theorem policy_eq (token : String) (block allow : ParseDomainLineResult) :
    (if trimEndMatches '.' token = "" ∨ trimEndMatches '.' token = "." ∨
        trimEndMatches '.' token = "*" then some block
      else if eqIgnoreAsciiCase (trimEndMatches '.' token) "rpz-passthru" then some allow
      else some block) = if isPassthru token then some allow else some block := by
  unfold isPassthru
  generalize trimEndMatches '.' token = target
  by_cases hblock : target = "" ∨ target = "." ∨ target = "*"
  · have hpass : eqIgnoreAsciiCase target "rpz-passthru" = false := by
      rcases hblock with rfl | rfl | rfl <;> decide +kernel
    rw [if_pos hblock, hpass]
    rfl
  · rw [if_neg hblock]

/-- The parser goes on to the tokens of a line that starts with an owner. -/
theorem parseRpzLine_of_isOwner {line owner : String} {rest : List String}
    (htokens : splitWhitespace line = owner :: rest) (howner : IsOwner owner) :
    parseRpzLine nameFromAscii line =
      if rest = [] then some .skipped
      else (rest.findIdx? (!isTtlOrClass ·)).bind fun idx =>
        rpzRecord nameFromAscii owner (toAsciiUppercase (rest.getD idx "")) rest[idx + 1]? := by
  have hstart : ∀ p ∈ [";", "$TTL", "$ORIGIN", "$INCLUDE"],
      startsWith p (trim line) = startsWith p owner := by
    intro p hp
    apply startsWith_trim_iff _ htokens
    apply not_isWhitespace_of_any
    revert p
    decide +kernel
  have htrimmed : ¬ (trim line = "" || startsWith ";" (trim line)) = true := by
    simp [trim_ne_empty htokens, hstart ";", howner.notComment]
  have hdirective : ¬ (startsWith "$TTL" (trim line) || startsWith "$ORIGIN" (trim line) ||
      startsWith "$INCLUDE" (trim line)) = true := by
    simp [hstart, howner.notTtlDirective, howner.notOriginDirective, howner.notIncludeDirective]
  unfold parseRpzLine
  simp only [splitWhitespace_trim, htokens]
  rw [if_neg htrimmed, if_neg hdirective]
  by_cases hrest : rest = []
  · rw [if_pos hrest, if_pos (by simp [hrest])]
    rfl
  · have hlength : ¬ (owner :: rest).length < 2 := by
      have hpos := List.length_pos_iff.2 hrest
      simp only [List.length_cons]
      omega
    rw [if_neg hrest, if_neg hlength, findRtypeIndex_cons howner.notOrigin]
    cases rest.findIdx? (!isTtlOrClass ·) with
    | none => rfl
    | some idx =>
        show _ = rpzRecord nameFromAscii owner (toAsciiUppercase (rest.getD idx "")) rest[idx + 1]?
        cases htarget : rest[idx + 1]? with
        | none => simp [htarget, rpzRecord]
        | some target => simp [htarget, rpzRecord, policy_eq]

/-! ## Records -/

/-- What a record says about its owner's domain: a `CNAME` allows it or blocks it, depending on the
target, and an address blocks it. -/
theorem rpzRecord_eq_parsed {owner rtype : String} {target : Option String} {rule : ParsedLine} :
    rpzRecord nameFromAscii owner rtype target = some (.parsed rule) ↔
      ∃ domain, normalizeDomainOpt nameFromAscii owner = some domain ∧
        ((rtype = "CNAME" ∧ ∃ token, target = some token ∧
            (if isPassthru token then .allow domain else .block domain) = rule) ∨
          ((rtype = "A" ∨ rtype = "AAAA") ∧ .block domain = rule)) := by
  unfold rpzRecord
  by_cases hinfra : rtype = "SOA" ∨ rtype = "NS"
  · rw [if_pos hinfra]
    rcases hinfra with rfl | rfl <;> simp
  rw [if_neg hinfra]
  by_cases hcname : rtype = "CNAME"
  · rw [if_pos hcname]
    cases target with
    | none => simp [hcname]
    | some token =>
        cases hpass : isPassthru token <;> simp [hpass, hcname, parsedOrSkipped_eq_parsed]
  · rw [if_neg hcname]
    by_cases haddress : rtype = "A" ∨ rtype = "AAAA"
    · rw [if_pos haddress]
      simp [hcname, haddress, parsedOrSkipped_eq_parsed]
    · rw [if_neg haddress]
      simp [hcname, haddress]

theorem rpzRecord_eq_allow {owner rtype : String} {target : Option String} {domain : String} :
    rpzRecord nameFromAscii owner rtype target = some (.parsed (.allow domain)) ↔
      normalizeDomainOpt nameFromAscii owner = some domain ∧ rtype = "CNAME" ∧
        ∃ token, target = some token ∧ isPassthru token = true := by
  rw [rpzRecord_eq_parsed]
  constructor
  · intro h
    obtain ⟨found, hfound, ⟨hcname, token, htoken, hrule⟩ | ⟨-, hrule⟩⟩ := h
    · cases hpass : isPassthru token with
      | true =>
          rw [hpass, if_pos rfl] at hrule
          exact ⟨ParsedLine.allow.inj hrule ▸ hfound, hcname, token, htoken, hpass⟩
      | false => exact absurd hrule (by simp [hpass])
    · exact absurd hrule (by simp)
  · intro h
    obtain ⟨hdomain, hcname, token, htoken, hpass⟩ := h
    exact ⟨domain, hdomain, .inl ⟨hcname, token, htoken, by rw [if_pos hpass]⟩⟩

theorem rpzRecord_eq_block {owner rtype : String} {target : Option String} {domain : String} :
    rpzRecord nameFromAscii owner rtype target = some (.parsed (.block domain)) ↔
      normalizeDomainOpt nameFromAscii owner = some domain ∧
        (rtype = "A" ∨ rtype = "AAAA" ∨
          rtype = "CNAME" ∧ ∃ token, target = some token ∧ isPassthru token = false) := by
  rw [rpzRecord_eq_parsed]
  constructor
  · intro h
    obtain ⟨found, hfound, ⟨hcname, token, htoken, hrule⟩ | ⟨haddress, hrule⟩⟩ := h
    · cases hpass : isPassthru token with
      | true => exact absurd hrule (by simp [hpass])
      | false =>
          rw [hpass, if_neg (by simp)] at hrule
          exact ⟨ParsedLine.block.inj hrule ▸ hfound, .inr (.inr ⟨hcname, token, htoken, hpass⟩)⟩
    · exact ⟨ParsedLine.block.inj hrule ▸ hfound, or_assoc.1 (.inl haddress)⟩
  · intro h
    obtain ⟨hdomain, h⟩ := h
    refine ⟨domain, hdomain, ?_⟩
    rcases or_assoc.2 h with haddress | ⟨hcname, token, htoken, hpass⟩
    · exact .inr ⟨haddress, rfl⟩
    · exact .inl ⟨hcname, token, htoken, by rw [if_neg (by simp [hpass])]⟩

theorem parseRpzLine_recordLine {line owner rtype : String} {skips data : List String}
    (hline : RecordLine line owner skips rtype data) (howner : IsOwner owner) :
    parseRpzLine nameFromAscii line =
      rpzRecord nameFromAscii owner (toAsciiUppercase rtype) data.head? := by
  have hskips : skips.findIdx? (!isTtlOrClass ·) = none := by
    rw [List.findIdx?_eq_none_iff]
    intro token htoken
    simp [hline.skips_ttlOrClass token htoken]
  have htarget : (skips ++ rtype :: data)[skips.length + 1]? = data.head? := by
    rw [List.getElem?_append_right (by omega)]
    simp [List.head?_eq_getElem?]
  rw [parseRpzLine_of_isOwner hline.tokens howner, if_neg (by simp), List.findIdx?_append, hskips,
    List.findIdx?_cons, hline.rtype_not_ttlOrClass]
  simp [htarget]

/-- **What the parser makes of a record line.** Besides the owner, the type (up to case) and the
first token of the data, nothing counts; the owner is allowed by a `CNAME` to `rpz-passthru` and
blocked by an address or any other `CNAME`. -/
theorem parseRpzLine_record_spec {line owner rtype : String} {skips data : List String}
    (hline : RecordLine line owner skips rtype data) (howner : IsOwner owner) :
    (∀ (line' rtype' : String) (skips' data' : List String),
      RecordLine line' owner skips' rtype' data' →
      toAsciiUppercase rtype' = toAsciiUppercase rtype → data'.head? = data.head? →
      parseRpzLine nameFromAscii line' = parseRpzLine nameFromAscii line) ∧
    (∀ domain, parseRpzLine nameFromAscii line = some (.parsed (.allow domain)) ↔
      normalizeDomainOpt nameFromAscii owner = some domain ∧ toAsciiUppercase rtype = "CNAME" ∧
        ∃ token, data.head? = some token ∧
          eqIgnoreAsciiCase (trimEndMatches '.' token) "rpz-passthru" = true) ∧
    (∀ domain, parseRpzLine nameFromAscii line = some (.parsed (.block domain)) ↔
      normalizeDomainOpt nameFromAscii owner = some domain ∧
        (toAsciiUppercase rtype = "A" ∨ toAsciiUppercase rtype = "AAAA" ∨
          toAsciiUppercase rtype = "CNAME" ∧ ∃ token, data.head? = some token ∧
            eqIgnoreAsciiCase (trimEndMatches '.' token) "rpz-passthru" = false)) := by
  refine ⟨?_, ?_, ?_⟩
  · intro line' rtype' skips' data' hline' hrtype hdata
    rw [parseRpzLine_recordLine hline howner, parseRpzLine_recordLine hline' howner, hrtype, hdata]
  · intro domain
    rw [parseRpzLine_recordLine hline howner]
    exact rpzRecord_eq_allow
  · intro domain
    rw [parseRpzLine_recordLine hline howner]
    exact rpzRecord_eq_block

theorem recordLine_of_class_and_ttl :
    RecordLine "ads.example. IN 300 cname rpz-passthru. ; x" "ads.example." ["IN", "300"] "cname"
        ["rpz-passthru.", ";", "x"] ∧
      IsOwner "ads.example." ∧
      (parseRpzLine isHostName "ads.example. IN 300 cname rpz-passthru. ; x" =
          some (.parsed (.allow "ads.example")) ↔
        normalizeDomainOpt isHostName "ads.example." = some "ads.example" ∧
          toAsciiUppercase "cname" = "CNAME" ∧
          ∃ token, ["rpz-passthru.", ";", "x"].head? = some token ∧
            eqIgnoreAsciiCase (trimEndMatches '.' token) "rpz-passthru" = true) :=
  have hline : RecordLine "ads.example. IN 300 cname rpz-passthru. ; x" "ads.example."
      ["IN", "300"] "cname" ["rpz-passthru.", ";", "x"] :=
    ⟨by decide +kernel, by decide +kernel, by decide +kernel⟩
  have howner : IsOwner "ads.example." :=
    ⟨by decide +kernel, by decide +kernel, by decide +kernel, by decide +kernel, by decide +kernel⟩
  ⟨hline, howner, (parseRpzLine_record_spec hline howner).2.1 "ads.example"⟩

/-! ## Lines without an owner -/

/-- The line starts with white space, and its first token is a TTL or a class. -/
structure InheritedOwner (line first : String) (rest : List String) : Prop where
  indented : ∃ c ∈ line.toList.head?, isWhitespace c = true
  tokens : splitWhitespace line = first :: rest
  first_ttlOrClass : isTtlOrClass first = true

/-- What follows the first token is the rest of a record: a TTL or a class in any number, then an
address or a `CNAME` with a target. -/
def RecordFollows (rest : List String) : Prop :=
  ∃ rtype data, rest.dropWhile isTtlOrClass = rtype :: data ∧
    (toAsciiUppercase rtype = "A" ∨ toAsciiUppercase rtype = "AAAA" ∨
      toAsciiUppercase rtype = "CNAME" ∧ data ≠ [])

/-- TTLs and classes are letters and digits. -/
theorem not_mem_of_isTtlOrClass {token : String} (h : isTtlOrClass token = true) {c : Char}
    (hdigit : c.isDigit = false) (hlower : c.toLower = c)
    (hletter : ∀ name ∈ ["IN", "CH", "HS"], c ∉ (toAsciiLowercase name).toList) :
    c ∉ token.toList := by
  intro hc
  have hclass : ∀ name ∈ ["IN", "CH", "HS"], eqIgnoreAsciiCase token name = false := by
    intro name hname
    rw [eqIgnoreAsciiCase, beq_eq_false_iff_ne]
    intro heq
    exact hletter name hname (heq ▸ mem_toAsciiLowercase hlower hc)
  have hdigits : token.toList.all Char.isDigit = true := by
    simpa [isTtlOrClass, hclass] using h
  rw [List.all_eq_true.1 hdigits c hc] at hdigit
  exact absurd hdigit (by simp)

/-- The parser takes a TTL or a class for an owner. -/
theorem isOwner_of_isTtlOrClass {token : String} (h : isTtlOrClass token = true) :
    IsOwner token := by
  have hsemicolon : ';' ∉ token.toList :=
    not_mem_of_isTtlOrClass h (by decide) (by decide) (by decide +kernel)
  have hdollar : '$' ∉ token.toList :=
    not_mem_of_isTtlOrClass h (by decide) (by decide) (by decide +kernel)
  have horigin : '@' ∉ token.toList :=
    not_mem_of_isTtlOrClass h (by decide) (by decide) (by decide +kernel)
  have hstart : ∀ {c : Char} {p : String}, c ∉ token.toList → c ∈ p.toList →
      startsWith p token = false := by
    intro c p hc hp
    rw [Bool.eq_false_iff]
    intro hpre
    obtain ⟨rest, rfl⟩ := startsWith_iff.1 hpre
    exact hc (by simp [hp])
  refine ⟨?_, hstart hsemicolon (by decide), hstart hdollar (by decide), hstart hdollar (by decide),
    hstart hdollar (by decide)⟩
  intro heq
  exact horigin (by rw [heq]; decide)

theorem exists_rpzRecord_eq_parsed {owner rtype : String} {target : Option String} :
    (∃ rule, rpzRecord nameFromAscii owner rtype target = some (.parsed rule)) ↔
      (normalizeDomainOpt nameFromAscii owner).isSome = true ∧
        (rtype = "A" ∨ rtype = "AAAA" ∨ rtype = "CNAME" ∧ target.isSome = true) := by
  simp only [rpzRecord_eq_parsed, Option.isSome_iff_exists]
  constructor
  · intro h
    obtain ⟨rule, domain, hdomain, ⟨hcname, token, htoken, -⟩ | ⟨haddress, -⟩⟩ := h
    · exact ⟨⟨domain, hdomain⟩, .inr (.inr ⟨hcname, token, htoken⟩)⟩
    · exact ⟨⟨domain, hdomain⟩, or_assoc.1 (.inl haddress)⟩
  · intro h
    obtain ⟨⟨domain, hdomain⟩, h⟩ := h
    rcases or_assoc.2 h with haddress | ⟨hcname, token, htoken⟩
    · exact ⟨_, domain, hdomain, .inr ⟨haddress, rfl⟩⟩
    · exact ⟨_, domain, hdomain, .inl ⟨hcname, token, htoken, rfl⟩⟩

/-- **A line without an owner blocks or allows no domain, unless the TTL or class it starts with is
a domain name and the rest of a record follows.** -/
theorem inheritedOwner_not_parsed_iff {line first : String} {rest : List String}
    (h : InheritedOwner line first rest) :
    (∀ rule, parseRpzLine nameFromAscii line ≠ some (.parsed rule)) ↔
      normalizeDomainOpt nameFromAscii first = none ∨ ¬ RecordFollows rest := by
  have howner := isOwner_of_isTtlOrClass h.first_ttlOrClass
  rw [← not_exists, ← not_iff_not, not_not, not_or, not_not]
  have hsplit := List.takeWhile_append_dropWhile (p := isTtlOrClass) (l := rest)
  unfold RecordFollows
  cases hdrop : rest.dropWhile isTtlOrClass with
  | nil =>
      have hnone : rest.findIdx? (!isTtlOrClass ·) = none := by
        rw [List.findIdx?_eq_none_iff]
        intro token htoken
        simp [List.dropWhile_eq_nil_iff.1 hdrop token htoken]
      rw [parseRpzLine_of_isOwner h.tokens howner, hnone]
      by_cases hrest : rest = []
      · simp [hrest]
      · simp [hrest]
  | cons rtype data =>
      have hrtype := List.head?_dropWhile_not isTtlOrClass rest
      rw [hdrop] at hrtype hsplit
      have hline : RecordLine line first (rest.takeWhile isTtlOrClass) rtype data :=
        ⟨by rw [hsplit]; exact h.tokens, fun token htoken => List.mem_takeWhile_imp htoken, hrtype⟩
      rw [parseRpzLine_recordLine hline howner, exists_rpzRecord_eq_parsed,
        Option.isSome_iff_ne_none]
      simp

theorem inheritedOwner_not_parsed_mx :
    InheritedOwner "  3600 IN MX 10 mail." "3600" ["IN", "MX", "10", "mail."] ∧
      ((∀ rule, parseRpzLine isHostName "  3600 IN MX 10 mail." ≠ some (.parsed rule)) ↔
        normalizeDomainOpt isHostName "3600" = none ∨
          ¬ RecordFollows ["IN", "MX", "10", "mail."]) :=
  have h : InheritedOwner "  3600 IN MX 10 mail." "3600" ["IN", "MX", "10", "mail."] :=
    ⟨⟨' ', by decide +kernel, by decide⟩, by decide +kernel, by decide +kernel⟩
  ⟨h, inheritedOwner_not_parsed_iff h⟩

/-- The class of a record with an inherited owner is blocked, and with it the whole top-level
domain. -/
theorem class_taken_for_owner :
    InheritedOwner "\tIN CNAME ." "IN" ["CNAME", "."] ∧
      parseRpzLine isHostName "\tIN CNAME ." = some (.parsed (.block "in")) ∧
      ¬ ∀ rule, parseRpzLine isHostName "\tIN CNAME ." ≠ some (.parsed rule) := by
  have hparse : parseRpzLine isHostName "\tIN CNAME ." = some (.parsed (.block "in")) := by
    decide +kernel
  refine ⟨⟨⟨'\t', by decide +kernel, by decide⟩, by decide +kernel, by decide +kernel⟩, hparse, ?_⟩
  intro hnot
  exact hnot _ hparse

end DnsFilter
