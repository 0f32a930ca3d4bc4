import DnsFilter.Lib.Tokens
import DnsFilter.Lib.Result

/-!
# URLs and their schemes

What a program that joins references to a base URL relies on: the scheme that a text starts with
(`scheme?`, by the WHATWG URL standard), a URL library as a parameter (`UrlApi`) and what the
standard says of its schemes and serialisations (`UrlApi.Standard`).

* `scheme?_of_startsWithHttp` — text that starts like an HTTP URL has a scheme of HTTP.
* `UrlApi.Standard.startsWithHttp_toText` — a serialised URL starts so exactly if its scheme is one
  of HTTP.
* `UrlApi.Standard.isHttp_join` — what joining a reference to an HTTP URL gives.
-/

namespace DnsFilter.WebUrl

open Text

/-! ## The scheme of a text -/

def isC0ControlOrSpace (c : Char) : Bool := c.toNat ≤ 0x20

def isTabOrNewline (c : Char) : Bool := c == '\t' || c == '\n' || c == '\r'

def isSchemeChar (c : Char) : Bool := isAsciiAlphanumeric c || c == '+' || c == '-' || c == '.'

/-- The characters that the URL parser reads: the ends are trimmed, and tabs and newlines are
removed. -/
def parsedChars (text : String) : List Char :=
  ((text.toList.dropWhile isC0ControlOrSpace).rdropWhile isC0ControlOrSpace).filter
    (!isTabOrNewline ·)

/-- The scheme that a text starts with, in lower case: a letter, then letters, digits, `+`, `-` and
`.`, up to a colon. -/
def scheme? (text : String) : Option String :=
  let name := (parsedChars text).takeWhile isSchemeChar
  if name.head?.any Char.isAlpha &&
      (((parsedChars text).dropWhile isSchemeChar).head? == some ':') then
    some (toAsciiLowercase (.ofList name))
  else none

/-- The characters of a scheme are visible ASCII characters other than the colon. -/
theorem toNat_of_isSchemeChar {c : Char} (h : isSchemeChar c = true) :
    (43 ≤ c.toNat ∧ c.toNat ≤ 57) ∨ (65 ≤ c.toNat ∧ c.toNat ≤ 122) := by
  simp only [isSchemeChar, Bool.or_eq_true, beq_iff_eq] at h
  rcases h with ((h | rfl) | rfl) | rfl
  · have hrange := toNat_of_isAsciiAlphanumeric h
    omega
  all_goals decide

theorem isSchemeChar_toLower {c : Char} (h : isSchemeChar c = true) :
    isSchemeChar c.toLower = true := by
  rcases toLower_eq_or c with hc | ⟨hc, hlower⟩
  · rwa [hc]
  · have hletter : c.toLower.isLower = true := by
      unfold Char.isLower
      rw [Bool.and_eq_true, decide_eq_true_eq, decide_eq_true_eq, UInt32.le_iff_toNat_le,
        ge_iff_le, UInt32.le_iff_toNat_le]
      change 97 ≤ c.toLower.toNat ∧ c.toLower.toNat ≤ 122
      omega
    unfold isSchemeChar isAsciiAlphanumeric Char.isAlpha
    rw [hletter, Bool.or_true]
    rfl

theorem not_isWhitespace_of_isSchemeChar {c : Char} (h : isSchemeChar c = true) :
    isWhitespace c = false := by
  have hrange := toNat_of_isSchemeChar h
  simp only [isWhitespace, Bool.or_eq_false_iff, Bool.and_eq_false_iff, decide_eq_false_iff_not,
    beq_eq_false_iff_ne, ne_eq]
  omega

theorem ne_colon_of_isSchemeChar {c : Char} (h : isSchemeChar c = true) : c ≠ ':' := by
  intro heq
  rw [heq] at h
  exact absurd h (by decide)

/-- What a scheme is made of. -/
structure IsScheme (scheme : String) : Prop where
  nonempty : scheme ≠ ""
  chars : ∀ c ∈ scheme.toList, isSchemeChar c = true

theorem isScheme_of_scheme? {text scheme : String} (h : scheme? text = some scheme) :
    IsScheme scheme := by
  unfold scheme? at h
  dsimp only at h
  split at h
  · rename_i hname
    obtain rfl := Option.some.inj h
    rw [Bool.and_eq_true] at hname
    refine ⟨?_, ?_⟩
    · intro hempty
      rw [toAsciiLowercase_eq_empty, String.ofList_eq_empty_iff] at hempty
      rw [hempty] at hname
      exact absurd hname.1 (by simp)
    · intro c hc
      rw [toList_toAsciiLowercase, String.toList_ofList, List.mem_map] at hc
      obtain ⟨d, hd, rfl⟩ := hc
      exact isSchemeChar_toLower (List.mem_takeWhile_imp hd)
  · exact absurd h (by simp)

/-- The characters of text that starts with a word of visible characters. -/
theorem parsedChars_append {word : String} (hword : ∀ c ∈ word.toList, isC0ControlOrSpace c = false)
    (hne : word ≠ "") (rest : String) :
    ∃ tail, parsedChars (word ++ rest) = word.toList ++ tail := by
  have hdrop : (word.toList ++ rest.toList).dropWhile isC0ControlOrSpace =
      word.toList ++ rest.toList := by
    cases hchars : word.toList with
    | nil => exact absurd (String.toList_eq_nil_iff.1 hchars) hne
    | cons c cs =>
        have hc := hword c (by rw [hchars]; exact List.mem_cons_self)
        rw [List.cons_append, List.dropWhile_cons_of_neg (by simp [hc])]
  have hfilter : word.toList.filter (!isTabOrNewline ·) = word.toList := by
    rw [List.filter_eq_self]
    intro c hc
    have hvisible := hword c hc
    by_contra hno
    simp only [isTabOrNewline, Bool.not_eq_true', Bool.not_eq_false, Bool.or_eq_true,
      beq_iff_eq] at hno
    rcases hno with (rfl | rfl) | rfl
    all_goals exact absurd hvisible (by decide)
  rw [parsedChars, String.toList_append, hdrop, rdropWhile_append hword, List.filter_append,
    hfilter]
  exact ⟨_, rfl⟩

/-- Text that starts with a lower-case scheme and a colon has that scheme. -/
theorem scheme?_append {scheme : String} (hscheme : IsScheme scheme)
    (halpha : scheme.toList.head?.any Char.isAlpha = true)
    (hlower : toAsciiLowercase scheme = scheme) (rest : String) :
    scheme? (scheme ++ ":" ++ rest) = some scheme := by
  have hvisible : ∀ c ∈ (scheme ++ ":").toList, isC0ControlOrSpace c = false := by
    intro c hc
    rw [String.toList_append, List.mem_append] at hc
    rcases hc with hc | hc
    · have hrange := toNat_of_isSchemeChar (hscheme.chars c hc)
      simp only [isC0ControlOrSpace, decide_eq_false_iff_not]
      omega
    · rw [List.mem_singleton.1 hc]
      decide
  obtain ⟨tail, htail⟩ := parsedChars_append hvisible (by simp) rest
  have hchars : parsedChars (scheme ++ ":" ++ rest) = scheme.toList ++ ':' :: tail := by
    rw [htail, String.toList_append, List.append_assoc]
    rfl
  have htake : (parsedChars (scheme ++ ":" ++ rest)).takeWhile isSchemeChar = scheme.toList := by
    rw [hchars, List.takeWhile_append_of_pos hscheme.chars, List.takeWhile_cons_of_neg (by decide),
      List.append_nil]
  have hdrop : (parsedChars (scheme ++ ":" ++ rest)).dropWhile isSchemeChar = ':' :: tail := by
    rw [hchars, List.dropWhile_append_of_pos hscheme.chars, List.dropWhile_cons_of_neg (by decide)]
  rw [scheme?, htake, hdrop, halpha, String.ofList_toList, hlower]
  simp

/-! ## HTTP -/

/-- Is this one of the two schemes of HTTP? -/
def IsHttp (scheme : String) : Prop := scheme = "http" ∨ scheme = "https"

/-- Does the text start like an absolute HTTP URL? -/
def startsWithHttp (text : String) : Bool :=
  startsWith "http://" text || startsWith "https://" text

theorem startsWithHttp_iff {text : String} :
    startsWithHttp text = true ↔ ∃ scheme rest, IsHttp scheme ∧ text = scheme ++ "://" ++ rest := by
  rw [startsWithHttp, Bool.or_eq_true, startsWith_iff, startsWith_iff]
  constructor
  · intro h
    rcases h with ⟨rest, rfl⟩ | ⟨rest, rfl⟩
    · exact ⟨"http", rest, .inl rfl, rfl⟩
    · exact ⟨"https", rest, .inr rfl, rfl⟩
  · intro h
    obtain ⟨scheme, rest, rfl | rfl, rfl⟩ := h
    · exact .inl ⟨rest, rfl⟩
    · exact .inr ⟨rest, rfl⟩

theorem IsHttp.isScheme {scheme : String} (h : IsHttp scheme) : IsScheme scheme := by
  rcases h with rfl | rfl
  · exact ⟨by decide, List.all_eq_true.1 (by decide)⟩
  · exact ⟨by decide, List.all_eq_true.1 (by decide)⟩

theorem append_slashes (scheme rest : String) :
    scheme ++ "://" ++ rest = scheme ++ ":" ++ ("//" ++ rest) := by
  rw [String.append_assoc, String.append_assoc]
  rfl

/-- Text that starts like an HTTP URL has a scheme of HTTP. -/
theorem scheme?_of_startsWithHttp {text : String} (h : startsWithHttp text = true) :
    ∃ scheme, scheme? text = some scheme ∧ IsHttp scheme := by
  obtain ⟨scheme, rest, hscheme, rfl⟩ := startsWithHttp_iff.1 h
  refine ⟨scheme, ?_, hscheme⟩
  rw [append_slashes]
  apply scheme?_append hscheme.isScheme
  · rcases hscheme with rfl | rfl
    all_goals decide
  · rcases hscheme with rfl | rfl
    all_goals decide +kernel

/-- Trimming keeps the start of text that begins with a scheme. -/
theorem startsWithHttp_trim {scheme : String} (hscheme : IsScheme scheme) (rest : String) :
    startsWithHttp (trim (scheme ++ rest)) = startsWithHttp (scheme ++ rest) := by
  have hhead : ∀ c ∈ (scheme ++ rest).toList.head?, isWhitespace c = false := by
    intro c hc
    obtain ⟨d, ds, hchars⟩ := List.exists_cons_of_ne_nil
      (fun hnil => hscheme.nonempty (String.toList_eq_nil_iff.1 hnil))
    rw [String.toList_append, hchars, List.cons_append, List.head?_cons] at hc
    obtain rfl := Option.some.inj hc
    exact not_isWhitespace_of_isSchemeChar (hscheme.chars d (hchars ▸ List.mem_cons_self))
  rw [startsWithHttp, startsWithHttp, startsWith_trim (not_isWhitespace_of_any (by decide)) hhead,
    startsWith_trim (not_isWhitespace_of_any (by decide)) hhead]

/-! ## URL libraries -/

/-- A URL library: parsing, joining a reference to a base, the scheme and the serialisation. -/
structure UrlApi (υ : Type) where
  parse : String → Except String υ
  join : υ → String → Except String υ
  scheme : υ → String
  toText : υ → String

/-- What the URL standard says of schemes: a reference with a scheme of its own keeps it, any other
takes that of the base; a serialised URL starts with its scheme and a colon, which for HTTP two
slashes follow. -/
structure UrlApi.Standard {υ : Type} (urls : UrlApi υ) : Prop where
  scheme_parse : ∀ {text url}, urls.parse text = .ok url → scheme? text = some (urls.scheme url)
  scheme_join : ∀ {base reference url}, urls.join base reference = .ok url →
    urls.scheme url = (scheme? reference).getD (urls.scheme base)
  toText_eq : ∀ url, ∃ rest, urls.toText url = urls.scheme url ++ ":" ++ rest
  toText_http : ∀ url, IsHttp (urls.scheme url) →
    ∃ rest, urls.toText url = urls.scheme url ++ "://" ++ rest

section Standard

variable {υ : Type} {urls : UrlApi υ}

/-- A serialised URL starts like an HTTP URL exactly if its scheme is one of HTTP. -/
theorem UrlApi.Standard.startsWithHttp_toText (hurls : urls.Standard) {url : υ}
    (hscheme : IsScheme (urls.scheme url)) :
    startsWithHttp (urls.toText url) = true ↔ IsHttp (urls.scheme url) := by
  constructor
  · intro h
    obtain ⟨scheme, rest, hhttp, heq⟩ := startsWithHttp_iff.1 h
    obtain ⟨rest', hrest'⟩ := hurls.toText_eq url
    have hcolon {scheme : String} (hscheme : IsScheme scheme) : ':' ∉ scheme.toList := by
      intro hmem
      exact ne_colon_of_isSchemeChar (hscheme.chars _ hmem) rfl
    have hleft : splitOnce ':' (urls.toText url) = some (urls.scheme url, rest') := by
      rw [hrest']
      exact splitOnce_append rfl (hcolon hscheme) rest'
    have hright : splitOnce ':' (urls.toText url) = some (scheme, "//" ++ rest) := by
      rw [heq, append_slashes]
      exact splitOnce_append rfl (hcolon hhttp.isScheme) _
    rw [hleft] at hright
    obtain ⟨hsame, -⟩ := Prod.mk.inj (Option.some.inj hright)
    rwa [hsame]
  · intro h
    obtain ⟨rest, hrest⟩ := hurls.toText_http url h
    exact startsWithHttp_iff.2 ⟨_, rest, h, hrest⟩

/-- Joining a reference to an HTTP URL gives one exactly if the reference has no scheme of its own
or one of HTTP. -/
theorem UrlApi.Standard.isHttp_join (hurls : urls.Standard) {base url : υ} {reference : String}
    (hbase : IsHttp (urls.scheme base)) (h : urls.join base reference = .ok url) :
    IsScheme (urls.scheme url) ∧
      (IsHttp (urls.scheme url) ↔ ∀ scheme, scheme? reference = some scheme → IsHttp scheme) := by
  rw [hurls.scheme_join h]
  cases hown : scheme? reference with
  | none => exact ⟨hbase.isScheme, iff_of_true hbase (by simp)⟩
  | some scheme => exact ⟨isScheme_of_scheme? hown, by simp⟩

end Standard

end DnsFilter.WebUrl
