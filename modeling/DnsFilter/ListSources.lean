import DnsFilter.Lib.Tokens
import DnsFilter.Lib.WebUrl
import DnsFilter.OperationsProof

/-!
# Where filter lists are read from

The URL of a filter list is read three times: `validate_url` (`server_operations.rs`) admits it,
`fetch_list_content` (`filtering/mod.rs`) reads from it, and `parse_zone_source`
(`zone_authority.rs`) gives the same syntax its meaning for zones.

A zone source `file://P` is the file `P`. For a filter list the whole text is taken for the path of
a file, so none of these is ever read (`fetchListContent_readsFrom_iff`).
-/

namespace DnsFilter

open Text WebUrl

/-- The outcome of an HTTP request. -/
inductive HttpOutcome
  | unreachable
  | errorStatus
  | unreadableBody
  | body (text : String)
  deriving DecidableEq, Repr

/-- What can be read from: `reqwest::get` and `read_to_string`. -/
structure Sources where
  httpGet : String → HttpOutcome
  readToString : String → Option String

/-- `fetch_list_content`: what it reads from, and what it returns. -/
def fetchListContent (sources : Sources) (source : String) :
    List ZoneSource × Except String String :=
  if startsWith "http://" source || startsWith "https://" source then
    ([.url source], match sources.httpGet source with
      | .unreachable => .error ("failed to download list from " ++ source)
      | .errorStatus => .error ("list source returned non-success status: " ++ source)
      | .unreadableBody => .error ("failed to read list body from " ++ source)
      | .body text => .ok text)
  else
    ([.file source], match sources.readToString source with
      | none => .error ("failed to read list file " ++ source)
      | some text => .ok text)

/-- Two sources are the same: the same file, or texts of the same URL. -/
def SameSource {υ : Type} (urls : UrlApi υ) : ZoneSource → ZoneSource → Prop
  | .file path, .file path' => path = path'
  | .url text, .url text' => urls.parse text = urls.parse text'
  | _, _ => False

/-- Just this source is read. -/
def ReadsFrom {υ : Type} (urls : UrlApi υ) (reads : List ZoneSource) (source : ZoneSource) : Prop :=
  ∃ read, reads = [read] ∧ SameSource urls read source

section Accepted

variable {υ : Type} {urls : UrlApi υ} {sources : Sources} {url : String}

/-- An accepted URL starts with one of three schemes. -/
theorem startsWith_of_validateUrl (h : validateUrl url = .ok ()) :
    isHttpUrl url = true ∨ startsWith "file://" url = true := by
  obtain ⟨_, -, h⟩ := bind_eq_ok.1 h
  have hscheme := require_eq_ok.1 h
  rwa [Bool.or_eq_true] at hscheme

/-- White space around an accepted URL is at its end only. -/
theorem head?_of_validateUrl (h : validateUrl url = .ok ()) :
    ∀ c ∈ url.toList.head?, isWhitespace c = false := by
  intro c hc
  have hhead : c = 'h' ∨ c = 'f' := by
    rcases startsWith_of_validateUrl h with hhttp | hfile
    · rw [isHttpUrl, Bool.or_eq_true] at hhttp
      left
      rcases hhttp with hhttp | hhttp <;>
      · obtain ⟨rest, rfl⟩ := startsWith_iff.1 hhttp
        rw [String.toList_append] at hc
        exact (Option.some.inj hc).symm
    · right
      obtain ⟨rest, rfl⟩ := startsWith_iff.1 hfile
      rw [String.toList_append] at hc
      exact (Option.some.inj hc).symm
  rcases hhead with rfl | rfl <;> decide

theorem isHttpUrl_trim (h : validateUrl url = .ok ()) : isHttpUrl (trim url) = isHttpUrl url := by
  have hhead := head?_of_validateUrl h
  rw [isHttpUrl, isHttpUrl, startsWith_trim (not_isWhitespace_of_any (by decide)) hhead,
    startsWith_trim (not_isWhitespace_of_any (by decide)) hhead]

theorem parseZoneSource_of_isHttpUrl (h : validateUrl url = .ok ()) (hhttp : isHttpUrl url = true) :
    parseZoneSource url = .ok (.url (trim url)) := by
  rw [← isHttpUrl_trim h, isHttpUrl] at hhttp
  rw [parseZoneSource, if_pos hhttp]

theorem parseZoneSource_of_not_isHttpUrl (h : validateUrl url = .ok ())
    (hhttp : isHttpUrl url = false) :
    ∃ path, trim url = "file://" ++ path ∧ parseZoneSource url = .ok (.file path) := by
  have hfile : startsWith "file://" (trim url) = true := by
    rw [startsWith_trim (not_isWhitespace_of_any (by decide)) (head?_of_validateUrl h)]
    exact (startsWith_of_validateUrl h).resolve_left (by rw [hhttp]; simp)
  rw [← isHttpUrl_trim h, isHttpUrl] at hhttp
  obtain ⟨path, hpath⟩ := startsWith_iff.1 hfile
  refine ⟨path, hpath, ?_⟩
  rw [parseZoneSource, if_neg (by rw [hhttp]; simp), hpath, stripPrefix_append]

theorem length_trim_le (s : String) : (trim s).toList.length ≤ s.toList.length := by
  rw [trim, toList_trimEndBy, toList_trimStartBy]
  exact (List.IsPrefix.length_le (List.rdropWhile_prefix _ _)).trans
    (List.IsSuffix.length_le (List.dropWhile_suffix _))

/-- What is read from: nothing is cut off the text. -/
theorem reads_fetchListContent (sources : Sources) (url : String) :
    (fetchListContent sources url).1 = [if isHttpUrl url then .url url else .file url] := by
  rw [fetchListContent, isHttpUrl]
  by_cases hhttp : (startsWith "http://" url || startsWith "https://" url) = true
  · rw [if_pos hhttp, if_pos hhttp]
  · rw [if_neg hhttp, if_neg hhttp]

/-- **Which accepted URLs are read from where they point**: those of HTTP, unless the white space
that only zones cut off is a part of the URL. A file is never read. -/
theorem fetchListContent_readsFrom_iff (h : validateUrl url = .ok ()) :
    (∃ source, parseZoneSource url = .ok source ∧
      ReadsFrom urls (fetchListContent sources url).1 source) ↔
      isHttpUrl url = true ∧ urls.parse url = urls.parse (trim url) := by
  by_cases hhttp : isHttpUrl url = true
  · rw [parseZoneSource_of_isHttpUrl h hhttp, reads_fetchListContent, if_pos hhttp]
    simp [ReadsFrom, SameSource, hhttp]
  · obtain ⟨path, hpath, hparse⟩ := parseZoneSource_of_not_isHttpUrl h (by simpa using hhttp)
    have hne : url ≠ path := by
      intro heq
      have hlength := length_trim_le url
      rw [hpath, String.toList_append, List.length_append, heq] at hlength
      exact absurd hlength (by simp)
    rw [hparse, reads_fetchListContent, if_neg hhttp]
    simp [ReadsFrom, SameSource, hhttp, hne]

end Accepted

/-- URLs that are their own texts. -/
def verbatimUrls : UrlApi String where
  parse := .ok
  join _ reference := .ok reference
  scheme text := (scheme? text).getD ""
  toText := id

/-- No network, and one list on disk. -/
def oneFile : Sources where
  httpGet _ := .unreachable
  readToString path :=
    if path = "/etc/dns-filter/custom-blocklist.txt" then some "ads.example.com" else none

theorem fetchListContent_readsFrom_iff_https :
    validateUrl "https://example.org/ads.txt" = .ok () ∧
      ∃ source, parseZoneSource "https://example.org/ads.txt" = .ok source ∧
        ReadsFrom verbatimUrls (fetchListContent oneFile "https://example.org/ads.txt").1 source := by
  have h : validateUrl "https://example.org/ads.txt" = .ok () := by decide +kernel
  have htrim : trim "https://example.org/ads.txt" = "https://example.org/ads.txt" := by
    decide +kernel
  exact ⟨h, (fetchListContent_readsFrom_iff h).2 ⟨by decide +kernel, by rw [htrim]⟩⟩

theorem not_readsFrom_file :
    ¬ ∀ (υ : Type) (urls : UrlApi υ) (sources : Sources) (url : String),
      validateUrl url = .ok () → ∃ source, parseZoneSource url = .ok source ∧
        ReadsFrom urls (fetchListContent sources url).1 source := by
  intro hall
  obtain ⟨source, hparse, read, hread, hsame⟩ := hall String verbatimUrls oneFile
    "file:///etc/dns-filter/custom-blocklist.txt" (by decide +kernel)
  have hsource : parseZoneSource "file:///etc/dns-filter/custom-blocklist.txt" =
      .ok (.file "/etc/dns-filter/custom-blocklist.txt") := by decide +kernel
  have hreads : (fetchListContent oneFile "file:///etc/dns-filter/custom-blocklist.txt").1 =
      [.file "file:///etc/dns-filter/custom-blocklist.txt"] := by decide +kernel
  rw [hsource, Except.ok.injEq] at hparse
  rw [hreads, List.cons.injEq] at hread
  rw [← hparse, ← hread.1, SameSource] at hsame
  exact absurd hsame (by decide)

end DnsFilter
