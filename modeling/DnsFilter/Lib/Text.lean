import Mathlib.Data.List.DropRight
import Mathlib.Data.List.Infix

/-!
# Text

The string operations a program written against a systems-language standard library uses:
trimming, prefix and suffix stripping, splitting and joining. A string is its sequence of
Unicode scalar values, so every operation is a list function seen through `String.toList`.

* `trim`, `trimStartBy`, `trimEndBy`, `trimStartMatches` — trimming by the Unicode
  `White_Space` property, by a predicate, and by a repeated pattern.
* `split`, `join` — splitting at a separator character and joining again. `join_split` and
  `split_join` make the two inverse on pieces that do not contain the separator.
* `LabelSuffix` — the pieces of one string are a suffix of the pieces of another.
-/

namespace DnsFilter.Text

/-! ## Characters -/

/-- The Unicode `White_Space` property. -/
def isWhitespace (c : Char) : Bool :=
  (9 ≤ c.toNat && c.toNat ≤ 13) || c.toNat == 0x20 || c.toNat == 0x85 || c.toNat == 0xA0 ||
    c.toNat == 0x1680 || (0x2000 ≤ c.toNat && c.toNat ≤ 0x200A) || c.toNat == 0x2028 ||
    c.toNat == 0x2029 || c.toNat == 0x202F || c.toNat == 0x205F || c.toNat == 0x3000

/-- ASCII letters and digits. -/
def isAsciiAlphanumeric (c : Char) : Bool := c.isAlpha || c.isDigit

theorem toNat_of_isAsciiAlphanumeric {c : Char} (h : isAsciiAlphanumeric c = true) :
    (48 ≤ c.toNat ∧ c.toNat ≤ 57) ∨ (65 ≤ c.toNat ∧ c.toNat ≤ 90) ∨
      (97 ≤ c.toNat ∧ c.toNat ≤ 122) := by
  have hc : c.val.toNat = c.toNat := rfl
  unfold isAsciiAlphanumeric Char.isAlpha Char.isUpper Char.isLower Char.isDigit at h
  simp only [Bool.or_eq_true, Bool.and_eq_true, decide_eq_true_eq, ge_iff_le,
    UInt32.le_iff_toNat_le, hc] at h
  have hA : 'A'.val.toNat = 65 := rfl
  have hZ : 'Z'.val.toNat = 90 := rfl
  have ha : 'a'.val.toNat = 97 := rfl
  have hz : 'z'.val.toNat = 122 := rfl
  have h0 : '0'.val.toNat = 48 := rfl
  have h9 : '9'.val.toNat = 57 := rfl
  omega

/-! ## Trimming -/

/-- Drop the leading characters that satisfy `p`. -/
def trimStartBy (p : Char → Bool) (s : String) : String := .ofList (s.toList.dropWhile p)

/-- Drop the trailing characters that satisfy `p`. -/
def trimEndBy (p : Char → Bool) (s : String) : String := .ofList (s.toList.rdropWhile p)

/-- Drop white space at both ends. -/
def trim (s : String) : String := trimEndBy isWhitespace (trimStartBy isWhitespace s)

/-- Drop every trailing `c`. -/
def trimEndMatches (c : Char) (s : String) : String := trimEndBy (· == c) s

/-- Drop up to `n` copies of the prefix `p`. -/
def dropPrefixes (p : List Char) : Nat → List Char → List Char
  | 0, l => l
  | n + 1, l => if p.isPrefixOf l then dropPrefixes p n (l.drop p.length) else l

/-- Drop every leading copy of the (non-empty) pattern `p`. -/
def trimStartMatches (p : String) (s : String) : String :=
  .ofList (dropPrefixes p.toList s.toList.length s.toList)

/-- Lower-case the ASCII letters, leaving every other character alone. -/
def toAsciiLowercase (s : String) : String := .ofList (s.toList.map Char.toLower)

/-- Upper-case the ASCII letters, leaving every other character alone. -/
def toAsciiUppercase (s : String) : String := .ofList (s.toList.map Char.toUpper)

/-- Equality up to ASCII case. -/
def eqIgnoreAsciiCase (s t : String) : Bool := toAsciiLowercase s == toAsciiLowercase t

@[simp] theorem toList_trimStartBy (p : Char → Bool) (s : String) :
    (trimStartBy p s).toList = s.toList.dropWhile p := by
  simp [trimStartBy]

@[simp] theorem toList_trimEndBy (p : Char → Bool) (s : String) :
    (trimEndBy p s).toList = s.toList.rdropWhile p := by
  simp [trimEndBy]

theorem toLower_toLower (c : Char) : c.toLower.toLower = c.toLower := by
  unfold Char.toLower
  split
  · rename_i hupper
    rw [dif_neg]
    intro hagain
    simp only [ge_iff_le, UInt32.le_iff_toNat_le, UInt32.toNat_add] at hupper hagain
    have hA : 'A'.val.toNat = 65 := rfl
    have hZ : 'Z'.val.toNat = 90 := rfl
    have hshift : ('a'.val - 'A'.val).toNat = 32 := rfl
    omega
  · rfl

@[simp] theorem toAsciiLowercase_toAsciiLowercase (s : String) :
    toAsciiLowercase (toAsciiLowercase s) = toAsciiLowercase s := by
  simp only [toAsciiLowercase, String.toList_ofList, List.map_map, Function.comp_def, toLower_toLower]

theorem toList_trim (s : String) :
    (trim s).toList = (s.toList.dropWhile isWhitespace).rdropWhile isWhitespace := by
  simp [trim]

/-- Text that neither starts nor ends in white space is left alone by `trim`. -/
theorem trim_eq_self {s : String}
    (hhead : ∀ c ∈ s.toList.head?, isWhitespace c = false)
    (hlast : ∀ c ∈ s.toList.getLast?, isWhitespace c = false) : trim s = s := by
  apply String.toList_inj.1
  have hdrop : s.toList.dropWhile isWhitespace = s.toList := by
    cases hs : s.toList with
    | nil => rfl
    | cons c cs =>
        have hc : isWhitespace c = false := hhead c (by simp [hs])
        simp [hc]
  rw [toList_trim, hdrop, List.rdropWhile_eq_self_iff]
  intro hne
  have := hlast (s.toList.getLast hne) (by simp [List.getLast?_eq_getLast_of_ne_nil hne])
  simp [this]

theorem trim_eq_self_of_forall {s : String} (h : ∀ c ∈ s.toList, isWhitespace c = false) :
    trim s = s :=
  trim_eq_self (fun c hc => h c (List.mem_of_head? hc)) (fun c hc => h c (List.mem_of_getLast? hc))

/-! ## Prefixes, suffixes and substrings -/

/-- Does `s` start with `p`? -/
def startsWith (p s : String) : Bool := p.toList.isPrefixOf s.toList

/-- Does `s` end with `p`? -/
def endsWith (p s : String) : Bool := p.toList.isSuffixOf s.toList

/-- Does `p` occur in `s`? -/
def contains (p s : String) : Bool := decide (p.toList <:+: s.toList)

/-- What follows the prefix `p`, if `s` has it. -/
def stripPrefix (p s : String) : Option String :=
  if startsWith p s then some (.ofList (s.toList.drop p.toList.length)) else none

/-- What precedes the suffix `p`, if `s` has it. -/
def stripSuffix (p s : String) : Option String :=
  if endsWith p s then some (.ofList (s.toList.take (s.toList.length - p.toList.length))) else none

/-- `s` is its suffix `p` after the text `stripSuffix` returns. -/
theorem stripSuffix_eq_some {p s r : String} : stripSuffix p s = some r ↔ s = r ++ p := by
  unfold stripSuffix endsWith
  constructor
  · intro h
    split at h
    · rename_i hp
      obtain ⟨t, ht⟩ := List.isSuffixOf_iff_suffix.1 hp
      cases h
      apply String.toList_inj.1
      rw [String.toList_append, String.toList_ofList, ← ht]
      simp
    · exact absurd h (by simp)
  · rintro rfl
    have hp : p.toList.isSuffixOf (r ++ p).toList = true :=
      List.isSuffixOf_iff_suffix.2 ⟨r.toList, by simp⟩
    rw [if_pos hp]
    simp

/-- The text before and after the first `c`. -/
def splitOnce (c : Char) (s : String) : Option (String × String) :=
  match s.toList.dropWhile (· != c) with
  | [] => none
  | _ :: rest => some (.ofList (s.toList.takeWhile (· != c)), .ofList rest)

/-- The text before and after the last `c`. -/
def rsplitOnce (c : Char) (s : String) : Option (String × String) :=
  (splitOnce c (.ofList s.toList.reverse)).map fun p =>
    (.ofList p.2.toList.reverse, .ofList p.1.toList.reverse)

/-! ## Splitting and joining -/

/-- The pieces of `s` between the occurrences of `c`; always at least one. -/
def split (c : Char) (s : String) : List String := (s.toList.splitOn c).map .ofList

/-- Glue pieces together with `c` between them. -/
def join (c : Char) (ss : List String) : String := .ofList ([c].intercalate (ss.map String.toList))

/-- The maximal runs of characters that are not white space. -/
def splitWhitespace (s : String) : List String :=
  ((s.toList.splitOnP isWhitespace).filter (!·.isEmpty)).map .ofList

/-- The lines of a text: a line ends at a line feed, which takes a carriage return before it
with it; a final line feed starts no further line. -/
def lines (s : String) : List String :=
  let segments := s.toList.splitOn '\n'
  let ended := segments.dropLast.map fun l => if ['\r'].isSuffixOf l then l.dropLast else l
  let last := segments.getLast?.getD []
  (if last.isEmpty then ended else ended ++ [last]).map .ofList

theorem split_ne_nil (c : Char) (s : String) : split c s ≠ [] := by
  simp [split, List.splitOn_ne_nil]

theorem not_mem_of_mem_splitOn {c : Char} {l piece : List Char} (h : piece ∈ l.splitOn c) :
    c ∉ piece := by
  induction l generalizing piece with
  | nil =>
      rw [List.splitOn_nil] at h
      rw [List.mem_singleton.1 h]
      exact List.not_mem_nil
  | cons a l ih =>
      rw [List.splitOn_cons_eq_if_modifyHead] at h
      split at h
      · rcases List.mem_cons.1 h with rfl | h
        · exact List.not_mem_nil
        · exact ih h
      · rename_i hne
        cases hs : l.splitOn c with
        | nil => exact absurd hs (List.splitOn_ne_nil c l)
        | cons p ps =>
            rw [hs] at h ih
            rcases List.mem_cons.1 h with rfl | h
            · have hp : c ∉ p := ih List.mem_cons_self
              have hac : a ≠ c := by simpa using hne
              simp [hp, Ne.symm hac]
            · exact ih (List.mem_cons_of_mem _ h)

theorem not_mem_of_mem_split {c : Char} {s piece : String} (h : piece ∈ split c s) :
    c ∉ piece.toList := by
  rw [split] at h
  obtain ⟨l, hl, rfl⟩ := List.mem_map.1 h
  simpa using not_mem_of_mem_splitOn hl

theorem exists_mem_splitOn {c d : Char} (hne : d ≠ c) {l : List Char} (hd : d ∈ l) :
    ∃ piece ∈ l.splitOn c, d ∈ piece := by
  induction l with
  | nil => exact absurd hd List.not_mem_nil
  | cons a l ih =>
      rw [List.splitOn_cons_eq_if_modifyHead]
      split
      · rename_i hac
        have hd : d ∈ l := by
          rcases List.mem_cons.1 hd with rfl | hd
          · exact absurd (by simpa using hac) hne
          · exact hd
        obtain ⟨piece, hpiece, hd⟩ := ih hd
        exact ⟨piece, List.mem_cons_of_mem _ hpiece, hd⟩
      · cases hs : l.splitOn c with
        | nil => exact absurd hs (List.splitOn_ne_nil c l)
        | cons p ps =>
            rw [hs] at ih
            by_cases hda : d = a
            · exact ⟨a :: p, by simp, by simp [hda]⟩
            · have hd : d ∈ l := List.mem_of_ne_of_mem hda hd
              obtain ⟨piece, hpiece, hd⟩ := ih hd
              rcases List.mem_cons.1 hpiece with rfl | hpiece
              · exact ⟨a :: piece, by simp, by simp [hd]⟩
              · exact ⟨piece, by simp [hpiece], hd⟩

theorem exists_mem_split {c d : Char} (hne : d ≠ c) {s : String} (hd : d ∈ s.toList) :
    ∃ piece ∈ split c s, d ∈ piece.toList := by
  obtain ⟨piece, hpiece, hd⟩ := exists_mem_splitOn hne hd
  exact ⟨.ofList piece, by unfold split; exact List.mem_map_of_mem hpiece, by simpa using hd⟩

theorem join_split (c : Char) (s : String) : join c (split c s) = s := by
  apply String.toList_inj.1
  have hmap : (split c s).map String.toList = s.toList.splitOn c := by
    simp [split, List.map_map, Function.comp_def]
  rw [join, String.toList_ofList, hmap, List.intercalate_splitOn]

theorem split_join {c : Char} {ss : List String} (hss : ss ≠ [])
    (hc : ∀ s ∈ ss, c ∉ s.toList) : split c (join c ss) = ss := by
  have hpieces : ∀ l ∈ ss.map String.toList, c ∉ l := by
    intro l hl
    obtain ⟨s, hs, rfl⟩ := List.mem_map.1 hl
    exact hc s hs
  rw [split, join, String.toList_ofList, List.splitOn_intercalate c hpieces (by simpa using hss)]
  simp [List.map_map, Function.comp_def]

/-- Text on the two sides of a separator is split on its own. -/
theorem split_append {c : Char} {sep : String} (hsep : sep.toList = [c]) (s t : String) :
    split c (s ++ sep ++ t) = split c s ++ split c t := by
  have hchars : (s ++ sep ++ t).toList = s.toList ++ c :: t.toList := by
    simp [hsep]
  rw [split, split, split, hchars, List.splitOn_append_cons_self, List.map_append]

theorem split_eq_singleton {c : Char} {s : String} (h : c ∉ s.toList) : split c s = [s] := by
  rw [split, List.splitOn_eq_singleton h]
  simp

@[simp] theorem join_nil (c : Char) : join c [] = "" := rfl

@[simp] theorem join_singleton (c : Char) (s : String) : join c [s] = s := by
  simp [join]

theorem join_concat {c : Char} {sep : String} (hsep : sep.toList = [c]) {ss : List String}
    (hss : ss ≠ []) (s : String) : join c (ss ++ [s]) = join c ss ++ sep ++ s := by
  apply String.toList_inj.1
  induction ss with
  | nil => exact absurd rfl hss
  | cons t ts ih =>
      cases ts with
      | nil => simp [join, hsep]
      | cons u us =>
          have ih := ih (List.cons_ne_nil _ _)
          simp only [join, String.toList_ofList, List.cons_append, List.map_cons,
            List.intercalate_cons_cons, String.toList_append] at ih ⊢
          rw [ih]
          simp

theorem startsWith_iff {p s : String} : startsWith p s = true ↔ ∃ rest, s = p ++ rest := by
  rw [startsWith, List.isPrefixOf_iff_prefix]
  constructor
  · intro ⟨rest, h⟩
    refine ⟨.ofList rest, String.toList_inj.1 ?_⟩
    simp [h]
  · intro ⟨rest, h⟩
    exact ⟨rest.toList, by simp [h]⟩

theorem endsWith_iff {p s : String} : endsWith p s = true ↔ ∃ rest, s = rest ++ p := by
  rw [endsWith, List.isSuffixOf_iff_suffix]
  constructor
  · intro ⟨rest, h⟩
    refine ⟨.ofList rest, String.toList_inj.1 ?_⟩
    simp [h]
  · intro ⟨rest, h⟩
    exact ⟨rest.toList, by simp [h]⟩

theorem contains_iff {p s : String} :
    contains p s = true ↔ ∃ before after, s = before ++ p ++ after := by
  rw [contains, decide_eq_true_eq]
  constructor
  · intro ⟨before, after, h⟩
    refine ⟨String.ofList before, String.ofList after, String.toList_inj.1 ?_⟩
    simpa using h.symm
  · rintro ⟨before, after, rfl⟩
    exact ⟨before.toList, after.toList, by simp⟩

/-- Trimming one trailing character takes all of them; text that does not end in it stays. -/
theorem trimEndMatches_append {c : Char} {sep : String} (hsep : sep.toList = [c]) {s : String}
    (hs : ¬ endsWith sep s) : trimEndMatches c (s ++ sep) = s := by
  apply String.toList_inj.1
  have hchars : (s ++ sep).toList = s.toList ++ [c] := by
    simp [hsep]
  rw [trimEndMatches, toList_trimEndBy, hchars, List.rdropWhile_concat_pos _ _ _ (by simp),
    List.rdropWhile_eq_self_iff]
  intro hne hlast
  apply hs
  rw [endsWith_iff]
  refine ⟨.ofList s.toList.dropLast, String.toList_inj.1 ?_⟩
  have hc : s.toList.getLast hne = c := by simpa using hlast
  rw [String.toList_append, String.toList_ofList, hsep, ← hc, List.dropLast_append_getLast]

theorem stripPrefix_append (p s : String) : stripPrefix p (p ++ s) = some s := by
  rw [stripPrefix, if_pos (startsWith_iff.2 ⟨s, rfl⟩)]
  simp

theorem stripPrefix_eq_some {p s r : String} : stripPrefix p s = some r ↔ s = p ++ r := by
  constructor
  · intro h
    by_cases hp : startsWith p s = true
    · obtain ⟨rest, rfl⟩ := startsWith_iff.1 hp
      rw [stripPrefix_append] at h
      rw [Option.some.inj h]
    · rw [stripPrefix, if_neg hp] at h
      exact absurd h (by simp)
  · intro h
    rw [h, stripPrefix_append]

theorem splitOnce_eq_none {c : Char} {s : String} (h : c ∉ s.toList) : splitOnce c s = none := by
  have hdrop : s.toList.dropWhile (· != c) = [] := by
    rw [List.dropWhile_eq_nil_iff]
    intro d hd
    have hne : d ≠ c := fun heq => h (heq ▸ hd)
    simpa using hne
  rw [splitOnce, hdrop]

theorem splitOnce_append {c : Char} {sep : String} (hsep : sep.toList = [c]) {s : String}
    (hs : c ∉ s.toList) (t : String) : splitOnce c (s ++ sep ++ t) = some (s, t) := by
  have hchars : (s ++ sep ++ t).toList = s.toList ++ c :: t.toList := by
    simp [hsep]
  have hpos : ∀ d ∈ s.toList, (d != c) = true := by
    intro d hd
    have hne : d ≠ c := fun heq => hs (heq ▸ hd)
    simpa using hne
  rw [splitOnce, hchars, List.dropWhile_append_of_pos hpos, List.takeWhile_append_of_pos hpos]
  simp

theorem rsplitOnce_eq_none {c : Char} {s : String} (h : c ∉ s.toList) :
    rsplitOnce c s = none := by
  rw [rsplitOnce, splitOnce_eq_none]
  · rfl
  · rw [String.toList_ofList, List.mem_reverse]
    exact h

theorem rsplitOnce_append {c : Char} {sep : String} (hsep : sep.toList = [c]) (s : String)
    {t : String} (ht : c ∉ t.toList) : rsplitOnce c (s ++ sep ++ t) = some (s, t) := by
  have hreverse : String.ofList (s ++ sep ++ t).toList.reverse =
      .ofList t.toList.reverse ++ sep ++ .ofList s.toList.reverse := by
    apply String.toList_inj.1
    simp [hsep]
  have ht' : c ∉ (String.ofList t.toList.reverse).toList := by
    rw [String.toList_ofList, List.mem_reverse]
    exact ht
  rw [rsplitOnce, hreverse, splitOnce_append hsep ht']
  simp

/-- Text is the part before its first separator, or has none. -/
theorem exists_splitOnce {c : Char} {sep : String} (hsep : sep.toList = [c]) (s : String) :
    c ∉ s.toList ∨ ∃ t u, c ∉ t.toList ∧ s = t ++ sep ++ u := by
  by_cases hc : c ∈ s.toList
  · obtain ⟨as, bs, heq, has⟩ := List.eq_append_cons_of_mem hc
    refine .inr ⟨.ofList as, .ofList bs, by simpa using has, String.toList_inj.1 ?_⟩
    simp [heq, hsep]
  · exact .inl hc

/-! ## What trimming keeps -/

theorem mem_dropWhile {p : Char → Bool} {c : Char} (hc : p c = false) {l : List Char}
    (h : c ∈ l) : c ∈ l.dropWhile p := by
  rw [← List.takeWhile_append_dropWhile (p := p) (l := l), List.mem_append] at h
  rcases h with h | h
  · exact absurd (List.mem_takeWhile_imp h) (by simp [hc])
  · exact h

theorem mem_trimStartBy {p : Char → Bool} {c : Char} (hc : p c = false) {s : String}
    (h : c ∈ s.toList) : c ∈ (trimStartBy p s).toList := by
  rw [toList_trimStartBy]
  exact mem_dropWhile hc h

theorem mem_trimEndBy {p : Char → Bool} {c : Char} (hc : p c = false) {s : String}
    (h : c ∈ s.toList) : c ∈ (trimEndBy p s).toList := by
  rw [toList_trimEndBy, List.rdropWhile, List.mem_reverse]
  exact mem_dropWhile hc (List.mem_reverse.2 h)

theorem mem_trim {c : Char} (hc : isWhitespace c = false) {s : String} (h : c ∈ s.toList) :
    c ∈ (trim s).toList :=
  mem_trimEndBy hc (mem_trimStartBy hc h)

theorem mem_dropPrefixes {p : List Char} {c : Char} (hc : c ∉ p) (n : Nat) {l : List Char}
    (h : c ∈ l) : c ∈ dropPrefixes p n l := by
  induction n generalizing l with
  | zero => exact h
  | succ n ih =>
      rw [dropPrefixes]
      split
      · rename_i hpre
        apply ih
        obtain ⟨rest, rfl⟩ := List.isPrefixOf_iff_prefix.1 hpre
        rw [List.drop_left]
        exact (List.mem_append.1 h).resolve_left hc
      · exact h

theorem mem_trimStartMatches {p : String} {c : Char} (hc : c ∉ p.toList) {s : String}
    (h : c ∈ s.toList) : c ∈ (trimStartMatches p s).toList := by
  rw [trimStartMatches, String.toList_ofList]
  exact mem_dropPrefixes hc _ h

theorem mem_toAsciiLowercase {c : Char} (hc : c.toLower = c) {s : String} (h : c ∈ s.toList) :
    c ∈ (toAsciiLowercase s).toList := by
  rw [toAsciiLowercase, String.toList_ofList]
  exact List.mem_map.2 ⟨c, h, hc⟩

/-! ## What trimming leaves -/

theorem dropPrefixes_suffix (p : List Char) (n : Nat) (l : List Char) :
    dropPrefixes p n l <:+ l := by
  induction n generalizing l with
  | zero => exact List.suffix_rfl
  | succ n ih =>
      rw [dropPrefixes]
      split
      · exact (ih _).trans (List.drop_suffix _ _)
      · exact List.suffix_rfl

theorem not_prefix_dropPrefixes {p : List Char} (hp : p ≠ []) {n : Nat} {l : List Char}
    (hn : l.length ≤ n) : ¬ p <+: dropPrefixes p n l := by
  induction n generalizing l with
  | zero =>
      rw [List.length_eq_zero_iff.1 (by omega : l.length = 0), dropPrefixes, List.prefix_nil]
      exact hp
  | succ n ih =>
      rw [dropPrefixes]
      split
      · have hpos := List.length_pos_iff.2 hp
        apply ih
        rw [List.length_drop]
        omega
      · rename_i hpre
        rwa [← List.isPrefixOf_iff_prefix]

theorem dropPrefixes_eq_self {p l : List Char} (h : ¬ p <+: l) (n : Nat) :
    dropPrefixes p n l = l := by
  cases n with
  | zero => rfl
  | succ n => rw [dropPrefixes, if_neg (by rwa [List.isPrefixOf_iff_prefix])]

theorem toList_trimStartMatches_suffix (p s : String) :
    (trimStartMatches p s).toList <:+ s.toList := by
  rw [trimStartMatches, String.toList_ofList]
  exact dropPrefixes_suffix _ _ _

theorem startsWith_trimStartMatches {p : String} (hp : p ≠ "") (s : String) :
    startsWith p (trimStartMatches p s) = false := by
  rw [startsWith, trimStartMatches, String.toList_ofList, Bool.eq_false_iff, ne_eq,
    List.isPrefixOf_iff_prefix]
  apply not_prefix_dropPrefixes _ le_rfl
  rwa [ne_eq, String.toList_eq_nil_iff]

theorem trimStartMatches_eq_self {p s : String} (h : startsWith p s = false) :
    trimStartMatches p s = s := by
  rw [startsWith, Bool.eq_false_iff, ne_eq, List.isPrefixOf_iff_prefix] at h
  rw [trimStartMatches, dropPrefixes_eq_self h, String.ofList_toList]

theorem trimEndMatches_eq_self {c : Char} {s : String} (h : ∀ d ∈ s.toList.getLast?, d ≠ c) :
    trimEndMatches c s = s := by
  apply String.toList_inj.1
  rw [trimEndMatches, toList_trimEndBy, List.rdropWhile_eq_self_iff]
  intro hne
  have hlast := h _ (List.getLast?_eq_getLast_of_ne_nil hne)
  simpa using hlast

theorem getLast?_trimEndMatches (c : Char) (s : String) :
    ∀ d ∈ (trimEndMatches c s).toList.getLast?, d ≠ c := by
  intro d hd
  rw [trimEndMatches, toList_trimEndBy] at hd
  have hne : s.toList.rdropWhile (· == c) ≠ [] := by
    intro hnil
    simp [hnil] at hd
  have hlast := List.rdropWhile_last_not _ _ hne
  rw [List.getLast?_eq_getLast_of_ne_nil hne] at hd
  rw [Option.some.inj hd] at hlast
  simpa using hlast

theorem trimEndMatches_append_of_forall {c : Char} {s ending : String}
    (h : ∀ d ∈ ending.toList, d = c) : trimEndMatches c (s ++ ending) = trimEndMatches c s := by
  apply String.toList_inj.1
  rw [trimEndMatches, trimEndMatches, toList_trimEndBy, toList_trimEndBy, String.toList_append]
  generalize ending.toList = l at h
  induction l using List.reverseRecOn with
  | nil => rw [List.append_nil]
  | append_singleton l d ih =>
      have hd : d = c := h d (by simp)
      rw [← List.append_assoc, List.rdropWhile_concat_pos _ _ _ (by simp [hd])]
      apply ih
      intro e he
      exact h e (by simp [he])

/-! ## Lower case -/

theorem toList_toAsciiLowercase (s : String) :
    (toAsciiLowercase s).toList = s.toList.map Char.toLower := by
  rw [toAsciiLowercase, String.toList_ofList]

theorem toAsciiLowercase_eq_empty {s : String} : toAsciiLowercase s = "" ↔ s = "" := by
  rw [← String.toList_eq_nil_iff, toList_toAsciiLowercase, List.map_eq_nil_iff,
    String.toList_eq_nil_iff]

/-- A character is its own lower case, or an upper-case ASCII letter. -/
theorem toLower_eq_or (c : Char) :
    c.toLower = c ∨ (65 ≤ c.toNat ∧ c.toNat ≤ 90) ∧ c.toLower.toNat = c.toNat + 32 := by
  unfold Char.toLower
  split
  · rename_i hupper
    right
    simp only [ge_iff_le, UInt32.le_iff_toNat_le] at hupper
    have hA : 'A'.val.toNat = 65 := rfl
    have hZ : 'Z'.val.toNat = 90 := rfl
    have hshift : ('a'.val - 'A'.val).toNat = 32 := rfl
    have hc : c.val.toNat = c.toNat := rfl
    refine ⟨by omega, ?_⟩
    show (c.val + ('a'.val - 'A'.val)).toNat = _
    rw [UInt32.toNat_add]
    omega
  · exact .inl rfl

/-- Only letters have another lower case. -/
theorem eq_of_toLower_eq {c d : Char} (hd : d.toNat < 97) (h : c.toLower = d) : c = d := by
  rcases toLower_eq_or c with hsame | ⟨hupper, hlower⟩
  · rw [← hsame, h]
  · rw [h] at hlower
    omega

theorem isWhitespace_toLower (c : Char) : isWhitespace c.toLower = isWhitespace c := by
  rcases toLower_eq_or c with h | ⟨hc, hlower⟩
  · rw [h]
  · have hno : ∀ n, 65 ≤ n ∧ n ≤ 122 → ∀ d : Char, d.toNat = n → isWhitespace d = false := by
      intro n hn d hd
      simp only [isWhitespace, hd]
      simp
      omega
    rw [hno _ ⟨by omega, by omega⟩ c rfl, hno _ ⟨by omega, by omega⟩ c.toLower rfl]

/-! Proofs use the lemmas above; unfolding a string's characters by accident is slow. -/
attribute [irreducible] trimStartBy trimEndBy trimStartMatches toAsciiLowercase toAsciiUppercase
  startsWith endsWith contains splitOnce split join splitWhitespace lines

/-! ## Label suffixes -/

/-- The dot-separated labels of `s` are the last labels of `t`. -/
def LabelSuffix (s t : String) : Prop := split '.' s <:+ split '.' t

instance (s t : String) : Decidable (LabelSuffix s t) :=
  inferInstanceAs (Decidable (split '.' s <:+ split '.' t))

/-- The label suffixes of `t` are what joining its last labels gives, one for each number of
labels dropped. -/
theorem labelSuffix_iff_exists_drop {s t : String} :
    LabelSuffix s t ↔
      ∃ idx < (split '.' t).length, s = join '.' ((split '.' t).drop idx) := by
  constructor
  · intro h
    have hpos : 0 < (split '.' s).length := List.length_pos_iff.2 (split_ne_nil _ _)
    have hle := h.length_le
    refine ⟨(split '.' t).length - (split '.' s).length, by omega, ?_⟩
    rw [← List.suffix_iff_eq_drop.1 h, join_split]
  · rintro ⟨idx, hidx, rfl⟩
    have hne : (split '.' t).drop idx ≠ [] := by
      simpa [List.drop_eq_nil_iff] using hidx
    have hmem : ∀ p ∈ (split '.' t).drop idx, '.' ∉ p.toList := by
      intro p hp
      exact not_mem_of_mem_split (List.mem_of_mem_drop hp)
    rw [LabelSuffix, split_join hne hmem]
    exact List.drop_suffix _ _

/-- The label suffixes of a name are the name itself and what follows one of its dots. -/
theorem labelSuffix_iff {s t : String} : LabelSuffix s t ↔ t = s ∨ ∃ p, t = p ++ "." ++ s := by
  constructor
  · intro ⟨pre, hpre⟩
    by_cases hnil : pre = []
    · left
      rw [hnil, List.nil_append] at hpre
      rw [← join_split '.' t, ← hpre, join_split]
    · right
      have hpieces : ∀ p ∈ pre, '.' ∉ p.toList := by
        intro p hp
        have hmem : p ∈ split '.' t := hpre ▸ List.mem_append_left _ hp
        exact not_mem_of_mem_split hmem
      refine ⟨join '.' pre, ?_⟩
      rw [← join_split '.' (join '.' pre ++ "." ++ s), split_append rfl, split_join hnil hpieces,
        hpre, join_split]
  · intro h
    rcases h with rfl | ⟨p, rfl⟩
    · exact List.suffix_rfl
    · rw [LabelSuffix, split_append rfl]
      exact List.suffix_append _ _

end DnsFilter.Text
