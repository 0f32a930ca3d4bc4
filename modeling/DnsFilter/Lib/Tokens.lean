import DnsFilter.Lib.Text

/-!
# The tokens of a line

`splitWhitespace` and white space: trimming a line changes none of its tokens
(`splitWhitespace_trim`), and a trimmed line starts with its first token (`exists_trim_eq_append`).
So a test for a pattern at the start of the line is one of its first token (`startsWith_trim_iff`).
-/

namespace DnsFilter.Text

/-- The maximal runs of elements that do not satisfy `p`. -/
def runs (p : Char → Bool) (l : List Char) : List (List Char) :=
  (l.splitOnP p).filter (!·.isEmpty)

theorem splitWhitespace_eq_runs (s : String) :
    splitWhitespace s = (runs isWhitespace s.toList).map .ofList := by
  rw [splitWhitespace, runs]

section Runs

variable {p : Char → Bool}

theorem runs_dropWhile (l : List Char) : runs p (l.dropWhile p) = runs p l := by
  induction l with
  | nil => rfl
  | cons c l ih =>
      by_cases hc : p c = true
      · rw [List.dropWhile_cons_of_pos hc, ih, runs, runs, List.splitOnP_cons_eq_if_modifyHead,
          if_pos hc]
        rfl
      · rw [List.dropWhile_cons_of_neg hc]

theorem runs_rdropWhile (l : List Char) : runs p (l.rdropWhile p) = runs p l := by
  induction l using List.reverseRecOn with
  | nil => rfl
  | append_singleton l c ih =>
      by_cases hc : p c = true
      · rw [List.rdropWhile_concat_pos _ _ _ hc, ih, runs, runs, List.splitOnP_append_cons l [] hc,
          List.filter_append]
        simp
      · rw [List.rdropWhile_concat_neg _ _ _ hc]

/-- A run at the start of the list is its first. -/
theorem runs_append_cons {first : List Char} (hne : first ≠ [])
    (hfirst : ∀ c ∈ first, p c = false) {c : Char} (hc : p c = true) (l : List Char) :
    runs p (first ++ c :: l) = first :: runs p l := by
  rw [runs, runs, List.splitOnP_append_cons first l hc, List.splitOnP_eq_singleton hfirst]
  simp [hne]

theorem runs_eq_singleton {first : List Char} (hne : first ≠ [])
    (hfirst : ∀ c ∈ first, p c = false) : runs p first = [first] := by
  rw [runs, List.splitOnP_eq_singleton hfirst]
  simp [hne]

theorem eq_false_of_mem_head?_dropWhile {l : List Char} {c : Char}
    (h : c ∈ (l.dropWhile p).head?) : p c = false := by
  have hnot := List.head?_dropWhile_not p l
  rw [h] at hnot
  exact hnot

/-- The first run of a list, and what follows it. -/
theorem exists_runs_eq_cons {l first : List Char} {rest : List (List Char)}
    (h : runs p l = first :: rest) :
    first ≠ [] ∧ (∀ c ∈ first, p c = false) ∧
      ∃ tail, l.dropWhile p = first ++ tail ∧ ∀ c ∈ tail.head?, p c = true := by
  rw [← runs_dropWhile] at h
  have hstart : ∀ c ∈ (l.dropWhile p).head?, p c = false := fun c => eq_false_of_mem_head?_dropWhile
  generalize l.dropWhile p = m at h hstart
  have hrun : ∀ c ∈ m.takeWhile (!p ·), p c = false := by
    intro c hc
    simpa using List.mem_takeWhile_imp hc
  cases m with
  | nil => exact absurd h (by simp [runs])
  | cons c m =>
      have hc : p c = false := hstart c rfl
      have hne : (c :: m).takeWhile (!p ·) ≠ [] := by simp [hc]
      have hsplit := List.takeWhile_append_dropWhile (p := (!p ·)) (l := c :: m)
      cases hdrop : (c :: m).dropWhile (!p ·) with
      | nil =>
          rw [hdrop, List.append_nil] at hsplit
          rw [← hsplit, runs_eq_singleton hne hrun, List.cons.injEq] at h
          rw [← h.1]
          exact ⟨hne, hrun, [], by rw [hsplit, List.append_nil], by simp⟩
      | cons sep tail =>
          have hsep : p sep = true := by
            have hhead := eq_false_of_mem_head?_dropWhile (p := (!p ·)) (l := c :: m) (c := sep)
              (by rw [hdrop]; rfl)
            simpa using hhead
          rw [hdrop] at hsplit
          rw [← hsplit, runs_append_cons hne hrun hsep, List.cons.injEq] at h
          rw [← h.1]
          refine ⟨hne, hrun, sep :: tail, hsplit.symm, ?_⟩
          intro d hd
          rw [← Option.some.inj hd]
          exact hsep

end Runs

/-! ## Tokens -/

theorem splitWhitespace_trim (s : String) : splitWhitespace (trim s) = splitWhitespace s := by
  rw [splitWhitespace_eq_runs, toList_trim, runs_rdropWhile, runs_dropWhile,
    splitWhitespace_eq_runs]

/-- The line ending that `lines` takes off has no token. -/
theorem splitWhitespace_dropReturn (l : List Char) :
    splitWhitespace (.ofList (if ['\r'].isSuffixOf l then l.dropLast else l)) =
      splitWhitespace (.ofList l) := by
  split
  · rename_i hreturn
    obtain ⟨front, rfl⟩ := List.isSuffixOf_iff_suffix.1 hreturn
    have hspace : isWhitespace '\r' = true := by decide
    simp only [splitWhitespace_eq_runs, String.toList_ofList, List.dropLast_concat]
    rw [← runs_rdropWhile (front ++ ['\r']), List.rdropWhile_concat_pos _ _ _ hspace,
      runs_rdropWhile]
  · rfl

/-- Reading a text line by line: for readers of tokens, lines are the pieces between line feeds. -/
theorem filterMap_lines {α : Type*} {f : List String → Option α} (hf : f [] = none) (s : String) :
    (lines s).filterMap (fun line => f (splitWhitespace line)) =
      (split '\n' s).filterMap fun line => f (splitWhitespace line) := by
  have hne : s.toList.splitOn '\n' ≠ [] := List.splitOn_ne_nil _ _
  obtain ⟨front, last, hsegments⟩ := (List.eq_nil_or_concat' _).resolve_left hne
  have hfront : (front.map fun l => String.ofList
        (if ['\r'].isSuffixOf l then l.dropLast else l)).filterMap
          (fun line => f (splitWhitespace line)) =
      (front.map String.ofList).filterMap fun line => f (splitWhitespace line) := by
    rw [List.filterMap_map, List.filterMap_map]
    exact List.filterMap_congr fun l _ => congrArg f (splitWhitespace_dropReturn l)
  have hlast : f (splitWhitespace "") = none := by
    rw [splitWhitespace_eq_runs]
    exact hf
  rw [lines, split, hsegments]
  cases last with
  | nil => simpa [Function.comp_def, hlast] using hfront
  | cons c cs => simpa [Function.comp_def] using hfront

/-- A trimmed line does not start with white space. -/
theorem dropWhile_toList_trim (s : String) :
    (trim s).toList.dropWhile isWhitespace = (trim s).toList := by
  cases htrim : (trim s).toList with
  | nil => rfl
  | cons c cs =>
      obtain ⟨ending, hending⟩ :=
        List.rdropWhile_prefix isWhitespace (s.toList.dropWhile isWhitespace)
      rw [← toList_trim, htrim] at hending
      have hc : isWhitespace c = false := by
        apply eq_false_of_mem_head?_dropWhile (l := s.toList)
        rw [← hending]
        rfl
      rw [List.dropWhile_cons_of_neg (by simp [hc])]

/-- A trimmed line starts with its first token, which white space or the end of the line follows. -/
theorem exists_trim_eq_append {s first : String} {rest : List String}
    (h : splitWhitespace s = first :: rest) :
    first ≠ "" ∧ (∀ c ∈ first.toList, isWhitespace c = false) ∧
      ∃ tail, (trim s).toList = first.toList ++ tail ∧ ∀ c ∈ tail.head?, isWhitespace c = true := by
  rw [← splitWhitespace_trim, splitWhitespace_eq_runs] at h
  obtain ⟨l, ls, hruns, rfl, -⟩ := List.map_eq_cons_iff.1 h
  obtain ⟨hne, hfirst, tail, htail, hsep⟩ := exists_runs_eq_cons hruns
  rw [dropWhile_toList_trim] at htail
  refine ⟨?_, by simpa using hfirst, tail, by simpa using htail, hsep⟩
  intro hempty
  exact hne (by simpa using congrArg String.toList hempty)

theorem trim_ne_empty {s first : String} {rest : List String}
    (h : splitWhitespace s = first :: rest) : trim s ≠ "" := by
  obtain ⟨hne, -, tail, htail, -⟩ := exists_trim_eq_append h
  intro hempty
  rw [hempty] at htail
  exact hne (String.toList_inj.1 (List.append_eq_nil_iff.1 htail.symm).1)

theorem not_isWhitespace_of_any {l : List Char} (h : l.any isWhitespace = false) :
    ∀ c ∈ l, isWhitespace c = false := by
  intro c hc
  simpa using List.any_eq_false.1 h c hc

theorem rdropWhile_append {p : Char → Bool} {l : List Char} (hl : ∀ c ∈ l, p c = false)
    (r : List Char) : (l ++ r).rdropWhile p = l ++ r.rdropWhile p := by
  induction r using List.reverseRecOn with
  | nil =>
      rw [List.append_nil, List.rdropWhile_nil, List.append_nil, List.rdropWhile_eq_self_iff]
      intro hne
      simp [hl _ (List.getLast_mem hne)]
  | append_singleton r c ih =>
      rw [← List.append_assoc]
      by_cases hc : p c = true
      · rw [List.rdropWhile_concat_pos _ _ _ hc, List.rdropWhile_concat_pos _ _ _ hc, ih]
      · rw [List.rdropWhile_concat_neg _ _ _ hc, List.rdropWhile_concat_neg _ _ _ hc,
          List.append_assoc]

/-- Trimming takes nothing from text without white space at the start. -/
theorem startsWith_trim {p : String} (hp : ∀ c ∈ p.toList, isWhitespace c = false) {s : String}
    (hs : ∀ c ∈ s.toList.head?, isWhitespace c = false) :
    startsWith p (trim s) = startsWith p s := by
  have hdrop : s.toList.dropWhile isWhitespace = s.toList := by
    cases hchars : s.toList with
    | nil => rfl
    | cons c cs =>
        have hc : isWhitespace c = false := hs c (by rw [hchars]; rfl)
        rw [List.dropWhile_cons_of_neg (by simp [hc])]
  rw [startsWith, startsWith, toList_trim, hdrop, Bool.eq_iff_iff, List.isPrefixOf_iff_prefix,
    List.isPrefixOf_iff_prefix]
  constructor
  · intro hpre
    exact hpre.trans (List.rdropWhile_prefix _ _)
  · intro hpre
    obtain ⟨rest, hrest⟩ := hpre
    rw [← hrest, rdropWhile_append hp]
    exact List.prefix_append _ _

/-- Text without white space that the trimmed line starts with is within its first token. -/
theorem startsWith_trim_iff {p : String} (hp : ∀ c ∈ p.toList, isWhitespace c = false)
    {s first : String} {rest : List String} (h : splitWhitespace s = first :: rest) :
    startsWith p (trim s) = startsWith p first := by
  obtain ⟨-, -, tail, htail, hsep⟩ := exists_trim_eq_append h
  rw [startsWith, startsWith, htail, Bool.eq_iff_iff, List.isPrefixOf_iff_prefix,
    List.isPrefixOf_iff_prefix]
  constructor
  · intro hpre
    rcases List.prefix_or_prefix_of_prefix hpre (List.prefix_append _ _) with hfirst | ⟨mid, hmid⟩
    · exact hfirst
    · -- what `p` has beyond the token would start with white space
      rw [← hmid, List.prefix_append_right_inj] at hpre
      cases mid with
      | nil => rw [← hmid, List.append_nil]
      | cons c mid =>
          obtain ⟨ending, rfl⟩ := hpre
          have hc : isWhitespace c = true := hsep c rfl
          rw [hp c (hmid ▸ by simp)] at hc
          exact absurd hc (by simp)
  · intro hpre
    exact hpre.trans (List.prefix_append _ _)

end DnsFilter.Text
