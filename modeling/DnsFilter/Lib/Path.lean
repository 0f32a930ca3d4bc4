import DnsFilter.Lib.Text

/-!
# Unix paths

Paths as text, with the operations of a systems-language standard library: a path is read as its
components, and changed by appending text and by cutting it off at a component.

* `components` — what the pieces between separators stand for. Empty pieces stand for nothing, and
  so does `.` except at the start of a relative path.
* `push`, `pop`, `startsWith`, `stripPrefix` — joining, the parent, and the comparison component by
  component.
* `normalizeLexical` — resolve `.` and `..` without looking at a file system.
* `render` — the text of an absolute path without such components. On these paths all operations
  are operations on lists of names, and `normalizeLexical_eq_render` says which list a path has.
-/

namespace DnsFilter.Path

open Text

/-! ## Components -/

inductive Component
  | rootDir
  | curDir
  | parentDir
  | normal (name : String)
  deriving DecidableEq, Repr

/-- What a piece between two separators stands for. -/
def ofPiece (piece : String) : Option Component :=
  if piece = "" ∨ piece = "." then none
  else if piece = ".." then some .parentDir
  else some (.normal piece)

/-- `is_absolute`. -/
def isAbsolute (path : String) : Bool := Text.startsWith "/" path

/-- The component a path starts with besides those of its pieces. -/
def headComponents (path : String) : List Component :=
  if isAbsolute path then [.rootDir]
  else if (split '/' path).head? = some "." then [.curDir]
  else []

/-- The pieces after the root or the leading dot. -/
def bodyPieces (path : String) : List String :=
  if headComponents path = [] then split '/' path else (split '/' path).tail

/-- `components`. -/
def components (path : String) : List Component :=
  headComponents path ++ (bodyPieces path).filterMap ofPiece

/-- The components of all pieces; the root and a leading dot are not among them. -/
def bodyComponents (path : String) : List Component := (split '/' path).filterMap ofPiece

/-! ## Operations -/

/-- `push`: an absolute path replaces, another one is appended. -/
def push (path other : String) : String :=
  if isAbsolute other then other
  else if path = "" || endsWith "/" path then path ++ other
  else path ++ "/" ++ other

/-- The text of the pieces behind the root or the leading dot of the path. -/
def withHead (path : String) (pieces : List String) : String :=
  if isAbsolute path then "/" ++ join '/' pieces
  else if (split '/' path).head? = some "." then join '/' ("." :: pieces)
  else join '/' pieces

/-- Drop the pieces at the end that stand for nothing. -/
def trimPieces (pieces : List String) : List String :=
  pieces.rdropWhile fun piece => (ofPiece piece).isNone

/-- `pop`: the text before the last component; the root and the empty path stay. -/
def pop (path : String) : String :=
  match (components path).getLast? with
  | none | some .rootDir => path
  | some .curDir => ""
  | some _ => withHead path (trimPieces (trimPieces (bodyPieces path)).dropLast)

/-- `starts_with`, component by component. -/
def startsWith (path base : String) : Bool := (components base).isPrefixOf (components path)

/-- The pieces after the first `n` components. -/
def dropComponents : Nat → List String → List String
  | 0, pieces => pieces.dropWhile fun piece => (ofPiece piece).isNone
  | _ + 1, [] => []
  | n + 1, piece :: pieces =>
      if (ofPiece piece).isNone then dropComponents (n + 1) pieces else dropComponents n pieces

/-- `strip_prefix`: the text after the components of the base. Without a base only the end of the
path is trimmed. -/
def stripPrefix (path base : String) : Option String :=
  if startsWith path base then
    match components base with
    | [] => some (withHead path (trimPieces (bodyPieces path)))
    | _ :: _ =>
        let rest := (components base).length - (headComponents path).length
        some (join '/' (trimPieces (dropComponents rest (bodyPieces path))))
  else none

/-- One component of `normalize_lexical`. -/
def normalizeStep (normalized : String) : Component → String
  | .rootDir => push normalized "/"
  | .curDir => normalized
  | .parentDir => pop normalized
  | .normal part => push normalized part

/-- Resolve `.` and `..` from left to right. -/
def normalizeLexical (path : String) : String := (components path).foldl normalizeStep ""

/-! ## Names -/

/-- Text that is a normal component. -/
structure IsName (name : String) : Prop where
  piece : ofPiece name = some (.normal name)
  noSlash : '/' ∉ name.toList

/-- The text of the absolute path with these names. -/
def render (names : List String) : String := "/" ++ join '/' names

theorem IsName.ne_empty {name : String} (h : IsName name) : name ≠ "" := by
  intro heq
  have := h.piece
  rw [heq] at this
  exact absurd this (by decide)

theorem ofPiece_eq_normal {piece name : String} (h : ofPiece piece = some (.normal name)) :
    piece = name ∧ ofPiece name = some (.normal name) := by
  have heq := h
  rw [ofPiece] at heq
  split at heq
  · exact absurd heq (by simp)
  · split at heq
    · exact absurd heq (by simp)
    · obtain rfl : piece = name := by simpa using heq
      exact ⟨rfl, h⟩

/-- The names in a path are names. -/
theorem isName_of_mem_bodyComponents {path name : String}
    (h : .normal name ∈ bodyComponents path) : IsName name := by
  obtain ⟨piece, hpiece, heq⟩ := List.mem_filterMap.1 h
  obtain ⟨rfl, hname⟩ := ofPiece_eq_normal heq
  exact ⟨hname, not_mem_of_mem_split hpiece⟩

theorem rootDir_notMem_bodyComponents (path : String) : .rootDir ∉ bodyComponents path := by
  intro h
  obtain ⟨piece, -, heq⟩ := List.mem_filterMap.1 h
  rw [ofPiece] at heq
  split at heq
  · exact absurd heq (by simp)
  · split at heq <;> exact absurd heq (by simp)

theorem filterMap_ofPiece {names : List String} (h : ∀ name ∈ names, IsName name) :
    names.filterMap ofPiece = names.map .normal := by
  induction names with
  | nil => rfl
  | cons name names ih =>
      rw [List.forall_mem_cons] at h
      rw [List.filterMap_cons, h.1.piece, List.map_cons, ih h.2]

/-! ## Absolute paths -/

theorem isAbsolute_iff {path : String} : isAbsolute path = true ↔ ∃ rest, path = "/" ++ rest :=
  startsWith_iff

theorem isAbsolute_append (path : String) : isAbsolute ("/" ++ path) = true :=
  isAbsolute_iff.2 ⟨path, rfl⟩

theorem split_root (path : String) : split '/' ("/" ++ path) = "" :: split '/' path := by
  have h : split '/' ("" ++ "/" ++ path) = split '/' "" ++ split '/' path :=
    split_append rfl "" path
  have hempty : split '/' "" = [""] := split_eq_singleton (by simp)
  rw [String.empty_append, hempty] at h
  exact h

theorem headComponents_root (path : String) : headComponents ("/" ++ path) = [.rootDir] := by
  rw [headComponents, if_pos (isAbsolute_append path)]

theorem bodyPieces_root (path : String) : bodyPieces ("/" ++ path) = split '/' path := by
  rw [bodyPieces, headComponents_root, if_neg (List.cons_ne_nil _ _), split_root]
  rfl

theorem components_root (path : String) :
    components ("/" ++ path) = .rootDir :: bodyComponents path := by
  rw [components, headComponents_root, bodyPieces_root]
  rfl

theorem bodyComponents_root (path : String) :
    bodyComponents ("/" ++ path) = bodyComponents path := by
  rw [bodyComponents, split_root]
  rfl

theorem components_of_isAbsolute {path : String} (h : isAbsolute path = true) :
    components path = .rootDir :: bodyComponents path := by
  obtain ⟨rest, rfl⟩ := isAbsolute_iff.1 h
  rw [components_root, bodyComponents_root]

theorem bodyComponents_append (path other : String) :
    bodyComponents (path ++ "/" ++ other) = bodyComponents path ++ bodyComponents other := by
  rw [bodyComponents, split_append rfl, List.filterMap_append]
  rfl

theorem bodyComponents_empty : bodyComponents "" = [] := by
  rw [bodyComponents, split_eq_singleton (by simp)]
  rfl

/-- Pushing a relative path appends its components. -/
theorem bodyComponents_push (path : String) {other : String} (h : isAbsolute other = false) :
    bodyComponents (push path other) = bodyComponents path ++ bodyComponents other := by
  rw [push, h, if_neg (by simp)]
  split
  · rename_i hends
    rcases Bool.or_eq_true_iff.1 hends with hempty | hends
    · rw [of_decide_eq_true hempty, String.empty_append, bodyComponents_empty, List.nil_append]
    · obtain ⟨rest, rfl⟩ := endsWith_iff.1 hends
      have hslash : bodyComponents (rest ++ "/") = bodyComponents rest := by
        have happend := bodyComponents_append rest ""
        rwa [String.append_empty, bodyComponents_empty, List.append_nil] at happend
      rw [bodyComponents_append, hslash]
  · exact bodyComponents_append path other

theorem isAbsolute_push {path other : String} (h : isAbsolute path = true)
    (hother : isAbsolute other = false) : isAbsolute (push path other) = true := by
  obtain ⟨rest, rfl⟩ := isAbsolute_iff.1 h
  rw [push, hother, if_neg (by simp)]
  split
  · exact isAbsolute_iff.2 ⟨rest ++ other, String.append_assoc⟩
  · exact isAbsolute_iff.2 ⟨rest ++ "/" ++ other, by simp only [String.append_assoc]⟩

section Render

variable {names names' : List String}

/-- The pieces of the text after the root. -/
theorem split_join_names (h : ∀ name ∈ names, IsName name) :
    split '/' (join '/' names) = if names = [] then [""] else names := by
  by_cases hnil : names = []
  · rw [if_pos hnil, hnil, join_nil, split_eq_singleton (by simp)]
  · rw [if_neg hnil, split_join hnil fun name hname => (h name hname).noSlash]

theorem components_render (h : ∀ name ∈ names, IsName name) :
    components (render names) = .rootDir :: names.map .normal := by
  rw [render, components_root, bodyComponents, split_join_names h]
  split
  · rename_i hnil
    rw [hnil]
    rfl
  · rw [filterMap_ofPiece h]

theorem isAbsolute_render : isAbsolute (render names) = true := isAbsolute_append _

theorem headComponents_render : headComponents (render names) = [.rootDir] :=
  headComponents_root _

theorem isName_dropLast (h : ∀ name ∈ names, IsName name) : ∀ name ∈ names.dropLast, IsName name :=
  fun name hname => h name (List.mem_of_mem_dropLast hname)

theorem not_isAbsolute_of_isName {name : String} (h : IsName name) : isAbsolute name = false := by
  rw [Bool.eq_false_iff]
  intro habs
  obtain ⟨rest, rfl⟩ := isAbsolute_iff.1 habs
  exact h.noSlash (by simp)

/-- Text that ends in a name does not end in a separator. -/
theorem not_endsWith_of_isName {name : String} (h : IsName name) (s : String) :
    endsWith "/" (s ++ name) = false := by
  rw [Bool.eq_false_iff]
  intro hends
  obtain ⟨rest, hrest⟩ := endsWith_iff.1 hends
  have hlast : (s ++ name).toList.getLast? = some '/' := by
    rw [hrest]
    simp
  have hne : name.toList ≠ [] := by
    intro hnil
    exact h.ne_empty (String.toList_inj.1 hnil)
  rw [String.toList_append, List.getLast?_append_of_ne_nil _ hne] at hlast
  exact h.noSlash (List.mem_of_getLast? hlast)

/-- The text of a path with one more name. -/
theorem render_concat (hnames : names ≠ []) (name : String) :
    render (names ++ [name]) = render names ++ "/" ++ name := by
  have hjoin : join '/' (names ++ [name]) = join '/' names ++ "/" ++ name :=
    join_concat rfl hnames name
  rw [render, render, hjoin]
  simp only [String.append_assoc]

theorem render_ne_empty : render names ≠ "" := by
  intro h
  have hchars := congrArg String.toList h
  exact absurd hchars (by simp [render])

theorem push_render (h : ∀ name ∈ names, IsName name) {name : String} (hname : IsName name) :
    push (render names) name = render (names ++ [name]) := by
  rw [push, not_isAbsolute_of_isName hname, if_neg (by simp)]
  rcases List.eq_nil_or_concat' names with rfl | ⟨init, last, rfl⟩
  · have hroot : endsWith "/" (render []) = true := by decide +kernel
    rw [hroot, Bool.or_true, if_pos rfl, List.nil_append, render, render, join_nil,
      join_singleton, String.append_empty]
  · have hlast : IsName last := h last (by simp)
    have hends : endsWith "/" (render (init ++ [last])) = false := by
      rcases List.eq_nil_or_concat' init with rfl | ⟨init', last', rfl⟩
      · rw [List.nil_append, render, join_singleton]
        exact not_endsWith_of_isName hlast "/"
      · rw [render_concat (by simp)]
        exact not_endsWith_of_isName hlast _
    have hne : init ++ [last] ≠ [] := by simp
    rw [hends, decide_eq_false render_ne_empty, Bool.or_false, if_neg (by simp),
      render_concat hne name]

/-- The text of names without the root is relative. -/
theorem not_isAbsolute_join (h : ∀ name ∈ names, IsName name) :
    isAbsolute (join '/' names) = false := by
  rw [Bool.eq_false_iff]
  intro habs
  obtain ⟨rest, hrest⟩ := isAbsolute_iff.1 habs
  have hsplit := split_join_names h
  rw [hrest, split_root] at hsplit
  split at hsplit
  · exact split_ne_nil '/' rest (List.cons.inj hsplit).2
  · have hempty : IsName "" := h "" (hsplit ▸ List.mem_cons_self)
    exact hempty.ne_empty rfl

theorem push_root_join (h : ∀ name ∈ names, IsName name) :
    push "/" (join '/' names) = render names := by
  have hends : endsWith "/" "/" = true := by decide +kernel
  rw [push, not_isAbsolute_join h, hends, Bool.or_true, if_neg (by simp), if_pos rfl, render]

/-- Nothing is trimmed behind a name. -/
theorem trimPieces_names (h : ∀ name ∈ names, IsName name) : trimPieces names = names := by
  rw [trimPieces, List.rdropWhile_eq_self_iff]
  intro hne
  rw [(h _ (List.getLast_mem hne)).piece]
  simp

theorem pop_render (h : ∀ name ∈ names, IsName name) :
    pop (render names) = render names.dropLast := by
  rcases List.eq_nil_or_concat' names with rfl | ⟨init, last, rfl⟩
  · rw [pop, components_render h]
    rfl
  · have hlast : (components (render (init ++ [last]))).getLast? = some (.normal last) := by
      rw [components_render h, List.map_append, List.map_singleton, ← List.cons_append,
        List.getLast?_concat]
    have hbody : bodyPieces (render (init ++ [last])) = init ++ [last] := by
      rw [render, bodyPieces_root, split_join_names h, if_neg (by simp)]
    have hinit : ∀ name ∈ init, IsName name := fun name hname => h name (by simp [hname])
    rw [pop, hlast]
    simp only
    rw [hbody, trimPieces_names h, List.dropLast_concat, trimPieces_names hinit, withHead,
      if_pos isAbsolute_render, render]

theorem startsWith_render (h : ∀ name ∈ names, IsName name) (h' : ∀ name ∈ names', IsName name) :
    startsWith (render names) (render names') = true ↔ names' <+: names := by
  have hinj : Function.Injective Component.normal := fun _ _ => Component.normal.inj
  rw [startsWith, components_render h, components_render h', List.isPrefixOf_iff_prefix,
    List.prefix_cons_inj, List.prefix_map_iff_of_injective hinj]

theorem dropComponents_names (h : ∀ name ∈ names, IsName name) (n : Nat) :
    dropComponents n names = names.drop n := by
  induction names generalizing n with
  | nil => cases n <;> rfl
  | cons name names ih =>
      rw [List.forall_mem_cons] at h
      cases n with
      | zero =>
          rw [dropComponents, List.dropWhile_cons_of_neg (by simp [h.1.piece])]
          rfl
      | succ n =>
          rw [dropComponents, h.1.piece, if_neg (by simp), ih h.2]
          rfl

theorem stripPrefix_render (h : ∀ name ∈ names, IsName name)
    (h' : ∀ name ∈ names', IsName name) (hpre : names' <+: names) :
    stripPrefix (render names) (render names') = some (join '/' (names.drop names'.length)) := by
  rw [stripPrefix, if_pos ((startsWith_render h h').2 hpre), components_render h',
    headComponents_render]
  have hrest : trimPieces (dropComponents names'.length (bodyPieces (render names))) =
      names.drop names'.length := by
    have hdrop : ∀ name ∈ names.drop names'.length, IsName name :=
      fun name hname => h name (List.mem_of_mem_drop hname)
    rw [render, bodyPieces_root, split_join_names h]
    split
    · rename_i hnil
      subst hnil
      rw [List.prefix_nil.1 hpre]
      rfl
    · rw [dropComponents_names h, trimPieces_names hdrop]
  simp [hrest]

end Render

/-! ## Normal forms -/

/-- One component, on the names so far. -/
def nameStep (names : List String) : Component → List String
  | .parentDir => names.dropLast
  | .normal name => names ++ [name]
  | .rootDir | .curDir => names

/-- The names of a path after `.` and `..` are resolved. -/
def lexicalNames (path : String) : List String := (bodyComponents path).foldl nameStep []

theorem isName_nameStep {names : List String} (h : ∀ name ∈ names, IsName name)
    {component : Component} (hc : ∀ name, component = .normal name → IsName name) :
    ∀ name ∈ nameStep names component, IsName name := by
  cases component with
  | rootDir => exact h
  | curDir => exact h
  | parentDir => exact isName_dropLast h
  | normal name =>
      intro other hother
      rcases List.mem_append.1 hother with hother | hother
      · exact h other hother
      · rw [List.mem_singleton.1 hother]
        exact hc name rfl

theorem normalizeStep_render {names : List String} (h : ∀ name ∈ names, IsName name)
    {component : Component} (hroot : component ≠ .rootDir)
    (hc : ∀ name, component = .normal name → IsName name) :
    normalizeStep (render names) component = render (nameStep names component) := by
  cases component with
  | rootDir => exact absurd rfl hroot
  | curDir => rfl
  | parentDir => exact pop_render h
  | normal name => exact push_render h (hc name rfl)

/-- The loop on text is the loop on names. -/
theorem foldl_normalizeStep {components : List Component} {names : List String}
    (h : ∀ name ∈ names, IsName name) (hroot : .rootDir ∉ components)
    (hc : ∀ name, .normal name ∈ components → IsName name) :
    components.foldl normalizeStep (render names) = render (components.foldl nameStep names) ∧
      ∀ name ∈ components.foldl nameStep names, IsName name := by
  induction components generalizing names with
  | nil => exact ⟨rfl, h⟩
  | cons component components ih =>
      rw [List.mem_cons, not_or] at hroot
      have hhead : ∀ name, component = .normal name → IsName name :=
        fun name heq => hc name (heq ▸ List.mem_cons_self)
      rw [List.foldl_cons, List.foldl_cons, normalizeStep_render h (Ne.symm hroot.1) hhead]
      exact ih (isName_nameStep h hhead) hroot.2 fun name hname => hc name (.tail _ hname)

theorem isName_lexicalNames (path : String) : ∀ name ∈ lexicalNames path, IsName name :=
  (foldl_normalizeStep (by simp) (rootDir_notMem_bodyComponents path)
    fun _ => isName_of_mem_bodyComponents).2

/-- **Normalization of an absolute path** is the text of its names. -/
theorem normalizeLexical_eq_render {path : String} (h : isAbsolute path = true) :
    normalizeLexical path = render (lexicalNames path) := by
  rw [normalizeLexical, components_of_isAbsolute h, List.foldl_cons]
  have hroot : normalizeStep "" .rootDir = render [] := by decide +kernel
  rw [hroot]
  exact (foldl_normalizeStep (by simp) (rootDir_notMem_bodyComponents path)
    fun _ => isName_of_mem_bodyComponents).1

theorem bodyComponents_render {names : List String} (h : ∀ name ∈ names, IsName name) :
    bodyComponents (render names) = names.map .normal := by
  have hcomponents := components_render h
  rw [components_of_isAbsolute isAbsolute_render] at hcomponents
  exact (List.cons.inj hcomponents).2

/-- The names of a path in normal form are its own. -/
theorem lexicalNames_render {names : List String} (h : ∀ name ∈ names, IsName name) :
    lexicalNames (render names) = names := by
  have hbody := bodyComponents_render h
  have hfold : ∀ acc : List String,
      (names.map Component.normal).foldl nameStep acc = acc ++ names := by
    clear hbody h
    induction names with
    | nil => simp
    | cons name names ih =>
        intro acc
        rw [List.map_cons, List.foldl_cons, ih, nameStep, List.append_assoc, List.singleton_append]
  rw [lexicalNames, hbody, hfold, List.nil_append]

theorem normalizeLexical_render {names : List String} (h : ∀ name ∈ names, IsName name) :
    normalizeLexical (render names) = render names := by
  rw [normalizeLexical_eq_render isAbsolute_render, lexicalNames_render h]

/-- Names pushed onto a path in normal form follow its own, component by component. -/
theorem components_push_join {names names' : List String} (h : ∀ name ∈ names, IsName name)
    (h' : ∀ name ∈ names', IsName name) :
    components (push (render names) (join '/' names')) = components (render (names ++ names')) := by
  have hall : ∀ name ∈ names ++ names', IsName name :=
    List.forall_mem_append.2 ⟨h, h'⟩
  have hrel := not_isAbsolute_join h'
  have hjoin : bodyComponents (join '/' names') = bodyComponents (render names') := by
    rw [render, bodyComponents_root]
  rw [components_of_isAbsolute (isAbsolute_push isAbsolute_render hrel), bodyComponents_push _ hrel,
    hjoin, bodyComponents_render h, bodyComponents_render h', components_render hall,
    List.map_append]

/-- The names of a relative path below another one. -/
theorem lexicalNames_push (path : String) {other : String} (h : isAbsolute other = false) :
    lexicalNames (push path other) = (bodyComponents other).foldl nameStep (lexicalNames path) := by
  rw [lexicalNames, bodyComponents_push path h, List.foldl_append]
  rfl

theorem lexicalNames_append (path other : String) :
    lexicalNames (path ++ "/" ++ other) =
      (bodyComponents other).foldl nameStep (lexicalNames path) := by
  rw [lexicalNames, bodyComponents_append, List.foldl_append]
  rfl

end DnsFilter.Path
