import DnsFilter.Lib.Path
import DnsFilter.Lib.Result

/-!
# Paths inside the chroot

The server confines itself to a directory. Paths of the configuration are resolved against it
(`config_bootstrap.rs`) in two ways: as the process sees them before it changes its root
(`resolve_path_for_chroot_host`) and after (`resolve_path_for_chroot_runtime`). Both work on the
text alone.

* `hostNames` — the names of the resolved path; a path is accepted exactly if those of the chroot
  directory are a prefix of them (`resolvePathForChrootHost_eq_ok`).
* `chroot_confinement` — an accepted path lies inside, the two views agree, and database URLs follow
  them.
-/

namespace DnsFilter

open Text DnsFilter.Path

/-! ## Resolving -/

/-- `parse_chroot_dir`. -/
def parseChrootDir (chrootDir : String) : Except String String :=
  if trim chrootDir = "" then .error "security.chroot_dir must not be empty"
  else if isAbsolute chrootDir then .ok (normalizeLexical chrootDir)
  else .error ("security.chroot_dir must be an absolute path, got '" ++ chrootDir ++ "'")

/-- `resolve_scoped_host_path`. -/
def resolveScopedHostPath (path chrootDir : String) : Except String String :=
  let trimmed := trim path
  if trimmed = "" then .error "path is empty"
  else
    let chrootNorm := normalizeLexical chrootDir
    let joined := if isAbsolute trimmed then trimmed else push chrootNorm trimmed
    let normalized := normalizeLexical joined
    if Path.startsWith normalized chrootNorm then .ok normalized
    else .error ("path '" ++ path ++ "' resolves outside chroot '" ++ chrootNorm ++ "'")

/-- `resolve_path_for_chroot_host`. -/
def resolvePathForChrootHost (path chrootDir : String) : Except String String := do
  let chroot ← parseChrootDir chrootDir
  resolveScopedHostPath path chroot

/-- `resolve_path_for_chroot_runtime`. -/
def resolvePathForChrootRuntime (path chrootDir : String) : Except String String := do
  let chroot ← parseChrootDir chrootDir
  let resolvedHost ← resolveScopedHostPath path chroot
  match Path.stripPrefix resolvedHost chroot with
  | some rel => .ok (push "/" rel)
  | none => .error ("path escapes chroot after normalization: " ++ path)

/-- The common body of `sqlite_url_for_chroot_host` and `sqlite_url_for_chroot_runtime`. -/
def sqliteUrlForChroot (resolve : String → String → Except String String) (url chrootDir : String) :
    Except String String :=
  if url = "sqlite::memory:" then
    .error "sqlite::memory: is not supported when chroot confinement is enforced"
  else match Text.stripPrefix "sqlite://" url with
    | none => .ok url
    | some rest =>
        let (rawPath, query) := match splitOnce '?' rest with
          | some (path, query) => (path, some query)
          | none => (rest, none)
        if trim rawPath = "" then .error "sqlite URL must include a database file path"
        else do
          let resolved ← resolve rawPath chrootDir
          return "sqlite://" ++ resolved ++ (query.elim "" fun query => "?" ++ query)

/-- `sqlite_url_for_chroot_host`. -/
def sqliteUrlForChrootHost : String → String → Except String String :=
  sqliteUrlForChroot resolvePathForChrootHost

/-- `sqlite_url_for_chroot_runtime`. -/
def sqliteUrlForChrootRuntime : String → String → Except String String :=
  sqliteUrlForChroot resolvePathForChrootRuntime

/-! ## Names -/

/-- The names of the path that a configured path stands for. -/
def hostNames (path chrootDir : String) : List String :=
  if isAbsolute (trim path) then lexicalNames (trim path)
  else (bodyComponents (trim path)).foldl nameStep (lexicalNames chrootDir)

variable {path chrootDir h r : String}

theorem parseChrootDir_eq_ok {chroot : String} :
    parseChrootDir chrootDir = .ok chroot ↔
      trim chrootDir ≠ "" ∧ isAbsolute chrootDir = true ∧
        chroot = render (lexicalNames chrootDir) := by
  rw [parseChrootDir]
  split
  · rename_i hempty
    simp [hempty]
  · rename_i hne
    split
    · rename_i habs
      rw [normalizeLexical_eq_render habs]
      simp [hne, habs, eq_comm]
    · rename_i habs
      simp [habs]

theorem isName_hostNames (path chrootDir : String) :
    ∀ name ∈ hostNames path chrootDir, IsName name := by
  rw [hostNames]
  split
  · exact isName_lexicalNames _
  · exact (foldl_normalizeStep (isName_lexicalNames chrootDir)
      (rootDir_notMem_bodyComponents _) fun _ => isName_of_mem_bodyComponents).2

/-- The normal form of the joined path. -/
theorem normalizeLexical_joined (path chrootDir : String) :
    normalizeLexical (if isAbsolute (trim path) then trim path
      else push (render (lexicalNames chrootDir)) (trim path)) =
        render (hostNames path chrootDir) := by
  rw [hostNames]
  split
  · rename_i habs
    exact normalizeLexical_eq_render habs
  · rename_i hrel
    have hrel : isAbsolute (trim path) = false := by simpa using hrel
    rw [normalizeLexical_eq_render (isAbsolute_push isAbsolute_render hrel),
      lexicalNames_push _ hrel, lexicalNames_render (isName_lexicalNames chrootDir)]

theorem resolveScopedHostPath_eq_ok :
    resolveScopedHostPath path (render (lexicalNames chrootDir)) = .ok h ↔
      trim path ≠ "" ∧ lexicalNames chrootDir <+: hostNames path chrootDir ∧
        h = render (hostNames path chrootDir) := by
  have hpre := startsWith_render (isName_hostNames path chrootDir)
    (isName_lexicalNames chrootDir)
  simp only [resolveScopedHostPath]
  rw [normalizeLexical_render (isName_lexicalNames chrootDir), normalizeLexical_joined]
  split
  · rename_i hempty
    simp [hempty]
  · rename_i hne
    split
    · rename_i hinside
      simp [hne, hpre.1 hinside, eq_comm]
    · rename_i houtside
      have hnot : ¬ lexicalNames chrootDir <+: hostNames path chrootDir :=
        fun hinside => houtside (hpre.2 hinside)
      simp [hnot]

/-- **What is accepted**, and the result. -/
theorem resolvePathForChrootHost_eq_ok :
    resolvePathForChrootHost path chrootDir = .ok h ↔
      trim chrootDir ≠ "" ∧ isAbsolute chrootDir = true ∧ trim path ≠ "" ∧
        lexicalNames chrootDir <+: hostNames path chrootDir ∧
        h = render (hostNames path chrootDir) := by
  rw [resolvePathForChrootHost, bind_eq_ok]
  constructor
  · intro ⟨chroot, hchroot, hresolved⟩
    obtain ⟨hne, habs, rfl⟩ := parseChrootDir_eq_ok.1 hchroot
    exact ⟨hne, habs, resolveScopedHostPath_eq_ok.1 hresolved⟩
  · intro ⟨hne, habs, hresolved⟩
    exact ⟨_, parseChrootDir_eq_ok.2 ⟨hne, habs, rfl⟩, resolveScopedHostPath_eq_ok.2 hresolved⟩

/-- The path after the change of root: the names below the chroot directory. -/
theorem resolvePathForChrootRuntime_eq_ok :
    resolvePathForChrootRuntime path chrootDir = .ok r ↔
      trim chrootDir ≠ "" ∧ isAbsolute chrootDir = true ∧ trim path ≠ "" ∧
        lexicalNames chrootDir <+: hostNames path chrootDir ∧
        r = render ((hostNames path chrootDir).drop (lexicalNames chrootDir).length) := by
  have hrest (hinside : lexicalNames chrootDir <+: hostNames path chrootDir) :
      Path.stripPrefix (render (hostNames path chrootDir)) (render (lexicalNames chrootDir)) =
        some (join '/' ((hostNames path chrootDir).drop (lexicalNames chrootDir).length)) :=
    stripPrefix_render (isName_hostNames path chrootDir) (isName_lexicalNames chrootDir) hinside
  have hnames : ∀ name ∈ (hostNames path chrootDir).drop (lexicalNames chrootDir).length,
      IsName name :=
    fun name hname => isName_hostNames path chrootDir name (List.mem_of_mem_drop hname)
  rw [resolvePathForChrootRuntime, bind_eq_ok]
  constructor
  · intro ⟨chroot, hchroot, h⟩
    obtain ⟨hne, habs, rfl⟩ := parseChrootDir_eq_ok.1 hchroot
    obtain ⟨host, hhost, h⟩ := bind_eq_ok.1 h
    obtain ⟨hpath, hinside, rfl⟩ := resolveScopedHostPath_eq_ok.1 hhost
    rw [hrest hinside] at h
    obtain rfl := Except.ok.inj h
    exact ⟨hne, habs, hpath, hinside, push_root_join hnames⟩
  · intro ⟨hne, habs, hpath, hinside, hr⟩
    refine ⟨_, parseChrootDir_eq_ok.2 ⟨hne, habs, rfl⟩, bind_eq_ok.2 ⟨_,
      resolveScopedHostPath_eq_ok.2 ⟨hpath, hinside, rfl⟩, ?_⟩⟩
    rw [hrest hinside]
    exact congrArg Except.ok ((push_root_join hnames).trans hr.symm)

theorem succeeds_runtime_iff :
    Succeeds (resolvePathForChrootRuntime path chrootDir) ↔
      Succeeds (resolvePathForChrootHost path chrootDir) := by
  simp only [Succeeds, resolvePathForChrootRuntime_eq_ok, resolvePathForChrootHost_eq_ok,
    exists_and_left, exists_eq]

/-! ## Relative paths -/

theorem not_isWhitespace_getLast {s : String} (h : trim s = s) :
    ∀ c ∈ s.toList.getLast?, isWhitespace c = false := by
  intro c hc
  have hne : s.toList ≠ [] := by
    intro hnil
    rw [hnil] at hc
    exact absurd hc (by simp)
  have hchars : (s.toList.dropWhile isWhitespace).rdropWhile isWhitespace = s.toList := by
    rw [← toList_trim, h]
  have hlast := List.rdropWhile_last_not isWhitespace (s.toList.dropWhile isWhitespace)
    (by rw [hchars]; exact hne)
  rw [List.getLast?_eq_getLast_of_ne_nil hne, Option.mem_some_iff] at hc
  simp only [hchars, hc] at hlast
  simpa using hlast

/-- A relative path stands for the one with the chroot directory in front of it. -/
theorem hostNames_append (hne : path ≠ "") (hrel : isAbsolute path = false)
    (htrim : trim path = path)
    (habs : isAbsolute chrootDir = true) :
    trim (chrootDir ++ "/" ++ path) = chrootDir ++ "/" ++ path ∧
      hostNames (chrootDir ++ "/" ++ path) chrootDir = hostNames path chrootDir := by
  obtain ⟨rest, hrest⟩ := isAbsolute_iff.1 habs
  have hpath : path.toList ≠ [] := fun hnil => hne (String.toList_inj.1 hnil)
  have htrimmed : trim (chrootDir ++ "/" ++ path) = chrootDir ++ "/" ++ path := by
    apply trim_eq_self
    · rw [hrest]
      simp [isWhitespace]
    · rw [String.toList_append, List.getLast?_append_of_ne_nil _ hpath]
      exact not_isWhitespace_getLast htrim
  have habs' : isAbsolute (chrootDir ++ "/" ++ path) = true := by
    rw [hrest, String.append_assoc, String.append_assoc]
    exact isAbsolute_append _
  refine ⟨htrimmed, ?_⟩
  rw [hostNames, hostNames, htrimmed, htrim, if_pos habs', hrel, if_neg (by simp),
    lexicalNames_append]

/-! ## Database URLs -/

/-- The conversion of a database URL applies `resolve` to the path and leaves the query alone. -/
def ConvertsUrls (convert resolve : String → Except String String) : Prop :=
  ∀ path result, '?' ∉ path.toList →
    (convert ("sqlite://" ++ path) = .ok result ↔
      ∃ resolved, resolve path = .ok resolved ∧ result = "sqlite://" ++ resolved) ∧
    ∀ query, convert ("sqlite://" ++ path ++ "?" ++ query) = .ok result ↔
      ∃ resolved, resolve path = .ok resolved ∧ result = "sqlite://" ++ resolved ++ "?" ++ query

theorem sqlite_ne_memory (rest : String) : "sqlite://" ++ rest ≠ "sqlite::memory:" := by
  intro h
  have hchars := congrArg String.toList h
  exact absurd hchars (by simp)

/-- The part of the body after the URL is taken apart. -/
theorem convert_eq_ok {resolve : String → String → Except String String} {rawPath result : String}
    {suffix : String} (hempty : trim rawPath = "" → ¬ Succeeds (resolve rawPath chrootDir)) :
    (if trim rawPath = "" then Except.error "sqlite URL must include a database file path"
      else do
        let resolved ← resolve rawPath chrootDir
        return "sqlite://" ++ resolved ++ suffix) = .ok result ↔
      ∃ resolved, resolve rawPath chrootDir = .ok resolved ∧
        result = "sqlite://" ++ resolved ++ suffix := by
  split
  · rename_i hblank
    refine iff_of_false (by simp) ?_
    intro ⟨resolved, hresolved, _⟩
    exact hempty hblank ⟨resolved, hresolved⟩
  · rw [bind_eq_ok]
    refine exists_congr fun resolved => and_congr_right fun _ => ?_
    exact ⟨fun h => (Except.ok.inj h).symm, fun h => congrArg Except.ok h.symm⟩

theorem convertsUrls_sqliteUrlForChroot {resolve : String → String → Except String String}
    (hempty : ∀ path, trim path = "" → ¬ Succeeds (resolve path chrootDir)) :
    ConvertsUrls (sqliteUrlForChroot resolve · chrootDir) (resolve · chrootDir) := by
  intro path result hpath
  beta_reduce
  constructor
  · rw [sqliteUrlForChroot, if_neg (sqlite_ne_memory path), stripPrefix_append]
    simp only [splitOnce_eq_none hpath, Option.elim_none]
    rw [convert_eq_ok (hempty path)]
    simp only [String.append_empty]
  · intro query
    have hurl : "sqlite://" ++ path ++ "?" ++ query = "sqlite://" ++ (path ++ "?" ++ query) := by
      simp only [String.append_assoc]
    have hsplit : splitOnce '?' (path ++ "?" ++ query) = some (path, query) :=
      splitOnce_append rfl hpath query
    rw [hurl, sqliteUrlForChroot, if_neg (sqlite_ne_memory _), stripPrefix_append]
    simp only [hsplit, Option.elim_some]
    rw [convert_eq_ok (hempty path)]
    simp only [String.append_assoc]

/-- A blank path is accepted by neither. -/
theorem not_succeeds_of_blank (h : trim path = "") :
    ¬ Succeeds (resolvePathForChrootHost path chrootDir) := by
  intro ⟨result, hresult⟩
  exact (resolvePathForChrootHost_eq_ok.1 hresult).2.2.1 h

theorem convertsUrls_host :
    ConvertsUrls (sqliteUrlForChrootHost · chrootDir) (resolvePathForChrootHost · chrootDir) :=
  convertsUrls_sqliteUrlForChroot fun _ => not_succeeds_of_blank

theorem convertsUrls_runtime :
    ConvertsUrls (sqliteUrlForChrootRuntime · chrootDir)
      (resolvePathForChrootRuntime · chrootDir) :=
  convertsUrls_sqliteUrlForChroot fun _ hblank hsucceeds =>
    not_succeeds_of_blank hblank (succeeds_runtime_iff.1 hsucceeds)

/-- URLs that name no file are not touched. -/
theorem sqliteUrlForChroot_other {resolve : String → String → Except String String} {url : String}
    (hmemory : url ≠ "sqlite::memory:") (hother : ∀ rest, url ≠ "sqlite://" ++ rest) :
    sqliteUrlForChroot resolve url chrootDir = .ok url := by
  rw [sqliteUrlForChroot, if_neg hmemory]
  cases hstrip : Text.stripPrefix "sqlite://" url with
  | none => rfl
  | some rest => exact absurd (stripPrefix_eq_some.1 hstrip) (hother rest)

theorem succeeds_of_convertsUrls {convert resolve convert' resolve' : String → Except String String}
    (h : ConvertsUrls convert resolve) (h' : ConvertsUrls convert' resolve')
    (hresolve : ∀ path, Succeeds (resolve path) ↔ Succeeds (resolve' path)) (rest : String) :
    Succeeds (convert ("sqlite://" ++ rest)) ↔ Succeeds (convert' ("sqlite://" ++ rest)) := by
  have hconvert {f g : String → Except String String} (hfg : ConvertsUrls f g) {path : String}
      (hpath : '?' ∉ path.toList) :
      (Succeeds (f ("sqlite://" ++ path)) ↔ Succeeds (g path)) ∧
        ∀ query, Succeeds (f ("sqlite://" ++ path ++ "?" ++ query)) ↔ Succeeds (g path) := by
    constructor
    · constructor
      · intro ⟨result, hresult⟩
        obtain ⟨resolved, hresolved, -⟩ := (hfg path result hpath).1.1 hresult
        exact ⟨resolved, hresolved⟩
      · intro ⟨resolved, hresolved⟩
        exact ⟨_, (hfg path _ hpath).1.2 ⟨resolved, hresolved, rfl⟩⟩
    · intro query
      constructor
      · intro ⟨result, hresult⟩
        obtain ⟨resolved, hresolved, -⟩ := ((hfg path result hpath).2 query).1 hresult
        exact ⟨resolved, hresolved⟩
      · intro ⟨resolved, hresolved⟩
        exact ⟨_, ((hfg path _ hpath).2 query).2 ⟨resolved, hresolved, rfl⟩⟩
  rcases @exists_splitOnce '?' "?" rfl rest with hpath | ⟨path, query, hpath, rfl⟩
  · rw [(hconvert h hpath).1, (hconvert h' hpath).1]
    exact hresolve rest
  · have hurl : "sqlite://" ++ (path ++ "?" ++ query) = "sqlite://" ++ path ++ "?" ++ query := by
      simp only [String.append_assoc]
    rw [hurl, (hconvert h hpath).2 query, (hconvert h' hpath).2 query]
    exact hresolve path

theorem succeeds_sqliteUrl_iff (url : String) :
    Succeeds (sqliteUrlForChrootRuntime url chrootDir) ↔
      Succeeds (sqliteUrlForChrootHost url chrootDir) := by
  by_cases hmemory : url = "sqlite::memory:"
  · simp [sqliteUrlForChrootRuntime, sqliteUrlForChrootHost, sqliteUrlForChroot, hmemory]
  · by_cases hother : ∀ rest, url ≠ "sqlite://" ++ rest
    · rw [sqliteUrlForChrootRuntime, sqliteUrlForChrootHost, sqliteUrlForChroot_other hmemory hother,
        sqliteUrlForChroot_other hmemory hother]
    · simp only [not_forall, not_not] at hother
      obtain ⟨rest, rfl⟩ := hother
      exact succeeds_of_convertsUrls convertsUrls_runtime convertsUrls_host
        (fun _ => succeeds_runtime_iff) rest

/-! ## Confinement -/

/-- **Confinement.** A path that is accepted lies below the chroot directory and has no `.` or `..`
left. The path after the change of root is given for the same paths, and joined to the normal form
of the chroot directory it is the path before. A relative path is one below the chroot directory.
Database URLs are converted the same way, with their query unchanged. -/
theorem chroot_confinement (path chrootDir url : String) :
    (∀ h, resolvePathForChrootHost path chrootDir = .ok h →
      isAbsolute h = true ∧ .curDir ∉ components h ∧ .parentDir ∉ components h ∧
        components (normalizeLexical chrootDir) <+: components h) ∧
    (Succeeds (resolvePathForChrootRuntime path chrootDir) ↔
      Succeeds (resolvePathForChrootHost path chrootDir)) ∧
    (∀ h r, resolvePathForChrootHost path chrootDir = .ok h →
      resolvePathForChrootRuntime path chrootDir = .ok r →
        ∃ rest, r = "/" ++ rest ∧
          components (push (normalizeLexical chrootDir) rest) = components h) ∧
    (path ≠ "" → isAbsolute path = false → trim path = path → ∀ result,
      (resolvePathForChrootHost path chrootDir = .ok result ↔
        resolvePathForChrootHost (chrootDir ++ "/" ++ path) chrootDir = .ok result) ∧
      (resolvePathForChrootRuntime path chrootDir = .ok result ↔
        resolvePathForChrootRuntime (chrootDir ++ "/" ++ path) chrootDir = .ok result)) ∧
    (Succeeds (sqliteUrlForChrootRuntime url chrootDir) ↔
      Succeeds (sqliteUrlForChrootHost url chrootDir)) ∧
    ConvertsUrls (sqliteUrlForChrootHost · chrootDir) (resolvePathForChrootHost · chrootDir) ∧
    ConvertsUrls (sqliteUrlForChrootRuntime · chrootDir)
      (resolvePathForChrootRuntime · chrootDir) := by
  have hnames := isName_hostNames path chrootDir
  refine ⟨?_, succeeds_runtime_iff, ?_, ?_, succeeds_sqliteUrl_iff url, convertsUrls_host,
    convertsUrls_runtime⟩
  · intro h hhost
    obtain ⟨-, habs, -, hinside, rfl⟩ := resolvePathForChrootHost_eq_ok.1 hhost
    rw [normalizeLexical_eq_render habs, components_render hnames,
      components_render (isName_lexicalNames chrootDir)]
    exact ⟨isAbsolute_render, by simp, by simp, (List.prefix_cons_inj _).2 (hinside.map _)⟩
  · intro h r hhost hruntime
    obtain ⟨-, habs, -, hinside, rfl⟩ := resolvePathForChrootHost_eq_ok.1 hhost
    obtain ⟨-, -, -, -, rfl⟩ := resolvePathForChrootRuntime_eq_ok.1 hruntime
    refine ⟨_, rfl, ?_⟩
    rw [normalizeLexical_eq_render habs, components_push_join (isName_lexicalNames chrootDir)
      fun name hname => hnames name (List.mem_of_mem_drop hname),
      ← List.prefix_append_drop hinside]
  · intro hne hrel htrim result
    by_cases habs : isAbsolute chrootDir = true
    · obtain ⟨htrimmed, heq⟩ := hostNames_append hne hrel htrim habs
      have hnonempty : chrootDir ++ "/" ++ path ≠ "" := by
        intro hnil
        exact absurd (congrArg String.toList hnil) (by simp)
      simp only [resolvePathForChrootHost_eq_ok, resolvePathForChrootRuntime_eq_ok, htrimmed, heq,
        htrim, ne_eq, hne, hnonempty, not_false_eq_true, and_self]
    · simp only [resolvePathForChrootHost_eq_ok, resolvePathForChrootRuntime_eq_ok, habs]
      simp

/-- With a `..` in the chroot directory, the normal form is needed. -/
theorem unnormalized_chroot_differs :
    resolvePathForChrootHost "x" "/a/../b" = .ok "/b/x" ∧
      resolvePathForChrootRuntime "x" "/a/../b" = .ok ("/" ++ "x") ∧
      components (push "/a/../b" "x") ≠ components "/b/x" := by
  decide +kernel

theorem chroot_confinement_run :
    (∃ h r rest, resolvePathForChrootHost "run/dns-filter.sock" "/var/lib/dns-filter" = .ok h ∧
      resolvePathForChrootRuntime "run/dns-filter.sock" "/var/lib/dns-filter" = .ok r ∧
      r = "/" ++ rest ∧
      components (push (normalizeLexical "/var/lib/dns-filter") rest) = components h) ∧
    resolvePathForChrootHost "/var/lib/dns-filter/run/dns-filter.sock" "/var/lib/dns-filter" =
      .ok "/var/lib/dns-filter/run/dns-filter.sock" := by
  have hhost : resolvePathForChrootHost "run/dns-filter.sock" "/var/lib/dns-filter" =
      .ok "/var/lib/dns-filter/run/dns-filter.sock" := by decide +kernel
  have hruntime : resolvePathForChrootRuntime "run/dns-filter.sock" "/var/lib/dns-filter" =
      .ok "/run/dns-filter.sock" := by decide +kernel
  obtain ⟨-, -, hjoined, hrelative, -⟩ :=
    chroot_confinement "run/dns-filter.sock" "/var/lib/dns-filter" "sqlite://dns-filter.db"
  obtain ⟨rest, hrest, hcomponents⟩ := hjoined _ _ hhost hruntime
  refine ⟨⟨_, _, rest, hhost, hruntime, hrest, hcomponents⟩, ?_⟩
  exact ((hrelative (by decide) (by decide +kernel) (by decide +kernel) _).1.1 hhost)

end DnsFilter
