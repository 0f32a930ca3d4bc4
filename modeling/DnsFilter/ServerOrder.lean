import DnsFilter.UpstreamProof

/-!
# Where a new upstream server stands

`add_upstream_server` without a sort order takes the number of stored servers for it
(`server_operations.rs`), and `get_all_servers` reads by sort order, then by identifier
(`upstream_repo.rs`). Under the failover strategy that is the order of precedence.

Sort orders can be given, changed, and left behind by deleted servers, so they need not be smaller
than the number of servers: `default_server_last_iff` says when the new server comes last.
-/

namespace DnsFilter

open Table Numeral

section Order

variable {α : Type} {sortOrder : α → Int} {id : α → String} {rows : List α} {row : α}

/-- A row added last is read last exactly if no other comes after it. -/
theorem orderBySortOrder_append_iff (hid : Keyed id (rows ++ [row])) :
    orderBySortOrder sortOrder id (rows ++ [row]) = orderBySortOrder sortOrder id rows ++ [row] ↔
      ∀ r ∈ rows, sortOrder r < sortOrder row ∨ sortOrder r = sortOrder row ∧ id r ≤ id row := by
  have hperm : (orderBySortOrder sortOrder id rows).Perm rows := List.perm_insertionSort _ rows
  constructor
  · intro heq r hr
    have hsorted := pairwise_orderBySortOrder sortOrder id (rows ++ [row])
    rw [heq] at hsorted
    exact (List.pairwise_append.1 hsorted).2.2 r (hperm.mem_iff.2 hr) row
      (List.mem_singleton_self row)
  · intro hlast
    apply orderBySortOrder_eq hid (hperm.append_right [row])
    rw [List.pairwise_append]
    refine ⟨pairwise_orderBySortOrder sortOrder id rows, List.pairwise_singleton _ _, ?_⟩
    intro r hr new hnew
    rw [List.mem_singleton.1 hnew]
    exact hlast r (hperm.mem_iff.1 hr)

end Order

section Default

variable {lib : Libraries} {start db : Database} {input : CreateUpstreamServerInput}
  {fwmark : Option Int}

/-- The sort order of a server that is added without one. -/
def defaultSortOrder (db : Database) : Int := wrapSigned 32 db.upstreamServers.length

/-- The identifier is not taken. -/
def FreshServerId (db : Database) (id : String) : Prop := ∀ row ∈ db.upstreamServers, row.id ≠ id

/-- The call without a sort order: it succeeds, and the server gets the default. -/
theorem run_addUpstreamServer_default {newUuid : Nat → String} (hnone : input.sortOrder = none)
    (hinput : validateUpstreamServerInput lib input = .ok fwmark)
    (hfresh : FreshServerId db (newUuid 0)) :
    (addUpstreamServer lib newUuid input).run db =
      (.ok (newUpstreamServer newUuid input fwmark (defaultSortOrder db)),
        { db with upstreamServers := db.upstreamServers ++
            [newUpstreamServer newUuid input fwmark (defaultSortOrder db)] }) := by
  have hlength : (UpstreamConfig.getAllServers db).length = db.upstreamServers.length :=
    List.length_insertionSort _ _
  have hsort : (newSortOrder input.sortOrder).run db = (.ok (defaultSortOrder db), db) := by
    rw [hnone, newSortOrder, Op.run_read, hlength]
    rfl
  refine Op.run_ofExcept_bind_eq_ok.2 ⟨fwmark, hinput, ?_⟩
  refine Op.run_bind_eq_ok.2 ⟨defaultSortOrder db, db, hsort, ?_⟩
  refine run_repo_finish_eq_ok.2 ⟨statement_eq_ok.2 ?_, rfl⟩
  refine Option.map_eq_some_iff.2 ⟨_, insertRow_eq_some.2 ⟨?_, rfl⟩, rfl⟩
  intro row hrow
  exact decide_eq_false fun heq => hfresh row hrow heq.symm

/-- The new server comes last, with this identifier. -/
theorem getAllServers_default_iff {newUuid : Nat → String} (hvalid : db.Valid)
    (hfresh : FreshServerId db (newUuid 0)) :
    UpstreamConfig.getAllServers { db with upstreamServers := db.upstreamServers ++
        [newUpstreamServer newUuid input fwmark (defaultSortOrder db)] } =
      UpstreamConfig.getAllServers db ++
        [newUpstreamServer newUuid input fwmark (defaultSortOrder db)] ↔
      ∀ row ∈ db.upstreamServers, row.sortOrder < defaultSortOrder db ∨
        row.sortOrder = defaultSortOrder db ∧ row.id < newUuid 0 := by
  have hkeyed : Keyed (·.id) (db.upstreamServers ++
      [newUpstreamServer newUuid input fwmark (defaultSortOrder db)]) :=
    Keyed.append hvalid.serverId fun row hrow => hfresh row hrow
  refine (orderBySortOrder_append_iff hkeyed).trans (forall₂_congr fun row hrow => ?_)
  refine or_congr_right (and_congr_right fun _ => ?_)
  exact ⟨fun hle => lt_of_le_of_ne hle (hfresh row hrow), le_of_lt⟩

/-- **When a server added without a sort order comes last**, after any sequence of calls and
whatever identifier of `ids` it is given: the stored sort orders are all smaller than the number of
servers, or the same with an identifier that comes before every new one. -/
theorem default_server_last_iff {ms : List UpstreamMutation} (hstart : start.Valid)
    (hrun : run (UpstreamMutation.step lib) start ms = some db) (hnone : input.sortOrder = none)
    (hinput : validateUpstreamServerInput lib input = .ok fwmark) {ids : Set String}
    (hids : ∃ id ∈ ids, FreshServerId db id) :
    (∀ newUuid : Nat → String, newUuid 0 ∈ ids → FreshServerId db (newUuid 0) →
      ∃ record db', (addUpstreamServer lib newUuid input).run db = (.ok record, db') ∧
        UpstreamConfig.getAllServers db' = UpstreamConfig.getAllServers db ++ [record]) ↔
      ∀ row ∈ db.upstreamServers, row.sortOrder < defaultSortOrder db ∨
        row.sortOrder = defaultSortOrder db ∧ ∀ id ∈ ids, FreshServerId db id → row.id < id := by
  have hvalid : db.Valid :=
    run_invariant (fun _ _ _ h hstep => Mutation.step_valid h hstep) hrun hstart
  constructor
  · intro hall row hrow
    have hlast : ∀ id ∈ ids, FreshServerId db id → row.sortOrder < defaultSortOrder db ∨
        row.sortOrder = defaultSortOrder db ∧ row.id < id := by
      intro id hid hfresh
      obtain ⟨record, db', hadd, hservers⟩ := hall (fun _ => id) hid hfresh
      rw [run_addUpstreamServer_default hnone hinput hfresh] at hadd
      obtain ⟨hrecord, hdb⟩ := Prod.mk.inj hadd
      rw [← hdb, ← Except.ok.inj hrecord] at hservers
      exact (getAllServers_default_iff hvalid hfresh).1 hservers row hrow
    by_cases hlt : row.sortOrder < defaultSortOrder db
    · exact .inl hlt
    · obtain ⟨id, hid, hfresh⟩ := hids
      refine .inr ⟨((hlast id hid hfresh).resolve_left hlt).1, ?_⟩
      intro id hid hfresh
      exact ((hlast id hid hfresh).resolve_left hlt).2
  · intro hcond newUuid hid hfresh
    refine ⟨_, _, run_addUpstreamServer_default hnone hinput hfresh, ?_⟩
    apply (getAllServers_default_iff hvalid hfresh).2
    intro row hrow
    rcases hcond row hrow with hlt | ⟨heq, hbefore⟩
    · exact .inl hlt
    · exact .inr ⟨heq, hbefore _ hid hfresh⟩

end Default

/-! ### Concrete calls -/

/-- A server without a sort order. -/
def nextServer : CreateUpstreamServerInput := { protocol := "dns", address := "9.9.9.9:53" }

theorem default_server_last_iff_second :
    ∃ db, run (UpstreamMutation.step plainLibraries) oneUpstream
        [.addServer (fun _ => "second") { protocol := "dns", address := "8.8.8.8:53" }] = some db ∧
      ∀ newUuid : Nat → String, FreshServerId db (newUuid 0) →
        ∃ record db', (addUpstreamServer plainLibraries newUuid nextServer).run db =
            (.ok record, db') ∧
          UpstreamConfig.getAllServers db' = UpstreamConfig.getAllServers db ++ [record] := by
  have hany : (run (UpstreamMutation.step plainLibraries) oneUpstream
      [.addServer (fun _ => "second") { protocol := "dns", address := "8.8.8.8:53" }]).any
        (fun db => db.upstreamServers.all fun row =>
          decide (row.sortOrder < defaultSortOrder db) && decide (row.id ≠ "third")) = true := by
    decide +kernel
  obtain ⟨db, hrun, hrows⟩ := exists_run_of_any hany
  simp only [List.all_eq_true, Bool.and_eq_true, decide_eq_true_eq] at hrows
  have hinput : validateUpstreamServerInput plainLibraries nextServer = .ok none := by
    decide +kernel
  have hlast := (@default_server_last_iff plainLibraries oneUpstream db nextServer none _
    oneUpstream_valid hrun rfl hinput Set.univ
    ⟨"third", trivial, fun row hrow => (hrows row hrow).2⟩).2
      fun row hrow => .inl (hrows row hrow).1
  exact ⟨db, hrun, fun newUuid hfresh => hlast newUuid trivial hfresh⟩

/-- A server with sort order 10, then one without: the second comes first. -/
theorem not_default_server_last :
    ¬ ∀ (lib : Libraries) (start db db' : Database) (ms : List UpstreamMutation)
        (newUuid : Nat → String) (input : CreateUpstreamServerInput)
        (record : UpstreamServerRecord),
      start.Valid → run (UpstreamMutation.step lib) start ms = some db → input.sortOrder = none →
        (addUpstreamServer lib newUuid input).run db = (.ok record, db') →
          UpstreamConfig.getAllServers db' = UpstreamConfig.getAllServers db ++ [record] := by
  intro hall
  have hany : (run (UpstreamMutation.step plainLibraries) {}
      [.addServer (fun _ => "first")
        { protocol := "dns", address := "8.8.8.8:53", sortOrder := some 10 }]).any
        (fun db => decide ((UpstreamConfig.getAllServers
          ((addUpstreamServer plainLibraries (fun _ => "second") nextServer).run db).2).map (·.id) =
            ["second", "first"]) && decide (db.upstreamServers.map (·.id) = ["first"])) = true := by
    decide +kernel
  obtain ⟨db, hrun, hids⟩ := exists_run_of_any hany
  simp only [Bool.and_eq_true, decide_eq_true_eq] at hids
  have hfresh : FreshServerId db "second" := by
    intro row hrow heq
    have hmem := @List.mem_map_of_mem _ _ _ _ (·.id) hrow
    rw [hids.2, heq] at hmem
    exact absurd hmem (by decide)
  have hadd := @run_addUpstreamServer_default plainLibraries db nextServer none
    (fun _ => "second") rfl (by decide +kernel) hfresh
  have hlast := congrArg (List.map (·.id)) (hall plainLibraries {} db _ _ _ _ _ valid_empty hrun
    rfl hadd)
  rw [hadd] at hids
  rw [hids.1, List.map_append] at hlast
  have hend := congrArg List.getLast? hlast
  rw [List.map_singleton, List.getLast?_append] at hend
  exact absurd hend (by simp [newUpstreamServer])

end DnsFilter
