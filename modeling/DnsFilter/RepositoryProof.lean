import DnsFilter.Repository

/-!
# The repositories keep the schema

Every repository call leaves a database that satisfies the constraints of the schema, also when it
fails after some of its statements. The constraints that matter later: identifiers are unique in
their tables, and every detail row has its master row.
-/

namespace DnsFilter

open Table

/-! ## Statements -/

theorem statement_eq_ok {context : String} {f : Database → Option Database} {db db' : Database} :
    statement context f db = (.ok (), db') ↔ f db = some db' := by
  rw [statement]
  cases f db with
  | none => simp
  | some db'' => simp

/-- A statement that is refused changes nothing. -/
theorem statement_invariant {Inv : Database → Prop} {context : String}
    {f : Database → Option Database} {db : Database} (h : Inv db)
    (hf : ∀ db', f db = some db' → Inv db') : Inv (statement context f db).2 := by
  rw [statement]
  cases hdb : f db with
  | none => exact h
  | some db' => exact hf db' hdb

/-- What a single insert keeps, a row of inserts keeps, however far it gets. -/
theorem insertEach_invariant {α β : Type} {Inv : List α → Prop} {conflicts : α → α → Bool}
    {row : Nat → β → α} (context : β → String)
    (hinsert : ∀ i value rows rows', Inv rows →
      insertRow conflicts (row i value) rows = some rows' → Inv rows') :
    ∀ (i : Nat) (values : List β) (rows : List α), Inv rows →
      Inv (insertEach conflicts row context i values rows).2
  | _, [], _, h => h
  | i, value :: rest, rows, h => by
      rw [insertEach]
      cases hrows : insertRow conflicts (row i value) rows with
      | none => exact h
      | some rows' =>
          exact insertEach_invariant context hinsert (i + 1) rest rows'
            (hinsert i value rows rows' h hrows)

/-- A row of inserts that succeeds adds all its rows. -/
theorem insertEach_of_ok {α β : Type} {conflicts : α → α → Bool} {row : Nat → β → α}
    {context : β → String} :
    ∀ {i : Nat} {values : List β} {rows rows' : List α},
      insertEach conflicts row context i values rows = (.ok (), rows') →
        rows' = rows ++ values.mapIdx fun k => row (i + k)
  | _, [], _, _, h => by
      obtain ⟨-, rfl⟩ := Prod.mk.inj h
      simp
  | i, value :: rest, rows, rows', h => by
      rw [insertEach] at h
      cases hrows : insertRow conflicts (row i value) rows with
      | none =>
          rw [hrows] at h
          exact absurd (congrArg Prod.fst h) (by simp)
      | some rows₁ =>
          rw [hrows] at h
          obtain ⟨-, rfl⟩ := insertRow_eq_some.1 hrows
          rw [insertEach_of_ok h, List.mapIdx_cons]
          simp [Nat.add_assoc, Nat.add_comm 1]

theorem map_insertEach_of_ok {α β γ : Type} {conflicts : α → α → Bool} {row : Nat → β → α}
    {context : β → String} {f : α → γ} {g : β → γ} (hf : ∀ i value, f (row i value) = g value)
    {i : Nat} {values : List β} {rows rows' : List α}
    (h : insertEach conflicts row context i values rows = (.ok (), rows')) :
    rows'.map f = rows.map f ++ values.map g := by
  have hmap : (values.mapIdx fun k => row (i + k)).map f = values.map g :=
    List.ext_getElem (by simp) (by simp [hf])
  rw [insertEach_of_ok h, List.map_append, hmap]

/-- **A row of inserts.** If a new row conflicts with another exactly when they carry the `same`
value, the values up to the first such conflict are inserted, and the call fails if there is
one. -/
theorem insertEach_eq {α β : Type} {conflicts : α → α → Bool} {row : Nat → β → α}
    (same : β → β → Bool) (context : β → String)
    (hrow : ∀ i j value value', i < j →
      conflicts (row j value') (row i value) = same value' value) :
    ∀ (i : Nat) (values seen : List β) (rows : List α),
      (∀ j value, i ≤ j → rows.any (conflicts (row j value)) = seen.any (same value)) →
      ∃ result, insertEach conflicts row context i values rows =
          (result, rows ++ (takeFree same seen values).mapIdx fun k => row (i + k)) ∧
        (result = .ok () ↔ takeFree same seen values = values)
  | i, [], seen, rows, _ => ⟨.ok (), by simp [insertEach, takeFree], by simp [takeFree]⟩
  | i, value :: rest, seen, rows, hseen => by
      unfold insertEach takeFree
      rw [insertRow, hseen i value le_rfl]
      by_cases hvalue : seen.any (same value) = true
      · exact ⟨.error (context value), by simp [hvalue], by simp [hvalue]⟩
      · have hseen' : ∀ j value', i + 1 ≤ j →
            (rows ++ [row i value]).any (conflicts (row j value')) =
              (seen ++ [value]).any (same value') := by
          intro j value' hj
          simp [hseen j value' (by omega), hrow i j value value' (by omega)]
        obtain ⟨result, hinsert, hresult⟩ := insertEach_eq same context hrow (i + 1) rest
          (seen ++ [value]) (rows ++ [row i value]) hseen'
        rw [if_neg hvalue, if_neg hvalue]
        refine ⟨result, ?_, ?_⟩
        · simp only [hinsert]
          simp [List.mapIdx_cons, Nat.add_assoc, Nat.add_comm 1]
        · rw [List.cons.injEq, hresult]
          simp

namespace Database.Valid

variable {db : Database}

/-! ## Filter lists -/

theorem createFilterList (h : db.Valid) (record : FilterListRecord) :
    (FilterLists.create record db).2.Valid := by
  refine statement_invariant h fun db' hdb' => ?_
  split at hdb'
  · rename_i hkind
    obtain ⟨rows, hrows, rfl⟩ := Option.map_eq_some_iff.1 hdb'
    obtain ⟨hfree, rfl⟩ := insertRow_eq_some.1 hrows
    simp only [Bool.or_eq_false_iff, decide_eq_false_iff_not] at hfree
    exact { h with
      filterListId := h.filterListId.append fun r hr heq => (hfree r hr).1 heq.symm
      filterListName := h.filterListName.append fun r hr heq => (hfree r hr).2 heq.symm
      filterListKind := by
        intro list hlist
        rcases List.mem_append.1 hlist with hlist | hlist
        · exact h.filterListKind list hlist
        · exact List.mem_singleton.1 hlist ▸ hkind }
  · exact absurd hdb' (by simp)

theorem updateFilterList (h : db.Valid) (record : FilterListRecord) :
    (FilterLists.update record db).2.Valid := by
  refine statement_invariant h fun db' hdb' => ?_
  split at hdb'
  · exact absurd hdb' (by simp)
  · rename_i hcheck
    obtain rfl := Option.some.inj hdb'
    obtain ⟨hname, hkind⟩ := not_or.1 hcheck
    simp only [not_and, List.any_eq_true, decide_eq_true_eq, not_exists] at hname
    exact { h with
      filterListId := h.filterListId.update
      filterListName := h.filterListId.update_unique h.filterListName
        fun r hr hid => hname ⟨r, hr, hid⟩
      filterListKind := by
        intro list hlist
        rcases mem_updateRows.1 hlist with ⟨rfl, -⟩ | ⟨hlist, -⟩
        · exact not_not.1 hkind
        · exact h.filterListKind list hlist }

theorem deleteFilterList (h : db.Valid) (id : String) : (FilterLists.delete id db).2.Valid := by
  refine statement_invariant h fun db' hdb' => ?_
  obtain rfl := Option.some.inj hdb'
  exact { h with
    filterListId := h.filterListId.delete
    filterListName := h.filterListName.sublist (List.filter_sublist.map _)
    filterListKind := fun list hlist => h.filterListKind list (mem_deleteRows.1 hlist).1 }

/-! ## Resolver configuration and upstream servers -/

theorem updateResolverConfig (h : db.Valid) (newUuid : Nat → String)
    (record : ResolverConfigRecord) :
    (UpstreamConfig.updateResolverConfig newUuid record db).2.Valid := by
  have hinsert (i : Nat) (address : String) (rows rows' : List BootstrapResolverRow)
      (hrows : Keyed (·.id) rows ∧ Keyed (·.address) rows)
      (h : insertRow (fun a b => a.id = b.id || a.address = b.address)
        ⟨newUuid i, address, Numeral.wrapSigned 32 i⟩ rows = some rows') :
      Keyed (·.id) rows' ∧ Keyed (·.address) rows' := by
    obtain ⟨hfree, rfl⟩ := insertRow_eq_some.1 h
    simp only [Bool.or_eq_false_iff, decide_eq_false_iff_not] at hfree
    exact ⟨hrows.1.append fun r hr heq => (hfree r hr).1 heq.symm,
      hrows.2.append fun r hr heq => (hfree r hr).2 heq.symm⟩
  have hkeyed := insertEach_invariant
    (fun address => "failed to insert bootstrap resolver '" ++ address ++ "'") hinsert
    0 record.bootstrapResolvers [] ⟨List.nodup_nil, List.nodup_nil⟩
  exact { h with bootstrapId := hkeyed.1, bootstrapAddress := hkeyed.2 }

theorem createServer (h : db.Valid) (record : UpstreamServerRecord) :
    (UpstreamConfig.createServer record db).2.Valid := by
  refine statement_invariant h fun db' hdb' => ?_
  obtain ⟨rows, hrows, rfl⟩ := Option.map_eq_some_iff.1 hdb'
  obtain ⟨hfree, rfl⟩ := insertRow_eq_some.1 hrows
  simp only [decide_eq_false_iff_not] at hfree
  exact { h with serverId := h.serverId.append fun r hr heq => hfree r hr heq.symm }

theorem updateServer (h : db.Valid) (record : UpstreamServerRecord) :
    (UpstreamConfig.updateServer record db).2.Valid := by
  refine statement_invariant h fun db' hdb' => ?_
  obtain rfl := Option.some.inj hdb'
  exact { h with serverId := h.serverId.update }

theorem deleteServer (h : db.Valid) (id : String) :
    (UpstreamConfig.deleteServer id db).2.Valid := by
  refine statement_invariant h fun db' hdb' => ?_
  obtain rfl := Option.some.inj hdb'
  exact { h with serverId := h.serverId.delete }

/-! ## Zones -/

theorem createZone (h : db.Valid) (record : ZoneRecord) :
    (Zones.createZone record db).2.Valid := by
  refine statement_invariant h fun db' hdb' => ?_
  obtain ⟨rows, hrows, rfl⟩ := Option.map_eq_some_iff.1 hdb'
  obtain ⟨hfree, rfl⟩ := insertRow_eq_some.1 hrows
  simp only [Bool.or_eq_false_iff, decide_eq_false_iff_not] at hfree
  exact { h with
    zoneId := h.zoneId.append fun r hr heq => (hfree r hr).1 heq.symm
    zoneName := h.zoneName.append fun r hr heq => (hfree r hr).2 heq.symm
    zoneServerZone := fun server hserver => by
      obtain ⟨zone, hzone, hid⟩ := h.zoneServerZone server hserver
      exact ⟨zone, List.mem_append_left _ hzone, hid⟩ }

theorem createZoneServer (h : db.Valid) (record : ZoneServerRecord) :
    (Zones.createZoneServer record db).2.Valid := by
  refine statement_invariant h fun db' hdb' => ?_
  split at hdb'
  · rename_i hzone
    obtain ⟨rows, hrows, rfl⟩ := Option.map_eq_some_iff.1 hdb'
    obtain ⟨hfree, rfl⟩ := insertRow_eq_some.1 hrows
    simp only [decide_eq_false_iff_not] at hfree
    exact { h with
      zoneServerId := h.zoneServerId.append fun r hr heq => hfree r hr heq.symm
      zoneServerZone := fun server hserver => by
        rcases List.mem_append.1 hserver with hserver | hserver
        · exact h.zoneServerZone server hserver
        · rw [List.mem_singleton.1 hserver]
          simpa using hzone }
  · exact absurd hdb' (by simp)

theorem updateZone (h : db.Valid) (record : ZoneRecord) :
    (Zones.updateZone record db).2.Valid := by
  refine statement_invariant h fun db' hdb' => ?_
  split at hdb'
  · exact absurd hdb' (by simp)
  · rename_i hname
    obtain rfl := Option.some.inj hdb'
    simp only [not_and, List.any_eq_true, decide_eq_true_eq, not_exists] at hname
    exact { h with
      zoneId := h.zoneId.update
      zoneName := h.zoneId.update_unique h.zoneName fun r hr hid => hname ⟨r, hr, hid⟩
      zoneServerZone := fun server hserver => by
        obtain ⟨zone, hzone, hid⟩ := h.zoneServerZone server hserver
        exact exists_updateRows.2 ⟨zone, hzone, hid⟩ }

theorem deleteZone (h : db.Valid) (id : String) : (Zones.deleteZone id db).2.Valid := by
  refine statement_invariant h fun db' hdb' => ?_
  obtain rfl := Option.some.inj hdb'
  exact { h with
    zoneId := h.zoneId.delete
    zoneName := h.zoneName.sublist (List.filter_sublist.map _)
    zoneServerId := h.zoneServerId.sublist (List.filter_sublist.map _)
    zoneServerZone := fun server hserver => by
      obtain ⟨hserver, hne⟩ := mem_deleteRows.1 hserver
      obtain ⟨zone, hzone, hid⟩ := h.zoneServerZone server hserver
      exact ⟨zone, mem_deleteRows.2 ⟨hzone, fun heq => hne (hid ▸ heq)⟩, hid⟩ }

theorem deleteZoneServers (h : db.Valid) (zoneId : String) :
    (Zones.deleteZoneServers zoneId db).2.Valid := by
  refine statement_invariant h fun db' hdb' => ?_
  obtain rfl := Option.some.inj hdb'
  exact { h with
    zoneServerId := h.zoneServerId.sublist (List.filter_sublist.map _)
    zoneServerZone := fun server hserver => h.zoneServerZone server (mem_deleteRows.1 hserver).1 }

/-! ## Zone discovery -/

/-- What the schema says about the allowed types, given the discovery entries. -/
def AllowedTypes (entries : List ZoneDiscoveryRow) (rows : List AllowedTypeRow) : Prop :=
  Keyed (·.id) rows ∧ Keyed (fun row => (row.zoneDiscoveryId, row.allowedType)) rows ∧
    ∀ row ∈ rows, ∃ d ∈ entries, d.id = row.zoneDiscoveryId

theorem allowedTypes_insert {entries : List ZoneDiscoveryRow} {rows : List AllowedTypeRow}
    (newUuid : Nat → String) (record : ZoneDiscoveryRecord)
    (hentry : ∃ d ∈ entries, d.id = record.id) (h : AllowedTypes entries rows) :
    AllowedTypes entries (ZoneDiscovery.insertAllowedTypes newUuid record rows).2 := by
  refine insertEach_invariant _ (fun i allowedType rows rows' hrows hinsert => ?_) 0
    record.allowedTypes rows h
  obtain ⟨hfree, rfl⟩ := insertRow_eq_some.1 hinsert
  simp only [Bool.or_eq_false_iff, Bool.and_eq_false_iff, decide_eq_false_iff_not] at hfree
  refine ⟨hrows.1.append fun r hr heq => (hfree r hr).1 heq.symm,
    hrows.2.1.append fun r hr heq => ?_, fun row hrow => ?_⟩
  · obtain ⟨hid, htype⟩ := Prod.mk.inj heq
    rcases (hfree r hr).2 with hne | hne
    · exact hne hid.symm
    · exact hne htype.symm
  · rcases List.mem_append.1 hrow with hrow | hrow
    · exact hrows.2.2 row hrow
    · rw [List.mem_singleton.1 hrow]
      exact hentry

theorem createDiscovery (h : db.Valid) (newUuid : Nat → String) (record : ZoneDiscoveryRecord) :
    (ZoneDiscovery.create newUuid record db).2.Valid := by
  rw [ZoneDiscovery.create]
  cases hrows : insertRow (fun a b => a.id = b.id) record.toZoneDiscoveryRow db.zoneDiscovery with
  | none => exact h
  | some rows =>
      obtain ⟨hfree, rfl⟩ := insertRow_eq_some.1 hrows
      simp only [decide_eq_false_iff_not] at hfree
      have htypes : AllowedTypes (db.zoneDiscovery ++ [record.toZoneDiscoveryRow])
          db.allowedTypes :=
        ⟨h.allowedTypeId, h.allowedTypeUnique, fun row hrow => by
          obtain ⟨d, hd, hid⟩ := h.allowedTypeDiscovery row hrow
          exact ⟨d, List.mem_append_left _ hd, hid⟩⟩
      have hinserted := allowedTypes_insert newUuid record ⟨_, by simp, rfl⟩ htypes
      exact { h with
        discoveryId := h.discoveryId.append fun r hr heq => hfree r hr heq.symm
        allowedTypeId := hinserted.1
        allowedTypeUnique := hinserted.2.1
        allowedTypeDiscovery := hinserted.2.2 }

theorem updateDiscovery (h : db.Valid) (newUuid : Nat → String) (record : ZoneDiscoveryRecord) :
    (ZoneDiscovery.update newUuid record db).2.Valid := by
  have hkept : AllowedTypes (updateRows (·.id) record.toZoneDiscoveryRow db.zoneDiscovery)
      (deleteRows (·.zoneDiscoveryId) record.id db.allowedTypes) :=
    ⟨h.allowedTypeId.sublist (List.filter_sublist.map _),
      h.allowedTypeUnique.sublist (List.filter_sublist.map _), fun row hrow =>
        exists_updateRows.2 (h.allowedTypeDiscovery row (mem_deleteRows.1 hrow).1)⟩
  by_cases hany : db.zoneDiscovery.any (·.id = record.id)
  · have hinserted := allowedTypes_insert newUuid record
      (exists_updateRows.2 (by simpa using hany)) hkept
    simp only [ZoneDiscovery.update, if_pos hany]
    exact { h with
      discoveryId := h.discoveryId.update
      allowedTypeId := hinserted.1
      allowedTypeUnique := hinserted.2.1
      allowedTypeDiscovery := hinserted.2.2 }
  · simp only [ZoneDiscovery.update, if_neg hany]
    exact { h with
      discoveryId := h.discoveryId.update
      allowedTypeId := hkept.1
      allowedTypeUnique := hkept.2.1
      allowedTypeDiscovery := hkept.2.2 }

theorem deleteDiscovery (h : db.Valid) (id : String) : (ZoneDiscovery.delete id db).2.Valid := by
  refine statement_invariant h fun db' hdb' => ?_
  obtain rfl := Option.some.inj hdb'
  exact { h with
    discoveryId := h.discoveryId.delete
    allowedTypeId := h.allowedTypeId.sublist (List.filter_sublist.map _)
    allowedTypeUnique := h.allowedTypeUnique.sublist (List.filter_sublist.map _)
    allowedTypeDiscovery := fun row hrow => by
      obtain ⟨hrow, hne⟩ := mem_deleteRows.1 hrow
      obtain ⟨d, hd, hid⟩ := h.allowedTypeDiscovery row hrow
      exact ⟨d, mem_deleteRows.2 ⟨hd, fun heq => hne (hid ▸ heq)⟩, hid⟩ }

end Database.Valid

/-! ## Reading in order -/

section Order

variable {α β : Type} {sortOrder : α → Int} {id : α → String} {rows : List α}

theorem pairwise_orderBySortOrder (sortOrder : α → Int) (id : α → String) (rows : List α) :
    (orderBySortOrder sortOrder id rows).Pairwise fun a b =>
      sortOrder a < sortOrder b ∨ sortOrder a = sortOrder b ∧ id a ≤ id b := by
  have htotal : Std.Total fun a b : α =>
      sortOrder a < sortOrder b ∨ sortOrder a = sortOrder b ∧ id a ≤ id b :=
    ⟨fun a b => by
      rcases lt_trichotomy (sortOrder a) (sortOrder b) with h | h | h
      · exact Or.inl (Or.inl h)
      · exact (le_total (id a) (id b)).imp (fun hid => Or.inr ⟨h, hid⟩)
          fun hid => Or.inr ⟨h.symm, hid⟩
      · exact Or.inr (Or.inl h)⟩
  have htrans : IsTrans α fun a b =>
      sortOrder a < sortOrder b ∨ sortOrder a = sortOrder b ∧ id a ≤ id b :=
    ⟨fun a b c hab hbc => by
      rcases hab with hab | ⟨hab, hid⟩
      · rcases hbc with hbc | ⟨hbc, -⟩
        · exact Or.inl (hab.trans hbc)
        · exact Or.inl (hbc ▸ hab)
      · rcases hbc with hbc | ⟨hbc, hid'⟩
        · exact Or.inl (hab ▸ hbc)
        · exact Or.inr ⟨hab.trans hbc, hid.trans hid'⟩⟩
  exact List.pairwise_insertionSort _ rows

/-- Rows with different identifiers have one order only. -/
theorem orderBySortOrder_eq (hid : Keyed id rows) {sorted : List α} (hperm : sorted.Perm rows)
    (hsorted : sorted.Pairwise fun a b =>
      sortOrder a < sortOrder b ∨ sortOrder a = sortOrder b ∧ id a ≤ id b) :
    orderBySortOrder sortOrder id rows = sorted := by
  have hrows : (orderBySortOrder sortOrder id rows).Perm rows := List.perm_insertionSort _ rows
  refine List.Perm.eq_of_pairwise (fun a b ha hb hab hba => ?_)
    (pairwise_orderBySortOrder sortOrder id rows) hsorted (hrows.trans hperm.symm)
  refine hid.eq_of_key (hrows.mem_iff.1 ha) (hperm.mem_iff.1 hb) ?_
  rcases hab with hab | ⟨hab, hle⟩
  · rcases hba with hba | ⟨hba, -⟩ <;> omega
  · rcases hba with hba | ⟨-, hge⟩
    · omega
    · exact le_antisymm hle hge

theorem filter_orderBySortOrder (hid : Keyed id rows) (p : α → Bool) :
    (orderBySortOrder sortOrder id rows).filter p =
      orderBySortOrder sortOrder id (rows.filter p) := by
  symm
  apply orderBySortOrder_eq
  · exact hid.sublist (List.filter_sublist.map id)
  · exact (List.perm_insertionSort _ rows).filter p
  · exact (pairwise_orderBySortOrder sortOrder id rows).filter p

theorem map_orderBySortOrder {sortOrder' : β → Int} {id' : β → String} {f : α → β}
    (hsort : ∀ a, sortOrder' (f a) = sortOrder a) (hid : ∀ a, id' (f a) = id a) :
    (orderBySortOrder sortOrder id rows).map f = orderBySortOrder sortOrder' id' (rows.map f) := by
  apply List.map_insertionSort
  intro a _ b _
  rw [hsort, hsort, hid, hid]

end Order

theorem foldl_pushServer (servers : List ZoneServerRecord) (zone : ZoneRecord) :
    servers.foldl (fun zone server => { zone with servers := zone.servers ++ [server] }) zone =
      { zone with servers := zone.servers ++ servers } := by
  induction servers generalizing zone with
  | nil => simp
  | cons server servers ih =>
      rw [List.foldl_cons, ih]
      simp

/-- The join of the zones with their servers. -/
theorem getAllWithServers_eq {db : Database} (hvalid : db.Valid) :
    Zones.getAllWithServers db =
      (db.zones.insertionSort fun a b => a.zone ≤ b.zone).map fun row =>
        let servers := orderBySortOrder (·.sortOrder) (·.id) db.zoneServers
        { row with servers := servers.filter (·.zoneId = row.id) } := by
  have hkeyed : Keyed (·.id)
      ((db.zones.insertionSort fun a b => a.zone ≤ b.zone).map Zones.ofRow) := by
    rw [Keyed, List.map_map]
    exact ((List.perm_insertionSort _ db.zones).map ZoneRow.id).nodup_iff.2 hvalid.zoneId
  have hjoin : Zones.getAllWithServers db = _ := attach_eq_map (by intros; rfl) _ hkeyed
  rw [hjoin, List.map_map]
  refine List.map_congr_left fun row _ => ?_
  exact foldl_pushServer _ (Zones.ofRow row)

theorem foldl_pushType (rows : List AllowedTypeRow) (record : ZoneDiscoveryRecord) :
    rows.foldl (fun record row =>
        { record with allowedTypes := record.allowedTypes ++ [row.allowedType] }) record =
      { record with allowedTypes := record.allowedTypes ++ rows.map (·.allowedType) } := by
  induction rows generalizing record with
  | nil => simp
  | cons row rows ih =>
      rw [List.foldl_cons, ih]
      simp

/-- The join of the discovery entries with their allowed types. -/
theorem getAll_discovery_eq {db : Database} (hvalid : db.Valid) :
    ZoneDiscovery.getAll db =
      (db.zoneDiscovery.insertionSort fun a b => a.id ≤ b.id).map fun row =>
        let types := db.allowedTypes.insertionSort fun a b =>
          a.zoneDiscoveryId < b.zoneDiscoveryId ∨
            a.zoneDiscoveryId = b.zoneDiscoveryId ∧ a.allowedType ≤ b.allowedType
        { row with
          allowedTypes := (types.filter (·.zoneDiscoveryId = row.id)).map (·.allowedType) } := by
  have hkeyed : Keyed (·.id)
      ((db.zoneDiscovery.insertionSort fun a b => a.id ≤ b.id).map ZoneDiscovery.ofRow) := by
    rw [Keyed, List.map_map]
    exact ((List.perm_insertionSort _ db.zoneDiscovery).map ZoneDiscoveryRow.id).nodup_iff.2
      hvalid.discoveryId
  have hjoin : ZoneDiscovery.getAll db = _ := attach_eq_map (by intros; rfl) _ hkeyed
  rw [hjoin, List.map_map]
  refine List.map_congr_left fun row _ => ?_
  exact foldl_pushType _ (ZoneDiscovery.ofRow row)

/-! ## Successful writes to the zones -/

theorem getByZone_eq_none {name : String} {db : Database} :
    Zones.getByZone name db = none ↔ ∀ zone ∈ db.zones, zone.zone ≠ name := by
  simp [Zones.getByZone]

theorem getByZone_eq_some {name : String} {db : Database} {record : ZoneRecord}
    (h : Zones.getByZone name db = some record) :
    record.toZoneRow ∈ db.zones ∧ record.zone = name ∧ record.servers =
      orderBySortOrder (·.sortOrder) (·.id) (db.zoneServers.filter (·.zoneId = record.id)) := by
  obtain ⟨row, hrow, rfl⟩ := Option.map_eq_some_iff.1 h
  exact ⟨List.mem_of_find?_eq_some hrow, by simpa using List.find?_some hrow, rfl⟩

theorem createZone_eq_ok {record : ZoneRecord} {db db' : Database} :
    Zones.createZone record db = (.ok (), db') ↔
      (∀ zone ∈ db.zones, zone.id ≠ record.id ∧ zone.zone ≠ record.zone) ∧
        db' = { db with zones := db.zones ++ [record.toZoneRow] } := by
  rw [Zones.createZone, statement_eq_ok, Option.map_eq_some_iff]
  simp only [insertRow_eq_some, Bool.or_eq_false_iff, decide_eq_false_iff_not]
  constructor
  · rintro ⟨rows, ⟨hfree, rfl⟩, rfl⟩
    exact ⟨fun zone hzone => ⟨Ne.symm (hfree zone hzone).1, Ne.symm (hfree zone hzone).2⟩, rfl⟩
  · rintro ⟨hfree, rfl⟩
    exact ⟨_, ⟨fun zone hzone => ⟨Ne.symm (hfree zone hzone).1, Ne.symm (hfree zone hzone).2⟩, rfl⟩,
      rfl⟩

theorem createZoneServer_eq_ok {record : ZoneServerRecord} {db db' : Database} :
    Zones.createZoneServer record db = (.ok (), db') ↔
      (∃ zone ∈ db.zones, zone.id = record.zoneId) ∧
        (∀ server ∈ db.zoneServers, server.id ≠ record.id) ∧
          db' = { db with zoneServers := db.zoneServers ++ [record] } := by
  rw [Zones.createZoneServer, statement_eq_ok]
  by_cases hzone : db.zones.any (·.id = record.zoneId)
  · rw [if_pos hzone, Option.map_eq_some_iff]
    simp only [insertRow_eq_some, decide_eq_false_iff_not]
    simp only [List.any_eq_true, decide_eq_true_eq] at hzone
    constructor
    · rintro ⟨rows, ⟨hfree, rfl⟩, rfl⟩
      exact ⟨hzone, fun server hserver => Ne.symm (hfree server hserver), rfl⟩
    · rintro ⟨-, hfree, rfl⟩
      exact ⟨_, ⟨fun server hserver => Ne.symm (hfree server hserver), rfl⟩, rfl⟩
  · rw [if_neg hzone]
    simp only [List.any_eq_true, decide_eq_true_eq] at hzone
    simp [hzone]

/-- Writing back a list that was read, under the same name and kind, is not refused. -/
theorem updateFilterList_of_mem {db : Database} (h : db.Valid) {old : FilterListRecord}
    (hold : old ∈ db.filterLists) {record : FilterListRecord} (hid : record.id = old.id)
    (hname : record.name = old.name) (hkind : record.kind = old.kind) :
    FilterLists.update record db =
      (.ok (), { db with filterLists := updateRows (·.id) record db.filterLists }) := by
  rw [FilterLists.update, statement_eq_ok, if_neg]
  simp only [List.any_eq_true, decide_eq_true_eq, not_or, not_and, not_exists, not_not]
  refine ⟨?_, ?_⟩
  · intro _ list hlist hne hsame
    exact hne ((h.filterListName.eq_of_key hlist hold (hsame.trans hname)) ▸ hid.symm)
  · rw [hkind]
    exact (h.filterListKind old hold).resolve_left

/-- Writing back a zone that was read, under the same name, is not refused. -/
theorem updateZone_of_mem {db : Database} (h : db.Valid) {row : ZoneRow} (hrow : row ∈ db.zones)
    {record : ZoneRecord} (hname : record.zone = row.zone) (hid : record.id = row.id) :
    Zones.updateZone record db =
      (.ok (), { db with zones := updateRows (·.id) record.toZoneRow db.zones }) := by
  rw [Zones.updateZone, statement_eq_ok, if_neg]
  simp only [List.any_eq_true, decide_eq_true_eq, not_and, not_exists]
  intro _ r hr hne heq
  exact hne ((h.zoneName.eq_of_key hr hrow (heq.trans hname)) ▸ hid.symm)

end DnsFilter
