import DnsFilter.EditProof

/-!
# Replacing detail rows

Three repository calls delete the detail rows of a record and insert new ones, statement by
statement: `update_resolver_config` replaces the bootstrap resolvers, `create` and `update` of a
zone discovery entry the allowed types. Both detail tables have a `UNIQUE` column, and nothing
before the inserts looks for repeats.

* `updateResolverConfig_inserts`, `insertAllowedTypes_inserts` — the values up to the first repeat
  are inserted, and the call fails if there is a repeat.
* `replace_allOrNothing_iff` — when a call that fails leaves all tables as they were, and when the
  API calls leave the old values or the requested ones.
-/

namespace DnsFilter

open Table Numeral

/-- The identifiers drawn for detail rows are new. -/
structure FreshDetailIds (newUuid : Nat → String) (db : Database) : Prop where
  injective : Function.Injective newUuid
  bootstrap : ∀ i, ∀ row ∈ db.bootstrapResolvers, row.id ≠ newUuid i
  allowedType : ∀ i, ∀ row ∈ db.allowedTypes, row.id ≠ newUuid i

/-- If the call fails, all tables are as before. -/
def AllOrNothing (call : RepoCall Unit) (db : Database) : Prop :=
  ∀ context db', call db = (.error context, db') → db' = db

/-- The addresses of the stored bootstrap resolvers, in the order of their insertion. -/
def Database.bootstrapAddresses (db : Database) : List String :=
  db.bootstrapResolvers.map (·.address)

/-- The allowed types stored for a discovery entry, in the order of their insertion. -/
def Database.typesOf (db : Database) (id : String) : List String :=
  (db.allowedTypes.filter (·.zoneDiscoveryId = id)).map (·.allowedType)

variable {newUuid : Nat → String} {db : Database}

/-- A call that fails only without `P`, and then changes the tables. -/
theorem allOrNothing_iff {call : RepoCall Unit} {result : Except String Unit} {db' : Database}
    {P : Prop} (hrun : call db = (result, db')) (hresult : result = .ok () ↔ P)
    (hchanged : ¬ P → db' ≠ db) : AllOrNothing call db ↔ P := by
  constructor
  · intro h
    by_contra hP
    cases hcase : result with
    | ok _ => exact hP (hresult.1 hcase)
    | error context => exact hchanged hP (h context db' (hcase ▸ hrun))
  · intro hP context db₁ hcall
    rw [hrun, hresult.2 hP] at hcall
    exact absurd (congrArg Prod.fst hcall) (by simp)

/-! ## Bootstrap resolvers -/

/-- The rows that `update_resolver_config` inserts for the addresses. -/
def bootstrapRows (newUuid : Nat → String) (addresses : List String) :
    List BootstrapResolverRow :=
  addresses.mapIdx fun i address => ⟨newUuid i, address, wrapSigned 32 i⟩

@[simp] theorem map_address_bootstrapRows (addresses : List String) :
    (bootstrapRows newUuid addresses).map (·.address) = addresses := by
  unfold bootstrapRows
  apply List.ext_getElem <;> simp

/-- The row of `resolver_config` that a record asks for. -/
def ResolverConfigRecord.toRow (record : ResolverConfigRecord) : ResolverConfigRow where
  strategy := record.strategy
  dnsCacheEnabled := record.dnsCacheEnabled
  dnsCacheMinTtlSeconds := record.dnsCacheMinTtlSeconds
  dnsCacheMaxTtlSeconds := record.dnsCacheMaxTtlSeconds

theorem updateResolverConfig_inserts (hinj : Function.Injective newUuid)
    (record : ResolverConfigRecord) (db : Database) :
    ∃ result, UpstreamConfig.updateResolverConfig newUuid record db =
        (result, { db with
          resolverConfig := record.toRow
          bootstrapResolvers := bootstrapRows newUuid (takeNew record.bootstrapResolvers) }) ∧
      (result = .ok () ↔ record.bootstrapResolvers.Nodup) := by
  have hrow : ∀ (i j : Nat) (address address' : String), i < j →
      (decide (newUuid j = newUuid i) || decide (address' = address)) =
        decide (address' = address) := by
    intro i j address address' hlt
    have hne : newUuid j ≠ newUuid i := fun heq => absurd (hinj heq) (by omega)
    simp [hne]
  obtain ⟨result, hinsert, hresult⟩ := @insertEach_eq BootstrapResolverRow String
    (fun a b => a.id = b.id || a.address = b.address)
    (fun i address => ⟨newUuid i, address, wrapSigned 32 i⟩)
    (fun a b => a = b) (fun address => "failed to insert bootstrap resolver '" ++ address ++ "'")
    hrow 0 record.bootstrapResolvers [] [] (by simp)
  refine ⟨result, ?_, hresult.trans takeNew_eq_self⟩
  unfold UpstreamConfig.updateResolverConfig
  rw [hinsert]
  simp only [Nat.zero_add]
  rfl

theorem updateResolverConfig_allOrNothing (hfresh : FreshDetailIds newUuid db)
    (record : ResolverConfigRecord) :
    AllOrNothing (UpstreamConfig.updateResolverConfig newUuid record) db ↔
      record.bootstrapResolvers.Nodup := by
  obtain ⟨result, hrun, hresult⟩ := updateResolverConfig_inserts hfresh.injective record db
  refine allOrNothing_iff hrun hresult fun hrepeat hsame => ?_
  have hne : record.bootstrapResolvers ≠ [] := fun hnil => hrepeat (hnil ▸ List.nodup_nil)
  obtain ⟨address, rest, hcons⟩ := List.exists_cons_of_ne_nil hne
  -- The first row is inserted in any case, under an identifier that was not stored.
  refine absurd rfl (hfresh.bootstrap 0 ⟨newUuid 0, address, wrapSigned 32 0⟩ ?_)
  obtain ⟨inserted, hinserted⟩ := exists_takeNew_cons address rest
  rw [← hsame, hcons, hinserted]
  simp [bootstrapRows]

/-! ## Allowed types -/

/-- The rows that `create` and `update` insert for the allowed types of an entry. -/
def allowedTypeRows (newUuid : Nat → String) (id : String) (types : List String) :
    List AllowedTypeRow :=
  types.mapIdx fun i allowedType => ⟨newUuid i, id, allowedType⟩

theorem zoneDiscoveryId_of_mem_allowedTypeRows {id : String} {types : List String}
    {row : AllowedTypeRow} (h : row ∈ allowedTypeRows newUuid id types) :
    row.zoneDiscoveryId = id := by
  obtain ⟨i, hi, rfl⟩ := List.mem_mapIdx.1 h
  rfl

@[simp] theorem map_allowedType_allowedTypeRows (id : String) (types : List String) :
    (allowedTypeRows newUuid id types).map (·.allowedType) = types := by
  unfold allowedTypeRows
  apply List.ext_getElem <;> simp

/-- What is stored for an entry after its rows were deleted and others inserted. -/
theorem map_filter_allowedTypeRows (rows : List AllowedTypeRow) (id : String)
    (types : List String) :
    ((deleteRows (·.zoneDiscoveryId) id rows ++ allowedTypeRows newUuid id types).filter
        (·.zoneDiscoveryId = id)).map (·.allowedType) = types := by
  have hdeleted : (deleteRows (·.zoneDiscoveryId) id rows).filter (·.zoneDiscoveryId = id) = [] :=
    List.filter_eq_nil_iff.2 fun row hrow => by simpa using (mem_deleteRows.1 hrow).2
  have hinserted : (allowedTypeRows newUuid id types).filter (·.zoneDiscoveryId = id) =
      allowedTypeRows newUuid id types :=
    List.filter_eq_self.2 fun row hrow =>
      decide_eq_true (zoneDiscoveryId_of_mem_allowedTypeRows hrow)
  rw [List.filter_append, hdeleted, hinserted, List.nil_append, map_allowedType_allowedTypeRows]

theorem insertAllowedTypes_inserts (hinj : Function.Injective newUuid)
    (record : ZoneDiscoveryRecord) {rows : List AllowedTypeRow}
    (hid : ∀ i, ∀ row ∈ rows, row.id ≠ newUuid i)
    (hnone : ∀ row ∈ rows, row.zoneDiscoveryId ≠ record.id) :
    ∃ result, ZoneDiscovery.insertAllowedTypes newUuid record rows =
        (result, rows ++ allowedTypeRows newUuid record.id (takeNew record.allowedTypes)) ∧
      (result = .ok () ↔ record.allowedTypes.Nodup) := by
  have hrow : ∀ (i j : Nat) (allowedType allowedType' : String), i < j →
      (decide (newUuid j = newUuid i) ||
          (decide (record.id = record.id) && decide (allowedType' = allowedType))) =
        decide (allowedType' = allowedType) := by
    intro i j allowedType allowedType' hlt
    have hne : newUuid j ≠ newUuid i := fun heq => absurd (hinj heq) (by omega)
    simp [hne]
  have hrows : ∀ (j : Nat) (allowedType : String), 0 ≤ j →
      (rows.any fun row => decide (newUuid j = row.id) ||
          (decide (record.id = row.zoneDiscoveryId) && decide (allowedType = row.allowedType))) =
        ([] : List String).any fun other => decide (allowedType = other) := by
    intro j allowedType _
    rw [List.any_nil, List.any_eq_false]
    intro row hmem
    simp [Ne.symm (hid j row hmem), Ne.symm (hnone row hmem)]
  obtain ⟨result, hinsert, hresult⟩ := @insertEach_eq AllowedTypeRow String
    (fun a b => a.id = b.id ||
      (a.zoneDiscoveryId = b.zoneDiscoveryId && a.allowedType = b.allowedType))
    (fun i allowedType => ⟨newUuid i, record.id, allowedType⟩)
    (fun a b => a = b) (ZoneDiscovery.insertAllowedTypeContext record.id) hrow 0
    record.allowedTypes [] rows hrows
  refine ⟨result, ?_, hresult.trans takeNew_eq_self⟩
  unfold ZoneDiscovery.insertAllowedTypes
  rw [hinsert]
  simp only [Nat.zero_add]
  rfl

/-- Creating an entry under a new identifier. -/
theorem createDiscovery_inserts (hvalid : db.Valid) (hinj : Function.Injective newUuid)
    (hfresh : ∀ i, ∀ row ∈ db.allowedTypes, row.id ≠ newUuid i)
    (record : ZoneDiscoveryRecord) (hnew : ∀ row ∈ db.zoneDiscovery, row.id ≠ record.id) :
    ∃ result, ZoneDiscovery.create newUuid record db =
        (result, { db with
          zoneDiscovery := db.zoneDiscovery ++ [record.toZoneDiscoveryRow]
          allowedTypes := db.allowedTypes ++
            allowedTypeRows newUuid record.id (takeNew record.allowedTypes) }) ∧
      (result = .ok () ↔ record.allowedTypes.Nodup) := by
  have hnone : ∀ row ∈ db.allowedTypes, row.zoneDiscoveryId ≠ record.id := by
    intro row hrow
    obtain ⟨entry, hentry, hid⟩ := hvalid.allowedTypeDiscovery row hrow
    exact hid ▸ hnew entry hentry
  obtain ⟨result, hinsert, hresult⟩ := insertAllowedTypes_inserts hinj record hfresh hnone
  refine ⟨result, ?_, hresult⟩
  have hrow : insertRow (fun a b => a.id = b.id) record.toZoneDiscoveryRow db.zoneDiscovery =
      some (db.zoneDiscovery ++ [record.toZoneDiscoveryRow]) :=
    insertRow_eq_some.2 ⟨fun row hmem => decide_eq_false (Ne.symm (hnew row hmem)), rfl⟩
  unfold ZoneDiscovery.create
  rw [hrow, hinsert]

/-- Updating an entry that is stored. -/
theorem updateDiscovery_inserts (hfresh : FreshDetailIds newUuid db)
    (record : ZoneDiscoveryRecord) (hstored : ∃ row ∈ db.zoneDiscovery, row.id = record.id) :
    ∃ result, ZoneDiscovery.update newUuid record db =
        (result, { db with
          zoneDiscovery := updateRows (·.id) record.toZoneDiscoveryRow db.zoneDiscovery
          allowedTypes := deleteRows (·.zoneDiscoveryId) record.id db.allowedTypes ++
            allowedTypeRows newUuid record.id (takeNew record.allowedTypes) }) ∧
      (result = .ok () ↔ record.allowedTypes.Nodup) := by
  obtain ⟨result, hinsert, hresult⟩ := @insertAllowedTypes_inserts newUuid hfresh.injective record
    (deleteRows (·.zoneDiscoveryId) record.id db.allowedTypes)
    (fun i row hrow => hfresh.allowedType i row (mem_deleteRows.1 hrow).1)
    (fun row hrow => (mem_deleteRows.1 hrow).2)
  refine ⟨result, ?_, hresult⟩
  have hany : db.zoneDiscovery.any (·.id = record.id) = true := by simpa using hstored
  simp only [ZoneDiscovery.update, if_pos hany, hinsert]

/-- The first allowed type is inserted in any case, under an identifier that was not stored. -/
theorem allowedTypes_changed (hfresh : FreshDetailIds newUuid db) {id : String}
    {types : List String} {kept : List AllowedTypeRow} (hrepeat : ¬ types.Nodup) :
    kept ++ allowedTypeRows newUuid id (takeNew types) ≠ db.allowedTypes := by
  intro heq
  have hne : types ≠ [] := fun hnil => hrepeat (hnil ▸ List.nodup_nil)
  obtain ⟨allowedType, rest, rfl⟩ := List.exists_cons_of_ne_nil hne
  refine absurd rfl (hfresh.allowedType 0 ⟨newUuid 0, id, allowedType⟩ ?_)
  obtain ⟨inserted, hinserted⟩ := exists_takeNew_cons allowedType rest
  rw [← heq, hinserted]
  simp [allowedTypeRows]

theorem createDiscovery_allOrNothing (hvalid : db.Valid) (hfresh : FreshDetailIds newUuid db)
    (record : ZoneDiscoveryRecord) :
    AllOrNothing (ZoneDiscovery.create newUuid record) db ↔
      record.allowedTypes.Nodup ∨ ∃ row ∈ db.zoneDiscovery, row.id = record.id := by
  by_cases hstored : ∃ row ∈ db.zoneDiscovery, row.id = record.id
  · refine iff_of_true ?_ (Or.inr hstored)
    obtain ⟨row, hrow, hid⟩ := hstored
    have hnone : insertRow (fun a b => a.id = b.id) record.toZoneDiscoveryRow db.zoneDiscovery =
        none := by
      unfold insertRow
      exact if_pos (List.any_eq_true.2 ⟨row, hrow, decide_eq_true hid.symm⟩)
    intro context db' hcall
    rw [ZoneDiscovery.create, hnone] at hcall
    exact (congrArg Prod.snd hcall).symm
  · have hnew : ∀ row ∈ db.zoneDiscovery, row.id ≠ record.id :=
      fun row hrow hid => hstored ⟨row, hrow, hid⟩
    obtain ⟨result, hrun, hresult⟩ :=
      createDiscovery_inserts hvalid hfresh.injective hfresh.allowedType record hnew
    rw [or_iff_left hstored]
    exact allOrNothing_iff hrun hresult fun hrepeat hsame =>
      allowedTypes_changed hfresh hrepeat (congrArg Database.allowedTypes hsame)

theorem updateDiscovery_allOrNothing (hvalid : db.Valid) (hfresh : FreshDetailIds newUuid db)
    (record : ZoneDiscoveryRecord) :
    AllOrNothing (ZoneDiscovery.update newUuid record) db ↔
      record.allowedTypes.Nodup ∨ ¬ ∃ row ∈ db.zoneDiscovery, row.id = record.id := by
  by_cases hstored : ∃ row ∈ db.zoneDiscovery, row.id = record.id
  · obtain ⟨result, hrun, hresult⟩ := updateDiscovery_inserts hfresh record hstored
    rw [or_iff_left (not_not.2 hstored)]
    exact allOrNothing_iff hrun hresult fun hrepeat hsame =>
      allowedTypes_changed hfresh hrepeat (congrArg Database.allowedTypes hsame)
  · refine iff_of_true ?_ (Or.inr hstored)
    -- Nothing is stored under the identifier: neither the update nor the delete finds a row.
    have hrows : updateRows (·.id) record.toZoneDiscoveryRow db.zoneDiscovery =
        db.zoneDiscovery := by
      conv_rhs => rw [← List.map_id db.zoneDiscovery]
      exact List.map_congr_left fun row hrow => if_neg fun hid => hstored ⟨row, hrow, hid⟩
    have hkept : deleteRows (·.zoneDiscoveryId) record.id db.allowedTypes = db.allowedTypes := by
      unfold deleteRows
      rw [List.filter_eq_self]
      intro row hrow
      obtain ⟨entry, hentry, hid⟩ := hvalid.allowedTypeDiscovery row hrow
      exact decide_eq_true fun heq => hstored ⟨entry, hentry, hid.trans heq⟩
    have hany : ¬ db.zoneDiscovery.any (·.id = record.id) = true := by simpa using hstored
    intro context db' hcall
    simp only [ZoneDiscovery.update, if_neg hany, hrows, hkept] at hcall
    exact (congrArg Prod.snd hcall).symm

/-! ## The API calls -/

theorem editResolverConfig_bootstrap {input : UpdateResolverConfigInput}
    {record edited : ResolverConfigRecord} (h : editResolverConfig input record = .ok edited) :
    edited.bootstrapResolvers = input.bootstrapResolvers.getD record.bootstrapResolvers := by
  rw [editResolverConfig_eq] at h
  rw [eq_of_check_pure _ h]
  rfl

/-- The database after validation, one write and the reload. -/
theorem run_validate_write {α : Type} (validated : Validated α) (call : α → RepoCall Unit)
    (db : Database) :
    ((Op.ofExcept validated >>= fun a => repo (call a) >>= fun _ => finish a).run db).2 =
      validated.toOption.elim db fun a => (call a db).2 := by
  rw [Op.run_bind, Op.run_ofExcept]
  cases validated with
  | error e => rfl
  | ok a =>
      show ((repo (call a) >>= fun _ => finish a).run db).2 = _
      rw [Op.run_bind, run_repo]
      cases (call a db).1 <;> rfl

/-- What replaced the values `old` on a request: the old values, in any order, or exactly the
requested ones. -/
def OldOrRequested (old : List String) (requested : Option (List String)) (stored : List String) :
    Prop :=
  stored.Perm old ∨ requested = some stored

/-- Values that were stored under a `UNIQUE` constraint, with the requested ones in their place as
far as the inserts get. -/
theorem oldOrRequested_iff {old read : List String} (hread : read.Perm old) (hold : old.Nodup)
    (requested : Option (List String)) :
    OldOrRequested old requested (takeNew (requested.getD read)) ↔
      ∀ values, requested = some values → values.Nodup ∨ (takeNew values).Perm old := by
  have hnew : ∀ {values : List String}, values.Nodup → takeNew values = values :=
    fun h => takeNew_eq_self.2 h
  cases requested with
  | none =>
      refine iff_of_true (Or.inl ?_) (by simp)
      rw [Option.getD_none, hnew (hread.nodup_iff.2 hold)]
      exact hread
  | some values =>
      simp only [OldOrRequested, Option.getD_some, Option.some.injEq, forall_eq']
      constructor
      · intro h
        rcases h with hperm | heq
        · exact Or.inr hperm
        · exact Or.inl (takeNew_eq_self.1 heq.symm)
      · intro h
        rcases h with hnodup | hperm
        · exact Or.inr (hnew hnodup).symm
        · exact Or.inl hperm

theorem updateResolverConfig_oldOrRequested (hvalid : db.Valid)
    (hfresh : FreshDetailIds newUuid db) (input : UpdateResolverConfigInput) :
    OldOrRequested db.bootstrapAddresses input.bootstrapResolvers
        ((updateResolverConfig newUuid input).run db).2.bootstrapAddresses ↔
      (Succeeds (editResolverConfig input (UpstreamConfig.getResolverConfig db)) →
        ∀ values, input.bootstrapResolvers = some values →
          values.Nodup ∨ (takeNew values).Perm db.bootstrapAddresses) := by
  have hrun : ((updateResolverConfig newUuid input).run db).2 = _ :=
    run_validate_write (editResolverConfig input (UpstreamConfig.getResolverConfig db))
      (UpstreamConfig.updateResolverConfig newUuid) db
  cases hedit : editResolverConfig input (UpstreamConfig.getResolverConfig db) with
  | error e =>
      rw [hrun, hedit]
      exact iff_of_true (Or.inl (List.Perm.refl _)) (by simp)
  | ok edited =>
      have hread : (UpstreamConfig.getResolverConfig db).bootstrapResolvers.Perm
          db.bootstrapAddresses := (List.perm_insertionSort _ _).map _
      obtain ⟨result, hwrite, -⟩ := updateResolverConfig_inserts hfresh.injective edited db
      have hstored : ((updateResolverConfig newUuid input).run db).2.bootstrapAddresses =
          takeNew (input.bootstrapResolvers.getD
            (UpstreamConfig.getResolverConfig db).bootstrapResolvers) := by
        rw [hrun, hedit]
        simp only [Except.toOption, Option.elim_some, hwrite, Database.bootstrapAddresses,
          map_address_bootstrapRows, editResolverConfig_bootstrap hedit]
      rw [hstored, oldOrRequested_iff hread hvalid.bootstrapAddress]
      exact ⟨fun h _ => h, fun h => h (succeeds_ok _)⟩

theorem getById_eq_some {id : String} {record : ZoneDiscoveryRecord}
    (h : ZoneDiscovery.getById id db = some record) :
    (∃ row ∈ db.zoneDiscovery, row.id = record.id) ∧ record.id = id ∧
      record.allowedTypes.Perm (db.typesOf id) := by
  obtain ⟨row, hrow, rfl⟩ := Option.map_eq_some_iff.1 h
  have hid : row.id = id := by simpa using List.find?_some hrow
  exact ⟨⟨row, List.mem_of_find?_eq_some hrow, rfl⟩, hid, (List.perm_insertionSort _ _).map _⟩

theorem typesOf_nodup (hvalid : db.Valid) (id : String) : (db.typesOf id).Nodup := by
  apply List.Nodup.map_on
  · intro row hrow row' hrow' heq
    obtain ⟨hmem, hid⟩ := List.mem_filter.1 hrow
    obtain ⟨hmem', hid'⟩ := List.mem_filter.1 hrow'
    refine hvalid.allowedTypeUnique.eq_of_key hmem hmem' (Prod.ext ?_ heq)
    exact (of_decide_eq_true hid).trans (of_decide_eq_true hid').symm
  · exact hvalid.allowedTypeId.of_map.filter _

theorem updateZoneDiscovery_oldOrRequested (hvalid : db.Valid)
    (hfresh : FreshDetailIds newUuid db) (id : String) (input : UpdateZoneDiscoveryInput) :
    OldOrRequested (db.typesOf id) input.allowedTypes
        (((updateZoneDiscovery newUuid id input).run db).2.typesOf id) ↔
      ∀ record, ZoneDiscovery.getById id db = some record →
        Succeeds (editZoneDiscovery input record) →
          ∀ values, input.allowedTypes = some values →
            values.Nodup ∨ (takeNew values).Perm (db.typesOf id) := by
  cases hget : ZoneDiscovery.getById id db with
  | none =>
      have hrun : ((updateZoneDiscovery newUuid id input).run db).2 = db := by
        rw [updateZoneDiscovery, Op.run_bind, run_fetch, hget]
        rfl
      rw [hrun]
      exact iff_of_true (Or.inl (List.Perm.refl _)) (by simp)
  | some record =>
      have hrun : ((updateZoneDiscovery newUuid id input).run db).2 =
          (editZoneDiscovery input record).toOption.elim db fun edited =>
            (ZoneDiscovery.update newUuid edited db).2 := by
        rw [updateZoneDiscovery, Op.run_bind, run_fetch, hget]
        exact run_validate_write (editZoneDiscovery input record) (ZoneDiscovery.update newUuid) db
      simp only [Option.some.injEq, forall_eq']
      cases hedit : editZoneDiscovery input record with
      | error e =>
          rw [hrun, hedit]
          exact iff_of_true (Or.inl (List.Perm.refl _)) (by simp)
      | ok edited =>
          obtain ⟨hstored, hid, hread⟩ := getById_eq_some hget
          obtain ⟨heditedId, -, -, heditedTypes⟩ := editZoneDiscovery_eq_ok hedit
          obtain ⟨result, hwrite, -⟩ :=
            updateDiscovery_inserts hfresh edited (heditedId ▸ hstored)
          have htypes : ((updateZoneDiscovery newUuid id input).run db).2.typesOf id =
              takeNew (input.allowedTypes.getD record.allowedTypes) := by
            rw [hrun, hedit]
            simp only [Except.toOption, Option.elim_some, hwrite, Database.typesOf, heditedId,
              hid, heditedTypes, map_filter_allowedTypeRows]
          rw [htypes, oldOrRequested_iff hread (typesOf_nodup hvalid id)]
          exact ⟨fun h _ => h, fun h => h (succeeds_ok _)⟩

/-- **When the replacement is all or nothing.** The repository calls change nothing when they fail,
and the API calls leave the old values or the requested ones, exactly if the requested values have
no repeat; apart from calls that are refused before the first statement, and requests that happen
to ask for the old values before their first repeat. -/
theorem replace_allOrNothing_iff (hvalid : db.Valid) (hfresh : FreshDetailIds newUuid db) :
    (∀ record, AllOrNothing (UpstreamConfig.updateResolverConfig newUuid record) db ↔
      record.bootstrapResolvers.Nodup) ∧
    (∀ record, AllOrNothing (ZoneDiscovery.create newUuid record) db ↔
      record.allowedTypes.Nodup ∨ ∃ row ∈ db.zoneDiscovery, row.id = record.id) ∧
    (∀ record, AllOrNothing (ZoneDiscovery.update newUuid record) db ↔
      record.allowedTypes.Nodup ∨ ¬ ∃ row ∈ db.zoneDiscovery, row.id = record.id) ∧
    (∀ input, OldOrRequested db.bootstrapAddresses input.bootstrapResolvers
        ((updateResolverConfig newUuid input).run db).2.bootstrapAddresses ↔
      (Succeeds (editResolverConfig input (UpstreamConfig.getResolverConfig db)) →
        ∀ values, input.bootstrapResolvers = some values →
          values.Nodup ∨ (takeNew values).Perm db.bootstrapAddresses)) ∧
    (∀ id input, OldOrRequested (db.typesOf id) input.allowedTypes
        (((updateZoneDiscovery newUuid id input).run db).2.typesOf id) ↔
      ∀ record, ZoneDiscovery.getById id db = some record →
        Succeeds (editZoneDiscovery input record) →
          ∀ values, input.allowedTypes = some values →
            values.Nodup ∨ (takeNew values).Perm (db.typesOf id)) :=
  ⟨updateResolverConfig_allOrNothing hfresh, createDiscovery_allOrNothing hvalid hfresh,
    updateDiscovery_allOrNothing hvalid hfresh,
    updateResolverConfig_oldOrRequested hvalid hfresh,
    updateZoneDiscovery_oldOrRequested hvalid hfresh⟩

/-! Two bootstrap resolvers are stored, and a request names one address twice. -/

def twoBootstraps : Database where
  bootstrapResolvers := [⟨numberedUuid 0, "1.1.1.1", 0⟩, ⟨numberedUuid 1, "8.8.8.8", 1⟩]
  zoneDiscovery := [⟨"dc", true, "https://dc.example/zones", none, false, false, none, none, none⟩]
  allowedTypes := [⟨numberedUuid 2, "dc", "reverse"⟩]

theorem twoBootstraps_valid : twoBootstraps.Valid := by
  have hids : numberedUuid 0 ≠ numberedUuid 1 :=
    fun h => absurd (numberedUuid_injective h) (by simp)
  constructor <;> simp [Keyed, twoBootstraps, hids]

/-- Numbers that are not taken in `twoBootstraps`. -/
def laterUuid (i : Nat) : String := numberedUuid (i + 3)

theorem laterUuid_fresh : FreshDetailIds laterUuid twoBootstraps where
  injective := fun i j h => by simpa using numberedUuid_injective h
  bootstrap := by
    intro i row hrow
    have hne : ∀ n, n < 3 → numberedUuid n ≠ laterUuid i :=
      fun n hn h => absurd (numberedUuid_injective h) (by omega)
    simp only [twoBootstraps, List.mem_cons, List.not_mem_nil, or_false] at hrow
    rcases hrow with rfl | rfl
    · exact hne 0 (by omega)
    · exact hne 1 (by omega)
  allowedType := by
    intro i row hrow h
    obtain rfl := List.mem_singleton.1 hrow
    exact absurd (numberedUuid_injective h) (by omega)

theorem replace_allOrNothing_iff_twoBootstraps :
    twoBootstraps.Valid ∧ FreshDetailIds laterUuid twoBootstraps ∧
      AllOrNothing (UpstreamConfig.updateResolverConfig laterUuid
        ⟨"random", ["9.9.9.9", "1.1.1.1"], true, none, none⟩) twoBootstraps :=
  ⟨twoBootstraps_valid, laterUuid_fresh,
    ((replace_allOrNothing_iff twoBootstraps_valid laterUuid_fresh).1 _).2 (by decide)⟩

/-- The call is refused at the second address. The strategy is the requested one by then, and of
the bootstrap resolvers only the first requested one is left. -/
theorem repeated_bootstrap_half_replaced :
    let run := (updateResolverConfig laterUuid
      { strategy := some "random"
        bootstrapResolvers := some ["9.9.9.9", "9.9.9.9"] }).run twoBootstraps
    twoBootstraps.Valid ∧ FreshDetailIds laterUuid twoBootstraps ∧
      run.1 = .error (.internal "failed to insert bootstrap resolver '9.9.9.9'") ∧
      run.2.resolverConfig.strategy = "random" ∧ run.2.bootstrapAddresses = ["9.9.9.9"] ∧
      ¬ OldOrRequested twoBootstraps.bootstrapAddresses (some ["9.9.9.9", "9.9.9.9"])
        run.2.bootstrapAddresses ∧
      ¬ AllOrNothing (UpstreamConfig.updateResolverConfig laterUuid
        ⟨"random", ["9.9.9.9", "9.9.9.9"], true, none, none⟩) twoBootstraps := by
  intro run
  have hstored : run.2.bootstrapAddresses = ["9.9.9.9"] := by decide +kernel
  refine ⟨twoBootstraps_valid, laterUuid_fresh, by decide +kernel, by decide +kernel, hstored,
    ?_, ?_⟩
  · rw [hstored]
    unfold OldOrRequested
    decide
  · rw [updateResolverConfig_allOrNothing laterUuid_fresh]
    decide

end DnsFilter
