import DnsFilter.Operations
import DnsFilter.RepositoryProof
import DnsFilter.Lib.Result

/-!
# What the management operations keep

Facts about single mutation calls, in any database and with any input.

* `Mutation.keeps_of_calls` — what each repository call of a mutation keeps, the mutation keeps;
  for the constraints of the schema this is `Mutation.keepsValid`.
* `Mutation.sendsLast` — a mutation triggers a reload exactly when it succeeds, as its last step.
* `Mutation.unchangedOnReject_iff` — when a rejected call leaves the database as it was. Eleven of
  the thirteen operations validate everything before they write. `add_zone` and `update_zone`
  validate the protocols of the servers one by one between the writes.
-/

namespace DnsFilter

open Table

/-! ## Runs of the parts -/

@[simp] theorem run_repo {α : Type} (call : RepoCall α) (db : Database) :
    (repo call).run db = ((call db).1.mapError .internal, (call db).2) := by
  rw [repo, Op.run_access]

theorem run_repo_eq_ok {α : Type} {call : RepoCall α} {db db' : Database} {a : α} :
    (repo call).run db = (.ok a, db') ↔ call db = (.ok a, db') := by
  rw [run_repo]
  rcases call db with ⟨e | b, db''⟩
  · simp [Except.mapError]
  · simp [Except.mapError]

@[simp] theorem run_fetch {α : Type} (f : Database → Option α) (message : String) (db : Database) :
    (fetch f message).run db = ((f db).elim (.error (.notFound message)) .ok, db) := by
  rw [fetch, Op.run_bind, Op.run_read]
  exact Op.run_ofExcept _ db

theorem run_fetch_bind_eq_ok {α β : Type} {f : Database → Option α} {message : String}
    {g : α → Operation β} {db db' : Database} {b : β} :
    (fetch f message >>= g).run db = (.ok b, db') ↔
      ∃ a, f db = some a ∧ (g a).run db = (.ok b, db') := by
  rw [Op.run_bind, run_fetch]
  cases f db <;> simp

/-- A write followed by the reload. -/
theorem run_repo_finish_eq_ok {β : Type} {call : RepoCall Unit} {db db' : Database} {b b' : β} :
    (repo call >>= fun _ => finish b).run db = (.ok b', db') ↔
      call db = (.ok (), db') ∧ b = b' := by
  rw [Op.run_bind, run_repo]
  rcases call db with ⟨e | a, db''⟩
  · simp [Except.mapError]
  · simp only [Except.mapError, finish, Op.run_notify, Prod.mk.injEq, Except.ok.injEq, true_and]
    exact and_comm

@[simp] theorem run_discard {α : Type} (op : Operation α) (db : Database) :
    (discard op).run db = ((op.run db).1.map fun _ => (), (op.run db).2) := by
  rw [discard, Op.run_bind]
  rcases op.run db with ⟨e | a, db'⟩ <;> rfl

theorem run_discard_eq_ok {α : Type} {op : Operation α} {db db' : Database} :
    (discard op).run db = (.ok (), db') ↔ ∃ a, op.run db = (.ok a, db') := by
  rw [run_discard]
  rcases op.run db with ⟨e | a, db''⟩
  · simp [Except.map]
  · simp [Except.map]

/-- A mutation call that returns `Ok`, and the database after it. -/
def Mutation.step (lib : Libraries) (db : Database) (m : Mutation) : Option Database :=
  match (m.operation lib).run db with
  | (.ok _, db') => some db'
  | (.error _, _) => none

theorem Mutation.step_eq_some {lib : Libraries} {db db' : Database} {m : Mutation} :
    Mutation.step lib db m = some db' ↔ (m.operation lib).run db = (.ok (), db') := by
  rw [Mutation.step]
  rcases (m.operation lib).run db with ⟨e | a, db''⟩
  · simp
  · simp

/-! ## Validation and edits of a record -/

theorem require_eq_ok {condition : Bool} {message : String} :
    require condition message = .ok () ↔ condition = true := by
  rw [require]
  split_ifs with h <;> simp [h]

/-- What an optional edit of one field did. -/
theorem edit_eq_set {α β : Type} {field : Option β} {record record' : α} {f : β → Validated α}
    (set : β → α) (old : β) (h : edit field record f = .ok record')
    (hf : ∀ value, f value = .ok record' → record' = set value) (hold : set old = record) :
    record' = set (field.getD old) := by
  cases field with
  | none => exact (Except.ok.inj h).symm.trans hold.symm
  | some value => exact hf value h

theorem eq_of_check_pure {α β : Type} (x : Validated β) {a b : α}
    (h : (x >>= fun _ => pure a) = .ok b) : b = a := by
  obtain ⟨_, -, h⟩ := bind_eq_ok.1 h
  exact (Except.ok.inj h).symm

theorem editZoneDiscovery_eq_ok {input : UpdateZoneDiscoveryInput}
    {record edited : ZoneDiscoveryRecord} (h : editZoneDiscovery input record = .ok edited) :
    edited.id = record.id ∧ edited.enabled = input.enabled.getD record.enabled ∧
      edited.checkInterval = input.checkInterval.or record.checkInterval ∧
      edited.allowedTypes = input.allowedTypes.getD record.allowedTypes := by
  obtain ⟨r₁, h₁, h⟩ := bind_eq_ok.1 h
  obtain ⟨r₂, h₂, h⟩ := bind_eq_ok.1 h
  have hr₁ := edit_eq_set (fun address => { record with address := address }) record.address h₁
    (fun address => eq_of_check_pure (validateUrl address)) rfl
  have hr₂ := edit_eq_set (fun types => { r₁ with
    enabled := input.enabled.getD r₁.enabled
    checkInterval := input.checkInterval.or r₁.checkInterval
    allowedTypes := types }) r₁.allowedTypes h₂
    (fun types => eq_of_check_pure (types.forM validateAllowedType)) rfl
  obtain rfl := Except.ok.inj h
  rw [hr₂, hr₁]
  cases input.authentication with
  | none => exact ⟨rfl, rfl, rfl, rfl⟩
  | some authentication => exact ⟨rfl, rfl, rfl, rfl⟩

/-! ## Shape of the operations -/

theorem readOnly_fetch {α : Type} (f : Database → Option α) (message : String) :
    (fetch f message).ReadOnly :=
  Op.readOnly_bind (Op.readOnly_read f) fun _ => Op.readOnly_ofExcept _

/-- The call is rejected: the caller is told that the input is invalid or the record missing. -/
def ServerOperationError.Rejects : ServerOperationError → Prop
  | .notFound _ => True
  | .unavailable _ => False
  | .channelClosed => False
  | .internal _ => False
  | .invalidInput _ => True

/-- The shape of an operation that validates before it writes. -/
abbrev Standard {α : Type} (op : Operation α) : Prop :=
  op.Transaction ServerOperationError.Rejects Database.Valid

theorem not_rejects_of_repo {α : Type} {call : RepoCall α} {db : Database}
    {e : ServerOperationError} (h : (call db).1.mapError .internal = .error e) : ¬ e.Rejects := by
  cases hcall : (call db).1 with
  | ok a => simp [hcall, Except.mapError] at h
  | error text =>
      rw [hcall] at h
      obtain rfl := Except.error.inj h
      exact id

/-- The call keeps the invariant, also when it fails. -/
def KeptBy {α : Type} (Inv : Database → Prop) (call : RepoCall α) : Prop :=
  ∀ db, Inv db → Inv (call db).2

theorem keptBy_statement {Inv : Database → Prop} {context : String}
    {f : Database → Option Database} (h : ∀ db db', Inv db → f db = some db' → Inv db') :
    KeptBy Inv (statement context f) := by
  intro db hdb
  exact statement_invariant hdb fun db' hstatement => h db db' hdb hstatement

section Standard

open Op

variable {Inv : Database → Prop}

/-- A write, then the reload. -/
theorem standard_repo {α β : Type} {call : RepoCall α} {b : β} (hcall : KeptBy Inv call) :
    (repo call >>= fun _ => finish b).Transaction ServerOperationError.Rejects Inv :=
  Op.transaction_access (fun _ _ => not_rejects_of_repo) hcall

theorem standard_discard {α : Type} {op : Operation α}
    (h : op.Transaction ServerOperationError.Rejects Inv) :
    (discard op).Transaction ServerOperationError.Rejects Inv where
  guarded := Op.guarded_map _ h.guarded
  sendsLast := Op.sendsLast_map _ h.sendsLast
  keeps := Op.keeps_bind h.keeps fun _ => Op.keeps_pure _

theorem standard_addFilterList (newUuid : Nat → String) (kind : String)
    (input : CreateFilterListInput) (h : ∀ record, KeptBy Inv (FilterLists.create record)) :
    (addFilterList newUuid kind input).Transaction ServerOperationError.Rejects Inv :=
  .bind (readOnly_ofExcept _) fun _ => .bind (readOnly_read _) fun _ =>
    .bind (readOnly_ofExcept _) fun _ => standard_repo (h _)

theorem standard_updateFilterList (name : String) (input : UpdateFilterListInput)
    (h : ∀ record, KeptBy Inv (FilterLists.update record)) :
    (updateFilterList name input).Transaction ServerOperationError.Rejects Inv :=
  .bind (readOnly_fetch _ _) fun _ => .bind (readOnly_ofExcept _) fun _ => standard_repo (h _)

theorem standard_deleteFilterList (name : String)
    (h : ∀ id, KeptBy Inv (FilterLists.delete id)) :
    (deleteFilterList name).Transaction ServerOperationError.Rejects Inv :=
  .bind (readOnly_fetch _ _) fun _ => standard_repo (h _)

theorem standard_updateResolverConfig (newUuid : Nat → String)
    (input : UpdateResolverConfigInput)
    (h : ∀ record, KeptBy Inv (UpstreamConfig.updateResolverConfig newUuid record)) :
    (updateResolverConfig newUuid input).Transaction ServerOperationError.Rejects Inv :=
  .bind (readOnly_read _) fun _ => .bind (readOnly_ofExcept _) fun _ => standard_repo (h _)

theorem readOnly_newSortOrder : ∀ sortOrder, (newSortOrder sortOrder).ReadOnly
  | some _ => readOnly_ofExcept _
  | none => readOnly_read _

theorem standard_addUpstreamServer (lib : Libraries) (newUuid : Nat → String)
    (input : CreateUpstreamServerInput)
    (h : ∀ record, KeptBy Inv (UpstreamConfig.createServer record)) :
    (addUpstreamServer lib newUuid input).Transaction ServerOperationError.Rejects Inv :=
  .bind (readOnly_ofExcept _) fun _ => .bind (readOnly_newSortOrder _) fun _ =>
    standard_repo (h _)

theorem standard_updateUpstreamServer (lib : Libraries) (id : String)
    (input : UpdateUpstreamServerInput)
    (h : ∀ record, KeptBy Inv (UpstreamConfig.updateServer record)) :
    (updateUpstreamServer lib id input).Transaction ServerOperationError.Rejects Inv :=
  .bind (readOnly_fetch _ _) fun _ => .bind (readOnly_ofExcept _) fun _ => standard_repo (h _)

theorem standard_deleteUpstreamServer (id : String)
    (h : KeptBy Inv (UpstreamConfig.deleteServer id)) :
    (deleteUpstreamServer id).Transaction ServerOperationError.Rejects Inv :=
  .bind (readOnly_fetch _ _) fun _ => standard_repo h

theorem standard_deleteZone (zoneName : String) (h : ∀ id, KeptBy Inv (Zones.deleteZone id)) :
    (deleteZone zoneName).Transaction ServerOperationError.Rejects Inv :=
  .bind (readOnly_fetch _ _) fun _ => standard_repo (h _)

theorem standard_addZoneDiscovery (id : String) (newUuid : Nat → String)
    (input : CreateZoneDiscoveryInput)
    (h : ∀ record, KeptBy Inv (ZoneDiscovery.create newUuid record)) :
    (addZoneDiscovery id newUuid input).Transaction ServerOperationError.Rejects Inv :=
  .bind (readOnly_ofExcept _) fun _ => standard_repo (h _)

theorem standard_updateZoneDiscovery (newUuid : Nat → String) (id : String)
    (input : UpdateZoneDiscoveryInput)
    (h : ∀ record, KeptBy Inv (ZoneDiscovery.update newUuid record)) :
    (updateZoneDiscovery newUuid id input).Transaction ServerOperationError.Rejects Inv :=
  .bind (readOnly_fetch _ _) fun _ => .bind (readOnly_ofExcept _) fun _ => standard_repo (h _)

theorem standard_deleteZoneDiscovery (id : String)
    (h : KeptBy Inv (ZoneDiscovery.delete id)) :
    (deleteZoneDiscovery id).Transaction ServerOperationError.Rejects Inv :=
  .bind (readOnly_fetch _ _) fun _ => standard_repo h

end Standard

/-! ## The loop over the servers of a zone -/

section ZoneServers

variable {newUuid : Nat → String} {zoneId : String}

/-- The protocol passes `validate_protocol`. -/
abbrev CreateZoneServerInput.ProtocolOk (server : CreateZoneServerInput) : Prop :=
  Succeeds (validateProtocol server.protocol)

theorem createZoneServers_noSend :
    ∀ i servers, (createZoneServers newUuid zoneId i servers).NoSend
  | _, [] => trivial
  | i, _ :: rest =>
      Op.noSend_bind (Op.noSend_ofExcept _) fun _ => Op.noSend_bind (Op.noSend_access _) fun _ =>
        Op.noSend_bind (createZoneServers_noSend (i + 1) rest) fun _ => trivial

theorem createZoneServers_keeps {Inv : Database → Prop}
    (h : ∀ record, KeptBy Inv (Zones.createZoneServer record)) :
    ∀ i servers, (createZoneServers newUuid zoneId i servers).Keeps Inv
  | _, [] => trivial
  | i, _ :: rest =>
      Op.keeps_bind (Op.keeps_ofExcept _) fun _ =>
        Op.keeps_bind (Op.keeps_access (h _)) fun _ =>
          Op.keeps_bind (createZoneServers_keeps h (i + 1) rest) fun _ => trivial

/-- The records of the servers, numbered from `i`. -/
def newZoneServers (newUuid : Nat → String) (zoneId : String) :
    Nat → List CreateZoneServerInput → List ZoneServerRecord
  | _, [] => []
  | i, server :: rest =>
      newZoneServer newUuid zoneId i server :: newZoneServers newUuid zoneId (i + 1) rest

/-- The identifiers drawn for zone servers are new. -/
structure FreshServerIds (newUuid : Nat → String) (db : Database) : Prop where
  injective : Function.Injective newUuid
  notStored : ∀ i, ∀ server ∈ db.zoneServers, server.id ≠ newUuid i

theorem run_createZoneServers_invalid {i : Nat} {server : CreateZoneServerInput}
    {rest : List CreateZoneServerInput} {db : Database} (h : ¬ server.ProtocolOk) :
    ∃ message, (createZoneServers newUuid zoneId i (server :: rest)).run db =
      (.error (.invalidInput message), db) := by
  rw [createZoneServers, Op.run_bind, Op.run_ofExcept]
  rw [CreateZoneServerInput.ProtocolOk, validateProtocol, require] at h
  rw [validateProtocol, require]
  split at h
  · exact absurd (succeeds_ok _) h
  · rename_i hcontains
    rw [if_neg hcontains]
    exact ⟨_, rfl⟩

theorem run_createZoneServers_valid {i : Nat} {server : CreateZoneServerInput}
    {rest : List CreateZoneServerInput} {db db' : Database} (h : server.ProtocolOk)
    (hinsert : Zones.createZoneServer (newZoneServer newUuid zoneId i server) db = (.ok (), db')) :
    (createZoneServers newUuid zoneId i (server :: rest)).run db =
      (((createZoneServers newUuid zoneId (i + 1) rest).run db').1.map
          (newZoneServer newUuid zoneId i server :: ·),
        ((createZoneServers newUuid zoneId (i + 1) rest).run db').2) := by
  obtain ⟨_, hvalid⟩ := h
  rw [createZoneServers, Op.run_bind, Op.run_ofExcept, hvalid]
  change (repo _ >>= _).run db = _
  rw [Op.run_bind, run_repo_eq_ok.2 hinsert]
  change (createZoneServers _ _ _ _ >>= _).run db' = _
  rw [Op.run_bind]
  rcases (createZoneServers newUuid zoneId (i + 1) rest).run db' with ⟨e | records, db''⟩ <;> rfl

/-- The loop inserts the servers up to the first one with an invalid protocol, and is rejected if
there is one. -/
theorem run_createZoneServers (i : Nat) (servers : List CreateZoneServerInput) (db : Database)
    (hzone : ∃ zone ∈ db.zones, zone.id = zoneId) (hinj : Function.Injective newUuid)
    (hfresh : ∀ j, i ≤ j → ∀ server ∈ db.zoneServers, server.id ≠ newUuid j) :
    ∃ result, (createZoneServers newUuid zoneId i servers).run db =
        (result, { db with zoneServers :=
          db.zoneServers ++ newZoneServers newUuid zoneId i (servers.takeWhile (·.ProtocolOk)) }) ∧
      (Succeeds result ↔ ∀ server ∈ servers, server.ProtocolOk) ∧
      ∀ e, result = .error e → e.Rejects := by
  induction servers generalizing i db with
  | nil => exact ⟨.ok [], by simp [createZoneServers, newZoneServers], by simp, by simp⟩
  | cons server rest ih =>
      by_cases hok : server.ProtocolOk
      · have hinsert : Zones.createZoneServer (newZoneServer newUuid zoneId i server) db = _ :=
          createZoneServer_eq_ok.2 ⟨hzone, hfresh i le_rfl, rfl⟩
        obtain ⟨result, hrun, hsucc, hrej⟩ := ih (i + 1)
          { db with zoneServers :=
            db.zoneServers ++ [newZoneServer newUuid zoneId i server] } hzone (by
          intro j hj r hr
          rcases List.mem_append.1 hr with hr | hr
          · exact hfresh j (by omega) r hr
          · rw [List.mem_singleton.1 hr]
            exact fun heq => absurd (hinj heq) (by omega))
        refine ⟨result.map (newZoneServer newUuid zoneId i server :: ·), ?_, ?_, fun e he => ?_⟩
        · rw [run_createZoneServers_valid hok hinsert, hrun, List.takeWhile_cons_of_pos (by simpa)]
          simp [newZoneServers]
        · rw [succeeds_map, hsucc, List.forall_mem_cons]
          exact ⟨fun h => ⟨hok, h⟩, fun h => h.2⟩
        · refine hrej e ?_
          cases result with
          | ok records => exact absurd he (by simp [Except.map])
          | error e' => exact he
      · obtain ⟨message, hrun⟩ : ∃ message,
            (createZoneServers newUuid zoneId i (server :: rest)).run db =
              (.error (.invalidInput message), db) :=
          run_createZoneServers_invalid hok
        refine ⟨.error (.invalidInput message), ?_, ?_, fun e he => ?_⟩
        · rw [hrun, List.takeWhile_cons_of_neg (by simpa)]
          simp [newZoneServers]
        · simp [hok]
        · obtain rfl := Except.error.inj he
          exact trivial

end ZoneServers

/-! ## Adding and updating a zone -/

theorem addZone_sendsLast (zoneId : String) (newUuid : Nat → String) (input : CreateZoneInput) :
    (addZone zoneId newUuid input).SendsLast :=
  Op.sendsLast_bind (Op.noSend_ofExcept _) fun _ => Op.sendsLast_bind (Op.noSend_read _) fun _ =>
  Op.sendsLast_bind (Op.noSend_ofExcept _) fun _ => Op.sendsLast_bind (Op.noSend_access _) fun _ =>
  Op.sendsLast_bind (createZoneServers_noSend _ _) fun _ => Op.sendsLast_notify _

theorem addZone_keeps {Inv : Database → Prop} (zoneId : String) (newUuid : Nat → String)
    (input : CreateZoneInput) (hzone : ∀ record, KeptBy Inv (Zones.createZone record))
    (hserver : ∀ record, KeptBy Inv (Zones.createZoneServer record)) :
    (addZone zoneId newUuid input).Keeps Inv :=
  Op.keeps_bind (Op.keeps_ofExcept _) fun _ => Op.keeps_bind (Op.keeps_read _) fun _ =>
    Op.keeps_bind (Op.keeps_ofExcept _) fun _ =>
      Op.keeps_bind (Op.keeps_access (hzone _)) fun _ =>
        Op.keeps_bind (createZoneServers_keeps hserver _ _) fun _ => Op.keeps_notify _

theorem updateZone_sendsLast (newUuid : Nat → String) (zoneName : String)
    (input : UpdateZoneInput) : (updateZone newUuid zoneName input).SendsLast := by
  refine Op.sendsLast_bind (readOnly_fetch _ _).noSend fun record =>
    Op.sendsLast_bind (Op.noSend_access _) fun _ => ?_
  cases input.servers with
  | none => exact Op.sendsLast_notify _
  | some servers =>
      exact Op.sendsLast_bind (Op.noSend_access _) fun _ =>
        Op.sendsLast_bind (createZoneServers_noSend _ _) fun _ => Op.sendsLast_notify _

theorem updateZone_keeps {Inv : Database → Prop} (newUuid : Nat → String) (zoneName : String)
    (input : UpdateZoneInput) (hzone : ∀ record, KeptBy Inv (Zones.updateZone record))
    (hdelete : ∀ id, KeptBy Inv (Zones.deleteZoneServers id))
    (hserver : ∀ record, KeptBy Inv (Zones.createZoneServer record)) :
    (updateZone newUuid zoneName input).Keeps Inv := by
  refine Op.keeps_bind (readOnly_fetch _ _).keeps fun record =>
    Op.keeps_bind (Op.keeps_access (hzone _)) fun _ => ?_
  cases input.servers with
  | none => exact Op.keeps_notify _
  | some servers =>
      exact Op.keeps_bind (Op.keeps_access (hdelete _)) fun _ =>
        Op.keeps_bind (createZoneServers_keeps hserver _ _) fun _ => Op.keeps_notify _

/-- The repository calls that a mutation may make to change the database. -/
inductive Mutation.Calls : Mutation → RepoCall Unit → Prop
  | createFilterList (newUuid kind input record) :
      Calls (.addFilterList newUuid kind input) (FilterLists.create record)
  | updateFilterList (name input record) :
      Calls (.updateFilterList name input) (FilterLists.update record)
  | deleteFilterList (name id) : Calls (.deleteFilterList name) (FilterLists.delete id)
  | updateResolverConfig (newUuid input record) :
      Calls (.updateResolverConfig newUuid input)
        (UpstreamConfig.updateResolverConfig newUuid record)
  | createServer (newUuid input record) :
      Calls (.addUpstreamServer newUuid input) (UpstreamConfig.createServer record)
  | updateServer (id input record) :
      Calls (.updateUpstreamServer id input) (UpstreamConfig.updateServer record)
  | deleteServer (id) : Calls (.deleteUpstreamServer id) (UpstreamConfig.deleteServer id)
  | createZone (zoneId newUuid input record) :
      Calls (.addZone zoneId newUuid input) (Zones.createZone record)
  | createZoneServer (zoneId newUuid input record) :
      Calls (.addZone zoneId newUuid input) (Zones.createZoneServer record)
  | updateZone (newUuid zoneName input record) :
      Calls (.updateZone newUuid zoneName input) (Zones.updateZone record)
  | deleteZoneServers (newUuid zoneName input id) :
      Calls (.updateZone newUuid zoneName input) (Zones.deleteZoneServers id)
  | recreateZoneServer (newUuid zoneName input record) :
      Calls (.updateZone newUuid zoneName input) (Zones.createZoneServer record)
  | deleteZone (zoneName id) : Calls (.deleteZone zoneName) (Zones.deleteZone id)
  | createDiscovery (id newUuid input record) :
      Calls (.addZoneDiscovery id newUuid input) (ZoneDiscovery.create newUuid record)
  | updateDiscovery (newUuid id input record) :
      Calls (.updateZoneDiscovery newUuid id input) (ZoneDiscovery.update newUuid record)
  | deleteDiscovery (id) : Calls (.deleteZoneDiscovery id) (ZoneDiscovery.delete id)

/-- Eleven of the operations validate before they write; the other two are `add_zone` and
`update_zone`. -/
theorem Mutation.transaction_or_zone {Inv : Database → Prop} (lib : Libraries) (m : Mutation)
    (h : ∀ call, m.Calls call → KeptBy Inv call) :
    (m.operation lib).Transaction ServerOperationError.Rejects Inv ∨
      (∃ zoneId newUuid input, m = .addZone zoneId newUuid input) ∨
      ∃ newUuid zoneName input, m = .updateZone newUuid zoneName input := by
  cases m with
  | addFilterList newUuid kind input =>
      exact .inl (standard_discard (standard_addFilterList newUuid kind input
        fun record => h _ (.createFilterList newUuid kind input record)))
  | updateFilterList name input =>
      exact .inl (standard_discard (standard_updateFilterList name input
        fun record => h _ (.updateFilterList name input record)))
  | deleteFilterList name =>
      exact .inl (standard_discard (standard_deleteFilterList name
        fun id => h _ (.deleteFilterList name id)))
  | updateResolverConfig newUuid input =>
      exact .inl (standard_discard (standard_updateResolverConfig newUuid input
        fun record => h _ (.updateResolverConfig newUuid input record)))
  | addUpstreamServer newUuid input =>
      exact .inl (standard_discard (standard_addUpstreamServer lib newUuid input
        fun record => h _ (.createServer newUuid input record)))
  | updateUpstreamServer id input =>
      exact .inl (standard_discard (standard_updateUpstreamServer lib id input
        fun record => h _ (.updateServer id input record)))
  | deleteUpstreamServer id =>
      exact .inl (standard_discard (standard_deleteUpstreamServer id (h _ (.deleteServer id))))
  | addZone zoneId newUuid input => exact .inr (.inl ⟨zoneId, newUuid, input, rfl⟩)
  | updateZone newUuid zoneName input => exact .inr (.inr ⟨newUuid, zoneName, input, rfl⟩)
  | deleteZone zoneName =>
      exact .inl (standard_discard (standard_deleteZone zoneName
        fun id => h _ (.deleteZone zoneName id)))
  | addZoneDiscovery id newUuid input =>
      exact .inl (standard_discard (standard_addZoneDiscovery id newUuid input
        fun record => h _ (.createDiscovery id newUuid input record)))
  | updateZoneDiscovery newUuid id input =>
      exact .inl (standard_discard (standard_updateZoneDiscovery newUuid id input
        fun record => h _ (.updateDiscovery newUuid id input record)))
  | deleteZoneDiscovery id =>
      exact .inl (standard_discard (standard_deleteZoneDiscovery id (h _ (.deleteDiscovery id))))

/-- **What every repository call of a mutation keeps, the mutation keeps.** -/
theorem Mutation.keeps_of_calls {Inv : Database → Prop} {lib : Libraries} {m : Mutation}
    (h : ∀ call, m.Calls call → KeptBy Inv call) : (m.operation lib).Keeps Inv := by
  rcases m.transaction_or_zone lib h with h | ⟨zoneId, newUuid, input, rfl⟩ |
    ⟨newUuid, zoneName, input, rfl⟩
  · exact h.keeps
  · have hadd := addZone_keeps zoneId newUuid input
      (fun record => h _ (.createZone zoneId newUuid input record))
      fun record => h _ (.createZoneServer zoneId newUuid input record)
    exact Op.keeps_bind hadd fun _ => Op.keeps_pure _
  · have hupdate := updateZone_keeps newUuid zoneName input
      (fun record => h _ (.updateZone newUuid zoneName input record))
      (fun id => h _ (.deleteZoneServers newUuid zoneName input id))
      fun record => h _ (.recreateZoneServer newUuid zoneName input record)
    exact Op.keeps_bind hupdate fun _ => Op.keeps_pure _

theorem Mutation.Calls.keptByValid {m : Mutation} {call : RepoCall Unit} (h : m.Calls call) :
    KeptBy Database.Valid call := by
  intro db hvalid
  cases h with
  | createFilterList _ _ _ record => exact hvalid.createFilterList record
  | updateFilterList _ _ record => exact hvalid.updateFilterList record
  | deleteFilterList _ id => exact hvalid.deleteFilterList id
  | updateResolverConfig newUuid _ record => exact hvalid.updateResolverConfig newUuid record
  | createServer _ _ record => exact hvalid.createServer record
  | updateServer _ _ record => exact hvalid.updateServer record
  | deleteServer id => exact hvalid.deleteServer id
  | createZone _ _ _ record => exact hvalid.createZone record
  | createZoneServer _ _ _ record => exact hvalid.createZoneServer record
  | updateZone _ _ _ record => exact hvalid.updateZone record
  | deleteZoneServers _ _ _ id => exact hvalid.deleteZoneServers id
  | recreateZoneServer _ _ _ record => exact hvalid.createZoneServer record
  | deleteZone _ id => exact hvalid.deleteZone id
  | createDiscovery _ newUuid _ record => exact hvalid.createDiscovery newUuid record
  | updateDiscovery newUuid _ _ record => exact hvalid.updateDiscovery newUuid record
  | deleteDiscovery id => exact hvalid.deleteDiscovery id

theorem Mutation.standard_or_zone (lib : Libraries) (m : Mutation) :
    Standard (m.operation lib) ∨ (∃ zoneId newUuid input, m = .addZone zoneId newUuid input) ∨
      ∃ newUuid zoneName input, m = .updateZone newUuid zoneName input :=
  m.transaction_or_zone lib fun _ hcall => hcall.keptByValid

/-- **A mutation sends exactly when it succeeds, as its last step.** -/
theorem Mutation.sendsLast (lib : Libraries) (m : Mutation) : (m.operation lib).SendsLast := by
  rcases m.standard_or_zone lib with h | ⟨zoneId, newUuid, input, rfl⟩ |
    ⟨newUuid, zoneName, input, rfl⟩
  · exact h.sendsLast
  · exact Op.sendsLast_map _ (addZone_sendsLast zoneId newUuid input)
  · exact Op.sendsLast_map _ (updateZone_sendsLast newUuid zoneName input)

/-- **Every repository call of a mutation keeps the constraints of the schema.** -/
theorem Mutation.keepsValid (lib : Libraries) (m : Mutation) :
    (m.operation lib).Keeps Database.Valid :=
  Mutation.keeps_of_calls fun _ hcall => hcall.keptByValid

theorem Mutation.step_valid {lib : Libraries} {db db' : Database} {m : Mutation} (h : db.Valid)
    (hstep : Mutation.step lib db m = some db') : db'.Valid := by
  have hkeeps := Op.keeps_run (m.keepsValid lib) h
  rw [Mutation.step_eq_some.1 hstep] at hkeeps
  exact hkeeps

/-! ## Rejected calls -/

/-- If the call is rejected, the database is as it was. -/
def UnchangedOnReject {α : Type} (op : Operation α) (db : Database) : Prop :=
  ∀ e, (op.run db).1 = .error e → e.Rejects → (op.run db).2 = db

theorem unchangedOnReject_discard {α : Type} {op : Operation α} {db : Database} :
    UnchangedOnReject (discard op) db ↔ UnchangedOnReject op db := by
  rw [UnchangedOnReject, UnchangedOnReject, run_discard]
  cases (op.run db).1 <;> simp [Except.map]

theorem unchangedOnReject_of_standard {α : Type} {op : Operation α} (h : Standard op)
    (db : Database) : UnchangedOnReject op db :=
  fun _ he hrej => Op.guarded_run h.guarded (Prod.ext he rfl) hrej

/-- An operation that has come so far that the database is `db'` and the rest of it is the loop
over the servers. -/
theorem unchangedOnReject_iff_of_loop {α : Type} {op : Operation α} {db db' : Database}
    {newUuid : Nat → String} {zoneId : String} {servers : List CreateZoneServerInput}
    {f : List ZoneServerRecord → α}
    (hop : op.run db = (((createZoneServers newUuid zoneId 0 servers).run db').1.map f,
      ((createZoneServers newUuid zoneId 0 servers).run db').2))
    (hzone : ∃ zone ∈ db'.zones, zone.id = zoneId) (hfresh : FreshServerIds newUuid db') :
    UnchangedOnReject op db ↔ (∀ server ∈ servers, server.ProtocolOk) ∨
      { db' with zoneServers := db'.zoneServers ++
        newZoneServers newUuid zoneId 0 (servers.takeWhile (·.ProtocolOk)) } = db := by
  obtain ⟨result, hrun, hsucc, hrej⟩ := run_createZoneServers 0 servers db' hzone
    hfresh.injective fun j _ => hfresh.notStored j
  rw [UnchangedOnReject, hop, hrun, ← hsucc]
  cases result with
  | ok records => simp [Except.map]
  | error e => simp [Except.map, hrej e rfl]

theorem unchangedOnReject_of_run {α : Type} {op : Operation α} {db : Database}
    (h : (op.run db).2 = db) : UnchangedOnReject op db :=
  fun _ _ _ => h

theorem run_addZone {db db' : Database} {zoneId : String} {newUuid : Nat → String}
    {input : CreateZoneInput} (hname : validateZoneName input.zone = .ok ())
    (hget : Zones.getByZone input.zone db = none)
    (hcreate : Zones.createZone (newZone zoneId input) db = (.ok (), db')) :
    (addZone zoneId newUuid input).run db =
      (((createZoneServers newUuid zoneId 0 (input.servers.getD [])).run db').1.map
          fun servers => { newZone zoneId input with servers := servers },
        ((createZoneServers newUuid zoneId 0 (input.servers.getD [])).run db').2) := by
  simp only [addZone, Op.run_bind, Op.run_ofExcept, Op.run_read, hname, hget, require,
    Option.isNone_none, if_true, run_repo_eq_ok.2 hcreate, finish, Op.run_notify]
  rcases (createZoneServers newUuid zoneId 0 (input.servers.getD [])).run db' with ⟨e | _, db''⟩ <;>
    rfl

theorem ZoneRecord.ext_row {a b : ZoneRecord} (hrow : a.toZoneRow = b.toZoneRow)
    (hservers : a.servers = b.servers) : a = b := by
  cases a
  cases b
  cases hrow
  cases hservers
  rfl

theorem orderBySortOrder_eq_nil {α : Type} {sortOrder : α → Int} {id : α → String}
    {rows : List α} : orderBySortOrder sortOrder id rows = [] ↔ rows = [] := by
  rw [← List.length_eq_zero_iff, orderBySortOrder, List.length_insertionSort,
    List.length_eq_zero_iff]

@[simp] theorem editZone_id (input : UpdateZoneInput) (record : ZoneRecord) :
    (editZone input record).id = record.id :=
  rfl

theorem run_updateZone {db db' : Database} {newUuid : Nat → String} {zoneName : String}
    {input : UpdateZoneInput} {record : ZoneRecord} {servers : List CreateZoneServerInput}
    (hget : Zones.getByZone zoneName db = some record) (hservers : input.servers = some servers)
    (hupdate : Zones.updateZone (editZone input record) db = (.ok (), db')) :
    let db'' := { db' with zoneServers := deleteRows (·.zoneId) record.id db'.zoneServers }
    (updateZone newUuid zoneName input).run db =
      (((createZoneServers newUuid record.id 0 servers).run db'').1.map
          fun servers => { editZone input record with servers := servers },
        ((createZoneServers newUuid record.id 0 servers).run db'').2) := by
  have hdelete : (repo (Zones.deleteZoneServers record.id)).run db' =
      (.ok (), { db' with zoneServers := deleteRows (·.zoneId) record.id db'.zoneServers }) :=
    run_repo_eq_ok.2 (statement_eq_ok.2 rfl)
  simp only [updateZone, Op.run_bind, run_fetch, hget, Option.elim_some, run_repo_eq_ok.2 hupdate,
    hservers, replaceZoneServers, editZone_id, hdelete, finish, Op.run_notify]
  rcases (createZoneServers newUuid record.id 0 servers).run _ with ⟨e | _, db''⟩ <;> rfl

theorem unchangedOnReject_addZone_iff {db : Database} {zoneId : String} {newUuid : Nat → String}
    {input : CreateZoneInput} (hid : ∀ zone ∈ db.zones, zone.id ≠ zoneId)
    (hfresh : FreshServerIds newUuid db) :
    UnchangedOnReject (addZone zoneId newUuid input) db ↔
      (Succeeds (validateZoneName input.zone) → Zones.getByZone input.zone db = none →
        ∀ server ∈ input.servers.getD [], server.ProtocolOk) := by
  cases hname : validateZoneName input.zone with
  | error e =>
      refine ⟨fun _ h => absurd h (by simp), fun _ => unchangedOnReject_of_run ?_⟩
      simp [addZone, Op.run_bind, hname]
  | ok _ =>
      cases hget : Zones.getByZone input.zone db with
      | some record =>
          refine ⟨fun _ _ h => absurd h (by simp), fun _ => unchangedOnReject_of_run ?_⟩
          simp [addZone, Op.run_bind, hname, hget, require]
      | none =>
          have hcreate : Zones.createZone (newZone zoneId input) db = _ :=
            createZone_eq_ok.2 ⟨fun zone hzone =>
              ⟨hid zone hzone, getByZone_eq_none.1 hget zone hzone⟩, rfl⟩
          rw [unchangedOnReject_iff_of_loop (run_addZone hname hget hcreate)
            ⟨_, List.mem_append_right _ (List.mem_singleton_self _), rfl⟩
            ⟨hfresh.injective, hfresh.notStored⟩]
          -- the new zone row is there whatever the loop did
          refine ⟨fun h _ _ => h.resolve_right fun heq => ?_, fun h => .inl (h (by simp) rfl)⟩
          exact absurd (congrArg (·.zones.length) heq) (by simp)

/-- The update and the deletion in `update_zone` change nothing if there is nothing to change and
nothing to delete. -/
theorem replaceZone_eq_self_iff {db : Database} (h : db.Valid) {newUuid : Nat → String}
    {record : ZoneRecord} (edited : ZoneRecord) {servers : List CreateZoneServerInput}
    (hrow : record.toZoneRow ∈ db.zones) (hid : edited.id = record.id)
    (hfresh : FreshServerIds newUuid db) :
    { db with
      zones := updateRows (·.id) edited.toZoneRow db.zones
      zoneServers := deleteRows (·.zoneId) record.id db.zoneServers ++
        newZoneServers newUuid record.id 0 servers } = db ↔
      edited.toZoneRow = record.toZoneRow ∧ db.zoneServers.filter (·.zoneId = record.id) = [] ∧
        servers = [] := by
  constructor
  · intro heq
    have hzones : updateRows (·.id) edited.toZoneRow db.zones = db.zones := congrArg (·.zones) heq
    have hservers : deleteRows (·.zoneId) record.id db.zoneServers ++
        newZoneServers newUuid record.id 0 servers = db.zoneServers :=
      congrArg (·.zoneServers) heq
    have hedited : edited.toZoneRow ∈ db.zones := by
      rw [← hzones]
      exact mem_updateRows.2 (.inl ⟨rfl, record.toZoneRow, hrow, hid.symm⟩)
    have hnil : servers = [] := by
      cases servers with
      | nil => rfl
      | cons server rest =>
          -- the first inserted server has an identifier that was not stored
          have hmem : newZoneServer newUuid record.id 0 server ∈ db.zoneServers := by
            rw [← hservers]
            exact List.mem_append_right _ (List.mem_cons_self ..)
          exact absurd rfl (hfresh.notStored 0 _ hmem)
    subst hnil
    rw [newZoneServers, List.append_nil] at hservers
    refine ⟨h.zoneId.eq_of_key hedited hrow hid, List.filter_eq_nil_iff.2 fun server hserver => ?_,
      rfl⟩
    rw [← hservers] at hserver
    simpa using (mem_deleteRows.1 hserver).2
  · rintro ⟨hedited, hnone, rfl⟩
    have hservers : deleteRows (·.zoneId) record.id db.zoneServers = db.zoneServers := by
      refine List.filter_eq_self.2 fun server hserver => ?_
      simpa using List.filter_eq_nil_iff.1 hnone server hserver
    rw [hedited, updateRows_eq_self h.zoneId hrow, hservers, newZoneServers, List.append_nil]

theorem unchangedOnReject_updateZone_iff {db : Database} (h : db.Valid) {newUuid : Nat → String}
    {zoneName : String} {input : UpdateZoneInput} (hfresh : FreshServerIds newUuid db) :
    UnchangedOnReject (updateZone newUuid zoneName input) db ↔
      ∀ record, Zones.getByZone zoneName db = some record →
        (∀ server ∈ input.servers.getD [], server.ProtocolOk) ∨
          (editZone input record = record ∧ record.servers = [] ∧
            ∀ server ∈ (input.servers.getD []).head?, ¬ server.ProtocolOk) := by
  cases hget : Zones.getByZone zoneName db with
  | none =>
      refine ⟨fun _ _ h => absurd h (by simp), fun _ => unchangedOnReject_of_run ?_⟩
      simp [updateZone, Op.run_bind, hget]
  | some record =>
      obtain ⟨hrow, hname, hstored⟩ := getByZone_eq_some hget
      have hupdate : Zones.updateZone (editZone input record) db = _ :=
        updateZone_of_mem h hrow rfl rfl
      simp only [Option.some.injEq, forall_eq']
      cases hservers : input.servers with
      | none =>
          refine ⟨fun _ => .inl (by simp), fun _ e he => absurd he ?_⟩
          simp [updateZone, Op.run_bind, hget, run_repo_eq_ok.2 hupdate, hservers, finish]
      | some servers =>
          rw [unchangedOnReject_iff_of_loop (run_updateZone hget hservers hupdate)
            (exists_updateRows.2 ⟨_, hrow, rfl⟩) ⟨hfresh.injective, fun i server hserver =>
              hfresh.notStored i server (mem_deleteRows.1 hserver).1⟩]
          refine or_congr_right ((replaceZone_eq_self_iff h (editZone input record)
            hrow rfl hfresh).trans (and_congr ?_ (and_congr ?_ ?_)))
          · exact ⟨fun hrows => ZoneRecord.ext_row hrows rfl, congrArg ZoneRecord.toZoneRow⟩
          · rw [hstored, orderBySortOrder_eq_nil]
          · cases servers with
            | nil => simp
            | cons server rest => simp [List.takeWhile_cons]

namespace Mutation

/-- The identifiers that the two zone operations draw are new. -/
def DrawsFresh (db : Database) : Mutation → Prop
  | .addZone zoneId newUuid _ => (∀ zone ∈ db.zones, zone.id ≠ zoneId) ∧ FreshServerIds newUuid db
  | .updateZone newUuid _ _ => FreshServerIds newUuid db
  | _ => True

/-- No validation is left when the call writes. For `add_zone` and `update_zone` that means that
every given server has a known protocol, or that the call does not get as far as its first write;
`update_zone` may also have nothing to change before it meets the unknown protocol. -/
def ValidatesFirst (db : Database) : Mutation → Prop
  | .addZone _ _ input =>
      Succeeds (validateZoneName input.zone) → Zones.getByZone input.zone db = none →
        ∀ server ∈ input.servers.getD [], server.ProtocolOk
  | .updateZone _ zoneName input =>
      ∀ record, Zones.getByZone zoneName db = some record →
        (∀ server ∈ input.servers.getD [], server.ProtocolOk) ∨
          (editZone input record = record ∧ record.servers = [] ∧
            ∀ server ∈ (input.servers.getD []).head?, ¬ server.ProtocolOk)
  | _ => True

/-- **When a rejected mutation leaves the database unchanged.** -/
theorem unchangedOnReject_iff (lib : Libraries) (db : Database) (hvalid : db.Valid) (m : Mutation)
    (hfresh : m.DrawsFresh db) : UnchangedOnReject (m.operation lib) db ↔ m.ValidatesFirst db := by
  cases m with
  | addZone zoneId newUuid input =>
      exact unchangedOnReject_discard.trans (unchangedOnReject_addZone_iff hfresh.1 hfresh.2)
  | updateZone newUuid zoneName input =>
      exact unchangedOnReject_discard.trans (unchangedOnReject_updateZone_iff hvalid hfresh)
  | _ =>
      refine iff_of_true (unchangedOnReject_of_standard ?_ db) trivial
      refine (standard_or_zone lib _).resolve_right ?_
      rintro (⟨_, _, _, h⟩ | ⟨_, _, _, h⟩) <;> cases h

end Mutation

/-! ### Concrete calls -/

/-- The numbers as identifiers. -/
def numberedUuid (i : Nat) : String := toString i

theorem numberedUuid_injective : Function.Injective numberedUuid := by
  intro a b h
  have ha : a < 2 ^ (a + b) :=
    Nat.lt_two_pow_self.trans_le (Nat.pow_le_pow_right (by omega) (by omega))
  have hb : b < 2 ^ (a + b) :=
    Nat.lt_two_pow_self.trans_le (Nat.pow_le_pow_right (by omega) (by omega))
  have hread := Numeral.parseUnsigned_toString (a + b) a
  rw [show toString a = toString b from h, Numeral.parseUnsigned_toString] at hread
  simpa [Option.filter, ha, hb, eq_comm] using hread

/-- Libraries for URLs that are a scheme and a host name, and for ASCII header values; there are no
files, and the recursor wants a root to start from. -/
def plainLibraries : Libraries where
  urlParse text :=
    (Text.stripPrefix "https://" text).map fun host => ⟨"https", some host, none, "/"⟩
  headerValueFromStr text := text.toList.all fun c => 32 ≤ c.toNat && c.toNat < 127
  base64Encode text := text
  readToString _ := none
  trustAnchorsFromFile _ := none
  recursorNew roots _ _ _ := roots ≠ []

/-- A configuration file with nothing but the required fields. -/
def minimalConfig : DnsFilterConfig where
  resolvers := { strategy := "round_robin", bootstrapResolvers := [], servers := [] }

theorem valid_empty : ({} : Database).Valid := by
  constructor <;> simp [Keyed]

namespace Mutation

/-- `add_zone` for "lan" with one good server and one with an unknown protocol. -/
def addLan : Mutation :=
  .addZone "zone-lan" numberedUuid
    { zone := "lan"
      servers := some [{ protocol := "dns", address := "192.168.1.1:53" },
        { protocol := "udp", address := "192.168.1.2:53" }] }

theorem addLan_drawsFresh : addLan.DrawsFresh {} :=
  ⟨by simp, numberedUuid_injective, by simp⟩

theorem unchangedOnReject_iff_addLan :
    ({} : Database).Valid ∧ addLan.DrawsFresh {} ∧
      (UnchangedOnReject (addLan.operation plainLibraries) {} ↔ addLan.ValidatesFirst {}) :=
  ⟨valid_empty, addLan_drawsFresh,
    unchangedOnReject_iff plainLibraries {} valid_empty addLan addLan_drawsFresh⟩

/-- The call is rejected, and the zone is there with its first server. -/
theorem addLan_rejected :
    ({} : Database).Valid ∧ addLan.DrawsFresh {} ∧
      ((addLan.operation plainLibraries).run {}).1 = .error (.invalidInput
        "invalid protocol 'udp'; must be one of: dns, dot, doh, doq, recursive, json") ∧
      ((addLan.operation plainLibraries).run {}).2.zones.map (·.zone) = ["lan"] ∧
      ((addLan.operation plainLibraries).run {}).2.zoneServers.map (·.address) =
        ["192.168.1.1:53"] ∧
      ¬ UnchangedOnReject (addLan.operation plainLibraries) {} := by
  have hrun : ((addLan.operation plainLibraries).run {}).1 = .error (.invalidInput
      "invalid protocol 'udp'; must be one of: dns, dot, doh, doq, recursive, json") := by
    decide +kernel
  have hzones : ((addLan.operation plainLibraries).run {}).2.zones.map (·.zone) = ["lan"] := by
    decide +kernel
  refine ⟨valid_empty, addLan_drawsFresh, hrun, hzones, by decide +kernel, fun h => ?_⟩
  rw [h _ hrun trivial] at hzones
  exact absurd hzones (by decide)

end Mutation

end DnsFilter
