import DnsFilter.EditProof
import DnsFilter.Lib.Interleave
import DnsFilter.RoundTrip

/-!
# Two updates of one record at the same time

`update_filter_list`, `update_upstream_server`, `update_resolver_config` and `update_zone` read a
record, edit it and write all of it back, `update_zone` in several calls. Nothing keeps another call
from writing in between.

**`interleaved_updates_serial`** says when two such calls, interleaved call by call, leave the
tables that one of the two orders leaves (`NotLost`): they do not overlap, or the later write
repeats or outlasts what the earlier one wrote; and the servers of a zone are replaced one call
after the other. `overlapping_updates_lose_an_edit` is a run without it.
-/

namespace DnsFilter

open Table Numeral Op

/-! ## Read, edit, write -/

/-- The common shape of the calls that write a record in one repository call. -/
def updateRecord {ρ : Type} (get : Database → Option ρ) (message : String)
    (edit : ρ → Validated ρ) (call : ρ → RepoCall Unit) : Operation Unit :=
  discard do
    let record ← fetch get message
    let record ← Op.ofExcept (edit record)
    repo (call record)
    finish record

section UpdateRecord

variable {ρ κ : Type} {get : Database → Option ρ} {message : String} {view : κ → ρ}
  {R : Database → κ × Unit → Prop}

/-- `R` tells how a database stores one record, and the record is read from what is stored. -/
structure Stores (get : Database → Option ρ) (view : κ → ρ) (R : Database → κ × Unit → Prop) :
    Prop where
  unique : ∀ db₁ db₂ stored, R db₁ stored → R db₂ stored → db₁ = db₂
  get : ∀ db stored, R db stored → get db = some (view stored.1)

/-- The repository call stores an edited record. -/
def Writes (view : κ → ρ) (R : Database → κ × Unit → Prop) (edit : ρ → Validated ρ)
    (call : ρ → RepoCall Unit) (store : ρ → κ) (result : ρ → Except String Unit) : Prop :=
  ∀ db₀ stored₀ record, R db₀ stored₀ → edit (view stored₀.1) = .ok record →
    ∀ db stored, R db stored →
      (call record db).1 = result record ∧ R (call record db).2 (store record, ())

/-- What a call does to the stored record. -/
def editStored (view : κ → ρ) (edit : ρ → Validated ρ) (store : ρ → κ)
    (result : ρ → Except String Unit) (stored : κ) :
    Option (κ × Op Unit ServerOperationError Unit) :=
  (edit (view stored)).toOption.map fun record =>
    (store record, Op.ofExcept ((result record).mapError .internal))

theorem editStored_of_ok {edit : ρ → Validated ρ} {store : ρ → κ}
    {result : ρ → Except String Unit} {stored : κ} {record : ρ}
    (h : edit (view stored) = .ok record) :
    editStored view edit store result stored =
      some (store record, Op.ofExcept ((result record).mapError .internal)) := by
  simp [editStored, h, Except.toOption]

theorem editStored_of_error {edit : ρ → Validated ρ} {store : ρ → κ}
    {result : ρ → Except String Unit} {stored : κ} (h : ¬ Succeeds (edit (view stored))) :
    editStored view edit store result stored = none := by
  cases hedit : edit (view stored) with
  | ok record => exact absurd ⟨record, hedit⟩ h
  | error e => simp [editStored, hedit, Except.toOption]

variable (message) in
theorem simulates_updateRecord {edit : ρ → Validated ρ} {call : ρ → RepoCall Unit} {store : ρ → κ}
    {result : ρ → Except String Unit} (hstores : Stores get view R)
    (hwrites : Writes view R edit call store result) (error : ServerOperationError) :
    (updateRecord get message edit call).Simulates R
      (Op.update (editStored view edit store result) error) := by
  refine ⟨_, _, rfl, ?_⟩
  intro db stored hR
  refine ⟨hR, ?_⟩
  beta_reduce
  rw [hstores.get db stored hR]
  cases hedit : edit (view stored.1) with
  | error e =>
      rw [editStored_of_error (by rw [hedit]; exact not_succeeds_error e)]
      simp only [Op.bind, Option.elim_some, Op.ofExcept, bind, hedit]
      exact ⟨error, rfl⟩
  | ok record =>
      rw [editStored_of_ok hedit]
      simp only [Op.bind, Option.elim_some, Op.ofExcept, bind, hedit]
      refine ⟨_, _, rfl, ?_⟩
      intro db' stored' hR'
      obtain ⟨hresult, hR''⟩ := hwrites db stored record hR hedit db' stored' hR'
      refine ⟨hR'', ?_⟩
      dsimp only
      rw [hresult]
      cases result record with
      | error e => exact ⟨_, rfl⟩
      | ok u => exact ⟨_, rfl⟩

/-- What one call writes is not lost when the other one, which has read the same, writes over it:
the other would have written the same after it, or it would have been rejected after the other. -/
def SurvivesEdit (view : κ → ρ) (edit₁ edit₂ : ρ → Validated ρ) (store₁ store₂ : ρ → κ)
    (result₁ result₂ : ρ → Except String Unit) (stored : κ) : Prop :=
  ∀ record₁ record₂, edit₁ (view stored) = .ok record₁ → edit₂ (view stored) = .ok record₂ →
    result₁ record₁ = .ok () → result₂ record₂ = .ok () →
    edit₂ (view (store₁ record₁)) = .ok record₂ ∨ ¬ Succeeds (edit₁ (view (store₂ record₂)))

theorem survives_editStored {edit₁ edit₂ : ρ → Validated ρ} {store₁ store₂ : ρ → κ}
    {result₁ result₂ : ρ → Except String Unit} {stored : κ}
    (h : SurvivesEdit view edit₁ edit₂ store₁ store₂ result₁ result₂ stored) :
    Survives (editStored view edit₁ store₁ result₁) (editStored view edit₂ store₂ result₂)
      stored := by
  intro stored₁ stored₂ x y h₁ h₂ hx hy
  obtain ⟨record₁, hedit₁, heq₁⟩ := Option.map_eq_some_iff.1 h₁
  obtain ⟨record₂, hedit₂, heq₂⟩ := Option.map_eq_some_iff.1 h₂
  obtain ⟨rfl, rfl⟩ := Prod.mk.inj heq₁
  obtain ⟨rfl, rfl⟩ := Prod.mk.inj heq₂
  have hok : ∀ result : Except String Unit,
      (∀ e, (Op.ofExcept (result.mapError .internal) : Op Unit ServerOperationError Unit) ≠
        .fail e) → result = .ok () := by
    intro result hresult
    cases result with
    | ok u => rfl
    | error e => exact absurd rfl (hresult _)
  rcases h record₁ record₂ (toOption_eq_some.1 hedit₁) (toOption_eq_some.1 hedit₂) (hok _ hx)
    (hok _ hy) with hagain | hrejected
  · exact .inl (editStored_of_ok hagain)
  · exact .inr (editStored_of_error hrejected)

variable (message) in
/-- Two calls that write one record leave the tables of one of the two orders, if they do not
overlap or the earlier write survives. -/
theorem isSerial_updateRecord {edit₁ edit₂ : ρ → Validated ρ} {call₁ call₂ : ρ → RepoCall Unit}
    {store₁ store₂ : ρ → κ} {result₁ result₂ : ρ → Except String Unit}
    (hstores : Stores get view R) (hwrites₁ : Writes view R edit₁ call₁ store₁ result₁)
    (hwrites₂ : Writes view R edit₂ call₂ store₂ result₂) {db t : Database} {stored : κ}
    (hR : R db (stored, ())) {turns : List Bool}
    (h : interleave turns (updateRecord get message edit₁ call₁)
      (updateRecord get message edit₂ call₂) db = some t)
    (hsurvives : precedes 2 1 turns = false → precedes 2 1 (swapTurns turns) = false →
      if precedes 2 2 turns then
        SurvivesEdit view edit₁ edit₂ store₁ store₂ result₁ result₂ stored
      else SurvivesEdit view edit₂ edit₁ store₂ store₁ result₂ result₁ stored) :
    IsSerial (updateRecord get message edit₁ call₁) (updateRecord get message edit₂ call₂) db
      t := by
  have hx := simulates_updateRecord message hstores hwrites₁ (.internal "")
  have hy := simulates_updateRecord message hstores hwrites₂ (.internal "")
  apply hx.isSerial hy hR hstores.unique h
  intro t' ht'
  apply isSerial_update ht'
  intro hfirst hsecond
  have hsurvives := hsurvives hfirst hsecond
  split
  · rename_i hwrite
    rw [if_pos hwrite] at hsurvives
    exact survives_editStored hsurvives
  · rename_i hwrite
    rw [if_neg hwrite] at hsurvives
    exact survives_editStored hsurvives

end UpdateRecord

/-- Two calls that succeed have found the record. -/
theorem exists_of_interleave_fetch {α β : Type} {get : Database → Option α} {message : String}
    {next₁ next₂ : α → Operation β} {turns : List Bool} {db t : Database}
    (h : interleave turns (discard (fetch get message >>= next₁))
      (discard (fetch get message >>= next₂)) db = some t) : ∃ record, get db = some record := by
  have hfail : ∀ next : α → Operation β, get db = none →
      (discard (fetch get message >>= next)).advance db = some (.fail (.notFound message), db) := by
    intro next hnone
    simp only [discard, fetch, Op.read, bind, Op.bind, Op.advance, hnone]
    rfl
  cases hget : get db with
  | some record => exact ⟨record, rfl⟩
  | none =>
      cases turns with
      | nil =>
          exact absurd h (by simp [interleave, discard, fetch, Op.read, bind, Op.bind, finished])
      | cons turn turns =>
          cases turn with
          | true =>
              rw [interleave, hfail next₁ hget, Option.bind_some, interleave_fail] at h
              exact absurd h (by simp)
          | false =>
              rw [interleave, hfail next₂ hget, Option.bind_some, ← interleave_swap,
                interleave_fail] at h
              exact absurd h (by simp)

/-- If neither call reads after the other has written, what the earlier one wrote is kept:
`first` for the first call, `second` for the second. -/
def NotLost (turns : List Bool) (first second : Prop) : Prop :=
  precedes 2 1 turns = false → precedes 2 1 (swapTurns turns) = false →
    if precedes 2 2 turns then first else second

/-- One edit would be rejected after the other. -/
def RejectedAfter {ρ : Type} (edit other : ρ → Validated ρ) (record : ρ) : Prop :=
  ∀ edited, other record = .ok edited → ¬ Succeeds (edit edited)

theorem NotLost.imp {turns : List Bool} {first second first' second' : Prop}
    (h : NotLost turns first second) (hfirst : first → first') (hsecond : second → second') :
    NotLost turns first' second' := by
  intro hno₁ hno₂
  have h := h hno₁ hno₂
  split
  · rename_i hwrite
    rw [if_pos hwrite] at h
    exact hfirst h
  · rename_i hwrite
    rw [if_neg hwrite] at h
    exact hsecond h

/-! ## Filter lists -/

/-- The database with the given record in the place of a stored filter list. -/
def StoredFilterList (db : Database) (old : FilterListRecord) (db' : Database)
    (stored : FilterListRecord × Unit) : Prop :=
  stored.1.id = old.id ∧ stored.1.name = old.name ∧ stored.1.kind = old.kind ∧
    db' = { db with filterLists := updateRows (·.id) stored.1 db.filterLists }

section FilterLists

variable {db : Database} (hvalid : db.Valid) {name : String} {old : FilterListRecord}
  (hold : FilterLists.getByName name db = some old)

include hvalid hold

theorem stores_filterList : Stores (FilterLists.getByName name) id (StoredFilterList db old) where
  unique := by
    rintro db₁ db₂ stored ⟨_, _, _, rfl⟩ ⟨_, _, _, rfl⟩
    rfl
  get := by
    rintro db' stored ⟨hid, hname, _, rfl⟩
    have hfound : decide (old.name = name) = true :=
      List.find?_some (p := fun list : FilterListRecord => decide (list.name = name)) hold
    exact find?_updateRows_of_find? hvalid.filterListId hold hid (by rw [hname]; exact hfound)

theorem storedFilterList_self : StoredFilterList db old db (old, ()) := by
  refine ⟨rfl, rfl, rfl, ?_⟩
  rw [updateRows_eq_self hvalid.filterListId (List.mem_of_find?_eq_some hold)]

theorem writes_filterList (input : UpdateFilterListInput) :
    Writes id (StoredFilterList db old) (editFilterList input) FilterLists.update id
      fun _ => .ok () := by
  rintro db₀ stored₀ record ⟨hid₀, hname₀, hkind₀, -⟩ hedit db' stored ⟨hid, hname, hkind, rfl⟩
  rw [editFilterList_eq] at hedit
  obtain rfl := eq_of_check_pure _ hedit
  have hmem : old ∈ db.filterLists := List.mem_of_find?_eq_some hold
  -- The database with the stored record is one that an update leaves, so it is valid.
  have hvalid' : Database.Valid
      { db with filterLists := updateRows (·.id) stored.1 db.filterLists } := by
    have hafter := hvalid.updateFilterList stored.1
    rwa [updateFilterList_of_mem hvalid hmem hid hname hkind] at hafter
  have hmem' : stored.1 ∈ updateRows (·.id) stored.1 db.filterLists :=
    mem_updateRows.2 (.inl ⟨rfl, old, hmem, hid.symm⟩)
  have hids : stored.1.id = (input.applied stored₀.1).id := hid.trans hid₀.symm
  have hwrite : FilterLists.update (input.applied stored₀.1)
      { db with filterLists := updateRows (·.id) stored.1 db.filterLists } =
        (.ok (), { db with
          filterLists := updateRows (·.id) (input.applied stored₀.1) db.filterLists }) := by
    rw [updateFilterList_of_mem hvalid' hmem' hids.symm (hname₀.trans hname.symm)
      (hkind₀.trans hkind.symm)]
    rw [updateRows_updateRows hids]
  rw [id, hwrite]
  exact ⟨rfl, hid₀, hname₀, hkind₀, rfl⟩

omit hvalid hold in
theorem survives_editFilterList {first second : UpdateFilterListInput}
    (h : first.Kept second old) :
    SurvivesEdit id (editFilterList first) (editFilterList second) id id (fun _ => .ok ())
      (fun _ => .ok ()) old := by
  intro record₁ record₂ h₁ h₂ _ _
  left
  rw [id, editFilterList_eq] at h₁ h₂ ⊢
  obtain rfl := eq_of_check_pure _ h₁
  rw [id, UpdateFilterListInput.applied_of_kept h]
  exact h₂

end FilterLists

theorem isSerial_updateFilterList {lib : Libraries} {db t : Database} (hvalid : db.Valid)
    {name : String} {first second : UpdateFilterListInput} {turns : List Bool}
    (h : interleave turns (Mutation.operation lib (.updateFilterList name first))
      (Mutation.operation lib (.updateFilterList name second)) db = some t)
    (hkept : NotLost turns (∀ old ∈ FilterLists.getByName name db, first.Kept second old)
      (∀ old ∈ FilterLists.getByName name db, second.Kept first old)) :
    IsSerial (Mutation.operation lib (.updateFilterList name first))
      (Mutation.operation lib (.updateFilterList name second)) db t := by
  obtain ⟨old, hold⟩ := exists_of_interleave_fetch h
  exact isSerial_updateRecord _ (stores_filterList hvalid hold) (writes_filterList hvalid hold first)
    (writes_filterList hvalid hold second) (storedFilterList_self hvalid hold) h
    (hkept.imp (fun hkept => survives_editFilterList (hkept old hold))
      fun hkept => survives_editFilterList (hkept old hold))

/-! ## Upstream servers -/

/-- The database with the given record in the place of a stored server. -/
def StoredServer (db : Database) (serverId : String) (db' : Database)
    (stored : UpstreamServerRecord × Unit) : Prop :=
  stored.1.id = serverId ∧
    db' = { db with upstreamServers := updateRows (·.id) stored.1 db.upstreamServers }

section UpstreamServers

variable {lib : Libraries} {db : Database} {serverId : String} {old : UpstreamServerRecord}

theorem id_of_getServerById (hold : UpstreamConfig.getServerById serverId db = some old) :
    old.id = serverId := by
  have hfound := List.find?_some
    (p := fun server : UpstreamServerRecord => decide (server.id = serverId)) hold
  simpa using hfound

theorem stores_server (hold : UpstreamConfig.getServerById serverId db = some old) :
    Stores (UpstreamConfig.getServerById serverId) id (StoredServer db serverId) where
  unique := by
    rintro db₁ db₂ stored ⟨_, rfl⟩ ⟨_, rfl⟩
    rfl
  get := by
    rintro db' stored ⟨hid, rfl⟩
    have hstored : ∃ server ∈ db.upstreamServers, server.id = stored.1.id :=
      ⟨old, List.mem_of_find?_eq_some hold, (id_of_getServerById hold).trans hid.symm⟩
    have hfind := find?_updateRows_self hstored
    rw [hid] at hfind
    exact hfind

theorem storedServer_self (hvalid : db.Valid)
    (hold : UpstreamConfig.getServerById serverId db = some old) :
    StoredServer db serverId db (old, ()) := by
  refine ⟨id_of_getServerById hold, ?_⟩
  rw [updateRows_eq_self hvalid.serverId (List.mem_of_find?_eq_some hold)]

theorem writes_server (input : UpdateUpstreamServerInput) :
    Writes id (StoredServer db serverId) (editUpstreamServer lib input)
      UpstreamConfig.updateServer id fun _ => .ok () := by
  rintro db₀ stored₀ record ⟨hid₀, -⟩ hedit db' stored ⟨hid, rfl⟩
  rw [editUpstreamServer_eq] at hedit
  obtain rfl := eq_of_check_pure _ hedit
  have hids : stored.1.id = (input.applied stored₀.1).id := hid.trans hid₀.symm
  have hrows : updateRows (·.id) (input.applied stored₀.1)
      (updateRows (·.id) stored.1 db.upstreamServers) =
        updateRows (·.id) (input.applied stored₀.1) db.upstreamServers :=
    updateRows_updateRows hids
  exact ⟨rfl, hid₀, congrArg (fun rows => { db with upstreamServers := rows }) hrows⟩

theorem survives_editUpstreamServer {first second : UpdateUpstreamServerInput}
    (h : first.Kept second old ∨
      RejectedAfter (editUpstreamServer lib first) (editUpstreamServer lib second) old) :
    SurvivesEdit id (editUpstreamServer lib first) (editUpstreamServer lib second) id id
      (fun _ => .ok ()) (fun _ => .ok ()) old := by
  intro record₁ record₂ h₁ h₂ _ _
  rcases h with h | h
  · left
    rw [id, editUpstreamServer_eq] at h₁ h₂ ⊢
    obtain rfl := eq_of_check_pure _ h₁
    rw [id, UpdateUpstreamServerInput.applied_of_kept h]
    exact h₂
  · exact .inr (h record₂ h₂)

end UpstreamServers

theorem isSerial_updateUpstreamServer {lib : Libraries} {db t : Database} (hvalid : db.Valid)
    {serverId : String} {first second : UpdateUpstreamServerInput} {turns : List Bool}
    (h : interleave turns (Mutation.operation lib (.updateUpstreamServer serverId first))
      (Mutation.operation lib (.updateUpstreamServer serverId second)) db = some t)
    (hkept : NotLost turns
      (∀ old ∈ UpstreamConfig.getServerById serverId db, first.Kept second old ∨
        RejectedAfter (editUpstreamServer lib first) (editUpstreamServer lib second) old)
      (∀ old ∈ UpstreamConfig.getServerById serverId db, second.Kept first old ∨
        RejectedAfter (editUpstreamServer lib second) (editUpstreamServer lib first) old)) :
    IsSerial (Mutation.operation lib (.updateUpstreamServer serverId first))
      (Mutation.operation lib (.updateUpstreamServer serverId second)) db t := by
  obtain ⟨old, hold⟩ := exists_of_interleave_fetch h
  exact isSerial_updateRecord _ (stores_server hold) (writes_server first) (writes_server second)
    (storedServer_self hvalid hold) h
    (hkept.imp (fun hkept => survives_editUpstreamServer (hkept old hold))
      fun hkept => survives_editUpstreamServer (hkept old hold))

/-! ## Resolver configuration -/

/-- The stored form of the resolver configuration. -/
abbrev StoredResolverConfig := ResolverConfigRow × List BootstrapResolverRow

/-- The database with the given resolver configuration. -/
def Database.withResolverConfig (db : Database) (stored : StoredResolverConfig) : Database :=
  { db with resolverConfig := stored.1, bootstrapResolvers := stored.2 }

section ResolverConfig

variable {db : Database} {newUuid newUuid₁ newUuid₂ : Nat → String}

/-- The rows that `update_resolver_config` inserts, and whether it succeeds. -/
def insertBootstrap (newUuid : Nat → String) (record : ResolverConfigRecord) :
    Except String Unit × List BootstrapResolverRow :=
  insertEach (fun a b : BootstrapResolverRow => a.id = b.id || a.address = b.address)
    (fun i address => ⟨newUuid i, address, wrapSigned 32 i⟩)
    (fun address => "failed to insert bootstrap resolver '" ++ address ++ "'")
    0 record.bootstrapResolvers []

def storeResolverConfig (newUuid : Nat → String) (record : ResolverConfigRecord) :
    StoredResolverConfig :=
  ({ strategy := record.strategy
     dnsCacheEnabled := record.dnsCacheEnabled
     dnsCacheMinTtlSeconds := record.dnsCacheMinTtlSeconds
     dnsCacheMaxTtlSeconds := record.dnsCacheMaxTtlSeconds },
    (insertBootstrap newUuid record).2)

/-- The record that is read from the stored form. -/
def viewResolverConfig (stored : StoredResolverConfig) : ResolverConfigRecord :=
  UpstreamConfig.getResolverConfig (Database.withResolverConfig {} stored)

theorem stores_resolverConfig :
    Stores (fun db => some (UpstreamConfig.getResolverConfig db)) viewResolverConfig
      fun db' stored => db' = db.withResolverConfig stored.1 where
  unique := by
    rintro db₁ db₂ stored rfl rfl
    rfl
  get := by
    rintro db' stored rfl
    rfl

theorem writes_resolverConfig (input : UpdateResolverConfigInput) :
    Writes viewResolverConfig (fun db' stored => db' = db.withResolverConfig stored.1)
      (editResolverConfig input) (UpstreamConfig.updateResolverConfig newUuid)
      (storeResolverConfig newUuid) (fun record => (insertBootstrap newUuid record).1) := by
  rintro db₀ stored₀ record - - db' stored rfl
  exact ⟨rfl, rfl⟩

/-- What is read back after a successful write. -/
theorem view_storeResolverConfig {record : ResolverConfigRecord}
    (h : (insertBootstrap newUuid record).1 = .ok ()) :
    viewResolverConfig (storeResolverConfig newUuid record) =
      { record with
        bootstrapResolvers := readByPosition newUuid record.bootstrapResolvers } := by
  have hrows : (insertBootstrap newUuid record).2 = record.bootstrapResolvers.mapIdx
      fun i address => (⟨newUuid i, address, wrapSigned 32 i⟩ : BootstrapResolverRow) := by
    unfold insertBootstrap at h ⊢
    have hinsert := insertEach_of_ok (Prod.ext h rfl)
    simpa using hinsert
  have hread := @map_orderBySortOrder_mapIdx BootstrapResolverRow String String
    (fun i address => ⟨newUuid i, address, wrapSigned 32 i⟩) (·.sortOrder) (·.id) newUuid
    (·.address) (fun address => address) (fun _ _ => rfl) (fun _ _ => rfl) (fun _ _ => rfl)
    record.bootstrapResolvers
  rw [List.map_id'] at hread
  unfold viewResolverConfig UpstreamConfig.getResolverConfig storeResolverConfig
  rw [← hread, ← hrows]
  rfl

/-- What one call writes to the configuration is there after the other one: it is kept, and the
bootstrap resolvers are written again or are not too many to be read in order. -/
def KeptConfig (first second : UpdateResolverConfigInput) (old : ResolverConfigRecord) : Prop :=
  first.Kept second old ∧
    (second.bootstrapResolvers = none → old.bootstrapResolvers.length ≤ 2 ^ 31)

theorem edit_view_of_kept {first second : UpdateResolverConfigInput} {old : ResolverConfigRecord}
    (h : KeptConfig first second old)
    (hstored : (insertBootstrap newUuid (first.applied old)).1 = .ok ()) :
    editResolverConfig second (viewResolverConfig (storeResolverConfig newUuid
      (first.applied old))) = editResolverConfig second old := by
  obtain ⟨hkept, hlength⟩ := h
  have happlied : second.applied (viewResolverConfig (storeResolverConfig newUuid
      (first.applied old))) = second.applied old := by
    rw [view_storeResolverConfig hstored, ← UpdateResolverConfigInput.applied_of_kept hkept]
    cases hsecond : second.bootstrapResolvers with
    | some given => simp [UpdateResolverConfigInput.applied, hsecond]
    | none =>
        have hfirst : (first.applied old).bootstrapResolvers = old.bootstrapResolvers := by
          have hgetD := hkept.bootstrapResolvers.getD
          rw [hsecond] at hgetD
          exact hgetD
        have hread : readByPosition newUuid (first.applied old).bootstrapResolvers =
            (first.applied old).bootstrapResolvers := by
          rw [hfirst]
          exact keepsOrder_of_length_le newUuid (hlength hsecond)
        rw [hread]
  rw [editResolverConfig_eq, editResolverConfig_eq, happlied]

/-- Whether an edit passes does not depend on the bootstrap resolvers that are stored. -/
theorem succeeds_editResolverConfig_congr (input : UpdateResolverConfigInput)
    (record : ResolverConfigRecord) (bootstrap : List String) :
    Succeeds (editResolverConfig input { record with bootstrapResolvers := bootstrap }) ↔
      Succeeds (editResolverConfig input record) := by
  rw [editResolverConfig_eq, editResolverConfig_eq, succeeds_bind, succeeds_bind]
  simp only [succeeds_pure, UpdateResolverConfigInput.check, UpdateResolverConfigInput.applied]

theorem survives_editResolverConfig {first second : UpdateResolverConfigInput}
    {stored : StoredResolverConfig}
    (h : KeptConfig first second (viewResolverConfig stored) ∨
      RejectedAfter (editResolverConfig first) (editResolverConfig second)
        (viewResolverConfig stored)) :
    SurvivesEdit viewResolverConfig (editResolverConfig first) (editResolverConfig second)
      (storeResolverConfig newUuid₁) (storeResolverConfig newUuid₂)
      (fun record => (insertBootstrap newUuid₁ record).1)
      (fun record => (insertBootstrap newUuid₂ record).1) stored := by
  intro record₁ record₂ h₁ h₂ hstored₁ hstored₂
  rcases h with h | h
  · left
    rw [editResolverConfig_eq] at h₁
    obtain rfl := eq_of_check_pure _ h₁
    rw [edit_view_of_kept h hstored₁]
    exact h₂
  · right
    rw [view_storeResolverConfig hstored₂, succeeds_editResolverConfig_congr]
    exact h record₂ h₂

end ResolverConfig

theorem isSerial_updateResolverConfig {lib : Libraries} {db t : Database}
    {newUuid₁ newUuid₂ : Nat → String} {first second : UpdateResolverConfigInput}
    {turns : List Bool}
    (h : interleave turns (Mutation.operation lib (.updateResolverConfig newUuid₁ first))
      (Mutation.operation lib (.updateResolverConfig newUuid₂ second)) db = some t)
    (hkept : NotLost turns
      (KeptConfig first second (UpstreamConfig.getResolverConfig db) ∨
        RejectedAfter (editResolverConfig first) (editResolverConfig second)
          (UpstreamConfig.getResolverConfig db))
      (KeptConfig second first (UpstreamConfig.getResolverConfig db) ∨
        RejectedAfter (editResolverConfig second) (editResolverConfig first)
          (UpstreamConfig.getResolverConfig db))) :
    IsSerial (Mutation.operation lib (.updateResolverConfig newUuid₁ first))
      (Mutation.operation lib (.updateResolverConfig newUuid₂ second)) db t := by
  have hview : viewResolverConfig (db.resolverConfig, db.bootstrapResolvers) =
      UpstreamConfig.getResolverConfig db := rfl
  rw [← hview] at hkept
  exact isSerial_updateRecord "" stores_resolverConfig (writes_resolverConfig first)
    (writes_resolverConfig second) rfl h
    (hkept.imp survives_editResolverConfig survives_editResolverConfig)

/-! ## Zones -/

/-- The inserts of `update_zone` on the zone servers alone. -/
def insertServers (newUuid : Nat → String) (zoneId : String) :
    Nat → List CreateZoneServerInput → Op (List ZoneServerRecord) ServerOperationError Unit
  | _, [] => .ok ()
  | i, server :: rest =>
      match validateProtocol server.protocol with
      | .error e => .fail e
      | .ok _ =>
          let added := insertRow (fun a b => a.id = b.id) (newZoneServer newUuid zoneId i server)
          .call (fun rows => (added rows).getD rows) fun rows =>
            if (added rows).isSome then insertServers newUuid zoneId (i + 1) rest
            else .fail (.internal "")

/-- The replacement of the servers of a zone on the zone servers alone. -/
def replaceServers (newUuid : Nat → String) (zoneId : String)
    (servers : List CreateZoneServerInput) :
    Op (List ZoneServerRecord) ServerOperationError Unit :=
  .call (deleteRows (·.zoneId) zoneId) fun _ => insertServers newUuid zoneId 0 servers

/-- What `update_zone` does after it has written the row. -/
def UpdateZoneInput.replaced (input : UpdateZoneInput) (newUuid : Nat → String)
    (zoneId : String) : Op (List ZoneServerRecord) ServerOperationError Unit :=
  match input.servers with
  | some servers => replaceServers newUuid zoneId servers
  | none => .ok ()

/-- What `update_zone` does to the row, and what is left to do. -/
def editRow (newUuid : Nat → String) (input : UpdateZoneInput) (row : ZoneRow) :
    Option (ZoneRow × Op (List ZoneServerRecord) ServerOperationError Unit) :=
  some (input.applied row, input.replaced newUuid row.id)

/-- The database with the given row in the place of a stored zone, and the given zone servers. -/
def StoredZone (db : Database) (old : ZoneRow) (db' : Database)
    (stored : ZoneRow × List ZoneServerRecord) : Prop :=
  stored.1.id = old.id ∧ stored.1.zone = old.zone ∧
    db' = { db with
      zones := updateRows (·.id) stored.1 db.zones
      zoneServers := stored.2 }

section Zones

variable {db db' : Database} {name : String} {old : ZoneRow} {newUuid : Nat → String}
  {stored : ZoneRow × List ZoneServerRecord}

theorem storedZone_unique (db₁ db₂ : Database) (stored : ZoneRow × List ZoneServerRecord)
    (h₁ : StoredZone db old db₁ stored) (h₂ : StoredZone db old db₂ stored) : db₁ = db₂ :=
  h₁.2.2.trans h₂.2.2.symm

theorem storedZone_self (hvalid : db.Valid) (hold : old ∈ db.zones) :
    StoredZone db old db (old, db.zoneServers) := by
  refine ⟨rfl, rfl, ?_⟩
  rw [updateRows_eq_self hvalid.zoneId hold]

theorem getByZone_storedZone (hvalid : db.Valid) (hold : db.zones.find? (·.zone = name) = some old)
    (hR : StoredZone db old db' stored) :
    ∃ record, Zones.getByZone name db' = some record ∧ record.toZoneRow = stored.1 := by
  obtain ⟨hid, hzone, rfl⟩ := hR
  have hname : decide (old.zone = name) = true :=
    List.find?_some (p := fun zone : ZoneRow => decide (zone.zone = name)) hold
  have hfind : (updateRows (·.id) stored.1 db.zones).find? (·.zone = name) = some stored.1 :=
    find?_updateRows_of_find? hvalid.zoneId hold hid (by rw [hzone]; exact hname)
  have hget := congrArg (Option.map fun row : ZoneRow => ({ row with
    servers := orderBySortOrder (·.sortOrder) (·.id)
      (stored.2.filter (·.zoneId = row.id)) } : ZoneRecord)) hfind
  exact ⟨_, hget, rfl⟩

/-- The write of the row. -/
theorem updateZone_storedZone (hvalid : db.Valid) (hold : old ∈ db.zones) {record : ZoneRecord}
    (hid : record.id = old.id) (hzone : record.zone = old.zone)
    (hR : StoredZone db old db' stored) :
    (Zones.updateZone record db').1 = .ok () ∧
      StoredZone db old (Zones.updateZone record db').2 (record.toZoneRow, stored.2) := by
  obtain ⟨hid', hzone', rfl⟩ := hR
  have hother : ∀ row ∈ updateRows (·.id) stored.1 db.zones,
      row.id ≠ old.id → row.zone ≠ old.zone := by
    intro row hrow hne hsame
    rcases mem_updateRows.1 hrow with ⟨rfl, _⟩ | ⟨hrow, _⟩
    · exact hne hid'
    · exact hne (congrArg _ (hvalid.zoneName.eq_of_key hrow hold hsame))
  have hpass : ¬ ((updateRows (·.id) stored.1 db.zones).any (·.id = record.id) ∧
      (updateRows (·.id) stored.1 db.zones).any fun row =>
        row.id ≠ record.id ∧ row.zone = record.zone) := by
    rw [hid, hzone]
    simp only [List.any_eq_true, decide_eq_true_eq, not_and, not_exists]
    exact fun _ row hrow hne hsame => hother row hrow hne hsame
  have hwrite : Zones.updateZone record
      { db with zones := updateRows (·.id) stored.1 db.zones, zoneServers := stored.2 } =
        (.ok (), { db with
          zones := updateRows (·.id) record.toZoneRow db.zones, zoneServers := stored.2 }) := by
    refine statement_eq_ok.2 ((if_neg hpass).trans ?_)
    rw [updateRows_updateRows (hid'.trans hid.symm)]
  rw [hwrite]
  exact ⟨rfl, hid, hzone, rfl⟩

/-- The insert of a server. -/
theorem createZoneServer_storedZone (hold : old ∈ db.zones) {record : ZoneServerRecord}
    (hid : record.zoneId = old.id) (hR : StoredZone db old db' stored) :
    StoredZone db old (Zones.createZoneServer record db').2
        (stored.1, (insertRow (fun a b => a.id = b.id) record stored.2).getD stored.2) ∧
      ((Zones.createZoneServer record db').1 = .ok () ↔
        (insertRow (fun a b => a.id = b.id) record stored.2).isSome = true) := by
  obtain ⟨hid', hzone', rfl⟩ := hR
  have hzone : (updateRows (·.id) stored.1 db.zones).any (·.id = record.zoneId) = true := by
    have hex : ∃ row ∈ updateRows (·.id) stored.1 db.zones, row.id = record.zoneId :=
      exists_updateRows.2 ⟨old, hold, hid.symm⟩
    simpa using hex
  unfold Zones.createZoneServer statement
  simp only [hzone, if_true]
  cases hinsert : insertRow (fun a b => a.id = b.id) record stored.2 with
  | none => exact ⟨⟨hid', hzone', rfl⟩, by simp⟩
  | some rows => exact ⟨⟨hid', hzone', rfl⟩, by simp⟩

/-- The inserts of the servers leave the rest of the database alone. -/
theorem simulates_createZoneServers (hold : old ∈ db.zones) (i : Nat)
    (servers : List CreateZoneServerInput) :
    (createZoneServers newUuid old.id i servers).Simulates (StoredZone db old)
      (insertServers newUuid old.id i servers).onSnd := by
  induction servers generalizing i with
  | nil => exact ⟨_, rfl⟩
  | cons server rest ih =>
      unfold createZoneServers insertServers
      cases hprotocol : validateProtocol server.protocol with
      | error e => exact ⟨e, rfl⟩
      | ok u =>
          refine ⟨_, _, rfl, ?_⟩
          intro db' stored hR
          obtain ⟨hR', hresult⟩ := createZoneServer_storedZone hold
            (show (newZoneServer newUuid old.id i server).zoneId = old.id from rfl) hR
          refine ⟨hR', ?_⟩
          dsimp only
          split
          · rename_i hinsert
            rw [hresult.2 hinsert]
            change ((createZoneServers newUuid old.id (i + 1) rest).bind _).Simulates _ _
            exact Op.Simulates.bind_ok (ih (i + 1)) fun _ _ => ⟨_, rfl⟩
          · rename_i hinsert
            cases hcall : (Zones.createZoneServer (newZoneServer newUuid old.id i server) db').1 with
            | ok u => exact absurd (hresult.1 hcall) hinsert
            | error e => exact ⟨_, rfl⟩

theorem simulates_replaceZoneServers (hold : old ∈ db.zones) {record : ZoneRecord}
    (hid : record.id = old.id) (servers : List CreateZoneServerInput) :
    (discard (replaceZoneServers newUuid record servers)).Simulates (StoredZone db old)
      (replaceServers newUuid old.id servers).onSnd := by
  refine ⟨_, _, rfl, ?_⟩
  rintro db' stored ⟨hid', hzone', rfl⟩
  rw [hid]
  refine ⟨⟨hid', hzone', rfl⟩, ?_⟩
  change (((createZoneServers newUuid old.id 0 servers).bind _).bind _).Simulates _ _
  refine Op.Simulates.bind_ok ?_ fun _ _ => ⟨_, rfl⟩
  exact Op.Simulates.bind_ok (simulates_createZoneServers hold 0 servers) fun _ _ => ⟨_, rfl⟩

variable (newUuid) in
theorem simulates_updateZone (lib : Libraries) (hvalid : db.Valid)
    (hold : db.zones.find? (·.zone = name) = some old) (input : UpdateZoneInput)
    (error : ServerOperationError) :
    (Mutation.operation lib (.updateZone newUuid name input)).Simulates (StoredZone db old)
      (Op.update (editRow newUuid input) error) := by
  have hmem : old ∈ db.zones := List.mem_of_find?_eq_some hold
  refine ⟨_, _, rfl, ?_⟩
  intro db' stored hR
  obtain ⟨record, hget, hrow⟩ := getByZone_storedZone hvalid hold hR
  refine ⟨hR, ?_⟩
  beta_reduce
  rw [hget]
  refine ⟨_, _, rfl, ?_⟩
  intro db'' stored' hR'
  have hid : (editZone input record).id = old.id := (congrArg ZoneRow.id hrow).trans hR.1
  have hzone : (editZone input record).zone = old.zone := (congrArg ZoneRow.zone hrow).trans hR.2.1
  obtain ⟨hok, hwrite⟩ := updateZone_storedZone hvalid hmem hid hzone hR'
  rw [toZoneRow_editZone, hrow] at hwrite
  refine ⟨hwrite, ?_⟩
  dsimp only
  rw [hok, hR.1, UpdateZoneInput.replaced]
  cases input.servers with
  | none => exact ⟨_, rfl⟩
  | some servers => exact simulates_replaceZoneServers hmem hid servers

end Zones

/-! ### In order -/

section InOrder

variable {first second : UpdateZoneInput} {newUuid₁ newUuid₂ : Nat → String} {turns : List Bool}

/-- Two calls of `update_zone` leave the row as the first and then the second leave it. -/
def RowInOrder (turns : List Bool) (first second : UpdateZoneInput) (row : ZoneRow) : Prop :=
  if precedes 2 1 turns then True
  else if precedes 2 1 (swapTurns turns) then first.Agree second
  else if precedes 2 2 turns then first.Kept second row
  else first.Repeated second row

/-- Two calls of `update_zone` leave the servers that the first and then the second leave: the first
is done with them before the second deletes them, or has none to insert and deletes them before the
second inserts its own. -/
def ServersInOrder (turns : List Bool) (first second : UpdateZoneInput) : Prop :=
  first.servers ≠ none → second.servers ≠ none →
    precedes (turns.count true) 3 turns = true ∨
      first.servers = some [] ∧ precedes 3 4 turns = true

def InOrder (turns : List Bool) (first second : UpdateZoneInput) (row : ZoneRow) : Prop :=
  RowInOrder turns first second row ∧ ServersInOrder turns first second

theorem updated_inOrder {row row' : ZoneRow}
    {x y : Op (List ZoneServerRecord) ServerOperationError Unit}
    (h : Updated (editRow newUuid₁ first) (editRow newUuid₂ second) turns row row' x y)
    (hrow : RowInOrder turns first second row) :
    row' = second.applied (first.applied row) ∧ x = first.replaced newUuid₁ row.id ∧
      y = second.replaced newUuid₂ row.id := by
  unfold RowInOrder at hrow
  cases h with
  | firstSecond hfirst hsecond h₁ h₂ =>
      obtain ⟨rfl, rfl⟩ := Prod.mk.inj (Option.some.inj h₁)
      obtain ⟨rfl, rfl⟩ := Prod.mk.inj (Option.some.inj h₂)
      exact ⟨rfl, rfl, rfl⟩
  | secondFirst hfirst hsecond h₂ h₁ =>
      obtain ⟨rfl, rfl⟩ := Prod.mk.inj (Option.some.inj h₂)
      obtain ⟨rfl, rfl⟩ := Prod.mk.inj (Option.some.inj h₁)
      rw [if_neg (by simp [hfirst]), if_pos hsecond] at hrow
      exact ⟨UpdateZoneInput.applied_of_agree row hrow, rfl, rfl⟩
  | lastSecond hfirst hsecond hwrite hwrite' h₁ h₂ =>
      obtain ⟨rfl, rfl⟩ := Prod.mk.inj (Option.some.inj h₁)
      obtain ⟨rfl, rfl⟩ := Prod.mk.inj (Option.some.inj h₂)
      rw [if_neg (by simp [hfirst]), if_neg (by simp [hsecond]), if_pos hwrite] at hrow
      exact ⟨(UpdateZoneInput.applied_of_kept hrow).symm, rfl, rfl⟩
  | lastFirst hfirst hsecond hwrite hwrite' h₁ h₂ =>
      obtain ⟨rfl, rfl⟩ := Prod.mk.inj (Option.some.inj h₁)
      obtain ⟨rfl, rfl⟩ := Prod.mk.inj (Option.some.inj h₂)
      rw [if_neg (by simp [hfirst]), if_neg (by simp [hsecond]), if_neg (by simp [hwrite])] at hrow
      exact ⟨(UpdateZoneInput.applied_of_repeated hrow).symm, rfl, rfl⟩

/-- A call without servers deletes the same rows as the other one. -/
theorem replaceServers_nil_inOrder {zoneId : String} {servers : List CreateZoneServerInput}
    {rows t : List ZoneServerRecord}
    (h : interleave turns (replaceServers newUuid₁ zoneId [])
      (replaceServers newUuid₂ zoneId servers) rows = some t)
    (hturns : precedes 1 2 turns = true) :
    t = ((replaceServers newUuid₂ zoneId servers).run
      ((replaceServers newUuid₁ zoneId []).run rows).2).2 := by
  cases turns with
  | nil => exact absurd hturns (by simp [precedes])
  | cons turn turns =>
      cases turn with
      | true =>
          obtain ⟨_, hadv, h⟩ := Option.bind_eq_some_iff.1 h
          obtain rfl := Option.some.inj hadv
          exact (interleave_ok h).symm
      | false =>
          obtain ⟨_, hadv, h⟩ := Option.bind_eq_some_iff.1 h
          obtain rfl := Option.some.inj hadv
          cases turns with
          | nil => exact absurd hturns (by simp [precedes])
          | cons turn turns =>
              cases turn with
              | false => exact absurd hturns (by simp [precedes])
              | true =>
                  obtain ⟨_, hadv, h⟩ := Option.bind_eq_some_iff.1 h
                  obtain rfl := Option.some.inj hadv
                  exact (interleave_ok h).symm

theorem replaced_inOrder {zoneId : String} {rows t : List ZoneServerRecord}
    (h : interleave (dropTurns 2 2 turns) (first.replaced newUuid₁ zoneId)
      (second.replaced newUuid₂ zoneId) rows = some t)
    (hservers : ServersInOrder turns first second) :
    t = ((second.replaced newUuid₂ zoneId).run ((first.replaced newUuid₁ zoneId).run rows).2).2 := by
  unfold ServersInOrder at hservers
  unfold UpdateZoneInput.replaced at h ⊢
  cases hfirst : first.servers with
  | none =>
      rw [hfirst] at h
      exact (interleave_ok h).symm
  | some servers₁ =>
      cases hsecond : second.servers with
      | none =>
          rw [hsecond, ← interleave_swap] at h
          rw [hfirst] at h
          exact (interleave_ok h).symm
      | some servers₂ =>
          rw [hfirst, hsecond] at h hservers
          rcases hservers (by simp) (by simp) with hturns | ⟨hnil, hturns⟩
          · refine (interleave_serial h ?_).symm
            rw [count_dropTurns]
            by_cases hcount : 2 ≤ turns.count true
            · apply precedes_dropTurns
              rw [Nat.sub_add_cancel hcount]
              exact hturns
            · rw [Nat.sub_eq_zero_of_le (by omega)]
              simp [precedes]
          · obtain rfl := Option.some.inj hnil
            exact replaceServers_nil_inOrder h (precedes_dropTurns hturns)

/-- Two calls in order leave the zone that running them in this order leaves. -/
theorem interleave_inOrder {row : ZoneRow} {rows : List ZoneServerRecord}
    {t : ZoneRow × List ZoneServerRecord} {error : ServerOperationError}
    (h : interleave turns (Op.update (editRow newUuid₁ first) error)
      (Op.update (editRow newUuid₂ second) error) (row, rows) = some t)
    (hinOrder : InOrder turns first second row) :
    t = ((Op.update (editRow newUuid₂ second) error).run
      ((Op.update (editRow newUuid₁ first) error).run (row, rows)).2).2 := by
  obtain ⟨x, y, hupdated, hrest⟩ := interleave_update h
  obtain ⟨hrow, rfl, rfl⟩ := updated_inOrder hupdated hinOrder.1
  have hservers := replaced_inOrder hrest hinOrder.2
  have hfirst : editRow newUuid₁ first row =
      some (first.applied row, first.replaced newUuid₁ row.id) := rfl
  have hsecond : editRow newUuid₂ second (first.applied row) =
      some (second.applied (first.applied row), second.replaced newUuid₂ row.id) := rfl
  rw [run_update_of_some hfirst, run_update_of_some hsecond]
  exact Prod.ext hrow hservers

end InOrder

theorem isSerial_updateZone {lib : Libraries} {db t : Database} (hvalid : db.Valid)
    {newUuid₁ newUuid₂ : Nat → String} {name : String} {first second : UpdateZoneInput}
    {turns : List Bool}
    (h : interleave turns (Mutation.operation lib (.updateZone newUuid₁ name first))
      (Mutation.operation lib (.updateZone newUuid₂ name second)) db = some t)
    (hinOrder : ∀ row ∈ db.zones.find? (·.zone = name),
      InOrder turns first second row ∨ InOrder (swapTurns turns) second first row) :
    IsSerial (Mutation.operation lib (.updateZone newUuid₁ name first))
      (Mutation.operation lib (.updateZone newUuid₂ name second)) db t := by
  obtain ⟨record, hrecord⟩ := exists_of_interleave_fetch h
  obtain ⟨old, hold, -⟩ := Option.map_eq_some_iff.1 hrecord
  have hx := simulates_updateZone newUuid₁ lib hvalid hold first (.internal "")
  have hy := simulates_updateZone newUuid₂ lib hvalid hold second (.internal "")
  have hR := storedZone_self hvalid (List.mem_of_find?_eq_some hold)
  apply hx.isSerial hy hR storedZone_unique h
  intro t' ht'
  rcases hinOrder old hold with hinOrder | hinOrder
  · exact .inl (interleave_inOrder ht' hinOrder)
  · rw [← interleave_swap] at ht'
    exact .inr (interleave_inOrder ht' hinOrder)

/-! ## Two calls on one record -/

/-- The two mutations update the same record. -/
def SameRecord : Mutation → Mutation → Prop
  | .updateFilterList name _, .updateFilterList name' _ => name = name'
  | .updateUpstreamServer serverId _, .updateUpstreamServer serverId' _ => serverId = serverId'
  | .updateResolverConfig _ _, .updateResolverConfig _ _ => True
  | .updateZone _ name _, .updateZone _ name' _ => name = name'
  | _, _ => False

/-- Neither of two updates of one record is lost. For a record that is written in one call: one call
reads after the other has written, or what the earlier one wrote is kept by the later one or would
be rejected after it. For a zone: its row and its servers are left as in the same order. -/
def NothingLost (lib : Libraries) (turns : List Bool) (db : Database) : Mutation → Mutation → Prop
  | .updateFilterList name first, .updateFilterList _ second =>
      NotLost turns (∀ old ∈ FilterLists.getByName name db, first.Kept second old)
        (∀ old ∈ FilterLists.getByName name db, second.Kept first old)
  | .updateUpstreamServer serverId first, .updateUpstreamServer _ second =>
      NotLost turns
        (∀ old ∈ UpstreamConfig.getServerById serverId db, first.Kept second old ∨
          RejectedAfter (editUpstreamServer lib first) (editUpstreamServer lib second) old)
        (∀ old ∈ UpstreamConfig.getServerById serverId db, second.Kept first old ∨
          RejectedAfter (editUpstreamServer lib second) (editUpstreamServer lib first) old)
  | .updateResolverConfig _ first, .updateResolverConfig _ second =>
      NotLost turns
        (KeptConfig first second (UpstreamConfig.getResolverConfig db) ∨
          RejectedAfter (editResolverConfig first) (editResolverConfig second)
            (UpstreamConfig.getResolverConfig db))
        (KeptConfig second first (UpstreamConfig.getResolverConfig db) ∨
          RejectedAfter (editResolverConfig second) (editResolverConfig first)
            (UpstreamConfig.getResolverConfig db))
  | .updateZone _ name first, .updateZone _ _ second =>
      ∀ row ∈ db.zones.find? (·.zone = name),
        InOrder turns first second row ∨ InOrder (swapTurns turns) second first row
  | _, _ => True

/-- **Two updates of one record that both succeed leave the tables of one of the two orders**, in
every interleaving of their repository calls in which neither is lost. -/
theorem interleaved_updates_serial (lib : Libraries) (db t : Database) (hvalid : db.Valid)
    (m m' : Mutation) (hsame : SameRecord m m') (turns : List Bool)
    (hkept : NothingLost lib turns db m m')
    (h : interleave turns (m.operation lib) (m'.operation lib) db = some t) :
    IsSerial (m.operation lib) (m'.operation lib) db t := by
  cases m with
  | updateFilterList name first =>
      cases m' with
      | updateFilterList name' second =>
          obtain rfl : name = name' := hsame
          exact isSerial_updateFilterList hvalid h hkept
      | _ => exact hsame.elim
  | updateUpstreamServer serverId first =>
      cases m' with
      | updateUpstreamServer serverId' second =>
          obtain rfl : serverId = serverId' := hsame
          exact isSerial_updateUpstreamServer hvalid h hkept
      | _ => exact hsame.elim
  | updateResolverConfig newUuid first =>
      cases m' with
      | updateResolverConfig newUuid' second => exact isSerial_updateResolverConfig h hkept
      | _ => exact hsame.elim
  | updateZone newUuid name first =>
      cases m' with
      | updateZone newUuid' name' second =>
          obtain rfl : name = name' := hsame
          exact isSerial_updateZone hvalid h hkept
      | _ => exact hsame.elim
  | _ => exact hsame.elim

def adsList : FilterListRecord where
  id := "1"
  name := "ads"
  kind := "block"
  url := "https://old.example/ads"
  intervalSeconds := 3600
  enabled := true
  listType := "hosts"

def adsDatabase : Database := { filterLists := [adsList] }

theorem valid_adsDatabase : adsDatabase.Valid := by
  constructor <;> simp [adsDatabase, adsList, Keyed]

def moveAds (url : String) : Mutation := .updateFilterList "ads" { url := some url }

/-- Two callers move the list; both read it before one of them writes. -/
theorem interleaved_updates_serial_moveAds :
    let t : Database := { filterLists := [{ adsList with url := "https://b.example/ads" }] }
    interleave [true, false, true, false] ((moveAds "https://a.example/ads").operation plainLibraries)
        ((moveAds "https://b.example/ads").operation plainLibraries) adsDatabase = some t ∧
      IsSerial ((moveAds "https://a.example/ads").operation plainLibraries)
        ((moveAds "https://b.example/ads").operation plainLibraries) adsDatabase t := by
  intro t
  have h : interleave [true, false, true, false]
      ((moveAds "https://a.example/ads").operation plainLibraries)
      ((moveAds "https://b.example/ads").operation plainLibraries) adsDatabase = some t := by
    decide +kernel
  refine ⟨h, interleaved_updates_serial plainLibraries adsDatabase t valid_adsDatabase _ _ rfl _ ?_
    h⟩
  intro _ _
  rw [if_pos (by decide)]
  intro old _
  exact ⟨.inr (.inl (by simp)), .inl rfl, .inl rfl, .inl rfl⟩

/-- One caller moves the list while another one disables it: the list is disabled at its old
place. -/
theorem overlapping_updates_lose_an_edit :
    let move := (moveAds "https://new.example/ads").operation plainLibraries
    let disable :=
      Mutation.operation plainLibraries (.updateFilterList "ads" { enabled := some false })
    let t : Database := { filterLists := [{ adsList with enabled := false }] }
    adsDatabase.Valid ∧ interleave [true, false, true, false] move disable adsDatabase = some t ∧
      ¬ IsSerial move disable adsDatabase t := by
  refine ⟨valid_adsDatabase, by decide +kernel, ?_⟩
  unfold IsSerial
  decide +kernel

end DnsFilter
