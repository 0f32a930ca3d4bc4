import DnsFilter.EditProof

/-!
# The endpoints of the block and allow lists

The handlers of `/api/v1/blocklists` and `/api/v1/allowlists` (`http.rs`). Listing and adding give
the kind of the list; updating and deleting look a list up by its name alone.

**`endpoint_keepsKind_iff`** — an endpoint of one kind leaves the lists of the other kind unchanged
exactly if the list with the given name is not of that kind, or the update changes nothing of it.
-/

namespace DnsFilter

open Table

/-! ## Handlers -/

/-- A response, without its time stamp. -/
structure Response (α : Type) where
  status : Nat
  success : Bool
  data : Option α
  error : Option String
  deriving DecidableEq

/-- `json_ok`. -/
def jsonOk {α : Type} (data : α) : Response α := ⟨200, true, some data, none⟩

/-- `json_error`. -/
def jsonError {α : Type} (status : Nat) (message : String) : Response α :=
  ⟨status, false, none, some message⟩

/-- The text of an error. -/
def ServerOperationError.toText : ServerOperationError → String
  | .notFound message => "not found: " ++ message
  | .unavailable message => "unavailable: " ++ message
  | .invalidInput message => "invalid input: " ++ message
  | .internal message => "internal error: " ++ message
  | .channelClosed => "reload channel closed; reload handler not running"

/-- `op_error_to_response`. -/
def opErrorToResponse {α : Type} (e : ServerOperationError) : Response α :=
  let status := match e with
    | .notFound _ => 404
    | .unavailable _ => 404
    | .invalidInput _ => 400
    | .internal _ => 500
    | .channelClosed => 500
  jsonError status e.toText

/-- The body of a handler: perform the operation and answer with `jsonOk` or its error. -/
def handle {α : Type} (op : Operation α) (db : Database) : Response α × Database :=
  match op.run db with
  | (.ok data, db') => (jsonOk data, db')
  | (.error e, db') => (opErrorToResponse e, db')

/-- The body of the handlers that add a list; they answer with `201 Created`. -/
def handleCreated {α : Type} (op : Operation α) (db : Database) : Response α × Database :=
  match op.run db with
  | (.ok data, db') => (⟨201, true, some data, none⟩, db')
  | (.error e, db') => (opErrorToResponse e, db')

/-- `list_filter_lists`. -/
def listFilterLists (kind : String) : Operation (List FilterListRecord) :=
  Op.read fun db => (FilterLists.getAll db).filter (·.kind = kind)

def handleListBlocklists : Database → Response (List FilterListRecord) × Database :=
  handle (listFilterLists "block")

def handleAddBlocklist (newUuid : Nat → String) (input : CreateFilterListInput) :
    Database → Response FilterListRecord × Database :=
  handleCreated (addFilterList newUuid "block" input)

def handleUpdateBlocklist (name : String) (input : UpdateFilterListInput) :
    Database → Response FilterListRecord × Database :=
  handle (updateFilterList name input)

def handleDeleteBlocklist (name : String) : Database → Response String × Database :=
  handle (deleteFilterList name)

def handleListAllowlists : Database → Response (List FilterListRecord) × Database :=
  handle (listFilterLists "allow")

def handleAddAllowlist (newUuid : Nat → String) (input : CreateFilterListInput) :
    Database → Response FilterListRecord × Database :=
  handleCreated (addFilterList newUuid "allow" input)

def handleUpdateAllowlist (name : String) (input : UpdateFilterListInput) :
    Database → Response FilterListRecord × Database :=
  handle (updateFilterList name input)

def handleDeleteAllowlist (name : String) : Database → Response String × Database :=
  handle (deleteFilterList name)

theorem handle_snd {α : Type} (op : Operation α) (db : Database) :
    (handle op db).2 = (op.run db).2 := by
  unfold handle
  rcases op.run db with ⟨e | data, db'⟩
  · rfl
  · rfl

/-! ## The lists of one kind -/

/-- The lists of this kind are the same. -/
def KeepsKind (kind : String) (db db' : Database) : Prop :=
  db'.filterLists.filter (·.kind = kind) = db.filterLists.filter (·.kind = kind)

section Rows

variable {rows : List FilterListRecord} {old new : FilterListRecord} {kind : String}

/-- Replacing a list of one kind by one of the same kind changes the lists of this kind, unless it
is the same list. -/
theorem filter_updateRows_eq_iff (hkeyed : Keyed (·.id) rows) (hold : old ∈ rows)
    (hid : new.id = old.id) (hkind : new.kind = old.kind) :
    (updateRows (·.id) new rows).filter (·.kind = kind) = rows.filter (·.kind = kind) ↔
      (old.kind = kind → new = old) := by
  constructor
  · intro h hsame
    have hmem : old ∈ (updateRows (·.id) new rows).filter (·.kind = kind) := by
      rw [h]
      exact List.mem_filter.2 ⟨hold, by simpa using hsame⟩
    rcases mem_updateRows.1 (List.mem_filter.1 hmem).1 with ⟨heq, _⟩ | ⟨_, hne⟩
    · exact heq.symm
    · exact absurd hid.symm hne
  · intro h
    by_cases hsame : old.kind = kind
    · rw [h hsame, updateRows_eq_self hkeyed hold]
    · apply filter_updateRows_of_false
      · simpa [hkind] using hsame
      · intro row hrow hrowId
        have hrowOld := hkeyed.eq_of_key hrow hold (hrowId.trans hid)
        simpa [hrowOld] using hsame

/-- Deleting a list changes the lists of its kind. -/
theorem filter_deleteRows_eq_iff (hkeyed : Keyed (·.id) rows) (hold : old ∈ rows) :
    (deleteRows (·.id) old.id rows).filter (·.kind = kind) = rows.filter (·.kind = kind) ↔
      old.kind ≠ kind := by
  constructor
  · intro h hsame
    have hmem : old ∈ (deleteRows (·.id) old.id rows).filter (·.kind = kind) := by
      rw [h]
      exact List.mem_filter.2 ⟨hold, by simpa using hsame⟩
    exact (mem_deleteRows.1 (List.mem_filter.1 hmem).1).2 rfl
  · intro hsame
    apply filter_deleteRows_of_false
    intro row hrow hrowId
    have hrowOld := hkeyed.eq_of_key hrow hold hrowId
    simpa [hrowOld] using hsame

end Rows

/-! ## What the operations write -/

section Operations

variable {db : Database} {name : String} {old : FilterListRecord} {input : UpdateFilterListInput}

theorem run_updateFilterList_of_none (h : FilterLists.getByName name db = none) :
    ((updateFilterList name input).run db).2 = db := by
  simp [updateFilterList, Op.run_bind, h]

theorem run_updateFilterList_of_error (h : FilterLists.getByName name db = some old)
    (hedit : ¬ Succeeds (editFilterList input old)) :
    ((updateFilterList name input).run db).2 = db := by
  cases hresult : editFilterList input old with
  | ok edited => exact absurd ⟨edited, hresult⟩ hedit
  | error e => simp [updateFilterList, Op.run_bind, h, hresult]

theorem run_updateFilterList_of_ok (hvalid : db.Valid)
    (h : FilterLists.getByName name db = some old) {edited : FilterListRecord}
    (hedit : editFilterList input old = .ok edited) :
    ((updateFilterList name input).run db).2 =
      { db with filterLists := updateRows (·.id) edited db.filterLists } := by
  have hedited := hedit
  rw [editFilterList_eq] at hedited
  obtain rfl := eq_of_check_pure _ hedited
  have hwrite : FilterLists.update (input.applied old) db = _ :=
    updateFilterList_of_mem hvalid (List.mem_of_find?_eq_some h) rfl rfl rfl
  simp [updateFilterList, Op.run_bind, h, hedit, hwrite, Except.mapError, finish]

theorem run_deleteFilterList_of_none (h : FilterLists.getByName name db = none) :
    ((deleteFilterList name).run db).2 = db := by
  simp [deleteFilterList, Op.run_bind, h]

theorem run_deleteFilterList_of_some (h : FilterLists.getByName name db = some old) :
    ((deleteFilterList name).run db).2 =
      { db with filterLists := deleteRows (·.id) old.id db.filterLists } := by
  simp [deleteFilterList, Op.run_bind, h, FilterLists.delete, statement, Except.mapError, finish]

end Operations

/-! ## The endpoints -/

/-- Each field of the body is absent or as it is stored. -/
def UpdateFilterListInput.GivesStored (input : UpdateFilterListInput) (old : FilterListRecord) :
    Prop :=
  (∀ url ∈ input.url, url = old.url) ∧
    (∀ interval ∈ input.interval, parseIntervalSecs (some interval) = old.intervalSeconds) ∧
    (∀ enabled ∈ input.enabled, enabled = old.enabled) ∧
    ∀ listType ∈ input.listType, listType = old.listType

theorem getD_eq_iff {α : Type} {given : Option α} {old : α} :
    given.getD old = old ↔ ∀ a ∈ given, a = old := by
  cases given with
  | none => simp
  | some a => simp

theorem applied_eq_iff {input : UpdateFilterListInput} {old : FilterListRecord} :
    input.applied old = old ↔ input.GivesStored old := by
  have hseconds : input.seconds.getD old.intervalSeconds = old.intervalSeconds ↔
      ∀ interval ∈ input.interval, parseIntervalSecs (some interval) = old.intervalSeconds := by
    rw [getD_eq_iff, UpdateFilterListInput.seconds]
    simp
  rw [UpdateFilterListInput.GivesStored, ← hseconds, ← getD_eq_iff, ← getD_eq_iff, ← getD_eq_iff,
    UpdateFilterListInput.applied]
  cases old
  simp

/-- The endpoints that change a list. -/
inductive ListEndpoint
  | updateBlocklist (input : UpdateFilterListInput)
  | deleteBlocklist
  | updateAllowlist (input : UpdateFilterListInput)
  | deleteAllowlist

namespace ListEndpoint

/-- The kind that the endpoint is not for. -/
def otherKind : ListEndpoint → String
  | updateBlocklist _ => "allow"
  | deleteBlocklist => "allow"
  | updateAllowlist _ => "block"
  | deleteAllowlist => "block"

/-- The database after a request for a name. -/
def after (name : String) (db : Database) : ListEndpoint → Database
  | updateBlocklist input => (handleUpdateBlocklist name input db).2
  | deleteBlocklist => (handleDeleteBlocklist name db).2
  | updateAllowlist input => (handleUpdateAllowlist name input db).2
  | deleteAllowlist => (handleDeleteAllowlist name db).2

/-- The request does not change a list: its body is rejected, or gives what is stored. -/
def ChangesNothing (old : FilterListRecord) : ListEndpoint → Prop
  | updateBlocklist input => Succeeds input.check → input.GivesStored old
  | deleteBlocklist => False
  | updateAllowlist input => Succeeds input.check → input.GivesStored old
  | deleteAllowlist => False

end ListEndpoint

section KeepsKind

variable {db : Database} {name kind : String}

theorem keepsKind_updateFilterList_iff (hvalid : db.Valid) {input : UpdateFilterListInput} :
    KeepsKind kind db ((updateFilterList name input).run db).2 ↔
      ∀ old ∈ FilterLists.getByName name db, old.kind = kind →
        Succeeds input.check → input.GivesStored old := by
  unfold KeepsKind
  cases hget : FilterLists.getByName name db with
  | none => simp [run_updateFilterList_of_none hget]
  | some old =>
      simp only [Option.mem_some_iff, forall_eq']
      have hedit := editFilterList_eq input old
      cases hcheck : input.check with
      | error e =>
          rw [hcheck] at hedit
          rw [run_updateFilterList_of_error hget (by rw [hedit]; exact not_succeeds_error e)]
          simp
      | ok _ =>
          rw [hcheck] at hedit
          have hrows : (updateRows (·.id) (input.applied old) db.filterLists).filter
              (·.kind = kind) = db.filterLists.filter (·.kind = kind) ↔
              (old.kind = kind → input.applied old = old) :=
            filter_updateRows_eq_iff hvalid.filterListId (List.mem_of_find?_eq_some hget) rfl rfl
          rw [run_updateFilterList_of_ok hvalid hget hedit, hrows, applied_eq_iff]
          simp

theorem keepsKind_deleteFilterList_iff (hvalid : db.Valid) :
    KeepsKind kind db ((deleteFilterList name).run db).2 ↔
      ∀ old ∈ FilterLists.getByName name db, old.kind = kind → False := by
  unfold KeepsKind
  cases hget : FilterLists.getByName name db with
  | none => simp [run_deleteFilterList_of_none hget]
  | some old =>
      rw [run_deleteFilterList_of_some hget,
        filter_deleteRows_eq_iff hvalid.filterListId (List.mem_of_find?_eq_some hget)]
      simp

end KeepsKind

/-- **An endpoint leaves the lists of the other kind unchanged exactly if the list with the given
name is not of that kind, or the request does not change it.** -/
theorem endpoint_keepsKind_iff {db : Database} (hvalid : db.Valid) (name : String)
    (endpoint : ListEndpoint) :
    KeepsKind endpoint.otherKind db (endpoint.after name db) ↔
      ∀ old ∈ FilterLists.getByName name db, old.kind = endpoint.otherKind →
        endpoint.ChangesNothing old := by
  cases endpoint with
  | updateBlocklist input =>
      rw [ListEndpoint.after, handleUpdateBlocklist, handle_snd]
      exact keepsKind_updateFilterList_iff hvalid
  | deleteBlocklist =>
      rw [ListEndpoint.after, handleDeleteBlocklist, handle_snd]
      exact keepsKind_deleteFilterList_iff hvalid
  | updateAllowlist input =>
      rw [ListEndpoint.after, handleUpdateAllowlist, handle_snd]
      exact keepsKind_updateFilterList_iff hvalid
  | deleteAllowlist =>
      rw [ListEndpoint.after, handleDeleteAllowlist, handle_snd]
      exact keepsKind_deleteFilterList_iff hvalid

/-- A database with one allow list. -/
def partnersDatabase : Database where
  filterLists := [{ id := "1", name := "partners", kind := "allow"
                    url := "https://lists.example/partners", intervalSeconds := 43200
                    enabled := true, listType := "domains" }]

theorem valid_partnersDatabase : partnersDatabase.Valid := by
  constructor <;> simp [partnersDatabase, Keyed]

theorem endpoint_keepsKind_iff_partners :
    partnersDatabase.Valid ∧
      (KeepsKind "allow" partnersDatabase
          (ListEndpoint.deleteBlocklist.after "partners" partnersDatabase) ↔
        ∀ old ∈ FilterLists.getByName "partners" partnersDatabase, old.kind = "allow" →
          ListEndpoint.deleteBlocklist.ChangesNothing old) :=
  ⟨valid_partnersDatabase, endpoint_keepsKind_iff valid_partnersDatabase "partners" .deleteBlocklist⟩

/-- Deleting a block list deletes an allow list. -/
theorem deleteBlocklist_deletes_allowlist :
    partnersDatabase.Valid ∧
      (handleDeleteBlocklist "partners" partnersDatabase).1 = jsonOk "partners" ∧
      (handleListAllowlists partnersDatabase).1.data.map (·.map (·.name)) = some ["partners"] ∧
      (handleListAllowlists (handleDeleteBlocklist "partners" partnersDatabase).2).1.data =
        some [] ∧
      ¬ KeepsKind "allow" partnersDatabase (handleDeleteBlocklist "partners" partnersDatabase).2 := by
  refine ⟨valid_partnersDatabase, ?_⟩
  unfold KeepsKind
  decide +kernel

end DnsFilter
