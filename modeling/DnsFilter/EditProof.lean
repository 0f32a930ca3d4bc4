import DnsFilter.OperationsProof

/-!
# The edits of the update calls

An update call reads a record, changes the fields its input gives, and checks them. For each of the
calls, the edit succeeds exactly when the input `Passes`, and the result is the record with the
given fields `applied`.

`Kept` compares two inputs on one record: what the first gives is given again by the second, or was
there before. Then the second edit writes the same with or without the first (`applied_of_kept`).
-/

namespace DnsFilter

/-! ## Fields -/

/-- What the first input gives for a field is given again by the second, or is the value of the
field. -/
def Kept {β : Type} (first second : Option β) (value : β) : Prop :=
  first = none ∨ second ≠ none ∨ first = some value

/-- What the second input gives for a field is what the first leaves there. -/
def Repeated {β : Type} (first second : Option β) (value : β) : Prop :=
  second = none ∨ second = some (first.getD value)

/-- The inputs do not give different values for a field. -/
def Agree {β : Type} (first second : Option β) : Prop :=
  first = none ∨ second = none ∨ first = second

instance {β : Type} [DecidableEq β] (first second : Option β) (value : β) :
    Decidable (Kept first second value) :=
  inferInstanceAs (Decidable (_ ∨ _ ∨ _))

theorem Kept.getD {β : Type} {first second : Option β} {value : β}
    (h : Kept first second value) : second.getD (first.getD value) = second.getD value := by
  rcases h with rfl | h | rfl
  · rfl
  · obtain ⟨new, rfl⟩ := Option.ne_none_iff_exists'.1 h
    rfl
  · rfl

theorem or_eq_getD_map {β : Type} (field value : Option β) :
    field.or value = (field.map some).getD value := by
  cases field with
  | none => rfl
  | some new => rfl

/-- The same for a field that an input can set but not clear. -/
theorem Kept.or {β : Type} {first second value : Option β}
    (h : Kept (first.map some) (second.map some) value) :
    second.or (first.or value) = second.or value := by
  rw [or_eq_getD_map second, or_eq_getD_map first, or_eq_getD_map second, h.getD]

theorem Repeated.getD {β : Type} {first second : Option β} {value : β}
    (h : Repeated first second value) : second.getD (first.getD value) = first.getD value := by
  rcases h with rfl | rfl
  · rfl
  · rfl

theorem Agree.getD {β : Type} {first second : Option β} (h : Agree first second) (value : β) :
    first.getD (second.getD value) = second.getD (first.getD value) := by
  rcases h with rfl | rfl | rfl
  · rfl
  · rfl
  · cases first with
    | none => rfl
    | some new => rfl

/-- Check a field if it is given. -/
def checkField {β γ : Type} (parse : β → Validated γ) : Option β → Validated Unit
  | none => pure ()
  | some given => do
      let _ ← parse given
      return ()

/-- A field that was checked keeps its value, or has one that passed the check. -/
theorem getD_of_checkField {β γ δ : Type} {parse : β → Validated γ} {field : Option β}
    (P : δ → Prop) (value : β → δ) {old : δ} (h : checkField parse field = .ok ())
    (hP : ∀ given parsed, parse given = .ok parsed → P (value given)) :
    (field.map value).getD old = old ∨ P ((field.map value).getD old) := by
  cases field with
  | none => exact .inl rfl
  | some given =>
      obtain ⟨parsed, hparsed, -⟩ := bind_eq_ok.1 h
      exact .inr (hP given parsed hparsed)

/-- An edit checks a field, then sets it. -/
theorem edit_eq {α β γ δ : Type} {field : Option β} {record : α} {parse : β → Validated γ}
    {f : β → γ → α} (set : δ → α) (value : β → δ) (old : δ)
    (hset : ∀ given parsed, parse given = .ok parsed → f given parsed = set (value given))
    (hold : set old = record) :
    (edit field record fun given => do let parsed ← parse given; return f given parsed) = do
      checkField parse field
      return set ((field.map value).getD old) := by
  cases field with
  | none => exact congrArg Except.ok hold.symm
  | some given =>
      change (parse given >>= fun parsed => pure (f given parsed)) =
        (parse given >>= fun _ => pure ()) >>= fun _ => pure (set (value given))
      cases hparse : parse given with
      | error e => rfl
      | ok parsed => exact congrArg Except.ok (hset given parsed hparse)

/-- The same for a field that is set as it is given. -/
theorem edit_check_eq {α β γ : Type} {field : Option β} {record : α} {check : β → Validated γ}
    (set : β → α) (old : β) (hold : set old = record) :
    (edit field record fun given => do let _ ← check given; return set given) = do
      checkField check field
      return set (field.getD old) := by
  have heq := @edit_eq α β γ β field record check (fun given _ => set given) set id old
    (fun _ _ _ => rfl) hold
  rw [Option.map_id] at heq
  exact heq

/-! ## Filter lists -/

namespace UpdateFilterListInput

/-- The interval that is given, in seconds. -/
def seconds (input : UpdateFilterListInput) : Option Int :=
  input.interval.map fun interval => parseIntervalSecs (some interval)

/-- The record with the given fields. -/
def applied (input : UpdateFilterListInput) (record : FilterListRecord) : FilterListRecord :=
  { record with
    url := input.url.getD record.url
    intervalSeconds := input.seconds.getD record.intervalSeconds
    enabled := input.enabled.getD record.enabled
    listType := input.listType.getD record.listType }

def check (input : UpdateFilterListInput) : Validated Unit := do
  checkField validateUrl input.url
  checkField validateListType input.listType

def Kept (first second : UpdateFilterListInput) (record : FilterListRecord) : Prop :=
  DnsFilter.Kept first.url second.url record.url ∧
    DnsFilter.Kept first.seconds second.seconds record.intervalSeconds ∧
    DnsFilter.Kept first.enabled second.enabled record.enabled ∧
    DnsFilter.Kept first.listType second.listType record.listType

theorem applied_of_kept {first second : UpdateFilterListInput} {record : FilterListRecord}
    (h : first.Kept second record) :
    second.applied (first.applied record) = second.applied record := by
  obtain ⟨hurl, hseconds, henabled, htype⟩ := h
  simp only [applied, hurl.getD, hseconds.getD, henabled.getD, htype.getD]

end UpdateFilterListInput

theorem editFilterList_eq (input : UpdateFilterListInput) (record : FilterListRecord) :
    editFilterList input record = do
      input.check
      return input.applied record := by
  have hunfold : editFilterList input record = (do
      let record ← edit input.url record fun url => do
        validateUrl url
        return { record with url := url }
      let record := { record with
        intervalSeconds := input.seconds.getD record.intervalSeconds
        enabled := input.enabled.getD record.enabled }
      edit input.listType record fun listType => do
        validateListType listType
        return { record with listType := listType }) := by
    obtain ⟨url, interval, enabled, listType⟩ := input
    cases interval with
    | none => rfl
    | some interval => rfl
  have hurl := @edit_check_eq _ _ _ input.url record validateUrl
    (fun url => { record with url := url }) record.url rfl
  have htype := @edit_check_eq _ _ _ input.listType
    { record with
      url := input.url.getD record.url
      intervalSeconds := input.seconds.getD record.intervalSeconds
      enabled := input.enabled.getD record.enabled } validateListType
    (fun listType => { record with
      url := input.url.getD record.url
      intervalSeconds := input.seconds.getD record.intervalSeconds
      enabled := input.enabled.getD record.enabled
      listType := listType }) record.listType rfl
  rw [hunfold, hurl, bind_assoc]
  simp only [pure_bind]
  rw [htype, UpdateFilterListInput.check, bind_assoc]
  rfl

/-! ## Upstream servers -/

/-- The record that an update of a server asks for. -/
def UpdateUpstreamServerInput.requested (input : UpdateUpstreamServerInput)
    (record : UpstreamServerRecord) : UpstreamServerRecord :=
  { editServerOptions input record with
    enabled := input.enabled.getD record.enabled
    protocol := input.protocol.getD record.protocol
    address := input.address.getD record.address
    bindAddress := input.bindAddress.getD record.bindAddress }

namespace UpdateUpstreamServerInput

/-- The firewall mark that is given, as it is stored. -/
def mark (input : UpdateUpstreamServerInput) : Option (Option Int) :=
  input.fwmark.map fun value => value.map fun fwmark => (fwmark.toNat : Int)

/-- The record with the given fields. -/
def applied (input : UpdateUpstreamServerInput) (record : UpstreamServerRecord) :
    UpstreamServerRecord :=
  { input.requested record with
    fwmark := input.mark.getD record.fwmark
    sortOrder := input.sortOrder.getD record.sortOrder }

def check (lib : Libraries) (input : UpdateUpstreamServerInput) (edited : UpstreamServerRecord) :
    Validated Unit := do
  checkField validateUpstreamProtocol input.protocol
  checkField (validateUpstreamAddress lib edited.protocol) input.address
  validateUpstreamAddress lib edited.protocol edited.address
  checkField validateBindAddress input.bindAddress
  checkField parseFwmark input.fwmark
  checkField validateSortOrder input.sortOrder

/-- The credentials that are given. -/
def credentials (input : UpdateUpstreamServerInput) :
    Option (Option String × Option String × Option String) :=
  input.authentication.map fun given => (given.token, given.username, given.password)

structure Kept (first second : UpdateUpstreamServerInput) (record : UpstreamServerRecord) :
    Prop where
  enabled : DnsFilter.Kept first.enabled second.enabled record.enabled
  protocol : DnsFilter.Kept first.protocol second.protocol record.protocol
  address : DnsFilter.Kept first.address second.address record.address
  credentials : DnsFilter.Kept first.credentials second.credentials
    (record.authToken, record.authUsername, record.authPassword)
  maxHops : DnsFilter.Kept ((first.maxHops.map fun hops => (hops.toNat : Int)).map some)
    ((second.maxHops.map fun hops => (hops.toNat : Int)).map some) record.maxHops
  nameserverIpFamily : DnsFilter.Kept (first.nameserverIpFamily.map some)
    (second.nameserverIpFamily.map some) record.nameserverIpFamily
  rootHintsPath : DnsFilter.Kept (first.rootHintsPath.map some) (second.rootHintsPath.map some)
    record.rootHintsPath
  rootKeyPath : DnsFilter.Kept (first.rootKeyPath.map some) (second.rootKeyPath.map some)
    record.rootKeyPath
  dnssec : DnsFilter.Kept first.dnssec second.dnssec record.dnssec
  bindAddress : DnsFilter.Kept first.bindAddress second.bindAddress record.bindAddress
  fwmark : DnsFilter.Kept first.mark second.mark record.fwmark
  sortOrder : DnsFilter.Kept first.sortOrder second.sortOrder record.sortOrder

theorem elim_credentials (input : UpdateUpstreamServerInput) (record : UpstreamServerRecord) :
    (input.authentication.elim record.authToken (·.token),
        input.authentication.elim record.authUsername (·.username),
        input.authentication.elim record.authPassword (·.password)) =
      input.credentials.getD (record.authToken, record.authUsername, record.authPassword) := by
  unfold credentials
  cases input.authentication with
  | none => rfl
  | some given => rfl

theorem applied_of_kept {first second : UpdateUpstreamServerInput}
    {record : UpstreamServerRecord} (h : first.Kept second record) :
    second.applied (first.applied record) = second.applied record := by
  have hcredentials := elim_credentials second (first.applied record)
  have hfirst : ((first.applied record).authToken, (first.applied record).authUsername,
      (first.applied record).authPassword) = first.credentials.getD
        (record.authToken, record.authUsername, record.authPassword) :=
    elim_credentials first record
  rw [hfirst, h.credentials.getD, ← elim_credentials second record] at hcredentials
  simp only [Prod.mk.injEq] at hcredentials
  obtain ⟨htoken, husername, hpassword⟩ := hcredentials
  unfold applied requested editServerOptions at htoken husername hpassword ⊢
  simp only [h.enabled.getD, h.protocol.getD, h.address.getD, h.maxHops.or,
    h.nameserverIpFamily.or, h.rootHintsPath.or, h.rootKeyPath.or, h.dnssec.getD,
    h.bindAddress.getD, h.fwmark.getD, h.sortOrder.getD, htoken, husername, hpassword]

end UpdateUpstreamServerInput

theorem editServerAddress_eq (lib : Libraries) (input : UpdateUpstreamServerInput)
    (record : UpstreamServerRecord) :
    editServerAddress lib input record = do
      let protocol := input.protocol.getD record.protocol
      let address := input.address.getD record.address
      checkField validateUpstreamProtocol input.protocol
      checkField (validateUpstreamAddress lib protocol) input.address
      validateUpstreamAddress lib protocol address
      return { record with
        enabled := input.enabled.getD record.enabled, protocol := protocol, address := address } := by
  have hprotocol := @edit_check_eq _ _ _ input.protocol
    { record with enabled := input.enabled.getD record.enabled } validateUpstreamProtocol
    (fun protocol => { record with
      enabled := input.enabled.getD record.enabled, protocol := protocol }) record.protocol rfl
  have haddress := @edit_check_eq _ _ _ input.address
    { record with
      enabled := input.enabled.getD record.enabled
      protocol := input.protocol.getD record.protocol }
    (validateUpstreamAddress lib (input.protocol.getD record.protocol))
    (fun address => { record with
      enabled := input.enabled.getD record.enabled
      protocol := input.protocol.getD record.protocol
      address := address }) record.address rfl
  unfold editServerAddress
  dsimp only
  rw [hprotocol, bind_assoc]
  simp only [pure_bind]
  rw [haddress, bind_assoc]
  simp only [pure_bind]

theorem parseFwmark_eq {value : Option UInt32} {parsed : Option Int}
    (h : parseFwmark value = .ok parsed) :
    parsed = value.map fun fwmark => (fwmark.toNat : Int) := by
  cases value with
  | none => exact (Except.ok.inj h).symm
  | some fwmark =>
      simp only [parseFwmark, parseSingleFwmark] at h
      split at h
      · exact (Except.ok.inj h).symm
      · exact absurd h (by simp [Except.map])

theorem validateSortOrder_eq {sortOrder parsed : Int}
    (h : validateSortOrder sortOrder = .ok parsed) : parsed = sortOrder := by
  unfold validateSortOrder at h
  split at h
  · exact absurd h (by simp)
  · exact (Except.ok.inj h).symm

theorem editServerRouting_eq (input : UpdateUpstreamServerInput) (record : UpstreamServerRecord) :
    editServerRouting input record = do
      checkField validateBindAddress input.bindAddress
      checkField parseFwmark input.fwmark
      checkField validateSortOrder input.sortOrder
      return { record with
        bindAddress := input.bindAddress.getD record.bindAddress
        fwmark := input.mark.getD record.fwmark
        sortOrder := input.sortOrder.getD record.sortOrder } := by
  have hbind := @edit_check_eq _ _ _ input.bindAddress record validateBindAddress
    (fun bindAddress => { record with bindAddress := bindAddress }) record.bindAddress rfl
  have hmark := @edit_eq _ _ _ _ input.fwmark
    { record with bindAddress := input.bindAddress.getD record.bindAddress } parseFwmark
    (fun _ fwmark => { record with
      bindAddress := input.bindAddress.getD record.bindAddress, fwmark := fwmark })
    (fun fwmark => { record with
      bindAddress := input.bindAddress.getD record.bindAddress, fwmark := fwmark })
    (fun value => value.map fun fwmark => (fwmark.toNat : Int)) record.fwmark
    (fun value fwmark h => by rw [parseFwmark_eq h]) rfl
  have hsort := @edit_eq _ _ _ _ input.sortOrder
    { record with
      bindAddress := input.bindAddress.getD record.bindAddress
      fwmark := input.mark.getD record.fwmark } validateSortOrder
    (fun _ sortOrder => { record with
      bindAddress := input.bindAddress.getD record.bindAddress
      fwmark := input.mark.getD record.fwmark
      sortOrder := sortOrder })
    (fun sortOrder => { record with
      bindAddress := input.bindAddress.getD record.bindAddress
      fwmark := input.mark.getD record.fwmark
      sortOrder := sortOrder }) id record.sortOrder
    (fun sortOrder parsed h => by rw [validateSortOrder_eq h]; rfl) rfl
  have hvalue : (input.fwmark.map fun value => value.map fun fwmark => (fwmark.toNat : Int)) =
      input.mark := rfl
  rw [hvalue] at hmark
  rw [Option.map_id] at hsort
  unfold editServerRouting
  rw [hbind, bind_assoc]
  simp only [pure_bind]
  rw [hmark, bind_assoc]
  simp only [pure_bind]
  rw [hsort]
  rfl

theorem editUpstreamServer_eq (lib : Libraries) (input : UpdateUpstreamServerInput)
    (record : UpstreamServerRecord) :
    editUpstreamServer lib input record = do
      input.check lib (input.applied record)
      return input.applied record := by
  unfold editUpstreamServer
  rw [editServerAddress_eq]
  simp only [bind_assoc, pure_bind, editServerRouting_eq, UpdateUpstreamServerInput.check]
  rfl

/-! ## Resolver configuration -/

/-- The seconds of a cache TTL that passes its check. -/
def cacheTtlSecs (fieldName : String) (value : Option String) : Option Int :=
  (parseCacheTtlSecs value fieldName).toOption.getD none

theorem cacheTtlSecs_eq {fieldName : String} {value : Option String} {secs : Option Int}
    (h : parseCacheTtlSecs value fieldName = .ok secs) : secs = cacheTtlSecs fieldName value := by
  rw [cacheTtlSecs, h]
  rfl

namespace UpdateResolverConfigInput

def minTtl (input : UpdateResolverConfigInput) : Option (Option Int) :=
  input.dnsCacheMinTtl.map (cacheTtlSecs "dns_cache_min_ttl")

def maxTtl (input : UpdateResolverConfigInput) : Option (Option Int) :=
  input.dnsCacheMaxTtl.map (cacheTtlSecs "dns_cache_max_ttl")

/-- The record with the given fields. -/
def applied (input : UpdateResolverConfigInput) (record : ResolverConfigRecord) :
    ResolverConfigRecord where
  strategy := input.strategy.getD record.strategy
  bootstrapResolvers := input.bootstrapResolvers.getD record.bootstrapResolvers
  dnsCacheEnabled := input.dnsCacheEnabled.getD record.dnsCacheEnabled
  dnsCacheMinTtlSeconds := input.minTtl.getD record.dnsCacheMinTtlSeconds
  dnsCacheMaxTtlSeconds := input.maxTtl.getD record.dnsCacheMaxTtlSeconds

def check (input : UpdateResolverConfigInput) (edited : ResolverConfigRecord) :
    Validated Unit := do
  checkField validateUpstreamStrategy input.strategy
  checkField validateBootstrapResolvers input.bootstrapResolvers
  checkField (parseCacheTtlSecs · "dns_cache_min_ttl") input.dnsCacheMinTtl
  checkField (parseCacheTtlSecs · "dns_cache_max_ttl") input.dnsCacheMaxTtl
  validateResolverCacheBounds edited.dnsCacheMinTtlSeconds edited.dnsCacheMaxTtlSeconds

structure Kept (first second : UpdateResolverConfigInput) (record : ResolverConfigRecord) :
    Prop where
  strategy : DnsFilter.Kept first.strategy second.strategy record.strategy
  bootstrapResolvers : DnsFilter.Kept first.bootstrapResolvers second.bootstrapResolvers
    record.bootstrapResolvers
  dnsCacheEnabled : DnsFilter.Kept first.dnsCacheEnabled second.dnsCacheEnabled
    record.dnsCacheEnabled
  minTtl : DnsFilter.Kept first.minTtl second.minTtl record.dnsCacheMinTtlSeconds
  maxTtl : DnsFilter.Kept first.maxTtl second.maxTtl record.dnsCacheMaxTtlSeconds

theorem applied_of_kept {first second : UpdateResolverConfigInput} {record : ResolverConfigRecord}
    (h : first.Kept second record) :
    second.applied (first.applied record) = second.applied record := by
  simp only [applied, h.strategy.getD, h.bootstrapResolvers.getD, h.dnsCacheEnabled.getD,
    h.minTtl.getD, h.maxTtl.getD]

end UpdateResolverConfigInput

/-- An edit checks a cache TTL, then sets the seconds. -/
theorem edit_cacheTtl_eq (field : Option (Option String)) (fieldName : String)
    (record : ResolverConfigRecord) (set : Option Int → ResolverConfigRecord) (old : Option Int)
    (hold : set old = record) :
    (edit field record fun given => do
      let secs ← parseCacheTtlSecs given fieldName
      return set secs) = do
        checkField (parseCacheTtlSecs · fieldName) field
        return set ((field.map (cacheTtlSecs fieldName)).getD old) := by
  refine edit_eq set (cacheTtlSecs fieldName) old ?_ hold
  intro given secs h
  rw [cacheTtlSecs_eq h]

theorem editResolverConfig_eq (input : UpdateResolverConfigInput) (record : ResolverConfigRecord) :
    editResolverConfig input record = do
      input.check (input.applied record)
      return input.applied record := by
  have hstrategy := @edit_check_eq _ _ _ input.strategy record validateUpstreamStrategy
    (fun strategy => { record with strategy := strategy }) record.strategy rfl
  have hbootstrap := @edit_check_eq _ _ _ input.bootstrapResolvers
    { record with strategy := input.strategy.getD record.strategy } validateBootstrapResolvers
    (fun bootstrap => { record with
      strategy := input.strategy.getD record.strategy, bootstrapResolvers := bootstrap })
    record.bootstrapResolvers rfl
  have hmin := edit_cacheTtl_eq input.dnsCacheMinTtl "dns_cache_min_ttl" _
    (fun secs => { record with
      strategy := input.strategy.getD record.strategy
      bootstrapResolvers := input.bootstrapResolvers.getD record.bootstrapResolvers
      dnsCacheEnabled := input.dnsCacheEnabled.getD record.dnsCacheEnabled
      dnsCacheMinTtlSeconds := secs }) record.dnsCacheMinTtlSeconds rfl
  have hmax := edit_cacheTtl_eq input.dnsCacheMaxTtl "dns_cache_max_ttl" _
    (fun secs => { input.applied record with dnsCacheMaxTtlSeconds := secs })
    record.dnsCacheMaxTtlSeconds rfl
  unfold editResolverConfig
  dsimp only
  rw [hstrategy, bind_assoc]
  simp only [pure_bind]
  rw [hbootstrap, bind_assoc]
  simp only [pure_bind]
  rw [hmin, bind_assoc]
  simp only [pure_bind]
  change (checkField validateUpstreamStrategy input.strategy >>= fun _ =>
    checkField validateBootstrapResolvers input.bootstrapResolvers >>= fun _ =>
      checkField (parseCacheTtlSecs · "dns_cache_min_ttl") input.dnsCacheMinTtl >>= fun _ =>
        (edit input.dnsCacheMaxTtl
          { input.applied record with dnsCacheMaxTtlSeconds := record.dnsCacheMaxTtlSeconds }
          fun given => parseCacheTtlSecs given "dns_cache_max_ttl" >>= fun secs =>
            pure { input.applied record with dnsCacheMaxTtlSeconds := secs }) >>= fun record =>
              validateResolverCacheBounds record.dnsCacheMinTtlSeconds
                record.dnsCacheMaxTtlSeconds >>= fun _ => pure record) = _
  rw [hmax, UpdateResolverConfigInput.check]
  simp only [bind_assoc, pure_bind]
  rfl

/-! ## Zones -/

namespace UpdateZoneInput

/-- The row with the given fields. -/
def applied (input : UpdateZoneInput) (row : ZoneRow) : ZoneRow :=
  { row with
    enabled := input.enabled.getD row.enabled
    bypassFilter := input.bypassFilter.getD row.bypassFilter
    fallbackToDefaultResolvers :=
      input.fallbackToDefaultResolvers.getD row.fallbackToDefaultResolvers
    strategy := (input.strategy.map some).getD row.strategy }

def Kept (first second : UpdateZoneInput) (row : ZoneRow) : Prop :=
  DnsFilter.Kept first.enabled second.enabled row.enabled ∧
    DnsFilter.Kept first.bypassFilter second.bypassFilter row.bypassFilter ∧
    DnsFilter.Kept first.fallbackToDefaultResolvers second.fallbackToDefaultResolvers
      row.fallbackToDefaultResolvers ∧
    DnsFilter.Kept (first.strategy.map some) (second.strategy.map some) row.strategy

def Repeated (first second : UpdateZoneInput) (row : ZoneRow) : Prop :=
  DnsFilter.Repeated first.enabled second.enabled row.enabled ∧
    DnsFilter.Repeated first.bypassFilter second.bypassFilter row.bypassFilter ∧
    DnsFilter.Repeated first.fallbackToDefaultResolvers second.fallbackToDefaultResolvers
      row.fallbackToDefaultResolvers ∧
    DnsFilter.Repeated (first.strategy.map some) (second.strategy.map some) row.strategy

def Agree (first second : UpdateZoneInput) : Prop :=
  DnsFilter.Agree first.enabled second.enabled ∧
    DnsFilter.Agree first.bypassFilter second.bypassFilter ∧
    DnsFilter.Agree first.fallbackToDefaultResolvers second.fallbackToDefaultResolvers ∧
    DnsFilter.Agree (first.strategy.map some) (second.strategy.map some)

theorem applied_of_kept {first second : UpdateZoneInput} {row : ZoneRow}
    (h : first.Kept second row) : second.applied (first.applied row) = second.applied row := by
  obtain ⟨henabled, hbypass, hfallback, hstrategy⟩ := h
  simp only [applied, henabled.getD, hbypass.getD, hfallback.getD, hstrategy.getD]

theorem applied_of_repeated {first second : UpdateZoneInput} {row : ZoneRow}
    (h : first.Repeated second row) :
    second.applied (first.applied row) = first.applied row := by
  obtain ⟨henabled, hbypass, hfallback, hstrategy⟩ := h
  simp only [applied, henabled.getD, hbypass.getD, hfallback.getD, hstrategy.getD]

theorem applied_of_agree {first second : UpdateZoneInput} (row : ZoneRow)
    (h : first.Agree second) :
    first.applied (second.applied row) = second.applied (first.applied row) := by
  obtain ⟨henabled, hbypass, hfallback, hstrategy⟩ := h
  simp only [applied, henabled.getD, hbypass.getD, hfallback.getD, hstrategy.getD]

end UpdateZoneInput

theorem toZoneRow_editZone (input : UpdateZoneInput) (record : ZoneRecord) :
    (editZone input record).toZoneRow = input.applied record.toZoneRow := by
  simp [editZone, UpdateZoneInput.applied, or_eq_getD_map]

end DnsFilter
