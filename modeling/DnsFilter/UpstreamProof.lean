import DnsFilter.BootstrapProof
import DnsFilter.EditProof
import DnsFilter.Lib.Run

/-!
# Does the upstream configuration stay buildable?

What the management API accepts is stored, and the next reload or start builds the upstream
resolver from what is stored. The two sides check different things: the API checks the protocol,
the URL of a DoH server and a server's own bind address; the builder also needs addresses that fit
the other protocols, complete credentials, a bootstrap list for DoT and DoH, a usable global bind
address, and at least one enabled server.

* `upstreamBuilds_iff` — what the builder asks of the stored tables.
* `upstreamUsable_step` — one call, by kind of call.
* `upstream_stays_buildable_iff` — any sequence of calls.
-/

namespace DnsFilter

open Table Net Text

/-- The calls on upstream servers and on the resolver configuration. -/
inductive UpstreamMutation
  | addServer (newUuid : Nat → String) (input : CreateUpstreamServerInput)
  | updateServer (id : String) (input : UpdateUpstreamServerInput)
  | deleteServer (id : String)
  | updateResolverConfig (newUuid : Nat → String) (input : UpdateResolverConfigInput)

def UpstreamMutation.toMutation : UpstreamMutation → Mutation
  | .addServer newUuid input => .addUpstreamServer newUuid input
  | .updateServer id input => .updateUpstreamServer id input
  | .deleteServer id => .deleteUpstreamServer id
  | .updateResolverConfig newUuid input => .updateResolverConfig newUuid input

/-- A call that returns `Ok`. -/
def UpstreamMutation.step (lib : Libraries) (db : Database) (m : UpstreamMutation) :
    Option Database :=
  Mutation.step lib db m.toMutation

/-! ## What a successful call did -/

section Calls

variable {lib : Libraries} {db db' : Database}

theorem step_addServer {newUuid : Nat → String} {input : CreateUpstreamServerInput}
    (h : UpstreamMutation.step lib db (.addServer newUuid input) = some db') :
    ∃ fwmark sortOrder, validateUpstreamServerInput lib input = .ok fwmark ∧
      db' = { db with upstreamServers :=
        db.upstreamServers ++ [newUpstreamServer newUuid input fwmark sortOrder] } := by
  obtain ⟨_, h⟩ := run_discard_eq_ok.1 (Mutation.step_eq_some.1 h)
  obtain ⟨fwmark, hvalid, h⟩ := Op.run_ofExcept_bind_eq_ok.1 h
  obtain ⟨sortOrder, db₁, hsort, hcreate⟩ := Op.run_bind_eq_ok.1 h
  obtain rfl : db₁ = db := by
    have hread := (readOnly_newSortOrder input.sortOrder).run_snd db
    rwa [hsort] at hread
  have hinsert := statement_eq_ok.1 (run_repo_finish_eq_ok.1 hcreate).1
  obtain ⟨rows, hrows, rfl⟩ := Option.map_eq_some_iff.1 hinsert
  obtain ⟨-, rfl⟩ := insertRow_eq_some.1 hrows
  exact ⟨fwmark, sortOrder, hvalid, rfl⟩

theorem step_updateServer {id : String} {input : UpdateUpstreamServerInput}
    (h : UpstreamMutation.step lib db (.updateServer id input) = some db') :
    ∃ record edited, UpstreamConfig.getServerById id db = some record ∧
      editUpstreamServer lib input record = .ok edited ∧
        db' = { db with upstreamServers := updateRows (·.id) edited db.upstreamServers } := by
  obtain ⟨_, h⟩ := run_discard_eq_ok.1 (Mutation.step_eq_some.1 h)
  obtain ⟨record, hget, h⟩ := run_fetch_bind_eq_ok.1 h
  obtain ⟨edited, hedit, h⟩ := Op.run_ofExcept_bind_eq_ok.1 h
  have hupdate := statement_eq_ok.1 (run_repo_finish_eq_ok.1 h).1
  exact ⟨record, edited, hget, hedit, (Option.some.inj hupdate).symm⟩

theorem step_deleteServer {id : String}
    (h : UpstreamMutation.step lib db (.deleteServer id) = some db') :
    db' = { db with upstreamServers := deleteRows (·.id) id db.upstreamServers } := by
  obtain ⟨_, h⟩ := run_discard_eq_ok.1 (Mutation.step_eq_some.1 h)
  obtain ⟨record, hget, h⟩ := run_fetch_bind_eq_ok.1 h
  have hdelete := statement_eq_ok.1 (run_repo_finish_eq_ok.1 h).1
  exact (Option.some.inj hdelete).symm

theorem step_updateResolverConfig {newUuid : Nat → String} {input : UpdateResolverConfigInput}
    (h : UpstreamMutation.step lib db (.updateResolverConfig newUuid input) = some db') :
    ∃ edited, editResolverConfig input (UpstreamConfig.getResolverConfig db) = .ok edited ∧
      UpstreamConfig.updateResolverConfig newUuid edited db = (.ok (), db') := by
  obtain ⟨_, h⟩ := run_discard_eq_ok.1 (Mutation.step_eq_some.1 h)
  obtain ⟨edited, hedit, h⟩ := Op.run_ofExcept_bind_eq_ok.1 h
  exact ⟨edited, hedit, (run_repo_finish_eq_ok.1 h).1⟩

end Calls

/-! ## When the upstream resolver can be built -/

/-- The resolver that reload and startup build from the database. -/
def UpstreamBuilds (lib : Libraries) (config : DnsFilterConfig) (db : Database) : Prop :=
  Succeeds (buildUpstreamResolver lib (applyDbConfig config (.ofDatabase db)))

/-- A resolver can be built for the server: its bind address, its own or the global one, is an IP
address; its address and its credentials fit its protocol; and there is a bootstrap list if the
protocol needs one. -/
structure UpstreamServerRecord.Usable (lib : Libraries) (outbound : Option OutboundConfig)
    (bootstrap : List String) (server : UpstreamServerRecord) : Prop where
  bindAddress : ∀ text ∈ server.bindAddress.or (outbound.bind (·.bindAddress)),
    (parseIpAddr text).isSome
  fields : server.toConfig.fields.Usable lib
  bootstrap : UsesBootstrap server.protocol → BootstrapUsable bootstrap

theorem succeeds_parseBindAddress {outbound : Option OutboundConfig} {server : UpstreamServer} :
    Succeeds (parseBindAddress outbound server) ↔
      ∀ text ∈ server.bindAddress.or (outbound.bind (·.bindAddress)),
        (parseIpAddr text).isSome := by
  rw [parseBindAddress, effectiveBindAddress]
  cases server.bindAddress.or (outbound.bind (·.bindAddress)) with
  | none => simp
  | some text => cases hip : parseIpAddr text <;> simp [hip]

theorem succeeds_buildSingleUpstreamResolver {lib : Libraries} {bootstrap : List SocketAddr}
    {outbound : Option OutboundConfig} {server : UpstreamServer} :
    Succeeds (buildSingleUpstreamResolver lib bootstrap outbound server) ↔
      Succeeds (parseBindAddress outbound server) ∧ server.fields.Usable lib := by
  rw [buildSingleUpstreamResolver, succeeds_bind]
  constructor
  · rintro ⟨bindAddress, hbind, h⟩
    obtain ⟨client, hclient, -⟩ := succeeds_bind.1 h
    exact ⟨⟨bindAddress, hbind⟩, succeeds_buildClient.1 ⟨client, hclient⟩⟩
  · rintro ⟨⟨bindAddress, hbind⟩, husable⟩
    obtain ⟨client, hclient⟩ := succeeds_buildClient.2 husable
    exact ⟨bindAddress, hbind, succeeds_bind.2 ⟨client, hclient, succeeds_pure _⟩⟩

theorem succeeds_buildUpstreamResolverGroup {lib : Libraries} {strategy : String}
    {bootstrapResolvers : List String} {servers : List UpstreamServer}
    {outbound : Option OutboundConfig} {settings : ResolverCacheSettings} :
    Succeeds (buildUpstreamResolverGroup lib strategy bootstrapResolvers servers outbound
        settings) ↔
      Succeeds (groupStrategy strategy) ∧ (∃ server ∈ servers, server.enabled) ∧
        ∀ server ∈ servers, server.enabled → Succeeds (parseBindAddress outbound server) ∧
          server.fields.Usable lib ∧
            (UsesBootstrap server.protocol → BootstrapUsable bootstrapResolvers) := by
  have hbuild (bootstrap : List SocketAddr) (server : UpstreamServer) :
      Succeeds (buildSingleUpstreamResolver lib bootstrap outbound server) ↔
        Succeeds (parseBindAddress outbound server) ∧ server.fields.Usable lib :=
    succeeds_buildSingleUpstreamResolver
  have hgroup : Succeeds (buildUpstreamResolverGroup lib strategy bootstrapResolvers servers
      outbound settings) ↔ _ := succeeds_group hbuild
  have hsome : servers.filter (·.enabled) ≠ [] ↔ ∃ server ∈ servers, server.enabled := by
    simp [List.filter_eq_nil_iff]
  rw [hgroup, hsome]
  simp only [List.mem_filter, and_imp, and_assoc]

/-- What the builder asks of the stored tables. -/
structure UpstreamUsable (lib : Libraries) (config : DnsFilterConfig) (db : Database) : Prop where
  bounds : CacheBoundsOk db.resolverConfig.dnsCacheMinTtlSeconds
    db.resolverConfig.dnsCacheMaxTtlSeconds
  strategy : Succeeds (groupStrategy db.resolverConfig.strategy)
  some_enabled : ∃ server ∈ db.upstreamServers, server.enabled
  servers : ∀ server ∈ db.upstreamServers, server.enabled →
    server.Usable lib config.outbound (db.bootstrapResolvers.map (·.address))

theorem upstreamBuilds_iff {lib : Libraries} {config : DnsFilterConfig} {db : Database} :
    UpstreamBuilds lib config db ↔ UpstreamUsable lib config db := by
  rw [UpstreamBuilds, buildUpstreamResolver, succeeds_bind]
  simp only [succeeds_buildUpstreamResolverGroup, exists_and_right]
  rw [show (∃ settings, buildResolverCacheSettings (applyDbConfig config (.ofDatabase db)) =
    .ok settings) ↔ _ from succeeds_buildResolverCacheSettings]
  have hmem (server : UpstreamServer) :
      server ∈ (applyDbConfig config (.ofDatabase db)).resolvers.servers ↔
        ∃ record ∈ db.upstreamServers, record.toConfig = server := by
    simp only [applyDbConfig, OperationalTables.ofDatabase, List.mem_map,
      UpstreamConfig.getAllServers, mem_orderBySortOrder]
  have husable (record : UpstreamServerRecord) :
      (Succeeds (parseBindAddress config.outbound record.toConfig) ∧
        record.toConfig.fields.Usable lib ∧ (UsesBootstrap record.toConfig.protocol →
          BootstrapUsable (UpstreamConfig.getResolverConfig db).bootstrapResolvers)) ↔
      record.Usable lib config.outbound (db.bootstrapResolvers.map (·.address)) := by
    rw [succeeds_parseBindAddress, bootstrapUsable_getResolverConfig]
    exact ⟨fun h => ⟨h.1, h.2.1, h.2.2⟩, fun h => ⟨h.1, h.2, h.3⟩⟩
  constructor
  · rintro ⟨hbounds, hstrategy, ⟨server, hserver, hen⟩, hall⟩
    obtain ⟨record, hrecord, rfl⟩ := (hmem server).1 hserver
    exact ⟨hbounds, hstrategy, ⟨record, hrecord, hen⟩, fun record hrecord hen =>
      (husable record).1 (hall record.toConfig ((hmem _).2 ⟨record, hrecord, rfl⟩) hen)⟩
  · rintro ⟨hbounds, hstrategy, ⟨record, hrecord, hen⟩, hall⟩
    refine ⟨hbounds, hstrategy, ⟨record.toConfig, (hmem _).2 ⟨record, hrecord, rfl⟩, hen⟩,
      fun server hserver hen => ?_⟩
    obtain ⟨record, hrecord, rfl⟩ := (hmem server).1 hserver
    exact (husable record).2 (hall record hrecord hen)

/-! ## Edits of a server -/

/-- An update that passes validation writes the record it asks for. -/
theorem editUpstreamServer_eq_ok {lib : Libraries} {input : UpdateUpstreamServerInput}
    {record edited : UpstreamServerRecord} (h : editUpstreamServer lib input record = .ok edited) :
    ∃ fwmark sortOrder, edited =
      { input.requested record with fwmark := fwmark, sortOrder := sortOrder } := by
  rw [editUpstreamServer_eq] at h
  exact ⟨_, _, eq_of_check_pure _ h⟩

/-! ## Edits of the resolver configuration -/

theorem parseCacheTtlSecs_eq_ok {value : Option String} {fieldName : String} {secs : Option Int}
    (h : parseCacheTtlSecs value fieldName = .ok secs) : CacheBound secs := by
  intro n hn
  rw [Option.mem_def.1 hn] at h
  cases value with
  | none => exact absurd h (by simp [parseCacheTtlSecs])
  | some value =>
      simp only [parseCacheTtlSecs] at h
      split at h
      · exact absurd h (by simp)
      · split at h
        · exact absurd h (by simp)
        · split at h
          · rename_i secs _ hlt
            have heq : (secs : Int) = n := by simpa using h
            omega
          · exact absurd h (by simp)

theorem validateResolverCacheBounds_eq_ok {minTtl maxTtl : Option Int}
    (h : validateResolverCacheBounds minTtl maxTtl = .ok ()) :
    ∀ a, minTtl = some a → ∀ b, maxTtl = some b → a ≤ b := by
  rintro a rfl b rfl
  simpa using require_eq_ok.1 h

theorem validateBootstrapResolvers_eq_ok {values : List String}
    (h : validateBootstrapResolvers values = .ok ()) : BootstrapUsable values := by
  obtain ⟨_, hne, h⟩ := bind_eq_ok.1 h
  refine ⟨List.exists_mem_of_ne_nil values (by simpa using require_eq_ok.1 hne),
    fun value hvalue => ?_⟩
  simpa [BootstrapAddress] using require_eq_ok.1 (forM_eq_ok.1 h value hvalue)

theorem validateUpstreamStrategy_eq_ok {strategy : String}
    (h : validateUpstreamStrategy strategy = .ok ()) : Succeeds (groupStrategy strategy) := by
  rw [succeeds_groupStrategy]
  simpa using require_eq_ok.1 h

/-- What an edit of the resolver configuration that passes validation keeps. -/
structure ResolverConfigEdited (record edited : ResolverConfigRecord) : Prop where
  strategy : edited.strategy = record.strategy ∨ Succeeds (groupStrategy edited.strategy)
  bootstrap : edited.bootstrapResolvers = record.bootstrapResolvers ∨
    BootstrapUsable edited.bootstrapResolvers
  minTtl : edited.dnsCacheMinTtlSeconds = record.dnsCacheMinTtlSeconds ∨
    CacheBound edited.dnsCacheMinTtlSeconds
  maxTtl : edited.dnsCacheMaxTtlSeconds = record.dnsCacheMaxTtlSeconds ∨
    CacheBound edited.dnsCacheMaxTtlSeconds
  le : ∀ a, edited.dnsCacheMinTtlSeconds = some a →
    ∀ b, edited.dnsCacheMaxTtlSeconds = some b → a ≤ b

theorem editResolverConfig_eq_ok {input : UpdateResolverConfigInput}
    {record edited : ResolverConfigRecord} (h : editResolverConfig input record = .ok edited) :
    ResolverConfigEdited record edited := by
  rw [editResolverConfig_eq] at h
  obtain ⟨_, hcheck, h⟩ := bind_eq_ok.1 h
  obtain rfl := Except.ok.inj h
  obtain ⟨_, hstrategy, hcheck⟩ := bind_eq_ok.1 hcheck
  obtain ⟨_, hbootstrap, hcheck⟩ := bind_eq_ok.1 hcheck
  obtain ⟨_, hmin, hcheck⟩ := bind_eq_ok.1 hcheck
  obtain ⟨_, hmax, hle⟩ := bind_eq_ok.1 hcheck
  have hsecs {fieldName : String} (given : Option String) (secs : Option Int)
      (h : parseCacheTtlSecs given fieldName = .ok secs) :
      CacheBound (cacheTtlSecs fieldName given) :=
    cacheTtlSecs_eq h ▸ parseCacheTtlSecs_eq_ok h
  have hgiven := @getD_of_checkField _ _ _ _ _ (fun given => Succeeds (groupStrategy given)) id
    record.strategy hstrategy fun _ _ h => validateUpstreamStrategy_eq_ok h
  have hlist := @getD_of_checkField _ _ _ _ _ BootstrapUsable id record.bootstrapResolvers
    hbootstrap fun _ _ h => validateBootstrapResolvers_eq_ok h
  rw [Option.map_id] at hgiven hlist
  exact {
    strategy := hgiven
    bootstrap := hlist
    minTtl := getD_of_checkField CacheBound _ hmin hsecs
    maxTtl := getD_of_checkField CacheBound _ hmax hsecs
    le := validateResolverCacheBounds_eq_ok hle }

/-! ## Which calls keep the configuration buildable -/

/-- An enabled server other than the given one. -/
def OtherEnabled (db : Database) (id : String) : Prop :=
  ∃ server ∈ db.upstreamServers, server.id ≠ id ∧ server.enabled

/-- The condition on a call: an enabled server that it writes can be built, and it does not take
away the last enabled server. -/
def UpstreamMutation.Fits (lib : Libraries) (config : DnsFilterConfig) (db : Database) :
    UpstreamMutation → Prop
  | .addServer newUuid input =>
      (newUpstreamServer newUuid input none 0).enabled →
        (newUpstreamServer newUuid input none 0).Usable lib config.outbound
          (db.bootstrapResolvers.map (·.address))
  | .updateServer id input =>
      ∀ record ∈ db.upstreamServers, record.id = id →
        if (input.requested record).enabled then
          (input.requested record).Usable lib config.outbound
            (db.bootstrapResolvers.map (·.address))
        else OtherEnabled db id
  | .deleteServer id => OtherEnabled db id
  | .updateResolverConfig _ _ => True

section Steps

variable {lib : Libraries} {config : DnsFilterConfig} {db db' : Database}

theorem UpstreamServerRecord.Usable.congr {outbound : Option OutboundConfig}
    {bootstrap : List String} {a b : UpstreamServerRecord} (ha : a.Usable lib outbound bootstrap)
    (hfields : a.toConfig.fields = b.toConfig.fields) (hbind : a.bindAddress = b.bindAddress) :
    b.Usable lib outbound bootstrap where
  bindAddress := hbind ▸ ha.bindAddress
  fields := hfields ▸ ha.fields
  bootstrap := by
    have hprotocol : a.protocol = b.protocol := congrArg ServerFields.protocol hfields
    exact hprotocol ▸ ha.bootstrap

/-- Only the servers change. -/
theorem upstreamUsable_of_servers (h : UpstreamUsable lib config db)
    {servers : List UpstreamServerRecord} :
    UpstreamUsable lib config { db with upstreamServers := servers } ↔
      (∃ server ∈ servers, server.enabled) ∧ ∀ server ∈ servers, server.enabled →
        server.Usable lib config.outbound (db.bootstrapResolvers.map (·.address)) :=
  ⟨fun h => ⟨h.some_enabled, h.servers⟩, fun h' => ⟨h.bounds, h.strategy, h'.1, h'.2⟩⟩

theorem upstreamUsable_addServer (h : UpstreamUsable lib config db) {newUuid : Nat → String}
    {input : CreateUpstreamServerInput}
    (hstep : UpstreamMutation.step lib db (.addServer newUuid input) = some db') :
    UpstreamUsable lib config db' ↔
      (UpstreamMutation.addServer newUuid input).Fits lib config db := by
  obtain ⟨fwmark, sortOrder, -, rfl⟩ := step_addServer hstep
  rw [upstreamUsable_of_servers h]
  constructor
  · rintro ⟨-, hall⟩ hen
    exact (hall _ (List.mem_append_right _ (List.mem_singleton_self _)) hen).congr rfl rfl
  · intro hfits
    obtain ⟨server, hserver, hen⟩ := h.some_enabled
    refine ⟨⟨server, List.mem_append_left _ hserver, hen⟩, fun server hserver hen => ?_⟩
    rcases List.mem_append.1 hserver with hserver | hserver
    · exact h.servers server hserver hen
    · obtain rfl := List.mem_singleton.1 hserver
      exact (hfits hen).congr rfl rfl

theorem upstreamUsable_updateServer (hvalid : db.Valid) (h : UpstreamUsable lib config db)
    {id : String} {input : UpdateUpstreamServerInput}
    (hstep : UpstreamMutation.step lib db (.updateServer id input) = some db') :
    UpstreamUsable lib config db' ↔
      (UpstreamMutation.updateServer id input).Fits lib config db := by
  obtain ⟨record, edited, hget, hedit, rfl⟩ := step_updateServer hstep
  obtain ⟨fwmark, sortOrder, rfl⟩ := editUpstreamServer_eq_ok hedit
  have hrecord : record ∈ db.upstreamServers := List.mem_of_find?_eq_some hget
  obtain rfl : record.id = id := by simpa using List.find?_some hget
  have honly : (UpstreamMutation.updateServer record.id input).Fits lib config db ↔
      if (input.requested record).enabled then
        (input.requested record).Usable lib config.outbound (db.bootstrapResolvers.map (·.address))
      else OtherEnabled db record.id := by
    refine ⟨fun hfits => hfits record hrecord rfl, fun hfits r hr hid => ?_⟩
    rw [hvalid.serverId.eq_of_key hr hrecord hid]
    exact hfits
  rw [honly, upstreamUsable_of_servers h]
  simp only [mem_updateRows]
  by_cases hen : (input.requested record).enabled
  · rw [if_pos hen]
    constructor
    · rintro ⟨-, hall⟩
      exact (hall _ (.inl ⟨rfl, record, hrecord, rfl⟩) hen).congr rfl rfl
    · intro husable
      refine ⟨⟨_, .inl ⟨rfl, record, hrecord, rfl⟩, hen⟩, ?_⟩
      rintro server (⟨rfl, -⟩ | ⟨hserver, -⟩) hserverEn
      · exact husable.congr rfl rfl
      · exact h.servers server hserver hserverEn
  · rw [if_neg hen]
    constructor
    · rintro ⟨⟨server, ⟨rfl, -⟩ | ⟨hserver, hne⟩, hserverEn⟩, -⟩
      · exact absurd hserverEn hen
      · exact ⟨server, hserver, hne, hserverEn⟩
    · rintro ⟨server, hserver, hne, hserverEn⟩
      refine ⟨⟨server, .inr ⟨hserver, hne⟩, hserverEn⟩, ?_⟩
      rintro server (⟨rfl, -⟩ | ⟨hserver, -⟩) hserverEn
      · exact absurd hserverEn hen
      · exact h.servers server hserver hserverEn

theorem upstreamUsable_deleteServer (h : UpstreamUsable lib config db) {id : String}
    (hstep : UpstreamMutation.step lib db (.deleteServer id) = some db') :
    UpstreamUsable lib config db' ↔ (UpstreamMutation.deleteServer id).Fits lib config db := by
  rw [step_deleteServer hstep, upstreamUsable_of_servers h]
  simp only [mem_deleteRows]
  constructor
  · rintro ⟨⟨server, ⟨hserver, hne⟩, hen⟩, -⟩
    exact ⟨server, hserver, hne, hen⟩
  · rintro ⟨server, hserver, hne, hen⟩
    exact ⟨⟨server, ⟨hserver, hne⟩, hen⟩, fun server hserver => h.servers server hserver.1⟩

/-- An update of the resolver configuration cannot break the servers that were usable. -/
theorem upstreamUsable_updateResolverConfig (h : UpstreamUsable lib config db)
    {newUuid : Nat → String} {input : UpdateResolverConfigInput}
    (hstep : UpstreamMutation.step lib db (.updateResolverConfig newUuid input) = some db') :
    UpstreamUsable lib config db' := by
  obtain ⟨edited, hedit, hupdate⟩ := step_updateResolverConfig hstep
  have hedited := editResolverConfig_eq_ok hedit
  rw [UpstreamConfig.updateResolverConfig] at hupdate
  obtain ⟨hok, rfl⟩ := Prod.mk.inj hupdate
  have haddresses := map_insertEach_of_ok (f := BootstrapResolverRow.address) (g := id)
    (fun _ _ => rfl) (Prod.ext hok rfl)
  rw [List.map_nil, List.nil_append, List.map_id] at haddresses
  constructor
  · exact ⟨hedited.minTtl.elim (fun heq => heq ▸ h.bounds.minBound) id,
      hedited.maxTtl.elim (fun heq => heq ▸ h.bounds.maxBound) id, hedited.le⟩
  · exact hedited.strategy.elim (fun heq => heq ▸ h.strategy) id
  · exact h.some_enabled
  · intro server hserver hen
    have husable := h.servers server hserver hen
    refine ⟨husable.bindAddress, husable.fields, fun huses => ?_⟩
    rw [haddresses]
    rcases hedited.bootstrap with heq | hbootstrap
    · rw [heq]
      exact bootstrapUsable_getResolverConfig.2 (husable.bootstrap huses)
    · exact hbootstrap

/-- **One call.** -/
theorem upstreamUsable_step (hvalid : db.Valid) (h : UpstreamUsable lib config db)
    {m : UpstreamMutation} (hstep : UpstreamMutation.step lib db m = some db') :
    UpstreamUsable lib config db' ↔ m.Fits lib config db := by
  cases m with
  | addServer newUuid input => exact upstreamUsable_addServer h hstep
  | updateServer id input => exact upstreamUsable_updateServer hvalid h hstep
  | deleteServer id => exact upstreamUsable_deleteServer h hstep
  | updateResolverConfig newUuid input =>
      exact iff_of_true (upstreamUsable_updateResolverConfig h hstep) trivial

end Steps

/-- **Along any sequence of successful calls the upstream resolver stays buildable exactly if every
call meets the condition.** -/
theorem upstream_stays_buildable_iff (lib : Libraries) (config : DnsFilterConfig)
    {db db' : Database} {ms : List UpstreamMutation} (hvalid : db.Valid)
    (hbuilds : UpstreamBuilds lib config db)
    (hrun : run (UpstreamMutation.step lib) db ms = some db') :
    (∀ pre, pre <+: ms → ∀ u, run (UpstreamMutation.step lib) db pre = some u →
      UpstreamBuilds lib config u) ↔
      AllSteps (UpstreamMutation.step lib) (fun s m => m.Fits lib config s) db ms := by
  have hinv : ∀ s m s', s.Valid → UpstreamMutation.step lib s m = some s' → s'.Valid :=
    fun _ _ _ h hstep => Mutation.step_valid h hstep
  exact forall_reached_iff_allSteps hinv
    (fun _ _ _ hs hP hstep => upstreamBuilds_iff.trans
      (upstreamUsable_step hs (upstreamBuilds_iff.1 hP) hstep))
    hrun hvalid hbuilds

/-! ### Concrete calls -/

instance (lib : Libraries) (config : DnsFilterConfig) (db : Database) :
    Decidable (UpstreamBuilds lib config db) :=
  inferInstanceAs (Decidable (Succeeds _))

/-- A database with a single upstream server. -/
def oneUpstream : Database where
  upstreamServers := [newUpstreamServer (fun _ => "first")
    { protocol := "dns", address := "1.1.1.1:53" } none 0]

theorem oneUpstream_valid : oneUpstream.Valid := by
  constructor <;> simp [Keyed, oneUpstream]

/-- Replace the server by another one. -/
def replaceUpstream : List UpstreamMutation :=
  [.addServer (fun _ => "second") { protocol := "dns", address := "9.9.9.9:53" },
    .deleteServer "first"]

theorem upstream_stays_buildable_replaceUpstream :
    ∃ db', run (UpstreamMutation.step plainLibraries) oneUpstream replaceUpstream =
        some db' ∧
      ∀ pre, pre <+: replaceUpstream → ∀ u,
        run (UpstreamMutation.step plainLibraries) oneUpstream pre = some u →
          UpstreamBuilds plainLibraries minimalConfig u := by
  have hany : (run (UpstreamMutation.step plainLibraries) oneUpstream
      replaceUpstream).any (fun _ => true) = true := by decide +kernel
  obtain ⟨db', hrun, -⟩ := exists_run_of_any hany
  have hbuilds : UpstreamBuilds plainLibraries minimalConfig oneUpstream := by
    decide +kernel
  refine ⟨db', hrun, (upstream_stays_buildable_iff plainLibraries minimalConfig
    oneUpstream_valid hbuilds hrun).2 ⟨fun _ => ?_, fun db₁ h₁ => ⟨?_, fun _ _ => trivial⟩⟩⟩
  · exact ⟨fun text htext => absurd htext (by simp [newUpstreamServer, minimalConfig]),
      .inl ⟨rfl, by decide +kernel⟩, fun huses => huses.elim (absurd · (by decide))
        (absurd · (by decide))⟩
  · obtain ⟨fwmark, sortOrder, -, rfl⟩ := step_addServer h₁
    exact ⟨_, List.mem_append_right _ (List.mem_singleton_self _), by simp [newUpstreamServer], rfl⟩

/-- The API accepts a DNS server with a host name for an address; the builder does not. -/
theorem accepted_server_not_buildable :
    oneUpstream.Valid ∧ UpstreamBuilds plainLibraries minimalConfig oneUpstream ∧
      ∃ db', run (UpstreamMutation.step plainLibraries) oneUpstream
          [.addServer (fun _ => "second") { protocol := "dns", address := "dns.example" }] =
            some db' ∧
        ¬ UpstreamBuilds plainLibraries minimalConfig db' := by
  refine ⟨oneUpstream_valid, by decide +kernel, ?_⟩
  have hany : (run (UpstreamMutation.step plainLibraries) oneUpstream
      [.addServer (fun _ => "second") { protocol := "dns", address := "dns.example" }]).any
        (fun db' => !decide (UpstreamBuilds plainLibraries minimalConfig db')) = true := by
    decide +kernel
  obtain ⟨db', hrun, hnot⟩ := exists_run_of_any hany
  exact ⟨db', hrun, by simpa using hnot⟩

end DnsFilter
