import DnsFilter.Bootstrap
import DnsFilter.Lib.Op

/-!
# Management operations

The mutations of `ServerOperations` (`server_operations.rs`) on the operational configuration: add,
update and delete of filter lists, upstream servers, zones and zone discovery entries, and the
update of the resolver configuration. Each of them validates its input, makes a few repository
calls and finally triggers a reload.

The validators and the edits of a record are pure; an operation (`Op`) is what strings the
repository calls together. `Mutation` collects the thirteen operations with their inputs.
-/

namespace DnsFilter

open Text Net Numeral

inductive ServerOperationError
  | notFound (message : String)
  | unavailable (message : String)
  | channelClosed
  | internal (message : String)
  | invalidInput (message : String)
  deriving DecidableEq, Repr

/-- An operation on the database. -/
abbrev Operation (α : Type) := Op Database ServerOperationError α

/-- A validation: no database involved. -/
abbrev Validated (α : Type) := Except ServerOperationError α

/-! ## Inputs -/

structure AuthenticationInput where
  token : Option String := none
  username : Option String := none
  password : Option String := none
  deriving DecidableEq, Repr

structure CreateFilterListInput where
  name : String
  url : String
  interval : Option String := none
  enabled : Option Bool := none
  listType : Option String := none
  deriving DecidableEq, Repr

structure UpdateFilterListInput where
  url : Option String := none
  interval : Option String := none
  enabled : Option Bool := none
  listType : Option String := none
  deriving DecidableEq, Repr

structure CreateUpstreamServerInput where
  enabled : Option Bool := none
  protocol : String
  address : String
  authentication : Option AuthenticationInput := none
  maxHops : Option UInt8 := none
  nameserverIpFamily : Option String := none
  rootHintsPath : Option String := none
  rootKeyPath : Option String := none
  dnssec : Option Bool := none
  bindAddress : Option String := none
  fwmark : Option UInt32 := none
  sortOrder : Option Int := none
  deriving DecidableEq, Repr

/-- In `bindAddress` and `fwmark` the inner `none` clears the field. -/
structure UpdateUpstreamServerInput where
  enabled : Option Bool := none
  protocol : Option String := none
  address : Option String := none
  authentication : Option AuthenticationInput := none
  maxHops : Option UInt8 := none
  nameserverIpFamily : Option String := none
  rootHintsPath : Option String := none
  rootKeyPath : Option String := none
  dnssec : Option Bool := none
  bindAddress : Option (Option String) := none
  fwmark : Option (Option UInt32) := none
  sortOrder : Option Int := none
  deriving DecidableEq, Repr

/-- In the cache TTLs the inner `none` clears the field. -/
structure UpdateResolverConfigInput where
  strategy : Option String := none
  bootstrapResolvers : Option (List String) := none
  dnsCacheEnabled : Option Bool := none
  dnsCacheMinTtl : Option (Option String) := none
  dnsCacheMaxTtl : Option (Option String) := none
  deriving DecidableEq, Repr

structure CreateZoneServerInput where
  enabled : Option Bool := none
  protocol : String
  address : String
  authentication : Option AuthenticationInput := none
  checkInterval : Option String := none
  maxHops : Option UInt8 := none
  nameserverIpFamily : Option String := none
  rootHintsPath : Option String := none
  rootKeyPath : Option String := none
  dnssec : Option Bool := none
  deriving DecidableEq, Repr

structure CreateZoneInput where
  zone : String
  enabled : Option Bool := none
  bypassFilter : Option Bool := none
  fallbackToDefaultResolvers : Option Bool := none
  strategy : Option String := none
  servers : Option (List CreateZoneServerInput) := none
  deriving DecidableEq, Repr

structure UpdateZoneInput where
  enabled : Option Bool := none
  bypassFilter : Option Bool := none
  fallbackToDefaultResolvers : Option Bool := none
  strategy : Option String := none
  servers : Option (List CreateZoneServerInput) := none
  deriving DecidableEq, Repr

structure CreateZoneDiscoveryInput where
  enabled : Option Bool := none
  address : String
  checkInterval : Option String := none
  allowedTypes : Option (List String) := none
  bypassFilter : Option Bool := none
  fallbackToDefaultResolvers : Option Bool := none
  authentication : Option AuthenticationInput := none
  deriving DecidableEq, Repr

structure UpdateZoneDiscoveryInput where
  enabled : Option Bool := none
  address : Option String := none
  checkInterval : Option String := none
  allowedTypes : Option (List String) := none
  bypassFilter : Option Bool := none
  fallbackToDefaultResolvers : Option Bool := none
  authentication : Option AuthenticationInput := none
  deriving DecidableEq, Repr

/-! ## Validators -/

/-- Succeed if the condition holds, else reject the input with the message. -/
def require (condition : Bool) (message : String) : Validated Unit :=
  if condition then .ok () else .error (.invalidInput message)

/-- `validate_list_name`. -/
def validateListName (name : String) : Validated Unit := do
  require (name ≠ "") "name must not be empty"
  require (name.toList.all fun c => isAsciiAlphanumeric c || c == '-' || c == '_')
    "name must contain only ASCII alphanumeric characters, hyphens, and underscores"

/-- `validate_url`. -/
def validateUrl (url : String) : Validated Unit := do
  require (url ≠ "") "url must not be empty"
  require (startsWith "http://" url || startsWith "https://" url || startsWith "file://" url)
    "url must start with http://, https://, or file://"

/-- `validate_list_type`. -/
def validateListType (listType : String) : Validated Unit :=
  require (["adguard", "hosts", "rpz", "domains", "wildcard"].contains listType)
    ("invalid list_type '" ++ listType ++
      "'; must be one of: adguard, hosts, rpz, domains, wildcard")

/-- `validate_zone_name`. -/
def validateZoneName (zone : String) : Validated Unit := do
  require (zone ≠ "") "zone name must not be empty"
  require (zone.toList.all fun c => isAsciiAlphanumeric c || c == '.' || c == '-')
    "zone name must contain only ASCII alphanumeric characters, dots, and hyphens"

/-- `validate_protocol`. -/
def validateProtocol (protocol : String) : Validated Unit :=
  require (["dns", "dot", "doh", "doq", "recursive", "json"].contains protocol)
    ("invalid protocol '" ++ protocol ++
      "'; must be one of: dns, dot, doh, doq, recursive, json")

/-- `validate_upstream_protocol`. -/
def validateUpstreamProtocol (protocol : String) : Validated Unit :=
  require (["dns", "dot", "doh", "doq", "recursive"].contains protocol)
    ("invalid upstream protocol '" ++ protocol ++
      "'; must be one of: dns, dot, doh, doq, recursive")

/-- `validate_upstream_strategy`. -/
def validateUpstreamStrategy (strategy : String) : Validated Unit :=
  require (["round_robin", "random", "failover"].contains strategy)
    ("invalid strategy '" ++ strategy ++ "'; must be one of: round_robin, random, failover")

/-- `validate_bootstrap_resolver_address`. -/
def validateBootstrapResolverAddress (value : String) : Validated Unit :=
  require ((parseSocketAddr value).isSome || (parseIpAddr value).isSome)
    ("invalid bootstrap resolver address '" ++ value ++ "'; expected <ip> or <ip>:port")

/-- `validate_bootstrap_resolvers`. -/
def validateBootstrapResolvers (values : List String) : Validated Unit := do
  require (values ≠ []) "bootstrap_resolvers must contain at least one entry"
  values.forM validateBootstrapResolverAddress

/-- `parse_cache_ttl_secs`. -/
def parseCacheTtlSecs (value : Option String) (fieldName : String) : Validated (Option Int) :=
  match value with
  | none => .ok none
  | some value =>
      let trimmed := trim value
      if trimmed = "" then .error (.invalidInput (fieldName ++ " must not be empty"))
      else match parseInterval trimmed with
        | .error e =>
            .error (.invalidInput ("invalid " ++ fieldName ++ ": " ++ trimmed ++ " (" ++ e ++ ")"))
        | .ok secs =>
            if secs < 2 ^ 63 then .ok (some secs)
            else .error (.invalidInput (fieldName ++ " is too large; maximum supported value is " ++
              toString (2 ^ 63 - 1) ++ " seconds"))

/-- `validate_resolver_cache_bounds`. -/
def validateResolverCacheBounds (minTtlSeconds maxTtlSeconds : Option Int) : Validated Unit :=
  match minTtlSeconds, maxTtlSeconds with
  | some min, some max =>
      require (min ≤ max) "dns_cache_min_ttl must be less than or equal to dns_cache_max_ttl"
  | _, _ => .ok ()

/-- `validate_upstream_address`. -/
def validateUpstreamAddress (lib : Libraries) (protocol address : String) : Validated Unit := do
  require (trim address ≠ "") "upstream address must not be empty"
  if protocol = "doh" then
    match lib.urlParse address with
    | none => .error (.invalidInput ("invalid DoH upstream address '" ++ address ++ "'"))
    | some url => do
        require (url.scheme = "https") ("DoH upstream address must use https:// scheme, got '" ++
          url.scheme ++ "': " ++ address)
        require url.hostStr.isSome ("DoH upstream address must include a host: " ++ address)
  else .ok ()

/-- `validate_bind_address`. -/
def validateBindAddress (bindAddress : Option String) : Validated Unit :=
  match bindAddress with
  | none => .ok ()
  | some text =>
      require (parseIpAddr text).isSome
        ("invalid bind_address '" ++ text ++ "'; must be an IPv4 or IPv6 address")

/-- `validate_sort_order`. -/
def validateSortOrder (sortOrder : Int) : Validated Int :=
  if sortOrder < 0 then .error (.invalidInput "sort_order must be zero or greater")
  else .ok sortOrder

/-- `parse_single_fwmark`. -/
def parseSingleFwmark (fwmark : UInt32) : Validated Int :=
  if fwmark.toNat < 2 ^ 31 then .ok fwmark.toNat
  else .error (.invalidInput ("invalid fwmark '" ++ toString fwmark ++ "'; must be <= " ++
    toString (2 ^ 31 - 1)))

/-- `parse_fwmark`. -/
def parseFwmark (fwmark : Option UInt32) : Validated (Option Int) :=
  match fwmark with
  | none => .ok none
  | some value => (parseSingleFwmark value).map some

/-- `validate_allowed_type`. -/
def validateAllowedType (allowedType : String) : Validated Unit :=
  require (["forward", "reverse", "reverse-aggregate"].contains allowedType)
    ("invalid allowed_type '" ++ allowedType ++
      "'; must be one of: forward, reverse, reverse-aggregate")

/-! ## Repository calls inside operations -/

/-- A repository call; its error becomes an internal error. -/
def repo {α : Type} (call : RepoCall α) : Operation α :=
  Op.access fun db => ((call db).1.mapError .internal, (call db).2)

/-- A read that must find its record. -/
def fetch {α : Type} (f : Database → Option α) (message : String) : Operation α := do
  let found ← Op.read f
  Op.ofExcept (found.elim (.error (.notFound message)) .ok)

/-- `reload_after_mutation`, and the value the operation returns. -/
def finish {α : Type} (result : α) : Operation α := Op.notify result

/-- Change a record if the field is given: `if let Some(value) = input.field`. -/
def edit {α β : Type} (field : Option β) (record : α) (f : β → Validated α) : Validated α :=
  match field with
  | some value => f value
  | none => .ok record

/-! ## Filter lists -/

/-- The checks of `add_filter_list` that need no database. -/
def validateFilterListInput (input : CreateFilterListInput) : Validated Unit := do
  validateListName input.name
  validateUrl input.url
  validateListType (input.listType.getD "adguard")

/-- The record of `add_filter_list`. -/
def newFilterList (newUuid : Nat → String) (kind : String) (input : CreateFilterListInput) :
    FilterListRecord where
  id := newUuid 0
  name := input.name
  kind := kind
  url := input.url
  intervalSeconds := parseIntervalSecs input.interval
  enabled := input.enabled.getD true
  listType := input.listType.getD "adguard"

/-- `add_filter_list`. -/
def addFilterList (newUuid : Nat → String) (kind : String) (input : CreateFilterListInput) :
    Operation FilterListRecord := do
  Op.ofExcept (validateFilterListInput input)
  let existing ← Op.read (FilterLists.getByName input.name)
  Op.ofExcept (require existing.isNone
    ("a filter list named '" ++ input.name ++ "' already exists"))
  repo (FilterLists.create (newFilterList newUuid kind input))
  finish (newFilterList newUuid kind input)

/-- The edits of `update_filter_list`. -/
def editFilterList (input : UpdateFilterListInput) (record : FilterListRecord) :
    Validated FilterListRecord := do
  let record ← edit input.url record fun url => do
    validateUrl url
    return { record with url := url }
  let record := { record with
    intervalSeconds := match input.interval with
      | some interval => parseIntervalSecs (some interval)
      | none => record.intervalSeconds
    enabled := input.enabled.getD record.enabled }
  edit input.listType record fun listType => do
    validateListType listType
    return { record with listType := listType }

/-- `update_filter_list`. -/
def updateFilterList (name : String) (input : UpdateFilterListInput) :
    Operation FilterListRecord := do
  let record ← fetch (FilterLists.getByName name) ("filter list '" ++ name ++ "' not found")
  let record ← Op.ofExcept (editFilterList input record)
  repo (FilterLists.update record)
  finish record

/-- `delete_filter_list`. -/
def deleteFilterList (name : String) : Operation String := do
  let record ← fetch (FilterLists.getByName name) ("filter list '" ++ name ++ "' not found")
  repo (FilterLists.delete record.id)
  finish name

/-! ## Resolver configuration and upstream servers -/

/-- The edits of `update_resolver_config`. -/
def editResolverConfig (input : UpdateResolverConfigInput) (record : ResolverConfigRecord) :
    Validated ResolverConfigRecord := do
  let record ← edit input.strategy record fun strategy => do
    validateUpstreamStrategy strategy
    return { record with strategy := strategy }
  let record ← edit input.bootstrapResolvers record fun bootstrapResolvers => do
    validateBootstrapResolvers bootstrapResolvers
    return { record with bootstrapResolvers := bootstrapResolvers }
  let record := { record with
    dnsCacheEnabled := input.dnsCacheEnabled.getD record.dnsCacheEnabled }
  let record ← edit input.dnsCacheMinTtl record fun minTtl => do
    let secs ← parseCacheTtlSecs minTtl "dns_cache_min_ttl"
    return { record with dnsCacheMinTtlSeconds := secs }
  let record ← edit input.dnsCacheMaxTtl record fun maxTtl => do
    let secs ← parseCacheTtlSecs maxTtl "dns_cache_max_ttl"
    return { record with dnsCacheMaxTtlSeconds := secs }
  validateResolverCacheBounds record.dnsCacheMinTtlSeconds record.dnsCacheMaxTtlSeconds
  return record

/-- `update_resolver_config`. -/
def updateResolverConfig (newUuid : Nat → String) (input : UpdateResolverConfigInput) :
    Operation ResolverConfigRecord := do
  let record ← Op.read UpstreamConfig.getResolverConfig
  let record ← Op.ofExcept (editResolverConfig input record)
  repo (UpstreamConfig.updateResolverConfig newUuid record)
  finish record

/-- The checks of `add_upstream_server` that need no database; the firewall mark is returned. -/
def validateUpstreamServerInput (lib : Libraries) (input : CreateUpstreamServerInput) :
    Validated (Option Int) := do
  validateUpstreamProtocol input.protocol
  validateUpstreamAddress lib input.protocol input.address
  validateBindAddress input.bindAddress
  parseFwmark input.fwmark

/-- The record of `add_upstream_server`. -/
def newUpstreamServer (newUuid : Nat → String) (input : CreateUpstreamServerInput)
    (fwmark : Option Int) (sortOrder : Int) : UpstreamServerRecord where
  id := newUuid 0
  enabled := input.enabled.getD true
  protocol := input.protocol
  address := input.address
  authToken := input.authentication.bind (·.token)
  authUsername := input.authentication.bind (·.username)
  authPassword := input.authentication.bind (·.password)
  maxHops := input.maxHops.map fun hops => (hops.toNat : Int)
  nameserverIpFamily := input.nameserverIpFamily
  rootHintsPath := input.rootHintsPath
  rootKeyPath := input.rootKeyPath
  dnssec := input.dnssec.getD true
  sortOrder := sortOrder
  bindAddress := input.bindAddress
  fwmark := fwmark

/-- The sort order of a new server; without one it counts the existing servers. -/
def newSortOrder : Option Int → Operation Int
  | some value => Op.ofExcept (validateSortOrder value)
  | none => Op.read fun db => wrapSigned 32 (UpstreamConfig.getAllServers db).length

/-- `add_upstream_server`. -/
def addUpstreamServer (lib : Libraries) (newUuid : Nat → String)
    (input : CreateUpstreamServerInput) : Operation UpstreamServerRecord := do
  let fwmark ← Op.ofExcept (validateUpstreamServerInput lib input)
  let sortOrder ← newSortOrder input.sortOrder
  repo (UpstreamConfig.createServer (newUpstreamServer newUuid input fwmark sortOrder))
  finish (newUpstreamServer newUuid input fwmark sortOrder)

/-- The first edits of `update_upstream_server`. -/
def editServerAddress (lib : Libraries) (input : UpdateUpstreamServerInput)
    (record : UpstreamServerRecord) : Validated UpstreamServerRecord := do
  let record := { record with enabled := input.enabled.getD record.enabled }
  let record ← edit input.protocol record fun protocol => do
    validateUpstreamProtocol protocol
    return { record with protocol := protocol }
  let record ← edit input.address record fun address => do
    validateUpstreamAddress lib record.protocol address
    return { record with address := address }
  validateUpstreamAddress lib record.protocol record.address
  return record

/-- The edits of `update_upstream_server` that cannot fail. -/
def editServerOptions (input : UpdateUpstreamServerInput) (record : UpstreamServerRecord) :
    UpstreamServerRecord :=
  { record with
    authToken := input.authentication.elim record.authToken (·.token)
    authUsername := input.authentication.elim record.authUsername (·.username)
    authPassword := input.authentication.elim record.authPassword (·.password)
    maxHops := (input.maxHops.map fun hops => (hops.toNat : Int)).or record.maxHops
    nameserverIpFamily := input.nameserverIpFamily.or record.nameserverIpFamily
    rootHintsPath := input.rootHintsPath.or record.rootHintsPath
    rootKeyPath := input.rootKeyPath.or record.rootKeyPath
    dnssec := input.dnssec.getD record.dnssec }

/-- The last edits of `update_upstream_server`. -/
def editServerRouting (input : UpdateUpstreamServerInput) (record : UpstreamServerRecord) :
    Validated UpstreamServerRecord := do
  let record ← edit input.bindAddress record fun bindAddress => do
    validateBindAddress bindAddress
    return { record with bindAddress := bindAddress }
  let record ← edit input.fwmark record fun fwmark => do
    let fwmark ← parseFwmark fwmark
    return { record with fwmark := fwmark }
  edit input.sortOrder record fun sortOrder => do
    let sortOrder ← validateSortOrder sortOrder
    return { record with sortOrder := sortOrder }

/-- All edits of `update_upstream_server`. -/
def editUpstreamServer (lib : Libraries) (input : UpdateUpstreamServerInput)
    (record : UpstreamServerRecord) : Validated UpstreamServerRecord := do
  let record ← editServerAddress lib input record
  editServerRouting input (editServerOptions input record)

/-- `update_upstream_server`. -/
def updateUpstreamServer (lib : Libraries) (id : String) (input : UpdateUpstreamServerInput) :
    Operation UpstreamServerRecord := do
  let record ← fetch (UpstreamConfig.getServerById id) ("upstream server '" ++ id ++ "' not found")
  let record ← Op.ofExcept (editUpstreamServer lib input record)
  repo (UpstreamConfig.updateServer record)
  finish record

/-- `delete_upstream_server`. -/
def deleteUpstreamServer (id : String) : Operation String := do
  let _ ← fetch (UpstreamConfig.getServerById id) ("upstream server '" ++ id ++ "' not found")
  repo (UpstreamConfig.deleteServer id)
  finish id

/-! ## Zones -/

/-- The record of a zone server, the `i`-th of its zone. -/
def newZoneServer (newUuid : Nat → String) (zoneId : String) (i : Nat)
    (server : CreateZoneServerInput) : ZoneServerRecord where
  id := newUuid i
  zoneId := zoneId
  enabled := server.enabled.getD true
  protocol := server.protocol
  address := server.address
  authToken := server.authentication.bind (·.token)
  authUsername := server.authentication.bind (·.username)
  authPassword := server.authentication.bind (·.password)
  checkInterval := server.checkInterval
  maxHops := server.maxHops.map fun hops => (hops.toNat : Int)
  nameserverIpFamily := server.nameserverIpFamily
  rootHintsPath := server.rootHintsPath
  rootKeyPath := server.rootKeyPath
  dnssec := server.dnssec.getD true
  sortOrder := wrapSigned 32 i

/-- The loop over the servers in `add_zone` and `update_zone`: validate, insert, go on. -/
def createZoneServers (newUuid : Nat → String) (zoneId : String) :
    Nat → List CreateZoneServerInput → Operation (List ZoneServerRecord)
  | _, [] => return []
  | i, server :: rest => do
      Op.ofExcept (validateProtocol server.protocol)
      repo (Zones.createZoneServer (newZoneServer newUuid zoneId i server))
      let records ← createZoneServers newUuid zoneId (i + 1) rest
      return newZoneServer newUuid zoneId i server :: records

/-- The zone record of `add_zone`. -/
def newZone (zoneId : String) (input : CreateZoneInput) : ZoneRecord where
  id := zoneId
  zone := input.zone
  enabled := input.enabled.getD true
  bypassFilter := input.bypassFilter.getD false
  fallbackToDefaultResolvers := input.fallbackToDefaultResolvers.getD false
  strategy := input.strategy
  servers := []

/-- `add_zone`; the zone's identifier is drawn before those of its servers. -/
def addZone (zoneId : String) (newUuid : Nat → String) (input : CreateZoneInput) :
    Operation ZoneRecord := do
  Op.ofExcept (validateZoneName input.zone)
  let existing ← Op.read (Zones.getByZone input.zone)
  Op.ofExcept (require existing.isNone ("zone '" ++ input.zone ++ "' already exists"))
  repo (Zones.createZone (newZone zoneId input))
  let servers ← createZoneServers newUuid zoneId 0 (input.servers.getD [])
  finish { newZone zoneId input with servers := servers }

/-- The edits of `update_zone`. -/
def editZone (input : UpdateZoneInput) (record : ZoneRecord) : ZoneRecord :=
  { record with
    enabled := input.enabled.getD record.enabled
    bypassFilter := input.bypassFilter.getD record.bypassFilter
    fallbackToDefaultResolvers :=
      input.fallbackToDefaultResolvers.getD record.fallbackToDefaultResolvers
    strategy := input.strategy.or record.strategy }

/-- The replacement of the servers in `update_zone`. -/
def replaceZoneServers (newUuid : Nat → String) (record : ZoneRecord)
    (servers : List CreateZoneServerInput) : Operation ZoneRecord := do
  repo (Zones.deleteZoneServers record.id)
  let records ← createZoneServers newUuid record.id 0 servers
  finish { record with servers := records }

/-- `update_zone`. -/
def updateZone (newUuid : Nat → String) (zoneName : String) (input : UpdateZoneInput) :
    Operation ZoneRecord := do
  let record ← fetch (Zones.getByZone zoneName) ("zone '" ++ zoneName ++ "' not found")
  repo (Zones.updateZone (editZone input record))
  match input.servers with
  | some servers => replaceZoneServers newUuid (editZone input record) servers
  | none => finish (editZone input record)

/-- `delete_zone`. -/
def deleteZone (zoneName : String) : Operation String := do
  let record ← fetch (Zones.getByZone zoneName) ("zone '" ++ zoneName ++ "' not found")
  repo (Zones.deleteZone record.id)
  finish zoneName

/-! ## Zone discovery -/

/-- The checks of `add_zone_discovery`. -/
def validateZoneDiscoveryInput (input : CreateZoneDiscoveryInput) : Validated Unit := do
  validateUrl input.address
  (input.allowedTypes.getD []).forM validateAllowedType

/-- The record of `add_zone_discovery`. -/
def newZoneDiscovery (id : String) (input : CreateZoneDiscoveryInput) : ZoneDiscoveryRecord where
  id := id
  enabled := input.enabled.getD true
  address := input.address
  checkInterval := input.checkInterval
  allowedTypes := input.allowedTypes.getD ["forward", "reverse"]
  bypassFilter := input.bypassFilter.getD false
  fallbackToDefaultResolvers := input.fallbackToDefaultResolvers.getD false
  authToken := input.authentication.bind (·.token)
  authUsername := input.authentication.bind (·.username)
  authPassword := input.authentication.bind (·.password)

/-- `add_zone_discovery`; the entry's identifier is drawn before those of its types. -/
def addZoneDiscovery (id : String) (newUuid : Nat → String) (input : CreateZoneDiscoveryInput) :
    Operation ZoneDiscoveryRecord := do
  Op.ofExcept (validateZoneDiscoveryInput input)
  repo (ZoneDiscovery.create newUuid (newZoneDiscovery id input))
  finish (newZoneDiscovery id input)

/-- The edits of `update_zone_discovery`. -/
def editZoneDiscovery (input : UpdateZoneDiscoveryInput) (record : ZoneDiscoveryRecord) :
    Validated ZoneDiscoveryRecord := do
  let record ← edit input.address record fun address => do
    validateUrl address
    return { record with address := address }
  let record := { record with
    enabled := input.enabled.getD record.enabled
    checkInterval := input.checkInterval.or record.checkInterval }
  let record ← edit input.allowedTypes record fun types => do
    types.forM validateAllowedType
    return { record with allowedTypes := types }
  let record := { record with
    bypassFilter := input.bypassFilter.getD record.bypassFilter
    fallbackToDefaultResolvers :=
      input.fallbackToDefaultResolvers.getD record.fallbackToDefaultResolvers }
  return match input.authentication with
    | some authentication => { record with
        authToken := authentication.token
        authUsername := authentication.username
        authPassword := authentication.password }
    | none => record

/-- `update_zone_discovery`. -/
def updateZoneDiscovery (newUuid : Nat → String) (id : String)
    (input : UpdateZoneDiscoveryInput) : Operation ZoneDiscoveryRecord := do
  let record ← fetch (ZoneDiscovery.getById id) ("zone discovery '" ++ id ++ "' not found")
  let record ← Op.ofExcept (editZoneDiscovery input record)
  repo (ZoneDiscovery.update newUuid record)
  finish record

/-- `delete_zone_discovery`. -/
def deleteZoneDiscovery (id : String) : Operation String := do
  let _ ← fetch (ZoneDiscovery.getById id) ("zone discovery '" ++ id ++ "' not found")
  repo (ZoneDiscovery.delete id)
  finish id

/-! ## All mutations -/

/-- A mutation call with its input and the identifiers it draws. -/
inductive Mutation
  | addFilterList (newUuid : Nat → String) (kind : String) (input : CreateFilterListInput)
  | updateFilterList (name : String) (input : UpdateFilterListInput)
  | deleteFilterList (name : String)
  | updateResolverConfig (newUuid : Nat → String) (input : UpdateResolverConfigInput)
  | addUpstreamServer (newUuid : Nat → String) (input : CreateUpstreamServerInput)
  | updateUpstreamServer (id : String) (input : UpdateUpstreamServerInput)
  | deleteUpstreamServer (id : String)
  | addZone (zoneId : String) (newUuid : Nat → String) (input : CreateZoneInput)
  | updateZone (newUuid : Nat → String) (zoneName : String) (input : UpdateZoneInput)
  | deleteZone (zoneName : String)
  | addZoneDiscovery (id : String) (newUuid : Nat → String) (input : CreateZoneDiscoveryInput)
  | updateZoneDiscovery (newUuid : Nat → String) (id : String) (input : UpdateZoneDiscoveryInput)
  | deleteZoneDiscovery (id : String)

/-- Forget what an operation returns. -/
def discard {α : Type} (op : Operation α) : Operation Unit := op >>= fun _ => pure ()

/-- The operation of a mutation, without the record it returns. -/
def Mutation.operation (lib : Libraries) : Mutation → Operation Unit
  | .addFilterList newUuid kind input => discard (DnsFilter.addFilterList newUuid kind input)
  | .updateFilterList name input => discard (DnsFilter.updateFilterList name input)
  | .deleteFilterList name => discard (DnsFilter.deleteFilterList name)
  | .updateResolverConfig newUuid input => discard (DnsFilter.updateResolverConfig newUuid input)
  | .addUpstreamServer newUuid input => discard (DnsFilter.addUpstreamServer lib newUuid input)
  | .updateUpstreamServer id input => discard (DnsFilter.updateUpstreamServer lib id input)
  | .deleteUpstreamServer id => discard (DnsFilter.deleteUpstreamServer id)
  | .addZone zoneId newUuid input => discard (DnsFilter.addZone zoneId newUuid input)
  | .updateZone newUuid zoneName input => discard (DnsFilter.updateZone newUuid zoneName input)
  | .deleteZone zoneName => discard (DnsFilter.deleteZone zoneName)
  | .addZoneDiscovery id newUuid input => discard (DnsFilter.addZoneDiscovery id newUuid input)
  | .updateZoneDiscovery newUuid id input =>
      discard (DnsFilter.updateZoneDiscovery newUuid id input)
  | .deleteZoneDiscovery id => discard (DnsFilter.deleteZoneDiscovery id)

end DnsFilter
