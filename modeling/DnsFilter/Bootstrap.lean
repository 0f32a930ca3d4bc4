import DnsFilter.Cache
import DnsFilter.ConfigFromDb
import DnsFilter.Filtering.Engine
import DnsFilter.RootHints

/-!
# Building resolvers and zones

The builders that startup and reload run on a configuration (`config_bootstrap.rs`) and the
constructors of the upstream clients they call (`frameworks/upstream/`). A builder either fails
with a message, and with it the whole configuration, or returns what it built; a client is
represented by the data it is built from.

URL parsing, HTTP header values, Base64, the recursor and the files it reads come from libraries
(`Libraries`). Loading a zone document and a discovery index reach outside the process
(`ZoneLoaders`).
-/

namespace DnsFilter

open Net Text Numeral

/-! ## What is outside -/

/-- A parsed URL, as far as the clients look at it. -/
structure Url where
  scheme : String
  hostStr : Option String
  port : Option Nat
  path : String
  deriving DecidableEq, Repr

/-- The library functions the clients use. -/
structure Libraries where
  /-- `Url::parse`. -/
  urlParse : String → Option Url
  /-- Does `HeaderValue::from_str` accept the text? -/
  headerValueFromStr : String → Bool
  /-- Standard Base64 of a text's bytes. -/
  base64Encode : String → String
  /-- `std::fs::read_to_string`. -/
  readToString : String → Option String
  /-- `TrustAnchors::from_file`. -/
  trustAnchorsFromFile : String → Option TrustAnchors
  /-- Does `Recursor::new` succeed with these roots, this policy, this deny list and this recursion
  limit? The provider of sockets, which it also gets, it only keeps. -/
  recursorNew : List IpAddr → DnssecPolicy → List IpNet → UInt8 → Bool

inductive ZoneSourceAuth
  | bearer (token : String)
  | basic (username password : String)
  deriving DecidableEq, Repr

inductive ZoneSource
  | file (path : String)
  | url (url : String)
  deriving DecidableEq, Repr

/-! ## Upstream clients -/

inductive UpstreamStrategy
  | roundRobin
  | random
  | failover
  deriving DecidableEq, Repr

/-- `UpstreamStrategy::from_str`. -/
def UpstreamStrategy.fromStr (value : String) : Option UpstreamStrategy :=
  if value = "random" then some .random
  else if value = "failover" then some .failover
  else if value = "round_robin" then some .roundRobin
  else none

inductive Endpoint
  | static (address : SocketAddr)
  | hostname (host : String) (port : Nat)
  deriving DecidableEq, Repr

/-- What differs between the endpoint parsers of the DoT and the DoQ client. -/
structure EndpointKind where
  scheme : String
  name : String
  defaultPort : Nat
  deriving DecidableEq, Repr

def dotEndpoint : EndpointKind where
  scheme := "tls://"
  name := "DoT"
  defaultPort := 853

def doqEndpoint : EndpointKind where
  scheme := "quic://"
  name := "DoQ"
  defaultPort := 8853

namespace EndpointKind

variable (kind : EndpointKind)

/-- The checks of `validate_hostname` on one label. -/
def validateLabel (label : String) : Except UpstreamResolveError Unit :=
  if label = "" || label.utf8ByteSize > 63 then
    .error (.protocol ("invalid " ++ kind.name ++ " hostname label length"))
  else if startsWith "-" label || endsWith "-" label then
    .error (.protocol ("invalid " ++ kind.name ++
      " hostname label; leading/trailing hyphen is not allowed"))
  else if !label.toList.all fun c => isAsciiAlphanumeric c || c == '-' then
    .error (.protocol ("invalid " ++ kind.name ++ " hostname label characters"))
  else .ok ()

/-- `validate_hostname`. -/
def validateHostname (host : String) : Except UpstreamResolveError Unit :=
  if host = "" || host.utf8ByteSize > 253 then
    .error (.protocol ("invalid " ++ kind.name ++ " hostname length"))
  else (split '.' host).forM kind.validateLabel

/-- The host and port of `parse_hostname_with_optional_port`: split at the last colon if there is
only one. -/
def splitPort (value : String) : String × Option String :=
  match rsplitOnce ':' value with
  | some (host, port) => if contains ":" host then (value, none) else (host, some port)
  | none => (value, none)

/-- `parse_hostname_with_optional_port`. -/
def parseHostnameWithOptionalPort (value : String) :
    Except UpstreamResolveError (String × Nat) := do
  let (hostText, portText) := splitPort value
  let host := trimEndMatches '.' hostText
  kind.validateHostname host
  match portText with
  | none => return (host, kind.defaultPort)
  | some port =>
      match parseUnsigned 16 port with
      | some port => return (host, port)
      | none => .error (.protocol ("invalid " ++ kind.name ++ " port '" ++ port ++ "'"))

/-- `parse_endpoint`. -/
def parseEndpoint (value : String) : Except UpstreamResolveError Endpoint :=
  let endpoint := (stripPrefix kind.scheme value).getD value
  if trim endpoint = "" then
    .error (.protocol ("invalid " ++ kind.name ++ " upstream address; endpoint is empty"))
  else match parseSocketAddr endpoint with
    | some address => .ok (.static address)
    | none => match parseIpAddr endpoint with
      | some ip => .ok (.static ⟨ip, UInt16.ofNat kind.defaultPort, 0⟩)
      | none => (kind.parseHostnameWithOptionalPort endpoint).map fun p => .hostname p.1 p.2

end EndpointKind

namespace DnsTlsClient

/-- `validate_hostname` in `dot_client.rs`. -/
def validateHostname : String → Except UpstreamResolveError Unit := dotEndpoint.validateHostname

/-- `DnsTlsClient::parse_endpoint`. -/
def parseEndpoint : String → Except UpstreamResolveError Endpoint := dotEndpoint.parseEndpoint

end DnsTlsClient

namespace DnsQuicClient

/-- `validate_hostname` in `doq_client.rs`. -/
def validateHostname : String → Except UpstreamResolveError Unit := doqEndpoint.validateHostname

/-- `DnsQuicClient::parse_endpoint`. -/
def parseEndpoint : String → Except UpstreamResolveError Endpoint := doqEndpoint.parseEndpoint

end DnsQuicClient

section Doh

variable (lib : Libraries)

/-- `parse_doh_url`: endpoint, server name and path. -/
def parseDohUrl (urlStr : String) : Except UpstreamResolveError (Endpoint × String × String) :=
  match lib.urlParse urlStr with
  | none => .error (.protocol ("invalid DoH URL '" ++ urlStr ++ "'"))
  | some url =>
      if url.scheme ≠ "https" then
        .error (.protocol ("DoH URL must use https scheme, got '" ++ url.scheme ++ "'"))
      else match url.hostStr with
        | none => .error (.protocol "DoH URL missing host")
        | some host =>
            let port := url.port.getD 443
            let path := if url.path = "" || url.path = "/" then "/dns-query" else url.path
            let endpoint := match parseIpAddr host with
              | some ip => Endpoint.static ⟨ip, UInt16.ofNat port, 0⟩
              | none => .hostname host port
            .ok (endpoint, host, path)

/-- The text of the `Authorization` header. -/
def authHeaderText : ZoneSourceAuth → String
  | .bearer token => "Bearer " ++ token
  | .basic username password => "Basic " ++ lib.base64Encode (username ++ ":" ++ password)

/-- `build_auth_headers`. -/
def buildAuthHeaders (auth : ZoneSourceAuth) : Except UpstreamResolveError String :=
  if lib.headerValueFromStr (authHeaderText lib auth) then .ok (authHeaderText lib auth)
  else .error (.protocol "invalid auth header value")

end Doh

/-- A client, as the data it is built from. -/
inductive ClientSpec
  | dns (address : SocketAddr)
  | dot (endpoint : Endpoint) (bootstrap : List SocketAddr)
  | doh (endpoint : Endpoint) (serverName path : String) (authHeader : Option String)
      (bootstrap : List SocketAddr)
  | doq (endpoint : Endpoint) (bootstrap : List SocketAddr)
  | recursive (recursor : RecursorConfig)
  deriving DecidableEq, Repr

/-- A client with its routing and, for default upstreams, its metrics label. -/
structure ResolverSpec where
  client : ClientSpec
  routing : OutboundRouting := {}
  label : Option String := none
  deriving DecidableEq, Repr

/-- `StrategyUpstreamResolver`, wrapped in a cache if the settings say so. -/
structure UpstreamGroup where
  resolvers : List ResolverSpec
  strategy : UpstreamStrategy
  cache : Option ResolverCacheSettings
  deriving DecidableEq, Repr

/-- `DEFAULT_MAX_HOPS`. -/
def defaultMaxHops : UInt8 := 12

/-- `validate_server_auth`. -/
def validateServerAuth (zone protocol : String) (isUrl : Bool)
    (authConfig : Option ZoneServerAuthenticationConfig) :
    Except String (Option ZoneSourceAuth) :=
  match authConfig with
  | none => .ok none
  | some config =>
      let present (value : Option String) : Bool := value.any fun v => trim v ≠ ""
      let hasToken := present config.token
      let hasUsername := present config.username
      let hasPassword := present config.password
      if !hasToken && !hasUsername && !hasPassword then .ok none
      else if protocol ≠ "json" ∧ protocol ≠ "doh" then
        .error ("zone '" ++ zone ++ "' server with protocol '" ++ protocol ++
          "' sets authentication; authentication is only supported for 'json' and 'doh' servers")
      else if hasToken && (hasUsername || hasPassword) then
        .error ("zone '" ++ zone ++ "' " ++ protocol ++ " server authentication must use either " ++
          "'token' (Bearer) or 'username'/'password' (Basic), not both")
      else if hasUsername ≠ hasPassword then
        .error ("zone '" ++ zone ++ "' " ++ protocol ++ " server authentication requires both " ++
          "'username' and 'password' for Basic authentication")
      else if !isUrl then
        .error ("zone '" ++ zone ++ "' " ++ protocol ++
          " server sets authentication but address is not an HTTP(S) URL")
      else if hasToken then .ok (some (.bearer (trim (config.token.getD ""))))
      else .ok (some (.basic (trim (config.username.getD "")) (trim (config.password.getD ""))))

/-- `parse_dns_address`. -/
def parseDnsAddress (value : String) : Except String SocketAddr :=
  (parseSocketAddr value).elim
    (.error ("invalid DNS upstream address '" ++ value ++ "': invalid socket address syntax")) .ok

/-- The closure of `parse_bootstrap_resolvers`. -/
def parseBootstrapResolver (value : String) : Except String SocketAddr :=
  match parseSocketAddr value with
  | some addr => .ok addr
  | none => match parseIpAddr value with
    | some ip => .ok ⟨ip, 53, 0⟩
    | none => .error ("invalid bootstrap resolver address '" ++ value ++
        "'; expected <ip> or <ip>:port")

/-- `parse_bootstrap_resolvers`. -/
def parseBootstrapResolvers (values : List String) : Except String (List SocketAddr) :=
  if values = [] then .error "at least one bootstrap resolver is required"
  else values.mapM parseBootstrapResolver

/-- The fields that default upstreams and zone servers build a client from. -/
structure ServerFields where
  protocol : String
  address : String
  authentication : Option ZoneServerAuthenticationConfig
  maxHops : Option UInt8
  nameserverIpFamily : Option String
  rootHintsPath : Option String
  rootKeyPath : Option String
  dnssec : Option Bool
  deriving DecidableEq, Repr

def UpstreamServer.fields (s : UpstreamServer) : ServerFields :=
  ⟨s.protocol, s.address, s.authentication, s.maxHops, s.nameserverIpFamily, s.rootHintsPath,
    s.rootKeyPath, s.dnssec⟩

def ZoneServerConfig.fields (s : ZoneServerConfig) : ServerFields :=
  ⟨s.protocol, s.address, s.authentication, s.maxHops, s.nameserverIpFamily, s.rootHintsPath,
    s.rootKeyPath, s.dnssec⟩

/-- What differs between the two matches on the protocol, `build_single_upstream_resolver` and
`build_single_zone_upstream_resolver`: the owner named in authentication errors and the texts. -/
structure ServerWording where
  owner : String
  kind : String
  unsupported : String → String

def upstreamWording : ServerWording where
  owner := "upstream"
  kind := "upstream"
  unsupported other := "unsupported upstream protocol: " ++ other ++
    "; supported values are: dns, dot, doh, doq, recursive"

def zoneWording : ServerWording where
  owner := "zone"
  kind := "zone server"
  unsupported other := "unsupported zone server protocol: '" ++ other ++
    "'; supported values are: dns, dot, doh, doq, recursive, json"

/-- The DoH arm of the match on the protocol. -/
def buildDohClient (lib : Libraries) (wording : ServerWording) (bootstrap : List SocketAddr)
    (address : String) (authentication : Option ZoneServerAuthenticationConfig) :
    Except String ClientSpec := do
  let auth ← validateServerAuth wording.owner "doh" true authentication
  let client : Except UpstreamResolveError ClientSpec := do
    let (endpoint, serverName, path) ← parseDohUrl lib address
    match auth with
    | none => return .doh endpoint serverName path none bootstrap
    | some auth =>
        let header ← buildAuthHeaders lib auth
        return .doh endpoint serverName path (some header) bootstrap
  client.mapError fun e => "invalid DoH " ++ wording.kind ++ " '" ++ address ++ "': " ++ e.display

/-- The address family in the recursive arm of the match on the protocol. -/
def ServerFields.family (server : ServerFields) : NameserverIpFamily :=
  if server.nameserverIpFamily = some "ipv4" then .ipv4Only
  else if server.nameserverIpFamily = some "ipv6" then .ipv6Only
  else .both

/-- The data of the recursive arm of the match on the protocol: the root hints and the trust anchors
are loaded, whatever the files are like. -/
def ServerFields.recursor (lib : Libraries) (routing : OutboundRouting) (server : ServerFields) :
    RecursorConfig :=
  let maxHops := server.maxHops.getD defaultMaxHops
  let dnssec := server.dnssec.getD true
  let rootHints := loadRootHints lib.readToString server.rootHintsPath
  let trustAnchor :=
    if dnssec then loadRootKey lib.trustAnchorsFromFile server.rootKeyPath else none
  recursorConfig rootHints maxHops server.family dnssec trustAnchor routing

/-- `RecursiveResolver::with_routing` from the call of `Recursor::new` on. Its failure is a panic. -/
def buildRecursiveResolver (lib : Libraries) (config : RecursorConfig) : Except String ClientSpec :=
  if lib.recursorNew config.roots config.dnssecPolicy config.denyServer config.recursionLimit then
    .ok (.recursive config)
  else .error "failed to build recursive resolver"

/-- The match on the protocol in `build_single_upstream_resolver` and
`build_single_zone_upstream_resolver`. -/
def buildClient (lib : Libraries) (wording : ServerWording) (bootstrap : List SocketAddr)
    (routing : OutboundRouting) (server : ServerFields) : Except String ClientSpec :=
  if server.protocol = "dns" then (parseDnsAddress server.address).map .dns
  else if server.protocol = "dot" then
    match DnsTlsClient.parseEndpoint server.address with
    | .ok endpoint => .ok (.dot endpoint bootstrap)
    | .error e => .error ("invalid DoT upstream '" ++ server.address ++ "': " ++ e.display)
  else if server.protocol = "doh" then
    buildDohClient lib wording bootstrap server.address server.authentication
  else if server.protocol = "doq" then
    match DnsQuicClient.parseEndpoint server.address with
    | .ok endpoint => .ok (.doq endpoint bootstrap)
    | .error e =>
        .error ("invalid DoQ " ++ wording.kind ++ " '" ++ server.address ++ "': " ++ e.display)
  else if server.protocol = "recursive" then buildRecursiveResolver lib (server.recursor lib routing)
  else .error (wording.unsupported server.protocol)

/-! ## The filter engine -/

/-- The check of one list in `build_domain_filter_with_cache`. -/
def checkListInterval (list : NamedList) : Except String Unit :=
  match list.interval with
  | none => .ok ()
  | some interval =>
      match parseInterval interval with
      | .ok _ => .ok ()
      | .error e => .error ("invalid interval for list '" ++ list.name ++ "': " ++ interval ++
          " (" ++ e ++ ")")

/-- `build_domain_filter_with_cache`: all intervals are checked, also those of disabled lists. -/
def buildDomainFilterWithCache (fromJson : String → Option CachedListDocument)
    (config : DnsFilterConfig)
    (cacheRepo : Option (String → Except String (Option FilterCacheDocumentRecord))) :
    Except String ListFilterEngine := do
  (config.blocklists ++ config.allowlists).forM checkListInterval
  ListFilterEngine.fromConfigWithCache fromJson config cacheRepo

/-- `build_any_query_policy`. -/
def buildAnyQueryPolicy (config : DnsFilterConfig) : Except String AnyQueryPolicy :=
  match config.filtering.bind (·.anyQueryPolicy) with
  | none => .ok .notImp
  | some policy =>
      let policy := toAsciiLowercase (trim policy)
      if policy = "passthrough" then .ok .passthrough
      else if policy = "refused" then .ok .refused
      else if policy = "notimp" || policy = "not_imp" then .ok .notImp
      else .error ("invalid filtering.any_query_policy: " ++ policy ++
        "; supported values are: passthrough, refused, notimp")

/-! ## Default upstreams -/

/-- The two TTL bounds in `build_resolver_cache_settings`. -/
def parseCacheBound (field : String) (value : Option String) : Except String (Option Nat) :=
  match value with
  | none => .ok none
  | some value =>
      match parseInterval value with
      | .ok secs => .ok (some (fromSecs secs))
      | .error e => .error ("invalid resolvers.cache." ++ field ++ ": " ++ value ++
          " (" ++ e ++ ")")

/-- `build_resolver_cache_settings`. -/
def buildResolverCacheSettings (config : DnsFilterConfig) :
    Except String ResolverCacheSettings := do
  let cache := config.resolvers.cache
  let minTtl ← parseCacheBound "min_ttl" (cache.bind (·.minTtl))
  let maxTtl ← parseCacheBound "max_ttl" (cache.bind (·.maxTtl))
  let settings : ResolverCacheSettings :=
    { enabled := (cache.map (·.enabled)).getD true
      minTtl := minTtl
      maxTtl := maxTtl
      maxEntries := (cache.bind (·.maxEntries)).getD 10000 }
  settings.validate
  return settings

/-- The effective bind address of a server: its own, else the global one. -/
def effectiveBindAddress (outbound : Option OutboundConfig) (server : UpstreamServer) :
    Option String :=
  server.bindAddress.or (outbound.bind (·.bindAddress))

/-- The parsed bind address in `build_single_upstream_resolver`. -/
def parseBindAddress (outbound : Option OutboundConfig) (server : UpstreamServer) :
    Except String (Option IpAddr) :=
  match effectiveBindAddress outbound server with
  | none => .ok none
  | some text =>
      match parseIpAddr text with
      | some ip => .ok (some ip)
      | none => .error ("invalid bind_address for upstream '" ++ server.address ++
          "': invalid IP address syntax")

/-- `build_single_upstream_resolver`. -/
def buildSingleUpstreamResolver (lib : Libraries) (bootstrap : List SocketAddr)
    (outbound : Option OutboundConfig) (server : UpstreamServer) : Except String ResolverSpec := do
  let bindAddress ← parseBindAddress outbound server
  let fwmark := server.fwmark.or (outbound.bind (·.fwmark))
  let routing : OutboundRouting := ⟨bindAddress, fwmark⟩
  let client ← buildClient lib upstreamWording bootstrap routing server.fields
  return {
    client := client
    routing := routing
    label := some (server.protocol ++ "://" ++ server.address) }

/-- Do these protocols need bootstrap resolvers? -/
def needsBootstrap (protocols : List String) : Bool :=
  protocols.any fun protocol => protocol = "dot" || protocol = "doh"

/-- The bootstrap resolvers of a group: parsed only if some server needs them. -/
def groupBootstrap (protocols bootstrapResolvers : List String) : Except String (List SocketAddr) :=
  if needsBootstrap protocols then parseBootstrapResolvers bootstrapResolvers else .ok []

/-- The strategy of a group. -/
def groupStrategy (strategy : String) : Except String UpstreamStrategy :=
  (UpstreamStrategy.fromStr strategy).elim (.error ("invalid upstream strategy: " ++ strategy)) .ok

/-- `build_upstream_resolver_group`. -/
def buildUpstreamResolverGroup (lib : Libraries) (strategy : String)
    (bootstrapResolvers : List String) (servers : List UpstreamServer)
    (outbound : Option OutboundConfig) (settings : ResolverCacheSettings) :
    Except String UpstreamGroup := do
  let strategy ← groupStrategy strategy
  let enabled := servers.filter (·.enabled)
  if enabled = [] then .error "at least one enabled upstream server is required"
  else do
    let bootstrap ← groupBootstrap (enabled.map (·.protocol)) bootstrapResolvers
    let resolvers ← enabled.mapM (buildSingleUpstreamResolver lib bootstrap outbound)
    return ⟨resolvers, strategy, if settings.enabled then some settings else none⟩

/-- `build_upstream_resolver`. -/
def buildUpstreamResolver (lib : Libraries) (config : DnsFilterConfig) :
    Except String UpstreamGroup := do
  let settings ← buildResolverCacheSettings config
  buildUpstreamResolverGroup lib config.resolvers.strategy config.resolvers.bootstrapResolvers
    config.resolvers.servers config.outbound settings

/-! ## Zones -/

/-- `normalize_name` of `zone_authority.rs`. -/
def normalizeName (value : String) : Option String :=
  let trimmed := trimEndMatches '.' (trim value)
  if trimmed = "" then none else some (toAsciiLowercase trimmed)

/-- `parse_zone_source`. -/
def parseZoneSource (source : String) : Except String ZoneSource :=
  let source := trim source
  if startsWith "http://" source || startsWith "https://" source then .ok (.url source)
  else match stripPrefix "file://" source with
    | some path => .ok (.file path)
    | none =>
        if contains "://" source then
          .error ("unsupported zone source scheme in '" ++ source ++
            "'; use file://, http://, or https://")
        else .ok (.file source)

/-- What a zone is answered from: a loaded document, or upstream servers. -/
inductive ZoneResolver
  | authority (zone : String) (source : ZoneSource) (checkInterval : Option Nat)
      (auth : Option ZoneSourceAuth)
  | upstream (group : UpstreamGroup)
  deriving DecidableEq, Repr

/-- The parts of building zones that reach outside the process. -/
structure ZoneLoaders where
  /-- `load_snapshot`: fetch the document for the zone and check it. -/
  loadSnapshot : String → ZoneSource → Option ZoneSourceAuth → Except String Unit
  /-- `build_zone_discovery_entries`: fetch an index and load the zones it lists that are not among
  the given names. -/
  discoveryEntries : ZoneDiscoveryConfig → List String → Option Nat →
    Except String (List (ZoneEntry ZoneResolver))

section Zones

variable (lib : Libraries) (loaders : ZoneLoaders)

/-- A `check_interval`, in `build_zone_json_resolver` and in `build_zone_entries`. -/
def parseCheckInterval (context : String) (value : Option String) : Except String (Option Nat) :=
  match value with
  | none => .ok none
  | some value =>
      match parseInterval value with
      | .ok secs => .ok (some secs)
      | .error e => .error (context ++ value ++ " (" ++ e ++ ")")

/-- `ZoneAuthorityResolver::from_source`. -/
def zoneAuthorityFromSource (zone source : String) (checkInterval : Option Nat)
    (auth : Option ZoneSourceAuth) : Except String ZoneResolver := do
  let source ← parseZoneSource source
  loaders.loadSnapshot zone source auth
  return .authority zone source checkInterval auth

/-- `is_url` in `build_zone_json_resolver`. -/
def isHttpUrl (address : String) : Bool :=
  startsWith "http://" address || startsWith "https://" address

/-- `build_zone_json_resolver`. -/
def buildZoneJsonResolver (zone : ResolverZoneConfig) (server : ZoneServerConfig) :
    Except String ZoneResolver :=
  let address := trim server.address
  if address = "" then
    .error ("zone '" ++ zone.zone ++
      "' json server has an empty address; expected file://, http://, or https:// URI")
  else
    let isUrl := isHttpUrl address
    if !isUrl && server.checkInterval.isSome then
      .error ("zone '" ++ zone.zone ++
        "' json server sets check_interval but address is not an HTTP(S) URL")
    else do
      let auth ← validateServerAuth zone.zone server.protocol isUrl server.authentication
      let checkInterval ← parseCheckInterval
        ("invalid check_interval for zone '" ++ zone.zone ++ "' json server: ") server.checkInterval
      (zoneAuthorityFromSource loaders zone.zone address checkInterval auth).mapError fun e =>
        "invalid resolver zone '" ++ zone.zone ++ "': " ++ e

/-- `build_single_zone_upstream_resolver`: without any routing. -/
def buildSingleZoneUpstreamResolver (bootstrap : List SocketAddr) (server : ZoneServerConfig) :
    Except String ResolverSpec :=
  (buildClient lib zoneWording bootstrap {} server.fields).map fun client => { client := client }

/-- `build_zone_upstream_resolver_group`. -/
def buildZoneUpstreamResolverGroup (strategy : String) (bootstrapResolvers : List String)
    (servers : List ZoneServerConfig) (settings : ResolverCacheSettings) :
    Except String UpstreamGroup := do
  let strategy ← groupStrategy strategy
  if servers = [] then .error "at least one enabled upstream server is required"
  else do
    let bootstrap ← groupBootstrap (servers.map (·.protocol)) bootstrapResolvers
    let resolvers ← servers.mapM (buildSingleZoneUpstreamResolver lib bootstrap)
    return ⟨resolvers, strategy, if settings.enabled then some settings else none⟩

/-- `build_zone_entry`. -/
def buildZoneEntry (bootstrapResolvers : List String) (settings : ResolverCacheSettings)
    (zone : ResolverZoneConfig) : Except String (ZoneEntry ZoneResolver) :=
  let enabled := zone.servers.filter (·.enabled)
  let jsonServers := enabled.filter (·.protocol = "json")
  let upstreamServers := enabled.filter (·.protocol ≠ "json")
  if enabled = [] then
    .error ("zone '" ++ zone.zone ++
      "' has no enabled servers; add at least one enabled servers entry")
  else match jsonServers, upstreamServers with
    | [server], [] => do
        let resolver ← buildZoneJsonResolver loaders zone server
        ZoneEntry.new zone.zone zone.bypassFilter zone.fallbackToDefaultResolvers resolver
    | _ :: _ :: _, [] =>
        .error ("zone '" ++ zone.zone ++ "' has " ++ toString jsonServers.length ++
          " enabled json servers; only one json authority entry is supported per zone")
    | [], _ => do
        let group ← (buildZoneUpstreamResolverGroup lib (zone.strategy.getD "failover")
          bootstrapResolvers upstreamServers settings).mapError fun e =>
            "invalid resolver zone '" ++ zone.zone ++ "': " ++ e
        ZoneEntry.new zone.zone zone.bypassFilter zone.fallbackToDefaultResolvers (.upstream group)
    | _ :: _, _ :: _ =>
        .error ("zone '" ++ zone.zone ++
          "' mixes 'json' and upstream server entries; mixed mode is not yet supported")

/-- The body of the discovery loop of `build_zone_entries`: a bad interval fails the build, a
source that cannot be loaded is skipped. -/
def buildDiscovered (manualZoneNames : List String) (discovery : ZoneDiscoveryConfig) :
    Except String (List (ZoneEntry ZoneResolver)) := do
  let checkInterval ← parseCheckInterval
    ("invalid check_interval for zone_discovery '" ++ discovery.address ++ "': ")
    discovery.checkInterval
  match loaders.discoveryEntries discovery manualZoneNames checkInterval with
  | .ok entries => return entries
  | .error _ => return []

/-- `build_zone_entries`. -/
def buildZoneEntries (config : DnsFilterConfig) :
    Except String (List (ZoneEntry ZoneResolver)) := do
  let settings ← buildResolverCacheSettings config
  let zones := config.resolvers.zones.filter (·.enabled)
  let entries ← zones.mapM
    (buildZoneEntry lib loaders config.resolvers.bootstrapResolvers settings)
  let discovered ← (config.resolvers.zoneDiscovery.filter (·.enabled)).mapM
    (buildDiscovered loaders (zones.map (·.zone)))
  return entries ++ discovered.flatten

end Zones

end DnsFilter
