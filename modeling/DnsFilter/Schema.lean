/-!
# Configuration schema

The operational part of the configuration document (`frameworks/config/schema.rs`): filter
lists, filtering settings, resolvers and zones. Only the sections the modelled functions read
are kept; listeners, logging, security, API and plugin sections are not.
-/

namespace DnsFilter

/-- A blocklist or allowlist of the configuration. -/
structure NamedList where
  name : String
  url : String
  interval : Option String := none
  enabled : Option Bool := none
  listType : Option String := none
  deriving DecidableEq, Repr

structure FilteringConfig where
  sinkholeIpv4 : Option String := none
  sinkholeIpv6 : Option String := none
  anyQueryPolicy : Option String := none
  deriving DecidableEq, Repr

/-- Credentials of an HTTP(S)-based server: `token` (Bearer), or `username` and `password`
(Basic). -/
structure ZoneServerAuthenticationConfig where
  token : Option String := none
  username : Option String := none
  password : Option String := none
  deriving DecidableEq, Repr

structure UpstreamServer where
  enabled : Bool
  protocol : String
  address : String
  authentication : Option ZoneServerAuthenticationConfig := none
  maxHops : Option UInt8 := none
  nameserverIpFamily : Option String := none
  rootHintsPath : Option String := none
  rootKeyPath : Option String := none
  dnssec : Option Bool := none
  bindAddress : Option String := none
  fwmark : Option UInt32 := none
  deriving DecidableEq, Repr

structure ZoneServerConfig where
  enabled : Bool
  protocol : String
  address : String
  authentication : Option ZoneServerAuthenticationConfig := none
  checkInterval : Option String := none
  maxHops : Option UInt8 := none
  nameserverIpFamily : Option String := none
  rootHintsPath : Option String := none
  rootKeyPath : Option String := none
  dnssec : Option Bool := none
  deriving DecidableEq, Repr

structure ResolverZoneConfig where
  zone : String
  enabled : Bool := true
  bypassFilter : Bool := false
  fallbackToDefaultResolvers : Bool := false
  strategy : Option String := none
  servers : List ZoneServerConfig := []
  deriving DecidableEq, Repr

structure ZoneDiscoveryConfig where
  enabled : Bool := true
  address : String
  checkInterval : Option String := none
  allowedTypes : List String := []
  bypassFilter : Bool := false
  fallbackToDefaultResolvers : Bool := false
  authentication : Option ZoneServerAuthenticationConfig := none
  deriving DecidableEq, Repr

structure ResolverCacheConfig where
  enabled : Bool := true
  minTtl : Option String := none
  maxTtl : Option String := none
  maxEntries : Option Nat := none
  deriving DecidableEq, Repr

structure ResolversConfig where
  strategy : String
  bootstrapResolvers : List String
  cache : Option ResolverCacheConfig := none
  zones : List ResolverZoneConfig := []
  zoneDiscovery : List ZoneDiscoveryConfig := []
  servers : List UpstreamServer
  deriving DecidableEq, Repr

/-- Global defaults for outbound upstream connections. -/
structure OutboundConfig where
  bindAddress : Option String := none
  fwmark : Option UInt32 := none
  deriving DecidableEq, Repr

structure DnsFilterConfig where
  blocklists : List NamedList := []
  allowlists : List NamedList := []
  filtering : Option FilteringConfig := none
  resolvers : ResolversConfig
  outbound : Option OutboundConfig := none
  deriving DecidableEq, Repr

end DnsFilter
