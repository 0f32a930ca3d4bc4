import DnsFilter.Bootstrap
import DnsFilter.Lib.WebUrl

/-!
# Zone discovery

`build_zone_discovery_entries` (`zone_discovery.rs`) fetches an index of zones, skips the zones of
other types and those that the configuration defines itself, and loads each remaining zone from its
`href`. A run is described by the sources it passes to `ZoneAuthorityResolver::from_source` and by
its result (`DiscoveryRun`): the first zone that cannot be loaded ends it.

The HTTP client and the JSON decoder (`IndexClient`) and the URL library (`UrlApi`) are parameters.
-/

namespace DnsFilter

open Text WebUrl

/-! ## The index -/

structure ZoneIndexEntry where
  href : String
  name : String
  zoneType : String
  deriving DecidableEq, Repr

/-- What is read of the response to the request for an index. -/
structure IndexResponse where
  contentLength : Option Nat
  text : Except String String

/-- The request for an index, and the decoder of `ZoneIndexDocument`. -/
structure IndexClient where
  /-- `send` and `error_for_status`. -/
  get : String → Option ZoneSourceAuth → Except String IndexResponse
  /-- `serde_json::from_str`. -/
  fromStr : String → Option (List ZoneIndexEntry)

def maxIndexBytes : Nat := 512 * 1024

def tooLarge (bytes : Nat) : String :=
  "zone_discovery: index response too large: " ++ toString bytes ++ " bytes exceeds limit " ++
    toString maxIndexBytes

/-- `fetch_zone_index`. -/
def fetchZoneIndex (client : IndexClient) (url : String) (auth : Option ZoneSourceAuth) :
    Except String (List ZoneIndexEntry) := do
  let response ← client.get url auth
  if maxIndexBytes < response.contentLength.getD 0 then
    .error (tooLarge (response.contentLength.getD 0))
  else do
    let body ← response.text.mapError fun _ =>
      "zone_discovery: failed to read index response from " ++ url
    if maxIndexBytes < body.utf8ByteSize then .error (tooLarge body.utf8ByteSize)
    else match client.fromStr body with
      | some zones => return zones
      | none => .error ("zone_discovery: failed to parse index JSON from " ++ url)

/-! ## The settings -/

def validZoneTypes : List String := ["reverse", "forward", "reverse-aggregate"]

/-- `build_discovery_auth`. -/
def buildDiscoveryAuth (authConfig : Option ZoneServerAuthenticationConfig) :
    Except String (Option ZoneSourceAuth) :=
  match authConfig with
  | none => .ok none
  | some config =>
      let present (value : Option String) : Bool := value.any fun v => trim v ≠ ""
      let hasToken := present config.token
      let hasUsername := present config.username
      let hasPassword := present config.password
      if !hasToken && !hasUsername && !hasPassword then .ok none
      else if hasToken && (hasUsername || hasPassword) then
        .error ("zone_discovery authentication must use either 'token' (Bearer) or " ++
          "'username'/'password' (Basic), not both")
      else if hasUsername ≠ hasPassword then
        .error ("zone_discovery authentication requires both 'username' and 'password' for " ++
          "Basic auth")
      else if hasToken then .ok (some (.bearer (trim (config.token.getD ""))))
      else .ok (some (.basic (trim (config.username.getD "")) (trim (config.password.getD ""))))

/-- The check of `allowed_types`. -/
def checkAllowedType (allowed : String) : Except String Unit :=
  if allowed ∈ validZoneTypes then .ok ()
  else .error ("zone_discovery: invalid allowed_type '" ++ allowed ++
    "'; supported values: [\"reverse\", \"forward\", \"reverse-aggregate\"]")

/-- The part of `build_zone_discovery_entries` before its loop: the settings are checked, the index
is fetched and its address parsed. -/
def openIndex {υ : Type} (urls : UrlApi υ) (client : IndexClient)
    (discovery : ZoneDiscoveryConfig) :
    Except String (List ZoneIndexEntry × υ × Option ZoneSourceAuth) :=
  let address := trim discovery.address
  if address = "" then .error "zone_discovery entry has an empty address"
  else if !startsWith "http://" address && !startsWith "https://" address then
    .error ("zone_discovery address must be an HTTP(S) URL, got: " ++ address)
  else do
    let auth ← buildDiscoveryAuth discovery.authentication
    discovery.allowedTypes.forM checkAllowedType
    let index ← fetchZoneIndex client address auth
    let baseUrl ← (urls.parse address).mapError fun _ =>
      "zone_discovery: failed to parse base URL: " ++ address
    return (index, baseUrl, auth)

/-! ## The loop -/

/-- `normalize_discovery_zone`. -/
def normalizeDiscoveryZone (name : String) : String :=
  let s := toAsciiLowercase (trim name)
  (stripSuffix "." s).getD s

/-- `resolve_href`. -/
def resolveHref {υ : Type} (urls : UrlApi υ) (baseUrl : υ) (href : String) :
    Except String String :=
  if startsWith "http://" href || startsWith "https://" href then .ok href
  else match urls.join baseUrl href with
    | .ok resolved => .ok (urls.toText resolved)
    | .error e => .error ("cannot resolve href '" ++ href ++ "': " ++ e)

/-- Does an item have an allowed type? An empty list allows every type. -/
def ZoneDiscoveryConfig.allows (discovery : ZoneDiscoveryConfig) (item : ZoneIndexEntry) : Bool :=
  discovery.allowedTypes.isEmpty || discovery.allowedTypes.any (eqIgnoreAsciiCase · item.zoneType)

/-- Is an item one of the zones that are configured already? -/
def ZoneIndexEntry.isConfigured (item : ZoneIndexEntry) (existingZoneNames : List String) : Bool :=
  existingZoneNames.any fun existing =>
    normalizeDiscoveryZone existing == normalizeDiscoveryZone item.name

/-- What a run of `build_zone_discovery_entries` does: the sources that it passes to `from_source`,
in order, and its result. -/
structure DiscoveryRun where
  sources : List String := []
  result : Except String (List (ZoneEntry ZoneResolver))

section Loop

variable {υ : Type} (urls : UrlApi υ) (client : IndexClient) (loaders : ZoneLoaders)
  (discovery : ZoneDiscoveryConfig) (existingZoneNames : List String) (checkInterval : Option Nat)

/-- The end of the loop's body: the zone is loaded from its source and its entry made. -/
def importZone (auth : Option ZoneSourceAuth) (item : ZoneIndexEntry) (source : String) :
    Except String (ZoneEntry ZoneResolver) := do
  let resolver ← (zoneAuthorityFromSource loaders item.name source checkInterval auth).mapError
    fun _ => "zone_discovery: failed to load zone '" ++ item.name ++ "' from " ++ source
  (ZoneEntry.new item.name discovery.bypassFilter discovery.fallbackToDefaultResolvers
    resolver).mapError fun _ =>
      "zone_discovery: failed to create zone entry for '" ++ item.name ++ "'"

/-- The loop of `build_zone_discovery_entries`. -/
def importZones (baseUrl : υ) (auth : Option ZoneSourceAuth) : List ZoneIndexEntry → DiscoveryRun
  | [] => { result := .ok [] }
  | item :: items =>
      if !discovery.allows item then importZones baseUrl auth items
      else if item.isConfigured existingZoneNames then importZones baseUrl auth items
      else match resolveHref urls baseUrl item.href with
        | .error _ =>
            { result := .error ("zone_discovery: failed to resolve href '" ++ item.href ++
                "' for zone '" ++ item.name ++ "'") }
        | .ok source =>
            match importZone loaders discovery checkInterval auth item source with
            | .error e => { sources := [source], result := .error e }
            | .ok entry =>
                let rest := importZones baseUrl auth items
                { sources := source :: rest.sources
                  result := rest.result.map fun entries => entry :: entries }

/-- `build_zone_discovery_entries`, with the sources that it loads. -/
def discoveryRun : DiscoveryRun :=
  match openIndex urls client discovery with
  | .error e => { result := .error e }
  | .ok (index, baseUrl, auth) =>
      importZones urls loaders discovery existingZoneNames checkInterval baseUrl auth index

/-- `build_zone_discovery_entries`. -/
def buildZoneDiscoveryEntries : Except String (List (ZoneEntry ZoneResolver)) :=
  (discoveryRun urls client loaders discovery existingZoneNames checkInterval).result

end Loop

/-- Zone loaders that run discovery. -/
def ZoneLoaders.withDiscovery {υ : Type} (loaders : ZoneLoaders) (urls : UrlApi υ)
    (client : IndexClient) : ZoneLoaders where
  loadSnapshot := loaders.loadSnapshot
  discoveryEntries := buildZoneDiscoveryEntries urls client loaders

end DnsFilter
