import DnsFilter.Lib.Yaml

/-!
# Merging the user's configuration with the example

`merger.rs`: the configuration file of the user is laid over the embedded example, mapping by
mapping. Before that, the legacy key `address` of the listeners becomes `addresses` on both sides.

Reading and printing YAML is done by a library (`YamlLibrary`). Removing a key of a mapping moves
the last entry into its place.
-/

namespace DnsFilter.Merger

open Yaml IndexMap

variable {κ : Type} [DecidableEq κ]

/-! ## Merging -/

mutual

/-- `deep_merge`. -/
def deepMerge (base : Value κ) : Value κ → Value κ
  | .mapping overlayMap =>
      match base with
      | .mapping baseMap => .mapping (mergeEntries baseMap overlayMap)
      | _ => .mapping overlayMap
  | overlay => overlay

/-- The loop of `deep_merge`: each entry of the overlay is removed from the base, merged and
inserted again. -/
def mergeEntries (baseMap : List (Key κ × Value κ)) :
    List (Key κ × Value κ) → List (Key κ × Value κ)
  | [] => baseMap
  | (key, overlayVal) :: rest =>
      let merged := match get key baseMap with
        | some baseVal => deepMerge baseVal overlayVal
        | none => overlayVal
      mergeEntries (insert key merged (swapRemove key baseMap)) rest

end

/-! ## Legacy addresses -/

def listenKey : Key κ := .string "listen"
def addressKey : Key κ := .string "address"
def addressesKey : Key κ := .string "addresses"

/-- The list that replaces a legacy address. -/
def addressList : Value κ → Value κ
  | .string s => .sequence [.string s]
  | .sequence items => .sequence items
  | other => .sequence [other]

/-- A section under `listen` in `normalize_listen_addresses`. -/
def normalizeSection (entries : List (Key κ × Value κ)) : List (Key κ × Value κ) :=
  let hasAddresses := (get addressesKey entries).isSome
  let hasAddress := (get addressKey entries).isSome
  if hasAddress && hasAddresses then swapRemove addressKey entries
  else if hasAddress && !hasAddresses then
    match get addressKey entries with
    | some address =>
        insert addressesKey (addressList address) (swapRemove addressKey entries)
    | none => entries
  else entries

/-- The body of its loop; a value that is no mapping is left alone. -/
def normalizeListener : Value κ → Value κ
  | .mapping entries => .mapping (normalizeSection entries)
  | other => other

/-- The loop over the keys of `listen`. -/
def normalizeListen : Value κ → Value κ
  | .mapping listen => .mapping (modifyEach normalizeListener (listen.map Prod.fst) listen)
  | other => other

/-- `normalize_listen_addresses`. -/
def normalizeListenAddresses : Value κ → Value κ
  | .mapping root => .mapping (modify listenKey normalizeListen root)
  | other => other

/-! ## The example -/

/-- `EXAMPLE_CONFIG` without its comments. -/
def exampleConfigText : String :=
  "listen:\n  dns:\n    enabled: true\n    port: 53\n    addresses: [\"0.0.0.0\", \"::\"]\n" ++
  "blocklists: []\nallowlists: []\n" ++
  "filtering:\n  sinkhole_ipv4: \"0.0.0.0\"\n  sinkhole_ipv6: \"::\"\n" ++
  "  any_query_policy: \"notimp\"\n" ++
  "resolvers:\n  strategy: \"round_robin\"\n  cache:\n    enabled: true\n" ++
  "    max_entries: 10000\n    min_ttl: \"60s\"\n    max_ttl: \"1h\"\n" ++
  "  bootstrap_resolvers:\n    - \"194.242.2.2\"\n    - \"2a07:e340::2\"\n" ++
  "  servers:\n    - enabled: true\n      protocol: \"doh\"\n" ++
  "      address: \"https://dns.mullvad.net/dns-query\"\n" ++
  "  zones: []\n  zone_discovery: []\nplugins: []\n" ++
  "logging:\n  stdout:\n    enabled: true\n    level: info\n" ++
  "control:\n  socket_path: \"run/dns-filter.sock\"\n" ++
  "database:\n  url: \"sqlite://db/dns-filter.db\"\n"

/-- A mapping with strings as keys. -/
def record (fields : List (String × Value κ)) : Value κ :=
  .mapping (fields.map fun (key, value) => (.string key, value))

/-- What the example says. -/
def exampleConfig : Value κ :=
  record [
    ("listen", record [
      ("dns", record [
        ("enabled", .bool true), ("port", .number (.posInt 53)),
        ("addresses", .sequence [.string "0.0.0.0", .string "::"])])]),
    ("blocklists", .sequence []),
    ("allowlists", .sequence []),
    ("filtering", record [
      ("sinkhole_ipv4", .string "0.0.0.0"), ("sinkhole_ipv6", .string "::"),
      ("any_query_policy", .string "notimp")]),
    ("resolvers", record [
      ("strategy", .string "round_robin"),
      ("cache", record [
        ("enabled", .bool true), ("max_entries", .number (.posInt 10000)),
        ("min_ttl", .string "60s"), ("max_ttl", .string "1h")]),
      ("bootstrap_resolvers", .sequence [.string "194.242.2.2", .string "2a07:e340::2"]),
      ("servers", .sequence [record [
        ("enabled", .bool true), ("protocol", .string "doh"),
        ("address", .string "https://dns.mullvad.net/dns-query")]]),
      ("zones", .sequence []),
      ("zone_discovery", .sequence [])]),
    ("plugins", .sequence []),
    ("logging", record [
      ("stdout", record [("enabled", .bool true), ("level", .string "info")])]),
    ("control", record [("socket_path", .string "run/dns-filter.sock")]),
    ("database", record [("url", .string "sqlite://db/dns-filter.db")])]

/-- `serde_yaml::from_str` and `serde_yaml::to_string`. -/
structure YamlLibrary (κ : Type) where
  fromStr : String → Option (Value κ)
  toText : Value κ → Option String

/-- The merged configuration, before it is printed. -/
def mergeValues (base overlay : Value κ) : Value κ :=
  deepMerge (normalizeListenAddresses base) (normalizeListenAddresses overlay)

/-- `merge_with_example`; errors are given by their context. -/
def mergeWithExample (lib : YamlLibrary κ) (userConfig : String) : Except String String := do
  let base ← (lib.fromStr exampleConfigText).elim
    (.error "failed to parse embedded example config (this is a bug)") .ok
  let overlay ← (lib.fromStr userConfig).elim (.error "failed to parse user config file") .ok
  (lib.toText (mergeValues base overlay)).elim
    (.error "failed to serialize merged config") .ok

end DnsFilter.Merger
