import DnsFilter.Pipeline
import DnsFilter.Lib.Run
import Mathlib.Data.List.AList
import Mathlib.Data.Nat.PSub

/-!
# The response cache

`CachedUpstreamResolver` (`upstream_resolver.rs`): responses are kept under the query with its ID
zeroed, for as long as their records live, and are served with the client's ID and aged TTLs.

A call of `resolve` is atomic up to the call of the inner resolver and again from its return, so
calls overlap at the inner call only. `CacheState.step` has one label for each half, and a trace
of what the inner resolver returned and what was returned to the clients.

Durations and instants are nanoseconds.
-/

namespace DnsFilter

/-- `Duration::from_secs`. -/
def fromSecs (secs : Nat) : Nat := secs * 1000000000

/-- `Duration::as_secs`: whole seconds. -/
def asSecs (duration : Nat) : Nat := duration / 1000000000

/-! ## Settings -/

structure ResolverCacheSettings where
  enabled : Bool := false
  minTtl : Option Nat := none
  maxTtl : Option Nat := none
  maxEntries : Nat := 10000
  deriving DecidableEq, Repr

namespace ResolverCacheSettings

/-- `validate`. -/
def validate (settings : ResolverCacheSettings) : Except String Unit :=
  match settings.minTtl, settings.maxTtl with
  | some minTtl, some maxTtl =>
      if minTtl > maxTtl then
        .error "resolvers.cache.min_ttl must be less than or equal to resolvers.cache.max_ttl"
      else .ok ()
  | _, _ => .ok ()

/-- `clamp_ttl`; a zero duration means that nothing is stored. -/
def clampTtl (settings : ResolverCacheSettings) (ttl : Nat) : Option Nat :=
  let ttl := match settings.minTtl with
    | some minTtl => max ttl minTtl
    | none => ttl
  let ttl := match settings.maxTtl with
    | some maxTtl => min ttl maxTtl
    | none => ttl
  if ttl = 0 then none else some ttl

end ResolverCacheSettings

/-! ## Keys, TTLs and ages -/

/-- `normalize_cache_key`. -/
def normalizeCacheKey : Bytes → Bytes
  | _ :: _ :: rest => 0 :: 0 :: rest
  | query => query

/-- `decrement_record_ttls`. -/
def decrementRecordTtls (records : List Record) (ageSecs : UInt32) : List Record :=
  records.map fun record => { record with
    ttl := if ageSecs ≤ record.ttl then record.ttl - ageSecs else 0 }

/-- `is_truncated_response`. -/
def isTruncatedResponse (response : Bytes) : Bool :=
  match response[2]? with
  | some flags => flags &&& 0b00000010 != 0
  | none => false

/-- `min_record_ttl`. -/
def minRecordTtl (records : List Record) : Option Nat :=
  (records.map fun record => fromSecs record.ttl.toNat).min?

/-- `negative_cache_ttl`: the first SOA of the authority section decides. -/
def negativeCacheTtl (message : Message) : Option Nat :=
  message.authorities.findSome? fun record =>
    match record.data with
    | .soa soa => some (fromSecs (min record.ttl.toNat soa.minimum.toNat))
    | _ => none

section Codec

variable (codec : MessageCodec)

/-- `scrub_response_id`. -/
def scrubResponseId (response : Bytes) : Bytes :=
  match codec.fromVec response with
  | some message => (codec.toVec (message.withId 0)).getD response
  | none => response

/-- `rehydrate_cached_response`. -/
def rehydrateCachedResponse (response : Bytes) (age : Nat) (clientQueryId : UInt16) : Bytes :=
  match codec.fromVec response with
  | some message =>
      let ageSecs := UInt32.ofNat (min (asSecs age) (2 ^ 32 - 1))
      let message := message.withId clientQueryId
      (codec.toVec { message with
        answers := decrementRecordTtls message.answers ageSecs
        authorities := decrementRecordTtls message.authorities ageSecs
        additionals := decrementRecordTtls message.additionals ageSecs }).getD response
  | none => response

/-- The TTL `cache_ttl` takes from a message, before it is clamped. -/
def messageTtl (message : Message) : Option Nat :=
  match message.metadata.responseCode with
  | .noError => (minRecordTtl message.answers).or (negativeCacheTtl message)
  | .nxDomain => negativeCacheTtl message
  | _ => none

/-- `cache_ttl`. -/
def cacheTtl (response : Bytes) (settings : ResolverCacheSettings) : Option Nat :=
  if isTruncatedResponse response then none
  else do
    let message ← codec.fromVec response
    let ttl ← messageTtl message
    settings.clampTtl ttl

end Codec

/-! ## The resolver -/

structure CachedResponse where
  response : Bytes
  storedAt : Nat
  expiresAt : Nat
  deriving DecidableEq, Repr

/-- The entries of the cache, by normalised query. -/
abbrev CacheMap := AList fun _ : Bytes => CachedResponse

/-- `entries.retain(|_, v| v.expires_at > now)`. -/
def retainUnexpired (now : Nat) (entries : CacheMap) : CacheMap :=
  (entries.keys.filter fun key => !((entries.lookup key).any (now < ·.expiresAt))).foldl
    (fun entries key => entries.erase key) entries

/-- The keys by expiry, soonest first; entries that expire together stay in iteration order. -/
def byExpiry (entries : CacheMap) (order : List Bytes) : List Bytes :=
  order.insertionSort fun a b =>
    ((entries.lookup a).map (·.expiresAt)).getD 0 ≤ ((entries.lookup b).map (·.expiresAt)).getD 0

/-- Drop what has expired if the cache is full. -/
def dropExpired (settings : ResolverCacheSettings) (now : Nat) (entries : CacheMap) : CacheMap :=
  if entries.keys.length ≥ settings.maxEntries then retainUnexpired now entries else entries

/-- If the cache is still full, drop the entries closest to expiry. `order` is the order in which
the hash map is iterated; `none` is an underflow of the `usize` subtraction. -/
def evictSoonest (settings : ResolverCacheSettings) (order : List Bytes) (entries : CacheMap) :
    Option CacheMap :=
  if entries.keys.length ≥ settings.maxEntries then do
    let toRemove ← Nat.psub' entries.keys.length (settings.maxEntries / 2)
    return ((byExpiry entries (order.filter (· ∈ entries.keys))).take toRemove).foldl
      (fun entries key => entries.erase key) entries
  else some entries

/-- Make room before an insert; `none` is the underflow of `evictSoonest`. -/
def makeRoom (settings : ResolverCacheSettings) (now : Nat) (order : List Bytes)
    (entries : CacheMap) : Option CacheMap :=
  evictSoonest settings order (dropExpired settings now entries)

/-- A call of `resolve`: its query and the instant it read at its start. -/
structure CacheCall where
  number : Nat
  query : Bytes
  start : Nat
  deriving DecidableEq, Repr

inductive CacheEvent
  /-- The inner resolver returned to this call. -/
  | innerReturned (call : CacheCall) (result : Except UpstreamResolveError Bytes)
  /-- `resolve` returned to its caller. -/
  | returned (call : CacheCall) (result : Except UpstreamResolveError Bytes)
  deriving DecidableEq

/-- The cache, the calls that wait for the inner resolver, the clock and what happened so far. -/
structure CacheState where
  entries : CacheMap := ∅
  pending : List CacheCall := []
  calls : Nat := 0
  now : Nat := 0
  trace : List CacheEvent := []

inductive CacheStep
  /-- A call starts at this instant; a hit is served at once. -/
  | lookup (now : Nat) (query : Bytes)
  /-- The inner resolver returns to a waiting call; `order` is the iteration order of the entries
  at that moment. -/
  | complete (call : Nat) (result : Except UpstreamResolveError Bytes) (order : List Bytes)

/-- The entry a call finds, if it has not expired. -/
def CacheState.fresh (state : CacheState) (now : Nat) (query : Bytes) : Option CachedResponse :=
  (state.entries.lookup (normalizeCacheKey query)).filter (now < ·.expiresAt)

/-- One half of a call of `resolve`; `none` if it cannot happen in this state, or if making room
underflows. -/
def CacheState.step (codec : MessageCodec) (settings : ResolverCacheSettings) (state : CacheState) :
    CacheStep → Option CacheState
  | .lookup now query =>
      -- the clock does not run backwards
      if now < state.now then none
      else
        let call : CacheCall := ⟨state.calls, query, now⟩
        let state := { state with calls := state.calls + 1, now := now }
        match state.fresh now query with
        | some entry =>
            let response := rehydrateCachedResponse codec entry.response (now - entry.storedAt)
              (queryId query)
            some { state with trace := state.trace ++ [CacheEvent.returned call (.ok response)] }
        | none => some { state with pending := state.pending ++ [call] }
  | .complete i result order =>
      match state.pending[i]? with
      | none => none
      | some call =>
          let trace := state.trace ++
            [CacheEvent.innerReturned call result, CacheEvent.returned call result]
          let state := { state with pending := state.pending.eraseIdx i, trace := trace }
          match result with
          | .error _ => some state
          | .ok response =>
              match cacheTtl codec response settings with
              | none => some state
              | some ttl =>
                  if order.Perm state.entries.keys then do
                    let room ← makeRoom settings call.start order state.entries
                    return { state with
                      entries := room.insert (normalizeCacheKey call.query)
                        { response := scrubResponseId codec response
                          storedAt := call.start
                          expiresAt := call.start + ttl } }
                  else none

end DnsFilter
