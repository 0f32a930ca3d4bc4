import DnsFilter.Cache
import DnsFilter.Lib.Map

/-!
# The response cache: what is served

* `Justified` — a response is either the inner resolver's to this very call, or an earlier response
  to the same question, aged, under the client's ID, and not older than its clamped TTL.
* `Inv` — every entry stems from a response of the inner resolver, every returned response is
  justified. Each half of a call keeps it (`inv_step`).
* `served_responses` — so it holds along every run. That answers are never served with TTL zero
  needs a condition on the NXDOMAIN responses of the inner resolver
  (`zero_ttl_from_nxDomain`): their TTL is taken from the SOA alone.
-/

namespace DnsFilter

/-! ## Aged messages -/

/-- The record after `secs` seconds. -/
def Record.aged (secs : Nat) (record : Record) : Record :=
  { record with ttl := UInt32.ofNat (record.ttl.toNat - secs) }

/-- The message under another ID, `secs` seconds later; nothing else changes. -/
def Message.aged (id : UInt16) (secs : Nat) (message : Message) : Message :=
  { message.withId id with
    answers := message.answers.map (Record.aged secs)
    authorities := message.authorities.map (Record.aged secs)
    additionals := message.additionals.map (Record.aged secs) }

theorem decrementRecordTtls_eq (records : List Record) (secs : Nat) :
    decrementRecordTtls records (UInt32.ofNat (min secs (2 ^ 32 - 1))) =
      records.map (Record.aged secs) := by
  refine List.map_congr_left fun record _ => ?_
  rw [Record.aged]
  congr 1
  have hcap : (UInt32.ofNat (min secs (2 ^ 32 - 1))).toNat = min secs (2 ^ 32 - 1) := by
    rw [UInt32.toNat_ofNat']
    omega
  have httl := record.ttl.toNat_lt
  split
  · rename_i hle
    rw [← UInt32.toNat_inj, UInt32.toNat_sub_of_le _ _ hle, hcap, UInt32.toNat_ofNat']
    rw [UInt32.le_iff_toNat_le, hcap] at hle
    omega
  · rename_i hlt
    rw [UInt32.le_iff_toNat_le, hcap] at hlt
    have : record.ttl.toNat - secs = 0 := by omega
    rw [this]
    rfl

theorem Record.aged_zero (record : Record) : record.aged 0 = record := by
  simp [Record.aged]

theorem Message.withId_eq_aged (message : Message) (id : UInt16) :
    message.withId id = message.aged id 0 := by
  have hzero : ∀ records : List Record, records.map (Record.aged 0) = records := fun records => by
    conv_rhs => rw [← List.map_id records]
    exact List.map_congr_left fun record _ => record.aged_zero
  simp [Message.aged, Message.withId, hzero]

/-! ## Keys -/

/-- The queries differ in the two ID bytes at most. -/
def SameButId (query query' : Bytes) : Prop :=
  query.length = query'.length ∧ query.drop 2 = query'.drop 2 ∧
    (query.length < 2 → query = query')

theorem sameButId_of_key {query query' : Bytes}
    (h : normalizeCacheKey query = normalizeCacheKey query') : SameButId query query' := by
  match query, query' with
  | [], [] => exact ⟨rfl, rfl, fun _ => rfl⟩
  | [a], [b] => exact ⟨rfl, rfl, fun _ => h⟩
  | _ :: _ :: rest, _ :: _ :: rest' =>
      simp only [normalizeCacheKey, List.cons.injEq, true_and] at h
      subst h
      exact ⟨rfl, rfl, fun hlt => absurd hlt (by simp)⟩
  | [], [_] => simp [normalizeCacheKey] at h
  | [_], [] => simp [normalizeCacheKey] at h
  | [], _ :: _ :: _ => simp [normalizeCacheKey] at h
  | _ :: _ :: _, [] => simp [normalizeCacheKey] at h
  | [_], _ :: _ :: _ => simp [normalizeCacheKey] at h
  | _ :: _ :: _, [_] => simp [normalizeCacheKey] at h

/-! ## TTLs -/

variable {codec : MessageCodec} {settings : ResolverCacheSettings}

/-- A response that is stored parses, is not truncated and says NOERROR or NXDOMAIN. -/
theorem cacheTtl_eq_some {response : Bytes} {ttl : Nat}
    (h : cacheTtl codec response settings = some ttl) :
    isTruncatedResponse response = false ∧ ∃ message raw, codec.fromVec response = some message ∧
      messageTtl message = some raw ∧ settings.clampTtl raw = some ttl := by
  rw [cacheTtl] at h
  split at h
  · exact absurd h (by simp)
  · rename_i htrunc
    obtain ⟨message, hmsg, h⟩ := Option.bind_eq_some_iff.1 h
    obtain ⟨raw, hraw, h⟩ := Option.bind_eq_some_iff.1 h
    exact ⟨by simpa using htrunc, message, raw, hmsg, hraw, h⟩

theorem messageTtl_code {message : Message} {raw : Nat} (h : messageTtl message = some raw) :
    message.metadata.responseCode = .noError ∨ message.metadata.responseCode = .nxDomain := by
  cases hcode : message.metadata.responseCode <;> simp [messageTtl, hcode] at h ⊢

theorem clampTtl_le {raw ttl : Nat} (hmin : settings.minTtl = none)
    (h : settings.clampTtl raw = some ttl) : ttl ≤ raw := by
  cases hmax : settings.maxTtl with
  | none =>
      simp only [ResolverCacheSettings.clampTtl, hmin, hmax] at h
      split at h
      · exact absurd h (by simp)
      · exact (Option.some.inj h).ge
  | some maxTtl =>
      simp only [ResolverCacheSettings.clampTtl, hmin, hmax] at h
      split at h
      · exact absurd h (by simp)
      · exact (Option.some.inj h) ▸ min_le_left _ _

theorem minRecordTtl_le {records : List Record} {raw : Nat} (h : minRecordTtl records = some raw)
    {record : Record} (hmem : record ∈ records) : raw ≤ fromSecs record.ttl.toNat :=
  (List.min?_eq_some_iff.1 h).2 _ (List.mem_map_of_mem hmem)

/-- The answers of this response outlive it in the cache: true of every NOERROR response that is
stored without a minimum TTL, a condition on NXDOMAIN responses. -/
def AnswersOutlive (message : Message) (ttl : Nat) : Prop :=
  ∀ record ∈ message.answers, ttl ≤ fromSecs record.ttl.toNat

instance (message : Message) (ttl : Nat) : Decidable (AnswersOutlive message ttl) :=
  inferInstanceAs (Decidable (∀ record ∈ message.answers, ttl ≤ fromSecs record.ttl.toNat))

theorem answersOutlive_of_noError (hmin : settings.minTtl = none) {message : Message}
    {raw ttl : Nat}
    (hcode : message.metadata.responseCode = .noError) (hraw : messageTtl message = some raw)
    (hclamp : settings.clampTtl raw = some ttl) : AnswersOutlive message ttl := by
  intro record hrecord
  simp only [messageTtl, hcode] at hraw
  cases hmin? : minRecordTtl message.answers with
  | none =>
      rw [minRecordTtl, List.min?_eq_none_iff, List.map_eq_nil_iff] at hmin?
      rw [hmin?] at hrecord
      exact absurd hrecord (by simp)
  | some least =>
      rw [hmin?, Option.some_or, Option.some.injEq] at hraw
      subst hraw
      exact (clampTtl_le hmin hclamp).trans (minRecordTtl_le hmin? hrecord)

/-- An answer that outlives the entry has a positive TTL whenever the entry is served. -/
theorem one_le_ttl_aged {message : Message} {ttl age : Nat} (h : AnswersOutlive message ttl)
    (hage : age < ttl) (id : UInt16) :
    ∀ record ∈ (message.aged id (asSecs age)).answers, 1 ≤ record.ttl.toNat := by
  intro record hrecord
  obtain ⟨original, horiginal, rfl⟩ := List.mem_map.1 hrecord
  have hlt : asSecs age < original.ttl.toNat := by
    have := hage.trans_le (h original horiginal)
    rw [asSecs, Nat.div_lt_iff_lt_mul (by decide)]
    exact this
  have hbound := original.ttl.toNat_lt
  rw [Record.aged, UInt32.toNat_ofNat']
  omega

/-! ## The invariant -/

/-- Where a response under this key came from: the inner resolver returned it to an earlier call,
and it is to be cached for `ttl`. -/
structure Source (codec : MessageCodec) (settings : ResolverCacheSettings)
    (trace : List CacheEvent) (key : Bytes) (origin : CacheCall) (response : Bytes)
    (message : Message) (ttl : Nat) : Prop where
  returned : .innerReturned origin (.ok response) ∈ trace
  key_eq : normalizeCacheKey origin.query = key
  parsed : codec.fromVec response = some message
  cached : cacheTtl codec response settings = some ttl

/-- The response derives from an earlier one: same question, the client's ID, TTLs aged by whole
seconds, younger than the clamped TTL. -/
def FromCache (codec : MessageCodec) (settings : ResolverCacheSettings) (before : List CacheEvent)
    (call : CacheCall) (response : Bytes) : Prop :=
  ∃ origin original message ttl,
    .innerReturned origin (.ok original) ∈ before ∧ SameButId origin.query call.query ∧
    codec.fromVec original = some message ∧ cacheTtl codec original settings = some ttl ∧
    origin.start ≤ call.start ∧ call.start - origin.start < ttl ∧
    codec.fromVec response =
      some (message.aged (queryId call.query) (asSecs (call.start - origin.start))) ∧
    (settings.minTtl = none → ∀ served, codec.fromVec response = some served →
      ∀ record ∈ served.answers, 1 ≤ record.ttl.toNat)

/-- A returned response is the inner resolver's to this call or comes from the cache. -/
def Justified (codec : MessageCodec) (settings : ResolverCacheSettings) (before : List CacheEvent)
    (call : CacheCall) (response : Bytes) : Prop :=
  (∃ earlier, before = earlier ++ [CacheEvent.innerReturned call (.ok response)]) ∨
    FromCache codec settings before call response

/-- The NXDOMAIN responses that are stored have answers that outlive them. -/
def NxAnswersOutlive (codec : MessageCodec) (settings : ResolverCacheSettings)
    (response : Bytes) : Prop :=
  ∀ message, codec.fromVec response = some message →
    message.metadata.responseCode = .nxDomain →
    ∀ ttl, cacheTtl codec response settings = some ttl → AnswersOutlive message ttl

/-- The condition on a step: what the inner resolver returns meets `NxAnswersOutlive`, unless a
minimum TTL is set. -/
def CacheStep.Outlives (codec : MessageCodec) (settings : ResolverCacheSettings) : CacheStep → Prop
  | .complete _ (.ok response) _ =>
      settings.minTtl = none → NxAnswersOutlive codec settings response
  | _ => True

/-- Every response of the inner resolver, once decoded, can be encoded again under any ID and at any
age. -/
def MessageCodec.RoundTripsAged (codec : MessageCodec) : Prop :=
  ∀ bytes message, codec.fromVec bytes = some message → ∀ id secs,
    codec.RoundTripsOn (message.aged id secs)

namespace CacheState

structure Inv (codec : MessageCodec) (settings : ResolverCacheSettings) (state : CacheState) :
    Prop where
  entries : ∀ key entry, state.entries.lookup key = some entry →
    ∃ origin response message ttl,
      Source codec settings state.trace key origin response message ttl ∧
      entry.response = scrubResponseId codec response ∧ entry.storedAt = origin.start ∧
      entry.expiresAt = origin.start + ttl
  clock : (∀ call ∈ state.pending, call.start ≤ state.now) ∧
    ∀ call result, .innerReturned call result ∈ state.trace → call.start ≤ state.now
  outlives : settings.minTtl = none → ∀ call response,
    .innerReturned call (.ok response) ∈ state.trace → NxAnswersOutlive codec settings response
  justified : ∀ before after call response,
    state.trace = before ++ CacheEvent.returned call (.ok response) :: after →
    Justified codec settings before call response

theorem inv_initial : Inv codec settings {} where
  entries key entry h := absurd h (by simp)
  clock := ⟨fun call h => absurd h (by simp), fun call result h => absurd h (by simp)⟩
  outlives _ call response h := absurd h (by simp)
  justified before after call response h := absurd h (by simp)

/-! ### A hit -/

/-- Serving an entry decodes to the aged original. -/
theorem fromVec_rehydrate (hcodec : codec.RoundTripsAged) {response : Bytes} {message : Message}
    (hmsg : codec.fromVec response = some message) (age : Nat) (id : UInt16) :
    codec.fromVec (rehydrateCachedResponse codec (scrubResponseId codec response) age id) =
      some (message.aged id (asSecs age)) := by
  obtain ⟨scrubbed, hscrub, hscrubbed⟩ := hcodec response message hmsg 0 0
  obtain ⟨bytes, htoVec, hfromVec⟩ := hcodec response message hmsg id (asSecs age)
  rw [← Message.withId_eq_aged] at hscrub hscrubbed
  have hstored : scrubResponseId codec response = scrubbed := by
    rw [scrubResponseId, hmsg]
    simp only [hscrub, Option.getD_some]
  have hserved : rehydrateCachedResponse codec scrubbed age id = bytes := by
    simp only [rehydrateCachedResponse, hscrubbed, decrementRecordTtls_eq]
    change (codec.toVec (message.aged id (asSecs age))).getD scrubbed = bytes
    rw [htoVec, Option.getD_some]
  rw [hstored, hserved, hfromVec]

theorem fromCache_of_fresh (hcodec : codec.RoundTripsAged) {state : CacheState}
    (h : Inv codec settings state) {number now : Nat} {query : Bytes} {entry : CachedResponse}
    (hnow : state.now ≤ now) (hfresh : state.fresh now query = some entry) :
    FromCache codec settings state.trace ⟨number, query, now⟩
      (rehydrateCachedResponse codec entry.response (now - entry.storedAt) (queryId query)) := by
  rw [fresh, Option.filter_eq_some_iff, decide_eq_true_eq] at hfresh
  obtain ⟨origin, response, message, ttl, hsource, hresponse, hstored, hexpires⟩ :=
    h.entries _ _ hfresh.1
  have hstart := (h.clock.2 _ _ hsource.returned).trans hnow
  have hage : now - origin.start < ttl := by
    have := hfresh.2
    omega
  rw [hresponse, hstored]
  have hdecoded := fromVec_rehydrate hcodec hsource.parsed (now - origin.start) (queryId query)
  refine ⟨origin, response, message, ttl, hsource.returned,
    sameButId_of_key hsource.key_eq, hsource.parsed, hsource.cached, hstart, hage, hdecoded, ?_⟩
  intro hmin served hserved
  obtain rfl := Option.some.inj (hdecoded.symm.trans hserved)
  obtain ⟨-, message', raw, hmsg', hraw, hclamp⟩ := cacheTtl_eq_some hsource.cached
  obtain rfl := Option.some.inj (hsource.parsed.symm.trans hmsg')
  refine one_le_ttl_aged ?_ hage _
  rcases messageTtl_code hraw with hcode | hcode
  · exact answersOutlive_of_noError hmin hcode hraw hclamp
  · exact h.outlives hmin _ _ hsource.returned message hsource.parsed hcode ttl hsource.cached

/-! ### An insert -/

theorem lookup_of_lookup_foldl_erase {key : Bytes} {entry : CachedResponse} (keys : List Bytes)
    (entries : CacheMap)
    (h : (keys.foldl (fun entries key => entries.erase key) entries).lookup key = some entry) :
    entries.lookup key = some entry := by
  rw [Map.lookup_foldl_erase] at h
  split at h
  · exact absurd h (by simp)
  · exact h

/-- Making room only removes entries. -/
theorem lookup_of_lookup_makeRoom {now : Nat} {order : List Bytes} {entries room : CacheMap}
    (hroom : makeRoom settings now order entries = some room) {key : Bytes}
    {entry : CachedResponse} (h : room.lookup key = some entry) :
    entries.lookup key = some entry := by
  have hdrop : (dropExpired settings now entries).lookup key = some entry := by
    rw [makeRoom, evictSoonest] at hroom
    split at hroom
    · obtain ⟨toRemove, -, hkept⟩ := Option.bind_eq_some_iff.1 hroom
      obtain rfl := Option.some.inj hkept
      exact lookup_of_lookup_foldl_erase _ _ h
    · obtain rfl := Option.some.inj hroom
      exact h
  rw [dropExpired] at hdrop
  split at hdrop
  · exact lookup_of_lookup_foldl_erase _ _ hdrop
  · exact hdrop

theorem inv_insert {state : CacheState} (h : Inv codec settings state) {call : CacheCall}
    {response : Bytes} {message : Message} {ttl : Nat} {order : List Bytes} {room : CacheMap}
    (hroom : makeRoom settings call.start order state.entries = some room)
    (hsource : Source codec settings state.trace (normalizeCacheKey call.query) call response
      message ttl) :
    Inv codec settings { state with
      entries := room.insert (normalizeCacheKey call.query)
        { response := scrubResponseId codec response
          storedAt := call.start
          expiresAt := call.start + ttl } } := by
  refine ⟨fun key entry hentry => ?_, h.clock, h.outlives, h.justified⟩
  by_cases hkey : key = normalizeCacheKey call.query
  · subst hkey
    rw [AList.lookup_insert, Option.some.injEq] at hentry
    subst hentry
    exact ⟨call, response, message, ttl, hsource, rfl, rfl, rfl⟩
  · rw [AList.lookup_insert_ne hkey] at hentry
    exact h.entries key entry (lookup_of_lookup_makeRoom hroom hentry)

/-! ### Runs -/

/-- The last event of a longer trace is one of the old ones or the new one. -/
theorem append_singleton_eq_append_cons {α : Type*} {l before after : List α} {a b : α}
    (h : l ++ [a] = before ++ b :: after) :
    (∃ after', l = before ++ b :: after') ∨ (l = before ∧ a = b) := by
  rcases List.eq_nil_or_concat after with rfl | ⟨after', c, rfl⟩
  · obtain ⟨hl, ha⟩ := List.append_inj' h rfl
    exact .inr ⟨hl, List.singleton_inj.1 ha⟩
  · rw [List.concat_eq_append, ← List.cons_append, ← List.append_assoc] at h
    exact .inl ⟨after', (List.append_inj' h rfl).1⟩

/-- One more event, with the entries as they were. -/
theorem Inv.event {state : CacheState} (h : Inv codec settings state) {pending : List CacheCall}
    {calls now : Nat} {event : CacheEvent} (hnow : state.now ≤ now)
    (hpending : ∀ call ∈ pending, call.start ≤ now)
    (hinner : ∀ call result, event = .innerReturned call result → call.start ≤ now)
    (houtlives : settings.minTtl = none → ∀ call response,
      event = .innerReturned call (.ok response) → NxAnswersOutlive codec settings response)
    (hreturned : ∀ call response, event = .returned call (.ok response) →
      Justified codec settings state.trace call response) :
    Inv codec settings ⟨state.entries, pending, calls, now, state.trace ++ [event]⟩ where
  entries key entry hentry := by
    obtain ⟨origin, response, message, ttl, hsource, hrest⟩ := h.entries key entry hentry
    exact ⟨origin, response, message, ttl,
      ⟨List.mem_append_left _ hsource.returned, hsource.key_eq, hsource.parsed, hsource.cached⟩,
      hrest⟩
  clock := by
    refine ⟨hpending, fun call result hmem => ?_⟩
    rcases List.mem_append.1 hmem with hmem | hmem
    · exact (h.clock.2 call result hmem).trans hnow
    · exact hinner call result (List.mem_singleton.1 hmem).symm
  outlives hmin call response hmem := by
    rcases List.mem_append.1 hmem with hmem | hmem
    · exact h.outlives hmin call response hmem
    · exact houtlives hmin call response (List.mem_singleton.1 hmem).symm
  justified before after call response heq := by
    rcases append_singleton_eq_append_cons heq with ⟨after', hold⟩ | ⟨rfl, hnew⟩
    · exact h.justified before after' call response hold
    · exact hreturned call response hnew

theorem inv_lookup (hcodec : codec.RoundTripsAged) {state : CacheState}
    (h : Inv codec settings state) {now : Nat} {query : Bytes} {state' : CacheState}
    (hstep : step codec settings state (.lookup now query) = some state') :
    Inv codec settings state' := by
  simp only [step] at hstep
  split at hstep
  · exact absurd hstep (by simp)
  · rename_i hnow
    rw [Nat.not_lt] at hnow
    have hpending : ∀ call ∈ state.pending, call.start ≤ now :=
      fun call hcall => (h.clock.1 call hcall).trans hnow
    split at hstep
    · rename_i entry hfresh
      cases hstep
      refine h.event hnow hpending (fun _ _ he => nomatch he) (fun _ _ _ he => nomatch he) ?_
      rintro call response ⟨⟩
      exact .inr (fromCache_of_fresh hcodec h hnow hfresh)
    · cases hstep
      refine ⟨h.entries, ⟨fun call hcall => ?_, fun call result hmem => ?_⟩, h.outlives,
        h.justified⟩
      · rcases List.mem_append.1 hcall with hcall | hcall
        · exact hpending call hcall
        · rw [List.mem_singleton] at hcall
          subst hcall
          exact Nat.le_refl _
      · exact (h.clock.2 call result hmem).trans hnow

theorem inv_complete {state : CacheState} (h : Inv codec settings state) {i : Nat}
    {result : Except UpstreamResolveError Bytes} {order : List Bytes}
    (houtlives : (CacheStep.complete i result order).Outlives codec settings) {state' : CacheState}
    (hstep : step codec settings state (.complete i result order) = some state') :
    Inv codec settings state' := by
  simp only [step] at hstep
  split at hstep
  · exact absurd hstep (by simp)
  · rename_i call hcall
    have hmem : call ∈ state.pending := List.mem_of_getElem? hcall
    have hpending : ∀ call ∈ state.pending.eraseIdx i, call.start ≤ state.now :=
      fun call hcall => h.clock.1 call ((List.eraseIdx_sublist _ _).subset hcall)
    -- first the inner resolver's event, then the one of the caller
    have hinner : Inv codec settings
        ⟨state.entries, state.pending.eraseIdx i, state.calls, state.now,
          state.trace ++ [CacheEvent.innerReturned call result]⟩ := by
      refine h.event (Nat.le_refl _) hpending ?_ ?_ (fun _ _ he => nomatch he)
      · rintro call' result' ⟨⟩
        exact h.clock.1 call hmem
      · rintro hmin call' response ⟨⟩
        exact houtlives hmin
    have hboth : Inv codec settings
        ⟨state.entries, state.pending.eraseIdx i, state.calls, state.now,
          state.trace ++
            [CacheEvent.innerReturned call result, CacheEvent.returned call result]⟩ := by
      have houter : Inv codec settings
          ⟨state.entries, state.pending.eraseIdx i, state.calls, state.now,
            state.trace ++ [CacheEvent.innerReturned call result] ++
              [CacheEvent.returned call result]⟩ :=
        hinner.event (Nat.le_refl _) hpending (fun _ _ he => nomatch he)
          (fun _ _ _ he => nomatch he) (by rintro call' response ⟨⟩; exact .inl ⟨_, rfl⟩)
      simpa using houter
    split at hstep
    · cases hstep
      exact hboth
    · rename_i response
      split at hstep
      · cases hstep
        exact hboth
      · rename_i ttl httl
        split at hstep
        · obtain ⟨room, hroom, hstored⟩ := Option.bind_eq_some_iff.1 hstep
          obtain rfl := Option.some.inj hstored
          obtain ⟨-, message, -, hmsg, -⟩ := cacheTtl_eq_some httl
          exact inv_insert hboth hroom ⟨by simp, rfl, hmsg, httl⟩
        · exact absurd hstep (by simp)

theorem inv_step (hcodec : codec.RoundTripsAged) {state state' : CacheState} {l : CacheStep}
    (h : Inv codec settings state) (houtlives : l.Outlives codec settings)
    (hstep : step codec settings state l = some state') : Inv codec settings state' := by
  cases l with
  | lookup now query => exact inv_lookup hcodec h hstep
  | complete i result order => exact inv_complete h houtlives hstep

/-- A stored entry stems from a response that parses, is not truncated and says NOERROR or
NXDOMAIN. -/
def StoredCacheable (codec : MessageCodec) (state : CacheState) : Prop :=
  ∀ key entry, state.entries.lookup key = some entry →
    ∃ origin response message, .innerReturned origin (.ok response) ∈ state.trace ∧
      entry.response = scrubResponseId codec response ∧
      isTruncatedResponse response = false ∧ codec.fromVec response = some message ∧
      (message.metadata.responseCode = .noError ∨ message.metadata.responseCode = .nxDomain)

/-- **What the cache serves.** Along every run in which the inner resolver's NXDOMAIN responses have
answers that outlive them (or a minimum TTL is set), every response that is returned is justified
and every entry is cacheable. -/
theorem served_responses (hcodec : codec.RoundTripsAged) {ls : List CacheStep} {state : CacheState}
    (hrun : run (step codec settings) {} ls = some state)
    (houtlives : AllSteps (step codec settings) (fun _ l => l.Outlives codec settings) {} ls) :
    (∀ before after call response,
      state.trace = before ++ CacheEvent.returned call (.ok response) :: after →
      Justified codec settings before call response) ∧ StoredCacheable codec state := by
  have hinv : Inv codec settings state :=
    run_invariant_of_allSteps (fun _ _ _ h ho hs => inv_step hcodec h ho hs) hrun houtlives
      inv_initial
  refine ⟨hinv.justified, fun key entry hentry => ?_⟩
  obtain ⟨origin, response, message, ttl, hsource, hresponse, -⟩ := hinv.entries key entry hentry
  obtain ⟨htrunc, message', raw, hmsg, hraw, -⟩ := cacheTtl_eq_some hsource.cached
  exact ⟨origin, response, message', hsource.returned, hresponse, htrunc, hmsg,
    messageTtl_code hraw⟩

end CacheState

/-! ## An NXDOMAIN response with an alias

The wire format of one kind of response: `w.example` is an alias of a name that does not exist.
The ID and the TTLs of the alias and of the SOA vary. -/

namespace GoneAlias

def be16 (n : UInt16) : Bytes := [.ofNat (n.toNat / 256), .ofNat n.toNat]

def be32 (n : UInt32) : Bytes :=
  [.ofNat (n.toNat / 2 ^ 24), .ofNat (n.toNat / 2 ^ 16), .ofNat (n.toNat / 2 ^ 8), .ofNat n.toNat]

def readBe32 : Bytes → UInt32
  | a :: b :: c :: d :: _ =>
      .ofNat (a.toNat * 2 ^ 24 + b.toNat * 2 ^ 16 + c.toNat * 2 ^ 8 + d.toNat)
  | _ => 0

/-- The question section: `w.example A IN`. -/
def question : Bytes := [1, 119, 7, 101, 120, 97, 109, 112, 108, 101, 0, 0, 1, 0, 1]

/-- From the header to the TTL of the alias. -/
def beforeAlias (id : UInt16) : Bytes :=
  be16 id ++ [0x81, 0x83, 0, 1, 0, 1, 0, 1, 0, 0] ++ question ++ [0xc0, 0x0c, 0, 5, 0, 1]

/-- The alias's data, and the SOA up to its TTL. -/
def beforeSoa : Bytes := [0, 7, 4, 103, 111, 110, 101, 0xc0, 0x0e, 0xc0, 0x0e, 0, 6, 0, 1]

/-- The SOA's data. -/
def soaData : Bytes :=
  [0, 29, 2, 110, 115, 0xc0, 0x0e, 1, 104, 0xc0, 0x0e] ++
    be32 1 ++ be32 7200 ++ be32 3600 ++ be32 86400 ++ be32 300

def wire (id : UInt16) (aliasTtl soaTtl : UInt32) : Bytes :=
  beforeAlias id ++ (be32 aliasTtl ++ (beforeSoa ++ (be32 soaTtl ++ soaData)))

def message (id : UInt16) (aliasTtl soaTtl : UInt32) : Message where
  metadata :=
    { id := id, messageType := .response, opCode := .query, recursionDesired := true,
      recursionAvailable := true, responseCode := .nxDomain }
  queries := [{ name := ⟨"w.example."⟩, queryType := .a }]
  answers :=
    [{ name := ⟨"w.example."⟩, ttl := aliasTtl,
       data := .other 5 [4, 103, 111, 110, 101, 7, 101, 120, 97, 109, 112, 108, 101, 0] }]
  authorities :=
    [{ name := ⟨"example."⟩, ttl := soaTtl,
       data := .soa ⟨⟨"ns.example."⟩, ⟨"h.example."⟩, 1, 7200, 3600, 86400, 300⟩ }]

/-- The codec on responses of this kind. -/
def aliasCodec : MessageCodec where
  fromVec bytes :=
    let id := queryId bytes
    let aliasTtl := readBe32 (bytes.drop 33)
    let soaTtl := readBe32 (bytes.drop 52)
    if bytes = wire id aliasTtl soaTtl then some (message id aliasTtl soaTtl) else none
  toVec m :=
    let id := m.metadata.id
    let aliasTtl := (m.answers.head?.map (·.ttl)).getD 0
    let soaTtl := (m.authorities.head?.map (·.ttl)).getD 0
    if m = message id aliasTtl soaTtl then some (wire id aliasTtl soaTtl) else none

theorem queryId_wire (id : UInt16) (aliasTtl soaTtl : UInt32) :
    queryId (wire id aliasTtl soaTtl) = id := by
  have := id.toNat_lt
  simp only [wire, beforeAlias, be16, List.cons_append, List.nil_append, queryId]
  rw [← UInt16.toNat_inj]
  simp only [UInt16.toNat_ofNat', UInt8.toNat_ofNat']
  omega

theorem readBe32_be32 (n : UInt32) (rest : Bytes) : readBe32 (be32 n ++ rest) = n := by
  have := n.toNat_lt
  simp only [be32, List.cons_append, List.nil_append, readBe32]
  rw [← UInt32.toNat_inj]
  simp only [UInt32.toNat_ofNat', UInt8.toNat_ofNat']
  omega

theorem fromVec_wire (id : UInt16) (aliasTtl soaTtl : UInt32) :
    aliasCodec.fromVec (wire id aliasTtl soaTtl) = some (message id aliasTtl soaTtl) := by
  have halias : readBe32 ((wire id aliasTtl soaTtl).drop 33) = aliasTtl := by
    have hlength : (beforeAlias id).length = 33 := rfl
    rw [wire, List.drop_left' hlength, readBe32_be32]
  have hsoa : readBe32 ((wire id aliasTtl soaTtl).drop 52) = soaTtl := by
    have hlength : (beforeAlias id ++ be32 aliasTtl ++ beforeSoa).length = 52 := rfl
    rw [wire, ← List.append_assoc, ← List.append_assoc, List.drop_left' hlength, readBe32_be32]
  simp only [aliasCodec, queryId_wire, halias, hsoa, if_true]

theorem toVec_message (id : UInt16) (aliasTtl soaTtl : UInt32) :
    aliasCodec.toVec (message id aliasTtl soaTtl) = some (wire id aliasTtl soaTtl) :=
  if_pos rfl

theorem roundTripsAged : aliasCodec.RoundTripsAged := by
  intro bytes m hm id secs
  simp only [aliasCodec] at hm
  split at hm
  · cases hm
    exact ⟨_, toVec_message id _ _, fromVec_wire id _ _⟩
  · exact absurd hm (by simp)

/-- A query for `w.example` under the given ID. -/
def query (id : UInt16) : Bytes :=
  be16 id ++ [0x01, 0x00, 0, 1, 0, 0, 0, 0, 0, 0] ++ question

/-- The name is asked for under ID 1, and again under ID 2 after the given number of seconds. -/
def askTwice (aliasTtl : UInt32) (secs : Nat) : List CacheStep :=
  [.lookup 0 (query 1), .complete 0 (.ok (wire 1 aliasTtl 300)) [],
    .lookup (fromSecs secs) (query 2)]

/-- What happened before the second answer. -/
def firstAnswer (aliasTtl : UInt32) : List CacheEvent :=
  [.innerReturned ⟨0, query 1, 0⟩ (.ok (wire 1 aliasTtl 300)),
    .returned ⟨0, query 1, 0⟩ (.ok (wire 1 aliasTtl 300))]

/-- The second call. -/
def secondCall (secs : Nat) : CacheCall := ⟨1, query 2, fromSecs secs⟩

end GoneAlias

namespace CacheState

open GoneAlias

/-- The alias outlives the SOA: after 299 seconds it is served with a TTL of 101. -/
theorem served_responses_askTwice :
    ∃ state, run (step aliasCodec {}) {} (askTwice 400 299) = some state ∧
      state.trace = firstAnswer 400 ++ [CacheEvent.returned (secondCall 299) (.ok (wire 2 101 1))] ∧
      Justified aliasCodec {} (firstAnswer 400) (secondCall 299) (wire 2 101 1) := by
  have hany : (run (step aliasCodec {}) {} (askTwice 400 299)).any (fun state =>
      state.trace = firstAnswer 400 ++
        [CacheEvent.returned (secondCall 299) (.ok (wire 2 101 1))]) = true := by decide +kernel
  obtain ⟨state, hrun, htest⟩ := exists_run_of_any hany
  have htrace := of_decide_eq_true htest
  have hnx : NxAnswersOutlive aliasCodec {} (wire 1 400 300) := by
    intro m hm _ ttl httl
    rw [fromVec_wire, Option.some.injEq] at hm
    have hcache : cacheTtl aliasCodec (wire 1 400 300) {} = some (fromSecs 300) := by
      decide +kernel
    obtain rfl := Option.some.inj (hcache.symm.trans httl)
    subst hm
    decide
  have hserved := served_responses roundTripsAged hrun
    ⟨trivial, fun _ _ => ⟨fun _ => hnx, fun _ _ => ⟨trivial, fun _ _ => trivial⟩⟩⟩
  exact ⟨state, hrun, htrace, hserved.1 _ [] _ _ htrace⟩

/-- An alias with a TTL of five seconds is served with TTL zero after ten. -/
theorem zero_ttl_from_nxDomain :
    ¬ ∀ (codec : MessageCodec) (settings : ResolverCacheSettings) (ls : List CacheStep)
        (state : CacheState), codec.RoundTripsAged → run (step codec settings) {} ls = some state →
        (∀ before after call response,
          state.trace = before ++ CacheEvent.returned call (.ok response) :: after →
          Justified codec settings before call response) ∧ StoredCacheable codec state := by
  intro h
  have hany : (run (step aliasCodec {}) {} (askTwice 5 10)).any (fun state =>
      state.trace = firstAnswer 5 ++ [CacheEvent.returned (secondCall 10) (.ok (wire 2 0 290))]) =
        true := by decide +kernel
  obtain ⟨state, hrun, htest⟩ := exists_run_of_any hany
  have hjust := (h aliasCodec {} _ state roundTripsAged hrun).1 _ [] _ _ (of_decide_eq_true htest)
  rcases hjust with ⟨earlier, hearlier⟩ | hcache
  · have hlast := congrArg List.getLast? hearlier
    rw [List.getLast?_concat] at hlast
    exact absurd hlast (by decide +kernel)
  · obtain ⟨_, _, _, _, -, -, -, -, -, -, -, hpositive⟩ := hcache
    have := hpositive rfl _ (fromVec_wire 2 0 290) _ (List.mem_cons_self ..)
    exact absurd this (by decide)

end CacheState

end DnsFilter
