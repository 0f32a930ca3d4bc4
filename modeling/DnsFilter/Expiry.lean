import DnsFilter.BootstrapProof
import DnsFilter.CacheProof
import DnsFilter.OperationsProof

/-!
# When a cached response expires

The bounds of the cache's TTLs on their way from the management API to the instant at which a
response expires: `updateResolverConfig` stores them as seconds, `applyDbConfig` writes them back
into the configuration, `buildResolverCacheSettings` reads them, `cacheTtl` clamps the TTL of a
response, and `CachedUpstreamResolver` adds the result to the current instant.

* `bounds_of_updateResolverConfig` — the settings have the bounds of the record.
* `asSecs_clampTtl_lt` — how far the clamped TTL reaches.
* **`expiry_iff`** — which bounds, responses and instants do not overflow the clock.
-/

namespace DnsFilter

/-! ## The clock -/

/-- `Instant + Duration` on a clock of seconds in a signed 64-bit number; `none` where it
panics. -/
def instantAdd (now duration : Nat) : Option Nat :=
  if now + asSecs duration < 2 ^ 63 then some (now + asSecs duration) else none

theorem isSome_instantAdd {now duration : Nat} :
    (instantAdd now duration).isSome = true ↔ now + asSecs duration < 2 ^ 63 := by
  unfold instantAdd
  by_cases hlt : now + asSecs duration < 2 ^ 63
  · rw [if_pos hlt]
    exact iff_of_true rfl hlt
  · rw [if_neg hlt]
    exact iff_of_false (by simp) hlt

theorem asSecs_fromSecs (secs : Nat) : asSecs (fromSecs secs) = secs :=
  Nat.mul_div_cancel secs (by decide)

theorem asSecs_mono : Monotone asSecs := fun _ _ h => Nat.div_le_div_right h

/-- The TTL with the lower bound. -/
def raiseTtl (minTtl : Option Nat) (ttl : Nat) : Nat :=
  match minTtl with
  | some minTtl => max ttl minTtl
  | none => ttl

theorem asSecs_raiseTtl_lt {minTtl : Option Nat} {ttl limit : Nat} :
    asSecs (raiseTtl minTtl ttl) < limit ↔
      asSecs ttl < limit ∧ ∀ bound, minTtl = some bound → asSecs bound < limit := by
  cases minTtl with
  | none => simp [raiseTtl]
  | some bound => simp [raiseTtl, asSecs_mono.map_max]

theorem clampTtl_eq_some {settings : ResolverCacheSettings} {recordTtl ttl : Nat}
    (h : settings.clampTtl recordTtl = some ttl) :
    ttl = settings.maxTtl.elim (raiseTtl settings.minTtl recordTtl)
      (min (raiseTtl settings.minTtl recordTtl)) := by
  have hclamp : settings.clampTtl recordTtl =
      let ttl := settings.maxTtl.elim (raiseTtl settings.minTtl recordTtl)
        (min (raiseTtl settings.minTtl recordTtl))
      if ttl = 0 then none else some ttl := by
    unfold ResolverCacheSettings.clampTtl raiseTtl
    cases settings.maxTtl <;> rfl
  rw [hclamp, Option.ite_none_left_eq_some] at h
  exact (Option.some.inj h.2).symm

/-- A clamped TTL is below a limit if the maximum is, or if both the TTL and the minimum are. -/
theorem asSecs_clampTtl_lt {settings : ResolverCacheSettings} {recordTtl ttl : Nat}
    (h : settings.clampTtl recordTtl = some ttl) (limit : Nat) :
    asSecs ttl < limit ↔
      (∃ bound, settings.maxTtl = some bound ∧ asSecs bound < limit) ∨
        (asSecs recordTtl < limit ∧
          ∀ bound, settings.minTtl = some bound → asSecs bound < limit) := by
  rw [clampTtl_eq_some h, ← asSecs_raiseTtl_lt]
  cases settings.maxTtl with
  | none => simp
  | some bound =>
      simp only [Option.elim_some, asSecs_mono.map_min, min_lt_iff, Option.some.injEq,
        exists_eq_left']
      exact or_comm

/-! ## From the API to the settings -/

/-- The TTL bounds of a record, as durations. -/
def ResolverConfigRecord.boundsFrom (record : ResolverConfigRecord)
    (settings : ResolverCacheSettings) : Prop :=
  settings.minTtl = record.dnsCacheMinTtlSeconds.map (fun secs => fromSecs secs.toNat) ∧
    settings.maxTtl = record.dnsCacheMaxTtlSeconds.map (fun secs => fromSecs secs.toNat)

theorem run_updateResolverConfig_eq_ok {db db' : Database} {newUuid : Nat → String}
    {input : UpdateResolverConfigInput} {record : ResolverConfigRecord}
    (h : (updateResolverConfig newUuid input).run db = (.ok record, db')) :
    editResolverConfig input (UpstreamConfig.getResolverConfig db) = .ok record ∧
      UpstreamConfig.updateResolverConfig newUuid record db = (.ok (), db') := by
  unfold updateResolverConfig at h
  rw [Op.run_read_bind] at h
  obtain ⟨edited, db₁, hedit, h⟩ := Op.run_bind_eq_ok.1 h
  obtain ⟨hwrite, rfl⟩ := run_repo_finish_eq_ok.1 h
  rw [Op.run_ofExcept, Prod.mk.injEq] at hedit
  exact ⟨hedit.1, hedit.2 ▸ hwrite⟩

/-- The settings have the bounds that the request left in the record. -/
theorem bounds_of_updateResolverConfig {db db' : Database} {newUuid : Nat → String}
    {input : UpdateResolverConfigInput} {record : ResolverConfigRecord}
    (hupdate : (updateResolverConfig newUuid input).run db = (.ok record, db'))
    {yaml : DnsFilterConfig} {settings : ResolverCacheSettings}
    (hsettings : buildResolverCacheSettings (applyDbConfig yaml (.ofDatabase db')) = .ok settings) :
    record.boundsFrom settings ∧ CacheBound record.dnsCacheMinTtlSeconds ∧
      CacheBound record.dnsCacheMaxTtlSeconds := by
  obtain ⟨-, hwrite⟩ := run_updateResolverConfig_eq_ok hupdate
  obtain ⟨hmin, hmax, -⟩ := buildResolverCacheSettings_eq_ok.1 hsettings
  have hrow : db'.resolverConfig.dnsCacheMinTtlSeconds = record.dnsCacheMinTtlSeconds ∧
      db'.resolverConfig.dnsCacheMaxTtlSeconds = record.dnsCacheMaxTtlSeconds := by
    have hdb := congrArg Prod.snd hwrite
    rw [← show (UpstreamConfig.updateResolverConfig newUuid record db).2 = db' from hdb]
    exact ⟨rfl, rfl⟩
  have hminBound : parseCacheBound "min_ttl"
      (db'.resolverConfig.dnsCacheMinTtlSeconds.map formatSeconds) = .ok settings.minTtl := hmin
  have hmaxBound : parseCacheBound "max_ttl"
      (db'.resolverConfig.dnsCacheMaxTtlSeconds.map formatSeconds) = .ok settings.maxTtl := hmax
  rw [hrow.1, parseCacheBound_eq_ok] at hminBound
  rw [hrow.2, parseCacheBound_eq_ok] at hmaxBound
  exact ⟨⟨hminBound.2, hmaxBound.2⟩, hminBound.1, hmaxBound.1⟩

/-! ## Expiry -/

theorem clampTtl_of_cacheTtl {codec : MessageCodec} {response : Bytes} {message : Message}
    {settings : ResolverCacheSettings} {recordTtl ttl : Nat}
    (hmessage : codec.fromVec response = some message)
    (hrecord : messageTtl message = some recordTtl)
    (h : cacheTtl codec response settings = some ttl) : settings.clampTtl recordTtl = some ttl := by
  unfold cacheTtl at h
  rw [Option.ite_none_left_eq_some] at h
  obtain ⟨message', hmessage', h⟩ := Option.bind_eq_some_iff.1 h.2
  obtain ⟨recordTtl', hrecord', h⟩ := Option.bind_eq_some_iff.1 h
  obtain rfl := Option.some.inj (hmessage.symm.trans hmessage')
  obtain rfl := Option.some.inj (hrecord.symm.trans hrecord')
  exact h

/-- The instant plus these seconds is still on the clock. -/
def OnClock (now : Nat) (secs : Int) : Prop := now + secs < 2 ^ 63

theorem asSecs_lt_iff_onClock {now : Nat} {secs : Int} (h : 0 ≤ secs) :
    asSecs (fromSecs secs.toNat) < 2 ^ 63 - now ↔ OnClock now secs := by
  rw [asSecs_fromSecs, OnClock]
  omega

/-- **A response is stored without an overflow exactly if the maximum is on the clock, or both its
own TTL and the minimum are.** -/
theorem expiry_iff {db db' : Database} {newUuid : Nat → String} {input : UpdateResolverConfigInput}
    {record : ResolverConfigRecord} {yaml : DnsFilterConfig} {settings : ResolverCacheSettings}
    {codec : MessageCodec} {response : Bytes} {message : Message} {recordTtl ttl : Nat}
    (hupdate : (updateResolverConfig newUuid input).run db = (.ok record, db'))
    (hsettings : buildResolverCacheSettings (applyDbConfig yaml (.ofDatabase db')) = .ok settings)
    (hmessage : codec.fromVec response = some message)
    (hrecord : messageTtl message = some recordTtl)
    (hcached : cacheTtl codec response settings = some ttl) (now : Nat) :
    (instantAdd now ttl).isSome = true ↔
      (∃ secs, record.dnsCacheMaxTtlSeconds = some secs ∧ OnClock now secs) ∨
        (OnClock now (asSecs recordTtl) ∧
          ∀ secs, record.dnsCacheMinTtlSeconds = some secs → OnClock now secs) := by
  obtain ⟨⟨hmin, hmax⟩, hminBound, hmaxBound⟩ := bounds_of_updateResolverConfig hupdate hsettings
  have hclamp := clampTtl_of_cacheTtl hmessage hrecord hcached
  have hlimit : now + asSecs ttl < 2 ^ 63 ↔ asSecs ttl < 2 ^ 63 - now := by omega
  have hown : asSecs recordTtl < 2 ^ 63 - now ↔ OnClock now (asSecs recordTtl) := by
    rw [OnClock]
    omega
  rw [isSome_instantAdd, hlimit, asSecs_clampTtl_lt hclamp, hown, hmin, hmax]
  apply or_congr
  · cases hbound : record.dnsCacheMaxTtlSeconds with
    | none => simp
    | some secs =>
        have hsecs := @asSecs_lt_iff_onClock now secs (hmaxBound secs hbound).1
        constructor
        · intro ⟨bound, heq, hlt⟩
          rw [← Option.some.inj heq] at hlt
          exact ⟨secs, rfl, hsecs.1 hlt⟩
        · intro ⟨_, heq, hclock⟩
          rw [← Option.some.inj heq] at hclock
          exact ⟨_, rfl, hsecs.2 hclock⟩
  · apply and_congr_right
    intro _
    cases hbound : record.dnsCacheMinTtlSeconds with
    | none => simp
    | some secs =>
        have hsecs := @asSecs_lt_iff_onClock now secs (hminBound secs hbound).1
        constructor
        · intro hall _ heq
          rw [← Option.some.inj heq]
          exact hsecs.1 (hall _ rfl)
        · intro hall _ heq
          rw [← Option.some.inj heq]
          exact hsecs.2 (hall secs rfl)

/-- A request that sets the bounds of the cache. -/
def cacheBounds (minTtl maxTtl : Option String) : UpdateResolverConfigInput where
  dnsCacheMinTtl := some minTtl
  dnsCacheMaxTtl := some maxTtl

/-- The response of the witnesses: a name that does not exist, for five minutes. -/
def goneResponse : Bytes := GoneAlias.wire 7 300 900

/-- The database after a request on an empty one. -/
def boundedDatabase (minTtl maxTtl : Option String) : Database :=
  ((updateResolverConfig toString (cacheBounds minTtl maxTtl)).run {}).2

/-- The record that the request leaves. -/
def boundedRecord (minTtl maxTtl : Option Int) : ResolverConfigRecord where
  strategy := "round_robin"
  bootstrapResolvers := []
  dnsCacheEnabled := true
  dnsCacheMinTtlSeconds := minTtl
  dnsCacheMaxTtlSeconds := maxTtl

theorem expiry_iff_bounded :
    (instantAdd 1000 (fromSecs 300)).isSome = true ↔
      (∃ secs, (boundedRecord (some 60) (some 86400)).dnsCacheMaxTtlSeconds = some secs ∧
        OnClock 1000 secs) ∨
      (OnClock 1000 (asSecs (fromSecs 300)) ∧
        ∀ secs, (boundedRecord (some 60) (some 86400)).dnsCacheMinTtlSeconds = some secs →
          OnClock 1000 secs) := by
  have hupdate : (updateResolverConfig toString (cacheBounds (some "1m") (some "1d"))).run {} =
      (.ok (boundedRecord (some 60) (some 86400)), boundedDatabase (some "1m") (some "1d")) :=
    Prod.ext (by decide +kernel) rfl
  have hsettings : buildResolverCacheSettings
      (applyDbConfig minimalConfig (.ofDatabase (boundedDatabase (some "1m") (some "1d")))) =
      .ok ⟨true, some (fromSecs 60), some (fromSecs 86400), 10000⟩ := by decide +kernel
  exact expiry_iff hupdate hsettings (GoneAlias.fromVec_wire 7 300 900) (by decide +kernel)
    (by decide +kernel) 1000

/-- The largest minimum that is accepted stops the resolver at the first response. -/
theorem largest_minimum_overflows :
    (updateResolverConfig toString (cacheBounds (some "9223372036854775807s") none)).run {} =
        (.ok (boundedRecord (some 9223372036854775807) none),
          boundedDatabase (some "9223372036854775807s") none) ∧
      ∃ settings ttl, buildResolverCacheSettings (applyDbConfig minimalConfig
          (.ofDatabase (boundedDatabase (some "9223372036854775807s") none))) = .ok settings ∧
        cacheTtl GoneAlias.aliasCodec goneResponse settings = some ttl ∧
        instantAdd 1 ttl = none := by
  refine ⟨Prod.ext (by decide +kernel) rfl,
    ⟨true, some (fromSecs 9223372036854775807), none, 10000⟩, fromSecs 9223372036854775807, ?_, ?_,
    ?_⟩
  · decide +kernel
  · decide +kernel
  · decide +kernel

end DnsFilter
