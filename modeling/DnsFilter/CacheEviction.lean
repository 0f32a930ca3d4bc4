import DnsFilter.CacheProof
import DnsFilter.Lib.Sort

/-!
# The response cache: what is evicted

Before an insert, a full cache drops its expired entries; if it is still full, it drops the entries
closest to expiry until half of it is left.

* `dropExpired_lookup` — the first phase drops expired entries only.
* `exists_evictSoonest_eq_some` — the subtraction of the second phase never underflows.
* `evictSoonest_length`, `le_of_evictSoonest` — the second phase leaves half of the limit, and what
  it drops expires no later than what stays.
* `Inserted` — what an insert did to the entries; **`insert_evicts_soonest`** says that every insert
  of every run succeeds and did this.
-/

namespace DnsFilter

open Map

section MakeRoom

variable {settings : ResolverCacheSettings} {now : Nat} {order : List Bytes} {entries : CacheMap}

/-! ## Dropping what has expired -/

theorem retainUnexpired_lookup {key : Bytes} {entry : CachedResponse}
    (h : entries.lookup key = some entry) (hnow : now < entry.expiresAt) :
    (retainUnexpired now entries).lookup key = some entry := by
  rw [retainUnexpired, lookup_foldl_erase, if_neg, h]
  rw [List.mem_filter, h]
  simp [hnow]

/-- An entry that has not expired is kept. -/
theorem dropExpired_lookup {key : Bytes} {entry : CachedResponse}
    (h : entries.lookup key = some entry) (hnow : now < entry.expiresAt) :
    (dropExpired settings now entries).lookup key = some entry := by
  unfold dropExpired
  split
  · exact retainUnexpired_lookup h hnow
  · exact h

theorem dropExpired_keys : (dropExpired settings now entries).keys ⊆ entries.keys := by
  unfold dropExpired
  split
  · exact keys_foldl_erase_subset _ _
  · exact List.Subset.refl _

/-! ## Dropping what expires soonest -/

/-- When an entry expires. -/
def expiryOf (entries : CacheMap) (key : Bytes) : Nat :=
  ((entries.lookup key).map (·.expiresAt)).getD 0

theorem expiryOf_eq {key : Bytes} {entry : CachedResponse} (h : entries.lookup key = some entry) :
    expiryOf entries key = entry.expiresAt := by
  rw [expiryOf, h]
  rfl

theorem byExpiry_pairwise (entries : CacheMap) (order : List Bytes) :
    (byExpiry entries order).Pairwise fun a b => expiryOf entries a ≤ expiryOf entries b := by
  let r := fun a b => expiryOf entries a ≤ expiryOf entries b
  have : Std.Total r := ⟨fun a b => Nat.le_total _ _⟩
  have : IsTrans Bytes r := ⟨fun a b c => Nat.le_trans⟩
  exact List.pairwise_insertionSort r order

/-- The keys in order of expiry are the keys of the map. -/
theorem byExpiry_perm (horder : entries.keys ⊆ order) (hnodup : order.Nodup) :
    (byExpiry entries (order.filter (· ∈ entries.keys))).Perm entries.keys := by
  refine (List.perm_insertionSort _ _).trans ?_
  rw [List.perm_ext_iff_of_nodup (hnodup.filter _) entries.keys_nodup]
  intro key
  rw [List.mem_filter, decide_eq_true_eq]
  exact and_iff_right_of_imp fun h => horder h

/-- The second phase fails only if its subtraction underflows. -/
theorem evictSoonest_eq_none_iff : evictSoonest settings order entries = none ↔
    settings.maxEntries ≤ entries.keys.length ∧
      entries.keys.length < settings.maxEntries / 2 := by
  unfold evictSoonest
  split
  · rename_i hfull
    rw [Nat.psub'_eq_psub]
    simp only [Option.bind_eq_bind, Option.bind_eq_none_iff, Option.pure_def, reduceCtorEq,
      imp_false, and_iff_right hfull]
    rw [← Nat.psub_eq_none, Option.eq_none_iff_forall_ne_some]
  · rename_i hroom
    exact iff_of_false (by simp) fun h => hroom h.1

/-- It never does: half of the limit is at most the limit. -/
theorem exists_evictSoonest_eq_some (settings : ResolverCacheSettings) (order : List Bytes)
    (entries : CacheMap) : ∃ room, evictSoonest settings order entries = some room := by
  rw [← Option.ne_none_iff_exists', Ne, evictSoonest_eq_none_iff]
  rintro ⟨hfull, hunderflow⟩
  have hhalf : settings.maxEntries / 2 ≤ settings.maxEntries := Nat.div_le_self _ _
  omega

/-- What the second phase drops, when there is something to drop. -/
theorem eq_of_evictSoonest {room : CacheMap} (hfull : settings.maxEntries ≤ entries.keys.length)
    (hroom : evictSoonest settings order entries = some room) :
    room = ((byExpiry entries (order.filter (· ∈ entries.keys))).take
      (entries.keys.length - settings.maxEntries / 2)).foldl
        (fun entries key => entries.erase key) entries := by
  have hhalf : settings.maxEntries / 2 ≤ entries.keys.length :=
    (Nat.div_le_self _ _).trans hfull
  rw [evictSoonest, if_pos hfull, Nat.psub', if_pos hhalf] at hroom
  exact (Option.some.inj hroom).symm

/-- The second phase leaves half of the limit. -/
theorem evictSoonest_length {room : CacheMap} (horder : entries.keys ⊆ order)
    (hnodup : order.Nodup) (hfull : settings.maxEntries ≤ entries.keys.length)
    (hroom : evictSoonest settings order entries = some room) :
    room.keys.length = settings.maxEntries / 2 := by
  have hperm := byExpiry_perm horder hnodup
  have hsubperm : List.Subperm ((byExpiry entries (order.filter (· ∈ entries.keys))).take
      (entries.keys.length - settings.maxEntries / 2)) entries.keys :=
    (List.take_sublist _ _).subperm.trans hperm.subperm
  have hlength := length_foldl_erase hsubperm
  rw [List.length_take, hperm.length_eq, Nat.min_eq_left (Nat.sub_le _ _)] at hlength
  have hhalf : settings.maxEntries / 2 ≤ entries.keys.length :=
    (Nat.div_le_self _ _).trans hfull
  rw [eq_of_evictSoonest hfull hroom]
  exact Nat.add_right_cancel (hlength.trans (Nat.add_sub_cancel' hhalf).symm)

/-- What the second phase drops expires no later than what it keeps. -/
theorem le_of_evictSoonest {room : CacheMap} (horder : entries.keys ⊆ order)
    (hnodup : order.Nodup) (hroom : evictSoonest settings order entries = some room)
    {key key' : Bytes} {entry entry' : CachedResponse}
    (hentry : entries.lookup key = some entry) (hdropped : room.lookup key = none)
    (hkept : room.lookup key' = some entry') : entry.expiresAt ≤ entry'.expiresAt := by
  by_cases hfull : settings.maxEntries ≤ entries.keys.length
  · rw [eq_of_evictSoonest hfull hroom, lookup_foldl_erase] at hdropped hkept
    split at hkept
    · exact absurd hkept (by simp)
    · rename_i hstays
      have htaken : key ∈ (byExpiry entries (order.filter (· ∈ entries.keys))).take
          (entries.keys.length - settings.maxEntries / 2) := by
        by_contra hnot
        rw [if_neg hnot, hentry] at hdropped
        exact absurd hdropped (by simp)
      have hmem : key' ∈ byExpiry entries (order.filter (· ∈ entries.keys)) := by
        rw [(byExpiry_perm horder hnodup).mem_iff, ← AList.mem_keys, ← AList.lookup_isSome, hkept]
        rfl
      have hle := Sort.rel_of_mem_take (byExpiry_pairwise entries _) htaken hmem hstays
      rw [expiryOf_eq hentry, expiryOf_eq hkept] at hle
      exact hle
  · rw [evictSoonest, if_neg hfull, Option.some.injEq] at hroom
    rw [← hroom, hentry] at hdropped
    exact absurd hdropped (by simp)

end MakeRoom

/-! ## An insert -/

/-- What an insert of a call's response does to the entries, where `room` is what is left of them
when room was made: the entries are within the limit, the new one is there, what is left was there
before, and an entry that was dropped although it had not expired expires no later than any that
is left. -/
structure Inserted (settings : ResolverCacheSettings) (call : CacheCall) (new : CachedResponse)
    (before room after : CacheMap) : Prop where
  eq_insert : after = room.insert (normalizeCacheKey call.query) new
  size : after.keys.length ≤ max 1 settings.maxEntries
  present : after.lookup (normalizeCacheKey call.query) = some new
  left : ∀ key entry, room.lookup key = some entry → before.lookup key = some entry
  soonest : ∀ key entry, before.lookup key = some entry → call.start < entry.expiresAt →
    room.lookup key = none →
    ∀ key' entry', room.lookup key' = some entry' → entry.expiresAt ≤ entry'.expiresAt

section

variable {settings : ResolverCacheSettings} {order : List Bytes} {entries room : CacheMap}

/-- After making room there is space for one more entry. -/
theorem makeRoom_length {now : Nat} (horder : order.Perm entries.keys)
    (hroom : makeRoom settings now order entries = some room) :
    room.keys.length + 1 ≤ max 1 settings.maxEntries := by
  have hnodup : order.Nodup := horder.nodup_iff.2 entries.keys_nodup
  have hsubset : (dropExpired settings now entries).keys ⊆ order :=
    fun key hkey => horder.mem_iff.2 (dropExpired_keys hkey)
  rw [makeRoom] at hroom
  by_cases hfull : settings.maxEntries ≤ (dropExpired settings now entries).keys.length
  · rw [evictSoonest_length hsubset hnodup hfull hroom]
    omega
  · rw [evictSoonest, if_neg hfull, Option.some.injEq] at hroom
    rw [← hroom]
    omega

theorem inserted_insert {call : CacheCall} (horder : order.Perm entries.keys)
    (hroom : makeRoom settings call.start order entries = some room) (new : CachedResponse) :
    Inserted settings call new entries room
      (room.insert (normalizeCacheKey call.query) new) where
  eq_insert := rfl
  size := (length_keys_insert_le _ new _).trans (makeRoom_length horder hroom)
  present := AList.lookup_insert _
  left _ _ := CacheState.lookup_of_lookup_makeRoom hroom
  soonest := by
    intro key entry hentry hfresh hdropped key' entry' hkept
    have hnodup : order.Nodup := horder.nodup_iff.2 entries.keys_nodup
    have hsubset : (dropExpired settings call.start entries).keys ⊆ order :=
      fun key hkey => horder.mem_iff.2 (dropExpired_keys hkey)
    exact le_of_evictSoonest hsubset hnodup hroom (dropExpired_lookup hentry hfresh) hdropped
      hkept

end

namespace CacheState

variable {codec : MessageCodec} {settings : ResolverCacheSettings}

/-- The entry for a response that is to be kept for `ttl`. -/
def newEntry (codec : MessageCodec) (call : CacheCall) (response : Bytes) (ttl : Nat) :
    CachedResponse where
  response := scrubResponseId codec response
  storedAt := call.start
  expiresAt := call.start + ttl

/-- A step that stores a response. -/
theorem inserted_step {state state' : CacheState} {i : Nat} {response : Bytes}
    {order : List Bytes} {call : CacheCall} {ttl : Nat}
    (hstep : step codec settings state (.complete i (.ok response) order) = some state')
    (hcall : state.pending[i]? = some call) (httl : cacheTtl codec response settings = some ttl) :
    ∃ room, makeRoom settings call.start order state.entries = some room ∧
      Inserted settings call (newEntry codec call response ttl) state.entries room
        state'.entries := by
  simp only [step, hcall, httl] at hstep
  split at hstep
  · rename_i horder
    obtain ⟨room, hroom, hstored⟩ := Option.bind_eq_some_iff.1 hstep
    obtain rfl := Option.some.inj hstored
    exact ⟨room, hroom, inserted_insert horder hroom _⟩
  · exact absurd hstep (by simp)

/-- Storing a response never fails: room can be made whatever the entries are. -/
theorem exists_step_eq_some {state : CacheState} {i : Nat} {response : Bytes}
    {order : List Bytes} {call : CacheCall} {ttl : Nat} (hcall : state.pending[i]? = some call)
    (httl : cacheTtl codec response settings = some ttl) (horder : order.Perm state.entries.keys) :
    ∃ state', step codec settings state (.complete i (.ok response) order) = some state' := by
  obtain ⟨room, hroom⟩ :=
    exists_evictSoonest_eq_some settings order (dropExpired settings call.start state.entries)
  simp only [step, hcall, httl, if_pos horder]
  rw [makeRoom, hroom]
  exact ⟨_, rfl⟩

/-- A step that stores nothing leaves the entries as they are. -/
theorem entries_step {state state' : CacheState} {l : CacheStep}
    (hstep : step codec settings state l = some state') :
    state'.entries = state.entries ∨ ∃ call new room,
      Inserted settings call new state.entries room state'.entries := by
  cases l with
  | lookup now query =>
      simp only [step] at hstep
      split at hstep
      · exact absurd hstep (by simp)
      · split at hstep <;> obtain rfl := Option.some.inj hstep
        · exact .inl rfl
        · exact .inl rfl
  | complete i result order =>
      have hstep' := hstep
      simp only [step] at hstep
      split at hstep
      · exact absurd hstep (by simp)
      · rename_i call hcall
        split at hstep
        · obtain rfl := Option.some.inj hstep
          exact .inl rfl
        · split at hstep
          · obtain rfl := Option.some.inj hstep
            exact .inl rfl
          · rename_i ttl httl
            obtain ⟨room, -, hinserted⟩ := inserted_step hstep' hcall httl
            exact .inr ⟨call, _, room, hinserted⟩

/-- **An insert makes room by dropping what expires soonest.** In every run, with calls overlapping
at the inner resolver in any way, the cache never holds more than the limit (one entry if the limit
is zero), and the next response to be stored is stored: room can be made without an underflow, and
the entries change as `Inserted` says. -/
theorem insert_evicts_soonest {ls : List CacheStep} {state : CacheState}
    (hrun : run (step codec settings) {} ls = some state) :
    state.entries.keys.length ≤ max 1 settings.maxEntries ∧
      ∀ i response order call ttl, state.pending[i]? = some call →
        cacheTtl codec response settings = some ttl → order.Perm state.entries.keys →
        ∃ room state', makeRoom settings call.start order state.entries = some room ∧
          step codec settings state (.complete i (.ok response) order) = some state' ∧
          Inserted settings call (newEntry codec call response ttl) state.entries room
            state'.entries := by
  constructor
  · have hinv : ∀ (s : CacheState) l s', s.entries.keys.length ≤ max 1 settings.maxEntries →
        step codec settings s l = some s' →
          s'.entries.keys.length ≤ max 1 settings.maxEntries := by
      intro s l s' h hstep
      rcases entries_step hstep with heq | ⟨_, _, _, hinserted⟩
      · rw [heq]
        exact h
      · exact hinserted.size
    exact run_invariant hinv hrun (Nat.zero_le _)
  · intro i response order call ttl hcall httl horder
    obtain ⟨state', hstep⟩ := exists_step_eq_some hcall httl horder
    obtain ⟨room, hroom, hinserted⟩ := inserted_step hstep hcall httl
    exact ⟨room, state', hroom, hstep, hinserted⟩

namespace ThreeFlags

open GoneAlias

/-- A query for `w.example`; the flags AD and CD make the queries differ. -/
def flagged (flags : UInt8) : Bytes :=
  be16 7 ++ [0x01, flags, 0, 1, 0, 0, 0, 0, 0, 0] ++ question

def plain : Bytes := flagged 0x00
def checkingDisabled : Bytes := flagged 0x10
def authentic : Bytes := flagged 0x20
def both : Bytes := flagged 0x30

/-- Four calls overlap; three of them are answered, for 300, 100 and 200 seconds. -/
def threeAnswers : List CacheStep :=
  [.lookup 0 plain, .lookup 0 checkingDisabled, .lookup 0 authentic, .lookup 0 both,
    .complete 0 (.ok (wire 7 400 300)) [],
    .complete 0 (.ok (wire 7 400 100)) [normalizeCacheKey plain],
    .complete 0 (.ok (wire 7 400 200)) [normalizeCacheKey checkingDisabled, normalizeCacheKey plain]]

/-- The order in which the full cache is iterated. -/
def order : List Bytes :=
  [normalizeCacheKey plain, normalizeCacheKey authentic, normalizeCacheKey checkingDisabled]

end ThreeFlags

open GoneAlias ThreeFlags in
/-- With the limit three, the fourth answer drops the entries of 100 and of 200 seconds, which have
not expired, and keeps the one of 300 seconds. -/
theorem insert_evicts_soonest_threeAnswers :
    ∃ state room state', run (step aliasCodec { maxEntries := 3 }) {} threeAnswers = some state ∧
      state.entries.keys.length = 3 ∧
      makeRoom { maxEntries := 3 } 0 order state.entries = some room ∧
      room.keys = [normalizeCacheKey plain] ∧
      step aliasCodec { maxEntries := 3 } state (.complete 0 (.ok (wire 7 400 60)) order) =
        some state' ∧
      state'.entries.keys = [normalizeCacheKey both, normalizeCacheKey plain] ∧
      Inserted { maxEntries := 3 } ⟨3, both, 0⟩
        (newEntry aliasCodec ⟨3, both, 0⟩ (wire 7 400 60) (fromSecs 60)) state.entries room
        state'.entries := by
  have hany : (run (step aliasCodec { maxEntries := 3 }) {} threeAnswers).any
      (fun state => state.pending[0]? = some (⟨3, both, 0⟩ : CacheCall) ∧
        order.Perm state.entries.keys ∧
        (makeRoom { maxEntries := 3 } 0 order state.entries).map (·.keys) =
          some [normalizeCacheKey plain]) = true := by decide +kernel
  obtain ⟨state, hrun, htest⟩ := exists_run_of_any hany
  obtain ⟨hcall, horder, hkeys⟩ := of_decide_eq_true htest
  have httl : cacheTtl aliasCodec (wire 7 400 60) { maxEntries := 3 } = some (fromSecs 60) := by
    decide +kernel
  obtain ⟨room, state', hroom, hstep, hinserted⟩ :=
    (insert_evicts_soonest hrun).2 0 _ order _ _ hcall httl horder
  have hleft : room.keys = [normalizeCacheKey plain] := by
    rw [hroom] at hkeys
    exact Option.some.inj hkeys
  refine ⟨state, room, state', hrun, horder.length_eq.symm, hroom, hleft, hstep, ?_, hinserted⟩
  rw [hinserted.eq_insert, AList.keys_insert, hleft]
  decide +kernel

end CacheState

end DnsFilter
