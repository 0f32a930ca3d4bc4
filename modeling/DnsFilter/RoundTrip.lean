import DnsFilter.BootstrapProof
import DnsFilter.SeedProof

/-!
# Seeding and reading back

What `apply_db_config` makes of a database that `seed_if_empty` filled from the same configuration.
Every field crosses two conversions: defaults are filled in, numbers are cast to the signed columns
and back, detail rows are joined by identifier and ordered by a 32-bit position.

* `seed_roundTrips_iff` — the configuration is read back, up to defaults and the order of the
  tables that have none, exactly if the positions of the ordered lists survive the cast to 32 bits;
  they do in lists of at most `2 ^ 31` entries.
* `keepsOrder_iff_of_nodup`, `keepsOrder_iff_of_length_le` — which other lists there are: none
  without a repetition; up to `2 ^ 32` entries, those that are the same when the entries from
  position `2 ^ 31` on come first.
* `seed_cacheSettings_iff` — when the cache settings are the same after the import.
-/

namespace DnsFilter

open Table Numeral

/-! ## Fields -/

/-- An authentication without any field counts as absent. -/
def presentAuth (auth : Option ZoneServerAuthenticationConfig) :
    Option ZoneServerAuthenticationConfig :=
  auth.filter (· ≠ {})

theorem buildAuth_fields (auth : Option ZoneServerAuthenticationConfig) :
    buildAuth (auth.bind (·.token)) (auth.bind (·.username)) (auth.bind (·.password)) =
      presentAuth auth := by
  cases auth with
  | none => rfl
  | some auth =>
      obtain ⟨token, username, password⟩ := auth
      cases token <;> cases username <;> cases password <;>
        simp [buildAuth, presentAuth, Option.filter]

/-- The server with its defaults filled in. -/
def UpstreamServer.filled (server : UpstreamServer) : UpstreamServer :=
  { server with
    authentication := presentAuth server.authentication
    dnssec := some (server.dnssec.getD true) }

/-- The zone server with its defaults filled in. -/
def ZoneServerConfig.filled (server : ZoneServerConfig) : ZoneServerConfig :=
  { server with
    authentication := presentAuth server.authentication
    dnssec := some (server.dnssec.getD true) }

/-- The zone with the defaults of its servers filled in. -/
def ResolverZoneConfig.filled (zone : ResolverZoneConfig) : ResolverZoneConfig :=
  { zone with servers := zone.servers.map (·.filled) }

/-- The list with its defaults filled in, without the interval. -/
def NamedList.filled (list : NamedList) : NamedList :=
  { list with
    interval := none
    enabled := some (list.enabled.getD true)
    listType := some (list.listType.getD "adguard") }

/-- A discovery entry without its allowed types, and the set of these. -/
def ZoneDiscoveryConfig.content (entry : ZoneDiscoveryConfig) :
    ZoneDiscoveryConfig × Finset String :=
  ({ entry with
      allowedTypes := []
      authentication := presentAuth entry.authentication }, entry.allowedTypes.toFinset)

theorem uint8_ofInt_toNat (n : UInt8) : UInt8.ofInt (n.toNat : Int) = n := by
  have hlt := n.toNat_lt
  apply UInt8.toNat.inj
  simp only [UInt8.ofInt, UInt8.toNat_ofNat']
  omega

theorem uint32_ofInt_wrapSigned (n : UInt32) : UInt32.ofInt (wrapSigned 32 n.toNat) = n := by
  have hlt := n.toNat_lt
  have hmod := wrapSigned_emod 32 n.toNat
  apply UInt32.toNat.inj
  simp only [UInt32.ofInt, UInt32.toNat_ofNat']
  omega

variable {draw : SeedDraw → String} {config : DnsFilterConfig} {db : Database}

theorem toConfig_seedUpstreamServer (i : Nat) (server : UpstreamServer) :
    (seedUpstreamServer draw i server).toConfig = server.filled := by
  unfold UpstreamServerRecord.toConfig seedUpstreamServer UpstreamServer.filled
  simp only [buildAuth_fields, Option.map_map]
  have hhops : server.maxHops.map (UInt8.ofInt ∘ fun hops => (hops.toNat : Int)) =
      server.maxHops := by
    cases server.maxHops with
    | none => rfl
    | some hops => exact congrArg some (uint8_ofInt_toNat hops)
  have hmark : server.fwmark.map (UInt32.ofInt ∘ fun mark => wrapSigned 32 mark.toNat) =
      server.fwmark := by
    cases server.fwmark with
    | none => rfl
    | some mark => exact congrArg some (uint32_ofInt_wrapSigned mark)
  rw [hhops, hmark]

theorem toConfig_seedZoneServer (zone i : Nat) (server : ZoneServerConfig) :
    (seedZoneServer draw zone i server).toConfig = server.filled := by
  unfold ZoneServerRecord.toConfig seedZoneServer ZoneServerConfig.filled
  simp only [buildAuth_fields, Option.map_map]
  have hhops : server.maxHops.map (UInt8.ofInt ∘ fun hops => (hops.toNat : Int)) =
      server.maxHops := by
    cases server.maxHops with
    | none => rfl
    | some hops => exact congrArg some (uint8_ofInt_toNat hops)
  rw [hhops]

theorem toNamedList_seedFilterList (kind : String) (i : Nat) (list : NamedList) :
    (seedFilterList draw kind i list).toNamedList.filled = list.filled :=
  rfl

/-! ## Positions -/

section Positions

variable {α β γ : Type}

/-- The values in the order of their positions, cast to 32 bits; ties in the order of the
identifiers. -/
def readByPosition (uuid : Nat → String) (values : List β) : List β :=
  (orderBySortOrder (fun p : Nat × β => wrapSigned 32 p.1) (fun p => uuid p.1)
    (values.mapIdx Prod.mk)).map (·.2)

/-- Reading by position gives the list back. -/
def KeepsOrder (uuid : Nat → String) (values : List β) : Prop :=
  readByPosition uuid values = values

theorem wrapSigned_of_lt {i : Nat} (h : i < 2 ^ 31) : wrapSigned 32 i = i := by
  exact wrapSigned_eq_self (by omega) (by omega)

theorem wrapSigned_of_ge {i : Nat} (hle : 2 ^ 31 ≤ i) (hlt : i < 2 ^ 32) :
    wrapSigned 32 i = i - 2 ^ 32 := by
  have hself : wrapSigned 32 ((i : Int) - 2 ^ 32) = i - 2 ^ 32 :=
    wrapSigned_eq_self (by omega) (by omega)
  rw [← hself, wrapSigned, wrapSigned]
  exact (Int.sub_bmod_right _ _).symm

/-- Reading rows that were numbered when they were written. -/
theorem map_orderBySortOrder_mapIdx {row : Nat → β → α} {sortOrder : α → Int} {id : α → String}
    {uuid : Nat → String} {f : α → γ} {g : β → γ}
    (hsort : ∀ i value, sortOrder (row i value) = wrapSigned 32 i)
    (hid : ∀ i value, id (row i value) = uuid i) (hf : ∀ i value, f (row i value) = g value)
    (values : List β) :
    (orderBySortOrder sortOrder id (values.mapIdx row)).map f =
      readByPosition uuid (values.map g) := by
  have hrows : values.mapIdx row = (values.mapIdx Prod.mk).map fun p => row p.1 p.2 :=
    List.ext_getElem (by simp) (by simp)
  have hvalues : (values.map g).mapIdx Prod.mk =
      (values.mapIdx Prod.mk).map fun p => (p.1, g p.2) :=
    List.ext_getElem (by simp) (by simp)
  have hread : (orderBySortOrder (fun p : Nat × β => wrapSigned 32 p.1) (fun p => uuid p.1)
      (values.mapIdx Prod.mk)).map (fun p => (p.1, g p.2)) =
        orderBySortOrder (fun p : Nat × γ => wrapSigned 32 p.1) (fun p => uuid p.1)
          ((values.mapIdx Prod.mk).map fun p => (p.1, g p.2)) :=
    map_orderBySortOrder (fun _ => rfl) (fun _ => rfl)
  unfold readByPosition
  rw [hrows, hvalues, ← map_orderBySortOrder (fun p : Nat × β => hsort p.1 p.2)
    (fun p : Nat × β => hid p.1 p.2), ← hread, List.map_map, List.map_map]
  exact List.map_congr_left fun p _ => hf p.1 p.2

theorem keepsOrder_of_length_le (uuid : Nat → String) {values : List β}
    (h : values.length ≤ 2 ^ 31) : KeepsOrder uuid values := by
  have hsorted : (values.mapIdx Prod.mk).Pairwise fun p q : Nat × β =>
      wrapSigned 32 p.1 < wrapSigned 32 q.1 ∨
        wrapSigned 32 p.1 = wrapSigned 32 q.1 ∧ uuid p.1 ≤ uuid q.1 := by
    rw [List.pairwise_iff_getElem]
    intro i j hi hj hlt
    rw [List.length_mapIdx] at hi hj
    simp only [List.getElem_mapIdx]
    rw [wrapSigned_of_lt (by omega), wrapSigned_of_lt (by omega)]
    exact Or.inl (by omega)
  unfold KeepsOrder readByPosition orderBySortOrder
  rw [hsorted.insertionSort_eq]
  exact List.ext_getElem (by simp) (by simp)

/-- If a position does not fit, such a one comes first. -/
theorem exists_head_readByPosition (uuid : Nat → String) {values : List β}
    (h : 2 ^ 31 < values.length) :
    ∃ i, ∃ hi : i < values.length, 2 ^ 31 ≤ i ∧
      (readByPosition uuid values).head? = some values[i] := by
  have hmem : (2 ^ 31, values[2 ^ 31]) ∈ orderBySortOrder (fun p : Nat × β => wrapSigned 32 p.1)
      (fun p => uuid p.1) (values.mapIdx Prod.mk) :=
    (List.mem_insertionSort _).2 (List.mem_mapIdx.2 ⟨2 ^ 31, h, rfl⟩)
  have hsorted := pairwise_orderBySortOrder (fun p : Nat × β => wrapSigned 32 p.1)
    (fun p => uuid p.1) (values.mapIdx Prod.mk)
  unfold readByPosition
  cases hread : orderBySortOrder (fun p : Nat × β => wrapSigned 32 p.1) (fun p => uuid p.1)
      (values.mapIdx Prod.mk) with
  | nil =>
      rw [hread] at hmem
      exact absurd hmem List.not_mem_nil
  | cons head rest =>
      have hhead : head ∈ values.mapIdx Prod.mk :=
        (List.mem_insertionSort _).1 (hread ▸ List.mem_cons_self)
      obtain ⟨i, hi, rfl⟩ := List.mem_mapIdx.1 hhead
      rw [hread] at hmem hsorted
      refine ⟨i, hi, ?_, rfl⟩
      -- Position `2 ^ 31` wraps to the least number, so none that fits comes before it.
      by_contra hlt
      have hwrap := wrapSigned_of_lt (i := i) (by omega)
      have hleast := wrapSigned_of_ge (Nat.le_refl (2 ^ 31)) (by omega)
      rcases List.mem_cons.1 hmem with heq | hmem
      · have hi' := (Prod.mk.inj heq).1
        omega
      · have hle := (List.pairwise_cons.1 hsorted).1 _ hmem
        simp only [hwrap, hleast] at hle
        omega

/-- The last of `2 ^ 31 + 1` values comes first. -/
theorem not_keepsOrder (uuid : Nat → String) {first last : β} (hne : first ≠ last) {n : Nat}
    (hn : n = 2 ^ 31) : ¬ KeepsOrder uuid (List.replicate n first ++ [last]) := by
  intro h
  generalize hvalues : List.replicate n first ++ [last] = values at h
  have hlength : values.length = n + 1 := by simp [← hvalues]
  obtain ⟨i, hi, hle, hhead⟩ := exists_head_readByPosition uuid
    (show 2 ^ 31 < values.length by omega)
  have hlast : values[i] = last := by
    obtain rfl : i = n := by omega
    simp [← hvalues]
  have hfirst : values.head? = some first := by
    obtain ⟨m, rfl⟩ : ∃ m, n = m + 1 := ⟨n - 1, by omega⟩
    rw [← hvalues, List.replicate_succ]
    rfl
  rw [h, hfirst, hlast] at hhead
  exact hne (Option.some.inj hhead)

/-- Values without a repetition keep their order exactly if all positions fit. -/
theorem keepsOrder_iff_of_nodup (uuid : Nat → String) {values : List β} (h : values.Nodup) :
    KeepsOrder uuid values ↔ values.length ≤ 2 ^ 31 := by
  refine ⟨fun hkeeps => ?_, keepsOrder_of_length_le uuid⟩
  by_contra hlong
  obtain ⟨i, hi, hle, hhead⟩ := exists_head_readByPosition uuid (Nat.lt_of_not_le hlong)
  have hzero : values.head? = some values[0] := by
    rw [List.head?_eq_getElem?, List.getElem?_eq_getElem]
  rw [hkeeps, hzero, Option.some.injEq] at hhead
  have heq : 0 = i := h.getElem_inj_iff.1 hhead
  omega

theorem wrapSigned_inj {i j : Nat} (hi : i < 2 ^ 32) (hj : j < 2 ^ 32)
    (h : wrapSigned 32 i = wrapSigned 32 j) : i = j := by
  have hmod := wrapSigned_emod 32 i
  rw [h, wrapSigned_emod] at hmod
  omega

/-- The positions of at most `2 ^ 32` values in the order of their casts. -/
theorem pairwise_positions {length n : Nat} (h : length ≤ 2 ^ 32) (hn : n = 2 ^ 31) :
    ((List.range length).drop n ++ (List.range length).take n).Pairwise fun i j : Nat =>
      wrapSigned 32 i < wrapSigned 32 j := by
  have hfront : ∀ i ∈ (List.range length).drop n, wrapSigned 32 (i : Nat) = i - 2 ^ 32 := by
    intro i hi
    obtain ⟨k, hk, rfl⟩ := List.mem_drop_iff_getElem.1 hi
    rw [List.length_range] at hk
    rw [List.getElem_range]
    exact wrapSigned_of_ge (by omega) (by omega)
  have hback : ∀ i ∈ (List.range length).take n, wrapSigned 32 (i : Nat) = i := by
    intro i hi
    obtain ⟨k, hk, rfl⟩ := List.mem_take_iff_getElem.1 hi
    rw [List.getElem_range]
    exact wrapSigned_of_lt (by omega)
  have hlt (i : Nat) (hi : i ∈ List.range length) : i < 2 ^ 32 :=
    (List.mem_range.1 hi).trans_le h
  have hrange : (List.range length).Pairwise (· < ·) := List.pairwise_lt_range
  refine List.pairwise_append.2 ⟨?_, ?_, ?_⟩
  · refine (hrange.drop).imp_of_mem fun {i j} hi hj hij => ?_
    rw [hfront i hi, hfront j hj]
    omega
  · refine (hrange.take).imp_of_mem fun {i j} hi hj hij => ?_
    rw [hback i hi, hback j hj]
    omega
  · intro i hi j hj
    have hi' := hlt i (List.mem_of_mem_drop hi)
    rw [hfront i hi, hback j hj]
    omega

/-- In a list of at most `2 ^ 32` values, those whose positions do not fit come first. -/
theorem readByPosition_eq (uuid : Nat → String) {values : List β} (h : values.length ≤ 2 ^ 32)
    {n : Nat} (hn : n = 2 ^ 31) :
    readByPosition uuid values = values.drop n ++ values.take n := by
  have hread : orderBySortOrder (fun p : Nat × β => wrapSigned 32 p.1) (fun p => uuid p.1)
      (values.mapIdx Prod.mk) =
        (values.mapIdx Prod.mk).drop n ++ (values.mapIdx Prod.mk).take n := by
    have hrows : (orderBySortOrder (fun p : Nat × β => wrapSigned 32 p.1) (fun p => uuid p.1)
        (values.mapIdx Prod.mk)).Perm (values.mapIdx Prod.mk) := List.perm_insertionSort _ _
    have hperm : ((values.mapIdx Prod.mk).drop n ++ (values.mapIdx Prod.mk).take n).Perm
        (values.mapIdx Prod.mk) := by
      have hswap := @List.perm_append_comm _ ((values.mapIdx Prod.mk).drop n)
        ((values.mapIdx Prod.mk).take n)
      rwa [List.take_append_drop] at hswap
    have hpositions : (values.mapIdx Prod.mk).map (·.1) = List.range values.length :=
      List.ext_getElem (by simp) (by simp)
    have hsorted := pairwise_positions h hn
    rw [← hpositions, ← List.map_drop, ← List.map_take, ← List.map_append,
      List.pairwise_map] at hsorted
    refine (hrows.trans hperm.symm).eq_of_pairwise ?_ (pairwise_orderBySortOrder _ _ _)
      (hsorted.imp .inl)
    intro p q hp hq hpq hqp
    obtain ⟨i, hi, rfl⟩ := List.mem_mapIdx.1 (hrows.mem_iff.1 hp)
    obtain ⟨j, hj, rfl⟩ := List.mem_mapIdx.1 (hperm.mem_iff.1 hq)
    -- Below `2 ^ 32` no two positions have the same cast, so the identifiers do not matter.
    simp only at hpq hqp
    obtain rfl : i = j := wrapSigned_inj (by omega) (by omega) (by omega)
    rfl
  have hvalues : (values.mapIdx Prod.mk).map (·.2) = values :=
    List.ext_getElem (by simp) (by simp)
  rw [readByPosition, hread, List.map_append, List.map_drop, List.map_take, hvalues]

/-- Such a list keeps its order exactly if it is the same with these values in front. -/
theorem keepsOrder_iff_of_length_le (uuid : Nat → String) {values : List β}
    (h : values.length ≤ 2 ^ 32) :
    KeepsOrder uuid values ↔ values.drop (2 ^ 31) ++ values.take (2 ^ 31) = values := by
  rw [KeepsOrder, readByPosition_eq uuid h rfl]

end Positions

/-! ## Section by section -/

section Sections

variable {record : ResolverConfigRecord}

theorem bootstrap_readBack :
    (UpstreamConfig.getResolverConfig (seededDatabase draw config record)).bootstrapResolvers =
      readByPosition (fun i => draw (.bootstrap i)) record.bootstrapResolvers := by
  have hread := @map_orderBySortOrder_mapIdx BootstrapResolverRow String String
    (fun i address => ⟨draw (.bootstrap i), address, wrapSigned 32 i⟩) (·.sortOrder) (·.id)
    (fun i => draw (.bootstrap i)) (·.address) (fun address => address) (fun _ _ => rfl)
    (fun _ _ => rfl) (fun _ _ => rfl) record.bootstrapResolvers
  rw [List.map_id'] at hread
  exact hread

theorem servers_readBack :
    (UpstreamConfig.getAllServers (seededDatabase draw config record)).map (·.toConfig) =
      readByPosition (fun i => draw (.server i)) (config.resolvers.servers.map (·.filled)) :=
  @map_orderBySortOrder_mapIdx UpstreamServerRecord UpstreamServer UpstreamServer
    (seedUpstreamServer draw) (·.sortOrder) (·.id) (fun i => draw (.server i)) (·.toConfig)
    (·.filled) (fun _ _ => rfl) (fun _ _ => rfl)
    (fun i server => toConfig_seedUpstreamServer i server) config.resolvers.servers

/-- Of blocks that were written one after the other, the rows with the key of one block. -/
theorem filter_flatten_mapIdx {α β κ : Type} [DecidableEq κ] {block : Nat → β → List α}
    {key : α → κ} {k : Nat → κ} (hk : Function.Injective k)
    (hkey : ∀ i value, ∀ a ∈ block i value, key a = k i) (i : Nat) (values : List β) (n : Nat)
    (hn : n < values.length) :
    ((values.mapIdx fun j => block (i + j)).flatten).filter (fun a => key a = k (i + n)) =
      block (i + n) (values.get ⟨n, hn⟩) := by
  have hother : ∀ (j m : Nat) (rest : List β), m < j →
      ((rest.mapIdx fun l => block (j + l)).flatten).filter (fun a => key a = k m) = [] := by
    intro j m rest hlt
    refine List.filter_eq_nil_iff.2 fun a ha => ?_
    obtain ⟨rows, hrows, hmem⟩ := List.mem_flatten.1 ha
    obtain ⟨l, hl, rfl⟩ := List.mem_mapIdx.1 hrows
    rw [decide_eq_true_eq, hkey _ _ a hmem]
    exact fun heq => absurd (hk heq) (by omega)
  induction values generalizing i n with
  | nil => exact absurd hn (by simp)
  | cons value rest ih =>
      rw [List.mapIdx_cons, List.flatten_cons, List.filter_append]
      have hshift : (rest.mapIdx fun j => block (i + (j + 1))) =
          rest.mapIdx fun j => block (i + 1 + j) :=
        congrArg (List.mapIdx · rest) (funext fun j => by rw [Nat.add_assoc, Nat.add_comm 1])
      rw [hshift]
      cases n with
      | zero =>
          rw [Nat.add_zero, hother (i + 1) i rest (by omega), List.append_nil,
            List.filter_eq_self.2 fun a ha => decide_eq_true (hkey i value a ha)]
          rfl
      | succ n =>
          have hfirst : (block (i + 0) value).filter (fun a => key a = k (i + (n + 1))) = [] :=
            List.filter_eq_nil_iff.2 fun a ha => by
              rw [decide_eq_true_eq, hkey _ _ a ha]
              exact fun heq => absurd (hk heq) (by omega)
          have hrest := ih (i + 1) n (by simpa using hn)
          rw [Nat.add_assoc, Nat.add_comm 1 n] at hrest
          rw [hfirst, List.nil_append, hrest]
          rfl

/-- The zones of the configuration with their servers as they are read back. -/
def readZones (draw : SeedDraw → String) (zones : List ResolverZoneConfig) :
    List ResolverZoneConfig :=
  zones.mapIdx fun i zone => { zone with
    servers := readByPosition (fun j => draw (.zoneServer i j)) (zone.servers.map (·.filled)) }

theorem zoneServers_readBack (hinj : Function.Injective draw)
    (hvalid : (seededDatabase draw config record).Valid) (i : Nat)
    (hi : i < config.resolvers.zones.length) :
    ((orderBySortOrder (·.sortOrder) (·.id) (seededDatabase draw config record).zoneServers).filter
        (·.zoneId = draw (.zone i))).map (·.toConfig) =
      readByPosition (fun j => draw (.zoneServer i j))
        ((config.resolvers.zones.get ⟨i, hi⟩).servers.map (·.filled)) := by
  have hzones : Function.Injective fun i => draw (.zone i) := fun i j heq => by
    simpa using hinj heq
  have hblock := @filter_flatten_mapIdx ZoneServerRecord ResolverZoneConfig String _
    (fun i zone => zone.servers.mapIdx (seedZoneServer draw i)) (·.zoneId) _ hzones
    (by
      intro i zone row hrow
      obtain ⟨j, hj, rfl⟩ := List.mem_mapIdx.1 hrow
      rfl) 0 config.resolvers.zones i hi
  rw [Nat.zero_add] at hblock
  rw [filter_orderBySortOrder hvalid.zoneServerId, show
    (seededDatabase draw config record).zoneServers.filter (·.zoneId = draw (.zone i)) = _ from
      hblock]
  exact @map_orderBySortOrder_mapIdx ZoneServerRecord ZoneServerConfig ZoneServerConfig
    (seedZoneServer draw i) (·.sortOrder) (·.id) (fun j => draw (.zoneServer i j)) (·.toConfig)
    (·.filled) (fun _ _ => rfl) (fun _ _ => rfl)
    (fun j server => toConfig_seedZoneServer i j server) _

theorem zones_readBack (hinj : Function.Injective draw)
    (hvalid : (seededDatabase draw config record).Valid) :
    ((Zones.getAllWithServers (seededDatabase draw config record)).map (·.toConfig)).Perm
      (readZones draw config.resolvers.zones) := by
  rw [getAllWithServers_eq hvalid, List.map_map]
  refine ((List.perm_insertionSort _ _).map _).trans (List.Perm.of_eq ?_)
  apply List.ext_getElem
  · simp [seededDatabase, readZones]
  · intro i hi hi'
    have hi : i < config.resolvers.zones.length := by simpa [readZones] using hi'
    have hservers := zoneServers_readBack hinj hvalid i hi
    simp only [List.getElem_map, Function.comp_apply, readZones, List.getElem_mapIdx,
      seededDatabase, ZoneRecord.toConfig, seedZone]
    rw [List.get_eq_getElem] at hservers
    rw [← hservers]
    rfl

theorem allowedTypes_readBack (hinj : Function.Injective draw) (i : Nat)
    (hi : i < config.resolvers.zoneDiscovery.length) :
    (((seededDatabase draw config record).allowedTypes.filter
        (·.zoneDiscoveryId = draw (.discovery i))).map (·.allowedType)) =
      (config.resolvers.zoneDiscovery.get ⟨i, hi⟩).allowedTypes := by
  have hentries : Function.Injective fun i => draw (.discovery i) := fun i j heq => by
    simpa using hinj heq
  have hblock := @filter_flatten_mapIdx AllowedTypeRow ZoneDiscoveryConfig String _
    (fun i entry => allowedTypeRows (fun j => draw (.allowedType i j)) (draw (.discovery i))
      entry.allowedTypes) (·.zoneDiscoveryId) _ hentries
    (fun i entry row hrow => zoneDiscoveryId_of_mem_allowedTypeRows hrow) 0
    config.resolvers.zoneDiscovery i hi
  rw [Nat.zero_add] at hblock
  rw [show (seededDatabase draw config record).allowedTypes.filter
    (·.zoneDiscoveryId = draw (.discovery i)) = _ from hblock, map_allowedType_allowedTypeRows]

theorem presentAuth_presentAuth (auth : Option ZoneServerAuthenticationConfig) :
    presentAuth (presentAuth auth) = presentAuth auth := by
  unfold presentAuth
  rw [Option.filter_filter]
  simp

theorem discovery_readBack (hinj : Function.Injective draw)
    (hvalid : (seededDatabase draw config record).Valid) :
    (((ZoneDiscovery.getAll (seededDatabase draw config record)).map (·.toConfig)).map
        (·.content)).Perm (config.resolvers.zoneDiscovery.map (·.content)) := by
  rw [getAll_discovery_eq hvalid, List.map_map, List.map_map]
  refine ((List.perm_insertionSort _ _).map _).trans (List.Perm.of_eq ?_)
  apply List.ext_getElem
  · simp [seededDatabase]
  · intro i hi hi'
    have hi : i < config.resolvers.zoneDiscovery.length := by simpa using hi'
    have htypes := @allowedTypes_readBack draw config record hinj i hi
    have hsorted := ((List.perm_insertionSort (fun a b : AllowedTypeRow =>
      a.zoneDiscoveryId < b.zoneDiscoveryId ∨
        a.zoneDiscoveryId = b.zoneDiscoveryId ∧ a.allowedType ≤ b.allowedType)
      (seededDatabase draw config record).allowedTypes).filter
        (·.zoneDiscoveryId = draw (.discovery i))).map (·.allowedType)
    rw [htypes, List.get_eq_getElem] at hsorted
    simp only [List.getElem_map, Function.comp_apply, List.getElem_mapIdx, seededDatabase,
      ZoneDiscoveryConfig.content, ZoneDiscoveryRecord.toConfig, seedDiscovery, buildAuth_fields,
      presentAuth_presentAuth, Prod.mk.injEq, true_and]
    exact List.toFinset_eq_of_perm _ _ hsorted

theorem filter_seedFilterList (kind kind' : String) (i : Nat) (lists : List NamedList) :
    (lists.mapIdx fun k => seedFilterList draw kind (i + k)).filter (·.kind = kind') =
      if kind = kind' then lists.mapIdx fun k => seedFilterList draw kind (i + k) else [] := by
  by_cases hkind : kind = kind'
  · rw [if_pos hkind]
    refine List.filter_eq_self.2 fun row hrow => ?_
    obtain ⟨k, hk, rfl⟩ := List.mem_mapIdx.1 hrow
    exact decide_eq_true hkind
  · rw [if_neg hkind]
    refine List.filter_eq_nil_iff.2 fun row hrow => ?_
    obtain ⟨k, hk, rfl⟩ := List.mem_mapIdx.1 hrow
    exact fun heq => hkind (of_decide_eq_true heq)

theorem map_seedFilterList (kind : String) (i : Nat) (lists : List NamedList) :
    ((lists.mapIdx fun k => seedFilterList draw kind (i + k)).map (·.toNamedList)).map (·.filled) =
      lists.map (·.filled) :=
  List.ext_getElem (by simp) fun k hk hk' => by
    simp only [List.getElem_map, List.getElem_mapIdx, toNamedList_seedFilterList]

theorem lists_readBack :
    ((((FilterLists.getAll (seededDatabase draw config record)).filter (·.kind = "block")).map
        (·.toNamedList)).map (·.filled)).Perm (config.blocklists.map (·.filled)) ∧
      ((((FilterLists.getAll (seededDatabase draw config record)).filter (·.kind = "allow")).map
        (·.toNamedList)).map (·.filled)).Perm (config.allowlists.map (·.filled)) := by
  have hperm (kind : String) : (((FilterLists.getAll (seededDatabase draw config record)).filter
      (·.kind = kind)).map (·.toNamedList)).Perm
        (((seededFilterLists draw config).filter (·.kind = kind)).map (·.toNamedList)) :=
    ((List.perm_insertionSort _ _).filter _).map _
  have hblock := @filter_seedFilterList draw "block"
  have hallow := @filter_seedFilterList draw "allow"
  have hseeded (kind : String) : (seededFilterLists draw config).filter (·.kind = kind) =
      (if "block" = kind then config.blocklists.mapIdx fun k => seedFilterList draw "block" (0 + k)
        else []) ++ if "allow" = kind then config.allowlists.mapIdx fun k =>
          seedFilterList draw "allow" (config.blocklists.length + k) else [] := by
    rw [seededFilterLists, List.filter_append, ← hblock kind 0, ← hallow kind]
    simp only [Nat.zero_add]
  constructor
  · refine ((hperm "block").map _).trans (List.Perm.of_eq ?_)
    rw [hseeded, if_pos rfl, if_neg (by decide), List.append_nil, map_seedFilterList]
  · refine ((hperm "allow").map _).trans (List.Perm.of_eq ?_)
    rw [hseeded, if_neg (by decide), if_pos rfl, List.nil_append, map_seedFilterList]

end Sections

/-! ## The whole configuration -/

/-- The configuration `after` says the same as `config`: field by field once the defaults are
filled in, the lists in their order, and the tables without an order up to a permutation. -/
structure RoundTrips (config after : DnsFilterConfig) : Prop where
  strategy : after.resolvers.strategy = config.resolvers.strategy
  bootstrap : after.resolvers.bootstrapResolvers = config.resolvers.bootstrapResolvers
  sinkholeIpv4 : after.filtering.bind (·.sinkholeIpv4) =
    some ((config.filtering.bind (·.sinkholeIpv4)).getD "0.0.0.0")
  sinkholeIpv6 : after.filtering.bind (·.sinkholeIpv6) =
    some ((config.filtering.bind (·.sinkholeIpv6)).getD "::")
  anyQueryPolicy : after.filtering.bind (·.anyQueryPolicy) =
    some ((config.filtering.bind (·.anyQueryPolicy)).getD "notimp")
  servers : after.resolvers.servers = config.resolvers.servers.map (·.filled)
  zones : after.resolvers.zones.Perm (config.resolvers.zones.map (·.filled))
  zoneDiscovery : (after.resolvers.zoneDiscovery.map (·.content)).Perm
    (config.resolvers.zoneDiscovery.map (·.content))
  blocklists : (after.blocklists.map (·.filled)).Perm (config.blocklists.map (·.filled))
  allowlists : (after.allowlists.map (·.filled)).Perm (config.allowlists.map (·.filled))

/-- Every ordered list of the configuration keeps its order when its positions are cast to 32
bits. -/
structure PositionsFit (draw : SeedDraw → String) (config : DnsFilterConfig) : Prop where
  bootstrap : KeepsOrder (fun i => draw (.bootstrap i)) config.resolvers.bootstrapResolvers
  servers : KeepsOrder (fun i => draw (.server i)) (config.resolvers.servers.map (·.filled))
  zones : ∀ i (hi : i < config.resolvers.zones.length),
    KeepsOrder (fun j => draw (.zoneServer i j))
      ((config.resolvers.zones.get ⟨i, hi⟩).servers.map (·.filled))

/-- No ordered list of the configuration has more than `2 ^ 31` entries. -/
structure PositionsInRange (config : DnsFilterConfig) : Prop where
  bootstrap : config.resolvers.bootstrapResolvers.length ≤ 2 ^ 31
  servers : config.resolvers.servers.length ≤ 2 ^ 31
  zones : ∀ zone ∈ config.resolvers.zones, zone.servers.length ≤ 2 ^ 31

theorem PositionsInRange.fit (h : PositionsInRange config) : PositionsFit draw config where
  bootstrap := keepsOrder_of_length_le _ h.bootstrap
  servers := keepsOrder_of_length_le _ (by simpa using h.servers)
  zones := fun i hi => keepsOrder_of_length_le _ (by
    rw [List.length_map]
    exact h.zones _ (List.get_mem _ _))

theorem readZones_eq_iff (zones : List ResolverZoneConfig) :
    readZones draw zones = zones.map (·.filled) ↔
      ∀ i (hi : i < zones.length), KeepsOrder (fun j => draw (.zoneServer i j))
        ((zones.get ⟨i, hi⟩).servers.map (·.filled)) := by
  constructor
  · intro h i hi
    have heq : (readZones draw zones)[i]? = (zones.map (·.filled))[i]? := by rw [h]
    simp only [readZones, List.getElem?_mapIdx, List.getElem?_map, List.getElem?_eq_getElem hi,
      Option.map_some, Option.some.injEq] at heq
    exact congrArg ResolverZoneConfig.servers heq
  · intro h
    unfold readZones
    refine List.ext_getElem (by simp) fun i hi hi' => ?_
    rw [List.length_map] at hi'
    simp only [List.getElem_mapIdx, List.getElem_map]
    have hservers := h i hi'
    unfold KeepsOrder at hservers
    rw [List.get_eq_getElem] at hservers
    rw [hservers]
    rfl

/-- Zones with different names are permuted by nothing that keeps the names in their order. -/
theorem readZones_perm_iff {zones : List ResolverZoneConfig} (hnames : (zones.map (·.zone)).Nodup) :
    (readZones draw zones).Perm (zones.map (·.filled)) ↔
      readZones draw zones = zones.map (·.filled) := by
  refine ⟨fun h => ?_, List.Perm.of_eq⟩
  have hfilled : (zones.map (·.filled)).map (·.zone) = zones.map (·.zone) := by
    rw [List.map_map]
    rfl
  have hkeyed : Keyed (·.zone) (zones.map (·.filled)) := by
    rw [Keyed, hfilled]
    exact hnames
  refine List.ext_getElem (by simp [readZones]) fun i hi hi' => ?_
  refine hkeyed.eq_of_key (h.mem_iff.1 (List.getElem_mem hi)) (List.getElem_mem hi') ?_
  simp [readZones, ResolverZoneConfig.filled]

theorem roundTrips_iff_positionsFit (hinj : Function.Injective draw) (hvalid : db.Valid)
    (hempty : db.Unseeded) {db' : Database}
    (hseed : (seedIfEmpty draw config).run db = (.ok true, db')) :
    RoundTrips config (applyDbConfig config (.ofDatabase db')) ↔ PositionsFit draw config := by
  obtain ⟨himportable, hvalid', record, hrecord, rfl⟩ :=
    seedIfEmpty_eq_ok_true hinj hvalid hempty hseed
  have hbootstrap : (applyDbConfig config (.ofDatabase
      (seededDatabase draw config record))).resolvers.bootstrapResolvers =
        readByPosition (fun i => draw (.bootstrap i)) config.resolvers.bootstrapResolvers := by
    obtain ⟨minTtl, maxTtl, -, -, rfl⟩ := seedResolverRecord_eq_ok.1 hrecord
    exact bootstrap_readBack
  have hstrategy : record.strategy = config.resolvers.strategy := by
    obtain ⟨minTtl, maxTtl, -, -, rfl⟩ := seedResolverRecord_eq_ok.1 hrecord
    rfl
  have hzones := zones_readBack hinj hvalid'
  constructor
  · intro h
    refine ⟨hbootstrap.symm.trans h.bootstrap, servers_readBack.symm.trans h.servers, ?_⟩
    rw [← readZones_eq_iff, ← readZones_perm_iff himportable.zones]
    exact hzones.symm.trans h.zones
  · intro h
    exact {
      strategy := hstrategy
      bootstrap := hbootstrap.trans h.bootstrap
      sinkholeIpv4 := rfl
      sinkholeIpv6 := rfl
      anyQueryPolicy := rfl
      servers := servers_readBack.trans h.servers
      zones := hzones.trans (List.Perm.of_eq ((readZones_eq_iff _).2 h.zones))
      zoneDiscovery := discovery_readBack hinj hvalid'
      blocklists := lists_readBack.1
      allowlists := lists_readBack.2 }

/-- **Seeding and reading back.** After a successful import the configuration that is read back says
the same as the one imported, exactly if the positions of its ordered lists fit; they do as long as
no list has more than `2 ^ 31` entries. -/
theorem seed_roundTrips_iff (hinj : Function.Injective draw) (hvalid : db.Valid)
    (hempty : db.Unseeded) {db' : Database}
    (hseed : (seedIfEmpty draw config).run db = (.ok true, db')) :
    (RoundTrips config (applyDbConfig config (.ofDatabase db')) ↔ PositionsFit draw config) ∧
      (PositionsInRange config → PositionsFit draw config) :=
  ⟨roundTrips_iff_positionsFit hinj hvalid hempty hseed, PositionsInRange.fit⟩

/-! Servers, the last of them different from the others. -/

/-- A server that queries the address over plain DNS. -/
def dnsServer (address : String) : UpstreamServer where
  enabled := true
  protocol := "dns"
  address := address
  fwmark := some 0xffffffff

/-- The number of equal servers, and another one after them. -/
def manyServers (n : Nat) : DnsFilterConfig :=
  { minimalConfig with
    resolvers := { minimalConfig.resolvers with
      servers := List.replicate n (dnsServer "1.1.1.1:53") ++ [dnsServer "9.9.9.9:53"] } }

theorem manyServers_importable (n : Nat) : Importable (manyServers n) where
  lists := List.nodup_nil
  resolver := ⟨by simp [manyServers, minimalConfig], by simp [manyServers, minimalConfig],
    List.nodup_nil⟩
  zones := List.nodup_nil
  allowedTypes := by simp [manyServers, minimalConfig]

/-- A configuration that can be imported is imported. -/
theorem exists_run_seedIfEmpty (hinj : Function.Injective draw) (hvalid : db.Valid)
    (hempty : db.Unseeded) (h : Importable config) :
    ∃ db', (seedIfEmpty draw config).run db = (.ok true, db') := by
  obtain ⟨result, db', hrun, hresult, -⟩ := @run_seedAll draw config db hinj hvalid hempty
  rw [run_seedIfEmpty_unseeded hempty.filterLists hempty.upstreamServers, hrun, hresult.2 h]
  exact ⟨db', rfl⟩

theorem manyServers_positionsInRange {n : Nat} (h : n < 2 ^ 31) :
    PositionsInRange (manyServers n) where
  bootstrap := by simp [manyServers, minimalConfig]
  servers := by
    unfold manyServers
    rw [List.length_append, List.length_replicate, List.length_singleton]
    omega
  zones := by simp [manyServers, minimalConfig]

theorem seed_roundTrips_three :
    ∃ db', (seedIfEmpty numberedDraw (manyServers 3)).run {} = (.ok true, db') ∧
      RoundTrips (manyServers 3) (applyDbConfig (manyServers 3) (.ofDatabase db')) := by
  obtain ⟨db', hseed⟩ := exists_run_seedIfEmpty numberedDraw_injective valid_empty unseeded_empty
    (manyServers_importable 3)
  have h := seed_roundTrips_iff numberedDraw_injective valid_empty unseeded_empty hseed
  exact ⟨db', hseed, h.1.2 (h.2 (manyServers_positionsInRange (by decide)))⟩

/-- The position of the last server wraps to the least number, so that it is read first. -/
theorem manyServers_not_positionsFit {n : Nat} (hn : n = 2 ^ 31) :
    ¬ PositionsFit numberedDraw (manyServers n) := by
  intro h
  have hservers := h.servers
  unfold manyServers at hservers
  rw [List.map_append, List.map_replicate] at hservers
  exact not_keepsOrder _ (by decide) hn hservers

theorem long_server_list_reordered :
    ({} : Database).Valid ∧ ({} : Database).Unseeded ∧
      ∃ db', (seedIfEmpty numberedDraw (manyServers (2 ^ 31))).run {} = (.ok true, db') ∧
        ¬ RoundTrips (manyServers (2 ^ 31))
          (applyDbConfig (manyServers (2 ^ 31)) (.ofDatabase db')) := by
  generalize hn : 2 ^ 31 = n
  obtain ⟨db', hseed⟩ := exists_run_seedIfEmpty numberedDraw_injective valid_empty unseeded_empty
    (manyServers_importable n)
  refine ⟨valid_empty, unseeded_empty, db', hseed, ?_⟩
  rw [roundTrips_iff_positionsFit numberedDraw_injective valid_empty unseeded_empty hseed]
  exact manyServers_not_positionsFit hn.symm

/-! ## Cache settings -/

/-- The bound, if it can be read, fits a signed 64-bit number of seconds. -/
def TtlFits (ttl : Option String) : Prop :=
  ∀ text, ttl = some text → ∀ secs, parseInterval text = .ok secs → secs < 2 ^ 63

/-- A bound of the configuration, stored and read back. -/
theorem ttl_readBack {ttl : Option String} {field : String} {stored : Option Int}
    {bound : Option Nat} (hstored : seedTtlSeconds ttl = .ok stored)
    (hbound : parseCacheBound field ttl = .ok bound) :
    parseCacheBound field (stored.map formatSeconds) = .ok bound ↔ TtlFits ttl := by
  rw [parseCacheBound_eq_ok]
  cases ttl with
  | none =>
      obtain rfl := Except.ok.inj hstored
      obtain rfl := Except.ok.inj hbound
      simp [CacheBound, TtlFits]
  | some text =>
      cases hparse : parseInterval text with
      | error e =>
          rw [seedTtlSeconds, hparse] at hstored
          exact absurd hstored (by simp [Except.map])
      | ok secs =>
          rw [seedTtlSeconds, hparse] at hstored
          rw [parseCacheBound, hparse] at hbound
          obtain rfl := Except.ok.inj hstored
          obtain rfl := Except.ok.inj hbound
          have hfits : TtlFits (some text) ↔ secs < 2 ^ 63 := by
            simp [TtlFits, hparse]
          rw [hfits]
          simp only [CacheBound, Option.mem_def, Option.some.injEq, forall_eq', Option.map_some,
            fromSecs]
          constructor
          · intro h
            obtain ⟨⟨hnonneg, _⟩, hsecs⟩ := h
            have hlt : 2 * wrapSigned 64 secs < 2 ^ 64 := wrapSigned_lt 63 secs
            omega
          · intro hlt
            rw [wrapSigned_eq_self (by omega) (by omega)]
            omega

/-- The database has no column for the limit of entries. -/
theorem maxEntries_readBack {settings : ResolverCacheSettings}
    (h : buildResolverCacheSettings (applyDbConfig config (.ofDatabase db)) = .ok settings) :
    settings.maxEntries = 10000 := by
  obtain ⟨-, -, -, hentries, -⟩ := buildResolverCacheSettings_eq_ok.1 h
  exact hentries

/-- **Seeding and the cache settings.** After a successful import the cache behaves as before
exactly if the configuration does not set another limit of entries than the default, and its bounds
fit the signed column. -/
theorem seed_cacheSettings_iff (hinj : Function.Injective draw) (hvalid : db.Valid)
    (hempty : db.Unseeded) {db' : Database} {settings : ResolverCacheSettings}
    (hseed : (seedIfEmpty draw config).run db = (.ok true, db'))
    (hsettings : buildResolverCacheSettings config = .ok settings) :
    buildResolverCacheSettings (applyDbConfig config (.ofDatabase db')) = .ok settings ↔
      (config.resolvers.cache.bind (·.maxEntries)).getD 10000 = 10000 ∧
        TtlFits (config.resolvers.cache.bind (·.minTtl)) ∧
        TtlFits (config.resolvers.cache.bind (·.maxTtl)) := by
  obtain ⟨-, -, record, hrecord, rfl⟩ := seedIfEmpty_eq_ok_true hinj hvalid hempty hseed
  obtain ⟨minTtl, maxTtl, hstoredMin, hstoredMax, rfl⟩ := seedResolverRecord_eq_ok.1 hrecord
  obtain ⟨hmin, hmax, henabled, hentries, hvalidate⟩ :=
    buildResolverCacheSettings_eq_ok.1 hsettings
  have hminBack := ttl_readBack hstoredMin hmin
  have hmaxBack := ttl_readBack hstoredMax hmax
  constructor
  · intro h
    have hentries' := maxEntries_readBack h
    obtain ⟨hmin', hmax', -, -, -⟩ := buildResolverCacheSettings_eq_ok.1 h
    exact ⟨hentries.symm.trans hentries', hminBack.1 hmin', hmaxBack.1 hmax'⟩
  · intro ⟨hdefault, hfitsMin, hfitsMax⟩
    apply buildResolverCacheSettings_eq_ok.2
    exact ⟨hminBack.2 hfitsMin, hmaxBack.2 hfitsMax, henabled, hentries.trans hdefault, hvalidate⟩

/-! A configuration that limits the entries of the cache. -/

def limitedCache (maxEntries : Nat) : DnsFilterConfig :=
  { minimalConfig with
    resolvers := { minimalConfig.resolvers with
      cache := some { minTtl := some "30s", maxTtl := some "1h", maxEntries := some maxEntries } } }

def limitedCacheSettings (maxEntries : Nat) : ResolverCacheSettings where
  enabled := true
  minTtl := some (fromSecs 30)
  maxTtl := some (fromSecs 3600)
  maxEntries := maxEntries

theorem limitedCache_importable (maxEntries : Nat) : Importable (limitedCache maxEntries) where
  lists := List.nodup_nil
  resolver := ⟨fun text h => by rw [← Option.some.inj h]; decide +kernel,
    fun text h => by rw [← Option.some.inj h]; decide +kernel, List.nodup_nil⟩
  zones := List.nodup_nil
  allowedTypes := by simp [limitedCache, minimalConfig]

theorem seed_cacheSettings_default :
    ∃ db', (seedIfEmpty numberedDraw (limitedCache 10000)).run {} = (.ok true, db') ∧
      buildResolverCacheSettings (applyDbConfig (limitedCache 10000) (.ofDatabase db')) =
        .ok (limitedCacheSettings 10000) := by
  obtain ⟨db', hseed⟩ := exists_run_seedIfEmpty numberedDraw_injective valid_empty unseeded_empty
    (limitedCache_importable 10000)
  have hsettings : buildResolverCacheSettings (limitedCache 10000) =
      .ok (limitedCacheSettings 10000) := by decide +kernel
  have hmin : parseInterval "30s" = .ok 30 := by decide +kernel
  have hmax : parseInterval "1h" = .ok 3600 := by decide +kernel
  have h := seed_cacheSettings_iff numberedDraw_injective valid_empty unseeded_empty hseed hsettings
  exact ⟨db', hseed, h.2 ⟨rfl, by simp [TtlFits, limitedCache, hmin],
    by simp [TtlFits, limitedCache, hmax]⟩⟩

theorem cache_limit_lost_by_seeding :
    ({} : Database).Valid ∧ ({} : Database).Unseeded ∧
      buildResolverCacheSettings (limitedCache 500) = .ok (limitedCacheSettings 500) ∧
      ∃ db', (seedIfEmpty numberedDraw (limitedCache 500)).run {} = (.ok true, db') ∧
        buildResolverCacheSettings (applyDbConfig (limitedCache 500) (.ofDatabase db')) ≠
          .ok (limitedCacheSettings 500) := by
  obtain ⟨db', hseed⟩ := exists_run_seedIfEmpty numberedDraw_injective valid_empty unseeded_empty
    (limitedCache_importable 500)
  refine ⟨valid_empty, unseeded_empty, by decide +kernel, db', hseed, ?_⟩
  intro h
  exact absurd (maxEntries_readBack h) (by decide)

end DnsFilter
