import DnsFilter.Lib.Table
import Mathlib.Data.Prod.Lex
import Mathlib.Data.Set.Card

/-!
# Tables as maps

A table whose rows have different keys is a partial map from keys to rows (`lookup`). The order of
the rows plays no part in it (`perm_iff_lookup_eq`), and a statement that writes one row is a write
to one entry of the map:

* `lookup_append` — an insert fills an entry,
* `lookup_updateRows` — an update replaces it,
* `lookup_deleteRows` — a deletion empties it.

A table with two unique columns is a map by either of them. A statement addresses a row by one
column (its identifier), and `updateRows_eq_of_keys` and `deleteRows_eq_of_keys` say what the other
map sees of it.
-/

namespace DnsFilter.Table

variable {α κ κ' : Type*} [DecidableEq κ] [DecidableEq κ']

/-- The row with a key. -/
def lookup (key : α → κ) (rows : List α) (k : κ) : Option α := rows.find? (key · = k)

variable {key : α → κ} {key' : α → κ'} {rows rows' : List α} {row old : α} {k : κ}

theorem lookup_eq_some (h : Keyed key rows) :
    lookup key rows k = some row ↔ row ∈ rows ∧ key row = k := by
  constructor
  · intro hfind
    exact ⟨List.mem_of_find?_eq_some hfind, by simpa using List.find?_some hfind⟩
  · rintro ⟨hrow, rfl⟩
    cases hfind : lookup key rows (key row) with
    | none =>
        simpa using List.find?_eq_none.1 hfind row hrow
    | some found =>
        have hkey : key found = key row := by simpa using List.find?_some hfind
        rw [h.eq_of_key (List.mem_of_find?_eq_some hfind) hrow hkey]

theorem lookup_eq_none : lookup key rows k = none ↔ ∀ row ∈ rows, key row ≠ k := by
  simp [lookup]

/-- The rows with a key are the one that is found. -/
theorem filter_key (h : Keyed key rows) (k : κ) :
    rows.filter (key · = k) = (lookup key rows k).toList := by
  induction rows with
  | nil => rfl
  | cons r rows ih =>
      obtain ⟨hfree, hrows⟩ := List.nodup_cons.1 h
      by_cases hr : key r = k
      · have hnil : rows.filter (key · = k) = [] := by
          refine List.filter_eq_nil_iff.2 fun r' hr' hk => hfree ?_
          rw [hr, ← of_decide_eq_true hk]
          exact List.mem_map_of_mem hr'
        simp [lookup, hr, hnil]
      · have ih := ih hrows
        simpa [lookup, hr] using ih

/-- The row with a key, and the others. -/
theorem perm_cons_deleteRows (h : Keyed key rows) (hrow : lookup key rows k = some row) :
    rows.Perm (row :: deleteRows key k rows) := by
  have hsplit := (List.filter_append_perm (fun r => key r = k) rows).symm
  rw [filter_key h, hrow] at hsplit
  simpa [deleteRows] using hsplit

/-! ## Writes -/

theorem lookup_append (h : ∀ r ∈ rows, key r ≠ key row) :
    lookup key (rows ++ [row]) = Function.update (lookup key rows) (key row) (some row) := by
  funext k
  show (rows ++ [row]).find? _ = _
  rw [List.find?_append, List.find?_singleton]
  by_cases hk : k = key row
  · subst hk
    have hnone : rows.find? (key · = key row) = none := lookup_eq_none.2 h
    simp [hnone]
  · rw [Function.update_of_ne hk]
    simp [Ne.symm hk, lookup]

theorem lookup_updateRows (h : ∃ r ∈ rows, key r = key row) :
    lookup key (updateRows key row rows) =
      Function.update (lookup key rows) (key row) (some row) := by
  funext k
  by_cases hk : k = key row
  · subst hk
    rw [Function.update_self]
    exact find?_updateRows_self h
  · rw [Function.update_of_ne hk]
    exact find?_updateRows_ne hk

theorem lookup_deleteRows :
    lookup key (deleteRows key k rows) = Function.update (lookup key rows) k none := by
  funext k'
  by_cases hk : k' = k
  · subst hk
    rw [Function.update_self]
    exact lookup_eq_none.2 fun r hr => (mem_deleteRows.1 hr).2
  · rw [Function.update_of_ne hk]
    show (rows.filter _).find? _ = _
    rw [List.find?_filter]
    refine congrFun (congrArg _ (funext fun r => ?_)) rows
    by_cases hr : key r = k'
    · simp [hr, hk]
    · simp [hr]

/-- An update that finds its row by one unique column finds it by another that it leaves alone. -/
theorem updateRows_eq_of_keys (h : Keyed key rows) (h' : Keyed key' rows) (hold : old ∈ rows)
    (hkey : key row = key old) (hkey' : key' row = key' old) :
    updateRows key row rows = updateRows key' row rows := by
  refine List.map_congr_left fun r hr => ?_
  have hiff : key r = key row ↔ key' r = key' row := by
    rw [hkey, hkey']
    constructor
    · intro heq
      rw [h.eq_of_key hr hold heq]
    · intro heq
      rw [h'.eq_of_key hr hold heq]
  by_cases hr' : key r = key row
  · rw [if_pos hr', if_pos (hiff.1 hr')]
  · rw [if_neg hr', if_neg (hiff.not.1 hr')]

theorem deleteRows_eq_of_keys (h : Keyed key rows) (h' : Keyed key' rows) (hold : old ∈ rows) :
    deleteRows key (key old) rows = deleteRows key' (key' old) rows := by
  refine List.filter_congr fun r hr => ?_
  have hiff : key r = key old ↔ key' r = key' old := by
    constructor
    · intro heq
      rw [h.eq_of_key hr hold heq]
    · intro heq
      rw [h'.eq_of_key hr hold heq]
  simp [hiff]

/-- A write to a map whose entries are joined with something else, where the write leaves what the
other entries are joined with. -/
theorem map_update {β : Type*} {f : α → β} (g : α → β) {m : κ → Option α} {v : Option α}
    (h : ∀ k', k' ≠ k → ∀ a, m k' = some a → f a = g a) :
    (fun k' => (Function.update m k v k').map f) =
      Function.update (fun k' => (m k').map g) k (v.map f) := by
  funext k'
  by_cases hk : k' = k
  · subst hk
    rw [Function.update_self, Function.update_self]
  · rw [Function.update_of_ne hk, Function.update_of_ne hk]
    exact Option.map_congr fun a ha => h k' hk a ha

omit [DecidableEq κ] in
/-- The key of a row that could be inserted was free. -/
theorem Keyed.free (h : Keyed key (rows ++ [row])) : ∀ r ∈ rows, key r ≠ key row := by
  intro r hr
  rw [Keyed, List.map_append, List.nodup_append] at h
  exact h.2.2 (key r) (List.mem_map_of_mem hr) (key row) (by simp)

/-! ## Reads -/

/-- Two tables are the same map if and only if they have the same rows. -/
theorem perm_iff_lookup_eq (h : Keyed key rows) (h' : Keyed key rows') :
    rows.Perm rows' ↔ lookup key rows = lookup key rows' := by
  constructor
  · intro hperm
    funext k
    apply Option.ext
    intro row
    rw [lookup_eq_some h, lookup_eq_some h', hperm.mem_iff]
  · intro heq
    refine (List.perm_ext_iff_of_nodup (List.Nodup.of_map _ h) (List.Nodup.of_map _ h')).2
      fun row => ?_
    have hrow : lookup key rows (key row) = some row ↔ row ∈ rows ∧ key row = key row :=
      lookup_eq_some h
    rw [heq, lookup_eq_some h'] at hrow
    simpa using hrow.symm

theorem lookup_map {β : Type*} {f : α → β} {keyOf : β → κ} (h : ∀ row, keyOf (f row) = key row) :
    lookup keyOf (rows.map f) k = (lookup key rows k).map f := by
  show (rows.map f).find? _ = _
  rw [List.find?_map]
  exact congrArg (Option.map f) (congrFun (congrArg _ (funext fun row => by simp [h])) rows)

/-- As many rows as keys. -/
theorem length_eq_ncard (h : Keyed key rows) :
    rows.length = {k | (lookup key rows k).isSome}.ncard := by
  have hkeys : {k | (lookup key rows k).isSome} = ((rows.map key).toFinset : Set κ) := by
    ext k
    rw [Set.mem_ofPred_eq, Option.isSome_iff_exists, List.coe_toFinset, Set.mem_ofPred_eq,
      List.mem_map]
    exact exists_congr fun row => lookup_eq_some h
  rw [hkeys, Set.ncard_coe_finset, List.toFinset_card_of_nodup h, List.length_map]

omit [DecidableEq κ'] in
/-- Sorting by one column and then by another. -/
theorem pairwise_insertionSort_lex [LinearOrder κ] [LinearOrder κ'] (key : α → κ) (key' : α → κ')
    (rows : List α) :
    (rows.insertionSort fun a b => key a < key b ∨ key a = key b ∧ key' a ≤ key' b).Pairwise
      fun a b => key a < key b ∨ key a = key b ∧ key' a ≤ key' b := by
  have hlex (a b : α) : (key a < key b ∨ key a = key b ∧ key' a ≤ key' b) ↔
      toLex (key a, key' a) ≤ toLex (key b, key' b) := by
    rw [Prod.Lex.toLex_le_toLex]
  have htotal : Std.Total fun a b => key a < key b ∨ key a = key b ∧ key' a ≤ key' b := by
    refine ⟨fun a b => ?_⟩
    rw [hlex, hlex]
    exact le_total _ _
  have htrans : IsTrans α fun a b => key a < key b ∨ key a = key b ∧ key' a ≤ key' b := by
    refine ⟨fun a b c hab hbc => ?_⟩
    rw [hlex] at hab hbc ⊢
    exact hab.trans hbc
  exact List.pairwise_insertionSort _ rows

/-- Two tables are the same map if and only if they look the same when they are sorted by key. -/
theorem insertionSort_eq_iff [LinearOrder κ] (h : Keyed key rows) (h' : Keyed key rows') :
    rows.insertionSort (key · ≤ key ·) = rows'.insertionSort (key · ≤ key ·) ↔
      lookup key rows = lookup key rows' := by
  have hrows : (rows.insertionSort (key · ≤ key ·)).Perm rows := List.perm_insertionSort _ rows
  have hrows' : (rows'.insertionSort (key · ≤ key ·)).Perm rows' :=
    List.perm_insertionSort _ rows'
  rw [← perm_iff_lookup_eq h h']
  constructor
  · intro heq
    exact hrows.symm.trans (heq ▸ hrows')
  · intro hperm
    refine List.Perm.eq_of_pairwise (fun a b ha hb hab hba => ?_)
      (List.pairwise_insertionSort _ rows) (List.pairwise_insertionSort _ rows')
      (hrows.trans (hperm.trans hrows'.symm))
    exact h.eq_of_key (hrows.mem_iff.1 ha) (hperm.mem_iff.2 (hrows'.mem_iff.1 hb))
      (le_antisymm hab hba)

end DnsFilter.Table
