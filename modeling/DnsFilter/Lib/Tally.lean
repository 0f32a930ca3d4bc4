import DnsFilter.Lib.Lookup
import DnsFilter.Lib.Map
import Mathlib.Algebra.BigOperators.Group.List.Basic

/-!
# Entries and tallies

A map whose entries start from a default: `modifyEntry` changes the entry of a key, which is made
first if it is not there. A fold of such changes does to each entry what the changes of its own key
do, in their order (`entryOr_foldl`).

A table of counters is a map of this kind. `Tallies table seen` says that it counts the keys of a
list, whatever the order of its rows; `Tallies.sum` reads back how many of the keys have a property.
-/

namespace DnsFilter.Tally

open Table

variable {α β κ : Type*} [DecidableEq κ]

/-! ## Entries -/

/-- The entry of a key, or the default. -/
def entryOr (default : α) (table : List (κ × α)) (k : κ) : α :=
  ((lookup (·.1) table k).map (·.2)).getD default

/-- `entry(k).or_default()`, and a change of what is there. -/
def modifyEntry (default : α) (f : α → α) (k : κ) (table : List (κ × α)) : List (κ × α) :=
  upsertRow (·.1) (k, f (entryOr default table k)) table

variable {default : α} {table : List (κ × α)} {f : α → α} {k : κ}

theorem lookup_modifyEntry (k' : κ) :
    lookup (·.1) (modifyEntry default f k table) k' =
      if k' = k then some (k, f (entryOr default table k)) else lookup (·.1) table k' :=
  find?_upsertRow

theorem entryOr_modifyEntry (k' : κ) :
    entryOr default (modifyEntry default f k table) k' =
      if k' = k then f (entryOr default table k) else entryOr default table k' := by
  unfold entryOr
  rw [lookup_modifyEntry]
  by_cases hk : k' = k
  · rw [if_pos hk, if_pos hk]
    rfl
  · rw [if_neg hk, if_neg hk]

theorem entryOr_of_mem (h : Keyed (·.1) table) {row : κ × α} (hrow : row ∈ table) :
    entryOr default table row.1 = row.2 := by
  rw [entryOr, (lookup_eq_some h).2 ⟨hrow, rfl⟩]
  rfl

theorem keyed_modifyEntry (h : Keyed (·.1) table) :
    Keyed (·.1) (modifyEntry default f k table) := by
  unfold modifyEntry upsertRow
  split
  · exact h.update
  · rename_i hfree
    refine h.append fun row hrow heq => hfree ?_
    exact List.any_eq_true.2 ⟨row, hrow, decide_eq_true heq⟩

theorem exists_modifyEntry (k' : κ) :
    (∃ row ∈ modifyEntry default f k table, row.1 = k') ↔
      k' = k ∨ ∃ row ∈ table, row.1 = k' := by
  have hlookup (table : List (κ × α)) :
      (∃ row ∈ table, row.1 = k') ↔ lookup (·.1) table k' ≠ none := by
    simp [lookup_eq_none]
  rw [hlookup, hlookup, lookup_modifyEntry]
  by_cases hk : k' = k
  · simp [hk]
  · simp [hk]

section Fold

variable {key : β → κ} {change : β → α → α}

/-- The changes of other keys do not show in an entry. -/
theorem entryOr_foldl (rows : List β) (table : List (κ × α)) (k : κ) :
    entryOr default
        (rows.foldl (fun table row => modifyEntry default (change row) (key row) table) table) k =
      (rows.filter (key · = k)).foldl (fun entry row => change row entry)
        (entryOr default table k) := by
  induction rows generalizing table with
  | nil => rfl
  | cons row rows ih =>
      rw [List.foldl_cons, ih, entryOr_modifyEntry]
      by_cases hk : k = key row
      · rw [if_pos hk, List.filter_cons_of_pos (by simp [hk]), List.foldl_cons, hk]
      · rw [if_neg hk, List.filter_cons_of_neg (by simpa using Ne.symm hk)]

theorem keyed_foldl (rows : List β) (h : Keyed (·.1) table) :
    Keyed (·.1)
      (rows.foldl (fun table row => modifyEntry default (change row) (key row) table) table) := by
  induction rows generalizing table with
  | nil => exact h
  | cons row rows ih => exact ih (keyed_modifyEntry h)

theorem exists_foldl (rows : List β) (table : List (κ × α)) (k : κ) :
    (∃ row ∈ rows.foldl (fun table row => modifyEntry default (change row) (key row) table) table,
        row.1 = k) ↔
      (∃ row ∈ rows, key row = k) ∨ ∃ row ∈ table, row.1 = k := by
  induction rows generalizing table with
  | nil => simp
  | cons row rows ih =>
      rw [List.foldl_cons, ih, exists_modifyEntry, List.exists_mem_cons_iff, or_assoc,
        or_left_comm, @eq_comm _ k]

end Fold

/-! ## Counters -/

/-- Count a key. -/
def inc (k : κ) (table : List (κ × Nat)) : List (κ × Nat) := modifyEntry 0 (· + 1) k table

/-- The table counts the keys of the list, and no others. -/
structure Tallies (table : List (κ × Nat)) (seen : List κ) : Prop where
  keyed : Keyed (·.1) table
  count : ∀ k, entryOr 0 table k = seen.count k
  mem : ∀ k, (∃ row ∈ table, row.1 = k) ↔ k ∈ seen

section Counters

variable {counters counters' : List (κ × Nat)} {seen : List κ}

theorem tallies_nil : Tallies ([] : List (κ × Nat)) [] := by
  refine ⟨List.nodup_nil, fun k => rfl, fun k => ?_⟩
  simp

theorem Tallies.inc (h : Tallies counters seen) (k : κ) :
    Tallies (Tally.inc k counters) (seen ++ [k]) := by
  refine ⟨keyed_modifyEntry h.keyed, fun k' => ?_, fun k' => ?_⟩
  · show entryOr 0 (modifyEntry 0 (· + 1) k counters) k' = _
    rw [entryOr_modifyEntry, h.count, h.count, List.count_append, List.count_singleton]
    by_cases hk : k' = k
    · rw [if_pos hk, if_pos (by simp [hk]), hk]
    · rw [if_neg hk, if_neg (by simpa using Ne.symm hk), Nat.add_zero]
  · show (∃ row ∈ modifyEntry 0 (· + 1) k counters, row.1 = k') ↔ _
    rw [exists_modifyEntry, h.mem, List.mem_append, List.mem_singleton, or_comm]

/-- The rows can come in any order. -/
theorem Tallies.of_perm (h : Tallies counters seen) (hperm : counters.Perm counters') :
    Tallies counters' seen := by
  have hkeyed : Keyed (·.1) counters' := (hperm.map Prod.fst).nodup_iff.1 h.keyed
  refine ⟨hkeyed, fun k => ?_, fun k => ?_⟩
  · rw [← h.count, entryOr, entryOr, (perm_iff_lookup_eq h.keyed hkeyed).1 hperm]
  · rw [← h.mem]
    simp only [hperm.mem_iff]

/-- So can the keys. -/
theorem Tallies.of_seen_perm {seen' : List κ} (h : Tallies counters seen)
    (hperm : seen.Perm seen') : Tallies counters seen' := by
  refine ⟨h.keyed, fun k => ?_, fun k => ?_⟩
  · rw [h.count, hperm.count_eq]
  · rw [h.mem, hperm.mem_iff]

/-- What a row says. -/
theorem Tallies.snd_eq (h : Tallies counters seen) {row : κ × Nat} (hrow : row ∈ counters) :
    row.2 = seen.count row.1 := by
  rw [← h.count, entryOr_of_mem h.keyed hrow]

/-- The keys of the list, by the rows that count them. -/
theorem Tallies.perm (h : Tallies counters seen) :
    (counters.flatMap fun row => seen.filter (· = row.1)).Perm seen := by
  have hkeys : ∀ pair ∈ seen.map fun k => (k, ()), pair.1 ∈ counters.map (·.1) := by
    intro pair hpair
    obtain ⟨k, hk, rfl⟩ := List.mem_map.1 hpair
    obtain ⟨row, hrow, rfl⟩ := (h.mem k).2 hk
    exact List.mem_map_of_mem hrow
  have hpairs := Map.flatMap_filter_perm h.keyed hkeys
  have hfst := hpairs.map (·.1)
  rw [List.map_flatMap, List.flatMap_map] at hfst
  simpa [List.filter_map, List.map_map, Function.comp_def] using hfst

/-- Rows summed over the keys with a property. -/
theorem Tallies.sum (h : Tallies counters seen) (p : κ → Bool) :
    ((counters.filter (p ·.1)).map (·.2)).sum = seen.countP p := by
  have hrows : counters.map (List.countP p ∘ fun row => seen.filter (· = row.1)) =
      counters.map fun row => if p row.1 then row.2 else 0 := by
    refine List.map_congr_left fun row hrow => ?_
    show (seen.filter (· = row.1)).countP p = _
    rw [List.countP_filter, h.snd_eq hrow]
    by_cases hp : p row.1
    · rw [if_pos hp]
      refine List.countP_congr fun k _ => ?_
      rw [Bool.and_eq_true, decide_eq_true_iff, beq_iff_eq]
      exact ⟨And.right, fun hk => ⟨hk ▸ hp, hk⟩⟩
    · rw [if_neg hp, List.countP_eq_zero]
      intro k _ hk
      rw [Bool.and_eq_true, decide_eq_true_iff] at hk
      exact hp (hk.2 ▸ hk.1)
  rw [← h.perm.countP_eq, List.countP_flatMap, hrows]
  clear h hrows
  induction counters with
  | nil => rfl
  | cons row rows ih =>
      by_cases hp : p row.1
      · simp [hp, ih]
      · simp [hp, ih]

/-- What is counted for each of the keys, summed over the keys. -/
theorem sum_countP_key {γ : Type*} {keys : List κ} (hnodup : keys.Nodup) {pairs : List (κ × γ)}
    (hkeys : ∀ pair ∈ pairs, pair.1 ∈ keys) (p : κ × γ → Bool) :
    (keys.map fun key => pairs.countP fun pair => pair.1 = key && p pair).sum =
      pairs.countP p := by
  have hfilter : ∀ pair ∈ pairs.filter p, pair.1 ∈ keys :=
    fun pair hpair => hkeys pair (List.mem_filter.1 hpair).1
  have hlength := (Map.flatMap_filter_perm hnodup hfilter).length_eq
  rw [List.length_flatMap, ← List.countP_eq_length_filter] at hlength
  rw [← hlength]
  refine congrArg List.sum (List.map_congr_left fun key _ => ?_)
  rw [List.filter_filter, List.countP_eq_length_filter]

end Counters

end DnsFilter.Tally
