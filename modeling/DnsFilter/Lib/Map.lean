import Mathlib.Data.List.AList
import Mathlib.Data.List.Sort

/-!
# Keys of a map

What is left of an association list after a list of keys has been erased from it, one by one:
`lookup_foldl_erase`, `keys_foldl_erase`, and how many keys that is (`length_foldl_erase`). Pairs
grouped by their keys are the same pairs in another order (`flatMap_filter_perm`). Where one of the
lists of a list grows, so does all they hold together (`flatMap_set_perm`).
-/

namespace DnsFilter.Map

variable {α : Type*} {β : α → Type*} [DecidableEq α]

theorem lookup_foldl_erase (keys : List α) (entries : AList β) (key : α) :
    (keys.foldl (fun entries key => entries.erase key) entries).lookup key =
      if key ∈ keys then none else entries.lookup key := by
  induction keys generalizing entries with
  | nil => simp
  | cons k keys ih =>
      rw [List.foldl_cons, ih]
      by_cases hk : key = k
      · subst hk
        simp
      · simp [hk]

theorem keys_foldl_erase (keys : List α) (entries : AList β) :
    (keys.foldl (fun entries key => entries.erase key) entries).keys = entries.keys.diff keys := by
  induction keys generalizing entries with
  | nil => rfl
  | cons k keys ih => rw [List.foldl_cons, ih, AList.keys_erase, List.diff_cons]

theorem keys_foldl_erase_subset (keys : List α) (entries : AList β) :
    (keys.foldl (fun entries key => entries.erase key) entries).keys ⊆ entries.keys := by
  rw [keys_foldl_erase]
  exact List.diff_subset _ _

/-- Distinct keys of the map are erased once each. -/
theorem length_foldl_erase {keys : List α} {entries : AList β}
    (h : List.Subperm keys entries.keys) :
    (keys.foldl (fun entries key => entries.erase key) entries).keys.length + keys.length =
      entries.keys.length := by
  have hperm : (keys ++ entries.keys.diff keys).Perm entries.keys :=
    List.subperm_append_diff_self_of_count_le fun key _ => h.count_le key
  rw [keys_foldl_erase, Nat.add_comm, ← List.length_append]
  exact hperm.length_eq

theorem length_keys_insert_le (key : α) (value : β key) (entries : AList β) :
    (entries.insert key value).keys.length ≤ entries.keys.length + 1 := by
  rw [AList.keys_insert, List.length_cons]
  exact Nat.succ_le_succ List.erase_sublist.length_le

theorem flatMap_filter_perm {γ : Type*} {keys : List α} (hnodup : keys.Nodup)
    {pairs : List (α × γ)} (hkeys : ∀ pair ∈ pairs, pair.1 ∈ keys) :
    (keys.flatMap fun key => pairs.filter (·.1 = key)).Perm pairs := by
  induction keys generalizing pairs with
  | nil =>
      have hnil : pairs = [] := List.eq_nil_iff_forall_not_mem.2 fun pair hpair =>
        absurd (hkeys pair hpair) List.not_mem_nil
      rw [hnil]
      rfl
  | cons k keys ih =>
      obtain ⟨hk, hnodup⟩ := List.nodup_cons.1 hnodup
      have hrest : (keys.flatMap fun key => pairs.filter (·.1 = key)).Perm
          (pairs.filter fun pair => !decide (pair.1 = k)) := by
        have hfilter : ∀ key ∈ keys, pairs.filter (·.1 = key) =
            (pairs.filter fun pair => !decide (pair.1 = k)).filter (·.1 = key) := by
          intro key hkey
          rw [List.filter_filter]
          apply List.filter_congr
          intro pair _
          by_cases h : pair.1 = key
          · have hne : key ≠ k := fun heq => hk (heq ▸ hkey)
            simp [h, hne]
          · simp [h]
        rw [List.flatMap_congr hfilter]
        apply ih hnodup
        intro pair hpair
        obtain ⟨hpair, hne⟩ := List.mem_filter.1 hpair
        rcases List.mem_cons.1 (hkeys pair hpair) with heq | hmem
        · simp [heq] at hne
        · exact hmem
      rw [List.flatMap_cons]
      exact (hrest.append_left _).trans (List.filter_append_perm _ pairs)

section Set

variable {γ δ : Type*} {f : γ → List δ} {rows : List γ} {i : Nat} {old new : γ} {extra : List δ}

theorem flatMap_set_perm (hget : rows[i]? = some old) (h : (f new).Perm (f old ++ extra)) :
    ((rows.set i new).flatMap f).Perm (rows.flatMap f ++ extra) := by
  induction rows generalizing i with
  | nil => simp at hget
  | cons row rows ih =>
      cases i with
      | zero =>
          obtain rfl : row = old := by simpa using hget
          show (f new ++ rows.flatMap f).Perm (f row ++ rows.flatMap f ++ extra)
          refine (h.append_right _).trans ?_
          rw [List.append_assoc, List.append_assoc]
          exact List.perm_append_comm.append_left _
      | succ i =>
          show (f row ++ (rows.set i new).flatMap f).Perm (f row ++ rows.flatMap f ++ extra)
          rw [List.append_assoc]
          exact (ih (by simpa using hget)).append_left _

end Set

end DnsFilter.Map
