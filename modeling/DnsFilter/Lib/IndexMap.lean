import Mathlib.Data.List.Nodup
import Mathlib.Data.List.Perm.Basic

/-!
# Maps that remember the order of their entries

The entries of an insertion-ordered map as a list of pairs: a lookup takes the first pair with a key,
an insert replaces a value in place or appends a pair, and `swapRemove` closes the gap with the last
entry.

* `Distinct` — no two entries have the same key; every operation keeps it.
* `get_insert`, `get_modify`, `get_swapRemove` — what is found under a key after an operation.
* `get_modifyEach` — a loop that changes the values under a list of keys.
-/

namespace DnsFilter.IndexMap

variable {κ α : Type*} [DecidableEq κ]

/-! ## Operations -/

/-- `get`. -/
def get (key : κ) : List (κ × α) → Option α
  | [] => none
  | (k, a) :: rest => if k = key then some a else get key rest

/-- `insert`. -/
def insert (key : κ) (value : α) : List (κ × α) → List (κ × α)
  | [] => [(key, value)]
  | (k, a) :: rest => if k = key then (k, value) :: rest else (k, a) :: insert key value rest

/-- Change the value under a key in place, as through `get_mut`. -/
def modify (key : κ) (f : α → α) : List (κ × α) → List (κ × α)
  | [] => []
  | (k, a) :: rest => if k = key then (k, f a) :: rest else (k, a) :: modify key f rest

/-- The last entry is put before the others. -/
def lastFirst (entries : List (κ × α)) : List (κ × α) :=
  match entries.getLast? with
  | some last => last :: entries.dropLast
  | none => []

/-- `swap_remove`, without the value it returns. -/
def swapRemove (key : κ) : List (κ × α) → List (κ × α)
  | [] => []
  | (k, a) :: rest => if k = key then lastFirst rest else (k, a) :: swapRemove key rest

/-- A loop over keys that changes the value under each. -/
def modifyEach (f : α → α) (keys : List κ) (entries : List (κ × α)) : List (κ × α) :=
  keys.foldl (fun entries key => modify key f entries) entries

/-- No two entries have the same key. -/
def Distinct (entries : List (κ × α)) : Prop := (entries.map Prod.fst).Nodup

/-! ## Lookups -/

section Lemmas

variable {entries entries' : List (κ × α)} {key k : κ}

theorem get_eq_none_iff : get k entries = none ↔ k ∉ entries.map Prod.fst := by
  induction entries with
  | nil => simp [get]
  | cons e rest ih =>
      obtain ⟨k', a⟩ := e
      by_cases hk : k' = k
      · simp [get, hk]
      · simp [get, hk, Ne.symm hk, ih]

theorem mem_of_get {a : α} (h : get k entries = some a) : (k, a) ∈ entries := by
  induction entries with
  | nil => exact absurd h (by simp [get])
  | cons e rest ih =>
      obtain ⟨k', a'⟩ := e
      by_cases hk : k' = k
      · simp only [get, hk, if_true, Option.some.injEq] at h
        simp [hk, h]
      · simp only [get, hk, if_false] at h
        exact List.mem_cons_of_mem _ (ih h)

theorem get_of_mem (h : Distinct entries) {a : α} (hmem : (k, a) ∈ entries) :
    get k entries = some a := by
  induction entries with
  | nil => exact absurd hmem List.not_mem_nil
  | cons e rest ih =>
      obtain ⟨k', a'⟩ := e
      obtain ⟨hnot, hrest⟩ := List.nodup_cons.1 h
      rcases List.mem_cons.1 hmem with heq | hmem
      · obtain ⟨rfl, rfl⟩ := Prod.mk.inj heq
        simp [get]
      · have hk : k' ≠ k := by
          intro heq
          exact hnot (List.mem_map.2 ⟨(k, a), hmem, heq.symm⟩)
        simp only [get, hk, if_false]
        exact ih hrest hmem

theorem forall_values_iff (h : Distinct entries) {P : α → Prop} :
    (∀ e ∈ entries, P e.2) ↔ ∀ k a, get k entries = some a → P a := by
  constructor
  · intro hall k a hget
    exact hall _ (mem_of_get hget)
  · intro hall e he
    exact hall e.1 e.2 (get_of_mem h he)

/-- With distinct keys the order of the entries does not matter. -/
theorem get_of_perm (h : Distinct entries) (hperm : entries.Perm entries') :
    get k entries = get k entries' := by
  have h' : Distinct entries' := (hperm.map Prod.fst).nodup_iff.1 h
  ext a
  constructor
  · intro hget
    exact get_of_mem h' (hperm.mem_iff.1 (mem_of_get hget))
  · intro hget
    exact get_of_mem h (hperm.mem_iff.2 (mem_of_get hget))

theorem get_insert (value : α) :
    get k (insert key value entries) = if k = key then some value else get k entries := by
  induction entries with
  | nil =>
      by_cases hk : key = k
      · simp [insert, get, hk]
      · simp [insert, get, hk, Ne.symm hk]
  | cons e rest ih =>
      obtain ⟨k', a⟩ := e
      by_cases hkey : k' = key
      · by_cases hk : key = k
        · simp [insert, get, hkey, hk]
        · simp [insert, get, hkey, hk, Ne.symm hk]
      · by_cases hk : k' = k
        · simp [insert, get, hk, hk ▸ hkey]
        · simp [insert, get, hkey, hk, ih]

theorem get_modify (f : α → α) :
    get k (modify key f entries) = if k = key then (get k entries).map f else get k entries := by
  induction entries with
  | nil => simp [modify, get]
  | cons e rest ih =>
      obtain ⟨k', a⟩ := e
      by_cases hkey : k' = key
      · by_cases hk : key = k
        · simp [modify, get, hkey, hk]
        · simp [modify, get, hkey, hk, Ne.symm hk]
      · by_cases hk : k' = k
        · simp [modify, get, hk, hk ▸ hkey]
        · simp [modify, get, hkey, hk, ih]

omit [DecidableEq κ] in
theorem lastFirst_perm (entries : List (κ × α)) : (lastFirst entries).Perm entries := by
  unfold lastFirst
  split
  · rename_i last hlast
    have hsplit : entries = entries.dropLast ++ [last] :=
      (List.dropLast_append_getLast? last hlast).symm
    conv_rhs => rw [hsplit]
    exact (List.perm_append_singleton last _).symm
  · rename_i hnil
    rw [List.getLast?_eq_none_iff.1 hnil]

theorem get_swapRemove (h : Distinct entries) :
    get k (swapRemove key entries) = if k = key then none else get k entries := by
  induction entries with
  | nil => simp [swapRemove, get]
  | cons e rest ih =>
      obtain ⟨k', a⟩ := e
      obtain ⟨hnot, hrest⟩ := List.nodup_cons.1 h
      by_cases hkey : k' = key
      · have hperm : get k (lastFirst rest) = get k rest :=
          (get_of_perm hrest (lastFirst_perm rest).symm).symm
        subst hkey
        by_cases hk : k = k'
        · subst hk
          simp [swapRemove, hperm, get_eq_none_iff.2 hnot]
        · simp [swapRemove, hperm, get, hk, Ne.symm hk]
      · by_cases hk : k' = k
        · simp [swapRemove, get, hk, hk ▸ hkey]
        · simp [swapRemove, get, hkey, hk, ih hrest]

/-- Each value is changed once. -/
theorem get_modifyEach (f : α → α) {keys : List κ} (hkeys : keys.Nodup)
    (entries : List (κ × α)) :
    get k (modifyEach f keys entries) =
      if k ∈ keys then (get k entries).map f else get k entries := by
  induction keys generalizing entries with
  | nil => simp [modifyEach]
  | cons key keys ih =>
      obtain ⟨hnot, hkeys⟩ := List.nodup_cons.1 hkeys
      have hstep : modifyEach f (key :: keys) entries =
          modifyEach f keys (modify key f entries) := rfl
      rw [hstep, ih hkeys, get_modify]
      by_cases hk : k = key
      · subst hk
        simp [hnot]
      · simp [hk]

theorem modify_eq_self {f : α → α} (h : ∀ a, get key entries = some a → f a = a) :
    modify key f entries = entries := by
  induction entries with
  | nil => rfl
  | cons e rest ih =>
      obtain ⟨k', a⟩ := e
      by_cases hkey : k' = key
      · have hfix : f a = a := h a (by simp [get, hkey])
        simp [modify, hkey, hfix]
      · have hrest : modify key f rest = rest := ih fun a' ha' => h a' (by simp [get, hkey, ha'])
        simp [modify, hkey, hrest]

theorem modifyEach_eq_self {f : α → α} {keys : List κ}
    (h : ∀ key ∈ keys, ∀ a, get key entries = some a → f a = a) :
    modifyEach f keys entries = entries := by
  induction keys with
  | nil => rfl
  | cons key keys ih =>
      have hstep : modifyEach f (key :: keys) entries =
          modifyEach f keys (modify key f entries) := rfl
      rw [hstep, modify_eq_self (h key List.mem_cons_self)]
      exact ih fun key' hkey' => h key' (List.mem_cons_of_mem _ hkey')

/-! ## Distinct keys -/

theorem keys_modify (f : α → α) :
    (modify key f entries).map Prod.fst = entries.map Prod.fst := by
  induction entries with
  | nil => rfl
  | cons e rest ih =>
      obtain ⟨k', a⟩ := e
      by_cases hkey : k' = key
      · simp [modify, hkey]
      · simp [modify, hkey, ih]

theorem keys_modifyEach (f : α → α) (keys : List κ) (entries : List (κ × α)) :
    (modifyEach f keys entries).map Prod.fst = entries.map Prod.fst := by
  induction keys generalizing entries with
  | nil => rfl
  | cons key keys ih =>
      have hstep : modifyEach f (key :: keys) entries =
          modifyEach f keys (modify key f entries) := rfl
      rw [hstep, ih, keys_modify]

theorem mem_keys_insert (value : α) :
    k ∈ (insert key value entries).map Prod.fst ↔ k = key ∨ k ∈ entries.map Prod.fst := by
  rw [← not_iff_not, ← get_eq_none_iff, get_insert, not_or, ← get_eq_none_iff]
  by_cases hk : k = key
  · simp [hk]
  · simp [hk]

theorem Distinct.insert (h : Distinct entries) (value : α) :
    Distinct (IndexMap.insert key value entries) := by
  induction entries with
  | nil => simp [IndexMap.insert, Distinct]
  | cons e rest ih =>
      obtain ⟨k', a⟩ := e
      obtain ⟨hnot, hrest⟩ := List.nodup_cons.1 h
      by_cases hkey : k' = key
      · simp only [IndexMap.insert, hkey, if_true]
        exact hkey ▸ h
      · simp only [IndexMap.insert, hkey, if_false]
        refine List.nodup_cons.2 ⟨?_, ih hrest⟩
        intro hmem
        exact ((mem_keys_insert value).1 hmem).elim hkey hnot

theorem mem_swapRemove {e : κ × α} (h : e ∈ swapRemove key entries) : e ∈ entries := by
  induction entries with
  | nil => exact h
  | cons e' rest ih =>
      obtain ⟨k', a⟩ := e'
      unfold swapRemove at h
      split at h
      · exact List.mem_cons_of_mem _ ((lastFirst_perm rest).mem_iff.1 h)
      · rcases List.mem_cons.1 h with rfl | h
        · exact List.mem_cons_self
        · exact List.mem_cons_of_mem _ (ih h)

theorem Distinct.swapRemove (h : Distinct entries) :
    Distinct (IndexMap.swapRemove key entries) := by
  induction entries with
  | nil => exact h
  | cons e rest ih =>
      obtain ⟨k', a⟩ := e
      obtain ⟨hnot, hrest⟩ := List.nodup_cons.1 h
      unfold IndexMap.swapRemove
      split
      · exact ((lastFirst_perm rest).map Prod.fst).nodup_iff.2 hrest
      · refine List.nodup_cons.2 ⟨?_, ih hrest⟩
        intro hmem
        obtain ⟨e, he, heq⟩ := List.mem_map.1 hmem
        exact hnot (List.mem_map.2 ⟨e, mem_swapRemove he, heq⟩)

theorem Distinct.modifyEach (h : Distinct entries) (f : α → α) (keys : List κ) :
    Distinct (IndexMap.modifyEach f keys entries) := by
  rw [Distinct, keys_modifyEach]
  exact h

theorem Distinct.modify (h : Distinct entries) (f : α → α) :
    Distinct (IndexMap.modify key f entries) := by
  rw [Distinct, keys_modify]
  exact h

end Lemmas

end DnsFilter.IndexMap
