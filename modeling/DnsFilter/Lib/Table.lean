import Mathlib.Data.List.Nodup
import Mathlib.Data.List.Sort

/-!
# Tables

Rows of a relational table as a list, with the statements a repository issues: insert subject to
constraints, update and delete by key, and the join loop that hands the rows of a detail table to
the rows of a master table.

* `Keyed` — no two rows have the same key; every statement keeps it.
* `takeNew` — the longest prefix of new values: how far a row of inserts gets.
* `attach_eq_map` — on keyed rows, handing each detail row to the first master row with its key
  gives every master row exactly its own detail rows, in order.
-/

namespace DnsFilter.Table

variable {α β κ : Type*} [DecidableEq κ]

/-! ## Statements -/

/-- `INSERT`: refused if the new row conflicts with an existing one. -/
def insertRow (conflicts : α → α → Bool) (row : α) (rows : List α) : Option (List α) :=
  if rows.any (conflicts row) then none else some (rows ++ [row])

/-- `UPDATE … WHERE key = …` of all columns but the key. -/
def updateRows (key : α → κ) (row : α) (rows : List α) : List α :=
  rows.map fun r => if key r = key row then row else r

/-- `DELETE … WHERE key = …`. -/
def deleteRows (key : α → κ) (k : κ) (rows : List α) : List α :=
  rows.filter fun r => key r ≠ k

/-- `INSERT … ON CONFLICT (key) DO UPDATE`. -/
def upsertRow (key : α → κ) (row : α) (rows : List α) : List α :=
  if rows.any fun r => key r = key row then updateRows key row rows else rows ++ [row]

/-- No two rows have the same key. -/
def Keyed (key : α → κ) (rows : List α) : Prop := (rows.map key).Nodup

section Lemmas

variable {key : α → κ} {rows rows' : List α} {row : α} {k : κ}

theorem insertRow_eq_some {conflicts : α → α → Bool} :
    insertRow conflicts row rows = some rows' ↔
      (∀ r ∈ rows, conflicts row r = false) ∧ rows' = rows ++ [row] := by
  rw [insertRow]
  split
  · rename_i h
    obtain ⟨r, hr, hc⟩ := List.any_eq_true.1 h
    refine ⟨fun h => absurd h (by simp), fun h => ?_⟩
    rw [h.1 r hr] at hc
    exact absurd hc (by simp)
  · rename_i h
    rw [Bool.not_eq_true, List.any_eq_false] at h
    rw [Option.some.injEq]
    exact ⟨fun heq => ⟨fun r hr => by simpa using h r hr, heq.symm⟩, fun h => h.2.symm⟩

omit [DecidableEq κ] in
theorem Keyed.append (h : Keyed key rows) (hrow : ∀ r ∈ rows, key r ≠ key row) :
    Keyed key (rows ++ [row]) := by
  rw [Keyed, List.map_append, List.map_singleton]
  refine List.nodup_append.2 ⟨h, List.nodup_singleton _, ?_⟩
  intro a ha b hb
  obtain ⟨r, hr, rfl⟩ := List.mem_map.1 ha
  rw [List.mem_singleton.1 hb]
  exact hrow r hr

@[simp] theorem map_key_updateRows : (updateRows key row rows).map key = rows.map key := by
  rw [updateRows, List.map_map]
  refine List.map_congr_left fun r _ => ?_
  by_cases h : key r = key row <;> simp [h]

theorem Keyed.update (h : Keyed key rows) : Keyed key (updateRows key row rows) := by
  rw [Keyed, map_key_updateRows]
  exact h

theorem Keyed.delete (h : Keyed key rows) : Keyed key (deleteRows key k rows) :=
  h.sublist (List.filter_sublist.map key)

/-- The row with a key is deleted, and no other. -/
theorem length_deleteRows (h : Keyed key rows) (hrow : row ∈ rows) :
    (deleteRows key (key row) rows).length + 1 = rows.length := by
  induction rows with
  | nil => exact absurd hrow List.not_mem_nil
  | cons r rows ih =>
      obtain ⟨hr, hkeyed⟩ := List.nodup_cons.1 h
      unfold deleteRows at ih ⊢
      by_cases heq : key r = key row
      · have hself : rows.filter (fun r => key r ≠ key row) = rows := by
          apply List.filter_eq_self.2
          intro other hother
          have hne : key other ≠ key row := by
            intro hsame
            exact hr (List.mem_map.2 ⟨other, hother, hsame.trans heq.symm⟩)
          simpa using hne
        rw [List.filter_cons_of_neg (by simpa using heq), hself, List.length_cons]
      · have hmem : row ∈ rows := by
          rcases List.mem_cons.1 hrow with rfl | hmem
          · exact absurd rfl heq
          · exact hmem
        rw [List.filter_cons_of_pos (by simpa using heq), List.length_cons, List.length_cons,
          ih hkeyed hmem]

omit [DecidableEq κ] in
theorem Keyed.eq_of_key (h : Keyed key rows) {r r' : α} (hr : r ∈ rows) (hr' : r' ∈ rows)
    (hk : key r = key r') : r = r' :=
  List.inj_on_of_nodup_map h hr hr' hk

/-- What is found under a key after an update of a row with this key. -/
theorem find?_updateRows_self (h : ∃ r ∈ rows, key r = key row) :
    (updateRows key row rows).find? (fun r => key r = key row) = some row := by
  induction rows with
  | nil => exact absurd h (by simp)
  | cons r rows ih =>
      rw [updateRows, List.map_cons]
      by_cases hr : key r = key row
      · simp [hr]
      · rw [if_neg hr, List.find?_cons_of_neg (by simpa using hr)]
        apply ih
        simpa [hr] using h

theorem find?_updateRows_ne (hk : k ≠ key row) :
    (updateRows key row rows).find? (fun r => key r = k) = rows.find? fun r => key r = k := by
  induction rows with
  | nil => rfl
  | cons r rows ih =>
      rw [updateRows, List.map_cons, List.find?_cons, List.find?_cons]
      by_cases hr : key r = key row
      · rw [if_pos hr]
        simp only [hr, Ne.symm hk, decide_false]
        exact ih
      · rw [if_neg hr]
        split
        · rfl
        · exact ih

/-- What another search finds after an update of the row that it found before. -/
theorem find?_updateRows_of_find? {p : α → Bool} {old : α} (hkeyed : Keyed key rows)
    (h : rows.find? p = some old) (hkey : key row = key old) (hp : p row = true) :
    (updateRows key row rows).find? p = some row := by
  induction rows with
  | nil => exact absurd h (by simp)
  | cons r rows ih =>
      obtain ⟨hr, hkeyed⟩ := List.nodup_cons.1 hkeyed
      rw [updateRows, List.map_cons]
      by_cases hpr : p r = true
      · rw [List.find?_cons_of_pos hpr] at h
        rw [Option.some.inj h, if_pos hkey.symm, List.find?_cons_of_pos hp]
      · rw [List.find?_cons_of_neg hpr] at h
        have hne : key r ≠ key row := by
          intro heq
          exact hr (List.mem_map.2 ⟨old, List.mem_of_find?_eq_some h, by rw [heq, hkey]⟩)
        rw [if_neg hne, List.find?_cons_of_neg hpr]
        exact ih hkeyed h

/-- The last of two updates stays. -/
theorem updateRows_updateRows {row' : α} (h : key row = key row') :
    updateRows key row' (updateRows key row rows) = updateRows key row' rows := by
  unfold updateRows
  rw [List.map_map]
  apply List.map_congr_left
  intro r _
  by_cases hr : key r = key row
  · simp [hr, h]
  · simp [hr]

/-- **A key is looked up after an upsert.** -/
theorem find?_upsertRow :
    (upsertRow key row rows).find? (fun r => key r = k) =
      if k = key row then some row else rows.find? fun r => key r = k := by
  rw [upsertRow]
  by_cases hk : k = key row
  · subst hk
    rw [if_pos rfl]
    split
    · rename_i h
      exact find?_updateRows_self (by simpa using h)
    · rename_i h
      rw [List.find?_append, List.find?_eq_none.2 (by simpa using h)]
      simp
  · rw [if_neg hk]
    split
    · exact find?_updateRows_ne hk
    · rw [List.find?_append, List.find?_singleton]
      simp [Ne.symm hk]

/-- An update keeps a second unique column if no other row has the new value in it. -/
theorem Keyed.update_unique {κ' : Type*} {key' : α → κ'} (hid : Keyed key rows)
    (h : Keyed key' rows) (hrow : ∀ r ∈ rows, key r = key row →
      ∀ r' ∈ rows, key r' ≠ key row → key' r' ≠ key' row) :
    Keyed key' (updateRows key row rows) := by
  rw [Keyed, updateRows, List.map_map]
  refine List.Nodup.map_on (fun x hx y hy hxy => ?_) (List.Nodup.of_map _ hid)
  simp only [Function.comp_apply] at hxy
  by_cases hkx : key x = key row <;> by_cases hky : key y = key row
  · exact hid.eq_of_key hx hy (hkx.trans hky.symm)
  · rw [if_pos hkx, if_neg hky] at hxy
    exact absurd hxy.symm (hrow x hx hkx y hy hky)
  · rw [if_neg hkx, if_pos hky] at hxy
    exact absurd hxy (hrow y hy hky x hx hkx)
  · rw [if_neg hkx, if_neg hky] at hxy
    exact h.eq_of_key hx hy hxy

/-- The rows after an update: the new row in the place of an old one, and the others. -/
theorem mem_updateRows {r : α} :
    r ∈ updateRows key row rows ↔
      (r = row ∧ ∃ r' ∈ rows, key r' = key row) ∨ (r ∈ rows ∧ key r ≠ key row) := by
  rw [updateRows, List.mem_map]
  constructor
  · rintro ⟨r', hr', rfl⟩
    by_cases h : key r' = key row
    · exact .inl ⟨if_pos h, r', hr', h⟩
    · rw [if_neg h]
      exact .inr ⟨hr', h⟩
  · rintro (⟨rfl, r', hr', h⟩ | ⟨hr, h⟩)
    · exact ⟨r', hr', if_pos h⟩
    · exact ⟨r, hr, if_neg h⟩

/-- The keys that occur are the same after an update. -/
theorem exists_updateRows : (∃ r ∈ updateRows key row rows, key r = k) ↔ ∃ r ∈ rows, key r = k := by
  simp only [← List.mem_map, map_key_updateRows]

theorem mem_deleteRows {r : α} : r ∈ deleteRows key k rows ↔ r ∈ rows ∧ key r ≠ k := by
  rw [deleteRows, List.mem_filter, decide_eq_true_eq]

/-- An update of rows that a filter drops, by a row that it drops, does not show. -/
theorem filter_updateRows_of_false {p : α → Bool} (hrow : p row = false)
    (hrows : ∀ r ∈ rows, key r = key row → p r = false) :
    (updateRows key row rows).filter p = rows.filter p := by
  unfold updateRows
  induction rows with
  | nil => rfl
  | cons r rows ih =>
      have ih := ih fun r' hr' => hrows r' (List.mem_cons_of_mem _ hr')
      rw [List.map_cons]
      by_cases hr : key r = key row
      · rw [if_pos hr, List.filter_cons_of_neg (by simp [hrow]),
          List.filter_cons_of_neg (by simp [hrows r List.mem_cons_self hr]), ih]
      · rw [if_neg hr, List.filter_cons, List.filter_cons, ih]

/-- A deletion of rows that a filter drops does not show. -/
theorem filter_deleteRows_of_false {p : α → Bool} (hrows : ∀ r ∈ rows, key r = k → p r = false) :
    (deleteRows key k rows).filter p = rows.filter p := by
  rw [deleteRows, List.filter_filter]
  apply List.filter_congr
  intro r hr
  by_cases hk : key r = k
  · simp [hrows r hr hk]
  · simp [hk]

/-- Writing back the row that is there changes nothing. -/
theorem updateRows_eq_self (h : Keyed key rows) (hrow : row ∈ rows) :
    updateRows key row rows = rows := by
  conv_rhs => rw [← List.map_id rows]
  refine List.map_congr_left fun r hr => ?_
  by_cases hk : key r = key row
  · rw [if_pos hk, h.eq_of_key hr hrow hk]
    rfl
  · exact if_neg hk

end Lemmas

/-! ## New values -/

/-- The longest prefix of values of which none is the `same` as one before it or one of `seen`. -/
def takeFree (same : β → β → Bool) (seen : List β) : List β → List β
  | [] => []
  | value :: rest =>
      if seen.any (same value) then [] else value :: takeFree same (seen ++ [value]) rest

theorem takeFree_eq_self {same : β → β → Bool} {seen values : List β} :
    takeFree same seen values = values ↔
      values.Pairwise (fun a b => same b a = false) ∧
        ∀ value ∈ values, seen.any (same value) = false := by
  induction values generalizing seen with
  | nil => simp [takeFree]
  | cons value rest ih =>
      unfold takeFree
      by_cases hseen : seen.any (same value) = true
      · rw [if_pos hseen, List.forall_mem_cons, hseen]
        simp
      · rw [if_neg hseen, List.cons.injEq, ih, List.pairwise_cons, List.forall_mem_cons]
        rw [Bool.not_eq_true] at hseen
        simp only [true_and, List.any_append, Bool.or_eq_false_iff, List.any_cons, List.any_nil,
          Bool.or_false, hseen]
        constructor
        · intro ⟨hrest, hfree⟩
          exact ⟨⟨fun v hv => (hfree v hv).2, hrest⟩, fun v hv => (hfree v hv).1⟩
        · intro ⟨⟨hvalue, hrest⟩, hfree⟩
          exact ⟨hrest, fun v hv => ⟨hfree v hv, hvalue v hv⟩⟩

/-- The first value has nothing before it. -/
theorem takeFree_eq_nil {same : β → β → Bool} {values : List β}
    (h : takeFree same [] values = []) : values = [] := by
  cases values with
  | nil => rfl
  | cons value rest =>
      unfold takeFree at h
      exact absurd h (by simp)

/-- The longest prefix without repeats. -/
def takeNew [DecidableEq β] (values : List β) : List β := takeFree (fun a b => a = b) [] values

theorem takeNew_eq_self [DecidableEq β] {values : List β} :
    takeNew values = values ↔ values.Nodup := by
  unfold takeNew
  rw [takeFree_eq_self]
  simp only [List.any_nil, implies_true, and_true, decide_eq_false_iff_not]
  exact ⟨fun h => h.imp Ne.symm, fun h => h.imp Ne.symm⟩

/-- The first value is never a repeat. -/
theorem exists_takeNew_cons [DecidableEq β] (value : β) (rest : List β) :
    ∃ rest', takeNew (value :: rest) = value :: rest' := by
  unfold takeNew takeFree
  exact ⟨_, if_neg (by simp)⟩

/-! ## Joins -/

/-- Change the first row with the given key. -/
def modifyFirst (key : α → κ) (k : κ) (f : α → α) : List α → List α
  | [] => []
  | r :: rows => if key r = k then f r :: rows else r :: modifyFirst key k f rows

/-- Hand each detail row to the first master row with its key. -/
def attach (key : α → κ) (detailKey : β → κ) (push : β → α → α) (details : List β)
    (rows : List α) : List α :=
  details.foldl (fun rows d => modifyFirst key (detailKey d) (push d) rows) rows

section Attach

variable {key : α → κ} {detailKey : β → κ} {push : β → α → α}

theorem map_modifyFirst {γ : Type*} {h : α → γ} {k : κ} {f : α → α} (hf : ∀ r, h (f r) = h r) :
    ∀ rows : List α, (modifyFirst key k f rows).map h = rows.map h
  | [] => rfl
  | r :: rows => by
      rw [modifyFirst]
      split
      · rw [List.map_cons, List.map_cons, hf]
      · rw [List.map_cons, List.map_cons, map_modifyFirst hf rows]

/-- The columns that the detail rows do not touch are the same after the join. -/
theorem map_attach {γ : Type*} {h : α → γ} (hpush : ∀ d r, h (push d r) = h r) (details : List β)
    (rows : List α) : (attach key detailKey push details rows).map h = rows.map h := by
  induction details generalizing rows with
  | nil => rfl
  | cons d details ih =>
      rw [attach, List.foldl_cons]
      exact (ih _).trans (map_modifyFirst (hpush d) rows)

theorem modifyFirst_eq_map {k : κ} {f : α → α} :
    ∀ {rows : List α}, Keyed key rows →
      modifyFirst key k f rows = rows.map fun r => if key r = k then f r else r
  | [], _ => rfl
  | r :: rows, h => by
      rw [Keyed, List.map_cons, List.nodup_cons] at h
      rw [modifyFirst, List.map_cons]
      by_cases hk : key r = k
      · rw [if_pos hk, if_pos hk]
        congr 1
        conv_lhs => rw [← List.map_id rows]
        refine List.map_congr_left fun r' hr' => ?_
        have hne : key r' ≠ k := fun hk' => h.1 (hk ▸ hk' ▸ List.mem_map_of_mem hr')
        exact (if_neg hne).symm
      · rw [if_neg hk, if_neg hk, modifyFirst_eq_map h.2]

/-- **The join loop.** Every master row gets its own detail rows, in their order. -/
theorem attach_eq_map (hpush : ∀ d r, key (push d r) = key r) :
    ∀ (details : List β) {rows : List α}, Keyed key rows →
      attach key detailKey push details rows =
        rows.map fun r => (details.filter (detailKey · = key r)).foldl (fun r d => push d r) r
  | [], rows, _ => by simp [attach]
  | d :: details, rows, h => by
      have hstep := modifyFirst_eq_map (k := detailKey d) (f := push d) h
      have hkeyed : Keyed key (modifyFirst key (detailKey d) (push d) rows) := by
        rw [hstep, Keyed, List.map_map]
        have hkeys : rows.map (key ∘ fun r => if key r = detailKey d then push d r else r) =
            rows.map key := by
          refine List.map_congr_left fun r _ => ?_
          by_cases hk : key r = detailKey d <;> simp [hk, hpush]
        rw [hkeys]
        exact h
      rw [attach, List.foldl_cons]
      have ih := attach_eq_map hpush details hkeyed
      rw [attach] at ih
      rw [ih, hstep, List.map_map]
      refine List.map_congr_left fun r _ => ?_
      by_cases hk : key r = detailKey d
      · simp [hk, hpush]
      · simp [hk, Ne.symm hk]

end Attach

end DnsFilter.Table
