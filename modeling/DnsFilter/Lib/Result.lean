import Mathlib.Data.List.Forall2

/-!
# Results

Rules for computations in `Except`: what a successful run of a compound computation says about
its parts (`bind_eq_ok`, `mapM_eq_ok`), and when a compound computation succeeds (`Succeeds`).
-/

universe u

namespace DnsFilter

variable {ε ε' : Type*} {α β : Type u}

theorem bind_eq_ok {x : Except ε α} {f : α → Except ε β} {b : β} :
    (x >>= f) = .ok b ↔ ∃ a, x = .ok a ∧ f a = .ok b := by
  cases x with
  | error e => simp [bind, Except.bind]
  | ok a => simp [bind, Except.bind]

theorem map_eq_ok {f : α → β} {x : Except ε α} {b : β} :
    x.map f = .ok b ↔ ∃ a, x = .ok a ∧ b = f a := by
  cases x with
  | error e => simp [Except.map]
  | ok a => simp [Except.map, eq_comm]

theorem mapError_eq_ok {f : ε → ε'} {x : Except ε α} {a : α} :
    x.mapError f = .ok a ↔ x = .ok a := by
  cases x <;> simp [Except.mapError]

theorem toOption_eq_some {x : Except ε α} {a : α} : x.toOption = some a ↔ x = .ok a := by
  cases x with
  | error e => simp [Except.toOption]
  | ok b => simp [Except.toOption]

theorem mem_toOption_getD {x : Except ε (List α)} {a : α} :
    a ∈ x.toOption.getD [] ↔ ∃ l, x = .ok l ∧ a ∈ l := by
  cases x with
  | error e => simp [Except.toOption]
  | ok l => simp [Except.toOption]

/-- A successful `mapM` ran every element successfully, in order. -/
theorem mapM_eq_ok {f : α → Except ε β} :
    ∀ {l : List α} {l' : List β}, l.mapM f = .ok l' ↔ List.Forall₂ (fun a b => f a = .ok b) l l'
  | [], l' => by
      rw [List.forall₂_nil_left_iff, List.mapM_nil]
      exact ⟨fun h => (Except.ok.inj h).symm, fun h => h ▸ rfl⟩
  | a :: l, l' => by
      rw [List.forall₂_cons_left_iff, List.mapM_cons, bind_eq_ok]
      constructor
      · rintro ⟨b, hb, h⟩
        obtain ⟨bs, hbs, h⟩ := bind_eq_ok.1 h
        exact ⟨b, bs, hb, mapM_eq_ok.1 hbs, (Except.ok.inj h).symm⟩
      · rintro ⟨b, bs, hb, hbs, rfl⟩
        exact ⟨b, hb, bind_eq_ok.2 ⟨bs, mapM_eq_ok.2 hbs, rfl⟩⟩

/-- Every result of a successful `mapM` comes from an element. -/
theorem exists_of_mem_mapM {f : α → Except ε β} {l : List α} {l' : List β} {b : β}
    (h : l.mapM f = .ok l') (hb : b ∈ l') : ∃ a ∈ l, f a = .ok b := by
  have hall := mapM_eq_ok.1 h
  clear h
  induction hall with
  | nil => exact absurd hb (by simp)
  | cons hab _ ih =>
      rcases List.mem_cons.1 hb with rfl | hb
      · exact ⟨_, List.mem_cons_self, hab⟩
      · obtain ⟨a, ha, hfa⟩ := ih hb
        exact ⟨a, List.mem_cons_of_mem _ ha, hfa⟩

/-- Every element of a successful `mapM` gives a result. -/
theorem exists_mem_of_mapM {f : α → Except ε β} {l : List α} {l' : List β} {a : α}
    (h : l.mapM f = .ok l') (ha : a ∈ l) : ∃ b ∈ l', f a = .ok b := by
  have hall := mapM_eq_ok.1 h
  clear h
  induction hall with
  | nil => exact absurd ha (by simp)
  | cons hab _ ih =>
      rcases List.mem_cons.1 ha with rfl | ha
      · exact ⟨_, List.mem_cons_self, hab⟩
      · obtain ⟨b, hb, hfa⟩ := ih ha
        exact ⟨b, List.mem_cons_of_mem _ hb, hfa⟩

/-- A successful `mapM` drops nothing. -/
theorem filterMap_toOption_of_mapM {f : α → Except ε β} {l : List α} {l' : List β}
    (h : l.mapM f = .ok l') : l.filterMap (fun a => (f a).toOption) = l' := by
  have hall := mapM_eq_ok.1 h
  clear h
  induction hall with
  | nil => rfl
  | cons hab _ ih =>
      rw [List.filterMap_cons, hab, ih]
      rfl

/-- A loop that computes something from each element and adds it to what it has. -/
theorem foldlM_eq_ok {γ : Type u} {f : α → Except ε β} {g : γ → β → γ} {l : List α}
    {init last : γ} :
    (l.foldlM (fun s a => do let b ← f a; return g s b) init : Except ε γ) = .ok last ↔
      ∃ bs, l.mapM f = .ok bs ∧ last = bs.foldl g init := by
  induction l generalizing init with
  | nil =>
      rw [List.foldlM_nil, List.mapM_nil]
      constructor
      · intro h
        exact ⟨[], rfl, (Except.ok.inj h).symm⟩
      · intro ⟨bs, hbs, h⟩
        obtain rfl := Except.ok.inj hbs
        exact congrArg Except.ok h.symm
  | cons a l ih =>
      rw [List.foldlM_cons, List.mapM_cons, bind_eq_ok]
      constructor
      · intro ⟨next, hnext, h⟩
        obtain ⟨b, hb, hnext⟩ := bind_eq_ok.1 hnext
        obtain rfl := Except.ok.inj hnext
        obtain ⟨bs, hbs, rfl⟩ := ih.1 h
        exact ⟨b :: bs, bind_eq_ok.2 ⟨b, hb, bind_eq_ok.2 ⟨bs, hbs, rfl⟩⟩, rfl⟩
      · intro ⟨bs, hbs, h⟩
        obtain ⟨b, hb, hbs⟩ := bind_eq_ok.1 hbs
        obtain ⟨rest, hrest, hbs⟩ := bind_eq_ok.1 hbs
        obtain rfl := Except.ok.inj hbs
        exact ⟨g init b, bind_eq_ok.2 ⟨b, hb, rfl⟩, ih.2 ⟨rest, hrest, h⟩⟩

theorem elim_eq_ok {x : Option α} {e : ε} {a : α} :
    (x.elim (.error e) .ok : Except ε α) = .ok a ↔ x = some a := by
  cases x with
  | none => simp
  | some b => simp

theorem forM_eq_ok {f : α → Except ε PUnit} {l : List α} :
    l.forM f = .ok ⟨⟩ ↔ ∀ a ∈ l, f a = .ok ⟨⟩ := by
  induction l with
  | nil => exact iff_of_true rfl (by simp)
  | cons a l ih =>
      change (f a >>= fun _ => l.forM f) = .ok ⟨⟩ ↔ _
      rw [bind_eq_ok, List.forall_mem_cons, ← ih]
      exact ⟨fun ⟨_, h⟩ => h, fun h => ⟨⟨⟩, h⟩⟩

/-- The computation returns a value. -/
def Succeeds (x : Except ε α) : Prop := ∃ a, x = .ok a

instance (x : Except ε α) : Decidable (Succeeds x) :=
  match x with
  | .ok a => isTrue ⟨a, rfl⟩
  | .error _ => isFalse fun ⟨_, h⟩ => nomatch h

@[simp] theorem succeeds_ok (a : α) : Succeeds (.ok a : Except ε α) := ⟨a, rfl⟩

@[simp] theorem succeeds_pure (a : α) : Succeeds (pure a : Except ε α) := ⟨a, rfl⟩

@[simp] theorem not_succeeds_error (e : ε) : ¬ Succeeds (.error e : Except ε α) :=
  fun ⟨_, h⟩ => nomatch h

/-- A result that can be computed, and a test it passes. -/
theorem exists_ok_of_any {x : Except ε α} {p : α → Bool} (h : x.toOption.any p = true) :
    ∃ a, x = .ok a ∧ p a = true := by
  cases x with
  | error e => exact absurd h (by simp [Except.toOption])
  | ok a => exact ⟨a, rfl, h⟩

theorem succeeds_bind {x : Except ε α} {f : α → Except ε β} :
    Succeeds (x >>= f) ↔ ∃ a, x = .ok a ∧ Succeeds (f a) := by
  cases x with
  | error e => simp [Succeeds, bind, Except.bind]
  | ok a => simp [Succeeds, bind, Except.bind]

@[simp] theorem succeeds_map {f : α → β} {x : Except ε α} :
    Succeeds (x.map f) ↔ Succeeds x := by
  cases x <;> simp [Succeeds, Except.map]

@[simp] theorem succeeds_mapError {f : ε → ε'} {x : Except ε α} :
    Succeeds (x.mapError f) ↔ Succeeds x := by
  cases x <;> simp [Succeeds, Except.mapError]

theorem succeeds_mapM {f : α → Except ε β} {l : List α} :
    Succeeds (l.mapM f) ↔ ∀ a ∈ l, Succeeds (f a) := by
  induction l with
  | nil => simp
  | cons a l ih =>
      rw [List.mapM_cons, succeeds_bind, List.forall_mem_cons, ← ih]
      constructor
      · rintro ⟨b, hb, h⟩
        obtain ⟨bs, hbs, -⟩ := succeeds_bind.1 h
        exact ⟨⟨b, hb⟩, bs, hbs⟩
      · rintro ⟨⟨b, hb⟩, bs, hbs⟩
        exact ⟨b, hb, succeeds_bind.2 ⟨bs, hbs, succeeds_pure _⟩⟩

end DnsFilter
