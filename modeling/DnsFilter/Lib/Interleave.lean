import DnsFilter.Lib.Op
import Mathlib.Data.List.Count

/-!
# Two operations at once

`interleave` performs two operations on one store, one call at a time, in the order that a list of
turns gives (`true` is the first operation). `interleave_serial` is the case in which the first makes
all its calls before the other starts.

* `Simulates` — one operation does on a store what another does on a smaller one; runs and
  interleavings carry over (`Simulates.run`, `Simulates.interleave`).
* `update` — read a record, write it back edited, go on with the rest of the store.
  `interleave_update` says what two updates of one record leave, by the order of their reads and
  writes.
-/

namespace DnsFilter.Op

universe u u' v v' w w'

variable {σ : Type u} {σ' : Type u'} {ε : Type v} {ε' : Type v'} {α : Type w} {β : Type w'}

/-! ## Turns -/

/-- The next call of an operation. What it sends does not touch the store. -/
def advance : Op σ ε α → σ → Option (Op σ ε α × σ)
  | ok _, _ => none
  | fail _, _ => none
  | call effect next, s => some (next s, effect s)
  | send next, s => next.advance s

/-- The operation has made all its calls and succeeds. -/
def finished : Op σ ε α → Bool
  | ok _ => true
  | fail _ => false
  | call _ _ => false
  | send next => next.finished

/-- The store after the two operations have taken these turns, if both have succeeded by then. -/
def interleave : List Bool → Op σ ε α → Op σ ε β → σ → Option σ
  | [], x, y, s => if x.finished && y.finished then some s else none
  | true :: turns, x, y, s => (x.advance s).bind fun p => interleave turns p.1 y p.2
  | false :: turns, x, y, s => (y.advance s).bind fun p => interleave turns x p.1 p.2

/-- The first operation makes its `k`-th call before the second makes its `j`-th. -/
def precedes : Nat → Nat → List Bool → Bool
  | 0, _, _ => true
  | _ + 1, 0, _ => false
  | _ + 1, _ + 1, [] => false
  | k + 1, j + 1, true :: turns => precedes k (j + 1) turns
  | k + 1, j + 1, false :: turns => precedes (k + 1) j turns

/-- The turns after the first `a` of the first operation and the first `b` of the second. -/
def dropTurns : Nat → Nat → List Bool → List Bool
  | _, _, [] => []
  | a + 1, b, true :: turns => dropTurns a b turns
  | 0, b, true :: turns => true :: dropTurns 0 b turns
  | a, b + 1, false :: turns => dropTurns a b turns
  | a, 0, false :: turns => false :: dropTurns a 0 turns

/-- The same turns with the operations in the other order. -/
def swapTurns (turns : List Bool) : List Bool := turns.map not

@[simp] theorem swapTurns_nil : swapTurns [] = [] := rfl

@[simp] theorem swapTurns_cons (turn : Bool) (turns : List Bool) :
    swapTurns (turn :: turns) = (!turn) :: swapTurns turns :=
  rfl

theorem swapTurns_swapTurns (turns : List Bool) : swapTurns (swapTurns turns) = turns := by
  induction turns with
  | nil => rfl
  | cons turn turns ih => simp [ih]

theorem interleave_swap (turns : List Bool) (x : Op σ ε α) (y : Op σ ε β) (s : σ) :
    interleave (swapTurns turns) y x s = interleave turns x y s := by
  induction turns generalizing x y s with
  | nil => simp [interleave, Bool.and_comm]
  | cons turn turns ih =>
      cases turn with
      | true => simp only [swapTurns_cons, Bool.not_true, interleave, ih]
      | false => simp only [swapTurns_cons, Bool.not_false, interleave, ih]

theorem dropTurns_swap (a b : Nat) (turns : List Bool) :
    dropTurns a b (swapTurns turns) = swapTurns (dropTurns b a turns) := by
  induction turns generalizing a b with
  | nil => simp [dropTurns]
  | cons turn turns ih =>
      cases turn with
      | true =>
          cases b with
          | zero => simp [dropTurns, ih]
          | succ b => simp [dropTurns, ih]
      | false =>
          cases a with
          | zero => simp [dropTurns, ih]
          | succ a => simp [dropTurns, ih]

@[simp] theorem dropTurns_zero (turns : List Bool) : dropTurns 0 0 turns = turns := by
  induction turns with
  | nil => rfl
  | cons turn turns ih =>
      cases turn with
      | true => rw [dropTurns, ih]
      | false => rw [dropTurns, ih]

/-- Turns that are dropped on both sides do not change the order of the later ones. -/
theorem precedes_dropTurns {a b k j : Nat} {turns : List Bool}
    (h : precedes (k + a) (j + 1 + b) turns = true) :
    precedes k (j + 1) (dropTurns a b turns) = true := by
  cases k with
  | zero => simp [precedes]
  | succ k =>
      rw [show k + 1 + a = (k + a) + 1 by omega, show j + 1 + b = (j + b) + 1 by omega] at h
      induction turns generalizing a b k j with
      | nil => simp [precedes] at h
      | cons turn turns ih =>
          cases turn with
          | true =>
              rw [precedes] at h
              cases a with
              | zero =>
                  rw [dropTurns, precedes]
                  cases k with
                  | zero => simp [precedes]
                  | succ k => exact ih k h
              | succ a => exact ih k h
          | false =>
              rw [precedes] at h
              cases b with
              | zero =>
                  cases j with
                  | zero => simp [precedes] at h
                  | succ j =>
                      rw [dropTurns, precedes]
                      exact ih k h
              | succ b => exact ih k h

theorem count_dropTurns (a b : Nat) (turns : List Bool) :
    (dropTurns a b turns).count true = turns.count true - a := by
  induction turns generalizing a b with
  | nil => simp [dropTurns]
  | cons turn turns ih =>
      cases turn with
      | true =>
          cases a with
          | zero => simp [dropTurns, ih]
          | succ a => simp [dropTurns, ih]
      | false =>
          cases b with
          | zero => simp [dropTurns, ih]
          | succ b => simp [dropTurns, ih]

/-! ## One operation after the other -/

theorem run_of_advance {x x' : Op σ ε α} {s s' : σ} (h : x.advance s = some (x', s')) :
    x.run s = x'.run s' := by
  induction x generalizing s with
  | ok a => exact absurd h (by simp [advance])
  | fail e => exact absurd h (by simp [advance])
  | call effect next ih =>
      obtain ⟨rfl, rfl⟩ := Prod.mk.inj (Option.some.inj h)
      rfl
  | send next ih => exact ih h

theorem run_of_finished {x : Op σ ε α} (h : x.finished = true) (s : σ) : (x.run s).2 = s := by
  induction x generalizing s with
  | ok a => rfl
  | fail e => rfl
  | call effect next ih => exact absurd h (by simp [finished])
  | send next ih => exact ih h s

/-- An operation that takes no turn leaves the store to the other one. -/
theorem interleave_second {turns : List Bool} {x : Op σ ε α} {y : Op σ ε β} {s t : σ}
    (h : interleave turns x y s = some t) (hturns : true ∉ turns) :
    x.finished = true ∧ (y.run s).2 = t := by
  induction turns generalizing y s with
  | nil =>
      simp only [interleave, Option.ite_none_right_eq_some, Bool.and_eq_true] at h
      obtain ⟨⟨hx, hy⟩, h⟩ := h
      exact ⟨hx, (run_of_finished hy s).trans (Option.some.inj h)⟩
  | cons turn turns ih =>
      cases turn with
      | true => exact absurd List.mem_cons_self hturns
      | false =>
          obtain ⟨⟨y', s'⟩, hy, h⟩ := Option.bind_eq_some_iff.1 h
          obtain ⟨hx, hrun⟩ := ih h fun hmem => hturns (List.mem_cons_of_mem _ hmem)
          rw [run_of_advance hy]
          exact ⟨hx, hrun⟩

/-- An interleaving ends only if both operations succeed. -/
theorem interleave_fail (turns : List Bool) (error : ε) (y : Op σ ε β) (s : σ) :
    interleave turns (fail error : Op σ ε α) y s = none := by
  induction turns generalizing y s with
  | nil => rfl
  | cons turn turns ih =>
      cases turn with
      | true => rfl
      | false => simp [interleave, ih]

/-- An operation that has succeeded leaves the store to the other one. -/
theorem interleave_ok {turns : List Bool} {a : α} {y : Op σ ε β} {s t : σ}
    (h : interleave turns (ok a) y s = some t) : (y.run s).2 = t := by
  induction turns generalizing y s with
  | nil =>
      simp only [interleave, Option.ite_none_right_eq_some, Bool.and_eq_true] at h
      exact (run_of_finished h.1.2 s).trans (Option.some.inj h.2)
  | cons turn turns ih =>
      cases turn with
      | true => exact absurd h (by simp [interleave, advance])
      | false =>
          obtain ⟨_, hy, h⟩ := Option.bind_eq_some_iff.1 h
          rw [run_of_advance hy]
          exact ih h

/-- **If the first operation makes all its calls before the second starts, the store is that of
running one after the other.** -/
theorem interleave_serial {turns : List Bool} {x : Op σ ε α} {y : Op σ ε β} {s t : σ}
    (h : interleave turns x y s = some t)
    (hturns : precedes (turns.count true) 1 turns = true) :
    (y.run (x.run s).2).2 = t := by
  induction turns generalizing x s with
  | nil =>
      obtain ⟨hx, hrun⟩ := interleave_second h List.not_mem_nil
      rw [run_of_finished hx, hrun]
  | cons turn turns ih =>
      cases turn with
      | true =>
          obtain ⟨⟨x', s'⟩, hx, h⟩ := Option.bind_eq_some_iff.1 h
          rw [List.count_cons_self, precedes] at hturns
          rw [run_of_advance hx]
          exact ih h hturns
      | false =>
          have hcount : (false :: turns).count true = turns.count true := by simp
          cases hzero : turns.count true with
          | zero =>
              have hnone : true ∉ false :: turns := by
                simpa using List.count_eq_zero.1 hzero
              obtain ⟨hx, hrun⟩ := interleave_second h hnone
              rw [run_of_finished hx, hrun]
          | succ n =>
              rw [hcount, hzero] at hturns
              exact absurd hturns (by simp [precedes])

/-! ## Simulation -/

/-- The operation does, on stores related by `R`, what the other one does, call by call. -/
def Simulates (R : σ → σ' → Prop) : Op σ ε α → Op σ' ε' β → Prop
  | ok _, x' => ∃ b, x' = ok b
  | fail _, x' => ∃ e, x' = fail e
  | call effect next, x' => ∃ effect' next', x' = call effect' next' ∧
      ∀ s s', R s s' → R (effect s) (effect' s') ∧ (next s).Simulates R (next' s')
  | send next, x' => next.Simulates R x'

section Simulates

variable {R : σ → σ' → Prop} {s : σ} {s' : σ'}

theorem Simulates.run {x : Op σ ε α} {x' : Op σ' ε' β} (h : x.Simulates R x') (hR : R s s') :
    R (x.run s).2 (x'.run s').2 := by
  induction x generalizing x' s s' with
  | ok a =>
      obtain ⟨b, rfl⟩ := h
      exact hR
  | fail e =>
      obtain ⟨e', rfl⟩ := h
      exact hR
  | call effect next ih =>
      obtain ⟨effect', next', rfl, h⟩ := h
      obtain ⟨heffect, hnext⟩ := h s s' hR
      have hrun := ih s hnext heffect
      exact hrun
  | send next ih => exact ih h hR

theorem Simulates.finished {x : Op σ ε α} {x' : Op σ' ε' β} (h : x.Simulates R x')
    (hx : x.finished = true) : x'.finished = true := by
  induction x with
  | ok a =>
      obtain ⟨b, rfl⟩ := h
      rfl
  | fail e => exact absurd hx (by simp [Op.finished])
  | call effect next ih => exact absurd hx (by simp [Op.finished])
  | send next ih => exact ih h hx

theorem Simulates.advance {x y : Op σ ε α} {x' : Op σ' ε' β} (h : x.Simulates R x') (hR : R s s')
    {t : σ} (hx : x.advance s = some (y, t)) :
    ∃ y' t', x'.advance s' = some (y', t') ∧ y.Simulates R y' ∧ R t t' := by
  induction x with
  | ok a => exact absurd hx (by simp [Op.advance])
  | fail e => exact absurd hx (by simp [Op.advance])
  | call effect next ih =>
      obtain ⟨effect', next', rfl, h⟩ := h
      obtain ⟨heffect, hnext⟩ := h s s' hR
      obtain ⟨rfl, rfl⟩ := Prod.mk.inj (Option.some.inj hx)
      exact ⟨next' s', effect' s', rfl, hnext, heffect⟩
  | send next ih => exact ih h hx

/-- What an operation does after its last call does not matter, if it succeeds. -/
theorem Simulates.bind_ok {γ : Type w} {x : Op σ ε γ} {x' : Op σ' ε' β} {f : γ → Op σ ε α}
    (h : x.Simulates R x') (hf : ∀ c b, (f c).Simulates R (ok b : Op σ' ε' β)) :
    (x.bind f).Simulates R x' := by
  induction x generalizing x' with
  | ok c =>
      obtain ⟨b, rfl⟩ := h
      exact hf c b
  | fail e => exact h
  | call effect next ih =>
      obtain ⟨effect', next', rfl, h⟩ := h
      refine ⟨effect', next', rfl, ?_⟩
      intro s s' hR
      obtain ⟨heffect, hnext⟩ := h s s' hR
      exact ⟨heffect, ih s hnext⟩
  | send next ih => exact ih h

/-- Interleavings of simulating operations are interleavings of the simulated ones. -/
theorem Simulates.interleave {γ γ' : Type*} {x : Op σ ε α} {x' : Op σ' ε' β} {y : Op σ ε γ}
    {y' : Op σ' ε' γ'} (hx : x.Simulates R x') (hy : y.Simulates R y') (hR : R s s')
    {turns : List Bool} {t : σ} (h : interleave turns x y s = some t) :
    ∃ t', Op.interleave turns x' y' s' = some t' ∧ R t t' := by
  induction turns generalizing x x' y y' s s' with
  | nil =>
      simp only [Op.interleave, Option.ite_none_right_eq_some, Bool.and_eq_true] at h
      obtain ⟨⟨hfx, hfy⟩, h⟩ := h
      refine ⟨s', ?_, Option.some.inj h ▸ hR⟩
      simp [Op.interleave, hx.finished hfx, hy.finished hfy]
  | cons turn turns ih =>
      cases turn with
      | true =>
          obtain ⟨⟨x₁, s₁⟩, hadv, h⟩ := Option.bind_eq_some_iff.1 h
          obtain ⟨x₁', s₁', hadv', hx₁, hR₁⟩ := hx.advance hR hadv
          obtain ⟨t', ht', hRt⟩ := ih hx₁ hy hR₁ h
          exact ⟨t', Option.bind_eq_some_iff.2 ⟨_, hadv', ht'⟩, hRt⟩
      | false =>
          obtain ⟨⟨y₁, s₁⟩, hadv, h⟩ := Option.bind_eq_some_iff.1 h
          obtain ⟨y₁', s₁', hadv', hy₁, hR₁⟩ := hy.advance hR hadv
          obtain ⟨t', ht', hRt⟩ := ih hx hy₁ hR₁ h
          exact ⟨t', Option.bind_eq_some_iff.2 ⟨_, hadv', ht'⟩, hRt⟩

/-- The store is that of one of the two orders. -/
def IsSerial (x : Op σ ε α) (y : Op σ ε β) (s t : σ) : Prop :=
  t = (y.run (x.run s).2).2 ∨ t = (x.run (y.run s).2).2

/-- Interleavings of simulating operations have the store of one of the two orders if those of the
simulated ones do. -/
theorem Simulates.isSerial {γ γ' : Type*} {x : Op σ ε α} {x' : Op σ' ε' β} {y : Op σ ε γ}
    {y' : Op σ' ε' γ'} (hx : x.Simulates R x') (hy : y.Simulates R y') (hR : R s s')
    (hfun : ∀ t₁ t₂ t', R t₁ t' → R t₂ t' → t₁ = t₂) {turns : List Bool} {t : σ}
    (h : Op.interleave turns x y s = some t)
    (hserial : ∀ t', Op.interleave turns x' y' s' = some t' → IsSerial x' y' s' t') :
    IsSerial x y s t := by
  obtain ⟨t', ht', hRt⟩ := hx.interleave hy hR h
  rcases hserial t' ht' with rfl | rfl
  · exact .inl (hfun _ _ _ hRt (hy.run (hx.run hR)))
  · exact .inr (hfun _ _ _ hRt (hx.run (hy.run hR)))

end Simulates

/-! ## Updates of a record -/

section Update

variable {ρ : Type*} {τ : Type*}

/-- The operation on the second part of a store. -/
def onSnd : Op τ ε α → Op (ρ × τ) ε α
  | ok a => ok a
  | fail e => fail e
  | call effect next => call (fun p => (p.1, effect p.2)) fun p => (next p.2).onSnd
  | send next => send next.onSnd

theorem run_onSnd (x : Op τ ε α) (r : ρ) (s : τ) : (x.onSnd.run (r, s)).2 = (r, (x.run s).2) := by
  induction x generalizing s with
  | ok a => rfl
  | fail e => rfl
  | call effect next ih => exact ih s (effect s)
  | send next ih => exact ih s

theorem finished_onSnd (x : Op τ ε α) : (x.onSnd : Op (ρ × τ) ε α).finished = x.finished := by
  induction x with
  | ok a => rfl
  | fail e => rfl
  | call effect next ih => rfl
  | send next ih => exact ih

theorem advance_onSnd (x : Op τ ε α) (r : ρ) (s : τ) :
    x.onSnd.advance (r, s) = (x.advance s).map fun p => (p.1.onSnd, (r, p.2)) := by
  induction x with
  | ok a => rfl
  | fail e => rfl
  | call effect next ih => rfl
  | send next ih => exact ih

/-- Write the record, then go on with the rest of the store. -/
def write (r : ρ) (rest : Op τ ε α) : Op (ρ × τ) ε α :=
  call (fun p => (r, p.2)) fun _ => rest.onSnd

/-- Read the record and write it back edited. The edit may be rejected; what is left to do is known
once it is made. -/
def update (edit : ρ → Option (ρ × Op τ ε α)) (error : ε) : Op (ρ × τ) ε α :=
  call id fun p => match edit p.1 with
    | none => fail error
    | some (r, rest) => write r rest

theorem run_update_of_some {edit : ρ → Option (ρ × Op τ ε α)} {error : ε} {r r' : ρ}
    {rest : Op τ ε α} (h : edit r = some (r', rest)) (s : τ) :
    ((update edit error).run (r, s)).2 = (r', (rest.run s).2) := by
  simp only [update, write, run, id, h]
  exact run_onSnd rest r' s

theorem run_update_of_none {edit : ρ → Option (ρ × Op τ ε α)} {error : ε} {r : ρ}
    (h : edit r = none) (s : τ) : ((update edit error).run (r, s)).2 = (r, s) := by
  simp [update, run, h]

/-- Two operations on the second part of a store leave the first part alone. -/
theorem interleave_onSnd {x : Op τ ε α} {y : Op τ ε β} {r r' : ρ} {s s' : τ} {turns : List Bool}
    (h : interleave turns x.onSnd y.onSnd (r, s) = some (r', s')) :
    r' = r ∧ interleave turns x y s = some s' := by
  induction turns generalizing x y s with
  | nil =>
      simp only [interleave, finished_onSnd, Option.ite_none_right_eq_some] at h ⊢
      obtain ⟨hfin, h⟩ := h
      obtain ⟨rfl, rfl⟩ := Prod.mk.inj (Option.some.inj h)
      exact ⟨rfl, hfin, rfl⟩
  | cons turn turns ih =>
      cases turn with
      | true =>
          obtain ⟨_, hadv, h⟩ := Option.bind_eq_some_iff.1 h
          rw [advance_onSnd] at hadv
          obtain ⟨p, hp, rfl⟩ := Option.map_eq_some_iff.1 hadv
          obtain ⟨hr, h⟩ := ih h
          exact ⟨hr, Option.bind_eq_some_iff.2 ⟨p, hp, h⟩⟩
      | false =>
          obtain ⟨_, hadv, h⟩ := Option.bind_eq_some_iff.1 h
          rw [advance_onSnd] at hadv
          obtain ⟨p, hp, rfl⟩ := Option.map_eq_some_iff.1 hadv
          obtain ⟨hr, h⟩ := ih h
          exact ⟨hr, Option.bind_eq_some_iff.2 ⟨p, hp, h⟩⟩

/-- A write while the other operation is past its own. -/
theorem interleave_write {x : Op τ ε α} {y : Op τ ε β} {r r₁ r' : ρ} {s s' : τ}
    {turns : List Bool} (h : interleave turns (write r₁ x) y.onSnd (r, s) = some (r', s')) :
    r' = r₁ ∧ interleave (dropTurns 1 0 turns) x y s = some s' := by
  induction turns generalizing y s with
  | nil => exact absurd h (by simp [interleave, write, finished])
  | cons turn turns ih =>
      cases turn with
      | true =>
          obtain ⟨_, hadv, h⟩ := Option.bind_eq_some_iff.1 h
          obtain rfl := Option.some.inj hadv
          obtain ⟨hr, h⟩ := interleave_onSnd h
          rw [dropTurns, dropTurns_zero]
          exact ⟨hr, h⟩
      | false =>
          obtain ⟨_, hadv, h⟩ := Option.bind_eq_some_iff.1 h
          rw [advance_onSnd] at hadv
          obtain ⟨p, hp, rfl⟩ := Option.map_eq_some_iff.1 hadv
          obtain ⟨hr, h⟩ := ih h
          exact ⟨hr, Option.bind_eq_some_iff.2 ⟨p, hp, h⟩⟩

/-- An update that starts while the other operation is past its write. -/
theorem interleave_update_onSnd {edit : ρ → Option (ρ × Op τ ε α)} {error : ε} {y : Op τ ε β}
    {r r' : ρ} {s s' : τ} {turns : List Bool}
    (h : interleave turns (update edit error) y.onSnd (r, s) = some (r', s')) :
    ∃ x, edit r = some (r', x) ∧ interleave (dropTurns 2 0 turns) x y s = some s' := by
  induction turns generalizing y s with
  | nil => exact absurd h (by simp [interleave, update, finished])
  | cons turn turns ih =>
      cases turn with
      | true =>
          obtain ⟨_, hadv, h⟩ := Option.bind_eq_some_iff.1 h
          obtain rfl := Option.some.inj hadv
          cases hedit : edit r with
          | none =>
              simp only [id, hedit, interleave_fail] at h
              exact absurd h (by simp)
          | some p =>
              simp only [id, hedit] at h
              obtain ⟨hr, hx⟩ := interleave_write h
              exact ⟨p.2, by rw [hr], hx⟩
      | false =>
          obtain ⟨_, hadv, h⟩ := Option.bind_eq_some_iff.1 h
          rw [advance_onSnd] at hadv
          obtain ⟨p, hp, rfl⟩ := Option.map_eq_some_iff.1 hadv
          obtain ⟨x, hedit, h⟩ := ih h
          exact ⟨x, hedit, Option.bind_eq_some_iff.2 ⟨p, hp, h⟩⟩

/-- Two writes: the later one stays. -/
theorem interleave_write_write {x : Op τ ε α} {y : Op τ ε β} {r r₁ r₂ r' : ρ} {s s' : τ}
    {turns : List Bool} (h : interleave turns (write r₁ x) (write r₂ y) (r, s) = some (r', s')) :
    interleave (dropTurns 1 1 turns) x y s = some s' ∧
      (precedes 1 1 turns = true ∧ precedes 1 1 (swapTurns turns) = false ∧ r' = r₂ ∨
        precedes 1 1 turns = false ∧ precedes 1 1 (swapTurns turns) = true ∧ r' = r₁) := by
  cases turns with
  | nil => exact absurd h (by simp [interleave, write, finished])
  | cons turn turns =>
      cases turn with
      | true =>
          rw [interleave, write, advance, Option.bind_some, ← interleave_swap] at h
          obtain ⟨hr, h⟩ := interleave_write h
          rw [dropTurns_swap, interleave_swap] at h
          exact ⟨h, .inl ⟨by simp [precedes], by simp [precedes], hr⟩⟩
      | false =>
          obtain ⟨hr, h⟩ := interleave_write h
          exact ⟨h, .inr ⟨by simp [precedes], by simp [precedes], hr⟩⟩

/-- What two updates of the record `r` leave in its place, and what is left to do for each: one
reads after the other has written, or both read first and the later write stays. -/
inductive Updated (edit₁ : ρ → Option (ρ × Op τ ε α)) (edit₂ : ρ → Option (ρ × Op τ ε β))
    (turns : List Bool) (r : ρ) : ρ → Op τ ε α → Op τ ε β → Prop
  | firstSecond {r₁ r₂ : ρ} {x : Op τ ε α} {y : Op τ ε β} (hfirst : precedes 2 1 turns = true)
      (hsecond : precedes 2 1 (swapTurns turns) = false)
      (h₁ : edit₁ r = some (r₁, x)) (h₂ : edit₂ r₁ = some (r₂, y)) :
      Updated edit₁ edit₂ turns r r₂ x y
  | secondFirst {r₁ r₂ : ρ} {x : Op τ ε α} {y : Op τ ε β} (hfirst : precedes 2 1 turns = false)
      (hsecond : precedes 2 1 (swapTurns turns) = true)
      (h₂ : edit₂ r = some (r₂, y)) (h₁ : edit₁ r₂ = some (r₁, x)) :
      Updated edit₁ edit₂ turns r r₁ x y
  | lastSecond {r₁ r₂ : ρ} {x : Op τ ε α} {y : Op τ ε β} (hfirst : precedes 2 1 turns = false)
      (hsecond : precedes 2 1 (swapTurns turns) = false) (hwrite : precedes 2 2 turns = true)
      (hwrite' : precedes 2 2 (swapTurns turns) = false)
      (h₁ : edit₁ r = some (r₁, x)) (h₂ : edit₂ r = some (r₂, y)) :
      Updated edit₁ edit₂ turns r r₂ x y
  | lastFirst {r₁ r₂ : ρ} {x : Op τ ε α} {y : Op τ ε β} (hfirst : precedes 2 1 turns = false)
      (hsecond : precedes 2 1 (swapTurns turns) = false) (hwrite : precedes 2 2 turns = false)
      (hwrite' : precedes 2 2 (swapTurns turns) = true)
      (h₁ : edit₁ r = some (r₁, x)) (h₂ : edit₂ r = some (r₂, y)) :
      Updated edit₁ edit₂ turns r r₁ x y

section Updated

variable {edit₁ : ρ → Option (ρ × Op τ ε α)} {edit₂ : ρ → Option (ρ × Op τ ε β)}
  {turns : List Bool} {r r' : ρ} {error : ε} {s s' : τ}

theorem Updated.swap {x : Op τ ε α} {y : Op τ ε β} (h : Updated edit₁ edit₂ turns r r' x y) :
    Updated edit₂ edit₁ (swapTurns turns) r r' y x := by
  have hturns := swapTurns_swapTurns turns
  cases h with
  | firstSecond hfirst hsecond h₁ h₂ => exact .secondFirst hsecond (hturns.symm ▸ hfirst) h₁ h₂
  | secondFirst hfirst hsecond h₂ h₁ => exact .firstSecond hsecond (hturns.symm ▸ hfirst) h₂ h₁
  | lastSecond hfirst hsecond hwrite hwrite' h₁ h₂ =>
      exact .lastFirst hsecond (hturns.symm ▸ hfirst) hwrite' (hturns.symm ▸ hwrite) h₂ h₁
  | lastFirst hfirst hsecond hwrite hwrite' h₁ h₂ =>
      exact .lastSecond hsecond (hturns.symm ▸ hfirst) hwrite' (hturns.symm ▸ hwrite) h₂ h₁

/-- Two updates of which the first has read the record. -/
theorem interleave_write_update {r₁ : ρ} {x : Op τ ε α} (h₁ : edit₁ r = some (r₁, x))
    (h : interleave turns (write r₁ x) (update edit₂ error) (r, s) = some (r', s')) :
    ∃ y, Updated edit₁ edit₂ (true :: turns) r r' x y ∧
      interleave (dropTurns 1 2 turns) x y s = some s' := by
  cases turns with
  | nil => exact absurd h (by simp [interleave, write, finished])
  | cons turn turns =>
      have hsecond : precedes 2 1 (swapTurns (true :: turn :: turns)) = false := by
        simp [precedes]
      cases turn with
      | true =>
          rw [interleave, write, advance, Option.bind_some, ← interleave_swap] at h
          obtain ⟨y, h₂, h⟩ := interleave_update_onSnd h
          rw [dropTurns_swap, interleave_swap] at h
          exact ⟨y, .firstSecond (by simp [precedes]) hsecond h₁ h₂, h⟩
      | false =>
          have hfirst : precedes 2 1 (true :: false :: turns) = false := by simp [precedes]
          obtain ⟨_, hadv, h⟩ := Option.bind_eq_some_iff.1 h
          obtain rfl := Option.some.inj hadv
          cases h₂ : edit₂ r with
          | none =>
              simp only [id, h₂] at h
              rw [← interleave_swap, interleave_fail] at h
              exact absurd h (by simp)
          | some p =>
              simp only [id, h₂] at h
              obtain ⟨h, hr⟩ := interleave_write_write h
              refine ⟨p.2, ?_, h⟩
              rcases hr with ⟨hwrite, hwrite', rfl⟩ | ⟨hwrite, hwrite', rfl⟩
              · exact .lastSecond hfirst hsecond hwrite hwrite' h₁ h₂
              · exact .lastFirst hfirst hsecond hwrite hwrite' h₁ h₂

/-- Two updates of which the first is the first to read. -/
theorem interleave_update_cons
    (h : interleave (true :: turns) (update edit₁ error) (update edit₂ error) (r, s) =
      some (r', s')) :
    ∃ x y, Updated edit₁ edit₂ (true :: turns) r r' x y ∧
      interleave (dropTurns 2 2 (true :: turns)) x y s = some s' := by
  obtain ⟨_, hadv, h⟩ := Option.bind_eq_some_iff.1 h
  obtain rfl := Option.some.inj hadv
  cases h₁ : edit₁ r with
  | none =>
      simp only [id, h₁, interleave_fail] at h
      exact absurd h (by simp)
  | some p =>
      simp only [id, h₁] at h
      obtain ⟨y, hupdated, h⟩ := interleave_write_update h₁ h
      exact ⟨p.2, y, hupdated, h⟩

/-- **Two updates of a record, interleaved.** -/
theorem interleave_update
    (h : interleave turns (update edit₁ error) (update edit₂ error) (r, s) = some (r', s')) :
    ∃ x y, Updated edit₁ edit₂ turns r r' x y ∧
      interleave (dropTurns 2 2 turns) x y s = some s' := by
  cases turns with
  | nil => exact absurd h (by simp [interleave, update, finished])
  | cons turn turns =>
      cases turn with
      | true => exact interleave_update_cons h
      | false =>
          have hturns : swapTurns (false :: turns) = true :: swapTurns turns := rfl
          rw [← interleave_swap, hturns] at h
          obtain ⟨y, x, hupdated, h⟩ := interleave_update_cons h
          rw [← hturns, dropTurns_swap, interleave_swap] at h
          have hswap := hupdated.swap
          rw [swapTurns_cons, swapTurns_swapTurns] at hswap
          exact ⟨x, y, hswap, h⟩

/-- What `edit₁` writes is not lost when `edit₂`, made on the same record, is written over it: the
second edit writes the same after the first, or the first is rejected after the second. Updates that
fail after their write do not count. -/
def Survives (edit₁ : ρ → Option (ρ × Op τ ε α)) (edit₂ : ρ → Option (ρ × Op τ ε β)) (r : ρ) :
    Prop :=
  ∀ r₁ r₂ x y, edit₁ r = some (r₁, x) → edit₂ r = some (r₂, y) → (∀ e, x ≠ fail e) →
    (∀ e, y ≠ fail e) → edit₂ r₁ = some (r₂, y) ∨ edit₁ r₂ = none

/-- **Two updates of one record leave what one of the two orders leaves**, if they do not overlap or
the earlier write survives the later one. -/
theorem isSerial_update {edit₁ : ρ → Option (ρ × Op Unit ε α)}
    {edit₂ : ρ → Option (ρ × Op Unit ε β)} {p : ρ × Unit}
    (h : interleave turns (update edit₁ error) (update edit₂ error) (r, ()) = some p)
    (hsurvives : precedes 2 1 turns = false → precedes 2 1 (swapTurns turns) = false →
      if precedes 2 2 turns then Survives edit₁ edit₂ r else Survives edit₂ edit₁ r) :
    IsSerial (update edit₁ error) (update edit₂ error) (r, ()) p := by
  obtain ⟨x, y, hupdated, hrest⟩ := interleave_update h
  have hx : ∀ e, x ≠ fail e := by
    intro e hfail
    rw [hfail, interleave_fail] at hrest
    exact absurd hrest (by simp)
  have hy : ∀ e, y ≠ fail e := by
    intro e hfail
    rw [hfail, ← interleave_swap, interleave_fail] at hrest
    exact absurd hrest (by simp)
  unfold IsSerial
  cases hupdated with
  | firstSecond hfirst hsecond h₁ h₂ =>
      left
      rw [run_update_of_some h₁, run_update_of_some h₂]
  | secondFirst hfirst hsecond h₂ h₁ =>
      right
      rw [run_update_of_some h₂, run_update_of_some h₁]
  | lastSecond hfirst hsecond hwrite hwrite' h₁ h₂ =>
      have hsurvives := hsurvives hfirst hsecond
      rw [if_pos hwrite] at hsurvives
      rcases hsurvives _ _ _ _ h₁ h₂ hx hy with hagain | hrejected
      · left
        rw [run_update_of_some h₁, run_update_of_some hagain]
      · right
        rw [run_update_of_some h₂, run_update_of_none hrejected]
  | lastFirst hfirst hsecond hwrite hwrite' h₁ h₂ =>
      have hsurvives := hsurvives hfirst hsecond
      rw [if_neg (by simp [hwrite])] at hsurvives
      rcases hsurvives _ _ _ _ h₂ h₁ hy hx with hagain | hrejected
      · right
        rw [run_update_of_some h₂, run_update_of_some hagain]
      · left
        rw [run_update_of_some h₁, run_update_of_none hrejected]

end Updated

end Update

end DnsFilter.Op
