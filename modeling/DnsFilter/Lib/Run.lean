import Mathlib.Data.List.Infix

/-!
# Runs of a state machine

A machine is a partial step function `step : σ → ℓ → Option σ`: in state `s` the label `l`
either cannot happen (`none`) or leads to a new state. A run performs a list of labels one
after the other.

* `run_invariant` — what holds at the start and is kept by every step holds at the end.
* `AllSteps`, `run_invariant_of_allSteps` — the same when a step keeps the invariant only under
  a condition on the state before it and the label.
* `forall_reached_iff_allSteps` — when that condition is exact for a single step, it is exact
  for whole runs; `forall_reached_iff_allSteps_of_reached` is the form for facts that are assumed of
  the states passed through.
-/

namespace DnsFilter

variable {σ ℓ : Type*} (step : σ → ℓ → Option σ)

/-- Perform the labels in order; `none` if one of them cannot happen. -/
def run (s : σ) : List ℓ → Option σ
  | [] => some s
  | l :: ls => (step s l).bind fun s' => run s' ls

/-- Every step of the run from `s` meets the condition `C` on the state before it and its
label. -/
def AllSteps (C : σ → ℓ → Prop) (s : σ) : List ℓ → Prop
  | [] => True
  | l :: ls => C s l ∧ ∀ s', step s l = some s' → AllSteps C s' ls

@[simp] theorem run_nil (s : σ) : run step s [] = some s := rfl

variable {step}

theorem run_cons_eq_some {s t : σ} {l : ℓ} {ls : List ℓ} :
    run step s (l :: ls) = some t ↔ ∃ s', step s l = some s' ∧ run step s' ls = some t := by
  simp [run, Option.bind_eq_some_iff]

theorem run_append {s : σ} (ls ls' : List ℓ) :
    run step s (ls ++ ls') = (run step s ls).bind fun t => run step t ls' := by
  induction ls generalizing s with
  | nil => rfl
  | cons l ls ih =>
      cases h : step s l with
      | none => simp [run, h]
      | some s' => simp [run, h, ih]

/-- A run that can be computed, and a test its last state passes. -/
theorem exists_run_of_any {s : σ} {ls : List ℓ} {p : σ → Bool} (h : (run step s ls).any p = true) :
    ∃ t, run step s ls = some t ∧ p t = true := by
  simpa [Option.any_eq_true] using h

/-- Whether all steps of a concrete run meet a decidable condition can be computed. -/
instance decidableAllSteps {C : σ → ℓ → Prop} [∀ s l, Decidable (C s l)] :
    ∀ s ls, Decidable (AllSteps step C s ls)
  | _, [] => isTrue trivial
  | s, l :: ls =>
      match h : step s l with
      | none => decidable_of_iff (C s l) (by simp [AllSteps, h])
      | some s' =>
          have := decidableAllSteps (C := C) s' ls
          decidable_of_iff (C s l ∧ AllSteps step C s' ls) (by simp [AllSteps, h])

/-- **The invariant rule.** -/
theorem run_invariant {Inv : σ → Prop}
    (hstep : ∀ s l s', Inv s → step s l = some s' → Inv s') {s t : σ} {ls : List ℓ}
    (hrun : run step s ls = some t) (hs : Inv s) : Inv t := by
  induction ls generalizing s with
  | nil =>
      rw [run_nil, Option.some.injEq] at hrun
      exact hrun ▸ hs
  | cons l ls ih =>
      obtain ⟨s', hl, hrest⟩ := run_cons_eq_some.1 hrun
      exact ih hrest (hstep s l s' hs hl)

/-- The invariant rule for runs whose steps all meet a condition. -/
theorem run_invariant_of_allSteps {Inv : σ → Prop} {C : σ → ℓ → Prop}
    (hstep : ∀ s l s', Inv s → C s l → step s l = some s' → Inv s') {s t : σ} {ls : List ℓ}
    (hrun : run step s ls = some t) (hC : AllSteps step C s ls) (hs : Inv s) : Inv t := by
  induction ls generalizing s with
  | nil =>
      rw [run_nil, Option.some.injEq] at hrun
      exact hrun ▸ hs
  | cons l ls ih =>
      obtain ⟨s', hl, hrest⟩ := run_cons_eq_some.1 hrun
      exact ih hrest (hC.2 s' hl) (hstep s l s' hs hC.1 hl)

/-- Where a condition decides exactly which steps keep the property `P`, the runs that pass
through `P`-states only are exactly those whose steps all meet the condition. `R` is what is known
of all states that the run passes through. -/
theorem forall_reached_iff_allSteps_of_reached {R P : σ → Prop} {C : σ → ℓ → Prop}
    (hstep : ∀ s l s', R s → R s' → P s → step s l = some s' → (P s' ↔ C s l))
    {s t : σ} {ls : List ℓ} (hrun : run step s ls = some t)
    (hreached : ∀ pre, pre <+: ls → ∀ u, run step s pre = some u → R u) (hP : P s) :
    (∀ pre, pre <+: ls → ∀ u, run step s pre = some u → P u) ↔ AllSteps step C s ls := by
  induction ls generalizing s with
  | nil =>
      refine ⟨fun _ => trivial, fun _ pre hpre u hu => ?_⟩
      rw [List.prefix_nil.1 hpre, run_nil, Option.some.injEq] at hu
      exact hu ▸ hP
  | cons l ls ih =>
      obtain ⟨s', hl, hrest⟩ := run_cons_eq_some.1 hrun
      have hs : R s := hreached [] List.nil_prefix s rfl
      have hs' : R s' := hreached [l] ⟨ls, rfl⟩ s' (by simp [run, hl])
      have hreached' : ∀ pre, pre <+: ls → ∀ u, run step s' pre = some u → R u :=
        fun pre hpre u hu => hreached (l :: pre) (List.cons_prefix_cons.2 ⟨rfl, hpre⟩) u
          (run_cons_eq_some.2 ⟨s', hl, hu⟩)
      have hiff := hstep s l s' hs hs' hP hl
      constructor
      · intro hall
        have hP' : P s' := hall [l] ⟨ls, rfl⟩ s' (by simp [run, hl])
        refine ⟨hiff.1 hP', fun s'' hl' => ?_⟩
        rw [hl, Option.some.injEq] at hl'
        subst hl'
        refine (ih hrest hreached' hP').1 fun pre hpre u hu => ?_
        refine hall (l :: pre) (List.cons_prefix_cons.2 ⟨rfl, hpre⟩) u ?_
        exact run_cons_eq_some.2 ⟨s', hl, hu⟩
      · rintro ⟨hC, hall⟩ pre hpre u hu
        cases pre with
        | nil =>
            rw [run_nil, Option.some.injEq] at hu
            exact hu ▸ hP
        | cons l' pre =>
            obtain ⟨rfl, hpre'⟩ := List.cons_prefix_cons.1 hpre
            obtain ⟨s'', hl', hu'⟩ := run_cons_eq_some.1 hu
            rw [hl, Option.some.injEq] at hl'
            subst hl'
            exact (ih hrest hreached' (hiff.2 hC)).2 (hall s' hl) pre hpre' u hu'

/-- The same, with an invariant `Inv` for what holds on the way. -/
theorem forall_reached_iff_allSteps {Inv P : σ → Prop} {C : σ → ℓ → Prop}
    (hinv : ∀ s l s', Inv s → step s l = some s' → Inv s')
    (hstep : ∀ s l s', Inv s → P s → step s l = some s' → (P s' ↔ C s l))
    {s t : σ} {ls : List ℓ} (hrun : run step s ls = some t) (hs : Inv s) (hP : P s) :
    (∀ pre, pre <+: ls → ∀ u, run step s pre = some u → P u) ↔ AllSteps step C s ls :=
  forall_reached_iff_allSteps_of_reached (fun s l s' hs _ => hstep s l s' hs) hrun
    (fun _ _ _ hu => run_invariant hinv hu hs) hP

end DnsFilter
