import DnsFilter.Lib.Run
import Mathlib.Data.List.Count

/-!
# What the labels of a run say

The labels of a run are its trace. What is known about single steps says what labels a trace can
have, and how many of them.

* `exists_mem_of_run` — where something was lost on the way, a step that loses it occurs.
* `run_filter` — labels that change nothing can be left out.
* `run_account_le`, `le_run_account` — if each step gives out no more (keeps no less) than it has
  and takes in, so does a run.
* `exists_outgo_of_run` — what came in and is not there any more was taken out.
* `Passes` — some state on the way has a property. `run_history` is the induction on runs in which
  such facts are collected.
-/

namespace DnsFilter

variable {σ ℓ : Type*} {step : σ → ℓ → Option σ}

/-- A run through a label, cut there. -/
theorem run_append_cons_eq_some {s t : σ} {pre post : List ℓ} {l : ℓ} :
    run step s (pre ++ l :: post) = some t ↔
      ∃ before after, run step s pre = some before ∧ step before l = some after ∧
        run step after post = some t := by
  rw [run_append, Option.bind_eq_some_iff]
  constructor
  · intro ⟨before, hpre, hrest⟩
    obtain ⟨after, hl, hpost⟩ := run_cons_eq_some.1 hrest
    exact ⟨before, after, hpre, hl, hpost⟩
  · intro ⟨before, after, hpre, hl, hpost⟩
    exact ⟨before, hpre, run_cons_eq_some.2 ⟨after, hl, hpost⟩⟩

/-- Something that holds at the start and not at the end is lost by some step. -/
theorem exists_mem_of_run {Inv : σ → Prop} {K : ℓ → Prop}
    (hstep : ∀ s l s', Inv s → step s l = some s' → ¬ K l → Inv s') {s t : σ} {ls : List ℓ}
    (hrun : run step s ls = some t) (hs : Inv s) (ht : ¬ Inv t) : ∃ l ∈ ls, K l := by
  by_contra hnone
  simp only [not_exists, not_and] at hnone
  refine ht ?_
  induction ls generalizing s with
  | nil =>
      rw [run_nil, Option.some.injEq] at hrun
      exact hrun ▸ hs
  | cons l ls ih =>
      obtain ⟨s', hl, hrest⟩ := run_cons_eq_some.1 hrun
      have hs' : Inv s' := hstep s l s' hs hl (hnone l List.mem_cons_self)
      exact ih hrest hs' fun l' hl' => hnone l' (List.mem_cons_of_mem _ hl')

/-! ## Labels without effect -/

/-- Labels that change nothing can be left out of a run. -/
theorem run_filter {p : ℓ → Bool} (hinert : ∀ s l, p l = false → step s l = some s) (s : σ)
    (ls : List ℓ) : run step s (ls.filter p) = run step s ls := by
  induction ls generalizing s with
  | nil => rfl
  | cons l ls ih =>
      cases hl : p l with
      | false =>
          rw [List.filter_cons_of_neg (by simp [hl]), ih, run, hinert s l hl, Option.bind_some]
      | true =>
          rw [List.filter_cons_of_pos hl]
          refine congrArg (Option.bind (step s l)) ?_
          funext s'
          exact ih s'

/-! ## Accounts

A state holds a number of items; the labels `income` bring one in and the labels `outgo` take one
out. `Inv` is an invariant. `Good` is a property that is never gained, so that a run to a good state
went through good states only. -/

section Accounts

theorem countP_cons_toNat (p : ℓ → Bool) (l : ℓ) (ls : List ℓ) :
    (l :: ls).countP p = ls.countP p + (p l).toNat := by
  rw [List.countP_cons]
  cases p l <;> rfl

variable (Inv Good : σ → Prop) (held : σ → Nat) (income outgo : ℓ → Bool)

/-- Steps that never give out more than what is held and taken in: neither does a run. -/
theorem run_account_le
    (hstep : ∀ s l s', Inv s → step s l = some s' → Inv s' ∧ (Good s' →
      Good s ∧ held s' + (outgo l).toNat ≤ held s + (income l).toNat))
    {s t : σ} {ls : List ℓ} (hrun : run step s ls = some t) (hs : Inv s) (ht : Good t) :
    Good s ∧ held t + ls.countP outgo ≤ held s + ls.countP income := by
  induction ls generalizing s with
  | nil =>
      rw [run_nil, Option.some.injEq] at hrun
      subst hrun
      exact ⟨ht, by simp⟩
  | cons l ls ih =>
      obtain ⟨s', hl, hrest⟩ := run_cons_eq_some.1 hrun
      obtain ⟨hinv, hgood⟩ := hstep s l s' hs hl
      obtain ⟨hs', hle⟩ := ih hrest hinv
      obtain ⟨hgood, hheld⟩ := hgood hs'
      refine ⟨hgood, ?_⟩
      rw [countP_cons_toNat, countP_cons_toNat]
      omega

/-- Steps that keep all they take in and do not give out: so does a run. -/
theorem le_run_account
    (hstep : ∀ s l s', Inv s → step s l = some s' → Inv s' ∧ (Good s' →
      Good s ∧ held s + (income l).toNat ≤ held s' + (outgo l).toNat))
    {s t : σ} {ls : List ℓ} (hrun : run step s ls = some t) (hs : Inv s) (ht : Good t) :
    Good s ∧ held s + ls.countP income ≤ held t + ls.countP outgo := by
  induction ls generalizing s with
  | nil =>
      rw [run_nil, Option.some.injEq] at hrun
      subst hrun
      exact ⟨ht, by simp⟩
  | cons l ls ih =>
      obtain ⟨s', hl, hrest⟩ := run_cons_eq_some.1 hrun
      obtain ⟨hinv, hgood⟩ := hstep s l s' hs hl
      obtain ⟨hs', hle⟩ := ih hrest hinv
      obtain ⟨hgood, hheld⟩ := hgood hs'
      refine ⟨hgood, ?_⟩
      rw [countP_cons_toNat, countP_cons_toNat]
      omega

/-- What was held after some step and is not held at the end was taken out later. -/
theorem exists_outgo_of_run
    (hstep : ∀ s l s', Inv s → step s l = some s' → Inv s' ∧ (Good s' →
      Good s ∧ held s + (income l).toNat ≤ held s' + (outgo l).toNat))
    {s t : σ} {pre post : List ℓ} {l : ℓ} (hrun : run step s (pre ++ l :: post) = some t)
    (hs : Inv s) (ht : Good t) (hempty : held t = 0)
    (hl : ∀ before after, Inv before → step before l = some after → Good after →
      0 < held after) : ∃ l' ∈ post, outgo l' = true := by
  obtain ⟨before, after, hpre, hstepl, hpost⟩ := run_append_cons_eq_some.1 hrun
  have hbefore : Inv before := run_invariant (fun _ _ _ h hs => (hstep _ _ _ h hs).1) hpre hs
  have hafter : Inv after := (hstep _ _ _ hbefore hstepl).1
  obtain ⟨hgood, hle⟩ := le_run_account Inv Good held income outgo hstep hpost hafter ht
  have hheld := hl before after hbefore hstepl hgood
  have hcount : 0 < post.countP outgo := by omega
  exact List.countP_pos_iff.1 hcount

end Accounts

/-! ## States on the way -/

/-- What holds of the empty run and is kept by each step, whatever happened before, holds of a run
and its last state. -/
theorem run_history {Inv : List ℓ → σ → Prop} {s : σ} (hnil : Inv [] s)
    (hsnoc : ∀ ls u l v, run step s ls = some u → Inv ls u → step u l = some v → Inv (ls ++ [l]) v)
    {t : σ} {ls : List ℓ} (hrun : run step s ls = some t) : Inv ls t := by
  induction ls using List.reverseRecOn generalizing t with
  | nil =>
      rw [run_nil, Option.some.injEq] at hrun
      exact hrun ▸ hnil
  | append_singleton ls l ih =>
      obtain ⟨u, v, hls, hl, hend⟩ := run_append_cons_eq_some.1 hrun
      rw [run_nil, Option.some.injEq] at hend
      exact hend ▸ hsnoc ls u l v hls (ih hls) hl

/-- Some state of the run, its first and its last included, has the property. -/
def Passes (step : σ → ℓ → Option σ) (s : σ) (ls : List ℓ) (P : σ → Prop) : Prop :=
  ∃ before after t, ls = before ++ after ∧ run step s before = some t ∧ P t

theorem passes_end {s t : σ} {ls : List ℓ} {P : σ → Prop} (hrun : run step s ls = some t)
    (ht : P t) : Passes step s ls P :=
  ⟨ls, [], t, (List.append_nil ls).symm, hrun, ht⟩

theorem Passes.append {s : σ} {ls : List ℓ} {P : σ → Prop} (h : Passes step s ls P)
    (more : List ℓ) : Passes step s (ls ++ more) P := by
  obtain ⟨before, after, t, rfl, hrun, ht⟩ := h
  exact ⟨before, after ++ more, t, List.append_assoc before after more, hrun, ht⟩

theorem Passes.imp {s : σ} {ls : List ℓ} {P Q : σ → Prop} (h : Passes step s ls P)
    (hPQ : ∀ t, P t → Q t) : Passes step s ls Q := by
  obtain ⟨before, after, t, hls, hrun, ht⟩ := h
  exact ⟨before, after, t, hls, hrun, hPQ t ht⟩

end DnsFilter
