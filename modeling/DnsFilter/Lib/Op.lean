import Mathlib.Logic.Basic

/-!
# Operations on a shared store

An `Op σ ε α` is a computation that works on a store of type `σ` through atomic calls, may send a
notification between them, and ends with a value or an error. `Op.run` performs it alone; a
scheduler that interleaves operations performs one constructor at a time.

Properties of an operation are checked along its structure:

* `SendsLast` — it sends exactly when it succeeds, as the last thing it does.
* `Keeps` — each of its calls keeps an invariant of the store (`keeps_run`).
* `ReadOnly`, `Committed`, `Guarded` — its calls do not change the store; it cannot end with an
  error of a given class; errors of that class come before the first call that changes the store
  (`guarded_run`).
* `Transaction` — the shape of most operations, which has all of these.
-/

namespace DnsFilter

universe u v w

/-- An operation: finished, failed, or about to make an atomic call or to send. A call changes the
store by `effect` and continues with what it learned from the store before. -/
inductive Op (σ : Type u) (ε : Type v) (α : Type w)
  | ok (result : α)
  | fail (error : ε)
  | call (effect : σ → σ) (next : σ → Op σ ε α)
  | send (next : Op σ ε α)

namespace Op

variable {σ : Type u} {ε : Type v} {α β : Type w}

/-! ## Building operations -/

protected def bind (f : α → Op σ ε β) : Op σ ε α → Op σ ε β
  | ok a => f a
  | fail e => fail e
  | call effect next => call effect fun s => (next s).bind f
  | send next => send (next.bind f)

instance : Monad (Op σ ε) where
  pure := ok
  bind x f := x.bind f

/-- A check that needs no store. -/
def ofExcept : Except ε α → Op σ ε α
  | .ok a => ok a
  | .error e => fail e

/-- Read from the store. -/
def read (f : σ → α) : Op σ ε α := call id fun s => ok (f s)

/-- A call that may fail; what it did to the store until then stays done. -/
def access (f : σ → Except ε α × σ) : Op σ ε α := call (fun s => (f s).2) fun s => ofExcept (f s).1

/-- Send a notification. -/
def notify (a : α) : Op σ ε α := send (ok a)

/-- A step for each value, in order and numbered from `i`; the first failure ends it. -/
def each {β : Type*} (step : Nat → β → Op σ ε Unit) : Nat → List β → Op σ ε Unit
  | _, [] => ok ()
  | i, value :: rest => (step i value).bind fun _ => each step (i + 1) rest

/-! ## Running an operation alone -/

/-- The result and the store after performing the operation without interruption. -/
def run : Op σ ε α → σ → Except ε α × σ
  | ok a, s => (.ok a, s)
  | fail e, s => (.error e, s)
  | call effect next, s => (next s).run (effect s)
  | send next, s => next.run s

@[simp] theorem run_pure (a : α) (s : σ) : (pure a : Op σ ε α).run s = (.ok a, s) := rfl

@[simp] theorem run_read (f : σ → α) (s : σ) : (read f : Op σ ε α).run s = (.ok (f s), s) := rfl

@[simp] theorem run_notify (a : α) (s : σ) : (notify a : Op σ ε α).run s = (.ok a, s) := rfl

@[simp] theorem run_ofExcept (x : Except ε α) (s : σ) :
    (ofExcept x : Op σ ε α).run s = (x, s) := by
  cases x <;> rfl

@[simp] theorem run_access (f : σ → Except ε α × σ) (s : σ) : (access f).run s = f s := by
  rw [access, run, run_ofExcept]

theorem run_bind (x : Op σ ε α) (f : α → Op σ ε β) (s : σ) :
    (x >>= f).run s = match x.run s with
      | (.ok a, s') => (f a).run s'
      | (.error e, s') => (.error e, s') := by
  change (x.bind f).run s = _
  induction x generalizing s with
  | ok a => rfl
  | fail e => rfl
  | call effect next ih => exact ih s (effect s)
  | send next ih => exact ih s

theorem run_bind_ok {x : Op σ ε α} {s s' : σ} {a : α} (h : x.run s = (.ok a, s'))
    (f : α → Op σ ε β) : (x >>= f).run s = (f a).run s' := by
  rw [run_bind, h]

theorem run_bind_error {x : Op σ ε α} {s s' : σ} {e : ε} (h : x.run s = (.error e, s'))
    (f : α → Op σ ε β) : (x >>= f).run s = (.error e, s') := by
  rw [run_bind, h]

/-- A compound operation succeeds when its parts do, one after the other. -/
theorem run_bind_eq_ok {x : Op σ ε α} {f : α → Op σ ε β} {s t : σ} {b : β} :
    (x >>= f).run s = (.ok b, t) ↔ ∃ a s', x.run s = (.ok a, s') ∧ (f a).run s' = (.ok b, t) := by
  rw [run_bind]
  rcases x.run s with ⟨e | a, s'⟩
  · simp
  · exact ⟨fun h => ⟨a, s', rfl, h⟩, by rintro ⟨_, _, ⟨⟩, h⟩; exact h⟩

theorem run_ofExcept_bind_eq_ok {x : Except ε α} {f : α → Op σ ε β} {s t : σ} {b : β} :
    (ofExcept x >>= f).run s = (.ok b, t) ↔ ∃ a, x = .ok a ∧ (f a).run s = (.ok b, t) := by
  rw [run_bind, run_ofExcept]
  cases x <;> simp

theorem run_read_bind (g : σ → α) (f : α → Op σ ε β) (s : σ) :
    (read g >>= f).run s = (f (g s)).run s :=
  rfl

theorem run_each_cons {γ : Type*} (step : Nat → γ → Op σ ε Unit) (i : Nat) (value : γ)
    (rest : List γ) (s : σ) :
    (each step i (value :: rest)).run s = match (step i value).run s with
      | (.ok _, s') => (each step (i + 1) rest).run s'
      | (.error e, s') => (.error e, s') := by
  show (step i value >>= fun _ => each step (i + 1) rest).run s = _
  rw [run_bind]
  rcases (step i value).run s with ⟨e | a, s'⟩ <;> rfl

/-- A loop that succeeds, where each step that succeeds adds one to a measure of the store. -/
theorem measure_run_each {γ : Type*} {step : Nat → γ → Op σ ε Unit} {measure : σ → Nat}
    (hstep : ∀ i value s s', (step i value).run s = (.ok (), s') → measure s' = measure s + 1)
    {i : Nat} {values : List γ} {s s' : σ} (h : (each step i values).run s = (.ok (), s')) :
    measure s' = measure s + values.length := by
  induction values generalizing i s with
  | nil =>
      obtain rfl : s = s' := congrArg Prod.snd h
      rfl
  | cons value rest ih =>
      obtain ⟨_, s₁, hfirst, hrest⟩ := run_bind_eq_ok.1 h
      rw [ih hrest, hstep i value s s₁ hfirst, List.length_cons]
      omega

/-! ## Sending -/

/-- The operation never sends. -/
def NoSend : Op σ ε α → Prop
  | ok _ => True
  | fail _ => True
  | call _ next => ∀ s, (next s).NoSend
  | send _ => False

/-- Every successful end comes right after a send, and nothing else is sent. -/
def SendsLast : Op σ ε α → Prop
  | ok _ => False
  | fail _ => True
  | call _ next => ∀ s, (next s).SendsLast
  | send next => ∃ a, next = ok a

theorem noSend_ofExcept (x : Except ε α) : (ofExcept x : Op σ ε α).NoSend := by
  cases x <;> trivial

theorem noSend_read (f : σ → α) : (read f : Op σ ε α).NoSend := fun _ => trivial

theorem noSend_access (f : σ → Except ε α × σ) : (access f).NoSend := fun _ => noSend_ofExcept _

theorem noSend_bind {x : Op σ ε α} {f : α → Op σ ε β} (hx : x.NoSend) (hf : ∀ a, (f a).NoSend) :
    (x >>= f).NoSend := by
  change (x.bind f).NoSend
  induction x with
  | ok a => exact hf a
  | fail e => trivial
  | call effect next ih => exact fun s => ih s (hx s)
  | send next ih => exact hx.elim

theorem sendsLast_notify (a : α) : (notify a : Op σ ε α).SendsLast := ⟨a, rfl⟩

theorem sendsLast_bind {x : Op σ ε α} {f : α → Op σ ε β} (hx : x.NoSend)
    (hf : ∀ a, (f a).SendsLast) : (x >>= f).SendsLast := by
  change (x.bind f).SendsLast
  induction x with
  | ok a => exact hf a
  | fail e => trivial
  | call effect next ih => exact fun s => ih s (hx s)
  | send next ih => exact hx.elim

/-- Changing the result after the send does not matter. -/
theorem sendsLast_map {x : Op σ ε α} (f : α → β) (hx : x.SendsLast) :
    (x >>= fun a => pure (f a)).SendsLast := by
  change (x.bind fun a => pure (f a)).SendsLast
  induction x with
  | ok a => exact hx.elim
  | fail e => trivial
  | call effect next ih => exact fun s => ih s (hx s)
  | send next ih =>
      obtain ⟨a, rfl⟩ := hx
      exact ⟨f a, rfl⟩

/-! ## Invariants of the store -/

/-- Every call keeps the invariant, whatever the operation learned before. -/
def Keeps (Inv : σ → Prop) : Op σ ε α → Prop
  | ok _ => True
  | fail _ => True
  | call effect next => (∀ s, Inv s → Inv (effect s)) ∧ ∀ s, (next s).Keeps Inv
  | send next => next.Keeps Inv

section Keeps

variable {Inv : σ → Prop}

theorem keeps_pure (a : α) : (pure a : Op σ ε α).Keeps Inv := trivial

theorem keeps_ofExcept (x : Except ε α) : (ofExcept x : Op σ ε α).Keeps Inv := by
  cases x <;> trivial

theorem keeps_read (f : σ → α) : (read f : Op σ ε α).Keeps Inv :=
  ⟨fun _ hs => hs, fun _ => trivial⟩

theorem keeps_notify (a : α) : (notify a : Op σ ε α).Keeps Inv := trivial

theorem keeps_access {f : σ → Except ε α × σ} (hf : ∀ s, Inv s → Inv (f s).2) :
    (access f).Keeps Inv :=
  ⟨hf, fun _ => keeps_ofExcept _⟩

theorem keeps_bind {x : Op σ ε α} {f : α → Op σ ε β} (hx : x.Keeps Inv)
    (hf : ∀ a, (f a).Keeps Inv) : (x >>= f).Keeps Inv := by
  change (x.bind f).Keeps Inv
  induction x with
  | ok a => exact hf a
  | fail e => trivial
  | call effect next ih => exact ⟨hx.1, fun s => ih s (hx.2 s)⟩
  | send next ih => exact ih hx

theorem keeps_each {γ : Type*} {step : Nat → γ → Op σ ε Unit}
    (hstep : ∀ i value, (step i value).Keeps Inv) (i : Nat) (values : List γ) :
    (each step i values).Keeps Inv := by
  induction values generalizing i with
  | nil => trivial
  | cons value rest ih => exact keeps_bind (hstep i value) fun _ => ih (i + 1)

/-- **An operation whose calls keep the invariant keeps it, however it ends.** -/
theorem keeps_run {x : Op σ ε α} {s : σ} (hx : x.Keeps Inv) (hs : Inv s) : Inv (x.run s).2 := by
  induction x generalizing s with
  | ok a => exact hs
  | fail e => exact hs
  | call effect next ih => exact ih s (hx.2 s) (hx.1 s hs)
  | send next ih => exact ih hx hs

end Keeps

/-! ## Errors before changes -/

/-- No call changes the store, and nothing is sent. -/
def ReadOnly : Op σ ε α → Prop
  | ok _ => True
  | fail _ => True
  | call effect next => effect = id ∧ ∀ s, (next s).ReadOnly
  | send _ => False

theorem readOnly_ofExcept (x : Except ε α) : (ofExcept x : Op σ ε α).ReadOnly := by
  cases x <;> trivial

theorem readOnly_read (f : σ → α) : (read f : Op σ ε α).ReadOnly := ⟨rfl, fun _ => trivial⟩

theorem readOnly_bind {x : Op σ ε α} {f : α → Op σ ε β} (hx : x.ReadOnly)
    (hf : ∀ a, (f a).ReadOnly) : (x >>= f).ReadOnly := by
  change (x.bind f).ReadOnly
  induction x with
  | ok a => exact hf a
  | fail e => trivial
  | call effect next ih => exact ⟨hx.1, fun s => ih s (hx.2 s)⟩
  | send next ih => exact hx.elim

theorem ReadOnly.noSend {x : Op σ ε α} (hx : x.ReadOnly) : x.NoSend := by
  induction x with
  | ok a => trivial
  | fail e => trivial
  | call effect next ih => exact fun s => ih s (hx.2 s)
  | send next ih => exact hx.elim

theorem ReadOnly.keeps {Inv : σ → Prop} {x : Op σ ε α} (hx : x.ReadOnly) : x.Keeps Inv := by
  induction x with
  | ok a => trivial
  | fail e => trivial
  | call effect next ih =>
      obtain ⟨rfl, hnext⟩ := hx
      exact ⟨fun _ hs => hs, fun s => ih s (hnext s)⟩
  | send next ih => exact hx.elim

theorem ReadOnly.run_snd {x : Op σ ε α} (hx : x.ReadOnly) (s : σ) : (x.run s).2 = s := by
  induction x generalizing s with
  | ok a => rfl
  | fail e => rfl
  | call effect next ih =>
      obtain ⟨rfl, hnext⟩ := hx
      exact ih s (hnext s) s
  | send next ih => exact hx.elim

variable (P : ε → Prop)

/-- The operation cannot end with an error of the class `P`. -/
def Committed : Op σ ε α → Prop
  | ok _ => True
  | fail e => ¬ P e
  | call _ next => ∀ s, (next s).Committed
  | send next => next.Committed

/-- Errors of the class `P` come before the first call that changes the store. -/
def Guarded : Op σ ε α → Prop
  | ok _ => True
  | fail _ => True
  | call effect next => (effect = id ∧ ∀ s, (next s).Guarded) ∨ ∀ s, (next s).Committed P
  | send next => next.Guarded

variable {P}

theorem committed_pure (a : α) : (pure a : Op σ ε α).Committed P := trivial

theorem committed_notify (a : α) : (notify a : Op σ ε α).Committed P := trivial

theorem committed_access {f : σ → Except ε α × σ} (hf : ∀ s e, (f s).1 = .error e → ¬ P e) :
    (access f).Committed P := by
  intro s
  have hs := hf s
  change (ofExcept (f s).1).Committed P
  cases h : (f s).1 with
  | ok a => trivial
  | error e => exact hs e h

theorem committed_bind {x : Op σ ε α} {f : α → Op σ ε β} (hx : x.Committed P)
    (hf : ∀ a, (f a).Committed P) : (x >>= f).Committed P := by
  change (x.bind f).Committed P
  induction x with
  | ok a => exact hf a
  | fail e => exact hx
  | call effect next ih => exact fun s => ih s (hx s)
  | send next ih => exact ih hx

theorem guarded_of_committed {x : Op σ ε α} (hx : x.Committed P) : x.Guarded P := by
  induction x with
  | ok a => trivial
  | fail e => trivial
  | call effect next ih => exact .inr hx
  | send next ih => exact ih hx

theorem guarded_bind {x : Op σ ε α} {f : α → Op σ ε β} (hx : x.ReadOnly)
    (hf : ∀ a, (f a).Guarded P) : (x >>= f).Guarded P := by
  change (x.bind f).Guarded P
  induction x with
  | ok a => exact hf a
  | fail e => trivial
  | call effect next ih => exact .inl ⟨hx.1, fun s => ih s (hx.2 s)⟩
  | send next ih => exact hx.elim

theorem guarded_map {x : Op σ ε α} (f : α → β) (hx : x.Guarded P) :
    (x >>= fun a => pure (f a)).Guarded P := by
  change (x.bind fun a => pure (f a)).Guarded P
  induction x with
  | ok a => trivial
  | fail e => trivial
  | call effect next ih =>
      rcases hx with ⟨heffect, hnext⟩ | hnext
      · exact .inl ⟨heffect, fun s => ih s (hnext s)⟩
      · exact .inr fun s => committed_bind (hnext s) fun _ => committed_pure _
  | send next ih => exact ih hx

theorem committed_run {x : Op σ ε α} {s t : σ} {e : ε} (hx : x.Committed P)
    (hrun : x.run s = (.error e, t)) : ¬ P e := by
  induction x generalizing s with
  | ok a => cases hrun
  | fail e' => cases hrun; exact hx
  | call effect next ih => exact ih s (hx s) hrun
  | send next ih => exact ih hx hrun

/-- **A guarded operation that fails with such an error has changed nothing.** -/
theorem guarded_run {x : Op σ ε α} {s t : σ} {e : ε} (hx : x.Guarded P)
    (hrun : x.run s = (.error e, t)) (he : P e) : t = s := by
  induction x generalizing s with
  | ok a => cases hrun
  | fail e' => cases hrun; rfl
  | call effect next ih =>
      rcases hx with ⟨rfl, hnext⟩ | hnext
      · exact ih s (hnext s) hrun
      · exact absurd he (committed_run (hnext s) hrun)
  | send next ih => exact ih hx hrun

/-! ## Transactions -/

/-- The usual shape of an operation: read and check, change the store, send. -/
structure Transaction (P : ε → Prop) (Inv : σ → Prop) (x : Op σ ε α) : Prop where
  guarded : x.Guarded P
  sendsLast : x.SendsLast
  keeps : x.Keeps Inv

section Transaction

variable {Inv : σ → Prop}

theorem Transaction.bind {x : Op σ ε α} {f : α → Op σ ε β} (hx : x.ReadOnly)
    (hf : ∀ a, (f a).Transaction P Inv) : (x >>= f).Transaction P Inv where
  guarded := guarded_bind hx fun a => (hf a).guarded
  sendsLast := sendsLast_bind hx.noSend fun a => (hf a).sendsLast
  keeps := keeps_bind hx.keeps fun a => (hf a).keeps

/-- A single changing call followed by the send. -/
theorem transaction_access {f : σ → Except ε α × σ} {b : β}
    (hP : ∀ s e, (f s).1 = .error e → ¬ P e) (hInv : ∀ s, Inv s → Inv (f s).2) :
    (access f >>= fun _ => notify b).Transaction P Inv where
  guarded := guarded_of_committed (committed_bind (committed_access hP) fun _ => committed_notify b)
  sendsLast := sendsLast_bind (noSend_access f) fun _ => sendsLast_notify b
  keeps := keeps_bind (keeps_access hInv) fun _ => keeps_notify b

end Transaction

end Op

end DnsFilter
