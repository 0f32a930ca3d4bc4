import DnsFilter.Lib.Run
import Mathlib.Logic.Function.Basic

/-!
# Many calls, one kept connection

A client keeps one connection to its server for later calls. Calls run at the same time and take
turns at any point where they wait:

* a call looks at the kept connection and, if there is one, sends its request there;
* if no reply comes, it empties the cache, whatever the cache holds by then, and opens a connection
  of its own;
* a connection that gave its first reply is kept.

Nothing ties the emptying to the connection that failed, so calls can undo each other's work. What
still holds in every order of steps: a kept connection has replied, a connection that a call has
given up is never kept again (`Inv`), and no later call is put on it (`run_evicted`).
-/

namespace DnsFilter.Reuse

variable {ρ ε α : Type*}

/-- How a call ended. `gaveUp` is the kept connection on which the call got no reply. -/
inductive Ending
  | turnedAway
  | viaKept (conn : Nat)
  | viaOwn (gaveUp : Option Nat) (conn : Nat)
  | unanswered (gaveUp : Option Nat) (conn : Nat)
  | unconnected (gaveUp : Option Nat)
  deriving DecidableEq, Repr

/-- Where a call stands. Connections are numbered in the order in which they are opened. -/
inductive Phase (ρ ε α : Type*)
  | idle
  | asking (conn : Nat)
  | clearing (conn : Nat)
  | connecting (gaveUp : Option Nat)
  | askingOwn (gaveUp : Option Nat) (conn : Nat)
  | keeping (gaveUp : Option Nat) (conn : Nat) (reply : ρ)
  | done (ending : Ending) (result : Except ε α)

namespace Phase

/-- The connection a call is working with. -/
def conn : Phase ρ ε α → Option Nat
  | asking conn | clearing conn | askingOwn _ conn | keeping _ conn _ => some conn
  | idle | connecting _ | done _ _ => none

/-- The connection that a call has opened and not yet handed to the cache. -/
def own : Phase ρ ε α → Option Nat
  | askingOwn _ conn | keeping _ conn _ => some conn
  | idle | asking _ | clearing _ | connecting _ | done _ _ => none

/-- The connection that a call opened, if it did. -/
def opener : Phase ρ ε α → Option Nat
  | askingOwn _ conn | keeping _ conn _ | done (.viaOwn _ conn) _ | done (.unanswered _ conn) _ =>
      some conn
  | idle | asking _ | clearing _ | connecting _
  | done .turnedAway _ | done (.viaKept _) _ | done (.unconnected _) _ => none

/-- The result with which a call that has begun ended at once, if it did. -/
def admission : Phase ρ ε α → Option (Option (Except ε α))
  | idle => none
  | done .turnedAway result => some (some result)
  | asking _ | clearing _ | connecting _ | askingOwn _ _ | keeping _ _ _
  | done (.viaKept _) _ | done (.viaOwn _ _) _ | done (.unanswered _ _) _
  | done (.unconnected _) _ => some none

theorem conn_of_own {phase : Phase ρ ε α} {c : Nat} (h : phase.own = some c) :
    phase.conn = some c := by
  cases phase <;> first | exact h | cases h

end Phase

/-- The client: its cache, how many connections it has opened, on which of them a reply came, which
were given up, and where each call stands. -/
structure State (ρ ε α : Type*) where
  cached : Option Nat := none
  opened : Nat := 0
  replied : List Nat := []
  evicted : List Nat := []
  phase : Nat → Phase ρ ε α := fun _ => .idle

/-- A call goes on to another phase. -/
def State.goto (s : State ρ ε α) (call : Nat) (phase : Phase ρ ε α) : State ρ ε α :=
  { s with phase := Function.update s.phase call phase }

@[simp] theorem State.goto_self (s : State ρ ε α) (call : Nat) (phase : Phase ρ ε α) :
    (s.goto call phase).phase call = phase :=
  Function.update_self ..

@[simp] theorem State.goto_of_ne (s : State ρ ε α) {call i : Nat} (phase : Phase ρ ε α)
    (h : i ≠ call) : (s.goto call phase).phase i = s.phase i :=
  Function.update_of_ne h ..

/-- What can happen next. A call that begins may end at once with a result (`admission`). -/
inductive Move (ρ ε α : Type*)
  | start (call : Nat) (admission : Option (Except ε α))
  | reply (call : Nat) (result : Except ε ρ)
  | clear (call : Nat)
  | connected (call : Nat) (result : Except ε Unit)
  | keep (call : Nat)

/-- The admission of a call after a step, given the one before. -/
def Move.settle (i : Nat) (before : Option (Option (Except ε α))) :
    Move ρ ε α → Option (Option (Except ε α))
  | .start call admission => if i = call then some admission else before
  | .reply _ _ | .clear _ | .connected _ _ | .keep _ => before

section Step

variable (finish : ρ → Except ε α)

/-- The phase after a call has looked at the cache. -/
def lookup (cached : Option Nat) : Phase ρ ε α :=
  match cached with
  | some conn => .asking conn
  | none => .connecting none

/-- One step. `finish` turns a reply into the call's result. -/
def step (s : State ρ ε α) : Move ρ ε α → Option (State ρ ε α)
  | .start call admission =>
      match s.phase call, admission with
      | .idle, some result => some (s.goto call (.done .turnedAway result))
      | .idle, none => some (s.goto call (lookup s.cached))
      | _, _ => none
  | .reply call result =>
      match s.phase call, result with
      | .asking conn, .ok reply =>
          some ({ s with replied := conn :: s.replied }.goto call
            (.done (.viaKept conn) (finish reply)))
      | .asking conn, .error _ => some (s.goto call (.clearing conn))
      | .askingOwn gaveUp conn, .ok reply =>
          some ({ s with replied := conn :: s.replied }.goto call (.keeping gaveUp conn reply))
      | .askingOwn gaveUp conn, .error e =>
          some (s.goto call (.done (.unanswered gaveUp conn) (.error e)))
      | _, _ => none
  | .clear call =>
      match s.phase call with
      | .clearing conn =>
          some ({ s with cached := none, evicted := conn :: s.evicted }.goto call
            (.connecting (some conn)))
      | _ => none
  | .connected call result =>
      match s.phase call, result with
      | .connecting gaveUp, .ok () =>
          some ({ s with opened := s.opened + 1 }.goto call (.askingOwn gaveUp s.opened))
      | .connecting gaveUp, .error e =>
          some (s.goto call (.done (.unconnected gaveUp) (.error e)))
      | _, _ => none
  | .keep call =>
      match s.phase call with
      | .keeping gaveUp conn reply =>
          some ({ s with cached := some conn }.goto call
            (.done (.viaOwn gaveUp conn) (finish reply)))
      | _ => none

end Step

/-! ## What a step can do -/

section Cases

variable {finish : ρ → Except ε α} {s t : State ρ ε α}

/-- All a step can do. -/
inductive Stepped (finish : ρ → Except ε α) (s : State ρ ε α) : State ρ ε α → Prop
  | refused {call : Nat} (result : Except ε α) (h : s.phase call = .idle) :
      Stepped finish s (s.goto call (.done .turnedAway result))
  | foundKept {call conn : Nat} (h : s.phase call = .idle) (hconn : s.cached = some conn) :
      Stepped finish s (s.goto call (.asking conn))
  | foundNone {call : Nat} (h : s.phase call = .idle) (hnone : s.cached = none) :
      Stepped finish s (s.goto call (.connecting none))
  | keptReplied {call conn : Nat} (reply : ρ) (h : s.phase call = .asking conn) :
      Stepped finish s ({ s with replied := conn :: s.replied }.goto call
        (.done (.viaKept conn) (finish reply)))
  | keptSilent {call conn : Nat} (h : s.phase call = .asking conn) :
      Stepped finish s (s.goto call (.clearing conn))
  | ownReplied {call conn : Nat} {gaveUp : Option Nat} (reply : ρ)
      (h : s.phase call = .askingOwn gaveUp conn) :
      Stepped finish s ({ s with replied := conn :: s.replied }.goto call
        (.keeping gaveUp conn reply))
  | ownSilent {call conn : Nat} {gaveUp : Option Nat} (e : ε)
      (h : s.phase call = .askingOwn gaveUp conn) :
      Stepped finish s (s.goto call (.done (.unanswered gaveUp conn) (.error e)))
  | cleared {call conn : Nat} (h : s.phase call = .clearing conn) :
      Stepped finish s ({ s with cached := none, evicted := conn :: s.evicted }.goto call
        (.connecting (some conn)))
  | connected {call : Nat} {gaveUp : Option Nat} (h : s.phase call = .connecting gaveUp) :
      Stepped finish s ({ s with opened := s.opened + 1 }.goto call (.askingOwn gaveUp s.opened))
  | notConnected {call : Nat} {gaveUp : Option Nat} (e : ε)
      (h : s.phase call = .connecting gaveUp) :
      Stepped finish s (s.goto call (.done (.unconnected gaveUp) (.error e)))
  | kept {call conn : Nat} {gaveUp : Option Nat} {reply : ρ}
      (h : s.phase call = .keeping gaveUp conn reply) :
      Stepped finish s ({ s with cached := some conn }.goto call
        (.done (.viaOwn gaveUp conn) (finish reply)))

theorem stepped {move : Move ρ ε α} (h : step finish s move = some t) : Stepped finish s t := by
  cases move with
  | start call admission =>
      simp only [step] at h
      split at h <;> cases h
      · exact .refused _ ‹_›
      · rename_i hidle
        cases hc : s.cached with
        | some conn => exact .foundKept hidle hc
        | none => exact .foundNone hidle hc
  | reply call result =>
      simp only [step] at h
      split at h <;> cases h
      · exact .keptReplied _ ‹_›
      · exact .keptSilent ‹_›
      · exact .ownReplied _ ‹_›
      · exact .ownSilent _ ‹_›
  | clear call =>
      simp only [step] at h
      split at h <;> cases h
      exact .cleared ‹_›
  | connected call result =>
      simp only [step] at h
      split at h <;> cases h
      · exact .connected ‹_›
      · exact .notConnected _ ‹_›
  | keep call =>
      simp only [step] at h
      split at h <;> cases h
      exact .kept ‹_›

/-- A call's admission is settled when it begins. -/
theorem admission_step {move : Move ρ ε α} (h : step finish s move = some t) (i : Nat) :
    (t.phase i).admission = move.settle i (s.phase i).admission := by
  have hgoto : ∀ {s' : State ρ ε α} {call : Nat} {phase : Phase ρ ε α}, s'.phase = s.phase →
      phase.admission = (s.phase call).admission →
      ((s'.goto call phase).phase i).admission = (s.phase i).admission := by
    intro s' call phase hsame hphase
    by_cases hi : i = call
    · subst hi
      rw [State.goto_self, hphase]
    · rw [State.goto_of_ne _ _ hi, hsame]
  cases move with
  | start call admission =>
      show _ = if i = call then some admission else (s.phase i).admission
      simp only [step] at h
      split at h <;> cases h
      all_goals
        by_cases hi : i = call
        · subst hi
          rw [State.goto_self, if_pos rfl]
          first | rfl | cases s.cached <;> rfl
        · rw [State.goto_of_ne _ _ hi, if_neg hi]
  | reply call result =>
      simp only [step] at h
      split at h <;> cases h
      all_goals exact hgoto rfl (by rw [‹s.phase call = _›]; rfl)
  | clear call =>
      simp only [step] at h
      split at h <;> cases h
      exact hgoto rfl (by rw [‹s.phase call = _›]; rfl)
  | connected call result =>
      simp only [step] at h
      split at h <;> cases h
      all_goals exact hgoto rfl (by rw [‹s.phase call = _›]; rfl)
  | keep call =>
      simp only [step] at h
      split at h <;> cases h
      exact hgoto rfl (by rw [‹s.phase call = _›]; rfl)

/-- A step opens no connection, or the next one for a call that had opened none. -/
theorem opener_step (h : Stepped finish s t) :
    (t.opened = s.opened ∧ ∀ i, (t.phase i).opener = (s.phase i).opener) ∨
      ∃ call, t.opened = s.opened + 1 ∧ (s.phase call).opener = none ∧
        (t.phase call).opener = some s.opened ∧
        ∀ i, i ≠ call → (t.phase i).opener = (s.phase i).opener := by
  have hgoto : ∀ {s' : State ρ ε α} {call : Nat} {phase : Phase ρ ε α}, s'.phase = s.phase →
      phase.opener = (s.phase call).opener →
      ∀ i, ((s'.goto call phase).phase i).opener = (s.phase i).opener := by
    intro s' call phase hsame hphase i
    by_cases hi : i = call
    · subst hi
      rw [State.goto_self, hphase]
    · rw [State.goto_of_ne _ _ hi, hsame]
  cases h with
  | @connected call gaveUp hphase =>
      refine .inr ⟨call, rfl, by rw [hphase]; rfl, by rw [State.goto_self]; rfl, fun i hi => ?_⟩
      rw [State.goto_of_ne _ _ hi]
  | refused _ hphase | foundKept hphase _ | foundNone hphase _ | keptReplied _ hphase
  | keptSilent hphase | ownReplied _ hphase | ownSilent _ hphase | cleared hphase
  | notConnected _ hphase | kept hphase =>
      exact .inl ⟨rfl, hgoto rfl (by rw [hphase]; rfl)⟩

end Cases

/-! ## The invariant -/

section Invariant

variable {finish : ρ → Except ε α} {s t : State ρ ε α}

/-- The facts about the connections that hold in every order of steps. -/
structure Inv (s : State ρ ε α) : Prop where
  cached_lt : ∀ c, s.cached = some c → c < s.opened
  cached_replied : ∀ c, s.cached = some c → c ∈ s.replied
  cached_good : ∀ c, s.cached = some c → c ∉ s.evicted
  evicted_lt : ∀ c ∈ s.evicted, c < s.opened
  conn_lt : ∀ i c, (s.phase i).conn = some c → c < s.opened
  own_alone : ∀ i c, (s.phase i).own = some c →
    s.cached ≠ some c ∧ c ∉ s.evicted ∧ ∀ j, j ≠ i → (s.phase j).conn ≠ some c
  keeping_replied : ∀ i g c reply, s.phase i = .keeping g c reply → c ∈ s.replied

namespace Inv

theorem init : Inv ({} : State ρ ε α) where
  cached_lt := nofun
  cached_replied := nofun
  cached_good := nofun
  evicted_lt := nofun
  conn_lt := nofun
  own_alone := nofun
  keeping_replied := nofun

/-- A call goes on: it may only work with a connection that is open and no other call's own. -/
theorem goto (h : Inv s) {call : Nat} {phase : Phase ρ ε α}
    (hlt : ∀ c, phase.conn = some c → c < s.opened)
    (hfree : ∀ c, phase.conn = some c → ∀ j, j ≠ call → (s.phase j).own ≠ some c)
    (hown : ∀ c, phase.own = some c →
      s.cached ≠ some c ∧ c ∉ s.evicted ∧ ∀ j, j ≠ call → (s.phase j).conn ≠ some c)
    (hkeep : ∀ g c reply, phase = .keeping g c reply → c ∈ s.replied) :
    Inv (s.goto call phase) where
  cached_lt := h.cached_lt
  cached_replied := h.cached_replied
  cached_good := h.cached_good
  evicted_lt := h.evicted_lt
  conn_lt i c hc := by
    by_cases hi : i = call
    · subst hi
      exact hlt c (by simpa using hc)
    · exact h.conn_lt i c (by simpa [hi] using hc)
  own_alone i c hc := by
    by_cases hi : i = call
    · subst hi
      obtain ⟨hcached, hevicted, hothers⟩ := hown c (by simpa using hc)
      refine ⟨hcached, hevicted, fun j hj => ?_⟩
      simpa [hj] using hothers j hj
    · have hc' : (s.phase i).own = some c := by simpa [hi] using hc
      obtain ⟨hcached, hevicted, hothers⟩ := h.own_alone i c hc'
      refine ⟨hcached, hevicted, fun j hj => ?_⟩
      by_cases hj' : j = call
      · subst hj'
        have : phase.conn ≠ some c := fun hphase => hfree c hphase i hi hc'
        simpa using this
      · simpa [hj'] using hothers j hj
  keeping_replied i g c reply hc := by
    by_cases hi : i = call
    · subst hi
      exact hkeep g c reply (by simpa using hc)
    · exact h.keeping_replied i g c reply (by simpa [hi] using hc)

/-- Another reply has come. -/
theorem reply (h : Inv s) (c : Nat) : Inv { s with replied := c :: s.replied } where
  cached_lt := h.cached_lt
  cached_replied c' hc := List.mem_cons_of_mem _ (h.cached_replied c' hc)
  cached_good := h.cached_good
  evicted_lt := h.evicted_lt
  conn_lt := h.conn_lt
  own_alone := h.own_alone
  keeping_replied i g c' reply hc := List.mem_cons_of_mem _ (h.keeping_replied i g c' reply hc)

/-- A connection that nobody owns is given up; the cache is emptied. -/
theorem evict (h : Inv s) {c : Nat} (hlt : c < s.opened)
    (hfree : ∀ i, (s.phase i).own ≠ some c) :
    Inv { s with cached := none, evicted := c :: s.evicted } where
  cached_lt := nofun
  cached_replied := nofun
  cached_good := nofun
  evicted_lt c' hc := (List.mem_cons.1 hc).elim (fun heq => heq ▸ hlt) (h.evicted_lt c')
  conn_lt := h.conn_lt
  own_alone i c' hc := by
    obtain ⟨-, hevicted, hothers⟩ := h.own_alone i c' hc
    refine ⟨nofun, fun hmem => ?_, hothers⟩
    rcases List.mem_cons.1 hmem with rfl | hmem
    · exact hfree i hc
    · exact hevicted hmem
  keeping_replied := h.keeping_replied

/-- A new connection. -/
theorem openNext (h : Inv s) : Inv { s with opened := s.opened + 1 } where
  cached_lt c hc := Nat.lt_succ_of_lt (h.cached_lt c hc)
  cached_replied := h.cached_replied
  cached_good := h.cached_good
  evicted_lt c hc := Nat.lt_succ_of_lt (h.evicted_lt c hc)
  conn_lt i c hc := Nat.lt_succ_of_lt (h.conn_lt i c hc)
  own_alone := h.own_alone
  keeping_replied := h.keeping_replied

/-- A connection that has replied, was not given up and is nobody's own is kept. -/
theorem keep (h : Inv s) {c : Nat} (hlt : c < s.opened) (hreplied : c ∈ s.replied)
    (hgood : c ∉ s.evicted) (hfree : ∀ i, (s.phase i).own ≠ some c) :
    Inv { s with cached := some c } where
  cached_lt := by
    rintro _ ⟨⟩
    exact hlt
  cached_replied := by
    rintro _ ⟨⟩
    exact hreplied
  cached_good := by
    rintro _ ⟨⟩
    exact hgood
  evicted_lt := h.evicted_lt
  conn_lt := h.conn_lt
  own_alone i c' hc := by
    obtain ⟨-, hevicted, hothers⟩ := h.own_alone i c' hc
    refine ⟨fun heq => ?_, hevicted, hothers⟩
    cases heq
    exact hfree i hc
  keeping_replied := h.keeping_replied

/-- A connection that one call is working with and does not own is nobody's own. -/
theorem free_of_conn (h : Inv s) {i c : Nat} (hconn : (s.phase i).conn = some c)
    (hown : (s.phase i).own = none) (j : Nat) : (s.phase j).own ≠ some c := by
  intro hj
  have hne : i ≠ j := by
    rintro rfl
    rw [hown] at hj
    cases hj
  exact (h.own_alone j c hj).2.2 i hne hconn

/-- A call that ends holds no connection any more. -/
theorem finished (h : Inv s) (call : Nat) (ending : Ending) (result : Except ε α) :
    Inv (s.goto call (.done ending result)) :=
  h.goto nofun nofun nofun nofun

/-- A call goes on with a connection that is not its own. -/
theorem shared (h : Inv s) {call c : Nat} {phase : Phase ρ ε α}
    (hphase : phase = .asking c ∨ phase = .clearing c) (hlt : c < s.opened)
    (hfree : ∀ j, (s.phase j).own ≠ some c) : Inv (s.goto call phase) := by
  rcases hphase with rfl | rfl
  all_goals
    refine h.goto ?_ ?_ nofun nofun
    · rintro _ ⟨⟩
      exact hlt
    · rintro _ ⟨⟩ j -
      exact hfree j

end Inv

/-- **Every step keeps the invariant.** -/
theorem inv_step {move : Move ρ ε α} (h : Inv s) (hstep : step finish s move = some t) :
    Inv t := by
  cases stepped hstep with
  | refused result hidle => exact h.finished _ _ _
  | foundKept hidle hconn =>
      refine h.shared (.inl rfl) (h.cached_lt _ hconn) fun j hj => ?_
      exact (h.own_alone j _ hj).1 hconn
  | foundNone hidle hnone => exact h.goto nofun nofun nofun nofun
  | keptReplied reply hasking => exact (h.reply _).finished _ _ _
  | keptSilent hasking =>
      have hconn := congrArg Phase.conn hasking
      exact h.shared (.inr rfl) (h.conn_lt _ _ hconn)
        (h.free_of_conn hconn (congrArg Phase.own hasking))
  | @ownReplied call conn gaveUp reply hasking =>
      have hconn := congrArg Phase.conn hasking
      have hown := h.own_alone call conn (congrArg Phase.own hasking)
      refine (h.reply conn).goto ?_ ?_ ?_ ?_
      · rintro _ ⟨⟩
        exact h.conn_lt _ _ hconn
      · rintro _ ⟨⟩ j hj hj'
        exact hown.2.2 j hj (Phase.conn_of_own hj')
      · rintro _ ⟨⟩
        exact hown
      · rintro _ _ _ ⟨⟩
        exact List.mem_cons_self
  | ownSilent e hasking => exact h.finished _ _ _
  | cleared hclearing =>
      have hconn := congrArg Phase.conn hclearing
      exact (h.evict (h.conn_lt _ _ hconn)
        (h.free_of_conn hconn (congrArg Phase.own hclearing))).goto nofun nofun nofun nofun
  | @connected call gaveUp hconnecting =>
      have hnew : ∀ j, (s.phase j).conn ≠ some s.opened := fun j hj =>
        Nat.lt_irrefl _ (h.conn_lt j _ hj)
      refine h.openNext.goto ?_ ?_ ?_ nofun
      · rintro _ ⟨⟩
        exact Nat.lt_succ_self _
      · rintro _ ⟨⟩ j - hj
        exact hnew j (Phase.conn_of_own hj)
      · rintro _ ⟨⟩
        refine ⟨fun hcached => ?_, fun hevicted => ?_, fun j _ => hnew j⟩
        · exact Nat.lt_irrefl _ (h.cached_lt _ hcached)
        · exact Nat.lt_irrefl _ (h.evicted_lt _ hevicted)
  | notConnected e hconnecting => exact h.finished _ _ _
  | @kept call conn gaveUp reply hkeeping =>
      have hconn := congrArg Phase.conn hkeeping
      have hown := h.own_alone call conn (congrArg Phase.own hkeeping)
      have hdone : Inv (s.goto call (.done (.viaOwn gaveUp conn) (finish reply))) :=
        h.finished _ _ _
      refine hdone.keep (h.conn_lt _ _ hconn) (h.keeping_replied _ _ _ _ hkeeping) hown.2.1 ?_
      intro j hj
      by_cases hcall : j = call
      · subst hcall
        simp [Phase.own] at hj
      · rw [State.goto_of_ne _ _ hcall] at hj
        exact hown.2.2 j hcall (Phase.conn_of_own hj)

/-- **The invariant holds in every reachable state.** -/
theorem inv_run {moves : List (Move ρ ε α)} (hrun : run (step finish) {} moves = some t) :
    Inv t :=
  run_invariant (fun _ _ _ => inv_step) hrun .init

/-! ## Where results come from -/

/-- Where the result of a call comes from: a reply to this very call, or its own failure to connect
or to get a reply. -/
def Explained (finish : ρ → Except ε α) (moves : List (Move ρ ε α)) (call : Nat) :
    Phase ρ ε α → Prop
  | .keeping _ _ reply => .reply call (.ok reply) ∈ moves
  | .done (.viaKept _) result | .done (.viaOwn _ _) result =>
      ∃ reply, .reply call (.ok reply) ∈ moves ∧ result = finish reply
  | .done (.unanswered _ _) result => ∃ e, .reply call (.error e) ∈ moves ∧ result = .error e
  | .done (.unconnected _) result => ∃ e, .connected call (.error e) ∈ moves ∧ result = .error e
  | .idle | .asking _ | .clearing _ | .connecting _ | .askingOwn _ _ | .done .turnedAway _ => True

theorem Explained.mono {moves moves' : List (Move ρ ε α)} (hsub : moves ⊆ moves') {call : Nat} :
    ∀ {phase : Phase ρ ε α}, Explained finish moves call phase → Explained finish moves' call phase
  | .keeping _ _ _, h => hsub h
  | .done (.viaKept _) _, ⟨reply, hmem, hresult⟩ => ⟨reply, hsub hmem, hresult⟩
  | .done (.viaOwn _ _) _, ⟨reply, hmem, hresult⟩ => ⟨reply, hsub hmem, hresult⟩
  | .done (.unanswered _ _) _, ⟨e, hmem, hresult⟩ => ⟨e, hsub hmem, hresult⟩
  | .done (.unconnected _) _, ⟨e, hmem, hresult⟩ => ⟨e, hsub hmem, hresult⟩
  | .idle, _ | .asking _, _ | .clearing _, _ | .connecting _, _ | .askingOwn _ _, _
  | .done .turnedAway _, _ => trivial

theorem explained_step {moves : List (Move ρ ε α)} {move : Move ρ ε α}
    (h : ∀ i, Explained finish moves i (s.phase i)) (hstep : step finish s move = some t) (i : Nat) :
    Explained finish (moves ++ [move]) i (t.phase i) := by
  have hold := fun j => (h j).mono (List.subset_append_left moves [move])
  have hgoto : ∀ {s' : State ρ ε α} {call : Nat} {phase : Phase ρ ε α}, s'.phase = s.phase →
      Explained finish (moves ++ [move]) call phase →
      Explained finish (moves ++ [move]) i ((s'.goto call phase).phase i) := by
    intro s' call phase hsame hphase
    by_cases hi : i = call
    · subst hi
      rwa [State.goto_self]
    · rw [State.goto_of_ne _ _ hi, hsame]
      exact hold i
  cases move with
  | start call admission =>
      simp only [step] at hstep
      split at hstep <;> cases hstep
      · exact hgoto rfl trivial
      · exact hgoto rfl (by cases s.cached <;> trivial)
  | reply call result =>
      simp only [step] at hstep
      split at hstep <;> cases hstep
      · exact hgoto rfl ⟨_, List.mem_append_right _ List.mem_cons_self, rfl⟩
      · exact hgoto rfl trivial
      · exact hgoto rfl (List.mem_append_right _ List.mem_cons_self)
      · exact hgoto rfl ⟨_, List.mem_append_right _ List.mem_cons_self, rfl⟩
  | clear call =>
      simp only [step] at hstep
      split at hstep <;> cases hstep
      exact hgoto rfl trivial
  | connected call result =>
      simp only [step] at hstep
      split at hstep <;> cases hstep
      · exact hgoto rfl trivial
      · exact hgoto rfl ⟨_, List.mem_append_right _ List.mem_cons_self, rfl⟩
  | keep call =>
      simp only [step] at hstep
      split at hstep <;> cases hstep
      rename_i hkeeping
      have hreply := hold call
      rw [hkeeping] at hreply
      exact hgoto rfl ⟨_, hreply, rfl⟩

theorem explained_run {moves : List (Move ρ ε α)} (hrun : run (step finish) {} moves = some t)
    (i : Nat) : Explained finish moves i (t.phase i) := by
  induction moves using List.reverseRecOn generalizing t i with
  | nil =>
      rw [run_nil, Option.some.injEq] at hrun
      subst hrun
      trivial
  | append_singleton moves move ih =>
      rw [run_append] at hrun
      obtain ⟨s, hs, hlast⟩ := Option.bind_eq_some_iff.1 hrun
      obtain ⟨t', hstep, ht⟩ := run_cons_eq_some.1 hlast
      rw [run_nil, Option.some.injEq] at ht
      subst ht
      exact explained_step (fun j => ih hs j) hstep i

/-! ## Who opened what -/

/-- Every open connection was opened by exactly one call. -/
def OneOpener (s : State ρ ε α) : Prop :=
  (∀ i c, (s.phase i).opener = some c → c < s.opened) ∧
    ∀ c < s.opened, ∃! i, (s.phase i).opener = some c

theorem oneOpener_step {move : Move ρ ε α} (h : OneOpener s)
    (hstep : step finish s move = some t) : OneOpener t := by
  obtain ⟨hlt, hone⟩ := h
  rcases opener_step (stepped hstep) with ⟨hopened, hsame⟩ | ⟨call, hopened, hnone, hnew, hsame⟩
  · refine ⟨fun i c hc => hopened ▸ hlt i c (hsame i ▸ hc), fun c hc => ?_⟩
    simpa only [hsame] using hone c (hopened ▸ hc)
  · constructor
    · intro i c hc
      rw [hopened]
      by_cases hi : i = call
      · rw [hi, hnew, Option.some.injEq] at hc
        omega
      · have := hlt i c (hsame i hi ▸ hc)
        omega
    · intro c hc
      by_cases hlast : c = s.opened
      · subst hlast
        refine ⟨call, hnew, fun i (hi : (t.phase i).opener = some s.opened) => ?_⟩
        by_contra hne
        have := hlt i _ ((hsame i hne).symm.trans hi)
        omega
      · obtain ⟨i, hi, hunique⟩ := hone c (by omega)
        have hne : i ≠ call := by
          rintro rfl
          rw [hnone] at hi
          cases hi
        refine ⟨i, (hsame i hne).trans hi, fun j (hj : (t.phase j).opener = some c) => ?_⟩
        have hj' : j ≠ call := by
          rintro rfl
          rw [hnew, Option.some.injEq] at hj
          omega
        exact hunique j ((hsame j hj').symm.trans hj)

theorem oneOpener_run {moves : List (Move ρ ε α)} (hrun : run (step finish) {} moves = some t) :
    OneOpener t :=
  run_invariant (fun _ _ _ => oneOpener_step) hrun ⟨nofun, nofun⟩

/-! ## Connections that were given up -/

/-- No call takes up a connection that was given up; those given up stay so. -/
theorem evicted_step {move : Move ρ ε α} {c : Nat} (h : Inv s)
    (hstep : step finish s move = some t) (hc : c ∈ s.evicted) :
    c ∈ t.evicted ∧ ∀ i, t.phase i = .asking c → s.phase i = .asking c := by
  have hother : ∀ {call : Nat} {phase : Phase ρ ε α}, phase ≠ .asking c →
      ∀ i, (s.goto call phase).phase i = .asking c → s.phase i = .asking c := by
    intro call phase hne i hi
    by_cases hcall : i = call
    · subst hcall
      exact absurd (by simpa using hi) hne
    · simpa [hcall] using hi
  cases stepped hstep with
  | foundKept hidle hconn =>
      refine ⟨hc, hother ?_⟩
      rintro ⟨⟩
      exact h.cached_good _ hconn hc
  | cleared hclearing => exact ⟨List.mem_cons_of_mem _ hc, hother nofun⟩
  | _ => exact ⟨hc, hother nofun⟩

/-- **A connection that a call has given up is out of use**: it is never kept again, and no later
call is put on it. -/
theorem run_evicted {moves : List (Move ρ ε α)} {c : Nat} (h : Inv s)
    (hrun : run (step finish) s moves = some t) (hc : c ∈ s.evicted) :
    t.cached ≠ some c ∧ ∀ i, t.phase i = .asking c → s.phase i = .asking c := by
  have hend : (Inv t ∧ c ∈ t.evicted) ∧
      ∀ i, t.phase i = .asking c → s.phase i = .asking c := by
    have hstep : ∀ u move u', ((Inv u ∧ c ∈ u.evicted) ∧
        ∀ i, u.phase i = .asking c → s.phase i = .asking c) → step finish u move = some u' →
        (Inv u' ∧ c ∈ u'.evicted) ∧ ∀ i, u'.phase i = .asking c → s.phase i = .asking c := by
      intro u move u' ⟨⟨hu, hmem⟩, hold⟩ hmove
      obtain ⟨hmem', hback⟩ := evicted_step hu hmove hmem
      exact ⟨⟨inv_step hu hmove, hmem'⟩, fun i hi => hold i (hback i hi)⟩
    exact run_invariant hstep hrun ⟨⟨h, hc⟩, fun _ => id⟩
  exact ⟨fun hcached => hend.1.1.cached_good c hcached hend.1.2, hend.2⟩

end Invariant

end DnsFilter.Reuse
