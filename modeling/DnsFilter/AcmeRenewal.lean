import DnsFilter.AcmeFlow
import DnsFilter.Durations
import DnsFilter.Lib.Trace
import DnsFilter.X509
import Mathlib.Order.Monotone.Basic

/-!
# Renewing the certificate

What the server does with its certificate over time (`acme/mod.rs`): at startup it loads the pair on
disk or obtains a new one (`obtain_or_load_certificate`), and from then on a task wakes up every
twelve hours and obtains a new one when the one it serves is about to expire (`spawn_renewal_task`).
After a failure the task waits; the wait doubles with each failure in a row, up to a day.

Time is in seconds since the epoch. How late the task wakes up, how long an attempt takes and what
comes of it is given by the `Round`.

* `backoff_eq` — the wait after so many failures in a row.
* `certificate_outlives_failures` — how many failures in a row a certificate survives.
* `attempts_are_rare` — how often the ACME server is asked at most.
-/

namespace DnsFilter.Acme

open Machine X509

/-! ## Certificates -/

/-- A certificate chain and its key, as they were parsed, and the first certificate of the chain. -/
structure CertifiedKey where
  chain : String
  key : String
  der : Slice

/-- `cert_time_remaining`. An instant in the past leaves nothing. -/
def certTimeRemaining (now : Nat) (certifiedKey : CertifiedKey) : Checked Nat := do
  let expiry ← parseX509NotAfter certifiedKey.der
  if now ≤ expiry then .ok (expiry - now) else .error .absent

/-- Whether a certificate is due; where its expiry is unknown it is, "to be safe". The parser may
panic. -/
def needsRenewal (renewal now : Nat) (certifiedKey : CertifiedKey) : Checked Bool :=
  match certTimeRemaining now certifiedKey with
  | .ok remaining => .ok (decide (remaining ≤ renewal))
  | .error .absent => .ok true
  | .error .overflow => .error .overflow

/-- The certificate expires at this time. -/
def CertifiedKey.ExpiresAt (certifiedKey : CertifiedKey) (expiry : Nat) : Prop :=
  parseX509NotAfter certifiedKey.der = .ok expiry

theorem needsRenewal_eq {renewal now expiry : Nat} {certifiedKey : CertifiedKey}
    (h : certifiedKey.ExpiresAt expiry) :
    needsRenewal renewal now certifiedKey = .ok (decide (expiry ≤ now + renewal)) := by
  have hremaining : certTimeRemaining now certifiedKey =
      if now ≤ expiry then .ok (expiry - now) else .error .absent := by
    rw [certTimeRemaining, h]
    rfl
  rw [needsRenewal, hremaining]
  by_cases hnow : now ≤ expiry
  · rw [if_pos hnow]
    refine congrArg Except.ok (decide_eq_decide.2 ?_)
    omega
  · rw [if_neg hnow]
    refine congrArg Except.ok (decide_eq_true ?_).symm
    omega

/-! ## The task -/

/-- What happens in one round of the loop: how long the task slept, what the answers are if it runs
the flow and how long that takes, and how long it waited if the flow failed. -/
structure Round where
  slept : Nat
  answers : Answers
  flowTime : Nat
  waited : Nat

/-- The state of the task when it goes to sleep. `failures`, which nothing reads, counts the
failures in a row. -/
structure Renewal where
  now : Nat
  backoff : Nat
  served : CertifiedKey
  failures : Nat

/-- The pause between two checks. -/
def checkInterval : Nat := 12 * 3600

def initialBackoff : Nat := 3600

def maxBackoff : Nat := 24 * 3600

/-- `renewal_duration` of the task; an invalid text counts as thirty days. -/
def renewalDuration (renewBeforeExpiry : String) : Nat :=
  match parseDuration renewBeforeExpiry with
  | .ok renewal => renewal
  | .error _ => 30 * 86400

/-- `loadPem` is `load_certified_key_from_pem`: the first certificate of the chain, if both texts
parse. `renewal` is how long before its expiry a certificate is renewed. -/
structure Setup where
  loadPem : String → String → Except AcmeError Slice
  domains : List String
  renewal : Nat

namespace Setup

variable (setup : Setup)

/-- `run_acme_flow` with what it leaves in the resolver: the pair it has obtained, once that is
written to disk and parsed. -/
def obtain (answers : Answers) : Except AcmeError CertifiedKey := do
  (runAcmeFlow setup.domains { answers with saved := .ok (), loaded := .ok () }).2
  let key ← answers.finalized.mapError .protocol
  let chain ← answers.certificate.mapError .protocol
  answers.saved
  let der ← setup.loadPem chain key
  return ⟨chain, key, der⟩

/-- One round; `none` if it wakes up too early, or the task panics. -/
def step (s : Renewal) (round : Round) : Option Renewal :=
  let checked := s.now + round.slept
  if round.slept < checkInterval then none
  else
    match needsRenewal setup.renewal checked s.served with
    | .error _ => none
    | .ok false => some { s with now := checked, backoff := initialBackoff, failures := 0 }
    | .ok true =>
        match setup.obtain round.answers with
        | .ok certifiedKey =>
            some {
              now := checked + round.flowTime
              backoff := initialBackoff
              served := certifiedKey
              failures := 0 }
        | .error _ =>
            if round.waited < s.backoff then none
            else
              some { s with
                now := checked + round.flowTime + round.waited
                backoff := min (s.backoff * 2) maxBackoff
                failures := s.failures + 1 }

/-- `obtain_or_load_certificate`, with the pair on disk, if there is one, and what the resolver
serves afterwards. An invalid `renew_before_expiry` is an error here. -/
def obtainOrLoad (renewBeforeExpiry : String) (now : Nat) (disk : Option (String × String))
    (answers : Answers) : Checked (Except AcmeError CertifiedKey) :=
  match disk with
  | none => .ok (setup.obtain answers)
  | some (chain, key) =>
      match setup.loadPem chain key with
      | .error _ => .ok (setup.obtain answers)
      | .ok der =>
          match parseDuration renewBeforeExpiry with
          | .error e => .ok (.error (.config e))
          | .ok renewal =>
              match certTimeRemaining now ⟨chain, key, der⟩ with
              | .ok remaining =>
                  if renewal < remaining then .ok (.ok ⟨chain, key, der⟩)
                  else .ok (setup.obtain answers)
              | .error .absent => .ok (setup.obtain answers)
              | .error .overflow => .error .overflow

end Setup

/-! ## One round -/

/-- The steps of the task, one constructor for each way a round can go. -/
inductive Stepped (setup : Setup) (s : Renewal) (round : Round) : Renewal → Prop
  | healthy (hslept : checkInterval ≤ round.slept)
      (hcheck : needsRenewal setup.renewal (s.now + round.slept) s.served = .ok false) :
      Stepped setup s round
        { s with now := s.now + round.slept, backoff := initialBackoff, failures := 0 }
  | renewed {certifiedKey : CertifiedKey} (hslept : checkInterval ≤ round.slept)
      (hobtain : setup.obtain round.answers = .ok certifiedKey) :
      Stepped setup s round
        { now := s.now + round.slept + round.flowTime
          backoff := initialBackoff
          served := certifiedKey
          failures := 0 }
  | failed {error : AcmeError} (hslept : checkInterval ≤ round.slept)
      (hobtain : setup.obtain round.answers = .error error) (hwaited : s.backoff ≤ round.waited) :
      Stepped setup s round
        { s with
          now := s.now + round.slept + round.flowTime + round.waited
          backoff := min (s.backoff * 2) maxBackoff
          failures := s.failures + 1 }

variable {setup : Setup}

theorem stepped {s s' : Renewal} {round : Round} (h : setup.step s round = some s') :
    Stepped setup s round s' := by
  simp only [Setup.step] at h
  split at h
  · cases h
  · rename_i hslept
    split at h
    · cases h
    · rename_i hcheck
      exact Option.some.inj h ▸ .healthy (Nat.not_lt.1 hslept) hcheck
    · split at h
      · rename_i certifiedKey hobtain
        exact Option.some.inj h ▸ .renewed (Nat.not_lt.1 hslept) hobtain
      · rename_i error hobtain
        split at h
        · cases h
        · rename_i hwaited
          exact Option.some.inj h ▸ .failed (Nat.not_lt.1 hslept) hobtain (Nat.not_lt.1 hwaited)

/-! ## The wait -/

/-- The wait after `n` failures in a row. -/
def backoffAfter (n : Nat) : Nat := min (initialBackoff * 2 ^ n) maxBackoff

theorem backoffAfter_succ (n : Nat) :
    backoffAfter (n + 1) = min (backoffAfter n * 2) maxBackoff := by
  rw [backoffAfter, backoffAfter, Nat.pow_succ, ← Nat.mul_assoc]
  omega

theorem backoff_step {s s' : Renewal} {round : Round} (h : setup.step s round = some s')
    (hs : s.backoff = backoffAfter s.failures) : s'.backoff = backoffAfter s'.failures := by
  cases stepped h with
  | healthy => rfl
  | renewed => rfl
  | failed =>
      show min (s.backoff * 2) maxBackoff = backoffAfter (s.failures + 1)
      rw [hs, backoffAfter_succ]

/-- The wait is determined by the failures in a row, in every state of a run. -/
theorem backoff_eq {s t : Renewal} {rounds : List Round} (hrun : run setup.step s rounds = some t)
    (hs : s.backoff = backoffAfter s.failures) : t.backoff = backoffAfter t.failures :=
  run_invariant (fun _ _ _ hs h => backoff_step h hs) hrun hs

/-! ## How long a certificate lasts -/

/-- What the waits after `n` failures in a row add up to. -/
def waits : Nat → Nat
  | 0 => 0
  | n + 1 => waits n + backoffAfter n

/-- What passes between the last check that found the certificate healthy and the end of the wait
after the `n`-th failure in a row, if each round takes at most `slack` more than it has to. -/
def spent (slack n : Nat) : Nat := n * (checkInterval + slack) + waits n

theorem spent_zero (slack : Nat) : spent slack 0 = 0 := by
  rw [spent, Nat.zero_mul]
  rfl

theorem spent_succ (slack n : Nat) :
    spent slack (n + 1) = spent slack n + (checkInterval + slack) + backoffAfter n := by
  rw [spent, spent, waits, Nat.succ_mul]
  omega

theorem spent_mono (slack : Nat) : Monotone (spent slack) := by
  refine monotone_nat_of_le_succ fun n => ?_
  rw [spent_succ]
  omega

/-- The round does not take longer than it has to by more than `slack`, and a certificate it obtains
is issued for longer than it is renewed ahead of time. -/
structure Timely (setup : Setup) (slack : Nat) (s : Renewal) (round : Round) : Prop where
  slept : round.slept + round.flowTime ≤ checkInterval + slack
  waited : round.slept + round.flowTime + round.waited ≤ checkInterval + slack + s.backoff
  issued : ∀ certifiedKey, setup.obtain round.answers = .ok certifiedKey →
    ∃ expiry, certifiedKey.ExpiresAt expiry ∧
      s.now + round.slept + round.flowTime + setup.renewal < expiry

/-- The certificate has as much time left as the failures in a row leave of what it is renewed ahead
of time. -/
structure Lasting (setup : Setup) (slack : Nat) (s : Renewal) : Prop where
  backoff : s.backoff = backoffAfter s.failures
  left : ∃ expiry, s.served.ExpiresAt expiry ∧
    s.now + setup.renewal < expiry + spent slack s.failures

theorem lasting_step {slack : Nat} {s s' : Renewal} {round : Round} (hs : Lasting setup slack s)
    (htimely : Timely setup slack s round) (h : setup.step s round = some s') :
    Lasting setup slack s' := by
  refine ⟨backoff_step h hs.backoff, ?_⟩
  obtain ⟨expiry, hexpiry, hleft⟩ := hs.left
  cases stepped h with
  | healthy hslept hcheck =>
      -- the check itself says what is left
      rw [needsRenewal_eq hexpiry, Except.ok.injEq, decide_eq_false_iff_not, Nat.not_le] at hcheck
      refine ⟨expiry, hexpiry, ?_⟩
      rw [spent_zero]
      exact hcheck
  | renewed hslept hobtain =>
      rw [spent_zero]
      exact htimely.issued _ hobtain
  | failed hslept hobtain hwaited =>
      refine ⟨expiry, hexpiry, ?_⟩
      have hwait := htimely.waited
      rw [hs.backoff] at hwait
      show s.now + round.slept + round.flowTime + round.waited + setup.renewal <
        expiry + spent slack (s.failures + 1)
      rw [spent_succ]
      omega

/-- Startup leaves a certificate that is not due yet, be it loaded or obtained. -/
theorem expiry_of_obtainOrLoad {renewBeforeExpiry : String} {now : Nat}
    {disk : Option (String × String)} {answers : Answers} {served : CertifiedKey}
    (h : setup.obtainOrLoad renewBeforeExpiry now disk answers = .ok (.ok served))
    (hrenewal : setup.renewal = renewalDuration renewBeforeExpiry)
    (hissued : ∀ certifiedKey, setup.obtain answers = .ok certifiedKey →
      ∃ expiry, certifiedKey.ExpiresAt expiry ∧ now + setup.renewal < expiry) :
    ∃ expiry, served.ExpiresAt expiry ∧ now + setup.renewal < expiry := by
  have hobtained : (.ok (setup.obtain answers) : Checked (Except AcmeError CertifiedKey)) =
      .ok (.ok served) → ∃ expiry, served.ExpiresAt expiry ∧ now + setup.renewal < expiry :=
    fun h => hissued served (Except.ok.inj h)
  unfold Setup.obtainOrLoad at h
  split at h
  · exact hobtained h
  · rename_i chain key
    split at h
    · exact hobtained h
    · rename_i der hload
      cases hparse : parseDuration renewBeforeExpiry with
      | error e =>
          rw [hparse] at h
          cases Except.ok.inj h
      | ok renewal =>
          have hsame : setup.renewal = renewal := by rw [hrenewal, renewalDuration, hparse]
          rw [hparse] at h
          dsimp only at h
          split at h
          · rename_i remaining hremaining
            split at h
            · rename_i hlt
              obtain rfl := Except.ok.inj (Except.ok.inj h)
              obtain ⟨expiry, hexpiry, hleft⟩ := bind_eq_ok.1 hremaining
              refine ⟨expiry, hexpiry, ?_⟩
              split at hleft
              · obtain rfl := Except.ok.inj hleft
                omega
              · cases hleft
            · exact hobtained h
          · exact hobtained h
          · cases h

/-- The task begins with what startup has loaded or obtained. -/
structure Started (setup : Setup) (renewBeforeExpiry : String) (disk : Option (String × String))
    (answers : Answers) (start : Renewal) : Prop where
  served : setup.obtainOrLoad renewBeforeExpiry start.now disk answers = .ok (.ok start.served)
  renewal : setup.renewal = renewalDuration renewBeforeExpiry
  issued : ∀ certifiedKey, setup.obtain answers = .ok certifiedKey →
    ∃ expiry, certifiedKey.ExpiresAt expiry ∧ start.now + setup.renewal < expiry
  backoff : start.backoff = initialBackoff
  failures : start.failures = 0

/-- **A certificate outlives failures in a row.** If the certificates are renewed far enough ahead
of time for `k` failures in a row, and no more than that happen, then in every state of every run
from startup on the one that is served lasts longer than until the next check and the attempt that
follows it; and the task goes on. Each round takes at most `slack` longer than it has to, and the
certificates that are issued are not due at once. -/
theorem certificate_outlives_failures (setup : Setup) (slack k : Nat)
    (hahead : spent slack k + checkInterval + slack ≤ setup.renewal) {renewBeforeExpiry : String}
    {disk : Option (String × String)} {answers : Answers} {start : Renewal}
    (hstart : Started setup renewBeforeExpiry disk answers start)
    {rounds : List Round} {t : Renewal} (hrun : run setup.step start rounds = some t)
    (htimely : AllSteps setup.step (Timely setup slack) start rounds)
    (hk : t.failures ≤ k) :
    (∃ expiry, t.served.ExpiresAt expiry ∧ t.now + checkInterval + slack < expiry) ∧
      ∀ round, checkInterval ≤ round.slept → t.backoff ≤ round.waited →
        (setup.step t round).isSome = true := by
  have hlasting : Lasting setup slack start := by
    refine ⟨?_, ?_⟩
    · rw [hstart.backoff, hstart.failures]
      rfl
    · rw [hstart.failures, spent_zero]
      exact expiry_of_obtainOrLoad hstart.served hstart.renewal hstart.issued
  obtain ⟨hwait, expiry, hexpiry, hleft⟩ :=
    run_invariant_of_allSteps (fun _ _ _ hs htimely h => lasting_step hs htimely h) hrun htimely
      hlasting
  have hspent : spent slack t.failures ≤ spent slack k := spent_mono slack hk
  refine ⟨⟨expiry, hexpiry, by omega⟩, ?_⟩
  intro round hslept hwaited
  simp only [Setup.step, needsRenewal_eq hexpiry, if_neg (Nat.not_lt.2 hslept)]
  cases decide (expiry ≤ t.now + round.slept + setup.renewal) with
  | false => rfl
  | true =>
      cases setup.obtain round.answers with
      | ok certifiedKey => rfl
      | error e => simp [Nat.not_lt.2 hwaited]

/-- A certificate that expires at the given UTC time; the rest of it is as short as it can be. -/
def certificateUntil (utcTime : String) (h : utcTime.toUTF8.toList.length = 13) : Slice where
  bytes := [0x30, 0x29, 0x30, 0x27, 0x02, 0x01, 0x01, 0x30, 0x00, 0x30, 0x00, 0x30, 0x1E, 0x17,
    0x0D] ++ "250101000000Z".toUTF8.toList ++ [0x17, 0x0D] ++ utcTime.toUTF8.toList
  length_lt := by
    rw [List.length_append, h]
    decide +kernel

def until2026 : Slice := certificateUntil "260101000000Z" (by decide +kernel)

def until2027 : Slice := certificateUntil "270101000000Z" (by decide +kernel)

/-- Thirty days ahead; the pair issued to `oneDomain` expires in 2027, the one on disk in 2026. -/
def monthAhead : Setup where
  loadPem chain _ := .ok (if chain = "old chain" then until2026 else until2027)
  domains := ["dns.example.com"]
  renewal := renewalDuration "30d"

/-- Thirty days and eighteen hours before the certificate expires. -/
def beforeRenewal : Renewal where
  now := 1767225600 - 30 * 86400 - 18 * 3600
  backoff := initialBackoff
  served := ⟨"old chain", "old key", until2026⟩
  failures := 0

/-- The certificate is healthy, then an attempt fails. -/
def oneFailure : List Round :=
  [⟨43200, oneDomain, 0, 0⟩,
    ⟨43200, { oneDomain with account := .error (.io "connection refused") }, 10, 3600⟩]

/-- After the failure the certificate lasts until the next attempt is done. -/
theorem certificate_outlives_failures_one :
    ∃ t, run monthAhead.step beforeRenewal oneFailure = some t ∧ t.failures = 1 ∧
      ((∃ expiry, t.served.ExpiresAt expiry ∧ t.now + checkInterval + 60 < expiry) ∧
        ∀ round, checkInterval ≤ round.slept → t.backoff ≤ round.waited →
          (monthAhead.step t round).isSome = true) := by
  have hissued : CertifiedKey.ExpiresAt ⟨"chain", "key", until2027⟩ 1798761600 := by
    unfold CertifiedKey.ExpiresAt
    decide +kernel
  have hany : (run monthAhead.step beforeRenewal oneFailure).any (·.failures == 1) = true := by
    decide +kernel
  obtain ⟨t, hrun, htest⟩ := exists_run_of_any hany
  have hfailures : t.failures = 1 := beq_iff_eq.1 htest
  have hstart : Started monthAhead "30d" (some ("old chain", "old key")) oneDomain
      beforeRenewal := by
    refine ⟨?_, rfl, ?_, rfl, rfl⟩
    · have hload : monthAhead.loadPem "old chain" "old key" = .ok until2026 := rfl
      have hparse : parseDuration "30d" = .ok 2592000 := by decide +kernel
      have hremaining : certTimeRemaining beforeRenewal.now beforeRenewal.served = .ok 2656800 := by
        decide +kernel
      simp only [Setup.obtainOrLoad, hload, hparse]
      rw [show (⟨"old chain", "old key", until2026⟩ : CertifiedKey) = beforeRenewal.served from rfl,
        hremaining]
      rfl
    · intro certifiedKey hobtain
      obtain rfl := Except.ok.inj hobtain
      exact ⟨1798761600, hissued, by decide +kernel⟩
  have htimely : AllSteps monthAhead.step (Timely monthAhead 60) beforeRenewal oneFailure := by
    refine ⟨⟨by decide +kernel, by decide +kernel, ?_⟩, fun s' hs' => ⟨⟨by decide +kernel, ?_, ?_⟩,
      fun _ _ => trivial⟩⟩
    · intro certifiedKey hobtain
      obtain rfl := Except.ok.inj hobtain
      exact ⟨1798761600, hissued, by decide +kernel⟩
    · have hbackoff : (monthAhead.step beforeRenewal ⟨43200, oneDomain, 0, 0⟩).map (·.backoff) =
          some 3600 := by decide +kernel
      rw [hs', Option.map_some, Option.some.injEq] at hbackoff
      rw [hbackoff]
      decide
    · intro certifiedKey hobtain
      cases hobtain
  exact ⟨t, hrun, hfailures, certificate_outlives_failures monthAhead 60 20 (by decide +kernel)
    hstart hrun htimely (by omega)⟩

/-! ## How often the server is asked -/

theorem now_step {s s' : Renewal} {round : Round} (h : setup.step s round = some s')
    (hs : s.backoff = backoffAfter s.failures) :
    s.now + checkInterval + waits s'.failures ≤ s'.now + waits s.failures := by
  cases stepped h with
  | healthy hslept =>
      simp only [waits]
      omega
  | renewed hslept =>
      simp only [waits]
      omega
  | failed hslept hobtain hwaited =>
      rw [hs] at hwaited
      simp only [waits]
      omega

/-- A round that fails waits as long as the failures in a row before it say. -/
theorem waited_of_failed {s s' : Renewal} {round : Round} (h : setup.step s round = some s')
    (hs : s.backoff = backoffAfter s.failures) (hfailed : s'.failures ≠ 0) :
    s'.failures = s.failures + 1 ∧ backoffAfter s.failures ≤ round.waited ∧
      s.now + checkInterval + round.waited ≤ s'.now := by
  cases stepped h with
  | healthy => exact absurd rfl hfailed
  | renewed => exact absurd rfl hfailed
  | failed hslept hobtain hwaited =>
      refine ⟨rfl, hs ▸ hwaited, ?_⟩
      show s.now + checkInterval + round.waited ≤
        s.now + round.slept + round.flowTime + round.waited
      omega

/-- **The ACME server is not asked often.** A run of so many rounds, each of which places at most one
order, takes at least twelve hours for each of them, and on top of that all the waits of the
failures in a row at its end. The round that is the `n + 1`-st failure in a row waits for an hour
times `2 ^ n`, but at most a day, before the pause that follows every round. -/
theorem attempts_are_rare {start t : Renewal} (hbackoff : start.backoff = initialBackoff)
    (hfailures : start.failures = 0) {rounds : List Round}
    (hrun : run setup.step start rounds = some t) :
    start.now + rounds.length * checkInterval + waits t.failures ≤ t.now ∧
      ∀ pre round post before after n, rounds = pre ++ round :: post →
        run setup.step start pre = some before → setup.step before round = some after →
          after.failures = n + 1 →
            min (3600 * 2 ^ n) 86400 ≤ round.waited ∧
              before.now + checkInterval + round.waited ≤ after.now := by
  have hstart : start.backoff = backoffAfter start.failures := by
    rw [hbackoff, hfailures]
    rfl
  constructor
  · have hgeneral : ∀ (rounds : List Round) (s : Renewal), s.backoff = backoffAfter s.failures →
        run setup.step s rounds = some t →
        s.now + rounds.length * checkInterval + waits t.failures ≤ t.now + waits s.failures := by
      intro rounds
      induction rounds with
      | nil =>
          intro s _ hrun
          rw [run_nil, Option.some.injEq] at hrun
          rw [hrun]
          simp
      | cons round rounds ih =>
          intro s hs hrun
          obtain ⟨s', hstep, hrest⟩ := run_cons_eq_some.1 hrun
          have hfirst := now_step hstep hs
          have hnext := ih s' (backoff_step hstep hs) hrest
          rw [List.length_cons, Nat.succ_mul]
          omega
    have hle := hgeneral rounds start hstart hrun
    rw [hfailures] at hle
    exact hle
  · intro pre round post before after n _ hpre hround hn
    obtain ⟨hfailed, hwaited, htime⟩ :=
      waited_of_failed hround (backoff_eq hpre hstart) (by rw [hn]; exact Nat.succ_ne_zero n)
    obtain rfl : before.failures = n := by omega
    exact ⟨hwaited, htime⟩

/-- Two rounds later, the second of which failed and waited for an hour. -/
theorem attempts_are_rare_one :
    ∃ t, run monthAhead.step beforeRenewal oneFailure = some t ∧ t.failures = 1 ∧
      beforeRenewal.now + oneFailure.length * checkInterval + waits t.failures ≤ t.now ∧
      ∀ pre round post before after n, oneFailure = pre ++ round :: post →
        run monthAhead.step beforeRenewal pre = some before →
          monthAhead.step before round = some after → after.failures = n + 1 →
            min (3600 * 2 ^ n) 86400 ≤ round.waited ∧
              before.now + checkInterval + round.waited ≤ after.now := by
  have hany : (run monthAhead.step beforeRenewal oneFailure).any (·.failures == 1) = true := by
    decide +kernel
  obtain ⟨t, hrun, htest⟩ := exists_run_of_any hany
  exact ⟨t, hrun, beq_iff_eq.1 htest, attempts_are_rare rfl rfl hrun⟩

end DnsFilter.Acme
