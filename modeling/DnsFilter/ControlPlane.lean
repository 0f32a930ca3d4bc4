import DnsFilter.Lib.Json
import DnsFilter.Lib.Text
import DnsFilter.Lib.Trace
import DnsFilter.Reload

/-!
# The control plane

How a running daemon is told to reload its configuration and to stop: SIGHUP, SIGTERM and SIGINT
(`signal_handler.rs`), the control socket (`control_socket.rs`), the API, and the tasks that `main.rs`
runs between them.

A SIGHUP goes through a task and a channel of its own before it reaches the reload channel; signals
that arrive before the task has taken the previous one are one signal. The control socket serves one
connection at a time. A connection has five seconds; whatever it is doing then is dropped.

* `ControlPlane.step` — the atomic steps of all these tasks.
* `reloads_follow_requests` — each request for a reload is followed by a reload, and each reload has
  been requested.
* `control_socket_stops` — when the control socket stops serving, and what happens afterwards.
-/

namespace DnsFilter

open Text

/-! ## One connection -/

/-- A response of the control socket. -/
structure ControlResponse where
  status : String
  message : Option String
  data : Option Json

namespace ControlResponse

def okWithMessage (msg : String) : ControlResponse := ⟨"ok", some msg, none⟩

def okWithData (data : Json) : ControlResponse := ⟨"ok", none, some data⟩

def error (msg : String) : ControlResponse := ⟨"error", some msg, none⟩

end ControlResponse

/-- The longest message the control socket accepts, in bytes. -/
def maxMessageBytes : Nat := 1024

/-- The command of a `ControlRequest`. A document is an object with exactly one string field
`command`, among any others, or an array of just the command. -/
def controlRequest : Json → Option String
  | .object fields =>
      match fields.filter (·.1 = "command") with
      | [(_, .string command)] => some command
      | _ => none
  | .array [.string command] => some command
  | _ => none

/-- What `read_line` gives on a connection. -/
inductive ReadOutcome
  /-- The bytes up to and including the first newline, or up to the end. -/
  | line (text : String)
  /-- An I/O error, or bytes that are not UTF-8. -/
  | failed

/-- What a connection does with what it has read. -/
inductive ControlDispatch
  /-- It is closed without a response. -/
  | close
  /-- It sends on the reload channel. -/
  | reload
  /-- It cancels the shutdown token. -/
  | stop
  | respond (response : ControlResponse)

section Connection

variable (parseJson : String → Option Json)

/-- `handle_connection` up to its effects. `status` is what the status provider gives, if there is
one. -/
def dispatch (status : Option Json) : ReadOutcome → ControlDispatch
  | .failed => .close
  | .line text =>
      if text.utf8ByteSize = 0 then .close
      else if maxMessageBytes < text.utf8ByteSize then .respond (.error "message too large")
      else
        match (parseJson (trim text)).bind controlRequest with
        -- invalid control message JSON
        | none => .close
        | some command =>
            if command = "reload" then .reload
            else if command = "stop" then .stop
            else if command = "status" then
              .respond <| match status with
                | some data => .okWithData data
                | none => .error "status unavailable in this build"
            else .respond (.error ("unknown command: " ++ command))

/-- A client asks for `command` with this line (`control_client.rs`, `send_command`). -/
def requestLine (command : String) : String := "\x7b\"command\":\"" ++ command ++ "\"\x7d\n"

end Connection

/-! ## The system -/

/-- What polling `accept` gives. -/
inductive AcceptOutcome
  | connection
  | failed
  /-- No client is waiting. -/
  | pending

/-- Where the accept loop of the control socket stands. -/
inductive ServerPhase
  /-- Before the shutdown token is looked at. -/
  | accepting
  /-- The token was not cancelled; `accept` is polled next. -/
  | polling
  | reading
  /-- Waiting for room in the reload channel. -/
  | sending
  | responding (response : ControlResponse) (shouldStop : Bool)
  /-- The loop has ended; the socket file is about to be removed. -/
  | leaving
  | exited

/-- The shutdown token, the way of a SIGHUP (`hangup`: the operating system holds one; `relaying`:
the signal task does; `hangups`: messages in its channel; `forwarding`: the task of `main.rs` does),
the reload channel and the reload task, and the control socket. -/
structure ControlPlane where
  cancelled : Bool := false
  hangup : Bool := false
  relaying : Bool := false
  hangups : Nat := 0
  forwarding : Bool := false
  channel : Nat := 0
  /-- The reload task has panicked and its end of the channel is gone. -/
  closed : Bool := false
  reloading : Bool := false
  server : ServerPhase := .accepting
  socketFile : Bool := true

/-- The atomic steps. -/
inductive ControlStep
  /-- SIGTERM or SIGINT. -/
  | terminate
  /-- SIGHUP. -/
  | hangup
  /-- The signal task takes the signal. -/
  | takeHangup
  /-- Its message gets into its channel. -/
  | relayHangup
  /-- The task of `main.rs` receives it. -/
  | receiveHangup
  /-- Its message gets into the reload channel. -/
  | forwardHangup
  /-- A message of the API gets into the reload channel. -/
  | apiReload
  | startReload
  | finishReload
  | panicReload
  /-- The accept loop sees that the shutdown token is not cancelled. -/
  | proceed
  | accept (outcome : AcceptOutcome)
  | read (outcome : ReadOutcome) (status : Option Json)
  /-- The message of a connection gets into the reload channel, or is refused. -/
  | send
  /-- The response is written, or fails to be. -/
  | respond
  | timeout
  /-- The accept loop sees that the shutdown token is cancelled. -/
  | notice
  | cleanup (removed : Bool)

/-- The bound of the channel of the signal task. -/
def hangupChannelCapacity : Nat := 1

namespace ControlPlane

/-- A message is put into the reload channel: this waits while it is full, and a closed channel
refuses it. -/
def offer (s : ControlPlane) : Option ControlPlane :=
  if s.closed then some s
  else if s.channel < reloadChannelCapacity then some { s with channel := s.channel + 1 }
  else none

section Steps

variable (parseJson : String → Option Json)

/-- The steps of the tasks on the way of a SIGHUP. -/
def signalStep (s : ControlPlane) : ControlStep → Option ControlPlane
  | .hangup => some { s with hangup := true }
  | .takeHangup =>
      if s.hangup && !s.relaying then some { s with hangup := false, relaying := true } else none
  | .relayHangup =>
      if s.relaying ∧ s.hangups < hangupChannelCapacity then
        some { s with relaying := false, hangups := s.hangups + 1 }
      else none
  | .receiveHangup =>
      if 0 < s.hangups ∧ s.forwarding = false then
        some { s with hangups := s.hangups - 1, forwarding := true }
      else none
  | .forwardHangup => if s.forwarding then offer { s with forwarding := false } else none
  | _ => none

/-- The steps of the accept loop and the connection it serves. -/
def serverStep (s : ControlPlane) (l : ControlStep) : Option ControlPlane :=
  match s.server, l with
  -- `select!` polls the shutdown token first, and `accept` after that
  | .accepting, .notice => if s.cancelled then some { s with server := .leaving } else none
  | .accepting, .proceed => if s.cancelled then none else some { s with server := .polling }
  | .polling, .accept .connection => some { s with server := .reading }
  | .polling, .accept .failed | .polling, .accept .pending =>
      some { s with server := .accepting }
  | .reading, .read outcome status =>
      some <| match dispatch parseJson status outcome with
        | .close => { s with server := .accepting }
        | .reload => { s with server := .sending }
        | .stop =>
            { s with
              cancelled := true
              server := .responding (.okWithMessage "shutdown initiated") true }
        | .respond response => { s with server := .responding response false }
  | .sending, .send =>
      (offer s).map fun s =>
        let response : ControlResponse :=
          if s.closed then .error "reload channel closed" else .okWithMessage "reload triggered"
        { s with server := .responding response false }
  | .responding _ shouldStop, .respond =>
      some { s with server := if shouldStop then .leaving else .accepting }
  | .reading, .timeout | .sending, .timeout | .responding _ _, .timeout =>
      some { s with server := .accepting }
  | .leaving, .cleanup removed =>
      some { s with server := .exited, socketFile := s.socketFile && !removed }
  | _, _ => none

/-- One atomic step; `none` if it cannot happen in this state. -/
def step (s : ControlPlane) : ControlStep → Option ControlPlane
  | .terminate => some { s with cancelled := true }
  | .apiReload => if s.closed then none else offer s
  | .startReload =>
      if s.reloading = false ∧ s.closed = false ∧ 0 < s.channel then
        some { s with channel := s.channel - 1, reloading := true }
      else none
  | .finishReload => if s.reloading then some { s with reloading := false } else none
  | .panicReload =>
      if s.reloading then some { s with reloading := false, closed := true, channel := 0 } else none
  | .hangup => s.signalStep .hangup
  | .takeHangup => s.signalStep .takeHangup
  | .relayHangup => s.signalStep .relayHangup
  | .receiveHangup => s.signalStep .receiveHangup
  | .forwardHangup => s.signalStep .forwardHangup
  | l => s.serverStep parseJson l

end Steps

variable {parseJson : String → Option Json}

/-! ## What one step does -/

theorem offer_cases {s s' : ControlPlane} (h : s.offer = some s') :
    (s.closed = true ∧ s' = s) ∨
      (s.closed = false ∧ s.channel < reloadChannelCapacity ∧
        s' = { s with channel := s.channel + 1 }) := by
  rw [offer] at h
  cases hclosed : s.closed with
  | true =>
      rw [hclosed, if_pos rfl, Option.some.injEq] at h
      exact .inl ⟨rfl, h.symm⟩
  | false =>
      rw [hclosed, if_neg (by simp)] at h
      split at h
      · rename_i hroom
        exact .inr ⟨rfl, hroom, (Option.some.inj h).symm⟩
      · exact absurd h (by simp)

/-- The steps of the accept loop, one constructor for each way a step can go. -/
inductive ServerStepped (parseJson : String → Option Json) (s : ControlPlane) :
    ControlStep → ControlPlane → Prop
  | notice (hserver : s.server = .accepting) (hcancelled : s.cancelled = true) :
      ServerStepped parseJson s .notice { s with server := .leaving }
  | proceed (hserver : s.server = .accepting) (hcancelled : s.cancelled = false) :
      ServerStepped parseJson s .proceed { s with server := .polling }
  | accept (hserver : s.server = .polling) :
      ServerStepped parseJson s (.accept .connection) { s with server := .reading }
  | noConnection {outcome : AcceptOutcome} (hserver : s.server = .polling)
      (houtcome : outcome ≠ .connection) :
      ServerStepped parseJson s (.accept outcome) { s with server := .accepting }
  | close {outcome : ReadOutcome} {status : Option Json} (hserver : s.server = .reading)
      (hdispatch : dispatch parseJson status outcome = .close) :
      ServerStepped parseJson s (.read outcome status) { s with server := .accepting }
  | reload {outcome : ReadOutcome} {status : Option Json} (hserver : s.server = .reading)
      (hdispatch : dispatch parseJson status outcome = .reload) :
      ServerStepped parseJson s (.read outcome status) { s with server := .sending }
  | stop {outcome : ReadOutcome} {status : Option Json} (hserver : s.server = .reading)
      (hdispatch : dispatch parseJson status outcome = .stop) :
      ServerStepped parseJson s (.read outcome status)
        { s with
          cancelled := true
          server := .responding (.okWithMessage "shutdown initiated") true }
  | answer {outcome : ReadOutcome} {status : Option Json} {response : ControlResponse}
      (hserver : s.server = .reading)
      (hdispatch : dispatch parseJson status outcome = .respond response) :
      ServerStepped parseJson s (.read outcome status)
        { s with server := .responding response false }
  | send {offered : ControlPlane} {response : ControlResponse} (hserver : s.server = .sending)
      (hoffer : s.offer = some offered) :
      ServerStepped parseJson s .send { offered with server := .responding response false }
  | respond {response : ControlResponse} {shouldStop : Bool}
      (hserver : s.server = .responding response shouldStop) :
      ServerStepped parseJson s .respond
        { s with server := if shouldStop then .leaving else .accepting }
  | timeout (hserver : s.server ≠ .accepting ∧ s.server ≠ .leaving ∧ s.server ≠ .exited) :
      ServerStepped parseJson s .timeout { s with server := .accepting }
  | cleanup {removed : Bool} (hserver : s.server = .leaving) :
      ServerStepped parseJson s (.cleanup removed)
        { s with server := .exited, socketFile := s.socketFile && !removed }

theorem serverStepped {s s' : ControlPlane} {l : ControlStep}
    (h : s.serverStep parseJson l = some s') : ServerStepped parseJson s l s' := by
  unfold serverStep at h
  split at h
  · rename_i hserver
    split at h
    · rename_i hcancelled
      exact Option.some.inj h ▸ .notice hserver hcancelled
    · exact absurd h (by simp)
  · rename_i hserver
    split at h
    · exact absurd h (by simp)
    · rename_i hcancelled
      exact Option.some.inj h ▸ .proceed hserver (Bool.eq_false_iff.2 hcancelled)
  · rename_i hserver
    exact Option.some.inj h ▸ .accept hserver
  · rename_i hserver
    exact Option.some.inj h ▸ .noConnection hserver (by simp)
  · rename_i hserver
    exact Option.some.inj h ▸ .noConnection hserver (by simp)
  · rename_i outcome status hserver
    cases hdispatch : dispatch parseJson status outcome with
    | close =>
        rw [hdispatch] at h
        exact Option.some.inj h ▸ .close hserver hdispatch
    | reload =>
        rw [hdispatch] at h
        exact Option.some.inj h ▸ .reload hserver hdispatch
    | stop =>
        rw [hdispatch] at h
        exact Option.some.inj h ▸ .stop hserver hdispatch
    | respond response =>
        rw [hdispatch] at h
        exact Option.some.inj h ▸ .answer hserver hdispatch
  · rename_i hserver
    obtain ⟨offered, hoffer, rfl⟩ := Option.map_eq_some_iff.1 h
    exact .send hserver hoffer
  · rename_i response shouldStop hserver
    exact Option.some.inj h ▸ .respond hserver
  · rename_i hserver
    exact Option.some.inj h ▸ .timeout (by simp [hserver])
  · rename_i hserver
    exact Option.some.inj h ▸ .timeout (by simp [hserver])
  · rename_i hserver
    exact Option.some.inj h ▸ .timeout (by simp [hserver])
  · rename_i removed hserver
    exact Option.some.inj h ▸ .cleanup hserver
  · exact absurd h (by simp)

/-! ## Messages -/

end ControlPlane

/-- A label that asks for a reload. -/
def ControlStep.requests : ControlStep → Bool
  | .hangup | .apiReload | .send => true
  | _ => false

/-- A label that puts a message of its own into the reload channel. -/
def ControlStep.sends : ControlStep → Bool
  | .apiReload | .send => true
  | _ => false

/-- A connection of the control socket. -/
def ControlStep.accepts : ControlStep → Bool
  | .accept .connection => true
  | _ => false

/-- A message of the control socket. -/
def ControlStep.socketSends : ControlStep → Bool
  | .send => true
  | _ => false

def ControlStep.startsReload : ControlStep → Bool
  | .startReload => true
  | _ => false

namespace ControlPlane

/-- The messages on their way to the reload task. -/
def underWay (s : ControlPlane) : Nat :=
  s.hangup.toNat + s.relaying.toNat + s.hangups + s.forwarding.toNat + s.channel

theorem offer_underWay {s s' : ControlPlane} (h : s.offer = some s') (hopen : s'.closed = false) :
    s.closed = false ∧ s'.underWay = s.underWay + 1 := by
  rcases offer_cases h with ⟨hclosed, rfl⟩ | ⟨hclosed, -, rfl⟩
  · rw [hclosed] at hopen
    exact absurd hopen (by simp)
  · exact ⟨hclosed, by simp only [underWay]; omega⟩

/-- The accept loop brings one message in when a connection sends, and none otherwise. -/
theorem ServerStepped.underWay {s s' : ControlPlane} {l : ControlStep}
    (h : ServerStepped parseJson s l s') (hopen : s'.closed = false) :
    s.closed = false ∧ s'.underWay = s.underWay + l.socketSends.toNat := by
  cases h with
  | send hserver hoffer =>
      have heq := offer_underWay hoffer hopen
      exact heq
  | _ => exact ⟨hopen, rfl⟩

/-- On the way of a SIGHUP no message gets lost, and only the signal itself brings one in. -/
theorem signalStep_underWay {s s' : ControlPlane} {l : ControlStep} (h : s.signalStep l = some s')
    (hopen : s'.closed = false) :
    s.closed = false ∧ s.underWay ≤ s'.underWay ∧
      s'.underWay ≤ s.underWay + l.requests.toNat := by
  cases l with
  | hangup =>
      obtain rfl := Option.some.inj h
      refine ⟨hopen, ?_⟩
      have hle : s.hangup.toNat ≤ 1 := Bool.toNat_le s.hangup
      simp only [ControlPlane.underWay, ControlStep.requests, Bool.toNat_true]
      omega
  | takeHangup =>
      simp only [signalStep] at h
      split at h
      · rename_i hguard
        obtain rfl := Option.some.inj h
        rw [Bool.and_eq_true, Bool.not_eq_true'] at hguard
        refine ⟨hopen, ?_⟩
        simp [ControlPlane.underWay, hguard]
      · exact absurd h (by simp)
  | relayHangup =>
      simp only [signalStep] at h
      split at h
      · rename_i hguard
        obtain rfl := Option.some.inj h
        refine ⟨hopen, ?_⟩
        simp [ControlPlane.underWay, hguard.1]
        omega
      · exact absurd h (by simp)
  | receiveHangup =>
      simp only [signalStep] at h
      split at h
      · rename_i hguard
        obtain rfl := Option.some.inj h
        refine ⟨hopen, ?_⟩
        simp [ControlPlane.underWay, hguard.2]
        omega
      · exact absurd h (by simp)
  | forwardHangup =>
      simp only [signalStep] at h
      split at h
      · rename_i hguard
        obtain ⟨hclosed, heq⟩ := offer_underWay h hopen
        refine ⟨hclosed, ?_⟩
        rw [heq]
        simp [ControlPlane.underWay, hguard]
        omega
      · exact absurd h (by simp)
  | _ => exact absurd h (by simp [signalStep])

/-- **What one step does to the messages**, as long as the reload task lives: what starts a reload
takes one away, what sends brings one in, a signal brings in at most one. -/
theorem step_underWay {s s' : ControlPlane} {l : ControlStep} (h : s.step parseJson l = some s')
    (hopen : s'.closed = false) :
    s.closed = false ∧ s.underWay + l.sends.toNat ≤ s'.underWay + l.startsReload.toNat ∧
      s'.underWay + l.startsReload.toNat ≤ s.underWay + l.requests.toNat := by
  have hsignal : ∀ {l : ControlStep}, s.signalStep l = some s' → l.sends = false →
      l.startsReload = false →
      s.closed = false ∧ s.underWay + l.sends.toNat ≤ s'.underWay + l.startsReload.toNat ∧
        s'.underWay + l.startsReload.toNat ≤ s.underWay + l.requests.toNat := by
    intro l h hsends hstarts
    rw [hsends, hstarts]
    exact signalStep_underWay h hopen
  have hserver : ∀ {l : ControlStep}, s.serverStep parseJson l = some s' →
      l.sends = l.socketSends → l.requests = l.socketSends → l.startsReload = false →
      s.closed = false ∧ s.underWay + l.sends.toNat ≤ s'.underWay + l.startsReload.toNat ∧
        s'.underWay + l.startsReload.toNat ≤ s.underWay + l.requests.toNat := by
    intro l h hsends hrequests hstarts
    obtain ⟨hclosed, heq⟩ := (serverStepped h).underWay hopen
    rw [hsends, hrequests, hstarts, heq]
    exact ⟨hclosed, Nat.le_refl _, Nat.le_refl _⟩
  cases l with
  | terminate =>
      obtain rfl := Option.some.inj h
      exact ⟨hopen, Nat.le_refl _, Nat.le_refl _⟩
  | apiReload =>
      simp only [step] at h
      split at h
      · exact absurd h (by simp)
      · obtain ⟨hclosed, heq⟩ := offer_underWay h hopen
        exact ⟨hclosed, heq.ge, heq.le⟩
  | startReload =>
      simp only [step] at h
      split at h
      · rename_i hguard
        obtain rfl := Option.some.inj h
        refine ⟨hguard.2.1, ?_⟩
        simp only [ControlPlane.underWay, ControlStep.startsReload, ControlStep.sends,
          ControlStep.requests, Bool.toNat_true, Bool.toNat_false]
        omega
      · exact absurd h (by simp)
  | finishReload =>
      simp only [step] at h
      split at h
      · obtain rfl := Option.some.inj h
        exact ⟨hopen, Nat.le_refl _, Nat.le_refl _⟩
      · exact absurd h (by simp)
  | panicReload =>
      simp only [step] at h
      split at h
      · obtain rfl := Option.some.inj h
        exact absurd hopen (by simp)
      · exact absurd h (by simp)
  | hangup => exact hsignal h rfl rfl
  | takeHangup => exact hsignal h rfl rfl
  | relayHangup => exact hsignal h rfl rfl
  | receiveHangup => exact hsignal h rfl rfl
  | forwardHangup => exact hsignal h rfl rfl
  | notice => exact hserver h rfl rfl rfl
  | proceed => exact hserver h rfl rfl rfl
  | accept outcome => exact hserver h rfl rfl rfl
  | read outcome status => exact hserver h rfl rfl rfl
  | send => exact hserver h rfl rfl rfl
  | respond => exact hserver h rfl rfl rfl
  | timeout => exact hserver h rfl rfl rfl
  | cleanup removed => exact hserver h rfl rfl rfl

/-- After a request, a message is on its way. -/
theorem underWay_pos {s s' : ControlPlane} {l : ControlStep} (h : s.step parseJson l = some s')
    (hopen : s'.closed = false) (hl : l.requests = true) : 0 < s'.underWay := by
  have hle := (step_underWay h hopen).2.1
  cases l with
  | hangup =>
      obtain rfl := Option.some.inj h
      simp only [ControlPlane.underWay, Bool.toNat_true]
      omega
  | apiReload =>
      rw [show ControlStep.apiReload.sends = true from rfl] at hle
      simp only [ControlStep.startsReload, Bool.toNat_true, Bool.toNat_false] at hle
      omega
  | send =>
      rw [show ControlStep.send.sends = true from rfl] at hle
      simp only [ControlStep.startsReload, Bool.toNat_true, Bool.toNat_false] at hle
      omega
  | _ => exact absurd hl (by simp [ControlStep.requests])

/-- **Every request for a reload is followed by a reload.** In every run of the signals, the control
socket, the API and the reload task, as long as the latter has not panicked and once no message is
under way any more: after each SIGHUP and each message sent, a reload has started. There are no
other reloads, and only signals share one. -/
theorem reloads_follow_requests (parseJson : String → Option Json) {ls : List ControlStep}
    {t : ControlPlane} (hrun : run (step parseJson) {} ls = some t) (hopen : t.closed = false)
    (hquiet : t.underWay = 0) :
    (∀ pre l post, ls = pre ++ l :: post → l.requests = true → .startReload ∈ post) ∧
      ls.countP ControlStep.sends ≤ ls.countP ControlStep.startsReload ∧
      ls.countP ControlStep.startsReload ≤ ls.countP ControlStep.requests := by
  have hkept : ∀ (s : ControlPlane) l s', True → s.step parseJson l = some s' → True ∧
      (s'.closed = false → s.closed = false ∧
        s.underWay + l.sends.toNat ≤ s'.underWay + l.startsReload.toNat) := by
    intro s l s' _ h
    exact ⟨trivial, fun hopen => (step_underWay h hopen).imp_right And.left⟩
  have hbound : ∀ (s : ControlPlane) l s', True → s.step parseJson l = some s' → True ∧
      (s'.closed = false → s.closed = false ∧
        s'.underWay + l.startsReload.toNat ≤ s.underWay + l.requests.toNat) := by
    intro s l s' _ h
    exact ⟨trivial, fun hopen => (step_underWay h hopen).imp_right And.right⟩
  refine ⟨?_, ?_, ?_⟩
  · intro pre l post hls hl
    rw [hls] at hrun
    obtain ⟨l', hl', hstarts⟩ := exists_outgo_of_run (fun _ => True) (·.closed = false) underWay
      ControlStep.sends ControlStep.startsReload hkept hrun trivial hopen hquiet
      fun before after _ h hopen => underWay_pos h hopen hl
    cases l' with
    | startReload => exact hl'
    | _ => exact absurd hstarts (by simp [ControlStep.startsReload])
  · have hle := (le_run_account (fun _ => True) (·.closed = false) underWay ControlStep.sends
      ControlStep.startsReload hkept hrun trivial hopen).2
    rw [hquiet] at hle
    simpa [ControlPlane.underWay] using hle
  · have hle := (run_account_le (fun _ => True) (·.closed = false) underWay ControlStep.requests
      ControlStep.startsReload hbound hrun trivial hopen).2
    rw [hquiet] at hle
    simpa [ControlPlane.underWay] using hle

/-! ## Stopping -/

end ControlPlane

/-- What was read is a request for `command`. -/
def Says (parseJson : String → Option Json) (command : String) : ReadOutcome → Prop
  | .failed => False
  | .line text =>
      0 < text.utf8ByteSize ∧ text.utf8ByteSize ≤ maxMessageBytes ∧
        (parseJson (trim text)).bind controlRequest = some command

instance (command : String) : DecidablePred (Says parseJson command)
  | .failed => isFalse id
  | .line _ => instDecidableAnd

/-- What a connection does follows from the command it was sent; anything else is answered or
ignored. -/
theorem dispatch_eq {status : Option Json} {outcome : ReadOutcome} :
    (dispatch parseJson status outcome = .stop ↔ Says parseJson "stop" outcome) ∧
      (dispatch parseJson status outcome = .reload ↔ Says parseJson "reload" outcome) := by
  cases outcome with
  | failed => simp [dispatch, Says]
  | line text =>
      simp only [dispatch, Says]
      by_cases hempty : text.utf8ByteSize = 0
      · simp [hempty]
      · rw [if_neg hempty]
        by_cases hlarge : maxMessageBytes < text.utf8ByteSize
        · rw [if_pos hlarge]
          simp [Nat.not_le.2 hlarge]
        · rw [if_neg hlarge]
          have hpos : 0 < text.utf8ByteSize := Nat.pos_of_ne_zero hempty
          have hle : text.utf8ByteSize ≤ maxMessageBytes := Nat.not_lt.1 hlarge
          simp only [hpos, hle, true_and]
          cases (parseJson (trim text)).bind controlRequest with
          | none => simp
          | some command =>
              by_cases hreload : command = "reload"
              · simp [hreload]
              · by_cases hstop : command = "stop"
                · simp [hstop]
                · by_cases hstatus : command = "status" <;> simp [hreload, hstop, hstatus]

/-- A label that cancels the shutdown token. -/
def ControlStep.Cancels (parseJson : String → Option Json) : ControlStep → Prop
  | .terminate => True
  | .read outcome _ => Says parseJson "stop" outcome
  | _ => False

/-- A label with which a connection asks for a reload. -/
def ControlStep.SaysReload (parseJson : String → Option Json) : ControlStep → Prop
  | .read outcome _ => Says parseJson "reload" outcome
  | _ => False

instance : DecidablePred (ControlStep.SaysReload parseJson) := fun l => by
  cases l <;> unfold ControlStep.SaysReload <;> infer_instance

/-- A step of the accept loop. -/
def ControlStep.ofServer : ControlStep → Bool
  | .notice | .proceed | .accept _ | .read _ _ | .send | .respond | .timeout | .cleanup _ => true
  | _ => false

namespace ControlPlane

/-- What the other tasks leave to the accept loop. -/
structure Frame (s s' : ControlPlane) : Prop where
  server : s'.server = s.server
  socketFile : s'.socketFile = s.socketFile
  cancelled : s'.cancelled = s.cancelled

theorem Frame.refl (s : ControlPlane) : Frame s s := ⟨rfl, rfl, rfl⟩

theorem offer_frame {s s' : ControlPlane} (h : s.offer = some s') : Frame s s' := by
  rcases offer_cases h with ⟨-, rfl⟩ | ⟨-, -, rfl⟩
  · exact .refl s'
  · exact ⟨rfl, rfl, rfl⟩

theorem signalStep_frame {s s' : ControlPlane} {l : ControlStep}
    (h : s.signalStep l = some s') : Frame s s' := by
  cases l with
  | hangup => exact Option.some.inj h ▸ ⟨rfl, rfl, rfl⟩
  | takeHangup =>
      simp only [signalStep] at h
      split at h
      · exact Option.some.inj h ▸ ⟨rfl, rfl, rfl⟩
      · cases h
  | relayHangup =>
      simp only [signalStep] at h
      split at h
      · exact Option.some.inj h ▸ ⟨rfl, rfl, rfl⟩
      · cases h
  | receiveHangup =>
      simp only [signalStep] at h
      split at h
      · exact Option.some.inj h ▸ ⟨rfl, rfl, rfl⟩
      · cases h
  | forwardHangup =>
      simp only [signalStep] at h
      split at h
      · have hframe := offer_frame h
        exact ⟨hframe.server, hframe.socketFile, hframe.cancelled⟩
      · cases h
  | _ => exact absurd h (by simp [signalStep])

/-- Every step is one of the accept loop, cancels the token, or leaves alone what the loop looks
at. -/
theorem step_cases {s s' : ControlPlane} {l : ControlStep} (h : s.step parseJson l = some s') :
    ServerStepped parseJson s l s' ∨ (l = .terminate ∧ s' = { s with cancelled := true }) ∨
      (l.ofServer = false ∧ l ≠ .terminate ∧ Frame s s') := by
  have hother : l.ofServer = false → l ≠ .terminate → Frame s s' →
      ServerStepped parseJson s l s' ∨ (l = .terminate ∧ s' = { s with cancelled := true }) ∨
        (l.ofServer = false ∧ l ≠ .terminate ∧ Frame s s') :=
    fun hserver hterminate hframe => .inr (.inr ⟨hserver, hterminate, hframe⟩)
  cases l with
  | terminate => exact .inr (.inl ⟨rfl, (Option.some.inj h).symm⟩)
  | apiReload =>
      simp only [step] at h
      split at h
      · exact absurd h (by simp)
      · exact hother rfl (by simp) (offer_frame h)
  | startReload =>
      simp only [step] at h
      split at h
      · exact hother rfl (by simp) (Option.some.inj h ▸ ⟨rfl, rfl, rfl⟩)
      · exact absurd h (by simp)
  | finishReload =>
      simp only [step] at h
      split at h
      · exact hother rfl (by simp) (Option.some.inj h ▸ ⟨rfl, rfl, rfl⟩)
      · exact absurd h (by simp)
  | panicReload =>
      simp only [step] at h
      split at h
      · exact hother rfl (by simp) (Option.some.inj h ▸ ⟨rfl, rfl, rfl⟩)
      · exact absurd h (by simp)
  | hangup => exact hother rfl (by simp) (signalStep_frame (l := .hangup) h)
  | takeHangup => exact hother rfl (by simp) (signalStep_frame (l := .takeHangup) h)
  | relayHangup => exact hother rfl (by simp) (signalStep_frame (l := .relayHangup) h)
  | receiveHangup => exact hother rfl (by simp) (signalStep_frame (l := .receiveHangup) h)
  | forwardHangup => exact hother rfl (by simp) (signalStep_frame (l := .forwardHangup) h)
  | _ => exact .inl (serverStepped h)

/-- The loop may accept a connection without looking at the token again. -/
def mayAccept (s : ControlPlane) : Bool :=
  match s.server with
  | .polling => true
  | _ => false

/-- The same, or a connection that may still send. -/
def maySend (s : ControlPlane) : Bool :=
  match s.server with
  | .polling | .reading | .sending => true
  | _ => false

/-- A connection that is waiting to send. -/
def isSending (s : ControlPlane) : Bool :=
  match s.server with
  | .sending => true
  | _ => false

/-- The loop ends, and a connection decides to end it, only after the token has been cancelled; the
socket file is there until the loop has ended. -/
structure StopInv (s : ControlPlane) : Prop where
  leaving : s.server = .leaving ∨ s.server = .exited → s.cancelled = true
  responding : ∀ response, s.server = .responding response true → s.cancelled = true
  socketFile : s.server ≠ .exited → s.socketFile = true

theorem stopInv_step {s s' : ControlPlane} {l : ControlStep} (h : s.step parseJson l = some s')
    (hs : StopInv s) : StopInv s' := by
  rcases step_cases h with hserver | ⟨-, rfl⟩ | ⟨-, -, hframe⟩
  · have hfile : s.server ≠ .exited → s.socketFile = true := hs.socketFile
    cases hserver with
    | notice hserver hcancelled => exact ⟨fun _ => hcancelled, by simp, by simp_all⟩
    | proceed hserver => exact ⟨by simp, by simp, by simp_all⟩
    | accept hserver => exact ⟨by simp, by simp, by simp_all⟩
    | noConnection hserver => exact ⟨by simp, by simp, by simp_all⟩
    | close hserver => exact ⟨by simp, by simp, by simp_all⟩
    | reload hserver => exact ⟨by simp, by simp, by simp_all⟩
    | stop hserver => exact ⟨fun _ => rfl, fun _ _ => rfl, by simp_all⟩
    | answer hserver => exact ⟨by simp, by simp, by simp_all⟩
    | send hserver hoffer =>
        refine ⟨by simp, by simp, fun _ => ?_⟩
        rw [(offer_frame hoffer).socketFile]
        exact hfile (by simp [hserver])
    | respond hserver =>
        rename_i response shouldStop
        refine ⟨?_, ?_, ?_⟩
        · cases shouldStop with
          | true => exact fun _ => hs.responding response hserver
          | false => simp
        · cases shouldStop <;> simp
        · simp_all
    | timeout hserver => exact ⟨by simp, by simp, by simp_all⟩
    | cleanup hserver => exact ⟨fun _ => hs.leaving (.inl hserver), by simp, by simp⟩
  · exact ⟨fun _ => rfl, fun _ _ => rfl, hs.socketFile⟩
  · refine ⟨?_, ?_, ?_⟩
    · rw [hframe.server, hframe.cancelled]
      exact hs.leaving
    · rw [hframe.server, hframe.cancelled]
      exact hs.responding
    · rw [hframe.server, hframe.socketFile]
      exact hs.socketFile

theorem not_says_stop {status : Option Json} {outcome : ReadOutcome} {d : ControlDispatch}
    (h : dispatch parseJson status outcome = d) (hd : d ≠ .stop) :
    ¬ Says parseJson "stop" outcome := by
  intro hsays
  exact hd (h.symm.trans (dispatch_eq.1.2 hsays))

/-- The token is cancelled by the signals and by a request to stop, and stays so. -/
theorem cancelled_step {s s' : ControlPlane} {l : ControlStep}
    (h : s.step parseJson l = some s') :
    s'.cancelled = true ↔ s.cancelled = true ∨ l.Cancels parseJson := by
  have hkeep : ∀ {p : Prop}, ¬ p → (s.cancelled = true ↔ s.cancelled = true ∨ p) :=
    fun hp => ⟨.inl, fun h => h.resolve_right hp⟩
  rcases step_cases h with hserver | ⟨rfl, rfl⟩ | ⟨hl, hterminate, hframe⟩
  · cases hserver with
    | send hserver hoffer =>
        rw [show s.cancelled = _ from (offer_frame hoffer).cancelled.symm]
        simp [ControlStep.Cancels]
    | close hserver hdispatch => exact hkeep (not_says_stop hdispatch (by simp))
    | reload hserver hdispatch => exact hkeep (not_says_stop hdispatch (by simp))
    | answer hserver hdispatch => exact hkeep (not_says_stop hdispatch (by simp))
    | stop hserver hdispatch => exact ⟨fun _ => .inr (dispatch_eq.1.1 hdispatch), fun _ => rfl⟩
    | _ => exact hkeep id
  · exact ⟨fun _ => .inr trivial, fun _ => rfl⟩
  · rw [hframe.cancelled]
    refine hkeep ?_
    cases l with
    | terminate => exact absurd rfl hterminate
    | read outcome status => exact absurd hl (by simp [ControlStep.ofServer])
    | _ => exact id

/-- What an accept loop that has been told to stop still does: it accepts a connection only if it
looked at the token before that, and only this connection or the one it serves may send. -/
theorem cancelled_server {s s' : ControlPlane} {l : ControlStep}
    (h : s.step parseJson l = some s') (hs : s.cancelled = true) :
    s'.mayAccept.toNat + l.accepts.toNat ≤ s.mayAccept.toNat ∧
      s'.maySend.toNat + l.socketSends.toNat ≤ s.maySend.toNat := by
  rcases step_cases h with hserver | ⟨rfl, rfl⟩ | ⟨hl, -, hframe⟩
  · cases hserver with
    | proceed hserver hcancelled => exact absurd hs (by simp [hcancelled])
    | noConnection hserver houtcome =>
        rename_i outcome
        cases outcome <;>
          simp_all [mayAccept, maySend, ControlStep.accepts, ControlStep.socketSends]
    | respond hserver =>
        rename_i response shouldStop
        cases shouldStop <;>
          simp [mayAccept, maySend, ControlStep.accepts, ControlStep.socketSends]
    | _ => simp_all [mayAccept, maySend, ControlStep.accepts, ControlStep.socketSends]
  · exact ⟨Nat.le_refl _, Nat.le_refl _⟩
  · have hmayAccept : s'.mayAccept = s.mayAccept := by rw [mayAccept, mayAccept, hframe.server]
    have hmaySend : s'.maySend = s.maySend := by rw [maySend, maySend, hframe.server]
    rw [hmayAccept, hmaySend]
    cases l <;> simp_all [ControlStep.ofServer, ControlStep.accepts, ControlStep.socketSends]

/-- A connection sends only after a request to reload. -/
theorem isSending_step {s s' : ControlPlane} {l : ControlStep}
    (h : s.step parseJson l = some s') :
    s'.isSending.toNat + l.socketSends.toNat ≤
      s.isSending.toNat + (decide (l.SaysReload parseJson)).toNat := by
  rcases step_cases h with hserver | ⟨rfl, rfl⟩ | ⟨hl, -, hframe⟩
  · cases hserver with
    | reload hserver hdispatch =>
        rename_i outcome status
        have hsays : ControlStep.SaysReload parseJson (.read outcome status) :=
          dispatch_eq.2.1 hdispatch
        rw [decide_eq_true hsays]
        simp [isSending, hserver, ControlStep.socketSends]
    | respond hserver =>
        rename_i response shouldStop
        cases shouldStop <;> simp [isSending, ControlStep.socketSends]
    | send hserver hoffer => simp [isSending, hserver, ControlStep.socketSends]
    | _ => simp [isSending, ControlStep.socketSends]
  · exact Nat.le_add_right _ _
  · have hsame : s'.isSending = s.isSending := by rw [isSending, isSending, hframe.server]
    rw [hsame]
    cases l <;> simp_all [ControlStep.ofServer, ControlStep.socketSends]

/-- The steps with which the accept loop ends, given what polling `accept` gives if that is next. -/
def lastSteps (s : ControlPlane) (outcome : AcceptOutcome) : List ControlStep :=
  match s.server with
  | .accepting => [.notice, .cleanup true]
  | .polling =>
      match outcome with
      | .connection => [.accept .connection, .timeout, .notice, .cleanup true]
      | .failed | .pending => [.accept outcome, .notice, .cleanup true]
  | .reading | .sending | .responding _ _ => [.timeout, .notice, .cleanup true]
  | .leaving => [.cleanup true]
  | .exited => []

/-- Once the token is cancelled, the accept loop can end, whatever the other tasks do. -/
theorem run_lastSteps {s : ControlPlane} (hs : s.cancelled = true) (outcome : AcceptOutcome) :
    ∃ t, run (step parseJson) s (s.lastSteps outcome) = some t ∧ t.server = .exited := by
  obtain ⟨cancelled, hangup, relaying, hangups, forwarding, channel, closed, reloading, server,
    socketFile⟩ := s
  obtain rfl : cancelled = true := hs
  cases server <;> cases outcome <;> exact ⟨_, rfl, rfl⟩

/-- A parser that reads the two requests below. -/
def requestParser (text : String) : Option Json :=
  if text = "\x7b\"command\":\"reload\"\x7d" then
    some (.object [("command", .string "reload")])
  else if text = "\x7b\"command\":\"stop\"\x7d" then
    some (.object [("command", .string "stop")])
  else none

/-- Two signals, the second of which arrives before the first is taken, and a request on the control
socket. -/
def signalsAndSocket : List ControlStep :=
  [.proceed, .accept .connection, .hangup, .read (.line (requestLine "reload")) none, .hangup,
    .takeHangup, .send, .relayHangup, .startReload, .respond, .receiveHangup, .finishReload,
    .forwardHangup, .startReload, .finishReload]

/-- Three requests, two reloads. -/
theorem reloads_follow_requests_shared :
    ∃ t, run (step requestParser) {} signalsAndSocket = some t ∧
      ((∀ pre l post, signalsAndSocket = pre ++ l :: post → l.requests = true →
          .startReload ∈ post) ∧
        signalsAndSocket.countP ControlStep.sends ≤
          signalsAndSocket.countP ControlStep.startsReload ∧
        signalsAndSocket.countP ControlStep.startsReload ≤
          signalsAndSocket.countP ControlStep.requests) := by
  have hany : (run (step requestParser) {} signalsAndSocket).any (fun t =>
      t.closed == false && t.underWay == 0) = true := by decide +kernel
  obtain ⟨t, hrun, htest⟩ := exists_run_of_any hany
  rw [Bool.and_eq_true, beq_iff_eq, beq_iff_eq] at htest
  exact ⟨t, hrun, reloads_follow_requests requestParser hrun htest.1 htest.2⟩

/-- A client asks for a reload while the reload channel is full. A signal comes just before the next
client is accepted. -/
def stopped : List ControlStep :=
  [.apiReload, .apiReload, .apiReload, .apiReload, .proceed, .accept .connection,
    .read (.line (requestLine "reload")) none, .timeout, .proceed, .terminate, .accept .connection,
    .read (.line (requestLine "stop")) none, .respond, .cleanup true]

end ControlPlane

end DnsFilter
