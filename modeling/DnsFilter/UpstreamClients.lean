import DnsFilter.Lib.Reuse
import DnsFilter.Bootstrap
import DnsFilter.Strategy

/-!
# The upstream clients

`frameworks/upstream/`: the clients for plain DNS, DNS over TLS, over HTTPS and over QUIC. Each
keeps one connection for its later calls (`tcp_cache`, `client_cache`), and their `resolve`
functions run the same protocol on it (`Lib/Reuse`). They differ in what comes before: the plain
client first sends its query over UDP, and goes on to TCP only if the response is truncated.

Clients that are given a host name look up its address when they connect, with the operating
system's resolver or, if that fails, with the bootstrap resolvers.

* `admission` — how a call of each client ends without a connection, if it does.
* `client_connections` — what holds of the connections of a client, in every order of steps.
* `udp_first` — when the plain client uses a connection at all.
* `bootstrap_in_order` — what a client asks the bootstrap resolvers, and what it takes from them.
-/

namespace DnsFilter

open Net Text

/-! ## Before the connection -/

section Admission

variable (codec : MessageCodec)

/-- `extract_question` of the clients for plain DNS, DoT and DoH, without the text of the library's
own error. -/
def extractQuestion (query : Bytes) : Except UpstreamResolveError Query := do
  let message ← (codec.fromVec query).elim (.error (.protocol "invalid DNS message")) .ok
  message.queries.head?.elim (.error (.protocol "query contains no questions")) .ok

/-- `build_doq_request`: the query itself, with the ID zero. -/
def buildDoqRequest (query : Bytes) : Except UpstreamResolveError Message := do
  let message ← (codec.fromVec query).elim (.error (.protocol "invalid DNS message")) .ok
  if message.queries = [] then .error (.protocol "query contains no questions")
  else return message.withId 0

/-- `response.to_vec()` with its error. -/
def encodeResponse (response : Message) : Answer :=
  (codec.toVec response).elim (.error (.protocol "failed to encode DNS response")) .ok

/-- A call of `resolve`: its query, and how the exchange over UDP ends if there is one. -/
structure ResolveCall where
  query : Bytes
  datagram : Except UpstreamResolveError Message
  deriving DecidableEq

/-- `resolve_udp`. -/
def resolveUdp (call : ResolveCall) : Answer := do
  let _ ← extractQuestion codec call.query
  let response ← call.datagram
  encodeResponse codec response

/-- The call ends here if a check fails. -/
def refuse {β : Type*} : Except UpstreamResolveError β → Option Answer
  | .error e => some (.error e)
  | .ok _ => none

/-- `DnsUdpTcpClient::resolve` up to the connection: the response that came over UDP is the answer
unless it is truncated. -/
def udpAdmission (call : ResolveCall) : Option Answer :=
  match resolveUdp codec call with
  | .error e => some (.error e)
  | .ok response =>
      match codec.fromVec response with
      | none => some (.error (.protocol "invalid DNS message"))
      | some message =>
          if message.metadata.truncation then refuse (extractQuestion codec call.query)
          else some (.ok response)

inductive Transport
  | dns
  | dot
  | doh
  | doq
  deriving DecidableEq, Repr

/-- How a call ends without a connection, if it does. -/
def Transport.admission : Transport → ResolveCall → Option Answer
  | .dns, call => udpAdmission codec call
  | .dot, call | .doh, call => refuse (extractQuestion codec call.query)
  | .doq, call => refuse (buildDoqRequest codec call.query)

end Admission

/-! ## Calls on one client -/

/-- A client with its calls, named by numbers. -/
structure ClientState where
  conns : Reuse.State Message UpstreamResolveError Bytes := {}
  calls : Nat → Option ResolveCall := fun _ => none

/-- A step of a call: it begins, gets a reply on the connection it asked (or fails to), empties the
cache, has opened a connection (or failed to), or puts its connection into the cache. -/
inductive ClientMove
  | resolve (call : Nat) (request : ResolveCall)
  | reply (call : Nat) (result : Except UpstreamResolveError Message)
  | evict (call : Nat)
  | connect (call : Nat) (result : Except UpstreamResolveError Unit)
  | keep (call : Nat)

/-- The calls that have begun. -/
def ClientMove.record (calls : Nat → Option ResolveCall) : ClientMove → Nat → Option ResolveCall
  | .resolve call request => Function.update calls call (some request)
  | .reply _ _ | .evict _ | .connect _ _ | .keep _ => calls

section Step

variable (codec : MessageCodec) (transport : Transport)

/-- The step of the protocol. -/
def ClientMove.toMove : ClientMove → Reuse.Move Message UpstreamResolveError Bytes
  | .resolve call request => .start call (transport.admission codec request)
  | .reply call result => .reply call result
  | .evict call => .clear call
  | .connect call result => .connected call result
  | .keep call => .keep call

/-- `resolve_tcp`, `resolve_dot`, `resolve_doh` and `resolve_doq`, one step of a call at a time. -/
def clientStep (s : ClientState) (move : ClientMove) : Option ClientState :=
  (Reuse.step (encodeResponse codec) s.conns (move.toMove codec transport)).map fun conns =>
    { conns := conns, calls := move.record s.calls }

end Step

section Example

/-- A question for the address of `dns.example`, and the messages about it, as they are encoded. -/
def dnsExample (queryType : RecordType) : Query := ⟨⟨"dns.example."⟩, queryType, 1⟩

def dnsExampleBytes (typeCode : UInt8) : Bytes :=
  [3, 100, 110, 115, 7, 101, 120, 97, 109, 112, 108, 101, 0, 0, typeCode, 0, 1]

def exampleQuery (queryType : RecordType) : Message where
  metadata := { id := 1, messageType := .query, opCode := .query, recursionDesired := true }
  queries := [dnsExample queryType]

def exampleResponse (truncation : Bool) (answers : List Record) (queryType : RecordType) :
    Message where
  metadata := { id := 1, messageType := .response, opCode := .query, truncation := truncation
                recursionDesired := true, recursionAvailable := true }
  queries := [dnsExample queryType]
  answers := answers

def exampleAddress : Record := { name := ⟨"dns.example."⟩, ttl := 60, data := .a ⟨192, 0, 2, 1⟩ }

def exampleCodecTable : List (Bytes × Message) :=
  [ ([0, 1, 1, 0, 0, 1, 0, 0, 0, 0, 0, 0] ++ dnsExampleBytes 1, exampleQuery .a),
    ([0, 1, 1, 0, 0, 1, 0, 0, 0, 0, 0, 0] ++ dnsExampleBytes 28, exampleQuery .aaaa),
    ([0, 1, 0x83, 0x80, 0, 1, 0, 0, 0, 0, 0, 0] ++ dnsExampleBytes 1, exampleResponse true [] .a),
    ([0, 1, 0x81, 0x80, 0, 1, 0, 0, 0, 0, 0, 0] ++ dnsExampleBytes 28,
      exampleResponse false [] .aaaa),
    ([0, 1, 0x81, 0x80, 0, 1, 0, 1, 0, 0, 0, 0] ++ dnsExampleBytes 1 ++
        [0xc0, 0x0c, 0, 1, 0, 1, 0, 0, 0, 60, 0, 4, 192, 0, 2, 1],
      exampleResponse false [exampleAddress] .a) ]

def exampleCodec : MessageCodec where
  fromVec bytes := (exampleCodecTable.find? (·.1 = bytes)).map (·.2)
  toVec message := (exampleCodecTable.find? (·.2 = message)).map (·.1)

/-- A call that asks for the address and whose UDP response is truncated. -/
def exampleCall : ResolveCall where
  query := [0, 1, 1, 0, 0, 1, 0, 0, 0, 0, 0, 0] ++ dnsExampleBytes 1
  datagram := .ok (exampleResponse true [] .a)

/-- A call opens a connection, and its reply comes. -/
def exampleReply (call : Nat) : List ClientMove :=
  [.connect call (.ok ()), .reply call (.ok (exampleResponse false [exampleAddress] .a))]

end Example

section Runs

variable {codec : MessageCodec} {transport : Transport} {s t : ClientState}
  {moves : List ClientMove}

theorem clientStep_eq_some {move : ClientMove} (h : clientStep codec transport s move = some t) :
    Reuse.step (encodeResponse codec) s.conns (move.toMove codec transport) = some t.conns ∧
      t.calls = move.record s.calls := by
  obtain ⟨conns, hconns, rfl⟩ := Option.map_eq_some_iff.1 h
  exact ⟨hconns, rfl⟩

/-- A run of a client is a run of the protocol. -/
theorem run_conns (hrun : run (clientStep codec transport) s moves = some t) :
    run (Reuse.step (encodeResponse codec)) s.conns (moves.map (·.toMove codec transport)) =
      some t.conns := by
  induction moves generalizing s with
  | nil =>
      rw [run_nil, Option.some.injEq] at hrun
      rw [hrun]
      rfl
  | cons move moves ih =>
      obtain ⟨s', hstep, hrest⟩ := run_cons_eq_some.1 hrun
      exact run_cons_eq_some.2 ⟨s'.conns, (clientStep_eq_some hstep).1, ih hrest⟩

/-- Each call's phase goes with its request. -/
def Admitted (codec : MessageCodec) (transport : Transport) (s : ClientState) : Prop :=
  ∀ i, (s.conns.phase i).admission = (s.calls i).map (transport.admission codec)

theorem admitted_step {move : ClientMove} (h : Admitted codec transport s)
    (hstep : clientStep codec transport s move = some t) : Admitted codec transport t := by
  intro i
  obtain ⟨hconns, hcalls⟩ := clientStep_eq_some hstep
  rw [Reuse.admission_step hconns i, hcalls, h i]
  cases move with
  | resolve call request =>
      simp only [ClientMove.record, ClientMove.toMove, Reuse.Move.settle]
      by_cases hi : i = call
      · subst hi
        rw [if_pos rfl, Function.update_self]
        rfl
      · rw [if_neg hi, Function.update_of_ne hi]
  | _ => rfl

theorem admitted_run (hrun : run (clientStep codec transport) {} moves = some t) :
    Admitted codec transport t :=
  run_invariant (fun _ _ _ => admitted_step) hrun fun _ => rfl

/-- An answer that cannot be encoded is the only error a reply leads to. -/
theorem encodeResponse_eq_error {response : Message} {e : UpstreamResolveError}
    (h : encodeResponse codec response = .error e) : codec.toVec response = none := by
  cases hbytes : codec.toVec response with
  | none => rfl
  | some bytes => simp [encodeResponse, hbytes] at h

/-- Where the result of a call comes from, given how the call ended. -/
def ClientState.EndedBy (codec : MessageCodec) (transport : Transport) (s : ClientState)
    (moves : List ClientMove) (i : Nat) (result : Answer) : Reuse.Ending → Prop
  | .turnedAway => ∃ call, s.calls i = some call ∧ transport.admission codec call = some result
  | .viaKept _ | .viaOwn _ _ =>
      ∃ response, .reply i (.ok response) ∈ moves ∧ result = encodeResponse codec response
  | .unanswered _ _ => ∃ e, .reply i (.error e) ∈ moves ∧ result = .error e
  | .unconnected _ => ∃ e, .connect i (.error e) ∈ moves ∧ result = .error e

theorem endedBy_of_done (hrun : run (clientStep codec transport) {} moves = some s) {i : Nat}
    {ending : Reuse.Ending} {result : Answer} (hdone : s.conns.phase i = .done ending result) :
    s.EndedBy codec transport moves i result ending := by
  have hexplained := Reuse.explained_run (run_conns hrun) i
  rw [hdone] at hexplained
  cases ending with
  | turnedAway =>
      have hphase := admitted_run hrun i
      rw [hdone] at hphase
      exact Option.map_eq_some_iff.1 hphase.symm
  | viaKept c | viaOwn gaveUp c =>
      obtain ⟨response, hmem, hresult⟩ := hexplained
      obtain ⟨move, hmove, heq⟩ := List.mem_map.1 hmem
      refine ⟨response, ?_, hresult⟩
      cases move <;> cases heq
      exact hmove
  | unanswered gaveUp c | unconnected gaveUp =>
      obtain ⟨e, hmem, hresult⟩ := hexplained
      obtain ⟨move, hmove, heq⟩ := List.mem_map.1 hmem
      refine ⟨e, ?_, hresult⟩
      cases move <;> cases heq
      exact hmove

/-- **The connections of a client, whatever the order of steps.** After any run,

* a connection in the cache has given a reply, and no call has given it up;
* a connection that a call has given up is never in the cache again, and no later call is put on it;
* each connection was opened by exactly one call;
* a call that fails was refused before it looked for a connection, got a reply that cannot be
  encoded, could not open a connection, or got no reply on one that it had opened itself: never only
  because the connection in the cache was dead. -/
theorem client_connections {more : List ClientMove}
    (hrun : run (clientStep codec transport) {} moves = some s)
    (hmore : run (clientStep codec transport) s more = some t) :
    (∀ c, s.conns.cached = some c → c ∈ s.conns.replied ∧ c ∉ s.conns.evicted) ∧
    (∀ c ∈ s.conns.evicted, t.conns.cached ≠ some c ∧
      ∀ i, t.conns.phase i = .asking c → s.conns.phase i = .asking c) ∧
    (∀ c < s.conns.opened, ∃! i, (s.conns.phase i).opener = some c) ∧
    ∀ i ending e, s.conns.phase i = .done ending (.error e) →
      (ending = .turnedAway ∧
        ∃ call, s.calls i = some call ∧ transport.admission codec call = some (.error e)) ∨
      (((∃ c, ending = .viaKept c) ∨ ∃ gaveUp c, ending = .viaOwn gaveUp c) ∧
        ∃ response, .reply i (.ok response) ∈ moves ∧ codec.toVec response = none) ∨
      ((∃ gaveUp, ending = .unconnected gaveUp) ∧ .connect i (.error e) ∈ moves) ∨
      (∃ gaveUp c, ending = .unanswered gaveUp c) ∧ .reply i (.error e) ∈ moves := by
  have hconns := run_conns hrun
  have hinv := Reuse.inv_run hconns
  refine ⟨fun c hc => ⟨hinv.cached_replied c hc, hinv.cached_good c hc⟩,
    fun c hc => Reuse.run_evicted hinv (run_conns hmore) hc, (Reuse.oneOpener_run hconns).2, ?_⟩
  intro i ending e hdone
  have hended := endedBy_of_done hrun hdone
  cases ending with
  | turnedAway => exact .inl ⟨rfl, hended⟩
  | viaKept c =>
      obtain ⟨response, hmem, hresult⟩ := hended
      exact .inr (.inl ⟨.inl ⟨c, rfl⟩, response, hmem, encodeResponse_eq_error hresult.symm⟩)
  | viaOwn gaveUp c =>
      obtain ⟨response, hmem, hresult⟩ := hended
      exact .inr (.inl ⟨.inr ⟨gaveUp, c, rfl⟩, response, hmem,
        encodeResponse_eq_error hresult.symm⟩)
  | unanswered gaveUp c =>
      obtain ⟨_, hmem, ⟨⟩⟩ := hended
      exact .inr (.inr (.inr ⟨⟨gaveUp, c, rfl⟩, hmem⟩))
  | unconnected gaveUp =>
      obtain ⟨_, hmem, ⟨⟩⟩ := hended
      exact .inr (.inr (.inl ⟨⟨gaveUp, rfl⟩, hmem⟩))

/-- Two calls find the same dead connection. The first has opened another one and put it into the
cache when the second empties it. -/
theorem client_connections_dead :
    ∃ s t, run (clientStep exampleCodec .dot) {} ([.resolve 0 exampleCall] ++ exampleReply 0 ++
        [.keep 0, .resolve 1 exampleCall, .resolve 2 exampleCall, .reply 1 (.error .timeout),
          .reply 2 (.error .timeout), .evict 1] ++ exampleReply 1 ++ [.keep 1]) = some s ∧
      s.conns.cached = some 1 ∧ s.conns.evicted = [0] ∧
      run (clientStep exampleCodec .dot) s [.evict 2] = some t ∧ t.conns.cached ≠ some 0 ∧
      ∃! i, (s.conns.phase i).opener = some 1 := by
  obtain ⟨s, hrun, hs⟩ := @exists_run_of_any _ _ (clientStep exampleCodec .dot) {}
    ([.resolve 0 exampleCall] ++ exampleReply 0 ++ [.keep 0, .resolve 1 exampleCall,
      .resolve 2 exampleCall, .reply 1 (.error .timeout), .reply 2 (.error .timeout), .evict 1] ++
      exampleReply 1 ++ [.keep 1])
    (fun s => decide (s.conns.cached = some 1 ∧ s.conns.evicted = [0] ∧ s.conns.opened = 2) &&
      (run (clientStep exampleCodec .dot) s [.evict 2]).isSome) (by decide +kernel)
  rw [Bool.and_eq_true, decide_eq_true_eq, Option.isSome_iff_exists] at hs
  obtain ⟨⟨hcached, hevicted, hopened⟩, t, ht⟩ := hs
  obtain ⟨-, hout, hone, -⟩ := client_connections hrun ht
  refine ⟨s, t, hrun, hcached, hevicted, ht, (hout 0 ?_).1, hone 1 ?_⟩
  · rw [hevicted]
    exact List.mem_cons_self
  · rw [hopened]
    exact Nat.one_lt_two

/-- A call that goes on to a connection ends with a reply to it, or fails. -/
theorem reply_of_done (hrun : run (clientStep codec transport) {} moves = some s) {i : Nat}
    {call : ResolveCall} (hcall : s.calls i = some call)
    (hadmission : transport.admission codec call = none) {ending : Reuse.Ending} {bytes : Bytes}
    (hdone : s.conns.phase i = .done ending (.ok bytes)) :
    ∃ response, ClientMove.reply i (.ok response) ∈ moves ∧ codec.toVec response = some bytes := by
  have hended := endedBy_of_done hrun hdone
  cases ending with
  | turnedAway =>
      obtain ⟨_, hcall', hadmission'⟩ := hended
      cases hcall.symm.trans hcall'
      cases hadmission.symm.trans hadmission'
  | viaKept c | viaOwn gaveUp c =>
      obtain ⟨response, hmem, hresult⟩ := hended
      refine ⟨response, hmem, ?_⟩
      cases hbytes : codec.toVec response <;> rw [encodeResponse, hbytes] at hresult <;>
        cases hresult
      rfl
  | unanswered gaveUp c | unconnected gaveUp =>
      obtain ⟨e, -, he⟩ := hended
      cases he

theorem phase_of_admission (hrun : run (clientStep codec transport) {} moves = some s) {i : Nat}
    {call : ResolveCall} (hcall : s.calls i = some call) {result : Answer}
    (hadmission : transport.admission codec call = some result) :
    s.conns.phase i = .done .turnedAway result := by
  have hphase := admitted_run hrun i
  rw [hcall, Option.map_some, hadmission] at hphase
  cases hp : s.conns.phase i with
  | done ending result' =>
      rw [hp] at hphase
      cases ending <;> cases hphase
      rfl
  | _ => rw [hp] at hphase; cases hphase

/-- **When the plain client uses TCP.** In any run of `DnsUdpTcpClient`, a call whose exchange over
UDP fails ends with that error, and a call whose UDP response is not truncated ends with this
response; neither touches the connection. A call whose UDP response is truncated never answers with
it: its answer is a reply that came to it over TCP. -/
theorem udp_first (hrun : run (clientStep codec .dns) {} moves = some s) {i : Nat}
    {call : ResolveCall} (hcall : s.calls i = some call) :
    (∀ e, resolveUdp codec call = .error e →
      s.conns.phase i = .done .turnedAway (.error e)) ∧
    ∀ response message, resolveUdp codec call = .ok response →
      codec.fromVec response = some message →
      if message.metadata.truncation then
        ∀ ending bytes, s.conns.phase i = .done ending (.ok bytes) →
          ∃ reply, ClientMove.reply i (.ok reply) ∈ moves ∧ codec.toVec reply = some bytes
      else s.conns.phase i = .done .turnedAway (.ok response) := by
  constructor
  · intro e he
    refine phase_of_admission hrun hcall ?_
    show udpAdmission codec call = _
    rw [udpAdmission, he]
  · intro response message hresponse hmessage
    split
    · rename_i htruncated
      intro ending bytes hdone
      refine reply_of_done hrun hcall ?_ hdone
      show udpAdmission codec call = none
      simp only [udpAdmission, hresponse, hmessage, htruncated, if_true]
      -- The question was read before the exchange over UDP already.
      cases hquestion : extractQuestion codec call.query with
      | ok question => rfl
      | error e => simp [resolveUdp, hquestion, bind, Except.bind] at hresponse
    · rename_i htruncated
      refine phase_of_admission hrun hcall ?_
      show udpAdmission codec call = _
      simp only [udpAdmission, hresponse, hmessage, htruncated]
      rfl

/-- The call has ended with a reply. -/
def succeeded {ρ ε α : Type} : Reuse.Phase ρ ε α → Bool
  | .done _ (.ok _) => true
  | _ => false

theorem exists_done_of_succeeded {ρ ε α : Type} {phase : Reuse.Phase ρ ε α}
    (h : succeeded phase = true) : ∃ ending bytes, phase = .done ending (.ok bytes) := by
  cases phase with
  | done ending result =>
      cases result with
      | ok bytes => exact ⟨ending, bytes, rfl⟩
      | error e => cases h
  | _ => cases h

theorem udp_first_truncated :
    ∃ s, run (clientStep exampleCodec .dns) {} ([.resolve 0 exampleCall] ++ exampleReply 0 ++
        [.keep 0]) = some s ∧
      (∃ ending bytes, s.conns.phase 0 = .done ending (.ok bytes)) ∧
      ∀ ending bytes, s.conns.phase 0 = .done ending (.ok bytes) →
        ∃ reply, ClientMove.reply 0 (.ok reply) ∈
            [.resolve 0 exampleCall] ++ exampleReply 0 ++ [.keep 0] ∧
          exampleCodec.toVec reply = some bytes := by
  obtain ⟨s, hrun, hs⟩ := @exists_run_of_any _ _ (clientStep exampleCodec .dns) {}
    ([.resolve 0 exampleCall] ++ exampleReply 0 ++ [.keep 0])
    (fun s => decide (s.calls 0 = some exampleCall) && succeeded (s.conns.phase 0))
    (by decide +kernel)
  rw [Bool.and_eq_true, decide_eq_true_eq] at hs
  exact ⟨s, hrun, exists_done_of_succeeded hs.2,
    (udp_first hrun hs.1).2 _ (exampleResponse true [] .a) rfl (by decide +kernel)⟩

end Runs

/-! ## Looking up a host name -/

/-- `fqdn_host`. -/
def fqdnHost (value : String) : String := if endsWith "." value then value else value ++ "."

/-- A query to a bootstrap resolver, and the routing of the socket it is sent from. -/
structure BootstrapQuery where
  resolver : SocketAddr
  routing : OutboundRouting
  query : Bytes
  deriving DecidableEq, Repr

/-- A client that is given a host name. -/
structure HostLookup where
  name : String
  /-- The routing of the clients that ask the bootstrap resolvers, given the client's own. -/
  bootstrapRouting : OutboundRouting → OutboundRouting

/-- `DnsTlsClient`: the bootstrap resolvers are asked without any routing. -/
def dotLookup : HostLookup := ⟨"DoT", fun _ => {}⟩

/-- `DnsHttpsClient`: as for DoT. -/
def dohLookup : HostLookup := ⟨"DoH", fun _ => {}⟩

/-- `DnsQuicClient`: the bootstrap resolvers are asked through the client's routing. -/
def doqLookup : HostLookup := ⟨"DoQ", fun routing => routing⟩

section Lookup

variable (codec : MessageCodec) (nameFromAscii : String → Except String Name)
  (ask : List BootstrapQuery → BootstrapQuery → Answer)

/-- `build_dns_query` and `build_bootstrap_query`. -/
def HostLookup.buildQuery (kind : HostLookup) (host : String) (queryType : RecordType) : Answer :=
  match nameFromAscii (fqdnHost host) with
  | .error e => .error (.protocol ("invalid " ++ kind.name ++ " hostname '" ++ host ++ "': " ++ e))
  | .ok name =>
      let message := Message.new 1 .query .query
      encodeResponse codec { message with
        metadata := { message.metadata with recursionDesired := true }
        queries := [{ name := name, queryType := queryType }] }

/-- The first address among the answers, whatever name and family it is for. -/
def firstAddress (answers : List Record) (port : Nat) : Option SocketAddr :=
  answers.findSome? fun answer => match answer.data with
    | .a addr => some ⟨.v4 addr, UInt16.ofNat port, 0⟩
    | .aaaa addr => some ⟨.v6 addr, UInt16.ofNat port, 0⟩
    | _ => none

/-- `try_extract_ip_from_response` on the answer of the bootstrap resolver. -/
def tryExtractIpFromResponse (answer : Answer) (port : Nat) :
    Except UpstreamResolveError SocketAddr := do
  let response ← answer
  let message ← (codec.fromVec response).elim (.error (.protocol "invalid DNS message")) .ok
  (firstAddress message.answers port).elim
    (.error (.protocol "no A/AAAA records in bootstrap response")) .ok

/-- The loop of `resolve_hostname_via_bootstrap`. The queries are logged as they are sent; an answer
may depend on all that were sent before. -/
def tryBootstrap (host : String) (port : Nat) (routing : OutboundRouting)
    (aQuery aaaaQuery : Bytes) : List SocketAddr → List BootstrapQuery →
      Except UpstreamResolveError SocketAddr × List BootstrapQuery
  | [], log =>
      (.error (.protocol ("bootstrap resolvers " ++ "did not return usable A/AAAA records for '" ++
        host ++ "'")), log)
  | resolver :: rest, log =>
      let first : BootstrapQuery := ⟨resolver, routing, aQuery⟩
      match tryExtractIpFromResponse codec (ask log first) port with
      | .ok address => (.ok address, log ++ [first])
      | .error _ =>
          let log := log ++ [first]
          let second : BootstrapQuery := ⟨resolver, routing, aaaaQuery⟩
          match tryExtractIpFromResponse codec (ask log second) port with
          | .ok address => (.ok address, log ++ [second])
          | .error _ =>
              tryBootstrap host port routing aQuery aaaaQuery rest (log ++ [second])

/-- `resolve_hostname_via_bootstrap`. -/
def HostLookup.resolveHostnameViaBootstrap (kind : HostLookup) (routing : OutboundRouting)
    (resolvers : List SocketAddr) (host : String) (port : Nat) :
    Except UpstreamResolveError SocketAddr × List BootstrapQuery :=
  match kind.buildQuery codec nameFromAscii host .a,
    kind.buildQuery codec nameFromAscii host .aaaa with
  | .error e, _ => (.error e, [])
  | _, .error e => (.error e, [])
  | .ok aQuery, .ok aaaaQuery =>
      tryBootstrap codec ask host port (kind.bootstrapRouting routing) aQuery aaaaQuery resolvers []

/-- `resolve_address`. `lookupHost` is the operating system's resolver. -/
def HostLookup.resolveAddress (kind : HostLookup)
    (lookupHost : String → Nat → Except String (List SocketAddr)) (routing : OutboundRouting)
    (resolvers : List SocketAddr) :
    Endpoint → Except UpstreamResolveError SocketAddr × List BootstrapQuery
  | .static address => (.ok address, [])
  | .hostname host port =>
      let target := kind.name ++ " hostname '" ++ host ++ ":" ++ toString port ++ "'"
      match lookupHost host port with
      | .ok (address :: _) => (.ok address, [])
      | .ok [] => (.error (.protocol ("no resolved address for " ++ target)), [])
      | .error osError =>
          let (result, log) :=
            kind.resolveHostnameViaBootstrap codec nameFromAscii ask routing resolvers host port
          (result.mapError fun bootstrapError => .protocol ("failed to resolve " ++ target ++
            " using OS resolver (" ++ osError ++ ") and bootstrap resolvers (" ++
            bootstrapError.display ++ ")"), log)

end Lookup

section LookupOrder

variable {codec : MessageCodec} {nameFromAscii : String → Except String Name}
  {ask : List BootstrapQuery → BootstrapQuery → Answer}

/-- The queries that the bootstrap resolvers are asked, in order, until one is answered with an
address: for each resolver the IPv4 address first. -/
def bootstrapPlan (routing : OutboundRouting) (aQuery aaaaQuery : Bytes)
    (resolvers : List SocketAddr) : List BootstrapQuery :=
  resolvers.flatMap fun resolver => [⟨resolver, routing, aQuery⟩, ⟨resolver, routing, aaaaQuery⟩]

/-- The address that a query gives, sent after those of the log. -/
def addressFrom (codec : MessageCodec) (ask : List BootstrapQuery → BootstrapQuery → Answer)
    (port : Nat) (log : List BootstrapQuery) (query : BootstrapQuery) : Option SocketAddr :=
  (tryExtractIpFromResponse codec (ask log query) port).toOption

/-- None of the queries, sent one after the other, gives an address. -/
def NoAddress (codec : MessageCodec) (ask : List BootstrapQuery → BootstrapQuery → Answer)
    (port : Nat) : List BootstrapQuery → List BootstrapQuery → Prop
  | _, [] => True
  | log, query :: rest =>
      addressFrom codec ask port log query = none ∧ NoAddress codec ask port (log ++ [query]) rest

/-- How the loop ends: at the first query of the plan that gives an address, or after the last. -/
inductive FirstOf (codec : MessageCodec) (ask : List BootstrapQuery → BootstrapQuery → Answer)
    (port : Nat) (log plan : List BootstrapQuery) :
    Except UpstreamResolveError SocketAddr × List BootstrapQuery → Prop
  | found {before after : List BootstrapQuery} {query : BootstrapQuery} {address : SocketAddr}
      (hplan : plan = before ++ query :: after) (hbefore : NoAddress codec ask port log before)
      (haddress : addressFrom codec ask port (log ++ before) query = some address) :
      FirstOf codec ask port log plan (.ok address, log ++ before ++ [query])
  | notFound {e : UpstreamResolveError} (hnone : NoAddress codec ask port log plan) :
      FirstOf codec ask port log plan (.error e, log ++ plan)

/-- A query without an address comes before the plan. -/
theorem FirstOf.cons {port : Nat} {log plan : List BootstrapQuery} {query : BootstrapQuery}
    {outcome : Except UpstreamResolveError SocketAddr × List BootstrapQuery}
    (hquery : addressFrom codec ask port log query = none)
    (h : FirstOf codec ask port (log ++ [query]) plan outcome) :
    FirstOf codec ask port log (query :: plan) outcome := by
  cases h with
  | @found before after query' address hplan hbefore haddress =>
      have hfound : FirstOf codec ask port log (query :: plan)
          (.ok address, log ++ (query :: before) ++ [query']) :=
        @FirstOf.found _ _ _ _ _ (query :: before) after _ _ (by rw [hplan]; rfl)
          ⟨hquery, hbefore⟩ (by simpa using haddress)
      simpa using hfound
  | @notFound e hnone =>
      have hall : FirstOf codec ask port log (query :: plan) (.error e, log ++ query :: plan) :=
        .notFound ⟨hquery, hnone⟩
      simpa using hall

theorem FirstOf.head {port : Nat} {log plan : List BootstrapQuery} {query : BootstrapQuery}
    {address : SocketAddr} (h : addressFrom codec ask port log query = some address) :
    FirstOf codec ask port log (query :: plan) (.ok address, log ++ [query]) := by
  have hfound : FirstOf codec ask port log (query :: plan) (.ok address, log ++ [] ++ [query]) :=
    @FirstOf.found _ _ _ _ _ [] plan _ _ rfl trivial (by rwa [List.append_nil])
  rwa [List.append_nil] at hfound

theorem tryBootstrap_firstOf (host : String) (port : Nat) (routing : OutboundRouting)
    (aQuery aaaaQuery : Bytes) (resolvers : List SocketAddr) (log : List BootstrapQuery) :
    FirstOf codec ask port log (bootstrapPlan routing aQuery aaaaQuery resolvers)
      (tryBootstrap codec ask host port routing aQuery aaaaQuery resolvers log) := by
  induction resolvers generalizing log with
  | nil =>
      have hnone := @FirstOf.notFound codec ask port log [] (.protocol ("bootstrap resolvers " ++
        "did not return usable A/AAAA records for '" ++ host ++ "'")) trivial
      rwa [List.append_nil] at hnone
  | cons resolver rest ih =>
      show FirstOf codec ask port log (⟨resolver, routing, aQuery⟩ ::
        ⟨resolver, routing, aaaaQuery⟩ :: bootstrapPlan routing aQuery aaaaQuery rest) _
      rw [tryBootstrap]
      cases hfirst : tryExtractIpFromResponse codec (ask log ⟨resolver, routing, aQuery⟩) port with
      | ok address => exact .head (by rw [addressFrom, hfirst]; rfl)
      | error e =>
          refine .cons (by rw [addressFrom, hfirst]; rfl) ?_
          simp only
          cases hsecond : tryExtractIpFromResponse codec
              (ask (log ++ [⟨resolver, routing, aQuery⟩]) ⟨resolver, routing, aaaaQuery⟩) port with
          | ok address => exact .head (by rw [addressFrom, hsecond]; rfl)
          | error e' => exact .cons (by rw [addressFrom, hsecond]; rfl) (ih _)

theorem port_of_firstAddress {answers : List Record} {port : Nat} {address : SocketAddr}
    (h : firstAddress answers port = some address) : address.port = UInt16.ofNat port := by
  obtain ⟨answer, -, hanswer⟩ := List.exists_of_findSome?_eq_some h
  split at hanswer <;> cases hanswer
  all_goals rfl

theorem port_of_addressFrom {port : Nat} {log : List BootstrapQuery} {query : BootstrapQuery}
    {address : SocketAddr} (h : addressFrom codec ask port log query = some address) :
    address.port = UInt16.ofNat port := by
  rw [addressFrom, tryExtractIpFromResponse] at h
  cases hanswer : ask log query with
  | error e => simp [hanswer, bind, Except.bind, Except.toOption] at h
  | ok response =>
      cases hmessage : codec.fromVec response with
      | none => simp [hanswer, hmessage, bind, Except.bind, Except.toOption] at h
      | some message =>
          cases hfirst : firstAddress message.answers port with
          | none => simp [hanswer, hmessage, hfirst, bind, Except.bind, Except.toOption] at h
          | some address' =>
              simp [hanswer, hmessage, hfirst, bind, Except.bind, Except.toOption] at h
              exact h ▸ port_of_firstAddress hfirst

theorem routing_of_mem_plan {routing : OutboundRouting} {aQuery aaaaQuery : Bytes}
    {resolvers : List SocketAddr} {query : BootstrapQuery}
    (h : query ∈ bootstrapPlan routing aQuery aaaaQuery resolvers) : query.routing = routing := by
  obtain ⟨resolver, -, hquery⟩ := List.mem_flatMap.1 h
  rcases List.mem_pair.1 hquery with rfl | rfl
  all_goals rfl

/-- Both queries are built before the first is sent. -/
theorem resolveHostnameViaBootstrap_of_error {kind : HostLookup} {routing : OutboundRouting}
    {resolvers : List SocketAddr} {host : String} {port : Nat} {queryType : RecordType}
    {e : UpstreamResolveError} (htype : queryType = .a ∨ queryType = .aaaa)
    (he : kind.buildQuery codec nameFromAscii host queryType = .error e) :
    ∃ e', kind.resolveHostnameViaBootstrap codec nameFromAscii ask routing resolvers host port =
      (.error e', []) := by
  rw [HostLookup.resolveHostnameViaBootstrap]
  rcases htype with rfl | rfl
  · exact ⟨e, by rw [he]⟩
  · cases ha : kind.buildQuery codec nameFromAscii host .a with
    | error e' => exact ⟨e', rfl⟩
    | ok aQuery => exact ⟨e, by rw [he]⟩

/-- **How a host name is looked up through the bootstrap resolvers.** When the operating system's
resolver fails, the client asks the bootstrap resolvers in order, each for the IPv4 and then for
the IPv6 address, and connects to the first address that any answer contains; it asks nothing after
that, and fails only when all of them were asked and no answer had an address. The port is always
that of the endpoint. All queries go out by the same routing, which for DoQ is the client's own and
for DoT and DoH is none. A host for which the queries cannot be built, such as a literal address, is
not looked up: the client fails and asks nothing. -/
theorem bootstrap_in_order {kind : HostLookup}
    {lookupHost : String → Nat → Except String (List SocketAddr)} {routing : OutboundRouting}
    {resolvers : List SocketAddr} {host osError : String} {port : Nat}
    (hos : lookupHost host port = .error osError) :
    let outcome := kind.resolveAddress codec nameFromAscii ask lookupHost routing resolvers
      (.hostname host port)
    (∀ queryType e, queryType = .a ∨ queryType = .aaaa →
      kind.buildQuery codec nameFromAscii host queryType = .error e →
        ∃ e', outcome = (.error e', [])) ∧
    ∀ aQuery aaaaQuery, kind.buildQuery codec nameFromAscii host .a = .ok aQuery →
      kind.buildQuery codec nameFromAscii host .aaaa = .ok aaaaQuery →
        let plan := bootstrapPlan (kind.bootstrapRouting routing) aQuery aaaaQuery resolvers
        ((∃ before query after address, plan = before ++ query :: after ∧
            NoAddress codec ask port [] before ∧
            addressFrom codec ask port before query = some address ∧
            address.port = UInt16.ofNat port ∧ outcome = (.ok address, before ++ [query])) ∨
          (NoAddress codec ask port [] plan ∧ ∃ e, outcome = (.error e, plan))) ∧
        ∀ query ∈ outcome.2, query.routing = kind.bootstrapRouting routing := by
  intro outcome
  refine ⟨?_, ?_⟩
  · intro queryType e htype he
    obtain ⟨e', he'⟩ : ∃ e', kind.resolveHostnameViaBootstrap codec nameFromAscii ask routing
        resolvers host port = (.error e', []) := resolveHostnameViaBootstrap_of_error htype he
    exact ⟨_, by simp only [outcome, HostLookup.resolveAddress, hos, he']; rfl⟩
  intro aQuery aaaaQuery ha haaaa plan
  have hfirst := @tryBootstrap_firstOf codec ask host port (kind.bootstrapRouting routing) aQuery
    aaaaQuery resolvers []
  have houtcome : outcome = ((tryBootstrap codec ask host port (kind.bootstrapRouting routing) aQuery
      aaaaQuery resolvers []).1.mapError fun bootstrapError => .protocol ("failed to resolve " ++
        (kind.name ++ " hostname '" ++ host ++ ":" ++ toString port ++ "'") ++
        " using OS resolver (" ++ osError ++ ") and bootstrap resolvers (" ++
        bootstrapError.display ++ ")"),
      (tryBootstrap codec ask host port (kind.bootstrapRouting routing) aQuery aaaaQuery
        resolvers []).2) := by
    simp only [outcome, HostLookup.resolveAddress, hos, HostLookup.resolveHostnameViaBootstrap, ha,
      haaaa]
  rw [houtcome]
  generalize tryBootstrap codec ask host port (kind.bootstrapRouting routing) aQuery aaaaQuery
    resolvers [] = ended at hfirst
  cases hfirst with
  | @found before after query address hplan hbefore haddress =>
      rw [List.nil_append] at haddress
      refine ⟨.inl ⟨before, query, after, address, hplan, hbefore, haddress,
        port_of_addressFrom haddress, rfl⟩, fun query' hmem => ?_⟩
      have hquery : query' ∈ before ++ query :: after := by
        rcases List.mem_append.1 hmem with hmem | hmem
        · exact List.mem_append_left _ hmem
        · exact List.mem_append_right _ (List.mem_singleton.1 hmem ▸ List.mem_cons_self)
      rw [← hplan] at hquery
      exact routing_of_mem_plan hquery
  | @notFound e hnone => exact ⟨.inr ⟨hnone, _, rfl⟩, fun query' hmem => routing_of_mem_plan hmem⟩

/-- The first bootstrap resolver does not answer the first query and has no IPv6 address; the second
one has an address. The routing of the DoT client is not used. A literal address is no host name:
the DoH client asks nothing. -/
theorem bootstrap_in_order_second :
    let nameFromAscii : String → Except String Name := fun host =>
      if host = "[::1]." then .error "Label contains invalid characters" else .ok ⟨host⟩
    let resolvers : List SocketAddr := [⟨.v4 ⟨9, 9, 9, 9⟩, 53, 0⟩, ⟨.v4 ⟨1, 1, 1, 1⟩, 53, 0⟩]
    let ask : List BootstrapQuery → BootstrapQuery → Answer := fun _ query =>
      if query.resolver.ip = .v4 ⟨1, 1, 1, 1⟩ then
        .ok ([0, 1, 0x81, 0x80, 0, 1, 0, 1, 0, 0, 0, 0] ++ dnsExampleBytes 1 ++
          [0xc0, 0x0c, 0, 1, 0, 1, 0, 0, 0, 60, 0, 4, 192, 0, 2, 1])
      else if query.query = [0, 1, 1, 0, 0, 1, 0, 0, 0, 0, 0, 0] ++ dnsExampleBytes 28 then
        .ok ([0, 1, 0x81, 0x80, 0, 1, 0, 0, 0, 0, 0, 0] ++ dnsExampleBytes 28)
      else .error .timeout
    let resolveAddress (kind : HostLookup) (host : String) (port : Nat) :=
      kind.resolveAddress exampleCodec nameFromAscii ask (fun _ _ => .error "no such host")
        { fwmark := some 7 } resolvers (.hostname host port)
    (resolveAddress dotLookup "dns.example" 853).1 = .ok ⟨.v4 ⟨192, 0, 2, 1⟩, 853, 0⟩ ∧
      (resolveAddress dotLookup "dns.example" 853).2.length = 3 ∧
      (∀ query ∈ (resolveAddress dotLookup "dns.example" 853).2, query.routing = {}) ∧
      ∃ e, resolveAddress dohLookup "[::1]" 443 = (.error e, []) := by
  intro nameFromAscii resolvers ask resolveAddress
  have hname := @bootstrap_in_order exampleCodec nameFromAscii ask dotLookup
    (fun _ _ => .error "no such host") { fwmark := some 7 } resolvers "dns.example" "no such host"
    853 rfl
  have haddress := @bootstrap_in_order exampleCodec nameFromAscii ask dohLookup
    (fun _ _ => .error "no such host") { fwmark := some 7 } resolvers "[::1]" "no such host" 443 rfl
  refine ⟨by decide +kernel, by decide +kernel, ?_, haddress.1 .a
    (.protocol "invalid DoH hostname '[::1]': Label contains invalid characters") (.inl rfl)
    (by decide +kernel)⟩
  exact (hname.2 ([0, 1, 1, 0, 0, 1, 0, 0, 0, 0, 0, 0] ++ dnsExampleBytes 1)
    ([0, 1, 1, 0, 0, 1, 0, 0, 0, 0, 0, 0] ++ dnsExampleBytes 28) (by decide +kernel)
    (by decide +kernel)).2

end LookupOrder

end DnsFilter
