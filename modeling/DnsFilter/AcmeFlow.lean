import DnsFilter.Lib.Result

/-!
# Obtaining a certificate

`AcmeManager::run_acme_flow` (`acme/mod.rs`): order a certificate, prove the control of each domain
by a TXT record, wait until the order is ready, fetch the certificate. A run is determined by what
the ACME server and the DNS provider answer (`Answers`); it gives the list of what was done
(`Event`) and a result.

* `PublishedWhileChecked` — a TXT record stays published until the order has been polled or the flow
  has failed.
* `passes_processAuthorizations` — when the loop over the authorizations succeeds, and which records
  it leaves.
* **`publishedWhileChecked_iff`** — the records are deleted before the order is polled, so this holds
  only where no challenge was set ready.
-/

namespace DnsFilter.Acme

inductive DnsProviderError
  | http (error : String)
  | api (status : UInt16) (message : String)
  | zoneNotFound (domain : String)
  | config (message : String)
  deriving DecidableEq

inductive AcmeError
  | protocol (message : String)
  | dnsProvider (error : DnsProviderError)
  | io (error : String)
  | key (message : String)
  | expired
  | config (message : String)
  deriving DecidableEq

/-! ## Answers -/

/-- The statuses that the flow looks at; the others count as their debug text. -/
inductive AuthorizationStatus
  | valid
  | pending
  | other (text : String)
  deriving DecidableEq

inductive OrderStatus
  | ready
  | other (text : String)
  deriving DecidableEq

/-- A DNS-01 challenge, and the answers to `create_txt_record` and `set_ready`. -/
structure Challenge where
  identifier : String
  dnsValue : String
  created : Except DnsProviderError String
  ready : Except String Unit
  deriving DecidableEq

structure Authorization where
  status : AuthorizationStatus
  challenge : Option Challenge
  deriving DecidableEq

/-- What the server, the provider and the disk answer in the course of a run. `account` is the
result of `get_or_create_account`. -/
structure Answers where
  account : Except AcmeError Unit
  order : Except String Unit
  authorizations : List (Except String Authorization)
  deleted : Nat → Except DnsProviderError Unit
  polled : Except String OrderStatus
  finalized : Except String String
  certificate : Except String String
  saved : Except AcmeError Unit
  loaded : Except AcmeError Unit

/-! ## The flow -/

inductive Event
  | newOrder (identifiers : List String)
  | createTxtRecord (domain value recordId : String)
  | sleep (secs : Nat)
  /-- The server was told that the challenge of this record is ready. -/
  | setReady (recordId : String) (result : Except String Unit)
  /-- `process_authorizations` returned an error. -/
  | authorizationsFailed (error : AcmeError)
  | deleteTxtRecord (recordId : String) (result : Except DnsProviderError Unit)
  | pollReady (result : Except String OrderStatus)
  | finalize (result : Except String String)
  | pollCertificate (result : Except String String)
  | saveCertToDisk (result : Except AcmeError Unit)
  | updateResolver
  deriving DecidableEq

/-- What `process_authorizations` did: the records it pushed to `record_ids`, and its result. -/
structure Processed where
  events : List Event
  recordIds : List String
  result : Except AcmeError Unit
  deriving DecidableEq

/-- The loop ends with an error. -/
def Processed.failed (error : AcmeError) : Processed := ⟨[], [], .error error⟩

/-- `process_authorizations`. -/
def processAuthorizations : List (Except String Authorization) → Processed
  | [] => ⟨[], [], .ok ()⟩
  | .error e :: _ => .failed (.protocol ("authorization error: " ++ e))
  | .ok ⟨.valid, _⟩ :: rest => processAuthorizations rest
  | .ok ⟨.other text, _⟩ :: _ =>
      .failed (.protocol ("unexpected authorization status: " ++ text))
  | .ok ⟨.pending, none⟩ :: _ => .failed (.protocol "no DNS-01 challenge available")
  | .ok ⟨.pending, some challenge⟩ :: rest =>
      match challenge.created with
      | .error e => .failed (.dnsProvider e)
      | .ok recordId =>
          let done :=
            [Event.createTxtRecord challenge.identifier challenge.dnsValue recordId, .sleep 60,
              .setReady recordId challenge.ready]
          match challenge.ready with
          | .error e =>
              ⟨done, [recordId], .error (.protocol ("failed to set challenge ready: " ++ e))⟩
          | .ok _ =>
              let processed := processAuthorizations rest
              ⟨done ++ processed.events, recordId :: processed.recordIds, processed.result⟩

/-- The rest of `run_acme_flow`, after the records are deleted. -/
def finishOrder (answers : Answers) : List Event × Except AcmeError Unit :=
  match answers.polled with
  | .error e =>
      ([.pollReady answers.polled], .error (.protocol ("order did not become ready: " ++ e)))
  | .ok (.other text) =>
      ([.pollReady answers.polled], .error (.protocol ("unexpected order status: " ++ text)))
  | .ok .ready =>
      match answers.finalized with
      | .error e =>
          ([.pollReady answers.polled, .finalize answers.finalized],
            .error (.protocol ("failed to finalize order: " ++ e)))
      | .ok _ =>
          let fetched := [.pollReady answers.polled, .finalize answers.finalized,
            .pollCertificate answers.certificate]
          match answers.certificate with
          | .error e => (fetched, .error (.protocol ("failed to get certificate: " ++ e)))
          | .ok _ =>
              let stored := fetched ++ [.saveCertToDisk answers.saved]
              match answers.saved, answers.loaded with
              | .error e, _ => (stored, .error e)
              | .ok _, .error e => (stored, .error e)
              | .ok _, .ok _ => (stored ++ [.updateResolver], .ok ())

/-- The deletion of the TXT records, "even on failure"; its errors are logged only. -/
def cleanup (answers : Answers) (recordIds : List String) : List Event :=
  recordIds.mapIdx fun i recordId => .deleteTxtRecord recordId (answers.deleted i)

/-- `run_acme_flow`. -/
def runAcmeFlow (domains : List String) (answers : Answers) :
    List Event × Except AcmeError Unit :=
  match answers.account with
  | .error e => ([], .error e)
  | .ok _ =>
      match answers.order with
      | .error e => ([.newOrder domains], .error (.protocol ("failed to create order: " ++ e)))
      | .ok _ =>
          let processed := processAuthorizations answers.authorizations
          match processed.result with
          | .error e =>
              (.newOrder domains :: processed.events ++ [.authorizationsFailed e] ++
                cleanup answers processed.recordIds, .error e)
          | .ok _ =>
              (.newOrder domains :: processed.events ++ cleanup answers processed.recordIds ++
                (finishOrder answers).1, (finishOrder answers).2)

/-! ## The authorizations -/

/-- The loop goes on after this answer: the authorization is valid, or its record was created and
its challenge set ready. -/
def Passes : Except String Authorization → Prop
  | .ok ⟨.valid, _⟩ => True
  | .ok ⟨.pending, some challenge⟩ => Succeeds challenge.created ∧ Succeeds challenge.ready
  | _ => False

/-- The authorization is still to be proved. -/
def IsPending : Except String Authorization → Prop
  | .ok authorization => authorization.status = .pending
  | .error _ => False

/-- An event of the loop over the authorizations. -/
def Event.OfLoop : Event → Prop
  | createTxtRecord _ _ _ => True
  | sleep _ => True
  | setReady _ _ => True
  | _ => False

theorem ofLoop_processAuthorizations (authorizations : List (Except String Authorization)) :
    ∀ event ∈ (processAuthorizations authorizations).events, event.OfLoop := by
  fun_induction processAuthorizations authorizations with
  | case1 => simp
  | case2 e rest => simp [Processed.failed]
  | case3 challenge rest ih => exact ih
  | case4 text challenge rest => simp [Processed.failed]
  | case5 rest => simp [Processed.failed]
  | case6 challenge rest e hcreated => simp [Processed.failed]
  | case7 challenge rest recordId hcreated done e hready => simp [done, Event.OfLoop]
  | case8 challenge rest recordId hcreated done _ hready processed ih =>
      have hdone : ∀ event ∈ done, event.OfLoop := by simp [done, Event.OfLoop]
      intro event hevent
      rcases List.mem_append.1 hevent with hevent | hevent
      · exact hdone event hevent
      · exact ih event hevent

/-- The loop succeeds exactly if all answers let it go on. It then leaves a record for each pending
authorization, whose challenge was set ready. -/
theorem passes_processAuthorizations (authorizations : List (Except String Authorization)) :
    (Succeeds (processAuthorizations authorizations).result ↔
        ∀ answer ∈ authorizations, Passes answer) ∧
      (Succeeds (processAuthorizations authorizations).result →
        ((processAuthorizations authorizations).recordIds = [] ↔
          ∀ answer ∈ authorizations, ¬ IsPending answer) ∧
        ∀ recordId ∈ (processAuthorizations authorizations).recordIds,
          ∃ result, .setReady recordId result ∈ (processAuthorizations authorizations).events) := by
  fun_induction processAuthorizations authorizations with
  | case1 => simp
  | case2 e rest => simp [Processed.failed, Passes]
  | case3 challenge rest ih => simpa [Passes, IsPending] using ih
  | case4 text challenge rest => simp [Processed.failed, Passes]
  | case5 rest => simp [Processed.failed, Passes]
  | case6 challenge rest e hcreated => simp [Processed.failed, Passes, hcreated]
  | case7 challenge rest recordId hcreated done e hready => simp [Passes, hready]
  | case8 challenge rest recordId hcreated done _ hready processed ih =>
      obtain ⟨hresult, hrecords⟩ := ih
      constructor
      · simp [processed, hresult, Passes, hcreated, hready]
      · intro hok
        constructor
        · simp [IsPending]
        · intro id hid
          rcases List.mem_cons.1 hid with rfl | hid
          · exact ⟨challenge.ready, by simp [done]⟩
          · obtain ⟨result, hevent⟩ := (hrecords hok).2 id hid
            exact ⟨result, List.mem_append_right _ hevent⟩

/-! ## The records -/

/-- Every record whose challenge was set ready is deleted only after the order was polled or the
flow has failed. -/
def PublishedWhileChecked (trace : List Event) : Prop :=
  ∀ before recordId deleted after, trace = before ++ .deleteTxtRecord recordId deleted :: after →
    (∃ result, .setReady recordId result ∈ before) →
      (∃ result, .pollReady result ∈ before) ∨ ∃ error, .authorizationsFailed error ∈ before

/-- No challenge has a record that is up when the loop over the authorizations succeeds: an answer
before makes the flow fail, or no authorization is pending. -/
def Answers.NothingPublished (answers : Answers) : Prop :=
  Succeeds answers.account → Succeeds answers.order →
    (∀ answer ∈ answers.authorizations, Passes answer) →
      ∀ answer ∈ answers.authorizations, ¬ IsPending answer

/-- The event deletes a record. -/
def Event.Deletes : Event → Prop
  | deleteTxtRecord _ _ => True
  | _ => False

theorem not_deletes_of_ofLoop {event : Event} (h : event.OfLoop) : ¬ event.Deletes := by
  cases event <;> simp [Event.OfLoop, Event.Deletes] at h ⊢

theorem not_deletes_finishOrder (answers : Answers) :
    ∀ event ∈ (finishOrder answers).1, ¬ event.Deletes := by
  unfold finishOrder
  repeat' split
  all_goals simp [Event.Deletes]

theorem publishedWhileChecked_of_no_deletes {trace : List Event}
    (h : ∀ event ∈ trace, ¬ event.Deletes) : PublishedWhileChecked trace := by
  intro before recordId deleted after htrace
  exact absurd trivial (h (.deleteTxtRecord recordId deleted) (by simp [htrace]))

/-- What happened before the first deletion happened before every deletion. -/
theorem mem_before_of_no_deletes {first rest before after : List Event} {recordId : String}
    {deleted : Except DnsProviderError Unit} (hfirst : ∀ event ∈ first, ¬ event.Deletes)
    (h : first ++ rest = before ++ .deleteTxtRecord recordId deleted :: after) :
    ∀ event ∈ first, event ∈ before := by
  rcases List.append_eq_append_iff.1 h with ⟨middle, hbefore, _⟩ | ⟨middle, hlong, hrest⟩
  · intro event hevent
    rw [hbefore]
    exact List.mem_append_left _ hevent
  · cases middle with
    | nil =>
        rw [List.append_nil] at hlong
        rw [hlong]
        exact fun event hevent => hevent
    | cons event middle =>
        obtain ⟨rfl, _⟩ := List.cons.inj hrest
        have hnot := hfirst (.deleteTxtRecord recordId deleted) (by simp [hlong])
        exact absurd trivial hnot

/-- What the flow has done when the loop over the authorizations ends. -/
def untilProcessed (domains : List String) (answers : Answers) : List Event :=
  .newOrder domains :: (processAuthorizations answers.authorizations).events

theorem newOrder_or_ofLoop {domains : List String} {answers : Answers} {event : Event}
    (h : event ∈ untilProcessed domains answers) :
    event = .newOrder domains ∨ event.OfLoop := by
  rcases List.mem_cons.1 h with heq | h
  · exact .inl heq
  · exact .inr (ofLoop_processAuthorizations _ event h)

theorem not_deletes_untilProcessed {domains : List String} {answers : Answers} :
    ∀ event ∈ untilProcessed domains answers, ¬ event.Deletes := by
  intro event hevent
  rcases newOrder_or_ofLoop hevent with rfl | hloop
  · simp [Event.Deletes]
  · exact not_deletes_of_ofLoop hloop

/-- If the loop fails, the deletions come after the failure. -/
theorem publishedWhileChecked_of_failed (domains : List String) (answers : Answers)
    (error : AcmeError) (recordIds : List String) :
    PublishedWhileChecked (untilProcessed domains answers ++ [.authorizationsFailed error] ++
      cleanup answers recordIds) := by
  intro before recordId deleted after htrace _
  right
  refine ⟨error, mem_before_of_no_deletes ?_ htrace _ (by simp)⟩
  intro event hevent
  rcases List.mem_append.1 hevent with hevent | hevent
  · exact not_deletes_untilProcessed event hevent
  · rw [List.mem_singleton.1 hevent]
    simp [Event.Deletes]

/-- If the loop succeeds, the first deletion comes right after it. -/
theorem publishedWhileChecked_of_processed {domains : List String} {answers : Answers}
    {recordIds : List String}
    (hready : ∀ recordId ∈ recordIds,
      ∃ result, .setReady recordId result ∈ untilProcessed domains answers) :
    PublishedWhileChecked (untilProcessed domains answers ++ cleanup answers recordIds ++
      (finishOrder answers).1) ↔ recordIds = [] := by
  cases recordIds with
  | nil =>
      refine iff_of_true (publishedWhileChecked_of_no_deletes ?_) rfl
      intro event hevent
      rcases List.mem_append.1 hevent with hevent | hevent
      · rw [cleanup, List.mapIdx_nil, List.append_nil] at hevent
        exact not_deletes_untilProcessed event hevent
      · exact not_deletes_finishOrder answers event hevent
  | cons recordId recordIds =>
      refine iff_of_false ?_ (by simp)
      intro h
      have hset := hready recordId (by simp)
      have hfirst := h (untilProcessed domains answers) recordId (answers.deleted 0)
        (recordIds.mapIdx (fun i id => .deleteTxtRecord id (answers.deleted (i + 1))) ++
          (finishOrder answers).1) (by simp [cleanup, List.mapIdx_cons]) hset
      rcases hfirst with ⟨polled, hpolled⟩ | ⟨e, hfailed⟩
      · rcases newOrder_or_ofLoop hpolled with heq | hloop
        · exact absurd heq (by simp)
        · exact hloop
      · rcases newOrder_or_ofLoop hfailed with heq | hloop
        · exact absurd heq (by simp)
        · exact hloop

/-- **TXT records are published while the server checks them only where none is to be checked.** The
records are deleted between the loop over the authorizations and the polling of the order, so they
are gone too early as soon as the loop succeeds with a pending authorization. -/
theorem publishedWhileChecked_iff (domains : List String) (answers : Answers) :
    PublishedWhileChecked (runAcmeFlow domains answers).1 ↔ answers.NothingPublished := by
  unfold Answers.NothingPublished runAcmeFlow
  cases haccount : answers.account with
  | error e => exact iff_of_true (publishedWhileChecked_of_no_deletes (by simp)) (by simp)
  | ok _ =>
      cases horder : answers.order with
      | error e =>
          exact iff_of_true (publishedWhileChecked_of_no_deletes (by simp [Event.Deletes]))
            (by simp)
      | ok _ =>
          obtain ⟨hpasses, hrecords⟩ := passes_processAuthorizations answers.authorizations
          simp only [succeeds_ok, forall_const, ← hpasses]
          cases hresult : (processAuthorizations answers.authorizations).result with
          | error e =>
              exact iff_of_true (publishedWhileChecked_of_failed domains answers e _) (by simp)
          | ok _ =>
              obtain ⟨hnil, hready⟩ := hrecords (hresult ▸ succeeds_ok _)
              simp only [succeeds_ok, forall_const, ← hnil]
              apply publishedWhileChecked_of_processed
              intro recordId hid
              obtain ⟨result, hevent⟩ := hready recordId hid
              exact ⟨result, List.mem_cons_of_mem _ hevent⟩

/-- One pending authorization, and an answer without an error to every request. -/
def oneDomain : Answers where
  account := .ok ()
  order := .ok ()
  authorizations := [.ok ⟨.pending, some
    { identifier := "dns.example.com", dnsValue := "token", created := .ok "record-1"
      ready := .ok () }⟩]
  deleted := fun _ => .ok ()
  polled := .ok .ready
  finalized := .ok "key"
  certificate := .ok "chain"
  saved := .ok ()
  loaded := .ok ()

/-- The record is deleted before the order is polled. -/
theorem record_deleted_before_poll :
    runAcmeFlow ["dns.example.com"] oneDomain =
        ([.newOrder ["dns.example.com"],
          .createTxtRecord "dns.example.com" "token" "record-1", .sleep 60,
          .setReady "record-1" (.ok ()), .deleteTxtRecord "record-1" (.ok ()),
          .pollReady (.ok .ready), .finalize (.ok "key"), .pollCertificate (.ok "chain"),
          .saveCertToDisk (.ok ()), .updateResolver], .ok ()) ∧
      ¬ PublishedWhileChecked (runAcmeFlow ["dns.example.com"] oneDomain).1 := by
  refine ⟨rfl, ?_⟩
  intro h
  have hdeleted := h [.newOrder ["dns.example.com"],
      .createTxtRecord "dns.example.com" "token" "record-1", .sleep 60,
      .setReady "record-1" (.ok ())] "record-1" (.ok ()) _ rfl ⟨.ok (), by simp⟩
  simp at hdeleted

end DnsFilter.Acme
