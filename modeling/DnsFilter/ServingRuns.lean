import DnsFilter.Lib.Trace
import DnsFilter.Serving

/-!
# Requests among others

What becomes of a request while the rest of the server goes on.

* `served_as_if_alone` — every request is answered as the pipeline that was installed when it came
  answers it alone.
* `blocked_in_flight` — a name that is blocked all the while reaches no resolver but the bypass
  zone's, even while other pipelines are installed.
* `requests_end` — every request is answered after at most ten steps of its own, and one for each
  list of its filter.
-/

namespace DnsFilter

/-! ## Requests among others -/

namespace InFlight

variable {ρ φ : Type*} {codec : MessageCodec} {flag : Bool} {engine : ListFilterEngine}
  {r r' : InFlight ρ φ}

/-- The flags of the lists that the request has read. -/
def listFlags : RequestPhase ρ → List Bool
  | .blocked _ _ flags => flags
  | _ => []

/-- A step reads the flag or the filter as it is at present, or nothing. When it reads the lists, it
has read all their flags. -/
theorem read_advance (h : r.advance codec flag engine = some r') :
    (∀ b ∈ r'.flagRead, r.flagRead = some b ∨ b = flag) ∧
      (∀ e ∈ r'.decisionRead, r.decisionRead = some e ∨ e = engine) ∧
      ∀ e ∈ r'.blockRead, r.blockRead = some e ∨
        (engine.runtimes.length ≤ (listFlags r.phase).length ∧
          e = engine.withFlags (listFlags r.phase)) := by
  cases advanced h with
  | switchedOff | noQuestion | toDecide =>
      exact ⟨fun b hb => .inr (Option.some.inj hb).symm, fun e he => .inl he, fun e he => .inl he⟩
  | allowed | neutral | toBlock =>
      exact ⟨fun b hb => .inl hb, fun e he => .inr (Option.some.inj he).symm, fun e he => .inl he⟩
  | sinkhole hphase hread =>
      refine ⟨fun b hb => .inl hb, fun e he => .inl he, fun e he => .inr ?_⟩
      rw [hphase]
      exact ⟨List.getElem?_eq_none_iff.1 hread, (Option.some.inj he).symm⟩
  | _ => exact ⟨fun b hb => .inl hb, fun e he => .inl he, fun e he => .inl he⟩

/-- Each flag of a list that it has read afterwards it had read before, or it is that list's at
present. -/
theorem listFlags_advance (h : r.advance codec flag engine = some r') {k : Nat} {b : Bool}
    (hb : (listFlags r'.phase)[k]? = some b) :
    (listFlags r.phase)[k]? = some b ∨
      (engine.runtimes[k]?).map ListRuntime.runtimeDisabled = some b := by
  cases advanced h with
  | @readFlag message domain flags runtime hphase hruntime =>
      rw [hphase]
      rcases Nat.lt_or_ge k flags.length with hk | hk
      · refine .inl ?_
        rwa [goOn, listFlags, List.getElem?_append_left hk] at hb
      · rw [goOn, listFlags, List.getElem?_append_right hk, List.getElem?_singleton] at hb
        split at hb
        · rename_i hzero
          obtain rfl : k = flags.length := by omega
          rw [hruntime]
          exact .inr hb
        · cases hb
  | @noZone bypass => cases bypass <;> simp [goOn, afterZones, listFlags] at hb
  | _ => simp [goOn, listFlags] at hb

theorem listFlags_answer {result : Except UpstreamResolveError Bytes}
    (h : r.answer codec result = some r') : listFlags r'.phase = [] := by
  cases replied h with
  | @zoneFails bypass => cases bypass <;> rfl
  | _ => rfl

end InFlight

namespace Serving

variable {ρ φ : Type*} [DecidableEq φ] {codec : MessageCodec} {s s' t : Serving ρ φ} {i : Nat}
  {r : InFlight ρ φ} {l : ServingStep ρ φ} {ls : List (ServingStep ρ φ)}

/-- What a step does to a request that is there: nothing, unless it is its own. -/
theorem step_request (h : s.step codec l = some s') (hi : s.requests i = some r) :
    (s'.requests i = some r ∧ l ≠ .advance i ∧ ∀ result, l ≠ .answer i result) ∨
      (∃ r', l = .advance i ∧ s'.requests i = some r' ∧
        r.advance codec s.filteringEnabled (s.filters r.pipeline.filter) = some r') ∨
      ∃ result r', l = .answer i result ∧ s'.requests i = some r' ∧
        r.answer codec result = some r' := by
  have hother : ∀ {j : Nat} {f : InFlight ρ φ → Option (InFlight ρ φ)}, j ≠ i →
      s.stepRequest j f = some s' → s'.requests i = some r := by
    intro j f hj hstep
    obtain ⟨r', -, rfl⟩ := Option.map_eq_some_iff.1 hstep
    simpa [Function.update_of_ne (Ne.symm hj)] using hi
  have hown : ∀ {f : InFlight ρ φ → Option (InFlight ρ φ)}, s.stepRequest i f = some s' →
      ∃ r', f r = some r' ∧ s'.requests i = some r' := by
    intro f hstep
    obtain ⟨r', hr', rfl⟩ := Option.map_eq_some_iff.1 hstep
    rw [hi, Option.bind_some] at hr'
    exact ⟨r', hr', by simp⟩
  cases l with
  | install pipeline | setFiltering enabled =>
      obtain rfl := Option.some.inj h
      exact .inl ⟨hi, by simp, by simp⟩
  | filterChanges filter engine =>
      obtain ⟨-, heq⟩ := Option.ite_none_right_eq_some.1 h
      obtain rfl := Option.some.inj heq
      exact .inl ⟨hi, by simp, by simp⟩
  | receive j metadata query =>
      simp only [step] at h
      split at h
      · cases h
      · rename_i hj
        obtain rfl := Option.some.inj h
        have hne : i ≠ j := by
          rintro rfl
          rw [hi] at hj
          cases hj
        exact .inl ⟨by simpa [Function.update_of_ne hne] using hi, by simp, by simp⟩
  | advance j =>
      by_cases hj : j = i
      · subst hj
        obtain ⟨r', hr', hi'⟩ := hown h
        exact .inr (.inl ⟨r', rfl, hi', hr'⟩)
      · exact .inl ⟨hother hj h, by simpa using hj, by simp⟩
  | answer j result =>
      by_cases hj : j = i
      · subst hj
        obtain ⟨r', hr', hi'⟩ := hown h
        exact .inr (.inr ⟨result, r', rfl, hi', hr'⟩)
      · exact .inl ⟨hother hj h, by simp, by simp [hj]⟩

/-- Each of these flags was that of its list at some time, one perhaps at another than the other. -/
def FlagsRead (codec : MessageCodec) (s' : Serving ρ φ) (filter : φ) (ls : List (ServingStep ρ φ))
    (flags : List Bool) : Prop :=
  ∀ (k : Nat) b, flags[k]? = some b → Passes (step codec) s' ls fun u =>
    ((u.filters filter).runtimes[k]?).map ListRuntime.runtimeDisabled = some b

theorem FlagsRead.append {filter : φ} {flags : List Bool} (h : FlagsRead codec s' filter ls flags)
    (more : List (ServingStep ρ φ)) : FlagsRead codec s' filter (ls ++ more) flags :=
  fun k b hb => (h k b hb).append more

/-- What is known of a request a while after it came. -/
structure Since (codec : MessageCodec) (s' : Serving ρ φ) (pipeline : InstalledPipeline ρ φ)
    (metadata : Metadata) (query : Bytes) (ls : List (ServingStep ρ φ)) (r : InFlight ρ φ) :
    Prop where
  pipeline_eq : r.pipeline = pipeline
  metadata_eq : r.metadata = metadata
  request_eq : r.request = .new query
  sound : r.Sound codec
  flag : ∀ b ∈ r.flagRead, Passes (step codec) s' ls (·.filteringEnabled = b)
  decision : ∀ e ∈ r.decisionRead, Passes (step codec) s' ls (·.filters pipeline.filter = e)
  listFlags : FlagsRead codec s' pipeline.filter ls (InFlight.listFlags r.phase)
  block : ∀ e ∈ r.blockRead, ∃ flags, FlagsRead codec s' pipeline.filter ls flags ∧
    Passes (step codec) s' ls fun u =>
      (u.filters pipeline.filter).runtimes.length ≤ flags.length ∧
        e = (u.filters pipeline.filter).withFlags flags

variable {pipeline : InstalledPipeline ρ φ} {metadata : Metadata} {query : Bytes}

theorem Since.append (h : Since codec s' pipeline metadata query ls r)
    (more : List (ServingStep ρ φ)) :
    Since codec s' pipeline metadata query (ls ++ more) r where
  pipeline_eq := h.pipeline_eq
  metadata_eq := h.metadata_eq
  request_eq := h.request_eq
  sound := h.sound
  flag b hb := (h.flag b hb).append more
  decision e he := (h.decision e he).append more
  listFlags := h.listFlags.append more
  block e he := by
    obtain ⟨flags, hflags, hread⟩ := h.block e he
    exact ⟨flags, hflags.append more, hread.append more⟩

theorem Since.advance {u : Serving ρ φ} {r' : InFlight ρ φ}
    (h : Since codec s' pipeline metadata query ls r) (hu : run (step codec) s' ls = some u)
    (hstep : r.advance codec u.filteringEnabled (u.filters r.pipeline.filter) = some r') :
    Since codec s' pipeline metadata query ls r' := by
  obtain ⟨hpipeline, hrequest, hmetadata, -⟩ := InFlight.frame_advance hstep
  obtain ⟨hflag, hdecision, hblock⟩ := InFlight.read_advance hstep
  have hfilter : r.pipeline.filter = pipeline.filter := congrArg _ h.pipeline_eq
  rw [hfilter] at hdecision hblock hstep
  refine ⟨hpipeline.trans h.pipeline_eq, hmetadata.trans h.metadata_eq,
    hrequest.trans h.request_eq, h.sound.advance hstep, fun b hb => ?_, fun e he => ?_,
    fun k b hb => ?_, fun e he => ?_⟩
  · rcases hflag b hb with hold | hnew
    · exact h.flag b hold
    · exact passes_end hu hnew.symm
  · rcases hdecision e he with hold | hnew
    · exact h.decision e hold
    · exact passes_end hu hnew.symm
  · rcases InFlight.listFlags_advance hstep hb with hold | hnew
    · exact h.listFlags k b hold
    · exact passes_end hu hnew
  · rcases hblock e he with hold | hnew
    · exact h.block e hold
    · exact ⟨_, h.listFlags, passes_end hu hnew⟩

theorem Since.answer {result : Except UpstreamResolveError Bytes} {r' : InFlight ρ φ}
    (h : Since codec s' pipeline metadata query ls r) (hstep : r.answer codec result = some r') :
    Since codec s' pipeline metadata query ls r' := by
  obtain ⟨hpipeline, hrequest, hmetadata, hflag, hdecision, hblock⟩ := InFlight.frame_answer hstep
  refine ⟨hpipeline.trans h.pipeline_eq, hmetadata.trans h.metadata_eq,
    hrequest.trans h.request_eq, h.sound.answer hstep, hflag ▸ h.flag, hdecision ▸ h.decision,
    ?_, hblock ▸ h.block⟩
  rw [InFlight.listFlags_answer hstep]
  exact nofun

/-- Whatever happens, a request goes on as it came. -/
theorem since_run (hreceive : s.step codec (.receive i metadata query) = some s')
    (hrun : run (step codec) s' ls = some t) :
    ∃ r, t.requests i = some r ∧ Since codec s' s.slot metadata query ls r := by
  refine @run_history _ _ _ (fun ls t => ∃ r, t.requests i = some r ∧
    Since codec s' s.slot metadata query ls r) s' ?_ ?_ _ _ hrun
  · simp only [step] at hreceive
    split at hreceive
    · cases hreceive
    · obtain rfl := Option.some.inj hreceive
      exact ⟨.begin s.slot metadata query, by simp, rfl, rfl, rfl, InFlight.sound_begin _ _ _,
        nofun, nofun, nofun, nofun⟩
  · intro ls u l v hu ⟨r, hr, hsince⟩ hstep
    rcases step_request hstep hr with ⟨hr', -⟩ | ⟨r', -, hr', hadvance⟩ |
      ⟨result, r', -, hr', hanswer⟩
    · exact ⟨r, hr', hsince.append [l]⟩
    · exact ⟨r', hr', (hsince.advance hu hadvance).append [l]⟩
    · exact ⟨r', hr', (hsince.answer hanswer).append [l]⟩

/-- The flag and a filter as the request has read them; what it has not read is as at the end. -/
theorem Since.exists_reads (h : Since codec s' pipeline metadata query ls r)
    (hrun : run (step codec) s' ls = some t) :
    ∃ flag filter flags, r.Reads flag filter ∧
      Passes (step codec) s' ls (·.filteringEnabled = flag) ∧
      Passes (step codec) s' ls
        (fun u => filter.decideDomain = (u.filters pipeline.filter).decideDomain) ∧
      FlagsRead codec s' pipeline.filter ls flags ∧
      Passes (step codec) s' ls fun u =>
        (u.filters pipeline.filter).runtimes.length ≤ flags.length ∧
          filter.blockedBy = ((u.filters pipeline.filter).withFlags flags).blockedBy ∧
          filter.sinkholeIpv4 = (u.filters pipeline.filter).sinkholeV4 ∧
          filter.sinkholeIpv6 = (u.filters pipeline.filter).sinkholeV6 := by
  have hread : ∀ {β : Type _} (read : Option β) (now : Serving ρ φ → β),
      (∀ b ∈ read, Passes (step codec) s' ls (now · = b)) →
        ∃ b, (∀ b' ∈ read, b = b') ∧ Passes (step codec) s' ls (now · = b) := by
    intro β read now hpasses
    cases read with
    | none => exact ⟨now t, nofun, passes_end hrun rfl⟩
    | some b => exact ⟨b, fun b' hb => Option.some.inj hb, hpasses b rfl⟩
  obtain ⟨flag, hflag, hflagNow⟩ := hread r.flagRead (·.filteringEnabled) h.flag
  obtain ⟨d, hd, hdNow⟩ := hread r.decisionRead (·.filters pipeline.filter) h.decision
  obtain ⟨b, flags, hb, hflags, hbNow⟩ : ∃ b flags, (∀ b' ∈ r.blockRead, b = b') ∧
      FlagsRead codec s' pipeline.filter ls flags ∧
      Passes (step codec) s' ls fun u =>
        (u.filters pipeline.filter).runtimes.length ≤ flags.length ∧
          b = (u.filters pipeline.filter).withFlags flags := by
    cases hread : r.blockRead with
    | none =>
        refine ⟨_, (t.filters pipeline.filter).runtimes.map (·.runtimeDisabled), nofun,
          fun k b hb => passes_end hrun ?_, passes_end hrun ⟨by simp, rfl⟩⟩
        rwa [List.getElem?_map] at hb
    | some b =>
        obtain ⟨flags, hflags, hnow⟩ := h.block b hread
        exact ⟨b, flags, fun b' hb => Option.some.inj hb, hflags, hnow⟩
  refine ⟨flag, ⟨d.decideDomain, b.blockedBy, b.sinkholeV4, b.sinkholeV6⟩, flags,
    ⟨hflag, ?_, ?_⟩, hflagNow, ?_, hflags, ?_⟩
  · intro e he
    rw [← hd e he]
  · intro e he
    rw [← hb e he]
    exact ⟨rfl, rfl, rfl⟩
  · refine hdNow.imp fun u hu => ?_
    rw [hu]
  · refine hbNow.imp fun u hu => ?_
    rw [hu.2]
    exact ⟨hu.1, rfl, rfl, rfl⟩

/-- **Every request is served as if it were alone.** Whatever is installed, switched, refreshed and
served in the meantime, a request gets the answer, asks the resolvers and counts the metrics of one
undisturbed pass through the pipeline that was installed when it came, with resolvers that answer as
they did, with the flag and the decisions as they were at some time while it was in flight, and with
block data that were put together from the lists as they were at some such time and the flag of each
list as it was at some such time. -/
theorem served_as_if_alone (hreceive : s.step codec (.receive i metadata query) = some s')
    (hrun : run (step codec) s' ls = some t) {r : InFlight ρ φ} (hi : t.requests i = some r)
    {response : Bytes} (hdone : r.phase = .answered response) :
    r.reply codec = some (hickoryReply codec metadata (.ok (some response))) ∧
      ∃ oracle flag filter flags, r.Agrees oracle ∧
        handleRequest (buildDnsRequestPipelineFull codec oracle s.slot.resolver filter
          s.slot.anyQueryPolicy s.slot.zoneEntries (some flag)) [] (.new query) =
            (.ok (some response), r.log) ∧
        Passes (step codec) s' ls (·.filteringEnabled = flag) ∧
        Passes (step codec) s' ls
          (fun u => filter.decideDomain = (u.filters s.slot.filter).decideDomain) ∧
        FlagsRead codec s' s.slot.filter ls flags ∧
        Passes (step codec) s' ls fun u =>
          (u.filters s.slot.filter).runtimes.length ≤ flags.length ∧
            filter.blockedBy = ((u.filters s.slot.filter).withFlags flags).blockedBy ∧
            filter.sinkholeIpv4 = (u.filters s.slot.filter).sinkholeV4 ∧
            filter.sinkholeIpv6 = (u.filters s.slot.filter).sinkholeV6 := by
  obtain ⟨r', hr', hsince⟩ := since_run hreceive hrun
  obtain rfl := Option.some.inj (hi.symm.trans hr')
  obtain ⟨flag, filter, flags, hreads, hnow⟩ := hsince.exists_reads hrun
  obtain ⟨oracle, hagrees⟩ := hsince.sound.inOrder.exists_agrees
  have halone := hsince.sound.resume_eq oracle flag filter hreads hagrees
  rw [InFlight.alone, hsince.pipeline_eq, hsince.request_eq] at halone
  refine ⟨?_, oracle, flag, filter, flags, hagrees, halone.symm.trans ?_, hnow⟩
  · rw [InFlight.reply, hdone, hsince.metadata_eq]
    rfl
  · simp only [InFlight.resume, hdone]

/-! A request for a blocked name, during which another pipeline is installed and its list is
disabled. -/

/-- A pipeline with a bypass zone for `ads.example` and one for `example`. -/
def adsPipeline : InstalledPipeline Nat Nat where
  resolver := 0
  filter := 0
  anyQueryPolicy := .notImp
  zoneEntries :=
    [⟨"example", false, false, 1⟩, ⟨"ads.example", true, true, 2⟩, ⟨"example", true, false, 3⟩]

/-- An engine with one list, which blocks `ads.example`. -/
def adsEngine (disabled : Bool) : ListFilterEngine where
  sinkholeV4 := blockAll.sinkholeIpv4
  sinkholeV6 := blockAll.sinkholeIpv6
  runtimes :=
    [{ name := "ads", url := "https://lists.example/ads", key := "block:ads", format := .domains
       kind := .block, interval := defaultListIntervalSecs, runtimeDisabled := disabled }]
  lists := AList.singleton "block:ads" ⟨.block, {"ads.example"}, ∅⟩
  snapshot := ⟨{"ads.example"}, ∅⟩

def adsServing : Serving Nat Nat where
  slot := adsPipeline
  filteringEnabled := true
  filters := fun _ => adsEngine false
  requests := fun _ => none

/-- The bypass zone fails, after a pipeline without zones has been installed and another request
has been received. The list is disabled between the decision and the question which lists block;
the snapshot is not rebuilt yet. -/
def adsSteps : List (ServingStep Nat Nat) :=
  [.advance 0, .install { adsPipeline with filter := 1, zoneEntries := [] },
    .receive 1 adsQuery.metadata adsQueryBytes, .answer 0 (.error .timeout), .advance 0,
    .advance 1, .advance 0, .filterChanges 0 (adsEngine true), .advance 0, .advance 0]

theorem eq_answered_of_response {ρ : Type*} {phase : RequestPhase ρ} {response : Bytes}
    (h : phase.response = some response) : phase = .answered response := by
  cases phase with
  | answered _ => rw [Option.some.inj h]
  | _ => cases h

theorem exists_adsServed :
    ∃ s' t r response, adsServing.step adsCodec (.receive 0 adsQuery.metadata adsQueryBytes) =
        some s' ∧
      run (step adsCodec) s' adsSteps = some t ∧ t.requests 0 = some r ∧
      r.phase = .answered response ∧
      AllSteps (step adsCodec) (fun u _ => u.filteringEnabled = true ∧
        (u.filters adsPipeline.filter).decideDomain "ads.example." = .block) s' adsSteps := by
  have hany : (adsServing.step adsCodec (.receive 0 adsQuery.metadata adsQueryBytes)).any
      (fun s' => decide (AllSteps (step adsCodec) (fun u _ => u.filteringEnabled = true ∧
          (u.filters adsPipeline.filter).decideDomain "ads.example." = .block) s' adsSteps) &&
        (run (step adsCodec) s' adsSteps).any fun t =>
          (t.requests 0).any (·.phase.response.isSome)) = true := by
    decide +kernel
  obtain ⟨s', hreceive, htest⟩ := (Option.any_eq_true _ _).1 hany
  rw [Bool.and_eq_true, decide_eq_true_eq] at htest
  obtain ⟨t, hrun, hserved⟩ := exists_run_of_any htest.2
  obtain ⟨r, hr, hanswered⟩ := (Option.any_eq_true _ _).1 hserved
  obtain ⟨response, hresponse⟩ := Option.isSome_iff_exists.1 hanswered
  exact ⟨s', t, r, response, hreceive, hrun, hr, eq_answered_of_response hresponse, htest.1⟩

theorem served_as_if_alone_ads :
    ∃ s' t r response oracle flag filter flags,
      run (step adsCodec) s' adsSteps = some t ∧ t.requests 0 = some r ∧
      InFlight.Agrees oracle r ∧
      handleRequest (buildDnsRequestPipelineFull adsCodec oracle 0 filter .notImp
        adsPipeline.zoneEntries (some flag)) [] (.new adsQueryBytes) =
          (.ok (some response), r.log) ∧
      Passes (step adsCodec) s' adsSteps (·.filteringEnabled = flag) ∧
      FlagsRead adsCodec s' 0 adsSteps flags := by
  obtain ⟨s', t, r, response, hreceive, hrun, hr, hdone, -⟩ := exists_adsServed
  obtain ⟨-, oracle, flag, filter, flags, hagrees, halone, hflag, -, hflags, -⟩ :=
    served_as_if_alone hreceive hrun hr hdone
  exact ⟨s', t, r, response, oracle, flag, filter, flags, hrun, hr, hagrees, halone, hflag, hflags⟩

end Serving

/-! ## Blocked names -/

namespace InFlight

variable {ρ φ : Type*} {codec : MessageCodec} {flag : Bool} {engine : ListFilterEngine}
  {r r' : InFlight ρ φ} {message : Message} {question : Query}

/-- Where a request for a blocked name can be, and whom it has asked by then. -/
def OnBlockedPath (message : Message) (domain : String) (bypass : Option (ZoneEntry ρ))
    (calls : List (ρ × Bytes)) : RequestPhase ρ → Prop
  | .zones inBypass => inBypass = true ∧ calls = []
  | .zoneAsked inBypass entry => inBypass = true ∧ bypass = some entry
  | .flag | .answered _ => True
  | .decision m d | .blocked m d _ => m = message ∧ d = domain
  | .anyPolicy | .upstream | .upstreamAsked => False

/-- The request has asked at most the bypass zone, once. -/
def AsksBypassOnly (bypass : Option (ZoneEntry ρ)) (query : Bytes) (calls : List (ρ × Bytes)) :
    Prop :=
  calls = [] ∨ ∃ entry, bypass = some entry ∧ calls = [(entry.resolver, query)]

/-- The response is that of the bypass zone, or of the sinkhole as it was read. -/
def HeldBack (codec : MessageCodec) (message : Message) (bypass : Option (ZoneEntry ρ))
    (r : InFlight ρ φ) (response : Bytes) : Prop :=
  (∃ entry answer, bypass = some entry ∧ answer ∈ r.answers ∧ answer.resolver = entry.resolver ∧
      zoneAnswer codec r.request entry answer.result = some response) ∨
    ∃ engine ∈ r.blockRead,
      response = buildSinkholeResponse codec message engine.sinkholeV4 engine.sinkholeV6

/-- A request for a blocked name, at any time. -/
structure Blocked (codec : MessageCodec) (message : Message) (question : Query)
    (r : InFlight ρ φ) : Prop where
  path : OnBlockedPath message question.name.toAscii
    (matchingEntry (bypassOnly r.pipeline.zoneEntries) question.name.toAscii)
    (resolverCalls r.log) r.phase
  calls : AsksBypassOnly (matchingEntry (bypassOnly r.pipeline.zoneEntries) question.name.toAscii)
    r.request.query (resolverCalls r.log)
  response : ∀ response, r.phase = .answered response → HeldBack codec message
    (matchingEntry (bypassOnly r.pipeline.zoneEntries) question.name.toAscii) r response

theorem Blocked.advance (hr : r.Blocked codec message question)
    (hmessage : codec.fromVec r.request.query = some message)
    (hquestion : message.queries.head? = some question) (hflag : flag = true)
    (hdecide : engine.decideDomain question.name.toAscii = .block)
    (h : r.advance codec flag engine = some r') : r'.Blocked codec message question := by
  have hname : extractQueryName codec r.request.query = some question.name.toAscii :=
    extractQueryName_eq hmessage hquestion
  have hpath := hr.path
  cases advanced h with
  | @noZone bypass hphase hentry =>
      rw [hphase] at hpath
      obtain ⟨rfl, hcalls⟩ := hpath
      refine ⟨trivial, ?_, fun _ hresponse => by cases hresponse⟩
      simpa [goOn] using hr.calls
  | @askZone bypass entry hphase hentry =>
      rw [hphase] at hpath
      obtain ⟨rfl, hcalls⟩ := hpath
      rw [hname, Option.bind_some] at hentry
      refine ⟨⟨rfl, hentry⟩, .inr ⟨entry, hentry, ?_⟩, fun _ hresponse => by cases hresponse⟩
      simp only [goOn, resolverCalls_append, hcalls]
      rfl
  | switchedOff hphase hoff =>
      rw [hflag] at hoff
      cases hoff
  | noQuestion hphase hon hnone => simp [hmessage, hquestion] at hnone
  | @toDecide message' question' hphase hon hmessage' hquestion' =>
      obtain rfl := Option.some.inj (hmessage.symm.trans hmessage')
      obtain rfl := Option.some.inj (hquestion.symm.trans hquestion')
      refine ⟨⟨rfl, rfl⟩, ?_, fun _ hresponse => by cases hresponse⟩
      simpa [goOn] using hr.calls
  | allowed hphase hallow | neutral hphase hallow =>
      rw [hphase] at hpath
      rw [hpath.2, hdecide] at hallow
      cases hallow
  | @toBlock message' domain hphase hblock =>
      rw [hphase] at hpath
      refine ⟨hpath, ?_, fun _ hresponse => by cases hresponse⟩
      simpa [goOn] using hr.calls
  | readFlag hphase hruntime =>
      rw [hphase] at hpath
      refine ⟨hpath, ?_, fun _ hresponse => by cases hresponse⟩
      simpa [goOn] using hr.calls
  | @sinkhole message' domain flags hphase =>
      rw [hphase] at hpath
      obtain ⟨rfl, rfl⟩ := hpath
      refine ⟨trivial, ?_, fun response hresponse => .inr ⟨engine.withFlags flags, rfl, ?_⟩⟩
      · simpa [goOn, resolverCalls] using hr.calls
      · exact (RequestPhase.answered.inj hresponse).symm
  | refused hphase | notAny hphase | askUpstream hphase =>
      rw [hphase] at hpath
      exact hpath.elim

theorem Blocked.answer {result : Except UpstreamResolveError Bytes}
    (hr : r.Blocked codec message question) (h : r.answer codec result = some r') :
    r'.Blocked codec message question := by
  have hpath := hr.path
  cases replied h with
  | @zoneReplies bypass entry response hphase hanswer =>
      rw [hphase] at hpath
      refine ⟨trivial, by simpa [goOn, noteAnswer] using hr.calls, fun response' hresponse => ?_⟩
      obtain rfl := RequestPhase.answered.inj hresponse
      exact .inl ⟨entry, _, hpath.2, List.mem_append_right _ List.mem_cons_self, rfl, hanswer⟩
  | @zoneFails bypass entry hphase hanswer =>
      rw [hphase] at hpath
      obtain ⟨rfl, -⟩ := hpath
      exact ⟨trivial, by simpa [goOn, noteAnswer] using hr.calls, fun _ hresponse => by cases hresponse⟩
  | upstreamReplies hphase =>
      rw [hphase] at hpath
      exact hpath.elim

end InFlight

namespace Serving

variable {ρ φ : Type*} [DecidableEq φ] {codec : MessageCodec} {s s' t : Serving ρ φ} {i : Nat}
  {metadata : Metadata} {query : Bytes} {ls : List (ServingStep ρ φ)}

/-- **A blocked name leaves the server for nobody but the bypass zone.** While filtering is on and
the filter of the pipeline installed when the request came blocks its name, then, whatever else
happens, the request asks no resolver except that of the bypass zone that matches, and that at most
once; and its answer, once there is one, is the zone's or the sinkhole's. -/
theorem blocked_in_flight {message : Message} {question : Query}
    (hreceive : s.step codec (.receive i metadata query) = some s')
    (hrun : run (step codec) s' ls = some t) (hmessage : codec.fromVec query = some message)
    (hquestion : message.queries.head? = some question)
    (hblocked : AllSteps (step codec) (fun u _ => u.filteringEnabled = true ∧
      (u.filters s.slot.filter).decideDomain question.name.toAscii = .block) s' ls) :
    ∃ r, t.requests i = some r ∧
      (resolverCalls r.log = [] ∨
        ∃ entry, matchingEntry (bypassOnly s.slot.zoneEntries) question.name.toAscii = some entry ∧
          resolverCalls r.log = [(entry.resolver, query)]) ∧
      ∀ response, r.phase = .answered response → InFlight.HeldBack codec message
        (matchingEntry (bypassOnly s.slot.zoneEntries) question.name.toAscii) r response := by
  have hstart : ∃ r, s'.requests i = some r ∧ r.pipeline = s.slot ∧ r.request = .new query ∧
      r.Blocked codec message question := by
    simp only [step] at hreceive
    split at hreceive
    · cases hreceive
    · obtain rfl := Option.some.inj hreceive
      exact ⟨.begin s.slot metadata query, by simp, rfl, rfl, ⟨rfl, rfl⟩, .inl rfl, nofun⟩
  have hkept : ∀ u l v, (∃ r, u.requests i = some r ∧ r.pipeline = s.slot ∧
      r.request = .new query ∧ r.Blocked codec message question) →
      (u.filteringEnabled = true ∧
        (u.filters s.slot.filter).decideDomain question.name.toAscii = .block) →
      step codec u l = some v →
      ∃ r, v.requests i = some r ∧ r.pipeline = s.slot ∧ r.request = .new query ∧
        r.Blocked codec message question := by
    intro u l v ⟨r, hr, hpipeline, hrequest, hblocked⟩ ⟨hflag, hdecide⟩ hstep
    rcases step_request hstep hr with ⟨hr', -⟩ | ⟨r', -, hr', hadvance⟩ |
      ⟨result, r', -, hr', hanswer⟩
    · exact ⟨r, hr', hpipeline, hrequest, hblocked⟩
    · obtain ⟨hpipeline', hrequest', -⟩ := InFlight.frame_advance hadvance
      refine ⟨r', hr', hpipeline'.trans hpipeline, hrequest'.trans hrequest,
        hblocked.advance ?_ hquestion hflag (hpipeline ▸ hdecide) hadvance⟩
      rw [hrequest]
      exact hmessage
    · obtain ⟨hpipeline', hrequest', -⟩ := InFlight.frame_answer hanswer
      exact ⟨r', hr', hpipeline'.trans hpipeline, hrequest'.trans hrequest,
        hblocked.answer hanswer⟩
  obtain ⟨r, hr, hpipeline, hrequest, hblocked⟩ :=
    run_invariant_of_allSteps hkept hrun hblocked hstart
  obtain ⟨-, hcalls, hresponse⟩ := hblocked
  rw [hpipeline, hrequest] at hcalls
  rw [hpipeline] at hresponse
  exact ⟨r, hr, hcalls, hresponse⟩

theorem blocked_in_flight_ads :
    ∃ s' t r, run (step adsCodec) s' adsSteps = some t ∧ t.requests 0 = some r ∧
      (resolverCalls r.log = [] ∨
        ∃ entry, matchingEntry (bypassOnly adsPipeline.zoneEntries) "ads.example." = some entry ∧
          resolverCalls r.log = [(entry.resolver, adsQueryBytes)]) ∧
      ∃ response, r.phase = .answered response ∧ InFlight.HeldBack adsCodec adsQuery
        (matchingEntry (bypassOnly adsPipeline.zoneEntries) "ads.example.") r response := by
  obtain ⟨s', t, r, response, hreceive, hrun, hr, hdone, hblocked⟩ := exists_adsServed
  have hmessage : adsCodec.fromVec adsQueryBytes = some adsQuery := by decide +kernel
  obtain ⟨r', hr', hcalls, hresponse⟩ := @blocked_in_flight Nat Nat _ adsCodec adsServing s' t 0
    adsQuery.metadata adsQueryBytes adsSteps adsQuery ⟨⟨"ads.example."⟩, .a, 1⟩ hreceive hrun
    hmessage rfl hblocked
  obtain rfl := Option.some.inj (hr.symm.trans hr')
  exact ⟨s', t, r, hrun, hr, hcalls, response, hdone, hresponse response hdone⟩

end Serving

/-! ## Requests end -/

namespace InFlight

variable {ρ φ : Type*} {codec : MessageCodec} {flag : Bool} {engine : ListFilterEngine}
  {r r' : InFlight ρ φ}

/-- How many steps are left at most, with so many lists. -/
def stepsLeft (lists : Nat) : RequestPhase ρ → Nat
  | .zones bypass => if bypass then 10 + lists else 4
  | .zoneAsked bypass _ => if bypass then 9 + lists else 3
  | .flag => 8 + lists
  | .decision _ _ => 7 + lists
  | .blocked _ _ flags => 6 + (lists - flags.length)
  | .anyPolicy => 5
  | .upstream => 2
  | .upstreamAsked => 1
  | .answered _ => 0

theorem stepsLeft_advance (h : r.advance codec flag engine = some r') :
    stepsLeft engine.runtimes.length r'.phase < stepsLeft engine.runtimes.length r.phase := by
  cases advanced h with
  | @noZone bypass hphase =>
      rw [hphase]
      cases bypass <;> simp [goOn, afterZones, stepsLeft]
  | @askZone bypass entry hphase =>
      rw [hphase]
      cases bypass <;> simp [goOn, stepsLeft]
  | @readFlag message domain flags runtime hphase hruntime =>
      have hlt : flags.length < engine.runtimes.length := (List.getElem?_eq_some_iff.1 hruntime).1
      rw [hphase]
      simp only [goOn, stepsLeft, List.length_append, List.length_singleton]
      omega
  | switchedOff hphase | noQuestion hphase | toDecide hphase | allowed hphase | neutral hphase
    | toBlock hphase | sinkhole hphase | refused hphase | notAny hphase | askUpstream hphase =>
      rw [hphase]
      simp only [goOn, stepsLeft, List.length_nil, if_false, Bool.false_eq_true]
      omega

theorem stepsLeft_answer {result : Except UpstreamResolveError Bytes} (lists : Nat)
    (h : r.answer codec result = some r') :
    stepsLeft lists r'.phase < stepsLeft lists r.phase := by
  cases replied h with
  | @zoneReplies bypass entry response hphase =>
      rw [hphase]
      cases bypass <;> simp [goOn, stepsLeft]
  | @zoneFails bypass entry hphase =>
      rw [hphase]
      cases bypass <;> simp [goOn, afterZones, stepsLeft]
  | upstreamReplies hphase =>
      rw [hphase]
      simp [goOn, stepsLeft]

/-- Unless it is answered, a request has a next step, of its own or whatever its resolver
returns. -/
theorem goesOn (codec : MessageCodec) (r : InFlight ρ φ) :
    (∃ response, r.phase = .answered response) ∨
      (∀ flag engine, (r.advance codec flag engine).isSome = true) ∨
        ∀ result, (r.answer codec result).isSome = true := by
  cases hphase : r.phase with
  | answered response => exact .inl ⟨response, rfl⟩
  | zoneAsked bypass entry =>
      refine .inr (.inr fun result => ?_)
      simp only [answer, hphase]
      cases zoneAnswer codec r.request entry result <;> rfl
  | upstreamAsked => exact .inr (.inr fun result => by simp [answer, hphase])
  | zones bypass =>
      refine .inr (.inl fun flag engine => ?_)
      simp only [advance, hphase]
      split <;> rfl
  | flag =>
      refine .inr (.inl fun flag engine => ?_)
      simp only [advance, hphase]
      cases flag with
      | false => rfl
      | true =>
          simp only [Bool.not_true, Bool.false_eq_true, if_false]
          split
          · rfl
          · split <;> rfl
  | decision message domain =>
      refine .inr (.inl fun flag engine => ?_)
      simp only [advance, hphase]
      cases engine.decideDomain domain <;> rfl
  | anyPolicy =>
      refine .inr (.inl fun flag engine => ?_)
      simp only [advance, hphase]
      split
      · split <;> rfl
      · rfl
  | blocked message domain flags =>
      refine .inr (.inl fun flag engine => ?_)
      simp only [advance, hphase]
      split <;> rfl
  | upstream => exact .inr (.inl fun flag engine => by simp [advance, hphase])

end InFlight

/-- The step is one of this request. -/
def ServingStep.isOwn {ρ φ : Type*} (i : Nat) : ServingStep ρ φ → Bool
  | .advance j | .answer j _ => j = i
  | _ => false

namespace Serving

variable {ρ φ : Type*} [DecidableEq φ] {codec : MessageCodec} {s s' t : Serving ρ φ} {i : Nat}
  {metadata : Metadata} {query : Bytes} {ls : List (ServingStep ρ φ)}

/-- Which lists a filter has never changes. -/
theorem lists_step (h : s.step codec l = some s') (filter : φ) :
    (s'.filters filter).runtimes.length = (s.filters filter).runtimes.length := by
  cases l with
  | install pipeline | setFiltering enabled =>
      obtain rfl := Option.some.inj h
      rfl
  | filterChanges changed engine =>
      obtain ⟨hlength, heq⟩ := Option.ite_none_right_eq_some.1 h
      obtain rfl := Option.some.inj heq
      by_cases hfilter : filter = changed
      · subst hfilter
        simpa using hlength
      · simp [Function.update_of_ne hfilter]
  | receive j metadata query =>
      simp only [step] at h
      split at h
      · cases h
      · obtain rfl := Option.some.inj h
        rfl
  | advance j | answer j result =>
      obtain ⟨r', -, rfl⟩ := Option.map_eq_some_iff.1 h
      rfl

/-- What is left of a request after so many steps of its own. -/
def OnSchedule (s : Serving ρ φ) (i lists steps : Nat) : Prop :=
  ∃ r, s.requests i = some r ∧ (s.filters r.pipeline.filter).runtimes.length = lists ∧
    steps + InFlight.stepsLeft lists r.phase ≤ 10 + lists

theorem onSchedule_run (hreceive : s.step codec (.receive i metadata query) = some s')
    (hrun : run (step codec) s' ls = some t) :
    t.OnSchedule i (s.filters s.slot.filter).runtimes.length
      (ls.countP (ServingStep.isOwn i)) := by
  refine @run_history _ _ _ (fun ls t => OnSchedule t i (s.filters s.slot.filter).runtimes.length
    (ls.countP (ServingStep.isOwn i))) s' ?_ ?_ _ _ hrun
  · simp only [step] at hreceive
    split at hreceive
    · cases hreceive
    · obtain rfl := Option.some.inj hreceive
      exact ⟨.begin s.slot metadata query, by simp, rfl, by simp [InFlight.begin, InFlight.stepsLeft]⟩
  · intro ls u l v hu ⟨r, hr, hlists, hle⟩ hstep
    rw [List.countP_append, List.countP_singleton]
    have hlists' := (lists_step hstep r.pipeline.filter).trans hlists
    rcases step_request hstep hr with ⟨hr', hadvance, hanswer⟩ | ⟨r', rfl, hr', hadvance⟩ |
      ⟨result, r', rfl, hr', hanswer⟩
    · have hother : l.isOwn i = false := by
        cases l with
        | advance j => simpa [ServingStep.isOwn] using hadvance
        | answer j result =>
            refine decide_eq_false fun hj => ?_
            subst hj
            exact hanswer result rfl
        | _ => rfl
      refine ⟨r, hr', hlists', ?_⟩
      rw [hother]
      exact hle
    · have hlt := InFlight.stepsLeft_advance hadvance
      rw [hlists] at hlt
      refine ⟨r', hr', (InFlight.frame_advance hadvance).1 ▸ hlists', ?_⟩
      split <;> omega
    · have hlt := InFlight.stepsLeft_answer (s.filters s.slot.filter).runtimes.length hanswer
      refine ⟨r', hr', (InFlight.frame_answer hanswer).1 ▸ hlists', ?_⟩
      split <;> omega

/-- **Every request ends.** In every run a request takes at most ten steps of its own and one for
each list of its filter, and after so many it is answered; before that it has a next step, whatever
the flag, the filter or the resolver that it waits for say. -/
theorem requests_end (hreceive : s.step codec (.receive i metadata query) = some s')
    (hrun : run (step codec) s' ls = some t) :
    let most := 10 + (s.filters s.slot.filter).runtimes.length
    ∃ r, t.requests i = some r ∧ ls.countP (ServingStep.isOwn i) ≤ most ∧
      (ls.countP (ServingStep.isOwn i) = most → ∃ response, r.phase = .answered response) ∧
      ((∃ response, r.phase = .answered response) ∨
        (∀ flag engine, (r.advance codec flag engine).isSome = true) ∨
          ∀ result, (r.answer codec result).isSome = true) := by
  intro most
  obtain ⟨r, hr, -, hle⟩ := onSchedule_run hreceive hrun
  refine ⟨r, hr, by omega, fun hmost => ?_, InFlight.goesOn codec r⟩
  have hzero : InFlight.stepsLeft (s.filters s.slot.filter).runtimes.length r.phase = 0 := by omega
  cases hphase : r.phase with
  | answered response => exact ⟨response, rfl⟩
  | zones bypass | zoneAsked bypass entry =>
      rw [hphase] at hzero
      cases bypass <;> simp [InFlight.stepsLeft] at hzero
  | _ => simp [hphase, InFlight.stepsLeft] at hzero

theorem requests_end_ads :
    ∃ s' t r, run (step adsCodec) s' adsSteps = some t ∧ t.requests 0 = some r ∧
      adsSteps.countP (ServingStep.isOwn 0) ≤ 11 ∧
      ((∃ response, r.phase = .answered response) ∨
        (∀ flag engine, (r.advance adsCodec flag engine).isSome = true) ∨
          ∀ result, (r.answer adsCodec result).isSome = true) := by
  obtain ⟨s', t, -, -, hreceive, hrun, -⟩ := exists_adsServed
  obtain ⟨r, hr, hle, -, hgoesOn⟩ := requests_end hreceive hrun
  exact ⟨s', t, r, hrun, hr, hle, hgoesOn⟩

end Serving

end DnsFilter
