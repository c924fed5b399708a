import LlmInferenceSystems.Stage1.Comparison

/-!
# The fingerprint of a run does not show how long it took

Two runs that saw the same in the same order, at other times and with their bodies cut at other
places, hash the same but for one thing: whether a request met the SLO is taken from its times.

## Main definitions

* `SameBehaviour`: two runs that differ only in their times and in how their bodies were cut

## Main results

* `SameBehaviour.view_eq`: what two such runs hash, but for their SLO results
* `semanticFingerprint_eq_iff`: they have one fingerprint exactly when their SLO results agree
-/

namespace Stage1

open Python

/-! ## Runs at other times -/

/-- What a request came to, whenever it happened. -/
structure RequestOutcome where
  requestId : Str
  caseId : Str
  phase : Stage1Phase
  terminalClass : Stage1TerminalClass
  failureKind : Option Stage1FailureKind
  inputTokenCount : ℕ
  outputTokenCount : ℕ
  tokenEventDeltaCounts : List ℕ
  perTokenObservationComplete : Bool
deriving DecidableEq

/-- The part of a record that does not depend on the clock. -/
def Stage1RequestRecord.outcome (request : Stage1RequestRecord) : RequestOutcome where
  requestId := request.requestId
  caseId := request.caseId
  phase := request.phase
  terminalClass := request.terminalClass
  failureKind := request.failure.map (·.kind)
  inputTokenCount := request.inputTokenCount
  outputTokenCount := request.outputTokenCount
  tokenEventDeltaCounts := request.tokenEventDeltaCounts
  perTokenObservationComplete := request.perTokenObservationComplete

/-- What was seen besides raw chunks, in order and whenever it happened. -/
def seenOf (events : List StreamEvidenceRecord) :
    List (Str × StreamEvidenceKind × Option ℕ) :=
  (events.filter fun event => event.kind ≠ .rawBodyChunk).map fun event =>
    (event.requestId, event.kind, event.tokenDeltaCount)

/-- Two runs on the same inputs that differ only in their times and in how their bodies were cut. -/
structure SameBehaviour [Interpreter] (baseline candidate : ValidatedBundle) : Prop where
  inputs : inputIdentitiesMatch baseline.manifest candidate.manifest = true
  requests : baseline.requests.map (·.outcome) = candidate.requests.map (·.outcome)
  seen : seenOf baseline.streamEvents = seenOf candidate.streamEvents
  bodies : ∀ request ∈ baseline.requests,
    bodyOf request baseline.streamEvents = bodyOf request candidate.streamEvents

/-! ## Active clients, whenever they were -/

/-- What an event changes of the active clients; its number is not looked at. -/
def trackClient (clients : ActiveClients) (event : Str × StreamEvidenceKind × Option ℕ) :
    ActiveClients :=
  match event.2.1 with
  | .clientRequestStarted =>
    { clients with
      started := insert event.1 clients.started
      active := clients.active + 1
      maximum := max clients.maximum (clients.active + 1) }
  | .clientRequestEnded =>
    { clients with
      ended := insert event.1 clients.ended
      active := clients.active - 1 }
  | _ => clients

/-- The active clients, without the number of the next event. -/
def ActiveClients.unnumbered (clients : ActiveClients) : ActiveClients :=
  { clients with expectedSequence := 0 }

theorem unnumbered_of_observe {clients clients' : ActiveClients} {event : StreamEvidenceRecord}
    (h : clients.observe event = .ok clients') :
    clients'.unnumbered = trackClient clients.unnumbered
      (event.requestId, event.kind, event.tokenDeltaCount) := by
  unfold ActiveClients.observe at h
  split at h
  · cases h
  · dsimp only at h
    unfold trackClient
    split at h
    · next hkind =>
      split at h <;> cases h
      rw [hkind]
      rfl
    · next hkind =>
      split at h
      · cases h
      · split at h <;> cases h
        rw [hkind]
        rfl
    · next hstarted hended =>
      cases h
      cases hkind : event.kind
      case clientRequestStarted => exact absurd hkind hstarted
      case clientRequestEnded => exact absurd hkind hended
      all_goals rfl

/-- **The active clients are those of what was seen**, whenever it was. -/
theorem unnumbered_of_scanEvents {events : List StreamEvidenceRecord} {clients : ActiveClients}
    (h : scanEvents events = .ok clients) :
    clients.unnumbered = (seenOf events).foldl trackClient {} := by
  induction events using List.reverseRecOn generalizing clients with
  | nil =>
    obtain rfl := Except.ok.inj (scanEvents_nil.symm.trans h)
    rfl
  | append_singleton events event ih =>
    have hbind := h
    rw [scanEvents, List.foldlM_append] at hbind
    obtain ⟨before, hbefore, -⟩ := bind_eq_ok.mp hbind
    rw [scanEvents_append hbefore] at h
    rw [unnumbered_of_observe h, ih hbefore, seenOf, seenOf, List.filter_append, List.map_append,
      List.foldl_append]
    by_cases hkind : event.kind = .rawBodyChunk
    · simp [hkind, trackClient]
    · simp [hkind]

/-- What was seen decides how many clients were active at once. -/
theorem observedMaximum_eq_of_seen {events events' : List StreamEvidenceRecord}
    {maximum maximum' : ℤ} (hseen : seenOf events = seenOf events')
    (h : deriveObservedMaxClientConcurrency events = .ok maximum)
    (h' : deriveObservedMaxClientConcurrency events' = .ok maximum') : maximum = maximum' := by
  obtain ⟨clients, hclients, hreturn⟩ := bind_eq_ok.mp h
  obtain ⟨clients', hclients', hreturn'⟩ := bind_eq_ok.mp h'
  split_ifs at hreturn hreturn'
  obtain rfl := Except.ok.inj hreturn
  obtain rfl := Except.ok.inj hreturn'
  have hsame : clients.unnumbered = clients'.unnumbered := by
    rw [unnumbered_of_scanEvents hclients, unnumbered_of_scanEvents hclients', hseen]
  show clients.unnumbered.maximum = clients'.unnumbered.maximum
  rw [hsame]

/-- What was seen decides the shape of the SSE evidence. -/
theorem protocolShapeOf_eq_of_seen (request : Stage1RequestRecord)
    {events events' : List StreamEvidenceRecord} (hseen : seenOf events = seenOf events') :
    protocolShapeOf request events = protocolShapeOf request events' := by
  have hshape : ∀ events : List StreamEvidenceRecord, protocolShapeOf request events =
      ((seenOf events).filter fun event =>
        event.1 = request.requestId ∧ event.2.1.isSse = true).map fun event =>
          (event.2.1, event.2.2) := by
    intro events
    unfold protocolShapeOf seenOf
    rw [List.filter_map, List.map_map, List.filter_filter]
    congr 1
    apply List.filter_congr
    intro event _
    cases hkind : event.kind <;> simp [hkind, StreamEvidenceKind.isSse]
  rw [hshape, hshape, hseen]

/-! ## What two such runs hash -/

section

variable [Interpreter]

/-- What is hashed of a request is decided by what it came to, its SLO result, its body and the
shape of its evidence. -/
theorem fingerprintRequest_eq {request request' : Stage1RequestRecord}
    {events events' : List StreamEvidenceRecord} {hashed hashed' : FingerprintRequest}
    (houtcome : request.outcome = request'.outcome)
    (hbody : bodyOf request events = bodyOf request events') (hseen : seenOf events = seenOf events')
    (h : fingerprintRequest events request = .ok hashed)
    (h' : fingerprintRequest events' request' = .ok hashed') :
    hashed' = { hashed with sloSatisfied := request'.sloSatisfied } := by
  obtain ⟨hrequest, hcase, hphase, hclass, hfailure, hinput, houtput, hdeltas, hcomplete⟩ :=
    RequestOutcome.mk.inj houtcome
  have hsameBody : bodyOf request' events' = bodyOf request events := by
    rw [hbody, bodyOf, bodyOf, bodyChunksOf, bodyChunksOf, hrequest]
  have hsameShape : protocolShapeOf request' events' = protocolShapeOf request events := by
    rw [protocolShapeOf_eq_of_seen request hseen, protocolShapeOf, protocolShapeOf, hrequest]
  obtain ⟨body, hown, hreturn⟩ := bind_eq_ok.mp h
  obtain ⟨body', hown', hreturn'⟩ := bind_eq_ok.mp h'
  rw [hsameBody, hown] at hown'
  obtain rfl := Except.ok.inj hown'
  obtain rfl := Except.ok.inj hreturn
  obtain rfl := Except.ok.inj hreturn'
  simp only [hrequest, hcase, hphase, hclass, hfailure, hinput, houtput, hdeltas, hcomplete,
    hsameShape]

/-- The requests that are hashed, one by one. -/
theorem hashedRequests_eq {requests requests' : List Stage1RequestRecord}
    {events events' : List StreamEvidenceRecord} {hashed hashed' : List FingerprintRequest}
    (houtcome : requests.map (·.outcome) = requests'.map (·.outcome))
    (hbodies : ∀ request ∈ requests, bodyOf request events = bodyOf request events')
    (hseen : seenOf events = seenOf events')
    (h : List.Forall₂ (fun request view => fingerprintRequest events request = .ok view) requests
      hashed)
    (h' : List.Forall₂ (fun request view => fingerprintRequest events' request = .ok view) requests'
      hashed') :
    hashed = hashed' ↔ requests.map (·.sloSatisfied) = requests'.map (·.sloSatisfied) := by
  -- request by request: both lists are hashed in the same order
  induction h generalizing requests' hashed' with
  | nil =>
    obtain rfl : requests' = [] := by simpa using houtcome.symm
    cases h'
    simp
  | @cons request view requests hashed hview _ ih =>
    cases h' with
    | nil => simp at houtcome
    | @cons request' view' requests' hashed' hview' hviews' =>
      -- the outcome and the body agree, so all but the SLO result of this request is hashed alike
      rw [List.map_cons, List.map_cons, List.cons.injEq] at houtcome
      have hhead := fingerprintRequest_eq houtcome.1 (hbodies request (by simp)) hseen hview hview'
      have htail := ih houtcome.2 (fun request hmem => hbodies request (by simp [hmem])) hviews'
      have hslo : view.sloSatisfied = request.sloSatisfied := by
        obtain ⟨body, -, hreturn⟩ := bind_eq_ok.mp hview
        obtain rfl := Except.ok.inj hreturn
        rfl
      rw [List.map_cons, List.map_cons, List.cons.injEq, List.cons.injEq, htail, hhead, ← hslo]
      -- a view holds its SLO result, and nothing else may differ
      refine and_congr_left fun _ => ⟨fun hsame => ?_, fun hsame => ?_⟩
      · exact congrArg FingerprintRequest.sloSatisfied hsame
      · rw [← hsame]

variable [FloatArithmetic] {baseline candidate : ValidatedBundle}

/-- **What two such runs hash is the same exactly when their SLO results are.** -/
theorem SameBehaviour.view_eq (h : SameBehaviour baseline candidate) (hbaseline : Validated baseline)
    (hcandidate : Validated candidate) {view view' : SemanticView}
    (hview : semanticView baseline.manifest.workloadSha256 baseline.manifest.configurationSha256
      baseline.manifest.fixtureSha256 baseline.requests baseline.streamEvents
      baseline.summary = .ok view)
    (hview' : semanticView candidate.manifest.workloadSha256
      candidate.manifest.configurationSha256 candidate.manifest.fixtureSha256 candidate.requests
      candidate.streamEvents candidate.summary = .ok view') :
    view = view' ↔
      baseline.requests.map (·.sloSatisfied) = candidate.requests.map (·.sloSatisfied) := by
  -- the taxonomy is part of the outcomes
  have htaxonomy : taxonomyOf baseline.requests = taxonomyOf candidate.requests := by
    have houtcome : ∀ requests, taxonomyOf requests = (requests.map (·.outcome)).map fun outcome =>
        (outcome.caseId, outcome.phase, outcome.terminalClass, outcome.failureKind) := by
      intro requests
      rw [List.map_map]
      rfl
    rw [houtcome, houtcome, h.requests]
  have hderived := Derived.of_deriveStage1Summary hbaseline.summary
  have hderived' := Derived.of_deriveStage1Summary hcandidate.summary
  obtain ⟨hattempted, -, hfailed, htimedOut⟩ := countRequests_of_taxonomy baseline.requests
  obtain ⟨hattempted', -, hfailed', htimedOut'⟩ := countRequests_of_taxonomy candidate.requests
  -- the rates are counts over the taxonomy
  have hfailureRate : baseline.summary.failureRate = candidate.summary.failureRate := by
    have hrate := hderived.failureRate
    rw [hattempted, hfailed, htaxonomy, ← hattempted', ← hfailed', hderived'.failureRate] at hrate
    exact (Except.ok.inj hrate).symm
  have htimeoutRate : baseline.summary.timeoutRate = candidate.summary.timeoutRate := by
    have hrate := hderived.timeoutRate
    rw [hattempted, htimedOut, htaxonomy, ← hattempted', ← htimedOut', hderived'.timeoutRate]
      at hrate
    exact (Except.ok.inj hrate).symm
  have hobserved := observedMaximum_eq_of_seen h.seen hderived.observedMaximum
    hderived'.observedMaximum
  -- the digests of the inputs are compared by `SameBehaviour` itself
  have hinputs := h.inputs
  rw [inputIdentitiesMatch, decide_eq_true_eq] at hinputs
  obtain ⟨hashed, hhashed, hreturn⟩ := bind_eq_ok.mp hview
  obtain ⟨hashed', hhashed', hreturn'⟩ := bind_eq_ok.mp hview'
  have hrequests := hashedRequests_eq h.requests h.bodies h.seen (collect_eq_ok.mp hhashed)
    (collect_eq_ok.mp hhashed')
  obtain rfl := Except.ok.inj hreturn
  obtain rfl := Except.ok.inj hreturn'
  -- what is left of the views are the hashed requests
  rw [← hrequests, SemanticView.mk.injEq, hinputs.1, hinputs.2.1, hinputs.2.2, hfailureRate,
    htimeoutRate, hobserved]
  simp

/-- **Runs that differ only in their times and cuts have one fingerprint exactly when their SLO
results agree**, unless two digests collide. -/
theorem semanticFingerprint_eq_iff
    (hbaseline : validateRecords baseline.manifest baseline.requests baseline.streamEvents
      baseline.serverEvents baseline.summary = .ok baseline)
    (hcandidate : validateRecords candidate.manifest candidate.requests candidate.streamEvents
      candidate.serverEvents candidate.summary = .ok candidate)
    (hsame : SameBehaviour baseline candidate) :
    (baseline.requests.map (·.sloSatisfied) = candidate.requests.map (·.sloSatisfied) →
      baseline.manifest.semanticFingerprint = candidate.manifest.semanticFingerprint) ∧
    (RatesRead baseline → RatesRead candidate → FingerprintsApart baseline candidate →
      baseline.manifest.semanticFingerprint = candidate.manifest.semanticFingerprint →
        baseline.requests.map (·.sloSatisfied) = candidate.requests.map (·.sloSatisfied)) := by
  obtain ⟨-, hbaseline⟩ := validateRecords_eq_ok.mp hbaseline
  obtain ⟨-, hcandidate⟩ := validateRecords_eq_ok.mp hcandidate
  refine ⟨fun hslo => ?_, fun hrates hrates' hcollision hfingerprint => ?_⟩
  · obtain ⟨view, hview, hdigest⟩ := hbaseline.exists_view
    obtain ⟨view', hview', hdigest'⟩ := hcandidate.exists_view
    obtain rfl := (hsame.view_eq hbaseline hcandidate hview hview').mpr hslo
    exact Except.ok.inj (hdigest.symm.trans hdigest')
  · obtain ⟨view, hview, hview'⟩ :=
      exists_view_of_fingerprint hbaseline hcandidate hrates hrates' hcollision hfingerprint
    exact (hsame.view_eq hbaseline hcandidate hview hview').mp rfl

end

section

attribute [local instance] cpython binary64

/-- The sample run and the one that is cut and takes another time. -/
theorem sameBehaviour_cutRun {summary summary' : Stage1RunSummary} {fingerprint fingerprint' : Str} :
    SameBehaviour (SampleRun.bundle {} summary fingerprint)
      (cutRun.bundle summary' fingerprint') where
  inputs := rfl
  requests := show (SampleRun.requests {}).map (·.outcome) = cutRun.requests.map (·.outcome) by
    decide +kernel
  seen := show seenOf (SampleRun.events {}) = seenOf cutRun.events by decide +kernel
  bodies := show ∀ request ∈ SampleRun.requests {},
    bodyOf request (SampleRun.events {}) = bodyOf request cutRun.events by decide +kernel

/-- The SLO results of the two agree, and so do their fingerprints. -/
theorem semanticFingerprint_eq_iff_sampleBundle : ∃ summary summary' fingerprint fingerprint',
    (SampleRun.requests {}).map (·.sloSatisfied) = cutRun.requests.map (·.sloSatisfied) ∧
      (SampleRun.bundle {} summary fingerprint).manifest.semanticFingerprint =
        (cutRun.bundle summary' fingerprint').manifest.semanticFingerprint := by
  obtain ⟨summary, fingerprint, haccepted⟩ := exists_accepted_sampleRun
  obtain ⟨summary', fingerprint', haccepted'⟩ := exists_accepted_cutRun
  have hslo : (SampleRun.requests {}).map (·.sloSatisfied) =
      cutRun.requests.map (·.sloSatisfied) := by decide +kernel
  exact ⟨summary, summary', fingerprint, fingerprint', hslo,
    (semanticFingerprint_eq_iff haccepted.valid.accepted haccepted'.valid.accepted
      sameBehaviour_cutRun).1 hslo⟩

/-! ### A request that misses its SLO -/

/-- The sample run, when its first measured request misses its SLO. -/
def lateRun : SampleRun where
  latency := 50

theorem exists_accepted_lateRun : ∃ summary fingerprint, lateRun.Accepted summary fingerprint := by
  apply SampleRun.exists_accepted
  · decide +kernel
  · decide +kernel
  · decide +kernel
  · decide +kernel
  · decide +kernel

theorem sameBehaviour_lateRun {summary summary' : Stage1RunSummary}
    {fingerprint fingerprint' : Str} :
    SameBehaviour (SampleRun.bundle {} summary fingerprint)
      (lateRun.bundle summary' fingerprint') where
  inputs := rfl
  requests := show (SampleRun.requests {}).map (·.outcome) = lateRun.requests.map (·.outcome) by
    decide +kernel
  seen := show seenOf (SampleRun.events {}) = seenOf lateRun.events by decide +kernel
  bodies := show ∀ request ∈ SampleRun.requests {},
    bodyOf request (SampleRun.events {}) = bodyOf request lateRun.events by decide +kernel

/-- The fingerprint of a sample run is the digest of its text. -/
theorem SampleRun.Accepted.digest {run : SampleRun} {summary : Stage1RunSummary}
    {fingerprint digest : Str} (h : run.Accepted summary fingerprint)
    (hany : (jsonText run.view.json).any (fun text => decide (text.all (· < 128) = true ∧
      Interpreter.hexdigest (text.map UInt8.ofNat) = digest)) = true) :
    fingerprint = digest := by
  obtain ⟨text, htext, hascii, rfl⟩ := exists_eq_some hany
  exact (identity_of_ascii htext (by simpa using hascii) h.identity).symm

/-- Two runs that differ only in their times, with two fingerprints: in one of them a request meets
the SLO that it misses in the other. -/
theorem exists_sameBehaviour_fingerprint_ne : ∃ baseline candidate,
    validateRecords baseline.manifest baseline.requests baseline.streamEvents
        baseline.serverEvents baseline.summary = .ok baseline ∧
      validateRecords candidate.manifest candidate.requests candidate.streamEvents
        candidate.serverEvents candidate.summary = .ok candidate ∧
      SameBehaviour baseline candidate ∧
      baseline.manifest.semanticFingerprint ≠ candidate.manifest.semanticFingerprint := by
  obtain ⟨summary, fingerprint, haccepted⟩ := exists_accepted_sampleRun
  obtain ⟨summary', fingerprint', haccepted'⟩ := exists_accepted_lateRun
  refine ⟨SampleRun.bundle {} summary fingerprint, lateRun.bundle summary' fingerprint',
    haccepted.valid.accepted, haccepted'.valid.accepted, sameBehaviour_lateRun, fun hsame => ?_⟩
  have hequal : fingerprint = fingerprint' := hsame
  have hdigest : fingerprint =
      lit "8b2d28c0bc039f19dc16b0e03c7b5f7f76c393dd6e41c362c5b5104028d5057c" :=
    haccepted.digest (by decide +kernel)
  have hdigest' : fingerprint' =
      lit "24e4fde72874c353724ac81fb942036714779de93a6ee59ed3f566b14ac742ce" :=
    haccepted'.digest (by decide +kernel)
  have hne : lit "8b2d28c0bc039f19dc16b0e03c7b5f7f76c393dd6e41c362c5b5104028d5057c" ≠
      lit "24e4fde72874c353724ac81fb942036714779de93a6ee59ed3f566b14ac742ce" := by decide +kernel
  rw [hdigest, hdigest'] at hequal
  exact hne hequal

end

end Stage1
