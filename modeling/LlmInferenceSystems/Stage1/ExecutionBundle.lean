import LlmInferenceSystems.Stage1.Fingerprint

/-!
# Execution bundles

A run is retained with its manifest. The records of a bundle are accepted when they agree with each
other, when the summary that is derived from them is the one retained and when their fingerprint is
that of the manifest.

## Main definitions

* `Stage1ExecutionManifest`, `ValidatedBundle`: a run that is retained
* `validateRecords`: the checks of its records
* `Validated`: what they come to

## Main results

* `validateRecords_eq_ok`: a bundle is accepted exactly when it is validated
* `Validated.request`: every request of a validated bundle passed its checks
-/

namespace Stage1

open Python Sse

/-! ## Bundles -/

/-- A manifest, without the fields that are constant and those that only its own model reads. -/
structure Stage1ExecutionManifest where
  environmentIdentity : Str
  workload : Stage1WorkloadDefinition
  configuration : Stage1RunConfiguration
  /-- `configuration.timeout_policy` -/
  timeoutPolicy : Stage1TimeoutPolicy
  /-- `configuration.slo.policy_name` -/
  sloPolicyName : Str
  workloadSha256 : Str
  configurationSha256 : Str
  fixtureSha256 : Str
  semanticFingerprint : Str
  contentSha256 : Option Str

/-- `ValidatedBundle`: what `validate_execution_bundle` has read and found sound. -/
structure ValidatedBundle where
  manifest : Stage1ExecutionManifest
  requests : List Stage1RequestRecord
  streamEvents : List StreamEvidenceRecord
  serverEvents : List ServerEventRecord
  summary : Stage1RunSummary

section

variable [Interpreter] [FloatArithmetic]

/-- The end of `validate_execution_bundle`, when the files of a run were read and its manifest was
checked on its own. -/
def validateRecords (manifest : Stage1ExecutionManifest) (requests : List Stage1RequestRecord)
    (streamEvents : List StreamEvidenceRecord) (serverEvents : List ServerEventRecord)
    (summary : Stage1RunSummary) : Except PyError ValidatedBundle := do
  validateCrossRecords manifest.workload requests streamEvents serverEvents
  let reconstructed ← deriveStage1Summary manifest.configuration requests streamEvents
  if reconstructed ≠ summary then
    .error (.value "stored summary differs from exact raw reconstruction")
  else do
    let reconstructedFingerprint ← semanticFingerprint manifest.workloadSha256
      manifest.configurationSha256 manifest.fixtureSha256 requests streamEvents reconstructed
    if reconstructedFingerprint ≠ manifest.semanticFingerprint then
      .error (.value "semantic fingerprint differs from raw reconstruction")
    else return ⟨manifest, requests, streamEvents, serverEvents, reconstructed⟩

/-- A bundle whose records are accepted. -/
structure Validated (bundle : ValidatedBundle) : Prop where
  crossRecords : validateCrossRecords bundle.manifest.workload bundle.requests bundle.streamEvents
    bundle.serverEvents = .ok ()
  summary : deriveStage1Summary bundle.manifest.configuration bundle.requests
    bundle.streamEvents = .ok bundle.summary
  fingerprint : semanticFingerprint bundle.manifest.workloadSha256
    bundle.manifest.configurationSha256 bundle.manifest.fixtureSha256 bundle.requests
    bundle.streamEvents bundle.summary = .ok bundle.manifest.semanticFingerprint

/-- **What the checks of the records come to.** -/
theorem validateRecords_eq_ok {manifest : Stage1ExecutionManifest}
    {requests : List Stage1RequestRecord} {streamEvents : List StreamEvidenceRecord}
    {serverEvents : List ServerEventRecord} {summary : Stage1RunSummary}
    {bundle : ValidatedBundle} :
    validateRecords manifest requests streamEvents serverEvents summary = .ok bundle ↔
      bundle = ⟨manifest, requests, streamEvents, serverEvents, summary⟩ ∧ Validated bundle := by
  constructor
  · intro h
    unfold validateRecords at h
    obtain ⟨⟨⟩, hcross, hrest⟩ := bind_eq_ok.mp h
    obtain ⟨reconstructed, hsummary, hcompare⟩ := bind_eq_ok.mp hrest
    split_ifs at hcompare with hsame
    obtain rfl := not_not.mp hsame
    obtain ⟨fingerprint, hfingerprint, hreturn⟩ := bind_eq_ok.mp hcompare
    split_ifs at hreturn with hequal
    obtain rfl := Except.ok.inj hreturn
    exact ⟨rfl, hcross, hsummary, not_not.mp hequal ▸ hfingerprint⟩
  · rintro ⟨rfl, hcross, hsummary, hfingerprint⟩
    unfold validateRecords
    refine bind_eq_ok.mpr ⟨(), hcross, bind_eq_ok.mpr ⟨summary, hsummary, ?_⟩⟩
    rw [if_neg (not_not.mpr rfl)]
    refine bind_eq_ok.mpr ⟨manifest.semanticFingerprint, hfingerprint, ?_⟩
    rw [if_neg (not_not.mpr rfl)]
    rfl

theorem Validated.accepted {bundle : ValidatedBundle} (h : Validated bundle) :
    validateRecords bundle.manifest bundle.requests bundle.streamEvents bundle.serverEvents
      bundle.summary = .ok bundle :=
  validateRecords_eq_ok.mpr ⟨rfl, h⟩

/-- What was hashed for the fingerprint of a bundle. -/
theorem Validated.exists_view {bundle : ValidatedBundle} (h : Validated bundle) :
    ∃ view, semanticView bundle.manifest.workloadSha256 bundle.manifest.configurationSha256
        bundle.manifest.fixtureSha256 bundle.requests bundle.streamEvents bundle.summary =
          .ok view ∧
      sha256Identity view.json = .ok bundle.manifest.semanticFingerprint :=
  bind_eq_ok.mp h.fingerprint

/-- Every request of a validated bundle passed its checks. -/
theorem Validated.request {bundle : ValidatedBundle} (h : Validated bundle)
    {request : Stage1RequestRecord} (hmem : request ∈ bundle.requests) :
    validateRequest request bundle.streamEvents = .ok () := by
  have hcross := h.crossRecords
  unfold validateCrossRecords at hcross
  split_ifs at hcross
  -- whatever becomes of the events of the server
  all_goals
    obtain ⟨-, hcross⟩ := seq_eq_ok.mp hcross
    obtain ⟨_, -, hcross⟩ := bind_eq_ok.mp hcross
    obtain ⟨hrequests, -⟩ := seq_eq_ok.mp hcross
    exact each_eq_ok.mp hrequests request hmem

end

/-! ## A run of nine requests -/

/-- What tells the sample runs apart: where their bodies are cut, how long the first measured request
takes and which tokens it receives, and the comments of every body. -/
structure SampleRun where
  cut : ℕ := 0
  latency : ℕ := 5
  tokens : List ℕ := [1]
  comments : List Str := []

variable (run : SampleRun)

/-- The tokens of the events of a request. -/
def SampleRun.tokensOf (index : ℕ) : List ℕ := if index = 1 then run.tokens else []

/-- A request of a sample run, which dispatches one every 100 ns; the first measured one receives
tokens. -/
def SampleRun.record (latency index : ℕ) : Stage1RequestRecord where
  requestId := lit "r" ++ decimal index
  caseId := lit "c" ++ decimal index
  phase := if index = 0 then .warmup else .measured
  terminalClass := .success
  httpStatus := some 200
  timing :=
    { dispatchOffsetNs := 100 * index
      responseHeadersOffsetNs := some (100 * index + 1)
      firstResponseBodyBytesOffsetNs := some (100 * index + 2)
      firstOutputTokenOffsetNs := (run.tokensOf index).head?.map fun _ => 100 * index + 3
      lastOutputTokenOffsetNs := (run.tokensOf index).getLast?.map fun _ => 100 * index + 3
      terminalOffsetNs := 100 * index + latency }
  inputTokenCount := 1
  outputTokenCount := (run.tokensOf index).sum
  tokenEventDeltaCounts := run.tokensOf index
  tokenEventObservationOffsetsNs := (run.tokensOf index).map fun _ => 100 * index + 3
  perTokenObservationComplete := (run.tokensOf index).all (· == 1)
  sloSatisfied := decide (latency ≤ 9)
  failure := none

/-- The requests of a sample run. -/
def SampleRun.requests : List Stage1RequestRecord :=
  run.record 5 0 :: run.record run.latency 1 :: [2, 3, 4, 5, 6, 7, 8].map (run.record 5)

/-- An observation of a request of a sample run. -/
def Stage1RequestRecord.observed (request : Stage1RequestRecord) (kind : StreamEvidenceKind)
    (observationOffsetNs : ℕ) : StreamObservation where
  requestId := request.requestId
  caseId := request.caseId
  phase := request.phase
  kind := kind
  observationOffsetNs := some observationOffsetNs

/-- The data of a token event of a sample run. -/
def sampleData : String := "\x7b\"choices\":[\x7b\"text\":\"<t001>\"\x7d]\x7d"

/-- The body of a response of a sample run: its tokens, and the end of the stream. -/
def sampleBody (request : Stage1RequestRecord) : Bytes :=
  (request.tokenEventDeltaCounts.flatMap fun _ => ascii ("data: " ++ sampleData ++ "\n\n")) ++
    ascii "data: [DONE]\n\n"

/-- The chunks of a body. -/
def SampleRun.chunks (request : Stage1RequestRecord) : List Bytes :=
  if run.cut = 0 then [sampleBody request]
  else [(sampleBody request).take run.cut, (sampleBody request).drop run.cut]

/-- What was seen of a request, from its start to its end. -/
def SampleRun.observations (request : Stage1RequestRecord) : List StreamObservation :=
  request.observed .clientRequestStarted request.timing.dispatchOffsetNs ::
    ((run.chunks request).mapIdx fun index chunk =>
      { request.observed .rawBodyChunk (request.timing.dispatchOffsetNs + 2) with
        rawChunkSequence := some index
        rawBytes := some chunk }) ++
    (request.tokenEventDeltaCounts.map fun count =>
      { request.observed .sseTokenEvent (request.timing.dispatchOffsetNs + 3) with
        sseEventSequence := some 0
        sseData := some (lit sampleData)
        tokenDeltaCount := some count }) ++
    (run.comments.map fun comment =>
      { request.observed .sseComment (request.timing.dispatchOffsetNs + 3) with
        sseEventSequence := some request.tokenEventDeltaCounts.length
        sseData := some comment }) ++
    [{ request.observed .sseDone (request.timing.dispatchOffsetNs + 3) with
      sseEventSequence := some (request.tokenEventDeltaCounts.length + run.comments.length)
      sseData := some (lit "[DONE]") },
      { request.observed .requestTerminal request.timing.terminalOffsetNs with
        terminalClass := some .success },
      request.observed .clientRequestEnded request.timing.terminalOffsetNs]

section

attribute [local instance] cpython binary64

/-- The evidence of a sample run, numbered. -/
def SampleRun.events : List StreamEvidenceRecord :=
  (run.requests.flatMap run.observations).zipIdx.map fun observed =>
    observed.1.event observed.2 (observed.1.observationOffsetNs.getD 0).toNat

/-- A rate of a sample run. -/
def sampleRate : RateValue := ⟨0, 8, some 0⟩

/-- The summary of a sample run. -/
def SampleRun.summary : Except PyError Stage1RunSummary :=
  deriveStage1Summary ⟨⟨2⟩, ⟨9⟩⟩ run.requests run.events

/-- What is hashed of a request of a sample run. -/
def SampleRun.hashed (request : Stage1RequestRecord) : FingerprintRequest where
  requestId := request.requestId
  caseId := request.caseId
  phase := request.phase
  terminalClass := .success
  failureKind := none
  inputTokenCount := 1
  outputTokenCount := request.outputTokenCount
  tokenEventDeltaCounts := request.tokenEventDeltaCounts
  perTokenObservationComplete := request.perTokenObservationComplete
  sloSatisfied := request.sloSatisfied
  bodySha256 := Interpreter.hexdigest (sampleBody request)
  protocolShape := request.tokenEventDeltaCounts.map (fun count => (.sseTokenEvent, some count)) ++
    run.comments.map (fun _ => (.sseComment, none)) ++ [(.sseDone, none)]

/-- What is hashed of a sample run. -/
def SampleRun.view : SemanticView where
  workloadSha256 := lit "w"
  configurationSha256 := lit "c"
  fixtureSha256 := lit "f"
  requests := run.requests.map run.hashed
  failureRate := sampleRate
  timeoutRate := sampleRate
  observedMaxClientConcurrency := 1

/-- The workload of a sample run. -/
def sampleWorkload : Stage1WorkloadDefinition :=
  ⟨⟨lit "c0"⟩, [1, 2, 3, 4, 5, 6, 7, 8].map fun index => ⟨lit "c" ++ decimal index⟩⟩

/-- A sample run, retained. -/
def SampleRun.bundle (summary : Stage1RunSummary) (fingerprint : Str) : ValidatedBundle where
  manifest :=
    { environmentIdentity := lit "e"
      workload := sampleWorkload
      configuration := ⟨⟨2⟩, ⟨9⟩⟩
      timeoutPolicy := ⟨.finite 1, .finite 1, .finite 1, .finite 1⟩
      sloPolicyName := lit "s"
      workloadSha256 := lit "w"
      configurationSha256 := lit "c"
      fixtureSha256 := lit "f"
      semanticFingerprint := fingerprint
      contentSha256 := none }
  requests := run.requests
  streamEvents := run.events
  serverEvents := []
  summary := summary

/-- The rates of the sample run are read back. -/
theorem floatReads_zero : Json.FloatReads 0 := by
  intro ε rest hrest
  have htext : Interpreter.reprFloat 0 = [48, 46, 48] := by decide +kernel
  obtain ⟨htake, hdrop⟩ :=
    Json.takeWhile_isDigit_append (show ∀ c ∈ [48], Json.isDigit c = true by decide) hrest
  have hfraction : Json.scanFraction (46 :: 48 :: rest) = ([48], rest) := by
    rw [List.singleton_append] at htake hdrop
    simp only [Json.scanFraction, htake, hdrop]
    rfl
  have hvalue : PyFloat.ofDecimal 0 (-1) = .finite 0 := by decide +kernel
  rw [htext]
  show @Json.scanAtom ε (48 :: 46 :: 48 :: rest) = _
  have hmagnitude : @Json.scanMagnitude ε false (48 :: 46 :: 48 :: rest) =
      .ok (.float (.finite 0), rest) := by
    simp [Json.scanMagnitude, hfraction, Json.scanExponent_of_ends hrest, Json.digitsValue, hvalue]
  simp [Json.scanAtom, Json.find?_words_of_isDigit, Json.isDigit, hmagnitude]

/-- What is known of a sample run once it is accepted. -/
structure SampleRun.Accepted (summary : Stage1RunSummary) (fingerprint : Str) : Prop where
  failureRate : summary.failureRate = sampleRate
  timeoutRate : summary.timeoutRate = sampleRate
  view : semanticView (lit "w") (lit "c") (lit "f") run.requests run.events summary = .ok run.view
  identity : sha256Identity run.view.json = .ok fingerprint
  valid : Validated (run.bundle summary fingerprint)

variable {run : SampleRun}

/-- A sample run is accepted, when its checks are seen to pass. -/
theorem SampleRun.exists_accepted
    (hcross : validateCrossRecords sampleWorkload run.requests run.events [] = .ok ())
    (hsummary : run.summary.toOption.any (fun summary =>
      decide (summary.failureRate = sampleRate ∧ summary.timeoutRate = sampleRate ∧
        summary.observedMaxClientConcurrency = 1)) = true)
    (hhashed : collect (fingerprintRequest run.events) run.requests =
      .ok (run.requests.map run.hashed))
    (hencodable : ∀ request ∈ run.requests,
      IsEncodable request.requestId ∧ IsEncodable request.caseId)
    (hshort : intsShort run.view.json = true) :
    ∃ summary fingerprint, run.Accepted summary fingerprint := by
  obtain ⟨summary, hderive, hfailure, htimeout, hobserved⟩ := exists_eq_ok hsummary
  have hrequests : ∀ request ∈ run.view.requests,
      IsEncodable request.requestId ∧ IsEncodable request.caseId ∧
        IsEncodable request.bodySha256 := by
    rw [SampleRun.view, List.forall_mem_map]
    intro request hrequest
    refine ⟨?_, ?_, encodable_hexdigest _⟩
    · exact (hencodable request hrequest).1
    · exact (hencodable request hrequest).2
  have hinputs : ∀ text ∈ [lit "w", lit "c", lit "f"], IsEncodable text := by decide
  obtain ⟨fingerprint, hdigest⟩ := @SemanticView.exists_identity _ run.view hinputs hrequests hshort
  -- the view is that of the sample, since the summary has its rates
  have hview : semanticView (lit "w") (lit "c") (lit "f") run.requests run.events summary =
      .ok run.view := by
    refine bind_eq_ok.mpr ⟨_, hhashed, ?_⟩
    show Except.ok (SemanticView.mk (lit "w") (lit "c") (lit "f") (run.requests.map run.hashed)
      summary.failureRate summary.timeoutRate summary.observedMaxClientConcurrency) = .ok _
    rw [hfailure, htimeout, hobserved]
    rfl
  exact ⟨summary, fingerprint, hfailure, htimeout, hview, hdigest, hcross, hderive,
    bind_eq_ok.mpr ⟨_, hview, hdigest⟩⟩

theorem exists_accepted_sampleRun : ∃ summary fingerprint, ({} : SampleRun).Accepted summary
    fingerprint := by
  apply SampleRun.exists_accepted
  · decide +kernel
  · decide +kernel
  · decide +kernel
  · decide +kernel
  · decide +kernel

/-- The sample run, when its first measured request takes another time and the bodies are cut. -/
def cutRun : SampleRun where
  cut := 7
  latency := 6

theorem exists_accepted_cutRun : ∃ summary fingerprint, cutRun.Accepted summary fingerprint := by
  apply SampleRun.exists_accepted
  · decide +kernel
  · decide +kernel
  · decide +kernel
  · decide +kernel
  · decide +kernel

end

end Stage1
