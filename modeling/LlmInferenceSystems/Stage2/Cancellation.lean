import LlmInferenceSystems.Stage2.Correlation
import LlmInferenceSystems.Stage2.Prometheus

/-!
# Cancellation probes

A probe holds everything retained about one cancelled request: its identity chain and log, its first
generation delivery, and the scrapes before dispatch, while the server drains, while its generation
counter is watched and while it cools down. The verdict accepts it only as one quiescent history of
one process; every check that fails names its classification.

## Main definitions

* `CancellationProbe`, `CancellationResult`: the contracts
* `evaluateCancellation`: the verdict
-/

namespace Stage2

open Python

/-! ## The contracts -/

/-- `CancellationClassification` -/
inductive CancellationClassification where
  | serverAbortAcknowledgedAndDrained
  | unknownAcknowledgement
  | laterCompletion
  | residualWorkTimeout
  | terminalUnknown
  | idCorrelationFailure
deriving DecidableEq

/-- The part of the history a scrape belongs to. -/
inductive ScrapePhase where
  | preDispatch
  | drain
  | stableGeneration
  | cooldown
  | later
deriving DecidableEq

/-- The text of a phase. -/
def ScrapePhase.text : ScrapePhase → Str
  | preDispatch => lit "PRE_DISPATCH"
  | drain => lit "DRAIN"
  | stableGeneration => lit "STABLE_GENERATION"
  | cooldown => lit "COOLDOWN"
  | later => lit "LATER"

/-- `FirstGenerationDeliveryEvidence` -/
structure FirstGenerationDeliveryEvidence where
  externalRequestId : Str
  responseBodyId : Str
  generationEventOrdinal : ℕ
  bodyChunkOrdinal : ℕ
  observationOffsetNs : ℕ
  outputTokenIds : List ℕ
deriving DecidableEq

/-- `ResidualStateEvidence` -/
structure ResidualStateEvidence where
  observationOffsetNs : ℕ
  rawProcessInventory : Str
  rawProcessInventorySha256 : Str
  activeRequestIds : List Str
  projectProcessIds : List ℕ
deriving DecidableEq

/-- `CancellationScrapeObservationEvidence` -/
structure CancellationScrapeObservationEvidence where
  phase : ScrapePhase
  phaseOrdinal : ℕ
  scheduledOffsetNs : ℕ
  requestDispatchOffsetNs : ℕ
  responseCompletionOffsetNs : ℕ
  snapshotIdentitySha256 : Str
deriving DecidableEq

/-- `CancellationProbe` -/
structure CancellationProbe where
  repetitionIndex : ℕ
  serverProcessIdentity : Str
  identityChain : RequestIdentityChain
  rawLogCapture : RawLogCapture
  rawLogCaptureSha256 : Str
  rawLogStartByteOffset : ℕ
  dispatchOffsetNs : ℕ
  firstGenerationDelivery : FirstGenerationDeliveryEvidence
  clientCloseOffsetNs : ℕ
  preDispatchSnapshots : List PrometheusSnapshot
  drainSnapshots : List PrometheusSnapshot
  stableGenerationSnapshots : List PrometheusSnapshot
  cooldownSnapshots : List PrometheusSnapshot
  laterRetainedSnapshots : List PrometheusSnapshot
  scrapeObservations : List CancellationScrapeObservationEvidence
  residualState : ResidualStateEvidence
deriving DecidableEq

/-- `CancellationResult` -/
structure CancellationResult where
  classification : CancellationClassification
  accepted : Bool
  evidenceIdentitySha256 : Str
  promptTokenDelta : Option CounterDelta
  generationTokenDelta : Option CounterDelta
  finishedReasonDeltas : List CounterDelta
  auxiliaryCounterDeltas : List CounterDelta
  observedAbortDelta : Option ℚ
deriving DecidableEq

/-- `model_dump` -/
def FirstGenerationDeliveryEvidence.dump (delivery : FirstGenerationDeliveryEvidence) : Json :=
  .obj [(lit "external_request_id", .str delivery.externalRequestId),
    (lit "response_body_id", .str delivery.responseBodyId),
    (lit "generation_event_ordinal", .int delivery.generationEventOrdinal),
    (lit "body_chunk_ordinal", .int delivery.bodyChunkOrdinal),
    (lit "observation_offset_ns", .int delivery.observationOffsetNs),
    (lit "output_token_ids", .arr (delivery.outputTokenIds.map fun id : ℕ => .int id))]

/-- `model_dump` -/
def ResidualStateEvidence.dump (state : ResidualStateEvidence) : Json :=
  .obj [(lit "observation_offset_ns", .int state.observationOffsetNs),
    (lit "raw_process_inventory", .str state.rawProcessInventory),
    (lit "raw_process_inventory_sha256", .str state.rawProcessInventorySha256),
    (lit "active_request_ids", .arr (state.activeRequestIds.map .str)),
    (lit "project_process_ids", .arr (state.projectProcessIds.map fun id : ℕ => .int id))]

/-- `model_dump` -/
def CancellationScrapeObservationEvidence.dump
    (observation : CancellationScrapeObservationEvidence) : Json :=
  .obj [(lit "phase", .str observation.phase.text),
    (lit "phase_ordinal", .int observation.phaseOrdinal),
    (lit "scheduled_offset_ns", .int observation.scheduledOffsetNs),
    (lit "request_dispatch_offset_ns", .int observation.requestDispatchOffsetNs),
    (lit "response_completion_offset_ns", .int observation.responseCompletionOffsetNs),
    (lit "snapshot_identity_sha256", .str observation.snapshotIdentitySha256)]

/-- `model_dump` -/
def CancellationProbe.dump (probe : CancellationProbe) : Json :=
  let snapshots (list : List PrometheusSnapshot) : Json := .arr (list.map PrometheusSnapshot.dump)
  .obj [(lit "repetition_index", .int probe.repetitionIndex),
    (lit "server_process_identity", .str probe.serverProcessIdentity),
    (lit "identity_chain", probe.identityChain.dump),
    (lit "raw_log_capture", probe.rawLogCapture.dump),
    (lit "raw_log_capture_sha256", .str probe.rawLogCaptureSha256),
    (lit "raw_log_start_byte_offset", .int probe.rawLogStartByteOffset),
    (lit "dispatch_offset_ns", .int probe.dispatchOffsetNs),
    (lit "first_generation_delivery", probe.firstGenerationDelivery.dump),
    (lit "client_close_offset_ns", .int probe.clientCloseOffsetNs),
    (lit "pre_dispatch_snapshots", snapshots probe.preDispatchSnapshots),
    (lit "drain_snapshots", snapshots probe.drainSnapshots),
    (lit "stable_generation_snapshots", snapshots probe.stableGenerationSnapshots),
    (lit "cooldown_snapshots", snapshots probe.cooldownSnapshots),
    (lit "later_retained_snapshots", snapshots probe.laterRetainedSnapshots),
    (lit "scrape_observations",
      .arr (probe.scrapeObservations.map CancellationScrapeObservationEvidence.dump)),
    (lit "residual_state", probe.residualState.dump)]

/-- The finish reason of an aborted request. -/
def abort : Str := lit "abort"

/-- `("length", "stop", "error", "repetition")` -/
def completionReasons : List Str := [lit "length", lit "stop", lit "error", lit "repetition"]

/-- `("abort", "length", "stop", "error", "repetition")` -/
def reasons : List Str := abort :: completionReasons

/-- The counters that the request itself need not move. -/
def auxiliaryMetrics : List Str := [preemptions, prefixCacheQueries, prefixCacheHits]

/-- `_CANCELLATION_COUNTER_SELECTORS` -/
def cancellationCounterSelectors : List (Str × Option Str) :=
  [(promptTokens, none), (generationTokens, none), (preemptions, none),
    (prefixCacheQueries, none), (prefixCacheHits, none)] ++
  reasons.map fun reason => (requestSuccess, some reason)

/-- `{dict(delta.labels)["finished_reason"]: delta.delta for delta in deltas}` -/
def reasonValues (deltas : List CounterDelta) : Except PyError (List (Str × ℚ)) :=
  collect (fun delta =>
    match delta.labels.lookup (lit "finished_reason") with
    | none => .error .key
    | some reason => .ok (reason, delta.delta)) deltas

/-- `values[key]` -/
def item (values : List (Str × ℚ)) (key : Str) : Except PyError ℚ :=
  match values.lookup key with
  | none => .error .key
  | some value => .ok value

/-- The validation of a `CancellationResult`. -/
def CancellationResult.validate (result : CancellationResult) :
    Except PyError CancellationResult :=
  let success := result.classification = .serverAbortAcknowledgedAndDrained
  let reasonValue (reason : Str) : Option ℚ :=
    (result.finishedReasonDeltas.reverse.find? fun delta =>
      delta.labels.lookup (lit "finished_reason") = some reason).map (·.delta)
  if result.accepted ≠ decide success then
    .error (.validation "cancellation acceptance must match its classification")
  else if success ∧ (result.promptTokenDelta = none ∨ result.generationTokenDelta = none ∨
      result.finishedReasonDeltas.length ≠ 5 ∨ result.auxiliaryCounterDeltas.length ≠ 3 ∨
      result.observedAbortDelta = none) then
    .error (.validation "accepted cancellation result lacks derived counter evidence")
  else if ¬ ∀ value ∈ result.observedAbortDelta, value = 0 ∨ value = 1 then
    .error (.validation "observed abort delta must remain exactly zero or one")
  else if success ∧
      ((∃ delta ∈ result.promptTokenDelta, delta.metric ≠ promptTokens ∨ delta.delta ≠ 64) ∨
        (∃ delta ∈ result.generationTokenDelta,
          delta.metric ≠ generationTokens ∨ delta.delta < 1) ∨
        reasonValue abort ≠ result.observedAbortDelta ∨
        (∃ reason ∈ completionReasons, reasonValue reason ≠ some 0) ∨
        result.auxiliaryCounterDeltas.map (·.metric) ≠ auxiliaryMetrics ∨
        ∃ delta ∈ result.auxiliaryCounterDeltas, delta.delta ≠ 0) then
    .error (.validation "accepted cancellation counter evidence differs from the contract")
  else if ¬ success ∧ (result.promptTokenDelta ≠ none ∨ result.generationTokenDelta ≠ none ∨
      result.observedAbortDelta ≠ none) then
    .error (.validation "invalid cancellation cannot retain accepted derived deltas")
  else if ¬ success ∧ (result.finishedReasonDeltas ≠ [] ∨ result.auxiliaryCounterDeltas ≠ []) then
    .error (.validation "invalid cancellation cannot retain derived counter sequences")
  else .ok result

/-! ## The verdict -/

/-- `except PrometheusProtocolError: return False`, for a check that fails. -/
def failsOrRaises (check : Except PyError Bool) : Except PyError Bool :=
  match check with
  | .error e => if e.isPrometheusProtocol then .ok true else .error e
  | .ok fails => .ok fails

/-- `not _validate_counter_progression(snapshots)` -/
def counterProgressionFails (snapshots : List PrometheusSnapshot) : Except PyError Bool :=
  failsOrRaises <| (each (fun p : PrometheusSnapshot × PrometheusSnapshot =>
    each (fun selector =>
      (deriveCounterDelta p.1 p.2 selector.1 selector.2).map fun _ => ())
      cancellationCounterSelectors) (neighbours snapshots)).map fun _ => false

/-- `not _all_selected_counters_stable(snapshots)` -/
def selectedCountersUnstable (snapshots : List PrometheusSnapshot) : Except PyError Bool :=
  failsOrRaises <| anyOf <| (neighbours snapshots).flatMap fun p =>
    cancellationCounterSelectors.map fun selector =>
      (deriveCounterDelta p.1 p.2 selector.1 selector.2).map fun delta => decide (delta.delta ≠ 0)

/-- The times of scrapes. -/
def snapshotOffsets (snapshots : List PrometheusSnapshot) : List ℕ :=
  snapshots.map (·.scrapeMonotonicOffsetNs)

/-- The scheduled times of observations. -/
def scheduledOffsets (observations : List CancellationScrapeObservationEvidence) : List ℕ :=
  observations.map (·.scheduledOffsetNs)

/-- `all(right - left >= spacing_ns for left, right in pairwise(offsets))` -/
def spacedAtLeast (spacingNs : ℕ) (offsets : List ℕ) : Bool :=
  ∀ p ∈ neighbours offsets, p.1 + spacingNs ≤ p.2

/-- `all(right - left == spacing_ns for left, right in pairwise(offsets))` -/
def spacedExactly (spacingNs : ℕ) (offsets : List ℕ) : Bool :=
  ∀ p ∈ neighbours offsets, p.1 + spacingNs = p.2

/-- Schedule, dispatch and completion of a scrape. -/
def CancellationScrapeObservationEvidence.times
    (observation : CancellationScrapeObservationEvidence) : ℕ × ℕ × ℕ :=
  (observation.scheduledOffsetNs, observation.requestDispatchOffsetNs,
    observation.responseCompletionOffsetNs)

/-- What `validate_observation` and the fields of an observation require. -/
structure CancellationScrapeObservationEvidence.Valid
    (observation : CancellationScrapeObservationEvidence) : Prop where
  sent : observation.scheduledOffsetNs ≤ observation.requestDispatchOffsetNs
  answered : observation.requestDispatchOffsetNs ≤ observation.responseCompletionOffsetNs
  digest : IsSha256 observation.snapshotIdentitySha256

namespace CancellationProbe

/-- `phase_snapshots` -/
def phaseSnapshots (probe : CancellationProbe) : List (ScrapePhase × List PrometheusSnapshot) :=
  [(.preDispatch, probe.preDispatchSnapshots), (.drain, probe.drainSnapshots),
    (.stableGeneration, probe.stableGenerationSnapshots), (.cooldown, probe.cooldownSnapshots),
    (.later, probe.laterRetainedSnapshots)]

/-- `all_snapshots` -/
def allSnapshots (probe : CancellationProbe) : List PrometheusSnapshot :=
  probe.preDispatchSnapshots ++ probe.drainSnapshots ++ probe.stableGenerationSnapshots ++
    probe.cooldownSnapshots ++ probe.laterRetainedSnapshots

/-- `chronological` -/
def chronological (probe : CancellationProbe) : List PrometheusSnapshot :=
  probe.preDispatchSnapshots ++ probe.drainSnapshots ++ probe.stableGenerationSnapshots.tail ++
    probe.cooldownSnapshots.tail ++ probe.laterRetainedSnapshots

/-- `stable_and_later` -/
def stableAndLater (probe : CancellationProbe) : List PrometheusSnapshot :=
  probe.stableGenerationSnapshots ++ probe.cooldownSnapshots.tail ++ probe.laterRetainedSnapshots

/-- The observations before dispatch. -/
def preObservations (probe : CancellationProbe) : List CancellationScrapeObservationEvidence :=
  probe.scrapeObservations.take probe.preDispatchSnapshots.length

/-- The observations of the drain. -/
def drainObservations (probe : CancellationProbe) : List CancellationScrapeObservationEvidence :=
  (probe.scrapeObservations.drop probe.preDispatchSnapshots.length).take
    probe.drainSnapshots.length

/-- The observations of the window of stable generation. -/
def stableObservations (probe : CancellationProbe) : List CancellationScrapeObservationEvidence :=
  (probe.scrapeObservations.drop
    (probe.preDispatchSnapshots.length + probe.drainSnapshots.length)).take
    probe.stableGenerationSnapshots.length

/-- The observations of the cooldown. -/
def cooldownObservations (probe : CancellationProbe) :
    List CancellationScrapeObservationEvidence :=
  (probe.scrapeObservations.drop (probe.preDispatchSnapshots.length +
    probe.drainSnapshots.length + probe.stableGenerationSnapshots.length)).take
    probe.cooldownSnapshots.length

/-- A probe whose texts can be encoded has an identity. -/
theorem jsonEncodable_dump {probe : CancellationProbe}
    (hprocess : IsEncodable probe.serverProcessIdentity)
    (hchain : JsonEncodable probe.identityChain.dump)
    (hcapture : JsonEncodable probe.rawLogCapture.dump)
    (hdigest : IsEncodable probe.rawLogCaptureSha256)
    (hdelivery : IsEncodable probe.firstGenerationDelivery.externalRequestId ∧
      IsEncodable probe.firstGenerationDelivery.responseBodyId)
    (hsnapshots : ∀ snapshot ∈ probe.allSnapshots, JsonEncodable snapshot.dump)
    (hobservations : ∀ observation ∈ probe.scrapeObservations,
      IsEncodable observation.snapshotIdentitySha256)
    (hresidual : IsEncodable probe.residualState.rawProcessInventory ∧
      IsEncodable probe.residualState.rawProcessInventorySha256 ∧
      ∀ id ∈ probe.residualState.activeRequestIds, IsEncodable id) :
    JsonEncodable probe.dump := by
  -- every list of snapshots is a part of all snapshots
  have hlist : ∀ list : List PrometheusSnapshot, list ⊆ probe.allSnapshots →
      ItemsEncodable (list.map PrometheusSnapshot.dump) := by
    intro list hsub
    refine itemsEncodable_iff.mpr fun item hitem => ?_
    obtain ⟨snapshot, hsnapshot, rfl⟩ := List.mem_map.mp hitem
    exact hsnapshots snapshot (hsub hsnapshot)
  have hints : ∀ ids : List ℕ, ItemsEncodable (ids.map fun id : ℕ => .int id) := by
    intro ids
    refine itemsEncodable_iff.mpr fun item hitem => ?_
    obtain ⟨id, -, rfl⟩ := List.mem_map.mp hitem
    exact trivial
  have hphase : ∀ phase : ScrapePhase, IsEncodable phase.text := by
    rintro (_ | _) <;> decide
  -- field by field, in the order of the dump
  refine ⟨encodable_lit _, trivial, encodable_lit _, hprocess, encodable_lit _, hchain,
    encodable_lit _, hcapture, encodable_lit _, hdigest, encodable_lit _, trivial, encodable_lit _,
    trivial, encodable_lit _, ?_, encodable_lit _, trivial, encodable_lit _, hlist _ ?_,
    encodable_lit _, hlist _ ?_, encodable_lit _, hlist _ ?_, encodable_lit _, hlist _ ?_,
    encodable_lit _, hlist _ ?_, encodable_lit _, ?_, encodable_lit _, ?_, trivial⟩
  · exact ⟨encodable_lit _, hdelivery.1, encodable_lit _, hdelivery.2, encodable_lit _, trivial,
      encodable_lit _, trivial, encodable_lit _, trivial, encodable_lit _, hints _, trivial⟩
  · intro snapshot hsnapshot
    simp [allSnapshots, hsnapshot]
  · intro snapshot hsnapshot
    simp [allSnapshots, hsnapshot]
  · intro snapshot hsnapshot
    simp [allSnapshots, hsnapshot]
  · intro snapshot hsnapshot
    simp [allSnapshots, hsnapshot]
  · intro snapshot hsnapshot
    simp [allSnapshots, hsnapshot]
  · refine itemsEncodable_iff.mpr fun item hitem => ?_
    obtain ⟨observation, hobservation, rfl⟩ := List.mem_map.mp hitem
    exact ⟨encodable_lit _, hphase _, encodable_lit _, trivial, encodable_lit _, trivial,
      encodable_lit _, trivial, encodable_lit _, trivial, encodable_lit _,
      hobservations observation hobservation, trivial⟩
  · refine ⟨encodable_lit _, trivial, encodable_lit _, hresidual.1, encodable_lit _,
      hresidual.2.1, encodable_lit _, itemsEncodable_iff.mpr fun item hitem => ?_,
      encodable_lit _, hints _, trivial⟩
    obtain ⟨id, hid, rfl⟩ := List.mem_map.mp hitem
    exact hresidual.2.2 id hid

theorem intsShort_dump {probe : CancellationProbe} :
    intsShort probe.dump = true ↔
      probe.repetitionIndex < maxInt ∧ intsShort probe.identityChain.dump = true ∧
        intsShort probe.rawLogCapture.dump = true ∧ probe.rawLogStartByteOffset < maxInt ∧
        probe.dispatchOffsetNs < maxInt ∧
        intsShort probe.firstGenerationDelivery.dump = true ∧
        probe.clientCloseOffsetNs < maxInt ∧
        (∀ snapshot ∈ probe.allSnapshots, snapshot.scrapeMonotonicOffsetNs < maxInt) ∧
        (∀ observation ∈ probe.scrapeObservations, intsShort observation.dump = true) ∧
        intsShort probe.residualState.dump = true := by
  simp only [dump, intsShort, fieldsShort, itemsShort_iff, List.forall_mem_map,
    PrometheusSnapshot.intsShort_dump, allSnapshots, List.forall_mem_append, Bool.and_eq_true,
    Bool.true_and, Bool.and_true, decide_eq_true_eq, Int.natAbs_natCast, and_assoc]
section

variable [Interpreter]

/-- What the contracts require of a probe. -/
structure Valid (probe : CancellationProbe) : Prop where
  repetition : 1 ≤ probe.repetitionIndex ∧ probe.repetitionIndex ≤ 3
  process : IsIdentifier probe.serverProcessIdentity
  chain : probe.identityChain.Validated
  capture : probe.rawLogCapture.Valid
  captureDigest : IsSha256 probe.rawLogCaptureSha256
  delivery : IsIdentifier probe.firstGenerationDelivery.externalRequestId ∧
    IsIdentifier probe.firstGenerationDelivery.responseBodyId ∧
    probe.firstGenerationDelivery.outputTokenIds ≠ []
  snapshots : ∀ snapshot ∈ probe.allSnapshots, snapshot.Valid
  pre : probe.preDispatchSnapshots.length = 10
  drain : probe.drainSnapshots.length = 10
  stable : 2 ≤ probe.stableGenerationSnapshots.length
  cooldown : 2 ≤ probe.cooldownSnapshots.length
  observations : ∀ observation ∈ probe.scrapeObservations, observation.Valid
  enough : 52 ≤ probe.scrapeObservations.length
  residual : IsSha256 probe.residualState.rawProcessInventorySha256

/-- `_invalid_cancellation` -/
def invalidCancellation (probe : CancellationProbe)
    (classification : CancellationClassification) : Except PyError CancellationResult :=
  match sha256Identity probe.dump with
  | .error e => .error e
  | .ok identity =>
    CancellationResult.validate
      { classification
        accepted := false
        evidenceIdentitySha256 := identity
        promptTokenDelta := none
        generationTokenDelta := none
        finishedReasonDeltas := []
        auxiliaryCounterDeltas := []
        observedAbortDelta := none }

/-- `if check: return _invalid_cancellation(probe, classification)` -/
def rejectIf (probe : CancellationProbe) (classification : CancellationClassification)
    (check : Except PyError Bool) (next : Except PyError CancellationResult) :
    Except PyError CancellationResult :=
  match check with
  | .error e => .error e
  | .ok true => probe.invalidCancellation classification
  | .ok false => next

/-- `try: … except …: return _invalid_cancellation(probe, classification)` -/
def rejectIfRaises {α : Type} (probe : CancellationProbe)
    (classification : CancellationClassification) (caught : PyError → Bool)
    (value : Except PyError α) (next : α → Except PyError CancellationResult) :
    Except PyError CancellationResult :=
  match value with
  | .error e => if caught e then probe.invalidCancellation classification else .error e
  | .ok a => next a

/-- The chain is not the one the log correlates to, or not that of the probe. -/
def identityDiffers (probe : CancellationProbe) (reconstructedChain : RequestIdentityChain) :
    Bool :=
  reconstructedChain ≠ probe.identityChain ∨
    probe.rawLogCaptureSha256 ≠ probe.rawLogCapture.rawBytesSha256 ∨
    probe.rawLogCapture.sourceStreamId ≠ probe.serverProcessIdentity ++ lit "-raw-log" ∨
    probe.identityChain.requestReceivedLog.byteStart < probe.rawLogStartByteOffset ∨
    probe.firstGenerationDelivery.externalRequestId ≠ probe.identityChain.externalBaseId ∨
    probe.firstGenerationDelivery.responseBodyId ≠ probe.identityChain.responseBodyId

/-- The client's and the log's events are out of order. -/
def chronologyDiffers (probe : CancellationProbe) (internalAbort externalAbort : RawLogRecord) :
    Bool :=
  ¬ (probe.dispatchOffsetNs < probe.firstGenerationDelivery.observationOffsetNs ∧
      probe.firstGenerationDelivery.observationOffsetNs ≤ probe.clientCloseOffsetNs) ∨
    ¬ [probe.dispatchOffsetNs, probe.identityChain.requestReceivedLog.observationOffsetNs,
      probe.identityChain.requestAddLog.observationOffsetNs,
      probe.firstGenerationDelivery.observationOffsetNs, probe.clientCloseOffsetNs,
      internalAbort.observationOffsetNs, externalAbort.observationOffsetNs].IsChain (· ≤ ·)

/-- The snapshots are not all of the probe's one process. -/
def processDiffers (probe : CancellationProbe) : Bool :=
  (probe.allSnapshots.map (·.processStartId)).dedup.length ≠ 1 ∨
    ∃ snapshot ∈ probe.allSnapshots, snapshot.processStartId ≠ probe.serverProcessIdentity

/-- `expected_observation_keys` -/
def expectedObservationKeys (probe : CancellationProbe) :
    Except PyError (List (ScrapePhase × ℕ × Str)) :=
  collect (fun key : ScrapePhase × ℕ × PrometheusSnapshot =>
    (sha256Identity key.2.2.dump).map fun identity => (key.1, key.2.1, identity))
    (probe.phaseSnapshots.flatMap fun phase =>
      phase.2.zipIdx.map fun entry => (phase.1, entry.2, entry.1))

/-- The scrape observations are not those of the snapshots, or not in order. -/
def observationsDiffer (probe : CancellationProbe) : Except PyError Bool :=
  match probe.expectedObservationKeys with
  | .error e => .error e
  | .ok expected =>
    anyOf [
      .ok (decide (probe.scrapeObservations.map (fun observation =>
        (observation.phase, observation.phaseOrdinal, observation.snapshotIdentitySha256)) ≠
          expected)),
      anyZip (fun observation snapshot =>
        decide (observation.responseCompletionOffsetNs ≠ snapshot.scrapeMonotonicOffsetNs))
        probe.scrapeObservations probe.allSnapshots,
      .ok (decide (∃ observation ∈ probe.scrapeObservations,
        ¬ (observation.scheduledOffsetNs ≤ observation.requestDispatchOffsetNs ∧
          observation.requestDispatchOffsetNs ≤ observation.responseCompletionOffsetNs))),
      .ok (decide (snapshotOffsets probe.allSnapshots ≠
        sorted (snapshotOffsets probe.allSnapshots)))]

/-- The scrapes before dispatch are too close together or not before it. -/
def preWindowFails (probe : CancellationProbe) : Except PyError Bool :=
  anyOf [
    .ok (!spacedAtLeast 100000000 (scheduledOffsets probe.preObservations)),
    .ok (!spacedAtLeast 100000000 (snapshotOffsets probe.preDispatchSnapshots)),
    do
      let final ← last probe.preDispatchSnapshots
      return decide (probe.dispatchOffsetNs ≤ final.scrapeMonotonicOffsetNs)]

/-- A request is running or waiting. -/
def quiescenceFails (probe : CancellationProbe) : Except PyError Bool :=
  failsOrRaises <| (each requireQuiescent probe.allSnapshots).map fun _ => false

/-- The drain, the stable second or the cooldown does not have its form. -/
def windowsFail (probe : CancellationProbe) (externalAbort : RawLogRecord) :
    Except PyError Bool :=
  let drain := probe.drainSnapshots
  let stable := probe.stableGenerationSnapshots
  let cooldown := probe.cooldownSnapshots
  let later := probe.laterRetainedSnapshots
  anyOf [
    do
      return decide ((← first drain).scrapeMonotonicOffsetNs < probe.clientCloseOffsetNs),
    do
      return decide ((← first drain).scrapeMonotonicOffsetNs < externalAbort.observationOffsetNs),
    .ok (!spacedAtLeast 100000000 (scheduledOffsets probe.drainObservations)),
    .ok (!spacedAtLeast 100000000 (snapshotOffsets drain)),
    do
      return decide ((← first stable).scrapeMonotonicOffsetNs ≠
        (← last drain).scrapeMonotonicOffsetNs),
    do
      return decide ((← first stable) ≠ (← last drain)),
    do
      return decide ((← first probe.stableObservations).times ≠
        (← last probe.drainObservations).times),
    do
      return decide ((← last stable).scrapeMonotonicOffsetNs <
        (← first stable).scrapeMonotonicOffsetNs + 1000000000),
    .ok (!spacedExactly 100000000 (scheduledOffsets probe.stableObservations)),
    -- the two snapshots themselves are not compared here
    do
      return decide ((← first cooldown).scrapeMonotonicOffsetNs ≠
        (← last stable).scrapeMonotonicOffsetNs),
    do
      return decide ((← first probe.cooldownObservations).times ≠
        (← last probe.stableObservations).times),
    do
      return decide ((← last cooldown).scrapeMonotonicOffsetNs <
        (← first cooldown).scrapeMonotonicOffsetNs + 2000000000),
    .ok (!spacedExactly 100000000 (scheduledOffsets probe.cooldownObservations)),
    do
      return decide (probe.clientCloseOffsetNs + 10000000000 <
        (← last cooldown).scrapeMonotonicOffsetNs),
    do
      return decide ((← last cooldown).scrapeMonotonicOffsetNs <
        externalAbort.observationOffsetNs),
    anyOf (later.map fun snapshot => do
      return decide (snapshot.scrapeMonotonicOffsetNs ≤
        (← last cooldown).scrapeMonotonicOffsetNs)),
    .ok (decide (snapshotOffsets later ≠ sorted (snapshotOffsets later)))]

/-- `last_retained_snapshot` -/
def lastRetainedSnapshot (probe : CancellationProbe) : Except PyError PrometheusSnapshot :=
  if probe.laterRetainedSnapshots = [] then last probe.cooldownSnapshots
  else last probe.laterRetainedSnapshots

/-- The differences of the finish reasons between two snapshots. -/
def reasonDeltas (before after : PrometheusSnapshot) : Except PyError (List CounterDelta) :=
  collect (fun reason => deriveCounterDelta before after requestSuccess (some reason)) reasons

/-- `retained_reason_deltas`, between the last scrape before dispatch and the last one retained. -/
def retainedReasonDeltas (probe : CancellationProbe) : Except PyError (List CounterDelta) := do
  let final ← probe.lastRetainedSnapshot
  reasonDeltas (← last probe.preDispatchSnapshots) final

/-- An aborted request counts at most once, and no request completes. -/
def laterCompletion (observed : List (Str × ℚ)) : Except PyError Bool :=
  anyOf (
    (item observed abort).map (fun value => decide (value ≠ 0 ∧ value ≠ 1)) ::
    completionReasons.map fun reason =>
      (item observed reason).map fun value => decide (value ≠ 0))

/-- Not all of the retained snapshots show the first stable snapshot's generation counter. -/
def generationMoves (probe : CancellationProbe) : Except PyError Bool := do
  let stable ← first probe.stableGenerationSnapshots
  let stableValue ← selectExactSeries stable generationTokens
  anyOf ((probe.stableGenerationSnapshots ++ probe.cooldownSnapshots ++
    probe.laterRetainedSnapshots).map fun snapshot =>
      (selectExactSeries snapshot generationTokens).map fun sample =>
        decide (sample.value ≠ stableValue.value))

/-- The counter differences of a result. -/
structure ReportedDeltas where
  promptDelta : CounterDelta
  generationDelta : CounterDelta
  reasonDeltas : List CounterDelta
  auxiliaryDeltas : List CounterDelta

/-- The differences between the last scrape before dispatch and the last of the cooldown. -/
def reportedDeltas (probe : CancellationProbe) : Except PyError ReportedDeltas := do
  let baseline ← last probe.preDispatchSnapshots
  let final ← last probe.cooldownSnapshots
  let promptDelta ← deriveCounterDelta baseline final promptTokens
  let generationDelta ← deriveCounterDelta baseline final generationTokens
  let reasonDeltas ← reasonDeltas baseline final
  let auxiliaryDeltas ← collect (fun metric => deriveCounterDelta baseline final metric)
    auxiliaryMetrics
  return { promptDelta, generationDelta, reasonDeltas, auxiliaryDeltas }

/-- The residual state does not reconstruct, is too early or is not empty. -/
def residualStateFails (probe : CancellationProbe) : Except PyError Bool := do
  let state := probe.residualState
  let lastRetained ← probe.lastRetainedSnapshot
  anyOf [
    match utf8Encode state.rawProcessInventory with
    | none => .error .unicodeEncode
    | some encoded => .ok (decide (state.rawProcessInventorySha256 ≠ Interpreter.hexdigest encoded)),
    .ok (decide (state.observationOffsetNs < lastRetained.scrapeMonotonicOffsetNs)),
    .ok (decide (state.activeRequestIds ≠ [])),
    .ok (decide (state.projectProcessIds ≠ []))]

/-- The end of the verdict, once the reported differences are derived. -/
def evaluateReported (probe : CancellationProbe) (deltas : ReportedDeltas) :
    Except PyError CancellationResult :=
  reasonValues deltas.reasonDeltas >>= fun observed =>
  probe.rejectIf .laterCompletion (laterCompletion observed) <|
  probe.rejectIf .residualWorkTimeout (.ok (decide (deltas.promptDelta.delta ≠ 64 ∨
    deltas.generationDelta.delta < 1 ∨
    ∃ delta ∈ deltas.auxiliaryDeltas, delta.delta ≠ 0))) <|
  probe.rejectIf .residualWorkTimeout probe.residualStateFails <|
  sha256Identity probe.dump >>= fun identity =>
  item observed abort >>= fun observedAbort =>
  CancellationResult.validate
    { classification := .serverAbortAcknowledgedAndDrained
      accepted := true
      evidenceIdentitySha256 := identity
      promptTokenDelta := some deltas.promptDelta
      generationTokenDelta := some deltas.generationDelta
      finishedReasonDeltas := deltas.reasonDeltas
      auxiliaryCounterDeltas := deltas.auxiliaryDeltas
      observedAbortDelta := some observedAbort }

/-- The verdict on the snapshots, once they are quiescent and in their windows. -/
def evaluateCounters (probe : CancellationProbe) : Except PyError CancellationResult :=
  probe.rejectIf .residualWorkTimeout
    (anyOf [counterProgressionFails probe.chronological,
      selectedCountersUnstable probe.preDispatchSnapshots]) <|
  probe.rejectIfRaises .residualWorkTimeout PyError.isPrometheusProtocol
    probe.retainedReasonDeltas fun retained =>
  probe.rejectIf .laterCompletion (laterCompletion (reasons.zip (retained.map (·.delta)))) <|
  probe.rejectIf .residualWorkTimeout (selectedCountersUnstable probe.stableAndLater) <|
  probe.rejectIf .residualWorkTimeout (failsOrRaises probe.generationMoves) <|
  probe.rejectIfRaises .residualWorkTimeout PyError.isPrometheusProtocol probe.reportedDeltas
    probe.evaluateReported

/-- The verdict on the scrapes, once the identity chain and the chronology are accepted. -/
def evaluateScrapes (probe : CancellationProbe) (externalAbort : RawLogRecord) :
    Except PyError CancellationResult :=
  probe.rejectIf .residualWorkTimeout (.ok (decide (probe.preDispatchSnapshots.length ≠ 10 ∨
    probe.drainSnapshots.length ≠ 10))) <|
  probe.rejectIf .residualWorkTimeout (.ok probe.processDiffers) <|
  probe.rejectIf .residualWorkTimeout probe.observationsDiffer <|
  probe.rejectIf .residualWorkTimeout probe.preWindowFails <|
  probe.rejectIf .residualWorkTimeout probe.quiescenceFails <|
  probe.rejectIf .residualWorkTimeout (probe.windowsFail externalAbort) <|
  probe.evaluateCounters

/-- `evaluate_cancellation` -/
def evaluateCancellation (probe : CancellationProbe) : Except PyError CancellationResult :=
  let chain := probe.identityChain
  probe.rejectIf .idCorrelationFailure
    (.ok (decide (chain.responseBodyId ≠ responseBodyId chain.externalBaseId ∨
      chain.servingItemId ≠ servingItemId chain.externalBaseId))) <|
  match chain.externalAbortLog, chain.internalAbortLog with
  | some externalAbort, some internalAbort =>
    probe.rejectIfRaises .idCorrelationFailure PyError.isStage2Protocol
      (correlateRequestLogs chain.externalBaseId probe.rawLogCapture.records true)
      fun reconstructedChain =>
    probe.rejectIf .idCorrelationFailure (.ok (probe.identityDiffers reconstructedChain)) <|
    probe.rejectIf .terminalUnknown (.ok (probe.chronologyDiffers internalAbort externalAbort)) <|
    probe.evaluateScrapes externalAbort
  | _, _ => probe.invalidCancellation .unknownAcknowledgement

end

end CancellationProbe

end Stage2
