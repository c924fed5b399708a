import LlmInferenceSystems.Contracts
import LlmInferenceSystems.Python.Checks
import LlmInferenceSystems.Python.Sequence

/-!
# Contracts of the first stage

The record a run retains of a request, with what its validators require, and the parts of a run's
configuration that its summary reads. Nonnegative integers are natural numbers.

## Main definitions

* `RequestRecord`: the outcome of a request, with its stream events and its token counts
* `RunConfiguration`: the load shape, the SLO and the configured server batch size
* `RequestRecord.modelValidate`, `RunConfiguration.modelValidate`: their validators
-/

namespace Stage0

open Python

/-- `IdentitySource`: where an identity comes from. -/
inductive IdentitySource where
  | syntheticFixture
  | configured
  | runtimeReported
  | directlyObserved
deriving DecidableEq

/-- `RequestPhase` -/
inductive RequestPhase where
  | warmup
  | measured
deriving DecidableEq

/-- `RequestOutcome` -/
inductive RequestOutcome where
  | success
  | timeout
  | transportError
  | httpError
  | protocolError
  | malformedStream
  | tokenAccountingError
  | cancelled
  | unexpectedError
deriving DecidableEq

/-- `TokenCountSource` -/
inductive TokenCountSource where
  | fixtureExact
  | tokenizerDerived
  | serverReported
  | unknown
deriving DecidableEq

/-- `TokenCountQuality` -/
inductive TokenCountQuality where
  | exact
  | derived
  | unavailable
deriving DecidableEq

/-- `MetricName` -/
inductive MetricName where
  | ttftNs
  | endToEndSuccessNs
  | tpotNs
  | itlNs
deriving DecidableEq

/-- `MetricUnavailableReason` -/
inductive MetricUnavailableReason where
  | noSamples
  | requestFailed
  | firstOutputTokenNotObserved
  | insufficientOutputTokens
  | missingTokenCount
  | missingTokenTimestamps
  | multiTokenChunkWithoutTokenTimestamps
  | tokenTimestampCountMismatch
deriving DecidableEq

/-- `if condition: raise ValueError(message)` in a validator -/
def reject (condition : Prop) [Decidable condition] (message : String) : Except PyError Unit :=
  if condition then .error (.validation message) else .ok ()

@[simp] theorem reject_eq_ok {condition : Prop} [Decidable condition] {message : String} :
    reject condition message = .ok () ↔ ¬ condition := by
  unfold reject
  split <;> simp [*]

/-! ## Configurations -/

/-- `LoadShape`: a closed loop of so many clients. -/
structure LoadShape where
  requestedClientConcurrency : ℕ
deriving DecidableEq

/-- `SLODefinition`: thresholds, each of which may be left out. -/
structure SLODefinition where
  policyName : Str
  ttftThresholdNs : Option ℕ
  tpotThresholdNs : Option ℕ
  endToEndThresholdNs : Option ℕ
  itlThresholdNs : Option ℕ
deriving DecidableEq

namespace SLODefinition

/-- The thresholds in the order of their fields. -/
def thresholds (slo : SLODefinition) : List (Option ℕ) :=
  [slo.ttftThresholdNs, slo.tpotThresholdNs, slo.endToEndThresholdNs, slo.itlThresholdNs]

/-- The types of the fields, and `require_threshold` -/
def check (slo : SLODefinition) : Except PyError Unit := do
  reject (¬ IsIdentifier slo.policyName) "policy_name"
  reject (some 0 ∈ slo.thresholds) "threshold"
  reject (∀ threshold ∈ slo.thresholds, threshold = none)
    "an SLO policy must declare at least one threshold"

end SLODefinition

/-- The configuration of a run, as far as its summary reads it. -/
structure RunConfiguration where
  loadShape : LoadShape
  slo : SLODefinition
  configuredServerMaximumBatchSize : Option ℕ
  configuredServerBatchSource : Option IdentitySource
deriving DecidableEq

/-- The types of the fields, and what `validate_configuration` says of the server batch size. -/
def RunConfiguration.modelValidate (configuration : RunConfiguration) :
    Except PyError RunConfiguration := do
  reject (configuration.loadShape.requestedClientConcurrency = 0) "requested_client_concurrency"
  configuration.slo.check
  reject (configuration.configuredServerMaximumBatchSize = some 0)
    "configured_server_maximum_batch_size"
  reject (¬ (configuration.configuredServerMaximumBatchSize = none ↔
      configuration.configuredServerBatchSource = none))
    "configured server batch size and source must be present together"
  reject (configuration.configuredServerBatchSource = some .directlyObserved)
    "a configured server batch limit cannot be directly observed"
  return configuration

/-! ## Requests -/

/-- `TokenCount` -/
structure TokenCount where
  value : Option ℕ
  source : TokenCountSource
  quality : TokenCountQuality
  tokenizerId : Option Str
  tokenizerRevision : Option Str
  providerFieldName : Option Str
deriving DecidableEq

namespace TokenCount

/-- What the source and the quality say of the value. -/
def checkAvailability (count : TokenCount) : Except PyError Unit :=
  match count.value with
  | none => do
    reject (count.source ≠ .unknown) "an unavailable count must use UNKNOWN source"
    reject (count.quality ≠ .unavailable) "an unavailable count must use UNAVAILABLE quality"
  | some _ => do
    reject (count.source = .unknown) "an available count cannot use UNKNOWN source"
    reject (count.quality = .unavailable) "an available count cannot use UNAVAILABLE quality"
    reject (count.source = .fixtureExact ∧ count.quality ≠ .exact)
      "fixture-exact counts require EXACT quality"
    reject (count.source = .tokenizerDerived ∧ count.quality ≠ .derived)
      "tokenizer-derived counts require DERIVED quality"

/-- The types of the fields, and `validate_provenance` -/
def check (count : TokenCount) : Except PyError Unit := do
  reject (∃ text ∈ [count.tokenizerId, count.tokenizerRevision, count.providerFieldName].filterMap
    id, ¬ IsIdentifier text) "identifier"
  count.checkAvailability
  if count.source = .tokenizerDerived then
    reject (count.tokenizerId = none ∨ count.tokenizerRevision = none)
      "tokenizer-derived counts require tokenizer ID and revision"
  else
    reject (count.tokenizerId ≠ none ∨ count.tokenizerRevision ≠ none)
      "tokenizer provenance is only valid for tokenizer-derived counts"
  if count.source = .serverReported then
    reject (count.providerFieldName = none) "server-reported counts require a provider field name"
  else
    reject (count.providerFieldName ≠ none)
      "provider field is only valid for server-reported counts"

end TokenCount

/-- `TimingRecord` -/
structure TimingRecord where
  dispatchOffsetNs : ℕ
  firstResponseByteOffsetNs : Option ℕ
  firstOutputTokenOffsetNs : Option ℕ
  lastOutputTokenOffsetNs : Option ℕ
  terminalOffsetNs : ℕ
deriving DecidableEq

namespace TimingRecord

/-- The observations between dispatch and end that were made. -/
def observations (timing : TimingRecord) : List ℕ :=
  [timing.firstResponseByteOffsetNs, timing.firstOutputTokenOffsetNs,
    timing.lastOutputTokenOffsetNs].filterMap id

/-- The offset falls between dispatch and terminal offsets. -/
def Covers (timing : TimingRecord) (offset : ℕ) : Prop :=
  timing.dispatchOffsetNs ≤ offset ∧ offset ≤ timing.terminalOffsetNs

instance (timing : TimingRecord) (offset : ℕ) : Decidable (timing.Covers offset) :=
  inferInstanceAs (Decidable (_ ∧ _))

/-- `validate_offsets` -/
def validateOffsets (timing : TimingRecord) : Except PyError Unit := do
  reject (timing.terminalOffsetNs < timing.dispatchOffsetNs)
    "terminal offset cannot precede dispatch"
  reject (∃ offset ∈ timing.observations, ¬ timing.Covers offset)
    "observations must fall between dispatch and terminal offsets"
  reject (timing.firstOutputTokenOffsetNs = none ∧ timing.lastOutputTokenOffsetNs ≠ none)
    "last output token requires a first output token"
  reject (∃ first ∈ timing.firstOutputTokenOffsetNs, ∃ last ∈ timing.lastOutputTokenOffsetNs,
    last < first) "last output token cannot precede first output token"
  reject (∃ byte ∈ timing.firstResponseByteOffsetNs, ∃ first ∈ timing.firstOutputTokenOffsetNs,
    first < byte) "first response byte cannot follow the first output token"

end TimingRecord

/-- `StreamEventRecord` -/
structure StreamEventRecord where
  chunkIndex : ℕ
  eventOffsetNs : ℕ
  outputTokensInChunk : ℕ
  perTokenObservationOffsetsNs : Option (List ℕ)
deriving DecidableEq

namespace StreamEventRecord

/-- `validate_token_observations`, when there are some -/
def validateTokenObservations (event : StreamEventRecord) (offsets : List ℕ) :
    Except PyError Unit := do
  reject (offsets.length ≠ event.outputTokensInChunk)
    "per-token timestamps must match tokens in the chunk"
  reject (sorted offsets ≠ offsets ∨ ¬ offsets.Nodup) "per-token timestamps must be strictly ordered"
  reject (∃ last ∈ offsets.getLast?, event.eventOffsetNs < last)
    "a token observation cannot follow its enclosing stream event"

/-- The types of the fields, and `validate_token_observations` -/
def check (event : StreamEventRecord) : Except PyError Unit := do
  reject (event.outputTokensInChunk = 0) "output_tokens_in_chunk"
  event.perTokenObservationOffsetsNs.elim (.ok ()) event.validateTokenObservations

/-- `per_token_observation_offsets_ns or (event_offset_ns,)` -/
def observed (event : StreamEventRecord) : List ℕ :=
  match event.perTokenObservationOffsetsNs with
  | none | some [] => [event.eventOffsetNs]
  | some offsets => offsets

end StreamEventRecord

/-- `FailureRecord` -/
structure FailureRecord where
  kind : RequestOutcome
  occurredOffsetNs : ℕ
  errorCode : Str
deriving DecidableEq

/-- The types of the fields, and `reject_success` -/
def FailureRecord.check (failure : FailureRecord) : Except PyError Unit := do
  reject (¬ IsIdentifier failure.errorCode) "error_code"
  reject (failure.kind = .success) "a failure record cannot have SUCCESS kind"

/-- `RequestRecord` -/
structure RequestRecord where
  requestId : Str
  caseId : Str
  phase : RequestPhase
  outcome : RequestOutcome
  timing : TimingRecord
  streamEvents : List StreamEventRecord
  inputTokens : TokenCount
  outputTokens : TokenCount
  failure : Option FailureRecord
deriving DecidableEq

namespace RequestRecord

/-- The failure record goes with the outcome. -/
def checkFailure (request : RequestRecord) : Except PyError Unit := do
  reject (request.outcome = .success ∧ request.failure ≠ none)
    "successful requests cannot contain a failure record"
  reject (request.outcome ≠ .success ∧ request.failure.map (·.kind) ≠ some request.outcome)
    "failed requests require a matching failure record"
  reject (∃ failure ∈ request.failure, ¬ request.timing.Covers failure.occurredOffsetNs)
    "failure offset must be within the request interval"

/-- The stream events are numbered, strictly ordered and within the interval of the request. -/
def checkStreamEvents (request : RequestRecord) : Except PyError Unit := do
  let eventOffsets := request.streamEvents.map (·.eventOffsetNs)
  reject (request.streamEvents.map (·.chunkIndex) ≠ List.range request.streamEvents.length)
    "stream chunk indexes must be contiguous from zero"
  reject (eventOffsets ≠ sorted eventOffsets ∨ ¬ eventOffsets.Nodup)
    "stream event offsets must be strictly ordered"
  reject (∃ offset ∈ eventOffsets, ¬ request.timing.Covers offset)
    "stream events must be within the request interval"
  let tokenOffsets :=
    request.streamEvents.flatMap fun event => event.perTokenObservationOffsetsNs.getD []
  reject (∃ offset ∈ tokenOffsets, ¬ request.timing.Covers offset)
    "per-token observations must be within the request interval"

/-- The tokens add up, and the boundaries are the first and the last observation. -/
def checkOutputTokens (request : RequestRecord) : Except PyError Unit := do
  let observedOutputTokens := (request.streamEvents.map (·.outputTokensInChunk)).sum
  reject (∃ count ∈ request.outputTokens.value, observedOutputTokens ≠ count)
    "stream token total must match the available output-token count"
  if observedOutputTokens = 0 then
    reject (request.timing.firstOutputTokenOffsetNs ≠ none)
      "first output token requires a retained stream event"
    reject (request.timing.lastOutputTokenOffsetNs ≠ none)
      "last output token requires a retained stream event"
  else
    reject (request.timing.firstOutputTokenOffsetNs ≠
        request.streamEvents.head?.bind fun event => event.observed.head?)
      "first-output-token timing must match the first observation"
    reject (request.timing.lastOutputTokenOffsetNs ≠
        request.streamEvents.getLast?.bind fun event => event.observed.getLast?)
      "last-output-token timing must match the last observation"

/-- `model_validate`: the types of the fields, and `validate_semantics` -/
def modelValidate (request : RequestRecord) : Except PyError RequestRecord := do
  reject (¬ IsIdentifier request.requestId) "request_id"
  reject (¬ IsIdentifier request.caseId) "case_id"
  request.timing.validateOffsets
  each StreamEventRecord.check request.streamEvents
  request.inputTokens.check
  request.outputTokens.check
  request.failure.elim (.ok ()) FailureRecord.check
  request.checkFailure
  request.checkStreamEvents
  request.checkOutputTokens
  return request

end RequestRecord

end Stage0
