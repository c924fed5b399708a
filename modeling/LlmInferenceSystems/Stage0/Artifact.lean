import LlmInferenceSystems.Stage0.Summary

/-!
# The artifact of a run of the first stage

An artifact holds the identities of what was run, the configuration, the requests and their summary.
A comparison names the fields it looks at by dotted paths, so an artifact is also a value whose
fields can be fetched by name.

## Main definitions

* `FieldValue`: what a field holds, with its JSON
* `RunArtifact`: the artifact, with all its fields
* `RunArtifact.value`: the artifact as a value
* `verifyArtifactContentHash`: whether the artifact's hash is that of its content
-/

namespace Stage0

open Python

/-! ## Values of fields -/

/-- A value that is no model and no tuple. -/
inductive Scalar where
  | none
  | bool (value : Bool)
  | int (value : ℤ)
  | float (value : ℚ)
  | str (text : Str)
  /-- A member of an enumeration of strings. -/
  | enum (text : Str)
  /-- An aware `datetime`, by its text in UTC. -/
  | datetime (utc : Str)
deriving DecidableEq

/-- What `getattr` returns for a field of a model. -/
inductive FieldValue where
  | scalar (value : Scalar)
  | tuple (items : List FieldValue)
  /-- A model, with the names of its fields. -/
  | model (fields : List (Str × FieldValue))

namespace FieldValue

mutual

/-- `==` of the values of one field, which are of one class. -/
def decEq : (a b : FieldValue) → Decidable (a = b)
  | .scalar a, .scalar b => decidable_of_iff (a = b) (by simp)
  | .tuple a, .tuple b =>
    match decEqItems a b with
    | .isTrue h => .isTrue (by rw [h])
    | .isFalse h => .isFalse (by simp [h])
  | .model a, .model b =>
    match decEqFields a b with
    | .isTrue h => .isTrue (by rw [h])
    | .isFalse h => .isFalse (by simp [h])
  | .scalar _, .tuple _ | .scalar _, .model _ => .isFalse (by simp)
  | .tuple _, .scalar _ | .tuple _, .model _ => .isFalse (by simp)
  | .model _, .scalar _ | .model _, .tuple _ => .isFalse (by simp)

/-- `==` of tuples. -/
def decEqItems : (a b : List FieldValue) → Decidable (a = b)
  | [], [] => .isTrue rfl
  | [], _ :: _ | _ :: _, [] => .isFalse (by simp)
  | a :: as, b :: bs =>
    match decEq a b, decEqItems as bs with
    | .isTrue h, .isTrue hs => .isTrue (by rw [h, hs])
    | .isFalse h, _ => .isFalse (by simp [h])
    | _, .isFalse hs => .isFalse (by simp [hs])

/-- `==` of models, by their fields. -/
def decEqFields : (a b : List (Str × FieldValue)) → Decidable (a = b)
  | [], [] => .isTrue rfl
  | [], _ :: _ | _ :: _, [] => .isFalse (by simp)
  | (name, a) :: as, (name', b) :: bs =>
    if hname : name = name' then
      match decEq a b, decEqFields as bs with
      | .isTrue h, .isTrue hs => .isTrue (by rw [hname, h, hs])
      | .isFalse h, _ => .isFalse (by simp [h])
      | _, .isFalse hs => .isFalse (by simp [hs])
    else .isFalse (by simp [hname])

end

instance : DecidableEq FieldValue := decEq

/-- `_normalize` of a scalar -/
def scalarJson : Scalar → Json
  | .none => .null
  | .bool b => .bool b
  | .int n => .int n
  | .float q => .float (.finite q)
  | .str text | .enum text | .datetime text => .str text

mutual

/-- `_normalize` -/
def json : FieldValue → Json
  | .scalar value => scalarJson value
  | .tuple items => .arr (jsonItems items)
  | .model fields => .obj (jsonModel fields)

/-- `_normalize` of the items of a tuple -/
def jsonItems : List FieldValue → List Json
  | [] => []
  | item :: items => json item :: jsonItems items

/-- `_normalize` of the fields of a model -/
def jsonModel : List (Str × FieldValue) → List (Str × Json)
  | [] => []
  | (name, value) :: fields => (name, json value) :: jsonModel fields

end

/-- A string. -/
def str (text : Str) : FieldValue := .scalar (.str text)

/-- A text of the source, such as a `Literal`. -/
def literal (text : String) : FieldValue := str (lit text)

/-- A member of an enumeration, by its value. -/
def enum (text : String) : FieldValue := .scalar (.enum (lit text))

/-- An integer. -/
def int (value : ℤ) : FieldValue := .scalar (.int value)

/-- A natural number, as an integer. -/
def nat (value : ℕ) : FieldValue := int value

/-- A float. -/
def float (value : ℚ) : FieldValue := .scalar (.float value)

/-- A truth value. -/
def bool (value : Bool) : FieldValue := .scalar (.bool value)

/-- A value that may be `None`. -/
def optional {α : Type} (value : α → FieldValue) : Option α → FieldValue
  | none => .scalar .none
  | some a => value a

/-- A tuple of values of one kind. -/
def tupleOf {α : Type} (value : α → FieldValue) (items : List α) : FieldValue :=
  .tuple (items.map value)

/-- A model, with the names of its fields as the source spells them. -/
def modelOf (fields : List (String × FieldValue)) : FieldValue :=
  .model (fields.map fun field => (lit field.1, field.2))

end FieldValue

open FieldValue

/-! ## Enumerations -/

/-- `WorkloadOrdering` -/
inductive WorkloadOrdering where
  | declared
  | sortedCaseId
deriving DecidableEq

/-- The value of an ordering. -/
def WorkloadOrdering.value : WorkloadOrdering → FieldValue
  | .declared => enum "DECLARED"
  | .sortedCaseId => enum "SORTED_CASE_ID"

/-- `MetricSource` -/
inductive MetricSource where
  | harnessDerived
  | runtimeReported
deriving DecidableEq

/-- The value of a metric's source. -/
def MetricSource.value : MetricSource → FieldValue
  | .harnessDerived => enum "HARNESS_DERIVED"
  | .runtimeReported => enum "RUNTIME_REPORTED"

/-- The value of an identity's source. -/
def IdentitySource.value : IdentitySource → FieldValue
  | .syntheticFixture => enum "SYNTHETIC_FIXTURE"
  | .configured => enum "CONFIGURED"
  | .runtimeReported => enum "RUNTIME_REPORTED"
  | .directlyObserved => enum "DIRECTLY_OBSERVED"

/-- The value of a phase. -/
def RequestPhase.value : RequestPhase → FieldValue
  | .warmup => enum "WARMUP"
  | .measured => enum "MEASURED"

/-- The value of an outcome. -/
def RequestOutcome.value : RequestOutcome → FieldValue
  | .success => enum "SUCCESS"
  | .timeout => enum "TIMEOUT"
  | .transportError => enum "TRANSPORT_ERROR"
  | .httpError => enum "HTTP_ERROR"
  | .protocolError => enum "PROTOCOL_ERROR"
  | .malformedStream => enum "MALFORMED_STREAM"
  | .tokenAccountingError => enum "TOKEN_ACCOUNTING_ERROR"
  | .cancelled => enum "CANCELLED"
  | .unexpectedError => enum "UNEXPECTED_ERROR"

/-- The value of a token count's source. -/
def TokenCountSource.value : TokenCountSource → FieldValue
  | .fixtureExact => enum "FIXTURE_EXACT"
  | .tokenizerDerived => enum "TOKENIZER_DERIVED"
  | .serverReported => enum "SERVER_REPORTED"
  | .unknown => enum "UNKNOWN"

/-- The value of a token count's quality. -/
def TokenCountQuality.value : TokenCountQuality → FieldValue
  | .exact => enum "EXACT"
  | .derived => enum "DERIVED"
  | .unavailable => enum "UNAVAILABLE"

/-- The value of a metric's name. -/
def MetricName.value : MetricName → FieldValue
  | .ttftNs => enum "TTFT_NS"
  | .endToEndSuccessNs => enum "END_TO_END_SUCCESS_NS"
  | .tpotNs => enum "TPOT_NS"
  | .itlNs => enum "ITL_NS"

/-- The value of a reason. -/
def MetricUnavailableReason.value : MetricUnavailableReason → FieldValue
  | .noSamples => enum "NO_SAMPLES"
  | .requestFailed => enum "REQUEST_FAILED"
  | .firstOutputTokenNotObserved => enum "FIRST_OUTPUT_TOKEN_NOT_OBSERVED"
  | .insufficientOutputTokens => enum "INSUFFICIENT_OUTPUT_TOKENS"
  | .missingTokenCount => enum "MISSING_TOKEN_COUNT"
  | .missingTokenTimestamps => enum "MISSING_TOKEN_TIMESTAMPS"
  | .multiTokenChunkWithoutTokenTimestamps => enum "MULTI_TOKEN_CHUNK_WITHOUT_TOKEN_TIMESTAMPS"
  | .tokenTimestampCountMismatch => enum "TOKEN_TIMESTAMP_COUNT_MISMATCH"

/-! ## Identities -/

/-- `WorkloadIdentity` -/
structure WorkloadIdentity where
  contentSha256 : Str
  caseIds : List Str
  orderingPolicy : WorkloadOrdering

/-- The workload's identity as a value. -/
def WorkloadIdentity.value (identity : WorkloadIdentity) : FieldValue :=
  modelOf [("content_sha256", str identity.contentSha256),
    ("case_ids", tupleOf str identity.caseIds),
    ("ordering_policy", identity.orderingPolicy.value)]

/-- `ConfigurationIdentity` -/
structure ConfigurationIdentity where
  contentSha256 : Str

/-- The configuration's identity as a value. -/
def ConfigurationIdentity.value (identity : ConfigurationIdentity) : FieldValue :=
  modelOf [("content_sha256", str identity.contentSha256)]

/-- `RuntimeIdentity` -/
structure RuntimeIdentity where
  runtimeName : Str
  exactVersion : Str
  sourceRevision : Str
  effectiveConfigurationSha256 : Str
  identitySource : IdentitySource

/-- The runtime's identity as a value. -/
def RuntimeIdentity.value (identity : RuntimeIdentity) : FieldValue :=
  modelOf [("runtime_name", str identity.runtimeName),
    ("exact_version", str identity.exactVersion),
    ("source_revision", str identity.sourceRevision),
    ("effective_configuration_sha256", str identity.effectiveConfigurationSha256),
    ("identity_source", identity.identitySource.value)]

/-- `ModelIdentity` -/
structure ModelIdentity where
  modelId : Str
  exactRevision : Str
  promptTemplateSha256 : Str
  identitySource : IdentitySource

/-- The model's identity as a value. -/
def ModelIdentity.value (identity : ModelIdentity) : FieldValue :=
  modelOf [("model_id", str identity.modelId),
    ("exact_revision", str identity.exactRevision),
    ("prompt_template_sha256", str identity.promptTemplateSha256),
    ("identity_source", identity.identitySource.value)]

/-- `TokenizerIdentity` -/
structure TokenizerIdentity where
  tokenizerId : Str
  exactRevision : Str
  identitySource : IdentitySource

/-- The tokenizer's identity as a value. -/
def TokenizerIdentity.value (identity : TokenizerIdentity) : FieldValue :=
  modelOf [("tokenizer_id", str identity.tokenizerId),
    ("exact_revision", str identity.exactRevision),
    ("identity_source", identity.identitySource.value)]

/-- `HardwareIdentity` -/
structure HardwareIdentity where
  platform : Str
  architecture : Str
  processor : Str
  memoryBytes : ℕ
  gpuModel : Option Str
  identitySource : IdentitySource

/-- The hardware's identity as a value. -/
def HardwareIdentity.value (identity : HardwareIdentity) : FieldValue :=
  modelOf [("platform", str identity.platform),
    ("architecture", str identity.architecture),
    ("processor", str identity.processor),
    ("memory_bytes", nat identity.memoryBytes),
    ("gpu_model", optional str identity.gpuModel),
    ("identity_source", identity.identitySource.value)]

/-- `EnvironmentIdentity` -/
structure EnvironmentIdentity where
  osName : Str
  architecture : Str
  pythonVersion : Str
  packageLockSha256 : Str
  identitySource : IdentitySource

/-- The environment's identity as a value. -/
def EnvironmentIdentity.value (identity : EnvironmentIdentity) : FieldValue :=
  modelOf [("os_name", str identity.osName),
    ("architecture", str identity.architecture),
    ("python_version", str identity.pythonVersion),
    ("package_lock_sha256", str identity.packageLockSha256),
    ("identity_source", identity.identitySource.value)]

/-! ## The configuration -/

/-- The load's shape as a value. -/
def LoadShape.value (shape : LoadShape) : FieldValue :=
  modelOf [("kind", enum "CLOSED_LOOP"),
    ("requested_client_concurrency", nat shape.requestedClientConcurrency),
    ("scheduling_policy", enum "NEXT_AVAILABLE_CLIENT")]

/-- `TimeoutPolicy` -/
structure TimeoutPolicy where
  connectTimeoutNs : ℕ
  firstOutputTokenTimeoutNs : ℕ
  requestTimeoutNs : ℕ

/-- The timeouts as a value. -/
def TimeoutPolicy.value (policy : TimeoutPolicy) : FieldValue :=
  modelOf [("connect_timeout_ns", nat policy.connectTimeoutNs),
    ("first_output_token_timeout_ns", nat policy.firstOutputTokenTimeoutNs),
    ("request_timeout_ns", nat policy.requestTimeoutNs)]

/-- `SamplingConfiguration` -/
structure SamplingConfiguration where
  seed : ℕ
  temperature : ℚ
  topP : ℚ
  maximumOutputTokens : ℕ
  stopSequences : List Str

/-- The sampling as a value. -/
def SamplingConfiguration.value (sampling : SamplingConfiguration) : FieldValue :=
  modelOf [("seed", nat sampling.seed),
    ("temperature", float sampling.temperature),
    ("top_p", float sampling.topP),
    ("maximum_output_tokens", nat sampling.maximumOutputTokens),
    ("stop_sequences", tupleOf str sampling.stopSequences)]

/-- The SLO as a value. -/
def SLODefinition.value (slo : SLODefinition) : FieldValue :=
  modelOf [("policy_name", str slo.policyName),
    ("ttft_threshold_ns", optional nat slo.ttftThresholdNs),
    ("tpot_threshold_ns", optional nat slo.tpotThresholdNs),
    ("end_to_end_threshold_ns", optional nat slo.endToEndThresholdNs),
    ("itl_threshold_ns", optional nat slo.itlThresholdNs)]

/-- The configuration that an artifact holds: the part its summary reads, and the rest. -/
structure ArtifactConfiguration extends RunConfiguration where
  workloadPath : Str
  workloadIdentity : WorkloadIdentity
  modelIdentity : ModelIdentity
  tokenizerIdentity : TokenizerIdentity
  promptTransformation : Str
  timeoutPolicy : TimeoutPolicy
  sampling : SamplingConfiguration
  warmupRequestCount : ℕ
  measuredRequestCount : ℕ

/-- The configuration as a value, in the order of the source's fields. -/
def ArtifactConfiguration.value (configuration : ArtifactConfiguration) : FieldValue :=
  modelOf [("schema_version", literal "0.1.0"),
    ("measurement_contract_version", literal "0.1.0"),
    ("workload_path", str configuration.workloadPath),
    ("workload_identity", configuration.workloadIdentity.value),
    ("model_identity", configuration.modelIdentity.value),
    ("tokenizer_identity", configuration.tokenizerIdentity.value),
    ("prompt_transformation", str configuration.promptTransformation),
    ("load_shape", configuration.loadShape.value),
    ("timeout_policy", configuration.timeoutPolicy.value),
    ("sampling", configuration.sampling.value),
    ("slo", configuration.slo.value),
    ("warmup_policy", enum "FIXED_COUNT"),
    ("warmup_request_count", nat configuration.warmupRequestCount),
    ("measured_request_count", nat configuration.measuredRequestCount),
    ("configured_server_maximum_batch_size",
      optional nat configuration.configuredServerMaximumBatchSize),
    ("configured_server_batch_source",
      optional IdentitySource.value configuration.configuredServerBatchSource)]

/-! ## The requests -/

/-- The token count as a value; its own `value` is a field of it. -/
def TokenCount.fieldValue (count : TokenCount) : FieldValue :=
  modelOf [("value", optional nat count.value),
    ("source", count.source.value),
    ("quality", count.quality.value),
    ("tokenizer_id", optional str count.tokenizerId),
    ("tokenizer_revision", optional str count.tokenizerRevision),
    ("provider_field_name", optional str count.providerFieldName)]

/-- The timing as a value. -/
def TimingRecord.value (timing : TimingRecord) : FieldValue :=
  modelOf [("dispatch_offset_ns", nat timing.dispatchOffsetNs),
    ("first_response_byte_offset_ns", optional nat timing.firstResponseByteOffsetNs),
    ("first_output_token_offset_ns", optional nat timing.firstOutputTokenOffsetNs),
    ("last_output_token_offset_ns", optional nat timing.lastOutputTokenOffsetNs),
    ("terminal_offset_ns", nat timing.terminalOffsetNs)]

/-- The stream event as a value. -/
def StreamEventRecord.value (event : StreamEventRecord) : FieldValue :=
  modelOf [("chunk_index", nat event.chunkIndex),
    ("event_offset_ns", nat event.eventOffsetNs),
    ("output_tokens_in_chunk", nat event.outputTokensInChunk),
    ("per_token_observation_offsets_ns",
      optional (tupleOf nat) event.perTokenObservationOffsetsNs)]

/-- The failure as a value. -/
def FailureRecord.value (failure : FailureRecord) : FieldValue :=
  modelOf [("kind", failure.kind.value),
    ("occurred_offset_ns", nat failure.occurredOffsetNs),
    ("error_code", str failure.errorCode)]

/-- The request as a value. -/
def RequestRecord.value (request : RequestRecord) : FieldValue :=
  modelOf [("request_id", str request.requestId),
    ("case_id", str request.caseId),
    ("phase", request.phase.value),
    ("outcome", request.outcome.value),
    ("timing", request.timing.value),
    ("stream_events", tupleOf StreamEventRecord.value request.streamEvents),
    ("input_tokens", request.inputTokens.fieldValue),
    ("output_tokens", request.outputTokens.fieldValue),
    ("failure", optional FailureRecord.value request.failure)]

/-! ## The summary -/

/-- The sources of the distributions of a summary. -/
structure DistributionSources where
  ttft : MetricSource
  endToEndSuccess : MetricSource
  tpot : MetricSource
  itl : MetricSource

/-- The distribution as a value, with its source. -/
def MetricDistribution.value (distribution : MetricDistribution) (source : MetricSource) :
    FieldValue :=
  modelOf [("metric", distribution.metric.value),
    ("source", source.value),
    ("denominator", str distribution.denominator),
    ("unit", literal "nanoseconds"),
    ("percentile_algorithm", literal "HYNDMAN_FAN_TYPE_7"),
    ("sample_count", nat distribution.sampleCount),
    ("p50", optional float distribution.p50),
    ("p95", optional float distribution.p95),
    ("p99", optional float distribution.p99),
    ("unavailable_reason", optional MetricUnavailableReason.value distribution.unavailableReason)]

/-- The summary as a value, with the sources of its distributions. -/
def RunSummary.value (summary : RunSummary) (sources : DistributionSources) : FieldValue :=
  modelOf [("measurement_window_ns", int summary.measurementWindowNs),
    ("attempted_count", nat summary.attemptedCount),
    ("terminal_count", nat summary.terminalCount),
    ("successful_count", nat summary.successfulCount),
    ("failed_count", nat summary.failedCount),
    ("timeout_count", nat summary.timeoutCount),
    ("cancelled_count", nat summary.cancelledCount),
    ("protocol_error_count", nat summary.protocolErrorCount),
    ("warmup_record_count", nat summary.warmupRecordCount),
    ("warmup_excluded_count", nat summary.warmupExcludedCount),
    ("requested_client_concurrency", nat summary.requestedClientConcurrency),
    ("observed_maximum_active_client_requests",
      int summary.observedMaximumActiveClientRequests),
    ("configured_server_maximum_batch_size",
      optional nat summary.configuredServerMaximumBatchSize),
    ("configured_server_batch_source",
      optional IdentitySource.value summary.configuredServerBatchSource),
    ("observed_server_batch_size", optional int summary.observedServerBatchSize),
    ("observed_server_batch_source",
      optional IdentitySource.value summary.observedServerBatchSource),
    ("offered_request_rate", float summary.offeredRequestRate),
    ("terminal_request_rate", float summary.terminalRequestRate),
    ("successful_request_throughput", float summary.successfulRequestThroughput),
    ("output_token_throughput", optional float summary.outputTokenThroughput),
    ("total_token_throughput", optional float summary.totalTokenThroughput),
    ("goodput", float summary.goodput),
    ("failure_rate", float summary.failureRate),
    ("timeout_rate", float summary.timeoutRate),
    ("goodput_slo_policy_sha256", str summary.goodputSloPolicySha256),
    ("ttft", summary.ttft.value sources.ttft),
    ("end_to_end_success", summary.endToEndSuccess.value sources.endToEndSuccess),
    ("tpot", summary.tpot.value sources.tpot),
    ("itl", summary.itl.value sources.itl)]

/-! ## The artifact -/

/-- `RunArtifact` -/
structure RunArtifact where
  /-- `created_at`, which is in UTC -/
  createdAt : Str
  artifactContentSha256 : Option Str
  workloadIdentity : WorkloadIdentity
  configurationIdentity : ConfigurationIdentity
  configuration : ArtifactConfiguration
  runtimeIdentity : RuntimeIdentity
  modelIdentity : ModelIdentity
  tokenizerIdentity : TokenizerIdentity
  hardwareIdentity : HardwareIdentity
  environmentIdentity : EnvironmentIdentity
  requests : List RequestRecord
  summary : RunSummary
  distributionSources : DistributionSources

namespace RunArtifact

/-- The artifact as a value, in the order of the source's fields. -/
def value (artifact : RunArtifact) : FieldValue :=
  modelOf [("schema_version", literal "0.1.0"),
    ("measurement_contract_version", literal "0.1.0"),
    ("evidence_scope", enum "TEST_FIXTURE_ONLY"),
    ("created_at", .scalar (.datetime artifact.createdAt)),
    ("artifact_content_sha256", optional str artifact.artifactContentSha256),
    ("workload_identity", artifact.workloadIdentity.value),
    ("configuration_identity", artifact.configurationIdentity.value),
    ("configuration", artifact.configuration.value),
    ("runtime_identity", artifact.runtimeIdentity.value),
    ("model_identity", artifact.modelIdentity.value),
    ("tokenizer_identity", artifact.tokenizerIdentity.value),
    ("hardware_identity", artifact.hardwareIdentity.value),
    ("environment_identity", artifact.environmentIdentity.value),
    ("requests", tupleOf RequestRecord.value artifact.requests),
    ("summary", artifact.summary.value artifact.distributionSources)]

variable [Interpreter]

/-- `artifact_content_identity` -/
def contentIdentity (artifact : RunArtifact) : Except PyError Str :=
  sha256Identity artifact.value.json ["artifact_content_sha256"]

end RunArtifact

/-- `with_artifact_content_hash` -/
def withArtifactContentHash [Interpreter] (artifact : RunArtifact) : Except PyError RunArtifact := do
  let digest ← artifact.contentIdentity
  return { artifact with artifactContentSha256 := some digest }

/-- `verify_artifact_content_hash` -/
def verifyArtifactContentHash [Interpreter] (artifact : RunArtifact) : Except PyError Bool :=
  match artifact.artifactContentSha256 with
  | none => .ok false
  | some digest => do
    let identity ← artifact.contentIdentity
    return decide (digest = identity)

end Stage0
