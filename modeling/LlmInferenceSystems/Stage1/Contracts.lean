import LlmInferenceSystems.Contracts
import LlmInferenceSystems.Python.Base64
import LlmInferenceSystems.Python.Checks
import LlmInferenceSystems.Python.Sequence

/-!
# Contracts of the fixture stage

The records a run retains of its requests and of what was seen of each stream, with what their
validators require. Nonnegative integers are natural numbers.

## Main definitions

* `StreamEvidenceRecord`: one observation of a stream
* `Stage1RequestRecord`: the outcome of a request
* `StreamEvidenceRecord.modelValidate`, `Stage1RequestRecord.modelValidate`: their validators
-/

namespace Stage1

open Python

/-- `Stage1Phase` -/
inductive Stage1Phase where
  | warmup
  | measured
deriving DecidableEq

/-- `Stage1TerminalClass`: how a request ended. -/
inductive Stage1TerminalClass where
  | success
  | failed
  | timeout
  | cancelled
deriving DecidableEq

/-- `Stage1FailureKind` -/
inductive Stage1FailureKind where
  | httpStatus
  | protocolMalformedStream
  | timeout
  | transport
  | tokenAccounting
  | cancelled
  | unexpected
deriving DecidableEq

/-- `FailureOrigin`: the part that saw a failure. -/
inductive FailureOrigin where
  | httpClient
  | httpStatus
  | sseParser
  | tokenAccounting
  | loadGenerator
  | harness
deriving DecidableEq

/-- `StreamEvidenceKind` -/
inductive StreamEvidenceKind where
  | clientRequestStarted
  | rawBodyChunk
  | sseComment
  | sseTokenEvent
  | sseDone
  | requestTerminal
  | clientRequestEnded
deriving DecidableEq

/-- The kinds that carry an SSE event. -/
def StreamEvidenceKind.isSse : StreamEvidenceKind → Bool
  | sseComment | sseTokenEvent | sseDone => true
  | _ => false

/-- The kinds that bound the time a client is active. -/
def StreamEvidenceKind.isLifecycle : StreamEvidenceKind → Bool
  | clientRequestStarted | clientRequestEnded => true
  | _ => false

/-! ## Stream evidence -/

/-- An observation of a stream; the evidence boundary, which is constant, is left out. -/
structure StreamEvidenceRecord where
  sequence : ℕ
  requestId : Str
  caseId : Str
  phase : Stage1Phase
  kind : StreamEvidenceKind
  observationOffsetNs : ℕ
  rawChunkSequence : Option ℕ
  rawBytesBase64 : Option Str
  rawByteCount : Option ℕ
  rawBytesSha256 : Option Str
  sseEventSequence : Option ℕ
  sseData : Option Str
  tokenDeltaCount : Option ℕ
  terminalClass : Option Stage1TerminalClass
  failureKind : Option Stage1FailureKind
deriving DecidableEq

namespace StreamEvidenceRecord

/-- The fields that only a raw body chunk has are all there, or all absent. -/
def checkRawFields (event : StreamEvidenceRecord) : Except PyError Unit :=
  if event.kind = .rawBodyChunk then
    if event.rawChunkSequence = none ∨ event.rawBytesBase64 = none ∨ event.rawByteCount = none ∨
        event.rawBytesSha256 = none then
      .error (.validation "raw body records require reversible bytes and integrity fields")
    else .ok ()
  else if event.rawChunkSequence ≠ none ∨ event.rawBytesBase64 ≠ none ∨ event.rawByteCount ≠ none ∨
      event.rawBytesSha256 ≠ none then
    .error (.validation "raw body fields are valid only for RAW_BODY_CHUNK")
  else .ok ()

/-- The part of the validator about the fields of SSE evidence. -/
def checkSseFields (event : StreamEvidenceRecord) : Except PyError Unit :=
  if ¬ (event.sseEventSequence ≠ none ↔ event.kind.isSse = true) then
    .error (.validation "SSE sequence presence does not match evidence kind")
  else if event.kind = .sseTokenEvent then
    if event.sseData = none ∨ event.tokenDeltaCount = none then
      .error (.validation "token events require data and a token delta count")
    else if event.tokenDeltaCount = some 0 then
      .error (.validation "token-event delta must be positive")
    else .ok ()
  else if event.tokenDeltaCount ≠ none then
    .error (.validation "token delta is valid only for SSE_TOKEN_EVENT")
  else .ok ()

/-- The part of the validator about the fields of terminal evidence. -/
def checkTerminalFields (event : StreamEvidenceRecord) : Except PyError Unit :=
  if event.kind = .requestTerminal then
    match event.terminalClass with
    | none => .error (.validation "terminal evidence requires a terminal class")
    | some terminalClass =>
      if ¬ (event.failureKind = none ↔ terminalClass = .success) then
        .error (.validation "terminal failure kind does not match terminal class")
      else if terminalClass = .timeout ∧ event.failureKind ≠ some .timeout then
        .error (.validation "TIMEOUT terminal event requires TIMEOUT failure kind")
      else if terminalClass = .cancelled ∧ event.failureKind ≠ some .cancelled then
        .error (.validation "CANCELLED terminal event requires CANCELLED failure kind")
      else if terminalClass = .failed ∧
          (event.failureKind = some .timeout ∨ event.failureKind = some .cancelled) then
        .error (.validation "FAILED terminal event cannot use timeout or cancellation kind")
      else .ok ()
  else if event.terminalClass ≠ none ∨ event.failureKind ≠ none then
    .error (.validation "terminal fields are valid only for REQUEST_TERMINAL")
  else .ok ()

/-- `model_validate`: the types of the fields, and `validate_kind_payload` -/
def modelValidate (event : StreamEvidenceRecord) : Except PyError StreamEvidenceRecord :=
  if ¬ IsIdentifier event.requestId then .error (.validation "request_id")
  else if ¬ IsIdentifier event.caseId then .error (.validation "case_id")
  else if ¬ ∀ digest ∈ event.rawBytesSha256, IsSha256 digest then
    .error (.validation "raw_bytes_sha256")
  else do
    event.checkRawFields
    event.checkSseFields
    event.checkTerminalFields
    return event

/-- What was validated is returned. -/
theorem eq_of_modelValidate {event event' : StreamEvidenceRecord}
    (h : event.modelValidate = .ok event') : event' = event := by
  unfold modelValidate at h
  split_ifs at h
  obtain ⟨_, _, h⟩ := bind_eq_ok.mp h
  obtain ⟨_, _, h⟩ := bind_eq_ok.mp h
  obtain ⟨_, _, h⟩ := bind_eq_ok.mp h
  exact (Except.ok.inj h).symm

/-- An event is valid when its identifiers, its digest and its payload are. -/
theorem modelValidate_of_checks {event : StreamEvidenceRecord}
    (hrequest : IsIdentifier event.requestId) (hcase : IsIdentifier event.caseId)
    (hdigest : ∀ digest ∈ event.rawBytesSha256, IsSha256 digest)
    (hraw : event.checkRawFields = .ok ()) (hsse : event.checkSseFields = .ok ())
    (hterminal : event.checkTerminalFields = .ok ()) : event.modelValidate = .ok event := by
  unfold modelValidate
  rw [if_neg (not_not.mpr hrequest), if_neg (not_not.mpr hcase), if_neg (not_not.mpr hdigest), hraw,
    hsse, hterminal]
  rfl

end StreamEvidenceRecord

/-! ## Workloads -/

/-- A case of the fixture, without what only the fixture's server reads. -/
structure FixtureCaseDefinition where
  caseId : Str
  inputText : Str
  expectedOutputTokenCount : ℕ
deriving DecidableEq

/-- `FixtureDefinition`: the cases the client looks its input up in. -/
structure FixtureDefinition where
  cases : List FixtureCaseDefinition

/-- `Stage1WorkloadCase` -/
structure Stage1WorkloadCase where
  caseId : Str

/-- `Stage1WorkloadDefinition` -/
structure Stage1WorkloadDefinition where
  warmupCase : Stage1WorkloadCase
  measuredCases : List Stage1WorkloadCase

/-! ## Requests -/

/-- `Stage1TimeoutPolicy` -/
structure Stage1TimeoutPolicy where
  connectTimeoutSeconds : PyFloat
  writeTimeoutSeconds : PyFloat
  poolTimeoutSeconds : PyFloat
  readTimeoutSeconds : PyFloat
deriving DecidableEq

/-- `PositiveFloat` -/
def IsPositiveFloat (x : PyFloat) : Bool :=
  match x with
  | .finite value => 0 < value
  | _ => false

/-- The timeouts are positive and finite. -/
def Stage1TimeoutPolicy.IsPositive (policy : Stage1TimeoutPolicy) : Prop :=
  IsPositiveFloat policy.connectTimeoutSeconds ∧ IsPositiveFloat policy.writeTimeoutSeconds ∧
    IsPositiveFloat policy.poolTimeoutSeconds ∧ IsPositiveFloat policy.readTimeoutSeconds

instance (policy : Stage1TimeoutPolicy) : Decidable policy.IsPositive :=
  inferInstanceAs (Decidable (_ ∧ _))

/-- `Stage1TimingRecord` -/
structure Stage1TimingRecord where
  dispatchOffsetNs : ℕ
  responseHeadersOffsetNs : Option ℕ
  firstResponseBodyBytesOffsetNs : Option ℕ
  firstOutputTokenOffsetNs : Option ℕ
  lastOutputTokenOffsetNs : Option ℕ
  terminalOffsetNs : ℕ
deriving DecidableEq

namespace Stage1TimingRecord

/-- The observations that were made, in the order they should have been made in. -/
def present (timing : Stage1TimingRecord) : List ℕ :=
  [timing.responseHeadersOffsetNs, timing.firstResponseBodyBytesOffsetNs,
    timing.firstOutputTokenOffsetNs, timing.lastOutputTokenOffsetNs].filterMap id

/-- `validate_chronology` -/
def validateChronology (timing : Stage1TimingRecord) : Except PyError Unit :=
  if timing.terminalOffsetNs < timing.dispatchOffsetNs then
    .error (.validation "terminal offset cannot precede dispatch")
  else if ∃ value ∈ timing.present,
      value < timing.dispatchOffsetNs ∨ timing.terminalOffsetNs < value then
    .error (.validation "observations must fall inside the request interval")
  else if timing.present ≠ sorted timing.present then
    .error (.validation "request observations must be chronological")
  else if ¬ (timing.firstOutputTokenOffsetNs = none ↔ timing.lastOutputTokenOffsetNs = none) then
    .error (.validation "first and last output-token boundaries must appear together")
  else .ok ()

end Stage1TimingRecord

/-- `Stage1FailureRecord` -/
structure Stage1FailureRecord where
  kind : Stage1FailureKind
  origin : FailureOrigin
  errorCode : Str
  occurredOffsetNs : ℕ
  timeoutPolicy : Option Stage1TimeoutPolicy
deriving DecidableEq

/-- The types of the fields, and `validate_timeout_policy` -/
def Stage1FailureRecord.check (failure : Stage1FailureRecord) : Except PyError Unit :=
  if ¬ IsIdentifier failure.errorCode then .error (.validation "error_code")
  else if ¬ ∀ policy ∈ failure.timeoutPolicy, policy.IsPositive then
    .error (.validation "timeout_policy")
  else if ¬ (failure.timeoutPolicy ≠ none ↔ failure.kind = .timeout) then
    .error (.validation "timeout policy must be retained only for TIMEOUT")
  else .ok ()

/-- The outcome of a request, without the fields that are constant. -/
structure Stage1RequestRecord where
  requestId : Str
  caseId : Str
  phase : Stage1Phase
  terminalClass : Stage1TerminalClass
  httpStatus : Option ℕ
  timing : Stage1TimingRecord
  inputTokenCount : ℕ
  outputTokenCount : ℕ
  tokenEventDeltaCounts : List ℕ
  tokenEventObservationOffsetsNs : List ℕ
  perTokenObservationComplete : Bool
  sloSatisfied : Bool
  failure : Option Stage1FailureRecord
deriving DecidableEq

namespace Stage1RequestRecord

/-- What the terminal class says of the status, the failure and the SLO. -/
def checkTerminalClass (request : Stage1RequestRecord) : Except PyError Unit :=
  if request.terminalClass = .success then
    if request.failure ≠ none then
      .error (.validation "successful requests cannot retain a failure")
    else if ¬ ∃ status ∈ request.httpStatus, 200 ≤ status ∧ status < 300 then
      .error (.validation "successful requests require a successful HTTP status")
    else .ok ()
  else
    match request.failure with
    | none => .error (.validation "non-success requests require a failure record")
    | some failure =>
      if request.sloSatisfied then
        .error (.validation "non-success requests cannot satisfy the SLO")
      else if request.terminalClass = .timeout ∧ failure.kind ≠ .timeout then
        .error (.validation "TIMEOUT terminal requires TIMEOUT failure kind")
      else if request.terminalClass = .cancelled ∧ failure.kind ≠ .cancelled then
        .error (.validation "CANCELLED terminal requires CANCELLED failure kind")
      else if request.terminalClass = .failed ∧
          (failure.kind = .timeout ∨ failure.kind = .cancelled) then
        .error (.validation
          "FAILED terminal cannot use timeout or cancellation failure kind")
      else .ok ()

/-- What the token events say of the count and of the timing. -/
def checkTokenEvents (request : Stage1RequestRecord) : Except PyError Unit :=
  if request.tokenEventDeltaCounts.length ≠ request.tokenEventObservationOffsetsNs.length then
    .error (.validation "token deltas and event observations must align")
  else if request.tokenEventDeltaCounts.sum ≠ request.outputTokenCount then
    .error (.validation "token-event deltas must equal the exact fixture output count")
  else if request.outputTokenCount ≠ 0 ∧
      request.timing.firstOutputTokenOffsetNs ≠ request.tokenEventObservationOffsetsNs.head? then
    .error (.validation "first output-token boundary must match the first token event")
  else if request.outputTokenCount ≠ 0 ∧
      request.timing.lastOutputTokenOffsetNs ≠ request.tokenEventObservationOffsetsNs.getLast? then
    .error (.validation "last output-token boundary must match the last token event")
  else if request.perTokenObservationComplete ∧
      ∃ delta ∈ request.tokenEventDeltaCounts, delta ≠ 1 then
    .error (.validation "complete per-token observation requires one token per event")
  else .ok ()

/-- The part of the validator about the time of the failure. -/
def checkFailureTime (request : Stage1RequestRecord) : Except PyError Unit :=
  if ∃ failure ∈ request.failure,
      ¬ (request.timing.dispatchOffsetNs ≤ failure.occurredOffsetNs ∧
        failure.occurredOffsetNs ≤ request.timing.terminalOffsetNs) then
    .error (.validation "failure occurrence must fall inside the request interval")
  else .ok ()

/-- `model_validate`: the types of the fields, and `validate_terminal_semantics` -/
def modelValidate (request : Stage1RequestRecord) : Except PyError Stage1RequestRecord :=
  if ¬ IsIdentifier request.requestId then .error (.validation "request_id")
  else if ¬ IsIdentifier request.caseId then .error (.validation "case_id")
  else if ¬ ∀ status ∈ request.httpStatus, 100 ≤ status ∧ status ≤ 599 then
    .error (.validation "http_status")
  else if ¬ ∀ delta ∈ request.tokenEventDeltaCounts, 0 < delta then
    .error (.validation "token_event_delta_counts")
  else do
    request.timing.validateChronology
    (request.failure.elim (.ok ()) Stage1FailureRecord.check)
    request.checkTerminalClass
    request.checkTokenEvents
    request.checkFailureTime
    return request

end Stage1RequestRecord

end Stage1
