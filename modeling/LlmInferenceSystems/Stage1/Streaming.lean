import LlmInferenceSystems.Python.Checks
import LlmInferenceSystems.Stage1.Evidence
import LlmInferenceSystems.Stage1.Payload

/-!
# Executing a streaming request

A request is sent, and what the server does with it is recorded as it happens: every nonempty chunk
of the body before it is parsed, then every frame the chunk completes. Whatever ends the request,
its outcome is recorded and returned.

## Main definitions

* `ServerBehaviour`: what the transport calls of a request meet
* `RequestState`: the variables of `execute_streaming_request`, with the collector
* `executeBody`: its `try` block
* `executeStreamingRequest`: the function
-/

namespace Stage1

open Python Sse

/-! ## The server -/

/-- How an awaited transport call is interrupted. -/
inductive Interruption where
  | timeout
  | transport
  | cancelled
  /-- any other exception -/
  | unexpected (error : PyError)

/-- The exception that an interruption raises in the request. -/
def Interruption.error : Interruption → RequestError
  | timeout => .timeout
  | transport => .transport
  | cancelled => .cancelled
  | unexpected error => .other error

/-- What the calls of the client meet: whether the request can be built, the status or an
interruption, then the chunks of the body, then its end or an interruption, and what interrupts the
response while it is closed. -/
structure ServerBehaviour where
  /-- what `client.build_request` raises, if it does: a header that is not ASCII, say -/
  built : Except PyError Unit := .ok ()
  status : Except Interruption ℕ
  chunks : List Bytes
  ending : Option Interruption := none
  /-- what `response.aclose()` raises, if it does -/
  closing : Option Interruption := none

/-- What the `finally` clause raises: only a response that came is closed. -/
def ServerBehaviour.closed (server : ServerBehaviour) : Option Interruption :=
  match server.status with
  | .error _ => none
  | .ok _ => server.closing

/-- The arguments of `execute_streaming_request`, as far as they matter to it. -/
structure StreamingRequest where
  case : FixtureCaseDefinition
  timeoutPolicy : Stage1TimeoutPolicy
  successfulEndToEndThresholdNs : ℤ
  phase : Stage1Phase
  requestId : Str

/-! ## The body of the request -/

/-- The variables, and how often the clock was read. -/
structure RequestState where
  collector : EvidenceCollector
  clockReads : ℕ
  responseHeadersOffset : Option ℤ := none
  firstBodyOffset : Option ℤ := none
  firstTokenOffset : Option ℤ := none
  lastTokenOffset : Option ℤ := none
  httpStatus : Option ℕ := none
  tokenDeltas : List ℕ := []
  tokenEventOffsets : List ℤ := []
  rawChunkSequence : ℕ := 0
  sseEventSequence : ℕ := 0
  parser : IncrementalSSEParser := {}

section

variable [Interpreter] (clock : ℕ → ℤ) (request : StreamingRequest)

/-- The offset that the next reading of the clock shows. -/
def RequestState.nextOffset (s : RequestState) : ℤ := s.collector.offsetNs (clock s.clockReads)

/-- `collector.offset_ns()` -/
def offsetNs : Method RequestState RequestError ℤ := fun s =>
  (.ok (s.nextOffset clock), { s with clockReads := s.clockReads + 1 })

/-- An observation of the request. -/
def StreamingRequest.observation (kind : StreamEvidenceKind) (offset : ℤ) : StreamObservation where
  requestId := request.requestId
  caseId := request.case.caseId
  phase := request.phase
  kind := kind
  observationOffsetNs := some offset

/-- `collector.record_stream_event`, with an offset that was read before -/
def recordEvent (observation : StreamObservation) : Method RequestState RequestError Unit :=
  fun s =>
    match s.collector.recordStreamEvent (clock s.clockReads) observation with
    | .error error => (.error (.other error), s)
    | .ok (_, collector) => (.ok (), { s with collector })

/-- A chunk is recorded. -/
def recordRawChunk (rawChunk : Bytes) : Method RequestState RequestError Unit := do
  let observed ← offsetNs clock
  Method.assign fun s => { s with firstBodyOffset := s.firstBodyOffset.or (some observed) }
  let s ← Method.self
  recordEvent clock
    { request.observation .rawBodyChunk observed with
      rawChunkSequence := some s.rawChunkSequence
      rawBytes := some rawChunk }
  Method.assign fun s => { s with rawChunkSequence := s.rawChunkSequence + 1 }

/-- `"\n".join(frame.comments) if frame.comments else None` -/
def commentData (comments : List Str) : Option Str :=
  if comments = [] then none else some ((lit "\n").intercalate comments)

/-- What is recorded of a frame, by its kind. -/
def recordSse (frame : SSEFrame) (parsedOffset : ℤ) (sseEventSequence : ℕ) :
    Method RequestState RequestError Unit :=
  match frame.kind with
  | .comment =>
    recordEvent clock
      { request.observation .sseComment parsedOffset with
        sseEventSequence := some sseEventSequence
        sseData := commentData frame.comments }
  | .done =>
    recordEvent clock
      { request.observation .sseDone parsedOffset with
        sseEventSequence := some sseEventSequence
        sseData := some (lit "[DONE]") }
  | .data => do
    let count ← Method.ofExcept (tokenCount frame)
    Method.assign fun s =>
      { s with
        tokenDeltas := s.tokenDeltas ++ [count]
        tokenEventOffsets := s.tokenEventOffsets ++ [parsedOffset]
        firstTokenOffset := s.firstTokenOffset.or (some parsedOffset)
        lastTokenOffset := some parsedOffset }
    recordEvent clock
      { request.observation .sseTokenEvent parsedOffset with
        sseEventSequence := some sseEventSequence
        sseData := frame.data
        tokenDeltaCount := some count }

/-- A turn of the loop over the frames of a chunk. -/
def recordFrame (frame : SSEFrame) : Method RequestState RequestError Unit := do
  let parsedOffset ← offsetNs clock
  let s ← Method.self
  recordSse clock request frame parsedOffset s.sseEventSequence
  Method.assign fun s => { s with sseEventSequence := s.sseEventSequence + 1 }

/-- The frames of a chunk, one after the other. -/
def recordFrames : List SSEFrame → Method RequestState RequestError Unit
  | [] => return ()
  | frame :: frames => do
    recordFrame clock request frame
    recordFrames frames

/-- A method of the parser. -/
def onParser {α : Type} (method : Method IncrementalSSEParser SSEProtocolError α) :
    Method RequestState RequestError α :=
  Method.onField RequestState.parser (fun parser s => { s with parser }) .sseProtocol method

/-- A turn of the loop over the body: empty chunks are passed over. -/
def readChunk (rawChunk : Bytes) : Method RequestState RequestError Unit :=
  if rawChunk = [] then return ()
  else do
    recordRawChunk clock request rawChunk
    let frames ← onParser (IncrementalSSEParser.feed rawChunk)
    recordFrames clock request frames

/-- A turn of the loop over the body of an error response. -/
def readErrorChunk (rawChunk : Bytes) : Method RequestState RequestError Unit :=
  if rawChunk = [] then return () else recordRawChunk clock request rawChunk

/-- `async for raw_chunk in response.aiter_raw()` -/
def forEachChunk (turn : Bytes → Method RequestState RequestError Unit)
    (ending : Option Interruption) : List Bytes → Method RequestState RequestError Unit
  | [] =>
    match ending with
    | none => return ()
    | some interruption => Method.raise interruption.error
  | rawChunk :: chunks => do
    turn rawChunk
    forEachChunk turn ending chunks

/-- `200 <= status < 300` -/
def isSuccessStatus (status : ℕ) : Bool := 200 ≤ status && status < 300

/-- How a request ended: its class, and for a failure its kind, its origin and its code. -/
structure Terminal where
  terminalClass : Stage1TerminalClass
  failure : Option (Stage1FailureKind × FailureOrigin × Str)
deriving DecidableEq

/-- The end of the body of a successful response. -/
def finishBody : Method RequestState RequestError Terminal := do
  onParser IncrementalSSEParser.finalize
  let s ← Method.self
  if s.tokenDeltas.sum ≠ request.case.expectedOutputTokenCount then
    Method.raise (.fixtureToken ⟨"fixture output count differs from the declared case"⟩)
  else return ⟨.success, none⟩

/-- The `try` block. -/
def executeBody (server : ServerBehaviour) : Method RequestState RequestError Terminal := do
  let status ← Method.ofExcept (server.status.mapError Interruption.error)
  let headersOffset ← offsetNs clock
  Method.assign fun s =>
    { s with responseHeadersOffset := some headersOffset, httpStatus := some status }
  if isSuccessStatus status then
    forEachChunk (readChunk clock request) server.ending server.chunks
    finishBody request
  else
    forEachChunk (readErrorChunk clock request) server.ending server.chunks
    return ⟨.failed, some (.httpStatus, .httpStatus, lit "http-status-" ++ decimal status)⟩

end

/-- The `except` clauses. -/
def RequestError.terminal : RequestError → Terminal
  | timeout => ⟨.timeout, some (.timeout, .httpClient, lit "httpx-timeout")⟩
  | sseProtocol _ =>
    ⟨.failed, some (.protocolMalformedStream, .sseParser, lit "malformed-sse-stream")⟩
  | fixtureToken _ =>
    ⟨.failed, some (.tokenAccounting, .tokenAccounting, lit "fixture-token-accounting")⟩
  | transport => ⟨.failed, some (.transport, .httpClient, lit "httpx-transport")⟩
  | cancelled => ⟨.cancelled, some (.cancelled, .loadGenerator, lit "request-cancelled")⟩
  | other _ => ⟨.failed, some (.unexpected, .harness, lit "unexpected-request-failure")⟩

/-! ## The outcome -/

/-- `NonNegativeInt` -/
def nonNegative (field : String) (n : ℤ) : Except PyError ℕ :=
  if n < 0 then .error (.validation field) else .ok n.toNat

/-- `nonNegative` of an offset that may be missing. -/
def nonNegative? (field : String) : Option ℤ → Except PyError (Option ℕ)
  | none => .ok none
  | some n => (nonNegative field n).map some

variable (request : StreamingRequest)

/-- `Stage1FailureRecord(…)` -/
def failureRecord (terminal : Terminal) (terminalOffset : ℤ) :
    Except PyError (Option Stage1FailureRecord) :=
  match terminal.failure with
  | none => .ok none
  | some (kind, origin, errorCode) => do
    let occurredOffsetNs ← nonNegative "occurred_offset_ns" terminalOffset
    let failure : Stage1FailureRecord :=
      { kind, origin, errorCode, occurredOffsetNs
        timeoutPolicy := if kind = .timeout then some request.timeoutPolicy else none }
    failure.check
    return some failure

/-- `Stage1RequestRecord(…)` -/
def requestRecord (s : RequestState) (terminal : Terminal)
    (failure : Option Stage1FailureRecord) (inputTokenCount : ℕ)
    (dispatchOffset terminalOffset : ℤ) : Except PyError Stage1RequestRecord := do
  let timing : Stage1TimingRecord :=
    { dispatchOffsetNs := ← nonNegative "dispatch_offset_ns" dispatchOffset
      responseHeadersOffsetNs :=
        ← nonNegative? "response_headers_offset_ns" s.responseHeadersOffset
      firstResponseBodyBytesOffsetNs :=
        ← nonNegative? "first_response_body_bytes_offset_ns" s.firstBodyOffset
      firstOutputTokenOffsetNs := ← nonNegative? "first_output_token_offset_ns" s.firstTokenOffset
      lastOutputTokenOffsetNs := ← nonNegative? "last_output_token_offset_ns" s.lastTokenOffset
      terminalOffsetNs := ← nonNegative "terminal_offset_ns" terminalOffset }
  let tokenEventObservationOffsetsNs ←
    collect (nonNegative "token_event_observation_offsets_ns") s.tokenEventOffsets
  Stage1RequestRecord.modelValidate
    { requestId := request.requestId
      caseId := request.case.caseId
      phase := request.phase
      terminalClass := terminal.terminalClass
      httpStatus := s.httpStatus
      timing
      inputTokenCount
      outputTokenCount := s.tokenDeltas.sum
      tokenEventDeltaCounts := s.tokenDeltas
      tokenEventObservationOffsetsNs
      perTokenObservationComplete := s.tokenDeltas.all (· == 1)
      sloSatisfied := terminal.terminalClass = .success ∧
        terminalOffset - dispatchOffset ≤ request.successfulEndToEndThresholdNs
      failure }

/-- What follows the `try` statement: the terminal event and the record. -/
def finishRequest [Interpreter] (clock : ℕ → ℤ) (inputTokenCount : ℕ) (dispatchOffset : ℤ)
    (terminal : Terminal) (s : RequestState) :
    Except PyError Stage1RequestRecord × EvidenceCollector :=
  let terminalOffset := s.nextOffset clock
  match failureRecord request terminal terminalOffset with
  | .error error => (.error error, s.collector)
  | .ok failure =>
    let observation : StreamObservation :=
      { request.observation .requestTerminal terminalOffset with
        terminalClass := some terminal.terminalClass
        failureKind := terminal.failure.map (·.1) }
    match s.collector.recordStreamEvent (clock s.clockReads) observation with
    | .error error => (.error error, s.collector)
    | .ok (_, collector) =>
      (requestRecord request s terminal failure inputTokenCount dispatchOffset terminalOffset,
        collector)

/-- The `except` clauses after the `try` block. -/
def bodyTerminal : Except RequestError Terminal → Terminal
  | .ok terminal => terminal
  | .error error => error.terminal

/-- `execute_streaming_request`: the record or what is raised, and the collector. The clock is read
from its first reading on. Before the request is dispatched, and while its response is closed, what
is raised leaves the function. -/
def executeStreamingRequest [Interpreter] (clock : ℕ → ℤ) (server : ServerBehaviour)
    (collector : EvidenceCollector) : Except RequestError Stage1RequestRecord × EvidenceCollector :=
  match parseInputTokens request.case.inputText with
  | .error error => (.error (.fixtureToken error), collector)
  | .ok inputTokens =>
    match server.built with
    | .error error => (.error (.other error), collector)
    | .ok () =>
      let dispatchOffset := collector.offsetNs (clock 0)
      let (result, s) := executeBody clock request server { collector, clockReads := 1 }
      match server.closed with
      | some interruption => (.error interruption.error, s.collector)
      | none =>
        let (finished, collector) := finishRequest request clock inputTokens.length dispatchOffset
          (bodyTerminal result) s
        (finished.mapError .other, collector)

end Stage1
