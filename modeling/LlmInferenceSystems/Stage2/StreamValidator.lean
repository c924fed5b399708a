import LlmInferenceSystems.Stage2.CancellationStream
import LlmInferenceSystems.Stage2.RequestEvidence

/-!
# The stream validator

One completion stream with four terminals: of the generation, of the usage, of the protocol and of
the transport. Headers and body reads are accepted one call after the other; the close of the
transport turns what was retained into evidence. A method may raise after it has assigned fields, so
what it did before stays.

A clock may give the second and each later frame of a read a time of its own. Its readings are a
parameter of the object.

## Main definitions

* `FrameClock`, `Stage2StreamValidator`: the clock, and the object with its methods
* `StreamCall`, `Stage2StreamValidator.call`: the calls on it
-/

namespace Stage2

open Python Sse

/-- A clock, by its readings and how many of them were taken. -/
structure FrameClock where
  readings : ℕ → Except PyError ℤ
  reads : ℕ := 0

/-- `Stage2StreamValidator` -/
structure Stage2StreamValidator where
  request : StreamRequest
  dispatchOffsetNs : ℤ
  fixtureIdentitySha256 : Option Str := none
  frameClock : Option FrameClock := none
  parser : IncrementalSSEParser := {}
  responseHeadersOffsetNs : Option ℤ := none
  firstBodyOffsetNs : Option ℤ := none
  generationTerminalOffsetNs : Option ℤ := none
  usageTerminalOffsetNs : Option ℤ := none
  protocolTerminalOffsetNs : Option ℤ := none
  transportTerminalOffsetNs : Option ℤ := none
  tokenEvents : List Stage2TokenEvent := []
  returnedPromptIds : Option (List ℕ) := none
  outputIds : List ℕ := []
  outputTextParts : List Str := []
  usage : Option Usage := none
  serverMetrics : Option PerRequestMetrics := none
  terminalCarriedTokens : Option Bool := none
  lastObservationOffsetNs : ℤ
  rawBodyChunks : List RetainedBodyChunk := []
  parsedSseEvents : List RetainedSSEEvent := []

namespace Stage2StreamValidator

/-- A new validator of a request dispatched at an offset. -/
def start (request : StreamRequest) (dispatchOffsetNs : ℤ) (fixtureIdentitySha256 : Option Str)
    (frameClock : Option FrameClock) : Stage2StreamValidator where
  request := request
  dispatchOffsetNs := dispatchOffsetNs
  fixtureIdentitySha256 := fixtureIdentitySha256
  frameClock := frameClock
  lastObservationOffsetNs := dispatchOffsetNs

/-- `_advance` -/
def advance (observationOffsetNs : ℤ) : Method Stage2StreamValidator PyError Unit := do
  let validator ← Method.self
  if observationOffsetNs < validator.lastObservationOffsetNs then
    Method.raise (.stage2Protocol "stream observations are not monotonic")
  else Method.assign fun v => { v with lastObservationOffsetNs := observationOffsetNs }

/-- `accept_response_headers` -/
def acceptResponseHeaders (xRequestId : Str) (observationOffsetNs : ℤ) :
    Method Stage2StreamValidator PyError Unit := do
  let validator ← Method.self
  if validator.responseHeadersOffsetNs ≠ none then
    Method.raise (.stage2Protocol "duplicate response headers")
  else if xRequestId ≠ validator.request.externalBaseId then
    Method.raise (.stage2Protocol "response X-Request-Id differs")
  else
    advance observationOffsetNs
    Method.assign fun v => { v with responseHeadersOffsetNs := some observationOffsetNs }

section

variable [Interpreter]

/-- `finish_reason not in (None, "length")` raises. -/
def readFinishReason : Json → Except PyError (Option FinishReason)
  | .null => .ok none
  | .str text =>
    if text = lit "length" then .ok (some .length)
    else .error (.stage2Protocol "finish reason must be null or length")
  | _ => .error (.stage2Protocol "finish reason must be null or length")

/-- What the choice of a generation event holds, before its prompt is looked at. -/
structure Generation where
  outputTokenIds : List ℕ
  text : Str
  finishReason : Option FinishReason
deriving DecidableEq

/-- The checks of a choice; absent token ids are none. -/
def readGenerationChoice (choice : List (Str × Json)) : Except PyError Generation :=
  if ¬ (get choice "index").isZero then
    .error (.stage2Protocol "completion choice index differs")
  else
    match get choice "text" with
    | .str text =>
      tokenIds ((Json.field choice "token_ids").getD (.arr [])) "choice.token_ids" >>=
        fun outputTokenIds =>
      readFinishReason (get choice "finish_reason") >>= fun finishReason =>
      .ok { outputTokenIds, text, finishReason }
    | _ => .error (.stage2Protocol "completion choice text must be a string")

/-- `prompt_token_ids` of a choice: `none` when absent or null. -/
def readPrompt (choice : List (Str × Json)) : Option Json :=
  if (get choice "prompt_token_ids").isNull then none else some (get choice "prompt_token_ids")

/-- The prompt a choice returns. -/
def acceptPrompt (choice : List (Str × Json)) : Method Stage2StreamValidator PyError Unit :=
  match readPrompt choice with
  | none => return ()
  | some value => do
    let validator ← Method.self
    if validator.returnedPromptIds ≠ none then
      Method.raise (.stage2Protocol "duplicate returned prompt token IDs")
    else
      let ids ← Method.ofExcept (tokenIds value "choice.prompt_token_ids")
      Method.assign fun v => { v with returnedPromptIds := some ids }

/-- The token event of a generation; the first one carries the prompt, if it came by then. -/
def tokenEvent (validator : Stage2StreamValidator) (observationOffsetNs : ℤ)
    (generation : Generation) : Stage2TokenEvent where
  observationOffsetNs := observationOffsetNs
  outputTokenIds := generation.outputTokenIds
  text := generation.text
  finishReason := generation.finishReason
  promptTokenIds := if validator.tokenEvents.isEmpty then validator.returnedPromptIds else none

/-- The rest of `_accept_response` for one choice: the ids, the text and the event are retained, and
the terminal is set. -/
def acceptGeneration (generation : Generation) (observationOffsetNs : ℤ) :
    Method Stage2StreamValidator PyError Unit := do
  Method.assign fun v => { v with outputIds := v.outputIds ++ generation.outputTokenIds }
  let validator ← Method.self
  if 32 < validator.outputIds.length then
    Method.raise (.stage2Protocol "more than 32 output token IDs observed")
  else
    Method.assign fun v => { v with outputTextParts := v.outputTextParts ++ [generation.text] }
    let event ← Method.ofExcept (tokenEvent validator observationOffsetNs generation).create
    Method.assign fun v => { v with tokenEvents := v.tokenEvents ++ [event] }
    if generation.finishReason = some .length then
      if validator.outputIds.length ≠ 32 then
        Method.raise (.stage2Protocol "generation terminal requires exactly 32 output IDs")
      else
        Method.assign fun v =>
          { v with
            generationTerminalOffsetNs := some observationOffsetNs
            terminalCarriedTokens := some (decide (generation.outputTokenIds ≠ [])) }
    else return ()

/-- `_accept_usage` -/
def acceptUsage (value : List (Str × Json)) (observationOffsetNs : ℤ) :
    Method Stage2StreamValidator PyError Unit := do
  let validator ← Method.self
  match validator.generationTerminalOffsetNs with
  | none =>
    Method.raise (.stage2Protocol "usage terminal observed before generation terminal")
  | some generationTerminal =>
    if validator.usageTerminalOffsetNs ≠ none then
      Method.raise (.stage2Protocol "duplicate usage terminal")
    else if observationOffsetNs ≤ generationTerminal then
      Method.raise (.stage2Protocol "usage terminal must follow generation terminal")
    else
      let fields ← Method.ofExcept (object (get value "usage") "usage")
      match Usage.ofFields fields with
      | none => Method.raise (.stage2Protocol "usage reconciliation failed")
      | some usage =>
        Method.assign fun v => { v with usage := some usage }
        match Json.field value "metrics" with
        | none => Method.raise (.stage2Protocol "usage terminal requires per-request metrics")
        | some raw =>
          let serverMetrics ← Method.ofExcept (metrics raw)
          Method.assign fun v =>
            { v with
              serverMetrics := some serverMetrics
              usageTerminalOffsetNs := some observationOffsetNs }

/-- The part of `_accept_response` for a response with one choice. -/
def acceptChoice (choice : Json) (observationOffsetNs : ℤ) :
    Method Stage2StreamValidator PyError Unit := do
  let validator ← Method.self
  if validator.usageTerminalOffsetNs ≠ none then
    Method.raise (.stage2Protocol "generation data observed after usage terminal")
  else
    let fields ← Method.ofExcept (object choice "choice")
    let generation ← Method.ofExcept (readGenerationChoice fields)
    if validator.generationTerminalOffsetNs ≠ none then
      Method.raise (.stage2Protocol "generation data observed after generation terminal")
    else
      acceptPrompt fields
      acceptGeneration generation observationOffsetNs

/-- `_accept_response` -/
def acceptResponse (value : List (Str × Json)) (observationOffsetNs : ℤ) :
    Method Stage2StreamValidator PyError Unit := do
  let validator ← Method.self
  if ¬ isText (responseBodyId validator.request.externalBaseId) (get value "id") then
    Method.raise (.stage2Protocol "completion response body ID differs")
  else
    let choices ← Method.ofExcept (array (get value "choices") "choices")
    match choices with
    | [] => acceptUsage value observationOffsetNs
    | [choice] => acceptChoice choice observationOffsetNs
    | _ =>
      Method.raise (.stage2Protocol "each generation event must contain exactly one choice")

/-- `self._parsed_sse_events.append(...)` -/
def retain (observationOffsetNs : ℤ) (frame : SSEFrame) (validator : Stage2StreamValidator) :
    Stage2StreamValidator :=
  { validator with parsedSseEvents := validator.parsedSseEvents ++
      [retainEvent validator.parsedSseEvents.length observationOffsetNs frame] }

/-- `[DONE]` -/
def acceptDone (observationOffsetNs : ℤ) : Method Stage2StreamValidator PyError Unit := do
  let validator ← Method.self
  match validator.usageTerminalOffsetNs with
  | none => Method.raise (.stage2Protocol "[DONE] observed before usage terminal")
  | some usageTerminal =>
    if observationOffsetNs ≤ usageTerminal then
      Method.raise (.stage2Protocol "protocol terminal must follow usage terminal")
    else Method.assign fun v => { v with protocolTerminalOffsetNs := some observationOffsetNs }

/-- One turn of the loop of `feed`, at the time of the frame. -/
def acceptFrame (frame : SSEFrame) (frameOffsetNs : ℤ) :
    Method Stage2StreamValidator PyError Unit := do
  Method.assign (retain frameOffsetNs frame)
  let validator ← Method.self
  if validator.protocolTerminalOffsetNs ≠ none then
    Method.raise (.stage2Protocol "post-protocol-terminal SSE data observed")
  else
    match frame.kind, frame.data with
    | .comment, _ => return ()
    | .done, _ => acceptDone frameOffsetNs
    | .data, none => Method.raise (.stage2Protocol "SSE data frame is empty")
    | .data, some data =>
      let decoded ← Method.ofExcept (jsonWithoutDuplicateKeys data)
      let value ← Method.ofExcept (object decoded "completion response")
      acceptResponse value frameOffsetNs

/-- The time of the second or a later frame of a read, where the one before it was at an offset. -/
def frameTime (frameOffsetNs : ℤ) : Method Stage2StreamValidator PyError ℤ := do
  let validator ← Method.self
  match validator.frameClock with
  | none => return frameOffsetNs
  | some clock =>
    let reading ← Method.ofExcept (clock.readings clock.reads)
    Method.assign fun v => { v with frameClock := some { clock with reads := clock.reads + 1 } }
    advance reading
    return reading

/-- The frames of a read after the first. -/
def acceptLaterFrames (frameOffsetNs : ℤ) :
    List SSEFrame → Method Stage2StreamValidator PyError Unit
  | [] => return ()
  | frame :: frames => do
    let reading ← frameTime frameOffsetNs
    acceptFrame frame reading
    acceptLaterFrames reading frames

/-- The loop of `feed`. -/
def acceptFrames (observationOffsetNs : ℤ) :
    List SSEFrame → Method Stage2StreamValidator PyError Unit
  | [] => return ()
  | frame :: frames => do
    acceptFrame frame observationOffsetNs
    acceptLaterFrames observationOffsetNs frames

/-- `self._raw_body_chunks.append(...)`, of a chunk that is not empty -/
def retainChunk (chunk : Bytes) (observationOffsetNs : ℤ) (validator : Stage2StreamValidator) :
    Stage2StreamValidator :=
  { validator with
    rawBodyChunks :=
      if chunk = [] then validator.rawBodyChunks
      else
        validator.rawBodyChunks ++
          [{ observationOffsetNs, data := chunk, sha256 := Interpreter.hexdigest chunk }] }

/-- `Stage2StreamValidator.feed` -/
def feed (chunk : Bytes) (observationOffsetNs : ℤ) :
    Method Stage2StreamValidator PyError Unit := do
  Method.assign (retainChunk chunk observationOffsetNs)
  let validator ← Method.self
  if validator.transportTerminalOffsetNs ≠ none then
    Method.raise (.stage2Protocol "data observed after transport terminal")
  else if validator.responseHeadersOffsetNs = none then
    Method.raise (.stage2Protocol "response body observed before response headers")
  else
    advance observationOffsetNs
    Method.assign fun v =>
      { v with
        firstBodyOffsetNs :=
          if chunk ≠ [] ∧ v.firstBodyOffsetNs = none then some observationOffsetNs
          else v.firstBodyOffsetNs }
    let frames ← Method.onField parser (fun p v => { v with parser := p }) protocolError
      (IncrementalSSEParser.feed chunk)
    acceptFrames observationOffsetNs frames

/-! ## The evidence -/

/-- The boundaries that `_evidence` requires. -/
def timing (validator : Stage2StreamValidator) (firstToken : ℤ) : Option Stage2TimingRecord := do
  return { dispatchOffsetNs := validator.dispatchOffsetNs
           responseHeadersOffsetNs := ← validator.responseHeadersOffsetNs
           firstResponseBodyBytesOffsetNs := ← validator.firstBodyOffsetNs
           firstOutputTokenOffsetNs := firstToken
           generationTerminalOffsetNs := ← validator.generationTerminalOffsetNs
           usageTerminalOffsetNs := ← validator.usageTerminalOffsetNs
           protocolTerminalOffsetNs := ← validator.protocolTerminalOffsetNs
           transportTerminalOffsetNs := ← validator.transportTerminalOffsetNs }

/-- What `_evidence` has taken from the object when it comes to the metrics. -/
structure EvidenceParts where
  timing : Stage2TimingRecord
  usage : Usage
  serverMetrics : PerRequestMetrics
  terminalCarriedTokens : Bool
deriving DecidableEq

/-- The checks at the beginning of `_evidence`. -/
def evidenceParts (validator : Stage2StreamValidator) : Except PyError EvidenceParts :=
  match validator.timing 0 with
  | none =>
    .error (.stage2Protocol "stream is missing a required terminal or timing boundary")
  | some _ =>
    if validator.returnedPromptIds ≠ some validator.request.prompt then
      .error (.stage2Protocol "returned prompt token IDs differ from sent IDs")
    else
      match validator.usage, validator.serverMetrics, validator.terminalCarriedTokens with
      | some usage, some serverMetrics, some terminalCarriedTokens =>
        match (tokenBearing validator.tokenEvents).head? with
        | none => .error (.stage2Protocol "stream contains no output-token event")
        | some first =>
          match validator.timing first.observationOffsetNs with
          | none =>
            .error (.stage2Protocol "stream is missing a required terminal or timing boundary")
          | some timing => .ok { timing, usage, serverMetrics, terminalCarriedTokens }
      | _, _, _ =>
        .error (.stage2Protocol "stream is missing usage or generation terminal evidence")

/-- The two metrics. -/
def clientMetrics [MetricArithmetic] (validator : Stage2StreamValidator) (parts : EvidenceParts) :
    Except PyError (MetricAvailability × MetricAvailability) :=
  let events := tokenBearing validator.tokenEvents
  if isGrouped events then .ok (.grouped, .grouped)
  else do
    let tpot ← MetricAvailability.ofValue (← MetricArithmetic.quotient
      (parts.timing.generationTerminalOffsetNs - parts.timing.firstOutputTokenOffsetNs) 31)
    let itl ← MetricAvailability.ofValue (← MetricArithmetic.mean (eventGaps events))
    return (tpot, itl)

/-- The evidence that `_evidence` constructs; the returned prompt is the sent one by then. -/
def evidenceRecord (validator : Stage2StreamValidator) (identityChain : RequestIdentityChain)
    (parts : EvidenceParts) (tpot itl : MetricAvailability) (chainSha256 : Str) (octets : Bytes)
    (timing : Stage2TimingRecord) : Stage2RequestEvidence where
  fixtureIdentitySha256 := validator.fixtureIdentitySha256
  requestIdentityChainSha256 := chainSha256
  externalRequestId := validator.request.externalBaseId
  responseRequestId := responseBodyId validator.request.externalBaseId
  servingItemRequestId := servingItemId validator.request.externalBaseId
  internalEngineRequestId := identityChain.internalEngineId
  sentPromptTokenIds := validator.request.prompt
  returnedPromptTokenIds := validator.request.prompt
  tokenEvents := validator.tokenEvents
  finalOutputTokenIds := validator.outputIds
  finishReason := .length
  terminalEventCarriedTokenIds := parts.terminalCarriedTokens
  usage := parts.usage
  localPromptTokenCount := none
  localOutputTokenCount := none
  serverPerRequestMetrics := parts.serverMetrics
  disagreements := []
  outputText := validator.outputTextParts.flatten
  outputTextSha256 := Interpreter.hexdigest octets
  timing := timing
  clientGenerationTpot := tpot
  tokenObservationItl := itl
  streamOutputGapNs := eventGaps (tokenBearing validator.tokenEvents)

/-- `_evidence` -/
def evidence [MetricArithmetic] (validator : Stage2StreamValidator)
    (identityChain : RequestIdentityChain) : Except PyError Stage2RequestEvidence := do
  let parts ← validator.evidenceParts
  let (tpot, itl) ← validator.clientMetrics parts
  let chainSha256 ← sha256Identity identityChain.dump
  match utf8Encode validator.outputTextParts.flatten with
  | none => .error .unicodeEncode
  | some octets =>
    let timing ← parts.timing.create
    (validator.evidenceRecord identityChain parts tpot itl chainSha256 octets timing).create

/-- The checks of `close_transport`, up to the evidence. -/
def closeChecks (observationOffsetNs : ℤ) (identityChain : RequestIdentityChain) :
    Method Stage2StreamValidator PyError Unit := do
  let validator ← Method.self
  if validator.transportTerminalOffsetNs ≠ none then
    Method.raise (.stage2Protocol "duplicate transport terminal")
  else
    advance observationOffsetNs
    Method.onField parser (fun p v => { v with parser := p }) protocolError
      IncrementalSSEParser.finalize
    match validator.protocolTerminalOffsetNs with
    | none => Method.raise (.stage2Protocol "transport closed before protocol terminal")
    | some protocolTerminal =>
      if observationOffsetNs ≤ protocolTerminal then
        Method.raise (.stage2Protocol "transport terminal must follow protocol terminal")
      else
        Method.assign fun v => { v with transportTerminalOffsetNs := some observationOffsetNs }
        let base := validator.request.externalBaseId
        if identityChain.externalBaseId ≠ base ∨
            identityChain.responseBodyId ≠ responseBodyId base ∨
            identityChain.servingItemId ≠ servingItemId base ∨
            identityChain.externalAbortLog ≠ none ∨ identityChain.internalAbortLog ≠ none then
          Method.raise (.stage2Protocol "validated request-log identity chain differs")
        else return ()

/-- `close_transport` -/
def closeTransport [MetricArithmetic] (observationOffsetNs : ℤ)
    (identityChain : RequestIdentityChain) :
    Method Stage2StreamValidator PyError Stage2RequestEvidence := do
  closeChecks observationOffsetNs identityChain
  let validator ← Method.self
  Method.ofExcept (validator.evidence identityChain)

end

end Stage2StreamValidator

/-- A call on a stream validator. -/
inductive StreamCall where
  | acceptResponseHeaders (xRequestId : Str) (observationOffsetNs : ℤ)
  | feed (chunk : Bytes) (observationOffsetNs : ℤ)
  | closeTransport (observationOffsetNs : ℤ) (identityChain : RequestIdentityChain)
deriving DecidableEq

/-- A call, and the evidence when it is the close of the transport. -/
def Stage2StreamValidator.call [Interpreter] [MetricArithmetic] :
    StreamCall → Method Stage2StreamValidator PyError (Option Stage2RequestEvidence)
  | .acceptResponseHeaders xRequestId offset => do
    acceptResponseHeaders xRequestId offset
    return none
  | .feed chunk offset => do
    feed chunk offset
    return none
  | .closeTransport offset identityChain => do
    let evidence ← closeTransport offset identityChain
    return some evidence

end Stage2
