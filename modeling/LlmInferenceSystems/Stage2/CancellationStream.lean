import LlmInferenceSystems.Sse.Chunking
import LlmInferenceSystems.Stage2.CompletionResponse
import LlmInferenceSystems.Stage2.IdentityChain
import LlmInferenceSystems.Stage2.PendingBytes

/-!
# The cancellation stream

One stream up to its first generation delivery: headers, body reads, the client's close and the end
of the transport. A method may raise after it has assigned fields, so what it did before stays.

## Main definitions

* `StreamRequest`: the external id and the prompt of a request, as the constructors check them
* `CancellationStreamCapture`: the object, with its methods and properties
* `CancellationCall`, `CancellationStreamCapture.call`: the calls on it
-/

namespace Stage2

open Python Sse

/-- The external id and the prompt of a request that was built. -/
structure StreamRequest where
  externalBaseId : Str
  prompt : List ℕ
  external : IsExternalRequestId externalBaseId
  length_prompt : prompt.length = 64
deriving DecidableEq

/-- `RetainedBodyChunk` -/
structure RetainedBodyChunk where
  observationOffsetNs : ℤ
  data : Bytes
  sha256 : Str
deriving DecidableEq

/-- `RetainedSSEEvent` -/
structure RetainedSSEEvent where
  ordinal : ℕ
  observationOffsetNs : ℤ
  kind : FrameKind
  data : Option Str
  comments : List Str
deriving DecidableEq

/-- `RetainedCancellationGenerationEvent` -/
structure RetainedCancellationGenerationEvent where
  sseEventOrdinal : ℕ
  observationOffsetNs : ℤ
  outputTokenIds : List ℕ
  text : Str
  promptTokenIds : Option (List ℕ)
deriving DecidableEq

/-- `RetainedFirstGenerationDelivery` -/
structure RetainedFirstGenerationDelivery where
  generationEventOrdinal : ℕ
  bodyChunkOrdinal : ℕ
  observationOffsetNs : ℤ
  outputTokenIds : List ℕ
deriving DecidableEq

/-- Whether octets of a frame were still incomplete at the close. -/
inductive ParserState where
  | atSseFrameBoundary
  | incompleteTrailingSseBytes
deriving DecidableEq

/-- `CancellationStreamCapture` -/
structure CancellationStreamCapture where
  request : StreamRequest
  parser : IncrementalSSEParser := {}
  responseHeadersOffsetNs : Option ℤ := none
  rawBodyChunks : List RetainedBodyChunk := []
  parsedSseEvents : List RetainedSSEEvent := []
  generationEvents : List RetainedCancellationGenerationEvent := []
  firstGenerationDelivery : Option RetainedFirstGenerationDelivery := none
  closeOffsetNs : Option ℤ := none
  transportCloseCompletionOffsetNs : Option ℤ := none
  lastObservationOffsetNs : ℤ
deriving DecidableEq

/-- The event of a frame. -/
def retainEvent (ordinal : ℕ) (observationOffsetNs : ℤ) (frame : SSEFrame) : RetainedSSEEvent where
  ordinal := ordinal
  observationOffsetNs := observationOffsetNs
  kind := frame.kind
  data := frame.data
  comments := frame.comments

/-- `Stage2ProtocolError(str(error))` -/
def protocolError (error : SSEProtocolError) : PyError := .stage2Protocol error.message

/-- `value == text` for a `str`. -/
def isText (text : Str) : Json → Bool
  | .str s => s == text
  | _ => false

namespace CancellationStreamCapture

/-- A new capture of a request dispatched at an offset. -/
def start (request : StreamRequest) (dispatchOffsetNs : ℤ) : CancellationStreamCapture where
  request := request
  lastObservationOffsetNs := dispatchOffsetNs

/-- The octets of the retained chunks. -/
def rawBody (capture : CancellationStreamCapture) : Bytes :=
  capture.rawBodyChunks.flatMap (·.data)

/-- `pending_bytes` -/
def pendingBytes (capture : CancellationStreamCapture) : Bytes := pendingSseBytes capture.rawBody

/-- `parser_pending_bytes` -/
def parserPendingBytes (capture : CancellationStreamCapture) : Bytes :=
  crlfToLf capture.pendingBytes

/-- `parser_state_at_close` -/
def parserStateAtClose (capture : CancellationStreamCapture) : ParserState :=
  if capture.parserPendingBytes = [] then .atSseFrameBoundary else .incompleteTrailingSseBytes

/-- `_advance` -/
def advance (observationOffsetNs : ℤ) : Method CancellationStreamCapture PyError Unit := do
  let capture ← Method.self
  if observationOffsetNs < capture.lastObservationOffsetNs then
    Method.raise (.stage2Protocol "cancellation stream observations are not monotonic")
  else Method.assign fun c => { c with lastObservationOffsetNs := observationOffsetNs }

/-- `accept_response_headers` -/
def acceptResponseHeaders (xRequestId : Str) (observationOffsetNs : ℤ) :
    Method CancellationStreamCapture PyError Unit := do
  let capture ← Method.self
  if capture.responseHeadersOffsetNs ≠ none then
    Method.raise (.stage2Protocol "duplicate cancellation response headers")
  else if xRequestId ≠ capture.request.externalBaseId then
    Method.raise (.stage2Protocol "cancellation response X-Request-Id differs")
  else
    advance observationOffsetNs
    Method.assign fun c => { c with responseHeadersOffsetNs := some observationOffsetNs }

section

variable [Interpreter]

/-- What a generation event's choice holds. -/
structure CancellationGeneration where
  outputTokenIds : List ℕ
  text : Str
  promptTokenIds : Option (List ℕ)

/-- The checks of a choice. -/
def readChoice (expectedPrompt : Option (List ℕ)) (choice : List (Str × Json)) :
    Except PyError CancellationGeneration :=
  if ¬ (get choice "index").isZero then
    .error (.stage2Protocol "cancellation response choice differs")
  else if ¬ (get choice "finish_reason").isNull then
    .error (.stage2Protocol "cancellation generation terminal preceded client close")
  else
    match get choice "text" with
    | .str text =>
      tokenIds (get choice "token_ids") "cancellation choice.token_ids" >>= fun outputTokenIds =>
      if outputTokenIds = [] then
        .error (.stage2Protocol "cancellation generation event has no output token IDs")
      else
        (if (get choice "prompt_token_ids").isNull then .ok none
          else (tokenIds (get choice "prompt_token_ids")
            "cancellation choice.prompt_token_ids").map some) >>= fun promptTokenIds =>
        if promptTokenIds ≠ expectedPrompt then
          .error (.stage2Protocol "cancellation returned prompt token IDs differ from request")
        else .ok { outputTokenIds, text, promptTokenIds }
    | _ => .error (.stage2Protocol "cancellation response text must be a string")

/-- The checks of a data frame. -/
def readGeneration (request : StreamRequest) (expectedPrompt : Option (List ℕ)) (data : Str) :
    Except PyError CancellationGeneration :=
  jsonWithoutDuplicateKeys data >>= fun decoded =>
  object decoded "cancellation completion response" >>= fun response =>
  if ¬ isText (responseBodyId request.externalBaseId) (get response "id") then
    .error (.stage2Protocol "cancellation response body ID differs")
  else if (Json.field response "usage").isSome ∨ (Json.field response "metrics").isSome then
    .error (.stage2Protocol "cancellation usage terminal preceded client close")
  else
    array (get response "choices") "cancellation choices" >>= fun choices =>
    match choices with
    | [choice] => object choice "cancellation choice" >>= readChoice expectedPrompt
    | _ => .error (.stage2Protocol "cancellation usage or ambiguous event preceded close")

/-- `self._parsed_sse_events.append(event)` -/
def retain (observationOffsetNs : ℤ) (frame : SSEFrame) (capture : CancellationStreamCapture) :
    CancellationStreamCapture :=
  { capture with parsedSseEvents := capture.parsedSseEvents ++
      [retainEvent capture.parsedSseEvents.length observationOffsetNs frame] }

/-- The generation event of a frame, and the first delivery when there is none yet. -/
def deliver (observationOffsetNs : ℤ) (ordinal chunkOrdinal : ℕ)
    (generation : CancellationGeneration) (capture : CancellationStreamCapture) :
    CancellationStreamCapture :=
  { capture with
    generationEvents := capture.generationEvents ++
      [{ sseEventOrdinal := ordinal
         observationOffsetNs
         outputTokenIds := generation.outputTokenIds
         text := generation.text
         promptTokenIds := generation.promptTokenIds }]
    firstGenerationDelivery := capture.firstGenerationDelivery.or
      (some { generationEventOrdinal := ordinal
              bodyChunkOrdinal := chunkOrdinal
              observationOffsetNs
              outputTokenIds := generation.outputTokenIds }) }

/-- `expected_prompt` -/
def expectedPrompt (capture : CancellationStreamCapture) : Option (List ℕ) :=
  if capture.generationEvents = [] then some capture.request.prompt else none

/-- One turn of the loop of `feed`. -/
def acceptFrame (observationOffsetNs : ℤ) (chunkOrdinal : ℕ) (frame : SSEFrame) :
    Method CancellationStreamCapture PyError Unit := do
  let capture ← Method.self
  Method.assign (retain observationOffsetNs frame)
  match frame.kind, frame.data with
  | .comment, _ => return ()
  | .data, some data =>
    let generation ← Method.ofExcept (readGeneration capture.request capture.expectedPrompt data)
    Method.assign (deliver observationOffsetNs capture.parsedSseEvents.length chunkOrdinal generation)
  | _, _ => Method.raise (.stage2Protocol "cancellation stream reached [DONE] before client close")

/-- The loop of `feed`. -/
def acceptFrames (observationOffsetNs : ℤ) (chunkOrdinal : ℕ) :
    List SSEFrame → Method CancellationStreamCapture PyError Unit
  | [] => return ()
  | frame :: frames => do
    acceptFrame observationOffsetNs chunkOrdinal frame
    acceptFrames observationOffsetNs chunkOrdinal frames

/-- `CancellationStreamCapture.feed` -/
def feed (chunk : Bytes) (observationOffsetNs : ℤ) :
    Method CancellationStreamCapture PyError Bool := do
  let capture ← Method.self
  if capture.closeOffsetNs ≠ none then
    Method.raise (.stage2Protocol "cancellation response bytes attributed after client close")
  else if capture.firstGenerationDelivery ≠ none then
    Method.raise
      (.stage2Protocol "cancellation body read occurred after the first generation delivery")
  else if capture.responseHeadersOffsetNs = none then
    Method.raise (.stage2Protocol "cancellation body observed before response headers")
  else if chunk = [] then
    Method.raise (.stage2Protocol "cancellation body read cannot be empty")
  else
    advance observationOffsetNs
    Method.assign fun c =>
      { c with rawBodyChunks := c.rawBodyChunks ++
          [{ observationOffsetNs, data := chunk, sha256 := Interpreter.hexdigest chunk }] }
    let frames ← Method.onField parser (fun p c => { c with parser := p }) protocolError
      (IncrementalSSEParser.feed chunk)
    acceptFrames observationOffsetNs capture.rawBodyChunks.length frames
    let fed ← Method.self
    return fed.firstGenerationDelivery.isSome

end

/-- `CancellationStreamCapture.close` -/
def close (observationOffsetNs : ℤ) : Method CancellationStreamCapture PyError Unit := do
  let capture ← Method.self
  if capture.closeOffsetNs ≠ none then
    Method.raise (.stage2Protocol "duplicate intentional cancellation close")
  else
    advance observationOffsetNs
    match capture.firstGenerationDelivery with
    | none =>
      Method.raise
        (.stage2Protocol "client closed before a generation event was reconstructable")
    | some delivery =>
      if observationOffsetNs < delivery.observationOffsetNs then
        Method.raise (.stage2Protocol "client close precedes its triggering body read")
      else Method.assign fun c => { c with closeOffsetNs := some observationOffsetNs }

/-- `complete_transport_close` -/
def completeTransportClose (observationOffsetNs : ℤ) :
    Method CancellationStreamCapture PyError Unit := do
  let capture ← Method.self
  if capture.closeOffsetNs = none then
    Method.raise (.stage2Protocol "transport close completed before close invocation")
  else if capture.transportCloseCompletionOffsetNs ≠ none then
    Method.raise (.stage2Protocol "duplicate transport-close completion")
  else
    advance observationOffsetNs
    Method.assign fun c => { c with transportCloseCompletionOffsetNs := some observationOffsetNs }

/-- `observe_clean_eof` -/
def observeCleanEof (observationOffsetNs : ℤ) : Method CancellationStreamCapture PyError Unit := do
  advance observationOffsetNs
  Method.raise (.stage2Protocol "clean EOF preceded intentional cancellation close")

end CancellationStreamCapture

/-- A call on the capture of a cancellation stream. -/
inductive CancellationCall where
  | acceptResponseHeaders (xRequestId : Str) (observationOffsetNs : ℤ)
  | feed (chunk : Bytes) (observationOffsetNs : ℤ)
  | close (observationOffsetNs : ℤ)
  | completeTransportClose (observationOffsetNs : ℤ)
  | observeCleanEof (observationOffsetNs : ℤ)
deriving DecidableEq

/-- A call; the result of a read is whether a generation was delivered. -/
def CancellationStreamCapture.call [Interpreter] :
    CancellationCall → Method CancellationStreamCapture PyError Unit
  | .acceptResponseHeaders xRequestId offset => acceptResponseHeaders xRequestId offset
  | .feed chunk offset => do
    let _ ← feed chunk offset
    return ()
  | .close offset => close offset
  | .completeTransportClose offset => completeTransportClose offset
  | .observeCleanEof offset => observeCleanEof offset

end Stage2
