import LlmInferenceSystems.Stage1.Contracts
import LlmInferenceSystems.Stage1.JsonFields
import LlmInferenceSystems.Stage1.JsonLines

/-!
# The evidence of a run, as it is stored

A run stores its requests, what was seen of their streams and what its server did as lines of JSON.
The models are strict: no field is unknown, an integer is no float, and a field with a default may be
left out.

## Main definitions

* `requestModel`, `streamEventModel`, `serverEventModel`: the models as they are written and read

## Main results

* `evidence_roundTrips`: the three round-trip, as far as their integers can be written
* `not_roundTrips_unbounded`: an integer may be too long to be written
-/

namespace Stage1

open Python Stage2

/-! ## Enumerations -/

/-- The value of a phase. -/
def Stage1Phase.text : Stage1Phase → String
  | .warmup => "WARMUP"
  | .measured => "MEASURED"

/-- The value of a terminal class. -/
def Stage1TerminalClass.text : Stage1TerminalClass → String
  | .success => "SUCCESS"
  | .failed => "FAILED"
  | .timeout => "TIMEOUT"
  | .cancelled => "CANCELLED"

/-- The value of a kind of failure. -/
def Stage1FailureKind.text : Stage1FailureKind → String
  | .httpStatus => "HTTP_STATUS"
  | .protocolMalformedStream => "PROTOCOL_MALFORMED_STREAM"
  | .timeout => "TIMEOUT"
  | .transport => "TRANSPORT"
  | .tokenAccounting => "TOKEN_ACCOUNTING"
  | .cancelled => "CANCELLED"
  | .unexpected => "UNEXPECTED"

/-- The value of a failure's origin. -/
def FailureOrigin.text : FailureOrigin → String
  | .httpClient => "HTTP_CLIENT"
  | .httpStatus => "HTTP_STATUS"
  | .sseParser => "SSE_PARSER"
  | .tokenAccounting => "TOKEN_ACCOUNTING"
  | .loadGenerator => "LOAD_GENERATOR"
  | .harness => "HARNESS"

/-- The value of a kind of evidence. -/
def StreamEvidenceKind.text : StreamEvidenceKind → String
  | .clientRequestStarted => "CLIENT_REQUEST_STARTED"
  | .rawBodyChunk => "RAW_BODY_CHUNK"
  | .sseComment => "SSE_COMMENT"
  | .sseTokenEvent => "SSE_TOKEN_EVENT"
  | .sseDone => "SSE_DONE"
  | .requestTerminal => "REQUEST_TERMINAL"
  | .clientRequestEnded => "CLIENT_REQUEST_ENDED"

/-- `ServerEventKind` -/
inductive ServerEventKind where
  | requestAccepted
  | responseHeadersSent
  | sseCommentSent
  | sseTokenEventSent
  | sseMalformedDataSent
  | sseDoneSent
  | httpErrorSent
  | stallStarted
  | clientDisconnected
  | requestHandlerEnded
deriving DecidableEq

/-- The value of a kind of server event. -/
def ServerEventKind.text : ServerEventKind → String
  | .requestAccepted => "REQUEST_ACCEPTED"
  | .responseHeadersSent => "RESPONSE_HEADERS_SENT"
  | .sseCommentSent => "SSE_COMMENT_SENT"
  | .sseTokenEventSent => "SSE_TOKEN_EVENT_SENT"
  | .sseMalformedDataSent => "SSE_MALFORMED_DATA_SENT"
  | .sseDoneSent => "SSE_DONE_SENT"
  | .httpErrorSent => "HTTP_ERROR_SENT"
  | .stallStarted => "STALL_STARTED"
  | .clientDisconnected => "CLIENT_DISCONNECTED"
  | .requestHandlerEnded => "REQUEST_HANDLER_ENDED"

/-- A phase, read by its value. -/
def readPhase : Json → Option Stage1Phase := readEnum [.warmup, .measured] Stage1Phase.text

/-- A terminal class, read by its value. -/
def readTerminalClass : Json → Option Stage1TerminalClass :=
  readEnum [.success, .failed, .timeout, .cancelled] Stage1TerminalClass.text

/-- A kind of failure, read by its value. -/
def readFailureKind : Json → Option Stage1FailureKind :=
  readEnum [.httpStatus, .protocolMalformedStream, .timeout, .transport, .tokenAccounting,
    .cancelled, .unexpected] Stage1FailureKind.text

/-- A failure's origin, read by its value. -/
def readOrigin : Json → Option FailureOrigin :=
  readEnum [.httpClient, .httpStatus, .sseParser, .tokenAccounting, .loadGenerator, .harness]
    FailureOrigin.text

/-- A kind of evidence, read by its value. -/
def readStreamKind : Json → Option StreamEvidenceKind :=
  readEnum [.clientRequestStarted, .rawBodyChunk, .sseComment, .sseTokenEvent, .sseDone,
    .requestTerminal, .clientRequestEnded] StreamEvidenceKind.text

/-- A kind of server event, read by its value. -/
def readServerKind : Json → Option ServerEventKind :=
  readEnum [.requestAccepted, .responseHeadersSent, .sseCommentSent, .sseTokenEventSent,
    .sseMalformedDataSent, .sseDoneSent, .httpErrorSent, .stallStarted, .clientDisconnected,
    .requestHandlerEnded] ServerEventKind.text

theorem reads_phase : Reads readPhase (jsonEnum Stage1Phase.text) :=
  reads_enum fun value => by cases value <;> decide

theorem reads_terminalClass : Reads readTerminalClass (jsonEnum Stage1TerminalClass.text) :=
  reads_enum fun value => by cases value <;> decide

theorem reads_failureKind : Reads readFailureKind (jsonEnum Stage1FailureKind.text) :=
  reads_enum fun value => by cases value <;> decide

theorem reads_origin : Reads readOrigin (jsonEnum FailureOrigin.text) :=
  reads_enum fun value => by cases value <;> decide

theorem reads_streamKind : Reads readStreamKind (jsonEnum StreamEvidenceKind.text) :=
  reads_enum fun value => by cases value <;> decide

theorem reads_serverKind : Reads readServerKind (jsonEnum ServerEventKind.text) :=
  reads_enum fun value => by cases value <;> decide

/-! ## The boundary -/

/-- The fields of `EvidenceBoundary`, each with the one value it takes. -/
def boundaryFields : List (Str × Json) :=
  [(lit "evidence_scope", .str (lit "TEST_FIXTURE_ONLY")), (lit "synthetic_fixture", .bool true),
    (lit "real_runtime_execution", .bool false), (lit "model_execution", .bool false),
    (lit "tokenizer_execution", .bool false), (lit "gpu_execution", .bool false),
    (lit "cuda_execution", .bool false), (lit "performance_claim_allowed", .bool false),
    (lit "historical_authentication_effect", .str (lit "NONE"))]

/-- A value of a `Literal` of a string or of a truth value. -/
def isLiteral : Json → Json → Bool
  | .str text, .str expected => text = expected
  | .bool b, .bool expected => b = expected
  | _, _ => false

/-- `EvidenceBoundary`: a field that is left out has its value. -/
def readBoundary : Json → Option Unit
  | .obj fields =>
    if (∀ f ∈ fields, f.1 ∈ boundaryFields.map (·.1)) ∧
        ∀ f ∈ boundaryFields, ∀ value ∈ fields.lookup f.1, isLiteral value f.2 = true then some ()
    else none
  | _ => none

theorem readBoundary_dump : readBoundary (Json.obj boundaryFields).sortKeys = some () := by
  decide +kernel

theorem boundary_field {fields written : List (Str × Json)}
    (hfields : ∀ name, Json.field fields name = (Json.field written name).map Json.sortKeys)
    (hname : Json.field written "boundary" = some (Json.obj boundaryFields)) :
    (Json.field fields "boundary").bind readBoundary = some () := by
  rw [hfields, hname]
  exact readBoundary_dump

theorem readsShort_boundary [Interpreter] (depth : ℕ) :
    ReadsShort (depth + 1) (.obj boundaryFields) := by
  apply readsShort_obj
  · decide
  · simp only [boundaryFields, List.forall_mem_cons, List.not_mem_nil, false_implies, implies_true,
      and_true]
    exact ⟨readsShort_str _ _, readsShort_bool _ _, readsShort_bool _ _, readsShort_bool _ _,
      readsShort_bool _ _, readsShort_bool _ _, readsShort_bool _ _, readsShort_bool _ _,
      readsShort_str _ _⟩

/-! ## Observations of streams -/

namespace StreamEvidenceRecord

/-- The names of the fields, in the source's order. -/
def names : List String :=
  ["boundary", "sequence", "request_id", "case_id", "phase", "kind", "observation_offset_ns",
    "raw_chunk_sequence", "raw_bytes_base64", "raw_byte_count", "raw_bytes_sha256",
    "sse_event_sequence", "sse_data", "token_delta_count", "terminal_class", "failure_kind"]

/-- The fields of `model_dump`, normalised. -/
def dumpFields (event : StreamEvidenceRecord) : List (Str × Json) :=
  [(lit "boundary", .obj boundaryFields),
    (lit "sequence", jsonNat event.sequence),
    (lit "request_id", .str event.requestId),
    (lit "case_id", .str event.caseId),
    (lit "phase", jsonEnum Stage1Phase.text event.phase),
    (lit "kind", jsonEnum StreamEvidenceKind.text event.kind),
    (lit "observation_offset_ns", jsonNat event.observationOffsetNs),
    (lit "raw_chunk_sequence", jsonOptional jsonNat event.rawChunkSequence),
    (lit "raw_bytes_base64", jsonOptional .str event.rawBytesBase64),
    (lit "raw_byte_count", jsonOptional jsonNat event.rawByteCount),
    (lit "raw_bytes_sha256", jsonOptional .str event.rawBytesSha256),
    (lit "sse_event_sequence", jsonOptional jsonNat event.sseEventSequence),
    (lit "sse_data", jsonOptional .str event.sseData),
    (lit "token_delta_count", jsonOptional jsonNat event.tokenDeltaCount),
    (lit "terminal_class", jsonOptional (jsonEnum Stage1TerminalClass.text) event.terminalClass),
    (lit "failure_kind", jsonOptional (jsonEnum Stage1FailureKind.text) event.failureKind)]

/-- `model_dump`, normalised -/
def dump (event : StreamEvidenceRecord) : Json := .obj event.dumpFields

/-- `model_validate_json`, from the JSON it reads -/
def ofJson (value : Json) : Option StreamEvidenceRecord := do
  let fields ← strictFields names value
  let field := Json.field fields
  (field "boundary").bind readBoundary
  let event : StreamEvidenceRecord :=
    { sequence := ← (field "sequence").bind readNat
      requestId := ← (field "request_id").bind readStr
      caseId := ← (field "case_id").bind readStr
      phase := ← (field "phase").bind readPhase
      kind := ← (field "kind").bind readStreamKind
      observationOffsetNs := ← (field "observation_offset_ns").bind readNat
      rawChunkSequence := ← defaulted readNat (field "raw_chunk_sequence")
      rawBytesBase64 := ← defaulted readStr (field "raw_bytes_base64")
      rawByteCount := ← defaulted readNat (field "raw_byte_count")
      rawBytesSha256 := ← defaulted readStr (field "raw_bytes_sha256")
      sseEventSequence := ← defaulted readNat (field "sse_event_sequence")
      sseData := ← defaulted readStr (field "sse_data")
      tokenDeltaCount := ← defaulted readNat (field "token_delta_count")
      terminalClass := ← defaulted readTerminalClass (field "terminal_class")
      failureKind := ← defaulted readFailureKind (field "failure_kind") }
  event.modelValidate.toOption

theorem ofJson_dump {event : StreamEvidenceRecord} (h : event.modelValidate = .ok event) :
    ofJson event.dump.sortKeys = some event := by
  obtain ⟨fields, hstrict, hfields⟩ := exists_strictFields
    (show event.dumpFields.map (·.1) = names.map lit from rfl) (by decide)
  -- one field after the other, in the order in which the model declares them
  have hsequence : (Json.field fields "sequence").bind readNat = some event.sequence :=
    reads_nat.field hfields rfl
  have hrequest : (Json.field fields "request_id").bind readStr = some event.requestId :=
    reads_str.field hfields rfl
  have hcase : (Json.field fields "case_id").bind readStr = some event.caseId :=
    reads_str.field hfields rfl
  have hphase : (Json.field fields "phase").bind readPhase = some event.phase :=
    reads_phase.field hfields rfl
  have hkind : (Json.field fields "kind").bind readStreamKind = some event.kind :=
    reads_streamKind.field hfields rfl
  have hoffset :
      (Json.field fields "observation_offset_ns").bind readNat = some event.observationOffsetNs :=
    reads_nat.field hfields rfl
  have hchunk :
      defaulted readNat (Json.field fields "raw_chunk_sequence") = some event.rawChunkSequence :=
    reads_nat.defaultedField hfields rfl
  have hraw :
      defaulted readStr (Json.field fields "raw_bytes_base64") = some event.rawBytesBase64 :=
    reads_str.defaultedField hfields rfl
  have hcount : defaulted readNat (Json.field fields "raw_byte_count") = some event.rawByteCount :=
    reads_nat.defaultedField hfields rfl
  have hdigest :
      defaulted readStr (Json.field fields "raw_bytes_sha256") = some event.rawBytesSha256 :=
    reads_str.defaultedField hfields rfl
  have hsse :
      defaulted readNat (Json.field fields "sse_event_sequence") = some event.sseEventSequence :=
    reads_nat.defaultedField hfields rfl
  have hdata : defaulted readStr (Json.field fields "sse_data") = some event.sseData :=
    reads_str.defaultedField hfields rfl
  have hdelta :
      defaulted readNat (Json.field fields "token_delta_count") = some event.tokenDeltaCount :=
    reads_nat.defaultedField hfields rfl
  have hterminal :
      defaulted readTerminalClass (Json.field fields "terminal_class") = some event.terminalClass :=
    reads_terminalClass.defaultedField hfields rfl
  have hfailure :
      defaulted readFailureKind (Json.field fields "failure_kind") = some event.failureKind :=
    reads_failureKind.defaultedField hfields rfl
  -- the fields are read in that order, and the record they make is checked
  exact bind_eq_some_of hstrict <| bind_eq_some_of (boundary_field hfields rfl) <|
    bind_eq_some_of hsequence <| bind_eq_some_of hrequest <| bind_eq_some_of hcase <|
    bind_eq_some_of hphase <| bind_eq_some_of hkind <| bind_eq_some_of hoffset <|
    bind_eq_some_of hchunk <| bind_eq_some_of hraw <| bind_eq_some_of hcount <|
    bind_eq_some_of hdigest <| bind_eq_some_of hsse <| bind_eq_some_of hdata <|
    bind_eq_some_of hdelta <| bind_eq_some_of hterminal <| bind_eq_some_of hfailure <|
    congrArg Except.toOption h


theorem readsShort_dump [Interpreter] (event : StreamEvidenceRecord) :
    ReadsShort 2 event.dump := by
  have hnat : ∀ value : Option ℕ, ReadsShort 1 (jsonOptional jsonNat value) := fun _ =>
    readsShort_optional fun a _ => readsShort_nat _ a
  have hstr : ∀ value : Option Str, ReadsShort 1 (jsonOptional .str value) := fun _ =>
    readsShort_optional fun a _ => readsShort_str _ a
  apply readsShort_obj
  · show (names.map lit).Nodup
    decide
  · simp only [dumpFields, List.forall_mem_cons, List.not_mem_nil, false_implies, implies_true,
      and_true]
    exact ⟨readsShort_boundary _, readsShort_nat _ _, readsShort_str _ _, readsShort_str _ _,
      readsShort_enum _ _ _, readsShort_enum _ _ _, readsShort_nat _ _, hnat _, hstr _, hnat _,
      hstr _, hnat _, hstr _, hnat _, readsShort_optional fun a _ => readsShort_enum _ _ a,
      readsShort_optional fun a _ => readsShort_enum _ _ a⟩

end StreamEvidenceRecord

/-! ## What the server did -/

/-- `ServerEventRecord` -/
structure ServerEventRecord where
  sequence : ℕ
  requestId : Str
  caseId : Str
  kind : ServerEventKind
  observationOffsetNs : ℕ
  actionIndex : Option ℕ
  tokenDeltaCount : Option ℕ
  httpStatus : Option ℕ
deriving DecidableEq

namespace ServerEventRecord

/-- `model_validate`: the types of the fields -/
def modelValidate (event : ServerEventRecord) : Except PyError ServerEventRecord :=
  if ¬ IsIdentifier event.requestId then .error (.validation "request_id")
  else if ¬ IsIdentifier event.caseId then .error (.validation "case_id")
  else if ¬ ∀ status ∈ event.httpStatus, 100 ≤ status ∧ status ≤ 599 then
    .error (.validation "http_status")
  else .ok event

/-- The names of the fields, in the source's order. -/
def names : List String :=
  ["boundary", "sequence", "request_id", "case_id", "kind", "observation_offset_ns",
    "action_index", "token_delta_count", "http_status"]

/-- The fields of `model_dump`, normalised. -/
def dumpFields (event : ServerEventRecord) : List (Str × Json) :=
  [(lit "boundary", .obj boundaryFields),
    (lit "sequence", jsonNat event.sequence),
    (lit "request_id", .str event.requestId),
    (lit "case_id", .str event.caseId),
    (lit "kind", jsonEnum ServerEventKind.text event.kind),
    (lit "observation_offset_ns", jsonNat event.observationOffsetNs),
    (lit "action_index", jsonOptional jsonNat event.actionIndex),
    (lit "token_delta_count", jsonOptional jsonNat event.tokenDeltaCount),
    (lit "http_status", jsonOptional jsonNat event.httpStatus)]

/-- `model_dump`, normalised -/
def dump (event : ServerEventRecord) : Json := .obj event.dumpFields

/-- `model_validate_json`, from the JSON it reads -/
def ofJson (value : Json) : Option ServerEventRecord := do
  let fields ← strictFields names value
  let field := Json.field fields
  (field "boundary").bind readBoundary
  let event : ServerEventRecord :=
    { sequence := ← (field "sequence").bind readNat
      requestId := ← (field "request_id").bind readStr
      caseId := ← (field "case_id").bind readStr
      kind := ← (field "kind").bind readServerKind
      observationOffsetNs := ← (field "observation_offset_ns").bind readNat
      actionIndex := ← defaulted readNat (field "action_index")
      tokenDeltaCount := ← defaulted readNat (field "token_delta_count")
      httpStatus := ← defaulted readNat (field "http_status") }
  event.modelValidate.toOption

theorem ofJson_dump {event : ServerEventRecord} (h : event.modelValidate = .ok event) :
    ofJson event.dump.sortKeys = some event := by
  obtain ⟨fields, hstrict, hfields⟩ := exists_strictFields
    (show event.dumpFields.map (·.1) = names.map lit from rfl) (by decide)
  -- as for an event of the stream, field by field
  have hsequence : (Json.field fields "sequence").bind readNat = some event.sequence :=
    reads_nat.field hfields rfl
  have hrequest : (Json.field fields "request_id").bind readStr = some event.requestId :=
    reads_str.field hfields rfl
  have hcase : (Json.field fields "case_id").bind readStr = some event.caseId :=
    reads_str.field hfields rfl
  have hkind : (Json.field fields "kind").bind readServerKind = some event.kind :=
    reads_serverKind.field hfields rfl
  have hoffset :
      (Json.field fields "observation_offset_ns").bind readNat = some event.observationOffsetNs :=
    reads_nat.field hfields rfl
  have haction : defaulted readNat (Json.field fields "action_index") = some event.actionIndex :=
    reads_nat.defaultedField hfields rfl
  have hdelta :
      defaulted readNat (Json.field fields "token_delta_count") = some event.tokenDeltaCount :=
    reads_nat.defaultedField hfields rfl
  have hstatus : defaulted readNat (Json.field fields "http_status") = some event.httpStatus :=
    reads_nat.defaultedField hfields rfl
  exact bind_eq_some_of hstrict <| bind_eq_some_of (boundary_field hfields rfl) <|
    bind_eq_some_of hsequence <| bind_eq_some_of hrequest <| bind_eq_some_of hcase <|
    bind_eq_some_of hkind <| bind_eq_some_of hoffset <| bind_eq_some_of haction <|
    bind_eq_some_of hdelta <| bind_eq_some_of hstatus <|
    congrArg Except.toOption h


theorem readsShort_dump [Interpreter] (event : ServerEventRecord) :
    ReadsShort 2 event.dump := by
  have hnat : ∀ value : Option ℕ, ReadsShort 1 (jsonOptional jsonNat value) := fun _ =>
    readsShort_optional fun a _ => readsShort_nat _ a
  apply readsShort_obj
  · show (names.map lit).Nodup
    decide
  · simp only [dumpFields, List.forall_mem_cons, List.not_mem_nil, false_implies, implies_true,
      and_true]
    exact ⟨readsShort_boundary _, readsShort_nat _ _, readsShort_str _ _, readsShort_str _ _,
      readsShort_enum _ _ _, readsShort_nat _ _, hnat _, hnat _, hnat _⟩

end ServerEventRecord

/-! ## Requests -/

namespace Stage1TimingRecord

/-- The names of the fields, in the source's order. -/
def names : List String :=
  ["dispatch_offset_ns", "response_headers_offset_ns", "first_response_body_bytes_offset_ns",
    "first_output_token_offset_ns", "last_output_token_offset_ns", "terminal_offset_ns"]

/-- The fields of `model_dump`, normalised. -/
def dumpFields (timing : Stage1TimingRecord) : List (Str × Json) :=
  [(lit "dispatch_offset_ns", jsonNat timing.dispatchOffsetNs),
    (lit "response_headers_offset_ns", jsonOptional jsonNat timing.responseHeadersOffsetNs),
    (lit "first_response_body_bytes_offset_ns",
      jsonOptional jsonNat timing.firstResponseBodyBytesOffsetNs),
    (lit "first_output_token_offset_ns", jsonOptional jsonNat timing.firstOutputTokenOffsetNs),
    (lit "last_output_token_offset_ns", jsonOptional jsonNat timing.lastOutputTokenOffsetNs),
    (lit "terminal_offset_ns", jsonNat timing.terminalOffsetNs)]

/-- `model_dump`, normalised -/
def dump (timing : Stage1TimingRecord) : Json := .obj timing.dumpFields

/-- The fields of a timing record; its validator is run with that of the request. -/
def ofJson (value : Json) : Option Stage1TimingRecord := do
  let fields ← strictFields names value
  let field := Json.field fields
  return { dispatchOffsetNs := ← (field "dispatch_offset_ns").bind readNat
           responseHeadersOffsetNs := ←
             defaulted readNat (field "response_headers_offset_ns")
           firstResponseBodyBytesOffsetNs := ←
             defaulted readNat (field "first_response_body_bytes_offset_ns")
           firstOutputTokenOffsetNs := ←
             defaulted readNat (field "first_output_token_offset_ns")
           lastOutputTokenOffsetNs := ← defaulted readNat (field "last_output_token_offset_ns")
           terminalOffsetNs := ← (field "terminal_offset_ns").bind readNat }

theorem ofJson_dump {timing : Stage1TimingRecord} :
    ofJson timing.dump.sortKeys = some timing := by
  obtain ⟨fields, hstrict, hfields⟩ := exists_strictFields
    (show timing.dumpFields.map (·.1) = names.map lit from rfl) (by decide)
  -- a timing record has no check of its own
  have hdispatch :
      (Json.field fields "dispatch_offset_ns").bind readNat = some timing.dispatchOffsetNs :=
    reads_nat.field hfields rfl
  have hheaders :
      defaulted readNat (Json.field fields "response_headers_offset_ns") =
        some timing.responseHeadersOffsetNs :=
    reads_nat.defaultedField hfields rfl
  have hbody :
      defaulted readNat (Json.field fields "first_response_body_bytes_offset_ns") =
        some timing.firstResponseBodyBytesOffsetNs :=
    reads_nat.defaultedField hfields rfl
  have hfirst :
      defaulted readNat (Json.field fields "first_output_token_offset_ns") =
        some timing.firstOutputTokenOffsetNs :=
    reads_nat.defaultedField hfields rfl
  have hlast :
      defaulted readNat (Json.field fields "last_output_token_offset_ns") =
        some timing.lastOutputTokenOffsetNs :=
    reads_nat.defaultedField hfields rfl
  have hterminal :
      (Json.field fields "terminal_offset_ns").bind readNat = some timing.terminalOffsetNs :=
    reads_nat.field hfields rfl
  exact bind_eq_some_of hstrict <| bind_eq_some_of hdispatch <| bind_eq_some_of hheaders <|
    bind_eq_some_of hbody <| bind_eq_some_of hfirst <| bind_eq_some_of hlast <|
    bind_eq_some_of hterminal <|
    rfl

theorem reads : Reads ofJson dump := fun _ =>
  ⟨ofJson_dump, by simp [dump, Json.sortKeys]⟩

theorem readsShort_dump [Interpreter] (timing : Stage1TimingRecord) :
    ReadsShort 1 timing.dump := by
  have hnat : ∀ value : Option ℕ, ReadsShort 0 (jsonOptional jsonNat value) := fun _ =>
    readsShort_optional fun a _ => readsShort_nat _ a
  apply readsShort_obj
  · show (names.map lit).Nodup
    decide
  · simp only [dumpFields, List.forall_mem_cons, List.not_mem_nil, false_implies, implies_true,
      and_true]
    exact ⟨readsShort_nat _ _, hnat _, hnat _, hnat _, hnat _, readsShort_nat _ _⟩

end Stage1TimingRecord

namespace Stage1TimeoutPolicy

/-- The names of the fields, in the source's order. -/
def names : List String :=
  ["connect_timeout_seconds", "write_timeout_seconds", "pool_timeout_seconds",
    "read_timeout_seconds"]

/-- The fields of `model_dump`, normalised. -/
def dumpFields (policy : Stage1TimeoutPolicy) : List (Str × Json) :=
  [(lit "connect_timeout_seconds", .float policy.connectTimeoutSeconds),
    (lit "write_timeout_seconds", .float policy.writeTimeoutSeconds),
    (lit "pool_timeout_seconds", .float policy.poolTimeoutSeconds),
    (lit "read_timeout_seconds", .float policy.readTimeoutSeconds)]

/-- `model_dump`, normalised -/
def dump (policy : Stage1TimeoutPolicy) : Json := .obj policy.dumpFields

/-- The fields of a timeout policy; its validators are run with those of the request. -/
def ofJson (value : Json) : Option Stage1TimeoutPolicy := do
  let fields ← strictFields names value
  let field := Json.field fields
  return { connectTimeoutSeconds := ← (field "connect_timeout_seconds").bind readFloat
           writeTimeoutSeconds := ← (field "write_timeout_seconds").bind readFloat
           poolTimeoutSeconds := ← (field "pool_timeout_seconds").bind readFloat
           readTimeoutSeconds := ← (field "read_timeout_seconds").bind readFloat }

/-- The finite timeouts. -/
def floats (policy : Stage1TimeoutPolicy) : List ℚ :=
  [policy.connectTimeoutSeconds, policy.writeTimeoutSeconds, policy.poolTimeoutSeconds,
    policy.readTimeoutSeconds].filterMap fun
      | .finite q => some q
      | _ => none

theorem ofJson_dump {policy : Stage1TimeoutPolicy} :
    ofJson policy.dump.sortKeys = some policy := by
  obtain ⟨fields, hstrict, hfields⟩ := exists_strictFields
    (show policy.dumpFields.map (·.1) = names.map lit from rfl) (by decide)
  have hconnect :
      (Json.field fields "connect_timeout_seconds").bind readFloat =
        some policy.connectTimeoutSeconds :=
    reads_float.field hfields rfl
  have hwrite :
      (Json.field fields "write_timeout_seconds").bind readFloat = some policy.writeTimeoutSeconds :=
    reads_float.field hfields rfl
  have hpool :
      (Json.field fields "pool_timeout_seconds").bind readFloat = some policy.poolTimeoutSeconds :=
    reads_float.field hfields rfl
  have hread :
      (Json.field fields "read_timeout_seconds").bind readFloat = some policy.readTimeoutSeconds :=
    reads_float.field hfields rfl
  exact bind_eq_some_of hstrict <| bind_eq_some_of hconnect <| bind_eq_some_of hwrite <|
    bind_eq_some_of hpool <| bind_eq_some_of hread <|
    rfl

theorem reads : Reads ofJson dump := fun _ =>
  ⟨ofJson_dump, by simp [dump, Json.sortKeys]⟩

theorem readsShort_dump [Interpreter] {policy : Stage1TimeoutPolicy} (h : policy.IsPositive)
    (hfloats : ∀ q ∈ policy.floats, Json.FloatReads q) : ReadsShort 1 policy.dump := by
  -- a timeout is finite, and it is one of those that are written
  have hfloat : ∀ x : PyFloat, IsPositiveFloat x = true →
      (∀ q, x = .finite q → q ∈ policy.floats) → ReadsShort 0 (.float x) := by
    intro x hpositive hmem _
    cases x with
    | finite q => exact .float (hfloats q (hmem q rfl))
    | _ => cases hpositive
  have hmem : ∀ x ∈ [policy.connectTimeoutSeconds, policy.writeTimeoutSeconds,
      policy.poolTimeoutSeconds, policy.readTimeoutSeconds],
      ∀ q, x = .finite q → q ∈ policy.floats := by
    rintro x hx q rfl
    exact List.mem_filterMap.mpr ⟨_, hx, rfl⟩
  obtain ⟨hconnect, hwrite, hpool, hread⟩ := h
  apply readsShort_obj
  · show (names.map lit).Nodup
    decide
  · simp only [dumpFields, List.forall_mem_cons, List.not_mem_nil, false_implies, implies_true,
      and_true]
    exact ⟨hfloat _ hconnect (hmem _ (by simp)), hfloat _ hwrite (hmem _ (by simp)),
      hfloat _ hpool (hmem _ (by simp)), hfloat _ hread (hmem _ (by simp))⟩

end Stage1TimeoutPolicy

namespace Stage1FailureRecord

/-- The names of the fields, in the source's order. -/
def names : List String :=
  ["kind", "origin", "error_code", "occurred_offset_ns", "timeout_policy"]

/-- The fields of `model_dump`, normalised. -/
def dumpFields (failure : Stage1FailureRecord) : List (Str × Json) :=
  [(lit "kind", jsonEnum Stage1FailureKind.text failure.kind),
    (lit "origin", jsonEnum FailureOrigin.text failure.origin),
    (lit "error_code", .str failure.errorCode),
    (lit "occurred_offset_ns", jsonNat failure.occurredOffsetNs),
    (lit "timeout_policy", jsonOptional Stage1TimeoutPolicy.dump failure.timeoutPolicy)]

/-- `model_dump`, normalised -/
def dump (failure : Stage1FailureRecord) : Json := .obj failure.dumpFields

/-- The fields of a failure record; its validator is run with that of the request. -/
def ofJson (value : Json) : Option Stage1FailureRecord := do
  let fields ← strictFields names value
  let field := Json.field fields
  return { kind := ← (field "kind").bind readFailureKind
           origin := ← (field "origin").bind readOrigin
           errorCode := ← (field "error_code").bind readStr
           occurredOffsetNs := ← (field "occurred_offset_ns").bind readNat
           timeoutPolicy := ← defaulted Stage1TimeoutPolicy.ofJson (field "timeout_policy") }

theorem ofJson_dump {failure : Stage1FailureRecord} :
    ofJson failure.dump.sortKeys = some failure := by
  obtain ⟨fields, hstrict, hfields⟩ := exists_strictFields
    (show failure.dumpFields.map (·.1) = names.map lit from rfl) (by decide)
  have hkind : (Json.field fields "kind").bind readFailureKind = some failure.kind :=
    reads_failureKind.field hfields rfl
  have horigin : (Json.field fields "origin").bind readOrigin = some failure.origin :=
    reads_origin.field hfields rfl
  have hcode : (Json.field fields "error_code").bind readStr = some failure.errorCode :=
    reads_str.field hfields rfl
  have hoccurred :
      (Json.field fields "occurred_offset_ns").bind readNat = some failure.occurredOffsetNs :=
    reads_nat.field hfields rfl
  have hpolicy :
      defaulted Stage1TimeoutPolicy.ofJson (Json.field fields "timeout_policy") =
        some failure.timeoutPolicy :=
    Stage1TimeoutPolicy.reads.defaultedField hfields rfl
  exact bind_eq_some_of hstrict <| bind_eq_some_of hkind <| bind_eq_some_of horigin <|
    bind_eq_some_of hcode <| bind_eq_some_of hoccurred <| bind_eq_some_of hpolicy <|
    rfl

theorem reads : Reads ofJson dump := fun _ =>
  ⟨ofJson_dump, by simp [dump, Json.sortKeys]⟩

theorem readsShort_dump [Interpreter] (failure : Stage1FailureRecord)
    (hpolicy : ∀ policy ∈ failure.timeoutPolicy, ReadsShort 1 policy.dump) :
    ReadsShort 2 failure.dump := by
  apply readsShort_obj
  · show (names.map lit).Nodup
    decide
  · simp only [dumpFields, List.forall_mem_cons, List.not_mem_nil, false_implies, implies_true,
      and_true]
    exact ⟨readsShort_enum _ _ _, readsShort_enum _ _ _, readsShort_str _ _, readsShort_nat _ _,
      readsShort_optional hpolicy⟩

end Stage1FailureRecord

namespace Stage1RequestRecord

/-- The names of the fields, in the source's order. -/
def names : List String :=
  ["boundary", "request_id", "case_id", "phase", "terminal_class", "http_status", "timing",
    "input_token_count", "output_token_count", "token_count_source", "token_event_delta_counts",
    "token_event_observation_offsets_ns", "per_token_observation_complete", "slo_satisfied",
    "failure"]

/-- The fields of `model_dump`, normalised. -/
def dumpFields (request : Stage1RequestRecord) : List (Str × Json) :=
  [(lit "boundary", .obj boundaryFields),
    (lit "request_id", .str request.requestId),
    (lit "case_id", .str request.caseId),
    (lit "phase", jsonEnum Stage1Phase.text request.phase),
    (lit "terminal_class", jsonEnum Stage1TerminalClass.text request.terminalClass),
    (lit "http_status", jsonOptional jsonNat request.httpStatus),
    (lit "timing", request.timing.dump),
    (lit "input_token_count", jsonNat request.inputTokenCount),
    (lit "output_token_count", jsonNat request.outputTokenCount),
    (lit "token_count_source", .str (lit "FIXTURE_EXACT")),
    (lit "token_event_delta_counts", .arr (request.tokenEventDeltaCounts.map jsonNat)),
    (lit "token_event_observation_offsets_ns",
      .arr (request.tokenEventObservationOffsetsNs.map jsonNat)),
    (lit "per_token_observation_complete", .bool request.perTokenObservationComplete),
    (lit "slo_satisfied", .bool request.sloSatisfied),
    (lit "failure", jsonOptional Stage1FailureRecord.dump request.failure)]

/-- `model_dump`, normalised -/
def dump (request : Stage1RequestRecord) : Json := .obj request.dumpFields

/-- `model_validate_json`, from the JSON it reads -/
def ofJson (value : Json) : Option Stage1RequestRecord := do
  let fields ← strictFields names value
  let field := Json.field fields
  (field "boundary").bind readBoundary
  guard ((field "token_count_source").bind readStr = some (lit "FIXTURE_EXACT"))
  let request : Stage1RequestRecord :=
    { requestId := ← (field "request_id").bind readStr
      caseId := ← (field "case_id").bind readStr
      phase := ← (field "phase").bind readPhase
      terminalClass := ← (field "terminal_class").bind readTerminalClass
      httpStatus := ← (field "http_status").bind (readOptional readNat)
      timing := ← (field "timing").bind Stage1TimingRecord.ofJson
      inputTokenCount := ← (field "input_token_count").bind readNat
      outputTokenCount := ← (field "output_token_count").bind readNat
      tokenEventDeltaCounts := ← (field "token_event_delta_counts").bind (readTuple readNat)
      tokenEventObservationOffsetsNs := ←
        (field "token_event_observation_offsets_ns").bind (readTuple readNat)
      perTokenObservationComplete := ← (field "per_token_observation_complete").bind readBool
      sloSatisfied := ← (field "slo_satisfied").bind readBool
      failure := ← defaulted Stage1FailureRecord.ofJson (field "failure") }
  request.modelValidate.toOption

/-- The timeouts that a failure retains. -/
def floats (request : Stage1RequestRecord) : List ℚ :=
  (request.failure.bind (·.timeoutPolicy)).elim [] Stage1TimeoutPolicy.floats

theorem ofJson_dump {request : Stage1RequestRecord} (h : request.modelValidate = .ok request) :
    ofJson request.dump.sortKeys = some request := by
  obtain ⟨fields, hstrict, hfields⟩ := exists_strictFields
    (show request.dumpFields.map (·.1) = names.map lit from rfl) (by decide)
  -- the declared fields; the source of the token count is a constant
  have hrequest : (Json.field fields "request_id").bind readStr = some request.requestId :=
    reads_str.field hfields rfl
  have hcase : (Json.field fields "case_id").bind readStr = some request.caseId :=
    reads_str.field hfields rfl
  have hphase : (Json.field fields "phase").bind readPhase = some request.phase :=
    reads_phase.field hfields rfl
  have hterminal :
      (Json.field fields "terminal_class").bind readTerminalClass = some request.terminalClass :=
    reads_terminalClass.field hfields rfl
  have hstatus :
      (Json.field fields "http_status").bind (readOptional readNat) = some request.httpStatus :=
    reads_nat.optionalField hfields rfl
  have htiming :
      (Json.field fields "timing").bind Stage1TimingRecord.ofJson = some request.timing :=
    Stage1TimingRecord.reads.field hfields rfl
  have hinput :
      (Json.field fields "input_token_count").bind readNat = some request.inputTokenCount :=
    reads_nat.field hfields rfl
  have houtput :
      (Json.field fields "output_token_count").bind readNat = some request.outputTokenCount :=
    reads_nat.field hfields rfl
  have hsource : (Json.field fields "token_count_source").bind readStr =
      some (lit "FIXTURE_EXACT") := reads_str.field hfields rfl
  have hdeltas :
      (Json.field fields "token_event_delta_counts").bind (readTuple readNat) =
        some request.tokenEventDeltaCounts :=
    reads_nat.tupleField hfields rfl
  have hoffsets :
      (Json.field fields "token_event_observation_offsets_ns").bind (readTuple readNat) =
        some request.tokenEventObservationOffsetsNs :=
    reads_nat.tupleField hfields rfl
  have hcomplete :
      (Json.field fields "per_token_observation_complete").bind readBool =
        some request.perTokenObservationComplete :=
    reads_bool.field hfields rfl
  have hslo : (Json.field fields "slo_satisfied").bind readBool = some request.sloSatisfied :=
    reads_bool.field hfields rfl
  have hfailure :
      defaulted Stage1FailureRecord.ofJson (Json.field fields "failure") = some request.failure :=
    Stage1FailureRecord.reads.defaultedField hfields rfl
  -- the constant is compared, the other fields are read
  exact bind_eq_some_of hstrict <| bind_eq_some_of (boundary_field hfields rfl) <|
    bind_eq_some_of (if_pos hsource) <| bind_eq_some_of hrequest <| bind_eq_some_of hcase <|
    bind_eq_some_of hphase <| bind_eq_some_of hterminal <| bind_eq_some_of hstatus <|
    bind_eq_some_of htiming <| bind_eq_some_of hinput <| bind_eq_some_of houtput <|
    bind_eq_some_of hdeltas <| bind_eq_some_of hoffsets <| bind_eq_some_of hcomplete <|
    bind_eq_some_of hslo <| bind_eq_some_of hfailure <|
    congrArg Except.toOption h


theorem readsShort_dump [Interpreter] (request : Stage1RequestRecord)
    (hfailure : ∀ failure ∈ request.failure, ReadsShort 2 failure.dump) :
    ReadsShort 3 request.dump := by
  have hnat : ∀ value : Option ℕ, ReadsShort 2 (jsonOptional jsonNat value) := fun _ =>
    readsShort_optional fun a _ => readsShort_nat _ a
  have harr : ∀ items : List ℕ, ReadsShort 2 (.arr (items.map jsonNat)) := fun _ =>
    readsShort_arr fun a _ => readsShort_nat _ a
  apply readsShort_obj
  · show (names.map lit).Nodup
    decide
  · simp only [dumpFields, List.forall_mem_cons, List.not_mem_nil, false_implies, implies_true,
      and_true]
    exact ⟨readsShort_boundary _, readsShort_str _ _, readsShort_str _ _, readsShort_enum _ _ _,
      readsShort_enum _ _ _, hnat _, (Stage1TimingRecord.readsShort_dump _).mono (by decide),
      readsShort_nat _ _, readsShort_nat _ _, readsShort_str _ _, harr _, harr _,
      readsShort_bool _ _, readsShort_bool _ _, readsShort_optional hfailure⟩

end Stage1RequestRecord

/-! ## The models -/

/-- The requests, as they are written and read. -/
def requestModel : EvidenceModel Stage1RequestRecord where
  dump := Stage1RequestRecord.dump
  ofJson := Stage1RequestRecord.ofJson
  Valid request := request.modelValidate = .ok request
  floats := Stage1RequestRecord.floats

/-- What was seen of the streams, as it is written and read. -/
def streamEventModel : EvidenceModel StreamEvidenceRecord where
  dump := StreamEvidenceRecord.dump
  ofJson := StreamEvidenceRecord.ofJson
  Valid event := event.modelValidate = .ok event
  floats _ := []

/-- What the server did, as it is written and read. -/
def serverEventModel : EvidenceModel ServerEventRecord where
  dump := ServerEventRecord.dump
  ofJson := ServerEventRecord.ofJson
  Valid event := event.modelValidate = .ok event
  floats _ := []

/-- The timeouts that a valid request retains are positive. -/
theorem Stage1RequestRecord.isPositive_of_modelValidate {request : Stage1RequestRecord}
    (h : request.modelValidate = .ok request) :
    ∀ failure ∈ request.failure, ∀ policy ∈ failure.timeoutPolicy, policy.IsPositive := by
  intro failure hfailure policy hpolicy
  unfold modelValidate at h
  split_ifs at h
  obtain ⟨_, -, h⟩ := bind_eq_ok.mp h
  obtain ⟨_, hcheck, -⟩ := bind_eq_ok.mp h
  rw [hfailure, Option.elim_some, Stage1FailureRecord.check] at hcheck
  split_ifs at hcheck with _ hpositive
  exact hpositive policy hpolicy

section

variable [Interpreter]

theorem lawful_requestModel : requestModel.Lawful where
  reads _ := Stage1RequestRecord.ofJson_dump
  readable request hvalid hshort hfloats := by
    have hpositive := request.isPositive_of_modelValidate hvalid
    refine (Stage1RequestRecord.readsShort_dump request ?_ hshort).mono (by decide)
    refine fun failure hfailure => failure.readsShort_dump fun policy hpolicy => ?_
    refine Stage1TimeoutPolicy.readsShort_dump (hpositive failure hfailure policy hpolicy) ?_
    intro q hq
    apply hfloats
    show q ∈ request.floats
    rw [Stage1RequestRecord.floats, hfailure, Option.bind_some, hpolicy]
    exact hq

theorem lawful_streamEventModel : streamEventModel.Lawful where
  reads _ := StreamEvidenceRecord.ofJson_dump
  readable event _ hshort _ := (event.readsShort_dump hshort).mono (by decide)

theorem lawful_serverEventModel : serverEventModel.Lawful where
  reads _ := ServerEventRecord.ofJson_dump
  readable event _ hshort _ := (event.readsShort_dump hshort).mono (by decide)

/-- **The evidence of a run round-trips**, as far as its integers can be written. -/
theorem evidence_roundTrips :
    RoundTrips requestModel ∧ RoundTrips streamEventModel ∧ RoundTrips serverEventModel :=
  ⟨lawful_requestModel.roundTrips, lawful_streamEventModel.roundTrips,
    lawful_serverEventModel.roundTrips⟩

end

section

attribute [local instance] cpython

/-- A request that timed out, with the timeouts it ran under. -/
def sampleTimedOut : Stage1RequestRecord where
  requestId := lit "r"
  caseId := lit "c"
  phase := .measured
  terminalClass := .timeout
  httpStatus := none
  timing := ⟨0, none, none, none, none, 5⟩
  inputTokenCount := 1
  outputTokenCount := 0
  tokenEventDeltaCounts := []
  tokenEventObservationOffsetsNs := []
  perTokenObservationComplete := true
  sloSatisfied := false
  failure := some ⟨.timeout, .httpClient, lit "READ_TIMEOUT", 5,
    some ⟨.finite 2, .finite 2, .finite 2, .finite 2⟩⟩

/-- The start of a client of the request. -/
def sampleStarted : StreamEvidenceRecord where
  sequence := 0
  requestId := lit "r"
  caseId := lit "c"
  phase := .measured
  kind := .clientRequestStarted
  observationOffsetNs := 0
  rawChunkSequence := none
  rawBytesBase64 := none
  rawByteCount := none
  rawBytesSha256 := none
  sseEventSequence := none
  sseData := none
  tokenDeltaCount := none
  terminalClass := none
  failureKind := none

/-- The server takes the request. -/
def sampleTaken : ServerEventRecord where
  sequence := 0
  requestId := lit "r"
  caseId := lit "c"
  kind := .requestAccepted
  observationOffsetNs := 1
  actionIndex := none
  tokenDeltaCount := none
  httpStatus := none

/-- Each of the three is written and read back. -/
theorem evidence_roundTrips_samples :
    (∃ data, jsonlBytes requestModel [sampleTimedOut] = .ok data ∧
      parseJsonl requestModel data = .ok [sampleTimedOut]) ∧
    (∃ data, jsonlBytes streamEventModel [sampleStarted] = .ok data ∧
      parseJsonl streamEventModel data = .ok [sampleStarted]) ∧
    ∃ data, jsonlBytes serverEventModel [sampleTaken] = .ok data ∧
      parseJsonl serverEventModel data = .ok [sampleTaken] := by
  obtain ⟨hrequests, hstreamEvents, hserverEvents⟩ := evidence_roundTrips
  refine ⟨hrequests.exists_read (by simp) (List.forall_mem_singleton.mpr ⟨?_, ?_, ?_⟩)
    (List.forall_mem_singleton.mpr ?_), hstreamEvents.exists_read (by simp)
    (List.forall_mem_singleton.mpr ⟨?_, ?_, ?_⟩) (List.forall_mem_singleton.mpr ?_),
    hserverEvents.exists_read (by simp) (List.forall_mem_singleton.mpr ⟨?_, ?_, ?_⟩)
    (List.forall_mem_singleton.mpr ?_)⟩
  · show sampleTimedOut.modelValidate = .ok sampleTimedOut
    decide +kernel
  · decide +kernel
  · show ∀ q ∈ [(2 : ℚ), 2, 2, 2], Json.FloatReads q
    simp [PyValue.floatReads_two]
  · decide +kernel
  · show sampleStarted.modelValidate = .ok sampleStarted
    decide +kernel
  · decide +kernel
  · simp [streamEventModel]
  · decide +kernel
  · show sampleTaken.modelValidate = .ok sampleTaken
    decide +kernel
  · decide +kernel
  · simp [serverEventModel]
  · decide +kernel

/-- An event of the server whose place has 4301 digits. -/
def unboundedEvent : ServerEventRecord :=
  { sequence := maxInt
    requestId := lit "r"
    caseId := lit "c"
    kind := .requestAccepted
    observationOffsetNs := 0
    actionIndex := none
    tokenDeltaCount := none
    httpStatus := none }

/-- An integer may be too long to be written. -/
theorem not_roundTrips_unbounded :
    serverEventModel.Valid unboundedEvent ∧ JsonEncodable unboundedEvent.dump ∧
      ¬ Returns (jsonlBytes serverEventModel [unboundedEvent]) := by
  have hvalid : serverEventModel.Valid unboundedEvent := by
    show unboundedEvent.modelValidate = .ok unboundedEvent
    unfold ServerEventRecord.modelValidate
    rw [if_neg (by decide), if_neg (by decide), if_neg (by decide)]
  have hencodable : JsonEncodable unboundedEvent.dump := by
    simp only [ServerEventRecord.dump, ServerEventRecord.dumpFields, boundaryFields, unboundedEvent,
      jsonNat, jsonOptional, jsonEnum, Option.elim_none, JsonEncodable, FieldsEncodable]
    decide
  refine ⟨hvalid, hencodable, fun hreturns => ?_⟩
  have hwritten : ∀ event ∈ [unboundedEvent], serverEventModel.Valid event ∧
      JsonEncodable (serverEventModel.dump event) ∧
        ∀ q ∈ serverEventModel.floats event, Json.FloatReads q :=
    List.forall_mem_singleton.mpr ⟨hvalid, hencodable, by simp [serverEventModel]⟩
  have hshort := (lawful_serverEventModel.roundTrips _ hwritten).1.mp hreturns unboundedEvent
    (List.mem_singleton_self _)
  have hint : (maxInt : ℤ).natAbs < maxInt :=
    natAbs_lt_of_intsShort (fieldsShort_iff.mp hshort (lit "sequence", .int maxInt)
      (.tail _ (.head _)))
  simp at hint

end

end Stage1
