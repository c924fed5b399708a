import LlmInferenceSystems.Stage1.Evidence
import LlmInferenceSystems.Stage1.EvidenceJson
import LlmInferenceSystems.Stage1.Payload

/-!
# Validation across the records of a run

The records of the requests, the evidence of their streams and the events of the server are checked
against each other, and what was read of each body is parsed once more.

## Main definitions

* `replay`: a body is parsed once more from what was read of it
* `validateRawChunks`, `validateRequest`: the checks of one request
* `validateCrossRecords`: the checks of a run

## Main results

* `validateRawChunks_eq_ok`, `validateRequest_eq_ok`: what the checks of a request come to
-/

namespace Stage1

open Python Sse

section

variable [Interpreter]

/-! ## Replaying a body -/

/-- What ends a replay: an exception that is caught, or one that is let through. -/
inductive ReplayError where
  | caught
  | raised (error : PyError)
deriving DecidableEq

/-- `items[key]` -/
def item (items : List (Str × Json)) (key : String) : Option Json :=
  (items.find? fun pair => pair.1 = lit key).map (·.2)

/-- `value["choices"][0]["text"]`, when it is a string. Whatever is subscripted in vain raises a
`KeyError`, an `IndexError` or a `TypeError`. -/
def replayText : Json → Option Str
  | .obj items =>
    match item items "choices" with
    | some (.arr (.obj choice :: _)) =>
      match item choice "text" with
      | some (.str text) => some text
      | _ => none
    | _ => none
  | _ => none

/-- The token shapes that a frame adds. -/
def replayFrame (frame : SSEFrame) : Except ReplayError (List ℕ) :=
  match frame.kind with
  | .comment | .done => .ok []
  | .data =>
    match frame.data with
    | none => .error .caught
    | some data =>
      match jsonLoads data with
      | .error .recursion => .error (.raised .recursion)
      | .error _ => .error .caught
      | .ok value =>
        match replayText value with
        | none => .error .caught
        | some text =>
          match parseOutputTokens text with
          | .error _ => .error .caught
          | .ok tokens => .ok [tokens.length]

/-- The token shapes of frames, up to the first that is refused. -/
def replayFrames : List SSEFrame → Except ReplayError (List ℕ)
  | [] => .ok []
  | frame :: frames =>
    match replayFrame frame with
    | .error error => .error error
    | .ok shapes => (replayFrames frames).map (shapes ++ ·)

/-- The loop over the chunks. -/
def replayChunks : List Bytes → Method IncrementalSSEParser ReplayError (List ℕ)
  | [] => return []
  | raw :: chunks => do
    let frames ← Method.onField id (fun parser _ => parser) (fun _ => .caught)
      (IncrementalSSEParser.feed raw)
    let shapes ← Method.ofExcept (replayFrames frames)
    let more ← replayChunks chunks
    return shapes ++ more

/-- The token shapes of a body, and the parser after it. -/
def replay (decoded : List Bytes) : Except ReplayError (List ℕ) × IncrementalSSEParser :=
  (do
    let shapes ← replayChunks decoded
    Method.onField id (fun parser _ => parser) (fun _ => .caught) IncrementalSSEParser.finalize
    return shapes : Method IncrementalSSEParser ReplayError (List ℕ)) {}

/-- Only the body of a successful response is replayed. -/
def replayOf (httpStatus : Option ℕ) (decoded : List Bytes) :
    Except ReplayError (List ℕ) × IncrementalSSEParser :=
  if ∃ status ∈ httpStatus, 200 ≤ status ∧ status < 300 then replay decoded else (.ok [], {})

/-! ## The raw chunks of a request -/

/-- The raw chunks of a request, in the order of their numbers. -/
def rawChunksOf (request : Stage1RequestRecord) (events : List StreamEvidenceRecord) :
    List StreamEvidenceRecord :=
  sortedBy (fun event => event.rawChunkSequence.elim (-1) Int.ofNat)
    (events.filter fun event => event.requestId = request.requestId ∧ event.kind = .rawBodyChunk)

/-- The octets of a chunk that is intact. -/
def decodeChunk (event : StreamEvidenceRecord) : Except PyError Bytes :=
  match b64decode (event.rawBytesBase64.getD []) with
  | none => .error (.value "raw body Base64 is invalid")
  | some raw =>
    if some raw.length ≠ event.rawByteCount ∨
        some (Interpreter.hexdigest raw) ≠ event.rawBytesSha256 then
      .error (.value "raw body chunk integrity validation failed")
    else .ok raw

/-- The check of the time of the first body octets. -/
def checkFirstBody (request : Stage1RequestRecord) (chunks : List StreamEvidenceRecord) :
    Except PyError Unit :=
  match chunks with
  | first :: _ =>
    if request.timing.firstResponseBodyBytesOffsetNs ≠ some first.observationOffsetNs then
      .error (.value "first-body timing does not match retained raw evidence")
    else .ok ()
  | [] =>
    if request.timing.firstResponseBodyBytesOffsetNs ≠ none then
      .error (.value "first-body timing exists without a raw body chunk")
    else .ok ()

/-- What the replay must come to, by the terminal class. -/
def checkReplay (request : Stage1RequestRecord)
    (replayed : Except ReplayError (List ℕ) × IncrementalSSEParser) : Except PyError Unit :=
  match replayed with
  | (.error (.raised error), _) => .error error
  | (.error .caught, _) =>
    if request.terminalClass = .success then
      .error (.value "successful request raw body does not reconstruct as successful SSE")
    else .ok ()
  | (.ok shapes, parser) =>
    if request.terminalClass = .success then
      if ¬ parser.done then
        .error (.value "successful request raw body does not reconstruct as successful SSE")
      else if shapes ≠ request.tokenEventDeltaCounts then
        .error (.value "raw SSE token shape differs from the request record")
      else .ok ()
    else if ∃ failure ∈ request.failure, failure.kind = .protocolMalformedStream then
      .error (.value "malformed-stream failure is not reproduced from raw body evidence")
    else .ok ()

/-- `_validate_raw_chunks` -/
def validateRawChunks (request : Stage1RequestRecord) (events : List StreamEvidenceRecord) :
    Except PyError Unit :=
  let chunks := rawChunksOf request events
  if chunks.map (·.rawChunkSequence) ≠ (List.range chunks.length).map some then
    .error (.value "raw chunk sequence must be contiguous for each request")
  else do
    let decoded ← collect decodeChunk chunks
    checkFirstBody request chunks
    checkReplay request (replayOf request.httpStatus decoded)

/-! ## The records of a request -/

/-- The evidence of a request. -/
def relatedEvents (request : Stage1RequestRecord) (events : List StreamEvidenceRecord) :
    List StreamEvidenceRecord :=
  events.filter fun event => event.requestId = request.requestId

/-- The evidence of one kind. -/
def eventsOfKind (kind : StreamEvidenceKind) (events : List StreamEvidenceRecord) :
    List StreamEvidenceRecord :=
  events.filter fun event => event.kind = kind

/-- The checks of a request's start, terminal and end. -/
def checkLifecycle (request : Stage1RequestRecord) (related : List StreamEvidenceRecord) :
    Except PyError Unit :=
  match eventsOfKind .clientRequestStarted related, eventsOfKind .clientRequestEnded related,
      eventsOfKind .requestTerminal related with
  | [started], [ended], [terminal] =>
    if ¬ (started.observationOffsetNs ≤ request.timing.dispatchOffsetNs ∧
        request.timing.dispatchOffsetNs ≤ request.timing.terminalOffsetNs ∧
        request.timing.terminalOffsetNs = terminal.observationOffsetNs ∧
        terminal.observationOffsetNs ≤ ended.observationOffsetNs) then
      .error (.value "request lifecycle chronology is impossible")
    else if terminal.terminalClass ≠ some request.terminalClass then
      .error (.value "terminal event and request terminal class differ")
    else .ok ()
  | _, _, _ =>
    .error (.value "each request requires one start, terminal, and end lifecycle event")

/-- The checks of a request's token evidence against its record. -/
def checkTokenEvidence (request : Stage1RequestRecord) (related : List StreamEvidenceRecord) :
    Except PyError Unit :=
  if (eventsOfKind .sseTokenEvent related).map (·.tokenDeltaCount) ≠
      request.tokenEventDeltaCounts.map some then
    .error (.value "token evidence and request token deltas differ")
  else if (eventsOfKind .sseTokenEvent related).map (·.observationOffsetNs) ≠
      request.tokenEventObservationOffsetsNs then
    .error (.value "token evidence and request token observations differ")
  else if (eventsOfKind .sseDone related).length ≠
      if request.terminalClass = .success then 1 else 0 then
    .error (.value "[DONE] evidence does not match terminal semantics")
  else .ok ()

/-- A turn of the loop over the requests. -/
def validateRequest (request : Stage1RequestRecord) (events : List StreamEvidenceRecord) :
    Except PyError Unit := do
  checkLifecycle request (relatedEvents request events)
  checkTokenEvidence request (relatedEvents request events)
  validateRawChunks request events

/-! ## The records of a run -/

/-- `request_by_id.get(request_id)` -/
def requestById (requests : List Stage1RequestRecord) (requestId : Str) :
    Option Stage1RequestRecord :=
  requests.find? fun request => request.requestId = requestId

/-- The checks of one stream event against the requests. -/
def checkStreamEvent (requests : List Stage1RequestRecord) (event : StreamEvidenceRecord) :
    Except PyError Unit :=
  match requestById requests event.requestId with
  | none => .error (.value "stream event references an unknown request")
  | some request =>
    if event.caseId ≠ request.caseId ∨ event.phase ≠ request.phase then
      .error (.value "stream event request identity is inconsistent")
    else .ok ()

/-- The checks of one server event against the requests. -/
def checkServerEvent (requests : List Stage1RequestRecord) (event : ServerEventRecord) :
    Except PyError Unit :=
  match requestById requests event.requestId with
  | none => .error (.value "server event references an unknown request")
  | some request =>
    if event.caseId ≠ request.caseId then
      .error (.value "server event case identity differs from its request")
    else .ok ()

/-- `_validate_cross_records` -/
def validateCrossRecords (workload : Stage1WorkloadDefinition)
    (requests : List Stage1RequestRecord) (streamEvents : List StreamEvidenceRecord)
    (serverEvents : List ServerEventRecord) : Except PyError Unit :=
  if ¬ (requests.map (·.requestId)).Nodup then .error (.value "request IDs must be unique")
  else if requests.map (·.caseId) ≠
      (workload.warmupCase :: workload.measuredCases).map (·.caseId) then
    .error (.value "request order and workload order differ")
  else if (requests.head?.map (·.phase)) ≠ some .warmup ∨
      ∃ request ∈ requests.tail, request.phase ≠ .measured then
    .error (.value "warmup/measured request phases are incorrect")
  else if requests.length ≠ 9 then
    .error (.value "Stage 1 bundle must retain one warmup and eight measured requests")
  else do
    each (checkStreamEvent requests) streamEvents
    let _ ← deriveObservedMaxClientConcurrency streamEvents
    each (fun request => validateRequest request streamEvents) requests
    if serverEvents.map (·.sequence) ≠ List.range serverEvents.length then
      .error (.value "server event sequence must be contiguous")
    else each (checkServerEvent requests) serverEvents

/-! ## What the checks of a request come to -/

variable {request : Stage1RequestRecord} {events related : List StreamEvidenceRecord}

omit [Interpreter] in
/-- One check after another. -/
theorem seq_eq_ok {check : Except PyError Unit} {checks : Except PyError Unit} :
    (check >>= fun _ => checks) = .ok () ↔ check = .ok () ∧ checks = .ok () := by
  rw [bind_eq_ok]
  exact ⟨fun ⟨_, hcheck, hchecks⟩ => ⟨hcheck, hchecks⟩, fun h => ⟨(), h⟩⟩

/-- What the replay of an accepted request came to. -/
structure ReplayAccepted (request : Stage1RequestRecord)
    (replayed : Except ReplayError (List ℕ) × IncrementalSSEParser) : Prop where
  notRaised : ∀ error, replayed.1 ≠ .error (.raised error)
  success : request.terminalClass = .success →
    replayed.1 = .ok request.tokenEventDeltaCounts ∧ replayed.2.done = true
  malformed : request.terminalClass ≠ .success →
    (∃ failure ∈ request.failure, failure.kind = .protocolMalformedStream) →
    replayed.1 = .error .caught

omit [Interpreter] in
theorem checkReplay_eq_ok {replayed : Except ReplayError (List ℕ) × IncrementalSSEParser} :
    checkReplay request replayed = .ok () ↔ ReplayAccepted request replayed := by
  obtain ⟨result, parser⟩ := replayed
  constructor
  · intro h
    -- each branch of the check, from the first on
    unfold checkReplay at h
    split at h
    · cases h
    · next heq =>
      obtain ⟨rfl, -⟩ := Prod.mk.inj heq
      split at h
      · cases h
      · next hclass =>
        exact ⟨by simp, fun hsuccess => absurd hsuccess hclass, fun _ _ => rfl⟩
    · next shapes parser' heq =>
      obtain ⟨rfl, rfl⟩ := Prod.mk.inj heq
      -- the replay read every frame, so the class of the request says what is compared
      split at h
      · next hclass =>
        split_ifs at h with hdone hshapes
        refine ⟨by simp, fun _ => ⟨?_, hdone⟩, fun hne _ => absurd hclass hne⟩
        exact congrArg Except.ok (not_not.mp hshapes)
      · next hclass =>
        split_ifs at h with hmalformed
        exact ⟨by simp, fun hsuccess => absurd hsuccess hclass,
          fun _ hfailure => absurd hfailure hmalformed⟩
  -- and from the three conditions back to the branch that is taken
  · rintro ⟨hraised, hsuccess, hmalformed⟩
    unfold checkReplay
    split
    · next error _ heq =>
      obtain ⟨rfl, -⟩ := Prod.mk.inj heq
      exact absurd rfl (hraised error)
    · next heq =>
      obtain ⟨rfl, -⟩ := Prod.mk.inj heq
      rw [if_neg]
      intro hclass
      cases (hsuccess hclass).1
    · next shapes parser' heq =>
      obtain ⟨rfl, rfl⟩ := Prod.mk.inj heq
      by_cases hclass : request.terminalClass = .success
      · obtain ⟨hshapes, hdone⟩ := hsuccess hclass
        rw [if_pos hclass, if_neg (not_not.mpr hdone),
          if_neg (not_not.mpr (Except.ok.inj hshapes))]
      · rw [if_neg hclass, if_neg]
        intro hfailure
        cases hmalformed hclass hfailure

omit [Interpreter] in
theorem checkFirstBody_eq_ok {chunks : List StreamEvidenceRecord} :
    checkFirstBody request chunks = .ok () ↔
      request.timing.firstResponseBodyBytesOffsetNs =
        chunks.head?.map (·.observationOffsetNs) := by
  unfold checkFirstBody
  cases chunks <;> simp

theorem decodeChunk_eq_ok {event : StreamEvidenceRecord} {raw : Bytes} :
    decodeChunk event = .ok raw ↔
      b64decode (event.rawBytesBase64.getD []) = some raw ∧ event.rawByteCount = some raw.length ∧
        event.rawBytesSha256 = some (Interpreter.hexdigest raw) := by
  unfold decodeChunk
  -- octets that do not decode have no chunk
  cases hdecode : b64decode (event.rawBytesBase64.getD []) with
  | none => simp
  | some data =>
    dsimp only
    by_cases hintact : event.rawByteCount = some data.length ∧
        event.rawBytesSha256 = some (Interpreter.hexdigest data)
    -- the count and the digest are those of the octets
    · obtain ⟨hcount, hdigest⟩ := hintact
      rw [if_neg (by simp [hcount, hdigest])]
      constructor
      · intro h
        obtain rfl := Except.ok.inj h
        exact ⟨rfl, hcount, hdigest⟩
      · rintro ⟨h, -, -⟩
        exact congrArg Except.ok (Option.some.inj h)
    -- one of them differs, which is reported before anything else
    · rw [if_pos]
      · constructor
        · intro h
          cases h
        · rintro ⟨h, hcount, hdigest⟩
          obtain rfl := Option.some.inj h
          exact absurd ⟨hcount, hdigest⟩ hintact
      · by_contra hnot
        push Not at hnot
        exact hintact ⟨hnot.1.symm, hnot.2.symm⟩

/-- What the raw chunks of a request come to. -/
theorem validateRawChunks_eq_ok : validateRawChunks request events = .ok () ↔
    (rawChunksOf request events).map (·.rawChunkSequence) =
        (List.range (rawChunksOf request events).length).map some ∧
      ∃ decoded, List.Forall₂ (fun event raw => decodeChunk event = .ok raw)
          (rawChunksOf request events) decoded ∧
        request.timing.firstResponseBodyBytesOffsetNs =
          (rawChunksOf request events).head?.map (·.observationOffsetNs) ∧
        ReplayAccepted request (replayOf request.httpStatus decoded) := by
  unfold validateRawChunks
  dsimp only
  by_cases hsequence : (rawChunksOf request events).map (·.rawChunkSequence) =
      (List.range (rawChunksOf request events).length).map some
  · rw [if_neg (not_not.mpr hsequence), bind_eq_ok]
    simp only [hsequence, true_and, collect_eq_ok]
    refine exists_congr fun decoded => and_congr_right fun _ => ?_
    rw [seq_eq_ok, checkFirstBody_eq_ok, checkReplay_eq_ok]
  · rw [if_pos hsequence]
    exact iff_of_false (by simp) fun h => hsequence h.1

/-- The life of a request, as its evidence tells it. -/
structure LifecycleAccepted (request : Stage1RequestRecord)
    (started ended terminal : StreamEvidenceRecord) : Prop where
  startedBefore : started.observationOffsetNs ≤ request.timing.dispatchOffsetNs
  interval : request.timing.dispatchOffsetNs ≤ request.timing.terminalOffsetNs
  terminalOffset : request.timing.terminalOffsetNs = terminal.observationOffsetNs
  endedAfter : terminal.observationOffsetNs ≤ ended.observationOffsetNs
  terminalClass : terminal.terminalClass = some request.terminalClass

omit [Interpreter] in
theorem checkLifecycle_eq_ok : checkLifecycle request related = .ok () ↔
    ∃ started ended terminal, eventsOfKind .clientRequestStarted related = [started] ∧
      eventsOfKind .clientRequestEnded related = [ended] ∧
      eventsOfKind .requestTerminal related = [terminal] ∧
      LifecycleAccepted request started ended terminal := by
  constructor
  · intro h
    unfold checkLifecycle at h
    split at h
    · next started ended terminal hstarted hended hterminal =>
      split_ifs at h with hchronology hclass
      obtain ⟨h₁, h₂, h₃, h₄⟩ := hchronology
      exact ⟨started, ended, terminal, hstarted, hended, hterminal,
        h₁, h₂, h₃, h₄, not_not.mp hclass⟩
    · cases h
  · rintro ⟨started, ended, terminal, hstarted, hended, hterminal, h⟩
    unfold checkLifecycle
    rw [hstarted, hended, hterminal]
    dsimp only
    rw [if_neg (not_not.mpr ⟨h.startedBefore, h.interval, h.terminalOffset, h.endedAfter⟩),
      if_neg (not_not.mpr h.terminalClass)]

omit [Interpreter] in
theorem checkTokenEvidence_eq_ok : checkTokenEvidence request related = .ok () ↔
    (eventsOfKind .sseTokenEvent related).map (·.tokenDeltaCount) =
        request.tokenEventDeltaCounts.map some ∧
      (eventsOfKind .sseTokenEvent related).map (·.observationOffsetNs) =
        request.tokenEventObservationOffsetsNs ∧
      (eventsOfKind .sseDone related).length =
        if request.terminalClass = .success then 1 else 0 := by
  have hguard : ∀ {c : Prop} [Decidable c] {error : PyError} {check : Except PyError Unit},
      (if c then .error error else check) = .ok () ↔ ¬ c ∧ check = .ok () := by
    intro c _ error check
    by_cases hc : c <;> simp [hc]
  unfold checkTokenEvidence
  rw [hguard, hguard, hguard, not_not, not_not, not_not, and_iff_left rfl]

theorem validateRequest_eq_ok : validateRequest request events = .ok () ↔
    checkLifecycle request (relatedEvents request events) = .ok () ∧
      checkTokenEvidence request (relatedEvents request events) = .ok () ∧
      validateRawChunks request events = .ok () := by
  unfold validateRequest
  rw [seq_eq_ok, seq_eq_ok]

end

end Stage1
