import Mathlib.Data.Int.ConditionallyCompleteOrder
import Mathlib.Order.Monotone.Basic
import LlmInferenceSystems.Stage1.Streaming

/-!
# What a request retains

While the body of a request is read, its evidence is the chunks read so far and the frames accepted
so far, and the variables of the request agree with it.

## Main definitions

* `SseEvidence`, `frameEvidence`, `acceptFrames`: the evidence of a frame, and of the frames of a
  chunk up to the first that is refused
* `Running`: the state of a request that has read some chunks and accepted some frames

## Main results

* `recordRawChunk_running`, `recordFrames_running`: what reading a chunk does to it
-/

namespace Stage1

open Python Sse

/-! ## Evidence -/

/-- The evidence of a frame: what the semantic fingerprint sees of it, and its data. -/
structure SseEvidence where
  kind : StreamEvidenceKind
  data : Option Str
  tokenDeltaCount : Option ℕ
deriving DecidableEq

/-- What an SSE event says apart from its place and time. -/
def StreamEvidenceRecord.sseEvidence (event : StreamEvidenceRecord) : SseEvidence where
  kind := event.kind
  data := event.sseData
  tokenDeltaCount := event.tokenDeltaCount

/-- What is retained of a raw chunk. -/
structure RawEvidence where
  sequence : Option ℕ
  base64 : Option Str
  byteCount : Option ℕ
  sha256 : Option Str
deriving DecidableEq

/-- What a raw chunk says apart from its place and time. -/
def StreamEvidenceRecord.rawEvidence (event : StreamEvidenceRecord) : RawEvidence where
  sequence := event.rawChunkSequence
  base64 := event.rawBytesBase64
  byteCount := event.rawByteCount
  sha256 := event.rawBytesSha256

/-- The raw chunks among events. -/
def rawChunkEvents (events : List StreamEvidenceRecord) : List StreamEvidenceRecord :=
  events.filter (·.kind = .rawBodyChunk)

/-- The SSE events among events. -/
def sseEvents (events : List StreamEvidenceRecord) : List StreamEvidenceRecord :=
  events.filter (·.kind.isSse)

/-- The token events among events. -/
def tokenEvents (events : List StreamEvidenceRecord) : List StreamEvidenceRecord :=
  events.filter (·.kind = .sseTokenEvent)

section

variable [Interpreter]

/-- The evidence of a raw chunk. -/
def rawChunkEvidence (sequence : ℕ) (rawChunk : Bytes) : RawEvidence where
  sequence := some sequence
  base64 := some (b64encode rawChunk)
  byteCount := some rawChunk.length
  sha256 := some (Interpreter.hexdigest rawChunk)

/-- The evidence of a frame, unless its payload is refused. -/
def frameEvidence (frame : SSEFrame) : Except RequestError SseEvidence :=
  match frame.kind with
  | .comment => .ok ⟨.sseComment, commentData frame.comments, none⟩
  | .done => .ok ⟨.sseDone, some (lit "[DONE]"), none⟩
  | .data => (tokenCount frame).map fun count => ⟨.sseTokenEvent, frame.data, some count⟩

/-- The evidence of some frames up to the first that is refused, and why it is. -/
def acceptFrames : List SSEFrame → List SseEvidence × Option RequestError
  | [] => ([], none)
  | frame :: frames =>
    match frameEvidence frame with
    | .error error => ([], some error)
    | .ok evidence => (evidence :: (acceptFrames frames).1, (acceptFrames frames).2)

/-- Frames after others are accepted when all of those are. -/
theorem acceptFrames_append (frames more : List SSEFrame) :
    acceptFrames (frames ++ more) =
      match (acceptFrames frames).2 with
      | some error => ((acceptFrames frames).1, some error)
      | none => ((acceptFrames frames).1 ++ (acceptFrames more).1, (acceptFrames more).2) := by
  induction frames with
  | nil => rfl
  | cons frame frames ih =>
    simp only [List.cons_append, acceptFrames]
    cases frameEvidence frame with
    | error error => rfl
    | ok evidence =>
      simp only [ih]
      cases (acceptFrames frames).2 <;> rfl

/-- The frames up to the first that is refused. -/
theorem exists_refused {frames : List SSEFrame} {error : RequestError}
    (h : (acceptFrames frames).2 = some error) : ∃ accepted frame rest,
      frames = accepted ++ frame :: rest ∧ (acceptFrames accepted).2 = none ∧
      (acceptFrames frames).1 = (acceptFrames accepted).1 ∧
      frameEvidence frame = .error error := by
  induction frames with
  | nil => cases h
  | cons frame frames ih =>
    cases hevidence : frameEvidence frame with
    | error error' =>
      simp only [acceptFrames, hevidence] at h
      obtain rfl := Option.some.inj h
      exact ⟨[], frame, frames, rfl, rfl, by simp only [acceptFrames, hevidence], hevidence⟩
    | ok evidence =>
      simp only [acceptFrames, hevidence] at h
      obtain ⟨accepted, frame', rest, rfl, haccept, hfirst, herror⟩ := ih h
      refine ⟨frame :: accepted, frame', rest, rfl, ?_, ?_, herror⟩
      · simpa only [acceptFrames, hevidence] using haccept
      · simp only [acceptFrames, hevidence, hfirst]

end

/-! ## The state of a request -/

/-- The offsets the variables hold, in the order they were read in. -/
def RequestState.offsets (s : RequestState) : List ℤ :=
  s.responseHeadersOffset.toList ++ s.firstBodyOffset.toList ++ s.tokenEventOffsets

/-- The offsets were read one after the other. -/
structure Timed (clock : ℕ → ℤ) (dispatchOffset : ℤ) (s : RequestState) : Prop where
  ordered : (dispatchOffset :: s.offsets).Pairwise (· ≤ ·)
  past : ∀ offset ∈ dispatchOffset :: s.offsets, offset ≤ s.nextOffset clock
  firstToken : s.firstTokenOffset = s.tokenEventOffsets.head?
  lastToken : s.lastTokenOffset = s.tokenEventOffsets.getLast?
  bodyFirst : s.firstBodyOffset = none → s.tokenEventOffsets = []

/-- An event of the request's own, recorded while its body is read. -/
structure OwnEvidence (request : StreamingRequest) (event : StreamEvidenceRecord) : Prop where
  requestId : event.requestId = request.requestId
  caseId : event.caseId = request.case.caseId
  phase : event.phase = request.phase
  kind : event.kind = .rawBodyChunk ∨ event.kind.isSse = true

/-- The evidence is what the variables say. -/
structure Retained [Interpreter] (request : StreamingRequest) (rawChunks : List Bytes)
    (evidence : List SseEvidence) (events : List StreamEvidenceRecord) (s : RequestState) :
    Prop where
  own : ∀ event ∈ events, OwnEvidence request event
  raw : (rawChunkEvents events).map (·.rawEvidence) = rawChunks.mapIdx rawChunkEvidence
  firstBody : (rawChunkEvents events).head?.map (fun event => (event.observationOffsetNs : ℤ)) =
    s.firstBodyOffset
  sse : (sseEvents events).map (·.sseEvidence) = evidence
  tokenOffsets : (tokenEvents events).map (fun event => (event.observationOffsetNs : ℤ)) =
    s.tokenEventOffsets
  tokenCounts : (tokenEvents events).map (·.tokenDeltaCount) = s.tokenDeltas.map some
  tokenDeltas : s.tokenDeltas = evidence.filterMap (·.tokenDeltaCount)
  positive : ∀ delta ∈ s.tokenDeltas, 0 < delta
  rawChunkSequence : s.rawChunkSequence = rawChunks.length

/-- The clock does not run backwards, and the request has identifiers. -/
structure Prepared (clock : ℕ → ℤ) (request : StreamingRequest) (runOriginNs : ℤ) : Prop where
  monotone : Monotone clock
  origin : runOriginNs ≤ clock 0
  requestId : IsIdentifier request.requestId
  caseId : IsIdentifier request.case.caseId

/-- A request that was dispatched with `before` as evidence, and has read some chunks and accepted
some frames. -/
structure Running [Interpreter] (clock : ℕ → ℤ) (request : StreamingRequest) (runOriginNs : ℤ)
    (before : List StreamEvidenceRecord) (rawChunks : List Bytes) (evidence : List SseEvidence)
    (events : List StreamEvidenceRecord) (s : RequestState) : Prop where
  origin : s.collector.runOriginNs = runOriginNs
  streamEvents : s.collector.streamEvents = before ++ events
  timed : Timed clock (clock 0 - runOriginNs) s
  retained : Retained request rawChunks evidence events s

section

variable {clock : ℕ → ℤ} {request : StreamingRequest} {runOriginNs dispatchOffset : ℤ}
  {before events : List StreamEvidenceRecord} {rawChunks : List Bytes}
  {evidence : List SseEvidence} {s s' : RequestState}

/-- The next reading of the clock is no earlier than the start of the run. -/
theorem Prepared.nextOffset_nonneg (h : Prepared clock request runOriginNs)
    (horigin : s.collector.runOriginNs = runOriginNs) : 0 ≤ s.nextOffset clock := by
  have hclock := h.monotone (Nat.zero_le s.clockReads)
  have := h.origin
  rw [RequestState.nextOffset, EvidenceCollector.offsetNs, horigin]
  omega

/-- The clock was read once more. -/
theorem Prepared.nextOffset_le (h : Prepared clock request runOriginNs)
    (horigin : s'.collector.runOriginNs = s.collector.runOriginNs)
    (hreads : s'.clockReads = s.clockReads + 1) : s.nextOffset clock ≤ s'.nextOffset clock := by
  have := h.monotone (Nat.le_add_right s.clockReads 1)
  rw [RequestState.nextOffset, RequestState.nextOffset, EvidenceCollector.offsetNs,
    EvidenceCollector.offsetNs, horigin, hreads]
  omega

/-- An offset that was just read comes after all others. -/
theorem Timed.append (h : Timed clock dispatchOffset s)
    (hoffsets : s'.offsets = s.offsets ++ [s.nextOffset clock])
    (hnext : s.nextOffset clock ≤ s'.nextOffset clock) :
    (dispatchOffset :: s'.offsets).Pairwise (· ≤ ·) ∧
      ∀ offset ∈ dispatchOffset :: s'.offsets, offset ≤ s'.nextOffset clock := by
  rw [hoffsets, ← List.cons_append]
  constructor
  · refine List.pairwise_append.mpr ⟨h.ordered, List.pairwise_singleton _ _, ?_⟩
    intro offset hoffset last hlast
    rw [List.mem_singleton.mp hlast]
    exact h.past offset hoffset
  · intro offset hoffset
    rcases List.mem_append.mp hoffset with hoffset | hoffset
    · exact (h.past offset hoffset).trans hnext
    · exact (List.mem_singleton.mp hoffset).trans_le hnext

/-- A reading that is not kept. -/
theorem Timed.same (h : Timed clock dispatchOffset s) (hoffsets : s'.offsets = s.offsets)
    (hnext : s.nextOffset clock ≤ s'.nextOffset clock) :
    (dispatchOffset :: s'.offsets).Pairwise (· ≤ ·) ∧
      ∀ offset ∈ dispatchOffset :: s'.offsets, offset ≤ s'.nextOffset clock := by
  rw [hoffsets]
  exact ⟨h.ordered, fun offset hoffset => (h.past offset hoffset).trans hnext⟩

/-- The first body offset is set at the first chunk. -/
theorem Timed.rawChunk (h : Timed clock dispatchOffset s)
    (hnext : s.nextOffset clock ≤ s'.nextOffset clock)
    (hheaders : s'.responseHeadersOffset = s.responseHeadersOffset)
    (hbody : s'.firstBodyOffset = s.firstBodyOffset.or (some (s.nextOffset clock)))
    (htokens : s'.tokenEventOffsets = s.tokenEventOffsets)
    (hfirst : s'.firstTokenOffset = s.firstTokenOffset)
    (hlast : s'.lastTokenOffset = s.lastTokenOffset) : Timed clock dispatchOffset s' := by
  have htimes : (dispatchOffset :: s'.offsets).Pairwise (· ≤ ·) ∧
      ∀ offset ∈ dispatchOffset :: s'.offsets, offset ≤ s'.nextOffset clock := by
    cases hs : s.firstBodyOffset with
    | none =>
      apply h.append _ hnext
      simp [RequestState.offsets, hheaders, hbody, htokens, hs, h.bodyFirst hs]
    | some offset =>
      apply h.same _ hnext
      simp [RequestState.offsets, hheaders, hbody, htokens, hs]
  refine ⟨htimes.1, htimes.2, ?_, ?_, ?_⟩
  · rw [hfirst, htokens, h.firstToken]
  · rw [hlast, htokens, h.lastToken]
  · intro hnone
    rw [hbody] at hnone
    cases hs : s.firstBodyOffset <;> simp [hs] at hnone

/-- The offset of a token event is kept. -/
theorem Timed.token (h : Timed clock dispatchOffset s)
    (hnext : s.nextOffset clock ≤ s'.nextOffset clock) (hread : s.firstBodyOffset ≠ none)
    (hheaders : s'.responseHeadersOffset = s.responseHeadersOffset)
    (hbody : s'.firstBodyOffset = s.firstBodyOffset)
    (htokens : s'.tokenEventOffsets = s.tokenEventOffsets ++ [s.nextOffset clock])
    (hfirst : s'.firstTokenOffset = s.firstTokenOffset.or (some (s.nextOffset clock)))
    (hlast : s'.lastTokenOffset = some (s.nextOffset clock)) : Timed clock dispatchOffset s' := by
  have htimes := @Timed.append _ _ _ s' h
    (by simp [RequestState.offsets, hheaders, hbody, htokens]) hnext
  refine ⟨htimes.1, htimes.2, ?_, ?_, ?_⟩
  · rw [hfirst, htokens, h.firstToken, List.head?_append]
    rfl
  · rw [hlast, htokens, List.getLast?_concat]
  · intro hnone
    exact absurd (hbody ▸ hnone) hread

theorem forall_mem_concat {p : StreamEvidenceRecord → Prop} {event : StreamEvidenceRecord}
    (h : ∀ e ∈ events, p e) (hevent : p event) : ∀ e ∈ events ++ [event], p e := by
  intro e he
  rcases List.mem_append.mp he with he | he
  · exact h e he
  · rwa [List.mem_singleton.mp he]

variable [Interpreter]

/-- A raw chunk more. -/
theorem Retained.rawChunk (h : Retained request rawChunks evidence events s)
    {event : StreamEvidenceRecord} (hown : OwnEvidence request event)
    (hkind : event.kind = .rawBodyChunk) {rawChunk : Bytes}
    (hraw : event.rawEvidence = rawChunkEvidence rawChunks.length rawChunk)
    (hbody : s'.firstBodyOffset = s.firstBodyOffset.or (some (event.observationOffsetNs : ℤ)))
    (htokens : s'.tokenEventOffsets = s.tokenEventOffsets)
    (hdeltas : s'.tokenDeltas = s.tokenDeltas)
    (hsequence : s'.rawChunkSequence = s.rawChunkSequence + 1) :
    Retained request (rawChunks ++ [rawChunk]) evidence (events ++ [event]) s' := by
  have hchunks : rawChunkEvents (events ++ [event]) = rawChunkEvents events ++ [event] := by
    simp [rawChunkEvents, hkind]
  have hsse : sseEvents (events ++ [event]) = sseEvents events := by
    simp [sseEvents, hkind, StreamEvidenceKind.isSse]
  have htoken : tokenEvents (events ++ [event]) = tokenEvents events := by
    simp [tokenEvents, hkind]
  refine ⟨forall_mem_concat h.own hown, ?_, ?_, ?_, ?_, ?_, ?_, ?_, ?_⟩
  · rw [hchunks, List.map_append, h.raw, List.map_singleton, hraw, List.mapIdx_concat]
  · rw [hchunks, hbody, ← h.firstBody, List.head?_append]
    cases (rawChunkEvents events).head? <;> rfl
  · rw [hsse, h.sse]
  · rw [htoken, h.tokenOffsets, htokens]
  · rw [htoken, h.tokenCounts, hdeltas]
  · rw [hdeltas, h.tokenDeltas]
  · rw [hdeltas]
    exact h.positive
  · rw [hsequence, h.rawChunkSequence, List.length_append, List.length_singleton]

/-- A frame more: a token event adds its count and its offset. -/
theorem Retained.sseEvent (h : Retained request rawChunks evidence events s)
    {event : StreamEvidenceRecord} (hown : OwnEvidence request event)
    (hkind : event.kind.isSse = true) (hbody : s'.firstBodyOffset = s.firstBodyOffset)
    (hcount : event.kind = .sseTokenEvent ↔ event.tokenDeltaCount ≠ none)
    (hpositive : ∀ delta ∈ event.tokenDeltaCount, 0 < delta)
    (htokens : s'.tokenEventOffsets = s.tokenEventOffsets ++
      if event.kind = .sseTokenEvent then [(event.observationOffsetNs : ℤ)] else [])
    (hdeltas : s'.tokenDeltas = s.tokenDeltas ++ event.tokenDeltaCount.toList)
    (hsequence : s'.rawChunkSequence = s.rawChunkSequence) :
    Retained request rawChunks (evidence ++ [event.sseEvidence]) (events ++ [event]) s' := by
  -- the event is no raw chunk, so the chunks that were received stay
  have hchunks : rawChunkEvents (events ++ [event]) = rawChunkEvents events := by
    have hne : event.kind ≠ .rawBodyChunk := by
      intro hraw
      rw [hraw] at hkind
      cases hkind
    simp [rawChunkEvents, hne]
  have hsse : sseEvents (events ++ [event]) = sseEvents events ++ [event] := by
    simp [sseEvents, hkind]
  refine ⟨forall_mem_concat h.own hown, ?_, ?_, ?_, ?_, ?_, ?_, ?_, ?_⟩
  -- the raw chunks and the first octets are as before
  · rw [hchunks, h.raw]
  · rw [hchunks, h.firstBody, hbody]
  -- the SSE evidence and the two lists of the token events grow by this event
  · rw [hsse, List.map_append, h.sse, List.map_singleton]
  · rw [htokens, ← h.tokenOffsets, tokenEvents, List.filter_append, List.map_append]
    by_cases htoken : event.kind = .sseTokenEvent <;> simp [tokenEvents, htoken]
  · rw [hdeltas, List.map_append, ← h.tokenCounts, tokenEvents, List.filter_append, List.map_append]
    cases hdelta : event.tokenDeltaCount with
    | none =>
      -- an event without a count is no token event
      have htoken : event.kind ≠ .sseTokenEvent := fun htoken => hcount.mp htoken hdelta
      simp [tokenEvents, htoken]
    | some delta =>
      have htoken : event.kind = .sseTokenEvent := hcount.mpr (by simp [hdelta])
      simp [tokenEvents, htoken, hdelta]
  · rw [hdeltas, h.tokenDeltas, List.filterMap_append]
    cases hdelta : event.tokenDeltaCount <;>
      simp [StreamEvidenceRecord.sseEvidence, hdelta]
  -- the counts stay positive
  · intro delta hdelta
    rw [hdeltas] at hdelta
    rcases List.mem_append.mp hdelta with hdelta | hdelta
    · exact h.positive delta hdelta
    · exact hpositive delta (Option.mem_toList.mp hdelta)
  · rw [hsequence, h.rawChunkSequence]

/-! ## Recording -/

/-- The state with one more event. -/
def RequestState.retain (s : RequestState) (event : StreamEvidenceRecord) : RequestState :=
  { s with
    collector := { s.collector with streamEvents := s.collector.streamEvents ++ [event] } }

/-- A valid observation is recorded. -/
theorem recordEvent_of_valid {observation : StreamObservation} {offset : ℤ}
    (hoffset : observation.observationOffsetNs = some offset) (hpast : 0 ≤ offset)
    {event : StreamEvidenceRecord}
    (hevent : event = observation.event s.collector.streamEvents.length offset.toNat)
    (hvalid : event.modelValidate = .ok event) :
    recordEvent clock observation s = (.ok (), s.retain event) := by
  have hrecord := @recordStreamEvent_of_valid _ _ (clock s.clockReads) _ _
    (by rw [hoffset]; rfl) hpast _ hevent.symm hvalid
  rw [recordEvent, hrecord]
  rfl

/-- A chunk is recorded. -/
theorem recordRawChunk_running (hprepared : Prepared clock request runOriginNs)
    (h : Running clock request runOriginNs before rawChunks evidence events s)
    (rawChunk : Bytes) :
    ∃ s' events', recordRawChunk clock request rawChunk s = (.ok (), s') ∧
      Running clock request runOriginNs before (rawChunks ++ [rawChunk]) evidence events' s' ∧
      s'.parser = s.parser ∧ s'.httpStatus = s.httpStatus ∧ s'.firstBodyOffset ≠ none := by
  have hnonneg := hprepared.nextOffset_nonneg h.origin
  -- the first chunk also dates the first octets of the body
  let read : RequestState :=
    { s with
      clockReads := s.clockReads + 1
      firstBodyOffset := s.firstBodyOffset.or (some (s.nextOffset clock)) }
  let event := StreamObservation.event
    { request.observation .rawBodyChunk (s.nextOffset clock) with
      rawChunkSequence := some s.rawChunkSequence
      rawBytes := some rawChunk } s.collector.streamEvents.length (s.nextOffset clock).toNat
  let s' : RequestState := { read.retain event with rawChunkSequence := s.rawChunkSequence + 1 }
  -- the event passes the checks of a raw chunk
  have hvalid : event.modelValidate = .ok event := by
    apply StreamEvidenceRecord.modelValidate_of_checks hprepared.requestId hprepared.caseId
    · intro digest hdigest
      obtain rfl := Option.some.inj hdigest
      exact Interpreter.hexdigest_isSha256 rawChunk
    · rfl
    · rfl
    · rfl
  have hrun : recordRawChunk clock request rawChunk s = (.ok (), s') := by
    show (recordEvent clock _ >>= fun _ => Method.assign _) read = _
    rw [Method.bind_ok (recordEvent_of_valid (s := read) rfl hnonneg rfl hvalid)]
    rfl
  refine ⟨s', events ++ [event], hrun, ⟨h.origin, ?_, ?_, ?_⟩, rfl, rfl, ?_⟩
  -- what is retained grows by the event, and so does what was received
  · show s.collector.streamEvents ++ [event] = before ++ (events ++ [event])
    rw [h.streamEvents, List.append_assoc]
  · exact h.timed.rawChunk (hprepared.nextOffset_le rfl rfl) rfl rfl rfl rfl rfl
  · refine h.retained.rawChunk ⟨rfl, rfl, rfl, .inl rfl⟩ rfl ?_ ?_ rfl rfl rfl
    · show RawEvidence.mk (some s.rawChunkSequence) _ _ _ = _
      rw [h.retained.rawChunkSequence]
      rfl
    · rw [show (event.observationOffsetNs : ℤ) = s.nextOffset clock from
        Int.toNat_of_nonneg hnonneg]
      rfl
  · show s.firstBodyOffset.or _ ≠ none
    cases s.firstBodyOffset <;> simp

/-- The clock is read once more, and nothing is recorded. -/
theorem Running.read (hprepared : Prepared clock request runOriginNs)
    (h : Running clock request runOriginNs before rawChunks evidence events s) :
    Running clock request runOriginNs before rawChunks evidence events
      { s with clockReads := s.clockReads + 1 } := by
  have htimes := @Timed.same _ _ _ { s with clockReads := s.clockReads + 1 } h.timed rfl
    (hprepared.nextOffset_le rfl rfl)
  refine ⟨h.origin, h.streamEvents, ?_, ?_⟩
  · exact ⟨htimes.1, htimes.2, h.timed.firstToken, h.timed.lastToken, h.timed.bodyFirst⟩
  · exact ⟨h.retained.own, h.retained.raw, h.retained.firstBody, h.retained.sse,
      h.retained.tokenOffsets, h.retained.tokenCounts, h.retained.tokenDeltas, h.retained.positive,
      h.retained.rawChunkSequence⟩

/-- A frame is recorded that is no token event: only the evidence grows. -/
theorem recordSse_running (hprepared : Prepared clock request runOriginNs)
    (h : Running clock request runOriginNs before rawChunks evidence events s)
    {observation : StreamObservation} {kind : StreamEvidenceKind} {data : Option Str}
    (hkind : kind = .sseComment ∨ kind = .sseDone)
    (hobservation : observation = { request.observation kind (s.nextOffset clock) with
      sseEventSequence := some s.sseEventSequence, sseData := data }) :
    ∃ event s', recordEvent clock observation { s with clockReads := s.clockReads + 1 } =
        (.ok (), s') ∧
      Running clock request runOriginNs before rawChunks (evidence ++ [⟨kind, data, none⟩])
        (events ++ [event]) { s' with sseEventSequence := s'.sseEventSequence + 1 } ∧
      s'.parser = s.parser ∧ s'.httpStatus = s.httpStatus ∧
      s'.firstBodyOffset = s.firstBodyOffset := by
  have hnonneg := hprepared.nextOffset_nonneg h.origin
  let event := observation.event s.collector.streamEvents.length (s.nextOffset clock).toNat
  let s' : RequestState := RequestState.retain { s with clockReads := s.clockReads + 1 } event
  -- a comment and [DONE] are SSE evidence without a token count
  have hsse : kind.isSse = true := by rcases hkind with rfl | rfl <;> rfl
  have htoken : kind ≠ .sseTokenEvent := by rcases hkind with rfl | rfl <;> decide
  have hvalid : event.modelValidate = .ok event := by
    subst hobservation
    apply StreamEvidenceRecord.modelValidate_of_checks hprepared.requestId hprepared.caseId
    · intro digest hdigest
      cases hdigest
    all_goals rcases hkind with rfl | rfl <;> rfl
  have hevent : event.kind = kind ∧ event.sseEvidence = ⟨kind, data, none⟩ ∧
      OwnEvidence request event := by
    subst hobservation
    exact ⟨rfl, rfl, rfl, rfl, rfl, .inr hsse⟩
  obtain ⟨heventKind, hsseEvidence, hown⟩ := hevent
  have hdelta : event.tokenDeltaCount = none := congrArg SseEvidence.tokenDeltaCount hsseEvidence
  -- the clock goes on, and no token time moves
  have htimes := @Timed.same _ _ _ { s' with sseEventSequence := s'.sseEventSequence + 1 } h.timed rfl
    (hprepared.nextOffset_le rfl rfl)
  refine ⟨event, s', recordEvent_of_valid (by rw [hobservation]; rfl) hnonneg rfl hvalid,
    ⟨h.origin, ?_, ?_, ?_⟩, rfl, rfl, rfl⟩
  · show s.collector.streamEvents ++ [event] = before ++ (events ++ [event])
    rw [h.streamEvents, List.append_assoc]
  · exact ⟨htimes.1, htimes.2, h.timed.firstToken, h.timed.lastToken, h.timed.bodyFirst⟩
  · rw [← hsseEvidence]
    -- the event adds no delta to the token deltas
    refine h.retained.sseEvent hown (heventKind ▸ hsse) rfl (by simp [heventKind, htoken, hdelta])
      (by simp [hdelta]) ?_ ?_ rfl
    · rw [if_neg (heventKind ▸ htoken), List.append_nil]
      rfl
    · rw [hdelta, Option.toList_none, List.append_nil]
      rfl

/-- A token event is recorded: its count and its offset are kept. -/
theorem recordToken_running (hprepared : Prepared clock request runOriginNs)
    (h : Running clock request runOriginNs before rawChunks evidence events s)
    (hread : s.firstBodyOffset ≠ none) {data : Str} {count : ℕ} (hcount : 0 < count)
    {read : RequestState}
    (hs : read = { s with
      clockReads := s.clockReads + 1
      tokenDeltas := s.tokenDeltas ++ [count]
      tokenEventOffsets := s.tokenEventOffsets ++ [s.nextOffset clock]
      firstTokenOffset := s.firstTokenOffset.or (some (s.nextOffset clock))
      lastTokenOffset := some (s.nextOffset clock) })
    {observation : StreamObservation}
    (hobservation : observation = { request.observation .sseTokenEvent (s.nextOffset clock) with
      sseEventSequence := some s.sseEventSequence, sseData := some data
      tokenDeltaCount := some count }) :
    ∃ event s', recordEvent clock observation read = (.ok (), s') ∧
      Running clock request runOriginNs before rawChunks
        (evidence ++ [⟨.sseTokenEvent, some data, some count⟩]) (events ++ [event])
        { s' with sseEventSequence := s'.sseEventSequence + 1 } ∧
      s'.parser = s.parser ∧ s'.httpStatus = s.httpStatus ∧
      s'.firstBodyOffset = s.firstBodyOffset := by
  subst hs hobservation
  have hnonneg := hprepared.nextOffset_nonneg h.origin
  -- a token moves the last token time, and the first one if it is the first
  let read : RequestState :=
    { s with
      clockReads := s.clockReads + 1
      tokenDeltas := s.tokenDeltas ++ [count]
      tokenEventOffsets := s.tokenEventOffsets ++ [s.nextOffset clock]
      firstTokenOffset := s.firstTokenOffset.or (some (s.nextOffset clock))
      lastTokenOffset := some (s.nextOffset clock) }
  let event := StreamObservation.event
    { request.observation .sseTokenEvent (s.nextOffset clock) with
      sseEventSequence := some s.sseEventSequence
      sseData := some data
      tokenDeltaCount := some count } s.collector.streamEvents.length (s.nextOffset clock).toNat
  have hvalid : event.modelValidate = .ok event := by
    apply StreamEvidenceRecord.modelValidate_of_checks hprepared.requestId hprepared.caseId
    · intro digest hdigest
      cases hdigest
    · rfl
    -- a token event has at least one token
    · obtain ⟨n, rfl⟩ : ∃ n, count = n + 1 := ⟨count - 1, by omega⟩
      simp [StreamEvidenceRecord.checkSseFields, event, StreamObservation.event,
        StreamingRequest.observation, StreamEvidenceKind.isSse]
    · rfl
  have hoffset : (event.observationOffsetNs : ℤ) = s.nextOffset clock :=
    Int.toNat_of_nonneg hnonneg
  refine ⟨event, read.retain event, recordEvent_of_valid (s := read) rfl hnonneg rfl hvalid,
    ⟨h.origin, ?_, ?_, ?_⟩, rfl, rfl, rfl⟩
  · show s.collector.streamEvents ++ [event] = before ++ (events ++ [event])
    rw [h.streamEvents, List.append_assoc]
  -- both times are those of the event
  · exact h.timed.token (hprepared.nextOffset_le rfl rfl) hread rfl rfl rfl rfl rfl
  · have hown : OwnEvidence request event := ⟨rfl, rfl, rfl, .inr rfl⟩
    refine h.retained.sseEvent hown rfl rfl (iff_of_true rfl (Option.some_ne_none count)) ?_ ?_ rfl rfl
    · intro delta hdelta
      obtain rfl := Option.some.inj hdelta
      exact hcount
    · rw [hoffset]
      rfl

/-- A frame is recorded, unless its payload is refused. -/
theorem recordFrame_running (hprepared : Prepared clock request runOriginNs)
    (h : Running clock request runOriginNs before rawChunks evidence events s)
    (hread : s.firstBodyOffset ≠ none) {frame : SSEFrame}
    (hdata : frame.kind = .data → frame.data ≠ none) :
    ∃ s' events', recordFrame clock request frame s = ((frameEvidence frame).map fun _ => (), s') ∧
      Running clock request runOriginNs before rawChunks
        (evidence ++ (frameEvidence frame).toOption.toList) events' s' ∧
      s'.parser = s.parser ∧ s'.httpStatus = s.httpStatus ∧ s'.firstBodyOffset ≠ none := by
  -- a frame takes the clock once, before its kind is looked at
  have hrun : recordFrame clock request frame s =
      (recordSse clock request frame (s.nextOffset clock) s.sseEventSequence >>= fun _ =>
        Method.assign fun s => { s with sseEventSequence := s.sseEventSequence + 1 })
        { s with clockReads := s.clockReads + 1 } := rfl
  rw [hrun]
  cases hkind : frame.kind with
  | comment =>
    simp only [frameEvidence, hkind, recordSse]
    obtain ⟨event, s', hrecord, hrunning, hparser, hstatus, hbody⟩ :=
      recordSse_running hprepared h (.inl rfl) rfl
    refine ⟨_, _, ?_, hrunning, hparser, hstatus, hbody ▸ hread⟩
    rw [Method.bind_ok hrecord]
    rfl
  | done =>
    simp only [frameEvidence, hkind, recordSse]
    obtain ⟨event, s', hrecord, hrunning, hparser, hstatus, hbody⟩ :=
      recordSse_running hprepared h (.inr rfl) rfl
    refine ⟨_, _, ?_, hrunning, hparser, hstatus, hbody ▸ hread⟩
    rw [Method.bind_ok hrecord]
    rfl
  | data =>
    obtain ⟨data, hsome⟩ := Option.ne_none_iff_exists'.mp (hdata hkind)
    simp only [frameEvidence, hkind, recordSse]
    cases hcount : tokenCount frame with
    -- a payload that is refused is not recorded; the clock was read all the same
    | error error =>
      refine ⟨_, events, rfl, ?_, rfl, rfl, hread⟩
      simpa [Except.map, Except.toOption] using h.read hprepared
    | ok count =>
      obtain ⟨event, s', hrecord, hrunning, hparser, hstatus, hbody⟩ :=
        recordToken_running hprepared h hread (tokenCount_pos hcount) rfl rfl
      rw [hsome]
      refine ⟨_, _, ?_, hrunning, hparser, hstatus, hbody ▸ hread⟩
      -- an accepted payload is recorded with its token count
      show (recordEvent clock _ >>= fun _ => Method.assign _) _ = _
      rw [Method.bind_ok hrecord]
      rfl

/-- How a loop over frames ends. -/
def loopResult : Option RequestError → Except RequestError Unit
  | none => .ok ()
  | some error => .error error

/-- The frames of a chunk are recorded up to the first that is refused. -/
theorem recordFrames_running (hprepared : Prepared clock request runOriginNs)
    {frames : List SSEFrame} (hdata : ∀ frame ∈ frames, frame.kind = .data → frame.data ≠ none)
    (h : Running clock request runOriginNs before rawChunks evidence events s)
    (hread : s.firstBodyOffset ≠ none) :
    ∃ s' events', recordFrames clock request frames s = (loopResult (acceptFrames frames).2, s') ∧
      Running clock request runOriginNs before rawChunks (evidence ++ (acceptFrames frames).1)
        events' s' ∧
      s'.parser = s.parser ∧ s'.httpStatus = s.httpStatus ∧ s'.firstBodyOffset ≠ none := by
  induction frames generalizing s events evidence with
  | nil => exact ⟨s, events, rfl, by simpa [acceptFrames] using h, rfl, rfl, hread⟩
  | cons frame frames ih =>
    obtain ⟨t, events', hrun, hrunning, hparser, hstatus, hread'⟩ :=
      recordFrame_running hprepared h hread (hdata frame (by simp))
    cases hevidence : frameEvidence frame with
    | error error =>
      rw [hevidence] at hrun hrunning
      refine ⟨t, events', ?_, ?_, hparser, hstatus, hread'⟩
      · rw [recordFrames, Method.bind_error hrun, acceptFrames, hevidence]
        rfl
      · simpa [acceptFrames, hevidence, Except.toOption] using hrunning
    | ok evidence' =>
      rw [hevidence] at hrun hrunning
      obtain ⟨s', events'', hrun', hrunning', hparser', hstatus', hread''⟩ :=
        ih (fun f hf => hdata f (by simp [hf])) hrunning hread'
      refine ⟨s', events'', ?_, ?_, hparser'.trans hparser, hstatus'.trans hstatus, hread''⟩
      · rw [recordFrames, Method.bind_ok hrun, hrun', acceptFrames, hevidence]
      · simpa [acceptFrames, hevidence, Except.toOption] using hrunning'

/-! ## Reading a body -/

/-- What the reads of a body come to: the chunks that were read, the evidence of the frames that were
accepted, and the parser after the body or why it was not read to its end. -/
structure BodyReading where
  rawChunks : List Bytes
  evidence : List SseEvidence
  result : Except RequestError IncrementalSSEParser

/-- How the iteration over the body ends. -/
def bodyEnd (ending : Option Interruption) (parser : IncrementalSSEParser) :
    Except RequestError IncrementalSSEParser :=
  match ending with
  | none => .ok parser
  | some interruption => .error interruption.error

/-- The reads of a body. -/
def readBody (ending : Option Interruption) (parser : IncrementalSSEParser) :
    List Bytes → BodyReading
  | [] => ⟨[], [], bodyEnd ending parser⟩
  | rawChunk :: chunks =>
    if rawChunk = [] then readBody ending parser chunks
    else
      match IncrementalSSEParser.feed rawChunk parser with
      | (.error error, _) => ⟨[rawChunk], [], .error (.sseProtocol error)⟩
      | (.ok frames, parser') =>
        match (acceptFrames frames).2 with
        | some error => ⟨[rawChunk], (acceptFrames frames).1, .error error⟩
        | none =>
          let rest := readBody ending parser' chunks
          ⟨rawChunk :: rest.rawChunks, (acceptFrames frames).1 ++ rest.evidence, rest.result⟩

section

variable {ending : Option Interruption} {parser parser' : IncrementalSSEParser}
  {rawChunk : Bytes} {chunks : List Bytes} {frames : List SSEFrame}

theorem readBody_skip : readBody ending parser ([] :: chunks) = readBody ending parser chunks := by
  simp [readBody]

/-- The parser raises at a chunk. -/
theorem readBody_raised (hne : rawChunk ≠ []) {error : SSEProtocolError}
    (hfeed : IncrementalSSEParser.feed rawChunk parser = (.error error, parser')) :
    readBody ending parser (rawChunk :: chunks) =
      ⟨[rawChunk], [], .error (.sseProtocol error)⟩ := by
  simp only [readBody, if_neg hne, hfeed]

/-- A frame of the chunk is refused. -/
theorem readBody_refused (hne : rawChunk ≠ [])
    (hfeed : IncrementalSSEParser.feed rawChunk parser = (.ok frames, parser'))
    {error : RequestError} (haccept : (acceptFrames frames).2 = some error) :
    readBody ending parser (rawChunk :: chunks) =
      ⟨[rawChunk], (acceptFrames frames).1, .error error⟩ := by
  simp only [readBody, if_neg hne, hfeed, haccept]

/-- All frames of the chunk are accepted. -/
theorem readBody_accepted (hne : rawChunk ≠ [])
    (hfeed : IncrementalSSEParser.feed rawChunk parser = (.ok frames, parser'))
    (haccept : (acceptFrames frames).2 = none) :
    readBody ending parser (rawChunk :: chunks) =
      ⟨rawChunk :: (readBody ending parser' chunks).rawChunks,
        (acceptFrames frames).1 ++ (readBody ending parser' chunks).evidence,
        (readBody ending parser' chunks).result⟩ := by
  simp only [readBody, if_neg hne, hfeed, haccept]

end

/-- The state after the parser was called. -/
theorem Running.parser (h : Running clock request runOriginNs before rawChunks evidence events s)
    (parser : IncrementalSSEParser) :
    Running clock request runOriginNs before rawChunks evidence events { s with parser } := by
  refine ⟨h.origin, h.streamEvents, ?_, ?_⟩
  · exact ⟨h.timed.ordered, h.timed.past, h.timed.firstToken, h.timed.lastToken,
      h.timed.bodyFirst⟩
  · exact ⟨h.retained.own, h.retained.raw, h.retained.firstBody, h.retained.sse,
      h.retained.tokenOffsets, h.retained.tokenCounts, h.retained.tokenDeltas, h.retained.positive,
      h.retained.rawChunkSequence⟩

/-- **The body of a successful response** leaves the chunks that were read and the evidence of the
frames that were accepted. -/
theorem forEachChunk_running (hprepared : Prepared clock request runOriginNs)
    (ending : Option Interruption) (chunks : List Bytes)
    (h : Running clock request runOriginNs before rawChunks evidence events s) :
    ∃ s' events', forEachChunk (readChunk clock request) ending chunks s =
        ((readBody ending s.parser chunks).result.map fun _ => (), s') ∧
      Running clock request runOriginNs before
        (rawChunks ++ (readBody ending s.parser chunks).rawChunks)
        (evidence ++ (readBody ending s.parser chunks).evidence) events' s' ∧
      (∀ parser, (readBody ending s.parser chunks).result = .ok parser → s'.parser = parser) ∧
      s'.httpStatus = s.httpStatus := by
  induction chunks generalizing s rawChunks evidence events with
  | nil =>
    -- no chunk is left, so the loop ends as the server does
    refine ⟨s, events, ?_, by simpa [readBody] using h, ?_, rfl⟩
    · cases ending <;> rfl
    · intro parser hparser
      cases ending with
      | none => exact Except.ok.inj hparser
      | some interruption => cases hparser
  | cons rawChunk chunks ih =>
    rw [forEachChunk]
    rcases eq_or_ne rawChunk [] with rfl | hne
    -- an empty chunk is skipped without an event
    · have hskip : readChunk clock request [] s = (.ok (), s) := rfl
      rw [Method.bind_ok hskip, readBody_skip]
      exact ih h
    -- the chunk is retained before it is parsed ...
    · obtain ⟨t, events', hrecord, hrunning, hparser, hstatus, hread⟩ :=
        recordRawChunk_running hprepared h rawChunk
      have hchunk : readChunk clock request rawChunk s =
          (onParser (IncrementalSSEParser.feed rawChunk) >>= recordFrames clock request) t := by
        rw [readChunk, if_neg hne, Method.bind_ok hrecord]
      rcases hfeed : IncrementalSSEParser.feed rawChunk s.parser with ⟨error | frames, parser'⟩
      -- ... so a chunk that is refused stays, but none of its frames does
      · have hcall : onParser (IncrementalSSEParser.feed rawChunk) t =
            (.error (.sseProtocol error), { t with parser := parser' }) := by
          rw [onParser, Method.onField, hparser, hfeed]
        rw [readBody_raised hne hfeed]
        refine ⟨{ t with parser := parser' }, events', ?_, ?_, ?_, hstatus⟩
        · rw [Method.bind_error (hchunk.trans (Method.bind_error hcall))]
          rfl
        · simpa using hrunning.parser parser'
        · intro parser herror
          cases herror
      · have hcall : onParser (IncrementalSSEParser.feed rawChunk) t =
            (.ok frames, { t with parser := parser' }) := by
          rw [onParser, Method.onField, hparser, hfeed]
        -- the frames are recorded up to the first that is refused
        obtain ⟨u, events'', hframes, hrunning', hparser', hstatus', -⟩ :=
          recordFrames_running hprepared (data_ne_none_of_feed hfeed) (hrunning.parser parser')
            hread
        have hturn : readChunk clock request rawChunk s =
            (loopResult (acceptFrames frames).2, u) := by
          rw [hchunk, Method.bind_ok hcall, hframes]
        cases haccept : (acceptFrames frames).2 with
        | none =>
          rw [haccept] at hturn
          -- all were accepted: the rest of the body follows (induction)
          obtain ⟨s', events₃, hrest, hrunning₃, hparser₃, hstatus₃⟩ := ih hrunning'
          rw [show u.parser = parser' from hparser'] at hrest hrunning₃ hparser₃
          rw [readBody_accepted hne hfeed haccept]
          refine ⟨s', events₃, ?_, ?_, hparser₃, ?_⟩
          · rw [Method.bind_ok hturn, hrest]
          · simpa [List.append_assoc] using hrunning₃
          · exact hstatus₃.trans (hstatus'.trans hstatus)
        | some error =>
          -- a refused payload ends the loop
          rw [haccept] at hturn
          rw [readBody_refused hne hfeed haccept]
          refine ⟨u, events'', ?_, hrunning', ?_, hstatus'.trans hstatus⟩
          · rw [Method.bind_error hturn]
            rfl
          · intro parser herror
            cases herror

end

end Stage1
