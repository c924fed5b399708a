import LlmInferenceSystems.Stage1.ExecutionBundle

/-!
# Evidence and the octets it was taken from

The SSE evidence of a run could be made up. The raw chunks of a successful request are parsed once
more, so its token events are those of its octets; its comments, where its `[DONE]` stands and the
evidence of any other request are not compared with them.

## Main definitions

* `bodyShape`: the SSE evidence of a body, up to where its replay fails

## Main results

* `bodyShape_of_replayChunks`: a replay keeps the token events of a body
* `validateRecords_traces`: what is known of the SSE evidence of a bundle that is accepted
-/

namespace Stage1

open Python Sse

section

variable [Interpreter]

/-! ## The shape of a body -/

/-- The evidence of a frame. -/
def frameShape (frame : SSEFrame) : Except ReplayError (StreamEvidenceKind × Option ℕ) :=
  match frame.kind with
  | .comment => .ok (.sseComment, none)
  | .done => .ok (.sseDone, none)
  | .data => (replayFrame frame).map fun shapes => (.sseTokenEvent, shapes.head?)

/-- The evidence of frames up to one that fails, and whether there is none. -/
def framesShape : List SSEFrame → List (StreamEvidenceKind × Option ℕ) × Bool
  | [] => ([], true)
  | frame :: frames =>
    match frameShape frame with
    | .error _ => ([], false)
    | .ok event => (event :: (framesShape frames).1, (framesShape frames).2)

/-- The evidence of a body, parsed chunk by chunk, up to where this fails. -/
def bodyShape : List Bytes → IncrementalSSEParser → List (StreamEvidenceKind × Option ℕ)
  | [], _ => []
  | raw :: chunks, parser =>
    match IncrementalSSEParser.feed raw parser with
    | (.error _, _) => []
    | (.ok frames, parser') =>
      if (framesShape frames).2 then (framesShape frames).1 ++ bodyShape chunks parser'
      else (framesShape frames).1

/-- The counts of the token events among some evidence. -/
def tokenCounts (shape : List (StreamEvidenceKind × Option ℕ)) : List (Option ℕ) :=
  (shape.filter fun event => event.1 = .sseTokenEvent).map (·.2)

omit [Interpreter] in
@[simp] theorem tokenCounts_append (shape shape' : List (StreamEvidenceKind × Option ℕ)) :
    tokenCounts (shape ++ shape') = tokenCounts shape ++ tokenCounts shape' := by
  simp [tokenCounts]

/-- A frame that is replayed adds its evidence, and a token event for each of its shapes. -/
theorem exists_frameShape {frame : SSEFrame} {shapes : List ℕ}
    (h : replayFrame frame = .ok shapes) :
    ∃ event, frameShape frame = .ok event ∧ tokenCounts [event] = shapes.map some := by
  have hreplay := h
  unfold replayFrame at h
  unfold frameShape
  -- a comment and [DONE] have no payload
  cases hkind : frame.kind with
  | comment =>
    rw [hkind] at h
    obtain rfl := Except.ok.inj h
    exact ⟨_, rfl, rfl⟩
  | done =>
    rw [hkind] at h
    obtain rfl := Except.ok.inj h
    exact ⟨_, rfl, rfl⟩
  | data =>
    rw [hkind] at h
    dsimp only at h
    -- a payload that is absent, that does not load or that is not a record is refused by the replay
    split at h
    · cases h
    · split at h
      · cases h
      · cases h
      -- neither are markers that are not a text of tokens replayed
      · split at h
        · cases h
        · split at h
          · cases h
          · obtain rfl := Except.ok.inj h
            exact ⟨_, by dsimp only; rw [hreplay]; rfl, rfl⟩

/-- Frames that are replayed do not fail. -/
theorem framesShape_of_replayFrames {frames : List SSEFrame} {shapes : List ℕ}
    (h : replayFrames frames = .ok shapes) :
    (framesShape frames).2 = true ∧ tokenCounts (framesShape frames).1 = shapes.map some := by
  induction frames generalizing shapes with
  | nil =>
    obtain rfl := Except.ok.inj h
    exact ⟨rfl, rfl⟩
  | cons frame frames ih =>
    rw [replayFrames] at h
    split at h
    · cases h
    · next own hframe =>
      obtain ⟨rest, hrest, rfl⟩ := exists_of_map_eq_ok h
      obtain ⟨event, hevent, hcounts⟩ := exists_frameShape hframe
      obtain ⟨hall, htokens⟩ := ih hrest
      rw [framesShape, hevent]
      refine ⟨hall, ?_⟩
      dsimp only
      rw [← List.singleton_append, tokenCounts_append, hcounts, htokens, List.map_append]

/-- **A replay keeps the token events of a body.** -/
theorem bodyShape_of_replayChunks {chunks : List Bytes} {shapes : List ℕ}
    {parser parser' : IncrementalSSEParser}
    (h : replayChunks chunks parser = (.ok shapes, parser')) :
    tokenCounts (bodyShape chunks parser) = shapes.map some := by
  induction chunks generalizing parser parser' shapes with
  | nil =>
    obtain rfl := Except.ok.inj (Prod.mk.inj h).1
    rfl
  | cons raw chunks ih =>
    rw [replayChunks] at h
    obtain ⟨frames, fed, hfeed, h⟩ := Method.bind_eq_ok.mp h
    obtain ⟨_, hfed, rfl⟩ := Method.onField_eq_ok.mp hfeed
    obtain ⟨own, hown, h⟩ := Method.ofExcept_bind_eq_ok.mp h
    obtain ⟨more, after, hmore, h⟩ := Method.bind_eq_ok.mp h
    obtain rfl := Except.ok.inj (Prod.mk.inj h).1
    obtain ⟨hall, hcounts⟩ := framesShape_of_replayFrames hown
    have hchunk : IncrementalSSEParser.feed raw parser = (.ok frames, fed) := hfed
    rw [bodyShape, hchunk]
    dsimp only
    rw [if_pos hall, tokenCounts_append, hcounts, ih hmore, List.map_append]

/-! ## The evidence of a validated bundle -/

variable {bundle : ValidatedBundle} {request : Stage1RequestRecord}
  {events : List StreamEvidenceRecord}

omit [Interpreter] in
/-- The token events of the hashed shape are the token evidence of the request. -/
theorem tokenCounts_protocolShapeOf :
    tokenCounts (protocolShapeOf request events) =
      (eventsOfKind .sseTokenEvent (relatedEvents request events)).map (·.tokenDeltaCount) := by
  unfold tokenCounts protocolShapeOf eventsOfKind relatedEvents
  rw [List.filter_map, List.map_map, List.filter_filter, List.filter_filter]
  congr 1
  apply List.filter_congr
  intro event _
  by_cases hkind : event.kind = .sseTokenEvent
  · simp [hkind, StreamEvidenceKind.isSse]
  · simp [hkind]

/-- What is known of the SSE evidence of a request. -/
structure EvidenceTraced (request : Stage1RequestRecord) (events : List StreamEvidenceRecord)
    (decoded : List Bytes) : Prop where
  raw : List.Forall₂ (fun event raw => decodeChunk event = .ok raw) (rawChunksOf request events)
    decoded
  tokens : request.terminalClass = .success →
    (replay decoded).1 = .ok request.tokenEventDeltaCounts ∧
      tokenCounts (protocolShapeOf request events) = tokenCounts (bodyShape decoded {}) ∧
      (replay decoded).2.done = true
  record : tokenCounts (protocolShapeOf request events) = request.tokenEventDeltaCounts.map some
  done : ((protocolShapeOf request events).countP fun event => event.1 = .sseDone) =
    if request.terminalClass = .success then 1 else 0
  malformed : request.terminalClass ≠ .success →
    (∃ failure ∈ request.failure, failure.kind = .protocolMalformedStream) →
      (replay decoded).1 = .error .caught

/-- Only the body of a response with a successful status is replayed. -/
theorem replayOf_eq (status : Option ℕ) (decoded : List Bytes) :
    replayOf status decoded = replay decoded ∨ replayOf status decoded = (.ok [], {}) := by
  unfold replayOf
  split_ifs
  · exact .inl rfl
  · exact .inr rfl

/-- The evidence of a request that passed its checks. -/
theorem Validated.evidenceTraced [FloatArithmetic] (h : Validated bundle)
    (hmem : request ∈ bundle.requests) :
    ∃ decoded, EvidenceTraced request bundle.streamEvents decoded := by
  obtain ⟨-, htokens, hraw⟩ := validateRequest_eq_ok.mp (h.request hmem)
  obtain ⟨-, decoded, hdecoded, -, haccepted⟩ := validateRawChunks_eq_ok.mp hraw
  obtain ⟨hcounts, -, hdone⟩ := checkTokenEvidence_eq_ok.mp htokens
  refine ⟨decoded, hdecoded, fun hsuccess => ?_, tokenCounts_protocolShapeOf.trans hcounts, ?_, ?_⟩
  · obtain ⟨hshapes, hended⟩ := haccepted.success hsuccess
    rcases replayOf_eq request.httpStatus decoded with hreplay | hskipped
    · rw [hreplay] at hshapes hended
      refine ⟨hshapes, ?_, hended⟩
      -- the replay went through every chunk
      obtain ⟨shapes, parser, hchunks, hrest⟩ := Method.bind_eq_ok.mp (Method.eq_mk_snd hshapes)
      obtain ⟨_, _, -, hreturn⟩ := Method.bind_eq_ok.mp hrest
      obtain rfl := Except.ok.inj (Prod.mk.inj hreturn).1
      rw [tokenCounts_protocolShapeOf, hcounts, bodyShape_of_replayChunks hchunks]
    · rw [hskipped] at hended
      cases hended
  · rw [← hdone]
    unfold protocolShapeOf eventsOfKind relatedEvents
    rw [List.countP_map, List.countP_filter, List.filter_filter, List.countP_eq_length_filter]
    congr 1
    apply List.filter_congr
    intro event _
    by_cases hkind : event.kind = .sseDone
    · simp [hkind, StreamEvidenceKind.isSse]
    · simp [hkind]
  · intro hclass hfailure
    have hcaught := haccepted.malformed hclass hfailure
    rcases replayOf_eq request.httpStatus decoded with hreplay | hskipped
    · rwa [hreplay] at hcaught
    · rw [hskipped] at hcaught
      cases hcaught

/-- **What is known of the SSE evidence of a bundle that is accepted.** The octets of a successful
request are replayed to their end, which is `[DONE]`, and their token events are its own; no other
request has a `[DONE]`, and one that failed on a malformed stream has octets whose replay fails. -/
theorem validateRecords_traces [FloatArithmetic] {manifest : Stage1ExecutionManifest}
    {requests : List Stage1RequestRecord} {streamEvents : List StreamEvidenceRecord}
    {serverEvents : List ServerEventRecord} {summary : Stage1RunSummary}
    (h : validateRecords manifest requests streamEvents serverEvents summary = .ok bundle) :
    ∀ request ∈ bundle.requests, ∃ decoded, EvidenceTraced request bundle.streamEvents decoded :=
  fun _ hmem => (validateRecords_eq_ok.mp h).2.evidenceTraced hmem

end

section

attribute [local instance] cpython binary64

theorem validateRecords_traces_sampleBundle : ∃ summary fingerprint,
    ∀ request ∈ (SampleRun.bundle {} summary fingerprint).requests, ∃ decoded,
      EvidenceTraced request (SampleRun.bundle {} summary fingerprint).streamEvents decoded := by
  obtain ⟨summary, fingerprint, haccepted⟩ := exists_accepted_sampleRun
  exact ⟨summary, fingerprint, validateRecords_traces haccepted.valid.accepted⟩

/-- The sample run, with a comment in its evidence that is in no body. -/
def commentedRun : SampleRun where
  comments := [lit "x"]

/-- A comment that is in no body is accepted as evidence. -/
theorem exists_accepted_untraced : ∃ bundle decoded,
    validateRecords bundle.manifest bundle.requests bundle.streamEvents bundle.serverEvents
        bundle.summary = .ok bundle ∧
      ∃ request ∈ bundle.requests, request.httpStatus = some 200 ∧
        List.Forall₂ (fun event raw => decodeChunk event = .ok raw)
          (rawChunksOf request bundle.streamEvents) decoded ∧
        protocolShapeOf request bundle.streamEvents =
          [(.sseTokenEvent, some 1), (.sseComment, none), (.sseDone, none)] ∧
        bodyShape decoded {} = [(.sseTokenEvent, some 1), (.sseDone, none)] := by
  obtain ⟨summary, fingerprint, haccepted⟩ :=
    @SampleRun.exists_accepted commentedRun (by decide +kernel) (by decide +kernel)
      (by decide +kernel) (by decide +kernel) (by decide +kernel)
  have hmem : commentedRun.record 5 1 ∈ commentedRun.requests :=
    List.mem_cons_of_mem _ List.mem_cons_self
  have hdecoded : collect decodeChunk (rawChunksOf (commentedRun.record 5 1) commentedRun.events) =
      .ok [sampleBody (commentedRun.record 5 1)] := by decide +kernel
  have hevidence : protocolShapeOf (commentedRun.record 5 1) commentedRun.events =
      [(.sseTokenEvent, some 1), (.sseComment, none), (.sseDone, none)] := by decide +kernel
  have hbody : bodyShape [sampleBody (commentedRun.record 5 1)] {} =
      [(.sseTokenEvent, some 1), (.sseDone, none)] := by decide +kernel
  exact ⟨commentedRun.bundle summary fingerprint, [sampleBody (commentedRun.record 5 1)],
    haccepted.valid.accepted, commentedRun.record 5 1, hmem, rfl, collect_eq_ok.mp hdecoded,
    hevidence, hbody⟩

end

end Stage1
