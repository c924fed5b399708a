import LlmInferenceSystems.Stage1.PayloadReadings
import LlmInferenceSystems.Stage1.RequestMetrics
import LlmInferenceSystems.Stage1.StreamingOutcome

/-!
# The records of an executed request

What an execution records of a request is validated afterwards, by a second reading of its body that
refuses less than the first.

## Main definitions

* `Surrounded`: the evidence of a request among that of other requests
* `Reproducible`: a failure that the validation sees as the execution did

## Main results

* `readBody_replay`: how the replay of the chunks that were read ends
* `Returned.validateRequest_iff`: the records of a request are validated when it succeeded or its
  failure can be seen again
-/

namespace Stage1

open Python Sse

section

variable [Interpreter]

/-! ## Frames -/

/-- How a frame is refused. -/
inductive Refusal : RequestError → Prop
  | sseProtocol (error : SSEProtocolError) : Refusal (.sseProtocol error)
  | fixtureToken (error : FixtureTokenError) : Refusal (.fixtureToken error)
  | other (error : PyError) : Refusal (.other error)

theorem refusal_of_frameEvidence {frame : SSEFrame} {error : RequestError}
    (h : frameEvidence frame = .error error) : Refusal error := by
  cases (refused_of_frameEvidence h).2 with
  | payload hrefused =>
    cases hrefused with
    | misshapen error => exact .sseProtocol error
    | loads => exact .other _
  | markers => exact .fixtureToken _

section

variable {frames : List SSEFrame}

/-- The counts of the evidence are the shapes of the replay. -/
theorem replayFrames_of_accepted (h : (acceptFrames frames).2 = none) :
    replayFrames frames = .ok ((acceptFrames frames).1.filterMap (·.tokenDeltaCount)) := by
  induction frames with
  | nil => rfl
  | cons frame frames ih =>
    cases hevidence : frameEvidence frame with
    | error error => simp [acceptFrames, hevidence] at h
    | ok evidence =>
      simp only [acceptFrames, hevidence] at h ⊢
      rw [replayFrames, replayFrame_of_frameEvidence hevidence]
      simp only [ih h, Except.map]
      cases hcount : evidence.tokenDeltaCount <;> simp [hcount]

theorem replayFrames_of_fixtureToken {error : FixtureTokenError}
    (h : (acceptFrames frames).2 = some (.fixtureToken error)) :
    replayFrames frames = .error .caught := by
  induction frames with
  | nil => cases h
  | cons frame frames ih =>
    rw [replayFrames]
    cases hevidence : frameEvidence frame with
    | error error' =>
      simp only [acceptFrames, hevidence] at h
      obtain rfl := Option.some.inj h
      rw [replayFrame_of_fixtureToken hevidence]
    | ok evidence =>
      simp only [acceptFrames, hevidence] at h
      rw [replayFrame_of_frameEvidence hevidence]
      simp only [ih h]
      rfl

theorem refusal_of_acceptFrames {error : RequestError}
    (h : (acceptFrames frames).2 = some error) : Refusal error := by
  induction frames with
  | nil => cases h
  | cons frame frames ih =>
    cases hevidence : frameEvidence frame with
    | error error' =>
      simp only [acceptFrames, hevidence] at h
      obtain rfl := Option.some.inj h
      exact refusal_of_frameEvidence hevidence
    | ok evidence =>
      simp only [acceptFrames, hevidence] at h
      exact ih h

end

/-! ## Bodies -/

section

variable {raw : Bytes} {chunks : List Bytes} {frames : List SSEFrame}
  {parser parser' : IncrementalSSEParser}

theorem replayChunks_of_feed
    (hfeed : IncrementalSSEParser.feed raw parser = (.ok frames, parser')) :
    replayChunks (raw :: chunks) parser =
      match replayFrames frames with
      | .error error => (.error error, parser')
      | .ok shapes =>
        match replayChunks chunks parser' with
        | (.error error, p) => (.error error, p)
        | (.ok more, p) => (.ok (shapes ++ more), p) := by
  have hcall : Method.onField id (fun parser _ => parser) (fun _ => ReplayError.caught)
      (IncrementalSSEParser.feed raw) parser = (.ok frames, parser') := by
    rw [Method.onField, id_eq, hfeed]
  rw [replayChunks, Method.bind_ok hcall]
  cases hshapes : replayFrames frames with
  | error error => rfl
  | ok shapes =>
    rw [show (Method.ofExcept (Except.ok shapes) >>= fun shapes =>
      replayChunks chunks >>= fun more => pure (shapes ++ more) :
        Method IncrementalSSEParser ReplayError (List ℕ)) parser' =
      (replayChunks chunks >>= fun more => pure (shapes ++ more)) parser' from rfl,
      Method.bind_apply]
    rcases replayChunks chunks parser' with ⟨error | more, p⟩ <;> rfl

/-- The counts of some evidence. -/
def countsOf (evidence : List SseEvidence) : List ℕ := evidence.filterMap (·.tokenDeltaCount)

omit [Interpreter] in
theorem ok_of_bodyEnd {ending : Option Interruption}
    (h : bodyEnd ending parser = .ok parser') : parser = parser' := by
  cases ending with
  | none => exact Except.ok.inj h
  | some interruption => cases h

/-- How the replay of the chunks that were read ends: with the shapes of what was accepted, unless
a payload was refused or the parser raised. -/
inductive Replayed (ending : Option Interruption) (parser : IncrementalSSEParser)
    (reading : BodyReading) : Prop
  | accepted {parser' : IncrementalSSEParser}
      (replay : replayChunks reading.rawChunks parser = (.ok (countsOf reading.evidence), parser'))
      (result : reading.result = bodyEnd ending parser')
  | malformed {error : SSEProtocolError} (result : reading.result = .error (.sseProtocol error))
  | fixtureToken {error : FixtureTokenError}
      (replay : (replayChunks reading.rawChunks parser).1 = .error .caught)
      (result : reading.result = .error (.fixtureToken error))
  | other {error : PyError} (result : reading.result = .error (.other error))

/-- **The replay of what was read** ends as the reading did, where it tells. -/
theorem readBody_replay (ending : Option Interruption) (parser : IncrementalSSEParser)
    (chunks : List Bytes) : Replayed ending parser (readBody ending parser chunks) := by
  -- chunk by chunk: the replay feeds the chunks that were retained, from the same parser
  induction chunks generalizing parser with
  | nil => exact .accepted rfl rfl
  | cons raw chunks ih =>
    rcases eq_or_ne raw [] with rfl | hne
    · rw [readBody_skip]
      exact ih parser
    · rcases hfeed : IncrementalSSEParser.feed raw parser with ⟨error | frames, parser'⟩
      -- the chunk is refused by the parser, in the replay as in the reading
      · rw [readBody_raised hne hfeed]
        exact .malformed rfl
      -- a payload among its frames is refused, for one of three reasons
      · cases haccept : (acceptFrames frames).2 with
        | some error =>
          rw [readBody_refused hne hfeed haccept]
          cases refusal_of_acceptFrames haccept with
          | sseProtocol error => exact .malformed rfl
          | other error => exact .other rfl
          | fixtureToken error =>
            refine .fixtureToken ?_ rfl
            rw [replayChunks_of_feed hfeed, replayFrames_of_fixtureToken haccept]
        | none =>
          rw [readBody_accepted hne hfeed haccept]
          have hcons := @replayChunks_of_feed _ raw (readBody ending parser' chunks).rawChunks
            frames parser parser' hfeed
          rw [replayFrames_of_accepted haccept] at hcons
          -- all are accepted: the replay goes on as the rest of the body does
          cases ih parser' with
          | accepted hreplay hresult =>
            refine .accepted ?_ hresult
            rw [hcons, hreplay]
            simp [countsOf, List.filterMap_append]
          | malformed hresult => exact .malformed hresult
          | other hresult => exact .other hresult
          | fixtureToken hreplay hresult =>
            refine .fixtureToken ?_ hresult
            rw [hcons]
            rcases hrest : replayChunks (readBody ending parser' chunks).rawChunks parser' with
              ⟨error | more, p⟩
            · rw [hrest] at hreplay
              exact hreplay
            · rw [hrest] at hreplay
              cases hreplay

end

/-! ## The end of a stream -/

omit [Interpreter] in
theorem done_of_readFrame {done : Bool} {raw : Bytes} {frame : SSEFrame}
    (h : readFrame done raw = .ok frame) (hkind : frame.kind = .done) : done = false := by
  cases done with
  | false => rfl
  | true =>
    -- a second marker is refused
    exfalso
    unfold readFrame at h
    simp only [if_true] at h
    split at h
    · cases h
    · split_ifs at h
      split at h
      · cases h
      · split_ifs at h
        obtain rfl := Except.ok.inj h
        cases hkind

/-- How many of some frames end the stream. -/
def doneFrames (frames : List SSEFrame) : ℕ := (frames.filter (·.kind = .done)).length

/-- How much of some evidence says that the stream has ended. -/
def doneCount (evidence : List SseEvidence) : ℕ := (evidence.filter (·.kind = .sseDone)).length

omit [Interpreter] in
/-- The marker is set by the one frame that ends the stream. -/
theorem doneFrames_of_readPieces {done done' : Bool} {ps : List Bytes} {frames : List SSEFrame}
    (h : readPieces done ps = .ok (frames, done')) :
    doneFrames frames + done.toNat = done'.toNat := by
  induction ps generalizing done frames with
  | nil =>
    obtain ⟨rfl, rfl⟩ := Prod.mk.inj (Except.ok.inj h)
    simp [doneFrames]
  | cons piece ps ih =>
    rcases eq_or_ne piece [] with rfl | hne
    · exact ih h
    · obtain ⟨frame, fs, hframe, hps, rfl⟩ := (readPieces_cons_eq_ok hne).mp h
      have hrest := ih hps
      by_cases hkind : frame.kind = .done
      · obtain rfl := done_of_readFrame hframe hkind
        simp only [doneFrames, IncrementalSSEParser.afterFrame, hkind, decide_true,
          List.filter_cons_of_pos, List.length_cons] at hrest ⊢
        simpa [doneFrames, Nat.add_comm] using hrest
      · have hafter : IncrementalSSEParser.afterFrame done frame = done := by
          rw [IncrementalSSEParser.afterFrame, beq_false_of_ne hkind, Bool.or_false]
        rw [hafter] at hrest
        simpa [doneFrames, hkind] using hrest

omit [Interpreter] in
theorem doneFrames_of_feed {raw : Bytes} {parser parser' : IncrementalSSEParser}
    {frames : List SSEFrame} (h : IncrementalSSEParser.feed raw parser = (.ok frames, parser')) :
    doneFrames frames + parser.done.toNat = parser'.done.toNat := by
  rcases eq_or_ne raw [] with rfl | hne
  · obtain ⟨rfl, rfl⟩ : [] = frames ∧ parser = parser' := by simpa [feed_nil] using h
    simp [doneFrames]
  · exact doneFrames_of_readPieces ((feed_eq_ok hne).mp h).2.1

theorem kind_of_frameEvidence {frame : SSEFrame} {evidence : SseEvidence}
    (h : frameEvidence frame = .ok evidence) :
    evidence.kind = .sseDone ↔ frame.kind = .done := by
  unfold frameEvidence at h
  split at h
  · next hkind =>
    obtain rfl := Except.ok.inj h
    simp [hkind]
  · next hkind =>
    obtain rfl := Except.ok.inj h
    simp [hkind]
  · next hkind =>
    obtain ⟨count, -, rfl⟩ := exists_of_map_eq_ok h
    simp [hkind]

theorem doneCount_of_accepted {frames : List SSEFrame} (h : (acceptFrames frames).2 = none) :
    doneCount (acceptFrames frames).1 = doneFrames frames := by
  induction frames with
  | nil => rfl
  | cons frame frames ih =>
    cases hevidence : frameEvidence frame with
    | error error => simp [acceptFrames, hevidence] at h
    | ok evidence =>
      simp only [acceptFrames, hevidence] at h ⊢
      have hrest := ih h
      simp only [doneCount, doneFrames] at hrest ⊢
      by_cases hkind : frame.kind = .done
      · simp [hkind, (kind_of_frameEvidence hevidence).mpr hkind, hrest]
      · have hne : evidence.kind ≠ .sseDone :=
          fun h => hkind ((kind_of_frameEvidence hevidence).mp h)
        simp [hkind, hne, hrest]

/-- A body that is read to its end has the marker in its evidence when the parser has it. -/
theorem doneCount_of_readBody {ending : Option Interruption} {chunks : List Bytes}
    {parser parser' : IncrementalSSEParser}
    (h : (readBody ending parser chunks).result = .ok parser') :
    doneCount (readBody ending parser chunks).evidence + parser.done.toNat =
      parser'.done.toNat := by
  -- each [DONE] frame that was read set the flag of the parser, and none came after it
  induction chunks generalizing parser with
  | nil =>
    cases ending with
    | none =>
      obtain rfl : parser = parser' := Except.ok.inj h
      simp [readBody, doneCount]
    | some interruption => cases h
  | cons raw chunks ih =>
    rcases eq_or_ne raw [] with rfl | hne
    · rw [readBody_skip] at h ⊢
      exact ih h
    · rcases hfeed : IncrementalSSEParser.feed raw parser with ⟨error | frames, q⟩
      · rw [readBody_raised hne hfeed] at h
        cases h
      · cases haccept : (acceptFrames frames).2 with
        | some error =>
          rw [readBody_refused hne hfeed haccept] at h
          cases h
        | none =>
          rw [readBody_accepted hne hfeed haccept] at h ⊢
          have hrest := ih h
          have hframes := doneFrames_of_feed hfeed
          have hcount := doneCount_of_accepted haccept
          simp only [doneCount, List.filter_append, List.length_append] at hrest hcount ⊢
          omega

/-! ## The outcome of a request, replayed -/

theorem replay_of_error {decoded : List Bytes} {error : ReplayError} {parser : IncrementalSSEParser}
    (h : replayChunks decoded {} = (.error error, parser)) :
    replay decoded = (.error error, parser) := by
  rw [replay, Method.bind_error h]

theorem replay_of_ok {decoded : List Bytes} {shapes : List ℕ} {parser : IncrementalSSEParser}
    (h : replayChunks decoded {} = (.ok shapes, parser)) :
    replay decoded = ((IncrementalSSEParser.finalize parser).1.mapError (fun _ => .caught) >>=
      fun _ => .ok shapes, (IncrementalSSEParser.finalize parser).2) := by
  rw [replay, Method.bind_ok h, Method.bind_apply, Method.onField, id_eq]
  rcases IncrementalSSEParser.finalize parser with ⟨error | ⟨⟩, q⟩ <;> rfl

omit [Interpreter] in
theorem isSuccessStatus_iff {status : ℕ} :
    isSuccessStatus status = true ↔ 200 ≤ status ∧ status < 300 := by
  simp [isSuccessStatus]

variable {expectedOutputTokenCount : ℕ} {server : ServerBehaviour}

/-- The outcome of a successful response. -/
theorem serverOutcome_of_success {status : ℕ} (hstatus : server.status = .ok status)
    (hsuccess : isSuccessStatus status = true) :
    serverOutcome expectedOutputTokenCount server =
        ⟨(readBody server.ending {} server.chunks).rawChunks,
          (readBody server.ending {} server.chunks).evidence,
          streamTerminal expectedOutputTokenCount (readBody server.ending {} server.chunks)⟩ ∧
      replayOf server.status.toOption =
        replay := by
  constructor
  · rw [serverOutcome, hstatus]
    exact if_pos hsuccess
  · funext decoded
    rw [replayOf, if_pos ⟨status, by rw [hstatus]; rfl, isSuccessStatus_iff.mp hsuccess⟩]

/-- Without a successful response nothing is replayed. -/
theorem serverOutcome_of_unsuccessful
    (h : ∀ status, server.status = .ok status → ¬ isSuccessStatus status = true) :
    (serverOutcome expectedOutputTokenCount server).terminal.terminalClass ≠ .success ∧
      (∀ failure ∈ (serverOutcome expectedOutputTokenCount server).terminal.failure,
        failure.1 ≠ .protocolMalformedStream) ∧
      (serverOutcome expectedOutputTokenCount server).evidence = [] ∧
      ∀ decoded, replayOf server.status.toOption decoded = (.ok [], {}) := by
  have hinterrupted : ∀ interruption : Interruption,
      interruption.error.terminal.terminalClass ≠ .success ∧
        ∀ failure ∈ interruption.error.terminal.failure,
          failure.1 ≠ .protocolMalformedStream := by
    intro interruption
    cases interruption <;> simp [Interruption.error, RequestError.terminal]
  cases hstatus : server.status with
  | error interruption =>
    rw [serverOutcome, hstatus]
    refine ⟨(hinterrupted interruption).1, (hinterrupted interruption).2, rfl, fun decoded => ?_⟩
    rw [replayOf, if_neg]
    rintro ⟨status, hmem, -⟩
    cases hmem
  | ok status =>
    have hnot := h status hstatus
    rw [serverOutcome, hstatus]
    dsimp only
    rw [if_neg hnot]
    refine ⟨?_, ?_, rfl, fun decoded => ?_⟩
    · cases hending : server.ending with
      | none => simp [errorTerminal]
      | some interruption => exact (hinterrupted interruption).1
    · cases hending : server.ending with
      | none => simp [errorTerminal]
      | some interruption => exact (hinterrupted interruption).2
    · rw [replayOf, if_neg]
      rintro ⟨status', hmem, hrange⟩
      obtain rfl := Option.some.inj hmem
      exact hnot (isSuccessStatus_iff.mpr hrange)

/-- **A body that was read with success** is replayed with success, and has one `[DONE]`. -/
theorem replayOf_of_success
    (h : (serverOutcome expectedOutputTokenCount server).terminal.terminalClass = .success) :
    (replayOf server.status.toOption
        (serverOutcome expectedOutputTokenCount server).rawChunks).1 =
        .ok (countsOf (serverOutcome expectedOutputTokenCount server).evidence) ∧
      (replayOf server.status.toOption
        (serverOutcome expectedOutputTokenCount server).rawChunks).2.done = true ∧
      doneCount (serverOutcome expectedOutputTokenCount server).evidence = 1 := by
  by_cases hresponse : ∃ status, server.status = .ok status ∧ isSuccessStatus status = true
  · obtain ⟨status, hstatus, hsuccess⟩ := hresponse
    obtain ⟨houtcome, hreplay⟩ :=
      @serverOutcome_of_success _ expectedOutputTokenCount server status hstatus hsuccess
    rw [houtcome] at h ⊢
    rw [hreplay]
    dsimp only at h ⊢
    cases hresult : (readBody server.ending {} server.chunks).result with
    | error error =>
      rw [streamTerminal, hresult] at h
      cases error <;> cases h
    | ok parser =>
      rw [streamTerminal, hresult] at h
      dsimp only at h
      rcases hfinalize : IncrementalSSEParser.finalize parser with ⟨error | ⟨⟩, q⟩
      · rw [hfinalize] at h
        cases h
      · obtain ⟨-, hdone, rfl⟩ := finalize_eq_ok.mp hfinalize
        have hcount := doneCount_of_readBody hresult
        cases readBody_replay server.ending {} server.chunks with
        | accepted hreplayed hended =>
          obtain rfl := ok_of_bodyEnd (hended.symm.trans hresult)
          rw [replay_of_ok hreplayed, hfinalize]
          rw [hdone] at hcount
          exact ⟨rfl, hdone, hcount⟩
        | malformed hended =>
          rw [hresult] at hended
          cases hended
        | other hended =>
          rw [hresult] at hended
          cases hended
        | fixtureToken _ hended =>
          rw [hresult] at hended
          cases hended
  · push Not at hresponse
    have hnot := @serverOutcome_of_unsuccessful _ expectedOutputTokenCount server
      fun status hstatus => by simpa using hresponse status hstatus
    exact absurd h hnot.1

/-- **Nothing is let through** by the replay of a body that was neither malformed nor met an
unexpected error. -/
theorem replayOf_not_raised
    (h : ∀ failure ∈ (serverOutcome expectedOutputTokenCount server).terminal.failure,
      failure.1 ≠ .protocolMalformedStream ∧ failure.1 ≠ .unexpected) (error : PyError) :
    (replayOf server.status.toOption
      (serverOutcome expectedOutputTokenCount server).rawChunks).1 ≠ .error (.raised error) := by
  by_cases hresponse : ∃ status, server.status = .ok status ∧ isSuccessStatus status = true
  · obtain ⟨status, hstatus, hsuccess⟩ := hresponse
    obtain ⟨houtcome, hreplay⟩ :=
      @serverOutcome_of_success _ expectedOutputTokenCount server status hstatus hsuccess
    rw [houtcome] at h ⊢
    rw [hreplay]
    dsimp only at h ⊢
    -- what was read of the body decides how its replay ends
    cases readBody_replay server.ending {} server.chunks with
    | @accepted parser hreplayed _ =>
      rw [replay_of_ok hreplayed]
      rcases IncrementalSSEParser.finalize parser with ⟨error | ⟨⟩, q⟩ <;> intro hraised <;>
        cases hraised
    | malformed hended =>
      rw [streamTerminal, hended] at h
      exact absurd rfl (h _ rfl).1
    | other hended =>
      rw [streamTerminal, hended] at h
      exact absurd rfl (h _ rfl).2
    | fixtureToken hcaught _ =>
      have hmk : replayChunks (readBody server.ending {} server.chunks).rawChunks {} = _ :=
        Method.eq_mk_snd hcaught
      rw [replay_of_error hmk]
      simp
  -- a response that is not a success is not replayed
  · push Not at hresponse
    have hnot := @serverOutcome_of_unsuccessful _ expectedOutputTokenCount server
      fun status hstatus => by simpa using hresponse status hstatus
    rw [hnot.2.2.2]
    simp

/-! ## The records of a request, validated -/

/-- The evidence of a request among that of other requests: between a start and an end. -/
structure Surrounded (record : Stage1RequestRecord) (observed : List StreamEvidenceRecord)
    (started terminal ended : StreamEvidenceRecord) (events : List StreamEvidenceRecord) :
    Prop where
  related : relatedEvents record events = started :: (observed ++ [terminal, ended])
  startedKind : started.kind = .clientRequestStarted
  endedKind : ended.kind = .clientRequestEnded
  startedBefore : started.observationOffsetNs ≤ record.timing.dispatchOffsetNs
  endedAfter : record.timing.terminalOffsetNs ≤ ended.observationOffsetNs

/-- The validation sees a failure as the execution did: the stream was not marked as ended, a
malformed stream is malformed once more, and an unexpected error is caught. -/
structure Reproducible (httpStatus : Option ℕ) (outcome : Outcome) : Prop where
  notDone : doneCount outcome.evidence = 0
  malformed : (∃ failure ∈ outcome.terminal.failure, failure.1 = .protocolMalformedStream) →
    (replayOf httpStatus outcome.rawChunks).1 = .error .caught
  unexpected : (∃ failure ∈ outcome.terminal.failure, failure.1 = .unexpected) →
    ∀ error, (replayOf httpStatus outcome.rawChunks).1 ≠ .error (.raised error)

variable {request : StreamingRequest} {record : Stage1RequestRecord}
  {observed events : List StreamEvidenceRecord} {started terminal ended : StreamEvidenceRecord}

omit [Interpreter] in
/-- The evidence of a kind that a request has while its body is read. -/
theorem Surrounded.eventsOfKind (h : Surrounded record observed started terminal ended events)
    (hterminal : terminal.kind = .requestTerminal) {kind : StreamEvidenceKind}
    (hkind : kind = .rawBodyChunk ∨ kind.isSse = true) :
    eventsOfKind kind (relatedEvents record events) = Stage1.eventsOfKind kind observed := by
  have hothers : kind ≠ .clientRequestStarted ∧ kind ≠ .requestTerminal ∧
      kind ≠ .clientRequestEnded := by
    cases kind <;> simp [StreamEvidenceKind.isSse] at hkind ⊢
  rw [h.related]
  simp [Stage1.eventsOfKind, h.startedKind, h.endedKind, hterminal, hothers.1.symm,
    hothers.2.1.symm, hothers.2.2.symm]

/-- The life of a request is in its evidence. -/
theorem Returned.checkLifecycle {server : ServerBehaviour}
    (h : Returned request server record observed terminal)
    (hsurrounded : Surrounded record observed started terminal ended events) :
    checkLifecycle record (relatedEvents record events) = .ok () := by
  -- what was observed during the call holds no lifecycle event and no terminal event
  have hobserved : ∀ {kind : StreamEvidenceKind}, kind ≠ .rawBodyChunk → kind.isSse = false →
      Stage1.eventsOfKind kind observed = [] := by
    intro kind hraw hsse
    refine List.filter_eq_nil_iff.mpr fun event hevent => ?_
    rw [decide_eq_true_iff]
    rintro rfl
    rcases (h.own event hevent).kind with heq | heq
    · exact hraw heq
    · rw [hsse] at heq
      cases heq
  have hstarts := hobserved (show StreamEvidenceKind.clientRequestStarted ≠ .rawBodyChunk by decide)
    rfl
  have hends := hobserved (show StreamEvidenceKind.clientRequestEnded ≠ .rawBodyChunk by decide) rfl
  have hterminals := hobserved (show StreamEvidenceKind.requestTerminal ≠ .rawBodyChunk by decide)
    rfl
  have hinterval := (Stage1RequestRecord.constraints_of_modelValidate h.valid).interval
  unfold Stage1.eventsOfKind at hstarts hends hterminals
  -- one start, one end and one terminal event, in this order in time
  refine checkLifecycle_eq_ok.mpr ⟨started, ended, terminal, ?_, ?_, ?_, ?_⟩
  · rw [hsurrounded.related]
    simp [Stage1.eventsOfKind, hsurrounded.startedKind, hsurrounded.endedKind, h.terminalKind,
      hstarts]
  · rw [hsurrounded.related]
    simp [Stage1.eventsOfKind, hsurrounded.startedKind, hsurrounded.endedKind, h.terminalKind,
      hends]
  · rw [hsurrounded.related]
    simp [Stage1.eventsOfKind, hsurrounded.startedKind, hsurrounded.endedKind, h.terminalKind,
      hterminals]
  · exact ⟨hsurrounded.startedBefore, hinterval, h.terminalOffset.symm,
      h.terminalOffset.trans_le hsurrounded.endedAfter, h.terminalClassEvent⟩

/-- The token events are those of the record, and `[DONE]` is as often in the evidence as it was
accepted. -/
theorem Returned.checkTokenEvidence_iff {server : ServerBehaviour}
    (h : Returned request server record observed terminal)
    (hsurrounded : Surrounded record observed started terminal ended events) :
    checkTokenEvidence record (relatedEvents record events) = .ok () ↔
      doneCount (serverOutcome request.case.expectedOutputTokenCount server).evidence =
        if record.terminalClass = .success then 1 else 0 := by
  have hdone : (Stage1.eventsOfKind .sseDone observed).length =
      doneCount (serverOutcome request.case.expectedOutputTokenCount server).evidence := by
    rw [← h.sse, doneCount, List.filter_map, List.length_map, sseEvents, List.filter_filter]
    refine congrArg List.length (List.filter_congr fun event _ => ?_)
    cases hkind : event.kind <;> simp [hkind, StreamEvidenceRecord.sseEvidence,
      StreamEvidenceKind.isSse]
  rw [checkTokenEvidence_eq_ok, hsurrounded.eventsOfKind h.terminalKind (.inr rfl),
    hsurrounded.eventsOfKind h.terminalKind (.inr rfl), hdone]
  exact ⟨fun hchecks => hchecks.2.2, fun hcount => ⟨h.tokenCounts, h.tokenOffsets, hcount⟩⟩

/-- The raw chunks are numbered by their places. -/
theorem Returned.rawChunkSequence {server : ServerBehaviour}
    (h : Returned request server record observed terminal) :
    (rawChunkEvents observed).map (·.rawChunkSequence) =
      (List.range (rawChunkEvents observed).length).map some := by
  have hlength := congrArg List.length h.raw
  rw [List.length_map, List.length_mapIdx] at hlength
  calc (rawChunkEvents observed).map (·.rawChunkSequence)
      = ((rawChunkEvents observed).map (·.rawEvidence)).map (·.sequence) := by
        rw [List.map_map]
        rfl
    _ = (List.range (rawChunkEvents observed).length).map some := by
        rw [h.raw, hlength]
        exact List.ext_getElem (by simp) (by simp [rawChunkEvidence])

/-- The raw chunks of the record are those of the evidence, in their order. -/
theorem Returned.rawChunksOf {server : ServerBehaviour}
    (h : Returned request server record observed terminal)
    (hsurrounded : Surrounded record observed started terminal ended events) :
    rawChunksOf record events = rawChunkEvents observed := by
  have hfilter : (events.filter fun event =>
      event.requestId = record.requestId ∧ event.kind = .rawBodyChunk) =
        rawChunkEvents observed := by
    refine Eq.trans ?_ (hsurrounded.eventsOfKind h.terminalKind (.inl rfl))
    rw [Stage1.eventsOfKind, relatedEvents, List.filter_filter]
    refine List.filter_congr fun event _ => ?_
    rw [← Bool.decide_and]
    exact decide_eq_decide.mpr and_comm
  have hkeys : (rawChunkEvents observed).map
      (fun event => event.rawChunkSequence.elim (-1) Int.ofNat) =
        (List.range (rawChunkEvents observed).length).map Int.ofNat := by
    have hmap := congrArg (List.map fun sequence : Option ℕ => sequence.elim (-1) Int.ofNat)
      h.rawChunkSequence
    rw [List.map_map, List.map_map] at hmap
    exact hmap
  unfold Stage1.rawChunksOf sortedBy
  rw [hfilter]
  refine List.Pairwise.insertionSort_eq ?_
  rw [← List.pairwise_map (R := (· ≤ ·)), hkeys, List.pairwise_map]
  exact List.pairwise_lt_range.imp fun hlt => Int.ofNat_le.mpr hlt.le

/-- The chunks are intact. -/
theorem Returned.decodeChunk {server : ServerBehaviour}
    (h : Returned request server record observed terminal) :
    List.Forall₂ (fun event raw => decodeChunk event = .ok raw) (rawChunkEvents observed)
      (serverOutcome request.case.expectedOutputTokenCount server).rawChunks := by
  have hlength := congrArg List.length h.raw
  rw [List.length_map, List.length_mapIdx] at hlength
  refine List.forall₂_of_length_eq_of_get hlength fun i hi hj => ?_
  have hevidence : ((rawChunkEvents observed).get ⟨i, hi⟩).rawEvidence = rawChunkEvidence i
      ((serverOutcome request.case.expectedOutputTokenCount server).rawChunks.get ⟨i, hj⟩) := by
    have hget := List.getElem_of_eq h.raw (i := i) (by rw [List.length_map]; exact hi)
    simpa using hget
  refine decodeChunk_eq_ok.mpr ⟨?_, ?_, ?_⟩
  · have hbase64 := congrArg RawEvidence.base64 hevidence
    rw [show ((rawChunkEvents observed).get ⟨i, hi⟩).rawBytesBase64 = some _ from hbase64]
    exact b64decode_b64encode _
  · exact congrArg RawEvidence.byteCount hevidence
  · exact congrArg RawEvidence.sha256 hevidence

/-- The raw chunks are validated when their replay is. -/
theorem Returned.validateRawChunks_iff {server : ServerBehaviour}
    (h : Returned request server record observed terminal)
    (hsurrounded : Surrounded record observed started terminal ended events) :
    validateRawChunks record events = .ok () ↔
      ReplayAccepted record (replayOf server.status.toOption
        (serverOutcome request.case.expectedOutputTokenCount server).rawChunks) := by
  rw [validateRawChunks_eq_ok, h.rawChunksOf hsurrounded, h.httpStatus]
  constructor
  · rintro ⟨-, decoded, hdecoded, -, haccepted⟩
    have heq := (collect_eq_ok.mpr hdecoded).symm.trans (collect_eq_ok.mpr h.decodeChunk)
    rwa [Except.ok.inj heq] at haccepted
  · intro haccepted
    refine ⟨h.rawChunkSequence, _, h.decodeChunk, ?_, haccepted⟩
    rw [h.firstBody]

/-- **When the records of a request are validated**: the request succeeded, or its failure can be
seen again. -/
theorem Returned.validateRequest_iff {server : ServerBehaviour}
    (h : Returned request server record observed terminal)
    (hsurrounded : Surrounded record observed started terminal ended events) :
    validateRequest record events = .ok () ↔ record.terminalClass = .success ∨
      Reproducible server.status.toOption
        (serverOutcome request.case.expectedOutputTokenCount server) := by
  -- the failure of the record is that of the outcome
  have hkind : ∀ kind, (∃ failure ∈ record.failure, failure.kind = kind) ↔ ∃ failure ∈
      (serverOutcome request.case.expectedOutputTokenCount server).terminal.failure,
        failure.1 = kind := by
    intro kind
    rw [← h.failure]
    simp
  rw [validateRequest_eq_ok, and_iff_right (h.checkLifecycle hsurrounded),
    h.checkTokenEvidence_iff hsurrounded, h.validateRawChunks_iff hsurrounded]
  by_cases hsuccess : record.terminalClass = .success
  · -- a successful body is replayed with success
    have hclass := h.terminalClass.symm.trans hsuccess
    obtain ⟨hreplay, hparser, hdone⟩ := replayOf_of_success hclass
    refine iff_of_true ⟨by rw [if_pos hsuccess, hdone], ?_, ?_, ?_⟩ (.inl hsuccess)
    · intro error herror
      rw [hreplay] at herror
      cases herror
    · intro _
      rw [hreplay, h.tokenDeltas]
      exact ⟨rfl, hparser⟩
    · exact fun hne => absurd hsuccess hne
  -- a failure: the replay must show as many [DONE] frames, and fail in the same way
  · rw [if_neg hsuccess, or_iff_right hsuccess]
    constructor
    · rintro ⟨hdone, haccepted⟩
      refine ⟨hdone, fun hfailure => ?_, fun _ => haccepted.notRaised⟩
      exact haccepted.malformed hsuccess ((hkind _).mpr hfailure)
    · rintro ⟨hdone, hmalformed, hunexpected⟩
      refine ⟨hdone, fun error herror => ?_, fun h => absurd h hsuccess, fun _ hfailure => ?_⟩
      · by_cases hfailure : ∃ failure ∈
            (serverOutcome request.case.expectedOutputTokenCount server).terminal.failure,
            failure.1 = .unexpected
        · exact hunexpected hfailure error herror
        · refine replayOf_not_raised (fun failure hmem => ⟨fun hkind => ?_, fun hkind => ?_⟩) error
            herror
          · rw [hmalformed ⟨failure, hmem, hkind⟩] at herror
            cases herror
          · exact hfailure ⟨failure, hmem, hkind⟩
      · exact hmalformed ((hkind _).mp hfailure)

omit [Interpreter] in
/-- The evidence of a request on its own. -/
theorem surrounded_self
    (hown : ∀ event ∈ started :: (observed ++ [terminal, ended]),
      event.requestId = record.requestId)
    (hstarted : started.kind = .clientRequestStarted) (hended : ended.kind = .clientRequestEnded)
    (hbefore : started.observationOffsetNs ≤ record.timing.dispatchOffsetNs)
    (hafter : record.timing.terminalOffsetNs ≤ ended.observationOffsetNs) :
    Surrounded record observed started terminal ended
      (started :: (observed ++ [terminal, ended])) := by
  refine ⟨List.filter_eq_self.mpr fun event hevent => ?_, hstarted, hended, hbefore, hafter⟩
  exact decide_eq_true (hown event hevent)

end

end Stage1
