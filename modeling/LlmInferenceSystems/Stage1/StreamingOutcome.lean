import LlmInferenceSystems.CanonicalReading
import LlmInferenceSystems.Stage1.StreamingRuns

/-!
# The outcome of a request

Whatever the server does, a request that can be built, and whose response is closed without an
exception, returns a record of its own, and the evidence says what was read and accepted.

## Main definitions

* `Outcome`, `serverOutcome`: the chunks that are read, the evidence of the frames that are
  accepted, and how the request ends
* `Terminal.Sound`: the ends of a request that its record can say
* `Returned`: what a returned record and the evidence have in common
* `Numbered`: evidence without a gap in its numbers

## Main results

* `executeBody_running`: the body of a request comes to the outcome of the server's behaviour
* `executeStreamingRequest_returned`: a prepared request returns
-/

namespace Stage1

open Python Sse

/-- What a request comes to. -/
structure Outcome where
  rawChunks : List Bytes
  evidence : List SseEvidence
  terminal : Terminal

/-- How the loop over a body, `finalize` and the count of tokens end. -/
def streamTerminal (expectedOutputTokenCount : ℕ) (reading : BodyReading) : Terminal :=
  match reading.result with
  | .error error => error.terminal
  | .ok parser =>
    match (IncrementalSSEParser.finalize parser).1 with
    | .error error => (RequestError.sseProtocol error).terminal
    | .ok () =>
      if (reading.evidence.filterMap (·.tokenDeltaCount)).sum ≠ expectedOutputTokenCount then
        (RequestError.fixtureToken
          ⟨"fixture output count differs from the declared case"⟩).terminal
      else ⟨.success, none⟩

/-- The end of an error response. -/
def errorTerminal (status : ℕ) (ending : Option Interruption) : Terminal :=
  match ending with
  | none => ⟨.failed, some (.httpStatus, .httpStatus, lit "http-status-" ++ decimal status)⟩
  | some interruption => interruption.error.terminal

section

variable [Interpreter]

/-- The outcome of a server's behaviour. -/
def serverOutcome (expectedOutputTokenCount : ℕ) (server : ServerBehaviour) : Outcome :=
  match server.status with
  | .error interruption => ⟨[], [], interruption.error.terminal⟩
  | .ok status =>
    if isSuccessStatus status then
      let reading := readBody server.ending {} server.chunks
      ⟨reading.rawChunks, reading.evidence, streamTerminal expectedOutputTokenCount reading⟩
    else ⟨server.chunks.filter (· ≠ []), [], errorTerminal status server.ending⟩

variable {clock : ℕ → ℤ} {request : StreamingRequest} {runOriginNs : ℤ}
  {before events : List StreamEvidenceRecord} {rawChunks : List Bytes}
  {evidence : List SseEvidence} {s s' : RequestState}

/-- The body of an error response leaves its chunks. -/
theorem forEachErrorChunk_running (hprepared : Prepared clock request runOriginNs)
    (ending : Option Interruption) (chunks : List Bytes)
    (h : Running clock request runOriginNs before rawChunks evidence events s) :
    ∃ s' events', forEachChunk (readErrorChunk clock request) ending chunks s =
        ((bodyEnd ending s.parser).map fun _ => (), s') ∧
      Running clock request runOriginNs before (rawChunks ++ chunks.filter (· ≠ [])) evidence
        events' s' ∧
      s'.httpStatus = s.httpStatus := by
  induction chunks generalizing s rawChunks events with
  | nil =>
    refine ⟨s, events, ?_, by simpa using h, rfl⟩
    cases ending <;> rfl
  | cons rawChunk chunks ih =>
    rw [forEachChunk]
    rcases eq_or_ne rawChunk [] with rfl | hne
    · have hskip : readErrorChunk clock request [] s = (.ok (), s) := rfl
      rw [Method.bind_ok hskip]
      simpa using ih h
    · obtain ⟨t, events', hrecord, hrunning, hparser, hstatus, -⟩ :=
        recordRawChunk_running hprepared h rawChunk
      have hturn : readErrorChunk clock request rawChunk s = (.ok (), t) := by
        rw [readErrorChunk, if_neg hne, hrecord]
      obtain ⟨s', events'', hrest, hrunning', hstatus'⟩ := ih hrunning
      refine ⟨s', events'', ?_, ?_, hstatus'.trans hstatus⟩
      · rw [Method.bind_ok hturn, hrest, hparser]
      · simpa [hne, List.append_assoc] using hrunning'

/-- A request that was just dispatched. -/
theorem Running.start (hprepared : Prepared clock request runOriginNs)
    {collector : EvidenceCollector} (horigin : collector.runOriginNs = runOriginNs) :
    Running clock request runOriginNs collector.streamEvents [] [] []
      { collector, clockReads := 1 } := by
  have hle : clock 0 - runOriginNs ≤
      RequestState.nextOffset clock { collector, clockReads := 1 } := by
    rw [RequestState.nextOffset, EvidenceCollector.offsetNs, horigin]
    exact Int.sub_le_sub_right (hprepared.monotone (Nat.zero_le 1)) runOriginNs
  refine ⟨horigin, by simp, ⟨?_, ?_, rfl, rfl, fun _ => rfl⟩, ?_⟩
  · exact List.pairwise_singleton _ _
  · intro offset hoffset
    rw [List.mem_singleton.mp hoffset]
    exact hle
  · exact ⟨by simp, rfl, rfl, rfl, rfl, rfl, rfl, by simp, rfl⟩

/-- The response headers have come. -/
theorem Running.headers (hprepared : Prepared clock request runOriginNs)
    (h : Running clock request runOriginNs before [] [] [] s)
    (hheaders : s.responseHeadersOffset = none) (htokens : s.tokenEventOffsets = []) (status : ℕ) :
    Running clock request runOriginNs before [] [] []
      { s with
        clockReads := s.clockReads + 1
        responseHeadersOffset := some (s.nextOffset clock)
        httpStatus := some status } := by
  have hbody : s.firstBodyOffset = none := h.retained.firstBody.symm
  have hread := @Timed.append _ _ _
    { s with
      clockReads := s.clockReads + 1
      responseHeadersOffset := some (s.nextOffset clock)
      httpStatus := some status }
    h.timed
    (by simp [RequestState.offsets, hbody, htokens, hheaders])
    (hprepared.nextOffset_le rfl rfl)
  refine ⟨h.origin, h.streamEvents, ⟨hread.1, hread.2, h.timed.firstToken, h.timed.lastToken,
    h.timed.bodyFirst⟩, ?_⟩
  exact ⟨h.retained.own, h.retained.raw, h.retained.firstBody, h.retained.sse,
    h.retained.tokenOffsets, h.retained.tokenCounts, h.retained.tokenDeltas, h.retained.positive,
    h.retained.rawChunkSequence⟩

/-- The end of a stream that was read to its end. -/
theorem finishBody_running
    (h : Running clock request runOriginNs before rawChunks evidence events s)
    {reading : BodyReading} (hevidence : reading.evidence = evidence)
    (hresult : reading.result = .ok s.parser) :
    bodyTerminal (finishBody request s).1 =
        streamTerminal request.case.expectedOutputTokenCount reading ∧
      Running clock request runOriginNs before rawChunks evidence events (finishBody request s).2 ∧
      (finishBody request s).2.httpStatus = s.httpStatus := by
  have hcall : onParser IncrementalSSEParser.finalize s =
      ((IncrementalSSEParser.finalize s.parser).1.mapError .sseProtocol,
        { s with parser := (IncrementalSSEParser.finalize s.parser).2 }) := by
    rw [onParser, Method.onField]
    rcases IncrementalSSEParser.finalize s.parser with ⟨error | ⟨⟩, parser'⟩ <;> rfl
  rw [streamTerminal, hresult]
  dsimp only
  rcases hfinalize : IncrementalSSEParser.finalize s.parser with ⟨error | ⟨⟩, parser'⟩
  · rw [hfinalize] at hcall
    rw [finishBody, Method.bind_error hcall]
    exact ⟨rfl, h.parser parser', rfl⟩
  · rw [hfinalize] at hcall
    rw [finishBody, Method.bind_ok hcall, Method.self_bind, hevidence, ← h.retained.tokenDeltas]
    dsimp only
    by_cases hcount : s.tokenDeltas.sum ≠ request.case.expectedOutputTokenCount
    · rw [if_pos hcount, if_pos hcount]
      exact ⟨rfl, h.parser parser', rfl⟩
    · rw [if_neg hcount, if_neg hcount]
      exact ⟨rfl, h.parser parser', rfl⟩

/-- The body of a response whose headers have come. -/
theorem executeBody_of_status (collector : EvidenceCollector) {server : ServerBehaviour}
    {status : ℕ} (hstatus : server.status = .ok status) :
    ∃ s, s = { ({ collector, clockReads := 1 } : RequestState) with
        clockReads := 2
        responseHeadersOffset :=
          some (RequestState.nextOffset clock { collector, clockReads := 1 })
        httpStatus := some status } ∧
      executeBody clock request server { collector, clockReads := 1 } =
        if isSuccessStatus status then
          (forEachChunk (readChunk clock request) server.ending server.chunks >>= fun _ =>
            finishBody request) s
        else
          (forEachChunk (readErrorChunk clock request) server.ending server.chunks >>= fun _ =>
            pure ⟨.failed, some (.httpStatus, .httpStatus, lit "http-status-" ++ decimal status)⟩)
            s := by
  refine ⟨_, rfl, ?_⟩
  rw [executeBody, hstatus]
  show (if isSuccessStatus status then _ else _ : Method RequestState RequestError Terminal) _ = _
  split <;> rfl

/-- **The body of a request comes to the outcome of the server's behaviour.** -/
theorem executeBody_running (hprepared : Prepared clock request runOriginNs)
    {collector : EvidenceCollector} (horigin : collector.runOriginNs = runOriginNs)
    (server : ServerBehaviour) :
    ∃ events', bodyTerminal (executeBody clock request server { collector, clockReads := 1 }).1 =
        (serverOutcome request.case.expectedOutputTokenCount server).terminal ∧
      Running clock request runOriginNs collector.streamEvents
        (serverOutcome request.case.expectedOutputTokenCount server).rawChunks
        (serverOutcome request.case.expectedOutputTokenCount server).evidence events'
        (executeBody clock request server { collector, clockReads := 1 }).2 ∧
      (executeBody clock request server { collector, clockReads := 1 }).2.httpStatus =
        server.status.toOption := by
  have hstart := Running.start hprepared horigin
  cases hstatus : server.status with
  -- no response: nothing is recorded, and the error is the terminal class
  | error interruption =>
    have hbody : executeBody clock request server { collector, clockReads := 1 } =
        (.error interruption.error, { collector, clockReads := 1 }) := by
      rw [executeBody, hstatus]
      rfl
    rw [hbody, serverOutcome, hstatus]
    exact ⟨[], rfl, hstart, rfl⟩
  | ok status =>
    -- the response headers set the status and leave the parser new
    have hheaders := hstart.headers hprepared rfl rfl status
    obtain ⟨s, hs, hbody⟩ :=
      @executeBody_of_status _ clock request collector server status hstatus
    rw [show ({ collector, clockReads := 1 } : RequestState).clockReads + 1 = 2 from rfl,
      ← hs] at hheaders
    rw [hbody, serverOutcome, hstatus]
    have hhttp : s.httpStatus = some status := by rw [hs]
    have hparser : s.parser = {} := by rw [hs]
    by_cases hsuccess : isSuccessStatus status = true
    · simp only [if_pos hsuccess]
      -- a success: the chunks are parsed as they come, up to an error or to the end of the stream
      obtain ⟨t, events', hrun, hrunning, hresult, hkeep⟩ :=
        forEachChunk_running hprepared server.ending server.chunks hheaders
      rw [hparser] at hrun hrunning hresult
      rw [List.nil_append, List.nil_append] at hrunning
      cases hreading : (readBody server.ending {} server.chunks).result with
      | error error =>
        rw [hreading] at hrun
        rw [Method.bind_error hrun]
        refine ⟨events', ?_, hrunning, hkeep.trans hhttp⟩
        rw [streamTerminal, hreading]
        rfl
      | ok parser =>
        rw [hreading] at hrun
        rw [Method.bind_ok hrun]
        obtain rfl := hresult parser hreading
        obtain ⟨hterminal, hrunning', hkeep'⟩ := finishBody_running hrunning rfl hreading
        exact ⟨events', hterminal, hrunning', hkeep'.trans (hkeep.trans hhttp)⟩
    · simp only [if_neg hsuccess]
      -- not a success: the chunks are retained and not parsed
      obtain ⟨t, events', hrun, hrunning, hkeep⟩ :=
        forEachErrorChunk_running hprepared server.ending server.chunks hheaders
      rw [List.nil_append] at hrunning
      cases hending : server.ending with
      | none =>
        rw [hending] at hrun
        rw [Method.bind_ok hrun]
        exact ⟨events', rfl, hrunning, hkeep.trans hhttp⟩
      | some interruption =>
        rw [hending] at hrun
        rw [Method.bind_error hrun]
        exact ⟨events', rfl, hrunning, hkeep.trans hhttp⟩

/-! ## The record -/

omit [Interpreter] in
theorem nonNegative_toNat {field : String} {n : ℤ} (h : 0 ≤ n) :
    nonNegative field n = .ok n.toNat := if_neg (not_lt.mpr h)

omit [Interpreter] in
theorem nonNegative?_toNat {field : String} {n : Option ℤ} (h : ∀ m ∈ n, 0 ≤ m) :
    nonNegative? field n = .ok (n.map Int.toNat) := by
  cases n with
  | none => rfl
  | some n =>
    rw [nonNegative?, nonNegative_toNat (h n rfl)]
    rfl

/-- The timing of a request. -/
def RequestState.timing (s : RequestState) (dispatchOffset terminalOffset : ℤ) :
    Stage1TimingRecord where
  dispatchOffsetNs := dispatchOffset.toNat
  responseHeadersOffsetNs := s.responseHeadersOffset.map Int.toNat
  firstResponseBodyBytesOffsetNs := s.firstBodyOffset.map Int.toNat
  firstOutputTokenOffsetNs := s.firstTokenOffset.map Int.toNat
  lastOutputTokenOffsetNs := s.lastTokenOffset.map Int.toNat
  terminalOffsetNs := terminalOffset.toNat

/-- The record of a request that has ended. -/
def RequestState.record (s : RequestState) (request : StreamingRequest) (terminal : Terminal)
    (failure : Option Stage1FailureRecord) (inputTokenCount : ℕ)
    (dispatchOffset terminalOffset : ℤ) : Stage1RequestRecord where
  requestId := request.requestId
  caseId := request.case.caseId
  phase := request.phase
  terminalClass := terminal.terminalClass
  httpStatus := s.httpStatus
  timing := s.timing dispatchOffset terminalOffset
  inputTokenCount := inputTokenCount
  outputTokenCount := s.tokenDeltas.sum
  tokenEventDeltaCounts := s.tokenDeltas
  tokenEventObservationOffsetsNs := s.tokenEventOffsets.map Int.toNat
  perTokenObservationComplete := s.tokenDeltas.all (· == 1)
  sloSatisfied := terminal.terminalClass = .success ∧
    terminalOffset - dispatchOffset ≤ request.successfulEndToEndThresholdNs
  failure := failure

/-- The variables of a request whose offsets are not negative. -/
structure RequestState.Past (s : RequestState) : Prop where
  headers : ∀ offset ∈ s.responseHeadersOffset, 0 ≤ offset
  firstBody : ∀ offset ∈ s.firstBodyOffset, 0 ≤ offset
  firstToken : ∀ offset ∈ s.firstTokenOffset, 0 ≤ offset
  lastToken : ∀ offset ∈ s.lastTokenOffset, 0 ≤ offset
  tokens : ∀ offset ∈ s.tokenEventOffsets, 0 ≤ offset

omit [Interpreter] in
theorem requestRecord_eq (hpast : s.Past) (terminal : Terminal)
    (failure : Option Stage1FailureRecord) (inputTokenCount : ℕ) {dispatchOffset terminalOffset : ℤ}
    (hdispatch : 0 ≤ dispatchOffset) (hterminal : 0 ≤ terminalOffset) :
    requestRecord request s terminal failure inputTokenCount dispatchOffset terminalOffset =
      (s.record request terminal failure inputTokenCount dispatchOffset
        terminalOffset).modelValidate := by
  have htokens : collect (nonNegative "token_event_observation_offsets_ns") s.tokenEventOffsets =
      .ok (s.tokenEventOffsets.map Int.toNat) := by
    rw [collect_eq_ok, List.forall₂_map_right_iff, List.forall₂_same]
    exact fun offset hoffset => nonNegative_toNat (hpast.tokens offset hoffset)
  unfold requestRecord
  rw [nonNegative_toNat hdispatch, nonNegative_toNat hterminal, nonNegative?_toNat hpast.headers,
    nonNegative?_toNat hpast.firstBody, nonNegative?_toNat hpast.firstToken,
    nonNegative?_toNat hpast.lastToken, htokens]
  rfl

omit [Interpreter] in
/-- The offsets come after the dispatch. -/
theorem Timed.past_of_dispatch {dispatchOffset : ℤ} (h : Timed clock dispatchOffset s)
    (hdispatch : 0 ≤ dispatchOffset) : s.Past := by
  have hoffsets : ∀ offset ∈ s.offsets, 0 ≤ offset := fun offset hoffset =>
    hdispatch.trans ((List.pairwise_cons.mp h.ordered).1 offset hoffset)
  have htokens : ∀ offset ∈ s.tokenEventOffsets, 0 ≤ offset := fun offset hoffset =>
    hoffsets offset (by simp [RequestState.offsets, hoffset])
  refine ⟨fun offset hoffset => hoffsets offset ?_, fun offset hoffset => hoffsets offset ?_,
    fun offset hoffset => htokens offset ?_, fun offset hoffset => htokens offset ?_, htokens⟩
  · simp [RequestState.offsets, Option.mem_toList.mpr hoffset]
  · simp [RequestState.offsets, Option.mem_toList.mpr hoffset]
  · rw [h.firstToken] at hoffset
    exact List.mem_of_mem_head? hoffset
  · rw [h.lastToken] at hoffset
    exact List.mem_of_getLast? hoffset

omit [Interpreter] in
/-- The observations of the timing, in the order they were read in. -/
theorem Timed.present {dispatchOffset terminalOffset : ℤ} (h : Timed clock dispatchOffset s) :
    (s.timing dispatchOffset terminalOffset).present =
      ((s.responseHeadersOffset.toList ++ s.firstBodyOffset.toList) ++
        (s.tokenEventOffsets.head?.toList ++ s.tokenEventOffsets.getLast?.toList)).map
          Int.toNat := by
  rw [← h.firstToken, ← h.lastToken]
  unfold Stage1TimingRecord.present RequestState.timing
  cases s.responseHeadersOffset <;> cases s.firstBodyOffset <;> cases s.firstTokenOffset <;>
    cases s.lastTokenOffset <;> rfl

omit [Interpreter] in
/-- The timing of a request is chronological. -/
theorem Timed.validateChronology {dispatchOffset : ℤ} (h : Timed clock dispatchOffset s) :
    (s.timing dispatchOffset (s.nextOffset clock)).validateChronology = .ok () := by
  obtain ⟨hfirst, hordered⟩ := List.pairwise_cons.mp h.ordered
  have hends : ∀ offset ∈ s.tokenEventOffsets.head?.toList ++ s.tokenEventOffsets.getLast?.toList,
      offset ∈ s.tokenEventOffsets := by
    intro offset hoffset
    rcases List.mem_append.mp hoffset with hoffset | hoffset
    · exact List.mem_of_mem_head? (Option.mem_toList.mp hoffset)
    · exact List.mem_of_getLast? (Option.mem_toList.mp hoffset)
  have hmem : ∀ offset ∈ (s.responseHeadersOffset.toList ++ s.firstBodyOffset.toList) ++
      (s.tokenEventOffsets.head?.toList ++ s.tokenEventOffsets.getLast?.toList),
      offset ∈ s.offsets := by
    intro offset hoffset
    rcases List.mem_append.mp hoffset with hoffset | hoffset
    · exact List.mem_append_left _ hoffset
    · exact List.mem_append_right _ (hends offset hoffset)
  have hinterval := h.past dispatchOffset List.mem_cons_self
  unfold Stage1TimingRecord.validateChronology
  rw [h.present]
  have hearly : ¬ (s.timing dispatchOffset (s.nextOffset clock)).terminalOffsetNs <
      (s.timing dispatchOffset (s.nextOffset clock)).dispatchOffsetNs :=
    not_lt.mpr (Int.toNat_le_toNat hinterval)
  have hwithin : ¬ ∃ value ∈ ((s.responseHeadersOffset.toList ++ s.firstBodyOffset.toList) ++
        (s.tokenEventOffsets.head?.toList ++ s.tokenEventOffsets.getLast?.toList)).map Int.toNat,
      value < (s.timing dispatchOffset (s.nextOffset clock)).dispatchOffsetNs ∨
        (s.timing dispatchOffset (s.nextOffset clock)).terminalOffsetNs < value := by
    push Not
    intro value hvalue
    obtain ⟨offset, hoffset, rfl⟩ := List.mem_map.mp hvalue
    have hoffset := hmem offset hoffset
    exact ⟨Int.toNat_le_toNat (hfirst offset hoffset),
      Int.toNat_le_toNat (h.past offset (List.mem_cons_of_mem _ hoffset))⟩
  have hsorted : (((s.responseHeadersOffset.toList ++ s.firstBodyOffset.toList) ++
      (s.tokenEventOffsets.head?.toList ++ s.tokenEventOffsets.getLast?.toList)).map
        Int.toNat).Pairwise (· ≤ ·) := by
    obtain ⟨hbefore, htokens, hafter⟩ := List.pairwise_append.mp hordered
    refine List.pairwise_map.mpr (List.Pairwise.imp Int.toNat_le_toNat ?_)
    refine List.pairwise_append.mpr ⟨hbefore, ?_, fun a ha b hb => hafter a ha b (hends b hb)⟩
    -- the first token is not after the last
    cases hlist : s.tokenEventOffsets with
    | nil => simp
    | cons first rest =>
      rw [hlist] at htokens
      have hlast := List.getLast?_eq_some_getLast (List.cons_ne_nil first rest)
      rw [hlast]
      have hle : first ≤ (first :: rest).getLast (List.cons_ne_nil _ _) := by
        rcases List.mem_cons.mp (List.getLast_mem (List.cons_ne_nil first rest)) with heq | hmem
        · exact heq.ge
        · exact (List.pairwise_cons.mp htokens).1 _ hmem
      simpa using hle
  have htogether : (s.timing dispatchOffset (s.nextOffset clock)).firstOutputTokenOffsetNs = none ↔
      (s.timing dispatchOffset (s.nextOffset clock)).lastOutputTokenOffsetNs = none := by
    simp [RequestState.timing, h.firstToken, h.lastToken]
  rw [if_neg hearly, if_neg hwithin, if_neg (not_not.mpr (sorted_eq_self.mpr hsorted).symm),
    if_neg (not_not.mpr htogether)]

/-! ## How a request can end -/

/-- A failure of a kind that goes with the class, and a code that is an identifier; a success has
none. -/
inductive Terminal.Sound : Terminal → Prop
  | success : Sound ⟨.success, none⟩
  | timeout (origin : FailureOrigin) {errorCode : Str} (code : IsIdentifier errorCode) :
      Sound ⟨.timeout, some (.timeout, origin, errorCode)⟩
  | cancelled (origin : FailureOrigin) {errorCode : Str} (code : IsIdentifier errorCode) :
      Sound ⟨.cancelled, some (.cancelled, origin, errorCode)⟩
  | failed {kind : Stage1FailureKind} (origin : FailureOrigin) {errorCode : Str}
      (timeout : kind ≠ .timeout) (cancelled : kind ≠ .cancelled) (code : IsIdentifier errorCode) :
      Sound ⟨.failed, some (kind, origin, errorCode)⟩

omit [Interpreter] in
theorem RequestError.sound_terminal (error : RequestError) : error.terminal.Sound := by
  cases error with
  | timeout => exact .timeout _ (by decide)
  | cancelled => exact .cancelled _ (by decide)
  | _ => exact .failed _ (by decide) (by decide) (by decide)

omit [Interpreter] in
theorem isIdentifier_httpStatus {status : ℕ} (h : status < 1000) :
    IsIdentifier (lit "http-status-" ++ decimal status) := by
  have hdecimal : (decimal status).length ≤ 3 := Json.length_decimal_le (by norm_num) h
  have htext : (lit "http-status-").length = 12 := by decide
  refine ⟨?_, ?_, ?_⟩
  · rw [List.length_append]
    omega
  · rw [List.length_append]
    omega
  · exact (encodable_lit _).append (encodable_of_ascii fun c hc => by
      have := decimal_ascii hc
      omega)

omit [Interpreter] in
theorem sound_errorTerminal {status : ℕ} (h : status < 1000) (ending : Option Interruption) :
    (errorTerminal status ending).Sound := by
  cases ending with
  | none => exact .failed _ (by decide) (by decide) (isIdentifier_httpStatus h)
  | some interruption => exact RequestError.sound_terminal _

omit [Interpreter] in
theorem sound_streamTerminal (expectedOutputTokenCount : ℕ) (reading : BodyReading) :
    (streamTerminal expectedOutputTokenCount reading).Sound := by
  unfold streamTerminal
  split
  · exact RequestError.sound_terminal _
  · split
    · exact RequestError.sound_terminal _
    · split
      · exact RequestError.sound_terminal _
      · exact .success

/-- A request ends in a way that its record can say; a success has a successful status. -/
theorem sound_serverOutcome {expectedOutputTokenCount : ℕ} {server : ServerBehaviour}
    (hstatus : ∀ status, server.status = .ok status → status < 1000) :
    (serverOutcome expectedOutputTokenCount server).terminal.Sound ∧
      ((serverOutcome expectedOutputTokenCount server).terminal.terminalClass = .success →
        ∃ status, server.status = .ok status ∧ isSuccessStatus status = true) := by
  unfold serverOutcome
  cases hserver : server.status with
  | error interruption =>
    refine ⟨RequestError.sound_terminal _, fun h => ?_⟩
    cases interruption <;> cases h
  | ok status =>
    dsimp only
    split
    · next hsuccess => exact ⟨sound_streamTerminal _ _, fun _ => ⟨status, rfl, hsuccess⟩⟩
    · refine ⟨sound_errorTerminal (hstatus status hserver) _, fun h => ?_⟩
      cases hending : server.ending with
      | none =>
        rw [hending] at h
        cases h
      | some interruption =>
        rw [hending] at h
        cases interruption <;> cases h

/-- The failure of a terminal, as it is recorded. -/
def Terminal.failureRecord (terminal : Terminal) (request : StreamingRequest)
    (terminalOffset : ℤ) : Option Stage1FailureRecord :=
  terminal.failure.map fun failure =>
    { kind := failure.1
      origin := failure.2.1
      errorCode := failure.2.2
      occurredOffsetNs := terminalOffset.toNat
      timeoutPolicy := if failure.1 = .timeout then some request.timeoutPolicy else none }

omit [Interpreter] in
/-- The failure of a terminal is valid. -/
theorem Terminal.Sound.check {terminal : Terminal} (h : terminal.Sound)
    (hpolicy : request.timeoutPolicy.IsPositive) (terminalOffset : ℤ) :
    ∀ failure ∈ terminal.failureRecord request terminalOffset, failure.check = .ok () := by
  intro failure hfailure
  obtain ⟨⟨kind, origin, errorCode⟩, hterminal, rfl⟩ := Option.map_eq_some_iff.mp hfailure
  have hcode : IsIdentifier errorCode := by
    cases h with
    | success => cases hterminal
    | timeout origin code => cases hterminal; exact code
    | cancelled origin code => cases hterminal; exact code
    | failed origin _ _ code => cases hterminal; exact code
  unfold Stage1FailureRecord.check
  rw [if_neg (not_not.mpr hcode)]
  by_cases htimeout : kind = .timeout
  · simp [htimeout, hpolicy]
  · simp [htimeout]

omit [Interpreter] in
theorem failureRecord_eq_ok {terminal : Terminal} (h : terminal.Sound)
    (hpolicy : request.timeoutPolicy.IsPositive) {terminalOffset : ℤ}
    (hterminal : 0 ≤ terminalOffset) : failureRecord request terminal terminalOffset =
      .ok (terminal.failureRecord request terminalOffset) := by
  have hcheck := h.check hpolicy terminalOffset
  unfold failureRecord
  unfold Terminal.failureRecord at hcheck ⊢
  cases hfailure : terminal.failure with
  | none => rfl
  | some failure =>
    obtain ⟨kind, origin, errorCode⟩ := failure
    rw [hfailure] at hcheck
    refine bind_eq_ok.mpr ⟨_, nonNegative_toNat hterminal, ?_⟩
    exact bind_eq_ok.mpr ⟨(), hcheck _ rfl, rfl⟩

omit [Interpreter] in
/-- What the record says of the terminal. -/
theorem Terminal.Sound.checkTerminalClass {terminal : Terminal} (h : terminal.Sound)
    (hsuccess : terminal.terminalClass = .success → ∃ status ∈ s.httpStatus,
      isSuccessStatus status = true) (inputTokenCount : ℕ) (dispatchOffset terminalOffset : ℤ) :
    (s.record request terminal (terminal.failureRecord request terminalOffset) inputTokenCount
      dispatchOffset terminalOffset).checkTerminalClass = .ok () := by
  unfold Stage1RequestRecord.checkTerminalClass
  cases h with
  | success =>
    obtain ⟨status, hmem, hstatus⟩ := hsuccess rfl
    have hrange : 200 ≤ status ∧ status < 300 := by
      simpa [isSuccessStatus] using hstatus
    rw [if_pos (by rfl), if_neg (by simp [RequestState.record, Terminal.failureRecord]),
      if_neg (not_not.mpr ⟨status, hmem, hrange⟩)]
  | timeout origin code => simp [RequestState.record, Terminal.failureRecord]
  | cancelled origin code => simp [RequestState.record, Terminal.failureRecord]
  | failed origin htimeout hcancelled code =>
    simp [RequestState.record, Terminal.failureRecord, htimeout, hcancelled]

/-- What the record says of the token events. -/
theorem Running.checkTokenEvents
    (h : Running clock request runOriginNs before rawChunks evidence events s)
    (terminal : Terminal) (failure : Option Stage1FailureRecord) (inputTokenCount : ℕ)
    (dispatchOffset terminalOffset : ℤ) :
    (s.record request terminal failure inputTokenCount dispatchOffset
      terminalOffset).checkTokenEvents = .ok () := by
  have hlength : s.tokenDeltas.length = (s.tokenEventOffsets.map Int.toNat).length := by
    have hcounts := congrArg List.length h.retained.tokenCounts
    have hoffsets := congrArg List.length h.retained.tokenOffsets
    simp only [List.length_map] at hcounts hoffsets ⊢
    omega
  have hfirst : s.firstTokenOffset.map Int.toNat = (s.tokenEventOffsets.map Int.toNat).head? := by
    rw [h.timed.firstToken, List.head?_map]
  have hlast : s.lastTokenOffset.map Int.toNat =
      (s.tokenEventOffsets.map Int.toNat).getLast? := by
    rw [h.timed.lastToken, List.getLast?_map]
  unfold Stage1RequestRecord.checkTokenEvents RequestState.record RequestState.timing
  dsimp only
  rw [if_neg (not_not.mpr hlength), if_neg (not_not.mpr rfl), if_neg (fun h => h.2 hfirst),
    if_neg (fun h => h.2 hlast), if_neg]
  rintro ⟨hcomplete, delta, hdelta, hne⟩
  exact hne (by simpa using List.all_eq_true.mp hcomplete delta hdelta)

omit [Interpreter] in
/-- A record is valid when its fields and its parts are. -/
theorem Stage1RequestRecord.modelValidate_of_checks {record : Stage1RequestRecord}
    (hrequest : IsIdentifier record.requestId) (hcase : IsIdentifier record.caseId)
    (hstatus : ∀ status ∈ record.httpStatus, 100 ≤ status ∧ status ≤ 599)
    (hdeltas : ∀ delta ∈ record.tokenEventDeltaCounts, 0 < delta)
    (htiming : record.timing.validateChronology = .ok ())
    (hfailure : ∀ failure ∈ record.failure, failure.check = .ok ())
    (hclass : record.checkTerminalClass = .ok ()) (htokens : record.checkTokenEvents = .ok ())
    (htime : record.checkFailureTime = .ok ()) : record.modelValidate = .ok record := by
  have hcheck : record.failure.elim (.ok ()) Stage1FailureRecord.check = .ok () := by
    cases h : record.failure with
    | none => rfl
    | some failure => exact hfailure failure h
  unfold Stage1RequestRecord.modelValidate
  rw [if_neg (not_not.mpr hrequest), if_neg (not_not.mpr hcase), if_neg (not_not.mpr hstatus),
    if_neg (not_not.mpr hdeltas)]
  refine bind_eq_ok.mpr ⟨(), htiming, bind_eq_ok.mpr ⟨(), hcheck, bind_eq_ok.mpr ⟨(), hclass, ?_⟩⟩⟩
  exact bind_eq_ok.mpr ⟨(), htokens, bind_eq_ok.mpr ⟨(), htime, rfl⟩⟩

/-- **The record of a request that has ended is valid.** -/
theorem Running.modelValidate (hprepared : Prepared clock request runOriginNs)
    (h : Running clock request runOriginNs before rawChunks evidence events s)
    {terminal : Terminal} (hsound : terminal.Sound)
    (hstatus : ∀ status ∈ s.httpStatus, 100 ≤ status ∧ status ≤ 599)
    (hsuccess : terminal.terminalClass = .success → ∃ status ∈ s.httpStatus,
      isSuccessStatus status = true)
    (hpolicy : request.timeoutPolicy.IsPositive) (inputTokenCount : ℕ) :
    (s.record request terminal (terminal.failureRecord request (s.nextOffset clock))
        inputTokenCount (clock 0 - runOriginNs) (s.nextOffset clock)).modelValidate =
      .ok (s.record request terminal (terminal.failureRecord request (s.nextOffset clock))
        inputTokenCount (clock 0 - runOriginNs) (s.nextOffset clock)) := by
  have htime : (s.record request terminal (terminal.failureRecord request (s.nextOffset clock))
      inputTokenCount (clock 0 - runOriginNs) (s.nextOffset clock)).checkFailureTime = .ok () := by
    unfold Stage1RequestRecord.checkFailureTime
    rw [if_neg]
    push Not
    intro failure hfailure
    obtain ⟨_, -, rfl⟩ := Option.map_eq_some_iff.mp hfailure
    exact ⟨Int.toNat_le_toNat (h.timed.past _ List.mem_cons_self), le_refl _⟩
  exact Stage1RequestRecord.modelValidate_of_checks hprepared.requestId hprepared.caseId hstatus
    h.retained.positive h.timed.validateChronology (hsound.check hpolicy _)
    (hsound.checkTerminalClass hsuccess _ _ _) (h.checkTokenEvents _ _ _ _ _) htime

/-! ## The terminal event -/

/-- The event of a terminal. -/
def terminalEvent (request : StreamingRequest) (terminal : Terminal) (sequence : ℕ)
    (terminalOffset : ℤ) : StreamEvidenceRecord :=
  StreamObservation.event
    { request.observation .requestTerminal terminalOffset with
      terminalClass := some terminal.terminalClass
      failureKind := terminal.failure.map (·.1) } sequence terminalOffset.toNat

/-- The event of a terminal is valid. -/
theorem Terminal.Sound.modelValidate_event {terminal : Terminal} (h : terminal.Sound)
    (hprepared : Prepared clock request runOriginNs) (sequence : ℕ) (terminalOffset : ℤ) :
    (terminalEvent request terminal sequence terminalOffset).modelValidate =
      .ok (terminalEvent request terminal sequence terminalOffset) := by
  apply StreamEvidenceRecord.modelValidate_of_checks hprepared.requestId hprepared.caseId
  · simp [terminalEvent, StreamObservation.event, StreamingRequest.observation]
  · rfl
  · rfl
  · unfold StreamEvidenceRecord.checkTerminalFields
    rw [if_pos (by rfl)]
    cases h with
    | success => rfl
    | timeout origin code => rfl
    | cancelled origin code => rfl
    | @failed kind origin errorCode htimeout hcancelled code =>
      simp [terminalEvent, StreamObservation.event, htimeout, hcancelled]

/-- What a returned record and the evidence of the request have in common. -/
structure Returned (request : StreamingRequest) (server : ServerBehaviour)
    (record : Stage1RequestRecord) (observed : List StreamEvidenceRecord)
    (terminal : StreamEvidenceRecord) : Prop where
  valid : record.modelValidate = .ok record
  requestId : record.requestId = request.requestId
  caseId : record.caseId = request.case.caseId
  phase : record.phase = request.phase
  httpStatus : record.httpStatus = server.status.toOption
  terminalClass : record.terminalClass =
    (serverOutcome request.case.expectedOutputTokenCount server).terminal.terminalClass
  failure : record.failure.map (fun failure => (failure.kind, failure.origin, failure.errorCode)) =
    (serverOutcome request.case.expectedOutputTokenCount server).terminal.failure
  tokenDeltas : record.tokenEventDeltaCounts =
    (serverOutcome request.case.expectedOutputTokenCount server).evidence.filterMap
      (·.tokenDeltaCount)
  own : ∀ event ∈ observed, OwnEvidence request event
  raw : (rawChunkEvents observed).map (·.rawEvidence) =
    (serverOutcome request.case.expectedOutputTokenCount server).rawChunks.mapIdx rawChunkEvidence
  firstBody : (rawChunkEvents observed).head?.map (·.observationOffsetNs) =
    record.timing.firstResponseBodyBytesOffsetNs
  sse : (sseEvents observed).map (·.sseEvidence) =
    (serverOutcome request.case.expectedOutputTokenCount server).evidence
  tokenOffsets : (tokenEvents observed).map (·.observationOffsetNs) =
    record.tokenEventObservationOffsetsNs
  tokenCounts : (tokenEvents observed).map (·.tokenDeltaCount) =
    record.tokenEventDeltaCounts.map some
  terminalOwn : terminal.requestId = request.requestId ∧ terminal.caseId = request.case.caseId ∧
    terminal.phase = request.phase
  terminalKind : terminal.kind = .requestTerminal
  terminalClassEvent : terminal.terminalClass = some record.terminalClass
  terminalFailure : terminal.failureKind = record.failure.map (·.kind)
  terminalOffset : terminal.observationOffsetNs = record.timing.terminalOffsetNs

/-- What follows the `try` statement, when the terminal event is recorded. -/
theorem finishRequest_of_recorded {terminal : Terminal} {failure : Option Stage1FailureRecord}
    (hfailure : failureRecord request terminal (s.nextOffset clock) = .ok failure)
    {event : StreamEvidenceRecord} {collector : EvidenceCollector}
    (hevent : s.collector.recordStreamEvent (clock s.clockReads)
      { request.observation .requestTerminal (s.nextOffset clock) with
        terminalClass := some terminal.terminalClass
        failureKind := terminal.failure.map (·.1) } = .ok (event, collector))
    (inputTokenCount : ℕ) (dispatchOffset : ℤ) :
    finishRequest request clock inputTokenCount dispatchOffset terminal s =
      (requestRecord request s terminal failure inputTokenCount dispatchOffset
        (s.nextOffset clock), collector) := by
  dsimp only at hevent
  unfold finishRequest
  dsimp only
  rw [hfailure]
  dsimp only
  rw [hevent]

/-- A request that can be built and whose response is closed without an exception is finished. -/
theorem executeStreamingRequest_of_closed {tokens : List Str}
    (hinput : parseInputTokens request.case.inputText = .ok tokens) {server : ServerBehaviour}
    (hbuilt : server.built = .ok ()) (hclosed : server.closed = none)
    {collector : EvidenceCollector} {result : Except RequestError Terminal}
    (hbody : executeBody clock request server { collector, clockReads := 1 } = (result, s)) :
    executeStreamingRequest request clock server collector =
      ((finishRequest request clock tokens.length (collector.offsetNs (clock 0))
          (bodyTerminal result) s).1.mapError .other,
        (finishRequest request clock tokens.length (collector.offsetNs (clock 0))
          (bodyTerminal result) s).2) := by
  unfold executeStreamingRequest
  rw [hinput, hbuilt]
  dsimp only
  rw [hbody, hclosed]

omit [Interpreter] in
theorem ok_of_mapError {α ε ε' : Type} {f : ε → ε'} {x : Except ε α} {a : α}
    (h : x.mapError f = .ok a) : x = .ok a := by
  cases x with
  | error e => cases h
  | ok b => exact congrArg Except.ok (Except.ok.inj h)

/-- The record and the evidence of a request whose body has come to the outcome of the server's
behaviour. -/
theorem Running.returned {server : ServerBehaviour} {observed : List StreamEvidenceRecord}
    (h : Running clock request runOriginNs before
      (serverOutcome request.case.expectedOutputTokenCount server).rawChunks
      (serverOutcome request.case.expectedOutputTokenCount server).evidence observed s)
    (hhttp : s.httpStatus = server.status.toOption) {terminal : Terminal}
    (hterminal : terminal =
      (serverOutcome request.case.expectedOutputTokenCount server).terminal)
    {record : Stage1RequestRecord} {inputTokenCount : ℕ} {dispatchOffset terminalOffset : ℤ}
    (hrecord : record = s.record request terminal
      (terminal.failureRecord request terminalOffset) inputTokenCount dispatchOffset
      terminalOffset)
    (hvalid : record.modelValidate = .ok record) (sequence : ℕ) :
    Returned request server record observed
      (terminalEvent request terminal sequence terminalOffset) := by
  have hfailure : record.failure = terminal.failureRecord request terminalOffset := by
    rw [hrecord]
    rfl
  -- the offsets of the evidence are the naturals of the offsets the variables hold
  have htoNat : ∀ events : List StreamEvidenceRecord,
      events.map (·.observationOffsetNs) =
        (events.map fun event => (event.observationOffsetNs : ℤ)).map Int.toNat := by
    intro events
    rw [List.map_map]
    exact List.map_congr_left fun event _ => (Int.toNat_natCast _).symm
  refine
    { valid := hvalid
      requestId := by rw [hrecord]; rfl
      caseId := by rw [hrecord]; rfl
      phase := by rw [hrecord]; rfl
      httpStatus := by rw [hrecord]; exact hhttp
      terminalClass := by rw [hrecord, ← hterminal]; rfl
      failure := ?_
      tokenDeltas := by rw [hrecord]; exact h.retained.tokenDeltas
      own := h.retained.own
      raw := h.retained.raw
      firstBody := ?_
      sse := h.retained.sse
      tokenOffsets := ?_
      tokenCounts := by rw [hrecord]; exact h.retained.tokenCounts
      terminalOwn := ⟨rfl, rfl, rfl⟩
      terminalKind := rfl
      terminalClassEvent := by rw [hrecord]; rfl
      terminalFailure := ?_
      terminalOffset := by rw [hrecord]; rfl }
  · rw [hfailure, ← hterminal]
    unfold Terminal.failureRecord
    cases terminal.failure <;> rfl
  · rw [show record.timing.firstResponseBodyBytesOffsetNs = s.firstBodyOffset.map Int.toNat by
      rw [hrecord]; rfl, ← h.retained.firstBody]
    cases (rawChunkEvents observed).head? <;> rfl
  · rw [show record.tokenEventObservationOffsetsNs = s.tokenEventOffsets.map Int.toNat by
      rw [hrecord]; rfl, ← h.retained.tokenOffsets]
    exact htoNat _
  · rw [hfailure]
    unfold Terminal.failureRecord
    show terminal.failure.map _ = _
    cases terminal.failure <;> rfl

/-- A request that is prepared returns, and its evidence is followed by one terminal event. -/
theorem exists_returned (hprepared : Prepared clock request runOriginNs)
    (hpolicy : request.timeoutPolicy.IsPositive) {tokens : List Str}
    (hinput : parseInputTokens request.case.inputText = .ok tokens) {server : ServerBehaviour}
    (hbuilt : server.built = .ok ()) (hclosed : server.closed = none)
    (hstatus : ∀ status, server.status = .ok status → 100 ≤ status ∧ status ≤ 599)
    {collector : EvidenceCollector} (horigin : collector.runOriginNs = runOriginNs) :
    ∃ record observed terminal,
      executeStreamingRequest request clock server collector =
        (.ok record, { collector with
          streamEvents := collector.streamEvents ++ observed ++ [terminal] }) ∧
      Returned request server record observed terminal := by
  -- what the body came to, and that it was recorded soundly
  obtain ⟨observed, hterminal, hrunning, hhttp⟩ := executeBody_running hprepared horigin server
  obtain ⟨hsound, hsuccess⟩ := @sound_serverOutcome _ request.case.expectedOutputTokenCount server
    fun status h => (hstatus status h).2.trans_lt (by norm_num)
  obtain ⟨result, s, hbody⟩ : ∃ result s,
      executeBody clock request server { collector, clockReads := 1 } = (result, s) := ⟨_, _, rfl⟩
  rw [hbody] at hterminal hrunning hhttp
  dsimp only at hterminal hrunning hhttp
  have hnext := hprepared.nextOffset_nonneg hrunning.origin
  have hdispatch : 0 ≤ clock 0 - runOriginNs := by
    have := hprepared.origin
    omega
  rw [← hterminal] at hsound hsuccess
  -- the record passes every check of its own
  have hvalid := hrunning.modelValidate hprepared hsound
    (fun status hmem => hstatus status (ok_of_toOption (hhttp.symm.trans hmem)))
    (fun hclass => by
      obtain ⟨status, hok, hrange⟩ := hsuccess hclass
      exact ⟨status, by rw [hhttp, hok]; rfl, hrange⟩) hpolicy tokens.length
  -- the terminal event is retained after all the others
  have hrecorded : s.collector.recordStreamEvent (clock s.clockReads)
      { request.observation .requestTerminal (s.nextOffset clock) with
        terminalClass := some (bodyTerminal result).terminalClass
        failureKind := (bodyTerminal result).failure.map (·.1) } =
      .ok (terminalEvent request (bodyTerminal result) s.collector.streamEvents.length
          (s.nextOffset clock),
        { s.collector with streamEvents := s.collector.streamEvents ++
          [terminalEvent request (bodyTerminal result) s.collector.streamEvents.length
            (s.nextOffset clock)] }) := by
    refine @recordStreamEvent_of_valid _ _ _ _ (s.nextOffset clock) ?_ hnext _ rfl ?_
    · rfl
    · exact hsound.modelValidate_event hprepared _ _
  -- so the call returns the record, and the collector holds both
  have hreturned := executeStreamingRequest_of_closed hinput hbuilt hclosed hbody
  rw [finishRequest_of_recorded (failureRecord_eq_ok hsound hpolicy hnext) hrecorded,
    requestRecord_eq (hrunning.timed.past_of_dispatch hdispatch) _ _ _
      (by rw [EvidenceCollector.offsetNs, horigin]; exact hdispatch) hnext,
    EvidenceCollector.offsetNs, horigin, hvalid] at hreturned
  refine ⟨_, observed, terminalEvent request (bodyTerminal result)
    s.collector.streamEvents.length (s.nextOffset clock),
    hreturned.trans (congrArg (Prod.mk _) ?_), hrunning.returned hhttp hterminal rfl hvalid _⟩
  rw [← hrunning.streamEvents]
  -- the origin of the run is that of the collector it started with
  have heta : ∀ c : EvidenceCollector, c.runOriginNs = collector.runOriginNs →
      ∀ events, { c with streamEvents := events } =
        { collector with streamEvents := events } := by
    rintro ⟨origin, _⟩ rfl events
    rfl
  exact heta _ (hrunning.origin.trans horigin.symm) _

/-! ## The numbers of the evidence -/

/-- Evidence that is numbered from 0 without a gap. -/
def Numbered (events : List StreamEvidenceRecord) : Prop :=
  events.map (·.sequence) = List.range events.length

omit [Interpreter] in
theorem Numbered.concat (h : Numbered events) {event : StreamEvidenceRecord}
    (hevent : event.sequence = events.length) : Numbered (events ++ [event]) := by
  unfold Numbered at h ⊢
  rw [List.map_append, h, List.map_singleton, hevent, List.length_append, List.length_singleton,
    List.range_succ]

/-- The collector numbers what it records. -/
theorem numbered_of_recordStreamEvent {collector collector' : EvidenceCollector} {monotonicNs : ℤ}
    {observation : StreamObservation} {event : StreamEvidenceRecord}
    (h : Numbered collector.streamEvents)
    (hrecord : collector.recordStreamEvent monotonicNs observation = .ok (event, collector')) :
    Numbered collector'.streamEvents := by
  obtain ⟨hrecorded, hevents⟩ := recordStreamEvent_eq_ok hrecord
  rw [hevents]
  exact h.concat hrecorded.sequence

/-- The evidence of the collector is numbered. -/
def RequestState.HasNumbers (s : RequestState) : Prop := Numbered s.collector.streamEvents

theorem keeps_recordEvent (observation : StreamObservation) :
    Method.Keeps RequestState.HasNumbers (recordEvent clock observation) := by
  intro s h
  unfold recordEvent
  cases hrecord : s.collector.recordStreamEvent (clock s.clockReads) observation with
  | error error => exact h
  | ok recorded => exact numbered_of_recordStreamEvent h hrecord

theorem keeps_recordRawChunk (rawChunk : Bytes) :
    Method.Keeps RequestState.HasNumbers (recordRawChunk clock request rawChunk) := by
  unfold recordRawChunk
  refine Method.Keeps.bind (fun s h => h) fun observed => ?_
  refine Method.Keeps.bind (Method.keeps_assign fun s h => h) fun _ => ?_
  refine Method.Keeps.bind (Method.keeps_self _) fun s => ?_
  exact Method.Keeps.bind (keeps_recordEvent _) fun _ => Method.keeps_assign fun s h => h

theorem keeps_recordFrame (frame : SSEFrame) :
    Method.Keeps RequestState.HasNumbers (recordFrame clock request frame) := by
  have hsse : ∀ offset sequence,
      Method.Keeps RequestState.HasNumbers (recordSse clock request frame offset sequence) := by
    intro offset sequence
    unfold recordSse
    split
    · exact keeps_recordEvent _
    · exact keeps_recordEvent _
    · refine Method.Keeps.bind (Method.keeps_ofExcept _ _) fun count => ?_
      exact Method.Keeps.bind (Method.keeps_assign fun s h => h) fun _ => keeps_recordEvent _
  unfold recordFrame
  refine Method.Keeps.bind (fun s h => h) fun offset => ?_
  refine Method.Keeps.bind (Method.keeps_self _) fun s => ?_
  exact Method.Keeps.bind (hsse _ _) fun _ => Method.keeps_assign fun s h => h

theorem keeps_recordFrames (frames : List SSEFrame) :
    Method.Keeps RequestState.HasNumbers (recordFrames clock request frames) := by
  induction frames with
  | nil => exact Method.keeps_pure _ _
  | cons frame frames ih => exact Method.Keeps.bind (keeps_recordFrame frame) fun _ => ih

omit [Interpreter] in
theorem keeps_onParser {α : Type} (method : Method IncrementalSSEParser SSEProtocolError α) :
    Method.Keeps RequestState.HasNumbers (onParser method) := by
  intro s h
  unfold onParser Method.onField
  rcases method s.parser with ⟨error | result, parser⟩ <;> exact h

theorem keeps_readChunk (rawChunk : Bytes) :
    Method.Keeps RequestState.HasNumbers (readChunk clock request rawChunk) := by
  unfold readChunk
  refine Method.Keeps.ite (Method.keeps_pure _ _) ?_
  refine Method.Keeps.bind (keeps_recordRawChunk rawChunk) fun _ => ?_
  exact Method.Keeps.bind (keeps_onParser _) fun frames => keeps_recordFrames frames

omit [Interpreter] in
/-- What every turn of the loop keeps, the loop keeps. -/
theorem keeps_forEachChunk {turn : Bytes → Method RequestState RequestError Unit}
    (hturn : ∀ rawChunk, Method.Keeps RequestState.HasNumbers (turn rawChunk))
    (ending : Option Interruption) (chunks : List Bytes) :
    Method.Keeps RequestState.HasNumbers (forEachChunk turn ending chunks) := by
  induction chunks with
  | nil =>
    cases ending with
    | none => exact Method.keeps_pure _ _
    | some interruption => exact Method.keeps_raise _ _
  | cons rawChunk chunks ih => exact Method.Keeps.bind (hturn rawChunk) fun _ => ih

theorem keeps_executeBody (server : ServerBehaviour) :
    Method.Keeps RequestState.HasNumbers (executeBody clock request server) := by
  have herror : ∀ rawChunk,
      Method.Keeps RequestState.HasNumbers (readErrorChunk clock request rawChunk) :=
    fun rawChunk => Method.Keeps.ite (Method.keeps_pure _ _) (keeps_recordRawChunk rawChunk)
  have hfinish : Method.Keeps RequestState.HasNumbers (finishBody request) := by
    unfold finishBody
    refine Method.Keeps.bind (keeps_onParser _) fun _ => ?_
    refine Method.Keeps.bind (Method.keeps_self _) fun s => ?_
    exact Method.Keeps.ite (Method.keeps_raise _ _) (Method.keeps_pure _ _)
  unfold executeBody
  refine Method.Keeps.bind (Method.keeps_ofExcept _ _) fun status => ?_
  refine Method.Keeps.bind (fun s h => h) fun offset => ?_
  refine Method.Keeps.bind (Method.keeps_assign fun s h => h) fun _ => ?_
  refine Method.Keeps.ite ?_ ?_
  · exact Method.Keeps.bind (keeps_forEachChunk keeps_readChunk _ _) fun _ => hfinish
  · exact Method.Keeps.bind (keeps_forEachChunk herror _ _) fun _ => Method.keeps_pure _ _

theorem numbered_finishRequest {inputTokenCount : ℕ} {dispatchOffset : ℤ} {terminal : Terminal}
    (h : s.HasNumbers) :
    Numbered (finishRequest request clock inputTokenCount dispatchOffset terminal
      s).2.streamEvents := by
  unfold finishRequest
  dsimp only
  split
  · exact h
  · split
    · exact h
    · next hrecord => exact numbered_of_recordStreamEvent h hrecord

/-- Whatever a request comes to, the collector's evidence stays numbered. -/
theorem numbered_executeStreamingRequest {server : ServerBehaviour} {collector : EvidenceCollector}
    (h : Numbered collector.streamEvents) :
    Numbered (executeStreamingRequest request clock server collector).2.streamEvents := by
  have hbody : RequestState.HasNumbers
      (executeBody clock request server { collector, clockReads := 1 }).2 :=
    keeps_executeBody server _ h
  unfold executeStreamingRequest
  split
  · exact h
  · split
    · exact h
    · dsimp only
      split
      · exact hbody
      · exact numbered_finishRequest hbody

/-- **A request that is prepared returns.** Whatever the server does, when the request can be built
and its response is closed without an exception, a valid record is returned, the evidence of the
request is what was read of the body and accepted of its frames, followed by one terminal event, and
the collector's evidence stays numbered without a gap. -/
theorem executeStreamingRequest_returned (hprepared : Prepared clock request runOriginNs)
    (hpolicy : request.timeoutPolicy.IsPositive) {tokens : List Str}
    (hinput : parseInputTokens request.case.inputText = .ok tokens) {server : ServerBehaviour}
    (hbuilt : server.built = .ok ()) (hclosed : server.closed = none)
    (hstatus : ∀ status, server.status = .ok status → 100 ≤ status ∧ status ≤ 599)
    {collector : EvidenceCollector} (horigin : collector.runOriginNs = runOriginNs)
    (hnumbered : Numbered collector.streamEvents) :
    ∃ record observed terminal,
      executeStreamingRequest request clock server collector =
        (.ok record, { collector with
          streamEvents := collector.streamEvents ++ observed ++ [terminal] }) ∧
      Returned request server record observed terminal ∧
      Numbered (collector.streamEvents ++ observed ++ [terminal]) := by
  obtain ⟨record, observed, terminal, hreturns, hreturned⟩ :=
    exists_returned hprepared hpolicy hinput hbuilt hclosed hstatus horigin
  have hnumbers := @numbered_executeStreamingRequest _ clock request server collector hnumbered
  rw [hreturns] at hnumbers
  exact ⟨record, observed, terminal, hreturns, hreturned, hnumbers⟩

end

/-! ### A stream that is not read to its end -/

section

attribute [local instance] cpython

/-- A measured request of two tokens. -/
def sampleRequest : StreamingRequest where
  case := ⟨lit "a", lit "<p001>", 2⟩
  timeoutPolicy := ⟨.finite 1, .finite 1, .finite 1, .finite 1⟩
  successfulEndToEndThresholdNs := 5
  phase := .measured
  requestId := lit "measured-1"

/-- A token in two chunks, then a timeout. -/
def sampleServer : ServerBehaviour where
  status := .ok 200
  chunks := [ascii "data: \x7b\"choices\":[\x7b\"text\":", [],
    ascii "\"<t001>\"\x7d]\x7d\n\n"]
  ending := some .timeout

/-- Whatever is read of it, the request returns. -/
theorem executeStreamingRequest_returned_sampleServer : ∃ record observed terminal,
    executeStreamingRequest sampleRequest (fun reads => reads) sampleServer ⟨0, []⟩ =
        (.ok record, ⟨0, [] ++ observed ++ [terminal]⟩) ∧
      Returned sampleRequest sampleServer record observed terminal ∧
      Numbered ([] ++ observed ++ [terminal]) :=
  executeStreamingRequest_returned
    { monotone := fun _ _ h => Int.ofNat_le.mpr h
      origin := le_refl _
      requestId := by decide
      caseId := by decide } (by decide +kernel)
    (show parseInputTokens (lit "<p001>") = .ok [lit "<p001>"] by decide +kernel) rfl rfl
    (fun status h => by
      obtain rfl := Except.ok.inj h
      norm_num) rfl rfl

end

end Stage1
