import LlmInferenceSystems.Stage2.StreamFrames

/-!
# Runs of the stream validator

What holds of a validator after calls none of which raised: the events it has retained are the
frames of its chunks, their readings fit one after the other, and the fields the frames determine
are what those readings leave.

## Main definitions

* `RetainedSSEEvent.ReadsAs`: what a retained event says, and when
* `Stage2StreamValidator.Replayed`: the received fields are those of the retained events
* `Stage2StreamValidator.InFlight`: the state of a validator after accepted calls
* `Stage2StreamValidator.Timely`: its observations are in order
* `bodyChunks`: the chunks of some calls

## Main results

* `Stage2StreamValidator.acceptFrames_induct`: the rule for the loop of a read
* `Stage2StreamValidator.inFlight_of_accepted`: the state after accepted calls
* `Stage2StreamValidator.timely_of_accepted`: its observations
-/

namespace Stage2

open Python Sse

/-- The chunk a call feeds. -/
def StreamCall.chunk? : StreamCall → Option Bytes
  | .feed chunk _ => some chunk
  | _ => none

/-- The chunks some calls feed. -/
def bodyChunks (calls : List StreamCall) : List Bytes := calls.filterMap StreamCall.chunk?

section

variable [Interpreter]

/-- What a retained event says to the validator of a request, and when it was observed. -/
def RetainedSSEEvent.ReadsAs (base : Str) (event : RetainedSSEEvent) (reading : ℤ × StreamReading) :
    Prop :=
  event.observationOffsetNs = reading.1 ∧ readFrame base event.kind event.data = .ok reading.2

namespace Stage2StreamValidator

/-! ## The loop of a read -/

omit [Interpreter] in
theorem frameTime_eq_ok {offset time : ℤ} {v v' : Stage2StreamValidator} :
    frameTime offset v = (.ok time, v') ↔
      (v.frameClock = none ∧ time = offset ∧ v' = v) ∨
        ∃ clock, v.frameClock = some clock ∧ clock.readings clock.reads = .ok time ∧
          v.lastObservationOffsetNs ≤ time ∧
          v' = { v with
            frameClock := some { clock with reads := clock.reads + 1 }
            lastObservationOffsetNs := time } := by
  unfold frameTime
  rw [Method.self_bind]
  cases hclock : v.frameClock with
  | none => simp [eq_comm]
  | some clock =>
    dsimp only
    rw [Method.ofExcept_bind_eq_ok]
    simp only [Method.assign_bind, Method.bind_eq_ok, advance_eq_ok, Method.pure_apply]
    constructor
    · rintro ⟨reading, hreading, ⟨⟩, t, ⟨hlast, rfl⟩, h⟩
      obtain ⟨hr, rfl⟩ := Prod.mk.inj h
      obtain rfl := Except.ok.inj hr
      exact .inr ⟨clock, rfl, hreading, hlast, rfl⟩
    · rintro (⟨h, -⟩ | ⟨_, ⟨⟩, hreading, hlast, rfl⟩)
      · cases h
      · exact ⟨time, hreading, (), _, ⟨hlast, rfl⟩, rfl⟩

/-- The rule for the frames of a read after the first, at the time of the one before. -/
theorem acceptLaterFrames_induct {I : List SSEFrame → ℤ → Stage2StreamValidator → Prop}
    (frame : ∀ done f offset v v', I done offset v → acceptFrame f offset v = (.ok (), v') →
      I (done ++ [f]) offset v')
    (time : ∀ done offset v offset' v', I done offset v → frameTime offset v = (.ok offset', v') →
      I done offset' v')
    {done frames : List SSEFrame} {offset : ℤ} {v v' : Stage2StreamValidator} (hI : I done offset v)
    (h : acceptLaterFrames offset frames v = (.ok (), v')) :
    ∃ offset', I (done ++ frames) offset' v' := by
  induction frames generalizing done offset v with
  | nil =>
    obtain rfl : v = v' := by simpa [acceptLaterFrames] using h
    exact ⟨offset, by rwa [List.append_nil]⟩
  | cons f frames ih =>
    obtain ⟨offset', t, htime, h⟩ := Method.bind_eq_ok.mp h
    obtain ⟨⟨⟩, w, hframe, h⟩ := Method.bind_eq_ok.mp h
    have hstep := frame done f offset' t w (time done offset v offset' t hI htime) hframe
    obtain ⟨last, hlast⟩ := ih hstep h
    exact ⟨last, by rwa [List.append_cons]⟩

/-- The rule for the loop of a read. -/
theorem acceptFrames_induct {I : List SSEFrame → ℤ → Stage2StreamValidator → Prop}
    (frame : ∀ done f offset v v', I done offset v → acceptFrame f offset v = (.ok (), v') →
      I (done ++ [f]) offset v')
    (time : ∀ done offset v offset' v', I done offset v → frameTime offset v = (.ok offset', v') →
      I done offset' v')
    {frames : List SSEFrame} {offset : ℤ} {v v' : Stage2StreamValidator} (hI : I [] offset v)
    (h : acceptFrames offset frames v = (.ok (), v')) : ∃ offset', I frames offset' v' := by
  cases frames with
  | nil =>
    obtain rfl : v = v' := by simpa [acceptFrames] using h
    exact ⟨offset, hI⟩
  | cons f frames =>
    obtain ⟨⟨⟩, t, hframe, h⟩ := Method.bind_eq_ok.mp h
    exact acceptLaterFrames_induct frame time (frame [] f offset v t hI hframe) h

/-! ## The methods -/

/-- The validator when a read hands its chunk to the parser. -/
def fed (chunk : Bytes) (offset : ℤ) (v : Stage2StreamValidator) : Stage2StreamValidator :=
  { v.retainChunk chunk offset with
    lastObservationOffsetNs := offset
    firstBodyOffsetNs :=
      if chunk ≠ [] ∧ v.firstBodyOffsetNs = none then some offset else v.firstBodyOffsetNs }

/-- **What a read that returns does.** -/
theorem feed_eq_ok {chunk : Bytes} {offset : ℤ} {v v' : Stage2StreamValidator} {u : Unit} :
    feed chunk offset v = (.ok u, v') ↔
      v.transportTerminalOffsetNs = none ∧ v.responseHeadersOffsetNs ≠ none ∧
      v.lastObservationOffsetNs ≤ offset ∧
      ∃ frames parser, IncrementalSSEParser.feed chunk v.parser = (.ok frames, parser) ∧
        acceptFrames offset frames { v.fed chunk offset with parser := parser } = (.ok (), v') := by
  unfold feed
  rw [Method.assign_bind, Method.self_bind, Method.guard_eq_ok, not_not, Method.guard_eq_ok]
  refine and_congr_right fun _ => and_congr_right fun _ => ?_
  simp only [Method.bind_eq_ok, advance_eq_ok, Method.assign_apply, Method.onField_eq_ok]
  constructor
  · rintro ⟨⟨⟩, t, ⟨hlast, rfl⟩, ⟨⟩, w, hw, frames, x, ⟨parser, hfeed, rfl⟩, h⟩
    obtain ⟨-, rfl⟩ := Prod.mk.inj hw
    exact ⟨hlast, frames, parser, hfeed, h⟩
  · rintro ⟨hlast, frames, parser, hfeed, h⟩
    exact ⟨(), _, ⟨hlast, rfl⟩, (), _, rfl, frames, _, ⟨parser, hfeed, rfl⟩, h⟩

omit [Interpreter] in
/-- What the headers that are accepted leave. -/
theorem acceptResponseHeaders_eq_ok {xRequestId : Str} {offset : ℤ}
    {v v' : Stage2StreamValidator} {u : Unit} :
    acceptResponseHeaders xRequestId offset v = (.ok u, v') ↔
      v.responseHeadersOffsetNs = none ∧ xRequestId = v.request.externalBaseId ∧
        v.lastObservationOffsetNs ≤ offset ∧
        v' = { v with
          lastObservationOffsetNs := offset
          responseHeadersOffsetNs := some offset } := by
  unfold acceptResponseHeaders
  rw [Method.self_bind, Method.guard_eq_ok, not_not, Method.guard_eq_ok, not_not]
  simp only [Method.bind_eq_ok, advance_eq_ok, Method.assign_apply]
  constructor
  · rintro ⟨hnone, hid, ⟨⟩, t, ⟨hlast, rfl⟩, h⟩
    exact ⟨hnone, hid, hlast, (Prod.mk.inj h).2.symm⟩
  · rintro ⟨hnone, hid, hlast, rfl⟩
    exact ⟨hnone, hid, (), _, ⟨hlast, rfl⟩, rfl⟩

/-- The chain is that of the request, and no abort was logged. -/
structure ChainMatches (base : Str) (chain : RequestIdentityChain) : Prop where
  external : chain.externalBaseId = base
  response : chain.responseBodyId = responseBodyId base
  serving : chain.servingItemId = servingItemId base
  externalAbort : chain.externalAbortLog = none
  internalAbort : chain.internalAbortLog = none

omit [Interpreter] in
/-- **What the checks of a close that go through leave.** -/
theorem closeChecks_eq_ok {offset : ℤ} {chain : RequestIdentityChain}
    {v v' : Stage2StreamValidator} {u : Unit} :
    closeChecks offset chain v = (.ok u, v') ↔
      v.transportTerminalOffsetNs = none ∧ v.lastObservationOffsetNs ≤ offset ∧
        (∀ b ∈ crlfToLf v.parser.buffer, b = LF) ∧ v.parser.done = true ∧
        (∃ terminal, v.protocolTerminalOffsetNs = some terminal ∧ terminal < offset) ∧
        ChainMatches v.request.externalBaseId chain ∧
        v' = { v with
          lastObservationOffsetNs := offset
          transportTerminalOffsetNs := some offset } := by
  unfold closeChecks
  rw [Method.self_bind, Method.guard_eq_ok, not_not]
  simp only [Method.bind_eq_ok, advance_eq_ok, Method.onField_eq_ok]
  -- -- the guards fall in the order of the source
  constructor
  · rintro ⟨hopen, ⟨⟩, t, ⟨hlast, rfl⟩, ⟨⟩, w, ⟨parser, hfinalize, rfl⟩, h⟩
    obtain ⟨hlf, hdone, rfl⟩ := finalize_eq_ok.mp hfinalize
    cases hprotocol : v.protocolTerminalOffsetNs with
    | none => simp [hprotocol] at h
    | some terminal =>
      rw [hprotocol] at h
      dsimp only at h
      obtain ⟨hoffset, h⟩ := Method.guard_eq_ok.mp h
      rw [Method.assign_bind, Method.guard_eq_ok] at h
      obtain ⟨hchain, h⟩ := h
      push Not at hchain
      exact ⟨hopen, hlast, hlf, hdone, ⟨terminal, rfl, not_le.mp hoffset⟩,
        ⟨hchain.1, hchain.2.1, hchain.2.2.1, hchain.2.2.2.1, hchain.2.2.2.2⟩,
        (Prod.mk.inj h).2.symm⟩
  -- -- back, each guard is passed by the conjunct it checks
  · rintro ⟨hopen, hlast, hlf, hdone, ⟨terminal, hprotocol, hoffset⟩, hchain, rfl⟩
    refine ⟨hopen, (), _, ⟨hlast, rfl⟩, (), _,
      ⟨v.parser, finalize_eq_ok.mpr ⟨hlf, hdone, rfl⟩, rfl⟩, ?_⟩
    rw [hprotocol]
    refine Method.guard_eq_ok.mpr ⟨not_le.mpr hoffset, ?_⟩
    rw [Method.assign_bind, Method.guard_eq_ok]
    refine ⟨?_, rfl⟩
    push Not
    exact ⟨hchain.external, hchain.response, hchain.serving, hchain.externalAbort,
      hchain.internalAbort⟩

/-- What a close that returns does. -/
theorem closeTransport_eq_ok [MetricArithmetic] {offset : ℤ} {chain : RequestIdentityChain}
    {v v' : Stage2StreamValidator} {evidence : Stage2RequestEvidence} :
    closeTransport offset chain v = (.ok evidence, v') ↔
      closeChecks offset chain v = (.ok (), v') ∧ v'.evidence chain = .ok evidence := by
  unfold closeTransport
  rw [Method.bind_eq_ok]
  constructor
  · rintro ⟨⟨⟩, t, hchecks, h⟩
    rw [Method.self_bind, Method.ofExcept_apply] at h
    obtain ⟨hevidence, rfl⟩ := Prod.mk.inj h
    exact ⟨hchecks, hevidence⟩
  · rintro ⟨hchecks, hevidence⟩
    refine ⟨(), v', hchecks, ?_⟩
    rw [Method.self_bind, Method.ofExcept_apply, hevidence]

/-! ## The evidence -/

omit [Interpreter] in
/-- The boundaries that were all seen. -/
theorem timing_eq_some {v : Stage2StreamValidator} {firstToken : ℤ} {timing : Stage2TimingRecord} :
    v.timing firstToken = some timing ↔
      v.responseHeadersOffsetNs = some timing.responseHeadersOffsetNs ∧
        v.firstBodyOffsetNs = some timing.firstResponseBodyBytesOffsetNs ∧
        v.generationTerminalOffsetNs = some timing.generationTerminalOffsetNs ∧
        v.usageTerminalOffsetNs = some timing.usageTerminalOffsetNs ∧
        v.protocolTerminalOffsetNs = some timing.protocolTerminalOffsetNs ∧
        v.transportTerminalOffsetNs = some timing.transportTerminalOffsetNs ∧
        timing.dispatchOffsetNs = v.dispatchOffsetNs ∧
        timing.firstOutputTokenOffsetNs = firstToken := by
  unfold Stage2StreamValidator.timing
  constructor
  · intro h
    simp only [Option.bind_eq_bind, Option.bind_eq_some_iff, Option.pure_def, Option.some.injEq] at h
    obtain ⟨_, h₁, _, h₂, _, h₃, _, h₄, _, h₅, _, h₆, rfl⟩ := h
    exact ⟨h₁, h₂, h₃, h₄, h₅, h₆, rfl, rfl⟩
  · rintro ⟨h₁, h₂, h₃, h₄, h₅, h₆, h₇, h₈⟩
    rw [h₁, h₂, h₃, h₄, h₅, h₆, ← h₇, ← h₈]
    rfl

omit [Interpreter] in
/-- What the checks at the beginning of `_evidence` say. -/
theorem evidenceParts_eq_ok {v : Stage2StreamValidator} {parts : EvidenceParts} :
    v.evidenceParts = .ok parts ↔
      v.returnedPromptIds = some v.request.prompt ∧ v.usage = some parts.usage ∧
        v.serverMetrics = some parts.serverMetrics ∧
        v.terminalCarriedTokens = some parts.terminalCarriedTokens ∧
        ∃ first, (tokenBearing v.tokenEvents).head? = some first ∧
          v.timing first.observationOffsetNs = some parts.timing := by
  unfold evidenceParts
  constructor
  -- -- each missing part is refused; the record needs all of them
  · intro h
    split at h
    · cases h
    · split at h
      · cases h
      · next hprompt =>
        cases husage : v.usage with
        | none => simp [husage] at h
        | some usage =>
          cases hserver : v.serverMetrics with
          | none => simp [husage, hserver] at h
          | some serverMetrics =>
            cases hcarried : v.terminalCarriedTokens with
            | none => simp [husage, hserver, hcarried] at h
            | some carried =>
              rw [husage, hserver, hcarried] at h
              dsimp only at h
              cases hfirst : (tokenBearing v.tokenEvents).head? with
              | none => simp [hfirst] at h
              | some first =>
                rw [hfirst] at h
                dsimp only at h
                cases htiming : v.timing first.observationOffsetNs with
                | none => simp [htiming] at h
                | some timing =>
                  rw [htiming] at h
                  obtain rfl := Except.ok.inj h
                  exact ⟨not_not.mp hprompt, rfl, rfl, rfl, first, rfl, htiming⟩
  · rintro ⟨hprompt, husage, hserver, hcarried, first, hfirst, htiming⟩
    -- -- the timing record does not depend on the first token, so it is built
    obtain ⟨h₁, h₂, h₃, h₄, h₅, h₆, -, -⟩ := timing_eq_some.mp htiming
    have hzero : v.timing 0 = some { parts.timing with
        dispatchOffsetNs := v.dispatchOffsetNs
        firstOutputTokenOffsetNs := 0 } :=
      timing_eq_some.mpr ⟨h₁, h₂, h₃, h₄, h₅, h₆, rfl, rfl⟩
    rw [hzero]
    dsimp only
    rw [if_neg (not_not.mpr hprompt), husage, hserver, hcarried]
    dsimp only
    rw [hfirst]
    dsimp only
    rw [htiming]

/-- **What `_evidence` returns.** -/
theorem evidence_eq_ok [MetricArithmetic] {v : Stage2StreamValidator}
    {chain : RequestIdentityChain} {evidence : Stage2RequestEvidence} :
    v.evidence chain = .ok evidence ↔
      ∃ parts tpot itl chainSha256 octets timing, v.evidenceParts = .ok parts ∧
        v.clientMetrics parts = .ok (tpot, itl) ∧
        sha256Identity chain.dump = .ok chainSha256 ∧
        utf8Encode v.outputTextParts.flatten = some octets ∧
        parts.timing.create = .ok timing ∧
        (v.evidenceRecord chain parts tpot itl chainSha256 octets timing).create = .ok evidence := by
  unfold Stage2StreamValidator.evidence
  constructor
  · intro h
    obtain ⟨parts, hparts, h⟩ := bind_eq_ok.mp h
    obtain ⟨⟨tpot, itl⟩, hmetrics, h⟩ := bind_eq_ok.mp h
    obtain ⟨chainSha256, hchain, h⟩ := bind_eq_ok.mp h
    cases hoctets : utf8Encode v.outputTextParts.flatten with
    | none => simp [hoctets] at h
    | some octets =>
      rw [hoctets] at h
      obtain ⟨timing, htiming, h⟩ := bind_eq_ok.mp h
      exact ⟨parts, tpot, itl, chainSha256, octets, timing, hparts, hmetrics, hchain, rfl, htiming, h⟩
  · rintro ⟨parts, tpot, itl, chainSha256, octets, timing, hparts, hmetrics, hchain, hoctets,
      htiming, h⟩
    refine bind_eq_ok.mpr ⟨parts, hparts, bind_eq_ok.mpr ⟨(tpot, itl), hmetrics, ?_⟩⟩
    refine bind_eq_ok.mpr ⟨chainSha256, hchain, ?_⟩
    rw [hoctets]
    exact bind_eq_ok.mpr ⟨timing, htiming, h⟩

/-! ## Runs -/

/-- The fields the frames determine are those that the retained events leave, one after the other.
-/
def Replayed (v : Stage2StreamValidator) : Prop :=
  ∃ readings, List.Forall₂ (RetainedSSEEvent.ReadsAs v.request.externalBaseId)
      v.parsedSseEvents readings ∧
    Received.FitAll {} readings ∧ v.received = Received.afterAll {} readings

/-- A frame that is accepted adds its reading. -/
theorem Replayed.acceptFrame {frame : SSEFrame} {offset : ℤ} {v v' : Stage2StreamValidator}
    (h : v.Replayed) (hframe : acceptFrame frame offset v = (.ok (), v')) : v'.Replayed := by
  obtain ⟨readings, hreads, hfit, hreceived⟩ := h
  obtain ⟨reading, hread, hfits, rfl⟩ := acceptFrame_eq_ok.mp hframe
  refine ⟨readings ++ [(offset, reading)], ?_, ?_, ?_⟩
  · exact List.rel_append hreads (.cons ⟨rfl, hread⟩ .nil)
  · exact Received.fitAll_append.mpr ⟨hfit, by rwa [← hreceived], trivial⟩
  · rw [received_withReceived, Received.afterAll_append, hreceived]
    rfl

/-- The checks of a close add nothing to what was received. -/
theorem Replayed.closeChecks {offset : ℤ} {chain : RequestIdentityChain}
    {v v' : Stage2StreamValidator} (h : v.Replayed)
    (hclose : closeChecks offset chain v = (.ok (), v')) : v'.Replayed := by
  obtain ⟨-, -, -, -, -, -, rfl⟩ := closeChecks_eq_ok.mp hclose
  exact h

/-- The state of a validator after accepted calls. -/
structure InFlight (request : StreamRequest) (dispatchOffsetNs : ℤ) (fixture : Option Str)
    (calls : List StreamCall) (v : Stage2StreamValidator) : Prop where
  request : v.request = request
  dispatch : v.dispatchOffsetNs = dispatchOffsetNs
  fixture : v.fixtureIdentitySha256 = fixture
  replayed : v.Replayed
  parsed : v.transportTerminalOffsetNs = none →
    Parsed (bodyChunks calls) (v.parsedSseEvents.map (·.frame)) v.parser

variable {request : StreamRequest} {dispatch : ℤ} {fixture : Option Str} {clock : Option FrameClock}
  {calls : List StreamCall}

theorem inFlight_start :
    InFlight request dispatch fixture [] (start request dispatch fixture clock) :=
  ⟨rfl, rfl, rfl, ⟨[], .nil, trivial, rfl⟩, fun _ => Parsed.start⟩

/-- What the loop of a read leaves as it is, and the events it adds. -/
structure LoopDone (v : Stage2StreamValidator) (frames : List SSEFrame)
    (v' : Stage2StreamValidator) : Prop where
  request : v'.request = v.request
  dispatch : v'.dispatchOffsetNs = v.dispatchOffsetNs
  fixture : v'.fixtureIdentitySha256 = v.fixtureIdentitySha256
  transport : v'.transportTerminalOffsetNs = v.transportTerminalOffsetNs
  parser : v'.parser = v.parser
  replayed : v'.Replayed
  events : v'.parsedSseEvents.map (·.frame) = v.parsedSseEvents.map (·.frame) ++ frames

theorem LoopDone.acceptFrame {v t w : Stage2StreamValidator} {done : List SSEFrame}
    {frame : SSEFrame} {offset : ℤ} (h : LoopDone v done t)
    (hframe : Stage2StreamValidator.acceptFrame frame offset t = (.ok (), w)) :
    LoopDone v (done ++ [frame]) w := by
  have hreplayed := h.replayed.acceptFrame hframe
  obtain ⟨reading, -, -, rfl⟩ := acceptFrame_eq_ok.mp hframe
  refine ⟨h.request, h.dispatch, h.fixture, h.transport, h.parser, hreplayed, ?_⟩
  rw [← List.append_assoc, ← h.events]
  simp [withReceived, retain, retainEvent, RetainedSSEEvent.frame]

/-- The clock and the last observation are none of these fields. -/
theorem LoopDone.frameTime {v t w : Stage2StreamValidator} {done : List SSEFrame}
    {offset time : ℤ} (h : LoopDone v done t)
    (htime : Stage2StreamValidator.frameTime offset t = (.ok time, w)) : LoopDone v done w := by
  rcases frameTime_eq_ok.mp htime with ⟨-, -, rfl⟩ | ⟨_, -, -, -, rfl⟩
  · exact h
  · exact ⟨h.request, h.dispatch, h.fixture, h.transport, h.parser, h.replayed, h.events⟩

theorem loopDone {frames : List SSEFrame} {offset : ℤ} {v v' : Stage2StreamValidator}
    (hv : v.Replayed) (h : acceptFrames offset frames v = (.ok (), v')) : LoopDone v frames v' := by
  have hstart : LoopDone v [] v := ⟨rfl, rfl, rfl, rfl, rfl, hv, by simp⟩
  obtain ⟨-, hdone⟩ := acceptFrames_induct (I := fun done _ w => LoopDone v done w)
    (fun _ _ _ _ _ ht hframe => ht.acceptFrame hframe)
    (fun _ _ _ _ _ ht htime => ht.frameTime htime) hstart h
  exact hdone

/-- What an accepted call leaves. -/
theorem InFlight.call [MetricArithmetic] {call : StreamCall} {v v' : Stage2StreamValidator}
    {result : Option Stage2RequestEvidence} (h : InFlight request dispatch fixture calls v)
    (hcall : Stage2StreamValidator.call call v = (.ok result, v')) :
    InFlight request dispatch fixture (calls ++ [call]) v' := by
  have hchunks : bodyChunks (calls ++ [call]) = bodyChunks calls ++ call.chunk?.toList := by
    cases hc : call.chunk? <;> simp [bodyChunks, hc]
  -- -- only a read feeds the parser; the other calls leave what it was fed
  cases call with
  | acceptResponseHeaders xRequestId offset =>
    obtain ⟨⟨⟩, t, hheaders, hresult⟩ := Method.bind_eq_ok.mp hcall
    obtain ⟨-, rfl⟩ := Prod.mk.inj hresult
    obtain ⟨-, -, -, rfl⟩ := acceptResponseHeaders_eq_ok.mp hheaders
    refine ⟨h.request, h.dispatch, h.fixture, h.replayed, fun hopen => ?_⟩
    have hsame : bodyChunks (calls ++ [.acceptResponseHeaders xRequestId offset]) =
        bodyChunks calls := by rw [hchunks]; exact List.append_nil _
    rw [hsame]
    exact h.parsed hopen
  | feed chunk offset =>
    obtain ⟨⟨⟩, t, hfeed, hresult⟩ := Method.bind_eq_ok.mp hcall
    -- -- the loop over the frames replays them against the same chunks
    obtain ⟨-, rfl⟩ := Prod.mk.inj hresult
    obtain ⟨hopen, -, -, frames, parser, hparser, hframes⟩ := feed_eq_ok.mp hfeed
    have hdone := loopDone (v := { v.fed chunk offset with parser := parser }) h.replayed hframes
    refine ⟨hdone.request.trans h.request, hdone.dispatch.trans h.dispatch,
      hdone.fixture.trans h.fixture, hdone.replayed, fun _ => ?_⟩
    rw [hchunks, hdone.events, hdone.parser]
    exact (h.parsed hopen).feed hparser
  | closeTransport offset chain =>
    obtain ⟨evidence, t, hclose, hresult⟩ := Method.bind_eq_ok.mp hcall
    obtain ⟨-, rfl⟩ := Prod.mk.inj hresult
    obtain ⟨-, -, -, -, -, -, rfl⟩ := closeChecks_eq_ok.mp (closeTransport_eq_ok.mp hclose).1
    exact ⟨h.request, h.dispatch, h.fixture, h.replayed, fun hopen => by cases hopen⟩

/-- **The state of a validator after calls none of which raised.** -/
theorem inFlight_of_accepted [MetricArithmetic] {v : Stage2StreamValidator}
    (h : accepted Stage2StreamValidator.call (start request dispatch fixture clock) calls =
      some v) : InFlight request dispatch fixture calls v :=
  accepted_invariant (InFlight request dispatch fixture) inFlight_start
    (fun _ _ _ _ _ hu hcall => hu.call hcall) h

/-! ## Times -/

/-- The observations of a validator are in order: dispatch, headers, first octets, events. -/
structure Timely (v : Stage2StreamValidator) : Prop where
  start : v.dispatchOffsetNs ≤ v.lastObservationOffsetNs
  headers : ∀ time, v.responseHeadersOffsetNs = some time →
    v.dispatchOffsetNs ≤ time ∧ time ≤ v.lastObservationOffsetNs
  body : ∀ time, v.firstBodyOffsetNs = some time →
    (∃ headers, v.responseHeadersOffsetNs = some headers ∧ headers ≤ time) ∧
      time ≤ v.lastObservationOffsetNs
  events : ∀ event ∈ v.parsedSseEvents, (∃ first, v.firstBodyOffsetNs = some first ∧
    first ≤ event.observationOffsetNs) ∧ event.observationOffsetNs ≤ v.lastObservationOffsetNs
  sorted : (v.parsedSseEvents.map (·.observationOffsetNs)).Pairwise (· ≤ ·)

omit [Interpreter] in
theorem timely_start : Timely (start request dispatch fixture clock) :=
  ⟨le_refl _, by rintro _ ⟨⟩, by rintro _ ⟨⟩, by rintro _ ⟨⟩, .nil⟩

omit [Interpreter] in
/-- An observation that comes later leaves the others in order. -/
theorem Timely.advance {v : Stage2StreamValidator} (h : v.Timely) {offset : ℤ}
    (hlast : v.lastObservationOffsetNs ≤ offset) :
    Timely { v with lastObservationOffsetNs := offset } where
  start := h.start.trans hlast
  headers time htime := ⟨(h.headers time htime).1, (h.headers time htime).2.trans hlast⟩
  body time htime := ⟨(h.body time htime).1, (h.body time htime).2.trans hlast⟩
  events event hevent := ⟨(h.events event hevent).1, (h.events event hevent).2.trans hlast⟩
  sorted := h.sorted

/-- In the loop of a read the frame is observed at the last observation, after the first octets. -/
structure InLoop (offset : ℤ) (v : Stage2StreamValidator) : Prop where
  timely : v.Timely
  now : v.lastObservationOffsetNs = offset
  body : ∃ first, v.firstBodyOffsetNs = some first ∧ first ≤ offset

theorem InLoop.acceptFrame {frame : SSEFrame} {offset : ℤ} {v v' : Stage2StreamValidator}
    (h : InLoop offset v) (hframe : acceptFrame frame offset v = (.ok (), v')) :
    InLoop offset v' := by
  obtain ⟨reading, -, -, rfl⟩ := acceptFrame_eq_ok.mp hframe
  refine ⟨⟨h.timely.start, h.timely.headers, h.timely.body, ?_, ?_⟩, h.now, h.body⟩
  · intro event hevent
    rcases List.mem_append.mp hevent with hevent | hevent
    · exact h.timely.events event hevent
    · obtain rfl := List.mem_singleton.mp hevent
      exact ⟨h.body, h.now.ge⟩
  · change ((v.parsedSseEvents ++ [_]).map _).Pairwise _
    rw [List.map_append, List.pairwise_append]
    refine ⟨h.timely.sorted, List.pairwise_singleton _ _, ?_⟩
    intro time htime time' htime'
    obtain ⟨event, hevent, rfl⟩ := List.mem_map.mp htime
    obtain rfl := List.mem_singleton.mp htime'
    exact (h.timely.events event hevent).2.trans h.now.le

omit [Interpreter] in
theorem InLoop.frameTime {offset time : ℤ} {v v' : Stage2StreamValidator} (h : InLoop offset v)
    (htime : Stage2StreamValidator.frameTime offset v = (.ok time, v')) : InLoop time v' := by
  rcases frameTime_eq_ok.mp htime with ⟨-, rfl, rfl⟩ | ⟨clock, -, -, hlast, rfl⟩
  · exact h
  · obtain ⟨first, hfirst, hle⟩ := h.body
    have htimely := h.timely.advance hlast
    refine ⟨⟨htimely.start, htimely.headers, htimely.body, htimely.events, htimely.sorted⟩, rfl,
      first, hfirst, hle.trans (h.now.ge.trans hlast)⟩

/-- What a read leaves in order. -/
theorem Timely.feed {chunk : Bytes} {offset : ℤ} {v v' : Stage2StreamValidator} (h : v.Timely)
    (hfeed : feed chunk offset v = (.ok (), v')) : v'.Timely := by
  obtain ⟨-, hheaders, hlast, frames, parser, hparser, hframes⟩ := feed_eq_ok.mp hfeed
  obtain ⟨headers, hheaders⟩ := Option.ne_none_iff_exists'.mp hheaders
  have htimely := h.advance hlast
  by_cases hchunk : chunk = []
  · -- no octets, no frames, and nothing but the observation
    subst hchunk
    obtain ⟨rfl, rfl⟩ : [] = frames ∧ v.parser = parser := by
      simpa [feed_nil] using hparser
    obtain rfl := (Prod.mk.inj hframes).2
    refine ⟨htimely.start, htimely.headers, ?_, ?_, htimely.sorted⟩
    · intro time htime
      exact htimely.body time (by simpa [fed] using htime)
    · intro event hevent
      simpa [fed] using htimely.events event hevent
  -- -- the chunk starts the body or follows its start, and the loop keeps both
  · have hloop : InLoop offset { v.fed chunk offset with parser := parser } := by
      refine ⟨⟨htimely.start, htimely.headers, ?_, ?_, htimely.sorted⟩, rfl, ?_⟩
      · intro time htime
        by_cases hbody : v.firstBodyOffsetNs = none
        · obtain rfl : offset = time := by simpa [fed, hchunk, hbody] using htime
          exact ⟨⟨headers, hheaders, ((h.headers headers hheaders).2.trans hlast)⟩, le_refl _⟩
        · exact htimely.body time (by simpa [fed, hbody] using htime)
      · intro event hevent
        obtain ⟨⟨first, hfirst, hle⟩, hevent⟩ := htimely.events event hevent
        have hfirst : v.firstBodyOffsetNs = some first := hfirst
        exact ⟨⟨first, by simp [fed, hfirst], hle⟩, hevent⟩
      · by_cases hbody : v.firstBodyOffsetNs = none
        · exact ⟨offset, by simp [fed, hchunk, hbody], le_refl _⟩
        · obtain ⟨first, hfirst⟩ := Option.ne_none_iff_exists'.mp hbody
          exact ⟨first, by simp [fed, hfirst], ((h.body first hfirst).2.trans hlast)⟩
    -- -- each frame and each time read between two keeps the loop's order
    obtain ⟨time, hdone⟩ := acceptFrames_induct (I := fun _ time w => InLoop time w)
      (fun _ _ _ _ _ ht hframe => ht.acceptFrame hframe)
      (fun _ _ _ _ _ ht htime => ht.frameTime htime) hloop hframes
    exact hdone.timely

/-- What an accepted call leaves in order. -/
theorem Timely.call [MetricArithmetic] {call : StreamCall} {v v' : Stage2StreamValidator}
    {result : Option Stage2RequestEvidence} (h : v.Timely)
    (hcall : Stage2StreamValidator.call call v = (.ok result, v')) : v'.Timely := by
  cases call with
  | acceptResponseHeaders xRequestId offset =>
    obtain ⟨⟨⟩, t, hheaders, hresult⟩ := Method.bind_eq_ok.mp hcall
    obtain ⟨-, rfl⟩ := Prod.mk.inj hresult
    obtain ⟨hnone, -, hlast, rfl⟩ := acceptResponseHeaders_eq_ok.mp hheaders
    have htimely := h.advance hlast
    -- no octets were read before the headers
    have hbody : v.firstBodyOffsetNs = none := by
      cases hfirst : v.firstBodyOffsetNs with
      | none => rfl
      | some first =>
        obtain ⟨⟨_, hsome, -⟩, -⟩ := h.body first hfirst
        rw [hnone] at hsome
        cases hsome
    refine ⟨htimely.start, ?_, ?_, htimely.events, htimely.sorted⟩
    · rintro time htime
      obtain rfl := Option.some.inj htime
      exact ⟨h.start.trans hlast, le_refl _⟩
    · intro time htime
      rw [hbody] at htime
      cases htime
  | feed chunk offset =>
    obtain ⟨⟨⟩, t, hfeed, hresult⟩ := Method.bind_eq_ok.mp hcall
    obtain ⟨-, rfl⟩ := Prod.mk.inj hresult
    exact h.feed hfeed
  | closeTransport offset chain =>
    obtain ⟨evidence, t, hclose, hresult⟩ := Method.bind_eq_ok.mp hcall
    obtain ⟨-, rfl⟩ := Prod.mk.inj hresult
    obtain ⟨-, hlast, -, -, -, -, rfl⟩ := closeChecks_eq_ok.mp (closeTransport_eq_ok.mp hclose).1
    have htimely := h.advance hlast
    exact ⟨htimely.start, htimely.headers, htimely.body, htimely.events, htimely.sorted⟩

/-- **The observations of a validator are in order** after calls none of which raised. -/
theorem timely_of_accepted [MetricArithmetic] {v : Stage2StreamValidator}
    (h : accepted Stage2StreamValidator.call (start request dispatch fixture clock) calls =
      some v) : v.Timely :=
  accepted_invariant (fun _ => Timely) timely_start (fun _ _ _ _ _ hu hcall => hu.call hcall) h

end Stage2StreamValidator

end

end Stage2
