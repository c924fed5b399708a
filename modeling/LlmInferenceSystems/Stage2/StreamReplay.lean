import LlmInferenceSystems.Python.Base64
import LlmInferenceSystems.Stage2.StreamSemantics

/-!
# The replay of a recorded stream

A recorded request holds its body chunks with the time each was read and the times of the frames it
completed. The replay feeds the chunks to a new validator whose clock gives back the recorded times,
chunk by chunk, and compares what it observes with what was recorded.

## Main definitions

* `Stage2RequestWireCapture`, `replayStage2WireCapture`: the record, and its replay
* `recordedChunks`: the chunks of a live run as they are recorded
* `Stage2StreamValidator.Follows`: the replay's validator next to the live one

## Main results

* `Stage2StreamValidator.acceptFrames_follows`: the loop of a read with the recorded clock
* `replayStage2WireCapture_live`: the replay of a live run returns its evidence and its events
-/

namespace Stage2

open Python Sse

/-! ## The record -/

/-- A chunk of the response body, as far as the replay reads it. -/
structure Stage2RawResponseBodyChunk where
  observationOffsetNs : ℤ
  completedSseFrameObservationOffsetsNs : List ℤ
  exactBytesBase64 : Str
deriving DecidableEq

/-- `exact_bytes` -/
def Stage2RawResponseBodyChunk.exactBytes (chunk : Stage2RawResponseBodyChunk) :
    Except PyError Bytes :=
  match b64decode chunk.exactBytesBase64 with
  | none => .error (.value "response-body chunk Base64 is invalid")
  | some data =>
    if b64encode data ≠ chunk.exactBytesBase64 then
      .error (.value "response-body chunk Base64 is not canonical")
    else .ok data

/-- A recorded request, as far as the replay reads it. -/
structure Stage2RequestWireCapture where
  /-- `external_request_id` and the prompt of `request_body.canonical_request` -/
  request : StreamRequest
  /-- `request_body.transmission_offset_ns` -/
  transmissionOffsetNs : ℤ
  /-- `fixture_identity_sha256`, of a provenance that is a fixture -/
  fixtureIdentitySha256 : Option Str
  /-- `response_headers.effective("x-request-id")` -/
  xRequestId : Str
  /-- `response_headers.observation_offset_ns` -/
  responseHeadersOffsetNs : ℤ
  responseBodyChunks : List Stage2RawResponseBodyChunk
  /-- `transport_close.close_observation_offset_ns` -/
  closeObservationOffsetNs : ℤ
  /-- `transport_close.request_identity_chain_sha256` -/
  requestIdentityChainSha256 : Str

/-- `Stage2ReplayedSSEEvent` -/
structure Stage2ReplayedSSEEvent where
  ordinal : ℕ
  observationOffsetNs : ℤ
  kind : FrameKind
  data : Option Str
  comments : List Str
  identitySha256 : Str
deriving DecidableEq

/-- The event that was replayed. -/
def Stage2ReplayedSSEEvent.event (replayed : Stage2ReplayedSSEEvent) : RetainedSSEEvent where
  ordinal := replayed.ordinal
  observationOffsetNs := replayed.observationOffsetNs
  kind := replayed.kind
  data := replayed.data
  comments := replayed.comments

/-! ## The replay -/

/-- `SSEFrame.kind` -/
def frameKindValue : FrameKind → Str
  | .comment => lit "comment"
  | .data => lit "data"
  | .done => lit "done"

/-- `values`, without the identity -/
def replayedValues (event : RetainedSSEEvent) : List (Str × Json) :=
  [(lit "ordinal", .int event.ordinal),
    (lit "observation_offset_ns", .int event.observationOffsetNs),
    (lit "kind", .str (frameKindValue event.kind)),
    (lit "data", (event.data.map Json.str).getD .null),
    (lit "comments", .arr (event.comments.map .str))]

/-- `frame_clock`, of the offsets of a chunk after the first -/
def recordedClock (offsets : List ℤ) : FrameClock where
  readings n :=
    match offsets[n]? with
    | some offset => .ok offset
    | none => .error (.stage2Protocol "raw wire capture lacks a completed SSE-frame observation")

section

variable [Interpreter]

/-- A replayed event that was constructed, with the identity of its values. -/
def replayEvent (event : RetainedSSEEvent) : Except PyError Stage2ReplayedSSEEvent := do
  let identity ← sha256Identity (.obj (replayedValues event))
  if event.observationOffsetNs < 0 then .error (.validation "observation_offset_ns")
  else if event.kind = .done ∧ event.data ≠ some (lit "[DONE]") then
    .error (.validation "replayed done event differs from [DONE]")
  else if event.kind = .data ∧ event.data = none then
    .error (.validation "replayed data event is empty")
  else
    let reconstructed ← sha256Identity
      (.obj (replayedValues event ++ [(lit "identity_sha256", .str identity)])) ["identity_sha256"]
    if identity ≠ reconstructed then
      .error (.validation "replayed SSE-event identity does not reconstruct")
    else
      return { ordinal := event.ordinal
               observationOffsetNs := event.observationOffsetNs
               kind := event.kind
               data := event.data
               comments := event.comments
               identitySha256 := identity }

namespace Stage2StreamValidator

/-- `current_frame_index` -/
def currentFrameIndex (validator : Stage2StreamValidator) : ℕ :=
  (validator.frameClock.map (·.reads)).getD 0

/-- One turn of the replay's loop. -/
def replayChunk (chunk : Stage2RawResponseBodyChunk) :
    Method Stage2StreamValidator PyError Unit := do
  let expected := chunk.completedSseFrameObservationOffsetsNs
  Method.assign fun v => { v with frameClock := some (recordedClock expected.tail) }
  let started ← Method.self
  let data ← Method.ofExcept chunk.exactBytes
  feed data chunk.observationOffsetNs
  let validator ← Method.self
  let observed := (validator.parsedSseEvents.drop started.parsedSseEvents.length).map
    (·.observationOffsetNs)
  if observed ≠ expected ∨ validator.currentFrameIndex ≠ expected.tail.length then
    Method.raise
      (.stage2Protocol "completed SSE-frame observations do not match parser replay")
  else return ()

/-- The replay's loop. -/
def replayChunks : List Stage2RawResponseBodyChunk → Method Stage2StreamValidator PyError Unit
  | [] => return ()
  | chunk :: chunks => do
    replayChunk chunk
    replayChunks chunks

/-- The calls of the replay. -/
def replayCalls [MetricArithmetic] (capture : Stage2RequestWireCapture)
    (identityChain : RequestIdentityChain) :
    Method Stage2StreamValidator PyError Stage2RequestEvidence := do
  acceptResponseHeaders capture.xRequestId capture.responseHeadersOffsetNs
  replayChunks capture.responseBodyChunks
  closeTransport capture.closeObservationOffsetNs identityChain

end Stage2StreamValidator

/-- `replay_stage2_wire_capture` -/
def replayStage2WireCapture [MetricArithmetic] (capture : Stage2RequestWireCapture)
    (identityChain : RequestIdentityChain) :
    Except PyError (Stage2RequestEvidence × List Stage2ReplayedSSEEvent) :=
  let validator := Stage2StreamValidator.start capture.request capture.transmissionOffsetNs
    capture.fixtureIdentitySha256 (some (recordedClock []))
  match Stage2StreamValidator.replayCalls capture identityChain validator with
  | (.error e, _) =>
    if e.isValueError then
      .error (.stage2Experiment "retained HTTP wire evidence failed parser replay")
    else .error e
  | (.ok evidence, validator) => do
    let identity ← sha256Identity identityChain.dump
    if capture.requestIdentityChainSha256 ≠ identity then
      .error (.stage2Experiment "transport close differs from the request identity chain")
    else
      let events ← collect replayEvent validator.parsedSseEvents
      return (evidence, events)

/-! ## Recording -/

/-- The chunk of a read that leads from one state to another, as it is recorded. -/
def recordedChunk (chunk : Bytes) (offset : ℤ) (v v' : Stage2StreamValidator) :
    Stage2RawResponseBodyChunk where
  observationOffsetNs := offset
  completedSseFrameObservationOffsetsNs :=
    (v'.parsedSseEvents.drop v.parsedSseEvents.length).map (·.observationOffsetNs)
  exactBytesBase64 := b64encode chunk

/-- The chunks of some calls as they are recorded: those with octets. -/
def recordedChunks [MetricArithmetic] (v : Stage2StreamValidator) :
    List StreamCall → List Stage2RawResponseBodyChunk
  | [] => []
  | call :: calls =>
    let v' := (Stage2StreamValidator.call call v).2
    match call with
    | .feed chunk offset =>
      if chunk = [] then recordedChunks v' calls
      else recordedChunk chunk offset v v' :: recordedChunks v' calls
    | _ => recordedChunks v' calls

/-! ## The replay next to the live run -/

namespace Stage2StreamValidator

/-- The validator with another clock and another last observation. -/
def withClock (v : Stage2StreamValidator) (clock : Option FrameClock) (last : ℤ) :
    Stage2StreamValidator :=
  { v with frameClock := clock, lastObservationOffsetNs := last }

/-- A frame is accepted whatever the clock is. -/
theorem acceptFrame_withClock {frame : SSEFrame} {offset : ℤ} {v v' : Stage2StreamValidator}
    (h : acceptFrame frame offset v = (.ok (), v')) (clock : Option FrameClock) (last : ℤ) :
    acceptFrame frame offset (v.withClock clock last) = (.ok (), v'.withClock clock last) := by
  obtain ⟨reading, hread, hfits, rfl⟩ := acceptFrame_eq_ok.mp h
  exact acceptFrame_eq_ok.mpr ⟨reading, hread, hfits, rfl⟩

/-- The one thing a frame adds to the events is its own, at its time. -/
theorem acceptFrame_offsets {frame : SSEFrame} {offset : ℤ} {v v' : Stage2StreamValidator}
    (h : acceptFrame frame offset v = (.ok (), v')) :
    v'.parsedSseEvents.map (·.observationOffsetNs) =
        v.parsedSseEvents.map (·.observationOffsetNs) ++ [offset] ∧
      v'.lastObservationOffsetNs = v.lastObservationOffsetNs := by
  obtain ⟨reading, -, -, rfl⟩ := acceptFrame_eq_ok.mp h
  exact ⟨List.map_append, rfl⟩

omit [Interpreter] in
/-- The time of a frame, with a clock that has recorded it. -/
theorem frameTime_follows {offset time : ℤ} {v t : Stage2StreamValidator}
    (h : frameTime offset v = (.ok time, t)) (hnow : v.lastObservationOffsetNs = offset)
    {offsets : List ℤ} {k : ℕ} (hk : offsets[k]? = some time) :
    frameTime offset (v.withClock (some { recordedClock offsets with reads := k }) offset) =
      (.ok time, t.withClock (some { recordedClock offsets with reads := k + 1 }) time) := by
  have hreading : (recordedClock offsets).readings k = .ok time := by
    simp only [recordedClock, hk]
  rcases frameTime_eq_ok.mp h with ⟨-, rfl, rfl⟩ | ⟨clock, -, -, hlast, rfl⟩
  · exact frameTime_eq_ok.mpr (.inr ⟨_, rfl, hreading, le_refl _, rfl⟩)
  · exact frameTime_eq_ok.mpr (.inr ⟨_, rfl, hreading, hnow ▸ hlast, rfl⟩)

/-- The frames of a read after the first, with a clock that has recorded their times. -/
theorem acceptLaterFrames_follows {frames : List SSEFrame} {offset : ℤ}
    {v v' : Stage2StreamValidator} (h : acceptLaterFrames offset frames v = (.ok (), v'))
    (hnow : v.lastObservationOffsetNs = offset) :
    ∃ times, times.length = frames.length ∧
      v'.parsedSseEvents.map (·.observationOffsetNs) =
        v.parsedSseEvents.map (·.observationOffsetNs) ++ times ∧
      ∀ offsets k, offsets.drop k = times →
        acceptLaterFrames offset frames
            (v.withClock (some { recordedClock offsets with reads := k }) offset) =
          (.ok (), v'.withClock (some { recordedClock offsets with reads := k + frames.length })
            v'.lastObservationOffsetNs) := by
  -- -- by induction on the frames: the recorded clock gives each the time it had
  induction frames generalizing offset v with
  | nil =>
    obtain rfl : v = v' := by simpa [acceptLaterFrames] using h
    refine ⟨[], rfl, (List.append_nil _).symm, fun offsets k _ => ?_⟩
    rw [hnow]
    rfl
  | cons frame frames ih =>
    obtain ⟨time, t, htime, h⟩ := Method.bind_eq_ok.mp h
    obtain ⟨⟨⟩, w, hframe, h⟩ := Method.bind_eq_ok.mp h
    obtain ⟨hevents, hlast⟩ := acceptFrame_offsets hframe
    have htevents : t.parsedSseEvents = v.parsedSseEvents := by
      rcases frameTime_eq_ok.mp htime with ⟨-, -, rfl⟩ | ⟨_, -, -, -, rfl⟩ <;> rfl
    have htnow : t.lastObservationOffsetNs = time := by
      rcases frameTime_eq_ok.mp htime with ⟨-, rfl, rfl⟩ | ⟨_, -, -, -, rfl⟩
      · exact hnow
      · rfl
    obtain ⟨times, hlength, hmap, hfollows⟩ := ih h (hlast.trans htnow)
    refine ⟨time :: times, by simp [hlength], ?_, ?_⟩
    · rw [hmap, hevents, htevents, List.append_assoc, List.singleton_append]
    · intro offsets k hdrop
      -- -- the next recorded time is the one this frame was read at
      have hk : offsets[k]? = some time := by
        rw [← List.head?_drop, hdrop, List.head?_cons]
      have hrest : offsets.drop (k + 1) = times := by
        rw [← List.tail_drop, hdrop, List.tail_cons]
      refine Method.bind_eq_ok.mpr ⟨time, _, frameTime_follows htime hnow hk, ?_⟩
      refine Method.bind_eq_ok.mpr ⟨(), _, acceptFrame_withClock hframe _ _, ?_⟩
      rw [hfollows offsets (k + 1) hrest, List.length_cons, Nat.add_right_comm, Nat.add_assoc]

/-- **The loop of a read with the recorded clock** goes as it went live. -/
theorem acceptFrames_follows {frames : List SSEFrame} {offset : ℤ} {v v' : Stage2StreamValidator}
    (h : acceptFrames offset frames v = (.ok (), v')) (hnow : v.lastObservationOffsetNs = offset) :
    ∃ times, v'.parsedSseEvents.map (·.observationOffsetNs) =
        v.parsedSseEvents.map (·.observationOffsetNs) ++ times ∧
      acceptFrames offset frames (v.withClock (some (recordedClock times.tail)) offset) =
        (.ok (), v'.withClock (some { recordedClock times.tail with reads := times.tail.length })
          v'.lastObservationOffsetNs) := by
  cases frames with
  | nil =>
    obtain rfl : v = v' := by simpa [acceptFrames] using h
    refine ⟨[], (List.append_nil _).symm, ?_⟩
    rw [hnow]
    rfl
  | cons frame frames =>
    obtain ⟨⟨⟩, t, hframe, h⟩ := Method.bind_eq_ok.mp h
    obtain ⟨hevents, hlast⟩ := acceptFrame_offsets hframe
    obtain ⟨times, hlength, hmap, hfollows⟩ := acceptLaterFrames_follows h (hlast.trans hnow)
    refine ⟨offset :: times, ?_, ?_⟩
    · rw [hmap, hevents, List.append_assoc, List.singleton_append]
    · refine Method.bind_eq_ok.mpr ⟨(), _, acceptFrame_withClock hframe _ _, ?_⟩
      have hloop := hfollows times 0 rfl
      rwa [Nat.zero_add, ← hlength] at hloop

omit [Interpreter] in
theorem exactBytes_recordedChunk (chunk : Bytes) (offset : ℤ)
    (v v' : Stage2StreamValidator) : (recordedChunk chunk offset v v').exactBytes = .ok chunk := by
  unfold Stage2RawResponseBodyChunk.exactBytes recordedChunk
  rw [b64decode_b64encode]
  exact if_neg (not_not.mpr rfl)

/-- A read that is recorded is replayed. -/
theorem replayChunk_follows {chunk : Bytes} {offset : ℤ} {v v' : Stage2StreamValidator}
    (h : feed chunk offset v = (.ok (), v')) (clock : Option FrameClock) {last : ℤ}
    (hlast : last ≤ v.lastObservationOffsetNs) :
    ∃ clock', replayChunk (recordedChunk chunk offset v v') (v.withClock clock last) =
      (.ok (), v'.withClock clock' v'.lastObservationOffsetNs) := by
  obtain ⟨hopen, hheaders, hle, frames, parser, hparser, hframes⟩ := feed_eq_ok.mp h
  obtain ⟨times, hmap, hfollows⟩ := acceptFrames_follows hframes rfl
  have htimes : (recordedChunk chunk offset v v').completedSseFrameObservationOffsetsNs = times := by
    have hlength : v.parsedSseEvents.length =
        (v.parsedSseEvents.map (·.observationOffsetNs)).length := by rw [List.length_map]
    have hmap : v'.parsedSseEvents.map (·.observationOffsetNs) =
        v.parsedSseEvents.map (·.observationOffsetNs) ++ times := hmap
    rw [recordedChunk, List.map_drop, hmap, hlength, List.drop_left]
  have hfeed : feed chunk offset (v.withClock (some (recordedClock times.tail)) last) =
      (.ok (), v'.withClock (some { recordedClock times.tail with reads := times.tail.length })
        v'.lastObservationOffsetNs) :=
    feed_eq_ok.mpr ⟨hopen, hheaders, hlast.trans hle, frames, parser, hparser, hfollows⟩
  refine ⟨some { recordedClock times.tail with reads := times.tail.length }, ?_⟩
  unfold replayChunk
  rw [htimes, Method.assign_bind, Method.self_bind]
  refine Method.ofExcept_bind_eq_ok.mpr
    ⟨chunk, exactBytes_recordedChunk chunk offset v v', ?_⟩
  refine Method.bind_eq_ok.mpr ⟨(), _, hfeed, ?_⟩
  rw [Method.self_bind, Method.guard_eq_ok]
  refine ⟨?_, rfl⟩
  push Not
  exact ⟨htimes, rfl⟩

/-- The loop of a read leaves the headers as they are. -/
theorem feed_headers {chunk : Bytes} {offset : ℤ} {v v' : Stage2StreamValidator}
    (h : feed chunk offset v = (.ok (), v')) : v'.responseHeadersOffsetNs ≠ none := by
  obtain ⟨-, hheaders, -, frames, parser, -, hframes⟩ := feed_eq_ok.mp h
  obtain ⟨-, hkept⟩ := acceptFrames_induct (I := fun _ _ w => w.responseHeadersOffsetNs ≠ none)
    (fun _ _ _ _ _ ht hframe => by
      obtain ⟨_, -, -, rfl⟩ := acceptFrame_eq_ok.mp hframe
      exact ht)
    (fun _ _ _ _ _ ht htime => by
      rcases frameTime_eq_ok.mp htime with ⟨-, -, rfl⟩ | ⟨_, -, -, -, rfl⟩ <;> exact ht)
    (v := { v.fed chunk offset with parser := parser }) hheaders hframes
  exact hkept

/-- A read without octets is an observation and nothing else. -/
theorem eq_of_feed_nil {offset : ℤ} {v v' : Stage2StreamValidator}
    (h : feed [] offset v = (.ok (), v')) :
    v.lastObservationOffsetNs ≤ offset ∧ v' = v.withClock v.frameClock offset := by
  obtain ⟨-, -, hle, frames, parser, hparser, hframes⟩ := feed_eq_ok.mp h
  obtain ⟨rfl, rfl⟩ : [] = frames ∧ v.parser = parser := by simpa [feed_nil] using hparser
  obtain rfl := (Prod.mk.inj hframes).2
  exact ⟨hle, by simp [fed, retainChunk, withClock]⟩

variable [MetricArithmetic]

/-- Once the transport is closed no accepted call opens it again. -/
theorem closed_of_accepted {calls : List StreamCall} {v v' : Stage2StreamValidator}
    (h : accepted call v calls = some v') (hclosed : v.transportTerminalOffsetNs ≠ none) :
    v'.transportTerminalOffsetNs ≠ none := by
  refine accepted_invariant (fun _ w => w.transportTerminalOffsetNs ≠ none) hclosed ?_ h
  intro _ u k _ w hu hcall
  cases k with
  | acceptResponseHeaders xRequestId offset =>
    obtain ⟨⟨⟩, t, hheaders, hresult⟩ := Method.bind_eq_ok.mp hcall
    obtain ⟨-, rfl⟩ := Prod.mk.inj hresult
    obtain ⟨-, -, -, rfl⟩ := acceptResponseHeaders_eq_ok.mp hheaders
    exact hu
  | feed chunk offset =>
    obtain ⟨⟨⟩, t, hfeed, -⟩ := Method.bind_eq_ok.mp hcall
    exact absurd (feed_eq_ok.mp hfeed).1 hu
  | closeTransport offset chain =>
    obtain ⟨evidence, t, hclose, -⟩ := Method.bind_eq_ok.mp hcall
    exact absurd (closeChecks_eq_ok.mp (closeTransport_eq_ok.mp hclose).1).1 hu

/-- The reads of a run are replayed. -/
theorem replayChunks_follows {calls : List StreamCall} {v v' : Stage2StreamValidator}
    (h : accepted call v calls = some v') (hheaders : v.responseHeadersOffsetNs ≠ none)
    (hopen : v'.transportTerminalOffsetNs = none) (clock : Option FrameClock) {last : ℤ}
    (hlast : last ≤ v.lastObservationOffsetNs) :
    ∃ clock' last', last' ≤ v'.lastObservationOffsetNs ∧
      replayChunks (recordedChunks v calls) (v.withClock clock last) =
        (.ok (), v'.withClock clock' last') := by
  -- -- by induction on the calls after the headers, which are the recorded reads
  induction calls generalizing v clock last with
  | nil =>
    obtain rfl : v = v' := by simpa [accepted] using h
    exact ⟨clock, last, hlast, rfl⟩
  | cons k calls ih =>
    obtain ⟨result, t, hcall, h⟩ := accepted_cons.mp h
    have hstate : (call k v).2 = t := by rw [hcall]
    cases k with
    | acceptResponseHeaders xRequestId offset =>
      obtain ⟨⟨⟩, _, haccept, -⟩ := Method.bind_eq_ok.mp hcall
      -- -- the headers came once, before
      exact absurd (acceptResponseHeaders_eq_ok.mp haccept).1 hheaders
    | closeTransport offset chain =>
      obtain ⟨evidence, _, hclose, hresult⟩ := Method.bind_eq_ok.mp hcall
      obtain ⟨-, rfl⟩ := Prod.mk.inj hresult
      obtain ⟨-, -, -, -, -, -, rfl⟩ := closeChecks_eq_ok.mp (closeTransport_eq_ok.mp hclose).1
      -- -- nothing is read after a close
      exact absurd hopen (closed_of_accepted h (by simp))
    | feed chunk offset =>
      obtain ⟨⟨⟩, _, hfeed, hresult⟩ := Method.bind_eq_ok.mp hcall
      obtain ⟨-, rfl⟩ := Prod.mk.inj hresult
      have hheaders' := feed_headers hfeed
      by_cases hchunk : chunk = []
      · -- a read without octets is not recorded
        subst hchunk
        obtain ⟨hle, rfl⟩ := eq_of_feed_nil hfeed
        obtain ⟨clock', last', hlast', hreplay⟩ := ih h hheaders' clock (hlast.trans hle)
        refine ⟨clock', last', hlast', ?_⟩
        rw [recordedChunks, hstate]
        exact hreplay
      · obtain ⟨clock', hchunk'⟩ := replayChunk_follows hfeed clock hlast
        obtain ⟨clock'', last', hlast', hreplay⟩ := ih h hheaders' clock' (le_refl _)
        refine ⟨clock'', last', hlast', ?_⟩
        rw [recordedChunks, hstate, if_neg hchunk]
        exact Method.bind_eq_ok.mpr ⟨(), _, hchunk', hreplay⟩

/-- A close goes as it went live. -/
theorem closeTransport_follows {offset : ℤ} {chain : RequestIdentityChain}
    {v w : Stage2StreamValidator} {evidence : Stage2RequestEvidence}
    (h : closeTransport offset chain v = (.ok evidence, w)) {clock : Option FrameClock} {last : ℤ}
    (hlast : last ≤ v.lastObservationOffsetNs) :
    closeTransport offset chain (v.withClock clock last) =
      (.ok evidence, w.withClock clock offset) := by
  obtain ⟨hchecks, hevidence⟩ := closeTransport_eq_ok.mp h
  obtain ⟨hopen, hle, hlf, hdone, hprotocol, hchain, rfl⟩ := closeChecks_eq_ok.mp hchecks
  exact closeTransport_eq_ok.mpr
    ⟨closeChecks_eq_ok.mpr ⟨hopen, hlast.trans hle, hlf, hdone, hprotocol, hchain, rfl⟩, hevidence⟩

/-- The first call of a run that is closed accepts the headers. -/
theorem exists_headers_of_closed {request : StreamRequest} {dispatch : ℤ} {fixture : Option Str}
    {clock : Option FrameClock} {calls : List StreamCall} {v w : Stage2StreamValidator}
    {offset : ℤ} {chain : RequestIdentityChain}
    (h : accepted call (start request dispatch fixture clock) calls = some v)
    (hclose : closeChecks offset chain v = (.ok (), w)) :
    ∃ headers rest, calls = .acceptResponseHeaders request.externalBaseId headers :: rest ∧
      dispatch ≤ headers ∧
      accepted call { start request dispatch fixture clock with
        lastObservationOffsetNs := headers
        responseHeadersOffsetNs := some headers } rest = some v := by
  obtain ⟨hopen, -, -, hdone, -, -, -⟩ := closeChecks_eq_ok.mp hclose
  cases calls with
  | nil =>
    obtain rfl : start request dispatch fixture clock = v := by simpa [accepted] using h
    cases hdone
  | cons k rest =>
    obtain ⟨result, t, hcall, h⟩ := accepted_cons.mp h
    cases k with
    | acceptResponseHeaders xRequestId headers =>
      obtain ⟨⟨⟩, _, haccept, hresult⟩ := Method.bind_eq_ok.mp hcall
      obtain ⟨-, rfl⟩ := Prod.mk.inj hresult
      obtain ⟨-, rfl, hle, rfl⟩ := acceptResponseHeaders_eq_ok.mp haccept
      exact ⟨headers, rest, rfl, hle, h⟩
    | feed chunk offset =>
      obtain ⟨⟨⟩, _, hfeed, -⟩ := Method.bind_eq_ok.mp hcall
      exact absurd rfl (feed_eq_ok.mp hfeed).2.1
    | closeTransport offset chain =>
      obtain ⟨evidence, _, hfirst, -⟩ := Method.bind_eq_ok.mp hcall
      obtain ⟨-, -, -, hearly, -⟩ := closeChecks_eq_ok.mp (closeTransport_eq_ok.mp hfirst).1
      cases hearly

end Stage2StreamValidator

/-! ## The events -/

/-- What a frame that was read holds. -/
structure FrameRead (frame : SSEFrame) : Prop where
  data : ∀ data ∈ frame.data, IsEncodable data
  comments : ∀ comment ∈ frame.comments, IsEncodable comment
  done : frame.kind = .done → frame.data = some (lit "[DONE]")
  filled : frame.kind = .data → frame.data ≠ none

omit [Interpreter] in
/-- A line that is read is a part of the line. -/
theorem isEncodable_of_readLine {line : Str} {field : Str ⊕ Str} (h : readLine line = some field)
    (hline : IsEncodable line) :
    (∀ comment ∈ field.getLeft?, IsEncodable comment) ∧
      ∀ data ∈ field.getRight?, IsEncodable data := by
  have hdrop : ∀ n, IsEncodable (line.drop n) := fun n c hc => hline c (List.mem_of_mem_drop hc)
  unfold readLine at h
  split_ifs at h with hcomment hname hdata
  · obtain rfl := Option.some.inj h
    refine ⟨?_, by simp⟩
    rintro comment ⟨⟩
    exact fun c hc => hdrop 1 c ((List.dropWhile_sublist _).subset hc)
  · obtain rfl := Option.some.inj h
    refine ⟨by simp, ?_⟩
    rintro data ⟨⟩
    exact fun c hc => absurd hc List.not_mem_nil
  · obtain rfl := Option.some.inj h
    refine ⟨by simp, ?_⟩
    rintro data hvalue
    obtain rfl := Option.some.inj hvalue
    split
    · exact fun c hc => hdrop 5 c (List.mem_of_mem_drop hc)
    · exact hdrop 5

omit [Interpreter] in
/-- A frame is read off encodable lines. -/
theorem frameRead_of_readFrame {done : Bool} {raw : Bytes} {frame : SSEFrame}
    (h : Sse.readFrame done raw = .ok frame) : FrameRead frame := by
  unfold Sse.readFrame at h
  split at h
  · cases h
  · next text htext =>
    split at h
    · cases h
    · split at h
      · cases h
      · next lines hlines =>
        have hscalar := isScalar_of_utf8Decode htext
        have hfields : ∀ field ∈ lines, (∀ comment ∈ field.getLeft?, IsEncodable comment) ∧
            ∀ data ∈ field.getRight?, IsEncodable data := by
          intro field hfield
          obtain ⟨line, hline, hread⟩ := exists_of_mapM_eq_some hlines hfield
          refine isEncodable_of_readLine hread fun c hc => hscalar c ?_
          have hjoin : List.intercalate [10] (text.splitOn 10) = text := List.intercalate_splitOn _
          exact hjoin ▸ mem_intercalate hline hc
        have hcomments : ∀ comment ∈ lines.filterMap Sum.getLeft?, IsEncodable comment := by
          intro comment hcomment
          obtain ⟨field, hfield, hget⟩ := List.mem_filterMap.mp hcomment
          exact (hfields field hfield).1 comment hget
        have hdata : IsEncodable ((lit "\n").intercalate (lines.filterMap Sum.getRight?)) := by
          apply encodable_intercalate (by decide)
          intro data hdata
          obtain ⟨field, hfield, hget⟩ := List.mem_filterMap.mp hdata
          exact (hfields field hfield).2 data hget
        dsimp only at h
        split_ifs at h with hnone hmarker
        · obtain rfl := Except.ok.inj h
          exact ⟨by simp, hcomments, by simp, by simp⟩
        · obtain rfl := Except.ok.inj h
          refine ⟨?_, hcomments, fun _ => by rw [hmarker], by simp⟩
          rintro data ⟨⟩
          exact hdata
        · obtain rfl := Except.ok.inj h
          refine ⟨?_, hcomments, by simp, by simp⟩
          rintro data ⟨⟩
          exact hdata

omit [Interpreter] in
theorem frameRead_of_readPieces {pieces : List Bytes} {done done' : Bool} {frames : List SSEFrame}
    (h : readPieces done pieces = .ok (frames, done')) : ∀ frame ∈ frames, FrameRead frame := by
  induction pieces generalizing done frames with
  | nil =>
    obtain ⟨rfl, -⟩ := Prod.mk.inj (Except.ok.inj h)
    simp
  | cons piece pieces ih =>
    rcases eq_or_ne piece [] with rfl | hne
    · exact ih h
    · obtain ⟨frame, rest, hread, hrest, rfl⟩ := (readPieces_cons_eq_ok hne).mp h
      exact List.forall_mem_cons.mpr ⟨frameRead_of_readFrame hread, ih hrest⟩

/-- The identity of the values is that of the event they construct. -/
theorem sha256Identity_replayedValues (event : RetainedSSEEvent) (identity : Str) :
    sha256Identity
        (.obj (replayedValues event ++ [(lit "identity_sha256", Json.str identity)]))
        ["identity_sha256"] = sha256Identity (.obj (replayedValues event)) :=
  sha256Identity_omit rfl

/-- An event of a frame that was read is replayed. -/
theorem replayEvent_of_frameRead {event : RetainedSSEEvent} (hframe : FrameRead event.frame)
    (hordinal : event.ordinal < maxInt) (hnonneg : 0 ≤ event.observationOffsetNs)
    (hoffset : event.observationOffsetNs.natAbs < maxInt) :
    ∃ replayed, replayEvent event = .ok replayed ∧ replayed.event = event := by
  obtain ⟨identity, hidentity⟩ :
      ∃ identity, sha256Identity (.obj (replayedValues event)) = .ok identity := by
    refine exists_sha256Identity_iff.mpr ⟨?_, ?_⟩
    · have hdata : JsonEncodable ((event.data.map Json.str).getD .null) := by
        cases hdata : event.data with
        | none => trivial
        | some data => exact hframe.data data hdata
      have hcomments : ∀ comment ∈ event.comments.map Json.str, JsonEncodable comment := by
        intro comment hcomment
        obtain ⟨text, htext, rfl⟩ := List.mem_map.mp hcomment
        exact hframe.comments text htext
      have hkind : JsonEncodable (Json.str (frameKindValue event.kind)) := by
        cases event.kind <;> exact encodable_lit _
      refine fieldsEncodable_iff.mpr ?_
      simp only [replayedValues, List.forall_mem_cons, List.not_mem_nil, false_implies,
        implies_true, and_true]
      refine ⟨⟨encodable_lit _, trivial⟩, ⟨encodable_lit _, trivial⟩, ⟨encodable_lit _, hkind⟩,
        ⟨encodable_lit _, hdata⟩, encodable_lit _, ?_⟩
      exact itemsEncodable_iff.mpr hcomments
    · have hdata : intsShort ((event.data.map Json.str).getD .null) = true := by
        cases event.data <;> rfl
      have hcomments : itemsShort (event.comments.map Json.str) = true := by
        rw [itemsShort_iff]
        intro comment hcomment
        obtain ⟨text, -, rfl⟩ := List.mem_map.mp hcomment
        rfl
      simp [replayedValues, intsShort, fieldsShort, hdata, hcomments, hordinal, hoffset]
  refine ⟨⟨event.ordinal, event.observationOffsetNs, event.kind, event.data, event.comments,
    identity⟩, ?_, rfl⟩
  unfold replayEvent
  refine bind_eq_ok.mpr ⟨identity, hidentity, ?_⟩
  have hdone : ¬ (event.kind = .done ∧ event.data ≠ some (lit "[DONE]")) :=
    fun h => h.2 (hframe.done h.1)
  have hfilled : ¬ (event.kind = .data ∧ event.data = none) := fun h => hframe.filled h.1 h.2
  rw [if_neg (by omega), if_neg hdone, if_neg hfilled]
  refine bind_eq_ok.mpr ⟨identity, by rw [sha256Identity_replayedValues, hidentity], ?_⟩
  rw [if_neg (not_not.mpr rfl)]
  rfl

/-! ## The replay of a live run -/

variable [MetricArithmetic]

/-- A record of a live run that was closed. -/
structure Records (capture : Stage2RequestWireCapture) (req : StreamRequest) (dispatched : ℤ)
    (identity : Option Str) (clock : Option FrameClock) (calls : List StreamCall) (offset : ℤ)
    (identityChain : RequestIdentityChain) : Prop where
  request : capture.request = req
  dispatch : capture.transmissionOffsetNs = dispatched
  fixture : capture.fixtureIdentitySha256 = identity
  xRequestId : capture.xRequestId = req.externalBaseId
  headers : ∀ id headers, .acceptResponseHeaders id headers ∈ calls →
    capture.responseHeadersOffsetNs = headers
  chunks : capture.responseBodyChunks =
    recordedChunks (Stage2StreamValidator.start req dispatched identity clock) calls
  close : capture.closeObservationOffsetNs = offset
  chain : sha256Identity identityChain.dump = .ok capture.requestIdentityChainSha256

namespace Stage2StreamValidator

/-- The events are numbered below their number. -/
def Numbered (v : Stage2StreamValidator) : Prop :=
  ∀ event ∈ v.parsedSseEvents, event.ordinal < v.parsedSseEvents.length

omit [MetricArithmetic] in
theorem Numbered.acceptFrame {frame : SSEFrame} {offset : ℤ} {v v' : Stage2StreamValidator}
    (h : v.Numbered) (hframe : acceptFrame frame offset v = (.ok (), v')) : v'.Numbered := by
  obtain ⟨reading, -, -, rfl⟩ := acceptFrame_eq_ok.mp hframe
  intro event hevent
  change event.ordinal < (v.parsedSseEvents ++ [_]).length
  rw [List.length_append, List.length_singleton]
  rcases List.mem_append.mp hevent with hevent | hevent
  · exact Nat.lt_succ_of_lt (h event hevent)
  · obtain rfl := List.mem_singleton.mp hevent
    exact Nat.lt_succ_self _

theorem Numbered.call {call : StreamCall} {v v' : Stage2StreamValidator}
    {result : Option Stage2RequestEvidence} (h : v.Numbered)
    (hcall : Stage2StreamValidator.call call v = (.ok result, v')) : v'.Numbered := by
  cases call with
  | acceptResponseHeaders xRequestId offset =>
    obtain ⟨⟨⟩, t, hheaders, hresult⟩ := Method.bind_eq_ok.mp hcall
    obtain ⟨-, rfl⟩ := Prod.mk.inj hresult
    obtain ⟨-, -, -, rfl⟩ := acceptResponseHeaders_eq_ok.mp hheaders
    exact h
  | feed chunk offset =>
    obtain ⟨⟨⟩, t, hfeed, hresult⟩ := Method.bind_eq_ok.mp hcall
    obtain ⟨-, rfl⟩ := Prod.mk.inj hresult
    obtain ⟨-, -, -, frames, parser, -, hframes⟩ := feed_eq_ok.mp hfeed
    obtain ⟨-, hnumbered⟩ := acceptFrames_induct (I := fun _ _ u => Numbered u)
      (fun _ _ _ _ _ ht hframe => ht.acceptFrame hframe)
      (fun _ _ _ _ _ ht htime => by
        rcases frameTime_eq_ok.mp htime with ⟨-, -, rfl⟩ | ⟨_, -, -, -, rfl⟩ <;> exact ht)
      (v := { v.fed chunk offset with parser := parser }) h hframes
    exact hnumbered
  | closeTransport offset chain =>
    obtain ⟨evidence, t, hclose, hresult⟩ := Method.bind_eq_ok.mp hcall
    obtain ⟨-, rfl⟩ := Prod.mk.inj hresult
    obtain ⟨-, -, -, -, -, -, rfl⟩ := closeChecks_eq_ok.mp (closeTransport_eq_ok.mp hclose).1
    exact h

theorem numbered_of_accepted {request : StreamRequest} {dispatch : ℤ} {fixture : Option Str}
    {clock : Option FrameClock} {calls : List StreamCall} {v : Stage2StreamValidator}
    (h : accepted call (start request dispatch fixture clock) calls = some v) : v.Numbered :=
  accepted_invariant (fun _ => Numbered) (fun _ hevent => absurd hevent List.not_mem_nil)
    (fun _ _ _ _ _ hu hcall => hu.call hcall) h

/-- The calls of the replay of a record give the evidence of the live run. -/
theorem replayCalls_live {capture : Stage2RequestWireCapture} {request : StreamRequest}
    {dispatch : ℤ} {fixture : Option Str} {clock : Option FrameClock} {calls : List StreamCall}
    {offset : ℤ} {chain : RequestIdentityChain} {evidence : Stage2RequestEvidence}
    {v w : Stage2StreamValidator}
    (hlive : accepted call (start request dispatch fixture clock) calls = some v)
    (hclose : closeTransport offset chain v = (.ok evidence, w))
    (hcapture : Records capture request dispatch fixture clock calls offset chain) :
    ∃ clock', replayCalls capture chain (start capture.request capture.transmissionOffsetNs
        capture.fixtureIdentitySha256 (some (recordedClock []))) =
      (.ok evidence, w.withClock clock' offset) := by
  have hchecks := (closeTransport_eq_ok.mp hclose).1
  obtain ⟨headers, rest, rfl, hle, hrest⟩ := exists_headers_of_closed hlive hchecks
  have hheaders : capture.responseHeadersOffsetNs = headers :=
    hcapture.headers _ _ List.mem_cons_self
  let opened : Stage2StreamValidator :=
    { start request dispatch fixture clock with
      lastObservationOffsetNs := headers, responseHeadersOffsetNs := some headers }
  have hstate : (call (.acceptResponseHeaders request.externalBaseId headers)
      (start request dispatch fixture clock)).2 = opened := by
    obtain ⟨_, t, hcall, -⟩ := accepted_cons.mp hlive
    obtain ⟨⟨⟩, _, haccept, hresult⟩ := Method.bind_eq_ok.mp hcall
    obtain ⟨-, -, -, hopened⟩ := acceptResponseHeaders_eq_ok.mp haccept
    rw [hcall]
    exact (Prod.mk.inj hresult).2.symm.trans hopened
  have hchunks : capture.responseBodyChunks = recordedChunks opened rest := by
    rw [hcapture.chunks, ← hstate]
    rfl
  obtain ⟨clock', last, hlast, hreplay⟩ := replayChunks_follows hrest (Option.some_ne_none _)
    (closeChecks_eq_ok.mp hchecks).1 (some (recordedClock [])) (le_refl _)
  refine ⟨clock', ?_⟩
  rw [hcapture.request, hcapture.dispatch, hcapture.fixture]
  unfold replayCalls
  rw [hheaders, hcapture.xRequestId, hchunks, hcapture.close]
  refine Method.bind_eq_ok.mpr ⟨(), _, acceptResponseHeaders_eq_ok.mpr ⟨rfl, rfl, hle, rfl⟩, ?_⟩
  refine Method.bind_eq_ok.mpr ⟨(), _, hreplay, ?_⟩
  exact closeTransport_follows hclose hlast

/-- The events of a run that was closed are those of frames that were read. -/
theorem frameRead_of_closed {request : StreamRequest} {dispatch : ℤ} {fixture : Option Str}
    {clock : Option FrameClock} {calls : List StreamCall} {offset : ℤ}
    {chain : RequestIdentityChain} {v w : Stage2StreamValidator}
    (hlive : accepted call (start request dispatch fixture clock) calls = some v)
    (hclose : closeChecks offset chain v = (.ok (), w)) :
    ∀ event ∈ w.parsedSseEvents, FrameRead event.frame := fun _ hevent =>
  frameRead_of_readPieces (frames_of_closed (inFlight_of_accepted hlive) hclose) _
    (List.mem_map_of_mem hevent)

/-- The events of a run that was closed lie between its dispatch and its close. -/
theorem offsets_of_closed {request : StreamRequest} {dispatch : ℤ} {fixture : Option Str}
    {clock : Option FrameClock} {calls : List StreamCall} {offset : ℤ}
    {chain : RequestIdentityChain} {evidence : Stage2RequestEvidence}
    {v w : Stage2StreamValidator}
    (hlive : accepted call (start request dispatch fixture clock) calls = some v)
    (hclose : closeTransport offset chain v = (.ok evidence, w)) :
    ∀ event ∈ w.parsedSseEvents,
      0 ≤ event.observationOffsetNs ∧ event.observationOffsetNs ≤ offset := by
  obtain ⟨hchecks, hevidence⟩ := closeTransport_eq_ok.mp hclose
  obtain ⟨parts, -, -, -, -, timing, hparts, -, -, -, htiming, -⟩ := evidence_eq_ok.mp hevidence
  obtain ⟨-, -, -, -, first, -, hrecord⟩ := evidenceParts_eq_ok.mp hparts
  have hdispatch : 0 ≤ v.dispatchOffsetNs := by
    obtain ⟨-, hnonneg, -⟩ := Stage2TimingRecord.create_eq_ok.mp htiming
    obtain ⟨-, -, -, -, -, -, hsame, -⟩ := timing_eq_some.mp hrecord
    obtain ⟨-, -, -, -, -, -, rfl⟩ := closeChecks_eq_ok.mp hchecks
    exact (hnonneg _ List.mem_cons_self).trans_eq hsame
  have htimely := timely_of_accepted hlive
  obtain ⟨-, hle, -, -, -, -, rfl⟩ := closeChecks_eq_ok.mp hchecks
  intro event hevent
  obtain ⟨⟨body, hbody, hfirst⟩, hlast⟩ := htimely.events event hevent
  obtain ⟨⟨headers, hheaders, hbefore⟩, -⟩ := htimely.body body hbody
  have hstart := (htimely.headers headers hheaders).1
  omega

end Stage2StreamValidator

/-- **The replay of a live run returns its evidence and its events.** A list of the interpreter has
fewer than `2 ^ 63` items. -/
theorem replayStage2WireCapture_live {capture : Stage2RequestWireCapture} {request : StreamRequest}
    {dispatch : ℤ} {fixture : Option Str} {clock : Option FrameClock} {calls : List StreamCall}
    {offset : ℤ} {chain : RequestIdentityChain} {evidence : Stage2RequestEvidence}
    {v w : Stage2StreamValidator}
    (hlive : accepted Stage2StreamValidator.call
      (Stage2StreamValidator.start request dispatch fixture clock) calls = some v)
    (hclose : Stage2StreamValidator.closeTransport offset chain v = (.ok evidence, w))
    (hoffset : offset < 2 ^ 53) (hevents : v.parsedSseEvents.length < 2 ^ 63)
    (hcapture : Records capture request dispatch fixture clock calls offset chain) :
    ∃ events, replayStage2WireCapture capture chain = .ok (evidence, events) ∧
      events.map (·.event) = v.parsedSseEvents := by
  have hchecks := (Stage2StreamValidator.closeTransport_eq_ok.mp hclose).1
  have hsame : w.parsedSseEvents = v.parsedSseEvents := by
    obtain ⟨-, -, -, -, -, -, rfl⟩ := Stage2StreamValidator.closeChecks_eq_ok.mp hchecks
    rfl
  have hframes := Stage2StreamValidator.frameRead_of_closed hlive hchecks
  have hoffsets := Stage2StreamValidator.offsets_of_closed hlive hclose
  have hnumbered := Stage2StreamValidator.numbered_of_accepted hlive
  have hlimit : (2 : ℕ) ^ 63 ≤ maxInt :=
    le_trans (by norm_num) (pow_le_maxInt (k := 19) (by norm_num))
  -- every event is replayed as it was retained
  have hreplayed : ∀ event ∈ v.parsedSseEvents,
      ∃ replayed, replayEvent event = .ok replayed ∧ replayed.event = event := by
    intro event hevent
    have hordinal := hnumbered event hevent
    rw [← hsame] at hevent
    obtain ⟨hnonneg, hle⟩ := hoffsets event hevent
    exact replayEvent_of_frameRead (hframes event hevent) (by omega) hnonneg (by omega)
  obtain ⟨clock', hcalls⟩ := Stage2StreamValidator.replayCalls_live hlive hclose hcapture
  obtain ⟨events, hcollect, hmap⟩ : ∃ events, collect replayEvent v.parsedSseEvents = .ok events ∧
      events.map (·.event) = v.parsedSseEvents := by
    obtain ⟨events, hevents⟩ := exists_forall₂ hreplayed
    refine ⟨events, collect_eq_ok.mpr (hevents.imp fun _ _ h => h.1), ?_⟩
    have hmap := hevents.imp fun _ _ h => h.2
    rw [← List.forall₂_eq_eq_eq, List.forall₂_map_left_iff]
    exact hmap.flip
  refine ⟨events, ?_, hmap⟩
  unfold replayStage2WireCapture
  dsimp only
  rw [hcalls]
  dsimp only
  refine bind_eq_ok.mpr ⟨_, hcapture.chain, ?_⟩
  rw [if_neg (not_not.mpr rfl)]
  exact bind_eq_ok.mpr ⟨events, hsame ▸ hcollect, rfl⟩

end

section

attribute [local instance] cpython binary64Metrics

/-- The record of a sample stream. -/
def sampleCapture (clock : Option FrameClock) (chunks : List Bytes) (chainSha256 : Str) :
    Stage2RequestWireCapture where
  request := sampleStreamRequest
  transmissionOffsetNs := 0
  fixtureIdentitySha256 := none
  xRequestId := lit "a"
  responseHeadersOffsetNs := 0
  responseBodyChunks := recordedChunks
    (Stage2StreamValidator.start sampleStreamRequest 0 none clock) (sampleCalls chunks)
  closeObservationOffsetNs := 100
  requestIdentityChainSha256 := chainSha256

theorem headers_sampleCalls {chunks : List Bytes} {id : Str} {headers : ℤ}
    (h : .acceptResponseHeaders id headers ∈ sampleCalls chunks) : headers = 0 := by
  rcases List.mem_cons.mp h with h | h
  · injection h
  · obtain ⟨chunk, -, hchunk⟩ := List.mem_map.mp h
    cases hchunk

/-- One read, with a clock, is replayed as a chunk that has recorded three observations. -/
theorem replayStage2WireCapture_live_clocked :
    ∃ chainSha256 evidence events, replayStage2WireCapture
        (sampleCapture (some sampleClock)
          [[sampleGeneration "x", sampleUsage sampleMetrics, sampleDone].flatten] chainSha256)
        sampleChain = .ok (evidence, events) ∧ events.length = 3 := by
  obtain ⟨v, hv, hlength, hclosed⟩ := exists_eq_some
    (p := fun v : Stage2StreamValidator => v.parsedSseEvents.length = 3 ∧
      (Stage2StreamValidator.closeTransport 100 sampleChain v).1.isOk = true)
    (show (accepted Stage2StreamValidator.call
        (Stage2StreamValidator.start sampleStreamRequest 0 none (some sampleClock))
        (sampleCalls [[sampleGeneration "x", sampleUsage sampleMetrics, sampleDone].flatten])).any
      (fun v => decide (v.parsedSseEvents.length = 3 ∧
        (Stage2StreamValidator.closeTransport 100 sampleChain v).1.isOk = true)) = true by
      decide +kernel)
  obtain ⟨evidence, hclose⟩ : ∃ evidence,
      (Stage2StreamValidator.closeTransport 100 sampleChain v).1 = .ok evidence := by
    cases hresult : (Stage2StreamValidator.closeTransport 100 sampleChain v).1 with
    | error e => simp [hresult, Except.isOk, Except.toBool] at hclosed
    | ok evidence => exact ⟨evidence, rfl⟩
  have hclose := Method.eq_mk_snd hclose
  obtain ⟨-, -, -, chainSha256, -, -, -, -, hchain, -⟩ :=
    Stage2StreamValidator.evidence_eq_ok.mp (Stage2StreamValidator.closeTransport_eq_ok.mp hclose).2
  have hcapture : Records (sampleCapture (some sampleClock)
      [[sampleGeneration "x", sampleUsage sampleMetrics, sampleDone].flatten] chainSha256)
      sampleStreamRequest 0 none (some sampleClock)
      (sampleCalls [[sampleGeneration "x", sampleUsage sampleMetrics, sampleDone].flatten]) 100
      sampleChain :=
    { request := rfl
      dispatch := rfl
      fixture := rfl
      xRequestId := rfl
      headers := fun _ _ hcall => (headers_sampleCalls hcall).symm
      chunks := rfl
      close := rfl
      chain := hchain }
  obtain ⟨events, hreplay, hevents⟩ := replayStage2WireCapture_live hv hclose (by norm_num)
    (by rw [hlength]; norm_num) hcapture
  refine ⟨chainSha256, evidence, events, hreplay, ?_⟩
  rw [← hlength, ← hevents, List.length_map]

end

end Stage2
