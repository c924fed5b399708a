import LlmInferenceSystems.Stage2.CancellationStream

/-!
# The account of pending bytes

The pending octets are computed from the whole raw body, the parser's buffer read by read. They
agree as long as no read finds, in what the reads before it have left, a CRLF that one replacement
more would rewrite.

## Main definitions

* `Fed`: the state of a capture after some reads
* `ReadsOnce`: no read finds a CRLF in the buffer
* `PendingAccounted`: the account

## Main results

* `feed_eq_ok`: what a read that returns does
* `pendingAccounted_of_readsOnce`: the account holds in every run whose reads rewrite once
-/

namespace Stage2

open Python Sse

/-- The frame of an event. -/
def RetainedSSEEvent.frame (event : RetainedSSEEvent) : SSEFrame :=
  ⟨event.kind, event.data, event.comments⟩

namespace CancellationStreamCapture

/-! ## The account -/

/-- The state of a capture after some reads. -/
structure Fed (c : CancellationStreamCapture) : Prop where
  parsed : Parsed (c.rawBodyChunks.map (·.data)) (c.parsedSseEvents.map (·.frame)) c.parser

/-- The reads have made the replacements that one replacement makes. -/
def RewrittenOnce (c : CancellationStreamCapture) : Prop :=
  settle (c.rawBodyChunks.map (·.data)) = crlfToLf (c.rawBodyChunks.map (·.data)).flatten

/-- The account of the octets: those pending are those in the parser's buffer, and the others are
the delivered frames with their blank lines. -/
structure PendingAccounted (c : CancellationStreamCapture) : Prop where
  pending : c.parserPendingBytes = c.parser.buffer
  state : c.parserStateAtClose = .atSseFrameBoundary ↔ c.parser.buffer = []
  body : ∃ delivered pieces, c.rawBody = delivered ++ c.pendingBytes ∧
    crlfToLf delivered = joinPieces pieces ∧
    readPieces false pieces = .ok (c.parsedSseEvents.map (·.frame), c.parser.done)

theorem RewrittenOnce.pendingAccounted {c : CancellationStreamCapture} (h : c.RewrittenOnce)
    (hfed : c.Fed) : c.PendingAccounted := by
  have hbody : c.rawBody = (c.rawBodyChunks.map (·.data)).flatten := List.flatMap_def ..
  obtain ⟨delivered, hsplit, hdelivered, hpending⟩ := pendingSseBytes_spec c.rawBody
  have hbuffer : c.parserPendingBytes = c.parser.buffer := by
    rw [hfed.parsed.buffer, h, ← hbody]
    exact hpending
  refine ⟨hbuffer, ?_, delivered, _, hsplit, hdelivered, ?_⟩
  · rw [← hbuffer, parserStateAtClose]
    by_cases hnil : c.parserPendingBytes = [] <;> simp [hnil]
  · rw [hbody, ← h]
    exact hfed.parsed.read

/-- The fields a read writes. -/
def read (c : CancellationStreamCapture) :
    IncrementalSSEParser × List RetainedBodyChunk × List RetainedSSEEvent :=
  (c.parser, c.rawBodyChunks, c.parsedSseEvents)

/-! ## The methods -/

theorem advance_eq_ok {offset : ℤ} {c c' : CancellationStreamCapture} {u : Unit} :
    advance offset c = (.ok u, c') ↔
      c.lastObservationOffsetNs ≤ offset ∧ c' = { c with lastObservationOffsetNs := offset } := by
  rw [advance, Method.self_bind, Method.guard_eq_ok, Method.assign_apply, not_lt]
  simp [eq_comm]

section

variable [Interpreter]

/-- A frame is a comment, or a data frame that holds a generation event. -/
theorem acceptFrame_eq_ok {offset : ℤ} {n : ℕ} {frame : SSEFrame}
    {c c' : CancellationStreamCapture} {u : Unit} :
    acceptFrame offset n frame c = (.ok u, c') ↔
      (frame.kind = .comment ∧ c' = c.retain offset frame) ∨
      ∃ data generation, frame.kind = .data ∧ frame.data = some data ∧
        readGeneration c.request c.expectedPrompt data = .ok generation ∧
        c' = (c.retain offset frame).deliver offset c.parsedSseEvents.length n generation := by
  obtain ⟨kind, data, comments⟩ := frame
  rw [acceptFrame, Method.self_bind, Method.assign_bind]
  rcases kind with _ | _ | _
  · simp [eq_comm]
  · rcases data with _ | data
    · simp
    · simp only [Method.ofExcept_bind_eq_ok, Method.assign_apply]
      simp [eq_comm]
  · simp

/-- What the loop of a read leaves as it is, and the events it adds. -/
structure FramesAccepted (frames : List SSEFrame) (c c' : CancellationStreamCapture) : Prop where
  parser : c'.parser = c.parser
  rawBodyChunks : c'.rawBodyChunks = c.rawBodyChunks
  events : c'.parsedSseEvents.map (·.frame) = c.parsedSseEvents.map (·.frame) ++ frames

theorem framesAccepted {offset : ℤ} {n : ℕ} {frames : List SSEFrame}
    {c c' : CancellationStreamCapture} {u : Unit}
    (h : acceptFrames offset n frames c = (.ok u, c')) : FramesAccepted frames c c' := by
  induction frames generalizing c with
  | nil =>
    obtain rfl : c = c' := by simpa [acceptFrames] using h
    exact ⟨rfl, rfl, by simp⟩
  | cons frame frames ih =>
    obtain ⟨⟨⟩, t, hframe, hframes⟩ := Method.bind_eq_ok.mp h
    obtain ⟨hparser, hchunks, hevents⟩ := ih hframes
    have hstep : t.parser = c.parser ∧ t.rawBodyChunks = c.rawBodyChunks ∧
        t.parsedSseEvents = (c.retain offset frame).parsedSseEvents := by
      rcases acceptFrame_eq_ok.mp hframe with ⟨-, rfl⟩ | ⟨_, _, -, -, -, rfl⟩ <;> exact ⟨rfl, rfl, rfl⟩
    refine ⟨hparser.trans hstep.1, hchunks.trans hstep.2.1, ?_⟩
    rw [hevents, hstep.2.2]
    simp [retain, retainEvent, RetainedSSEEvent.frame]

/-- The capture when a read hands its chunk to the parser. -/
def received (chunk : Bytes) (offset : ℤ) (c : CancellationStreamCapture) :
    CancellationStreamCapture :=
  { c with
    lastObservationOffsetNs := offset
    rawBodyChunks := c.rawBodyChunks ++
      [{ observationOffsetNs := offset, data := chunk, sha256 := Interpreter.hexdigest chunk }] }

/-- **What a read that returns does.** -/
theorem feed_eq_ok {chunk : Bytes} {offset : ℤ} {c c' : CancellationStreamCapture} {b : Bool} :
    feed chunk offset c = (.ok b, c') ↔
      c.closeOffsetNs = none ∧ c.firstGenerationDelivery = none ∧
      c.responseHeadersOffsetNs ≠ none ∧ chunk ≠ [] ∧ c.lastObservationOffsetNs ≤ offset ∧
      ∃ frames parser, IncrementalSSEParser.feed chunk c.parser = (.ok frames, parser) ∧
        acceptFrames offset c.rawBodyChunks.length frames
          { c.received chunk offset with parser := parser } = (.ok (), c') ∧
        b = c'.firstGenerationDelivery.isSome := by
  rw [feed, Method.self_bind, Method.guard_eq_ok, Method.guard_eq_ok, Method.guard_eq_ok,
    Method.guard_eq_ok, not_not, not_not]
  refine and_congr_right fun _ => and_congr_right fun _ => and_congr_right fun _ =>
    and_congr_right fun _ => ?_
  rw [Method.bind_eq_ok]
  constructor
  · rintro ⟨⟨⟩, t, hadvance, h⟩
    obtain ⟨hle, rfl⟩ := advance_eq_ok.mp hadvance
    rw [Method.assign_bind] at h
    obtain ⟨frames, t, hfield, h⟩ := Method.bind_eq_ok.mp h
    obtain ⟨parser, hparser, rfl⟩ := Method.onField_eq_ok.mp hfield
    obtain ⟨⟨⟩, t, hframes, h⟩ := Method.bind_eq_ok.mp h
    rw [Method.self_bind] at h
    obtain ⟨rfl, rfl⟩ : t.firstGenerationDelivery.isSome = b ∧ t = c' := by simpa using h
    exact ⟨hle, frames, parser, hparser, hframes, rfl⟩
  · rintro ⟨hle, frames, parser, hparser, hframes, rfl⟩
    refine ⟨(), _, advance_eq_ok.mpr ⟨hle, rfl⟩, ?_⟩
    rw [Method.assign_bind]
    refine Method.bind_eq_ok.mpr ⟨frames, _, Method.onField_eq_ok.mpr ⟨parser, hparser, rfl⟩, ?_⟩
    exact Method.bind_eq_ok.mpr ⟨(), c', hframes, rfl⟩

theorem keeps_read (r : IncrementalSSEParser × List RetainedBodyChunk × List RetainedSSEEvent)
    {k : CancellationCall} (hk : ∀ chunk offset, k ≠ .feed chunk offset) :
    Method.Keeps (fun c => c.read = r) (call k) := by
  have hadvance : ∀ offset, Method.Keeps (fun c => c.read = r) (advance offset) := fun offset =>
    (Method.keeps_self _).bind fun _ =>
      (Method.keeps_raise _ _).ite (Method.keeps_assign fun _ h => h)
  cases k with
  | acceptResponseHeaders xRequestId offset =>
    refine (Method.keeps_self _).bind fun c => ?_
    exact (Method.keeps_raise _ _).ite <| (Method.keeps_raise _ _).ite <|
      (hadvance offset).bind fun _ => Method.keeps_assign fun _ h => h
  | feed chunk offset => exact absurd rfl (hk chunk offset)
  | close offset =>
    refine (Method.keeps_self _).bind fun c => (Method.keeps_raise _ _).ite <|
      (hadvance offset).bind fun _ => ?_
    cases c.firstGenerationDelivery with
    | none => exact Method.keeps_raise _ _
    | some delivery => exact (Method.keeps_raise _ _).ite (Method.keeps_assign fun _ h => h)
  | completeTransportClose offset =>
    exact (Method.keeps_self _).bind fun c => (Method.keeps_raise _ _).ite <|
      (Method.keeps_raise _ _).ite <| (hadvance offset).bind fun _ =>
        Method.keeps_assign fun _ h => h
  | observeCleanEof offset => exact (hadvance offset).bind fun _ => Method.keeps_raise _ _

/-- What a read that returns does to the fields it writes. -/
theorem read_of_feed {chunk : Bytes} {offset : ℤ} {c c' : CancellationStreamCapture} {u : Unit}
    (h : call (.feed chunk offset) c = (.ok u, c')) :
    chunk ≠ [] ∧ ∃ frames, IncrementalSSEParser.feed chunk c.parser = (.ok frames, c'.parser) ∧
      c'.rawBodyChunks.map (·.data) = c.rawBodyChunks.map (·.data) ++ [chunk] ∧
      c'.parsedSseEvents.map (·.frame) = c.parsedSseEvents.map (·.frame) ++ frames := by
  obtain ⟨b, t, hfeed, hpure⟩ := Method.bind_eq_ok.mp h
  obtain rfl : t = c' := by simpa using hpure
  obtain ⟨-, -, -, hne, -, frames, parser, hparser, hframes, -⟩ := feed_eq_ok.mp hfeed
  obtain ⟨hsame, hchunks, hevents⟩ := framesAccepted hframes
  refine ⟨hne, frames, ?_, ?_, hevents⟩
  · rw [hsame]
    exact hparser
  · rw [hchunks]
    simp [received]

theorem Fed.call {c c' : CancellationStreamCapture} (h : c.Fed) {k : CancellationCall} {u : Unit}
    (hcall : call k c = (.ok u, c')) : c'.Fed := by
  by_cases hk : ∃ chunk offset, k = .feed chunk offset
  · obtain ⟨chunk, offset, rfl⟩ := hk
    obtain ⟨-, frames, hparser, hchunks, hevents⟩ := read_of_feed hcall
    constructor
    rw [hchunks, hevents]
    exact h.parsed.feed hparser
  · have hread := keeps_read c.read (fun chunk offset heq => hk ⟨chunk, offset, heq⟩) c rfl
    rw [hcall] at hread
    obtain ⟨hparser, hchunks, hevents⟩ : c'.parser = c.parser ∧
        c'.rawBodyChunks = c.rawBodyChunks ∧ c'.parsedSseEvents = c.parsedSseEvents := by
      simpa [read] using hread
    constructor
    rw [hparser, hchunks, hevents]
    exact h.parsed

/-! ## Reads that rewrite once -/

/-- No read of the calls finds, in what the reads before it have left, a CRLF. -/
def ReadsOnce (c : CancellationStreamCapture) : List CancellationCall → Prop
  | [] => True
  | k :: calls =>
    (∀ chunk offset, k = .feed chunk offset → NoCrlf c.parser.buffer) ∧
      ReadsOnce (call k c).2 calls

theorem RewrittenOnce.feed {chunk : Bytes} {offset : ℤ} {c c' : CancellationStreamCapture}
    {u : Unit} (h : c.RewrittenOnce) (hfed : c.Fed) (hbuffer : NoCrlf c.parser.buffer)
    (hcall : call (.feed chunk offset) c = (.ok u, c')) : c'.RewrittenOnce := by
  obtain ⟨hne, -, -, hchunks, -⟩ := read_of_feed hcall
  have hnoCrlf : NoCrlf (settle (c.rawBodyChunks.map (·.data))) := by
    rw [← joinPieces_pieces (settle (c.rawBodyChunks.map (·.data))), ← hfed.parsed.buffer]
    exact hbuffer.append_left (cr_not_mem_joinPieces hfed.parsed.clean)
  rw [h] at hnoCrlf
  rw [RewrittenOnce, hchunks, settle_concat, settleStep, if_neg hne, h,
    crlfToLf_crlfToLf_append_of_noCrlf hnoCrlf, List.flatten_append, List.flatten_singleton]

theorem rewrittenOnce_of_readsOnce {calls : List CancellationCall}
    {c c' : CancellationStreamCapture} (hfed : c.Fed) (h : c.RewrittenOnce)
    (hreads : ReadsOnce c calls) (hcalls : accepted call c calls = some c') :
    c'.Fed ∧ c'.RewrittenOnce := by
  induction calls generalizing c with
  | nil =>
    obtain rfl : c = c' := by simpa [accepted] using hcalls
    exact ⟨hfed, h⟩
  | cons k calls ih =>
    obtain ⟨u, t, hcall, hrest⟩ := accepted_cons.mp hcalls
    obtain ⟨hbuffer, hreads⟩ := hreads
    rw [hcall] at hreads
    refine ih (hfed.call hcall) ?_ hreads hrest
    by_cases hk : ∃ chunk offset, k = .feed chunk offset
    · obtain ⟨chunk, offset, rfl⟩ := hk
      exact h.feed hfed (hbuffer chunk offset rfl) hcall
    · have hread := keeps_read c.read (fun chunk offset heq => hk ⟨chunk, offset, heq⟩) c rfl
      rw [hcall] at hread
      have hchunks : t.rawBodyChunks = c.rawBodyChunks := congrArg (·.2.1) hread
      rw [RewrittenOnce, hchunks]
      exact h

/-- **The account holds in every run whose reads rewrite once.** -/
theorem pendingAccounted_of_readsOnce {request : StreamRequest} {dispatchOffsetNs : ℤ}
    {calls : List CancellationCall} {c : CancellationStreamCapture}
    (hreads : ReadsOnce (start request dispatchOffsetNs) calls)
    (hcalls : accepted call (start request dispatchOffsetNs) calls = some c) :
    c.PendingAccounted := by
  have hstart : (start request dispatchOffsetNs).Fed := ⟨Parsed.start⟩
  obtain ⟨hfed, hrewritten⟩ := rewrittenOnce_of_readsOnce hstart rfl hreads hcalls
  exact hrewritten.pendingAccounted hfed

end

/-! ### Comments in two reads -/

section

attribute [local instance] cpython

/-- A request for tokens that are all zero. -/
def sampleRequest : StreamRequest where
  externalBaseId := lit "a"
  prompt := List.replicate 64 0
  external := by decide
  length_prompt := by decide

theorem pendingAccounted_comments :
    ∃ c, accepted call (start sampleRequest 0)
        [.acceptResponseHeaders (lit "a") 1, .feed (ascii ": c" ++ [CR, LF, CR, LF]) 2,
          .feed (ascii ": d") 3] = some c ∧ c.PendingAccounted := by
  obtain ⟨c, hc⟩ := Option.isSome_iff_exists.mp (show (accepted call (start sampleRequest 0)
    [.acceptResponseHeaders (lit "a") 1, .feed (ascii ": c" ++ [CR, LF, CR, LF]) 2,
      .feed (ascii ": d") 3]).isSome by decide +kernel)
  refine ⟨c, hc, pendingAccounted_of_readsOnce ?_ hc⟩
  refine ⟨fun _ _ _ => ?_, fun _ _ _ => ?_, fun _ _ _ => ?_, trivial⟩ <;> decide +kernel

/-- A CR before a CRLF is rewritten again by the next read. -/
theorem exists_not_pendingAccounted :
    ∃ c, accepted call (start sampleRequest 0)
        [.acceptResponseHeaders (lit "a") 1, .feed (ascii ": c" ++ [CR, CR, LF]) 2,
          .feed (ascii "x") 3] = some c ∧ ¬ c.PendingAccounted := by
  obtain ⟨c, hc, hne⟩ := exists_eq_some
    (p := fun c : CancellationStreamCapture => c.parserPendingBytes ≠ c.parser.buffer)
    (show (accepted call (start sampleRequest 0) [.acceptResponseHeaders (lit "a") 1,
      .feed (ascii ": c" ++ [CR, CR, LF]) 2, .feed (ascii "x") 3]).any (fun c =>
        decide (c.parserPendingBytes ≠ c.parser.buffer)) = true by decide +kernel)
  exact ⟨c, hc, fun haccounted => hne haccounted.pending⟩

end

end CancellationStreamCapture

end Stage2
