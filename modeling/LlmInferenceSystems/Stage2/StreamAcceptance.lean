import LlmInferenceSystems.Stage2.StreamGrammar
import LlmInferenceSystems.Stage2.StreamSemantics
import LlmInferenceSystems.Stage2.TokenMetrics

/-!
# Which streams are accepted

The close of a stream returns evidence exactly when its frames have the form of the grammar, no
octets are left over, the chain is that of the request, and what is written can be encoded. The
checks of the evidence ask for nothing else: all they compare follows from the run.

## Main definitions

* `GrammarAccepts`: the frames of an accepted stream
* `Closable`: what a close asks for besides
* `EvidenceOf`: what the evidence holds

## Main results

* `EventsInTime.exists_clientMetrics`: the metrics of the client are those the check expects
* `ClosedStream.exists_evidence`: a stream that was closed leaves evidence
* `closeTransport_iff_grammarAccepts`: which streams are accepted
-/

namespace Stage2

open Python Sse
open Stage2StreamValidator (Generation)
open Received (generationEvent generationEvents)

/-! ## The events of some generations -/

section

variable (sent : List ℕ)

theorem generationEvents_cons (g : ℤ × Generation) (generations : List (ℤ × Generation)) :
    generationEvents sent (g :: generations) =
      generationEvent g (some sent) :: generations.map fun g => generationEvent g none := by
  rw [generationEvents, List.mapIdx_cons]
  refine congrArg₂ _ rfl (List.ext_getElem ?_ ?_)
  · simp
  · simp

theorem offsets_generationEvents (generations : List (ℤ × Generation)) :
    (generationEvents sent generations).map (·.observationOffsetNs) = generations.map (·.1) := by
  apply List.ext_getElem
  · simp [generationEvents]
  · simp [generationEvents, generationEvent]

theorem eventText_generationEvents (generations : List (ℤ × Generation)) :
    eventText (generationEvents sent generations) = (generations.map (·.2.text)).flatten := by
  have htexts : (generationEvents sent generations).map (·.text) =
      generations.map (·.2.text) := by
    apply List.ext_getElem
    · simp [generationEvents]
    · simp [generationEvents, generationEvent]
  rw [eventText, List.flatMap_def, htexts]

theorem eventTokenIds_generationEvents (generations : List (ℤ × Generation)) :
    eventTokenIds (generationEvents sent generations) =
      generations.flatMap (·.2.outputTokenIds) := by
  have hids : (generationEvents sent generations).map (·.outputTokenIds) =
      generations.map (·.2.outputTokenIds) := by
    apply List.ext_getElem
    · simp [generationEvents]
    · simp [generationEvents, generationEvent]
  rw [eventTokenIds, List.flatMap_def, hids, List.flatMap_def]

/-- Only the first event carries the prompt. -/
theorem prompts_generationEvents {generations : List (ℤ × Generation)} (h : generations ≠ []) :
    ((generationEvents sent generations).filter (·.promptTokenIds.isSome)).length = 1 ∧
      (generationEvents sent generations).head?.bind (·.promptTokenIds) = some sent := by
  cases generations with
  | nil => exact absurd rfl h
  | cons g generations =>
    rw [generationEvents_cons, List.filter_cons_of_pos rfl]
    have hrest : (generations.map fun g => generationEvent g none).filter
        (·.promptTokenIds.isSome) = [] := by
      rw [List.filter_eq_nil_iff]
      intro event hevent
      obtain ⟨g, -, rfl⟩ := List.mem_map.mp hevent
      simp [generationEvent]
    rw [hrest]
    exact ⟨rfl, rfl⟩

/-- Only the last event has a finish reason. -/
theorem terminals_generationEvents {generations : List (ℤ × Generation)}
    {terminal : ℤ × Generation} (hunfinished : ∀ g ∈ generations, g.2.finishReason = none)
    (hfinished : terminal.2.finishReason = some .length) :
    ((generationEvents sent (generations ++ [terminal])).filter
      (·.finishReason.isSome)).length = 1 := by
  have hnone : (generationEvents sent generations).filter (·.finishReason.isSome) = [] := by
    rw [List.filter_eq_nil_iff]
    intro event hevent
    obtain ⟨i, hi, rfl⟩ := List.mem_mapIdx.mp hevent
    simp [generationEvent, hunfinished _ (List.getElem_mem hi)]
  rw [Received.generationEvents_concat, List.filter_append, hnone, List.nil_append,
    List.filter_cons_of_pos (by simp [generationEvent, hfinished])]
  rfl

end

/-! ## The metrics -/

section

attribute [local instance] binary64Metrics

theorem collect_floatOf {gaps : List ℤ} (h : ∀ gap ∈ gaps, gap.natAbs < 2 ^ 53) :
    collect floatOf gaps = .ok (gaps.map fun gap : ℤ => PyFloat.finite gap) := by
  rw [collect_eq_ok, List.forall₂_map_right_iff, List.forall₂_same]
  intro gap hgap
  unfold floatOf
  rw [PyFloat.ofInt_of_natAbs_lt (h gap hgap)]

/-- The mean of the gaps and the quotient of their sum are one float, finite and not negative. -/
theorem exists_mean {gaps : List ℤ} (hne : gaps ≠ []) (hsmall : gaps.length < 2 ^ 53)
    (hnonneg : ∀ gap ∈ gaps, 0 ≤ gap) (hsum : gaps.sum < 2 ^ 53) :
    ∃ q, MetricArithmetic.mean gaps = .ok (.finite q) ∧
      MetricArithmetic.quotient gaps.sum gaps.length = .ok (.finite q) ∧ 0 ≤ q := by
  have hlength : gaps.length ≠ 0 := by rwa [ne_eq, List.length_eq_zero_iff]
  obtain ⟨q, htrue, hfloat, hq⟩ :=
    exists_quotients hlength hsmall (List.sum_nonneg hnonneg) hsum
  refine ⟨q, ?_, ?_, hq⟩
  · have hgaps : ∀ gap ∈ gaps, gap.natAbs < 2 ^ 53 := by
      intro gap hgap
      have hle := List.single_le_sum hnonneg gap hgap
      have := hnonneg gap hgap
      omega
    refine bind_eq_ok.mpr ⟨_, collect_floatOf hgaps, ?_⟩
    rw [if_neg (by simpa using hne), sumFloats_intCast hnonneg hsum, List.length_map, hfloat]
  · change (if gaps.length = 0 then _ else _) = _
    rw [if_neg hlength, htrue]

/-- The quotient of an offset difference. -/
theorem exists_quotient {z : ℤ} {n : ℕ} (hn : n ≠ 0) (hsmall : n < 2 ^ 53) (hz : 0 ≤ z)
    (hlt : z < 2 ^ 53) : ∃ q, MetricArithmetic.quotient z n = .ok (.finite q) ∧ 0 ≤ q := by
  obtain ⟨q, htrue, -, hq⟩ := exists_quotients hn hsmall hz hlt
  refine ⟨q, ?_, hq⟩
  change (if n = 0 then _ else _) = _
  rw [if_neg hn, htrue]

/-- The events of a generation with 32 ids, in order, between two points in time less than `2 ^ 53`
nanoseconds apart. -/
structure EventsInTime (events : List Stage2TokenEvent) (terminalOffset : ℤ) : Prop where
  sorted : (events.map (·.observationOffsetNs)).Pairwise (· ≤ ·)
  before : ∀ event ∈ events, event.observationOffsetNs ≤ terminalOffset
  start : ∀ event ∈ events, 0 ≤ event.observationOffsetNs
  finish : terminalOffset < 2 ^ 53
  ids : (eventTokenIds events).length = 32

variable {events : List Stage2TokenEvent} {terminalOffset : ℤ}

namespace EventsInTime

theorem bearing_sorted (h : EventsInTime events terminalOffset) :
    (tokenBearing events).Pairwise (·.observationOffsetNs ≤ ·.observationOffsetNs) :=
  (List.pairwise_map.mp h.sorted).sublist List.filter_sublist

theorem gaps_nonneg (h : EventsInTime events terminalOffset) :
    ∀ gap ∈ eventGaps (tokenBearing events), 0 ≤ gap := by
  have hchain := forall_neighbours.mpr h.bearing_sorted.isChain
  intro gap hgap
  obtain ⟨p, hp, rfl⟩ := List.mem_map.mp hgap
  exact sub_nonneg.mpr (hchain p hp)

/-- Some event has ids. -/
theorem exists_first (h : EventsInTime events terminalOffset) :
    ∃ first, (tokenBearing events).head? = some first ∧ first ∈ events := by
  have hne : tokenBearing events ≠ [] := by
    intro hnil
    have hids : eventTokenIds events = [] := by
      rw [eventTokenIds, List.flatMap_eq_nil_iff]
      intro event hevent
      by_contra hids
      have hmem : event ∈ tokenBearing events := List.mem_filter.mpr ⟨hevent, by simpa using hids⟩
      rw [hnil] at hmem
      exact List.not_mem_nil hmem
    have hlength := h.ids
    rw [hids] at hlength
    cases hlength
  exact ⟨_, List.head?_eq_some_head hne, List.mem_of_mem_filter (List.head_mem hne)⟩

/-- What the gaps add up to is less than `2 ^ 53`. -/
theorem sum_gaps_lt (h : EventsInTime events terminalOffset) :
    (eventGaps (tokenBearing events)).sum < 2 ^ 53 := by
  obtain ⟨first, hfirst, hmem⟩ := h.exists_first
  have hne : tokenBearing events ≠ [] := by
    rintro hnil
    rw [hnil] at hfirst
    cases hfirst
  have hlast := List.getLast?_eq_some_getLast hne
  rw [sum_eventGaps hfirst hlast]
  have hlastMem := List.mem_of_mem_filter (List.getLast_mem hne)
  have := h.before _ hlastMem
  have := h.start _ hmem
  have := h.finish
  omega

/-- **The two metrics of the client are those the check of the evidence expects.** -/
theorem exists_clientMetrics {v : Stage2StreamValidator}
    {parts : Stage2StreamValidator.EvidenceParts} {first : Stage2TokenEvent}
    (h : EventsInTime v.tokenEvents parts.timing.generationTerminalOffsetNs)
    (hfirst : (tokenBearing v.tokenEvents).head? = some first)
    (hoffset : parts.timing.firstOutputTokenOffsetNs = first.observationOffsetNs) :
    ∃ tpot itl, v.clientMetrics parts = .ok (tpot, itl) ∧
      ∀ evidence : Stage2RequestEvidence, evidence.tokenEvents = v.tokenEvents →
        evidence.timing = parts.timing → evidence.clientGenerationTpot = tpot →
        evidence.tokenObservationItl = itl → evidence.checkMetrics = .ok () := by
  unfold Stage2StreamValidator.clientMetrics Stage2RequestEvidence.checkMetrics
    Stage2RequestEvidence.bearing
  dsimp only
  cases hgrouped : isGrouped (tokenBearing v.tokenEvents) with
  | true =>
    refine ⟨.grouped, .grouped, if_pos rfl, ?_⟩
    rintro evidence hevents - htpot hitl
    rw [hevents, if_pos hgrouped, htpot, hitl]
    exact if_neg (by simp [MetricAvailability.grouped])
  | false =>
    -- without groups there are 31 gaps
    obtain ⟨-, hlength, hne⟩ := gaps_of_ungrouped hgrouped h.ids
    have hmem : first ∈ v.tokenEvents := List.mem_of_mem_filter (List.mem_of_mem_head? hfirst)
    have hstart := h.start first hmem
    have hbefore := h.before first hmem
    have hfinish := h.finish
    obtain ⟨tpot, hquotient, htpot⟩ := exists_quotient (n := 31)
      (z := parts.timing.generationTerminalOffsetNs - parts.timing.firstOutputTokenOffsetNs)
      (by norm_num) (by norm_num) (by omega) (by omega)
    obtain ⟨itl, hmean, hsum, hitl⟩ := exists_mean hne (by rw [hlength]; norm_num) h.gaps_nonneg
      h.sum_gaps_lt
    refine ⟨⟨some tpot, none⟩, ⟨some itl, none⟩, ?_, ?_⟩
    · rw [if_neg Bool.false_ne_true]
      have htpot := MetricAvailability.ofValue_eq_ok.mpr ⟨tpot, rfl, htpot, rfl⟩
      have hitl := MetricAvailability.ofValue_eq_ok.mpr ⟨itl, rfl, hitl, rfl⟩
      refine bind_eq_ok.mpr ⟨_, hquotient, bind_eq_ok.mpr ⟨_, htpot, ?_⟩⟩
      exact bind_eq_ok.mpr ⟨_, hmean, bind_eq_ok.mpr ⟨_, hitl, rfl⟩⟩
    · rintro evidence hevents htiming htpot' hitl'
      rw [hevents, hgrouped, htiming, htpot', hitl', if_neg Bool.false_ne_true]
      refine bind_eq_ok.mpr ⟨_, hquotient, bind_eq_ok.mpr ⟨_, hsum, ?_⟩⟩
      rw [if_neg (not_not.mpr ⟨tpot, rfl, rfl⟩), if_neg (not_not.mpr ⟨itl, rfl, rfl⟩)]

end EventsInTime

end

/-! ## Runs -/

/-- A frame `[DONE]` that was read leaves its marker. -/
theorem done_of_readPieces [Interpreter] {pieces : List Bytes} {done done' : Bool}
    {frames : List SSEFrame} (h : readPieces done pieces = .ok (frames, done')) :
    done' = true ↔ done = true ∨ ∃ frame ∈ frames, frame.kind = .done := by
  induction pieces generalizing done frames with
  | nil =>
    obtain ⟨rfl, rfl⟩ := Prod.mk.inj (Except.ok.inj h)
    simp
  | cons piece pieces ih =>
    rcases eq_or_ne piece [] with rfl | hne
    · exact ih h
    · obtain ⟨frame, rest, -, hrest, rfl⟩ := (readPieces_cons_eq_ok hne).mp h
      rw [ih hrest, IncrementalSSEParser.afterFrame, Bool.or_eq_true, List.exists_mem_cons_iff,
        or_assoc, beq_iff_eq]

/-- A call that closes the transport. -/
def StreamCall.IsClose : StreamCall → Prop
  | .closeTransport _ _ => True
  | _ => False

section

variable [Interpreter] {request : StreamRequest} {dispatch : ℤ} {fixture : Option Str}
  {clock : Option FrameClock} {calls : List StreamCall} {v : Stage2StreamValidator}

namespace Stage2StreamValidator

/-- The transport is open as long as no call closed it. -/
theorem transport_eq_none_iff [MetricArithmetic]
    (h : accepted call (start request dispatch fixture clock) calls = some v) :
    v.transportTerminalOffsetNs = none ↔ ∀ call ∈ calls, ¬ call.IsClose := by
  -- -- by induction on the run: only a close sets the terminal offset
  refine accepted_invariant
    (fun calls u => u.transportTerminalOffsetNs = none ↔ ∀ call ∈ calls, ¬ call.IsClose)
    (by simp [start]) ?_ h
  intro done u k result w hu hcall
  rw [List.forall_mem_append, List.forall_mem_singleton, ← hu]
  cases k with
  | acceptResponseHeaders xRequestId offset =>
    obtain ⟨⟨⟩, t, hheaders, hresult⟩ := Method.bind_eq_ok.mp hcall
    obtain ⟨-, rfl⟩ := Prod.mk.inj hresult
    obtain ⟨-, -, -, rfl⟩ := acceptResponseHeaders_eq_ok.mp hheaders
    simp [StreamCall.IsClose]
  | feed chunk offset =>
    obtain ⟨⟨⟩, t, hfeed, hresult⟩ := Method.bind_eq_ok.mp hcall
    obtain ⟨-, rfl⟩ := Prod.mk.inj hresult
    -- -- neither the frames nor the times read between them touch it
    obtain ⟨-, -, -, frames, parser, -, hframes⟩ := feed_eq_ok.mp hfeed
    obtain ⟨-, hsame⟩ := acceptFrames_induct
      (I := fun _ _ t => t.transportTerminalOffsetNs = u.transportTerminalOffsetNs)
      (fun _ _ _ _ _ ht hframe => by
        obtain ⟨reading, -, -, rfl⟩ := acceptFrame_eq_ok.mp hframe
        exact ht)
      (fun _ _ _ _ _ ht htime => by
        rcases frameTime_eq_ok.mp htime with ⟨-, -, rfl⟩ | ⟨_, -, -, -, rfl⟩ <;> exact ht)
      (v := { u.fed chunk offset with parser := parser }) rfl hframes
    simp [StreamCall.IsClose, hsame]
  | closeTransport offset chain =>
    obtain ⟨evidence, t, hclose, hresult⟩ := Method.bind_eq_ok.mp hcall
    obtain ⟨-, rfl⟩ := Prod.mk.inj hresult
    obtain ⟨-, -, -, -, -, -, rfl⟩ := closeChecks_eq_ok.mp (closeTransport_eq_ok.mp hclose).1
    simp [StreamCall.IsClose]

end Stage2StreamValidator

end

/-! ## The frames of an accepted stream -/

namespace FourTerminals

variable {sent : List ℕ} {readings : List (ℤ × StreamReading)}
  {generations : List (ℤ × Generation)} {terminal : ℤ × Generation} {usageOffset doneOffset : ℤ}
  {usage : Usage} {serverMetrics : PerRequestMetrics}

/-- The generations come in the order of their readings. -/
theorem sublist (h : FourTerminals sent readings generations terminal usageOffset usage
      serverMetrics doneOffset) :
    ((generations ++ [terminal]).map (·.1)).Sublist (readings.map (·.1)) := by
  have hoffsets : (generations ++ [terminal]).map (·.1) =
      (generationReadings sent (generations ++ [terminal])).map (·.1) := by
    apply List.ext_getElem
    · simp [generationReadings]
    · intro i _ _
      simp only [generationReadings, List.getElem_map, List.getElem_mapIdx]
  rw [hoffsets]
  apply List.Sublist.map
  apply List.Sublist.trans ?_ (List.filter_sublist (p := fun r => r.2 ≠ .comment))
  rw [← responses, h.order]
  exact List.sublist_append_left _ _

/-- The events of the generations are in time when the readings are. -/
theorem eventsInTime (h : FourTerminals sent readings generations terminal usageOffset usage
      serverMetrics doneOffset) {offset : ℤ}
    (hsorted : (readings.map (·.1)).Pairwise (· ≤ ·)) (hstart : ∀ r ∈ readings, 0 ≤ r.1)
    (hdone : doneOffset < offset) (hoffset : offset < 2 ^ 53) :
    EventsInTime (generationEvents sent (generations ++ [terminal])) terminal.1 := by
  have hpairwise := hsorted.sublist h.sublist
  have hmem : ∀ event ∈ generationEvents sent (generations ++ [terminal]),
      event.observationOffsetNs ∈ (generations ++ [terminal]).map (·.1) := by
    intro event hevent
    rw [← offsets_generationEvents sent]
    exact List.mem_map_of_mem hevent
  refine ⟨?_, ?_, ?_, ?_, ?_⟩
  · rwa [offsets_generationEvents]
  · intro event hevent
    have hevent := hmem event hevent
    rw [List.map_append, List.pairwise_append] at hpairwise
    rw [List.map_append] at hevent
    rcases List.mem_append.mp hevent with hevent | hevent
    · exact hpairwise.2.2 _ hevent _ (by simp)
    · exact (List.mem_singleton.mp hevent).le
  · intro event hevent
    obtain ⟨r, hr, hsame⟩ := List.mem_map.mp (h.sublist.subset (hmem event hevent))
    rw [← hsame]
    exact hstart r hr
  · have := h.usageAfter
    have := h.doneAfter
    omega
  · rw [eventTokenIds_generationEvents]
    exact h.ids

end FourTerminals

/-- The frames of a stream with four terminals, the last of them before an offset, and texts that
can be encoded. -/
def GrammarAccepts [Interpreter] (request : StreamRequest) (offset : ℤ)
    (events : List RetainedSSEEvent) (generations : List (ℤ × Generation))
    (terminal : ℤ × Generation) (usageOffset doneOffset : ℤ)
    (serverMetrics : PerRequestMetrics) : Prop :=
  ∃ readings, List.Forall₂ (fun (event : RetainedSSEEvent) (reading : ℤ × StreamReading) =>
      event.observationOffsetNs = reading.1 ∧
        Says request.externalBaseId event.kind event.data reading.2) events readings ∧
    FourTerminals request.prompt readings generations terminal usageOffset ⟨64, 32, 96⟩
      serverMetrics doneOffset ∧
    doneOffset < offset ∧ ∀ g ∈ generations ++ [terminal], IsEncodable g.2.text

section

variable [Interpreter] {request : StreamRequest} {dispatch : ℤ} {fixture : Option Str}
  {clock : Option FrameClock} {calls : List StreamCall} {v : Stage2StreamValidator}
  {offset : ℤ} {chain : RequestIdentityChain} {generations : List (ℤ × Generation)}
  {terminal : ℤ × Generation} {usageOffset doneOffset : ℤ} {serverMetrics : PerRequestMetrics}

/-- What a close asks for besides the frames: no call has closed the stream, time has not gone back,
no octets are left over, and the chain is that of the request. -/
structure Closable (request : StreamRequest) (fixture : Option Str) (calls : List StreamCall)
    (v : Stage2StreamValidator) (offset : ℤ) (chain : RequestIdentityChain) : Prop where
  opened : ∀ call ∈ calls, ¬ call.IsClose
  monotonic : v.lastObservationOffsetNs ≤ offset
  complete : ∀ b ∈ crlfToLf v.parser.buffer, b = LF
  short : intsShort chain.dump = true
  chain : Stage2StreamValidator.ChainMatches request.externalBaseId chain
  fixture : ∀ identity ∈ fixture, IsSha256 identity

/-- The usage of a frame has the counts of the request. -/
theorem usage_of_says {base : Str} {kind : FrameKind} {data : Option Str} {usage : Usage}
    (h : Says base kind data (.usage usage serverMetrics)) : usage = ⟨64, 32, 96⟩ := by
  cases h
  rfl

theorem kind_of_says_done {base : Str} {kind : FrameKind} {data : Option Str}
    (h : Says base kind data .done) : kind = .done := by
  cases h
  rfl

/-- The frames of a stream that was accepted. -/
theorem grammarAccepts_of_closed [MetricArithmetic] {w : Stage2StreamValidator}
    {evidence : Stage2RequestEvidence}
    (hlive : accepted Stage2StreamValidator.call
      (Stage2StreamValidator.start request dispatch fixture clock) calls = some v)
    (hclose : Stage2StreamValidator.closeTransport offset chain v = (.ok evidence, w)) :
    Closable request fixture calls v offset chain ∧
      ∃ generations terminal usageOffset doneOffset serverMetrics, GrammarAccepts request offset
        v.parsedSseEvents generations terminal usageOffset doneOffset serverMetrics := by
  have hflight := Stage2StreamValidator.inFlight_of_accepted hlive
  obtain ⟨hchecks, hevidence⟩ := Stage2StreamValidator.closeTransport_eq_ok.mp hclose
  -- -- what the close checked, and what the record built from it is valid for
  obtain ⟨hopen, hlast, hlf, -, ⟨doneOffset, hprotocol, hlt⟩, hchain, rfl⟩ :=
    Stage2StreamValidator.closeChecks_eq_ok.mp hchecks
  obtain ⟨parts, tpot, itl, chainSha256, octets, timing, hparts, -, hsha, hoctets, -, hcreate⟩ :=
    Stage2StreamValidator.evidence_eq_ok.mp hevidence
  obtain ⟨-, hfields, hvalid⟩ := Stage2RequestEvidence.create_eq_ok.mp hcreate
  obtain ⟨hidentities, -⟩ := Stage2RequestEvidence.validateReconciliation_eq_ok.mp hvalid
  -- -- the frames of the run as readings, one event for each
  obtain ⟨readings, hreads, hfit, hreceived⟩ := hflight.replayed
  have hdone : (Received.afterAll {} readings).protocolTerminalOffsetNs = some doneOffset := by
    rw [← hreceived]
    exact hprotocol
  have hevents : (Received.afterAll {} readings).tokenEvents = v.tokenEvents := by
    rw [← hreceived]
    rfl
  -- -- the record binds the prompt the first event returned to the one sent
  have hprompt : (Received.afterAll {} readings).tokenEvents.head?.bind (·.promptTokenIds) =
      some request.prompt := by
    rw [hevents, ← hflight.request]
    exact hidentities.firstPrompt
  obtain ⟨generations, terminal, usageOffset, usage, serverMetrics, hterminals⟩ :=
    hfit.fourTerminals hdone hprompt
  have hspoken : List.Forall₂ (fun (event : RetainedSSEEvent) (reading : ℤ × StreamReading) =>
      event.observationOffsetNs = reading.1 ∧
        Says request.externalBaseId event.kind event.data reading.2)
      v.parsedSseEvents readings := by
    rw [← hflight.request]
    exact hreads.imp fun _ _ h => ⟨h.1, readFrame_eq_ok.mp h.2⟩
  -- -- the validator compares the counts with the workload's own
  obtain rfl : usage = ⟨64, 32, 96⟩ := by
    have hmem : (usageOffset, StreamReading.usage usage serverMetrics) ∈ readings := by
      apply (List.filter_sublist (p := fun r : ℤ × StreamReading => r.2 ≠ .comment)).subset
      rw [← responses, hterminals.order]
      simp
    obtain ⟨event, -, -, husage⟩ := exists_of_forall₂_mem hspoken hmem
    exact usage_of_says husage
  refine ⟨⟨(Stage2StreamValidator.transport_eq_none_iff hlive).mp hopen, hlast, hlf,
    (exists_sha256Identity_iff.mp ⟨_, hsha⟩).2, hflight.request ▸ hchain, ?_⟩, ?_⟩
  · rw [← hflight.fixture]
    exact hfields.fixture
  · refine ⟨generations, terminal, usageOffset, doneOffset, serverMetrics, readings, hspoken,
      hterminals, hlt, ?_⟩
    have htexts : v.outputTextParts = (generations ++ [terminal]).map (·.2.text) := by
      rw [← hterminals.allReceived.generated.texts, ← hreceived]
      rfl
    -- -- the digest of the output exists, so each text encodes
    have hencodable : IsEncodable v.outputTextParts.flatten :=
      utf8Encode_isSome_iff.mp (Option.isSome_iff_exists.mpr ⟨octets, hoctets⟩)
    intro g hg c hc
    refine hencodable c (List.mem_flatten.mpr ⟨g.2.text, ?_, hc⟩)
    rw [htexts]
    exact List.mem_map_of_mem hg

end

/-! ### Their evidence -/

/-- A stream that was closed, by what it has received and when. -/
structure ClosedStream (w : Stage2StreamValidator) (readings : List (ℤ × StreamReading))
    (generations : List (ℤ × Generation)) (terminal : ℤ × Generation) (usageOffset doneOffset : ℤ)
    (serverMetrics : PerRequestMetrics) (headers body offset : ℤ) : Prop where
  received : w.received = Received.afterAll {} readings
  terminals : FourTerminals w.request.prompt readings generations terminal usageOffset ⟨64, 32, 96⟩
    serverMetrics doneOffset
  inTime : EventsInTime (generationEvents w.request.prompt (generations ++ [terminal])) terminal.1
  headersSeen : w.responseHeadersOffsetNs = some headers
  bodySeen : w.firstBodyOffsetNs = some body
  transportSeen : w.transportTerminalOffsetNs = some offset
  dispatched : 0 ≤ w.dispatchOffsetNs
  headersAfter : w.dispatchOffsetNs ≤ headers
  bodyAfter : headers ≤ body
  eventsAfter : ∀ event ∈ w.tokenEvents, body ≤ event.observationOffsetNs
  closeAfter : doneOffset < offset
  encodable : ∀ g ∈ generations ++ [terminal], IsEncodable g.2.text

namespace ClosedStream

variable {w : Stage2StreamValidator} {generations : List (ℤ × Generation)}
  {terminal : ℤ × Generation} {usageOffset doneOffset offset : ℤ}
  {serverMetrics : PerRequestMetrics} {readings : List (ℤ × StreamReading)} {headers body : ℤ}

theorem tokenEvents (h : ClosedStream w readings generations terminal usageOffset doneOffset
      serverMetrics headers body offset) :
    w.tokenEvents = generationEvents w.request.prompt (generations ++ [terminal]) := by
  rw [← h.terminals.allReceived.generated.events, ← h.received]
  rfl

theorem texts (h : ClosedStream w readings generations terminal usageOffset doneOffset
      serverMetrics headers body offset) :
    w.outputTextParts = (generations ++ [terminal]).map (·.2.text) := by
  rw [← h.terminals.allReceived.generated.texts, ← h.received]
  rfl

theorem ids (h : ClosedStream w readings generations terminal usageOffset doneOffset
      serverMetrics headers body offset) :
    w.outputIds = (generations ++ [terminal]).flatMap (·.2.outputTokenIds) := by
  rw [← h.terminals.allReceived.generated.ids, ← h.received]
  rfl

/-- The parts of its evidence. -/
def parts (w : Stage2StreamValidator) (terminal : ℤ × Generation) (usageOffset doneOffset : ℤ)
    (serverMetrics : PerRequestMetrics) (headers body offset : ℤ) (first : Stage2TokenEvent) :
    Stage2StreamValidator.EvidenceParts where
  timing :=
    { dispatchOffsetNs := w.dispatchOffsetNs
      responseHeadersOffsetNs := headers
      firstResponseBodyBytesOffsetNs := body
      firstOutputTokenOffsetNs := first.observationOffsetNs
      generationTerminalOffsetNs := terminal.1
      usageTerminalOffsetNs := usageOffset
      protocolTerminalOffsetNs := doneOffset
      transportTerminalOffsetNs := offset }
  usage := ⟨64, 32, 96⟩
  serverMetrics := serverMetrics
  terminalCarriedTokens := decide (terminal.2.outputTokenIds ≠ [])

theorem evidenceParts (h : ClosedStream w readings generations terminal usageOffset doneOffset
      serverMetrics headers body offset) {first : Stage2TokenEvent}
    (hfirst : (tokenBearing w.tokenEvents).head? = some first) :
    w.evidenceParts = .ok (parts w terminal usageOffset doneOffset serverMetrics headers body
      offset first) := by
  have hall := h.terminals.allReceived
  rw [← h.received] at hall
  have hprompt := hall.generated.prompt
  rw [if_neg (by simp)] at hprompt
  refine Stage2StreamValidator.evidenceParts_eq_ok.mpr ⟨hprompt, hall.usage, hall.serverMetrics,
    hall.carried, first, hfirst, ?_⟩
  exact Stage2StreamValidator.timing_eq_some.mpr ⟨h.headersSeen, h.bodySeen,
    hall.generationTerminal, hall.usageTerminal, hall.protocolTerminal, h.transportSeen, rfl, rfl⟩

/-- Its points in time are in order. -/
theorem timing_create (h : ClosedStream w readings generations terminal usageOffset doneOffset
      serverMetrics headers body offset) {first : Stage2TokenEvent}
    (hfirst : first ∈ w.tokenEvents) :
    let parts := parts w terminal usageOffset doneOffset serverMetrics headers body offset first
    parts.timing.create = .ok parts.timing := by
  intro parts
  have hbody := h.eventsAfter first hfirst
  have hbefore := h.inTime.before first (h.tokenEvents ▸ hfirst)
  have h₁ := h.dispatched
  have h₂ := h.headersAfter
  have h₃ := h.bodyAfter
  have h₄ := h.terminals.usageAfter
  have h₅ := h.terminals.doneAfter
  have h₆ := h.closeAfter
  refine Stage2TimingRecord.create_eq_ok.mpr ⟨rfl, ?_, ?_, h₄, h₅, h₆⟩
  · simp only [parts, ClosedStream.parts, Stage2TimingRecord.values, List.forall_mem_cons,
      List.not_mem_nil, false_implies, implies_true, and_true]
    omega
  · simp only [parts, ClosedStream.parts, Stage2TimingRecord.values, List.pairwise_cons,
      List.forall_mem_cons, List.not_mem_nil, false_implies, implies_true, and_true, List.Pairwise.nil]
    omega

/-! What its evidence is checked for. -/

section

variable [Interpreter] {chain : RequestIdentityChain}

omit [Interpreter] in
theorem exists_octets (h : ClosedStream w readings generations terminal usageOffset doneOffset
      serverMetrics headers body offset) :
    ∃ octets, utf8Encode w.outputTextParts.flatten = some octets := by
  apply exists_utf8Encode
  intro c hc
  rw [h.texts] at hc
  obtain ⟨text, htext, hc⟩ := List.mem_flatten.mp hc
  obtain ⟨g, hg, rfl⟩ := List.mem_map.mp htext
  exact h.encodable g hg c hc

theorem fieldsValid (h : ClosedStream w readings generations terminal usageOffset doneOffset
      serverMetrics headers body offset) (hfixture : ∀ identity ∈ w.fixtureIdentitySha256,
      IsSha256 identity) {tpot itl : MetricAvailability} {chainSha256 : Str} {octets : Bytes}
    (hchain : sha256Identity chain.dump = .ok chainSha256)
    (parts : Stage2StreamValidator.EvidenceParts) (timing : Stage2TimingRecord) :
    (w.evidenceRecord chain parts tpot itl chainSha256 octets timing).FieldsValid where
  fixture := hfixture
  chain := isSha256_of_sha256Identity hchain
  external := w.request.external
  sent := w.request.length_prompt
  returned := w.request.length_prompt
  events := by
    change w.tokenEvents ≠ []
    rw [h.tokenEvents, Received.generationEvents_concat]
    simp
  output := by
    change w.outputIds.length = 32
    rw [h.ids]
    exact h.terminals.ids
  digest := Interpreter.hexdigest_isSha256 octets
  gaps := by
    change ∀ gap ∈ eventGaps (tokenBearing w.tokenEvents), 0 ≤ gap
    rw [h.tokenEvents]
    exact h.inTime.gaps_nonneg

theorem identitiesReconcile (h : ClosedStream w readings generations terminal usageOffset doneOffset
      serverMetrics headers body offset) (hvalid : chain.Valid)
    (hmatches : Stage2StreamValidator.ChainMatches w.request.externalBaseId chain)
    {tpot itl : MetricAvailability} {chainSha256 : Str} {octets : Bytes}
    (parts : Stage2StreamValidator.EvidenceParts) (timing : Stage2TimingRecord) :
    (w.evidenceRecord chain parts tpot itl chainSha256 octets timing).IdentitiesReconcile := by
  have hne : generations ++ [terminal] ≠ [] := by simp
  obtain ⟨hone, hhead⟩ := prompts_generationEvents w.request.prompt hne
  rw [← h.tokenEvents] at hone hhead
  refine ⟨rfl, rfl, ?_, rfl, hone, hhead⟩
  obtain ⟨suffix, hsuffix, hid⟩ := hvalid.internal
  rw [hmatches.external] at hid
  exact ⟨suffix, hsuffix, hid⟩

theorem eventsReconcile (h : ClosedStream w readings generations terminal usageOffset doneOffset
      serverMetrics headers body offset) {first : Stage2TokenEvent}
    (hfirst : (tokenBearing w.tokenEvents).head? = some first) {tpot itl : MetricAvailability}
    {chainSha256 : Str} {octets : Bytes}
    (hoctets : utf8Encode w.outputTextParts.flatten = some octets) :
    let parts := parts w terminal usageOffset doneOffset serverMetrics headers body offset first
    (w.evidenceRecord chain parts tpot itl chainSha256 octets parts.timing).EventsReconcile
      (generationEvent terminal (if generations.length = 0 then some w.request.prompt else none))
      first := by
  -- the text that was put together is that of the events
  have htext : w.outputTextParts.flatten = eventText w.tokenEvents := by
    rw [h.tokenEvents, eventText_generationEvents, h.texts]
  -- each comparison is about the events of the generations
  constructor
  · change eventTokenIds w.tokenEvents = w.outputIds
    rw [h.tokenEvents, eventTokenIds_generationEvents, h.ids]
  · change (w.tokenEvents.map _).Pairwise _
    rw [h.tokenEvents]
    exact h.inTime.sorted
  · change w.tokenEvents.getLast? = _
    rw [h.tokenEvents, Received.generationEvents_concat, List.getLast?_append]
    rfl
  -- only the last of them is finished
  · change (w.tokenEvents.filter _).length = 1
    rw [h.tokenEvents]
    exact terminals_generationEvents _ h.terminals.unfinished h.terminals.finished
  · simp [generationEvent, h.terminals.finished]
  · rfl
  · exact hfirst
  · rfl
  · rfl
  · exact htext
  · change some (Interpreter.hexdigest octets) =
      (utf8Encode (eventText w.tokenEvents)).map Interpreter.hexdigest
    rw [← htext, hoctets]
    rfl
  · rfl

attribute [local instance] binary64Metrics

/-- **A stream that was closed leaves evidence.** -/
theorem exists_evidence (h : ClosedStream w readings generations terminal usageOffset doneOffset
      serverMetrics headers body offset) (hfixture : ∀ identity ∈ w.fixtureIdentitySha256,
      IsSha256 identity) (hchain : chain.Validated)
    (hmatches : Stage2StreamValidator.ChainMatches w.request.externalBaseId chain)
    (hshort : intsShort chain.dump = true) : ∃ evidence, w.evidence chain = .ok evidence := by
  have hinTime : EventsInTime w.tokenEvents terminal.1 := h.tokenEvents ▸ h.inTime
  obtain ⟨first, hfirst, hmem⟩ := hinTime.exists_first
  obtain ⟨tpot, itl, hmetrics, hcheck⟩ := @EventsInTime.exists_clientMetrics w
    (parts w terminal usageOffset doneOffset serverMetrics headers body offset first) first
    hinTime hfirst rfl
  obtain ⟨chainSha256, hsha⟩ := exists_sha256Identity_iff.mpr ⟨hchain.jsonEncodable_dump, hshort⟩
  obtain ⟨octets, hoctets⟩ := h.exists_octets
  set parts := parts w terminal usageOffset doneOffset serverMetrics headers body offset first
  have hvalid : (w.evidenceRecord chain parts tpot itl chainSha256 octets
      parts.timing).validateReconciliation = .ok () :=
    Stage2RequestEvidence.validateReconciliation_eq_ok.mpr
      ⟨h.identitiesReconcile hchain.valid hmatches _ _,
        ⟨_, first, h.eventsReconcile hfirst hoctets⟩, hcheck _ rfl rfl rfl rfl, rfl⟩
  have hcreate := Stage2RequestEvidence.create_eq_ok.mpr
    ⟨rfl, h.fieldsValid hfixture hsha _ _, hvalid⟩
  exact ⟨_, Stage2StreamValidator.evidence_eq_ok.mpr ⟨_, tpot, itl, chainSha256, octets, _,
    h.evidenceParts hfirst, hmetrics, hsha, hoctets, h.timing_create hmem, hcreate⟩⟩

end

end ClosedStream

/-! ## Which streams are accepted -/

section

variable [Interpreter] {request : StreamRequest} {dispatch : ℤ} {fixture : Option Str}
  {clock : Option FrameClock} {calls : List StreamCall} {v : Stage2StreamValidator}
  {offset : ℤ} {chain : RequestIdentityChain} {generations : List (ℤ × Generation)}
  {terminal : ℤ × Generation} {usageOffset doneOffset : ℤ} {serverMetrics : PerRequestMetrics}

/-- The readings of the frames are those of the grammar, as each frame says one thing. -/
theorem received_of_says {base : Str} {events : List RetainedSSEEvent}
    {readings readings' : List (ℤ × StreamReading)}
    (hreads : List.Forall₂ (RetainedSSEEvent.ReadsAs base) events readings)
    (hspoken : List.Forall₂ (fun (event : RetainedSSEEvent) (reading : ℤ × StreamReading) =>
      event.observationOffsetNs = reading.1 ∧ Says base event.kind event.data reading.2)
      events readings') : readings = readings' := by
  refine List.forall₂_eq_eq_eq ▸ forall₂_of_common hreads hspoken ?_
  rintro event - ⟨time, reading⟩ ⟨time', reading'⟩ ⟨rfl, hread⟩ ⟨rfl, hsay⟩
  rw [readFrame_eq_ok.mpr hsay] at hread
  exact Prod.ext rfl (Except.ok.inj hread).symm

/-- The observations of the frames are those of their readings. -/
theorem offsets_of_says {base : Str} {events : List RetainedSSEEvent}
    {readings : List (ℤ × StreamReading)}
    (hspoken : List.Forall₂ (fun (event : RetainedSSEEvent) (reading : ℤ × StreamReading) =>
      event.observationOffsetNs = reading.1 ∧ Says base event.kind event.data reading.2)
      events readings) : events.map (·.observationOffsetNs) = readings.map (·.1) := by
  rw [← List.forall₂_eq_eq_eq, List.forall₂_map_left_iff, List.forall₂_map_right_iff]
  exact hspoken.imp fun _ _ h => h.1

/-- The frames of the grammar end the stream for the parser. -/
theorem done_of_grammarAccepts (hflight : Stage2StreamValidator.InFlight request dispatch fixture
      calls v) (hopen : v.transportTerminalOffsetNs = none)
    (hgrammar : GrammarAccepts request offset v.parsedSseEvents generations terminal usageOffset
      doneOffset serverMetrics) : v.parser.done = true := by
  obtain ⟨readings, hspoken, hterminals, -, -⟩ := hgrammar
  obtain ⟨event, hevent, -, hdone⟩ :=
    exists_of_forall₂_mem hspoken (List.mem_of_getLast? hterminals.last)
  rw [done_of_readPieces (hflight.parsed hopen).read]
  exact .inr ⟨event.frame, List.mem_map_of_mem hevent, kind_of_says_done hdone⟩

/-- The frames of the grammar close the stream. -/
theorem closedStream_of_grammarAccepts [MetricArithmetic]
    (hlive : accepted Stage2StreamValidator.call
      (Stage2StreamValidator.start request dispatch fixture clock) calls = some v)
    (hdispatch : 0 ≤ dispatch) (hoffset : offset < 2 ^ 53)
    (hgrammar : GrammarAccepts request offset v.parsedSseEvents generations terminal usageOffset
      doneOffset serverMetrics) :
    v.protocolTerminalOffsetNs = some doneOffset ∧ doneOffset < offset ∧
      ∃ readings headers body, ClosedStream
        { v with lastObservationOffsetNs := offset, transportTerminalOffsetNs := some offset }
        readings generations terminal usageOffset doneOffset serverMetrics headers body offset := by
  have hflight := Stage2StreamValidator.inFlight_of_accepted hlive
  have htimely := Stage2StreamValidator.timely_of_accepted hlive
  obtain ⟨readings', hreads, -, hreceived⟩ := hflight.replayed
  obtain ⟨readings, hspoken, hterminals, hlt, hencodable⟩ := hgrammar
  obtain rfl := received_of_says (hflight.request ▸ hreads) hspoken
  have hoffsets := offsets_of_says hspoken
  -- the first octets came before every frame
  obtain ⟨event, hevent, -⟩ := exists_of_forall₂_mem hspoken (List.mem_of_getLast? hterminals.last)
  obtain ⟨⟨body, hbody, -⟩, -⟩ := htimely.events event hevent
  obtain ⟨⟨headers, hheaders, hbodyAfter⟩, -⟩ := htimely.body body hbody
  have hheadersAfter := (htimely.headers headers hheaders).1
  have hafter : ∀ time ∈ readings'.map (·.1), body ≤ time := by
    intro time htime
    rw [← hoffsets] at htime
    obtain ⟨event, hevent, rfl⟩ := List.mem_map.mp htime
    obtain ⟨⟨body', hbody', hle⟩, -⟩ := htimely.events event hevent
    rw [hbody] at hbody'
    exact (Option.some.inj hbody').le.trans hle
  have hdispatched : v.dispatchOffsetNs = dispatch := hflight.dispatch
  have hreceivedAll := hterminals.allReceived
  rw [← hreceived] at hreceivedAll
  refine ⟨hreceivedAll.protocolTerminal, hlt, readings', headers, body, ?_⟩
  have hinTime := hterminals.eventsInTime (hoffsets ▸ htimely.sorted)
    (fun r hr => (by omega : (0 : ℤ) ≤ body).trans (hafter _ (List.mem_map_of_mem hr))) hlt hoffset
  refine
    { received := hreceived
      terminals := hflight.request ▸ hterminals
      inTime := hflight.request ▸ hinTime
      headersSeen := hheaders
      bodySeen := hbody
      transportSeen := rfl
      dispatched := hdispatched ▸ hdispatch
      headersAfter := hheadersAfter
      bodyAfter := hbodyAfter
      eventsAfter := ?_
      closeAfter := hlt
      encodable := hencodable }
  intro event hevent
  have hevents : v.tokenEvents = generationEvents request.prompt (generations ++ [terminal]) :=
    hreceivedAll.generated.events
  have hmem : event.observationOffsetNs ∈ (generations ++ [terminal]).map (·.1) := by
    rw [← offsets_generationEvents request.prompt, ← hevents]
    exact List.mem_map_of_mem hevent
  exact hafter _ (hterminals.sublist.subset hmem)

/-- What the evidence of a stream with four terminals holds: of every generation its event, and all
that they add up to. -/
structure EvidenceOf (request : StreamRequest) (generations : List (ℤ × Generation))
    (terminal : ℤ × Generation) (usageOffset doneOffset offset : ℤ)
    (serverMetrics : PerRequestMetrics) (evidence : Stage2RequestEvidence) : Prop where
  events : evidence.tokenEvents = generationEvents request.prompt (generations ++ [terminal])
  ids : evidence.finalOutputTokenIds = (generations ++ [terminal]).flatMap (·.2.outputTokenIds)
  text : evidence.outputText = ((generations ++ [terminal]).map (·.2.text)).flatten
  usage : evidence.usage = ⟨64, 32, 96⟩
  serverMetrics : evidence.serverPerRequestMetrics = serverMetrics
  generation : evidence.timing.generationTerminalOffsetNs = terminal.1
  usageTerminal : evidence.timing.usageTerminalOffsetNs = usageOffset
  protocol : evidence.timing.protocolTerminalOffsetNs = doneOffset
  transport : evidence.timing.transportTerminalOffsetNs = offset

/-- The evidence of a stream that was closed holds its generations. -/
theorem ClosedStream.evidenceOf [MetricArithmetic] {readings : List (ℤ × StreamReading)}
    {headers body : ℤ} {evidence : Stage2RequestEvidence}
    (h : ClosedStream v readings generations terminal usageOffset doneOffset serverMetrics headers
      body offset) (hevidence : v.evidence chain = .ok evidence) :
    EvidenceOf v.request generations terminal usageOffset doneOffset offset serverMetrics
      evidence := by
  obtain ⟨parts, tpot, itl, _, _, timing, hparts, -, -, -, htiming, hcreate⟩ :=
    Stage2StreamValidator.evidence_eq_ok.mp hevidence
  obtain ⟨-, -, -, -, first, hfirst, -⟩ := Stage2StreamValidator.evidenceParts_eq_ok.mp hparts
  rw [h.evidenceParts hfirst] at hparts
  obtain rfl := Except.ok.inj hparts
  obtain ⟨rfl, -⟩ := Stage2TimingRecord.create_eq_ok.mp htiming
  obtain ⟨rfl, -, -⟩ := Stage2RequestEvidence.create_eq_ok.mp hcreate
  exact ⟨h.tokenEvents, h.ids, congrArg List.flatten h.texts, rfl, rfl, rfl, rfl, rfl, rfl⟩

/-- **Which streams are accepted.** After calls none of which raised, whatever the chunks and the
clock, the close at an offset returns evidence exactly when the frames have the form of the grammar
and the close fits; the evidence then holds the generations of the frames. Offsets below `2 ^ 53`
are exact as floats. -/
theorem closeTransport_iff_grammarAccepts
    (hlive : accepted (@Stage2StreamValidator.call _ binary64Metrics)
      (Stage2StreamValidator.start request dispatch fixture clock) calls = some v)
    (hdispatch : 0 ≤ dispatch) (hoffset : offset < 2 ^ 53) (hchain : chain.Validated) :
    ((∃ evidence w, @Stage2StreamValidator.closeTransport _ binary64Metrics offset chain v =
        (.ok evidence, w)) ↔
      Closable request fixture calls v offset chain ∧
        ∃ generations terminal usageOffset doneOffset serverMetrics, GrammarAccepts request offset
          v.parsedSseEvents generations terminal usageOffset doneOffset serverMetrics) ∧
    ∀ evidence w generations terminal usageOffset doneOffset serverMetrics,
      @Stage2StreamValidator.closeTransport _ binary64Metrics offset chain v =
        (.ok evidence, w) →
      GrammarAccepts request offset v.parsedSseEvents generations terminal usageOffset doneOffset
        serverMetrics →
      EvidenceOf request generations terminal usageOffset doneOffset offset serverMetrics
        evidence := by
  let _ := binary64Metrics
  have hflight := Stage2StreamValidator.inFlight_of_accepted hlive
  constructor
  · constructor
    -- what was closed follows the grammar
    · rintro ⟨evidence, w, hclose⟩
      exact grammarAccepts_of_closed hlive hclose
    -- a stream of the grammar has been read to its [DONE], and its evidence can be made
    · rintro ⟨hclosable, generations, terminal, usageOffset, doneOffset, serverMetrics, hgrammar⟩
      have hopen := (Stage2StreamValidator.transport_eq_none_iff hlive).mpr hclosable.opened
      have hdone := done_of_grammarAccepts hflight hopen hgrammar
      obtain ⟨hprotocol, hlt, readings, headers, body, hclosed⟩ :=
        closedStream_of_grammarAccepts hlive hdispatch hoffset hgrammar
      have hmatches : Stage2StreamValidator.ChainMatches v.request.externalBaseId chain :=
        hflight.request ▸ hclosable.chain
      have hfixture : ∀ identity ∈ v.fixtureIdentitySha256, IsSha256 identity :=
        hflight.fixture ▸ hclosable.fixture
      obtain ⟨evidence, hevidence⟩ := hclosed.exists_evidence hfixture hchain hmatches
        hclosable.short
      refine ⟨evidence, _, Stage2StreamValidator.closeTransport_eq_ok.mpr ⟨?_, hevidence⟩⟩
      exact Stage2StreamValidator.closeChecks_eq_ok.mpr ⟨hopen, hclosable.monotonic,
        hclosable.complete, hdone, ⟨doneOffset, hprotocol, hlt⟩, hmatches, rfl⟩
  -- the evidence is that of the grammar's generations
  · intro evidence w generations terminal usageOffset doneOffset serverMetrics hclose hgrammar
    obtain ⟨-, -, readings, headers, body, hclosed⟩ :=
      closedStream_of_grammarAccepts hlive hdispatch hoffset hgrammar
    obtain ⟨hchecks, hevidence⟩ := Stage2StreamValidator.closeTransport_eq_ok.mp hclose
    obtain ⟨-, -, -, -, -, -, rfl⟩ := Stage2StreamValidator.closeChecks_eq_ok.mp hchecks
    rw [← hflight.request]
    exact hclosed.evidenceOf hevidence

end

/-! ### A stream of three generations -/

/-- The prompt comes with the first event and the finish with the last; one event is empty. -/
def sampleParts : Bytes :=
  [samplePart 20 "x" (lit ",\"prompt_token_ids\":" ++ sampleTokens 64 "0"), samplePart 0 "" [],
    samplePart 12 "y" (lit ",\"finish_reason\":\"length\""), sampleUsage sampleMetrics,
    sampleDone].flatten

section

attribute [local instance] cpython binary64Metrics

theorem validated_sampleChain : sampleChain.Validated where
  valid := RequestIdentityChain.validate_eq_ok.mp (by decide +kernel)
  records := by
    change ∀ record ∈ [sampleReceived, sampleAdded (lit "1234abcd")], record.Valid
    simp only [List.forall_mem_cons, List.not_mem_nil, false_implies, implies_true, and_true]
    exact ⟨valid_sampleRecord 0 (by decide) (by decide),
      valid_sampleRecord 2 (by decide) (by decide)⟩

/-- Three generations, the second without ids, in two chunks that part in the first of them. -/
theorem closeTransport_iff_grammarAccepts_sample :
    ∃ (v w : Stage2StreamValidator) (evidence : Stage2RequestEvidence)
      (generations : List (ℤ × Generation)) (terminal : ℤ × Generation)
      (usageOffset doneOffset : ℤ) (serverMetrics : PerRequestMetrics),
      accepted Stage2StreamValidator.call
        (Stage2StreamValidator.start sampleStreamRequest 0 none (some sampleClock))
        (sampleCalls [sampleParts.take 100, sampleParts.drop 100]) = some v ∧
      Stage2StreamValidator.closeTransport 100 sampleChain v = (.ok evidence, w) ∧
      evidence.tokenEvents.length = 3 ∧
      GrammarAccepts sampleStreamRequest 100 v.parsedSseEvents generations terminal usageOffset
        doneOffset serverMetrics ∧
      EvidenceOf sampleStreamRequest generations terminal usageOffset doneOffset 100 serverMetrics
        evidence := by
  -- the sample is closed, with three token events
  obtain ⟨v, hv, hclosed⟩ := exists_eq_some
    (p := fun v : Stage2StreamValidator =>
      (Stage2StreamValidator.closeTransport 100 sampleChain v).1.toOption.any
        (fun evidence => decide (evidence.tokenEvents.length = 3)) = true)
    (show (accepted Stage2StreamValidator.call
        (Stage2StreamValidator.start sampleStreamRequest 0 none (some sampleClock))
        (sampleCalls [sampleParts.take 100, sampleParts.drop 100])).any
      (fun v => decide ((Stage2StreamValidator.closeTransport 100 sampleChain v).1.toOption.any
        (fun evidence => decide (evidence.tokenEvents.length = 3)) = true)) = true by
      decide +kernel)
  obtain ⟨evidence, hclose, hthree⟩ := exists_eq_ok hclosed
  have hoffset : (100 : ℤ) < 2 ^ 53 := by norm_num
  -- so it follows the grammar, and its evidence is as the grammar says
  have hstream := closeTransport_iff_grammarAccepts hv (Int.le_refl 0) hoffset
    validated_sampleChain
  have hrun := Method.eq_mk_snd hclose
  obtain ⟨-, generations, terminal, usageOffset, doneOffset, serverMetrics, hgrammar⟩ :=
    hstream.1.mp ⟨evidence, _, hrun⟩
  exact ⟨v, _, evidence, generations, terminal, usageOffset, doneOffset, serverMetrics, hv, hrun,
    hthree, hgrammar, hstream.2 _ _ _ _ _ _ _ hrun hgrammar⟩

end

end Stage2
