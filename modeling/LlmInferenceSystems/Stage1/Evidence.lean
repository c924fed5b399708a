import Mathlib.Data.Finset.Basic
import LlmInferenceSystems.Stage1.Contracts

/-!
# Stream evidence

The collector numbers what is observed of all streams in one sequence. How many clients were active
at once is derived from that sequence alone.

## Main definitions

* `EvidenceCollector.recordStreamEvent`: the collector's method
* `deriveObservedMaxClientConcurrency`: the greatest number of requests started and not ended
* `scanEvents`: its loop

## Main results

* `recordStreamEvent_eq_ok`: what an observation adds
* `sequence_of_scanEvents`: scanned evidence is numbered from 0 without a gap
-/

namespace Stage1

open Python

/-! ## The collector -/

/-- The arguments of `record_stream_event`. -/
structure StreamObservation where
  requestId : Str
  caseId : Str
  phase : Stage1Phase
  kind : StreamEvidenceKind
  observationOffsetNs : Option ℤ := none
  rawChunkSequence : Option ℕ := none
  rawBytes : Option Bytes := none
  sseEventSequence : Option ℕ := none
  sseData : Option Str := none
  tokenDeltaCount : Option ℕ := none
  terminalClass : Option Stage1TerminalClass := none
  failureKind : Option Stage1FailureKind := none

/-- The event of an observation. -/
def StreamObservation.event [Interpreter] (observation : StreamObservation)
    (sequence observationOffsetNs : ℕ) : StreamEvidenceRecord where
  sequence := sequence
  requestId := observation.requestId
  caseId := observation.caseId
  phase := observation.phase
  kind := observation.kind
  observationOffsetNs := observationOffsetNs
  rawChunkSequence := observation.rawChunkSequence
  rawBytesBase64 := observation.rawBytes.map b64encode
  rawByteCount := observation.rawBytes.map List.length
  rawBytesSha256 := observation.rawBytes.map Interpreter.hexdigest
  sseEventSequence := observation.sseEventSequence
  sseData := observation.sseData
  tokenDeltaCount := observation.tokenDeltaCount
  terminalClass := observation.terminalClass
  failureKind := observation.failureKind

/-- The collector, as far as streams go. -/
structure EvidenceCollector where
  runOriginNs : ℤ
  streamEvents : List StreamEvidenceRecord

namespace EvidenceCollector

variable [Interpreter]

/-- `offset_ns`, when the clock shows `monotonicNs` -/
def offsetNs (collector : EvidenceCollector) (monotonicNs : ℤ) : ℤ :=
  monotonicNs - collector.runOriginNs

/-- `record_stream_event`: nothing is awaited while the lock is held, so that the event is numbered
and appended in one step. -/
def recordStreamEvent (collector : EvidenceCollector) (monotonicNs : ℤ)
    (observation : StreamObservation) :
    Except PyError (StreamEvidenceRecord × EvidenceCollector) :=
  let offset := observation.observationOffsetNs.getD (collector.offsetNs monotonicNs)
  if offset < 0 then .error (.validation "observation_offset_ns")
  else do
    let event ← (observation.event collector.streamEvents.length offset.toNat).modelValidate
    return (event, { collector with streamEvents := collector.streamEvents ++ [event] })

end EvidenceCollector

/-- An event with the number of its place and the identity it was observed with. -/
structure Recorded (events : List StreamEvidenceRecord) (observation : StreamObservation)
    (event : StreamEvidenceRecord) : Prop where
  sequence : event.sequence = events.length
  requestId : event.requestId = observation.requestId
  caseId : event.caseId = observation.caseId
  phase : event.phase = observation.phase
  kind : event.kind = observation.kind

/-- **What an observation adds to the evidence.** -/
theorem recordStreamEvent_eq_ok [Interpreter] {collector collector' : EvidenceCollector}
    {monotonicNs : ℤ} {observation : StreamObservation} {event : StreamEvidenceRecord}
    (h : collector.recordStreamEvent monotonicNs observation = .ok (event, collector')) :
    Recorded collector.streamEvents observation event ∧
      collector'.streamEvents = collector.streamEvents ++ [event] := by
  unfold EvidenceCollector.recordStreamEvent at h
  dsimp only at h
  split at h
  · cases h
  · obtain ⟨event', hevent, h⟩ := bind_eq_ok.mp h
    obtain rfl := StreamEvidenceRecord.eq_of_modelValidate hevent
    obtain ⟨rfl, rfl⟩ := Prod.mk.inj (Except.ok.inj h)
    exact ⟨⟨rfl, rfl, rfl, rfl, rfl⟩, rfl⟩

/-- What an observation needs to be recorded: identifiers, a past offset, and a payload that goes
with its kind. -/
theorem recordStreamEvent_of_valid [Interpreter] {collector : EvidenceCollector} {monotonicNs : ℤ}
    {observation : StreamObservation} {offset : ℤ}
    (hoffset : observation.observationOffsetNs.getD (collector.offsetNs monotonicNs) = offset)
    (hpast : 0 ≤ offset) {event : StreamEvidenceRecord}
    (hevent : observation.event collector.streamEvents.length offset.toNat = event)
    (hvalid : event.modelValidate = .ok event) :
    collector.recordStreamEvent monotonicNs observation =
      .ok (event, { collector with streamEvents := collector.streamEvents ++ [event] }) := by
  unfold EvidenceCollector.recordStreamEvent
  dsimp only
  rw [hoffset, if_neg (Int.not_lt.mpr hpast), hevent, hvalid]
  rfl

/-- An observation without a payload is recorded whenever it names a request. -/
theorem exists_recordStreamEvent [Interpreter] (collector : EvidenceCollector)
    {requestId caseId : Str} (hrequest : IsIdentifier requestId) (hcase : IsIdentifier caseId)
    (phase : Stage1Phase) {kind : StreamEvidenceKind} (hkind : kind.isLifecycle = true) :
    ∃ event collector', collector.recordStreamEvent collector.runOriginNs
      { requestId, caseId, phase, kind } = .ok (event, collector') := by
  refine ⟨_, _, recordStreamEvent_of_valid rfl (by simp [EvidenceCollector.offsetNs]) rfl ?_⟩
  refine StreamEvidenceRecord.modelValidate_of_checks hrequest hcase
    (by simp [StreamObservation.event]) ?_ ?_ ?_
  all_goals
    cases kind <;> simp [StreamEvidenceKind.isLifecycle, StreamObservation.event,
      StreamEvidenceRecord.checkRawFields, StreamEvidenceRecord.checkSseFields,
      StreamEvidenceRecord.checkTerminalFields, StreamEvidenceKind.isSse] at hkind ⊢

/-! ## Active clients -/

/-- The variables of the loop over the evidence. -/
structure ActiveClients where
  expectedSequence : ℕ := 0
  active : ℤ := 0
  maximum : ℤ := 0
  started : Finset Str := ∅
  ended : Finset Str := ∅

/-- A turn of the loop. -/
def ActiveClients.observe (clients : ActiveClients) (event : StreamEvidenceRecord) :
    Except PyError ActiveClients :=
  if event.sequence ≠ clients.expectedSequence then
    .error (.value "stream evidence sequence must be contiguous")
  else
    let clients := { clients with expectedSequence := clients.expectedSequence + 1 }
    match event.kind with
    | .clientRequestStarted =>
      if event.requestId ∈ clients.started then
        .error (.value "request lifecycle start is duplicated")
      else
        .ok { clients with
          started := insert event.requestId clients.started
          active := clients.active + 1
          maximum := max clients.maximum (clients.active + 1) }
    | .clientRequestEnded =>
      if event.requestId ∉ clients.started ∨ event.requestId ∈ clients.ended then
        .error (.value "request lifecycle end has no unique matching start")
      else if clients.active - 1 < 0 then
        .error (.value "active client count became negative")
      else
        .ok { clients with
          ended := insert event.requestId clients.ended
          active := clients.active - 1 }
    | _ => .ok clients

/-- The loop over the evidence. -/
def scanEvents (events : List StreamEvidenceRecord) : Except PyError ActiveClients :=
  events.foldlM ActiveClients.observe {}

/-- `derive_observed_max_client_concurrency` -/
def deriveObservedMaxClientConcurrency (events : List StreamEvidenceRecord) : Except PyError ℤ := do
  let clients ← scanEvents events
  if clients.active ≠ 0 ∨ clients.started ≠ clients.ended then
    .error (.value "request lifecycle evidence is incomplete")
  else return clients.maximum

theorem scanEvents_nil : scanEvents [] = .ok {} := rfl

/-- One more event is one more turn of the loop. -/
theorem scanEvents_append {events : List StreamEvidenceRecord} {clients : ActiveClients}
    (h : scanEvents events = .ok clients) (event : StreamEvidenceRecord) :
    scanEvents (events ++ [event]) = clients.observe event := by
  have hscan : events.foldlM ActiveClients.observe {} = Except.ok clients := h
  rw [scanEvents, List.foldlM_append, hscan]
  show (clients.observe event >>= fun clients => pure clients) = _
  simp

namespace ActiveClients

theorem observe_started {clients : ActiveClients} {event : StreamEvidenceRecord}
    (hsequence : event.sequence = clients.expectedSequence)
    (hkind : event.kind = .clientRequestStarted) (hnew : event.requestId ∉ clients.started) :
    clients.observe event = .ok
      { expectedSequence := clients.expectedSequence + 1
        active := clients.active + 1
        maximum := max clients.maximum (clients.active + 1)
        started := insert event.requestId clients.started
        ended := clients.ended } := by
  simp [observe, hsequence, hkind, hnew]

theorem observe_ended {clients : ActiveClients} {event : StreamEvidenceRecord}
    (hsequence : event.sequence = clients.expectedSequence)
    (hkind : event.kind = .clientRequestEnded) (hstarted : event.requestId ∈ clients.started)
    (hended : event.requestId ∉ clients.ended) (hactive : 0 < clients.active) :
    clients.observe event = .ok
      { expectedSequence := clients.expectedSequence + 1
        active := clients.active - 1
        maximum := clients.maximum
        started := clients.started
        ended := insert event.requestId clients.ended } := by
  simp only [observe, hsequence, hkind, hstarted, hended, ne_eq, not_true_eq_false, or_self,
    if_false]
  rw [if_neg (by omega)]

theorem observe_other {clients : ActiveClients} {event : StreamEvidenceRecord}
    (hsequence : event.sequence = clients.expectedSequence)
    (hkind : event.kind.isLifecycle = false) :
    clients.observe event =
      .ok { clients with expectedSequence := clients.expectedSequence + 1 } := by
  unfold observe
  rw [if_neg (not_not.mpr hsequence)]
  cases hk : event.kind <;> simp [hk, StreamEvidenceKind.isLifecycle] at hkind ⊢

/-- A turn takes the event with the number it expects. -/
theorem expectedSequence_of_observe {clients clients' : ActiveClients}
    {event : StreamEvidenceRecord} (h : clients.observe event = .ok clients') :
    event.sequence = clients.expectedSequence ∧
      clients'.expectedSequence = clients.expectedSequence + 1 := by
  unfold observe at h
  split at h
  · cases h
  · next hsequence =>
    refine ⟨not_not.mp hsequence, ?_⟩
    dsimp only at h
    split at h
    · split at h <;> cases h
      rfl
    · split at h
      · cases h
      · split at h <;> cases h
        rfl
    · cases h
      rfl

end ActiveClients

/-- **Scanned evidence is numbered from 0 without a gap.** -/
theorem sequence_of_scanEvents {events : List StreamEvidenceRecord} {clients : ActiveClients}
    (h : scanEvents events = .ok clients) :
    events.map (·.sequence) = List.range events.length ∧
      clients.expectedSequence = events.length := by
  induction events using List.reverseRecOn generalizing clients with
  | nil =>
    obtain rfl := Except.ok.inj (scanEvents_nil.symm.trans h)
    exact ⟨rfl, rfl⟩
  | append_singleton events event ih =>
    have hbind := h
    rw [scanEvents, List.foldlM_append] at hbind
    obtain ⟨before, hbefore, -⟩ := bind_eq_ok.mp hbind
    obtain ⟨hmap, hexpected⟩ := ih hbefore
    rw [scanEvents_append hbefore] at h
    obtain ⟨hsequence, hnext⟩ := ActiveClients.expectedSequence_of_observe h
    rw [List.map_append, hmap, List.length_append, List.map_singleton, List.length_singleton,
      List.range_succ, hsequence, hnext, hexpected]
    exact ⟨rfl, rfl⟩

end Stage1
