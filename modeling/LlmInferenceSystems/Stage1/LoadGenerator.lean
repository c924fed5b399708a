import Mathlib.Data.Set.List
import Mathlib.Logic.Relation
import LlmInferenceSystems.CanonicalReading
import LlmInferenceSystems.Python.Tasks
import LlmInferenceSystems.Stage1.Evidence

/-!
# The closed-loop load generator

One warmup request is executed to its end. Then every measured case is a task of its own; a task
waits for one of as many permits as clients may be active, and holds it from before its start event
to after its end event. Tasks take turns in any order.

## Main definitions

* `ClosedLoop`: the arguments of `execute_closed_loop_workload`
* `Execution`, `ClosedLoop.Step`: a state of the load generator, and what may happen next
* `WellExecuted`: what the evidence and the records of a finished execution show

## Main results

* `Invariant.step`: what every turn of every task keeps
* `executeClosedLoopWorkload_wellExecuted`: every finished execution keeps the bound, whatever the
  order of the turns
* `exists_step`: no execution gets stuck
-/

namespace Stage1

open Python Json

/-! ## Requests -/

/-- `f"{n:03d}"` -/
def threeDigits (n : ℕ) : Str := List.replicate (3 - (decimal n).length) 48 ++ decimal n

/-- `"warmup-001"` -/
def warmupRequestId : Str := lit "warmup-001"

/-- The request id of the case at `index`. -/
def measuredRequestId (index : ℕ) : Str := lit "measured-" ++ threeDigits (index + 1)

theorem digitsValue_threeDigits (n : ℕ) : digitsValue (threeDigits n) = n := by
  have hzeros : ∀ k, (List.replicate k 48).foldl (fun m c => 10 * m + (c - 48)) 0 = 0 := by
    intro k
    induction k with
    | zero => rfl
    | succ k ih => simpa [List.replicate_succ] using ih
  rw [digitsValue, threeDigits, List.foldl_append, hzeros]
  exact digitsValue_decimal n

theorem measuredRequestId_injective : Function.Injective measuredRequestId := by
  intro i j h
  have hdigits : threeDigits (i + 1) = threeDigits (j + 1) := List.append_cancel_left h
  have hvalue := congrArg digitsValue hdigits
  rw [digitsValue_threeDigits, digitsValue_threeDigits] at hvalue
  omega

theorem measuredRequestId_ne_warmupRequestId (index : ℕ) :
    measuredRequestId index ≠ warmupRequestId := by
  intro h
  have hhead := congrArg List.head? h
  simp [measuredRequestId, warmupRequestId, lit_eq] at hhead

/-- The arguments of `execute_closed_loop_workload`, as far as they matter to it. -/
structure ClosedLoop where
  workload : Stage1WorkloadDefinition
  requestedClientConcurrency : ℕ
  fixture : FixtureDefinition

/-- What identifies a request in its evidence and in its record. -/
structure RequestIdentity where
  requestId : Str
  caseId : Str
  phase : Stage1Phase
deriving DecidableEq

namespace RequestIdentity

/-- The observation that the request starts or ends. -/
def lifecycle (request : RequestIdentity) (kind : StreamEvidenceKind) : StreamObservation where
  requestId := request.requestId
  caseId := request.caseId
  phase := request.phase
  kind := kind

/-- What `execute_streaming_request` observes for the request: anything but its start and end. -/
structure Observes (request : RequestIdentity) (observation : StreamObservation) : Prop where
  requestId : observation.requestId = request.requestId
  caseId : observation.caseId = request.caseId
  phase : observation.phase = request.phase
  kind : observation.kind.isLifecycle = false

end RequestIdentity

/-- The identity a record carries. -/
def Stage1RequestRecord.identity (record : Stage1RequestRecord) : RequestIdentity where
  requestId := record.requestId
  caseId := record.caseId
  phase := record.phase

namespace ClosedLoop

variable (load : ClosedLoop)

/-- `fixtures[case_id]`, of the dictionary of the cases by their ids -/
def fixtureCase (caseId : Str) : Option FixtureCaseDefinition :=
  load.fixture.cases.reverse.find? fun case => case.caseId = caseId

/-- The warmup request. -/
def warmupRequest : Option RequestIdentity :=
  (load.fixtureCase load.workload.warmupCase.caseId).map fun case =>
    ⟨warmupRequestId, case.caseId, .warmup⟩

/-- The request of the measured case at `index`. -/
def measuredRequest (index : ℕ) : Option RequestIdentity := do
  let workloadCase ← load.workload.measuredCases[index]?
  let case ← load.fixtureCase workloadCase.caseId
  return ⟨measuredRequestId index, case.caseId, .measured⟩

/-- The case that is found has the id it was looked up by. -/
theorem caseId_of_fixtureCase {caseId : Str} {case : FixtureCaseDefinition}
    (h : load.fixtureCase caseId = some case) : case.caseId = caseId := by
  simpa using List.find?_some h

theorem warmupRequest_eq_some {request : RequestIdentity} (h : load.warmupRequest = some request) :
    request = ⟨warmupRequestId, load.workload.warmupCase.caseId, .warmup⟩ := by
  obtain ⟨case, hcase, rfl⟩ := Option.map_eq_some_iff.mp h
  rw [load.caseId_of_fixtureCase hcase]

theorem measuredRequest_eq_some {index : ℕ} {request : RequestIdentity}
    (h : load.measuredRequest index = some request) :
    ∃ workloadCase, load.workload.measuredCases[index]? = some workloadCase ∧
      request = ⟨measuredRequestId index, workloadCase.caseId, .measured⟩ := by
  obtain ⟨workloadCase, hworkload, h⟩ := Option.bind_eq_some_iff.mp h
  obtain ⟨case, hcase, h⟩ := Option.bind_eq_some_iff.mp h
  obtain rfl := Option.some.inj h
  exact ⟨workloadCase, hworkload, by rw [load.caseId_of_fixtureCase hcase]⟩

end ClosedLoop

/-! ## Executions -/

/-- What a task of `execute_measured` has done. -/
inductive MeasuredTask where
  /-- The semaphore has not been acquired. -/
  | waiting
  | acquired
  /-- The start is recorded, and the request is executed. -/
  | started
  /-- `execute_streaming_request` has returned. -/
  | returned (result : Stage1RequestRecord)
  /-- The end is recorded. -/
  | ended (result : Stage1RequestRecord)
  /-- The semaphore is released. -/
  | done (result : Stage1RequestRecord)

namespace MeasuredTask

/-- The task is between entering the semaphore and leaving it. -/
def holdsPermit : MeasuredTask → Bool
  | acquired | started | returned _ | ended _ => true
  | waiting | done _ => false

/-- Started and not ended. -/
def isActive : MeasuredTask → Bool
  | started | returned _ => true
  | waiting | acquired | ended _ | done _ => false

/-- Its request has started. -/
def hasStarted : MeasuredTask → Bool
  | started | returned _ | ended _ | done _ => true
  | waiting | acquired => false

/-- Its request has ended. -/
def hasEnded : MeasuredTask → Bool
  | ended _ | done _ => true
  | waiting | acquired | started | returned _ => false

/-- The record its request came back with, if it has. -/
def result? : MeasuredTask → Option Stage1RequestRecord
  | returned result | ended result | done result => some result
  | waiting | acquired | started => none

/-- The active tasks are among those that hold a permit. -/
theorem countP_isActive_le (tasks : List MeasuredTask) :
    tasks.countP isActive ≤ tasks.countP holdsPermit := by
  apply List.countP_mono_left
  intro task _ hactive
  cases task <;> simp_all [isActive, holdsPermit]

end MeasuredTask

/-- How far `execute_closed_loop_workload` is. -/
inductive Progress where
  | beforeWarmup
  | warmupStarted
  | warmupReturned (warmup : Stage1RequestRecord)
  /-- The tasks take turns, with some permits left. -/
  | measuring (warmup : Stage1RequestRecord) (permits : ℕ) (tasks : List MeasuredTask)
  | finished (records : List Stage1RequestRecord)

/-- The evidence collected so far and how far the run has come. -/
structure Execution where
  collector : EvidenceCollector
  progress : Progress

/-- No evidence is recorded, and nothing is executed. -/
def Execution.start (runOriginNs : ℤ) : Execution := ⟨⟨runOriginNs, []⟩, .beforeWarmup⟩

section

variable [Interpreter]

/-- What may happen next. Requests may record any evidence that is theirs, and may return at any
time a record that is theirs. -/
inductive ClosedLoop.Step (load : ClosedLoop) : Execution → Execution → Prop
  | startWarmup {c c' : EvidenceCollector} {request : RequestIdentity} {now : ℤ}
      {event : StreamEvidenceRecord} (hrequest : load.warmupRequest = some request)
      (hrecord : c.recordStreamEvent now (request.lifecycle .clientRequestStarted) =
        .ok (event, c')) :
      load.Step ⟨c, .beforeWarmup⟩ ⟨c', .warmupStarted⟩
  | observeWarmup {c c' : EvidenceCollector} {request : RequestIdentity} {now : ℤ}
      {observation : StreamObservation} {event : StreamEvidenceRecord}
      (hrequest : load.warmupRequest = some request) (hobserves : request.Observes observation)
      (hrecord : c.recordStreamEvent now observation = .ok (event, c')) :
      load.Step ⟨c, .warmupStarted⟩ ⟨c', .warmupStarted⟩
  | returnWarmup {c : EvidenceCollector} {warmup : Stage1RequestRecord}
      (hrequest : load.warmupRequest = some warmup.identity) :
      load.Step ⟨c, .warmupStarted⟩ ⟨c, .warmupReturned warmup⟩
  | endWarmup {c c' : EvidenceCollector} {warmup : Stage1RequestRecord}
      {request : RequestIdentity} {now : ℤ} {event : StreamEvidenceRecord}
      (hrequest : load.warmupRequest = some request)
      (hrecord : c.recordStreamEvent now (request.lifecycle .clientRequestEnded) =
        .ok (event, c')) :
      load.Step ⟨c, .warmupReturned warmup⟩
        ⟨c', .measuring warmup load.requestedClientConcurrency
          (List.replicate load.workload.measuredCases.length .waiting)⟩
  | acquire {c : EvidenceCollector} {warmup : Stage1RequestRecord} {permits index : ℕ}
      {tasks : List MeasuredTask} (htask : tasks[index]? = some .waiting) :
      load.Step ⟨c, .measuring warmup (permits + 1) tasks⟩
        ⟨c, .measuring warmup permits (tasks.set index .acquired)⟩
  | startMeasured {c c' : EvidenceCollector} {warmup : Stage1RequestRecord} {permits index : ℕ}
      {tasks : List MeasuredTask} {request : RequestIdentity} {now : ℤ}
      {event : StreamEvidenceRecord} (htask : tasks[index]? = some .acquired)
      (hrequest : load.measuredRequest index = some request)
      (hrecord : c.recordStreamEvent now (request.lifecycle .clientRequestStarted) =
        .ok (event, c')) :
      load.Step ⟨c, .measuring warmup permits tasks⟩
        ⟨c', .measuring warmup permits (tasks.set index .started)⟩
  | observeMeasured {c c' : EvidenceCollector} {warmup : Stage1RequestRecord}
      {permits index : ℕ} {tasks : List MeasuredTask} {request : RequestIdentity} {now : ℤ}
      {observation : StreamObservation} {event : StreamEvidenceRecord}
      (htask : tasks[index]? = some .started)
      (hrequest : load.measuredRequest index = some request)
      (hobserves : request.Observes observation)
      (hrecord : c.recordStreamEvent now observation = .ok (event, c')) :
      load.Step ⟨c, .measuring warmup permits tasks⟩ ⟨c', .measuring warmup permits tasks⟩
  | returnMeasured {c : EvidenceCollector} {warmup result : Stage1RequestRecord}
      {permits index : ℕ} {tasks : List MeasuredTask} (htask : tasks[index]? = some .started)
      (hrequest : load.measuredRequest index = some result.identity) :
      load.Step ⟨c, .measuring warmup permits tasks⟩
        ⟨c, .measuring warmup permits (tasks.set index (.returned result))⟩
  | endMeasured {c c' : EvidenceCollector} {warmup result : Stage1RequestRecord}
      {permits index : ℕ} {tasks : List MeasuredTask} {request : RequestIdentity} {now : ℤ}
      {event : StreamEvidenceRecord} (htask : tasks[index]? = some (.returned result))
      (hrequest : load.measuredRequest index = some request)
      (hrecord : c.recordStreamEvent now (request.lifecycle .clientRequestEnded) =
        .ok (event, c')) :
      load.Step ⟨c, .measuring warmup permits tasks⟩
        ⟨c', .measuring warmup permits (tasks.set index (.ended result))⟩
  | release {c : EvidenceCollector} {warmup result : Stage1RequestRecord} {permits index : ℕ}
      {tasks : List MeasuredTask} (htask : tasks[index]? = some (.ended result)) :
      load.Step ⟨c, .measuring warmup permits tasks⟩
        ⟨c, .measuring warmup (permits + 1) (tasks.set index (.done result))⟩
  | gather {c : EvidenceCollector} {warmup : Stage1RequestRecord} {permits : ℕ}
      {results : List Stage1RequestRecord} :
      load.Step ⟨c, .measuring warmup permits (results.map .done)⟩
        ⟨c, .finished (warmup :: results)⟩

/-- Some turns, one after the other. -/
abbrev ClosedLoop.Steps (load : ClosedLoop) : Execution → Execution → Prop :=
  Relation.ReflTransGen load.Step

end

/-! ## The invariant -/

/-- The evidence so far: it can be scanned, and the scan has seen these requests start and end. -/
structure Scanned (events : List StreamEvidenceRecord) (started ended : Set Str)
    (active bound : ℕ) : Prop where
  scan : ∃ clients, scanEvents events = .ok clients ∧ clients.active = active ∧
    (clients.started : Set Str) = started ∧ (clients.ended : Set Str) = ended ∧
    1 ≤ clients.maximum ∧ clients.maximum ≤ bound

namespace Scanned

variable {events : List StreamEvidenceRecord} {event : StreamEvidenceRecord}
  {observation : StreamObservation} {started ended : Set Str} {active bound : ℕ}

/-- The first start. -/
theorem first (hevent : Recorded [] observation event)
    (hkind : observation.kind = .clientRequestStarted) (hbound : 0 < bound) :
    Scanned [event] {observation.requestId} ∅ 1 bound := by
  refine ⟨_, ActiveClients.observe_started hevent.sequence (hevent.kind.trans hkind) (by simp)
    |> (scanEvents_append scanEvents_nil event).trans, ?_⟩
  refine ⟨rfl, ?_, ?_, ?_, ?_⟩
  · simp [hevent.requestId]
  · simp
  · simp
  · simpa [Nat.succ_le_iff] using hbound

theorem start (h : Scanned events started ended active bound)
    (hevent : Recorded events observation event) (hkind : observation.kind = .clientRequestStarted)
    (hnew : observation.requestId ∉ started) (hbound : active + 1 ≤ bound) :
    Scanned (events ++ [event]) (insert observation.requestId started) ended (active + 1) bound := by
  obtain ⟨clients, hscan, hactive, rfl, rfl, hpos, hmaximum⟩ := h.scan
  have hsequence : event.sequence = clients.expectedSequence :=
    hevent.sequence.trans (sequence_of_scanEvents hscan).2.symm
  rw [← hevent.requestId] at hnew ⊢
  refine ⟨_, (scanEvents_append hscan event).trans
    (ActiveClients.observe_started hsequence (hevent.kind.trans hkind) hnew), ?_⟩
  refine ⟨by simp [hactive], by simp, rfl, ?_, ?_⟩
  · exact le_trans hpos (le_max_left _ _)
  · have : clients.active + 1 ≤ bound := by omega
    exact max_le hmaximum this

theorem finish (h : Scanned events started ended (active + 1) bound)
    (hevent : Recorded events observation event) (hkind : observation.kind = .clientRequestEnded)
    (hstarted : observation.requestId ∈ started) (hended : observation.requestId ∉ ended) :
    Scanned (events ++ [event]) started (insert observation.requestId ended) active bound := by
  obtain ⟨clients, hscan, hactive, rfl, rfl, hpos, hmaximum⟩ := h.scan
  have hsequence : event.sequence = clients.expectedSequence :=
    hevent.sequence.trans (sequence_of_scanEvents hscan).2.symm
  rw [← hevent.requestId] at hstarted hended ⊢
  refine ⟨_, (scanEvents_append hscan event).trans
    (ActiveClients.observe_ended hsequence (hevent.kind.trans hkind) hstarted hended
      (by omega)), ?_⟩
  exact ⟨by simp [hactive], rfl, by simp, hpos, hmaximum⟩

theorem other (h : Scanned events started ended active bound)
    (hevent : Recorded events observation event) (hkind : observation.kind.isLifecycle = false) :
    Scanned (events ++ [event]) started ended active bound := by
  obtain ⟨clients, hscan, hactive, hrest⟩ := h.scan
  have hsequence : event.sequence = clients.expectedSequence :=
    hevent.sequence.trans (sequence_of_scanEvents hscan).2.symm
  exact ⟨_, (scanEvents_append hscan event).trans
    (ActiveClients.observe_other hsequence (by rw [hevent.kind, hkind])), hactive, hrest⟩

/-- Evidence in which every started request has ended. -/
theorem derive_eq_ok (h : Scanned events started started 0 bound) :
    ∃ maximum, deriveObservedMaxClientConcurrency events = .ok maximum ∧ 1 ≤ maximum ∧
      maximum ≤ bound := by
  obtain ⟨clients, hscan, hactive, hstarted, hended, hpos, hmaximum⟩ := h.scan
  have hsets : clients.started = clients.ended := Finset.coe_injective (hstarted.trans hended.symm)
  have hzero : clients.active = 0 := by simpa using hactive
  refine ⟨clients.maximum, ?_, hpos, hmaximum⟩
  unfold deriveObservedMaxClientConcurrency
  rw [hscan]
  show (if _ then _ else _) = _
  rw [if_neg (by simp [hsets, hzero])]
  rfl

theorem sequence (h : Scanned events started ended active bound) :
    events.map (·.sequence) = List.range events.length := by
  obtain ⟨clients, hscan, -⟩ := h.scan
  exact (sequence_of_scanEvents hscan).1

end Scanned

/-- No event of the warmup comes after an event of a measured request. -/
def WarmupFirst (events : List StreamEvidenceRecord) : Prop :=
  events.Pairwise fun before after => after.phase = .warmup → before.phase = .warmup

theorem WarmupFirst.of_forall {events : List StreamEvidenceRecord}
    (h : ∀ event ∈ events, event.phase = .warmup) : WarmupFirst events :=
  List.pairwise_iff_forall_sublist.mpr fun hsub _ => h _ (hsub.subset (by simp))

theorem WarmupFirst.append {events : List StreamEvidenceRecord} (h : WarmupFirst events)
    {event : StreamEvidenceRecord} (hphase : event.phase = .measured) :
    WarmupFirst (events ++ [event]) := by
  refine List.pairwise_append.mpr ⟨h, List.pairwise_singleton _ _, ?_⟩
  intro before _ after hafter hwarmup
  rw [List.mem_singleton.mp hafter, hphase] at hwarmup
  cases hwarmup

/-- While the warmup request is executed. -/
structure WarmingUp (load : ClosedLoop) (events : List StreamEvidenceRecord) : Prop where
  scanned : Scanned events {warmupRequestId} ∅ 1 load.requestedClientConcurrency
  phases : ∀ event ∈ events, event.phase = .warmup

namespace WarmingUp

variable {load : ClosedLoop} {events : List StreamEvidenceRecord} {event : StreamEvidenceRecord}
  {request : RequestIdentity}

/-- The warmup request records its start. -/
theorem start (hbound : 0 < load.requestedClientConcurrency) (hnil : events = [])
    (hrequest : load.warmupRequest = some request)
    (hevent : Recorded events (request.lifecycle .clientRequestStarted) event) :
    WarmingUp load (events ++ [event]) := by
  subst hnil
  obtain rfl := load.warmupRequest_eq_some hrequest
  refine ⟨Scanned.first hevent rfl hbound, fun e he => ?_⟩
  rw [List.mem_singleton.mp he]
  exact hevent.phase

/-- The warmup request records evidence of its own. -/
theorem observe (h : WarmingUp load events) (hrequest : load.warmupRequest = some request)
    {observation : StreamObservation} (hobserves : request.Observes observation)
    (hevent : Recorded events observation event) : WarmingUp load (events ++ [event]) := by
  obtain rfl := load.warmupRequest_eq_some hrequest
  refine ⟨h.scanned.other hevent hobserves.kind, fun e he => ?_⟩
  rcases List.mem_append.mp he with he | he
  · exact h.phases e he
  · rw [List.mem_singleton.mp he, hevent.phase]
    exact hobserves.phase

end WarmingUp

/-- The requests of the tasks with a property, and the warmup request. -/
def requestIds (p : MeasuredTask → Bool) (tasks : List MeasuredTask) : Set Str :=
  insert warmupRequestId (namesWhere measuredRequestId p tasks)

/-- While the tasks take turns: every permit is left or held, and only tasks that hold one are
active. -/
structure Measuring (load : ClosedLoop) (events : List StreamEvidenceRecord)
    (warmup : Stage1RequestRecord) (permits : ℕ) (tasks : List MeasuredTask) : Prop where
  scanned : Scanned events (requestIds MeasuredTask.hasStarted tasks)
    (requestIds MeasuredTask.hasEnded tasks) (tasks.countP MeasuredTask.isActive)
    load.requestedClientConcurrency
  permits : permits + tasks.countP MeasuredTask.holdsPermit = load.requestedClientConcurrency
  length : tasks.length = load.workload.measuredCases.length
  warmup : load.warmupRequest = some warmup.identity
  results : ∀ index task, tasks[index]? = some task → ∀ result ∈ task.result?,
    load.measuredRequest index = some result.identity
  phases : WarmupFirst events

/-- What the evidence and the records of a finished execution show. -/
structure WellExecuted (load : ClosedLoop) (events : List StreamEvidenceRecord)
    (records : List Stage1RequestRecord) : Prop where
  sequence : events.map (·.sequence) = List.range events.length
  concurrency : ∃ maximum, deriveObservedMaxClientConcurrency events = .ok maximum ∧
    1 ≤ maximum ∧ maximum ≤ load.requestedClientConcurrency
  phases : WarmupFirst events
  records : records.map Stage1RequestRecord.identity =
    ⟨warmupRequestId, load.workload.warmupCase.caseId, .warmup⟩ ::
      load.workload.measuredCases.mapIdx fun index workloadCase =>
        ⟨measuredRequestId index, workloadCase.caseId, .measured⟩

/-- What every reachable state satisfies. -/
def Invariant (load : ClosedLoop) (execution : Execution) : Prop :=
  match execution.progress with
  | .beforeWarmup => execution.collector.streamEvents = []
  | .warmupStarted => WarmingUp load execution.collector.streamEvents
  | .warmupReturned warmup =>
    WarmingUp load execution.collector.streamEvents ∧ load.warmupRequest = some warmup.identity
  | .measuring warmup permits tasks =>
    Measuring load execution.collector.streamEvents warmup permits tasks
  | .finished records => WellExecuted load execution.collector.streamEvents records

namespace Measuring

variable {load : ClosedLoop} {events : List StreamEvidenceRecord} {warmup : Stage1RequestRecord}
  {permits permits' index : ℕ} {tasks : List MeasuredTask} {task task' : MeasuredTask}

/-- Tasks that have not acquired the semaphore yet. -/
theorem start (h : WarmingUp load events) {event : StreamEvidenceRecord}
    {request : RequestIdentity} (hrequest : load.warmupRequest = some request)
    (hwarmup : load.warmupRequest = some warmup.identity)
    (hevent : Recorded events (request.lifecycle .clientRequestEnded) event) :
    Measuring load (events ++ [event]) warmup load.requestedClientConcurrency
      (List.replicate load.workload.measuredCases.length .waiting) := by
  have hid := load.warmupRequest_eq_some hrequest
  -- every task is still waiting, so only the warmup request has started or ended
  have hnone : ∀ p : MeasuredTask → Bool, p .waiting = false →
      requestIds p (List.replicate load.workload.measuredCases.length .waiting) =
        {warmupRequestId} ∧
      (List.replicate load.workload.measuredCases.length MeasuredTask.waiting).countP p = 0 := by
    intro p hp
    have hall : ∀ task ∈ List.replicate load.workload.measuredCases.length MeasuredTask.waiting,
        p task = false := fun task htask => by rw [List.eq_of_mem_replicate htask, hp]
    refine ⟨?_, ?_⟩
    · rw [requestIds, namesWhere_eq_empty hall, insert_empty_eq]
    · exact List.countP_eq_zero.mpr fun task htask => by simp [hall task htask]
  constructor
  · rw [(hnone _ rfl).1, (hnone MeasuredTask.hasEnded rfl).1, (hnone _ rfl).2]
    -- the warmup request is in flight, and its end takes it out
    have hfinish := h.scanned.finish hevent rfl (by simp [RequestIdentity.lifecycle, hid]) (by simp)
    simpa [RequestIdentity.lifecycle, hid] using hfinish
  · rw [(hnone _ rfl).2, Nat.add_zero]
  · exact List.length_replicate
  · exact hwarmup
  · intro index task htask result hresult
    -- no task has returned yet
    obtain rfl := List.eq_of_mem_replicate (List.mem_of_getElem? htask)
    cases hresult
  · refine WarmupFirst.of_forall fun e he => ?_
    rcases List.mem_append.mp he with he | he
    -- the warmup comes first: no event before it is a measured one
    · exact h.phases e he
    · rw [List.mem_singleton.mp he, hevent.phase]
      simp [RequestIdentity.lifecycle, hid]

theorem results_set
    (h : ∀ index task, tasks[index]? = some task → ∀ result ∈ task.result?,
      load.measuredRequest index = some result.identity)
    (htask : tasks[index]? = some task)
    (hresult : ∀ result ∈ task'.result?, load.measuredRequest index = some result.identity) :
    ∀ index' task, (tasks.set index task')[index']? = some task → ∀ result ∈ task.result?,
      load.measuredRequest index' = some result.identity := by
  obtain ⟨hindex, -⟩ := List.getElem?_eq_some_iff.mp htask
  intro index' other hother
  rcases eq_or_ne index index' with rfl | hne
  · rw [List.getElem?_set_self hindex] at hother
    obtain rfl := Option.some.inj hother
    exact hresult
  · rw [List.getElem?_set_ne hne] at hother
    exact h index' other hother

/-- A turn in which a task records nothing. -/
theorem silent (h : Measuring load events warmup permits tasks)
    (htask : tasks[index]? = some task) (hstarted : task'.hasStarted = task.hasStarted)
    (hended : task'.hasEnded = task.hasEnded) (hactive : task'.isActive = task.isActive)
    (hpermits : permits' + (if task'.holdsPermit then 1 else 0) =
      permits + if task.holdsPermit then 1 else 0)
    (hresult : ∀ result ∈ task'.result?, load.measuredRequest index = some result.identity) :
    Measuring load events warmup permits' (tasks.set index task') := by
  constructor
  · have hcount := countP_set_add (p := MeasuredTask.isActive) htask task'
    rw [hactive] at hcount
    rw [requestIds, requestIds, namesWhere_set_of_eq htask _ hstarted,
      namesWhere_set_of_eq htask _ hended, Nat.add_right_cancel hcount]
    exact h.scanned
  · have hcount := countP_set_add (p := MeasuredTask.holdsPermit) htask task'
    have := h.permits
    omega
  · rw [List.length_set, h.length]
  · exact h.warmup
  · exact results_set h.results htask hresult
  · exact h.phases

/-- A task records its start: it holds a permit already, so that one more may be active. -/
theorem startMeasured (h : Measuring load events warmup permits tasks)
    (htask : tasks[index]? = some .acquired) {request : RequestIdentity}
    (hrequest : load.measuredRequest index = some request) {event : StreamEvidenceRecord}
    (hevent : Recorded events (request.lifecycle .clientRequestStarted) event) :
    Measuring load (events ++ [event]) warmup permits (tasks.set index .started) := by
  obtain ⟨_, _, rfl⟩ := load.measuredRequest_eq_some hrequest
  have hactive := countP_set_add (p := MeasuredTask.isActive) htask .started
  have hholds := countP_set_add (p := MeasuredTask.holdsPermit) htask .started
  have hle := MeasuredTask.countP_isActive_le (tasks.set index .started)
  have hpermits := h.permits
  simp only [MeasuredTask.isActive, MeasuredTask.holdsPermit, if_true, Bool.false_eq_true,
    if_false, Nat.add_zero] at hactive hholds
  constructor
  · have hnew : measuredRequestId index ∉ requestIds MeasuredTask.hasStarted tasks := by
      rintro (hwarmup | hname)
      · exact measuredRequestId_ne_warmupRequestId index hwarmup
      · exact Bool.false_ne_true
          ((mem_namesWhere_iff measuredRequestId_injective htask).mp hname)
    have hstart := h.scanned.start hevent rfl hnew (by omega)
    rw [requestIds, requestIds, namesWhere_set_of_new htask .started rfl rfl,
      namesWhere_set_of_eq htask .started rfl, Set.insert_comm, hactive]
    exact hstart
  · omega
  · rw [List.length_set, h.length]
  · exact h.warmup
  · exact results_set h.results htask fun result hresult => by cases hresult
  · exact h.phases.append hevent.phase

/-- A task records its end. -/
theorem endMeasured (h : Measuring load events warmup permits tasks)
    {result : Stage1RequestRecord} (htask : tasks[index]? = some (.returned result))
    {request : RequestIdentity} (hrequest : load.measuredRequest index = some request)
    {event : StreamEvidenceRecord}
    (hevent : Recorded events (request.lifecycle .clientRequestEnded) event) :
    Measuring load (events ++ [event]) warmup permits (tasks.set index (.ended result)) := by
  obtain ⟨_, _, rfl⟩ := load.measuredRequest_eq_some hrequest
  have hactive := countP_set_add (p := MeasuredTask.isActive) htask (.ended result)
  have hholds := countP_set_add (p := MeasuredTask.holdsPermit) htask (.ended result)
  have hpermits := h.permits
  simp only [MeasuredTask.isActive, MeasuredTask.holdsPermit, if_true, Bool.false_eq_true,
    if_false, Nat.add_zero] at hactive hholds
  constructor
  -- this request has started, and has not ended before
  · have hstarted : measuredRequestId index ∈ requestIds MeasuredTask.hasStarted tasks :=
      .inr ((mem_namesWhere_iff measuredRequestId_injective htask).mpr rfl)
    have hended : measuredRequestId index ∉ requestIds MeasuredTask.hasEnded tasks := by
      rintro (hwarmup | hname)
      · exact measuredRequestId_ne_warmupRequestId index hwarmup
      · exact Bool.false_ne_true
          ((mem_namesWhere_iff measuredRequestId_injective htask).mp hname)
    have hscanned := h.scanned
    -- its end takes it out of the scan
    rw [← hactive] at hscanned
    have hfinish := hscanned.finish hevent rfl hstarted hended
    rw [requestIds, requestIds,
      namesWhere_set_of_eq (p := MeasuredTask.hasStarted) htask (.ended result) rfl,
      namesWhere_set_of_new htask (.ended result) rfl rfl, Set.insert_comm]
    exact hfinish
  · omega
  · rw [List.length_set, h.length]
  · exact h.warmup
  · exact results_set h.results htask fun r hr => h.results index _ htask r hr
  · exact h.phases.append hevent.phase

/-- A task's request records evidence of its own. -/
theorem observe (h : Measuring load events warmup permits tasks) {request : RequestIdentity}
    (hrequest : load.measuredRequest index = some request) {observation : StreamObservation}
    (hobserves : request.Observes observation) {event : StreamEvidenceRecord}
    (hevent : Recorded events observation event) :
    Measuring load (events ++ [event]) warmup permits tasks := by
  obtain ⟨_, _, rfl⟩ := load.measuredRequest_eq_some hrequest
  exact ⟨h.scanned.other hevent hobserves.kind, h.permits, h.length, h.warmup, h.results,
    h.phases.append (hevent.phase.trans hobserves.phase)⟩

/-- All tasks are done. -/
theorem gather {results : List Stage1RequestRecord}
    (h : Measuring load events warmup permits (results.map .done)) :
    WellExecuted load events (warmup :: results) := by
  -- every task is done, so all that started have ended and none is active
  have hdone : ∀ task ∈ results.map MeasuredTask.done, task.hasStarted = task.hasEnded ∧
      task.isActive = false := by
    intro task htask
    obtain ⟨result, -, rfl⟩ := List.mem_map.mp htask
    exact ⟨rfl, rfl⟩
  have hscanned := h.scanned
  rw [requestIds, requestIds, namesWhere_eq_of_forall fun task htask => (hdone task htask).1,
    List.countP_eq_zero.mpr fun task htask => by simp [(hdone task htask).2]] at hscanned
  refine ⟨hscanned.sequence, hscanned.derive_eq_ok, h.phases, ?_⟩
  rw [List.map_cons, load.warmupRequest_eq_some h.warmup]
  congr 1
  -- request by request: the record of a task is the one of its case
  apply List.ext_getElem?
  intro index
  rw [List.getElem?_map, List.getElem?_mapIdx]
  cases hresult : results[index]? with
  | none =>
    have hlength := h.length
    rw [List.length_map] at hlength
    have hout : load.workload.measuredCases.length ≤ index := by
      rw [← hlength]
      exact List.getElem?_eq_none_iff.mp hresult
    rw [List.getElem?_eq_none hout]
    rfl
  | some result =>
    have htask : (results.map MeasuredTask.done)[index]? = some (.done result) := by
      rw [List.getElem?_map, hresult, Option.map_some]
    obtain ⟨workloadCase, hcase, hidentity⟩ :=
      load.measuredRequest_eq_some (h.results index _ htask result rfl)
    rw [hcase, Option.map_some, Option.map_some, hidentity]

end Measuring

/-! ## Every execution -/

section

variable [Interpreter]

/-- **What every turn keeps.** -/
theorem Invariant.step {load : ClosedLoop} {e e' : Execution}
    (hbound : 0 < load.requestedClientConcurrency) (hstep : load.Step e e')
    (h : Invariant load e) : Invariant load e' := by
  -- an event that is recorded keeps the scan; a turn without one changes no count
  cases hstep with
  | startWarmup hrequest hrecord =>
    obtain ⟨hevent, hevents⟩ := recordStreamEvent_eq_ok hrecord
    have hstart := WarmingUp.start hbound h hrequest hevent
    rw [← hevents] at hstart
    exact hstart
  | observeWarmup hrequest hobserves hrecord =>
    obtain ⟨hevent, hevents⟩ := recordStreamEvent_eq_ok hrecord
    have hobserve := WarmingUp.observe h hrequest hobserves hevent
    rw [← hevents] at hobserve
    exact hobserve
  | returnWarmup hrequest => exact ⟨h, hrequest⟩
  | endWarmup hrequest hrecord =>
    obtain ⟨hevent, hevents⟩ := recordStreamEvent_eq_ok hrecord
    have hstart := Measuring.start h.1 hrequest h.2 hevent
    rw [← hevents] at hstart
    exact hstart
  | acquire htask =>
    exact Measuring.silent h htask rfl rfl rfl (by simp [MeasuredTask.holdsPermit])
      fun result hresult => by cases hresult
  | startMeasured htask hrequest hrecord =>
    obtain ⟨hevent, hevents⟩ := recordStreamEvent_eq_ok hrecord
    have hstart := Measuring.startMeasured h htask hrequest hevent
    rw [← hevents] at hstart
    exact hstart
  | observeMeasured htask hrequest hobserves hrecord =>
    obtain ⟨hevent, hevents⟩ := recordStreamEvent_eq_ok hrecord
    have hobserve := Measuring.observe h hrequest hobserves hevent
    rw [← hevents] at hobserve
    exact hobserve
  | returnMeasured htask hrequest =>
    exact Measuring.silent h htask rfl rfl rfl rfl fun result hresult => by
      obtain rfl := Option.some.inj hresult
      exact hrequest
  | endMeasured htask hrequest hrecord =>
    obtain ⟨hevent, hevents⟩ := recordStreamEvent_eq_ok hrecord
    have hend := Measuring.endMeasured h htask hrequest hevent
    rw [← hevents] at hend
    exact hend
  -- a permit comes back, and nothing is recorded
  | release htask =>
    exact Measuring.silent h htask rfl rfl rfl (by simp [MeasuredTask.holdsPermit])
      fun result hresult => Measuring.results h _ _ htask result hresult
  | gather => exact Measuring.gather h

/-- What every execution keeps. -/
theorem Invariant.steps {load : ClosedLoop} {e e' : Execution}
    (hbound : 0 < load.requestedClientConcurrency) (hsteps : load.Steps e e')
    (h : Invariant load e) : Invariant load e' := by
  induction hsteps with
  | refl => exact h
  | tail _ hstep ih => exact Invariant.step hbound hstep ih

/-- **Every finished execution keeps its bound on active clients**, whatever the order of the turns
and whatever the requests record. -/
theorem executeClosedLoopWorkload_wellExecuted {load : ClosedLoop}
    (hbound : 0 < load.requestedClientConcurrency) {runOriginNs : ℤ} {e : Execution}
    (hsteps : load.Steps (.start runOriginNs) e) {records : List Stage1RequestRecord}
    (hfinished : e.progress = .finished records) :
    WellExecuted load e.collector.streamEvents records := by
  have hinvariant : Invariant load e := Invariant.steps hbound hsteps rfl
  rw [Invariant, hfinished] at hinvariant
  exact hinvariant

/-! ## No execution gets stuck -/

/-- Every case of the workload is in the fixture, under identifiers. -/
structure ClosedLoop.Declared (load : ClosedLoop) : Prop where
  warmup : ∃ request, load.warmupRequest = some request ∧ IsIdentifier request.requestId ∧
    IsIdentifier request.caseId
  measured : ∀ index < load.workload.measuredCases.length, ∃ request,
    load.measuredRequest index = some request ∧ IsIdentifier request.requestId ∧
      IsIdentifier request.caseId

/-- The turns that are left to a task. -/
def MeasuredTask.turnsLeft : MeasuredTask → ℕ
  | waiting => 5
  | acquired => 4
  | started => 3
  | returned _ => 2
  | ended _ => 1
  | done _ => 0

/-- The turns that are left, with none that only records evidence. -/
def ClosedLoop.turnsLeft (load : ClosedLoop) : Progress → ℕ
  | .beforeWarmup => 4 + 5 * load.workload.measuredCases.length
  | .warmupStarted => 3 + 5 * load.workload.measuredCases.length
  | .warmupReturned _ => 2 + 5 * load.workload.measuredCases.length
  | .measuring _ _ tasks => 1 + (tasks.map MeasuredTask.turnsLeft).sum
  | .finished _ => 0

omit [Interpreter] in
theorem RequestIdentity.exists_identity_eq (request : RequestIdentity) :
    ∃ record : Stage1RequestRecord, record.identity = request :=
  ⟨{ requestId := request.requestId
     caseId := request.caseId
     phase := request.phase
     terminalClass := .failed
     httpStatus := none
     timing := ⟨0, none, none, none, none, 0⟩
     inputTokenCount := 0
     outputTokenCount := 0
     tokenEventDeltaCounts := []
     tokenEventObservationOffsetsNs := []
     perTokenObservationComplete := true
     sloSatisfied := false
     failure := none }, rfl⟩

variable {load : ClosedLoop}

omit [Interpreter] in
/-- A task in its next phase has one turn less. -/
theorem turnsLeft_set {warmup : Stage1RequestRecord} {permits permits' index : ℕ}
    {tasks : List MeasuredTask} {task task' : MeasuredTask} (htask : tasks[index]? = some task)
    (hless : task'.turnsLeft < task.turnsLeft) :
    load.turnsLeft (.measuring warmup permits' (tasks.set index task')) <
      load.turnsLeft (.measuring warmup permits tasks) := by
  have := sum_map_set_add (f := MeasuredTask.turnsLeft) htask task'
  simp only [ClosedLoop.turnsLeft]
  omega

/-- A task that holds a permit can take its next turn. -/
theorem exists_step_of_holdsPermit (hdeclared : load.Declared) {c : EvidenceCollector}
    {warmup : Stage1RequestRecord} {permits index : ℕ} {tasks : List MeasuredTask}
    {task : MeasuredTask} (h : Measuring load c.streamEvents warmup permits tasks)
    (htask : tasks[index]? = some task) (hholds : task.holdsPermit = true) :
    ∃ e', load.Step ⟨c, .measuring warmup permits tasks⟩ e' ∧
      load.turnsLeft e'.progress < load.turnsLeft (.measuring warmup permits tasks) := by
  -- the task has a case, so each of its events has a valid identity
  obtain ⟨hindex, -⟩ := List.getElem?_eq_some_iff.mp htask
  obtain ⟨request, hrequest, hid, hcase⟩ := hdeclared.measured index (h.length ▸ hindex)
  cases task with
  | waiting => cases hholds
  -- a task that holds a permit always has a turn: start, return, end or release
  | acquired =>
    obtain ⟨event, c', hrecord⟩ :=
      exists_recordStreamEvent c hid hcase request.phase
        (rfl : StreamEvidenceKind.clientRequestStarted.isLifecycle = true)
    exact ⟨_, .startMeasured htask hrequest hrecord, turnsLeft_set htask (by decide)⟩
  | started =>
    obtain ⟨result, rfl⟩ := request.exists_identity_eq
    exact ⟨_, .returnMeasured htask hrequest,
      turnsLeft_set htask (by simp [MeasuredTask.turnsLeft])⟩
  | returned result =>
    obtain ⟨event, c', hrecord⟩ :=
      exists_recordStreamEvent c hid hcase request.phase
        (rfl : StreamEvidenceKind.clientRequestEnded.isLifecycle = true)
    exact ⟨_, .endMeasured htask hrequest hrecord,
      turnsLeft_set htask (by simp [MeasuredTask.turnsLeft])⟩
  | ended result =>
    exact ⟨_, .release htask, turnsLeft_set htask (by simp [MeasuredTask.turnsLeft])⟩
  | done result => cases hholds

/-- **No execution gets stuck**: until it is finished, some turn brings it nearer to its end. -/
theorem exists_step (hbound : 0 < load.requestedClientConcurrency) (hdeclared : load.Declared)
    {e : Execution} (h : Invariant load e) :
    (∃ records, e.progress = .finished records) ∨
      ∃ e', load.Step e e' ∧ load.turnsLeft e'.progress < load.turnsLeft e.progress := by
  obtain ⟨c, progress⟩ := e
  obtain ⟨request, hrequest, hid, hcase⟩ := hdeclared.warmup
  cases progress with
  -- before the measured requests, the warmup has the next turn
  | beforeWarmup =>
    obtain ⟨event, c', hrecord⟩ :=
      exists_recordStreamEvent c hid hcase request.phase
        (rfl : StreamEvidenceKind.clientRequestStarted.isLifecycle = true)
    refine .inr ⟨_, .startWarmup hrequest hrecord, ?_⟩
    simp [ClosedLoop.turnsLeft]
  | warmupStarted =>
    obtain ⟨warmup, rfl⟩ := request.exists_identity_eq
    refine .inr ⟨_, .returnWarmup hrequest, ?_⟩
    simp [ClosedLoop.turnsLeft]
  | warmupReturned warmup =>
    obtain ⟨event, c', hrecord⟩ :=
      exists_recordStreamEvent c hid hcase request.phase
        (rfl : StreamEvidenceKind.clientRequestEnded.isLifecycle = true)
    refine .inr ⟨_, .endWarmup hrequest hrecord, ?_⟩
    simp only [ClosedLoop.turnsLeft, List.map_replicate, List.sum_replicate_nat,
      -- the measured requests have all their turns left, fewer than before the warmup ended
      MeasuredTask.turnsLeft]
    omega
  | measuring warmup permits tasks =>
    have hmeasuring : Measuring load c.streamEvents warmup permits tasks := h
    right
    by_cases hholds : ∃ task ∈ tasks, task.holdsPermit = true
    · obtain ⟨task, hmem, hholds⟩ := hholds
      obtain ⟨index, htask⟩ := List.getElem?_of_mem hmem
      exact exists_step_of_holdsPermit hdeclared hmeasuring htask hholds
    · -- nobody holds a permit, so that all of them are left
      have hnone : tasks.countP MeasuredTask.holdsPermit = 0 :=
        List.countP_eq_zero.mpr fun task hmem hholds' => hholds ⟨task, hmem, hholds'⟩
      have hpermits := hmeasuring.permits
      rw [hnone, Nat.add_zero] at hpermits
      obtain ⟨permits, rfl⟩ : ∃ n, permits = n + 1 := ⟨permits - 1, by omega⟩
      by_cases hwaiting : ∃ index : ℕ, tasks[index]? = some .waiting
      · obtain ⟨index, htask⟩ := hwaiting
        exact ⟨_, .acquire htask, turnsLeft_set htask (by decide)⟩
      -- no task waits and none holds a permit, so all are done
      · have hdone : tasks ∈ Set.range (List.map MeasuredTask.done) := by
          rw [Set.range_list_map]
          intro task hmem
          cases task with
          | waiting =>
            obtain ⟨index, htask⟩ := List.getElem?_of_mem hmem
            exact absurd ⟨index, htask⟩ hwaiting
          | done result => exact ⟨result, rfl⟩
          | acquired => exact absurd ⟨_, hmem, rfl⟩ hholds
          | started => exact absurd ⟨_, hmem, rfl⟩ hholds
          | returned result => exact absurd ⟨_, hmem, rfl⟩ hholds
          | ended result => exact absurd ⟨_, hmem, rfl⟩ hholds
        obtain ⟨results, rfl⟩ := hdone
        refine ⟨_, .gather, ?_⟩
        simp [ClosedLoop.turnsLeft]
  | finished records => exact .inl ⟨records, rfl⟩

/-- Every execution can be brought to its end. -/
theorem exists_finished (hbound : 0 < load.requestedClientConcurrency)
    (hdeclared : load.Declared) {e : Execution} (h : Invariant load e) :
    ∃ e' records, load.Steps e e' ∧ e'.progress = .finished records := by
  induction hturns : load.turnsLeft e.progress using Nat.strongRecOn generalizing e with
  | _ turns ih =>
    rcases exists_step hbound hdeclared h with ⟨records, hfinished⟩ | ⟨next, hstep, hless⟩
    · exact ⟨e, records, .refl, hfinished⟩
    · obtain ⟨e', records, hsteps, hfinished⟩ :=
        ih _ (hturns ▸ hless) (Invariant.step hbound hstep h) rfl
      exact ⟨e', records, .head hstep hsteps, hfinished⟩

end

/-! ## Two cases at once -/

section

attribute [local instance] cpython

/-- A warm-up and two measured cases, which two clients may run at once. -/
def sampleLoad : ClosedLoop where
  workload := ⟨⟨lit "warm"⟩, [⟨lit "a"⟩, ⟨lit "b"⟩]⟩
  requestedClientConcurrency := 2
  fixture :=
    ⟨[⟨lit "b", lit "<p001>", 1⟩, ⟨lit "warm", lit "<p002>", 1⟩, ⟨lit "a", lit "<p003>", 1⟩]⟩

theorem sampleLoad_declared : sampleLoad.Declared where
  warmup := ⟨⟨warmupRequestId, lit "warm", .warmup⟩, by decide⟩
  measured := by
    have hfirst : sampleLoad.measuredRequest 0 = some ⟨measuredRequestId 0, lit "a", .measured⟩ :=
      rfl
    have hsecond : sampleLoad.measuredRequest 1 =
        some ⟨measuredRequestId 1, lit "b", .measured⟩ := rfl
    intro index hindex
    have htwo : index = 0 ∨ index = 1 := by
      have : index < 2 := hindex
      omega
    rcases htwo with rfl | rfl
    · exact ⟨_, hfirst, by decide⟩
    · exact ⟨_, hsecond, by decide⟩

/-- Both cases are started before either ends. -/
theorem exists_overlap : ∃ overlap warmup, sampleLoad.Steps (.start 0) overlap ∧
    overlap.progress = .measuring warmup 0 [.started, .started] := by
  obtain ⟨⟨request, hrequest, hid, hcase⟩, hmeasured⟩ := sampleLoad_declared
  obtain ⟨warmup, rfl⟩ := request.exists_identity_eq
  obtain ⟨first, hfirst, hfirstId, hfirstCase⟩ := hmeasured 0 (by decide)
  obtain ⟨second, hsecond, hsecondId, hsecondCase⟩ := hmeasured 1 (by decide)
  -- the warmup alone
  obtain ⟨_, c₁, hstarted⟩ := exists_recordStreamEvent ⟨0, []⟩ hid hcase warmup.identity.phase
    (rfl : StreamEvidenceKind.clientRequestStarted.isLifecycle = true)
  obtain ⟨_, c₂, hended⟩ := exists_recordStreamEvent c₁ hid hcase warmup.identity.phase
    (rfl : StreamEvidenceKind.clientRequestEnded.isLifecycle = true)
  have hwarmup : sampleLoad.Steps (.start 0) ⟨c₂, .measuring warmup 2 [.waiting, .waiting]⟩ :=
    .tail (.tail (.tail .refl (.startWarmup hrequest hstarted)) (.returnWarmup hrequest))
      (.endWarmup hrequest hended)
  -- each task takes a permit
  have hfirstTask : [MeasuredTask.waiting, .waiting][0]? = some .waiting := rfl
  have hsecondTask : [MeasuredTask.acquired, .waiting][1]? = some .waiting := rfl
  have hpermits : sampleLoad.Steps ⟨c₂, .measuring warmup 2 [.waiting, .waiting]⟩
      ⟨c₂, .measuring warmup 0 [.acquired, .acquired]⟩ :=
    .tail (.tail .refl (.acquire hfirstTask)) (.acquire hsecondTask)
  -- and starts its request
  obtain ⟨_, c₃, hstarted₁⟩ := exists_recordStreamEvent c₂ hfirstId hfirstCase first.phase
    (rfl : StreamEvidenceKind.clientRequestStarted.isLifecycle = true)
  obtain ⟨_, c₄, hstarted₂⟩ := exists_recordStreamEvent c₃ hsecondId hsecondCase second.phase
    (rfl : StreamEvidenceKind.clientRequestStarted.isLifecycle = true)
  have hfirstTask : [MeasuredTask.acquired, .acquired][0]? = some .acquired := rfl
  have hsecondTask : [MeasuredTask.started, .acquired][1]? = some .acquired := rfl
  have hstarts : sampleLoad.Steps ⟨c₂, .measuring warmup 0 [.acquired, .acquired]⟩
      ⟨c₄, .measuring warmup 0 [.started, .started]⟩ :=
    .tail (.tail .refl (.startMeasured hfirstTask hfirst hstarted₁))
      (.startMeasured hsecondTask hsecond hstarted₂)
  exact ⟨_, warmup, (hwarmup.trans hpermits).trans hstarts, rfl⟩

/-- An execution of the sample in which the two cases overlap, to its end. -/
theorem executeClosedLoopWorkload_sampleLoad :
    ∃ overlap warmup e records, sampleLoad.Steps (.start 0) overlap ∧
      overlap.progress = .measuring warmup 0 [.started, .started] ∧ sampleLoad.Steps overlap e ∧
      e.progress = .finished records ∧
      WellExecuted sampleLoad e.collector.streamEvents records := by
  have hbound : 0 < sampleLoad.requestedClientConcurrency := by decide
  obtain ⟨overlap, warmup, hoverlap, hboth⟩ := exists_overlap
  obtain ⟨e, records, hsteps, hfinished⟩ := exists_finished hbound sampleLoad_declared
    (Invariant.steps hbound hoverlap rfl)
  exact ⟨overlap, warmup, e, records, hoverlap, hboth, hsteps, hfinished,
    executeClosedLoopWorkload_wellExecuted hbound (hoverlap.trans hsteps) hfinished⟩

end

end Stage1
