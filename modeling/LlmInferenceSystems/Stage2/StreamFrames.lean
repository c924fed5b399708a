import LlmInferenceSystems.Stage2.PendingAccount
import LlmInferenceSystems.Stage2.StreamValidator

/-!
# What the frames of a stream say

The validator checks a frame while it assigns fields. A frame that it takes can be read first, from
the frame and the external id alone; what is left is whether the reading fits what was received
before, and what it adds to it. So the fields the frames determine are a fold over the readings.

## Main definitions

* `StreamReading`, `readFrame`: what a frame says
* `Received`: the fields of a validator that its frames determine
* `Received.Fits`, `Received.after`: the readings that may follow, and what they add
* `Received.FitAll`, `Received.afterAll`: the same of readings in a row

## Main results

* `Stage2StreamValidator.acceptFrame_eq_ok`: a frame is accepted when its reading fits
-/

namespace Stage2

open Python Sse
open Stage2StreamValidator (Generation readGenerationChoice readPrompt)

/-- What a frame says to the validator of a stream. -/
inductive StreamReading where
  | comment
  | done
  | generation (generation : Generation) (prompt : Option (List ℕ))
  | usage (usage : Usage) (serverMetrics : PerRequestMetrics)
deriving DecidableEq

section Reading

variable [Interpreter]

/-- The one choice of a generation event. -/
def readGenerationEvent (choice : Json) : Except PyError StreamReading := do
  let fields ← object choice "choice"
  let generation ← readGenerationChoice fields
  match readPrompt fields with
  | none => return .generation generation none
  | some value => do
    let ids ← tokenIds value "choice.prompt_token_ids"
    return .generation generation (some ids)

/-- The usage and the metrics of a response without choices. -/
def readUsage (value : List (Str × Json)) : Except PyError StreamReading := do
  let fields ← object (get value "usage") "usage"
  match Usage.ofFields fields with
  | none => .error (.stage2Protocol "usage reconciliation failed")
  | some usage =>
    match Json.field value "metrics" with
    | none => .error (.stage2Protocol "usage terminal requires per-request metrics")
    | some raw => do
      let serverMetrics ← metrics raw
      return .usage usage serverMetrics

/-- A completion response. -/
def readResponse (externalBaseId : Str) (value : List (Str × Json)) :
    Except PyError StreamReading :=
  if ¬ isText (responseBodyId externalBaseId) (get value "id") then
    .error (.stage2Protocol "completion response body ID differs")
  else do
    let choices ← array (get value "choices") "choices"
    match choices with
    | [] => readUsage value
    | [choice] => readGenerationEvent choice
    | _ => .error (.stage2Protocol "each generation event must contain exactly one choice")

/-- A frame, by its kind and its data. -/
def readFrame (externalBaseId : Str) (kind : FrameKind) (data : Option Str) :
    Except PyError StreamReading :=
  match kind, data with
  | .comment, _ => .ok .comment
  | .done, _ => .ok .done
  | .data, none => .error (.stage2Protocol "SSE data frame is empty")
  | .data, some data => do
    let decoded ← jsonWithoutDuplicateKeys data
    let value ← object decoded "completion response"
    readResponse externalBaseId value

end Reading

/-! ## The fields the frames determine -/

/-- The fields of a validator that its frames determine. -/
structure Received where
  generationTerminalOffsetNs : Option ℤ := none
  usageTerminalOffsetNs : Option ℤ := none
  protocolTerminalOffsetNs : Option ℤ := none
  tokenEvents : List Stage2TokenEvent := []
  returnedPromptIds : Option (List ℕ) := none
  outputIds : List ℕ := []
  outputTextParts : List Str := []
  usage : Option Usage := none
  serverMetrics : Option PerRequestMetrics := none
  terminalCarriedTokens : Option Bool := none
deriving DecidableEq

namespace Received

/-- The event of a generation that comes with a prompt or without one. The first event carries the
prompt, and none had come before it. -/
def event (received : Received) (offset : ℤ) (generation : Generation) (prompt : Option (List ℕ)) :
    Stage2TokenEvent where
  observationOffsetNs := offset
  outputTokenIds := generation.outputTokenIds
  text := generation.text
  finishReason := generation.finishReason
  promptTokenIds :=
    if received.tokenEvents.isEmpty then prompt.or received.returnedPromptIds else none

/-- The reading may follow what was received. -/
def Fits (received : Received) (offset : ℤ) : StreamReading → Prop
  | .comment => received.protocolTerminalOffsetNs = none
  | .done => received.protocolTerminalOffsetNs = none ∧
      ∃ usageTerminal, received.usageTerminalOffsetNs = some usageTerminal ∧ usageTerminal < offset
  | .generation generation prompt =>
      received.protocolTerminalOffsetNs = none ∧ received.usageTerminalOffsetNs = none ∧
      received.generationTerminalOffsetNs = none ∧
      (prompt ≠ none → received.returnedPromptIds = none) ∧ 0 ≤ offset ∧
      (received.outputIds ++ generation.outputTokenIds).length ≤ 32 ∧
      (generation.finishReason = some .length →
        (received.outputIds ++ generation.outputTokenIds).length = 32)
  | .usage _ _ =>
      received.protocolTerminalOffsetNs = none ∧ received.usageTerminalOffsetNs = none ∧
      ∃ generationTerminal, received.generationTerminalOffsetNs = some generationTerminal ∧
        generationTerminal < offset

theorem Fits.opened {received : Received} {offset : ℤ} {reading : StreamReading}
    (h : received.Fits offset reading) : received.protocolTerminalOffsetNs = none := by
  cases reading with
  | comment => exact h
  | done => exact h.1
  | generation => exact h.1
  | usage => exact h.1

/-- What is received when a reading is added. -/
def after (received : Received) (offset : ℤ) : StreamReading → Received
  | .comment => received
  | .done => { received with protocolTerminalOffsetNs := some offset }
  | .generation generation prompt =>
    { received with
      returnedPromptIds := prompt.or received.returnedPromptIds
      outputIds := received.outputIds ++ generation.outputTokenIds
      outputTextParts := received.outputTextParts ++ [generation.text]
      tokenEvents := received.tokenEvents ++ [received.event offset generation prompt]
      generationTerminalOffsetNs :=
        if generation.finishReason = some .length then some offset
        else received.generationTerminalOffsetNs
      terminalCarriedTokens :=
        if generation.finishReason = some .length then
          some (decide (generation.outputTokenIds ≠ []))
        else received.terminalCarriedTokens }
  | .usage usage serverMetrics =>
    { received with
      usage := some usage
      serverMetrics := some serverMetrics
      usageTerminalOffsetNs := some offset }

/-- Each reading fits what the ones before it have left. -/
def FitAll : Received → List (ℤ × StreamReading) → Prop
  | _, [] => True
  | received, reading :: readings =>
    received.Fits reading.1 reading.2 ∧ (received.after reading.1 reading.2).FitAll readings

/-- What is received when some readings are added. -/
def afterAll (received : Received) (readings : List (ℤ × StreamReading)) : Received :=
  readings.foldl (fun r reading => r.after reading.1 reading.2) received

@[simp] theorem afterAll_nil (received : Received) : received.afterAll [] = received := rfl

@[simp] theorem afterAll_cons (received : Received) (reading : ℤ × StreamReading)
    (readings : List (ℤ × StreamReading)) :
    received.afterAll (reading :: readings) =
      (received.after reading.1 reading.2).afterAll readings := rfl

@[simp] theorem afterAll_append (received : Received) (readings more : List (ℤ × StreamReading)) :
    received.afterAll (readings ++ more) = (received.afterAll readings).afterAll more :=
  List.foldl_append

theorem fitAll_append {received : Received} {readings more : List (ℤ × StreamReading)} :
    received.FitAll (readings ++ more) ↔
      received.FitAll readings ∧ (received.afterAll readings).FitAll more := by
  induction readings generalizing received with
  | nil => simp [FitAll]
  | cons reading readings ih =>
    rw [List.cons_append, FitAll, FitAll, ih, afterAll_cons, and_assoc]

/-- What every reading that fits keeps, readings in a row keep. -/
theorem FitAll.keeps {I : Received → Prop}
    (step : ∀ received offset reading, I received → received.Fits offset reading →
      I (received.after offset reading))
    {received : Received} {readings : List (ℤ × StreamReading)} (hfit : received.FitAll readings)
    (start : I received) : I (received.afterAll readings) := by
  induction readings generalizing received with
  | nil => exact start
  | cons reading readings ih => exact ih hfit.2 (step _ _ _ start hfit.1)

end Received

theorem Stage2TokenEvent.create_eq_ok {event event' : Stage2TokenEvent} :
    event.create = .ok event' ↔ 0 ≤ event.observationOffsetNs ∧ event' = event := by
  unfold create
  split
  · simp [*]
  · simp only [Except.ok.injEq]
    rw [and_iff_right (by omega), eq_comm]

namespace Stage2StreamValidator

/-- The fields the frames determine. -/
def received (v : Stage2StreamValidator) : Received where
  generationTerminalOffsetNs := v.generationTerminalOffsetNs
  usageTerminalOffsetNs := v.usageTerminalOffsetNs
  protocolTerminalOffsetNs := v.protocolTerminalOffsetNs
  tokenEvents := v.tokenEvents
  returnedPromptIds := v.returnedPromptIds
  outputIds := v.outputIds
  outputTextParts := v.outputTextParts
  usage := v.usage
  serverMetrics := v.serverMetrics
  terminalCarriedTokens := v.terminalCarriedTokens

/-- The validator with those fields replaced. -/
def withReceived (v : Stage2StreamValidator) (received : Received) : Stage2StreamValidator :=
  { v with
    generationTerminalOffsetNs := received.generationTerminalOffsetNs
    usageTerminalOffsetNs := received.usageTerminalOffsetNs
    protocolTerminalOffsetNs := received.protocolTerminalOffsetNs
    tokenEvents := received.tokenEvents
    returnedPromptIds := received.returnedPromptIds
    outputIds := received.outputIds
    outputTextParts := received.outputTextParts
    usage := received.usage
    serverMetrics := received.serverMetrics
    terminalCarriedTokens := received.terminalCarriedTokens }

@[simp] theorem received_withReceived (v : Stage2StreamValidator) (received : Received) :
    (v.withReceived received).received = received := rfl

@[simp] theorem withReceived_received (v : Stage2StreamValidator) :
    v.withReceived v.received = v := rfl

/-! ## The methods -/

theorem advance_eq_ok {offset : ℤ} {v v' : Stage2StreamValidator} {u : Unit} :
    advance offset v = (.ok u, v') ↔
      v.lastObservationOffsetNs ≤ offset ∧ v' = { v with lastObservationOffsetNs := offset } := by
  rw [advance, Method.self_bind, Method.guard_eq_ok, Method.assign_apply, not_lt]
  simp [eq_comm]

theorem acceptPrompt_eq_ok {choice : List (Str × Json)} {v v' : Stage2StreamValidator} {u : Unit} :
    acceptPrompt choice v = (.ok u, v') ↔
      (readPrompt choice = none ∧ v' = v) ∨
        ∃ value ids, readPrompt choice = some value ∧
          tokenIds value "choice.prompt_token_ids" = .ok ids ∧ v.returnedPromptIds = none ∧
          v' = { v with returnedPromptIds := some ids } := by
  unfold acceptPrompt
  cases hprompt : readPrompt choice with
  | none => simp [eq_comm]
  | some value =>
    dsimp only
    rw [Method.self_bind, Method.guard_eq_ok, not_not, Method.ofExcept_bind_eq_ok]
    simp only [Method.assign_apply, Prod.mk.injEq, true_and]
    constructor
    · rintro ⟨hnone, ids, hids, rfl⟩
      exact .inr ⟨value, ids, rfl, hids, hnone, rfl⟩
    · rintro (⟨h, -⟩ | ⟨_, ids, ⟨⟩, hids, hnone, rfl⟩)
      · cases h
      · exact ⟨hnone, ids, hids, rfl⟩

/-- A generation is accepted when its ids and its terminal fit. -/
theorem acceptGeneration_eq_ok {generation : Generation} {offset : ℤ}
    {v v' : Stage2StreamValidator} {u : Unit} :
    acceptGeneration generation offset v = (.ok u, v') ↔
      0 ≤ offset ∧ (v.outputIds ++ generation.outputTokenIds).length ≤ 32 ∧
        (generation.finishReason = some .length →
          (v.outputIds ++ generation.outputTokenIds).length = 32) ∧
        v' = v.withReceived (v.received.after offset (.generation generation none)) := by
  unfold acceptGeneration
  rw [Method.assign_bind, Method.self_bind, Method.guard_eq_ok, not_lt, Method.assign_bind,
    Method.ofExcept_bind_eq_ok]
  simp only [Stage2TokenEvent.create_eq_ok, Method.assign_bind]
  by_cases hfinish : generation.finishReason = some .length
  · -- the terminal counts the ids once more
    simp only [hfinish, ↓reduceIte, Method.guard_eq_ok, not_not, Method.assign_apply,
      Prod.mk.injEq, true_and]
    constructor
    · rintro ⟨hids, event, ⟨hoffset, rfl⟩, hlength, rfl⟩
      refine ⟨hoffset, hids, fun _ => hlength, ?_⟩
      simp [withReceived, received, Received.after, Received.event, tokenEvent, hfinish]
    · rintro ⟨hoffset, hids, hlength, rfl⟩
      refine ⟨hids, _, ⟨hoffset, rfl⟩, hlength trivial, ?_⟩
      simp [withReceived, received, Received.after, Received.event, tokenEvent, hfinish]
  -- any other generation is only counted
  · simp only [hfinish, ↓reduceIte, Method.pure_apply, Prod.mk.injEq, true_and]
    constructor
    · rintro ⟨hids, event, ⟨hoffset, rfl⟩, rfl⟩
      refine ⟨hoffset, hids, fun h => h.elim, ?_⟩
      simp [withReceived, received, Received.after, Received.event, tokenEvent, hfinish]
    · rintro ⟨hoffset, hids, -, rfl⟩
      refine ⟨hids, _, ⟨hoffset, rfl⟩, ?_⟩
      simp [withReceived, received, Received.after, Received.event, tokenEvent, hfinish]

section

variable [Interpreter]

/-- The usage terminal is accepted when what it reads fits. -/
theorem acceptUsage_eq_ok {value : List (Str × Json)} {offset : ℤ}
    {v v' : Stage2StreamValidator} {u : Unit} :
    acceptUsage value offset v = (.ok u, v') ↔
      ∃ usage serverMetrics, readUsage value = .ok (.usage usage serverMetrics) ∧
        v.usageTerminalOffsetNs = none ∧
        (∃ terminal, v.generationTerminalOffsetNs = some terminal ∧ terminal < offset) ∧
        v' = v.withReceived (v.received.after offset (.usage usage serverMetrics)) := by
  unfold acceptUsage readUsage
  rw [Method.self_bind]
  -- usage may only come after the last generation
  cases hterminal : v.generationTerminalOffsetNs with
  | none => simp
  | some terminal =>
    dsimp only
    rw [Method.guard_eq_ok, Method.guard_eq_ok, not_not, not_le, Method.ofExcept_bind_eq_ok]
    simp only [bind_eq_ok]
    constructor
    · rintro ⟨husage, hoffset, fields, hfields, h⟩
      cases hof : Usage.ofFields fields with
      -- both the usage and the metrics must be there
      | none => simp [hof] at h
      | some usage =>
        cases hraw : Json.field value "metrics" with
        | none => simp [hof, hraw, Method.assign_bind] at h
        | some raw =>
          rw [hof, hraw] at h
          dsimp only at h
          rw [Method.assign_bind, Method.ofExcept_bind_eq_ok] at h
          obtain ⟨serverMetrics, hmetrics, h⟩ := h
          obtain ⟨-, rfl⟩ := Prod.mk.inj h
          refine ⟨usage, serverMetrics, ⟨fields, hfields, ?_⟩, husage, ⟨terminal, rfl, hoffset⟩, rfl⟩
          rw [hof]
          exact bind_eq_ok.mpr ⟨serverMetrics, hmetrics, rfl⟩
    · rintro ⟨usage, serverMetrics, ⟨fields, hfields, h⟩, husage, ⟨_, ⟨⟩, hoffset⟩, rfl⟩
      refine ⟨husage, hoffset, fields, hfields, ?_⟩
      cases hof : Usage.ofFields fields with
      | none => simp [hof] at h
      | some usage' =>
        cases hraw : Json.field value "metrics" with
        | none => simp [hof, hraw] at h
        | some raw =>
          rw [hof, hraw] at h
          obtain ⟨serverMetrics', hmetrics, h⟩ := bind_eq_ok.mp h
          obtain ⟨rfl, rfl⟩ := StreamReading.usage.inj (Except.ok.inj h)
          dsimp only
          rw [Method.assign_bind, Method.ofExcept_bind_eq_ok]
          exact ⟨serverMetrics', hmetrics, rfl⟩

omit [Interpreter] in
/-- The readings of a generation event. -/
theorem readGenerationEvent_eq_ok {choice : Json} {reading : StreamReading} :
    readGenerationEvent choice = .ok reading ↔
      ∃ fields generation, object choice "choice" = .ok fields ∧
        readGenerationChoice fields = .ok generation ∧
        ((readPrompt fields = none ∧ reading = .generation generation none) ∨
          ∃ value ids, readPrompt fields = some value ∧
            tokenIds value "choice.prompt_token_ids" = .ok ids ∧
            reading = .generation generation (some ids)) := by
  unfold readGenerationEvent
  simp only [bind_eq_ok]
  refine exists_congr fun fields => ?_
  constructor
  · rintro ⟨hfields, generation, hgeneration, h⟩
    refine ⟨generation, hfields, hgeneration, ?_⟩
    cases hprompt : readPrompt fields with
    | none =>
      rw [hprompt] at h
      exact .inl ⟨rfl, (Except.ok.inj h).symm⟩
    | some value =>
      rw [hprompt] at h
      obtain ⟨ids, hids, h⟩ := bind_eq_ok.mp h
      exact .inr ⟨value, ids, rfl, hids, (Except.ok.inj h).symm⟩
  · rintro ⟨generation, hfields, hgeneration, h⟩
    refine ⟨hfields, generation, hgeneration, ?_⟩
    rcases h with ⟨hprompt, rfl⟩ | ⟨value, ids, hprompt, hids, rfl⟩ <;> rw [hprompt]
    · rfl
    · exact bind_eq_ok.mpr ⟨ids, hids, rfl⟩

omit [Interpreter] in
/-- A generation event is accepted when what it reads fits. -/
theorem acceptChoice_eq_ok {choice : Json} {offset : ℤ} {v v' : Stage2StreamValidator} {u : Unit} :
    acceptChoice choice offset v = (.ok u, v') ↔
      ∃ generation prompt, readGenerationEvent choice = .ok (.generation generation prompt) ∧
        v.usageTerminalOffsetNs = none ∧ v.generationTerminalOffsetNs = none ∧
        (prompt ≠ none → v.returnedPromptIds = none) ∧ 0 ≤ offset ∧
        (v.outputIds ++ generation.outputTokenIds).length ≤ 32 ∧
        (generation.finishReason = some .length →
          (v.outputIds ++ generation.outputTokenIds).length = 32) ∧
        v' = v.withReceived (v.received.after offset (.generation generation prompt)) := by
  unfold acceptChoice
  rw [Method.self_bind, Method.guard_eq_ok, not_not, Method.ofExcept_bind_eq_ok]
  constructor
  -- the checks in their order; only the prompt may be absent
  · rintro ⟨husage, fields, hfields, h⟩
    obtain ⟨generation, hgeneration, h⟩ := Method.ofExcept_bind_eq_ok.mp h
    obtain ⟨hterminal, h⟩ := Method.guard_eq_ok.mp h
    obtain ⟨⟨⟩, t, haccept, h⟩ := Method.bind_eq_ok.mp h
    obtain ⟨hoffset, hids, hlength, rfl⟩ := acceptGeneration_eq_ok.mp h
    refine ⟨generation, ?_⟩
    rcases acceptPrompt_eq_ok.mp haccept with
      ⟨hprompt, rfl⟩ | ⟨value, ids, hprompt, hvalue, hnone, rfl⟩
    · have hread := readGenerationEvent_eq_ok.mpr
        ⟨fields, generation, hfields, hgeneration, .inl ⟨hprompt, rfl⟩⟩
      exact ⟨none, hread, husage, not_not.mp hterminal, fun h => (h rfl).elim, hoffset, hids,
        hlength, rfl⟩
    · have hread := readGenerationEvent_eq_ok.mpr
        ⟨fields, generation, hfields, hgeneration, .inr ⟨value, ids, hprompt, hvalue, rfl⟩⟩
      exact ⟨some ids, hread, husage, not_not.mp hterminal, fun _ => hnone, hoffset, hids,
        hlength, rfl⟩
  -- with a prompt it must be the first one
  · rintro ⟨generation, prompt, hread, husage, hterminal, hprompt, hoffset, hids, hlength, rfl⟩
    obtain ⟨fields, generation', hfields, hgeneration, hread⟩ := readGenerationEvent_eq_ok.mp hread
    refine ⟨husage, fields, hfields, Method.ofExcept_bind_eq_ok.mpr ⟨generation', hgeneration, ?_⟩⟩
    refine Method.guard_eq_ok.mpr ⟨not_not.mpr hterminal, Method.bind_eq_ok.mpr ?_⟩
    rcases hread with ⟨hnone, h⟩ | ⟨value, ids, hsome, hvalue, h⟩
    · obtain ⟨rfl, rfl⟩ := StreamReading.generation.inj h
      exact ⟨(), v, acceptPrompt_eq_ok.mpr (.inl ⟨hnone, rfl⟩),
        acceptGeneration_eq_ok.mpr ⟨hoffset, hids, hlength, rfl⟩⟩
    · obtain ⟨rfl, rfl⟩ := StreamReading.generation.inj h
      exact ⟨(), { v with returnedPromptIds := some ids },
        acceptPrompt_eq_ok.mpr (.inr ⟨value, ids, hsome, hvalue, hprompt (by simp), rfl⟩),
        acceptGeneration_eq_ok.mpr ⟨hoffset, hids, hlength, rfl⟩⟩

/-- The readings of a response. -/
theorem readResponse_eq_ok {base : Str} {value : List (Str × Json)} {reading : StreamReading} :
    readResponse base value = .ok reading ↔
      isText (responseBodyId base) (get value "id") ∧
        ((array (get value "choices") "choices" = .ok [] ∧ readUsage value = .ok reading) ∨
          ∃ choice, array (get value "choices") "choices" = .ok [choice] ∧
            readGenerationEvent choice = .ok reading) := by
  unfold readResponse
  by_cases hid : isText (responseBodyId base) (get value "id")
  · rw [if_neg (not_not.mpr hid), bind_eq_ok]
    constructor
    · rintro ⟨choices, hchoices, h⟩
      refine ⟨hid, ?_⟩
      match choices, h with
      | [], h => exact .inl ⟨hchoices, h⟩
      | [choice], h => exact .inr ⟨choice, hchoices, h⟩
    · rintro ⟨-, ⟨hchoices, h⟩ | ⟨choice, hchoices, h⟩⟩
      · exact ⟨[], hchoices, h⟩
      · exact ⟨[choice], hchoices, h⟩
  · simp [hid]

theorem readUsage_usage {value : List (Str × Json)} {reading : StreamReading}
    (h : readUsage value = .ok reading) :
    ∃ usage serverMetrics, reading = .usage usage serverMetrics := by
  unfold readUsage at h
  obtain ⟨fields, -, h⟩ := bind_eq_ok.mp h
  split at h
  · cases h
  · next usage _ =>
    split at h
    · cases h
    · obtain ⟨serverMetrics, -, h⟩ := bind_eq_ok.mp h
      exact ⟨usage, serverMetrics, (Except.ok.inj h).symm⟩

omit [Interpreter] in
theorem readGenerationEvent_generation {choice : Json} {reading : StreamReading}
    (h : readGenerationEvent choice = .ok reading) :
    ∃ generation prompt, reading = .generation generation prompt := by
  obtain ⟨_, generation, -, -, ⟨-, rfl⟩ | ⟨_, ids, -, -, rfl⟩⟩ := readGenerationEvent_eq_ok.mp h
  · exact ⟨generation, none, rfl⟩
  · exact ⟨generation, some ids, rfl⟩

/-- A response is accepted when its reading fits. -/
theorem acceptResponse_eq_ok {value : List (Str × Json)} {offset : ℤ}
    {v v' : Stage2StreamValidator} {u : Unit} (hopen : v.protocolTerminalOffsetNs = none) :
    acceptResponse value offset v = (.ok u, v') ↔
      ∃ reading, readResponse v.request.externalBaseId value = .ok reading ∧
        v.received.Fits offset reading ∧
        v' = v.withReceived (v.received.after offset reading) := by
  unfold acceptResponse
  rw [Method.self_bind, Method.guard_eq_ok, not_not, Method.ofExcept_bind_eq_ok]
  constructor
  · rintro ⟨hid, choices, hchoices, h⟩
    match choices, h with
    | [], h =>
      obtain ⟨usage, serverMetrics, hread, husage, hterminal, rfl⟩ := acceptUsage_eq_ok.mp h
      exact ⟨_, readResponse_eq_ok.mpr ⟨hid, .inl ⟨hchoices, hread⟩⟩, ⟨hopen, husage, hterminal⟩, rfl⟩
    | [choice], h =>
      obtain ⟨generation, prompt, hread, husage, hterminal, hprompt, hoffset, hids, hlength, rfl⟩ :=
        acceptChoice_eq_ok.mp h
      exact ⟨_, readResponse_eq_ok.mpr ⟨hid, .inr ⟨choice, hchoices, hread⟩⟩,
        ⟨hopen, husage, hterminal, hprompt, hoffset, hids, hlength⟩, rfl⟩
  · rintro ⟨reading, hread, hfits, rfl⟩
    obtain ⟨hid, ⟨hchoices, hread⟩ | ⟨choice, hchoices, hread⟩⟩ := readResponse_eq_ok.mp hread
    · obtain ⟨usage, serverMetrics, rfl⟩ := readUsage_usage hread
      obtain ⟨-, husage, hterminal⟩ := hfits
      exact ⟨hid, [], hchoices,
        acceptUsage_eq_ok.mpr ⟨usage, serverMetrics, hread, husage, hterminal, rfl⟩⟩
    · obtain ⟨generation, prompt, rfl⟩ := readGenerationEvent_generation hread
      obtain ⟨-, husage, hterminal, hprompt, hoffset, hids, hlength⟩ := hfits
      exact ⟨hid, [choice], hchoices, acceptChoice_eq_ok.mpr
        ⟨generation, prompt, hread, husage, hterminal, hprompt, hoffset, hids, hlength, rfl⟩⟩

omit [Interpreter] in
theorem acceptDone_eq_ok {offset : ℤ} {v v' : Stage2StreamValidator} {u : Unit} :
    acceptDone offset v = (.ok u, v') ↔
      (∃ terminal, v.usageTerminalOffsetNs = some terminal ∧ terminal < offset) ∧
        v' = v.withReceived (v.received.after offset .done) := by
  unfold acceptDone
  rw [Method.self_bind]
  cases husage : v.usageTerminalOffsetNs with
  | none => simp
  | some terminal =>
    dsimp only
    rw [Method.guard_eq_ok, not_le, Method.assign_apply]
    constructor
    · rintro ⟨hoffset, h⟩
      exact ⟨⟨terminal, rfl, hoffset⟩, (Prod.mk.inj h).2.symm⟩
    · rintro ⟨⟨_, ⟨⟩, hoffset⟩, rfl⟩
      exact ⟨hoffset, rfl⟩

/-- **A frame is accepted when its reading fits** what was received before it. -/
theorem acceptFrame_eq_ok {frame : SSEFrame} {offset : ℤ} {v v' : Stage2StreamValidator}
    {u : Unit} :
    acceptFrame frame offset v = (.ok u, v') ↔
      ∃ reading, readFrame v.request.externalBaseId frame.kind frame.data = .ok reading ∧
        v.received.Fits offset reading ∧
        v' = (v.retain offset frame).withReceived (v.received.after offset reading) := by
  -- a frame is first retained, unless the stream has ended
  obtain ⟨kind, data, comments⟩ := frame
  unfold acceptFrame
  rw [Method.assign_bind, Method.self_bind, Method.guard_eq_ok, not_not]
  change v.protocolTerminalOffsetNs = none ∧ _ ↔ _
  cases kind with
  | comment =>
    constructor
    · rintro ⟨hopen, h⟩
      exact ⟨.comment, rfl, hopen, (Prod.mk.inj h).2.symm⟩
    · rintro ⟨_, ⟨⟩, hopen, rfl⟩
      exact ⟨hopen, rfl⟩
  | done =>
    dsimp only
    rw [acceptDone_eq_ok]
    constructor
    · rintro ⟨hopen, husage, rfl⟩
      exact ⟨.done, rfl, ⟨hopen, husage⟩, rfl⟩
    · rintro ⟨_, ⟨⟩, ⟨hopen, husage⟩, rfl⟩
      exact ⟨hopen, husage, rfl⟩
  | data =>
    cases data with
    | none => simp [readFrame]
    | some data =>
      dsimp only [readFrame]
      rw [Method.ofExcept_bind_eq_ok]
      constructor
      · rintro ⟨hopen, decoded, hdecoded, h⟩
        obtain ⟨value, hvalue, h⟩ := Method.ofExcept_bind_eq_ok.mp h
        have hopen' : (v.retain offset ⟨.data, some data, comments⟩).protocolTerminalOffsetNs = none :=
          hopen
        obtain ⟨reading, hread, hfits, rfl⟩ := (acceptResponse_eq_ok hopen').mp h
        exact ⟨reading,
          bind_eq_ok.mpr ⟨decoded, hdecoded, bind_eq_ok.mpr ⟨value, hvalue, hread⟩⟩, hfits, rfl⟩
      · rintro ⟨reading, hread, hfits, rfl⟩
        obtain ⟨decoded, hdecoded, h⟩ := bind_eq_ok.mp hread
        obtain ⟨value, hvalue, hread⟩ := bind_eq_ok.mp h
        have hopen : (v.retain offset ⟨.data, some data, comments⟩).protocolTerminalOffsetNs = none :=
          hfits.opened
        exact ⟨hopen, decoded, hdecoded, Method.ofExcept_bind_eq_ok.mpr
          ⟨value, hvalue, (acceptResponse_eq_ok hopen).mpr ⟨reading, hread, hfits, rfl⟩⟩⟩

end

end Stage2StreamValidator

end Stage2
