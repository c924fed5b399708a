import LlmInferenceSystems.Stage2.StreamRuns

/-!
# The grammar of an accepted stream

A stream that ends in evidence is, apart from comments before `[DONE]`, some generation responses,
then one usage response and one `[DONE]`. Only the last generation has a finish reason and only the
first one returns the prompt.

## Main definitions

* `Says`: what the data of a frame is, for each of the readings
* `FourTerminals`: the readings of a stream that ends in evidence

## Main results

* `readFrame_eq_ok`: a frame is read as what it says
* `FourTerminals.allReceived`: what such readings leave
* `Received.FitAll.fourTerminals`: readings that fit and bring all terminals are of that form
-/

namespace Stage2

open Python Sse
open Stage2StreamValidator (Generation readGenerationChoice readPrompt readFinishReason
  readResponse_eq_ok readGenerationEvent_eq_ok)

/-! ## What a frame says -/

/-- An array of token ids. -/
def IsTokenArray (value : Json) (ids : List ℕ) : Prop :=
  value = .arr (ids.map fun id : ℕ => .int id)

/-- A response with one choice, which generates some tokens. -/
structure GenerationResponse (base : Str) (value choice : List (Str × Json))
    (generation : Generation) (prompt : Option (List ℕ)) : Prop where
  id : get value "id" = .str (responseBodyId base)
  choices : get value "choices" = .arr [.obj choice]
  index : (get choice "index").isZero = true
  text : get choice "text" = .str generation.text
  tokens : IsTokenArray ((Json.field choice "token_ids").getD (.arr [])) generation.outputTokenIds
  finish : (get choice "finish_reason" = .null ∧ generation.finishReason = none) ∨
    get choice "finish_reason" = .str (lit "length") ∧ generation.finishReason = some .length
  prompt : (get choice "prompt_token_ids" = .null ∧ prompt = none) ∨
    ∃ ids, IsTokenArray (get choice "prompt_token_ids") ids ∧ prompt = some ids

/-- A metric: `null`, or a finite number that is not negative. -/
def IsMetric (value : Json) : Prop :=
  value = .null ∨ (∃ n : ℤ, value = .int n ∧ ∃ q, PyFloat.ofInt n = some (.finite q) ∧ 0 ≤ q) ∨
    ∃ q, value = .float (.finite q) ∧ 0 ≤ q

/-- The five metrics, and no other. -/
def IsMetrics (raw : List (Str × Json)) : Prop :=
  (∀ f ∈ raw, f.1 ∈ metricNames.map lit ∧ IsMetric f.2) ∧
    ∀ name ∈ metricNames, Json.field raw name ≠ none

section

variable [Interpreter]

/-- A response without choices, with the usage and its metrics. -/
structure UsageResponse (base : Str) (value fields raw : List (Str × Json)) : Prop where
  id : get value "id" = .str (responseBodyId base)
  choices : get value "choices" = .arr []
  usage : get value "usage" = .obj fields
  names : ∀ f ∈ fields, f.1 ∈ ["prompt_tokens", "completion_tokens", "total_tokens"].map lit
  prompt : (Json.field fields "prompt_tokens").any (isLiteral 64) = true
  completion : (Json.field fields "completion_tokens").any (isLiteral 32) = true
  total : (Json.field fields "total_tokens").any (isLiteral 96) = true
  metrics : Json.field value "metrics" = some (.obj raw)
  values : IsMetrics raw

/-- What a frame says to the validator of a request. -/
inductive Says (base : Str) : FrameKind → Option Str → StreamReading → Prop
  | comment (data : Option Str) : Says base .comment data .comment
  | done (data : Option Str) : Says base .done data .done
  | generation {data : Str} {value choice : List (Str × Json)} {generation : Generation}
      {prompt : Option (List ℕ)} (decoded : jsonWithoutDuplicateKeys data = .ok (.obj value))
      (response : GenerationResponse base value choice generation prompt) :
      Says base .data (some data) (.generation generation prompt)
  | usage {data : Str} {value fields raw : List (Str × Json)} {serverMetrics : PerRequestMetrics}
      (decoded : jsonWithoutDuplicateKeys data = .ok (.obj value))
      (response : UsageResponse base value fields raw)
      (read : PerRequestMetrics.ofFields raw = some serverMetrics) :
      Says base .data (some data) (.usage ⟨64, 32, 96⟩ serverMetrics)

/-! ### The readers -/

omit [Interpreter] in
theorem object_eq_ok {value : Json} {field : String} {fields : List (Str × Json)} :
    object value field = .ok fields ↔ value = .obj fields := by
  cases value <;> simp [object]

omit [Interpreter] in
theorem array_eq_ok {value : Json} {field : String} {items : List Json} :
    array value field = .ok items ↔ value = .arr items := by
  cases value <;> simp [array]

omit [Interpreter] in
theorem tokenId_eq_some {value : Json} {id : ℕ} : tokenId value = some id ↔ value = .int id := by
  cases value with
  | int n =>
    simp only [tokenId, Json.int.injEq]
    split
    · constructor
      · rintro ⟨⟩
      · rintro rfl
        omega
    · rw [Option.some.injEq]
      omega
  | _ => simp [tokenId]

omit [Interpreter] in
theorem tokenIds_eq_ok {value : Json} {field : String} {ids : List ℕ} :
    tokenIds value field = .ok ids ↔ IsTokenArray value ids := by
  -- -- the list comprehension keeps exactly the lists of integers
  have hall : ∀ items : List Json, items.mapM tokenId = some ids ↔
      items = ids.map fun id : ℕ => .int id := by
    intro items
    induction items generalizing ids with
    | nil => cases ids <;> simp
    | cons item items ih =>
      rw [List.mapM_cons]
      simp only [Option.bind_eq_bind, Option.bind_eq_some_iff, Option.pure_def, Option.some.injEq]
      constructor
      · rintro ⟨id, hid, rest, hrest, rfl⟩
        rw [List.map_cons, tokenId_eq_some.mp hid, ih.mp hrest]
      · intro h
        cases ids with
        | nil => cases h
        | cons id ids =>
          obtain ⟨hitem, hitems⟩ := List.cons.inj h
          exact ⟨id, tokenId_eq_some.mpr hitem, ids, ih.mpr hitems, rfl⟩
  unfold tokenIds IsTokenArray
  -- -- what is no array is refused before its items are read
  cases harray : array value field with
  | error e =>
    have hvalue : ∀ items, value ≠ .arr items := fun items h => by
      rw [array_eq_ok.mpr h] at harray
      cases harray
    simp [hvalue]
  | ok items =>
    obtain rfl := array_eq_ok.mp harray
    dsimp only
    cases hmap : items.mapM tokenId with
    | none =>
      have hne : items ≠ ids.map fun id : ℕ => .int id := fun h => by
        rw [(hall items).mpr h] at hmap
        cases hmap
      simp [hne]
    | some ids' =>
      rw [Except.ok.injEq, Json.arr.injEq, ← hall items, hmap, Option.some.injEq]

omit [Interpreter] in
theorem readFinishReason_eq_ok {value : Json} {reason : Option FinishReason} :
    readFinishReason value = .ok reason ↔
      (value = .null ∧ reason = none) ∨ value = .str (lit "length") ∧ reason = some .length := by
  unfold readFinishReason
  split
  · simp [eq_comm]
  · split
    · next htext => simp [htext, eq_comm]
    · next htext => simp [htext]
  · next hnull hstr =>
    constructor
    · rintro ⟨⟩
    · rintro (⟨h, -⟩ | ⟨h, -⟩)
      · exact (hnull h).elim
      · exact (hstr _ h).elim

omit [Interpreter] in
/-- A choice is read when its index, its text, its ids and its finish reason are. -/
theorem readGenerationChoice_eq_ok {choice : List (Str × Json)} {generation : Generation} :
    readGenerationChoice choice = .ok generation ↔
      (get choice "index").isZero = true ∧ get choice "text" = .str generation.text ∧
        IsTokenArray ((Json.field choice "token_ids").getD (.arr [])) generation.outputTokenIds ∧
        ((get choice "finish_reason" = .null ∧ generation.finishReason = none) ∨
          get choice "finish_reason" = .str (lit "length") ∧
            generation.finishReason = some .length) := by
  unfold readGenerationChoice
  by_cases hindex : (get choice "index").isZero = true
  · rw [if_neg (not_not.mpr hindex)]
    constructor
    · intro h
      split at h
      · next text htext =>
        obtain ⟨ids, hids, h⟩ := bind_eq_ok.mp h
        obtain ⟨reason, hreason, h⟩ := bind_eq_ok.mp h
        obtain rfl := Except.ok.inj h
        exact ⟨hindex, htext, tokenIds_eq_ok.mp hids, readFinishReason_eq_ok.mp hreason⟩
      · cases h
    · rintro ⟨-, htext, hids, hreason⟩
      rw [htext]
      exact bind_eq_ok.mpr ⟨_, tokenIds_eq_ok.mpr hids,
        bind_eq_ok.mpr ⟨_, readFinishReason_eq_ok.mpr hreason, rfl⟩⟩
  · simp [hindex]

omit [Interpreter] in
theorem metricFails_eq_false {value : Json} : metricFails value = .ok false ↔ IsMetric value := by
  unfold metricFails IsMetric
  cases value with
  | null => simp
  | int n =>
    dsimp only
    cases hn : PyFloat.ofInt n with
    | none => simp [hn]
    | some x =>
      -- a float of an integer is finite
      obtain ⟨q, rfl⟩ : ∃ q, x = .finite q := by
        unfold PyFloat.ofInt at hn
        split at hn
        · next q _ => exact ⟨q, (Option.some.inj hn).symm⟩
        · cases hn
      simp [hn, PyFloat.isNegative]
  | float x => cases x <;> simp [PyFloat.isFinite, PyFloat.isNegative]
  | _ => simp

omit [Interpreter] in
theorem isMetrics_of_ofFields {raw : List (Str × Json)} {serverMetrics : PerRequestMetrics}
    (hvalues : ∀ f ∈ raw, IsMetric f.2)
    (h : PerRequestMetrics.ofFields raw = some serverMetrics) : IsMetrics raw := by
  unfold PerRequestMetrics.ofFields at h
  dsimp only at h
  obtain ⟨⟨⟩, hnames, h⟩ := Option.bind_eq_some_iff.mp h
  simp only [Option.bind_eq_bind, Option.bind_eq_some_iff] at h
  obtain ⟨_, ⟨_, h₁, -⟩, _, ⟨_, h₂, -⟩, _, ⟨_, h₃, -⟩, _, ⟨_, h₄, -⟩, _, ⟨_, h₅, -⟩, -⟩ := h
  refine ⟨fun f hf => ⟨?_, hvalues f hf⟩, ?_⟩
  · unfold guard at hnames
    split at hnames
    · next hall => exact hall f hf
    · cases hnames
  · simp only [metricNames, List.forall_mem_cons, List.not_mem_nil, false_implies, implies_true,
      and_true, h₁, h₂, h₃, h₄, h₅]
    simp

omit [Interpreter] in
theorem metrics_eq_ok {value : Json} {serverMetrics : PerRequestMetrics} :
    metrics value = .ok serverMetrics ↔ ∃ raw, value = .obj raw ∧ IsMetrics raw ∧
      PerRequestMetrics.ofFields raw = some serverMetrics := by
  unfold metrics
  constructor
  · intro h
    split at h
    · cases h
    · next raw hraw =>
      split at h
      · cases h
      · cases h
      · next hfails =>
        split at h
        · cases h
        · next m hm =>
          obtain rfl := Except.ok.inj h
          -- -- no value of the object is refused, and it has the five fields of the type
          have hmetrics : ∀ f ∈ raw, IsMetric f.2 := fun f hf =>
            metricFails_eq_false.mp (anyOf_eq_false.mp hfails _ (List.mem_map_of_mem hf))
          refine ⟨raw, object_eq_ok.mp hraw, ?_, hm⟩
          exact isMetrics_of_ofFields hmetrics hm
  · rintro ⟨raw, rfl, hmetrics, hread⟩
    -- -- back, each check passes on a value that is a metric
    have hfails : anyOf (raw.map fun f => metricFails f.2) = .ok false :=
      anyOf_eq_false.mpr fun check hcheck => by
        obtain ⟨f, hf, rfl⟩ := List.mem_map.mp hcheck
        exact metricFails_eq_false.mpr (hmetrics.1 f hf).2
    rw [object_eq_ok.mpr rfl]
    dsimp only
    rw [hfails]
    dsimp only
    rw [hread]

theorem usageOfFields_eq_some {fields : List (Str × Json)} {usage : Usage} :
    Usage.ofFields fields = some usage ↔ usage = ⟨64, 32, 96⟩ ∧
      (∀ f ∈ fields, f.1 ∈ ["prompt_tokens", "completion_tokens", "total_tokens"].map lit) ∧
      (Json.field fields "prompt_tokens").any (isLiteral 64) = true ∧
      (Json.field fields "completion_tokens").any (isLiteral 32) = true ∧
      (Json.field fields "total_tokens").any (isLiteral 96) = true := by
  unfold Usage.ofFields
  dsimp only
  constructor
  · intro h
    split at h
    · next hfields => exact ⟨(Option.some.inj h).symm, hfields⟩
    · cases h
  · rintro ⟨rfl, hfields⟩
    rw [if_pos hfields]

/-- The readings of a response without choices. -/
theorem readUsage_eq_ok {value : List (Str × Json)} {reading : StreamReading} :
    readUsage value = .ok reading ↔ ∃ fields usage raw serverMetrics,
      get value "usage" = .obj fields ∧ Usage.ofFields fields = some usage ∧
        Json.field value "metrics" = some raw ∧ metrics raw = .ok serverMetrics ∧
        reading = .usage usage serverMetrics := by
  unfold readUsage
  simp only [bind_eq_ok, object_eq_ok]
  refine exists_congr fun fields => ?_
  constructor
  · rintro ⟨hfields, h⟩
    split at h
    · cases h
    · next usage husage =>
      split at h
      · cases h
      · next raw hraw =>
        obtain ⟨serverMetrics, hmetrics, h⟩ := bind_eq_ok.mp h
        exact ⟨usage, raw, serverMetrics, hfields, husage, hraw, hmetrics, (Except.ok.inj h).symm⟩
  · rintro ⟨usage, raw, serverMetrics, hfields, husage, hraw, hmetrics, rfl⟩
    refine ⟨hfields, ?_⟩
    rw [husage, hraw]
    exact bind_eq_ok.mpr ⟨serverMetrics, hmetrics, rfl⟩

omit [Interpreter] in
theorem isText_iff {text : Str} {value : Json} : isText text value ↔ value = .str text := by
  cases value <;> simp [isText]

omit [Interpreter] in
theorem readPrompt_eq_none {choice : List (Str × Json)} :
    readPrompt choice = none ↔ get choice "prompt_token_ids" = .null := by
  unfold readPrompt
  cases get choice "prompt_token_ids" <;> simp [Json.isNull]

omit [Interpreter] in
theorem readPrompt_eq_some {choice : List (Str × Json)} {value : Json} :
    readPrompt choice = some value ↔ get choice "prompt_token_ids" = value ∧ value ≠ .null := by
  unfold readPrompt
  cases get choice "prompt_token_ids" <;> simp [Json.isNull] <;> rintro rfl <;> simp

/-- **A frame is read as what it says.** -/
theorem readFrame_eq_ok {base : Str} {kind : FrameKind} {data : Option Str}
    {reading : StreamReading} :
    readFrame base kind data = .ok reading ↔ Says base kind data reading := by
  -- -- the branches of the reader are the constructors of what a frame can say
  constructor
  · intro h
    unfold readFrame at h
    split at h
    · obtain rfl := Except.ok.inj h
      exact .comment _
    · obtain rfl := Except.ok.inj h
      exact .done _
    · cases h
    · obtain ⟨decoded, hdecoded, h⟩ := bind_eq_ok.mp h
      obtain ⟨value, hvalue, h⟩ := bind_eq_ok.mp h
      obtain rfl := object_eq_ok.mp hvalue
      -- -- an empty list of choices is the usage event
      obtain ⟨hid, ⟨hchoices, h⟩ | ⟨choice, hchoices, h⟩⟩ := readResponse_eq_ok.mp h
      · obtain ⟨fields, usage, raw, serverMetrics, hfields, husage, hraw, hmetrics, rfl⟩ :=
          readUsage_eq_ok.mp h
        obtain ⟨rfl, hnames, hprompt, hcompletion, htotal⟩ := usageOfFields_eq_some.mp husage
        obtain ⟨raw, rfl, hvalues, hread⟩ := metrics_eq_ok.mp hmetrics
        exact .usage hdecoded ⟨isText_iff.mp hid, array_eq_ok.mp hchoices, hfields, hnames, hprompt,
          hcompletion, htotal, hraw, hvalues⟩ hread
      · obtain ⟨fields, generation, hfields, hgeneration, hprompts⟩ :=
          readGenerationEvent_eq_ok.mp h
        obtain rfl := object_eq_ok.mp hfields
        obtain ⟨hindex, htext, hids, hfinish⟩ := readGenerationChoice_eq_ok.mp hgeneration
        rcases hprompts with ⟨hprompt, rfl⟩ | ⟨value, ids, hprompt, hvalue, rfl⟩
        · exact .generation hdecoded ⟨isText_iff.mp hid, array_eq_ok.mp hchoices, hindex, htext,
            hids, hfinish, .inl ⟨readPrompt_eq_none.mp hprompt, rfl⟩⟩
        · obtain ⟨rfl, -⟩ := readPrompt_eq_some.mp hprompt
          exact .generation hdecoded ⟨isText_iff.mp hid, array_eq_ok.mp hchoices, hindex, htext,
            hids, hfinish, .inr ⟨ids, tokenIds_eq_ok.mp hvalue, rfl⟩⟩
  -- -- back, one constructor at a time
  · intro h
    cases h with
    | comment => rfl
    | done => rfl
    | generation hdecoded h =>
      refine bind_eq_ok.mpr ⟨_, hdecoded, bind_eq_ok.mpr ⟨_, rfl, ?_⟩⟩
      refine readResponse_eq_ok.mpr ⟨isText_iff.mpr h.id, .inr ⟨_, array_eq_ok.mpr h.choices, ?_⟩⟩
      have hchoice := readGenerationChoice_eq_ok.mpr ⟨h.index, h.text, h.tokens, h.finish⟩
      refine readGenerationEvent_eq_ok.mpr ⟨_, _, rfl, hchoice, ?_⟩
      rcases h.prompt with ⟨hnull, rfl⟩ | ⟨ids, hids, rfl⟩
      · exact .inl ⟨readPrompt_eq_none.mpr hnull, rfl⟩
      · refine .inr ⟨_, ids, readPrompt_eq_some.mpr ⟨rfl, ?_⟩, tokenIds_eq_ok.mpr hids, rfl⟩
        rw [hids]
        exact Json.noConfusion
    | usage hdecoded h hread =>
      refine bind_eq_ok.mpr ⟨_, hdecoded, bind_eq_ok.mpr ⟨_, rfl, ?_⟩⟩
      refine readResponse_eq_ok.mpr ⟨isText_iff.mpr h.id, .inl ⟨array_eq_ok.mpr h.choices, ?_⟩⟩
      exact readUsage_eq_ok.mpr ⟨_, _, _, _, h.usage,
        usageOfFields_eq_some.mpr ⟨rfl, h.names, h.prompt, h.completion, h.total⟩, h.metrics,
        metrics_eq_ok.mpr ⟨_, rfl, h.values, hread⟩, rfl⟩

end

/-! ## The four terminals -/

/-- The readings of some generations, of which the first returns the prompt. -/
def generationReadings (sent : List ℕ) (generations : List (ℤ × Generation)) :
    List (ℤ × StreamReading) :=
  generations.mapIdx fun i g => (g.1, .generation g.2 (if i = 0 then some sent else none))

theorem generationReadings_concat (sent : List ℕ) (generations : List (ℤ × Generation))
    (g : ℤ × Generation) :
    generationReadings sent (generations ++ [g]) = generationReadings sent generations ++
      [(g.1, .generation g.2 (if generations.length = 0 then some sent else none))] := by
  simp [generationReadings, List.mapIdx_append]

/-- The readings other than comments. -/
def responses (readings : List (ℤ × StreamReading)) : List (ℤ × StreamReading) :=
  readings.filter fun reading => reading.2 ≠ .comment

/-- The readings of a stream with all terminals, apart from comments before `[DONE]`: generations
with 32 ids in all, of which the last one has a finish reason and the first one returns the prompt,
then the usage, then `[DONE]` and nothing more. -/
structure FourTerminals (sent : List ℕ) (readings : List (ℤ × StreamReading))
    (generations : List (ℤ × Generation)) (terminal : ℤ × Generation) (usageOffset : ℤ)
    (usage : Usage) (serverMetrics : PerRequestMetrics) (doneOffset : ℤ) : Prop where
  order : responses readings = generationReadings sent (generations ++ [terminal]) ++
    [(usageOffset, .usage usage serverMetrics), (doneOffset, .done)]
  last : readings.getLast? = some (doneOffset, .done)
  unfinished : ∀ g ∈ generations, g.2.finishReason = none
  finished : terminal.2.finishReason = some .length
  ids : ((generations ++ [terminal]).flatMap (·.2.outputTokenIds)).length = 32
  usageAfter : terminal.1 < usageOffset
  doneAfter : usageOffset < doneOffset

namespace Received

/-! ### What the terminals leave -/

/-- Comments leave nothing. -/
theorem afterAll_responses (received : Received) (readings : List (ℤ × StreamReading)) :
    received.afterAll (responses readings) = received.afterAll readings := by
  induction readings generalizing received with
  | nil => rfl
  | cons reading readings ih =>
    obtain ⟨offset, reading⟩ := reading
    cases reading with
    | comment =>
      rw [afterAll_cons, ← ih]
      rfl
    | _ =>
      rw [responses, List.filter_cons_of_pos (by simp), afterAll_cons, afterAll_cons, ← responses,
        ih]

/-- The token event of a generation. -/
def generationEvent (g : ℤ × Generation) (prompt : Option (List ℕ)) : Stage2TokenEvent where
  observationOffsetNs := g.1
  outputTokenIds := g.2.outputTokenIds
  text := g.2.text
  finishReason := g.2.finishReason
  promptTokenIds := prompt

/-- The token events of some generations. -/
def generationEvents (sent : List ℕ) (generations : List (ℤ × Generation)) :
    List Stage2TokenEvent :=
  generations.mapIdx fun i g => generationEvent g (if i = 0 then some sent else none)

theorem generationEvents_concat (sent : List ℕ) (generations : List (ℤ × Generation))
    (g : ℤ × Generation) :
    generationEvents sent (generations ++ [g]) = generationEvents sent generations ++
      [generationEvent g (if generations.length = 0 then some sent else none)] := by
  simp [generationEvents, List.mapIdx_append]

/-- What some generations leave, but for the terminal. -/
structure Generated (sent : List ℕ) (generations : List (ℤ × Generation)) (r : Received) :
    Prop where
  events : r.tokenEvents = generationEvents sent generations
  prompt : r.returnedPromptIds = if generations = [] then none else some sent
  ids : r.outputIds = generations.flatMap (·.2.outputTokenIds)
  texts : r.outputTextParts = generations.map (·.2.text)

theorem generated_afterAll (sent : List ℕ) (generations : List (ℤ × Generation)) :
    Generated sent generations (afterAll {} (generationReadings sent generations)) := by
  induction generations using List.reverseRecOn with
  | nil => exact ⟨rfl, rfl, rfl, rfl⟩
  | append_singleton generations g ih =>
    rw [generationReadings_concat, afterAll_append, afterAll_cons, afterAll_nil]
    set r := afterAll {} (generationReadings sent generations)
    have hempty : r.tokenEvents.isEmpty = decide (generations.length = 0) := by
      rw [ih.events]
      cases generations <;> simp [generationEvents]
    constructor
    · rw [generationEvents_concat, ← ih.events]
      simp only [after, event, generationEvent, hempty, ih.prompt, decide_eq_true_eq]
      by_cases hnil : generations = []
      · simp [hnil]
      · simp [hnil]
    · simp only [after, ih.prompt]
      by_cases hnil : generations = []
      · simp [hnil]
      · simp [hnil]
    · simp [after, ih.ids]
    · simp [after, ih.texts]

end Received

/-- What the readings of a stream with all terminals leave. -/
structure AllReceived (sent : List ℕ) (generations : List (ℤ × Generation))
    (terminal : ℤ × Generation) (usageOffset : ℤ) (usage : Usage)
    (serverMetrics : PerRequestMetrics) (doneOffset : ℤ) (r : Received) : Prop where
  generated : r.Generated sent (generations ++ [terminal])
  generationTerminal : r.generationTerminalOffsetNs = some terminal.1
  carried : r.terminalCarriedTokens = some (decide (terminal.2.outputTokenIds ≠ []))
  usage : r.usage = some usage
  serverMetrics : r.serverMetrics = some serverMetrics
  usageTerminal : r.usageTerminalOffsetNs = some usageOffset
  protocolTerminal : r.protocolTerminalOffsetNs = some doneOffset

section

variable {sent : List ℕ} {readings : List (ℤ × StreamReading)}
  {generations : List (ℤ × Generation)} {terminal : ℤ × Generation} {usageOffset doneOffset : ℤ}
  {usage : Usage} {serverMetrics : PerRequestMetrics}

/-- **What the readings of a stream with all terminals leave.** -/
theorem FourTerminals.allReceived (h : FourTerminals sent readings generations terminal usageOffset
      usage serverMetrics doneOffset) :
    AllReceived sent generations terminal usageOffset usage serverMetrics doneOffset
      (Received.afterAll {} readings) := by
  have hgenerated := Received.generated_afterAll sent (generations ++ [terminal])
  rw [← Received.afterAll_responses, h.order, Received.afterAll_append]
  have hterminal : ∀ r : Received, (r.after terminal.1 (.generation terminal.2
      (if generations.length = 0 then some sent else none))).generationTerminalOffsetNs =
        some terminal.1 := by
    intro r
    simp [Received.after, h.finished]
  have hcarried : ∀ r : Received, (r.after terminal.1 (.generation terminal.2
      (if generations.length = 0 then some sent else none))).terminalCarriedTokens =
        some (decide (terminal.2.outputTokenIds ≠ [])) := by
    intro r
    simp [Received.after, h.finished]
  refine ⟨⟨hgenerated.events, hgenerated.prompt, hgenerated.ids, hgenerated.texts⟩, ?_, ?_, rfl,
    rfl, rfl, rfl⟩
  · rw [generationReadings_concat, Received.afterAll_append]
    exact hterminal _
  · rw [generationReadings_concat, Received.afterAll_append]
    exact hcarried _

end

/-! ### Readings that bring all terminals -/

namespace Received

/-- Readings that fit still fit without the comments. -/
theorem FitAll.responses {received : Received} {readings : List (ℤ × StreamReading)}
    (h : received.FitAll readings) : received.FitAll (Stage2.responses readings) := by
  induction readings generalizing received with
  | nil => trivial
  | cons reading readings ih =>
    obtain ⟨offset, reading⟩ := reading
    cases reading with
    | comment => exact ih h.2
    | _ =>
      rw [Stage2.responses, List.filter_cons_of_pos (by simp)]
      exact ⟨h.1, ih h.2⟩

variable {readings : List (ℤ × StreamReading)}

/-- The last of some readings that fit. -/
theorem fitAll_concat {received : Received} {reading : ℤ × StreamReading} :
    received.FitAll (readings ++ [reading]) ↔
      received.FitAll readings ∧ (received.afterAll readings).Fits reading.1 reading.2 := by
  rw [fitAll_append, FitAll, FitAll, and_true]

theorem afterAll_concat (received : Received) (reading : ℤ × StreamReading) :
    received.afterAll (readings ++ [reading]) =
      (received.afterAll readings).after reading.1 reading.2 := by
  rw [afterAll_append, afterAll_cons, afterAll_nil]

/-- `[DONE]` comes last, after the usage. -/
theorem exists_done {doneOffset : ℤ} (hfit : FitAll {} readings)
    (hdone : (afterAll {} readings).protocolTerminalOffsetNs = some doneOffset) :
    ∃ init usageOffset, readings = init ++ [(doneOffset, .done)] ∧ FitAll {} init ∧
      (afterAll {} init).protocolTerminalOffsetNs = none ∧
      (afterAll {} init).usageTerminalOffsetNs = some usageOffset ∧ usageOffset < doneOffset := by
  rcases List.eq_nil_or_concat' readings with rfl | ⟨init, ⟨offset, reading⟩, rfl⟩
  · cases hdone
  · obtain ⟨hinit, hfits⟩ := fitAll_concat.mp hfit
    rw [afterAll_concat] at hdone
    have hopen := hfits.opened
    cases reading with
    | done =>
      obtain rfl := Option.some.inj hdone
      obtain ⟨-, usageOffset, husage, hlt⟩ := hfits
      exact ⟨init, usageOffset, rfl, hinit, hopen, husage, hlt⟩
    | _ =>
      -- no other reading sets the terminal
      rw [show (afterAll {} init).protocolTerminalOffsetNs = some doneOffset from hdone] at hopen
      cases hopen

/-- The usage comes after the terminal of the generation, and before it there is none. -/
theorem exists_usage {usageOffset : ℤ} (hcomments : ∀ r ∈ readings, r.2 ≠ .comment)
    (hfit : FitAll {} readings) (hopen : (afterAll {} readings).protocolTerminalOffsetNs = none)
    (husage : (afterAll {} readings).usageTerminalOffsetNs = some usageOffset) :
    ∃ init usage serverMetrics terminal,
      readings = init ++ [(usageOffset, .usage usage serverMetrics)] ∧ FitAll {} init ∧
      (afterAll {} init).protocolTerminalOffsetNs = none ∧
      (afterAll {} init).usageTerminalOffsetNs = none ∧
      (afterAll {} init).generationTerminalOffsetNs = some terminal ∧ terminal < usageOffset := by
  rcases List.eq_nil_or_concat' readings with rfl | ⟨init, ⟨offset, reading⟩, rfl⟩
  · cases husage
  · obtain ⟨hinit, hfits⟩ := fitAll_concat.mp hfit
    rw [afterAll_concat] at husage hopen
    cases reading with
    | comment => exact (hcomments (offset, .comment) (by simp) rfl).elim
    | done => cases hopen
    | generation =>
      -- a generation fits before the usage alone, and leaves it unset
      obtain ⟨-, hnone, -⟩ := hfits
      rw [show (afterAll {} init).usageTerminalOffsetNs = some usageOffset from husage] at hnone
      cases hnone
    | usage usage serverMetrics =>
      obtain rfl := Option.some.inj husage
      obtain ⟨hprotocol, hnone, terminal, hterminal, hlt⟩ := hfits
      exact ⟨init, usage, serverMetrics, terminal, rfl, hinit, hprotocol, hnone, hterminal, hlt⟩

/-- The last generation before the usage has a finish reason, and all ids are there by then. -/
theorem exists_terminal {terminalOffset : ℤ} (hcomments : ∀ r ∈ readings, r.2 ≠ .comment)
    (hfit : FitAll {} readings) (hopen : (afterAll {} readings).protocolTerminalOffsetNs = none)
    (husage : (afterAll {} readings).usageTerminalOffsetNs = none)
    (hterminal : (afterAll {} readings).generationTerminalOffsetNs = some terminalOffset) :
    ∃ init generation prompt,
      readings = init ++ [(terminalOffset, .generation generation prompt)] ∧ FitAll {} init ∧
      (afterAll {} init).generationTerminalOffsetNs = none ∧
      (afterAll {} init).usageTerminalOffsetNs = none ∧
      (afterAll {} init).protocolTerminalOffsetNs = none ∧
      generation.finishReason = some .length ∧ (afterAll {} readings).outputIds.length = 32 := by
  rcases List.eq_nil_or_concat' readings with rfl | ⟨init, ⟨offset, reading⟩, rfl⟩
  · cases hterminal
  · obtain ⟨hinit, hfits⟩ := fitAll_concat.mp hfit
    rw [afterAll_concat] at husage hopen hterminal ⊢
    cases reading with
    | comment => exact (hcomments (offset, .comment) (by simp) rfl).elim
    | done => cases hopen
    | usage => cases husage
    | generation generation prompt =>
      obtain ⟨hprotocol, hnone, hunset, -, -, -, hlength⟩ := hfits
      have hfinish : generation.finishReason = some .length := by
        by_contra hfinish
        rw [after, if_neg hfinish, hunset] at hterminal
        cases hterminal
      rw [after, if_pos hfinish] at hterminal
      obtain rfl := Option.some.inj hterminal
      exact ⟨init, generation, prompt, rfl, hinit, hunset, hnone, hprotocol, hfinish,
        hlength hfinish⟩

/-- Before any terminal there are generations without a finish reason. -/
theorem unfinished_of_fitAll (hcomments : ∀ r ∈ readings, r.2 ≠ .comment)
    (hfit : FitAll {} readings) (hopen : (afterAll {} readings).protocolTerminalOffsetNs = none)
    (husage : (afterAll {} readings).usageTerminalOffsetNs = none)
    (hterminal : (afterAll {} readings).generationTerminalOffsetNs = none) :
    ∀ r ∈ readings, ∃ generation prompt, r.2 = .generation generation prompt ∧
      generation.finishReason = none := by
  -- -- by induction from the end: a later reading leaves an offset that is set
  induction readings using List.reverseRecOn with
  | nil => simp
  | append_singleton init reading ih =>
    obtain ⟨offset, reading⟩ := reading
    obtain ⟨hinit, hfits⟩ := fitAll_concat.mp hfit
    rw [afterAll_concat] at husage hopen hterminal
    cases reading with
    | comment => exact (hcomments (offset, .comment) (by simp) rfl).elim
    | done => cases hopen
    | usage => cases husage
    | generation generation prompt =>
      obtain ⟨hprotocol, hnone, hunset, -⟩ := hfits
      -- -- a finish reason would have set the terminal offset
      have hfinish : generation.finishReason = none := by
        cases hreason : generation.finishReason with
        | none => rfl
        | some reason =>
          cases reason
          rw [after, if_pos hreason] at hterminal
          cases hterminal
      intro r hr
      rcases List.mem_append.mp hr with hr | hr
      · exact ih (fun r hr => hcomments r (by simp [hr])) hinit hprotocol hnone hunset r hr
      · obtain rfl := List.mem_singleton.mp hr
        exact ⟨generation, prompt, rfl, hfinish⟩

/-- Each generation leaves an event. -/
theorem length_tokenEvents (received : Received)
    (h : ∀ r ∈ readings, ∃ generation prompt, r.2 = .generation generation prompt) :
    (received.afterAll readings).tokenEvents.length =
      received.tokenEvents.length + readings.length := by
  induction readings generalizing received with
  | nil => rfl
  | cons reading readings ih =>
    obtain ⟨⟨generation, prompt, hreading⟩, hrest⟩ := List.forall_mem_cons.mp h
    rw [afterAll_cons, ih _ hrest, hreading, List.length_cons]
    simp only [after, List.length_append, List.length_singleton]
    omega

/-- When the first event carries the prompt, only the first generation returns it. -/
theorem exists_generationReadings {sent : List ℕ}
    (h : ∀ r ∈ readings, ∃ generation prompt, r.2 = .generation generation prompt)
    (hfit : FitAll {} readings) (hprompt : readings ≠ [] →
      (afterAll {} readings).tokenEvents.head?.bind (·.promptTokenIds) = some sent) :
    ∃ generations, readings = generationReadings sent generations := by
  -- -- by induction from the end: all but the first event are read without a prompt
  induction readings using List.reverseRecOn with
  | nil => exact ⟨[], rfl⟩
  | append_singleton init reading ih =>
    obtain ⟨offset, reading⟩ := reading
    obtain ⟨generation, prompt, rfl⟩ := h (offset, reading) (by simp)
    obtain ⟨hinit, hfits⟩ := fitAll_concat.mp hfit
    have hgenerations : ∀ r ∈ init, ∃ generation prompt, r.2 = .generation generation prompt :=
      fun r hr => h r (by simp [hr])
    have hhead := hprompt (by simp)
    rw [afterAll_concat] at hhead
    -- -- the first event carries the prompt
    rcases eq_or_ne init [] with rfl | hne
    · refine ⟨[(offset, generation)], ?_⟩
      have hsent : prompt.or none = some sent := hhead
      rw [Option.or_none] at hsent
      rw [hsent]
      rfl
    · -- the first event was there before, and so was the prompt
      have hevents : (afterAll {} init).tokenEvents ≠ [] := by
        rw [← List.length_pos_iff, length_tokenEvents _ hgenerations]
        exact Nat.lt_of_lt_of_le (List.length_pos_iff.mpr hne) (Nat.le_add_left _ _)
      have hsame : (afterAll {} init).tokenEvents.head?.bind (·.promptTokenIds) = some sent := by
        rw [← hhead]
        simp only [after]
        rw [List.head?_append_of_ne_nil _ hevents]
      obtain ⟨generations, rfl⟩ := ih hgenerations hinit fun _ => hsame
      -- -- a later prompt is refused once one has been returned
      have hgenerations' : generations ≠ [] := by
        rintro rfl
        exact hne rfl
      have hreturned := (generated_afterAll sent generations).prompt
      rw [if_neg hgenerations'] at hreturned
      have hnone : prompt = none := by
        by_contra hsome
        have hreturned' := hfits.2.2.2.1 hsome
        rw [hreturned] at hreturned'
        cases hreturned'
      refine ⟨generations ++ [(offset, generation)], ?_⟩
      rw [generationReadings_concat, if_neg (by simpa using hgenerations'), hnone]

/-- **Readings that fit and bring all terminals**, and of which the first event carries the prompt.
-/
theorem FitAll.fourTerminals {sent : List ℕ} {doneOffset : ℤ} (hfit : FitAll {} readings)
    (hdone : (afterAll {} readings).protocolTerminalOffsetNs = some doneOffset)
    (hprompt : (afterAll {} readings).tokenEvents.head?.bind (·.promptTokenIds) = some sent) :
    ∃ generations terminal usageOffset usage serverMetrics, FourTerminals sent readings generations
      terminal usageOffset usage serverMetrics doneOffset := by
  obtain ⟨init, usageOffset, rfl, hinit, hopen, husage, hlt⟩ := exists_done hfit hdone
  -- from here on without the comments
  have hcomments : ∀ r ∈ Stage2.responses init, r.2 ≠ .comment := fun r hr => by
    simpa [Stage2.responses] using (List.mem_filter.mp hr).2
  rw [← afterAll_responses] at hopen husage
  obtain ⟨front, usage, serverMetrics, terminalOffset, hfront, hfitFront, hopen₂, husage₂,
    hterminal, hlt₂⟩ := exists_usage hcomments hinit.responses hopen husage
  have hcomments₂ : ∀ r ∈ front, r.2 ≠ .comment := fun r hr => hcomments r (by simp [hfront, hr])
  obtain ⟨early, generation, prompt, hearly, hfitEarly, hterminal₃, husage₃, hopen₃, hfinish,
    hlength⟩ := exists_terminal hcomments₂ hfitFront hopen₂ husage₂ hterminal
  have hunfinished := unfinished_of_fitAll (fun r hr => hcomments₂ r (by simp [hearly, hr]))
    hfitEarly hopen₃ husage₃ hterminal₃
  have hgenerations : ∀ r ∈ front, ∃ generation prompt, r.2 = .generation generation prompt := by
    intro r hr
    rw [hearly] at hr
    rcases List.mem_append.mp hr with hr | hr
    · obtain ⟨g, p, hr, -⟩ := hunfinished r hr
      exact ⟨g, p, hr⟩
    · obtain rfl := List.mem_singleton.mp hr
      exact ⟨generation, prompt, rfl⟩
  have hevents : (afterAll {} front).tokenEvents =
      (afterAll {} (init ++ [(doneOffset, .done)])).tokenEvents := by
    rw [afterAll_concat, ← afterAll_responses _ init, hfront, afterAll_concat]
    rfl
  obtain ⟨generations, hreadings⟩ := exists_generationReadings hgenerations hfitFront
    fun _ => by rw [hevents, hprompt]
  obtain ⟨init', terminal, rfl⟩ : ∃ init' terminal, generations = init' ++ [terminal] := by
    rcases List.eq_nil_or_concat' generations with rfl | h
    · rw [hreadings] at hearly
      simp [generationReadings] at hearly
    · exact h
  rw [generationReadings_concat] at hreadings
  obtain ⟨hinit', hterminal'⟩ := List.append_inj' (hearly.symm.trans hreadings) rfl
  obtain ⟨rfl, hgeneration⟩ := Prod.mk.inj (List.singleton_inj.mp hterminal')
  obtain ⟨rfl, -⟩ := StreamReading.generation.inj hgeneration
  refine ⟨init', terminal, usageOffset, usage, serverMetrics, ?_, by simp, ?_, hfinish, ?_, hlt₂,
    hlt⟩
  · rw [Stage2.responses, List.filter_append, ← Stage2.responses, hfront, generationReadings_concat,
      ← hreadings]
    simp
  · intro g hg
    obtain ⟨i, hi, rfl⟩ := List.mem_iff_getElem.mp hg
    have hmem : (init'[i].1, StreamReading.generation init'[i].2
        (if i = 0 then some sent else none)) ∈ early := by
      rw [hinit']
      exact List.mem_mapIdx.mpr ⟨i, hi, rfl⟩
    obtain ⟨g', p, hread, hnone⟩ := hunfinished _ hmem
    rw [(StreamReading.generation.inj hread).1, hnone]
  · rw [← (generated_afterAll sent (init' ++ [terminal])).ids, generationReadings_concat,
      ← hreadings, hlength]

end Received

end Stage2
