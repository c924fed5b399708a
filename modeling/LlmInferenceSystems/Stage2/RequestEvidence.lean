import LlmInferenceSystems.Python.Float
import LlmInferenceSystems.Python.Sequence
import LlmInferenceSystems.Stage2.CompletionResponse
import LlmInferenceSystems.Stage2.IdentityChain

/-!
# The evidence of a request

What one accepted stream leaves: its token events, the ids and the text that they add up to, the
usage and the metrics of the server, eight points in time and two metrics of the client. The model
checks on construction that all of it reconciles. The metrics are quotients, so the arithmetic is a
parameter: that of the interpreter, or without rounding.

## Main definitions

* `MetricArithmetic`, `binary64Metrics`, `exactMetrics`: the quotients of the metrics
* `Stage2TokenEvent`, `Stage2TimingRecord`, `MetricAvailability`: the parts, with their checks
* `Stage2RequestEvidence.validateReconciliation`: the check of the whole
* `IdentitiesReconcile`, `EventsReconcile`: what its parts say

## Main results

* `Stage2TimingRecord.create_eq_ok`: points in time in order, the last four strictly
* `Stage2RequestEvidence.validateReconciliation_eq_ok`: what reconciles
-/

namespace Stage2

open Python

/-! ## Quotients -/

/-- The two quotients of the metrics: `m / n` of integers, and `sum(gaps) / len(gaps)` of gaps that
were made floats. -/
class MetricArithmetic where
  quotient : ℤ → ℕ → Except PyError PyFloat
  mean : List ℤ → Except PyError PyFloat

/-- `float(n)` -/
def floatOf (n : ℤ) : Except PyError PyFloat :=
  match PyFloat.ofInt n with
  | some x => .ok x
  | none => .error .overflow

/-- The arithmetic of the interpreter. -/
@[reducible] def binary64Metrics : MetricArithmetic where
  quotient m n :=
    if n = 0 then .error .zeroDivision
    else
      match trueDiv m n with
      | some x => .ok x
      | none => .error .overflow
  mean gaps := do
    let floats ← collect floatOf gaps
    if floats = [] then .error .zeroDivision
    else
      match floatDiv (sumFloats floats) floats.length with
      | some x => .ok x
      | none => .error .overflow

/-- Arithmetic without rounding. -/
@[reducible] def exactMetrics : MetricArithmetic where
  quotient m n := if n = 0 then .error .zeroDivision else .ok (.finite (m / n))
  mean gaps :=
    if gaps = [] then .error .zeroDivision else .ok (.finite ((gaps.sum : ℤ) / gaps.length))

/-! ## The parts -/

/-- The one finish reason that is accepted. -/
inductive FinishReason where
  | length
deriving DecidableEq

/-- `Stage2TokenEvent` -/
structure Stage2TokenEvent where
  observationOffsetNs : ℤ
  outputTokenIds : List ℕ
  text : Str
  finishReason : Option FinishReason
  promptTokenIds : Option (List ℕ)
deriving DecidableEq

/-- A token event that was constructed. -/
def Stage2TokenEvent.create (event : Stage2TokenEvent) : Except PyError Stage2TokenEvent :=
  if event.observationOffsetNs < 0 then .error (.validation "observation_offset_ns")
  else .ok event

/-- `Stage2TimingRecord` -/
structure Stage2TimingRecord where
  dispatchOffsetNs : ℤ
  responseHeadersOffsetNs : ℤ
  firstResponseBodyBytesOffsetNs : ℤ
  firstOutputTokenOffsetNs : ℤ
  generationTerminalOffsetNs : ℤ
  usageTerminalOffsetNs : ℤ
  protocolTerminalOffsetNs : ℤ
  transportTerminalOffsetNs : ℤ
deriving DecidableEq

namespace Stage2TimingRecord

/-- `values` -/
def values (timing : Stage2TimingRecord) : List ℤ :=
  [timing.dispatchOffsetNs, timing.responseHeadersOffsetNs, timing.firstResponseBodyBytesOffsetNs,
    timing.firstOutputTokenOffsetNs, timing.generationTerminalOffsetNs,
    timing.usageTerminalOffsetNs, timing.protocolTerminalOffsetNs,
    timing.transportTerminalOffsetNs]

/-- A timing record that was constructed: the types of its fields, then `validate_chronology`. -/
def create (timing : Stage2TimingRecord) : Except PyError Stage2TimingRecord :=
  if ∃ value ∈ timing.values, value < 0 then .error (.validation "NonNegativeInt")
  else if sorted timing.values ≠ timing.values then
    .error (.validation "Stage 2 timing boundaries are not monotonic")
  else if ¬ (timing.generationTerminalOffsetNs < timing.usageTerminalOffsetNs ∧
      timing.usageTerminalOffsetNs < timing.protocolTerminalOffsetNs ∧
      timing.protocolTerminalOffsetNs < timing.transportTerminalOffsetNs) then
    .error (.validation "generation, usage, protocol, and transport must be strict")
  else .ok timing

/-- **Points in time in order, the last four strictly.** -/
theorem create_eq_ok {timing timing' : Stage2TimingRecord} :
    timing.create = .ok timing' ↔
      timing' = timing ∧ (∀ value ∈ timing.values, 0 ≤ value) ∧
        timing.values.Pairwise (· ≤ ·) ∧
        timing.generationTerminalOffsetNs < timing.usageTerminalOffsetNs ∧
        timing.usageTerminalOffsetNs < timing.protocolTerminalOffsetNs ∧
        timing.protocolTerminalOffsetNs < timing.transportTerminalOffsetNs := by
  unfold create
  constructor
  · intro h
    split at h
    · cases h
    · next hnonneg =>
      split at h
      · cases h
      · next hsorted =>
        split at h
        · cases h
        · next hstrict =>
          push Not at hnonneg
          exact ⟨(Except.ok.inj h).symm, hnonneg, sorted_eq_self.mp (not_not.mp hsorted),
            not_not.mp hstrict⟩
  · rintro ⟨rfl, hnonneg, hsorted, hstrict⟩
    rw [if_neg (by push Not; exact hnonneg), if_neg (not_not.mpr (sorted_eq_self.mpr hsorted)),
      if_neg (not_not.mpr hstrict)]

end Stage2TimingRecord

/-- Why a metric per token is missing. -/
inductive UnavailableReason where
  | groupedTokenEvent
  | insufficientOutputTokens
deriving DecidableEq

/-- `MetricAvailability`: a value, or the reason it is missing. -/
structure MetricAvailability where
  valueNs : Option ℚ
  unavailableReason : Option UnavailableReason
deriving DecidableEq

namespace MetricAvailability

/-- `MetricAvailability(value_ns=value, unavailable_reason=None)` -/
def ofValue : PyFloat → Except PyError MetricAvailability
  | .finite value =>
    if value < 0 then .error (.validation "value_ns") else .ok ⟨some value, none⟩
  | _ => .error (.validation "value_ns")

/-- `MetricAvailability(value_ns=None, unavailable_reason="GROUPED_TOKEN_EVENT")` -/
def grouped : MetricAvailability := ⟨none, some .groupedTokenEvent⟩

/-- `metric.value_ns == value` -/
def hasValue (metric : MetricAvailability) (value : PyFloat) : Prop :=
  ∃ q, metric.valueNs = some q ∧ value = .finite q

instance (metric : MetricAvailability) (value : PyFloat) : Decidable (metric.hasValue value) :=
  match metric, value with
  | ⟨some p, _⟩, .finite q => decidable_of_iff (q = p) (by simp [hasValue])
  | ⟨none, _⟩, _ => isFalse (by simp [hasValue])
  | ⟨some _, _⟩, .inf _ => isFalse (by simp [hasValue])
  | ⟨some _, _⟩, .nan => isFalse (by simp [hasValue])

theorem ofValue_eq_ok {value : PyFloat} {metric : MetricAvailability} :
    ofValue value = .ok metric ↔ ∃ q, value = .finite q ∧ 0 ≤ q ∧ metric = ⟨some q, none⟩ := by
  unfold ofValue
  constructor
  · intro h
    split at h
    · next q =>
      split at h
      · cases h
      · next hneg => exact ⟨q, rfl, not_lt.mp hneg, (Except.ok.inj h).symm⟩
    · cases h
  · rintro ⟨q, rfl, hq, rfl⟩
    exact if_neg (not_lt.mpr hq)

end MetricAvailability

/-! ## Token events -/

/-- `tuple(event for event in events if event.output_token_ids)` -/
def tokenBearing (events : List Stage2TokenEvent) : List Stage2TokenEvent :=
  events.filter fun event => event.outputTokenIds ≠ []

/-- `grouped` -/
def isGrouped (events : List Stage2TokenEvent) : Bool :=
  events.any fun event => 1 < event.outputTokenIds.length

/-- The differences between neighbouring observations. -/
def eventGaps (events : List Stage2TokenEvent) : List ℤ :=
  (neighbours events).map fun p => p.2.observationOffsetNs - p.1.observationOffsetNs

/-- `"".join(event.text for event in events)` -/
def eventText (events : List Stage2TokenEvent) : Str := events.flatMap (·.text)

/-- The ids of all events. -/
def eventTokenIds (events : List Stage2TokenEvent) : List ℕ := events.flatMap (·.outputTokenIds)

/-! ## The evidence -/

/-- `Stage2RequestEvidence` -/
structure Stage2RequestEvidence where
  fixtureIdentitySha256 : Option Str
  requestIdentityChainSha256 : Str
  externalRequestId : Str
  responseRequestId : Str
  servingItemRequestId : Str
  internalEngineRequestId : Str
  sentPromptTokenIds : List ℕ
  returnedPromptTokenIds : List ℕ
  tokenEvents : List Stage2TokenEvent
  finalOutputTokenIds : List ℕ
  finishReason : FinishReason
  terminalEventCarriedTokenIds : Bool
  usage : Usage
  localPromptTokenCount : Option ℕ
  localOutputTokenCount : Option ℕ
  serverPerRequestMetrics : PerRequestMetrics
  disagreements : List String
  outputText : Str
  outputTextSha256 : Str
  timing : Stage2TimingRecord
  clientGenerationTpot : MetricAvailability
  tokenObservationItl : MetricAvailability
  streamOutputGapNs : List ℤ
deriving DecidableEq

namespace Stage2RequestEvidence

variable (evidence : Stage2RequestEvidence)

/-- What the types of the fields require; the parts were checked when they were constructed. -/
structure FieldsValid : Prop where
  fixture : ∀ identity ∈ evidence.fixtureIdentitySha256, IsSha256 identity
  chain : IsSha256 evidence.requestIdentityChainSha256
  external : IsExternalRequestId evidence.externalRequestId
  sent : evidence.sentPromptTokenIds.length = 64
  returned : evidence.returnedPromptTokenIds.length = 64
  events : evidence.tokenEvents ≠ []
  output : evidence.finalOutputTokenIds.length = 32
  digest : IsSha256 evidence.outputTextSha256
  gaps : ∀ gap ∈ evidence.streamOutputGapNs, 0 ≤ gap

instance : Decidable evidence.FieldsValid :=
  decidable_of_iff
    ((∀ identity ∈ evidence.fixtureIdentitySha256, IsSha256 identity) ∧
      IsSha256 evidence.requestIdentityChainSha256 ∧
      IsExternalRequestId evidence.externalRequestId ∧
      evidence.sentPromptTokenIds.length = 64 ∧ evidence.returnedPromptTokenIds.length = 64 ∧
      evidence.tokenEvents ≠ [] ∧ evidence.finalOutputTokenIds.length = 32 ∧
      IsSha256 evidence.outputTextSha256 ∧ ∀ gap ∈ evidence.streamOutputGapNs, 0 ≤ gap)
    ⟨fun ⟨h₁, h₂, h₃, h₄, h₅, h₆, h₇, h₈, h₉⟩ => ⟨h₁, h₂, h₃, h₄, h₅, h₆, h₇, h₈, h₉⟩,
      fun h => ⟨h.1, h.2, h.3, h.4, h.5, h.6, h.7, h.8, h.9⟩⟩

/-- The token events that carry ids. -/
def bearing : List Stage2TokenEvent := tokenBearing evidence.tokenEvents

/-- The identities of `validate_reconciliation`, and the prompt. -/
def checkIdentities : Except PyError Unit :=
  let base := evidence.externalRequestId
  let prefix' := servingItemId base ++ lit "-"
  if evidence.responseRequestId ≠ responseBodyId base then
    .error (.validation "response body ID does not match the external request ID")
  else if evidence.servingItemRequestId ≠ servingItemId base then
    .error (.validation "serving item ID does not match the external request ID")
  else if ¬ prefix' <+: evidence.internalEngineRequestId then
    .error (.validation "internal engine ID does not preserve the request chain")
  else if ¬ IsSuffix (removePrefix prefix' evidence.internalEngineRequestId) then
    .error (.validation "internal engine ID requires an eight-character lowercase hex suffix")
  else if evidence.sentPromptTokenIds ≠ evidence.returnedPromptTokenIds then
    .error (.validation "returned prompt IDs differ from sent prompt IDs")
  else if (evidence.tokenEvents.filter (·.promptTokenIds.isSome)).length ≠ 1 ∨
      evidence.tokenEvents.head?.bind (·.promptTokenIds) ≠ some evidence.returnedPromptTokenIds then
    .error (.validation "returned prompt IDs require one matching first token event")
  else .ok ()

/-- The token events of `validate_reconciliation`, up to the gaps. -/
def checkEvents [Interpreter] : Except PyError Unit :=
  let offsets := evidence.tokenEvents.map (·.observationOffsetNs)
  let terminals := evidence.tokenEvents.filter (·.finishReason.isSome)
  if eventTokenIds evidence.tokenEvents ≠ evidence.finalOutputTokenIds then
    .error (.validation "final output IDs do not reconstruct from token events")
  else if offsets ≠ sorted offsets then
    .error (.validation "token-event observations are not monotonic")
  else
    match evidence.tokenEvents.getLast?, evidence.bearing.head? with
    | none, _ => .error (.validation "token events require one final generation terminal")
    | some terminal, first =>
      if terminals.length ≠ 1 ∨ terminal.finishReason = none then
        .error (.validation "token events require one final generation terminal")
      else if evidence.terminalEventCarriedTokenIds ≠ decide (terminal.outputTokenIds ≠ []) then
        .error (.validation "terminal token-bearing evidence differs from the terminal event")
      else
        match first with
        | none => .error (.validation "request evidence contains no output-token event")
        | some first =>
          if evidence.timing.firstOutputTokenOffsetNs ≠ first.observationOffsetNs then
            .error (.validation "first output-token timing differs from token evidence")
          else if evidence.timing.generationTerminalOffsetNs ≠ terminal.observationOffsetNs then
            .error (.validation "generation-terminal timing differs from token evidence")
          else if evidence.outputText ≠ eventText evidence.tokenEvents ∨
              some evidence.outputTextSha256 ≠
                (utf8Encode (eventText evidence.tokenEvents)).map Interpreter.hexdigest then
            .error (.validation "output text or text SHA-256 does not reconstruct")
          else if evidence.streamOutputGapNs ≠ eventGaps evidence.bearing then
            .error (.validation "stream output gaps do not reconstruct from token evidence")
          else .ok ()

/-- The metrics of `validate_reconciliation`. -/
def checkMetrics [MetricArithmetic] : Except PyError Unit :=
  let gaps := eventGaps evidence.bearing
  if isGrouped evidence.bearing then
    if evidence.clientGenerationTpot.unavailableReason ≠ some .groupedTokenEvent ∨
        evidence.tokenObservationItl.unavailableReason ≠ some .groupedTokenEvent then
      .error (.validation "grouped token events require TPOT and ITL unavailability")
    else .ok ()
  else do
    let expectedTpot ← MetricArithmetic.quotient
      (evidence.timing.generationTerminalOffsetNs - evidence.timing.firstOutputTokenOffsetNs) 31
    let expectedItl ← MetricArithmetic.quotient gaps.sum gaps.length
    if ¬ evidence.clientGenerationTpot.hasValue expectedTpot then
      .error (.validation "client-generation TPOT does not reconstruct")
    else if ¬ evidence.tokenObservationItl.hasValue expectedItl then
      .error (.validation "token-observation ITL does not reconstruct")
    else .ok ()

/-- `expected_disagreements` -/
def expectedDisagreements : List String :=
  (if evidence.localPromptTokenCount.any (· ≠ 64) then
    ["LOCAL_PROMPT_COUNT_DIFFERS_FROM_SERVER_USAGE"] else []) ++
  if evidence.localOutputTokenCount.any (· ≠ 32) then
    ["LOCAL_OUTPUT_COUNT_DIFFERS_FROM_SERVER_USAGE"] else []

/-- The checks of `validate_reconciliation` before it looks at the metrics. -/
def checkBeforeMetrics [Interpreter] : Except PyError Unit := do
  evidence.checkIdentities
  evidence.checkEvents

/-- `validate_reconciliation` -/
def validateReconciliation [Interpreter] [MetricArithmetic] : Except PyError Unit := do
  evidence.checkBeforeMetrics
  evidence.checkMetrics
  if evidence.disagreements ≠ evidence.expectedDisagreements then
    .error (.validation "retained token-count disagreements are incomplete or unexpected")
  else .ok ()

/-! ### What reconciles -/

/-- What `checkIdentities` says. -/
structure IdentitiesReconcile : Prop where
  response : evidence.responseRequestId = responseBodyId evidence.externalRequestId
  serving : evidence.servingItemRequestId = servingItemId evidence.externalRequestId
  internal : ∃ suffix, IsSuffix suffix ∧
    evidence.internalEngineRequestId = internalEngineId evidence.externalRequestId suffix
  prompt : evidence.sentPromptTokenIds = evidence.returnedPromptTokenIds
  onePrompt : (evidence.tokenEvents.filter (·.promptTokenIds.isSome)).length = 1
  firstPrompt : evidence.tokenEvents.head?.bind (·.promptTokenIds) =
    some evidence.returnedPromptTokenIds

/-- What `checkEvents` says. -/
structure EventsReconcile [Interpreter] (terminal first : Stage2TokenEvent) : Prop where
  output : eventTokenIds evidence.tokenEvents = evidence.finalOutputTokenIds
  offsets : (evidence.tokenEvents.map (·.observationOffsetNs)).Pairwise (· ≤ ·)
  last : evidence.tokenEvents.getLast? = some terminal
  oneTerminal : (evidence.tokenEvents.filter (·.finishReason.isSome)).length = 1
  finished : terminal.finishReason ≠ none
  carried : evidence.terminalEventCarriedTokenIds = decide (terminal.outputTokenIds ≠ [])
  bearing : evidence.bearing.head? = some first
  firstOffset : evidence.timing.firstOutputTokenOffsetNs = first.observationOffsetNs
  terminalOffset : evidence.timing.generationTerminalOffsetNs = terminal.observationOffsetNs
  text : evidence.outputText = eventText evidence.tokenEvents
  digest : some evidence.outputTextSha256 =
    (utf8Encode (eventText evidence.tokenEvents)).map Interpreter.hexdigest
  gaps : evidence.streamOutputGapNs = eventGaps evidence.bearing

variable {evidence}

theorem checkIdentities_eq_ok :
    evidence.checkIdentities = .ok () ↔ evidence.IdentitiesReconcile := by
  unfold checkIdentities
  dsimp only
  constructor
  -- the comparisons in their order, each with the identity it is about
  · intro h
    split at h
    · cases h
    · next hresponse =>
      split at h
      · cases h
      · next hserving =>
        split at h
        · cases h
        · next hstarts =>
          split at h
          · cases h
          · next hsuffix =>
            split at h
            · cases h
            · next hprompt =>
              split at h
              · cases h
              · next hevents =>
                push Not at hresponse hserving hprompt hevents
                exact ⟨hresponse, hserving,
                  internalEngineId_iff.mp ⟨not_not.mp hstarts, not_not.mp hsuffix⟩, hprompt,
                  hevents.1, hevents.2⟩
  -- the internal id is a name with a suffix
  · intro h
    obtain ⟨hstarts, hsuffix⟩ := internalEngineId_iff.mpr h.internal
    rw [if_neg (not_not.mpr h.response), if_neg (not_not.mpr h.serving),
      if_neg (not_not.mpr hstarts), if_neg (not_not.mpr hsuffix), if_neg (not_not.mpr h.prompt),
      if_neg (by
        push Not
        exact ⟨h.onePrompt, h.firstPrompt⟩)]

theorem checkEvents_eq_ok [Interpreter] :
    evidence.checkEvents = .ok () ↔ ∃ terminal first, evidence.EventsReconcile terminal first := by
  unfold checkEvents
  dsimp only
  constructor
  -- the token events are compared first with the counts and times of the evidence ...
  · intro h
    split at h
    · cases h
    · next houtput =>
      split at h
      · cases h
      · next hoffsets =>
        push Not at houtput hoffsets
        -- ... then the last of them, which must carry the terminal class ...
        cases hlast : evidence.tokenEvents.getLast? with
        | none =>
          rw [hlast] at h
          cases h
        | some terminal =>
          rw [hlast] at h
          dsimp only at h
          split at h
          · cases h
          · next hterminal =>
            split at h
            · cases h
            · next hcarried =>
              -- ... and the first one with tokens, which the metrics are taken from
              cases hbearing : evidence.bearing.head? with
              | none =>
                rw [hbearing] at h
                cases h
              | some first' =>
                rw [hbearing] at h
                dsimp only at h
                split at h
                · cases h
                · next hfirst =>
                  split at h
                  · cases h
                  · next hgeneration =>
                    split at h
                    · cases h
                    · next htext =>
                      split at h
                      · cases h
                      · next hgaps =>
                        push Not at hterminal hcarried hfirst hgeneration htext hgaps
                        exact ⟨terminal, first', houtput, sorted_eq_self.mp hoffsets.symm, hlast,
                          hterminal.1, hterminal.2, hcarried, hbearing, hfirst, hgeneration,
                          htext.1, htext.2, hgaps⟩
  -- the same comparisons, all passed
  · rintro ⟨terminal, first, h⟩
    rw [if_neg (not_not.mpr h.output),
      if_neg (not_not.mpr (sorted_eq_self.mpr h.offsets).symm), h.last, h.bearing]
    dsimp only
    rw [if_neg (by push Not; exact ⟨h.oneTerminal, h.finished⟩), if_neg (not_not.mpr h.carried),
      if_neg (not_not.mpr h.firstOffset), if_neg (not_not.mpr h.terminalOffset),
      if_neg (by push Not; exact ⟨h.text, h.digest⟩), if_neg (not_not.mpr h.gaps)]

theorem checkBeforeMetrics_eq_ok [Interpreter] :
    evidence.checkBeforeMetrics = .ok () ↔
      evidence.IdentitiesReconcile ∧ ∃ terminal first, evidence.EventsReconcile terminal first := by
  unfold checkBeforeMetrics
  rw [bind_eq_ok, ← checkIdentities_eq_ok, ← checkEvents_eq_ok]
  constructor
  · rintro ⟨⟨⟩, hidentities, hevents⟩
    exact ⟨hidentities, hevents⟩
  · rintro ⟨hidentities, hevents⟩
    exact ⟨(), hidentities, hevents⟩

/-- **What reconciles.** -/
theorem validateReconciliation_eq_ok [Interpreter] [MetricArithmetic] :
    evidence.validateReconciliation = .ok () ↔
      evidence.IdentitiesReconcile ∧
        (∃ terminal first, evidence.EventsReconcile terminal first) ∧
        evidence.checkMetrics = .ok () ∧
        evidence.disagreements = evidence.expectedDisagreements := by
  unfold validateReconciliation
  constructor
  · intro h
    obtain ⟨⟨⟩, hbefore, h⟩ := bind_eq_ok.mp h
    obtain ⟨⟨⟩, hmetrics, h⟩ := bind_eq_ok.mp h
    obtain ⟨hidentities, hevents⟩ := checkBeforeMetrics_eq_ok.mp hbefore
    split at h
    · cases h
    · next hdisagreements => exact ⟨hidentities, hevents, hmetrics, not_not.mp hdisagreements⟩
  · rintro ⟨hidentities, hevents, hmetrics, hdisagreements⟩
    refine bind_eq_ok.mpr ⟨(), checkBeforeMetrics_eq_ok.mpr ⟨hidentities, hevents⟩,
      bind_eq_ok.mpr ⟨(), hmetrics, ?_⟩⟩
    rw [if_neg (not_not.mpr hdisagreements)]

variable (evidence)

/-- Evidence that was constructed. -/
def create [Interpreter] [MetricArithmetic] : Except PyError Stage2RequestEvidence :=
  if ¬ evidence.FieldsValid then .error (.validation "Stage2RequestEvidence")
  else do
    evidence.validateReconciliation
    return evidence

variable {evidence}

theorem create_eq_ok [Interpreter] [MetricArithmetic] {evidence' : Stage2RequestEvidence} :
    evidence.create = .ok evidence' ↔
      evidence' = evidence ∧ evidence.FieldsValid ∧ evidence.validateReconciliation = .ok () := by
  unfold create
  constructor
  · intro h
    split at h
    · cases h
    · next hfields =>
      obtain ⟨⟨⟩, hvalid, h⟩ := bind_eq_ok.mp h
      exact ⟨(Except.ok.inj h).symm, not_not.mp hfields, hvalid⟩
  · rintro ⟨rfl, hfields, hvalid⟩
    rw [if_neg (not_not.mpr hfields)]
    exact bind_eq_ok.mpr ⟨(), hvalid, rfl⟩

end Stage2RequestEvidence

end Stage2
