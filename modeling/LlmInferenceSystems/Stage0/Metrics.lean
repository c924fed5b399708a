import Mathlib.Algebra.Order.Field.Rat
import Mathlib.Algebra.BigOperators.Group.List.Basic
import Mathlib.Tactic.Linarith
import LlmInferenceSystems.Stage0.Contracts

/-!
# Metrics of a request of the first stage

The latencies of a successful request, in exact numbers. The gaps between tokens come from one list
of observations, put together from the timestamps of tokens where an event has them and from those
of events of one token; the time per output token comes from the boundaries that the record keeps of
its own.

## Main definitions

* `observeEvents`: the loop that puts the observations together
* `deriveRequestMetrics`: the metrics
* `RequestRecord.Constraints`: what a valid record's times and counts satisfy
* `MetricsReconcile`: metrics are nonnegative, and the gaps agree with the time per output token

## Main results

* `constraints_of_modelValidate`: what the validators enforce
* `metricsReconcile`: the metrics of every valid record reconcile
-/

namespace Stage0

open Python

/-- The loop of `_token_observation_offsets`; `none` is a chunk of several tokens without
timestamps. -/
def observeEvents : List StreamEventRecord → Option (List ℕ)
  | [] => some []
  | event :: events =>
    match event.perTokenObservationOffsetsNs with
    | some offsets => (observeEvents events).map (offsets ++ ·)
    | none =>
      if event.outputTokensInChunk = 1 then (observeEvents events).map (event.eventOffsetNs :: ·)
      else none

/-- `_token_observation_offsets` -/
def tokenObservationOffsets (request : RequestRecord) :
    Except MetricUnavailableReason (List ℕ) :=
  match request.outputTokens.value with
  | none => .error .missingTokenCount
  | some outputCount =>
    match observeEvents request.streamEvents with
    | none => .error .multiTokenChunkWithoutTokenTimestamps
    | some observations =>
      if observations = [] then .error .missingTokenTimestamps
      else if observations.length ≠ outputCount then .error .tokenTimestampCountMismatch
      else if observations ≠ sorted observations ∨ ¬ observations.Nodup then
        .error .missingTokenTimestamps
      else .ok observations

/-- `RequestMetrics`: what one request's record tells, with a reason for each metric it lacks. -/
structure RequestMetrics where
  ttftNs : Option ℚ
  endToEndNs : Option ℚ
  tpotNs : Option ℚ
  itlNs : List ℚ
  ttftUnavailableReason : Option MetricUnavailableReason
  tpotUnavailableReason : Option MetricUnavailableReason
  itlUnavailableReason : Option MetricUnavailableReason
deriving DecidableEq

/-- The time per output token. -/
def tpotOf (request : RequestRecord) : Except MetricUnavailableReason ℚ :=
  match request.outputTokens.value with
  | none => .error .missingTokenCount
  | some outputCount =>
    if outputCount < 2 then .error .insufficientOutputTokens
    else
      match request.timing.firstOutputTokenOffsetNs, request.timing.lastOutputTokenOffsetNs with
      | some first, some last => .ok ((last - first : ℚ) / (outputCount - 1))
      | _, _ => .error .missingTokenTimestamps

/-- The gaps between tokens. -/
def itlOf (request : RequestRecord) : Except MetricUnavailableReason (List ℚ) :=
  match tokenObservationOffsets request with
  | .error reason => .error reason
  | .ok observations =>
    if observations.length < 2 then .error .insufficientOutputTokens
    else .ok ((neighbours observations).map fun p => (p.2 - p.1 : ℚ))

/-- Why a metric is not available. -/
def reasonOf {α : Type} (metric : Except MetricUnavailableReason α) :
    Option MetricUnavailableReason :=
  match metric with
  | .error reason => some reason
  | .ok _ => none

/-- `derive_request_metrics` -/
def deriveRequestMetrics (request : RequestRecord) : RequestMetrics :=
  if request.outcome ≠ .success then
    ⟨none, none, none, [], some .requestFailed, some .requestFailed, some .requestFailed⟩
  else
    let timing := request.timing
    { ttftNs := timing.firstOutputTokenOffsetNs.map fun first : ℕ =>
        (first - timing.dispatchOffsetNs : ℚ)
      endToEndNs := some (timing.terminalOffsetNs - timing.dispatchOffsetNs)
      tpotNs := (tpotOf request).toOption
      itlNs := (itlOf request).toOption.getD []
      ttftUnavailableReason :=
        if timing.firstOutputTokenOffsetNs = none then some .firstOutputTokenNotObserved else none
      tpotUnavailableReason := reasonOf (tpotOf request)
      itlUnavailableReason := reasonOf (itlOf request) }

/-- Metrics that are nonnegative where they are available. When the gaps are, there is one less of
them than output tokens, all positive, and they add up to the time per output token times their
number. -/
structure MetricsReconcile (request : RequestRecord) (metrics : RequestMetrics) : Prop where
  ttft : ∀ value ∈ metrics.ttftNs, 0 ≤ value
  endToEnd : ∀ value ∈ metrics.endToEndNs, 0 ≤ value
  tpot : ∀ value ∈ metrics.tpotNs, 0 ≤ value
  available : metrics.itlUnavailableReason = none ↔ metrics.itlNs ≠ []
  positive : ∀ gap ∈ metrics.itlNs, 0 < gap
  gaps : metrics.itlNs ≠ [] → ∃ count tpot, request.outputTokens.value = some count ∧
    metrics.tpotNs = some tpot ∧ metrics.itlNs.length = count - 1 ∧
    metrics.itlNs.sum = tpot * (count - 1)

/-! ## What the validators enforce -/

namespace RequestRecord

/-- What the times and the counts of a valid record satisfy. -/
structure Constraints (request : RequestRecord) : Prop where
  interval : request.timing.dispatchOffsetNs ≤ request.timing.terminalOffsetNs
  within : ∀ offset ∈ request.timing.observations, request.timing.Covers offset
  boundaries : ∀ first ∈ request.timing.firstOutputTokenOffsetNs,
    ∀ last ∈ request.timing.lastOutputTokenOffsetNs, first ≤ last
  tokens : ∀ event ∈ request.streamEvents, event.outputTokensInChunk ≠ 0
  offsets : ∀ event ∈ request.streamEvents, ∀ offsets ∈ event.perTokenObservationOffsetsNs,
    offsets.length = event.outputTokensInChunk
  first : request.streamEvents ≠ [] → request.timing.firstOutputTokenOffsetNs =
    request.streamEvents.head?.bind fun event => event.observed.head?
  last : request.streamEvents ≠ [] → request.timing.lastOutputTokenOffsetNs =
    request.streamEvents.getLast?.bind fun event => event.observed.getLast?

end RequestRecord

/-- A check that passed, and those after it. -/
theorem reject_bind_eq_ok {α : Type} {condition : Prop} [Decidable condition] {message : String}
    {next : Except PyError α} {a : α} :
    (do reject condition message; next) = .ok a ↔ ¬ condition ∧ next = .ok a := by
  unfold reject
  split <;> simp [bind, Except.bind, *]

theorem TimingRecord.of_validateOffsets {timing : TimingRecord}
    (h : timing.validateOffsets = .ok ()) :
    timing.dispatchOffsetNs ≤ timing.terminalOffsetNs ∧
      (∀ offset ∈ timing.observations, timing.Covers offset) ∧
      ∀ first ∈ timing.firstOutputTokenOffsetNs, ∀ last ∈ timing.lastOutputTokenOffsetNs,
        first ≤ last := by
  unfold TimingRecord.validateOffsets at h
  simp only [reject_bind_eq_ok, reject_eq_ok] at h
  obtain ⟨hinterval, hwithin, -, hboundaries, -⟩ := h
  push Not at hinterval hwithin hboundaries
  exact ⟨hinterval, hwithin, hboundaries⟩

theorem StreamEventRecord.of_check {event : StreamEventRecord} (h : event.check = .ok ()) :
    event.outputTokensInChunk ≠ 0 ∧ ∀ offsets ∈ event.perTokenObservationOffsetsNs,
      offsets.length = event.outputTokensInChunk := by
  unfold StreamEventRecord.check at h
  obtain ⟨htokens, h⟩ := reject_bind_eq_ok.mp h
  refine ⟨htokens, fun offsets hoffsets => ?_⟩
  rw [hoffsets] at h
  unfold StreamEventRecord.validateTokenObservations at h
  exact not_not.mp (reject_bind_eq_ok.mp h).1

/-- **What the validators enforce.** -/
theorem RequestRecord.constraints_of_modelValidate {request : RequestRecord}
    (h : request.modelValidate = .ok request) : request.Constraints := by
  unfold RequestRecord.modelValidate at h
  obtain ⟨-, h⟩ := reject_bind_eq_ok.mp h
  obtain ⟨-, h⟩ := reject_bind_eq_ok.mp h
  -- -- the checks of the validator, one bind each
  obtain ⟨⟨⟩, htiming, h⟩ := bind_eq_ok.mp h
  obtain ⟨⟨⟩, hevents, h⟩ := bind_eq_ok.mp h
  obtain ⟨⟨⟩, -, h⟩ := bind_eq_ok.mp h
  obtain ⟨⟨⟩, -, h⟩ := bind_eq_ok.mp h
  obtain ⟨⟨⟩, -, h⟩ := bind_eq_ok.mp h
  obtain ⟨⟨⟩, -, h⟩ := bind_eq_ok.mp h
  obtain ⟨⟨⟩, -, h⟩ := bind_eq_ok.mp h
  obtain ⟨⟨⟩, htokens, -⟩ := bind_eq_ok.mp h
  obtain ⟨hinterval, hwithin, hboundaries⟩ := TimingRecord.of_validateOffsets htiming
  have hcheck : ∀ event ∈ request.streamEvents, event.outputTokensInChunk ≠ 0 ∧
      ∀ offsets ∈ event.perTokenObservationOffsetsNs,
        offsets.length = event.outputTokensInChunk :=
    fun event hevent => StreamEventRecord.of_check (each_eq_ok.mp hevents event hevent)
  -- -- the first and the last offset are those of the events, when there are any
  have hedges : request.streamEvents ≠ [] →
      request.timing.firstOutputTokenOffsetNs =
        (request.streamEvents.head?.bind fun event => event.observed.head?) ∧
      request.timing.lastOutputTokenOffsetNs =
        request.streamEvents.getLast?.bind fun event => event.observed.getLast? := by
    intro hne
    unfold RequestRecord.checkOutputTokens at htokens
    dsimp only at htokens
    obtain ⟨-, htokens⟩ := reject_bind_eq_ok.mp htokens
    -- -- each event carries a token, so the sum is not zero
    have hsum : (request.streamEvents.map (·.outputTokensInChunk)).sum ≠ 0 := by
      obtain ⟨event, events, hevents⟩ := List.exists_cons_of_ne_nil hne
      have hpos := (hcheck event (by simp [hevents])).1
      rw [hevents, List.map_cons, List.sum_cons]
      omega
    rw [if_neg hsum] at htokens
    obtain ⟨hfirst, htokens⟩ := reject_bind_eq_ok.mp htokens
    exact ⟨not_not.mp hfirst, not_not.mp (reject_eq_ok.mp htokens)⟩
  exact ⟨hinterval, hwithin, hboundaries, fun event hevent => (hcheck event hevent).1,
    fun event hevent => (hcheck event hevent).2, fun hne => (hedges hne).1,
    fun hne => (hedges hne).2⟩

/-! ## The observations -/

/-- What the loop puts together is what each event shows, event after event. -/
theorem observeEvents_eq_some {events : List StreamEventRecord} {observations : List ℕ}
    (htokens : ∀ event ∈ events, event.outputTokensInChunk ≠ 0)
    (hoffsets : ∀ event ∈ events, ∀ offsets ∈ event.perTokenObservationOffsetsNs,
      offsets.length = event.outputTokensInChunk)
    (h : observeEvents events = some observations) :
    observations = events.flatMap (·.observed) := by
  induction events generalizing observations with
  | nil => simpa [observeEvents] using h.symm
  | cons event events ih =>
    have hrest : ∀ rest, observeEvents events = some rest →
        rest = events.flatMap (·.observed) := fun rest =>
      ih (fun event hevent => htokens event (by simp [hevent]))
        fun event hevent => hoffsets event (by simp [hevent])
    have hevent := htokens event (by simp)
    have hlength := hoffsets event (by simp)
    rw [List.flatMap_cons]
    unfold observeEvents at h
    unfold StreamEventRecord.observed
    cases hoffsets : event.perTokenObservationOffsetsNs with
    | none =>
      rw [hoffsets] at h
      dsimp only at h
      split at h
      · obtain ⟨rest, hsome, rfl⟩ := Option.map_eq_some_iff.mp h
        rw [hrest rest hsome]
        rfl
      · cases h
    | some offsets =>
      rw [hoffsets] at h
      obtain ⟨rest, hsome, rfl⟩ := Option.map_eq_some_iff.mp h
      rw [hrest rest hsome]
      -- no event has an empty list of timestamps, since it has tokens
      cases offsets with
      | nil =>
        have := hlength [] hoffsets
        exact absurd this.symm hevent
      | cons offset offsets => rfl

theorem observed_ne_nil (event : StreamEventRecord) : event.observed ≠ [] := by
  unfold StreamEventRecord.observed
  split <;> simp_all

/-- The first observation is that of the first event. -/
theorem head?_flatMap_observed (events : List StreamEventRecord) :
    (events.flatMap (·.observed)).head? = events.head?.bind fun event => event.observed.head? := by
  cases events with
  | nil => rfl
  | cons event events =>
    rw [List.flatMap_cons, List.head?_append_of_ne_nil _ (observed_ne_nil event)]
    rfl

/-- The last observation is that of the last event. -/
theorem getLast?_flatMap_observed (events : List StreamEventRecord) :
    (events.flatMap (·.observed)).getLast? =
      events.getLast?.bind fun event => event.observed.getLast? := by
  rcases List.eq_nil_or_concat events with rfl | ⟨before, event, rfl⟩
  · rfl
  · rw [List.concat_eq_append, List.flatMap_append, List.flatMap_singleton,
      List.getLast?_append_of_ne_nil _ (observed_ne_nil event), List.getLast?_concat]
    rfl

/-- Observations that are handed out: as many as output tokens, one later than the other, from the
first boundary to the last. -/
structure Observes (request : RequestRecord) (observations : List ℕ) : Prop where
  count : request.outputTokens.value = some observations.length
  increasing : observations.Pairwise (· < ·)
  first : request.timing.firstOutputTokenOffsetNs = observations.head?
  last : request.timing.lastOutputTokenOffsetNs = observations.getLast?

theorem observes_of_tokenObservationOffsets {request : RequestRecord} (h : request.Constraints)
    {observations : List ℕ} (hobserve : tokenObservationOffsets request = .ok observations) :
    Observes request observations := by
  unfold tokenObservationOffsets at hobserve
  split at hobserve
  · cases hobserve
  · next outputCount hcount =>
    split at hobserve
    · cases hobserve
    · next put hput =>
      split_ifs at hobserve with hnil hlength hordered
      obtain rfl := Except.ok.inj hobserve
      obtain ⟨hsorted, hnodup⟩ := not_or.mp hordered
      have hflat := observeEvents_eq_some h.tokens h.offsets hput
      have hne : request.streamEvents ≠ [] := by
        rintro hevents
        rw [hflat, hevents] at hnil
        exact hnil rfl
      refine ⟨by rw [hcount, not_not.mp hlength], ?_, ?_, ?_⟩
      · have hpairwise := sorted_eq_self.mp (not_not.mp hsorted).symm
        exact (hpairwise.and (not_not.mp hnodup)).imp fun h => lt_of_le_of_ne h.1 h.2
      · rw [h.first hne, hflat, head?_flatMap_observed]
      · rw [h.last hne, hflat, getLast?_flatMap_observed]

/-! ## Reconciliation -/

namespace RequestRecord.Constraints

variable {request : RequestRecord}

theorem first_ge (h : request.Constraints) {first : ℕ}
    (hfirst : request.timing.firstOutputTokenOffsetNs = some first) :
    request.timing.dispatchOffsetNs ≤ first :=
  (h.within first (by simp [TimingRecord.observations, hfirst])).1

theorem tpotOf_nonneg (h : request.Constraints) {tpot : ℚ} (htpot : tpotOf request = .ok tpot) :
    0 ≤ tpot := by
  unfold tpotOf at htpot
  split at htpot
  · cases htpot
  · next outputCount _ =>
    split at htpot
    · cases htpot
    · next hcount =>
      split at htpot
      · next first last hfirst hlast =>
        obtain rfl := Except.ok.inj htpot
        have hle : (first : ℚ) ≤ last := by exact_mod_cast h.boundaries first hfirst last hlast
        have hcount : (2 : ℚ) ≤ outputCount := by exact_mod_cast not_lt.mp hcount
        exact div_nonneg (sub_nonneg.mpr hle) (by linarith)
      · cases htpot

/-- The gaps are the differences of at least two observations. -/
theorem itlOf_eq_ok {gaps : List ℚ} (hitl : itlOf request = .ok gaps) :
    ∃ observations, tokenObservationOffsets request = .ok observations ∧
      2 ≤ observations.length ∧
      gaps = (neighbours observations).map fun p => (p.2 - p.1 : ℚ) := by
  unfold itlOf at hitl
  split at hitl
  · cases hitl
  · next observations hobservations =>
    split at hitl
    · cases hitl
    · next hlength =>
      exact ⟨observations, hobservations, not_lt.mp hlength, (Except.ok.inj hitl).symm⟩

/-- Gaps that are available are positive and agree with the time per output token. -/
theorem gaps_of_itlOf (h : request.Constraints) {gaps : List ℚ} (hitl : itlOf request = .ok gaps) :
    (∀ gap ∈ gaps, 0 < gap) ∧ ∃ count tpot, 2 ≤ count ∧ request.outputTokens.value = some count ∧
      tpotOf request = .ok tpot ∧ gaps.length = count - 1 ∧ gaps.sum = tpot * (count - 1) := by
  obtain ⟨observations, hobservations, hlength, rfl⟩ := itlOf_eq_ok hitl
  obtain ⟨hcount, hincreasing, hfirst, hlast⟩ :=
    observes_of_tokenObservationOffsets h hobservations
  constructor
  · intro gap hgap
    obtain ⟨p, hp, rfl⟩ := List.mem_map.mp hgap
    have hlt : p.1 < p.2 := forall_neighbours.mpr hincreasing.isChain p hp
    have : (p.1 : ℚ) < p.2 := by exact_mod_cast hlt
    exact sub_pos.mpr this
  · cases observations with
    | nil => simp at hlength
    | cons first rest =>
      let last := (first :: rest).getLast (List.cons_ne_nil first rest)
      have hlast' : request.timing.lastOutputTokenOffsetNs = some last := by
        rw [hlast, List.getLast?_eq_getLast_of_ne_nil]
      have hpos : (2 : ℚ) ≤ (first :: rest).length := by exact_mod_cast hlength
      refine ⟨_, (last - first : ℚ) / ((first :: rest).length - 1), hlength, hcount, ?_, ?_, ?_⟩
      · simp only [tpotOf, hcount, if_neg (not_lt.mpr hlength), hfirst, List.head?_cons, hlast']
      · rw [List.length_map, length_neighbours]
      · rw [sum_map_neighbours (fun offset : ℕ => (offset : ℚ)) first rest]
        exact (div_mul_cancel₀ _ (by linarith)).symm

end RequestRecord.Constraints

/-- **The metrics of every valid record reconcile.** -/
theorem metricsReconcile {request : RequestRecord} (hvalid : request.modelValidate = .ok request) :
    MetricsReconcile request (deriveRequestMetrics request) := by
  have h := RequestRecord.constraints_of_modelValidate hvalid
  unfold deriveRequestMetrics
  by_cases hsuccess : request.outcome = .success
  · rw [if_neg (not_not.mpr hsuccess)]
    refine ⟨?_, ?_, ?_, ?_, ?_, ?_⟩
    · intro value hvalue
      obtain ⟨first, hfirst, rfl⟩ := Option.map_eq_some_iff.mp hvalue
      -- -- the comparison is one of integers
      have : (request.timing.dispatchOffsetNs : ℚ) ≤ first := by exact_mod_cast h.first_ge hfirst
      exact sub_nonneg.mpr this
    · rintro value ⟨⟩
      have : (request.timing.dispatchOffsetNs : ℚ) ≤ request.timing.terminalOffsetNs := by
        exact_mod_cast h.interval
      exact sub_nonneg.mpr this
    · intro value hvalue
      cases htpot : tpotOf request with
      | error reason => simp [htpot, Except.toOption] at hvalue
      | ok tpot =>
        obtain rfl : tpot = value := by simpa [htpot, Except.toOption] using hvalue
        exact h.tpotOf_nonneg htpot
    · dsimp only
      cases hitl : itlOf request with
      | error reason => simp [reasonOf, Except.toOption]
      | ok gaps =>
        obtain ⟨-, count, -, hcount, -, -, hlength, -⟩ := h.gaps_of_itlOf hitl
        -- -- a gap list that is given has one gap fewer than tokens, and is not empty
        have hne : gaps ≠ [] := by
          rintro rfl
          rw [List.length_nil] at hlength
          omega
        simp [reasonOf, Except.toOption, hne]
    · dsimp only
      cases hitl : itlOf request with
      | error reason => simp [Except.toOption]
      | ok gaps => exact (h.gaps_of_itlOf hitl).1
    · dsimp only
      cases hitl : itlOf request with
      | error reason => simp [Except.toOption]
      | ok gaps =>
        intro _
        obtain ⟨-, count, tpot, -, hvalue, htpot, hlength, hsum⟩ := h.gaps_of_itlOf hitl
        exact ⟨count, tpot, hvalue, by rw [htpot]; rfl, hlength, hsum⟩
  · rw [if_pos hsuccess]
    exact ⟨by simp, by simp, by simp, by simp, by simp, by simp⟩

end Stage0
