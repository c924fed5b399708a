import Mathlib.Algebra.Order.Field.Rat
import Mathlib.Algebra.BigOperators.Group.List.Basic
import Mathlib.Tactic.Linarith
import LlmInferenceSystems.Stage1.Contracts

/-!
# Metrics of a request

What a successful request's record says of its latency. The time to the first token, the time per
output token and the gaps between tokens are read from partly redundant fields; offsets are taken as
exact numbers.

## Main definitions

* `deriveStage1RequestMetrics`: the metrics
* `Stage1RequestRecord.Constraints`: what a valid record's counts and times satisfy
* `OwnObservations`: every token was observed by itself, one after the other
* `Reconcile`: the metrics are available when they are defined, and agree

## Main results

* `constraints_of_modelValidate`: what the validators enforce
* `reconcile_iff`: when the metrics of a successful record reconcile
-/

namespace Stage1

open Python

/-- `Stage1RequestMetrics` -/
structure Stage1RequestMetrics where
  endToEndNs : Option ℚ
  ttftNs : Option ℚ
  tpotNs : Option ℚ
  itlNs : List ℚ
  observedTokenSpanPerIntervalNs : Option ℚ
deriving DecidableEq

/-- `derive_stage1_request_metrics` -/
def deriveStage1RequestMetrics (request : Stage1RequestRecord) : Stage1RequestMetrics :=
  if request.terminalClass ≠ .success then ⟨none, none, none, [], none⟩
  else
    let timing := request.timing
    { endToEndNs := some (timing.terminalOffsetNs - timing.dispatchOffsetNs)
      ttftNs := timing.firstOutputTokenOffsetNs.map fun first : ℕ =>
        (first - timing.dispatchOffsetNs : ℚ)
      tpotNs :=
        if request.outputTokenCount < 2 then none
        else timing.firstOutputTokenOffsetNs.map fun first : ℕ =>
          (timing.terminalOffsetNs - first : ℚ) / (request.outputTokenCount - 1)
      itlNs :=
        if 2 ≤ request.outputTokenCount ∧ request.perTokenObservationComplete = true ∧
            request.tokenEventObservationOffsetsNs.length = request.outputTokenCount then
          (neighbours request.tokenEventObservationOffsetsNs).map fun p => (p.2 - p.1 : ℚ)
        else []
      observedTokenSpanPerIntervalNs :=
        match timing.firstOutputTokenOffsetNs, timing.lastOutputTokenOffsetNs with
        | some first, some last =>
          if 2 ≤ request.outputTokenCount then
            some ((last - first : ℚ) / (request.outputTokenCount - 1))
          else none
        | _, _ => none }

namespace Stage1RequestRecord

/-- What the counts and the times of a valid record satisfy. -/
structure Constraints (request : Stage1RequestRecord) : Prop where
  deltas : ∀ delta ∈ request.tokenEventDeltaCounts, 0 < delta
  within : ∀ value ∈ request.timing.present,
    request.timing.dispatchOffsetNs ≤ value ∧ value ≤ request.timing.terminalOffsetNs
  chronological : request.timing.present.Pairwise (· ≤ ·)
  interval : request.timing.dispatchOffsetNs ≤ request.timing.terminalOffsetNs
  aligned : request.tokenEventDeltaCounts.length = request.tokenEventObservationOffsetsNs.length
  counted : request.tokenEventDeltaCounts.sum = request.outputTokenCount
  first : request.outputTokenCount ≠ 0 →
    request.timing.firstOutputTokenOffsetNs = request.tokenEventObservationOffsetsNs.head?
  last : request.outputTokenCount ≠ 0 →
    request.timing.lastOutputTokenOffsetNs = request.tokenEventObservationOffsetsNs.getLast?
  complete : request.perTokenObservationComplete = true →
    ∀ delta ∈ request.tokenEventDeltaCounts, delta = 1

/-- What `validate_chronology` enforces. -/
theorem of_validateChronology {timing : Stage1TimingRecord}
    (h : timing.validateChronology = .ok ()) :
    timing.dispatchOffsetNs ≤ timing.terminalOffsetNs ∧
      (∀ value ∈ timing.present,
        timing.dispatchOffsetNs ≤ value ∧ value ≤ timing.terminalOffsetNs) ∧
      timing.present.Pairwise (· ≤ ·) := by
  unfold Stage1TimingRecord.validateChronology at h
  split_ifs at h with hinterval hwithin hsorted htogether
  push Not at hwithin
  exact ⟨not_lt.mp hinterval, hwithin, sorted_eq_self.mp (not_not.mp hsorted).symm⟩

/-- **What the validators enforce.** -/
theorem constraints_of_modelValidate {request : Stage1RequestRecord}
    (h : request.modelValidate = .ok request) : request.Constraints := by
  unfold modelValidate at h
  split_ifs at h with hid hcase hstatus hdeltas
  obtain ⟨⟨⟩, htiming, h⟩ := bind_eq_ok.mp h
  obtain ⟨⟨⟩, -, h⟩ := bind_eq_ok.mp h
  obtain ⟨⟨⟩, -, h⟩ := bind_eq_ok.mp h
  obtain ⟨⟨⟩, htokens, -⟩ := bind_eq_ok.mp h
  obtain ⟨hinterval, hwithin, hchronological⟩ := of_validateChronology htiming
  unfold checkTokenEvents at htokens
  split_ifs at htokens with haligned hcounted hfirst hlast hcomplete
  push Not at hfirst hlast hcomplete
  exact ⟨hdeltas, hwithin, hchronological, hinterval, not_not.mp haligned, not_not.mp hcounted,
    hfirst, hlast, hcomplete⟩

end Stage1RequestRecord

/-- Every output token has its own observation, later than the one before it. -/
def OwnObservations (request : Stage1RequestRecord) : Prop :=
  (∀ delta ∈ request.tokenEventDeltaCounts, delta = 1) ∧
    request.tokenEventObservationOffsetsNs.IsChain (· < ·)

/-- The gaps of a request, when there are some: one less than the tokens, all positive, adding up to
the time between the first and the last token; and the time per token is at least the span per
interval. -/
structure GapsReconcile (request : Stage1RequestRecord) (metrics : Stage1RequestMetrics) : Prop where
  length : metrics.itlNs.length = request.outputTokenCount - 1
  positive : ∀ gap ∈ metrics.itlNs, 0 < gap
  sum : ∃ first last, request.tokenEventObservationOffsetsNs.head? = some first ∧
    request.tokenEventObservationOffsetsNs.getLast? = some last ∧
    metrics.itlNs.sum = (last - first : ℚ)
  order : ∃ tpot span, metrics.tpotNs = some tpot ∧
    metrics.observedTokenSpanPerIntervalNs = some span ∧ 0 ≤ span ∧ span ≤ tpot

/-- The metrics are available exactly when they are defined, and agree with each other. -/
structure Reconcile (request : Stage1RequestRecord) (metrics : Stage1RequestMetrics) : Prop where
  ttft : metrics.ttftNs ≠ none ↔ 1 ≤ request.outputTokenCount
  tpot : metrics.tpotNs ≠ none ↔ 2 ≤ request.outputTokenCount
  span : metrics.observedTokenSpanPerIntervalNs ≠ none ↔ 2 ≤ request.outputTokenCount
  itl : metrics.itlNs ≠ [] ↔ 2 ≤ request.outputTokenCount ∧ OwnObservations request
  gaps : metrics.itlNs ≠ [] → GapsReconcile request metrics

/-! ## What a valid record says -/

namespace Stage1RequestRecord.Constraints

variable {request : Stage1RequestRecord}

/-- A request with tokens has observations, and the boundaries are those of the first and the
last. -/
theorem observations (h : request.Constraints) (hcount : 1 ≤ request.outputTokenCount) :
    ∃ first rest, request.tokenEventObservationOffsetsNs = first :: rest ∧
      request.timing.firstOutputTokenOffsetNs = some first ∧
      request.timing.lastOutputTokenOffsetNs =
        some ((first :: rest).getLast (List.cons_ne_nil first rest)) := by
  have hne : request.outputTokenCount ≠ 0 := Nat.one_le_iff_ne_zero.mp hcount
  have hfirst := h.first hne
  have hlast := h.last hne
  cases hoffsets : request.tokenEventObservationOffsetsNs with
  | nil =>
    have hnil : request.tokenEventDeltaCounts = [] := by
      have haligned := h.aligned
      rw [hoffsets] at haligned
      exact List.length_eq_zero_iff.mp haligned
    have hcounted := h.counted
    rw [hnil, List.sum_nil] at hcounted
    exact absurd hcounted.symm hne
  | cons first rest =>
    rw [hoffsets] at hfirst hlast
    exact ⟨first, rest, rfl, hfirst, by rw [hlast, List.getLast?_eq_getLast_of_ne_nil]⟩

/-- The first token is not after the last, and the last not after the end. -/
theorem boundaries (h : request.Constraints) {first last : ℕ}
    (hfirst : request.timing.firstOutputTokenOffsetNs = some first)
    (hlast : request.timing.lastOutputTokenOffsetNs = some last) :
    first ≤ last ∧ last ≤ request.timing.terminalOffsetNs := by
  have hpresent : ∃ before, request.timing.present = before ++ [first, last] := by
    refine ⟨[request.timing.responseHeadersOffsetNs,
      request.timing.firstResponseBodyBytesOffsetNs].filterMap id, ?_⟩
    have hpair : [first, last] = [some first, some last].filterMap id := rfl
    rw [Stage1TimingRecord.present, hfirst, hlast, hpair, ← List.filterMap_append]
    rfl
  obtain ⟨before, hpresent⟩ := hpresent
  have hchronological := h.chronological
  rw [hpresent, List.pairwise_append] at hchronological
  refine ⟨List.rel_of_pairwise_cons hchronological.2.1 (List.mem_singleton_self last), ?_⟩
  exact (h.within last (by simp [hpresent])).2

/-- Where every event has one token, there are as many observations as tokens. -/
theorem length_of_ones (h : request.Constraints)
    (hones : ∀ delta ∈ request.tokenEventDeltaCounts, delta = 1) :
    request.tokenEventObservationOffsetsNs.length = request.outputTokenCount := by
  rw [← h.aligned, ← h.counted, List.eq_replicate_of_mem hones]
  simp

/-- The gaps are there when two tokens were counted and the observation is marked complete. -/
theorem itlNs_eq (h : request.Constraints) (hsuccess : request.terminalClass = .success) :
    (deriveStage1RequestMetrics request).itlNs =
      if 2 ≤ request.outputTokenCount ∧ request.perTokenObservationComplete = true then
        (neighbours request.tokenEventObservationOffsetsNs).map fun p => (p.2 - p.1 : ℚ)
      else [] := by
  rw [deriveStage1RequestMetrics, if_neg (not_not.mpr hsuccess)]
  by_cases hcomplete : request.perTokenObservationComplete = true
  · have hlength := h.length_of_ones (h.complete hcomplete)
    simp [hcomplete, hlength]
  · simp [hcomplete]

theorem itlNs_ne_nil_iff (h : request.Constraints) (hsuccess : request.terminalClass = .success) :
    (deriveStage1RequestMetrics request).itlNs ≠ [] ↔
      2 ≤ request.outputTokenCount ∧ request.perTokenObservationComplete = true := by
  rw [h.itlNs_eq hsuccess]
  by_cases hgaps : 2 ≤ request.outputTokenCount ∧ request.perTokenObservationComplete = true
  · rw [if_pos hgaps]
    refine iff_of_true (fun hnil => ?_) hgaps
    have hlength := congrArg List.length hnil
    rw [List.length_map, length_neighbours, h.length_of_ones (h.complete hgaps.2)] at hlength
    simp only [List.length_nil] at hlength
    omega
  · rw [if_neg hgaps]
    exact iff_of_false (fun hne => hne rfl) hgaps

theorem ttftNs_ne_none_iff (hsuccess : request.terminalClass = .success) :
    (deriveStage1RequestMetrics request).ttftNs ≠ none ↔
      request.timing.firstOutputTokenOffsetNs ≠ none := by
  rw [deriveStage1RequestMetrics, if_neg (not_not.mpr hsuccess)]
  exact not_congr Option.map_eq_none_iff

/-- The time per token and the span per interval of a request with two tokens. -/
theorem tpotNs_span (h : request.Constraints) (hsuccess : request.terminalClass = .success)
    (hcount : 2 ≤ request.outputTokenCount) :
    ∃ tpot span, (deriveStage1RequestMetrics request).tpotNs = some tpot ∧
      (deriveStage1RequestMetrics request).observedTokenSpanPerIntervalNs = some span ∧
      0 ≤ span ∧ span ≤ tpot := by
  obtain ⟨first, rest, -, hfirst, hlast⟩ := h.observations (by omega)
  obtain ⟨hspan, hend⟩ := h.boundaries hfirst hlast
  have hpos : (0 : ℚ) ≤ request.outputTokenCount - 1 := by
    have : (2 : ℚ) ≤ request.outputTokenCount := by exact_mod_cast hcount
    linarith
  have hspan' := (Nat.cast_le (α := ℚ)).mpr hspan
  have hend' := (Nat.cast_le (α := ℚ)).mpr hend
  rw [deriveStage1RequestMetrics, if_neg (not_not.mpr hsuccess)]
  dsimp only
  rw [if_neg (by omega), hfirst, hlast]
  dsimp only
  rw [if_pos hcount]
  refine ⟨_, _, rfl, rfl, div_nonneg (sub_nonneg.mpr hspan') hpos, ?_⟩
  exact div_le_div_of_nonneg_right (sub_le_sub_right hend' _) hpos

/-- Without two tokens there is neither. -/
theorem tpotNs_span_eq_none (hsuccess : request.terminalClass = .success)
    (hcount : ¬ 2 ≤ request.outputTokenCount) :
    (deriveStage1RequestMetrics request).tpotNs = none ∧
      (deriveStage1RequestMetrics request).observedTokenSpanPerIntervalNs = none := by
  rw [deriveStage1RequestMetrics, if_neg (not_not.mpr hsuccess)]
  dsimp only
  rw [if_pos (by omega)]
  refine ⟨rfl, ?_⟩
  split
  · rw [if_neg hcount]
  · rfl

/-- The time per token and the span per interval are available with two tokens. -/
theorem available_iff (h : request.Constraints) (hsuccess : request.terminalClass = .success) :
    ((deriveStage1RequestMetrics request).tpotNs ≠ none ↔ 2 ≤ request.outputTokenCount) ∧
      ((deriveStage1RequestMetrics request).observedTokenSpanPerIntervalNs ≠ none ↔
        2 ≤ request.outputTokenCount) := by
  by_cases hcount : 2 ≤ request.outputTokenCount
  · obtain ⟨tpot, span, htpot, hspan, -⟩ := h.tpotNs_span hsuccess hcount
    simp [htpot, hspan, hcount]
  · obtain ⟨htpot, hspan⟩ := tpotNs_span_eq_none hsuccess hcount
    simp [htpot, hspan, hcount]

/-- The gaps of a request whose tokens were each observed by itself. -/
theorem gapsReconcile (h : request.Constraints) (hsuccess : request.terminalClass = .success)
    (hcount : 2 ≤ request.outputTokenCount) (hcomplete : request.perTokenObservationComplete = true)
    (hown : OwnObservations request) :
    GapsReconcile request (deriveStage1RequestMetrics request) := by
  have hitl := h.itlNs_eq hsuccess
  rw [if_pos ⟨hcount, hcomplete⟩] at hitl
  refine ⟨?_, ?_, ?_, h.tpotNs_span hsuccess hcount⟩
  · rw [hitl, List.length_map, length_neighbours, h.length_of_ones hown.1]
  · rw [hitl]
    intro gap hgap
    obtain ⟨p, hp, rfl⟩ := List.mem_map.mp hgap
    have hlt : p.1 < p.2 := forall_neighbours.mpr hown.2 p hp
    have : (p.1 : ℚ) < p.2 := by exact_mod_cast hlt
    exact sub_pos.mpr this
  · obtain ⟨first, rest, hoffsets, -, -⟩ := h.observations (by omega)
    refine ⟨first, (first :: rest).getLast (List.cons_ne_nil first rest), by rw [hoffsets]; rfl,
      by rw [hoffsets, List.getLast?_eq_getLast_of_ne_nil], ?_⟩
    rw [hitl, hoffsets]
    exact sum_map_neighbours (fun offset : ℕ => (offset : ℚ)) first rest

end Stage1RequestRecord.Constraints

/-- **When the metrics of a successful record reconcile**: a request without tokens has no token
boundary, and a request with two tokens or more is marked complete exactly when each of them was
observed by itself, later than the one before. -/
theorem reconcile_iff (request : Stage1RequestRecord) (hvalid : request.modelValidate = .ok request)
    (hsuccess : request.terminalClass = .success) :
    Reconcile request (deriveStage1RequestMetrics request) ↔
      (request.outputTokenCount = 0 → request.timing.firstOutputTokenOffsetNs = none) ∧
      (2 ≤ request.outputTokenCount →
        (request.perTokenObservationComplete = true ↔ OwnObservations request)) := by
  have h := Stage1RequestRecord.constraints_of_modelValidate hvalid
  have hitl := h.itlNs_ne_nil_iff hsuccess
  -- a request with tokens has a first token time
  have hfirst : 1 ≤ request.outputTokenCount → request.timing.firstOutputTokenOffsetNs ≠ none := by
    intro hcount
    obtain ⟨first, _, -, hfirst, -⟩ := h.observations hcount
    simp [hfirst]
  constructor
  -- the time to first token asks for a token when there is a time
  · intro hreconcile
    refine ⟨fun hzero => ?_, fun hcount => ?_⟩
    · by_contra hsome
      have := hreconcile.ttft.mp ((Stage1RequestRecord.Constraints.ttftNs_ne_none_iff hsuccess).mpr
        hsome)
      omega
    -- the gaps are listed exactly when there are two tokens, each observed on its own
    · have := hitl.symm.trans hreconcile.itl
      simpa [hcount] using this
  -- what the other conditions say holds of every valid record
  · rintro ⟨hzero, hown⟩
    refine ⟨?_, ?_, ?_, ?_, fun hgaps => ?_⟩
    · rw [Stage1RequestRecord.Constraints.ttftNs_ne_none_iff hsuccess]
      refine ⟨fun hsome => ?_, hfirst⟩
      by_contra hnone
      exact hsome (hzero (by omega))
    · exact (h.available_iff hsuccess).1
    · exact (h.available_iff hsuccess).2
    · rw [hitl]
      exact and_congr_right hown
    · obtain ⟨hcount, hcomplete⟩ := hitl.mp hgaps
      exact h.gapsReconcile hsuccess hcount hcomplete ((hown hcount).mp hcomplete)

/-- A successful request of two tokens, seen at `second` and the third tick. -/
def twoTokenRecord (second : ℕ) : Stage1RequestRecord where
  requestId := lit "r"
  caseId := lit "c"
  phase := .measured
  terminalClass := .success
  httpStatus := some 200
  timing := ⟨0, some 1, some 1, some 3, some second, 9⟩
  inputTokenCount := 1
  outputTokenCount := 2
  tokenEventDeltaCounts := [1, 1]
  tokenEventObservationOffsetsNs := [3, second]
  perTokenObservationComplete := true
  sloSatisfied := false
  failure := none

theorem reconcile_iff_twoTokenRecord :
    Reconcile (twoTokenRecord 5) (deriveStage1RequestMetrics (twoTokenRecord 5)) ↔
      ((twoTokenRecord 5).outputTokenCount = 0 →
        (twoTokenRecord 5).timing.firstOutputTokenOffsetNs = none) ∧
      (2 ≤ (twoTokenRecord 5).outputTokenCount →
        ((twoTokenRecord 5).perTokenObservationComplete = true ↔
          OwnObservations (twoTokenRecord 5))) :=
  reconcile_iff (twoTokenRecord 5) (by decide) rfl

/-- Two tokens observed at one time leave a gap of zero. -/
theorem not_reconcile_twoTokenRecord :
    ¬ ∀ request : Stage1RequestRecord, request.modelValidate = .ok request →
      request.terminalClass = .success →
        Reconcile request (deriveStage1RequestMetrics request) := by
  intro h
  have hgaps := (h (twoTokenRecord 3) (by decide) rfl).gaps (by decide +kernel)
  have hgap : (0 : ℚ) ∈ (deriveStage1RequestMetrics (twoTokenRecord 3)).itlNs := by decide +kernel
  exact lt_irrefl 0 (hgaps.positive 0 hgap)

end Stage1
