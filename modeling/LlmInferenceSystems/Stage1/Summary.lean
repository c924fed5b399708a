import Mathlib.Data.List.Perm.Basic
import LlmInferenceSystems.Python.Percentile
import LlmInferenceSystems.Stage1.Evidence
import LlmInferenceSystems.Stage1.RequestMetrics

/-!
# Summary of a run

The summary of a run counts its measured requests by outcome and takes latencies and tokens from the
successful ones. Warmup requests are counted and nothing else is read of them; of a request without
success only the terminal class and the interval are.

## Main definitions

* `deriveStage1Summary`: the summary
* `MeasuredView`: what is read of any measured request
* `Exchangeable`: requests that a summary cannot tell apart
* `Excludes`: the summary depends on nothing else, and counts what it should

## Main results

* `deriveStage1Summary_congr`: requests with the same views and the same successes
* `deriveStage1Summary_excludes`: failed and warmup requests do not leak into a summary
-/

namespace Stage1

open Python FloatArithmetic

/-! ## Contracts -/

/-- `Stage1LoadShape` -/
structure Stage1LoadShape where
  requestedClientConcurrency : ℕ

/-- `Stage1SLODefinition` -/
structure Stage1SLODefinition where
  successfulEndToEndThresholdNs : ℕ

/-- The configuration of a run, as far as its summary reads it. -/
structure Stage1RunConfiguration where
  loadShape : Stage1LoadShape
  slo : Stage1SLODefinition

/-- `RateValue`: a ratio with its counts, missing when there is nothing to divide by. -/
structure RateValue where
  numerator : ℕ
  denominator : ℕ
  value : Option ℚ
deriving DecidableEq

/-- `Stage1MetricName` -/
inductive Stage1MetricName where
  | endToEndSuccessNs
  | ttftNs
  | tpotNs
  | itlNs
  | observedTokenSpanPerIntervalNs
deriving DecidableEq

/-- `MetricUnavailableReason`, as far as a summary uses it. -/
inductive MetricUnavailableReason where
  | noSamples
deriving DecidableEq

/-- A distribution, without its unit and its algorithm, which are constant. -/
structure Stage1MetricDistribution where
  metric : Stage1MetricName
  sampleCount : ℕ
  p50 : Option ℚ
  p95 : Option ℚ
  p99 : Option ℚ
  denominator : Str
  inclusionSemantics : Str
  unavailableReason : Option MetricUnavailableReason
deriving DecidableEq

/-- A summary, without the boundary, the disclaimer and the two server batch sizes, which are
constant. -/
structure Stage1RunSummary where
  measurementWindowNs : ℕ
  attemptedMeasuredRequests : ℕ
  terminalMeasuredRequests : ℕ
  successfulMeasuredRequests : ℕ
  failedNonTimeoutMeasuredRequests : ℕ
  timedOutMeasuredRequests : ℕ
  cancelledMeasuredRequests : ℕ
  warmupRecordCount : ℕ
  warmupExcludedCount : ℕ
  requestedClientConcurrency : ℕ
  observedMaxClientConcurrency : ℤ
  offeredRequestRate : ℚ
  terminalRequestRate : ℚ
  successfulRequestThroughput : ℚ
  outputTokenThroughput : ℚ
  totalTokenThroughput : ℚ
  sloSatisfyingRequestCount : ℕ
  goodput : ℚ
  failureRate : RateValue
  timeoutRate : RateValue
  endToEndSuccess : Stage1MetricDistribution
  ttft : Stage1MetricDistribution
  tpot : Stage1MetricDistribution
  itl : Stage1MetricDistribution
  observedTokenSpanPerInterval : Stage1MetricDistribution
deriving DecidableEq

/-- The type of the percentiles, and `validate_distribution` -/
def Stage1MetricDistribution.modelValidate (distribution : Stage1MetricDistribution) :
    Except PyError Stage1MetricDistribution :=
  let percentiles := [distribution.p50, distribution.p95, distribution.p99]
  if ¬ ∀ value ∈ percentiles.filterMap id, 0 ≤ value then .error (.validation "percentile")
  else if ¬ IsIdentifier distribution.denominator then .error (.validation "denominator")
  else if ¬ (1 ≤ distribution.inclusionSemantics.length ∧
      distribution.inclusionSemantics.length ≤ 512 ∧
      IsEncodable distribution.inclusionSemantics) then
    .error (.validation "inclusion_semantics")
  else if distribution.sampleCount = 0 then
    if ∃ value ∈ percentiles, value ≠ none then
      .error (.validation "empty distributions cannot contain percentiles")
    else if distribution.unavailableReason ≠ some .noSamples then
      .error (.validation "empty distributions require NO_SAMPLES")
    else .ok distribution
  else if (∃ value ∈ percentiles, value = none) ∨ distribution.unavailableReason ≠ none then
    .error (.validation "nonempty distributions require percentiles and no reason")
  else .ok distribution

/-- The types of the fields, and `validate_counts` -/
def Stage1RunSummary.modelValidate (summary : Stage1RunSummary) :
    Except PyError Stage1RunSummary :=
  if ¬ 0 < summary.measurementWindowNs then .error (.validation "measurement_window_ns")
  else if ¬ 0 < summary.requestedClientConcurrency then
    .error (.validation "requested_client_concurrency")
  else if summary.observedMaxClientConcurrency < 0 then
    .error (.validation "observed_max_client_concurrency")
  else if ¬ ∀ rate ∈ [summary.offeredRequestRate, summary.terminalRequestRate,
      summary.successfulRequestThroughput, summary.outputTokenThroughput,
      summary.totalTokenThroughput, summary.goodput], 0 ≤ rate then
    .error (.validation "rate")
  else if summary.terminalMeasuredRequests ≠ summary.attemptedMeasuredRequests then
    .error (.validation "all attempted fixture requests must reach a terminal state")
  else if summary.successfulMeasuredRequests + summary.failedNonTimeoutMeasuredRequests +
      summary.timedOutMeasuredRequests + summary.cancelledMeasuredRequests ≠
      summary.terminalMeasuredRequests then
    .error (.validation "terminal populations must reconcile")
  else if summary.warmupRecordCount ≠ summary.warmupExcludedCount then
    .error (.validation "every retained warmup must be excluded")
  else if summary.requestedClientConcurrency < summary.observedMaxClientConcurrency then
    .error (.validation "observed concurrency cannot exceed its requested bound")
  else .ok summary

section

variable [FloatArithmetic]

/-- The type of the value, and `validate_value` -/
def RateValue.modelValidate (rate : RateValue) : Except PyError RateValue :=
  if ¬ ∀ value ∈ rate.value, 0 ≤ value ∧ value ≤ 1 then .error (.validation "value")
  else if rate.denominator = 0 then
    if rate.value ≠ none then
      .error (.validation "zero-denominator rates must be unavailable")
    else .ok rate
  else do
    let value ← nearest (rate.numerator / rate.denominator)
    if rate.value ≠ some value then
      .error (.validation "rate value must equal numerator divided by denominator")
    else .ok rate

/-! ## The summary -/

/-- The metrics of a request, each of them rounded once. -/
def roundedMetrics (request : Stage1RequestRecord) : Except PyError Stage1RequestMetrics := do
  let metrics := deriveStage1RequestMetrics request
  return {
    endToEndNs := ← metrics.endToEndNs.mapM nearest
    ttftNs := ← metrics.ttftNs.mapM nearest
    tpotNs := ← metrics.tpotNs.mapM nearest
    itlNs := ← collect nearest metrics.itlNs
    observedTokenSpanPerIntervalNs := ← metrics.observedTokenSpanPerIntervalNs.mapM nearest }

/-- `round(percentile_type7(values, probability) or 0.0, 6)` -/
def roundedPercentile (values : List ℚ) (probability : ℚ) : Except PyError ℚ := do
  let percentile ← percentileType7 values (← nearest probability)
  roundDigits (percentile.getD 0) 6

/-- `_distribution` -/
def distribution (metric : Stage1MetricName) (values : List ℚ) (denominator : Str)
    (inclusionSemantics : Str) : Except PyError Stage1MetricDistribution :=
  if values = [] then
    Stage1MetricDistribution.modelValidate
      { metric, sampleCount := 0, p50 := none, p95 := none, p99 := none, denominator,
        inclusionSemantics, unavailableReason := some .noSamples }
  else do
    let p50 ← roundedPercentile values (50 / 100)
    let p95 ← roundedPercentile values (95 / 100)
    let p99 ← roundedPercentile values (99 / 100)
    Stage1MetricDistribution.modelValidate
      { metric, sampleCount := values.length, p50 := some p50, p95 := some p95, p99 := some p99,
        denominator, inclusionSemantics, unavailableReason := none }

/-- `round(count / seconds, 9)` -/
def roundedRate (count : ℕ) (seconds : ℚ) : Except PyError ℚ := do
  roundDigits (← divideCount count seconds) 9

/-- The share of the attempted requests that a rate is. -/
def shareOfAttempted (count attempted : ℕ) : Except PyError RateValue := do
  let value ← if attempted = 0 then pure none else some <$> nearest (count / attempted)
  RateValue.modelValidate ⟨count, attempted, value⟩

/-- The SLO result of a request, reconstructed. -/
def expectedSlo (configuration : Stage1RunConfiguration) (request : Stage1RequestRecord) : Bool :=
  request.terminalClass = .success ∧
    (request.timing.terminalOffsetNs : ℤ) - request.timing.dispatchOffsetNs ≤
      configuration.slo.successfulEndToEndThresholdNs

/-- The check of a request's stored SLO result. -/
def checkSlo (configuration : Stage1RunConfiguration) (request : Stage1RequestRecord) :
    Except PyError Unit :=
  if request.sloSatisfied ≠ expectedSlo configuration request then
    .error (.value "stored request SLO result differs from pure reconstruction")
  else .ok ()

/-- From the first dispatch to the last end. -/
def measurementWindow (measured : List Stage1RequestRecord) : Except PyError ℕ :=
  match (measured.map (·.timing.dispatchOffsetNs)).min?,
    (measured.map (·.timing.terminalOffsetNs)).max? with
  | some measurementStart, some measurementEnd =>
    if measurementEnd ≤ measurementStart then
      .error (.value "measurement window must be positive")
    else .ok (measurementEnd - measurementStart)
  | _, _ => .error (.value "min() iterable argument is empty")

/-- How many requests of each kind, and how many tokens in the successful ones. -/
structure Stage1Counts where
  warmup : ℕ
  attempted : ℕ
  successful : ℕ
  failedNonTimeout : ℕ
  timedOut : ℕ
  cancelled : ℕ
  outputTokens : ℕ
  totalTokens : ℕ
  good : ℕ
deriving DecidableEq

/-- The requests of the warm-up. -/
def warmupOf (requests : List Stage1RequestRecord) : List Stage1RequestRecord :=
  requests.filter (·.phase = .warmup)

/-- The measured requests. -/
def measuredOf (requests : List Stage1RequestRecord) : List Stage1RequestRecord :=
  requests.filter (·.phase = .measured)

/-- The measured requests with a terminal class. -/
def endedWith (terminalClass : Stage1TerminalClass) (measured : List Stage1RequestRecord) :
    List Stage1RequestRecord :=
  measured.filter (·.terminalClass = terminalClass)

/-- The counts of a run's requests by how they ended. -/
def countRequests (requests : List Stage1RequestRecord) : Stage1Counts :=
  let measured := measuredOf requests
  let successful := endedWith .success measured
  { warmup := (warmupOf requests).length
    attempted := measured.length
    successful := successful.length
    failedNonTimeout := (endedWith .failed measured).length
    timedOut := (endedWith .timeout measured).length
    cancelled := (endedWith .cancelled measured).length
    outputTokens := (successful.map (·.outputTokenCount)).sum
    totalTokens := (successful.map fun request =>
      request.inputTokenCount + request.outputTokenCount).sum
    good := measured.countP (·.sloSatisfied) }

/-- The record that is returned. -/
def summarize (configuration : Stage1RunConfiguration) (counts : Stage1Counts)
    (measurementWindowNs : ℕ) (seconds : ℚ) (metrics : List Stage1RequestMetrics)
    (observedMaximum : ℤ) : Except PyError Stage1RunSummary := do
  let summary : Stage1RunSummary := {
    measurementWindowNs
    attemptedMeasuredRequests := counts.attempted
    terminalMeasuredRequests := counts.attempted
    successfulMeasuredRequests := counts.successful
    failedNonTimeoutMeasuredRequests := counts.failedNonTimeout
    timedOutMeasuredRequests := counts.timedOut
    cancelledMeasuredRequests := counts.cancelled
    warmupRecordCount := counts.warmup
    warmupExcludedCount := counts.warmup
    requestedClientConcurrency := configuration.loadShape.requestedClientConcurrency
    observedMaxClientConcurrency := observedMaximum
    offeredRequestRate := ← roundedRate counts.attempted seconds
    terminalRequestRate := ← roundedRate counts.attempted seconds
    successfulRequestThroughput := ← roundedRate counts.successful seconds
    outputTokenThroughput := ← roundedRate counts.outputTokens seconds
    totalTokenThroughput := ← roundedRate counts.totalTokens seconds
    sloSatisfyingRequestCount := counts.good
    goodput := ← roundedRate counts.good seconds
    failureRate := ← shareOfAttempted counts.failedNonTimeout counts.attempted
    timeoutRate := ← shareOfAttempted counts.timedOut counts.attempted
    endToEndSuccess := ← distribution .endToEndSuccessNs (metrics.filterMap (·.endToEndNs))
      (lit "successful measured requests")
      (lit "Successful measured requests only; warmup and all failures excluded.")
    ttft := ← distribution .ttftNs (metrics.filterMap (·.ttftNs))
      (lit "successful measured requests with first output token")
      (lit "Dispatch to first parsed fixture output-token event.")
    tpot := ← distribution .tpotNs (metrics.filterMap (·.tpotNs))
      (lit "successful measured requests with at least two exact output tokens")
      (lit "Terminal success minus first output token, divided by exact output tokens minus one.")
    itl := ← distribution .itlNs (metrics.flatMap (·.itlNs))
      (lit "adjacent distinct per-token observations from successful measured requests")
      (lit "Unavailable when one SSE event contains multiple fixture tokens.")
    observedTokenSpanPerInterval := ← distribution .observedTokenSpanPerIntervalNs
      (metrics.filterMap (·.observedTokenSpanPerIntervalNs))
      (lit "successful measured requests with at least two exact output tokens")
      (lit "Last observed token event minus first observed token event, divided by token " ++
        lit "intervals; this metric is not TPOT.") }
  summary.modelValidate

/-- `derive_stage1_summary` -/
def deriveStage1Summary (configuration : Stage1RunConfiguration)
    (requests : List Stage1RequestRecord) (streamEvents : List StreamEvidenceRecord) :
    Except PyError Stage1RunSummary :=
  let measured := measuredOf requests
  if measured = [] then
    .error (.value "Stage 1 fixture summary requires measured requests")
  else do
    each (checkSlo configuration) measured
    let measurementWindowNs ← measurementWindow measured
    let seconds ← nearest (measurementWindowNs / 10 ^ 9)
    let metrics ← collect roundedMetrics (endedWith .success measured)
    let observedMaximum ← deriveObservedMaxClientConcurrency streamEvents
    summarize configuration (countRequests requests) measurementWindowNs seconds metrics
      observedMaximum

end

/-! ## What a summary reads -/

/-- What a summary reads of any measured request. -/
structure MeasuredView where
  terminalClass : Stage1TerminalClass
  dispatchOffsetNs : ℕ
  terminalOffsetNs : ℕ
  sloSatisfied : Bool
deriving DecidableEq

/-- What the summary reads of a request. -/
def Stage1RequestRecord.view (request : Stage1RequestRecord) : MeasuredView where
  terminalClass := request.terminalClass
  dispatchOffsetNs := request.timing.dispatchOffsetNs
  terminalOffsetNs := request.timing.terminalOffsetNs
  sloSatisfied := request.sloSatisfied

/-- As many warmup requests, the same views of measured ones, and the same successful ones, in any
order. -/
structure SameViews (requests requests' : List Stage1RequestRecord) : Prop where
  warmup : (warmupOf requests).length = (warmupOf requests').length
  measured : ((measuredOf requests).map (·.view)).Perm ((measuredOf requests').map (·.view))
  successful : (endedWith .success (measuredOf requests)).Perm
    (endedWith .success (measuredOf requests'))

/-- Requests that a summary cannot tell apart: two warmup requests, or two measured ones without
success that have the same view. -/
inductive Exchangeable : Stage1RequestRecord → Stage1RequestRecord → Prop
  | refl (request : Stage1RequestRecord) : Exchangeable request request
  | warmup {request request' : Stage1RequestRecord} (h : request.phase = .warmup)
      (h' : request'.phase = .warmup) : Exchangeable request request'
  | unsuccessful {request request' : Stage1RequestRecord} (h : request.phase = .measured)
      (h' : request'.phase = .measured) (hclass : request.terminalClass ≠ .success)
      (hview : request'.view = request.view) : Exchangeable request request'

variable {requests requests' : List Stage1RequestRecord}

/-- The order of the requests does not show. -/
theorem SameViews.of_perm (h : requests.Perm requests') : SameViews requests requests' where
  warmup := (h.filter _).length_eq
  measured := (h.filter _).map _
  successful := (h.filter _).filter _

theorem warmupOf_cons (request : Stage1RequestRecord) (requests : List Stage1RequestRecord) :
    warmupOf (request :: requests) =
      if request.phase = .warmup then request :: warmupOf requests else warmupOf requests := by
  simp [warmupOf, List.filter_cons]

theorem measuredOf_cons (request : Stage1RequestRecord) (requests : List Stage1RequestRecord) :
    measuredOf (request :: requests) =
      if request.phase = .measured then request :: measuredOf requests else measuredOf requests := by
  simp [measuredOf, List.filter_cons]

theorem endedWith_cons (terminalClass : Stage1TerminalClass) (request : Stage1RequestRecord)
    (measured : List Stage1RequestRecord) :
    endedWith terminalClass (request :: measured) =
      if request.terminalClass = terminalClass then request :: endedWith terminalClass measured
      else endedWith terminalClass measured := by
  simp [endedWith, List.filter_cons]

/-- The same request before both. -/
theorem SameViews.cons (request : Stage1RequestRecord) (h : SameViews requests requests') :
    SameViews (request :: requests) (request :: requests') := by
  cases hphase : request.phase with
  | warmup =>
    constructor
    · simpa [warmupOf_cons, hphase] using h.warmup
    · simpa [measuredOf_cons, hphase] using h.measured
    · simpa [measuredOf_cons, hphase] using h.successful
  | measured =>
    constructor
    · simpa [warmupOf_cons, hphase] using h.warmup
    · simpa [measuredOf_cons, hphase] using h.measured
    · by_cases hsuccess : request.terminalClass = .success
      · simpa [measuredOf_cons, endedWith_cons, hphase, hsuccess] using h.successful
      · simpa [measuredOf_cons, endedWith_cons, hphase, hsuccess] using h.successful

/-- Nor do exchanges of requests that a summary cannot tell apart. -/
theorem SameViews.of_exchangeable (h : List.Forall₂ Exchangeable requests requests') :
    SameViews requests requests' := by
  induction h with
  | nil => exact .of_perm .rfl
  | @cons request request' requests requests' hexchange _ ih =>
    cases hexchange with
    | refl => exact ih.cons request
    | warmup hphase hphase' =>
      constructor
      · simpa [warmupOf_cons, hphase, hphase'] using ih.warmup
      · simpa [measuredOf_cons, hphase, hphase'] using ih.measured
      · simpa [measuredOf_cons, hphase, hphase'] using ih.successful
    | unsuccessful hphase hphase' hclass hview =>
      have hclass' : request'.terminalClass ≠ .success :=
        (congrArg MeasuredView.terminalClass hview).trans_ne hclass
      constructor
      · simpa [warmupOf_cons, hphase, hphase'] using ih.warmup
      · simpa [measuredOf_cons, hphase, hphase', hview] using ih.measured
      · simpa [measuredOf_cons, endedWith_cons, hphase, hphase', hclass, hclass'] using
          ih.successful

/-! ## Views decide the summary -/

theorem length_endedWith (terminalClass : Stage1TerminalClass)
    (measured : List Stage1RequestRecord) :
    (endedWith terminalClass measured).length =
      (measured.map (·.view)).countP (·.terminalClass = terminalClass) := by
  rw [endedWith, ← List.countP_eq_length_filter, List.countP_map]
  rfl

theorem countP_sloSatisfied (measured : List Stage1RequestRecord) :
    measured.countP (·.sloSatisfied) = (measured.map (·.view)).countP (·.sloSatisfied) := by
  rw [List.countP_map]
  rfl

theorem SameViews.countRequests_eq (h : SameViews requests requests') :
    countRequests requests = countRequests requests' := by
  have hattempted := h.measured.length_eq
  rw [List.length_map, List.length_map] at hattempted
  simp only [countRequests, length_endedWith, countP_sloSatisfied, h.warmup, hattempted,
    h.measured.countP_eq, (h.successful.map _).sum_eq]

/-- What is computed from the views is the same up to order. -/
theorem SameViews.map_perm {β : Type} (h : SameViews requests requests') (f : MeasuredView → β) :
    ((measuredOf requests).map fun request => f request.view).Perm
      ((measuredOf requests').map fun request => f request.view) := by
  have hmap := h.measured.map f
  rw [List.map_map, List.map_map] at hmap
  exact hmap

theorem SameViews.measurementWindow_eq (h : SameViews requests requests') :
    measurementWindow (measuredOf requests) = measurementWindow (measuredOf requests') := by
  have hdispatch : ((measuredOf requests).map (·.timing.dispatchOffsetNs)).Perm
      ((measuredOf requests').map (·.timing.dispatchOffsetNs)) :=
    h.map_perm MeasuredView.dispatchOffsetNs
  have hterminal : ((measuredOf requests).map (·.timing.terminalOffsetNs)).Perm
      ((measuredOf requests').map (·.timing.terminalOffsetNs)) :=
    h.map_perm MeasuredView.terminalOffsetNs
  rw [measurementWindow, measurementWindow, min?_eq_of_perm hdispatch, max?_eq_of_perm hterminal]

/-- The SLO check reads no more than the view. -/
theorem checkSlo_eq_of_view {configuration : Stage1RunConfiguration}
    {request request' : Stage1RequestRecord} (h : request.view = request'.view) :
    checkSlo configuration request = checkSlo configuration request' := by
  obtain ⟨hclass, hdispatch, hterminal, hslo⟩ := MeasuredView.mk.inj h
  rw [checkSlo, checkSlo, expectedSlo, expectedSlo, hclass, hdispatch, hterminal, hslo]

theorem SameViews.checkSlo (h : SameViews requests requests')
    {configuration : Stage1RunConfiguration}
    (hchecks : each (checkSlo configuration) (measuredOf requests) = .ok ()) :
    each (Stage1.checkSlo configuration) (measuredOf requests') = .ok () := by
  rw [each_eq_ok] at hchecks ⊢
  intro request' hrequest'
  obtain ⟨request, hrequest, hview⟩ :=
    List.mem_map.mp (h.measured.symm.subset (List.mem_map_of_mem hrequest'))
  rw [← checkSlo_eq_of_view hview]
  exact hchecks request hrequest

/-- Only successful requests satisfy the SLO, when the stored results are those reconstructed. -/
theorem good_le_successful {configuration : Stage1RunConfiguration}
    (h : each (checkSlo configuration) (measuredOf requests) = .ok ()) :
    (countRequests requests).good ≤ (countRequests requests).successful := by
  simp only [countRequests, endedWith, ← List.countP_eq_length_filter]
  refine List.countP_mono_left fun request hrequest hslo => ?_
  have hcheck := each_eq_ok.mp h request hrequest
  unfold checkSlo at hcheck
  split at hcheck
  · cases hcheck
  · next hexpected =>
    rw [not_not, hslo, expectedSlo] at hexpected
    exact decide_eq_true (of_decide_eq_true hexpected.symm).1

/-- What a validated summary is, and what was checked of its populations. -/
theorem Stage1RunSummary.of_modelValidate {summary summary' : Stage1RunSummary}
    (h : summary.modelValidate = .ok summary') :
    summary' = summary ∧ summary.successfulMeasuredRequests +
      summary.failedNonTimeoutMeasuredRequests + summary.timedOutMeasuredRequests +
      summary.cancelledMeasuredRequests = summary.terminalMeasuredRequests := by
  unfold Stage1RunSummary.modelValidate at h
  split_ifs at h with _ _ _ _ _ hpopulations
  exact ⟨(Except.ok.inj h).symm, not_not.mp hpopulations⟩

section

variable [FloatArithmetic]

theorem distribution_perm (metric : Stage1MetricName) {values values' : List ℚ}
    (h : values.Perm values') (denominator inclusionSemantics : Str) :
    distribution metric values denominator inclusionSemantics =
      distribution metric values' denominator inclusionSemantics := by
  have hnil : values = [] ↔ values' = [] := by
    rw [← List.length_eq_zero_iff, ← List.length_eq_zero_iff, h.length_eq]
  simp only [distribution, hnil, roundedPercentile, percentileType7_perm h, h.length_eq]

/-- The order of the metrics does not show in a summary. -/
theorem summarize_perm (configuration : Stage1RunConfiguration) (counts : Stage1Counts)
    (measurementWindowNs : ℕ) (seconds : ℚ) {metrics metrics' : List Stage1RequestMetrics}
    (h : metrics.Perm metrics') (observedMaximum : ℤ) :
    summarize configuration counts measurementWindowNs seconds metrics observedMaximum =
      summarize configuration counts measurementWindowNs seconds metrics' observedMaximum := by
  simp only [summarize, distribution_perm _ (h.filterMap _), distribution_perm _ (h.flatMap_right _)]

/-- **Requests with the same views and the same successes have the same summary.** -/
theorem deriveStage1Summary_congr {configuration : Stage1RunConfiguration}
    {streamEvents : List StreamEvidenceRecord} {summary : Stage1RunSummary}
    (hviews : SameViews requests requests')
    (h : deriveStage1Summary configuration requests streamEvents = .ok summary) :
    deriveStage1Summary configuration requests' streamEvents = .ok summary := by
  have hlength := hviews.measured.length_eq
  rw [List.length_map, List.length_map] at hlength
  unfold deriveStage1Summary at h ⊢
  dsimp only at h ⊢
  split at h
  · cases h
  · next hmeasured =>
    have hmeasured' : measuredOf requests' ≠ [] := by
      rwa [Ne, ← List.length_eq_zero_iff, ← hlength, List.length_eq_zero_iff]
    obtain ⟨⟨⟩, hslo, h⟩ := bind_eq_ok.mp h
    obtain ⟨window, hwindow, h⟩ := bind_eq_ok.mp h
    obtain ⟨seconds, hseconds, h⟩ := bind_eq_ok.mp h
    obtain ⟨metrics, hmetrics, h⟩ := bind_eq_ok.mp h
    obtain ⟨observedMaximum, hobserved, h⟩ := bind_eq_ok.mp h
    obtain ⟨metrics', hmetrics', hperm⟩ := collect_perm hviews.successful hmetrics
    rw [if_neg hmeasured', hviews.checkSlo hslo, ← hviews.measurementWindow_eq, hwindow]
    change (nearest _ >>= _) = _
    rw [hseconds]
    change (collect _ _ >>= _) = _
    rw [hmetrics']
    change (deriveObservedMaxClientConcurrency _ >>= _) = _
    rw [hobserved]
    rw [hviews.countRequests_eq, summarize_perm _ _ _ _ hperm] at h
    exact h

/-- The rate is that of `count` requests among those attempted. -/
structure RateOver (rate : RateValue) (count attempted : ℕ) : Prop where
  numerator : rate.numerator = count
  denominator : rate.denominator = attempted
  value : ∃ value, nearest (count / attempted : ℚ) = .ok value ∧ rate.value = some value

/-- What was validated is returned. -/
theorem RateValue.eq_of_modelValidate {rate rate' : RateValue}
    (h : rate.modelValidate = .ok rate') : rate' = rate := by
  unfold RateValue.modelValidate at h
  split_ifs at h
  · exact (Except.ok.inj h).symm
  · obtain ⟨_, _, h⟩ := bind_eq_ok.mp h
    split_ifs at h
    exact (Except.ok.inj h).symm

theorem RateOver.of_shareOfAttempted {count attempted : ℕ} {rate : RateValue}
    (hattempted : attempted ≠ 0) (h : shareOfAttempted count attempted = .ok rate) :
    RateOver rate count attempted := by
  unfold shareOfAttempted at h
  rw [if_neg hattempted] at h
  obtain ⟨value, hvalue, h⟩ := bind_eq_ok.mp h
  cases hnearest : nearest (count / attempted : ℚ) with
  | error e =>
    rw [hnearest] at hvalue
    cases hvalue
  | ok share =>
    rw [hnearest] at hvalue
    obtain rfl := Except.ok.inj hvalue
    obtain rfl := RateValue.eq_of_modelValidate h
    exact ⟨rfl, rfl, share, hnearest, rfl⟩

/-- What a summary says of the requests it was taken from, and of no others. -/
structure Excludes (configuration : Stage1RunConfiguration)
    (requests : List Stage1RequestRecord) (streamEvents : List StreamEvidenceRecord)
    (summary : Stage1RunSummary) : Prop where
  permuted : ∀ requests', requests.Perm requests' →
    deriveStage1Summary configuration requests' streamEvents = .ok summary
  exchanged : ∀ requests', List.Forall₂ Exchangeable requests requests' →
    deriveStage1Summary configuration requests' streamEvents = .ok summary
  attempted : summary.attemptedMeasuredRequests = requests.countP (·.phase = .measured)
  populations : summary.successfulMeasuredRequests + summary.failedNonTimeoutMeasuredRequests +
    summary.timedOutMeasuredRequests + summary.cancelledMeasuredRequests =
      summary.attemptedMeasuredRequests
  goodput : summary.sloSatisfyingRequestCount ≤ summary.successfulMeasuredRequests
  failureRate : RateOver summary.failureRate
    (requests.countP fun request => request.phase = .measured ∧ request.terminalClass = .failed)
    (requests.countP (·.phase = .measured))
  timeoutRate : RateOver summary.timeoutRate
    (requests.countP fun request => request.phase = .measured ∧ request.terminalClass = .timeout)
    (requests.countP (·.phase = .measured))

/-- What a returned record says of the counts it was made of. -/
structure Counted (counts : Stage1Counts) (summary : Stage1RunSummary) : Prop where
  attempted : summary.attemptedMeasuredRequests = counts.attempted
  successful : summary.successfulMeasuredRequests = counts.successful
  good : summary.sloSatisfyingRequestCount = counts.good
  populations : summary.successfulMeasuredRequests + summary.failedNonTimeoutMeasuredRequests +
    summary.timedOutMeasuredRequests + summary.cancelledMeasuredRequests = counts.attempted
  failureRate : RateOver summary.failureRate counts.failedNonTimeout counts.attempted
  timeoutRate : RateOver summary.timeoutRate counts.timedOut counts.attempted

theorem Counted.of_summarize {configuration : Stage1RunConfiguration} {counts : Stage1Counts}
    {measurementWindowNs : ℕ} {seconds : ℚ} {metrics : List Stage1RequestMetrics}
    {observedMaximum : ℤ} {summary : Stage1RunSummary} (hattempted : counts.attempted ≠ 0)
    (h : summarize configuration counts measurementWindowNs seconds metrics observedMaximum =
      .ok summary) :
    Counted counts summary := by
  unfold summarize at h
  obtain ⟨offered, -, h⟩ := bind_eq_ok.mp h
  obtain ⟨terminal, -, h⟩ := bind_eq_ok.mp h
  obtain ⟨successful, -, h⟩ := bind_eq_ok.mp h
  obtain ⟨output, -, h⟩ := bind_eq_ok.mp h
  obtain ⟨total, -, h⟩ := bind_eq_ok.mp h
  obtain ⟨goodput, -, h⟩ := bind_eq_ok.mp h
  obtain ⟨failureRate, hfailure, h⟩ := bind_eq_ok.mp h
  obtain ⟨timeoutRate, htimeout, h⟩ := bind_eq_ok.mp h
  obtain ⟨endToEnd, -, h⟩ := bind_eq_ok.mp h
  obtain ⟨ttft, -, h⟩ := bind_eq_ok.mp h
  obtain ⟨tpot, -, h⟩ := bind_eq_ok.mp h
  obtain ⟨itl, -, h⟩ := bind_eq_ok.mp h
  obtain ⟨span, -, h⟩ := bind_eq_ok.mp h
  obtain ⟨rfl, hpopulations⟩ := Stage1RunSummary.of_modelValidate h
  exact ⟨rfl, rfl, rfl, hpopulations, .of_shareOfAttempted hattempted hfailure,
    .of_shareOfAttempted hattempted htimeout⟩

/-- **Failed and warmup requests do not leak into a summary.** -/
theorem deriveStage1Summary_excludes (configuration : Stage1RunConfiguration)
    (requests : List Stage1RequestRecord) (streamEvents : List StreamEvidenceRecord)
    (summary : Stage1RunSummary)
    (h : deriveStage1Summary configuration requests streamEvents = .ok summary) :
    Excludes configuration requests streamEvents summary := by
  have hderive := h
  unfold deriveStage1Summary at h
  dsimp only at h
  split at h
  · cases h
  · next hmeasured =>
    obtain ⟨⟨⟩, hslo, h⟩ := bind_eq_ok.mp h
    obtain ⟨window, -, h⟩ := bind_eq_ok.mp h
    obtain ⟨seconds, -, h⟩ := bind_eq_ok.mp h
    obtain ⟨metrics, -, h⟩ := bind_eq_ok.mp h
    obtain ⟨observedMaximum, -, h⟩ := bind_eq_ok.mp h
    have hattempted : (countRequests requests).attempted ≠ 0 :=
      fun hzero => hmeasured (List.length_eq_zero_iff.mp hzero)
    have hcounted := Counted.of_summarize hattempted h
    have hcount : (countRequests requests).attempted = requests.countP (·.phase = .measured) :=
      List.countP_eq_length_filter.symm
    have hended : ∀ terminalClass, (endedWith terminalClass (measuredOf requests)).length =
        requests.countP fun request =>
          request.phase = .measured ∧ request.terminalClass = terminalClass := by
      intro terminalClass
      rw [endedWith, measuredOf, List.filter_filter, ← List.countP_eq_length_filter]
      simp [Bool.and_comm]
    refine ⟨fun requests' hperm => deriveStage1Summary_congr (.of_perm hperm) hderive,
      fun requests' hexchange => deriveStage1Summary_congr (.of_exchangeable hexchange) hderive,
      hcounted.attempted.trans hcount, hcounted.populations.trans hcounted.attempted.symm, ?_, ?_,
      ?_⟩
    · rw [hcounted.good, hcounted.successful]
      exact good_le_successful hslo
    · rw [← hcount, ← hended]
      exact hcounted.failureRate
    · rw [← hcount, ← hended]
      exact hcounted.timeoutRate

end

/-- A start or an end of the client of the sample request. -/
def sampleEvent (sequence : ℕ) (kind : StreamEvidenceKind) : StreamEvidenceRecord where
  sequence := sequence
  requestId := lit "r"
  caseId := lit "c"
  phase := .measured
  kind := kind
  observationOffsetNs := 9 * sequence
  rawChunkSequence := none
  rawBytesBase64 := none
  rawByteCount := none
  rawBytesSha256 := none
  sseEventSequence := none
  sseData := none
  tokenDeltaCount := none
  terminalClass := none
  failureKind := none

/-- A warmup request, a successful one and one that failed after two tokens. -/
def sampleRequests : List Stage1RequestRecord :=
  [{ twoTokenRecord 5 with phase := .warmup },
    { twoTokenRecord 5 with sloSatisfied := true },
    { twoTokenRecord 5 with
      terminalClass := .failed, failure := some ⟨.transport, .httpClient, lit "x", 6, none⟩ }]

theorem deriveStage1Summary_excludes_sampleRequests : ∃ summary,
    @Excludes binary64 ⟨⟨2⟩, ⟨9⟩⟩ sampleRequests
      [sampleEvent 0 .clientRequestStarted, sampleEvent 1 .clientRequestEnded] summary := by
  obtain ⟨summary, hsummary, -⟩ := exists_eq_ok (p := fun _ => True)
    (x := @deriveStage1Summary binary64 ⟨⟨2⟩, ⟨9⟩⟩ sampleRequests
      [sampleEvent 0 .clientRequestStarted, sampleEvent 1 .clientRequestEnded]) (by decide +kernel)
  exact ⟨summary, @deriveStage1Summary_excludes binary64 _ _ _ _ hsummary⟩

end Stage1
