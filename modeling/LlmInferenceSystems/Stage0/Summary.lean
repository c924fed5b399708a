import LlmInferenceSystems.Python.Percentile
import LlmInferenceSystems.Stage0.Metrics

/-!
# Summary of a run of the first stage

Counts, rates and latency percentiles of the measured requests, with the identity of the SLO that
goodput was counted by. A summary is a record with validators of its own, and the artifact that
retains it counts the requests again.

## Main definitions

* `deriveSummary`: the summary
* `checkSummary`: what the artifact compares the summary's counts with
* `SLODefinition.Short`: the thresholds have at most 4300 digits
* `SummaryReconciles`: the artifact accepts the counts, and percentiles and rates are in order

## Main results

* `exists_distribution`: a sample has percentiles, in order
* `deriveSummary_reconciles`: without rounding, metrics reconcile, and a summary can be built exactly
  when the SLO can be written down
-/

namespace Stage0

open Python FloatArithmetic

/-! ## Contracts -/

/-- A distribution, without its source, its unit and its algorithm, which are constant. -/
structure MetricDistribution where
  metric : MetricName
  denominator : Str
  sampleCount : ℕ
  p50 : Option ℚ
  p95 : Option ℚ
  p99 : Option ℚ
  unavailableReason : Option MetricUnavailableReason
deriving DecidableEq

/-- The types of the fields, and `validate_availability` -/
def MetricDistribution.modelValidate (distribution : MetricDistribution) :
    Except PyError MetricDistribution := do
  let percentiles := [distribution.p50, distribution.p95, distribution.p99]
  reject (¬ IsIdentifier distribution.denominator) "denominator"
  reject (∃ value ∈ percentiles.filterMap id, value < 0) "percentile"
  reject (¬ ∀ reason ∈ distribution.unavailableReason, reason = .noSamples) "unavailable_reason"
  if distribution.sampleCount = 0 then
    reject (∃ value ∈ percentiles, value ≠ none) "empty distributions cannot contain percentiles"
    reject (distribution.unavailableReason ≠ some .noSamples) "empty distributions require NO_SAMPLES"
  else
    reject ((∃ value ∈ percentiles, value = none) ∨ distribution.unavailableReason ≠ none)
      "nonempty distributions require all percentiles and no reason"
  return distribution

/-- `RunSummary` -/
structure RunSummary where
  measurementWindowNs : ℤ
  attemptedCount : ℕ
  terminalCount : ℕ
  successfulCount : ℕ
  failedCount : ℕ
  timeoutCount : ℕ
  cancelledCount : ℕ
  protocolErrorCount : ℕ
  warmupRecordCount : ℕ
  warmupExcludedCount : ℕ
  requestedClientConcurrency : ℕ
  observedMaximumActiveClientRequests : ℤ
  configuredServerMaximumBatchSize : Option ℕ
  configuredServerBatchSource : Option IdentitySource
  observedServerBatchSize : Option ℤ
  observedServerBatchSource : Option IdentitySource
  offeredRequestRate : ℚ
  terminalRequestRate : ℚ
  successfulRequestThroughput : ℚ
  outputTokenThroughput : Option ℚ
  totalTokenThroughput : Option ℚ
  goodput : ℚ
  failureRate : ℚ
  timeoutRate : ℚ
  goodputSloPolicySha256 : Str
  ttft : MetricDistribution
  endToEndSuccess : MetricDistribution
  tpot : MetricDistribution
  itl : MetricDistribution
deriving DecidableEq

namespace RunSummary

/-- The types of the fields that are not natural numbers -/
def checkTypes (summary : RunSummary) : Except PyError Unit := do
  reject (summary.measurementWindowNs ≤ 0) "measurement_window_ns"
  reject (summary.requestedClientConcurrency = 0) "requested_client_concurrency"
  reject (summary.observedMaximumActiveClientRequests < 0) "observed_maximum_active_client_requests"
  reject (summary.configuredServerMaximumBatchSize = some 0) "configured_server_maximum_batch_size"
  reject (∃ size ∈ summary.observedServerBatchSize, size ≤ 0) "observed_server_batch_size"
  reject (∃ rate ∈ [summary.offeredRequestRate, summary.terminalRequestRate,
    summary.successfulRequestThroughput, summary.goodput], rate < 0) "rate"
  reject (∃ rate ∈ summary.outputTokenThroughput, rate < 0) "output_token_throughput"
  reject (∃ rate ∈ summary.totalTokenThroughput, rate < 0) "total_token_throughput"
  reject (¬ ∀ rate ∈ [summary.failureRate, summary.timeoutRate], 0 ≤ rate ∧ rate ≤ 1) "probability"
  reject (¬ IsSha256 summary.goodputSloPolicySha256) "goodput_slo_policy_sha256"

/-- `validate_counts_and_sources` -/
def validateCountsAndSources (summary : RunSummary) : Except PyError Unit := do
  reject (summary.attemptedCount < summary.terminalCount)
    "terminal count cannot exceed attempted count"
  reject (summary.successfulCount + summary.failedCount ≠ summary.terminalCount)
    "successful plus failed count must equal terminal count"
  reject (∃ value ∈ [summary.timeoutCount, summary.cancelledCount, summary.protocolErrorCount],
    summary.failedCount < value) "failure subtype count cannot exceed failed count"
  reject (summary.warmupRecordCount ≠ summary.warmupExcludedCount)
    "all retained warmup records must be excluded from summaries"
  reject (summary.requestedClientConcurrency < summary.observedMaximumActiveClientRequests)
    "observed client activity cannot exceed requested concurrency"
  reject (¬ (summary.configuredServerMaximumBatchSize = none ↔
      summary.configuredServerBatchSource = none))
    "configured server batch size and source must be present together"
  reject (summary.configuredServerBatchSource = some .directlyObserved)
    "configured server batch size cannot be directly observed"
  reject (¬ (summary.observedServerBatchSize = none ↔ summary.observedServerBatchSource = none))
    "observed server batch size and source must be present together"
  reject (¬ ∀ source ∈ summary.observedServerBatchSource, source = .directlyObserved)
    "observed server batch size must be directly observed"

/-- `model_validate` -/
def modelValidate (summary : RunSummary) : Except PyError RunSummary := do
  summary.checkTypes
  summary.validateCountsAndSources
  return summary

end RunSummary

/-! ## The summary -/

/-- The measured requests. -/
def measuredOf (requests : List RequestRecord) : List RequestRecord :=
  requests.filter (·.phase = .measured)

/-- The requests of the warm-up. -/
def warmupOf (requests : List RequestRecord) : List RequestRecord :=
  requests.filter (·.phase = .warmup)

/-- The requests that succeeded. -/
def successfulOf (requests : List RequestRecord) : List RequestRecord :=
  requests.filter (·.outcome = .success)

/-- The outcomes that are counted as protocol errors. -/
def protocolOutcomes : List RequestOutcome := [.protocolError, .malformedStream]

/-- The JSON that `slo_policy_identity` hashes. -/
def SLODefinition.dump (slo : SLODefinition) : Json :=
  let threshold (value : Option ℕ) : Json := value.elim .null fun value => .int value
  .obj [(lit "policy_name", .str slo.policyName),
    (lit "ttft_threshold_ns", threshold slo.ttftThresholdNs),
    (lit "tpot_threshold_ns", threshold slo.tpotThresholdNs),
    (lit "end_to_end_threshold_ns", threshold slo.endToEndThresholdNs),
    (lit "itl_threshold_ns", threshold slo.itlThresholdNs)]

/-- `slo_policy_identity` -/
def sloPolicyIdentity [Interpreter] (slo : SLODefinition) : Except PyError Str :=
  sha256Identity slo.dump

section

variable [FloatArithmetic]

/-- The metrics of a request, each of them rounded once. -/
def roundedMetrics (request : RequestRecord) : Except PyError RequestMetrics := do
  let metrics := deriveRequestMetrics request
  return { metrics with
    ttftNs := ← metrics.ttftNs.mapM nearest
    endToEndNs := ← metrics.endToEndNs.mapM nearest
    tpotNs := ← metrics.tpotNs.mapM nearest
    itlNs := ← collect nearest metrics.itlNs }

/-- `distribution` -/
def distribution (metric : MetricName) (values : List ℚ) (denominator : Str) :
    Except PyError MetricDistribution :=
  if values = [] then
    MetricDistribution.modelValidate
      { metric, denominator, sampleCount := 0, p50 := none, p95 := none, p99 := none,
        unavailableReason := some .noSamples }
  else do
    let p50 ← percentileType7 values (← nearest (50 / 100))
    let p95 ← percentileType7 values (← nearest (95 / 100))
    let p99 ← percentileType7 values (← nearest (99 / 100))
    MetricDistribution.modelValidate
      { metric, denominator, sampleCount := values.length, p50, p95, p99,
        unavailableReason := none }

/-- The metric is within the threshold, if there is one. -/
def meets (threshold : Option ℕ) (value : Option ℚ) : Bool :=
  match threshold, value with
  | none, _ => true
  | some _, none => false
  | some threshold, some value => value ≤ threshold

/-- `_satisfies_slo` -/
def satisfiesSlo (configuration : RunConfiguration) (request : RequestRecord) :
    Except PyError Bool :=
  if request.outcome ≠ .success then .ok false
  else do
    let metrics ← roundedMetrics request
    let slo := configuration.slo
    return meets slo.ttftThresholdNs metrics.ttftNs &&
      meets slo.tpotThresholdNs metrics.tpotNs &&
      meets slo.endToEndThresholdNs metrics.endToEndNs &&
      meets slo.itlThresholdNs metrics.itlNs.max?

/-- The tokens per second, if every request has a count. -/
def tokenThroughput (values : List (Option ℕ)) (seconds : ℚ) : Except PyError (Option ℚ) :=
  match values.mapM id with
  | none => .ok none
  | some counts => some <$> divideCount counts.sum seconds

/-- `count / attempted if attempted else 0.0` -/
def shareOfAttempted (count attempted : ℕ) : Except PyError ℚ :=
  if attempted = 0 then .ok 0 else nearest (count / attempted)

variable [Interpreter]

/-- The record that is returned. -/
def summarize (configuration : RunConfiguration) (requests : List RequestRecord)
    (measurementWindowNs observedMaximumActiveClientRequests : ℤ)
    (observedServerBatchSize : Option ℤ) (metrics : List RequestMetrics) (seconds : ℚ)
    (outputTokenThroughput totalTokenThroughput : Option ℚ) (goodCount : ℕ) :
    Except PyError RunSummary := do
  let measured := measuredOf requests
  let attempted := measured.length
  let successful := (successfulOf measured).length
  let failed := measured.countP (·.outcome ≠ .success)
  let timeoutCount := measured.countP (·.outcome = .timeout)
  let summary : RunSummary := {
    measurementWindowNs
    attemptedCount := attempted
    terminalCount := attempted
    successfulCount := successful
    failedCount := failed
    timeoutCount
    cancelledCount := measured.countP (·.outcome = .cancelled)
    protocolErrorCount := measured.countP (·.outcome ∈ protocolOutcomes)
    warmupRecordCount := (warmupOf requests).length
    warmupExcludedCount := (warmupOf requests).length
    requestedClientConcurrency := configuration.loadShape.requestedClientConcurrency
    observedMaximumActiveClientRequests
    configuredServerMaximumBatchSize := configuration.configuredServerMaximumBatchSize
    configuredServerBatchSource := configuration.configuredServerBatchSource
    observedServerBatchSize
    observedServerBatchSource := observedServerBatchSize.map fun _ => .directlyObserved
    offeredRequestRate := ← divideCount attempted seconds
    terminalRequestRate := ← divideCount attempted seconds
    successfulRequestThroughput := ← divideCount successful seconds
    outputTokenThroughput
    totalTokenThroughput
    goodput := ← divideCount goodCount seconds
    failureRate := ← shareOfAttempted failed attempted
    timeoutRate := ← shareOfAttempted timeoutCount attempted
    goodputSloPolicySha256 := ← sloPolicyIdentity configuration.slo
    ttft := ← distribution .ttftNs (metrics.filterMap (·.ttftNs))
      (lit "successful measured requests with first-output-token observation")
    endToEndSuccess := ← distribution .endToEndSuccessNs (metrics.filterMap (·.endToEndNs))
      (lit "successful measured requests")
    tpot := ← distribution .tpotNs (metrics.filterMap (·.tpotNs))
      (lit "successful measured requests with at least two counted output tokens")
    itl := ← distribution .itlNs (metrics.flatMap (·.itlNs))
      (lit "adjacent per-token observations from successful measured requests") }
  summary.modelValidate

/-- `derive_summary` -/
def deriveSummary (configuration : RunConfiguration) (requests : List RequestRecord)
    (measurementWindowNs observedMaximumActiveClientRequests : ℤ)
    (observedServerBatchSize : Option ℤ) : Except PyError RunSummary :=
  if measurementWindowNs ≤ 0 then .error (.value "measurement window must be positive")
  else if observedMaximumActiveClientRequests < 0 then
    .error (.value "observed client concurrency must be nonnegative")
  else do
    let measured := measuredOf requests
    let successful := successfulOf measured
    let metrics ← collect roundedMetrics successful
    let seconds ← nearest (measurementWindowNs / 10 ^ 9)
    let outputValues := successful.map (·.outputTokens.value)
    let inputValues := successful.map (·.inputTokens.value)
    let outputThroughput ← tokenThroughput outputValues seconds
    let totalThroughput ← tokenThroughput (inputValues ++ outputValues) seconds
    let satisfied ← collect (satisfiesSlo configuration) measured
    summarize configuration requests measurementWindowNs observedMaximumActiveClientRequests
      observedServerBatchSize metrics seconds outputThroughput totalThroughput
      (satisfied.count true)

end

/-- What `RunArtifact` compares the summary with: the records, and the configuration. -/
def checkSummary (configuration : RunConfiguration) (requests : List RequestRecord)
    (summary : RunSummary) : Except PyError Unit := do
  let measured := requests.countP (·.phase = .measured)
  let warmup := requests.length - measured
  let measuredRequests := measuredOf requests
  let successful := measuredRequests.countP (·.outcome = .success)
  reject (measured ≠ summary.attemptedCount)
    "summary attempted count must match measured request records"
  reject (warmup ≠ summary.warmupRecordCount)
    "summary warmup count must match retained warmup records"
  reject ([summary.terminalCount, summary.successfulCount, summary.failedCount,
      summary.timeoutCount, summary.cancelledCount, summary.protocolErrorCount] ≠
      [measured, successful, measured - successful,
        measuredRequests.countP (·.outcome = .timeout),
        measuredRequests.countP (·.outcome = .cancelled),
        measuredRequests.countP (·.outcome ∈ protocolOutcomes)])
    "summary outcome counts must match retained measured records"
  reject (summary.requestedClientConcurrency ≠ configuration.loadShape.requestedClientConcurrency)
    "summary client concurrency must match the run configuration"
  reject (summary.configuredServerMaximumBatchSize ≠
      configuration.configuredServerMaximumBatchSize ∨
      summary.configuredServerBatchSource ≠ configuration.configuredServerBatchSource)
    "summary server batch configuration must match the run configuration"

/-! ## Without rounding -/

/-- The percentiles of a distribution are in order, or there are none. -/
def MetricDistribution.Ordered (distribution : MetricDistribution) : Prop :=
  (distribution.p50 = none ∧ distribution.p95 = none ∧ distribution.p99 = none) ∨
    ∃ p50 p95 p99, distribution.p50 = some p50 ∧ distribution.p95 = some p95 ∧
      distribution.p99 = some p99 ∧ p50 ≤ p95 ∧ p95 ≤ p99

/-- The thresholds have at most 4300 digits. -/
def SLODefinition.Short (slo : SLODefinition) : Prop :=
  ∀ threshold ∈ slo.thresholds, ∀ value ∈ threshold, value < maxInt

/-- What a summary of the requests satisfies. -/
structure SummaryReconciles (configuration : RunConfiguration) (requests : List RequestRecord)
    (summary : RunSummary) : Prop where
  counts : checkSummary configuration requests summary = .ok ()
  ordered : ∀ distribution ∈ [summary.ttft, summary.endToEndSuccess, summary.tpot, summary.itl],
    distribution.Ordered
  goodput : summary.goodput ≤ summary.successfulRequestThroughput
  throughput : summary.successfulRequestThroughput ≤ summary.terminalRequestRate

section

attribute [local instance] exactArithmetic

theorem mapM_nearest (value : Option ℚ) : value.mapM nearest = .ok value := by
  cases value <;> rfl

theorem collect_nearest (values : List ℚ) : collect nearest values = .ok values :=
  collect_eq_ok.mpr (List.forall₂_same.mpr fun _ _ => rfl)

theorem roundedMetrics_exact (request : RequestRecord) :
    roundedMetrics request = .ok (deriveRequestMetrics request) := by
  unfold roundedMetrics
  simp only [mapM_nearest, collect_nearest]
  rfl

theorem divideCount_exact (count : ℕ) {seconds : ℚ} (h : 0 < seconds) :
    divideCount count seconds = .ok (count / seconds) := by
  change divide count seconds = _
  rw [divide, if_neg h.ne']
  rfl

theorem shareOfAttempted_exact (count attempted : ℕ) :
    shareOfAttempted count attempted = .ok (count / attempted : ℚ) := by
  unfold shareOfAttempted
  split
  · next h => simp [h]
  · rfl

/-- A distribution without a sample is valid. -/
theorem modelValidate_empty (metric : MetricName) {denominator : Str}
    (hdenominator : IsIdentifier denominator) :
    MetricDistribution.modelValidate ⟨metric, denominator, 0, none, none, none, some .noSamples⟩ =
      .ok ⟨metric, denominator, 0, none, none, none, some .noSamples⟩ := by
  unfold MetricDistribution.modelValidate
  refine reject_bind_eq_ok.mpr ⟨not_not.mpr hdenominator, ?_⟩
  rfl

/-- So is one with nonnegative percentiles of a sample. -/
theorem modelValidate_sample (metric : MetricName) {denominator : Str}
    (hdenominator : IsIdentifier denominator) {count : ℕ} (hcount : count ≠ 0) {p50 p95 p99 : ℚ}
    (h50 : 0 ≤ p50) (h95 : 0 ≤ p95) (h99 : 0 ≤ p99) :
    MetricDistribution.modelValidate
        ⟨metric, denominator, count, some p50, some p95, some p99, none⟩ =
      .ok ⟨metric, denominator, count, some p50, some p95, some p99, none⟩ := by
  unfold MetricDistribution.modelValidate
  refine reject_bind_eq_ok.mpr ⟨not_not.mpr hdenominator, reject_bind_eq_ok.mpr ⟨?_, ?_⟩⟩
  · simp [h50, h95, h99]
  · refine reject_bind_eq_ok.mpr ⟨by simp, ?_⟩
    rw [if_neg hcount]
    exact reject_bind_eq_ok.mpr ⟨by simp, rfl⟩

/-- **A nonnegative sample has percentiles, in order.** -/
theorem exists_distribution (metric : MetricName) (values : List ℚ) (denominator : Str)
    (hdenominator : IsIdentifier denominator) (h : ∀ value ∈ values, 0 ≤ value) :
    ∃ summary, distribution metric values denominator = .ok summary ∧ summary.Ordered := by
  unfold distribution
  split
  · exact ⟨_, modelValidate_empty metric hdenominator, .inl ⟨rfl, rfl, rfl⟩⟩
  · next hne =>
    -- -- the quantile of a probability is the line through the sorted values at its place
    let line := interpolate (placeValue (sorted values))
    let place (probability : ℚ) : ℚ := (values.length - 1) * probability
    have hsorted : sorted values ≠ [] := fun hnil =>
      hne (List.perm_nil.mp (hnil ▸ (sorted_perm values).symm))
    have hmono : Monotone line := monotone_interpolate (monotone_placeValue (pairwise_sorted values))
    have hlast : (0 : ℚ) ≤ values.length - 1 := by
      have : (1 : ℚ) ≤ values.length := by exact_mod_cast List.length_pos_of_ne_nil hne
      linarith
    -- -- places grow with the probability, and the line grows with the place
    have hplace : Monotone place := fun p q hle => mul_le_mul_of_nonneg_left hle hlast
    have hpos : ∀ probability, 0 ≤ line probability := fun probability =>
      (h _ ((sorted_perm values).subset (placeValue_mem hsorted _))).trans
        (floor_le_interpolate (monotone_placeValue (pairwise_sorted values)))
    have hvalue : ∀ probability : ℚ, 0 ≤ probability ∧ probability ≤ 1 →
        percentileType7 values probability = .ok (some (line (place probability))) :=
      fun probability => percentileType7_exact hne
    refine ⟨⟨metric, denominator, values.length, some (line (place (50 / 100))),
      some (line (place (95 / 100))), some (line (place (99 / 100))), none⟩, ?_,
      .inr ⟨_, _, _, rfl, rfl, rfl, hmono (hplace (by norm_num)), hmono (hplace (by norm_num))⟩⟩
    change (percentileType7 values (50 / 100) >>= _) = _
    rw [hvalue _ (by norm_num)]
    change (percentileType7 values (95 / 100) >>= _) = _
    rw [hvalue _ (by norm_num)]
    change (percentileType7 values (99 / 100) >>= _) = _
    rw [hvalue _ (by norm_num)]
    exact modelValidate_sample metric hdenominator (mt List.length_eq_zero_iff.mp hne) (hpos _)
      (hpos _) (hpos _)

/-- The tokens per second are nonnegative where they are counted. -/
theorem exists_tokenThroughput (values : List (Option ℕ)) {seconds : ℚ} (h : 0 < seconds) :
    ∃ throughput, tokenThroughput values seconds = .ok throughput ∧
      ∀ rate ∈ throughput, 0 ≤ rate := by
  unfold tokenThroughput
  split
  · exact ⟨none, rfl, by simp⟩
  · next counts _ =>
    refine ⟨some (counts.sum / seconds), by rw [divideCount_exact _ h]; rfl, ?_⟩
    rintro rate ⟨⟩
    positivity

/-- Only successful requests satisfy the SLO. -/
theorem exists_satisfied (configuration : RunConfiguration) (measured : List RequestRecord) :
    ∃ satisfied, collect (satisfiesSlo configuration) measured = .ok satisfied ∧
      satisfied.count true ≤ (successfulOf measured).length := by
  induction measured with
  | nil => exact ⟨[], rfl, le_refl _⟩
  | cons request measured ih =>
    obtain ⟨satisfied, hsatisfied, hcount⟩ := ih
    by_cases hsuccess : request.outcome = .success
    · obtain ⟨b, hb⟩ : ∃ b, satisfiesSlo configuration request = .ok b := by
        unfold satisfiesSlo
        rw [if_neg (not_not.mpr hsuccess), roundedMetrics_exact]
        exact ⟨_, rfl⟩
      refine ⟨b :: satisfied, by simp [collect, hb, hsatisfied], ?_⟩
      have hlength : (successfulOf (request :: measured)).length =
          (successfulOf measured).length + 1 := by
        simp [successfulOf, hsuccess]
      rw [hlength, List.count_cons]
      split <;> omega
    · refine ⟨false :: satisfied, by simp [collect, satisfiesSlo, hsuccess, hsatisfied], ?_⟩
      simpa [successfulOf, hsuccess] using hcount

/-- Requests that ended without success, whichever way. -/
theorem countP_le_failed (measured : List RequestRecord) (p : RequestOutcome → Bool)
    (hp : p .success = false) :
    measured.countP (fun request => p request.outcome) ≤ measured.countP (·.outcome ≠ .success) := by
  refine List.countP_mono_left fun request _ hrequest => ?_
  refine decide_eq_true fun hsuccess => ?_
  rw [hsuccess, hp] at hrequest
  cases hrequest

theorem successful_add_failed (measured : List RequestRecord) :
    (successfulOf measured).length + measured.countP (·.outcome ≠ .success) = measured.length := by
  rw [successfulOf, ← List.countP_eq_length_filter,
    List.length_eq_countP_add_countP (fun request => decide (request.outcome = .success))]
  simp

/-- The artifact counts what the summary counted. -/
theorem checkSummary_of_counts {configuration : RunConfiguration} {requests : List RequestRecord}
    {summary : RunSummary} (hattempted : summary.attemptedCount = (measuredOf requests).length)
    (hterminal : summary.terminalCount = (measuredOf requests).length)
    (hsuccessful : summary.successfulCount = (successfulOf (measuredOf requests)).length)
    (hfailed : summary.failedCount = (measuredOf requests).countP (·.outcome ≠ .success))
    (htimeout : summary.timeoutCount = (measuredOf requests).countP (·.outcome = .timeout))
    (hcancelled : summary.cancelledCount = (measuredOf requests).countP (·.outcome = .cancelled))
    (hprotocol : summary.protocolErrorCount =
      (measuredOf requests).countP (·.outcome ∈ protocolOutcomes))
    (hwarmup : summary.warmupRecordCount = (warmupOf requests).length)
    (hrequested : summary.requestedClientConcurrency =
      configuration.loadShape.requestedClientConcurrency)
    (hsize : summary.configuredServerMaximumBatchSize =
      configuration.configuredServerMaximumBatchSize)
    (hsource : summary.configuredServerBatchSource = configuration.configuredServerBatchSource) :
    checkSummary configuration requests summary = .ok () := by
  have hmeasured : requests.countP (·.phase = .measured) = (measuredOf requests).length :=
    List.countP_eq_length_filter
  have hphases : requests.length = (measuredOf requests).length + (warmupOf requests).length := by
    rw [measuredOf, warmupOf, ← List.countP_eq_length_filter, ← List.countP_eq_length_filter,
      List.length_eq_countP_add_countP (fun request => decide (request.phase = .measured))]
    congr 1
    refine List.countP_congr fun request _ => ?_
    cases request.phase <;> decide
  have hsum := successful_add_failed (measuredOf requests)
  have hcount : (measuredOf requests).countP (·.outcome = .success) =
      (successfulOf (measuredOf requests)).length := List.countP_eq_length_filter
  unfold checkSummary
  simp only [reject_bind_eq_ok, reject_eq_ok, not_not, hmeasured, hattempted, hterminal,
    hsuccessful, hfailed, htimeout, hcancelled, hprotocol, hwarmup, hrequested, hsize, hsource,
    hcount]
  refine ⟨trivial, by omega, ?_, by simp⟩
  have hdiff : (measuredOf requests).countP (·.outcome ≠ .success) =
      (measuredOf requests).length - (successfulOf (measuredOf requests)).length := by omega
  rw [hdiff]

theorem RunSummary.modelValidate_of_checks {summary : RunSummary}
    (htypes : summary.checkTypes = .ok ()) (hcounts : summary.validateCountsAndSources = .ok ()) :
    summary.modelValidate = .ok summary := by
  rw [RunSummary.modelValidate, htypes]
  change (summary.validateCountsAndSources >>= _) = _
  rw [hcounts]
  rfl

/-- What a valid configuration says of its load and its server batch size. -/
theorem RunConfiguration.of_modelValidate {configuration : RunConfiguration}
    (h : configuration.modelValidate = .ok configuration) :
    configuration.loadShape.requestedClientConcurrency ≠ 0 ∧ configuration.slo.check = .ok () ∧
      configuration.configuredServerMaximumBatchSize ≠ some 0 ∧
      (configuration.configuredServerMaximumBatchSize = none ↔
        configuration.configuredServerBatchSource = none) ∧
      configuration.configuredServerBatchSource ≠ some .directlyObserved := by
  unfold RunConfiguration.modelValidate at h
  obtain ⟨hrequested, h⟩ := reject_bind_eq_ok.mp h
  obtain ⟨⟨⟩, hslo, h⟩ := bind_eq_ok.mp h
  obtain ⟨hsize, h⟩ := reject_bind_eq_ok.mp h
  obtain ⟨hpair, h⟩ := reject_bind_eq_ok.mp h
  exact ⟨hrequested, hslo, hsize, not_not.mp hpair, (reject_bind_eq_ok.mp h).1⟩

/-- Metrics that are all nonnegative. -/
def Nonnegative (metrics : RequestMetrics) : Prop :=
  (∀ value ∈ metrics.ttftNs, 0 ≤ value) ∧ (∀ value ∈ metrics.endToEndNs, 0 ≤ value) ∧
    (∀ value ∈ metrics.tpotNs, 0 ≤ value) ∧ ∀ gap ∈ metrics.itlNs, 0 ≤ gap

theorem MetricsReconcile.nonnegative {request : RequestRecord} {metrics : RequestMetrics}
    (h : MetricsReconcile request metrics) : Nonnegative metrics :=
  ⟨h.ttft, h.endToEnd, h.tpot, fun gap hgap => (h.positive gap hgap).le⟩

theorem share_mem {count attempted : ℕ} (h : count ≤ attempted) :
    0 ≤ (count / attempted : ℚ) ∧ (count / attempted : ℚ) ≤ 1 :=
  ⟨by positivity, div_le_one_of_le₀ (by exact_mod_cast h) (by positivity)⟩

variable [Interpreter]

/-- **A summary is built when the SLO has an identity.** -/
theorem exists_summarize {configuration : RunConfiguration}
    (hconfiguration : configuration.modelValidate = .ok configuration)
    (requests : List RequestRecord) {window observed : ℤ} (hwindow : 0 < window)
    (hobserved : 0 ≤ observed ∧ observed ≤ configuration.loadShape.requestedClientConcurrency)
    {batch : Option ℤ} (hbatch : ∀ size ∈ batch, 0 < size) {metrics : List RequestMetrics}
    (hmetrics : ∀ m ∈ metrics, Nonnegative m) {seconds : ℚ} (hseconds : 0 < seconds)
    {output total : Option ℚ} (houtput : ∀ rate ∈ output, 0 ≤ rate)
    (htotal : ∀ rate ∈ total, 0 ≤ rate) {good : ℕ}
    (hgood : good ≤ (successfulOf (measuredOf requests)).length) {digest : Str}
    (hdigest : sloPolicyIdentity configuration.slo = .ok digest) (hsha : IsSha256 digest) :
    ∃ summary, summarize configuration requests window observed batch metrics seconds output total
        good = .ok summary ∧ SummaryReconciles configuration requests summary := by
  obtain ⟨hrequested, -, hsize, hpair, hsource⟩ :=
    RunConfiguration.of_modelValidate hconfiguration
  obtain ⟨ttft, httft, httft'⟩ := exists_distribution .ttftNs (metrics.filterMap (·.ttftNs))
    (lit "successful measured requests with first-output-token observation") (by decide)
    (fun value hvalue => by
      obtain ⟨m, hm, hvalue⟩ := List.mem_filterMap.mp hvalue
      exact (hmetrics m hm).1 value hvalue)
  obtain ⟨endToEnd, hendToEnd, hendToEnd'⟩ := exists_distribution .endToEndSuccessNs
    (metrics.filterMap (·.endToEndNs)) (lit "successful measured requests") (by decide)
    (fun value hvalue => by
      obtain ⟨m, hm, hvalue⟩ := List.mem_filterMap.mp hvalue
      exact (hmetrics m hm).2.1 value hvalue)
  obtain ⟨tpot, htpot, htpot'⟩ := exists_distribution .tpotNs (metrics.filterMap (·.tpotNs))
    (lit "successful measured requests with at least two counted output tokens") (by decide)
    (fun value hvalue => by
      obtain ⟨m, hm, hvalue⟩ := List.mem_filterMap.mp hvalue
      exact (hmetrics m hm).2.2.1 value hvalue)
  obtain ⟨itl, hitl, hitl'⟩ := exists_distribution .itlNs (metrics.flatMap (·.itlNs))
    (lit "adjacent per-token observations from successful measured requests") (by decide)
    (fun gap hgap => by
      obtain ⟨m, hm, hgap⟩ := List.mem_flatMap.mp hgap
      exact (hmetrics m hm).2.2.2 gap hgap)
  have hok : ∀ {α β : Type} (a : α) (f : α → Except PyError β), (Except.ok a >>= f) = f a :=
    fun _ _ => rfl
  have hsum := successful_add_failed (measuredOf requests)
  unfold summarize
  simp only [divideCount_exact _ hseconds, shareOfAttempted_exact, hdigest, httft, hendToEnd, htpot,
    hitl, hok]
  refine ⟨_, RunSummary.modelValidate_of_checks ?_ ?_, ?_, ?_, ?_, ?_⟩
  · simp only [RunSummary.checkTypes, reject_bind_eq_ok, reject_eq_ok]
    refine ⟨by omega, hrequested, by omega, hsize, ?_, ?_, ?_, ?_, ?_, not_not.mpr hsha⟩
    · push Not
      exact hbatch
    · have hrate : ∀ count : ℕ, ¬ (count / seconds : ℚ) < 0 := fun count =>
        not_lt.mpr (by positivity)
      simp [hrate]
    · push Not
      exact houtput
    · push Not
      exact htotal
    · have hfailure := share_mem (show (measuredOf requests).countP (·.outcome ≠ .success) ≤
        (measuredOf requests).length by omega)
      have htimeout := share_mem (List.countP_le_length (p := fun request : RequestRecord =>
        decide (request.outcome = .timeout)) (l := measuredOf requests))
      exact not_not.mpr (List.forall_mem_cons.mpr ⟨hfailure,
        List.forall_mem_singleton.mpr htimeout⟩)
  · have hless := countP_le_failed (measuredOf requests)
    simp only [RunSummary.validateCountsAndSources, reject_bind_eq_ok, reject_eq_ok]
    refine ⟨lt_irrefl _, not_not.mpr hsum, ?_, by simp, by omega, not_not.mpr hpair, hsource, ?_, ?_⟩
    · have htimeout := hless (fun outcome => decide (outcome = .timeout)) rfl
      have hcancelled := hless (fun outcome => decide (outcome = .cancelled)) rfl
      have hprotocol := hless (fun outcome => decide (outcome ∈ protocolOutcomes)) rfl
      push Not
      exact List.forall_mem_cons.mpr ⟨htimeout, List.forall_mem_cons.mpr ⟨hcancelled,
        List.forall_mem_singleton.mpr hprotocol⟩⟩
    · simp
    · simp
  · exact checkSummary_of_counts rfl rfl rfl rfl rfl rfl rfl rfl rfl rfl rfl
  · simp [httft', hendToEnd', htpot', hitl']
  · exact div_le_div_of_nonneg_right (by exact_mod_cast hgood) hseconds.le
  · exact div_le_div_of_nonneg_right (by exact_mod_cast (by omega)) hseconds.le

/-- A summary carries the identity of its SLO. -/
theorem sloPolicyIdentity_of_summarize {configuration : RunConfiguration}
    {requests : List RequestRecord} {window observed : ℤ} {batch : Option ℤ}
    {metrics : List RequestMetrics} {seconds : ℚ} {output total : Option ℚ} {good : ℕ}
    {summary : RunSummary} (h : summarize configuration requests window observed batch metrics
      seconds output total good = .ok summary) :
    Returns (sloPolicyIdentity configuration.slo) := by
  unfold summarize at h
  obtain ⟨_, -, h⟩ := bind_eq_ok.mp h
  obtain ⟨_, -, h⟩ := bind_eq_ok.mp h
  obtain ⟨_, -, h⟩ := bind_eq_ok.mp h
  obtain ⟨_, -, h⟩ := bind_eq_ok.mp h
  obtain ⟨_, -, h⟩ := bind_eq_ok.mp h
  obtain ⟨_, -, h⟩ := bind_eq_ok.mp h
  obtain ⟨digest, hdigest, -⟩ := bind_eq_ok.mp h
  exact ⟨digest, hdigest⟩

/-- **The SLO has an identity when its thresholds are short.** -/
theorem returns_sloPolicyIdentity_iff {slo : SLODefinition} (h : slo.check = .ok ()) :
    Returns (sloPolicyIdentity slo) ↔ slo.Short := by
  unfold SLODefinition.check at h
  obtain ⟨hname, -⟩ := reject_bind_eq_ok.mp h
  have hencodable : IsEncodable slo.policyName := (not_not.mp hname).2.2
  have hnumber : ∀ threshold : Option ℕ,
      JsonEncodable (threshold.elim .null fun value => .int value) := by
    rintro (_ | value) <;> exact trivial
  have hshort : ∀ threshold : Option ℕ,
      intsShort (threshold.elim .null fun value => .int value) = true ↔
        ∀ value ∈ threshold, value < maxInt := by
    rintro (_ | value) <;> simp [intsShort]
  unfold sloPolicyIdentity
  rw [Returns, exists_sha256Identity_iff]
  simp only [SLODefinition.dump, JsonEncodable, FieldsEncodable, encodable_lit, hencodable, hnumber,
    intsShort, fieldsShort, hshort, Bool.and_eq_true, true_and, and_true, SLODefinition.Short,
    SLODefinition.thresholds, List.forall_mem_cons, List.not_mem_nil, false_imp_iff, implies_true]

/-- Without rounding the whole of a summary depends on nothing but the identity of the SLO. -/
theorem exists_deriveSummary {configuration : RunConfiguration}
    (hconfiguration : configuration.modelValidate = .ok configuration)
    {requests : List RequestRecord}
    (hrequests : ∀ request ∈ requests, request.modelValidate = .ok request)
    {window observed : ℤ} (hwindow : 0 < window)
    (hobserved : 0 ≤ observed ∧ observed ≤ configuration.loadShape.requestedClientConcurrency)
    {batch : Option ℤ} (hbatch : ∀ size ∈ batch, 0 < size) {digest : Str}
    (hdigest : sloPolicyIdentity configuration.slo = .ok digest) :
    ∃ summary, deriveSummary configuration requests window observed batch = .ok summary ∧
      SummaryReconciles configuration requests summary := by
  have hseconds : (0 : ℚ) < window / 10 ^ 9 := by
    have : (0 : ℚ) < window := by exact_mod_cast hwindow
    positivity
  let successful := successfulOf (measuredOf requests)
  obtain ⟨output, houtput, houtput'⟩ := exists_tokenThroughput
    (successful.map (·.outputTokens.value)) hseconds
  obtain ⟨total, htotal, htotal'⟩ := exists_tokenThroughput
    (successful.map (·.inputTokens.value) ++ successful.map (·.outputTokens.value)) hseconds
  obtain ⟨satisfied, hsatisfied, hgood⟩ := exists_satisfied configuration (measuredOf requests)
  have hmetrics : ∀ metrics ∈ successful.map deriveRequestMetrics, Nonnegative metrics := by
    intro metrics hmetrics
    obtain ⟨request, hrequest, rfl⟩ := List.mem_map.mp hmetrics
    have hmem := List.mem_of_mem_filter (List.mem_of_mem_filter hrequest)
    exact (metricsReconcile (hrequests request hmem)).nonnegative
  have hsha : IsSha256 digest := by
    obtain ⟨data, -, rfl⟩ := exists_of_map_eq_ok hdigest
    exact Interpreter.hexdigest_isSha256 data
  obtain ⟨summary, hsummary, hreconciles⟩ := exists_summarize hconfiguration requests hwindow
    hobserved hbatch hmetrics hseconds houtput' htotal' hgood hdigest hsha
  refine ⟨summary, ?_, hreconciles⟩
  have hcollect : collect roundedMetrics successful =
      .ok (successful.map deriveRequestMetrics) := by
    rw [collect_eq_ok, List.forall₂_map_right_iff, List.forall₂_same]
    exact fun request _ => roundedMetrics_exact request
  unfold deriveSummary
  rw [if_neg (by omega), if_neg (by omega)]
  change (collect roundedMetrics successful >>= _) = _
  rw [hcollect]
  change (tokenThroughput (successful.map (·.outputTokens.value)) _ >>= _) = _
  rw [houtput]
  change (tokenThroughput (successful.map (·.inputTokens.value) ++
    successful.map (·.outputTokens.value)) _ >>= _) = _
  rw [htotal]
  change (collect (satisfiesSlo configuration) (measuredOf requests) >>= _) = _
  rw [hsatisfied]
  exact hsummary

theorem returns_sloPolicyIdentity {configuration : RunConfiguration}
    {requests : List RequestRecord} {window observed : ℤ} {batch : Option ℤ} {summary : RunSummary}
    (h : deriveSummary configuration requests window observed batch = .ok summary) :
    Returns (sloPolicyIdentity configuration.slo) := by
  unfold deriveSummary at h
  split_ifs at h
  obtain ⟨_, -, h⟩ := bind_eq_ok.mp h
  obtain ⟨_, -, h⟩ := bind_eq_ok.mp h
  obtain ⟨_, -, h⟩ := bind_eq_ok.mp h
  obtain ⟨_, -, h⟩ := bind_eq_ok.mp h
  obtain ⟨_, -, h⟩ := bind_eq_ok.mp h
  exact sloPolicyIdentity_of_summarize h

/-- **Metrics reconcile, and a summary can be built exactly when the SLO can be written down.**
Without rounding, the metrics of every valid record reconcile; and for a valid configuration, valid
records, a positive window and an observed concurrency within the bound, a summary is returned when
the thresholds of the SLO have at most 4300 digits, and every summary returned reconciles with the
records. -/
theorem deriveSummary_reconciles :
    (∀ request : RequestRecord, request.modelValidate = .ok request →
      MetricsReconcile request (deriveRequestMetrics request)) ∧
    ∀ (configuration : RunConfiguration) (requests : List RequestRecord) (window observed : ℤ)
      (batch : Option ℤ), configuration.modelValidate = .ok configuration →
      (∀ request ∈ requests, request.modelValidate = .ok request) → 0 < window →
      0 ≤ observed ∧ observed ≤ configuration.loadShape.requestedClientConcurrency →
      (∀ size ∈ batch, 0 < size) →
      (Returns (deriveSummary configuration requests window observed batch) ↔
        configuration.slo.Short) ∧
      ∀ summary, deriveSummary configuration requests window observed batch = .ok summary →
        SummaryReconciles configuration requests summary := by
  refine ⟨fun request hrequest => metricsReconcile hrequest, ?_⟩
  intro configuration requests window observed batch hconfiguration hrequests hwindow hobserved
    hbatch
  obtain ⟨-, hslo, -⟩ := RunConfiguration.of_modelValidate hconfiguration
  have hexists : Returns (sloPolicyIdentity configuration.slo) → ∃ summary,
      deriveSummary configuration requests window observed batch = .ok summary ∧
        SummaryReconciles configuration requests summary := fun ⟨_, hdigest⟩ =>
    exists_deriveSummary hconfiguration hrequests hwindow hobserved hbatch hdigest
  constructor
  · rw [← returns_sloPolicyIdentity_iff hslo]
    refine ⟨fun ⟨summary, h⟩ => returns_sloPolicyIdentity h, fun h => ?_⟩
    obtain ⟨summary, hsummary, -⟩ := hexists h
    exact ⟨summary, hsummary⟩
  · intro summary h
    obtain ⟨summary', hsummary', hreconciles⟩ := hexists (returns_sloPolicyIdentity h)
    obtain rfl := Except.ok.inj (h.symm.trans hsummary')
    exact hreconciles

end

section

attribute [local instance] exactArithmetic cpython

/-- A closed loop of two clients with one threshold. -/
def sampleConfiguration (threshold : ℕ) : RunConfiguration where
  loadShape := ⟨2⟩
  slo := ⟨lit "p", some threshold, none, none, none⟩
  configuredServerMaximumBatchSize := none
  configuredServerBatchSource := none

/-- A successful request of two tokens in one event, and of one more in another. -/
def sampleRequest : RequestRecord where
  requestId := lit "r"
  caseId := lit "c"
  phase := .measured
  outcome := .success
  timing := ⟨0, some 1, some 2, some 9, 10⟩
  streamEvents := [⟨0, 5, 2, some [2, 4]⟩, ⟨1, 9, 1, none⟩]
  inputTokens := ⟨some 1, .fixtureExact, .exact, none, none, none⟩
  outputTokens := ⟨some 3, .fixtureExact, .exact, none, none, none⟩
  failure := none

theorem deriveSummary_reconciles_sampleRequest :
    MetricsReconcile sampleRequest (deriveRequestMetrics sampleRequest) ∧
      (Returns (deriveSummary (sampleConfiguration 5) [sampleRequest] 10 1 none) ↔
        (sampleConfiguration 5).slo.Short) ∧
      ∀ summary, deriveSummary (sampleConfiguration 5) [sampleRequest] 10 1 none = .ok summary →
        SummaryReconciles (sampleConfiguration 5) [sampleRequest] summary :=
  ⟨deriveSummary_reconciles.1 sampleRequest (by decide),
    deriveSummary_reconciles.2 (sampleConfiguration 5) [sampleRequest] 10 1 none (by decide)
      (by decide) (by decide) (by decide) (by decide)⟩

/-- A threshold of 4301 digits cannot be written down. -/
theorem not_returns_deriveSummary :
    ¬ ∀ (configuration : RunConfiguration) (requests : List RequestRecord) (window observed : ℤ),
      configuration.modelValidate = .ok configuration →
      (∀ request ∈ requests, request.modelValidate = .ok request) → 0 < window →
      0 ≤ observed ∧ observed ≤ configuration.loadShape.requestedClientConcurrency →
      Returns (deriveSummary configuration requests window observed none) := by
  intro h
  have hpos : maxInt ≠ 0 := (Nat.one_le_iff_ne_zero.mp (pow_le_maxInt (k := 0) (by decide)))
  have hslo : (sampleConfiguration maxInt).slo.check = .ok () := by
    refine reject_bind_eq_ok.mpr ⟨by decide, reject_bind_eq_ok.mpr ⟨?_, ?_⟩⟩
    · simp [sampleConfiguration, SLODefinition.thresholds, hpos.symm]
    · simp [sampleConfiguration, SLODefinition.thresholds]
  have hconfiguration : (sampleConfiguration maxInt).modelValidate =
      .ok (sampleConfiguration maxInt) := by
    refine reject_bind_eq_ok.mpr ⟨by simp [sampleConfiguration], bind_eq_ok.mpr ⟨(), hslo, ?_⟩⟩
    rfl
  obtain ⟨summary, hsummary⟩ := h (sampleConfiguration maxInt) [] 1 0 hconfiguration (by simp)
    (by decide) ⟨le_refl 0, by simp [sampleConfiguration]⟩
  have hshort := (returns_sloPolicyIdentity_iff hslo).mp (returns_sloPolicyIdentity hsummary)
  exact lt_irrefl maxInt (hshort (some maxInt) (by simp [sampleConfiguration,
    SLODefinition.thresholds]) maxInt rfl)

end

end Stage0
