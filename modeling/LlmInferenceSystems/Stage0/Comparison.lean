import LlmInferenceSystems.Stage0.Artifact

/-!
# Comparison of two runs of the first stage

A policy pins two artifacts and an SLO, and names the fields that must be identical and those that
may differ. A report carries metric deltas only when nothing that may not differ does. Everything is
computed without rounding.

## Main definitions

* `ComparisonPolicy`, `ComparisonPolicy.modelValidate`: the policies
* `fieldValue`: a field of an artifact, by its dotted path
* `checkCompatibility`, `createComparisonReport`: the check and the report
* `Comparable`: what two artifacts satisfy that may be compared
* `ComparisonPolicy.swap`: the policy for the artifacts the other way round

## Main results

* `checkCompatibility_eq_ok`: what the check compares
* `comparable_of_compatible`, `checkCompatibility_of_comparable`: a pair is compatible exactly when
  it satisfies what the policy requires
* `checkCompatibility_swap`: the check the other way round
* `comparison_sound_symmetric`: deltas are sound, and opposite the other way round
-/

namespace Stage0

open Python FieldValue

/-! ## Policies -/

/-- `ComparisonKind` -/
inductive ComparisonKind where
  | sameRuntimeAndHardware
  | crossRuntime
  | crossHardware
deriving DecidableEq

/-- `FailureComparisonPolicy` -/
inductive FailureComparisonPolicy where
  | invalidate
  | reduceGoodput
deriving DecidableEq

/-- `ESSENTIAL_COMPARISON_FIELDS` -/
def essentialComparisonFields : List String :=
  ["workload_identity.content_sha256", "workload_identity.case_ids",
    "workload_identity.ordering_policy", "model_identity.model_id",
    "model_identity.exact_revision", "tokenizer_identity.tokenizer_id",
    "tokenizer_identity.exact_revision", "configuration.sampling",
    "configuration.sampling.maximum_output_tokens", "configuration.prompt_transformation",
    "measurement_contract_version", "configuration.warmup_policy",
    "configuration.warmup_request_count", "configuration.timeout_policy",
    "configuration.load_shape", "summary.goodput_slo_policy_sha256"]

/-- `ComparisonPolicy` -/
structure ComparisonPolicy where
  baselineArtifactSha256 : Str
  candidateArtifactSha256 : Str
  comparisonKind : ComparisonKind
  fieldsRequiredIdentical : List Str
  fieldsAllowedToDiffer : List Str
  sloPolicySha256 : Str
  minimumSuccessfulRequests : ℕ
  minimumMetricSamples : ℕ
  failurePolicy : FailureComparisonPolicy

namespace ComparisonPolicy

/-- The types of the fields -/
def checkTypes (policy : ComparisonPolicy) : Except PyError Unit := do
  reject (∃ digest ∈ [policy.baselineArtifactSha256, policy.candidateArtifactSha256,
    policy.sloPolicySha256], ¬ IsSha256 digest) "sha256"
  reject (∃ field ∈ policy.fieldsRequiredIdentical ++ policy.fieldsAllowedToDiffer,
    ¬ IsIdentifier field) "identifier"
  reject (policy.minimumSuccessfulRequests = 0) "minimum_successful_requests"
  reject (policy.minimumMetricSamples = 0) "minimum_metric_samples"

/-- A field that may differ exactly between the policies of one kind. -/
def checkKind (policy : ComparisonPolicy) (kind : ComparisonKind) (field : String)
    (allowMessage requireMessage : String) : Except PyError Unit :=
  if policy.comparisonKind = kind then
    reject (lit field ∉ policy.fieldsAllowedToDiffer) allowMessage
  else reject (lit field ∉ policy.fieldsRequiredIdentical) requireMessage

/-- `validate_policy` -/
def validatePolicy (policy : ComparisonPolicy) : Except PyError Unit := do
  reject (¬ policy.fieldsRequiredIdentical.Nodup) "required-identical fields must be unique"
  reject (¬ policy.fieldsAllowedToDiffer.Nodup) "allowed-difference fields must be unique"
  reject (∃ field ∈ policy.fieldsRequiredIdentical, field ∈ policy.fieldsAllowedToDiffer)
    "a field cannot be both required identical and allowed to differ"
  reject (∃ field ∈ essentialComparisonFields, lit field ∉ policy.fieldsRequiredIdentical)
    "required comparison fields missing"
  policy.checkKind .crossRuntime "runtime_identity"
    "cross-runtime policies must allow runtime_identity to differ"
    "non-cross-runtime policies must require runtime_identity"
  policy.checkKind .crossHardware "hardware_identity"
    "cross-hardware policies must allow hardware_identity to differ"
    "non-cross-hardware policies must require hardware_identity"

/-- `model_validate` -/
def modelValidate (policy : ComparisonPolicy) : Except PyError ComparisonPolicy := do
  policy.checkTypes
  policy.validatePolicy
  return policy

/-- The policy as a value, under the source's names. -/
def value (policy : ComparisonPolicy) : FieldValue :=
  modelOf [("schema_version", literal "0.1.0"),
    ("comparison_contract_version", literal "0.1.0"),
    ("baseline_artifact_sha256", str policy.baselineArtifactSha256),
    ("candidate_artifact_sha256", str policy.candidateArtifactSha256),
    ("comparison_kind", enum <|
      match policy.comparisonKind with
      | .sameRuntimeAndHardware => "SAME_RUNTIME_AND_HARDWARE"
      | .crossRuntime => "CROSS_RUNTIME"
      | .crossHardware => "CROSS_HARDWARE"),
    ("fields_required_identical", tupleOf str policy.fieldsRequiredIdentical),
    ("fields_allowed_to_differ", tupleOf str policy.fieldsAllowedToDiffer),
    ("slo_policy_sha256", str policy.sloPolicySha256),
    ("minimum_successful_requests", nat policy.minimumSuccessfulRequests),
    ("minimum_metric_samples", nat policy.minimumMetricSamples),
    ("failure_policy", enum <|
      match policy.failurePolicy with
      | .invalidate => "INVALIDATE"
      | .reduceGoodput => "REDUCE_GOODPUT")]

/-- The policy for the two artifacts the other way round. -/
def swap (policy : ComparisonPolicy) : ComparisonPolicy :=
  { policy with
    baselineArtifactSha256 := policy.candidateArtifactSha256
    candidateArtifactSha256 := policy.baselineArtifactSha256 }

end ComparisonPolicy

/-! ## Mismatches -/

/-- One turn of the loop of `_field_value`. -/
def fieldStep (value : FieldValue) (part : Str) : Except PyError FieldValue :=
  match value with
  | .model fields =>
    match fields.lookup part with
    | some value => .ok value
    | none => .error (.value "unknown comparison field")
  | _ => .error (.value "comparison field cannot be traversed")

/-- `_field_value` -/
def fieldValue (artifact : RunArtifact) (field : Str) : Except PyError FieldValue :=
  (field.splitOn 46).foldlM fieldStep artifact.value

/-- `ComparisonMismatch`: one field on which two artifacts differ. -/
structure ComparisonMismatch where
  field : Str
  baselineValue : Str
  candidateValue : Str
  allowed : Bool
deriving DecidableEq

/-- A mismatch that was constructed. -/
def ComparisonMismatch.create (mismatch : ComparisonMismatch) :
    Except PyError ComparisonMismatch := do
  reject (¬ IsIdentifier mismatch.field) "field"
  return mismatch

/-- `ComparisonCompatibility` -/
structure ComparisonCompatibility where
  compatible : Bool
  mismatches : List ComparisonMismatch
  baselineSampleRequirementMet : Bool
  candidateSampleRequirementMet : Bool
deriving DecidableEq

/-- Some mismatch is not allowed. -/
def blocked (mismatches : List ComparisonMismatch) : Bool := mismatches.any (!·.allowed)

/-- A compatibility that was constructed: `validate_compatibility`. -/
def ComparisonCompatibility.create (compatibility : ComparisonCompatibility) :
    Except PyError ComparisonCompatibility := do
  let expected := !blocked compatibility.mismatches &&
    compatibility.baselineSampleRequirementMet && compatibility.candidateSampleRequirementMet
  reject (compatibility.compatible ≠ expected)
    "compatible flag does not match mismatches and sample requirements"
  return compatibility

/-- `_minimum_samples_met` -/
def minimumSamplesMet (artifact : RunArtifact) (policy : ComparisonPolicy) : Bool :=
  let distributions := [artifact.summary.ttft, artifact.summary.endToEndSuccess,
    artifact.summary.tpot, artifact.summary.itl]
  decide (policy.minimumSuccessfulRequests ≤ artifact.summary.successfulCount) &&
    distributions.all fun item => decide (policy.minimumMetricSamples ≤ item.sampleCount)

section

variable [Interpreter]

/-- `_display` -/
def display : FieldValue → Except PyError Str
  | .scalar (.enum text) => .ok text
  | .scalar (.str text) => .ok text
  | value => do
    let bytes ← canonicalJsonBytes value.json
    match utf8Decode bytes with
    | some text => .ok text
    | none => .error (.value "utf-8")

/-- `_record_mismatch`: what it appends -/
def recordMismatch (field : Str) (baseline candidate : FieldValue) (allowed : Bool) :
    Except PyError (List ComparisonMismatch) :=
  if baseline ≠ candidate then do
    let baselineValue ← display baseline
    let candidateValue ← display candidate
    let mismatch ← ComparisonMismatch.create { field, baselineValue, candidateValue, allowed }
    return [mismatch]
  else return []

/-- The loop over fields that must be identical, or over those that may differ. -/
def recordFields (baseline candidate : RunArtifact) (allowed : Bool) (fields : List Str) :
    Except PyError (List (List ComparisonMismatch)) :=
  collect (fun field => do
    let baselineValue ← fieldValue baseline field
    let candidateValue ← fieldValue candidate field
    recordMismatch field baselineValue candidateValue allowed) fields

/-- The mismatches of the artifacts' hashes and of their SLO. -/
def recordIdentities (baseline candidate : RunArtifact) (policy : ComparisonPolicy) :
    Except PyError (List (List ComparisonMismatch)) := do
  let baselineValid ← verifyArtifactContentHash baseline
  let first ← recordMismatch (lit "baseline_artifact_content_hash_valid") (bool true)
    (bool baselineValid) false
  let candidateValid ← verifyArtifactContentHash candidate
  let second ← recordMismatch (lit "candidate_artifact_content_hash_valid") (bool true)
    (bool candidateValid) false
  let third ← recordMismatch (lit "baseline_artifact_sha256") (str policy.baselineArtifactSha256)
    (optional str baseline.artifactContentSha256) false
  let fourth ← recordMismatch (lit "candidate_artifact_sha256")
    (str policy.candidateArtifactSha256) (optional str candidate.artifactContentSha256) false
  let fifth ← recordMismatch (lit "baseline_slo_policy_sha256") (str policy.sloPolicySha256)
    (str baseline.summary.goodputSloPolicySha256) false
  let sixth ← recordMismatch (lit "candidate_slo_policy_sha256") (str policy.sloPolicySha256)
    (str candidate.summary.goodputSloPolicySha256) false
  return [first, second, third, fourth, fifth, sixth]

/-- The mismatch of the failures, where they invalidate. -/
def recordFailures (baseline candidate : RunArtifact) (policy : ComparisonPolicy) :
    Except PyError (List ComparisonMismatch) :=
  if policy.failurePolicy = .invalidate then
    recordMismatch (lit "failed_count") (nat 0)
      (nat (baseline.summary.failedCount + candidate.summary.failedCount)) false
  else return []

/-- `check_compatibility` -/
def checkCompatibility (baseline candidate : RunArtifact) (policy : ComparisonPolicy) :
    Except PyError ComparisonCompatibility := do
  let identities ← recordIdentities baseline candidate policy
  let required ← recordFields baseline candidate false policy.fieldsRequiredIdentical
  let allowed ← recordFields baseline candidate true policy.fieldsAllowedToDiffer
  let failures ← recordFailures baseline candidate policy
  let mismatches := identities.flatten ++ required.flatten ++ allowed.flatten ++ failures
  let baselineSamples := minimumSamplesMet baseline policy
  let candidateSamples := minimumSamplesMet candidate policy
  ComparisonCompatibility.create
    { compatible := baselineSamples && candidateSamples && !blocked mismatches
      mismatches
      baselineSampleRequirementMet := baselineSamples
      candidateSampleRequirementMet := candidateSamples }

end

/-! ## Reports -/

/-- `MetricDelta` -/
structure MetricDelta where
  metric : Str
  baselineValue : ℚ
  candidateValue : ℚ
  absoluteDelta : ℚ
  relativeDelta : Option ℚ
deriving DecidableEq

/-- `_delta`, without rounding -/
def delta (metric : String) (baseline candidate : ℚ) : MetricDelta :=
  let absolute := candidate - baseline
  { metric := lit metric
    baselineValue := baseline
    candidateValue := candidate
    absoluteDelta := absolute
    relativeDelta := if baseline ≠ 0 then some (absolute / baseline) else none }

/-- The metrics that every summary has. -/
def scalarMetrics : List (String × (RunSummary → ℚ)) :=
  [("successful_request_throughput", (·.successfulRequestThroughput)),
    ("goodput", (·.goodput)),
    ("failure_rate", (·.failureRate)),
    ("timeout_rate", (·.timeoutRate))]

/-- The percentiles, by the names of their deltas. -/
def percentileMetrics : List (String × (RunSummary → Option ℚ)) :=
  [("ttft.p50", (·.ttft.p50)), ("ttft.p95", (·.ttft.p95)), ("ttft.p99", (·.ttft.p99)),
    ("end_to_end_success.p50", (·.endToEndSuccess.p50)),
    ("end_to_end_success.p95", (·.endToEndSuccess.p95)),
    ("end_to_end_success.p99", (·.endToEndSuccess.p99)),
    ("tpot.p50", (·.tpot.p50)), ("tpot.p95", (·.tpot.p95)), ("tpot.p99", (·.tpot.p99)),
    ("itl.p50", (·.itl.p50)), ("itl.p95", (·.itl.p95)), ("itl.p99", (·.itl.p99))]

/-- The delta of a percentile that both summaries have. -/
def percentileDelta (baseline candidate : RunSummary)
    (metric : String × (RunSummary → Option ℚ)) : Option MetricDelta :=
  match metric.2 baseline, metric.2 candidate with
  | some left, some right => some (delta metric.1 left right)
  | _, _ => none

/-- `_metric_deltas` -/
def metricDeltas (baseline candidate : RunArtifact) : List MetricDelta :=
  scalarMetrics.map (fun metric =>
      delta metric.1 (metric.2 baseline.summary) (metric.2 candidate.summary)) ++
    percentileMetrics.filterMap (percentileDelta baseline.summary candidate.summary)

/-- A `datetime`: its offset from UTC, if it is aware, and its text in UTC. -/
structure Datetime where
  utcOffset : Option ℤ
  utc : Str

/-- `ComparisonReport` -/
structure ComparisonReport where
  createdAt : Datetime
  reportContentSha256 : Option Str
  policySha256 : Str
  baselineArtifactSha256 : Str
  candidateArtifactSha256 : Str
  compatibility : ComparisonCompatibility
  deltas : List MetricDelta

/-- The mismatch as a value. -/
def ComparisonMismatch.value (mismatch : ComparisonMismatch) : FieldValue :=
  modelOf [("field", str mismatch.field),
    ("baseline_value", str mismatch.baselineValue),
    ("candidate_value", str mismatch.candidateValue),
    ("allowed", bool mismatch.allowed)]

/-- The compatibility as a value. -/
def ComparisonCompatibility.value (compatibility : ComparisonCompatibility) : FieldValue :=
  modelOf [("compatible", bool compatibility.compatible),
    ("mismatches", tupleOf ComparisonMismatch.value compatibility.mismatches),
    ("baseline_sample_requirement_met", bool compatibility.baselineSampleRequirementMet),
    ("candidate_sample_requirement_met", bool compatibility.candidateSampleRequirementMet)]

/-- The difference as a value. -/
def MetricDelta.value (delta : MetricDelta) : FieldValue :=
  modelOf [("metric", str delta.metric),
    ("baseline_value", float delta.baselineValue),
    ("candidate_value", float delta.candidateValue),
    ("absolute_delta", float delta.absoluteDelta),
    ("relative_delta", optional float delta.relativeDelta)]

namespace ComparisonReport

/-- The report as a value. -/
def value (report : ComparisonReport) : FieldValue :=
  modelOf [("schema_version", literal "0.1.0"),
    ("comparison_contract_version", literal "0.1.0"),
    ("evidence_scope", enum "TEST_FIXTURE_ONLY"),
    ("created_at", .scalar (.datetime report.createdAt.utc)),
    ("report_content_sha256", optional str report.reportContentSha256),
    ("policy_sha256", str report.policySha256),
    ("baseline_artifact_sha256", str report.baselineArtifactSha256),
    ("candidate_artifact_sha256", str report.candidateArtifactSha256),
    ("compatibility", report.compatibility.value),
    ("deltas", tupleOf MetricDelta.value report.deltas)]

/-- A report that was constructed: `validate_report`. Its digests were checked with the policy. -/
def create (report : ComparisonReport) : Except PyError ComparisonReport := do
  reject (report.createdAt.utcOffset ≠ some 0) "created_at must be timezone-aware UTC"
  reject (report.compatibility.compatible = false ∧ report.deltas ≠ [])
    "incompatible comparisons cannot contain metric deltas"
  return report

end ComparisonReport

section

variable [Interpreter]

/-- `with_report_content_hash` -/
def withReportContentHash (report : ComparisonReport) : Except PyError ComparisonReport := do
  let digest ← sha256Identity report.value.json ["report_content_sha256"]
  return { report with reportContentSha256 := some digest }

/-- `create_comparison_report` -/
def createComparisonReport (baseline candidate : RunArtifact) (policy : ComparisonPolicy)
    (createdAt : Datetime) : Except PyError ComparisonReport := do
  let compatibility ← checkCompatibility baseline candidate policy
  let policySha256 ← sha256Identity policy.value.json
  let report ← ComparisonReport.create
    { createdAt
      reportContentSha256 := none
      policySha256
      baselineArtifactSha256 := policy.baselineArtifactSha256
      candidateArtifactSha256 := policy.candidateArtifactSha256
      compatibility
      deltas := if compatibility.compatible then metricDeltas baseline candidate else [] }
  withReportContentHash report

end

/-! ## What the check compares -/

@[simp] theorem blocked_nil : blocked [] = false := rfl

@[simp] theorem blocked_append (ms ms' : List ComparisonMismatch) :
    blocked (ms ++ ms') = (blocked ms || blocked ms') := List.any_append

theorem str_eq_optional {text : Str} {other : Option Str} :
    str text = FieldValue.optional str other ↔ other = some text := by
  cases other <;> simp [FieldValue.str, FieldValue.optional, eq_comm]

theorem str_inj {text other : Str} : str text = str other ↔ text = other := by
  simp [FieldValue.str]

theorem bool_inj {b c : Bool} : bool b = bool c ↔ b = c := by simp [FieldValue.bool]

theorem nat_inj {m n : ℕ} : nat m = nat n ↔ m = n := by simp [FieldValue.nat, FieldValue.int]

section

variable [Interpreter]

/-- **What `_record_mismatch` appends.** -/
theorem recordMismatch_eq_ok {field : Str} {baseline candidate : FieldValue} {allowed : Bool}
    {ms : List ComparisonMismatch} :
    recordMismatch field baseline candidate allowed = .ok ms ↔
      (baseline = candidate ∧ ms = []) ∨
        (baseline ≠ candidate ∧ IsIdentifier field ∧ ∃ left right, display baseline = .ok left ∧
          display candidate = .ok right ∧ ms = [⟨field, left, right, allowed⟩]) := by
  unfold recordMismatch ComparisonMismatch.create
  by_cases hsame : baseline = candidate
  · simp [hsame, pure, Except.pure, eq_comm]
  · rw [if_pos hsame]
    constructor
    · intro h
      obtain ⟨left, hleft, h⟩ := bind_eq_ok.mp h
      obtain ⟨right, hright, h⟩ := bind_eq_ok.mp h
      obtain ⟨mismatch, hmismatch, h⟩ := bind_eq_ok.mp h
      obtain ⟨hfield, hmismatch⟩ := reject_bind_eq_ok.mp hmismatch
      obtain rfl := Except.ok.inj hmismatch
      exact .inr ⟨hsame, not_not.mp hfield, left, right, hleft, hright, (Except.ok.inj h).symm⟩
    · rintro (⟨h, -⟩ | ⟨-, hfield, left, right, hleft, hright, rfl⟩)
      · exact absurd h hsame
      · refine bind_eq_ok.mpr ⟨left, hleft, bind_eq_ok.mpr ⟨right, hright, ?_⟩⟩
        exact bind_eq_ok.mpr ⟨_, reject_bind_eq_ok.mpr ⟨not_not.mpr hfield, rfl⟩, rfl⟩

/-- A comparison that may not fail blocks when the values differ. -/
theorem blocked_recordMismatch {field : Str} {baseline candidate : FieldValue}
    {ms : List ComparisonMismatch} (h : recordMismatch field baseline candidate false = .ok ms) :
    (blocked ms = false ↔ baseline = candidate) ∧ (blocked ms = false → ms = []) := by
  rcases recordMismatch_eq_ok.mp h with ⟨rfl, rfl⟩ | ⟨hne, -, _, _, -, -, rfl⟩
  · simp
  · simp [blocked, hne]

/-- A comparison that may fail does not block. -/
theorem blocked_recordMismatch_allowed {field : Str} {baseline candidate : FieldValue}
    {ms : List ComparisonMismatch} (h : recordMismatch field baseline candidate true = .ok ms) :
    blocked ms = false := by
  rcases recordMismatch_eq_ok.mp h with ⟨-, rfl⟩ | ⟨-, -, _, _, -, -, rfl⟩ <;> rfl

/-- The hashes and the SLO that the policy pins. -/
structure Pinned (policy : ComparisonPolicy) (baseline candidate : RunArtifact) : Prop where
  baselineVerified : verifyArtifactContentHash baseline = .ok true
  candidateVerified : verifyArtifactContentHash candidate = .ok true
  baselineHash : baseline.artifactContentSha256 = some policy.baselineArtifactSha256
  candidateHash : candidate.artifactContentSha256 = some policy.candidateArtifactSha256
  baselineSlo : baseline.summary.goodputSloPolicySha256 = policy.sloPolicySha256
  candidateSlo : candidate.summary.goodputSloPolicySha256 = policy.sloPolicySha256

/-- The identities do not block when the policy has pinned them. -/
theorem recordIdentities_eq_ok {baseline candidate : RunArtifact} {policy : ComparisonPolicy}
    {identities : List (List ComparisonMismatch)}
    (h : recordIdentities baseline candidate policy = .ok identities) :
    (blocked identities.flatten = false → identities.flatten = []) ∧
      (blocked identities.flatten = false ↔ Pinned policy baseline candidate) := by
  -- -- the six identity checks, in the order the source records them
  obtain ⟨baselineValid, hbaseline, h⟩ := bind_eq_ok.mp h
  obtain ⟨first, hfirst, h⟩ := bind_eq_ok.mp h
  obtain ⟨candidateValid, hcandidate, h⟩ := bind_eq_ok.mp h
  obtain ⟨second, hsecond, h⟩ := bind_eq_ok.mp h
  obtain ⟨third, hthird, h⟩ := bind_eq_ok.mp h
  obtain ⟨fourth, hfourth, h⟩ := bind_eq_ok.mp h
  obtain ⟨fifth, hfifth, h⟩ := bind_eq_ok.mp h
  obtain ⟨sixth, hsixth, h⟩ := bind_eq_ok.mp h
  obtain rfl := Except.ok.inj h
  have hsplit : blocked [first, second, third, fourth, fifth, sixth].flatten = false ↔
      blocked first = false ∧ blocked second = false ∧ blocked third = false ∧
        blocked fourth = false ∧ blocked fifth = false ∧ blocked sixth = false := by
    simp
  rw [hsplit]
  constructor
  -- -- a check that blocks nothing recorded nothing
  · rintro ⟨h₁, h₂, h₃, h₄, h₅, h₆⟩
    simp [(blocked_recordMismatch hfirst).2 h₁, (blocked_recordMismatch hsecond).2 h₂,
      (blocked_recordMismatch hthird).2 h₃, (blocked_recordMismatch hfourth).2 h₄,
      (blocked_recordMismatch hfifth).2 h₅, (blocked_recordMismatch hsixth).2 h₆]
  · rw [(blocked_recordMismatch hfirst).1, (blocked_recordMismatch hsecond).1,
      (blocked_recordMismatch hthird).1, (blocked_recordMismatch hfourth).1,
      (blocked_recordMismatch hfifth).1, (blocked_recordMismatch hsixth).1,
      str_eq_optional, str_eq_optional, str_inj, str_inj, bool_inj, bool_inj]
    constructor
    · rintro ⟨rfl, rfl, h₃, h₄, h₅, h₆⟩
      exact ⟨hbaseline, hcandidate, h₃, h₄, h₅.symm, h₆.symm⟩
    · rintro ⟨h₁, h₂, h₃, h₄, h₅, h₆⟩
      rw [hbaseline] at h₁
      rw [hcandidate] at h₂
      exact ⟨(Except.ok.inj h₁).symm, (Except.ok.inj h₂).symm, h₃, h₄, h₅.symm, h₆.symm⟩

/-- A field has the same value in both artifacts. -/
def SameField (baseline candidate : RunArtifact) (field : Str) : Prop :=
  ∃ value, fieldValue baseline field = .ok value ∧ fieldValue candidate field = .ok value

/-- The fields that must be identical do not block when they are. -/
theorem recordFields_eq_ok {baseline candidate : RunArtifact} {fields : List Str}
    {required : List (List ComparisonMismatch)}
    (h : recordFields baseline candidate false fields = .ok required) :
    (blocked required.flatten = false → required.flatten = []) ∧
      (blocked required.flatten = false ↔ ∀ field ∈ fields, SameField baseline candidate field) := by
  have hall := collect_eq_ok.mp h
  clear h
  induction hall with
  | nil => simp
  | @cons field ms fields required hfield _ ih =>
    obtain ⟨left, hleft, h⟩ := bind_eq_ok.mp hfield
    obtain ⟨right, hright, hms⟩ := bind_eq_ok.mp h
    have hsame : left = right ↔ SameField baseline candidate field := by
      constructor
      · rintro rfl
        exact ⟨left, hleft, hright⟩
      · rintro ⟨value, hleft', hright'⟩
        rw [hleft] at hleft'
        rw [hright] at hright'
        exact (Except.ok.inj hleft').trans (Except.ok.inj hright').symm
    obtain ⟨hblocked, hnil⟩ := blocked_recordMismatch hms
    rw [List.flatten_cons, blocked_append, Bool.or_eq_false_iff, List.forall_mem_cons, ← ih.2,
      hblocked, hsame]
    refine ⟨fun ⟨hhead, htail⟩ => ?_, Iff.rfl⟩
    rw [hnil (hblocked.mpr (hsame.mpr hhead)), ih.1 htail, List.append_nil]

theorem blocked_recordFields_allowed {baseline candidate : RunArtifact} {fields : List Str}
    {allowed : List (List ComparisonMismatch)}
    (h : recordFields baseline candidate true fields = .ok allowed) :
    blocked allowed.flatten = false := by
  have hall := collect_eq_ok.mp h
  clear h
  induction hall with
  | nil => rfl
  | cons hfield _ ih =>
    obtain ⟨left, -, h⟩ := bind_eq_ok.mp hfield
    obtain ⟨right, -, hms⟩ := bind_eq_ok.mp h
    rw [List.flatten_cons, blocked_append, blocked_recordMismatch_allowed hms, ih]
    rfl

/-- The failures do not block when they are allowed, or when there are none. -/
theorem recordFailures_eq_ok {baseline candidate : RunArtifact} {policy : ComparisonPolicy}
    {failures : List ComparisonMismatch}
    (h : recordFailures baseline candidate policy = .ok failures) :
    (blocked failures = false → failures = []) ∧
      (blocked failures = false ↔ (policy.failurePolicy = .invalidate →
        baseline.summary.failedCount = 0 ∧ candidate.summary.failedCount = 0)) := by
  unfold recordFailures at h
  split at h
  · next hpolicy =>
    obtain ⟨hblocked, hnil⟩ := blocked_recordMismatch h
    refine ⟨hnil, ?_⟩
    rw [hblocked, nat_inj, forall_prop_of_true hpolicy]
    omega
  · next hpolicy =>
    obtain rfl := Except.ok.inj h
    simp [hpolicy]

/-- **What the check compares.** -/
theorem checkCompatibility_eq_ok {baseline candidate : RunArtifact} {policy : ComparisonPolicy}
    {compatibility : ComparisonCompatibility} :
    checkCompatibility baseline candidate policy = .ok compatibility ↔
      ∃ identities required allowed failures,
        recordIdentities baseline candidate policy = .ok identities ∧
        recordFields baseline candidate false policy.fieldsRequiredIdentical = .ok required ∧
        recordFields baseline candidate true policy.fieldsAllowedToDiffer = .ok allowed ∧
        recordFailures baseline candidate policy = .ok failures ∧
        compatibility =
          { compatible := minimumSamplesMet baseline policy && minimumSamplesMet candidate policy &&
              !blocked (identities.flatten ++ required.flatten ++ allowed.flatten ++ failures)
            mismatches := identities.flatten ++ required.flatten ++ allowed.flatten ++ failures
            baselineSampleRequirementMet := minimumSamplesMet baseline policy
            candidateSampleRequirementMet := minimumSamplesMet candidate policy } := by
  unfold checkCompatibility
  constructor
  -- -- the records are appended in this order, and the assertion at the end never fails
  · intro h
    obtain ⟨identities, hidentities, h⟩ := bind_eq_ok.mp h
    obtain ⟨required, hrequired, h⟩ := bind_eq_ok.mp h
    obtain ⟨allowed, hallowed, h⟩ := bind_eq_ok.mp h
    obtain ⟨failures, hfailures, h⟩ := bind_eq_ok.mp h
    obtain ⟨-, h⟩ := reject_bind_eq_ok.mp h
    exact ⟨identities, required, allowed, failures, hidentities, hrequired, hallowed, hfailures,
      (Except.ok.inj h).symm⟩
  · rintro ⟨identities, required, allowed, failures, hidentities, hrequired, hallowed, hfailures,
      rfl⟩
    refine bind_eq_ok.mpr ⟨identities, hidentities, bind_eq_ok.mpr ⟨required, hrequired, ?_⟩⟩
    refine bind_eq_ok.mpr ⟨allowed, hallowed, bind_eq_ok.mpr ⟨failures, hfailures, ?_⟩⟩
    refine reject_bind_eq_ok.mpr ⟨not_not.mpr ?_, rfl⟩
    -- -- the assertion restates the verdict with its conditions in another order
    exact (Bool.and_comm _ _).trans (Bool.and_assoc _ _ _).symm

/-- What two artifacts satisfy that may be compared. -/
structure Comparable (policy : ComparisonPolicy) (baseline candidate : RunArtifact) : Prop where
  pinned : Pinned policy baseline candidate
  required : ∀ field ∈ policy.fieldsRequiredIdentical, SameField baseline candidate field
  baselineSamples : minimumSamplesMet baseline policy = true
  candidateSamples : minimumSamplesMet candidate policy = true
  failures : policy.failurePolicy = .invalidate →
    baseline.summary.failedCount = 0 ∧ candidate.summary.failedCount = 0

/-- **A pair is compatible when it may be compared**, and then only what may differ differs. -/
theorem comparable_of_compatible {baseline candidate : RunArtifact} {policy : ComparisonPolicy}
    {compatibility : ComparisonCompatibility}
    (h : checkCompatibility baseline candidate policy = .ok compatibility) :
    (compatibility.compatible = true ↔ Comparable policy baseline candidate) ∧
      (compatibility.compatible = true → ∃ allowed,
        recordFields baseline candidate true policy.fieldsAllowedToDiffer = .ok allowed ∧
          compatibility.mismatches = allowed.flatten) := by
  obtain ⟨identities, required, allowed, failures, hidentities, hrequired, hallowed, hfailures,
    rfl⟩ := checkCompatibility_eq_ok.mp h
  obtain ⟨hinil, hiblocked⟩ := recordIdentities_eq_ok hidentities
  obtain ⟨hrnil, hrblocked⟩ := recordFields_eq_ok hrequired
  obtain ⟨hfnil, hfblocked⟩ := recordFailures_eq_ok hfailures
  -- -- an allowed difference blocks nothing
  have hsplit : blocked (identities.flatten ++ required.flatten ++ allowed.flatten ++ failures) =
      false ↔ (blocked identities.flatten = false ∧ blocked required.flatten = false) ∧
        blocked failures = false := by
    simp only [blocked_append, blocked_recordFields_allowed hallowed, Bool.or_false,
      Bool.or_eq_false_iff]
  dsimp only
  rw [Bool.and_eq_true, Bool.and_eq_true, Bool.not_eq_true', hsplit]
  constructor
  · rw [hiblocked, hrblocked, hfblocked]
    constructor
    · rintro ⟨⟨hbaseline, hcandidate⟩, ⟨hpinned, hsame⟩, hnone⟩
      exact ⟨hpinned, hsame, hbaseline, hcandidate, hnone⟩
    · rintro ⟨hpinned, hsame, hbaseline, hcandidate, hnone⟩
      exact ⟨⟨hbaseline, hcandidate⟩, ⟨hpinned, hsame⟩, hnone⟩
  -- -- a compatible pair has recorded nothing but allowed differences
  · rintro ⟨-, ⟨hi, hr⟩, hf⟩
    refine ⟨allowed, hallowed, ?_⟩
    rw [hinil hi, hrnil hr, hfnil hf]
    simp

/-- Equal values are no mismatch. -/
theorem recordMismatch_of_eq {field : Str} {baseline candidate : FieldValue} {allowed : Bool}
    (h : baseline = candidate) : recordMismatch field baseline candidate allowed = .ok [] :=
  recordMismatch_eq_ok.mpr (.inl ⟨h, rfl⟩)

/-- **Artifacts that may be compared are found compatible**, with the mismatches of what may
differ. -/
theorem checkCompatibility_of_comparable {baseline candidate : RunArtifact}
    {policy : ComparisonPolicy} (h : Comparable policy baseline candidate)
    {allowed : List (List ComparisonMismatch)}
    (hallowed : recordFields baseline candidate true policy.fieldsAllowedToDiffer = .ok allowed) :
    checkCompatibility baseline candidate policy =
      .ok { compatible := true
            mismatches := allowed.flatten
            baselineSampleRequirementMet := true
            candidateSampleRequirementMet := true } := by
  -- -- on comparable runs each of the six checks finds two equal values
  have hidentities : recordIdentities baseline candidate policy = .ok [[], [], [], [], [], []] := by
    refine bind_eq_ok.mpr ⟨true, h.pinned.baselineVerified, bind_eq_ok.mpr ⟨[], ?_, ?_⟩⟩
    · exact recordMismatch_of_eq rfl
    refine bind_eq_ok.mpr ⟨true, h.pinned.candidateVerified, bind_eq_ok.mpr ⟨[], ?_, ?_⟩⟩
    · exact recordMismatch_of_eq rfl
    refine bind_eq_ok.mpr ⟨[], ?_, bind_eq_ok.mpr ⟨[], ?_, ?_⟩⟩
    · exact recordMismatch_of_eq (str_eq_optional.mpr h.pinned.baselineHash)
    · exact recordMismatch_of_eq (str_eq_optional.mpr h.pinned.candidateHash)
    refine bind_eq_ok.mpr ⟨[], ?_, bind_eq_ok.mpr ⟨[], ?_, rfl⟩⟩
    · exact recordMismatch_of_eq (str_inj.mpr h.pinned.baselineSlo.symm)
    · exact recordMismatch_of_eq (str_inj.mpr h.pinned.candidateSlo.symm)
  -- -- so does each required field, by induction on the list of the policy
  have hrequired : ∃ required,
      recordFields baseline candidate false policy.fieldsRequiredIdentical = .ok required ∧
        required.flatten = [] := by
    have hsame := h.required
    generalize policy.fieldsRequiredIdentical = fields at hsame ⊢
    induction fields with
    | nil => exact ⟨[], rfl, rfl⟩
    | cons field fields ih =>
      obtain ⟨⟨value, hbaseline, hcandidate⟩, hrest⟩ := List.forall_mem_cons.mp hsame
      obtain ⟨required, hrequired, hnil⟩ := ih hrest
      refine ⟨[] :: required, collect_eq_ok.mpr (.cons ?_ (collect_eq_ok.mp hrequired)), hnil⟩
      refine bind_eq_ok.mpr ⟨value, hbaseline, bind_eq_ok.mpr ⟨value, hcandidate, ?_⟩⟩
      exact recordMismatch_of_eq rfl
  -- -- failures are compared only under the policy that forbids them
  have hfailures : recordFailures baseline candidate policy = .ok [] := by
    unfold recordFailures
    split
    · next hpolicy =>
      obtain ⟨hbaseline, hcandidate⟩ := h.failures hpolicy
      rw [hbaseline, hcandidate]
      exact recordMismatch_of_eq rfl
    · rfl
  obtain ⟨required, hrequired, hnil⟩ := hrequired
  refine checkCompatibility_eq_ok.mpr
    ⟨_, required, allowed, [], hidentities, hrequired, hallowed, hfailures, ?_⟩
  rw [hnil, h.baselineSamples, h.candidateSamples]
  simp [blocked_recordFields_allowed hallowed]

omit [Interpreter] in
/-- A valid policy requires the essential fields. -/
theorem ComparisonPolicy.essential_of_modelValidate {policy : ComparisonPolicy}
    (h : policy.modelValidate = .ok policy) :
    ∀ field ∈ essentialComparisonFields, lit field ∈ policy.fieldsRequiredIdentical := by
  obtain ⟨⟨⟩, -, h⟩ := bind_eq_ok.mp h
  obtain ⟨⟨⟩, hvalid, -⟩ := bind_eq_ok.mp h
  obtain ⟨-, h⟩ := reject_bind_eq_ok.mp hvalid
  obtain ⟨-, h⟩ := reject_bind_eq_ok.mp h
  obtain ⟨-, h⟩ := reject_bind_eq_ok.mp h
  have hmissing := (reject_bind_eq_ok.mp h).1
  push Not at hmissing
  exact hmissing

omit [Interpreter] in
/-- Where the summary counts what the artifact holds and no failure is counted, none is held. -/
theorem success_of_checkSummary {configuration : RunConfiguration} {requests : List RequestRecord}
    {summary : RunSummary} (h : checkSummary configuration requests summary = .ok ())
    (hfailed : summary.failedCount = 0) :
    ∀ request ∈ measuredOf requests, request.outcome = .success := by
  obtain ⟨-, h⟩ := reject_bind_eq_ok.mp h
  obtain ⟨-, h⟩ := reject_bind_eq_ok.mp h
  obtain ⟨hcounts, -⟩ := reject_bind_eq_ok.mp h
  have hthird := congrArg (·[2]?) (not_not.mp hcounts)
  have hmeasured : requests.countP (·.phase = .measured) = (measuredOf requests).length :=
    List.countP_eq_length_filter
  simp only [List.getElem?_cons_succ, List.getElem?_cons_zero, Option.some.injEq, hfailed,
    hmeasured] at hthird
  have hle := List.countP_le_length (p := fun request : RequestRecord =>
    decide (request.outcome = .success)) (l := measuredOf requests)
  have hall := List.countP_eq_length.mp (le_antisymm hle (by omega))
  exact fun request hrequest => of_decide_eq_true (hall request hrequest)

/-! ## The other way round -/

/-- A mismatch of the other order: the same verdict, and the values the other way round. -/
structure ComparisonMismatch.Mirrors (mismatch other : ComparisonMismatch) : Prop where
  field : IsIdentifier other.field
  baseline : other.baselineValue = mismatch.candidateValue
  candidate : other.candidateValue = mismatch.baselineValue

/-- The values the other way round are as different. -/
theorem recordMismatch_swap {field : Str} {baseline candidate : FieldValue} {allowed : Bool}
    {ms : List ComparisonMismatch} (h : recordMismatch field baseline candidate allowed = .ok ms) :
    ∃ ms', recordMismatch field candidate baseline allowed = .ok ms' ∧
      List.Forall₂ ComparisonMismatch.Mirrors ms ms' := by
  rcases recordMismatch_eq_ok.mp h with ⟨hsame, rfl⟩ | ⟨hne, hfield, left, right, hleft, hright, rfl⟩
  · exact ⟨[], recordMismatch_eq_ok.mpr (.inl ⟨hsame.symm, rfl⟩), .nil⟩
  · refine ⟨[⟨field, right, left, allowed⟩], ?_, .cons ⟨hfield, rfl, rfl⟩ .nil⟩
    exact recordMismatch_eq_ok.mpr
      (.inr ⟨Ne.symm hne, hfield, right, left, hright, hleft, rfl⟩)

/-- A comparison under another name returns as well. -/
theorem recordMismatch_rename {field : Str} {baseline candidate : FieldValue} {allowed : Bool}
    {ms : List ComparisonMismatch} (h : recordMismatch field baseline candidate allowed = .ok ms)
    (other : Str) (hother : IsIdentifier other) :
    ∃ ms', recordMismatch other baseline candidate allowed = .ok ms' := by
  rcases recordMismatch_eq_ok.mp h with ⟨hsame, -⟩ | ⟨hne, -, left, right, hleft, hright, -⟩
  · exact ⟨[], recordMismatch_eq_ok.mpr (.inl ⟨hsame, rfl⟩)⟩
  · exact ⟨_, recordMismatch_eq_ok.mpr (.inr ⟨hne, hother, left, right, hleft, hright, rfl⟩)⟩

theorem recordIdentities_swap {baseline candidate : RunArtifact} {policy : ComparisonPolicy}
    {identities : List (List ComparisonMismatch)}
    (h : recordIdentities baseline candidate policy = .ok identities) :
    ∃ identities', recordIdentities candidate baseline policy.swap = .ok identities' := by
  obtain ⟨baselineValid, hbaseline, h⟩ := bind_eq_ok.mp h
  obtain ⟨first, hfirst, h⟩ := bind_eq_ok.mp h
  obtain ⟨candidateValid, hcandidate, h⟩ := bind_eq_ok.mp h
  obtain ⟨second, hsecond, h⟩ := bind_eq_ok.mp h
  obtain ⟨third, hthird, h⟩ := bind_eq_ok.mp h
  obtain ⟨fourth, hfourth, h⟩ := bind_eq_ok.mp h
  obtain ⟨fifth, hfifth, h⟩ := bind_eq_ok.mp h
  obtain ⟨sixth, hsixth, -⟩ := bind_eq_ok.mp h
  -- -- the checks of the two sides change places, under each other's field names
  obtain ⟨first', hfirst'⟩ := recordMismatch_rename hsecond
    (lit "baseline_artifact_content_hash_valid") (by decide)
  obtain ⟨second', hsecond'⟩ := recordMismatch_rename hfirst
    (lit "candidate_artifact_content_hash_valid") (by decide)
  obtain ⟨third', hthird'⟩ := recordMismatch_rename hfourth
    (lit "baseline_artifact_sha256") (by decide)
  obtain ⟨fourth', hfourth'⟩ := recordMismatch_rename hthird
    (lit "candidate_artifact_sha256") (by decide)
  obtain ⟨fifth', hfifth'⟩ := recordMismatch_rename hsixth
    (lit "baseline_slo_policy_sha256") (by decide)
  obtain ⟨sixth', hsixth'⟩ := recordMismatch_rename hfifth
    (lit "candidate_slo_policy_sha256") (by decide)
  refine ⟨[first', second', third', fourth', fifth', sixth'], ?_⟩
  refine bind_eq_ok.mpr ⟨_, hcandidate, bind_eq_ok.mpr ⟨_, hfirst', ?_⟩⟩
  refine bind_eq_ok.mpr ⟨_, hbaseline, bind_eq_ok.mpr ⟨_, hsecond', ?_⟩⟩
  refine bind_eq_ok.mpr ⟨_, hthird', bind_eq_ok.mpr ⟨_, hfourth', ?_⟩⟩
  exact bind_eq_ok.mpr ⟨_, hfifth', bind_eq_ok.mpr ⟨_, hsixth', rfl⟩⟩

theorem recordFields_swap {baseline candidate : RunArtifact} {allowed : Bool} {fields : List Str}
    {mismatches : List (List ComparisonMismatch)}
    (h : recordFields baseline candidate allowed fields = .ok mismatches) :
    ∃ mismatches', recordFields candidate baseline allowed fields = .ok mismatches' ∧
      List.Forall₂ ComparisonMismatch.Mirrors mismatches.flatten mismatches'.flatten := by
  have hall := collect_eq_ok.mp h
  clear h
  induction hall with
  | nil => exact ⟨[], rfl, .nil⟩
  | @cons field ms fields mismatches hfield _ ih =>
    obtain ⟨left, hleft, h⟩ := bind_eq_ok.mp hfield
    obtain ⟨right, hright, hms⟩ := bind_eq_ok.mp h
    obtain ⟨ms', hms', hmirrors⟩ := recordMismatch_swap hms
    obtain ⟨mismatches', hmismatches', hrest⟩ := ih
    refine ⟨ms' :: mismatches', ?_, List.rel_append hmirrors hrest⟩
    refine collect_eq_ok.mpr (.cons ?_ (collect_eq_ok.mp hmismatches'))
    exact bind_eq_ok.mpr ⟨right, hright, bind_eq_ok.mpr ⟨left, hleft, hms'⟩⟩

theorem recordFailures_swap (baseline candidate : RunArtifact) (policy : ComparisonPolicy) :
    recordFailures candidate baseline policy.swap = recordFailures baseline candidate policy := by
  unfold recordFailures
  rw [add_comm]
  rfl

theorem Comparable.swap {baseline candidate : RunArtifact} {policy : ComparisonPolicy}
    (h : Comparable policy baseline candidate) : Comparable policy.swap candidate baseline where
  pinned := ⟨h.pinned.candidateVerified, h.pinned.baselineVerified, h.pinned.candidateHash,
    h.pinned.baselineHash, h.pinned.candidateSlo, h.pinned.baselineSlo⟩
  required field hfield := by
    obtain ⟨value, hbaseline, hcandidate⟩ := h.required field hfield
    exact ⟨value, hcandidate, hbaseline⟩
  baselineSamples := h.candidateSamples
  candidateSamples := h.baselineSamples
  failures hpolicy := (h.failures hpolicy).symm

/-- **The check the other way round** returns as well, with the same verdict. -/
theorem checkCompatibility_swap {baseline candidate : RunArtifact} {policy : ComparisonPolicy}
    {compatibility : ComparisonCompatibility}
    (h : checkCompatibility baseline candidate policy = .ok compatibility) :
    ∃ other, checkCompatibility candidate baseline policy.swap = .ok other ∧
      other.compatible = compatibility.compatible ∧
      (compatibility.compatible = true →
        List.Forall₂ ComparisonMismatch.Mirrors compatibility.mismatches other.mismatches) := by
  obtain ⟨identities, required, allowed, failures, hidentities, hrequired, hallowed, hfailures, -⟩ :=
    checkCompatibility_eq_ok.mp h
  obtain ⟨identities', hidentities'⟩ := recordIdentities_swap hidentities
  obtain ⟨required', hrequired', -⟩ := recordFields_swap hrequired
  obtain ⟨allowed', hallowed', hmirrors⟩ := recordFields_swap hallowed
  have hother := checkCompatibility_eq_ok.mpr ⟨identities', required', allowed', failures,
    hidentities', hrequired', hallowed',
    (recordFailures_swap baseline candidate policy).trans hfailures, rfl⟩
  refine ⟨_, hother, ?_, fun hcompatible => ?_⟩
  -- -- the verdict is a relation of the two runs, and the relation is symmetric
  · refine Bool.eq_iff_iff.mpr ?_
    rw [(comparable_of_compatible hother).1, (comparable_of_compatible h).1]
    exact ⟨fun hswap => hswap.swap, fun hcomparable => hcomparable.swap⟩
  · have hcomparable := (comparable_of_compatible h).1.mp hcompatible
    have hcompatible' := (comparable_of_compatible hother).1.mpr hcomparable.swap
    obtain ⟨ms, hms, hsame⟩ := (comparable_of_compatible h).2 hcompatible
    obtain ⟨ms', hms', hsame'⟩ := (comparable_of_compatible hother).2 hcompatible'
    -- -- both reports list the allowed differences only, field by field
    rw [hallowed] at hms
    obtain rfl := Except.ok.inj hms
    have hms' : recordFields candidate baseline true policy.fieldsAllowedToDiffer = .ok ms' := hms'
    rw [hallowed'] at hms'
    obtain rfl := Except.ok.inj hms'
    rw [hsame, hsame']
    exact hmirrors

/-! ## The reports -/

/-- A delta of the other order. -/
structure MetricDelta.Opposite (delta other : MetricDelta) : Prop where
  metric : other.metric = delta.metric
  absolute : other.absoluteDelta = -delta.absoluteDelta

omit [Interpreter] in
theorem delta_swap (metric : String) (left right : ℚ) :
    (delta metric left right).Opposite (delta metric right left) :=
  ⟨rfl, (neg_sub right left).symm⟩

omit [Interpreter] in
/-- **The deltas the other way round** are of the same metrics, and opposite. -/
theorem metricDeltas_swap (baseline candidate : RunArtifact) :
    List.Forall₂ MetricDelta.Opposite (metricDeltas baseline candidate)
      (metricDeltas candidate baseline) := by
  refine List.rel_append ?_ ?_
  · rw [List.forall₂_map_left_iff, List.forall₂_map_right_iff]
    exact List.forall₂_same.mpr fun metric _ => delta_swap _ _ _
  · -- a percentile is compared when both have it, in either order
    induction percentileMetrics with
    | nil => exact .nil
    | cons metric metrics ih =>
      unfold percentileDelta at ih ⊢
      cases hleft : metric.2 baseline.summary with
      | none =>
        rw [List.filterMap_cons_none (by simp [hleft]), List.filterMap_cons_none (by simp [hleft])]
        exact ih
      | some left =>
        cases hright : metric.2 candidate.summary with
        | none =>
          rw [List.filterMap_cons_none (by simp [hleft, hright]),
            List.filterMap_cons_none (by simp [hleft, hright])]
          exact ih
        | some right =>
          rw [List.filterMap_cons_some (b := delta metric.1 left right) (by simp [hleft, hright]),
            List.filterMap_cons_some (b := delta metric.1 right left) (by simp [hleft, hright])]
          exact .cons (delta_swap _ _ _) ih

/-- A value that canonical JSON can write. -/
def Writable (value : FieldValue) : Prop :=
  JsonEncodable value.json ∧ intsShort value.json = true

instance (value : FieldValue) : Decidable (Writable value) := inferInstanceAs (Decidable (_ ∧ _))

omit [Interpreter] in
theorem writable_modelOf {fields : List (String × FieldValue)} :
    Writable (modelOf fields) ↔ ∀ field ∈ fields, Writable field.2 := by
  induction fields with
  | nil => simp [Writable, modelOf, json, jsonModel, JsonEncodable, FieldsEncodable, intsShort,
      fieldsShort]
  | cons field fields ih =>
    have hmodel : Writable (modelOf (field :: fields)) ↔
        Writable field.2 ∧ Writable (modelOf fields) := by
      simp only [Writable, modelOf, List.map_cons, json, jsonModel, JsonEncodable, FieldsEncodable,
        intsShort, fieldsShort, Bool.and_eq_true, encodable_lit, true_and]
      tauto
    rw [hmodel, ih, List.forall_mem_cons]

omit [Interpreter] in
theorem writable_tupleOf {α : Type} {value : α → FieldValue} {items : List α} :
    Writable (tupleOf value items) ↔ ∀ item ∈ items, Writable (value item) := by
  induction items with
  | nil => simp [Writable, tupleOf, json, jsonItems, JsonEncodable, ItemsEncodable, intsShort,
      itemsShort]
  | cons item items ih =>
    have htuple : Writable (tupleOf value (item :: items)) ↔
        Writable (value item) ∧ Writable (tupleOf value items) := by
      simp only [Writable, tupleOf, List.map_cons, json, jsonItems, JsonEncodable, ItemsEncodable,
        intsShort, itemsShort, Bool.and_eq_true]
      tauto
    rw [htuple, ih, List.forall_mem_cons]

omit [Interpreter] in
theorem writable_str {text : Str} : Writable (str text) ↔ IsEncodable text := by
  simp [Writable, FieldValue.str, json, scalarJson, JsonEncodable, intsShort]

omit [Interpreter] in
theorem writable_literal (text : String) : Writable (literal text) :=
  writable_str.mpr (encodable_lit text)

omit [Interpreter] in
theorem writable_enum (text : String) : Writable (enum text) := ⟨encodable_lit text, rfl⟩

omit [Interpreter] in
theorem writable_bool (b : Bool) : Writable (bool b) := ⟨trivial, rfl⟩

omit [Interpreter] in
theorem writable_float (q : ℚ) : Writable (float q) := ⟨rfl, rfl⟩

omit [Interpreter] in
theorem writable_int {n : ℤ} : Writable (int n) ↔ n.natAbs < maxInt := by
  simp [Writable, FieldValue.int, json, scalarJson, JsonEncodable, intsShort]

omit [Interpreter] in
theorem writable_nat {n : ℕ} : Writable (nat n) ↔ n < maxInt := writable_int

omit [Interpreter] in
theorem writable_none : Writable (.scalar .none) := ⟨trivial, rfl⟩

omit [Interpreter] in
theorem writable_optional_float (q : Option ℚ) : Writable (FieldValue.optional float q) := by
  cases q with
  | none => exact writable_none
  | some q => exact writable_float q

omit [Interpreter] in
/-- A mismatch with the values the other way round can be written as well. -/
theorem ComparisonMismatch.Mirrors.writable {mismatch other : ComparisonMismatch}
    (h : mismatch.Mirrors other) (hmismatch : Writable mismatch.value) : Writable other.value := by
  rw [ComparisonMismatch.value, writable_modelOf] at hmismatch ⊢
  simp only [List.forall_mem_cons, List.not_mem_nil, false_implies, implies_true, writable_str,
    writable_bool, and_true] at hmismatch ⊢
  exact ⟨h.field.2.2, h.baseline ▸ hmismatch.2.2, h.candidate ▸ hmismatch.2.1⟩

omit [Interpreter] in
/-- Mismatches with the values the other way round can be written as well. -/
theorem writable_of_mirrors {mismatches others : List ComparisonMismatch}
    (h : List.Forall₂ ComparisonMismatch.Mirrors mismatches others)
    (hmismatches : Writable (tupleOf ComparisonMismatch.value mismatches)) :
    Writable (tupleOf ComparisonMismatch.value others) := by
  rw [writable_tupleOf] at hmismatches ⊢
  induction h with
  | nil => simp
  | cons hmirrors _ ih =>
    rw [List.forall_mem_cons] at hmismatches ⊢
    exact ⟨hmirrors.writable hmismatches.1, ih hmismatches.2⟩

omit [Interpreter] in
/-- Deltas can be written: their metrics are those of the source, and their numbers are floats. -/
theorem writable_metricDeltas (baseline candidate : RunArtifact) :
    Writable (tupleOf MetricDelta.value (metricDeltas baseline candidate)) := by
  have hdelta : ∀ metric left right, Writable (delta metric left right).value := by
    intro metric left right
    rw [MetricDelta.value, writable_modelOf]
    simp only [List.forall_mem_cons, List.not_mem_nil, false_implies, implies_true, writable_str,
      writable_float, writable_optional_float, and_true]
    exact encodable_lit metric
  rw [writable_tupleOf]
  intro item hitem
  rcases List.mem_append.mp hitem with hscalar | hpercentile
  · obtain ⟨metric, -, rfl⟩ := List.mem_map.mp hscalar
    exact hdelta _ _ _
  · obtain ⟨metric, -, hsome⟩ := List.mem_filterMap.mp hpercentile
    unfold percentileDelta at hsome
    split at hsome
    · exact Option.some.inj hsome ▸ hdelta _ _ _
    · cases hsome

omit [Interpreter] in
theorem json_modelOf (fields : List (String × FieldValue)) :
    (modelOf fields).json = .obj (fields.map fun field => (lit field.1, field.2.json)) := by
  rw [modelOf, json]
  congr 1
  induction fields with
  | nil => rfl
  | cons field fields ih => rw [List.map_cons, jsonModel, ih, List.map_cons]

/-- A model without one of its fields, which can be written, has an identity when the model can be
written. -/
theorem exists_sha256Identity_omit {fields : List (String × FieldValue)} {name : String}
    (hname : ∀ field ∈ fields, lit field.1 = lit name → Writable field.2) :
    (∃ digest, sha256Identity (modelOf fields).json [name] = .ok digest) ↔
      Writable (modelOf fields) := by
  constructor
  · rintro ⟨digest, h⟩
    rw [json_modelOf] at h
    have hkept := exists_sha256Identity_iff.mp ⟨digest, (sha256Identity_omit rfl).symm.trans h⟩
    refine writable_modelOf.mpr fun field hfield => ?_
    by_cases hsame : lit field.1 = lit name
    · exact hname field hfield hsame
    · have hkeep : lit field.1 ∉ [name].map lit := by simpa using hsame
      have hmem : (lit field.1, field.2.json) ∈
          (fields.map fun field => (lit field.1, field.2.json)).filter
            (fun f => f.1 ∉ [name].map lit) :=
        List.mem_filter.mpr ⟨List.mem_map.mpr ⟨field, hfield, rfl⟩, decide_eq_true hkeep⟩
      exact ⟨(fieldsEncodable_iff.mp hkept.1 _ hmem).2, fieldsShort_iff.mp hkept.2 _ hmem⟩
  · intro h
    rw [Writable, json_modelOf] at h
    rw [json_modelOf]
    exact exists_sha256Identity h.1 h.2 _

/-- A report without a hash gets one when it can be written. -/
theorem exists_withReportContentHash {report : ComparisonReport}
    (hnone : report.reportContentSha256 = none) :
    (∃ digest, sha256Identity report.value.json ["report_content_sha256"] = .ok digest) ↔
      Writable report.value := by
  refine exists_sha256Identity_omit fun field hfield hname => ?_
  rw [hnone] at hfield
  simp only [List.mem_cons, List.not_mem_nil, or_false] at hfield
  rcases hfield with rfl | rfl | rfl | rfl | rfl | rfl | rfl | rfl | rfl | rfl
  case inr.inr.inr.inr.inl => exact ⟨trivial, rfl⟩
  all_goals
    dsimp only at hname
    exact absurd hname (by decide)

theorem contentIdentity_with (artifact : RunArtifact) (digest : Option Str) :
    RunArtifact.contentIdentity { artifact with artifactContentSha256 := digest } =
      artifact.contentIdentity := by
  unfold RunArtifact.contentIdentity RunArtifact.value
  rw [json_modelOf, json_modelOf]
  exact sha256Identity_omit_congr [_, _, _, _] _ _ _ _

/-- What was hashed is verified. -/
theorem verified_of_withArtifactContentHash {artifact hashed : RunArtifact}
    (h : withArtifactContentHash artifact = .ok hashed) :
    verifyArtifactContentHash hashed = .ok true := by
  obtain ⟨digest, hdigest, h⟩ := bind_eq_ok.mp h
  obtain rfl := Except.ok.inj h
  refine bind_eq_ok.mpr ⟨digest, (contentIdentity_with artifact _).trans hdigest, ?_⟩
  simp [pure, Except.pure]

omit [Interpreter] in
/-- The hash is fetched by its own name alone. -/
theorem fieldValue_with (artifact : RunArtifact) (digest : Option Str) {field : Str}
    (h : (field.splitOn 46).head? ≠ some (lit "artifact_content_sha256")) :
    fieldValue { artifact with artifactContentSha256 := digest } field =
      fieldValue artifact field := by
  unfold fieldValue
  cases hparts : field.splitOn 46 with
  | nil => simp [List.splitOn_ne_nil] at hparts
  | cons part parts =>
    rw [hparts] at h
    have hpart : (part == lit "artifact_content_sha256") = false := by simpa using h
    simp only [List.foldlM_cons, fieldStep, RunArtifact.value, modelOf, List.map_cons,
      List.lookup_cons, hpart]

/-- An artifact that can be written can be hashed. -/
theorem exists_contentIdentity {artifact : RunArtifact} (h : Writable artifact.value) :
    ∃ digest, artifact.contentIdentity = .ok digest :=
  (exists_sha256Identity_omit fun field hfield _ => writable_modelOf.mp h field hfield).mpr h

/-- A pair that is found compatible has a report when what it holds can be written. -/
theorem exists_createComparisonReport {baseline candidate : RunArtifact} {policy : ComparisonPolicy}
    {createdAt : Datetime} {compatibility : ComparisonCompatibility}
    (hcheck : checkCompatibility baseline candidate policy = .ok compatibility)
    (hcompatible : compatibility.compatible = true) (hpolicy : Writable policy.value)
    (hcreated : createdAt.utcOffset = some 0) (hutc : IsEncodable createdAt.utc)
    (hvalue : Writable compatibility.value) :
    ∃ report, createComparisonReport baseline candidate policy createdAt = .ok report ∧
      report.compatibility = compatibility ∧ report.deltas = metricDeltas baseline candidate := by
  -- -- the digest of the policy exists, so the policy can be written
  obtain ⟨policySha256, hdigest⟩ := exists_sha256Identity_iff.mpr hpolicy
  let report : ComparisonReport :=
    { createdAt
      reportContentSha256 := none
      policySha256
      baselineArtifactSha256 := policy.baselineArtifactSha256
      candidateArtifactSha256 := policy.candidateArtifactSha256
      compatibility
      deltas := metricDeltas baseline candidate }
  -- -- the report repeats the digests of the policy, which is written already
  have hpinned := hpolicy
  rw [ComparisonPolicy.value, writable_modelOf] at hpinned
  simp only [List.forall_mem_cons] at hpinned
  have hwritable : Writable report.value := by
    rw [ComparisonReport.value, writable_modelOf]
    simp only [List.forall_mem_cons, List.not_mem_nil, false_implies, implies_true, and_true]
    refine ⟨writable_literal _, writable_literal _, writable_enum _, ⟨hutc, rfl⟩, writable_none,
      writable_str.mpr (encodable_sha256Identity hdigest), hpinned.2.2.1, hpinned.2.2.2.1, hvalue,
      writable_metricDeltas baseline candidate⟩
  obtain ⟨reportSha256, hreport⟩ := (exists_withReportContentHash rfl).mpr hwritable
  refine ⟨{ report with reportContentSha256 := some reportSha256 }, ?_, rfl, rfl⟩
  refine bind_eq_ok.mpr ⟨compatibility, hcheck, bind_eq_ok.mpr ⟨policySha256, hdigest, ?_⟩⟩
  refine bind_eq_ok.mpr ⟨report, reject_bind_eq_ok.mpr ⟨by simp [hcreated], ?_⟩, ?_⟩
  · refine reject_bind_eq_ok.mpr ⟨by simp [hcompatible], ?_⟩
    rw [if_pos hcompatible]
    rfl
  · exact bind_eq_ok.mpr ⟨reportSha256, hreport, rfl⟩

/-- **What the report the other way round holds.** -/
theorem createComparisonReport_swap {baseline candidate : RunArtifact} {policy : ComparisonPolicy}
    {createdAt : Datetime} {report : ComparisonReport}
    (h : createComparisonReport baseline candidate policy createdAt = .ok report)
    (hcompatible : report.compatibility.compatible = true) :
    ∃ other, createComparisonReport candidate baseline policy.swap createdAt = .ok other ∧
      List.Forall₂ MetricDelta.Opposite report.deltas other.deltas := by
  obtain ⟨compatibility, hcheck, h⟩ := bind_eq_ok.mp h
  obtain ⟨policySha256, hpolicy, h⟩ := bind_eq_ok.mp h
  obtain ⟨created, hcreated, h⟩ := bind_eq_ok.mp h
  obtain ⟨hutc, hcreated⟩ := reject_bind_eq_ok.mp hcreated
  obtain ⟨-, hcreated⟩ := reject_bind_eq_ok.mp hcreated
  obtain rfl := Except.ok.inj hcreated
  obtain ⟨digest, hdigest, h⟩ := bind_eq_ok.mp h
  obtain rfl := Except.ok.inj h
  obtain ⟨compatibility', hcheck', hsame, hmirrors⟩ := checkCompatibility_swap hcheck
  have hcompatible' : compatibility'.compatible = true := hsame.trans hcompatible
  -- the policy can be written with its hashes the other way round
  have hpolicy' : Writable policy.swap.value := by
    have hwritable : Writable policy.value := exists_sha256Identity_iff.mp ⟨_, hpolicy⟩
    rw [ComparisonPolicy.value, writable_modelOf] at hwritable ⊢
    simp only [List.forall_mem_cons, List.not_mem_nil, false_implies, implies_true, and_true]
      at hwritable ⊢
    obtain ⟨h₁, h₂, h₃, h₄, h⟩ := hwritable
    exact ⟨h₁, h₂, h₄, h₃, h⟩
  -- and so can what was found, with the values of its mismatches the other way round
  have hwritable := (exists_withReportContentHash rfl).mp ⟨_, hdigest⟩
  rw [ComparisonReport.value, writable_modelOf] at hwritable
  simp only [List.forall_mem_cons] at hwritable
  obtain ⟨-, -, -, hcreated, -, -, -, -, hvalue, -⟩ := hwritable
  have hvalue' : Writable compatibility'.value := by
    rw [ComparisonCompatibility.value, writable_modelOf] at hvalue ⊢
    simp only [List.forall_mem_cons, List.not_mem_nil, false_implies, implies_true, and_true,
      writable_bool, true_and] at hvalue ⊢
    exact writable_of_mirrors (hmirrors hcompatible) hvalue
  obtain ⟨other, hother, -, hdeltas⟩ := exists_createComparisonReport hcheck' hcompatible' hpolicy'
    (not_not.mp hutc) hcreated.1 hvalue'
  refine ⟨other, hother, ?_⟩
  rw [hdeltas]
  change List.Forall₂ _ (if compatibility.compatible = true then _ else _) _
  rw [if_pos hcompatible]
  exact metricDeltas_swap baseline candidate

/-- **Deltas are sound, and opposite the other way round.** A report has deltas only for artifacts
that the policy's hashes and SLO pin, that agree on every essential field, that have enough samples
and, where failures invalidate, no failed request of those they measured. The check of the artifacts
the other way round has the same verdict, and the report the same metrics with opposite deltas. -/
theorem comparison_sound_symmetric (policy : ComparisonPolicy) (baseline candidate : RunArtifact)
    (createdAt : Datetime) :
    (policy.modelValidate = .ok policy → ∀ report,
      createComparisonReport baseline candidate policy createdAt = .ok report →
      report.deltas ≠ [] →
        Comparable policy baseline candidate ∧
        (∀ field ∈ essentialComparisonFields, SameField baseline candidate (lit field)) ∧
        (policy.failurePolicy = .invalidate → ∀ artifact ∈ [baseline, candidate],
          checkSummary artifact.configuration.toRunConfiguration artifact.requests
              artifact.summary = .ok () →
            ∀ request ∈ measuredOf artifact.requests, request.outcome = .success)) ∧
    (∀ verdict,
      (∃ compatibility, checkCompatibility baseline candidate policy = .ok compatibility ∧
        compatibility.compatible = verdict) ↔
      ∃ compatibility, checkCompatibility candidate baseline policy.swap = .ok compatibility ∧
        compatibility.compatible = verdict) ∧
    ∀ report, createComparisonReport baseline candidate policy createdAt = .ok report →
      report.compatibility.compatible = true →
        ∃ other, createComparisonReport candidate baseline policy.swap createdAt = .ok other ∧
          List.Forall₂ MetricDelta.Opposite report.deltas other.deltas := by
  refine ⟨fun hvalid report hreport hdeltas => ?_, fun verdict => ⟨?_, ?_⟩,
    fun report hreport hcompatible => createComparisonReport_swap hreport hcompatible⟩
  · obtain ⟨compatibility, hcheck, h⟩ := bind_eq_ok.mp hreport
    obtain ⟨policySha256, -, h⟩ := bind_eq_ok.mp h
    obtain ⟨created, hcreated, h⟩ := bind_eq_ok.mp h
    obtain ⟨-, hcreated⟩ := reject_bind_eq_ok.mp hcreated
    obtain ⟨-, hcreated⟩ := reject_bind_eq_ok.mp hcreated
    obtain rfl := Except.ok.inj hcreated
    obtain ⟨digest, -, h⟩ := bind_eq_ok.mp h
    obtain rfl := Except.ok.inj h
    -- -- deltas are reported for compatible runs only
    have hcompatible : compatibility.compatible = true := by
      by_contra hnot
      exact hdeltas (if_neg hnot)
    have hcomparable := (comparable_of_compatible hcheck).1.mp hcompatible
    refine ⟨hcomparable, fun field hfield => ?_, fun hpolicy artifact hartifact hsummary => ?_⟩
    · exact hcomparable.required _
        (ComparisonPolicy.essential_of_modelValidate hvalid field hfield)
    · obtain ⟨hbaseline, hcandidate⟩ := hcomparable.failures hpolicy
      refine success_of_checkSummary hsummary ?_
      rcases List.mem_pair.mp hartifact with rfl | rfl
      · exact hbaseline
      · exact hcandidate
  · rintro ⟨compatibility, hcheck, rfl⟩
    obtain ⟨other, hother, hsame, -⟩ := checkCompatibility_swap hcheck
    exact ⟨other, hother, hsame⟩
  · rintro ⟨compatibility, hcheck, rfl⟩
    obtain ⟨other, hother, hsame, -⟩ := checkCompatibility_swap hcheck
    exact ⟨other, hother, hsame⟩

end

section

/-- `float.__repr__` of a multiple of a half below `10 ** 16`. -/
def reprHalf (q : ℚ) : Str :=
  (if q < 0 then lit "-" else []) ++ decimal (q.num.natAbs / q.den) ++
    (if q.den = 2 then lit ".5" else lit ".0")

theorem reprHalf_ascii {q : ℚ} {c : ℕ} (h : c ∈ reprHalf q) : c < 128 := by
  simp only [reprHalf, List.mem_append] at h
  rcases h with (h | h) | h
  · split at h
    · revert c
      decide
    · simp at h
  · have := decimal_ascii h
    omega
  · split at h <;> revert c <;> decide

/-- CPython, for floats that are multiples of a half. -/
@[reducible] def halves : Interpreter :=
  { cpython with
    reprFloat := reprHalf
    reprFloat_ascii := fun _ _ => reprHalf_ascii }

attribute [local instance] exactArithmetic halves

/-- A text of 64 hexadecimal digits. -/
def sampleDigest : Str := List.replicate 64 48

/-- A request of two tokens that ends at a given time. -/
def sampleEnding (terminal : ℕ) : RequestRecord :=
  { sampleRequest with
    timing := ⟨0, some 1, some 2, some 4, terminal⟩
    streamEvents := [⟨0, 4, 2, some [2, 4]⟩]
    outputTokens := ⟨some 2, .fixtureExact, .exact, none, none, none⟩ }

/-- The distribution of one value. -/
def sampleDistribution (metric : MetricName) (value : ℚ) : MetricDistribution where
  metric
  denominator := lit "measured_successful"
  sampleCount := 1
  p50 := some value
  p95 := some value
  p99 := some value
  unavailableReason := none

/-- The summary of the request in a window of 16 nanoseconds. -/
def sampleSummary (terminal : ℕ) : RunSummary where
  measurementWindowNs := 16
  attemptedCount := 1
  terminalCount := 1
  successfulCount := 1
  failedCount := 0
  timeoutCount := 0
  cancelledCount := 0
  protocolErrorCount := 0
  warmupRecordCount := 0
  warmupExcludedCount := 0
  requestedClientConcurrency := 2
  observedMaximumActiveClientRequests := 1
  configuredServerMaximumBatchSize := none
  configuredServerBatchSource := none
  observedServerBatchSize := none
  observedServerBatchSource := none
  offeredRequestRate := 62500000
  terminalRequestRate := 62500000
  successfulRequestThroughput := 62500000
  outputTokenThroughput := some 125000000
  totalTokenThroughput := some 187500000
  goodput := 62500000
  failureRate := 0
  timeoutRate := 0
  goodputSloPolicySha256 := sampleDigest
  ttft := sampleDistribution .ttftNs 2
  endToEndSuccess := sampleDistribution .endToEndSuccessNs terminal
  tpot := sampleDistribution .tpotNs 2
  itl := sampleDistribution .itlNs 2

/-- A run of the request on a system of a given name, without its hash. -/
def sampleRun (osName : String) (terminal : ℕ) : RunArtifact where
  createdAt := lit "2026-01-01T00:00:00Z"
  artifactContentSha256 := none
  workloadIdentity := ⟨sampleDigest, [lit "c"], .declared⟩
  configurationIdentity := ⟨sampleDigest⟩
  configuration :=
    { sampleConfiguration 5 with
      workloadPath := lit "w"
      workloadIdentity := ⟨sampleDigest, [lit "c"], .declared⟩
      modelIdentity := ⟨lit "m", lit "1", sampleDigest, .syntheticFixture⟩
      tokenizerIdentity := ⟨lit "t", lit "1", .syntheticFixture⟩
      promptTransformation := lit "NONE"
      timeoutPolicy := ⟨1, 1, 1⟩
      sampling := ⟨0, 0, 1, 2, []⟩
      warmupRequestCount := 0
      measuredRequestCount := 1 }
  runtimeIdentity := ⟨lit "r", lit "1", lit "1", sampleDigest, .syntheticFixture⟩
  modelIdentity := ⟨lit "m", lit "1", sampleDigest, .syntheticFixture⟩
  tokenizerIdentity := ⟨lit "t", lit "1", .syntheticFixture⟩
  hardwareIdentity := ⟨lit "p", lit "a", lit "c", 1, none, .syntheticFixture⟩
  environmentIdentity := ⟨lit osName, lit "a", lit "3.12", sampleDigest, .syntheticFixture⟩
  requests := [sampleEnding terminal]
  summary := sampleSummary terminal
  distributionSources := ⟨.harnessDerived, .harnessDerived, .harnessDerived, .harnessDerived⟩

theorem writable_sampleRun (osName : String) {terminal : ℕ} (h : terminal < maxInt) :
    Writable (sampleRun osName terminal).value := by
  have hshort : 10 ^ 2 ≤ maxInt := pow_le_maxInt (by decide)
  have hdigest : IsEncodable sampleDigest := by decide
  have hscalar : ∀ text : String, Writable (str (lit text)) := writable_literal
  simp only [RunArtifact.value, sampleRun, WorkloadIdentity.value, ConfigurationIdentity.value,
    ArtifactConfiguration.value, RuntimeIdentity.value, ModelIdentity.value,
    TokenizerIdentity.value, HardwareIdentity.value, EnvironmentIdentity.value,
    RequestRecord.value, RunSummary.value, LoadShape.value, TimeoutPolicy.value,
    SamplingConfiguration.value, SLODefinition.value, TokenCount.fieldValue, TimingRecord.value,
    StreamEventRecord.value, MetricDistribution.value, sampleConfiguration, sampleEnding,
    sampleRequest, sampleSummary, sampleDistribution, WorkloadOrdering.value, MetricSource.value,
    IdentitySource.value, RequestPhase.value, RequestOutcome.value, TokenCountSource.value,
    TokenCountQuality.value, MetricName.value, FieldValue.optional, writable_modelOf,
    writable_tupleOf, List.forall_mem_cons, List.not_mem_nil, false_implies, implies_true,
    writable_literal, writable_enum, writable_nat, writable_int, writable_float, writable_none,
    writable_str.mpr hdigest, hscalar, h, true_and, and_true]
  exact ⟨⟨encodable_lit _, rfl⟩, by omega⟩

/-- The policy that pins the hashes of two runs and lets their systems differ. -/
def samplePolicy (baseline candidate slo : Str) : ComparisonPolicy where
  baselineArtifactSha256 := baseline
  candidateArtifactSha256 := candidate
  comparisonKind := .sameRuntimeAndHardware
  fieldsRequiredIdentical :=
    essentialComparisonFields.map lit ++ [lit "runtime_identity", lit "hardware_identity"]
  fieldsAllowedToDiffer := [lit "environment_identity.os_name"]
  sloPolicySha256 := slo
  minimumSuccessfulRequests := 1
  minimumMetricSamples := 1
  failurePolicy := .invalidate

/-- When they are compared. -/
def sampleTime : Datetime := ⟨some 0, lit "2026-01-02T00:00:00Z"⟩

/-- The policy is valid, whatever digests it pins. -/
theorem samplePolicy_valid {baseline candidate slo : Str} (hbaseline : IsSha256 baseline)
    (hcandidate : IsSha256 candidate) (hslo : IsSha256 slo) :
    (samplePolicy baseline candidate slo).modelValidate =
      .ok (samplePolicy baseline candidate slo) := by
  have htypes : (samplePolicy baseline candidate slo).checkTypes = .ok () := by
    refine reject_bind_eq_ok.mpr ⟨?_, reject_bind_eq_ok.mpr ⟨?_, rfl⟩⟩
    · simp [samplePolicy, hbaseline, hcandidate, hslo]
    · show ¬ ∃ field ∈ (samplePolicy [] [] []).fieldsRequiredIdentical ++
        (samplePolicy [] [] []).fieldsAllowedToDiffer, ¬ IsIdentifier field
      decide +kernel
  exact bind_eq_ok.mpr ⟨(), htypes, bind_eq_ok.mpr ⟨(),
    (by decide +kernel : (samplePolicy [] [] []).validatePolicy = .ok ()), rfl⟩⟩

/-- The fields that must be the same are the same in both runs. -/
theorem sampleRun_same : ∀ field ∈ (samplePolicy [] [] []).fieldsRequiredIdentical,
    (fieldValue (sampleRun "Linux" 8) field).toOption ≠ none ∧
      (fieldValue (sampleRun "Linux" 8) field).toOption =
        (fieldValue (sampleRun "Darwin" 16) field).toOption := by
  decide +kernel

/-- The two runs have a report, and so do they the other way round. -/
theorem comparison_sound_symmetric_sampleRuns :
    ∃ policy baseline candidate report other,
      ComparisonPolicy.modelValidate policy = .ok policy ∧
      createComparisonReport baseline candidate policy sampleTime = .ok report ∧
      (∃ delta ∈ report.deltas, delta.absoluteDelta = 8) ∧
      Comparable policy baseline candidate ∧
      (∀ field ∈ essentialComparisonFields, SameField baseline candidate (lit field)) ∧
      (∀ artifact ∈ [baseline, candidate],
        ∀ request ∈ measuredOf artifact.requests, request.outcome = .success) ∧
      createComparisonReport candidate baseline policy.swap sampleTime = .ok other ∧
      List.Forall₂ MetricDelta.Opposite report.deltas other.deltas := by
  have hshort : 10 ^ 2 ≤ maxInt := pow_le_maxInt (by decide)
  obtain ⟨digest, hdigest⟩ :=
    exists_contentIdentity (writable_sampleRun "Linux" (show 8 < maxInt by omega))
  obtain ⟨digest', hdigest'⟩ :=
    exists_contentIdentity (writable_sampleRun "Darwin" (show 16 < maxInt by omega))
  have hsha256 := isSha256_of_sha256Identity hdigest
  have hsha256' := isSha256_of_sha256Identity hdigest'
  have hslo : IsSha256 sampleDigest := by decide
  let policy := samplePolicy digest digest' sampleDigest
  let baseline : RunArtifact :=
    { sampleRun "Linux" 8 with artifactContentSha256 := some digest }
  let candidate : RunArtifact :=
    { sampleRun "Darwin" 16 with artifactContentSha256 := some digest' }
  have hvalid : policy.modelValidate = .ok policy := samplePolicy_valid hsha256 hsha256' hslo
  -- no path starts at the hash, so each is fetched as from the run without it
  have hnames : ∀ field ∈ (samplePolicy [] [] []).fieldsRequiredIdentical ++
      (samplePolicy [] [] []).fieldsAllowedToDiffer,
      (field.splitOn 46).head? ≠ some (lit "artifact_content_sha256") := by decide +kernel
  have hcomparable : Comparable policy baseline candidate := by
    refine ⟨⟨?_, ?_, rfl, rfl, rfl, rfl⟩, fun field hfield => ?_, rfl, rfl, fun _ => ⟨rfl, rfl⟩⟩
    · exact verified_of_withArtifactContentHash (bind_eq_ok.mpr ⟨digest, hdigest, rfl⟩)
    · exact verified_of_withArtifactContentHash (bind_eq_ok.mpr ⟨digest', hdigest', rfl⟩)
    · have hname := hnames field (List.mem_append_left _ hfield)
      obtain ⟨hread, hsame⟩ := sampleRun_same field hfield
      obtain ⟨value, hvalue⟩ := Option.ne_none_iff_exists'.mp hread
      refine ⟨value, ?_, ?_⟩
      · exact (fieldValue_with _ _ hname).trans (ok_of_toOption hvalue)
      · exact (fieldValue_with _ _ hname).trans (ok_of_toOption (hsame.symm.trans hvalue))
  have hos := hnames (lit "environment_identity.os_name")
    (List.mem_append_right _ (List.mem_singleton_self _))
  have hallowed : recordFields baseline candidate true [lit "environment_identity.os_name"] =
      .ok [[⟨lit "environment_identity.os_name", lit "Linux", lit "Darwin", true⟩]] := by
    have hplain : (recordFields (sampleRun "Linux" 8) (sampleRun "Darwin" 16) true
        [lit "environment_identity.os_name"]).toOption =
        some [[⟨lit "environment_identity.os_name", lit "Linux", lit "Darwin", true⟩]] := by
      decide +kernel
    refine Eq.trans ?_ (ok_of_toOption hplain)
    simp only [recordFields, collect, baseline, candidate, fieldValue_with _ _ hos]
  have hpolicy : Writable policy.value := by
    simp only [ComparisonPolicy.value, policy, samplePolicy, writable_modelOf, List.forall_mem_cons,
      List.not_mem_nil, false_implies, implies_true, writable_literal, writable_enum, writable_nat,
      writable_str.mpr (encodable_of_isSha256 hsha256),
      writable_str.mpr (encodable_of_isSha256 hsha256'),
      writable_str.mpr (encodable_of_isSha256 hslo), writable_tupleOf, true_and, and_true]
    refine ⟨fun field hfield => ?_, writable_literal _, by omega, by omega⟩
    rcases List.mem_append.mp hfield with hessential | hother
    · obtain ⟨name, -, rfl⟩ := List.mem_map.mp hessential
      exact writable_literal name
    · rcases List.mem_pair.mp hother with rfl | rfl <;> exact writable_literal _
  have hcheck := checkCompatibility_of_comparable hcomparable hallowed
  obtain ⟨report, hreport, hsame, hdeltas⟩ :
      ∃ report, createComparisonReport baseline candidate policy sampleTime = .ok report ∧
        report.compatibility = _ ∧ report.deltas = metricDeltas baseline candidate :=
    exists_createComparisonReport hcheck rfl hpolicy rfl (encodable_lit "2026-01-02T00:00:00Z")
      (by decide +kernel)
  have hdelta : ∃ delta ∈ report.deltas, delta.absoluteDelta = 8 := by
    rw [hdeltas]
    show ∃ delta ∈ metricDeltas (sampleRun "Linux" 8) (sampleRun "Darwin" 16), _
    decide +kernel
  obtain ⟨hsound, -, hsymmetric⟩ := comparison_sound_symmetric policy baseline candidate sampleTime
  obtain ⟨item, hitem, -⟩ := id hdelta
  obtain ⟨hcomparable, hfields, hsuccess⟩ := hsound hvalid report hreport (List.ne_nil_of_mem hitem)
  obtain ⟨other, hother, hopposite⟩ := hsymmetric report hreport (by rw [hsame])
  refine ⟨policy, baseline, candidate, report, other, hvalid, hreport, hdelta, hcomparable, hfields,
    fun artifact hartifact => hsuccess rfl artifact hartifact ?_, hother, hopposite⟩
  rcases List.mem_pair.mp hartifact with rfl | rfl
  · show checkSummary (sampleConfiguration 5) [sampleEnding 8] (sampleSummary 8) = .ok ()
    decide +kernel
  · show checkSummary (sampleConfiguration 5) [sampleEnding 16] (sampleSummary 16) = .ok ()
    decide +kernel

end

end Stage0
