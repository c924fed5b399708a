import LlmInferenceSystems.Stage0.Comparison
import LlmInferenceSystems.Stage1.ExecutionBundle

/-!
# Comparison of two runs of the fixture stage

Two retained runs are compared by what they did and never by how long it took. The verdict rests on
the identities of their inputs, on what must be compatible and on their fingerprints; the checks of
the counts and of the terminal classes are there for the reader.

## Main definitions

* `semanticChecks`, `compareValidatedBundles`: the checks and the report
* `validateComparisonReport`: a report is compared with the one rebuilt from its bundles

## Main results

* `passed_of_fingerprint`: equal fingerprints decide every other check of the records
* `compareValidatedBundles_verdict`: what the verdict rests on, and that it is symmetric
* `validateComparisonReport_iff`: the reports that are accepted are those that are made
-/

namespace Stage1

open Python Stage2
open Stage0 (Datetime reject reject_bind_eq_ok)

deriving instance DecidableEq for Stage0.Datetime

/-! ## Checks -/

/-- `SemanticCheck`: one check of a comparison and its result. -/
structure SemanticCheck where
  check : Str
  passed : Bool
deriving DecidableEq

/-- A policy; all its fields but its name are constant. -/
structure Stage1ComparisonPolicy where
  policyName : Str

/-- Whether both runs had the same workload, configuration and fixture. -/
def inputIdentitiesMatch (left right : Stage1ExecutionManifest) : Bool :=
  left.workloadSha256 = right.workloadSha256 ∧
    left.configurationSha256 = right.configurationSha256 ∧
    left.fixtureSha256 = right.fixtureSha256

/-- The fields that are constant always match. -/
def compatibilityMatch (left right : Stage1ExecutionManifest) : Bool :=
  left.environmentIdentity = right.environmentIdentity ∧
    left.timeoutPolicy = right.timeoutPolicy ∧
    left.sloPolicyName = right.sloPolicyName ∧
    left.configuration.slo.successfulEndToEndThresholdNs =
      right.configuration.slo.successfulEndToEndThresholdNs ∧
    left.configuration.loadShape.requestedClientConcurrency =
      right.configuration.loadShape.requestedClientConcurrency

/-- How the requests of a run ended. -/
def taxonomyOf (requests : List Stage1RequestRecord) :
    List (Str × Stage1Phase × Stage1TerminalClass × Option Stage1FailureKind) :=
  requests.map fun request =>
    (request.caseId, request.phase, request.terminalClass, request.failure.map (·.kind))

/-- The checks of `compare_validated_bundles`. -/
def semanticChecks (baseline candidate : ValidatedBundle) : List SemanticCheck :=
  [⟨lit "input-identities-match", inputIdentitiesMatch baseline.manifest candidate.manifest⟩,
    ⟨lit "compatibility-fields-match", compatibilityMatch baseline.manifest candidate.manifest⟩,
    ⟨lit "semantic-fingerprints-match",
      baseline.manifest.semanticFingerprint = candidate.manifest.semanticFingerprint⟩,
    ⟨lit "attempted-count-unchanged",
      baseline.summary.attemptedMeasuredRequests = candidate.summary.attemptedMeasuredRequests⟩,
    ⟨lit "successful-count-unchanged",
      baseline.summary.successfulMeasuredRequests = candidate.summary.successfulMeasuredRequests⟩,
    ⟨lit "failure-count-not-increased",
      candidate.summary.failedNonTimeoutMeasuredRequests ≤
        baseline.summary.failedNonTimeoutMeasuredRequests⟩,
    ⟨lit "timeout-count-not-increased",
      candidate.summary.timedOutMeasuredRequests ≤ baseline.summary.timedOutMeasuredRequests⟩,
    ⟨lit "terminal-taxonomy-unchanged",
      taxonomyOf baseline.requests = taxonomyOf candidate.requests⟩]

/-! ## Reports -/

/-- A report, without the fields that are constant. -/
structure Stage1ComparisonReport where
  createdAtUtc : Datetime
  policySha256 : Str
  baselineContentSha256 : Str
  candidateContentSha256 : Str
  baselineSemanticFingerprint : Str
  candidateSemanticFingerprint : Str
  semanticFingerprintsMatch : Bool
  compatible : Bool
  policyPassed : Bool
  checks : List SemanticCheck
  contentSha256 : Option Str
deriving DecidableEq

/-- `TIMING_DISCLAIMER` -/
def timingDisclaimer : String :=
  "These measurements are loopback fixture measurements used to verify the benchmark harness and " ++
    "measurement semantics. They are not LLM-serving, model, runtime, GPU, or " ++
    "production-performance measurements."

/-- `model_dump` of the policy -/
def Stage1ComparisonPolicy.dump (policy : Stage1ComparisonPolicy) : Json :=
  .obj [(lit "schema_version", .str (lit "0.2.0")),
    (lit "comparison_contract_version", .str (lit "0.2.0")),
    (lit "policy_name", .str policy.policyName),
    (lit "require_matching_semantic_fingerprint", .bool true),
    (lit "require_matching_input_identities", .bool true),
    (lit "require_matching_terminal_taxonomy", .bool true),
    (lit "allow_failure_count_increase", .bool false),
    (lit "allow_timeout_count_increase", .bool false),
    (lit "performance_gating_enabled", .bool false)]

/-- `model_dump` of a check -/
def SemanticCheck.dump (check : SemanticCheck) : Json :=
  .obj [(lit "check", .str check.check), (lit "passed", .bool check.passed)]

namespace Stage1ComparisonReport

/-- The fields of a report, without its hash. -/
def keptFields (report : Stage1ComparisonReport) : List (Str × Json) :=
  [(lit "boundary", .obj boundaryFields),
    (lit "schema_version", .str (lit "0.2.0")),
    (lit "comparison_contract_version", .str (lit "0.2.0")),
    (lit "timing_disclaimer", .str (lit timingDisclaimer)),
    (lit "created_at_utc", .str report.createdAtUtc.utc),
    (lit "policy_sha256", .str report.policySha256),
    (lit "baseline_content_sha256", .str report.baselineContentSha256),
    (lit "candidate_content_sha256", .str report.candidateContentSha256),
    (lit "baseline_semantic_fingerprint", .str report.baselineSemanticFingerprint),
    (lit "candidate_semantic_fingerprint", .str report.candidateSemanticFingerprint),
    (lit "semantic_fingerprints_match", .bool report.semanticFingerprintsMatch),
    (lit "compatible", .bool report.compatible),
    (lit "policy_passed", .bool report.policyPassed),
    (lit "performance_interpretation_allowed", .bool false),
    (lit "checks", .arr (report.checks.map SemanticCheck.dump))]

/-- `model_dump` -/
def dump (report : Stage1ComparisonReport) : Json :=
  .obj (report.keptFields ++ [(lit "content_sha256", jsonOptional .str report.contentSha256)])

/-- The types of the fields, and `validate_report` -/
def modelValidate (report : Stage1ComparisonReport) : Except PyError Stage1ComparisonReport := do
  reject (report.createdAtUtc.utcOffset = none) "created_at_utc"
  reject (∃ digest ∈ [report.policySha256, report.baselineContentSha256,
    report.candidateContentSha256, report.baselineSemanticFingerprint,
    report.candidateSemanticFingerprint], ¬ IsSha256 digest) "sha256"
  reject (∃ check ∈ report.checks, ¬ IsIdentifier check.check) "checks"
  reject (report.checks = []) "checks"
  reject (∃ digest ∈ report.contentSha256, ¬ IsSha256 digest) "content_sha256"
  reject (report.createdAtUtc.utcOffset ≠ some 0) "comparison timestamp must use UTC"
  reject (report.policyPassed ≠ (report.compatible && report.checks.all (·.passed)))
    "policy result must reconcile with compatibility and checks"
  return report

end Stage1ComparisonReport

section

variable [Interpreter]

/-- `report_content_identity` -/
def reportContentIdentity (report : Stage1ComparisonReport) : Except PyError Str :=
  sha256Identity report.dump ["content_sha256"]

/-- `verify_report_content_hash` -/
def verifyReportContentHash (report : Stage1ComparisonReport) : Except PyError Bool :=
  match report.contentSha256 with
  | none => .ok false
  | some digest => do
    let identity ← reportContentIdentity report
    return digest = identity

/-- `"0" * 64` -/
def noContent : Str := List.replicate 64 48

/-- The report that `compare_validated_bundles` constructs. -/
def comparisonOf (baseline candidate : ValidatedBundle) (policySha256 : Str)
    (createdAtUtc : Datetime) : Stage1ComparisonReport :=
  let left := baseline.manifest
  let right := candidate.manifest
  let checks := semanticChecks baseline candidate
  let compatible := inputIdentitiesMatch left right && compatibilityMatch left right
  { createdAtUtc
    policySha256
    baselineContentSha256 := left.contentSha256.getD noContent
    candidateContentSha256 := right.contentSha256.getD noContent
    baselineSemanticFingerprint := left.semanticFingerprint
    candidateSemanticFingerprint := right.semanticFingerprint
    semanticFingerprintsMatch := left.semanticFingerprint = right.semanticFingerprint
    compatible
    policyPassed := compatible && checks.all (·.passed)
    checks
    contentSha256 := none }

/-- `compare_validated_bundles` -/
def compareValidatedBundles (baseline candidate : ValidatedBundle)
    (policy : Stage1ComparisonPolicy) (createdAtUtc : Datetime) :
    Except PyError Stage1ComparisonReport := do
  let policySha256 ← sha256Identity policy.dump
  let report ← (comparisonOf baseline candidate policySha256 createdAtUtc).modelValidate
  let identity ← reportContentIdentity report
  return { report with contentSha256 := some identity }

/-- `validate_comparison_report` -/
def validateComparisonReport (report : Stage1ComparisonReport)
    (baseline candidate : ValidatedBundle) (policy : Stage1ComparisonPolicy) :
    Except PyError Unit := do
  let verified ← verifyReportContentHash report
  if verified = false then .error (.value "comparison report content hash is invalid")
  else do
    let rebuilt ← compareValidatedBundles baseline candidate policy report.createdAtUtc
    if rebuilt ≠ report then
      .error (.value "comparison report differs from reconstructed semantic comparison")
    else return ()

/-! ## What equal fingerprints decide -/

/-- The taxonomy of what was hashed. -/
def SemanticView.taxonomy (view : SemanticView) :
    List (Str × Stage1Phase × Stage1TerminalClass × Option Stage1FailureKind) :=
  view.requests.map fun request =>
    (request.caseId, request.phase, request.terminalClass, request.failureKind)

/-- How the requests ended is hashed. -/
theorem taxonomyOf_of_semanticView {workloadSha256 configurationSha256 fixtureSha256 : Str}
    {requests : List Stage1RequestRecord} {streamEvents : List StreamEvidenceRecord}
    {summary : Stage1RunSummary} {view : SemanticView}
    (h : semanticView workloadSha256 configurationSha256 fixtureSha256 requests streamEvents
      summary = .ok view) : taxonomyOf requests = view.taxonomy := by
  obtain ⟨hashed, hhashed, hview⟩ := bind_eq_ok.mp h
  obtain rfl := Except.ok.inj hview
  have hall := collect_eq_ok.mp hhashed
  unfold taxonomyOf SemanticView.taxonomy
  dsimp only
  clear h hhashed hview
  induction hall with
  | nil => rfl
  | cons hrequest _ ih =>
    obtain ⟨body, -, hreturn⟩ := bind_eq_ok.mp hrequest
    obtain rfl := Except.ok.inj hreturn
    rw [List.map_cons, List.map_cons, ih]

omit [Interpreter] in
/-- How many requests ended in some way is read off the taxonomy. -/
theorem countRequests_of_taxonomy (requests : List Stage1RequestRecord) :
    (countRequests requests).attempted =
        (taxonomyOf requests).countP (fun entry => entry.2.1 = .measured) ∧
      (countRequests requests).successful = (taxonomyOf requests).countP
        (fun entry => entry.2.1 = .measured ∧ entry.2.2.1 = .success) ∧
      (countRequests requests).failedNonTimeout = (taxonomyOf requests).countP
        (fun entry => entry.2.1 = .measured ∧ entry.2.2.1 = .failed) ∧
      (countRequests requests).timedOut = (taxonomyOf requests).countP
        (fun entry => entry.2.1 = .measured ∧ entry.2.2.1 = .timeout) := by
  have hended : ∀ terminalClass, (endedWith terminalClass (measuredOf requests)).length =
      (taxonomyOf requests).countP
        fun entry => entry.2.1 = .measured ∧ entry.2.2.1 = terminalClass := by
    intro terminalClass
    rw [endedWith, measuredOf, List.filter_filter, ← List.countP_eq_length_filter, taxonomyOf,
      List.countP_map]
    simp [Function.comp_def, Bool.and_comm]
  refine ⟨?_, hended .success, hended .failed, hended .timeout⟩
  rw [taxonomyOf, List.countP_map]
  exact List.countP_eq_length_filter.symm

variable [FloatArithmetic] {baseline candidate : ValidatedBundle}

/-- The two rates that are hashed are read back. -/
def RatesRead (bundle : ValidatedBundle) : Prop :=
  ∀ q ∈ bundle.summary.failureRate.value.toList ++ bundle.summary.timeoutRate.value.toList,
    Json.FloatReads q

/-- What was hashed of two bundles does not collide. -/
def FingerprintsApart (baseline candidate : ValidatedBundle) : Prop :=
  ∀ view view', semanticView baseline.manifest.workloadSha256
      baseline.manifest.configurationSha256 baseline.manifest.fixtureSha256 baseline.requests
      baseline.streamEvents baseline.summary = .ok view →
    semanticView candidate.manifest.workloadSha256 candidate.manifest.configurationSha256
      candidate.manifest.fixtureSha256 candidate.requests candidate.streamEvents
      candidate.summary = .ok view' → NoCollision view.json view'.json

/-- Bundles with one fingerprint hashed the same. -/
theorem exists_view_of_fingerprint (hbaseline : Validated baseline)
    (hcandidate : Validated candidate) (hrates : RatesRead baseline)
    (hrates' : RatesRead candidate) (hcollision : FingerprintsApart baseline candidate)
    (h : baseline.manifest.semanticFingerprint = candidate.manifest.semanticFingerprint) :
    ∃ view, semanticView baseline.manifest.workloadSha256 baseline.manifest.configurationSha256
        baseline.manifest.fixtureSha256 baseline.requests baseline.streamEvents
        baseline.summary = .ok view ∧
      semanticView candidate.manifest.workloadSha256 candidate.manifest.configurationSha256
        candidate.manifest.fixtureSha256 candidate.requests candidate.streamEvents
        candidate.summary = .ok view := by
  obtain ⟨view, hview, hdigest⟩ := hbaseline.exists_view
  obtain ⟨view', hview', hdigest'⟩ := hcandidate.exists_view
  have hfloats : ∀ q ∈ view.floats, Json.FloatReads q := by
    obtain ⟨hashed, -, hreturn⟩ := bind_eq_ok.mp hview
    obtain rfl := Except.ok.inj hreturn
    exact hrates
  have hfloats' : ∀ q ∈ view'.floats, Json.FloatReads q := by
    obtain ⟨hashed, -, hreturn⟩ := bind_eq_ok.mp hview'
    obtain rfl := Except.ok.inj hreturn
    exact hrates'
  have hsame : view = view' := semanticView_eq_of_fingerprint hfloats hfloats'
    (hcollision view view' hview hview') (h ▸ hdigest) hdigest'
  exact ⟨view, hview, hsame ▸ hview'⟩

/-- **Equal fingerprints decide every other check of the records**: as many requests were attempted
and ended in each way, and each request ended in the same way. -/
theorem passed_of_fingerprint (hbaseline : Validated baseline) (hcandidate : Validated candidate)
    (hrates : RatesRead baseline) (hrates' : RatesRead candidate)
    (hcollision : FingerprintsApart baseline candidate)
    (h : baseline.manifest.semanticFingerprint = candidate.manifest.semanticFingerprint) :
    taxonomyOf baseline.requests = taxonomyOf candidate.requests ∧
      baseline.summary.attemptedMeasuredRequests =
        candidate.summary.attemptedMeasuredRequests ∧
      baseline.summary.successfulMeasuredRequests =
        candidate.summary.successfulMeasuredRequests ∧
      baseline.summary.failedNonTimeoutMeasuredRequests =
        candidate.summary.failedNonTimeoutMeasuredRequests ∧
      baseline.summary.timedOutMeasuredRequests =
        candidate.summary.timedOutMeasuredRequests := by
  -- one text was hashed for both, so both have one view ...
  obtain ⟨view, hview, hview'⟩ :=
    exists_view_of_fingerprint hbaseline hcandidate hrates hrates' hcollision h
  -- ... with one taxonomy in it ...
  have htaxonomy : taxonomyOf baseline.requests = taxonomyOf candidate.requests :=
    (taxonomyOf_of_semanticView hview).trans (taxonomyOf_of_semanticView hview').symm
  have hderived := Derived.of_deriveStage1Summary hbaseline.summary
  have hderived' := Derived.of_deriveStage1Summary hcandidate.summary
  -- ... and the four counts of the summary are counts over the taxonomy
  obtain ⟨hattempted, hsuccessful, hfailed, htimedOut⟩ :=
    countRequests_of_taxonomy baseline.requests
  obtain ⟨hattempted', hsuccessful', hfailed', htimedOut'⟩ :=
    countRequests_of_taxonomy candidate.requests
  refine ⟨htaxonomy, ?_, ?_, ?_, ?_⟩
  · rw [hderived.attempted, hderived'.attempted, hattempted, hattempted', htaxonomy]
  · rw [hderived.successful, hderived'.successful, hsuccessful, hsuccessful', htaxonomy]
  · rw [hderived.failedNonTimeout, hderived'.failedNonTimeout, hfailed, hfailed', htaxonomy]
  · rw [hderived.timedOut, hderived'.timedOut, htimedOut, htimedOut', htaxonomy]

/-! ## The verdict -/

omit [Interpreter] [FloatArithmetic] in
/-- The names of the checks are valid, whatever their results. -/
theorem isIdentifier_semanticChecks (baseline candidate : ValidatedBundle) :
    ∀ check ∈ semanticChecks baseline candidate, IsIdentifier check.check := by
  simp only [semanticChecks, List.forall_mem_cons, List.not_mem_nil, false_implies, implies_true,
    and_true]
  decide

omit [FloatArithmetic] in
/-- The hash of a report is not hashed. -/
theorem reportContentIdentity_eq (report : Stage1ComparisonReport) :
    reportContentIdentity report = sha256Identity (.obj report.keptFields) :=
  sha256Identity_omit rfl

omit [Interpreter] [FloatArithmetic] in
/-- What the construction of the report requires. -/
theorem modelValidate_comparisonOf {policySha256 : Str} {createdAtUtc : Datetime}
    {report : Stage1ComparisonReport} :
    (comparisonOf baseline candidate policySha256 createdAtUtc).modelValidate = .ok report ↔
      createdAtUtc.utcOffset = some 0 ∧
        (∀ digest ∈ [policySha256, baseline.manifest.contentSha256.getD noContent,
          candidate.manifest.contentSha256.getD noContent, baseline.manifest.semanticFingerprint,
          candidate.manifest.semanticFingerprint], IsSha256 digest) ∧
        report = comparisonOf baseline candidate policySha256 createdAtUtc := by
  unfold Stage1ComparisonReport.modelValidate
  simp only [reject_bind_eq_ok]
  constructor
  · rintro ⟨-, hdigests, -, -, -, hutc, -, hreturn⟩
    push Not at hdigests hutc
    exact ⟨hutc, hdigests, (Except.ok.inj hreturn).symm⟩
  · rintro ⟨hutc, hdigests, rfl⟩
    refine ⟨?_, ?_, ?_, ?_, ?_, ?_, ?_, rfl⟩
    · simp [comparisonOf, hutc]
    · push Not
      exact hdigests
    · push Not
      exact isIdentifier_semanticChecks baseline candidate
    · simp [comparisonOf, semanticChecks]
    · simp [comparisonOf]
    · simp [comparisonOf, hutc]
    · simp [comparisonOf]

omit [FloatArithmetic] in
/-- A report of digests gets a hash when its time can be written. -/
theorem exists_reportContentIdentity {policySha256 : Str} {createdAtUtc : Datetime}
    (hdigests : ∀ digest ∈ [policySha256, baseline.manifest.contentSha256.getD noContent,
      candidate.manifest.contentSha256.getD noContent, baseline.manifest.semanticFingerprint,
      candidate.manifest.semanticFingerprint], IsSha256 digest) :
    (∃ identity, reportContentIdentity (comparisonOf baseline candidate policySha256 createdAtUtc) =
      .ok identity) ↔ IsEncodable createdAtUtc.utc := by
  simp only [List.forall_mem_cons, List.not_mem_nil, false_implies, implies_true, and_true]
    at hdigests
  obtain ⟨hpolicy, hcontent, hcontent', hfingerprint, hfingerprint'⟩ := hdigests
  have hshort : intsShort (.obj (comparisonOf baseline candidate policySha256
      createdAtUtc).keptFields) = true := by
    simp [Stage1ComparisonReport.keptFields, comparisonOf, semanticChecks, SemanticCheck.dump,
      boundaryFields, intsShort, fieldsShort, itemsShort]
  have hchecks : ItemsEncodable ((semanticChecks baseline candidate).map SemanticCheck.dump) := by
    rw [itemsEncodable_iff, List.forall_mem_map]
    intro check hcheck
    have hname := (isIdentifier_semanticChecks baseline candidate check hcheck).2.2
    exact ⟨encodable_lit _, hname, encodable_lit _, trivial, trivial⟩
  have hboundary : FieldsEncodable boundaryFields := by
    simp [boundaryFields, FieldsEncodable, JsonEncodable, encodable_lit]
  rw [reportContentIdentity_eq, exists_sha256Identity_iff, and_iff_left hshort]
  simp only [and_true, JsonEncodable, Stage1ComparisonReport.keptFields, FieldsEncodable,
    comparisonOf, encodable_lit, encodable_of_isSha256, hpolicy, hcontent, hcontent',
    hfingerprint, hfingerprint', hchecks, hboundary, true_and]

omit [FloatArithmetic] in
/-- **What `compare_validated_bundles` returns**, and when it does. -/
theorem compareValidatedBundles_eq_ok {policy : Stage1ComparisonPolicy} {createdAtUtc : Datetime}
    {report : Stage1ComparisonReport} :
    compareValidatedBundles baseline candidate policy createdAtUtc = .ok report ↔
      ∃ policySha256 identity, sha256Identity policy.dump = .ok policySha256 ∧
        createdAtUtc.utcOffset = some 0 ∧
        (∀ digest ∈ [policySha256, baseline.manifest.contentSha256.getD noContent,
          candidate.manifest.contentSha256.getD noContent, baseline.manifest.semanticFingerprint,
          candidate.manifest.semanticFingerprint], IsSha256 digest) ∧
        reportContentIdentity (comparisonOf baseline candidate policySha256 createdAtUtc) =
          .ok identity ∧
        report = { comparisonOf baseline candidate policySha256 createdAtUtc with
          contentSha256 := some identity } := by
  unfold compareValidatedBundles
  constructor
  · intro h
    obtain ⟨policySha256, hpolicy, hrest⟩ := bind_eq_ok.mp h
    obtain ⟨made, hmade, hhash⟩ := bind_eq_ok.mp hrest
    obtain ⟨hutc, hdigests, rfl⟩ := modelValidate_comparisonOf.mp hmade
    obtain ⟨identity, hidentity, hreturn⟩ := bind_eq_ok.mp hhash
    exact ⟨policySha256, identity, hpolicy, hutc, hdigests, hidentity,
      (Except.ok.inj hreturn).symm⟩
  · rintro ⟨policySha256, identity, hpolicy, hutc, hdigests, hidentity, rfl⟩
    have hmade := modelValidate_comparisonOf.mpr ⟨hutc, hdigests, rfl⟩
    exact bind_eq_ok.mpr ⟨policySha256, hpolicy,
      bind_eq_ok.mpr ⟨_, hmade, bind_eq_ok.mpr ⟨identity, hidentity, rfl⟩⟩⟩

omit [FloatArithmetic] in
/-- The report the other way round is made as well. -/
theorem exists_compareValidatedBundles_swap {policy : Stage1ComparisonPolicy}
    {createdAtUtc : Datetime} {report : Stage1ComparisonReport}
    (h : compareValidatedBundles baseline candidate policy createdAtUtc = .ok report) :
    ∃ other, compareValidatedBundles candidate baseline policy createdAtUtc = .ok other := by
  obtain ⟨policySha256, identity, hpolicy, hutc, hdigests, hidentity, -⟩ :=
    compareValidatedBundles_eq_ok.mp h
  have hdigests' : ∀ digest ∈ [policySha256, candidate.manifest.contentSha256.getD noContent,
      baseline.manifest.contentSha256.getD noContent, candidate.manifest.semanticFingerprint,
      baseline.manifest.semanticFingerprint], IsSha256 digest := by
    simp only [List.forall_mem_cons, List.not_mem_nil, false_implies, implies_true, and_true]
      at hdigests ⊢
    obtain ⟨hown, hcontent, hcontent', hfingerprint, hfingerprint'⟩ := hdigests
    exact ⟨hown, hcontent', hcontent, hfingerprint', hfingerprint⟩
  have hutcText := (exists_reportContentIdentity hdigests).mp ⟨identity, hidentity⟩
  obtain ⟨identity', hidentity'⟩ := (exists_reportContentIdentity hdigests').mpr hutcText
  exact ⟨_, compareValidatedBundles_eq_ok.mpr
    ⟨policySha256, identity', hpolicy, hutc, hdigests', hidentity', rfl⟩⟩

omit [Interpreter] [FloatArithmetic] in
/-- The identities of the inputs match either way. -/
theorem inputIdentitiesMatch_comm (left right : Stage1ExecutionManifest) :
    inputIdentitiesMatch left right = inputIdentitiesMatch right left := by
  simp only [inputIdentitiesMatch, eq_comm]

omit [Interpreter] [FloatArithmetic] in
theorem compatibilityMatch_comm (left right : Stage1ExecutionManifest) :
    compatibilityMatch left right = compatibilityMatch right left := by
  simp only [compatibilityMatch, eq_comm]

/-- What the verdict of a report on two runs rests on. -/
def PassesOn (baseline candidate : ValidatedBundle) : Prop :=
  inputIdentitiesMatch baseline.manifest candidate.manifest = true ∧
    compatibilityMatch baseline.manifest candidate.manifest = true ∧
    baseline.manifest.semanticFingerprint = candidate.manifest.semanticFingerprint

/-- The verdict of a report that is made. -/
theorem policyPassed_iff (hbaseline : Validated baseline) (hcandidate : Validated candidate)
    (hrates : RatesRead baseline) (hrates' : RatesRead candidate)
    (hcollision : FingerprintsApart baseline candidate) {policy : Stage1ComparisonPolicy}
    {createdAtUtc : Datetime} {report : Stage1ComparisonReport}
    (h : compareValidatedBundles baseline candidate policy createdAtUtc = .ok report) :
    report.policyPassed = true ↔ PassesOn baseline candidate := by
  obtain ⟨policySha256, identity, -, -, -, -, rfl⟩ := compareValidatedBundles_eq_ok.mp h
  have hpassed : (comparisonOf baseline candidate policySha256 createdAtUtc).policyPassed =
      ((inputIdentitiesMatch baseline.manifest candidate.manifest &&
        compatibilityMatch baseline.manifest candidate.manifest) &&
          (semanticChecks baseline candidate).all (·.passed)) := rfl
  rw [PassesOn, hpassed, Bool.and_eq_true, Bool.and_eq_true, and_assoc]
  refine and_congr_right fun hinputs => and_congr_right fun hcompatible => ⟨fun hall => ?_,
    fun hsame => ?_⟩
  · simp only [semanticChecks, List.all_cons, Bool.and_eq_true, decide_eq_true_eq] at hall
    exact hall.2.2.1
  · obtain ⟨htaxonomy, hattempted, hsuccessful, hfailed, htimedOut⟩ :=
      passed_of_fingerprint hbaseline hcandidate hrates hrates' hcollision hsame
    simp [semanticChecks, hinputs, hcompatible, hsame, htaxonomy, hattempted, hsuccessful, hfailed,
      htimedOut]

omit [Interpreter] [FloatArithmetic] in
theorem passesOn_comm : PassesOn baseline candidate ↔ PassesOn candidate baseline := by
  rw [PassesOn, PassesOn, inputIdentitiesMatch_comm, compatibilityMatch_comm]
  exact and_congr_right fun _ => and_congr_right fun _ => eq_comm

omit [FloatArithmetic] in
theorem FingerprintsApart.symm (h : FingerprintsApart baseline candidate) :
    FingerprintsApart candidate baseline := fun view view' hview hview' =>
  (h view' view hview' hview).symm

/-- **What the verdict of a comparison rests on.** The policy is passed exactly when the inputs, what
must be compatible and the fingerprints match; every other check follows, and the report the other
way round has the same verdict. -/
theorem compareValidatedBundles_verdict
    (hbaseline : validateRecords baseline.manifest baseline.requests baseline.streamEvents
      baseline.serverEvents baseline.summary = .ok baseline)
    (hcandidate : validateRecords candidate.manifest candidate.requests candidate.streamEvents
      candidate.serverEvents candidate.summary = .ok candidate)
    (hrates : RatesRead baseline) (hrates' : RatesRead candidate)
    (hcollision : FingerprintsApart baseline candidate) (policy : Stage1ComparisonPolicy)
    (createdAtUtc : Datetime) (report : Stage1ComparisonReport)
    (h : compareValidatedBundles baseline candidate policy createdAtUtc = .ok report) :
    (report.policyPassed = true ↔ PassesOn baseline candidate) ∧
      (baseline.manifest.semanticFingerprint = candidate.manifest.semanticFingerprint →
        ∀ check ∈ report.checks.drop 3, check.passed = true) ∧
      ∃ other, compareValidatedBundles candidate baseline policy createdAtUtc = .ok other ∧
        other.policyPassed = report.policyPassed := by
  obtain ⟨-, hbaseline⟩ := validateRecords_eq_ok.mp hbaseline
  obtain ⟨-, hcandidate⟩ := validateRecords_eq_ok.mp hcandidate
  have hverdict := policyPassed_iff hbaseline hcandidate hrates hrates' hcollision h
  refine ⟨hverdict, fun hsame => ?_, ?_⟩
  · obtain ⟨policySha256, identity, -, -, -, -, rfl⟩ := compareValidatedBundles_eq_ok.mp h
    obtain ⟨htaxonomy, hattempted, hsuccessful, hfailed, htimedOut⟩ :=
      passed_of_fingerprint hbaseline hcandidate hrates hrates' hcollision hsame
    simp [comparisonOf, semanticChecks, htaxonomy, hattempted, hsuccessful, hfailed, htimedOut]
  · obtain ⟨other, hother⟩ := exists_compareValidatedBundles_swap h
    have hverdict' := policyPassed_iff hcandidate hbaseline hrates' hrates hcollision.symm hother
    exact ⟨other, hother, Bool.eq_iff_iff.mpr (hverdict'.trans (passesOn_comm.trans hverdict.symm))⟩

end

section

attribute [local instance] cpython binary64

/-- A run compared with one that is cut and takes another time. -/
theorem compareValidatedBundles_verdict_sampleBundle :
    ∃ summary summary' fingerprint fingerprint' report,
      compareValidatedBundles (SampleRun.bundle {} summary fingerprint)
        (cutRun.bundle summary' fingerprint') ⟨lit "p"⟩ ⟨some 0, lit "t"⟩ = .ok report ∧
      (report.policyPassed = true ↔ PassesOn (SampleRun.bundle {} summary fingerprint)
        (cutRun.bundle summary' fingerprint')) := by
  obtain ⟨summary, fingerprint, haccepted⟩ := exists_accepted_sampleRun
  obtain ⟨summary', fingerprint', haccepted'⟩ := exists_accepted_cutRun
  have hrates : ∀ {run : SampleRun} {summary fingerprint}, run.Accepted summary fingerprint →
      RatesRead (run.bundle summary fingerprint) := by
    intro run summary fingerprint haccepted q hq
    have hq : q ∈ summary.failureRate.value.toList ++ summary.timeoutRate.value.toList := hq
    rw [haccepted.failureRate, haccepted.timeoutRate] at hq
    obtain rfl : q = 0 := by simpa [sampleRate] using hq
    exact floatReads_zero
  -- the two hash the same
  have hsame : SampleRun.view {} = cutRun.view := rfl
  have hcollision : FingerprintsApart (SampleRun.bundle {} summary fingerprint)
      (cutRun.bundle summary' fingerprint') := by
    intro view view' hview hview' octets octets' hoctets hoctets' _
    obtain rfl := Except.ok.inj (haccepted.view.symm.trans hview)
    obtain rfl := Except.ok.inj (haccepted'.view.symm.trans hview')
    rw [hsame] at hoctets
    exact Except.ok.inj (hoctets.symm.trans hoctets')
  have hdigests : ∀ policySha256, IsSha256 policySha256 → ∀ digest ∈ [policySha256, noContent,
      noContent, fingerprint, fingerprint'], IsSha256 digest := by
    have hcontent : IsSha256 noContent := by decide
    have hfingerprint := isSha256_of_sha256Identity haccepted.identity
    have hfingerprint' := isSha256_of_sha256Identity haccepted'.identity
    intro policySha256 hpolicy
    simp only [List.forall_mem_cons, List.not_mem_nil, false_implies, implies_true, and_true]
    exact ⟨hpolicy, hcontent, hcontent, hfingerprint, hfingerprint'⟩
  obtain ⟨policySha256, hpolicy⟩ : ∃ digest,
      sha256Identity (Stage1ComparisonPolicy.dump ⟨lit "p"⟩) = .ok digest :=
    exists_sha256Identity (by simp [FieldsEncodable, JsonEncodable, encodable_lit]) (by decide)
  have hown := hdigests policySha256 (isSha256_of_sha256Identity hpolicy)
  have htime : IsEncodable (lit "t") := encodable_lit _
  obtain ⟨identity, hreport⟩ := (@exists_reportContentIdentity _
    (SampleRun.bundle {} summary fingerprint) (cutRun.bundle summary' fingerprint')
    policySha256 ⟨some 0, lit "t"⟩ hown).mpr htime
  have hmade := (@compareValidatedBundles_eq_ok _ (SampleRun.bundle {} summary fingerprint)
    (cutRun.bundle summary' fingerprint') ⟨lit "p"⟩ ⟨some 0, lit "t"⟩ _).mpr
      ⟨policySha256, identity, hpolicy, rfl, hown, hreport, rfl⟩
  exact ⟨summary, summary', fingerprint, fingerprint', _, hmade,
    (compareValidatedBundles_verdict haccepted.valid.accepted haccepted'.valid.accepted
      (hrates haccepted) (hrates haccepted') hcollision _ _ _ hmade).1⟩

end

section

variable [Interpreter] {baseline candidate : ValidatedBundle}

/-- **The reports that are accepted are those that are made.** A report is accepted for two bundles
exactly when the comparison of the two at its time returns it, so its hash needs no check of its
own; and two accepted reports of one time are the same. -/
theorem validateComparisonReport_iff (baseline candidate : ValidatedBundle)
    (policy : Stage1ComparisonPolicy) (report : Stage1ComparisonReport) :
    (validateComparisonReport report baseline candidate policy = .ok () ↔
      compareValidatedBundles baseline candidate policy report.createdAtUtc = .ok report) ∧
    ∀ report', validateComparisonReport report baseline candidate policy = .ok () →
      validateComparisonReport report' baseline candidate policy = .ok () →
      report.createdAtUtc = report'.createdAtUtc → report = report' := by
  have haccepted : ∀ report : Stage1ComparisonReport,
      validateComparisonReport report baseline candidate policy = .ok () ↔
        compareValidatedBundles baseline candidate policy report.createdAtUtc = .ok report := by
    intro report
    unfold validateComparisonReport
    constructor
    · intro h
      obtain ⟨verified, -, hrest⟩ := bind_eq_ok.mp h
      split_ifs at hrest
      obtain ⟨rebuilt, hrebuilt, hcompare⟩ := bind_eq_ok.mp hrest
      split_ifs at hcompare with hsame
      rw [hrebuilt, not_not.mp hsame]
    · intro h
      obtain ⟨policySha256, identity, -, -, -, hidentity, hreport⟩ :=
        compareValidatedBundles_eq_ok.mp h
      -- the hash is that of the report it was added to
      have hhash : verifyReportContentHash report = .ok true := by
        have hown : reportContentIdentity report = .ok identity := by
          rw [hreport, reportContentIdentity_eq]
          rw [reportContentIdentity_eq] at hidentity
          exact hidentity
        have hcontent : report.contentSha256 = some identity := by rw [hreport]
        unfold verifyReportContentHash
        rw [hcontent]
        refine bind_eq_ok.mpr ⟨identity, hown, ?_⟩
        exact congrArg Except.ok (decide_eq_true rfl)
      refine bind_eq_ok.mpr ⟨true, hhash, ?_⟩
      rw [if_neg (by decide)]
      refine bind_eq_ok.mpr ⟨report, h, ?_⟩
      rw [if_neg (not_not.mpr rfl)]
      rfl
  refine ⟨haccepted report, fun report' h h' htime => ?_⟩
  have hmade := (haccepted report).mp h
  have hmade' := (haccepted report').mp h'
  rw [htime] at hmade
  exact Except.ok.inj (hmade.symm.trans hmade')

end

end Stage1
