import LlmInferenceSystems.Stage2.RestartComparison

/-!
# The result of the aggregate

The experiment is committed when the gate opens. When cases mismatch, and that is all the gate finds
wrong, the experiment is closed as a semantic nonreproduction that names them; any other failure is
raised. The two are told apart by the message of the exception.

## Main definitions

* `stage2ExperimentCaseIds`: the cases of the experiment
* `Stage2AggregateValidationResult`: the result
* `deriveAggregateValidationResult`: how it is derived from what the repetitions retained

## Main results

* `deriveAggregateValidationResult_eq_ok`: the result names exactly the cases that mismatch
* `deriveAggregateValidationResult_isExpectedFailure`: a mismatch never passes the gate
-/

namespace Stage2

open Python

/-! ## What is retained -/

/-- `STAGE2_EXPERIMENT_CASE_IDS` -/
def stage2ExperimentCaseIds : List Str :=
  (List.range' 1 16).map fun index =>
    lit "stage2-case-v1-" ++ (if index < 10 then lit "0" else []) ++ decimal index

/-- The cases of the experiment are identifiers in order. -/
theorem stage2ExperimentCaseIds_ordered :
    (∀ caseId ∈ stage2ExperimentCaseIds, IsIdentifier caseId) ∧ stage2ExperimentCaseIds.Nodup ∧
      stage2ExperimentCaseIds.Pairwise fun a b => strLe a b = true := by
  decide

/-- A repetition, as far as the result is derived from it. -/
structure Stage2RepetitionAttestation [Timestamps] where
  repetitionManifest : Stage2BundleManifest

/-- `Stage2RestartSemanticAttestation` -/
structure Stage2RestartSemanticAttestation where
  repetitionIndex : ℤ
  caseId : Str
  sentPromptTokenIds : List ℤ
  returnedPromptTokenIds : List ℤ
  outputTokenIds : List ℤ
  finishReason : Str
  promptTokens : ℤ
  completionTokens : ℤ
  totalTokens : ℤ
  outputTextSha256 : Str
  repetitionManifestSha256 : Str

/-- `as_restart_record` -/
def Stage2RestartSemanticAttestation.asRestartRecord
    (attestation : Stage2RestartSemanticAttestation) : RestartSemanticRecord where
  repetitionIndex := attestation.repetitionIndex
  bundleManifestSha256 := attestation.repetitionManifestSha256
  caseId := attestation.caseId
  sentPromptTokenIds := attestation.sentPromptTokenIds
  returnedPromptTokenIds := attestation.returnedPromptTokenIds
  outputTokenIds := attestation.outputTokenIds
  finishReason := attestation.finishReason
  promptTokens := attestation.promptTokens
  completionTokens := attestation.completionTokens
  totalTokens := attestation.totalTokens
  outputTextSha256 := attestation.outputTextSha256
  replacementRun := false

/-- A comparison of the experiment, as far as the result is derived from it. -/
structure Stage2CrossRestartComparison where
  semanticRecords : Stage2RestartSemanticAttestation × Stage2RestartSemanticAttestation ×
    Stage2RestartSemanticAttestation
  comparison : RestartComparison

/-- The records that the comparison is of. -/
def Stage2CrossRestartComparison.records (comparison : Stage2CrossRestartComparison) :
    List RestartSemanticRecord :=
  [comparison.semanticRecords.1.asRestartRecord, comparison.semanticRecords.2.1.asRestartRecord,
    comparison.semanticRecords.2.2.asRestartRecord]

/-- The state of the experiment, as an item of one of two enumerations. -/
inductive AggregateState where
  | bundle (state : BundleState)
  | comparison (state : AggregateComparisonState)
deriving DecidableEq

/-- The text of either kind of state. -/
def AggregateState.value : AggregateState → String
  | bundle state => state.value
  | comparison state => state.value

/-- The result, without the fields that are constant. -/
structure Stage2AggregateValidationResult where
  state : AggregateState
  invalidCaseIds : List Str
  failureReason : Option Str
  validatedInputSha256 : Str
  identitySha256 : Str

namespace Stage2AggregateValidationResult

/-- `model_dump` of the result, by its fields -/
def dumpFields (result : Stage2AggregateValidationResult) : List (Str × Json) :=
  [(lit "state", .str (lit result.state.value)),
    (lit "aggregate_validator", .str (lit "validate_aggregate_commit")),
    (lit "repetition_count", .int 3),
    (lit "measured_request_count", .int 48),
    (lit "comparison_count", .int 16),
    (lit "invalid_case_ids", .arr (result.invalidCaseIds.map .str)),
    (lit "failure_reason", result.failureReason.elim .null .str),
    (lit "validated_input_sha256", .str result.validatedInputSha256),
    (lit "identity_sha256", .str result.identitySha256)]

/-- `sha256_identity` of the fields other than the identity -/
def identity [Interpreter] (result : Stage2AggregateValidationResult) : Except PyError Str :=
  sha256Identity (.obj result.dumpFields) ["identity_sha256"]

/-- `model_validate`: the types of the fields, and `validate_identity` -/
def modelValidate [Interpreter] (result : Stage2AggregateValidationResult) :
    Except PyError Stage2AggregateValidationResult :=
  let invalid : Prop := result.state = .comparison .invalidSemanticNonreproduction
  if ¬ (result.state = .bundle .committed ∨ invalid) then .error (.validation "state")
  else if ¬ ∀ caseId ∈ result.invalidCaseIds, IsIdentifier caseId then
    .error (.validation "invalid_case_ids")
  else if ¬ (invalid ↔ result.invalidCaseIds ≠ []) ∨ ¬ (invalid ↔ result.failureReason ≠ none) then
    .error (.validation "aggregate terminal state does not match retained semantic failures")
  else if result.invalidCaseIds ≠
      result.invalidCaseIds.dedup.insertionSort (fun a b => strLe a b = true) then
    .error (.validation "invalid semantic case IDs must be sorted and unique")
  else
    result.identity >>= fun identity =>
    if result.identitySha256 ≠ identity then
      .error (.validation "aggregate validation-result identity does not reconstruct")
    else .ok result

end Stage2AggregateValidationResult

/-- What was validated is returned. -/
theorem Stage2AggregateValidationResult.eq_of_modelValidate
    [Interpreter] {result validated : Stage2AggregateValidationResult}
    (h : result.modelValidate = .ok validated) : validated = result := by
  unfold modelValidate at h
  dsimp only at h
  split_ifs at h
  obtain ⟨identity, -, h⟩ := bind_eq_ok.mp h
  split at h
  · cases h
  · exact (Except.ok.inj h).symm

theorem sha256Identity_isOtherFailure [Interpreter] {value : Json} {omitFields : List String} :
    RaisesOnly isOtherFailure (sha256Identity value omitFields) := by
  apply RaisesOnly.map
  unfold canonicalJsonBytes
  dsimp only
  split
  · exact raisesOnly_error rfl
  · split
    · exact raisesOnly_error rfl
    · split
      · exact raisesOnly_error rfl
      · split
        · exact raisesOnly_error rfl
        · exact (returns_ok _).raisesOnly

theorem Stage2AggregateValidationResult.modelValidate_isOtherFailure [Interpreter]
    {result : Stage2AggregateValidationResult} :
    RaisesOnly isOtherFailure result.modelValidate := by
  unfold modelValidate
  dsimp only
  split
  · exact raisesOnly_error rfl
  · split
    · exact raisesOnly_error rfl
    · split
      · exact raisesOnly_error rfl
      · split
        · exact raisesOnly_error rfl
        · refine RaisesOnly.bind sha256Identity_isOtherFailure fun identity _ => ?_
          split
          · exact raisesOnly_error rfl
          · exact (returns_ok _).raisesOnly

/-- The state that the verdict of the gate gives, when cases are invalid and when none is. -/
def aggregateState (verdict : Except PyError BundleState) (invalidCaseIds : List Str) :
    Except PyError AggregateState :=
  if invalidCaseIds ≠ [] then
    match verdict with
    | .error e =>
      if e = .stage2Control "aggregate commit requires passing semantic comparison" then
        .ok (.comparison .invalidSemanticNonreproduction)
      else .error e
    | .ok _ =>
      .error (.value "semantic mismatch unexpectedly passed aggregate commit validation")
  else verdict.map .bundle

theorem aggregateState_eq_ok {verdict : Except PyError BundleState} {caseIds : List Str}
    {state : AggregateState} :
    aggregateState verdict caseIds = .ok state ↔
      (caseIds ≠ [] ∧ state = .comparison .invalidSemanticNonreproduction ∧
        verdict = .error
          (.stage2Control "aggregate commit requires passing semantic comparison")) ∨
      (caseIds = [] ∧ ∃ bundleState, verdict = .ok bundleState ∧ state = .bundle bundleState) := by
  unfold aggregateState
  by_cases hempty : caseIds = []
  · rw [if_neg (not_not.mpr hempty)]
    cases verdict with
    | error e => simp [hempty, Except.map]
    | ok bundleState => simp [hempty, Except.map, eq_comm]
  · rw [if_pos hempty]
    cases verdict with
    | error e =>
      dsimp only
      split_ifs with he
      · simp [hempty, he, eq_comm]
      · simp [hempty, he]
    | ok bundleState => simp [hempty]

/-- The branch for a mismatch that passed was not taken. -/
def isExpectedFailure (e : PyError) : Bool :=
  e ≠ .value "semantic mismatch unexpectedly passed aggregate commit validation"

theorem isExpectedFailure_of_isOtherFailure {e : PyError} (h : isOtherFailure e = true) :
    isExpectedFailure e = true := by
  simp only [isOtherFailure, isExpectedFailure, decide_eq_true_eq] at h ⊢
  exact h.2

/-- The branch for a mismatch that passed is not taken if none passes. -/
theorem aggregateState_isExpectedFailure {verdict : Except PyError BundleState}
    {caseIds : List Str} (hverdict : RaisesOnly isExpectedFailure verdict)
    (hpasses : ∀ state, verdict = .ok state → caseIds = []) :
    RaisesOnly isExpectedFailure (aggregateState verdict caseIds) := by
  unfold aggregateState
  split
  · next hinvalid =>
    split
    · next e =>
      split
      · exact (returns_ok _).raisesOnly
      · exact raisesOnly_error (hverdict e rfl)
    · next state => exact absurd (hpasses state rfl) hinvalid
  · exact hverdict.map

/-- `invalid_case_ids` -/
def invalidCaseIds (comparisons : List RestartComparison) : List Str :=
  (comparisons.filter fun comparison =>
    comparison.state = .invalidSemanticNonreproduction).map (·.caseId)

section

variable [Interpreter] [Timestamps]

/-- What `validated_input_sha256` is the identity of. -/
def validatedInput (manifests : List Stage2BundleManifest)
    (comparisons : List Stage2CrossRestartComparison) : Json :=
  .obj [(lit "case_records", .arr (comparisons.map fun comparison =>
      .arr (comparison.records.map (·.dump)))),
    (lit "comparisons", .arr (comparisons.map (·.comparison.dump))),
    (lit "expected_case_ids", .arr (stage2ExperimentCaseIds.map .str)),
    (lit "repetition_manifests", .arr (manifests.map (·.dump)))]

/-- `manifests` -/
def repetitionManifests (repetitions : Stage2RepetitionAttestation × Stage2RepetitionAttestation ×
    Stage2RepetitionAttestation) : List Stage2BundleManifest :=
  [repetitions.1.repetitionManifest, repetitions.2.1.repetitionManifest,
    repetitions.2.2.repetitionManifest]

/-- `derive_aggregate_validation_result` -/
def deriveAggregateValidationResult
    (repetitions : Stage2RepetitionAttestation × Stage2RepetitionAttestation ×
      Stage2RepetitionAttestation)
    (comparisons : List Stage2CrossRestartComparison) :
    Except PyError Stage2AggregateValidationResult :=
  let manifests := repetitionManifests repetitions
  let comparisonRecords := comparisons.map (·.comparison)
  let invalid := invalidCaseIds comparisonRecords
  aggregateState (validateAggregateCommit manifests (comparisons.map (·.records))
    comparisonRecords stage2ExperimentCaseIds) invalid >>= fun state =>
  sha256Identity (validatedInput manifests comparisons) >>= fun validatedInputSha256 =>
  let values : Stage2AggregateValidationResult :=
    { state := state
      invalidCaseIds := invalid
      failureReason :=
        if invalid ≠ [] then some (lit "INVALID_SEMANTIC_NONREPRODUCTION") else none
      validatedInputSha256 := validatedInputSha256
      identitySha256 := [] }
  values.identity >>= fun identity =>
  Stage2AggregateValidationResult.modelValidate { values with identitySha256 := identity }

/-! ## What the result says -/

variable {manifests : List Stage2BundleManifest}
  {repetitions : Stage2RepetitionAttestation × Stage2RepetitionAttestation ×
    Stage2RepetitionAttestation}
  {comparisons : List Stage2CrossRestartComparison} {expectedCaseIds : List Str}

/-- The gate has compared the records of each case. -/
theorem Reconstructed.compared_records
    (h : Reconstructed manifests (comparisons.map (·.records)) (comparisons.map (·.comparison))
      expectedCaseIds) {comparison : Stage2CrossRestartComparison}
    (hmem : comparison ∈ comparisons) :
    comparison.comparison.state = .committed ↔ Agree comparison.records := by
  have hcompared := List.forall₂_map_left_iff.mp (List.forall₂_map_right_iff.mp h.compared)
  have hrecords : compareThreeRestarts comparison.records = .ok comparison.comparison :=
    List.forall₂_same.mp hcompared comparison hmem
  have hindexes := h.complete comparison.records (List.mem_map_of_mem hmem)
  obtain ⟨-, baseline, candidates, hlist, hcomparison⟩ :=
    (compareThreeRestarts_eq_ok hindexes).mp hrecords
  rw [hlist, hcomparison, compareWithBaseline_state]

instance (records : List RestartSemanticRecord) : Decidable (Agree records) :=
  inferInstanceAs (Decidable (∀ a ∈ records, ∀ b ∈ records, SemanticallyEqual a b))

/-- The cases that mismatch, in order. -/
def mismatchingCaseIds (comparisons : List Stage2CrossRestartComparison) : List Str :=
  (comparisons.filter fun comparison => ¬ Agree comparison.records).map (·.comparison.caseId)

theorem Reconstructed.invalidCaseIds_eq
    (h : Reconstructed manifests (comparisons.map (·.records)) (comparisons.map (·.comparison))
      expectedCaseIds) :
    invalidCaseIds (comparisons.map (·.comparison)) = mismatchingCaseIds comparisons := by
  rw [invalidCaseIds, mismatchingCaseIds, List.filter_map, List.map_map]
  congr 1
  apply List.filter_congr
  intro comparison hmem
  have hstate := h.compared_records hmem
  rw [Function.comp_apply, decide_eq_decide, ← hstate]
  cases comparison.comparison.state <;> simp

/-- **The result names exactly the cases that mismatch**, and is a commit when there are none. -/
theorem deriveAggregateValidationResult_eq_ok {result : Stage2AggregateValidationResult}
    (h : deriveAggregateValidationResult repetitions comparisons = .ok result) :
    result.invalidCaseIds = mismatchingCaseIds comparisons ∧
      (result.state = .comparison .invalidSemanticNonreproduction ∧
          result.invalidCaseIds ≠ [] ∨
        result.state = .bundle .committed ∧ result.invalidCaseIds = []) := by
  obtain ⟨state, hstate, h⟩ := bind_eq_ok.mp h
  obtain ⟨input, -, h⟩ := bind_eq_ok.mp h
  obtain ⟨identity, -, h⟩ := bind_eq_ok.mp h
  rw [Stage2AggregateValidationResult.eq_of_modelValidate h]
  dsimp only
  rcases aggregateState_eq_ok.mp hstate with ⟨hinvalid, rfl, hverdict⟩ | ⟨hnone, _, hverdict, rfl⟩
  · have hreconstructed := reconstructed_of_error hverdict
    exact ⟨hreconstructed.invalidCaseIds_eq, .inl ⟨rfl, hinvalid⟩⟩
  · obtain ⟨rfl, hcommittable⟩ := validateAggregateCommit_eq_ok.mp hverdict
    exact ⟨hcommittable.invalidCaseIds_eq, .inr ⟨rfl, hnone⟩⟩

/-- A gate that opens has seen no mismatch. -/
theorem Committable.mismatchingCaseIds_eq
    (h : Committable manifests (comparisons.map (·.records)) (comparisons.map (·.comparison))
      expectedCaseIds) : mismatchingCaseIds comparisons = [] := by
  rw [mismatchingCaseIds, List.map_eq_nil_iff, List.filter_eq_nil_iff]
  intro comparison hmem
  simpa using h.agree _ (List.mem_map_of_mem hmem)

theorem validateAggregateCommit_isExpectedFailure {caseRecords : List (List RestartSemanticRecord)}
    {caseComparisons : List RestartComparison} :
    RaisesOnly isExpectedFailure
      (validateAggregateCommit manifests caseRecords caseComparisons expectedCaseIds) := by
  refine RaisesOnly.bind (reconstructComparisons_isOtherFailure.mono fun e =>
    isExpectedFailure_of_isOtherFailure) fun _ _ => ?_
  split
  · exact raisesOnly_error rfl
  · exact (returns_ok _).raisesOnly

/-- **A mismatch never passes the gate.** -/
theorem deriveAggregateValidationResult_isExpectedFailure :
    RaisesOnly isExpectedFailure (deriveAggregateValidationResult repetitions comparisons) := by
  have hother : ∀ {α : Type} {call : Except PyError α}, RaisesOnly isOtherFailure call →
      RaisesOnly isExpectedFailure call := fun h =>
    h.mono fun _ => isExpectedFailure_of_isOtherFailure
  refine RaisesOnly.bind (aggregateState_isExpectedFailure
    validateAggregateCommit_isExpectedFailure ?_) fun state _ =>
    RaisesOnly.bind (hother sha256Identity_isOtherFailure) fun input _ =>
    RaisesOnly.bind (hother sha256Identity_isOtherFailure) fun identity _ =>
    hother Stage2AggregateValidationResult.modelValidate_isOtherFailure
  intro state hverdict
  obtain ⟨-, hcommittable⟩ := validateAggregateCommit_eq_ok.mp hverdict
  rw [hcommittable.invalidCaseIds_eq, hcommittable.mismatchingCaseIds_eq]

/-! ## When there is a result -/

omit [Timestamps] in
theorem Stage2AggregateValidationResult.returns_identity
    {result : Stage2AggregateValidationResult}
    (hcases : ∀ caseId ∈ result.invalidCaseIds, IsIdentifier caseId)
    (hreason : ∀ reason ∈ result.failureReason, IsEncodable reason)
    (hinput : IsEncodable result.validatedInputSha256)
    (hidentity : IsEncodable result.identitySha256) : Returns result.identity := by
  have hreason : JsonEncodable (result.failureReason.elim .null .str) ∧
      intsShort (result.failureReason.elim .null .str) = true := by
    cases hfailure : result.failureReason with
    | none => exact ⟨trivial, rfl⟩
    | some reason => exact ⟨hreason reason hfailure, rfl⟩
  -- the numbers of the result are small
  have hsmall : ∀ n : ℕ, n < 100 → intsShort (.int n) = true := by
    intro n hn
    have hmax := pow_le_maxInt (show 2 ≤ 4300 by decide)
    rw [intsShort, Int.natAbs_natCast]
    exact decide_eq_true (by omega)
  -- its texts can be encoded, and its numbers are short
  refine exists_sha256Identity ?_ ?_ _
  · rw [fieldsEncodable_iff]
    simp only [dumpFields, List.forall_mem_cons, List.not_mem_nil, false_implies, implies_true,
      and_true]
    refine ⟨⟨encodable_lit _, encodable_lit _⟩, ⟨encodable_lit _, encodable_lit _⟩,
      ⟨encodable_lit _, trivial⟩, ⟨encodable_lit _, trivial⟩, ⟨encodable_lit _, trivial⟩,
      ⟨encodable_lit _, itemsEncodable_iff.mpr ?_⟩, ⟨encodable_lit _, hreason.1⟩,
      ⟨encodable_lit _, hinput⟩, encodable_lit _, hidentity⟩
    rw [List.forall_mem_map]
    intro caseId hmem
    exact (hcases caseId hmem).2.2
  · rw [fieldsShort_iff]
    simp only [dumpFields, List.forall_mem_cons, List.not_mem_nil, false_implies, implies_true,
      and_true]
    refine ⟨rfl, rfl, hsmall 3 (by decide), hsmall 48 (by decide), hsmall 16 (by decide),
      itemsShort_iff.mpr ?_, hreason.2, rfl, rfl⟩
    rw [List.forall_mem_map]
    intro caseId _
    rfl

omit [Timestamps] in
/-- A result in its terminal state validates. -/
theorem Stage2AggregateValidationResult.modelValidate_eq_ok
    {result : Stage2AggregateValidationResult}
    (hstate : result.state = if result.invalidCaseIds ≠ [] then
      .comparison .invalidSemanticNonreproduction else .bundle .committed)
    (hreason : result.failureReason = if result.invalidCaseIds ≠ [] then
      some (lit "INVALID_SEMANTIC_NONREPRODUCTION") else none)
    (hcases : ∀ caseId ∈ result.invalidCaseIds, IsIdentifier caseId)
    (hordered : result.invalidCaseIds =
      result.invalidCaseIds.dedup.insertionSort fun a b => strLe a b = true)
    (hidentity : result.identity = .ok result.identitySha256) :
    result.modelValidate = .ok result := by
  have hterminal : (result.state = .bundle .committed ∨
        result.state = .comparison .invalidSemanticNonreproduction) ∧
      (result.state = .comparison .invalidSemanticNonreproduction ↔ result.invalidCaseIds ≠ []) ∧
      (result.state = .comparison .invalidSemanticNonreproduction ↔
        result.failureReason ≠ none) := by
    rw [hstate, hreason]
    by_cases hnone : result.invalidCaseIds = [] <;> simp [hnone]
  unfold modelValidate
  dsimp only
  rw [if_neg (not_not.mpr hterminal.1), if_neg (not_not.mpr hcases),
    if_neg (not_or.mpr ⟨not_not.mpr hterminal.2.1, not_not.mpr hterminal.2.2⟩),
    if_neg (not_not.mpr hordered), hidentity]
  exact if_neg (not_not.mpr rfl)

theorem Reconstructed.mismatchingCaseIds_sublist
    (h : Reconstructed manifests (comparisons.map (·.records)) (comparisons.map (·.comparison))
      expectedCaseIds) : (mismatchingCaseIds comparisons).Sublist expectedCaseIds := by
  rw [← h.comparisonIds, List.map_map]
  exact List.filter_sublist.map _

/-- The gate opens, or names mismatches as the reason why not. -/
theorem Reconstructed.returns_aggregateState
    (h : Reconstructed manifests (comparisons.map (·.records)) (comparisons.map (·.comparison))
      expectedCaseIds) :
    aggregateState (validateAggregateCommit manifests (comparisons.map (·.records))
        (comparisons.map (·.comparison)) expectedCaseIds) (mismatchingCaseIds comparisons) =
      .ok (if mismatchingCaseIds comparisons ≠ [] then .comparison .invalidSemanticNonreproduction
        else .bundle .committed) := by
  by_cases hnone : mismatchingCaseIds comparisons = []
  · have hagree : ∀ records ∈ comparisons.map (·.records), Agree records := by
      rw [mismatchingCaseIds, List.map_eq_nil_iff, List.filter_eq_nil_iff] at hnone
      rw [List.forall_mem_map]
      simpa using hnone
    rw [validateAggregateCommit_eq_ok.mpr ⟨rfl, h, hagree⟩, hnone]
    rfl
  · have hmismatch : ∃ comparison ∈ comparisons.map (·.comparison),
        comparison.state ≠ .committed ∨ comparison.mismatches ≠ [] := by
      obtain ⟨caseId, hcase⟩ := List.exists_mem_of_ne_nil _ hnone
      obtain ⟨comparison, hcomparison, -⟩ := List.mem_map.mp hcase
      obtain ⟨hmem, hdiffer⟩ := List.mem_filter.mp hcomparison
      refine ⟨_, List.mem_map_of_mem hmem, .inl fun hstate => ?_⟩
      simp [(h.compared_records hmem).mp hstate] at hdiffer
    rw [if_pos hnone]
    refine aggregateState_eq_ok.mpr (.inl ⟨hnone, rfl, ?_⟩)
    rw [validateAggregateCommit, reconstructComparisons_eq_ok.mpr h]
    exact if_pos hmismatch

/-- **There is a result exactly when the comparisons are those of complete and bound records**, and
what was validated can be encoded. -/
theorem returns_deriveAggregateValidationResult_iff :
    Returns (deriveAggregateValidationResult repetitions comparisons) ↔
      Reconstructed (repetitionManifests repetitions) (comparisons.map (·.records))
          (comparisons.map (·.comparison)) stage2ExperimentCaseIds ∧
        Returns
          (sha256Identity (validatedInput (repetitionManifests repetitions) comparisons)) := by
  constructor
  -- a derivation that returns has judged the comparisons and hashed what it judged
  · rintro ⟨result, h⟩
    obtain ⟨state, hstate, h⟩ := bind_eq_ok.mp h
    obtain ⟨input, hinput, -⟩ := bind_eq_ok.mp h
    refine ⟨?_, input, hinput⟩
    -- whether the verdict was good or bad, the records were complete
    rcases aggregateState_eq_ok.mp hstate with ⟨-, -, hverdict⟩ | ⟨-, _, hverdict, -⟩
    · exact reconstructed_of_error hverdict
    · exact (validateAggregateCommit_eq_ok.mp hverdict).2.toReconstructed
  · rintro ⟨h, hinput⟩
    obtain ⟨hidentifier, hnodup, hsorted⟩ := stage2ExperimentCaseIds_ordered
    -- the other way, each check of the result holds for the records
    have hsublist := h.mismatchingCaseIds_sublist
    have hcases : ∀ caseId ∈ mismatchingCaseIds comparisons, IsIdentifier caseId :=
      fun caseId hmem => hidentifier caseId (hsublist.subset hmem)
    -- the cases stand in their declared order, which is sorted and without repetitions
    have hordered : mismatchingCaseIds comparisons =
        (mismatchingCaseIds comparisons).dedup.insertionSort fun a b => strLe a b = true := by
      rw [List.dedup_eq_self.mpr (hnodup.sublist hsublist)]
      exact ((hsorted.sublist hsublist).insertionSort_eq).symm
    unfold deriveAggregateValidationResult
    dsimp only
    rw [h.invalidCaseIds_eq, h.returns_aggregateState]
    refine Returns.bind (returns_ok _) fun state hstate => ?_
    obtain rfl := Except.ok.inj hstate
    -- the reasons are constants and the digest is hexadecimal, so the result has an identity
    refine hinput.bind fun input hdigest => ?_
    obtain ⟨bytes, -, rfl⟩ := exists_of_map_eq_ok hdigest
    refine Returns.bind (Stage2AggregateValidationResult.returns_identity hcases ?_
      (encodable_hexdigest _) (by simp [IsEncodable])) fun identity hidentity => ?_
    · dsimp only
      split_ifs
      · rintro _ ⟨⟩
        exact encodable_lit _
      · simp
    · refine ⟨_, Stage2AggregateValidationResult.modelValidate_eq_ok rfl rfl hcases hordered ?_⟩
      exact hidentity

/-- A manifest that has an identity can be written wherever it occurs. -/
theorem writable_of_bundleManifestSha256 {manifest : Stage2BundleManifest} {digest : Str}
    (h : bundleManifestSha256 manifest = .ok digest) :
    JsonEncodable manifest.dump ∧ intsShort manifest.dump = true ∧ IsEncodable digest := by
  obtain ⟨data, hline, rfl⟩ := exists_of_map_eq_ok h
  obtain ⟨octets, hencode, rfl⟩ := exists_of_map_eq_ok hline
  obtain ⟨hshort, text, htext, hutf8⟩ := PyValue.encode_eq_ok.mp hencode
  have hscalar : IsEncodable text := utf8Encode_isSome_iff.mp (by rw [hutf8]; rfl)
  exact ⟨jsonEncodable_of_jsonText htext hscalar, hshort, encodable_hexdigest _⟩

omit [Interpreter] [Timestamps] in
theorem writable_compareWithBaseline {baseline : RestartSemanticRecord}
    {candidates : List RestartSemanticRecord} (h : IsEncodable baseline.caseId) :
    JsonEncodable (compareWithBaseline baseline candidates).dump ∧
      intsShort (compareWithBaseline baseline candidates).dump = true := by
  have htexts : ∀ text ∈ semanticMismatches baseline candidates, IsEncodable text := by
    intro text htext
    obtain ⟨candidate, -, htext⟩ := List.mem_flatMap.mp htext
    obtain ⟨field, -, rfl⟩ := List.mem_map.mp htext
    exact (((encodable_lit _).append (encodable_jsonInt _)).append (encodable_lit _)).append
      (encodable_lit _)
  rw [RestartComparison.dump, JsonEncodable, intsShort, fieldsEncodable_iff, fieldsShort_iff]
  simp only [List.forall_mem_cons, List.not_mem_nil, false_implies, implies_true, and_true,
    JsonEncodable, intsShort, itemsEncodable_iff, itemsShort_iff, List.forall_mem_map]
  exact ⟨⟨encodable_lit _, h⟩, ⟨encodable_lit _, encodable_lit _⟩, encodable_lit _,
    encodable_lit _, encodable_lit _, htexts⟩

/-- **The aggregate commits exactly complete, bound and semantically equal restarts**, whatever the
order of the three records of a case, and its result names exactly the cases that mismatch. -/
theorem aggregateCommit_exact :
    (∀ manifests caseRecords caseComparisons expectedCaseIds state,
      validateAggregateCommit manifests caseRecords caseComparisons expectedCaseIds = .ok state ↔
        state = .committed ∧
          Committable manifests caseRecords caseComparisons expectedCaseIds) ∧
    (∀ records others : List RestartSemanticRecord, records.Perm others →
      compareThreeRestarts records = compareThreeRestarts others) ∧
    (∀ repetitions comparisons result,
      deriveAggregateValidationResult repetitions comparisons = .ok result →
        result.invalidCaseIds = mismatchingCaseIds comparisons ∧
          (result.state = .comparison .invalidSemanticNonreproduction ∧
              result.invalidCaseIds ≠ [] ∨
            result.state = .bundle .committed ∧ result.invalidCaseIds = [])) ∧
    ∀ repetitions comparisons,
      deriveAggregateValidationResult repetitions comparisons ≠ .error
        (.value "semantic mismatch unexpectedly passed aggregate commit validation") := by
  refine ⟨?_, ?_, ?_, ?_⟩
  · intro manifests caseRecords caseComparisons expectedCaseIds state
    exact validateAggregateCommit_eq_ok
  · intro records others h
    exact compareThreeRestarts_perm h
  · intro repetitions comparisons result h
    exact deriveAggregateValidationResult_eq_ok h
  · intro repetitions comparisons h
    exact absurd (deriveAggregateValidationResult_isExpectedFailure _ h) (by decide)

end

/-! ## An experiment with one mismatch -/

section

attribute [local instance] cpython sampleTimestamps

/-- The manifest of a repetition with one file. -/
def sampleManifest (index : ℤ) : Stage2BundleManifest where
  repetitionIndex := index
  sourceCommit := List.replicate 40 97
  createdAtUtc := ()
  files := [{ path := lit "raw/a.json", sha256 := List.replicate 64 48, size := 3 }]
  reconstructionSha256 := List.replicate 64 48

/-- Three repetitions. -/
def sampleRepetitions : Stage2RepetitionAttestation × Stage2RepetitionAttestation ×
    Stage2RepetitionAttestation :=
  (⟨sampleManifest 1⟩, ⟨sampleManifest 2⟩, ⟨sampleManifest 3⟩)

/-- What a restart returned; the third one differs in the second case. -/
def sampleAttestation (caseId : Str) (index : ℤ) : Stage2RestartSemanticAttestation where
  repetitionIndex := index
  caseId := caseId
  sentPromptTokenIds := List.replicate 64 7
  returnedPromptTokenIds := List.replicate 64 7
  outputTokenIds :=
    if caseId = lit "stage2-case-v1-02" ∧ index = 3 then List.replicate 32 8
    else List.replicate 32 9
  finishReason := lit "length"
  promptTokens := 64
  completionTokens := 32
  totalTokens := 96
  outputTextSha256 := List.replicate 64 48
  repetitionManifestSha256 := (bundleManifestSha256 (sampleManifest index)).toOption.getD []

/-- The comparison of one case over the three repetitions. -/
def sampleCrossRestart (caseId : Str) : Stage2CrossRestartComparison where
  semanticRecords := (sampleAttestation caseId 1, sampleAttestation caseId 2,
    sampleAttestation caseId 3)
  comparison := compareWithBaseline (sampleAttestation caseId 1).asRestartRecord
    [(sampleAttestation caseId 2).asRestartRecord, (sampleAttestation caseId 3).asRestartRecord]

/-- The comparisons of all cases. -/
def sampleCrossRestarts : List Stage2CrossRestartComparison :=
  stage2ExperimentCaseIds.map sampleCrossRestart

theorem bundleManifestSha256_sampleManifest {index : ℤ} (h : index = 1 ∨ index = 2 ∨ index = 3) :
    bundleManifestSha256 (sampleManifest index) =
      .ok ((bundleManifestSha256 (sampleManifest index)).toOption.getD []) := by
  have hline : (sampleManifest index).line.isOk = true := by
    rcases h with rfl | rfl | rfl <;> decide +kernel
  rw [bundleManifestSha256]
  cases hcase : (sampleManifest index).line with
  | ok data => rfl
  | error e => simp [hcase, Except.isOk, Except.toBool] at hline

theorem reconstructed_sample : Reconstructed (repetitionManifests sampleRepetitions)
    (sampleCrossRestarts.map (·.records)) (sampleCrossRestarts.map (·.comparison))
    stage2ExperimentCaseIds where
  repetitions := rfl
  expected := by decide
  unique := stage2ExperimentCaseIds_ordered.2.1
  comparisonIds := by
    rw [sampleCrossRestarts, List.map_map, List.map_map]
    exact List.map_id _
  recordIds := by
    rw [sampleCrossRestarts, List.map_map, List.map_map]
    rfl
  complete := by
    simp only [sampleCrossRestarts, List.map_map, List.forall_mem_map]
    intro caseId _
    rfl
  original := by
    simp only [sampleCrossRestarts, List.map_map, List.forall_mem_map]
    intro caseId _
    simp [sampleCrossRestart, Stage2CrossRestartComparison.records,
      Stage2RestartSemanticAttestation.asRestartRecord]
  bound := by
    simp only [sampleCrossRestarts, List.map_map, List.forall_mem_map]
    intro caseId _ record hrecord
    -- each record of a case is one of the three restarts
    obtain ⟨index, hindex, rfl⟩ : ∃ index, (index = 1 ∨ index = 2 ∨ index = 3) ∧
        record = (sampleAttestation caseId index).asRestartRecord := by
      rcases List.mem_cons.mp hrecord with rfl | hrecord
      · exact ⟨1, .inl rfl, rfl⟩
      · rcases List.mem_cons.mp hrecord with rfl | hrecord
        · exact ⟨2, .inr (.inl rfl), rfl⟩
        · obtain rfl := List.mem_singleton.mp hrecord
          exact ⟨3, .inr (.inr rfl), rfl⟩
    refine ⟨sampleManifest index, ?_, rfl, bundleManifestSha256_sampleManifest hindex⟩
    rcases hindex with rfl | rfl | rfl <;> simp [repetitionManifests, sampleRepetitions]
  compared := by
    rw [sampleCrossRestarts, List.map_map, List.map_map, List.forall₂_map_left_iff,
      List.forall₂_map_right_iff, List.forall₂_same]
    intro caseId _
    refine (compareThreeRestarts_eq_ok rfl).mpr ⟨?_, _, _, rfl, rfl⟩
    simp [sampleCrossRestart, Stage2CrossRestartComparison.records,
      Stage2RestartSemanticAttestation.asRestartRecord]

theorem writable_sampleAttestation {caseId : Str} (hcase : IsEncodable caseId) {index : ℤ}
    (hindex : index = 1 ∨ index = 2 ∨ index = 3) :
    JsonEncodable (sampleAttestation caseId index).asRestartRecord.dump ∧
      intsShort (sampleAttestation caseId index).asRestartRecord.dump = true := by
  have hsmall : ∀ n : ℤ, n.natAbs < 100 → intsShort (.int n) = true := by
    intro n hn
    have hmax := pow_le_maxInt (show 2 ≤ 4300 by decide)
    rw [intsShort]
    exact decide_eq_true (by omega)
  -- the token ids are small numbers
  have htokens : ∀ (count : ℕ) (token : ℤ), token.natAbs < 100 →
      JsonEncodable (dumpTokenIds (List.replicate count token)) ∧
        intsShort (dumpTokenIds (List.replicate count token)) = true := by
    intro count token htoken
    rw [dumpTokenIds, List.map_replicate]
    refine ⟨itemsEncodable_iff.mpr fun item hitem => ?_, itemsShort_iff.mpr fun item hitem => ?_⟩
    · rw [List.eq_of_mem_replicate hitem]
      trivial
    · rw [List.eq_of_mem_replicate hitem]
      exact hsmall token htoken
  have hoctets : IsEncodable (List.replicate 64 48) := by
    intro c hc
    rw [List.eq_of_mem_replicate hc]
    decide
  have hdigest := (writable_of_bundleManifestSha256
    (bundleManifestSha256_sampleManifest hindex)).2.2
  have houtput : ∃ token : ℤ, token.natAbs < 100 ∧
      (sampleAttestation caseId index).asRestartRecord.outputTokenIds =
        List.replicate 32 token := by
    simp only [Stage2RestartSemanticAttestation.asRestartRecord, sampleAttestation]
    split_ifs
    · exact ⟨8, by decide, rfl⟩
    · exact ⟨9, by decide, rfl⟩
  obtain ⟨token, htoken, houtput⟩ := houtput
  rw [RestartSemanticRecord.dump, houtput, JsonEncodable, intsShort, fieldsEncodable_iff,
    fieldsShort_iff]
  -- field by field: the texts can be encoded ...
  simp only [List.forall_mem_cons, List.not_mem_nil, false_implies, implies_true, and_true]
  constructor
  · exact ⟨⟨encodable_lit _, trivial⟩, ⟨encodable_lit _, hdigest⟩, ⟨encodable_lit _, hcase⟩,
      ⟨encodable_lit _, (htokens 64 7 (by decide)).1⟩,
      ⟨encodable_lit _, (htokens 64 7 (by decide)).1⟩,
      ⟨encodable_lit _, (htokens 32 token htoken).1⟩, ⟨encodable_lit _, encodable_lit "length"⟩,
      ⟨encodable_lit _, trivial⟩, ⟨encodable_lit _, trivial⟩, ⟨encodable_lit _, trivial⟩,
      ⟨encodable_lit _, hoctets⟩, encodable_lit _, trivial⟩
  -- ... and the numbers are short
  · refine ⟨hsmall index ?_, rfl, rfl, (htokens 64 7 (by decide)).2,
      (htokens 64 7 (by decide)).2, (htokens 32 token htoken).2, rfl, hsmall 64 (by decide),
      hsmall 32 (by decide), hsmall 96 (by decide), rfl, rfl⟩
    rcases hindex with rfl | rfl | rfl <;> decide

/-- What the sample validates can be written. -/
theorem returns_validatedInput_sample : Returns (sha256Identity
    (validatedInput (repetitionManifests sampleRepetitions) sampleCrossRestarts)) := by
  -- each part of the input can be written: the manifests, the records and the comparisons
  have hmanifest : ∀ index : ℤ, index = 1 ∨ index = 2 ∨ index = 3 →
      JsonEncodable (sampleManifest index).dump ∧
        intsShort (sampleManifest index).dump = true := by
    intro index hindex
    obtain ⟨henc, hshort, -⟩ :=
      writable_of_bundleManifestSha256 (bundleManifestSha256_sampleManifest hindex)
    exact ⟨henc, hshort⟩
  have hrecords : ∀ caseId ∈ stage2ExperimentCaseIds,
      ∀ record ∈ (sampleCrossRestart caseId).records,
        JsonEncodable record.dump ∧ intsShort record.dump = true := by
    intro caseId hcase
    have hencodable := (stage2ExperimentCaseIds_ordered.1 caseId hcase).2.2
    simp only [Stage2CrossRestartComparison.records, List.forall_mem_cons, List.not_mem_nil,
      false_implies, implies_true, and_true]
    exact ⟨writable_sampleAttestation hencodable (.inl rfl),
      writable_sampleAttestation hencodable (.inr (.inl rfl)),
      writable_sampleAttestation hencodable (.inr (.inr rfl))⟩
  have hcomparison : ∀ caseId ∈ stage2ExperimentCaseIds,
      JsonEncodable (sampleCrossRestart caseId).comparison.dump ∧
        intsShort (sampleCrossRestart caseId).comparison.dump = true := by
    intro caseId hcase
    exact writable_compareWithBaseline (stage2ExperimentCaseIds_ordered.1 caseId hcase).2.2
  refine exists_sha256Identity_iff.mpr ⟨?_, ?_⟩
  · rw [validatedInput, JsonEncodable, fieldsEncodable_iff]
    simp only [List.forall_mem_cons, List.not_mem_nil, false_implies, implies_true, and_true,
      JsonEncodable, itemsEncodable_iff, List.forall_mem_map, sampleCrossRestarts,
      repetitionManifests, sampleRepetitions]
    exact ⟨⟨encodable_lit _, fun caseId hcase record hrecord =>
        (hrecords caseId hcase record hrecord).1⟩,
      ⟨encodable_lit _, fun caseId hcase => (hcomparison caseId hcase).1⟩,
      ⟨encodable_lit _, fun caseId hcase => (stage2ExperimentCaseIds_ordered.1 caseId hcase).2.2⟩,
      encodable_lit _, (hmanifest 1 (.inl rfl)).1, (hmanifest 2 (.inr (.inl rfl))).1,
      (hmanifest 3 (.inr (.inr rfl))).1⟩
  · rw [validatedInput, intsShort, fieldsShort_iff]
    simp only [List.forall_mem_cons, List.not_mem_nil, false_implies, implies_true, and_true,
      intsShort, itemsShort_iff, List.forall_mem_map, sampleCrossRestarts,
      repetitionManifests, sampleRepetitions]
    exact ⟨fun caseId hcase record hrecord => (hrecords caseId hcase record hrecord).2,
      fun caseId hcase => (hcomparison caseId hcase).2, trivial, (hmanifest 1 (.inl rfl)).2,
      (hmanifest 2 (.inr (.inl rfl))).2, (hmanifest 3 (.inr (.inr rfl))).2⟩

theorem aggregateCommit_exact_sample : ∃ result,
    deriveAggregateValidationResult sampleRepetitions sampleCrossRestarts = .ok result ∧
      result.state = .comparison .invalidSemanticNonreproduction ∧
      result.invalidCaseIds = [lit "stage2-case-v1-02"] := by
  obtain ⟨result, h⟩ := returns_deriveAggregateValidationResult_iff.mpr
    ⟨reconstructed_sample, returns_validatedInput_sample⟩
  have hmismatch : mismatchingCaseIds sampleCrossRestarts = [lit "stage2-case-v1-02"] := by
    decide +kernel
  obtain ⟨hids, hstate⟩ :=
    aggregateCommit_exact.2.2.1 sampleRepetitions sampleCrossRestarts result h
  rw [hmismatch] at hids
  rcases hstate with ⟨hstate, -⟩ | ⟨-, hnone⟩
  · exact ⟨result, h, hstate, hids⟩
  · simp [hids] at hnone

end

end Stage2
