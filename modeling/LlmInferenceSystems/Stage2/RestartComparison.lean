import Mathlib.Data.List.Dedup
import Mathlib.Data.Finset.Card
import Mathlib.Data.Finset.Dedup
import LlmInferenceSystems.Python.Checks
import LlmInferenceSystems.Stage2.BundleRecords

/-!
# The comparison of the three restarts

Each case is measured under three restarts of the server. The records of a case are compared field
by field with those of the first restart; the experiment is committed when every case is complete,
bound to the bundles of its repetitions and without a mismatch.

## Main definitions

* `RestartSemanticRecord`, `RestartComparison`: what a restart returned for a case, and the
  comparison of three
* `compareThreeRestarts`, `validateAggregateCommit`: the comparison and the gate of the commit
* `Committable`: what the gate stands for

## Main results

* `compareThreeRestarts_perm`: the comparison does not depend on the order of the records
* `validateAggregateCommit_eq_ok`: the gate opens exactly for committable restarts
-/

namespace Stage2

open Python

/-! ## Records and comparisons -/

/-- `RestartSemanticRecord` -/
structure RestartSemanticRecord where
  repetitionIndex : ℤ
  bundleManifestSha256 : Str
  caseId : Str
  sentPromptTokenIds : List ℤ
  returnedPromptTokenIds : List ℤ
  outputTokenIds : List ℤ
  finishReason : Str
  promptTokens : ℤ
  completionTokens : ℤ
  totalTokens : ℤ
  outputTextSha256 : Str
  replacementRun : Bool := false
deriving DecidableEq

/-- A tuple of numbers. -/
def dumpTokenIds (ids : List ℤ) : Json := .arr (ids.map .int)

/-- `model_dump` -/
def RestartSemanticRecord.dump (record : RestartSemanticRecord) : Json :=
  .obj [(lit "repetition_index", .int record.repetitionIndex),
    (lit "bundle_manifest_sha256", .str record.bundleManifestSha256),
    (lit "case_id", .str record.caseId),
    (lit "sent_prompt_token_ids", dumpTokenIds record.sentPromptTokenIds),
    (lit "returned_prompt_token_ids", dumpTokenIds record.returnedPromptTokenIds),
    (lit "output_token_ids", dumpTokenIds record.outputTokenIds),
    (lit "finish_reason", .str record.finishReason),
    (lit "prompt_tokens", .int record.promptTokens),
    (lit "completion_tokens", .int record.completionTokens),
    (lit "total_tokens", .int record.totalTokens),
    (lit "output_text_sha256", .str record.outputTextSha256),
    (lit "replacement_run", .bool record.replacementRun)]

/-- `AggregateComparisonState` -/
inductive AggregateComparisonState where
  | committed
  | invalidSemanticNonreproduction
deriving DecidableEq

/-- The value of a state. -/
def AggregateComparisonState.value : AggregateComparisonState → String
  | committed => "COMMITTED"
  | invalidSemanticNonreproduction => "INVALID_SEMANTIC_NONREPRODUCTION"

/-- A comparison, without the two fields that are always false. -/
structure RestartComparison where
  caseId : Str
  state : AggregateComparisonState
  mismatches : List Str
deriving DecidableEq

/-- `model_dump`, normalised -/
def RestartComparison.dump (comparison : RestartComparison) : Json :=
  .obj [(lit "case_id", .str comparison.caseId),
    (lit "state", .str (lit comparison.state.value)),
    (lit "pooled_performance_interpretation_allowed", .bool false),
    (lit "lis_obs_003_advancement_allowed", .bool false),
    (lit "mismatches", .arr (comparison.mismatches.map .str))]

/-! ## Three restarts -/

/-- A field that is compared: its name, and whether two records differ in it. -/
structure SemanticField where
  name : String
  differs : RestartSemanticRecord → RestartSemanticRecord → Bool

/-- The field that a function reads. -/
def SemanticField.of {α : Type} [DecidableEq α] (name : String)
    (read : RestartSemanticRecord → α) : SemanticField :=
  ⟨name, fun candidate baseline => read candidate != read baseline⟩

/-- `fields` -/
def semanticFields : List SemanticField :=
  [.of "case_id" (·.caseId),
    .of "sent_prompt_token_ids" (·.sentPromptTokenIds),
    .of "returned_prompt_token_ids" (·.returnedPromptTokenIds),
    .of "output_token_ids" (·.outputTokenIds),
    .of "finish_reason" (·.finishReason),
    .of "prompt_tokens" (·.promptTokens),
    .of "completion_tokens" (·.completionTokens),
    .of "total_tokens" (·.totalTokens),
    .of "output_text_sha256" (·.outputTextSha256)]

/-- `mismatches` -/
def semanticMismatches (baseline : RestartSemanticRecord)
    (candidates : List RestartSemanticRecord) : List Str :=
  candidates.flatMap fun candidate =>
    (semanticFields.filter fun field => field.differs candidate baseline).map fun field =>
      lit "restart-" ++ jsonInt candidate.repetitionIndex ++ lit ":" ++ lit field.name

/-- The comparison of the later restarts with the first. -/
def compareWithBaseline (baseline : RestartSemanticRecord)
    (candidates : List RestartSemanticRecord) : RestartComparison :=
  let mismatches := semanticMismatches baseline candidates
  { caseId := baseline.caseId
    state := if mismatches ≠ [] then .invalidSemanticNonreproduction else .committed
    mismatches := mismatches }

/-- `sorted(records, key=lambda record: record.repetition_index)` -/
def sortedRestarts (records : List RestartSemanticRecord) : List RestartSemanticRecord :=
  records.insertionSort fun a b => a.repetitionIndex ≤ b.repetitionIndex

/-- `compare_three_restarts` -/
def compareThreeRestarts (records : List RestartSemanticRecord) :
    Except PyError RestartComparison :=
  let indexes := (records.map (·.repetitionIndex)).toFinset
  if records.length ≠ 3 ∨ indexes ≠ {1, 2, 3} ∨ indexes.card ≠ 3 then
    .error (.stage2Control "exactly three non-replaceable restart records are required")
  else if ∃ record ∈ records, record.replacementRun = true then
    .error (.stage2Control "a fourth or replacement restart cannot be selected")
  else
    match sortedRestarts records with
    | [] => .error .index
    | baseline :: candidates => .ok (compareWithBaseline baseline candidates)

/-! ## The comparison -/

/-- Two restarts returned the same for a case. -/
structure SemanticallyEqual (a b : RestartSemanticRecord) : Prop where
  caseId : a.caseId = b.caseId
  sentPromptTokenIds : a.sentPromptTokenIds = b.sentPromptTokenIds
  returnedPromptTokenIds : a.returnedPromptTokenIds = b.returnedPromptTokenIds
  outputTokenIds : a.outputTokenIds = b.outputTokenIds
  finishReason : a.finishReason = b.finishReason
  promptTokens : a.promptTokens = b.promptTokens
  completionTokens : a.completionTokens = b.completionTokens
  totalTokens : a.totalTokens = b.totalTokens
  outputTextSha256 : a.outputTextSha256 = b.outputTextSha256

/-- Every two restarts agree. -/
def Agree (records : List RestartSemanticRecord) : Prop :=
  ∀ a ∈ records, ∀ b ∈ records, SemanticallyEqual a b

theorem SemanticField.differs_of {α : Type} [DecidableEq α] {name : String}
    {read : RestartSemanticRecord → α} {a b : RestartSemanticRecord} :
    (SemanticField.of name read).differs a b = false ↔ read a = read b := by
  simp [SemanticField.of]

/-- The nine fields are those that are compared. -/
theorem semanticallyEqual_iff {a b : RestartSemanticRecord} :
    SemanticallyEqual a b ↔ ∀ field ∈ semanticFields, field.differs a b = false := by
  simp only [semanticFields, List.forall_mem_cons, SemanticField.differs_of, List.not_mem_nil,
    false_implies, implies_true, and_true]
  constructor
  · rintro ⟨h₁, h₂, h₃, h₄, h₅, h₆, h₇, h₈, h₉⟩
    exact ⟨h₁, h₂, h₃, h₄, h₅, h₆, h₇, h₈, h₉⟩
  · rintro ⟨h₁, h₂, h₃, h₄, h₅, h₆, h₇, h₈, h₉⟩
    exact ⟨h₁, h₂, h₃, h₄, h₅, h₆, h₇, h₈, h₉⟩

instance (a b : RestartSemanticRecord) : Decidable (SemanticallyEqual a b) :=
  decidable_of_iff _ semanticallyEqual_iff.symm

theorem SemanticallyEqual.refl (a : RestartSemanticRecord) : SemanticallyEqual a a :=
  ⟨rfl, rfl, rfl, rfl, rfl, rfl, rfl, rfl, rfl⟩

theorem SemanticallyEqual.symm {a b : RestartSemanticRecord} (h : SemanticallyEqual a b) :
    SemanticallyEqual b a :=
  ⟨h.1.symm, h.2.symm, h.3.symm, h.4.symm, h.5.symm, h.6.symm, h.7.symm, h.8.symm, h.9.symm⟩

theorem SemanticallyEqual.trans {a b c : RestartSemanticRecord} (h : SemanticallyEqual a b)
    (h' : SemanticallyEqual b c) : SemanticallyEqual a c :=
  ⟨h.1.trans h'.1, h.2.trans h'.2, h.3.trans h'.3, h.4.trans h'.4, h.5.trans h'.5,
    h.6.trans h'.6, h.7.trans h'.7, h.8.trans h'.8, h.9.trans h'.9⟩

theorem semanticMismatches_eq_nil {baseline : RestartSemanticRecord}
    {candidates : List RestartSemanticRecord} :
    semanticMismatches baseline candidates = [] ↔
      ∀ candidate ∈ candidates, SemanticallyEqual candidate baseline := by
  simp only [semanticMismatches, List.flatMap_eq_nil_iff, List.map_eq_nil_iff,
    List.filter_eq_nil_iff, semanticallyEqual_iff, Bool.not_eq_true]

/-- **Agreement with the first restart is agreement of every two.** -/
theorem semanticMismatches_eq_nil_iff_agree {baseline : RestartSemanticRecord}
    {candidates : List RestartSemanticRecord} :
    semanticMismatches baseline candidates = [] ↔ Agree (baseline :: candidates) := by
  rw [semanticMismatches_eq_nil]
  constructor
  · intro h
    have hbaseline : ∀ a ∈ baseline :: candidates, SemanticallyEqual a baseline :=
      List.forall_mem_cons.mpr ⟨.refl baseline, h⟩
    intro a ha b hb
    exact (hbaseline a ha).trans (hbaseline b hb).symm
  · intro h candidate hcandidate
    exact h candidate (List.mem_cons_of_mem _ hcandidate) baseline List.mem_cons_self

theorem compareWithBaseline_state {baseline : RestartSemanticRecord}
    {candidates : List RestartSemanticRecord} :
    (compareWithBaseline baseline candidates).state = .committed ↔
      Agree (baseline :: candidates) := by
  rw [← semanticMismatches_eq_nil_iff_agree]
  dsimp only [compareWithBaseline]
  split_ifs with h
  · simp [h]
  · simpa using h

/-- Records in any order are compared in the order of their restarts. -/
theorem sortedRestarts_perm {records others : List RestartSemanticRecord}
    (hunique : (records.map (·.repetitionIndex)).Nodup) (h : records.Perm others) :
    sortedRestarts records = sortedRestarts others := by
  let le (a b : RestartSemanticRecord) : Prop := a.repetitionIndex ≤ b.repetitionIndex
  have : Std.Total le := ⟨fun a b => le_total a.repetitionIndex b.repetitionIndex⟩
  have : IsTrans RestartSemanticRecord le := ⟨fun _ _ _ => le_trans⟩
  have hperm : (sortedRestarts records).Perm (sortedRestarts others) :=
    (List.perm_insertionSort _ records).trans (h.trans (List.perm_insertionSort _ others).symm)
  refine List.Perm.eq_of_pairwise ?_ (List.pairwise_insertionSort le records)
    (List.pairwise_insertionSort le others) hperm
  -- the order of the indexes is antisymmetric on records whose indexes differ
  intro a b ha hb hab hba
  have ha : a ∈ records := (List.mem_insertionSort _).mp ha
  have hb : b ∈ records := h.mem_iff.mpr ((List.mem_insertionSort _).mp hb)
  exact List.inj_on_of_nodup_map hunique ha hb (le_antisymm hab hba)

/-- **The comparison does not depend on the order of the records.** -/
theorem compareThreeRestarts_perm {records others : List RestartSemanticRecord}
    (h : records.Perm others) : compareThreeRestarts records = compareThreeRestarts others := by
  have hindexes : (records.map (·.repetitionIndex)).toFinset =
      (others.map (·.repetitionIndex)).toFinset :=
    List.toFinset_eq_of_perm _ _ (h.map _)
  have hreplaced : (∃ record ∈ records, record.replacementRun = true) ↔
      ∃ record ∈ others, record.replacementRun = true := by
    simp only [h.mem_iff]
  unfold compareThreeRestarts
  simp only [h.length_eq, hindexes, hreplaced]
  split_ifs with hthree
  · rfl
  · rfl
  · have hunique : (records.map (·.repetitionIndex)).Nodup := by
      push Not at hthree
      have hcard : (records.map (·.repetitionIndex)).dedup.length =
          (records.map (·.repetitionIndex)).length := by
        rw [← List.card_toFinset, hindexes, List.length_map, h.length_eq, hthree.1, hthree.2.2]
      exact List.dedup_eq_self.mp ((List.dedup_sublist _).eq_of_length hcard)
    rw [sortedRestarts_perm hunique h]

/-- The comparison of three records that are in order. -/
theorem compareThreeRestarts_eq_ok {records : List RestartSemanticRecord}
    (h : records.map (·.repetitionIndex) = [1, 2, 3]) {comparison : RestartComparison} :
    compareThreeRestarts records = .ok comparison ↔
      (∀ record ∈ records, record.replacementRun = false) ∧
        ∃ baseline candidates, records = baseline :: candidates ∧
          comparison = compareWithBaseline baseline candidates := by
  -- -- the indexes increase, so sorting leaves the records as they are
  have hsorted : sortedRestarts records = records := by
    apply List.Pairwise.insertionSort_eq
    rw [← List.pairwise_map, h]
    decide
  have hlength : records.length = 3 := by
    simpa using congrArg List.length h
  unfold compareThreeRestarts
  rw [h, hsorted, if_neg (by rw [hlength]; decide)]
  split_ifs with hreplaced
  -- -- a replaced run is refused before anything is compared
  · obtain ⟨record, hrecord, hreplacement⟩ := hreplaced
    constructor
    · intro h
      cases h
    · rintro ⟨hnone, -⟩
      simp [hnone record hrecord] at hreplacement
  · push Not at hreplaced
    simp only [Bool.not_eq_true] at hreplaced
    cases records with
    | nil => simp at hlength
    | cons baseline candidates =>
      simp only [Except.ok.injEq, List.cons.injEq]
      constructor
      · rintro rfl
        exact ⟨hreplaced, baseline, candidates, ⟨rfl, rfl⟩, rfl⟩
      · rintro ⟨-, _, _, ⟨rfl, rfl⟩, rfl⟩
        rfl

/-- The restarts of the cases are compared without a mismatch exactly when they agree. -/
theorem passes_iff_agree {caseRecords : List (List RestartSemanticRecord)}
    {caseComparisons : List RestartComparison}
    (hcomplete : ∀ records ∈ caseRecords, records.map (·.repetitionIndex) = [1, 2, 3])
    (h : List.Forall₂ (fun records comparison => compareThreeRestarts records = .ok comparison)
      caseRecords caseComparisons) :
    (∀ comparison ∈ caseComparisons, comparison.state = .committed ∧ comparison.mismatches = []) ↔
      ∀ records ∈ caseRecords, Agree records := by
  induction h with
  | nil => simp
  | @cons records comparison _ _ hcompared _ ih =>
    obtain ⟨hfirst, hrest⟩ := List.forall_mem_cons.mp hcomplete
    obtain ⟨-, baseline, candidates, rfl, rfl⟩ := (compareThreeRestarts_eq_ok hfirst).mp hcompared
    have hpasses : (compareWithBaseline baseline candidates).state = .committed ∧
        (compareWithBaseline baseline candidates).mismatches = [] ↔
          Agree (baseline :: candidates) := by
      rw [compareWithBaseline_state]
      exact and_iff_left_of_imp semanticMismatches_eq_nil_iff_agree.mpr
    rw [List.forall_mem_cons, List.forall_mem_cons, ih hrest, hpasses]

/-- As many records as expected cases, none of them empty. -/
theorem filterMap_eq_and_length_iff {α β : Type} {f : α → Option β} {xs : List α} {ys : List β} :
    xs.filterMap f = ys ∧ xs.length = ys.length ↔ xs.map f = ys.map some := by
  induction xs generalizing ys with
  | nil =>
    cases ys <;> simp
  | cons x xs ih =>
    cases hx : f x with
    | none =>
      have hshort := List.length_filterMap_le f xs
      rw [List.filterMap_cons_none hx, List.map_cons, hx, List.length_cons]
      constructor
      · rintro ⟨rfl, hlength⟩
        omega
      · intro h
        cases ys <;> simp at h
    | some y =>
      rw [List.filterMap_cons_some hx, List.map_cons, hx]
      cases ys with
      | nil => simp
      | cons z ys => simp [← ih, and_assoc]

/-! ## The gate of the commit -/

/-- The records of a case do not carry the identities of their bundles. -/
def unbound (manifestIdentities : List (ℤ × Str)) (records : List RestartSemanticRecord) :
    Except PyError Bool :=
  anyOf (records.map fun record =>
    match manifestIdentities.lookup record.repetitionIndex with
    | none => .error .key
    | some identity => .ok (decide (record.bundleManifestSha256 ≠ identity)))

/-- The checks of the records of one case. -/
def validateCaseRecords (manifestIdentities : List (ℤ × Str))
    (records : List RestartSemanticRecord) : Except PyError Unit :=
  if records.map (·.repetitionIndex) ≠ [1, 2, 3] then
    .error (.stage2Control "case records require all three repetition identities")
  else
    unbound manifestIdentities records >>= fun differs =>
    if differs then
      .error (.stage2Control "case record is not bound to its repetition bundle")
    else .ok ()

theorem unbound_eq_false {identities : List (ℤ × Str)} {records : List RestartSemanticRecord} :
    unbound identities records = .ok false ↔ ∀ record ∈ records,
      identities.lookup record.repetitionIndex = some record.bundleManifestSha256 := by
  rw [unbound, anyOf_eq_false, List.forall_mem_map]
  refine forall₂_congr fun record _ => ?_
  split
  · next hnone => simp [hnone]
  · next identity hidentity =>
    rw [hidentity, Except.ok.injEq, decide_eq_false_iff_not, not_not, Option.some.injEq]
    exact eq_comm

theorem validateCaseRecords_eq_ok {identities : List (ℤ × Str)}
    {records : List RestartSemanticRecord} :
    validateCaseRecords identities records = .ok () ↔
      records.map (·.repetitionIndex) = [1, 2, 3] ∧ ∀ record ∈ records,
        identities.lookup record.repetitionIndex = some record.bundleManifestSha256 := by
  rw [← unbound_eq_false, validateCaseRecords]
  split_ifs with hindexes
  · simp [hindexes]
  · rw [bind_eq_ok]
    constructor
    · rintro ⟨differs, hdiffers, h⟩
      split_ifs at h with hcase
      rw [Bool.not_eq_true] at hcase
      exact ⟨not_not.mp hindexes, hcase ▸ hdiffers⟩
    · rintro ⟨-, hbound⟩
      exact ⟨false, hbound, rfl⟩

section

variable [Interpreter] [Timestamps]

/-- `bundle_manifest_sha256` -/
def bundleManifestSha256 (manifest : Stage2BundleManifest) : Except PyError Str :=
  manifest.line.map Interpreter.hexdigest

/-- An item of `manifest_identities`. -/
def manifestIdentity (manifest : Stage2BundleManifest) : Except PyError (ℤ × Str) :=
  (bundleManifestSha256 manifest).map fun identity => (manifest.repetitionIndex, identity)

/-- `validate_aggregate_commit`, up to the comparisons that the records give. -/
def reconstructComparisons (repetitionManifests : List Stage2BundleManifest)
    (caseRecords : List (List RestartSemanticRecord)) (caseComparisons : List RestartComparison)
    (expectedCaseIds : List Str) : Except PyError Unit :=
  if repetitionManifests.map (·.repetitionIndex) ≠ [1, 2, 3] then
    .error (.stage2Control "aggregate commit requires exactly three committed repetitions")
  else
    collect manifestIdentity repetitionManifests >>= fun manifestIdentities =>
    if expectedCaseIds = [] ∨ ¬ expectedCaseIds.Nodup ∨
        caseComparisons.map (·.caseId) ≠ expectedCaseIds ∨
        caseRecords.filterMap (fun records => records.head?.map (·.caseId)) ≠ expectedCaseIds ∨
        caseRecords.length ≠ expectedCaseIds.length then
      .error (.stage2Control "aggregate commit requires every expected case comparison")
    else
      each (validateCaseRecords manifestIdentities) caseRecords >>= fun () =>
      collect compareThreeRestarts caseRecords >>= fun reconstructed =>
      if reconstructed ≠ caseComparisons then
        .error (.stage2Control "semantic comparison does not reconstruct from bundle records")
      else .ok ()

/-- `validate_aggregate_commit` -/
def validateAggregateCommit (repetitionManifests : List Stage2BundleManifest)
    (caseRecords : List (List RestartSemanticRecord)) (caseComparisons : List RestartComparison)
    (expectedCaseIds : List Str) : Except PyError BundleState :=
  reconstructComparisons repetitionManifests caseRecords caseComparisons expectedCaseIds
    >>= fun () =>
  if ∃ comparison ∈ caseComparisons,
      comparison.state ≠ .committed ∨ comparison.mismatches ≠ [] then
    .error (.stage2Control "aggregate commit requires passing semantic comparison")
  else .ok .committed

/-! ## What the gate stands for -/

/-- Complete and bound restarts of every expected case, with the comparisons of their records. -/
structure Reconstructed (repetitionManifests : List Stage2BundleManifest)
    (caseRecords : List (List RestartSemanticRecord)) (caseComparisons : List RestartComparison)
    (expectedCaseIds : List Str) : Prop where
  repetitions : repetitionManifests.map (·.repetitionIndex) = [1, 2, 3]
  expected : expectedCaseIds ≠ []
  unique : expectedCaseIds.Nodup
  comparisonIds : caseComparisons.map (·.caseId) = expectedCaseIds
  recordIds : caseRecords.map (fun records => records.head?.map (·.caseId)) =
    expectedCaseIds.map some
  complete : ∀ records ∈ caseRecords, records.map (·.repetitionIndex) = [1, 2, 3]
  original : ∀ records ∈ caseRecords, ∀ record ∈ records, record.replacementRun = false
  bound : ∀ records ∈ caseRecords, ∀ record ∈ records, ∃ manifest ∈ repetitionManifests,
    manifest.repetitionIndex = record.repetitionIndex ∧
      bundleManifestSha256 manifest = .ok record.bundleManifestSha256
  compared : List.Forall₂ (fun records comparison => compareThreeRestarts records = .ok comparison)
    caseRecords caseComparisons

/-- **Complete, bound and semantically equal restarts** of every expected case. -/
structure Committable (repetitionManifests : List Stage2BundleManifest)
    (caseRecords : List (List RestartSemanticRecord)) (caseComparisons : List RestartComparison)
    (expectedCaseIds : List Str) : Prop
    extends Reconstructed repetitionManifests caseRecords caseComparisons expectedCaseIds where
  agree : ∀ records ∈ caseRecords, Agree records

/-- The identity of a repetition is that of its manifest. -/
theorem lookup_manifestIdentities {manifests : List Stage2BundleManifest}
    {identities : List (ℤ × Str)}
    (h : List.Forall₂ (fun manifest identity => manifestIdentity manifest = .ok identity)
      manifests identities)
    (hunique : (manifests.map (·.repetitionIndex)).Nodup) {index : ℤ} {digest : Str} :
    identities.lookup index = some digest ↔ ∃ manifest ∈ manifests,
      manifest.repetitionIndex = index ∧ bundleManifestSha256 manifest = .ok digest := by
  induction h with
  | nil => simp
  | @cons manifest identity manifests identities hfirst hrest ih =>
    obtain ⟨hnew, hunique⟩ := List.nodup_cons.mp hunique
    obtain ⟨first, hdigest, rfl⟩ := exists_of_map_eq_ok hfirst
    rw [List.lookup_cons]
    by_cases hindex : index = manifest.repetitionIndex
    · subst hindex
      have hother : ¬ ∃ other ∈ manifests, other.repetitionIndex = manifest.repetitionIndex ∧
          bundleManifestSha256 other = .ok digest := by
        rintro ⟨other, hother, hsame, -⟩
        exact hnew (List.mem_map.mpr ⟨other, hother, hsame⟩)
      simp [hdigest, hother]
    · have hne : manifest.repetitionIndex ≠ index := fun h => hindex h.symm
      rw [beq_false_of_ne hindex, ih hunique]
      simp [hne]

variable {manifests : List Stage2BundleManifest} {caseRecords : List (List RestartSemanticRecord)}
  {caseComparisons : List RestartComparison} {expectedCaseIds : List Str}

omit [Interpreter] in
theorem nodup_repetitionIndex (h : manifests.map (·.repetitionIndex) = [1, 2, 3]) :
    (manifests.map (·.repetitionIndex)).Nodup := by
  rw [h]
  decide

/-- A repetition to which a record is bound has an identity. -/
theorem Reconstructed.returns_manifestIdentity
    (h : Reconstructed manifests caseRecords caseComparisons expectedCaseIds)
    {manifest : Stage2BundleManifest} (hmanifest : manifest ∈ manifests) :
    Returns (manifestIdentity manifest) := by
  obtain ⟨records, hrecords⟩ : ∃ records, records ∈ caseRecords := by
    apply List.exists_mem_of_ne_nil
    rintro rfl
    exact h.expected (List.map_eq_nil_iff.mp h.recordIds.symm)
  have hindex : manifest.repetitionIndex ∈ records.map (·.repetitionIndex) := by
    rw [h.complete records hrecords, ← h.repetitions]
    exact List.mem_map_of_mem hmanifest
  obtain ⟨record, hrecord, hsame⟩ := List.mem_map.mp hindex
  obtain ⟨other, hother, hrepetition, hdigest⟩ := h.bound records hrecords record hrecord
  obtain rfl : other = manifest := List.inj_on_of_nodup_map
    (nodup_repetitionIndex h.repetitions) hother hmanifest (hrepetition.trans hsame)
  exact ⟨_, by rw [manifestIdentity, hdigest]; rfl⟩

/-- **What passes up to the last check.** -/
theorem reconstructComparisons_eq_ok :
    reconstructComparisons manifests caseRecords caseComparisons expectedCaseIds = .ok () ↔
      Reconstructed manifests caseRecords caseComparisons expectedCaseIds := by
  unfold reconstructComparisons
  -- -- the manifests are checked first, and decide alone
  by_cases hrepetitions : manifests.map (·.repetitionIndex) = [1, 2, 3]
  swap
  · rw [if_pos hrepetitions]
    constructor
    · intro h
      cases h
    · intro h
      exact absurd h.repetitions hrepetitions
  rw [if_neg (not_not.mpr hrepetitions), bind_eq_ok]
  have hindexes := nodup_repetitionIndex hrepetitions
  -- -- what the reconstruction passed, and what each loop over the records says of one
  constructor
  · rintro ⟨identities, hidentities, h⟩
    split at h
    · cases h
    next hcases =>
    obtain ⟨⟨⟩, hrecords, h⟩ := bind_eq_ok.mp h
    obtain ⟨reconstructed, hreconstructed, h⟩ := bind_eq_ok.mp h
    split at h
    · cases h
    next hcompared =>
    push Not at hcases hcompared
    subst hcompared
    obtain ⟨hexpected, hunique, hcomparisonIds, hrecordIds, hlength⟩ := hcases
    have hrecords := fun records hmem => validateCaseRecords_eq_ok.mp
      (each_eq_ok.mp hrecords records hmem)
    have hcompared := collect_eq_ok.mp hreconstructed
    refine ⟨hrepetitions, hexpected, hunique, hcomparisonIds,
      filterMap_eq_and_length_iff.mp ⟨hrecordIds, hlength⟩, fun records hmem =>
      (hrecords records hmem).1, ?_, ?_, hcompared⟩
    · intro records hmem
      obtain ⟨comparison, -, hcomparison⟩ := exists_of_forall₂_mem hcompared.flip hmem
      exact ((compareThreeRestarts_eq_ok (hrecords records hmem).1).mp hcomparison).1
    · intro records hmem record hrecord
      exact (lookup_manifestIdentities (collect_eq_ok.mp hidentities) hindexes).mp
        ((hrecords records hmem).2 record hrecord)
  -- -- back, every check is passed in the order of the source
  · intro h
    obtain ⟨identities, hidentities⟩ : Returns (collect manifestIdentity manifests) :=
      Returns.collect fun manifest hmanifest => h.returns_manifestIdentity hmanifest
    obtain ⟨hrecordIds, hlength⟩ := filterMap_eq_and_length_iff.mpr h.recordIds
    have hrecords : each (validateCaseRecords identities) caseRecords = .ok () := by
      apply each_eq_ok.mpr
      intro records hmem
      refine validateCaseRecords_eq_ok.mpr ⟨h.complete records hmem, ?_⟩
      intro record hrecord
      exact (lookup_manifestIdentities (collect_eq_ok.mp hidentities) hindexes).mpr
        (h.bound records hmem record hrecord)
    refine ⟨identities, hidentities, ?_⟩
    rw [if_neg (by simp [h.expected, h.unique, h.comparisonIds, hrecordIds, hlength])]
    refine bind_eq_ok.mpr ⟨(), hrecords, bind_eq_ok.mpr ⟨_, collect_eq_ok.mpr h.compared, ?_⟩⟩
    exact if_neg (not_not.mpr rfl)

/-- The failures that are not about a mismatch, by their messages. -/
def isOtherFailure (e : PyError) : Bool :=
  e ≠ .stage2Control "aggregate commit requires passing semantic comparison" ∧
    e ≠ .value "semantic mismatch unexpectedly passed aggregate commit validation"

omit [Timestamps] in
theorem encode_isOtherFailure {value : Json} :
    RaisesOnly isOtherFailure (PyValue.encode value) := by
  intro e he
  unfold PyValue.encode at he
  split at he
  · obtain rfl := Except.error.inj he
    rfl
  · split at he
    · obtain rfl := Except.error.inj he
      rfl
    · split at he
      · obtain rfl := Except.error.inj he
        rfl
      · cases he

/-- No check before the last one fails with its message. -/
theorem reconstructComparisons_isOtherFailure :
    RaisesOnly isOtherFailure
      (reconstructComparisons manifests caseRecords caseComparisons expectedCaseIds) := by
  -- -- the canonical encoding is all a manifest's identity can fail on
  have hidentity : ∀ manifest : Stage2BundleManifest,
      RaisesOnly isOtherFailure (manifestIdentity manifest) := fun manifest =>
    encode_isOtherFailure.map.map.map
  -- -- a case's records are refused, or looked up and compared
  have hrecords : ∀ identities records,
      RaisesOnly isOtherFailure (validateCaseRecords identities records) := by
    intro identities records
    unfold validateCaseRecords
    split
    · exact raisesOnly_error rfl
    · refine RaisesOnly.bind (RaisesOnly.anyOf ?_) fun differs _ => ?_
      · rw [List.forall_mem_map]
        intro record _
        split
        · exact raisesOnly_error rfl
        · exact (returns_ok _).raisesOnly
      · split
        · exact raisesOnly_error rfl
        · exact (returns_ok _).raisesOnly
  -- -- a comparison only refuses
  have hcompare : ∀ records, RaisesOnly isOtherFailure (compareThreeRestarts records) := by
    intro records
    unfold compareThreeRestarts
    dsimp only
    split
    · exact raisesOnly_error rfl
    · split
      · exact raisesOnly_error rfl
      · split
        · exact raisesOnly_error rfl
        · exact (returns_ok _).raisesOnly
  unfold reconstructComparisons
  split
  · exact raisesOnly_error rfl
  · refine RaisesOnly.bind (RaisesOnly.collect fun manifest _ => hidentity manifest)
      fun identities _ => ?_
    split
    · exact raisesOnly_error rfl
    · refine RaisesOnly.bind (RaisesOnly.each fun records _ => hrecords identities records)
        fun _ _ => RaisesOnly.bind (RaisesOnly.collect fun records _ => hcompare records)
        fun reconstructed _ => ?_
      split
      · exact raisesOnly_error rfl
      · exact (returns_ok _).raisesOnly

/-- **The message of the last check says that the comparisons are those of the records.** -/
theorem reconstructed_of_error
    (h : validateAggregateCommit manifests caseRecords caseComparisons expectedCaseIds =
      .error (.stage2Control "aggregate commit requires passing semantic comparison")) :
    Reconstructed manifests caseRecords caseComparisons expectedCaseIds := by
  rw [validateAggregateCommit] at h
  cases hreconstruct :
      reconstructComparisons manifests caseRecords caseComparisons expectedCaseIds with
  | ok => exact reconstructComparisons_eq_ok.mp hreconstruct
  | error e =>
    rw [hreconstruct] at h
    obtain rfl := Except.error.inj h
    exact absurd (reconstructComparisons_isOtherFailure _ hreconstruct) (by decide)

/-- **The gate opens exactly for committable restarts.** -/
theorem validateAggregateCommit_eq_ok {state : BundleState} :
    validateAggregateCommit manifests caseRecords caseComparisons expectedCaseIds = .ok state ↔
      state = .committed ∧ Committable manifests caseRecords caseComparisons expectedCaseIds := by
  rw [validateAggregateCommit, bind_eq_ok]
  constructor
  · rintro ⟨⟨⟩, hreconstructed, h⟩
    have hreconstructed := reconstructComparisons_eq_ok.mp hreconstructed
    split at h
    · cases h
    next hpassing =>
    push Not at hpassing
    refine ⟨(Except.ok.inj h).symm, hreconstructed, ?_⟩
    exact (passes_iff_agree hreconstructed.complete hreconstructed.compared).mp
      hpassing
  · rintro ⟨rfl, h⟩
    refine ⟨(), reconstructComparisons_eq_ok.mpr h.toReconstructed, ?_⟩
    have hpassing := (passes_iff_agree h.complete h.compared).mpr h.agree
    rw [if_neg]
    rintro ⟨comparison, hmem, hfails | hfails⟩
    · exact hfails (hpassing comparison hmem).1
    · exact hfails (hpassing comparison hmem).2

end

end Stage2
