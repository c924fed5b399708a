import LlmInferenceSystems.Errors
import LlmInferenceSystems.Stage1.Contracts
import LlmInferenceSystems.Stage1.FixtureTokens

/-!
# Inputs of a fixture run

The fixture declares for each case how many output tokens its actions deliver. The input check
parses the text of every token action and adds up the markers; the fixture's server counts openings
as it sends, and never parses.

## Main definitions

* `FixtureAction`, `FixtureServerCase`: what the server does for a case
* `validateStage1Inputs`: the check that a workload, a configuration and a fixture go together
* `executeCase`: the events the server records for a case

## Main results

* `serverTokens_eq_expected`: where the inputs are admitted, the server's counts add up to the
  declared count
* `fixtureTokens_agree`: the client and the server count alike
-/

namespace Stage1

open Python

/-- An action of the fixture, with the fields that `validate_action_shape` asks of its kind. -/
inductive FixtureAction where
  | sseComment (text : Str)
  | sseTokenEvent (text : Str)
  | sseMalformedData (text : Str)
  | sseDone
  | httpError (httpStatus : ℕ) (text : Str)
  | stall (stallSeconds : ℚ)
deriving DecidableEq

/-- The text of an action that delivers tokens. -/
def FixtureAction.tokenText : FixtureAction → Option Str
  | .sseTokenEvent text => some text
  | _ => none

/-- A case of the fixture with what its server reads. -/
structure FixtureServerCase extends FixtureCaseDefinition where
  maximumOutputTokens : ℕ
  expectedTerminalClass : Stage1TerminalClass
  actions : List FixtureAction
deriving DecidableEq

/-- A case of the workload with what it expects. -/
structure ExpectedCase extends Stage1WorkloadCase where
  prompt : Str
  expectedTerminalClass : Stage1TerminalClass
  expectedOutputTokenCount : ℕ

/-! ## The input check -/

/-- What `validate_stage1_inputs` is given, with the identities that `sha256_identity` returns. -/
structure Stage1Inputs where
  workloadIdentity : Except PyError Str
  fixtureIdentity : Except PyError Str
  /-- `configuration.workload_sha256` -/
  workloadSha256 : Str
  /-- `configuration.fixture_sha256` -/
  fixtureSha256 : Str
  warmupCase : ExpectedCase
  measuredCases : List ExpectedCase
  fixtureCases : List FixtureServerCase
  /-- `FixtureDefinition.validate_cases` -/
  uniqueCases : (fixtureCases.map (·.caseId)).Nodup

/-- A `FixtureTokenError` is a `ValueError`. -/
def parsedCount (tokens : Except FixtureTokenError (List Str)) : Except PyError ℕ :=
  match tokens with
  | .ok tokens => .ok tokens.length
  | .error error => .error (.value error.message)

/-- `token_total`, action by action -/
def tokenTotal : List FixtureAction → ℕ → Except PyError ℕ
  | [], total => .ok total
  | action :: actions, total =>
    match action.tokenText with
    | none => tokenTotal actions total
    | some text => do tokenTotal actions (total + (← parsedCount (parseOutputTokens text)))

/-- What `validate_stage1_inputs` checks of one case of the workload. -/
def validateCase (case : ExpectedCase) (fixtureCase : FixtureServerCase) : Except PyError Unit := do
  if fixtureCase.inputText ≠ case.prompt ∨
      fixtureCase.expectedTerminalClass ≠ case.expectedTerminalClass ∨
      fixtureCase.expectedOutputTokenCount ≠ case.expectedOutputTokenCount then
    .error (.value "workload expectations differ from the fixture definition")
  else if (← parsedCount (parseInputTokens case.prompt)) = 0 then
    .error (.value "fixture workload must contain exact synthetic input markers")
  else
    let total ← tokenTotal fixtureCase.actions 0
    if total ≠ fixtureCase.expectedOutputTokenCount then
      .error (.value "fixture action token total differs from its declared expectation")
    else if fixtureCase.maximumOutputTokens < total then
      .error (.value "fixture action token total exceeds maximum_output_tokens")
    else .ok ()

namespace Stage1Inputs

variable (inputs : Stage1Inputs)

/-- The cases the workload runs, the warm-up first. -/
def workloadCases : List ExpectedCase := inputs.warmupCase :: inputs.measuredCases

/-- `fixture_cases[case_id]`, of the dictionary of the cases by their ids -/
def fixtureCase (caseId : Str) : Except PyError FixtureServerCase :=
  match inputs.fixtureCases.find? fun case => case.caseId = caseId with
  | some case => .ok case
  | none => .error .key

/-- How many measured cases expect to end in this way. -/
def expecting (terminal : Stage1TerminalClass) : ℕ :=
  (inputs.measuredCases.map (·.expectedTerminalClass)).count terminal

/-- The checks of the cases, in the order of the workload. -/
def validateCases : List ExpectedCase → Except PyError Unit
  | [] => .ok ()
  | case :: cases => do
    validateCase case (← inputs.fixtureCase case.caseId)
    validateCases cases

/-- `validate_stage1_inputs` -/
def validateStage1Inputs : Except PyError Unit := do
  let workloadHash ← inputs.workloadIdentity
  let fixtureHash ← inputs.fixtureIdentity
  if inputs.workloadSha256 ≠ workloadHash then
    .error (.value "configuration workload identity does not match the workload")
  else if inputs.fixtureSha256 ≠ fixtureHash then
    .error (.value "configuration fixture identity does not match the fixture")
  else if ¬ ((∀ case ∈ inputs.fixtureCases, case.caseId ∈ inputs.workloadCases.map (·.caseId)) ∧
      ∀ case ∈ inputs.workloadCases, case.caseId ∈ inputs.fixtureCases.map (·.caseId)) then
    .error (.value "workload and fixture case sets differ")
  else
    inputs.validateCases inputs.workloadCases
    if inputs.expecting .success ≠ 5 then
      .error (.value "Stage 1 measured fixture must declare five successes")
    else if inputs.expecting .failed ≠ 2 then
      .error (.value "Stage 1 measured fixture must declare two non-timeout failures")
    else if inputs.expecting .timeout ≠ 1 then
      .error (.value "Stage 1 measured fixture must declare one timeout")
    else .ok ()

end Stage1Inputs

/-! ## The server -/

/-- The kinds of event that the server records while it answers. -/
inductive SentKind where
  | responseHeadersSent
  | sseCommentSent
  | sseTokenEventSent
  | sseMalformedDataSent
  | sseDoneSent
  | httpErrorSent
  | stallStarted
deriving DecidableEq

/-- A recorded event, without its place and time. -/
structure SentEvent where
  kind : SentKind
  actionIndex : Option ℕ := none
  tokenDeltaCount : Option ℕ := none
  httpStatus : Option ℕ := none
deriving DecidableEq

/-- The event of an action; `none` for the error that only a first action may send. -/
def sentEvent (index : ℕ) : FixtureAction → Option SentEvent
  | .sseComment _ => some ⟨.sseCommentSent, some index, none, none⟩
  | .sseTokenEvent text => some ⟨.sseTokenEventSent, some index, some (count (lit "<t") text), none⟩
  | .sseMalformedData _ => some ⟨.sseMalformedDataSent, some index, none, none⟩
  | .sseDone => some ⟨.sseDoneSent, some index, none, none⟩
  | .stall _ => some ⟨.stallStarted, some index, none, none⟩
  | .httpError _ _ => none

/-- The events from an action on, and whether the loop ends without the `RuntimeError`. -/
def sendActions : ℕ → List FixtureAction → List SentEvent × Bool
  | _, [] => ([], true)
  | index, action :: actions =>
    match sentEvent index action with
    | none => ([], false)
    | some event =>
      let sent := sendActions (index + 1) actions
      (event :: sent.1, sent.2)

/-- `_execute_case`: the recorded events, and whether it returns. -/
def executeCase (actions : List FixtureAction) : List SentEvent × Bool :=
  match actions with
  | .httpError httpStatus _ :: _ => ([⟨.httpErrorSent, some 0, none, some httpStatus⟩], true)
  | _ =>
    let sent := sendActions 0 actions
    (⟨.responseHeadersSent, none, none, some 200⟩ :: sent.1, sent.2)

/-- The tokens that the recorded events declare. -/
def declaredTokens (events : List SentEvent) : ℕ := (events.filterMap (·.tokenDeltaCount)).sum

/-- The server's counts for the token actions. -/
def serverTokenCounts (actions : List FixtureAction) : List ℕ :=
  (actions.filterMap (·.tokenText)).map (count (lit "<t"))

/-! ## The two counts -/

/-- The total of the input check is that of the server's counts. -/
theorem tokenTotal_eq_ok {actions : List FixtureAction} {total result : ℕ}
    (h : tokenTotal actions total = .ok result) :
    result = total + (serverTokenCounts actions).sum := by
  induction actions generalizing total with
  | nil => exact (Except.ok.inj h).symm
  | cons action actions ih =>
    rw [tokenTotal] at h
    cases htext : action.tokenText with
    | none =>
      rw [htext] at h
      have hcounts : serverTokenCounts (action :: actions) = serverTokenCounts actions := by
        rw [serverTokenCounts, List.filterMap_cons_none htext, serverTokenCounts]
      rw [hcounts]
      exact ih h
    | some text =>
      rw [htext] at h
      obtain ⟨parsed, hparsed, h⟩ := bind_eq_ok.mp h
      have hcounts : serverTokenCounts (action :: actions) =
          count (lit "<t") text :: serverTokenCounts actions := by
        rw [serverTokenCounts, List.filterMap_cons_some htext, List.map_cons, serverTokenCounts]
      -- a text that parses has as many openings as markers
      have hcount : parsed = count (lit "<t") text := by
        unfold parsedCount at hparsed
        split at hparsed
        · next tokens htokens =>
          rw [count_of_parseOutputTokens htokens]
          exact (Except.ok.inj hparsed).symm
        · cases hparsed
      rw [ih h, hcounts, List.sum_cons, hcount, Nat.add_assoc]

theorem validateCase_eq_ok {case : ExpectedCase} {fixtureCase : FixtureServerCase}
    (h : validateCase case fixtureCase = .ok ()) :
    (serverTokenCounts fixtureCase.actions).sum = fixtureCase.expectedOutputTokenCount := by
  unfold validateCase at h
  split at h
  · cases h
  · obtain ⟨prompts, -, h⟩ := bind_eq_ok.mp h
    split at h
    · cases h
    · obtain ⟨total, htotal, h⟩ := bind_eq_ok.mp h
      split at h
      · cases h
      · next heq =>
        have := tokenTotal_eq_ok htotal
        rw [not_not] at heq
        omega

namespace Stage1Inputs

variable {inputs : Stage1Inputs}

/-- Each case that is checked has its fixture case. -/
theorem validateCases_eq_ok {cases : List ExpectedCase} (h : inputs.validateCases cases = .ok ()) :
    ∀ case ∈ cases, ∃ fixtureCase, inputs.fixtureCase case.caseId = .ok fixtureCase ∧
      validateCase case fixtureCase = .ok () := by
  induction cases with
  | nil =>
    intro case hcase
    cases hcase
  | cons first rest ih =>
    rw [validateCases] at h
    obtain ⟨fixtureCase, hcase, h⟩ := bind_eq_ok.mp h
    obtain ⟨⟨⟩, hfirst, hrest⟩ := bind_eq_ok.mp h
    exact List.forall_mem_cons.mpr ⟨⟨fixtureCase, hcase, hfirst⟩, ih hrest⟩

/-- A case is looked up by its id, which no other has. -/
theorem fixtureCase_eq_ok {fixtureCase : FixtureServerCase}
    (hmem : fixtureCase ∈ inputs.fixtureCases) :
    inputs.fixtureCase fixtureCase.caseId = .ok fixtureCase := by
  unfold Stage1Inputs.fixtureCase
  split
  · next found hfound =>
    have hid : found.caseId = fixtureCase.caseId := by simpa using List.find?_some hfound
    rw [List.inj_on_of_nodup_map inputs.uniqueCases (List.mem_of_find?_eq_some hfound) hmem hid]
  · next hnone =>
    have := List.find?_eq_none.mp hnone fixtureCase hmem
    simp at this

/-- **Where the inputs are admitted, the server's counts add up to the declared count.** -/
theorem serverTokens_eq_expected (h : inputs.validateStage1Inputs = .ok ())
    {fixtureCase : FixtureServerCase} (hmem : fixtureCase ∈ inputs.fixtureCases) :
    (serverTokenCounts fixtureCase.actions).sum = fixtureCase.expectedOutputTokenCount := by
  unfold validateStage1Inputs at h
  obtain ⟨workloadHash, -, h⟩ := bind_eq_ok.mp h
  obtain ⟨fixtureHash, -, h⟩ := bind_eq_ok.mp h
  split at h
  · cases h
  · split at h
    · cases h
    · split at h
      · cases h
      · next hsets =>
        obtain ⟨⟨⟩, hcases, -⟩ := bind_eq_ok.mp h
        rw [not_not] at hsets
        obtain ⟨case, hcase, hid⟩ := List.mem_map.mp (hsets.1 fixtureCase hmem)
        obtain ⟨found, hfound, hvalid⟩ := validateCases_eq_ok hcases case hcase
        rw [hid, fixtureCase_eq_ok hmem] at hfound
        obtain rfl := Except.ok.inj hfound
        exact validateCase_eq_ok hvalid

end Stage1Inputs

/-- Without an error among its actions, the loop sends all of them. -/
theorem sendActions_eq {actions : List FixtureAction}
    (h : ∀ status text, .httpError status text ∉ actions) (index : ℕ) :
    (sendActions index actions).2 = true ∧
      (sendActions index actions).1.filterMap (·.tokenDeltaCount) = serverTokenCounts actions := by
  induction actions generalizing index with
  | nil => exact ⟨rfl, rfl⟩
  | cons action actions ih =>
    have hrest := ih (fun status text hmem => h status text (List.mem_cons_of_mem _ hmem))
      (index + 1)
    cases action with
    | httpError status text => exact absurd (by simp) (h status text)
    | sseTokenEvent text =>
      refine ⟨hrest.1, ?_⟩
      show count (lit "<t") text :: _ = count (lit "<t") text :: _
      rw [hrest.2, serverTokenCounts]
    | sseComment text => exact hrest
    | sseMalformedData text => exact hrest
    | sseDone => exact hrest
    | stall seconds => exact hrest

theorem declaredTokens_executeCase {actions : List FixtureAction}
    (h : ∀ status text, .httpError status text ∉ actions) :
    (executeCase actions).2 = true ∧
      declaredTokens (executeCase actions).1 = (serverTokenCounts actions).sum := by
  have hsent := sendActions_eq h 0
  have hexecute : executeCase actions =
      (⟨.responseHeadersSent, none, none, some 200⟩ :: (sendActions 0 actions).1,
        (sendActions 0 actions).2) := by
    unfold executeCase
    split
    · next status text _ => exact absurd (by simp) (h status text)
    · rfl
  rw [hexecute, declaredTokens, List.filterMap_cons_none rfl, hsent.2]
  exact ⟨hsent.1, rfl⟩

/-- **The client and the server count alike.** The parser takes exactly the texts made of markers,
and a text after another on its own; the server finds as many openings in a text as the parser finds
markers; and where the inputs are admitted, what the server counts for the token actions of a case,
and what it records when it sends them, is the declared count. -/
theorem fixtureTokens_agree :
    (∀ text tokens, parseOutputTokens text = .ok tokens ↔
      tokens ≠ [] ∧ (∀ token ∈ tokens, IsMarker "t" token) ∧ tokens.flatten = text) ∧
    (∀ text, (∃ tokens, parseOutputTokens text = .ok tokens) ↔
      ∃ tokens : List Str, tokens ≠ [] ∧ (∀ token ∈ tokens, IsMarker "t" token) ∧
        tokens.flatten = text) ∧
    (∀ u v us vs, parseOutputTokens u = .ok us → parseOutputTokens v = .ok vs →
      parseOutputTokens (u ++ v) = .ok (us ++ vs)) ∧
    (∀ text tokens, parseOutputTokens text = .ok tokens →
      count (lit "<t") text = tokens.length) ∧
    ∀ inputs : Stage1Inputs, inputs.validateStage1Inputs = .ok () →
      ∀ fixtureCase ∈ inputs.fixtureCases,
        (serverTokenCounts fixtureCase.actions).sum = fixtureCase.expectedOutputTokenCount ∧
        ((∀ status text, .httpError status text ∉ fixtureCase.actions) →
          (executeCase fixtureCase.actions).2 = true ∧
            declaredTokens (executeCase fixtureCase.actions).1 =
              fixtureCase.expectedOutputTokenCount) := by
  refine ⟨fun _ _ => parseTokens_eq_ok, fun _ => exists_congr fun _ => parseTokens_eq_ok,
    fun _ _ _ _ => parseTokens_append, fun _ _ => count_of_parseOutputTokens, ?_⟩
  intro inputs hinputs fixtureCase hmem
  have hsum := inputs.serverTokens_eq_expected hinputs hmem
  refine ⟨hsum, fun hactions => ?_⟩
  rw [← hsum]
  exact declaredTokens_executeCase hactions

/-! ## Inputs that are admitted -/

/-- A case of the sample with what its server does. -/
def sampleServerCase (index : ℕ) (terminal : Stage1TerminalClass) (tokens : ℕ)
    (actions : List FixtureAction) : FixtureServerCase where
  caseId := lit "case-" ++ decimal index
  inputText := lit "<p001>"
  expectedOutputTokenCount := tokens
  maximumOutputTokens := 4
  expectedTerminalClass := terminal
  actions := actions

/-- The first six cases succeed, then one breaks off, one is refused and one times out. -/
def sampleServerCases : List FixtureServerCase :=
  (List.range 6).map (fun index => sampleServerCase index .success 3
    [.sseTokenEvent (lit "<t001>"), .sseTokenEvent (lit "<t002><t003>"), .sseDone]) ++
  [sampleServerCase 6 .failed 1 [.sseTokenEvent (lit "<t001>"), .sseMalformedData (lit "bad")],
    sampleServerCase 7 .failed 0 [.httpError 503 (lit "busy")],
    sampleServerCase 8 .timeout 2 [.sseTokenEvent (lit "<t001><t002>"), .stall 9]]

/-- The case of the workload that expects what the server does. -/
def FixtureServerCase.expected (case : FixtureServerCase) : ExpectedCase where
  caseId := case.caseId
  prompt := case.inputText
  expectedTerminalClass := case.expectedTerminalClass
  expectedOutputTokenCount := case.expectedOutputTokenCount

theorem nodup_sampleServerCases : (sampleServerCases.map (·.caseId)).Nodup := by decide +kernel

/-- Inputs whose cases are those of the sample server. -/
def sampleInputs : Stage1Inputs where
  workloadIdentity := .ok (lit "w")
  fixtureIdentity := .ok (lit "f")
  workloadSha256 := lit "w"
  fixtureSha256 := lit "f"
  warmupCase := (sampleServerCase 0 .success 3 []).expected
  measuredCases := sampleServerCases.tail.map FixtureServerCase.expected
  fixtureCases := sampleServerCases
  uniqueCases := nodup_sampleServerCases

/-- The sample is admitted, so that its server counts what it declares. -/
theorem fixtureTokens_agree_sampleInputs :
    sampleInputs.validateStage1Inputs = .ok () ∧
      ∀ fixtureCase ∈ sampleInputs.fixtureCases,
        (serverTokenCounts fixtureCase.actions).sum = fixtureCase.expectedOutputTokenCount ∧
        ((∀ status text, .httpError status text ∉ fixtureCase.actions) →
          (executeCase fixtureCase.actions).2 = true ∧
            declaredTokens (executeCase fixtureCase.actions).1 =
              fixtureCase.expectedOutputTokenCount) := by
  have hadmitted : sampleInputs.validateStage1Inputs = .ok () := by decide +kernel
  exact ⟨hadmitted, fixtureTokens_agree.2.2.2.2 sampleInputs hadmitted⟩

end Stage1
