import LlmInferenceSystems.Stage2.DrainedHistory

/-!
# The verdict on a probe is total

Every step of the verdict relies on what an earlier one checked: a window is not empty because the
contract says so, the observations are as many as the snapshots because their keys agree, and a
counter difference between two scrapes is derived because it was derived between all neighbours
from the one to the other. What remains is the identity of the probe, which the verdict writes into
every result: a text with a lone surrogate or a number of more than 4300 digits has none.

## Main definitions

* `CancellationProbe.Progressed`: the checks up to the progression of the counters
* `CancellationProbe.LateDerivations`: the counter differences derived after it

## Main results

* `Progressed.lateDerivations`: all of them are derived, and the second look at the finish reasons
  finds what the first one did
* `evaluateCancellation_returns_iff`: the verdict returns exactly on the probes that have an identity
-/

namespace Stage2

open Python

namespace CancellationProbe

/-! ## The counters of a history -/

theorem returns_failsOrRaises {check : Except PyError Bool}
    (h : RaisesOnly PyError.isPrometheusProtocol check) : Returns (failsOrRaises check) := by
  cases check with
  | error e =>
    rw [failsOrRaises, h e rfl]
    exact returns_ok true
  | ok fails => exact returns_ok fails

theorem returns_counterProgressionFails {snapshots : List PrometheusSnapshot}
    (h : ∀ snapshot ∈ snapshots, snapshot.Nonnegative) :
    Returns (counterProgressionFails snapshots) := by
  refine returns_failsOrRaises (RaisesOnly.map (RaisesOnly.each fun p hp => ?_))
  refine RaisesOnly.each fun selector _ => RaisesOnly.map ?_
  exact raisesOnly_deriveCounterDelta (h p.1 (List.of_mem_zip hp).1)

theorem returns_selectedCountersUnstable {snapshots : List PrometheusSnapshot}
    (h : ∀ snapshot ∈ snapshots, snapshot.Nonnegative) :
    Returns (selectedCountersUnstable snapshots) := by
  refine returns_failsOrRaises (RaisesOnly.anyOf fun check hcheck => ?_)
  obtain ⟨p, hp, hcheck⟩ := List.mem_flatMap.mp hcheck
  obtain ⟨selector, -, rfl⟩ := List.mem_map.mp hcheck
  exact RaisesOnly.map (raisesOnly_deriveCounterDelta (h p.1 (List.of_mem_zip hp).1))

theorem mem_selectors_of_reason {reason : Str} (h : reason ∈ reasons) :
    (requestSuccess, some reason) ∈ cancellationCounterSelectors :=
  List.mem_append_right _ (List.mem_map_of_mem h)

theorem mem_selectors_of_auxiliary {metric : Str} (h : metric ∈ auxiliaryMetrics) :
    (metric, none) ∈ cancellationCounterSelectors := by
  have hall : ∀ metric ∈ auxiliaryMetrics, (metric, none) ∈ cancellationCounterSelectors := by
    simp [auxiliaryMetrics, cancellationCounterSelectors]
  exact hall metric h

/-- Two scrapes between which every selected difference is derived. -/
def AllDerive (before after : PrometheusSnapshot) : Prop :=
  ∀ selector ∈ cancellationCounterSelectors,
    Returns (deriveCounterDelta before after selector.1 selector.2)

theorem AllDerive.reasonDeltas {before after : PrometheusSnapshot} (h : AllDerive before after) :
    Returns (reasonDeltas before after) :=
  Returns.collect fun _ hreason => h _ (mem_selectors_of_reason hreason)

/-! ## What was checked before the counters -/

/-- The checks of a probe up to the progression of its counters, all passed. -/
structure Progressed (probe : CancellationProbe) (externalAbort : RawLogRecord) : Prop where
  preLength : probe.preDispatchSnapshots.length = 10
  windows : probe.windowsFail externalAbort = .ok false
  progression : counterProgressionFails probe.chronological = .ok false

/-- The counter differences that are derived after the progression of the counters. -/
structure LateDerivations (probe : CancellationProbe) : Prop where
  pre : ∀ p ∈ neighbours probe.preDispatchSnapshots, AllDerive p.1 p.2
  stable : ∀ p ∈ neighbours probe.stableAndLater, AllDerive p.1 p.2
  retained : ∃ retained, probe.retainedReasonDeltas = .ok retained ∧ retained.length = 5
  reported : Returns probe.reportedDeltas
  /-- What the first look at the finish reasons did not reject, up to the last retained scrape, the
  second one does not, up to the end of the cooldown. -/
  second : ∀ retained, probe.retainedReasonDeltas = .ok retained →
    laterCompletion (reasons.zip (retained.map (·.delta))) = .ok false →
    selectedCountersUnstable probe.stableAndLater = .ok false →
    ∀ deltas, probe.reportedDeltas = .ok deltas →
      ∃ observed, reasonValues deltas.reasonDeltas = .ok observed ∧
        laterCompletion observed = .ok false

theorem stableAndLater_sublist {probe : CancellationProbe} {externalAbort : RawLogRecord}
    {drain₀ drain₁ stable₁ cooldown₀ cooldown₁ : PrometheusSnapshot}
    (h : probe.Windows externalAbort drain₀ drain₁ stable₁ cooldown₀ cooldown₁) :
    probe.stableAndLater.Sublist probe.chronological := by
  obtain ⟨stable, hstable⟩ := List.head?_eq_some_iff.mp h.firstStable
  obtain ⟨drain, hdrain⟩ := List.getLast?_eq_some_iff.mp h.lastDrain
  rw [stableAndLater, chronological, hstable, hdrain, List.tail_cons]
  simp only [List.append_assoc, List.cons_append, List.nil_append]
  exact (List.sublist_append_right _ _).trans (List.sublist_append_right _ _)

theorem forall_neighbours_of_pairwise {r : PrometheusSnapshot → PrometheusSnapshot → Prop}
    {snapshots : List PrometheusSnapshot} (h : snapshots.Pairwise r) :
    ∀ p ∈ neighbours snapshots, r p.1 p.2 :=
  forall_neighbours.mpr h.isChain

/-- **Every counter difference after the progression of the counters is derived**, and the second
look at the finish reasons finds what the first one did. -/
theorem Progressed.lateDerivations {probe : CancellationProbe} {externalAbort : RawLogRecord}
    (h : probe.Progressed externalAbort) : probe.LateDerivations := by
  obtain ⟨drain₀, drain₁, stable₁, cooldown₀, cooldown₁, hwindows⟩ := exists_windows h.windows
  have hall : probe.chronological.Pairwise AllDerive := by
    rw [List.pairwise_iff_forall_sublist]
    intro a b hab selector hselector
    exact returns_deriveCounterDelta_iff.mpr
      ((List.pairwise_iff_forall_sublist.mp (pairwise_derives h.progression hselector)) hab)
  have hpre : probe.preDispatchSnapshots ≠ [] := by
    intro hnil
    have hlength := h.preLength
    rw [hnil] at hlength
    simp at hlength
  obtain ⟨baseline, hbaseline⟩ := Returns.last hpre
  have hbaselineMem := List.mem_of_getLast? (last_eq_ok.mp hbaseline)
  -- a scrape before dispatch precedes all that follow
  have hafter : ∀ snapshot ∈ probe.cooldownSnapshots.tail ++ probe.laterRetainedSnapshots,
      AllDerive baseline snapshot := by
    intro snapshot hsnapshot
    rw [chronological, List.append_assoc, List.append_assoc, List.append_assoc,
      List.pairwise_append] at hall
    exact hall.2.2 baseline hbaselineMem snapshot
      (List.mem_append_right _ (List.mem_append_right _ hsnapshot))
  have hfinal := hafter cooldown₁ (List.mem_append_left _ hwindows.lastCooldown_mem_tail)
  have hlast : last probe.cooldownSnapshots = .ok cooldown₁ := last_eq_ok.mpr hwindows.lastCooldown
  obtain ⟨retainedFinal, hretainedFinal, hretainedMem⟩ : ∃ final,
      probe.lastRetainedSnapshot = .ok final ∧ final ∈ probe.cooldownSnapshots.tail ++
        probe.laterRetainedSnapshots := by
    unfold lastRetainedSnapshot
    split_ifs with hlater
    · exact ⟨cooldown₁, hlast, List.mem_append_left _ hwindows.lastCooldown_mem_tail⟩
    · obtain ⟨final, hfinal⟩ := Returns.last hlater
      exact ⟨final, hfinal, List.mem_append_right _ (List.mem_of_getLast? (last_eq_ok.mp hfinal))⟩
  obtain ⟨retained, hretained⟩ := (hafter retainedFinal hretainedMem).reasonDeltas
  have hretainedDeltas : probe.retainedReasonDeltas = .ok retained := by
    simp only [retainedReasonDeltas, bind_eq_ok]
    exact ⟨retainedFinal, hretainedFinal, baseline, hbaseline, hretained⟩
  obtain ⟨prompt, hprompt⟩ := hfinal (promptTokens, none) (by simp [cancellationCounterSelectors])
  obtain ⟨generation, hgeneration⟩ :=
    hfinal (generationTokens, none) (by simp [cancellationCounterSelectors])
  obtain ⟨reasonDeltas', hreasons⟩ := hfinal.reasonDeltas
  obtain ⟨auxiliary, hauxiliary⟩ : Returns (collect (fun metric =>
      deriveCounterDelta baseline cooldown₁ metric) auxiliaryMetrics) :=
    Returns.collect fun _ hmetric => hfinal _ (mem_selectors_of_auxiliary hmetric)
  have hreported : probe.reportedDeltas =
      .ok ⟨prompt, generation, reasonDeltas', auxiliary⟩ := by
    simp only [reportedDeltas, bind_eq_ok]
    exact ⟨baseline, hbaseline, cooldown₁, hlast, prompt, hprompt, generation, hgeneration,
      reasonDeltas', hreasons, auxiliary, hauxiliary, rfl⟩
  constructor
  case pre =>
    refine forall_neighbours_of_pairwise (hall.sublist ?_)
    rw [chronological, List.append_assoc, List.append_assoc, List.append_assoc]
    exact List.sublist_append_left _ _
  case stable =>
    exact forall_neighbours_of_pairwise (hall.sublist (stableAndLater_sublist hwindows))
  case retained => exact ⟨retained, hretainedDeltas, (collect_eq_ok.mp hretained).length_eq.symm⟩
  case reported => exact ⟨_, hreported⟩
  case second =>
    intro retained' hretained' hcompletion hunstable deltas hdeltas
    obtain rfl := Except.ok.inj (hretainedDeltas.symm.trans hretained')
    obtain rfl := Except.ok.inj (hreported.symm.trans hdeltas)
    refine ⟨_, reasonValues_of_reasonDeltas hreasons, ?_⟩
    -- the counters stand still from the end of the cooldown to the last retained scrape
    have hmem := mem_stableAndLater_of_lastRetained hretainedFinal hwindows.lastCooldown
      hwindows.lastCooldown_mem_tail
    have hmem' : cooldown₁ ∈ probe.stableAndLater := by
      simp [stableAndLater, hwindows.lastCooldown_mem_tail]
    have hsame : reasonDeltas'.map (·.delta) = retained.map (·.delta) := by
      rw [← List.forall₂_eq_eq_eq, List.forall₂_map_left_iff, List.forall₂_map_right_iff]
      refine forall₂_of_common (collect_eq_ok.mp hreasons) (collect_eq_ok.mp hretained) ?_
      intro reason hreason delta delta' hdelta hdelta'
      have hderived := deriveCounterDelta_eq_ok hdelta
      have hderived' := deriveCounterDelta_eq_ok hdelta'
      have hstill := eq_of_pairwise_eq (pairwise_of_selectedCounters hunstable
        (mem_selectors_of_reason hreason)) hmem' hmem
      have hbefore := Option.some.inj (hderived.before.symm.trans hderived'.before)
      have hend := Option.some.inj (hderived.after.symm.trans (hstill.trans hderived'.after))
      rw [hderived.difference, hderived'.difference, hbefore, hend]
    rw [hsame]
    exact hcompletion

end CancellationProbe

theorem raisesOnly_requireQuiescent {snapshot : PrometheusSnapshot} :
    RaisesOnly PyError.isPrometheusProtocol (requireQuiescent snapshot) := by
  refine RaisesOnly.each fun name _ => ?_
  split
  · next e he => exact raisesOnly_error (raisesOnly_selectExactSeries e he)
  · split_ifs
    · exact raisesOnly_error rfl
    · exact (returns_ok ()).raisesOnly

namespace CancellationProbe

theorem validate_acceptedResult {probe : CancellationProbe} {deltas : ReportedDeltas}
    {observed : List (Str × ℚ)} {identity : Str} {observedAbort : ℚ}
    (hreported : probe.reportedDeltas = .ok deltas)
    (hobserved : reasonValues deltas.reasonDeltas = .ok observed)
    (hcompletion : laterCompletion observed = .ok false)
    (habort : item observed abort = .ok observedAbort)
    (hprompt : deltas.promptDelta.delta = 64) (hgeneration : 1 ≤ deltas.generationDelta.delta)
    (hauxiliary : ∀ delta ∈ deltas.auxiliaryDeltas, delta.delta = 0) :
    (acceptedResult deltas identity observedAbort).validate =
      .ok (acceptedResult deltas identity observedAbort) := by
  -- the reported deltas are derived in this order: tokens, reasons, auxiliary counters
  simp only [reportedDeltas, bind_eq_ok] at hreported
  obtain ⟨baseline, -, final, -, prompt, hp, generation, hg, reasonDeltas', hr, auxiliary, ha,
    hdeltas⟩ := hreported
  obtain rfl := Except.ok.inj hdeltas
  obtain rfl := Except.ok.inj ((reasonValues_of_reasonDeltas hr).symm.trans hobserved)
  -- there are five reasons and three auxiliary counters
  have hlength : reasonDeltas'.length = 5 := (collect_eq_ok.mp hr).length_eq.symm
  have hmetrics : auxiliary.map (·.metric) = auxiliaryMetrics := by
    rw [← List.forall₂_eq_eq_eq, List.forall₂_map_left_iff]
    exact (collect_eq_ok.mp ha).flip.imp fun _ _ h => (deriveCounterDelta_eq_ok h).metric
  have hauxLength : auxiliary.length = 3 := by
    have := congrArg List.length hmetrics
    simpa [auxiliaryMetrics] using this
  have hamounts := amounts_of_laterCompletion hlength hcompletion
  -- each reason has the delta under its own label
  have hlabels : List.Forall₂ (fun reason (delta : CounterDelta) =>
      delta.labels.lookup (lit "finished_reason") = some reason) reasons reasonDeltas' := by
    refine (collect_eq_ok.mp hr).imp fun reason delta h => ?_
    rw [(deriveCounterDelta_eq_ok h).labels]
    exact lookup_finishedReason reason
  obtain ⟨a, b, c, d, e, rfl⟩ := exists_of_length_eq_five hlength
  simp only [reasons, completionReasons, List.forall₂_cons, List.forall₂_nil_right_iff]
    at hlabels hamounts
  obtain ⟨ha', hb', hc', hd', he', -⟩ := hlabels
  obtain ⟨haborts, hb, hc, hd, he, -⟩ := hamounts
  obtain rfl : a.delta = observedAbort := Except.ok.inj habort
  -- so the last delta with a label is the only one with it
  have hfind : ∀ reason, ([e, d, c, b, a].find? fun delta =>
        delta.labels.lookup (lit "finished_reason") = some reason) =
      if reason = lit "repetition" then some e else if reason = lit "error" then some d
      else if reason = lit "stop" then some c else if reason = lit "length" then some b
      else if reason = abort then some a else none := by
    intro reason
    simp only [List.find?_cons, List.find?_nil, ha', hb', hc', hd', he', Option.some.injEq,
      eq_comm (b := reason)]
    split_ifs <;> simp_all
  -- no other completion is counted, and the abort is counted at most once
  have hzero : ∀ reason ∈ completionReasons, (([a, b, c, d, e].reverse.find? fun delta =>
      delta.labels.lookup (lit "finished_reason") = some reason).map (·.delta)) = some 0 := by
    have value : ∀ {delta : CounterDelta} {reason : Str},
        (delta.delta = 0 ∨ reason = abort ∧ delta.delta = 1) → reason ≠ abort →
        delta.delta = 0 := fun h hne => h.resolve_right fun h => hne h.1
    simp only [completionReasons, List.forall_mem_cons, List.not_mem_nil, false_implies,
      implies_true, and_true]
    refine ⟨?_, ?_, ?_, ?_⟩
    · rw [show List.find? _ _ = some b from hfind _, Option.map_some, value hb (by decide)]
    · rw [show List.find? _ _ = some c from hfind _, Option.map_some, value hc (by decide)]
    · rw [show List.find? _ _ = some d from hfind _, Option.map_some, value hd (by decide)]
    · rw [show List.find? _ _ = some e from hfind _, Option.map_some, value he (by decide)]
  have habortValue : (([a, b, c, d, e].reverse.find? fun delta =>
      delta.labels.lookup (lit "finished_reason") = some abort).map (·.delta)) = some a.delta := by
    rw [show List.find? _ _ = some a from hfind _, Option.map_some]
  have honce : a.delta = 0 ∨ a.delta = 1 := haborts.imp_right And.right
  simp only [CancellationResult.validate, acceptedResult]
  -- the bounds of the model hold; what is left are the checks of the deltas
  rw [if_neg (by simp), if_neg (by simp [hauxLength]),
    if_neg (by simpa [or_iff_not_imp_left] using honce), if_neg,
    if_neg (by simp), if_neg (by simp)]
  rintro ⟨-, ⟨delta, hdelta, hnot⟩ | ⟨delta, hdelta, hnot⟩ | hnot | ⟨reason, hreason, hnot⟩ | hnot |
    ⟨delta, hdelta, hnot⟩⟩
  · obtain rfl := Option.some.inj hdelta
    exact hnot.elim (fun h => h (deriveCounterDelta_eq_ok hp).metric) fun h => h hprompt
  · obtain rfl := Option.some.inj hdelta
    exact hnot.elim (fun h => h (deriveCounterDelta_eq_ok hg).metric) fun h =>
      absurd hgeneration (not_le.mpr h)
  · exact hnot habortValue
  · exact hnot (hzero reason hreason)
  · exact hnot hmetrics
  · exact hnot (hauxiliary delta hdelta)

/-! ## The checks return -/

section

variable {probe : CancellationProbe}

theorem jsonEncodable_snapshot (h : JsonEncodable probe.dump) {snapshot : PrometheusSnapshot}
    (hsnapshot : snapshot ∈ probe.allSnapshots) : JsonEncodable snapshot.dump := by
  have hfields := fieldsEncodable_iff.mp h
  simp only [List.forall_mem_cons] at hfields
  obtain ⟨-, -, -, -, -, -, -, -, -, hpre, hdrain, hstable, hcooldown, hlater, -⟩ := hfields
  have hitems : ∀ list : List PrometheusSnapshot,
      JsonEncodable (.arr (list.map PrometheusSnapshot.dump)) →
      snapshot ∈ list → JsonEncodable snapshot.dump := fun list hlist hmem =>
    itemsEncodable_iff.mp hlist _ (List.mem_map_of_mem hmem)
  simp only [allSnapshots, List.mem_append] at hsnapshot
  rcases hsnapshot with (((hmem | hmem) | hmem) | hmem) | hmem
  · exact hitems _ hpre.2 hmem
  · exact hitems _ hdrain.2 hmem
  · exact hitems _ hstable.2 hmem
  · exact hitems _ hcooldown.2 hmem
  · exact hitems _ hlater.2 hmem

theorem encodable_inventory (h : JsonEncodable probe.dump) :
    IsEncodable probe.residualState.rawProcessInventory := by
  have hfields := fieldsEncodable_iff.mp h
  simp only [List.forall_mem_cons] at hfields
  obtain ⟨-, -, -, -, -, -, -, -, -, -, -, -, -, -, -, ⟨-, hresidual⟩, -⟩ := hfields
  have hstate := fieldsEncodable_iff.mp hresidual
  simp only [List.forall_mem_cons] at hstate
  exact hstate.2.1.2

theorem returns_preWindowFails (h : probe.preDispatchSnapshots ≠ []) :
    Returns probe.preWindowFails := by
  refine Returns.anyOf ?_
  simp only [List.forall_mem_cons, List.not_mem_nil, false_implies, implies_true, and_true]
  exact ⟨returns_ok _, returns_ok _, Returns.bind (Returns.last h) fun _ _ => returns_ok _⟩

theorem returns_quiescenceFails : Returns probe.quiescenceFails :=
  returns_failsOrRaises (RaisesOnly.map (RaisesOnly.each fun _ _ => raisesOnly_requireQuiescent))

/-- The lists whose ends the windows are measured at are not empty. -/
structure WindowsNonempty (probe : CancellationProbe) : Prop where
  drain : probe.drainSnapshots ≠ []
  stable : probe.stableGenerationSnapshots ≠ []
  cooldown : probe.cooldownSnapshots ≠ []
  drainObservations : probe.drainObservations ≠ []
  stableObservations : probe.stableObservations ≠ []
  cooldownObservations : probe.cooldownObservations ≠ []

theorem returns_windowsFail {externalAbort : RawLogRecord} (h : probe.WindowsNonempty) :
    Returns (probe.windowsFail externalAbort) := by
  have hfirst : ∀ {α : Type} {xs : List α} {b : α → Bool}, xs ≠ [] →
      Returns (do return b (← first xs)) := fun hxs =>
    Returns.bind (Returns.first hxs) fun _ _ => returns_ok _
  have hlast : ∀ {α : Type} {xs : List α} {b : α → Bool}, xs ≠ [] →
      Returns (do return b (← last xs)) := fun hxs =>
    Returns.bind (Returns.last hxs) fun _ _ => returns_ok _
  have hfirstLast : ∀ {α : Type} {xs ys : List α} {b : α → α → Bool}, xs ≠ [] → ys ≠ [] →
      Returns (do return b (← first xs) (← last ys)) := fun hxs hys =>
    Returns.bind (Returns.first hxs) fun _ _ => Returns.bind (Returns.last hys) fun _ _ =>
      returns_ok _
  have hlastFirst : ∀ {α : Type} {xs ys : List α} {b : α → α → Bool}, xs ≠ [] → ys ≠ [] →
      Returns (do return b (← last xs) (← first ys)) := fun hxs hys =>
    Returns.bind (Returns.last hxs) fun _ _ => Returns.bind (Returns.first hys) fun _ _ =>
      returns_ok _
  refine Returns.anyOf ?_
  simp only [List.forall_mem_cons, List.not_mem_nil, false_implies, implies_true, and_true]
  exact ⟨hfirst h.drain, hfirst h.drain, returns_ok _, returns_ok _,
    hfirstLast h.stable h.drain, hfirstLast h.stable h.drain,
    hfirstLast h.stableObservations h.drainObservations, hlastFirst h.stable h.stable,
    returns_ok _, hfirstLast h.cooldown h.stable,
    hfirstLast h.cooldownObservations h.stableObservations, hlastFirst h.cooldown h.cooldown,
    returns_ok _, hlast h.cooldown, hlast h.cooldown,
    Returns.anyOf fun check hcheck => by
      obtain ⟨snapshot, -, rfl⟩ := List.mem_map.mp hcheck
      exact hlast h.cooldown,
    returns_ok _⟩

theorem returns_generationMoves (h : probe.stableGenerationSnapshots ≠ []) :
    Returns (failsOrRaises probe.generationMoves) := by
  refine returns_failsOrRaises ?_
  refine RaisesOnly.bind (Returns.first h).raisesOnly fun stable _ => ?_
  refine RaisesOnly.bind raisesOnly_selectExactSeries fun value _ => ?_
  refine RaisesOnly.anyOf fun check hcheck => ?_
  obtain ⟨snapshot, -, rfl⟩ := List.mem_map.mp hcheck
  exact raisesOnly_selectExactSeries.map

/-- The finish reasons of five differences are all there to be looked up. -/
theorem returns_laterCompletion {amounts : List ℚ} (h : amounts.length = 5) :
    Returns (laterCompletion (reasons.zip amounts)) := by
  obtain ⟨a, b, c, d, e, rfl⟩ := exists_of_length_eq_five h
  refine Returns.anyOf ?_
  simp only [completionReasons, List.map_cons, List.map_nil, List.forall_mem_cons,
    List.not_mem_nil, false_implies, implies_true, and_true]
  exact ⟨⟨_, rfl⟩, ⟨_, rfl⟩, ⟨_, rfl⟩, ⟨_, rfl⟩, ⟨_, rfl⟩⟩

/-- The result of a probe that fails a check. -/
def invalidResult (classification : CancellationClassification) (identity : Str) :
    CancellationResult where
  classification := classification
  accepted := false
  evidenceIdentitySha256 := identity
  promptTokenDelta := none
  generationTokenDelta := none
  finishedReasonDeltas := []
  auxiliaryCounterDeltas := []
  observedAbortDelta := none

theorem validate_invalidResult {classification : CancellationClassification} {identity : Str}
    (hc : classification ≠ .serverAbortAcknowledgedAndDrained) :
    (invalidResult classification identity).validate =
      .ok (invalidResult classification identity) := by
  simp [CancellationResult.validate, invalidResult, hc]

end

section

variable [Interpreter] {probe : CancellationProbe}

theorem returns_invalidCancellation (hid : Returns (sha256Identity probe.dump))
    {classification : CancellationClassification}
    (hc : classification ≠ .serverAbortAcknowledgedAndDrained) :
    Returns (probe.invalidCancellation classification) := by
  obtain ⟨identity, hidentity⟩ := hid
  unfold invalidCancellation
  rw [hidentity]
  exact ⟨_, validate_invalidResult hc⟩

theorem returns_rejectIf (hid : Returns (sha256Identity probe.dump))
    {classification : CancellationClassification}
    (hc : classification ≠ .serverAbortAcknowledgedAndDrained) {check : Except PyError Bool}
    (hcheck : Returns check) {next : Except PyError CancellationResult}
    (hnext : check = .ok false → Returns next) :
    Returns (probe.rejectIf classification check next) := by
  obtain ⟨_ | _, rfl⟩ := hcheck
  · exact hnext rfl
  · exact returns_invalidCancellation hid hc

theorem returns_rejectIfRaises {α : Type} (hid : Returns (sha256Identity probe.dump))
    {classification : CancellationClassification}
    (hc : classification ≠ .serverAbortAcknowledgedAndDrained) {caught : PyError → Bool}
    {value : Except PyError α} (hvalue : RaisesOnly caught value)
    {next : α → Except PyError CancellationResult} (hnext : ∀ a, value = .ok a → Returns (next a)) :
    Returns (probe.rejectIfRaises classification caught value next) := by
  cases value with
  | error e =>
    rw [rejectIfRaises, hvalue e rfl]
    exact returns_invalidCancellation hid hc
  | ok a => exact hnext a rfl

theorem returns_identity_snapshot (hid : Returns (sha256Identity probe.dump))
    {snapshot : PrometheusSnapshot} (hsnapshot : snapshot ∈ probe.allSnapshots) :
    Returns (sha256Identity snapshot.dump) := by
  obtain ⟨hencodable, hshort⟩ := exists_sha256Identity_iff.mp hid
  obtain ⟨-, -, -, -, -, -, -, hoffsets, -⟩ := intsShort_dump.mp hshort
  exact exists_sha256Identity_iff.mpr ⟨jsonEncodable_snapshot hencodable hsnapshot,
    PrometheusSnapshot.intsShort_dump.mpr (hoffsets snapshot hsnapshot)⟩

/-- The keys expected of the observations are as many as the snapshots. -/
theorem length_expectedObservationKeys {expected : List (ScrapePhase × ℕ × Str)}
    (h : probe.expectedObservationKeys = .ok expected) :
    expected.length = probe.allSnapshots.length := by
  have hlength := (collect_eq_ok.mp h).length_eq
  rw [← hlength, ← flatMap_phaseSnapshots, List.length_flatMap, List.length_flatMap]
  simp

theorem returns_observationsDiffer (hid : Returns (sha256Identity probe.dump)) :
    Returns probe.observationsDiffer := by
  obtain ⟨expected, hexpected⟩ : Returns probe.expectedObservationKeys := by
    refine Returns.collect fun key hkey => ?_
    obtain ⟨phase, hphase, hkey⟩ := List.mem_flatMap.mp hkey
    obtain ⟨entry, hentry, rfl⟩ := List.mem_map.mp hkey
    have hmem : entry.1 ∈ probe.allSnapshots := by
      rw [← flatMap_phaseSnapshots]
      exact List.mem_flatMap.mpr ⟨phase, hphase, List.fst_mem_of_mem_zipIdx hentry⟩
    obtain ⟨identity, hidentity⟩ := returns_identity_snapshot hid hmem
    exact ⟨(phase.1, entry.2, identity), by rw [hidentity]; rfl⟩
  rw [observationsDiffer, hexpected]
  refine Returns.anyOf_cons (returns_ok _) fun hkeys => ?_
  have hkeys := not_not.mp (of_decide_eq_false (Except.ok.inj hkeys))
  have hlength : probe.scrapeObservations.length = probe.allSnapshots.length := by
    rw [← length_expectedObservationKeys hexpected, ← hkeys, List.length_map]
  refine Returns.anyOf_cons (Returns.anyZip hlength) fun _ => Returns.anyOf ?_
  simp only [List.forall_mem_cons, List.not_mem_nil, false_implies, implies_true, and_true]
  exact ⟨returns_ok _, returns_ok _⟩

theorem length_scrapeObservations (h : probe.observationsDiffer = .ok false) :
    probe.scrapeObservations.length = probe.allSnapshots.length := by
  unfold observationsDiffer at h
  split at h
  · simp at h
  · next expected hexpected =>
    simp only [anyOf_cons_eq_false, anyZip_eq_false] at h
    exact h.2.1.length_eq

theorem windowsNonempty (hdrain : probe.drainSnapshots ≠ [])
    (hstable : probe.stableGenerationSnapshots ≠ []) (hcooldown : probe.cooldownSnapshots ≠ [])
    (hobservations : probe.observationsDiffer = .ok false) : probe.WindowsNonempty := by
  have hlength := length_scrapeObservations hobservations
  simp only [allSnapshots, List.length_append] at hlength
  have hdrainPos := List.length_pos_iff.mpr hdrain
  have hstablePos := List.length_pos_iff.mpr hstable
  have hcooldownPos := List.length_pos_iff.mpr hcooldown
  refine ⟨hdrain, hstable, hcooldown, ?_, ?_, ?_⟩
  · rw [← List.length_pos_iff, drainObservations, List.length_take, List.length_drop]
    omega
  · rw [← List.length_pos_iff, stableObservations, List.length_take, List.length_drop]
    omega
  · rw [← List.length_pos_iff, cooldownObservations, List.length_take, List.length_drop]
    omega

theorem returns_residualStateFails (hid : Returns (sha256Identity probe.dump))
    (h : probe.cooldownSnapshots ≠ []) : Returns probe.residualStateFails := by
  have hencodable := encodable_inventory (exists_sha256Identity_iff.mp hid).1
  obtain ⟨encoded, hencoded⟩ := exists_utf8Encode hencodable
  have hlast : Returns probe.lastRetainedSnapshot := by
    unfold lastRetainedSnapshot
    split_ifs with hlater
    · exact Returns.last h
    · exact Returns.last hlater
  refine Returns.bind hlast fun final _ => Returns.anyOf ?_
  simp only [List.forall_mem_cons, List.not_mem_nil, false_implies, implies_true, and_true]
  exact ⟨by rw [hencoded]; exact returns_ok _, returns_ok _, returns_ok _, returns_ok _⟩

/-! ## The verdict returns -/

theorem returns_evaluateReported (hid : Returns (sha256Identity probe.dump))
    (hcooldown : probe.cooldownSnapshots ≠ []) {deltas : ReportedDeltas}
    (hreported : probe.reportedDeltas = .ok deltas) :
    Returns (probe.evaluateReported deltas) := by
  -- the deltas of the five reasons were derived
  have hreasons := hreported
  simp only [reportedDeltas, bind_eq_ok] at hreasons
  obtain ⟨baseline, -, final, -, prompt, -, generation, -, reasonDeltas', hreasons, auxiliary, -,
    hdeltas⟩ := hreasons
  have hsame : deltas.reasonDeltas = reasonDeltas' := by
    obtain rfl := Except.ok.inj hdeltas
    rfl
  have hlength : (reasonDeltas'.map (·.delta)).length = 5 := by
    rw [List.length_map]
    exact (collect_eq_ok.mp hreasons).length_eq.symm
  have hobserved := hsame ▸ reasonValues_of_reasonDeltas hreasons
  refine Returns.bind ⟨_, hobserved⟩ fun observed hobserved' => ?_
  -- the observed values are the reasons with their amounts
  have heq : observed = reasons.zip (reasonDeltas'.map (·.delta)) := by
    rw [hsame, reasonValues_of_reasonDeltas hreasons] at hobserved'
    exact (Except.ok.inj hobserved').symm
  refine returns_rejectIf hid (by decide) (heq ▸ returns_laterCompletion hlength) ?_
  intro hcompletion
  refine returns_rejectIf hid (by decide) (returns_ok _) fun hamounts => ?_
  refine returns_rejectIf hid (by decide) (returns_residualStateFails hid hcooldown) fun _ => ?_
  refine Returns.bind hid fun identity _ => ?_
  have habort : Returns (item observed abort) := by
    obtain ⟨a, tail, htail⟩ := List.exists_cons_of_length_eq_add_one hlength
    rw [heq, htail]
    exact ⟨a, rfl⟩
  refine Returns.bind habort fun observedAbort habort => ?_
  simp only [Except.ok.injEq, decide_eq_false_iff_not, not_or, not_not, not_lt, not_exists,
    not_and] at hamounts
  -- the result that is built passes its own validation
  exact ⟨_, validate_acceptedResult hreported hobserved' hcompletion habort hamounts.1
    hamounts.2.1 hamounts.2.2⟩

theorem returns_evaluateCounters (hid : Returns (sha256Identity probe.dump))
    (hnonnegative : ∀ snapshot ∈ probe.allSnapshots, snapshot.Nonnegative)
    (hnonempty : probe.WindowsNonempty) {externalAbort : RawLogRecord}
    (hpre : probe.preDispatchSnapshots.length = 10)
    (hwindows : probe.windowsFail externalAbort = .ok false) :
    Returns probe.evaluateCounters := by
  -- every snapshot of the windows is one of the probe's
  have hpreSub : ∀ snapshot ∈ probe.preDispatchSnapshots, snapshot.Nonnegative :=
    fun snapshot hmem => hnonnegative snapshot (by simp [allSnapshots, hmem])
  have hstableSub : ∀ snapshot ∈ probe.stableAndLater, snapshot.Nonnegative := by
    intro snapshot hmem
    obtain ⟨drain₀, drain₁, stable₁, cooldown₀, cooldown₁, hends⟩ := exists_windows hwindows
    exact hnonnegative snapshot (mem_allSnapshots_of_mem_chronological
      ((stableAndLater_sublist hends).subset hmem))
  -- none of the checks raises, each under what the earlier ones established
  refine returns_rejectIf hid (by decide) (Returns.anyOf_cons
    (returns_counterProgressionFails fun snapshot hmem =>
      hnonnegative snapshot (mem_allSnapshots_of_mem_chronological hmem))
    fun _ => Returns.anyOf_cons (returns_selectedCountersUnstable hpreSub)
      fun _ => Returns.anyOf (by simp)) ?_
  intro hchecks
  obtain ⟨hprogression, -⟩ := anyOf_cons_eq_false.mp hchecks
  -- once the counters progress, the late derivations succeed
  have hlate := Progressed.lateDerivations ⟨hpre, hwindows, hprogression⟩
  obtain ⟨retained, hretained, hlength⟩ := hlate.retained
  refine returns_rejectIfRaises hid (by decide)
    (Returns.raisesOnly ⟨retained, hretained⟩) fun retained' hretained' => ?_
  obtain rfl := Except.ok.inj (hretained.symm.trans hretained')
  refine returns_rejectIf hid (by decide)
    (returns_laterCompletion (by rw [List.length_map, hlength])) fun _ => ?_
  refine returns_rejectIf hid (by decide) (returns_selectedCountersUnstable hstableSub) fun _ => ?_
  refine returns_rejectIf hid (by decide) (returns_generationMoves hnonempty.stable) fun _ => ?_
  exact returns_rejectIfRaises hid (by decide) hlate.reported.raisesOnly fun deltas hdeltas =>
    returns_evaluateReported hid hnonempty.cooldown hdeltas

/-- The verdict returns on every valid probe that has an identity. -/
theorem returns_evaluateCancellation (hvalid : probe.Valid)
    (hid : Returns (sha256Identity probe.dump)) : Returns probe.evaluateCancellation := by
  have hnonnegative : ∀ snapshot ∈ probe.allSnapshots, snapshot.Nonnegative :=
    fun snapshot hmem => (hvalid.snapshots snapshot hmem).nonnegative
  have hpre : probe.preDispatchSnapshots ≠ [] :=
    List.ne_nil_of_length_pos (by rw [hvalid.pre]; decide)
  have hdrain : probe.drainSnapshots ≠ [] :=
    List.ne_nil_of_length_pos (by rw [hvalid.drain]; decide)
  have hstable : probe.stableGenerationSnapshots ≠ [] :=
    List.ne_nil_of_length_pos (Nat.lt_of_lt_of_le (by decide) hvalid.stable)
  have hcooldown : probe.cooldownSnapshots ≠ [] :=
    List.ne_nil_of_length_pos (Nat.lt_of_lt_of_le (by decide) hvalid.cooldown)
  refine returns_rejectIf hid (by decide) (returns_ok _) fun _ => ?_
  split
  · next externalAbort internalAbort _ _ =>
    refine returns_rejectIfRaises hid (by decide) raisesOnly_correlateRequestLogs fun chain _ => ?_
    refine returns_rejectIf hid (by decide) (returns_ok _) fun _ => ?_
    refine returns_rejectIf hid (by decide) (returns_ok _) fun _ => ?_
    refine returns_rejectIf hid (by decide) (returns_ok _) fun _ => ?_
    refine returns_rejectIf hid (by decide) (returns_ok _) fun _ => ?_
    refine returns_rejectIf hid (by decide) (returns_observationsDiffer hid) fun hobservations => ?_
    refine returns_rejectIf hid (by decide) (returns_preWindowFails hpre) fun _ => ?_
    refine returns_rejectIf hid (by decide) returns_quiescenceFails fun _ => ?_
    have hnonempty := windowsNonempty hdrain hstable hcooldown hobservations
    refine returns_rejectIf hid (by decide) (returns_windowsFail hnonempty) fun hwindows => ?_
    exact returns_evaluateCounters hid hnonnegative hnonempty hvalid.pre hwindows
  · exact returns_invalidCancellation hid (by decide)

end


section

variable [Interpreter] {probe : CancellationProbe}

/-! ## What the verdict returns -/

/-- What is returned is a valid result, and the probe has an identity. -/
def Sound (probe : CancellationProbe) (verdict : Except PyError CancellationResult) : Prop :=
  ∀ result, verdict = .ok result →
    Returns (sha256Identity probe.dump) ∧ result.validate = .ok result

theorem sound_validate {result : CancellationResult} (hid : Returns (sha256Identity probe.dump)) :
    probe.Sound result.validate := by
  intro result' h
  obtain rfl := validate_eq_ok h
  exact ⟨hid, h⟩

theorem sound_invalidCancellation {classification : CancellationClassification} :
    probe.Sound (probe.invalidCancellation classification) := by
  unfold invalidCancellation
  split
  · intro result h
    simp at h
  · next identity hidentity => exact sound_validate ⟨identity, hidentity⟩

theorem Sound.rejectIf {classification : CancellationClassification} {check : Except PyError Bool}
    {next : Except PyError CancellationResult} (h : probe.Sound next) :
    probe.Sound (probe.rejectIf classification check next) := by
  rcases check with e | (_ | _)
  · intro result hresult
    simp [CancellationProbe.rejectIf] at hresult
  · exact h
  · exact sound_invalidCancellation

theorem Sound.rejectIfRaises {α : Type} {classification : CancellationClassification}
    {caught : PyError → Bool} {value : Except PyError α}
    {next : α → Except PyError CancellationResult} (h : ∀ a, probe.Sound (next a)) :
    probe.Sound (probe.rejectIfRaises classification caught value next) := by
  cases value with
  | error e =>
    unfold CancellationProbe.rejectIfRaises
    dsimp only
    split_ifs
    · exact sound_invalidCancellation
    · intro result hresult
      simp at hresult
  | ok a => exact h a

theorem Sound.bind {α : Type} {call : Except PyError α}
    {next : α → Except PyError CancellationResult}
    (h : ∀ a, call = .ok a → probe.Sound (next a)) : probe.Sound (call >>= next) := by
  intro result hresult
  obtain ⟨a, ha, hnext⟩ := bind_eq_ok.mp hresult
  exact h a ha result hnext

theorem sound_evaluateReported {deltas : ReportedDeltas} :
    probe.Sound (probe.evaluateReported deltas) := by
  refine Sound.bind fun observed _ => ?_
  refine Sound.rejectIf (Sound.rejectIf (Sound.rejectIf ?_))
  refine Sound.bind fun identity hidentity => Sound.bind fun observedAbort _ => ?_
  exact sound_validate ⟨identity, hidentity⟩

theorem sound_evaluateCounters : probe.Sound probe.evaluateCounters := by
  refine Sound.rejectIf (Sound.rejectIfRaises fun retained => ?_)
  refine Sound.rejectIf (Sound.rejectIf (Sound.rejectIf ?_))
  exact Sound.rejectIfRaises fun deltas => sound_evaluateReported

theorem sound_evaluateCancellation : probe.Sound probe.evaluateCancellation := by
  refine Sound.rejectIf ?_
  split
  · refine Sound.rejectIfRaises fun chain => Sound.rejectIf (Sound.rejectIf ?_)
    unfold evaluateScrapes
    exact Sound.rejectIf (Sound.rejectIf (Sound.rejectIf (Sound.rejectIf (Sound.rejectIf
      (Sound.rejectIf sound_evaluateCounters)))))
  · exact sound_invalidCancellation

/-- **The verdict returns exactly on the probes that have an identity.** -/
theorem evaluateCancellation_returns_iff (hvalid : probe.Valid) :
    Returns probe.evaluateCancellation ↔ Returns (sha256Identity probe.dump) := by
  constructor
  · rintro ⟨result, hresult⟩
    exact (sound_evaluateCancellation result hresult).1
  · exact returns_evaluateCancellation hvalid

/-- **On every probe whose texts can be encoded and whose numbers can be written, the verdict returns
a valid result**, and every counter difference after the progression of the counters is derived. -/
theorem evaluateCancellation_safe (hvalid : probe.Valid) (hencodable : JsonEncodable probe.dump)
    (hshort : intsShort probe.dump = true) :
    (∃ result, probe.evaluateCancellation = .ok result ∧ result.validate = .ok result) ∧
      ∀ externalAbort, probe.Progressed externalAbort → probe.LateDerivations := by
  have hid : Returns (sha256Identity probe.dump) := exists_sha256Identity_iff.mpr
    ⟨hencodable, hshort⟩
  obtain ⟨result, hresult⟩ := returns_evaluateCancellation hvalid hid
  exact ⟨⟨result, hresult, (sound_evaluateCancellation result hresult).2⟩,
    fun externalAbort hprogressed => hprogressed.lateDerivations⟩

end

/-! ## A probe that names no request -/

section

attribute [local instance] cpython

theorem valid_sampleSnapshot {prompt generation : ℚ} (hprompt : 0 ≤ prompt)
    (hgeneration : 0 ≤ generation) (offset : ℕ) :
    (sampleSnapshot prompt generation offset).Valid := by
  refine ⟨(by decide : IsIdentifier (lit "p")), ?_, fun sample hsample => ?_⟩
  · show (utf8Encode ((sampleSeries prompt generation).flatMap expose)).map _ = _
    rw [utf8Encode_of_ascii (ascii_exposition prompt generation)]
    rfl
  · -- names and labels do not depend on what the series show
    have hclosed : ∀ p ∈ (sampleSeries 0 0).map fun sample => (sample.name, sample.labels),
        IsIdentifier p.1 ∧ (∀ label ∈ p.2, IsIdentifier label.1) ∧
          p.2.Pairwise (fun a b => strLe a.1 b.1 = true) ∧ (p.2.map (·.1)).Nodup := by
      decide +kernel
    have hsame : (sampleSeries prompt generation).map (fun sample => (sample.name, sample.labels)) =
        (sampleSeries 0 0).map fun sample => (sample.name, sample.labels) := rfl
    obtain ⟨hname, hlabels, hsorted, hnodup⟩ := hclosed (sample.name, sample.labels)
      (hsame ▸ List.mem_map.mpr ⟨sample, hsample, rfl⟩)
    refine ⟨hname, hlabels, ?_, hsorted, hnodup⟩
    have hvalues : ∀ value ∈ (sampleSeries prompt generation).map (·.value), 0 ≤ value := by
      simp [sampleSeries, series, hprompt, hgeneration]
    exact hvalues _ (List.mem_map_of_mem hsample)

theorem mem_ticks_valid {prompt generation : ℚ} (hprompt : 0 ≤ prompt)
    (hgeneration : 0 ≤ generation) {start n : ℕ} {snapshot : PrometheusSnapshot}
    (h : snapshot ∈ ticks prompt generation start n) : snapshot.Valid := by
  obtain ⟨i, -, rfl⟩ := List.mem_map.mp h
  exact valid_sampleSnapshot hprompt hgeneration _

/-- A probe with other requests still active. -/
def withActive (probe : CancellationProbe) (activeRequestIds : List Str) : CancellationProbe :=
  { probe with residualState := { probe.residualState with activeRequestIds } }

/-- A probe of valid scrapes that pass their checks is valid, whatever requests are still active. -/
theorem valid_sampleHistory {chain : RequestIdentityChain} {capture : RawLogCapture}
    {pre drain stable cooldown later : List PrometheusSnapshot} {due : ScrapePhase → ℕ → ℕ → ℕ}
    (hlog : ProbeLog chain capture)
    (hpass : (sampleHistory pre drain stable cooldown later due).ScrapesPass)
    (hsnapshots : ∀ snapshot ∈ (sampleHistory pre drain stable cooldown later due).allSnapshots,
      snapshot.Valid)
    (hstable : 2 ≤ stable.length) (hcooldown : 2 ≤ cooldown.length)
    (henough : 52 ≤ (sampleHistory pre drain stable cooldown later due).allSnapshots.length)
    (activeRequestIds : List Str) :
    (((sampleHistory pre drain stable cooldown later due).withLog chain capture).withActive
      activeRequestIds).Valid := by
  constructor
  case repetition => exact ⟨Nat.le_refl 1, (by decide : 1 ≤ 3)⟩
  case process => exact (by decide : IsIdentifier (lit "p"))
  case chain => exact hlog.validated
  case capture => exact hlog.valid
  case captureDigest =>
    obtain ⟨exact, -, hdigest⟩ := Option.map_eq_some_iff.mp hlog.valid.digest
    show IsSha256 capture.rawBytesSha256
    exact hdigest ▸ Interpreter.hexdigest_isSha256 exact
  case delivery =>
    exact ⟨(by decide : IsIdentifier (lit "a")), (by decide : IsIdentifier (lit "cmpl-a")),
      List.cons_ne_nil 1 []⟩
  case snapshots => exact hsnapshots
  case pre => exact hpass.preLength
  case drain => exact hpass.drainLength
  case stable => exact hstable
  case cooldown => exact hcooldown
  -- a scrape is sent, answered and hashed
  case observations =>
    intro observation hobservation
    have hobserved : observation ∈ (sampleHistory pre drain stable cooldown later
      due).scrapeObservations := hobservation
    obtain ⟨-, snapshot, hsnapshot, hsent, hanswered, hid⟩ := mem_observed hobserved
    obtain ⟨bytes, -, hidentity⟩ := exists_of_map_eq_ok (hpass.identity hsnapshot)
    refine ⟨hsent.ge, ?_, (hid.trans hidentity.symm) ▸ Interpreter.hexdigest_isSha256 bytes⟩
    exact hsent.le.trans (hpass.onTime observation hobserved)
  -- the observations are as many as the snapshots
  case enough =>
    have hlength := length_scrapeObservations (observationsDiffer_observed rfl hpass.onTime
      (fun _ => hpass.identity) hpass.sorted)
    exact henough.trans hlength.ge
  case residual => exact Interpreter.hexdigest_isSha256 []

theorem valid_sampleProbe {chain : RequestIdentityChain} {capture : RawLogCapture}
    (hlog : ProbeLog chain capture) (activeRequestIds : List Str) :
    ((sampleProbe chain capture 64).withActive activeRequestIds).Valid := by
  refine valid_sampleHistory hlog (scrapesPass_sampleScrapes (.inl rfl)) ?_ (by simp [ticks])
    (by simp [ticks]) (by simp [allSnapshots, sampleHistory, ticks]) activeRequestIds
  intro snapshot hsnapshot
  simp only [allSnapshots, sampleHistory, List.mem_append, List.mem_cons, List.not_mem_nil,
    or_false] at hsnapshot
  rcases hsnapshot with ((hmem | hmem) | hmem) | (rfl | hmem)
  · exact mem_ticks_valid (by decide) (by decide) hmem
  · exact mem_ticks_valid (by decide) (by decide) hmem
  · exact mem_ticks_valid (by decide) (by decide) hmem
  · exact valid_sampleSnapshot (by decide) (by decide) _
  · exact mem_ticks_valid (by decide) (by decide) hmem

theorem evaluateCancellation_safe_sample :
    ∃ probe : CancellationProbe,
      (∃ result, probe.evaluateCancellation = .ok result ∧ result.validate = .ok result) ∧
        ∀ externalAbort, probe.Progressed externalAbort → probe.LateDerivations := by
  obtain ⟨chain, capture, hlog⟩ := exists_probeLog
  obtain ⟨hencodable, hshort⟩ := exists_sha256Identity_iff.mp
    (exists_identity_sampleHistory hlog (scrapesPass_sampleScrapes (.inl rfl)))
  exact ⟨_, evaluateCancellation_safe (valid_sampleProbe hlog []) hencodable hshort⟩

/-- A request id that is a lone surrogate leaves the probe without an identity. -/
theorem exists_valid_not_evaluated :
    ∃ probe : CancellationProbe, probe.Valid ∧
      ∀ result, probe.evaluateCancellation ≠ .ok result := by
  obtain ⟨chain, capture, hlog⟩ := exists_probeLog
  have hvalid := valid_sampleProbe hlog [[0xD800]]
  refine ⟨_, hvalid, fun result hresult => ?_⟩
  have hid := (evaluateCancellation_returns_iff hvalid).mp ⟨result, hresult⟩
  have hfields := fieldsEncodable_iff.mp (exists_sha256Identity_iff.mp hid).1
  simp only [List.forall_mem_cons] at hfields
  obtain ⟨-, -, -, -, -, -, -, -, -, -, -, -, -, -, -, ⟨-, hresidual⟩, -⟩ := hfields
  have hstate := fieldsEncodable_iff.mp hresidual
  simp only [List.forall_mem_cons] at hstate
  have hids := itemsEncodable_iff.mp hstate.2.2.2.1.2
  exact absurd (hids (.str [0xD800]) (by simp [withActive]))
    (by decide : ¬ IsEncodable [0xD800])

end

end CancellationProbe

end Stage2
