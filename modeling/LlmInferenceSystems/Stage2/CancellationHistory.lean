import LlmInferenceSystems.Stage2.Cancellation
import LlmInferenceSystems.Stage2.CounterDeltas

/-!
# What the verdict on a probe checks

The checks of an accepted probe, collected, and what they say about whole lists of scrapes: what was
checked between neighbours holds along the list, the phases follow each other, and the differences
the verdict reports are those up to the last scrape retained.

## Main definitions

* `Accepted`: what the verdict checked
* `Advances`: a counter between an earlier and a later scrape
* `Windows`: the ends of the phases
* `Reported`: the differences of a result

## Main results

* `evaluateCancellation_accepted_iff`: when a probe is accepted
* `pairwise_of_counterProgression`, `pairwise_of_selectedCounters`: counters along a list
* `Accepted.reported`: the reported differences are those up to the last scrape retained
-/

namespace Stage2

open Python

namespace CancellationProbe

/-! ## Counters along a history -/

theorem failsOrRaises_eq_false {check : Except PyError Bool} :
    failsOrRaises check = .ok false ↔ check = .ok false := by
  cases check with
  | error e => cases he : e.isPrometheusProtocol <;> simp [failsOrRaises, he]
  | ok fails => simp [failsOrRaises]

/-- Of two scrapes of one process, the later one shows at least as much of each counter. -/
def Advances (selector : Str × Option Str) (a b : PrometheusSnapshot) : Prop :=
  a.scrapeMonotonicOffsetNs < b.scrapeMonotonicOffsetNs ∧
    ∃ x y, counterValue a selector = some x ∧ counterValue b selector = some y ∧ x ≤ y

theorem advances_of_derives {selector : Str × Option Str} {a b : PrometheusSnapshot}
    (h : Derives a b selector) : Advances selector a b := by
  obtain ⟨first, second, hfirst, hsecond, -, hle⟩ := h.values
  exact ⟨h.order, first.value, second.value, counterValue_of_select hfirst,
    counterValue_of_select hsecond, hle⟩

/-- Between neighbours and so along the whole list, every selected difference is derived. -/
theorem pairwise_derives {snapshots : List PrometheusSnapshot}
    (h : counterProgressionFails snapshots = .ok false) {selector : Str × Option Str}
    (hselector : selector ∈ cancellationCounterSelectors) :
    snapshots.Pairwise (Derives · · selector) := by
  refine pairwise_derives_of_neighbours fun p hp => ?_
  obtain ⟨⟨⟩, hpairs, -⟩ := exists_of_map_eq_ok (failsOrRaises_eq_false.mp h)
  have hselectors := each_eq_ok.mp (each_eq_ok.mp hpairs p hp)
  obtain ⟨delta, hdelta, -⟩ := exists_of_map_eq_ok (hselectors selector hselector)
  exact returns_deriveCounterDelta_iff.mp ⟨delta, hdelta⟩

/-- A progression that was checked between neighbours holds along the whole list. -/
theorem pairwise_of_counterProgression {snapshots : List PrometheusSnapshot}
    (h : counterProgressionFails snapshots = .ok false) {selector : Str × Option Str}
    (hselector : selector ∈ cancellationCounterSelectors) :
    snapshots.Pairwise (Advances selector) :=
  (pairwise_derives h hselector).imp advances_of_derives

/-- Every scrape of a progression of at least two shows the counter. -/
theorem exists_counterValue {snapshots : List PrometheusSnapshot} {selector : Str × Option Str}
    (h : snapshots.Pairwise (Advances selector)) (hlength : 2 ≤ snapshots.length)
    {snapshot : PrometheusSnapshot} (hsnapshot : snapshot ∈ snapshots) :
    ∃ value, counterValue snapshot selector = some value := by
  match snapshots, hlength with
  | a :: b :: rest, _ =>
    have hfirst := (List.pairwise_cons.mp h).1
    rcases List.mem_cons.mp hsnapshot with rfl | hmem
    · obtain ⟨-, x, -, hx, -⟩ := hfirst b List.mem_cons_self
      exact ⟨x, hx⟩
    · obtain ⟨-, -, y, -, hy, -⟩ := hfirst snapshot hmem
      exact ⟨y, hy⟩

/-- Counters that stand still between neighbours stand still along the whole list. -/
theorem pairwise_of_selectedCounters {snapshots : List PrometheusSnapshot}
    (h : selectedCountersUnstable snapshots = .ok false) {selector : Str × Option Str}
    (hselector : selector ∈ cancellationCounterSelectors) :
    snapshots.Pairwise fun a b => counterValue a selector = counterValue b selector := by
  have : IsTrans PrometheusSnapshot
      fun a b => counterValue a selector = counterValue b selector := ⟨fun _ _ _ => Eq.trans⟩
  rw [← List.isChain_iff_pairwise, ← forall_neighbours]
  intro p hp
  have hcheck := anyOf_eq_false.mp (failsOrRaises_eq_false.mp h) _
    (List.mem_flatMap.mpr ⟨p, hp, List.mem_map.mpr ⟨selector, hselector, rfl⟩⟩)
  obtain ⟨delta, hdelta, hzero⟩ := exists_of_map_eq_ok hcheck
  have hderived := deriveCounterDelta_eq_ok hdelta
  have hdifference := hderived.difference
  rw [not_not.mp (of_decide_eq_false hzero)] at hdifference
  rw [hderived.before, hderived.after, sub_eq_zero.mp hdifference.symm]

/-- Any two members of a list on which a value stands still show the same value. -/
theorem eq_of_pairwise_eq {α β : Type} {f : α → β} {xs : List α}
    (h : xs.Pairwise fun a b => f a = f b) {a b : α} (ha : a ∈ xs) (hb : b ∈ xs) : f a = f b := by
  have : Std.Symm fun a b : α => f a = f b := ⟨fun _ _ => Eq.symm⟩
  rcases eq_or_ne a b with rfl | hne
  · rfl
  · exact List.Pairwise.forall h ha hb hne

/-! ## The windows -/

/-- The ends of the phases, and how they follow each other. -/
structure Windows (probe : CancellationProbe) (externalAbort : RawLogRecord)
    (drain₀ drain₁ stable₁ cooldown₀ cooldown₁ : PrometheusSnapshot) : Prop where
  firstDrain : probe.drainSnapshots.head? = some drain₀
  lastDrain : probe.drainSnapshots.getLast? = some drain₁
  firstStable : probe.stableGenerationSnapshots.head? = some drain₁
  lastStable : probe.stableGenerationSnapshots.getLast? = some stable₁
  firstCooldown : probe.cooldownSnapshots.head? = some cooldown₀
  lastCooldown : probe.cooldownSnapshots.getLast? = some cooldown₁
  externalAbort : externalAbort.observationOffsetNs ≤ drain₀.scrapeMonotonicOffsetNs
  boundary : cooldown₀.scrapeMonotonicOffsetNs = stable₁.scrapeMonotonicOffsetNs
  cooldown : cooldown₀.scrapeMonotonicOffsetNs + 2000000000 ≤ cooldown₁.scrapeMonotonicOffsetNs
  close : cooldown₁.scrapeMonotonicOffsetNs ≤ probe.clientCloseOffsetNs + 10000000000

theorem exists_windows {probe : CancellationProbe} {externalAbort : RawLogRecord}
    (h : probe.windowsFail externalAbort = .ok false) :
    ∃ drain₀ drain₁ stable₁ cooldown₀ cooldown₁,
      probe.Windows externalAbort drain₀ drain₁ stable₁ cooldown₀ cooldown₁ := by
  simp only [windowsFail, anyOf_cons_eq_false, bind_eq_ok, first_eq_ok, last_eq_ok, pure,
    Except.pure, Except.ok.injEq, decide_eq_false_iff_not, not_lt, not_not] at h
  obtain ⟨-, ⟨drain₀, hdrain₀, hexternal⟩, -, -, -, ⟨drain₁, hstable₀, _, hdrain₁, rfl⟩, -, -, -,
    ⟨cooldown₀, hcooldown₀, stable₁, hstable₁, hboundary⟩, -,
    ⟨cooldown₁, hcooldown₁, _, hcooldown₀', hcooldown⟩, -, ⟨_, hcooldown₁', hclose⟩, -⟩ := h
  obtain rfl := Option.some.inj (hcooldown₀.symm.trans hcooldown₀')
  obtain rfl := Option.some.inj (hcooldown₁.symm.trans hcooldown₁')
  exact ⟨drain₀, drain₁, stable₁, cooldown₀, cooldown₁, hdrain₀, hdrain₁, hstable₀, hstable₁,
    hcooldown₀, hcooldown₁, hexternal, hboundary, hcooldown, hclose⟩

/-- The last sample of the cooldown is not its first. -/
theorem Windows.lastCooldown_mem_tail {probe : CancellationProbe} {externalAbort : RawLogRecord}
    {drain₀ drain₁ stable₁ cooldown₀ cooldown₁ : PrometheusSnapshot}
    (h : probe.Windows externalAbort drain₀ drain₁ stable₁ cooldown₀ cooldown₁) :
    cooldown₁ ∈ probe.cooldownSnapshots.tail := by
  have hmem := List.mem_of_getLast? h.lastCooldown
  obtain ⟨tail, htail⟩ := List.head?_eq_some_iff.mp h.firstCooldown
  rw [htail] at hmem ⊢
  rcases List.mem_cons.mp hmem with rfl | hmem
  · have hgap := h.cooldown
    omega
  · exact hmem

theorem mem_allSnapshots_of_mem_chronological {probe : CancellationProbe}
    {snapshot : PrometheusSnapshot} (h : snapshot ∈ probe.chronological) :
    snapshot ∈ probe.allSnapshots := by
  simp only [chronological, allSnapshots, List.mem_append] at h ⊢
  rcases h with (((h | h) | h) | h) | h
  · exact .inl (.inl (.inl (.inl h)))
  · exact .inl (.inl (.inl (.inr h)))
  · exact .inl (.inl (.inr (List.mem_of_mem_tail h)))
  · exact .inl (.inr (List.mem_of_mem_tail h))
  · exact .inr h

theorem mem_stableAndLater_of_lastRetained {probe : CancellationProbe}
    {final cooldown₁ : PrometheusSnapshot} (hfinal : probe.lastRetainedSnapshot = .ok final)
    (hcooldown₁ : probe.cooldownSnapshots.getLast? = some cooldown₁)
    (hmem : cooldown₁ ∈ probe.cooldownSnapshots.tail) : final ∈ probe.stableAndLater := by
  unfold lastRetainedSnapshot at hfinal
  rw [stableAndLater]
  split_ifs at hfinal
  · rw [last_eq_ok, hcooldown₁] at hfinal
    obtain rfl := Option.some.inj hfinal
    simp [hmem]
  · exact List.mem_append_right _ (List.mem_of_getLast? (last_eq_ok.mp hfinal))

/-! ## The differences of the finish reasons -/

theorem lookup_finishedReason (reason : Str) :
    (sortedLabels (modelLabels ++ [(lit "finished_reason", reason)])).lookup
      (lit "finished_reason") = some reason := rfl

/-- The finish reasons are read back from the labels they were selected by. -/
theorem reasonValues_of_reasonDeltas {before after : PrometheusSnapshot}
    {deltas : List CounterDelta} (h : reasonDeltas before after = .ok deltas) :
    reasonValues deltas = .ok (reasons.zip (deltas.map (·.delta))) := by
  have key : ∀ (rs : List Str) (ds : List CounterDelta),
      List.Forall₂ (fun reason delta =>
        deriveCounterDelta before after requestSuccess (some reason) = .ok delta) rs ds →
      reasonValues ds = .ok (rs.zip (ds.map (·.delta))) := by
    intro rs ds hds
    rw [reasonValues, collect_eq_ok]
    induction hds with
    | nil => exact .nil
    | @cons reason delta _ _ hd _ ih =>
      have hlookup : delta.labels.lookup (lit "finished_reason") = some reason := by
        rw [(deriveCounterDelta_eq_ok hd).labels]
        exact lookup_finishedReason reason
      exact .cons (by simp only [hlookup]) ih
  exact key reasons deltas (collect_eq_ok.mp h)

theorem exists_of_length_eq_five {α : Type} {xs : List α} (h : xs.length = 5) :
    ∃ a b c d e, xs = [a, b, c, d, e] := by
  rcases xs with _ | ⟨a, _ | ⟨b, _ | ⟨c, _ | ⟨d, _ | ⟨e, _ | ⟨f, xs⟩⟩⟩⟩⟩⟩ <;> simp at h
  exact ⟨a, b, c, d, e, rfl⟩

/-- At most one abort, and no completion, among the differences of the finish reasons. -/
theorem amounts_of_laterCompletion {deltas : List CounterDelta} (hlength : deltas.length = 5)
    (h : laterCompletion (reasons.zip (deltas.map (·.delta))) = .ok false) :
    List.Forall₂ (fun reason (delta : CounterDelta) =>
      delta.delta = 0 ∨ reason = abort ∧ delta.delta = 1) reasons deltas := by
  obtain ⟨a, b, c, d, e, rfl⟩ := exists_of_length_eq_five hlength
  have items : ∀ u v w x y : ℚ, let values := reasons.zip [u, v, w, x, y]
      item values abort = .ok u ∧ item values (lit "length") = .ok v ∧
        item values (lit "stop") = .ok w ∧ item values (lit "error") = .ok x ∧
        item values (lit "repetition") = .ok y := fun _ _ _ _ _ => ⟨rfl, rfl, rfl, rfl, rfl⟩
  obtain ⟨ha, hb, hc, hd, he⟩ := items a.delta b.delta c.delta d.delta e.delta
  simp only [laterCompletion, completionReasons, List.map_cons, List.map_nil,
    anyOf_cons_eq_false, ha, hb, hc, hd, he, Except.map, Except.ok.injEq,
    decide_eq_false_iff_not, not_and, not_not] at h
  obtain ⟨habort, hb, hc, hd, he, -⟩ := h
  refine .cons ?_ (.cons (.inl hb) (.cons (.inl hc) (.cons (.inl hd) (.cons (.inl he) .nil))))
  rcases eq_or_ne a.delta 0 with hzero | hne
  · exact .inl hzero
  · exact .inr ⟨rfl, habort hne⟩

/-! ## What the verdict checked -/

theorem validate_eq_ok {result result' : CancellationResult}
    (h : result.validate = .ok result') : result' = result := by
  simp only [CancellationResult.validate] at h
  split_ifs at h
  exact (Except.ok.inj h).symm

variable [Interpreter]

theorem accepted_of_invalidCancellation {probe : CancellationProbe}
    {classification : CancellationClassification} {result : CancellationResult}
    (h : probe.invalidCancellation classification = .ok result) : result.accepted = false := by
  unfold invalidCancellation at h
  split at h
  · simp at h
  · rw [validate_eq_ok h]

theorem rejectIf_accepted_iff {probe : CancellationProbe}
    {classification : CancellationClassification} {check : Except PyError Bool}
    {next : Except PyError CancellationResult} {result : CancellationResult} :
    (probe.rejectIf classification check next = .ok result ∧ result.accepted = true) ↔
      check = .ok false ∧ next = .ok result ∧ result.accepted = true := by
  constructor
  · rintro ⟨h, haccepted⟩
    rcases check with e | (_ | _)
    · simp [rejectIf] at h
    · exact ⟨rfl, h, haccepted⟩
    · rw [accepted_of_invalidCancellation h] at haccepted
      simp at haccepted
  · rintro ⟨rfl, h, haccepted⟩
    exact ⟨h, haccepted⟩

theorem rejectIfRaises_accepted_iff {α : Type} {probe : CancellationProbe}
    {classification : CancellationClassification} {caught : PyError → Bool}
    {value : Except PyError α} {next : α → Except PyError CancellationResult}
    {result : CancellationResult} :
    (probe.rejectIfRaises classification caught value next = .ok result ∧
        result.accepted = true) ↔
      ∃ a, value = .ok a ∧ next a = .ok result ∧ result.accepted = true := by
  constructor
  · rintro ⟨h, haccepted⟩
    cases value with
    | error e =>
      unfold rejectIfRaises at h
      dsimp only at h
      split_ifs at h
      rw [accepted_of_invalidCancellation h] at haccepted
      simp at haccepted
    | ok a => exact ⟨a, rfl, h, haccepted⟩
  · rintro ⟨a, rfl, h, haccepted⟩
    exact ⟨h, haccepted⟩

/-- The accepted result of a probe. -/
def acceptedResult (deltas : ReportedDeltas) (identity : Str) (observedAbort : ℚ) :
    CancellationResult where
  classification := .serverAbortAcknowledgedAndDrained
  accepted := true
  evidenceIdentitySha256 := identity
  promptTokenDelta := some deltas.promptDelta
  generationTokenDelta := some deltas.generationDelta
  finishedReasonDeltas := deltas.reasonDeltas
  auxiliaryCounterDeltas := deltas.auxiliaryDeltas
  observedAbortDelta := some observedAbort

/-- What the verdict checked of the reported differences. -/
structure ReportAccepted (probe : CancellationProbe) (deltas : ReportedDeltas)
    (result : CancellationResult) : Prop where
  reported : probe.reportedDeltas = .ok deltas
  observed : ∃ observed, reasonValues deltas.reasonDeltas = .ok observed ∧
    laterCompletion observed = .ok false ∧
    ∃ identity observedAbort, sha256Identity probe.dump = .ok identity ∧
      item observed abort = .ok observedAbort ∧
      (acceptedResult deltas identity observedAbort).validate = .ok result
  prompt : deltas.promptDelta.delta = 64
  generation : 1 ≤ deltas.generationDelta.delta
  auxiliary : ∀ delta ∈ deltas.auxiliaryDeltas, delta.delta = 0
  residual : probe.residualStateFails = .ok false

/-- What the verdict checked of the counters. -/
structure CountersAccepted (probe : CancellationProbe) (result : CancellationResult) : Prop where
  progression : counterProgressionFails probe.chronological = .ok false
  preStable : selectedCountersUnstable probe.preDispatchSnapshots = .ok false
  retained : ∃ retained, probe.retainedReasonDeltas = .ok retained ∧
    laterCompletion (reasons.zip (retained.map (·.delta))) = .ok false
  stable : selectedCountersUnstable probe.stableAndLater = .ok false
  generation : probe.generationMoves = .ok false
  report : ∃ deltas, probe.ReportAccepted deltas result

/-- What the verdict checked of a probe. -/
structure Accepted (probe : CancellationProbe) (internalAbort externalAbort : RawLogRecord)
    (result : CancellationResult) : Prop where
  response : probe.identityChain.responseBodyId = responseBodyId probe.identityChain.externalBaseId
  serving : probe.identityChain.servingItemId = servingItemId probe.identityChain.externalBaseId
  internal : probe.identityChain.internalAbortLog = some internalAbort
  external : probe.identityChain.externalAbortLog = some externalAbort
  correlated : correlateRequestLogs probe.identityChain.externalBaseId probe.rawLogCapture.records
    true = .ok probe.identityChain
  identity : probe.identityDiffers probe.identityChain = false
  chronology : probe.chronologyDiffers internalAbort externalAbort = false
  preLength : probe.preDispatchSnapshots.length = 10
  drainLength : probe.drainSnapshots.length = 10
  process : probe.processDiffers = false
  observations : probe.observationsDiffer = .ok false
  preWindow : probe.preWindowFails = .ok false
  quiescence : probe.quiescenceFails = .ok false
  windows : probe.windowsFail externalAbort = .ok false
  counters : probe.CountersAccepted result

theorem evaluateReported_accepted_iff {probe : CancellationProbe} {deltas : ReportedDeltas}
    {result : CancellationResult} (hreported : probe.reportedDeltas = .ok deltas) :
    (probe.evaluateReported deltas = .ok result ∧ result.accepted = true) ↔
      probe.ReportAccepted deltas result := by
  constructor
  · rintro ⟨h, haccepted⟩
    obtain ⟨observed, hobserved, h⟩ := bind_eq_ok.mp h
    obtain ⟨hcompletion, h, -⟩ := rejectIf_accepted_iff.mp ⟨h, haccepted⟩
    obtain ⟨hamounts, h, -⟩ := rejectIf_accepted_iff.mp ⟨h, haccepted⟩
    obtain ⟨hresidual, h, -⟩ := rejectIf_accepted_iff.mp ⟨h, haccepted⟩
    obtain ⟨identity, hidentity, h⟩ := bind_eq_ok.mp h
    obtain ⟨observedAbort, habort, h⟩ := bind_eq_ok.mp h
    simp only [Except.ok.injEq, decide_eq_false_iff_not, not_or, not_not, not_lt, not_exists,
      not_and] at hamounts
    exact ⟨hreported, ⟨observed, hobserved, hcompletion, identity, observedAbort, hidentity, habort,
      h⟩, hamounts.1, hamounts.2.1, hamounts.2.2, hresidual⟩
  · rintro ⟨-, ⟨observed, hobserved, hcompletion, identity, observedAbort, hidentity, habort, h⟩,
      hprompt, hgeneration, hauxiliary, hresidual⟩
    have haccepted : result.accepted = true := by rw [validate_eq_ok h]; rfl
    refine ⟨bind_eq_ok.mpr ⟨observed, hobserved, ?_⟩, haccepted⟩
    refine (rejectIf_accepted_iff.mpr ⟨hcompletion, ?_, haccepted⟩).1
    refine (rejectIf_accepted_iff.mpr ⟨?_, ?_, haccepted⟩).1
    · simp only [Except.ok.injEq, decide_eq_false_iff_not, not_or, not_not, not_lt, not_exists,
        not_and]
      exact ⟨hprompt, hgeneration, hauxiliary⟩
    · refine (rejectIf_accepted_iff.mpr ⟨hresidual, ?_, haccepted⟩).1
      exact bind_eq_ok.mpr ⟨identity, hidentity, bind_eq_ok.mpr ⟨observedAbort, habort, h⟩⟩

theorem evaluateCounters_accepted_iff {probe : CancellationProbe} {result : CancellationResult} :
    (probe.evaluateCounters = .ok result ∧ result.accepted = true) ↔
      probe.CountersAccepted result := by
  simp only [evaluateCounters, rejectIf_accepted_iff, rejectIfRaises_accepted_iff,
    failsOrRaises_eq_false, anyOf_cons_eq_false, anyOf_nil, and_true]
  constructor
  · rintro ⟨⟨hprogression, hpre⟩, retained, hretained, hcompletion, hstable, hgeneration, deltas,
      hreported, h⟩
    exact ⟨hprogression, hpre, ⟨retained, hretained, hcompletion⟩, hstable, hgeneration, deltas,
      (evaluateReported_accepted_iff hreported).mp h⟩
  · rintro ⟨hprogression, hpre, ⟨retained, hretained, hcompletion⟩, hstable, hgeneration, deltas, h⟩
    exact ⟨⟨hprogression, hpre⟩, retained, hretained, hcompletion, hstable, hgeneration, deltas,
      h.reported, (evaluateReported_accepted_iff h.reported).mpr h⟩

theorem evaluateScrapes_accepted_iff {probe : CancellationProbe} {externalAbort : RawLogRecord}
    {result : CancellationResult} :
    (probe.evaluateScrapes externalAbort = .ok result ∧ result.accepted = true) ↔
      (probe.preDispatchSnapshots.length = 10 ∧ probe.drainSnapshots.length = 10) ∧
        probe.processDiffers = false ∧ probe.observationsDiffer = .ok false ∧
        probe.preWindowFails = .ok false ∧ probe.quiescenceFails = .ok false ∧
        probe.windowsFail externalAbort = .ok false ∧ probe.CountersAccepted result := by
  simp only [evaluateScrapes, rejectIf_accepted_iff, evaluateCounters_accepted_iff,
    Except.ok.injEq, decide_eq_false_iff_not, not_or, not_not]

/-- **When a probe is accepted.** -/
theorem evaluateCancellation_accepted_iff {probe : CancellationProbe}
    {result : CancellationResult} :
    (probe.evaluateCancellation = .ok result ∧ result.accepted = true) ↔
      ∃ internalAbort externalAbort, probe.Accepted internalAbort externalAbort result := by
  simp only [evaluateCancellation, rejectIf_accepted_iff, Except.ok.injEq,
    decide_eq_false_iff_not, not_or, not_not]
  constructor
  · rintro ⟨⟨hresponse, hserving⟩, h⟩
    split at h
    · next externalAbort internalAbort hexternal hinternal =>
      simp only [rejectIfRaises_accepted_iff, rejectIf_accepted_iff, Except.ok.injEq,
        evaluateScrapes_accepted_iff] at h
      obtain ⟨chain, hchain, hidentity, hchronology, ⟨hpre, hdrain⟩, hprocess, hobservations,
        hpreWindow, hquiescence, hwindows, hcounters⟩ := h
      obtain rfl : chain = probe.identityChain := by
        by_contra hne
        simp [identityDiffers, hne] at hidentity
      exact ⟨internalAbort, externalAbort, hresponse, hserving, hinternal, hexternal, hchain,
        hidentity, hchronology, hpre, hdrain, hprocess, hobservations, hpreWindow, hquiescence,
        hwindows, hcounters⟩
    · rw [accepted_of_invalidCancellation h.1] at h
      simp at h
  · rintro ⟨internalAbort, externalAbort, h⟩
    refine ⟨⟨h.response, h.serving⟩, ?_⟩
    simp only [h.external, h.internal, rejectIfRaises_accepted_iff, rejectIf_accepted_iff,
      Except.ok.injEq, evaluateScrapes_accepted_iff]
    exact ⟨_, h.correlated, h.identity, h.chronology, ⟨h.preLength, h.drainLength⟩, h.process,
      h.observations, h.preWindow, h.quiescence, h.windows, h.counters⟩

/-! ## The reported differences -/

/-- A reported difference is that of a counter between two scrapes. -/
def IsDifference (before after : PrometheusSnapshot) (selector : Str × Option Str)
    (delta : CounterDelta) : Prop :=
  delta.metric = selector.1 ∧ counterValue before selector = some delta.before ∧
    counterValue after selector = some delta.after ∧ delta.delta = delta.after - delta.before

/-- The differences a result reports. -/
structure Reported (before after : PrometheusSnapshot) (result : CancellationResult) : Prop where
  prompt : ∃ delta, result.promptTokenDelta = some delta ∧
    IsDifference before after (promptTokens, none) delta ∧ delta.delta = 64
  generation : ∃ delta, result.generationTokenDelta = some delta ∧
    IsDifference before after (generationTokens, none) delta ∧ 1 ≤ delta.delta
  reasons : List.Forall₂ (fun reason delta =>
    IsDifference before after (requestSuccess, some reason) delta ∧
      (delta.delta = 0 ∨ reason = abort ∧ delta.delta = 1)) reasons result.finishedReasonDeltas
  auxiliary : List.Forall₂ (fun metric delta =>
    IsDifference before after (metric, none) delta ∧ delta.delta = 0)
    auxiliaryMetrics result.auxiliaryCounterDeltas
  observedAbort : ∃ delta ∈ result.finishedReasonDeltas.head?,
    result.observedAbortDelta = some delta.delta

/-- From the end of the drain on, all retained samples show the same counters. -/
theorem Accepted.counterValue_eq {probe : CancellationProbe}
    {internalAbort externalAbort : RawLogRecord} {result : CancellationResult}
    (h : probe.Accepted internalAbort externalAbort result) {selector : Str × Option Str}
    (hselector : selector ∈ cancellationCounterSelectors) {a b : PrometheusSnapshot}
    (ha : a ∈ probe.stableAndLater) (hb : b ∈ probe.stableAndLater) :
    counterValue a selector = counterValue b selector :=
  eq_of_pairwise_eq (pairwise_of_selectedCounters h.counters.stable hselector) ha hb

/-- Every scrape of the history shows the selected counters. -/
theorem Accepted.exists_counterValue {probe : CancellationProbe}
    {internalAbort externalAbort : RawLogRecord} {result : CancellationResult}
    (h : probe.Accepted internalAbort externalAbort result) {selector : Str × Option Str}
    (hselector : selector ∈ cancellationCounterSelectors) {snapshot : PrometheusSnapshot}
    (hsnapshot : snapshot ∈ probe.chronological) :
    ∃ value, counterValue snapshot selector = some value := by
  have hlength : 2 ≤ probe.chronological.length := by
    simp only [chronological, List.length_append, h.preLength]
    omega
  exact CancellationProbe.exists_counterValue
    (pairwise_of_counterProgression h.counters.progression hselector) hlength hsnapshot

/-- The reported differences, taken at the last retained sample. -/
theorem Accepted.reported {probe : CancellationProbe} {internalAbort externalAbort : RawLogRecord}
    {result : CancellationResult} (h : probe.Accepted internalAbort externalAbort result) :
    ∃ baseline final, probe.preDispatchSnapshots.getLast? = some baseline ∧
      probe.lastRetainedSnapshot = .ok final ∧ Reported baseline final result := by
  obtain ⟨drain₀, drain₁, stable₁, cooldown₀, cooldown₁, hwindows⟩ := exists_windows h.windows
  obtain ⟨deltas, hreport⟩ := h.counters.report
  obtain ⟨retained, hretained, -⟩ := h.counters.retained
  simp only [retainedReasonDeltas, bind_eq_ok] at hretained
  obtain ⟨final, hfinal, -⟩ := hretained
  have hreported := hreport.reported
  simp only [reportedDeltas, bind_eq_ok, last_eq_ok, pure, Except.pure, Except.ok.injEq,
    hwindows.lastCooldown, Option.some.injEq] at hreported
  obtain ⟨baseline, hbaseline, _, rfl, prompt, hprompt, generation, hgeneration, reasonDeltas',
    hreasons, auxiliary, hauxiliary, rfl⟩ := hreported
  -- the last sample of the cooldown shows what the last retained one does
  have hsame : ∀ selector ∈ cancellationCounterSelectors,
      counterValue cooldown₁ selector = counterValue final selector := fun selector hselector =>
    h.counterValue_eq hselector
      (by simp [stableAndLater, hwindows.lastCooldown_mem_tail])
      (mem_stableAndLater_of_lastRetained hfinal hwindows.lastCooldown
        hwindows.lastCooldown_mem_tail)
  have hdifference : ∀ {name reason delta}, (name, reason) ∈ cancellationCounterSelectors →
      deriveCounterDelta baseline cooldown₁ name reason = .ok delta →
        IsDifference baseline final (name, reason) delta := by
    intro name reason delta hselector hdelta
    have hderived := deriveCounterDelta_eq_ok hdelta
    exact ⟨hderived.metric, hderived.before, hsame _ hselector ▸ hderived.after,
      hderived.difference⟩
  obtain ⟨observed, hobserved, hcompletion, identity, observedAbort, -, habort, hresult⟩ :=
    hreport.observed
  obtain rfl := Except.ok.inj ((reasonValues_of_reasonDeltas hreasons).symm.trans hobserved)
  have hlength : reasonDeltas'.length = 5 := (collect_eq_ok.mp hreasons).length_eq.symm
  have hamounts := amounts_of_laterCompletion hlength hcompletion
  obtain rfl := validate_eq_ok hresult
  refine ⟨baseline, final, hbaseline, hfinal, ?_⟩
  constructor
  case prompt =>
    exact ⟨prompt, rfl, hdifference (by simp [cancellationCounterSelectors]) hprompt,
      hreport.prompt⟩
  case generation =>
    exact ⟨generation, rfl, hdifference (by simp [cancellationCounterSelectors]) hgeneration,
      hreport.generation⟩
  case reasons =>
    have hmem : ∀ reason ∈ reasons, (requestSuccess, some reason) ∈ cancellationCounterSelectors :=
      fun reason hreason => List.mem_append_right _ (List.mem_map_of_mem hreason)
    have hderived := (List.forall₂_and_left _ _).mpr ⟨hmem, collect_eq_ok.mp hreasons⟩
    exact List.Forall₂.mp (fun _ _ hboth hamount => ⟨hdifference hboth.1 hboth.2, hamount⟩)
      hderived hamounts
  case auxiliary =>
    have hmem : ∀ metric ∈ auxiliaryMetrics, (metric, none) ∈ cancellationCounterSelectors := by
      simp [auxiliaryMetrics, cancellationCounterSelectors]
    have hderived := (List.forall₂_and_left _ _).mpr ⟨hmem, collect_eq_ok.mp hauxiliary⟩
    have hzero := (List.forall₂_and_left _ _).mpr ⟨hreport.auxiliary, hderived.flip⟩
    exact hzero.flip.imp fun _ _ hall => ⟨hdifference hall.2.1 hall.2.2, hall.1⟩
  case observedAbort =>
    obtain ⟨a, tail, rfl⟩ := List.exists_cons_of_length_eq_add_one hlength
    exact ⟨a, rfl, congrArg some (Except.ok.inj habort).symm⟩

end CancellationProbe

end Stage2
