import LlmInferenceSystems.Stage2.StreamSemantics

/-!
# The metrics of one token after the other

TPOT and ITL are computed when no event carries more than one id. The division by the number of
gaps is not guarded, neither where the stream's evidence is made nor where it is checked; in both
places the ids of the events are the 32 ids of the output, so that there are 31 gaps.

## Main definitions

* `Received.Counted`: the ids of the events are those received, 32 when the terminal was seen

## Main results

* `length_tokenBearing`: without groups there are as many events with ids as there are ids
* `perTokenMetrics_reconcile`: the gaps are never none, and what ITL and TPOT then are
-/

namespace Stage2

open Python Sse

/-! ## Events with one id each -/

theorem length_tokenBearing {events : List Stage2TokenEvent}
    (h : isGrouped (tokenBearing events) = false) :
    (tokenBearing events).length = (eventTokenIds events).length := by
  induction events with
  | nil => rfl
  | cons event events ih =>
    rw [eventTokenIds, List.flatMap_cons, List.length_append]
    by_cases hids : event.outputTokenIds = []
    · have hskip : tokenBearing (event :: events) = tokenBearing events := by
        simp [tokenBearing, hids]
      rw [hskip] at h ⊢
      rw [ih h, hids, List.length_nil, Nat.zero_add]
      rfl
    · have hkeep : tokenBearing (event :: events) = event :: tokenBearing events := by
        simp [tokenBearing, hids]
      rw [hkeep] at h ⊢
      obtain ⟨hone, hrest⟩ : event.outputTokenIds.length ≤ 1 ∧
          isGrouped (tokenBearing events) = false := by
        simpa [isGrouped] using h
      have hpos : 0 < event.outputTokenIds.length := List.length_pos_iff.mpr hids
      rw [List.length_cons, ih hrest, eventTokenIds]
      omega

theorem length_eventGaps (events : List Stage2TokenEvent) :
    (eventGaps events).length = events.length - 1 := by
  rw [eventGaps, List.length_map, length_neighbours]

/-- The gaps add up to the time between the first and the last event. -/
theorem sum_eventGaps {events : List Stage2TokenEvent} {first last : Stage2TokenEvent}
    (hfirst : events.head? = some first) (hlast : events.getLast? = some last) :
    (eventGaps events).sum = last.observationOffsetNs - first.observationOffsetNs := by
  cases events with
  | nil => cases hfirst
  | cons event events =>
    obtain rfl : event = first := Option.some.inj hfirst
    rw [List.getLast?_eq_some_getLast (List.cons_ne_nil _ _)] at hlast
    obtain rfl := Option.some.inj hlast
    exact sum_map_neighbours (fun e : Stage2TokenEvent => e.observationOffsetNs) event events

/-! ## The ids a validator has received -/

/-- The ids of the events are those received; they are 32 when the terminal was seen. -/
structure Received.Counted (r : Received) : Prop where
  ids : eventTokenIds r.tokenEvents = r.outputIds
  terminal : r.generationTerminalOffsetNs ≠ none → r.outputIds.length = 32

theorem Received.Counted.after {r : Received} (h : r.Counted) {offset : ℤ}
    {reading : StreamReading} (hfits : r.Fits offset reading) :
    (r.after offset reading).Counted := by
  cases reading with
  | comment => exact h
  | done => exact ⟨h.ids, h.terminal⟩
  | usage => exact ⟨h.ids, h.terminal⟩
  | generation generation prompt =>
    obtain ⟨-, -, hopen, -, -, -, hlength⟩ := hfits
    constructor
    · change eventTokenIds (r.tokenEvents ++ [r.event offset generation prompt]) = _
      rw [eventTokenIds, List.flatMap_append, List.flatMap_singleton, ← eventTokenIds, h.ids]
      rfl
    · intro hterminal
      apply hlength
      by_contra hfinish
      exact hterminal (by rw [Received.after, if_neg hfinish]; exact hopen)

section

variable [Interpreter]

namespace Stage2StreamValidator

theorem Replayed.counted {v : Stage2StreamValidator} (h : v.Replayed) : v.received.Counted := by
  obtain ⟨readings, -, hfit, hreceived⟩ := h
  rw [hreceived]
  exact hfit.keeps (fun _ _ _ hI hfits => hI.after hfits) ⟨rfl, fun h => (h rfl).elim⟩

omit [Interpreter] in
/-- Whoever comes to the metrics has seen the terminal of the generation. -/
theorem generationTerminal_of_evidenceParts {v : Stage2StreamValidator} {parts : EvidenceParts}
    (h : v.evidenceParts = .ok parts) : v.generationTerminalOffsetNs ≠ none := by
  intro hnone
  have htiming : v.timing 0 = none := by
    unfold timing
    rw [hnone]
    cases v.responseHeadersOffsetNs <;> cases v.firstBodyOffsetNs <;> rfl
  rw [evidenceParts, htiming] at h
  cases h

/-- A run that comes to the metrics has 32 ids. -/
theorem length_eventTokenIds_of_evidenceParts {v : Stage2StreamValidator} {parts : EvidenceParts}
    (hv : v.Replayed) (h : v.evidenceParts = .ok parts) :
    (eventTokenIds v.tokenEvents).length = 32 := by
  have hcounted := hv.counted
  have hids : eventTokenIds v.tokenEvents = v.outputIds := hcounted.ids
  rw [hids]
  exact hcounted.terminal (generationTerminal_of_evidenceParts h)

end Stage2StreamValidator

end

/-! ## The divisions -/

/-- An exception other than that of a division by zero. -/
def isOtherThanZeroDivision : PyError → Bool
  | .zeroDivision => false
  | _ => true

/-- A quotient of the interpreter by something else than zero is no division by zero. -/
theorem raisesOnly_quotient (m : ℤ) {n : ℕ} (hn : n ≠ 0) :
    RaisesOnly isOtherThanZeroDivision (binary64Metrics.quotient m n) := by
  change RaisesOnly isOtherThanZeroDivision (if n = 0 then _ else _)
  rw [if_neg hn]
  split
  · exact (returns_ok _).raisesOnly
  · exact raisesOnly_error rfl

theorem raisesOnly_floatOf (n : ℤ) : RaisesOnly isOtherThanZeroDivision (floatOf n) := by
  unfold floatOf
  split
  · exact (returns_ok _).raisesOnly
  · exact raisesOnly_error rfl

/-- Nor is the mean of some gaps. -/
theorem raisesOnly_mean {gaps : List ℤ} (hgaps : gaps ≠ []) :
    RaisesOnly isOtherThanZeroDivision (binary64Metrics.mean gaps) := by
  apply RaisesOnly.bind
  · exact RaisesOnly.collect fun gap _ => raisesOnly_floatOf gap
  · intro floats hfloats
    have hnonempty : floats ≠ [] := by
      rintro rfl
      exact hgaps (List.forall₂_nil_right_iff.mp (collect_eq_ok.mp hfloats))
    rw [if_neg hnonempty]
    split
    · exact (returns_ok _).raisesOnly
    · exact raisesOnly_error rfl

theorem MetricAvailability.raisesOnly_ofValue (value : PyFloat) :
    RaisesOnly isOtherThanZeroDivision (ofValue value) := by
  unfold ofValue
  split
  · split
    · exact raisesOnly_error rfl
    · exact (returns_ok _).raisesOnly
  · exact raisesOnly_error rfl

/-- The metrics of the stream divide by no zero when there are gaps. -/
theorem Stage2StreamValidator.raisesOnly_clientMetrics {v : Stage2StreamValidator}
    (parts : EvidenceParts) (hgaps : eventGaps (tokenBearing v.tokenEvents) ≠ []) :
    RaisesOnly isOtherThanZeroDivision (@clientMetrics binary64Metrics v parts) := by
  unfold clientMetrics
  dsimp only
  split
  · exact (returns_ok _).raisesOnly
  · apply RaisesOnly.bind (raisesOnly_quotient _ (by decide))
    intro tpot _
    apply RaisesOnly.bind (MetricAvailability.raisesOnly_ofValue tpot)
    intro _ _
    apply RaisesOnly.bind (raisesOnly_mean hgaps)
    intro itl _
    apply RaisesOnly.bind (MetricAvailability.raisesOnly_ofValue itl)
    intro _ _
    exact (returns_ok _).raisesOnly

/-- Nor does the check of the evidence. -/
theorem Stage2RequestEvidence.raisesOnly_checkMetrics {evidence : Stage2RequestEvidence}
    (hgaps : eventGaps evidence.bearing ≠ []) :
    RaisesOnly isOtherThanZeroDivision (@checkMetrics evidence binary64Metrics) := by
  have hlength : (eventGaps evidence.bearing).length ≠ 0 := by
    rwa [ne_eq, List.length_eq_zero_iff]
  unfold checkMetrics
  dsimp only
  split
  · split
    · exact raisesOnly_error rfl
    · exact (returns_ok _).raisesOnly
  · apply RaisesOnly.bind (raisesOnly_quotient _ (by decide))
    intro _ _
    apply RaisesOnly.bind (raisesOnly_quotient _ hlength)
    intro _ _
    split
    · exact raisesOnly_error rfl
    · split
      · exact raisesOnly_error rfl
      · exact (returns_ok _).raisesOnly

/-! ## The metrics of accepted evidence -/

namespace Stage2RequestEvidence

variable [Interpreter] {evidence : Stage2RequestEvidence}

/-- Evidence that comes to the metrics has 32 ids. -/
theorem length_eventTokenIds (hfields : evidence.FieldsValid)
    (hbefore : evidence.checkBeforeMetrics = .ok ()) :
    (eventTokenIds evidence.tokenEvents).length = 32 := by
  obtain ⟨-, terminal, first, hevents⟩ := checkBeforeMetrics_eq_ok.mp hbefore
  rw [hevents.output]
  exact hfields.output

/-- The last event with ids comes after the first one and before the terminal. -/
theorem EventsReconcile.exists_last {terminal first : Stage2TokenEvent}
    (h : evidence.EventsReconcile terminal first) :
    ∃ last, evidence.bearing.getLast? = some last ∧
      first.observationOffsetNs ≤ last.observationOffsetNs ∧
      last.observationOffsetNs ≤ terminal.observationOffsetNs := by
  have hne : evidence.bearing ≠ [] := by
    intro hnil
    simpa [hnil] using h.bearing
  have hmem := List.getLast_mem hne
  have hsub : evidence.bearing.Sublist evidence.tokenEvents := List.filter_sublist
  have hoffsets := List.pairwise_map.mp h.offsets
  have hrefl : Std.Refl fun e e' : Stage2TokenEvent =>
      e.observationOffsetNs ≤ e'.observationOffsetNs := ⟨fun _ => le_refl _⟩
  refine ⟨_, List.getLast?_eq_some_getLast hne, ?_, ?_⟩
  · have hfirst : first = evidence.bearing.head hne := by
      have hhead := h.bearing
      rw [List.head?_eq_some_head hne] at hhead
      exact (Option.some.inj hhead).symm
    rw [hfirst]
    exact (hoffsets.sublist hsub).rel_head hmem
  · have hevents := List.ne_nil_of_mem (hsub.subset hmem)
    have hterminal : terminal = evidence.tokenEvents.getLast hevents := by
      have hlast := h.last
      rw [List.getLast?_eq_some_getLast hevents] at hlast
      exact (Option.some.inj hlast).symm
    rw [hterminal]
    exact hoffsets.rel_getLast (hsub.subset hmem)

omit [Interpreter] in
theorem exactMetrics_quotient_eq_ok {m : ℤ} {n : ℕ} {value : PyFloat}
    (h : exactMetrics.quotient m n = .ok value) : n ≠ 0 ∧ value = .finite ((m : ℚ) / n) := by
  change (if n = 0 then _ else _) = _ at h
  split at h
  · cases h
  · next hn => exact ⟨hn, (Except.ok.inj h).symm⟩

omit [Interpreter] in
/-- What `checkMetrics` says without rounding, when no event has more than one id. -/
theorem exactMetrics_checkMetrics (hgrouped : isGrouped evidence.bearing = false)
    (h : @checkMetrics evidence exactMetrics = .ok ()) :
    evidence.clientGenerationTpot.valueNs =
        some (((evidence.timing.generationTerminalOffsetNs -
          evidence.timing.firstOutputTokenOffsetNs : ℤ) : ℚ) / 31) ∧
      evidence.tokenObservationItl.valueNs =
        some (((eventGaps evidence.bearing).sum : ℚ) / (eventGaps evidence.bearing).length) := by
  unfold checkMetrics at h
  dsimp only at h
  rw [hgrouped, if_neg Bool.false_ne_true] at h
  obtain ⟨_, htpot, h⟩ := bind_eq_ok.mp h
  obtain ⟨_, hitl, h⟩ := bind_eq_ok.mp h
  obtain ⟨-, rfl⟩ := exactMetrics_quotient_eq_ok htpot
  obtain ⟨-, rfl⟩ := exactMetrics_quotient_eq_ok hitl
  split at h
  · cases h
  · next hhasTpot =>
    split at h
    · cases h
    · next hhasItl =>
      obtain ⟨tpot, hvalue, heq⟩ := not_not.mp hhasTpot
      obtain ⟨itl, hvalue', heq'⟩ := not_not.mp hhasItl
      obtain rfl := PyFloat.finite.inj heq
      obtain rfl := PyFloat.finite.inj heq'
      exact ⟨by simpa using hvalue, by simpa using hvalue'⟩

/-- The metrics of accepted evidence, when no event has more than one id. -/
theorem exactMetrics_reconcile {evidence' : Stage2RequestEvidence}
    (h : @create evidence _ exactMetrics = .ok evidence')
    (hgrouped : isGrouped evidence.bearing = false) :
    ∃ first last tpot itl, evidence.bearing.head? = some first ∧
      evidence.bearing.getLast? = some last ∧
      evidence.clientGenerationTpot.valueNs = some tpot ∧
      evidence.tokenObservationItl.valueNs = some itl ∧
      31 * itl = ((last.observationOffsetNs - first.observationOffsetNs : ℤ) : ℚ) ∧
      itl ≤ tpot ∧ 0 ≤ itl ∧
      (tpot = itl ↔ evidence.timing.generationTerminalOffsetNs = last.observationOffsetNs) := by
  obtain ⟨-, hfields, hvalid⟩ := (@create_eq_ok _ _ exactMetrics _).mp h
  obtain ⟨hidentities, ⟨terminal, first, hevents⟩, hmetrics, -⟩ :=
    (@validateReconciliation_eq_ok _ _ exactMetrics).mp hvalid
  obtain ⟨last, hlast, hfirst, hterminal⟩ := hevents.exists_last
  obtain ⟨htpot, hitl⟩ := exactMetrics_checkMetrics hgrouped hmetrics
  have hlength : (eventGaps evidence.bearing).length = 31 := by
    have hids : (eventTokenIds evidence.tokenEvents).length = 32 := by
      rw [hevents.output]
      exact hfields.output
    rw [length_eventGaps, bearing, length_tokenBearing hgrouped, hids]
  have hsum := sum_eventGaps hevents.bearing hlast
  rw [hlength, hsum] at hitl
  rw [hevents.firstOffset, hevents.terminalOffset] at htpot
  -- over 31, the terminal, the last and the first event are compared as integers
  refine ⟨first, last, _, _, hevents.bearing, hlast, htpot, hitl, ?_, ?_, ?_, ?_⟩
  · push_cast
    ring
  · push_cast
    gcongr
  · have hnonneg : (0 : ℤ) ≤ last.observationOffsetNs - first.observationOffsetNs := by omega
    exact div_nonneg (by exact_mod_cast hnonneg) (by norm_num)
  · rw [hevents.terminalOffset]
    push_cast
    constructor
    · intro heq
      have hcast : (terminal.observationOffsetNs : ℚ) = last.observationOffsetNs := by
        field_simp at heq
        linarith
      exact_mod_cast hcast
    · intro heq
      rw [heq]

end Stage2RequestEvidence

/-! ## Both places -/

/-- 32 events with ids have 31 gaps, so that there is one to divide by. -/
theorem gaps_of_ungrouped {events : List Stage2TokenEvent}
    (hgrouped : isGrouped (tokenBearing events) = false)
    (hids : (eventTokenIds events).length = 32) :
    (tokenBearing events).length = 32 ∧ (eventGaps (tokenBearing events)).length = 31 ∧
      eventGaps (tokenBearing events) ≠ [] := by
  have hlength := (length_tokenBearing hgrouped).trans hids
  have hgaps : (eventGaps (tokenBearing events)).length = 31 := by
    rw [length_eventGaps, hlength]
  refine ⟨hlength, hgaps, ?_⟩
  rintro hnil
  rw [hnil] at hgaps
  cases hgaps

/-- **The gaps are never none.** A stream that comes to the metrics and evidence that is checked
have 32 events with ids and 31 gaps when no event has more than one id, so that nothing is divided
by zero. Without rounding, accepted evidence has an ITL that 31 times is the time between the first
and the last of these events, and a TPOT that is larger unless the terminal comes with the last. -/
theorem perTokenMetrics_reconcile [Interpreter] :
    (∀ [MetricArithmetic] (request : StreamRequest) (dispatch : ℤ) (fixture : Option Str)
        (clock : Option FrameClock) (calls : List StreamCall) (v w : Stage2StreamValidator)
        (offset : ℤ) (chain : RequestIdentityChain) (parts : Stage2StreamValidator.EvidenceParts),
      accepted Stage2StreamValidator.call
          (Stage2StreamValidator.start request dispatch fixture clock) calls = some v →
      Stage2StreamValidator.closeChecks offset chain v = (.ok (), w) →
      w.evidenceParts = .ok parts → isGrouped (tokenBearing w.tokenEvents) = false →
      (tokenBearing w.tokenEvents).length = 32 ∧
        (eventGaps (tokenBearing w.tokenEvents)).length = 31 ∧
        @Stage2StreamValidator.clientMetrics binary64Metrics w parts ≠ .error .zeroDivision) ∧
    (∀ evidence : Stage2RequestEvidence, evidence.FieldsValid →
      evidence.checkBeforeMetrics = .ok () → isGrouped evidence.bearing = false →
      evidence.bearing.length = 32 ∧ (eventGaps evidence.bearing).length = 31 ∧
        @Stage2RequestEvidence.checkMetrics evidence binary64Metrics ≠ .error .zeroDivision) ∧
    ∀ evidence evidence' : Stage2RequestEvidence,
      @Stage2RequestEvidence.create evidence _ exactMetrics = .ok evidence' →
      isGrouped evidence.bearing = false →
      ∃ first last tpot itl, evidence.bearing.head? = some first ∧
        evidence.bearing.getLast? = some last ∧
        evidence.clientGenerationTpot.valueNs = some tpot ∧
        evidence.tokenObservationItl.valueNs = some itl ∧
        31 * itl = ((last.observationOffsetNs - first.observationOffsetNs : ℤ) : ℚ) ∧
        itl ≤ tpot ∧ 0 ≤ itl ∧
        (tpot = itl ↔
          evidence.timing.generationTerminalOffsetNs = last.observationOffsetNs) := by
  -- -- the 32 tokens were counted before the metrics are computed, live and at validation
  refine ⟨?_, ?_, fun _ _ => Stage2RequestEvidence.exactMetrics_reconcile⟩
  · intro _ request dispatch fixture clock calls v w offset chain parts hv hclose hparts hgrouped
    have hreplayed := (Stage2StreamValidator.inFlight_of_accepted hv).replayed.closeChecks hclose
    have hids := Stage2StreamValidator.length_eventTokenIds_of_evidenceParts hreplayed hparts
    obtain ⟨hlength, hgaps, hne⟩ := gaps_of_ungrouped hgrouped hids
    -- -- the division is by the number of gaps, which is not zero
    refine ⟨hlength, hgaps, fun hzero => ?_⟩
    exact absurd (Stage2StreamValidator.raisesOnly_clientMetrics parts hne _ hzero) (by decide)
  · intro evidence hfields hbefore hgrouped
    obtain ⟨hlength, hgaps, hne⟩ :=
      gaps_of_ungrouped hgrouped (Stage2RequestEvidence.length_eventTokenIds hfields hbefore)
    refine ⟨hlength, hgaps, fun hzero => ?_⟩
    exact absurd (Stage2RequestEvidence.raisesOnly_checkMetrics hne _ hzero) (by decide)

/-! ### A stream of single tokens -/

/-- Thirty-two events with one id each, every frame in a chunk of its own. -/
def singleTokens : List Bytes :=
  samplePart 1 "x" (lit ",\"prompt_token_ids\":" ++ sampleTokens 64 "0") ::
    List.replicate 30 (samplePart 1 "x" []) ++
    [samplePart 1 "x" (lit ",\"finish_reason\":\"length\""), sampleUsage sampleMetrics, sampleDone]

section

attribute [local instance] cpython exactMetrics

/-- The stream comes to its metrics, and its evidence is checked. -/
theorem exists_singleTokens : ∃ v : Stage2StreamValidator,
    accepted Stage2StreamValidator.call
        (Stage2StreamValidator.start sampleStreamRequest 0 none (some sampleClock))
        (sampleCalls singleTokens) = some v ∧
      (Stage2StreamValidator.closeChecks 100 sampleChain v).1 = .ok () ∧
      (Stage2StreamValidator.closeChecks 100 sampleChain v).2.evidenceParts.toOption.isSome = true ∧
      isGrouped (tokenBearing (Stage2StreamValidator.closeChecks 100 sampleChain v).2.tokenEvents) =
        false ∧
      (Stage2StreamValidator.closeTransport 100 sampleChain v).1.toOption.any (fun evidence =>
        decide (evidence.FieldsValid ∧ evidence.validateReconciliation = .ok () ∧
          evidence.checkBeforeMetrics = .ok () ∧ isGrouped evidence.bearing = false)) = true := by
  exact exists_eq_some (by decide +kernel)

/-- Its 31 gaps are divided by their number, in the metrics and in the checked evidence. -/
theorem perTokenMetrics_reconcile_singleTokens :
    ∃ (v w : Stage2StreamValidator) (parts : Stage2StreamValidator.EvidenceParts)
      (evidence : Stage2RequestEvidence),
      accepted Stage2StreamValidator.call
          (Stage2StreamValidator.start sampleStreamRequest 0 none (some sampleClock))
          (sampleCalls singleTokens) = some v ∧
        Stage2StreamValidator.closeChecks 100 sampleChain v = (.ok (), w) ∧
        w.evidenceParts = .ok parts ∧ (eventGaps (tokenBearing w.tokenEvents)).length = 31 ∧
        @Stage2StreamValidator.clientMetrics binary64Metrics w parts ≠ .error .zeroDivision ∧
        (Stage2StreamValidator.closeTransport 100 sampleChain v).1 = .ok evidence ∧
        @Stage2RequestEvidence.checkMetrics evidence binary64Metrics ≠ .error .zeroDivision ∧
        ∃ first last tpot itl, evidence.bearing.head? = some first ∧
          evidence.bearing.getLast? = some last ∧
          evidence.clientGenerationTpot.valueNs = some tpot ∧
          evidence.tokenObservationItl.valueNs = some itl ∧
          31 * itl = ((last.observationOffsetNs - first.observationOffsetNs : ℤ) : ℚ) ∧
          itl ≤ tpot := by
  obtain ⟨v, hv, hchecks, hparts, hgrouped, hclosed⟩ := exists_singleTokens
  obtain ⟨evidence, hclose, hfields, hvalid, hbefore, hbearing⟩ := exists_eq_ok hclosed
  obtain ⟨parts, hparts⟩ := Option.isSome_iff_exists.mp hparts
  have hparts := ok_of_toOption hparts
  obtain ⟨hstream, hevidence, hexact⟩ := perTokenMetrics_reconcile
  obtain ⟨-, hgaps, hmetrics⟩ := hstream sampleStreamRequest 0 none (some sampleClock)
    (sampleCalls singleTokens) v _ 100 sampleChain parts hv (Method.eq_mk_snd hchecks) hparts
    hgrouped
  obtain ⟨first, last, tpot, itl, hfirst, hlast, htpot, hitl, hsum, hle, -⟩ :=
    hexact evidence evidence (Stage2RequestEvidence.create_eq_ok.mpr ⟨rfl, hfields, hvalid⟩) hbearing
  exact ⟨v, _, parts, evidence, hv, Method.eq_mk_snd hchecks, hparts, hgaps, hmetrics, hclose,
    (hevidence evidence hfields hbefore hbearing).2.2, first, last, tpot, itl, hfirst, hlast, htpot,
    hitl, hsum, hle⟩

end

end Stage2
