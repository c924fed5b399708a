import Mathlib.Data.Prod.Lex
import LlmInferenceSystems.Errors
import LlmInferenceSystems.Intervals

/-!
# Observed concurrency

How many measured requests were active at once is derived by sweeping over the ends of their
half-open lifecycles.

## Main definitions

* `Stage2RequestLifecycle`: when a measured request was active
* `deriveObservedConcurrency`: the sweep
* `activeAt`: how many requests are active at a time

## Main results

* `Swept.turn`: what a turn of the sweep does
* `deriveObservedConcurrency_sweeps`: the sweep finds the greatest number of active requests, and
  whether two of them overlap
-/

namespace Stage2

open Python Intervals

/-- When a measured request was active, inside its phase; the identity of the phase is left out. -/
structure Stage2RequestLifecycle where
  dispatchOffsetNs : ℕ
  terminalOffsetNs : ℕ
  measurementPhaseStartNs : ℕ
  measurementPhaseEndNs : ℕ
  validateInterval : measurementPhaseStartNs ≤ dispatchOffsetNs ∧
    dispatchOffsetNs < terminalOffsetNs ∧ terminalOffsetNs ≤ measurementPhaseEndNs

/-- The attestation of a measured request, as far as its lifecycle goes. -/
structure Stage2MeasuredRequestAttestation where
  lifecycle : Stage2RequestLifecycle

/-- The variables of the loop over the events. -/
structure Sweep where
  active : ℤ := 0
  maximum : ℤ := 0
  overlap : Bool := false
  previousTime : Option ℕ := none

/-- The condition `previous_time is not None and timestamp > previous_time and active >= 2` -/
def Sweep.overlapsBefore (sweep : Sweep) (timestamp : ℕ) : Bool :=
  match sweep.previousTime with
  | none => false
  | some previousTime => previousTime < timestamp ∧ 2 ≤ sweep.active

/-- A turn of the loop. -/
def Sweep.turn (sweep : Sweep) (event : ℕ × ℤ) : Except PyError Sweep :=
  let active := sweep.active + event.2
  if active < 0 then .error (.value "measured lifecycle terminal precedes dispatch")
  else .ok
    { active
      maximum := max sweep.maximum active
      overlap := sweep.overlap || sweep.overlapsBefore event.1
      previousTime := some event.1 }

/-- The key of an event: terminal events are processed before dispatch events at equal
timestamps. -/
def eventKey (event : ℕ × ℤ) : ℕ ×ₗ ℕ := toLex (event.1, if event.2 = -1 then 0 else 1)

/-- The events of the lifecycles. -/
def lifecycleEvents (requests : List Stage2MeasuredRequestAttestation) : List (ℕ × ℤ) :=
  requests.map (fun request => (request.lifecycle.dispatchOffsetNs, 1)) ++
    requests.map fun request => (request.lifecycle.terminalOffsetNs, -1)

/-- `_derive_observed_concurrency` -/
def deriveObservedConcurrency (requests : List Stage2MeasuredRequestAttestation) :
    Except PyError (ℤ × Bool) := do
  let sweep ← (sortedBy eventKey (lifecycleEvents requests)).foldlM Sweep.turn {}
  if sweep.active ≠ 0 then .error (.value "measured lifecycle events do not close")
  else return (sweep.maximum, sweep.overlap)

/-! ## What it is for -/

/-- How many requests are active at a time. -/
def activeAt (requests : List Stage2MeasuredRequestAttestation) (t : ℤ) : ℕ :=
  requests.countP fun request =>
    (request.lifecycle.dispatchOffsetNs : ℤ) ≤ t ∧ t < request.lifecycle.terminalOffsetNs

/-- Two requests are active together for some time. -/
def Overlap (a b : Stage2MeasuredRequestAttestation) : Prop :=
  max a.lifecycle.dispatchOffsetNs b.lifecycle.dispatchOffsetNs <
    min a.lifecycle.terminalOffsetNs b.lifecycle.terminalOffsetNs

/-- Two requests of which one is over when the other is dispatched. -/
def Apart (a b : Stage2MeasuredRequestAttestation) : Prop :=
  a.lifecycle.terminalOffsetNs ≤ b.lifecycle.dispatchOffsetNs ∨
    b.lifecycle.terminalOffsetNs ≤ a.lifecycle.dispatchOffsetNs

/-- A lifecycle as an interval. -/
def Stage2MeasuredRequestAttestation.interval (request : Stage2MeasuredRequestAttestation) :
    HalfOpen ℕ :=
  ⟨request.lifecycle.dispatchOffsetNs, request.lifecycle.terminalOffsetNs,
    request.lifecycle.validateInterval.2.1⟩

variable {requests : List Stage2MeasuredRequestAttestation}

/-- The intervals of the requests. -/
def intervals (requests : List Stage2MeasuredRequestAttestation) : List (HalfOpen ℕ) :=
  requests.map (·.interval)

theorem activeAt_natCast (requests : List Stage2MeasuredRequestAttestation) (t : ℕ) :
    activeAt requests t = coverage (intervals requests) t := by
  rw [coverage, intervals, List.countP_map]
  refine List.countP_congr fun request _ => ?_
  simp only [Function.comp_apply, decide_eq_true_eq]
  exact and_congr Int.ofNat_le Int.ofNat_lt

/-- No request is active before the run's origin. -/
theorem activeAt_of_neg {t : ℤ} (ht : t < 0) : activeAt requests t = 0 := by
  refine List.countP_eq_zero.mpr fun request _ => ?_
  simp only [decide_eq_true_eq, not_and]
  omega

theorem someMeet_intervals :
    SomeMeet (intervals requests) ↔ ∃ a b, [a, b].Sublist requests ∧ Overlap a b := by
  constructor
  · rintro ⟨i, j, hsub, hmeet⟩
    obtain ⟨pair, hpair, hmap⟩ := List.sublist_map_iff.mp hsub
    match pair, hmap with
    | [a, b], hmap =>
      obtain ⟨rfl, rfl⟩ : i = a.interval ∧ j = b.interval := by simpa using hmap
      exact ⟨a, b, hpair, hmeet⟩
  · rintro ⟨a, b, hsub, hoverlap⟩
    have hmap := hsub.map Stage2MeasuredRequestAttestation.interval
    exact ⟨a.interval, b.interval, hmap, hoverlap⟩

theorem overlap_iff_not_apart {a b : Stage2MeasuredRequestAttestation} :
    Overlap a b ↔ ¬ Apart a b := by
  have ha := a.lifecycle.validateInterval.2.1
  have hb := b.lifecycle.validateInterval.2.1
  unfold Overlap Apart
  omega

/-! ## The sweep -/

theorem before_of_eventKey {e e' : ℕ × ℤ} (he : e.2 = 1 ∨ e.2 = -1) (he' : e'.2 = 1 ∨ e'.2 = -1)
    (h : eventKey e ≤ eventKey e') : Before e e' := by
  rcases Prod.Lex.toLex_le_toLex.mp h with hlt | ⟨heq, hsign⟩
  · exact .inl hlt
  · refine .inr ⟨heq, ?_⟩
    rcases he with he | he
    · rcases he' with he' | he'
      · exact .inr he'
      · simp [he, he'] at hsign
    · exact .inl he

/-- The sorted events are in the order of a sweep. -/
theorem sweepOrder_sortedBy (requests : List Stage2MeasuredRequestAttestation) :
    SweepOrder (intervals requests) (sortedBy eventKey (lifecycleEvents requests)) := by
  have hendpoints : lifecycleEvents requests = endpoints (intervals requests) := by
    simp [lifecycleEvents, endpoints, intervals, Stage2MeasuredRequestAttestation.interval,
      Function.comp_def]
  have hperm := sortedBy_perm eventKey (lifecycleEvents requests)
  have hsign : ∀ e ∈ sortedBy eventKey (lifecycleEvents requests), e.2 = 1 ∨ e.2 = -1 := by
    intro e he
    have hmem := hperm.subset he
    rw [lifecycleEvents, List.mem_append, List.mem_map, List.mem_map] at hmem
    rcases hmem with ⟨_, -, rfl⟩ | ⟨_, -, rfl⟩
    · exact .inl rfl
    · exact .inr rfl
  refine ⟨hendpoints ▸ hperm, ?_⟩
  exact (pairwise_sortedBy eventKey _).imp_of_mem fun he he' =>
    before_of_eventKey (hsign _ he) (hsign _ he')

/-- What the variables of the loop are after some events. -/
structure Swept (events : List (ℕ × ℤ)) (sweep : Sweep) : Prop where
  active : sweep.active = runningSum events
  maximum : IsGreatest (prefixValues runningSum events) sweep.maximum
  previousTime : sweep.previousTime = events.getLast?.map Prod.fst
  overlap : sweep.overlap = true ↔
    ∃ p e e', p ++ [e, e'] <+: events ∧ e.1 < e'.1 ∧ 2 ≤ runningSum (p ++ [e])

theorem Swept.nil : Swept [] {} := by
  refine ⟨rfl, ?_, rfl, iff_of_false Bool.false_ne_true ?_⟩
  · rw [prefixValues_nil]
    exact isGreatest_singleton
  · rintro ⟨p, e, e', hstarts, -⟩
    simp at hstarts

theorem Swept.overlapsBefore_iff {events : List (ℕ × ℤ)} {sweep : Sweep} (h : Swept events sweep)
    (event : ℕ × ℤ) :
    sweep.overlapsBefore event.1 = true ↔
      ∃ p e, events = p ++ [e] ∧ e.1 < event.1 ∧ 2 ≤ runningSum (p ++ [e]) := by
  rcases List.eq_nil_or_concat events with rfl | ⟨p, e, rfl⟩
  · simp [Sweep.overlapsBefore, h.previousTime]
  · rw [List.concat_eq_append] at h ⊢
    rw [Sweep.overlapsBefore, h.previousTime, List.getLast?_concat, h.active]
    simp only [Option.map_some, decide_eq_true_eq]
    constructor
    · exact fun hlt => ⟨p, e, rfl, hlt⟩
    · rintro ⟨p', e', heq, hlt⟩
      obtain ⟨rfl, hlast⟩ := List.append_inj' heq rfl
      obtain rfl := List.singleton_inj.mp hlast
      exact hlt

/-- **What a turn of the sweep does**, when the running sum is not negative. -/
theorem Swept.turn {events : List (ℕ × ℤ)} {sweep : Sweep} (h : Swept events sweep)
    {event : ℕ × ℤ} (hnonneg : 0 ≤ runningSum (events ++ [event])) :
    ∃ sweep', sweep.turn event = .ok sweep' ∧ Swept (events ++ [event]) sweep' := by
  have hactive : sweep.active + event.2 = runningSum (events ++ [event]) := by
    rw [runningSum_concat, h.active]
  refine ⟨_, if_neg (by omega), hactive, ?_, by simp, ?_⟩
  · rw [hactive, max_comm]
    exact isGreatest_prefixValues_concat h.maximum event
  · rw [Bool.or_eq_true, h.overlap, h.overlapsBefore_iff event]
    constructor
    · rintro (⟨p, e, e', hstarts, hgap⟩ | ⟨p, e, rfl, hgap⟩)
      · exact ⟨p, e, e', hstarts.trans (List.prefix_append _ _), hgap⟩
      · exact ⟨p, e, event, by simp, hgap⟩
    · rintro ⟨p, e, e', hstarts, hgap⟩
      rcases List.prefix_concat_iff.mp hstarts with heq | hstarts
      · right
        rw [show p ++ [e, e'] = p ++ [e] ++ [e'] by simp] at heq
        obtain ⟨rfl, hlast⟩ := List.append_inj' heq rfl
        obtain rfl := List.singleton_inj.mp hlast
        exact ⟨p, e, rfl, hgap⟩
      · exact .inl ⟨p, e, e', hstarts, hgap⟩

/-- The whole loop. -/
theorem exists_swept {events : List (ℕ × ℤ)}
    (h : ∀ p, p <+: events → 0 ≤ runningSum p) :
    ∃ sweep, events.foldlM Sweep.turn {} = Except.ok sweep ∧ Swept events sweep := by
  induction events using List.reverseRecOn with
  | nil => exact ⟨{}, rfl, Swept.nil⟩
  | append_singleton events event ih =>
    obtain ⟨sweep, hfold, hswept⟩ := ih fun p hp => h p (hp.trans (List.prefix_append _ _))
    obtain ⟨sweep', hturn, hswept'⟩ := hswept.turn (h (events ++ [event]) (List.prefix_refl _))
    refine ⟨sweep', ?_, hswept'⟩
    rw [List.foldlM_append, hfold]
    show (sweep.turn event >>= fun sweep => pure sweep) = _
    rw [hturn]
    rfl

/-- The greatest coverage of natural times is the greatest number of active requests. -/
theorem isGreatest_activeAt {m : ℤ}
    (h : IsGreatest (Set.range fun t => (coverage (intervals requests) t : ℤ)) m) :
    IsGreatest (Set.range fun t : ℤ => (activeAt requests t : ℤ)) m := by
  obtain ⟨⟨t, ht⟩, hupper⟩ := h
  refine ⟨⟨t, by simpa [activeAt_natCast] using ht⟩, ?_⟩
  rintro _ ⟨t', rfl⟩
  dsimp only
  rcases lt_or_ge t' 0 with hneg | hpos
  · rw [activeAt_of_neg hneg, ← ht]
    exact Int.natCast_nonneg _
  · obtain ⟨n, rfl⟩ := Int.eq_ofNat_of_zero_le hpos
    rw [activeAt_natCast]
    exact hupper ⟨n, rfl⟩

/-- What the sweep comes to, in terms of the intervals. -/
theorem deriveObservedConcurrency_eq_ok (requests : List Stage2MeasuredRequestAttestation) :
    ∃ maximum overlap, deriveObservedConcurrency requests = .ok (maximum, overlap) ∧
      IsGreatest (Set.range fun t => (coverage (intervals requests) t : ℤ)) maximum ∧
      (overlap = true ↔ SomeMeet (intervals requests)) := by
  have horder := sweepOrder_sortedBy requests
  obtain ⟨sweep, hfold, hswept⟩ := exists_swept fun p hp => horder.nonneg hp
  refine ⟨sweep.maximum, sweep.overlap, ?_, horder.isGreatest_coverage hswept.maximum,
    hswept.overlap.trans horder.exists_gap_iff⟩
  have hclosed : sweep.active = 0 := hswept.active.trans horder.runningSum_all
  rw [deriveObservedConcurrency, hfold]
  exact if_neg (not_not.mpr hclosed)

/-- **The sweep line computes the true concurrency.** It never raises, its maximum is the greatest
number of requests active at one time, and its flag says whether two requests overlap for some time.
Requests that only touch count for neither, and the order of the requests does not matter. -/
theorem deriveObservedConcurrency_sweeps (requests : List Stage2MeasuredRequestAttestation) :
    ∃ maximum overlap, deriveObservedConcurrency requests = .ok (maximum, overlap) ∧
      IsGreatest (Set.range fun t : ℤ => (activeAt requests t : ℤ)) maximum ∧
      (overlap = true ↔ ∃ a b, [a, b].Sublist requests ∧ Overlap a b) ∧
      (requests.Pairwise Apart → maximum ≤ 1 ∧ overlap = false) ∧
      ∀ requests', requests.Perm requests' →
        deriveObservedConcurrency requests' = .ok (maximum, overlap) := by
  obtain ⟨maximum, overlap, hok, hmaximum, hoverlap⟩ := deriveObservedConcurrency_eq_ok requests
  refine ⟨maximum, overlap, hok, isGreatest_activeAt hmaximum, hoverlap.trans someMeet_intervals,
    fun hapart => ?_, fun requests' hperm => ?_⟩
  · have hnone : ¬ SomeMeet (intervals requests) := by
      rw [someMeet_intervals]
      rintro ⟨a, b, hsub, hmeet⟩
      exact overlap_iff_not_apart.mp hmeet (List.pairwise_iff_forall_sublist.mp hapart hsub)
    refine ⟨?_, Bool.eq_false_iff.mpr fun h => hnone (hoverlap.mp h)⟩
    obtain ⟨⟨t, rfl⟩, -⟩ := hmaximum
    by_contra hmany
    have htwo : (1 : ℤ) < coverage (intervals requests) t := not_le.mp hmany
    exact hnone (someMeet_iff.mpr ⟨t, by exact_mod_cast htwo⟩)
  · obtain ⟨maximum', overlap', hok', hmaximum', hoverlap'⟩ :=
      deriveObservedConcurrency_eq_ok requests'
    have hintervals : (intervals requests).Perm (intervals requests') := hperm.map _
    simp only [coverage_perm hintervals] at hmaximum
    rw [hok', hmaximum'.unique hmaximum]
    rw [someMeet_perm hintervals, ← hoverlap'] at hoverlap
    rw [Bool.eq_iff_iff.mpr hoverlap]

end Stage2
