import LlmInferenceSystems.Stage2.CancellationSafety

/-!
# The cadence of the scrapes

The verdict checks the cadence of a window on the schedule of its scrapes and the duration on their
completions. A scrape that is answered late lengthens the window without adding a sample to it, so a
window has its samples exactly when its last scrape was not later, beyond the first, than the time by
which the window exceeds its duration.

## Main definitions

* `CoversAtCadence`: a window of some duration at a cadence of 100 ms, with its samples
* `KeepsPace`: the lateness of a window's last scrape

## Main results

* `evaluateCancellation_cadence_iff`: when the windows of an accepted probe have their samples
-/

namespace Stage2

open Python

/-! ## Windows -/

/-- How long after it was due a scrape was answered. -/
def CancellationScrapeObservationEvidence.lateness
    (observation : CancellationScrapeObservationEvidence) : ℕ :=
  observation.responseCompletionOffsetNs - observation.scheduledOffsetNs

/-- The scrapes are due 100 ms apart, cover a duration and are at least so many. -/
structure CoversAtCadence (durationNs count : ℕ) (snapshots : List PrometheusSnapshot)
    (observations : List CancellationScrapeObservationEvidence) : Prop where
  cadence : (scheduledOffsets observations).IsChain fun left right => left + 100000000 = right
  duration : ∃ first last, snapshots.head? = some first ∧ snapshots.getLast? = some last ∧
    first.scrapeMonotonicOffsetNs + durationNs ≤ last.scrapeMonotonicOffsetNs
  samples : count ≤ snapshots.length

/-- The last scrape is later than the first by no more than the window exceeds the duration. -/
def KeepsPace (durationNs : ℕ) (observations : List CancellationScrapeObservationEvidence) : Prop :=
  ∃ first last, observations.head? = some first ∧ observations.getLast? = some last ∧
    first.responseCompletionOffsetNs + last.lateness + durationNs ≤
      last.responseCompletionOffsetNs + first.lateness

/-- Steps of one size add up. -/
theorem getLast_eq_of_isChain {spacing : ℕ} {offsets : List ℕ}
    (h : offsets.IsChain fun left right => left + spacing = right) {first last : ℕ}
    (hfirst : offsets.head? = some first) (hlast : offsets.getLast? = some last) :
    last = first + spacing * (offsets.length - 1) := by
  induction offsets generalizing first with
  | nil => simp at hfirst
  | cons offset rest ih =>
    obtain rfl := Option.some.inj hfirst
    cases rest with
    | nil =>
      obtain rfl := Option.some.inj hlast
      simp
    | cons next rest =>
      obtain ⟨hstep, hrest⟩ := List.isChain_cons_cons.mp h
      have hlater := ih hrest rfl (by rwa [List.getLast?_cons_cons] at hlast)
      simp only [List.length_cons, Nat.add_sub_cancel] at hlater ⊢
      rw [hlater, ← hstep, Nat.mul_add]
      omega

/-- **A window that is as long as it must be has its samples exactly when it keeps pace.** -/
theorem coversAtCadence_iff {durationNs count : ℕ}
    (hcount : durationNs + 100000000 = 100000000 * count)
    {snapshots : List PrometheusSnapshot}
    {observations : List CancellationScrapeObservationEvidence}
    (hanswered : List.Forall₂ (fun (observation : CancellationScrapeObservationEvidence)
      (snapshot : PrometheusSnapshot) =>
        observation.responseCompletionOffsetNs = snapshot.scrapeMonotonicOffsetNs)
      observations snapshots)
    (hdue : ∀ observation ∈ observations,
      observation.scheduledOffsetNs ≤ observation.responseCompletionOffsetNs)
    (hcadence : (scheduledOffsets observations).IsChain fun left right => left + 100000000 = right)
    (hduration : ∃ first last, snapshots.head? = some first ∧ snapshots.getLast? = some last ∧
      first.scrapeMonotonicOffsetNs + durationNs ≤ last.scrapeMonotonicOffsetNs) :
    CoversAtCadence durationNs count snapshots observations ↔ KeepsPace durationNs observations := by
  obtain ⟨first, last, hfirst, hlast, hlong⟩ := hduration
  have hlength := hanswered.length_eq
  have hne : observations ≠ [] := by
    rintro rfl
    cases hanswered
    simp at hfirst
  obtain ⟨firstDue, hfirstDue⟩ := Option.ne_none_iff_exists'.mp (mt List.head?_eq_none_iff.mp hne)
  obtain ⟨lastDue, hlastDue⟩ :=
    Option.ne_none_iff_exists'.mp (mt List.getLast?_eq_none_iff.mp hne)
  have hpos := List.length_pos_iff.mpr hne
  have hfirstLe := hdue firstDue (List.mem_of_head? hfirstDue)
  have hlastLe := hdue lastDue (List.mem_of_getLast? hlastDue)
  have hschedule := getLast_eq_of_isChain hcadence
    (show (scheduledOffsets observations).head? = some firstDue.scheduledOffsetNs by
      rw [scheduledOffsets, List.head?_map, hfirstDue, Option.map_some])
    (show (scheduledOffsets observations).getLast? = some lastDue.scheduledOffsetNs by
      rw [scheduledOffsets, List.getLast?_map, hlastDue, Option.map_some])
  rw [scheduledOffsets, List.length_map] at hschedule
  -- both sides say that the schedule itself spans the duration
  constructor
  · rintro ⟨-, -, hsamples⟩
    refine ⟨firstDue, lastDue, hfirstDue, hlastDue, ?_⟩
    simp only [CancellationScrapeObservationEvidence.lateness]
    omega
  · rintro ⟨firstDue', lastDue', hfirstDue', hlastDue', hpace⟩
    obtain rfl := Option.some.inj (hfirstDue.symm.trans hfirstDue')
    obtain rfl := Option.some.inj (hlastDue.symm.trans hlastDue')
    refine ⟨hcadence, ⟨first, last, hfirst, hlast, hlong⟩, ?_⟩
    simp only [CancellationScrapeObservationEvidence.lateness] at hpace
    omega

namespace CancellationProbe

section

variable [Interpreter] {probe : CancellationProbe}

/-! ## The windows of an accepted probe -/

theorem forall_answered (h : probe.observationsDiffer = .ok false) :
    List.Forall₂ (fun (observation : CancellationScrapeObservationEvidence)
      (snapshot : PrometheusSnapshot) =>
        observation.responseCompletionOffsetNs = snapshot.scrapeMonotonicOffsetNs)
      probe.scrapeObservations probe.allSnapshots ∧
    ∀ observation ∈ probe.scrapeObservations,
      observation.scheduledOffsetNs ≤ observation.responseCompletionOffsetNs := by
  unfold observationsDiffer at h
  split at h
  · simp at h
  · simp only [anyOf_cons_eq_false, anyZip_eq_false, Except.ok.injEq, decide_eq_false_iff_not] at h
    refine ⟨h.2.1.imp fun _ _ => not_not.mp, fun observation hmem => ?_⟩
    by_contra hlate
    exact h.2.2.1 ⟨observation, hmem, fun hboth => hlate (hboth.1.trans hboth.2)⟩

/-- The observations of the stable second and of the cooldown are those of their snapshots. -/
theorem forall_answered_windows (h : probe.observationsDiffer = .ok false) :
    List.Forall₂ (fun (observation : CancellationScrapeObservationEvidence)
      (snapshot : PrometheusSnapshot) =>
        observation.responseCompletionOffsetNs = snapshot.scrapeMonotonicOffsetNs)
      probe.stableObservations probe.stableGenerationSnapshots ∧
    List.Forall₂ (fun (observation : CancellationScrapeObservationEvidence)
      (snapshot : PrometheusSnapshot) =>
        observation.responseCompletionOffsetNs = snapshot.scrapeMonotonicOffsetNs)
      probe.cooldownObservations probe.cooldownSnapshots := by
  have hall := (forall_answered h).1
  constructor
  · have hwindow := List.forall₂_take probe.stableGenerationSnapshots.length (List.forall₂_drop
      (probe.preDispatchSnapshots.length + probe.drainSnapshots.length) hall)
    rw [allSnapshots, List.append_assoc, List.append_assoc, ← List.length_append,
      List.drop_left, List.take_left] at hwindow
    rw [stableObservations, ← List.length_append]
    exact hwindow
  · have hwindow := List.forall₂_take probe.cooldownSnapshots.length (List.forall₂_drop
      (probe.preDispatchSnapshots.length + probe.drainSnapshots.length +
        probe.stableGenerationSnapshots.length) hall)
    rw [allSnapshots, List.append_assoc, ← List.length_append, ← List.length_append,
      List.drop_left, List.take_left] at hwindow
    rw [cooldownObservations, ← List.length_append, ← List.length_append]
    exact hwindow

/-- **The windows of an accepted probe have their samples exactly when they keep pace.** -/
theorem evaluateCancellation_cadence_iff {result : CancellationResult}
    (h : probe.evaluateCancellation = .ok result) (haccepted : result.accepted = true) :
    (CoversAtCadence 1000000000 11 probe.stableGenerationSnapshots probe.stableObservations ∧
      CoversAtCadence 2000000000 21 probe.cooldownSnapshots probe.cooldownObservations) ↔
    KeepsPace 1000000000 probe.stableObservations ∧
      KeepsPace 2000000000 probe.cooldownObservations := by
  obtain ⟨internalAbort, externalAbort, h⟩ :=
    evaluateCancellation_accepted_iff.mp ⟨h, haccepted⟩
  have hdue := (forall_answered h.observations).2
  obtain ⟨hstableAnswered, hcooldownAnswered⟩ := forall_answered_windows h.observations
  have hwindows := h.windows
  simp only [windowsFail, anyOf_cons_eq_false, bind_eq_ok, first_eq_ok, last_eq_ok, pure,
    Except.pure, Except.ok.injEq, decide_eq_false_iff_not, not_lt, Bool.not_eq_eq_eq_not,
    Bool.not_false, spacedExactly, decide_eq_true_eq] at hwindows
  obtain ⟨-, -, -, -, -, -, -, ⟨stable₁, hstable₁, stable₀, hstable₀, hstable⟩, hstableSpaced, -, -,
    ⟨cooldown₁, hcooldown₁, cooldown₀, hcooldown₀, hcooldown⟩, hcooldownSpaced, -⟩ := hwindows
  refine and_congr ?_ ?_
  · refine coversAtCadence_iff (by decide) hstableAnswered (fun observation hmem => hdue _ ?_)
      (forall_neighbours.mp hstableSpaced) ⟨stable₀, stable₁, hstable₀, hstable₁, hstable⟩
    exact List.mem_of_mem_drop (List.mem_of_mem_take hmem)
  · refine coversAtCadence_iff (by decide) hcooldownAnswered (fun observation hmem => hdue _ ?_)
      (forall_neighbours.mp hcooldownSpaced)
      ⟨cooldown₀, cooldown₁, hcooldown₀, hcooldown₁, hcooldown⟩
    exact List.mem_of_mem_drop (List.mem_of_mem_take hmem)

end

/-! ## Two scrapes for a second -/

section

attribute [local instance] cpython

theorem sampleProbe_cadence :
    ∃ (probe : CancellationProbe) (result : CancellationResult),
      probe.evaluateCancellation = .ok result ∧ result.accepted = true ∧
        ((CoversAtCadence 1000000000 11 probe.stableGenerationSnapshots probe.stableObservations ∧
          CoversAtCadence 2000000000 21 probe.cooldownSnapshots probe.cooldownObservations) ↔
        KeepsPace 1000000000 probe.stableObservations ∧
          KeepsPace 2000000000 probe.cooldownObservations) := by
  obtain ⟨chain, capture, hlog⟩ := exists_probeLog
  obtain ⟨result, hresult, haccepted⟩ := @sampleProbe_accepted _ _ 64 hlog (.inl rfl)
  exact ⟨_, result, hresult, haccepted, evaluateCancellation_cadence_iff hresult haccepted⟩

/-- A schedule the second scrapes of both windows fall behind. -/
def lateDue (phase : ScrapePhase) (ordinal answered : ℕ) : ℕ :=
  match phase with
  | .stableGeneration => 2400000000 + 100000000 * ordinal
  | .cooldown => 2500000000 + 100000000 * ordinal
  | _ => answered

/-- Two scrapes a tenth of a second apart on the schedule, the second answered as late as the window
is long, and twenty-eight retained afterwards. -/
def lateScrapes : CancellationProbe :=
  sampleHistory (ticks 0 0 0 10) (ticks 64 1 1500000000 10)
    [sampleSnapshot 64 1 2400000000, sampleSnapshot 64 1 3400000000]
    [sampleSnapshot 64 1 3400000000, sampleSnapshot 64 1 5400000000]
    ((List.range 28).map fun i => sampleSnapshot 64 1 (5400000001 + i)) lateDue

theorem mem_lateScrapes {snapshot : PrometheusSnapshot} (h : snapshot ∈ lateScrapes.allSnapshots) :
    ∃ prompt generation offset, snapshot = sampleSnapshot prompt generation offset ∧
      0 ≤ prompt ∧ 0 ≤ generation ∧ offset < 10 ^ 10 := by
  have hticks : ∀ {prompt generation : ℚ} {start n : ℕ}, 0 ≤ prompt → 0 ≤ generation →
      start + 100000000 * n ≤ 10 ^ 10 → snapshot ∈ ticks prompt generation start n →
      ∃ prompt generation offset, snapshot = sampleSnapshot prompt generation offset ∧
        0 ≤ prompt ∧ 0 ≤ generation ∧ offset < 10 ^ 10 := by
    intro prompt generation start n hprompt hgeneration hsmall hmem
    obtain ⟨i, hi, rfl⟩ := List.mem_map.mp hmem
    exact ⟨_, _, _, rfl, hprompt, hgeneration, by have := List.mem_range.mp hi; omega⟩
  simp only [allSnapshots, lateScrapes, sampleHistory, List.mem_append, List.mem_cons,
    List.not_mem_nil, or_false, List.mem_map, List.mem_range] at h
  rcases h with (((hmem | hmem) | (rfl | rfl)) | (rfl | rfl)) | ⟨i, hi, rfl⟩
  · exact hticks (by decide) (by decide) (by decide) hmem
  · exact hticks (by decide) (by decide) (by decide) hmem
  all_goals exact ⟨64, 1, _, rfl, by decide, by decide, by omega⟩

theorem scrapesPass_lateScrapes : lateScrapes.ScrapesPass := by
  constructor
  case snapshots =>
    -- -- every snapshot is a sample at one of the ticks
    intro snapshot hsnapshot
    obtain ⟨prompt, generation, offset, hsame, -, -, hoffset⟩ := mem_lateScrapes hsnapshot
    exact ⟨prompt, generation, offset, hsame, hoffset⟩
  case few => simp [allSnapshots, lateScrapes, sampleHistory, ticks]
  case onTime =>
    -- -- the due time of each scrape, over the 160 entries of the history
    have hdue : ∀ phase ∈ lateScrapes.phaseSnapshots, ∀ entry ∈ phase.2.zipIdx,
        lateDue phase.1 entry.2 entry.1.scrapeMonotonicOffsetNs ≤
          entry.1.scrapeMonotonicOffsetNs := by decide +kernel
    intro observation hobservation
    obtain ⟨phase, hphase, hobservation⟩ := List.mem_flatMap.mp hobservation
    obtain ⟨entry, hentry, rfl⟩ := List.mem_map.mp hobservation
    exact hdue phase hphase entry hentry
  case preLength => simp [lateScrapes, sampleHistory, ticks]
  case drainLength => simp [lateScrapes, sampleHistory, ticks]
  case windows =>
    intro externalAbort hexternal
    have hstable : first lateScrapes.stableGenerationSnapshots =
        .ok (sampleSnapshot 64 1 2400000000) := rfl
    have hdrain : last lateScrapes.drainSnapshots = .ok (sampleSnapshot 64 1 2400000000) := rfl
    simp only [windowsFail, anyOf_cons_eq_false, hexternal, anyOf_nil, and_true]
    refine ⟨?_, ?_, ?_, ?_, ?_, ?_, ?_, ?_, ?_, ?_, ?_, ?_, ?_, ?_, ?_, ?_, ?_⟩
    -- -- the counters of the stable and the drained window are the same sample's
    case refine_6 =>
      rw [hstable, hdrain]
      exact congrArg Except.ok (decide_eq_false (not_not.mpr rfl))
    all_goals decide +kernel
  case retained => exact exists_eq_ok (by decide +kernel)
  case reported => exact exists_eq_ok (by decide +kernel)
  all_goals decide +kernel

/-- Two samples stand in for the eleven of a second. -/
theorem exists_accepted_not_cadence :
    ∃ (probe : CancellationProbe) (result : CancellationResult), probe.Valid ∧
      probe.evaluateCancellation = .ok result ∧ result.accepted = true ∧
        ¬ (CoversAtCadence 1000000000 11 probe.stableGenerationSnapshots probe.stableObservations ∧
          CoversAtCadence 2000000000 21 probe.cooldownSnapshots probe.cooldownObservations) := by
  obtain ⟨chain, capture, hlog⟩ := exists_probeLog
  obtain ⟨result, hresult, haccepted⟩ := sampleHistory_accepted hlog scrapesPass_lateScrapes
  have hvalid := valid_sampleHistory hlog scrapesPass_lateScrapes (fun snapshot hsnapshot => by
    obtain ⟨prompt, generation, offset, rfl, hprompt, hgeneration, -⟩ := mem_lateScrapes hsnapshot
    exact valid_sampleSnapshot hprompt hgeneration offset) (by decide) (by decide)
    (by simp [allSnapshots, sampleHistory, ticks]) []
  refine ⟨_, result, hvalid, hresult, haccepted, fun hcovers => ?_⟩
  exact absurd hcovers.1.samples (by decide : ¬ 11 ≤ 2)

end

end CancellationProbe

end Stage2
