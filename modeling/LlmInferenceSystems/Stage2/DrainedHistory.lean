import LlmInferenceSystems.Stage2.CancellationHistory
import LlmInferenceSystems.Stage2.HonestLogs
import LlmInferenceSystems.Stage2.LogLines

/-!
# The history of an accepted probe

The scrapes of an accepted probe, the boundary samples taken once, are one history: of one process,
quiescent throughout, with counters that never decrease, stand still before dispatch and again from
the end of the drain on. The boundary sample between the stable second and the cooldown is retained
twice, and the verdict compares the two copies by their times and their generation counter only.

## Main definitions

* `DrainedHistory`: what an accepted probe is
* `SharedSamples`: boundary samples that are one and the same, and no retained sample contradicts

## Main results

* `evaluateCancellation_drainedHistory`: an accepted probe is a drained history
* `evaluateCancellation_sharedSamples_iff`: an accepted probe shares its boundary samples exactly
  when the first sample of its cooldown is the last of its stable second
-/

namespace Stage2

open Python

namespace CancellationProbe

section

variable [Interpreter]

/-- What an accepted probe is. -/
structure DrainedHistory (probe : CancellationProbe) (result : CancellationResult) : Prop where
  increasing : probe.chronological.Pairwise
    (·.scrapeMonotonicOffsetNs < ·.scrapeMonotonicOffsetNs)
  process : ∀ snapshot ∈ probe.chronological,
    snapshot.processStartId = probe.serverProcessIdentity
  quiescent : ∀ snapshot ∈ probe.chronological,
    counterValue snapshot (requestsRunning, none) = some 0 ∧
      counterValue snapshot (requestsWaiting, none) = some 0
  nondecreasing : ∀ selector ∈ cancellationCounterSelectors,
    probe.chronological.Pairwise (Advances selector)
  constantBefore : ∀ selector ∈ cancellationCounterSelectors, ∃ value,
    ∀ snapshot ∈ probe.preDispatchSnapshots, counterValue snapshot selector = some value
  constantAfter : ∃ drained, probe.drainSnapshots.getLast? = some drained ∧
    ∀ selector ∈ cancellationCounterSelectors, ∃ value, ∀ snapshot ∈
      drained :: (probe.stableGenerationSnapshots.tail ++ probe.cooldownSnapshots.tail ++
        probe.laterRetainedSnapshots), counterValue snapshot selector = some value
  dispatch : ∃ baseline, probe.preDispatchSnapshots.getLast? = some baseline ∧
    baseline.scrapeMonotonicOffsetNs < probe.dispatchOffsetNs
  aborts : ∃ internalAbort externalAbort first,
    probe.identityChain.internalAbortLog = some internalAbort ∧
    probe.identityChain.externalAbortLog = some externalAbort ∧
    probe.drainSnapshots.head? = some first ∧
    probe.clientCloseOffsetNs ≤ internalAbort.observationOffsetNs ∧
    internalAbort.observationOffsetNs ≤ externalAbort.observationOffsetNs ∧
    externalAbort.observationOffsetNs ≤ first.scrapeMonotonicOffsetNs
  cooledDown : ∃ final, probe.cooldownSnapshots.getLast? = some final ∧
    final.scrapeMonotonicOffsetNs ≤ probe.clientCloseOffsetNs + 10000000000
  reported : ∃ baseline final, probe.preDispatchSnapshots.getLast? = some baseline ∧
    probe.lastRetainedSnapshot = .ok final ∧ Reported baseline final result

/-- From the end of the drain on, the samples that were compared show the drained counters. -/
theorem Accepted.drained {probe : CancellationProbe} {internalAbort externalAbort : RawLogRecord}
    {result : CancellationResult} (h : probe.Accepted internalAbort externalAbort result)
    {drain₀ drain₁ stable₁ cooldown₀ cooldown₁ : PrometheusSnapshot}
    (hwindows : probe.Windows externalAbort drain₀ drain₁ stable₁ cooldown₀ cooldown₁)
    {selector : Str × Option Str} (hselector : selector ∈ cancellationCounterSelectors) :
    ∃ value, ∀ snapshot ∈ probe.stableAndLater, counterValue snapshot selector = some value := by
  have hdrain₁ := List.mem_of_getLast? hwindows.lastDrain
  obtain ⟨value, hvalue⟩ := h.exists_counterValue hselector
    (show drain₁ ∈ probe.chronological by simp [chronological, hdrain₁])
  refine ⟨value, fun snapshot hsnapshot => ?_⟩
  rw [← hvalue]
  refine eq_of_pairwise_eq (pairwise_of_selectedCounters h.counters.stable hselector) hsnapshot ?_
  simp [stableAndLater, List.mem_of_head? hwindows.firstStable]

/-- **An accepted probe is a quiescent, monotone, drained history.** -/
theorem evaluateCancellation_drainedHistory {probe : CancellationProbe}
    {result : CancellationResult} (h : probe.evaluateCancellation = .ok result)
    (haccepted : result.accepted = true) : probe.DrainedHistory result := by
  -- what was accepted passed every check of the verdict
  obtain ⟨internalAbort, externalAbort, h⟩ :=
    evaluateCancellation_accepted_iff.mp ⟨h, haccepted⟩
  obtain ⟨drain₀, drain₁, stable₁, cooldown₀, cooldown₁, hwindows⟩ := exists_windows h.windows
  -- between any two snapshots, a later one included, no selected counter goes back
  have hchain : ∀ selector ∈ cancellationCounterSelectors,
      probe.chronological.Pairwise (Advances selector) := fun _ =>
    pairwise_of_counterProgression h.counters.progression
  constructor
  case increasing =>
    exact (hchain (promptTokens, none) (by simp [cancellationCounterSelectors])).imp And.left
  case process =>
    intro snapshot hsnapshot
    have hprocess := h.process
    simp only [processDiffers, decide_eq_false_iff_not, not_or, not_exists, not_and,
      not_not] at hprocess
    exact hprocess.2 snapshot (mem_allSnapshots_of_mem_chronological hsnapshot)
  case quiescent =>
    intro snapshot hsnapshot
    obtain ⟨⟨⟩, heach, -⟩ := exists_of_map_eq_ok (failsOrRaises_eq_false.mp h.quiescence)
    exact counterValue_of_requireQuiescent
      (each_eq_ok.mp heach snapshot (mem_allSnapshots_of_mem_chronological hsnapshot))
  case nondecreasing => exact hchain
  case constantBefore =>
    intro selector hselector
    have hlength : 0 < probe.preDispatchSnapshots.length := by
      -- any of the snapshots before the dispatch will do
      rw [h.preLength]
      decide
    obtain ⟨baseline, hbaseline⟩ := List.exists_mem_of_length_pos hlength
    obtain ⟨value, hvalue⟩ := h.exists_counterValue hselector
      (show baseline ∈ probe.chronological by simp [chronological, hbaseline])
    refine ⟨value, fun snapshot hsnapshot => ?_⟩
    rw [← hvalue]
    exact eq_of_pairwise_eq (pairwise_of_selectedCounters h.counters.preStable hselector) hsnapshot
      hbaseline
  case constantAfter =>
    refine ⟨drain₁, hwindows.lastDrain, fun selector hselector => ?_⟩
    obtain ⟨value, hvalue⟩ := h.drained hwindows hselector
    -- the value after the drain is that of its last snapshot
    refine ⟨value, fun snapshot hsnapshot => hvalue snapshot ?_⟩
    simp only [stableAndLater, List.mem_append, List.mem_cons] at hsnapshot ⊢
    rcases hsnapshot with rfl | (hmem | hmem) | hmem
    · exact .inl (.inl (List.mem_of_head? hwindows.firstStable))
    · exact .inl (.inl (List.mem_of_mem_tail hmem))
    · exact .inl (.inr hmem)
    · exact .inr hmem
  case dispatch =>
    have hpre := h.preWindow
    simp only [preWindowFails, anyOf_cons_eq_false, bind_eq_ok, last_eq_ok, pure, Except.pure,
      Except.ok.injEq, decide_eq_false_iff_not, not_le] at hpre
    exact hpre.2.2.1
  case aborts =>
    have hchronology := h.chronology
    simp only [chronologyDiffers, decide_eq_false_iff_not, not_or, not_not,
      List.isChain_cons_cons] at hchronology
    obtain ⟨-, -, -, -, -, hclose, hinternal, -⟩ := hchronology
    exact ⟨internalAbort, externalAbort, drain₀, h.internal, h.external, hwindows.firstDrain,
      hclose, hinternal, hwindows.externalAbort⟩
  case cooledDown => exact ⟨cooldown₁, hwindows.lastCooldown, hwindows.close⟩
  case reported => exact h.reported

/-! ## The samples two phases share -/

/-- The boundary samples are one and the same, and no retained sample contradicts the drained
counters. -/
structure SharedSamples (probe : CancellationProbe) : Prop where
  stable : probe.stableGenerationSnapshots.head? = probe.drainSnapshots.getLast?
  cooldown : probe.cooldownSnapshots.head? = probe.stableGenerationSnapshots.getLast?
  counters : ∃ drained, probe.drainSnapshots.getLast? = some drained ∧
    ∀ selector ∈ cancellationCounterSelectors, ∃ value, ∀ snapshot ∈
      drained :: (probe.stableGenerationSnapshots ++ probe.cooldownSnapshots ++
        probe.laterRetainedSnapshots), counterValue snapshot selector = some value

/-- **An accepted probe shares its boundary samples exactly when the first sample of its cooldown is
the last of its stable second.** -/
theorem evaluateCancellation_sharedSamples_iff {probe : CancellationProbe}
    {result : CancellationResult} (h : probe.evaluateCancellation = .ok result)
    (haccepted : result.accepted = true) :
    probe.SharedSamples ↔
      probe.cooldownSnapshots.head? = probe.stableGenerationSnapshots.getLast? := by
  obtain ⟨internalAbort, externalAbort, h⟩ :=
    evaluateCancellation_accepted_iff.mp ⟨h, haccepted⟩
  obtain ⟨drain₀, drain₁, stable₁, cooldown₀, cooldown₁, hwindows⟩ := exists_windows h.windows
  refine ⟨SharedSamples.cooldown, fun hcooldown => ?_⟩
  refine ⟨hwindows.firstStable.trans hwindows.lastDrain.symm, hcooldown, drain₁,
    hwindows.lastDrain, fun selector hselector => ?_⟩
  obtain ⟨value, hvalue⟩ := h.drained hwindows hselector
  refine ⟨value, fun snapshot hsnapshot => hvalue snapshot ?_⟩
  obtain ⟨tail, htail⟩ := List.head?_eq_some_iff.mp hwindows.firstCooldown
  rw [hwindows.firstCooldown] at hcooldown
  have hshared : cooldown₀ ∈ probe.stableGenerationSnapshots :=
    List.mem_of_getLast? hcooldown.symm
  rw [htail] at hsnapshot
  simp only [stableAndLater, htail, List.tail_cons, List.mem_append, List.mem_cons] at hsnapshot ⊢
  rcases hsnapshot with rfl | (hmem | rfl | hmem) | hmem
  · exact .inl (.inl (List.mem_of_head? hwindows.firstStable))
  · exact .inl (.inl hmem)
  · exact .inl (.inl hshared)
  · exact .inl (.inr hmem)
  · exact .inr hmem

end

/-! ## A cancelled request -/

section

attribute [local instance] cpython

/-- A series with the model's labels. -/
def series (name : Str) (value : ℚ) (reason : Option Str := none) : PrometheusSample where
  name := name
  labels := sortedLabels (modelLabels ++ (reason.map (lit "finished_reason", ·)).toList)
  value := value

/-- The line of a sample whose labels need no escaping. -/
def expose (sample : PrometheusSample) : Str :=
  sample.name ++ lit "\x7b" ++ (lit ",").intercalate (sample.labels.map fun label =>
    label.1 ++ lit "=\"" ++ label.2 ++ lit "\"") ++ lit "\x7d " ++ reprWhole sample.value ++ lit "\n"

/-- The series of a scrape, for two counters of tokens. -/
def sampleSeries (prompt generation : ℚ) : List PrometheusSample :=
  [series generationTokens generation, series preemptions 0, series requestsRunning 0,
    series requestsWaiting 0, series prefixCacheHits 0, series prefixCacheQueries 0,
    series promptTokens prompt] ++
  [abort, lit "error", lit "length", lit "repetition", lit "stop"].map fun reason =>
    series requestSuccess 0 (some reason)

/-- A quiescent scrape of the process `p` that shows some prompt and generation counters. -/
def sampleSnapshot (prompt generation : ℚ) (offset : ℕ) : PrometheusSnapshot :=
  let samples := sampleSeries prompt generation
  let exposition := samples.flatMap expose
  { processStartId := lit "p"
    scrapeWallClockUtc := lit "2026-01-01T00:00:00Z"
    scrapeMonotonicOffsetNs := offset
    rawExposition := exposition
    rawExpositionSha256 := Interpreter.hexdigest (exposition.map UInt8.ofNat)
    samples
    labelInventory := (samples.take 7).map (fun sample => (sample.name, [sample.labels])) ++
      [(requestSuccess, (samples.drop 7).map (·.labels))] }

/-- Scrapes a tenth of a second apart. -/
def ticks (prompt generation : ℚ) (start n : ℕ) : List PrometheusSnapshot :=
  (List.range n).map fun i => sampleSnapshot prompt generation (start + 100000000 * i)

/-- The observations of scrapes that were due and sent at some time before they were answered. -/
def observed (due : ScrapePhase → ℕ → ℕ → ℕ) (probe : CancellationProbe) :
    List CancellationScrapeObservationEvidence :=
  probe.phaseSnapshots.flatMap fun phase => phase.2.zipIdx.map fun entry =>
    { phase := phase.1
      phaseOrdinal := entry.2
      scheduledOffsetNs := due phase.1 entry.2 entry.1.scrapeMonotonicOffsetNs
      requestDispatchOffsetNs := due phase.1 entry.2 entry.1.scrapeMonotonicOffsetNs
      responseCompletionOffsetNs := entry.1.scrapeMonotonicOffsetNs
      snapshotIdentitySha256 := (sha256Identity entry.1.dump).toOption.getD [] }

/-- A probe of the process `p` with some scrapes, its log left out. -/
def sampleHistory (pre drain stable cooldown later : List PrometheusSnapshot)
    (due : ScrapePhase → ℕ → ℕ → ℕ) : CancellationProbe :=
  let probe : CancellationProbe :=
    { repetitionIndex := 1
      serverProcessIdentity := lit "p"
      identityChain := honestChain [] [] sampleReceived sampleReceived none
      rawLogCapture := captureOf [] [] [] []
      rawLogCaptureSha256 := []
      rawLogStartByteOffset := 0
      dispatchOffsetNs := 1000000000
      firstGenerationDelivery :=
        { externalRequestId := lit "a"
          responseBodyId := lit "cmpl-a"
          generationEventOrdinal := 0
          bodyChunkOrdinal := 0
          observationOffsetNs := 1100000000
          outputTokenIds := [1] }
      clientCloseOffsetNs := 1200000000
      preDispatchSnapshots := pre
      drainSnapshots := drain
      stableGenerationSnapshots := stable
      cooldownSnapshots := cooldown
      laterRetainedSnapshots := later
      scrapeObservations := []
      residualState :=
        { observationOffsetNs := 5500000000
          rawProcessInventory := []
          rawProcessInventorySha256 := Interpreter.hexdigest []
          activeRequestIds := []
          projectProcessIds := [] } }
  { probe with scrapeObservations := observed due probe }

/-- Scrapes whose cooldown starts with one that shows some prompt counter, each answered when it was
due. -/
def sampleScrapes (boundaryPrompt : ℚ) : CancellationProbe :=
  sampleHistory (ticks 0 0 0 10) (ticks 64 1 1500000000 10) (ticks 64 1 2400000000 11)
    (sampleSnapshot boundaryPrompt 1 3400000000 :: ticks 64 1 3500000000 20) []
    fun _ _ answered => answered

/-- A probe with another log and chain. -/
def withLog (probe : CancellationProbe) (chain : RequestIdentityChain) (capture : RawLogCapture) :
    CancellationProbe :=
  { probe with
    identityChain := chain
    rawLogCapture := capture
    rawLogCaptureSha256 := capture.rawBytesSha256 }

theorem observationsDiffer_withLog (probe : CancellationProbe) (chain : RequestIdentityChain)
    (capture : RawLogCapture) :
    (probe.withLog chain capture).observationsDiffer = probe.observationsDiffer := rfl

/-- A probe whose boundary scrapes count these prompt tokens. -/
def sampleProbe (chain : RequestIdentityChain) (capture : RawLogCapture) (boundaryPrompt : ℚ) :
    CancellationProbe :=
  (sampleScrapes boundaryPrompt).withLog chain capture

/-- A log of the cancelled request of the sample probes, and its chain. -/
structure ProbeLog (chain : RequestIdentityChain) (capture : RawLogCapture) : Prop where
  valid : capture.Valid
  stream : capture.sourceStreamId = lit "p-raw-log"
  correlated : correlateRequestLogs (lit "a") capture.records true = .ok chain
  base : chain.externalBaseId = lit "a"
  start : chain.requestReceivedLog.byteStart = 0
  received : chain.requestReceivedLog.observationOffsetNs = 1010000000
  added : chain.requestAddLog.observationOffsetNs = 1020000000
  internal : chain.internalAbortLog.map (·.observationOffsetNs) = some 1300000000
  external : chain.externalAbortLog.map (·.observationOffsetNs) = some 1400000000

theorem exists_probeLog : ∃ chain capture, ProbeLog chain capture := by
  have hlines : ∀ line ∈ cancelledLines (lit "Added request cmpl-a-0-1234abcd."),
      line ≠ [] ∧ ∀ c ∈ line, c < 128 := by decide
  obtain ⟨capture, -, hvalid, hstream, hrecords⟩ := @retainRawLogCapture_eq_ok _
    (lit "p-raw-log") (by decide) _
    (fun line hline => ⟨(hlines line hline).1, encodable_of_ascii (hlines line hline).2⟩)
    (by decide) 0 (some [1010000000, 1020000000, 1300000000, 1400000000]) (by decide)
    (by decide +kernel)
  obtain ⟨chain, hchain, hbase, hstart, hreceived, hadded, hinternal, hexternal⟩ := exists_eq_ok
    (x := correlateRequestLogs (lit "a") ((retainRawLogRecords
      (cancelledLines (lit "Added request cmpl-a-0-1234abcd.")) (lit "p-raw-log") 0
      (some [1010000000, 1020000000, 1300000000, 1400000000])).toOption.getD []) true)
    (p := fun chain => chain.externalBaseId = lit "a" ∧
      chain.requestReceivedLog.byteStart = 0 ∧
      chain.requestReceivedLog.observationOffsetNs = 1010000000 ∧
      chain.requestAddLog.observationOffsetNs = 1020000000 ∧
      chain.internalAbortLog.map (·.observationOffsetNs) = some 1300000000 ∧
      chain.externalAbortLog.map (·.observationOffsetNs) = some 1400000000)
    (by decide +kernel)
  rw [hrecords] at hchain
  exact ⟨chain, capture, hvalid, hstream, hchain, hbase, hstart, hreceived, hadded, hinternal,
    hexternal⟩

/-- The names and labels of the sample series are ASCII, whatever they show. -/
theorem ascii_sampleSeries {prompt generation : ℚ} {sample : PrometheusSample}
    (h : sample ∈ sampleSeries prompt generation) :
    (∀ c ∈ sample.name, c < 128) ∧
      ∀ label ∈ sample.labels, (∀ c ∈ label.1, c < 128) ∧ ∀ c ∈ label.2, c < 128 := by
  have hclosed : ∀ p ∈ (sampleSeries 0 0).map fun sample => (sample.name, sample.labels),
      (∀ c ∈ p.1, c < 128) ∧
        ∀ label ∈ p.2, (∀ c ∈ label.1, c < 128) ∧ ∀ c ∈ label.2, c < 128 := by
    decide +kernel
  have hsame : (sampleSeries prompt generation).map (fun sample => (sample.name, sample.labels)) =
      (sampleSeries 0 0).map fun sample => (sample.name, sample.labels) := rfl
  exact hclosed (sample.name, sample.labels) (hsame ▸ List.mem_map.mpr ⟨sample, h, rfl⟩)

theorem ascii_expose {sample : PrometheusSample} (hname : ∀ c ∈ sample.name, c < 128)
    (hlabels : ∀ label ∈ sample.labels, (∀ c ∈ label.1, c < 128) ∧ ∀ c ∈ label.2, c < 128) :
    ∀ c ∈ expose sample, c < 128 := by
  have hfixed : ∀ text ∈ [lit "\x7b", lit ",", lit "=\"", lit "\"", lit "\x7d ", lit "\n"],
      ∀ c ∈ text, c < 128 := by decide
  have htexts : ∀ c ∈ (lit ",").intercalate (sample.labels.map fun label =>
      label.1 ++ lit "=\"" ++ label.2 ++ lit "\""), c < 128 := by
    refine forall_mem_intercalate (hfixed _ (by simp)) fun text htext => ?_
    obtain ⟨label, hlabel, rfl⟩ := List.mem_map.mp htext
    obtain ⟨h₁, h₂⟩ := hlabels label hlabel
    simp only [List.forall_mem_append]
    exact ⟨⟨⟨h₁, hfixed _ (by simp)⟩, h₂⟩, hfixed _ (by simp)⟩
  unfold expose
  simp only [List.forall_mem_append]
  exact ⟨⟨⟨⟨⟨hname, hfixed _ (by simp)⟩, htexts⟩, hfixed _ (by simp)⟩,
    fun c => reprWhole_ascii⟩, hfixed _ (by simp)⟩

/-- The exposition of the sample series is ASCII, whatever they show. -/
theorem ascii_exposition (prompt generation : ℚ) :
    ∀ c ∈ (sampleSeries prompt generation).flatMap expose, c < 128 := by
  intro c hc
  obtain ⟨sample, hsample, hc⟩ := List.mem_flatMap.mp hc
  obtain ⟨hname, hlabels⟩ := ascii_sampleSeries hsample
  exact ascii_expose hname hlabels c hc

theorem jsonEncodable_sampleSnapshot (prompt generation : ℚ) (offset : ℕ) :
    JsonEncodable (sampleSnapshot prompt generation offset).dump := by
  have hlabels : ∀ sample ∈ sampleSeries prompt generation,
      ∀ label ∈ sample.labels, IsEncodable label.1 ∧ IsEncodable label.2 :=
    fun sample hsample label hl =>
      have h := (ascii_sampleSeries hsample).2 label hl
      ⟨encodable_of_ascii h.1, encodable_of_ascii h.2⟩
  refine PrometheusSnapshot.jsonEncodable_dump (by decide : IsEncodable (lit "p"))
    (by decide : IsEncodable (lit "2026-01-01T00:00:00Z"))
    (encodable_of_ascii (ascii_exposition prompt generation)) (encodable_hexdigest _) ?_ ?_
  · intro sample hsample
    exact PrometheusSample.jsonEncodable_dump
      (encodable_of_ascii (ascii_sampleSeries hsample).1) (hlabels sample hsample)
  · intro entry hentry
    rcases List.mem_append.mp hentry with hentry | hentry
    · obtain ⟨sample, hsample, rfl⟩ := List.mem_map.mp hentry
      have hmem := List.mem_of_mem_take hsample
      refine ⟨encodable_of_ascii (ascii_sampleSeries hmem).1, fun labels hl => ?_⟩
      obtain rfl := List.mem_singleton.mp hl
      exact Labels.jsonEncodable_dump (hlabels sample hmem)
    · obtain rfl := List.mem_singleton.mp hentry
      refine ⟨(by decide : IsEncodable requestSuccess), fun labels hl => ?_⟩
      obtain ⟨sample, hsample, rfl⟩ := List.mem_map.mp hl
      exact Labels.jsonEncodable_dump (hlabels sample (List.mem_of_mem_drop hsample))

theorem exists_identity_sampleSnapshot {prompt generation : ℚ} {offset : ℕ}
    (hoffset : offset < maxInt) :
    sha256Identity (sampleSnapshot prompt generation offset).dump =
      .ok ((sha256Identity (sampleSnapshot prompt generation offset).dump).toOption.getD []) := by
  obtain ⟨identity, hidentity⟩ := exists_sha256Identity_iff.mpr
    ⟨jsonEncodable_sampleSnapshot prompt generation offset,
      PrometheusSnapshot.intsShort_dump.mpr hoffset⟩
  rw [hidentity]
  rfl

theorem collect_eq_ok_map {α β : Type} {f : α → Except PyError β} {g : α → β} {xs : List α}
    (h : ∀ x ∈ xs, f x = .ok (g x)) : collect f xs = .ok (xs.map g) := by
  refine collect_eq_ok.mpr ?_
  induction xs with
  | nil => exact .nil
  | cons x xs ih =>
    exact .cons (h x List.mem_cons_self) (ih fun y hy => h y (List.mem_cons_of_mem _ hy))

theorem flatMap_phaseSnapshots (probe : CancellationProbe) :
    probe.phaseSnapshots.flatMap (·.2) = probe.allSnapshots := by
  simp [phaseSnapshots, allSnapshots]

/-- Scrapes answered no earlier than they were due are observed as the verdict expects. -/
theorem observationsDiffer_observed {probe : CancellationProbe} {due : ScrapePhase → ℕ → ℕ → ℕ}
    (hobservations : probe.scrapeObservations = observed due probe)
    (hdue : ∀ observation ∈ probe.scrapeObservations,
      observation.scheduledOffsetNs ≤ observation.responseCompletionOffsetNs)
    (hidentity : ∀ snapshot ∈ probe.allSnapshots,
      sha256Identity snapshot.dump = .ok ((sha256Identity snapshot.dump).toOption.getD []))
    (hsorted : snapshotOffsets probe.allSnapshots = sorted (snapshotOffsets probe.allSnapshots)) :
    probe.observationsDiffer = .ok false := by
  -- the expected keys are those of the observations, one for each snapshot
  have hkeys : probe.expectedObservationKeys =
      .ok (probe.scrapeObservations.map fun observation =>
        (observation.phase, observation.phaseOrdinal, observation.snapshotIdentitySha256)) := by
    rw [expectedObservationKeys, hobservations, observed, collect_eq_ok_map
      (g := fun key : ScrapePhase × ℕ × PrometheusSnapshot =>
        (key.1, key.2.1, (sha256Identity key.2.2.dump).toOption.getD []))]
    · simp [List.map_flatMap, Function.comp_def]
    · rintro key hkey
      obtain ⟨phase, hphase, hkey⟩ := List.mem_flatMap.mp hkey
      obtain ⟨entry, hentry, rfl⟩ := List.mem_map.mp hkey
      have hmem : entry.1 ∈ probe.allSnapshots := by
        rw [← flatMap_phaseSnapshots]
        exact List.mem_flatMap.mpr ⟨phase, hphase, List.fst_mem_of_mem_zipIdx hentry⟩
      rw [hidentity _ hmem]
      rfl
  -- a sample is scheduled when it is sent
  have hsent : ∀ observation ∈ probe.scrapeObservations,
      observation.scheduledOffsetNs = observation.requestDispatchOffsetNs := by
    intro observation hobservation
    rw [hobservations] at hobservation
    obtain ⟨phase, -, hobservation⟩ := List.mem_flatMap.mp hobservation
    obtain ⟨entry, -, rfl⟩ := List.mem_map.mp hobservation
    rfl
  -- and answered when its snapshot was taken
  have hcompletion : probe.scrapeObservations.map (·.responseCompletionOffsetNs) =
      probe.allSnapshots.map (·.scrapeMonotonicOffsetNs) := by
    rw [hobservations, observed, ← flatMap_phaseSnapshots, List.map_flatMap, List.map_flatMap]
    refine congrArg (fun f => probe.phaseSnapshots.flatMap f) (funext fun phase => ?_)
    conv_rhs => rw [← List.zipIdx_map_fst 0 phase.2]
    rw [List.map_map, List.map_map]
    rfl
  rw [observationsDiffer, hkeys]
  simp only [anyOf_cons_eq_false, anyOf_nil, and_true, Except.ok.injEq, decide_eq_false_iff_not,
    not_not, anyZip_eq_false, true_and]
  refine ⟨?_, ?_, hsorted⟩
  · have hall := List.forall₂_same.mpr fun offset (_ : offset ∈ probe.allSnapshots.map
      (·.scrapeMonotonicOffsetNs)) => Eq.refl offset
    rw [← hcompletion, List.forall₂_map_left_iff, hcompletion, List.forall₂_map_right_iff] at hall
    exact hall
  · rintro ⟨observation, hobservation, hnot⟩
    have hsame := hsent observation hobservation
    exact hnot ⟨hsame.le, hsame ▸ hdue observation hobservation⟩

/-- The checks of some scrapes that concern no log, all passed. -/
structure ScrapesPass (probe : CancellationProbe) : Prop where
  snapshots : ∀ snapshot ∈ probe.allSnapshots, ∃ prompt generation offset,
    snapshot = sampleSnapshot prompt generation offset ∧ offset < 10 ^ 10
  few : probe.allSnapshots.length < 10 ^ 10
  onTime : ∀ observation ∈ probe.scrapeObservations,
    observation.scheduledOffsetNs ≤ observation.responseCompletionOffsetNs
  preLength : probe.preDispatchSnapshots.length = 10
  drainLength : probe.drainSnapshots.length = 10
  process : probe.processDiffers = false
  sorted : snapshotOffsets probe.allSnapshots = sorted (snapshotOffsets probe.allSnapshots)
  preWindow : probe.preWindowFails = .ok false
  quiescence : probe.quiescenceFails = .ok false
  windows : ∀ externalAbort : RawLogRecord, externalAbort.observationOffsetNs = 1400000000 →
    probe.windowsFail externalAbort = .ok false
  progression : counterProgressionFails probe.chronological = .ok false
  preStable : selectedCountersUnstable probe.preDispatchSnapshots = .ok false
  retained : ∃ retained, probe.retainedReasonDeltas = .ok retained ∧
    laterCompletion (reasons.zip (retained.map (·.delta))) = .ok false
  stable : selectedCountersUnstable probe.stableAndLater = .ok false
  generation : probe.generationMoves = .ok false
  reported : ∃ deltas, probe.reportedDeltas = .ok deltas ∧
    reasonValues deltas.reasonDeltas = .ok (reasons.zip [0, 0, 0, 0, 0]) ∧
    (deltas.promptDelta.delta = 64 ∧ 1 ≤ deltas.generationDelta.delta ∧
      ∀ delta ∈ deltas.auxiliaryDeltas, delta.delta = 0) ∧
    (acceptedResult deltas [] 0).validate = .ok (acceptedResult deltas [] 0)
  residual : probe.residualStateFails = .ok false

variable {chain : RequestIdentityChain} {capture : RawLogCapture}
  {pre drain stable cooldown later : List PrometheusSnapshot} {due : ScrapePhase → ℕ → ℕ → ℕ}

theorem ProbeLog.validated (hlog : ProbeLog chain capture) : chain.Validated := by
  have hcorrelated := correlateRequestLogs_eq_ok.mp hlog.correlated
  exact ⟨hcorrelated.valid, fun record hrecord =>
    hlog.valid.records record (hcorrelated.mem_records_iff.mp hrecord).1⟩

theorem ProbeLog.intsShort_chain (hlog : ProbeLog chain capture) :
    intsShort chain.dump = true := by
  have hcorrelated := correlateRequestLogs_eq_ok.mp hlog.correlated
  exact RequestIdentityChain.intsShort_dump.mpr fun record hrecord =>
    hlog.valid.intsShort_record (hcorrelated.mem_records_iff.mp hrecord).1

theorem mem_observed {probe : CancellationProbe}
    {observation : CancellationScrapeObservationEvidence}
    (h : observation ∈ observed due probe) :
    observation.phaseOrdinal < probe.allSnapshots.length ∧ ∃ snapshot ∈ probe.allSnapshots,
      observation.requestDispatchOffsetNs = observation.scheduledOffsetNs ∧
      observation.responseCompletionOffsetNs = snapshot.scrapeMonotonicOffsetNs ∧
      observation.snapshotIdentitySha256 = (sha256Identity snapshot.dump).toOption.getD [] := by
  obtain ⟨phase, hphase, hobservation⟩ := List.mem_flatMap.mp h
  obtain ⟨entry, hentry, rfl⟩ := List.mem_map.mp hobservation
  have hsub : phase.2.Sublist probe.allSnapshots := by
    rw [← flatMap_phaseSnapshots]
    exact List.sublist_flatten_of_mem (List.mem_map_of_mem hphase)
  have hordinal := List.snd_lt_of_mem_zipIdx hentry
  refine ⟨Nat.lt_of_lt_of_le (by simpa using hordinal) hsub.length_le, entry.1,
    hsub.subset (List.fst_mem_of_mem_zipIdx hentry), rfl, rfl, rfl⟩

theorem ScrapesPass.identity {probe : CancellationProbe} (h : probe.ScrapesPass)
    {snapshot : PrometheusSnapshot} (hsnapshot : snapshot ∈ probe.allSnapshots) :
    sha256Identity snapshot.dump = .ok ((sha256Identity snapshot.dump).toOption.getD []) := by
  obtain ⟨prompt, generation, offset, rfl, hoffset⟩ := h.snapshots snapshot hsnapshot
  exact exists_identity_sampleSnapshot (hoffset.trans_le (pow_le_maxInt (by decide)))

theorem exists_identity_sampleHistory (hlog : ProbeLog chain capture)
    (h : (sampleHistory pre drain stable cooldown later due).ScrapesPass) :
    ∃ identity, sha256Identity ((sampleHistory pre drain stable cooldown later due).withLog
      chain capture).dump = .ok identity := by
  -- the texts of the log are hexadecimal or identifiers
  have hdigest : IsEncodable capture.rawBytesSha256 := by
    obtain ⟨exact, -, hdigest⟩ := Option.map_eq_some_iff.mp hlog.valid.digest
    exact hdigest ▸ encodable_hexdigest exact
  have hsmall : ∀ n < 10 ^ 10, n < maxInt := fun n hn => hn.trans_le (pow_le_maxInt (by decide))
  -- the texts of the probe can be encoded, and its numbers are short
  refine exists_sha256Identity_iff.mpr ⟨jsonEncodable_dump
    (show IsEncodable (lit "p") from encodable_lit _) hlog.validated.jsonEncodable_dump
    hlog.valid.jsonEncodable_dump hdigest
    (show IsEncodable (lit "a") ∧ IsEncodable (lit "cmpl-a") from ⟨encodable_lit _, encodable_lit _⟩)
    (fun snapshot hsnapshot => ?_) (fun observation hobservation => ?_)
    ⟨encodable_of_ascii fun c hc => absurd hc List.not_mem_nil, encodable_hexdigest _,
      fun id hid => absurd hid List.not_mem_nil⟩,
    intsShort_dump.mpr ⟨hsmall 1 (by decide), hlog.intsShort_chain, hlog.valid.intsShort_dump,
      hsmall 0 (by decide), hsmall 1000000000 (by decide), ?_, hsmall 1200000000 (by decide),
      fun snapshot hsnapshot => ?_, fun observation hobservation => ?_, ?_⟩⟩
  · obtain ⟨prompt, generation, offset, rfl, -⟩ := h.snapshots snapshot hsnapshot
    exact jsonEncodable_sampleSnapshot prompt generation offset
  · obtain ⟨-, snapshot, hsnapshot, -, -, hid⟩ := mem_observed hobservation
    obtain ⟨bytes, -, hidentity⟩ := exists_of_map_eq_ok (h.identity hsnapshot)
    exact (hid.trans hidentity.symm) ▸ encodable_hexdigest bytes
  · simp [FirstGenerationDeliveryEvidence.dump, sampleHistory, withLog, intsShort, fieldsShort,
      itemsShort, hsmall]
  · obtain ⟨prompt, generation, offset, rfl, hoffset⟩ := h.snapshots snapshot hsnapshot
    exact hsmall offset hoffset
  · obtain ⟨hordinal, snapshot, hsnapshot, hsent, hanswered, -⟩ :=
      mem_observed hobservation
    obtain ⟨prompt, generation, offset, rfl, hoffset⟩ := h.snapshots snapshot hsnapshot
    have hdue := h.onTime observation hobservation
    rw [hanswered] at hdue
    have hfew := h.few
    simp only [CancellationScrapeObservationEvidence.dump, intsShort, fieldsShort, hsent,
      hanswered, Int.natAbs_natCast, Bool.true_and, Bool.and_true, Bool.and_eq_true,
      decide_eq_true_eq]
    exact ⟨hsmall _ (hordinal.trans hfew), hsmall _ (hdue.trans_lt hoffset),
      hsmall _ (hdue.trans_lt hoffset), hsmall _ hoffset⟩
  · simp [ResidualStateEvidence.dump, sampleHistory, withLog, intsShort, fieldsShort, itemsShort,
      hsmall]

/-- Scrapes that pass their checks are accepted with the log of the sample request. -/
theorem sampleHistory_accepted (hlog : ProbeLog chain capture)
    (h : (sampleHistory pre drain stable cooldown later due).ScrapesPass) :
    ∃ result, ((sampleHistory pre drain stable cooldown later due).withLog
      chain capture).evaluateCancellation = .ok result ∧ result.accepted = true := by
  -- the log is correlated to the chain
  have hcorrelated := correlateRequestLogs_eq_ok.mp hlog.correlated
  obtain ⟨internalAbort, hinternal, hinternalOffset⟩ := Option.map_eq_some_iff.mp hlog.internal
  obtain ⟨externalAbort, hexternal, hexternalOffset⟩ := Option.map_eq_some_iff.mp hlog.external
  obtain ⟨identity, hidentity⟩ := exists_identity_sampleHistory hlog h
  -- the deltas that the probe reports
  obtain ⟨deltas, hdeltas, hreasons, hamounts, hvalid⟩ := h.reported
  suffices haccepted : ((sampleHistory pre drain stable cooldown later due).withLog
      chain capture).Accepted internalAbort externalAbort (acceptedResult deltas identity 0) from
    ⟨_, evaluateCancellation_accepted_iff.mpr ⟨internalAbort, externalAbort, haccepted⟩⟩
  -- the conditions of an accepted probe, one by one
  constructor
  case response => exact hcorrelated.valid.response
  case serving => exact hcorrelated.valid.serving
  case internal => exact hinternal
  case external => exact hexternal
  case correlated =>
    show correlateRequestLogs chain.externalBaseId capture.records true = .ok chain
    rw [hlog.base]
    exact hlog.correlated
  case identity =>
    simp [identityDiffers, withLog, sampleHistory, hlog.stream, hlog.base, hlog.start,
      hcorrelated.valid.response, responseBodyId]
    decide
  case chronology =>
    simp [chronologyDiffers, withLog, sampleHistory, hlog.received, hlog.added, hinternalOffset,
      hexternalOffset]
  case preLength => exact h.preLength
  case drainLength => exact h.drainLength
  case process => exact h.process
  case observations =>
    rw [observationsDiffer_withLog]
    exact observationsDiffer_observed rfl h.onTime (fun _ => h.identity) h.sorted
  case preWindow => exact h.preWindow
  case quiescence => exact h.quiescence
  case windows => exact h.windows externalAbort hexternalOffset
  case counters =>
    constructor
    case progression => exact h.progression
    case preStable => exact h.preStable
    case retained => exact h.retained
    case stable => exact h.stable
    case generation => exact h.generation
    case report =>
      refine ⟨deltas, hdeltas, ⟨_, hreasons, by decide +kernel, identity, 0, hidentity, rfl, ?_⟩,
        hamounts.1, hamounts.2.1, hamounts.2.2, h.residual⟩
      simp only [CancellationResult.validate, acceptedResult] at hvalid ⊢
      split_ifs at hvalid ⊢
      rfl

variable {boundaryPrompt : ℚ}

theorem mem_ticks {prompt generation : ℚ} {start n : ℕ} {snapshot : PrometheusSnapshot}
    (h : snapshot ∈ ticks prompt generation start n) (hsmall : start + 100000000 * n ≤ 10 ^ 10) :
    ∃ prompt generation offset, snapshot = sampleSnapshot prompt generation offset ∧
      offset < 10 ^ 10 := by
  obtain ⟨i, hi, rfl⟩ := List.mem_map.mp h
  exact ⟨_, _, _, rfl, by have := List.mem_range.mp hi; omega⟩

theorem windows_sampleScrapes (h : boundaryPrompt = 64 ∨ boundaryPrompt = 65)
    {externalAbort : RawLogRecord} (hexternal : externalAbort.observationOffsetNs = 1400000000) :
    (sampleScrapes boundaryPrompt).windowsFail externalAbort = .ok false := by
  have hstable : first (sampleScrapes boundaryPrompt).stableGenerationSnapshots =
      .ok (sampleSnapshot 64 1 2400000000) := rfl
  have hdrain : last (sampleScrapes boundaryPrompt).drainSnapshots =
      .ok (sampleSnapshot 64 1 2400000000) := rfl
  simp only [windowsFail, anyOf_cons_eq_false, hexternal, anyOf_nil, and_true]
  refine ⟨?_, ?_, ?_, ?_, ?_, ?_, ?_, ?_, ?_, ?_, ?_, ?_, ?_, ?_, ?_, ?_, ?_⟩
  case refine_6 =>
    rw [hstable, hdrain]
    exact congrArg Except.ok (decide_eq_false (not_not.mpr rfl))
  all_goals rcases h with rfl | rfl <;> decide +kernel

/-- The sample scrapes pass their checks, whatever the prompt counter at the boundary. -/
theorem scrapesPass_sampleScrapes (h : boundaryPrompt = 64 ∨ boundaryPrompt = 65) :
    (sampleScrapes boundaryPrompt).ScrapesPass := by
  constructor
  case snapshots =>
    intro snapshot hsnapshot
    simp only [allSnapshots, sampleScrapes, sampleHistory, List.mem_append, List.mem_cons,
      List.not_mem_nil, or_false] at hsnapshot
    rcases hsnapshot with ((hmem | hmem) | hmem) | (rfl | hmem)
    · exact mem_ticks hmem (by decide)
    · exact mem_ticks hmem (by decide)
    · exact mem_ticks hmem (by decide)
    · exact ⟨_, _, _, rfl, by decide⟩
    · exact mem_ticks hmem (by decide)
  case onTime =>
    intro observation hobservation
    obtain ⟨phase, -, hobservation⟩ := List.mem_flatMap.mp hobservation
    obtain ⟨entry, -, rfl⟩ := List.mem_map.mp hobservation
    exact Nat.le_refl _
  case few => simp [allSnapshots, sampleScrapes, sampleHistory, ticks]
  case preLength => simp [sampleScrapes, sampleHistory, ticks]
  case drainLength => simp [sampleScrapes, sampleHistory, ticks]
  case windows => exact fun externalAbort => windows_sampleScrapes h
  case retained => exact exists_eq_ok (by rcases h with rfl | rfl <;> decide +kernel)
  case reported => exact exists_eq_ok (by rcases h with rfl | rfl <;> decide +kernel)
  all_goals rcases h with rfl | rfl <;> decide +kernel

/-- The sample probes are accepted, whatever the prompt counter at the boundary. -/
theorem sampleProbe_accepted (hlog : ProbeLog chain capture)
    (h : boundaryPrompt = 64 ∨ boundaryPrompt = 65) :
    ∃ result, (sampleProbe chain capture boundaryPrompt).evaluateCancellation = .ok result ∧
      result.accepted = true :=
  sampleHistory_accepted hlog (scrapesPass_sampleScrapes h)

theorem sampleProbe_drainedHistory :
    ∃ (probe : CancellationProbe) (result : CancellationResult),
      probe.evaluateCancellation = .ok result ∧ result.accepted = true ∧
        probe.DrainedHistory result := by
  obtain ⟨chain, capture, hlog⟩ := exists_probeLog
  obtain ⟨result, hresult, haccepted⟩ := @sampleProbe_accepted _ _ 64 hlog (.inl rfl)
  exact ⟨_, result, hresult, haccepted, evaluateCancellation_drainedHistory hresult haccepted⟩

theorem sampleProbe_sharedSamples :
    ∃ (probe : CancellationProbe) (result : CancellationResult),
      probe.evaluateCancellation = .ok result ∧ result.accepted = true ∧
        probe.SharedSamples := by
  obtain ⟨chain, capture, hlog⟩ := exists_probeLog
  obtain ⟨result, hresult, haccepted⟩ := @sampleProbe_accepted _ _ 64 hlog (.inl rfl)
  exact ⟨_, result, hresult, haccepted,
    (evaluateCancellation_sharedSamples_iff hresult haccepted).mpr rfl⟩

/-- The prompt counter may differ between the two copies of the boundary sample. -/
theorem exists_accepted_not_sharedSamples :
    ∃ (probe : CancellationProbe) (result : CancellationResult),
      probe.evaluateCancellation = .ok result ∧ result.accepted = true ∧
        ¬ probe.SharedSamples := by
  obtain ⟨chain, capture, hlog⟩ := exists_probeLog
  obtain ⟨result, hresult, haccepted⟩ := @sampleProbe_accepted _ _ 65 hlog (.inr rfl)
  refine ⟨_, result, hresult, haccepted, fun hshared => ?_⟩
  have hsame : (sampleSnapshot 65 1 3400000000).samples = (sampleSnapshot 64 1 3400000000).samples :=
    congrArg PrometheusSnapshot.samples (Option.some.inj hshared.cooldown)
  revert hsame
  decide +kernel

end

end CancellationProbe

end Stage2
