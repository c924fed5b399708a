import Mathlib.Algebra.Order.BigOperators.Group.List
import Mathlib.Data.List.Forall2
import LlmInferenceSystems.Stage2.Prometheus

/-!
# Counters along a history

Differences of a counter that are derived between neighbouring snapshots are derived between any two
snapshots of the history, and they add up.

## Main definitions

* `AdjacentDeltas`: the differences of a counter between neighbours

## Main results

* `pairwise_derives_of_neighbours`: what is derived between neighbours is derived along the list
* `AdjacentDeltas.value_add_sum`: the differences lead from one value to a later one
* `deriveCounterDelta_composes`: the differences compose
-/

namespace Stage2

open Python

variable {snapshots : List PrometheusSnapshot} {selector : Str × Option Str}
  {deltas : List CounterDelta}

/-- Process, order, inventory and the choice of the series carry over from neighbours. -/
theorem pairwise_derives_of_neighbours
    (h : ∀ p ∈ neighbours snapshots, Derives p.1 p.2 selector) :
    snapshots.Pairwise (Derives · · selector) := by
  have : IsTrans PrometheusSnapshot (Derives · · selector) := ⟨fun _ _ _ => Derives.trans⟩
  rw [← List.isChain_iff_pairwise, ← forall_neighbours]
  exact h

/-- The differences of a counter between neighbours, in order. -/
def AdjacentDeltas (snapshots : List PrometheusSnapshot) (selector : Str × Option Str)
    (deltas : List CounterDelta) : Prop :=
  List.Forall₂ (fun p delta => deriveCounterDelta p.1 p.2 selector.1 selector.2 = .ok delta)
    (neighbours snapshots) deltas

namespace AdjacentDeltas

theorem length (h : AdjacentDeltas snapshots selector deltas) :
    deltas.length = snapshots.length - 1 := by
  rw [← List.Forall₂.length_eq h, length_neighbours]

theorem pairwise (h : AdjacentDeltas snapshots selector deltas) :
    snapshots.Pairwise (Derives · · selector) := by
  refine pairwise_derives_of_neighbours fun p hp => ?_
  obtain ⟨k, hk, rfl⟩ := List.getElem_of_mem hp
  have hk' : k < deltas.length := by
    rw [h.length, ← length_neighbours]
    exact hk
  exact returns_deriveCounterDelta_iff.mp ⟨_, (List.forall₂_iff_get.mp h).2 k hk hk'⟩

/-- The difference between two neighbours. -/
theorem derived (h : AdjacentDeltas snapshots selector deltas) {k : ℕ}
    (hk : k + 1 < snapshots.length) :
    ∃ hk' : k < deltas.length,
      deriveCounterDelta snapshots[k] snapshots[k + 1] selector.1 selector.2 = .ok deltas[k] := by
  have hlength := h.length
  have hk' : k < deltas.length := by omega
  refine ⟨hk', ?_⟩
  have hget := (List.forall₂_iff_get.mp h).2 k (by rw [length_neighbours]; omega) hk'
  simpa [neighbours] using hget

/-- **The differences lead from one value to a later one.** -/
theorem value_add_sum (h : AdjacentDeltas snapshots selector deltas) {i m : ℕ}
    (hm : i + m < snapshots.length) {x : ℚ} (hx : counterValue snapshots[i] selector = some x) :
    counterValue snapshots[i + m] selector =
      some (x + (((deltas.drop i).take m).map (·.delta)).sum) := by
  induction m with
  | zero => simpa using hx
  | succ m ih =>
    have hbefore := ih (by omega) hx
    obtain ⟨hk, hderived⟩ := h.derived (k := i + m) hm
    obtain ⟨-, -, hfirst, hsecond, -, hdifference, -⟩ := deriveCounterDelta_eq_ok hderived
    have hlast : (deltas.drop i).take (m + 1) = (deltas.drop i).take m ++ [deltas[i + m]] := by
      rw [List.take_add_one, List.getElem?_drop, List.getElem?_eq_getElem hk]
      rfl
    rw [hfirst] at hbefore
    have hvalue := Option.some.inj hbefore
    have hafter : x + (((deltas.drop i).take (m + 1)).map (·.delta)).sum = deltas[i + m].after := by
      rw [hlast, List.map_append, List.sum_append, List.map_singleton, List.sum_singleton,
        hdifference, ← add_assoc, ← hvalue, add_sub_cancel]
    rw [hafter]
    exact hsecond

/-- A snapshot of a history of at least two shows the counter. -/
theorem exists_value (h : AdjacentDeltas snapshots selector deltas)
    (hlength : 2 ≤ snapshots.length) : ∃ x, counterValue snapshots[0] selector = some x := by
  obtain ⟨_, hderived⟩ := h.derived (k := 0) (by omega)
  exact ⟨_, (deriveCounterDelta_eq_ok hderived).before⟩

/-- A counter never falls. -/
theorem nonneg (h : AdjacentDeltas snapshots selector deltas) {delta : CounterDelta}
    (hdelta : delta ∈ deltas) : 0 ≤ delta.delta := by
  obtain ⟨k, hk, rfl⟩ := List.getElem_of_mem hdelta
  have hlength := h.length
  obtain ⟨_, hderived⟩ := h.derived (k := k) (by omega)
  have hdelta := deriveCounterDelta_eq_ok hderived
  rw [hdelta.difference]
  exact sub_nonneg.mpr hdelta.nondecreasing

/-- The difference between any two snapshots. -/
theorem exists_delta (h : AdjacentDeltas snapshots selector deltas) {i j : ℕ} (hij : i < j)
    (hj : j < snapshots.length) :
    ∃ delta, deriveCounterDelta snapshots[i] snapshots[j] selector.1 selector.2 = .ok delta ∧
      delta.delta = (((deltas.drop i).take (j - i)).map (·.delta)).sum := by
  have hderives := List.pairwise_iff_getElem.mp h.pairwise i j (hij.trans hj) hj hij
  obtain ⟨delta, hdelta⟩ := returns_deriveCounterDelta_iff.mpr hderives
  obtain ⟨-, -, hbefore, hafter, -, hdifference, -⟩ := deriveCounterDelta_eq_ok hdelta
  have hsum := h.value_add_sum (m := j - i) (by omega) hbefore
  simp only [Nat.add_sub_cancel' hij.le] at hsum
  rw [hafter] at hsum
  refine ⟨delta, hdelta, ?_⟩
  rw [hdifference, Option.some.inj hsum, add_sub_cancel_left]

/-- Without any difference, the counter has one value. -/
theorem exists_constant (h : AdjacentDeltas snapshots selector deltas)
    (hlength : 2 ≤ snapshots.length) (hzero : ∀ delta ∈ deltas, delta.delta = 0) :
    ∃ value, ∀ snapshot ∈ snapshots, counterValue snapshot selector = some value := by
  obtain ⟨x, hx⟩ := h.exists_value hlength
  refine ⟨x, fun snapshot hsnapshot => ?_⟩
  obtain ⟨k, hk, rfl⟩ := List.getElem_of_mem hsnapshot
  have hsum := h.value_add_sum (i := 0) (m := k) (by omega) hx
  have hnone : (((deltas.drop 0).take k).map (·.delta)).sum = 0 := by
    refine List.sum_eq_zero fun d hd => ?_
    obtain ⟨delta, hdelta, rfl⟩ := List.mem_map.mp hd
    exact hzero delta (List.mem_of_mem_drop (List.mem_of_mem_take hdelta))
  rw [hnone, add_zero] at hsum
  simpa using hsum

end AdjacentDeltas

/-- **Counter differences compose.** When the differences of a counter between all neighbours are
derived, the difference between any two snapshots is derived and is the sum of those between them;
and the differences are all zero exactly when the counter stands still, and exactly when it shows no
difference between the two ends. -/
theorem deriveCounterDelta_composes {snapshots : List PrometheusSnapshot} {name : Str}
    {finishedReason : Option Str} {deltas : List CounterDelta} (hlength : 2 ≤ snapshots.length)
    (h : AdjacentDeltas snapshots (name, finishedReason) deltas) :
    (∀ i j (hij : i < j) (hj : j < snapshots.length), ∃ delta,
      deriveCounterDelta snapshots[i] snapshots[j] name finishedReason = .ok delta ∧
        delta.delta = (((deltas.drop i).take (j - i)).map (·.delta)).sum) ∧
    ((∀ delta ∈ deltas, delta.delta = 0) ↔
      ∃ value, ∀ snapshot ∈ snapshots,
        counterValue snapshot (name, finishedReason) = some value) ∧
    ((∀ delta ∈ deltas, delta.delta = 0) ↔
      ∃ delta, deriveCounterDelta snapshots[0] snapshots[snapshots.length - 1] name
        finishedReason = .ok delta ∧ delta.delta = 0) := by
  have hall : (deltas.drop 0).take (snapshots.length - 1 - 0) = deltas := by
    rw [List.drop_zero, Nat.sub_zero, ← h.length, List.take_length]
  -- the delta from the first snapshot to the last is the sum of all
  obtain ⟨whole, hwhole, hsum⟩ := h.exists_delta (i := 0) (j := snapshots.length - 1)
    (by omega) (by omega)
  have hwhole_zero : whole.delta = 0 → ∀ delta ∈ deltas, delta.delta = 0 := by
    intro hzero delta hdelta
    rw [hall] at hsum
    -- no delta is negative, so a sum of zero leaves each of them zero
    have hnonneg : ∀ d ∈ deltas.map (·.delta), 0 ≤ d := by
      intro d hd
      obtain ⟨delta, hdelta, rfl⟩ := List.mem_map.mp hd
      exact h.nonneg hdelta
    have hle := List.single_le_sum hnonneg _ (List.mem_map_of_mem hdelta)
    rw [← hsum, hzero] at hle
    exact hle.antisymm (h.nonneg hdelta)
  -- a constant counter has the same value at both ends
  have hconstant_zero : (∃ value, ∀ snapshot ∈ snapshots,
      counterValue snapshot (name, finishedReason) = some value) → whole.delta = 0 := by
    rintro ⟨value, hvalue⟩
    obtain ⟨-, -, hbefore, hafter, -, hdifference, -⟩ := deriveCounterDelta_eq_ok hwhole
    have hfirst := hbefore.symm.trans (hvalue _ (List.getElem_mem _))
    have hlast := hafter.symm.trans (hvalue _ (List.getElem_mem _))
    rw [hdifference, Option.some.inj hfirst, Option.some.inj hlast, sub_self]
  refine ⟨fun i j hij hj => h.exists_delta hij hj, ⟨h.exists_constant hlength, fun hconstant =>
    hwhole_zero (hconstant_zero hconstant)⟩, fun hzero => ?_, ?_⟩
  · exact ⟨whole, hwhole, hconstant_zero (h.exists_constant hlength hzero)⟩
  · rintro ⟨delta, hdelta, hzero⟩
    obtain rfl := Except.ok.inj (hwhole.symm.trans hdelta)
    exact hwhole_zero hzero

/-- A scrape that shows the generation tokens only. -/
def generationSnapshot (offset : ℕ) (tokens : ℚ) : PrometheusSnapshot where
  processStartId := lit "p"
  scrapeWallClockUtc := []
  scrapeMonotonicOffsetNs := offset
  rawExposition := []
  rawExpositionSha256 := []
  samples := [⟨generationTokens, sortedLabels modelLabels, tokens⟩]
  labelInventory := [(generationTokens, [sortedLabels modelLabels])]

theorem deriveCounterDelta_composes_three :
    ∃ delta, deriveCounterDelta (generationSnapshot 1 10) (generationSnapshot 3 12)
      generationTokens none = .ok delta ∧ delta.delta = 2 + 0 := by
  have hadjacent : AdjacentDeltas
      [generationSnapshot 1 10, generationSnapshot 2 12, generationSnapshot 3 12]
      (generationTokens, none)
      [⟨generationTokens, sortedLabels modelLabels, 10, 12, 2⟩,
        ⟨generationTokens, sortedLabels modelLabels, 12, 12, 0⟩] := by
    refine .cons ?_ (.cons ?_ .nil)
    · decide +kernel
    · decide +kernel
  obtain ⟨delta, hdelta, hsum⟩ :=
    (deriveCounterDelta_composes (by simp) hadjacent).1 0 2 (by simp) (by simp)
  exact ⟨delta, hdelta, by simpa using hsum⟩

end Stage2
