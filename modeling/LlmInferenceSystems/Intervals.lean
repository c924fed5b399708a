import Mathlib.Algebra.Ring.Int.Defs
import Mathlib.Data.Finset.Dedup
import Mathlib.Data.Finset.Max
import Mathlib.Data.List.Infix
import Mathlib.Data.List.Sort
import Mathlib.Order.Bounds.Basic
import LlmInferenceSystems.Python.Sequence

/-!
# Sweeping half-open intervals

The ends of half-open intervals, in the order of time and with stops before starts at one time, tell
how many intervals contain a time: the greatest running sum of the events is the greatest number of
intervals over one time.

## Main definitions

* `HalfOpen`: a half-open interval
* `coverage`: how many intervals contain a time
* `HalfOpen.Meets`: two intervals that share some time
* `SweepOrder`: the events of intervals, in the order of a sweep

## Main results

* `SweepOrder.nonneg`: a running sum is never negative
* `SweepOrder.isGreatest_coverage`: the greatest running sum is the greatest coverage
* `SweepOrder.exists_gap_iff`: two events with at least two open intervals and some time between
  them are there exactly when two intervals meet
-/

namespace Intervals

open Python

variable {α : Type} [LinearOrder α]

/-- A half-open interval. -/
structure HalfOpen (α : Type) [LinearOrder α] where
  start : α
  stop : α
  start_lt_stop : start < stop

namespace HalfOpen

/-- The times of an interval. -/
def Contains (i : HalfOpen α) (t : α) : Prop := i.start ≤ t ∧ t < i.stop

instance (i : HalfOpen α) (t : α) : Decidable (i.Contains t) :=
  inferInstanceAs (Decidable (i.start ≤ t ∧ t < i.stop))

/-- Two intervals share some time. -/
def Meets (i j : HalfOpen α) : Prop := max i.start j.start < min i.stop j.stop

theorem Meets.of_contains {i j : HalfOpen α} {t : α} (hi : i.Contains t) (hj : j.Contains t) :
    i.Meets j :=
  (max_le hi.1 hj.1).trans_lt (lt_min hi.2 hj.2)

/-- Intervals that meet share the later of their starts. -/
theorem Meets.contains {i j : HalfOpen α} (h : i.Meets j) :
    i.Contains (max i.start j.start) ∧ j.Contains (max i.start j.start) :=
  ⟨⟨le_max_left _ _, h.trans_le (min_le_left _ _)⟩, le_max_right _ _, h.trans_le (min_le_right _ _)⟩

theorem Meets.symm {i j : HalfOpen α} (h : i.Meets j) : j.Meets i := by
  rwa [Meets, max_comm, min_comm]

end HalfOpen

/-- How many intervals contain a time. -/
def coverage (is : List (HalfOpen α)) (t : α) : ℕ := is.countP (·.Contains t)

/-- Two of the intervals meet. -/
def SomeMeet (is : List (HalfOpen α)) : Prop := ∃ i j, [i, j].Sublist is ∧ i.Meets j

variable {is : List (HalfOpen α)} {t : α}

theorem coverage_perm {js : List (HalfOpen α)} (h : is.Perm js) (t : α) :
    coverage is t = coverage js t :=
  h.countP_eq _

theorem someMeet_perm {js : List (HalfOpen α)} (h : is.Perm js) : SomeMeet is ↔ SomeMeet js := by
  have hpairwise : ∀ ks : List (HalfOpen α), SomeMeet ks ↔ ¬ ks.Pairwise fun i j => ¬ i.Meets j := by
    intro ks
    rw [List.pairwise_iff_forall_sublist]
    push Not
    exact Iff.rfl
  rw [hpairwise, hpairwise, h.pairwise_iff fun hij hji => hij hji.symm]

/-- Two intervals contain a time exactly when two of them are found there. -/
theorem two_le_coverage_iff :
    2 ≤ coverage is t ↔ ∃ i j, [i, j].Sublist is ∧ i.Contains t ∧ j.Contains t := by
  rw [coverage, List.countP_eq_length_filter]
  constructor
  · intro h
    rcases hfilter : is.filter (·.Contains t) with _ | ⟨i, _ | ⟨j, rest⟩⟩
    · simp [hfilter] at h
    · simp [hfilter] at h
    · have hsub : [i, j].Sublist (is.filter (·.Contains t)) := by
        rw [hfilter]
        exact ((List.nil_sublist rest).cons_cons j).cons_cons i
      have hmem : ∀ k ∈ [i, j], k.Contains t := fun k hk => by
        simpa using (List.mem_filter.mp (hsub.subset hk)).2
      exact ⟨i, j, hsub.trans List.filter_sublist, hmem i (by simp), hmem j (by simp)⟩
  · rintro ⟨i, j, hsub, hi, hj⟩
    have hlength := (hsub.filter (·.Contains t)).length_le
    simpa [hi, hj] using hlength

/-- Two intervals meet exactly when some time is in two of them. -/
theorem someMeet_iff : SomeMeet is ↔ ∃ t, 2 ≤ coverage is t := by
  constructor
  · rintro ⟨i, j, hsub, hmeet⟩
    exact ⟨_, two_le_coverage_iff.mpr ⟨i, j, hsub, hmeet.contains⟩⟩
  · rintro ⟨t, ht⟩
    obtain ⟨i, j, hsub, hi, hj⟩ := two_le_coverage_iff.mp ht
    exact ⟨i, j, hsub, .of_contains hi hj⟩

/-! ## Counting starts and stops -/

/-- Every interval that contains a time has started by then and has not stopped. -/
theorem coverage_add_stops (is : List (HalfOpen α)) (t : α) :
    coverage is t + is.countP (·.stop ≤ t) = is.countP (·.start ≤ t) := by
  induction is with
  | nil => rfl
  | cons i is ih =>
    have := i.start_lt_stop
    simp only [coverage, HalfOpen.Contains, List.countP_cons] at ih ⊢
    by_cases hstop : i.stop ≤ t
    · have hstart : i.start ≤ t := this.le.trans hstop
      simp [hstop, hstart, not_lt.mpr hstop, ← ih, Nat.add_assoc]
    · by_cases hstart : i.start ≤ t
      · simp [hstop, hstart, not_le.mp hstop, ← ih]
        omega
      · simp [hstop, hstart, ← ih]

/-- An interval that has stopped by a time started before. -/
theorem stops_le_starts (is : List (HalfOpen α)) (t : α) :
    is.countP (·.stop ≤ t) ≤ is.countP (·.start < t) := by
  refine List.countP_mono_left fun i _ hstop => ?_
  simp only [decide_eq_true_eq] at hstop ⊢
  exact i.start_lt_stop.trans_le hstop

/-- What has one of two properties is counted for one of them. -/
theorem countP_le_add {β : Type} {p q r : β → Bool} {xs : List β}
    (h : ∀ x ∈ xs, p x = true → q x = true ∨ r x = true) :
    xs.countP p ≤ xs.countP q + xs.countP r := by
  induction xs with
  | nil => exact Nat.le_refl 0
  | cons x xs ih =>
    have hrest := ih fun y hy => h y (List.mem_cons_of_mem _ hy)
    have hx := h x List.mem_cons_self
    simp only [List.countP_cons]
    split <;> split <;> split <;> simp_all <;> omega

/-- The intervals that are open right before a time were all open when the last of them started. -/
theorem exists_starts_le_coverage (is : List (HalfOpen α)) (t : α) :
    ∃ t', is.countP (·.start < t) ≤ coverage is t' + is.countP (·.stop < t) := by
  let open_ := is.filter fun i => i.start < t ∧ t ≤ i.stop
  by_cases hnone : open_ = []
  · refine ⟨t, countP_le_add fun i hi hstart => .inr ?_⟩
    by_contra hstop
    have : i ∈ open_ := List.mem_filter.mpr ⟨hi, by simpa using ⟨of_decide_eq_true hstart,
      not_lt.mp (by simpa using hstop)⟩⟩
    rw [hnone] at this
    cases this
  · obtain ⟨i, hi⟩ := List.exists_mem_of_ne_nil _ hnone
    obtain ⟨t', ht', hmax⟩ := (open_.map (·.start)).toFinset.exists_max_image id
      ⟨i.start, by simpa using ⟨i, hi, rfl⟩⟩
    obtain ⟨j, hj, rfl⟩ := List.mem_map.mp (List.mem_toFinset.mp ht')
    refine ⟨j.start, countP_le_add fun k hk hstart => ?_⟩
    by_cases hstop : k.stop < t
    · exact .inr (decide_eq_true hstop)
    · have hopen : k ∈ open_ := List.mem_filter.mpr ⟨hk, by
        simpa using ⟨of_decide_eq_true hstart, not_lt.mp hstop⟩⟩
      have hle : k.start ≤ j.start := hmax k.start (by simpa using ⟨k, hopen, rfl⟩)
      have hlt : j.start < t := (of_decide_eq_true (List.mem_filter.mp hj).2).1
      exact .inl (decide_eq_true ⟨hle, hlt.trans_le (not_lt.mp hstop)⟩)

/-! ## Events -/

/-- The ends of intervals as events: a start opens an interval, a stop closes one. -/
def endpoints (is : List (HalfOpen α)) : List (α × ℤ) :=
  is.map (fun i => (i.start, 1)) ++ is.map fun i => (i.stop, -1)

/-- The order of two events: by time, and a stop before a start. -/
def Before (e e' : α × ℤ) : Prop := e.1 < e'.1 ∨ e.1 = e'.1 ∧ (e.2 = -1 ∨ e'.2 = 1)

theorem Before.le {e e' : α × ℤ} (h : Before e e') : e.1 ≤ e'.1 :=
  h.elim le_of_lt fun h => h.1.le

/-- The events up to a time come first. -/
theorem exists_split {events : List (α × ℤ)} (h : events.Pairwise Before) (t : α) :
    ∃ p q, events = p ++ q ∧ (∀ e ∈ p, e.1 ≤ t) ∧ ∀ e ∈ q, t < e.1 := by
  induction events with
  | nil => exact ⟨[], [], by simp⟩
  | cons e events ih =>
    rw [List.pairwise_cons] at h
    by_cases he : e.1 ≤ t
    · obtain ⟨p, q, rfl, hp, hq⟩ := ih h.2
      exact ⟨e :: p, q, rfl, List.forall_mem_cons.mpr ⟨he, hp⟩, hq⟩
    · refine ⟨[], e :: events, rfl, by simp, List.forall_mem_cons.mpr ⟨not_le.mp he, ?_⟩⟩
      exact fun e' he' => (not_le.mp he).trans_le (h.1 e' he').le

/-- The events of intervals, in order. -/
structure SweepOrder (is : List (HalfOpen α)) (events : List (α × ℤ)) : Prop where
  perm : events.Perm (endpoints is)
  pairwise : events.Pairwise Before

/-- The running sum after some events. -/
def runningSum (events : List (α × ℤ)) : ℤ := (events.map Prod.snd).sum

omit [LinearOrder α] in
@[simp] theorem runningSum_nil : runningSum ([] : List (α × ℤ)) = 0 := rfl

omit [LinearOrder α] in
theorem runningSum_concat (events : List (α × ℤ)) (e : α × ℤ) :
    runningSum (events ++ [e]) = runningSum events + e.2 := by
  simp [runningSum]

omit [LinearOrder α] in
/-- A running sum counts the starts and the stops. -/
theorem runningSum_eq {events : List (α × ℤ)} (h : ∀ e ∈ events, e.2 = 1 ∨ e.2 = -1) :
    runningSum events = events.countP (·.2 = 1) - events.countP (·.2 = -1) := by
  induction events with
  | nil => rfl
  | cons e events ih =>
    have hrest := ih fun e' he' => h e' (List.mem_cons_of_mem _ he')
    rw [runningSum, List.map_cons, List.sum_cons, ← runningSum, hrest]
    simp only [List.countP_cons]
    rcases h e List.mem_cons_self with he | he <;> simp [he] <;> omega

namespace SweepOrder

variable {events p q : List (α × ℤ)}

theorem sign (h : SweepOrder is events) {e : α × ℤ} (he : e ∈ events) : e.2 = 1 ∨ e.2 = -1 := by
  have hmem := h.perm.subset he
  rw [endpoints, List.mem_append, List.mem_map, List.mem_map] at hmem
  rcases hmem with ⟨i, -, rfl⟩ | ⟨i, -, rfl⟩
  · exact .inl rfl
  · exact .inr rfl

/-- The starts among the events are those of the intervals. -/
theorem countP_starts (h : SweepOrder is events) (f : α → Bool) :
    events.countP (fun e => e.2 = 1 ∧ f e.1) = is.countP fun i => f i.start := by
  rw [h.perm.countP_eq, endpoints, List.countP_append, List.countP_map, List.countP_map]
  simp [Function.comp_def]

theorem countP_stops (h : SweepOrder is events) (f : α → Bool) :
    events.countP (fun e => e.2 = -1 ∧ f e.1) = is.countP fun i => f i.stop := by
  rw [h.perm.countP_eq, endpoints, List.countP_append, List.countP_map, List.countP_map]
  simp [Function.comp_def]

omit [LinearOrder α] in
theorem countP_le {s : ℤ} {f : α → Bool} (hp : ∀ e ∈ p, e.2 = s → f e.1 = true) :
    p.countP (·.2 = s) ≤ (p ++ q).countP fun e => e.2 = s ∧ f e.1 := by
  rw [List.countP_append]
  refine (List.countP_mono_left fun e he hs => ?_).trans (Nat.le_add_right _ _)
  have := of_decide_eq_true hs
  exact decide_eq_true ⟨this, hp e he this⟩

omit [LinearOrder α] in
theorem le_countP {s : ℤ} {f : α → Bool} (hq : ∀ e ∈ q, e.2 = s → f e.1 = false) :
    (p ++ q).countP (fun e => e.2 = s ∧ f e.1) ≤ p.countP (·.2 = s) := by
  have hnone : q.countP (fun e => e.2 = s ∧ f e.1) = 0 := by
    refine List.countP_eq_zero.mpr fun e he => ?_
    rintro hs
    obtain ⟨hs, hf⟩ := of_decide_eq_true hs
    rw [hq e he hs] at hf
    cases hf
  rw [List.countP_append, hnone, Nat.add_zero]
  exact List.countP_mono_left fun e _ he => decide_eq_true (of_decide_eq_true he).1

omit [LinearOrder α] in
/-- The events of one sign that are swept so far, when they are told by their time. -/
theorem countP_eq {s : ℤ} {f : α → Bool} (hp : ∀ e ∈ p, e.2 = s → f e.1 = true)
    (hq : ∀ e ∈ q, e.2 = s → f e.1 = false) :
    p.countP (·.2 = s) = (p ++ q).countP fun e => e.2 = s ∧ f e.1 :=
  (countP_le hp).antisymm (le_countP hq)

theorem runningSum_prefix (h : SweepOrder is (p ++ q)) :
    runningSum p = p.countP (·.2 = 1) - p.countP (·.2 = -1) :=
  runningSum_eq fun _ he => h.sign (List.mem_append_left q he)

/-- Between two times, the running sum is the coverage of the first. -/
theorem runningSum_eq_coverage (h : SweepOrder is (p ++ q)) (hp : ∀ e ∈ p, e.1 ≤ t)
    (hq : ∀ e ∈ q, t < e.1) : runningSum p = coverage is t := by
  have hcount : ∀ s : ℤ, p.countP (·.2 = s) =
      (p ++ q).countP fun e => e.2 = s ∧ decide (e.1 ≤ t) := fun s =>
    countP_eq (f := fun x => decide (x ≤ t)) (fun e he _ => decide_eq_true (hp e he))
      fun e he _ => decide_eq_false (not_le.mpr (hq e he))
  have hcoverage := coverage_add_stops is t
  rw [h.runningSum_prefix, hcount 1, hcount (-1), h.countP_starts (decide <| · ≤ t),
    h.countP_stops (decide <| · ≤ t)]
  omega

/-- **A running sum is not negative, and at most the coverage of some time.** -/
theorem runningSum_bounds [Nonempty α] (h : SweepOrder is (p ++ q)) :
    0 ≤ runningSum p ∧ ∃ t, runningSum p ≤ coverage is t := by
  rcases List.eq_nil_or_concat p with rfl | ⟨p', e, rfl⟩
  · exact ⟨le_rfl, Classical.arbitrary α, Int.natCast_nonneg _⟩
  rw [List.concat_eq_append] at h ⊢
  have hpairwise := h.pairwise
  rw [List.append_assoc, List.pairwise_append] at hpairwise
  obtain ⟨-, htail, hcross⟩ := hpairwise
  have hbefore : ∀ e' ∈ p', Before e' e := fun e' he' => hcross e' he' e (by simp)
  have hafter : ∀ e' ∈ q, Before e e' := fun e' he' => List.rel_of_pairwise_cons htail he'
  have hle : ∀ e' ∈ p' ++ [e], e'.1 ≤ e.1 := by
    intro e' he'
    rcases List.mem_append.mp he' with he' | he'
    · exact (hbefore e' he').le
    · exact (List.mem_singleton.mp he' ▸ le_rfl)
  have hge : ∀ e' ∈ q, e.1 ≤ e'.1 := fun e' he' => (hafter e' he').le
  -- Up to and before the time of the last event: what has been swept, at most and at least.
  have hupto : ∀ s : ℤ, (p' ++ [e]).countP (·.2 = s) ≤
      (p' ++ [e] ++ q).countP fun e' => e'.2 = s ∧ decide (e'.1 ≤ e.1) := fun s =>
    SweepOrder.countP_le (f := fun x => decide (x ≤ e.1)) fun e' he' _ =>
      decide_eq_true (hle e' he')
  have hbefores : ∀ s : ℤ, (p' ++ [e] ++ q).countP (fun e' => e'.2 = s ∧ decide (e'.1 < e.1)) ≤
      (p' ++ [e]).countP (·.2 = s) := fun s =>
    SweepOrder.le_countP (f := fun x => decide (x < e.1)) fun e' he' _ =>
      decide_eq_false (not_lt.mpr (hge e' he'))
  have hstartsUpto := hupto 1
  have hstopsUpto := hupto (-1)
  have hstartsBefore := hbefores 1
  have hstopsBefore := hbefores (-1)
  rw [h.countP_starts (decide <| · ≤ e.1)] at hstartsUpto
  rw [h.countP_starts (decide <| · < e.1)] at hstartsBefore
  rw [h.countP_stops (decide <| · ≤ e.1)] at hstopsUpto
  rw [h.countP_stops (decide <| · < e.1)] at hstopsBefore
  have hlt := stops_le_starts is e.1
  rw [h.runningSum_prefix]
  rcases h.sign (by simp : e ∈ p' ++ [e] ++ q) with hstart | hstop
  · -- A start: every stop up to its time is among the events so far.
    have hstops := SweepOrder.le_countP (p := p' ++ [e]) (q := q) (s := -1)
      (f := fun x => decide (x ≤ e.1)) fun e' he' hs => by
        rcases hafter e' he' with hlt | ⟨-, hminus | hplus⟩
        · exact decide_eq_false (not_le.mpr hlt)
        · rw [hstart] at hminus
          cases hminus
        · rw [hs] at hplus
          cases hplus
    rw [h.countP_stops (decide <| · ≤ e.1)] at hstops
    have hcoverage := coverage_add_stops is e.1
    exact ⟨by omega, e.1, by omega⟩
  · -- A stop: no start at its time is among the events so far.
    have hstarts := SweepOrder.countP_le (p := p' ++ [e]) (q := q) (s := 1)
      (f := fun x => decide (x < e.1)) fun e' he' hs => by
        rcases List.mem_append.mp he' with he' | he'
        · rcases hbefore e' he' with hlt | ⟨-, hminus | hplus⟩
          · exact decide_eq_true hlt
          · rw [hs] at hminus
            cases hminus
          · rw [hstop] at hplus
            cases hplus
        · rw [List.mem_singleton.mp he', hstop] at hs
          cases hs
    rw [h.countP_starts (decide <| · < e.1)] at hstarts
    obtain ⟨t, ht⟩ := exists_starts_le_coverage is e.1
    exact ⟨by omega, t, by omega⟩

/-- At the end of the sweep every interval is closed. -/
theorem runningSum_all (h : SweepOrder is events) : runningSum events = 0 := by
  have hnil : events ++ [] = events := List.append_nil events
  have hstarts := h.countP_starts fun _ => true
  have hstops := h.countP_stops fun _ => true
  rw [← hnil] at h
  rw [h.runningSum_prefix]
  simp only [and_true, List.countP_true] at hstarts hstops
  rw [hstarts, hstops]
  exact Int.sub_self _

theorem nonneg [Nonempty α] (h : SweepOrder is events) (hp : p <+: events) : 0 ≤ runningSum p := by
  obtain ⟨q, rfl⟩ := hp
  exact h.runningSum_bounds.1

/-- **The greatest running sum is the greatest coverage.** -/
theorem isGreatest_coverage [Nonempty α] (h : SweepOrder is events) {m : ℤ}
    (hm : IsGreatest (prefixValues runningSum events) m) :
    IsGreatest (Set.range fun t => (coverage is t : ℤ)) m := by
  have hbound : ∀ t, (coverage is t : ℤ) ≤ m := by
    intro t
    obtain ⟨p, q, rfl, hp, hq⟩ := exists_split h.pairwise t
    rw [← h.runningSum_eq_coverage hp hq]
    exact hm.2 ⟨p, List.prefix_append p q, rfl⟩
  obtain ⟨⟨p, ⟨q, rfl⟩, rfl⟩, -⟩ := hm
  obtain ⟨-, t, ht⟩ := h.runningSum_bounds
  exact ⟨⟨t, (hbound t).antisymm ht⟩, by rintro _ ⟨t, rfl⟩; exact hbound t⟩

/-- **Two intervals meet exactly when the sweep leaves two of them open for some time.** -/
theorem exists_gap_iff (h : SweepOrder is events) :
    (∃ p e e', p ++ [e, e'] <+: events ∧ e.1 < e'.1 ∧ 2 ≤ runningSum (p ++ [e])) ↔ SomeMeet is := by
  rw [someMeet_iff]
  constructor
  -- -- the sum after the events up to a gap is the coverage inside it
  · rintro ⟨p, e, e', ⟨q, rfl⟩, htime, hsum⟩
    have hevents : p ++ [e, e'] ++ q = (p ++ [e]) ++ (e' :: q) := by simp
    rw [hevents] at h
    obtain ⟨hfirst, hrest, hcross⟩ := List.pairwise_append.mp h.pairwise
    -- -- everything so far lies before the gap, and everything left after it
    have hp : ∀ x ∈ p ++ [e], x.1 ≤ e.1 := by
      intro x hx
      rcases List.mem_append.mp hx with hx | hx
      · exact ((List.pairwise_append.mp hfirst).2.2 x hx e (by simp)).le
      · exact (List.mem_singleton.mp hx ▸ le_rfl)
    have hq : ∀ x ∈ e' :: q, e.1 < x.1 := by
      intro x hx
      rcases List.mem_cons.mp hx with rfl | hx
      · exact htime
      · exact htime.trans_le (List.rel_of_pairwise_cons hrest hx).le
    rw [h.runningSum_eq_coverage hp hq] at hsum
    exact ⟨e.1, by exact_mod_cast hsum⟩
  -- -- back, the events are cut at a time two intervals share
  · rintro ⟨t, ht⟩
    obtain ⟨p, q, rfl, hp, hq⟩ := exists_split h.pairwise t
    have hsum := h.runningSum_eq_coverage hp hq
    -- -- a coverage of two leaves neither side of the cut empty
    rcases List.eq_nil_or_concat p with rfl | ⟨p, e, rfl⟩
    · rw [runningSum_nil] at hsum
      omega
    rw [List.concat_eq_append] at h hp hsum ⊢
    rcases q with _ | ⟨e', q⟩
    · rw [List.append_nil] at h
      rw [h.runningSum_all] at hsum
      omega
    · refine ⟨p, e, e', ⟨q, by simp⟩, ?_, by omega⟩
      exact (hp e (by simp)).trans_lt (hq e' (by simp))

end SweepOrder

end Intervals
