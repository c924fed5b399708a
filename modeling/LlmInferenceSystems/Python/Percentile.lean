import Mathlib.Algebra.Order.Floor.Ring
import Mathlib.Data.Int.ConditionallyCompleteOrder
import Mathlib.Data.List.GetD
import Mathlib.Data.Rat.Floor
import Mathlib.Tactic.Linarith
import Mathlib.Tactic.Ring
import LlmInferenceSystems.Errors
import LlmInferenceSystems.Python.Float
import LlmInferenceSystems.Python.Sequence

/-!
# Percentiles

Arithmetic on floats is exact arithmetic followed by rounding. Percentiles are taken over the sorted
sample, between two of its values.

## Main definitions

* `FloatArithmetic`: how an exact result is rounded
* `exactArithmetic`, `binary64`: no rounding, and that of the interpreter
* `percentileType7`: a percentile of a sample

## Main results

* `percentileType7_perm`: a percentile does not depend on the order of the sample
* `monotone_interpolate`, `interpolate_mono`: the line through increasing values is increasing, in
  its place and in the values
* `percentileType7_isQuantile`: a percentile is the type 7 quantile
-/

namespace Python

/-- How an exact result is rounded to a float. Floats are the rationals they stand for; no contract
takes an infinity, so a result out of range is an error. -/
class FloatArithmetic where
  nearest : ℚ → Except PyError ℚ

/-- Arithmetic without rounding. -/
@[reducible] def exactArithmetic : FloatArithmetic := ⟨.ok⟩

/-- The arithmetic of the interpreter. -/
@[reducible] def binary64 : FloatArithmetic where
  nearest q :=
    match PyFloat.round q with
    | .finite x => .ok x
    | _ => .error .overflow

/-- A rational to the nearest whole number, ties to even. -/
def roundHalfEven (q : ℚ) : ℤ :=
  if q - ⌊q⌋ < 1 / 2 then ⌊q⌋
  else if 1 / 2 < q - ⌊q⌋ then ⌊q⌋ + 1
  else if ⌊q⌋ % 2 = 0 then ⌊q⌋
  else ⌊q⌋ + 1

section

variable [FloatArithmetic]

open FloatArithmetic

/-- `round(x, digits)` -/
def roundDigits (x : ℚ) (digits : ℕ) : Except PyError ℚ :=
  nearest (roundHalfEven (x * 10 ^ digits) / 10 ^ digits)

/-- `x / y` of two floats -/
def divide (x y : ℚ) : Except PyError ℚ := if y = 0 then .error .zeroDivision else nearest (x / y)

/-- `n / y` of an `int` by a float -/
def divideCount (n : ℕ) (y : ℚ) : Except PyError ℚ := do divide (← nearest n) y

/-- `percentile_type7`; every value is finite. -/
def percentileType7 (values : List ℚ) (probability : ℚ) : Except PyError (Option ℚ) :=
  if ¬ (0 ≤ probability ∧ probability ≤ 1) then
    .error (.value "percentile probability must be between zero and one")
  else
    let ordered := sorted values
    match ordered with
    | [] => .ok none
    | [value] => .ok (some value)
    | _ => do
      let last ← nearest (ordered.length - 1)
      let h ← nearest (last * probability)
      match ordered[⌊h⌋.toNat]?, ordered[⌈h⌉.toNat]? with
      | some lower, some upper =>
        let offset ← nearest (h - ⌊h⌋)
        let gap ← nearest (upper - lower)
        let step ← nearest (offset * gap)
        let percentile ← nearest (lower + step)
        return some percentile
      | _, _ => .error .index

theorem percentileType7_perm {values values' : List ℚ} (h : values.Perm values')
    (probability : ℚ) : percentileType7 values probability = percentileType7 values' probability := by
  rw [percentileType7, percentileType7, sorted_eq_of_perm h]

end

/-! ## Without rounding -/

/-- The value between two whole places, on the line through the values there. -/
def interpolate (f : ℤ → ℚ) (h : ℚ) : ℚ := f ⌊h⌋ + (h - ⌊h⌋) * (f ⌈h⌉ - f ⌊h⌋)

section

variable {f : ℤ → ℚ} {h : ℚ}

theorem interpolate_of_floor_eq_ceil (heq : ⌊h⌋ = ⌈h⌉) : interpolate f h = f ⌊h⌋ := by
  rw [interpolate, heq, sub_self, mul_zero, add_zero]

theorem floor_le_interpolate (hf : Monotone f) : f ⌊h⌋ ≤ interpolate f h := by
  have hgap : 0 ≤ f ⌈h⌉ - f ⌊h⌋ := sub_nonneg.mpr (hf (Int.floor_le_ceil h))
  have hoffset : 0 ≤ h - ⌊h⌋ := sub_nonneg.mpr (Int.floor_le h)
  exact le_add_of_nonneg_right (mul_nonneg hoffset hgap)

/-- The line through two neighbouring places, at any place between them. -/
theorem interpolate_of_segment {k : ℤ} (hlow : (k : ℚ) ≤ h) (hhigh : h ≤ k + 1) :
    interpolate f h = f k + (h - k) * (f (k + 1) - f k) := by
  rcases hhigh.lt_or_eq with hlt | rfl
  · have hfloor : ⌊h⌋ = k := Int.floor_eq_iff.mpr ⟨hlow, hlt⟩
    rcases hlow.lt_or_eq with hgt | rfl
    · have hceil : ⌈h⌉ = k + 1 := by
        rw [Int.ceil_eq_iff]
        push_cast
        exact ⟨by linarith, hhigh⟩
      rw [interpolate, hfloor, hceil]
    · rw [interpolate_of_floor_eq_ceil (by simp), Int.floor_intCast, sub_self, zero_mul, add_zero]
  · -- at the end of the segment the line has gone all the way up
    have hwhole : ((k : ℚ) + 1) = ((k + 1 : ℤ) : ℚ) := by push_cast; ring
    rw [hwhole, interpolate_of_floor_eq_ceil (by simp), Int.floor_intCast]
    push_cast
    ring

/-- With higher values the line is higher. -/
theorem interpolate_mono {g : ℤ → ℚ} (hle : ∀ k, f k ≤ g k) : interpolate f h ≤ interpolate g h := by
  have hoffset : 0 ≤ h - ⌊h⌋ := sub_nonneg.mpr (Int.floor_le h)
  have hrest : 0 ≤ 1 - (h - ⌊h⌋) := by
    have := Int.lt_floor_add_one h
    linarith
  calc interpolate f h = (1 - (h - ⌊h⌋)) * f ⌊h⌋ + (h - ⌊h⌋) * f ⌈h⌉ := by
        rw [interpolate]
        ring
    _ ≤ (1 - (h - ⌊h⌋)) * g ⌊h⌋ + (h - ⌊h⌋) * g ⌈h⌉ :=
        add_le_add (mul_le_mul_of_nonneg_left (hle _) hrest)
          (mul_le_mul_of_nonneg_left (hle _) hoffset)
    _ = interpolate g h := by
        rw [interpolate]
        ring

theorem interpolate_le_ceil (hf : Monotone f) : interpolate f h ≤ f ⌈h⌉ := by
  have hgap : 0 ≤ f ⌈h⌉ - f ⌊h⌋ := sub_nonneg.mpr (hf (Int.floor_le_ceil h))
  have hoffset : h - ⌊h⌋ ≤ 1 := by
    have := Int.lt_floor_add_one h
    linarith
  calc interpolate f h ≤ f ⌊h⌋ + 1 * (f ⌈h⌉ - f ⌊h⌋) :=
        add_le_add_right (mul_le_mul_of_nonneg_right hoffset hgap) _
    _ = f ⌈h⌉ := by ring

/-- **Between increasing values the line is increasing.** -/
theorem monotone_interpolate (hf : Monotone f) : Monotone (interpolate f) := by
  intro h h' hle
  rcases (Int.floor_mono hle).lt_or_eq with hlt | heq
  · -- another segment: the places between separate the two
    have hplaces : ⌈h⌉ ≤ ⌊h'⌋ := (Int.ceil_le_floor_add_one h).trans (Int.add_one_le_of_lt hlt)
    exact (interpolate_le_ceil hf).trans ((hf hplaces).trans (floor_le_interpolate hf))
  · by_cases hwhole : ⌊h⌋ = ⌈h⌉
    · rw [interpolate_of_floor_eq_ceil hwhole, heq]
      exact floor_le_interpolate hf
    · -- the same segment: the offset is larger and the gap the same
      have hceil : ⌈h⌉ = ⌈h'⌉ := by
        have h1 := Int.ceil_le_floor_add_one h
        have h2 := Int.ceil_le_floor_add_one h'
        have h3 := Int.floor_le_ceil h
        have h4 := Int.ceil_mono hle
        omega
      have hgap : 0 ≤ f ⌈h⌉ - f ⌊h⌋ := sub_nonneg.mpr (hf (Int.floor_le_ceil h))
      rw [interpolate, interpolate, ← heq, ← hceil]
      exact add_le_add_right (mul_le_mul_of_nonneg_right (sub_le_sub_right hle _) hgap) _

end

/-- The value at a place of a sequence; past the ends, that at the end. -/
def placeValue (xs : List ℚ) (k : ℤ) : ℚ := xs.getD (min k.toNat (xs.length - 1)) 0

theorem getElem?_eq_placeValue {xs : List ℚ} {k : ℤ} (h : k.toNat < xs.length) :
    xs[k.toNat]? = some (placeValue xs k) := by
  rw [placeValue, min_eq_left (by omega), List.getD_eq_getElem _ _ h, List.getElem?_eq_getElem h]

theorem placeValue_mem {xs : List ℚ} (hne : xs ≠ []) (k : ℤ) : placeValue xs k ∈ xs := by
  have hpos := List.length_pos_of_ne_nil hne
  rw [placeValue, List.getD_eq_getElem _ _ (by omega)]
  exact List.getElem_mem _

theorem monotone_placeValue {xs : List ℚ} (hxs : xs.Pairwise (· ≤ ·)) : Monotone (placeValue xs) := by
  rcases xs.eq_nil_or_concat with rfl | hne
  · intro k k' _
    exact le_refl _
  · intro k k' hle
    have hpos : 0 < xs.length := by
      obtain ⟨before, x, rfl⟩ := hne
      simp
    rw [placeValue, placeValue, List.getD_eq_getElem _ _ (by omega),
      List.getD_eq_getElem _ _ (by omega)]
    exact hxs.rel_get_of_le (a := ⟨_, by omega⟩) (b := ⟨_, by omega⟩) (by
      simp only [Fin.mk_le_mk]
      omega)

/-- Higher values are higher at every place. -/
theorem placeValue_mono {xs ys : List ℚ} (hle : List.Forall₂ (· ≤ ·) xs ys) (k : ℤ) :
    placeValue xs k ≤ placeValue ys k := by
  have hlength := hle.length_eq
  rcases xs.eq_nil_or_concat with rfl | hne
  · rw [List.forall₂_nil_left_iff.mp hle]
  · have hpos : 0 < xs.length := by
      obtain ⟨before, x, rfl⟩ := hne
      simp
    rw [placeValue, placeValue, ← hlength, List.getD_eq_getElem _ _ (by omega),
      List.getD_eq_getElem _ _ (by omega)]
    exact hle.get _ _

/-- The places of the least and of the greatest value of a sample in order. -/
theorem placeValue_zero_le {xs : List ℚ} (hxs : xs.Pairwise (· ≤ ·)) {x : ℚ} (hx : x ∈ xs) :
    placeValue xs 0 ≤ x ∧ x ≤ placeValue xs (xs.length - 1) := by
  obtain ⟨i, hi, rfl⟩ := List.getElem_of_mem hx
  have hplace : placeValue xs i = xs[i] := by
    rw [placeValue, List.getD_eq_getElem _ _ (by omega)]
    congr 1
    omega
  rw [← hplace]
  exact ⟨monotone_placeValue hxs (by omega), monotone_placeValue hxs (by omega)⟩

/-- The last place of a sample that is not empty is in it. -/
theorem places_within {n : ℕ} (hn : 0 < n) {probability : ℚ}
    (hprobability : 0 ≤ probability ∧ probability ≤ 1) :
    0 ≤ ⌊((n : ℚ) - 1) * probability⌋ ∧ ⌈((n : ℚ) - 1) * probability⌉ ≤ n - 1 := by
  have hlast : (0 : ℚ) ≤ n - 1 := by
    have : (1 : ℚ) ≤ n := by exact_mod_cast hn
    linarith
  constructor
  · exact Int.floor_nonneg.mpr (mul_nonneg hlast hprobability.1)
  · apply Int.ceil_le.mpr
    push_cast
    exact mul_le_of_le_one_right hlast hprobability.2

/-- A percentile of a sample that is not empty, without rounding. -/
theorem percentileType7_exact {values : List ℚ} (hne : values ≠ []) {probability : ℚ}
    (hprobability : 0 ≤ probability ∧ probability ≤ 1) :
    @percentileType7 exactArithmetic values probability =
      .ok (some (interpolate (placeValue (sorted values))
        ((values.length - 1) * probability))) := by
  have hlength := (sorted_perm values).length_eq
  have hpos := List.length_pos_of_ne_nil hne
  unfold percentileType7
  rw [if_neg (not_not.mpr hprobability)]
  dsimp only
  rw [← hlength] at hpos ⊢
  -- -- the lengths agree, so only the sorted list is spoken of from here
  generalize sorted values = ordered at *
  split
  · simp at hpos
  -- -- one value: both places are the first
  · next value =>
    have hzero : ((([value] : List ℚ).length : ℚ) - 1) * probability = 0 := by simp
    rw [hzero, interpolate_of_floor_eq_ceil (by simp)]
    simp [placeValue]
  -- -- several values: both places exist
  · have hceil := (places_within hpos hprobability).2
    have hfloor := Int.floor_le_ceil (((ordered.length : ℚ) - 1) * probability)
    have hlower := getElem?_eq_placeValue (k := ⌊((ordered.length : ℚ) - 1) * probability⌋)
      (show _ < ordered.length by omega)
    have hupper := getElem?_eq_placeValue (k := ⌈((ordered.length : ℚ) - 1) * probability⌉)
      (show _ < ordered.length by omega)
    change (match ordered[⌊((ordered.length : ℚ) - 1) * probability⌋.toNat]?,
        ordered[⌈((ordered.length : ℚ) - 1) * probability⌉.toNat]? with
      | some lower, some upper => _
      | _, _ => _) = _
    rw [hlower, hupper]
    rfl

/-- **A percentile is the type 7 quantile.** Both places are within the sample; the values lie
between the least and the greatest, which are those at the ends, and increase with the probability
and with the sample; the order of the sample does not matter; and the value is that on the line
through the sorted sample. -/
theorem percentileType7_isQuantile {values : List ℚ} (hne : values ≠ []) {p q : ℚ} (hp : 0 ≤ p)
    (hpq : p ≤ q) (hq : q ≤ 1) :
    (0 ≤ ⌊((values.length : ℚ) - 1) * p⌋ ∧ ⌈((values.length : ℚ) - 1) * p⌉ < values.length) ∧
      ∃ least greatest atP atQ : ℚ,
        IsLeast {x | x ∈ values} least ∧ IsGreatest {x | x ∈ values} greatest ∧
        @percentileType7 exactArithmetic values p = .ok (some atP) ∧
        @percentileType7 exactArithmetic values q = .ok (some atQ) ∧
        least ≤ atP ∧ atP ≤ atQ ∧ atQ ≤ greatest ∧
        @percentileType7 exactArithmetic values 0 = .ok (some least) ∧
        @percentileType7 exactArithmetic values 1 = .ok (some greatest) ∧
        (∀ values', values.Perm values' →
          @percentileType7 exactArithmetic values' p = .ok (some atP)) ∧
        (∀ (k : ℕ) (hk : k + 1 < (sorted values).length),
          (k : ℚ) ≤ (values.length - 1) * p → (values.length - 1) * p ≤ k + 1 →
            atP = (sorted values)[k] +
              ((values.length - 1) * p - k) * ((sorted values)[k + 1] - (sorted values)[k])) ∧
        ∀ values', List.Forall₂ (· ≤ ·) values values' →
          ∃ atP', @percentileType7 exactArithmetic values' p = .ok (some atP') ∧ atP ≤ atP' := by
  have hpos := List.length_pos_of_ne_nil hne
  have hlength : (sorted values).length = values.length := (sorted_perm values).length_eq
  have hsorted : sorted values ≠ [] := by
    rw [← List.length_pos_iff_ne_nil]
    omega
  have hmono := monotone_placeValue (pairwise_sorted values)
  have hends : ∀ x ∈ values, placeValue (sorted values) 0 ≤ x ∧
      x ≤ placeValue (sorted values) (values.length - 1) := by
    intro x hx
    have := placeValue_zero_le (pairwise_sorted values) ((sorted_perm values).mem_iff.mpr hx)
    rwa [hlength] at this
  have hmem : ∀ k, placeValue (sorted values) k ∈ values := fun k =>
    (sorted_perm values).mem_iff.mp (placeValue_mem hsorted k)
  have hexact := fun (probability : ℚ) (h : 0 ≤ probability ∧ probability ≤ 1) =>
    percentileType7_exact hne h
  have hplaces := places_within hpos ⟨hp, hpq.trans hq⟩
  have hlast : (0 : ℚ) ≤ values.length - 1 := by
    have : (1 : ℚ) ≤ values.length := by exact_mod_cast hpos
    linarith
  have hline := monotone_interpolate hmono
  -- the ends of the sample are the line at its whole places
  have hzero : interpolate (placeValue (sorted values)) ((values.length - 1) * 0) =
      placeValue (sorted values) 0 := by
    rw [mul_zero, interpolate_of_floor_eq_ceil (by simp), Int.floor_zero]
  have hone : interpolate (placeValue (sorted values)) ((values.length - 1) * 1) =
      placeValue (sorted values) (values.length - 1) := by
    have hwhole : ((values.length : ℚ) - 1) * 1 = ((values.length - 1 : ℤ) : ℚ) := by
      push_cast
      ring
    rw [hwhole, interpolate_of_floor_eq_ceil (by simp), Int.floor_intCast]
  refine ⟨⟨hplaces.1, by omega⟩, _, _, _, _, ⟨hmem 0, fun x hx => (hends x hx).1⟩,
    ⟨hmem _, fun x hx => (hends x hx).2⟩, hexact p ⟨hp, hpq.trans hq⟩,
    hexact q ⟨hp.trans hpq, hq⟩, ?_, ?_, ?_, ?_, ?_, ?_, ?_, ?_⟩
  · rw [← hzero]
    exact hline (mul_le_mul_of_nonneg_left hp hlast)
  · exact hline (mul_le_mul_of_nonneg_left hpq hlast)
  · rw [← hone]
    exact hline (mul_le_mul_of_nonneg_left hq hlast)
  · rw [hexact 0 (by norm_num), hzero]
  · rw [hexact 1 (by norm_num), hone]
  · intro values' hperm
    rw [← @percentileType7_perm exactArithmetic _ _ hperm]
    exact hexact p ⟨hp, hpq.trans hq⟩
  · intro k hk hlow hhigh
    have hat : ∀ i : ℕ, (hi : i < (sorted values).length) →
        placeValue (sorted values) i = (sorted values)[i] := by
      intro i hi
      have := @getElem?_eq_placeValue (sorted values) i (by simpa using hi)
      rw [Int.toNat_natCast, List.getElem?_eq_getElem hi] at this
      exact (Option.some.inj this).symm
    rw [interpolate_of_segment (k := k) (by exact_mod_cast hlow) (by exact_mod_cast hhigh),
      hat k (by omega), ← Nat.cast_add_one, hat (k + 1) hk]
    push_cast
    rfl
  · intro values' hle
    have hlength' : values'.length = values.length := hle.length_eq.symm
    have hne' : values' ≠ [] := by
      rw [← List.length_pos_iff_ne_nil]
      omega
    refine ⟨_, percentileType7_exact hne' ⟨hp, hpq.trans hq⟩, ?_⟩
    rw [hlength']
    exact interpolate_mono (placeValue_mono (forall₂_sorted hle))

theorem percentileType7_isQuantile_sample :
    @percentileType7 exactArithmetic [3, 1, 2] 1 = .ok (some 3) := by
  obtain ⟨-, least, greatest, -, -, -, ⟨hmem, hupper⟩, -, -, -, -, -, -, hone, -⟩ :=
    @percentileType7_isQuantile [3, 1, 2] (by simp) (1 / 2) 1 (by norm_num) (by norm_num) (le_refl 1)
  rw [hone]
  have hthree : (3 : ℚ) ≤ greatest := hupper (by simp)
  have hbound : greatest ≤ 3 := by
    rcases (by simpa using hmem : greatest = 3 ∨ greatest = 1 ∨ greatest = 2) with rfl | rfl | rfl
    all_goals norm_num
  rw [le_antisymm hbound hthree]

end Python
