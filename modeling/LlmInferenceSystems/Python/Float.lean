import Mathlib.Algebra.Order.Field.Rat
import Mathlib.Algebra.Order.Ring.Cast
import Mathlib.Algebra.Order.BigOperators.Group.List
import Mathlib.Data.Nat.Log
import Mathlib.Tactic.Linarith
import Mathlib.Tactic.NormNum
import Mathlib.Tactic.FieldSimp
import Mathlib.Tactic.Ring

/-!
# Binary64 numbers

A finite Python `float` is the rational it stands for; `-0.0` is `0`, which it is equal to in
Python. Every operation is the exact result rounded to nearest, ties to even, with overflow to an
infinity. Whole numbers below `2 ^ 53` are exact, so sums of them that stay below are.

## Main definitions

* `PyFloat`, `PyFloat.round`: floats, and rounding of a rational
* `PyFloat.ofDecimal`: the value of a decimal literal
* `PyFloat.ofInt`, `trueDiv`, `floatDiv`: `float(n)`, `m / n` of `int`s, and of a float by an `int`
* `sumFloats`: `sum` of floats, compensated as CPython does it

## Main results

* `PyFloat.round_intCast`: whole numbers below `2 ^ 53` are exact
* `sumFloats_intCast`: so is the sum of nonnegative ones below `2 ^ 53`
-/

namespace Python

/-- A Python `float`. -/
inductive PyFloat where
  | finite (value : ℚ)
  | inf (negative : Bool)
  | nan
deriving DecidableEq

namespace PyFloat

/-- `⌊log₂ (n / d)⌋` for positive `n` and `d`. -/
def log2Ratio (n d : ℕ) : ℤ :=
  let k : ℤ := (n.log2 : ℤ) - d.log2
  if d * 2 ^ k.toNat ≤ n * 2 ^ (-k).toNat then k else k - 1

/-- `n / d` to the nearest whole number, ties to even. -/
def divNearest (n d : ℕ) : ℕ :=
  if 2 * (n % d) < d then n / d
  else if d < 2 * (n % d) then n / d + 1
  else n / d + n / d % 2

/-- The exponent of the last place kept of `n / d`. -/
def lastPlace (n d : ℕ) : ℤ := max (log2Ratio n d - 52) (-1074)

/-- The magnitude of the float nearest to `n / d`, exponents unbounded above. -/
def roundMagnitude (n d : ℕ) : ℚ :=
  let e := lastPlace n d
  (divNearest (n * 2 ^ (-e).toNat) (d * 2 ^ e.toNat) : ℚ) * 2 ^ e.toNat / 2 ^ (-e).toNat

/-- The float nearest to a rational. -/
def round (q : ℚ) : PyFloat :=
  let m := roundMagnitude q.num.natAbs q.den
  if 2 ^ 1024 ≤ m then .inf (q < 0) else .finite (if q < 0 then -m else m)

/-- The float a decimal literal `mantissa * 10 ^ exponent` denotes. -/
def ofDecimal (mantissa : ℤ) (exponent : ℤ) : PyFloat :=
  round ((mantissa : ℚ) * 10 ^ exponent.toNat / 10 ^ (-exponent).toNat)

/-- `float(n)`; `none` is `OverflowError`. -/
def ofInt (n : ℤ) : Option PyFloat :=
  match round n with
  | .finite q => some (.finite q)
  | _ => none

/-- `math.isfinite(x)` -/
def isFinite : PyFloat → Bool
  | .finite _ => true
  | _ => false

/-- `x < 0` -/
def isNegative : PyFloat → Bool
  | .finite q => q < 0
  | .inf negative => negative
  | .nan => false

/-- `-x` -/
def neg : PyFloat → PyFloat
  | .finite q => .finite (-q)
  | .inf negative => .inf (!negative)
  | .nan => .nan

/-- `x + y` -/
def add : PyFloat → PyFloat → PyFloat
  | .finite p, .finite q => round (p + q)
  | .finite _, y => y
  | x, .finite _ => x
  | .inf a, .inf b => if a = b then .inf a else .nan
  | _, _ => .nan

/-- `x - y` -/
def sub (x y : PyFloat) : PyFloat := add x (neg y)

/-- `abs(x) >= abs(y)` -/
def absGe : PyFloat → PyFloat → Bool
  | .finite p, .finite q => |q| ≤ |p|
  | .inf _, .finite _ => true
  | .inf _, .inf _ => true
  | _, _ => false

/-! ### Whole numbers -/

theorem divNearest_one (n : ℕ) : divNearest n 1 = n := by
  simp [divNearest, Nat.mod_one]

theorem log2Ratio_one {n : ℕ} (hn : n ≠ 0) : log2Ratio n 1 = n.log2 := by
  have h := Nat.log2_self_le hn
  have h1 : Nat.log2 1 = 0 := rfl
  simp [log2Ratio, h1, h]

theorem roundMagnitude_natCast {n : ℕ} (hn : n < 2 ^ 53) : roundMagnitude n 1 = n := by
  rcases Nat.eq_zero_or_pos n with rfl | hpos
  · simp [roundMagnitude, divNearest]
  · have hlog : n.log2 < 53 := (Nat.log2_lt hpos.ne').mpr hn
    have he : (lastPlace n 1).toNat = 0 := by
      simp only [lastPlace, log2Ratio_one hpos.ne']
      omega
    have hpow : (2 : ℚ) ^ (-lastPlace n 1).toNat ≠ 0 := by positivity
    simp only [roundMagnitude, he, pow_zero, mul_one, divNearest_one, Nat.cast_mul, Nat.cast_pow,
      Nat.cast_ofNat]
    exact mul_div_cancel_right₀ _ hpow

/-- **Whole numbers below `2 ^ 53` are exact.** -/
theorem round_intCast {z : ℤ} (hz : z.natAbs < 2 ^ 53) : round z = .finite z := by
  have hm : roundMagnitude (z : ℚ).num.natAbs (z : ℚ).den = z.natAbs := by
    rw [Rat.num_intCast, Rat.den_intCast, roundMagnitude_natCast hz]
  have hlt : ((z.natAbs : ℕ) : ℚ) < 2 ^ 1024 := by
    have h : (2 : ℚ) ^ 53 ≤ 2 ^ 1024 := pow_le_pow_right₀ one_le_two (by decide)
    exact lt_of_lt_of_le (by exact_mod_cast hz) h
  simp only [round, hm, if_neg (not_le.mpr hlt)]
  congr 1
  by_cases hneg : z < 0
  · rw [if_pos (by exact_mod_cast hneg)]
    have : ((z.natAbs : ℤ) : ℚ) = ((-z : ℤ) : ℚ) := by rw [Int.ofNat_natAbs_of_nonpos hneg.le]
    rw [← Int.cast_natCast, this]
    push_cast
    ring
  · rw [if_neg (by exact_mod_cast hneg)]
    rw [← Int.cast_natCast, Int.natAbs_of_nonneg (not_lt.mp hneg)]

theorem ofInt_of_natAbs_lt {z : ℤ} (hz : z.natAbs < 2 ^ 53) : ofInt z = some (.finite z) := by
  rw [ofInt, round_intCast hz]

theorem add_intCast {a b : ℤ} (h : (a + b).natAbs < 2 ^ 53) :
    add (.finite a) (.finite b) = .finite ((a + b : ℤ) : ℚ) := by
  rw [add, ← Int.cast_add, round_intCast h]

theorem sub_intCast {a b : ℤ} (h : (a - b).natAbs < 2 ^ 53) :
    sub (.finite a) (.finite b) = .finite ((a - b : ℤ) : ℚ) := by
  rw [sub, neg, add, ← Int.cast_neg, ← Int.cast_add, ← sub_eq_add_neg, round_intCast h]

/-! ### Quotients -/

theorem divNearest_le (n d : ℕ) : divNearest n d ≤ n / d + 1 := by
  unfold divNearest
  split_ifs <;> omega

theorem log2Ratio_le (n d : ℕ) : log2Ratio n d ≤ n.log2 := by
  unfold log2Ratio
  dsimp only
  split_ifs <;> omega

/-- A magnitude below `2 ^ 53` stays small when it is rounded. -/
theorem roundMagnitude_le {n : ℕ} (d : ℕ) (hn : n < 2 ^ 53) :
    roundMagnitude n d ≤ n + 1 := by
  have hlog : n.log2 ≤ 52 := by
    rcases eq_or_ne n 0 with rfl | hne
    · simp
    · have := (Nat.log2_lt hne).mpr hn
      omega
  have hplace : lastPlace n d ≤ 0 := by
    have := log2Ratio_le n d
    unfold lastPlace
    omega
  unfold roundMagnitude
  dsimp only
  rw [Int.toNat_eq_zero.mpr hplace, pow_zero, mul_one, pow_zero, mul_one]
  set k := (-lastPlace n d).toNat
  have hpow : (0 : ℚ) < 2 ^ k := by positivity
  have hnat : divNearest (n * 2 ^ k) d ≤ (n + 1) * 2 ^ k := by
    refine (divNearest_le _ _).trans ?_
    have hdiv : n * 2 ^ k / d ≤ n * 2 ^ k := Nat.div_le_self _ _
    have hone : 1 ≤ 2 ^ k := Nat.one_le_two_pow
    rw [add_mul, one_mul]
    omega
  rw [div_le_iff₀ hpow]
  exact_mod_cast hnat

/-- **A quotient of a nonnegative number below `2 ^ 53` is finite and not negative.** -/
theorem exists_round_div {z : ℤ} {n : ℕ} (hn : n ≠ 0) (hz : 0 ≤ z) (hlt : z < 2 ^ 53) :
    ∃ q, PyFloat.round ((z : ℚ) / n) = .finite q ∧ 0 ≤ q := by
  have hnonneg : (0 : ℚ) ≤ (z : ℚ) / n := div_nonneg (by exact_mod_cast hz) n.cast_nonneg
  have hnum : ((z : ℚ) / n).num.natAbs < 2 ^ 53 := by
    have hdvd : ((z : ℚ) / n).num ∣ z := by
      have h := Rat.num_dvd z (b := (n : ℤ)) (by exact_mod_cast hn)
      rwa [Rat.divInt_eq_div, Int.cast_natCast] at h
    rcases eq_or_ne z 0 with rfl | hne
    · simp
    · have := Int.le_of_dvd (by omega) hdvd
      have hnn : 0 ≤ ((z : ℚ) / n).num := Rat.num_nonneg.mpr hnonneg
      omega
  have hle := roundMagnitude_le ((z : ℚ) / n).den hnum
  have hsmall : ¬ (2 : ℚ) ^ 1024 ≤ roundMagnitude ((z : ℚ) / n).num.natAbs ((z : ℚ) / n).den := by
    intro h
    have hbound : ((((z : ℚ) / n).num.natAbs : ℕ) : ℚ) + 1 ≤ 2 ^ 53 := by exact_mod_cast hnum
    have h53 : (2 : ℚ) ^ 53 < 2 ^ 1024 := by
      apply pow_lt_pow_right₀ <;> norm_num
    exact absurd (h.trans (hle.trans hbound)) (not_le.mpr h53)
  refine ⟨roundMagnitude ((z : ℚ) / n).num.natAbs ((z : ℚ) / n).den, ?_, ?_⟩
  · unfold PyFloat.round
    dsimp only
    rw [if_neg hsmall, if_neg (not_lt.mpr hnonneg)]
  · unfold roundMagnitude
    exact div_nonneg (mul_nonneg (Nat.cast_nonneg _) (pow_nonneg zero_le_two _))
      (pow_nonneg zero_le_two _)

end PyFloat

open PyFloat

/-- `m / n` of two `int`s; `none` is `ZeroDivisionError` or `OverflowError`. -/
def trueDiv (m n : ℤ) : Option PyFloat :=
  if n = 0 then none
  else
    match PyFloat.round (m / n) with
    | .finite q => some (.finite q)
    | _ => none

/-- `x / n` of a float by an `int`; `none` is `ZeroDivisionError` or `OverflowError`. -/
def floatDiv (x : PyFloat) (n : ℤ) : Option PyFloat :=
  if n = 0 then none
  else
    match x, PyFloat.round n with
    | .finite p, .finite q => some (round (p / q))
    | .inf a, .finite q => some (.inf (a != decide (q < 0)))
    | .nan, .finite _ => some .nan
    | _, _ => none

/-- Both quotients of a whole number by a small one are the same float. -/
theorem exists_quotients {z : ℤ} {n : ℕ} (hn : n ≠ 0) (hsmall : n < 2 ^ 53) (hz : 0 ≤ z)
    (hlt : z < 2 ^ 53) :
    ∃ q, trueDiv z n = some (.finite q) ∧ floatDiv (.finite z) n = some (.finite q) ∧ 0 ≤ q := by
  obtain ⟨q, hround, hq⟩ := PyFloat.exists_round_div hn hz hlt
  have hdivisor : PyFloat.round ((n : ℤ) : ℚ) = .finite n := by
    rw [PyFloat.round_intCast (by simpa using hsmall)]
    simp
  refine ⟨q, ?_, ?_, hq⟩
  · unfold trueDiv
    rw [if_neg (by exact_mod_cast hn), Int.cast_natCast, hround]
  · unfold floatDiv
    rw [if_neg (by exact_mod_cast hn), hdivisor]
    exact congrArg some hround

/-! ## Sums -/

/-- One step of the compensated sum: the running total, and the part lost so far. -/
def sumStep (acc : PyFloat × PyFloat) (x : PyFloat) : PyFloat × PyFloat :=
  let t := add acc.1 x
  (t, add acc.2
    (if absGe acc.1 x then add (sub acc.1 t) x else add (sub x t) acc.1))

/-- The end of the compensated sum: the lost part is added when it is finite and not zero. -/
def sumEnd (acc : PyFloat × PyFloat) : PyFloat :=
  match acc.2 with
  | .finite q => if q = 0 then acc.1 else add acc.1 (.finite q)
  | _ => acc.1

/-- `sum(xs)` of a nonempty sequence of floats. -/
def sumFloats : List PyFloat → PyFloat
  | [] => .finite 0
  | x :: xs => sumEnd (xs.foldl sumStep (x, .finite 0))

theorem sumStep_intCast {a b : ℤ} (ha : 0 ≤ a) (hb : 0 ≤ b) (h : a + b < 2 ^ 53) :
    sumStep (.finite a, .finite 0) (.finite b) = (.finite ((a + b : ℤ) : ℚ), .finite 0) := by
  have ht := add_intCast (a := a) (b := b) (by omega)
  have hzero : ∀ c : ℤ, c = 0 → add (.finite 0) (.finite (c : ℚ)) = .finite 0 := by
    intro c hc
    have := add_intCast (a := 0) (b := c) (by omega)
    simpa [hc] using this
  simp only [sumStep, ht]
  split
  · rw [sub_intCast (by omega), add_intCast (by omega), hzero _ (by omega)]
  · rw [sub_intCast (by omega), add_intCast (by omega), hzero _ (by omega)]

theorem foldl_sumStep_intCast {zs : List ℤ} (hz : ∀ z ∈ zs, 0 ≤ z) {a : ℤ} (ha : 0 ≤ a)
    (h : a + zs.sum < 2 ^ 53) :
    (zs.map fun z : ℤ => PyFloat.finite z).foldl sumStep (.finite a, .finite 0) =
      (.finite ((a + zs.sum : ℤ) : ℚ), .finite 0) := by
  induction zs generalizing a with
  | nil => simp
  | cons z zs ih =>
    have hz0 : 0 ≤ z := hz z (by simp)
    have hsum : 0 ≤ zs.sum := List.sum_nonneg fun w hw => hz w (by simp [hw])
    rw [List.sum_cons] at h ⊢
    rw [List.map_cons, List.foldl_cons, sumStep_intCast ha hz0 (by omega),
      ih (fun w hw => hz w (by simp [hw])) (by omega) (by omega), add_assoc]

/-- **Nonnegative whole numbers with a sum below `2 ^ 53` are summed exactly.** -/
theorem sumFloats_intCast {zs : List ℤ} (hz : ∀ z ∈ zs, 0 ≤ z) (h : zs.sum < 2 ^ 53) :
    sumFloats (zs.map fun z : ℤ => PyFloat.finite z) = .finite (zs.sum : ℤ) := by
  cases zs with
  | nil => simp [sumFloats]
  | cons z zs =>
    have hz0 : 0 ≤ z := hz z (by simp)
    rw [List.sum_cons] at h ⊢
    rw [List.map_cons, sumFloats,
      foldl_sumStep_intCast (fun w hw => hz w (by simp [hw])) hz0 h]
    simp [sumEnd]

end Python
