import LlmInferenceSystems.Python.Json

/-!
# Floats in texts

What `float` makes of a text without white space: decimal digits of any script, single underscores
between digits, a sign, a fraction, an exponent, and the words for infinity and for no number.

## Main definitions

* `decimalDigit`: `unicodedata.decimal`
* `readFloat`: `float(text)`
* `IsDecimal`: the plain numerals, and the floats that they denote

## Main results

* `readFloat_of_isDecimal`: a plain numeral is read as the float that it denotes
-/

namespace Python

open Json

/-- The zeros of the scripts, each followed by its other nine digits. -/
def decimalZeros : List ℕ :=
  [0x30, 0x660, 0x6F0, 0x7C0, 0x966, 0x9E6, 0xA66, 0xAE6, 0xB66, 0xBE6, 0xC66, 0xCE6, 0xD66, 0xDE6,
    0xE50, 0xED0, 0xF20, 0x1040, 0x1090, 0x17E0, 0x1810, 0x1946, 0x19D0, 0x1A80, 0x1A90, 0x1B50,
    0x1BB0, 0x1C40, 0x1C50, 0xA620, 0xA8D0, 0xA900, 0xA9D0, 0xA9F0, 0xAA50, 0xABF0, 0xFF10, 0x104A0,
    0x10D30, 0x11066, 0x110F0, 0x11136, 0x111D0, 0x112F0, 0x11450, 0x114D0, 0x11650, 0x116C0,
    0x11730, 0x118E0, 0x11950, 0x11C50, 0x11D50, 0x11DA0, 0x11F50, 0x16A60, 0x16AC0, 0x16B50,
    0x1D7CE, 0x1D7D8, 0x1D7E2, 0x1D7EC, 0x1D7F6, 0x1E140, 0x1E2F0, 0x1E4F0, 0x1E950, 0x1FBF0]

/-- `unicodedata.decimal(c)` -/
def decimalDigit (c : ℕ) : Option ℕ :=
  (decimalZeros.find? fun start => start ≤ c ∧ c < start + 10).map (c - ·)

/-- The text with its digits in ASCII. No other character that is not ASCII is part of a number. -/
def asciiDigits (text : Str) : Str :=
  text.map fun c =>
    match decimalDigit c with
    | some digit => 48 + digit
    | none => c

/-- Every underscore comes after a digit and before one; `digit` tells whether the character before
the text is one. -/
def underscoresBetween : Bool → Str → Bool
  | _, [] => true
  | digit, c :: rest =>
    if c = 95 then digit && rest.head?.any isDigit && underscoresBetween false rest
    else underscoresBetween (isDigit c) rest

/-- The sign of a number, and what comes after it. -/
def readSign : Str → Bool × Str
  | 45 :: rest => (true, rest)
  | 43 :: rest => (false, rest)
  | rest => (false, rest)

/-- The digits after a full stop, if there is one, and the text after them. -/
def readFraction : Str → Str × Str
  | 46 :: rest => (rest.takeWhile isDigit, rest.dropWhile isDigit)
  | rest => ([], rest)

/-- A number without its sign. -/
def readMagnitude (negative : Bool) (text : Str) : Option PyFloat :=
  let whole := text.takeWhile isDigit
  let fraction := readFraction (text.dropWhile isDigit)
  let mantissa : ℤ := digitsValue (whole ++ fraction.1)
  let signed := if negative then -mantissa else mantissa
  if whole ++ fraction.1 = [] then none
  else if fraction.2 = [] then some (PyFloat.ofDecimal signed (-fraction.1.length))
  else
    match scanExponent fraction.2 with
    | some (e, []) => some (PyFloat.ofDecimal signed (e - fraction.1.length))
    | _ => none

/-- An ASCII letter in lower case. -/
def lowerAscii (c : ℕ) : ℕ := if 65 ≤ c ∧ c ≤ 90 then c + 32 else c

/-- `float(text)` of a text without white space; `none` is `ValueError`. -/
def readFloat (text : Str) : Option PyFloat :=
  let ascii := asciiDigits text
  if ¬ underscoresBetween false ascii then none
  else
    let signed := readSign (ascii.filter (· ≠ 95))
    let word := signed.2.map lowerAscii
    if word = lit "inf" ∨ word = lit "infinity" then some (.inf signed.1)
    else if word = lit "nan" then some .nan
    else readMagnitude signed.1 signed.2

/-! ## Plain decimals -/

/-- What may stand at the end of a numeral: an exponent. -/
inductive ExponentText : Str → ℤ → Prop
  | absent : ExponentText [] 0
  | exponent {c : ℕ} {sign digits : Str} (hc : c = 101 ∨ c = 69)
      (hsign : sign = [] ∨ sign = [43] ∨ sign = [45]) (hdigits : ∀ d ∈ digits, isDigit d = true)
      (hne : digits ≠ []) :
      ExponentText (c :: sign ++ digits)
        (if sign = [45] then -(digitsValue digits : ℤ) else digitsValue digits)

/-- What may stand after the digits of a numeral: a fraction. -/
inductive FractionText : Str → Str → Prop
  | absent : FractionText [] []
  | fraction {digits : Str} (hdigits : ∀ d ∈ digits, isDigit d = true) :
      FractionText (46 :: digits) digits

/-- A numeral without a sign, with a fraction and an exponent or without. -/
inductive IsDecimal : Str → PyFloat → Prop
  | intro {whole fraction digits exponent : Str} {e : ℤ}
      (hwhole : ∀ d ∈ whole, isDigit d = true) (hne : whole ≠ [])
      (hfraction : FractionText fraction digits) (hexponent : ExponentText exponent e) :
      IsDecimal (whole ++ fraction ++ exponent)
        (PyFloat.ofDecimal (digitsValue (whole ++ digits)) (e - digits.length))

/-- A character of a numeral. -/
def isDecimalChar (c : ℕ) : Bool :=
  isDigit c || c == 46 || c == 101 || c == 69 || c == 43 || c == 45

theorem isDecimalChar_of_isDigit {c : ℕ} (h : isDigit c = true) : isDecimalChar c = true := by
  unfold isDecimalChar
  rw [h]
  rfl

theorem isDecimalChar_cases {c : ℕ} (h : isDecimalChar c = true) :
    isDigit c = true ∨ c = 46 ∨ c = 101 ∨ c = 69 ∨ c = 43 ∨ c = 45 := by
  simpa [isDecimalChar, or_assoc] using h

theorem FractionText.isDecimalChar {fraction digits : Str} (h : FractionText fraction digits) :
    ∀ c ∈ fraction, isDecimalChar c = true := by
  cases h with
  | absent => exact fun c hc => absurd hc List.not_mem_nil
  | fraction hdigits =>
    exact List.forall_mem_cons.mpr ⟨rfl, fun c hc => isDecimalChar_of_isDigit (hdigits c hc)⟩

theorem ExponentText.isDecimalChar {exponent : Str} {e : ℤ} (h : ExponentText exponent e) :
    ∀ c ∈ exponent, isDecimalChar c = true := by
  cases h with
  | absent => exact fun c hc => absurd hc List.not_mem_nil
  | exponent hc hsign hdigits hne =>
    intro d hd
    rcases List.mem_append.mp hd with hd | hd
    · rcases List.mem_cons.mp hd with rfl | hd
      · rcases hc with rfl | rfl <;> rfl
      · rcases hsign with rfl | rfl | rfl
        · exact absurd hd List.not_mem_nil
        · rw [List.mem_singleton.mp hd]; rfl
        · rw [List.mem_singleton.mp hd]; rfl
    · exact isDecimalChar_of_isDigit (hdigits d hd)

theorem IsDecimal.isDecimalChar {text : Str} {x : PyFloat} (h : IsDecimal text x) :
    ∀ c ∈ text, isDecimalChar c = true := by
  cases h with
  | intro hwhole hne hfraction hexponent =>
    intro c hc
    rcases List.mem_append.mp hc with hc | hc
    · rcases List.mem_append.mp hc with hc | hc
      · exact isDecimalChar_of_isDigit (hwhole c hc)
      · exact hfraction.isDecimalChar c hc
    · exact hexponent.isDecimalChar c hc

theorem IsDecimal.ne_nil {text : Str} {x : PyFloat} (h : IsDecimal text x) : text ≠ [] := by
  cases h with
  | intro _ hne => simp [hne]

/-- A numeral has no sign. -/
theorem IsDecimal.nonneg {text : Str} {q : ℚ} (h : IsDecimal text (.finite q)) : 0 ≤ q := by
  generalize hx : PyFloat.finite q = x at h
  cases h with
  | @intro whole _ digits _ e =>
    unfold PyFloat.ofDecimal PyFloat.round at hx
    have hexact : ¬ ((digitsValue (whole ++ digits) : ℤ) : ℚ) * 10 ^ (e - digits.length).toNat /
        10 ^ (-(e - digits.length)).toNat < 0 := by
      rw [Int.cast_natCast, not_lt]
      exact div_nonneg (mul_nonneg (Nat.cast_nonneg _) (pow_nonneg (by norm_num) _))
        (pow_nonneg (by norm_num) _)
    dsimp only at hx
    rw [if_neg hexact] at hx
    split_ifs at hx
    rw [PyFloat.finite.inj hx]
    unfold PyFloat.roundMagnitude
    exact div_nonneg (mul_nonneg (Nat.cast_nonneg _) (pow_nonneg zero_le_two _))
      (pow_nonneg zero_le_two _)

theorem decimalDigit_of_isDigit {c : ℕ} (h : isDigit c = true) : decimalDigit c = some (c - 48) := by
  have hrange : 48 ≤ c ∧ c ≤ 57 := by simpa [isDigit] using h
  unfold decimalDigit decimalZeros
  rw [List.find?_cons_of_pos (by simpa using by omega)]
  rfl

theorem asciiDigits_of_decimal {text : Str} (h : ∀ c ∈ text, isDecimalChar c = true) :
    asciiDigits text = text := by
  unfold asciiDigits
  refine (List.map_congr_left fun c hc => ?_).trans (List.map_id text)
  rcases isDecimalChar_cases (h c hc) with hdigit | rfl | rfl | rfl | rfl | rfl
  · have hrange : 48 ≤ c ∧ c ≤ 57 := by simpa [isDigit] using hdigit
    rw [decimalDigit_of_isDigit hdigit]
    exact Nat.add_sub_of_le hrange.1
  all_goals rfl

theorem ne_underscore_of_decimal {c : ℕ} (h : isDecimalChar c = true) : c ≠ 95 := by
  rintro rfl
  exact absurd h (by decide)

theorem underscoresBetween_of_decimal {text : Str} (h : ∀ c ∈ text, isDecimalChar c = true)
    (digit : Bool) : underscoresBetween digit text = true := by
  induction text generalizing digit with
  | nil => rfl
  | cons c text ih =>
    obtain ⟨hc, htext⟩ := List.forall_mem_cons.mp h
    rw [underscoresBetween, if_neg (ne_underscore_of_decimal hc)]
    exact ih htext _

/-- A digit is no sign. -/
theorem readSign_of_digit {d : ℕ} {rest : Str} (h : isDigit d = true) :
    readSign (d :: rest) = (false, d :: rest) := by
  have hrange : 48 ≤ d ∧ d ≤ 57 := by simpa [isDigit] using h
  unfold readSign
  split
  · next heq =>
    obtain rfl := (List.cons.inj heq).1
    omega
  · next heq =>
    obtain rfl := (List.cons.inj heq).1
    omega
  · rfl

theorem readSign_append {sign digits : Str} (hsign : sign = [] ∨ sign = [43] ∨ sign = [45])
    (hdigits : ∀ d ∈ digits, isDigit d = true) (hne : digits ≠ []) :
    readSign (sign ++ digits) = (decide (sign = [45]), digits) := by
  rcases hsign with rfl | rfl | rfl
  · obtain ⟨d, rest, rfl⟩ := List.exists_cons_of_ne_nil hne
    exact readSign_of_digit (hdigits d List.mem_cons_self)
  · rfl
  · rfl

theorem scanExponent_exponent {exponent : Str} {e : ℤ} (h : ExponentText exponent e)
    (hne : exponent ≠ []) : scanExponent exponent = some (e, []) := by
  cases h with
  | absent => exact absurd rfl hne
  | @exponent c sign digits hc hsign hdigits hdigitsNe =>
    have hrun := takeWhile_maximal hdigits (rfl : ([] : Str).head?.any isDigit = false)
    rw [List.append_nil] at hrun
    have hempty : digits.isEmpty = false := by simpa using hdigitsNe
    -- the scanner's own reading of the sign is `readSign`
    have hscan : scanExponent (c :: (sign ++ digits)) =
        if c = 101 ∨ c = 69 then
          if ((readSign (sign ++ digits)).2.takeWhile isDigit).isEmpty then none
          else some (if (readSign (sign ++ digits)).1 then
              -(digitsValue ((readSign (sign ++ digits)).2.takeWhile isDigit) : ℤ)
            else digitsValue ((readSign (sign ++ digits)).2.takeWhile isDigit),
            (readSign (sign ++ digits)).2.dropWhile isDigit)
        else none := rfl
    rw [List.cons_append, hscan, if_pos hc, readSign_append hsign hdigits hdigitsNe, hrun.1, hrun.2,
      hempty]
    simp

/-- What comes after the digits does not start with one. -/
theorem FractionText.head? {fraction digits exponent : Str} {e : ℤ}
    (hfraction : FractionText fraction digits) (hexponent : ExponentText exponent e) :
    (fraction ++ exponent).head?.any isDigit = false := by
  cases hfraction with
  | absent =>
    cases hexponent with
    | absent => rfl
    | exponent hc => rcases hc with rfl | rfl <;> rfl
  | fraction => rfl

theorem ExponentText.head? {exponent : Str} {e : ℤ} (h : ExponentText exponent e) :
    exponent.head?.any isDigit = false := by
  cases h with
  | absent => rfl
  | exponent hc => rcases hc with rfl | rfl <;> rfl

theorem readFraction_fraction {fraction digits exponent : Str} {e : ℤ}
    (hfraction : FractionText fraction digits) (hexponent : ExponentText exponent e) :
    readFraction (fraction ++ exponent) = (digits, exponent) := by
  cases hfraction with
  | absent =>
    cases hexponent with
    | absent => rfl
    | exponent hc => rcases hc with rfl | rfl <;> rfl
  | fraction hdigits =>
    obtain ⟨htake, hdrop⟩ := takeWhile_maximal hdigits hexponent.head?
    exact Prod.ext htake hdrop

/-- The words start with a letter. -/
theorem map_lowerAscii_ne {d : ℕ} {rest word : Str} (h : isDigit d = true)
    (hword : word.head?.any (57 < ·) = true) : (d :: rest).map lowerAscii ≠ word := by
  have hrange : 48 ≤ d ∧ d ≤ 57 := by simpa [isDigit] using h
  rintro rfl
  have hhead : 57 < lowerAscii d := by simpa using hword
  unfold lowerAscii at hhead
  rw [if_neg (by omega)] at hhead
  omega

/-- **A numeral is read as the float that it denotes.** -/
theorem readFloat_of_isDecimal {text : Str} {x : PyFloat} (h : IsDecimal text x) :
    readFloat text = some x := by
  have hchars := h.isDecimalChar
  -- -- a decimal has no underscore to filter out
  have hplain : text.filter (· ≠ 95) = text :=
    List.filter_eq_self.mpr fun c hc => by simpa using ne_underscore_of_decimal (hchars c hc)
  unfold readFloat
  dsimp only
  rw [asciiDigits_of_decimal hchars, if_neg (not_not.mpr (underscoresBetween_of_decimal hchars _)),
    hplain]
  -- -- digits, a fraction and an exponent, taken in this order
  cases h with
  | @intro whole fraction digits exponent e hwhole hne hfraction hexponent =>
    obtain ⟨htake, hdrop⟩ := takeWhile_maximal hwhole (hfraction.head? hexponent)
    obtain ⟨d, rest, rfl⟩ := List.exists_cons_of_ne_nil hne
    have hd := hwhole d List.mem_cons_self
    -- -- a digit starts neither a sign nor a word for a number that is not finite
    rw [List.append_assoc, List.cons_append, readSign_of_digit hd]
    refine (if_neg ?_).trans ((if_neg (map_lowerAscii_ne hd (by decide))).trans ?_)
    · rintro (heq | heq)
      · exact map_lowerAscii_ne hd (by decide) heq
      · exact map_lowerAscii_ne hd (by decide) heq
    · unfold readMagnitude
      dsimp only
      rw [← List.cons_append, htake, hdrop, readFraction_fraction hfraction hexponent,
        if_neg (by simp)]
      by_cases hexp : exponent = []
      · subst hexp
        cases hexponent
        simp
      · rw [if_neg hexp, scanExponent_exponent hexponent hexp]
        simp

end Python
