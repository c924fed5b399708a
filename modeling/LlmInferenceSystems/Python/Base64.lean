import LlmInferenceSystems.Python.Text

/-!
# Base64

`base64.b64encode` and `base64.b64decode(…, validate=True)`. Decoding drops the bits the padding
leaves over, so a text is canonical only when encoding gives it back.

## Main definitions

* `b64encode`, `b64decode`: the two functions
* `b64decodeCanonical`: decoding, refused unless the text is what encoding gives

## Main results

* `b64decode_b64encode`: encoded octets decode to themselves
-/

namespace Python

/-- The character of six bits. -/
def b64Char (n : ℕ) : ℕ :=
  if n < 26 then 65 + n
  else if n < 52 then 71 + n
  else if n < 62 then n - 4
  else if n = 62 then 43
  else 47

/-- The six bits of a character. -/
def b64Value (c : ℕ) : Option ℕ :=
  if 65 ≤ c ∧ c ≤ 90 then some (c - 65)
  else if 97 ≤ c ∧ c ≤ 122 then some (c - 71)
  else if 48 ≤ c ∧ c ≤ 57 then some (c + 4)
  else if c = 43 then some 62
  else if c = 47 then some 63
  else none

/-- `base64.b64encode(data).decode("ascii")` -/
def b64encode : Bytes → Str
  | [] => []
  | [a] => [b64Char (a.toNat / 4), b64Char (a.toNat % 4 * 16), 61, 61]
  | [a, b] =>
    [b64Char (a.toNat / 4), b64Char (a.toNat % 4 * 16 + b.toNat / 16),
      b64Char (b.toNat % 16 * 4), 61]
  | a :: b :: c :: data =>
    b64Char (a.toNat / 4) :: b64Char (a.toNat % 4 * 16 + b.toNat / 16) ::
      b64Char (b.toNat % 16 * 4 + c.toNat / 64) :: b64Char (c.toNat % 64) :: b64encode data

/-- The octets of four characters, `=` being padding. -/
def b64Quad (a b c d : ℕ) : Option Bytes :=
  match b64Value a, b64Value b with
  | some x, some y =>
    let first := UInt8.ofNat (x * 4 + y / 16)
    if c = 61 ∧ d = 61 then some [first]
    else
      match b64Value c with
      | none => none
      | some z =>
        let second := UInt8.ofNat (y % 16 * 16 + z / 4)
        if d = 61 then some [first, second]
        else (b64Value d).map fun w => [first, second, UInt8.ofNat (z % 4 * 64 + w)]
  | _, _ => none

/-- `base64.b64decode(text, validate=True)`; `none` is `binascii.Error`. The strict mode looks at
padding only inside a quad: any `=` after a complete one is passed over, as in `QUJD=`. -/
def b64decode : Str → Option Bytes
  | [] => some []
  | [a, b, c, d] => b64Quad a b c d
  | a :: b :: c :: d :: text =>
    match b64Value a, b64Value b, b64Value c, b64Value d with
    | some x, some y, some z, some w =>
      (if ∀ e ∈ text, e = 61 then some [] else b64decode text).map fun data =>
        UInt8.ofNat (x * 4 + y / 16) :: UInt8.ofNat (y % 16 * 16 + z / 4) ::
          UInt8.ofNat (z % 4 * 64 + w) :: data
    | _, _, _, _ => none
  | _ => none

/-- Decoding of canonical Base64 only. -/
def b64decodeCanonical (text : Str) : Option Bytes :=
  (b64decode text).filter fun data => b64encode data = text

theorem b64Value_b64Char {n : ℕ} (h : n < 64) : b64Value (b64Char n) = some n := by
  have key : ∀ m : Fin 64, b64Value (b64Char m) = some m.val := by decide
  exact key ⟨n, h⟩

theorem b64Char_ne_pad {n : ℕ} (h : n < 64) : b64Char n ≠ 61 := by
  intro heq
  have hv := b64Value_b64Char h
  rw [heq] at hv
  simp [b64Value] at hv

theorem b64Char_ascii {n : ℕ} (h : n < 64) : b64Char n < 128 := by
  unfold b64Char
  split_ifs <;> omega

theorem b64encode_ascii (data : Bytes) : ∀ c ∈ b64encode data, c < 128 := by
  have byte : ∀ a : UInt8, a.toNat < 256 := fun a => a.toNat_lt_size
  fun_induction b64encode data with
  | case1 => simp
  | case2 a =>
    have := byte a
    simp [b64Char_ascii (n := a.toNat / 4) (by omega),
      b64Char_ascii (n := a.toNat % 4 * 16) (by omega)]
  | case3 a b =>
    have := byte a
    have := byte b
    simp [b64Char_ascii (n := a.toNat / 4) (by omega),
      b64Char_ascii (n := a.toNat % 4 * 16 + b.toNat / 16) (by omega),
      b64Char_ascii (n := b.toNat % 16 * 4) (by omega)]
  | case4 a b c data ih =>
    have := byte a
    have := byte b
    have := byte c
    simp only [List.forall_mem_cons]
    exact ⟨b64Char_ascii (by omega), b64Char_ascii (by omega), b64Char_ascii (by omega),
      b64Char_ascii (by omega), ih⟩

theorem ne_pad_of_head?_b64encode {data : Bytes} {c : ℕ} (h : (b64encode data).head? = some c) :
    c ≠ 61 := by
  have byte : ∀ a : UInt8, a.toNat < 256 := fun a => a.toNat_lt_size
  have key : ∀ a : UInt8, b64Char (a.toNat / 4) ≠ 61 := fun a =>
    b64Char_ne_pad (by have := byte a; omega)
  fun_cases b64encode data with
  | case1 => cases h
  | case2 a | case3 a | case4 a =>
    exact Option.some.inj h ▸ key a

private theorem ofNat_eq {a : UInt8} {n : ℕ} (h : n = a.toNat) : UInt8.ofNat n = a := by
  rw [h, UInt8.ofNat_toNat]

private theorem toNat_lt (a : UInt8) : a.toNat < 256 := a.toNat_lt_size

/-- **Encoded octets decode to themselves.** -/
theorem b64decode_b64encode (data : Bytes) : b64decode (b64encode data) = some data := by
  fun_induction b64encode data with
  | case1 => rfl
  | case2 a =>
    have ha := toNat_lt a
    simp only [b64decode, b64Quad, b64Value_b64Char (n := a.toNat / 4) (by omega),
      b64Value_b64Char (n := a.toNat % 4 * 16) (by omega), and_self, if_true]
    rw [ofNat_eq (a := a) (by omega)]
  | case3 a b =>
    have ha := toNat_lt a
    have hb := toNat_lt b
    simp only [b64decode, b64Quad, b64Value_b64Char (n := a.toNat / 4) (by omega),
      b64Value_b64Char (n := a.toNat % 4 * 16 + b.toNat / 16) (by omega),
      b64Value_b64Char (n := b.toNat % 16 * 4) (by omega),
      b64Char_ne_pad (n := b.toNat % 16 * 4) (by omega), false_and, if_false, if_true]
    rw [ofNat_eq (a := a) (by omega), ofNat_eq (a := b) (by omega)]
  | case4 a b c data ih =>
    have ha := toNat_lt a
    have hb := toNat_lt b
    have hc := toNat_lt c
    have h₁ := b64Value_b64Char (n := a.toNat / 4) (by omega)
    have h₂ := b64Value_b64Char (n := a.toNat % 4 * 16 + b.toNat / 16) (by omega)
    have h₃ := b64Value_b64Char (n := b.toNat % 16 * 4 + c.toNat / 64) (by omega)
    have h₄ := b64Value_b64Char (n := c.toNat % 64) (by omega)
    have e₁ : UInt8.ofNat (a.toNat / 4 * 4 + (a.toNat % 4 * 16 + b.toNat / 16) / 16) = a :=
      ofNat_eq (by omega)
    have e₂ : UInt8.ofNat ((a.toNat % 4 * 16 + b.toNat / 16) % 16 * 16 +
        (b.toNat % 16 * 4 + c.toNat / 64) / 4) = b := ofNat_eq (by omega)
    have e₃ : UInt8.ofNat ((b.toNat % 16 * 4 + c.toNat / 64) % 4 * 64 + c.toNat % 64) = c :=
      ofNat_eq (by omega)
    cases hd : b64encode data with
    | nil =>
      have hdata : data = [] := by
        rw [hd] at ih
        simpa [b64decode] using ih
      simp only [b64decode, b64Quad, h₁, h₂, h₃, h₄,
        b64Char_ne_pad (n := b.toNat % 16 * 4 + c.toNat / 64) (by omega),
        b64Char_ne_pad (n := c.toNat % 64) (by omega), false_and, if_false, Option.map_some,
        e₁, e₂, e₃, hdata]
    | cons x text =>
      -- what is left is encoded data, so its first character is no padding
      have hhead : (b64encode data).head? = some x := by rw [hd]; rfl
      have hpad : ¬∀ e ∈ b64encode data, e = 61 := fun h =>
        ne_pad_of_head?_b64encode hhead (h x (List.mem_of_head? hhead))
      rw [b64decode, ← hd, if_neg hpad, ih, h₁, h₂, h₃, h₄]
      · simp only [Option.map_some, e₁, e₂, e₃]
      · simp

theorem b64decodeCanonical_b64encode (data : Bytes) :
    b64decodeCanonical (b64encode data) = some data := by
  simp [b64decodeCanonical, b64decode_b64encode]

theorem b64decodeCanonical_eq_some {text : Str} {data : Bytes} :
    b64decodeCanonical text = some data ↔ text = b64encode data := by
  constructor
  · intro h
    obtain ⟨-, ht⟩ := Option.filter_eq_some_iff.mp h
    exact (of_decide_eq_true ht).symm
  · rintro rfl
    exact b64decodeCanonical_b64encode data

end Python
