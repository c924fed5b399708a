import LlmInferenceSystems.Python.Float
import LlmInferenceSystems.Python.Sha256

/-!
# The interpreter

What the program takes from the interpreter and its tables without looking inside: the digest,
which characters `\w` matches, how a float is written, how deep calls and JSON may nest and how
literals are compared. Theorems hold for any such interpreter; runs on fixed inputs use `cpython`.

## Main definitions

* `Interpreter`: the operations, with the laws on them that the program relies on
* `isWord`: the characters of `\w`
* `cpython`: an interpreter for runs on ASCII text and whole floats
-/

namespace Python

/-- `[A-Za-z0-9]` -/
def isAsciiAlnum (c : ℕ) : Bool :=
  (48 ≤ c && c ≤ 57) || (65 ≤ c && c ≤ 90) || (97 ≤ c && c ≤ 122)

/-- What the model takes from the interpreter and its standard library. -/
class Interpreter where
  /-- `hashlib.sha256(data).hexdigest()` -/
  hexdigest : Bytes → Str
  /-- `str.isalnum` of a character -/
  isAlnum : ℕ → Bool
  /-- `float.__repr__` of a finite float -/
  reprFloat : ℚ → Str
  /-- How many JSON containers may be open at once. -/
  jsonDepth : ℕ
  /-- How many calls of a recursive function may be open at once. -/
  callDepth : ℕ
  /-- Whether a `Literal` of an `int` also takes the `float` that is equal to it. -/
  literalFloats : Bool
  hexdigest_isSha256 : ∀ data, IsSha256 (hexdigest data)
  isAlnum_ascii : ∀ c < 128, isAlnum c = isAsciiAlnum c
  reprFloat_ascii : ∀ q, ∀ c ∈ reprFloat q, c < 128
  jsonDepth_ge : 64 ≤ jsonDepth

/-- `float.__repr__` of a whole number below `10 ** 16`. -/
def reprWhole (q : ℚ) : Str :=
  (if q < 0 then lit "-" else []) ++ decimal q.num.natAbs ++ lit ".0"

theorem reprWhole_ascii {q : ℚ} {c : ℕ} (h : c ∈ reprWhole q) : c < 128 := by
  simp only [reprWhole, List.mem_append] at h
  rcases h with (h | h) | h
  · split at h
    · revert c
      decide
    · simp at h
  · have := decimal_ascii h
    omega
  · revert c
    decide

/-- CPython as far as runs on ASCII text and whole floats go. -/
@[reducible] def cpython : Interpreter where
  hexdigest := sha256Hex
  isAlnum := isAsciiAlnum
  reprFloat := reprWhole
  jsonDepth := 500
  callDepth := 900
  literalFloats := true
  hexdigest_isSha256 := isSha256_sha256Hex
  isAlnum_ascii _ _ := rfl
  reprFloat_ascii _ _ := reprWhole_ascii
  jsonDepth_ge := by decide

/-! ## Word characters -/

variable [Interpreter]

/-- The characters of `\w`. -/
def isWord (c : ℕ) : Bool := Interpreter.isAlnum c || c == 95

theorem isWord_ascii {c : ℕ} (h : c < 128) : isWord c = (isAsciiAlnum c || c == 95) := by
  rw [isWord, Interpreter.isAlnum_ascii c h]

end Python
