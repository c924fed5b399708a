import Mathlib.Algebra.Group.Nat.Defs
import LlmInferenceSystems.Python.Text

/-!
# SHA-256

`hashlib.sha256(data).hexdigest()`, on words of 32 bits held as natural numbers.

## Main definitions

* `sha256Hex`: the digest in lower-case hexadecimal
-/

namespace Python

namespace Sha256

/-- The low 32 bits. -/
def word (n : ℕ) : ℕ := n % 2 ^ 32

/-- A word rotated to the right. -/
def rotateRight (x n : ℕ) : ℕ := x >>> n ||| word (x <<< (32 - n))

/-- The constants of the 64 rounds. -/
def roundConstants : List ℕ :=
  [0x428a2f98, 0x71374491, 0xb5c0fbcf, 0xe9b5dba5, 0x3956c25b, 0x59f111f1, 0x923f82a4, 0xab1c5ed5,
    0xd807aa98, 0x12835b01, 0x243185be, 0x550c7dc3, 0x72be5d74, 0x80deb1fe, 0x9bdc06a7, 0xc19bf174,
    0xe49b69c1, 0xefbe4786, 0x0fc19dc6, 0x240ca1cc, 0x2de92c6f, 0x4a7484aa, 0x5cb0a9dc, 0x76f988da,
    0x983e5152, 0xa831c66d, 0xb00327c8, 0xbf597fc7, 0xc6e00bf3, 0xd5a79147, 0x06ca6351, 0x14292967,
    0x27b70a85, 0x2e1b2138, 0x4d2c6dfc, 0x53380d13, 0x650a7354, 0x766a0abb, 0x81c2c92e, 0x92722c85,
    0xa2bfe8a1, 0xa81a664b, 0xc24b8b70, 0xc76c51a3, 0xd192e819, 0xd6990624, 0xf40e3585, 0x106aa070,
    0x19a4c116, 0x1e376c08, 0x2748774c, 0x34b0bcb5, 0x391c0cb3, 0x4ed8aa4a, 0x5b9cca4f, 0x682e6ff3,
    0x748f82ee, 0x78a5636f, 0x84c87814, 0x8cc70208, 0x90befffa, 0xa4506ceb, 0xbef9a3f7, 0xc67178f2]

/-- The chaining value: eight words. -/
structure State where
  a : ℕ := 0x6a09e667
  b : ℕ := 0xbb67ae85
  c : ℕ := 0x3c6ef372
  d : ℕ := 0xa54ff53a
  e : ℕ := 0x510e527f
  f : ℕ := 0x9b05688c
  g : ℕ := 0x1f83d9ab
  h : ℕ := 0x5be0cd19

/-- The message with its padding: a one bit, zero bits, and the number of bits in 64 bits. -/
def pad (data : Bytes) : Bytes :=
  let bits : Bytes := (List.range 8).map fun i => UInt8.ofNat ((8 * data.length) >>> (56 - 8 * i))
  data ++ [0x80] ++ List.replicate ((119 - data.length % 64) % 64) 0 ++ bits

/-- The number that octets are in big-endian order. -/
def bigEndian (octets : Bytes) : ℕ := octets.foldl (fun n b => 256 * n + b.toNat) 0

/-- `count` words of the schedule, from a window of 16 words that are written as one number. -/
def expand : ℕ → ℕ → List ℕ
  | 0, _ => []
  | count + 1, window =>
    let w₀ := window >>> 480
    let w₁ := word (window >>> 448)
    let w₉ := word (window >>> 192)
    let w₁₄ := word (window >>> 32)
    let s₀ := rotateRight w₁ 7 ^^^ rotateRight w₁ 18 ^^^ w₁ >>> 3
    let s₁ := rotateRight w₁₄ 17 ^^^ rotateRight w₁₄ 19 ^^^ w₁₄ >>> 10
    w₀ :: expand count ((window % 2 ^ 480) <<< 32 + word (w₀ + s₀ + w₉ + s₁))

/-- The 64 words of a block. -/
def schedule (block : Bytes) : List ℕ := expand 64 (bigEndian block)

/-- One round, for a round constant and a word of the schedule. -/
def round : State → ℕ × ℕ → State
  | ⟨a, b, c, d, e, f, g, h⟩, (constant, w) =>
    let s₁ := rotateRight e 6 ^^^ rotateRight e 11 ^^^ rotateRight e 25
    let choice := (e &&& f) ^^^ ((2 ^ 32 - 1 - e) &&& g)
    let t₁ := h + s₁ + choice + constant + w
    let s₀ := rotateRight a 2 ^^^ rotateRight a 13 ^^^ rotateRight a 22
    let majority := (a &&& b) ^^^ (a &&& c) ^^^ (b &&& c)
    ⟨word (t₁ + s₀ + majority), a, b, c, word (d + t₁), e, f, g⟩

/-- The 64 rounds of one block. -/
def compress (s : State) (block : Bytes) : State :=
  let t := (roundConstants.zip (schedule block)).foldl round s
  ⟨word (s.a + t.a), word (s.b + t.b), word (s.c + t.c), word (s.d + t.d), word (s.e + t.e),
    word (s.f + t.f), word (s.g + t.g), word (s.h + t.h)⟩

/-- The first `count` blocks of a padded message. -/
def blocks : ℕ → Bytes → List Bytes
  | 0, _ => []
  | count + 1, data => data.take 64 :: blocks count (data.drop 64)

/-- The character of a hexadecimal digit. -/
def hexDigit (n : ℕ) : ℕ := if n < 10 then 48 + n else 87 + n

/-- The eight hexadecimal digits of a word. -/
def hexWord (n : ℕ) : Str := (List.range 8).map fun i => hexDigit ((n >>> (28 - 4 * i)) % 16)

end Sha256

open Sha256

/-- `hashlib.sha256(data).hexdigest()` -/
def sha256Hex (data : Bytes) : Str :=
  let padded := pad data
  let s := (blocks (padded.length / 64) padded).foldl compress {}
  [s.a, s.b, s.c, s.d, s.e, s.f, s.g, s.h].flatMap hexWord

/-- `[0-9a-f]` -/
def isHexDigit (c : ℕ) : Bool := (48 ≤ c && c ≤ 57) || (97 ≤ c && c ≤ 102)

/-- What a digest looks like: `^[0-9a-f]{64}$`. -/
def IsSha256 (text : Str) : Prop := text.length = 64 ∧ ∀ c ∈ text, isHexDigit c

instance (text : Str) : Decidable (IsSha256 text) := inferInstanceAs (Decidable (_ ∧ _))

theorem isHexDigit_hexDigit {n : ℕ} (h : n < 16) : isHexDigit (hexDigit n) = true := by
  have key : ∀ m : Fin 16, isHexDigit (hexDigit m) = true := by decide
  exact key ⟨n, h⟩

theorem isSha256_sha256Hex (data : Bytes) : IsSha256 (sha256Hex data) := by
  have hword : ∀ n, (hexWord n).length = 8 ∧ ∀ c ∈ hexWord n, isHexDigit c := by
    intro n
    refine ⟨by simp [hexWord], fun c hc => ?_⟩
    obtain ⟨i, -, rfl⟩ := List.mem_map.mp hc
    exact isHexDigit_hexDigit (Nat.mod_lt _ (by decide))
  refine ⟨by simp [sha256Hex, (hword _).1], fun c hc => ?_⟩
  obtain ⟨n, -, hc⟩ := List.mem_flatMap.mp hc
  exact (hword n).2 c hc

example : (sha256Hex (ascii "abcdbcdecdefdefgefghfghighijhijkijkljklmklmnlmnomnopnopq")).take 16 =
    lit "248d6a61d20638b8" := by decide +kernel

end Python
