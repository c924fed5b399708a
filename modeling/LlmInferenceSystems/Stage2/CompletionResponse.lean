import LlmInferenceSystems.Python.Checks
import LlmInferenceSystems.Python.Interpreter
import LlmInferenceSystems.Python.Json

/-!
# Reading completion responses

The data of a frame is JSON without duplicate keys. `_object`, `_array` and `_token_ids` check the
shape of a value and name the field in their error; the usage and the metrics of the usage terminal
are validated as contracts that take no other field.

## Main definitions

* `jsonWithoutDuplicateKeys`: the decoding of a frame's data
* `object`, `array`, `tokenIds`, `metrics`: the readers
* `Usage`, `PerRequestMetrics`: the contracts
-/

namespace Stage2

open Python

/-- `mapping.get(key)`: an absent key is `None`, as is `null`. -/
def get (fields : List (Str × Json)) (key : String) : Json := (Json.field fields key).getD .null

/-- `pairs_hook` -/
def pairsHook (pairs : List (Str × Json)) : Except PyError (List (Str × Json)) :=
  if (pairs.map (·.1)).Nodup then .ok pairs
  else .error (.stage2Protocol "completion response JSON contains a duplicate field")

/-- `_object` -/
def object (value : Json) (field : String) : Except PyError (List (Str × Json)) :=
  match value with
  | .obj fields => .ok fields
  | _ => .error (.stage2Protocol (field ++ " must be an object"))

/-- `_array` -/
def array (value : Json) (field : String) : Except PyError (List Json) :=
  match value with
  | .arr items => .ok items
  | _ => .error (.stage2Protocol (field ++ " must be an array"))

/-- A token id: an integer that is not a `bool` and not negative. -/
def tokenId : Json → Option ℕ
  | .int n => if n < 0 then none else some n.toNat
  | _ => none

/-- `_token_ids` -/
def tokenIds (value : Json) (field : String) : Except PyError (List ℕ) :=
  match array value field with
  | .error e => .error e
  | .ok values =>
    match values.mapM tokenId with
    | none => .error (.stage2Protocol (field ++ " must contain nonnegative integer token IDs"))
    | some ids => .ok ids

/-- The `usage` of a response. -/
structure Usage where
  promptTokens : ℕ
  completionTokens : ℕ
  totalTokens : ℕ
deriving DecidableEq

/-- The `metrics` of a response. -/
structure PerRequestMetrics where
  timeToFirstTokenMs : Option ℚ
  generationTimeMs : Option ℚ
  queueTimeMs : Option ℚ
  meanItlMs : Option ℚ
  tokensPerSecond : Option ℚ
deriving DecidableEq

/-- A nonnegative finite number or null, as the contract takes it. -/
def metricValue : Json → Option (Option ℚ)
  | .null => some none
  | .int n =>
    match PyFloat.ofInt n with
    | some (.finite q) => if q < 0 then none else some (some q)
    | _ => none
  | .float (.finite q) => if q < 0 then none else some (some q)
  | _ => none

/-- What `_metrics` itself rejects of a value. -/
def metricFails : Json → Except PyError Bool
  | .null => .ok false
  | .int n =>
    match PyFloat.ofInt n with
    | none => .error .overflow
    | some x => .ok x.isNegative
  | .float x => .ok (!x.isFinite || x.isNegative)
  | _ => .ok true

/-- The names of the metrics, in the source's order. -/
def metricNames : List String :=
  ["time_to_first_token_ms", "generation_time_ms", "queue_time_ms", "mean_itl_ms",
    "tokens_per_second"]

/-- `Stage2PerRequestMetrics.model_validate(raw)`; `none` is `ValidationError`. -/
def PerRequestMetrics.ofFields (raw : List (Str × Json)) : Option PerRequestMetrics := do
  let metric (name : String) : Option (Option ℚ) := (Json.field raw name).bind metricValue
  guard (∀ f ∈ raw, f.1 ∈ metricNames.map lit)
  return { timeToFirstTokenMs := ← metric "time_to_first_token_ms"
           generationTimeMs := ← metric "generation_time_ms"
           queueTimeMs := ← metric "queue_time_ms"
           meanItlMs := ← metric "mean_itl_ms"
           tokensPerSecond := ← metric "tokens_per_second" }

/-- `_metrics` -/
def metrics (value : Json) : Except PyError PerRequestMetrics :=
  match object value "metrics" with
  | .error e => .error e
  | .ok raw =>
    match anyOf (raw.map fun f => metricFails f.2) with
    | .error e => .error e
    | .ok true =>
      .error (.stage2Protocol "per-request metrics must be finite nonnegative numbers or null")
    | .ok false =>
      match PerRequestMetrics.ofFields raw with
      | none =>
        .error (.stage2Protocol "per-request metrics require the exact five-field shape")
      | some m => .ok m

section

variable [Interpreter]

/-- `_json_without_duplicate_keys` -/
def jsonWithoutDuplicateKeys (data : Str) : Except PyError Json :=
  match Json.loads pairsHook Interpreter.jsonDepth data with
  | .ok value => .ok value
  | .error .decode => .error (.stage2Protocol "malformed SSE JSON")
  | .error .digits =>
    .error (.value "Exceeds the limit (4300 digits) for integer string conversion")
  | .error .recursion => .error .recursion
  | .error (.hook e) => .error e

/-- The value matches `Literal[n]`. -/
def isLiteral (n : ℕ) : Json → Bool
  | .int m => m == n
  | .float x => Interpreter.literalFloats && x == .finite n
  | _ => false

/-- `Stage2Usage.model_validate(usage)`; `none` is `ValidationError`. -/
def Usage.ofFields (usage : List (Str × Json)) : Option Usage :=
  let literal (name : String) (n : ℕ) : Bool := (Json.field usage name).any (isLiteral n)
  if (∀ f ∈ usage, f.1 ∈ ["prompt_tokens", "completion_tokens", "total_tokens"].map lit) ∧
      literal "prompt_tokens" 64 ∧ literal "completion_tokens" 32 ∧ literal "total_tokens" 96 then
    some ⟨64, 32, 96⟩
  else none

end

end Stage2
