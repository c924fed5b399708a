import LlmInferenceSystems.Errors
import LlmInferenceSystems.Python.Interpreter
import LlmInferenceSystems.Python.Json
import LlmInferenceSystems.Sse.Parser
import LlmInferenceSystems.Stage1.FixtureTokens

/-!
# Payloads

What a frame of the fixture's stream holds: one choice with a text of output markers.

## Main definitions

* `RequestError`: the exceptions a request tells apart
* `payloadText`: the text of a data frame
* `tokenCount`: how many tokens a data frame delivers
-/

namespace Stage1

open Python Sse

/-- What is raised while a request is executed, as its `except` clauses tell it apart. -/
inductive RequestError where
  /-- `httpx.TimeoutException` -/
  | timeout
  | sseProtocol (error : SSEProtocolError)
  | fixtureToken (error : FixtureTokenError)
  /-- `httpx.TransportError` that is no timeout -/
  | transport
  /-- `asyncio.CancelledError` -/
  | cancelled
  | other (error : PyError)

/-- The items of a dictionary of some pairs: a key keeps its first place and its last value. -/
def dictOf (pairs : List (Str × Json)) : List (Str × Json) :=
  pairs.foldl (fun items pair =>
    if items.any (·.1 == pair.1) then items.map fun item => if item.1 = pair.1 then pair else item
    else items ++ [pair]) []

variable [Interpreter]

/-- `json.loads` -/
def jsonLoads (text : Str) : Except (LoadError Empty) Json :=
  Json.loads (fun pairs => .ok (dictOf pairs)) Interpreter.jsonDepth text

/-- What `json.loads` raises that is no `JSONDecodeError`. -/
def loadError : LoadError Empty → PyError
  | .digits => .value "Exceeds the limit (4300 digits) for integer string conversion"
  | .decode | .recursion | .hook _ => .recursion

/-- `_payload_text` -/
def payloadText (frame : SSEFrame) : Except RequestError Str :=
  match frame.kind, frame.data with
  | .data, some data =>
    match jsonLoads data with
    | .error .decode => .error (.sseProtocol ⟨"fixture SSE data is malformed JSON"⟩)
    | .error error => .error (.other (loadError error))
    | .ok value =>
      match value with
      | .obj [(key, choices)] =>
        if key ≠ lit "choices" then
          .error (.sseProtocol ⟨"fixture SSE payload must contain only choices"⟩)
        else
          match choices with
          | .arr [choice] =>
            match choice with
            | .obj [(key, text)] =>
              if key ≠ lit "text" then
                .error (.sseProtocol ⟨"fixture SSE choice must contain only text"⟩)
              else
                match text with
                | .str text => .ok text
                | _ => .error (.sseProtocol ⟨"fixture SSE choice text must be a string"⟩)
            | _ => .error (.sseProtocol ⟨"fixture SSE choice must contain only text"⟩)
          | _ => .error (.sseProtocol ⟨"fixture SSE choices must contain exactly one item"⟩)
      | _ => .error (.sseProtocol ⟨"fixture SSE payload must contain only choices"⟩)
  | _, _ => .error (.sseProtocol ⟨"expected a data-bearing fixture event"⟩)

/-- `len(parse_output_tokens(_payload_text(frame)))` -/
def tokenCount (frame : SSEFrame) : Except RequestError ℕ :=
  match payloadText frame with
  | .error error => .error error
  | .ok text =>
    match parseOutputTokens text with
    | .error error => .error (.fixtureToken error)
    | .ok tokens => .ok tokens.length

/-- A data frame that is accepted delivers a token. -/
theorem tokenCount_pos {frame : SSEFrame} {n : ℕ} (h : tokenCount frame = .ok n) : 0 < n := by
  unfold tokenCount at h
  split at h
  · cases h
  · split at h
    · cases h
    · next tokens htokens =>
      obtain rfl := Except.ok.inj h
      exact List.length_pos_of_ne_nil (parseTokens_ne_nil htokens)

end Stage1
