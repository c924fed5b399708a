import LlmInferenceSystems.CanonicalReading
import LlmInferenceSystems.Python.Base64
import LlmInferenceSystems.Python.Pattern

/-!
# Public-safe evidence

Evidence is searched for private material before it is written: the text itself, and what the
canonical Base64 fields of its JSON documents decode to.

## Main definitions

* `sensitiveEvidencePatterns`: the patterns
* `decodedBase64EvidenceTexts`: the decoded fields
* `requirePublicSafeEvidence`: the check
-/

namespace Stage2

open Python Pattern

/-! ## The patterns -/

/-- `[A-Za-z0-9]` -/
def alnum : ℕ → Bool := isAsciiAlnum

/-- `[a-z]` and `[A-Z]` under `re.IGNORECASE`. -/
def letterI (c : ℕ) : Bool := 97 ≤ foldCase c && foldCase c ≤ 122

/-- `[A-Za-z0-9]` under `re.IGNORECASE`. -/
def alnumI (c : ℕ) : Bool := letterI c || (48 ≤ c && c ≤ 57)

/-- `["']?` -/
def quote : Pattern := optional (.one fun c => c == 34 || c == 39)

/-- `\S+` -/
def word : Pattern := plus (.one fun c => !isSpaceChar c)

/-- `(?:^|[,{])\s*["']?…["']?\s*:\s*["']?\S+` -/
def headerField (name : Pattern) : Pattern :=
  all [anyOf [lineStart, .one fun c => c == 44 || c == 123], spaces, quote, name, quote, spaces,
    text ":", spaces, quote, word]

section

variable [Interpreter]

/-- `_SENSITIVE_EVIDENCE_PATTERNS` -/
def sensitiveEvidencePatterns : List Pattern :=
  let hexI (n : ℕ) : Pattern :=
    times n (.one fun c => Json.isDigit c || (97 ≤ foldCase c && foldCase c ≤ 102))
  [textI "-----begin private key-----",
    all [boundary, anyOf [text "AKIA", text "ASIA"],
      times 16 (.one fun c => Json.isDigit c || (65 ≤ c && c ≤ 90)), boundary],
    all [boundary, text "gh", .one fun c => lit "pousr" |>.contains c, text "_",
      atLeast 30 (.one alnum), boundary],
    all [boundary, text "sk-", atLeast 20 (.one fun c => alnum c || c == 95 || c == 45), boundary],
    all [boundary, text "hf_", atLeast 20 (.one alnum), boundary],
    headerField (all [optional (textI "proxy-"), textI "authorization"]),
    headerField (anyOf [textI "cookie", textI "set-cookie"]),
    all [anyOf [lineStart, .one fun c => c == 34 || c == 39],
      anyOf [textI "aws_secret_access_key", textI "api_key", textI "client_secret",
        textI "access_token", textI "refresh_token", textI "proxy_password", textI "hf_token",
        textI "hugging_face_hub_token", textI "huggingface_hub_token",
        textI "huggingfacehub_api_token"],
      quote, spaces, anyOf [text "=", text ":"], spaces, quote, word],
    all [boundary, textI "http", optional (textI "s"), text "://",
      plus (.one fun c => !isSpaceChar c && c != 47 && c != 58 && c != 64), text ":",
      plus (.one fun c => !isSpaceChar c && c != 47 && c != 64), text "@",
      plus (.one fun c => !isSpaceChar c && c != 47)],
    all [.look fun before _ => !before.any fun c => alnumI c || c == 46 || c == 95 || c == 45,
      text "/", anyOf [textI "users", textI "home"], text "/",
      plus (.one fun c => alnumI c || c == 46 || c == 95 || c == 45)],
    all [optional (anyOf [text "~",
        all [text "/", plus (.one fun c => !isSpaceChar c && c != 34 && c != 39)]]),
      textI "/.cache/", anyOf [textI "huggingface", textI "torch", textI "vllm"],
      anyOf [text "/", boundary]],
    all [boundary, textI "gpu-", hexI 8, text "-", hexI 4, text "-", hexI 4, text "-", hexI 4,
      text "-", hexI 12, boundary],
    all [boundary, plus (all [plus (.one fun c => alnumI c || c == 45), text "."]),
      times 2 (.one letterI), upTo 61 (.one letterI), boundary],
    all [boundary, anyOf [textI "account", textI "notebook"],
      optional (.one fun c => c == 95 || c == 45), textI "id", spaces, anyOf [text "=", text ":"],
      spaces, quote, word],
    all [textI "orgname", upTo 80 (.one fun c => c != 10),
      anyOf [textI "claim", textI "ledger", all [textI "control",
        optional (.one fun c => c == 45 || c == 95 || c == 32), textI "plane"]]],
    anyOf [textI "medical-record", textI "family-record", textI "finance-record",
      textI "loan-application", textI "notes_private", textI "identity-doc"]]

end

/-! ## Decoded fields -/

/-- `text.splitlines()`, after the characters of the line so far. -/
def splitlinesFrom : Str → Str → List Str
  | [], [] => []
  | line, [] => [line]
  | line, 13 :: 10 :: rest => line :: splitlinesFrom [] rest
  | line, c :: rest =>
    if (10 ≤ c ∧ c ≤ 13) ∨ (28 ≤ c ∧ c ≤ 30) ∨ c = 0x85 ∨ c = 0x2028 ∨ c = 0x2029 then
      line :: splitlinesFrom [] rest
    else splitlinesFrom (line ++ [c]) rest

/-- `text.splitlines()` -/
def splitlines (text : Str) : List Str := splitlinesFrom [] text

/-- How many octets of an undecodable start `errors="replace"` takes for one character: the longest
start of a code point, at least one. -/
def undecodable : Bytes → ℕ
  | [] => 0
  | a :: rest =>
    -- the octets that may follow the first one
    let second : ℕ × ℕ :=
      if a.toNat = 0xE0 then (0xA0, 0xBF) else if a.toNat = 0xED then (0x80, 0x9F)
      else if a.toNat = 0xF0 then (0x90, 0xBF) else if a.toNat = 0xF4 then (0x80, 0x8F)
      else (0x80, 0xBF)
    if 0xE0 ≤ a.toNat ∧ a.toNat < 0xF5 then
      match rest with
      | b :: rest =>
        if second.1 ≤ b.toNat ∧ b.toNat ≤ second.2 then
          if a.toNat < 0xF0 then 2
          else
            match rest with
            | c :: _ => if (utf8Tail c).isSome then 3 else 2
            | [] => 2
        else 1
      | [] => 1
    else 1

/-- At most `fuel` characters of a decoding with replacement. -/
def utf8ReplaceN : ℕ → Bytes → Str
  | 0, _ => []
  | fuel + 1, bytes =>
    match bytes with
    | [] => []
    | _ :: _ =>
      match utf8Head bytes with
      | some (c, rest) => c :: utf8ReplaceN fuel rest
      | none => 0xFFFD :: utf8ReplaceN fuel (bytes.drop (undecodable bytes))

/-- `bytes.decode("utf-8", errors="replace")` -/
def utf8Replace (bytes : Bytes) : Str := utf8ReplaceN bytes.length bytes

/-- What `visit` appends for one field. -/
def decodedField (key : Str) (child : Json) : List Str :=
  match child with
  | .str text =>
    if (lit "_base64").isSuffixOf key then
      match b64decodeCanonical text with
      | some raw => [utf8Replace raw]
      | none => []
    else []
  | _ => []

/-- `visit`; `fuel` is how many calls may still be opened. -/
def visit : ℕ → Json → Except PyError (List Str)
  | 0, _ => .error .recursion
  | fuel + 1, item =>
    match item with
    | .obj fields =>
      (collect (fun f => (visit fuel f.2).map (decodedField f.1 f.2 ++ ·)) fields).map List.flatten
    | .arr items => (collect (visit fuel) items).map List.flatten
    | _ => .ok []

section

variable [Interpreter]

/-- `json.loads(text)`; `none` is `JSONDecodeError`. -/
def parseJsonLine (line : Str) : Except PyError (Option Json) :=
  match @Json.loads Empty (fun pairs => .ok (Json.dictOf pairs)) Interpreter.jsonDepth line with
  | .ok value => .ok (some value)
  | .error .decode => .ok none
  | .error .digits =>
    .error (.value "Exceeds the limit (4300 digits) for integer string conversion")
  | .error .recursion => .error .recursion

/-- `decoded_base64_evidence_texts` -/
def decodedBase64EvidenceTexts (text : Str) : Except PyError (List Str) := do
  let documents ← match ← parseJsonLine text with
    | some document => pure [document]
    | none =>
      let lines := (splitlines text).filter fun line => !line.all isSpaceChar
      (collect parseJsonLine lines).map (·.filterMap id)
  (collect (visit Interpreter.callDepth) documents).map List.flatten

/-- `_require_public_safe_evidence` -/
def requirePublicSafeEvidence (text : Str) : Except PyError Unit := do
  let decoded ← decodedBase64EvidenceTexts text
  if (text :: decoded).any fun scanned => sensitiveEvidencePatterns.any (·.occurs scanned) then
    .error (.stage2Bundle "durable Stage 2 evidence contains prohibited private material")
  else .ok ()

end

end Stage2
