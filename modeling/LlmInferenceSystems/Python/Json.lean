import LlmInferenceSystems.Python.Float
import LlmInferenceSystems.Python.Text

/-!
# JSON

`json.loads` of a `str`, as CPython's scanner reads it: `NaN`, `Infinity` and `-Infinity` are
numbers, a `\u` escape may leave a lone surrogate, an integer may have at most 4300 digits, and
nesting is bounded by the interpreter. The hook sees the pairs of every object when the object
ends, inner objects first.

## Main definitions

* `Json`: the values
* `loads`: the parser, over the hook and the nesting bound
-/

namespace Python

/-- A JSON value as Python holds it. The fields of an object are in order of appearance. -/
inductive Json where
  | null
  | bool (value : Bool)
  | int (value : ℤ)
  | float (value : PyFloat)
  | str (value : Str)
  | arr (items : List Json)
  | obj (fields : List (Str × Json))

namespace Json

mutual

/-- Induction over a value: its items and the values of its fields come first. -/
@[elab_as_elim]
theorem induct {P : Json → Prop} (null : P .null) (bool : ∀ b, P (.bool b))
    (int : ∀ n, P (.int n)) (float : ∀ x, P (.float x)) (str : ∀ text, P (.str text))
    (arr : ∀ items, (∀ item ∈ items, P item) → P (.arr items))
    (obj : ∀ fields : List (Str × Json), (∀ f ∈ fields, P f.2) → P (.obj fields))
    (value : Json) : P value :=
  match value with
  | .null => null
  | .bool b => bool b
  | .int n => int n
  | .float x => float x
  | .str text => str text
  | .arr items => arr items (inductItems null bool int float str arr obj items)
  | .obj fields => obj fields (inductFields null bool int float str arr obj fields)

theorem inductItems {P : Json → Prop} (null : P .null) (bool : ∀ b, P (.bool b))
    (int : ∀ n, P (.int n)) (float : ∀ x, P (.float x)) (str : ∀ text, P (.str text))
    (arr : ∀ items, (∀ item ∈ items, P item) → P (.arr items))
    (obj : ∀ fields : List (Str × Json), (∀ f ∈ fields, P f.2) → P (.obj fields))
    (items : List Json) : ∀ item ∈ items, P item :=
  match items with
  | [] => by simp
  | item :: items => List.forall_mem_cons.mpr
      ⟨induct null bool int float str arr obj item,
        inductItems null bool int float str arr obj items⟩

theorem inductFields {P : Json → Prop} (null : P .null) (bool : ∀ b, P (.bool b))
    (int : ∀ n, P (.int n)) (float : ∀ x, P (.float x)) (str : ∀ text, P (.str text))
    (arr : ∀ items, (∀ item ∈ items, P item) → P (.arr items))
    (obj : ∀ fields : List (Str × Json), (∀ f ∈ fields, P f.2) → P (.obj fields))
    (fields : List (Str × Json)) : ∀ f ∈ fields, P f.2 :=
  match fields with
  | [] => by simp
  | (_, value) :: fields => List.forall_mem_cons.mpr
      ⟨induct null bool int float str arr obj value,
        inductFields null bool int float str arr obj fields⟩

end

/-- `mapping.get(key)`, where an absent key is `none`. -/
def field (fields : List (Str × Json)) (key : String) : Option Json := fields.lookup (lit key)

/-- `value == 0`: so are `False` and `0.0`. -/
def isZero : Json → Bool
  | int n => n == 0
  | bool b => !b
  | float x => x == .finite 0
  | _ => false

/-- `value is None` -/
def isNull : Json → Bool
  | null => true
  | _ => false

end Json

/-- What `json.loads` raises. -/
inductive LoadError (ε : Type) where
  /-- `JSONDecodeError` -/
  | decode
  /-- `ValueError`: too many digits -/
  | digits
  /-- `RecursionError` -/
  | recursion
  /-- the hook's own exception -/
  | hook (error : ε)
deriving DecidableEq

namespace Json

variable {ε : Type}

/-- The white space of JSON text. -/
def isSpace (c : ℕ) : Bool := c == 32 || c == 9 || c == 10 || c == 13

/-- What is left of a text after its leading white space. -/
def skipSpace (text : Str) : Str := text.dropWhile isSpace

/-- A decimal digit. -/
def isDigit (c : ℕ) : Bool := 48 ≤ c && c ≤ 57

/-- The value of a run of decimal digits. -/
def digitsValue (digits : Str) : ℕ := digits.foldl (fun n c => 10 * n + (c - 48)) 0

/-- The value of a hexadecimal digit, of either case. -/
def hexValue (c : ℕ) : Option ℕ :=
  if 48 ≤ c ∧ c ≤ 57 then some (c - 48)
  else if 97 ≤ c ∧ c ≤ 102 then some (c - 87)
  else if 65 ≤ c ∧ c ≤ 70 then some (c - 55)
  else none

/-- Four hexadecimal digits and the text after them. -/
def hex4 : Str → Option (ℕ × Str)
  | a :: b :: c :: d :: rest =>
    match hexValue a, hexValue b, hexValue c, hexValue d with
    | some a, some b, some c, some d => some (((a * 16 + b) * 16 + c) * 16 + d, rest)
    | _, _, _, _ => none
  | _ => none

/-- The character a one-letter escape stands for. -/
def escape (c : ℕ) : Option ℕ :=
  match c with
  | 34 => some 34
  | 92 => some 92
  | 47 => some 47
  | 98 => some 8
  | 102 => some 12
  | 110 => some 10
  | 114 => some 13
  | 116 => some 9
  | _ => none

/-- A `\u` escape, after its `u`. A high surrogate joins the low one escaped next to it. -/
def unicodeEscape (text : Str) : Option (ℕ × Str) :=
  match hex4 text with
  | none => none
  | some (high, rest) =>
    if 0xD800 ≤ high ∧ high ≤ 0xDBFF then
      match rest with
      | 92 :: 117 :: rest' =>
        match hex4 rest' with
        | some (low, after) =>
          if 0xDC00 ≤ low ∧ low ≤ 0xDFFF then
            some (0x10000 + (high - 0xD800) * 1024 + (low - 0xDC00), after)
          else some (high, rest)
        | none => some (high, rest)
      | _ => some (high, rest)
    else some (high, rest)

/-- The contents of a string up to its closing quote, and the text after the quote. -/
def scanString : ℕ → Str → Option (Str × Str)
  | 0, _ => none
  | _ + 1, [] => none
  | fuel + 1, c :: rest =>
    if c = 34 then some ([], rest)
    else if c = 92 then
      match rest with
      | [] => none
      | d :: rest =>
        match if d = 117 then unicodeEscape rest else (escape d).map (·, rest) with
        | some (e, rest) => (scanString fuel rest).map fun p => (e :: p.1, p.2)
        | none => none
    else if c < 32 then none
    else (scanString fuel rest).map fun p => (c :: p.1, p.2)

/-- The fraction digits after a full stop, when there is at least one. -/
def scanFraction : Str → Str × Str
  | 46 :: rest =>
    if (rest.takeWhile isDigit).isEmpty then ([], 46 :: rest)
    else (rest.takeWhile isDigit, rest.dropWhile isDigit)
  | text => ([], text)

/-- The exponent after an `e`, when it has a digit. -/
def scanExponent (text : Str) : Option (ℤ × Str) :=
  match text with
  | c :: rest =>
    if c = 101 ∨ c = 69 then
      let signed := match rest with
        | 45 :: r => (true, r)
        | 43 :: r => (false, r)
        | r => (false, r)
      let digits := signed.2.takeWhile isDigit
      if digits.isEmpty then none
      else
        let n : ℤ := digitsValue digits
        some (if signed.1 then -n else n, signed.2.dropWhile isDigit)
    else none
  | [] => none

/-- A number without its sign. -/
def scanMagnitude (negative : Bool) (text : Str) : Except (LoadError ε) (Json × Str) :=
  let whole := match text with
    | 48 :: rest => ([48], rest)
    | _ => (text.takeWhile isDigit, text.dropWhile isDigit)
  if whole.1.isEmpty then .error .decode
  else
    let fraction := scanFraction whole.2
    let exponent := scanExponent fraction.2
    let mantissa : ℤ := digitsValue (whole.1 ++ fraction.1)
    let signed := if negative then -mantissa else mantissa
    match exponent with
    | some (e, rest) =>
      .ok (.float (PyFloat.ofDecimal signed (e - fraction.1.length)), rest)
    | none =>
      if fraction.1.isEmpty then
        if 4300 < whole.1.length then .error .digits else .ok (.int signed, fraction.2)
      else .ok (.float (PyFloat.ofDecimal signed (-fraction.1.length)), fraction.2)

/-- The values written as a word. -/
def words : List (Str × Json) :=
  [(lit "null", .null), (lit "true", .bool true), (lit "false", .bool false),
    (lit "NaN", .float .nan), (lit "Infinity", .float (.inf false)),
    (lit "-Infinity", .float (.inf true))]

/-- A word or a number. -/
def scanAtom (text : Str) : Except (LoadError ε) (Json × Str) :=
  match words.find? (·.1.isPrefixOf text) with
  | some (word, value) => .ok (value, text.drop word.length)
  | none =>
    match text with
    | 45 :: rest => scanMagnitude true rest
    | _ => scanMagnitude false text

variable (hook : List (Str × Json) → Except ε (List (Str × Json)))

mutual

/-- A value at the start of the text, and the text after it. `depth` is how many containers may
still be opened; `fuel` bounds the calls. -/
def scanValue : ℕ → ℕ → Str → Except (LoadError ε) (Json × Str)
  | 0, _, _ => .error .decode
  | fuel + 1, depth, text =>
    match text with
    | 34 :: rest =>
      match scanString (rest.length + 1) rest with
      | some (s, rest) => .ok (.str s, rest)
      | none => .error .decode
    | 123 :: rest =>
      match depth with
      | 0 => .error .recursion
      | depth + 1 =>
        match skipSpace rest with
        | 125 :: rest =>
          match hook [] with
          | .ok fields => .ok (.obj fields, rest)
          | .error e => .error (.hook e)
        | rest =>
          match scanFields fuel depth rest with
          | .error e => .error e
          | .ok (pairs, rest) =>
            match hook pairs with
            | .ok fields => .ok (.obj fields, rest)
            | .error e => .error (.hook e)
    | 91 :: rest =>
      match depth with
      | 0 => .error .recursion
      | depth + 1 =>
        match skipSpace rest with
        | 93 :: rest => .ok (.arr [], rest)
        | rest =>
          match scanItems fuel depth rest with
          | .error e => .error e
          | .ok (items, rest) => .ok (.arr items, rest)
    | text => scanAtom text

/-- The items of an array from the first one on, and the text after its bracket. -/
def scanItems : ℕ → ℕ → Str → Except (LoadError ε) (List Json × Str)
  | 0, _, _ => .error .decode
  | fuel + 1, depth, text =>
    match scanValue fuel depth text with
    | .error e => .error e
    | .ok (item, rest) =>
      match skipSpace rest with
      | 93 :: rest => .ok ([item], rest)
      | 44 :: rest =>
        match scanItems fuel depth (skipSpace rest) with
        | .error e => .error e
        | .ok (items, rest) => .ok (item :: items, rest)
      | _ => .error .decode

/-- The pairs of an object from the first one on, and the text after its brace. -/
def scanFields : ℕ → ℕ → Str → Except (LoadError ε) (List (Str × Json) × Str)
  | 0, _, _ => .error .decode
  | fuel + 1, depth, text =>
    match text with
    | 34 :: rest =>
      match scanString (rest.length + 1) rest with
      | none => .error .decode
      | some (key, rest) =>
        match skipSpace rest with
        | 58 :: rest =>
          match scanValue fuel depth (skipSpace rest) with
          | .error e => .error e
          | .ok (value, rest) =>
            match skipSpace rest with
            | 125 :: rest => .ok ([(key, value)], rest)
            | 44 :: rest =>
              match scanFields fuel depth (skipSpace rest) with
              | .error e => .error e
              | .ok (pairs, rest) => .ok ((key, value) :: pairs, rest)
            | _ => .error .decode
        | _ => .error .decode
    | _ => .error .decode

end

/-- `json.loads(text, object_pairs_hook=hook)`. A value takes at most two calls for each of its
characters. -/
def loads (depth : ℕ) (text : Str) : Except (LoadError ε) Json :=
  match scanValue hook (2 * text.length + 2) depth (skipSpace text) with
  | .error e => .error e
  | .ok (value, rest) => if skipSpace rest = [] then .ok value else .error .decode

end Json

end Python
