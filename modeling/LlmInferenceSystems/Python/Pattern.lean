import LlmInferenceSystems.Python.Interpreter

/-!
# Patterns that only need to occur

Where a program only asks whether a pattern occurs in a text, the order of the matches does not
matter. These patterns have repetition of any pattern, alternatives and conditions on the
characters around a position; what they match is the list of places where a match may end.

## Main definitions

* `Pattern`, `Pattern.ends`: patterns, and where their matches at a place end
* `Pattern.occurs`: `pattern.search(text) is not None`
* `foldCase`: a character as `re.IGNORECASE` compares it with an ASCII letter
-/

namespace Python

/-- `str.isspace` of a character, which is also `\s`. -/
def isSpaceChar (c : ℕ) : Bool :=
  (9 ≤ c && c ≤ 13) || (28 ≤ c && c ≤ 32) || c == 0x85 || c == 0xA0 || c == 0x1680 ||
    (0x2000 ≤ c && c ≤ 0x200A) || c == 0x2028 || c == 0x2029 || c == 0x202F || c == 0x205F ||
    c == 0x3000

/-- A character as `re.IGNORECASE` compares it with ASCII. -/
def foldCase (c : ℕ) : ℕ :=
  if 65 ≤ c ∧ c ≤ 90 then c + 32
  else if c = 0x130 ∨ c = 0x131 then 105
  else if c = 0x17F then 115
  else if c = 0x212A then 107
  else c

/-- A regular expression of the kinds the code uses. -/
inductive Pattern where
  | empty
  /-- One character of a class. -/
  | one (cls : ℕ → Bool)
  /-- A condition on the characters before and after the place. -/
  | look (condition : Option ℕ → Option ℕ → Bool)
  | seq (first second : Pattern)
  | alt (left right : Pattern)
  /-- Any number of times. -/
  | star (body : Pattern)

namespace Pattern

/-- A place in a text: the character before it and the text after it. -/
abbrev Place := Option ℕ × Str

/-- The places that any number of steps lead to. A step that does not move is not taken. -/
def closure (step : Place → List Place) : ℕ → Place → List Place
  | 0, place => [place]
  | fuel + 1, place =>
    place :: (step place).flatMap fun next =>
      if next.2.length < place.2.length then closure step fuel next else []

/-- Where the matches at a place end. -/
def ends : Pattern → Place → List Place
  | .empty, place => [place]
  | .one cls, (_, rest) =>
    match rest with
    | [] => []
    | c :: rest => if cls c then [(some c, rest)] else []
  | .look condition, (before, rest) =>
    if condition before rest.head? then [(before, rest)] else []
  | .seq first second, place => (ends first place).flatMap (ends second)
  | .alt left right, place => ends left place ++ ends right place
  | .star body, place => closure (ends body) place.2.length place

/-- Is there a match at or after a place? -/
def occursFrom (p : Pattern) : Option ℕ → Str → Bool
  | before, [] => !(p.ends (before, [])).isEmpty
  | before, c :: rest => !(p.ends (before, c :: rest)).isEmpty || occursFrom p (some c) rest

/-- `pattern.search(text) is not None` -/
def occurs (p : Pattern) (text : Str) : Bool := p.occursFrom none text

/-! ## Writing patterns -/

/-- One after another. -/
def all : List Pattern → Pattern
  | [] => .empty
  | p :: ps => .seq p (all ps)

/-- `(?:…|…)` -/
def anyOf : List Pattern → Pattern
  | [] => .look fun _ _ => false
  | [p] => p
  | p :: ps => .alt p (anyOf ps)

/-- `(?:…)?` -/
def optional (p : Pattern) : Pattern := .alt p .empty

/-- `(?:…)+` -/
def plus (p : Pattern) : Pattern := .seq p (.star p)

/-- `(?:…){n}` -/
def times (n : ℕ) (p : Pattern) : Pattern := all (List.replicate n p)

/-- `(?:…){n,}` -/
def atLeast (n : ℕ) (p : Pattern) : Pattern := .seq (times n p) (.star p)

/-- `(?:…){0,n}` -/
def upTo : ℕ → Pattern → Pattern
  | 0, _ => .empty
  | n + 1, p => optional (.seq p (upTo n p))

/-- A literal text. -/
def text (s : String) : Pattern := all ((lit s).map fun c => .one (· == c))

/-- A literal text in small letters under `re.IGNORECASE`. -/
def textI (s : String) : Pattern := all ((lit s).map fun c => .one (foldCase · == c))

/-- `\s*` -/
def spaces : Pattern := .star (.one isSpaceChar)

/-- `^` under `re.MULTILINE` -/
def lineStart : Pattern := .look fun before _ => before == none || before == some 10

section

variable [Interpreter]

/-- `\b` -/
def boundary : Pattern := .look fun before after => before.any isWord != after.any isWord

end

end Pattern

end Python
