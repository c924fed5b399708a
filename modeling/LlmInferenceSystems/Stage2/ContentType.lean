import Mathlib.Data.List.DropRight
import LlmInferenceSystems.Errors
import LlmInferenceSystems.Python.Checks
import LlmInferenceSystems.Python.FloatText
import LlmInferenceSystems.Python.Interpreter
import LlmInferenceSystems.Python.Regex

/-!
# Content types

The value of a `Content-Type` header is split at the semicolons outside quoted strings, in one pass
that follows quotes and backslashes. Each parameter is then read by itself, and a quoted value is
scanned a second time. The two scans have to agree on where a quoted string ends.

## Main definitions

* `parseContentType`: the media type in lower case, and the parameters
* `Spells`: the grammar of the header, and what a text of it denotes
* `scan`: where the splitter stands after a text

## Main results

* `splitParts_eq_ok`: the parts are what stands between the splitting semicolons
* `parseContentType_eq_ok`: an ASCII text is read exactly as the grammar says
* `parseContentType_grammar`: the same, and what is read is read again from its own text
-/

namespace Stage2.ContentType

open Python

/-- `str.casefold`, which lowers the ASCII letters and leaves the other ASCII characters. -/
class Casefold where
  casefold : Str → Str
  casefold_ascii : ∀ text : Str, (∀ c ∈ text, c < 128) → casefold text = text.map lowerAscii

/-- Only the ASCII letters. -/
@[reducible] def asciiCasefold : Casefold := ⟨fun text => text.map lowerAscii, fun _ _ => rfl⟩

/-- A space or a tab. -/
def isBlank (c : ℕ) : Bool := c == 32 || c == 9

/-- `text.strip(" \t")` -/
def stripBlanks (text : Str) : Str := (text.dropWhile isBlank).rdropWhile isBlank

/-- `(codepoint < 0x20 and character != "\t") or codepoint == 0x7F` -/
def isProhibited (c : ℕ) : Bool := (c < 32 && c != 9) || c == 127

/-- A character of ``[!#$%&'*+.^_`|~0-9A-Za-z-]``. -/
def isTokenChar (c : ℕ) : Bool := isAsciiAlnum c || (lit "!#$%&'*+.^_`|~-").contains c

/-- `_TOKEN_RE` -/
def tokenRe : Regex ℕ := .rep isTokenChar 1 none

/-- `_MEDIA_TYPE_RE` -/
def mediaTypeRe : Regex ℕ := .seq tokenRe (.seq (.literal [47]) tokenRe)

/-! ## The parser -/

/-- The one pass over the text: `value[start:index]` is what was collected since the last split. -/
def splitParts (quoted escaped : Bool) (collected : Str) : Str → Except PyError (List Str)
  | [] =>
    if quoted ∨ escaped then .error (.value "HTTP Content-Type quoted parameter is malformed")
    else .ok [stripBlanks collected]
  | c :: rest =>
    if isProhibited c then
      .error (.value "HTTP Content-Type contains a prohibited control character")
    else if escaped then splitParts quoted false (collected ++ [c]) rest
    else if quoted ∧ c = 92 then splitParts quoted true (collected ++ [c]) rest
    else if c = 34 then splitParts (!quoted) escaped (collected ++ [c]) rest
    else if c = 59 ∧ ¬ quoted then do
      return stripBlanks collected :: (← splitParts quoted escaped [] rest)
    else splitParts quoted escaped (collected ++ [c]) rest

/-- The second scan, of what stands between the quotes of a value. -/
def innerValid : Str → Bool
  | [] => true
  | [92] => false
  | 92 :: c :: rest => !isProhibited c && innerValid rest
  | c :: rest => c != 34 && !isProhibited c && innerValid rest

/-- `valid_parameter_value`; `value[1:-1]` of one quote is empty. -/
def validValue (value : Str) : Bool :=
  if value.head? = some 34 ∧ value.getLast? = some 34 then innerValid (value.drop 1).dropLast
  else tokenRe.fullmatch isAsciiAlnum value

section

variable [Casefold]

open Casefold

/-- The loop over the parts after the first, with the names that were seen. -/
def parseParameters : List Str → List Str → Except PyError (List (Str × Str))
  | _, [] => .ok []
  | seen, raw :: parts =>
    if raw = [] ∨ 61 ∉ raw then .error (.value "HTTP Content-Type parameter is malformed")
    else
      let name := casefold (stripBlanks (raw.takeWhile (· ≠ 61)))
      let value := stripBlanks ((raw.dropWhile (· ≠ 61)).drop 1)
      if ¬ tokenRe.fullmatch isAsciiAlnum name ∨ ¬ validValue value ∨ name ∈ seen then
        .error (.value "HTTP Content-Type parameter is malformed or ambiguous")
      else do
        return (name, value) :: (← parseParameters (name :: seen) parts)

/-- `parse_content_type` -/
def parseContentType (value : Str) : Except PyError (Str × List (Str × Str)) := do
  let parts ← splitParts false false [] value
  let mediaType := casefold (parts.headD [])
  if ¬ mediaTypeRe.fullmatch isAsciiAlnum mediaType then
    .error (.value "HTTP Content-Type media type is malformed")
  else
    return (mediaType, ← parseParameters [] (parts.drop 1))

end

/-! ## The grammar -/

/-- A token of a header field. -/
def IsToken (text : Str) : Prop := text ≠ [] ∧ ∀ c ∈ text, isTokenChar c = true

/-- A type and a subtype with a slash between them. -/
def IsMediaType (text : Str) : Prop :=
  ∃ kind subtype, IsToken kind ∧ IsToken subtype ∧ text = kind ++ 47 :: subtype

/-- What may stand between the quotes of a quoted string. -/
inductive QuotedBody : Str → Prop
  | nil : QuotedBody []
  | plain {c : ℕ} {body : Str} (hquote : c ≠ 34) (hescape : c ≠ 92) (h : isProhibited c = false)
      (hbody : QuotedBody body) : QuotedBody (c :: body)
  | escaped {c : ℕ} {body : Str} (h : isProhibited c = false) (hbody : QuotedBody body) :
      QuotedBody (92 :: c :: body)

/-- A token or a quoted string. -/
def IsValue (text : Str) : Prop :=
  IsToken text ∨ ∃ body, QuotedBody body ∧ text = 34 :: (body ++ [34])

/-- Nothing but white space. -/
def IsBlanks (text : Str) : Prop := ∀ c ∈ text, isBlank c = true

/-- A media type between blanks, and the media type it denotes. -/
def SpellsMediaType (piece mediaType : Str) : Prop :=
  ∃ before text after, IsBlanks before ∧ IsBlanks after ∧ IsMediaType text ∧
    mediaType = text.map lowerAscii ∧ piece = before ++ (text ++ after)

/-- A name and a value, each between blanks, and the parameter they denote. -/
def SpellsParameter (piece : Str) (parameter : Str × Str) : Prop :=
  ∃ b₁ name b₂ b₃ b₄, (IsBlanks b₁ ∧ IsBlanks b₂ ∧ IsBlanks b₃ ∧ IsBlanks b₄) ∧ IsToken name ∧
    IsValue parameter.2 ∧ parameter.1 = name.map lowerAscii ∧
    piece = b₁ ++ (name ++ b₂) ++ 61 :: (b₃ ++ (parameter.2 ++ b₄))

/-- **The grammar of the header**: a media type and parameters whose names are unique, separated by
semicolons. -/
def Spells (text mediaType : Str) (parameters : List (Str × Str)) : Prop :=
  ∃ first pieces, SpellsMediaType first mediaType ∧
    List.Forall₂ SpellsParameter pieces parameters ∧ (parameters.map (·.1)).Nodup ∧
    text = first ++ pieces.flatMap (59 :: ·)

/-- `type;name=value;…` -/
def render (mediaType : Str) (parameters : List (Str × Str)) : Str :=
  mediaType ++ parameters.flatMap fun p => 59 :: (p.1 ++ 61 :: p.2)


/-! ## Blanks -/

theorem isBlanks_nil : IsBlanks [] := by
  intro c hc
  cases hc

theorem IsBlanks.append {a b : Str} (ha : IsBlanks a) (hb : IsBlanks b) : IsBlanks (a ++ b) := by
  intro c hc
  exact (List.mem_append.mp hc).elim (ha c) (hb c)

/-- What is stripped off is blank. -/
theorem exists_stripBlanks (text : Str) :
    ∃ before after, IsBlanks before ∧ IsBlanks after ∧
      text = before ++ (stripBlanks text ++ after) := by
  refine ⟨text.takeWhile isBlank, (text.dropWhile isBlank).rtakeWhile isBlank, ?_, ?_, ?_⟩
  · exact fun c hc => List.mem_takeWhile_imp hc
  · exact fun c hc => List.mem_rtakeWhile_imp hc
  · rw [stripBlanks, List.rdropWhile_append_rtakeWhile, List.takeWhile_append_dropWhile]

theorem dropWhile_blanks {before core : Str} (hbefore : IsBlanks before)
    (hhead : core.head?.any isBlank = false) : (before ++ core).dropWhile isBlank = core := by
  rw [List.dropWhile_append_of_pos hbefore]
  cases core with
  | nil => rfl
  | cons c rest => exact List.dropWhile_cons_of_neg (by simpa using hhead)

/-- Nothing more is stripped off than the blanks around a text that neither starts nor ends with
one. -/
theorem stripBlanks_of_blanks {before core after : Str} (hbefore : IsBlanks before)
    (hafter : IsBlanks after) (hne : core ≠ []) (hhead : core.head?.any isBlank = false)
    (hlast : core.getLast?.any isBlank = false) :
    stripBlanks (before ++ (core ++ after)) = core := by
  have hfront : (before ++ (core ++ after)).dropWhile isBlank = core ++ after := by
    apply dropWhile_blanks hbefore
    rwa [List.head?_append_of_ne_nil _ hne]
  have hback : (after.reverse ++ core.reverse).dropWhile isBlank = core.reverse := by
    apply dropWhile_blanks fun c hc => hafter c (List.mem_reverse.mp hc)
    rwa [List.head?_reverse]
  rw [stripBlanks, hfront, List.rdropWhile, List.reverse_append, hback, List.reverse_reverse]

/-! ## Tokens -/

theorem isTokenChar_iff {c : ℕ} : isTokenChar c = true ↔
    isAsciiAlnum c = true ∨ c ∈ lit "!#$%&'*+.^_`|~-" := by
  simp [isTokenChar]

/-- A character of a token is none of those that separate or that are left out. -/
theorem IsTokenChar.plain {c : ℕ} (h : isTokenChar c = true) :
    isBlank c = false ∧ isProhibited c = false ∧ c ≠ 34 ∧ c ≠ 47 ∧ c ≠ 59 ∧ c ≠ 61 ∧ c ≠ 92 := by
  simp only [isTokenChar, isAsciiAlnum, lit_eq, Bool.or_eq_true, Bool.and_eq_true, decide_eq_true_eq,
    List.contains_eq_mem] at h
  simp only [isBlank, isProhibited, Bool.or_eq_false_iff, Bool.and_eq_false_iff,
    decide_eq_false_iff_not, beq_eq_false_iff_ne, bne_eq_false_iff_eq]
  simp at h
  omega

/-- Lowering a letter does not change what it may stand in. -/
theorem isTokenChar_lowerAscii (c : ℕ) : isTokenChar (lowerAscii c) = isTokenChar c := by
  unfold lowerAscii
  split
  · next hupper =>
    have hlower : isTokenChar (c + 32) = true := by
      apply isTokenChar_iff.mpr
      left
      simp only [isAsciiAlnum, Bool.or_eq_true, Bool.and_eq_true, decide_eq_true_eq]
      omega
    have hself : isTokenChar c = true := by
      apply isTokenChar_iff.mpr
      left
      simp only [isAsciiAlnum, Bool.or_eq_true, Bool.and_eq_true, decide_eq_true_eq]
      omega
    rw [hlower, hself]
  · rfl

theorem isToken_map_lowerAscii {text : Str} : IsToken (text.map lowerAscii) ↔ IsToken text := by
  rw [IsToken, IsToken, ne_eq, List.map_eq_nil_iff, List.forall_mem_map]
  simp only [isTokenChar_lowerAscii]

theorem lowerAscii_eq_slash {c : ℕ} : lowerAscii c = 47 ↔ c = 47 := by
  unfold lowerAscii
  split <;> omega

theorem isMediaType_map_lowerAscii {text : Str} :
    IsMediaType (text.map lowerAscii) ↔ IsMediaType text := by
  constructor
  · rintro ⟨kind, subtype, hkind, hsubtype, heq⟩
    obtain ⟨kind', rest, rfl, rfl, hrest⟩ := List.map_eq_append_iff.mp heq
    obtain ⟨c, subtype', rfl, hc, rfl⟩ := List.map_eq_cons_iff.mp hrest
    obtain rfl := lowerAscii_eq_slash.mp hc
    exact ⟨kind', subtype', isToken_map_lowerAscii.mp hkind, isToken_map_lowerAscii.mp hsubtype,
      rfl⟩
  · rintro ⟨kind, subtype, hkind, hsubtype, rfl⟩
    exact ⟨_, _, isToken_map_lowerAscii.mpr hkind, isToken_map_lowerAscii.mpr hsubtype, by
      rw [List.map_append, List.map_cons]
      rfl⟩

theorem fullmatch_tokenRe {text : Str} :
    tokenRe.fullmatch isAsciiAlnum text = true ↔ IsToken text := by
  rw [Regex.fullmatch_iff]
  constructor
  · rintro ⟨m, hm, hrest⟩
    obtain ⟨htext, hlength, hclass, -⟩ := Regex.mem_run_atLeast.mp hm
    rw [hrest, List.append_nil] at htext
    obtain rfl := htext
    exact ⟨List.ne_nil_of_length_pos hlength, hclass⟩
  · rintro ⟨hne, hclass⟩
    exact ⟨⟨text, [], []⟩, Regex.mem_run_atLeast.mpr
      ⟨List.append_nil _, List.length_pos_of_ne_nil hne, hclass, rfl⟩, rfl⟩

theorem fullmatch_mediaTypeRe {text : Str} :
    mediaTypeRe.fullmatch isAsciiAlnum text = true ↔ IsMediaType text := by
  rw [Regex.fullmatch_iff]
  constructor
  · rintro ⟨m, hm, hrest⟩
    obtain ⟨kind, hkind, tail, htail, rfl⟩ := Regex.mem_run_seq.mp hm
    obtain ⟨slash, hslash, subtype, hsubtype, rfl⟩ := Regex.mem_run_seq.mp htail
    obtain ⟨hkindText, hkindLength, hkindClass, -⟩ := Regex.mem_run_atLeast.mp hkind
    obtain ⟨htext, hlength, hclass, -⟩ := Regex.mem_run_atLeast.mp hsubtype
    obtain ⟨⟨after, hafter⟩, rfl⟩ := Regex.mem_run_literal.mp hslash
    have hrest : subtype.rest = [] := hrest
    rw [hrest, List.append_nil, ← hafter] at htext
    refine ⟨kind.text, subtype.text, ⟨List.ne_nil_of_length_pos hkindLength, hkindClass⟩,
      ⟨List.ne_nil_of_length_pos hlength, hclass⟩, ?_⟩
    rw [htext, ← hkindText, ← hafter]
    rfl
  · rintro ⟨kind, subtype, ⟨hkind, hkindClass⟩, ⟨hsubtype, hclass⟩, rfl⟩
    refine ⟨⟨kind ++ ([47] ++ subtype), [], []⟩, Regex.mem_run_seq.mpr
      ⟨⟨kind, 47 :: subtype, []⟩, ?_, ⟨[47] ++ subtype, [], []⟩, Regex.mem_run_seq.mpr
        ⟨⟨[47], subtype, []⟩, ?_, ⟨subtype, [], []⟩, ?_, rfl⟩, rfl⟩, rfl⟩
    · exact Regex.mem_run_atLeast.mpr ⟨rfl, List.length_pos_of_ne_nil hkind, hkindClass, rfl⟩
    · exact Regex.mem_run_literal_append [47] subtype _
    · exact Regex.mem_run_atLeast.mpr
        ⟨List.append_nil _, List.length_pos_of_ne_nil hsubtype, hclass, rfl⟩

/-! ## The splitter -/

/-- Where the splitter stands after a text without a splitting semicolon or a prohibited
character. -/
def scan (quoted escaped : Bool) : Str → Option (Bool × Bool)
  | [] => some (quoted, escaped)
  | c :: rest =>
    if isProhibited c then none
    else if escaped then scan quoted false rest
    else if quoted ∧ c = 92 then scan quoted true rest
    else if c = 34 then scan (!quoted) escaped rest
    else if c = 59 ∧ ¬ quoted then none
    else scan quoted escaped rest

/-- A text after which the splitter stands where it began: outside quoted strings. -/
def Balanced (text : Str) : Prop := scan false false text = some (false, false)

theorem splitParts_append {quoted escaped : Bool} {collected first rest : Str} {state : Bool × Bool}
    (h : scan quoted escaped first = some state) :
    splitParts quoted escaped collected (first ++ rest) =
      splitParts state.1 state.2 (collected ++ first) rest := by
  induction first generalizing quoted escaped collected with
  | nil =>
    obtain rfl := Option.some.inj h
    rw [List.nil_append, List.append_nil]
  | cons c first ih =>
    -- a character that is scanned is collected, whichever branch it takes
    have hcollected : collected ++ c :: first = (collected ++ [c]) ++ first := by simp
    rw [scan] at h
    rw [List.cons_append, splitParts, hcollected]
    -- the scan and the splitter make the same checks in the same order
    split at h
    · cases h
    · next hallowed =>
      rw [if_neg hallowed]
      split at h
      · next hescaped => rw [if_pos hescaped, ih h]
      · next hescaped =>
        rw [if_neg hescaped]
        split at h
        · next hescape => rw [if_pos hescape, ih h]
        · next hescape =>
          rw [if_neg hescape]
          split at h
          · next hquote => rw [if_pos hquote, ih h]
          · next hquote =>
            rw [if_neg hquote]
            split at h
            · cases h
            · next hsplits => rw [if_neg hsplits, ih h]

theorem splitParts_semicolon (collected rest : Str) :
    splitParts false false collected (59 :: rest) =
      (do return stripBlanks collected :: (← splitParts false false [] rest)) := rfl

/-- **The parts are what stands between the splitting semicolons.** -/
theorem splitParts_eq_ok {quoted escaped : Bool} {collected text : Str} {parts : List Str} :
    splitParts quoted escaped collected text = .ok parts ↔
      ∃ (first : Str) (pieces : List Str), scan quoted escaped first = some (false, false) ∧
        (∀ piece ∈ pieces, Balanced piece) ∧ text = first ++ pieces.flatMap (59 :: ·) ∧
        parts = stripBlanks (collected ++ first) :: pieces.map stripBlanks := by
  constructor
  · intro h
    induction text generalizing quoted escaped collected parts with
    | nil =>
      rw [splitParts] at h
      split at h
      · cases h
      · next hend =>
        obtain rfl := Except.ok.inj h
        simp only [not_or, Bool.not_eq_true] at hend
        exact ⟨[], [], by rw [scan, hend.1, hend.2], by simp, rfl, by simp⟩
    | cons c rest ih =>
      -- a character that does not split belongs to the first piece
      have collect : ∀ {quoted' escaped' : Bool},
          (∀ first, scan quoted escaped (c :: first) = scan quoted' escaped' first) →
          splitParts quoted' escaped' (collected ++ [c]) rest = .ok parts →
          ∃ (first : Str) (pieces : List Str), scan quoted escaped first = some (false, false) ∧
            (∀ piece ∈ pieces, Balanced piece) ∧ c :: rest = first ++ pieces.flatMap (59 :: ·) ∧
            parts = stripBlanks (collected ++ first) :: pieces.map stripBlanks := by
        intro quoted' escaped' hscan hsplit
        obtain ⟨first, pieces, hfirst, hpieces, rfl, rfl⟩ := ih hsplit
        exact ⟨c :: first, pieces, (hscan first).trans hfirst, hpieces, rfl, by simp⟩
      rw [splitParts] at h
      split at h
      · cases h
      · next hallowed =>
        split at h
        · next hescaped =>
          exact collect (fun first => by rw [scan, if_neg hallowed, if_pos hescaped]) h
        · next hescaped =>
          split at h
          · next hescape =>
            exact collect (fun first => by
              rw [scan, if_neg hallowed, if_neg hescaped, if_pos hescape]) h
          · next hescape =>
            split at h
            · next hquote =>
              exact collect (fun first => by
                rw [scan, if_neg hallowed, if_neg hescaped, if_neg hescape, if_pos hquote]) h
            · next hquote =>
              split at h
              · next hsplits =>
                obtain ⟨more, hmore, hparts⟩ := bind_eq_ok.mp h
                obtain ⟨first, pieces, hfirst, hpieces, rfl, rfl⟩ := ih hmore
                obtain rfl := Except.ok.inj hparts
                obtain ⟨rfl, hunquoted⟩ := hsplits
                rw [Bool.not_eq_true] at hunquoted hescaped
                subst hunquoted hescaped
                exact ⟨[], first :: pieces, rfl, List.forall_mem_cons.mpr ⟨hfirst, hpieces⟩, rfl,
                  by simp⟩
              · next hsplits =>
                exact collect (fun first => by
                  rw [scan, if_neg hallowed, if_neg hescaped, if_neg hescape, if_neg hquote,
                    if_neg hsplits]) h
  · rintro ⟨first, pieces, hfirst, hpieces, rfl, rfl⟩
    induction pieces generalizing quoted escaped collected first with
    | nil =>
      rw [List.flatMap_nil, splitParts_append hfirst]
      rfl
    | cons piece pieces ih =>
      have hrest := @ih false false [] piece (hpieces piece (by simp))
        fun p hp => hpieces p (List.mem_cons_of_mem _ hp)
      rw [splitParts_append hfirst, List.flatMap_cons, List.cons_append, splitParts_semicolon,
        hrest, List.nil_append]
      rfl

theorem scan_append (quoted escaped : Bool) (first rest : Str) :
    scan quoted escaped (first ++ rest) =
      (scan quoted escaped first).bind fun state => scan state.1 state.2 rest := by
  induction first generalizing quoted escaped with
  | nil => rfl
  | cons c first ih =>
    rw [List.cons_append, scan, scan]
    split
    · rfl
    · split
      · exact ih quoted false
      · split
        · exact ih quoted true
        · split
          · exact ih (!quoted) escaped
          · split
            · rfl
            · exact ih quoted escaped

/-- Outside quoted strings, the splitter passes over characters that mean nothing to it. -/
theorem balanced_of_plain {text : Str}
    (h : ∀ c ∈ text, isProhibited c = false ∧ c ≠ 34 ∧ c ≠ 59) : Balanced text := by
  rw [Balanced]
  induction text with
  | nil => rfl
  | cons c text ih =>
    obtain ⟨⟨hallowed, hquote, hsplits⟩, hrest⟩ := List.forall_mem_cons.mp h
    rw [scan, if_neg (by simp [hallowed]), if_neg (by simp), if_neg (by simp), if_neg hquote,
      if_neg (by simp [hsplits])]
    exact ih hrest

theorem balanced_of_isBlanks {text : Str} (h : IsBlanks text) : Balanced text := by
  apply balanced_of_plain
  intro c hc
  have hblank := h c hc
  simp only [isBlank, Bool.or_eq_true, beq_iff_eq] at hblank
  rcases hblank with rfl | rfl
  · decide
  · decide

theorem balanced_of_isToken {text : Str} (h : IsToken text) : Balanced text := by
  apply balanced_of_plain
  intro c hc
  obtain ⟨-, hallowed, hquote, -, hsplits, -, -⟩ := IsTokenChar.plain (h.2 c hc)
  exact ⟨hallowed, hquote, hsplits⟩

theorem Balanced.append {a b : Str} (ha : Balanced a) (hb : Balanced b) : Balanced (a ++ b) := by
  rw [Balanced, scan_append, ha]
  exact hb

/-- What comes after a balanced beginning is balanced when the whole is. -/
theorem Balanced.of_append {a b : Str} (ha : Balanced a) (h : Balanced (a ++ b)) : Balanced b := by
  rwa [Balanced, scan_append, ha] at h

/-- In a quoted string, the splitter stays in it to the end of the body. -/
theorem scan_quotedBody {body : Str} (h : QuotedBody body) :
    scan true false body = some (true, false) := by
  induction h with
  | nil => rfl
  | plain hquote hescape hallowed _ ih =>
    rw [scan, if_neg (by simp [hallowed]), if_neg (by simp), if_neg (by simp [hescape]),
      if_neg hquote, if_neg (by simp)]
    exact ih
  | escaped hallowed _ ih =>
    rw [scan, if_neg (by decide), if_neg (by simp), if_pos (by simp), scan,
      if_neg (by simp [hallowed]), if_pos rfl]
    exact ih

theorem balanced_of_isValue {value : Str} (h : IsValue value) : Balanced value := by
  rcases h with htoken | ⟨body, hbody, rfl⟩
  · exact balanced_of_isToken htoken
  · have hopen : scan false false (34 :: (body ++ [34])) = scan true false (body ++ [34]) := rfl
    rw [Balanced, hopen, scan_append, scan_quotedBody hbody]
    rfl

/-! ## Quoted strings -/

/-- The second scan takes exactly the bodies of quoted strings. -/
theorem innerValid_iff {text : Str} : innerValid text = true ↔ QuotedBody text := by
  constructor
  · intro h
    fun_induction innerValid text with
    | case1 => exact .nil
    | case2 => cases h
    -- an escape takes the next character with it
    | case3 c rest ih =>
      rw [Bool.and_eq_true, Bool.not_eq_true'] at h
      exact .escaped h.1 (ih h.2)
    | case4 c rest hlone hescape ih =>
      rw [Bool.and_eq_true, Bool.and_eq_true, Bool.not_eq_true', bne_iff_ne] at h
      -- any other character stands for itself, so it is no backslash
      have hbackslash : c ≠ 92 := by
        rintro rfl
        cases rest with
        | nil => exact hlone rfl rfl
        | cons d rest => exact hescape d rest rfl rfl
      exact .plain h.1.1 hbackslash h.1.2 (ih h.2)
  · intro h
    induction h with
    | nil => rfl
    | @plain c body hquote hescape hallowed _ ih =>
      -- a plain character takes the last branch, since it is neither quote nor backslash
      have hcons : innerValid (c :: body) = (c != 34 && !isProhibited c && innerValid body) := by
        rw [innerValid]
        · rintro rfl
          exact absurd rfl hescape
        · rintro d rest rfl
          exact absurd rfl hescape
      rw [hcons, ih, hallowed]
      simpa using hquote
    | escaped hallowed _ ih => rw [innerValid, ih, hallowed]; rfl

/-- A quote by itself passes the check of a value, but the splitter does not leave it there. -/
theorem validValue_iff {value : Str} :
    validValue value = true ↔ value = [34] ∨ IsValue value := by
  unfold validValue
  constructor
  · intro h
    split at h
    · next hquotes =>
      obtain ⟨hhead, hlast⟩ := hquotes
      cases value with
      -- the value begins and ends with a quote, which may be one and the same
      | nil => cases hhead
      | cons c rest =>
        obtain rfl : c = 34 := Option.some.inj hhead
        rcases List.eq_nil_or_concat' rest with rfl | ⟨body, d, rfl⟩
        · exact .inl rfl
        · have hd : d = 34 := by
            rw [← List.cons_append, List.getLast?_concat] at hlast
            exact Option.some.inj hlast
          subst hd
          rw [List.drop_one, List.tail_cons, List.dropLast_concat, innerValid_iff] at h
          exact .inr (.inr ⟨body, h, rfl⟩)
    -- it is not quoted, so it must be a token
    · exact .inr (.inl (fullmatch_tokenRe.mp h))
  · rintro (rfl | htoken | ⟨body, hbody, rfl⟩)
    · rfl
    · rw [if_neg, fullmatch_tokenRe]
      · exact htoken
      -- a token has no quote in it
      · rintro ⟨hhead, -⟩
        obtain ⟨-, -, hquote, -⟩ := IsTokenChar.plain (htoken.2 34 (List.mem_of_mem_head? hhead))
        exact hquote rfl
    · rw [if_pos ⟨rfl, by rw [← List.cons_append, List.getLast?_concat]⟩, List.drop_one,
        List.tail_cons, List.dropLast_concat, innerValid_iff]
      exact hbody

/-! ## Parameters -/

/-- A text that neither starts nor ends with a blank. -/
def Trimmed (text : Str) : Prop :=
  text ≠ [] ∧ text.head?.any isBlank = false ∧ text.getLast?.any isBlank = false

theorem stripBlanks_of_trimmed {before core after : Str} (hbefore : IsBlanks before)
    (hafter : IsBlanks after) (h : Trimmed core) :
    stripBlanks (before ++ (core ++ after)) = core :=
  stripBlanks_of_blanks hbefore hafter h.1 h.2.1 h.2.2

/-- Only the ends matter. -/
theorem Trimmed.append {a b : Str} (ha : Trimmed a) (hb : Trimmed b) (between : Str) :
    Trimmed (a ++ (between ++ b)) := by
  have hrest : between ++ b ≠ [] := List.append_ne_nil_of_right_ne_nil between hb.1
  refine ⟨List.append_ne_nil_of_left_ne_nil ha.1 _, ?_, ?_⟩
  · rw [List.head?_append_of_ne_nil _ ha.1]
    exact ha.2.1
  · rw [List.getLast?_append_of_ne_nil _ hrest, List.getLast?_append_of_ne_nil _ hb.1]
    exact hb.2.2

theorem trimmed_of_forall {text : Str} (hne : text ≠ []) (h : ∀ c ∈ text, isBlank c = false) :
    Trimmed text := by
  refine ⟨hne, ?_, ?_⟩
  · rw [List.head?_eq_some_head hne]
    exact h _ (List.head_mem hne)
  · rw [List.getLast?_eq_some_getLast hne]
    exact h _ (List.getLast_mem hne)

theorem IsToken.trimmed {text : Str} (h : IsToken text) : Trimmed text :=
  trimmed_of_forall h.1 fun c hc => (IsTokenChar.plain (h.2 c hc)).1

theorem IsMediaType.trimmed {text : Str} (h : IsMediaType text) : Trimmed text := by
  obtain ⟨kind, subtype, hkind, hsubtype, rfl⟩ := h
  exact hkind.trimmed.append hsubtype.trimmed [47]

theorem IsMediaType.balanced {text : Str} (h : IsMediaType text) : Balanced text := by
  obtain ⟨kind, subtype, hkind, hsubtype, rfl⟩ := h
  have hslash : Balanced [47] := rfl
  exact (balanced_of_isToken hkind).append (hslash.append (balanced_of_isToken hsubtype))

theorem IsValue.trimmed {value : Str} (h : IsValue value) : Trimmed value := by
  rcases h with htoken | ⟨body, -, rfl⟩
  · exact htoken.trimmed
  · have hquote : Trimmed [34] := ⟨by simp, rfl, rfl⟩
    exact hquote.append hquote body

theorem SpellsParameter.balanced {piece : Str} {parameter : Str × Str}
    (h : SpellsParameter piece parameter) : Balanced piece := by
  obtain ⟨b₁, name, b₂, b₃, b₄, ⟨h₁, h₂, h₃, h₄⟩, hname, hvalue, -, rfl⟩ := h
  have hequals : Balanced [61] := rfl
  exact ((balanced_of_isBlanks h₁).append
    ((balanced_of_isToken hname).append (balanced_of_isBlanks h₂))).append
    (hequals.append ((balanced_of_isBlanks h₃).append
      ((balanced_of_isValue hvalue).append (balanced_of_isBlanks h₄))))

theorem SpellsMediaType.balanced {piece mediaType : Str} (h : SpellsMediaType piece mediaType) :
    Balanced piece := by
  obtain ⟨before, text, after, hbefore, hafter, htext, -, rfl⟩ := h
  exact (balanced_of_isBlanks hbefore).append (htext.balanced.append (balanced_of_isBlanks hafter))

/-- Blanks stay in a quoted string. -/
theorem quotedBody_of_isBlanks {text : Str} (h : IsBlanks text) : QuotedBody text := by
  induction text with
  | nil => exact .nil
  | cons c text ih =>
    obtain ⟨hblank, hrest⟩ := List.forall_mem_cons.mp h
    simp only [isBlank, Bool.or_eq_true, beq_iff_eq] at hblank
    refine .plain ?_ ?_ ?_ (ih hrest)
    · omega
    · omega
    · rcases hblank with rfl | rfl <;> rfl

/-- What stands before the first equals sign, and after it. -/
theorem split_equals {front : Str} (h : 61 ∉ front) (rest : Str) :
    (front ++ 61 :: rest).takeWhile (· ≠ 61) = front ∧
      ((front ++ 61 :: rest).dropWhile (· ≠ 61)).drop 1 = rest := by
  have hfront : ∀ c ∈ front, decide (c ≠ 61) = true := fun c hc => by
    simpa using fun heq : c = 61 => h (heq ▸ hc)
  constructor
  · rw [List.takeWhile_append_of_pos hfront, List.takeWhile_cons_of_neg (by simp), List.append_nil]
  · rw [List.dropWhile_append_of_pos hfront, List.dropWhile_cons_of_neg (by simp)]
    rfl

theorem exists_split_equals {raw : Str} (h : 61 ∈ raw) :
    raw = raw.takeWhile (· ≠ 61) ++ 61 :: (raw.dropWhile (· ≠ 61)).drop 1 := by
  obtain ⟨front, rest, rfl, hfront⟩ := List.append_of_mem h |> fun _ =>
    List.eq_append_cons_of_mem h
  rw [(split_equals hfront rest).1, (split_equals hfront rest).2]

section

variable [Casefold]

open Casefold

/-- The name that the loop reads in a part. -/
def partName (raw : Str) : Str := casefold (stripBlanks (raw.takeWhile (· ≠ 61)))

/-- The value that the loop reads in a part. -/
def partValue (raw : Str) : Str := stripBlanks ((raw.dropWhile (· ≠ 61)).drop 1)

/-- The checks of one part, except that of the names seen. -/
def PartAccepted (raw : Str) : Prop :=
  61 ∈ raw ∧ IsToken (partName raw) ∧ (partValue raw = [34] ∨ IsValue (partValue raw))

theorem parseParameters_cons {seen : List Str} {raw : Str} {parts : List Str}
    {parameters : List (Str × Str)} :
    parseParameters seen (raw :: parts) = .ok parameters ↔
      PartAccepted raw ∧ partName raw ∉ seen ∧ ∃ more,
        parseParameters (partName raw :: seen) parts = .ok more ∧
          parameters = (partName raw, partValue raw) :: more := by
  rw [parseParameters]
  constructor
  -- the part has an equals sign, then a name and a value, and the name is new
  · intro h
    split at h
    · cases h
    · next hraw =>
      dsimp only at h
      split at h
      · cases h
      · next hchecks =>
        simp only [not_or, not_not] at hraw hchecks
        obtain ⟨more, hmore, hparameters⟩ := bind_eq_ok.mp h
        exact ⟨⟨hraw.2, fullmatch_tokenRe.mp hchecks.1, validValue_iff.mp hchecks.2.1⟩, hchecks.2.2,
          more, hmore, (Except.ok.inj hparameters).symm⟩
  -- each of these is one of the checks
  · rintro ⟨⟨hequals, hname, hvalue⟩, hseen, more, hmore, rfl⟩
    rw [if_neg (by
      rintro (rfl | hno)
      · cases hequals
      · exact hno hequals)]
    dsimp only
    rw [if_neg]
    · exact bind_eq_ok.mpr ⟨more, hmore, rfl⟩
    · simp only [not_or, not_not]
      exact ⟨fullmatch_tokenRe.mpr hname, validValue_iff.mpr hvalue, hseen⟩

/-- **A part is accepted exactly when it spells the parameter that is read in it.** -/
theorem partAccepted_iff {piece : Str} (hascii : ∀ c ∈ piece, c < 128) (hbalanced : Balanced piece)
    {parameter : Str × Str} :
    PartAccepted (stripBlanks piece) ∧
        parameter = (partName (stripBlanks piece), partValue (stripBlanks piece)) ↔
      SpellsParameter piece parameter := by
  constructor
  · rintro ⟨⟨hequals, hname, hvalue⟩, rfl⟩
    -- blanks around the part, around the name and around the value
    obtain ⟨b₁, b₄, h₁, h₄, hpiece⟩ := exists_stripBlanks piece
    have hraw := exists_split_equals hequals
    obtain ⟨c₁, b₂, hc₁, h₂, hfront⟩ :=
      exists_stripBlanks ((stripBlanks piece).takeWhile (· ≠ 61))
    obtain ⟨b₃, c₄, h₃, hc₄, hback⟩ :=
      exists_stripBlanks (((stripBlanks piece).dropWhile (· ≠ 61)).drop 1)
    change _ = b₃ ++ (partValue (stripBlanks piece) ++ c₄) at hback
    -- names for what is between the blanks
    rw [hfront, hback] at hraw
    generalize hspelled : stripBlanks ((stripBlanks piece).takeWhile (· ≠ 61)) = name at *
    generalize partValue (stripBlanks piece) = value at *
    have htext : piece = (b₁ ++ c₁) ++ (name ++ b₂) ++ 61 :: (b₃ ++ (value ++ (c₄ ++ b₄))) := by
      rw [hpiece, hraw]
      simp
    -- folding the case of an ASCII name lowers its letters
    have hlower : partName (stripBlanks piece) = name.map lowerAscii := by
      rw [partName, hspelled]
      refine casefold_ascii name fun c hc => hascii c ?_
      rw [htext]
      simp [hc]
    rw [hlower] at hname ⊢
    have htoken := isToken_map_lowerAscii.mp hname
    refine ⟨b₁ ++ c₁, name, b₂, b₃, c₄ ++ b₄, ⟨h₁.append hc₁, h₂, h₃, hc₄.append h₄⟩, htoken, ?_,
      rfl, htext⟩
    rcases hvalue with rfl | hvalue
    · -- a quote by itself would leave the splitter in a quoted string
      have hequalsBalanced : Balanced [61] := rfl
      rw [htext] at hbalanced
      have hrest := (((balanced_of_isBlanks (h₁.append hc₁)).append
        ((balanced_of_isToken htoken).append (balanced_of_isBlanks h₂))).of_append hbalanced)
      have hquote := (balanced_of_isBlanks h₃).of_append (hequalsBalanced.of_append hrest)
      have hopen : scan false false ([34] ++ (c₄ ++ b₄)) = some (true, false) :=
        scan_quotedBody (quotedBody_of_isBlanks (hc₄.append h₄))
      rw [Balanced, hopen] at hquote
      cases hquote
    · exact hvalue
  · rintro ⟨b₁, name, b₂, b₃, b₄, ⟨h₁, h₂, h₃, h₄⟩, hname, hvalue, hlower, rfl⟩
    -- stripping the blanks leaves the name and the value
    have hraw : stripBlanks (b₁ ++ (name ++ b₂) ++ 61 :: (b₃ ++ (parameter.2 ++ b₄))) =
        (name ++ b₂) ++ 61 :: (b₃ ++ parameter.2) := by
      have htrimmed := hname.trimmed.append hvalue.trimmed (b₂ ++ 61 :: b₃)
      have hstrip := stripBlanks_of_trimmed h₁ h₄ htrimmed
      simpa using hstrip
    -- no equals sign stands before the one between them
    have hfront : 61 ∉ name ++ b₂ := by
      intro hmem
      rcases List.mem_append.mp hmem with hmem | hmem
      · exact (IsTokenChar.plain (hname.2 61 hmem)).2.2.2.2.2.1 rfl
      · exact absurd (h₂ 61 hmem) (by decide)
    obtain ⟨htake, hdrop⟩ := split_equals hfront (b₃ ++ parameter.2)
    have hvalueRead : partValue ((name ++ b₂) ++ 61 :: (b₃ ++ parameter.2)) = parameter.2 := by
      have hstrip := stripBlanks_of_trimmed h₃ isBlanks_nil hvalue.trimmed
      rw [List.append_nil] at hstrip
      rw [partValue, hdrop, hstrip]
    have hnameRead : partName ((name ++ b₂) ++ 61 :: (b₃ ++ parameter.2)) = parameter.1 := by
      have hstrip := stripBlanks_of_trimmed isBlanks_nil h₂ hname.trimmed
      rw [List.nil_append] at hstrip
      rw [partName, htake, hstrip, hlower]
      exact casefold_ascii name fun c hc => hascii c (by simp [hc])
    rw [hraw, PartAccepted, hvalueRead, hnameRead]
    refine ⟨⟨by simp, ?_, .inr hvalue⟩, rfl⟩
    rw [hlower]
    exact isToken_map_lowerAscii.mpr hname

end

/-! ## Rendering -/

/-- Lowering twice is lowering once. -/
theorem lowerAscii_idem (c : ℕ) : lowerAscii (lowerAscii c) = lowerAscii c := by
  unfold lowerAscii
  split
  · rw [if_neg (by omega)]
  · rfl

theorem lowerAscii_lt {c : ℕ} (h : c < 128) : lowerAscii c < 128 := by
  unfold lowerAscii
  split <;> omega

/-- What a text denotes is denoted by its own text. -/
theorem Spells.render {text mediaType : Str} {parameters : List (Str × Str)}
    (h : Spells text mediaType parameters) :
    Spells (render mediaType parameters) mediaType parameters := by
  obtain ⟨first, pieces, ⟨-, type, -, -, -, htype, rfl, -⟩, hspells, hnodup, -⟩ := h
  have hidem : ∀ t : Str, (t.map lowerAscii).map lowerAscii = t.map lowerAscii := by
    intro t
    rw [List.map_map]
    exact List.map_congr_left fun c _ => lowerAscii_idem c
  refine ⟨type.map lowerAscii, parameters.map fun p => p.1 ++ 61 :: p.2, ?_, ?_, hnodup, ?_⟩
  · exact ⟨[], _, [], isBlanks_nil, isBlanks_nil, isMediaType_map_lowerAscii.mpr htype,
      (hidem type).symm, by simp⟩
  · clear hnodup
    induction hspells with
    | nil => exact .nil
    | @cons piece parameter pieces parameters hparameter _ ih =>
      refine .cons ?_ ih
      obtain ⟨-, name, -, -, -, -, hname, hvalue, hlower, -⟩ := hparameter
      refine ⟨[], parameter.1, [], [], [], ⟨isBlanks_nil, isBlanks_nil, isBlanks_nil, isBlanks_nil⟩,
        ?_, hvalue, ?_, by simp⟩
      · rw [hlower]
        exact isToken_map_lowerAscii.mpr hname
      · rw [hlower]
        exact (hidem name).symm
  · rw [ContentType.render, List.flatMap_map]

/-- The text of what an ASCII text denotes is ASCII. -/
theorem Spells.ascii_render {text mediaType : Str} {parameters : List (Str × Str)}
    (hascii : ∀ c ∈ text, c < 128) (h : Spells text mediaType parameters) :
    ∀ c ∈ ContentType.render mediaType parameters, c < 128 := by
  obtain ⟨first, pieces, ⟨before, type, after, -, -, -, rfl, rfl⟩, hspells, -, rfl⟩ := h
  have hlower : ∀ t : Str, (∀ c ∈ t, c < 128) → ∀ c ∈ t.map lowerAscii, c < 128 := by
    intro t ht c hc
    obtain ⟨d, hd, rfl⟩ := List.mem_map.mp hc
    exact lowerAscii_lt (ht d hd)
  intro c hc
  rcases List.mem_append.mp hc with hc | hc
  · exact hlower type (fun d hd => hascii d (by simp [hd])) c hc
  · obtain ⟨parameter, hparameter, hc⟩ := List.mem_flatMap.mp hc
    obtain ⟨piece, hpiece, b₁, name, b₂, b₃, b₄, -, -, -, hname, rfl⟩ :=
      exists_of_forall₂_mem hspells hparameter
    have hmem : ∀ d ∈ b₁ ++ (name ++ b₂) ++ 61 :: (b₃ ++ (parameter.2 ++ b₄)), d < 128 := by
      intro d hd
      apply hascii
      apply List.mem_append_right
      exact List.mem_flatMap.mpr ⟨_, hpiece, List.mem_cons_of_mem 59 hd⟩
    rw [hname] at hc
    rcases List.mem_cons.mp hc with rfl | hc
    · decide
    · rcases List.mem_append.mp hc with hc | hc
      · exact hlower name (fun d hd => hmem d (by simp [hd])) c hc
      · rcases List.mem_cons.mp hc with rfl | hc
        · decide
        · exact hmem c (by simp [hc])

/-! ## The grammar is what is read -/

section

variable [Casefold]

open Casefold

/-- The loop accepts parts of balanced pieces exactly when the pieces spell its parameters. -/
theorem parseParameters_eq_ok {pieces : List Str} (hascii : ∀ piece ∈ pieces, ∀ c ∈ piece, c < 128)
    (hbalanced : ∀ piece ∈ pieces, Balanced piece) {seen : List Str}
    {parameters : List (Str × Str)} :
    parseParameters seen (pieces.map stripBlanks) = .ok parameters ↔
      List.Forall₂ SpellsParameter pieces parameters ∧ (parameters.map (·.1)).Nodup ∧
        ∀ name ∈ parameters.map (·.1), name ∉ seen := by
  -- part by part; the names that were seen grow with each
  induction pieces generalizing seen parameters with
  | nil =>
    rw [List.map_nil, parseParameters, List.forall₂_nil_left_iff]
    constructor
    · intro h
      obtain rfl := Except.ok.inj h
      simp
    · rintro ⟨rfl, -⟩
      rfl
  | cons piece pieces ih =>
    obtain ⟨hpiece, hrest⟩ := List.forall_mem_cons.mp hascii
    obtain ⟨hbalancedPiece, hbalancedRest⟩ := List.forall_mem_cons.mp hbalanced
    rw [List.map_cons, parseParameters_cons]
    constructor
    -- the name of this part is new among the seen ones and among the later ones
    · rintro ⟨haccepted, hseen, more, hmore, rfl⟩
      obtain ⟨hspells, hnodup, hnew⟩ := (ih hrest hbalancedRest).mp hmore
      refine ⟨.cons ((partAccepted_iff hpiece hbalancedPiece).mp ⟨haccepted, rfl⟩) hspells, ?_, ?_⟩
      · rw [List.map_cons, List.nodup_cons]
        exact ⟨fun hmem => hnew _ hmem (by simp), hnodup⟩
      · rw [List.map_cons, List.forall_mem_cons]
        exact ⟨hseen, fun name hname hold => hnew name hname (List.mem_cons_of_mem _ hold)⟩
    · rintro ⟨hspells, hnodup, hnew⟩
      cases hspells with
      | @cons _ parameter _ more hfirst hmore =>
        obtain ⟨haccepted, rfl⟩ := (partAccepted_iff hpiece hbalancedPiece).mpr hfirst
        rw [List.map_cons, List.nodup_cons] at hnodup
        rw [List.map_cons, List.forall_mem_cons] at hnew
        -- what was seen holds neither this name nor a later one
        refine ⟨haccepted, hnew.1, more, (ih hrest hbalancedRest).mpr ⟨hmore, hnodup.2, ?_⟩, rfl⟩
        intro name hname hold
        rcases List.mem_cons.mp hold with rfl | hold
        · exact hnodup.1 hname
        · exact hnew.2 name hname hold

/-- The first part is accepted exactly when it spells a media type. -/
theorem mediaType_iff {piece mediaType : Str} (hascii : ∀ c ∈ piece, c < 128) :
    IsMediaType (casefold (stripBlanks piece)) ∧ mediaType = casefold (stripBlanks piece) ↔
      SpellsMediaType piece mediaType := by
  constructor
  · rintro ⟨htype, rfl⟩
    obtain ⟨before, after, hbefore, hafter, hpiece⟩ := exists_stripBlanks piece
    have hlower : casefold (stripBlanks piece) = (stripBlanks piece).map lowerAscii := by
      refine casefold_ascii _ fun c hc => hascii c ?_
      rw [hpiece]
      simp [hc]
    rw [hlower] at htype ⊢
    exact ⟨before, _, after, hbefore, hafter, isMediaType_map_lowerAscii.mp htype, rfl, hpiece⟩
  · rintro ⟨before, text, after, hbefore, hafter, htype, rfl, rfl⟩
    have hlower : casefold text = text.map lowerAscii :=
      casefold_ascii _ fun c hc => hascii c (by simp [hc])
    rw [stripBlanks_of_trimmed hbefore hafter htype.trimmed, hlower]
    exact ⟨isMediaType_map_lowerAscii.mpr htype, rfl⟩

/-- **An ASCII text is read exactly as the grammar says.** -/
theorem parseContentType_eq_ok {text : Str} (hascii : ∀ c ∈ text, c < 128) {mediaType : Str}
    {parameters : List (Str × Str)} :
    parseContentType text = .ok (mediaType, parameters) ↔ Spells text mediaType parameters := by
  unfold parseContentType
  rw [bind_eq_ok]
  constructor
  · rintro ⟨parts, hparts, h⟩
    -- splitting leaves balanced parts, the first of which is the media type
    obtain ⟨first, pieces, hfirst, hpieces, rfl, rfl⟩ := splitParts_eq_ok.mp hparts
    have hasciiPieces : ∀ piece ∈ pieces, ∀ c ∈ piece, c < 128 := by
      intro piece hpiece c hc
      apply hascii
      apply List.mem_append_right
      exact List.mem_flatMap.mpr ⟨piece, hpiece, List.mem_cons_of_mem 59 hc⟩
    dsimp only at h
    split at h
    · cases h
    · next htype =>
      obtain ⟨read, hread, hresult⟩ := bind_eq_ok.mp h
      obtain ⟨rfl, rfl⟩ := Prod.mk.inj (Except.ok.inj hresult)
      rw [not_not, fullmatch_mediaTypeRe] at htype
      obtain ⟨hspells, hnodup, -⟩ :=
        (parseParameters_eq_ok hasciiPieces hpieces).mp (by simpa using hread)
      exact ⟨first, pieces, (mediaType_iff fun c hc => hascii c (List.mem_append_left _ hc)).mp
        ⟨htype, rfl⟩, hspells, hnodup, rfl⟩
  · rintro ⟨first, pieces, hfirst, hspells, hnodup, rfl⟩
    -- the parts that spell parameters are balanced, so the splitter finds them again
    have hpieces : ∀ piece ∈ pieces, Balanced piece := by
      intro piece hpiece
      obtain ⟨parameter, -, hparameter⟩ := exists_of_forall₂_mem hspells.flip hpiece
      exact SpellsParameter.balanced hparameter
    -- every part is ASCII as the text is
    have hasciiPieces : ∀ piece ∈ pieces, ∀ c ∈ piece, c < 128 := by
      intro piece hpiece c hc
      apply hascii
      apply List.mem_append_right
      exact List.mem_flatMap.mpr ⟨piece, hpiece, List.mem_cons_of_mem 59 hc⟩
    obtain ⟨htype, rfl⟩ :=
      (mediaType_iff fun c hc => hascii c (List.mem_append_left _ hc)).mpr hfirst
    refine ⟨_, splitParts_eq_ok.mpr ⟨first, pieces, hfirst.balanced, hpieces, rfl, rfl⟩, ?_⟩
    dsimp only [List.nil_append, List.headD_cons, List.drop_one, List.tail_cons]
    rw [if_neg (not_not.mpr (fullmatch_mediaTypeRe.mpr htype))]
    exact bind_eq_ok.mpr ⟨parameters, (parseParameters_eq_ok hasciiPieces hpieces).mpr
      ⟨hspells, hnodup, by simp⟩, rfl⟩

/-- **The grammar of `Content-Type`.** An ASCII text is accepted exactly when it is of the grammar,
and read as the grammar means it; and what is read is read again from its own text. -/
theorem parseContentType_grammar {text : Str} (hascii : ∀ c ∈ text, c < 128) :
    ((∃ result, parseContentType text = .ok result) ↔
      ∃ mediaType parameters, Spells text mediaType parameters) ∧
    ∀ mediaType parameters,
      (parseContentType text = .ok (mediaType, parameters) ↔ Spells text mediaType parameters) ∧
      (parseContentType text = .ok (mediaType, parameters) →
        parseContentType (render mediaType parameters) = .ok (mediaType, parameters)) := by
  refine ⟨?_, fun mediaType parameters => ⟨parseContentType_eq_ok hascii, fun h => ?_⟩⟩
  · constructor
    · rintro ⟨⟨mediaType, parameters⟩, h⟩
      exact ⟨mediaType, parameters, (parseContentType_eq_ok hascii).mp h⟩
    · rintro ⟨mediaType, parameters, h⟩
      exact ⟨_, (parseContentType_eq_ok hascii).mpr h⟩
  · have hspells := (parseContentType_eq_ok hascii).mp h
    exact (parseContentType_eq_ok (hspells.ascii_render hascii)).mpr hspells.render

end

section

attribute [local instance] asciiCasefold

theorem parseContentType_grammar_quoted :
    parseContentType (lit "text/plain;charset=\"a;\\\"b\"") =
      .ok (lit "text/plain", [(lit "charset", lit "\"a;\\\"b\"")]) := by
  have htext : render (lit "text/plain") [(lit "charset", lit "\"a;\\\"b\"")] =
      lit "text/plain;charset=\"a;\\\"b\"" := by decide
  have hread : parseContentType (lit "Text/Plain ; Charset = \"a;\\\"b\"") =
      .ok (lit "text/plain", [(lit "charset", lit "\"a;\\\"b\"")]) := by decide +kernel
  rw [← htext]
  exact ((parseContentType_grammar (by decide)).2 _ _).2 hread

end

end Stage2.ContentType
