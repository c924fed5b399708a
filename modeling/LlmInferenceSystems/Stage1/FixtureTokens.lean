import LlmInferenceSystems.Python.Regex
import LlmInferenceSystems.Python.Text

/-!
# Fixture tokens

Texts of the fixture are sequences of markers, each of which is one token.

## Main definitions

* `parseInputTokens`, `parseOutputTokens`: the markers of a text that holds nothing else
* `IsMarker`: a marker, three digits in its brackets

## Main results

* `parseTokens_eq_ok`: a text is parsed exactly into the markers that it is made of
* `parseTokens_append`: a text after another is parsed on its own
* `count_of_parseOutputTokens`: a parsed text has as many openings as markers
-/

namespace Stage1

open Python

/-- `FixtureTokenError`, with its message. -/
structure FixtureTokenError where
  message : String
deriving DecidableEq

/-- `[0-9]` -/
def isMarkerDigit (c : ℕ) : Bool := 48 ≤ c && c ≤ 57

/-- `<p[0-9]{3}>`, for the letter `p` -/
def markerPattern (letter : String) : Regex ℕ :=
  .seq (.literal (lit ("<" ++ letter)))
    (.seq (.rep isMarkerDigit 3 (some 3)) (.literal (lit ">")))

/-- `_parse` -/
def parseTokens (text : Str) (letter kind : String) : Except FixtureTokenError (List Str) :=
  if text = [] then .error ⟨kind ++ " fixture token text cannot be empty"⟩
  else
    -- the pattern has no `\b`, so that no character matters as one of a word
    let tokens := ((markerPattern letter).finditer (fun _ => false) text).map (·.text)
    if tokens = [] ∨ tokens.flatten ≠ text then
      .error ⟨"malformed " ++ kind ++ " fixture token marker text"⟩
    else .ok tokens

/-- `parse_input_tokens` -/
def parseInputTokens (text : Str) : Except FixtureTokenError (List Str) :=
  parseTokens text "p" "input"

/-- `parse_output_tokens` -/
def parseOutputTokens (text : Str) : Except FixtureTokenError (List Str) :=
  parseTokens text "t" "output"

/-- A text that parses holds a token. -/
theorem parseTokens_ne_nil {text : Str} {letter kind : String} {tokens : List Str}
    (h : parseTokens text letter kind = .ok tokens) : tokens ≠ [] := by
  unfold parseTokens at h
  split at h
  · cases h
  · dsimp only at h
    split at h
    · cases h
    · next hnot =>
      obtain rfl := Except.ok.inj h
      exact fun hnil => hnot (.inl hnil)

/-! ## Markers -/

/-- A marker of `letter`: three digits in its brackets. -/
def IsMarker (letter : String) (token : Str) : Prop :=
  ∃ digits : Str, digits.length = 3 ∧ (∀ c ∈ digits, isMarkerDigit c = true) ∧
    token = lit ("<" ++ letter) ++ (digits ++ lit ">")

theorem isMarkerDigit_iff {c : ℕ} : isMarkerDigit c = true ↔ 48 ≤ c ∧ c ≤ 57 := by
  simp [isMarkerDigit]

theorem IsMarker.ne_nil {letter : String} {token : Str} (h : IsMarker letter token) :
    token ≠ [] := by
  obtain ⟨digits, -, -, rfl⟩ := h
  simp [lit_eq]

/-- What the pattern matches is a marker. -/
theorem isMarker_of_mem_run {letter : String} {isWord : ℕ → Bool} {before : Option ℕ} {input : Str}
    {m : Match ℕ} (h : m ∈ (markerPattern letter).run isWord before input) :
    IsMarker letter m.text := by
  obtain ⟨opening, hopening, tail, htail, rfl⟩ := Regex.mem_run_seq.mp h
  obtain ⟨digits, hdigits, closing, hclosing, rfl⟩ := Regex.mem_run_seq.mp htail
  obtain ⟨-, rfl⟩ := Regex.mem_run_literal.mp hopening
  obtain ⟨-, rfl⟩ := Regex.mem_run_literal.mp hclosing
  obtain ⟨-, hlength, hclass, -⟩ := Regex.mem_run_exactly.mp hdigits
  exact ⟨digits.text, hlength, hclass, rfl⟩

/-- A marker is matched, whatever comes after it. -/
theorem matchAt_marker {letter : String} {isWord : ℕ → Bool} {token : Str}
    (h : IsMarker letter token) (before : Option ℕ) (rest : Str) :
    (markerPattern letter).matchAt isWord before (token ++ rest) = some ⟨token, rest, []⟩ := by
  obtain ⟨digits, hlength, hclass, rfl⟩ := h
  rw [markerPattern, List.append_assoc, List.append_assoc, Regex.matchAt_literal_seq, ← hlength,
    Regex.matchAt_exactly_seq hclass, Regex.matchAt, Regex.run_literal_append]
  rfl

/-- **A text is parsed exactly into the markers that it is made of.** -/
theorem parseTokens_eq_ok {text : Str} {letter kind : String} {tokens : List Str} :
    parseTokens text letter kind = .ok tokens ↔
      tokens ≠ [] ∧ (∀ token ∈ tokens, IsMarker letter token) ∧ tokens.flatten = text := by
  constructor
  · intro h
    have hne := parseTokens_ne_nil h
    unfold parseTokens at h
    split at h
    · cases h
    · dsimp only at h
      split at h
      · cases h
      -- every token is a match of the pattern, and together they are the whole text
      · next hnot =>
        rw [not_or, not_not] at hnot
        obtain rfl := Except.ok.inj h
        refine ⟨hne, ?_, hnot.2⟩
        intro token htoken
        obtain ⟨m, hm, rfl⟩ := List.mem_map.mp htoken
        obtain ⟨before, input, hrun⟩ := Regex.exists_run_of_mem_finditerN hm
        exact isMarker_of_mem_run hrun
  · rintro ⟨hne, hmarkers, rfl⟩
    -- markers stand next to each other, so the pattern finds each of them again
    have htokens : (((markerPattern letter).finditer (fun _ => false) tokens.flatten).map (·.text)) =
        tokens :=
      Regex.texts_finditer_flatten (fun t ht => (hmarkers t ht).ne_nil)
        fun t ht before rest => ⟨[], matchAt_marker (hmarkers t ht) before rest⟩
    have hflatten : tokens.flatten ≠ [] := by
      obtain ⟨token, rest, rfl⟩ := List.exists_cons_of_ne_nil hne
      rw [List.flatten_cons]
      exact List.append_ne_nil_of_left_ne_nil (hmarkers token (by simp)).ne_nil _
    unfold parseTokens
    rw [if_neg hflatten]
    dsimp only
    rw [htokens, if_neg (by simpa using hne)]

/-- A text after another is parsed on its own. -/
theorem parseTokens_append {u v : Str} {letter kind : String} {us vs : List Str}
    (hu : parseTokens u letter kind = .ok us) (hv : parseTokens v letter kind = .ok vs) :
    parseTokens (u ++ v) letter kind = .ok (us ++ vs) := by
  obtain ⟨hne, hus, rfl⟩ := parseTokens_eq_ok.mp hu
  obtain ⟨-, hvs, rfl⟩ := parseTokens_eq_ok.mp hv
  apply parseTokens_eq_ok.mpr
  refine ⟨List.append_ne_nil_of_left_ne_nil hne vs, ?_, List.flatten_append⟩
  intro token htoken
  exact (List.mem_append.mp htoken).elim (hus token) (hvs token)

/-- A marker is one opening. -/
theorem count_marker {token : Str} (h : IsMarker "t" token) (rest : Str) :
    count (lit "<t") (token ++ rest) = count (lit "<t") rest + 1 := by
  obtain ⟨digits, hlength, hclass, rfl⟩ := h
  obtain ⟨a, b, c, rfl⟩ := List.length_eq_three.mp hlength
  simp only [List.forall_mem_cons, List.not_mem_nil, false_implies, implies_true, and_true,
    isMarkerDigit_iff] at hclass
  -- neither a digit nor the closing bracket opens another
  have ha : 60 ≠ a := by omega
  have hb : 60 ≠ b := by omega
  have hc : 60 ≠ c := by omega
  simp [count, countFrom, lit_eq, ha, hb, hc]

/-- **A parsed text has as many openings as markers.** -/
theorem count_of_parseOutputTokens {text : Str} {tokens : List Str}
    (h : parseOutputTokens text = .ok tokens) : count (lit "<t") text = tokens.length := by
  obtain ⟨-, hmarkers, rfl⟩ := parseTokens_eq_ok.mp h
  clear h
  induction tokens with
  | nil => rfl
  | cons token tokens ih =>
    rw [List.flatten_cons, count_marker (hmarkers token (by simp)),
      ih fun t ht => hmarkers t (List.mem_cons_of_mem _ ht), List.length_cons]

example : parseOutputTokens (lit "<t001><t002>") = .ok [lit "<t001>", lit "<t002>"] := by
  decide +kernel

example : parseOutputTokens (lit "<t001> <t002>") =
    .error ⟨"malformed output fixture token marker text"⟩ := by
  decide +kernel

end Stage1
