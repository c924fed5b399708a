import LlmInferenceSystems.Stage2.ExpositionGrammar

/-!
# The text format

Servers write expositions with escapes for a backslash, a double quote and a line feed and with
decimal numerals. The parser accepts such a text without control characters and with names that are
not too long, and reads it as it is meant.

## Main definitions

* `textFormat`: the text format without time stamps

## Main results

* `exposition_of_textFormat`: plain expositions of the text format are accepted
* `parseExposition_reads`: the parser accepts its format, and reads it correctly
-/

namespace Stage2

open Python

/-- `\` before a backslash and a double quote, and `\n` for a line feed. -/
def escapeLabel (c : ℕ) : Str :=
  if c = 92 then [92, 92] else if c = 34 then [92, 34] else if c = 10 then [92, 110] else [c]

/-- The text format without time stamps. -/
def textFormat : ExpositionFormat where
  lines text := (text.splitOn 10).dropLast
  isName _ := True
  spells spelling value := spelling = value.flatMap escapeLabel
  isGap gap := gap ≠ [] ∧ ∀ c ∈ gap, c = 32 ∨ c = 9
  denotes numeral value := IsDecimal numeral (.finite value)

/-- A text without control characters and without other line separators. -/
def IsPlain (text : Str) : Prop := ∀ c ∈ text, c = 10 ∨ 32 ≤ c ∧ ¬ IsLineSeparator c

/-- The names of a sample are not too long. -/
def HasShortNames (sample : PrometheusSample) : Prop :=
  sample.name.length ≤ 160 ∧ ∀ label ∈ sample.labels, label.1.length ≤ 160

theorem scanString_escapeLabel (fuel : ℕ) {c : ℕ} (hc : c = 10 ∨ 32 ≤ c) (rest : Str) :
    Json.scanString (fuel + 1) (escapeLabel c ++ rest) =
      (Json.scanString fuel rest).map fun p => (c :: p.1, p.2) := by
  unfold escapeLabel
  split_ifs with hbackslash hquote hlf
  · subst hbackslash
    rfl
  · subst hquote
    rfl
  · subst hlf
    rfl
  · have hcontrol : ¬ c < 32 := by omega
    rw [List.singleton_append]
    simp [Json.scanString, hbackslash, hquote, hcontrol]

theorem scanString_escaped {value : Str} (hvalue : ∀ c ∈ value, c = 10 ∨ 32 ≤ c) {fuel : ℕ}
    (hfuel : value.length < fuel) :
    Json.scanString fuel (value.flatMap escapeLabel ++ [34]) = some (value, []) := by
  induction value generalizing fuel with
  | nil =>
    obtain ⟨n, rfl⟩ : ∃ n, fuel = n + 1 := ⟨fuel - 1, by simp at hfuel; omega⟩
    rfl
  | cons c value ih =>
    obtain ⟨n, rfl⟩ : ∃ n, fuel = n + 1 := ⟨fuel - 1, by simp at hfuel; omega⟩
    obtain ⟨hc, hvalue⟩ := List.forall_mem_cons.mp hvalue
    rw [List.flatMap_cons, List.append_assoc, scanString_escapeLabel n hc,
      ih hvalue (by simpa using hfuel)]
    rfl

theorem mem_escapeLabel {c : ℕ} : c = 10 ∨ c ∈ escapeLabel c := by
  unfold escapeLabel
  split_ifs with hbackslash hquote hlf
  · simp [hbackslash]
  · simp [hquote]
  · exact Or.inl hlf
  · simp

/-- The escapes of the text format are JSON escapes. -/
theorem jsonSpelling_escaped {value : Str}
    (h : ∀ c ∈ value.flatMap escapeLabel, 32 ≤ c) :
    JsonSpelling (value.flatMap escapeLabel) value := by
  have hvalue : ∀ c ∈ value, c = 10 ∨ 32 ≤ c := by
    intro c hc
    rcases mem_escapeLabel (c := c) with hlf | hmem
    · exact Or.inl hlf
    · exact Or.inr (h c (List.mem_flatMap.mpr ⟨c, hc, hmem⟩))
  refine scanString_escaped hvalue ?_
  have hlength : value.length ≤ (value.flatMap escapeLabel).length := by
    clear h hvalue
    induction value with
    | nil => exact Nat.le_refl _
    | cons c value ih =>
      have hone : 1 ≤ (escapeLabel c).length := by
        unfold escapeLabel
        split_ifs <;> simp
      rw [List.flatMap_cons, List.length_append, List.length_cons]
      omega
  omega

theorem mem_intercalate {texts : List Str} {text : Str} (h : text ∈ texts) {c : ℕ} (hc : c ∈ text)
    (sep : Str) : c ∈ sep.intercalate texts := by
  induction texts with
  | nil => exact absurd h List.not_mem_nil
  | cons first more ih =>
    cases more with
    | nil =>
      obtain rfl := List.mem_singleton.mp h
      simpa using hc
    | cons next more =>
      rw [List.intercalate_cons_cons, List.append_assoc, List.mem_append, List.mem_append]
      rcases List.mem_cons.mp h with rfl | h
      · exact Or.inl hc
      · exact Or.inr (Or.inr (ih h))

/-- A label of the text format, when its text is plain. -/
theorem spellsLabel_of_textFormat {spelled label : Str × Str}
    (h : textFormat.SpellsLabel spelled label) (hplain : ∀ c ∈ labelText spelled, 32 ≤ c)
    (hlength : label.1.length ≤ 160) : acceptedFormat.SpellsLabel spelled label := by
  obtain ⟨hname, hisName, -, hspells⟩ := h
  replace hspells : spelled.2 = label.2.flatMap escapeLabel := hspells
  refine ⟨hname, hisName, hlength, ?_⟩
  rw [hspells]
  refine jsonSpelling_escaped fun c hc => hplain c ?_
  rw [← hspells] at hc
  simp [labelText, hc]

theorem labelSet_of_textFormat {text : Str} {labels : Labels} (h : textFormat.LabelSet text labels)
    (hplain : ∀ c ∈ text, 32 ≤ c) (hlength : ∀ label ∈ labels, label.1.length ≤ 160) :
    acceptedFormat.LabelSet text labels := by
  cases h with
  | absent => exact .absent
  | @braces spelled _ comma hspelled hcomma hnodup =>
    refine .braces ?_ hcomma hnodup
    have hinner : ∀ s ∈ spelled, ∀ c ∈ labelText s, 32 ≤ c := by
      intro s hs c hc
      have hmem := mem_intercalate (List.mem_map_of_mem hs) hc (lit ",")
      exact hplain c (by simp [hmem])
    clear hcomma hnodup hplain
    induction hspelled with
    | nil => exact .nil
    | cons hlabel _ ih =>
      obtain ⟨hfirst, hmore⟩ := List.forall_mem_cons.mp hinner
      obtain ⟨hshort, hshorts⟩ := List.forall_mem_cons.mp hlength
      exact .cons (spellsLabel_of_textFormat hlabel hfirst hshort) (ih hshorts hmore)

theorem isSpaceChar_of_isDecimalChar {c : ℕ} (h : isDecimalChar c = true) :
    isSpaceChar c = false := by
  rcases isDecimalChar_cases h with hdigit | rfl | rfl | rfl | rfl | rfl
  · refine isSpaceChar_of_isMetricChar ?_
    simp only [Json.isDigit, Bool.and_eq_true, decide_eq_true_eq] at hdigit
    simp [isMetricChar, isLabelChar, isAsciiAlnum, hdigit]
  all_goals rfl

/-- A numeral of the text format. -/
theorem denotes_of_textFormat {numeral : Str} {value : ℚ} (h : textFormat.denotes numeral value) :
    acceptedFormat.denotes numeral value := by
  have hdecimal : IsDecimal numeral (.finite value) := h
  refine ⟨⟨hdecimal.ne_nil, fun c hc => isSpaceChar_of_isDecimalChar (hdecimal.isDecimalChar c hc)⟩,
    readFloat_of_isDecimal hdecimal, hdecimal.nonneg⟩

theorem sampleLine_of_textFormat {line : Str} {sample : PrometheusSample}
    (h : textFormat.SampleLine line sample) (hplain : ∀ c ∈ line, 32 ≤ c)
    (hshort : HasShortNames sample) : acceptedFormat.SampleLine line sample := by
  cases h with
  | @intro _ braces gap numeral labels hname hlength hlabels hperm hsorted hgap hvalue =>
    refine .intro hname hshort.1 (labelSet_of_textFormat hlabels (fun c hc => ?_)
      fun label hlabel => hshort.2 label (hperm.mem_iff.mpr hlabel)) hperm hsorted
      ⟨hgap.1, fun c hc => ?_⟩ (denotes_of_textFormat hvalue)
    · exact hplain c (by simp [hc])
    · rcases hgap.2 c hc with rfl | rfl <;> rfl

theorem sampleLines_of_textFormat {lines : List Str} {samples : List PrometheusSample}
    (h : textFormat.SampleLines lines samples) (hplain : ∀ line ∈ lines, ∀ c ∈ line, 32 ≤ c)
    (hshort : ∀ sample ∈ samples, HasShortNames sample) :
    acceptedFormat.SampleLines lines samples := by
  induction h with
  | nil => exact .nil
  | skip hline _ ih =>
    exact .skip hline (ih (fun line hline => hplain line (List.mem_cons_of_mem _ hline)) hshort)
  | sample hline _ ih =>
    obtain ⟨hfirst, hmore⟩ := List.forall_mem_cons.mp hplain
    obtain ⟨hone, hothers⟩ := List.forall_mem_cons.mp hshort
    exact .sample (sampleLine_of_textFormat hline hfirst hone) (ih hmore hothers)

/-- Plain expositions of the text format are accepted. -/
theorem exposition_of_textFormat {text : Str} {samples : List PrometheusSample}
    (h : textFormat.Exposition text samples) (hplain : IsPlain text)
    (hshort : ∀ sample ∈ samples, HasShortNames sample) :
    acceptedFormat.Exposition text samples := by
  obtain ⟨hterminated, hsampled, hlines⟩ := h
  obtain ⟨init, rfl⟩ := List.getLast?_eq_some_iff.mp hterminated
  have hsame : textFormat.lines (init ++ [10]) = init.splitOn 10 := by
    change ((init ++ [10]).splitOn 10).dropLast = _
    rw [splitOn_concat_lineFeed, List.dropLast_concat]
  have haccepted : acceptedFormat.lines (init ++ [10]) = init.splitOn 10 :=
    splitlines_of_lineFeeds fun c hc =>
      (hplain c (List.mem_append_left _ hc)).imp_right fun h => h.2
  rw [hsame] at hlines
  refine ⟨hterminated, hsampled, ?_⟩
  rw [haccepted]
  refine sampleLines_of_textFormat hlines (fun line hline c hc => ?_) hshort
  have hmem : c ∈ init := mem_of_mem_splitOn hline hc
  rcases hplain c (List.mem_append_left _ hmem) with rfl | hchar
  · exact absurd hc (not_mem_of_mem_splitOn hline)
  · exact hchar.1

section

variable [Interpreter]

/-- **The parser accepts its format, and reads it correctly**; so it does with a plain text in the
text format whose names are not too long. -/
theorem parseExposition_reads (text : Str) :
    (∀ samples, (∃ inventory, parseExposition text = .ok (samples, inventory)) ↔
      acceptedFormat.Exposition text samples) ∧
    (∀ samples inventory, parseExposition text = .ok (samples, inventory) →
      IsInventory samples inventory) ∧
    (∀ samples, textFormat.Exposition text samples → IsPlain text →
      (∀ sample ∈ samples, HasShortNames sample) →
        ∃ inventory, parseExposition text = .ok (samples, inventory)) := by
  refine ⟨fun samples => exists_parseExposition_iff, fun samples inventory h => ?_,
    fun samples h hplain hshort => ?_⟩
  · rw [labelInventory_of_parseExposition h]
    exact isInventory_labelInventory samples
  · exact exists_parseExposition_iff.mpr (exposition_of_textFormat h hplain hshort)

end

section

attribute [local instance] cpython

/-- A comment, and a sample line whose labels are out of order and of which one is a quote. -/
def sampleText : Str := lit "# c" ++ [10] ++ lit "n\x7bb=\"1\",a=\"\\\"\"\x7d 15" ++ [10]

/-- The sample of the line. -/
def sampleReading : PrometheusSample where
  name := lit "n"
  labels := [(lit "a", lit "\""), (lit "b", lit "1")]
  value := 15

theorem exposition_sampleText : textFormat.Exposition sampleText [sampleReading] := by
  have hlabels : textFormat.LabelSet (lit "\x7bb=\"1\",a=\"\\\"\"\x7d")
      [(lit "b", lit "1"), (lit "a", lit "\"")] := by
    have hspelled : List.Forall₂ textFormat.SpellsLabel
        [(lit "b", lit "1"), (lit "a", lit "\\\"")] [(lit "b", lit "1"), (lit "a", lit "\"")] :=
      .cons ⟨rfl, ⟨_, _, rfl, by decide, by decide⟩, trivial, rfl⟩
        (.cons ⟨rfl, ⟨_, _, rfl, by decide, by decide⟩, trivial, rfl⟩ .nil)
    exact .braces hspelled (.inl rfl) (by decide)
  have hvalue : textFormat.denotes (lit "15") sampleReading.value := by
    have hwhole : ∀ d ∈ lit "15", Json.isDigit d = true := by decide
    have hfloat : PyFloat.ofDecimal (Json.digitsValue (lit "15" ++ [])) (0 - ([] : Str).length) =
        .finite 15 := by decide +kernel
    have hdecimal := IsDecimal.intro hwhole (by decide) .absent .absent
    rwa [hfloat] at hdecimal
  have hgap : textFormat.isGap (lit " ") := ⟨by decide, by decide⟩
  have hline : textFormat.SampleLine (lit "n\x7bb=\"1\",a=\"\\\"\"\x7d 15") sampleReading :=
    .intro ⟨_, _, rfl, by decide, by decide⟩ trivial hlabels (.swap _ _ []) (by decide) hgap hvalue
  have hlines : textFormat.lines sampleText =
      [lit "# c", lit "n\x7bb=\"1\",a=\"\\\"\"\x7d 15"] := by decide +kernel
  refine ⟨by decide, by simp, ?_⟩
  rw [hlines]
  exact .skip (.inr rfl) (.sample hline .nil)

/-- The text is read as it is meant. -/
theorem parseExposition_reads_sampleText :
    ∃ inventory, parseExposition sampleText = .ok ([sampleReading], inventory) := by
  have hshort : ∀ sample ∈ [sampleReading], HasShortNames sample := by
    intro sample hsample
    obtain rfl := List.mem_singleton.mp hsample
    exact ⟨by decide, by decide⟩
  exact (parseExposition_reads sampleText).2.2 [sampleReading] exposition_sampleText
    (by unfold IsPlain; decide) hshort

/-- An underscore between two digits is read, which no numeral of the text format has. -/
theorem exists_parsed_not_textFormat : ∃ text samples inventory,
    parseExposition text = .ok (samples, inventory) ∧
      ∀ samples, ¬ textFormat.Exposition text samples := by
  -- -- the parser reads an underscore between two digits
  obtain ⟨⟨samples, inventory⟩, hparse, -⟩ := exists_eq_ok
    (x := parseExposition (lit "a 1_0" ++ [10])) (p := fun _ => True) (by decide +kernel)
  refine ⟨_, samples, inventory, hparse, fun samples h => ?_⟩
  -- -- the line would have to be a sample of the format
  have hlines : textFormat.lines (lit "a 1_0" ++ [10]) = [lit "a 1_0"] := by decide +kernel
  have hread := h.lines
  rw [hlines] at hread
  generalize hline : lit "a 1_0" = line at hread
  cases hread with
  | skip hskip _ =>
    subst hline
    revert hskip
    decide
  | @sample _ _ sample _ hsample _ =>
    cases hsample with
    | @intro _ braces gap numeral labels hname _ hlabels _ _ hgap hvalue =>
      have hdecimal : IsDecimal numeral (.finite sample.value) := hvalue
      have hspace : ∀ c ∈ gap, isSpaceChar c = true := by
        intro c hc
        rcases hgap.2 c hc with rfl | rfl <;> rfl
      -- -- without a brace the name takes the letter and the numeral the rest
      cases hlabels with
      | braces =>
        have hbrace : (123 : ℕ) ∈ lit "a 1_0" := by rw [hline]; simp
        revert hbrace
        decide
      | absent =>
        have hsplits : SampleParts.Splits ⟨sample.name, none, numeral⟩ gap (lit "a 1_0") :=
          ⟨by rw [hline]; simp [bracesText], hname, by simp, hgap.1, hspace, hdecimal.ne_nil,
            fun c hc => isSpaceChar_of_isDecimalChar (hdecimal.isDecimalChar c hc)⟩
        have hmatch := matchSample_eq_some.mpr ⟨gap, hsplits⟩
        have hfound : matchSample (lit "a 1_0") = some ⟨lit "a", none, lit "1_0"⟩ := by
          decide +kernel
        -- -- and the format's numerals have no underscore
        obtain rfl := (SampleParts.mk.inj (Option.some.inj (hfound.symm.trans hmatch))).2.2
        exact absurd (hdecimal.isDecimalChar 95 (by decide)) (by decide)

end

end Stage2
