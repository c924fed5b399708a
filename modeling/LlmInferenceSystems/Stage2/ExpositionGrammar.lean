import LlmInferenceSystems.Stage2.LabelInventory
import LlmInferenceSystems.Stage2.TextLines

/-!
# The grammar of expositions

An exposition is a terminated list of blank lines, comments and sample lines. How its lines are
separated, how label values are spelled, what stands before a value and which numerals there are is
left open: the parser accepts one such format, and the text format that servers write is another.

## Main definitions

* `ExpositionFormat`: what is left open, and the grammar over it
* `acceptedFormat`: the format of the parser

## Main results

* `labelsFrom_sound`, `labelsFrom_complete`: the label sets that the loop reads
* `parseSample_eq_ok`: a line is read exactly if it is a sample line
* `exists_parseExposition_iff`: a text is accepted exactly if it is an exposition
-/

namespace Stage2

open Python

/-! ## Formats -/

/-- `name="value"`, where the value is spelled. -/
def labelText (label : Str × Str) : Str := label.1 ++ 61 :: 34 :: label.2 ++ [34]

/-- What a format leaves open. -/
structure ExpositionFormat where
  /-- The lines of a text that ends in a line feed. -/
  lines : Str → List Str
  /-- The names that are not too long. -/
  isName : Str → Prop
  /-- How a label value is spelled. -/
  spells : Str → Str → Prop
  /-- What may stand before a value. -/
  isGap : Str → Prop
  /-- The numerals, and the floats that they denote. -/
  denotes : Str → ℚ → Prop

namespace ExpositionFormat

variable (format : ExpositionFormat)

/-- A label, and how it is spelled. -/
structure SpellsLabel (spelled label : Str × Str) : Prop where
  name : spelled.1 = label.1
  isLabelName : IsLabelName label.1
  isName : format.isName label.1
  spells : format.spells spelled.2 label.2

/-- What stands after the name, and the labels in the order of the text. A comma may follow the last
label. -/
inductive LabelSet : Str → Labels → Prop
  | absent : LabelSet [] []
  | braces {spelled : List (Str × Str)} {labels : Labels} {comma : Str}
      (hspelled : List.Forall₂ format.SpellsLabel spelled labels)
      (hcomma : comma = [] ∨ labels ≠ [] ∧ comma = [44]) (hnodup : (labels.map (·.1)).Nodup) :
      LabelSet (123 :: (lit ",").intercalate (spelled.map labelText) ++ comma ++ [125]) labels

/-- A sample line, and the sample that it denotes. -/
inductive SampleLine : Str → PrometheusSample → Prop
  | intro {sample : PrometheusSample} {braces gap numeral : Str} {labels : Labels}
      (hname : IsMetricName sample.name) (hlength : format.isName sample.name)
      (hlabels : format.LabelSet braces labels) (hperm : sample.labels.Perm labels)
      (hsorted : sample.labels.Pairwise fun a b => strLe a.1 b.1 = true)
      (hgap : format.isGap gap) (hvalue : format.denotes numeral sample.value) :
      SampleLine (sample.name ++ braces ++ gap ++ numeral) sample

/-- Lines, and the samples of the sample lines in order. -/
inductive SampleLines : List Str → List PrometheusSample → Prop
  | nil : SampleLines [] []
  | skip {line : Str} {lines : List Str} {samples : List PrometheusSample}
      (hline : line = [] ∨ line.head? = some 35) (h : SampleLines lines samples) :
      SampleLines (line :: lines) samples
  | sample {line : Str} {lines : List Str} {sample : PrometheusSample}
      {samples : List PrometheusSample} (hline : format.SampleLine line sample)
      (h : SampleLines lines samples) : SampleLines (line :: lines) (sample :: samples)

/-- An exposition, and its samples. -/
structure Exposition (text : Str) (samples : List PrometheusSample) : Prop where
  terminated : text.getLast? = some 10
  sampled : samples ≠ []
  lines : format.SampleLines (format.lines text) samples

end ExpositionFormat

/-- `"` and the spelling and `"` are a JSON string, and the value is what it stands for. -/
def JsonSpelling (spelling value : Str) : Prop :=
  Json.scanString (spelling.length + 2) (spelling ++ [34]) = some (value, [])

/-- The format of the parser. -/
def acceptedFormat : ExpositionFormat where
  lines := splitlines
  isName name := name.length ≤ 160
  spells := JsonSpelling
  isGap gap := gap ≠ [] ∧ ∀ c ∈ gap, isSpaceChar c = true
  denotes numeral value :=
    (numeral ≠ [] ∧ ∀ c ∈ numeral, isSpaceChar c = false) ∧
      readFloat numeral = some (.finite value) ∧ 0 ≤ value

/-! ## Label values -/

theorem hex4_eq_some {text rest : Str} {n : ℕ} (h : Json.hex4 text = some (n, rest)) :
    ∃ digits, text = digits ++ rest ∧ ∀ c ∈ digits, c ≠ 92 ∧ c ≠ 34 := by
  unfold Json.hex4 at h
  split at h
  · next a b c d rest' =>
    split at h
    · next ha hb hc hd =>
      obtain ⟨-, rfl⟩ := Prod.mk.inj (Option.some.inj h)
      have hplain : ∀ {c n : ℕ}, Json.hexValue c = some n → c ≠ 92 ∧ c ≠ 34 := by
        intro c n hn
        constructor
        · rintro rfl
          cases hn
        · rintro rfl
          cases hn
      refine ⟨[a, b, c, d], rfl, ?_⟩
      simp only [List.forall_mem_cons, List.not_mem_nil, false_implies, implies_true, and_true]
      exact ⟨hplain ha, hplain hb, hplain hc, hplain hd⟩
    · cases h
  · cases h

theorem QuotedBody.plain_append {text body : Str} (htext : ∀ c ∈ text, c ≠ 92 ∧ c ≠ 34)
    (h : QuotedBody body) : QuotedBody (text ++ body) := by
  induction text with
  | nil => exact h
  | cons c text ih =>
    obtain ⟨hc, htext⟩ := List.forall_mem_cons.mp htext
    exact .plain hc.1 hc.2 (ih htext)

/-- What an escape of four digits takes, or of twice four, is quoted. -/
theorem unicodeEscape_eq_some {text rest : Str} {e : ℕ}
    (h : Json.unicodeEscape text = some (e, rest)) :
    ∃ taken, text = taken ++ rest ∧ ∀ body, QuotedBody body → QuotedBody (taken ++ body) := by
  unfold Json.unicodeEscape at h
  split at h
  · cases h
  · next high after hhigh =>
    obtain ⟨digits, rfl, hdigits⟩ := hex4_eq_some hhigh
    have hsingle : ∃ taken, digits ++ after = taken ++ after ∧
        ∀ body, QuotedBody body → QuotedBody (taken ++ body) :=
      ⟨digits, rfl, fun _ hbody => .plain_append hdigits hbody⟩
    split_ifs at h with hsurrogate
    · split at h
      · next rest' =>
        split at h
        · next low after' hlow =>
          obtain ⟨digits', rfl, hdigits'⟩ := hex4_eq_some hlow
          split_ifs at h with hpair
          · obtain ⟨-, rfl⟩ := Prod.mk.inj (Option.some.inj h)
            refine ⟨digits ++ 92 :: 117 :: digits', by simp, fun body hbody => ?_⟩
            rw [List.append_assoc]
            exact .plain_append hdigits (.pair (by decide) (.plain_append hdigits' hbody))
          · obtain ⟨-, rfl⟩ := Prod.mk.inj (Option.some.inj h)
            exact hsingle
        · obtain ⟨-, rfl⟩ := Prod.mk.inj (Option.some.inj h)
          exact hsingle
      · obtain ⟨-, rfl⟩ := Prod.mk.inj (Option.some.inj h)
        exact hsingle
    · obtain ⟨-, rfl⟩ := Prod.mk.inj (Option.some.inj h)
      exact hsingle

/-- What a JSON string takes is quoted, up to its closing quote. -/
theorem scanString_eq_some {fuel : ℕ} {text value rest : Str}
    (h : Json.scanString fuel text = some (value, rest)) :
    ∃ body, text = body ++ 34 :: rest ∧ QuotedBody body := by
  induction fuel generalizing text value with
  | zero => cases h
  | succ fuel ih =>
    rcases text with _ | ⟨c, text⟩
    · cases h
    · unfold Json.scanString at h
      split_ifs at h with hquote hbackslash hcontrol
      · obtain ⟨-, rfl⟩ := Prod.mk.inj (Option.some.inj h)
        exact ⟨[], by rw [hquote]; rfl, .nil⟩
      · subst hbackslash
        rcases text with _ | ⟨d, text⟩
        · cases h
        · dsimp only at h
          -- an escape takes a pair, and digits or no more
          have hescape : ∀ {e : ℕ} {after : Str},
              (if d = 117 then Json.unicodeEscape text else (Json.escape d).map (·, text)) =
                some (e, after) →
              d ≠ 10 ∧ ∃ taken, text = taken ++ after ∧
                ∀ body, QuotedBody body → QuotedBody (taken ++ body) := by
            intro e after hread
            split_ifs at hread with hd
            · exact ⟨by omega, unicodeEscape_eq_some hread⟩
            · obtain ⟨e', he', heq⟩ := Option.map_eq_some_iff.mp hread
              obtain ⟨-, rfl⟩ := Prod.mk.inj heq
              refine ⟨?_, [], rfl, fun _ hbody => hbody⟩
              rintro rfl
              cases he'
          split at h
          · next e after hread =>
            obtain ⟨hd, taken, rfl, hquoted⟩ := hescape hread
            obtain ⟨⟨inner, after'⟩, hinner, heq⟩ := Option.map_eq_some_iff.mp h
            obtain ⟨rfl, rfl⟩ := Prod.mk.inj heq
            obtain ⟨body, rfl, hbody⟩ := ih hinner
            exact ⟨92 :: d :: (taken ++ body), by simp, .pair hd (hquoted body hbody)⟩
          · cases h
      · obtain ⟨⟨inner, after⟩, hinner, heq⟩ := Option.map_eq_some_iff.mp h
        obtain ⟨rfl, rfl⟩ := Prod.mk.inj heq
        obtain ⟨body, rfl, hbody⟩ := ih hinner
        exact ⟨c :: body, rfl, .plain hbackslash hquote hbody⟩

/-- A spelling is what the label expression takes as one. -/
theorem JsonSpelling.quotedBody {spelling value : Str} (h : JsonSpelling spelling value) :
    QuotedBody spelling := by
  obtain ⟨body, heq, hbody⟩ := scanString_eq_some h
  rwa [List.append_cancel_right heq]

section

variable [Interpreter]

/-- What the parser makes of a quoted spelling. -/
theorem parseJsonLine_quoted (spelling : Str) :
    (∃ value, JsonSpelling spelling value ∧
      parseJsonLine (34 :: spelling ++ [34]) = .ok (some (.str value))) ∨
    (∀ value, ¬ JsonSpelling spelling value) ∧
      parseJsonLine (34 :: spelling ++ [34]) = .ok none := by
  have hlength : (spelling ++ [34]).length + 1 = spelling.length + 2 := by simp
  have hloads : parseJsonLine (34 :: spelling ++ [34]) =
      (Json.scanString (spelling.length + 2) (spelling ++ [34])).elim (.ok none) fun p =>
        if Json.skipSpace p.2 = [] then .ok (some (.str p.1)) else .ok none := by
    unfold parseJsonLine Json.loads
    have hspace : Json.skipSpace (34 :: spelling ++ [34]) = 34 :: (spelling ++ [34]) := rfl
    rw [hspace, Json.scanValue, hlength]
    cases Json.scanString (spelling.length + 2) (spelling ++ [34]) with
    | none => rfl
    | some p =>
      obtain ⟨value, rest⟩ := p
      dsimp only [Option.elim]
      split_ifs <;> rfl
  rw [hloads]
  unfold JsonSpelling
  cases hscan : Json.scanString (spelling.length + 2) (spelling ++ [34]) with
  | none =>
    refine Or.inr ⟨fun value h => ?_, rfl⟩
    cases h
  | some p =>
    obtain ⟨value, rest⟩ := p
    by_cases hrest : rest = []
    · subst hrest
      exact Or.inl ⟨value, rfl, rfl⟩
    · -- the closing quote is still to come
      right
      refine ⟨fun value h => hrest (Prod.mk.inj (Option.some.inj h)).2, ?_⟩
      obtain ⟨body, heq, -⟩ := scanString_eq_some hscan
      have hlast : rest.getLast? = some 34 := by
        have hlast := congrArg List.getLast? heq
        rw [List.getLast?_concat, List.getLast?_append_cons, List.getLast?_cons_of_ne_nil hrest]
          at hlast
        exact hlast.symm
      refine if_neg fun hspace => ?_
      have hquote := List.dropWhile_eq_nil_iff.mp hspace 34 (List.mem_of_getLast? hlast)
      exact absurd hquote (by decide)

theorem parseJsonLine_of_spelling {spelling value : Str} (h : JsonSpelling spelling value) :
    parseJsonLine (34 :: spelling ++ [34]) = .ok (some (.str value)) := by
  rcases parseJsonLine_quoted spelling with ⟨value', hvalue', hparse⟩ | ⟨hnone, -⟩
  · obtain rfl := (Prod.mk.inj (Option.some.inj (h.symm.trans hvalue'))).1
    exact hparse
  · exact absurd h (hnone value)

/-! ## Label sets -/

omit [Interpreter] in
/-- A label as the loop reads it. -/
structure ReadsLabel (spelled label : Str × Str) : Prop where
  name : spelled.1 = label.1
  isLabelName : IsLabelName label.1
  spells : JsonSpelling spelled.2 label.2

omit [Interpreter] in
theorem matchLabel_labelText {spelled label : Str × Str} (h : ReadsLabel spelled label)
    (rest : Str) : matchLabel (labelText spelled ++ rest) = some ⟨label.1, spelled.2, rest⟩ := by
  refine matchLabel_eq_some.mpr ⟨?_, h.isLabelName, h.spells.quotedBody⟩
  rw [← h.name]
  simp [labelText]

/-- One turn of the loop. -/
theorem labelsFrom_labelText {spelled label : Str × Str} (h : ReadsLabel spelled label) (fuel : ℕ)
    (rest : Str) :
    labelsFrom (fuel + 1) (labelText spelled ++ rest) =
      match rest with
      | [] => .ok [label]
      | 44 :: rest => (labelsFrom fuel rest).map (label :: ·)
      | _ => .error (.prometheusProtocol "malformed Prometheus label separator") := by
  have hne : labelText spelled ++ rest ≠ [] := by simp [labelText]
  rw [labelsFrom, if_neg hne, matchLabel_labelText h]
  dsimp only
  rw [parseJsonLine_of_spelling h.spells]
  rfl

omit [Interpreter] in
/-- What is left after the first label. -/
theorem intercalate_labelText (spelled : Str × Str) (more : List (Str × Str)) (comma : Str) :
    (lit ",").intercalate ((spelled :: more).map labelText) ++ comma =
      labelText spelled ++
        (if more = [] then comma
          else 44 :: ((lit ",").intercalate (more.map labelText) ++ comma)) := by
  cases more with
  | nil => simp
  | cons next more =>
    rw [if_neg (List.cons_ne_nil _ _), List.map_cons, List.map_cons, List.intercalate_cons_cons]
    simp [lit_eq]

/-- What the loop accepts is a list of labels. -/
theorem labelsFrom_sound {fuel : ℕ} {text : Str} (hfuel : text.length ≤ fuel) {labels : Labels}
    (h : labelsFrom fuel text = .ok labels) :
    ∃ spelled comma, List.Forall₂ ReadsLabel spelled labels ∧
      (comma = [] ∨ labels ≠ [] ∧ comma = [44]) ∧
      text = (lit ",").intercalate (spelled.map labelText) ++ comma := by
  induction fuel generalizing text labels with
  | zero =>
    obtain rfl := Except.ok.inj h
    exact ⟨[], [], .nil, Or.inl rfl, List.eq_nil_of_length_eq_zero (Nat.le_zero.mp hfuel)⟩
  | succ fuel ih =>
    by_cases hempty : text = []
    · rw [labelsFrom, if_pos hempty] at h
      obtain rfl := Except.ok.inj h
      exact ⟨[], [], .nil, Or.inl rfl, hempty⟩
    · cases hmatch : matchLabel text with
      | none =>
        rw [labelsFrom, if_neg hempty, hmatch] at h
        cases h
      | some label =>
        obtain ⟨htext, hname, -⟩ := matchLabel_eq_some.mp hmatch
        rcases parseJsonLine_quoted label.value with ⟨value, hvalue, -⟩ | ⟨-, hparse⟩
        · have hreads : ReadsLabel (label.name, label.value) (label.name, value) :=
            ⟨rfl, hname, hvalue⟩
          obtain rfl : text = labelText (label.name, label.value) ++ label.rest := by
            rw [htext]
            simp [labelText]
          rw [labelsFrom_labelText hreads] at h
          split at h
          · next hrest =>
            obtain rfl := Except.ok.inj h
            exact ⟨[(label.name, label.value)], [], .cons hreads .nil, Or.inl rfl,
              by simp [hrest]⟩
          · next rest hrest =>
            obtain ⟨more, hmore, rfl⟩ := exists_of_map_eq_ok h
            have hlength : rest.length ≤ fuel := by
              simp only [hrest, List.length_append, List.length_cons, labelText] at hfuel
              omega
            obtain ⟨spelled, comma, hspelled, hcomma, hrest'⟩ := ih hlength hmore
            rw [hrest, hrest']
            by_cases hspelledEmpty : spelled = []
            · subst hspelledEmpty
              cases hspelled
              obtain rfl : comma = [] := hcomma.resolve_right fun h => h.1 rfl
              exact ⟨[(label.name, label.value)], [44], .cons hreads .nil,
                Or.inr ⟨List.cons_ne_nil _ _, rfl⟩, by simp⟩
            · refine ⟨(label.name, label.value) :: spelled, comma, .cons hreads hspelled,
                hcomma.imp_right fun h => ⟨List.cons_ne_nil _ _, h.2⟩, ?_⟩
              rw [intercalate_labelText, if_neg hspelledEmpty]
          · cases h
        · rw [labelsFrom, if_neg hempty, hmatch] at h
          dsimp only at h
          rw [hparse] at h
          cases h

theorem labelsFrom_nil (fuel : ℕ) : labelsFrom fuel [] = .ok [] := by
  cases fuel <;> rfl

/-- Every list of labels is accepted, and read. -/
theorem labelsFrom_complete {spelled : List (Str × Str)} {labels : Labels}
    (hspelled : List.Forall₂ ReadsLabel spelled labels) {comma : Str}
    (hcomma : comma = [] ∨ labels ≠ [] ∧ comma = [44]) {fuel : ℕ}
    (hfuel : ((lit ",").intercalate (spelled.map labelText) ++ comma).length ≤ fuel) :
    labelsFrom fuel ((lit ",").intercalate (spelled.map labelText) ++ comma) = .ok labels := by
  -- label by label, while the fuel lasts longer than the text
  induction hspelled generalizing fuel with
  | nil =>
    obtain rfl : comma = [] := hcomma.resolve_right fun h => h.1 rfl
    exact labelsFrom_nil fuel
  | @cons first label more labels hreads hmore ih =>
    -- a label takes at least one character
    rw [intercalate_labelText] at hfuel ⊢
    obtain ⟨n, rfl⟩ : ∃ n, fuel = n + 1 := by
      refine ⟨fuel - 1, ?_⟩
      simp only [List.length_append, List.length_cons, labelText] at hfuel
      omega
    rw [labelsFrom_labelText hreads]
    -- the last label may be followed by a comma
    by_cases hempty : more = []
    · subst hempty
      cases hmore
      rcases hcomma with rfl | ⟨-, rfl⟩
      · rfl
      · change (labelsFrom n []).map (label :: ·) = _
        rw [labelsFrom_nil]
        rfl
    -- another label follows, after its comma (induction)
    · rw [if_neg hempty] at hfuel ⊢
      have hlabels : labels ≠ [] := by
        rintro rfl
        cases hmore
        exact hempty rfl
      change (labelsFrom n _).map (label :: ·) = _
      rw [ih (hcomma.imp_right fun h => ⟨hlabels, h.2⟩)]
      · rfl
      · simp only [List.length_append, List.length_cons, labelText] at hfuel ⊢
        omega

/-! ## Sample lines -/

omit [Interpreter] in
theorem isIdentifier_of_metricChars {name : Str} (hne : name ≠ [])
    (hchars : ∀ c ∈ name, isMetricChar c = true) :
    IsIdentifier name ↔ name.length ≤ 160 := by
  have hascii : ∀ c ∈ name, c < 128 := by
    intro c hc
    have hchar := hchars c hc
    simp only [isMetricChar, isLabelChar, isAsciiAlnum, Bool.or_eq_true, Bool.and_eq_true,
      decide_eq_true_eq, beq_iff_eq] at hchar
    omega
  constructor
  · exact fun h => h.2.1
  · exact fun h => ⟨List.length_pos_of_ne_nil hne, h, encodable_of_ascii hascii⟩

omit [Interpreter] in
theorem IsLabelName.isMetricName {name : Str} (h : IsLabelName name) : IsMetricName name := by
  obtain ⟨c, rest, rfl, hc, hrest⟩ := h
  refine ⟨c, rest, rfl, ?_, fun d hd => ?_⟩
  · unfold isMetricStart
    rw [hc]
    rfl
  · unfold isMetricChar
    rw [hrest d hd]
    rfl

omit [Interpreter] in
theorem IsMetricName.isIdentifier_iff {name : Str} (h : IsMetricName name) :
    IsIdentifier name ↔ name.length ≤ 160 :=
  isIdentifier_of_metricChars h.ne_nil h.isMetricChar

omit [Interpreter] in
theorem eq_insertionSort_iff (names : List Str) :
    names = names.insertionSort (fun s t => strLe s t = true) ↔
      names.Pairwise fun s t => strLe s t = true := by
  constructor
  · intro h
    have htotal : Std.Total fun s t : Str => strLe s t = true := ⟨strLe_total⟩
    have htrans : IsTrans Str fun s t => strLe s t = true := ⟨fun _ _ _ hst htu => strLe_trans hst htu⟩
    rw [h]
    exact List.pairwise_insertionSort (fun s t : Str => strLe s t = true) names
  · exact fun h => (List.Pairwise.insertionSort_eq h).symm

omit [Interpreter] in
/-- What the validation of a sample requires. -/
theorem PrometheusSample.validate_eq_ok {sample sample' : PrometheusSample} :
    sample.validate = .ok sample' ↔
      sample' = sample ∧ IsIdentifier sample.name ∧
        (∀ label ∈ sample.labels, IsIdentifier label.1) ∧ 0 ≤ sample.value ∧
        sample.labels.Pairwise (fun a b => strLe a.1 b.1 = true) ∧
        (sample.labels.map (·.1)).Nodup := by
  have hsorted := eq_insertionSort_iff (sample.labels.map (·.1))
  rw [List.pairwise_map] at hsorted
  unfold validate
  dsimp only
  constructor
  · intro h
    split_ifs at h with hname hlabels hvalue hnames
    push Not at hnames
    exact ⟨(Except.ok.inj h).symm, hname, hlabels, not_lt.mp hvalue,
      hsorted.mp hnames.1, hnames.2⟩
  · rintro ⟨rfl, hname, hlabels, hvalue, hpairwise, hnodup⟩
    rw [if_neg (not_not.mpr hname), if_neg (not_not.mpr hlabels), if_neg (not_lt.mpr hvalue),
      if_neg]
    exact not_or.mpr ⟨not_not.mpr (hsorted.mpr hpairwise), not_not.mpr hnodup⟩

omit [Interpreter] in
theorem spellsLabel_iff {spelled label : Str × Str} :
    acceptedFormat.SpellsLabel spelled label ↔ ReadsLabel spelled label ∧ IsIdentifier label.1 := by
  constructor
  · rintro ⟨hname, hisName, hlength, hspells⟩
    exact ⟨⟨hname, hisName, hspells⟩, hisName.isMetricName.isIdentifier_iff.mpr hlength⟩
  · rintro ⟨⟨hname, hisName, hspells⟩, hidentifier⟩
    exact ⟨hname, hisName, hisName.isMetricName.isIdentifier_iff.mp hidentifier, hspells⟩

omit [Interpreter] in
theorem forall₂_spellsLabel_iff {spelled : List (Str × Str)} {labels : Labels} :
    List.Forall₂ acceptedFormat.SpellsLabel spelled labels ↔
      List.Forall₂ ReadsLabel spelled labels ∧ ∀ label ∈ labels, IsIdentifier label.1 := by
  constructor
  · intro h
    refine ⟨h.imp fun _ _ hlabel => (spellsLabel_iff.mp hlabel).1, fun label hlabel => ?_⟩
    obtain ⟨_, -, hspells⟩ := exists_of_forall₂_mem h hlabel
    exact (spellsLabel_iff.mp hspells).2
  · rintro ⟨h, hidentifier⟩
    induction h with
    | nil => exact .nil
    | cons hreads _ ih =>
      obtain ⟨hlabel, hmore⟩ := List.forall_mem_cons.mp hidentifier
      exact .cons (spellsLabel_iff.mpr ⟨hreads, hlabel⟩) (ih hmore)

/-- A label set that is read. -/
theorem labelSet_of_parseLabels {raw : Option Str} {labels : Labels}
    (h : parseLabels raw = .ok labels) (hidentifier : ∀ label ∈ labels, IsIdentifier label.1) :
    ∃ inOrder, acceptedFormat.LabelSet (bracesText raw) inOrder ∧ labels.Perm inOrder ∧
      labels.Pairwise fun a b => strLe a.1 b.1 = true := by
  cases raw with
  | none =>
    obtain rfl := Except.ok.inj h
    exact ⟨[], .absent, .refl _, .nil⟩
  | some body =>
    by_cases hempty : body = []
    · subst hempty
      obtain rfl := Except.ok.inj h
      exact ⟨[], .braces .nil (Or.inl rfl) .nil, .refl _, .nil⟩
    · unfold parseLabels at h
      dsimp only at h
      rw [if_neg hempty] at h
      obtain ⟨inOrder, hread, h⟩ := bind_eq_ok.mp h
      split_ifs at h with hnodup
      obtain rfl := Except.ok.inj h
      obtain ⟨spelled, comma, hspelled, hcomma, rfl⟩ := labelsFrom_sound le_rfl hread
      have hperm := List.perm_insertionSort (fun a b : Str × Str => pairLe a b = true) inOrder
      refine ⟨inOrder, ?_, hperm, pairwise_sorted_labels inOrder⟩
      have hset : acceptedFormat.LabelSet
          (123 :: (lit ",").intercalate (spelled.map labelText) ++ comma ++ [125]) inOrder :=
        .braces (forall₂_spellsLabel_iff.mpr
          ⟨hspelled, fun label hlabel => hidentifier label (hperm.mem_iff.mpr hlabel)⟩) hcomma
          hnodup
      simpa [bracesText] using hset

/-- Every label set is read, and sorted. -/
theorem parseLabels_of_labelSet {text : Str} {inOrder labels : Labels}
    (h : acceptedFormat.LabelSet text inOrder) (hperm : labels.Perm inOrder)
    (hsorted : labels.Pairwise fun a b => strLe a.1 b.1 = true) :
    ∃ raw, text = bracesText raw ∧ parseLabels raw = .ok labels ∧
      (∀ label ∈ labels, IsIdentifier label.1) ∧ (labels.map (·.1)).Nodup := by
  cases h with
  | absent =>
    obtain rfl := hperm.eq_nil
    exact ⟨none, rfl, rfl, by simp, .nil⟩
  | @braces spelled _ comma hspelled hcomma hnodup =>
    obtain ⟨hreads, hidentifier⟩ := forall₂_spellsLabel_iff.mp hspelled
    have hnodup' : (labels.map (·.1)).Nodup := (hperm.map _).nodup_iff.mpr hnodup
    have hsort : (inOrder.insertionSort fun a b => pairLe a b = true) = labels := by
      have hsame := List.perm_insertionSort (fun a b : Str × Str => pairLe a b = true) inOrder
      exact (labels_eq_of_perm (hperm.trans hsame.symm) hnodup' hsorted
        (pairwise_sorted_labels inOrder)).symm
    refine ⟨some ((lit ",").intercalate (spelled.map labelText) ++ comma), by simp [bracesText], ?_,
      fun label hlabel => hidentifier label (hperm.mem_iff.mp hlabel), hnodup'⟩
    have hread := labelsFrom_complete hreads hcomma le_rfl
    unfold parseLabels
    dsimp only
    split_ifs with hempty
    · rw [hempty, labelsFrom_nil] at hread
      obtain rfl := Except.ok.inj hread
      rw [hperm.eq_nil]
    · rw [hread]
      exact (if_neg (not_not.mpr hnodup)).trans (congrArg Except.ok hsort)

/-- **A line is read exactly if it is a sample line.** -/
theorem parseSample_eq_ok {line : Str} (hline : 10 ∉ line) {sample : PrometheusSample} :
    parseSample line = .ok sample ↔ acceptedFormat.SampleLine line sample := by
  constructor
  · intro h
    unfold parseSample at h
    split at h
    · cases h
    -- the parts of the line, and then each of them is read
    · next parts hmatch =>
      obtain ⟨spaces, hsplits⟩ := matchSample_eq_some.mp hmatch
      split at h
      · cases h
      · next value hvalue =>
        split_ifs at h with hnegative
        obtain ⟨labels, hlabels, h⟩ := bind_eq_ok.mp h
        -- a sample that validates has a name and labels of its own
        obtain ⟨rfl, hname, hidentifier, -, -, -⟩ := PrometheusSample.validate_eq_ok.mp h
        obtain ⟨inOrder, hset, hperm, hsorted⟩ := labelSet_of_parseLabels hlabels hidentifier
        have hsample : acceptedFormat.SampleLine
            (parts.name ++ bracesText parts.labels ++ spaces ++ parts.value)
            ⟨parts.name, labels, value⟩ :=
          @ExpositionFormat.SampleLine.intro acceptedFormat ⟨parts.name, labels, value⟩ _ _ _ _
            hsplits.name (hsplits.name.isIdentifier_iff.mp hname) hset hperm hsorted
            ⟨hsplits.nonempty, hsplits.isSpace⟩
            ⟨⟨hsplits.value, hsplits.isValue⟩, hvalue, not_lt.mp hnegative⟩
        rw [hsplits.line]
        simpa only [List.append_assoc] using hsample
      · cases h
  · intro h
    cases h with
    | @intro _ braces gap numeral inOrder hname hlength hlabels hperm hsorted hgap hvalue =>
      -- labels that spell the set in some order are parsed to it
      obtain ⟨raw, rfl, hparse, hidentifier, hnodup⟩ :=
        parseLabels_of_labelSet hlabels hperm hsorted
      obtain ⟨⟨hne, hisValue⟩, hread, hnonneg⟩ := hvalue
      -- the line matches the pattern in the one way it can be split
      have hmatch : matchSample (sample.name ++ bracesText raw ++ gap ++ numeral) =
          some ⟨sample.name, raw, numeral⟩ := by
        refine matchSample_eq_some.mpr ⟨gap, ?_, hname, fun body hbody hlf => hline ?_, hgap.1,
          hgap.2, hne, hisValue⟩
        · simp only [List.append_assoc]
        · obtain rfl := hbody
          simp [bracesText, hlf]
      have hvalid : PrometheusSample.validate sample = .ok sample :=
        PrometheusSample.validate_eq_ok.mpr ⟨rfl, hname.isIdentifier_iff.mpr hlength, hidentifier,
          hnonneg, hsorted, hnodup⟩
      unfold parseSample
      rw [hmatch]
      dsimp only
      rw [hread]
      dsimp only
      rw [if_neg (not_lt.mpr hnonneg), hparse]
      exact hvalid

/-! ## Lines -/

omit [Interpreter] in
theorem isPassedOver_iff {line : Str} :
    isPassedOver line = true ↔ line = [] ∨ line.head? = some 35 := by
  simp [isPassedOver]

omit [Interpreter] in
/-- A sample line starts with a name. -/
theorem isPassedOver_of_sampleLine {format : ExpositionFormat} {line : Str}
    {sample : PrometheusSample} (h : format.SampleLine line sample) :
    isPassedOver line = false := by
  cases h with
  | intro hname =>
    obtain ⟨c, rest, heq, hc, -⟩ := hname
    rw [heq, Bool.eq_false_iff, Ne, isPassedOver_iff]
    rintro (hempty | hhead)
    · cases hempty
    · obtain rfl : c = 35 := Option.some.inj hhead
      exact absurd hc (by decide)

/-- The samples of the lines that are not passed over. -/
theorem collect_parseSample {lines : List Str} (hlines : ∀ line ∈ lines, 10 ∉ line)
    {samples : List PrometheusSample} :
    collect parseSample (lines.filter fun line => !isPassedOver line) = .ok samples ↔
      acceptedFormat.SampleLines lines samples := by
  rw [collect_eq_ok]
  constructor
  · intro h
    induction lines generalizing samples with
    | nil =>
      cases h
      exact .nil
    | cons line lines ih =>
      obtain ⟨hline, hmore⟩ := List.forall_mem_cons.mp hlines
      by_cases hpassed : isPassedOver line = true
      · rw [List.filter_cons_of_neg (by simp [hpassed])] at h
        exact .skip (isPassedOver_iff.mp hpassed) (ih hmore h)
      · rw [List.filter_cons_of_pos (by simp [hpassed])] at h
        cases h with
        | cons hsample h => exact .sample ((parseSample_eq_ok hline).mp hsample) (ih hmore h)
  · intro h
    induction h with
    | nil => exact .nil
    | @skip line lines samples hline _ ih =>
      rw [List.filter_cons_of_neg (by simp [isPassedOver_iff.mpr hline])]
      exact ih fun line hline => hlines line (List.mem_cons_of_mem _ hline)
    | @sample line lines sample samples hline _ ih =>
      obtain ⟨hlf, hmore⟩ := List.forall_mem_cons.mp hlines
      rw [List.filter_cons_of_pos (by simp [isPassedOver_of_sampleLine hline])]
      exact .cons ((parseSample_eq_ok hlf).mpr hline) (ih hmore)

/-! ## The parser -/

/-- What the parser accepts. -/
theorem exists_parseExposition_iff {text : Str} {samples : List PrometheusSample} :
    (∃ inventory, parseExposition text = .ok (samples, inventory)) ↔
      acceptedFormat.Exposition text samples := by
  have hlines : ∀ line ∈ splitlines text, 10 ∉ line := by
    intro line hline hlf
    exact unbroken_of_mem_splitlinesFrom (by simp) hline 10 hlf (Or.inl (by omega))
  unfold parseExposition
  constructor
  · rintro ⟨inventory, h⟩
    split_ifs at h with hterminated
    obtain ⟨samples', hcollect, h⟩ := bind_eq_ok.mp h
    split_ifs at h with hsampled
    obtain ⟨rfl, -⟩ := Prod.mk.inj (Except.ok.inj h)
    push Not at hterminated
    exact ⟨hterminated.2, hsampled, (collect_parseSample hlines).mp hcollect⟩
  · rintro ⟨hterminated, hsampled, hread⟩
    have hne : text ≠ [] := by
      rintro rfl
      cases hterminated
    refine ⟨labelInventory samples, ?_⟩
    rw [if_neg (by simp [hne, hterminated]), (collect_parseSample hlines).mpr hread]
    exact if_neg hsampled

theorem labelInventory_of_parseExposition {text : Str} {samples : List PrometheusSample}
    {inventory : List (Str × List Labels)} (h : parseExposition text = .ok (samples, inventory)) :
    inventory = labelInventory samples := by
  unfold parseExposition at h
  split_ifs at h
  obtain ⟨samples', -, h⟩ := bind_eq_ok.mp h
  split_ifs at h
  obtain ⟨rfl, rfl⟩ := Prod.mk.inj (Except.ok.inj h)
  rfl

end

end Stage2
