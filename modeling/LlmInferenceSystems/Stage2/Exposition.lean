import LlmInferenceSystems.Python.FloatText
import LlmInferenceSystems.Python.Mapping
import LlmInferenceSystems.Python.Regex
import LlmInferenceSystems.Stage2.Prometheus
import LlmInferenceSystems.Stage2.PublicSafety

/-!
# Parsing an exposition

A scrape is read line by line: a regular expression splits a sample line, label values are read as
JSON strings and the value as a float. The samples are kept in order, and an inventory lists the
label sets of each name.

## Main definitions

* `matchSample`, `matchLabel`: `_SAMPLE_RE` and `_LABEL_RE`
* `parseLabels`: the label set between the braces
* `labelInventory`: the label sets of each name
* `parseExposition`: the parser

## Main results

* `matchSample_eq_some`: how a sample line is split
* `matchLabel_eq_some`: what a label is
-/

namespace Stage2

open Python

/-! ## The regular expressions -/

/-- `[A-Za-z_]` -/
def isLabelStart (c : ℕ) : Bool := (65 ≤ c && c ≤ 90) || (97 ≤ c && c ≤ 122) || c == 95

/-- `[A-Za-z0-9_]` -/
def isLabelChar (c : ℕ) : Bool := isAsciiAlnum c || c == 95

/-- `[A-Za-z_:]` -/
def isMetricStart (c : ℕ) : Bool := isLabelStart c || c == 58

/-- `[A-Za-z0-9_:]` -/
def isMetricChar (c : ℕ) : Bool := isLabelChar c || c == 58

/-- `(?P<name>[A-Za-z_:][A-Za-z0-9_:]*)` -/
def nameRe : Regex ℕ := .group (.seq (.one isMetricStart) (.rep isMetricChar 0 none))

/-- `\{(?P<labels>.*)\}` -/
def bracesRe : Regex ℕ :=
  .seq (.literal [123]) (.seq (.group (.rep (fun c => c != 10) 0 none)) (.literal [125]))

/-- `\s+(?P<value>[^\s]+)` -/
def valueRe : Regex ℕ :=
  .seq (.rep isSpaceChar 1 none) (.group (.rep (fun c => !isSpaceChar c) 1 none))

/-- `_SAMPLE_RE` -/
def sampleRe : Regex ℕ := .seq nameRe (.seq (.opt bracesRe) valueRe)

/-- The groups of a sample line. -/
structure SampleParts where
  name : Str
  labels : Option Str
  value : Str
deriving DecidableEq

/-- `match.group` of the three names; a group that took no part is `None`. -/
def SampleParts.ofMatch (m : Match ℕ) : Option SampleParts :=
  match m.groups with
  | [name, value] => some ⟨name, none, value⟩
  | [name, labels, value] => some ⟨name, some labels, value⟩
  | _ => none

/-- `_SAMPLE_RE.fullmatch(line)`: the first way to match that reaches the end. -/
def matchSample (line : Str) : Option SampleParts :=
  ((Regex.run isAsciiAlnum sampleRe none line).find? fun m => m.rest.isEmpty).bind
    SampleParts.ofMatch

/-- `(?:\\.|[^"\\])*"`: what stands before the quote, and the text after it. Its characters start
differently, so there is one way to match. -/
def quoted : Str → Option (Str × Str)
  | [] => none
  | 34 :: rest => some ([], rest)
  | [92] => none
  | 92 :: c :: rest => if c = 10 then none else (quoted rest).map fun p => (92 :: c :: p.1, p.2)
  | c :: rest => (quoted rest).map fun p => (c :: p.1, p.2)

/-- What `_LABEL_RE` finds at a place. -/
structure LabelMatch where
  name : Str
  value : Str
  rest : Str

/-- `_LABEL_RE.match(raw, position)`, where the text is what stands from there on. -/
def matchLabel : Str → Option LabelMatch
  | [] => none
  | c :: text =>
    if isLabelStart c then
      match text.dropWhile isLabelChar with
      | 61 :: 34 :: rest =>
        (quoted rest).map fun p => ⟨c :: text.takeWhile isLabelChar, p.1, p.2⟩
      | _ => none
    else none

/-! ## Label sets -/

/-- The order of pairs of texts. -/
def pairLe (a b : Str × Str) : Bool := if a.1 = b.1 then strLe a.2 b.2 else strLe a.1 b.1

/-- The order of tuples of pairs: the first pairs that differ decide. -/
def labelsLe : Labels → Labels → Bool
  | [], _ => true
  | _ :: _, [] => false
  | a :: s, b :: t => if a = b then labelsLe s t else pairLe a b

section

variable [Interpreter]

/-- The loop of `_parse_labels`, where the text is `raw[position:]`. -/
def labelsFrom : ℕ → Str → Except PyError Labels
  | 0, _ => .ok []
  | fuel + 1, text =>
    if text = [] then .ok []
    else
      match matchLabel text with
      | none => .error (.prometheusProtocol "malformed Prometheus label set")
      | some label => do
        let value ← match ← parseJsonLine (34 :: label.value ++ [34]) with
          | none => .error (.prometheusProtocol "malformed Prometheus label escape")
          | some (.str value) => .ok value
          | some _ => .error (.prometheusProtocol "Prometheus label value is not text")
        match label.rest with
        | [] => .ok [(label.name, value)]
        | 44 :: rest => (labelsFrom fuel rest).map ((label.name, value) :: ·)
        | _ => .error (.prometheusProtocol "malformed Prometheus label separator")

/-- `_parse_labels`. Every turn of the loop takes a character. -/
def parseLabels (raw : Option Str) : Except PyError Labels :=
  match raw with
  | none => .ok []
  | some raw =>
    if raw = [] then .ok []
    else do
      let labels ← labelsFrom raw.length raw
      if ¬ (labels.map (·.1)).Nodup then
        .error (.prometheusProtocol "duplicate Prometheus label")
      else .ok (labels.insertionSort fun a b => pairLe a b = true)

/-! ## Samples -/

omit [Interpreter] in
/-- The validation of a `PrometheusSample`. -/
def PrometheusSample.validate (sample : PrometheusSample) : Except PyError PrometheusSample :=
  let names := sample.labels.map (·.1)
  if ¬ IsIdentifier sample.name then .error (.validation "name")
  else if ¬ ∀ label ∈ sample.labels, IsIdentifier label.1 then .error (.validation "labels")
  else if sample.value < 0 then .error (.validation "value")
  else if names ≠ names.insertionSort (fun s t => strLe s t = true) ∨ ¬ names.Nodup then
    .error (.validation "sample labels must be sorted and unique")
  else .ok sample

/-- One turn of the loop of `_parse_exposition`. -/
def parseSample (line : Str) : Except PyError PrometheusSample :=
  match matchSample line with
  | none => .error (.prometheusProtocol "malformed Prometheus sample")
  | some parts =>
    match readFloat parts.value with
    | none => .error (.prometheusProtocol "Prometheus sample value is malformed")
    | some (.finite value) =>
      if value < 0 then
        .error (.prometheusProtocol "Prometheus samples must be finite and nonnegative")
      else do
        let labels ← parseLabels parts.labels
        PrometheusSample.validate { name := parts.name, labels := labels, value := value }
    | some _ => .error (.prometheusProtocol "Prometheus samples must be finite and nonnegative")

end

/-! ## The exposition -/

/-- `inventory.setdefault(name, []).append(labels)` -/
def setdefaultAppend (inventory : List (Str × List Labels)) (sample : PrometheusSample) :
    List (Str × List Labels) :=
  if sample.name ∈ inventory.map (·.1) then
    inventory.map fun entry =>
      if entry.1 = sample.name then (entry.1, entry.2 ++ [sample.labels]) else entry
  else inventory ++ [(sample.name, [sample.labels])]

/-- The label inventory of the samples, names and label sets in order. -/
def labelInventory (samples : List PrometheusSample) : List (Str × List Labels) :=
  (sortFields (samples.foldl setdefaultAppend [])).map fun entry =>
    (entry.1, entry.2.insertionSort fun a b => labelsLe a b = true)

/-- A line that is passed over: `not line or line.startswith("#")` -/
def isPassedOver (line : Str) : Bool := line == [] || line.head? == some 35

/-- `_parse_exposition` -/
def parseExposition [Interpreter] (rawExposition : Str) :
    Except PyError (List PrometheusSample × List (Str × List Labels)) :=
  if rawExposition = [] ∨ rawExposition.getLast? ≠ some 10 then
    .error (.prometheusProtocol "Prometheus exposition must be nonempty and newline terminated")
  else do
    let samples ← collect parseSample
      ((splitlines rawExposition).filter fun line => !isPassedOver line)
    if samples = [] then
      .error (.prometheusProtocol "Prometheus exposition contains no samples")
    else .ok (samples, labelInventory samples)

/-! ## How a sample line is split -/

/-- `[A-Za-z_:][A-Za-z0-9_:]*` -/
def IsMetricName (name : Str) : Prop :=
  ∃ c rest, name = c :: rest ∧ isMetricStart c = true ∧ ∀ d ∈ rest, isMetricChar d = true

/-- The label set with its braces, if there is one. -/
def bracesText : Option Str → Str
  | none => []
  | some body => 123 :: body ++ [125]

/-- The parts of a line, with the white space before the value. -/
structure SampleParts.Splits (parts : SampleParts) (spaces line : Str) : Prop where
  line : line = parts.name ++ (bracesText parts.labels ++ (spaces ++ parts.value))
  name : IsMetricName parts.name
  labels : ∀ body ∈ parts.labels, 10 ∉ body
  nonempty : spaces ≠ []
  isSpace : ∀ c ∈ spaces, isSpaceChar c = true
  value : parts.value ≠ []
  isValue : ∀ c ∈ parts.value, isSpaceChar c = false

theorem mem_run_one {cls : ℕ → Bool} {before : Option ℕ} {input : Str} {m : Match ℕ} :
    m ∈ Regex.run isAsciiAlnum (.one cls) before input ↔
      ∃ c rest, input = c :: rest ∧ cls c = true ∧ m = ⟨[c], rest, []⟩ := by
  cases input with
  | nil => simp [Regex.run]
  | cons c rest =>
    by_cases hc : cls c = true
    · simp [Regex.run, hc]
    · simp [Regex.run, hc]

theorem mem_run_nameRe {before : Option ℕ} {input : Str} {m : Match ℕ} :
    m ∈ Regex.run isAsciiAlnum nameRe before input ↔
      m.text ++ m.rest = input ∧ IsMetricName m.text ∧ m.groups = [m.text] := by
  unfold nameRe
  rw [Regex.mem_run_group]
  constructor
  · rintro ⟨a, ha, rfl⟩
    obtain ⟨first, hfirst, more, hmore, rfl⟩ := Regex.mem_run_seq.mp ha
    obtain ⟨c, rest, rfl, hc, rfl⟩ := mem_run_one.mp hfirst
    obtain ⟨happ, -, hcls, hgroups⟩ := Regex.mem_run_atLeast.mp hmore
    refine ⟨?_, ⟨c, more.text, rfl, hc, hcls⟩, ?_⟩
    · exact congrArg (c :: ·) happ
    · simp [hgroups]
  · rintro ⟨rfl, ⟨c, rest, hname, hc, hrest⟩, hgroups⟩
    obtain ⟨text, after, groups⟩ := m
    obtain rfl : text = c :: rest := hname
    obtain rfl : groups = [c :: rest] := hgroups
    refine ⟨⟨c :: rest, after, []⟩, Regex.mem_run_seq.mpr ?_, rfl⟩
    exact ⟨⟨[c], rest ++ after, []⟩, mem_run_one.mpr ⟨c, rest ++ after, rfl, hc, rfl⟩,
      ⟨rest, after, []⟩, Regex.mem_run_atLeast.mpr ⟨rfl, Nat.zero_le _, hrest, rfl⟩, rfl⟩

theorem mem_run_bracesRe {before : Option ℕ} {input : Str} {m : Match ℕ} :
    m ∈ Regex.run isAsciiAlnum bracesRe before input ↔
      m.text ++ m.rest = input ∧ ∃ body, m.text = bracesText (some body) ∧ 10 ∉ body ∧
        m.groups = [body] := by
  unfold bracesRe
  constructor
  -- the brace, the body and the other brace are taken in turn
  · intro hm
    obtain ⟨first, hfirst, more, hmore, rfl⟩ := Regex.mem_run_seq.mp hm
    obtain ⟨⟨input', rfl⟩, rfl⟩ := Regex.mem_run_literal.mp hfirst
    obtain ⟨captured, hcaptured, last, hlast, rfl⟩ := Regex.mem_run_seq.mp hmore
    obtain ⟨body, hbody, rfl⟩ := Regex.mem_run_group.mp hcaptured
    obtain ⟨happ, -, hcls, hgroups⟩ := Regex.mem_run_atLeast.mp hbody
    obtain ⟨⟨after, hafter⟩, rfl⟩ := Regex.mem_run_literal.mp hlast
    refine ⟨?_, body.text, ?_, ?_, ?_⟩
    · simp only [List.singleton_append, List.drop_succ_cons, List.drop_zero,
        List.length_singleton] at happ hafter ⊢
      rw [← happ, ← hafter]
      simp
    · simp [bracesText]
    -- the body does not run over the end of the line
    · exact fun h => absurd (hcls 10 h) (by decide)
    · simp [hgroups]
  · rintro ⟨rfl, body, htext, hbody, hgroups⟩
    -- the match is its text, what follows, and the body
    obtain ⟨text, after, groups⟩ := m
    obtain rfl : text = 123 :: body ++ [125] := htext
    obtain rfl : groups = [body] := hgroups
    refine Regex.mem_run_seq.mpr ⟨⟨[123], body ++ 125 :: after, []⟩, ?_,
      ⟨body ++ [125], after, [body]⟩, ?_, by simp⟩
    · exact Regex.mem_run_literal.mpr ⟨by simp, by simp⟩
    · refine Regex.mem_run_seq.mpr ⟨⟨body, 125 :: after, [body]⟩, ?_, ⟨[125], after, []⟩, ?_,
        by simp⟩
      · refine Regex.mem_run_group.mpr ⟨⟨body, 125 :: after, []⟩, ?_, rfl⟩
        refine Regex.mem_run_atLeast.mpr ⟨rfl, Nat.zero_le _, fun c hc => ?_, rfl⟩
        have hne : c ≠ 10 := fun heq => hbody (heq ▸ hc)
        simpa using hne
      · exact Regex.mem_run_literal.mpr ⟨by simp, by simp⟩

theorem mem_run_valueRe {before : Option ℕ} {input : Str} {m : Match ℕ} :
    m ∈ Regex.run isAsciiAlnum valueRe before input ↔
      m.text ++ m.rest = input ∧ ∃ spaces value, m.text = spaces ++ value ∧ spaces ≠ [] ∧
        (∀ c ∈ spaces, isSpaceChar c = true) ∧ value ≠ [] ∧
        (∀ c ∈ value, isSpaceChar c = false) ∧ m.groups = [value] := by
  unfold valueRe
  constructor
  · intro hm
    obtain ⟨spaces, hspaces, captured, hcaptured, rfl⟩ := Regex.mem_run_seq.mp hm
    obtain ⟨value, hvalue, rfl⟩ := Regex.mem_run_group.mp hcaptured
    obtain ⟨happ, hlen, hcls, hgroups⟩ := Regex.mem_run_atLeast.mp hspaces
    obtain ⟨happ', hlen', hcls', hgroups'⟩ := Regex.mem_run_atLeast.mp hvalue
    refine ⟨?_, spaces.text, value.text, rfl, List.ne_nil_of_length_pos hlen, hcls,
      List.ne_nil_of_length_pos hlen', fun c hc => ?_, ?_⟩
    · rw [← happ, ← happ', List.append_assoc]
    · simpa using hcls' c hc
    · simp [hgroups, hgroups']
  · rintro ⟨rfl, spaces, value, htext, hne, hspaces, hne', hvalue, hgroups⟩
    obtain ⟨text, after, groups⟩ := m
    obtain rfl : text = spaces ++ value := htext
    obtain rfl : groups = [value] := hgroups
    refine Regex.mem_run_seq.mpr ⟨⟨spaces, value ++ after, []⟩, ?_, ⟨value, after, [value]⟩, ?_,
      rfl⟩
    · exact Regex.mem_run_atLeast.mpr
        ⟨(List.append_assoc _ _ _).symm, List.length_pos_of_ne_nil hne, hspaces, rfl⟩
    · refine Regex.mem_run_group.mpr ⟨⟨value, after, []⟩, ?_, rfl⟩
      refine Regex.mem_run_atLeast.mpr ⟨rfl, List.length_pos_of_ne_nil hne', fun c hc => ?_, rfl⟩
      rw [hvalue c hc]
      rfl

/-- The label set is there or not. -/
theorem mem_run_opt_bracesRe {before : Option ℕ} {input : Str} {m : Match ℕ} :
    m ∈ Regex.run isAsciiAlnum (.opt bracesRe) before input ↔
      m.text ++ m.rest = input ∧ ∃ labels : Option Str, m.text = bracesText labels ∧
        (∀ body ∈ labels, 10 ∉ body) ∧ m.groups = labels.toList := by
  unfold Regex.opt
  rw [Regex.run, List.mem_append, mem_run_bracesRe]
  constructor
  · rintro (⟨happ, body, htext, hbody, hgroups⟩ | hempty)
    · exact ⟨happ, some body, htext, fun _ h => Option.some.inj h ▸ hbody, hgroups⟩
    · obtain rfl := List.mem_singleton.mp hempty
      exact ⟨rfl, none, rfl, fun _ h => absurd h (by simp), rfl⟩
  · rintro ⟨happ, labels, htext, hlabels, hgroups⟩
    cases labels with
    | some body => exact Or.inl ⟨happ, body, htext, hlabels body rfl, hgroups⟩
    | none =>
      obtain ⟨text, after, groups⟩ := m
      obtain rfl : text = [] := htext
      obtain rfl : groups = [] := hgroups
      obtain rfl : after = input := happ
      exact Or.inr (List.mem_singleton.mpr rfl)

/-- What a match that reaches the end says. -/
theorem exists_splits_of_mem_run {line : Str} {m : Match ℕ}
    (hm : m ∈ Regex.run isAsciiAlnum sampleRe none line) (hrest : m.rest = []) :
    ∃ parts spaces, SampleParts.ofMatch m = some parts ∧ parts.Splits spaces line := by
  unfold sampleRe at hm
  obtain ⟨name, hname, more, hmore, rfl⟩ := Regex.mem_run_seq.mp hm
  obtain ⟨braces, hbraces, value, hvalue, rfl⟩ := Regex.mem_run_seq.mp hmore
  obtain ⟨happ, hisName, hgroups⟩ := mem_run_nameRe.mp hname
  obtain ⟨happ', labels, htext, hlabels, hgroups'⟩ := mem_run_opt_bracesRe.mp hbraces
  obtain ⟨happ'', spaces, numeral, htext', hne, hspaces, hne', hvalues, hgroups''⟩ :=
    mem_run_valueRe.mp hvalue
  refine ⟨⟨name.text, labels, numeral⟩, spaces, ?_, ?_, hisName, hlabels, hne, hspaces, hne',
    hvalues⟩
  · unfold SampleParts.ofMatch
    rw [hgroups, hgroups', hgroups'']
    cases labels <;> rfl
  · have hend : value.rest = [] := hrest
    rw [← happ, ← happ', ← happ'', htext, htext', hend, List.append_nil]

theorem exists_mem_run_of_splits {parts : SampleParts} {spaces line : Str}
    (h : parts.Splits spaces line) :
    ∃ m ∈ Regex.run isAsciiAlnum sampleRe none line, m.rest = [] := by
  obtain ⟨rfl, hname, hlabels, hne, hspaces, hne', hvalue⟩ := h
  refine ⟨⟨parts.name ++ (bracesText parts.labels ++ (spaces ++ parts.value)), [],
    [parts.name] ++ (parts.labels.toList ++ [parts.value])⟩, ?_, rfl⟩
  refine Regex.mem_run_seq.mpr ⟨⟨parts.name, _, [parts.name]⟩,
    mem_run_nameRe.mpr ⟨rfl, hname, rfl⟩, ⟨_, [], parts.labels.toList ++ [parts.value]⟩, ?_, rfl⟩
  refine Regex.mem_run_seq.mpr ⟨⟨bracesText parts.labels, _, parts.labels.toList⟩,
    mem_run_opt_bracesRe.mpr ⟨rfl, parts.labels, rfl, hlabels, rfl⟩,
    ⟨spaces ++ parts.value, [], [parts.value]⟩, ?_, rfl⟩
  exact mem_run_valueRe.mpr ⟨List.append_nil _, spaces, parts.value, rfl, hne, hspaces, hne',
    hvalue, rfl⟩

/-- A maximal run at the end is split off. -/
theorem append_maximal_inj {p : ℕ → Bool} {a a' run run' : Str} (h : a ++ run = a' ++ run')
    (hrun : ∀ c ∈ run, p c = true) (hrun' : ∀ c ∈ run', p c = true)
    (ha : a.getLast?.any p = false) (ha' : a'.getLast?.any p = false) : a = a' ∧ run = run' := by
  have hreverse : run.reverse ++ a.reverse = run'.reverse ++ a'.reverse := by
    rw [← List.reverse_append, ← List.reverse_append, h]
  obtain ⟨htake, -⟩ := @takeWhile_maximal _ p run.reverse a.reverse
    (by simpa using hrun) (by rwa [List.head?_reverse])
  obtain ⟨htake', -⟩ := @takeWhile_maximal _ p run'.reverse a'.reverse
    (by simpa using hrun') (by rwa [List.head?_reverse])
  have heq : run = run' := by
    rw [← List.reverse_inj, ← htake, ← htake', hreverse]
  subst heq
  exact ⟨List.append_cancel_right h, rfl⟩

/-- A condition on the last character of a text holds if it does of all in a nonempty end. -/
theorem getLast?_append_any {p : ℕ → Bool} (a : Str) {run : Str} (hne : run ≠ [])
    (hrun : ∀ c ∈ run, p c = false) : (a ++ run).getLast?.any p = false := by
  rw [List.getLast?_append_of_ne_nil a hne, List.getLast?_eq_some_getLast hne]
  exact hrun _ (List.getLast_mem hne)

theorem isSpaceChar_of_isMetricChar {c : ℕ} (h : isMetricChar c = true) :
    isSpaceChar c = false := by
  simp only [isMetricChar, isLabelChar, isAsciiAlnum, Bool.or_eq_true, Bool.and_eq_true,
    decide_eq_true_eq, beq_iff_eq] at h
  simp only [isSpaceChar, Bool.or_eq_false_iff, Bool.and_eq_false_iff, decide_eq_false_iff_not,
    beq_eq_false_iff_ne]
  omega

theorem IsMetricName.isMetricChar {name : Str} (h : IsMetricName name) :
    ∀ c ∈ name, isMetricChar c = true := by
  obtain ⟨c, rest, rfl, hc, hrest⟩ := h
  refine List.forall_mem_cons.mpr ⟨?_, hrest⟩
  simp only [isMetricStart, isLabelStart, Bool.or_eq_true, Bool.and_eq_true, decide_eq_true_eq,
    beq_iff_eq] at hc
  simp only [Stage2.isMetricChar, isLabelChar, isAsciiAlnum, Bool.or_eq_true, Bool.and_eq_true,
    decide_eq_true_eq, beq_iff_eq]
  omega

theorem IsMetricName.ne_nil {name : Str} (h : IsMetricName name) : name ≠ [] := by
  obtain ⟨c, rest, rfl, -, -⟩ := h
  exact List.cons_ne_nil c rest

/-- The name and the label set do not end in white space. -/
theorem getLast?_name_braces {name : Str} (hname : IsMetricName name) (labels : Option Str) :
    (name ++ bracesText labels).getLast?.any isSpaceChar = false := by
  cases labels with
  | none =>
    have hlast := getLast?_append_any [] hname.ne_nil fun c hc =>
      isSpaceChar_of_isMetricChar (hname.isMetricChar c hc)
    rw [bracesText, List.append_nil]
    exact hlast
  | some body =>
    unfold bracesText
    rw [← List.append_assoc, List.getLast?_concat]
    rfl

theorem head?_bracesText (labels : Option Str) :
    (bracesText labels).head?.any isMetricChar = false := by
  cases labels <;> rfl

theorem bracesText_inj {labels labels' : Option Str} (h : bracesText labels = bracesText labels') :
    labels = labels' := by
  cases labels with
  | none =>
    cases labels' with
    | none => rfl
    | some body => simp [bracesText] at h
  | some body =>
    cases labels' with
    | none => simp [bracesText] at h
    | some body' => simpa [bracesText] using h

/-- A line is split in one way: the value is what follows the last white space, and the name ends
where its characters do. -/
theorem SampleParts.Splits.unique {parts parts' : SampleParts} {spaces spaces' line : Str}
    (h : parts.Splits spaces line) (h' : parts'.Splits spaces' line) :
    parts = parts' ∧ spaces = spaces' := by
  have hline : (parts.name ++ bracesText parts.labels ++ spaces) ++ parts.value =
      (parts'.name ++ bracesText parts'.labels ++ spaces') ++ parts'.value := by
    simpa only [List.append_assoc] using h.line.symm.trans h'.line
  -- the value is free of spaces, and what separates it consists of them
  have hvalue : ∀ {text : Str}, (∀ c ∈ text, isSpaceChar c = false) →
      ∀ c ∈ text, (!isSpaceChar c) = true := by
    intro text htext c hc
    rw [htext c hc]
    rfl
  have hspace : ∀ {text : Str}, (∀ c ∈ text, isSpaceChar c = true) →
      ∀ c ∈ text, (!isSpaceChar c) = false := by
    intro text htext c hc
    rw [htext c hc]
    rfl
  -- so the value is the longest end without a space, in both
  obtain ⟨hfront, hvalues⟩ := append_maximal_inj hline (hvalue h.isValue) (hvalue h'.isValue)
    (getLast?_append_any _ h.nonempty (hspace h.isSpace))
    (getLast?_append_any _ h'.nonempty (hspace h'.isSpace))
  obtain ⟨hnames, hspaces⟩ := append_maximal_inj hfront h.isSpace h'.isSpace
    (getLast?_name_braces h.name _) (getLast?_name_braces h'.name _)
  -- and the name is the longest beginning of metric characters
  obtain ⟨htake, hdrop⟩ := takeWhile_maximal h.name.isMetricChar (head?_bracesText parts.labels)
  obtain ⟨htake', hdrop'⟩ :=
    takeWhile_maximal h'.name.isMetricChar (head?_bracesText parts'.labels)
  rw [hnames] at htake hdrop
  have hname : parts.name = parts'.name := htake.symm.trans htake'
  have hlabels : parts.labels = parts'.labels := bracesText_inj (hdrop.symm.trans hdrop')
  refine ⟨?_, hspaces⟩
  obtain ⟨name, labels, value⟩ := parts
  obtain ⟨name', labels', value'⟩ := parts'
  obtain rfl : name = name' := hname
  obtain rfl : labels = labels' := hlabels
  obtain rfl : value = value' := hvalues
  rfl

/-- **How a sample line is split.** -/
theorem matchSample_eq_some {line : Str} {parts : SampleParts} :
    matchSample line = some parts ↔ ∃ spaces, parts.Splits spaces line := by
  have hsound : ∀ {parts}, matchSample line = some parts → ∃ spaces, parts.Splits spaces line := by
    intro parts h
    obtain ⟨m, hm, hparts⟩ := Option.bind_eq_some_iff.mp h
    have hrest : m.rest = [] := by simpa using List.find?_some hm
    obtain ⟨parts', spaces, hparts', hsplits⟩ :=
      exists_splits_of_mem_run (List.mem_of_find?_eq_some hm) hrest
    obtain rfl := Option.some.inj (hparts'.symm.trans hparts)
    exact ⟨spaces, hsplits⟩
  constructor
  · exact hsound
  · rintro ⟨spaces, hsplits⟩
    -- some match reaches the end, and the line is split in one way
    obtain ⟨m, hm, hrest⟩ := exists_mem_run_of_splits hsplits
    have hfound : ((Regex.run isAsciiAlnum sampleRe none line).find? fun m =>
        m.rest.isEmpty).isSome := List.find?_isSome.mpr ⟨m, hm, by simp [hrest]⟩
    obtain ⟨m', hm'⟩ := Option.isSome_iff_exists.mp hfound
    obtain ⟨parts', spaces', hparts', hsplits'⟩ := exists_splits_of_mem_run
      (List.mem_of_find?_eq_some hm') (by simpa using List.find?_some hm')
    rw [matchSample, hm', (hsplits.unique hsplits').1]
    exact hparts'

/-! ## What a label is -/

/-- `(?:\\.|[^"\\])*`: pairs of a backslash and any character, and other characters than quotes. -/
inductive QuotedBody : Str → Prop
  | nil : QuotedBody []
  | pair {c : ℕ} {body : Str} (hc : c ≠ 10) (h : QuotedBody body) : QuotedBody (92 :: c :: body)
  | plain {c : ℕ} {body : Str} (hc : c ≠ 92) (hquote : c ≠ 34) (h : QuotedBody body) :
      QuotedBody (c :: body)

theorem quoted_complete {body : Str} (h : QuotedBody body) (rest : Str) :
    quoted (body ++ 34 :: rest) = some (body, rest) := by
  induction h with
  | nil => rfl
  | pair hc _ ih =>
    rw [List.cons_append, List.cons_append, quoted, if_neg hc, ih]
    rfl
  | plain hc hquote _ ih =>
    rw [List.cons_append, quoted, ih]
    · rfl
    · exact hquote
    · rintro rfl _
      exact hc rfl
    · rintro _ _ rfl _
      exact hc rfl

theorem quoted_sound {text body rest : Str} (h : quoted text = some (body, rest)) :
    text = body ++ 34 :: rest ∧ QuotedBody body := by
  fun_induction quoted text generalizing body with
  | case1 => cases h
  | case2 rest' =>
    obtain ⟨rfl, rfl⟩ := Prod.mk.inj (Option.some.inj h)
    exact ⟨rfl, .nil⟩
  | case3 => cases h
  | case4 rest' => cases h
  | case5 c rest' hc ih =>
    obtain ⟨⟨inner, after⟩, hinner, heq⟩ := Option.map_eq_some_iff.mp h
    obtain ⟨rfl, rfl⟩ := Prod.mk.inj heq
    obtain ⟨rfl, hbody⟩ := ih hinner
    exact ⟨rfl, .pair hc hbody⟩
  | case6 c rest' hquote hlast hpair ih =>
    obtain ⟨⟨inner, after⟩, hinner, heq⟩ := Option.map_eq_some_iff.mp h
    obtain ⟨rfl, rfl⟩ := Prod.mk.inj heq
    obtain ⟨rfl, hbody⟩ := ih hinner
    refine ⟨rfl, .plain ?_ hquote hbody⟩
    -- what follows a backslash is read with it
    rintro rfl
    rcases inner with _ | ⟨d, inner⟩
    · exact hpair 34 after rfl rfl
    · exact hpair d (inner ++ 34 :: after) rfl rfl

/-- `[A-Za-z_][A-Za-z0-9_]*` -/
def IsLabelName (name : Str) : Prop :=
  ∃ c rest, name = c :: rest ∧ isLabelStart c = true ∧ ∀ d ∈ rest, isLabelChar d = true

/-- **What a label is.** -/
theorem matchLabel_eq_some {text : Str} {label : LabelMatch} :
    matchLabel text = some label ↔
      text = label.name ++ 61 :: 34 :: label.value ++ 34 :: label.rest ∧
        IsLabelName label.name ∧ QuotedBody label.value := by
  constructor
  · intro h
    -- a label begins with a character of a name
    rcases text with _ | ⟨c, text⟩
    · cases h
    · unfold matchLabel at h
      dsimp only at h
      split_ifs at h with hc
      split at h
      · next rest hdrop =>
        -- after the name come the equals sign and the quoted value
        obtain ⟨⟨value, after⟩, hquoted, rfl⟩ := Option.map_eq_some_iff.mp h
        obtain ⟨rfl, hbody⟩ := quoted_sound hquoted
        refine ⟨?_, ⟨c, text.takeWhile isLabelChar, rfl, hc,
          fun d hd => List.mem_takeWhile_imp hd⟩, hbody⟩
        conv_lhs => rw [← List.takeWhile_append_dropWhile (p := isLabelChar) (l := text), hdrop]
        simp
      · cases h
  · obtain ⟨name, value, rest⟩ := label
    rintro ⟨rfl, ⟨c, more, hname, hc, hmore⟩, hbody⟩
    obtain rfl : name = c :: more := hname
    -- the name is the longest run of its characters, and the equals sign is none of them
    obtain ⟨htake, hdrop⟩ := takeWhile_maximal hmore
      (rfl : (61 :: 34 :: (value ++ 34 :: rest) : Str).head?.any isLabelChar = false)
    have htext : c :: more ++ 61 :: 34 :: value ++ 34 :: rest =
        c :: (more ++ 61 :: 34 :: (value ++ 34 :: rest)) := by simp
    have hquoted : quoted (value ++ 34 :: rest) = some (value, rest) := quoted_complete hbody rest
    rw [htext, matchLabel, if_pos hc, hdrop, htake]
    exact congrArg (Option.map _) hquoted

end Stage2
