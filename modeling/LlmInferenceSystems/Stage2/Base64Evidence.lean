import LlmInferenceSystems.Python.JsonPairs
import LlmInferenceSystems.Stage2.BundleWrites
import LlmInferenceSystems.Stage2.TextLines

/-!
# Base64 fields of evidence

Evidence that is written has been searched in the strings that are themselves values of `*_base64`
keys, in the dictionaries that its documents are read into. A string deeper in such a value, one
under a pair that a later pair with the same key replaces, and one on a line that `splitlines` breaks
up are not among them.

## Main definitions

* `evidenceDocuments`: the documents of a text, with all their pairs
* `IsClean`: what a string decodes to is not private
* `EvidenceDocument.Unseen`: the places that are not searched

## Main results

* `mem_visit`: the strings that are found in a document
* `base64Evidence_clean_iff`: accepted evidence is clean exactly when it is at the places that are
  not searched
-/

namespace Stage2

open Python Json

/-- `key.endswith("_base64")` -/
def isBase64Key (key : Str) : Bool := (lit "_base64").isSuffixOf key

/-! ## What is found -/

/-- What is found below a field of a dictionary. -/
theorem visit_field {fuel : ℕ} {fields : List (Str × Json)} {texts : List Str}
    (h : visit fuel (.obj fields) = .ok texts) {f : Str × Json} (hf : f ∈ fields) :
    (∀ text ∈ decodedField f.1 f.2, text ∈ texts) ∧
      ∃ fuel inner, visit fuel f.2 = .ok inner ∧ ∀ text ∈ inner, text ∈ texts := by
  cases fuel with
  | zero => cases h
  | succ fuel =>
    rw [visit] at h
    obtain ⟨found, hfound, rfl⟩ := exists_of_map_eq_ok h
    obtain ⟨both, hboth, hmap⟩ := exists_of_forall₂_mem (collect_eq_ok.mp hfound).flip hf
    obtain ⟨inner, hinner, rfl⟩ := exists_of_map_eq_ok hmap
    exact ⟨fun text htext => List.mem_flatten.mpr ⟨_, hboth, List.mem_append_left _ htext⟩,
      fuel, inner, hinner,
      fun text htext => List.mem_flatten.mpr ⟨_, hboth, List.mem_append_right _ htext⟩⟩

/-- What is found below an item of a list. -/
theorem visit_item {fuel : ℕ} {items : List Json} {texts : List Str}
    (h : visit fuel (.arr items) = .ok texts) {item : Json} (hitem : item ∈ items) :
    ∃ fuel inner, visit fuel item = .ok inner ∧ ∀ text ∈ inner, text ∈ texts := by
  cases fuel with
  | zero => cases h
  | succ fuel =>
    rw [visit] at h
    obtain ⟨found, hfound, rfl⟩ := exists_of_map_eq_ok h
    obtain ⟨inner, hin, hinner⟩ := exists_of_forall₂_mem (collect_eq_ok.mp hfound).flip hitem
    exact ⟨fuel, inner, hinner, fun text htext => List.mem_flatten.mpr ⟨inner, hin, htext⟩⟩

/-- **A string directly under a `*_base64` key is found.** -/
theorem mem_visit {fuel : ℕ} {value : Json} {texts : List Str} {text : Str} {raw : Bytes}
    (h : visit fuel (merge value) = .ok texts) (hunder : DirectlyUnder isBase64Key text value)
    (hraw : b64decodeCanonical text = some raw) : utf8Replace raw ∈ texts := by
  induction hunder generalizing fuel texts with
  | value hlast hkey =>
    rw [merge] at h
    refine (visit_field h (merge_mem_dictOf hlast)).1 _ ?_
    unfold isBase64Key at hkey
    simp [merge, decodedField, hkey, hraw]
  | field hlast _ ih =>
    rw [merge] at h
    obtain ⟨-, fuel', inner, hinner, hsub⟩ := visit_field h (merge_mem_dictOf hlast)
    exact hsub _ (ih hinner)
  | item hitem _ ih =>
    rw [merge, mergeItems_eq_map] at h
    obtain ⟨fuel', inner, hinner, hsub⟩ := visit_item h (List.mem_map_of_mem hitem)
    exact hsub _ (ih hinner)

section

variable [Interpreter]

/-! ## Documents -/

/-- A document with all its pairs; `broken` tells that it is one of several and that there is a
separator of lines in it. -/
structure EvidenceDocument where
  value : Json
  broken : Bool

/-- The document on a line of its own. -/
def evidenceDocument (line : Str) : Option EvidenceDocument :=
  match loadsPairs Interpreter.jsonDepth (chomp line) with
  | .ok value => some ⟨value, decide (∃ c ∈ chomp line, IsLineSeparator c)⟩
  | .error _ => none

/-- The documents of a text that is one, or a list of them on lines of their own. Lines of white
space are skipped. -/
def evidenceDocuments (text : Str) : Option (List EvidenceDocument) :=
  match loadsPairs Interpreter.jsonDepth text with
  | .ok value => some [⟨value, false⟩]
  | .error .decode =>
    ((text.splitOn 10).filter fun line => !(chomp line).all isSpaceChar).mapM evidenceDocument
  | .error _ => none

/-- If the string is canonical Base64, what it decodes to matches none of the patterns. -/
def IsClean (text : Str) : Prop :=
  ∀ raw, b64decodeCanonical text = some raw →
    ∀ pattern ∈ sensitiveEvidencePatterns, pattern.occurs (utf8Replace raw) = false

/-- The string is at no place of the document that is searched: it is deeper in the values of
`*_base64` keys, or below a pair that a later one replaces, or the line is broken up. -/
def EvidenceDocument.Unseen (document : EvidenceDocument) (text : Str) : Prop :=
  document.broken = true ∨ ¬ DirectlyUnder isBase64Key text document.value

/-- The document is read into a dictionary. -/
theorem parseJsonLine_of_loadsPairs {line : Str} {value : Json}
    (h : loadsPairs Interpreter.jsonDepth line = .ok value) :
    parseJsonLine line = .ok (some (merge value)) := by
  unfold parseJsonLine
  rw [loads_dictOf, h]
  rfl

theorem parseJsonLine_of_decode {line : Str}
    (h : loadsPairs Interpreter.jsonDepth line = .error .decode) :
    parseJsonLine line = .ok none := by
  unfold parseJsonLine
  rw [loads_dictOf, h]
  rfl

/-- What is found in a document that is not broken up. -/
theorem mem_decodedBase64EvidenceTexts {text : Str} {decoded : List Str}
    (h : decodedBase64EvidenceTexts text = .ok decoded) {documents : List EvidenceDocument}
    (hdocuments : evidenceDocuments text = some documents) {document : EvidenceDocument}
    (hdocument : document ∈ documents) (hbroken : document.broken = false) :
    ∃ fuel found, visit fuel (merge document.value) = .ok found ∧
      ∀ field ∈ found, field ∈ decoded := by
  unfold decodedBase64EvidenceTexts at h
  unfold evidenceDocuments at hdocuments
  split at hdocuments
  · next value hvalue =>
    obtain rfl := Option.some.inj hdocuments
    obtain rfl := List.mem_singleton.mp hdocument
    rw [parseJsonLine_of_loadsPairs hvalue] at h
    obtain ⟨found, hfound, rfl⟩ := exists_of_map_eq_ok h
    obtain ⟨texts, htexts, hvisit⟩ :=
      exists_of_forall₂_mem (collect_eq_ok.mp hfound).flip (List.mem_singleton_self (merge value))
    exact ⟨_, texts, hvisit, fun field hfield => List.mem_flatten.mpr ⟨texts, htexts, hfield⟩⟩
  · next hdecode =>
    rw [parseJsonLine_of_decode hdecode] at h
    obtain ⟨_, hnone, h⟩ := bind_eq_ok.mp h
    obtain rfl := Except.ok.inj hnone
    obtain ⟨values, hvalues, h⟩ := bind_eq_ok.mp h
    obtain ⟨parsed, hparsed, rfl⟩ := exists_of_map_eq_ok hvalues
    obtain ⟨found, hfound, rfl⟩ := exists_of_map_eq_ok h
    -- the line of the document is one of those that are read
    obtain ⟨line, hline, hdoc⟩ := exists_of_mapM_eq_some hdocuments hdocument
    obtain ⟨hline, hnonblank⟩ := List.mem_filter.mp hline
    have hmem : merge document.value ∈ parsed.filterMap id := by
      unfold evidenceDocument at hdoc
      split at hdoc
      · next value hvalue =>
        obtain rfl := Option.some.inj hdoc
        have hunbroken : ∀ c ∈ chomp line, ¬ IsLineSeparator c := by simpa using hbroken
        have hne : chomp line ≠ [] := by
          rintro hempty
          simp [hempty] at hnonblank
        have hpiece : chomp line ∈ (splitlines text).filter fun line => !line.all isSpaceChar :=
          List.mem_filter.mpr ⟨chomp_mem_splitlines hline hne hunbroken, hnonblank⟩
        obtain ⟨read, hread, hparse⟩ :=
          exists_of_forall₂_mem (collect_eq_ok.mp hparsed).flip hpiece
        replace hparse : parseJsonLine (chomp line) = .ok read := hparse
        rw [parseJsonLine_of_loadsPairs hvalue] at hparse
        obtain rfl := Except.ok.inj hparse
        exact List.mem_filterMap.mpr ⟨_, hread, rfl⟩
      · cases hdoc
    obtain ⟨texts, htexts, hvisit⟩ := exists_of_forall₂_mem (collect_eq_ok.mp hfound).flip hmem
    exact ⟨_, texts, hvisit, fun field hfield => List.mem_flatten.mpr ⟨texts, htexts, hfield⟩⟩
  · cases hdocuments

/-- What is searched in a text that is accepted. -/
theorem isClean_of_directlyUnder {text : Str} (h : requirePublicSafeEvidence text = .ok ())
    {documents : List EvidenceDocument} (hdocuments : evidenceDocuments text = some documents)
    {document : EvidenceDocument} (hdocument : document ∈ documents)
    (hbroken : document.broken = false) {field : Str}
    (hunder : DirectlyUnder isBase64Key field document.value) : IsClean field := by
  unfold requirePublicSafeEvidence at h
  obtain ⟨decoded, hdecoded, hscan⟩ := bind_eq_ok.mp h
  split_ifs at hscan with hfree
  obtain ⟨fuel, found, hfound, hsub⟩ :=
    mem_decodedBase64EvidenceTexts hdecoded hdocuments hdocument hbroken
  intro raw hraw pattern hpattern
  have hmem : utf8Replace raw ∈ decoded := hsub _ (mem_visit hfound hunder hraw)
  by_contra hoccurs
  refine hfree (List.any_eq_true.mpr ⟨_, List.mem_cons_of_mem _ hmem, ?_⟩)
  exact List.any_eq_true.mpr ⟨pattern, hpattern, Bool.not_eq_false _ ▸ hoccurs⟩

/-- What is written has been searched. -/
theorem requirePublicSafeEvidence_of_checkEvidence {builder : Stage2BundleBuilder} {start : String}
    {relative : Str} {data : Bytes} {path : PurePosixPath} {text : Str}
    (h : checkEvidence builder start relative data = .ok path)
    (htext : utf8Decode data = some text) : requirePublicSafeEvidence text = .ok () := by
  unfold checkEvidence at h
  obtain ⟨_, _, h⟩ := bind_eq_ok.mp h
  obtain ⟨_, _, h⟩ := bind_eq_ok.mp h
  rw [htext] at h
  split_ifs at h
  obtain ⟨_, hsafe, _⟩ := bind_eq_ok.mp h
  exact hsafe

/-- **The scan of evidence.** When a text is accepted, what the canonical Base64 strings in the
values of its `*_base64` keys decode to is free of private material if and only if that is so of the
strings at places that are not searched. -/
theorem base64Evidence_clean_iff (setting : BundleSetting) (start : String) (relative : Str)
    (data : Bytes) (m m' : Machine Stage2BundleBuilder) (text : Str)
    (documents : List EvidenceDocument)
    (hwrite : setting.writeEvidence start relative data m = (.ok (), m'))
    (htext : utf8Decode data = some text) (hdocuments : evidenceDocuments text = some documents) :
    (∀ document ∈ documents, ∀ field, UnderKey isBase64Key field document.value →
      IsClean field) ↔
    ∀ document ∈ documents, ∀ field, UnderKey isBase64Key field document.value →
      document.Unseen field → IsClean field := by
  obtain ⟨path, m₁, m₂, bytes, hwritten⟩ :=
    (setting.writeEvidence_triple m start relative data).returned_of rfl hwrite
  have hpublic := requirePublicSafeEvidence_of_checkEvidence hwritten.file.checked htext
  constructor
  · intro h document hdocument field hunder _
    exact h document hdocument field hunder
  · intro h document hdocument field hunder
    by_cases hunseen : document.Unseen field
    · exact h document hdocument field hunder hunseen
    · -- the string is searched
      unfold EvidenceDocument.Unseen at hunseen
      push Not at hunseen
      exact isClean_of_directlyUnder hpublic hdocuments hdocument (by simpa using hunseen.1)
        hunseen.2

end

/-! ## Samples -/

section

attribute [local instance] cpython

/-- A text that is written into a new bundle. -/
def sampleEvidence (text : Str) : Except Stop Unit × Machine Stage2BundleBuilder :=
  sampleSetting.writeRaw (lit "raw/a.json") (text.map UInt8.ofNat)
    (sampleSetting.create emptyBundle).2

/-- A document with a field that is Base64 of `abc`. -/
def directEvidence : Json := .obj [(lit "a_base64", .str (lit "YWJj"))]

/-- A document with a list of one field, which is Base64 of `loan-application`. -/
def nestedEvidence : Json :=
  .obj [(lit "a_base64", .arr [.str (lit "bG9hbi1hcHBsaWNhdGlvbg==")])]

/-- A document that is written as such is the only one of its text. -/
theorem evidenceDocuments_jsonText {value : Json} {text : Str}
    (h : Readable Interpreter.jsonDepth value) (ht : jsonText value = some text) :
    evidenceDocuments text = some [⟨value.sortKeys, false⟩] := by
  have hspaces : ∀ c ∈ ([] : Str), isSpace c = true := fun c hc => absurd hc List.not_mem_nil
  have hloads : loadsPairs Interpreter.jsonDepth (text ++ []) = .ok value.sortKeys :=
    loads_jsonText (fun _ _ => rfl) h ht hspaces
  rw [List.append_nil] at hloads
  unfold evidenceDocuments
  rw [hloads]

theorem base64Evidence_clean_iff_directEvidence : ∃ m',
    sampleEvidence (lit "\x7b\"a_base64\":\"YWJj\"\x7d") = (.ok (), m') ∧
      ∀ field, UnderKey isBase64Key field directEvidence → IsClean field := by
  obtain ⟨m', hwrite⟩ : ∃ m', sampleEvidence (lit "\x7b\"a_base64\":\"YWJj\"\x7d") = (.ok (), m') :=
    ⟨_, Prod.ext (by decide +kernel) rfl⟩
  -- the octets are the JSON text of the object
  have hdocuments : evidenceDocuments (lit "\x7b\"a_base64\":\"YWJj\"\x7d") =
      some [⟨directEvidence, false⟩] := by
    have hreadable : Readable (0 + 1) directEvidence := by
      refine .obj (by decide) fun f hf => ?_
      rw [List.mem_singleton.mp hf]
      exact .str _
    exact evidenceDocuments_jsonText (hreadable.mono (by decide)) (by decide +kernel)
  refine ⟨m', hwrite, fun field => ?_⟩
  refine (base64Evidence_clean_iff sampleSetting "raw" (lit "raw/a.json") _ _ _ _ _ hwrite
    (by decide +kernel) hdocuments).mpr ?_ _ List.mem_cons_self _
  -- the object has one string, which no other key hides
  intro document hdocument field hunder hunseen
  obtain rfl := List.mem_singleton.mp hdocument
  rcases hunseen with hbroken | hdeeper
  · cases hbroken
  · -- its one string is the value of the key
    cases hunder with
    | value hf hkey hin =>
      obtain rfl := List.mem_singleton.mp hf
      cases hin
      have hdirect : DirectlyUnder isBase64Key (lit "YWJj")
          (.obj ([] ++ (lit "a_base64", .str (lit "YWJj")) :: [])) := .value List.not_mem_nil hkey
      exact absurd hdirect hdeeper
    | field hf hin =>
      obtain rfl := List.mem_singleton.mp hf
      cases hin

/-- A private text is accepted in a list. -/
theorem exists_written_not_clean : ∃ m' text documents,
    sampleEvidence text = (.ok (), m') ∧
    utf8Decode (text.map UInt8.ofNat) = some text ∧
    evidenceDocuments text = some documents ∧
    ∃ document ∈ documents, ∃ field, UnderKey isBase64Key field document.value ∧
      ¬ IsClean field := by
  obtain ⟨m', hwrite⟩ : ∃ m',
      sampleEvidence (lit "\x7b\"a_base64\":[\"bG9hbi1hcHBsaWNhdGlvbg==\"]\x7d") = (.ok (), m') :=
    ⟨_, Prod.ext (by decide +kernel) rfl⟩
  have hdocuments : evidenceDocuments
      (lit "\x7b\"a_base64\":[\"bG9hbi1hcHBsaWNhdGlvbg==\"]\x7d") =
        some [⟨nestedEvidence, false⟩] := by
    have hreadable : Readable (0 + 1 + 1) nestedEvidence := by
      refine .obj (by decide) fun f hf => ?_
      rw [List.mem_singleton.mp hf]
      refine .arr fun item hitem => ?_
      rw [List.mem_singleton.mp hitem]
      exact .str _
    exact evidenceDocuments_jsonText (hreadable.mono (by decide)) (by decide +kernel)
  refine ⟨m', _, _, hwrite, by decide +kernel, hdocuments, _, List.mem_cons_self,
    lit "bG9hbi1hcHBsaWNhdGlvbg==", ?_, ?_⟩
  · exact .value List.mem_cons_self (by decide) (.item List.mem_cons_self (.here _))
  · intro hclean
    have hraw : b64decodeCanonical (lit "bG9hbi1hcHBsaWNhdGlvbg==") =
        some ((lit "loan-application").map UInt8.ofNat) := by decide +kernel
    have hfree := hclean _ hraw
    revert hfree
    decide +kernel

end

end Stage2
