import LlmInferenceSystems.CanonicalLines
import LlmInferenceSystems.Stage2.BundleRecords

/-!
# Evidence as lines of JSON

A list of records is written as one line of canonical JSON for each. The reader splits the octets at
line breaks and validates every line on its own.

## Main definitions

* `EvidenceModel`: a model as it is written and read
* `jsonlBytes`, `parseJsonl`: the writer and the reader
* `RoundTrips`: what is written is read back

## Main results

* `EvidenceModel.Lawful.roundTrips`: every model round-trips, as far as its integers can be written
-/

namespace Stage1

open Python Stage2

/-- A model as it is written and read. -/
structure EvidenceModel (α : Type) where
  /-- `model_dump`, normalised -/
  dump : α → Json
  /-- The reading of the fields, with the validators. -/
  ofJson : Json → Option α
  /-- What the validators require. -/
  Valid : α → Prop
  /-- The floats that are written. -/
  floats : α → List ℚ

variable {α : Type}

/-- A record that was written is read, and its text is that of a JSON value. -/
structure EvidenceModel.Lawful [Interpreter] (M : EvidenceModel α) : Prop where
  reads : ∀ record, M.Valid record → M.ofJson (M.dump record).sortKeys = some record
  readable : ∀ record, M.Valid record → intsShort (M.dump record) = true →
    (∀ q ∈ M.floats record, Json.FloatReads q) → Json.Readable 64 (M.dump record)

section

variable [Interpreter]

/-- `_jsonl_bytes` -/
def jsonlBytes (M : EvidenceModel α) (models : List α) : Except PyError Bytes :=
  (collect (fun model => (PyValue.encode (M.dump model)).map (· ++ [10])) models).map List.flatten

/-- `_parse_jsonl` -/
def parseJsonl (M : EvidenceModel α) (data : Bytes) : Except PyError (List α) :=
  if data = [] ∨ data.getLast? ≠ some 10 then
    .error (.value "JSONL artifact must be nonempty and newline terminated")
  else
    collect (fun line =>
      if line = [] then .error (.value "JSONL artifact cannot contain blank records")
      else modelValidateJson M.ofJson line) (bytesSplitlines data)

/-- **What is written is read back.** A list of valid records without lone surrogates has octets
exactly when its integers can be written; then the reader returns the list. The reader never returns
another number of records. -/
def RoundTrips (M : EvidenceModel α) : Prop :=
  ∀ models : List α, (∀ model ∈ models, M.Valid model ∧ JsonEncodable (M.dump model) ∧
      ∀ q ∈ M.floats model, Json.FloatReads q) →
    (Returns (jsonlBytes M models) ↔ ∀ model ∈ models, intsShort (M.dump model) = true) ∧
      ∀ data, jsonlBytes M models = .ok data →
        (models ≠ [] → parseJsonl M data = .ok models) ∧
          ∀ models', parseJsonl M data = .ok models' → models'.length = models.length

/-- Records whose integers can be written are read back. -/
theorem RoundTrips.exists_read {M : EvidenceModel α} (h : RoundTrips M) {models : List α}
    (hne : models ≠ []) (hmodels : ∀ model ∈ models, M.Valid model ∧ JsonEncodable (M.dump model) ∧
      ∀ q ∈ M.floats model, Json.FloatReads q)
    (hshort : ∀ model ∈ models, intsShort (M.dump model) = true) :
    ∃ data, jsonlBytes M models = .ok data ∧ parseJsonl M data = .ok models := by
  obtain ⟨hwritten, hread⟩ := h models hmodels
  obtain ⟨data, hdata⟩ := hwritten.mpr hshort
  exact ⟨data, hdata, (hread data hdata).1 hne⟩

/-- The octets of a record. -/
theorem exists_encode {value : Json} (h : JsonEncodable value) (hshort : intsShort value = true) :
    ∃ octets, PyValue.encode value = .ok octets := by
  obtain ⟨text, htext, hscalar⟩ := exists_jsonText h
  obtain ⟨octets, hoctets⟩ := exists_utf8Encode hscalar
  exact ⟨octets, PyValue.encode_eq_ok.mpr ⟨hshort, text, htext, hoctets⟩⟩

/-- The octets of a record are one line, which is not empty and is read as the record. -/
theorem EvidenceModel.Lawful.line {M : EvidenceModel α} (h : M.Lawful) {model : α}
    (hvalid : M.Valid model) (hfloats : ∀ q ∈ M.floats model, Json.FloatReads q) {line : Bytes}
    (hline : PyValue.encode (M.dump model) = .ok line) :
    line ≠ [] ∧ UnbrokenOctets line ∧ modelValidateJson M.ofJson line = .ok model := by
  obtain ⟨hshort, text, htext, hoctets⟩ := PyValue.encode_eq_ok.mp hline
  have hreadable := h.readable model hvalid hshort hfloats
  have hjson := Json.readJson_jsonText (hreadable.mono Interpreter.jsonDepth_ge) htext hoctets
    (show ∀ c ∈ [], Json.isSpace c = true by simp)
  rw [List.map_nil, List.append_nil] at hjson
  refine ⟨?_, unbroken_encode hreadable hline, ?_⟩
  · rintro rfl
    cases hjson
  · rw [modelValidateJson, hjson, Option.bind_some, h.reads model hvalid]

/-- What the writer returns. -/
theorem jsonlBytes_eq_ok {M : EvidenceModel α} {models : List α} {data : Bytes} :
    jsonlBytes M models = .ok data ↔ ∃ lines,
      List.Forall₂ (fun model line => PyValue.encode (M.dump model) = .ok line) models lines ∧
        data = (lines.map (· ++ [10])).flatten := by
  unfold jsonlBytes
  constructor
  · intro h
    obtain ⟨parts, hparts, rfl⟩ := exists_of_map_eq_ok h
    have hall := collect_eq_ok.mp hparts
    clear h hparts
    induction hall with
    | nil => exact ⟨[], .nil, rfl⟩
    | cons hline _ ih =>
      obtain ⟨lines, hlines, hdata⟩ := ih
      obtain ⟨line, hencode, rfl⟩ := exists_of_map_eq_ok hline
      refine ⟨line :: lines, .cons hencode hlines, ?_⟩
      rw [List.flatten_cons, hdata]
      rfl
  · rintro ⟨lines, hlines, rfl⟩
    have hparts : collect (fun model => (PyValue.encode (M.dump model)).map (· ++ [10])) models =
        .ok (lines.map (· ++ [10])) := by
      rw [collect_eq_ok, List.forall₂_map_right_iff]
      exact hlines.imp fun _ _ hline => by rw [hline]; rfl
    rw [hparts]
    rfl

/-- **Every lawful model round-trips.** -/
theorem EvidenceModel.Lawful.roundTrips {M : EvidenceModel α} (h : M.Lawful) : RoundTrips M := by
  intro models hmodels
  refine ⟨⟨?_, ?_⟩, fun data hdata => ?_⟩
  · rintro ⟨data, hdata⟩ model hmodel
    obtain ⟨lines, hlines, -⟩ := jsonlBytes_eq_ok.mp hdata
    obtain ⟨line, -, hline⟩ := exists_of_forall₂_mem hlines.flip hmodel
    exact (PyValue.encode_eq_ok.mp hline).1
  · intro hshort
    obtain ⟨lines, hlines⟩ := exists_forall₂ fun model hmodel =>
      exists_encode (hmodels model hmodel).2.1 (hshort model hmodel)
    exact ⟨_, jsonlBytes_eq_ok.mpr ⟨lines, hlines, rfl⟩⟩
  · obtain ⟨lines, hlines, rfl⟩ := jsonlBytes_eq_ok.mp hdata
    -- each line is read on its own
    have hread : List.Forall₂ (fun line model =>
        line ≠ [] ∧ UnbrokenOctets line ∧ modelValidateJson M.ofJson line = .ok model)
        lines models :=
      (forall₂_imp_of_mem hlines fun model hmodel line hline =>
        h.line (hmodels model hmodel).1 (hmodels model hmodel).2.2 hline).flip
    have hsplit : bytesSplitlines (lines.map (· ++ [10])).flatten = lines :=
      bytesSplitlines_lines fun line hline => by
        obtain ⟨model, -, -, hunbroken, -⟩ := exists_of_forall₂_mem hread.flip hline
        exact hunbroken
    have hparse : models ≠ [] → parseJsonl M (lines.map (· ++ [10])).flatten = .ok models := by
      intro hne
      obtain ⟨init, last, hlast⟩ : ∃ init last, lines = init ++ [last] := by
        have hlines : lines ≠ [] := by
          rintro rfl
          cases hread
          exact hne rfl
        exact ⟨_, _, (List.dropLast_append_getLast hlines).symm⟩
      have hend : (lines.map (· ++ [10])).flatten =
          (init.map (· ++ [10])).flatten ++ last ++ [10] := by
        rw [hlast]
        simp
      have hterminated : ¬ ((lines.map (· ++ [(10 : UInt8)])).flatten = [] ∨
          (lines.map (· ++ [10])).flatten.getLast? ≠ some 10) := by
        rw [hend]
        simp
      unfold parseJsonl
      rw [if_neg hterminated, hsplit, collect_eq_ok]
      exact hread.imp fun line model hline => by rw [if_neg hline.1, hline.2.2]
    refine ⟨hparse, fun models' hmodels' => ?_⟩
    rcases eq_or_ne models [] with rfl | hne
    · obtain rfl : lines = [] := by
        cases hlines
        rfl
      simp [parseJsonl] at hmodels'
    · rw [hparse hne] at hmodels'
      rw [Except.ok.inj hmodels']

end

end Stage1
