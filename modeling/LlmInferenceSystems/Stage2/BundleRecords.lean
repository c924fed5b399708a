import LlmInferenceSystems.CanonicalValues
import LlmInferenceSystems.Python.PosixPath
import LlmInferenceSystems.Stage2.RawLogs

/-!
# The records of a bundle

A bundle directory holds one control record: the state record until it is committed, the manifest
from then on. Both are strict models, written as canonical JSON with a line feed and read back by
`model_validate_json`.

## Main definitions

* `BundleStateRecord`, `BundleFileEntry`, `Stage2BundleManifest`: the models, each with what its
  validators require
* `modelValidateJson`: `model_validate_json`
* `Timestamps`: timestamps, as pydantic reads what `isoformat` writes

## Main results

* `BundleStateRecord.modelValidateJson_line`, `Stage2BundleManifest.modelValidateJson_line`: a
  written record is read back
-/

namespace Stage2

open Python

/-! ## Strict models -/

/-- `Model.model_validate_json(data)` over the reading of the model's fields. -/
def modelValidateJson [Interpreter] {α : Type} (read : Json → Option α) (data : Bytes) :
    Except PyError α :=
  match (Json.readJson data).bind read with
  | some value => .ok value
  | none => .error (.validation "model_validate_json")

/-- **A value that was written as a line is read back** in key order. -/
theorem modelValidateJson_line [Interpreter] {α : Type} {read : Json → Option α} {value : Json}
    {data : Bytes} {x : α} (hreadable : Json.Readable 64 value)
    (hline : (PyValue.encode value).map (· ++ [10]) = .ok data)
    (hread : read value.sortKeys = some x) : modelValidateJson read data = .ok x := by
  obtain ⟨octets, hencode, rfl⟩ := exists_of_map_eq_ok hline
  obtain ⟨-, text, htext, hutf8⟩ := PyValue.encode_eq_ok.mp hencode
  have hjson : Json.readJson (octets ++ [10]) = some value.sortKeys :=
    Json.readJson_jsonText (hreadable.mono Interpreter.jsonDepth_ge) htext hutf8
      (show ∀ c ∈ [10], Json.isSpace c = true by decide)
  rw [modelValidateJson, hjson, Option.bind_some, hread]

/-- A field of an object in key order. -/
theorem field_sortKeys {fields : List (Str × Json)} (h : (fields.map (·.1)).Nodup)
    (name : String) :
    Json.field ((sortFields fields).map fun f => (f.1, f.2.sortKeys)) name =
      (Json.field fields name).map Json.sortKeys := by
  rw [Json.field, lookup_map_values, lookup_sortFields h, Json.field]

/-- The fields of an object that has no others than these; `extra="forbid"`. -/
def strictFields (names : List String) : Json → Option (List (Str × Json))
  | .obj fields => if ∀ f ∈ fields, f.1 ∈ names.map lit then some fields else none
  | _ => none

theorem strictFields_sortKeys {names : List String} {fields : List (Str × Json)}
    (h : ∀ f ∈ fields, f.1 ∈ names.map lit) :
    strictFields names (Json.obj fields).sortKeys =
      some ((sortFields fields).map fun f => (f.1, f.2.sortKeys)) := by
  rw [Json.sortKeys_obj, strictFields, if_pos]
  rw [List.forall_mem_map]
  intro f hf
  exact h f (mem_sortFields.mp hf)

/-- A strict string. -/
def readStr : Json → Option Str
  | .str text => some text
  | _ => none

/-- An `int`, which a `bool` is not here. -/
def readInt : Json → Option ℤ
  | .int n => some n
  | _ => none

/-- `NonNegativeInt` -/
def readNat (value : Json) : Option ℕ :=
  (readInt value).bind fun n => if n < 0 then none else some n.toNat

/-- `T | None` -/
def readOptional {α : Type} (read : Json → Option α) : Json → Option (Option α)
  | .null => some none
  | value => (read value).map some

/-- A value that a validator takes. -/
def validated {α : Type} (p : α → Prop) [DecidablePred p] (x : α) : Option α :=
  if p x then some x else none

/-! ## The state record -/

/-- `BundleState` -/
inductive BundleState where
  | incomplete
  | invalid
  | committed
deriving DecidableEq

/-- The value of a state. -/
def BundleState.value : BundleState → String
  | .incomplete => "INCOMPLETE"
  | .invalid => "INVALID"
  | .committed => "COMMITTED"

/-- `BundleStateRecord` -/
structure BundleStateRecord where
  state : BundleState
  phase : Str
  reason : Option Str
  lastValidBoundary : Option Str
  sequence : ℕ
deriving DecidableEq

namespace BundleStateRecord

/-- What the fields' types and `validate_reason` require. -/
structure Valid (record : BundleStateRecord) : Prop where
  state : record.state ≠ .committed
  phase : IsIdentifier record.phase
  reason : ∀ reason ∈ record.reason, IsIdentifier reason
  boundary : ∀ boundary ∈ record.lastValidBoundary, IsIdentifier boundary
  terminal : record.state = .invalid ↔ record.reason ≠ none

instance (record : BundleStateRecord) : Decidable record.Valid :=
  decidable_of_iff
    (record.state ≠ .committed ∧ IsIdentifier record.phase ∧
      (∀ reason ∈ record.reason, IsIdentifier reason) ∧
      (∀ boundary ∈ record.lastValidBoundary, IsIdentifier boundary) ∧
      (record.state = .invalid ↔ record.reason ≠ none))
    ⟨fun ⟨h₁, h₂, h₃, h₄, h₅⟩ => ⟨h₁, h₂, h₃, h₄, h₅⟩, fun h => ⟨h.1, h.2, h.3, h.4, h.5⟩⟩

/-- `model_dump` of a state record, by its fields -/
def dumpFields (record : BundleStateRecord) : List (Str × Json) :=
  [(lit "state", .str (lit record.state.value)),
    (lit "phase", .str record.phase),
    (lit "reason", record.reason.elim .null .str),
    (lit "last_valid_boundary", record.lastValidBoundary.elim .null .str),
    (lit "sequence", .int record.sequence)]

/-- `model_dump`, normalised -/
def dump (record : BundleStateRecord) : Json := .obj record.dumpFields

/-- `canonical_json_bytes(record) + b"\n"` -/
def line [Interpreter] (record : BundleStateRecord) : Except PyError Bytes :=
  (PyValue.encode record.dump).map (· ++ [10])

/-- `Literal[BundleState.INCOMPLETE, BundleState.INVALID]` -/
def readState (value : Json) : Option BundleState :=
  (readStr value).bind fun text =>
    if text = lit BundleState.incomplete.value then some .incomplete
    else if text = lit BundleState.invalid.value then some .invalid
    else none

/-- `model_validate_json` of a state record, from the JSON it reads -/
def ofJson (value : Json) : Option BundleStateRecord := do
  let fields ← strictFields ["state", "phase", "reason", "last_valid_boundary", "sequence"] value
  let record : BundleStateRecord :=
    { state := ← (Json.field fields "state").bind readState
      phase := ← (Json.field fields "phase").bind readStr
      reason := ← (Json.field fields "reason").bind (readOptional readStr)
      lastValidBoundary := ← (Json.field fields "last_valid_boundary").bind (readOptional readStr)
      sequence := ← (Json.field fields "sequence").bind readNat }
  validated Valid record

/-- A record that was read is valid. -/
theorem valid_of_modelValidateJson [Interpreter] {data : Bytes} {record : BundleStateRecord}
    (h : modelValidateJson ofJson data = .ok record) : record.Valid := by
  unfold modelValidateJson at h
  split at h
  · next value hread =>
    obtain rfl := Except.ok.inj h
    obtain ⟨json, -, hjson⟩ := Option.bind_eq_some_iff.mp hread
    simp only [ofJson, validated, Option.bind_eq_bind, Option.bind_eq_some_iff] at hjson
    obtain ⟨_, -, _, -, _, -, _, -, _, -, _, -, hvalid⟩ := hjson
    split at hvalid
    · next hrecord =>
      obtain rfl := Option.some.inj hvalid
      exact hrecord
    · cases hvalid
  · cases h

/-- The texts of a record are read as they are. -/
theorem readOptional_elim (text : Option Str) :
    readOptional readStr (Json.sortKeys (text.elim .null .str)) = some text := by
  cases text <;> rfl

theorem readState_value {state : BundleState} (h : state ≠ .committed) :
    readState (.str (lit state.value)) = some state := by
  cases state with
  | incomplete => decide
  | invalid => decide
  | committed => exact absurd rfl h

theorem ofJson_dump {record : BundleStateRecord} (h : record.Valid) :
    ofJson record.dump.sortKeys = some record := by
  have hkeys : ((dumpFields record).map (·.1)).Nodup := by
    show [lit "state", lit "phase", lit "reason", lit "last_valid_boundary", lit "sequence"].Nodup
    decide
  have hstrict : strictFields ["state", "phase", "reason", "last_valid_boundary", "sequence"]
      record.dump.sortKeys =
        some ((sortFields (dumpFields record)).map fun f => (f.1, f.2.sortKeys)) := by
    apply strictFields_sortKeys
    simp only [dumpFields, List.forall_mem_cons, List.not_mem_nil, false_implies, implies_true,
      and_true]
    decide
  have hstate : Json.field (dumpFields record) "state" = some (.str (lit record.state.value)) := rfl
  have hphase : Json.field (dumpFields record) "phase" = some (.str record.phase) := rfl
  have hreason : Json.field (dumpFields record) "reason" =
      some (record.reason.elim .null .str) := rfl
  have hboundary : Json.field (dumpFields record) "last_valid_boundary" =
      some (record.lastValidBoundary.elim .null .str) := rfl
  have hsequence : Json.field (dumpFields record) "sequence" =
      some (.int record.sequence) := rfl
  have hnat : readNat (.int record.sequence) = some record.sequence := by
    simp [readNat, readInt]
  unfold ofJson
  simp only [hstrict, field_sortKeys hkeys, hstate, hphase, hreason, hboundary, hsequence,
    Option.map_some, Option.bind_eq_bind, Option.bind_some, readOptional_elim, Json.sortKeys,
    readState_value h.state, hnat, readStr]
  exact if_pos h

/-- **A written record is read back.** -/
theorem modelValidateJson_line [Interpreter] {record : BundleStateRecord} (h : record.Valid)
    {data : Bytes} (hline : record.line = .ok data) :
    modelValidateJson ofJson data = .ok record := by
  refine Stage2.modelValidateJson_line ?_ hline (ofJson_dump h)
  have hshort : (intsShort record.dump) = true := by
    obtain ⟨octets, hencode, -⟩ := exists_of_map_eq_ok hline
    exact (PyValue.encode_eq_ok.mp hencode).1
  have hint : (record.sequence : ℤ).natAbs < maxInt := by
    exact natAbs_lt_of_intsShort (fieldsShort_iff.mp hshort
      (lit "sequence", .int record.sequence) (by simp [dumpFields]))
  refine Json.Readable.mono (.obj ?_ ?_) (show 1 ≤ 64 by decide)
  · show [lit "state", lit "phase", lit "reason", lit "last_valid_boundary", lit "sequence"].Nodup
    decide
  · simp only [dumpFields, List.forall_mem_cons, List.not_mem_nil, false_implies, implies_true,
      and_true]
    refine ⟨.str _, .str _, ?_, ?_, .int hint⟩
    · cases record.reason with
      | none => exact .null
      | some reason => exact .str reason
    · cases record.lastValidBoundary with
      | none => exact .null
      | some boundary => exact .str boundary

/-- The texts of a record and its number are short. -/
theorem length_field_le [Interpreter] {record : BundleStateRecord} (h : record.Valid)
    (hshort : (record.sequence : ℤ).natAbs < maxInt) :
    ∀ f ∈ record.dumpFields, f.1.length ≤ 19 ∧
      ∀ value, jsonText f.2 = some value → value.length ≤ 4301 := by
  -- a text of 160 characters is written with escapes of six at most
  have hstring : ∀ text value : Str, text.length ≤ 160 → jsonText (.str text) = some value →
      value.length ≤ 4301 := by
    intro text value htext hvalue
    obtain rfl := Option.some.inj hvalue
    have := Json.length_jsonString_le text
    omega
  have hoptional : ∀ (text : Option Str) (value : Str), (∀ t ∈ text, IsIdentifier t) →
      jsonText (text.elim .null .str) = some value → value.length ≤ 4301 := by
    intro text value htext hvalue
    cases text with
    | none =>
      obtain rfl := Option.some.inj hvalue
      decide
    | some text => exact hstring text value (htext text rfl).2.1 hvalue
  -- field by field: the phase, the reason and the boundary are identifiers, the rest is short
  simp only [dumpFields, List.forall_mem_cons, List.not_mem_nil, false_implies, implies_true,
    and_true]
  refine ⟨⟨by decide, fun value => hstring _ value ?_⟩,
    ⟨by decide, fun value => hstring _ value h.phase.2.1⟩,
    ⟨by decide, fun value => hoptional _ value h.reason⟩,
    ⟨by decide, fun value => hoptional _ value h.boundary⟩, by decide, ?_⟩
  · cases record.state <;> decide
  · intro value hvalue
    obtain rfl := Option.some.inj hvalue
    unfold maxInt at hshort
    -- a number below the limit has 4300 digits at most
    have hdigits := Json.length_decimal_le (show 0 < 4300 by decide) hshort
    rw [jsonInt, if_neg (by omega), List.nil_append]
    omega

theorem lt_of_line [Interpreter] {record : BundleStateRecord} {data : Bytes}
    (hline : record.line = .ok data) : record.sequence < maxInt := by
  obtain ⟨octets, hencode, -⟩ := exists_of_map_eq_ok hline
  have hshort := natAbs_lt_of_intsShort (fieldsShort_iff.mp
    (PyValue.encode_eq_ok.mp hencode).1 (lit "sequence", .int record.sequence)
      (by simp [dumpFields]))
  rwa [Int.natAbs_natCast] at hshort

/-- A record has a line unless its number is too long. -/
theorem exists_line [Interpreter] {record : BundleStateRecord} (h : record.Valid)
    (hshort : record.sequence < maxInt) : ∃ data, record.line = .ok data := by
  have hoptional : ∀ text : Option Str, (∀ t ∈ text, IsIdentifier t) →
      JsonEncodable (text.elim .null .str) ∧
        intsShort (text.elim .null .str) = true := by
    intro text htext
    cases text with
    | none => exact ⟨trivial, rfl⟩
    | some text => exact ⟨(htext text rfl).2.2, rfl⟩
  have hencodable : JsonEncodable record.dump := by
    rw [dump, JsonEncodable, fieldsEncodable_iff]
    simp only [dumpFields, List.forall_mem_cons, List.not_mem_nil, false_implies, implies_true,
      and_true]
    exact ⟨⟨encodable_lit _, encodable_lit _⟩, ⟨encodable_lit _, h.phase.2.2⟩,
      ⟨encodable_lit _, (hoptional _ h.reason).1⟩, ⟨encodable_lit _, (hoptional _ h.boundary).1⟩,
      encodable_lit _, trivial⟩
  have hints : intsShort record.dump = true := by
    rw [dump, intsShort, fieldsShort_iff]
    simp only [dumpFields, List.forall_mem_cons, List.not_mem_nil, false_implies, implies_true,
      and_true]
    refine ⟨rfl, rfl, (hoptional _ h.reason).2, (hoptional _ h.boundary).2, ?_⟩
    rw [intsShort, Int.natAbs_natCast]
    exact decide_eq_true hshort
  obtain ⟨text, htext, henc⟩ := exists_jsonText hencodable
  obtain ⟨octets, hoctets⟩ := exists_utf8Encode henc
  exact ⟨octets ++ [10], by
    rw [line, PyValue.encode_eq_ok.mpr ⟨hints, text, htext, hoctets⟩]
    rfl⟩

/-- A record that has no line fails in the encoding. -/
theorem line_error [Interpreter] {record : BundleStateRecord} {e : PyError}
    (h : record.line = .error e) : e ≠ .os ∧ e.isStage2Bundle = false := by
  have hencode : ∀ e, PyValue.encode record.dump = .error e →
      e ≠ .os ∧ e.isStage2Bundle = false := by
    intro e he
    unfold PyValue.encode at he
    split at he
    · obtain rfl := Except.error.inj he
      exact ⟨by simp, rfl⟩
    · split at he
      · obtain rfl := Except.error.inj he
        exact ⟨by simp, rfl⟩
      · split at he
        · obtain rfl := Except.error.inj he
          exact ⟨by simp, rfl⟩
        · cases he
  rw [line] at h
  cases hdump : PyValue.encode record.dump with
  | ok data =>
    rw [hdump] at h
    cases h
  | error e' =>
    rw [hdump] at h
    obtain rfl : e' = e := Except.error.inj h
    exact hencode e' hdump

theorem line_ne_os [Interpreter] {record : BundleStateRecord} : record.line ≠ .error .os :=
  fun h => (line_error h).1 rfl

/-- The line of a record is never too long for a file. -/
theorem length_line_le [Interpreter] {record : BundleStateRecord} (h : record.Valid)
    {data : Bytes} (hline : record.line = .ok data) : data.length ≤ 200000 := by
  obtain ⟨octets, hencode, rfl⟩ := exists_of_map_eq_ok hline
  obtain ⟨hshort, text, htext, hutf8⟩ := PyValue.encode_eq_ok.mp hencode
  obtain ⟨texts, htexts, rfl⟩ := Option.map_eq_some_iff.mp htext
  have hvalues := Json.jsonFieldTexts_eq_some.mp htexts
  have hint : (record.sequence : ℤ).natAbs < maxInt :=
    natAbs_lt_of_intsShort (fieldsShort_iff.mp hshort
      (lit "sequence", .int record.sequence) (by simp [dumpFields]))
  have hfields : ∀ t ∈ texts, (Json.fieldText t).length ≤ 5000 := by
    intro t ht
    obtain ⟨f, hf, hkey, hvalue⟩ := exists_of_forall₂_mem hvalues ht
    obtain ⟨hkeylength, hvaluelength⟩ := length_field_le h hint f hf
    have hle := hvaluelength t.2 hvalue
    have hquoted := Json.length_jsonString_le t.1
    rw [Json.fieldText, List.length_append, List.length_append, show (lit ":").length = 1 from rfl]
    rw [hkey] at hkeylength
    omega
  have hlength : texts.length = 5 := hvalues.length_eq.symm
  have hjoined := Json.length_jsonFields_le hfields
  have hbytes := length_utf8Encode_le hutf8
  rw [hlength] at hjoined
  simp only [List.length_append, List.length_singleton, show (lit "\x7b").length = 1 from rfl,
    show (lit "\x7d").length = 1 from rfl] at hbytes ⊢
  omega

end BundleStateRecord

/-! ## The manifest -/

/-- `BundleFileEntry` -/
structure BundleFileEntry where
  path : Str
  sha256 : Str
  size : ℕ
deriving DecidableEq

namespace BundleFileEntry

/-- What the fields' types and `validate_path` require. -/
structure Valid (entry : BundleFileEntry) : Prop where
  normal : entry.path = (PurePosixPath.ofStr entry.path).asPosix
  relative : ¬ (PurePosixPath.ofStr entry.path).isAbsolute
  confined : lit ".." ∉ (PurePosixPath.ofStr entry.path).parts
  nonempty : (PurePosixPath.ofStr entry.path).parts ≠ []
  digest : IsSha256 entry.sha256

instance (entry : BundleFileEntry) : Decidable entry.Valid :=
  decidable_of_iff
    (entry.path = (PurePosixPath.ofStr entry.path).asPosix ∧
      ¬ (PurePosixPath.ofStr entry.path).isAbsolute ∧
      lit ".." ∉ (PurePosixPath.ofStr entry.path).parts ∧
      (PurePosixPath.ofStr entry.path).parts ≠ [] ∧ IsSha256 entry.sha256)
    ⟨fun ⟨h₁, h₂, h₃, h₄, h₅⟩ => ⟨h₁, h₂, h₃, h₄, h₅⟩, fun h => ⟨h.1, h.2, h.3, h.4, h.5⟩⟩

/-- `model_dump` of an entry, by its fields -/
def dumpFields (entry : BundleFileEntry) : List (Str × Json) :=
  [(lit "path", .str entry.path), (lit "sha256", .str entry.sha256), (lit "size", .int entry.size)]

/-- `model_dump` -/
def dump (entry : BundleFileEntry) : Json := .obj entry.dumpFields

/-- `path` is any `str` of Python, but a reader of JSON takes no lone surrogate. -/
def ofJson (value : Json) : Option BundleFileEntry := do
  let fields ← strictFields ["path", "sha256", "size"] value
  let entry : BundleFileEntry :=
    { path := ← ((Json.field fields "path").bind readStr).filter (decide <| IsEncodable ·)
      sha256 := ← (Json.field fields "sha256").bind readStr
      size := ← (Json.field fields "size").bind readNat }
  validated Valid entry

theorem nodup_dumpFields (entry : BundleFileEntry) : (entry.dumpFields.map (·.1)).Nodup := by
  show [lit "path", lit "sha256", lit "size"].Nodup
  decide

theorem ofJson_dump {entry : BundleFileEntry} (h : entry.Valid)
    (hencodable : IsEncodable entry.path) :
    ofJson entry.dump.sortKeys = some entry := by
  have hkeys := nodup_dumpFields entry
  have hstrict : strictFields ["path", "sha256", "size"] entry.dump.sortKeys =
      some ((sortFields (dumpFields entry)).map fun f => (f.1, f.2.sortKeys)) := by
    apply strictFields_sortKeys
    simp only [dumpFields, List.forall_mem_cons, List.not_mem_nil, false_implies, implies_true,
      and_true]
    decide
  have hpath : Json.field (dumpFields entry) "path" = some (.str entry.path) := rfl
  have hsha256 : Json.field (dumpFields entry) "sha256" = some (.str entry.sha256) := rfl
  have hsize : Json.field (dumpFields entry) "size" = some (.int entry.size) := rfl
  have hnat : readNat (.int entry.size) = some entry.size := by
    simp [readNat, readInt]
  unfold ofJson
  simp only [hstrict, field_sortKeys hkeys, hpath, hsha256, hsize, Option.map_some,
    Option.bind_eq_bind, Option.bind_some, Json.sortKeys, hnat, readStr, Option.filter_some,
    decide_eq_true hencodable, if_true]
  exact if_pos h

theorem readable_dump {entry : BundleFileEntry} [Interpreter]
    (h : intsShort entry.dump = true) : Json.Readable 1 entry.dump := by
  have hint := natAbs_lt_of_intsShort (fieldsShort_iff.mp h
    (lit "size", .int entry.size) (by simp [dumpFields]))
  refine .obj (nodup_dumpFields entry) ?_
  simp only [dumpFields, List.forall_mem_cons, List.not_mem_nil, false_implies, implies_true,
    and_true]
  exact ⟨.str _, .str _, .int hint⟩

end BundleFileEntry

/-- Aware timestamps: the text `isoformat` gives one in UTC, to the microsecond and with a `Z`, and
what pydantic reads from a text. -/
class Timestamps where
  Timestamp : Type
  /-- `utcoffset() == timedelta(0)` -/
  isUtc : Timestamp → Bool
  isoformat : Timestamp → Str
  parse : Str → Option Timestamp
  isoformat_ascii : ∀ t, ∀ c ∈ isoformat t, c < 128
  /-- What was written is read. -/
  parse_isoformat : ∀ t, isUtc t = true → parse (isoformat t) = some t

/-- One moment. -/
@[reducible] def sampleTimestamps : Timestamps where
  Timestamp := Unit
  isUtc _ := true
  isoformat _ := lit "2026-01-01T00:00:00.000001Z"
  parse text := if text = lit "2026-01-01T00:00:00.000001Z" then some () else none
  isoformat_ascii := by
    intro t
    decide
  parse_isoformat := by
    intro t _
    rfl

/-- A `str` of 40 small hexadecimal digits. -/
def IsCommit (text : Str) : Prop := text.length = 40 ∧ ∀ c ∈ text, isHexDigit c

instance (text : Str) : Decidable (IsCommit text) := inferInstanceAs (Decidable (_ ∧ _))

section

variable [Timestamps]

/-- The manifest, without the fields that are constant. -/
structure Stage2BundleManifest where
  repetitionIndex : ℤ
  sourceCommit : Str
  createdAtUtc : Timestamps.Timestamp
  files : List BundleFileEntry
  reconstructionSha256 : Str

namespace Stage2BundleManifest

/-- What the fields' types and `validate_manifest` require. -/
structure Valid (manifest : Stage2BundleManifest) : Prop where
  repetition : 1 ≤ manifest.repetitionIndex ∧ manifest.repetitionIndex ≤ 3
  commit : IsCommit manifest.sourceCommit
  utc : Timestamps.isUtc manifest.createdAtUtc = true
  nonempty : manifest.files ≠ []
  entries : ∀ entry ∈ manifest.files, entry.Valid
  digest : IsSha256 manifest.reconstructionSha256
  sorted : (manifest.files.map (·.path)).Pairwise fun a b => strLe a b = true
  unique : (manifest.files.map (·.path)).Nodup
  notItself : lit "evidence-manifest.json" ∉ manifest.files.map (·.path)

instance (manifest : Stage2BundleManifest) : Decidable manifest.Valid :=
  decidable_of_iff
    ((1 ≤ manifest.repetitionIndex ∧ manifest.repetitionIndex ≤ 3) ∧
      IsCommit manifest.sourceCommit ∧ Timestamps.isUtc manifest.createdAtUtc = true ∧
      manifest.files ≠ [] ∧ (∀ entry ∈ manifest.files, entry.Valid) ∧
      IsSha256 manifest.reconstructionSha256 ∧
      ((manifest.files.map (·.path)).Pairwise fun a b => strLe a b = true) ∧
      (manifest.files.map (·.path)).Nodup ∧
      lit "evidence-manifest.json" ∉ manifest.files.map (·.path))
    ⟨fun ⟨h₁, h₂, h₃, h₄, h₅, h₆, h₇, h₈, h₉⟩ => ⟨h₁, h₂, h₃, h₄, h₅, h₆, h₇, h₈, h₉⟩,
      fun h => ⟨h.1, h.2, h.3, h.4, h.5, h.6, h.7, h.8, h.9⟩⟩

/-- `model_dump` of a manifest, by its fields -/
def dumpFields (manifest : Stage2BundleManifest) : List (Str × Json) :=
  [(lit "schema_version", .str (lit "0.3.0")),
    (lit "measurement_protocol_version", .str (lit "0.3.0")),
    (lit "state", .str (lit BundleState.committed.value)),
    (lit "repetition_index", .int manifest.repetitionIndex),
    (lit "source_commit", .str manifest.sourceCommit),
    (lit "created_at_utc", .str (Timestamps.isoformat manifest.createdAtUtc)),
    (lit "files", .arr (manifest.files.map BundleFileEntry.dump)),
    (lit "reconstruction_sha256", .str manifest.reconstructionSha256)]

/-- `model_dump`, normalised -/
def dump (manifest : Stage2BundleManifest) : Json := .obj manifest.dumpFields

/-- `canonical_json_bytes(manifest) + b"\n"` -/
def line [Interpreter] (manifest : Stage2BundleManifest) : Except PyError Bytes :=
  (PyValue.encode manifest.dump).map (· ++ [10])

/-- A tuple of file entries. -/
def readFiles : Json → Option (List BundleFileEntry)
  | .arr items => items.mapM BundleFileEntry.ofJson
  | _ => none

/-- `model_validate_json` of a manifest, from the JSON it reads -/
def ofJson (value : Json) : Option Stage2BundleManifest := do
  let fields ← strictFields ["schema_version", "measurement_protocol_version", "state",
    "repetition_index", "source_commit", "created_at_utc", "files", "reconstruction_sha256"] value
  let literal (name value : String) : Bool :=
    (Json.field fields name).bind readStr = some (lit value)
  guard (literal "schema_version" "0.3.0" ∧ literal "measurement_protocol_version" "0.3.0" ∧
    literal "state" BundleState.committed.value)
  let manifest : Stage2BundleManifest :=
    { repetitionIndex := ← (Json.field fields "repetition_index").bind readInt
      sourceCommit := ← (Json.field fields "source_commit").bind readStr
      createdAtUtc := ← ((Json.field fields "created_at_utc").bind readStr).bind Timestamps.parse
      files := ← (Json.field fields "files").bind readFiles
      reconstructionSha256 := ← (Json.field fields "reconstruction_sha256").bind readStr }
  validated Valid manifest

theorem nodup_dumpFields (manifest : Stage2BundleManifest) :
    (manifest.dumpFields.map (·.1)).Nodup := by
  show [lit "schema_version", lit "measurement_protocol_version", lit "state",
    lit "repetition_index", lit "source_commit", lit "created_at_utc", lit "files",
    lit "reconstruction_sha256"].Nodup
  decide

omit [Timestamps] in
theorem readFiles_dump {files : List BundleFileEntry}
    (h : ∀ entry ∈ files, entry.Valid ∧ IsEncodable entry.path) :
    readFiles (Json.arr (files.map BundleFileEntry.dump)).sortKeys = some files := by
  rw [Json.sortKeys_arr, readFiles, List.map_map]
  induction files with
  | nil => rfl
  | cons entry files ih =>
    obtain ⟨hentry, hfiles⟩ := List.forall_mem_cons.mp h
    rw [List.map_cons, List.mapM_cons, Function.comp_apply,
      BundleFileEntry.ofJson_dump hentry.1 hentry.2,
      ih hfiles]
    rfl

theorem ofJson_dump {manifest : Stage2BundleManifest} (h : manifest.Valid)
    (hencodable : ∀ entry ∈ manifest.files, IsEncodable entry.path) :
    ofJson manifest.dump.sortKeys = some manifest := by
  have hkeys := nodup_dumpFields manifest
  -- the dumped fields are those the model declares
  have hstrict : strictFields ["schema_version", "measurement_protocol_version", "state",
      "repetition_index", "source_commit", "created_at_utc", "files", "reconstruction_sha256"]
      manifest.dump.sortKeys =
        some ((sortFields (dumpFields manifest)).map fun f => (f.1, f.2.sortKeys)) := by
    apply strictFields_sortKeys
    simp only [dumpFields, List.forall_mem_cons, List.not_mem_nil, false_implies, implies_true,
      and_true]
    decide
  -- each of them is found with its value
  have hschema : Json.field (dumpFields manifest) "schema_version" =
      some (.str (lit "0.3.0")) := rfl
  have hprotocol : Json.field (dumpFields manifest) "measurement_protocol_version" =
      some (.str (lit "0.3.0")) := rfl
  have hstate : Json.field (dumpFields manifest) "state" =
      some (.str (lit BundleState.committed.value)) := rfl
  have hrepetition : Json.field (dumpFields manifest) "repetition_index" =
      some (.int manifest.repetitionIndex) := rfl
  have hcommit : Json.field (dumpFields manifest) "source_commit" =
      some (.str manifest.sourceCommit) := rfl
  have hcreated : Json.field (dumpFields manifest) "created_at_utc" =
      some (.str (Timestamps.isoformat manifest.createdAtUtc)) := rfl
  have hfiles : Json.field (dumpFields manifest) "files" =
      some (.arr (manifest.files.map BundleFileEntry.dump)) := rfl
  have hdigest : Json.field (dumpFields manifest) "reconstruction_sha256" =
      some (.str manifest.reconstructionSha256) := rfl
  -- so each is read back, and the manifest that they make is valid
  unfold ofJson
  simp only [hstrict, field_sortKeys hkeys, hschema, hprotocol, hstate, hrepetition, hcommit,
    hcreated, hfiles, hdigest, Option.map_some, Option.bind_eq_bind, Option.bind_some,
    readFiles_dump fun entry hentry => ⟨h.entries entry hentry, hencodable entry hentry⟩]
  simp only [Json.sortKeys, readStr, readInt, Option.bind_some, decide_true, and_self, guard,
    if_true, Option.pure_def, Timestamps.parse_isoformat _ h.utc]
  exact if_pos h

/-- The paths of a manifest that is written are encodable. -/
theorem encodable_of_line [Interpreter] {manifest : Stage2BundleManifest} {data : Bytes}
    (hline : manifest.line = .ok data) : ∀ entry ∈ manifest.files, IsEncodable entry.path := by
  obtain ⟨octets, hencode, -⟩ := exists_of_map_eq_ok hline
  obtain ⟨-, text, htext, hutf8⟩ := PyValue.encode_eq_ok.mp hencode
  have hfields := fieldsEncodable_iff.mp 
    (jsonEncodable_of_jsonText htext (utf8Encode_isSome_iff.mp (by rw [hutf8]; rfl)))
  have hfiles := (hfields (lit "files", .arr (manifest.files.map BundleFileEntry.dump))
    (by simp [dumpFields])).2
  intro entry hentry
  have hentry := itemsEncodable_iff.mp hfiles _ (List.mem_map_of_mem hentry)
  exact (fieldsEncodable_iff.mp hentry (lit "path", .str entry.path)
    (by simp [BundleFileEntry.dumpFields])).2

/-- **A written manifest is read back.** -/
theorem modelValidateJson_line [Interpreter] {manifest : Stage2BundleManifest}
    (h : manifest.Valid) {data : Bytes} (hline : manifest.line = .ok data) :
    modelValidateJson ofJson data = .ok manifest := by
  refine Stage2.modelValidateJson_line ?_ hline (ofJson_dump h (encodable_of_line hline))
  have hshort : intsShort manifest.dump = true := by
    obtain ⟨octets, hencode, -⟩ := exists_of_map_eq_ok hline
    exact (PyValue.encode_eq_ok.mp hencode).1
  have hfields := fieldsShort_iff.mp hshort
  have hrepetition := natAbs_lt_of_intsShort
    (hfields (lit "repetition_index", .int manifest.repetitionIndex) (by simp [dumpFields]))
  have hentries := itemsShort_iff.mp
    (hfields (lit "files", .arr (manifest.files.map BundleFileEntry.dump)) (by simp [dumpFields]))
  have hfiles : Json.Readable 2 (.arr (manifest.files.map BundleFileEntry.dump)) := by
    refine .arr ?_
    intro item hitem
    obtain ⟨entry, -, rfl⟩ := List.mem_map.mp hitem
    exact BundleFileEntry.readable_dump (hentries _ hitem)
  refine Json.Readable.mono (.obj (nodup_dumpFields manifest) ?_) (show 3 ≤ 64 by decide)
  simp only [dumpFields, List.forall_mem_cons, List.not_mem_nil, false_implies, implies_true,
    and_true]
  exact ⟨.str _, .str _, .str _, .int hrepetition, .str _, .str _, hfiles, .str _⟩

end Stage2BundleManifest

end

end Stage2
