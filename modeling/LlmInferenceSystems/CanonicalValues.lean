import LlmInferenceSystems.CanonicalReading
import LlmInferenceSystems.Python.Checks

/-!
# Canonical JSON of Python values

`_normalize` turns the values the program holds into JSON values: models and enumerations by what
they hold, timestamps and paths by their text, tuples as lists, `-0.0` as `0.0`. The encoding of
the values that are JSON already is faithful: it is read back as their normal form, and two of them
are encoded alike exactly when their normal forms are equal.

## Main definitions

* `PyValue`, `PyValue.normalize`: the values, and `_normalize`
* `PyValue.canonicalJsonBytes`: `canonical_json_bytes`
* `PyValue.JsonCompatible`, `PyValue.Bounded`: the values of JSON, and the limits of the interpreter
* `PyValue.normalForm`: sequences as lists, mappings in key order

## Main results

* `PyValue.canonicalJsonBytes_faithful`: reading back, injectivity, idempotence and omitted fields
-/

namespace Python

/-- A value `canonical_json_bytes` may be given. -/
inductive PyValue where
  | none
  | bool (value : Bool)
  | int (value : ℤ)
  | float (value : PyFloat)
  /-- `-0.0` -/
  | negativeZero
  | str (text : Str)
  /-- A list, a tuple or another `Sequence`. -/
  | sequence (items : List PyValue)
  /-- A `Mapping`; a key that is no `str` is `none`. -/
  | mapping (items : List (Option Str × PyValue))
  /-- A `BaseModel`: its `model_dump(mode="python")`. -/
  | model (fields : List (Str × PyValue))
  /-- A member of an enumeration. -/
  | enum (value : PyValue)
  /-- A `datetime`: its text in UTC, unless it has no time zone. -/
  | datetime (utc : Option Str)
  /-- A `PurePath`: its `as_posix()`. -/
  | path (posix : Str)
  /-- A value of another type, such as `bytes`. -/
  | other

namespace PyValue

/-- `_normalize`; `fuel` is how many calls may still be opened. -/
def normalize : ℕ → PyValue → Except PyError Json
  | 0, _ => .error .recursion
  | fuel + 1, value =>
    match value with
    | .none => .ok .null
    | .bool b => .ok (.bool b)
    | .int n => .ok (.int n)
    | .float x =>
      if x.isFinite then .ok (.float x)
      else .error (.value "canonical JSON rejects NaN and Infinity")
    | .negativeZero => .ok (.float (.finite 0))
    | .str text => .ok (.str text)
    | .sequence items => (collect (normalize fuel) items).map .arr
    | .mapping items => (collect (fun item =>
        match item.1 with
        | Option.none => .error .type
        | some key => (normalize fuel item.2).map (key, ·)) items).map .obj
    | .model fields => normalize fuel (.mapping (fields.map fun f => (some f.1, f.2)))
    | .enum value => normalize fuel value
    | .datetime Option.none => .error (.value "canonical timestamps must be timezone-aware")
    | .datetime (some utc) => .ok (.str utc)
    | .path posix => .ok (.str posix)
    | .other => .error .type

/-! ## Values of JSON -/

/-- The value an object of JSON is decoded to. -/
abbrev dict (fields : List (Str × PyValue)) : PyValue :=
  .mapping (fields.map fun f => (some f.1, f.2))

mutual

/-- A decoded value. -/
def ofJson : Json → PyValue
  | .null => .none
  | .bool b => .bool b
  | .int n => .int n
  | .float x => .float x
  | .str text => .str text
  | .arr items => .sequence (ofItems items)
  | .obj fields => .mapping (ofFields fields)

/-- The items of a JSON list as values. -/
def ofItems : List Json → List PyValue
  | [] => []
  | item :: items => ofJson item :: ofItems items

/-- The fields of a JSON object as the items of a dictionary. -/
def ofFields : List (Str × Json) → List (Option Str × PyValue)
  | [] => []
  | (key, value) :: fields => (some key, ofJson value) :: ofFields fields

end

mutual

/-- The normal form: sequences as lists, mappings in key order, `-0.0` as `0.0`. -/
def normalForm : PyValue → Json
  | .none => .null
  | .bool b => .bool b
  | .int n => .int n
  | .float x => .float x
  | .negativeZero => .float (.finite 0)
  | .str text => .str text
  | .sequence items => .arr (normalForms items)
  | .mapping items => .obj (sortFields (normalItems items))
  | .model fields => .obj (sortFields (normalFields fields))
  | .enum value => normalForm value
  | .datetime utc => utc.elim .null .str
  | .path posix => .str posix
  | .other => .null

/-- The normal forms of a list's items. -/
def normalForms : List PyValue → List Json
  | [] => []
  | item :: items => normalForm item :: normalForms items

/-- The normal forms of a dictionary's items, without those whose key is no string. -/
def normalItems : List (Option Str × PyValue) → List (Str × Json)
  | [] => []
  | (Option.none, _) :: items => normalItems items
  | (some key, value) :: items => (key, normalForm value) :: normalItems items

/-- The normal forms of a model's fields. -/
def normalFields : List (Str × PyValue) → List (Str × Json)
  | [] => []
  | (key, value) :: fields => (key, normalForm value) :: normalFields fields

end

theorem normalForms_eq (items : List PyValue) : normalForms items = items.map normalForm := by
  induction items with
  | nil => rfl
  | cons item items ih => rw [normalForms, ih, List.map_cons]

theorem normalForm_sequence (items : List PyValue) :
    (sequence items).normalForm = .arr (items.map normalForm) := by
  rw [normalForm, normalForms_eq]

theorem normalForm_dict (fields : List (Str × PyValue)) :
    (dict fields).normalForm = .obj ((sortFields fields).map fun f => (f.1, f.2.normalForm)) := by
  have hitems : normalItems (fields.map fun f => (some f.1, f.2)) =
      fields.map fun f => (f.1, f.2.normalForm) := by
    induction fields with
    | nil => rfl
    | cons f fields ih => rw [List.map_cons, normalItems, ih, List.map_cons]
  rw [normalForm, hitems, sortFields_map]

/-! ## Encoding -/

section

variable [Interpreter]

/-- `json.dumps` and the encoding of its text. -/
def encode (value : Json) : Except PyError Bytes :=
  if intsShort value = false then
    .error (.value "Exceeds the limit (4300 digits) for integer string conversion")
  else
    match jsonText value with
    | Option.none => .error (.value "Out of range float values are not JSON compliant")
    | some text =>
      match utf8Encode text with
      | Option.none => .error .unicodeEncode
      | some bytes => .ok bytes

theorem encode_eq_ok {value : Json} {data : Bytes} :
    encode value = .ok data ↔
      intsShort value = true ∧ ∃ text, jsonText value = some text ∧ utf8Encode text = some data := by
  unfold encode
  cases intsShort value with
  | false => simp
  | true =>
    cases jsonText value with
    | none => simp
    | some text => cases htext : utf8Encode text <;> simp [htext]

/-- `canonical_json_bytes` -/
def canonicalJsonBytes (value : PyValue) (omitFields : List Str := []) : Except PyError Bytes :=
  match value.normalize Interpreter.callDepth with
  | .error e => .error e
  | .ok normalized =>
    if omitFields = [] then encode normalized
    else
      match normalized with
      | .obj fields => encode (.obj (fields.filter fun f => f.1 ∉ omitFields))
      | _ => .error .type

/-! ## The values of JSON, and the limits of the interpreter -/

/-- A value built from `None`, booleans, integers, finite floats whose text reads back, texts
without lone surrogates, sequences and mappings with such texts as keys. -/
inductive JsonCompatible : PyValue → Prop
  | none : JsonCompatible .none
  | bool (b : Bool) : JsonCompatible (.bool b)
  | int (n : ℤ) : JsonCompatible (.int n)
  | float {q : ℚ} (reads : Json.FloatReads q) : JsonCompatible (.float (.finite q))
  | negativeZero (reads : Json.FloatReads 0) : JsonCompatible .negativeZero
  | str {text : Str} (encodable : IsEncodable text) : JsonCompatible (.str text)
  | sequence {items : List PyValue} (compatible : ∀ item ∈ items, JsonCompatible item) :
      JsonCompatible (.sequence items)
  | dict {fields : List (Str × PyValue)} (keys : (fields.map (·.1)).Nodup)
      (encodable : ∀ f ∈ fields, IsEncodable f.1) (compatible : ∀ f ∈ fields, JsonCompatible f.2) :
      JsonCompatible (dict fields)

end

/-- A value nested at most `depth` deep, of integers of at most 4300 digits. -/
inductive Nested : ℕ → PyValue → Prop
  | none {depth} : Nested depth .none
  | bool {depth} (b : Bool) : Nested depth (.bool b)
  | int {depth} {n : ℤ} (short : n.natAbs < maxInt) : Nested depth (.int n)
  | float {depth} (x : PyFloat) : Nested depth (.float x)
  | negativeZero {depth} : Nested depth .negativeZero
  | str {depth} (text : Str) : Nested depth (.str text)
  | sequence {depth} {items : List PyValue} (nested : ∀ item ∈ items, Nested depth item) :
      Nested (depth + 1) (.sequence items)
  | mapping {depth} {items : List (Option Str × PyValue)} (nested : ∀ i ∈ items, Nested depth i.2) :
      Nested (depth + 1) (.mapping items)

/-- The fields that are not left out. -/
def keptFields {α : Type} (omitFields : List Str) (fields : List (Str × α)) : List (Str × α) :=
  fields.filter fun f => f.1 ∉ omitFields

theorem Nested.keptFields {depth : ℕ} {fields : List (Str × PyValue)}
    (h : Nested depth (PyValue.dict fields)) (omitFields : List Str) :
    Nested depth (PyValue.dict (PyValue.keptFields omitFields fields)) := by
  cases h with
  | mapping nested =>
    refine .mapping fun item hitem => nested item ?_
    obtain ⟨f, hf, rfl⟩ := List.mem_map.mp hitem
    exact List.mem_map_of_mem (List.mem_of_mem_filter hf)

theorem lookup_keptFields {α : Type} {omitFields : List Str} (fields : List (Str × α)) (key : Str) :
    (keptFields omitFields fields).lookup key =
      if key ∈ omitFields then Option.none else fields.lookup key := by
  induction fields with
  | nil => simp [keptFields]
  | cons f fields ih =>
    obtain ⟨name, value⟩ := f
    rw [keptFields] at ih ⊢
    by_cases hkey : key = name
    · subst hkey
      by_cases homit : key ∈ omitFields
      · rw [List.filter_cons_of_neg (by simpa using homit), ih]
        simp [homit]
      · rw [List.filter_cons_of_pos (by simpa using homit)]
        simp [homit]
    · have hne : (key == name) = false := beq_eq_false_iff_ne.mpr hkey
      by_cases homit : name ∈ omitFields
      · rw [List.filter_cons_of_neg (by simpa using homit), ih]
        simp [List.lookup_cons, hne]
      · rw [List.filter_cons_of_pos (by simpa using homit), List.lookup_cons, hne, ih]
        simp [List.lookup_cons, hne]

section

variable [Interpreter]

/-- The interpreter writes and reads the value: it is nested less deep than calls may be, no
deeper than JSON may be, and its integers have at most 4300 digits. -/
def WithinLimits (value : PyValue) : Prop :=
  ∃ depth, Nested depth value ∧ depth < Interpreter.callDepth ∧ depth ≤ Interpreter.jsonDepth

/-- What a compatible value is normalised to. -/
structure NormalisedTo (depth : ℕ) (value : PyValue) (normalized : Json) : Prop where
  normalize : ∀ fuel, depth < fuel → value.normalize fuel = .ok normalized
  normalForm : normalized.sortKeys = value.normalForm
  readable : Json.Readable depth normalized
  encodable : JsonEncodable normalized
  short : intsShort normalized = true

omit [Interpreter] in
theorem intsShort_sortKeys {value : Json} (h : intsShort value = true) :
    intsShort value.sortKeys = true := by
  induction value using Json.induct with
  | null => exact h
  | bool b => exact h
  | int n => exact h
  | float x => exact h
  | str s => exact h
  | arr items ih =>
    rw [Json.sortKeys_arr, intsShort, itemsShort_iff, List.forall_mem_map]
    exact fun item hitem => ih item hitem (itemsShort_iff.mp h item hitem)
  | obj fields ih =>
    rw [Json.sortKeys_obj, intsShort, fieldsShort_iff, List.forall_mem_map]
    exact fun f hf => ih f (mem_sortFields.mp hf) (fieldsShort_iff.mp h f (mem_sortFields.mp hf))

omit [Interpreter] in
theorem jsonEncodable_sortKeys {value : Json} (h : JsonEncodable value) :
    JsonEncodable value.sortKeys := by
  induction value using Json.induct with
  | null => exact h
  | bool b => exact h
  | int n => exact h
  | float x => exact h
  | str s => exact h
  | arr items ih =>
    rw [Json.sortKeys_arr, JsonEncodable, itemsEncodable_iff, List.forall_mem_map]
    exact fun item hitem => ih item hitem (itemsEncodable_iff.mp h item hitem)
  | obj fields ih =>
    rw [Json.sortKeys_obj, JsonEncodable, fieldsEncodable_iff, List.forall_mem_map]
    intro f hf
    have hmem := fieldsEncodable_iff.mp h f (mem_sortFields.mp hf)
    exact ⟨hmem.1, ih f (mem_sortFields.mp hf) hmem.2⟩

/-- A value that `_normalize` returns without looking further. -/
theorem normalisedTo_scalar {depth : ℕ} {value : PyValue} {normalized : Json}
    (hnormalize : ∀ n, value.normalize (n + 1) = .ok normalized)
    (hform : normalized.sortKeys = value.normalForm) (hreadable : Json.Readable depth normalized)
    (hencodable : JsonEncodable normalized) (hshort : intsShort normalized = true) :
    NormalisedTo depth value normalized where
  normalize fuel hfuel := by
    obtain ⟨n, rfl⟩ : ∃ n, fuel = n + 1 := ⟨fuel - 1, by omega⟩
    exact hnormalize n
  normalForm := hform
  readable := hreadable
  encodable := hencodable
  short := hshort

theorem normalisedTo_sequence {depth : ℕ} {items : List PyValue} {normalized : List Json}
    (h : List.Forall₂ (NormalisedTo depth) items normalized) :
    NormalisedTo (depth + 1) (.sequence items) (.arr normalized) where
  normalize fuel hfuel := by
    obtain ⟨n, rfl⟩ : ∃ n, fuel = n + 1 := ⟨fuel - 1, by omega⟩
    have hcollect : collect (normalize n) items = .ok normalized :=
      collect_eq_ok.mpr (h.imp fun item j hj => hj.normalize n (by omega))
    rw [normalize, hcollect]
    rfl
  normalForm := by
    rw [Json.sortKeys_arr, normalForm_sequence]
    congr 1
    induction h with
    | nil => rfl
    | cons hj _ ih => rw [List.map_cons, List.map_cons, hj.normalForm, ih]
  readable := .arr fun j hj =>
    let ⟨_, _, hitem⟩ := exists_of_forall₂_mem h hj
    hitem.readable
  encodable := itemsEncodable_iff.mpr fun j hj =>
    let ⟨_, _, hitem⟩ := exists_of_forall₂_mem h hj
    hitem.encodable
  short := itemsShort_iff.mpr fun j hj =>
    let ⟨_, _, hitem⟩ := exists_of_forall₂_mem h hj
    hitem.short

theorem normalisedTo_dict {depth : ℕ} {fields : List (Str × PyValue)}
    (hkeys : (fields.map (·.1)).Nodup) (hencodable : ∀ f ∈ fields, IsEncodable f.1)
    {normalized : List (Str × Json)}
    (h : List.Forall₂ (fun f j => j.1 = f.1 ∧ NormalisedTo depth f.2 j.2) fields normalized) :
    NormalisedTo (depth + 1) (dict fields) (.obj normalized) where
  normalize fuel hfuel := by
    obtain ⟨n, rfl⟩ : ∃ n, fuel = n + 1 := ⟨fuel - 1, by omega⟩
    rw [dict, normalize, collect_eq_ok.mpr (List.forall₂_map_left_iff.mpr (h.imp fun f j hj => ?_))]
    · rfl
    · show (normalize n f.2).map (f.1, ·) = .ok j
      rw [hj.2.normalize n (by omega), ← hj.1]
      rfl
  normalForm := by
    rw [Json.sortKeys_obj, normalForm_dict, ← sortFields_map, ← sortFields_map]
    congr 2
    induction h with
    | nil => rfl
    | @cons f j fields normalized hj hrest ih =>
      rw [List.map_cons, List.map_cons, hj.2.normalForm, hj.1, ih (List.nodup_cons.mp hkeys).2
        fun g hg => hencodable g (List.mem_cons_of_mem f hg)]
  readable := .obj (by
      have hsame : normalized.map (·.1) = fields.map (·.1) := by
        clear hkeys hencodable
        induction h with
        | nil => rfl
        | cons hj _ ih => rw [List.map_cons, List.map_cons, hj.1, ih]
      rw [hsame]
      exact hkeys) fun j hj =>
    let ⟨_, _, hf⟩ := exists_of_forall₂_mem h hj
    hf.2.readable
  encodable := fieldsEncodable_iff.mpr fun j hj => by
    obtain ⟨f, hmem, hf⟩ := exists_of_forall₂_mem h hj
    exact ⟨hf.1 ▸ hencodable f hmem, hf.2.encodable⟩
  short := fieldsShort_iff.mpr fun j hj =>
    let ⟨_, _, hf⟩ := exists_of_forall₂_mem h hj
    hf.2.short

theorem exists_normalisedTo_keys {depth : ℕ} {fields : List (Str × PyValue)}
    (h : ∀ f ∈ fields, ∃ normalized, NormalisedTo depth f.2 normalized) :
    ∃ normalized : List (Str × Json),
      List.Forall₂ (fun f j => j.1 = f.1 ∧ NormalisedTo depth f.2 j.2) fields normalized :=
  exists_forall₂ fun f hf =>
    let ⟨j, hj⟩ := h f hf
    ⟨(f.1, j), rfl, hj⟩

/-- **A compatible value within the limits is normalised** to its normal form up to the order of
keys. -/
theorem JsonCompatible.exists_normalisedTo {value : PyValue} (h : value.JsonCompatible)
    {depth : ℕ} (hn : Nested depth value) : ∃ normalized, NormalisedTo depth value normalized := by
  induction h generalizing depth with
  | none => exact ⟨.null, normalisedTo_scalar (fun _ => rfl) rfl .null trivial rfl⟩
  | bool b => exact ⟨.bool b, normalisedTo_scalar (fun _ => rfl) rfl (.bool b) trivial rfl⟩
  | int n =>
    cases hn with
    | int short =>
      refine ⟨.int n, normalisedTo_scalar (fun _ => rfl) rfl (.int short) trivial ?_⟩
      rw [intsShort]
      exact decide_eq_true short
  | @float q reads =>
    exact ⟨.float (.finite q), normalisedTo_scalar (fun _ => rfl) rfl (.float reads) rfl rfl⟩
  | negativeZero reads =>
    exact ⟨.float (.finite 0), normalisedTo_scalar (fun _ => rfl) rfl (.float reads) rfl rfl⟩
  | @str text encodable =>
    exact ⟨.str text, normalisedTo_scalar (fun _ => rfl) rfl (.str text) encodable rfl⟩
  | sequence compatible ih =>
    cases hn with
    | sequence nested =>
      obtain ⟨normalized, hnormalized⟩ :=
        exists_forall₂ fun item hitem => ih item hitem (nested item hitem)
      exact ⟨_, normalisedTo_sequence hnormalized⟩
  | @dict fields keys encodable compatible ih =>
    cases hn with
    | mapping nested =>
      obtain ⟨normalized, hnormalized⟩ := exists_normalisedTo_keys fun f hf =>
        ih f hf (nested (some f.1, f.2) (List.mem_map_of_mem hf))
      exact ⟨_, normalisedTo_dict keys encodable hnormalized⟩

theorem exists_normalisedTo_fields {depth : ℕ} {fields : List (Str × PyValue)}
    (h : ∀ f ∈ fields, f.2.JsonCompatible) (hn : ∀ f ∈ fields, Nested depth f.2) :
    ∃ normalized : List (Str × Json),
      List.Forall₂ (fun f j => j.1 = f.1 ∧ NormalisedTo depth f.2 j.2) fields normalized :=
  exists_normalisedTo_keys fun f hf => (h f hf).exists_normalisedTo (hn f hf)

/-! ## What an encoding says -/

/-- A normalised value is encoded, and its octets hold the normal form. -/
theorem NormalisedTo.encode {depth : ℕ} {value : PyValue} {normalized : Json}
    (h : NormalisedTo depth value normalized) (hdepth : depth ≤ Interpreter.jsonDepth) :
    ∃ bytes, PyValue.encode normalized = .ok bytes ∧
      PyValue.encode value.normalForm = .ok bytes ∧
      Json.readJson bytes = some value.normalForm := by
  obtain ⟨text, htext, hencodable⟩ := exists_jsonText h.encodable
  obtain ⟨bytes, hbytes⟩ := exists_utf8Encode hencodable
  have hsorted := Json.jsonText_sortKeys htext
  have hshort := intsShort_sortKeys h.short
  have hread := Json.readJson_jsonText (h.readable.mono hdepth) htext hbytes
    (show ∀ c ∈ [], Json.isSpace c = true by simp)
  rw [List.map_nil, List.append_nil] at hread
  rw [h.normalForm] at hsorted hshort hread
  refine ⟨bytes, ?_, ?_, hread⟩
  · simp only [PyValue.encode, h.short, htext, hbytes, if_false, Bool.true_eq_false]
  · simp only [PyValue.encode, hshort, hsorted, hbytes, if_false, Bool.true_eq_false]

/-- Two values have the same encoding exactly when they have the same normal form. -/
theorem NormalisedTo.encode_eq_iff {depth depth' : ℕ} {value value' : PyValue}
    {normalized normalized' : Json} (h : NormalisedTo depth value normalized)
    (h' : NormalisedTo depth' value' normalized') (hdepth : depth ≤ Interpreter.jsonDepth)
    (hdepth' : depth' ≤ Interpreter.jsonDepth) :
    PyValue.encode normalized = PyValue.encode normalized' ↔
      value.normalForm = value'.normalForm := by
  obtain ⟨bytes, hencode, hform, hread⟩ := h.encode hdepth
  obtain ⟨bytes', hencode', hform', hread'⟩ := h'.encode hdepth'
  constructor
  · intro heq
    rw [hencode, hencode'] at heq
    obtain rfl := Except.ok.inj heq
    exact Option.some.inj (hread.symm.trans hread')
  · intro heq
    rw [hencode, hencode', ← hform, ← hform', heq]

omit [Interpreter] in
theorem ofItems_eq (items : List Json) : ofItems items = items.map ofJson := by
  induction items with
  | nil => rfl
  | cons item items ih => rw [ofItems, ih, List.map_cons]

omit [Interpreter] in
theorem ofFields_eq (fields : List (Str × Json)) :
    ofFields fields = (fields.map fun f => (f.1, ofJson f.2)).map fun f => (some f.1, f.2) := by
  induction fields with
  | nil => rfl
  | cons f fields ih => rw [ofFields, ih, List.map_cons, List.map_cons]

/-- A decoded value is normalised to the value it was decoded from. -/
theorem normalisedTo_ofJson {depth : ℕ} {value : Json} (h : Json.Readable depth value)
    (hencodable : JsonEncodable value) (hshort : intsShort value = true) :
    NormalisedTo depth (ofJson value) value := by
  induction h with
  | null => exact normalisedTo_scalar (fun _ => rfl) rfl .null trivial rfl
  | bool b => exact normalisedTo_scalar (fun _ => rfl) rfl (.bool b) trivial rfl
  | int short => exact normalisedTo_scalar (fun _ => rfl) rfl (.int short) trivial hshort
  | float reads => exact normalisedTo_scalar (fun _ => rfl) rfl (.float reads) rfl rfl
  | str text => exact normalisedTo_scalar (fun _ => rfl) rfl (.str text) hencodable rfl
  | @arr depth items _ ih =>
    rw [ofJson, ofItems_eq]
    refine normalisedTo_sequence (List.forall₂_map_left_iff.mpr (List.forall₂_same.mpr ?_))
    exact fun item hitem => ih item hitem (itemsEncodable_iff.mp hencodable item hitem)
      (itemsShort_iff.mp hshort item hitem)
  | @obj depth fields keys _ ih =>
    rw [ofJson, ofFields_eq]
    have hmem := fieldsEncodable_iff.mp hencodable
    refine normalisedTo_dict ?_ (List.forall_mem_map.mpr fun f hf => (hmem f hf).1)
      (List.forall₂_map_left_iff.mpr (List.forall₂_same.mpr fun f hf => ⟨rfl, ?_⟩))
    · rw [List.map_map]
      exact keys
    · exact ih f hf (hmem f hf).2 (fieldsShort_iff.mp hshort f hf)

/-- The encoding of a normalised value. -/
theorem NormalisedTo.canonicalJsonBytes {depth : ℕ} {value : PyValue} {normalized : Json}
    (h : NormalisedTo depth value normalized) (hdepth : depth < Interpreter.callDepth) :
    value.canonicalJsonBytes = PyValue.encode normalized := by
  rw [PyValue.canonicalJsonBytes, h.normalize _ hdepth]
  rfl

theorem JsonCompatible.of_dict {fields : List (Str × PyValue)}
    (h : (PyValue.dict fields).JsonCompatible) :
    (fields.map (·.1)).Nodup ∧ (∀ f ∈ fields, IsEncodable f.1) ∧
      ∀ f ∈ fields, f.2.JsonCompatible := by
  generalize hvalue : PyValue.dict fields = value at h
  cases h with
  | dict keys encodable compatible =>
    obtain rfl := List.map_injective_iff.mpr (by rintro ⟨a, x⟩ ⟨b, y⟩ heq; simpa using heq)
      (PyValue.mapping.inj hvalue)
    exact ⟨keys, encodable, compatible⟩
  | none => cases hvalue
  | bool b => cases hvalue
  | int n => cases hvalue
  | float reads => cases hvalue
  | negativeZero reads => cases hvalue
  | str encodable => cases hvalue
  | sequence compatible => cases hvalue

theorem JsonCompatible.keptFields {fields : List (Str × PyValue)}
    (h : (PyValue.dict fields).JsonCompatible) (omitFields : List Str) :
    (PyValue.dict (PyValue.keptFields omitFields fields)).JsonCompatible := by
  obtain ⟨keys, encodable, compatible⟩ := h.of_dict
  exact .dict (keys.sublist (List.filter_sublist.map _))
    (fun f hf => encodable f (List.mem_of_mem_filter hf))
    fun f hf => compatible f (List.mem_of_mem_filter hf)

/-- Leaving fields out is encoding the mapping without them. -/
theorem canonicalJsonBytes_keptFields {depth : ℕ} {fields : List (Str × PyValue)}
    (h : (dict fields).JsonCompatible) (hn : Nested depth (dict fields))
    (hdepth : depth < Interpreter.callDepth) (omitFields : List Str) :
    (dict fields).canonicalJsonBytes omitFields =
      (dict (keptFields omitFields fields)).canonicalJsonBytes := by
  obtain ⟨keys, encodable, compatible⟩ := h.of_dict
  cases hn with
  | @mapping depth _ nested =>
    obtain ⟨normalized, hnormalized⟩ := exists_normalisedTo_fields compatible
      fun f hf => nested (some f.1, f.2) (List.mem_map_of_mem hf)
    have hkept : List.Forall₂ (fun f j => j.1 = f.1 ∧ NormalisedTo depth f.2 j.2)
        (keptFields omitFields fields) (keptFields omitFields normalized) :=
      List.rel_filter (fun f j hj => by simp [hj.1]) hnormalized
    obtain ⟨keys', encodable', -⟩ := (h.keptFields omitFields).of_dict
    have hdict := normalisedTo_dict keys encodable hnormalized
    rw [(normalisedTo_dict keys' encodable' hkept).canonicalJsonBytes hdepth,
      PyValue.canonicalJsonBytes, hdict.normalize _ hdepth]
    by_cases homit : omitFields = []
    · have hall : keptFields [] normalized = normalized := by simp [keptFields]
      subst homit
      rw [hall]
      rfl
    · simp only [if_neg homit]
      rfl

omit [Interpreter] in
/-- Two mappings agree in normal form exactly when they agree at every key. -/
theorem normalForm_dict_eq_iff {fields fields' : List (Str × PyValue)}
    (h : (fields.map (·.1)).Nodup) (h' : (fields'.map (·.1)).Nodup) :
    (dict fields).normalForm = (dict fields').normalForm ↔
      ∀ key, (fields.lookup key).map normalForm = (fields'.lookup key).map normalForm := by
  rw [normalForm_dict, normalForm_dict, Json.obj.injEq, ← sortFields_map, ← sortFields_map,
    sortFields_eq_iff (by rw [List.map_map]; exact h) (by rw [List.map_map]; exact h')]
  simp only [lookup_map_values]

/-- **Canonical JSON is a faithful, idempotent encoding** of the values the interpreter can write
and read. A value's octets hold its normal form; two values are encoded alike exactly when their
normal forms are equal; encoding the decoded value gives the same octets; and leaving fields out of
a mapping is encoding the mapping without them, so that two mappings are then encoded alike exactly
when they agree at every other key. -/
theorem canonicalJsonBytes_faithful {u v : PyValue} (hu : u.JsonCompatible)
    (hv : v.JsonCompatible) (hulimits : u.WithinLimits) (hvlimits : v.WithinLimits) :
    (∃ bytes, v.canonicalJsonBytes = .ok bytes ∧ Json.readJson bytes = some v.normalForm) ∧
    (u.canonicalJsonBytes = v.canonicalJsonBytes ↔ u.normalForm = v.normalForm) ∧
    (ofJson v.normalForm).canonicalJsonBytes = v.canonicalJsonBytes ∧
    ∀ fields fields', u = dict fields → v = dict fields' → ∀ omitFields,
      v.canonicalJsonBytes omitFields =
        (dict (keptFields omitFields fields')).canonicalJsonBytes ∧
      (u.canonicalJsonBytes omitFields = v.canonicalJsonBytes omitFields ↔
        ∀ key, key ∉ omitFields →
          (fields.lookup key).map normalForm = (fields'.lookup key).map normalForm) := by
  obtain ⟨du, hun, hucall, hujson⟩ := hulimits
  obtain ⟨dv, hvn, hvcall, hvjson⟩ := hvlimits
  obtain ⟨ju, hju⟩ := hu.exists_normalisedTo hun
  obtain ⟨jv, hjv⟩ := hv.exists_normalisedTo hvn
  have hubytes := hju.canonicalJsonBytes hucall
  have hvbytes := hjv.canonicalJsonBytes hvcall
  obtain ⟨bytes, hencode, hform, hread⟩ := hjv.encode hvjson
  refine ⟨⟨bytes, hvbytes.trans hencode, hread⟩, ?_, ?_, ?_⟩
  · rw [hubytes, hvbytes]
    exact hju.encode_eq_iff hjv hujson hvjson
  · have hsorted := normalisedTo_ofJson hjv.readable.sortKeys (jsonEncodable_sortKeys hjv.encodable)
      (intsShort_sortKeys hjv.short)
    rw [hjv.normalForm] at hsorted
    rw [hsorted.canonicalJsonBytes hvcall, hvbytes, hencode, hform]
  · rintro fields fields' rfl rfl omitFields
    have hukept := canonicalJsonBytes_keptFields hu hun hucall omitFields
    have hvkept := canonicalJsonBytes_keptFields hv hvn hvcall omitFields
    refine ⟨hvkept, ?_⟩
    obtain ⟨ku, hku⟩ := (hu.keptFields omitFields).exists_normalisedTo (hun.keptFields omitFields)
    obtain ⟨kv, hkv⟩ := (hv.keptFields omitFields).exists_normalisedTo (hvn.keptFields omitFields)
    rw [hukept, hvkept, hku.canonicalJsonBytes hucall, hkv.canonicalJsonBytes hvcall,
      hku.encode_eq_iff hkv hujson hvjson,
      normalForm_dict_eq_iff (hu.keptFields omitFields).of_dict.1
        (hv.keptFields omitFields).of_dict.1]
    simp only [lookup_keptFields]
    refine forall_congr' fun key => ?_
    by_cases homit : key ∈ omitFields <;> simp [homit]

/-- Lists in one another, `depth` of them. -/
def nestedLists : ℕ → PyValue
  | 0 => .none
  | depth + 1 => .sequence [nestedLists depth]

theorem jsonCompatible_nestedLists (depth : ℕ) : (nestedLists depth).JsonCompatible := by
  induction depth with
  | zero => exact .none
  | succ depth ih => exact .sequence (by simpa using ih)

omit [Interpreter] in
theorem normalize_nestedLists (depth : ℕ) :
    (nestedLists depth).normalize depth = .error .recursion := by
  induction depth with
  | zero => rfl
  | succ depth ih => simp [nestedLists, normalize, collect, ih, Except.map]

end

/-! ## One mapping, and values past the limits -/

section

attribute [local instance] cpython

theorem floatReads_two : Json.FloatReads 2 := by
  intro ε rest hrest
  have htext : Interpreter.reprFloat 2 = [50, 46, 48] := by decide +kernel
  obtain ⟨htake, hdrop⟩ :=
    Json.takeWhile_isDigit_append (show ∀ c ∈ [48], Json.isDigit c = true by decide) hrest
  have hfraction : Json.scanFraction (46 :: 48 :: rest) = ([48], rest) := by
    rw [List.singleton_append] at htake hdrop
    simp only [Json.scanFraction, htake, hdrop]
    rfl
  have hvalue : PyFloat.ofDecimal 20 (-1) = .finite 2 := by decide +kernel
  rw [htext]
  show @Json.scanAtom ε (50 :: 46 :: 48 :: rest) = _
  have htwo : (50 :: 46 :: 48 :: rest).takeWhile Json.isDigit = [50] := rfl
  have hrest' : (50 :: 46 :: 48 :: rest).dropWhile Json.isDigit = 46 :: 48 :: rest := rfl
  have hmagnitude : @Json.scanMagnitude ε false (50 :: 46 :: 48 :: rest) =
      .ok (.float (.finite 2), rest) := by
    simp [Json.scanMagnitude, htwo, hrest', hfraction, Json.scanExponent_of_ends hrest,
      Json.digitsValue, hvalue]
  simp [Json.scanAtom, Json.find?_words_of_isDigit, Json.isDigit, hmagnitude]

/-- `{"b": 2.0, "a": [True, "\u00e9"]}` -/
def sampleMapping : List (Str × PyValue) :=
  [(lit "b", .float (.finite 2)), (lit "a", .sequence [.bool true, .str [233]])]

theorem jsonCompatible_sampleMapping : (dict sampleMapping).JsonCompatible := by
  refine .dict (by decide) (by decide) ?_
  simp only [sampleMapping, List.forall_mem_cons, List.not_mem_nil, false_implies, implies_true,
    and_true]
  refine ⟨.float floatReads_two, .sequence ?_⟩
  simp only [List.forall_mem_cons, List.not_mem_nil, false_implies, implies_true, and_true]
  exact ⟨.bool true, .str (by decide)⟩

theorem withinLimits_sampleMapping : (dict sampleMapping).WithinLimits := by
  refine ⟨2, .mapping ?_, by decide, by decide⟩
  simp only [sampleMapping, List.map_cons, List.map_nil, List.forall_mem_cons, List.not_mem_nil,
    false_implies, implies_true, and_true]
  refine ⟨.float _, .sequence ?_⟩
  simp only [List.forall_mem_cons, List.not_mem_nil, false_implies, implies_true, and_true]
  exact ⟨.bool true, .str _⟩

/-- A mapping is encoded without its field `a`. -/
theorem canonicalJsonBytes_faithful_sample :
    (dict sampleMapping).canonicalJsonBytes [lit "a"] =
      (dict (keptFields [lit "a"] sampleMapping)).canonicalJsonBytes :=
  ((canonicalJsonBytes_faithful jsonCompatible_sampleMapping jsonCompatible_sampleMapping
    withinLimits_sampleMapping withinLimits_sampleMapping).2.2.2 sampleMapping sampleMapping rfl rfl
      [lit "a"]).1

/-- An integer of 4301 digits has no encoding, and lists can be nested too deep. -/
theorem exists_compatible_not_encoded :
    (∃ v : PyValue, v.JsonCompatible ∧ v.canonicalJsonBytes =
      .error (.value "Exceeds the limit (4300 digits) for integer string conversion")) ∧
    ∃ v : PyValue, v.JsonCompatible ∧ v.canonicalJsonBytes = .error .recursion := by
  constructor
  · refine ⟨.int maxInt, .int _, ?_⟩
    have hlong : intsShort (.int maxInt) = false := by
      rw [intsShort, Int.natAbs_natCast]
      exact decide_eq_false (lt_irrefl maxInt)
    have hnormalize : (PyValue.int maxInt).normalize Interpreter.callDepth = .ok (.int maxInt) :=
      rfl
    rw [canonicalJsonBytes, hnormalize]
    simp only [if_true, encode, hlong]
  · refine ⟨nestedLists Interpreter.callDepth, jsonCompatible_nestedLists _, ?_⟩
    rw [canonicalJsonBytes, normalize_nestedLists]

end

end PyValue

end Python
