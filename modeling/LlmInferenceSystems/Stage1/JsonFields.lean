import LlmInferenceSystems.Stage2.BundleRecords

/-!
# Fields of JSON records

A record is written field by field. What a field was written as is read back, also when the fields
were sorted, and the text of a record is that of a JSON value as far as its integers can be written.

## Main definitions

* `Reads`: a field is read as it was written
* `ReadsShort`: a value is read back, as far as its integers can be written

## Main results

* `Reads.field`, `Reads.defaultedField`, `Reads.tupleField`: the fields of a record are read
* `readsShort_obj`: a record is read back when its fields are
-/

namespace Stage1

open Python Stage2

/-! ## Fields -/

/-- A member of an enumeration of strings. -/
def jsonEnum {α : Type} (text : α → String) (value : α) : Json := .str (lit (text value))

/-- A natural number as an integer of JSON. -/
def jsonNat (value : ℕ) : Json := .int value

/-- `None` as `null`, and a value by its own JSON. -/
def jsonOptional {α : Type} (json : α → Json) (value : Option α) : Json := value.elim .null json

/-- A member of an enumeration of strings, by its value. -/
def readEnum {α : Type} (values : List α) (text : α → String) (value : Json) : Option α :=
  (readStr value).bind fun name => values.find? fun member => lit (text member) = name

/-- A strict truth value. -/
def readBool : Json → Option Bool
  | .bool b => some b
  | _ => none

/-- `float`, which takes an `int` as well -/
def readFloat : Json → Option PyFloat
  | .float x => some x
  | .int n => PyFloat.ofInt n
  | _ => none

/-- A tuple whose items are read alike. -/
def readTuple {α : Type} (read : Json → Option α) : Json → Option (List α)
  | .arr items => items.mapM read
  | _ => none

/-- A field that may be left out, for `None`. -/
def defaulted {α : Type} (read : Json → Option α) : Option Json → Option (Option α)
  | none => some none
  | some value => readOptional read value

/-- A field is read as it was written. -/
def Reads {α : Type} (read : Json → Option α) (json : α → Json) : Prop :=
  ∀ a, read (json a).sortKeys = some a ∧ (json a).sortKeys ≠ .null

theorem Reads.read {α : Type} {read : Json → Option α} {json : α → Json} (h : Reads read json)
    (a : α) : read (json a).sortKeys = some a := (h a).1

theorem Reads.optional {α : Type} {read : Json → Option α} {json : α → Json} (h : Reads read json)
    (value : Option α) : readOptional read (jsonOptional json value).sortKeys = some value := by
  cases value with
  | none => rfl
  | some a =>
    obtain ⟨hread, hnull⟩ := h a
    rw [jsonOptional, Option.elim_some, readOptional, hread, Option.map_some]
    exact hnull

theorem Reads.tuple {α : Type} {read : Json → Option α} {json : α → Json} (h : Reads read json)
    (items : List α) : readTuple read (Json.arr (items.map json)).sortKeys = some items := by
  rw [Json.sortKeys_arr, readTuple, List.map_map]
  induction items with
  | nil => rfl
  | cons a items ih =>
    rw [List.map_cons, List.mapM_cons, Function.comp_apply, h.read, ih]
    rfl

theorem reads_str : Reads readStr .str := fun _ => ⟨rfl, by simp [Json.sortKeys]⟩

theorem reads_nat : Reads readNat jsonNat := fun n =>
  ⟨by simp [readNat, readInt, jsonNat, Json.sortKeys], by simp [jsonNat, Json.sortKeys]⟩

theorem reads_bool : Reads readBool .bool := fun _ => ⟨rfl, by simp [Json.sortKeys]⟩

theorem reads_float : Reads readFloat .float := fun _ => ⟨rfl, by simp [Json.sortKeys]⟩

theorem reads_enum {α : Type} {values : List α} {text : α → String}
    (h : ∀ value, values.find? (fun member => lit (text member) = lit (text value)) = some value) :
    Reads (readEnum values text) (jsonEnum text) := fun value =>
  ⟨h value, by simp [jsonEnum, Json.sortKeys]⟩

/-! ## Reading fields -/

theorem bind_eq_some_of {α β : Type} {x : Option α} {f : α → Option β} {a : α} {b : β}
    (h : x = some a) (hf : f a = some b) : (x >>= f) = some b := by
  rw [h]
  exact hf

/-- The fields of a record that was written. -/
theorem exists_strictFields {names : List String} {fields : List (Str × Json)}
    (hnames : fields.map (·.1) = names.map lit) (hkeys : (names.map lit).Nodup) :
    ∃ read, strictFields names (Json.obj fields).sortKeys = some read ∧
      ∀ name, Json.field read name = (Json.field fields name).map Json.sortKeys :=
  ⟨_, strictFields_sortKeys fun _ hf => hnames ▸ List.mem_map_of_mem hf,
    field_sortKeys (hnames ▸ hkeys)⟩

section

variable {α : Type} {read : Json → Option α} {json : α → Json} {fields written : List (Str × Json)}
  {name : String}

theorem Reads.field {a : α} (h : Reads read json)
    (hfields : ∀ name, Json.field fields name = (Json.field written name).map Json.sortKeys)
    (hname : Json.field written name = some (json a)) :
    (Json.field fields name).bind read = some a := by
  rw [hfields, hname]
  exact h.read a

theorem Reads.optionalField {a : Option α} (h : Reads read json)
    (hfields : ∀ name, Json.field fields name = (Json.field written name).map Json.sortKeys)
    (hname : Json.field written name = some (jsonOptional json a)) :
    (Json.field fields name).bind (readOptional read) = some a := by
  rw [hfields, hname]
  exact h.optional a

theorem Reads.defaultedField {a : Option α} (h : Reads read json)
    (hfields : ∀ name, Json.field fields name = (Json.field written name).map Json.sortKeys)
    (hname : Json.field written name = some (jsonOptional json a)) :
    defaulted read (Json.field fields name) = some a := by
  rw [hfields, hname]
  exact h.optional a

theorem Reads.tupleField {items : List α} (h : Reads read json)
    (hfields : ∀ name, Json.field fields name = (Json.field written name).map Json.sortKeys)
    (hname : Json.field written name = some (Json.arr (items.map json))) :
    (Json.field fields name).bind (readTuple read) = some items := by
  rw [hfields, hname]
  exact h.tuple items

end

/-! ## Values whose integers are short -/

section

variable [Interpreter]

/-- A value that is read back, as far as its integers can be written. -/
def ReadsShort (depth : ℕ) (value : Json) : Prop :=
  intsShort value = true → Json.Readable depth value

theorem ReadsShort.mono {depth depth' : ℕ} {value : Json} (h : ReadsShort depth value)
    (hle : depth ≤ depth') : ReadsShort depth' value := fun hshort => (h hshort).mono hle

theorem readsShort_nat (depth n : ℕ) : ReadsShort depth (jsonNat n) :=
  fun h => .int (natAbs_lt_of_intsShort h)

theorem readsShort_str (depth : ℕ) (text : Str) : ReadsShort depth (.str text) :=
  fun _ => .str text

theorem readsShort_bool (depth : ℕ) (b : Bool) : ReadsShort depth (.bool b) := fun _ => .bool b

theorem readsShort_enum {α : Type} (depth : ℕ) (text : α → String) (value : α) :
    ReadsShort depth (jsonEnum text value) := fun _ => .str _

theorem readsShort_optional {α : Type} {depth : ℕ} {json : α → Json} {value : Option α}
    (h : ∀ a ∈ value, ReadsShort depth (json a)) : ReadsShort depth (jsonOptional json value) := by
  cases value with
  | none => exact fun _ => .null
  | some a => exact h a rfl

theorem readsShort_arr {α : Type} {depth : ℕ} {json : α → Json} {items : List α}
    (h : ∀ a ∈ items, ReadsShort depth (json a)) :
    ReadsShort (depth + 1) (.arr (items.map json)) := by
  intro hshort
  refine .arr fun item hitem => ?_
  obtain ⟨a, ha, rfl⟩ := List.mem_map.mp hitem
  exact h a ha (itemsShort_iff.mp hshort _ hitem)

theorem readsShort_obj {depth : ℕ} {fields : List (Str × Json)}
    (hkeys : (fields.map (·.1)).Nodup) (h : ∀ f ∈ fields, ReadsShort depth f.2) :
    ReadsShort (depth + 1) (.obj fields) :=
  fun hshort => .obj hkeys fun f hf => h f hf (fieldsShort_iff.mp hshort f hf)

end

end Stage1
