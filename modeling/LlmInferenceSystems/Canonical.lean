import Mathlib.Data.List.Sort
import LlmInferenceSystems.Errors
import LlmInferenceSystems.Python.Interpreter
import LlmInferenceSystems.Python.Json

/-!
# Canonical JSON

`canonical_json_bytes` writes a value compactly, with sorted keys and without escaping what ASCII
does not need, and encodes it; a text with a lone surrogate has no encoding, and an integer of more
than 4300 digits is not written. An identity is the digest of these octets.

## Main definitions

* `jsonText`: `json.dumps(…, sort_keys=True, ensure_ascii=False, separators=(",", ":"))`
* `canonicalJsonBytes`, `sha256Identity`: the encoding, and its digest

## Main results

* `exists_sha256Identity_iff`: the values that have an identity
-/

open Python

/-- A character of a string, escaped. -/
def jsonEscape (c : ℕ) : Str :=
  match c with
  | 34 => lit "\\\""
  | 92 => lit "\\\\"
  | 8 => lit "\\b"
  | 12 => lit "\\f"
  | 10 => lit "\\n"
  | 13 => lit "\\r"
  | 9 => lit "\\t"
  | c =>
    if c < 32 then lit "\\u00" ++ [Sha256.hexDigit (c / 16), Sha256.hexDigit (c % 16)] else [c]

/-- A string as a token of JSON text. -/
def jsonString (text : Str) : Str := lit "\"" ++ text.flatMap jsonEscape ++ lit "\""

/-- `str` of an integer. -/
def jsonInt (n : ℤ) : Str := (if n < 0 then lit "-" else []) ++ decimal n.natAbs

/-- The fields in key order, written. -/
def jsonFields (fields : List (Str × Str)) : Str :=
  (lit ",").intercalate
    ((fields.insertionSort fun a b => strLe a.1 b.1 = true).map
      fun f => jsonString f.1 ++ lit ":" ++ f.2)

/-! ## IsEncodable texts -/

/-- A text that UTF-8 can encode. -/
def IsEncodable (text : Str) : Prop := ∀ c ∈ text, isScalar c

instance (text : Str) : Decidable (IsEncodable text) :=
  inferInstanceAs (Decidable (∀ c ∈ text, isScalar c))

mutual

/-- Every text in the value can be encoded, and every float is finite. -/
def JsonEncodable : Json → Prop
  | .float x => x.isFinite
  | .str text => IsEncodable text
  | .arr items => ItemsEncodable items
  | .obj fields => FieldsEncodable fields
  | _ => True

/-- Every item of a list can be encoded. -/
def ItemsEncodable : List Json → Prop
  | [] => True
  | item :: items => JsonEncodable item ∧ ItemsEncodable items

/-- Every name and value of an object can be encoded. -/
def FieldsEncodable : List (Str × Json) → Prop
  | [] => True
  | (key, value) :: fields => IsEncodable key ∧ JsonEncodable value ∧ FieldsEncodable fields

end

mutual

/-- Whether a value is encodable, value by value. -/
def decJsonEncodable : (value : Json) → Decidable (JsonEncodable value)
  | .null | .bool _ | .int _ => .isTrue trivial
  | .float x => inferInstanceAs (Decidable (x.isFinite = true))
  | .str text => inferInstanceAs (Decidable (IsEncodable text))
  | .arr items => decItemsEncodable items
  | .obj fields => decFieldsEncodable fields

/-- Whether every item of a list is encodable. -/
def decItemsEncodable : (items : List Json) → Decidable (ItemsEncodable items)
  | [] => .isTrue trivial
  | item :: items =>
    haveI := decJsonEncodable item
    haveI := decItemsEncodable items
    inferInstanceAs (Decidable (JsonEncodable item ∧ ItemsEncodable items))

/-- Whether every name and value of an object is encodable. -/
def decFieldsEncodable : (fields : List (Str × Json)) → Decidable (FieldsEncodable fields)
  | [] => .isTrue trivial
  | (key, value) :: fields =>
    haveI := decJsonEncodable value
    haveI := decFieldsEncodable fields
    inferInstanceAs (Decidable (IsEncodable key ∧ JsonEncodable value ∧ FieldsEncodable fields))

end

instance : DecidablePred JsonEncodable := decJsonEncodable

theorem fieldsEncodable_iff {fields : List (Str × Json)} :
    FieldsEncodable fields ↔ ∀ f ∈ fields, IsEncodable f.1 ∧ JsonEncodable f.2 := by
  induction fields with
  | nil => simp [FieldsEncodable]
  | cons f fields ih =>
    obtain ⟨key, value⟩ := f
    rw [FieldsEncodable, ih, List.forall_mem_cons, and_assoc]

theorem itemsEncodable_iff {items : List Json} :
    ItemsEncodable items ↔ ∀ item ∈ items, JsonEncodable item := by
  induction items with
  | nil => simp [ItemsEncodable]
  | cons item items ih => rw [ItemsEncodable, ih, List.forall_mem_cons]

theorem encodable_of_ascii {text : Str} (h : ∀ c ∈ text, c < 128) : IsEncodable text :=
  fun c hc => isScalar_of_ascii (h c hc)

theorem encodable_lit (text : String) : IsEncodable (lit text) := by
  intro c hc
  rw [lit_eq] at hc
  obtain ⟨d, -, rfl⟩ := List.mem_map.mp hc
  exact isScalar_toNat d

theorem IsEncodable.append {s t : Str} (hs : IsEncodable s) (ht : IsEncodable t) :
    IsEncodable (s ++ t) := fun c hc => (List.mem_append.mp hc).elim (hs c) (ht c)

theorem forall_mem_intercalate {p : ℕ → Prop} {sep : Str} {texts : List Str}
    (hsep : ∀ c ∈ sep, p c) (h : ∀ t ∈ texts, ∀ c ∈ t, p c) : ∀ c ∈ sep.intercalate texts, p c := by
  induction texts with
  | nil => simp
  | cons t texts ih =>
    cases texts with
    | nil => simpa using h
    | cons u texts =>
      rw [List.intercalate_cons_cons]
      intro c hc
      rcases List.mem_append.mp hc with hc | hc
      · exact (List.mem_append.mp hc).elim (h t (by simp) c) (hsep c)
      · exact ih (fun v hv => h v (List.mem_cons_of_mem _ hv)) c hc

theorem encodable_intercalate {sep : Str} {texts : List Str} (hsep : IsEncodable sep)
    (h : ∀ t ∈ texts, IsEncodable t) : IsEncodable (sep.intercalate texts) :=
  forall_mem_intercalate hsep h

theorem encodable_jsonEscape {c : ℕ} (h : isScalar c) : IsEncodable (jsonEscape c) := by
  unfold jsonEscape
  split
  · decide
  · decide
  · decide
  · decide
  · decide
  · decide
  · decide
  · split
    · next hlt =>
      refine IsEncodable.append (by decide) (encodable_of_ascii fun d hd => ?_)
      simp only [List.mem_cons, List.not_mem_nil, or_false, Sha256.hexDigit] at hd
      rcases hd with rfl | rfl <;> split <;> omega
    · intro d hd
      obtain rfl := List.mem_singleton.mp hd
      exact h

theorem encodable_jsonString {text : Str} (h : IsEncodable text) : IsEncodable (jsonString text) := by
  refine IsEncodable.append (IsEncodable.append (by decide) fun c hc => ?_) (by decide)
  obtain ⟨d, hd, hc⟩ := List.mem_flatMap.mp hc
  exact encodable_jsonEscape (h d hd) c hc

theorem encodable_jsonInt (n : ℤ) : IsEncodable (jsonInt n) := by
  refine IsEncodable.append ?_ (encodable_of_ascii fun c hc => ?_)
  · split <;> decide
  · have := decimal_ascii hc
    omega

theorem mem_intercalate {sep t : Str} {texts : List Str} (ht : t ∈ texts) {c : ℕ} (hc : c ∈ t) :
    c ∈ sep.intercalate texts := by
  induction texts with
  | nil => simp at ht
  | cons u texts ih =>
    cases texts with
    | nil =>
      obtain rfl := List.mem_singleton.mp ht
      simpa using hc
    | cons v texts =>
      rw [List.intercalate_cons_cons, List.mem_append, List.mem_append]
      rcases List.mem_cons.mp ht with rfl | ht
      · exact .inl (.inl hc)
      · exact .inr (ih ht)

theorem encodable_of_jsonString {text : Str} (h : IsEncodable (jsonString text)) :
    IsEncodable text := by
  intro c hc
  by_cases hascii : c < 128
  · exact isScalar_of_ascii hascii
  · refine h c ?_
    have hescape : jsonEscape c = [c] := by
      unfold jsonEscape
      split
      any_goals omega
      rw [if_neg (by omega)]
    refine List.mem_append_left _ (List.mem_append_right _ (List.mem_flatMap.mpr ⟨c, hc, ?_⟩))
    rw [hescape]
    exact List.mem_singleton_self c

/-! ## Short integers -/

/-- How many values `int.__repr__` writes and `int` reads: those of at most 4300 digits. -/
@[irreducible] def maxInt : ℕ := 10 ^ 4300

theorem pow_le_maxInt {k : ℕ} (h : k ≤ 4300) : 10 ^ k ≤ maxInt := by
  -- the exponent is kept abstract, so that the power is not computed
  generalize hdigits : 4300 = digits at h
  unfold maxInt
  rw [hdigits]
  exact Nat.pow_le_pow_right (by decide) h

mutual

/-- No integer in the value is longer than `int.__repr__` writes. -/
def intsShort : Json → Bool
  | .int n => n.natAbs < maxInt
  | .arr items => itemsShort items
  | .obj fields => fieldsShort fields
  | _ => true

/-- No integer of a list's items is too long. -/
def itemsShort : List Json → Bool
  | [] => true
  | item :: items => intsShort item && itemsShort items

/-- No integer of an object's values is too long. -/
def fieldsShort : List (Str × Json) → Bool
  | [] => true
  | (_, value) :: fields => intsShort value && fieldsShort fields

end

theorem natAbs_lt_of_intsShort {n : ℤ} (h : intsShort (.int n) = true) : n.natAbs < maxInt := by
  rw [intsShort] at h
  exact of_decide_eq_true h

theorem itemsShort_iff {items : List Json} :
    itemsShort items = true ↔ ∀ item ∈ items, intsShort item = true := by
  induction items with
  | nil => simp [itemsShort]
  | cons item items ih => simp [itemsShort, ih]

theorem fieldsShort_iff {fields : List (Str × Json)} :
    fieldsShort fields = true ↔ ∀ f ∈ fields, intsShort f.2 = true := by
  induction fields with
  | nil => simp [fieldsShort]
  | cons f fields ih =>
    obtain ⟨key, value⟩ := f
    simp [fieldsShort, ih]

/-! ## Writing -/

section

variable [Interpreter]

mutual

/-- `json.dumps`; `none` is the `ValueError` for a float that is not finite. -/
def jsonText : Json → Option Str
  | .null => some (lit "null")
  | .bool true => some (lit "true")
  | .bool false => some (lit "false")
  | .int n => some (jsonInt n)
  | .float (.finite q) => some (Interpreter.reprFloat q)
  | .float _ => none
  | .str text => some (jsonString text)
  | .arr items =>
    (jsonItemTexts items).map fun texts => lit "[" ++ (lit ",").intercalate texts ++ lit "]"
  | .obj fields =>
    (jsonFieldTexts fields).map fun texts => lit "\x7b" ++ jsonFields texts ++ lit "\x7d"

/-- The texts of a list's items. -/
def jsonItemTexts : List Json → Option (List Str)
  | [] => some []
  | item :: items =>
    match jsonText item, jsonItemTexts items with
    | some text, some texts => some (text :: texts)
    | _, _ => none

/-- The names and the texts of an object's values. -/
def jsonFieldTexts : List (Str × Json) → Option (List (Str × Str))
  | [] => some []
  | (key, value) :: fields =>
    match jsonText value, jsonFieldTexts fields with
    | some text, some texts => some ((key, text) :: texts)
    | _, _ => none

end

/-- `canonical_json_bytes`, with the top-level fields `omit_fields` left out. -/
def canonicalJsonBytes (value : Json) (omitFields : List String := []) :
    Except PyError Bytes :=
  let kept := match omitFields, value with
    | [], value => some value
    | _, .obj fields => some (.obj (fields.filter fun f => f.1 ∉ omitFields.map lit))
    | _, _ => none
  match kept with
  | none => .error .type
  | some value =>
    match jsonText value with
    | none => .error (.value "canonical JSON rejects NaN and Infinity")
    | some text =>
      if intsShort value = false then
        .error (.value "Exceeds the limit (4300 digits) for integer string conversion")
      else
        match utf8Encode text with
        | none => .error .unicodeEncode
        | some bytes => .ok bytes

/-- `sha256_identity` -/
def sha256Identity (value : Json) (omitFields : List String := []) : Except PyError Str :=
  (canonicalJsonBytes value omitFields).map Interpreter.hexdigest

/-! ## Values that have an encoding -/

mutual

/-- An encodable value is written as encodable text. -/
theorem exists_jsonText {value : Json} (h : JsonEncodable value) :
    ∃ text, jsonText value = some text ∧ IsEncodable text := by
  cases value with
  | null => exact ⟨_, rfl, by decide⟩
  | bool b => cases b <;> exact ⟨_, rfl, by decide⟩
  | int n => exact ⟨_, rfl, encodable_jsonInt n⟩
  | float x =>
    cases x with
    | finite q => exact ⟨_, rfl, encodable_of_ascii (Interpreter.reprFloat_ascii q)⟩
    | inf negative => simp [JsonEncodable, PyFloat.isFinite] at h
    | nan => simp [JsonEncodable, PyFloat.isFinite] at h
  | str text => exact ⟨_, rfl, encodable_jsonString (by simpa [JsonEncodable] using h)⟩
  | arr items =>
    obtain ⟨texts, ht, henc⟩ := exists_jsonItemTexts (by simpa [JsonEncodable] using h)
    exact ⟨_, by rw [jsonText, ht]; rfl,
      ((by decide : IsEncodable (lit "[")).append
        (encodable_intercalate (by decide) henc)).append (by decide)⟩
  | obj fields =>
    obtain ⟨texts, ht, henc⟩ := exists_jsonFieldTexts (by simpa [JsonEncodable] using h)
    refine ⟨_, by rw [jsonText, ht]; rfl,
      ((by decide : IsEncodable (lit "\x7b")).append
        (encodable_intercalate (by decide) ?_)).append (by decide)⟩
    intro t ht'
    obtain ⟨f, hf, rfl⟩ := List.mem_map.mp ht'
    have hmem := (List.mem_insertionSort _).mp hf
    exact ((encodable_jsonString (henc f hmem).1).append (by decide)).append (henc f hmem).2

theorem exists_jsonItemTexts {items : List Json} (h : ItemsEncodable items) :
    ∃ texts, jsonItemTexts items = some texts ∧ ∀ t ∈ texts, IsEncodable t := by
  cases items with
  | nil => exact ⟨[], rfl, by simp⟩
  | cons item items =>
    obtain ⟨hitem, hitems⟩ := h
    obtain ⟨text, ht, henc⟩ := exists_jsonText hitem
    obtain ⟨texts, hts, hencs⟩ := exists_jsonItemTexts hitems
    exact ⟨text :: texts, by rw [jsonItemTexts, ht, hts], by simpa using ⟨henc, hencs⟩⟩

theorem exists_jsonFieldTexts {fields : List (Str × Json)} (h : FieldsEncodable fields) :
    ∃ texts, jsonFieldTexts fields = some texts ∧
      ∀ f ∈ texts, IsEncodable f.1 ∧ IsEncodable f.2 := by
  cases fields with
  | nil => exact ⟨[], rfl, by simp⟩
  | cons field fields =>
    obtain ⟨key, value⟩ := field
    obtain ⟨hkey, hvalue, hfields⟩ := h
    obtain ⟨text, ht, henc⟩ := exists_jsonText hvalue
    obtain ⟨texts, hts, hencs⟩ := exists_jsonFieldTexts hfields
    refine ⟨(key, text) :: texts, by rw [jsonFieldTexts, ht, hts], fun f hf => ?_⟩
    rcases List.mem_cons.mp hf with rfl | hf
    · exact ⟨hkey, henc⟩
    · exact hencs f hf

end

mutual

/-- Only an encodable value is written as encodable text. -/
theorem jsonEncodable_of_jsonText {value : Json} {text : Str} (h : jsonText value = some text)
    (henc : IsEncodable text) : JsonEncodable value := by
  cases value with
  | null => exact trivial
  | bool b => exact trivial
  | int n => exact trivial
  | float x =>
    cases x with
    | finite q => exact rfl
    | inf negative => simp [jsonText] at h
    | nan => simp [jsonText] at h
  | str s =>
    obtain rfl := Option.some.inj h
    exact encodable_of_jsonString henc
  | arr items =>
    obtain ⟨texts, htexts, rfl⟩ := Option.map_eq_some_iff.mp h
    exact itemsEncodable_of_jsonItemTexts htexts fun t ht c hc => henc c
      (List.mem_append_left _ (List.mem_append_right _ (mem_intercalate ht hc)))
  | obj fields =>
    obtain ⟨texts, htexts, rfl⟩ := Option.map_eq_some_iff.mp h
    refine fieldsEncodable_of_jsonFieldTexts htexts fun f hf => ?_
    have hmem : ∀ c ∈ jsonString f.1 ++ lit ":" ++ f.2, isScalar c := fun c hc => henc c
      (List.mem_append_left _ (List.mem_append_right _ (mem_intercalate
        (List.mem_map.mpr ⟨f, (List.mem_insertionSort _).mpr hf, rfl⟩) hc)))
    exact ⟨encodable_of_jsonString fun c hc => hmem c
        (List.mem_append_left _ (List.mem_append_left _ hc)),
      fun c hc => hmem c (List.mem_append_right _ hc)⟩

theorem itemsEncodable_of_jsonItemTexts {items : List Json} {texts : List Str}
    (h : jsonItemTexts items = some texts) (henc : ∀ t ∈ texts, IsEncodable t) :
    ItemsEncodable items := by
  cases items with
  | nil => exact trivial
  | cons item items =>
    rw [jsonItemTexts] at h
    split at h
    · next text texts' htext htexts =>
      obtain rfl := Option.some.inj h
      exact ⟨jsonEncodable_of_jsonText htext (henc text (by simp)),
        itemsEncodable_of_jsonItemTexts htexts fun t ht => henc t (by simp [ht])⟩
    · simp at h

theorem fieldsEncodable_of_jsonFieldTexts {fields : List (Str × Json)} {texts : List (Str × Str)}
    (h : jsonFieldTexts fields = some texts)
    (henc : ∀ f ∈ texts, IsEncodable f.1 ∧ IsEncodable f.2) : FieldsEncodable fields := by
  cases fields with
  | nil => exact trivial
  | cons field fields =>
    obtain ⟨key, value⟩ := field
    rw [jsonFieldTexts] at h
    split at h
    · next text texts' htext htexts =>
      obtain rfl := Option.some.inj h
      have hfirst := henc (key, text) (by simp)
      exact ⟨hfirst.1, jsonEncodable_of_jsonText htext hfirst.2,
        fieldsEncodable_of_jsonFieldTexts htexts fun f hf => henc f (by simp [hf])⟩
    · simp at h

end

/-- **The values that have an identity** are those of encodable texts, finite floats and short
integers. -/
theorem exists_sha256Identity_iff {value : Json} :
    (∃ digest, sha256Identity value = .ok digest) ↔
      JsonEncodable value ∧ intsShort value = true := by
  simp only [sha256Identity, canonicalJsonBytes]
  constructor
  · rintro ⟨digest, h⟩
    obtain ⟨bytes, h, -⟩ := exists_of_map_eq_ok h
    split at h
    · simp at h
    · next text htext =>
      split_ifs at h with hlong
      split at h
      · simp at h
      · next encoded hencoded =>
        refine ⟨jsonEncodable_of_jsonText htext ?_, Bool.eq_true_of_not_eq_false hlong⟩
        exact utf8Encode_isSome_iff.mp (by rw [hencoded]; rfl)
  · rintro ⟨henc, hshort⟩
    obtain ⟨text, htext, hscalar⟩ := exists_jsonText henc
    obtain ⟨bytes, hbytes⟩ := exists_utf8Encode hscalar
    exact ⟨Interpreter.hexdigest bytes, by
      simp only [htext, hshort, hbytes, Bool.true_eq_false, if_false, Except.map]⟩

/-- The identity of a value whose text is ASCII. -/
theorem identity_of_ascii {value : Json} {text digest : Str} (htext : jsonText value = some text)
    (hascii : ∀ c ∈ text, c < 128) (h : sha256Identity value = .ok digest) :
    Interpreter.hexdigest (text.map UInt8.ofNat) = digest := by
  have hshort := (exists_sha256Identity_iff.mp ⟨digest, h⟩).2
  simp only [sha256Identity, canonicalJsonBytes, htext, hshort, utf8Encode_of_ascii hascii,
    Bool.true_eq_false, if_false] at h
  exact Except.ok.inj h

/-- The identity of an object without one of its fields. -/
theorem sha256Identity_omit {fields kept : List (Str × Json)} {name : String}
    (h : fields.filter (fun f => f.1 ∉ [name].map lit) = kept) :
    sha256Identity (.obj fields) [name] = sha256Identity (.obj kept) := by
  unfold sha256Identity canonicalJsonBytes
  dsimp only
  rw [h]

/-- The value of the field that is left out does not show. -/
theorem sha256Identity_omit_congr (before after : List (Str × Json)) (name : String) (v w : Json) :
    sha256Identity (.obj (before ++ (lit name, v) :: after)) [name] =
      sha256Identity (.obj (before ++ (lit name, w) :: after)) [name] := by
  have hkept : ∀ value, (before ++ (lit name, value) :: after).filter
      (fun f => f.1 ∉ [name].map lit) = (before ++ after).filter fun f => f.1 ∉ [name].map lit := by
    intro value
    rw [List.filter_append, List.filter_cons_of_neg (by simp), ← List.filter_append]
  rw [sha256Identity_omit (hkept v), sha256Identity_omit (hkept w)]

/-- An object of encodable texts, finite floats and short integers has an identity, whatever is left
out. -/
theorem exists_sha256Identity {fields : List (Str × Json)} (h : FieldsEncodable fields)
    (hshort : fieldsShort fields = true) (omitFields : List String := []) :
    ∃ digest, sha256Identity (.obj fields) omitFields = .ok digest := by
  cases omitFields with
  | nil => exact exists_sha256Identity_iff.mpr ⟨h, hshort⟩
  | cons name names =>
    let kept := fields.filter fun f => f.1 ∉ (name :: names).map lit
    have hkept : JsonEncodable (.obj kept) := fieldsEncodable_iff.mpr fun f hf =>
      fieldsEncodable_iff.mp h f (List.mem_of_mem_filter hf)
    have hkeptShort : intsShort (.obj kept) = true := fieldsShort_iff.mpr fun f hf =>
      fieldsShort_iff.mp hshort f (List.mem_of_mem_filter hf)
    exact exists_sha256Identity_iff.mpr ⟨hkept, hkeptShort⟩

theorem encodable_hexdigest (data : Bytes) : IsEncodable (Interpreter.hexdigest data) :=
  encodable_of_ascii fun c hc => by
    have h := (Interpreter.hexdigest_isSha256 data).2 c hc
    simp only [isHexDigit, Bool.or_eq_true, Bool.and_eq_true, decide_eq_true_eq] at h
    omega

theorem encodable_sha256Identity {value : Json} {omitFields : List String} {digest : Str}
    (h : sha256Identity value omitFields = .ok digest) : IsEncodable digest := by
  obtain ⟨bytes, -, rfl⟩ := exists_of_map_eq_ok h
  exact encodable_hexdigest bytes

theorem isSha256_of_sha256Identity {value : Json} {omitFields : List String} {digest : Str}
    (h : sha256Identity value omitFields = .ok digest) : IsSha256 digest := by
  obtain ⟨bytes, -, rfl⟩ := exists_of_map_eq_ok h
  exact Interpreter.hexdigest_isSha256 bytes

end

theorem encodable_of_isSha256 {text : Str} (h : IsSha256 text) : IsEncodable text :=
  encodable_of_ascii fun c hc => by
    have hdigit := h.2 c hc
    simp only [isHexDigit, Bool.or_eq_true, Bool.and_eq_true, decide_eq_true_eq] at hdigit
    omega
