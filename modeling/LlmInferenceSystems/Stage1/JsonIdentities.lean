import LlmInferenceSystems.Stage1.JsonFields

/-!
# Identities of JSON records

The identity of a value is the digest of its canonical octets. Values with one identity have the
same octets unless two digests collide, and the same octets are read back as one value; so fields
that are read as they were written are the same.

## Main definitions

* `NoCollision`: the octets of two values collide only when they are the same
* `Distinguishes`: what is written as the same value is the same

## Main results

* `sortKeys_eq_of_sha256Identity`: an identity determines the value up to the order of its keys
* `Reads.distinguishes`, `Distinguishes.field`: a record is determined by its fields
-/

namespace Stage1

open Python Stage2

section

variable [Interpreter]

/-- The octets of two values have one digest only when they are the same. -/
def NoCollision (value value' : Json) : Prop :=
  ∀ octets octets', canonicalJsonBytes value = .ok octets →
    canonicalJsonBytes value' = .ok octets' →
    Interpreter.hexdigest octets = Interpreter.hexdigest octets' → octets = octets'

theorem NoCollision.symm {value value' : Json} (h : NoCollision value value') :
    NoCollision value' value := fun octets octets' hoctets hoctets' hdigest =>
  (h octets' octets hoctets' hoctets hdigest.symm).symm

/-- The octets of a value are those of a text whose integers are short. -/
theorem canonicalJsonBytes_eq_ok {value : Json} {octets : Bytes} :
    canonicalJsonBytes value = .ok octets ↔ intsShort value = true ∧
      ∃ text, jsonText value = some text ∧ utf8Encode text = some octets := by
  unfold canonicalJsonBytes
  dsimp only
  cases jsonText value with
  | none => simp
  | some text =>
    cases intsShort value with
    | false => simp
    | true => cases htext : utf8Encode text <;> simp [htext]

/-- **An identity determines the value**, up to the order of its keys. -/
theorem sortKeys_eq_of_sha256Identity {value value' : Json} (h : ReadsShort 64 value)
    (h' : ReadsShort 64 value') (hcollision : NoCollision value value') {digest : Str}
    (hdigest : sha256Identity value = .ok digest) (hdigest' : sha256Identity value' = .ok digest) :
    value.sortKeys = value'.sortKeys := by
  obtain ⟨octets, hoctets, hhex⟩ := exists_of_map_eq_ok hdigest
  obtain ⟨octets', hoctets', hhex'⟩ := exists_of_map_eq_ok hdigest'
  obtain rfl := hcollision octets octets' hoctets hoctets' (hhex.trans hhex'.symm)
  obtain ⟨hshort, text, htext, hencode⟩ := canonicalJsonBytes_eq_ok.mp hoctets
  obtain ⟨hshort', text', htext', hencode'⟩ := canonicalJsonBytes_eq_ok.mp hoctets'
  -- the octets are read as either value
  have hread := Json.readJson_jsonText ((h hshort).mono Interpreter.jsonDepth_ge) htext hencode
    (show ∀ c ∈ [], Json.isSpace c = true by simp)
  have hread' := Json.readJson_jsonText ((h' hshort').mono Interpreter.jsonDepth_ge) htext' hencode'
    (show ∀ c ∈ [], Json.isSpace c = true by simp)
  exact Option.some.inj (hread.symm.trans hread')

end

/-! ## Fields -/

/-- What is written as the same value, up to the order of its keys, is the same. -/
def Distinguishes {α : Type} (json : α → Json) : Prop :=
  ∀ a b, (json a).sortKeys = (json b).sortKeys → a = b

theorem Reads.distinguishes {α : Type} {read : Json → Option α} {json : α → Json}
    (h : Reads read json) : Distinguishes json := by
  intro a b hab
  have hread := h.read a
  rw [hab, h.read b] at hread
  exact (Option.some.inj hread).symm

/-- A value that may be `None`. -/
theorem Distinguishes.optional {α : Type} {json : α → Json} (h : Distinguishes json)
    (hnull : ∀ a, (json a).sortKeys ≠ .null) : Distinguishes (jsonOptional json) := by
  intro a b hab
  cases a with
  | none =>
    cases b with
    | none => rfl
    | some b => exact absurd hab.symm (hnull b)
  | some a =>
    cases b with
    | none => exact absurd hab (hnull a)
    | some b => exact congrArg some (h a b hab)

theorem Reads.distinguishes_optional {α : Type} {read : Json → Option α} {json : α → Json}
    (h : Reads read json) : Distinguishes (jsonOptional json) :=
  h.distinguishes.optional fun a => (h a).2

/-- A list of values. -/
theorem Distinguishes.tuple {α : Type} {json : α → Json} (h : Distinguishes json) :
    Distinguishes fun items : List α => Json.arr (items.map json) := by
  intro items items' heq
  rw [Json.sortKeys_arr, Json.sortKeys_arr, Json.arr.injEq, List.map_map, List.map_map] at heq
  exact List.map_injective_iff.mpr (fun a b hab => h a b hab) heq

/-- The fields of two objects that are the same up to their order. -/
theorem field_eq_of_sortKeys {fields fields' : List (Str × Json)}
    (hkeys : (fields.map (·.1)).Nodup) (hkeys' : (fields'.map (·.1)).Nodup)
    (h : (Json.obj fields).sortKeys = (Json.obj fields').sortKeys) (name : String) :
    (Json.field fields name).map Json.sortKeys = (Json.field fields' name).map Json.sortKeys := by
  rw [Json.sortKeys_obj, Json.sortKeys_obj, Json.obj.injEq] at h
  rw [← field_sortKeys hkeys, ← field_sortKeys hkeys', h]

/-- A field of two objects that are the same up to the order of their fields. -/
theorem Distinguishes.field {α : Type} {json : α → Json} (h : Distinguishes json)
    (name : String) {fields fields' : List (Str × Json)} {a b : α}
    (hfields : ∀ name, (Json.field fields name).map Json.sortKeys =
      (Json.field fields' name).map Json.sortKeys)
    (ha : Json.field fields name = some (json a)) (hb : Json.field fields' name = some (json b)) :
    a = b := by
  have heq := hfields name
  rw [ha, hb, Option.map_some, Option.map_some] at heq
  exact h a b (Option.some.inj heq)

end Stage1
