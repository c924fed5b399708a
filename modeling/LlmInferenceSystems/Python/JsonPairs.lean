import LlmInferenceSystems.CanonicalReading

/-!
# Documents with repeated keys

A document is read with all its pairs, repeated keys included, or into dictionaries, where the last
pair of a key is kept. The second reading is the first with the pairs of every object merged.

## Main definitions

* `loadsPairs`: the document with all its pairs
* `merge`: the dictionaries that it is read into

## Main results

* `loads_dictOf`: reading into dictionaries
* `last_mem_dictOf`: the last pair of a key is kept
-/

namespace Python.Json

/-- The document with all its pairs. -/
def loadsPairs (depth : ℕ) (text : Str) : Except (LoadError Empty) Json :=
  loads (fun pairs => .ok pairs) depth text

mutual

/-- The pairs of every object merged into a dictionary, inner objects first. -/
def merge : Json → Json
  | .arr items => .arr (mergeItems items)
  | .obj fields => .obj (dictOf (mergeFields fields))
  | value => value

/-- The items of a list, each with the repeated names of its objects merged. -/
def mergeItems : List Json → List Json
  | [] => []
  | item :: items => merge item :: mergeItems items

/-- The values of an object, each with the repeated names of its objects merged. -/
def mergeFields : List (Str × Json) → List (Str × Json)
  | [] => []
  | (key, value) :: fields => (key, merge value) :: mergeFields fields

end

theorem mergeItems_eq_map (items : List Json) : mergeItems items = items.map merge := by
  induction items with
  | nil => rw [mergeItems, List.map_nil]
  | cons item items ih => rw [mergeItems, ih, List.map_cons]

theorem mergeFields_eq_map (fields : List (Str × Json)) :
    mergeFields fields = fields.map fun f => (f.1, merge f.2) := by
  induction fields with
  | nil => rw [mergeFields, List.map_nil]
  | cons f fields ih => rw [mergeFields, ih, List.map_cons]

/-! ## Reading -/

/-- Words and numbers have no pairs. -/
theorem merge_of_scanAtom {text rest : Str} {value : Json}
    (h : scanAtom (ε := Empty) text = .ok (value, rest)) : merge value = value := by
  have hmagnitude : ∀ {negative text}, scanMagnitude (ε := Empty) negative text =
      .ok (value, rest) → merge value = value := by
    intro negative text h
    unfold scanMagnitude at h
    dsimp only at h
    repeat' split at h
    all_goals first
      | (obtain ⟨rfl, -⟩ := Prod.mk.inj (Except.ok.inj h); rfl)
      | simp at h
  unfold scanAtom at h
  split at h
  · next word value' hfind =>
    obtain ⟨rfl, -⟩ := Prod.mk.inj (Except.ok.inj h)
    have hmem := List.mem_of_find?_eq_some hfind
    simp only [words, List.mem_cons, Prod.mk.injEq, List.not_mem_nil, or_false] at hmem
    rcases hmem with ⟨-, rfl⟩ | ⟨-, rfl⟩ | ⟨-, rfl⟩ | ⟨-, rfl⟩ | ⟨-, rfl⟩ | ⟨-, rfl⟩ <;> rfl
  · split at h
    · exact hmagnitude h
    · exact hmagnitude h

/-- The three readers, with dictionaries and with all pairs. -/
theorem scan_dictOf (fuel : ℕ) :
    (∀ depth text, scanValue (ε := Empty) (fun pairs => .ok (dictOf pairs)) fuel depth text =
      (scanValue (fun pairs => .ok pairs) fuel depth text).map fun p => (merge p.1, p.2)) ∧
    (∀ depth text, scanItems (ε := Empty) (fun pairs => .ok (dictOf pairs)) fuel depth text =
      (scanItems (fun pairs => .ok pairs) fuel depth text).map fun p => (mergeItems p.1, p.2)) ∧
    (∀ depth text, scanFields (ε := Empty) (fun pairs => .ok (dictOf pairs)) fuel depth text =
      (scanFields (fun pairs => .ok pairs) fuel depth text).map fun p => (mergeFields p.1, p.2)) := by
  -- -- by induction on the fuel, for a value, for items and for fields at once
  induction fuel with
  | zero =>
    refine ⟨fun _ _ => ?_, fun _ _ => ?_, fun _ _ => ?_⟩
    · rw [scanValue, scanValue]; rfl
    · rw [scanItems, scanItems]; rfl
    · rw [scanFields, scanFields]; rfl
  | succ fuel ih =>
    obtain ⟨hvalue, hitems, hfields⟩ := ih
    refine ⟨fun depth text => ?_, fun depth text => ?_, fun depth text => ?_⟩
    -- -- a value is a string, an object, an array or an atom
    · unfold scanValue
      split
      · split
        · rfl
        · rfl
      · cases depth with
        | zero => rfl
        | succ depth =>
          dsimp only
          split
          · rfl
          · rw [hfields]
            cases scanFields (fun pairs => .ok pairs) fuel depth _ with
            | error e => rfl
            | ok p => rfl
      · cases depth with
        | zero => rfl
        | succ depth =>
          dsimp only
          split
          · rfl
          · rw [hitems]
            cases scanItems (fun pairs => .ok pairs) fuel depth _ with
            | error e => rfl
            | ok p => rfl
      · cases hatom : scanAtom (ε := Empty) text with
        | error e => rfl
        | ok p => rw [Except.map, merge_of_scanAtom hatom]
    -- -- an item is a value, and then comes a separator or the end
    · rw [scanItems, scanItems, hvalue]
      cases scanValue (fun pairs => .ok pairs) fuel depth text with
      | error e => rfl
      | ok p =>
        obtain ⟨item, rest⟩ := p
        simp only [Except.map]
        split
        · rfl
        · rw [hitems]
          cases scanItems (fun pairs => .ok pairs) fuel depth _ with
          | error e => rfl
          | ok p => rfl
        · rfl
    -- -- a field is a key, a colon and a value
    · unfold scanFields
      split
      · split
        · rfl
        · split
          · rw [hvalue]
            cases scanValue (fun pairs => .ok pairs) fuel depth _ with
            | error e => rfl
            | ok p =>
              obtain ⟨item, rest⟩ := p
              simp only [Except.map]
              split
              · rfl
              · rw [hfields]
                cases scanFields (fun pairs => .ok pairs) fuel depth _ with
                | error e => rfl
                | ok p => rfl
              · rfl
          · rfl
      · rfl

/-- **Reading into dictionaries merges the pairs of every object.** -/
theorem loads_dictOf (depth : ℕ) (text : Str) :
    loads (ε := Empty) (fun pairs => .ok (dictOf pairs)) depth text =
      (loadsPairs depth text).map merge := by
  unfold loadsPairs loads
  rw [(scan_dictOf _).1]
  cases scanValue (ε := Empty) (fun pairs => .ok pairs) (2 * text.length + 2) depth
      (skipSpace text) with
  | error e => rfl
  | ok p =>
    obtain ⟨value, rest⟩ := p
    simp only [Except.map]
    split <;> rfl

/-! ## Repeated keys -/

theorem mem_setField (fields : List (Str × Json)) (f : Str × Json) : f ∈ setField fields f := by
  unfold setField
  split
  · next hkey =>
    obtain ⟨g, hg, hsame⟩ := List.mem_map.mp hkey
    refine List.mem_map.mpr ⟨g, hg, ?_⟩
    rw [if_pos hsame]
    exact Prod.ext hsame rfl
  · simp

/-- A pair stays when another key is set. -/
theorem mem_setField_of_ne {fields : List (Str × Json)} {f g : Str × Json} (h : f ∈ fields)
    (hne : f.1 ≠ g.1) : f ∈ setField fields g := by
  unfold setField
  split
  · exact List.mem_map.mpr ⟨f, h, if_neg hne⟩
  · exact List.mem_append_left _ h

/-- **The last pair of a key is kept.** -/
theorem last_mem_dictOf {before after : List (Str × Json)} {f : Str × Json}
    (h : f.1 ∉ after.map (·.1)) : f ∈ dictOf (before ++ f :: after) := by
  unfold dictOf
  rw [List.foldl_append, List.foldl_cons]
  generalize hfields : setField (before.foldl setField []) f = fields
  have hmem : f ∈ fields := hfields ▸ mem_setField _ f
  clear hfields
  induction after generalizing fields with
  | nil => exact hmem
  | cons g after ih =>
    simp only [List.map_cons, List.mem_cons, not_or] at h
    exact ih h.2 _ (mem_setField_of_ne hmem h.1)

/-! ## The strings of a document -/

/-- A string occurs in a value, as the value or deeper in it. -/
inductive StringIn : Str → Json → Prop
  | here (text : Str) : StringIn text (.str text)
  | item {text : Str} {items : List Json} {item : Json} (h : item ∈ items)
      (hin : StringIn text item) : StringIn text (.arr items)
  | field {text : Str} {fields : List (Str × Json)} {f : Str × Json} (h : f ∈ fields)
      (hin : StringIn text f.2) : StringIn text (.obj fields)

/-- A string occurs in the value of a key that is looked for, at any depth and under any pair. -/
inductive UnderKey (p : Str → Bool) : Str → Json → Prop
  | value {text : Str} {fields : List (Str × Json)} {f : Str × Json} (h : f ∈ fields)
      (hkey : p f.1 = true) (hin : StringIn text f.2) : UnderKey p text (.obj fields)
  | field {text : Str} {fields : List (Str × Json)} {f : Str × Json} (h : f ∈ fields)
      (hin : UnderKey p text f.2) : UnderKey p text (.obj fields)
  | item {text : Str} {items : List Json} {item : Json} (h : item ∈ items)
      (hin : UnderKey p text item) : UnderKey p text (.arr items)

/-- A string is itself the value of such a key, and no pair on the way to it is followed by another
with the same key. -/
inductive DirectlyUnder (p : Str → Bool) : Str → Json → Prop
  | value {text key : Str} {before after : List (Str × Json)} (hlast : key ∉ after.map (·.1))
      (hkey : p key = true) : DirectlyUnder p text (.obj (before ++ (key, .str text) :: after))
  | field {text key : Str} {value : Json} {before after : List (Str × Json)}
      (hlast : key ∉ after.map (·.1)) (hin : DirectlyUnder p text value) :
      DirectlyUnder p text (.obj (before ++ (key, value) :: after))
  | item {text : Str} {items : List Json} {item : Json} (h : item ∈ items)
      (hin : DirectlyUnder p text item) : DirectlyUnder p text (.arr items)

/-- The last pair of a key is kept, with its value merged. -/
theorem merge_mem_dictOf {key : Str} {value : Json} {before after : List (Str × Json)}
    (h : key ∉ after.map (·.1)) :
    (key, merge value) ∈ dictOf (mergeFields (before ++ (key, value) :: after)) := by
  rw [mergeFields_eq_map, List.map_append, List.map_cons]
  refine last_mem_dictOf ?_
  rw [List.map_map]
  exact h

end Python.Json
