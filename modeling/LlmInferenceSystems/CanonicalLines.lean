import LlmInferenceSystems.CanonicalValues

/-!
# Canonical JSON is one line

The text of a value has no control character: strings are escaped, and what is left of a number is
what the scanner reads. So the octets of a value have no line break, and values that were written as
lines are the lines of the octets that they were joined to.

## Main definitions

* `bytesSplitlines`: `bytes.splitlines()`

## Main results

* `Json.Readable.printed`: the text of a value has no control character
* `bytesSplitlines_lines`: the lines of octets that were joined of lines
-/

open Python

namespace Python.Json

/-! ## Numbers -/

/-- A text without white space and without control characters. -/
def Printed (text : Str) : Prop := ∀ c ∈ text, 32 < c

theorem Printed.append {s t : Str} (hs : Printed s) (ht : Printed t) : Printed (s ++ t) :=
  fun c hc => (List.mem_append.mp hc).elim (hs c) (ht c)

theorem printed_takeWhile_isDigit (text : Str) : Printed (text.takeWhile isDigit) := by
  intro c hc
  have hdigit := List.mem_takeWhile_imp hc
  simp only [isDigit, Bool.and_eq_true, decide_eq_true_eq] at hdigit
  omega

/-- What is scanned of a text: a part without control characters. -/
def Consumes (text rest : Str) : Prop := ∃ token, text = token ++ rest ∧ Printed token

theorem Consumes.refl (text : Str) : Consumes text text := ⟨[], rfl, by simp [Printed]⟩

theorem Consumes.trans {s t u : Str} (h : Consumes s t) (h' : Consumes t u) : Consumes s u := by
  obtain ⟨token, rfl, hprinted⟩ := h
  obtain ⟨token', rfl, hprinted'⟩ := h'
  exact ⟨token ++ token', (List.append_assoc _ _ _).symm, hprinted.append hprinted'⟩

theorem consumes_cons {c : ℕ} (hc : 32 < c) (text : Str) : Consumes (c :: text) text :=
  ⟨[c], rfl, by simpa [Printed] using hc⟩

theorem consumes_digits (text : Str) : Consumes text (text.dropWhile isDigit) :=
  ⟨text.takeWhile isDigit, List.takeWhile_append_dropWhile.symm, printed_takeWhile_isDigit text⟩

theorem consumes_scanFraction (text : Str) : Consumes text (scanFraction text).2 := by
  unfold scanFraction
  split
  · split
    · exact .refl _
    · exact (consumes_cons (by decide) _).trans (consumes_digits _)
  · exact .refl _

theorem consumes_scanExponent {text rest : Str} {n : ℤ} (h : scanExponent text = some (n, rest)) :
    Consumes text rest := by
  unfold scanExponent at h
  split at h
  · next c tail =>
    split at h
    · next hc =>
      refine (consumes_cons (by omega) _).trans ?_
      dsimp only at h
      split at h <;> split at h
      · cases h
      · obtain ⟨-, rfl⟩ := Prod.mk.inj (Option.some.inj h)
        exact (consumes_cons (by decide) _).trans (consumes_digits _)
      · cases h
      · obtain ⟨-, rfl⟩ := Prod.mk.inj (Option.some.inj h)
        exact (consumes_cons (by decide) _).trans (consumes_digits _)
      · cases h
      · obtain ⟨-, rfl⟩ := Prod.mk.inj (Option.some.inj h)
        exact consumes_digits _
    · cases h
  · cases h

/-- What `scanMagnitude` does after the whole digits. -/
theorem consumes_number {ε : Type} {text rest : Str} (whole : Str × Str) {value : Json}
    {float int : Json} {decimal : ℤ → Json} (hwhole : Consumes text whole.2)
    (h : (if whole.1.isEmpty then (.error .decode : Except (LoadError ε) (Json × Str))
      else
        match scanExponent (scanFraction whole.2).2 with
        | some (e, rest) => .ok (decimal e, rest)
        | none =>
          if (scanFraction whole.2).1.isEmpty then
            if 4300 < whole.1.length then .error .digits else .ok (int, (scanFraction whole.2).2)
          else .ok (float, (scanFraction whole.2).2)) = .ok (value, rest)) :
    Consumes text rest := by
  have hfraction := hwhole.trans (consumes_scanFraction whole.2)
  split at h
  · cases h
  · split at h
    · next e rest' hexponent =>
      obtain ⟨-, rfl⟩ := Prod.mk.inj (Except.ok.inj h)
      exact hfraction.trans (consumes_scanExponent hexponent)
    · split at h
      · split at h
        · cases h
        · obtain ⟨-, rfl⟩ := Prod.mk.inj (Except.ok.inj h)
          exact hfraction
      · obtain ⟨-, rfl⟩ := Prod.mk.inj (Except.ok.inj h)
        exact hfraction

theorem consumes_scanMagnitude {ε : Type} {negative : Bool} {text rest : Str} {value : Json}
    (h : @scanMagnitude ε negative text = .ok (value, rest)) : Consumes text rest := by
  unfold scanMagnitude at h
  dsimp only at h
  split at h
  · next tail => exact consumes_number ([48], tail) (consumes_cons (by decide) _) h
  · exact consumes_number (text.takeWhile isDigit, text.dropWhile isDigit)
      (consumes_digits _) h

theorem consumes_scanAtom {ε : Type} {text rest : Str} {value : Json}
    (h : @scanAtom ε text = .ok (value, rest)) : Consumes text rest := by
  unfold scanAtom at h
  split at h
  · next word value' hfind =>
    obtain ⟨-, rfl⟩ := Prod.mk.inj (Except.ok.inj h)
    obtain ⟨hstarts, -⟩ := List.find?_eq_some_iff_append.mp hfind
    obtain ⟨tail, rfl⟩ := List.isPrefixOf_iff_prefix.mp hstarts
    have hword : ∀ entry ∈ words, Printed entry.1 := by
      unfold Printed
      decide
    exact ⟨word, by rw [List.drop_left], hword _ (List.mem_of_find?_eq_some hfind)⟩
  · split at h
    · exact (consumes_cons (by decide) _).trans (consumes_scanMagnitude h)
    · exact consumes_scanMagnitude h

/-! ## Values -/

/-- A text without control characters. -/
def Unbroken (text : Str) : Prop := ∀ c ∈ text, 32 ≤ c

theorem Printed.unbroken {text : Str} (h : Printed text) : Unbroken text :=
  fun c hc => (h c hc).le

theorem Unbroken.append {s t : Str} (hs : Unbroken s) (ht : Unbroken t) : Unbroken (s ++ t) :=
  fun c hc => (List.mem_append.mp hc).elim (hs c) (ht c)

theorem unbroken_jsonEscape (c : ℕ) : Unbroken (jsonEscape c) := by
  unfold jsonEscape Unbroken
  split
  · decide
  · decide
  · decide
  · decide
  · decide
  · decide
  · decide
  · split
    · intro d hd
      have hhex : ∀ n < 16, 32 ≤ Sha256.hexDigit n := by decide
      rcases List.mem_append.mp hd with hd | hd
      · have hmarker : ∀ d ∈ lit "\\u00", 32 ≤ d := by decide
        exact hmarker d hd
      · rcases List.mem_pair.mp hd with rfl | rfl
        · exact hhex _ (by omega)
        · exact hhex _ (by omega)
    · intro d hd
      obtain rfl := List.mem_singleton.mp hd
      omega

theorem unbroken_jsonString (text : Str) : Unbroken (jsonString text) := by
  refine (Unbroken.append (by unfold Unbroken; decide) ?_).append (by unfold Unbroken; decide)
  intro c hc
  obtain ⟨d, -, hd⟩ := List.mem_flatMap.mp hc
  exact unbroken_jsonEscape d c hd

theorem unbroken_jsonInt (n : ℤ) : Unbroken (jsonInt n) := by
  refine Unbroken.append ?_ ?_
  · unfold Unbroken
    split <;> decide
  · intro c hc
    have hdigit := isDigit_decimal hc
    simp only [isDigit, Bool.and_eq_true, decide_eq_true_eq] at hdigit
    omega

theorem unbroken_intercalate {sep : Str} {texts : List Str} (hsep : Unbroken sep)
    (h : ∀ text ∈ texts, Unbroken text) : Unbroken (sep.intercalate texts) :=
  forall_mem_intercalate hsep h

variable [Interpreter]

/-- The text of a float is all scanned. -/
theorem FloatReads.printed {q : ℚ} (h : FloatReads q) : Printed (Interpreter.reprFloat q) := by
  obtain ⟨token, htoken, hprinted⟩ := consumes_scanAtom (h Empty [] (by simp [EndsNumber]))
  rw [List.append_nil, List.append_nil] at htoken
  exact htoken ▸ hprinted

/-- **The text of a value has no control character.** -/
theorem Readable.unbroken {depth : ℕ} {value : Json} (h : Readable depth value) {text : Str}
    (ht : jsonText value = some text) : Unbroken text := by
  -- -- an atom prints no line break; an array or an object joins texts that hold none
  induction h generalizing text with
  | null =>
    obtain rfl := Option.some.inj ht
    unfold Unbroken
    decide
  | bool b =>
    cases b <;> obtain rfl := Option.some.inj ht <;> unfold Unbroken <;> decide
  | int _ =>
    obtain rfl := Option.some.inj ht
    exact unbroken_jsonInt _
  | float reads =>
    obtain rfl := Option.some.inj ht
    exact reads.printed.unbroken
  | str text =>
    obtain rfl := Option.some.inj ht
    exact unbroken_jsonString _
  | arr _ ih =>
    obtain ⟨texts, htexts, rfl⟩ := Option.map_eq_some_iff.mp ht
    have hitems := jsonItemTexts_eq_some.mp htexts
    refine (Unbroken.append (by unfold Unbroken; decide) (unbroken_intercalate ?_ ?_)).append
      (by unfold Unbroken; decide)
    · unfold Unbroken
      decide
    · intro text htext
      -- -- the text of an item is one the induction speaks of
      obtain ⟨item, hitem, hread⟩ := exists_of_forall₂_mem hitems htext
      exact ih item hitem hread
  | obj _ _ ih =>
    obtain ⟨texts, htexts, rfl⟩ := Option.map_eq_some_iff.mp ht
    have hfields := jsonFieldTexts_eq_some.mp htexts
    refine (Unbroken.append (by unfold Unbroken; decide) (unbroken_intercalate ?_ ?_)).append
      (by unfold Unbroken; decide)
    · unfold Unbroken
      decide
    · intro text htext
      obtain ⟨field, hfield, rfl⟩ := List.mem_map.mp htext
      -- -- sorting the fields leaves them the same fields
      have hfield := (List.mem_insertionSort _).mp hfield
      obtain ⟨f, hf, -, hread⟩ := exists_of_forall₂_mem hfields hfield
      exact ((unbroken_jsonString _).append (by unfold Unbroken; decide)).append (ih f hf hread)

end Python.Json

/-! ## Lines -/

namespace Python

/-- `data.splitlines()`, after the octets of the line so far. -/
def bytesSplitlinesFrom : Bytes → Bytes → List Bytes
  | [], [] => []
  | line, [] => [line]
  | line, 13 :: 10 :: rest => line :: bytesSplitlinesFrom [] rest
  | line, b :: rest =>
    if b = 10 ∨ b = 13 then line :: bytesSplitlinesFrom [] rest
    else bytesSplitlinesFrom (line ++ [b]) rest

/-- `data.splitlines()` -/
def bytesSplitlines (data : Bytes) : List Bytes := bytesSplitlinesFrom [] data

/-- Octets without a line break. -/
def UnbrokenOctets (octets : Bytes) : Prop := ∀ b ∈ octets, b ≠ 10 ∧ b ≠ 13

theorem unbroken_utf8Point {c : ℕ} (h : 32 ≤ c) (hscalar : isScalar c) :
    UnbrokenOctets (utf8Point c) := by
  -- -- an octet of at least 32 is neither break
  have hbreak : ∀ n, 32 ≤ n → n < 256 → UInt8.ofNat n ≠ 10 ∧ UInt8.ofNat n ≠ 13 := by
    intro n hle hlt
    have hnat : (UInt8.ofNat n).toNat = n := by
      rw [UInt8.toNat_ofNat', Nat.mod_eq_of_lt hlt]
    constructor
    · rintro heq
      have hten : n = 10 := hnat.symm.trans (congrArg UInt8.toNat heq)
      omega
    · rintro heq
      have hthirteen : n = 13 := hnat.symm.trans (congrArg UInt8.toNat heq)
      omega
  have hlimit : c < 0x110000 := hscalar.1
  intro b hb
  unfold utf8Point at hb
  -- -- every octet of a longer encoding is at least 128
  split_ifs at hb with h₁ h₂ h₃
  · obtain rfl := List.mem_singleton.mp hb
    exact hbreak _ h (by omega)
  · rcases List.mem_pair.mp hb with rfl | rfl
    · exact hbreak _ (by omega) (by omega)
    · exact hbreak _ (by omega) (by omega)
  · simp only [List.mem_cons, List.not_mem_nil, or_false] at hb
    rcases hb with rfl | rfl | rfl
    · exact hbreak _ (by omega) (by omega)
    · exact hbreak _ (by omega) (by omega)
    · exact hbreak _ (by omega) (by omega)
  · simp only [List.mem_cons, List.not_mem_nil, or_false] at hb
    rcases hb with rfl | rfl | rfl | rfl
    · exact hbreak _ (by omega) (by omega)
    · exact hbreak _ (by omega) (by omega)
    · exact hbreak _ (by omega) (by omega)
    · exact hbreak _ (by omega) (by omega)

theorem unbroken_utf8Encode {text : Str} {octets : Bytes} (h : utf8Encode text = some octets)
    (htext : Json.Unbroken text) : UnbrokenOctets octets := by
  induction text generalizing octets with
  | nil =>
    obtain rfl := Option.some.inj h
    simp [UnbrokenOctets]
  | cons c text ih =>
    rw [utf8Encode] at h
    split at h
    · next hscalar =>
      obtain ⟨rest, hrest, rfl⟩ := Option.map_eq_some_iff.mp h
      obtain ⟨hc, htext⟩ := List.forall_mem_cons.mp htext
      intro b hb
      rcases List.mem_append.mp hb with hb | hb
      · exact unbroken_utf8Point hc hscalar b hb
      · exact ih hrest htext b hb
    · cases h

/-- A line is read up to its line feed. -/
theorem bytesSplitlinesFrom_lineFeed {octets : Bytes} (h : UnbrokenOctets octets)
    (line rest : Bytes) :
    bytesSplitlinesFrom line (octets ++ 10 :: rest) =
      (line ++ octets) :: bytesSplitlinesFrom [] rest := by
  induction octets generalizing line with
  | nil =>
    rw [List.nil_append, List.append_nil, bytesSplitlinesFrom, if_pos (.inl rfl)]
    · rintro tail ⟨⟩
  | cons b octets ih =>
    obtain ⟨⟨hlf, hcr⟩, hrest⟩ := List.forall_mem_cons.mp h
    rw [List.cons_append, bytesSplitlinesFrom, if_neg (by simp [hlf, hcr]), ih hrest,
      List.append_assoc, List.singleton_append]
    · intro tail hb
      exact absurd hb hcr

/-- **Octets that were joined of lines** have these lines. -/
theorem bytesSplitlines_lines {lines : List Bytes} (h : ∀ line ∈ lines, UnbrokenOctets line) :
    bytesSplitlines (lines.map (· ++ [10])).flatten = lines := by
  unfold bytesSplitlines
  induction lines with
  | nil => rfl
  | cons line lines ih =>
    obtain ⟨hline, hlines⟩ := List.forall_mem_cons.mp h
    rw [List.map_cons, List.flatten_cons, List.append_assoc, List.singleton_append,
      bytesSplitlinesFrom_lineFeed hline, ih hlines, List.nil_append]

/-- **The octets of a value are one line.** -/
theorem unbroken_encode [Interpreter] {depth : ℕ} {value : Json} (h : Json.Readable depth value)
    {octets : Bytes} (hencode : PyValue.encode value = .ok octets) : UnbrokenOctets octets := by
  obtain ⟨-, text, htext, hoctets⟩ := PyValue.encode_eq_ok.mp hencode
  exact unbroken_utf8Encode hoctets (h.unbroken htext)

end Python
