import Mathlib.Data.List.TakeWhile
import LlmInferenceSystems.Canonical
import LlmInferenceSystems.Python.Checks
import LlmInferenceSystems.Python.Mapping

/-!
# Reading canonical JSON

What `json.dumps` writes, `json.loads` reads back: the same value with the fields of every object in
key order. Integers must be short enough for the interpreter to read and the text of a float must
read back as that float.

## Main definitions

* `Json.sortKeys`: a value with the fields of every object in key order
* `Json.Readable`: the values whose text is read back

## Main results

* `scanValue_jsonText`: the scanner reads a written value, whatever follows it
* `loads_jsonText`: so does the parser
* `jsonText_sortKeys`: the text depends on the value up to the order of keys only
-/

open Python

/-! ## Values that are read back -/

/-- The text cannot go on with more of a number. -/
def EndsNumber (rest : Str) : Prop :=
  ∀ c ∈ rest.head?, Json.isDigit c = false ∧ c ≠ 46 ∧ c ≠ 101 ∧ c ≠ 69

namespace Python.Json

mutual

/-- A value with the fields of every object in key order. -/
def sortKeys : Json → Json
  | .arr items => .arr (sortItems items)
  | .obj fields => .obj (sortFields (sortValues fields))
  | value => value

/-- The items of a list, each with its fields sorted. -/
def sortItems : List Json → List Json
  | [] => []
  | item :: items => sortKeys item :: sortItems items

/-- The values of an object, each with its fields sorted. -/
def sortValues : List (Str × Json) → List (Str × Json)
  | [] => []
  | (key, value) :: fields => (key, sortKeys value) :: sortValues fields

end

theorem sortItems_eq (items : List Json) : sortItems items = items.map sortKeys := by
  induction items with
  | nil => rfl
  | cons item items ih => rw [sortItems, ih, List.map_cons]

theorem sortValues_eq (fields : List (Str × Json)) :
    sortValues fields = fields.map fun f => (f.1, f.2.sortKeys) := by
  induction fields with
  | nil => rfl
  | cons f fields ih => rw [sortValues, ih, List.map_cons]

@[simp] theorem sortKeys_arr (items : List Json) :
    (arr items).sortKeys = arr (items.map sortKeys) := by
  rw [sortKeys, sortItems_eq]

theorem sortKeys_obj (fields : List (Str × Json)) :
    (obj fields).sortKeys = obj ((sortFields fields).map fun f => (f.1, f.2.sortKeys)) := by
  rw [sortKeys, sortValues_eq, sortFields_map]

section

variable [Interpreter]

/-- The text of a float is read as that float. -/
def FloatReads (q : ℚ) : Prop :=
  ∀ ε : Type, ∀ rest, EndsNumber rest →
    @scanAtom ε (Interpreter.reprFloat q ++ rest) = .ok (.float (.finite q), rest)

/-- A value nested at most `depth` containers deep whose text is read back. -/
inductive Readable : ℕ → Json → Prop
  | null {depth} : Readable depth .null
  | bool {depth} (b : Bool) : Readable depth (.bool b)
  | int {depth} {n : ℤ} (short : n.natAbs < maxInt) : Readable depth (.int n)
  | float {depth} {q : ℚ} (reads : FloatReads q) : Readable depth (.float (.finite q))
  | str {depth} (text : Str) : Readable depth (.str text)
  | arr {depth} {items : List Json} (items_readable : ∀ item ∈ items, Readable depth item) :
      Readable (depth + 1) (.arr items)
  | obj {depth} {fields : List (Str × Json)} (keys : (fields.map (·.1)).Nodup)
      (values : ∀ f ∈ fields, Readable depth f.2) : Readable (depth + 1) (.obj fields)

end

/-! ## Strings -/

theorem hexValue_hexDigit {n : ℕ} (h : n < 16) : hexValue (Sha256.hexDigit n) = some n := by
  revert n
  decide

/-- An escaped character is read in one step. -/
theorem scanString_jsonEscape (fuel c : ℕ) (rest : Str) :
    scanString (fuel + 1) (jsonEscape c ++ rest) =
      (scanString fuel rest).map fun p => (c :: p.1, p.2) := by
  unfold jsonEscape
  split
  · rfl
  · rfl
  · rfl
  · rfl
  · rfl
  · rfl
  · rfl
  · next hquote hslash _ _ _ _ _ =>
    split
    · next hlt =>
      -- the escape `\u00xy`: two zeros and the two digits of the character
      have hhex : hex4 (48 :: 48 :: Sha256.hexDigit (c / 16) :: Sha256.hexDigit (c % 16) :: rest) =
          some (c, rest) := by
        have h0 : hexValue 48 = some 0 := rfl
        have h1 := hexValue_hexDigit (n := c / 16) (by omega)
        have h2 := hexValue_hexDigit (n := c % 16) (by omega)
        simp only [hex4, h0, h1, h2]
        congr 2
        omega
      have hescape : unicodeEscape (48 :: 48 :: Sha256.hexDigit (c / 16) ::
          Sha256.hexDigit (c % 16) :: rest) = some (c, rest) := by
        simp only [unicodeEscape, hhex]
        rw [if_neg (by omega)]
      show scanString (fuel + 1) (92 :: 117 :: 48 :: 48 :: Sha256.hexDigit (c / 16) ::
        Sha256.hexDigit (c % 16) :: rest) = _
      simp only [scanString, hescape, if_true]
      rfl
    · next hge =>
      show (if c = 34 then _ else if c = 92 then _ else if c < 32 then none
        else (scanString fuel rest).map fun p => (c :: p.1, p.2)) = _
      rw [if_neg hquote, if_neg hslash, if_neg hge]

/-- A written string is read up to its closing quote. -/
theorem scanString_flatMap (text rest : Str) {fuel : ℕ} (h : text.length < fuel) :
    scanString fuel (text.flatMap jsonEscape ++ 34 :: rest) = some (text, rest) := by
  induction text generalizing fuel with
  | nil =>
    obtain ⟨n, rfl⟩ : ∃ n, fuel = n + 1 := ⟨fuel - 1, by simp at h; omega⟩
    simp [scanString]
  | cons c text ih =>
    obtain ⟨n, rfl⟩ : ∃ n, fuel = n + 1 := ⟨fuel - 1, by simp at h; omega⟩
    rw [List.flatMap_cons, List.append_assoc, scanString_jsonEscape, ih (by simp at h; omega)]
    rfl

theorem one_le_length_jsonEscape (c : ℕ) : 1 ≤ (jsonEscape c).length := by
  unfold jsonEscape
  split <;> try decide
  split <;> simp

theorem length_le_flatMap_jsonEscape (text : Str) :
    text.length ≤ (text.flatMap jsonEscape).length := by
  induction text with
  | nil => simp
  | cons c text ih =>
    have := one_le_length_jsonEscape c
    rw [List.flatMap_cons, List.length_append, List.length_cons]
    omega

/-- The scanner's call for a string. -/
theorem scanString_jsonString (text rest : Str) :
    ∃ tail, jsonString text ++ rest = 34 :: tail ∧
      scanString (tail.length + 1) tail = some (text, rest) := by
  refine ⟨text.flatMap jsonEscape ++ 34 :: rest, ?_, scanString_flatMap text rest ?_⟩
  · simp [jsonString, lit_eq]
  · have := length_le_flatMap_jsonEscape text
    rw [List.length_append]
    omega

/-! ## Integers -/

theorem digitsValue_decimal (n : ℕ) : digitsValue (decimal n) = n := by
  have h := Nat.ofDigitChars_ten_toDigits (n := n)
  rw [Nat.ofDigitChars_eq_foldl] at h
  rw [digitsValue, decimal, List.foldl_map]
  exact h

theorem isDigit_decimal {n c : ℕ} (h : c ∈ decimal n) : isDigit c = true := by
  have := decimal_ascii h
  simp only [isDigit, Bool.and_eq_true, decide_eq_true_eq]
  omega

theorem decimal_ne_nil (n : ℕ) : decimal n ≠ [] := by
  simp [decimal, Nat.toDigits_ne_nil]

theorem length_decimal_le {n k : ℕ} (hk : 0 < k) (h : n < 10 ^ k) : (decimal n).length ≤ k := by
  rw [decimal, List.length_map]
  exact (Nat.length_toDigits_le_iff (by decide) hk).mpr h

/-- Only zero starts with the digit `0`. -/
theorem eq_zero_of_decimal {n : ℕ} {rest : Str} (h : decimal n = 48 :: rest) : n = 0 := by
  induction n using Nat.strongRecOn generalizing rest with
  | _ n ih =>
    rw [decimal, Nat.toDigits_eq_if (by decide)] at h
    split at h
    · next hlt =>
      have hdigit : ∀ m < 10, m.digitChar.toNat = 48 → m = 0 := by decide
      exact hdigit n hlt (List.cons.inj h).1
    · next hge =>
      obtain ⟨d, ds, hds⟩ := List.exists_cons_of_ne_nil (decimal_ne_nil (n / 10))
      rw [List.map_append, show (Nat.toDigits 10 (n / 10)).map Char.toNat = d :: ds from hds,
        List.cons_append] at h
      obtain rfl := (List.cons.inj h).1
      have := ih (n / 10) (by omega) hds
      omega

theorem takeWhile_isDigit_append {digits rest : Str} (h : ∀ c ∈ digits, isDigit c = true)
    (hrest : EndsNumber rest) :
    (digits ++ rest).takeWhile isDigit = digits ∧ (digits ++ rest).dropWhile isDigit = rest := by
  have hnil : rest.takeWhile isDigit = [] ∧ rest.dropWhile isDigit = rest := by
    cases rest with
    | nil => simp
    | cons c rest => simp [(hrest c rfl).1]
  rw [List.takeWhile_append_of_pos h, List.dropWhile_append_of_pos h, hnil.1, hnil.2]
  simp

theorem scanFraction_of_ends {rest : Str} (h : EndsNumber rest) :
    scanFraction rest = ([], rest) := by
  rcases rest with _ | ⟨c, rest⟩
  · rfl
  · have hc := (h c rfl).2.1
    simp [scanFraction, hc]

theorem scanExponent_of_ends {rest : Str} (h : EndsNumber rest) : scanExponent rest = none := by
  rcases rest with _ | ⟨c, rest⟩
  · rfl
  · have hc := (h c rfl).2.2
    simp [scanExponent, hc]

theorem scanMagnitude_decimal (ε : Type) (negative : Bool) {n : ℕ} (hn : n < maxInt) {rest : Str}
    (hrest : EndsNumber rest) :
    @scanMagnitude ε negative (decimal n ++ rest) =
      .ok (.int (if negative then -n else n), rest) := by
  have hlength : ¬ 4300 < (decimal n).length := by
    unfold maxInt at hn
    have := length_decimal_le (k := 4300) (by decide) hn
    omega
  have hempty : (decimal n).isEmpty = false := by
    simpa using decimal_ne_nil n
  unfold scanMagnitude
  extract_lets whole fraction exponent mantissa signed
  have hwhole : whole = (decimal n, rest) := by
    simp only [whole]
    split
    · next tail htail =>
      -- a first digit `0` is the whole number
      obtain ⟨d, ds, hds⟩ := List.exists_cons_of_ne_nil (decimal_ne_nil n)
      rw [hds, List.cons_append] at htail
      obtain ⟨rfl, htail⟩ := List.cons.inj htail
      obtain rfl := eq_zero_of_decimal hds
      obtain rfl : [] = ds := (List.cons.inj (show [48] = 48 :: ds from hds)).2
      rw [show tail = rest from (List.cons.inj htail).2.symm]
      rfl
    · rw [(takeWhile_isDigit_append (fun c => isDigit_decimal) hrest).1,
        (takeWhile_isDigit_append (fun c => isDigit_decimal) hrest).2]
  have hfraction : fraction = ([], rest) := by
    simp only [fraction, hwhole, scanFraction_of_ends hrest]
  have hexponent : exponent = none := by
    simp only [exponent, hfraction, scanExponent_of_ends hrest]
  have hmantissa : mantissa = n := by
    simp [mantissa, hwhole, hfraction, digitsValue_decimal]
  simp only [hexponent, hfraction, hwhole, hempty, hlength, if_false, signed, hmantissa,
    List.isEmpty_nil, if_true, Bool.false_eq_true]

theorem find?_words_of_isDigit {c : ℕ} (hc : isDigit c = true) (text : Str) :
    words.find? (·.1.isPrefixOf (c :: text)) = none := by
  simp only [isDigit, Bool.and_eq_true, decide_eq_true_eq] at hc
  simp [words, lit_eq]
  omega

theorem find?_words_of_minus {c : ℕ} (hc : isDigit c = true) (text : Str) :
    words.find? (·.1.isPrefixOf (45 :: c :: text)) = none := by
  simp only [isDigit, Bool.and_eq_true, decide_eq_true_eq] at hc
  simp [words, lit_eq]
  omega

theorem scanAtom_jsonInt (ε : Type) {n : ℤ} (hn : n.natAbs < maxInt) {rest : Str}
    (hrest : EndsNumber rest) : @scanAtom ε (jsonInt n ++ rest) = .ok (.int n, rest) := by
  obtain ⟨d, ds, hds⟩ := List.exists_cons_of_ne_nil (decimal_ne_nil n.natAbs)
  have hd : isDigit d = true := isDigit_decimal (hds ▸ List.mem_cons_self)
  -- -- the sign is read first, then the digits up to what ends the number
  by_cases hneg : n < 0
  · have htext : jsonInt n ++ rest = 45 :: (decimal n.natAbs ++ rest) := by
      simp [jsonInt, hneg, lit_eq]
    have hfind := find?_words_of_minus hd (ds ++ rest)
    rw [← List.cons_append, ← hds] at hfind
    rw [htext, scanAtom, hfind]
    show @scanMagnitude ε true (decimal n.natAbs ++ rest) = _
    rw [scanMagnitude_decimal ε true hn hrest, if_pos rfl]
    congr 3
    omega
  · have htext : jsonInt n ++ rest = decimal n.natAbs ++ rest := by
      simp [jsonInt, hneg]
    have hfind := find?_words_of_isDigit hd (ds ++ rest)
    rw [← List.cons_append, ← hds] at hfind
    -- -- a digit is not taken for the sign
    have hd45 : d ≠ 45 := by
      rintro rfl
      simp [isDigit] at hd
    have hminus : ∀ tail, decimal n.natAbs ++ rest = 45 :: tail → False := by
      intro tail htail
      rw [hds, List.cons_append] at htail
      exact hd45 (List.cons.inj htail).1
    rw [htext, scanAtom, hfind]
    · show @scanMagnitude ε false (decimal n.natAbs ++ rest) = _
      rw [scanMagnitude_decimal ε false hn hrest, if_neg (by simp)]
      congr 3
      omega
    · exact hminus

/-! ## Values -/

/-- The text starts neither with a space nor with a closing bracket. -/
def StartsValue (text : Str) : Prop :=
  ∃ c tail, text = c :: tail ∧ isSpace c = false ∧ c ≠ 93

theorem skipSpace_of_startsValue {text : Str} (h : StartsValue text) : skipSpace text = text := by
  obtain ⟨c, tail, rfl, hspace, -⟩ := h
  simp [skipSpace, hspace]

/-- A word or a number starts with none of the characters that open other values. -/
theorem exists_of_scanAtom {ε : Type} {text : Str} {r : Json × Str}
    (h : @scanAtom ε text = .ok r) :
    ∃ c tail, text = c :: tail ∧ isSpace c = false ∧ c ≠ 93 ∧ c ≠ 34 ∧ c ≠ 123 ∧ c ≠ 91 := by
  rcases text with _ | ⟨c, tail⟩
  · simp [scanAtom, words, lit_eq, scanMagnitude] at h
  refine ⟨c, tail, rfl, ?_⟩
  by_contra hc
  have hword : words.find? (·.1.isPrefixOf (c :: tail)) = none := by
    simp only [isSpace, Bool.or_eq_false_iff, beq_eq_false_iff_ne] at hc
    simp [words, lit_eq]
    omega
  have hdigit : isDigit c = false := by
    simp only [isSpace, Bool.or_eq_false_iff, beq_eq_false_iff_ne] at hc
    simp only [isDigit, Bool.and_eq_false_iff, decide_eq_false_iff_not]
    omega
  have hminus : c ≠ 45 := by
    rintro rfl
    simp [isSpace] at hc
  have hzero : c ≠ 48 := by
    rintro rfl
    simp [isDigit] at hdigit
  simp [scanAtom, hword, hminus, scanMagnitude, hzero, hdigit] at h

section

variable {ε : Type} {hook : List (Str × Json) → Except ε (List (Str × Json))}

/-- The scanner reads the text of `value` as the value in key order, whatever follows. -/
def ReadsBack (hook : List (Str × Json) → Except ε (List (Str × Json))) (depth : ℕ)
    (value : Json) (text : Str) : Prop :=
  ∀ rest fuel, EndsNumber rest → 2 * text.length ≤ fuel →
    scanValue hook fuel depth (text ++ rest) = .ok (value.sortKeys, rest)

theorem readsBack_atom {depth : ℕ} {value : Json} {text : Str} (hsort : value.sortKeys = value)
    (h : ∀ rest, EndsNumber rest → @scanAtom ε (text ++ rest) = .ok (value, rest)) :
    ReadsBack hook depth value text := by
  intro rest fuel hrest hf
  obtain ⟨c, tail, htext, hspace, hc, hquote, hbrace, hbracket⟩ :=
    exists_of_scanAtom (h [] (by simp [EndsNumber]))
  rw [List.append_nil] at htext
  obtain ⟨n, rfl⟩ : ∃ n, fuel = n + 1 := ⟨fuel - 1, by simp [htext] at hf; omega⟩
  have hread := h rest hrest
  rw [htext, List.cons_append] at hread ⊢
  rw [scanValue, hsort]
  · exact hread
  · rintro _ heq
    exact hquote (List.cons.inj heq).1
  · rintro _ heq
    exact hbrace (List.cons.inj heq).1
  · rintro _ heq
    exact hbracket (List.cons.inj heq).1

theorem endsNumber_cons {c : ℕ} (h : isDigit c = false ∧ c ≠ 46 ∧ c ≠ 101 ∧ c ≠ 69)
    (rest : Str) : EndsNumber (c :: rest) := by
  intro d hd
  obtain rfl := Option.some.inj hd
  exact h

theorem scanItems_last {n depth : ℕ} {text rest : Str} {item : Json}
    (hitem : scanValue hook n depth text = .ok (item, 93 :: rest)) :
    scanItems hook (n + 1) depth text = .ok ([item], rest) := by
  rw [scanItems, hitem]
  rfl

theorem scanItems_more {n depth : ℕ} {text more rest : Str} {item : Json} {items : List Json}
    (hitem : scanValue hook n depth text = .ok (item, 44 :: more))
    (hitems : scanItems hook n depth (skipSpace more) = .ok (items, rest)) :
    scanItems hook (n + 1) depth text = .ok (item :: items, rest) := by
  have hskip : skipSpace (44 :: more) = 44 :: more := rfl
  simp only [scanItems, hitem, hskip, hitems]

theorem scanValue_arr {n depth : ℕ} {text rest : Str} {items : List Json}
    (hstart : StartsValue text) (hitems : scanItems hook n depth text = .ok (items, rest)) :
    scanValue hook (n + 1) (depth + 1) (91 :: text) = .ok (.arr items, rest) := by
  have hskip := skipSpace_of_startsValue hstart
  obtain ⟨c, tail, rfl, -, hc⟩ := hstart
  simp [scanValue, hskip, hc, hitems]

theorem scanValue_obj {n depth : ℕ} {text rest : Str} {pairs fields : List (Str × Json)}
    (hquote : text.head? = some 34) (hpairs : scanFields hook n depth text = .ok (pairs, rest))
    (hfields : hook pairs = .ok fields) :
    scanValue hook (n + 1) (depth + 1) (123 :: text) = .ok (.obj fields, rest) := by
  obtain ⟨tail, rfl⟩ := List.head?_eq_some_iff.mp hquote
  have hskip : skipSpace (34 :: tail) = 34 :: tail := rfl
  simp [scanValue, hskip, hpairs, hfields]

theorem scanFields_last {n depth : ℕ} {tail text rest key : Str} {value : Json}
    (hkey : scanString (tail.length + 1) tail = some (key, 58 :: text))
    (hvalue : scanValue hook n depth (skipSpace text) = .ok (value, 125 :: rest)) :
    scanFields hook (n + 1) depth (34 :: tail) = .ok ([(key, value)], rest) := by
  have hcolon : skipSpace (58 :: text) = 58 :: text := rfl
  have hskip : skipSpace (125 :: rest) = 125 :: rest := rfl
  simp only [scanFields, hkey, hcolon, hvalue, hskip]

theorem scanFields_more {n depth : ℕ} {tail text more rest key : Str} {value : Json}
    {pairs : List (Str × Json)}
    (hkey : scanString (tail.length + 1) tail = some (key, 58 :: text))
    (hvalue : scanValue hook n depth (skipSpace text) = .ok (value, 44 :: more))
    (hpairs : scanFields hook n depth (skipSpace more) = .ok (pairs, rest)) :
    scanFields hook (n + 1) depth (34 :: tail) = .ok ((key, value) :: pairs, rest) := by
  have hcolon : skipSpace (58 :: text) = 58 :: text := rfl
  have hskip : skipSpace (44 :: more) = 44 :: more := rfl
  simp only [scanFields, hkey, hcolon, hvalue, hskip, hpairs]

/-- Written items are read up to the closing bracket. -/
theorem scanItems_jsonText {depth : ℕ} {items : List Json} {texts : List Str}
    (h : List.Forall₂ (ReadsBack hook depth) items texts) (hne : items ≠ [])
    (hstart : ∀ t ∈ texts, ∀ rest, StartsValue (t ++ rest)) (rest : Str) {fuel : ℕ}
    (hf : 2 * (((lit ",").intercalate texts).length + 1) ≤ fuel) :
    scanItems hook fuel depth ((lit ",").intercalate texts ++ 93 :: rest) =
      .ok (items.map sortKeys, rest) := by
  induction h generalizing fuel with
  | nil => exact absurd rfl hne
  | @cons item text items texts hitem hitems ih =>
    obtain ⟨n, rfl⟩ : ∃ n, fuel = n + 1 := ⟨fuel - 1, by omega⟩
    cases hitems with
    | nil =>
      rw [List.intercalate_singleton] at hf ⊢
      exact scanItems_last (hitem (93 :: rest) n (endsNumber_cons (by decide) rest) (by omega))
    | @cons item' text' items texts hitem' hitems =>
      rw [List.intercalate_cons_cons] at hf ⊢
      simp only [List.length_append] at hf
      have hcomma : (lit ",").length = 1 := rfl
      -- the text from the second item on
      have hmore : StartsValue ((lit ",").intercalate (text' :: texts) ++ 93 :: rest) := by
        cases texts with
        | nil =>
          rw [List.intercalate_singleton]
          exact hstart text' (by simp) _
        | cons text'' texts =>
          rw [List.intercalate_cons_cons, List.append_assoc, List.append_assoc]
          exact hstart text' (by simp) _
      rw [List.append_assoc, List.append_assoc]
      refine scanItems_more (hitem (44 :: ((lit ",").intercalate (text' :: texts) ++ 93 :: rest)) n
        (endsNumber_cons (by decide) _) (by omega)) ?_
      rw [skipSpace_of_startsValue hmore]
      exact ih (by simp) (fun t ht => hstart t (List.mem_cons_of_mem text ht)) (by omega)

/-- A field as it is written. -/
def fieldText (f : Str × Str) : Str := jsonString f.1 ++ lit ":" ++ f.2

/-- Written fields are read up to the closing brace. -/
theorem scanFields_jsonText {depth : ℕ} {fields : List (Str × Json)} {texts : List (Str × Str)}
    (h : List.Forall₂ (fun f t => f.1 = t.1 ∧ ReadsBack hook depth f.2 t.2) fields texts)
    (hne : fields ≠ []) (hstart : ∀ t ∈ texts, ∀ rest, StartsValue (t.2 ++ rest)) (rest : Str)
    {fuel : ℕ} (hf : 2 * (((lit ",").intercalate (texts.map fieldText)).length + 1) ≤ fuel) :
    scanFields hook fuel depth ((lit ",").intercalate (texts.map fieldText) ++ 125 :: rest) =
      .ok (fields.map fun f => (f.1, f.2.sortKeys), rest) := by
  induction h generalizing fuel with
  | nil => exact absurd rfl hne
  | @cons f t fields texts hfield hfields ih =>
    obtain ⟨key, value⟩ := f
    obtain ⟨key', text⟩ := t
    obtain ⟨rfl, hvalue⟩ : key = key' ∧ ReadsBack hook depth value text := hfield
    obtain ⟨n, rfl⟩ : ∃ n, fuel = n + 1 := ⟨fuel - 1, by omega⟩
    have hskip : ∀ rest, skipSpace (text ++ rest) = text ++ rest := fun rest =>
      skipSpace_of_startsValue (hstart (key, text) (by simp) rest)
    have hcolon : (lit ":").length = 1 := rfl
    cases hfields with
    | nil =>
      rw [List.map_singleton, List.intercalate_singleton, fieldText] at hf ⊢
      simp only [List.length_append] at hf
      obtain ⟨tail, htail, hkey⟩ := scanString_jsonString key (58 :: (text ++ 125 :: rest))
      have htext : jsonString key ++ lit ":" ++ text ++ 125 :: rest = 34 :: tail := by
        rw [← htail]
        simp [lit_eq]
      rw [htext]
      refine scanFields_last hkey ?_
      rw [hskip]
      exact hvalue (125 :: rest) n (endsNumber_cons (by decide) rest) (by omega)
    | @cons f' t' fields texts hfield' hfields =>
      rw [List.map_cons, List.map_cons, List.intercalate_cons_cons, fieldText] at hf ⊢
      simp only [List.length_append] at hf
      have hcomma : (lit ",").length = 1 := rfl
      -- the text from the second field on
      obtain ⟨more, hmore, hmoreskip⟩ : ∃ more,
          (lit ",").intercalate (fieldText t' :: texts.map fieldText) ++ 125 :: rest = more ∧
            skipSpace more = more := by
        refine ⟨_, rfl, skipSpace_of_startsValue ?_⟩
        cases texts with
        | nil => exact ⟨_, _, rfl, rfl, by decide⟩
        | cons t'' texts => exact ⟨_, _, rfl, rfl, by decide⟩
      obtain ⟨tail, htail, hkey⟩ := scanString_jsonString key (58 :: (text ++ 44 :: more))
      have htext : jsonString key ++ lit ":" ++ text ++ lit "," ++
          (lit ",").intercalate (fieldText t' :: texts.map fieldText) ++ 125 :: rest =
          34 :: tail := by
        rw [← htail, ← hmore]
        simp [lit_eq]
      rw [htext]
      have hread : scanValue hook n depth (skipSpace (text ++ 44 :: more)) =
          .ok (value.sortKeys, 44 :: more) := by
        rw [hskip]
        exact hvalue (44 :: more) n (endsNumber_cons (by decide) more) (by omega)
      refine scanFields_more hkey hread ?_
      rw [hmoreskip, ← hmore]
      exact ih (by simp) (fun t ht => hstart t (List.mem_cons_of_mem _ ht))
        (by rw [List.map_cons]; omega)

end

variable [Interpreter]

theorem startsValue_jsonText {depth : ℕ} {value : Json} (h : Readable depth value) {text : Str}
    (ht : jsonText value = some text) (rest : Str) : StartsValue (text ++ rest) := by
  -- -- the first character decides, and each kind of value prints its own
  cases h with
  | null =>
    obtain rfl := Option.some.inj ht
    exact ⟨_, _, rfl, rfl, by decide⟩
  | bool b =>
    cases b <;> obtain rfl := Option.some.inj ht <;> exact ⟨_, _, rfl, rfl, by decide⟩
  | int short =>
    obtain rfl := Option.some.inj ht
    obtain ⟨c, tail, htext, hspace, hc, -⟩ := exists_of_scanAtom
      (scanAtom_jsonInt Empty short (show EndsNumber [] by simp [EndsNumber]))
    rw [List.append_nil] at htext
    exact ⟨c, tail ++ rest, by rw [htext]; rfl, hspace, hc⟩
  | float reads =>
    obtain rfl := Option.some.inj ht
    obtain ⟨c, tail, htext, hspace, hc, -⟩ :=
      exists_of_scanAtom (reads Empty [] (by simp [EndsNumber]))
    rw [List.append_nil] at htext
    exact ⟨c, tail ++ rest, by rw [htext]; rfl, hspace, hc⟩
  | str text =>
    obtain rfl := Option.some.inj ht
    exact ⟨_, _, rfl, rfl, by decide⟩
  | arr items_readable =>
    obtain ⟨texts, -, rfl⟩ := Option.map_eq_some_iff.mp ht
    exact ⟨_, _, rfl, rfl, by decide⟩
  | obj keys values =>
    obtain ⟨texts, -, rfl⟩ := Option.map_eq_some_iff.mp ht
    exact ⟨_, _, rfl, rfl, by decide⟩

theorem jsonItemTexts_eq_some {items : List Json} {texts : List Str} :
    jsonItemTexts items = some texts ↔
      List.Forall₂ (fun item text => jsonText item = some text) items texts := by
  induction items generalizing texts with
  | nil => cases texts <;> simp [jsonItemTexts]
  | cons item items ih =>
    rw [jsonItemTexts]
    cases hitem : jsonText item with
    | none => cases texts <;> simp [hitem]
    | some text =>
      cases hitems : jsonItemTexts items with
      | none => cases texts <;> simp [hitem, ← ih, hitems]
      | some rest => cases texts <;> simp [hitem, ← ih, hitems]

theorem jsonFieldTexts_eq_some {fields : List (Str × Json)} {texts : List (Str × Str)} :
    jsonFieldTexts fields = some texts ↔
      List.Forall₂ (fun f t => f.1 = t.1 ∧ jsonText f.2 = some t.2) fields texts := by
  induction fields generalizing texts with
  | nil => cases texts <;> simp [jsonFieldTexts]
  | cons f fields ih =>
    obtain ⟨key, value⟩ := f
    rw [jsonFieldTexts]
    cases hvalue : jsonText value with
    | none => cases texts <;> simp [hvalue]
    | some text =>
      cases hfields : jsonFieldTexts fields with
      | none => cases texts <;> simp [hvalue, ← ih, hfields]
      | some rest =>
        cases texts with
        | nil => simp
        | cons t texts => simp [hvalue, ← ih, hfields, Prod.ext_iff]

section

variable {ε : Type} {hook : List (Str × Json) → Except ε (List (Str × Json))}

/-! ## Lengths -/

omit [Interpreter] in
theorem length_jsonString_le (text : Str) : (jsonString text).length ≤ 6 * text.length + 2 := by
  have hescape : ∀ c, (jsonEscape c).length ≤ 6 := by
    intro c
    unfold jsonEscape
    split <;> try decide
    split <;> simp [lit_eq]
  have hflat : (text.flatMap jsonEscape).length ≤ 6 * text.length := by
    induction text with
    | nil => simp
    | cons c text ih =>
      have := hescape c
      rw [List.flatMap_cons, List.length_append, List.length_cons]
      omega
  have hquote : (lit "\"").length = 1 := rfl
  rw [jsonString, List.length_append, List.length_append, hquote]
  omega

omit [Interpreter] in
theorem length_jsonFields_le {texts : List (Str × Str)} {n : ℕ}
    (h : ∀ t ∈ texts, (fieldText t).length ≤ n) :
    (jsonFields texts).length ≤ texts.length * (n + 1) := by
  have hjoin : ∀ parts : List Str, (∀ part ∈ parts, part.length ≤ n) →
      ((lit ",").intercalate parts).length ≤ parts.length * (n + 1) := by
    intro parts hparts
    induction parts with
    | nil => simp
    | cons part parts ih =>
      obtain ⟨hpart, hrest⟩ := List.forall_mem_cons.mp hparts
      have hle := ih hrest
      cases parts with
      | nil => simp; omega
      | cons next parts =>
        rw [List.intercalate_cons_cons, List.length_append, List.length_append, List.length_cons,
          show (lit ",").length = 1 from rfl, Nat.succ_mul]
        omega
  have hfields := hjoin ((sortFields texts).map fieldText) (by
    intro part hpart
    obtain ⟨t, ht, rfl⟩ := List.mem_map.mp hpart
    exact h t (mem_sortFields.mp ht))
  rw [List.length_map, (perm_sortFields texts).length_eq] at hfields
  exact hfields

/-- **The scanner reads a written value**, whatever follows it. -/
theorem readsBack_jsonText
    (hhook : ∀ pairs, (pairs.map (·.1)).Nodup → hook pairs = .ok pairs) {value : Json}
    {depth : ℕ} (h : Readable depth value) {text : Str} (ht : jsonText value = some text) :
    ReadsBack hook depth value text := by
  -- -- by induction on the value; an atom is scanned in one step
  induction value using Json.induct generalizing depth text with
  | null =>
    obtain rfl := Option.some.inj ht
    exact readsBack_atom rfl fun rest _ => rfl
  | bool b =>
    cases b
    · obtain rfl := Option.some.inj ht
      exact readsBack_atom rfl fun rest _ => rfl
    · obtain rfl := Option.some.inj ht
      exact readsBack_atom rfl fun rest _ => rfl
  | int n =>
    obtain rfl := Option.some.inj ht
    cases h with
    | int short => exact readsBack_atom rfl fun rest hrest => scanAtom_jsonInt ε short hrest
  | float x =>
    cases h with
    | float reads =>
      obtain rfl := Option.some.inj ht
      exact readsBack_atom rfl fun rest hrest => reads ε rest hrest
  | str s =>
    obtain rfl := Option.some.inj ht
    intro rest fuel _ hf
    obtain ⟨n, rfl⟩ : ∃ n, fuel = n + 1 := ⟨fuel - 1, by simp [jsonString, lit_eq] at hf; omega⟩
    obtain ⟨tail, htail, hs⟩ := scanString_jsonString s rest
    rw [htail]
    simp only [scanValue, hs, sortKeys]
  | arr items ih =>
    obtain ⟨texts, htexts, rfl⟩ := Option.map_eq_some_iff.mp ht
    cases h with
    | @arr depth _ hitems =>
      -- -- the items read back by induction
      have hread : List.Forall₂ (ReadsBack hook depth) items texts :=
        forall₂_imp_of_mem (jsonItemTexts_eq_some.mp htexts) fun item hitem text htext =>
          ih item hitem (hitems item hitem) htext
      have hstart : ∀ t ∈ texts, ∀ rest, StartsValue (t ++ rest) := by
        intro t ht rest
        obtain ⟨item, hitem, htext⟩ := exists_of_forall₂_mem (jsonItemTexts_eq_some.mp htexts) ht
        exact startsValue_jsonText (hitems item hitem) htext rest
      intro rest fuel _ hf
      obtain ⟨n, rfl⟩ : ∃ n, fuel = n + 1 := ⟨fuel - 1, by simp [lit_eq] at hf; omega⟩
      simp only [List.length_append, show (lit "[").length = 1 from rfl,
        show (lit "]").length = 1 from rfl] at hf
      have htext : lit "[" ++ (lit ",").intercalate texts ++ lit "]" ++ rest =
          91 :: ((lit ",").intercalate texts ++ 93 :: rest) := by
        simp [lit_eq]
      rw [htext, sortKeys_arr]
      cases hread with
      | nil => simp [scanValue, skipSpace, isSpace]
      -- -- the first item decides that the array is not empty
      | @cons item text items texts hitem hread =>
        have hfirst : StartsValue ((lit ",").intercalate (text :: texts) ++ 93 :: rest) := by
          cases texts with
          | nil =>
            rw [List.intercalate_singleton]
            exact hstart text (by simp) _
          | cons text' texts =>
            rw [List.intercalate_cons_cons, List.append_assoc, List.append_assoc]
            exact hstart text (by simp) _
        have hscan := scanItems_jsonText (.cons hitem hread) (by simp) hstart rest
          (show 2 * (((lit ",").intercalate (text :: texts)).length + 1) ≤ n by omega)
        exact scanValue_arr hfirst hscan
  | obj fields ih =>
    obtain ⟨texts, htexts, rfl⟩ := Option.map_eq_some_iff.mp ht
    cases h with
    | @obj depth _ hkeys hvalues =>
      -- -- the fields are printed in the order of their keys, and that order is read back
      have hsorted : List.Forall₂ (fun f t => f.1 = t.1 ∧ jsonText f.2 = some t.2)
          (sortFields fields) (sortFields texts) :=
        forall₂_sortFields (r := fun value text => jsonText value = some text)
          (jsonFieldTexts_eq_some.mp htexts)
      have hread : List.Forall₂ (fun f t => f.1 = t.1 ∧ ReadsBack hook depth f.2 t.2)
          (sortFields fields) (sortFields texts) :=
        forall₂_imp_of_mem hsorted fun f hf t ht =>
          ⟨ht.1, ih f (mem_sortFields.mp hf) (hvalues f (mem_sortFields.mp hf)) ht.2⟩
      have hstart : ∀ t ∈ sortFields texts, ∀ rest, StartsValue (t.2 ++ rest) := by
        intro t ht rest
        obtain ⟨f, hf, htext⟩ := exists_of_forall₂_mem hsorted ht
        exact startsValue_jsonText (hvalues f (mem_sortFields.mp hf)) htext.2 rest
      -- -- no key repeats, so the hook keeps every pair
      have hnodup : (((sortFields fields).map fun f => (f.1, f.2.sortKeys)).map (·.1)).Nodup := by
        rw [List.map_map]
        exact (((perm_sortFields fields).map _).nodup_iff).mpr hkeys
      intro rest fuel _ hf
      obtain ⟨n, rfl⟩ : ∃ n, fuel = n + 1 := ⟨fuel - 1, by simp [lit_eq] at hf; omega⟩
      simp only [List.length_append, show (lit "\x7b").length = 1 from rfl,
        show (lit "\x7d").length = 1 from rfl] at hf
      have hfields : jsonFields texts =
          (lit ",").intercalate ((sortFields texts).map fieldText) := rfl
      have htext : lit "\x7b" ++ jsonFields texts ++ lit "\x7d" ++ rest =
          123 :: ((lit ",").intercalate ((sortFields texts).map fieldText) ++ 125 :: rest) := by
        rw [hfields, List.append_assoc, List.append_assoc]
        rfl
      rw [hfields] at hf
      rw [htext, sortKeys_obj]
      generalize sortFields fields = sfields at *
      generalize sortFields texts = stexts at *
      cases hread with
      | nil =>
        have hempty := hhook [] (by simp)
        simp [scanValue, skipSpace, isSpace, hempty]
      | @cons f t sfields stexts hfield hread =>
        -- -- the object closes after its last field
        have hscan := scanFields_jsonText (.cons hfield hread) (by simp) hstart rest
          (show _ ≤ n by omega)
        refine scanValue_obj ?_ hscan (hhook _ hnodup)
        cases stexts <;> rfl

/-- **The parser reads a written value back**, with its fields in key order. Spaces may follow. -/
theorem loads_jsonText
    (hhook : ∀ pairs, (pairs.map (·.1)).Nodup → hook pairs = .ok pairs) {value : Json}
    {depth : ℕ} (h : Readable depth value) {text : Str} (ht : jsonText value = some text)
    {spaces : Str} (hspaces : ∀ c ∈ spaces, isSpace c = true) :
    loads hook depth (text ++ spaces) = .ok value.sortKeys := by
  have hends : EndsNumber spaces := by
    intro c hc
    have hspace := hspaces c (List.mem_of_mem_head? hc)
    simp only [isSpace, Bool.or_eq_true, beq_iff_eq] at hspace
    simp only [isDigit, Bool.and_eq_false_iff, decide_eq_false_iff_not]
    omega
  have hskip : skipSpace spaces = [] := List.dropWhile_eq_nil_iff.mpr hspaces
  have hread := readsBack_jsonText hhook h ht spaces (2 * (text ++ spaces).length + 2) hends
    (by rw [List.length_append]; omega)
  rw [loads, skipSpace_of_startsValue (startsValue_jsonText h ht spaces), hread]
  simp only [hskip, if_true]

/-! ## The order of keys does not show -/

/-- The text of a value is the text of the value in key order. -/
theorem jsonText_sortKeys {value : Json} {text : Str} (ht : jsonText value = some text) :
    jsonText value.sortKeys = some text := by
  -- -- only the order of fields changes, and printing sorts them anyway
  induction value using Json.induct generalizing text with
  | null => exact ht
  | bool b => exact ht
  | int n => exact ht
  | float x => exact ht
  | str s => exact ht
  | arr items ih =>
    obtain ⟨texts, htexts, rfl⟩ := Option.map_eq_some_iff.mp ht
    have hitems : jsonItemTexts (items.map sortKeys) = some texts := by
      rw [jsonItemTexts_eq_some, List.forall₂_map_left_iff]
      exact forall₂_imp_of_mem (jsonItemTexts_eq_some.mp htexts) fun item hitem text htext =>
        ih item hitem htext
    rw [sortKeys_arr, jsonText, hitems]
    rfl
  | obj fields ih =>
    obtain ⟨texts, htexts, rfl⟩ := Option.map_eq_some_iff.mp ht
    have hsorted : List.Forall₂ (fun f t => f.1 = t.1 ∧ jsonText f.2 = some t.2)
        (sortFields fields) (sortFields texts) :=
      forall₂_sortFields (r := fun value text => jsonText value = some text)
        (jsonFieldTexts_eq_some.mp htexts)
    have hfields : jsonFieldTexts ((sortFields fields).map fun f => (f.1, f.2.sortKeys)) =
        some (sortFields texts) := by
      rw [jsonFieldTexts_eq_some, List.forall₂_map_left_iff]
      exact forall₂_imp_of_mem hsorted fun f hf t htext =>
        ⟨htext.1, ih f (mem_sortFields.mp hf) htext.2⟩
    -- -- sorting twice is sorting once
    have hjoin : jsonFields (sortFields texts) = jsonFields texts := by
      show (lit ",").intercalate ((sortFields (sortFields texts)).map fieldText) = _
      rw [sortFields_sortFields]
      rfl
    rw [sortKeys_obj, jsonText, hfields, Option.map_some, hjoin]

end

omit [Interpreter] in
@[simp] theorem sortKeys_sortKeys (value : Json) : value.sortKeys.sortKeys = value.sortKeys := by
  induction value using Json.induct with
  | null => rfl
  | bool b => rfl
  | int n => rfl
  | float x => rfl
  | str s => rfl
  | arr items ih =>
    rw [sortKeys_arr, sortKeys_arr, List.map_map]
    exact congrArg arr (List.map_congr_left ih)
  | obj fields ih =>
    rw [sortKeys_obj, sortKeys_obj, sortFields_map, sortFields_sortFields, List.map_map]
    refine congrArg obj (List.map_congr_left fun f hf => ?_)
    exact Prod.ext rfl (ih f (mem_sortFields.mp hf))

theorem Readable.sortKeys {value : Json} {depth : ℕ} (h : Readable depth value) :
    Readable depth value.sortKeys := by
  induction h with
  | null => exact .null
  | bool b => exact .bool b
  | int short => exact .int short
  | float reads => exact .float reads
  | str text => exact .str text
  | arr _ ih =>
    rw [sortKeys_arr]
    exact .arr (List.forall_mem_map.mpr ih)
  | @obj depth fields keys _ ih =>
    rw [sortKeys_obj]
    refine .obj ?_ (List.forall_mem_map.mpr fun f hf => ih f (mem_sortFields.mp hf))
    rw [List.map_map]
    exact (((perm_sortFields fields).map _).nodup_iff).mpr keys

/-! ## Decoding octets -/

/-- `fields[key] = value` -/
def setField (fields : List (Str × Json)) (f : Str × Json) : List (Str × Json) :=
  if f.1 ∈ fields.map (·.1) then fields.map fun g => if g.1 = f.1 then (g.1, f.2) else g
  else fields ++ [f]

/-- `dict(pairs)` -/
def dictOf (pairs : List (Str × Json)) : List (Str × Json) := pairs.foldl setField []

omit [Interpreter] in
theorem dictOf_eq_self {pairs : List (Str × Json)} (h : (pairs.map (·.1)).Nodup) :
    dictOf pairs = pairs := by
  have key : ∀ pairs fields : List (Str × Json), ((fields ++ pairs).map (·.1)).Nodup →
      pairs.foldl setField fields = fields ++ pairs := by
    intro pairs
    induction pairs with
    | nil => simp
    | cons f pairs ih =>
      intro fields hnodup
      have hnew : f.1 ∉ fields.map (·.1) := by
        rw [List.map_append, List.nodup_append] at hnodup
        exact fun hmem => hnodup.2.2 f.1 hmem f.1 (by simp) rfl
      rw [List.foldl_cons, setField, if_neg hnew, ih (fields ++ [f]) (by simpa using hnodup)]
      simp
  exact key pairs [] h

/-- The value some octets hold as JSON; `none` when they hold none. -/
def readJson (data : Bytes) : Option Json :=
  match utf8Decode data with
  | none => none
  | some text => (@loads Empty (fun pairs => .ok (dictOf pairs)) Interpreter.jsonDepth text).toOption

/-- **Encoded text is decoded to the value in key order.** ASCII spaces may follow. -/
theorem readJson_jsonText {value : Json} (h : Readable Interpreter.jsonDepth value) {text : Str}
    {data : Bytes} (ht : jsonText value = some text) (hd : utf8Encode text = some data)
    {spaces : Str} (hspaces : ∀ c ∈ spaces, isSpace c = true) :
    readJson (data ++ spaces.map UInt8.ofNat) = some value.sortKeys := by
  have hascii : ∀ c ∈ spaces, c < 128 := by
    intro c hc
    have := hspaces c hc
    simp only [isSpace, Bool.or_eq_true, beq_iff_eq] at this
    omega
  rw [readJson, utf8Decode_utf8Encode (utf8Encode_append hd (utf8Encode_of_ascii hascii))]
  show (loads _ _ (text ++ spaces)).toOption = _
  rw [loads_jsonText (fun pairs hp => congrArg Except.ok (dictOf_eq_self hp)) h ht hspaces]
  rfl

theorem Readable.mono {value : Json} {depth depth' : ℕ} (h : Readable depth value)
    (hle : depth ≤ depth') : Readable depth' value := by
  induction h generalizing depth' with
  | null => exact .null
  | bool b => exact .bool b
  | int short => exact .int short
  | float reads => exact .float reads
  | str text => exact .str text
  | arr _ ih =>
    obtain ⟨n, rfl⟩ : ∃ n, depth' = n + 1 := ⟨depth' - 1, by omega⟩
    exact .arr fun item hitem => ih item hitem (by omega)
  | obj keys _ ih =>
    obtain ⟨n, rfl⟩ : ∃ n, depth' = n + 1 := ⟨depth' - 1, by omega⟩
    exact .obj keys fun f hf => ih f hf (by omega)

end Python.Json
