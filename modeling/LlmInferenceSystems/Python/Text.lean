import Mathlib.Data.List.Basic

/-!
# Text and bytes

A Python `str` is a sequence of code points, surrogates included: a JSON escape can put a lone
surrogate into one, and then it has no UTF-8 encoding. A `bytes` value is a sequence of octets.
The strict UTF-8 codec connects the two, and decoding undoes encoding.

## Main definitions

* `Str`, `Bytes`: the two kinds of sequence
* `utf8Encode`, `utf8Decode`: `str.encode("utf-8")` and `bytes.decode("utf-8")`
* `lit`, `ascii`: the code points and the octets of a literal

## Main results

* `utf8Decode_utf8Encode`: encoded text decodes to itself
* `utf8Encode_append`: encoding goes part by part
* `mem_of_utf8Decode`: an ASCII octet shows in the decoded text
-/

namespace Python

/-- A Python `str`: its code points, `0` to `0x10FFFF`. -/
abbrev Str := List ℕ

/-- Named once, so that a definition that looks a text up does not depend on where it stands. -/
instance lawfulBEqStr : LawfulBEq Str := inferInstance

/-- A Python `bytes`. -/
abbrev Bytes := List UInt8

/-- `text.lstrip(" ")` -/
def lstripSpaces (text : Str) : Str := text.dropWhile (· == 32)

/-- `text.removeprefix(start)` -/
def removePrefix (start text : Str) : Str :=
  if start <+: text then text.drop start.length else text

theorem removePrefix_append (start rest : Str) : removePrefix start (start ++ rest) = rest := by
  simp [removePrefix]

/-- The decimal digits of a natural number. -/
def decimal (n : ℕ) : Str := (Nat.toDigits 10 n).map Char.toNat

/-- Occurrences that do not overlap, after skipping the rest of the last one. -/
def countFrom (sub : Str) : ℕ → Str → ℕ
  | _, [] => 0
  | skip + 1, _ :: rest => countFrom sub skip rest
  | 0, c :: rest =>
    if sub.isPrefixOf (c :: rest) then countFrom sub (sub.length - 1) rest + 1
    else countFrom sub 0 rest

/-- `text.count(sub)`, of a `sub` that is not empty -/
def count (sub text : Str) : ℕ := countFrom sub 0 text

theorem decimal_ascii {n c : ℕ} (h : c ∈ decimal n) : 48 ≤ c ∧ c ≤ 57 := by
  obtain ⟨d, hd, rfl⟩ := List.mem_map.mp h
  have hdigit := Nat.isDigit_of_mem_toDigits (by decide) (by decide) hd
  simp only [Char.isDigit, Bool.and_eq_true, decide_eq_true_eq, ge_iff_le] at hdigit
  exact ⟨hdigit.1, hdigit.2⟩

/-- Python's order on `str`: code points from the left, a proper prefix first. -/
def strLe : Str → Str → Bool
  | [], _ => true
  | _ :: _, [] => false
  | a :: s, b :: t => a < b || (a == b && strLe s t)

/-- A part of a text split at a character is without that character. -/
theorem not_mem_of_mem_splitOn {α : Type} [DecidableEq α] {x : α} {text line : List α}
    (h : line ∈ text.splitOn x) : x ∉ line := by
  induction text generalizing line with
  | nil =>
    rw [List.splitOn_nil, List.mem_singleton] at h
    simp [h]
  | cons c text ih =>
    rw [List.splitOn_cons_eq_if_modifyHead] at h
    split_ifs at h with hc
    · rcases List.mem_cons.mp h with rfl | h
      · exact List.not_mem_nil
      · exact ih h
    · cases hsplit : text.splitOn x with
      | nil => simp [hsplit] at h
      | cons first rest =>
        rw [hsplit, List.modifyHead_cons] at h
        rcases List.mem_cons.mp h with rfl | h
        · have hfirst := ih (hsplit ▸ List.mem_cons_self)
          have hne : x ≠ c := fun heq => hc (beq_iff_eq.mpr heq.symm)
          exact List.not_mem_cons_of_ne_of_not_mem hne hfirst
        · exact ih (hsplit ▸ List.mem_cons_of_mem _ h)

/-- A maximal run of characters of a class is split off. -/
theorem takeWhile_maximal {α : Type} {p : α → Bool} {run rest : List α}
    (hrun : ∀ c ∈ run, p c = true) (hrest : rest.head?.any p = false) :
    (run ++ rest).takeWhile p = run ∧ (run ++ rest).dropWhile p = rest := by
  rw [List.takeWhile_append_of_pos hrun, List.dropWhile_append_of_pos hrun]
  cases rest with
  | nil => simp
  | cons c rest =>
    have hc : p c = false := by simpa using hrest
    simp [hc]

/-! ## UTF-8 -/

/-- A code point that UTF-8 has no encoding of. -/
def isSurrogate (c : ℕ) : Prop := 0xD800 ≤ c ∧ c ≤ 0xDFFF

instance (c : ℕ) : Decidable (isSurrogate c) := inferInstanceAs (Decidable (_ ∧ _))

/-- A code point the codec encodes. -/
def isScalar (c : ℕ) : Prop := c < 0x110000 ∧ ¬ isSurrogate c

instance (c : ℕ) : Decidable (isScalar c) := inferInstanceAs (Decidable (_ ∧ _))

/-- The octets of one code point. -/
def utf8Point (c : ℕ) : Bytes :=
  if c < 0x80 then [UInt8.ofNat c]
  else if c < 0x800 then [UInt8.ofNat (0xC0 + c / 64), UInt8.ofNat (0x80 + c % 64)]
  else if c < 0x10000 then
    [UInt8.ofNat (0xE0 + c / 4096), UInt8.ofNat (0x80 + c / 64 % 64), UInt8.ofNat (0x80 + c % 64)]
  else
    [UInt8.ofNat (0xF0 + c / 262144), UInt8.ofNat (0x80 + c / 4096 % 64),
      UInt8.ofNat (0x80 + c / 64 % 64), UInt8.ofNat (0x80 + c % 64)]

theorem isScalar_of_ascii {c : ℕ} (h : c < 128) : isScalar c :=
  ⟨by omega, fun hs => absurd hs.1 (by omega)⟩

/-- `text.encode("utf-8")`; `none` is `UnicodeEncodeError`. -/
def utf8Encode : Str → Option Bytes
  | [] => some []
  | c :: text => if isScalar c then (utf8Encode text).map (utf8Point c ++ ·) else none

theorem utf8Encode_of_ascii {text : Str} (h : ∀ c ∈ text, c < 128) :
    utf8Encode text = some (text.map UInt8.ofNat) := by
  induction text with
  | nil => rfl
  | cons c text ih =>
    obtain ⟨hc, htext⟩ := List.forall_mem_cons.mp h
    rw [utf8Encode, if_pos (isScalar_of_ascii hc), ih htext, utf8Point, if_pos (by omega)]
    rfl

theorem length_utf8Encode_le {text : Str} {bytes : Bytes} (h : utf8Encode text = some bytes) :
    bytes.length ≤ 4 * text.length := by
  induction text generalizing bytes with
  | nil =>
    obtain rfl : [] = bytes := Option.some.inj h
    simp
  | cons c text ih =>
    rw [utf8Encode] at h
    split at h
    · obtain ⟨rest, hrest, rfl⟩ := Option.map_eq_some_iff.mp h
      have hpoint : (utf8Point c).length ≤ 4 := by
        unfold utf8Point
        split_ifs <;> simp
      have := ih hrest
      rw [List.length_append, List.length_cons]
      omega
    · simp at h

/-- The value of a continuation octet. -/
def utf8Tail (b : UInt8) : Option ℕ :=
  if 0x80 ≤ b.toNat ∧ b.toNat < 0xC0 then some (b.toNat - 0x80) else none

/-- The first code point of some octets and the octets after it. Overlong forms, surrogates and
values past `0x10FFFF` are refused. -/
def utf8Head : Bytes → Option (ℕ × Bytes)
  | [] => none
  | a :: rest =>
    if a.toNat < 0x80 then some (a.toNat, rest)
    else if a.toNat < 0xC2 then none
    else if a.toNat < 0xE0 then
      match rest with
      | b :: rest => (utf8Tail b).map fun y => ((a.toNat - 0xC0) * 64 + y, rest)
      | _ => none
    else if a.toNat < 0xF0 then
      match rest with
      | b :: c :: rest =>
        match utf8Tail b, utf8Tail c with
        | some y, some z =>
          let p := (a.toNat - 0xE0) * 4096 + y * 64 + z
          if 0x800 ≤ p ∧ ¬ isSurrogate p then some (p, rest) else none
        | _, _ => none
      | _ => none
    else if a.toNat < 0xF5 then
      match rest with
      | b :: c :: d :: rest =>
        match utf8Tail b, utf8Tail c, utf8Tail d with
        | some x, some y, some z =>
          let p := (a.toNat - 0xF0) * 262144 + x * 4096 + y * 64 + z
          if 0x10000 ≤ p ∧ p < 0x110000 then some (p, rest) else none
        | _, _, _ => none
      | _ => none
    else none

/-- At most `fuel` code points. -/
def utf8DecodeN : ℕ → Bytes → Option Str
  | _, [] => some []
  | 0, _ :: _ => none
  | fuel + 1, b :: bytes =>
    match utf8Head (b :: bytes) with
    | some (c, rest) => (utf8DecodeN fuel rest).map (c :: ·)
    | none => none

/-- `bytes.decode("utf-8")`; `none` is `UnicodeDecodeError`. Every code point takes an octet, so
the number of octets is fuel enough. -/
def utf8Decode (bytes : Bytes) : Option Str := utf8DecodeN bytes.length bytes

private theorem toNat_octet {n : ℕ} (h : n < 256) : (UInt8.ofNat n).toNat = n := by
  simp only [UInt8.toNat_ofNat']
  omega

private theorem utf8Tail_octet {n : ℕ} (h : n < 64) : utf8Tail (UInt8.ofNat (0x80 + n)) = some n := by
  have hb : (UInt8.ofNat (0x80 + n)).toNat = 0x80 + n := toNat_octet (by omega)
  simp only [utf8Tail, hb]
  rw [if_pos (by omega)]
  simp

/-- The octets of a code point are read back as that code point, whatever follows. -/
theorem utf8Head_utf8Point {c : ℕ} (hc : isScalar c) (rest : Bytes) :
    utf8Head (utf8Point c ++ rest) = some (c, rest) := by
  obtain ⟨hmax, hsur⟩ := hc
  unfold utf8Point
  by_cases h1 : c < 0x80
  · have ha : (UInt8.ofNat c).toNat = c := toNat_octet (by omega)
    simp [h1, utf8Head, ha]
  by_cases h2 : c < 0x800
  · have ha : (UInt8.ofNat (0xC0 + c / 64)).toNat = 0xC0 + c / 64 := toNat_octet (by omega)
    simp only [h1, h2, if_false, if_true, List.cons_append, List.nil_append, utf8Head, ha,
      utf8Tail_octet (n := c % 64) (by omega), Option.map_some]
    rw [if_neg (by omega), if_neg (by omega), if_pos (by omega)]
    congr 2
    omega
  by_cases h3 : c < 0x10000
  · have ha : (UInt8.ofNat (0xE0 + c / 4096)).toNat = 0xE0 + c / 4096 := toNat_octet (by omega)
    simp only [h1, h2, h3, if_false, if_true, List.cons_append, List.nil_append, utf8Head, ha,
      utf8Tail_octet (n := c % 64) (by omega), utf8Tail_octet (n := c / 64 % 64) (by omega)]
    have hp : (0xE0 + c / 4096 - 0xE0) * 4096 + c / 64 % 64 * 64 + c % 64 = c := by omega
    rw [if_neg (by omega), if_neg (by omega), if_neg (by omega), if_pos (by omega)]
    simp only [hp]
    rw [if_pos ⟨by omega, hsur⟩]
  · have ha : (UInt8.ofNat (0xF0 + c / 262144)).toNat = 0xF0 + c / 262144 :=
      toNat_octet (by omega)
    simp only [h1, h2, h3, if_false, List.cons_append, List.nil_append, utf8Head, ha,
      utf8Tail_octet (n := c % 64) (by omega), utf8Tail_octet (n := c / 64 % 64) (by omega),
      utf8Tail_octet (n := c / 4096 % 64) (by omega)]
    have hp : (0xF0 + c / 262144 - 0xF0) * 262144 + c / 4096 % 64 * 4096 + c / 64 % 64 * 64 +
        c % 64 = c := by omega
    rw [if_neg (by omega), if_neg (by omega), if_neg (by omega), if_neg (by omega),
      if_pos (by omega)]
    simp only [hp]
    rw [if_pos ⟨by omega, hmax⟩]

theorem utf8Point_length_pos (c : ℕ) : 0 < (utf8Point c).length := by
  unfold utf8Point
  split_ifs <;> simp

theorem utf8Point_ne_nil (c : ℕ) : utf8Point c ≠ [] :=
  List.ne_nil_of_length_pos (utf8Point_length_pos c)

theorem utf8DecodeN_utf8Encode {text : Str} {bytes : Bytes} (h : utf8Encode text = some bytes)
    {fuel : ℕ} (hf : bytes.length ≤ fuel) : utf8DecodeN fuel bytes = some text := by
  induction text generalizing bytes fuel with
  | nil =>
    obtain rfl : [] = bytes := by simpa [utf8Encode] using h
    cases fuel <;> rfl
  | cons c text ih =>
    by_cases hc : isScalar c
    · simp only [utf8Encode, if_pos hc, Option.map_eq_some_iff] at h
      obtain ⟨tail, htail, rfl⟩ := h
      have hpos := utf8Point_length_pos c
      obtain ⟨b, bs, hbs⟩ := List.exists_cons_of_ne_nil (utf8Point_ne_nil c)
      obtain ⟨n, rfl⟩ : ∃ n, fuel = n + 1 := ⟨fuel - 1, by simp at hf; omega⟩
      have hhead := utf8Head_utf8Point hc tail
      rw [hbs, List.cons_append] at hhead ⊢
      simp only [utf8DecodeN, hhead]
      rw [ih htail (by rw [List.length_append] at hf; omega)]
      rfl
    · simp [utf8Encode, if_neg hc] at h

/-- **Decoding undoes encoding.** -/
theorem utf8Decode_utf8Encode {text : Str} {bytes : Bytes} (h : utf8Encode text = some bytes) :
    utf8Decode bytes = some text :=
  utf8DecodeN_utf8Encode h (Nat.le_refl _)

/-! ## Literals -/

/-- The code points of a literal, which is kept as its UTF-8. -/
def lit (text : String) : Str := (utf8Decode text.toByteArray.data.toList).getD []

/-- The octets of an ASCII literal. -/
def ascii (text : String) : Bytes := (lit text).map UInt8.ofNat

theorem valid_toNat (c : Char) : c.toNat < 0xD800 ∨ 0xDFFF < c.toNat ∧ c.toNat < 0x110000 := c.valid

/-- A character is no surrogate. -/
theorem isScalar_toNat (c : Char) : isScalar c.toNat := by
  have hvalid := valid_toNat c
  simp only [isScalar, isSurrogate]
  omega

/-- The octets of a character are those of its code point. -/
theorem utf8Point_toNat (c : Char) : utf8Point c.toNat = String.utf8EncodeChar c := by
  have hvalid := valid_toNat c
  have hn : c.val.toNat = c.toNat := rfl
  unfold utf8Point String.utf8EncodeChar
  simp only [hn, Nat.lt_succ_iff]
  split_ifs
  · rfl
  · rw [Nat.add_comm 0xC0, Nat.add_comm 0x80, Nat.mod_eq_of_lt (show c.toNat / 64 < 0x20 by omega)]
  · rw [Nat.add_comm 0xE0, Nat.add_comm 0x80, Nat.add_comm 0x80,
      Nat.mod_eq_of_lt (show c.toNat / 4096 < 0x10 by omega)]
  · rw [Nat.add_comm 0xF0, Nat.add_comm 0x80, Nat.add_comm 0x80, Nat.add_comm 0x80,
      Nat.mod_eq_of_lt (show c.toNat / 262144 < 0x08 by omega)]

theorem utf8Encode_toNat (chars : List Char) :
    utf8Encode (chars.map Char.toNat) = some (chars.flatMap String.utf8EncodeChar) := by
  induction chars with
  | nil => rfl
  | cons c chars ih =>
    rw [List.map_cons, utf8Encode, if_pos (isScalar_toNat c), ih, utf8Point_toNat]
    rfl

/-- The code points of a literal are those of its characters. -/
theorem lit_eq (text : String) : lit text = text.toList.map Char.toNat := by
  have hoctets : text.toByteArray.data.toList = text.toList.flatMap String.utf8EncodeChar := by
    conv_lhs => rw [← String.ofList_toList (s := text)]
    exact List.toList_data_toByteArray
  rw [lit, hoctets, utf8Decode_utf8Encode (utf8Encode_toNat text.toList)]
  rfl

/-! ## Parts of a text -/

theorem utf8Encode_append {s t : Str} {x y : Bytes} (hs : utf8Encode s = some x)
    (ht : utf8Encode t = some y) : utf8Encode (s ++ t) = some (x ++ y) := by
  induction s generalizing x with
  | nil =>
    obtain rfl : [] = x := by simpa [utf8Encode] using hs
    simpa using ht
  | cons c s ih =>
    by_cases hc : isScalar c
    · simp only [utf8Encode, if_pos hc, Option.map_eq_some_iff] at hs
      obtain ⟨x, hx, rfl⟩ := hs
      simp [utf8Encode, if_pos hc, ih hx]
    · simp [utf8Encode, if_neg hc] at hs

/-- Text can be encoded when it is without surrogates and in range. -/
theorem utf8Encode_isSome_iff {text : Str} :
    (utf8Encode text).isSome ↔ ∀ c ∈ text, isScalar c := by
  induction text with
  | nil => simp [utf8Encode]
  | cons c text ih =>
    by_cases hc : isScalar c
    · rw [utf8Encode, if_pos hc, Option.isSome_map, ih]
      simp [hc]
    · simp [utf8Encode, hc]

theorem exists_utf8Encode {text : Str} (h : ∀ c ∈ text, isScalar c) :
    ∃ bytes, utf8Encode text = some bytes :=
  Option.isSome_iff_exists.mp (utf8Encode_isSome_iff.mpr h)

theorem utf8Head_scalar {bytes rest : Bytes} {c : ℕ} (h : utf8Head bytes = some (c, rest)) :
    isScalar c := by
  cases bytes with
  | nil => simp [utf8Head] at h
  | cons a bytes =>
    have tail : ∀ {b : UInt8} {n : ℕ}, utf8Tail b = some n → n < 64 := by
      intro b n hb
      simp only [utf8Tail] at hb
      split at hb
      · obtain rfl := Option.some.inj hb
        omega
      · simp at hb
    simp only [utf8Head] at h
    split_ifs at h with h1 h2 h3 h4 h5
    · obtain ⟨rfl, -⟩ : a.toNat = c ∧ bytes = rest := by simpa using h
      exact isScalar_of_ascii h1
    · rcases bytes with _ | ⟨b, bytes⟩
      · simp at h
      · obtain ⟨y, hy, hyc⟩ := Option.map_eq_some_iff.mp h
        obtain ⟨rfl, -⟩ := Prod.mk.inj hyc
        have := tail hy
        exact ⟨by omega, fun hs => absurd hs.1 (by omega)⟩
    · rcases bytes with _ | ⟨b, _ | ⟨d, bytes⟩⟩
      · simp at h
      · simp at h
      · cases hb : utf8Tail b with
        | none => simp [hb] at h
        | some y =>
          cases hd : utf8Tail d with
          | none => simp [hb, hd] at h
          | some z =>
            simp only [hb, hd] at h
            split_ifs at h with hp
            obtain ⟨rfl, -⟩ := Prod.mk.inj (Option.some.inj h)
            have := tail hb
            have := tail hd
            exact ⟨by omega, hp.2⟩
    · rcases bytes with _ | ⟨b, _ | ⟨d, _ | ⟨e, bytes⟩⟩⟩
      · simp at h
      · simp at h
      · simp at h
      · cases hb : utf8Tail b with
        | none => simp [hb] at h
        | some x =>
          cases hd : utf8Tail d with
          | none => simp [hb, hd] at h
          | some y =>
            cases he : utf8Tail e with
            | none => simp [hb, hd, he] at h
            | some z =>
              simp only [hb, hd, he] at h
              split_ifs at h with hp
              obtain ⟨rfl, -⟩ := Prod.mk.inj (Option.some.inj h)
              exact ⟨hp.2, fun hs => absurd hs.2 (by omega)⟩

/-- What was decoded can be encoded. -/
theorem isScalar_of_utf8Decode {bytes : Bytes} {text : Str} (h : utf8Decode bytes = some text) :
    ∀ c ∈ text, isScalar c := by
  have key : ∀ fuel (bytes : Bytes) (text : Str), utf8DecodeN fuel bytes = some text →
      ∀ c ∈ text, isScalar c := by
    intro fuel
    induction fuel with
    | zero =>
      intro bytes text h
      cases bytes with
      | nil =>
        obtain rfl : [] = text := by simpa [utf8DecodeN] using h
        simp
      | cons a bytes => simp [utf8DecodeN] at h
    | succ fuel ih =>
      intro bytes text h
      cases bytes with
      | nil =>
        obtain rfl : [] = text := by simpa [utf8DecodeN] using h
        simp
      | cons a bytes =>
        cases hh : utf8Head (a :: bytes) with
        | none => simp [utf8DecodeN, hh] at h
        | some p =>
          simp only [utf8DecodeN, hh, Option.map_eq_some_iff] at h
          obtain ⟨tail, htail, rfl⟩ := h
          intro c hc
          rcases List.mem_cons.mp hc with rfl | hc
          · exact utf8Head_scalar hh
          · exact ih _ _ htail c hc
  exact key _ _ _ h

/-- An ASCII octet is a code point by itself. -/
theorem utf8Head_ascii {bytes rest : Bytes} {c : ℕ} (h : utf8Head bytes = some (c, rest)) :
    ∃ used, bytes = used ++ rest ∧ ∀ b ∈ used, b.toNat < 0x80 → c = b.toNat := by
  cases bytes with
  | nil => simp [utf8Head] at h
  | cons a bytes =>
    have tail : ∀ {b : UInt8} {n : ℕ}, utf8Tail b = some n → ¬ b.toNat < 0x80 := by
      intro b n hb hlt
      simp only [utf8Tail] at hb
      rw [if_neg (by omega)] at hb
      simp at hb
    simp only [utf8Head] at h
    split_ifs at h with h1 h2 h3 h4 h5
    · obtain ⟨rfl, rfl⟩ : a.toNat = c ∧ bytes = rest := by simpa using h
      exact ⟨[a], rfl, by simp⟩
    · rcases bytes with _ | ⟨b, bytes⟩
      · simp at h
      · obtain ⟨y, hy, hyc⟩ := Option.map_eq_some_iff.mp h
        obtain ⟨-, rfl⟩ := Prod.mk.inj hyc
        have := tail hy
        exact ⟨[a, b], rfl, by simp; omega⟩
    · rcases bytes with _ | ⟨b, _ | ⟨d, bytes⟩⟩
      · simp at h
      · simp at h
      · cases hb : utf8Tail b with
        | none => simp [hb] at h
        | some y =>
          cases hd : utf8Tail d with
          | none => simp [hb, hd] at h
          | some z =>
            simp only [hb, hd] at h
            split_ifs at h
            obtain ⟨-, rfl⟩ := Prod.mk.inj (Option.some.inj h)
            have := tail hb
            have := tail hd
            exact ⟨[a, b, d], rfl, by simp; omega⟩
    · rcases bytes with _ | ⟨b, _ | ⟨d, _ | ⟨e, bytes⟩⟩⟩
      · simp at h
      · simp at h
      · simp at h
      · cases hb : utf8Tail b with
        | none => simp [hb] at h
        | some x =>
          cases hd : utf8Tail d with
          | none => simp [hb, hd] at h
          | some y =>
            cases he : utf8Tail e with
            | none => simp [hb, hd, he] at h
            | some z =>
              simp only [hb, hd, he] at h
              split_ifs at h
              obtain ⟨-, rfl⟩ := Prod.mk.inj (Option.some.inj h)
              have := tail hb
              have := tail hd
              have := tail he
              exact ⟨[a, b, d, e], rfl, by simp; omega⟩

theorem utf8DecodeN_ascii {fuel : ℕ} {bytes : Bytes} {text : Str}
    (h : utf8DecodeN fuel bytes = some text) {b : UInt8} (hb : b ∈ bytes) (hlt : b.toNat < 0x80) :
    b.toNat ∈ text := by
  induction fuel generalizing bytes text with
  | zero =>
    cases bytes with
    | nil => simp at hb
    | cons a bytes => simp [utf8DecodeN] at h
  | succ fuel ih =>
    cases bytes with
    | nil => simp at hb
    | cons a bytes =>
      cases hh : utf8Head (a :: bytes) with
      | none => simp [utf8DecodeN, hh] at h
      | some p =>
        obtain ⟨c, rest⟩ := p
        simp only [utf8DecodeN, hh, Option.map_eq_some_iff] at h
        obtain ⟨tail, htail, rfl⟩ := h
        obtain ⟨used, hused, hc⟩ := utf8Head_ascii hh
        rw [hused] at hb
        rcases List.mem_append.mp hb with hb | hb
        · simp [hc b hb hlt]
        · exact List.mem_cons_of_mem c (ih htail hb)

/-- An ASCII octet shows in the decoded text. -/
theorem mem_of_utf8Decode {bytes : Bytes} {text : Str} (h : utf8Decode bytes = some text)
    {b : UInt8} (hb : b ∈ bytes) (hlt : b.toNat < 0x80) : b.toNat ∈ text :=
  utf8DecodeN_ascii h hb hlt

example : utf8Decode [0xE2, 0x82, 0xAC] = some [0x20AC] := by decide

example : utf8Encode [0xD800] = none := by decide

end Python
