import LlmInferenceSystems.Python.Text

/-!
# Line ends in a byte stream

Two operations on octets: `bytes.replace(b"\r\n", b"\n")`, and cutting at the first blank line,
`bytes.split(b"\n\n", 1)`. One replacement takes one CR off a run of CRs before an LF, so it is
not idempotent on `CR CR LF`; `collapse` takes the whole run off and is what repeated
replacement tends to. Cutting at every blank line can be done piece by piece as bytes arrive.

## Main definitions

* `crlfToLf`: one replacement
* `collapse`: every CR of a run directly before an LF is dropped
* `splitBlank`, `pieces`: one cut, and all cuts with what is left

## Main results

* `collapse_crlfToLf_append`: a replacement made early does not show after collapsing
* `pieces_joinPieces_append`: cut pieces come back when joined again
-/

namespace Python

/-- Carriage return. -/
abbrev CR : UInt8 := 13

/-- Line feed. -/
abbrev LF : UInt8 := 10

/-- `data.replace(b"\r\n", b"\n")` -/
def crlfToLf : Bytes → Bytes
  | [] => []
  | [b] => [b]
  | b :: c :: data => if b = CR ∧ c = LF then LF :: crlfToLf data else b :: crlfToLf (c :: data)

/-- Put an octet before a collapsed stream: a CR before an LF is dropped. -/
def collapseCons (b : UInt8) (data : Bytes) : Bytes :=
  if b = CR ∧ data.head? = some LF then data else b :: data

/-- Every CR of a run directly before an LF is dropped. -/
def collapse (data : Bytes) : Bytes := data.foldr collapseCons []

/-- `data.split(b"\n\n", 1)`, or `none` when there is no blank line. -/
def splitBlank : Bytes → Option (Bytes × Bytes)
  | [] => none
  | [_] => none
  | b :: c :: data =>
    if b = LF ∧ c = LF then some ([], data)
    else (splitBlank (c :: data)).map fun p => (b :: p.1, p.2)

/-- At most `fuel` cuts. -/
def piecesN : ℕ → Bytes → List Bytes × Bytes
  | 0, data => ([], data)
  | fuel + 1, data =>
    match splitBlank data with
    | none => ([], data)
    | some (piece, rest) => (piece :: (piecesN fuel rest).1, (piecesN fuel rest).2)

/-- All the pieces that a blank line ends, and what follows the last blank line. A cut takes two
octets out, so the number of octets is fuel enough. -/
def pieces (data : Bytes) : List Bytes × Bytes := piecesN data.length data

/-- The pieces again, each with its blank line. -/
def joinPieces (ps : List Bytes) : Bytes := ps.flatMap (· ++ [LF, LF])

/-! ## Replacement and collapsing -/

theorem crlfToLf_crlf (data : Bytes) : crlfToLf (CR :: LF :: data) = LF :: crlfToLf data := by
  simp [crlfToLf]

theorem crlfToLf_cons_of_ne {b : UInt8} (hb : b ≠ CR) (data : Bytes) :
    crlfToLf (b :: data) = b :: crlfToLf data := by
  cases data with
  | nil => rfl
  | cons c data => rw [crlfToLf, if_neg (fun h => hb h.1)]

theorem crlfToLf_cons_of_not {b c : UInt8} (h : ¬ (b = CR ∧ c = LF)) (data : Bytes) :
    crlfToLf (b :: c :: data) = b :: crlfToLf (c :: data) := by
  rw [crlfToLf, if_neg h]

theorem crlfToLf_append_of_cr_not_mem {data : Bytes} (h : CR ∉ data) (more : Bytes) :
    crlfToLf (data ++ more) = data ++ crlfToLf more := by
  induction data with
  | nil => rfl
  | cons b data ih =>
    rw [List.cons_append, crlfToLf_cons_of_ne (fun hb => h (by simp [hb])),
      ih fun hd => h (by simp [hd]), List.cons_append]

/-- Replacement goes part by part unless a CRLF may be split. -/
theorem crlfToLf_append {data : Bytes} (h : data.getLast? ≠ some CR) (more : Bytes) :
    crlfToLf (data ++ more) = crlfToLf data ++ crlfToLf more := by
  fun_induction crlfToLf data with
  | case1 => rfl
  | case2 b => exact crlfToLf_cons_of_ne (by simpa using h) more
  | case3 b c data hbc ih =>
    obtain ⟨rfl, rfl⟩ := hbc
    rw [List.cons_append, List.cons_append, crlfToLf_crlf, List.cons_append]
    cases data with
    | nil => rfl
    | cons d data => rw [ih (by simpa using h)]
  | case4 b c data hbc ih =>
    rw [List.cons_append, List.cons_append, crlfToLf_cons_of_not hbc, ← List.cons_append,
      ih (by simpa using h), List.cons_append]

theorem length_crlfToLf_le (data : Bytes) : (crlfToLf data).length ≤ data.length := by
  fun_induction crlfToLf data with
  | case1 => simp
  | case2 => simp
  | case3 _ _ _ _ ih => simp only [List.length_cons] at *; omega
  | case4 _ _ _ _ ih => simp only [List.length_cons] at *; omega

theorem collapseCons_of_ne {b : UInt8} (hb : b ≠ CR) (data : Bytes) :
    collapseCons b data = b :: data := by
  rw [collapseCons, if_neg (fun h => hb h.1)]

theorem collapseCons_cr_lf (data : Bytes) : collapseCons CR (LF :: data) = LF :: data := by
  simp [collapseCons]

theorem collapse_append (data more : Bytes) :
    collapse (data ++ more) = data.foldr collapseCons (collapse more) := by
  simp [collapse, List.foldr_append]

theorem foldr_collapseCons_of_cr_not_mem {data : Bytes} (h : CR ∉ data) (more : Bytes) :
    data.foldr collapseCons more = data ++ more := by
  induction data with
  | nil => rfl
  | cons b data ih =>
    rw [List.foldr_cons, ih fun hd => h (by simp [hd]),
      collapseCons_of_ne fun hb => h (by simp [hb]), List.cons_append]

theorem collapse_append_of_cr_not_mem {data : Bytes} (h : CR ∉ data) (more : Bytes) :
    collapse (data ++ more) = data ++ collapse more := by
  rw [collapse_append, foldr_collapseCons_of_cr_not_mem h]

theorem collapse_of_cr_not_mem {data : Bytes} (h : CR ∉ data) : collapse data = data := by
  simpa [collapse] using collapse_append_of_cr_not_mem h []

/-- **A replacement made early does not show after collapsing**, whatever comes later. -/
theorem collapse_crlfToLf_append (data more : Bytes) :
    collapse (crlfToLf data ++ more) = collapse (data ++ more) := by
  simp only [collapse_append]
  fun_induction crlfToLf data with
  | case1 => rfl
  | case2 => rfl
  | case3 b c data h ih =>
    obtain ⟨rfl, rfl⟩ := h
    simp only [List.foldr_cons, ih]
    rw [collapseCons_of_ne (by decide), collapseCons_cr_lf]
  | case4 b c data h ih => simp only [List.foldr_cons] at ih ⊢; rw [ih]

theorem collapse_crlfToLf (data : Bytes) : collapse (crlfToLf data) = collapse data := by
  simpa using collapse_crlfToLf_append data []

/-! ### Octets in which one replacement is enough -/

/-- No run of two CRs stands before an LF, so one replacement takes off what `collapse` does. -/
def OneReplacement (data : Bytes) : Prop := ¬ [CR, CR, LF] <:+: data

/-- No CR stands before an LF. -/
def NoCrlf (data : Bytes) : Prop := ¬ [CR, LF] <:+: data

instance : DecidablePred NoCrlf := fun _ => inferInstanceAs (Decidable (¬ _))

theorem OneReplacement.of_cons {b : UInt8} {data : Bytes} (h : OneReplacement (b :: data)) :
    OneReplacement data := fun hd => h (hd.trans (List.suffix_cons b data).isInfix)

theorem NoCrlf.of_cons {b : UInt8} {data : Bytes} (h : NoCrlf (b :: data)) : NoCrlf data :=
  fun hd => h (hd.trans (List.suffix_cons b data).isInfix)

theorem NoCrlf.cons {b : UInt8} {data : Bytes} (h : NoCrlf data)
    (hb : ¬ (b = CR ∧ data.head? = some LF)) : NoCrlf (b :: data) := by
  intro hd
  rcases List.infix_cons_iff.mp hd with hd | hd
  · obtain ⟨more, hmore⟩ := hd
    obtain ⟨rfl, rfl⟩ : CR = b ∧ LF :: more = data := by simpa using hmore
    exact hb ⟨rfl, rfl⟩
  · exact h hd

/-- The first octet after a replacement is the first one before it, or an LF for a CRLF. -/
theorem head?_crlfToLf_cons (b : UInt8) (data : Bytes) :
    (crlfToLf (b :: data)).head? = some b ∨ b = CR ∧ data.head? = some LF := by
  cases data with
  | nil => exact .inl rfl
  | cons c data =>
    rw [crlfToLf]
    split
    · next h => exact .inr ⟨h.1, by simp [h.2]⟩
    · exact .inl rfl

theorem crlfToLf_cons_ne_nil (b : UInt8) (data : Bytes) : crlfToLf (b :: data) ≠ [] := by
  cases data with
  | nil => simp [crlfToLf]
  | cons c data =>
    rw [crlfToLf]
    split <;> simp

theorem noCrlf_crlfToLf {data : Bytes} (h : OneReplacement data) : NoCrlf (crlfToLf data) := by
  fun_induction crlfToLf data with
  | case1 => simp [NoCrlf]
  | case2 b => exact fun hd => by simpa using hd.length_le
  | case3 b c data _ ih => exact (ih h.of_cons.of_cons).cons fun hb => absurd hb.1 (by decide)
  | case4 b c data hbc ih =>
    refine (ih h.of_cons).cons fun hb => ?_
    obtain ⟨rfl, hhead⟩ := hb
    rcases head?_crlfToLf_cons c data with hc | ⟨rfl, hd⟩
    · rw [hc, Option.some.injEq] at hhead
      exact hbc ⟨rfl, hhead⟩
    · obtain ⟨data, rfl⟩ : ∃ t, data = LF :: t := by
        cases data with
        | nil => simp at hd
        | cons d data => exact ⟨data, by simpa using hd⟩
      exact h (List.prefix_append [CR, CR, LF] data).isInfix

/-- A replacement made early does not show after a later one. -/
theorem crlfToLf_crlfToLf_append {data more : Bytes} (h : OneReplacement (data ++ more)) :
    crlfToLf (crlfToLf data ++ more) = crlfToLf (data ++ more) := by
  -- -- by the recursion of the replacement; a CR LF pair leaves only its LF
  fun_induction crlfToLf data with
  | case1 => rfl
  | case2 => rfl
  | case3 b c data hbc ih =>
    obtain ⟨rfl, rfl⟩ := hbc
    simp only [List.cons_append, crlfToLf_crlf]
    rw [crlfToLf_cons_of_ne (by decide), ih h.of_cons.of_cons]
  | case4 b c data hbc ih =>
    have ih' := ih h.of_cons
    rw [List.cons_append] at ih' ⊢
    rw [List.cons_append, List.cons_append, crlfToLf_cons_of_not hbc, ← List.cons_append, ← ih']
    rcases ne_or_eq b CR with hb | rfl
    · exact crlfToLf_cons_of_ne hb _
    · -- the octet after the CR stays where it is, so the CR stays too
      rcases head?_crlfToLf_cons c data with hc | ⟨rfl, hd⟩
      -- -- the next octet stays, and with it the CR
      · obtain ⟨t, ht⟩ : ∃ t, crlfToLf (c :: data) = c :: t := by
          cases hcd : crlfToLf (c :: data) with
          | nil => simp [hcd] at hc
          | cons d t => exact ⟨t, by simp [hcd] at hc; rw [hc]⟩
        rw [ht]
        exact crlfToLf_cons_of_not hbc _
      -- -- the next octet is the CR of a pair: this is the CR CR LF that is ruled out
      · obtain ⟨data, rfl⟩ : ∃ t, data = LF :: t := by
          cases data with
          | nil => simp at hd
          | cons d data => exact ⟨data, by simpa using hd⟩
        exact absurd (List.prefix_append [CR, CR, LF] (data ++ more)).isInfix h

/-- A replacement that leaves no CRLF does not show after a later one. -/
theorem crlfToLf_crlfToLf_append_of_noCrlf {data : Bytes} (h : NoCrlf (crlfToLf data))
    (more : Bytes) : crlfToLf (crlfToLf data ++ more) = crlfToLf (data ++ more) := by
  fun_induction crlfToLf data with
  | case1 => rfl
  | case2 => rfl
  | case3 b c data hbc ih =>
    obtain ⟨rfl, rfl⟩ := hbc
    simp only [List.cons_append, crlfToLf_crlf]
    rw [crlfToLf_cons_of_ne (by decide), ih h.of_cons]
  | case4 b c data hbc ih =>
    have ih' := ih h.of_cons
    rw [List.cons_append] at ih' ⊢
    rw [List.cons_append, List.cons_append, crlfToLf_cons_of_not hbc, ← List.cons_append, ← ih']
    cases hcd : crlfToLf (c :: data) with
    | nil => exact absurd hcd (crlfToLf_cons_ne_nil c data)
    | cons d t =>
      refine crlfToLf_cons_of_not (fun hbd => ?_) _
      rw [hcd, hbd.1, hbd.2] at h
      exact h (List.prefix_append [CR, LF] t).isInfix

theorem NoCrlf.append_left {data more : Bytes} (h : NoCrlf more) (hcr : CR ∉ data) :
    NoCrlf (data ++ more) := by
  induction data with
  | nil => exact h
  | cons b data ih =>
    refine (ih fun hmem => hcr (List.mem_cons_of_mem _ hmem)).cons ?_
    rintro ⟨rfl, -⟩
    exact hcr List.mem_cons_self

/-- Octets without a CRLF that end in an LF are passed over by a replacement. -/
theorem crlfToLf_append_of_noCrlf {data : Bytes} (h : NoCrlf data)
    (hlast : data.getLast? ≠ some CR) (more : Bytes) :
    crlfToLf (data ++ more) = data ++ crlfToLf more := by
  induction data with
  | nil => rfl
  | cons b data ih =>
    cases data with
    | nil => exact crlfToLf_cons_of_ne (by simpa using hlast) more
    | cons c data =>
      have hbc : ¬ (b = CR ∧ c = LF) := by
        rintro ⟨rfl, rfl⟩
        exact h (List.prefix_append [CR, LF] data).isInfix
      rw [List.cons_append, List.cons_append, crlfToLf_cons_of_not hbc, ← List.cons_append,
        ih h.of_cons (by simpa using hlast)]
      rfl

/-! ## Cutting at blank lines -/

theorem splitBlank_length {data piece rest : Bytes} (h : splitBlank data = some (piece, rest)) :
    data.length = piece.length + rest.length + 2 := by
  fun_induction splitBlank data generalizing piece with
  | case1 => simp at h
  | case2 => simp at h
  | case3 b c data _ =>
    obtain ⟨rfl, rfl⟩ : [] = piece ∧ data = rest := by simpa using h
    simp
  | case4 b c data _ ih =>
    obtain ⟨⟨p, r⟩, hp, hpr⟩ := Option.map_eq_some_iff.mp h
    obtain ⟨rfl, rfl⟩ := Prod.mk.inj hpr
    have := ih hp
    simp only [List.length_cons] at this ⊢
    omega

theorem splitBlank_spec {data piece rest : Bytes} (h : splitBlank data = some (piece, rest)) :
    data = piece ++ [LF, LF] ++ rest := by
  fun_induction splitBlank data generalizing piece with
  | case1 => simp at h
  | case2 => simp at h
  | case3 b c data hbc =>
    obtain ⟨rfl, rfl⟩ := hbc
    obtain ⟨rfl, rfl⟩ : [] = piece ∧ data = rest := by simpa using h
    rfl
  | case4 b c data _ ih =>
    obtain ⟨⟨p, r⟩, hp, hpr⟩ := Option.map_eq_some_iff.mp h
    obtain ⟨rfl, rfl⟩ := Prod.mk.inj hpr
    simp [ih hp]

theorem piecesN_eq_pieces {fuel : ℕ} {data : Bytes} (h : data.length ≤ fuel) :
    piecesN fuel data = pieces data := by
  have key : ∀ n m (d : Bytes), d.length ≤ n → d.length ≤ m → piecesN n d = piecesN m d := by
    intro n
    induction n with
    | zero =>
      intro m d hn _
      obtain rfl := List.length_eq_zero_iff.mp (Nat.le_zero.mp hn)
      cases m <;> rfl
    | succ n ih =>
      intro m d hn hm
      cases m with
      | zero =>
        obtain rfl := List.length_eq_zero_iff.mp (Nat.le_zero.mp hm)
        rfl
      | succ m =>
        simp only [piecesN]
        cases hs : splitBlank d with
        | none => rfl
        | some p =>
          obtain ⟨piece, rest⟩ := p
          have hlen := splitBlank_length hs
          simp only [ih m rest (by omega) (by omega)]
  exact key fuel data.length data h (Nat.le_refl _)

theorem pieces_of_splitBlank_none {data : Bytes} (h : splitBlank data = none) :
    pieces data = ([], data) := by
  unfold pieces
  cases data.length with
  | zero => rfl
  | succ n => simp [piecesN, h]

theorem pieces_of_splitBlank_some {data piece rest : Bytes}
    (h : splitBlank data = some (piece, rest)) :
    pieces data = (piece :: (pieces rest).1, (pieces rest).2) := by
  have hlen := splitBlank_length h
  rw [pieces, show data.length = (piece.length + rest.length + 1) + 1 by omega, piecesN, h]
  simp only [piecesN_eq_pieces (show rest.length ≤ piece.length + rest.length + 1 by omega)]

@[simp] theorem pieces_nil : pieces [] = ([], []) := rfl

/-- Induction over the cuts of a stream. -/
theorem pieces_induction {P : Bytes → Prop}
    (last : ∀ data, splitBlank data = none → P data)
    (cut : ∀ data piece rest, splitBlank data = some (piece, rest) → P rest → P data)
    (data : Bytes) : P data := by
  induction h : data.length using Nat.strongRecOn generalizing data with
  | ind n ih =>
    cases hs : splitBlank data with
    | none => exact last data hs
    | some p =>
      have hlen := splitBlank_length hs
      exact cut data p.1 p.2 hs (ih p.2.length (by omega) p.2 rfl)

/-- The pieces and the remainder make up the stream. -/
theorem joinPieces_pieces (data : Bytes) :
    joinPieces (pieces data).1 ++ (pieces data).2 = data := by
  induction data using pieces_induction with
  | last data h => simp [pieces_of_splitBlank_none h, joinPieces]
  | cut data piece rest h ih =>
    rw [pieces_of_splitBlank_some h, splitBlank_spec h]
    simp only [joinPieces, List.flatMap_cons, List.append_assoc] at ih ⊢
    rw [ih]

@[simp] theorem joinPieces_nil : joinPieces [] = [] := rfl

@[simp] theorem joinPieces_append (ps qs : List Bytes) :
    joinPieces (ps ++ qs) = joinPieces ps ++ joinPieces qs := List.flatMap_append

/-- A piece that was cut is cut again from the same bytes, whatever follows. -/
theorem splitBlank_piece {data piece rest : Bytes} (h : splitBlank data = some (piece, rest))
    (more : Bytes) : splitBlank (piece ++ [LF, LF] ++ more) = some (piece, more) := by
  fun_induction splitBlank data generalizing piece with
  | case1 => simp at h
  | case2 => simp at h
  | case3 b c data hbc =>
    obtain ⟨rfl, rfl⟩ : [] = piece ∧ data = rest := by simpa using h
    simp [splitBlank]
  | case4 b c data hbc ih =>
    obtain ⟨⟨p, r⟩, hp, hpr⟩ := Option.map_eq_some_iff.mp h
    obtain ⟨rfl, rfl⟩ := Prod.mk.inj hpr
    have hm := ih hp
    -- the piece starts with the octet that followed `b`, so the test at `b` comes out the same
    have hc : ∃ t, p ++ [LF, LF] ++ more = c :: t := by
      have hs := splitBlank_spec hp
      cases p with
      | nil =>
        obtain ⟨hc, -⟩ : c = LF ∧ data = LF :: r := by simpa using hs
        exact ⟨_, by simp [hc]; rfl⟩
      | cons d p =>
        obtain ⟨hc, -⟩ : c = d ∧ data = p ++ LF :: LF :: r := by simpa using hs
        exact ⟨_, by rw [hc]; rfl⟩
    obtain ⟨t, ht⟩ := hc
    rw [List.cons_append, List.cons_append, ht, splitBlank, if_neg hbc, ← ht, hm]
    rfl

/-- **Cut pieces come back when joined again.** -/
theorem pieces_joinPieces_append (data more : Bytes) :
    pieces (joinPieces (pieces data).1 ++ more) =
      ((pieces data).1 ++ (pieces more).1, (pieces more).2) := by
  induction data using pieces_induction with
  | last data h => simp [pieces_of_splitBlank_none h]
  | cut data piece rest h ih =>
    rw [pieces_of_splitBlank_some h]
    simp only [joinPieces, List.flatMap_cons, List.append_assoc] at ih ⊢
    have hp := splitBlank_piece h ((pieces rest).1.flatMap (· ++ [LF, LF]) ++ more)
    rw [List.append_assoc] at hp
    rw [pieces_of_splitBlank_some hp, ih]
    simp

example : crlfToLf [CR, CR, LF] = [CR, LF] := by decide

example : pieces [97, LF, LF, LF, 98] = ([[97]], [LF, 98]) := by decide

end Python
