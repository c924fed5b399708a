import LlmInferenceSystems.Python.Lines
import LlmInferenceSystems.Python.Regex

/-!
# Pending bytes

What follows the last blank line of a raw body, where either line end of a blank line may be LF or
CRLF. With CRLF replaced by LF it is what the cuts of the replaced body leave.

## Main definitions

* `pendingSseBytes`: `_pending_sse_bytes`

## Main results

* `pendingSseBytes_spec`: the octets before the pending ones are the cut pieces
-/

namespace Stage2

open Python Regex

/-- `(?:\r\n|\n)` -/
def newline : Regex UInt8 := .alt (.literal [CR, LF]) (.literal [LF])

/-- `(?:\r\n|\n)(?:\r\n|\n)` -/
def blankLine : Regex UInt8 := .seq newline newline

/-- Octets have no word boundaries to look for. -/
def noWord : UInt8 → Bool := fun _ => false

/-- `_pending_sse_bytes` -/
def pendingSseBytes (rawBody : Bytes) : Bytes :=
  ((finditer noWord blankLine rawBody).getLast?.map (·.rest)).getD rawBody

/-! ## Matches of a blank line -/

/-- A line end at the start of some octets, and what follows it. -/
def lineEnd : Bytes → Option (Bytes × Bytes)
  | [] => none
  | [b] => if b = LF then some ([LF], []) else none
  | b :: c :: data =>
    if b = LF then some ([LF], c :: data)
    else if b = CR ∧ c = LF then some ([CR, LF], data)
    else none

theorem run_newline (before : Option UInt8) (input : Bytes) :
    run noWord newline before input =
      (lineEnd input).toList.map fun p => ⟨p.1, p.2, []⟩ := by
  match input with
  | [] => rfl
  | [b] =>
    by_cases hb : b = LF <;> simp [newline, run, Regex.literal, lineEnd, hb]
  | b :: c :: data =>
    by_cases hb : b = LF
    · simp [newline, run, Regex.literal, lineEnd, hb, show LF ≠ CR by decide]
    · by_cases hcr : b = CR
      · by_cases hc : c = LF <;>
          simp [newline, run, Regex.literal, lineEnd, hcr, hc, show CR ≠ LF by decide]
      · simp [newline, run, Regex.literal, lineEnd, hb, hcr]

theorem matchAt_blankLine (before : Option UInt8) (input : Bytes) :
    matchAt noWord blankLine before input =
      (lineEnd input).bind fun p => (lineEnd p.2).map fun q => ⟨p.1 ++ q.1, q.2, []⟩ := by
  rw [matchAt, blankLine, run, run_newline]
  cases lineEnd input with
  | none => rfl
  | some p =>
    simp only [Option.toList_some, List.map_cons, List.map_nil, List.flatMap_cons,
      List.flatMap_nil, List.append_nil, run_newline, Option.bind_some]
    cases lineEnd p.2 <;> rfl

theorem lineEnd_spec {input text rest : Bytes} (h : lineEnd input = some (text, rest)) :
    input = text ++ rest ∧ text ≠ [] ∧ ∀ more, crlfToLf (text ++ more) = LF :: crlfToLf more := by
  have hlf : ∀ more, crlfToLf ([LF] ++ more) = LF :: crlfToLf more :=
    fun more => crlfToLf_cons_of_ne (by decide) more
  match input with
  | [] => simp [lineEnd] at h
  | [b] =>
    simp only [lineEnd] at h
    split_ifs at h with hb
    obtain ⟨rfl, rfl⟩ := Prod.mk.inj (Option.some.inj h)
    exact ⟨by simp [hb], by simp, hlf⟩
  | b :: c :: data =>
    simp only [lineEnd] at h
    split_ifs at h with hb hbc
    · obtain ⟨rfl, rfl⟩ := Prod.mk.inj (Option.some.inj h)
      exact ⟨by simp [hb], by simp, hlf⟩
    · obtain ⟨rfl, rfl⟩ := Prod.mk.inj (Option.some.inj h)
      exact ⟨by simp [hbc.1, hbc.2], by simp, fun more => crlfToLf_crlf more⟩

theorem lineEnd_text {input text rest : Bytes} (h : lineEnd input = some (text, rest)) :
    text = [LF] ∨ text = [CR, LF] := by
  match input with
  | [] => simp [lineEnd] at h
  | [b] =>
    simp only [lineEnd] at h
    split_ifs at h
    exact .inl (Prod.mk.inj (Option.some.inj h)).1.symm
  | b :: c :: data =>
    simp only [lineEnd] at h
    split_ifs at h
    · exact .inl (Prod.mk.inj (Option.some.inj h)).1.symm
    · exact .inr (Prod.mk.inj (Option.some.inj h)).1.symm

theorem lineEnd_lf (data : Bytes) : lineEnd (LF :: data) = some ([LF], data) := by
  cases data <;> rfl

/-- Where no line ends, the first octet stays. -/
theorem crlfToLf_of_lineEnd_none {b : UInt8} {data : Bytes} (h : lineEnd (b :: data) = none) :
    crlfToLf (b :: data) = b :: crlfToLf data ∧ b ≠ LF := by
  cases data with
  | nil =>
    simp only [lineEnd, ite_eq_right_iff, reduceCtorEq, imp_false] at h
    exact ⟨rfl, h⟩
  | cons c data =>
    simp only [lineEnd] at h
    split_ifs at h with hb hbc
    exact ⟨crlfToLf_cons_of_not hbc data, hb⟩

theorem head?_crlfToLf_of_lineEnd_none {data : Bytes} (h : lineEnd data = none) :
    (crlfToLf data).head? ≠ some LF := by
  cases data with
  | nil => simp [crlfToLf]
  | cons b data =>
    obtain ⟨heq, hne⟩ := crlfToLf_of_lineEnd_none h
    simp [heq, hne]

/-- An octet that starts no blank line is put before the first piece. -/
theorem splitBlank_cons {b : UInt8} {data : Bytes} (h : b ≠ LF ∨ data.head? ≠ some LF) :
    splitBlank (b :: data) = (splitBlank data).map fun p => (b :: p.1, p.2) := by
  cases data with
  | nil => rfl
  | cons c data =>
    rw [splitBlank, if_neg]
    rintro ⟨rfl, rfl⟩
    simp at h

/-! ## The scan -/

/-- What a scan of some octets finds first: nothing, or a blank line after which it goes on. -/
def FirstBlankLine (input : Bytes) (found : List (Match UInt8)) : Prop :=
  (splitBlank (crlfToLf input) = none ∧ found = []) ∨
    ∃ front text rest fuel before, input = front ++ text ++ rest ∧
      crlfToLf (front ++ text) = crlfToLf front ++ [LF, LF] ∧ text.getLast? = some LF ∧
      splitBlank (crlfToLf input) = some (crlfToLf front, crlfToLf rest) ∧
      rest.length < input.length ∧ rest.length ≤ fuel ∧
      found = ⟨text, rest, []⟩ :: finditerN noWord blankLine fuel before rest

/-- A blank line further on is found further on. -/
theorem FirstBlankLine.shift {text data : Bytes} {found : List (Match UInt8)} {c : UInt8}
    (h : FirstBlankLine data found)
    (hreplace : ∀ more, more <+: data → crlfToLf (text ++ more) = c :: crlfToLf more)
    (hsplit : c ≠ LF ∨ (crlfToLf data).head? ≠ some LF) :
    FirstBlankLine (text ++ data) found := by
  have hcut := splitBlank_cons hsplit
  rw [← hreplace data List.prefix_rfl] at hcut
  rcases h with ⟨hblank, hnil⟩ | ⟨front, line, rest, fuel, before, rfl, hlines, hlast, hblank,
    hshorter, henough, hfound⟩
  · rw [hblank] at hcut
    exact .inl ⟨hcut, hnil⟩
  · rw [hblank, Option.map_some] at hcut
    have hfront : front <+: front ++ line ++ rest := by
      rw [List.append_assoc]
      exact List.prefix_append _ _
    have hlines' : crlfToLf (text ++ front ++ line) = crlfToLf (text ++ front) ++ [LF, LF] := by
      rw [List.append_assoc, hreplace _ (List.prefix_append _ _), hreplace _ hfront, hlines]
      rfl
    refine .inr ⟨text ++ front, line, rest, fuel, before, by simp, hlines', hlast, ?_, ?_, henough,
      hfound⟩
    · rw [hreplace _ hfront, hcut]
    · rw [List.length_append]
      omega

/-- A scan that does not match here goes on at the next octet. -/
theorem finditerN_of_matchAt_none {fuel : ℕ} {before : Option UInt8} {b : UInt8} {data : Bytes}
    (h : matchAt noWord blankLine before (b :: data) = none) :
    finditerN noWord blankLine (fuel + 1) before (b :: data) =
      finditerN noWord blankLine fuel (some b) data := by
  rw [finditerN_succ, h]

/-- The scan finds the first blank line. -/
theorem firstBlankLine_finditerN {fuel : ℕ} (before : Option UInt8) {input : Bytes}
    (hfuel : input.length ≤ fuel) :
    FirstBlankLine input (finditerN noWord blankLine fuel before input) := by
  induction hn : input.length using Nat.strongRecOn generalizing fuel before input with
  | ind n ih =>
    subst hn
    match input, fuel, hfuel with
    | [], 0, _ => exact .inl ⟨rfl, rfl⟩
    | [], fuel + 1, _ => exact .inl ⟨rfl, rfl⟩
    | b :: data, fuel + 1, hfuel =>
      have hdata : data.length ≤ fuel := by simpa using hfuel
      have hmatch := matchAt_blankLine before (b :: data)
      cases hend : lineEnd (b :: data) with
      | none =>
        -- no line ends here
        rw [hend, Option.bind_none] at hmatch
        rw [finditerN_of_matchAt_none hmatch]
        obtain ⟨-, hne⟩ := crlfToLf_of_lineEnd_none hend
        have hlater := ih data.length (by simp) (some b) hdata rfl
        refine @FirstBlankLine.shift [b] data _ b hlater (fun more hmore => ?_) (.inl hne)
        obtain ⟨tail, rfl⟩ := hmore
        cases more with
        | nil => rfl
        | cons c more =>
          refine crlfToLf_cons_of_not (fun hbc => ?_) more
          simp [lineEnd, hbc.1, hbc.2, show CR ≠ LF by decide] at hend
      | some p =>
        obtain ⟨text, rest⟩ := p
        obtain ⟨hsplit, htext, hreplace⟩ := lineEnd_spec hend
        rw [hend, Option.bind_some] at hmatch
        cases hend' : lineEnd rest with
        | none =>
          -- a line ends here, but no blank one
          rw [hend', Option.map_none] at hmatch
          rw [finditerN_of_matchAt_none hmatch, hsplit]
          have hhead := head?_crlfToLf_of_lineEnd_none hend'
          rcases lineEnd_text hend with rfl | rfl
          · obtain ⟨rfl, rfl⟩ : b = LF ∧ data = rest := by simpa using hsplit
            exact (ih data.length (by simp) (some LF) hdata rfl).shift
              (fun more _ => hreplace more) (.inr hhead)
          · obtain ⟨rfl, rfl⟩ : b = CR ∧ data = LF :: rest := by simpa using hsplit
            match fuel, hdata with
            | fuel + 1, hdata =>
              have hskip : matchAt noWord blankLine (some CR) (LF :: rest) = none := by
                rw [matchAt_blankLine, lineEnd_lf, Option.bind_some, hend', Option.map_none]
              rw [finditerN_of_matchAt_none hskip]
              have hshorter : rest.length < (CR :: LF :: rest).length := by
                simp only [List.length_cons]
                omega
              exact (ih rest.length hshorter (some LF) (by simpa using hdata) rfl).shift
                (fun more _ => hreplace more) (.inr hhead)
        | some q =>
          obtain ⟨text', rest'⟩ := q
          obtain ⟨rfl, htext', hreplace'⟩ := lineEnd_spec hend'
          rw [hend', Option.map_some] at hmatch
          have hlines : ∀ more, crlfToLf (text ++ text' ++ more) = LF :: LF :: crlfToLf more := by
            intro more
            rw [List.append_assoc, hreplace, hreplace']
          rw [hsplit, ← List.append_assoc]
          refine .inr ⟨[], text ++ text', rest', fuel, lastOr before (text ++ text'), rfl, ?_, ?_, ?_,
            ?_, ?_, ?_⟩
          · have h := hlines []
            rwa [List.append_nil] at h
          · rcases lineEnd_text hend' with rfl | rfl <;> simp
          · rw [hlines]
            rfl
          · have hpos := List.length_pos_of_ne_nil htext
            simp only [List.length_append]
            omega
          · have hlength := congrArg List.length hsplit
            have hpos := List.length_pos_of_ne_nil htext
            simp only [List.length_cons, List.length_append] at hlength hfuel
            omega
          · obtain ⟨c, t, ht⟩ := List.exists_cons_of_ne_nil htext
            rw [finditerN_succ, List.append_assoc, ← hsplit, hmatch]
            subst ht
            rfl

/-- **The pending octets are what the cuts leave**: what is before them is the cut pieces. -/
theorem pendingSseBytes_spec (rawBody : Bytes) :
    ∃ front, rawBody = front ++ pendingSseBytes rawBody ∧
      crlfToLf front = joinPieces (pieces (crlfToLf rawBody)).1 ∧
      crlfToLf (pendingSseBytes rawBody) = (pieces (crlfToLf rawBody)).2 := by
  -- by strong induction on the octets that are left, with fuel enough to scan them
  have key : ∀ n fuel before (input : Bytes), input.length = n → input.length ≤ fuel →
      ∃ front, let pending := ((finditerN noWord blankLine fuel before input).getLast?.map
          (·.rest)).getD input
        input = front ++ pending ∧ crlfToLf front = joinPieces (pieces (crlfToLf input)).1 ∧
          crlfToLf pending = (pieces (crlfToLf input)).2 := by
    intro n
    induction n using Nat.strongRecOn with
    | ind n ih =>
      rintro fuel before input rfl hfuel
      rcases firstBlankLine_finditerN before hfuel with ⟨hblank, hnil⟩ | ⟨front, text, rest, fuel',
        before', hsplit, hlines, hlast, hblank, hshorter, henough, hfound⟩
      -- no blank line is left: all of the input is pending, and no piece is complete
      · rw [hnil, pieces_of_splitBlank_none hblank]
        exact ⟨[], rfl, rfl, rfl⟩
      -- a blank line is found first, and the rest is shorter
      · obtain ⟨front', hrest, hfront', hpending⟩ :=
          ih rest.length hshorter fuel' before' rest rfl henough
        have hgetLast : ((finditerN noWord blankLine fuel before input).getLast?.map
            (·.rest)).getD input = ((finditerN noWord blankLine fuel' before' rest).getLast?.map
              (·.rest)).getD rest := by
          rw [hfound, List.getLast?_cons]
          cases (finditerN noWord blankLine fuel' before' rest).getLast? <;> rfl
        -- what is before the rest ends in LF, so no CRLF is split between them
        have hend : (front ++ text).getLast? ≠ some CR := by
          rw [List.getLast?_append, hlast, Option.some_or]
          decide
        rw [hgetLast, pieces_of_splitBlank_some hblank]
        refine ⟨front ++ text ++ front', ?_, ?_, hpending⟩
        · rw [List.append_assoc, ← hrest, hsplit]
        · rw [crlfToLf_append hend, hlines, hfront']
          simp [joinPieces]
  exact key _ _ _ rawBody rfl (Nat.le_refl _)

end Stage2
