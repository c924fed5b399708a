import Mathlib.Data.List.DropRight
import LlmInferenceSystems.Stage2.Correlation

/-!
# The greedy pattern

What the correlation's greedy pattern collects from a line whose only `cmpl-` identifiers are the
two of one request. It finds the serving id as it is, and the engine's id too, except when the
suffix starts with `0`: then the last `-0` of the identifier is the one at the suffix, and what is
collected is neither of the two.

## Main definitions

* `identifiers`: the `cmpl-` identifiers of a line
* `genericId`: what the greedy pattern makes of an identifier

## Main results

* `genericIds_of_identifiers`: what the greedy pattern makes of a line
-/

namespace Stage2

open Python Regex

/-- `cmpl-[A-Za-z0-9._-]+`: a run of identifier characters after `cmpl-`. -/
def identifierPattern : Regex ℕ := .seq (literal (lit "cmpl-")) (.rep isIdChar 1 none)

/-- A run without the full stops that end the sentence it stands in. -/
def trimStops (text : Str) : Str := text.rdropWhile (· == 46)

theorem stopsAt_genericIdPattern : StopsAt 32 genericIdPattern := by
  refine ⟨stopsAt_literal (by decide), ?_, stopsAt_literal (by decide),
    ⟨stopsAt_literal (by decide), ?_⟩, trivial⟩
  · exact (by decide : isIdChar 32 = false)
  · exact (by decide : isHexDigit 32 = false)

theorem stopsAt_identifierPattern : StopsAt 32 identifierPattern :=
  ⟨stopsAt_literal (by decide), (by decide : isIdChar 32 = false)⟩

theorem not_prefix_of_head? {c : ℕ} {text line : Str} (h : line.head? ≠ some c) :
    ¬ c :: text <+: line := by
  rintro ⟨more, rfl⟩
  simp at h

/-- No `-0` starts among characters that are not `-`. -/
theorem not_prefix_drop {pre mid rest : Str} (hmid : ∀ c ∈ mid, c ≠ 45) (hrest : rest.head? ≠ some 45)
    {n : ℕ} (hn : pre.length ≤ n) (hle : n ≤ (pre ++ mid).length) :
    ¬ lit "-0" <+: (pre ++ mid ++ rest).drop n := by
  rw [show lit "-0" = [45, 48] by decide]
  refine not_prefix_of_head? ?_
  obtain ⟨k, rfl⟩ := Nat.exists_eq_add_of_le hn
  rw [List.length_append] at hle
  have hdrop : (pre ++ mid ++ rest).drop (pre.length + k) = mid.drop k ++ rest := by
    rw [List.append_assoc, List.drop_append, List.drop_eq_nil_of_le (by omega), List.nil_append,
      Nat.add_sub_cancel_left, List.drop_append_of_le_length (by omega)]
  rw [hdrop]
  cases hk : mid.drop k with
  | nil => exact hrest
  | cons c tail =>
    have hc : c ∈ mid := List.mem_of_mem_drop (hk ▸ List.mem_cons_self)
    simpa using hmid c hc

/-- The characters of a maximal run. -/
theorem takeWhile_run {run rest : Str} (hrun : ∀ c ∈ run, isIdChar c)
    (hrest : rest.head?.any isIdChar = false) : (run ++ rest).takeWhile isIdChar = run := by
  rw [List.takeWhile_append_of_pos hrun]
  cases rest with
  | nil => simp
  | cons c rest =>
    have hc : isIdChar c = false := by simpa using hrest
    simp [hc]

theorem head?_dropWhile_any (line : Str) :
    (line.dropWhile isIdChar).head?.any isIdChar = false := by
  have h := List.head?_dropWhile_not isIdChar line
  cases hd : (line.dropWhile isIdChar).head? with
  | none => rfl
  | some d => simpa [hd] using h

theorem head?_ne_dash {rest : Str} (h : rest.head?.any isIdChar = false) : rest.head? ≠ some 45 := by
  intro hd
  rw [hd] at h
  exact absurd h (by decide)

theorem isIdChar_hex {c : ℕ} (h : isHexDigit c = true) : isIdChar c = true ∧ c ≠ 45 ∧ c ≠ 109 := by
  simp only [isHexDigit, Bool.or_eq_true, Bool.and_eq_true, decide_eq_true_eq] at h
  refine ⟨?_, by omega, by omega⟩
  simp only [isIdChar, isAsciiAlnum, Bool.or_eq_true, Bool.and_eq_true, decide_eq_true_eq]
  omega

theorem trimStops_append (text : Str) :
    ∃ stops, text = trimStops text ++ stops ∧ ∀ c ∈ stops, c = 46 :=
  ⟨text.rtakeWhile (· == 46), List.rdropWhile_append_rtakeWhile.symm,
    fun c hc => by simpa using List.mem_rtakeWhile_imp hc⟩

/-- Trimming leaves whole what does not end in a full stop. -/
theorem prefix_trimStops {text line : Str} (h : text <+: line) (hlast : text.getLast? ≠ some 46) :
    text <+: trimStops line := by
  obtain ⟨stops, htrim, hstops⟩ := trimStops_append line
  have hline : trimStops line <+: line := ⟨stops, htrim.symm⟩
  rcases List.prefix_or_prefix_of_prefix h hline with h' | ⟨t, rfl⟩
  · exact h'
  · rcases List.eq_nil_or_concat t with rfl | ⟨t, d, rfl⟩
    · simp
    · have ht : t.concat d <+: stops := by
        have hstop : line <+: trimStops line ++ stops := ⟨[], by rw [List.append_nil, ← htrim]⟩
        exact (List.prefix_append_right_inj _).mp (h.trans hstop)
      have hd : d = 46 := hstops d (ht.subset (by simp))
      exact absurd (by simp [hd]) hlast

theorem isIdChar_dash_zero : ∀ c ∈ lit "-0", isIdChar c := by decide

theorem IsExternalRequestId.isIdChar {base : Str} (h : IsExternalRequestId base) :
    ∀ c ∈ base, isIdChar c := by
  cases base with
  | nil => simp
  | cons c base =>
    obtain ⟨hc, -, hbase⟩ := h
    rw [List.forall_mem_cons]
    exact ⟨by simp [Stage2.isIdChar, hc], hbase⟩

theorem IsExternalRequestId.ne_nil {base : Str} (h : IsExternalRequestId base) : base ≠ [] := by
  rintro rfl
  exact h

section

variable [Interpreter]

/-- The `cmpl-` identifiers of a line. -/
def identifiers (line : Str) : List Str :=
  (texts (finditer isWord identifierPattern line)).map trimStops

/-- What the greedy pattern makes of an identifier of the request. -/
def genericId (base suffix id : Str) : Str :=
  if id = servingItemId base then id
  else if suffix.head? = some 48 then servingItemId base ++ lit "-0"
  else id

/-! ## The two patterns at an identifier -/

theorem matchAt_identifier {before : Option ℕ} {line : Str} (h : line.takeWhile isIdChar ≠ []) :
    matchAt isWord identifierPattern before (lit "cmpl-" ++ line) =
      some ⟨lit "cmpl-" ++ line.takeWhile isIdChar, line.dropWhile isIdChar, []⟩ := by
  rw [identifierPattern, matchAt_literal_seq, matchAt_rep (List.length_pos_iff.mpr h)]
  rfl

theorem matchAt_identifier_none {before : Option ℕ} {line : Str}
    (h : line.takeWhile isIdChar = []) :
    matchAt isWord identifierPattern before (lit "cmpl-" ++ line) = none := by
  rw [identifierPattern, matchAt_literal_seq, matchAt_rep_none (by simp [h])]
  rfl

theorem matchAt_generic_none {before : Option ℕ} {line : Str}
    (h : line.takeWhile isIdChar = []) :
    matchAt isWord genericIdPattern before (lit "cmpl-" ++ line) = none := by
  rw [genericIdPattern, matchAt_literal_seq]
  simp [genericIdTail, matchAt, run, repLimit, h]

/-- The tail of the greedy pattern at the last `-0` of a run. -/
theorem matchAt_genericIdTail {before : Option ℕ} {pre rest : Str} {m : Match ℕ}
    (hpre : ∀ c ∈ pre, isIdChar c) (hne : pre ≠ [])
    (hlater : ∀ n, pre.length < n → n ≤ ((pre ++ lit "-0" ++ rest).takeWhile isIdChar).length →
      ¬ lit "-0" <+: (pre ++ lit "-0" ++ rest).drop n)
    (hm : matchAt isWord (.opt (.seq (literal (lit "-")) (.rep isHexDigit 8 (some 8))))
      (lastOr (lastOr before pre) (lit "-0")) rest = some m) :
    matchAt isWord genericIdTail before (pre ++ lit "-0" ++ rest) =
      some ⟨pre ++ (lit "-0" ++ m.text), m.rest, m.groups⟩ := by
  have htake : (pre ++ lit "-0" ++ rest).take pre.length = pre := by simp
  have hdrop : (pre ++ lit "-0" ++ rest).drop pre.length = lit "-0" ++ rest := by simp
  have hlen : pre.length ≤ ((pre ++ lit "-0" ++ rest).takeWhile isIdChar).length := by
    rw [List.append_assoc, List.takeWhile_append_of_pos hpre, List.length_append]
    omega
  have h := @matchAt_rep_seq ℕ isWord isIdChar 1 none
    (.seq (literal (lit "-0")) (.opt (.seq (literal (lit "-")) (.rep isHexDigit 8 (some 8)))))
    before (pre ++ lit "-0" ++ rest) pre.length
    (List.length_pos_iff.mpr hne) hlen
    (fun n hn hle => matchAt_literal_seq_none (hlater n hn hle) _ _)
    (m := ⟨lit "-0" ++ m.text, m.rest, m.groups⟩)
    (by rw [htake, hdrop, matchAt_literal_seq, hm]; rfl)
  rw [htake] at h
  exact h

/-- The greedy pattern at a run whose last dash is that of its last `-0`. -/
theorem matchAt_generic_run {before : Option ℕ} {pre tail rest : Str}
    (hpre : ∀ c ∈ pre, isIdChar c) (hne : pre ≠ [])
    (htail : ∀ c ∈ tail, isIdChar c ∧ c ≠ 45) (hrest : rest.head?.any isIdChar = false) :
    matchAt isWord genericIdPattern before (lit "cmpl-" ++ (pre ++ lit "-0" ++ (tail ++ rest))) =
      some ⟨lit "cmpl-" ++ (pre ++ lit "-0"), tail ++ rest, []⟩ := by
  -- the dash that would open the suffix is not there
  have hdash : (tail ++ rest).head? ≠ some 45 := by
    cases tail with
    | nil => exact head?_ne_dash hrest
    | cons c tail => simpa using (htail c (by simp)).2
  -- no later `-0` is left to match, since the rest of the run has no dash
  have hlater : ∀ n, pre.length < n →
      n ≤ ((pre ++ lit "-0" ++ (tail ++ rest)).takeWhile isIdChar).length →
      ¬ lit "-0" <+: (pre ++ lit "-0" ++ (tail ++ rest)).drop n := by
    intro n hn hle
    rw [← List.append_assoc, takeWhile_run ?_ hrest] at hle
    · have hsplit : pre ++ lit "-0" ++ (tail ++ rest) = (pre ++ [45]) ++ (48 :: tail) ++ rest := by
        rw [show lit "-0" = [45, 48] by decide]
        simp
      rw [hsplit]
      refine not_prefix_drop ?_ (head?_ne_dash hrest) (by simp; omega) ?_
      · rw [List.forall_mem_cons]
        exact ⟨by decide, fun c hc => (htail c hc).2⟩
      · have hlen : (lit "-0").length = 2 := by decide
        simp only [List.length_append, List.length_cons, List.length_nil, hlen] at hle ⊢
        omega
    · intro c hc
      rcases List.mem_append.mp hc with hc | hc
      · exact (List.mem_append.mp hc).elim (hpre c) (isIdChar_dash_zero c)
      · exact (htail c hc).1
  -- so the greedy match ends at the first `-0`
  rw [genericIdPattern, matchAt_literal_seq, matchAt_genericIdTail hpre hne hlater
    (m := ⟨[], tail ++ rest, []⟩)]
  · simp
  · rw [matchAt_opt, matchAt_literal_seq_none]
    · rfl
    · rw [show lit "-" = [45] by decide]
      exact not_prefix_of_head? hdash

/-- The greedy pattern at an engine id whose suffix does not start with `0`. -/
theorem matchAt_generic_internal {before : Option ℕ} {pre suffix tail rest : Str}
    (hpre : ∀ c ∈ pre, isIdChar c) (hne : pre ≠ []) (hsuffix : IsSuffix suffix)
    (hzero : suffix.head? ≠ some 48) (htail : ∀ c ∈ tail, isIdChar c ∧ c ≠ 45)
    (hrest : rest.head?.any isIdChar = false) :
    matchAt isWord genericIdPattern before
        (lit "cmpl-" ++ (pre ++ lit "-0" ++ (lit "-" ++ suffix ++ (tail ++ rest)))) =
      some ⟨lit "cmpl-" ++ (pre ++ (lit "-0" ++ (lit "-" ++ suffix))), tail ++ rest, []⟩ := by
  -- what follows `-0-` is without dashes
  have hmid : ∀ c ∈ suffix ++ tail, isIdChar c ∧ c ≠ 45 := by
    intro c hc
    rcases List.mem_append.mp hc with hc | hc
    · obtain ⟨hid, hdash, -⟩ := isIdChar_hex (hsuffix.2 c hc)
      exact ⟨hid, hdash⟩
    · exact htail c hc
  -- the suffix does not begin with `0`, so its dash begins no second `-0`
  obtain ⟨d, suffix', hd⟩ : ∃ d t, suffix = d :: t := by
    cases suffix with
    | nil => simp [IsSuffix] at hsuffix
    | cons d t => exact ⟨d, t, rfl⟩
  have hlater : ∀ n, pre.length < n →
      n ≤ ((pre ++ lit "-0" ++ (lit "-" ++ suffix ++ (tail ++ rest))).takeWhile isIdChar).length →
      ¬ lit "-0" <+: (pre ++ lit "-0" ++ (lit "-" ++ suffix ++ (tail ++ rest))).drop n := by
    intro n hn hle
    have hshape : pre ++ lit "-0" ++ (lit "-" ++ suffix ++ (tail ++ rest)) =
        pre ++ [45, 48, 45] ++ (suffix ++ tail) ++ rest := by
      rw [show lit "-0" = [45, 48] by decide, show lit "-" = [45] by decide]
      simp
    rw [hshape] at hle ⊢
    rw [takeWhile_run ?_ hrest] at hle
    · rcases Nat.lt_trichotomy n (pre.length + 2) with h | rfl | h
      · -- at the `0` of `-0`
        obtain rfl : n = pre.length + 1 := by omega
        rw [show lit "-0" = [45, 48] by decide]
        refine not_prefix_of_head? ?_
        rw [List.append_assoc, List.append_assoc, List.drop_append]
        simp
      · -- at the dash before the suffix
        rw [List.append_assoc, List.append_assoc, List.drop_append, hd,
          show lit "-0" = [45, 48] by decide]
        simp only [Nat.add_sub_cancel_left, List.cons_append, List.nil_append, List.drop_succ_cons,
          List.drop_zero]
        rw [List.drop_eq_nil_of_le (by omega), List.nil_append]
        rintro ⟨more, hmore⟩
        refine hzero ?_
        rw [hd]
        simp only [List.cons_append, List.nil_append, List.cons.injEq] at hmore
        simp [hmore.2.1]
      · exact not_prefix_drop (fun c hc => (hmid c hc).2) (head?_ne_dash hrest)
          (by simp; omega) (by simpa using hle)
    · intro c hc
      rcases List.mem_append.mp hc with hc | hc
      · rcases List.mem_append.mp hc with hc | hc
        · exact hpre c hc
        · exact (by decide : ∀ c ∈ [45, 48, 45], isIdChar c) c hc
      · exact (hmid c hc).1
  -- the eight digits are taken by the optional part
  have hopt : ∀ before', matchAt isWord (.opt (.seq (literal (lit "-"))
      (.rep isHexDigit 8 (some 8)))) before' (lit "-" ++ suffix ++ (tail ++ rest)) =
        some ⟨lit "-" ++ suffix, tail ++ rest, []⟩ := by
    intro before'
    have hrep := @matchAt_exactly _ isWord _ _ hsuffix.2 (lastOr before' (lit "-"))
      (tail ++ rest)
    rw [hsuffix.1] at hrep
    rw [matchAt_opt, List.append_assoc, matchAt_literal_seq, hrep]
    rfl
  rw [genericIdPattern, matchAt_literal_seq, matchAt_genericIdTail hpre hne hlater (hopt _)]
  rfl

/-! ## The identifiers of a line -/

/-- What is left of a run after a match holds no other match. -/
theorem texts_finditer_generic_skip {tail rest : Str} (htail : ∀ c ∈ tail, c ≠ 109)
    (hrest : rest.head? ≠ some 109) :
    texts (finditer isWord genericIdPattern (tail ++ rest)) =
      texts (finditer isWord genericIdPattern rest) := by
  induction tail with
  | nil => rfl
  | cons c tail ih =>
    have hnext : (tail ++ rest).head? ≠ some 109 := by
      cases tail with
      | nil => exact hrest
      | cons d tail => simpa using htail d (by simp)
    have hnot : ¬ lit "cmpl-" <+: c :: (tail ++ rest) := by
      rw [show lit "cmpl-" = [99, 109, 112, 108, 45] by decide]
      rintro ⟨more, hmore⟩
      simp only [List.cons_append, List.cons.injEq] at hmore
      exact hnext (by rw [← hmore.2]; rfl)
    have hnone : matchAt isWord genericIdPattern none (c :: (tail ++ rest)) = none :=
      matchAt_literal_seq_none hnot _ _
    rw [List.cons_append, texts_finditer_of_none stopsAt_genericIdPattern hnone]
    exact ih fun d hd => htail d (by simp [hd])

/-- The match and the scan after it, at one identifier of the request. -/
theorem texts_finditer_generic_at {base suffix run rest : Str} (hbase : IsExternalRequestId base)
    (hsuffix : IsSuffix suffix) (hrest : rest.head?.any isIdChar = false)
    (hid : trimStops (lit "cmpl-" ++ run) = servingItemId base ∨
      trimStops (lit "cmpl-" ++ run) = internalEngineId base suffix) :
    texts (finditer isWord genericIdPattern (lit "cmpl-" ++ (run ++ rest))) =
      genericId base suffix (trimStops (lit "cmpl-" ++ run)) ::
        texts (finditer isWord genericIdPattern rest) := by
  -- the run is the id, up to full stops that the trimming removes
  obtain ⟨stops, hrun, hstops⟩ := trimStops_append (lit "cmpl-" ++ run)
  have hstops' : ∀ c ∈ stops, isIdChar c ∧ c ≠ 45 := fun c hc => by rw [hstops c hc]; decide
  have hm : rest.head? ≠ some 109 := by
    intro hd
    rw [hd] at hrest
    exact absurd hrest (by decide)
  have hne : ∀ {text : Str}, lit "cmpl-" ++ text ≠ [] := by
    intro text h
    exact absurd (List.append_eq_nil_iff.mp h).1 (by decide)
  rcases hid with hid | hid
  -- the serving item: `-0` is followed by no dash
  · rw [hid] at hrun ⊢
    have hrun' : run = base ++ lit "-0" ++ stops := by
      simpa [servingItemId, responseBodyId] using hrun
    have hmatch := @matchAt_generic_run _ none _ _ _ hbase.isIdChar hbase.ne_nil hstops' hrest
    rw [hrun', List.append_assoc (base ++ lit "-0"),
      texts_finditer_of_some stopsAt_genericIdPattern hmatch hne,
      texts_finditer_generic_skip (fun c hc => by rw [hstops c hc]; decide) hm]
    simp [genericId, servingItemId, responseBodyId]
  · have hserving : internalEngineId base suffix ≠ servingItemId base := by
      intro h
      have hlen := congrArg List.length h
      simp [internalEngineId, hsuffix.1] at hlen
    -- the engine's id: the greedy match depends on the first digit of the suffix
    rw [hid] at hrun ⊢
    have hrun' : run = base ++ lit "-0" ++ (lit "-" ++ suffix) ++ stops := by
      simpa [internalEngineId, servingItemId, responseBodyId] using hrun
    have hhex : ∀ c ∈ suffix, c ≠ 109 := fun c hc => (isIdChar_hex (hsuffix.2 c hc)).2.2
    by_cases hzero : suffix.head? = some 48
    -- it begins with `0`: the pattern takes `-0` from the suffix
    · obtain ⟨suffix, rfl⟩ : ∃ t, suffix = 48 :: t := by
        cases suffix with
        | nil => simp at hzero
        | cons d t => exact ⟨t, by simpa using hzero⟩
      have hpre : ∀ c ∈ base ++ lit "-0", isIdChar c := fun c hc =>
        (List.mem_append.mp hc).elim (hbase.isIdChar c) (isIdChar_dash_zero c)
      have htail : ∀ c ∈ suffix ++ stops, isIdChar c ∧ c ≠ 45 := by
        intro c hc
        rcases List.mem_append.mp hc with hc | hc
        · obtain ⟨hc₁, hc₂, -⟩ := isIdChar_hex (hsuffix.2 c (by simp [hc]))
          exact ⟨hc₁, hc₂⟩
        · exact hstops' c hc
      have hmatch := @matchAt_generic_run _ none _ _ _ hpre (by simp [hbase.ne_nil]) htail hrest
      have hshape : run ++ rest = base ++ lit "-0" ++ lit "-0" ++ (suffix ++ stops ++ rest) := by
        rw [hrun', show lit "-0" = [45, 48] by decide, show lit "-" = [45] by decide]
        simp
      rw [hshape, texts_finditer_of_some stopsAt_genericIdPattern hmatch hne,
        texts_finditer_generic_skip ?_ hm, genericId, if_neg hserving, if_pos hzero]
      · simp [servingItemId, responseBodyId]
      · intro c hc
        rcases List.mem_append.mp hc with hc | hc
        · exact hhex c (by simp [hc])
        · rw [hstops c hc]
          decide
    -- it does not: the pattern takes the whole id
    · have hmatch := @matchAt_generic_internal _ none _ _ _ _ hbase.isIdChar hbase.ne_nil hsuffix
        hzero hstops' hrest
      rw [hrun', List.append_assoc, List.append_assoc (base ++ lit "-0"),
        texts_finditer_of_some stopsAt_genericIdPattern hmatch hne,
        texts_finditer_generic_skip (fun c hc => by rw [hstops c hc]; decide) hm, genericId,
        if_neg hserving, if_neg hzero]
      simp [internalEngineId, servingItemId, responseBodyId]

/-- **What the greedy pattern makes of a line whose identifiers are the request's own two.** -/
theorem genericIds_of_identifiers {base suffix : Str} (hbase : IsExternalRequestId base)
    (hsuffix : IsSuffix suffix) {line : Str}
    (hids : ∀ id ∈ identifiers line,
      id = servingItemId base ∨ id = internalEngineId base suffix) :
    texts (finditer isWord genericIdPattern line) =
      (identifiers line).map (genericId base suffix) := by
  induction hn : line.length using Nat.strongRecOn generalizing line with
  | ind n ih =>
    cases line with
    | nil => rfl
    | cons c rest =>
      simp only [List.length_cons] at hn
      -- where neither pattern matches, both scans pass on to the next character
      have pass : matchAt isWord identifierPattern none (c :: rest) = none →
          matchAt isWord genericIdPattern none (c :: rest) = none →
          texts (finditer isWord genericIdPattern (c :: rest)) =
            (identifiers (c :: rest)).map (genericId base suffix) := by
        intro h₁ h₂
        have hrest : identifiers (c :: rest) = identifiers rest := by
          rw [identifiers, texts_finditer_of_none stopsAt_identifierPattern h₁, identifiers]
        rw [hrest] at hids ⊢
        rw [texts_finditer_of_none stopsAt_genericIdPattern h₂]
        exact ih rest.length (by omega) hids rfl
      by_cases hp : lit "cmpl-" <+: c :: rest
      · obtain ⟨x, hx⟩ := hp
        by_cases hrun : x.takeWhile isIdChar = []
        · exact pass (hx ▸ matchAt_identifier_none hrun) (hx ▸ matchAt_generic_none hrun)
        · have hmatch := @matchAt_identifier _ none _ hrun
          have hne : lit "cmpl-" ++ x.takeWhile isIdChar ≠ [] := by simp [hrun]
          have hshape : identifiers (lit "cmpl-" ++ x) =
              trimStops (lit "cmpl-" ++ x.takeWhile isIdChar) ::
                identifiers (x.dropWhile isIdChar) := by
            rw [identifiers, texts_finditer_of_some stopsAt_identifierPattern hmatch hne,
              List.map_cons, identifiers]
          rw [← hx, hshape] at hids
          have hlen := congrArg List.length hx
          have hlen' := congrArg List.length
            (List.takeWhile_append_dropWhile (p := isIdChar) (l := x))
          have hcmpl : (lit "cmpl-").length = 5 := by decide
          simp only [List.length_append, List.length_cons, hcmpl] at hlen hlen'
          rw [← hx, hshape, List.map_cons]
          conv_lhs => rw [← List.takeWhile_append_dropWhile (p := isIdChar) (l := x)]
          rw [texts_finditer_generic_at hbase hsuffix (head?_dropWhile_any x) (hids _ (by simp)),
            ih (x.dropWhile isIdChar).length (by omega) (fun id hid => hids id (by simp [hid])) rfl]
      · exact pass (matchAt_literal_seq_none hp _ _) (matchAt_literal_seq_none hp _ _)

end

end Stage2
