import LlmInferenceSystems.Stage2.PublicSafety

/-!
# Lines of texts

`splitlines` ends a line at a line feed, at a carriage return with or without one, and at six other
characters. Between two line feeds it sees one line when there are no other separators.

## Main definitions

* `IsLineSeparator`: the characters that end a line
* `chomp`: a line without the carriage return at its end

## Main results

* `chomp_mem_splitlines`: a line without other separators is one of `splitlines`
* `splitlines_of_lineFeeds`: the lines of a text without other separators
-/

namespace Stage2

open Python

/-- A character at which `splitlines` ends a line. -/
def IsLineSeparator (c : ℕ) : Prop :=
  (10 ≤ c ∧ c ≤ 13) ∨ (28 ≤ c ∧ c ≤ 30) ∨ c = 0x85 ∨ c = 0x2028 ∨ c = 0x2029

instance (c : ℕ) : Decidable (IsLineSeparator c) := inferInstanceAs (Decidable (_ ∨ _))

/-- The line without the carriage return that ends it. -/
def chomp (line : Str) : Str := if line.getLast? = some 13 then line.dropLast else line

theorem chomp_append_return (line : Str) : chomp (line ++ [13]) = line := by
  unfold chomp
  rw [if_pos (by simp), List.dropLast_concat]

/-- A line that does not end in a carriage return stays as it is. -/
theorem chomp_of_unbroken {line : Str} (h : ∀ c ∈ line, ¬ IsLineSeparator c) :
    chomp line = line := by
  unfold chomp
  refine if_neg fun hlast => ?_
  exact h 13 (List.mem_of_getLast? hlast) (Or.inl (by omega))

/-- A separator stays in the line unless it is a carriage return at the end. -/
theorem mem_chomp {before after : Str} {c : ℕ} (h : after ≠ [] ∨ c ≠ 13) :
    c ∈ chomp (before ++ c :: after) := by
  unfold chomp
  split
  · next hlast =>
    have hafter : after ≠ [] := by
      rcases h with h | h
      · exact h
      · rintro rfl
        rw [List.getLast?_concat] at hlast
        exact h (Option.some.inj hlast)
    rw [List.dropLast_append_of_ne_nil (List.cons_ne_nil _ _),
      List.dropLast_cons_of_ne_nil hafter]
    simp
  · simp

theorem splitOn_lineFeed (rest : Str) : (10 :: rest : Str).splitOn 10 = [] :: rest.splitOn 10 := by
  rw [List.splitOn_cons_eq_if_modifyHead, if_pos (beq_self_eq_true 10)]

theorem splitOn_of_ne {c : ℕ} (h : c ≠ 10) (rest : Str) :
    (c :: rest).splitOn 10 = (rest.splitOn 10).modifyHead (List.cons c) := by
  rw [List.splitOn_cons_eq_if_modifyHead, if_neg (by simpa using h)]

theorem modifyHead_nil_append (lines : List Str) :
    lines.modifyHead (([] : Str) ++ ·) = lines := by
  have hid : (([] : Str) ++ ·) = id := funext fun line => List.nil_append line
  rw [hid, List.modifyHead_id]
  rfl

/-- The lines between line feeds, of which the first has been collected in part, are among those of
`splitlines` if they have no other separators. -/
theorem chomp_mem_splitlinesFrom {collected text line : Str}
    (hcollected : ∀ c ∈ collected, ¬ IsLineSeparator c)
    (hline : line ∈ (text.splitOn 10).modifyHead (collected ++ ·)) (hne : chomp line ≠ [])
    (hunbroken : ∀ c ∈ chomp line, ¬ IsLineSeparator c) :
    chomp line ∈ splitlinesFrom collected text := by
  -- -- by the recursion of the source's `splitlines`, with what it has collected so far
  fun_induction splitlinesFrom collected text with
  | case1 =>
    rw [List.splitOn_nil, List.modifyHead_cons, List.mem_singleton] at hline
    subst hline
    exact absurd rfl hne
  | case2 collected hempty =>
    rw [List.splitOn_nil, List.modifyHead_cons, List.mem_singleton, List.append_nil] at hline
    subst hline
    rw [chomp_of_unbroken hcollected]
    exact List.mem_singleton.mpr rfl
  -- -- a carriage return and a line feed end one line
  | case3 collected rest ih =>
    rw [splitOn_of_ne (by decide), splitOn_lineFeed, List.modifyHead_cons, List.modifyHead_cons,
      List.mem_cons] at hline
    rcases hline with rfl | hline
    · rw [chomp_append_return]
      exact List.mem_cons_self
    · refine List.mem_cons_of_mem _ (ih (by simp) ?_)
      rwa [modifyHead_nil_append]
  -- -- a line separator: the line feed ends the line on both sides
  | case4 collected c rest hcrlf hseparator ih =>
    by_cases hc : c = 10
    · subst hc
      rw [splitOn_lineFeed, List.modifyHead_cons, List.mem_cons, List.append_nil] at hline
      rcases hline with rfl | hline
      · rw [chomp_of_unbroken hcollected]
        exact List.mem_cons_self
      · refine List.mem_cons_of_mem _ (ih (by simp) ?_)
        rwa [modifyHead_nil_append]
    · rw [splitOn_of_ne hc] at hline
      obtain ⟨first, others, hsplit⟩ := List.exists_cons_of_ne_nil (List.splitOn_ne_nil 10 rest)
      rw [hsplit, List.modifyHead_cons, List.modifyHead_cons, List.mem_cons] at hline
      rcases hline with rfl | hline
      · -- the separator stays in the line, or it is a carriage return before the end
        by_cases hlast : first ≠ [] ∨ c ≠ 13
        · exact absurd hseparator (hunbroken c (mem_chomp hlast))
        · push Not at hlast
          obtain ⟨rfl, rfl⟩ := hlast
          rw [chomp_append_return]
          exact List.mem_cons_self
      · refine List.mem_cons_of_mem _ (ih (by simp) ?_)
        rw [modifyHead_nil_append, hsplit]
        exact List.mem_cons_of_mem _ hline
  -- -- any other character is collected
  | case5 collected c rest hcrlf hseparator ih =>
    have hc : c ≠ 10 := by
      rintro rfl
      exact hseparator (Or.inl (by omega))
    refine ih ?_ ?_
    · intro d hd
      rcases List.mem_append.mp hd with hd | hd
      · exact hcollected d hd
      · rw [List.mem_singleton.mp hd]
        exact hseparator
    · rw [splitOn_of_ne hc, List.modifyHead_modifyHead] at hline
      have hshift : (collected ++ ·) ∘ List.cons c = (collected ++ [c] ++ ·) :=
        funext fun line => (List.append_cons collected c line)
      rwa [hshift] at hline

/-- **A line without other separators is one of `splitlines`.** -/
theorem chomp_mem_splitlines {text line : Str} (hline : line ∈ text.splitOn 10)
    (hne : chomp line ≠ []) (hunbroken : ∀ c ∈ chomp line, ¬ IsLineSeparator c) :
    chomp line ∈ splitlines text := by
  refine chomp_mem_splitlinesFrom (fun c hc => absurd hc List.not_mem_nil) ?_ hne hunbroken
  rwa [modifyHead_nil_append]

theorem splitOn_concat_lineFeed (text : Str) :
    (text ++ [10]).splitOn 10 = text.splitOn 10 ++ [[]] := by
  induction text with
  | nil => rw [List.nil_append, splitOn_lineFeed, List.splitOn_nil]; rfl
  | cons c text ih =>
    rw [List.cons_append]
    by_cases hc : c = 10
    · subst hc
      rw [splitOn_lineFeed, splitOn_lineFeed, ih]
      rfl
    · obtain ⟨first, others, hsplit⟩ := List.exists_cons_of_ne_nil (List.splitOn_ne_nil 10 text)
      rw [splitOn_of_ne hc, splitOn_of_ne hc, ih, hsplit]
      rfl

/-- A character of a part is one of the text. -/
theorem mem_of_mem_splitOn {text line : Str} (hline : line ∈ text.splitOn 10) {c : ℕ}
    (hc : c ∈ line) : c ∈ text := by
  have hjoin : List.intercalate [10] (text.splitOn 10) = text := List.intercalate_splitOn _
  exact hjoin ▸ mem_intercalate hline hc

/-- There is no separator in a line. -/
theorem unbroken_of_mem_splitlinesFrom {collected text line : Str}
    (hcollected : ∀ c ∈ collected, ¬ IsLineSeparator c)
    (hline : line ∈ splitlinesFrom collected text) : ∀ c ∈ line, ¬ IsLineSeparator c := by
  fun_induction splitlinesFrom collected text with
  | case1 => exact absurd hline List.not_mem_nil
  | case2 collected hempty =>
    rw [List.mem_singleton.mp hline]
    exact hcollected
  | case3 collected rest ih =>
    rcases List.mem_cons.mp hline with rfl | hline
    · exact hcollected
    · exact ih (by simp) hline
  | case4 collected c rest hcrlf hseparator ih =>
    rcases List.mem_cons.mp hline with rfl | hline
    · exact hcollected
    · exact ih (by simp) hline
  | case5 collected c rest hcrlf hseparator ih =>
    refine ih (fun d hd => ?_) hline
    rcases List.mem_append.mp hd with hd | hd
    · exact hcollected d hd
    · rw [List.mem_singleton.mp hd]
      exact hseparator

theorem splitlinesFrom_lineFeed (line rest : Str) :
    splitlinesFrom line (10 :: rest) = line :: splitlinesFrom [] rest := by
  rw [splitlinesFrom]
  · exact if_pos (Or.inl (by omega))
  · intro _ h _
    cases h

theorem splitlinesFrom_cons {c : ℕ} (hc : ¬ IsLineSeparator c) (line rest : Str) :
    splitlinesFrom line (c :: rest) = splitlinesFrom (line ++ [c]) rest := by
  rw [splitlinesFrom]
  · exact if_neg hc
  · rintro _ rfl _
    exact hc (Or.inl (by omega))

/-- A text in which only line feeds separate lines has the same lines for both. -/
theorem splitlinesFrom_of_lineFeeds {collected text : Str}
    (h : ∀ c ∈ text, c = 10 ∨ ¬ IsLineSeparator c) :
    splitlinesFrom collected (text ++ [10]) =
      (text.splitOn 10).modifyHead (collected ++ ·) := by
  induction text generalizing collected with
  | nil =>
    rw [List.nil_append, splitlinesFrom_lineFeed, splitlinesFrom, List.splitOn_nil,
      List.modifyHead_cons, List.append_nil]
  | cons c text ih =>
    obtain ⟨hc, htext⟩ := List.forall_mem_cons.mp h
    by_cases hlf : c = 10
    · subst hlf
      rw [List.cons_append, splitlinesFrom_lineFeed, ih htext, modifyHead_nil_append,
        splitOn_lineFeed, List.modifyHead_cons, List.append_nil]
    · have hshift : (collected ++ ·) ∘ List.cons c = (collected ++ [c] ++ ·) :=
        funext fun line => List.append_cons collected c line
      rw [List.cons_append, splitlinesFrom_cons (hc.resolve_left hlf), ih htext, splitOn_of_ne hlf,
        List.modifyHead_modifyHead, hshift]

theorem splitlines_of_lineFeeds {text : Str} (h : ∀ c ∈ text, c = 10 ∨ ¬ IsLineSeparator c) :
    splitlines (text ++ [10]) = text.splitOn 10 := by
  unfold splitlines
  rw [splitlinesFrom_of_lineFeeds h, modifyHead_nil_append]

end Stage2
