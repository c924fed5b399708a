import Mathlib.Data.Nat.Find
import Mathlib.Data.List.Basic
import Mathlib.Data.List.TakeWhile

/-!
# Regular expressions

The part of Python's `re` this development needs: classes of characters, greedy repetition of a
class, sequence, ordered choice, one kind of capture, and the word boundary. A match attempt at a
position yields all its ways to match *in the order the engine tries them*, greedy before lazy
and left before right; the engine's match is the first. Patterns are over any alphabet.

## Main definitions

* `Regex`, `Regex.run`: patterns, and their matches at a position in the engine's order
* `Regex.search`: the first match of the first position that has one
* `Regex.finditer`: the matches from left to right that do not overlap

## Main results

* `Regex.run_append`: a match attempt splits what it is given
* `Regex.occurs_iff`: a pattern occurs where an attempt succeeds
* `Regex.matchAt_rep_seq`: a greedy repetition gives back until what follows matches
* `Regex.mem_run_literal`: a literal matches itself and nothing else
* `Regex.run_stop`: a pattern none of whose classes has `c` does not look past a `c`
* `Regex.finditer_separator`: nor does the scan of such a pattern
* `Regex.texts_finditer_flatten`: a text made of what the pattern takes is scanned into it
-/

namespace Python

/-- A pattern over the alphabet `α`. -/
inductive Regex (α : Type) where
  /-- The empty pattern. -/
  | empty
  /-- One character of a class. -/
  | one (cls : α → Bool)
  /-- Between `low` and `high` characters of a class, as many as possible first: `[…]{low,high}`,
  and `[…]+` or `[…]*` when `high` is `none`. -/
  | rep (cls : α → Bool) (low : ℕ) (high : Option ℕ)
  /-- One pattern after another. -/
  | seq (first second : Regex α)
  /-- The left pattern, and the right one when that fails: `left|right`. -/
  | alt (left right : Regex α)
  /-- A capturing group. -/
  | group (body : Regex α)
  /-- `\b` -/
  | boundary

/-- One way to match at a position: the text matched, the text after it, the groups. -/
structure Match (α : Type) where
  text : List α
  rest : List α
  groups : List (List α) := []
deriving DecidableEq

variable {α : Type}

namespace Regex

/-- `(…)?`, greedy. -/
def opt (body : Regex α) : Regex α := .alt body .empty

/-- A literal text. -/
def literal [DecidableEq α] : List α → Regex α
  | [] => .empty
  | c :: text => .seq (.one (· == c)) (literal text)

/-- How many characters a repetition can take: its maximal run, up to `high`. -/
def repLimit (cls : α → Bool) (high : Option ℕ) (input : List α) : ℕ :=
  match high with
  | none => (input.takeWhile cls).length
  | some n => min n (input.takeWhile cls).length

/-- Is there a boundary between the character before and the text after? -/
def atBoundary (isWord : α → Bool) (before : Option α) (input : List α) : Bool :=
  before.any isWord != input.head?.any isWord

/-- The character before the position reached after `text`. -/
def lastOr (before : Option α) (text : List α) : Option α := text.getLast?.or before

/-- The ways `r` matches at a position, in the order they are tried. `before` is the character
before the position and `input` the text from there on. -/
def run (isWord : α → Bool) : Regex α → Option α → List α → List (Match α)
  | .empty, _, input => [⟨[], input, []⟩]
  | .one cls, _, input =>
    match input with
    | [] => []
    | c :: rest => if cls c then [⟨[c], rest, []⟩] else []
  | .rep cls low high, _, input =>
    (((List.range (repLimit cls high input + 1)).reverse).filter (low ≤ ·)).map
      fun n => ⟨input.take n, input.drop n, []⟩
  | .seq first second, before, input =>
    (run isWord first before input).flatMap fun m =>
      (run isWord second (lastOr before m.text) m.rest).map fun k =>
        ⟨m.text ++ k.text, k.rest, m.groups ++ k.groups⟩
  | .alt left right, before, input => run isWord left before input ++ run isWord right before input
  | .group body, before, input =>
    (run isWord body before input).map fun m => ⟨m.text, m.rest, m.text :: m.groups⟩
  | .boundary, before, input => if atBoundary isWord before input then [⟨[], input, []⟩] else []

/-- `re.match` at a position: the engine's first match there. -/
def matchAt (isWord : α → Bool) (r : Regex α) (before : Option α) (input : List α) :
    Option (Match α) :=
  (run isWord r before input).head?

/-- Search from a position on. -/
def searchFrom (isWord : α → Bool) (r : Regex α) : Option α → List α → Option (Match α)
  | before, [] => matchAt isWord r before []
  | before, c :: input =>
    (matchAt isWord r before (c :: input)).or (searchFrom isWord r (some c) input)

/-- `re.search` -/
def search (isWord : α → Bool) (r : Regex α) (input : List α) : Option (Match α) :=
  searchFrom isWord r none input

/-- `re.fullmatch`: is there a way to match that reaches the end? -/
def fullmatch (isWord : α → Bool) (r : Regex α) (input : List α) : Bool :=
  (run isWord r none input).any (·.rest.isEmpty)

/-- Does the pattern occur? -/
def occurs (isWord : α → Bool) (r : Regex α) (input : List α) : Prop :=
  (search isWord r input).isSome

instance (isWord : α → Bool) (r : Regex α) (input : List α) :
    Decidable (occurs isWord r input) := inferInstanceAs (Decidable (_ = true))

/-- At most `fuel` positions of a scan. -/
def finditerN (isWord : α → Bool) (r : Regex α) : ℕ → Option α → List α → List (Match α)
  | 0, _, _ => []
  | fuel + 1, before, input =>
    match matchAt isWord r before input with
    | some ⟨c :: text, rest, groups⟩ =>
      ⟨c :: text, rest, groups⟩ ::
        finditerN isWord r fuel (lastOr before (c :: text)) rest
    | _ =>
      match input with
      | [] => []
      | c :: rest => finditerN isWord r fuel (some c) rest

/-- `re.finditer`, for a pattern that matches no empty text: an empty match is passed over. Each
step of the scan consumes a character, so the number of characters is fuel enough. -/
def finditer (isWord : α → Bool) (r : Regex α) (input : List α) : List (Match α) :=
  finditerN isWord r input.length none input

theorem finditerN_succ (isWord : α → Bool) (r : Regex α) (fuel : ℕ) (before : Option α)
    (input : List α) :
    finditerN isWord r (fuel + 1) before input =
      match matchAt isWord r before input with
      | some ⟨c :: text, rest, groups⟩ =>
        ⟨c :: text, rest, groups⟩ :: finditerN isWord r fuel (lastOr before (c :: text)) rest
      | _ =>
        match input with
        | [] => []
        | c :: rest => finditerN isWord r fuel (some c) rest := rfl

/-! ## What a match attempt yields -/

section Run

variable {isWord : α → Bool}

/-- A match attempt splits what it is given. -/
theorem run_append {r : Regex α} {before : Option α} {input : List α} {m : Match α}
    (h : m ∈ run isWord r before input) : m.text ++ m.rest = input := by
  -- -- by induction on the pattern: a match splits the input it is given
  induction r generalizing before input m with
  | empty =>
    obtain rfl := List.mem_singleton.mp h
    rfl
  | one cls =>
    cases input with
    | nil => simp [run] at h
    | cons c rest =>
      by_cases hc : cls c
      · simp only [run, if_pos hc, List.mem_singleton] at h
        simp [h]
      · simp [run, hc] at h
  -- -- a repetition takes a prefix
  | rep cls low high =>
    simp only [run, List.mem_map] at h
    obtain ⟨n, -, rfl⟩ := h
    exact List.take_append_drop n input
  -- -- the second pattern runs on what the first left
  | seq first second ih₁ ih₂ =>
    simp only [run, List.mem_flatMap, List.mem_map] at h
    obtain ⟨a, ha, b, hb, rfl⟩ := h
    rw [List.append_assoc, ih₂ hb, ih₁ ha]
  | alt left right ih₁ ih₂ => exact (List.mem_append.mp h).elim (ih₁ ·) (ih₂ ·)
  | group body ih =>
    simp only [run, List.mem_map] at h
    obtain ⟨a, ha, rfl⟩ := h
    simpa using ih ha
  | boundary =>
    simp only [run] at h
    split at h
    · obtain rfl := List.mem_singleton.mp h
      rfl
    · simp at h

theorem run_literal [DecidableEq α] (text : List α) (before : Option α) (input : List α) :
    run isWord (literal text) before input =
      if text <+: input then [⟨text, input.drop text.length, []⟩] else [] := by
  induction text generalizing before input with
  | nil => simp [literal, run]
  | cons c text ih =>
    cases input with
    | nil => simp [literal, run]
    | cons d input =>
      by_cases hc : d = c
      · subst hc
        by_cases ht : text <+: input
        · simp [literal, run, ih, ht]
        · simp [literal, run, ih, ht]
      · have hcd : ¬ c = d := fun h => hc h.symm
        simp [literal, run, hc, hcd, List.cons_prefix_cons]

/-- A literal matches itself and nothing else. -/
theorem mem_run_literal [DecidableEq α] {text : List α} {before : Option α} {input : List α}
    {m : Match α} :
    m ∈ run isWord (literal text) before input ↔
      text <+: input ∧ m = ⟨text, input.drop text.length, []⟩ := by
  rw [run_literal]
  split <;> simp_all

theorem run_literal_append [DecidableEq α] (text rest : List α) (before : Option α) :
    run isWord (literal text) before (text ++ rest) = [⟨text, rest, []⟩] := by
  rw [run_literal, if_pos (List.prefix_append text rest), List.drop_left]

theorem mem_run_seq {first second : Regex α} {before : Option α} {input : List α} {m : Match α} :
    m ∈ run isWord (.seq first second) before input ↔
      ∃ a ∈ run isWord first before input,
        ∃ b ∈ run isWord second (lastOr before a.text) a.rest,
          m = ⟨a.text ++ b.text, b.rest, a.groups ++ b.groups⟩ := by
  simp only [run, List.mem_flatMap, List.mem_map, eq_comm]

theorem mem_run_literal_append [DecidableEq α] (text rest : List α) (before : Option α) :
    (⟨text, rest, []⟩ : Match α) ∈ run isWord (literal text) before (text ++ rest) := by
  rw [run_literal_append]
  exact List.mem_singleton_self _

theorem mem_run_boundary {before : Option α} {input : List α} {m : Match α} :
    m ∈ run isWord .boundary before input ↔
      atBoundary isWord before input = true ∧ m = ⟨[], input, []⟩ := by
  simp only [run]
  split <;> simp_all

theorem mem_run_group {body : Regex α} {before : Option α} {input : List α} {m : Match α} :
    m ∈ run isWord (.group body) before input ↔
      ∃ a ∈ run isWord body before input, m = ⟨a.text, a.rest, a.text :: a.groups⟩ := by
  simp only [run, List.mem_map, eq_comm]

theorem mem_run_rep {cls : α → Bool} {low : ℕ} {high : Option ℕ} {before : Option α}
    {input : List α} {m : Match α} :
    m ∈ run isWord (.rep cls low high) before input ↔
      ∃ n, low ≤ n ∧ n ≤ repLimit cls high input ∧ m = ⟨input.take n, input.drop n, []⟩ := by
  simp only [run, List.mem_map, List.mem_filter, List.mem_reverse, List.mem_range,
    decide_eq_true_eq, Nat.lt_succ_iff]
  constructor
  · rintro ⟨n, ⟨hn, hlow⟩, rfl⟩
    exact ⟨n, hlow, hn, rfl⟩
  · rintro ⟨n, hlow, hn, rfl⟩
    exact ⟨n, ⟨hn, hlow⟩, rfl⟩

theorem repLimit_le_takeWhile (cls : α → Bool) (high : Option ℕ) (input : List α) :
    repLimit cls high input ≤ (input.takeWhile cls).length := by
  cases high with
  | none => exact Nat.le_refl _
  | some n => exact Nat.min_le_right n _

theorem take_takeWhile_of_le {cls : α → Bool} {input : List α} {n : ℕ}
    (h : n ≤ (input.takeWhile cls).length) : input.take n = (input.takeWhile cls).take n := by
  obtain ⟨more, hmore⟩ := List.takeWhile_prefix (l := input) cls
  conv_lhs => rw [← hmore]
  exact List.take_append_of_le_length h

/-- What a repetition takes is all in its class. -/
theorem cls_of_mem_take {cls : α → Bool} {input : List α} {n : ℕ} {c : α}
    (h : n ≤ (input.takeWhile cls).length) (hc : c ∈ input.take n) : cls c = true := by
  rw [take_takeWhile_of_le h] at hc
  exact List.mem_takeWhile_imp (List.mem_of_mem_take hc)

/-- A fixed number of characters of a class. -/
theorem mem_run_exactly {cls : α → Bool} {n : ℕ} {before : Option α} {input : List α}
    {m : Match α} :
    m ∈ run isWord (.rep cls n (some n)) before input ↔
      m.text ++ m.rest = input ∧ m.text.length = n ∧ (∀ c ∈ m.text, cls c = true) ∧
        m.groups = [] := by
  rw [mem_run_rep]
  constructor
  · rintro ⟨k, hk, hlim, rfl⟩
    have hle := repLimit_le_takeWhile cls (some n) input
    have hkn : k = n := by
      simp only [repLimit] at hlim
      omega
    subst hkn
    have hlen : k ≤ input.length :=
      Nat.le_trans (Nat.le_trans hlim hle) (List.takeWhile_prefix (l := input) cls).length_le
    exact ⟨List.take_append_drop k input, by simp [hlen],
      fun c hc => cls_of_mem_take (Nat.le_trans hlim hle) hc, rfl⟩
  · rintro ⟨rfl, hlen, hcls, hg⟩
    obtain ⟨text, rest, groups⟩ := m
    simp only at hlen hcls hg ⊢
    subst hlen hg
    have htw : (text ++ rest).takeWhile cls = text ++ rest.takeWhile cls :=
      List.takeWhile_append_of_pos hcls
    refine ⟨text.length, Nat.le_refl _, ?_, by simp⟩
    simp [repLimit, htw]

/-- Any number of characters of a class, from a smallest one on. -/
theorem mem_run_atLeast {cls : α → Bool} {n : ℕ} {before : Option α} {input : List α}
    {m : Match α} :
    m ∈ run isWord (.rep cls n none) before input ↔
      m.text ++ m.rest = input ∧ n ≤ m.text.length ∧ (∀ c ∈ m.text, cls c = true) ∧
        m.groups = [] := by
  rw [mem_run_rep]
  constructor
  · rintro ⟨k, hk, hlim, rfl⟩
    have hlen : k ≤ input.length :=
      Nat.le_trans hlim (List.takeWhile_prefix (l := input) cls).length_le
    exact ⟨List.take_append_drop k input, by simpa [hlen] using hk,
      fun c hc => cls_of_mem_take hlim hc, rfl⟩
  · rintro ⟨rfl, hlen, hcls, hg⟩
    obtain ⟨text, rest, groups⟩ := m
    simp only at hlen hcls hg ⊢
    subst hg
    refine ⟨text.length, hlen, ?_, by simp⟩
    simp [repLimit, List.takeWhile_append_of_pos hcls]

theorem fullmatch_iff {r : Regex α} {input : List α} :
    fullmatch isWord r input = true ↔ ∃ m ∈ run isWord r none input, m.rest = [] := by
  simp [fullmatch]

theorem lastOr_cons (before : Option α) (c : α) (text : List α) :
    lastOr before (c :: text) = lastOr (some c) text := by
  rw [lastOr, lastOr, List.getLast?_cons]
  cases text.getLast? <;> rfl

/-- A search finds a match attempt that succeeds somewhere. -/
theorem searchFrom_eq_some {r : Regex α} {before : Option α} {input : List α} {m : Match α}
    (h : searchFrom isWord r before input = some m) :
    ∃ pre post, input = pre ++ post ∧ m ∈ run isWord r (lastOr before pre) post := by
  induction input generalizing before with
  | nil => exact ⟨[], [], rfl, List.mem_of_head? h⟩
  | cons c input ih =>
    rcases Option.or_eq_some_iff.mp h with h | ⟨-, h⟩
    · exact ⟨[], c :: input, rfl, List.mem_of_head? h⟩
    · obtain ⟨pre, post, rfl, hm⟩ := ih h
      refine ⟨c :: pre, post, rfl, ?_⟩
      rwa [lastOr_cons]

theorem searchFrom_isSome {r : Regex α} {before : Option α} {pre post : List α} {m : Match α}
    (h : m ∈ run isWord r (lastOr before pre) post) :
    (searchFrom isWord r before (pre ++ post)).isSome := by
  have attempt : ∀ {before input}, m ∈ run isWord r before input →
      (matchAt isWord r before input).isSome := by
    intro before input hm
    exact List.isSome_head?.mpr (List.ne_nil_of_mem hm)
  induction pre generalizing before with
  | nil =>
    cases post with
    | nil => exact attempt h
    | cons c post =>
      have h' : m ∈ run isWord r before (c :: post) := h
      rw [List.nil_append, searchFrom, Option.isSome_or, attempt h', Bool.true_or]
  | cons c pre ih =>
    rw [lastOr_cons] at h
    rw [List.cons_append, searchFrom, Option.isSome_or, ih h, Bool.or_true]

/-- A pattern occurs exactly where a match attempt succeeds. -/
theorem occurs_iff {r : Regex α} {input : List α} :
    occurs isWord r input ↔
      ∃ pre post m, input = pre ++ post ∧ m ∈ run isWord r pre.getLast? post := by
  constructor
  · intro h
    obtain ⟨m, hm⟩ := Option.isSome_iff_exists.mp h
    obtain ⟨pre, post, happ, hrun⟩ := searchFrom_eq_some hm
    exact ⟨pre, post, m, happ, by simpa [lastOr] using hrun⟩
  · rintro ⟨pre, post, m, rfl, hm⟩
    exact searchFrom_isSome (by simpa [lastOr] using hm)

/-- A word boundary before a literal that starts with a word character. -/
theorem mem_run_boundary_literal [DecidableEq α] {c : α} {text : List α} (hc : isWord c = true)
    {before : Option α} {input : List α} {m : Match α} :
    m ∈ run isWord (.seq .boundary (literal (c :: text))) before input ↔
      before.any isWord = false ∧ c :: text <+: input ∧
        m = ⟨c :: text, input.drop (text.length + 1), []⟩ := by
  rw [mem_run_seq]
  constructor
  · rintro ⟨a, ha, b, hb, rfl⟩
    obtain ⟨hbound, rfl⟩ := mem_run_boundary.mp ha
    obtain ⟨⟨more, rfl⟩, rfl⟩ := mem_run_literal.mp hb
    refine ⟨?_, List.prefix_append _ _, rfl⟩
    simpa [atBoundary, hc] using hbound
  · rintro ⟨hbefore, ⟨more, rfl⟩, rfl⟩
    refine ⟨⟨[], c :: text ++ more, []⟩, mem_run_boundary.mpr ⟨?_, rfl⟩,
      ⟨c :: text, more, []⟩, mem_run_literal.mpr ⟨List.prefix_append _ _, by simp⟩, by simp⟩
    simp [atBoundary, hbefore, hc]

/-- A fixed number of characters of a class that are there are taken. -/
theorem matchAt_exactly {cls : α → Bool} {text : List α} (h : ∀ c ∈ text, cls c = true)
    (before : Option α) (rest : List α) :
    matchAt isWord (.rep cls text.length (some text.length)) before (text ++ rest) =
      some ⟨text, rest, []⟩ := by
  have hmem : (⟨text, rest, []⟩ : Match α) ∈
      run isWord (.rep cls text.length (some text.length)) before (text ++ rest) :=
    mem_run_exactly.mpr ⟨rfl, rfl, h, rfl⟩
  obtain ⟨m, hm⟩ := Option.isSome_iff_exists.mp
    (List.isSome_head?.mpr (List.ne_nil_of_mem hmem))
  obtain ⟨happ, hlen, -, hgroups⟩ := mem_run_exactly.mp (List.mem_of_head? hm)
  obtain ⟨htext, hrest⟩ := List.append_inj happ hlen
  obtain ⟨mtext, mrest, mgroups⟩ := m
  obtain rfl : mtext = text := htext
  obtain rfl : mrest = rest := hrest
  obtain rfl : mgroups = [] := hgroups
  exact hm

/-- After a fixed number of characters of a class, the rest of the pattern decides. -/
theorem matchAt_exactly_seq {cls : α → Bool} {text : List α} (h : ∀ c ∈ text, cls c = true)
    (second : Regex α) (before : Option α) (rest : List α) :
    matchAt isWord (.seq (.rep cls text.length (some text.length)) second) before (text ++ rest) =
      (matchAt isWord second (lastOr before text) rest).map fun m =>
        ⟨text ++ m.text, m.rest, m.groups⟩ := by
  have hlimit : repLimit cls (some text.length) (text ++ rest) = text.length := by
    rw [repLimit, List.takeWhile_append_of_pos h, List.length_append]
    omega
  -- only the whole text is long enough
  have hcounts : ((List.range (text.length + 1)).reverse).filter (text.length ≤ ·) =
      [text.length] := by
    rw [List.range_succ, List.reverse_append, List.reverse_singleton, List.singleton_append,
      List.filter_cons_of_pos (by simp), List.filter_eq_nil_iff.mpr (by simp)]
  have hrun : run isWord (.rep cls text.length (some text.length)) before (text ++ rest) =
      [⟨text, rest, []⟩] := by
    rw [run, hlimit, hcounts, List.map_singleton, List.take_left, List.drop_left]
  have hseq : run isWord (.seq (.rep cls text.length (some text.length)) second) before
      (text ++ rest) = (run isWord second (lastOr before text) rest).map fun k =>
        ⟨text ++ k.text, k.rest, [] ++ k.groups⟩ := by
    rw [run, hrun, List.flatMap_singleton]
  rw [matchAt, hseq, List.head?_map]
  rfl

/-- What is optional is taken when it is there. -/
theorem matchAt_opt (body : Regex α) (before : Option α) (input : List α) :
    matchAt isWord (.opt body) before input =
      (matchAt isWord body before input).or (some ⟨[], input, []⟩) := by
  rw [opt, matchAt, run, List.head?_append]
  rfl

/-- After a literal that is there, the rest of the pattern decides. -/
theorem matchAt_literal_seq [DecidableEq α] (text : List α) (second : Regex α)
    (before : Option α) (input : List α) :
    matchAt isWord (.seq (literal text) second) before (text ++ input) =
      (matchAt isWord second (lastOr before text) input).map fun m =>
        ⟨text ++ m.text, m.rest, m.groups⟩ := by
  simp [matchAt, run, run_literal_append]

theorem matchAt_literal_seq_none [DecidableEq α] {text : List α} {input : List α}
    (h : ¬ text <+: input) (second : Regex α) (before : Option α) :
    matchAt isWord (.seq (literal text) second) before input = none := by
  simp [matchAt, run, run_literal, h]

private theorem head?_flatMap_range {β : Type} {g : ℕ → List β} {low k top : ℕ} (hlow : low ≤ k)
    (hk : k ≤ top) (hnone : ∀ n, k < n → n ≤ top → g n = []) (hsome : g k ≠ []) :
    ((((List.range (top + 1)).reverse).filter (low ≤ ·)).flatMap g).head? = (g k).head? := by
  induction top with
  | zero =>
    obtain rfl : k = 0 := by omega
    obtain rfl : low = 0 := by omega
    simp
  | succ top ih =>
    rw [List.range_succ, List.reverse_append, List.reverse_singleton, List.singleton_append,
      List.filter_cons_of_pos (by simp; omega), List.flatMap_cons]
    rcases Nat.lt_or_ge k (top + 1) with hlt | hge
    · rw [hnone (top + 1) hlt (Nat.le_refl _), List.nil_append]
      exact ih (by omega) fun n hn hle => hnone n hn (by omega)
    · obtain rfl : k = top + 1 := by omega
      rw [List.head?_append_of_ne_nil _ hsome]

/-- A greedy repetition gives back characters until what follows it matches. -/
theorem matchAt_rep_seq {cls : α → Bool} {low : ℕ} {high : Option ℕ} {second : Regex α}
    {before : Option α} {input : List α} {k : ℕ} (hlow : low ≤ k)
    (hk : k ≤ repLimit cls high input)
    (hnone : ∀ n, k < n → n ≤ repLimit cls high input →
      matchAt isWord second (lastOr before (input.take n)) (input.drop n) = none)
    {m : Match α}
    (hsome : matchAt isWord second (lastOr before (input.take k)) (input.drop k) = some m) :
    matchAt isWord (.seq (.rep cls low high) second) before input =
      some ⟨input.take k ++ m.text, m.rest, m.groups⟩ := by
  simp only [matchAt, run, List.flatMap_map]
  rw [head?_flatMap_range hlow hk, List.head?_map]
  · rw [show (run isWord second (lastOr before (input.take k)) (input.drop k)).head? = some m from
      hsome]
    simp
  · intro n hn hle
    have h := hnone n hn hle
    rw [matchAt, List.head?_eq_none_iff] at h
    simp [h]
  · intro hnil
    rw [List.map_eq_nil_iff] at hnil
    simp [matchAt, hnil] at hsome

/-- Where a greedy repetition can leave a match of what follows it, it leaves that one or it takes
more. -/
theorem exists_matchAt_rep_seq {cls : α → Bool} {low : ℕ} {high : Option ℕ} {second : Regex α}
    {before : Option α} {input : List α} {k : ℕ} (hlow : low ≤ k)
    (hk : k ≤ repLimit cls high input) {m : Match α}
    (hm : matchAt isWord second (lastOr before (input.take k)) (input.drop k) = some m) :
    ∃ n m', k ≤ n ∧ n ≤ repLimit cls high input ∧ (n = k → m' = m) ∧
      matchAt isWord second (lastOr before (input.take n)) (input.drop n) = some m' ∧
      matchAt isWord (.seq (.rep cls low high) second) before input =
        some ⟨input.take n ++ m'.text, m'.rest, m'.groups⟩ := by
  let leaves := fun n =>
    (matchAt isWord second (lastOr before (input.take n)) (input.drop n)).isSome = true
  have hleaves : leaves k := by simp [leaves, hm]
  let n := Nat.findGreatest leaves (repLimit cls high input)
  have hkn : k ≤ n := Nat.le_findGreatest hk hleaves
  have hn : n ≤ repLimit cls high input := Nat.findGreatest_le _
  obtain ⟨m', hm'⟩ := Option.isSome_iff_exists.mp (Nat.findGreatest_spec hk hleaves)
  refine ⟨n, m', hkn, hn, ?_, hm', matchAt_rep_seq (hlow.trans hkn) hn ?_ hm'⟩
  · intro heq
    rw [show Nat.findGreatest leaves (repLimit cls high input) = k from heq, hm] at hm'
    exact (Option.some.inj hm').symm
  · intro i hi hle
    simpa [leaves] using Nat.findGreatest_is_greatest hi hle

/-- A greedy repetition on its own takes its whole run. -/
theorem matchAt_rep {cls : α → Bool} {low : ℕ} {before : Option α} {input : List α}
    (h : low ≤ (input.takeWhile cls).length) :
    matchAt isWord (.rep cls low none) before input =
      some ⟨input.takeWhile cls, input.dropWhile cls, []⟩ := by
  simp only [matchAt, run, repLimit, List.head?_map]
  rw [List.range_succ, List.reverse_append, List.reverse_singleton, List.singleton_append,
    List.filter_cons_of_pos (by simpa using h), List.head?_cons, Option.map_some]
  congr 2
  · exact (List.prefix_iff_eq_take.mp (List.takeWhile_prefix cls)).symm
  · have h := congrArg (List.drop (input.takeWhile cls).length)
      (List.takeWhile_append_dropWhile (p := cls) (l := input)).symm
    rwa [List.drop_left] at h

theorem matchAt_rep_none {cls : α → Bool} {low : ℕ} {before : Option α} {input : List α}
    (h : (input.takeWhile cls).length < low) :
    matchAt isWord (.rep cls low none) before input = none := by
  simp only [matchAt, run, repLimit, List.head?_map, Option.map_eq_none_iff,
    List.head?_eq_none_iff, List.filter_eq_nil_iff, List.mem_reverse, List.mem_range]
  intro n hn
  simp
  omega

end Run

/-! ## Patterns that stop at a character -/

section Stop

/-- No class of the pattern has `c`, and the pattern has no word boundary. -/
def StopsAt (c : α) : Regex α → Prop
  | .empty => True
  | .one cls => cls c = false
  | .rep cls _ _ => cls c = false
  | .seq first second => StopsAt c first ∧ StopsAt c second
  | .alt left right => StopsAt c left ∧ StopsAt c right
  | .group body => StopsAt c body
  | .boundary => False

theorem stopsAt_literal [DecidableEq α] {c : α} {text : List α} (h : c ∉ text) :
    StopsAt c (literal text) := by
  induction text with
  | nil => trivial
  | cons d text ih =>
    refine ⟨?_, ih fun hc => h (by simp [hc])⟩
    simpa [StopsAt] using fun hcd : c = d => h (by simp [hcd])

variable {isWord : α → Bool} {c : α}

theorem takeWhile_append_stop {cls : α → Bool} (hc : cls c = false) (input more : List α) :
    (input ++ c :: more).takeWhile cls = input.takeWhile cls := by
  induction input with
  | nil => simp [hc]
  | cons d input ih =>
    by_cases hd : cls d
    · simp [List.takeWhile_cons_of_pos hd, ih]
    · simp [List.takeWhile_cons_of_neg hd]

/-- **A pattern that stops at `c` does not look past a `c`**: its matches are those in the text
before the `c`. -/
theorem run_stop {r : Regex α} (hr : StopsAt c r) (before before' : Option α)
    (input more : List α) :
    run isWord r before (input ++ c :: more) =
      (run isWord r before' input).map fun m => ⟨m.text, m.rest ++ c :: more, m.groups⟩ := by
  -- -- by induction on the pattern: the stop is never consumed
  induction r generalizing before before' input with
  | empty => rfl
  | one cls =>
    cases input with
    | nil =>
      have hc : cls c = false := hr
      simp [run, hc]
    | cons d input =>
      simp only [run, List.cons_append]
      split <;> rfl
  | rep cls low high =>
    -- -- the repetition ends at the stop, so it sees as many characters either way
    have hlim : repLimit cls high (input ++ c :: more) = repLimit cls high input := by
      simp only [repLimit, takeWhile_append_stop (show cls c = false from hr)]
    simp only [run, hlim, List.map_map]
    refine List.map_congr_left fun n hn => ?_
    have hn' : n ≤ input.length := by
      simp only [List.mem_filter, List.mem_reverse, List.mem_range] at hn
      have h₁ := repLimit_le_takeWhile cls high input
      have h₂ := (List.takeWhile_prefix (l := input) cls).length_le
      omega
    simp [List.take_append_of_le_length hn', List.drop_append_of_le_length hn']
  -- -- the first pattern leaves the stop in the rest, where the second meets it
  | seq first second ih₁ ih₂ =>
    obtain ⟨h₁, h₂⟩ := hr
    simp only [run, ih₁ h₁ before before' input, List.flatMap_map, List.map_flatMap]
    refine List.flatMap_congr fun m _ => ?_
    rw [ih₂ h₂ (lastOr before m.text) (lastOr before' m.text) m.rest]
    simp only [List.map_map]
    rfl
  | alt left right ih₁ ih₂ =>
    obtain ⟨h₁, h₂⟩ := hr
    simp only [run, ih₁ h₁ before before' input, ih₂ h₂ before before' input, List.map_append]
  | group body ih => simp only [run, ih hr before before' input, List.map_map]; rfl
  | boundary => exact hr.elim

/-- A pattern that stops somewhere does not look at the character before it either. -/
theorem run_before {r : Regex α} (hr : StopsAt c r) (before before' : Option α)
    (input : List α) : run isWord r before input = run isWord r before' input := by
  induction r generalizing before before' input with
  | empty => rfl
  | one cls => rfl
  | rep cls low high => rfl
  | seq first second ih₁ ih₂ =>
    obtain ⟨h₁, h₂⟩ := hr
    simp only [run, ih₁ h₁ before before' input]
    refine List.flatMap_congr fun m _ => ?_
    rw [ih₂ h₂ (lastOr before m.text) (lastOr before' m.text) m.rest]
  | alt left right ih₁ ih₂ =>
    simp only [run, ih₁ hr.1 before before' input, ih₂ hr.2 before before' input]
  | group body ih => simp only [run, ih hr before before' input]
  | boundary => exact hr.elim

theorem matchAt_stop {r : Regex α} (hr : StopsAt c r) (before before' : Option α)
    (input more : List α) :
    matchAt isWord r before (input ++ c :: more) =
      (matchAt isWord r before' input).map fun m => ⟨m.text, m.rest ++ c :: more, m.groups⟩ := by
  rw [matchAt, run_stop hr before before', List.head?_map]
  rfl

theorem matchAt_before {r : Regex α} (hr : StopsAt c r) (before before' : Option α)
    (input : List α) : matchAt isWord r before input = matchAt isWord r before' input := by
  rw [matchAt, run_before hr before before', matchAt]

/-- The matched text, the rest left out. -/
def texts (ms : List (Match α)) : List (List α) := ms.map (·.text)

/-- More fuel than characters changes nothing, nor does the character before the scan. -/
theorem finditerN_eq {r : Regex α} (hr : StopsAt c r) {n m : ℕ} (before before' : Option α)
    {input : List α} (hn : input.length ≤ n) (hm : input.length ≤ m) :
    texts (finditerN isWord r n before input) = texts (finditerN isWord r m before' input) := by
  -- -- by induction on the fuel, which the length of the input bounds
  induction n generalizing m before before' input with
  | zero =>
    obtain rfl := List.length_eq_zero_iff.mp (Nat.le_zero.mp hn)
    cases m with
    -- -- on no input the match is empty, and the search ends
    | zero => rfl
    | succ m =>
      rw [finditerN, finditerN]
      cases h : matchAt isWord r before' [] with
      | none => rfl
      | some k =>
        have happ := run_append (List.mem_of_head? h)
        simp only [List.append_eq_nil_iff] at happ
        obtain ⟨text, rest, groups⟩ := k
        obtain ⟨rfl, rfl⟩ := happ
        rfl
  | succ n ih =>
    cases m with
    | zero =>
      obtain rfl := List.length_eq_zero_iff.mp (Nat.le_zero.mp hm)
      rw [finditerN, finditerN]
      cases h : matchAt isWord r before [] with
      | none => rfl
      | some k =>
        have happ := run_append (List.mem_of_head? h)
        simp only [List.append_eq_nil_iff] at happ
        obtain ⟨text, rest, groups⟩ := k
        obtain ⟨rfl, rfl⟩ := happ
        rfl
    | succ m =>
      rw [finditerN_succ, finditerN_succ, matchAt_before hr before before']
      have skip : texts (match input with
            | [] => []
            | d :: rest => finditerN isWord r n (some d) rest) =
          texts (match input with
            | [] => []
            | d :: rest => finditerN isWord r m (some d) rest) := by
        cases input with
        | nil => rfl
        | cons d rest =>
          simp only [List.length_cons] at hn hm
          exact ih (some d) (some d) (by omega) (by omega)
      cases h : matchAt isWord r before' input with
      | none => exact skip
      | some k =>
        obtain ⟨_ | ⟨d, text⟩, rest, groups⟩ := k
        · exact skip
        · have happ := congrArg List.length (run_append (List.mem_of_head? h))
          simp only [List.length_append, List.length_cons] at happ
          simp only [texts, List.map_cons]
          congr 1
          exact ih _ _ (by omega) (by omega)

/-- A scan goes on after a match. -/
theorem texts_finditer_of_some {r : Regex α} (hr : StopsAt c r) {before : Option α}
    {input : List α} {m : Match α} (h : matchAt isWord r before input = some m)
    (hm : m.text ≠ []) :
    texts (finditer isWord r input) = m.text :: texts (finditer isWord r m.rest) := by
  obtain ⟨text, rest, groups⟩ := m
  obtain ⟨d, text, rfl⟩ := List.exists_cons_of_ne_nil hm
  have hlen := congrArg List.length (run_append (List.mem_of_head? h))
  simp only [List.length_append, List.length_cons] at hlen
  rw [finditer, finditerN_eq hr none none (Nat.le_refl _) (Nat.le_succ _), finditerN_succ,
    matchAt_before hr none before, h]
  simp only [texts, List.map_cons]
  congr 1
  exact finditerN_eq hr _ none (by omega) (Nat.le_refl _)

/-- A scan passes over a character where nothing matches. -/
theorem texts_finditer_of_none {r : Regex α} (hr : StopsAt c r) {before : Option α} {d : α}
    {input : List α} (h : matchAt isWord r before (d :: input) = none) :
    texts (finditer isWord r (d :: input)) = texts (finditer isWord r input) := by
  rw [finditer, List.length_cons, finditerN_succ, matchAt_before hr none before, h]
  exact finditerN_eq hr _ none (Nat.le_refl _) (Nat.le_refl _)

/-- **The scan of a pattern that stops at `c` does not look past a `c`.** -/
theorem finditer_separator {r : Regex α} (hr : StopsAt c r) (input more : List α) :
    texts (finditer isWord r (input ++ c :: more)) =
      texts (finditer isWord r input) ++ texts (finditer isWord r more) := by
  have key : ∀ n (before : Option α) (input : List α), input.length + 1 + more.length ≤ n →
      texts (finditerN isWord r n before (input ++ c :: more)) =
        texts (finditer isWord r input) ++ texts (finditer isWord r more) := by
    intro n
    induction n with
    | zero => intro before input hn; omega
    | succ n ih =>
      intro before input hn
      have unroll : texts (finditer isWord r input) =
          texts (finditerN isWord r (input.length + 1) none input) :=
        finditerN_eq hr none none (Nat.le_refl _) (Nat.le_succ _)
      rw [unroll, finditerN_succ, finditerN_succ, matchAt_stop hr before none]
      have skip : texts (match input ++ c :: more with
            | [] => []
            | d :: rest => finditerN isWord r n (some d) rest) =
          texts (match input with
            | [] => []
            | d :: rest => finditerN isWord r input.length (some d) rest) ++
            texts (finditer isWord r more) := by
        cases input with
        | nil =>
          simp only [List.nil_append, List.length_nil] at hn ⊢
          exact finditerN_eq hr _ _ (by omega) (Nat.le_refl _)
        | cons d rest =>
          simp only [List.cons_append, List.length_cons] at hn ⊢
          rw [ih (some d) rest (by omega)]
          congr 1
          exact finditerN_eq hr _ _ (Nat.le_refl _) (Nat.le_succ _)
      cases h : matchAt isWord r none input with
      | none => simpa using skip
      | some k =>
        obtain ⟨_ | ⟨d, text⟩, rest, groups⟩ := k
        · simpa using skip
        · have happ := congrArg List.length (run_append (List.mem_of_head? h))
          simp only [List.length_append, List.length_cons] at happ
          simp only [Option.map_some, texts, List.map_cons, List.cons_append]
          congr 1
          have hrest := ih (lastOr before (d :: text)) rest (by omega)
          simp only [texts] at hrest
          rw [hrest]
          congr 1
          exact finditerN_eq hr _ _ (Nat.le_refl _) (by omega)
  exact key _ none input (by simp; omega)

end Stop

/-! ## Texts made of matches -/

section Tokens

variable {isWord : α → Bool} {r : Regex α}

/-- What a scan yields are matches. -/
theorem exists_run_of_mem_finditerN {fuel : ℕ} {before : Option α} {input : List α} {m : Match α}
    (h : m ∈ finditerN isWord r fuel before input) :
    ∃ before' input', m ∈ run isWord r before' input' := by
  induction fuel generalizing before input with
  | zero => cases h
  | succ fuel ih =>
    rw [finditerN_succ] at h
    split at h
    · next hmatch =>
      rcases List.mem_cons.mp h with rfl | hrest
      · exact ⟨before, input, List.mem_of_head? hmatch⟩
      · exact ih hrest
    · split at h
      · cases h
      · exact ih h

/-- **A text made of what the pattern takes is scanned into it.** -/
theorem texts_finditer_flatten {tokens : List (List α)} (hne : ∀ t ∈ tokens, t ≠ [])
    (h : ∀ t ∈ tokens, ∀ before rest, ∃ groups,
      matchAt isWord r before (t ++ rest) = some ⟨t, rest, groups⟩) :
    texts (finditer isWord r tokens.flatten) = tokens := by
  have key : ∀ (fuel : ℕ) (before : Option α), tokens.flatten.length ≤ fuel →
      texts (finditerN isWord r fuel before tokens.flatten) = tokens := by
    induction tokens with
    | nil =>
      intro fuel before _
      cases fuel with
      | zero => rfl
      | succ fuel =>
        -- at the end nothing but the empty text could match
        rw [List.flatten_nil, finditerN_succ]
        split
        · next hmatch =>
          have happ := run_append (List.mem_of_head? hmatch)
          simp at happ
        · rfl
    | cons token tokens ih =>
      intro fuel before hfuel
      have ⟨htoken, htokens⟩ := List.forall_mem_cons.mp hne
      obtain ⟨c, text, rfl⟩ := List.exists_cons_of_ne_nil htoken
      obtain ⟨fuel, rfl⟩ : ∃ n, fuel = n + 1 := Nat.exists_eq_succ_of_ne_zero (by
        rw [List.flatten_cons, List.length_append, List.length_cons] at hfuel
        omega)
      obtain ⟨groups, hmatch⟩ := h (c :: text) (by simp) before tokens.flatten
      rw [List.flatten_cons, finditerN_succ, hmatch]
      have hrest := ih htokens (fun t ht => h t (List.mem_cons_of_mem _ ht)) fuel
        (lastOr before (c :: text)) (by
          rw [List.flatten_cons, List.length_append, List.length_cons] at hfuel
          omega)
      simp only [texts, List.map_cons] at hrest ⊢
      rw [hrest]
  exact key _ none (Nat.le_refl _)

end Tokens

end Regex

end Python
