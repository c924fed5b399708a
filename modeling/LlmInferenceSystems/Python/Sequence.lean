import Mathlib.Algebra.Group.Basic
import Mathlib.Data.List.Chain
import Mathlib.Data.List.Infix
import Mathlib.Data.List.Sort
import Mathlib.Order.Bounds.Basic

/-!
# Sequences

`itertools.pairwise` and `sorted`, what checks on neighbours say about a whole sequence, and the
greatest value over its beginnings.

## Main definitions

* `neighbours`: `itertools.pairwise`
* `sorted`, `sortedBy`: `sorted(xs)`, `sorted(xs, key=key)`
* `prefixValues`: the values at the beginnings of a sequence

## Main results

* `forall_neighbours`: a check on all neighbours is a chain
* `sorted_eq_self`: a sequence is its sorted self exactly when it is in order
* `sorted_eq_of_perm`: the order of a sequence does not show after sorting
* `forall₂_sorted`: nothing goes down in the sorted sequence when nothing did before sorting
* `isGreatest_prefixValues_concat`: the greatest value when the sequence goes on
-/

namespace Python

variable {α : Type}

/-- `itertools.pairwise(xs)` -/
def neighbours (xs : List α) : List (α × α) := xs.zip xs.tail

@[simp] theorem neighbours_nil : neighbours ([] : List α) = [] := rfl

@[simp] theorem neighbours_singleton (x : α) : neighbours [x] = [] := rfl

@[simp] theorem neighbours_cons_cons (x y : α) (xs : List α) :
    neighbours (x :: y :: xs) = (x, y) :: neighbours (y :: xs) := rfl

/-- A check on all neighbours is a chain. -/
theorem forall_neighbours {r : α → α → Prop} {xs : List α} :
    (∀ p ∈ neighbours xs, r p.1 p.2) ↔ xs.IsChain r := by
  induction xs with
  | nil => simp
  | cons x xs ih =>
    cases xs with
    | nil => simp
    | cons y xs =>
      rw [neighbours_cons_cons, List.forall_mem_cons, ih, List.isChain_cons_cons]

theorem length_neighbours (xs : List α) : (neighbours xs).length = xs.length - 1 := by
  simp [neighbours]

/-- The differences between neighbours add up to the difference between the two ends. -/
theorem sum_map_neighbours {β : Type} [AddCommGroup β] (f : α → β) (x : α) (xs : List α) :
    ((neighbours (x :: xs)).map fun p => f p.2 - f p.1).sum =
      f ((x :: xs).getLast (List.cons_ne_nil x xs)) - f x := by
  induction xs generalizing x with
  | nil => simp
  | cons y xs ih =>
    rw [neighbours_cons_cons, List.map_cons, List.sum_cons, ih y, List.getLast_cons_cons,
      sub_add_sub_cancel']

/-- The values of `f` at the beginnings of a sequence. -/
def prefixValues {β : Type} (f : List α → β) (xs : List α) : Set β := f '' {p | p <+: xs}

theorem prefixValues_nil {β : Type} (f : List α → β) : prefixValues f [] = {f []} := by
  simp [prefixValues]

theorem prefixValues_concat {β : Type} (f : List α → β) (xs : List α) (x : α) :
    prefixValues f (xs ++ [x]) = insert (f (xs ++ [x])) (prefixValues f xs) := by
  have hset : {p | p <+: xs ++ [x]} = insert (xs ++ [x]) {p | p <+: xs} := by
    ext p
    exact List.prefix_concat_iff
  rw [prefixValues, hset, Set.image_insert_eq, prefixValues]

/-- The greatest value over the beginnings, when the sequence goes on. -/
theorem isGreatest_prefixValues_concat {β : Type} [LinearOrder β] {f : List α → β} {xs : List α}
    {m : β} (h : IsGreatest (prefixValues f xs) m) (x : α) :
    IsGreatest (prefixValues f (xs ++ [x])) (max (f (xs ++ [x])) m) := by
  rw [prefixValues_concat]
  exact h.insert _

variable [LinearOrder α]

/-- `sorted(xs, key=key)`, which is stable -/
def sortedBy {β : Type} (key : β → α) (xs : List β) : List β :=
  xs.insertionSort fun x y => key x ≤ key y

theorem sortedBy_perm {β : Type} (key : β → α) (xs : List β) : (sortedBy key xs).Perm xs :=
  List.perm_insertionSort _ xs

theorem pairwise_sortedBy {β : Type} (key : β → α) (xs : List β) :
    (sortedBy key xs).Pairwise fun x y => key x ≤ key y := by
  have : Std.Total fun x y : β => key x ≤ key y := ⟨fun x y => le_total (key x) (key y)⟩
  have : IsTrans β fun x y => key x ≤ key y := ⟨fun _ _ _ => le_trans⟩
  exact List.pairwise_insertionSort _ xs

/-- `sorted(xs)` -/
def sorted (xs : List α) : List α := xs.insertionSort (· ≤ ·)

theorem sorted_perm (xs : List α) : (sorted xs).Perm xs := List.perm_insertionSort _ xs

theorem pairwise_sorted (xs : List α) : (sorted xs).Pairwise (· ≤ ·) :=
  List.pairwise_insertionSort _ xs

/-- The order of a sequence does not show after sorting. -/
theorem sorted_eq_of_perm {xs ys : List α} (h : xs.Perm ys) : sorted xs = sorted ys :=
  ((sorted_perm xs).trans (h.trans (sorted_perm ys).symm)).eq_of_pairwise'
    (pairwise_sorted xs) (pairwise_sorted ys)

/-- Sorting takes up the first value last. -/
theorem sorted_cons (x : α) (xs : List α) : sorted (x :: xs) = (sorted xs).orderedInsert (· ≤ ·) x :=
  rfl

/-- The first value of a sequence in order is put in at its front. -/
theorem orderedInsert_head {x : α} {xs : List α} (h : (x :: xs).Pairwise (· ≤ ·)) :
    xs.orderedInsert (· ≤ ·) x = x :: xs := by
  cases xs with
  | nil => rfl
  | cons y xs => exact List.orderedInsert_cons_of_le _ _ (List.rel_of_pairwise_cons h (by simp))

/-- Nothing goes down when a larger value is put into a larger sequence. -/
theorem forall₂_orderedInsert {xs ys : List α} (hxs : xs.Pairwise (· ≤ ·))
    (hys : ys.Pairwise (· ≤ ·)) (hle : List.Forall₂ (· ≤ ·) xs ys) {x y : α} (hxy : x ≤ y) :
    List.Forall₂ (· ≤ ·) (xs.orderedInsert (· ≤ ·) x) (ys.orderedInsert (· ≤ ·) y) := by
  -- the value put in may change: what it displaces is put into the rest
  induction hle generalizing x y with
  | nil => exact .cons hxy .nil
  | @cons a b as bs hab hrest ih =>
    have has := (List.pairwise_cons.mp hxs).2
    have hbs := (List.pairwise_cons.mp hys).2
    by_cases hxa : x ≤ a
    · by_cases hyb : y ≤ b
      · rw [List.orderedInsert_cons_of_le _ _ hxa, List.orderedInsert_cons_of_le _ _ hyb]
        exact .cons hxy (.cons hab hrest)
      · -- `b` comes before `y`, so that `a` is against what `y` is put into
        rw [List.orderedInsert_cons_of_le _ _ hxa, List.orderedInsert_of_not_le _ _ hyb]
        have hay : a ≤ y := hab.trans (le_of_not_ge hyb)
        exact .cons (hxa.trans hab) (orderedInsert_head hxs ▸ ih has hbs hay)
    · have hax : a ≤ x := le_of_not_ge hxa
      by_cases hyb : y ≤ b
      · rw [List.orderedInsert_of_not_le _ _ hxa, List.orderedInsert_cons_of_le _ _ hyb]
        exact .cons (hax.trans hxy) (orderedInsert_head hys ▸ ih has hbs (hxy.trans hyb))
      · rw [List.orderedInsert_of_not_le _ _ hxa, List.orderedInsert_of_not_le _ _ hyb]
        exact .cons hab (ih has hbs hxy)

/-- **Nothing goes down in the sorted sequence when nothing did before sorting.** -/
theorem forall₂_sorted {xs ys : List α} (hle : List.Forall₂ (· ≤ ·) xs ys) :
    List.Forall₂ (· ≤ ·) (sorted xs) (sorted ys) := by
  induction hle with
  | nil => exact .nil
  | cons hxy _ ih =>
    rw [sorted_cons, sorted_cons]
    exact forall₂_orderedInsert (pairwise_sorted _) (pairwise_sorted _) ih hxy

/-- Nor does the order show in the least value. -/
theorem min?_eq_of_perm {xs ys : List ℕ} (h : xs.Perm ys) : xs.min? = ys.min? := by
  refine Option.ext fun x => ?_
  rw [List.min?_eq_some_iff, List.min?_eq_some_iff, h.mem_iff]
  exact and_congr_right fun _ => forall_congr' fun _ => imp_congr_left h.mem_iff

/-- Nor in the greatest. -/
theorem max?_eq_of_perm {xs ys : List ℕ} (h : xs.Perm ys) : xs.max? = ys.max? := by
  refine Option.ext fun x => ?_
  rw [List.max?_eq_some_iff, List.max?_eq_some_iff, h.mem_iff]
  exact and_congr_right fun _ => forall_congr' fun _ => imp_congr_left h.mem_iff

/-- A sequence is its sorted self exactly when it is in order. -/
theorem sorted_eq_self {xs : List α} : sorted xs = xs ↔ xs.Pairwise (· ≤ ·) := by
  constructor
  · intro h
    rw [← h]
    exact pairwise_sorted xs
  · exact fun h => List.Pairwise.insertionSort_eq h

end Python
