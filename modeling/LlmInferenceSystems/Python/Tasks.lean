import Mathlib.Algebra.BigOperators.Group.List.Basic
import Mathlib.Algebra.GroupWithZero.Nat
import Mathlib.Data.Set.Insert

/-!
# Tasks

A list of tasks of which one is in another phase after a step: how many tasks, and which, are in a
phase with a property. Tasks are named by their place in the list.

## Main definitions

* `namesWhere`: the names of the tasks with a property

## Main results

* `countP_set_add`, `sum_map_set_add`: how the number of tasks with a property, and a sum over the
  tasks, change
* `namesWhere_set_of_eq`, `namesWhere_set_of_new`: how their names change
-/

namespace Python

variable {τ ι : Type}

/-- One task in another phase. -/
theorem countP_set_add {p : τ → Bool} {tasks : List τ} {i : ℕ} {t : τ} (ht : tasks[i]? = some t)
    (t' : τ) :
    (tasks.set i t').countP p + (if p t then 1 else 0) =
      tasks.countP p + if p t' then 1 else 0 := by
  obtain ⟨hi, rfl⟩ := List.getElem?_eq_some_iff.mp ht
  rw [List.countP_set hi]
  have hpos : p tasks[i] = true → 0 < tasks.countP p := fun hp =>
    List.countP_pos_iff.mpr ⟨tasks[i], List.getElem_mem hi, hp⟩
  by_cases hp : p tasks[i] = true
  · have := hpos hp
    simp only [hp, if_true]
    omega
  · simp [hp]

/-- A sum over the tasks, after one of them is in another phase. -/
theorem sum_map_set_add {f : τ → ℕ} {tasks : List τ} {i : ℕ} {t : τ} (ht : tasks[i]? = some t)
    (t' : τ) : ((tasks.set i t').map f).sum + f t = (tasks.map f).sum + f t' := by
  induction tasks generalizing i with
  | nil => cases ht
  | cons s tasks ih =>
    cases i with
    | zero =>
      obtain rfl := Option.some.inj ht
      simp only [List.set_cons_zero, List.map_cons, List.sum_cons]
      omega
    | succ i =>
      have := ih (i := i) ht
      simp only [List.set_cons_succ, List.map_cons, List.sum_cons]
      omega

/-- The names of the tasks with a property. -/
def namesWhere (name : ℕ → ι) (p : τ → Bool) (tasks : List τ) : Set ι :=
  {x | ∃ i t, tasks[i]? = some t ∧ p t = true ∧ x = name i}

variable {name : ℕ → ι} {p : τ → Bool} {tasks : List τ} {i : ℕ} {t : τ}

theorem mem_namesWhere_iff (hname : Function.Injective name) (ht : tasks[i]? = some t) :
    name i ∈ namesWhere name p tasks ↔ p t = true := by
  constructor
  · rintro ⟨j, s, hs, hp, hij⟩
    obtain rfl := hname hij
    rw [ht] at hs
    obtain rfl := Option.some.inj hs
    exact hp
  · exact fun hp => ⟨i, t, ht, hp, rfl⟩

/-- The tasks with a property, by place. -/
theorem exists_set_iff {t' : τ} (ht : tasks[i]? = some t) {q : ℕ → τ → Prop} :
    (∃ j s, (tasks.set i t')[j]? = some s ∧ q j s) ↔
      q i t' ∨ ∃ j s, j ≠ i ∧ tasks[j]? = some s ∧ q j s := by
  obtain ⟨hi, -⟩ := List.getElem?_eq_some_iff.mp ht
  constructor
  · rintro ⟨j, s, hs, hq⟩
    rcases eq_or_ne i j with rfl | hij
    · rw [List.getElem?_set_self hi] at hs
      obtain rfl := Option.some.inj hs
      exact .inl hq
    · rw [List.getElem?_set_ne hij] at hs
      exact .inr ⟨j, s, hij.symm, hs, hq⟩
  · rintro (hq | ⟨j, s, hij, hs, hq⟩)
    · exact ⟨i, t', List.getElem?_set_self hi, hq⟩
    · exact ⟨j, s, by rw [List.getElem?_set_ne hij.symm, hs], hq⟩

theorem exists_iff_of_getElem? (ht : tasks[i]? = some t) {q : ℕ → τ → Prop} :
    (∃ j s, tasks[j]? = some s ∧ q j s) ↔ q i t ∨ ∃ j s, j ≠ i ∧ tasks[j]? = some s ∧ q j s := by
  constructor
  · rintro ⟨j, s, hs, hq⟩
    rcases eq_or_ne j i with rfl | hij
    · rw [ht] at hs
      obtain rfl := Option.some.inj hs
      exact .inl hq
    · exact .inr ⟨j, s, hij, hs, hq⟩
  · rintro (hq | ⟨j, s, -, hs, hq⟩)
    · exact ⟨i, t, ht, hq⟩
    · exact ⟨j, s, hs, hq⟩

/-- A task that keeps a property keeps the names. -/
theorem namesWhere_set_of_eq (ht : tasks[i]? = some t) (t' : τ) (hp : p t' = p t) :
    namesWhere name p (tasks.set i t') = namesWhere name p tasks := by
  ext x
  show (∃ _ _, _) ↔ ∃ _ _, _
  rw [exists_set_iff ht, exists_iff_of_getElem? ht, hp]

/-- A task that gets a property adds its name. -/
theorem namesWhere_set_of_new (ht : tasks[i]? = some t) (t' : τ) (hp : p t = false)
    (hp' : p t' = true) :
    namesWhere name p (tasks.set i t') = insert (name i) (namesWhere name p tasks) := by
  ext x
  rw [Set.mem_insert_iff]
  show (∃ _ _, _) ↔ _ ∨ ∃ _ _, _
  rw [exists_set_iff ht, exists_iff_of_getElem? ht, hp, hp']
  simp

/-- Of the tasks that are all in one phase. -/
theorem namesWhere_eq_of_forall {q : τ → Bool} (h : ∀ s ∈ tasks, p s = q s) :
    namesWhere name p tasks = namesWhere name q tasks := by
  ext x
  constructor
  · rintro ⟨j, s, hs, hp, hx⟩
    exact ⟨j, s, hs, (h s (List.mem_of_getElem? hs)).symm.trans hp, hx⟩
  · rintro ⟨j, s, hs, hq, hx⟩
    exact ⟨j, s, hs, (h s (List.mem_of_getElem? hs)).trans hq, hx⟩

theorem namesWhere_eq_empty (h : ∀ s ∈ tasks, p s = false) : namesWhere name p tasks = ∅ := by
  ext x
  constructor
  · rintro ⟨j, s, hs, hp, -⟩
    rw [h s (List.mem_of_getElem? hs)] at hp
    cases hp
  · exact fun hx => hx.elim

end Python
