import Mathlib.Data.List.Forall2
import Mathlib.Data.List.Perm.Basic
import LlmInferenceSystems.Errors

/-!
# Checks that may raise

`or`, indexing at either end, strict `zip` and loops whose steps may raise.

## Main definitions

* `anyOf`: `a or b or …`, evaluated from the left up to the first that holds or raises
* `first`, `last`: `xs[0]` and `xs[-1]`
* `anyZip`: `any(p(x, y) for x, y in zip(xs, ys, strict=True))`
* `each`, `collect`: a loop, and a comprehension
* `Returns`, `RaisesOnly`: a call that returns, and one whose exceptions are all of some class

## Main results

* `anyOf_eq_false`, `anyZip_eq_false`, `each_eq_ok`, `collect_eq_ok`: what it means that none holds
  and none raises
* `Returns.anyOf`, `RaisesOnly.bind`: how calls that return, or raise one class only, compose
-/

namespace Python

variable {α β : Type}

/-- `a or b or …` -/
def anyOf : List (Except PyError Bool) → Except PyError Bool
  | [] => .ok false
  | .ok false :: checks => anyOf checks
  | .ok true :: _ => .ok true
  | .error e :: _ => .error e

/-- `xs[0]` -/
def first : List α → Except PyError α
  | [] => .error .index
  | x :: _ => .ok x

/-- `xs[-1]` -/
def last (xs : List α) : Except PyError α :=
  match xs.getLast? with
  | none => .error .index
  | some x => .ok x

/-- `any(p(x, y) for x, y in zip(xs, ys, strict=True))` -/
def anyZip (p : α → β → Bool) : List α → List β → Except PyError Bool
  | [], [] => .ok false
  | x :: xs, y :: ys => if p x y then .ok true else anyZip p xs ys
  | [], _ :: _ => .error (.value "zip() argument 2 is longer than argument 1")
  | _ :: _, [] => .error (.value "zip() argument 2 is shorter than argument 1")

/-- `for x in xs: f(x)` -/
def each (f : α → Except PyError Unit) : List α → Except PyError Unit
  | [] => .ok ()
  | x :: xs =>
    match f x with
    | .error e => .error e
    | .ok () => each f xs

/-- `tuple(f(x) for x in xs)` -/
def collect (f : α → Except PyError β) : List α → Except PyError (List β)
  | [] => .ok []
  | x :: xs =>
    match f x with
    | .error e => .error e
    | .ok y =>
      match collect f xs with
      | .error e => .error e
      | .ok ys => .ok (y :: ys)

/-! ## Related lists -/

theorem exists_of_forall₂_mem {r : α → β → Prop} {xs : List α} {ys : List β}
    (h : List.Forall₂ r xs ys) {y : β} (hy : y ∈ ys) : ∃ x ∈ xs, r x y := by
  induction h with
  | nil => simp at hy
  | cons hxy _ ih =>
    rcases List.mem_cons.mp hy with rfl | hy
    · exact ⟨_, by simp, hxy⟩
    · obtain ⟨x, hx, hr⟩ := ih hy
      exact ⟨x, by simp [hx], hr⟩

theorem forall₂_imp_of_mem {r r' : α → β → Prop} {xs : List α} {ys : List β}
    (h : List.Forall₂ r xs ys) (himp : ∀ x ∈ xs, ∀ y, r x y → r' x y) : List.Forall₂ r' xs ys := by
  induction h with
  | nil => exact .nil
  | cons hxy _ ih =>
    exact .cons (himp _ (by simp) _ hxy) (ih fun x hx => himp x (List.mem_cons_of_mem _ hx))

theorem exists_forall₂ {r : α → β → Prop} {xs : List α} (h : ∀ x ∈ xs, ∃ y, r x y) :
    ∃ ys, List.Forall₂ r xs ys := by
  induction xs with
  | nil => exact ⟨[], .nil⟩
  | cons x xs ih =>
    obtain ⟨⟨y, hy⟩, hxs⟩ := List.forall_mem_cons.mp h
    obtain ⟨ys, hys⟩ := ih hxs
    exact ⟨y :: ys, .cons hy hys⟩

/-- Two lists related to a third are related to each other. -/
theorem forall₂_of_common {γ : Type} {r : α → β → Prop} {s : α → γ → Prop} {t : β → γ → Prop}
    {xs : List α} {ys : List β} {zs : List γ} (hr : List.Forall₂ r xs ys)
    (hs : List.Forall₂ s xs zs) (h : ∀ x ∈ xs, ∀ y z, r x y → s x z → t y z) :
    List.Forall₂ t ys zs := by
  induction hr generalizing zs with
  | nil =>
    cases hs
    exact .nil
  | cons hxy _ ih =>
    cases hs with
    | cons hxz hrest =>
      exact .cons (h _ (by simp) _ _ hxy hxz)
        (ih hrest fun x hx => h x (List.mem_cons_of_mem _ hx))

/-! ## None holds and none raises -/

@[simp] theorem anyOf_nil : anyOf [] = .ok false := rfl

@[simp] theorem anyOf_cons_eq_false {check : Except PyError Bool}
    {checks : List (Except PyError Bool)} :
    anyOf (check :: checks) = .ok false ↔ check = .ok false ∧ anyOf checks = .ok false := by
  rcases check with e | (_ | _) <;> simp [anyOf]

theorem anyOf_eq_false {checks : List (Except PyError Bool)} :
    anyOf checks = .ok false ↔ ∀ check ∈ checks, check = .ok false := by
  induction checks with
  | nil => simp
  | cons check checks ih => rw [anyOf_cons_eq_false, ih, List.forall_mem_cons]

theorem first_eq_ok {xs : List α} {x : α} : first xs = .ok x ↔ xs.head? = some x := by
  cases xs <;> simp [first]

theorem last_eq_ok {xs : List α} {x : α} : last xs = .ok x ↔ xs.getLast? = some x := by
  rw [last]
  cases xs.getLast? <;> simp

theorem anyZip_eq_false {p : α → β → Bool} {xs : List α} {ys : List β} :
    anyZip p xs ys = .ok false ↔ List.Forall₂ (fun x y => p x y = false) xs ys := by
  induction xs generalizing ys with
  | nil => cases ys <;> simp [anyZip]
  | cons x xs ih =>
    cases ys with
    | nil => simp [anyZip]
    | cons y ys =>
      rw [anyZip, List.forall₂_cons, ← ih]
      cases p x y <;> simp

theorem each_eq_ok {f : α → Except PyError Unit} {xs : List α} :
    each f xs = .ok () ↔ ∀ x ∈ xs, f x = .ok () := by
  induction xs with
  | nil => simp [each]
  | cons x xs ih =>
    rw [each, List.forall_mem_cons, ← ih]
    cases f x <;> simp

theorem collect_eq_ok {f : α → Except PyError β} {xs : List α} {ys : List β} :
    collect f xs = .ok ys ↔ List.Forall₂ (fun x y => f x = .ok y) xs ys := by
  induction xs generalizing ys with
  | nil => cases ys <;> simp [collect]
  | cons x xs ih =>
    rw [collect]
    cases hx : f x with
    | error e => cases ys <;> simp [hx]
    | ok y =>
      cases hxs : collect f xs with
      | error e => cases ys <;> simp [hx, ← ih, hxs]
      | ok zs => cases ys <;> simp [hx, ← ih, hxs]

/-- The results of a comprehension come in the order of the sequence. -/
theorem collect_perm {f : α → Except PyError β} {xs xs' : List α} {ys : List β}
    (hperm : xs.Perm xs') (h : collect f xs = .ok ys) :
    ∃ ys', collect f xs' = .ok ys' ∧ ys.Perm ys' := by
  obtain ⟨ys', hys', hyperm⟩ := List.perm_comp_forall₂ hperm.symm (collect_eq_ok.mp h)
  exact ⟨ys', collect_eq_ok.mpr hys', hyperm.symm⟩

/-- Each result of a loop comes from an item. -/
theorem exists_of_mapM_eq_some {α β : Type} {f : α → Option β} {xs : List α} {ys : List β}
    (h : xs.mapM f = some ys) {y : β} (hy : y ∈ ys) : ∃ x ∈ xs, f x = some y := by
  induction xs generalizing ys with
  | nil =>
    obtain rfl := Option.some.inj h
    exact absurd hy List.not_mem_nil
  | cons x xs ih =>
    rw [List.mapM_cons] at h
    obtain ⟨z, hz, h⟩ := Option.bind_eq_some_iff.mp h
    obtain ⟨zs, hzs, h⟩ := Option.bind_eq_some_iff.mp h
    obtain rfl := Option.some.inj h
    rcases List.mem_cons.mp hy with rfl | hy
    · exact ⟨x, List.mem_cons_self, hz⟩
    · obtain ⟨x', hx', hy⟩ := ih hzs hy
      exact ⟨x', List.mem_cons_of_mem _ hx', hy⟩

/-! ## What a call raises -/

/-- The call returns. -/
def Returns (call : Except PyError α) : Prop := ∃ a, call = .ok a

/-- Every exception of the call is of a class. -/
def RaisesOnly (caught : PyError → Bool) (call : Except PyError α) : Prop :=
  ∀ e, call = .error e → caught e = true

theorem returns_ok (a : α) : Returns (.ok a) := ⟨a, rfl⟩

theorem Returns.bind {call : Except PyError α} {f : α → Except PyError β} (h : Returns call)
    (hf : ∀ a, call = .ok a → Returns (f a)) : Returns (call >>= f) := by
  obtain ⟨a, rfl⟩ := h
  exact hf a rfl

theorem Returns.first {xs : List α} (h : xs ≠ []) : Returns (Python.first xs) := by
  obtain ⟨x, hx⟩ := Option.ne_none_iff_exists'.mp (mt List.head?_eq_none_iff.mp h)
  exact ⟨x, first_eq_ok.mpr hx⟩

theorem Returns.last {xs : List α} (h : xs ≠ []) : Returns (Python.last xs) := by
  obtain ⟨x, hx⟩ := Option.ne_none_iff_exists'.mp (mt List.getLast?_eq_none_iff.mp h)
  exact ⟨x, last_eq_ok.mpr hx⟩

/-- An alternative is evaluated only if those before it do not hold. -/
theorem Returns.anyOf_cons {check : Except PyError Bool} {checks : List (Except PyError Bool)}
    (h : Returns check) (hrest : check = .ok false → Returns (anyOf checks)) :
    Returns (anyOf (check :: checks)) := by
  obtain ⟨b, rfl⟩ := h
  cases b with
  | false => exact hrest rfl
  | true => exact returns_ok true

theorem Returns.anyOf {checks : List (Except PyError Bool)} (h : ∀ check ∈ checks, Returns check) :
    Returns (anyOf checks) := by
  induction checks with
  | nil => exact returns_ok false
  | cons check checks ih =>
    obtain ⟨hcheck, hchecks⟩ := List.forall_mem_cons.mp h
    exact Returns.anyOf_cons hcheck fun _ => ih hchecks

theorem Returns.anyZip {p : α → β → Bool} {xs : List α} {ys : List β}
    (h : xs.length = ys.length) : Returns (anyZip p xs ys) := by
  induction xs generalizing ys with
  | nil =>
    obtain rfl := List.length_eq_zero_iff.mp h.symm
    exact returns_ok false
  | cons x xs ih =>
    obtain ⟨y, ys, rfl⟩ := List.exists_cons_of_length_eq_add_one h.symm
    rw [Python.anyZip]
    split
    · exact returns_ok true
    · exact ih (by simpa using h)

theorem Returns.collect {f : α → Except PyError β} {xs : List α} (h : ∀ x ∈ xs, Returns (f x)) :
    Returns (collect f xs) := by
  obtain ⟨ys, hys⟩ := exists_forall₂ h
  exact ⟨ys, collect_eq_ok.mpr hys⟩

variable {caught : PyError → Bool}

theorem Returns.raisesOnly {call : Except PyError α} (h : Returns call) :
    RaisesOnly caught call := by
  obtain ⟨a, rfl⟩ := h
  intro e he
  simp at he

theorem RaisesOnly.mono {caught' : PyError → Bool} {call : Except PyError α}
    (h : RaisesOnly caught call) (himp : ∀ e, caught e = true → caught' e = true) :
    RaisesOnly caught' call :=
  fun e he => himp e (h e he)

theorem raisesOnly_error {e : PyError} (h : caught e = true) :
    RaisesOnly caught (.error e : Except PyError α) := by
  rintro _ ⟨⟩
  exact h

theorem RaisesOnly.bind {call : Except PyError α} {f : α → Except PyError β}
    (h : RaisesOnly caught call) (hf : ∀ a, call = .ok a → RaisesOnly caught (f a)) :
    RaisesOnly caught (call >>= f) := by
  cases call with
  | error e =>
    rintro _ ⟨⟩
    exact h e rfl
  | ok a => exact hf a rfl

theorem RaisesOnly.map {call : Except PyError α} {f : α → β} (h : RaisesOnly caught call) :
    RaisesOnly caught (call.map f) := by
  cases call with
  | error e =>
    rintro _ ⟨⟩
    exact h e rfl
  | ok a => exact (returns_ok (f a)).raisesOnly

theorem RaisesOnly.anyOf {checks : List (Except PyError Bool)}
    (h : ∀ check ∈ checks, RaisesOnly caught check) : RaisesOnly caught (anyOf checks) := by
  induction checks with
  | nil => exact (returns_ok false).raisesOnly
  | cons check checks ih =>
    obtain ⟨hcheck, hchecks⟩ := List.forall_mem_cons.mp h
    rcases check with e | (_ | _)
    · exact raisesOnly_error (hcheck e rfl)
    · exact ih hchecks
    · exact (returns_ok true).raisesOnly

theorem RaisesOnly.each {f : α → Except PyError Unit} {xs : List α}
    (h : ∀ x ∈ xs, RaisesOnly caught (f x)) : RaisesOnly caught (each f xs) := by
  induction xs with
  | nil => exact (returns_ok ()).raisesOnly
  | cons x xs ih =>
    obtain ⟨hx, hxs⟩ := List.forall_mem_cons.mp h
    rw [Python.each]
    split
    · next e he => exact raisesOnly_error (hx e he)
    · exact ih hxs

theorem RaisesOnly.collect {f : α → Except PyError β} {xs : List α}
    (h : ∀ x ∈ xs, RaisesOnly caught (f x)) : RaisesOnly caught (collect f xs) := by
  induction xs with
  | nil => exact (returns_ok []).raisesOnly
  | cons x xs ih =>
    obtain ⟨hx, hxs⟩ := List.forall_mem_cons.mp h
    rw [Python.collect]
    split
    · next e he => exact raisesOnly_error (hx e he)
    · split
      · next e he => exact raisesOnly_error (ih hxs e he)
      · exact (returns_ok _).raisesOnly

end Python
