import Mathlib.Data.List.Induction

/-!
# Methods of an object

A method call may assign fields and then raise: the assignments made before the exception stay.
A call is therefore a function from the object's state to a result *and* a state, also when the
result is an exception. Callers may go on calling after an exception, so two kinds of run are
defined: all the calls, whatever they raise, and the calls of a run in which none raises.

## Main definitions

* `Method σ ε α`: a call on an object with state `σ`
* `stateAfter`: the state after some calls, raising ones included
* `accepted`: the state after some calls of which none raises

## Main results

* `Method.Keeps.stateAfter`: what every call keeps, every run keeps
* `accepted_append`, `accepted_invariant`: a run without exceptions, part by part, and the
  invariant rule for it
-/

namespace Python

/-- A call on an object with state `σ`, raising exceptions `ε`. -/
def Method (σ ε α : Type) := σ → Except ε α × σ

variable {σ τ ε ε' α β κ : Type}

namespace Method

instance : Monad (Method σ ε) where
  pure a := fun s => (.ok a, s)
  bind m f := fun s =>
    match m s with
    | (.ok a, s') => f a s'
    | (.error e, s') => (.error e, s')

/-- `raise error` -/
def raise (error : ε) : Method σ ε α := fun s => (.error error, s)

/-- The object itself. -/
def self : Method σ ε σ := fun s => (.ok s, s)

/-- Assignments to fields. -/
def assign (f : σ → σ) : Method σ ε Unit := fun s => (.ok (), f s)

/-- A computation that touches no field. -/
def ofExcept (r : Except ε α) : Method σ ε α := fun s => (r, s)

/-- A call on an object held in a field, with `except E as error: raise F(error)` around it. -/
def onField (get : σ → τ) (set : τ → σ → σ) (wrap : ε' → ε) (m : Method τ ε' α) :
    Method σ ε α := fun s =>
  match m (get s) with
  | (.ok a, t) => (.ok a, set t s)
  | (.error e, t) => (.error (wrap e), set t s)

@[simp] theorem pure_apply (a : α) (s : σ) : (pure a : Method σ ε α) s = (.ok a, s) := rfl

@[simp] theorem raise_apply (e : ε) (s : σ) : (raise e : Method σ ε α) s = (.error e, s) := rfl

@[simp] theorem self_apply (s : σ) : (self : Method σ ε σ) s = (.ok s, s) := rfl

@[simp] theorem assign_apply (f : σ → σ) (s : σ) :
    (assign f : Method σ ε Unit) s = (.ok (), f s) := rfl

@[simp] theorem ofExcept_apply (r : Except ε α) (s : σ) :
    (ofExcept r : Method σ ε α) s = (r, s) := rfl

theorem bind_apply (m : Method σ ε α) (f : α → Method σ ε β) (s : σ) :
    (m >>= f) s =
      match m s with
      | (.ok a, s') => f a s'
      | (.error e, s') => (.error e, s') := rfl

theorem bind_ok {m : Method σ ε α} {f : α → Method σ ε β} {s s' : σ} {a : α}
    (h : m s = (.ok a, s')) : (m >>= f) s = f a s' := by
  rw [bind_apply, h]

theorem bind_error {m : Method σ ε α} {f : α → Method σ ε β} {s s' : σ} {e : ε}
    (h : m s = (.error e, s')) : (m >>= f) s = (.error e, s') := by
  rw [bind_apply, h]

/-- A sequence returns when both parts return. -/
theorem bind_eq_ok {m : Method σ ε α} {f : α → Method σ ε β} {s s' : σ} {b : β} :
    (m >>= f) s = (.ok b, s') ↔ ∃ a t, m s = (.ok a, t) ∧ f a t = (.ok b, s') := by
  rw [bind_apply]
  rcases m s with ⟨e | a, t⟩ <;> simp

/-- A raise under a condition. -/
theorem guard_eq_ok {c : Prop} [Decidable c] {e : ε} {m : Method σ ε α} {s s' : σ} {a : α} :
    (if c then raise e else m) s = (.ok a, s') ↔ ¬ c ∧ m s = (.ok a, s') := by
  by_cases hc : c <;> simp [hc]

theorem self_bind (f : σ → Method σ ε β) (s : σ) : (self >>= f) s = f s s := rfl

theorem assign_bind (f : σ → σ) (g : Unit → Method σ ε β) (s : σ) :
    (assign f >>= g) s = g () (f s) := rfl

theorem ofExcept_bind_eq_ok {r : Except ε α} {f : α → Method σ ε β} {s s' : σ} {b : β} :
    (ofExcept r >>= f) s = (.ok b, s') ↔ ∃ a, r = .ok a ∧ f a s = (.ok b, s') := by
  rw [bind_apply, ofExcept_apply]
  cases r <;> simp

theorem onField_eq_ok {get : σ → τ} {set : τ → σ → σ} {wrap : ε' → ε} {m : Method τ ε' α}
    {s s' : σ} {a : α} :
    onField get set wrap m s = (.ok a, s') ↔ ∃ t, m (get s) = (.ok a, t) ∧ s' = set t s := by
  rw [onField]
  rcases m (get s) with ⟨e | b, t⟩
  · simp
  · simp only [Prod.mk.injEq, Except.ok.injEq]
    constructor
    · rintro ⟨rfl, rfl⟩
      exact ⟨t, ⟨rfl, rfl⟩, rfl⟩
    · rintro ⟨_, ⟨rfl, rfl⟩, rfl⟩
      exact ⟨rfl, rfl⟩

/-- A call of which the result is seen. -/
theorem eq_mk_snd {m : Method σ ε α} {s : σ} {r : Except ε α} (h : (m s).1 = r) :
    m s = (r, (m s).2) := by
  rw [← h]

/-- The method leaves `I` true, raising or not. -/
def Keeps (I : σ → Prop) (m : Method σ ε α) : Prop := ∀ s, I s → I (m s).2

theorem keeps_pure (I : σ → Prop) (a : α) : Keeps I (pure a : Method σ ε α) := fun _ h => h

theorem keeps_raise (I : σ → Prop) (e : ε) : Keeps I (raise e : Method σ ε α) := fun _ h => h

theorem keeps_self (I : σ → Prop) : Keeps I (self : Method σ ε σ) := fun _ h => h

theorem keeps_ofExcept (I : σ → Prop) (r : Except ε α) :
    Keeps I (ofExcept r : Method σ ε α) := fun _ h => h

theorem keeps_assign {I : σ → Prop} {f : σ → σ} (h : ∀ s, I s → I (f s)) :
    Keeps I (assign f : Method σ ε Unit) := h

theorem Keeps.ite {I : σ → Prop} {c : Prop} [Decidable c] {m m' : Method σ ε α} (hm : Keeps I m)
    (hm' : Keeps I m') : Keeps I (if c then m else m') := by
  split
  · exact hm
  · exact hm'

theorem Keeps.bind {I : σ → Prop} {m : Method σ ε α} {f : α → Method σ ε β} (hm : Keeps I m)
    (hf : ∀ a, Keeps I (f a)) : Keeps I (m >>= f) := by
  intro s hs
  have h := hm s hs
  rw [bind_apply]
  rcases hms : m s with ⟨e | a, t⟩ <;> rw [hms] at h
  · exact h
  · exact hf a t h

end Method

/-! ## Runs -/

/-- The state after some calls, whatever they raised. -/
def stateAfter (call : κ → Method σ ε α) (s : σ) : List κ → σ
  | [] => s
  | k :: ks => stateAfter call (call k s).2 ks

theorem stateAfter_append (call : κ → Method σ ε α) (s : σ) (ks ls : List κ) :
    stateAfter call s (ks ++ ls) = stateAfter call (stateAfter call s ks) ls := by
  induction ks generalizing s with
  | nil => rfl
  | cons k ks ih => exact ih (call k s).2

/-- What every call keeps, every run keeps. -/
theorem Method.Keeps.stateAfter {I : σ → Prop} {call : κ → Method σ ε α}
    (h : ∀ k, Method.Keeps I (call k)) {s : σ} (hs : I s) (ks : List κ) :
    I (Python.stateAfter call s ks) := by
  induction ks generalizing s with
  | nil => exact hs
  | cons k ks ih => exact ih (h k s hs)

/-- The state after some calls of which none raises. -/
def accepted (call : κ → Method σ ε α) (s : σ) : List κ → Option σ
  | [] => some s
  | k :: ks =>
    match call k s with
    | (.ok _, s') => accepted call s' ks
    | (.error _, _) => none

theorem accepted_cons {call : κ → Method σ ε α} {s t : σ} {k : κ} {ks : List κ} :
    accepted call s (k :: ks) = some t ↔
      ∃ a s', call k s = (.ok a, s') ∧ accepted call s' ks = some t := by
  rw [accepted]
  rcases call k s with ⟨e | a, s'⟩ <;> simp

theorem accepted_append {call : κ → Method σ ε α} {s u : σ} {ks ls : List κ} :
    accepted call s (ks ++ ls) = some u ↔
      ∃ t, accepted call s ks = some t ∧ accepted call t ls = some u := by
  induction ks generalizing s with
  | nil => simp [accepted]
  | cons k ks ih =>
    rw [List.cons_append, accepted_cons]
    simp only [ih, accepted_cons]
    constructor
    · rintro ⟨a, s', hk, t, ht, hu⟩
      exact ⟨t, ⟨a, s', hk, ht⟩, hu⟩
    · rintro ⟨t, ⟨a, s', hk, ht⟩, hu⟩
      exact ⟨a, s', hk, t, ht, hu⟩

theorem accepted_concat {call : κ → Method σ ε α} {s u : σ} {ks : List κ} {k : κ} :
    accepted call s (ks ++ [k]) = some u ↔
      ∃ t a, accepted call s ks = some t ∧ call k t = (.ok a, u) := by
  rw [accepted_append]
  constructor
  · rintro ⟨t, ht, hk⟩
    obtain ⟨a, s', hcall, hnil⟩ := accepted_cons.mp hk
    obtain rfl : s' = u := by simpa [accepted] using hnil
    exact ⟨t, a, ht, hcall⟩
  · rintro ⟨t, a, ht, hk⟩
    exact ⟨t, ht, accepted_cons.mpr ⟨a, u, hk, rfl⟩⟩

/-- A run without exceptions is a run. -/
theorem stateAfter_of_accepted {call : κ → Method σ ε α} {s t : σ} {ks : List κ}
    (h : accepted call s ks = some t) : stateAfter call s ks = t := by
  induction ks generalizing s with
  | nil => simpa [accepted, stateAfter] using h
  | cons k ks ih =>
    obtain ⟨a, s', hk, h'⟩ := accepted_cons.mp h
    rw [stateAfter, hk]
    exact ih h'

/-- The invariant rule: `I` relates the calls made so far and the state they lead to. -/
theorem accepted_invariant {call : κ → Method σ ε α} {s t : σ} {ks : List κ}
    (I : List κ → σ → Prop) (start : I [] s)
    (step : ∀ done u k a v, I done u → call k u = (.ok a, v) → I (done ++ [k]) v)
    (h : accepted call s ks = some t) : I ks t := by
  induction ks using List.reverseRecOn generalizing t with
  | nil =>
    obtain rfl : s = t := by simpa [accepted] using h
    exact start
  | append_singleton ks k ih =>
    obtain ⟨u, a, hu, hk⟩ := accepted_concat.mp h
    exact step ks u k a t (ih hu) hk

end Python
