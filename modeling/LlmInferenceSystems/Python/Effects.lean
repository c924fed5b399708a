import Mathlib.Data.Int.Notation
import LlmInferenceSystems.Errors
import LlmInferenceSystems.Python.Method

/-!
# System calls that may fail

A program makes system calls one after another. Each may succeed, raise `OSError` without effect,
or find the process gone: a crash stops everything, `except` and `finally` included. Which call
meets which fate is given from outside, by the number of the call, and so are the times that the
calls leave on files.

## Main definitions

* `World`: the fate and the time of every call
* `Effect σ α`: a program over the state `σ`
* `syscall`, `tryExcept`, `tryFinally`: a call, and the two statements around them
* `CrashesInWorld`: a program that crashes where the world does
* `Post`, `Triple`: what holds when a program stops, in each of the three ways

## Main results

* `Triple.bind`, `Triple.syscall`, `Triple.tryExcept`, `Triple.tryFinally`: the rules
-/

namespace Python

/-- The fate of a call. -/
inductive Fault where
  | none
  | osError
  | crash
deriving DecidableEq

/-- Why a program stopped. -/
inductive Stop where
  | raised (error : PyError)
  | crashed
deriving DecidableEq

/-- What happens at each call of the operating system, and what each call of the clock returns. -/
structure World where
  fault : ℕ → Fault
  time : ℕ → ℤ

/-- The state, and how many calls were made. -/
structure Machine (σ : Type) where
  state : σ
  calls : ℕ

/-- A program over the state `σ`. -/
abbrev Effect (σ α : Type) := Method (Machine σ) Stop α

variable {σ α β : Type}

/-- `raise error` -/
def throwing (error : PyError) : Effect σ α := Method.raise (.raised error)

/-- The state. -/
def getState : Effect σ σ := fun m => (.ok m.state, m)

/-- An assignment to a field. -/
def setState (f : σ → σ) : Effect σ Unit := fun m => (.ok (), { m with state := f m.state })

/-- A computation without effects. -/
def compute (r : Except PyError α) : Effect σ α := Method.ofExcept (r.mapError .raised)

/-- A system call at some time; `none` is a call that cannot be made in this state. -/
def syscall (world : World) (f : ℤ → σ → Option σ) : Effect σ Unit := fun m =>
  match world.fault m.calls with
  | .none =>
    match f (world.time m.calls) m.state with
    | some state => (.ok (), ⟨state, m.calls + 1⟩)
    | none => (.error (.raised .os), ⟨m.state, m.calls + 1⟩)
  | .osError => (.error (.raised .os), ⟨m.state, m.calls + 1⟩)
  | .crash => (.error .crashed, ⟨m.state, m.calls⟩)

/-- `try: body` with an `except` clause for the exceptions it catches. -/
def tryExcept (body : Effect σ α) (catches : PyError → Bool) (handler : PyError → Effect σ α) :
    Effect σ α := fun m =>
  match body m with
  | (.error (.raised e), m') => if catches e then handler e m' else (.error (.raised e), m')
  | r => r

/-- `try: body` with a `finally` clause, which a crash does not run. -/
def tryFinally (body : Effect σ α) (cleanup : Effect σ Unit) : Effect σ α := fun m =>
  match body m with
  | (.error .crashed, m') => (.error .crashed, m')
  | (r, m') =>
    match cleanup m' with
    | (.ok (), m'') => (r, m'')
    | (.error stop, m'') => (.error stop, m'')

theorem getState_bind_apply (next : σ → Effect σ α) (m : Machine σ) :
    (getState >>= next) m = next m.state m := rfl

theorem compute_bind_of_eq {r : Except PyError β} {b : β} (h : r = .ok b)
    (next : β → Effect σ α) : (compute r >>= next) = next b := by
  rw [h]
  rfl

theorem compute_bind_apply_of_error {r : Except PyError β} {e : PyError} (h : r = .error e)
    (next : β → Effect σ α) (m : Machine σ) :
    (compute r >>= next) m = (.error (.raised e), m) := by
  rw [h]
  rfl

theorem compute_bind_eq_ok {r : Except PyError β} {next : β → Effect σ α} {m m' : Machine σ}
    {a : α} : (compute r >>= next) m = (.ok a, m') ↔ ∃ b, r = .ok b ∧ next b m = (.ok a, m') := by
  cases r with
  | error e =>
    rw [compute_bind_apply_of_error rfl]
    simp
  | ok b =>
    rw [compute_bind_of_eq rfl]
    simp

/-! ## What holds when a program stops -/

/-- What holds when a program stops: with a value, with an exception, at a crash. -/
structure Post (σ α : Type) where
  returned : α → Machine σ → Prop
  raised : PyError → Machine σ → Prop
  crashed : Machine σ → Prop

/-- What a postcondition says of one outcome. -/
def Post.Holds (post : Post σ α) : Except Stop α × Machine σ → Prop
  | (.ok a, m) => post.returned a m
  | (.error (.raised e), m) => post.raised e m
  | (.error .crashed, m) => post.crashed m

/-- However the program stops. -/
def Post.always (p : Machine σ → Prop) : Post σ α := ⟨fun _ => p, fun _ => p, p⟩

/-- Started where `pre` holds, the program stops as `post` says. -/
def Triple (pre : Machine σ → Prop) (program : Effect σ α) (post : Post σ α) : Prop :=
  ∀ m, pre m → post.Holds (program m)

namespace Triple

variable {pre pre' : Machine σ → Prop} {post post' : Post σ α} {program : Effect σ α}

theorem mono (h : Triple pre program post) (hpre : ∀ m, pre' m → pre m)
    (hreturned : ∀ a m, post.returned a m → post'.returned a m)
    (hraised : ∀ e m, post.raised e m → post'.raised e m)
    (hcrashed : ∀ m, post.crashed m → post'.crashed m) : Triple pre' program post' := by
  intro m hm
  have hpost := h m (hpre m hm)
  rcases hrun : program m with ⟨(_ | _) | a, m'⟩ <;> rw [hrun] at hpost
  · exact hraised _ _ hpost
  · exact hcrashed _ hpost
  · exact hreturned _ _ hpost

/-- What holds however the program stops holds of the machine it leaves. -/
theorem always_apply {p : Machine σ → Prop} (h : Triple pre program (.always p)) {m : Machine σ}
    (hm : pre m) : p (program m).2 := by
  have hpost := h m hm
  rcases hrun : program m with ⟨(_ | _) | a, m'⟩ <;> rw [hrun] at hpost <;> exact hpost

theorem to_always {p : Machine σ → Prop} (h : Triple pre program post)
    (hreturned : ∀ a m, post.returned a m → p m) (hraised : ∀ e m, post.raised e m → p m)
    (hcrashed : ∀ m, post.crashed m → p m) : Triple pre program (.always p) :=
  h.mono (fun _ hm => hm) hreturned hraised hcrashed

theorem of_pre (h : Triple pre program post) (hpre : ∀ m, pre' m → pre m) :
    Triple pre' program post := fun m hm => h m (hpre m hm)

/-- One machine at a time. -/
theorem of_machine (h : ∀ m, pre m → Triple (· = m) program post) : Triple pre program post :=
  fun m hm => h m hm m rfl

theorem exists_pre {ι : Type} {pre : ι → Machine σ → Prop} (h : ∀ i, Triple (pre i) program post) :
    Triple (fun m => ∃ i, pre i m) program post := fun m ⟨i, hm⟩ => h i m hm

theorem and_pre {c : Prop} (h : c → Triple pre program post) :
    Triple (fun m => c ∧ pre m) program post := fun m ⟨hc, hm⟩ => h hc m hm

/-- A program of which nothing is said. -/
theorem anything : Triple pre program ⟨fun _ _ => True, fun _ _ => True, fun _ => True⟩ := by
  intro m _
  rcases program m with ⟨(_ | _) | a, m'⟩ <;> exact True.intro

/-- A program that is never reached. -/
theorem unreachable (h : ∀ m, ¬ pre m) : Triple pre program post := fun m hm => absurd hm (h m)

theorem pure {a : α} (h : ∀ m, pre m → post.returned a m) :
    Triple pre (Pure.pure a : Effect σ α) post := h

theorem throwing {e : PyError} (h : ∀ m, pre m → post.raised e m) :
    Triple pre (Python.throwing e : Effect σ α) post := h

theorem setState {f : σ → σ} {post : Post σ Unit}
    (h : ∀ m, pre m → post.returned () { m with state := f m.state }) :
    Triple pre (Python.setState f) post := h

/-- The first part must end where the second may start. -/
theorem bind {first : Effect σ β} {second : β → Effect σ α} {mid : β → Machine σ → Prop}
    (h : Triple pre first ⟨mid, post.raised, post.crashed⟩)
    (hsecond : ∀ b, Triple (mid b) (second b) post) : Triple pre (first >>= second) post := by
  intro m hm
  have hfirst := h m hm
  rw [Method.bind_apply]
  rcases hrun : first m with ⟨(e | _) | b, m'⟩ <;> rw [hrun] at hfirst
  · exact hfirst
  · exact hfirst
  · exact hsecond b m' hfirst

/-- What both parts keep. -/
theorem bind_always {first : Effect σ β} {second : β → Effect σ α} {p : Machine σ → Prop}
    (h : Triple pre first (.always p)) (hsecond : ∀ b, Triple p (second b) (.always p)) :
    Triple pre (first >>= second) (.always p) :=
  bind (h.to_always (fun _ _ hm => hm) (fun _ _ hm => hm) fun _ hm => hm) hsecond

/-- Reading the state. -/
theorem getState_bind {next : σ → Effect σ α}
    (h : ∀ s, Triple (fun m => pre m ∧ m.state = s) (next s) post) :
    Triple pre (getState >>= next) post := fun m hm => h m.state m ⟨hm, rfl⟩

/-- Reading a state that is known. -/
theorem getState_bind_of_eq {next : σ → Effect σ α} (s : σ) (hs : ∀ m, pre m → m.state = s)
    (h : Triple pre (next s) post) : Triple pre (getState >>= next) post := by
  intro m hm
  show post.Holds (next m.state m)
  rw [hs m hm]
  exact h m hm

/-- A computation, and what follows when it returns. -/
theorem compute_bind {r : Except PyError β} {next : β → Effect σ α}
    (hraised : ∀ e, r = .error e → ∀ m, pre m → post.raised e m)
    (hnext : ∀ b, r = .ok b → Triple pre (next b) post) :
    Triple pre (compute r >>= next) post := by
  intro m hm
  cases r with
  | error e => exact hraised e rfl m hm
  | ok b => exact hnext b rfl m hm

theorem ite {c : Prop} [Decidable c] {other : Effect σ α}
    (h : c → Triple pre program post) (hother : ¬ c → Triple pre other post) :
    Triple pre (if c then program else other) post := by
  by_cases hc : c
  · rw [if_pos hc]
    exact h hc
  · rw [if_neg hc]
    exact hother hc

/-- **A call** succeeds, fails without effect, or finds the process gone. -/
theorem syscall {world : World} {f : ℤ → σ → Option σ} {post : Post σ Unit}
    (hdone : ∀ m, pre m → world.fault m.calls = .none →
      ∀ s, f (world.time m.calls) m.state = some s → post.returned () ⟨s, m.calls + 1⟩)
    (hfailed : ∀ m, pre m → world.fault m.calls = .osError ∨
      world.fault m.calls = .none ∧ f (world.time m.calls) m.state = none →
        post.raised .os ⟨m.state, m.calls + 1⟩)
    (hcrashed : ∀ m, pre m → world.fault m.calls = .crash → post.crashed m) :
    Triple pre (Python.syscall world f) post := by
  intro m hm
  unfold Python.syscall
  cases hfault : world.fault m.calls with
  | none =>
    cases hcall : f (world.time m.calls) m.state with
    | none => exact hfailed m hm (.inr ⟨hfault, hcall⟩)
    | some s => exact hdone m hm hfault s hcall
  | osError => exact hfailed m hm (.inl hfault)
  | crash => exact hcrashed m hm hfault

/-- An `except` clause sees the state the exception left. -/
theorem tryExcept {body : Effect σ α} {catches : PyError → Bool}
    {handler : PyError → Effect σ α} {raised : PyError → Machine σ → Prop}
    (h : Triple pre body ⟨post.returned, raised, post.crashed⟩)
    (hpassed : ∀ e m, catches e = false → raised e m → post.raised e m)
    (hhandler : ∀ e, catches e = true → Triple (raised e) (handler e) post) :
    Triple pre (Python.tryExcept body catches handler) post := by
  intro m hm
  have hbody := h m hm
  unfold Python.tryExcept
  rcases hrun : body m with ⟨(e | _) | a, m'⟩ <;> rw [hrun] at hbody
  · cases hcatches : catches e with
    | true =>
      simp only [hcatches, if_true]
      exact hhandler e hcatches m' hbody
    | false =>
      simp only [hcatches, Bool.false_eq_true, if_false]
      exact hpassed e m' hcatches hbody
  · exact hbody
  · exact hbody

/-- A `finally` clause runs after a value and after an exception, not after a crash. -/
theorem tryFinally {body : Effect σ α} {cleanup : Effect σ Unit} {mid : Post σ α}
    (h : Triple pre body mid)
    (hreturned : ∀ a, Triple (mid.returned a) cleanup
      ⟨fun _ => post.returned a, post.raised, post.crashed⟩)
    (hraised : ∀ e, Triple (mid.raised e) cleanup
      ⟨fun _ => post.raised e, post.raised, post.crashed⟩)
    (hcrashed : ∀ m, mid.crashed m → post.crashed m) :
    Triple pre (Python.tryFinally body cleanup) post := by
  intro m hm
  have hbody := h m hm
  unfold Python.tryFinally
  rcases hrun : body m with ⟨(e | _) | a, m'⟩ <;> rw [hrun] at hbody
  · have hclean := hraised e m' hbody
    rcases hcleanup : cleanup m' with ⟨(e' | _) | u, m''⟩ <;> rw [hcleanup] at hclean <;>
      simp only [hcleanup]
    · exact hclean
    · exact hclean
    · exact hclean
  · exact hcrashed m' hbody
  · have hclean := hreturned a m' hbody
    rcases hcleanup : cleanup m' with ⟨(e' | _) | u, m''⟩ <;> rw [hcleanup] at hclean <;>
      simp only [hcleanup]
    · exact hclean
    · exact hclean
    · exact hclean

/-- Two things hold when the program stops. -/
theorem conj (h : Triple pre program post) (h' : Triple pre' program post') :
    Triple (fun m => pre m ∧ pre' m) program
      { returned := fun a m => post.returned a m ∧ post'.returned a m
        raised := fun e m => post.raised e m ∧ post'.raised e m
        crashed := fun m => post.crashed m ∧ post'.crashed m } := by
  intro m hm
  have hpost := h m hm.1
  have hpost' := h' m hm.2
  rcases hrun : program m with ⟨(_ | _) | a, m'⟩ <;> rw [hrun] at hpost hpost'
  · exact ⟨hpost, hpost'⟩
  · exact ⟨hpost, hpost'⟩
  · exact ⟨hpost, hpost'⟩

/-- A run that returned. -/
theorem returned_of (h : Triple pre program post) {m m' : Machine σ} {a : α} (hm : pre m)
    (hrun : program m = (.ok a, m')) : post.returned a m' := by
  have hpost := h m hm
  rwa [hrun] at hpost

/-- A program that can only raise. -/
theorem exists_raised {raised : PyError → Machine σ → Prop}
    (h : Triple pre program ⟨fun _ _ => False, raised, fun _ => False⟩) {m : Machine σ}
    (hm : pre m) : ∃ e m', program m = (.error (.raised e), m') ∧ raised e m' := by
  have hpost := h m hm
  rcases hrun : program m with ⟨(e | _) | a, m'⟩ <;> rw [hrun] at hpost
  · exact ⟨e, m', rfl, hpost⟩
  · exact absurd hpost id
  · exact absurd hpost id

/-- A run that ended in a crash. -/
theorem crashed_of (h : Triple pre program post) {m m' : Machine σ} (hm : pre m)
    (hrun : program m = (.error .crashed, m')) : post.crashed m' := by
  have hpost := h m hm
  rwa [hrun] at hpost

end Triple

-- a program under a triple is not to be run when the triple is matched against a rule
attribute [irreducible] Triple

/-! ## Crashes -/

/-- No call from the `start`th on was to crash, as far as calls were made. -/
def World.Passed (world : World) (start : ℕ) (m : Machine σ) : Prop :=
  start ≤ m.calls ∧ ∀ n, start ≤ n → n < m.calls → world.fault n ≠ .crash

/-- The program passes no crash, and crashes where the world does. -/
def CrashesInWorld (world : World) (program : Effect σ α) : Prop :=
  ∀ start, Triple (world.Passed start) program
    { returned := fun _ => world.Passed start
      raised := fun _ => world.Passed start
      crashed := fun m => start ≤ m.calls ∧ world.fault m.calls = .crash }

namespace CrashesInWorld

variable {world : World}

theorem pure (a : α) : CrashesInWorld world (Pure.pure a : Effect σ α) :=
  fun _ => Triple.pure fun _ hm => hm

theorem throwing (e : PyError) : CrashesInWorld world (Python.throwing e : Effect σ α) :=
  fun _ => Triple.throwing fun _ hm => hm

theorem setState (f : σ → σ) : CrashesInWorld world (Python.setState f) :=
  fun _ => Triple.setState fun _ hm => hm

theorem bind {first : Effect σ β} {second : β → Effect σ α} (h : CrashesInWorld world first)
    (hsecond : ∀ b, CrashesInWorld world (second b)) : CrashesInWorld world (first >>= second) :=
  fun start => Triple.bind (h start) fun b => hsecond b start

theorem getState_bind {next : σ → Effect σ α} (h : ∀ s, CrashesInWorld world (next s)) :
    CrashesInWorld world (getState >>= next) :=
  fun start => Triple.getState_bind fun s => Triple.of_pre (h s start) fun _ hm => hm.1

theorem compute_bind {r : Except PyError β} {next : β → Effect σ α}
    (h : ∀ b, CrashesInWorld world (next b)) : CrashesInWorld world (compute r >>= next) :=
  fun start => Triple.compute_bind (fun _ _ _ hm => hm) fun b _ => h b start

theorem ite {c : Prop} [Decidable c] {program other : Effect σ α}
    (h : CrashesInWorld world program) (hother : CrashesInWorld world other) :
    CrashesInWorld world (if c then program else other) :=
  fun start => Triple.ite (fun _ => h start) fun _ => hother start

theorem syscall (f : ℤ → σ → Option σ) : CrashesInWorld world (Python.syscall world f) := by
  intro start
  have hpassed : ∀ (m m' : Machine σ), world.Passed start m → world.fault m.calls ≠ .crash →
      m'.calls = m.calls + 1 → world.Passed start m' := by
    rintro m m' ⟨hstart, hbefore⟩ hfault hcalls
    refine ⟨by omega, fun n hle hlt => ?_⟩
    rw [hcalls] at hlt
    rcases Nat.lt_succ_iff_lt_or_eq.mp hlt with hlt | rfl
    · exact hbefore n hle hlt
    · exact hfault
  apply Triple.syscall
  · intro m hm hfault s _
    exact hpassed m _ hm (by simp [hfault]) rfl
  · intro m hm hreason
    refine hpassed m _ hm ?_ rfl
    rcases hreason with hfault | ⟨hfault, -⟩
    · simp [hfault]
    · simp [hfault]
  · intro m hm hfault
    exact ⟨hm.1, hfault⟩

theorem tryFinally {body : Effect σ α} {cleanup : Effect σ Unit}
    (h : CrashesInWorld world body) (hcleanup : CrashesInWorld world cleanup) :
    CrashesInWorld world (Python.tryFinally body cleanup) :=
  fun start => Triple.tryFinally (h start) (fun _ => hcleanup start) (fun _ => hcleanup start)
    fun _ hm => hm

/-- A triple, with what is known of crashes. -/
theorem triple {program : Effect σ α} {post : Post σ α} {m₀ : Machine σ}
    (hcrashes : CrashesInWorld world program) (h : Triple (· = m₀) program post) :
    Triple (· = m₀) program
      { returned := fun a m => post.returned a m ∧ world.Passed m₀.calls m
        raised := fun e m => post.raised e m ∧ world.Passed m₀.calls m
        crashed := fun m => post.crashed m ∧ m₀.calls ≤ m.calls ∧
          world.fault m.calls = .crash } := by
  refine Triple.of_pre (h.conj (hcrashes m₀.calls)) ?_
  rintro m rfl
  exact ⟨rfl, Nat.le_refl _, fun n hle hlt => absurd hlt (Nat.not_lt.mpr hle)⟩

end CrashesInWorld

end Python
