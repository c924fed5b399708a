/-!
# Exceptions

The exceptions the modelled code raises or lets through, by class, with the message where the
code writes one.

## Main definitions

* `PyError`: the exceptions
* `PyError.isValueError`, `PyError.isStage2Protocol`, `PyError.isStage2Bundle`,
  `PyError.isPrometheusProtocol`: what an `except` clause catches
-/

/-- An exception, with what the code reads of it. -/
inductive PyError where
  /-- `Stage2ProtocolError` -/
  | stage2Protocol (message : String)
  /-- `PrometheusProtocolError` -/
  | prometheusProtocol (message : String)
  /-- `Stage2ExperimentError` -/
  | stage2Experiment (message : String)
  /-- `Stage2ControlError` -/
  | stage2Control (message : String)
  /-- `Stage2BundleError` -/
  | stage2Bundle (message : String)
  /-- pydantic's `ValidationError` -/
  | validation (message : String)
  /-- `ValueError` itself -/
  | value (message : String)
  | unicodeEncode
  /-- `OSError` -/
  | os
  | overflow
  | zeroDivision
  | recursion
  | index
  | key
  | type
deriving DecidableEq

namespace PyError

/-- The classes under `ValueError`. -/
def isValueError : PyError → Bool
  | stage2Protocol _ | prometheusProtocol _ | stage2Experiment _ | stage2Control _ => true
  | stage2Bundle _ | validation _ | value _ | unicodeEncode => true
  | os | overflow | zeroDivision | recursion | index | key | type => false

/-- What `except Stage2ProtocolError` catches. -/
def isStage2Protocol : PyError → Bool
  | stage2Protocol _ => true
  | _ => false

/-- What `except Stage2BundleError` catches. -/
def isStage2Bundle : PyError → Bool
  | stage2Bundle _ => true
  | _ => false

/-- What `except PrometheusProtocolError` catches. -/
def isPrometheusProtocol : PyError → Bool
  | prometheusProtocol _ => true
  | _ => false

end PyError

/-- A call that is seen to return something with a property. -/
theorem exists_eq_ok {ε α : Type} {x : Except ε α} {p : α → Prop} [DecidablePred p]
    (h : x.toOption.any (fun a => decide (p a)) = true) : ∃ a, x = .ok a ∧ p a := by
  cases x with
  | error e => simp [Except.toOption] at h
  | ok a => exact ⟨a, rfl, by simpa [Except.toOption] using h⟩

theorem ok_of_toOption {ε α : Type} {x : Except ε α} {a : α} (h : x.toOption = some a) :
    x = .ok a := by
  cases x with
  | error e => simp [Except.toOption] at h
  | ok b => simpa [Except.toOption] using h

/-- A run that is seen to end with a property. -/
theorem exists_eq_some {α : Type} {x : Option α} {p : α → Prop} [DecidablePred p]
    (h : x.any (fun a => decide (p a)) = true) : ∃ a, x = some a ∧ p a := by
  cases x with
  | none => simp at h
  | some a => exact ⟨a, rfl, by simpa using h⟩

/-- A call that uses what an earlier one returns. -/
theorem bind_eq_ok {ε α β : Type} {x : Except ε α} {f : α → Except ε β} {b : β} :
    (x >>= f) = .ok b ↔ ∃ a, x = .ok a ∧ f a = .ok b := by
  cases x with
  | error e => simp [bind, Except.bind]
  | ok a => simp [bind, Except.bind]

theorem exists_of_map_eq_ok {ε α β : Type} {x : Except ε α} {f : α → β} {b : β}
    (h : x.map f = .ok b) : ∃ a, x = .ok a ∧ f a = b := by
  cases x with
  | error e => simp [Except.map] at h
  | ok a => exact ⟨a, rfl, by simpa [Except.map] using h⟩
