import LlmInferenceSystems.Canonical

/-!
# Shared field types

Field types that the contracts of every stage use.

## Main definitions

* `IsIdentifier`: the values of `Identifier`
-/

open Python

/-- `Identifier`; a bounded string must also be UTF-8. -/
def IsIdentifier (text : Str) : Prop :=
  1 ≤ text.length ∧ text.length ≤ 160 ∧ IsEncodable text

instance (text : Str) : Decidable (IsIdentifier text) := inferInstanceAs (Decidable (_ ∧ _))
