import Mathlib.Data.List.Forall2
import Mathlib.Data.List.Sort
import LlmInferenceSystems.Python.Text

/-!
# Mappings

A Python `dict` with `str` keys is a list of items whose keys differ. Two of them are equal when
they agree at every key, which is when they are the same list in key order.

## Main definitions

* `sortFields`: the items in key order

## Main results

* `sortFields_eq_iff`: two mappings are equal in key order exactly when they agree at every key
* `forall₂_sortFields`: related items are still related after sorting
-/

namespace Python

/-! ## The order of texts -/

theorem strLe_refl (s : Str) : strLe s s = true := by
  induction s with
  | nil => rfl
  | cons a s ih => simp [strLe, ih]

theorem strLe_total (s t : Str) : strLe s t = true ∨ strLe t s = true := by
  induction s generalizing t with
  | nil => exact .inl rfl
  | cons a s ih =>
    cases t with
    | nil => exact .inr rfl
    | cons b t =>
      simp only [strLe, Bool.or_eq_true, decide_eq_true_eq, Bool.and_eq_true, beq_iff_eq]
      rcases lt_trichotomy a b with h | rfl | h
      · exact .inl (.inl h)
      · exact (ih t).imp (fun h => .inr ⟨rfl, h⟩) fun h => .inr ⟨rfl, h⟩
      · exact .inr (.inl h)

theorem strLe_trans {s t u : Str} (hst : strLe s t = true) (htu : strLe t u = true) :
    strLe s u = true := by
  induction s generalizing t u with
  | nil => rfl
  | cons a s ih =>
    rcases t with _ | ⟨b, t⟩
    · simp [strLe] at hst
    rcases u with _ | ⟨c, u⟩
    · simp [strLe] at htu
    simp only [strLe, Bool.or_eq_true, decide_eq_true_eq, Bool.and_eq_true, beq_iff_eq]
      at hst htu ⊢
    rcases hst with hab | ⟨rfl, hst⟩
    · rcases htu with hbc | ⟨rfl, -⟩
      · exact .inl (hab.trans hbc)
      · exact .inl hab
    · rcases htu with hbc | ⟨rfl, htu⟩
      · exact .inl hbc
      · exact .inr ⟨rfl, ih hst htu⟩

theorem strLe_antisymm {s t : Str} (hst : strLe s t = true) (hts : strLe t s = true) : s = t := by
  induction s generalizing t with
  | nil =>
    cases t with
    | nil => rfl
    | cons b t => simp [strLe] at hts
  | cons a s ih =>
    rcases t with _ | ⟨b, t⟩
    · simp [strLe] at hst
    simp only [strLe, Bool.or_eq_true, decide_eq_true_eq, Bool.and_eq_true, beq_iff_eq]
      at hst hts
    rcases hst with hab | ⟨rfl, hst⟩
    · rcases hts with hba | ⟨rfl, -⟩
      · omega
      · omega
    · rcases hts with hba | ⟨-, hts⟩
      · omega
      · rw [ih hst hts]

/-! ## Items in key order -/

/-- Fields in key order. -/
def sortFields {α : Type} (fields : List (Str × α)) : List (Str × α) :=
  fields.insertionSort fun a b => strLe a.1 b.1 = true

section

variable {α β : Type}

theorem perm_sortFields (fields : List (Str × α)) : (sortFields fields).Perm fields :=
  List.perm_insertionSort _ fields

@[simp] theorem mem_sortFields {fields : List (Str × α)} {f : Str × α} :
    f ∈ sortFields fields ↔ f ∈ fields := List.mem_insertionSort _

theorem pairwise_sortFields (fields : List (Str × α)) :
    (sortFields fields).Pairwise fun a b => strLe a.1 b.1 = true := by
  have htotal : Std.Total fun a b : Str × α => strLe a.1 b.1 = true :=
    ⟨fun a b => strLe_total a.1 b.1⟩
  have htrans : IsTrans (Str × α) fun a b => strLe a.1 b.1 = true :=
    ⟨fun _ _ _ hab hbc => strLe_trans hab hbc⟩
  exact List.pairwise_insertionSort (fun a b : Str × α => strLe a.1 b.1 = true) fields

/-- Sorting looks at keys only. -/
theorem sortFields_map (g : α → β) (fields : List (Str × α)) :
    sortFields (fields.map fun f => (f.1, g f.2)) =
      (sortFields fields).map fun f => (f.1, g f.2) :=
  (List.map_insertionSort (fun a b : Str × α => strLe a.1 b.1 = true)
    (fun a b : Str × β => strLe a.1 b.1 = true) (fun f => (f.1, g f.2)) fields
    fun _ _ _ _ => Iff.rfl).symm

theorem sortFields_eq_self {fields : List (Str × α)}
    (h : fields.Pairwise fun a b => strLe a.1 b.1 = true) : sortFields fields = fields :=
  List.Pairwise.insertionSort_eq h

@[simp] theorem sortFields_sortFields (fields : List (Str × α)) :
    sortFields (sortFields fields) = sortFields fields :=
  sortFields_eq_self (pairwise_sortFields fields)

/-- Values that stand next to each other under equal keys still do after sorting. -/
theorem forall₂_sortFields {r : α → β → Prop} {fields : List (Str × α)} {texts : List (Str × β)}
    (h : List.Forall₂ (fun f t => f.1 = t.1 ∧ r f.2 t.2) fields texts) :
    List.Forall₂ (fun f t => f.1 = t.1 ∧ r f.2 t.2) (sortFields fields) (sortFields texts) := by
  obtain ⟨both, hboth, hfields, htexts⟩ : ∃ both : List (Str × α × β),
      (∀ b ∈ both, r b.2.1 b.2.2) ∧ both.map (fun b => (b.1, b.2.1)) = fields ∧
        both.map (fun b => (b.1, b.2.2)) = texts := by
    induction h with
    | nil => exact ⟨[], by simp, rfl, rfl⟩
    | @cons f t fields texts hft _ ih =>
      obtain ⟨both, hboth, hfields, htexts⟩ := ih
      refine ⟨(f.1, f.2, t.2) :: both, List.forall_mem_cons.mpr ⟨hft.2, hboth⟩, ?_, ?_⟩
      · rw [List.map_cons, hfields]
      · rw [List.map_cons, htexts, hft.1]
  rw [← hfields, ← htexts, sortFields_map Prod.fst, sortFields_map Prod.snd,
    List.forall₂_map_left_iff, List.forall₂_map_right_iff, List.forall₂_same]
  exact fun b hb => ⟨rfl, hboth b (mem_sortFields.mp hb)⟩

theorem lookup_eq_some_iff {κ : Type} [BEq κ] [LawfulBEq κ] {fields : List (κ × α)}
    (h : (fields.map (·.1)).Nodup) {key : κ} {value : α} :
    fields.lookup key = some value ↔ (key, value) ∈ fields := by
  induction fields with
  | nil => simp
  | cons f fields ih =>
    obtain ⟨key', value'⟩ := f
    obtain ⟨hnew, hrest⟩ := List.nodup_cons.mp h
    rw [List.lookup_cons, List.mem_cons]
    by_cases hkey : key = key'
    · subst hkey
      have hnot : (key, value) ∉ fields := fun hmem => hnew (List.mem_map_of_mem (f := (·.1)) hmem)
      simp [hnot, eq_comm]
    · rw [beq_eq_false_iff_ne.mpr hkey]
      simp [ih hrest, hkey]

@[simp] theorem lookup_map_values (g : α → β) (fields : List (Str × α)) (key : Str) :
    (fields.map fun f => (f.1, g f.2)).lookup key = (fields.lookup key).map g := by
  induction fields with
  | nil => rfl
  | cons f fields ih =>
    rw [List.map_cons, List.lookup_cons, List.lookup_cons, ih]
    cases key == f.1 <;> rfl

/-- Sorting does not change what a key is mapped to. -/
theorem lookup_sortFields {fields : List (Str × α)} (h : (fields.map (·.1)).Nodup) (key : Str) :
    (sortFields fields).lookup key = fields.lookup key := by
  have hsorted : ((sortFields fields).map (·.1)).Nodup :=
    ((perm_sortFields fields).map _).nodup_iff.mpr h
  ext value
  rw [lookup_eq_some_iff hsorted, lookup_eq_some_iff h, mem_sortFields]

/-- **Two mappings are equal in key order exactly when they agree at every key.** -/
theorem sortFields_eq_iff {fields fields' : List (Str × α)} (h : (fields.map (·.1)).Nodup)
    (h' : (fields'.map (·.1)).Nodup) :
    sortFields fields = sortFields fields' ↔ ∀ key, fields.lookup key = fields'.lookup key := by
  constructor
  · intro heq key
    ext value
    rw [lookup_eq_some_iff h, lookup_eq_some_iff h', ← mem_sortFields, heq, mem_sortFields]
  · intro hkeys
    have hperm : fields.Perm fields' := by
      rw [List.perm_ext_iff_of_nodup h.of_map h'.of_map]
      rintro ⟨key, value⟩
      rw [← lookup_eq_some_iff h, hkeys, lookup_eq_some_iff h']
    refine ((perm_sortFields fields).trans
      (hperm.trans (perm_sortFields fields').symm)).eq_of_pairwise ?_
      (pairwise_sortFields fields) (pairwise_sortFields fields')
    rintro ⟨key, value⟩ ⟨key', value'⟩ hmem hmem' hle hge
    obtain rfl : key = key' := strLe_antisymm hle hge
    have hvalue := (lookup_eq_some_iff h).mpr (mem_sortFields.mp hmem)
    rw [hkeys, (lookup_eq_some_iff h').mpr (mem_sortFields.mp hmem')] at hvalue
    rw [Option.some.inj hvalue]

end

end Python
