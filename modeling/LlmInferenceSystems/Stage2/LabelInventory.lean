import LlmInferenceSystems.Stage2.Exposition

/-!
# The label inventory

The label sets of a scrape are grouped by name, with the names and the sets of each in order.

## Main definitions

* `IsInventory`: the label sets of each name

## Main results

* `labels_eq_of_perm`: labels with different names are in order in one way
* `isInventory_labelInventory`: what the inventory lists
-/

namespace Stage2

open Python

/-! ## Orders -/

theorem pairLe_total (a b : Str × Str) : pairLe a b = true ∨ pairLe b a = true := by
  unfold pairLe
  by_cases h : a.1 = b.1
  · rw [if_pos h, if_pos h.symm]
    exact strLe_total _ _
  · rw [if_neg h, if_neg (Ne.symm h)]
    exact strLe_total _ _

theorem strLe_of_pairLe {a b : Str × Str} (h : pairLe a b = true) : strLe a.1 b.1 = true := by
  unfold pairLe at h
  split_ifs at h with hkey
  · rw [hkey]
    exact strLe_refl _
  · exact h

theorem pairLe_trans {a b c : Str × Str} (hab : pairLe a b = true) (hbc : pairLe b c = true) :
    pairLe a c = true := by
  have hkeys := strLe_trans (strLe_of_pairLe hab) (strLe_of_pairLe hbc)
  unfold pairLe at hab hbc ⊢
  by_cases hac : a.1 = c.1
  · rw [if_pos hac]
    -- the keys are equal from one end to the other
    by_cases hkey : a.1 = b.1
    · rw [if_pos hkey] at hab
      rw [if_pos (hkey.symm.trans hac)] at hbc
      exact strLe_trans hab hbc
    · rw [if_neg hkey] at hab
      rw [if_neg fun h => hkey (hac.trans h.symm), ← hac] at hbc
      exact absurd (strLe_antisymm hab hbc) hkey
  · rw [if_neg hac]
    exact hkeys

theorem pairLe_antisymm {a b : Str × Str} (hab : pairLe a b = true) (hba : pairLe b a = true) :
    a = b := by
  have hkey := strLe_antisymm (strLe_of_pairLe hab) (strLe_of_pairLe hba)
  unfold pairLe at hab hba
  rw [if_pos hkey] at hab
  rw [if_pos hkey.symm] at hba
  exact Prod.ext hkey (strLe_antisymm hab hba)

theorem labelsLe_total (s t : Labels) : labelsLe s t = true ∨ labelsLe t s = true := by
  induction s generalizing t with
  | nil => exact Or.inl rfl
  | cons a s ih =>
    cases t with
    | nil => exact Or.inr rfl
    | cons b t =>
      rw [labelsLe, labelsLe]
      by_cases h : a = b
      · rw [if_pos h, if_pos h.symm]
        exact ih t
      · rw [if_neg h, if_neg (Ne.symm h)]
        exact pairLe_total a b

theorem labelsLe_trans {s t u : Labels} (hst : labelsLe s t = true) (htu : labelsLe t u = true) :
    labelsLe s u = true := by
  induction s generalizing t u with
  | nil => rfl
  | cons a s ih =>
    rcases t with _ | ⟨b, t⟩
    · cases hst
    rcases u with _ | ⟨c, u⟩
    · cases htu
    rw [labelsLe] at hst htu ⊢
    by_cases hab : a = b
    · subst hab
      rw [if_pos rfl] at hst
      split_ifs at htu ⊢ with hac
      · exact ih hst htu
      · exact htu
    · rw [if_neg hab] at hst
      by_cases hbc : b = c
      · subst hbc
        rw [if_neg hab]
        exact hst
      · rw [if_neg hbc] at htu
        rw [if_neg]
        · exact pairLe_trans hst htu
        · rintro rfl
          exact hab (pairLe_antisymm hst htu)

/-- Labels with different names are in order in one way. -/
theorem labels_eq_of_perm {labels labels' : Labels} (hperm : labels.Perm labels')
    (hnodup : (labels.map (·.1)).Nodup)
    (hsorted : labels.Pairwise fun a b => strLe a.1 b.1 = true)
    (hsorted' : labels'.Pairwise fun a b => strLe a.1 b.1 = true) : labels = labels' := by
  refine List.Perm.eq_of_pairwise (fun a b ha hb hab hba => ?_) hsorted hsorted' hperm
  exact List.inj_on_of_nodup_map hnodup ha (hperm.mem_iff.mpr hb) (strLe_antisymm hab hba)

theorem pairwise_sorted_labels (labels : Labels) :
    (labels.insertionSort fun a b => pairLe a b = true).Pairwise
      fun a b => strLe a.1 b.1 = true := by
  have htotal : Std.Total fun a b : Str × Str => pairLe a b = true := ⟨pairLe_total⟩
  have htrans : IsTrans (Str × Str) fun a b => pairLe a b = true :=
    ⟨fun _ _ _ hab hbc => pairLe_trans hab hbc⟩
  exact (List.pairwise_insertionSort (fun a b : Str × Str => pairLe a b = true) labels).imp
    strLe_of_pairLe

/-! ## The inventory -/

/-- The label sets of each name, in order. -/
structure IsInventory (samples : List PrometheusSample) (inventory : List (Str × List Labels)) :
    Prop where
  sorted : inventory.Pairwise fun a b => strLe a.1 b.1 = true
  nodup : (inventory.map (·.1)).Nodup
  names : ∀ name, name ∈ inventory.map (·.1) ↔ ∃ sample ∈ samples, sample.name = name
  labels : ∀ entry ∈ inventory,
    entry.2.Perm ((samples.filter fun sample => sample.name = entry.1).map (·.labels)) ∧
      entry.2.Pairwise fun a b => labelsLe a b = true

/-- The groups of the samples by name. -/
structure IsGrouping (samples : List PrometheusSample) (groups : List (Str × List Labels)) :
    Prop where
  nodup : (groups.map (·.1)).Nodup
  names : ∀ name, name ∈ groups.map (·.1) ↔ ∃ sample ∈ samples, sample.name = name
  labels : ∀ group ∈ groups,
    group.2 = (samples.filter fun sample => sample.name = group.1).map (·.labels)

/-- One more sample. -/
theorem IsGrouping.setdefaultAppend {samples : List PrometheusSample}
    {groups : List (Str × List Labels)} (h : IsGrouping samples groups)
    (sample : PrometheusSample) :
    IsGrouping (samples ++ [sample]) (setdefaultAppend groups sample) := by
  obtain ⟨hnodup, hnames, hlabels⟩ := h
  -- one more sample adds its name
  have hexists : ∀ name, (∃ s ∈ samples ++ [sample], s.name = name) ↔
      (∃ s ∈ samples, s.name = name) ∨ sample.name = name := by
    intro name
    simp [or_and_right, exists_or]
  unfold Stage2.setdefaultAppend
  split_ifs with hmem
  -- the name has a group, whose labels grow by those of the sample
  · have hkeys : (groups.map fun entry =>
        if entry.1 = sample.name then (entry.1, entry.2 ++ [sample.labels]) else entry).map (·.1) =
        groups.map (·.1) := by
      rw [List.map_map]
      refine List.map_congr_left fun entry _ => ?_
      dsimp only [Function.comp]
      split_ifs <;> rfl
    refine ⟨by rwa [hkeys], fun name => ?_, fun group hgroup => ?_⟩
    · rw [hkeys, hexists, hnames]
      refine ⟨Or.inl, fun hname => hname.elim id ?_⟩
      rintro rfl
      exact (hnames _).mp hmem
    · obtain ⟨entry, hentry, rfl⟩ := List.mem_map.mp hgroup
      by_cases hname : entry.1 = sample.name
      · rw [if_pos hname]
        simp [hlabels entry hentry, hname]
      · rw [if_neg hname, hlabels entry hentry]
        simp [List.filter_append, Ne.symm hname]
  -- the name is new, so its group begins with this sample
  · refine ⟨?_, fun name => ?_, fun group hgroup => ?_⟩
    · rw [List.map_append, List.map_singleton]
      exact hnodup.append (List.nodup_singleton _) (by simpa using hmem)
    · rw [hexists, List.map_append, List.mem_append, hnames]
      simp [eq_comm]
    · rcases List.mem_append.mp hgroup with hgroup | hgroup
      · have hne : sample.name ≠ group.1 := by
          intro heq
          exact hmem (heq ▸ List.mem_map_of_mem hgroup)
        rw [hlabels group hgroup]
        simp [List.filter_append, hne]
      · obtain rfl := List.mem_singleton.mp hgroup
        -- no earlier sample has the name
        have hnone : samples.filter (fun s => s.name = sample.name) = [] := by
          refine List.filter_eq_nil_iff.mpr fun s hs hname => ?_
          exact hmem ((hnames _).mpr ⟨s, hs, by simpa using hname⟩)
        simp [List.filter_append, hnone]

theorem isGrouping_foldl (samples : List PrometheusSample) :
    IsGrouping samples (samples.foldl setdefaultAppend []) := by
  induction samples using List.reverseRecOn with
  | nil => exact ⟨.nil, by simp, by simp⟩
  | append_singleton samples sample ih =>
    rw [List.foldl_append]
    exact ih.setdefaultAppend sample

/-- **The inventory lists the label sets of each name.** -/
theorem isInventory_labelInventory (samples : List PrometheusSample) :
    IsInventory samples (labelInventory samples) := by
  obtain ⟨hnodup, hnames, hlabels⟩ := isGrouping_foldl samples
  have htotal : Std.Total fun s t : Labels => labelsLe s t = true := ⟨labelsLe_total⟩
  have htrans : IsTrans Labels fun s t => labelsLe s t = true :=
    ⟨fun _ _ _ hst htu => labelsLe_trans hst htu⟩
  have hkeys : (labelInventory samples).map (·.1) =
      (sortFields (samples.foldl setdefaultAppend [])).map (·.1) := by
    unfold labelInventory
    rw [List.map_map]
    rfl
  have hperm := perm_sortFields (samples.foldl setdefaultAppend [])
  refine ⟨?_, ?_, fun name => ?_, fun entry hentry => ?_⟩
  · unfold labelInventory
    rw [List.pairwise_map]
    exact pairwise_sortFields _
  · rw [hkeys]
    exact (hperm.map _).nodup_iff.mpr hnodup
  · rw [hkeys, (hperm.map _).mem_iff]
    exact hnames name
  · obtain ⟨group, hgroup, rfl⟩ := List.mem_map.mp hentry
    refine ⟨?_, List.pairwise_insertionSort (fun s t : Labels => labelsLe s t = true) group.2⟩
    have hsame := hlabels group (mem_sortFields.mp hgroup)
    exact (List.perm_insertionSort _ group.2).trans (hsame ▸ List.Perm.refl _)

end Stage2
