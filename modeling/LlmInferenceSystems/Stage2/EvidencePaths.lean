import LlmInferenceSystems.Stage2.RepetitionBundle

/-!
# Evidence paths

Four checks keep evidence paths beneath their directory: that of the bundle's writes and reads, the
validators of the two contracts that list files, and that of the experiment. They are written
separately, and differ in which part of a path they look at; they accept the same texts.

## Main definitions

* `IsEvidencePath`: components between separators, none of them empty, `.` or `..`
* `BundleFileEntry.validatePath`, `Stage2ManifestBoundFile.validatePath`: the contracts' validators

## Main results

* `evidencePaths_agree`: the four accept exactly the evidence paths; joined to a root, these lead
  strictly below it and to different places
-/

namespace Stage2

open Python

/-- `BundleFileEntry.validate_path` -/
def BundleFileEntry.validatePath (value : Str) : Except PyError Unit :=
  let path := PurePosixPath.ofStr value
  if value ≠ path.asPosix ∨ path.isAbsolute ∨ lit ".." ∈ path.parts then
    .error (.value "bundle inventory path is unsafe")
  else if path.parts = [] then .error (.value "bundle inventory path is empty")
  else .ok ()

/-- `Stage2ManifestBoundFile.validate_path` -/
def Stage2ManifestBoundFile.validatePath (value : Str) : Except PyError Unit :=
  let path := PurePosixPath.ofStr value
  if value ≠ path.asPosix ∨ path.isAbsolute ∨ path.parts = [] ∨
      ∃ part ∈ path.parts, part ∈ [[], lit ".", lit ".."] then
    .error (.value "manifest-bound evidence path must be normalized and relative")
  else .ok ()

/-- An entry is valid when its validator and its fields' types say so. -/
theorem BundleFileEntry.valid_iff (entry : BundleFileEntry) :
    entry.Valid ↔ validatePath entry.path = .ok () ∧ IsSha256 entry.sha256 := by
  have hpath : validatePath entry.path = .ok () ↔
      entry.path = (PurePosixPath.ofStr entry.path).asPosix ∧
        ¬ (PurePosixPath.ofStr entry.path).isAbsolute ∧
        lit ".." ∉ (PurePosixPath.ofStr entry.path).parts ∧
        (PurePosixPath.ofStr entry.path).parts ≠ [] := by
    simp only [validatePath]
    constructor
    · intro h
      split at h
      · cases h
      · next hsafe =>
        split at h
        · cases h
        · next hparts =>
          simp only [not_or, ne_eq, not_not] at hsafe
          exact ⟨hsafe.1, hsafe.2.1, hsafe.2.2, hparts⟩
    · rintro ⟨hnormal, hrelative, hconfined, hparts⟩
      rw [if_neg, if_neg hparts]
      simp only [not_or, ne_eq, not_not]
      exact ⟨hnormal, hrelative, hconfined⟩
  rw [hpath]
  exact ⟨fun h => ⟨⟨h.normal, h.relative, h.confined, h.nonempty⟩, h.digest⟩,
    fun ⟨⟨h₁, h₂, h₃, h₄⟩, hdigest⟩ => ⟨h₁, h₂, h₃, h₄, hdigest⟩⟩

/-! ## What the checks accept -/

/-- Components between separators, at least one, none of them empty, `.` or `..`. -/
def IsEvidencePath (value : Str) : Prop :=
  ∀ part ∈ value.splitOn 47, part ≠ [] ∧ part ≠ lit "." ∧ part ≠ lit ".."

instance (value : Str) : Decidable (IsEvidencePath value) :=
  inferInstanceAs (Decidable (∀ part ∈ value.splitOn 47, _))

/-- A path that is its own normal form, is relative, and does not go up. -/
def IsConfined (value : Str) : Prop :=
  value = (PurePosixPath.ofStr value).asPosix ∧ ¬ (PurePosixPath.ofStr value).isAbsolute ∧
    (PurePosixPath.ofStr value).parts ≠ [] ∧ lit ".." ∉ (PurePosixPath.ofStr value).parts

/-- Parsing leaves no empty component and no `.`, so that checks for these never fail. -/
theorem of_mem_tail {value part : Str} (h : part ∈ (PurePosixPath.ofStr value).tail) :
    part ∈ value.splitOn 47 ∧ part ≠ [] ∧ part ≠ lit "." := by
  simpa [PurePosixPath.ofStr] using h

theorem parts_of_not_isAbsolute {path : PurePosixPath} (h : ¬ path.isAbsolute) :
    path.parts = path.tail := by
  rw [PurePosixPath.parts, if_pos (not_not.mp h)]

theorem isComponent_of_isEvidencePath {value : Str} (h : IsEvidencePath value) :
    ∀ part ∈ value.splitOn 47, IsComponent part :=
  fun part hpart => ⟨(h part hpart).1, not_mem_of_mem_splitOn hpart, (h part hpart).2.1,
    (h part hpart).2.2⟩

/-- **What is confined is an evidence path**, and is read as its components. -/
theorem isConfined_iff {value : Str} : IsConfined value ↔ IsEvidencePath value := by
  constructor
  · rintro ⟨hnormal, hrelative, hparts, hup⟩
    rw [parts_of_not_isAbsolute hrelative] at hparts hup
    have hcomponent : ∀ part ∈ (PurePosixPath.ofStr value).tail, IsComponent part := by
      intro part hpart
      obtain ⟨hmem, hne, hdot⟩ := of_mem_tail hpart
      exact ⟨hne, not_mem_of_mem_splitOn hmem, hdot, fun heq => hup (heq ▸ hpart)⟩
    -- the text is the components written back, so that splitting finds these
    have hsplit : value.splitOn 47 = (PurePosixPath.ofStr value).tail := by
      have htext : value = joinPath (PurePosixPath.ofStr value).tail := by
        rw [PurePosixPath.asPosix, if_neg (fun hboth => hparts hboth.2), not_not.mp hrelative,
          List.nil_append] at hnormal
        exact hnormal
      conv_lhs => rw [htext]
      exact List.splitOn_intercalate 47 (fun p hp => (hcomponent p hp).2.1) hparts
    intro part hpart
    rw [hsplit] at hpart
    exact ⟨(hcomponent part hpart).1, (hcomponent part hpart).2.2⟩
  · intro h
    have hne : value.splitOn 47 ≠ [] := List.splitOn_ne_nil 47 value
    have htext : joinPath (value.splitOn 47) = value := List.intercalate_splitOn 47
    have hofStr := PurePosixPath.ofStr_joinPath_components hne (isComponent_of_isEvidencePath h)
    rw [htext] at hofStr
    rw [IsConfined, hofStr]
    refine ⟨?_, not_not.mpr rfl, hne, fun hup => (h _ hup).2.2 rfl⟩
    rw [PurePosixPath.asPosix, if_neg (fun hboth => hne hboth.2), List.nil_append, htext]

theorem ofStr_of_isEvidencePath {value : Str} (h : IsEvidencePath value) :
    PurePosixPath.ofStr value = ⟨[], value.splitOn 47⟩ := by
  have hofStr := PurePosixPath.ofStr_joinPath_components (List.splitOn_ne_nil 47 value)
    (isComponent_of_isEvidencePath h)
  rwa [show joinPath (value.splitOn 47) = value from List.intercalate_splitOn 47] at hofStr

theorem safeRelative_eq_ok {value : Str} {path : PurePosixPath} :
    safeRelative value = .ok path ↔ IsConfined value ∧ path = PurePosixPath.ofStr value := by
  simp only [safeRelative, IsConfined]
  constructor
  · intro h
    split at h
    · cases h
    · next hsafe =>
      split at h
      · cases h
      · simp only [not_or, ne_eq, not_not] at hsafe
        exact ⟨⟨hsafe.1, hsafe.2.1, hsafe.2.2.1, hsafe.2.2.2⟩, (Except.ok.inj h).symm⟩
  · rintro ⟨⟨hnormal, hrelative, hparts, hup⟩, rfl⟩
    rw [if_neg, if_neg]
    · rintro ⟨part, hpart, hbad⟩
      rw [parts_of_not_isAbsolute hrelative] at hpart
      exact hbad.elim (of_mem_tail hpart).2.1 (of_mem_tail hpart).2.2
    · simp only [not_or, ne_eq, not_not]
      exact ⟨hnormal, hrelative, hparts, hup⟩

theorem BundleFileEntry.validatePath_eq_ok {value : Str} :
    validatePath value = .ok () ↔ IsConfined value := by
  simp only [validatePath, IsConfined]
  constructor
  · intro h
    split at h
    · cases h
    · next hsafe =>
      split at h
      · cases h
      · next hparts =>
        simp only [not_or, ne_eq, not_not] at hsafe
        exact ⟨hsafe.1, hsafe.2.1, hparts, hsafe.2.2⟩
  · rintro ⟨hnormal, hrelative, hparts, hup⟩
    rw [if_neg, if_neg hparts]
    simp only [not_or, ne_eq, not_not]
    exact ⟨hnormal, hrelative, hup⟩

/-- Where a check names all three components at once, only `..` is left of them. -/
theorem exists_bad_part_iff {value : Str} (hrelative : ¬ (PurePosixPath.ofStr value).isAbsolute) :
    (∃ part ∈ (PurePosixPath.ofStr value).parts, part ∈ [[], lit ".", lit ".."]) ↔
      lit ".." ∈ (PurePosixPath.ofStr value).parts := by
  rw [parts_of_not_isAbsolute hrelative]
  constructor
  · rintro ⟨part, hpart, hbad⟩
    obtain ⟨-, hne, hdot⟩ := of_mem_tail hpart
    simp only [List.mem_cons, List.not_mem_nil, or_false] at hbad
    rcases hbad with rfl | rfl | rfl
    · exact absurd rfl hne
    · exact absurd rfl hdot
    · exact hpart
  · exact fun hup => ⟨_, hup, by simp⟩

theorem Stage2ManifestBoundFile.validatePath_eq_ok {value : Str} :
    validatePath value = .ok () ↔ IsConfined value := by
  simp only [validatePath, IsConfined]
  constructor
  · intro h
    split at h
    · cases h
    · next hsafe =>
      simp only [not_or, ne_eq, not_not] at hsafe
      obtain ⟨hnormal, hrelative, hparts, hbad⟩ := hsafe
      exact ⟨hnormal, hrelative, hparts, fun hup => hbad ((exists_bad_part_iff hrelative).mpr hup)⟩
  · rintro ⟨hnormal, hrelative, hparts, hup⟩
    rw [if_neg]
    simp only [not_or, ne_eq, not_not]
    exact ⟨hnormal, hrelative, hparts, fun hbad => hup ((exists_bad_part_iff hrelative).mp hbad)⟩

theorem safeRelativePath_eq_ok {value : Str} {path : PurePosixPath} :
    safeRelativePath value = .ok path ↔ IsConfined value ∧ path = PurePosixPath.ofStr value := by
  simp only [safeRelativePath, IsConfined]
  constructor
  · intro h
    split at h
    · cases h
    · next hsafe =>
      simp only [not_or, ne_eq, not_not] at hsafe
      obtain ⟨hnormal, hrelative, hparts, hbad⟩ := hsafe
      exact ⟨⟨hnormal, hrelative, hparts,
        fun hup => hbad ((exists_bad_part_iff hrelative).mpr hup)⟩, (Except.ok.inj h).symm⟩
  · rintro ⟨⟨hnormal, hrelative, hparts, hup⟩, rfl⟩
    rw [if_neg]
    simp only [not_or, ne_eq, not_not]
    exact ⟨hnormal, hrelative, hparts, fun hbad => hup ((exists_bad_part_iff hrelative).mp hbad)⟩

/-! ## Where the paths lead -/

/-- A place strictly below another, going down only. -/
def StrictlyBelow (place root : PurePosixPath) : Prop :=
  place.root = root.root ∧ ∃ below : RelPath, below ≠ [] ∧ (∀ part ∈ below, IsComponent part) ∧
    place.tail = root.tail ++ below

/-- Joining the parts of an evidence path, as the bundle and the experiment do. -/
theorem joinpath_parts (root : Str) {value : Str} (h : IsEvidencePath value) :
    PurePosixPath.joinpath root (PurePosixPath.ofStr value).parts =
      ⟨(PurePosixPath.ofStr root).root, (PurePosixPath.ofStr root).tail ++ value.splitOn 47⟩ := by
  have hparts : (PurePosixPath.ofStr value).parts = value.splitOn 47 := by
    rw [ofStr_of_isEvidencePath h]
    rfl
  rw [hparts, PurePosixPath.joinpath_components root (isComponent_of_isEvidencePath h)]

/-- **The four checks accept exactly the evidence paths.** Joined to a root, by its parts or as a
text, a path leads strictly below the root, and different paths lead to different places. -/
theorem evidencePaths_agree (value : Str) :
    (safeRelative value = .ok (PurePosixPath.ofStr value) ↔ IsEvidencePath value) ∧
      ((∃ path, safeRelative value = .ok path) ↔ IsEvidencePath value) ∧
      (BundleFileEntry.validatePath value = .ok () ↔ IsEvidencePath value) ∧
      (Stage2ManifestBoundFile.validatePath value = .ok () ↔ IsEvidencePath value) ∧
      ((∃ path, safeRelativePath value = .ok path) ↔ IsEvidencePath value) ∧
      (safeRelativePath value = .ok (PurePosixPath.ofStr value) ↔ IsEvidencePath value) ∧
      (IsEvidencePath value → ∀ root,
        StrictlyBelow (PurePosixPath.joinpath root (PurePosixPath.ofStr value).parts)
          (PurePosixPath.ofStr root) ∧
        PurePosixPath.joinpath root [value] =
          PurePosixPath.joinpath root (PurePosixPath.ofStr value).parts ∧
        ∀ value', IsEvidencePath value' →
          PurePosixPath.joinpath root (PurePosixPath.ofStr value').parts =
            PurePosixPath.joinpath root (PurePosixPath.ofStr value).parts → value' = value) := by
  -- each rule accepts the confined paths
  refine ⟨?_, ?_, ?_, ?_, ?_, ?_, ?_⟩
  · rw [safeRelative_eq_ok, isConfined_iff]
    exact and_iff_left rfl
  · simp only [safeRelative_eq_ok, isConfined_iff, exists_eq_right]
  · rw [BundleFileEntry.validatePath_eq_ok, isConfined_iff]
  · rw [Stage2ManifestBoundFile.validatePath_eq_ok, isConfined_iff]
  · simp only [safeRelativePath_eq_ok, isConfined_iff, exists_eq_right]
  · rw [safeRelativePath_eq_ok, isConfined_iff]
    exact and_iff_left rfl
  · intro h root
    -- no component is `.` or `..`, so nothing is collapsed when the path is joined
    have hcomponents := isComponent_of_isEvidencePath h
    have hne : value.splitOn 47 ≠ [] := List.splitOn_ne_nil 47 value
    refine ⟨?_, ?_, ?_⟩
    · rw [joinpath_parts root h]
      exact ⟨rfl, value.splitOn 47, hne, hcomponents, rfl⟩
    · have htext := PurePosixPath.joinpath_joinPath root hne hcomponents
      rw [show joinPath (value.splitOn 47) = value from List.intercalate_splitOn 47] at htext
      rw [htext, joinpath_parts root h, PurePosixPath.joinpath_components root hcomponents]
    · -- the same place has the same components, and these write the text
      intro value' h' heq
      rw [joinpath_parts root h, joinpath_parts root h'] at heq
      have hsplit := List.append_cancel_left (congrArg PurePosixPath.tail heq)
      calc value' = joinPath (value'.splitOn 47) := (List.intercalate_splitOn 47).symm
        _ = joinPath (value.splitOn 47) := by rw [hsplit]
        _ = value := List.intercalate_splitOn 47

end Stage2
