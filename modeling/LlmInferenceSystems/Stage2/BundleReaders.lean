import LlmInferenceSystems.Stage2.Bundle

/-!
# What a validated bundle binds

A reader accepts a directory when the manifest at its root lists the files that it finds, with
their sizes and hashes, and the derived files are what the raw files reconstruct to. Files that
have the name of the manifest are left out of the listing wherever they stand. Beneath `derived/`
the reconstruction still binds them; elsewhere nothing does.

## Main definitions

* `Validated`: what the checks of `validate_committed_bundle` say
* `Bound`: a file that the manifest lists with its own hash and size

## Main results

* `validateCommittedBundle_eq_ok`: the reader accepts exactly the validated directories
* `validated_binds_iff`: every file is bound, and no change goes unnoticed, exactly as far as no
  file below the root has the name of the manifest
-/

namespace Stage2

open Python

section

variable [Interpreter]

/-- A listed file is there, as the entry says, and is not newer than the manifest. -/
theorem checkListedFile_eq_ok {directory : FileTree} {manifestMtime : ℤ}
    {entry : BundleFileEntry} :
    checkListedFile directory manifestMtime entry = .ok () ↔ ∃ data mtime,
      directory.get (PurePosixPath.ofStr entry.path).tail = some (.file data mtime) ∧
        data.length = entry.size ∧ Interpreter.hexdigest data = entry.sha256 ∧
        mtime ≤ manifestMtime := by
  unfold checkListedFile
  split
  · next data mtime hget =>
    rw [hget]
    constructor
    · intro h
      split at h
      · cases h
      · next hsame =>
        split at h
        · cases h
        · next hold =>
          simp only [not_or, not_not] at hsame
          exact ⟨data, mtime, rfl, hsame.1, hsame.2, Int.not_lt.mp hold⟩
    · rintro ⟨data', mtime', hnode, hsize, hhash, hold⟩
      obtain ⟨rfl, rfl⟩ := Node.file.inj (Option.some.inj hnode)
      rw [if_neg (by simp [hsize, hhash]), if_neg (Int.not_lt.mpr hold)]
  · next hother =>
    refine iff_of_false (by simp) ?_
    rintro ⟨data, mtime, hget, -⟩
    exact hother data mtime hget

variable [Timestamps]

/-- What the checks of `validate_committed_bundle` say of a directory. -/
structure Validated (directory : FileTree) (reconstruct : Reconstructor)
    (manifest : Stage2BundleManifest) (manifestBytes : Bytes) (manifestMtime : ℤ) : Prop where
  there : directory.get [manifestName] = some (.file manifestBytes manifestMtime)
  read : modelValidateJson Stage2BundleManifest.ofJson manifestBytes = .ok manifest
  listing : (directory.filesWhere fun path => path.getLast? ≠ some manifestName).map (·.1) =
    manifest.files.map (·.path)
  entries : ∀ entry ∈ manifest.files, checkListedFile directory manifestMtime entry = .ok ()
  reconstructed : ∃ expected, reconstruct (filesBeneath (lit "raw") directory) = .ok expected ∧
    sortFields expected = filesBeneath (lit "derived") directory
  identity : reconstructionIdentity (filesBeneath (lit "derived") directory) =
    .ok manifest.reconstructionSha256

/-- **The reader accepts exactly the validated directories.** -/
theorem validateCommittedBundle_eq_ok {directory : FileTree} {reconstruct : Reconstructor}
    {manifest : Stage2BundleManifest} :
    validateCommittedBundle directory reconstruct = .ok manifest ↔
      ∃ manifestBytes manifestMtime,
        Validated directory reconstruct manifest manifestBytes manifestMtime := by
  unfold validateCommittedBundle
  constructor
  · intro h
    -- the checks, in the order in which they are made
    obtain ⟨state, -, h⟩ := bind_eq_ok.mp h
    split at h
    · cases h
    split at h
    · next data mtime hthere =>
      obtain ⟨read, hread, h⟩ := bind_eq_ok.mp h
      dsimp only at h
      split at h
      · cases h
      · next hlisting =>
        obtain ⟨⟨⟩, hentries, h⟩ := bind_eq_ok.mp h
        obtain ⟨expected, hexpected, h⟩ := bind_eq_ok.mp h
        split at h
        · cases h
        · next hderived =>
          obtain ⟨identity, hidentity, h⟩ := bind_eq_ok.mp h
          split at h
          · cases h
          · next hsame =>
            obtain rfl := Except.ok.inj h
            refine ⟨data, mtime, hthere, hread, not_not.mp hlisting, each_eq_ok.mp hentries,
              ⟨expected, hexpected, not_not.mp hderived⟩, ?_⟩
            rw [hidentity, not_not.mp hsame]
    · cases h
  · rintro ⟨data, mtime, h⟩
    -- what was found passes each of them
    obtain ⟨expected, hexpected, hderived⟩ := h.reconstructed
    have hbytes : directory.readBytes [manifestName] = some data := by
      rw [FileTree.readBytes, h.there]
    have hstate : inspectBundleState directory = .ok .committed := by
      simp only [inspectBundleState, hbytes, h.read]
      rfl
    refine bind_eq_ok.mpr ⟨_, hstate, ?_⟩
    rw [if_neg (by simp)]
    simp only [h.there]
    refine bind_eq_ok.mpr ⟨manifest, h.read, ?_⟩
    rw [if_neg (not_not.mpr h.listing)]
    refine bind_eq_ok.mpr ⟨(), each_eq_ok.mpr h.entries, ?_⟩
    refine bind_eq_ok.mpr ⟨expected, hexpected, ?_⟩
    rw [if_neg (not_not.mpr hderived)]
    exact bind_eq_ok.mpr ⟨_, h.identity, if_neg (not_not.mpr rfl)⟩

/-! ## Files that are bound -/

/-- The manifest lists the file at `path` with its own hash and size. -/
def Bound (manifest : Stage2BundleManifest) (path : RelPath) (data : Bytes) : Prop :=
  ∃ entry ∈ manifest.files, entry.path = joinPath path ∧
    entry.sha256 = Interpreter.hexdigest data ∧ entry.size = data.length

namespace Validated

variable {directory : FileTree} {reconstruct : Reconstructor} {manifest : Stage2BundleManifest}
  {manifestBytes : Bytes} {manifestMtime : ℤ}

/-- A file is bound unless it has the name of the manifest. -/
theorem bound_iff
    (h : Validated directory reconstruct manifest manifestBytes manifestMtime) {path : RelPath}
    {data : Bytes} (hread : directory.readBytes path = some data) :
    Bound manifest path data ↔ path.getLast? ≠ some manifestName := by
  have hlisted := FileTree.mem_map_filesWhere (fun path => path.getLast? ≠ some manifestName) hread
  rw [h.listing, decide_eq_true_eq] at hlisted
  rw [← hlisted]
  constructor
  · rintro ⟨entry, hentry, htext, -⟩
    exact List.mem_map.mpr ⟨entry, hentry, htext⟩
  · intro hmem
    obtain ⟨entry, hentry, htext⟩ := List.mem_map.mp hmem
    obtain ⟨data', mtime', hget', hsize, hhash, -⟩ :=
      checkListedFile_eq_ok.mp (h.entries entry hentry)
    -- the entry is read at the path of the file
    obtain ⟨mtime, hget⟩ := FileTree.readBytes_eq_some.mp hread
    have hne : path ≠ [] := by
      rintro rfl
      simp at hget
    have hnames := FileTree.names_of_get (show directory.get path ≠ none by simp [hget])
    rw [htext, PurePosixPath.ofStr_joinPath hne hnames, hget] at hget'
    obtain ⟨rfl, rfl⟩ := Node.file.inj (Option.some.inj hget')
    exact ⟨entry, hentry, htext, hhash.symm, hsize.symm⟩

/-- A directory that is validated with the same manifest has the same file at a path that the
manifest lists or could list. -/
theorem readBytes_eq (h : Validated directory reconstruct manifest manifestBytes manifestMtime)
    {directory' : FileTree} {manifestMtime' : ℤ}
    (h' : Validated directory' reconstruct manifest manifestBytes manifestMtime')
    (hcollision : ∀ path data data', directory.readBytes path = some data →
      directory'.readBytes path = some data' →
      Interpreter.hexdigest data = Interpreter.hexdigest data' → data = data')
    {path : RelPath} {data : Bytes} (hname : path.getLast? ≠ some manifestName)
    (hread : directory.readBytes path = some data) : directory'.readBytes path = some data := by
  obtain ⟨entry, hentry, htext, hhash, -⟩ := (h.bound_iff hread).mpr hname
  obtain ⟨data', mtime', hget', -, hhash', -⟩ :=
    checkListedFile_eq_ok.mp (h'.entries entry hentry)
  obtain ⟨mtime, hget⟩ := FileTree.readBytes_eq_some.mp hread
  have hne : path ≠ [] := by
    rintro rfl
    simp at hget
  have hnames := FileTree.names_of_get (show directory.get path ≠ none by simp [hget])
  rw [htext, PurePosixPath.ofStr_joinPath hne hnames] at hget'
  have hread' : directory'.readBytes path = some data' :=
    FileTree.readBytes_eq_some.mpr ⟨mtime', hget'⟩
  rw [hread', hcollision path data data' hread hread' (hhash.symm.trans hhash'.symm)]

end Validated

/-- **What validation binds.** Every file of a validated directory is bound exactly when no file
below the root has the name of the manifest; and two validated directories with the same manifest
have the same files exactly when they agree on the files of that name, those beneath `derived/`
apart. -/
theorem validated_binds_iff {directory : FileTree} {reconstruct : Reconstructor}
    {manifest : Stage2BundleManifest}
    (h : validateCommittedBundle directory reconstruct = .ok manifest) :
    ((∀ path data, path ≠ [manifestName] → directory.readBytes path = some data →
        Bound manifest path data) ↔
      ∀ path, path ≠ [manifestName] → directory.isFile path = true →
        path.getLast? ≠ some manifestName) ∧
    ∀ directory' manifest', validateCommittedBundle directory' reconstruct = .ok manifest' →
      directory'.readBytes [manifestName] = directory.readBytes [manifestName] →
      (∀ path data data', directory.readBytes path = some data →
        directory'.readBytes path = some data' →
        Interpreter.hexdigest data = Interpreter.hexdigest data' → data = data') →
      ((∀ path, directory'.readBytes path = directory.readBytes path) ↔
        ∀ path, path ≠ [manifestName] → path.getLast? = some manifestName →
          path.head? ≠ some (lit "derived") →
          directory'.readBytes path = directory.readBytes path) := by
  obtain ⟨manifestBytes, manifestMtime, hvalid⟩ := validateCommittedBundle_eq_ok.mp h
  refine ⟨?_, ?_⟩
  · constructor
    · intro hbound path hpath hfile
      obtain ⟨data, mtime, hget⟩ := FileTree.isFile_iff.mp hfile
      have hread := FileTree.readBytes_eq_some.mpr ⟨mtime, hget⟩
      exact (hvalid.bound_iff hread).mp (hbound path data hpath hread)
    · intro hnames path data hpath hread
      refine (hvalid.bound_iff hread).mpr (hnames path hpath ?_)
      obtain ⟨mtime, hget⟩ := FileTree.readBytes_eq_some.mp hread
      exact FileTree.isFile_iff.mpr ⟨data, mtime, hget⟩
  · intro directory' manifest' h' hroot hcollision
    refine ⟨fun hall path _ _ _ => hall path, fun hnamed => ?_⟩
    obtain ⟨manifestBytes', manifestMtime', hvalid'⟩ := validateCommittedBundle_eq_ok.mp h'
    -- the manifest is the same
    have hbytes : manifestBytes' = manifestBytes := by
      rw [FileTree.readBytes, FileTree.readBytes, hvalid.there, hvalid'.there] at hroot
      exact Option.some.inj hroot
    subst hbytes
    obtain rfl : manifest' = manifest := Except.ok.inj (hvalid'.read.symm.trans hvalid.read)
    -- so the listed files are
    have hlisted : ∀ path, path.getLast? ≠ some manifestName →
        directory'.readBytes path = directory.readBytes path := by
      intro path hpath
      ext data
      constructor
      · refine hvalid'.readBytes_eq hvalid (fun path data data' hread hread' hhash => ?_) hpath
        exact (hcollision path data' data hread' hread hhash.symm).symm
      · exact hvalid.readBytes_eq hvalid' hcollision hpath
    have hother : ∀ path, path.head? ≠ some (lit "derived") →
        directory'.readBytes path = directory.readBytes path := by
      intro path hhead
      by_cases hpath : path.getLast? = some manifestName
      · by_cases hatRoot : path = [manifestName]
        · rw [hatRoot, hroot]
        · exact hnamed path hatRoot hpath hhead
      · exact hlisted path hpath
    -- and the derived files are reconstructed from the same raw files
    have hraw : filesBeneath (lit "raw") directory' = filesBeneath (lit "raw") directory := by
      apply FileTree.filesWhere_congr
      intro path hpath
      have hhead : path.head? ≠ some (lit "derived") := by
        rw [of_decide_eq_true hpath]
        decide
      exact hother path hhead
    obtain ⟨expected, hexpected, hderived⟩ := hvalid.reconstructed
    obtain ⟨expected', hexpected', hderived'⟩ := hvalid'.reconstructed
    obtain rfl : expected' = expected := by
      rw [hraw, hexpected] at hexpected'
      exact (Except.ok.inj hexpected').symm
    intro path
    by_cases hhead : path.head? = some (lit "derived")
    · exact FileTree.readBytes_eq_of_filesWhere_eq (hderived'.symm.trans hderived)
        (decide_eq_true hhead)
    · exact hother path hhead

end

/-! ## A file with the name of the manifest -/

section

attribute [local instance] cpython sampleTimestamps

/-- A committed directory with a raw file that has the name of the manifest. -/
def nestedManifest : FileTree :=
  (sampleSetting.commit sampleReconstruct false ()
    (sampleBundle ["raw/a.json", "raw/x/evidence-manifest.json"])).2.state.tree

theorem validate_nestedManifest :
    ∃ manifest, validateCommittedBundle nestedManifest sampleReconstruct = .ok manifest ∧
      manifest.files.map (·.path) = [lit "derived/a.json", lit "raw/a.json"] ∧
      nestedManifest.readBytes [lit "raw", lit "x", manifestName] = some [91, 93, 10] := by
  apply exists_eq_ok
  decide +kernel

/-- The raw file is not bound. -/
theorem exists_validated_not_bound :
    ∃ directory reconstruct manifest, validateCommittedBundle directory reconstruct = .ok manifest ∧
      ∃ path data, path ≠ [manifestName] ∧ directory.readBytes path = some data ∧
        ¬ Bound manifest path data := by
  obtain ⟨manifest, hvalid, hfiles, hread⟩ := validate_nestedManifest
  refine ⟨_, _, manifest, hvalid, _, _, by decide, hread, ?_⟩
  rintro ⟨entry, hentry, htext, -⟩
  have hmem : joinPath [lit "raw", lit "x", manifestName] ∈ manifest.files.map (·.path) :=
    List.mem_map.mpr ⟨entry, hentry, htext⟩
  rw [hfiles] at hmem
  revert hmem
  decide

theorem validated_binds_nestedManifest :
    ∃ manifest, validateCommittedBundle nestedManifest sampleReconstruct = .ok manifest ∧
      ((∀ path data, path ≠ [manifestName] → nestedManifest.readBytes path = some data →
          Bound manifest path data) ↔
        ∀ path, path ≠ [manifestName] → nestedManifest.isFile path = true →
          path.getLast? ≠ some manifestName) := by
  obtain ⟨manifest, hvalid, -⟩ := validate_nestedManifest
  exact ⟨manifest, hvalid, (validated_binds_iff hvalid).1⟩

end

end Stage2
