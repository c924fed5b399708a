import LlmInferenceSystems.Stage2.BundleReaders
import LlmInferenceSystems.Stage2.BundleRuns

/-!
# Commits

A commit computes the inventory and the manifest before it changes anything. Then it publishes the
directory: it renames it, takes the state record away and writes the manifest last.

## Main definitions

* `Passing`: what `commit` has computed when it begins to publish
* `BundleSetting.Stage`: a publication on its way, before the manifest
* `Filled`: a builder that has accepted some writes

## Main results

* `BundleSetting.publish_triple`: the specification of a publication, in any world
* `BundleSetting.of_commit`: what a commit that returned has done
* `validate_commit_iff`: the reader accepts what was committed exactly when no evidence file has
  the name of the state record
-/

namespace Stage2

open Python

namespace BundleSetting

variable {setting : BundleSetting}

/-! ## Publication -/

/-- After `i` calls of a publication without a fault. -/
structure Stage (setting : BundleSetting) (m₀ : Machine Stage2BundleBuilder) (i : ℕ)
    (place : Place) (get : RelPath → Option Node) (m : Machine Stage2BundleBuilder) : Prop where
  place : m.state.place = place
  sequence : m.state.sequence = m₀.state.sequence
  get : m.state.tree.get = get
  calls : m.calls = m₀.calls + i
  noFault : setting.NoFault m₀ m

/-- The directory of a publication, before the manifest: with the state record or without. -/
structure Unpublished (m₀ m : Machine Stage2BundleBuilder) : Prop where
  sequence : m.state.sequence = m₀.state.sequence
  get : m.state.tree.get = m₀.state.tree.get ∨
    m.state.tree.get = Function.update m₀.state.tree.get [stateName] none

/-- The manifest is in place, and the state record is not. -/
structure Published (setting : BundleSetting) (m₀ : Machine Stage2BundleBuilder)
    (manifestBytes : Bytes) (m : Machine Stage2BundleBuilder) : Prop where
  place : m.state.place = .final
  get : ∃ time, m.state.tree.get =
    Function.update (Function.update m₀.state.tree.get [stateName] none) [manifestName]
      (some (.file manifestBytes time))
  size : manifestBytes.length ≤ maxStage2FileBytes
  calls : m.calls = m₀.calls + 10
  noFault : setting.NoFault m₀ m

/-- What is read at the other paths stays as it was. -/
theorem Published.get_of_ne {m m' : Machine Stage2BundleBuilder}
    {manifestBytes : Bytes} (h : setting.Published m manifestBytes m') {path : RelPath}
    (hstate : path ≠ [stateName]) (hmanifest : path ≠ [manifestName]) :
    m'.state.tree.get path = m.state.tree.get path := by
  obtain ⟨time, hget⟩ := h.get
  rw [hget, Function.update_of_ne hmanifest, Function.update_of_ne hstate]

/-- The files beneath another directory than the bundle's own files. -/
theorem Published.filesBeneath_eq {m m' : Machine Stage2BundleBuilder}
    {manifestBytes : Bytes} (h : setting.Published m manifestBytes m') {directory : Str}
    (hstate : directory ≠ stateName) (hmanifest : directory ≠ manifestName) :
    filesBeneath directory m'.state.tree = filesBeneath directory m.state.tree := by
  apply FileTree.filesWhere_congr
  intro path hpath
  have hhead : path.head? = some directory := of_decide_eq_true hpath
  apply FileTree.readBytes_congr
  apply h.get_of_ne
  · rintro rfl
    exact hstate (Option.some.inj hhead).symm
  · rintro rfl
    exact hmanifest (Option.some.inj hhead).symm

/-- The directory when the manifest is about to be written. -/
abbrev Stage.Last (setting : BundleSetting) (m₀ : Machine Stage2BundleBuilder) :
    Machine Stage2BundleBuilder → Prop :=
  setting.Stage m₀ 5 .final (Function.update m₀.state.tree.get [stateName] none)

/-- How a publication raises: one of its first five calls failed, or the manifest was not
written. -/
inductive PublishStops (setting : BundleSetting) (m₀ : Machine Stage2BundleBuilder)
    (manifestBytes : Bytes) : PyError → Machine Stage2BundleBuilder → Prop
  | early {m : Machine Stage2BundleBuilder} (stands : Unpublished m₀ m)
      (fault : ∃ n, m₀.calls ≤ n ∧ n < m.calls ∧ setting.world.fault n ≠ .none) :
      PublishStops setting m₀ manifestBytes .os m
  | manifest {e : PyError} {m₁ m : Machine Stage2BundleBuilder} (stage : Stage.Last setting m₀ m₁)
      (stops : setting.WriteStops m₁ .final [manifestName] manifestBytes e m) :
      PublishStops setting m₀ manifestBytes e m

/-- Where a publication is when the process goes away. -/
inductive PublishCrashes (setting : BundleSetting) (m₀ : Machine Stage2BundleBuilder)
    (manifestBytes : Bytes) : Machine Stage2BundleBuilder → Prop
  | early {m : Machine Stage2BundleBuilder} (stands : Unpublished m₀ m) :
      PublishCrashes setting m₀ manifestBytes m
  | manifest {m₁ m : Machine Stage2BundleBuilder} (stage : Stage.Last setting m₀ m₁)
      (partly : setting.Partly m₁ [manifestName] manifestBytes m) :
      PublishCrashes setting m₀ manifestBytes m

/-- One of the first five calls, which is made where it can be. -/
theorem stageCall_triple {m₀ : Machine Stage2BundleBuilder} {manifestBytes : Bytes} {i : ℕ}
    {place place' : Place} {get get' : RelPath → Option Node}
    {call : ℤ → Stage2BundleBuilder → Option Stage2BundleBuilder}
    (hstands : get = m₀.state.tree.get ∨ get = Function.update m₀.state.tree.get [stateName] none)
    (hcall : ∀ time builder, builder.place = place → builder.tree.get = get →
      ∃ builder', call time builder = some builder' ∧ builder'.place = place' ∧
        builder'.tree.get = get' ∧ builder'.sequence = builder.sequence) :
    Triple (setting.Stage m₀ i place get) (syscall setting.world call)
      { returned := fun _ => setting.Stage m₀ (i + 1) place' get'
        raised := setting.PublishStops m₀ manifestBytes
        crashed := setting.PublishCrashes m₀ manifestBytes } := by
  -- before it is renamed, the tree is that of the start, with or without the state file
  have hunpublished : ∀ m n, setting.Stage m₀ i place get m →
      Unpublished m₀ ⟨m.state, n⟩ := by
    intro m n hm
    refine ⟨hm.sequence, ?_⟩
    show m.state.tree.get = _ ∨ m.state.tree.get = _
    rw [hm.get]
    exact hstands
  refine Triple.syscall ?_ ?_ ?_
  -- the call goes through, and takes the commit one stage further
  · intro m hm hfault s hs
    obtain ⟨builder', hnext, hplace, hget, hsequence⟩ :=
      hcall (setting.world.time m.calls) m.state hm.place hm.get
    obtain rfl := Option.some.inj (hs.symm.trans hnext)
    refine ⟨hplace, hsequence.trans hm.sequence, hget, ?_, ?_⟩
    · show m.calls + 1 = m₀.calls + (i + 1)
      rw [hm.calls, Nat.add_assoc]
    · intro n hle hlt
      rcases Nat.lt_succ_iff_lt_or_eq.mp hlt with hlt | rfl
      · exact hm.noFault n hle hlt
      · exact hfault
  -- it raises: by the fault that was injected, since the call itself has a result here
  · intro m hm hreason
    refine .early (hunpublished m _ hm) ⟨m.calls, ?_, Nat.lt_succ_self _, ?_⟩
    · rw [hm.calls]
      exact Nat.le_add_right _ _
    · rcases hreason with hfault | ⟨-, hnone⟩
      · rw [hfault]
        decide
      · obtain ⟨builder', hnext, -⟩ :=
          hcall (setting.world.time m.calls) m.state hm.place hm.get
        rw [hnone] at hnext
        cases hnext
  -- the process dies, with the tree of this stage
  · intro m hm _
    exact .early (hunpublished m m.calls hm)

/-- The directory can be synchronised where it stands. -/
theorem syncRoot_stage {m₀ : Machine Stage2BundleBuilder} {manifestBytes : Bytes} {i : ℕ}
    {place : Place} {get : RelPath → Option Node}
    (hstands : get = m₀.state.tree.get ∨
      get = Function.update m₀.state.tree.get [stateName] none) :
    Triple (setting.Stage m₀ i place get) (setting.syncPath place [])
      { returned := fun _ => setting.Stage m₀ (i + 1) place get
        raised := setting.PublishStops m₀ manifestBytes
        crashed := setting.PublishCrashes m₀ manifestBytes } := by
  unfold syncPath fileCall
  refine stageCall_triple hstands ?_
  intro time builder hplace hget
  have hroot : builder.tree.has [] = true := FileTree.has_iff.mpr (by simp)
  refine ⟨builder, ?_, hplace, hget, rfl⟩
  rw [if_pos hplace]
  simp only [hroot, if_true, Option.map_some]

/-- **A publication, in any world**, of a directory at the staging path that has a state record. -/
theorem publish_triple (m₀ : Machine Stage2BundleBuilder) (manifestBytes : Bytes)
    (hplace : m₀.state.place = .staging) (hstate : m₀.state.tree.isFile [stateName] = true) :
    Triple (· = m₀) (setting.publish manifestBytes)
      { returned := fun _ => setting.Published m₀ manifestBytes
        raised := setting.PublishStops m₀ manifestBytes
        crashed := setting.PublishCrashes m₀ manifestBytes } := by
  unfold publish
  have hstart : ∀ m, m = m₀ → setting.Stage m₀ 0 .staging m₀.state.tree.get m := by
    rintro m rfl
    exact ⟨hplace, rfl, rfl, rfl, fun n hle hlt => absurd hlt (Nat.not_lt.mpr hle)⟩
  refine Triple.bind (Triple.of_pre (syncRoot_stage (.inl rfl)) hstart) ?_
  intro _
  -- the directory is renamed
  refine Triple.bind (@stageCall_triple _ _ _ _ _ .final _ m₀.state.tree.get _ (.inl rfl) ?_) ?_
  · intro time builder hplace hget
    exact ⟨{ builder with place := .final }, if_pos hplace, rfl, hget, rfl⟩
  intro _
  refine Triple.bind (@stageCall_triple _ _ _ _ _ .final _ m₀.state.tree.get _ (.inl rfl) ?_) ?_
  · intro time builder hplace hget
    exact ⟨builder, rfl, hplace, hget, rfl⟩
  intro _
  -- the state record is taken away
  refine Triple.bind (@stageCall_triple _ _ _ _ _ .final _
    (Function.update m₀.state.tree.get [stateName] none) _ (.inl rfl) ?_) ?_
  · intro time builder hplace hget
    obtain ⟨data, mtime, hfile⟩ := FileTree.isFile_iff.mp hstate
    obtain ⟨tree, htree⟩ := FileTree.exists_unlink (by rw [hget]; exact hfile)
    refine ⟨{ builder with tree := tree }, by simp [hplace, htree], hplace, ?_, rfl⟩
    show tree.get = _
    rw [FileTree.get_unlink htree, hget]
  intro _
  refine Triple.bind (syncRoot_stage (.inr rfl)) ?_
  intro _
  -- the manifest is written
  apply Triple.of_machine
  intro m₁ hm₁
  refine Triple.mono (durableWrite_triple m₁ .final [manifestName] manifestBytes)
    (fun _ hm => hm) ?_ (fun e m hm => .manifest hm₁ hm) fun m hm => .manifest hm₁ hm.2
  intro _ m hm
  obtain ⟨time, hget⟩ := hm.replaced.get
  refine ⟨hm.replaced.place.trans hm₁.place, ⟨time, ?_⟩, hm.size, ?_, ?_⟩
  · rw [hget, hm₁.get]
  · rw [hm.calls, hm₁.calls]
  · intro n hle hlt
    by_cases hbefore : n < m₁.calls
    · exact hm₁.noFault n hle hbefore
    · exact hm.noFault n (Nat.le_of_not_lt hbefore) hlt

/-! ## Commits that pass -/

section

variable [Interpreter] [Timestamps]

/-- What `commit` has computed when it begins to publish. -/
structure Passing (setting : BundleSetting) (builder : Stage2BundleBuilder)
    (reconstruct : Reconstructor) (now : Timestamps.Timestamp) (manifest : Stage2BundleManifest)
    (manifestBytes : Bytes) : Prop where
  incomplete : ∃ record, builder.requireIncomplete = .ok record
  validated : validateForCommit builder.tree reconstruct =
    .ok (manifest.files, manifest.reconstructionSha256)
  built : setting.manifestOf now manifest.files manifest.reconstructionSha256 = .ok manifest
  line : manifest.line = .ok manifestBytes

omit [Timestamps] in
theorem of_requireIncomplete {builder : Stage2BundleBuilder} {record : BundleStateRecord}
    (h : builder.requireIncomplete = .ok record) :
    builder.place = .staging ∧ builder.tree.isFile [stateName] = true := by
  unfold Stage2BundleBuilder.requireIncomplete at h
  split at h
  · cases h
  · next data hread =>
    split at hread
    · next hplace =>
      obtain ⟨time, hget⟩ := FileTree.readBytes_eq_some.mp hread
      exact ⟨hplace, FileTree.isFile_iff.mpr ⟨data, time, hget⟩⟩
    · cases hread

omit [Interpreter] in
theorem valid_of_manifestOf {now : Timestamps.Timestamp} {inventory : List BundleFileEntry}
    {reconstructionSha256 : Str} {manifest : Stage2BundleManifest}
    (h : setting.manifestOf now inventory reconstructionSha256 = .ok manifest) :
    manifest.Valid ∧ manifest.files = inventory ∧
      manifest.reconstructionSha256 = reconstructionSha256 := by
  simp only [manifestOf] at h
  split at h
  · next hvalid =>
    obtain rfl := Except.ok.inj h
    exact ⟨hvalid, rfl, rfl⟩
  · cases h

/-- What `commit` does when the publication raised `OSError`. -/
def failCommit (setting : BundleSetting) : BundleEffect Unit := do
  tryExcept setting.recordCommitFailure (fun e => e = .os ∨ e.isStage2Bundle) fun _ =>
    throwing (.stage2Bundle
      "bundle commit failed and invalid-state durability could not be confirmed")
  throwing (.stage2Bundle "bundle fsync or atomic rename failed")

omit [Timestamps] in
/-- It does not return. -/
theorem failCommit_triple {pre : Machine Stage2BundleBuilder → Prop}
    {returned : Unit → Machine Stage2BundleBuilder → Prop} :
    Triple pre setting.failCommit ⟨returned, fun _ _ => True, fun _ => True⟩ := by
  unfold failCommit
  apply Triple.bind Triple.anything
  exact fun _ => Triple.throwing fun _ _ => True.intro

/-- A commit that passes publishes. -/
theorem Passing.commit_eq {m : Machine Stage2BundleBuilder} {reconstruct : Reconstructor}
    {now : Timestamps.Timestamp} {manifest : Stage2BundleManifest} {manifestBytes : Bytes}
    (h : setting.Passing m.state reconstruct now manifest manifestBytes) :
    setting.commit reconstruct false now m =
      (tryExcept (setting.publish manifestBytes) (· = .os) (fun _ => setting.failCommit) >>=
        fun _ => pure manifest) m := by
  obtain ⟨record, hrecord⟩ := h.incomplete
  unfold commit failCommit
  rw [getState_bind_apply, compute_bind_of_eq hrecord, h.validated]
  simp only [Bool.false_eq_true, if_false]
  rw [compute_bind_of_eq h.built, compute_bind_of_eq h.line]

/-- **What a commit that returned has done.** -/
theorem of_commit {m m' : Machine Stage2BundleBuilder} {reconstruct : Reconstructor}
    {crashBeforeManifest : Bool} {now : Timestamps.Timestamp} {manifest : Stage2BundleManifest}
    (h : setting.commit reconstruct crashBeforeManifest now m = (.ok manifest, m')) :
    ∃ manifestBytes, setting.Passing m.state reconstruct now manifest manifestBytes ∧
      setting.Published m manifestBytes m' := by
  -- the computations, none of which raised
  have hpassing : ∃ manifest' manifestBytes, crashBeforeManifest = false ∧
      setting.Passing m.state reconstruct now manifest' manifestBytes := by
    unfold commit at h
    rw [getState_bind_apply, compute_bind_eq_ok] at h
    obtain ⟨record, hrecord, h⟩ := h
    cases hvalidated : validateForCommit m.state.tree reconstruct with
    | error e =>
      simp only [hvalidated] at h
      obtain ⟨-, m₁, -, h⟩ := Method.bind_eq_ok.mp h
      split at h <;> cases h
    | ok both =>
      obtain ⟨inventory, reconstructionSha256⟩ := both
      simp only [hvalidated] at h
      split at h
      · cases h
      · next hcrash =>
        simp only [compute_bind_eq_ok] at h
        obtain ⟨manifest', hbuilt, manifestBytes, hline, -⟩ := h
        obtain ⟨-, rfl, rfl⟩ := valid_of_manifestOf hbuilt
        exact ⟨manifest', manifestBytes, Bool.eq_false_of_not_eq_true hcrash,
          ⟨record, hrecord⟩, hvalidated, hbuilt, hline⟩
  obtain ⟨manifest', manifestBytes, rfl, hpassing⟩ := hpassing
  rw [hpassing.commit_eq] at h
  -- the handler does not return, so the publication did
  obtain ⟨record, hrecord⟩ := hpassing.incomplete
  obtain ⟨hplace, hstate⟩ := of_requireIncomplete hrecord
  have hpublish : Triple (· = m)
      (tryExcept (setting.publish manifestBytes) (· = .os) (fun _ => setting.failCommit) >>=
        fun _ => pure manifest')
      { returned := fun a m' => a = manifest' ∧ setting.Published m manifestBytes m'
        raised := fun _ _ => True
        crashed := fun _ => True } := by
    refine Triple.bind (Triple.tryExcept (Triple.mono (publish_triple m manifestBytes hplace hstate)
      (fun _ hm => hm) (fun _ _ hm => hm) (fun _ _ _ => True.intro) fun _ _ => True.intro)
      (fun _ _ _ _ => True.intro) ?_) ?_
    · exact fun _ _ => failCommit_triple
    · exact fun _ => Triple.pure fun m' hm => ⟨rfl, hm⟩
  obtain ⟨rfl, hpublished⟩ := hpublish.returned_of rfl h
  exact ⟨manifestBytes, hpassing, hpublished⟩

end

end BundleSetting

/-! ## What a commit computes -/

theorem asPosix_of_safeRelative {value : Str} {path : PurePosixPath}
    (h : safeRelative value = .ok path) : path.asPosix = value := by
  obtain ⟨-, hroot, hne, htext, -⟩ := of_safeRelative h
  rw [PurePosixPath.asPosix, if_neg fun hboth => hne hboth.2, hroot, List.nil_append, htext]

/-- A path that passed is its own normal form. -/
theorem eq_of_normalized {expected normalized : List (Str × Bytes)}
    (h : collect (fun file : Str × Bytes => do
      let path ← safeRelative file.1
      if path.parts.head? ≠ some (lit "derived") then
        .error (.stage2Bundle "reconstruction output escaped derived/")
      else .ok (path.asPosix, file.2)) expected = .ok normalized) : normalized = expected := by
  have hforall := collect_eq_ok.mp h
  clear h
  induction hforall with
  | nil => rfl
  | @cons file item files items hfile hrest ih =>
    obtain ⟨path, hpath, hitem⟩ := bind_eq_ok.mp hfile
    split at hitem
    · cases hitem
    · rw [← Except.ok.inj hitem, ih, asPosix_of_safeRelative hpath]

section

variable [Interpreter]

/-- What a reconstruction that passed says of the derived files. -/
theorem of_validateReconstruction {tree : FileTree} {reconstruct : Reconstructor} {sha256 : Str}
    (h : validateReconstruction tree reconstruct = .ok sha256) :
    ∃ expected, reconstruct (filesBeneath (lit "raw") tree) = .ok expected ∧
      sortFields expected = filesBeneath (lit "derived") tree ∧
      reconstructionIdentity (filesBeneath (lit "derived") tree) = .ok sha256 := by
  unfold validateReconstruction at h
  obtain ⟨expected, hexpected, h⟩ := bind_eq_ok.mp h
  obtain ⟨normalized, hnormalized, h⟩ := bind_eq_ok.mp h
  dsimp only at h
  split at h
  · cases h
  · next hsame =>
    rw [eq_of_normalized hnormalized, not_not] at hsame
    exact ⟨expected, hexpected, hsame, h⟩

theorem of_validateForCommit {tree : FileTree} {reconstruct : Reconstructor}
    {files : List BundleFileEntry} {sha256 : Str}
    (h : validateForCommit tree reconstruct = .ok (files, sha256)) :
    validateReconstruction tree reconstruct = .ok sha256 ∧ inventory tree = .ok files := by
  unfold validateForCommit at h
  obtain ⟨sha256', hsha256, h⟩ := bind_eq_ok.mp h
  obtain ⟨files', hfiles, h⟩ := bind_eq_ok.mp h
  split at h
  · cases h
  split at h
  · cases h
  · cases h
    exact ⟨hsha256, hfiles⟩

/-- The entries of an inventory are those of the files it lists. -/
theorem of_inventory {tree : FileTree} {files : List BundleFileEntry}
    (h : inventory tree = .ok files) :
    files = (tree.filesWhere fun path =>
      path.getLast? ≠ some stateName ∧ path.getLast? ≠ some manifestName).map fun file =>
        ⟨file.1, Interpreter.hexdigest file.2, file.2.length⟩ := by
  unfold inventory at h
  generalize tree.filesWhere _ = items at h ⊢
  have hforall := collect_eq_ok.mp h
  clear h
  induction hforall with
  | nil => rfl
  | @cons file entry items entries hfile hrest ih =>
    simp only [BundleFileEntry.ofFile] at hfile
    split at hfile
    · rw [← Except.ok.inj hfile, ih, List.map_cons]
    · cases hfile

end

/-! ## The files of a builder -/

section

variable [Interpreter] [Timestamps] {setting : BundleSetting}

/-- The builder has the files at some paths, all of them evidence, and the state record. -/
structure Filled (paths : List Str) (builder : Stage2BundleBuilder) : Prop where
  evidence : ∀ relative ∈ paths, IsEvidence (PurePosixPath.ofStr relative).tail
  files : ∀ path, builder.tree.isFile path = true ↔
    path = [stateName] ∨ ∃ relative ∈ paths, path = (PurePosixPath.ofStr relative).tail

omit [Timestamps] in
theorem filled_create {m : Machine Stage2BundleBuilder}
    (h : setting.create emptyBundle = (.ok (), m)) : Filled [] m.state := by
  -- `fsync` leaves the tree as it is
  have hsync : ∀ path, Triple (fun m => Filled [] m.state) (setting.syncPath .staging path)
      { returned := fun _ m => Filled [] m.state
        raised := fun _ _ => True
        crashed := fun _ => True } := by
    intro path
    refine BundleSetting.fileCall_triple ?_ (fun _ _ _ => True.intro) fun _ _ _ => True.intro
    intro m hm _ _ tree htree
    split at htree
    · obtain rfl := Option.some.inj htree
      exact hm
    · cases htree
  have hcreate : Triple (· = emptyBundle) setting.create
      { returned := fun _ m => Filled [] m.state
        raised := fun _ _ => True
        crashed := fun _ => True } := by
    unfold BundleSetting.create
    -- the first record is the only file there is
    have hrecord : Triple (· = emptyBundle)
        (setting.writeStateAt .staging .incomplete (lit "CREATED") none none)
        { returned := fun _ m => Filled [] m.state
          raised := fun _ _ => True
          crashed := fun _ => True } := by
      refine Triple.mono (BundleSetting.writeStateAt_triple emptyBundle .staging .incomplete
        (lit "CREATED") none none) (fun _ hm => hm) ?_ (fun _ _ _ => True.intro)
        fun _ _ => True.intro
      rintro - m ⟨data, -, -, hwritten⟩
      obtain ⟨time, hget⟩ := hwritten.replaced.get
      refine ⟨by simp, fun path => ?_⟩
      rw [FileTree.isFile_update hget]
      have hnone : (BundleSetting.counted emptyBundle).state.tree.isFile path = false := by
        by_cases hpath : path = []
        · rw [hpath]
          rfl
        · rw [FileTree.isFile, show (BundleSetting.counted emptyBundle).state.tree.get path = none
            from FileTree.get_empty hpath]
      simp [hnone]
    -- what follows the record only syncs and moves on
    refine Triple.bind hrecord ?_
    intro _
    refine Triple.bind (hsync []) ?_
    intro _
    refine Triple.syscall ?_ (fun _ _ _ => True.intro) fun _ _ _ => True.intro
    rintro m hm - s ⟨⟩
    exact hm
  exact hcreate.returned_of rfl h

omit [Timestamps] in
/-- A write that returned adds the file at its path. -/
theorem Filled.write {paths : List Str} {start : String}
    (hstart : start = "raw" ∨ start = "derived") {relative : Str} {data : Bytes}
    {m m' : Machine Stage2BundleBuilder} (hfilled : Filled paths m.state)
    (h : setting.writeEvidence start relative data m = (.ok (), m')) :
    Filled (paths ++ [relative]) m'.state := by
  have hevidence := (of_writeEvidence hstart h).1
  obtain ⟨path, m₁, m₂, bytes, hwritten⟩ :=
    (setting.writeEvidence_triple m start relative data).returned_of rfl h
  obtain rfl := (BundleSetting.of_checkEvidence hwritten.file.checked).parsed
  obtain ⟨time, hfile⟩ := hwritten.file.written.replaced.get
  obtain ⟨time', hrecord⟩ := hwritten.recorded.replaced.get
  -- making the parents changes no file
  have hparents : ∀ path, m₁.state.tree.isFile path = true ↔ m.state.tree.isFile path = true := by
    intro path
    rcases (hwritten.file.prepared.made List.prefix_rfl m₁.calls).get path with
      hsame | ⟨hnone, hdir, -⟩
    · rw [FileTree.isFile, FileTree.isFile, show m₁.state.tree.get path = _ from hsame]
    · rw [FileTree.isFile, FileTree.isFile, hnone,
        show m₁.state.tree.get path = some .directory from hdir]
  refine ⟨?_, fun path => ?_⟩
  · intro relative' hrelative'
    rcases List.mem_append.mp hrelative' with hold | hnew
    · exact hfilled.evidence relative' hold
    · rwa [List.mem_singleton.mp hnew]
  -- the state file was there before, so the new file is the only one
  · rw [FileTree.isFile_update hrecord, show (BundleSetting.counted m₂).state.tree =
      m₂.state.tree from rfl, FileTree.isFile_update hfile, hparents, hfilled.files]
    simp only [List.mem_append, List.mem_singleton]
    constructor
    · rintro (hstate | hpath | hstate | ⟨relative', hmem, hpath⟩)
      · exact .inl hstate
      · exact .inr ⟨relative, .inr rfl, hpath⟩
      · exact .inl hstate
      · exact .inr ⟨relative', .inl hmem, hpath⟩
    · rintro (hstate | ⟨relative', hmem | rfl, hpath⟩)
      · exact .inl hstate
      · exact .inr (.inr (.inr ⟨relative', hmem, hpath⟩))
      · exact .inr (.inl hpath)

/-- **The files of a builder** that has accepted some writes. -/
theorem filled_of_accepted {m₀ m : Machine Stage2BundleBuilder} {calls : List BundleCall}
    (hcreate : setting.create emptyBundle = (.ok (), m₀))
    (hcalls : accepted (BundleCall.run setting) m₀ calls = some m)
    (hwrites : ∀ call ∈ calls, call.target ≠ none) :
    Filled (calls.filterMap BundleCall.target) m.state := by
  have hstart : (∀ call ∈ ([] : List BundleCall), call.target ≠ none) →
      Filled (([] : List BundleCall).filterMap BundleCall.target) m₀.state :=
    fun _ => filled_create hcreate
  refine accepted_invariant
    (fun (done : List BundleCall) (m : Machine Stage2BundleBuilder) =>
      (∀ call ∈ done, call.target ≠ none) → Filled (done.filterMap BundleCall.target) m.state)
    hstart ?_ hcalls hwrites
  intro done u call a v hfilled hrun hdone
  have hbefore := hfilled fun call hcall => hdone call (List.mem_append_left _ hcall)
  have hcall := hdone call (List.mem_append_right _ (List.mem_singleton_self _))
  rw [List.filterMap_append]
  cases call with
  | writeRaw relative data => exact hbefore.write (.inl rfl) hrun
  | writeDerived relative data => exact hbefore.write (.inr rfl) hrun
  | invalidate phase reason lastValidBoundary => exact absurd rfl hcall
  | commit reconstruct crashBeforeManifest now => exact absurd rfl hcall

/-! ## The reader after a commit -/

/-- **The reader accepts what was committed exactly when no evidence file has the name of the state
record.** -/
theorem validate_commit_iff {m₀ m m' : Machine Stage2BundleBuilder} {calls : List BundleCall}
    {reconstruct : Reconstructor} {crashBeforeManifest : Bool} {now : Timestamps.Timestamp}
    {manifest : Stage2BundleManifest} (hcreate : setting.create emptyBundle = (.ok (), m₀))
    (hcalls : accepted (BundleCall.run setting) m₀ calls = some m)
    (hwrites : ∀ call ∈ calls, call.target ≠ none)
    (hcommit : setting.commit reconstruct crashBeforeManifest now m = (.ok manifest, m'))
    (htimes : m'.state.tree.Newest [manifestName]) :
    validateCommittedBundle m'.state.tree reconstruct = .ok manifest ↔
      ∀ call ∈ calls, ∀ relative ∈ call.target,
        (PurePosixPath.ofStr relative).tail.getLast? ≠ some stateName := by
  -- after the writes, the files are the state file and those that were written
  have hfilled := filled_of_accepted hcreate hcalls hwrites
  -- the commit removes the state file and adds the manifest
  obtain ⟨manifestBytes, hpassing, hpublished⟩ := BundleSetting.of_commit hcommit
  obtain ⟨manifestMtime, hget⟩ := hpublished.get
  have hthere : m'.state.tree.get [manifestName] = some (.file manifestBytes manifestMtime) := by
    rw [hget, Function.update_self]
  obtain ⟨hreconstruction, hinventory⟩ := of_validateForCommit hpassing.validated
  have hfiles := of_inventory hinventory
  constructor
  · -- a file of that name is found, but it is not in the inventory
    intro hvalid call hcall relative hrelative hname
    obtain ⟨bytes, mtime, hvalidated⟩ := validateCommittedBundle_eq_ok.mp hvalid
    have hmem : relative ∈ calls.filterMap BundleCall.target :=
      List.mem_filterMap.mpr ⟨call, hcall, hrelative⟩
    have hevidence := hfilled.evidence relative hmem
    have hfile := (hfilled.files _).mpr (.inr ⟨relative, hmem, rfl⟩)
    generalize (PurePosixPath.ofStr relative).tail = path at hname hevidence hfile
    obtain ⟨data, time, hfile⟩ := FileTree.isFile_iff.mp hfile
    have hstate : path ≠ [stateName] := by
      rintro rfl
      exact absurd hevidence.1 (by decide)
    have hmanifest : path ≠ [manifestName] := by
      rintro rfl
      exact absurd hevidence.1 (by decide)
    have hread : m.state.tree.readBytes path = some data :=
      FileTree.readBytes_eq_some.mpr ⟨time, hfile⟩
    have hread' : m'.state.tree.readBytes path = some data := by
      rw [FileTree.readBytes_congr (hpublished.get_of_ne hstate hmanifest), hread]
    have hfound := (FileTree.mem_map_filesWhere
      (fun path => path.getLast? ≠ some manifestName) hread').mpr (by
        rw [decide_eq_true_eq, hname]
        decide)
    rw [hvalidated.listing, hfiles, List.map_map] at hfound
    have hlisted := (FileTree.mem_map_filesWhere _ hread).mp hfound
    exact (of_decide_eq_true hlisted).1 hname
  · intro hnames
    have hother : ∀ path, m.state.tree.isFile path = true → path.getLast? = some stateName →
        path = [stateName] := by
      intro path hfile hname
      rcases (hfilled.files path).mp hfile with hstate | ⟨relative, hmem, rfl⟩
      · exact hstate
      · obtain ⟨call, hcall, hrelative⟩ := List.mem_filterMap.mp hmem
        exact absurd hname (hnames call hcall relative hrelative)
    obtain ⟨hvalid, -, -⟩ := BundleSetting.valid_of_manifestOf hpassing.built
    refine validateCommittedBundle_eq_ok.mpr ⟨manifestBytes, manifestMtime, hthere,
      Stage2BundleManifest.modelValidateJson_line hvalid hpassing.line, ?_, ?_, ?_, ?_⟩
    · -- the listing is the inventory
      have hlisting : m'.state.tree.filesWhere (fun path => path.getLast? ≠ some manifestName) =
          m.state.tree.filesWhere fun path =>
            path.getLast? ≠ some stateName ∧ path.getLast? ≠ some manifestName := by
        apply FileTree.filesWhere_eq
        intro path data
        simp only [decide_eq_true_eq]
        by_cases hmanifest : path.getLast? = some manifestName
        · exact iff_of_false (fun h => h.1 hmanifest) fun h => h.1.2 hmanifest
        have hne : path ≠ [manifestName] := by
          rintro rfl
          exact hmanifest rfl
        by_cases hstate : path = [stateName]
        · subst hstate
          refine iff_of_false (fun h => ?_) fun h => h.1.1 rfl
          have hnone : m'.state.tree.readBytes [stateName] = none := by
            rw [FileTree.readBytes, hget, Function.update_of_ne (by decide),
              Function.update_self]
          rw [hnone] at h
          cases h.2
        · rw [FileTree.readBytes_congr (hpublished.get_of_ne hstate hne)]
          constructor
          · rintro ⟨-, hread⟩
            refine ⟨⟨fun hname => hstate (hother path ?_ hname), hmanifest⟩, hread⟩
            obtain ⟨time, hfile⟩ := FileTree.readBytes_eq_some.mp hread
            exact FileTree.isFile_iff.mpr ⟨data, time, hfile⟩
          · rintro ⟨-, hread⟩
            exact ⟨hmanifest, hread⟩
      rw [hlisting, hfiles, List.map_map]
      rfl
    · -- the entries are those of the files
      intro entry hentry
      rw [hfiles] at hentry
      obtain ⟨file, hfile, rfl⟩ := List.mem_map.mp hentry
      obtain ⟨path, time, hne, hfound, hkeep, htext⟩ := FileTree.mem_filesWhere.mp hfile
      have hkeep := of_decide_eq_true hkeep
      have hnames' := FileTree.names_of_get (show m.state.tree.get path ≠ none by simp [hfound])
      have hsame : m'.state.tree.get path = some (.file file.2 time) := by
        rw [hpublished.get_of_ne ?_ ?_, hfound]
        · rintro rfl
          exact hkeep.1 rfl
        · rintro rfl
          exact hkeep.2 rfl
      refine checkListedFile_eq_ok.mpr ⟨file.2, time, ?_, rfl, rfl,
        htimes path file.2 time manifestBytes manifestMtime hsame hthere⟩
      rw [htext, PurePosixPath.ofStr_joinPath hne hnames']
      exact hsame
    -- what is reconstructed is found again, since no derived file was touched
    · rw [hpublished.filesBeneath_eq (by decide) (by decide),
        hpublished.filesBeneath_eq (by decide) (by decide)]
      obtain ⟨expected, hexpected, hderived, -⟩ := of_validateReconstruction hreconstruction
      -- and so is the identity, from the raw files
      exact ⟨expected, hexpected, hderived⟩
    · rw [hpublished.filesBeneath_eq (by decide) (by decide)]
      obtain ⟨-, -, -, hidentity⟩ := of_validateReconstruction hreconstruction
      exact hidentity

end

/-! ## A file with the name of the state record -/

section

attribute [local instance] cpython sampleTimestamps

/-- Writes that a builder accepts; the reader does not accept what is committed then. -/
def nestedState : List BundleCall :=
  [.writeRaw (lit "raw/a.json") [91, 93, 10],
    .writeRaw (lit "raw/x/bundle-state.json") [91, 93, 10],
    .writeDerived (lit "derived/a.json") [91, 93, 10]]

theorem commit_nestedState :
    ∃ created m manifest m', sampleSetting.create emptyBundle = (.ok (), created) ∧
      accepted (BundleCall.run sampleSetting) created nestedState = some m ∧
      sampleSetting.commit sampleReconstruct false () m = (.ok manifest, m') ∧
      m'.state.tree.Newest [manifestName] ∧
      (validateCommittedBundle m'.state.tree sampleReconstruct).toOption = none := by
  have hcreated : (sampleSetting.create emptyBundle).1 = .ok () := by decide +kernel
  have hrun : ∃ m, accepted (BundleCall.run sampleSetting) (sampleSetting.create emptyBundle).2
        nestedState = some m ∧
      ((sampleSetting.commit sampleReconstruct false () m).1.toOption.any (fun _ => True) = true ∧
        (sampleSetting.commit sampleReconstruct false () m).2.state.tree.Newest [manifestName] ∧
        (validateCommittedBundle (sampleSetting.commit sampleReconstruct false () m).2.state.tree
          sampleReconstruct).toOption = none) := by
    apply exists_eq_some
    decide +kernel
  obtain ⟨m, haccepted, hcommit, hnewest, hrejected⟩ := hrun
  obtain ⟨manifest, hmanifest, -⟩ :
      ∃ manifest, (sampleSetting.commit sampleReconstruct false () m).1 = .ok manifest ∧ True :=
    exists_eq_ok (by simpa using hcommit)
  exact ⟨_, m, manifest, _, Method.eq_mk_snd hcreated, haccepted, Method.eq_mk_snd hmanifest,
    hnewest, hrejected⟩

/-- The reader rejects it. -/
theorem exists_committed_not_validated :
    ∃ created m manifest m', sampleSetting.create emptyBundle = (.ok (), created) ∧
      accepted (BundleCall.run sampleSetting) created nestedState = some m ∧
      sampleSetting.commit sampleReconstruct false () m = (.ok manifest, m') ∧
      m'.state.tree.Newest [manifestName] ∧
      validateCommittedBundle m'.state.tree sampleReconstruct ≠ .ok manifest := by
  obtain ⟨created, m, manifest, m', hcreated, haccepted, hcommit, hnewest, hrejected⟩ :=
    commit_nestedState
  refine ⟨created, m, manifest, m', hcreated, haccepted, hcommit, hnewest, fun hvalid => ?_⟩
  rw [hvalid] at hrejected
  cases hrejected

theorem validate_commit_nestedState :
    ∃ (m' : Machine Stage2BundleBuilder) (manifest : Stage2BundleManifest),
      (validateCommittedBundle m'.state.tree sampleReconstruct = .ok manifest ↔
      ∀ call ∈ nestedState, ∀ relative ∈ call.target,
        (PurePosixPath.ofStr relative).tail.getLast? ≠ some stateName) ∧
      m'.state.tree.has [manifestName] = true := by
  obtain ⟨created, m, manifest, m', hcreated, haccepted, hcommit, hnewest, -⟩ :=
    commit_nestedState
  obtain ⟨manifestBytes, -, hpublished⟩ := BundleSetting.of_commit hcommit
  obtain ⟨time, hget⟩ := hpublished.get
  refine ⟨m', manifest, validate_commit_iff hcreated haccepted (by decide) hcommit hnewest, ?_⟩
  rw [FileTree.has_iff, hget, Function.update_self]
  simp

end

end Stage2
