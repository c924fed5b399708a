import LlmInferenceSystems.Stage2.BundleCommit

/-!
# Commits that are cut short

One call of a commit fails, or the process goes away at one. Where a call failed, the commit takes
the manifest away and records the bundle as invalid. Where the process went away, a reader sees a
committed bundle only when the manifest was in place, and then every file is.

## Main definitions

* `BundleSetting.failing`: a world in which one more call fails
* `Tidy`: what stands at the root of a bundle
* `durabilityCalls`: how many calls a commit makes

## Main results

* `BundleSetting.recordCommitFailure_triple`: the recovery, when nothing else fails
* `tidy_stateAfter`: a bundle stays tidy while no call fails
* `commit_manifestLast`: the manifest comes last, whichever call fails
-/

namespace Stage2

open Python

namespace BundleSetting

variable {setting : BundleSetting}

/-! ## Where the programs crash -/

theorem fileCall_crashes (place : Place) (call : ℤ → FileTree → Option FileTree) :
    CrashesInWorld setting.world (setting.fileCall place call) := CrashesInWorld.syscall _

theorem syncPath_crashes (place : Place) (path : RelPath) :
    CrashesInWorld setting.world (setting.syncPath place path) := fileCall_crashes _ _

theorem durableWrite_crashes (place : Place) (path : RelPath) (data : Bytes) :
    CrashesInWorld setting.world (setting.durableWrite place path data) := by
  unfold durableWrite
  apply CrashesInWorld.ite (CrashesInWorld.throwing _)
  apply CrashesInWorld.tryFinally
  · apply CrashesInWorld.compute_bind
    intro _
    apply CrashesInWorld.bind (fileCall_crashes _ _)
    intro _
    apply CrashesInWorld.bind (fileCall_crashes _ _)
    intro _
    apply CrashesInWorld.bind (syncPath_crashes _ _)
    intro _
    apply CrashesInWorld.bind (fileCall_crashes _ _)
    exact fun _ => syncPath_crashes _ _
  · apply CrashesInWorld.getState_bind
    intro _
    exact CrashesInWorld.ite (fileCall_crashes _ _) (CrashesInWorld.pure _)

theorem prepareParents_crashes (current parts : RelPath) :
    CrashesInWorld setting.world (setting.prepareParents current parts) := by
  induction parts generalizing current with
  | nil => exact CrashesInWorld.pure _
  | cons part parts ih =>
    unfold prepareParents
    apply CrashesInWorld.getState_bind
    intro builder
    apply CrashesInWorld.ite
    · exact CrashesInWorld.ite (ih _) (CrashesInWorld.throwing _)
    · apply CrashesInWorld.compute_bind
      intro _
      apply CrashesInWorld.bind (fileCall_crashes _ _)
      intro _
      apply CrashesInWorld.bind (syncPath_crashes _ _)
      exact fun _ => ih _

theorem publish_crashes (manifestBytes : Bytes) :
    CrashesInWorld setting.world (setting.publish manifestBytes) := by
  unfold publish
  apply CrashesInWorld.bind (syncPath_crashes _ _)
  intro _
  apply CrashesInWorld.bind (CrashesInWorld.syscall _)
  intro _
  apply CrashesInWorld.bind (CrashesInWorld.syscall _)
  intro _
  apply CrashesInWorld.bind (fileCall_crashes _ _)
  intro _
  apply CrashesInWorld.bind (syncPath_crashes _ _)
  exact fun _ => durableWrite_crashes _ _ _

section

variable [Interpreter]

theorem writeStateAt_crashes (place : Place) (state : BundleState) (phase : Str)
    (reason lastValidBoundary : Option Str) :
    CrashesInWorld setting.world
      (setting.writeStateAt place state phase reason lastValidBoundary) := by
  unfold writeStateAt
  apply CrashesInWorld.bind (CrashesInWorld.setState _)
  intro _
  apply CrashesInWorld.getState_bind
  intro builder
  apply CrashesInWorld.ite
  · apply CrashesInWorld.compute_bind
    exact fun data => durableWrite_crashes place [stateName] data
  · exact CrashesInWorld.throwing _

theorem writeEvidence_crashes (start : String) (relative : Str) (data : Bytes) :
    CrashesInWorld setting.world (setting.writeEvidence start relative data) := by
  unfold writeEvidence
  apply CrashesInWorld.getState_bind
  intro builder
  apply CrashesInWorld.compute_bind
  intro path
  apply CrashesInWorld.bind (prepareParents_crashes _ _)
  intro _
  apply CrashesInWorld.getState_bind
  intro prepared
  apply CrashesInWorld.ite (CrashesInWorld.throwing _)
  apply CrashesInWorld.bind (durableWrite_crashes _ _ _)
  exact fun _ => writeStateAt_crashes _ _ _ _ _

/-! ## The recovery -/

/-- The manifest has been taken away, if it was there. -/
structure Cleared (m₀ m : Machine Stage2BundleBuilder) : Prop where
  place : m.state.place = m₀.state.place
  sequence : m.state.sequence = m₀.state.sequence
  calls : m₀.calls ≤ m.calls
  get : m.state.tree.get = Function.update m₀.state.tree.get [manifestName] none

/-- The record of a failed commit. -/
def failureRecord (m : Machine Stage2BundleBuilder) : BundleStateRecord :=
  nextRecord m .invalid (lit "COMMIT") (some (lit "DURABILITY_OPERATION_FAILED"))
    (some (lit "RECONSTRUCTION_VALIDATED"))

omit [Interpreter] in
theorem valid_failureRecord (m : Machine Stage2BundleBuilder) : (failureRecord m).Valid := by
  have hphase : IsIdentifier (lit "COMMIT") := ⟨by decide, by decide, encodable_lit _⟩
  refine ⟨by simp [failureRecord, nextRecord], hphase, ?_, ?_,
    by simp [failureRecord, nextRecord]⟩
  · rintro reason ⟨⟩
    exact ⟨by decide, by decide, encodable_lit _⟩
  · rintro boundary ⟨⟩
    exact ⟨by decide, by decide, encodable_lit _⟩

/-- A directory whose commit was recorded as failed. -/
structure RecordedFailure (tree : FileTree) : Prop where
  manifest : tree.get [manifestName] = none
  record : ∃ (record : BundleStateRecord) (data : Bytes),
    tree.readBytes [stateName] = some data ∧ record.Valid ∧ record.line = .ok data ∧
      record.state = .invalid

omit [Interpreter] in
/-- The temporary file of the state record is neither the record nor the manifest. -/
theorem temporaryPath_stateName (setting : BundleSetting) :
    setting.temporaryPath [stateName] ≠ [manifestName] :=
  (ne_temporaryPath extension_manifestName).symm

/-- The record of a failure is written when no call fails. -/
theorem writeFailure_triple {m₀ : Machine Stage2BundleBuilder}
    (hquiet : ∀ n, m₀.calls ≤ n → setting.world.fault n = .none)
    (hready : setting.Ready m₀.state m₀.state.place [stateName])
    (hshort : m₀.state.sequence + 1 < maxInt) :
    Triple (Cleared m₀) (setting.writeStateAt m₀.state.place .invalid (lit "COMMIT")
        (some (lit "DURABILITY_OPERATION_FAILED")) (some (lit "RECONSTRUCTION_VALIDATED")))
      { returned := fun _ m => m₀.calls ≤ m.calls ∧ RecordedFailure m.state.tree
        raised := fun _ _ => False
        crashed := fun _ => False } := by
  apply Triple.of_machine
  intro m₁ hm₁
  -- nothing is in the way of the record
  have hready₁ : setting.Ready m₁.state m₀.state.place [stateName] := by
    refine ⟨hm₁.place, hready.nonempty, hready.names, ?_, ?_, ?_⟩
    · exact FileTree.get_nil _
    · rw [hm₁.get, Function.update_of_ne (temporaryPath_stateName setting)]
      exact hready.fresh
    · rw [hm₁.get, Function.update_of_ne (by decide)]
      exact hready.target
  refine Triple.mono ((writeStateAt_crashes _ _ _ _ _).triple
    (writeStateAt_triple m₁ m₀.state.place .invalid (lit "COMMIT")
      (some (lit "DURABILITY_OPERATION_FAILED")) (some (lit "RECONSTRUCTION_VALIDATED"))))
    (fun _ hm => hm) ?_ ?_ ?_
  · rintro - m ⟨⟨data, hvalid, hline, hwritten⟩, hpassed⟩
    obtain ⟨time, hget⟩ := hwritten.replaced.get
    refine ⟨hm₁.calls.trans hpassed.1, ?_, failureRecord m₁, data, ?_, hvalid, hline, rfl⟩
    · rw [hget, Function.update_of_ne (by decide)]
      show m₁.state.tree.get _ = _
      rw [hm₁.get, Function.update_self]
    · rw [FileTree.readBytes_eq_some]
      exact ⟨time, by rw [hget, Function.update_self]⟩
  · rintro e m ⟨hstops, -⟩
    cases hstops with
    | invalid invalid => exact invalid (valid_failureRecord m₁)
    | long valid long other =>
      have hlong : maxInt ≤ m₁.state.sequence + 1 := long
      rw [hm₁.sequence] at hlong
      exact Nat.not_lt.mpr hlong hshort
    | call valid line partly fault =>
      obtain ⟨n, hle, -, hfault⟩ := fault hready₁
      exact hfault (hquiet n (hm₁.calls.trans hle))
  · rintro m ⟨-, hle, hcrash⟩
    rw [hquiet m.calls (hm₁.calls.trans hle)] at hcrash
    cases hcrash

/-- **The recovery, when no more call fails**: the manifest is gone and the record is invalid. -/
theorem recordCommitFailure_triple (m₀ : Machine Stage2BundleBuilder)
    (hquiet : ∀ n, m₀.calls ≤ n → setting.world.fault n = .none)
    (hready : setting.Ready m₀.state m₀.state.place [stateName])
    (hmanifest : m₀.state.tree.get [manifestName] ≠ some .directory)
    (hshort : m₀.state.sequence + 1 < maxInt) :
    Triple (· = m₀) setting.recordCommitFailure
      { returned := fun _ m => RecordedFailure m.state.tree
        raised := fun _ _ => False
        crashed := fun _ => False } := by
  have hrest : Triple (Cleared m₀)
      (do
        setting.writeStateAt m₀.state.place .invalid (lit "COMMIT")
          (some (lit "DURABILITY_OPERATION_FAILED")) (some (lit "RECONSTRUCTION_VALIDATED"))
        if m₀.state.place = .final then setting.syncParent : BundleEffect Unit)
      { returned := fun _ m => RecordedFailure m.state.tree
        raised := fun _ _ => False
        crashed := fun _ => False } := by
    apply Triple.bind (writeFailure_triple hquiet hready hshort)
    intro _
    apply Triple.ite
    · intro _
      apply Triple.syscall
      · rintro m ⟨-, hm⟩ - s ⟨⟩
        exact hm
      · rintro m ⟨hle, -⟩ hreason
        rw [hquiet m.calls hle] at hreason
        rcases hreason with hfault | ⟨-, hnone⟩
        · cases hfault
        · cases hnone
      · rintro m ⟨hle, -⟩ hfault
        rw [hquiet m.calls hle] at hfault
        cases hfault
    · intro _
      exact Triple.pure fun m hm => hm.2
  unfold recordCommitFailure
  refine Triple.getState_bind_of_eq m₀.state (fun m hm => hm ▸ rfl) ?_
  apply Triple.ite
  · intro hthere
    -- the manifest is taken away
    have hunlink : Triple (· = m₀)
        (setting.fileCall m₀.state.place fun _ tree => tree.unlink [manifestName])
        { returned := fun _ => Cleared m₀
          raised := fun _ _ => False
          crashed := fun _ => False } := by
      apply fileCall_triple
      · rintro m rfl - - tree htree
        exact ⟨rfl, rfl, Nat.le_succ _, FileTree.get_unlink htree⟩
      · rintro m rfl hreason
        rcases hreason with hfault | hplace | hnone
        · exact hfault (hquiet m.calls (Nat.le_refl _))
        · exact hplace rfl
        · have hfile := FileTree.isFile_of_has hthere fun hdir =>
            hmanifest (FileTree.isDir_iff.mp hdir)
          obtain ⟨tree, htree⟩ := FileTree.exists_remove hfile
          rw [show m.state.tree.unlink [manifestName] = some tree from htree] at hnone
          cases hnone
      · rintro m rfl hfault
        exact hfault (hquiet m.calls (Nat.le_refl _))
    exact Triple.bind hunlink fun _ => hrest
  · intro hnone
    refine Triple.of_pre hrest ?_
    rintro m rfl
    refine ⟨rfl, rfl, Nat.le_refl _, ?_⟩
    have hget : m.state.tree.get [manifestName] = none :=
      FileTree.has_eq_false.mp (Bool.eq_false_of_not_eq_true hnone)
    rw [← hget, Function.update_eq_self]

theorem RecordedFailure.inspect [Timestamps] {tree : FileTree} (h : RecordedFailure tree) :
    inspectBundleState tree = .ok .invalid := by
  obtain ⟨record, data, hread, hvalid, hline, hstate⟩ := h.record
  have hmanifest : tree.readBytes [manifestName] = none := by
    rw [FileTree.readBytes, h.manifest]
  simp only [inspectBundleState, hmanifest, hread,
    BundleStateRecord.modelValidateJson_line hvalid hline]
  rw [← hstate]
  rfl

end

end BundleSetting

/-! ## Tidy bundles -/

/-- Only the bundle's own directories and files stand at the root. -/
structure Tidy (tree : FileTree) : Prop where
  root : ∀ name, tree.get [name] ≠ none →
    name = lit "raw" ∨ name = lit "derived" ∨ name = stateName ∨ name = manifestName
  state : tree.get [stateName] ≠ some .directory

/-- No temporary file was left at the root. -/
theorem Tidy.fresh {tree : FileTree} (h : Tidy tree) (setting : BundleSetting)
    (name : Str) : tree.get (setting.temporaryPath [name]) = none := by
  have hpath : setting.temporaryPath [name] =
      [46 :: (name ++ lit ".tmp-" ++ decimal setting.pid)] := by
    simp [BundleSetting.temporaryPath, show lit "." = [46] from rfl]
  rw [hpath]
  by_contra hthere
  have hroots := h.root _ hthere
  -- its name starts with a full stop
  have hhead : ∀ own ∈ [lit "raw", lit "derived", stateName, manifestName], own.head? ≠ some 46 := by
    decide
  rcases hroots with hname | hname | hname | hname
  · exact hhead _ (by simp) (congrArg List.head? hname).symm
  · exact hhead _ (by simp) (congrArg List.head? hname).symm
  · exact hhead _ (by simp) (congrArg List.head? hname).symm
  · exact hhead _ (by simp) (congrArg List.head? hname).symm

/-- Nothing is in the way of a state record. -/
theorem Tidy.ready {builder : Stage2BundleBuilder} (h : Tidy builder.tree) (setting : BundleSetting) :
    setting.Ready builder builder.place [stateName] :=
  ⟨rfl, by simp, by decide, FileTree.get_nil _, h.fresh setting stateName, h.state⟩

theorem Tidy.mono {tree tree' : FileTree} (h : Tidy tree)
    (hroot : ∀ name, tree'.get [name] = tree.get [name] ∨ name = lit "raw" ∨
      name = lit "derived" ∨ name = stateName ∧ tree'.get [name] ≠ some .directory) :
    Tidy tree' := by
  refine ⟨fun name hthere => ?_, fun hdir => ?_⟩
  · rcases hroot name with hsame | hraw | hderived | ⟨hstate, -⟩
    · rw [hsame] at hthere
      exact h.root name hthere
    · exact .inl hraw
    · exact .inr (.inl hderived)
    · exact .inr (.inr (.inl hstate))
  · rcases hroot stateName with hsame | hraw | hderived | ⟨-, hnot⟩
    · exact h.state (hsame.symm.trans hdir)
    · exact absurd hraw (by decide)
    · exact absurd hderived (by decide)
    · exact hnot hdir

/-- A directory that is not published is tidy. -/
def TidyHere (m : Machine Stage2BundleBuilder) : Prop :=
  m.state.place = .staging → Tidy m.state.tree

namespace BundleSetting

variable {setting : BundleSetting}

section

variable [Interpreter]

omit [Interpreter] in
/-- A state record at the root. -/
theorem Replaced.tidy {m₀ m : Machine Stage2BundleBuilder} {data : Bytes}
    (h : Replaced (counted m₀) [stateName] data m) (hm₀ : TidyHere m₀) : TidyHere m := by
  intro hstaging
  obtain ⟨time, hget⟩ := h.get
  refine (hm₀ (h.place.symm.trans hstaging)).mono fun name => ?_
  by_cases hname : name = stateName
  · subst hname
    refine .inr (.inr (.inr ⟨rfl, ?_⟩))
    rw [hget, Function.update_self]
    simp
  · left
    rw [hget, Function.update_of_ne (by simpa using hname)]
    rfl

/-- Where the root is tidy, only a fault can stop a record. -/
theorem RecordStops.tidy (hquiet : ∀ n, setting.world.fault n = .none)
    {m₀ m : Machine Stage2BundleBuilder} {place : Place} {record : BundleStateRecord} {e : PyError}
    (h : setting.RecordStops m₀ place record e m) (hplace : m₀.state.place = place)
    (hm₀ : TidyHere m₀) : TidyHere m := by
  cases h with
  | invalid invalid => exact hm₀
  | long valid long other => exact hm₀
  | call valid line partly fault =>
    intro hstaging
    have hready := (hm₀ (partly.place.symm.trans hstaging)).ready setting
    rw [hplace] at hready
    obtain ⟨n, -, -, hfault⟩ := fault hready
    exact absurd (hquiet n) hfault

/-- The path of evidence leads below the root. -/
theorem below_of_checkEvidence {builder : Stage2BundleBuilder} {start : String}
    (hstart : start = "raw" ∨ start = "derived") {relative : Str} {data : Bytes}
    {path : PurePosixPath} (h : checkEvidence builder start relative data = .ok path) :
    path.tail.dropLast.head? = some (lit start) := by
  have haccepted := of_checkEvidence h
  have hbeneath := haccepted.beneath
  have hextension := haccepted.extension
  generalize path.tail = tail at hbeneath hextension
  rcases tail with _ | ⟨first, _ | ⟨second, tail⟩⟩
  · cases hbeneath
  · -- the directory itself has no allowed suffix
    obtain rfl : first = lit start := Option.some.inj hbeneath
    rcases hstart with rfl | rfl
    · exact absurd hextension (by decide)
    · exact absurd hextension (by decide)
  · rw [List.dropLast_cons_cons, List.head?_cons]
    exact hbeneath

/-- A write of evidence leaves the root tidy. -/
theorem writeEvidence_tidy (hquiet : ∀ n, setting.world.fault n = .none) {start : String}
    (hstart : start = "raw" ∨ start = "derived") (relative : Str) (data : Bytes) :
    Triple TidyHere (setting.writeEvidence start relative data) (.always TidyHere) := by
  apply Triple.of_machine
  intro m₀ hm₀
  have hlit : lit start = lit "raw" ∨ lit start = lit "derived" := by
    rcases hstart with rfl | rfl
    · exact .inl rfl
    · exact .inr rfl
  -- directories are made beneath `raw/` or `derived/`
  have hmade : ∀ {path m}, checkEvidence m₀.state start relative data = .ok path →
      Made m₀ path.tail.dropLast m → ∀ name, m.state.tree.get [name] = m₀.state.tree.get [name] ∨
        name = lit "raw" ∨ name = lit "derived" := by
    intro path m hchecked hmade name
    rcases hmade.get [name] with hsame | ⟨-, -, hle⟩
    · exact .inl hsame
    · right
      have hhead := below_of_checkEvidence hstart hchecked
      obtain ⟨more, hmore⟩ := hle
      rw [← hmore] at hhead
      rw [show name = lit start from Option.some.inj hhead]
      exact hlit
  -- so are the file and its temporary file
  have hlong : ∀ {path}, checkEvidence m₀.state start relative data = .ok path →
      ∀ name, [name] ≠ path.tail ∧ [name] ≠ setting.temporaryPath path.tail := by
    intro path hchecked name
    have hhead := below_of_checkEvidence hstart hchecked
    constructor
    · intro heq
      rw [← heq] at hhead
      cases hhead
    · intro heq
      rw [← dropLast_temporaryPath setting, ← heq] at hhead
      cases hhead
  have htidy : ∀ m, m.state.place = m₀.state.place →
      (∀ name, m.state.tree.get [name] = m₀.state.tree.get [name] ∨ name = lit "raw" ∨
        name = lit "derived") → TidyHere m := by
    intro m hplace hroot hstaging
    refine (hm₀ (hplace.symm.trans hstaging)).mono fun name => ?_
    rcases hroot name with hsame | hraw | hderived
    · exact .inl hsame
    · exact .inr (.inl hraw)
    · exact .inr (.inr (.inl hderived))
  have hfile : ∀ {path m₁ m}, setting.FileWritten m₀ start relative data path m₁ m →
      m.state.place = .staging ∧ TidyHere m := by
    intro path m₁ m hwritten
    have hprepared := hwritten.prepared.made List.prefix_rfl m₁.calls
    obtain ⟨time, hget⟩ := hwritten.written.replaced.get
    have hplace := hwritten.written.replaced.place
    refine ⟨hplace.trans hwritten.written.place, htidy m (hplace.trans hprepared.place) ?_⟩
    intro name
    rw [hget, Function.update_of_ne (hlong hwritten.checked name).1]
    exact hmade hwritten.checked hprepared name
  refine ((writeEvidence_crashes start relative data).triple
    (writeEvidence_triple m₀ start relative data)).to_always ?_ ?_ ?_
  · rintro - m ⟨⟨path, m₁, m₂, bytes, hwritten⟩, -⟩
    exact hwritten.recorded.replaced.tidy (hfile hwritten.file).2
  · rintro e m ⟨hstops, -⟩
    cases hstops with
    | check rejected => exact hm₀
    | parents checked stops =>
      cases stops with
      | parent above file => exact hm₀
      | @refused _ _ _ _ above prepared refused other =>
        have hprepared := prepared.made ((List.prefix_append _ _).trans above) m.calls
        exact htidy m hprepared.place (hmade checked hprepared)
      | call made => exact htidy m made.place (hmade checked made)
    | taken checked prepared there =>
      have hprepared := prepared.made List.prefix_rfl m.calls
      exact htidy m hprepared.place (hmade checked hprepared)
    | @file path _ m₁ _ checked prepared free stops =>
      have hprepared := prepared.made List.prefix_rfl m₁.calls
      cases stops with
      | size large => exact htidy _ hprepared.place (hmade checked hprepared)
      | path size refused other => exact htidy _ hprepared.place (hmade checked hprepared)
      | call size partly fault =>
        refine htidy m (partly.place.trans hprepared.place) fun name => ?_
        obtain ⟨hpath, htemporary⟩ := hlong checked name
        obtain ⟨node, hget | ⟨-, time, hget⟩⟩ := partly.get
        · rw [hget, Function.update_of_ne htemporary]
          exact hmade checked hprepared name
        · rw [hget, Function.update_of_ne hpath, Function.update_of_ne htemporary]
          exact hmade checked hprepared name
    | record file stops =>
      obtain ⟨hplace, hm₂⟩ := hfile file
      exact stops.tidy hquiet hplace hm₂
  · rintro m ⟨-, -, hcrash⟩
    rw [hquiet] at hcrash
    cases hcrash

/-- A record leaves the root tidy. -/
theorem writeStateAt_tidy (hquiet : ∀ n, setting.world.fault n = .none) (place : Place)
    (state : BundleState) (phase : Str) (reason lastValidBoundary : Option Str) :
    Triple (fun m => m.state.place = place ∧ TidyHere m)
      (setting.writeStateAt place state phase reason lastValidBoundary) (.always TidyHere) := by
  apply Triple.of_machine
  rintro m₀ ⟨hplace, hm₀⟩
  refine ((writeStateAt_crashes _ _ _ _ _).triple
    (writeStateAt_triple m₀ place state phase reason lastValidBoundary)).to_always ?_ ?_ ?_
  · rintro - m ⟨⟨data, -, -, hwritten⟩, -⟩
    exact hwritten.replaced.tidy hm₀
  · rintro e m ⟨hstops, -⟩
    exact hstops.tidy hquiet hplace hm₀
  · rintro m ⟨-, -, hcrash⟩
    rw [hquiet] at hcrash
    cases hcrash

theorem invalidate_tidy (hquiet : ∀ n, setting.world.fault n = .none) (phase reason : Str)
    (lastValidBoundary : Option Str) :
    Triple TidyHere (setting.invalidate phase reason lastValidBoundary) (.always TidyHere) := by
  unfold invalidate
  apply Triple.getState_bind
  intro s
  apply Triple.ite
  · exact fun _ => Triple.throwing fun m hm => hm.1
  · intro hplace
    apply Triple.compute_bind (fun _ _ m hm => hm.1)
    intro record _
    refine Triple.of_pre (writeStateAt_tidy hquiet .staging _ _ _ _) ?_
    rintro m ⟨hm, rfl⟩
    exact ⟨not_not.mp hplace, hm⟩

variable [Timestamps]

/-- A commit publishes the directory or leaves its root tidy. -/
theorem commit_tidy (hquiet : ∀ n, setting.world.fault n = .none) (reconstruct : Reconstructor)
    (crashBeforeManifest : Bool) (now : Timestamps.Timestamp) :
    Triple TidyHere (setting.commit reconstruct crashBeforeManifest now) (.always TidyHere) := by
  unfold commit
  apply Triple.getState_bind
  intro s
  have hpre : ∀ m, TidyHere m ∧ m.state = s → TidyHere m := fun m hm => hm.1
  refine Triple.compute_bind (fun _ _ => hpre) ?_
  intro record hrecord
  split
  · -- the validation failed
    apply Triple.bind_always (Triple.of_pre (invalidate_tidy hquiet _ _ _) hpre)
    intro _
    apply Triple.ite
    · exact fun _ => Triple.throwing fun _ hm => hm
    · exact fun _ => Triple.throwing fun _ hm => hm
  · apply Triple.ite
    · exact fun _ => Triple.throwing hpre
    intro _
    refine Triple.compute_bind (fun _ _ => hpre) ?_
    intro manifest _
    refine Triple.compute_bind (fun _ _ => hpre) ?_
    intro manifestBytes _
    -- what is published stands at the final path
    have htidy : ∀ m, m.state.place = .final → TidyHere m := by
      intro m hfinal hstaging
      rw [hfinal] at hstaging
      cases hstaging
    have hpublish : Triple (fun m => TidyHere m ∧ m.state = s) (setting.publish manifestBytes)
        (.always fun m => m.state.place = .final) := by
      apply Triple.of_machine
      rintro m₀ ⟨-, rfl⟩
      obtain ⟨hplace, hstate⟩ := of_requireIncomplete hrecord
      refine ((publish_crashes manifestBytes).triple
        (publish_triple m₀ manifestBytes hplace hstate)).to_always ?_ ?_ ?_
      · exact fun _ m hm => hm.1.place
      · rintro e m ⟨hstops, -⟩
        cases hstops with
        | early stands fault =>
          obtain ⟨n, -, -, hfault⟩ := fault
          exact absurd (hquiet n) hfault
        | manifest stage stops =>
          cases stops with
          | size large => exact stage.place
          | path size refused other => exact stage.place
          | call size partly fault => exact partly.place.trans stage.place
      · rintro m ⟨-, -, hcrash⟩
        rw [hquiet] at hcrash
        cases hcrash
    have hhandled : Triple (fun m => m.state.place = .final)
        (do
          tryExcept setting.recordCommitFailure (fun e => e = .os ∨ e.isStage2Bundle) fun _ =>
            throwing (.stage2Bundle
              "bundle commit failed and invalid-state durability could not be confirmed")
          throwing (.stage2Bundle "bundle fsync or atomic rename failed") : BundleEffect Unit)
        (.always TidyHere) := by
      apply Triple.of_machine
      intro m₀ hfinal
      refine (Triple.of_pre (@handleFailure_after _ setting m₀.state) ?_).to_always ?_ ?_ ?_
      · rintro m rfl
        exact Later.refl _
      · exact fun _ m hm => htidy m (hm.final hfinal)
      · exact fun _ m hm => htidy m (hm.final hfinal)
      · exact fun m hm => htidy m (hm.final hfinal)
    refine Triple.bind_always (Triple.tryExcept (Triple.mono hpublish (fun _ hm => hm)
      (fun _ m hm => htidy m hm) (fun _ _ hm => hm) fun m hm => htidy m hm)
      (fun _ m _ hm => htidy m hm) fun _ _ => hhandled) ?_
    exact fun _ => Triple.pure fun _ hm => hm

end

end BundleSetting

section

variable [Interpreter] [Timestamps] {setting : BundleSetting}

omit [Timestamps] in
theorem tidy_create (hquiet : ∀ n, setting.world.fault n = .none)
    {m : Machine Stage2BundleBuilder} (h : setting.create emptyBundle = (.ok (), m)) :
    TidyHere m := by
  -- an empty directory holds neither file
  have hempty : TidyHere emptyBundle := by
    intro _
    have hnone : ∀ name : Str, emptyBundle.state.tree.get [name] = none := fun name =>
      FileTree.get_empty (by simp)
    exact ⟨fun name hthere => absurd (hnone name) hthere, by simp [hnone]⟩
  -- syncing changes nothing
  have hsync : Triple TidyHere (setting.syncPath .staging []) (.always TidyHere) := by
    apply BundleSetting.fileCall_triple
    · intro m hm _ _ tree htree
      split at htree
      · obtain rfl := Option.some.inj htree
        exact hm
      · cases htree
    · exact fun m hm _ => hm
    · exact fun m hm _ => hm
  have hcreate : Triple (fun m => m.state.place = .staging ∧ TidyHere m) setting.create
      (.always TidyHere) := by
    unfold BundleSetting.create
    -- the first record is a state file, and the calls after it only sync
    apply Triple.bind_always (BundleSetting.writeStateAt_tidy hquiet .staging _ _ _ _)
    intro _
    apply Triple.bind_always hsync
    intro _
    apply Triple.syscall
    · rintro m hm - s ⟨⟩
      exact hm
    · exact fun m hm _ => hm
    · exact fun m hm _ => hm
  exact hcreate.returned_of ⟨rfl, hempty⟩ h

/-- **A bundle stays tidy while no call fails.** -/
theorem tidy_stateAfter (hquiet : ∀ n, setting.world.fault n = .none)
    {m₀ : Machine Stage2BundleBuilder} (h : setting.create emptyBundle = (.ok (), m₀))
    (calls : List BundleCall) : TidyHere (stateAfter (BundleCall.run setting) m₀ calls) := by
  refine Method.Keeps.stateAfter (fun call m hm => ?_) (tidy_create hquiet h) calls
  cases call with
  | writeRaw relative data =>
    exact (BundleSetting.writeEvidence_tidy hquiet (.inl rfl) relative data).always_apply hm
  | writeDerived relative data =>
    exact (BundleSetting.writeEvidence_tidy hquiet (.inr rfl) relative data).always_apply hm
  | invalidate phase reason lastValidBoundary =>
    exact (BundleSetting.invalidate_tidy hquiet phase reason lastValidBoundary).always_apply hm
  | commit reconstruct crashBeforeManifest now =>
    have hcommit : Triple TidyHere
        (BundleCall.run setting (.commit reconstruct crashBeforeManifest now))
        (.always TidyHere) := by
      apply Triple.bind_always
        (BundleSetting.commit_tidy hquiet reconstruct crashBeforeManifest now)
      exact fun _ => Triple.pure fun _ hm => hm
    exact hcommit.always_apply hm

/-! ## One failure during a commit -/

namespace BundleSetting

/-- The same setting, in a world in which the `k`th call has another fate. -/
def failing (setting : BundleSetting) (k : ℕ) (fault : Fault) : BundleSetting :=
  { setting with world := { setting.world with
      fault := Function.update setting.world.fault k fault } }

/-- How many calls a commit makes: a manifest that is too long is not written. -/
def durabilityCalls (manifestBytes : Bytes) : ℕ :=
  if maxStage2FileBytes < manifestBytes.length then 5 else 10

omit [Interpreter] [Timestamps] in
theorem fault_failing (hquiet : ∀ n, setting.world.fault n = .none) {k n : ℕ} {fault : Fault}
    (h : (setting.failing k fault).world.fault n ≠ .none) : n = k := by
  by_contra hne
  refine h ?_
  show Function.update setting.world.fault k fault n = .none
  rw [Function.update_of_ne hne, hquiet]

omit [Interpreter] [Timestamps] in
theorem fault_failing_self (setting : BundleSetting) (k : ℕ) (fault : Fault) :
    (setting.failing k fault).world.fault k = fault := Function.update_self ..

/-- A builder that is ready to commit: tidy, at the staging path, with a state record and without a
manifest. -/
structure Committable (m : Machine Stage2BundleBuilder) : Prop where
  place : m.state.place = .staging
  state : m.state.tree.isFile [stateName] = true
  tidy : Tidy m.state.tree
  manifest : m.state.tree.get [manifestName] = none

omit [Interpreter] [Timestamps] in
/-- What the directory of a committable builder is before the manifest is written. -/
theorem Committable.get_of_unpublished {m : Machine Stage2BundleBuilder} (hm : Committable m)
    {get : RelPath → Option Node}
    (h : get = m.state.tree.get ∨ get = Function.update m.state.tree.get [stateName] none)
    (setting : BundleSetting) :
    get [manifestName] = none ∧ get [stateName] ≠ some .directory ∧
      ∀ name, get (setting.temporaryPath [name]) = none := by
  have htemporary : ∀ name, setting.temporaryPath [name] ≠ [stateName] := fun name =>
    (ne_temporaryPath extension_stateName).symm
  rcases h with rfl | rfl
  · exact ⟨hm.manifest, hm.tidy.state, hm.tidy.fresh setting⟩
  · refine ⟨?_, ?_, fun name => ?_⟩
    · rw [Function.update_of_ne (by decide), hm.manifest]
    · rw [Function.update_self]
      simp
    · rw [Function.update_of_ne (htemporary name), hm.tidy.fresh setting name]

/-- After the `k`th call has failed, the recovery can do its work. -/
structure Recoverable (setting : BundleSetting) (k : ℕ) (m₀ m : Machine Stage2BundleBuilder) :
    Prop where
  calls : k < m.calls
  sequence : m.state.sequence = m₀.state.sequence
  ready : setting.Ready m.state m.state.place [stateName]
  manifest : m.state.tree.get [manifestName] ≠ some .directory

omit [Interpreter] [Timestamps] in
/-- A publication in which one call fails. -/
theorem publish_osError (hquiet : ∀ n, setting.world.fault n = .none)
    {m : Machine Stage2BundleBuilder} (hm : Committable m) {manifestBytes : Bytes} {k : ℕ}
    (hk : m.calls ≤ k) (hk' : k < m.calls + durabilityCalls manifestBytes) :
    Triple (· = m) ((setting.failing k .osError).publish manifestBytes)
      { returned := fun _ _ => False
        raised := fun e m' => e = .os ∧ (setting.failing k .osError).Recoverable k m m'
        crashed := fun _ => False } := by
  have hfails := setting.fault_failing_self k .osError
  refine Triple.mono ((publish_crashes manifestBytes).triple
    (publish_triple m manifestBytes hm.place hm.state)) (fun _ hm => hm) ?_ ?_ ?_
  · -- it does not return, since it makes the call that fails
    rintro _ m' ⟨hpublished, -⟩
    rw [durabilityCalls, if_neg (Nat.not_lt.mpr hpublished.size)] at hk'
    have hnone := hpublished.noFault k hk (by rw [hpublished.calls]; exact hk')
    rw [hfails] at hnone
    cases hnone
  · rintro e m' ⟨hstops, -⟩
    cases hstops with
    | early stands fault =>
      obtain ⟨n, -, hlt, hfault⟩ := fault
      obtain rfl := fault_failing hquiet hfault
      obtain ⟨hmanifest, hstate, hfresh⟩ :=
        hm.get_of_unpublished stands.get (setting.failing n .osError)
      refine ⟨rfl, hlt, stands.sequence, ?_, by simp [hmanifest]⟩
      exact ⟨rfl, by simp, by decide, FileTree.get_nil _, hfresh stateName, hstate⟩
    | @manifest _ m₁ _ stage stops =>
      obtain ⟨hmanifest, hstate, hfresh⟩ :=
        hm.get_of_unpublished (.inr rfl) (setting.failing k .osError)
      rw [← stage.get] at hmanifest hstate hfresh
      cases stops with
      | size large =>
        -- the call that fails came before the manifest
        rw [durabilityCalls, if_pos large] at hk'
        have hnone := stage.noFault k hk (by rw [stage.calls]; exact hk')
        rw [hfails] at hnone
        cases hnone
      | path size refused other => exact absurd fsEncodable_manifestName refused
      | call size partly fault =>
        obtain ⟨n, -, hlt, hfault⟩ := fault ⟨stage.place, by simp, by decide, FileTree.get_nil _,
          hfresh manifestName, by simp [hmanifest]⟩
        obtain rfl := fault_failing hquiet hfault
        -- the write touched the manifest and its temporary file only
        have hothers := (Framed.of_partly partly).others
        have hstate' := hothers [stateName] (by decide) extension_stateName
        have htemporary : m'.state.tree.get
            ((setting.failing n .osError).temporaryPath [stateName]) = none := by
          have hne : (setting.failing n .osError).temporaryPath [stateName] ≠
              (setting.failing n .osError).temporaryPath [manifestName] := by
            simp [temporaryPath, show stateName ≠ manifestName by decide]
          obtain ⟨node, hget | ⟨-, time, hget⟩⟩ := partly.get
          · rw [hget, Function.update_of_ne hne, hfresh]
          · rw [hget, Function.update_of_ne (temporaryPath_stateName _),
              Function.update_of_ne hne, hfresh]
        refine ⟨rfl, hlt, partly.sequence.trans stage.sequence, ?_, ?_⟩
        · refine ⟨rfl, by simp, by decide, FileTree.get_nil _, htemporary, ?_⟩
          rw [hstate']
          exact hstate
        · intro hdir
          obtain ⟨node, hget | ⟨-, time, hget⟩⟩ := partly.get
          · rw [hget, Function.update_of_ne (temporaryPath_ne _ _).symm, hmanifest] at hdir
            cases hdir
          · rw [hget, Function.update_self] at hdir
            cases hdir
  · rintro m' ⟨-, -, hcrash⟩
    obtain hsame := fault_failing hquiet (show _ ≠ Fault.none by rw [hcrash]; decide)
    rw [hsame, hfails] at hcrash
    cases hcrash

/-- **A call that fails**: the commit raises, and the bundle is invalid. -/
theorem commit_osError (hquiet : ∀ n, setting.world.fault n = .none)
    {m : Machine Stage2BundleBuilder} (hm : Committable m) {reconstruct : Reconstructor}
    {now : Timestamps.Timestamp} {manifest : Stage2BundleManifest} {manifestBytes : Bytes}
    (hpassing : setting.Passing m.state reconstruct now manifest manifestBytes)
    (hshort : m.state.sequence + 1 < maxInt) {k : ℕ} (hk : m.calls ≤ k)
    (hk' : k < m.calls + durabilityCalls manifestBytes) :
    ∃ e m', (setting.failing k .osError).commit reconstruct false now m =
        (.error (.raised e), m') ∧ e.isStage2Bundle = true ∧ RecordedFailure m'.state.tree := by
  -- the fault leaves what a commit checks before its calls as it was
  have hpassing' : (setting.failing k .osError).Passing m.state reconstruct now manifest
      manifestBytes := ⟨hpassing.incomplete, hpassing.validated, hpassing.built, hpassing.line⟩
  rw [hpassing'.commit_eq]
  refine Triple.exists_raised (?_ : Triple (· = m) _ _) rfl
  apply Triple.bind
  -- publishing stops with an `OSError`, which the commit handles
  · refine Triple.tryExcept (publish_osError hquiet hm hk hk') ?_ ?_
    · rintro e m' hcatches ⟨rfl, -⟩
      cases hcatches
    · -- the recovery, in which no more call fails
      rintro e -
      apply Triple.of_machine
      rintro m₁ ⟨-, hrecoverable⟩
      have hrest : ∀ n, m₁.calls ≤ n → (setting.failing k .osError).world.fault n = .none := by
        intro n hle
        by_contra hfault
        obtain rfl := fault_failing hquiet hfault
        exact absurd hrecoverable.calls (Nat.not_lt.mpr hle)
      have hrecovery := recordCommitFailure_triple m₁ hrest hrecoverable.ready
        hrecoverable.manifest (by rwa [hrecoverable.sequence])
      unfold failCommit
      refine Triple.bind (Triple.tryExcept (Triple.mono hrecovery (fun _ h => h)
        (fun _ _ h => h) (fun _ _ h => h) fun _ h => absurd h id) (fun _ _ _ h => absurd h id)
        fun _ _ => Triple.unreachable fun _ h => h) ?_
      intro _
      exact Triple.throwing fun m' h => ⟨rfl, h⟩
  · exact fun _ => Triple.unreachable fun _ h => h

omit [Interpreter] [Timestamps] in
/-- A publication at which the process goes away. -/
theorem publish_crash (hquiet : ∀ n, setting.world.fault n = .none)
    {m : Machine Stage2BundleBuilder} (hm : Committable m) (manifestBytes : Bytes) (k : ℕ) :
    Triple (· = m) ((setting.failing k .crash).publish manifestBytes)
      { returned := fun _ _ => True
        raised := fun e _ => e ≠ .os
        crashed := (setting.failing k .crash).PublishCrashes m manifestBytes } := by
  -- a fault would have been a crash
  have hfault : ∀ {m' : Machine Stage2BundleBuilder} {n : ℕ},
      (setting.failing k .crash).world.Passed m.calls m' → m.calls ≤ n → n < m'.calls →
      (setting.failing k .crash).world.fault n ≠ .none → False := by
    intro m' n hpassed hle hlt hfault
    obtain rfl := fault_failing hquiet hfault
    exact hpassed.2 n hle hlt (setting.fault_failing_self n .crash)
  refine Triple.mono ((publish_crashes manifestBytes).triple
    (publish_triple m manifestBytes hm.place hm.state)) (fun _ hm => hm)
    (fun _ _ _ => True.intro) ?_ fun m' hm' => hm'.1
  rintro e m' ⟨hstops, hpassed⟩
  cases hstops with
  | early stands fault =>
    obtain ⟨n, hle, hlt, hn⟩ := fault
    exact absurd hn fun hn => hfault hpassed hle hlt hn
  | @manifest _ m₁ _ stage stops =>
    cases stops with
    | size large => exact fun heq => by cases heq
    | path size refused other => exact absurd fsEncodable_manifestName refused
    | call size partly fault =>
      obtain ⟨hmanifest, -, hfresh⟩ :=
        hm.get_of_unpublished (.inr rfl) (setting.failing k .crash)
      rw [← stage.get] at hmanifest hfresh
      obtain ⟨n, hle, hlt, hn⟩ := fault ⟨stage.place, by simp, by decide, FileTree.get_nil _,
        hfresh manifestName, by simp [hmanifest]⟩
      have hstart : m.calls ≤ m₁.calls := by
        rw [stage.calls]
        exact Nat.le_add_right _ _
      exact absurd hn fun hn => hfault hpassed (hstart.trans hle) hlt hn

/-- A directory without a manifest is not committed. -/
theorem inspect_ne_committed {tree : FileTree} (h : tree.get [manifestName] = none) :
    inspectBundleState tree ≠ .ok .committed := by
  have hmanifest : tree.readBytes [manifestName] = none := by rw [FileTree.readBytes, h]
  intro hstate
  simp only [inspectBundleState, hmanifest] at hstate
  cases hread : tree.readBytes [stateName] with
  | none =>
    rw [hread] at hstate
    cases hstate
  | some data =>
    simp only [hread] at hstate
    obtain ⟨record, hrecord, hcommitted⟩ := exists_of_map_eq_ok hstate
    exact (BundleStateRecord.valid_of_modelValidateJson hrecord).state hcommitted

/-- **A process that goes away**: the bundle is seen as committed only when the manifest was in its
place, and then all files are there. -/
theorem commit_crash (hquiet : ∀ n, setting.world.fault n = .none)
    {m : Machine Stage2BundleBuilder} (hm : Committable m) {reconstruct : Reconstructor}
    {now : Timestamps.Timestamp} {manifest : Stage2BundleManifest} {manifestBytes : Bytes}
    (hpassing : setting.Passing m.state reconstruct now manifest manifestBytes) {k : ℕ}
    {m' : Machine Stage2BundleBuilder}
    (h : (setting.failing k .crash).commit reconstruct false now m = (.error .crashed, m'))
    (hcommitted : inspectBundleState m'.state.tree = .ok .committed) :
    m.calls + 9 ≤ m'.calls ∧ m'.state.place = .final ∧ ∀ entry ∈ manifest.files, ∃ data,
      m'.state.tree.readBytes (PurePosixPath.ofStr entry.path).tail = some data ∧
      m.state.tree.readBytes (PurePosixPath.ofStr entry.path).tail = some data ∧
      entry.sha256 = Interpreter.hexdigest data ∧ entry.size = data.length := by
  have hpassing' : (setting.failing k .crash).Passing m.state reconstruct now manifest
      manifestBytes := ⟨hpassing.incomplete, hpassing.validated, hpassing.built, hpassing.line⟩
  rw [hpassing'.commit_eq] at h
  have hcommit : Triple (· = m)
      (tryExcept ((setting.failing k .crash).publish manifestBytes) (· = .os)
        (fun _ => (setting.failing k .crash).failCommit) >>= fun _ => pure manifest)
      { returned := fun _ _ => True
        raised := fun _ _ => True
        crashed := (setting.failing k .crash).PublishCrashes m manifestBytes } := by
    apply Triple.bind
    · refine Triple.tryExcept (publish_crash hquiet hm manifestBytes k)
        (fun _ _ _ _ => True.intro) fun e hcatches => Triple.unreachable fun m' he => ?_
      exact he (of_decide_eq_true hcatches)
    · exact fun _ => Triple.pure fun _ _ => True.intro
  have hcrashed := hcommit.crashed_of rfl h
  cases hcrashed with
  | early stands =>
    obtain ⟨hmanifest, -⟩ := hm.get_of_unpublished stands.get setting
    exact absurd hcommitted (inspect_ne_committed hmanifest)
  | @manifest m₁ _ stage partly =>
    obtain ⟨hmanifest, -, hfresh⟩ := hm.get_of_unpublished (.inr rfl) (setting.failing k .crash)
    rw [← stage.get] at hmanifest
    obtain ⟨node, hget | ⟨hcalls, time, hget⟩⟩ := partly.get
    · -- the manifest was not in its place
      refine absurd hcommitted (inspect_ne_committed ?_)
      rw [hget, Function.update_of_ne (temporaryPath_ne _ _).symm, hmanifest]
    · rw [stage.calls] at hcalls
      refine ⟨by omega, partly.place.trans stage.place, ?_⟩
      intro entry hentry
      -- an inventoried file is none of those that the publication touched
      rw [of_inventory (of_validateForCommit hpassing.validated).2] at hentry
      obtain ⟨file, hfile, rfl⟩ := List.mem_map.mp hentry
      obtain ⟨path, mtime, hne, hfound, hkeep, htext⟩ := FileTree.mem_filesWhere.mp hfile
      have hkeep := of_decide_eq_true hkeep
      have hnames := FileTree.names_of_get (show m.state.tree.get path ≠ none by simp [hfound])
      have hread : m.state.tree.readBytes path = some file.2 :=
        FileTree.readBytes_eq_some.mpr ⟨mtime, hfound⟩
      have hstate : path ≠ [stateName] := by
        rintro rfl
        exact hkeep.1 rfl
      have hother : path ≠ [manifestName] := by
        rintro rfl
        exact hkeep.2 rfl
      have htemporary : path ≠ (setting.failing k .crash).temporaryPath [manifestName] := by
        rintro rfl
        rw [hm.tidy.fresh] at hfound
        cases hfound
      have hsame : m'.state.tree.get path = m.state.tree.get path := by
        rw [hget, Function.update_of_ne hother, Function.update_of_ne htemporary, stage.get,
          Function.update_of_ne hstate]
      show ∃ data, m'.state.tree.readBytes (PurePosixPath.ofStr file.1).tail = some data ∧ _
      rw [htext, PurePosixPath.ofStr_joinPath hne hnames]
      exact ⟨file.2, (FileTree.readBytes_congr hsame).trans hread, hread, rfl, rfl⟩

end BundleSetting

/-- **The manifest comes last**, in every state that a builder reaches while no call fails and in
which a commit passes its validation. One call that fails leaves an invalid bundle; a crash leaves
a committed one only when the manifest was in its place. -/
theorem commit_manifestLast (hquiet : ∀ n, setting.world.fault n = .none)
    {m₀ : Machine Stage2BundleBuilder} (hcreate : setting.create emptyBundle = (.ok (), m₀))
    {calls : List BundleCall} {m : Machine Stage2BundleBuilder}
    (hm : stateAfter (BundleCall.run setting) m₀ calls = m) {reconstruct : Reconstructor}
    {now : Timestamps.Timestamp} {manifest : Stage2BundleManifest} {manifestBytes : Bytes}
    (hpassing : setting.Passing m.state reconstruct now manifest manifestBytes)
    (hshort : m.state.sequence + 1 < maxInt) :
    (∀ k, m.calls ≤ k → k < m.calls + BundleSetting.durabilityCalls manifestBytes →
      ∃ e m', (setting.failing k .osError).commit reconstruct false now m =
          (.error (.raised e), m') ∧ e.isStage2Bundle = true ∧
        m'.state.tree.get [manifestName] = none ∧
        inspectBundleState m'.state.tree = .ok .invalid) ∧
    ∀ k m', (setting.failing k .crash).commit reconstruct false now m = (.error .crashed, m') →
      inspectBundleState m'.state.tree = .ok .committed →
      m.calls + 9 ≤ m'.calls ∧ m'.state.place = .final ∧ ∀ entry ∈ manifest.files, ∃ data,
        m'.state.tree.readBytes (PurePosixPath.ofStr entry.path).tail = some data ∧
        m.state.tree.readBytes (PurePosixPath.ofStr entry.path).tail = some data ∧
        entry.sha256 = Interpreter.hexdigest data ∧ entry.size = data.length := by
  -- after any calls the bundle is tidy and, while it is staged, without a manifest
  have hcommittable : BundleSetting.Committable m := by
    obtain ⟨record, hrecord⟩ := hpassing.incomplete
    obtain ⟨hplace, hstate⟩ := BundleSetting.of_requireIncomplete hrecord
    have htidy := tidy_stateAfter hquiet hcreate calls
    have hlater := (later_create hcreate).trans (later_stateAfter setting calls m₀)
    rw [hm] at htidy hlater
    refine ⟨hplace, hstate, htidy hplace, ?_⟩
    by_contra hthere
    have hfinal := hlater.manifest (fun hempty => absurd (FileTree.get_empty (by simp)) hempty)
      hthere
    rw [hplace] at hfinal
    cases hfinal
  constructor
  · intro k hk hk'
    obtain ⟨e, m', hcommit, he, hfailure⟩ :=
      BundleSetting.commit_osError hquiet hcommittable hpassing hshort hk hk'
    exact ⟨e, m', hcommit, he, hfailure.manifest, hfailure.inspect⟩
  · intro k m' hcommit hcommitted
    exact BundleSetting.commit_crash hquiet hcommittable hpassing hcommit hcommitted

/-! ## A number that is too long for a record -/

namespace BundleSetting

omit [Timestamps] in
theorem writeStateAt_apply (setting : BundleSetting) (place : Place) (state : BundleState)
    (phase : Str) (reason boundary : Option Str) (m : Machine Stage2BundleBuilder) :
    setting.writeStateAt place state phase reason boundary m =
      (if (nextRecord m state phase reason boundary).Valid then do
        let data ← compute (nextRecord m state phase reason boundary).line
        setting.durableWrite place [stateName] data
      else throwing (.validation "BundleStateRecord")) (counted m) := rfl

omit [Timestamps] in
/-- An invalidation without a phase takes a number and raises. -/
theorem invalidate_empty {m : Machine Stage2BundleBuilder} {record : BundleStateRecord}
    (h : m.state.requireIncomplete = .ok record) (reason : Str) (boundary : Option Str) :
    setting.invalidate [] reason boundary m =
      (.error (.raised (.validation "BundleStateRecord")), counted m) := by
  have hplace := (of_requireIncomplete h).1
  unfold invalidate
  rw [getState_bind_apply, if_neg (not_not.mpr hplace), compute_bind_of_eq h]
  have hinvalid : ¬ (nextRecord m .invalid [] (some reason) boundary).Valid := by
    intro hvalid
    exact absurd hvalid.phase.1 (by simp [nextRecord])
  rw [writeStateAt_apply, if_neg hinvalid]
  rfl

/-- So do many of them. -/
theorem stateAfter_invalidate_empty (setting : BundleSetting) {m : Machine Stage2BundleBuilder}
    {record : BundleStateRecord} (h : m.state.requireIncomplete = .ok record) (n : ℕ) :
    stateAfter (BundleCall.run setting) m (List.replicate n (.invalidate [] [] none)) =
      { m with state := { m.state with sequence := m.state.sequence + n } } := by
  induction n generalizing m with
  | zero => rfl
  | succ n ih =>
    have hnext : (counted m).state.requireIncomplete = .ok record := h
    rw [List.replicate_succ, stateAfter]
    show stateAfter _ (setting.invalidate [] [] none m).2 _ = _
    rw [invalidate_empty h, ih hnext]
    simp only [counted, Nat.add_assoc, Nat.add_comm 1 n]

omit [Timestamps] in
/-- A record whose number is too long is not written. -/
theorem writeStateAt_long {m : Machine Stage2BundleBuilder} {place : Place} {state : BundleState}
    {phase : Str} {reason boundary : Option Str}
    (hvalid : (nextRecord m state phase reason boundary).Valid) {e : PyError}
    (hline : (nextRecord m state phase reason boundary).line = .error e) :
    setting.writeStateAt place state phase reason boundary m = (.error (.raised e), counted m) := by
  rw [writeStateAt_apply, if_pos hvalid, compute_bind_apply_of_error hline]

/-- Where the number is too long, a commit whose first call fails raises no `Stage2BundleError`. -/
theorem commit_long {m : Machine Stage2BundleBuilder}
    (hmanifest : m.state.tree.get [manifestName] = none)
    {reconstruct : Reconstructor} {now : Timestamps.Timestamp} {manifest : Stage2BundleManifest}
    {manifestBytes : Bytes}
    (hpassing : setting.Passing m.state reconstruct now manifest manifestBytes)
    (hlong : maxInt ≤ m.state.sequence + 1) :
    ∃ e m', (setting.failing m.calls .osError).commit reconstruct false now m =
      (.error (.raised e), m') ∧ e.isStage2Bundle = false := by
  have hpassing' : (setting.failing m.calls .osError).Passing m.state reconstruct now manifest
      manifestBytes := ⟨hpassing.incomplete, hpassing.validated, hpassing.built, hpassing.line⟩
  generalize hfailing : setting.failing m.calls .osError = other at hpassing'
  have hfault : other.world.fault m.calls = .osError := by
    rw [← hfailing]
    exact setting.fault_failing_self m.calls .osError
  -- the first call of the publication fails
  have hsync : other.syncPath .staging [] m =
      (.error (.raised .os), ⟨m.state, m.calls + 1⟩) := by
    unfold syncPath fileCall syscall
    rw [hfault]
  have hpublish : other.publish manifestBytes m =
      (.error (.raised .os), ⟨m.state, m.calls + 1⟩) := Method.bind_error hsync
  -- the record of the failure has no line
  obtain ⟨e, hline⟩ : ∃ e, (failureRecord ⟨m.state, m.calls + 1⟩).line = .error e := by
    cases hline : (failureRecord ⟨m.state, m.calls + 1⟩).line with
    | error e => exact ⟨e, rfl⟩
    | ok data => exact absurd (BundleStateRecord.lt_of_line hline) (Nat.not_lt.mpr hlong)
  obtain ⟨hos, hstage2⟩ := BundleStateRecord.line_error hline
  have hrecovery : other.recordCommitFailure ⟨m.state, m.calls + 1⟩ =
      (.error (.raised e), counted ⟨m.state, m.calls + 1⟩) := by
    unfold recordCommitFailure
    rw [getState_bind_apply, if_neg (by rw [FileTree.has_eq_false.mpr hmanifest]; simp)]
    exact Method.bind_error (writeStateAt_long (valid_failureRecord _) hline)
  have hhandler : other.failCommit ⟨m.state, m.calls + 1⟩ =
      (.error (.raised e), counted ⟨m.state, m.calls + 1⟩) := by
    apply Method.bind_error
    unfold tryExcept
    rw [hrecovery]
    simp [hos, hstage2]
  refine ⟨e, counted ⟨m.state, m.calls + 1⟩, ?_, hstage2⟩
  rw [hpassing'.commit_eq]
  apply Method.bind_error
  unfold tryExcept
  rw [hpublish]
  exact hhandler

end BundleSetting

end

section

attribute [local instance] cpython sampleTimestamps

/-- A builder that is ready to commit. -/
theorem passing_sample :
    ∃ created calls m manifest manifestBytes,
      sampleSetting.create emptyBundle = (.ok (), created) ∧
      stateAfter (BundleCall.run sampleSetting) created calls = m ∧
      sampleSetting.Passing m.state sampleReconstruct () manifest manifestBytes ∧
      m.state.tree.get [manifestName] = none ∧ m.state.sequence = 3 := by
  have hcreated : (sampleSetting.create emptyBundle).1 = .ok () := by decide +kernel
  have hrun : ∃ m, accepted (BundleCall.run sampleSetting) (sampleSetting.create emptyBundle).2
        [.writeRaw (lit "raw/a.json") [91, 93, 10],
          .writeDerived (lit "derived/a.json") [91, 93, 10]] = some m ∧
      ((sampleSetting.commit sampleReconstruct false () m).1.toOption.any (fun _ => True) = true ∧
        m.state.tree.get [manifestName] = none ∧ m.state.sequence = 3) := by
    apply exists_eq_some
    decide +kernel
  obtain ⟨m, haccepted, hcommit, hmanifest, hsequence⟩ := hrun
  obtain ⟨manifest, hmanifest', -⟩ :
      ∃ manifest, (sampleSetting.commit sampleReconstruct false () m).1 = .ok manifest ∧ True :=
    exists_eq_ok (by simpa using hcommit)
  obtain ⟨manifestBytes, hpassing, -⟩ := BundleSetting.of_commit (Method.eq_mk_snd hmanifest')
  exact ⟨_, _, m, manifest, manifestBytes, Method.eq_mk_snd hcreated,
    stateAfter_of_accepted haccepted, hpassing, hmanifest, hsequence⟩

/-- A number that is too long is reached, and the commit that fails then raises another error. -/
theorem exists_commit_not_stage2Bundle :
    ∃ created calls m manifest manifestBytes,
      sampleSetting.create emptyBundle = (.ok (), created) ∧
      stateAfter (BundleCall.run sampleSetting) created calls = m ∧
      sampleSetting.Passing m.state sampleReconstruct () manifest manifestBytes ∧
      ∃ e m', (sampleSetting.failing m.calls .osError).commit sampleReconstruct false () m =
        (.error (.raised e), m') ∧ e.isStage2Bundle = false := by
  obtain ⟨created, calls, m, manifest, manifestBytes, hcreated, hm, hpassing, hmanifest, -⟩ :=
    passing_sample
  obtain ⟨record, hrecord⟩ := hpassing.incomplete
  obtain ⟨n, hn⟩ : ∃ n, maxInt ≤ n := ⟨maxInt, Nat.le_refl _⟩
  have hafter := sampleSetting.stateAfter_invalidate_empty hrecord n
  rw [← hm, ← stateAfter_append] at hafter
  rw [hm] at hafter
  generalize hcounted : (⟨{ m.state with sequence := m.state.sequence + n }, m.calls⟩ :
    Machine Stage2BundleBuilder) = m₁ at hafter
  have hpassing₁ : sampleSetting.Passing m₁.state sampleReconstruct () manifest manifestBytes := by
    rw [← hcounted]
    exact ⟨hpassing.incomplete, hpassing.validated, hpassing.built, hpassing.line⟩
  have hmanifest₁ : m₁.state.tree.get [manifestName] = none := by rw [← hcounted]; exact hmanifest
  have hlong : maxInt ≤ m₁.state.sequence + 1 := by
    rw [← hcounted]
    exact hn.trans ((Nat.le_add_left n m.state.sequence).trans (Nat.le_succ _))
  exact ⟨created, _, m₁, manifest, manifestBytes, hcreated, hafter, hpassing₁,
    BundleSetting.commit_long hmanifest₁ hpassing₁ hlong⟩

theorem commit_manifestLast_sample :
    ∃ (m : Machine Stage2BundleBuilder) (e : PyError) (m' : Machine Stage2BundleBuilder),
      (sampleSetting.failing m.calls .osError).commit sampleReconstruct false () m =
        (.error (.raised e), m') ∧ e.isStage2Bundle = true ∧
      inspectBundleState m'.state.tree = .ok .invalid := by
  obtain ⟨created, calls, m, manifest, manifestBytes, hcreated, hm, hpassing, -, hsequence⟩ :=
    passing_sample
  have hshort : m.state.sequence + 1 < maxInt := by
    rw [hsequence]
    exact Nat.lt_of_lt_of_le (show 3 + 1 < 10 ^ 1 by decide) (pow_le_maxInt (by decide))
  have hcalls : m.calls < m.calls + BundleSetting.durabilityCalls manifestBytes := by
    unfold BundleSetting.durabilityCalls
    split
    · omega
    · omega
  obtain ⟨e, m', hcommit, he, -, hinspect⟩ :=
    (commit_manifestLast (fun _ => rfl) hcreated hm hpassing hshort).1 m.calls (Nat.le_refl _)
      hcalls
  exact ⟨m, e, m', hcommit, he, hinspect⟩

end

end Stage2
