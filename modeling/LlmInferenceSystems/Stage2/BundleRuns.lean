import LlmInferenceSystems.Stage2.BundleWrites

/-!
# Runs of a bundle builder

Whatever the calls of a builder are and whatever fails in between: an evidence file that is there
stays as it is, the number in the state record only grows, and once the bundle is invalid or
committed every call raises and changes nothing.

## Main definitions

* `BundleCall`: the calls of a user
* `IsEvidence`: the paths of evidence files
* `Later`: what any call may have changed

## Main results

* `BundleCall.later`: every call leads to a later state
* `absorbing_of_create`: terminal states are absorbing, evidence is never overwritten, and the
  sequence number grows with every record
-/

namespace Stage2

open Python

/-- An evidence file stands beneath `raw/` or `derived/` and has an allowed suffix. -/
def IsEvidence (path : RelPath) : Prop :=
  (path.head? = some (lit "raw") ∨ path.head? = some (lit "derived")) ∧
    suffix (path.getLastD []) ∈ allowedTextSuffixes

/-! ## Temporary files are no evidence -/

theorem extension_temporaryPath (setting : BundleSetting) (path : RelPath) :
    suffix ((setting.temporaryPath path).getLastD []) ∉ allowedTextSuffixes := by
  have hshape : (setting.temporaryPath path).getLastD [] =
      (lit "." ++ path.getLastD []) ++ 46 :: (lit "tmp-" ++ decimal setting.pid) := by
    rw [setting.getLastD_temporaryPath, show lit ".tmp-" = 46 :: lit "tmp-" by decide]
    simp
  have hdot : 46 ∉ lit "tmp-" ++ decimal setting.pid := by
    intro hmem
    rcases List.mem_append.mp hmem with hmem | hmem
    · exact absurd hmem (by decide)
    · have := decimal_ascii hmem
      omega
  have hne : lit "tmp-" ++ decimal setting.pid ≠ [] := by
    simp [show lit "tmp-" = [116, 109, 112, 45] by decide]
  rw [hshape, suffix_append (by simp [show lit "." = [46] by decide]) hne hdot]
  -- no allowed suffix goes on with `tm`
  intro hmem
  have hstart : ∀ s ∈ allowedTextSuffixes, s.take 3 ≠ lit ".tm" := by decide
  refine hstart _ hmem ?_
  rw [show lit "tmp-" = [116, 109, 112, 45] by decide]
  rfl

/-- A path with an allowed suffix is no temporary path. -/
theorem ne_temporaryPath {setting : BundleSetting} {path path' : RelPath}
    (h : suffix (path.getLastD []) ∈ allowedTextSuffixes) :
    path ≠ setting.temporaryPath path' := by
  rintro rfl
  exact extension_temporaryPath setting path' h

theorem extension_stateName : suffix ([stateName].getLastD []) ∈ allowedTextSuffixes := by decide

theorem extension_manifestName : suffix ([manifestName].getLastD []) ∈ allowedTextSuffixes := by
  decide

/-! ## Later states -/

section

variable [Interpreter]

/-- What a call may change: it keeps the evidence that is there; it leaves the state record, takes
it away, or replaces it by one with a higher number; and it writes a manifest at the final path
only. -/
structure Later (builder builder' : Stage2BundleBuilder) : Prop where
  evidence : ∀ path, IsEvidence path → ∀ data, builder.tree.readBytes path = some data →
    builder'.tree.readBytes path = some data
  sequence : builder.sequence ≤ builder'.sequence
  record : builder'.tree.readBytes [stateName] = builder.tree.readBytes [stateName] ∨
    builder'.tree.readBytes [stateName] = none ∨
    ∃ (record : BundleStateRecord) (data : Bytes),
      builder'.tree.readBytes [stateName] = some data ∧ record.Valid ∧
      record.line = .ok data ∧ builder.sequence < record.sequence ∧
      record.sequence ≤ builder'.sequence
  manifest : (builder.tree.get [manifestName] ≠ none → builder.place = .final) →
    builder'.tree.get [manifestName] ≠ none → builder'.place = .final
  final : builder.place = .final → builder'.place = .final

theorem Later.refl (builder : Stage2BundleBuilder) : Later builder builder :=
  ⟨fun _ _ _ h => h, Nat.le_refl _, .inl rfl, id, id⟩

theorem Later.trans {builder₁ builder₂ builder₃ : Stage2BundleBuilder}
    (h : Later builder₁ builder₂) (h' : Later builder₂ builder₃) : Later builder₁ builder₃ := by
  refine ⟨fun path hpath data hdata =>
      h'.evidence path hpath data (h.evidence path hpath data hdata),
    h.sequence.trans h'.sequence, ?_, h'.manifest ∘ h.manifest, h'.final ∘ h.final⟩
  rcases h'.record with hsame | hnone | ⟨record, data, hdata, hvalid, hline, hlt, hle⟩
  · rw [hsame]
    rcases h.record with hsame' | hnone' | ⟨record, data, hdata, hvalid, hline, hlt, hle⟩
    · exact .inl hsame'
    · exact .inr (.inl hnone')
    · exact .inr (.inr ⟨record, data, hdata, hvalid, hline, hlt, hle.trans h'.sequence⟩)
  · exact .inr (.inl hnone)
  · exact .inr (.inr ⟨record, data, hdata, hvalid, hline, h.sequence.trans_lt hlt, hle⟩)

/-! ## What the operations keep -/

/-- A write, finished or not: it changed no other path with an allowed suffix. -/
structure Framed (m₀ : Machine Stage2BundleBuilder) (path : RelPath) (data : Bytes)
    (m : Machine Stage2BundleBuilder) : Prop where
  place : m.state.place = m₀.state.place
  sequence : m.state.sequence = m₀.state.sequence
  others : ∀ q, q ≠ path → suffix (q.getLastD []) ∈ allowedTextSuffixes →
    m.state.tree.get q = m₀.state.tree.get q
  target : m.state.tree.readBytes path = m₀.state.tree.readBytes path ∨
    m.state.tree.readBytes path = some data

omit [Interpreter] in
theorem Framed.of_partly {setting : BundleSetting} {m₀ m : Machine Stage2BundleBuilder}
    {path : RelPath} {data : Bytes} (h : setting.Partly m₀ path data m) :
    Framed m₀ path data m := by
  have htemp := (setting.temporaryPath_ne path).symm
  refine ⟨h.place, h.sequence, ?_, ?_⟩
  · intro q hq hsuffix
    obtain ⟨node, hget | ⟨-, time, hget⟩⟩ := h.get
    · rw [hget, Function.update_of_ne (ne_temporaryPath hsuffix)]
    · rw [hget, Function.update_of_ne hq, Function.update_of_ne (ne_temporaryPath hsuffix)]
  · obtain ⟨node, hget | ⟨-, time, hget⟩⟩ := h.get
    · left
      apply FileTree.readBytes_congr
      rw [hget, Function.update_of_ne htemp]
    · right
      rw [FileTree.readBytes_eq_some]
      exact ⟨time, by rw [hget, Function.update_self]⟩

omit [Interpreter] in
theorem Framed.of_replaced {m₀ m : Machine Stage2BundleBuilder} {path : RelPath} {data : Bytes}
    (h : BundleSetting.Replaced m₀ path data m) : Framed m₀ path data m := by
  obtain ⟨time, hget⟩ := h.get
  refine ⟨h.place, h.sequence, fun q hq _ => by rw [hget, Function.update_of_ne hq], .inr ?_⟩
  rw [FileTree.readBytes_eq_some]
  exact ⟨time, by rw [hget, Function.update_self]⟩

/-- A new evidence file. -/
theorem Framed.later_evidence {m₀ m : Machine Stage2BundleBuilder} {path : RelPath} {data : Bytes}
    (h : Framed m₀ path data m) (hfree : m₀.state.tree.get path = none)
    (hstate : path ≠ [stateName]) (hmanifest : path ≠ [manifestName]) :
    Later m₀.state m.state := by
  refine ⟨?_, h.sequence.ge, .inl ?_, ?_, h.place.trans⟩
  · intro q hq data' hdata
    have hne : q ≠ path := by
      rintro rfl
      rw [FileTree.readBytes, hfree] at hdata
      cases hdata
    rw [FileTree.readBytes_congr (h.others q hne hq.2), hdata]
  · exact FileTree.readBytes_congr (h.others _ hstate.symm extension_stateName)
  · rw [h.others _ hmanifest.symm extension_manifestName, h.place]
    exact id

/-- A new state record, whose number is the one that was taken. -/
theorem Framed.later_record {m₀ m : Machine Stage2BundleBuilder} {data : Bytes}
    (h : Framed (BundleSetting.counted m₀) [stateName] data m) {record : BundleStateRecord}
    (hvalid : record.Valid) (hline : record.line = .ok data)
    (hsequence : record.sequence = m₀.state.sequence + 1) : Later m₀.state m.state := by
  have hcount : m.state.sequence = m₀.state.sequence + 1 := h.sequence
  refine ⟨?_, by omega, ?_, ?_, h.place.trans⟩
  · intro q hq data' hdata
    have hne : q ≠ [stateName] := by
      rintro rfl
      exact absurd hq.1 (by decide)
    rw [FileTree.readBytes_congr (h.others q hne hq.2)]
    exact hdata
  · rcases h.target with hsame | hnew
    · exact .inl hsame
    · exact .inr (.inr ⟨record, data, hnew, hvalid, hline, by omega, by omega⟩)
  · rw [h.others [manifestName] (by decide) extension_manifestName, h.place]
    exact id

/-- The manifest, at the final path. -/
theorem Framed.later_manifest {m₀ m : Machine Stage2BundleBuilder} {data : Bytes}
    (h : Framed m₀ [manifestName] data m) (hplace : m₀.state.place = .final) :
    Later m₀.state m.state := by
  refine ⟨?_, h.sequence.ge, .inl ?_, fun _ _ => h.place.trans hplace, h.place.trans⟩
  · intro q hq data' hdata
    have hne : q ≠ [manifestName] := by
      rintro rfl
      exact absurd hq.1 (by decide)
    rw [FileTree.readBytes_congr (h.others q hne hq.2)]
    exact hdata
  · exact FileTree.readBytes_congr (h.others _ (by decide) extension_stateName)

/-- New directories. -/
theorem later_of_made {m₀ m : Machine Stage2BundleBuilder} {path : RelPath}
    (h : BundleSetting.Made m₀ path m) (hhead : path.head? ≠ some manifestName) :
    Later m₀.state m.state := by
  have hread : ∀ q, m.state.tree.readBytes q = m₀.state.tree.readBytes q := by
    intro q
    rcases h.get q with hsame | ⟨hnone, hdir, -⟩
    · exact FileTree.readBytes_congr hsame
    · rw [FileTree.readBytes, FileTree.readBytes, hnone, hdir]
  refine ⟨fun q _ data hdata => (hread q).trans hdata, h.sequence.ge, .inl (hread _), ?_,
    h.place.trans⟩
  intro hplaced hmanifest
  rw [h.place]
  refine hplaced ?_
  rcases h.get [manifestName] with hsame | ⟨-, -, ⟨more, rfl⟩⟩
  · rwa [← hsame]
  · exact absurd rfl hhead

/-- The machine is in a state later than `builder`. -/
def After (builder : Stage2BundleBuilder) (m : Machine Stage2BundleBuilder) : Prop :=
  Later builder m.state

/-- A program that leads to later states, from wherever it starts. -/
theorem after_of_later {α : Type} {builder : Stage2BundleBuilder} {program : BundleEffect α}
    (h : ∀ m₀, Triple (· = m₀) program (.always (After m₀.state))) :
    Triple (After builder) program (.always (After builder)) :=
  Triple.of_machine fun m₀ hm₀ => (h m₀).to_always (fun _ _ hm => hm₀.trans hm)
    (fun _ _ hm => hm₀.trans hm) fun _ hm => hm₀.trans hm

namespace BundleSetting

variable {setting : BundleSetting}

/-- A call that changes no record, no evidence and no manifest. -/
theorem fileCall_after {builder : Stage2BundleBuilder} {place : Place}
    {call : ℤ → FileTree → Option FileTree}
    (h : ∀ m : Machine Stage2BundleBuilder, ∀ tree,
      call (setting.world.time m.calls) m.state.tree = some tree →
        Later m.state { m.state with tree := tree }) :
    Triple (After builder) (setting.fileCall place call) (.always (After builder)) := by
  refine fileCall_triple ?_ ?_ ?_
  · intro m hm _ _ tree htree
    exact hm.trans (h m tree htree)
  · intro m hm _
    exact hm
  · intro m hm _
    exact hm

theorem syncPath_after {builder : Stage2BundleBuilder} (place : Place) (path : RelPath) :
    Triple (After builder) (setting.syncPath place path) (.always (After builder)) := by
  refine fileCall_after fun m tree htree => ?_
  split at htree
  · obtain rfl := Option.some.inj htree
    exact Later.refl _
  · cases htree

theorem syncParent_after {builder : Stage2BundleBuilder} :
    Triple (After builder) setting.syncParent (.always (After builder)) := by
  refine Triple.syscall ?_ (fun m hm _ => hm) fun m hm _ => hm
  rintro m hm - s ⟨⟩
  exact hm

/-- The state record or the manifest is taken away. -/
theorem unlink_after {builder : Stage2BundleBuilder} {place : Place} {name : Str}
    (hname : name = stateName ∨ name = manifestName) :
    Triple (After builder) (setting.fileCall place fun _ tree => tree.unlink [name])
      (.always (After builder)) := by
  refine fileCall_after fun m tree htree => ?_
  have hget := FileTree.get_unlink htree
  refine ⟨?_, Nat.le_refl _, ?_, ?_, id⟩
  · intro q hq data hdata
    have hne : q ≠ [name] := by
      rintro rfl
      rcases hname with rfl | rfl
      · exact absurd hq.1 (by decide)
      · exact absurd hq.1 (by decide)
    have hsame : tree.readBytes q = m.state.tree.readBytes q :=
      FileTree.readBytes_congr (by rw [hget, Function.update_of_ne hne])
    exact hsame.trans hdata
  · show tree.readBytes _ = _ ∨ tree.readBytes _ = none ∨ _
    by_cases hne : [stateName] = [name]
    · exact .inr (.inl (by rw [FileTree.readBytes, hget, hne, Function.update_self]))
    · exact .inl (FileTree.readBytes_congr (by rw [hget, Function.update_of_ne hne]))
  · intro hplaced hmanifest
    refine hplaced fun hnone => hmanifest ?_
    show tree.get _ = none
    rw [hget, Function.update_apply]
    split
    · rfl
    · exact hnone

theorem writeStateAt_after {builder : Stage2BundleBuilder} (place : Place) (state : BundleState)
    (phase : Str) (reason lastValidBoundary : Option Str) :
    Triple (After builder) (setting.writeStateAt place state phase reason lastValidBoundary)
      (.always (After builder)) := by
  refine after_of_later fun m₀ => ?_
  refine (writeStateAt_triple m₀ place state phase reason lastValidBoundary).to_always ?_ ?_ ?_
  · rintro - m ⟨data, hvalid, hline, hwritten⟩
    exact (Framed.of_replaced hwritten.replaced).later_record hvalid hline rfl
  · intro e m hm
    have hcounted : Later m₀.state (counted m₀).state :=
      ⟨fun _ _ _ h => h, Nat.le_succ _, .inl rfl, id, id⟩
    cases hm with
    | invalid invalid => exact hcounted
    | long valid long other => exact hcounted
    | call valid line partly fault => exact (Framed.of_partly partly).later_record valid line rfl
  · rintro m ⟨data, hvalid, hline, hpartly⟩
    exact (Framed.of_partly hpartly).later_record hvalid hline rfl

/-- An evidence write. -/
theorem writeEvidence_after {builder : Stage2BundleBuilder} {start : String}
    (hstart : start = "raw" ∨ start = "derived") (relative : Str) (data : Bytes) :
    Triple (After builder) (setting.writeEvidence start relative data)
      (.always (After builder)) := by
  refine after_of_later fun m₀ => ?_
  -- a path beneath `raw` or `derived` is neither the state file nor the manifest, nor beneath it
  have hhead : ∀ path, checkEvidence m₀.state start relative data = .ok path →
      path.tail ≠ [stateName] ∧ path.tail ≠ [manifestName] ∧
        path.tail.dropLast.head? ≠ some manifestName := by
    intro path hchecked
    have hbeneath := (of_checkEvidence hchecked).beneath
    generalize path.tail = tail at hbeneath ⊢
    have hnames : lit start ≠ stateName ∧ lit start ≠ manifestName := by
      rcases hstart with rfl | rfl <;> decide
    refine ⟨?_, ?_, fun hdrop => ?_⟩
    · rintro rfl
      exact hnames.1 (Option.some.inj hbeneath).symm
    · rintro rfl
      exact hnames.2 (Option.some.inj hbeneath).symm
    · rcases tail with _ | ⟨first, _ | ⟨second, tail⟩⟩
      · cases hbeneath
      · cases hdrop
      · rw [List.dropLast_cons_cons, List.head?_cons] at hdrop
        exact hnames.2 (Option.some.inj (hbeneath.symm.trans hdrop))
  -- the file that is written is new, and only its parents are made for it
  have hfile : ∀ path m₁ m, setting.FileWritten m₀ start relative data path m₁ m →
      Later m₀.state m.state := by
    intro path m₁ m hwritten
    obtain ⟨hstate, hmanifest, hparents⟩ := hhead path hwritten.checked
    exact (later_of_made (hwritten.prepared.made List.prefix_rfl m₁.calls) hparents).trans
      ((Framed.of_replaced hwritten.written.replaced).later_evidence hwritten.free hstate hmanifest)
  have hrecord : ∀ m₂ m bytes, (retainedRecord m₂ relative).Valid →
      (retainedRecord m₂ relative).line = .ok bytes → Framed (counted m₂) [stateName] bytes m →
        Later m₂.state m.state := fun m₂ m bytes hvalid hline hframed =>
    hframed.later_record hvalid hline rfl
  refine (writeEvidence_triple m₀ start relative data).to_always ?_ ?_ ?_
  · rintro - m ⟨path, m₁, m₂, bytes, hwritten⟩
    exact (hfile path m₁ m₂ hwritten.file).trans (hrecord m₂ m bytes hwritten.valid hwritten.line
      (Framed.of_replaced hwritten.recorded.replaced))
  · intro e m hm
    cases hm with
    | check rejected => exact Later.refl _
    | parents checked stops =>
      cases stops with
      | parent above file => exact Later.refl _
      | @refused _ _ _ _ above prepared refused other =>
        exact later_of_made (prepared.made ((List.prefix_append _ _).trans above) m.calls)
          (hhead _ checked).2.2
      | call made => exact later_of_made made (hhead _ checked).2.2
    | taken checked prepared there =>
      exact later_of_made (prepared.made List.prefix_rfl m.calls) (hhead _ checked).2.2
    | @file path _ m₁ _ checked prepared free stops =>
      obtain ⟨hstate, hmanifest, hparents⟩ := hhead path checked
      have hprepared := later_of_made (prepared.made List.prefix_rfl m₁.calls) hparents
      cases stops with
      | size large => exact hprepared
      | path size refused other => exact hprepared
      | call size partly fault =>
        exact hprepared.trans ((Framed.of_partly partly).later_evidence free hstate hmanifest)
    | @record path _ m₁ m₂ _ file stops =>
      refine (hfile path m₁ m₂ file).trans ?_
      cases stops with
      | invalid invalid => exact ⟨fun _ _ _ h => h, Nat.le_succ _, .inl rfl, id, id⟩
      | long valid long other => exact ⟨fun _ _ _ h => h, Nat.le_succ _, .inl rfl, id, id⟩
      | call valid line partly fault => exact hrecord m₂ m _ valid line (Framed.of_partly partly)
  · intro m hm
    cases hm with
    | parents checked made => exact later_of_made made (hhead _ checked).2.2
    | @file path m₁ _ checked prepared free partly =>
      obtain ⟨hstate, hmanifest, hparents⟩ := hhead path checked
      exact (later_of_made (prepared.made List.prefix_rfl m₁.calls) hparents).trans
        ((Framed.of_partly partly).later_evidence free hstate hmanifest)
    | @record path m₁ m₂ _ bytes file valid line partly =>
      exact (hfile path m₁ m₂ file).trans (hrecord m₂ m bytes valid line (Framed.of_partly partly))

theorem renameToFinal_after {builder : Stage2BundleBuilder} :
    Triple (After builder) setting.renameToFinal
      { returned := fun _ m => After builder m ∧ m.state.place = .final
        raised := fun _ => After builder
        crashed := After builder } := by
  refine Triple.syscall ?_ (fun m hm _ => hm) fun m hm _ => hm
  intro m hm _ s hs
  split at hs
  · obtain rfl := Option.some.inj hs
    refine ⟨?_, rfl⟩
    have hmoved : Later m.state { m.state with place := .final } :=
      ⟨fun _ _ _ h => h, Nat.le_refl _, .inl rfl, fun _ _ => rfl, fun _ => rfl⟩
    exact hm.trans hmoved
  · cases hs

/-- The manifest is written at the final path, since the directory is there. -/
theorem publish_after {builder : Stage2BundleBuilder} (manifestBytes : Bytes) :
    Triple (After builder) (setting.publish manifestBytes) (.always (After builder)) := by
  unfold publish
  -- the directory is synced and renamed; from then on the bundle is in its final place
  apply Triple.bind_always (syncPath_after .staging [])
  intro _
  apply Triple.bind renameToFinal_after
  intro _
  apply Triple.of_machine
  intro m₁ hm₁
  have hrest : Triple (After m₁.state)
      (do
        setting.syncParent
        setting.fileCall .final fun _ tree => tree.unlink [stateName]
        setting.syncPath .final []
        setting.durableWrite .final [manifestName] manifestBytes)
      (.always (After m₁.state)) := by
    -- the state file is removed, which a bundle in its final place does not need
    apply Triple.bind_always syncParent_after
    intro _
    apply Triple.bind_always (unlink_after (.inl rfl))
    intro _
    apply Triple.bind_always (syncPath_after .final [])
    intro _
    apply Triple.of_machine
    intro m₂ hm₂
    have hfinal : m₂.state.place = .final := hm₂.final hm₁.2
    refine (durableWrite_triple m₂ .final [manifestName] manifestBytes).to_always ?_ ?_ ?_
    · intro _ m hm
      exact hm₂.trans ((Framed.of_replaced hm.replaced).later_manifest hfinal)
    -- a manifest that is written in part stands next to no state file
    · intro e m hm
      cases hm with
      | size large => exact hm₂
      | path size refused other => exact hm₂
      | call size partly fault => exact hm₂.trans ((Framed.of_partly partly).later_manifest hfinal)
    · intro m hm
      exact hm₂.trans ((Framed.of_partly hm.2).later_manifest hfinal)
  refine (Triple.of_pre hrest ?_).to_always (fun _ _ hm => hm₁.1.trans hm)
    (fun _ _ hm => hm₁.1.trans hm) fun _ hm => hm₁.1.trans hm
  rintro m rfl
  exact Later.refl _

/-- The record of a failed commit, at either path. -/
theorem recordInvalid_after {builder : Stage2BundleBuilder} (place : Place) :
    Triple (After builder)
      (do
        setting.writeStateAt place .invalid (lit "COMMIT")
          (some (lit "DURABILITY_OPERATION_FAILED")) (some (lit "RECONSTRUCTION_VALIDATED"))
        if place = .final then setting.syncParent : BundleEffect Unit)
      (.always (After builder)) := by
  apply Triple.bind_always (writeStateAt_after place .invalid _ _ _)
  intro _
  apply Triple.ite
  · exact fun _ => syncParent_after
  · exact fun _ => Triple.pure fun _ hm => hm

theorem recordCommitFailure_after {builder : Stage2BundleBuilder} :
    Triple (After builder) setting.recordCommitFailure (.always (After builder)) := by
  unfold recordCommitFailure
  apply Triple.getState_bind
  intro s
  apply Triple.ite
  · intro _
    apply Triple.bind_always (Triple.of_pre (unlink_after (.inr rfl)) fun m hm => hm.1)
    exact fun _ => recordInvalid_after s.place
  · intro _
    exact Triple.of_pre (recordInvalid_after s.place) fun m hm => hm.1

/-- What `commit` does when the publication raised. -/
theorem handleFailure_after {builder : Stage2BundleBuilder} :
    Triple (After builder)
      (do
        tryExcept setting.recordCommitFailure (fun e => e = .os ∨ e.isStage2Bundle) fun _ =>
          throwing (.stage2Bundle
            "bundle commit failed and invalid-state durability could not be confirmed")
        throwing (.stage2Bundle "bundle fsync or atomic rename failed") : BundleEffect Unit)
      (.always (After builder)) := by
  apply Triple.bind_always
  · apply Triple.tryExcept recordCommitFailure_after (fun _ _ _ hm => hm)
    exact fun _ _ => Triple.throwing fun _ hm => hm
  · exact fun _ => Triple.throwing fun _ hm => hm

theorem invalidate_after {builder : Stage2BundleBuilder} (phase reason : Str)
    (lastValidBoundary : Option Str) :
    Triple (After builder) (setting.invalidate phase reason lastValidBoundary)
      (.always (After builder)) := by
  unfold invalidate
  apply Triple.getState_bind
  intro s
  apply Triple.ite
  · exact fun _ => Triple.throwing fun m hm => hm.1
  · intro _
    apply Triple.compute_bind
    · exact fun _ _ m hm => hm.1
    · exact fun _ _ => Triple.of_pre (writeStateAt_after _ _ _ _ _) fun m hm => hm.1

variable [Timestamps]

theorem commit_after {builder : Stage2BundleBuilder} (reconstruct : Reconstructor)
    (crashBeforeManifest : Bool) (now : Timestamps.Timestamp) :
    Triple (After builder) (setting.commit reconstruct crashBeforeManifest now)
      (.always (After builder)) := by
  unfold commit
  apply Triple.getState_bind
  intro s
  have hpre : ∀ m, After builder m ∧ m.state = s → After builder m := fun m hm => hm.1
  refine Triple.compute_bind (fun _ _ => hpre) ?_
  intro record _
  split
  · -- the validation failed
    apply Triple.bind_always (Triple.of_pre (invalidate_after _ _ _) hpre)
    intro _
    apply Triple.ite
    · exact fun _ => Triple.throwing fun _ hm => hm
    · exact fun _ => Triple.throwing fun _ hm => hm
  · apply Triple.ite
    · exact fun _ => Triple.throwing hpre
    intro _
    refine Triple.compute_bind (fun _ _ => hpre) ?_
    intro manifest _
    refine Triple.compute_bind (fun _ _ => hpre) ?_
    intro manifestBytes _
    refine Triple.bind_always (Triple.tryExcept (Triple.of_pre (publish_after manifestBytes) hpre)
      (fun _ _ _ hm => hm) fun _ _ => handleFailure_after) ?_
    exact fun _ => Triple.pure fun _ hm => hm

end BundleSetting

theorem later_create {setting : BundleSetting} {m₀ m : Machine Stage2BundleBuilder}
    (h : setting.create m₀ = (.ok (), m)) : Later m₀.state m.state := by
  have hafter : Triple (After m₀.state) setting.create (.always (After m₀.state)) := by
    unfold BundleSetting.create
    apply Triple.bind_always (BundleSetting.writeStateAt_after _ _ _ _ _)
    intro _
    apply Triple.bind_always (BundleSetting.syncPath_after _ _)
    exact fun _ => BundleSetting.syncParent_after
  have hlater := hafter.always_apply (Later.refl m₀.state)
  rwa [h] at hlater

/-- A file that was written is evidence, under the path of the call. -/
theorem of_writeEvidence {setting : BundleSetting} {start : String}
    (hstart : start = "raw" ∨ start = "derived") {relative : Str} {data : Bytes}
    {m m' : Machine Stage2BundleBuilder}
    (h : setting.writeEvidence start relative data m = (.ok (), m')) :
    IsEvidence (PurePosixPath.ofStr relative).tail ∧
      m'.state.tree.readBytes (PurePosixPath.ofStr relative).tail = some data := by
  obtain ⟨path, m₁, m₂, bytes, hwritten⟩ :=
    (setting.writeEvidence_triple m start relative data).returned_of rfl h
  have haccepted := BundleSetting.of_checkEvidence hwritten.file.checked
  obtain rfl := haccepted.parsed
  have hevidence : IsEvidence (PurePosixPath.ofStr relative).tail := by
    refine ⟨?_, haccepted.extension⟩
    rw [haccepted.beneath]
    rcases hstart with rfl | rfl
    · exact .inl rfl
    · exact .inr rfl
  refine ⟨hevidence, ?_⟩
  obtain ⟨time, hfile⟩ := hwritten.file.written.replaced.get
  have hne : (PurePosixPath.ofStr relative).tail ≠ [stateName] := by
    intro heq
    rw [heq] at hevidence
    exact absurd hevidence.1 (by decide)
  -- the state record is another file
  rw [FileTree.readBytes_congr
    ((Framed.of_replaced hwritten.recorded.replaced).others _ hne haccepted.extension),
    FileTree.readBytes_eq_some]
  refine ⟨time, ?_⟩
  show m₂.state.tree.get _ = _
  rw [hfile, Function.update_self]

end

/-! ## Runs -/

/-- A call of a user. -/
inductive BundleCall [Timestamps] where
  | writeRaw (relative : Str) (data : Bytes)
  | writeDerived (relative : Str) (data : Bytes)
  | invalidate (phase reason : Str) (lastValidBoundary : Option Str)
  | commit (reconstruct : Reconstructor) (crashBeforeManifest : Bool)
      (now : Timestamps.Timestamp)

/-- The path that a call writes to. -/
def BundleCall.target [Timestamps] : BundleCall → Option Str
  | .writeRaw relative _ | .writeDerived relative _ => some relative
  | .invalidate _ _ _ | .commit _ _ _ => none

/-- Whether a call is a commit, which takes the state record away. -/
def BundleCall.isCommit [Timestamps] : BundleCall → Bool
  | .commit _ _ _ => true
  | .writeRaw _ _ | .writeDerived _ _ | .invalidate _ _ _ => false

section

variable [Interpreter] [Timestamps]

/-- What a call does. -/
def BundleCall.run (setting : BundleSetting) : BundleCall → BundleEffect Unit
  | .writeRaw relative data => setting.writeRaw relative data
  | .writeDerived relative data => setting.writeDerived relative data
  | .invalidate phase reason lastValidBoundary =>
    setting.invalidate phase reason lastValidBoundary
  | .commit reconstruct crashBeforeManifest now => do
    let _ ← setting.commit reconstruct crashBeforeManifest now

/-- **Every call leads to a later state**, in any world. -/
theorem BundleCall.later (setting : BundleSetting) (call : BundleCall)
    (m : Machine Stage2BundleBuilder) : Later m.state (call.run setting m).2.state := by
  have hafter : Triple (After m.state) (call.run setting) (.always (After m.state)) := by
    cases call with
    | writeRaw relative data =>
      exact BundleSetting.writeEvidence_after (.inl rfl) relative data
    | writeDerived relative data =>
      exact BundleSetting.writeEvidence_after (.inr rfl) relative data
    | invalidate phase reason lastValidBoundary =>
      exact BundleSetting.invalidate_after phase reason lastValidBoundary
    | commit reconstruct crashBeforeManifest now =>
      apply Triple.bind_always (BundleSetting.commit_after reconstruct crashBeforeManifest now)
      exact fun _ => Triple.pure fun _ hm => hm
  exact hafter.always_apply (Later.refl m.state)

theorem later_stateAfter (setting : BundleSetting) (calls : List BundleCall)
    (m : Machine Stage2BundleBuilder) :
    Later m.state (stateAfter (BundleCall.run setting) m calls).state := by
  have hkeeps : ∀ call : BundleCall,
      Method.Keeps (fun m' => Later m.state m'.state) (call.run setting) :=
    fun call m' hm' => hm'.trans (call.later setting m')
  exact Method.Keeps.stateAfter hkeeps (Later.refl m.state) calls

/-! ## Terminal states -/

/-- Where no incomplete record is, every call raises and changes nothing. -/
theorem run_of_not_incomplete (setting : BundleSetting) (call : BundleCall)
    {m : Machine Stage2BundleBuilder} {e : PyError} (h : m.state.requireIncomplete = .error e) :
    ∃ e', call.run setting m = (.error (.raised e'), m) := by
  -- a write checks the state first, and does nothing before that
  have hwrite : ∀ start relative data,
      setting.writeEvidence start relative data m = (.error (.raised e), m) := by
    intro start relative data
    have hcheck : checkEvidence m.state start relative data = .error e := by
      rw [checkEvidence, h]
      rfl
    unfold BundleSetting.writeEvidence
    rw [Method.bind_apply]
    show (compute (checkEvidence m.state start relative data) >>= _) m = _
    rw [hcheck]
    rfl
  cases call with
  | writeRaw relative data => exact ⟨e, hwrite "raw" relative data⟩
  | writeDerived relative data => exact ⟨e, hwrite "derived" relative data⟩
  | invalidate phase reason lastValidBoundary =>
    -- so does an invalidation, once it has found the staging directory
    by_cases hplace : m.state.place ≠ .staging
    · refine ⟨.stage2Bundle "staging bundle no longer exists", ?_⟩
      show (if m.state.place ≠ .staging then _ else _ : BundleEffect Unit) m = _
      rw [if_pos hplace]
      rfl
    · refine ⟨e, ?_⟩
      show (if m.state.place ≠ .staging then _ else compute m.state.requireIncomplete >>= _ :
        BundleEffect Unit) m = _
      rw [if_neg hplace, h]
      rfl
  | commit reconstruct crashBeforeManifest now =>
    refine ⟨e, ?_⟩
    -- and a commit
    have hcommit : setting.commit reconstruct crashBeforeManifest now m =
        (.error (.raised e), m) := by
      show (compute m.state.requireIncomplete >>= _) m = _
      rw [h]
      rfl
    show (setting.commit reconstruct crashBeforeManifest now >>= fun _ => pure ()) m = _
    rw [Method.bind_apply, hcommit]

/-- A bundle that is invalid or committed has no incomplete record at the staging path. -/
theorem not_incomplete_of_terminal {builder : Stage2BundleBuilder}
    (hplaced : builder.tree.get [manifestName] ≠ none → builder.place = .final)
    {state : BundleState} (hstate : state ≠ .incomplete)
    (h : inspectBundleState builder.tree = .ok state) :
    ∃ e, builder.requireIncomplete = .error e := by
  unfold Stage2BundleBuilder.requireIncomplete
  by_cases hplace : builder.place = .staging
  · -- there is no manifest, so the state is that of the record
    have hmanifest : builder.tree.readBytes [manifestName] = none := by
      have hnone : builder.tree.get [manifestName] = none := by
        by_contra hthere
        have hfinal := hplaced hthere
        rw [hplace] at hfinal
        cases hfinal
      rw [FileTree.readBytes, hnone]
    simp only [inspectBundleState, hmanifest] at h
    rw [if_pos hplace]
    cases hread : builder.tree.readBytes [stateName] with
    | none =>
      rw [hread] at h
      exact absurd (Except.ok.inj h).symm hstate
    | some data =>
      simp only [hread] at h
      obtain ⟨record, hrecord, rfl⟩ := exists_of_map_eq_ok h
      refine ⟨.stage2Bundle "only an incomplete bundle can change state", ?_⟩
      simp only [hrecord]
      exact if_pos hstate
  · exact ⟨.stage2Bundle "bundle has no mutable incomplete state", by rw [if_neg hplace]⟩

/-! ## State records -/

omit [Timestamps] in
/-- A record that was written is read, and has the next number. -/
theorem recorded_of_written {setting : BundleSetting} {m₀ m : Machine Stage2BundleBuilder}
    {place : Place} {record : BundleStateRecord} {data : Bytes} (hvalid : record.Valid)
    (hline : record.line = .ok data) (hsequence : record.sequence = m₀.state.sequence + 1)
    (h : setting.Written (BundleSetting.counted m₀) place [stateName] data m) :
    ∃ record data, m.state.tree.readBytes [stateName] = some data ∧
      modelValidateJson BundleStateRecord.ofJson data = .ok record ∧
      m₀.state.sequence < record.sequence := by
  refine ⟨record, data, ?_, BundleStateRecord.modelValidateJson_line hvalid hline, by omega⟩
  obtain ⟨time, hget⟩ := h.replaced.get
  rw [FileTree.readBytes_eq_some]
  exact ⟨time, by rw [hget, Function.update_self]⟩

/-- **A write or an invalidation that returned has written a record**, with a number that was not
taken before. -/
theorem recorded_of_run {setting : BundleSetting} {call : BundleCall} (hcall : call.isCommit = false)
    {m m' : Machine Stage2BundleBuilder} (h : call.run setting m = (.ok (), m')) :
    ∃ record data, m'.state.tree.readBytes [stateName] = some data ∧
      modelValidateJson BundleStateRecord.ofJson data = .ok record ∧
      m.state.sequence < record.sequence := by
  -- both writes record what they retain
  have hwrite : ∀ start relative data, setting.writeEvidence start relative data m = (.ok (), m') →
      ∃ record data, m'.state.tree.readBytes [stateName] = some data ∧
        modelValidateJson BundleStateRecord.ofJson data = .ok record ∧
        m.state.sequence < record.sequence := by
    intro start relative data hrun
    obtain ⟨path, m₁, m₂, bytes, hwritten⟩ :=
      (setting.writeEvidence_triple m start relative data).returned_of rfl hrun
    -- the file and its parents are made with the sequence number of before
    have hsequence : m₂.state.sequence = m.state.sequence := by
      rw [hwritten.file.written.replaced.sequence]
      exact (hwritten.file.prepared.made List.prefix_rfl m₁.calls).sequence
    obtain ⟨record, data', hread, hvalidated, hlt⟩ :=
      recorded_of_written hwritten.valid hwritten.line rfl hwritten.recorded
    exact ⟨record, data', hread, hvalidated, hsequence ▸ hlt⟩
  cases call with
  | writeRaw relative data => exact hwrite "raw" relative data h
  | writeDerived relative data => exact hwrite "derived" relative data h
  | invalidate phase reason lastValidBoundary =>
    -- an invalidation writes one record
    have hinvalidate : Triple (· = m) (setting.invalidate phase reason lastValidBoundary)
        { returned := fun _ m' => ∃ record data, m'.state.tree.readBytes [stateName] = some data ∧
            modelValidateJson BundleStateRecord.ofJson data = .ok record ∧
            m.state.sequence < record.sequence
          raised := fun _ _ => True
          crashed := fun _ => True } := by
      unfold BundleSetting.invalidate
      refine Triple.getState_bind_of_eq m.state (fun _ hm => hm ▸ rfl) ?_
      refine Triple.ite (fun _ => Triple.throwing fun _ _ => True.intro) fun _ => ?_
      refine Triple.compute_bind (fun _ _ _ _ => True.intro) fun _ _ => ?_
      refine Triple.mono (BundleSetting.writeStateAt_triple m .staging .invalid phase (some reason)
        lastValidBoundary) (fun _ hm => hm) ?_ (fun _ _ _ => True.intro) fun _ _ => True.intro
      rintro - m' ⟨data, hvalid, hline, hwritten⟩
      exact recorded_of_written hvalid hline rfl hwritten
    exact hinvalidate.returned_of rfl h
  | commit reconstruct crashBeforeManifest now => cases hcall

/-- A call that returned found a record. -/
theorem requireIncomplete_of_run {setting : BundleSetting} {call : BundleCall}
    {m m' : Machine Stage2BundleBuilder} (h : call.run setting m = (.ok (), m')) :
    ∃ data record, m.state.tree.readBytes [stateName] = some data ∧
      modelValidateJson BundleStateRecord.ofJson data = .ok record := by
  cases hincomplete : m.state.requireIncomplete with
  | error e =>
    obtain ⟨e', hrun⟩ := run_of_not_incomplete setting call hincomplete
    rw [h] at hrun
    cases hrun
  | ok record =>
    unfold Stage2BundleBuilder.requireIncomplete at hincomplete
    split at hincomplete
    · cases hincomplete
    · next data hread =>
      obtain ⟨record', hvalidated, -⟩ := bind_eq_ok.mp hincomplete
      split at hread
      · exact ⟨data, record', hread, hvalidated⟩
      · cases hread

/-! ## What holds along a run -/

/-- What holds of a builder in the state `m`, whatever is called then. -/
structure Absorbing (setting : BundleSetting) (m : Machine Stage2BundleBuilder) : Prop where
  terminal : ∀ state, state ≠ .incomplete → inspectBundleState m.state.tree = .ok state →
    ∀ calls call, ∃ e, BundleCall.run setting call (stateAfter (BundleCall.run setting) m calls) =
      (.error (.raised e), m)
  kept : ∀ path data, IsEvidence path → m.state.tree.readBytes path = some data →
    ∀ calls, (stateAfter (BundleCall.run setting) m calls).state.tree.readBytes path = some data
  written : ∀ call relative data,
    (call = BundleCall.writeRaw relative data ∨ call = BundleCall.writeDerived relative data) →
    ∀ m', call.run setting m = (.ok (), m') →
    ∀ calls, (stateAfter (BundleCall.run setting) m' calls).state.tree.readBytes
      (PurePosixPath.ofStr relative).tail = some data
  increasing : ∀ data, m.state.tree.readBytes [stateName] = some data →
    ∀ calls data',
      (stateAfter (BundleCall.run setting) m calls).state.tree.readBytes [stateName] = some data' →
      data' ≠ data → ∃ record record',
        modelValidateJson BundleStateRecord.ofJson data = .ok record ∧
        modelValidateJson BundleStateRecord.ofJson data' = .ok record' ∧
        record.sequence < record'.sequence
  recorded : ∀ call : BundleCall, call.isCommit = false → ∀ m', call.run setting m = (.ok (), m') →
    ∃ data record data' record', m.state.tree.readBytes [stateName] = some data ∧
      modelValidateJson BundleStateRecord.ofJson data = .ok record ∧
      m'.state.tree.readBytes [stateName] = some data' ∧
      modelValidateJson BundleStateRecord.ofJson data' = .ok record' ∧
      record.sequence < record'.sequence

/-- **Terminal states are absorbing and evidence is never overwritten**, in every state that a
builder reaches, in any world. -/
theorem absorbing_of_create {setting : BundleSetting} {m₀ : Machine Stage2BundleBuilder}
    (h : setting.create emptyBundle = (.ok (), m₀)) (calls : List BundleCall) :
    Absorbing setting (stateAfter (BundleCall.run setting) m₀ calls) := by
  have hlater : Later emptyBundle.state (stateAfter (BundleCall.run setting) m₀ calls).state :=
    (later_create h).trans (later_stateAfter setting calls m₀)
  generalize stateAfter (BundleCall.run setting) m₀ calls = m at hlater
  -- the record at hand has a number that was taken, every later one a higher number
  have hrecord : ∀ data, m.state.tree.readBytes [stateName] = some data →
      ∃ record, modelValidateJson BundleStateRecord.ofJson data = .ok record ∧
        record.sequence ≤ m.state.sequence := by
    intro data hdata
    rcases hlater.record with hsame | hnone | ⟨record, data₁, hdata₁, hvalid, hline, -, hle⟩
    · rw [hdata] at hsame
      cases hsame
    · rw [hdata] at hnone
      cases hnone
    · obtain rfl := Option.some.inj (hdata₁.symm.trans hdata)
      exact ⟨record, BundleStateRecord.modelValidateJson_line hvalid hline, hle⟩
  refine ⟨?_, ?_, ?_, ?_, ?_⟩
  · intro state hstate hinspect calls call
    have hplaced := hlater.manifest fun hthere => absurd (by decide) hthere
    obtain ⟨e, hguard⟩ := not_incomplete_of_terminal hplaced hstate hinspect
    -- no call changes the state, so each finds the same record
    have hstays : stateAfter (BundleCall.run setting) m calls = m := by
      induction calls with
      | nil => rfl
      | cons call calls ih =>
        obtain ⟨e', hrun⟩ := run_of_not_incomplete setting call hguard
        rw [stateAfter, hrun]
        exact ih
    rw [hstays]
    exact run_of_not_incomplete setting call hguard
  · intro path data hpath hdata calls
    exact (later_stateAfter setting calls m).evidence path hpath data hdata
  · intro call relative data hcall m' hrun calls
    have hwritten : IsEvidence (PurePosixPath.ofStr relative).tail ∧
        m'.state.tree.readBytes (PurePosixPath.ofStr relative).tail = some data := by
      rcases hcall with rfl | rfl
      · exact of_writeEvidence (.inl rfl) hrun
      · exact of_writeEvidence (.inr rfl) hrun
    exact (later_stateAfter setting calls m').evidence _ hwritten.1 data hwritten.2
  · intro data hdata calls data' hdata' hne
    obtain ⟨record, hread, hle⟩ := hrecord data hdata
    rcases (later_stateAfter setting calls m).record with
      hsame | hnone | ⟨record', data₁, hdata₁, hvalid, hline, hlt, -⟩
    · rw [hsame, hdata] at hdata'
      exact absurd (Option.some.inj hdata').symm hne
    · rw [hnone] at hdata'
      cases hdata'
    · obtain rfl := Option.some.inj (hdata₁.symm.trans hdata')
      exact ⟨record, record', hread, BundleStateRecord.modelValidateJson_line hvalid hline,
        hle.trans_lt hlt⟩
  · intro call hcall m' hrun
    obtain ⟨data, -, hdata, -⟩ := requireIncomplete_of_run hrun
    obtain ⟨record, hread, hle⟩ := hrecord data hdata
    obtain ⟨record', data', hdata', hread', hlt⟩ := recorded_of_run hcall hrun
    exact ⟨data, record, data', record', hdata, hread, hdata', hread', hle.trans_lt hlt⟩

end

section

attribute [local instance] cpython sampleTimestamps

/-- A bundle that was made, filled with a file and then invalidated: the file is there. -/
theorem absorbing_of_invalidate :
    ∃ created, sampleSetting.create emptyBundle = (.ok (), created) ∧
      (stateAfter (BundleCall.run sampleSetting) created
        [.writeRaw (lit "raw/a.json") [91, 93, 10],
          .invalidate (lit "RUN") (lit "STOPPED") none]).state.tree.readBytes
            [lit "raw", lit "a.json"] = some [91, 93, 10] ∧
      Absorbing sampleSetting
        (stateAfter (BundleCall.run sampleSetting) created
          [.writeRaw (lit "raw/a.json") [91, 93, 10],
            .invalidate (lit "RUN") (lit "STOPPED") none]) := by
  have hcreated : (sampleSetting.create emptyBundle).1 = .ok () := by decide +kernel
  have hkept : (stateAfter (BundleCall.run sampleSetting) (sampleSetting.create emptyBundle).2
      [.writeRaw (lit "raw/a.json") [91, 93, 10],
        .invalidate (lit "RUN") (lit "STOPPED") none]).state.tree.readBytes
          [lit "raw", lit "a.json"] = some [91, 93, 10] := by decide +kernel
  exact ⟨_, Method.eq_mk_snd hcreated, hkept, absorbing_of_create (Method.eq_mk_snd hcreated) _⟩

end

end Stage2
