import LlmInferenceSystems.Stage2.Bundle

/-!
# What the file operations of a bundle do

Each operation is specified once, for every world: what the directory is after it when it returns,
when it raises and when the process goes away in the middle. A file is written under a temporary
name and moved, so that its place holds the old data or the new, never a part of it.

## Main definitions

* `BundleSetting.Replaced`, `BundleSetting.Partly`: a file written, and a write that was cut short
* `BundleSetting.Ready`: nothing is in the way of a write
* `BundleSetting.Prepared`: parent directories made

## Main results

* `BundleSetting.durableWrite_triple`, `BundleSetting.prepareParents_triple`,
  `BundleSetting.writeStateAt_triple`: the specifications
-/

namespace Stage2

open Python

namespace BundleSetting

variable {setting : BundleSetting}

/-! ## Temporary names -/

theorem getLastD_temporaryPath (setting : BundleSetting) (path : RelPath) :
    (setting.temporaryPath path).getLastD [] =
      lit "." ++ path.getLastD [] ++ lit ".tmp-" ++ decimal setting.pid := by
  simp [temporaryPath]

theorem temporaryPath_ne (setting : BundleSetting) (path : RelPath) :
    setting.temporaryPath path ≠ path := by
  intro heq
  have hlength := congrArg (fun path : RelPath => (path.getLastD []).length) heq
  simp only [getLastD_temporaryPath, List.length_append,
    show (lit ".").length = 1 from rfl] at hlength
  omega

theorem dropLast_temporaryPath (setting : BundleSetting) (path : RelPath) :
    (setting.temporaryPath path).dropLast = path.dropLast := by
  simp [temporaryPath]

/-- A temporary name is the name of a file when the name is. -/
theorem isName_temporaryPath {path : RelPath} (h : ∀ name ∈ path, IsName name) :
    ∀ name ∈ setting.temporaryPath path, IsName name := by
  intro name hname
  rcases List.mem_append.mp hname with hname | hname
  · exact h name (List.dropLast_subset path hname)
  · obtain rfl := List.mem_singleton.mp hname
    -- the name is that of the file with `.tmp-` and the process id, and none of these has a slash
    have hlast : ∀ c ∈ path.getLastD [],
        c ≠ 47 ∧ c ≠ 0 ∧ (isScalar c ∨ 0xDC80 ≤ c ∧ c ≤ 0xDCFF) := by
      rcases List.eq_nil_or_concat path with rfl | ⟨front, last, rfl⟩
      · simp
      · have hname := h last (by simp)
        intro c hc
        have hc : c ∈ last := by simpa using hc
        exact ⟨fun heq => hname.2.1 (heq ▸ hc), fun heq => hname.2.2.2.2.1 (heq ▸ hc),
          hname.2.2.2.2.2 c hc⟩
    have hascii : ∀ c, c = 46 ∨ c ∈ lit ".tmp-" ∨ c ∈ decimal setting.pid →
        c ≠ 47 ∧ c ≠ 0 ∧ (isScalar c ∨ 0xDC80 ≤ c ∧ c ≤ 0xDCFF) := by
      intro c hc
      have hrange : 45 ≤ c ∧ c < 128 ∧ c ≠ 47 := by
        rcases hc with rfl | hc | hc
        · decide
        · exact (show ∀ c ∈ lit ".tmp-", 45 ≤ c ∧ c < 128 ∧ c ≠ 47 by decide) c hc
        · have := decimal_ascii hc
          omega
      exact ⟨hrange.2.2, by omega, .inl (isScalar_of_ascii hrange.2.1)⟩
    have hall : ∀ c ∈ lit "." ++ path.getLastD [] ++ lit ".tmp-" ++ decimal setting.pid,
        c ≠ 47 ∧ c ≠ 0 ∧ (isScalar c ∨ 0xDC80 ≤ c ∧ c ≤ 0xDCFF) := by
      intro c hc
      simp only [List.mem_append, show lit "." = [46] from rfl, List.mem_singleton] at hc
      rcases hc with ((hc | hc) | hc) | hc
      · exact hascii c (.inl hc)
      · exact hlast c hc
      · exact hascii c (.inr (.inl hc))
      · exact hascii c (.inr (.inr hc))
    -- it is longer than `.` and `..`
    have hlong : 6 ≤ (lit "." ++ path.getLastD [] ++ lit ".tmp-" ++ decimal setting.pid).length := by
      simp only [List.length_append, show (lit ".").length = 1 from rfl,
        show (lit ".tmp-").length = 5 from rfl]
      omega
    generalize lit "." ++ path.getLastD [] ++ lit ".tmp-" ++ decimal setting.pid = name at hall hlong
    refine ⟨?_, fun hmem => (hall 47 hmem).1 rfl, ?_, ?_, fun hmem => (hall 0 hmem).2.1 rfl,
      fun c hc => (hall c hc).2.2⟩
    · rintro rfl
      simp at hlong
    · rintro rfl
      revert hlong
      decide
    · rintro rfl
      revert hlong
      decide

/-- A temporary name can be given to a call when the name can. -/
theorem fsEncodable_temporaryPath {path : RelPath} :
    (∀ name ∈ setting.temporaryPath path, FsEncodable name) ↔ ∀ name ∈ path, FsEncodable name := by
  have haround : FsEncodable (lit ".") ∧ FsEncodable (lit ".tmp-") ∧
      FsEncodable (decimal setting.pid) := by
    refine ⟨by decide, by decide, fsEncodable_of_ascii fun c hc => ?_⟩
    have := decimal_ascii hc
    omega
  have hlast : ∀ name, FsEncodable (lit "." ++ name ++ lit ".tmp-" ++ decimal setting.pid) ↔
      FsEncodable name := by
    intro name
    simp only [fsEncodable_append, haround, true_and, and_true]
  rcases List.eq_nil_or_concat path with rfl | ⟨front, last, rfl⟩
  · have hnil : FsEncodable [] := ⟨by simp, by simp⟩
    simp only [temporaryPath, List.dropLast_nil, List.nil_append, List.mem_singleton,
      forall_eq, List.getLastD_nil, hlast, hnil, List.not_mem_nil, false_imp_iff, implies_true]
  · simp only [List.concat_eq_append, temporaryPath, List.dropLast_concat, List.getLastD_concat,
      List.mem_append, List.mem_singleton, or_imp, forall_and, forall_eq, hlast]

theorem fsEncodable_stateName : ∀ name ∈ [stateName], FsEncodable name := by decide

theorem fsEncodable_manifestName : ∀ name ∈ [manifestName], FsEncodable name := by decide

/-! ## What a write leaves -/

/-- No call between two points of a run failed. -/
def NoFault (setting : BundleSetting) (m₀ m : Machine Stage2BundleBuilder) : Prop :=
  ∀ n, m₀.calls ≤ n → n < m.calls → setting.world.fault n = .none

/-- After `i` calls without a fault, the directory is `get`, where it was. -/
structure Reached (setting : BundleSetting) (m₀ : Machine Stage2BundleBuilder) (i : ℕ)
    (get : RelPath → Option Node) (m : Machine Stage2BundleBuilder) : Prop where
  place : m.state.place = m₀.state.place
  sequence : m.state.sequence = m₀.state.sequence
  get : m.state.tree.get = get
  calls : m.calls = m₀.calls + i
  noFault : setting.NoFault m₀ m

/-- The file at `path` holds `data`, and nothing else changed. -/
structure Replaced (m₀ : Machine Stage2BundleBuilder) (path : RelPath) (data : Bytes)
    (m : Machine Stage2BundleBuilder) : Prop where
  place : m.state.place = m₀.state.place
  sequence : m.state.sequence = m₀.state.sequence
  get : ∃ time, m.state.tree.get =
    Function.update m₀.state.tree.get path (some (.file data time))

/-- A write that was cut short: the temporary file may be there, and the file at `path` holds
`data` only after the fourth call. -/
structure Partly (setting : BundleSetting) (m₀ : Machine Stage2BundleBuilder) (path : RelPath)
    (data : Bytes) (m : Machine Stage2BundleBuilder) : Prop where
  place : m.state.place = m₀.state.place
  sequence : m.state.sequence = m₀.state.sequence
  get : ∃ node,
    m.state.tree.get =
      Function.update m₀.state.tree.get (setting.temporaryPath path) node ∨
    m₀.calls + 4 ≤ m.calls ∧ ∃ time, m.state.tree.get =
      Function.update (Function.update m₀.state.tree.get (setting.temporaryPath path) node) path
        (some (.file data time))

/-- Nothing is in the way of a write. -/
structure Ready (setting : BundleSetting) (builder : Stage2BundleBuilder) (place : Place)
    (path : RelPath) : Prop where
  place : builder.place = place
  nonempty : path ≠ []
  names : ∀ name ∈ path, IsName name
  directory : builder.tree.get path.dropLast = some .directory
  fresh : builder.tree.get (setting.temporaryPath path) = none
  target : builder.tree.get path ≠ some .directory

/-- A call on a file, in any world. -/
theorem fileCall_triple {place : Place} {call : ℤ → FileTree → Option FileTree}
    {pre : Machine Stage2BundleBuilder → Prop} {post : Post Stage2BundleBuilder Unit}
    (hdone : ∀ m, pre m → setting.world.fault m.calls = .none → m.state.place = place →
      ∀ tree, call (setting.world.time m.calls) m.state.tree = some tree →
        post.returned () ⟨{ m.state with tree := tree }, m.calls + 1⟩)
    (hfailed : ∀ m, pre m → (setting.world.fault m.calls ≠ .none ∨ m.state.place ≠ place ∨
      call (setting.world.time m.calls) m.state.tree = none) →
        post.raised .os ⟨m.state, m.calls + 1⟩)
    (hcrashed : ∀ m, pre m → setting.world.fault m.calls ≠ .none → post.crashed m) :
    Triple pre (setting.fileCall place call) post := by
  refine Triple.syscall ?_ ?_ ?_
  · intro m hm hfault s hs
    split at hs
    · next hplace =>
      obtain ⟨tree, htree, rfl⟩ := Option.map_eq_some_iff.mp hs
      exact hdone m hm hfault hplace tree htree
    · simp at hs
  · intro m hm hreason
    apply hfailed m hm
    rcases hreason with hfault | ⟨-, hnone⟩
    · exact .inl (by simp [hfault])
    · split at hnone
      · exact .inr (.inr (Option.map_eq_none_iff.mp hnone))
      · next hplace => exact .inr (.inl hplace)
  · intro m hm hfault
    exact hcrashed m hm (by simp [hfault])

/-- How a write raises when a call fails: nothing failed by itself where it was ready. -/
def WriteRaised (setting : BundleSetting) (m₀ : Machine Stage2BundleBuilder) (place : Place)
    (path : RelPath) (data : Bytes) (e : PyError) (m : Machine Stage2BundleBuilder) : Prop :=
  e = .os ∧ setting.Partly m₀ path data m ∧ (setting.Ready m₀.state place path →
    ∃ n, m₀.calls ≤ n ∧ n < m.calls ∧ setting.world.fault n ≠ .none)

/-- How the body of a write raises: its path is refused before the first call, or a call fails. -/
def BodyRaised (setting : BundleSetting) (m₀ : Machine Stage2BundleBuilder) (place : Place)
    (path : RelPath) (data : Bytes) (e : PyError) (m : Machine Stage2BundleBuilder) : Prop :=
  (e ≠ .os ∧ (¬ ∀ name ∈ path, FsEncodable name) ∧ m = m₀) ∨
    setting.WriteRaised m₀ place path data e m

/-- One call of a write. -/
theorem writeCall_triple {m₀ : Machine Stage2BundleBuilder} {place : Place} {path : RelPath}
    {data : Bytes} {call : ℤ → FileTree → Option FileTree} {i : ℕ} {get : RelPath → Option Node}
    (fact : Prop) (next : ℤ → RelPath → Option Node)
    (hcall : ∀ time tree tree', tree.get = get → call time tree = some tree' →
      tree'.get = next time ∧ fact)
    (hready : setting.Ready m₀.state place path → ∀ time tree, tree.get = get →
      ∃ tree', call time tree = some tree')
    (hpartly : ∀ m n, setting.Reached m₀ i get m → m.calls ≤ n →
      setting.Partly m₀ path data ⟨m.state, n⟩) :
    Triple (setting.Reached m₀ i get) (setting.fileCall place call)
      { returned := fun _ m => (m₀.state.place = place ∧ fact) ∧
          ∃ time, setting.Reached m₀ (i + 1) (next time) m
        raised := setting.WriteRaised m₀ place path data
        crashed := setting.Partly m₀ path data } := by
  refine fileCall_triple ?_ ?_ ?_
  -- the call goes through, and nothing failed up to it
  · intro m hm hfault hplace tree htree
    obtain ⟨hget, hfact⟩ := hcall _ _ _ hm.get htree
    refine ⟨⟨hm.place ▸ hplace, hfact⟩, setting.world.time m.calls, hm.place, hm.sequence, hget,
      ?_, ?_⟩
    · show m.calls + 1 = m₀.calls + (i + 1)
      rw [hm.calls, Nat.add_assoc]
    · intro n hle hlt
      rcases Nat.lt_succ_iff_lt_or_eq.mp hlt with hlt | rfl
      · exact hm.noFault n hle hlt
      · exact hfault
  -- the call raises: by a fault, in another place, or since the tree does not allow it
  · intro m hm hreason
    refine ⟨rfl, hpartly m _ hm (Nat.le_succ _), fun hr => ⟨m.calls, ?_, Nat.lt_succ_self _, ?_⟩⟩
    · rw [hm.calls]
      exact Nat.le_add_right _ _
    · rcases hreason with hfault | hplace | hnone
      · exact hfault
      · exact absurd (hm.place.trans hr.place) hplace
      · obtain ⟨tree', htree'⟩ := hready hr (setting.world.time m.calls) m.state.tree hm.get
        rw [hnone] at htree'
        cases htree'
  -- the process dies before the call
  · intro m hm hfault
    exact hpartly m m.calls hm (Nat.le_refl _)

theorem Partly.of_update {m₀ m : Machine Stage2BundleBuilder} {path : RelPath} {data : Bytes}
    {i : ℕ} {node : Option Node}
    (h : setting.Reached m₀ i
      (Function.update m₀.state.tree.get (setting.temporaryPath path) node) m) (n : ℕ) :
    setting.Partly m₀ path data ⟨m.state, n⟩ :=
  ⟨h.place, h.sequence, node, .inl h.get⟩

theorem temporaryPath_ne_dropLast (setting : BundleSetting) (path : RelPath) :
    setting.temporaryPath path ≠ path.dropLast := by
  intro heq
  have hlength := congrArg List.length heq
  simp [temporaryPath] at hlength

/-- The five calls of a write. -/
theorem writeCalls_triple (m₀ : Machine Stage2BundleBuilder) (place : Place) (path : RelPath)
    (data : Bytes) :
    Triple (· = m₀)
      (do
        setting.fileCall place fun time tree => tree.create (setting.temporaryPath path) time
        setting.fileCall place fun time tree => tree.write (setting.temporaryPath path) data time
        setting.syncPath place (setting.temporaryPath path)
        setting.fileCall place fun _ tree => tree.replace (setting.temporaryPath path) path
        setting.syncPath place path.dropLast)
      { returned := fun _ m => m₀.state.place = place ∧
          m₀.state.tree.get (setting.temporaryPath path) = none ∧
          m₀.state.tree.get path.dropLast = some .directory ∧
          m₀.state.tree.get path ≠ some .directory ∧
          ∃ time, setting.Reached m₀ 5 (Function.update m₀.state.tree.get path
            (some (.file data time))) m
        raised := setting.WriteRaised m₀ place path data
        crashed := setting.Partly m₀ path data } := by
  have htemp := setting.temporaryPath_ne path
  have hparent := setting.temporaryPath_ne_dropLast path
  -- the temporary file is made
  refine Triple.bind (Triple.of_pre (@writeCall_triple _ m₀ place path data _ 0 m₀.state.tree.get
    (m₀.state.tree.get (setting.temporaryPath path) = none ∧
      m₀.state.tree.get path.dropLast = some .directory)
    (fun time => Function.update m₀.state.tree.get (setting.temporaryPath path)
      (some (.file [] time))) ?_ ?_ ?_) ?_) ?_
  · intro time tree tree' hget htree
    obtain ⟨hfresh, hdir, hnext⟩ := FileTree.of_create htree
    rw [hget, dropLast_temporaryPath] at hdir
    rw [hget] at hfresh hnext
    exact ⟨hnext, hfresh, hdir⟩
  · intro hr time tree hget
    refine FileTree.exists_create (isName_temporaryPath hr.names) ?_ ?_ time
    · rw [hget, dropLast_temporaryPath]
      exact hr.directory
    · rw [hget]
      exact hr.fresh
  · intro m n hm _
    refine ⟨hm.place, hm.sequence, m₀.state.tree.get (setting.temporaryPath path), .inl ?_⟩
    rw [hm.get, Function.update_eq_self]
  · rintro m rfl
    exact ⟨rfl, rfl, rfl, rfl, fun n hle hlt => absurd hlt (Nat.not_lt.mpr hle)⟩
  intro _
  refine Triple.and_pre fun ⟨hplace, hfresh, hdir⟩ => Triple.exists_pre fun created => ?_
  -- it is filled
  refine Triple.bind (writeCall_triple True
    (fun time => Function.update m₀.state.tree.get (setting.temporaryPath path)
      (some (.file data time))) ?_ ?_ fun m n hm _ => Partly.of_update hm n) ?_
  · intro time tree tree' hget htree
    rw [FileTree.get_write htree, hget, Function.update_idem]
    exact ⟨rfl, trivial⟩
  · intro _ time tree hget
    exact FileTree.exists_write (by rw [hget, Function.update_self]) data time
  intro _
  refine Triple.and_pre fun _ => Triple.exists_pre fun written => ?_
  refine Triple.bind (writeCall_triple True
    (fun _ => Function.update m₀.state.tree.get (setting.temporaryPath path)
      (some (.file data written))) ?_ ?_ fun m n hm _ => Partly.of_update hm n) ?_
  · intro time tree tree' hget htree
    split at htree
    · obtain rfl := Option.some.inj htree
      exact ⟨hget, trivial⟩
    · cases htree
  · intro _ time tree hget
    exact ⟨tree, if_pos (FileTree.has_iff.mpr (by rw [hget, Function.update_self]; simp))⟩
  intro _
  refine Triple.and_pre fun _ => Triple.exists_pre fun _ => ?_
  -- it takes the place of the file
  refine Triple.bind (writeCall_triple (m₀.state.tree.get path ≠ some .directory)
    (fun _ => Function.update (Function.update m₀.state.tree.get
      (setting.temporaryPath path) none) path (some (.file data written))) ?_ ?_
    fun m n hm _ => Partly.of_update hm n) ?_
  · intro time tree tree' hget htree
    obtain ⟨data', time', hsource, htarget, hnext⟩ := FileTree.of_replace htree
    rw [hget, Function.update_self] at hsource
    rw [hget, Function.update_of_ne (Ne.symm htemp)] at htarget
    obtain ⟨rfl, rfl⟩ := Node.file.inj (Option.some.inj hsource)
    rw [hnext, hget, Function.update_idem]
    exact ⟨rfl, htarget⟩
  · intro hr time tree hget
    refine FileTree.exists_replace (by rw [hget, Function.update_self]) hr.nonempty hr.names ?_ ?_
    · rw [hget, Function.update_of_ne (Ne.symm hparent)]
      exact hr.directory
    · rw [hget, Function.update_of_ne (Ne.symm htemp)]
      exact hr.target
  intro _
  refine Triple.and_pre fun ⟨_, htarget⟩ => Triple.exists_pre fun _ => ?_
  refine Triple.mono (writeCall_triple True
    (fun _ => Function.update (Function.update m₀.state.tree.get
      (setting.temporaryPath path) none) path (some (.file data written))) ?_ ?_ ?_)
    (fun m hm => hm) ?_ (fun _ _ h => h) fun _ h => h
  · intro time tree tree' hget htree
    split at htree
    · obtain rfl := Option.some.inj htree
      exact ⟨hget, trivial⟩
    · cases htree
  · intro hr time tree hget
    refine ⟨tree, if_pos (FileTree.has_iff.mpr ?_)⟩
    rw [hget, Function.update_of_ne (FileTree.dropLast_ne_self hr.nonempty),
      Function.update_of_ne (Ne.symm hparent), hr.directory]
    simp
  · intro m n hm hn
    refine ⟨hm.place, hm.sequence, none, .inr ⟨?_, written, hm.get⟩⟩
    have := hm.calls
    show m₀.calls + 4 ≤ n
    omega
  · rintro - m ⟨-, -, hm⟩
    have hsame : Function.update m₀.state.tree.get (setting.temporaryPath path) none =
        m₀.state.tree.get := by rw [← hfresh, Function.update_eq_self]
    rw [hsame] at hm
    exact ⟨hplace, hfresh, hdir, htarget, written, hm⟩

/-- What a write does before its `finally` clause. -/
theorem writeBody_triple (m₀ : Machine Stage2BundleBuilder) (place : Place) (path : RelPath)
    (data : Bytes) :
    Triple (· = m₀)
      (do
        compute (fsConvert (setting.temporaryPath path))
        setting.fileCall place fun time tree => tree.create (setting.temporaryPath path) time
        setting.fileCall place fun time tree => tree.write (setting.temporaryPath path) data time
        setting.syncPath place (setting.temporaryPath path)
        setting.fileCall place fun _ tree => tree.replace (setting.temporaryPath path) path
        setting.syncPath place path.dropLast)
      { returned := fun _ m => m₀.state.place = place ∧
          m₀.state.tree.get (setting.temporaryPath path) = none ∧
          m₀.state.tree.get path.dropLast = some .directory ∧
          m₀.state.tree.get path ≠ some .directory ∧
          ∃ time, setting.Reached m₀ 5 (Function.update m₀.state.tree.get path
            (some (.file data time))) m
        raised := setting.BodyRaised m₀ place path data
        crashed := setting.Partly m₀ path data } := by
  refine Triple.compute_bind ?_ fun _ _ => ?_
  · -- the path is refused
    rintro e he m rfl
    refine .inl ⟨?_, ?_, rfl⟩
    · rintro rfl
      exact fsConvert_ne_os he
    · rw [← fsEncodable_temporaryPath, ← fsConvert_eq_ok, he]
      exact fun h => by cases h
  refine Triple.mono (writeCalls_triple m₀ place path data) (fun m hm => hm) (fun _ m hm => hm)
    (fun e m hm => .inr hm) fun m hm => hm

/-- What a write that returned has done. -/
structure Written (setting : BundleSetting) (m₀ : Machine Stage2BundleBuilder) (place : Place)
    (path : RelPath) (data : Bytes) (m : Machine Stage2BundleBuilder) : Prop where
  size : data.length ≤ maxStage2FileBytes
  place : m₀.state.place = place
  fresh : m₀.state.tree.get (setting.temporaryPath path) = none
  directory : m₀.state.tree.get path.dropLast = some .directory
  target : m₀.state.tree.get path ≠ some .directory
  replaced : Replaced m₀ path data m
  calls : m.calls = m₀.calls + 5
  noFault : setting.NoFault m₀ m

/-- How a write raises. -/
inductive WriteStops (setting : BundleSetting) (m₀ : Machine Stage2BundleBuilder) (place : Place)
    (path : RelPath) (data : Bytes) : PyError → Machine Stage2BundleBuilder → Prop
  | size (large : maxStage2FileBytes < data.length) :
      WriteStops setting m₀ place path data
        (.stage2Bundle "bundle file exceeds the Stage 2 size limit") m₀
  | path {e : PyError} (size : data.length ≤ maxStage2FileBytes)
      (refused : ¬ ∀ name ∈ path, FsEncodable name) (other : e ≠ .os) :
      WriteStops setting m₀ place path data e m₀
  | call {m : Machine Stage2BundleBuilder} (size : data.length ≤ maxStage2FileBytes)
      (partly : setting.Partly m₀ path data m)
      (fault : setting.Ready m₀.state place path →
        ∃ n, m₀.calls ≤ n ∧ n < m.calls ∧ setting.world.fault n ≠ .none) :
      WriteStops setting m₀ place path data .os m

/-- A path whose temporary file is there can be given to a call. -/
theorem encodable_of_temporary {tree : FileTree} {path : RelPath}
    (hthere : tree.has (setting.temporaryPath path) = true) : ∀ name ∈ path, FsEncodable name :=
  fsEncodable_temporaryPath.mp fun name hname =>
    (FileTree.names_of_get (FileTree.has_iff.mp hthere) name hname).fsEncodable

/-- Removing the temporary file leaves a cut-short write one. -/
theorem Partly.unlink {m₀ m : Machine Stage2BundleBuilder} {path : RelPath} {data : Bytes}
    (h : setting.Partly m₀ path data m) {tree : FileTree}
    (htree : m.state.tree.unlink (setting.temporaryPath path) = some tree) :
    setting.Partly m₀ path data ⟨{ m.state with tree := tree }, m.calls + 1⟩ := by
  refine ⟨h.place, h.sequence, none, ?_⟩
  obtain ⟨node, hget | ⟨hcalls, time, hget⟩⟩ := h.get
  · left
    show tree.get = _
    rw [FileTree.get_unlink htree, hget, Function.update_idem]
  · right
    refine ⟨Nat.le_succ_of_le hcalls, time, ?_⟩
    show tree.get = _
    rw [FileTree.get_unlink htree, hget,
      Function.update_comm (setting.temporaryPath_ne path).symm, Function.update_idem]

theorem Partly.later {m₀ m : Machine Stage2BundleBuilder} {path : RelPath} {data : Bytes}
    (h : setting.Partly m₀ path data m) {n : ℕ} (hn : m.calls ≤ n) :
    setting.Partly m₀ path data ⟨m.state, n⟩ := by
  obtain ⟨node, hget | ⟨hcalls, hget⟩⟩ := h.get
  · exact ⟨h.place, h.sequence, node, .inl hget⟩
  · exact ⟨h.place, h.sequence, node, .inr ⟨hcalls.trans hn, hget⟩⟩

/-- **A durable write, in any world.** It returns when the file is in place, raises a
`Stage2BundleError` for data that is too long, and a `ValueError` for a path that cannot be given to
a call, before it does anything, and otherwise stops with the old file in place or the new. -/
theorem durableWrite_triple (m₀ : Machine Stage2BundleBuilder) (place : Place) (path : RelPath)
    (data : Bytes) :
    Triple (· = m₀) (setting.durableWrite place path data)
      { returned := fun _ => setting.Written m₀ place path data
        raised := setting.WriteStops m₀ place path data
        crashed := fun m => data.length ≤ maxStage2FileBytes ∧ setting.Partly m₀ path data m } := by
  unfold durableWrite
  refine Triple.ite ?_ ?_
  -- too many octets: nothing is touched
  · intro hlarge
    refine Triple.throwing ?_
    rintro m rfl
    exact .size hlarge
  intro hsize
  have hsize : data.length ≤ maxStage2FileBytes := Nat.le_of_not_lt hsize
  refine Triple.tryFinally (writeBody_triple m₀ place path data) ?_ ?_ fun m hm => ⟨hsize, hm⟩
  · intro _
    refine Triple.getState_bind fun s => Triple.ite ?_ ?_
    · -- the temporary file has been moved
      rintro ⟨-, htemp⟩
      apply Triple.unreachable
      rintro m ⟨⟨-, hfresh, -, -, time, hm⟩, rfl⟩
      refine absurd htemp ?_
      rw [FileTree.has_iff, hm.get, Function.update_of_ne (setting.temporaryPath_ne path), hfresh]
      simp
    · intro _
      refine Triple.pure ?_
      rintro m ⟨⟨hplace, hfresh, hdir, htarget, time, hm⟩, -⟩
      exact ⟨hsize, hplace, hfresh, hdir, htarget, ⟨hm.place, hm.sequence, time, hm.get⟩, hm.calls,
        hm.noFault⟩
  -- after an error the temporary file is removed, if it can be looked for and is there
  · intro e
    refine Triple.getState_bind fun s => Triple.ite ?_ ?_
    · rintro ⟨-, hthere⟩
      refine fileCall_triple ?_ ?_ ?_
      · rintro m ⟨⟨-, hrefused, rfl⟩ | ⟨rfl, hpartly, hfault⟩, rfl⟩ - - tree htree
        · exact absurd (encodable_of_temporary hthere) hrefused
        refine .call hsize (hpartly.unlink htree) fun hr => ?_
        obtain ⟨n, hle, hlt, hn⟩ := hfault hr
        exact ⟨n, hle, Nat.lt_succ_of_lt hlt, hn⟩
      · rintro m ⟨⟨-, hrefused, rfl⟩ | ⟨rfl, hpartly, hfault⟩, rfl⟩ -
        · exact absurd (encodable_of_temporary hthere) hrefused
        refine .call hsize (hpartly.later (Nat.le_succ _)) fun hr => ?_
        obtain ⟨n, hle, hlt, hn⟩ := hfault hr
        exact ⟨n, hle, Nat.lt_succ_of_lt hlt, hn⟩
      · rintro m ⟨⟨-, hrefused, rfl⟩ | ⟨-, hpartly, -⟩, rfl⟩ -
        · exact absurd (encodable_of_temporary hthere) hrefused
        exact ⟨hsize, hpartly⟩
    -- it is not there, so the error is passed on as it was
    · intro _
      refine Triple.pure ?_
      rintro m ⟨⟨hother, hrefused, rfl⟩ | ⟨rfl, hpartly, hfault⟩, -⟩
      · exact .path hsize hrefused hother
      · exact .call hsize hpartly hfault

/-! ## Parent directories -/

/-- Directories were made at or above `path`, where nothing was. -/
structure Made (m₀ : Machine Stage2BundleBuilder) (path : RelPath)
    (m : Machine Stage2BundleBuilder) : Prop where
  place : m.state.place = m₀.state.place
  sequence : m.state.sequence = m₀.state.sequence
  get : ∀ q, m.state.tree.get q = m₀.state.tree.get q ∨
    m₀.state.tree.get q = none ∧ m.state.tree.get q = some .directory ∧ q <+: path

/-- The directory `path` was made. -/
structure New (m₀ : Machine Stage2BundleBuilder) (path : RelPath)
    (m : Machine Stage2BundleBuilder) : Prop where
  directory : m.state.tree.get path = some .directory
  new : m₀.state.tree.get path = none
  made : Made m₀ path m

/-- The directory `path` is there: it was, or it is new. -/
structure Prepared (m₀ : Machine Stage2BundleBuilder) (path : RelPath)
    (m : Machine Stage2BundleBuilder) : Prop where
  directory : m.state.tree.get path = some .directory
  cases : m = m₀ ∨ New m₀ path m

theorem Made.refl (m₀ : Machine Stage2BundleBuilder) (path : RelPath) (n : ℕ) :
    Made m₀ path ⟨m₀.state, n⟩ := ⟨rfl, rfl, fun _ => .inl rfl⟩

theorem Made.mono {m₀ m : Machine Stage2BundleBuilder} {path path' : RelPath}
    (h : Made m₀ path m) (hle : path <+: path') (n : ℕ) : Made m₀ path' ⟨m.state, n⟩ := by
  refine ⟨h.place, h.sequence, fun q => ?_⟩
  rcases h.get q with hq | ⟨hnew, hdir, hq⟩
  · exact .inl hq
  · exact .inr ⟨hnew, hdir, hq.trans hle⟩

theorem Prepared.made {m₀ m : Machine Stage2BundleBuilder} {path : RelPath}
    (h : Prepared m₀ path m) {path' : RelPath} (hle : path <+: path') (n : ℕ) :
    Made m₀ path' ⟨m.state, n⟩ := by
  rcases h.cases with rfl | hnew
  · exact Made.refl _ _ n
  · exact hnew.made.mono hle n

/-- Below a new directory there is nothing. -/
theorem Prepared.eq_of_get {m₀ m : Machine Stage2BundleBuilder} {path : RelPath} {name : Str}
    (h : Prepared m₀ path m) (hthere : m.state.tree.get (path ++ [name]) ≠ none) : m = m₀ := by
  rcases h.cases with rfl | hnew
  · rfl
  · exfalso
    rcases hnew.made.get (path ++ [name]) with hsame | ⟨-, -, hle⟩
    · rw [hsame, FileTree.get_append_eq_none hnew.new] at hthere
      exact hthere rfl
    · have hlength := hle.length_le
      simp at hlength

/-- A directory made where nothing was. -/
theorem Prepared.mkdir {m₀ m : Machine Stage2BundleBuilder} {path : RelPath} {name : Str}
    (h : Prepared m₀ path m) {tree : FileTree}
    (htree : m.state.tree.mkdir (path ++ [name]) = some tree) (n : ℕ) :
    New m₀ (path ++ [name]) ⟨{ m.state with tree := tree }, n⟩ := by
  obtain ⟨hnew, -, hget⟩ := FileTree.of_mkdir htree
  have hmade := h.made (List.prefix_append path [name]) n
  have hnew₀ : m₀.state.tree.get (path ++ [name]) = none := by
    rcases hmade.get (path ++ [name]) with hsame | ⟨hnone, -, -⟩
    · rw [← hsame]
      exact hnew
    · exact hnone
  refine ⟨?_, hnew₀, hmade.place, hmade.sequence, fun q => ?_⟩
  · show tree.get _ = _
    rw [hget, Function.update_self]
  · show tree.get q = _ ∨ _ ∧ tree.get q = _ ∧ _
    rw [hget]
    by_cases hq : q = path ++ [name]
    · subst hq
      rw [Function.update_self]
      exact .inr ⟨hnew₀, rfl, List.prefix_rfl⟩
    · rw [Function.update_of_ne hq]
      exact hmade.get q

/-- How the preparation raises. -/
inductive PrepareStops (m₀ : Machine Stage2BundleBuilder) (path : RelPath) :
    PyError → Machine Stage2BundleBuilder → Prop
  | parent {q : RelPath} (above : q <+: path) (file : m₀.state.tree.isFile q = true) :
      PrepareStops m₀ path (.stage2Bundle "bundle evidence parent is not a directory") m₀
  | refused {made : RelPath} {part : Str} {e : PyError} {m : Machine Stage2BundleBuilder}
      (above : made ++ [part] <+: path) (prepared : Prepared m₀ made m)
      (refused : ¬ FsEncodable part) (other : e ≠ .os) : PrepareStops m₀ path e m
  | call {m : Machine Stage2BundleBuilder} (made : Made m₀ path m) : PrepareStops m₀ path .os m

/-- **Parent directories, in any world.** The loop returns when they are there. When it finds
something else in their place it has not changed anything. When a name is refused, the directories
above it have been made. -/
theorem prepareParents_triple (m₀ : Machine Stage2BundleBuilder) (current parts : RelPath) :
    Triple (Prepared m₀ current) (setting.prepareParents current parts)
      { returned := fun _ => Prepared m₀ (current ++ parts)
        raised := PrepareStops m₀ (current ++ parts)
        crashed := Made m₀ (current ++ parts) } := by
  induction parts generalizing current with
  | nil =>
    refine Triple.pure fun m hm => ?_
    rw [List.append_nil]
    exact hm
  | cons part parts ih =>
    have hjoin : current ++ part :: parts = (current ++ [part]) ++ parts := by simp
    have hle : current ++ [part] <+: current ++ part :: parts := ⟨parts, hjoin.symm⟩
    have hle' : current <+: current ++ part :: parts := List.prefix_append _ _
    have hrest := ih (current ++ [part])
    rw [← hjoin] at hrest
    unfold prepareParents
    refine Triple.getState_bind fun s => Triple.ite ?_ ?_
    · intro hthere
      refine Triple.ite ?_ ?_
      · -- the directory is there
        intro hdir
        refine Triple.of_pre hrest ?_
        rintro m ⟨hm, rfl⟩
        exact ⟨FileTree.isDir_iff.mp hdir, .inl (hm.eq_of_get (FileTree.has_iff.mp hthere))⟩
      · intro hother
        refine Triple.throwing ?_
        rintro m ⟨hm, rfl⟩
        obtain rfl := hm.eq_of_get (FileTree.has_iff.mp hthere)
        exact .parent hle (FileTree.isFile_of_has hthere hother)
    · intro _
      -- its path is refused: those above it are there
      refine Triple.compute_bind ?_ fun _ _ => ?_
      · rintro e he m ⟨hm, -⟩
        have habove := FileTree.names_of_get (show m.state.tree.get current ≠ none by
          simp [hm.directory])
        refine .refused hle hm (fun hpart => ?_) ?_
        · rw [fsConvert_eq_ok.mpr] at he
          · cases he
          · intro name hname
            rcases List.mem_append.mp hname with hname | hname
            · exact (habove name hname).fsEncodable
            · exact List.mem_singleton.mp hname ▸ hpart
        · rintro rfl
          exact fsConvert_ne_os he
      -- the directory is made, and its parent is synchronised
      have hmkdir : Triple (fun m => Prepared m₀ current m ∧ m.state = s)
          (setting.fileCall .staging fun _ tree => tree.mkdir (current ++ [part]))
          { returned := fun _ => New m₀ (current ++ [part])
            raised := PrepareStops m₀ (current ++ part :: parts)
            crashed := Made m₀ (current ++ part :: parts) } := by
        refine fileCall_triple ?_ ?_ ?_
        · rintro m ⟨hm, -⟩ - - tree htree
          exact hm.mkdir htree _
        · rintro m ⟨hm, -⟩ -
          exact .call (hm.made hle' _)
        · rintro m ⟨hm, -⟩ -
          exact hm.made hle' _
      have hsync : Triple (New m₀ (current ++ [part])) (setting.syncPath .staging current)
          { returned := fun _ => New m₀ (current ++ [part])
            raised := PrepareStops m₀ (current ++ part :: parts)
            crashed := Made m₀ (current ++ part :: parts) } := by
        refine fileCall_triple ?_ ?_ ?_
        · rintro m hm - - tree htree
          split at htree
          · obtain rfl := Option.some.inj htree
            exact ⟨hm.directory, hm.new, hm.made.mono List.prefix_rfl _⟩
          · cases htree
        · rintro m hm -
          exact .call (hm.made.mono hle _)
        · rintro m hm -
          exact hm.made.mono hle _
      refine Triple.bind hmkdir fun _ => Triple.bind hsync fun _ => ?_
      exact Triple.of_pre hrest fun m hm => ⟨hm.directory, .inr hm⟩

/-! ## State records -/

section

variable [Interpreter]

/-- The record that is written next. -/
def nextRecord (m₀ : Machine Stage2BundleBuilder) (state : BundleState) (phase : Str)
    (reason lastValidBoundary : Option Str) : BundleStateRecord :=
  ⟨state, phase, reason, lastValidBoundary, m₀.state.sequence + 1⟩

/-- The next number is taken. -/
def counted (m₀ : Machine Stage2BundleBuilder) : Machine Stage2BundleBuilder :=
  { m₀ with state := { m₀.state with sequence := m₀.state.sequence + 1 } }

/-- How the writing of a record raises; its number is taken in any case. -/
inductive RecordStops (setting : BundleSetting) (m₀ : Machine Stage2BundleBuilder) (place : Place)
    (record : BundleStateRecord) : PyError → Machine Stage2BundleBuilder → Prop
  | invalid (invalid : ¬ record.Valid) :
      RecordStops setting m₀ place record (.validation "BundleStateRecord") (counted m₀)
  | long {e : PyError} (valid : record.Valid) (long : maxInt ≤ record.sequence)
      (other : e ≠ .os) : RecordStops setting m₀ place record e (counted m₀)
  | call {data : Bytes} {m : Machine Stage2BundleBuilder} (valid : record.Valid)
      (line : record.line = .ok data) (partly : setting.Partly (counted m₀) [stateName] data m)
      (fault : setting.Ready m₀.state place [stateName] →
        ∃ n, m₀.calls ≤ n ∧ n < m.calls ∧ setting.world.fault n ≠ .none) :
      RecordStops setting m₀ place record .os m

/-- **A state record, in any world.** -/
theorem writeStateAt_triple (m₀ : Machine Stage2BundleBuilder) (place : Place)
    (state : BundleState) (phase : Str) (reason lastValidBoundary : Option Str) :
    Triple (· = m₀) (setting.writeStateAt place state phase reason lastValidBoundary)
      { returned := fun _ m => ∃ data, (nextRecord m₀ state phase reason lastValidBoundary).Valid ∧
          (nextRecord m₀ state phase reason lastValidBoundary).line = .ok data ∧
          setting.Written (counted m₀) place [stateName] data m
        raised := setting.RecordStops m₀ place
          (nextRecord m₀ state phase reason lastValidBoundary)
        crashed := fun m => ∃ data, (nextRecord m₀ state phase reason lastValidBoundary).Valid ∧
          (nextRecord m₀ state phase reason lastValidBoundary).line = .ok data ∧
          setting.Partly (counted m₀) [stateName] data m } := by
  unfold writeStateAt
  have hcount : Triple (· = m₀)
      (setState fun builder => { builder with sequence := builder.sequence + 1 })
      { returned := fun _ m => m = counted m₀
        raised := setting.RecordStops m₀ place
          (nextRecord m₀ state phase reason lastValidBoundary)
        crashed := fun m => ∃ data, (nextRecord m₀ state phase reason lastValidBoundary).Valid ∧
          (nextRecord m₀ state phase reason lastValidBoundary).line = .ok data ∧
          setting.Partly (counted m₀) [stateName] data m } := by
    refine Triple.setState ?_
    rintro m rfl
    rfl
  refine Triple.bind hcount fun _ =>
    Triple.getState_bind_of_eq (counted m₀).state (fun m hm => hm ▸ rfl) ?_
  show Triple _ (if (nextRecord m₀ state phase reason lastValidBoundary).Valid then do
      let data ← compute (nextRecord m₀ state phase reason lastValidBoundary).line
      setting.durableWrite place [stateName] data
    else throwing (.validation "BundleStateRecord")) _
  -- the rest holds of any record with that line
  generalize nextRecord m₀ state phase reason lastValidBoundary = record
  refine Triple.ite ?_ ?_
  · intro hvalid
    -- a valid record has a line unless its sequence number is too long
    refine Triple.compute_bind ?_ ?_
    · rintro e hline m rfl
      by_cases hshort : record.sequence < maxInt
      · obtain ⟨data, hdata⟩ := BundleStateRecord.exists_line hvalid hshort
        rw [hdata] at hline
        cases hline
      · refine .long hvalid (Nat.le_of_not_lt hshort) ?_
        rintro rfl
        exact BundleStateRecord.line_ne_os hline
    · intro data hline
      refine Triple.mono (durableWrite_triple (counted m₀) place [stateName] data)
        (fun m hm => hm) (fun _ m hm => ⟨data, hvalid, hline, hm⟩) ?_
        fun m hm => ⟨data, hvalid, hline, hm.2⟩
      -- the record is small and its path can be encoded, so it was a call that stopped the write
      intro e m hm
      cases hm with
      | size large =>
        have := BundleStateRecord.length_line_le hvalid hline
        rw [maxStage2FileBytes] at large
        omega
      | path size refused other =>
        exact absurd fsEncodable_stateName refused
      | call size partly fault =>
        refine .call hvalid hline partly fun hr => fault ?_
        exact ⟨hr.place, hr.nonempty, hr.names, hr.directory, hr.fresh, hr.target⟩
  · intro hinvalid
    refine Triple.throwing ?_
    rintro m rfl
    exact .invalid hinvalid

end

end BundleSetting

end Stage2
