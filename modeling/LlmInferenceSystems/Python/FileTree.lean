import Mathlib.Data.List.Induction
import Mathlib.Logic.Function.Basic
import LlmInferenceSystems.Python.Mapping
import LlmInferenceSystems.Python.PosixPath

/-!
# Directory trees

The files and directories below a directory, without symbolic links. A tree is closed: whatever it
has stands in a directory of it. The operations are the system calls; they fail where the calls do,
and otherwise change one path.

## Main definitions

* `FileTree`: a tree, with its closure as part of it
* `FileTree.get`: what stands at a path
* `FileTree.mkdir`, `create`, `write`, `replace`, `unlink`: the calls; `none` is `OSError`
* `FileTree.filesWhere`: the regular files at paths of a kind, by their text

## Main results

* `FileTree.get_put`, `FileTree.get_remove`: what a call changes
* `FileTree.filesWhere_congr`: the files are those that are looked up
-/

namespace Python

/-- What stands at a path. The time is that of the last modification. -/
inductive Node where
  | directory
  | file (data : Bytes) (time : ℤ)
deriving DecidableEq

/-- A directory's files and subdirectories at any depth, by their relative paths. -/
structure FileTree where
  entries : List (RelPath × Node)
  nodup : (entries.map (·.1)).Nodup
  names : ∀ e ∈ entries, e.1 ≠ [] ∧ ∀ name ∈ e.1, IsName name
  closed : ∀ e ∈ entries, e.1.dropLast = [] ∨ entries.lookup e.1.dropLast = some .directory

namespace FileTree

/-- What stands at a path; the empty path is the directory itself. -/
def get (t : FileTree) (p : RelPath) : Option Node :=
  if p = [] then some .directory else t.entries.lookup p

/-- The tree of an empty directory. -/
def empty : FileTree := ⟨[], by simp, by simp, by simp⟩

@[simp] theorem get_nil (t : FileTree) : t.get [] = some .directory := rfl

theorem get_empty {p : RelPath} (h : p ≠ []) : empty.get p = none := by
  simp [get, h, empty]

theorem get_eq_some_iff {t : FileTree} {p : RelPath} (h : p ≠ []) {node : Node} :
    t.get p = some node ↔ (p, node) ∈ t.entries := by
  rw [get, if_neg h]
  exact lookup_eq_some_iff t.nodup

/-- `path.is_file()` -/
def isFile (t : FileTree) (p : RelPath) : Bool :=
  match t.get p with
  | some (.file _ _) => true
  | _ => false

/-- `path.is_dir()` -/
def isDir (t : FileTree) (p : RelPath) : Bool := t.get p = some .directory

/-- `path.exists()` -/
def has (t : FileTree) (p : RelPath) : Bool := (t.get p).isSome

/-- `path.read_bytes()` of a regular file -/
def readBytes (t : FileTree) (p : RelPath) : Option Bytes :=
  match t.get p with
  | some (.file data _) => some data
  | _ => none

theorem readBytes_congr {t t' : FileTree} {p : RelPath} (h : t.get p = t'.get p) :
    t.readBytes p = t'.readBytes p := by
  unfold readBytes
  rw [h]

theorem readBytes_eq_some {t : FileTree} {p : RelPath} {data : Bytes} :
    t.readBytes p = some data ↔ ∃ time, t.get p = some (.file data time) := by
  unfold readBytes
  split
  · next data' time h => simp [h]
  · next h => simpa using fun time htime => h data time htime

theorem isFile_iff {t : FileTree} {p : RelPath} :
    t.isFile p = true ↔ ∃ data time, t.get p = some (.file data time) := by
  rw [isFile]
  split
  · next data time h => simp [h]
  · next h => simpa using h

/-- A file that is written is a file, and the others are those that were. -/
theorem isFile_update {t t' : FileTree} {p : RelPath} {data : Bytes} {time : ℤ}
    (h : t'.get = Function.update t.get p (some (.file data time))) (q : RelPath) :
    t'.isFile q = true ↔ q = p ∨ t.isFile q = true := by
  rw [isFile_iff, isFile_iff, h]
  by_cases hq : q = p
  · subst hq
    simp
  · rw [Function.update_of_ne hq]
    simp [hq]

theorem names_of_get {t : FileTree} {p : RelPath} (hp : t.get p ≠ none) :
    ∀ name ∈ p, IsName name := by
  by_cases h : p = []
  · simp [h]
  · obtain ⟨node, hnode⟩ := Option.ne_none_iff_exists'.mp hp
    exact (t.names _ ((get_eq_some_iff h).mp hnode)).2

/-- What stands at a path stands in a directory. -/
theorem get_dropLast {t : FileTree} {p : RelPath} (hp : t.get p ≠ none) :
    t.get p.dropLast = some .directory := by
  by_cases h : p = []
  · simp [h]
  · obtain ⟨node, hnode⟩ := Option.ne_none_iff_exists'.mp hp
    rcases t.closed _ ((get_eq_some_iff h).mp hnode) with hroot | hdir
    · rw [show p.dropLast = [] from hroot, get_nil]
    · rw [get]
      split
      · rfl
      · exact hdir

/-- Nothing stands below a path where nothing stands. -/
theorem get_append_eq_none {t : FileTree} {p : RelPath} (h : t.get p = none) (more : RelPath) :
    t.get (p ++ more) = none := by
  induction more using List.reverseRecOn with
  | nil => rwa [List.append_nil]
  | append_singleton more name ih =>
    by_contra hne
    have hdir := get_dropLast hne
    rw [← List.append_assoc, List.dropLast_concat, ih] at hdir
    simp at hdir

theorem lookup_filter_ne {entries : List (RelPath × Node)} {p q : RelPath} (h : q ≠ p) :
    (entries.filter fun e => e.1 ≠ p).lookup q = entries.lookup q := by
  induction entries with
  | nil => rfl
  | cons e entries ih =>
    by_cases he : e.1 = p
    · rw [List.filter_cons_of_neg (by simpa using he), ih, List.lookup_cons,
        beq_eq_false_iff_ne.mpr (he ▸ h)]
    · rw [List.filter_cons_of_pos (by simpa using he), List.lookup_cons, List.lookup_cons, ih]

theorem lookup_filter_self (entries : List (RelPath × Node)) (p : RelPath) :
    (entries.filter fun e => e.1 ≠ p).lookup p = none := by
  rw [List.lookup_eq_none_iff]
  intro e he
  exact bne_iff_ne.mpr (Ne.symm (of_decide_eq_true (List.mem_filter.mp he).2))

theorem dropLast_ne_self {p : RelPath} (h : p ≠ []) : p.dropLast ≠ p := by
  intro heq
  have hlength := congrArg List.length heq
  rw [List.length_dropLast] at hlength
  have := List.length_pos_iff.mpr h
  omega

/-- `node` at `p`. There must be a directory for it, and no directory in its place. -/
def put (t : FileTree) (p : RelPath) (node : Node) : Option FileTree :=
  if h : (p ≠ [] ∧ ∀ name ∈ p, IsName name) ∧ t.get p.dropLast = some .directory ∧
      t.get p ≠ some .directory then
    some {
      entries := (p, node) :: t.entries.filter fun e => e.1 ≠ p
      nodup := by
        rw [List.map_cons, List.nodup_cons]
        refine ⟨fun hmem => ?_, t.nodup.sublist (List.filter_sublist.map _)⟩
        obtain ⟨e, he, hep⟩ := List.mem_map.mp hmem
        exact absurd hep (by simpa using (List.mem_filter.mp he).2)
      names := List.forall_mem_cons.mpr
        ⟨h.1, fun e he => t.names e (List.mem_of_mem_filter he)⟩
      closed := by
        obtain ⟨⟨hne, -⟩, hdir, hnot⟩ := h
        have step : ∀ q : RelPath, t.get q = some .directory → q = [] ∨
            ((p, node) :: t.entries.filter fun e => e.1 ≠ p).lookup q = some .directory := by
          intro q hq
          by_cases hroot : q = []
          · exact .inl hroot
          · have hqp : q ≠ p := fun heq => hnot (heq ▸ hq)
            rw [get, if_neg hroot] at hq
            rw [List.lookup_cons, beq_eq_false_iff_ne.mpr hqp, lookup_filter_ne hqp]
            exact .inr hq
        refine List.forall_mem_cons.mpr ⟨step _ hdir, fun e he => step _ ?_⟩
        have hmem := List.mem_of_mem_filter he
        exact get_dropLast (by rw [(get_eq_some_iff (t.names e hmem).1).mpr hmem]; simp) }
  else none

/-- **What `put` changes.** -/
theorem get_put {t t' : FileTree} {p : RelPath} {node : Node} (h : t.put p node = some t')
    (q : RelPath) : t'.get q = if q = p then some node else t.get q := by
  unfold put at h
  split at h
  · next hp =>
    obtain rfl := Option.some.inj h
    by_cases hqp : q = p
    · subst hqp
      rw [get, if_neg hp.1.1, if_pos rfl]
      simp
    · rw [if_neg hqp, get, get]
      simp only [List.lookup_cons, beq_eq_false_iff_ne.mpr hqp, lookup_filter_ne hqp]
  · simp at h

theorem exists_put {t : FileTree} {p : RelPath} (hne : p ≠ []) (hnames : ∀ name ∈ p, IsName name)
    (hdir : t.get p.dropLast = some .directory) (hnot : t.get p ≠ some .directory) (node : Node) :
    ∃ t', t.put p node = some t' :=
  ⟨_, dif_pos ⟨⟨hne, hnames⟩, hdir, hnot⟩⟩

/-- Nothing at `p`, where a file was. -/
def remove (t : FileTree) (p : RelPath) : Option FileTree :=
  if h : t.isFile p = true then
    some {
      entries := t.entries.filter fun e => e.1 ≠ p
      nodup := t.nodup.sublist (List.filter_sublist.map _)
      names := fun e he => t.names e (List.mem_of_mem_filter he)
      closed := by
        intro e he
        obtain ⟨data, time, hfile⟩ := isFile_iff.mp h
        have hmem := List.mem_of_mem_filter he
        have hdir := get_dropLast (show t.get e.1 ≠ none by
          rw [(get_eq_some_iff (t.names e hmem).1).mpr hmem]
          simp)
        by_cases hroot : e.1.dropLast = []
        · exact .inl hroot
        · have hne : e.1.dropLast ≠ p := by
            intro heq
            rw [heq, hfile] at hdir
            simp at hdir
          rw [get, if_neg hroot] at hdir
          rw [lookup_filter_ne hne]
          exact .inr hdir }
  else none

/-- **What `remove` changes.** -/
theorem get_remove {t t' : FileTree} {p : RelPath} (h : t.remove p = some t') (q : RelPath) :
    t'.get q = if q = p then none else t.get q := by
  unfold remove at h
  split at h
  · next hp =>
    obtain rfl := Option.some.inj h
    have hne : p ≠ [] := by
      rintro rfl
      simp [isFile] at hp
    by_cases hqp : q = p
    · subst hqp
      rw [get, if_neg hne, if_pos rfl]
      exact lookup_filter_self t.entries q
    · rw [if_neg hqp, get, get]
      simp only [lookup_filter_ne hqp]
  · simp at h

theorem exists_remove {t : FileTree} {p : RelPath} (h : t.isFile p = true) :
    ∃ t', t.remove p = some t' := ⟨_, dif_pos h⟩

/-! ## The calls -/

/-- `path.mkdir()` -/
def mkdir (t : FileTree) (p : RelPath) : Option FileTree :=
  if t.has p then none else t.put p .directory

/-- `path.open("xb")` -/
def create (t : FileTree) (p : RelPath) (time : ℤ) : Option FileTree :=
  if t.has p then none else t.put p (.file [] time)

/-- `handle.write(data)` to a new file. -/
def write (t : FileTree) (p : RelPath) (data : Bytes) (time : ℤ) : Option FileTree :=
  if t.isFile p then t.put p (.file data time) else none

/-- `path.unlink()` -/
def unlink (t : FileTree) (p : RelPath) : Option FileTree := t.remove p

/-- `os.replace(source, target)` of a file. -/
def replace (t : FileTree) (source target : RelPath) : Option FileTree :=
  match t.get source with
  | some (.file data time) =>
    if t.isDir target then none
    else if source = target then some t
    else (t.remove source).bind fun t => t.put target (.file data time)
  | _ => none

theorem has_iff {t : FileTree} {p : RelPath} : t.has p = true ↔ t.get p ≠ none := by
  rw [has, Option.isSome_iff_ne_none]

theorem has_eq_false {t : FileTree} {p : RelPath} : t.has p = false ↔ t.get p = none := by
  rw [has, Option.isSome_eq_false_iff, Option.isNone_iff_eq_none]

theorem isDir_iff {t : FileTree} {p : RelPath} :
    t.isDir p = true ↔ t.get p = some .directory := by
  rw [isDir, decide_eq_true_eq]

/-- A new entry can be made in a directory. -/
theorem exists_put_new {t : FileTree} {p : RelPath} (hnames : ∀ name ∈ p, IsName name)
    (hdir : t.get p.dropLast = some .directory) (hnew : t.get p = none) (node : Node) :
    ∃ t', t.put p node = some t' := by
  refine exists_put ?_ hnames hdir (by simp [hnew]) node
  rintro rfl
  simp at hnew

theorem isFile_of_has {t : FileTree} {p : RelPath} (h : t.has p = true)
    (hother : ¬ t.isDir p = true) : t.isFile p = true := by
  obtain ⟨node, hnode⟩ := Option.ne_none_iff_exists'.mp (has_iff.mp h)
  cases node with
  | directory => exact absurd (isDir_iff.mpr hnode) hother
  | file data time => exact isFile_iff.mpr ⟨data, time, hnode⟩

/-! ## What the calls change -/

/-- What must hold for a new entry at `p`. -/
theorem of_put {t t' : FileTree} {p : RelPath} {node : Node} (h : t.put p node = some t') :
    (p ≠ [] ∧ ∀ name ∈ p, IsName name) ∧ t.get p.dropLast = some .directory ∧
      t'.get = Function.update t.get p (some node) := by
  have hget := get_put h
  unfold put at h
  split at h
  · next hp =>
    refine ⟨hp.1, hp.2.1, ?_⟩
    ext q : 1
    rw [hget, Function.update_apply]
  · simp at h

theorem of_mkdir {t t' : FileTree} {p : RelPath} (h : t.mkdir p = some t') :
    t.get p = none ∧ t.get p.dropLast = some .directory ∧
      t'.get = Function.update t.get p (some .directory) := by
  unfold mkdir at h
  split at h
  · simp at h
  · next hnew =>
    obtain ⟨-, hdir, hget⟩ := of_put h
    exact ⟨has_eq_false.mp (Bool.eq_false_of_not_eq_true hnew), hdir, hget⟩

theorem of_create {t t' : FileTree} {p : RelPath} {time : ℤ} (h : t.create p time = some t') :
    t.get p = none ∧ t.get p.dropLast = some .directory ∧
      t'.get = Function.update t.get p (some (.file [] time)) := by
  unfold create at h
  split at h
  · simp at h
  · next hnew =>
    obtain ⟨-, hdir, hget⟩ := of_put h
    exact ⟨has_eq_false.mp (Bool.eq_false_of_not_eq_true hnew), hdir, hget⟩

theorem get_write {t t' : FileTree} {p : RelPath} {data : Bytes} {time : ℤ}
    (h : t.write p data time = some t') :
    t'.get = Function.update t.get p (some (.file data time)) := by
  unfold write at h
  split at h
  · exact (of_put h).2.2
  · simp at h

theorem get_unlink {t t' : FileTree} {p : RelPath} (h : t.unlink p = some t') :
    t'.get = Function.update t.get p none := by
  ext q : 1
  rw [get_remove h, Function.update_apply]

/-- A file is moved with its data and its time. -/
theorem of_replace {t t' : FileTree} {source target : RelPath}
    (h : t.replace source target = some t') :
    ∃ data time, t.get source = some (.file data time) ∧ t.get target ≠ some .directory ∧
      t'.get = Function.update (Function.update t.get source none) target
        (some (.file data time)) := by
  unfold replace at h
  split at h
  · next data time hsource =>
    split at h
    · simp at h
    · next htarget =>
      refine ⟨data, time, hsource, fun hdir => htarget (isDir_iff.mpr hdir), ?_⟩
      split at h
      · next heq =>
        obtain rfl := Option.some.inj h
        rw [← heq, Function.update_idem, ← hsource, Function.update_eq_self]
      · obtain ⟨t₁, hremove, hput⟩ := Option.bind_eq_some_iff.mp h
        rw [(of_put hput).2.2, get_unlink hremove]
  · simp at h

/-! ## When the calls succeed -/

theorem exists_create {t : FileTree} {p : RelPath} (hnames : ∀ name ∈ p, IsName name)
    (hdir : t.get p.dropLast = some .directory) (hnew : t.get p = none) (time : ℤ) :
    ∃ t', t.create p time = some t' := by
  unfold create
  rw [if_neg (by rw [has_eq_false.mpr hnew]; simp)]
  exact exists_put_new hnames hdir hnew _

theorem exists_write {t : FileTree} {p : RelPath} {data : Bytes} {time : ℤ}
    (h : t.get p = some (.file data time)) (data' : Bytes) (time' : ℤ) :
    ∃ t', t.write p data' time' = some t' := by
  have hne : p ≠ [] := by
    rintro rfl
    simp at h
  have hthere : t.get p ≠ none := by simp [h]
  unfold write
  rw [if_pos (isFile_iff.mpr ⟨data, time, h⟩)]
  exact exists_put hne (names_of_get hthere) (get_dropLast hthere) (by simp [h]) _

theorem exists_unlink {t : FileTree} {p : RelPath} {data : Bytes} {time : ℤ}
    (h : t.get p = some (.file data time)) : ∃ t', t.unlink p = some t' :=
  exists_remove (isFile_iff.mpr ⟨data, time, h⟩)

theorem exists_replace {t : FileTree} {source target : RelPath} {data : Bytes} {time : ℤ}
    (h : t.get source = some (.file data time)) (hne : target ≠ [])
    (hnames : ∀ name ∈ target, IsName name) (hdir : t.get target.dropLast = some .directory)
    (hnot : t.get target ≠ some .directory) : ∃ t', t.replace source target = some t' := by
  unfold replace
  simp only [h]
  rw [if_neg (fun hisDir => hnot (isDir_iff.mp hisDir))]
  split
  · exact ⟨t, rfl⟩
  · next hother =>
    obtain ⟨t₁, ht₁⟩ := exists_unlink h
    have hget := get_unlink ht₁
    have hdir₁ : t₁.get target.dropLast = some .directory := by
      rw [hget, Function.update_of_ne ?_, hdir]
      intro heq
      rw [heq, h] at hdir
      simp at hdir
    have hnot₁ : t₁.get target ≠ some .directory := by
      rw [hget, Function.update_of_ne (Ne.symm hother)]
      exact hnot
    obtain ⟨t₂, ht₂⟩ := exists_put hne hnames hdir₁ hnot₁ (.file data time)
    exact ⟨t₂, by rw [show t.remove source = some t₁ from ht₁, Option.bind_some, ht₂]⟩

/-! ## The regular files -/

/-- The item of an entry, when it is a regular file at a path to keep. -/
def listed (keep : RelPath → Bool) (e : RelPath × Node) : Option (Str × Bytes) :=
  match e.2 with
  | .file data _ => if keep e.1 then some (joinPath e.1, data) else none
  | .directory => none

theorem listed_eq_some {keep : RelPath → Bool} {e : RelPath × Node} {f : Str × Bytes} :
    listed keep e = some f ↔
      ∃ time, e.2 = .file f.2 time ∧ keep e.1 = true ∧ f.1 = joinPath e.1 := by
  obtain ⟨p, node⟩ := e
  obtain ⟨text, data⟩ := f
  cases node with
  | directory => simp [listed]
  | file data' time =>
    simp only [listed, Option.ite_none_right_eq_some, Option.some.injEq, Prod.mk.injEq,
      Node.file.injEq]
    constructor
    · rintro ⟨hkeep, rfl, rfl⟩
      exact ⟨time, ⟨rfl, rfl⟩, hkeep, rfl⟩
    · rintro ⟨_, ⟨rfl, rfl⟩, hkeep, rfl⟩
      exact ⟨hkeep, rfl, rfl⟩

/-- The data of the regular files at the paths to keep, under the texts of their paths. -/
def filesWhere (keep : RelPath → Bool) (t : FileTree) : List (Str × Bytes) :=
  sortFields (t.entries.filterMap (listed keep))

theorem mem_filesWhere {keep : RelPath → Bool} {t : FileTree} {f : Str × Bytes} :
    f ∈ t.filesWhere keep ↔ ∃ p time, p ≠ [] ∧ t.get p = some (.file f.2 time) ∧ keep p = true ∧
      f.1 = joinPath p := by
  rw [filesWhere, mem_sortFields, List.mem_filterMap]
  constructor
  · rintro ⟨⟨p, node⟩, he, hf⟩
    obtain ⟨time, rfl, hkeep, htext⟩ := listed_eq_some.mp hf
    have hne := (t.names _ he).1
    exact ⟨p, time, hne, (get_eq_some_iff hne).mpr he, hkeep, htext⟩
  · rintro ⟨p, time, hne, hget, hkeep, htext⟩
    exact ⟨(p, .file f.2 time), (get_eq_some_iff hne).mp hget,
      listed_eq_some.mpr ⟨time, rfl, hkeep, htext⟩⟩

/-- Each file is listed once. -/
theorem nodup_filesWhere (keep : RelPath → Bool) (t : FileTree) :
    ((t.filesWhere keep).map (·.1)).Nodup := by
  have hpairs : t.entries.Pairwise fun e e' => e.1 ≠ e'.1 := List.pairwise_map.mp t.nodup
  rw [filesWhere, ((perm_sortFields _).map _).nodup_iff, List.Nodup, List.pairwise_map,
    List.pairwise_filterMap]
  refine hpairs.imp_of_mem fun {e e'} he he' hne f hf f' hf' heq => hne ?_
  obtain ⟨_, -, -, htext⟩ := listed_eq_some.mp hf
  obtain ⟨_, -, -, htext'⟩ := listed_eq_some.mp hf'
  exact joinPath_injective (t.names e he).1 (t.names e' he').1 (t.names e he).2 (t.names e' he').2
    (by rw [← htext, ← htext', heq])

/-- The text of the path of a file is listed when the path is kept. -/
theorem mem_map_filesWhere {t : FileTree} (keep : RelPath → Bool) {path : RelPath}
    {data : Bytes} (hread : t.readBytes path = some data) :
    joinPath path ∈ (t.filesWhere keep).map (·.1) ↔ keep path = true := by
  obtain ⟨mtime, hget⟩ := readBytes_eq_some.mp hread
  have hne : path ≠ [] := by
    rintro rfl
    simp at hget
  have hnames := names_of_get (show t.get path ≠ none by simp [hget])
  constructor
  · intro hmem
    obtain ⟨file, hfile, htext⟩ := List.mem_map.mp hmem
    obtain ⟨path', mtime', hne', hget', hkeep, htext'⟩ := mem_filesWhere.mp hfile
    have hnames' := names_of_get (show t.get path' ≠ none by simp [hget'])
    rwa [joinPath_injective hne hne' hnames hnames' (htext.symm.trans htext')]
  · intro hkeep
    exact List.mem_map.mpr ⟨(joinPath path, data),
      mem_filesWhere.mpr ⟨path, mtime, hne, hget, hkeep, rfl⟩, rfl⟩

/-- **The files are those that are looked up**: trees with the same files at the paths to keep have
the same listing. -/
theorem filesWhere_eq {keep keep' : RelPath → Bool} {t t' : FileTree}
    (h : ∀ p data, (keep p = true ∧ t.readBytes p = some data) ↔
      (keep' p = true ∧ t'.readBytes p = some data)) :
    t.filesWhere keep = t'.filesWhere keep' := by
  have hforward : ∀ {keep keep' : RelPath → Bool} {t t' : FileTree},
      (∀ p data, (keep p = true ∧ t.readBytes p = some data) →
        (keep' p = true ∧ t'.readBytes p = some data)) →
      ∀ f, f ∈ t.filesWhere keep → f ∈ t'.filesWhere keep' := by
    intro keep keep' t t' himp f hf
    obtain ⟨p, time, hne, hget, hkeep, htext⟩ := mem_filesWhere.mp hf
    obtain ⟨hkeep', hread'⟩ := himp p f.2 ⟨hkeep, readBytes_eq_some.mpr ⟨time, hget⟩⟩
    obtain ⟨time', hget'⟩ := readBytes_eq_some.mp hread'
    exact mem_filesWhere.mpr ⟨p, time', hne, hget', hkeep', htext⟩
  have hmem : ∀ f, f ∈ t.filesWhere keep ↔ f ∈ t'.filesWhere keep' := fun f =>
    ⟨hforward (fun p data => (h p data).mp) f, hforward (fun p data => (h p data).mpr) f⟩
  have hsorted : ∀ (keep : RelPath → Bool) (t : FileTree),
      sortFields (t.filesWhere keep) = t.filesWhere keep := fun _ _ => sortFields_sortFields _
  rw [← hsorted keep t, ← hsorted keep' t',
    sortFields_eq_iff (nodup_filesWhere keep t) (nodup_filesWhere keep' t')]
  intro key
  ext data
  rw [lookup_eq_some_iff (nodup_filesWhere keep t), lookup_eq_some_iff (nodup_filesWhere keep' t'),
    hmem]

theorem filesWhere_congr {keep : RelPath → Bool} {t t' : FileTree}
    (h : ∀ p, keep p = true → t.readBytes p = t'.readBytes p) :
    t.filesWhere keep = t'.filesWhere keep := by
  apply filesWhere_eq
  intro p data
  constructor
  · rintro ⟨hkeep, hread⟩
    exact ⟨hkeep, (h p hkeep).symm.trans hread⟩
  · rintro ⟨hkeep, hread⟩
    exact ⟨hkeep, (h p hkeep).trans hread⟩

/-- A file that is listed is read with the data it is listed with. -/
theorem readBytes_eq_some_iff_mem (keep : RelPath → Bool) {t : FileTree} {path : RelPath}
    {data : Bytes} (hne : path ≠ []) (hnames : ∀ name ∈ path, IsName name)
    (hkeep : keep path = true) :
    t.readBytes path = some data ↔ (joinPath path, data) ∈ t.filesWhere keep := by
  rw [mem_filesWhere, readBytes_eq_some]
  constructor
  · rintro ⟨time, hget⟩
    exact ⟨path, time, hne, hget, hkeep, rfl⟩
  · rintro ⟨path', time, hne', hget, -, htext⟩
    have hnames' := names_of_get (show t.get path' ≠ none by simp [hget])
    obtain rfl := joinPath_injective hne hne' hnames hnames' htext
    exact ⟨time, hget⟩

/-- Trees with the same listing have the same files at the paths that are kept. -/
theorem readBytes_eq_of_filesWhere_eq {keep : RelPath → Bool} {t t' : FileTree}
    (h : t.filesWhere keep = t'.filesWhere keep) {path : RelPath} (hkeep : keep path = true) :
    t.readBytes path = t'.readBytes path := by
  by_cases hne : path = []
  · rw [hne, readBytes, readBytes, get_nil, get_nil]
  by_cases hnames : ∀ name ∈ path, IsName name
  · ext data
    rw [readBytes_eq_some_iff_mem keep hne hnames hkeep,
      readBytes_eq_some_iff_mem keep hne hnames hkeep, h]
  · -- no file has such a path
    have hnone : ∀ t : FileTree, t.readBytes path = none := by
      intro t
      have hget : t.get path = none := by
        by_contra hthere
        exact hnames (names_of_get hthere)
      rw [readBytes, hget]
    rw [hnone, hnone]

/-! ## Times -/

/-- No file is newer than the file at `p`. -/
def Newest (t : FileTree) (p : RelPath) : Prop :=
  ∀ path data time data' time', t.get path = some (.file data time) →
    t.get p = some (.file data' time') → time ≤ time'

/-- The time of an entry, when it is a file. -/
def mtime (e : RelPath × Node) : Option ℤ :=
  match e.2 with
  | .file _ time => some time
  | .directory => none

instance (t : FileTree) (p : RelPath) : Decidable (t.Newest p) :=
  decidable_of_iff (∀ e ∈ t.entries, ∀ e' ∈ t.entries, e'.1 = p →
    ∀ time ∈ mtime e, ∀ time' ∈ mtime e', time ≤ time') (by
    constructor
    · intro h path data time data' time' hget hget'
      have hne : path ≠ [] := by
        rintro rfl
        simp at hget
      have hne' : p ≠ [] := by
        rintro rfl
        simp at hget'
      exact h _ ((get_eq_some_iff hne).mp hget) _ ((get_eq_some_iff hne').mp hget') rfl
        time rfl time' rfl
    · rintro h ⟨path, node⟩ he ⟨path', node'⟩ he' rfl time htime time' htime'
      have hget := (get_eq_some_iff (t.names _ he).1).mpr he
      have hget' := (get_eq_some_iff (t.names _ he').1).mpr he'
      cases node with
      | directory => cases htime
      | file data mtime =>
        cases node' with
        | directory => cases htime'
        | file data' mtime' =>
          obtain rfl := Option.some.inj htime
          obtain rfl := Option.some.inj htime'
          exact h path data mtime data' mtime' hget hget')

end FileTree

end Python
