import LlmInferenceSystems.Stage2.BundleCommit

/-!
# Bundles as repetitions of an experiment

An experiment takes a committed bundle as one of its repetitions. It reads the files again, searches
them for private material by patterns of its own, and has its own rule that the manifest was written
last: every listed file is older than the manifest, where the bundle's reader only asks that none is
newer.

## Main definitions

* `validateFile`, `validateRepetitionBundleDirectory`: the experiment's checks
* `SharedChecks`: the inventory and the hashes, which both validators check
* `ManifestNotBefore`, `ManifestStrictlyLast`: the two rules
* `AsOldAsNewest`: the manifest is as old as the newest listed file

## Main results

* `manifestRules_agree_iff`: the rules agree exactly when the manifest is not as old as the newest
  file, and an accepted bundle can be a repetition exactly then
-/

namespace Stage2

open Python Pattern

/-! ## The files -/

/-- The time of a listed file, against that of the manifest. -/
def checkStrictlyLast (directory : FileTree) (manifestMtime : ℤ) (entry : BundleFileEntry) :
    Except PyError Unit :=
  match directory.get (PurePosixPath.ofStr entry.path).tail with
  | some (.file _ mtime) =>
    if manifestMtime ≤ mtime then
      .error (.stage2Experiment "repetition manifest was not written strictly last")
    else .ok ()
  | _ => .error .os

/-- `sorted(texts)` -/
def sortTexts (texts : List Str) : List Str := texts.insertionSort fun s t => strLe s t = true

/-- The time of a listed file. -/
def mtimeOf (directory : FileTree) (entry : BundleFileEntry) : Option ℤ :=
  match directory.get (PurePosixPath.ofStr entry.path).tail with
  | some (.file _ mtime) => some mtime
  | _ => none

variable {directory : FileTree} {manifestMtime : ℤ}

theorem mtimeOf_eq_some {entry : BundleFileEntry} {mtime : ℤ} :
    mtimeOf directory entry = some mtime ↔ ∃ data,
      directory.get (PurePosixPath.ofStr entry.path).tail = some (.file data mtime) := by
  unfold mtimeOf
  split
  · next data mtime' hget => simp [hget]
  · next hother => exact iff_of_false (by simp) fun ⟨data, hget⟩ => hother data mtime hget

theorem checkStrictlyLast_eq_ok {entry : BundleFileEntry} :
    checkStrictlyLast directory manifestMtime entry = .ok () ↔
      ∃ mtime, mtimeOf directory entry = some mtime ∧ mtime < manifestMtime := by
  unfold checkStrictlyLast mtimeOf
  split
  · next data mtime hget => simp
  · next hother => simp

section

variable [Interpreter]

/-- `_AGGREGATE_SENSITIVE_PATTERNS` -/
def aggregateSensitivePatterns : List Pattern :=
  let hexI (n : ℕ) : Pattern :=
    times n (.one fun c => Json.isDigit c || (97 ≤ foldCase c && foldCase c ≤ 102))
  [textI "-----begin private key-----",
    all [boundary, anyOf [text "AKIA", text "ASIA"],
      times 16 (.one fun c => Json.isDigit c || (65 ≤ c && c ≤ 90)), boundary],
    all [boundary, text "gh", .one fun c => lit "pousr" |>.contains c, text "_",
      atLeast 30 (.one alnum), boundary],
    all [boundary, text "sk-", atLeast 20 (.one fun c => alnum c || c == 95 || c == 45), boundary],
    all [boundary, text "hf_", atLeast 20 (.one alnum), boundary],
    all [anyOf [lineStart, .one fun c => c == 34 || c == 39],
      anyOf [textI "aws_secret_access_key", textI "api_key", textI "client_secret",
        textI "access_token", textI "refresh_token", textI "proxy_password", textI "hf_token",
        textI "hugging_face_hub_token", textI "huggingface_hub_token",
        textI "huggingfacehub_api_token"],
      quote, spaces, anyOf [text "=", text ":"], spaces, quote, word],
    headerField (all [optional (textI "proxy-"), textI "authorization"]),
    headerField (anyOf [textI "cookie", textI "set-cookie"]),
    all [boundary, textI "http", optional (textI "s"), text "://",
      plus (.one fun c => !isSpaceChar c && c != 47 && c != 58 && c != 64), text ":",
      plus (.one fun c => !isSpaceChar c && c != 47 && c != 64), text "@",
      plus (.one fun c => !isSpaceChar c && c != 47)],
    all [.look fun before _ => !before.any fun c => alnumI c || c == 46 || c == 95 || c == 45,
      text "/", anyOf [textI "users", textI "home"], text "/",
      plus (.one fun c => alnumI c || c == 46 || c == 95 || c == 45)],
    all [optional (anyOf [text "~",
        all [text "/", plus (.one fun c => !isSpaceChar c && c != 34 && c != 39)]]),
      textI "/.cache/", anyOf [textI "huggingface", textI "torch", textI "vllm"],
      anyOf [text "/", boundary]],
    all [boundary, textI "gpu-", hexI 8, times 3 (all [text "-", hexI 4]), text "-", hexI 12,
      boundary],
    all [boundary, .one alnumI, .star (.one fun c => alnumI c || c == 46 || c == 45), text ".",
      anyOf [textI "corp", textI "internal", textI "lan", textI "local"], boundary],
    all [boundary, anyOf [textI "account", textI "notebook"],
      optional (.one fun c => c == 95 || c == 45), textI "id", spaces, anyOf [text "=", text ":"],
      spaces, quote, word],
    all [textI "orgname", upTo 80 (.one fun c => c != 10),
      anyOf [textI "claim", textI "ledger", all [textI "control",
        optional (.one fun c => c == 45 || c == 95 || c == 32), textI "plane"]]]]

/-- `_safe_relative_path` -/
def safeRelativePath (value : Str) : Except PyError PurePosixPath :=
  let path := PurePosixPath.ofStr value
  if value ≠ path.asPosix ∨ path.isAbsolute ∨ path.parts = [] ∨
      ∃ part ∈ path.parts, part ∈ [[], lit ".", lit ".."] then
    .error (.value "experiment evidence path must be normalized and relative")
  else .ok path

/-- `_validate_file`; there are no symbolic links. -/
def validateFile (directory : FileTree) (entry : BundleFileEntry) : Except PyError Bytes := do
  let relative ← safeRelativePath entry.path
  match directory.get relative.tail with
  | some (.file data _) =>
    if data.length ≠ entry.size ∨ Interpreter.hexdigest data ≠ entry.sha256 then
      .error (.stage2Experiment "aggregate evidence file size or SHA-256 differs")
    else
      match utf8Decode data with
      | none => .error (.stage2Experiment "aggregate evidence must be public-safe UTF-8 text")
      | some text => do
        let decoded ← decodedBase64EvidenceTexts text
        if (text :: decoded).any fun scanned =>
            aggregateSensitivePatterns.any (·.occurs scanned) then
          .error (.stage2Experiment "aggregate evidence contains prohibited private material")
        else .ok data
  | _ => .error (.stage2Experiment "aggregate evidence reference is not a regular file")

variable [Timestamps]

/-- `_validate_repetition_bundle_directory`, for a directory that is there and has no symbolic
links; `reconstruct` is `reconstruct_experiment_repetition`. -/
def validateRepetitionBundleDirectory (reconstruct : Reconstructor) (directory : FileTree)
    (manifest : Stage2BundleManifest) : Except PyError Unit :=
  let actual := (directory.filesWhere fun _ => true).map (·.1)
  let expected := sortTexts (manifest.files.map (·.path) ++ [manifestName])
  if actual ≠ expected then
    .error (.stage2Experiment "repetition manifest inventory is incomplete or unexpected")
  else
    match directory.get [manifestName] with
    | some (.file _ manifestMtime) => do
      each (fun entry => do
        let _ ← validateFile directory entry
        checkStrictlyLast directory manifestMtime entry) manifest.files
      match validateCommittedBundle directory reconstruct with
      | .ok _ => .ok ()
      | .error e =>
        if e.isStage2Bundle then
          .error (.stage2Experiment
            "repetition manifest does not satisfy committed raw reconstruction")
        else .error e
    | _ => .error .os

end

/-! ## The rules -/

section

variable [Timestamps]

/-- The manifest is as old as the newest listed file. -/
def AsOldAsNewest (directory : FileTree) (manifest : Stage2BundleManifest) (manifestMtime : ℤ) :
    Prop :=
  (∃ entry ∈ manifest.files, mtimeOf directory entry = some manifestMtime) ∧
    ∀ entry ∈ manifest.files, ∀ mtime ∈ mtimeOf directory entry, mtime ≤ manifestMtime

variable [Interpreter]

/-- The rule of the bundle's reader. -/
def ManifestNotBefore (directory : FileTree) (manifest : Stage2BundleManifest)
    (manifestMtime : ℤ) : Prop :=
  ∀ entry ∈ manifest.files, checkListedFile directory manifestMtime entry = .ok ()

/-- The rule of the experiment. -/
def ManifestStrictlyLast (directory : FileTree) (manifest : Stage2BundleManifest)
    (manifestMtime : ℤ) : Prop :=
  ∀ entry ∈ manifest.files, checkStrictlyLast directory manifestMtime entry = .ok ()

/-- What both validators check: the manifest is there, the files are those it lists, and they have
its sizes and hashes. -/
structure SharedChecks (directory : FileTree) (manifest : Stage2BundleManifest)
    (manifestMtime : ℤ) : Prop where
  there : ∃ data, directory.get [manifestName] = some (.file data manifestMtime)
  inventory : (directory.filesWhere fun _ => true).map (·.1) =
    sortTexts (manifest.files.map (·.path) ++ [manifestName])
  listing : (directory.filesWhere fun path => path.getLast? ≠ some manifestName).map (·.1) =
    manifest.files.map (·.path)
  files : ∀ entry ∈ manifest.files, ∃ data mtime,
    directory.get (PurePosixPath.ofStr entry.path).tail = some (.file data mtime) ∧
      data.length = entry.size ∧ Interpreter.hexdigest data = entry.sha256

variable {manifest : Stage2BundleManifest}

namespace SharedChecks

/-- A bundle that its reader accepts passes them, when its only file with the name of the manifest
is the manifest. -/
theorem of_validated {reconstruct : Reconstructor}
    (hvalid : validateCommittedBundle directory reconstruct = .ok manifest)
    (hthere : ∃ data, directory.get [manifestName] = some (.file data manifestMtime))
    (hinventory : (directory.filesWhere fun _ => true).map (·.1) =
      sortTexts (manifest.files.map (·.path) ++ [manifestName])) :
    SharedChecks directory manifest manifestMtime := by
  obtain ⟨_, _, hvalidated⟩ := validateCommittedBundle_eq_ok.mp hvalid
  refine ⟨hthere, hinventory, hvalidated.listing, fun entry hentry => ?_⟩
  obtain ⟨data, mtime, hget, hsize, hhash, -⟩ :=
    checkListedFile_eq_ok.mp (hvalidated.entries entry hentry)
  exact ⟨data, mtime, hget, hsize, hhash⟩

theorem exists_mtime (h : SharedChecks directory manifest manifestMtime) {entry : BundleFileEntry}
    (hentry : entry ∈ manifest.files) : ∃ mtime, mtimeOf directory entry = some mtime := by
  obtain ⟨data, mtime, hget, -⟩ := h.files entry hentry
  exact ⟨mtime, mtimeOf_eq_some.mpr ⟨data, hget⟩⟩

/-- For a file that is there, the reader's rule is that it is not newer than the manifest. -/
theorem manifestNotBefore_iff (h : SharedChecks directory manifest manifestMtime) :
    ManifestNotBefore directory manifest manifestMtime ↔
      ∀ entry ∈ manifest.files, ∀ mtime ∈ mtimeOf directory entry, mtime ≤ manifestMtime := by
  refine forall₂_congr fun entry hentry => ?_
  rw [checkListedFile_eq_ok]
  constructor
  · rintro ⟨data, mtime, hget, -, -, hle⟩ mtime' hmtime'
    obtain rfl : mtime = mtime' :=
      Option.some.inj ((mtimeOf_eq_some.mpr ⟨data, hget⟩).symm.trans hmtime')
    exact hle
  · intro hle
    obtain ⟨data, mtime, hget, hsize, hhash⟩ := h.files entry hentry
    exact ⟨data, mtime, hget, hsize, hhash, hle mtime (mtimeOf_eq_some.mpr ⟨data, hget⟩)⟩

/-- The experiment's is that it is older. -/
theorem manifestStrictlyLast_iff (h : SharedChecks directory manifest manifestMtime) :
    ManifestStrictlyLast directory manifest manifestMtime ↔
      ∀ entry ∈ manifest.files, ∀ mtime ∈ mtimeOf directory entry, mtime < manifestMtime := by
  refine forall₂_congr fun entry hentry => ?_
  rw [checkStrictlyLast_eq_ok]
  obtain ⟨mtime, hmtime⟩ := h.exists_mtime hentry
  rw [hmtime]
  simp

/-- The experiment's rule is the stronger one. -/
theorem strictlyLast_iff (h : SharedChecks directory manifest manifestMtime) :
    ManifestStrictlyLast directory manifest manifestMtime ↔
      ManifestNotBefore directory manifest manifestMtime ∧
        ¬ AsOldAsNewest directory manifest manifestMtime := by
  rw [h.manifestNotBefore_iff, h.manifestStrictlyLast_iff]
  constructor
  · intro hlast
    refine ⟨fun entry hentry mtime hmtime => (hlast entry hentry mtime hmtime).le, ?_⟩
    rintro ⟨⟨entry, hentry, hsame⟩, -⟩
    exact lt_irrefl _ (hlast entry hentry manifestMtime hsame)
  · rintro ⟨hbefore, hnewest⟩ entry hentry mtime hmtime
    refine lt_of_le_of_ne (hbefore entry hentry mtime hmtime) ?_
    rintro rfl
    exact hnewest ⟨⟨entry, hentry, hmtime⟩, hbefore⟩

/-- The rules agree when the manifest is not as old as the newest file, and only then. -/
theorem rules_iff (h : SharedChecks directory manifest manifestMtime) :
    (ManifestNotBefore directory manifest manifestMtime ↔
        ManifestStrictlyLast directory manifest manifestMtime) ↔
      ¬ AsOldAsNewest directory manifest manifestMtime := by
  rw [h.strictlyLast_iff]
  constructor
  · intro hagree hnewest
    exact (hagree.mp (h.manifestNotBefore_iff.mpr hnewest.2)).2 hnewest
  · exact fun hnewest => ⟨fun hbefore => ⟨hbefore, hnewest⟩, And.left⟩

end SharedChecks

/-- **A bundle that its reader accepts can be a repetition when every listed file is older than the
manifest**, as far as the experiment's other checks of the files go. -/
theorem validateRepetition_iff {reconstruct : Reconstructor}
    (h : SharedChecks directory manifest manifestMtime)
    (hvalid : validateCommittedBundle directory reconstruct = .ok manifest)
    (hfiles : ∀ entry ∈ manifest.files, Returns (validateFile directory entry)) :
    validateRepetitionBundleDirectory reconstruct directory manifest = .ok () ↔
      ManifestStrictlyLast directory manifest manifestMtime := by
  obtain ⟨data, hthere⟩ := h.there
  unfold validateRepetitionBundleDirectory
  dsimp only
  rw [if_neg (not_not.mpr h.inventory), hthere]
  dsimp only
  rw [hvalid, bind_eq_ok]
  have hloop : each (fun entry => do
        let _ ← validateFile directory entry
        checkStrictlyLast directory manifestMtime entry) manifest.files = .ok () ↔
      ManifestStrictlyLast directory manifest manifestMtime := by
    rw [each_eq_ok]
    refine forall₂_congr fun entry hentry => ?_
    obtain ⟨text, htext⟩ := hfiles entry hentry
    rw [htext]
    exact Iff.rfl
  constructor
  · rintro ⟨⟨⟩, heach, -⟩
    exact hloop.mp heach
  · exact fun hlast => ⟨(), hloop.mpr hlast, rfl⟩

/-- **When the two rules agree**: they do exactly when the manifest is not as old as the newest file
that it lists. A bundle that its reader accepts, and whose files pass the experiment's other checks,
can be a repetition exactly then. -/
theorem manifestRules_agree_iff (directory : FileTree) (manifest : Stage2BundleManifest)
    (manifestMtime : ℤ) (h : SharedChecks directory manifest manifestMtime) :
    ((ManifestNotBefore directory manifest manifestMtime ↔
        ManifestStrictlyLast directory manifest manifestMtime) ↔
      ¬ AsOldAsNewest directory manifest manifestMtime) ∧
    ∀ reconstruct : Reconstructor, validateCommittedBundle directory reconstruct = .ok manifest →
      (∀ entry ∈ manifest.files, Returns (validateFile directory entry)) →
      (validateRepetitionBundleDirectory reconstruct directory manifest = .ok () ↔
        ¬ AsOldAsNewest directory manifest manifestMtime) := by
  refine ⟨h.rules_iff, fun reconstruct hvalid hfiles => ?_⟩
  rw [validateRepetition_iff h hvalid hfiles, h.strictlyLast_iff]
  refine and_iff_right ?_
  obtain ⟨data, mtime, hvalidated⟩ := validateCommittedBundle_eq_ok.mp hvalid
  obtain ⟨data', hthere⟩ := h.there
  obtain ⟨-, rfl⟩ := Node.file.inj (Option.some.inj (hvalidated.there.symm.trans hthere))
  exact hvalidated.entries

end

section

attribute [local instance] cpython sampleTimestamps

/-- The sample's world, with another clock. -/
def settingAt (time : ℕ → ℤ) : BundleSetting := { sampleSetting with world := ⟨fun _ => .none, time⟩ }

/-- A raw and a derived file are written and committed. -/
def committedAt (time : ℕ → ℤ) : Except Stop Stage2BundleManifest × Machine Stage2BundleBuilder :=
  (settingAt time).commit sampleReconstruct false ()
    ((settingAt time).writeDerived (lit "derived/a.json") [91, 93, 10]
      ((settingAt time).writeRaw (lit "raw/a.json") [91, 93, 10]
        ((settingAt time).create emptyBundle).2).2).2

/-- What the reader and the experiment find in a committed bundle. -/
def FoundAt (tree : FileTree) (manifestMtime : ℤ) (manifest : Stage2BundleManifest) : Prop :=
  (tree.filesWhere fun _ => true).map (·.1) =
      sortTexts (manifest.files.map (·.path) ++ [manifestName]) ∧
    mtimeOf tree ⟨manifestName, [], 0⟩ = some manifestMtime ∧ manifest.files ≠ [] ∧
    ∀ entry ∈ manifest.files, (validateFile tree entry).toOption.isSome = true

instance (tree : FileTree) (manifestMtime : ℤ) (manifest : Stage2BundleManifest) :
    Decidable (FoundAt tree manifestMtime manifest) :=
  inferInstanceAs (Decidable (_ ∧ _))

/-- What is found makes a bundle that passes the shared checks. -/
theorem FoundAt.sharedChecks {tree : FileTree} {manifestMtime : ℤ} {manifest : Stage2BundleManifest}
    (hvalid : validateCommittedBundle tree sampleReconstruct = .ok manifest)
    (h : FoundAt tree manifestMtime manifest) :
    SharedChecks tree manifest manifestMtime ∧
      ∀ entry ∈ manifest.files, Returns (validateFile tree entry) := by
  obtain ⟨hinventory, hmtime, -, hfiles⟩ := h
  refine ⟨.of_validated hvalid (mtimeOf_eq_some.mp hmtime) hinventory, fun entry hentry => ?_⟩
  have hfile := hfiles entry hentry
  cases hresult : validateFile tree entry with
  | error e => simp [hresult, Except.toOption] at hfile
  | ok data => exact ⟨data, rfl⟩

theorem manifestRules_agree_iff_committedAt : ∃ manifest,
    ((ManifestNotBefore (committedAt fun n => n).2.state.tree manifest 37 ↔
        ManifestStrictlyLast (committedAt fun n => n).2.state.tree manifest 37) ↔
      ¬ AsOldAsNewest (committedAt fun n => n).2.state.tree manifest 37) ∧
    (validateRepetitionBundleDirectory sampleReconstruct (committedAt fun n => n).2.state.tree
        manifest = .ok () ↔
      ¬ AsOldAsNewest (committedAt fun n => n).2.state.tree manifest 37) := by
  obtain ⟨manifest, hvalid, hfound⟩ := exists_eq_ok
    (x := validateCommittedBundle (committedAt fun n => n).2.state.tree sampleReconstruct)
    (p := FoundAt (committedAt fun n => n).2.state.tree 37) (by decide +kernel)
  obtain ⟨hshared, hfiles⟩ := hfound.sharedChecks hvalid
  have hrules := manifestRules_agree_iff _ manifest 37 hshared
  exact ⟨manifest, hrules.1, hrules.2 sampleReconstruct hvalid hfiles⟩

/-- A commit during which the clock stands still is accepted, and is no repetition. -/
theorem exists_committed_not_repetition : ∃ manifest,
    (∃ committed, (committedAt fun _ => 0).1 = .ok committed) ∧
    validateCommittedBundle (committedAt fun _ => 0).2.state.tree sampleReconstruct =
      .ok manifest ∧
    SharedChecks (committedAt fun _ => 0).2.state.tree manifest 0 ∧
    ManifestNotBefore (committedAt fun _ => 0).2.state.tree manifest 0 ∧
    ¬ ManifestStrictlyLast (committedAt fun _ => 0).2.state.tree manifest 0 ∧
    validateRepetitionBundleDirectory sampleReconstruct (committedAt fun _ => 0).2.state.tree
      manifest ≠ .ok () := by
  obtain ⟨committed, hcommitted, -⟩ := exists_eq_ok (x := (committedAt fun _ => 0).1)
    (p := fun _ => True) (by decide +kernel)
  obtain ⟨manifest, hvalid, hfound, hsame⟩ := exists_eq_ok
    (x := validateCommittedBundle (committedAt fun _ => 0).2.state.tree sampleReconstruct)
    (p := fun manifest => FoundAt (committedAt fun _ => 0).2.state.tree 0 manifest ∧
      ∀ entry ∈ manifest.files, mtimeOf (committedAt fun _ => 0).2.state.tree entry = some 0)
    (by decide +kernel)
  obtain ⟨hshared, hfiles⟩ := hfound.sharedChecks hvalid
  have hbefore := hshared.manifestNotBefore_iff.mpr fun entry hentry mtime hmtime => by
    obtain rfl := Option.some.inj ((hsame entry hentry).symm.trans hmtime)
    exact le_refl 0
  have hlast : ¬ ManifestStrictlyLast (committedAt fun _ => 0).2.state.tree manifest 0 := by
    intro hlast
    obtain ⟨entry, hentry⟩ := List.exists_mem_of_ne_nil _ hfound.2.2.1
    exact lt_irrefl 0 (hshared.manifestStrictlyLast_iff.mp hlast entry hentry 0 (hsame entry hentry))
  refine ⟨manifest, ⟨committed, hcommitted⟩, hvalid, hshared, hbefore, hlast, fun hrepetition => ?_⟩
  exact hlast ((validateRepetition_iff hshared hvalid hfiles).mp hrepetition)

end

end Stage2
