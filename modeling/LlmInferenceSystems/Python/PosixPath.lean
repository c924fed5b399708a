import Mathlib.Data.List.TakeWhile
import LlmInferenceSystems.Errors
import LlmInferenceSystems.Python.Text

/-!
# Posix paths

`pathlib.PurePosixPath`, as far as evidence paths need it: a text is split at `/`, empty and `.`
components are dropped, and the path is written back. A relative path is the list of its
components.

## Main definitions

* `PurePosixPath.ofStr`, `PurePosixPath.asPosix`: parsing, and `as_posix()`
* `RelPath`, `joinPath`: a relative path, and its text
* `IsComponent`, `IsName`: a component of a normal path, and one that the file system takes
* `FsEncodable`, `fsConvert`: a component that a call can be given, and the conversion of a path
* `joinText`, `PurePosixPath.joinpath`: `posixpath.join`, and `joinpath` on the text of a path
* `suffix`: the last suffix of a name

## Main results

* `joinPath_injective`: normal relative paths with the same text are equal
* `ofStr_joinPath`: a normal relative path is read from its text
* `joinpath_components`: joining goes down by the components
-/

namespace Python

/-- The components of a relative path. -/
abbrev RelPath := List Str

/-- `pathlib.PurePosixPath` -/
structure PurePosixPath where
  /-- Empty, `/` or `//`. -/
  root : Str
  tail : RelPath
deriving DecidableEq

/-- A component of a path in normal form that does not go up. -/
def IsComponent (part : Str) : Prop :=
  part ≠ [] ∧ 47 ∉ part ∧ part ≠ lit "." ∧ part ≠ lit ".."

/-- A component of a path in normal form that the file system takes: not empty, without `/`,
neither `.` nor `..`, without the null character, of characters that `os.fsencode` encodes. -/
def IsName (name : Str) : Prop :=
  name ≠ [] ∧ 47 ∉ name ∧ name ≠ lit "." ∧ name ≠ lit ".." ∧ 0 ∉ name ∧
    ∀ c ∈ name, isScalar c ∨ 0xDC80 ≤ c ∧ c ≤ 0xDCFF

/-- A component does not start at the root. -/
theorem IsComponent.head_ne {part : Str} (h : IsComponent part) : part.head? ≠ some 47 :=
  fun heq => h.2.1 (List.mem_of_mem_head? heq)

instance (name : Str) : Decidable (IsName name) := inferInstanceAs (Decidable (_ ∧ _))

/-- A component that a call of the file system can be given, whatever the file system makes of it:
`os.fsencode` encodes it, and it is without the null character. -/
def FsEncodable (name : Str) : Prop :=
  0 ∉ name ∧ ∀ c ∈ name, isScalar c ∨ 0xDC80 ≤ c ∧ c ≤ 0xDCFF

instance (name : Str) : Decidable (FsEncodable name) := inferInstanceAs (Decidable (_ ∧ _))

/-- What a call does with its path before it is made. -/
def fsConvert (path : RelPath) : Except PyError Unit :=
  if ∃ name ∈ path, ∃ c ∈ name, ¬ (isScalar c ∨ 0xDC80 ≤ c ∧ c ≤ 0xDCFF) then .error .unicodeEncode
  else if ∃ name ∈ path, 0 ∈ name then .error (.value "embedded null byte")
  else .ok ()

theorem IsName.fsEncodable {name : Str} (h : IsName name) : FsEncodable name := h.2.2.2.2

theorem fsEncodable_append {front back : Str} :
    FsEncodable (front ++ back) ↔ FsEncodable front ∧ FsEncodable back := by
  simp only [FsEncodable, List.mem_append, not_or, or_imp, forall_and]
  tauto

/-- What is of ASCII characters other than the null character can be given to a call. -/
theorem fsEncodable_of_ascii {name : Str} (h : ∀ c ∈ name, 0 < c ∧ c < 128) : FsEncodable name :=
  ⟨fun hmem => absurd (h 0 hmem).1 (Nat.lt_irrefl 0),
    fun c hc => .inl (isScalar_of_ascii (h c hc).2)⟩

/-- The conversion returns when each component can be given to a call. -/
theorem fsConvert_eq_ok {path : RelPath} :
    fsConvert path = .ok () ↔ ∀ name ∈ path, FsEncodable name := by
  unfold fsConvert
  split
  · next hbad =>
    obtain ⟨name, hname, c, hc, hnot⟩ := hbad
    exact iff_of_false (fun h => by cases h) fun h => hnot ((h name hname).2 c hc)
  · next hgood =>
    split
    · next hnull =>
      obtain ⟨name, hname, hc⟩ := hnull
      exact iff_of_false (fun h => by cases h) fun h => (h name hname).1 hc
    · next hnull =>
      refine iff_of_true rfl fun name hname => ⟨fun hc => hnull ⟨name, hname, hc⟩, fun c hc => ?_⟩
      by_contra hnot
      exact hgood ⟨name, hname, c, hc, hnot⟩

/-- It raises no `OSError`: the call has not been made. -/
theorem fsConvert_ne_os {path : RelPath} : fsConvert path ≠ .error .os := by
  unfold fsConvert
  split
  · simp
  · split <;> simp

/-- `"/".join(parts)` -/
def joinPath (parts : RelPath) : Str := [47].intercalate parts

namespace PurePosixPath

/-- `PurePosixPath(value)` -/
def ofStr (value : Str) : PurePosixPath where
  root :=
    match value with
    | 47 :: 47 :: 47 :: _ => [47]
    | 47 :: 47 :: _ => [47, 47]
    | 47 :: _ => [47]
    | _ => []
  tail := (value.splitOn 47).filter fun part => part ≠ [] ∧ part ≠ lit "."

/-- `path.as_posix()` -/
def asPosix (path : PurePosixPath) : Str :=
  if path.root = [] ∧ path.tail = [] then lit "." else path.root ++ joinPath path.tail

/-- `path.parts` -/
def parts (path : PurePosixPath) : List Str :=
  if path.root = [] then path.tail else path.root :: path.tail

/-- `path.is_absolute()` -/
def isAbsolute (path : PurePosixPath) : Prop := path.root ≠ []

instance (path : PurePosixPath) : Decidable path.isAbsolute :=
  inferInstanceAs (Decidable (_ ≠ _))

theorem tail_append_separator (text rest : Str) :
    (ofStr (text ++ 47 :: rest)).tail = (ofStr text).tail ++ (ofStr rest).tail := by
  simp only [ofStr, List.splitOn_append_cons_self, List.filter_append]

theorem tail_component {part : Str} (h : IsComponent part) : (ofStr part).tail = [part] := by
  have hsplit : part.splitOn 47 = [part] := by
    have hsingle : [47].intercalate [part] = part := by simp
    conv_lhs => rw [← hsingle]
    exact List.splitOn_intercalate 47 (by simpa using h.2.1) (List.cons_ne_nil part [])
  simp only [ofStr, hsplit]
  exact List.filter_eq_self.mpr fun p hp => by
    obtain rfl := List.mem_singleton.mp hp
    simpa using ⟨h.1, h.2.2.1⟩

/-- What does not start with `/` has no root. -/
theorem root_eq_nil {text : Str} (h : text.head? ≠ some 47) : (ofStr text).root = [] := by
  cases text with
  | nil => rfl
  | cons c rest =>
    have hc : c ≠ 47 := fun heq => h (by rw [heq]; rfl)
    simp only [ofStr]
    split <;> simp_all

theorem head_joinPath {parts : RelPath} (hne : parts ≠ []) (h : ∀ p ∈ parts, IsComponent p) :
    (joinPath parts).head? ≠ some 47 := by
  obtain ⟨p, rest, rfl⟩ := List.exists_cons_of_ne_nil hne
  have hp := h p (by simp)
  have hhead : (joinPath (p :: rest)).head? = p.head? := by
    cases rest with
    | nil => simp [joinPath]
    | cons q rest => rw [joinPath, List.intercalate_cons_cons, List.append_assoc,
        List.head?_append_of_ne_nil _ hp.1]
  rw [hhead]
  exact hp.head_ne

/-- The text of a relative path is read as that path. -/
theorem ofStr_joinPath_components {parts : RelPath} (hne : parts ≠ [])
    (h : ∀ p ∈ parts, IsComponent p) : ofStr (joinPath parts) = ⟨[], parts⟩ := by
  have hsplit : (joinPath parts).splitOn 47 = parts :=
    List.splitOn_intercalate 47 (fun p hp => (h p hp).2.1) hne
  have htail : (ofStr (joinPath parts)).tail = parts := by
    simp only [ofStr, hsplit]
    refine List.filter_eq_self.mpr fun p hp => ?_
    simpa using ⟨(h p hp).1, (h p hp).2.2.1⟩
  have hroot := root_eq_nil (head_joinPath hne h)
  calc ofStr (joinPath parts) = ⟨(ofStr (joinPath parts)).root, (ofStr (joinPath parts)).tail⟩ :=
        rfl
    _ = ⟨[], parts⟩ := by rw [hroot, htail]

/-- The same for names. -/
theorem ofStr_joinPath {parts : RelPath} (hne : parts ≠ []) (h : ∀ p ∈ parts, IsName p) :
    ofStr (joinPath parts) = ⟨[], parts⟩ :=
  ofStr_joinPath_components hne fun p hp => ⟨(h p hp).1, (h p hp).2.1, (h p hp).2.2.1,
    (h p hp).2.2.2.1⟩

end PurePosixPath

/-- **Normal relative paths with the same text are equal.** -/
theorem joinPath_injective {parts parts' : RelPath} (hne : parts ≠ []) (hne' : parts' ≠ [])
    (h : ∀ p ∈ parts, IsName p) (h' : ∀ p ∈ parts', IsName p)
    (heq : joinPath parts = joinPath parts') : parts = parts' := by
  have hpath := congrArg PurePosixPath.ofStr heq
  rw [PurePosixPath.ofStr_joinPath hne h, PurePosixPath.ofStr_joinPath hne' h'] at hpath
  exact congrArg PurePosixPath.tail hpath

/-- One step of `posixpath.join`. -/
def joinText (path segment : Str) : Str :=
  if segment.head? = some 47 ∨ path = [] then segment
  else if path.getLast? = some 47 then path ++ segment
  else path ++ 47 :: segment

namespace PurePosixPath

/-- `PurePosixPath(path).joinpath(*segments)` -/
def joinpath (path : Str) (segments : List Str) : PurePosixPath :=
  ofStr (segments.foldl joinText path)

/-- The root is one separator, unless there are exactly two at the beginning. -/
theorem root_eq_leading (text : Str) : (ofStr text).root =
    if (text.takeWhile (· = 47)).length = 0 then []
    else if (text.takeWhile (· = 47)).length = 2 then [47, 47]
    else [47] := by
  -- the first three characters decide
  match text with
  | [] => rfl
  | [a] =>
    by_cases ha : a = 47
    · subst ha
      rfl
    · rw [root_eq_nil (by simpa using ha), List.takeWhile_cons_of_neg (by simpa using ha)]
      rfl
  | a :: b :: rest =>
    by_cases ha : a = 47
    · by_cases hb : b = 47
      · subst ha hb
        cases rest with
        | nil => rfl
        | cons c rest =>
          by_cases hc : c = 47
          · subst hc
            simp [ofStr]
          · simp [ofStr, hc]
      · simp [ofStr, ha, hb]
    · rw [root_eq_nil (by simpa using ha), List.takeWhile_cons_of_neg (by simpa using ha)]
      rfl

/-- What comes after a separator, or with one, is not part of the root. -/
theorem root_append {path rest : Str} (hne : path ≠ [])
    (h : path.getLast? = some 47 → rest.head? ≠ some 47) :
    (ofStr (path ++ rest)).root = (ofStr path).root := by
  have hleading : (path ++ rest).takeWhile (· = 47) = path.takeWhile (· = 47) := by
    by_cases hall : ∀ c ∈ path, c = 47
    · have hlast : path.getLast? = some 47 := by
        rw [List.getLast?_eq_some_getLast hne, hall _ (List.getLast_mem hne)]
      rw [List.takeWhile_append_of_pos (by simpa using hall)]
      have hrest : rest.takeWhile (· = 47) = [] := by
        cases rest with
        | nil => rfl
        | cons c rest =>
          apply List.takeWhile_cons_of_neg
          simpa using h hlast
      rw [hrest, List.append_nil, List.takeWhile_eq_self_iff.mpr (by simpa using hall)]
    · rw [List.takeWhile_append, if_neg]
      intro hlength
      have hself := (List.takeWhile_prefix (p := fun c => decide (c = 47)) (l := path)).eq_of_length
        hlength
      exact hall (by simpa using List.takeWhile_eq_self_iff.mp hself)
  rw [root_eq_leading, root_eq_leading, hleading]

/-- One step of a join goes down as a relative text says. -/
theorem ofStr_joinText (path : Str) {text : Str} (hhead : text.head? ≠ some 47) :
    ofStr (joinText path text) = ⟨(ofStr path).root, (ofStr path).tail ++ (ofStr text).tail⟩ := by
  have hfields : ∀ text, ofStr text = ⟨(ofStr text).root, (ofStr text).tail⟩ := fun _ => rfl
  rw [joinText]
  by_cases hempty : path = []
  · rw [if_pos (.inr hempty), hfields text, root_eq_nil hhead, hempty]
    rfl
  · rw [if_neg (not_or.mpr ⟨hhead, hempty⟩)]
    by_cases hlast : path.getLast? = some 47
    · rw [if_pos hlast, hfields (path ++ text), root_append hempty fun _ => hhead]
      obtain ⟨front, rfl⟩ := List.getLast?_eq_some_iff.mp hlast
      have hnil : (ofStr []).tail = [] := rfl
      rw [List.append_assoc, List.singleton_append, tail_append_separator, tail_append_separator,
        hnil, List.append_nil]
    · rw [if_neg hlast, hfields (path ++ 47 :: text), root_append hempty fun h => absurd h hlast,
        tail_append_separator]

/-- **Joining goes down by the components**, from any path. -/
theorem joinpath_components (path : Str) {parts : RelPath} (h : ∀ p ∈ parts, IsComponent p) :
    joinpath path parts = ⟨(ofStr path).root, (ofStr path).tail ++ parts⟩ := by
  rw [joinpath]
  induction parts generalizing path with
  | nil =>
    rw [List.append_nil]
    rfl
  | cons part parts ih =>
    rw [List.foldl_cons, ih _ fun p hp => h p (List.mem_cons_of_mem _ hp),
      ofStr_joinText path (h part (by simp)).head_ne, tail_component (h part (by simp)),
      List.append_assoc, List.singleton_append]

/-- The text of a path leads where its components lead. -/
theorem joinpath_joinPath (path : Str) {parts : RelPath} (hne : parts ≠ [])
    (h : ∀ p ∈ parts, IsComponent p) : joinpath path [joinPath parts] = joinpath path parts := by
  rw [joinpath_components path h, joinpath, List.foldl_cons, List.foldl_nil,
    ofStr_joinText path (head_joinPath hne h), ofStr_joinPath_components hne h]

end PurePosixPath

/-- `path.suffix` of a path with this name: from the last full stop on, unless that is its first
or its last character. -/
def suffix (name : Str) : Str :=
  let after := name.reverse.takeWhile (· ≠ 46)
  let i := name.length - after.length - 1
  if 46 ∈ name ∧ 0 < i ∧ after ≠ [] then name.drop i else []

/-- The suffix starts at the last full stop. -/
theorem suffix_append {front tail : Str} (hfront : front ≠ []) (htail : tail ≠ [])
    (hdot : 46 ∉ tail) : suffix (front ++ 46 :: tail) = 46 :: tail := by
  have htake : (front ++ 46 :: tail).reverse.takeWhile (· ≠ 46) = tail.reverse := by
    rw [List.reverse_append, List.reverse_cons, List.append_assoc, List.singleton_append,
      List.takeWhile_append_of_pos ?_, List.takeWhile_cons_of_neg (by simp), List.append_nil]
    intro c hc
    have hc : c ∈ tail := List.mem_reverse.mp hc
    simpa using fun heq : c = 46 => hdot (heq ▸ hc)
  have hlength : (front ++ 46 :: tail).length - tail.reverse.length - 1 = front.length := by
    simp
    omega
  have hpos := List.length_pos_iff.mpr hfront
  simp only [suffix, htake, hlength]
  rw [if_pos ⟨by simp, hpos, by simpa using htail⟩, List.drop_left]

example : suffix (lit "a.tar.gz") = lit ".gz" := by decide

end Python
