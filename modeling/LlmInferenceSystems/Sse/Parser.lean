import LlmInferenceSystems.Python.Lines
import LlmInferenceSystems.Python.Method

/-!
# The incremental SSE parser

The parser keeps the octets no blank line has ended yet. A read appends a chunk, replaces CRLF by
LF in the whole buffer, and takes frames off as long as there is a blank line; empty frames are
skipped. A frame that cannot be read is off the buffer before its exception is raised.

## Main definitions

* `IncrementalSSEParser.feed`, `IncrementalSSEParser.finalize`: the methods
* `readFrame`: what `_parse_frame` makes of a frame
* `readPieces`: the frames of some pieces, blank ones skipped

## Main results

* `feed_eq_ok`: a read returns exactly when the cut pieces can all be read
* `finalize_eq_ok`: the stream ends well when only LFs are left and the marker was seen
-/

namespace Sse

open Python

/-- `MAX_SSE_BUFFER_BYTES` -/
def maxSseBufferBytes : ℕ := 64 * 1024

/-- `SSEProtocolError`, with its message. -/
structure SSEProtocolError where
  message : String
deriving DecidableEq

/-- `SSEFrame.kind` -/
inductive FrameKind where
  | comment
  | data
  | done
deriving DecidableEq

/-- `SSEFrame` -/
structure SSEFrame where
  kind : FrameKind
  data : Option Str
  comments : List Str
deriving DecidableEq

/-- `IncrementalSSEParser`: the octets kept for the next chunk, and whether `[DONE]` was seen. -/
structure IncrementalSSEParser where
  buffer : Bytes := []
  done : Bool := false
deriving DecidableEq

/-- A line of a frame: a comment or a data line; `none` is any other field. -/
def readLine (line : Str) : Option (Str ⊕ Str) :=
  if lit ":" <+: line then some (.inl (lstripSpaces (line.drop 1)))
  else if line = lit "data" then some (.inr [])
  else if lit "data:" <+: line then
    let value := line.drop 5
    some (.inr (if lit " " <+: value then value.drop 1 else value))
  else none

/-- `_parse_frame`, with `done` the marker the parser holds: the frame, which sets the marker when
it is `[DONE]`. -/
def readFrame (done : Bool) (rawFrame : Bytes) : Except SSEProtocolError SSEFrame :=
  match utf8Decode rawFrame with
  | none => .error ⟨"SSE frame is not valid UTF-8"⟩
  | some text =>
    if 13 ∈ text then .error ⟨"SSE fixture accepts only LF or CRLF line endings"⟩
    else
      match (text.splitOn 10).mapM readLine with
      | none => .error ⟨"unsupported SSE field in fixture stream"⟩
      | some lines =>
        let comments := lines.filterMap Sum.getLeft?
        let dataLines := lines.filterMap Sum.getRight?
        if dataLines = [] then .ok ⟨.comment, none, comments⟩
        else
          let data := (lit "\n").intercalate dataLines
          if data = lit "[DONE]" then
            if done then .error ⟨"duplicate [DONE] marker"⟩ else .ok ⟨.done, some data, comments⟩
          else if done then .error ⟨"data observed after [DONE]"⟩
          else .ok ⟨.data, some data, comments⟩

namespace IncrementalSSEParser

/-- The marker after a frame. -/
def afterFrame (done : Bool) (frame : SSEFrame) : Bool := done || frame.kind == .done

/-- `_parse_frame` -/
def parseFrame (rawFrame : Bytes) : Method IncrementalSSEParser SSEProtocolError SSEFrame := do
  let parser ← Method.self
  let frame ← Method.ofExcept (readFrame parser.done rawFrame)
  Method.assign fun p => { p with done := afterFrame p.done frame }
  return frame

/-- The loop of `feed`: frames are taken off the buffer as long as it has a blank line. Each turn
takes two octets off, so the number of octets is fuel enough. -/
def takeFrames : ℕ → Method IncrementalSSEParser SSEProtocolError (List SSEFrame)
  | 0 => return []
  | fuel + 1 => do
    let parser ← Method.self
    match splitBlank parser.buffer with
    | none => return []
    | some (rawFrame, buffer) =>
      Method.assign fun p => { p with buffer := buffer }
      if rawFrame = [] then takeFrames fuel
      else
        let frame ← parseFrame rawFrame
        let frames ← takeFrames fuel
        return frame :: frames

/-- `IncrementalSSEParser.feed` -/
def feed (chunk : Bytes) : Method IncrementalSSEParser SSEProtocolError (List SSEFrame) :=
  if chunk = [] then return []
  else do
    Method.assign fun p => { p with buffer := p.buffer ++ chunk }
    let parser ← Method.self
    if maxSseBufferBytes < parser.buffer.length then
      Method.raise ⟨"SSE parser buffer limit exceeded"⟩
    else
      Method.assign fun p => { p with buffer := crlfToLf p.buffer }
      takeFrames (crlfToLf parser.buffer).length

/-- `IncrementalSSEParser.finalize` -/
def finalize : Method IncrementalSSEParser SSEProtocolError Unit := do
  let parser ← Method.self
  if ¬ (crlfToLf parser.buffer).all (· == LF) then Method.raise ⟨"incomplete final SSE frame"⟩
  else if ¬ parser.done then Method.raise ⟨"stream closed without [DONE]"⟩
  else return ()

end IncrementalSSEParser

open IncrementalSSEParser

/-! ## Reading the pieces of a stream -/

/-- The frames of some pieces, and the marker after them; blank pieces are skipped. -/
def readPieces (done : Bool) : List Bytes → Except SSEProtocolError (List SSEFrame × Bool)
  | [] => .ok ([], done)
  | [] :: ps => readPieces done ps
  | (b :: piece) :: ps =>
    match readFrame done (b :: piece) with
    | .error e => .error e
    | .ok frame =>
      match readPieces (afterFrame done frame) ps with
      | .error e => .error e
      | .ok (frames, done') => .ok (frame :: frames, done')

theorem readPieces_cons {done : Bool} {piece : Bytes} (h : piece ≠ []) (ps : List Bytes) :
    readPieces done (piece :: ps) =
      match readFrame done piece with
      | .error e => .error e
      | .ok frame =>
        match readPieces (afterFrame done frame) ps with
        | .error e => .error e
        | .ok (frames, done') => .ok (frame :: frames, done') := by
  cases piece with
  | nil => exact absurd rfl h
  | cons b piece => rfl

theorem readPieces_cons_eq_ok {done d : Bool} {piece : Bytes} (h : piece ≠ []) {ps : List Bytes}
    {frames : List SSEFrame} :
    readPieces done (piece :: ps) = .ok (frames, d) ↔
      ∃ frame fs, readFrame done piece = .ok frame ∧
        readPieces (afterFrame done frame) ps = .ok (fs, d) ∧ frames = frame :: fs := by
  rw [readPieces_cons h]
  constructor
  · intro hp
    cases hr : readFrame done piece with
    | error e => simp [hr] at hp
    | ok frame =>
      rw [hr] at hp
      rcases hps : readPieces (afterFrame done frame) ps with e | ⟨fs, d'⟩
      · simp [hps] at hp
      · simp only [hps, Except.ok.injEq, Prod.mk.injEq] at hp
        obtain ⟨rfl, rfl⟩ := hp
        exact ⟨frame, fs, rfl, hps, rfl⟩
  · rintro ⟨frame, fs, hr, hps, rfl⟩
    simp only [hr, hps]

theorem readPieces_append {done d : Bool} {ps qs : List Bytes} {frames : List SSEFrame} :
    readPieces done (ps ++ qs) = .ok (frames, d) ↔
      ∃ f₁ d₁ f₂, readPieces done ps = .ok (f₁, d₁) ∧ readPieces d₁ qs = .ok (f₂, d) ∧
        frames = f₁ ++ f₂ := by
  induction ps generalizing done frames with
  | nil =>
    constructor
    · intro h
      exact ⟨[], done, frames, rfl, h, rfl⟩
    · rintro ⟨f₁, d₁, f₂, h₁, h₂, rfl⟩
      obtain ⟨rfl, rfl⟩ := Prod.mk.inj (Except.ok.inj h₁)
      exact h₂
  | cons piece ps ih =>
    rcases eq_or_ne piece [] with rfl | hne
    · exact ih
    · simp only [List.cons_append, readPieces_cons_eq_ok hne, ih]
      constructor
      · rintro ⟨frame, fs, hr, ⟨f₁, d₁, f₂, h₁, h₂, rfl⟩, rfl⟩
        exact ⟨frame :: f₁, d₁, f₂, ⟨frame, f₁, hr, h₁, rfl⟩, h₂, rfl⟩
      · rintro ⟨_, d₁, f₂, ⟨frame, f₁, hr, h₁, rfl⟩, h₂, rfl⟩
        exact ⟨frame, f₁ ++ f₂, hr, ⟨f₁, d₁, f₂, h₁, h₂, rfl⟩, rfl⟩

/-- Blank pieces hold no frame. -/
theorem readPieces_blank {done : Bool} {ps : List Bytes} (h : ∀ p ∈ ps, p = []) :
    readPieces done ps = .ok ([], done) := by
  induction ps with
  | nil => rfl
  | cons p ps ih =>
    obtain rfl := h p (by simp)
    exact ih fun q hq => h q (by simp [hq])

/-- A frame that can be read has no CR. -/
theorem cr_not_mem_of_readFrame {done : Bool} {raw : Bytes} {frame : SSEFrame}
    (h : readFrame done raw = .ok frame) : CR ∉ raw := by
  intro hcr
  cases ht : utf8Decode raw with
  | none => simp [readFrame, ht] at h
  | some text =>
    have hmem : 13 ∈ text := mem_of_utf8Decode ht hcr (by decide)
    simp [readFrame, ht, hmem] at h

theorem cr_not_mem_of_readPieces {done : Bool} {ps : List Bytes}
    {r : List SSEFrame × Bool} (h : readPieces done ps = .ok r) : ∀ p ∈ ps, CR ∉ p := by
  induction ps generalizing done r with
  | nil => simp
  | cons p ps ih =>
    obtain ⟨frames, d⟩ := r
    rcases eq_or_ne p [] with rfl | hne
    · have hps := ih (show readPieces done ps = .ok (frames, d) from h)
      simpa using hps
    · obtain ⟨frame, fs, hr, hps, rfl⟩ := (readPieces_cons_eq_ok hne).mp h
      intro q hq
      rcases List.mem_cons.mp hq with rfl | hq
      · exact cr_not_mem_of_readFrame hr
      · exact ih hps q hq

theorem parseFrame_apply (raw : Bytes) (p : IncrementalSSEParser) :
    parseFrame raw p =
      match readFrame p.done raw with
      | .ok frame => (.ok frame, { p with done := afterFrame p.done frame })
      | .error e => (.error e, p) := by
  simp only [parseFrame, Method.bind_apply, Method.self_apply, Method.ofExcept_apply]
  cases readFrame p.done raw <;> rfl

theorem takeFrames_succ (fuel : ℕ) (p : IncrementalSSEParser) :
    takeFrames (fuel + 1) p =
      match splitBlank p.buffer with
      | none => (.ok [], p)
      | some (raw, rest) =>
        if raw = [] then takeFrames fuel { p with buffer := rest }
        else
          match readFrame p.done raw with
          | .error e => (.error e, { p with buffer := rest })
          | .ok frame =>
            match takeFrames fuel ⟨rest, afterFrame p.done frame⟩ with
            | (.ok frames, q) => (.ok (frame :: frames), q)
            | (.error e, q) => (.error e, q) := by
  rw [takeFrames, Method.bind_apply]
  simp only [Method.self_apply]
  cases splitBlank p.buffer with
  | none => rfl
  | some r =>
    obtain ⟨raw, rest⟩ := r
    simp only [Method.bind_apply, Method.assign_apply]
    split
    · rfl
    · rw [Method.bind_apply, parseFrame_apply]
      cases readFrame p.done raw with
      | error e => rfl
      | ok frame =>
        simp only [Method.bind_apply]
        rcases takeFrames fuel ⟨rest, afterFrame p.done frame⟩ with ⟨e | fs, q⟩ <;> rfl

/-- One turn of the loop on a frame that is not blank. -/
theorem takeFrames_succ_eq_ok {fuel : ℕ} {p q : IncrementalSSEParser} {raw rest : Bytes}
    {frames : List SSEFrame} (hs : splitBlank p.buffer = some (raw, rest)) (hne : raw ≠ []) :
    takeFrames (fuel + 1) p = (.ok frames, q) ↔
      ∃ frame fs, readFrame p.done raw = .ok frame ∧
        takeFrames fuel ⟨rest, afterFrame p.done frame⟩ = (.ok fs, q) ∧ frames = frame :: fs := by
  rw [takeFrames_succ, hs]
  simp only [if_neg hne]
  constructor
  · intro hp
    cases hr : readFrame p.done raw with
    | error e => simp [hr] at hp
    | ok frame =>
      rw [hr] at hp
      rcases ht : takeFrames fuel ⟨rest, afterFrame p.done frame⟩ with ⟨e | fs, q'⟩
      · simp [ht] at hp
      · simp only [ht, Prod.mk.injEq, Except.ok.injEq] at hp
        obtain ⟨rfl, rfl⟩ := hp
        exact ⟨frame, fs, rfl, ht, rfl⟩
  · rintro ⟨frame, fs, hr, ht, rfl⟩
    simp only [hr, ht]

/-- The loop stops where no blank line is left. -/
theorem stop_eq_ok {p q : IncrementalSSEParser} {frames : List SSEFrame}
    (h : pieces p.buffer = ([], p.buffer)) :
    ((.ok [], p) : Except SSEProtocolError (List SSEFrame) × IncrementalSSEParser) =
        (.ok frames, q) ↔
      readPieces p.done (pieces p.buffer).1 = .ok (frames, q.done) ∧
        q.buffer = (pieces p.buffer).2 := by
  obtain ⟨b, d⟩ := p
  obtain ⟨b', d'⟩ := q
  rw [h]
  simp only [readPieces, Prod.mk.injEq, Except.ok.injEq, IncrementalSSEParser.mk.injEq]
  constructor
  · rintro ⟨rfl, rfl, rfl⟩
    exact ⟨⟨rfl, rfl⟩, rfl⟩
  · rintro ⟨⟨rfl, rfl⟩, rfl⟩
    exact ⟨rfl, rfl, rfl⟩

/-- **The loop reads exactly the cut pieces.** -/
theorem takeFrames_eq_ok {fuel : ℕ} {p q : IncrementalSSEParser} {frames : List SSEFrame}
    (hf : p.buffer.length ≤ fuel) :
    takeFrames fuel p = (.ok frames, q) ↔
      readPieces p.done (pieces p.buffer).1 = .ok (frames, q.done) ∧
        q.buffer = (pieces p.buffer).2 := by
  induction fuel generalizing p frames with
  | zero =>
    have hb : p.buffer = [] := List.length_eq_zero_iff.mp (Nat.le_zero.mp hf)
    exact stop_eq_ok (by rw [hb]; rfl)
  | succ fuel ih =>
    cases hs : splitBlank p.buffer with
    | none =>
      rw [takeFrames_succ, hs]
      exact stop_eq_ok (pieces_of_splitBlank_none hs)
    | some r =>
      obtain ⟨raw, rest⟩ := r
      have hlen := splitBlank_length hs
      have hrest : rest.length ≤ fuel := by omega
      rw [pieces_of_splitBlank_some hs]
      rcases eq_or_ne raw [] with rfl | hne
      · rw [takeFrames_succ, hs]
        exact ih (p := { p with buffer := rest }) hrest
      · rw [takeFrames_succ_eq_ok hs hne]
        simp only [readPieces_cons_eq_ok hne]
        constructor
        · rintro ⟨frame, fs, hr, ht, rfl⟩
          obtain ⟨hps, hq⟩ := (ih (p := ⟨rest, afterFrame p.done frame⟩) hrest).mp ht
          exact ⟨⟨frame, fs, hr, hps, rfl⟩, hq⟩
        · rintro ⟨⟨frame, fs, hr, hps, rfl⟩, hq⟩
          exact ⟨frame, fs, hr, (ih (p := ⟨rest, afterFrame p.done frame⟩) hrest).mpr ⟨hps, hq⟩,
            rfl⟩

/-- **A read returns exactly when the cut pieces of the buffer can all be read.** -/
theorem feed_eq_ok {chunk : Bytes} {p q : IncrementalSSEParser} {frames : List SSEFrame}
    (hc : chunk ≠ []) :
    feed chunk p = (.ok frames, q) ↔
      (p.buffer ++ chunk).length ≤ maxSseBufferBytes ∧
        readPieces p.done (pieces (crlfToLf (p.buffer ++ chunk))).1 = .ok (frames, q.done) ∧
        q.buffer = (pieces (crlfToLf (p.buffer ++ chunk))).2 := by
  rw [feed, if_neg hc, Method.bind_apply, Method.assign_apply]
  simp only [Method.bind_apply, Method.self_apply]
  by_cases hlen : maxSseBufferBytes < (p.buffer ++ chunk).length
  · rw [if_pos hlen]
    exact ⟨fun h => by simp at h, fun h => absurd h.1 (Nat.not_le.mpr hlen)⟩
  · rw [if_neg hlen, Method.bind_apply, Method.assign_apply]
    have hle : (p.buffer ++ chunk).length ≤ maxSseBufferBytes := Nat.not_lt.mp hlen
    simp only [hle, true_and]
    exact takeFrames_eq_ok (p := { p with buffer := crlfToLf (p.buffer ++ chunk) })
      (Nat.le_refl _)

theorem feed_nil (p : IncrementalSSEParser) : feed [] p = (.ok [], p) := rfl

theorem finalize_eq_ok {p q : IncrementalSSEParser} :
    finalize p = (.ok (), q) ↔
      (∀ b ∈ crlfToLf p.buffer, b = LF) ∧ p.done = true ∧ q = p := by
  rw [finalize, Method.bind_apply, Method.self_apply]
  by_cases hb : (crlfToLf p.buffer).all (· == LF) = true
  · have hall : ∀ b ∈ crlfToLf p.buffer, b = LF := by simpa using hb
    cases hd : p.done with
    | false => simp [hb, hd]
    | true =>
      simp only [hb, hd, not_true_eq_false, if_false, Method.pure_apply, Prod.mk.injEq, true_and]
      exact ⟨fun h => ⟨hall, h.symm⟩, fun h => h.2.symm⟩
  · have hall : ¬ ∀ b ∈ crlfToLf p.buffer, b = LF := by simpa using hb
    simp [hb, hall]

/-! ## Data frames -/

/-- A data frame has its data. -/
theorem data_ne_none_of_readFrame {done : Bool} {raw : Bytes} {frame : SSEFrame}
    (h : readFrame done raw = .ok frame) (hkind : frame.kind = .data) : frame.data ≠ none := by
  unfold readFrame at h
  split at h
  · cases h
  · split at h
    · cases h
    · split at h
      · cases h
      · dsimp only at h
        split_ifs at h
        all_goals
          obtain rfl := Except.ok.inj h
          simp at hkind ⊢

theorem data_ne_none_of_readPieces {done d : Bool} {ps : List Bytes} {frames : List SSEFrame}
    (h : readPieces done ps = .ok (frames, d)) :
    ∀ frame ∈ frames, frame.kind = .data → frame.data ≠ none := by
  induction ps generalizing done frames with
  | nil =>
    obtain ⟨rfl, -⟩ := Prod.mk.inj (Except.ok.inj h)
    simp
  | cons piece ps ih =>
    rcases eq_or_ne piece [] with rfl | hne
    · exact ih h
    · obtain ⟨frame, fs, hr, hps, rfl⟩ := (readPieces_cons_eq_ok hne).mp h
      exact List.forall_mem_cons.mpr ⟨data_ne_none_of_readFrame hr, ih hps⟩

/-- Data comes before the marker. -/
theorem not_done_of_readFrame {done : Bool} {raw : Bytes} {frame : SSEFrame}
    (h : readFrame done raw = .ok frame) (hkind : frame.kind = .data) : done = false := by
  cases done with
  | false => rfl
  | true =>
    -- after the marker only a comment is read
    exfalso
    unfold readFrame at h
    simp only [if_true] at h
    split at h
    · cases h
    · split_ifs at h
      split at h
      · cases h
      · split_ifs at h
        obtain rfl := Except.ok.inj h
        cases hkind

/-- No frame before a data frame sets the marker. -/
theorem not_done_of_readPieces {done d : Bool} {ps : List Bytes} {before after : List SSEFrame}
    {frame : SSEFrame} (h : readPieces done ps = .ok (before ++ frame :: after, d))
    (hkind : frame.kind = .data) : done = false ∧ ∀ f ∈ before, f.kind ≠ .done := by
  induction ps generalizing done before with
  | nil =>
    have hnil := (Prod.mk.inj (Except.ok.inj h)).1
    simp at hnil
  | cons piece ps ih =>
    rcases eq_or_ne piece [] with rfl | hne
    · exact ih h
    · obtain ⟨first, fs, hread, hps, hframes⟩ := (readPieces_cons_eq_ok hne).mp h
      cases before with
      | nil =>
        obtain ⟨rfl, -⟩ := List.cons.inj hframes
        exact ⟨not_done_of_readFrame hread hkind, by simp⟩
      | cons f before =>
        obtain ⟨rfl, rfl⟩ := List.cons.inj hframes
        obtain ⟨hafter, hbefore⟩ := ih hps
        obtain ⟨hdone, hfirst⟩ := Bool.or_eq_false_iff.mp hafter
        refine ⟨hdone, List.forall_mem_cons.mpr ⟨fun h => ?_, hbefore⟩⟩
        rw [h] at hfirst
        cases hfirst

/-- The data frames that a read returns have their data. -/
theorem data_ne_none_of_feed {chunk : Bytes} {p q : IncrementalSSEParser} {frames : List SSEFrame}
    (h : feed chunk p = (.ok frames, q)) :
    ∀ frame ∈ frames, frame.kind = .data → frame.data ≠ none := by
  rcases eq_or_ne chunk [] with rfl | hne
  · obtain ⟨rfl, -⟩ : [] = frames ∧ p = q := by simpa [feed_nil] using h
    simp
  · exact data_ne_none_of_readPieces ((feed_eq_ok hne).mp h).2.1

end Sse
