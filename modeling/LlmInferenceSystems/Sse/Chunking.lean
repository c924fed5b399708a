import Mathlib.Data.List.Infix
import LlmInferenceSystems.Sse.Parser

/-!
# Streams in chunks

Each read replaces CRLF by LF once, in all that is buffered. A run of CRs before an LF loses one
CR at the read the LF comes with and one at every later read, so how much of it is left when the
blank line after it is complete depends on the chunks. Whatever the chunks, the frames of a stream
that ends well are those of its octets with every such run taken off.

## Main definitions

* `feedAll`, `parseStream`: the reads of a stream, and the frames of a stream that ends well
* `settle`: the octets read so far, as the reads have rewritten them
* `Parsed`: the state of a parser that has read some chunks
* `Readable`, `Timely`: what a stream, and what its chunks must be like

## Main results

* `feedAll_eq_ok`: a parser reads on as long as no CR is left in a piece that is cut
* `Parsed.readPieces_collapse`: the frames are those of the collapsed octets
* `parseStream_eq_ok`: a stream ends well exactly when it is readable and its chunks are timely
* `parseStream_splits_eq_iff`: when two ways of cutting a stream have one outcome
-/

namespace Sse

open Python IncrementalSSEParser

/-- `feed` of some chunks, one after the other. -/
def feedAll : List Bytes → Method IncrementalSSEParser SSEProtocolError (List SSEFrame)
  | [] => return []
  | chunk :: chunks => do
    let frames ← feed chunk
    let more ← feedAll chunks
    return frames ++ more

/-- The reads of a stream, then `finalize`. -/
def readStream (chunks : List Bytes) :
    Method IncrementalSSEParser SSEProtocolError (List SSEFrame) := do
  let frames ← feedAll chunks
  finalize
  return frames

/-- What a fresh parser makes of a stream. -/
def parseStream (chunks : List Bytes) : Except SSEProtocolError (List SSEFrame) :=
  (readStream chunks {}).1

/-- The octets read so far after one more read. -/
def settleStep (data chunk : Bytes) : Bytes :=
  if chunk = [] then data else crlfToLf (data ++ chunk)

/-- The octets of some chunks as the reads have rewritten them, delivered frames included. -/
def settle (chunks : List Bytes) : Bytes := chunks.foldl settleStep []

/-- The state of a parser that has read `chunks` and returned `frames`. -/
structure Parsed (chunks : List Bytes) (frames : List SSEFrame) (p : IncrementalSSEParser) :
    Prop where
  read : readPieces false (pieces (settle chunks)).1 = .ok (frames, p.done)
  buffer : p.buffer = (pieces (settle chunks)).2

/-- The pieces cut so far have no CR. -/
def Clean (chunks : List Bytes) : Prop := ∀ piece ∈ (pieces (settle chunks)).1, CR ∉ piece

/-- The octets can be read once every CR of a run before an LF is dropped, and hold `[DONE]`. -/
def Readable (body : Bytes) : Prop :=
  ∃ frames, readPieces false (pieces (collapse body)).1 = .ok (frames, true)

/-- Every run of CRs is gone when the frame it stands in is cut, and the one that ends the stream
is gone after one more replacement. -/
structure Timely (chunks : List Bytes) : Prop where
  cuts : ∀ chunks', chunks' <+: chunks → Clean chunks'
  last : ∀ b ∈ crlfToLf (pieces (settle chunks)).2, b = LF

/-- `chunks` is a way to cut `body` into nonempty chunks. -/
structure Splits (body : Bytes) (chunks : List Bytes) : Prop where
  flatten : chunks.flatten = body
  nonempty : ∀ chunk ∈ chunks, chunk ≠ []

/-! ## Settling -/

theorem settle_concat (chunks : List Bytes) (chunk : Bytes) :
    settle (chunks ++ [chunk]) = settleStep (settle chunks) chunk := by
  simp [settle]

theorem length_settle_le (chunks : List Bytes) :
    (settle chunks).length ≤ chunks.flatten.length := by
  induction chunks using List.reverseRecOn with
  | nil => exact Nat.le_refl _
  | append_singleton chunks chunk ih =>
    rw [settle_concat, settleStep]
    split
    · simp only [List.flatten_append, List.length_append]
      omega
    · have h := length_crlfToLf_le (settle chunks ++ chunk)
      simp only [List.flatten_append, List.length_append, List.flatten_singleton] at h ⊢
      omega

/-- Dropping all runs forgets which replacements were made early. -/
theorem collapse_settle_append (chunks : List Bytes) (more : Bytes) :
    collapse (settle chunks ++ more) = collapse (chunks.flatten ++ more) := by
  induction chunks using List.reverseRecOn generalizing more with
  | nil => rfl
  | append_singleton chunks chunk ih =>
    rw [settle_concat, settleStep]
    split
    · next h => simpa [h] using ih more
    · rw [collapse_crlfToLf_append, List.append_assoc, ih]
      simp

theorem cr_not_mem_joinPieces {ps : List Bytes} (h : ∀ p ∈ ps, CR ∉ p) : CR ∉ joinPieces ps := by
  intro hcr
  obtain ⟨p, hp, hmem⟩ := List.mem_flatMap.mp hcr
  rcases List.mem_append.mp hmem with hmem | hmem
  · exact h p hp hmem
  · exact absurd hmem (by decide)

/-- A read cuts on what the pieces so far have left. -/
theorem pieces_settleStep {chunks : List Bytes} (h : Clean chunks) {chunk : Bytes}
    (hc : chunk ≠ []) :
    pieces (settle (chunks ++ [chunk])) =
      ((pieces (settle chunks)).1 ++
          (pieces (crlfToLf ((pieces (settle chunks)).2 ++ chunk))).1,
        (pieces (crlfToLf ((pieces (settle chunks)).2 ++ chunk))).2) := by
  rw [settle_concat, settleStep, if_neg hc]
  conv_lhs => rw [← joinPieces_pieces (settle chunks), List.append_assoc,
    crlfToLf_append_of_cr_not_mem (cr_not_mem_joinPieces h)]
  exact pieces_joinPieces_append _ _

/-! ## The state of a parser that has read some chunks -/

theorem Parsed.start : Parsed [] [] {} := ⟨rfl, rfl⟩

theorem Parsed.clean {chunks : List Bytes} {frames : List SSEFrame} {p : IncrementalSSEParser}
    (h : Parsed chunks frames p) : Clean chunks :=
  cr_not_mem_of_readPieces h.read

/-- One read. -/
theorem Parsed.feed {chunks : List Bytes} {frames more : List SSEFrame}
    {p q : IncrementalSSEParser} (h : Parsed chunks frames p) {chunk : Bytes}
    (hf : feed chunk p = (.ok more, q)) : Parsed (chunks ++ [chunk]) (frames ++ more) q := by
  rcases eq_or_ne chunk [] with rfl | hc
  · obtain ⟨rfl, rfl⟩ : [] = more ∧ p = q := by simpa [feed_nil] using hf
    exact ⟨by simpa [settle_concat, settleStep] using h.read,
      by simpa [settle_concat, settleStep] using h.buffer⟩
  · obtain ⟨-, hread, hbuffer⟩ := (feed_eq_ok hc).mp hf
    rw [h.buffer] at hread hbuffer
    have hp := pieces_settleStep h.clean hc
    refine ⟨?_, ?_⟩
    · rw [hp]
      exact readPieces_append.mpr ⟨frames, p.done, more, h.read, hread, rfl⟩
    · rw [hp]
      exact hbuffer

/-- What a parser that has read some chunks does not yet return is cut from its buffer. -/
theorem Parsed.pieces_collapse {chunks : List Bytes} {frames : List SSEFrame}
    {p : IncrementalSSEParser} (h : Parsed chunks frames p) (more : Bytes) :
    pieces (collapse (chunks.flatten ++ more)) =
      ((pieces (settle chunks)).1 ++ (pieces (collapse (p.buffer ++ more))).1,
        (pieces (collapse (p.buffer ++ more))).2) := by
  rw [← collapse_settle_append]
  conv_lhs => rw [← joinPieces_pieces (settle chunks), List.append_assoc,
    collapse_append_of_cr_not_mem (cr_not_mem_joinPieces h.clean)]
  rw [h.buffer]
  exact pieces_joinPieces_append _ _

/-- Octets that are all LF cut into blank pieces. -/
theorem pieces_of_all_lf {data : Bytes} (h : ∀ b ∈ data, b = LF) :
    ∀ p ∈ (pieces data).1, p = [] := by
  intro p hp
  induction data using pieces_induction with
  | last data hs => simp [pieces_of_splitBlank_none hs] at hp
  | cut data piece rest hs ih =>
    have hspec := splitBlank_spec hs
    rw [pieces_of_splitBlank_some hs] at hp
    rcases List.mem_cons.mp hp with rfl | hp
    · -- a first octet that is an LF and is followed by another one is a blank line
      cases p with
      | nil => rfl
      | cons b p =>
        obtain ⟨c, t, ht⟩ : ∃ c t, p ++ [LF, LF] ++ rest = c :: t := by
          cases p with
          | nil => exact ⟨LF, _, rfl⟩
          | cons c p => exact ⟨c, _, rfl⟩
        have hb : b = LF := h b (by rw [hspec]; simp)
        have hc : c = LF := h c (by rw [hspec, List.cons_append, List.cons_append, ht]; simp)
        rw [hspec, List.cons_append, List.cons_append, ht, splitBlank, if_pos ⟨hb, hc⟩] at hs
        simp at hs
    · exact ih (fun b hb => h b (by rw [hspec]; simp [hb])) hp

theorem cr_not_mem_of_all_lf {data : Bytes} (h : ∀ b ∈ data, b = LF) : CR ∉ data :=
  fun hcr => absurd (h CR hcr) (by decide)

/-- **The frames of a stream that ends in line feeds are those of its collapsed octets**, whatever
the chunks were. -/
theorem Parsed.readPieces_collapse {chunks : List Bytes} {frames : List SSEFrame}
    {p : IncrementalSSEParser} (h : Parsed chunks frames p)
    (hlast : ∀ b ∈ crlfToLf p.buffer, b = LF) :
    readPieces false (pieces (collapse chunks.flatten)).1 = .ok (frames, p.done) := by
  have hp := h.pieces_collapse []
  simp only [List.append_nil] at hp
  rw [hp]
  have hblank : ∀ piece ∈ (pieces (collapse p.buffer)).1, piece = [] := by
    rw [← collapse_crlfToLf, collapse_of_cr_not_mem (cr_not_mem_of_all_lf hlast)]
    exact pieces_of_all_lf hlast
  exact readPieces_append.mpr
    ⟨frames, p.done, [], h.read, readPieces_blank hblank, (List.append_nil _).symm⟩

/-! ## Whole streams -/

theorem feedAll_cons {chunks : List Bytes} {chunk : Bytes} {p q : IncrementalSSEParser}
    {frames : List SSEFrame} :
    feedAll (chunk :: chunks) p = (.ok frames, q) ↔
      ∃ f₁ t f₂, feed chunk p = (.ok f₁, t) ∧ feedAll chunks t = (.ok f₂, q) ∧
        frames = f₁ ++ f₂ := by
  simp only [feedAll, Method.bind_eq_ok, Method.pure_apply]
  constructor
  · rintro ⟨f₁, t, h₁, f₂, u, h₂, h⟩
    obtain ⟨rfl, rfl⟩ : f₁ ++ f₂ = frames ∧ u = q := by simpa using h
    exact ⟨f₁, t, f₂, h₁, h₂, rfl⟩
  · rintro ⟨f₁, t, f₂, h₁, h₂, rfl⟩
    exact ⟨f₁, t, h₁, f₂, q, h₂, rfl⟩

theorem feedAll_concat {chunks : List Bytes} {chunk : Bytes} {p q : IncrementalSSEParser}
    {frames : List SSEFrame} :
    feedAll (chunks ++ [chunk]) p = (.ok frames, q) ↔
      ∃ f₁ t f₂, feedAll chunks p = (.ok f₁, t) ∧ feed chunk t = (.ok f₂, q) ∧
        frames = f₁ ++ f₂ := by
  induction chunks generalizing p frames with
  | nil =>
    rw [List.nil_append, feedAll_cons]
    constructor
    · rintro ⟨f₁, t, f₂, h₁, h₂, rfl⟩
      obtain ⟨rfl, rfl⟩ : [] = f₂ ∧ t = q := by simpa [feedAll] using h₂
      exact ⟨[], p, f₁, rfl, h₁, by simp⟩
    · rintro ⟨f₁, t, f₂, h₁, h₂, rfl⟩
      obtain ⟨rfl, rfl⟩ : [] = f₁ ∧ p = t := by simpa [feedAll] using h₁
      exact ⟨f₂, q, [], h₂, rfl, by simp⟩
  | cons c chunks ih =>
    simp only [List.cons_append, feedAll_cons, ih]
    constructor
    · rintro ⟨f, t, _, hf, ⟨f₁, u, f₂, h₁, h₂, rfl⟩, rfl⟩
      exact ⟨f ++ f₁, u, f₂, ⟨f, t, f₁, hf, h₁, rfl⟩, h₂, by simp⟩
    · rintro ⟨_, u, f₂, ⟨f, t, f₁, hf, h₁, rfl⟩, h₂, rfl⟩
      exact ⟨f, t, f₁ ++ f₂, hf, ⟨f₁, u, f₂, h₁, h₂, rfl⟩, by simp⟩

/-- The state of a parser that was fed some chunks. -/
theorem Parsed.feedAll {read chunks : List Bytes} {frames more : List SSEFrame}
    {p q : IncrementalSSEParser} (h : Parsed read frames p)
    (hfeed : feedAll chunks p = (.ok more, q)) : Parsed (read ++ chunks) (frames ++ more) q := by
  induction chunks generalizing read frames more p with
  | nil =>
    obtain ⟨rfl, rfl⟩ : [] = more ∧ p = q := by simpa [Sse.feedAll] using hfeed
    simpa using h
  | cons chunk chunks ih =>
    obtain ⟨f₁, t, f₂, hchunk, hchunks, rfl⟩ := feedAll_cons.mp hfeed
    have hrest := ih (h.feed hchunk) hchunks
    rwa [List.append_assoc, List.append_assoc, List.singleton_append] at hrest

/-- **A parser reads on as long as no CR is left in a piece that is cut** and the pieces can be
read. -/
theorem feedAll_eq_ok {chunks : List Bytes} {p : IncrementalSSEParser} {frames : List SSEFrame}
    (hne : ∀ chunk ∈ chunks, chunk ≠ []) (hlen : chunks.flatten.length ≤ maxSseBufferBytes) :
    feedAll chunks {} = (.ok frames, p) ↔
      (∀ chunks', chunks' <+: chunks → Clean chunks') ∧ Parsed chunks frames p := by
  induction chunks using List.reverseRecOn generalizing p frames with
  | nil =>
    constructor
    · intro h
      obtain ⟨rfl, rfl⟩ : [] = frames ∧ ({} : IncrementalSSEParser) = p := by
        simpa [feedAll] using h
      refine ⟨fun chunks' h' => ?_, Parsed.start⟩
      obtain rfl := List.prefix_nil.mp h'
      exact Parsed.start.clean
    · rintro ⟨-, hread, hbuffer⟩
      obtain ⟨buffer, done⟩ := p
      obtain ⟨rfl, rfl⟩ : [] = frames ∧ false = done := by simpa [settle, readPieces] using hread
      obtain rfl : buffer = [] := hbuffer
      rfl
  | append_singleton chunks chunk ih =>
    have hne' : ∀ c ∈ chunks, c ≠ [] := fun c hc => hne c (by simp [hc])
    have hc : chunk ≠ [] := hne chunk (by simp)
    have hsum : chunks.flatten.length + chunk.length ≤ maxSseBufferBytes := by simpa using hlen
    rw [feedAll_concat]
    constructor
    · rintro ⟨f₁, t, f₂, h₁, h₂, rfl⟩
      obtain ⟨hclean, hparsed⟩ := (ih hne' (by omega)).mp h₁
      have hparsed' := hparsed.feed h₂
      refine ⟨fun chunks' h' => ?_, hparsed'⟩
      rcases List.prefix_concat_iff.mp h' with rfl | h'
      · exact hparsed'.clean
      · exact hclean chunks' h'
    · rintro ⟨hclean, hread, hbuffer⟩
      have hclean' : Clean chunks := hclean chunks (List.prefix_append _ _)
      rw [pieces_settleStep hclean' hc] at hread hbuffer
      obtain ⟨f₁, d, f₂, h₁, h₂, rfl⟩ := readPieces_append.mp hread
      refine ⟨f₁, ⟨(pieces (settle chunks)).2, d⟩, f₂, ?_, ?_, rfl⟩
      · refine (ih hne' (by omega)).mpr ⟨fun chunks' h' => ?_, h₁, rfl⟩
        exact hclean chunks' (h'.trans (List.prefix_append _ _))
      · refine (feed_eq_ok hc).mpr ⟨?_, h₂, hbuffer⟩
        have h₃ := length_settle_le chunks
        have h₄ := congrArg List.length (joinPieces_pieces (settle chunks))
        simp only [List.length_append] at h₄ ⊢
        omega

theorem parseStream_apply {chunks : List Bytes} {frames : List SSEFrame} :
    parseStream chunks = .ok frames ↔
      ∃ p, feedAll chunks {} = (.ok frames, p) ∧ (∀ b ∈ crlfToLf p.buffer, b = LF) ∧
        p.done = true := by
  unfold parseStream readStream
  rw [Method.bind_apply]
  rcases feedAll chunks {} with ⟨e | f, p⟩
  · simp
  · simp only [Method.bind_apply, Method.pure_apply]
    cases hfin : finalize p with
    | mk r q =>
      cases r with
      | error e =>
        have hnot : ¬ ((∀ b ∈ crlfToLf p.buffer, b = LF) ∧ p.done = true) := by
          intro h
          have hok := finalize_eq_ok.mpr ⟨h.1, h.2, rfl⟩
          rw [hfin] at hok
          simp at hok
        constructor
        · intro h
          simp at h
        · rintro ⟨p', hp', hlast, hdone⟩
          obtain ⟨-, rfl⟩ := Prod.mk.inj hp'
          exact absurd ⟨hlast, hdone⟩ hnot
      | ok u =>
        obtain ⟨hlast, hdone, -⟩ := finalize_eq_ok.mp hfin
        constructor
        · intro h
          obtain rfl : f = frames := by simpa using h
          exact ⟨p, rfl, hlast, hdone⟩
        · rintro ⟨p', hp', -, -⟩
          obtain ⟨hf, -⟩ := Prod.mk.inj hp'
          obtain rfl := Except.ok.inj hf
          rfl

/-- **A stream ends well exactly when its octets are readable and its chunks are timely**; its
frames depend on the octets alone. -/
theorem parseStream_eq_ok {chunks : List Bytes} {frames : List SSEFrame}
    (hne : ∀ chunk ∈ chunks, chunk ≠ []) (hlen : chunks.flatten.length ≤ maxSseBufferBytes) :
    parseStream chunks = .ok frames ↔
      readPieces false (pieces (collapse chunks.flatten)).1 = .ok (frames, true) ∧
        Timely chunks := by
  simp only [parseStream_apply, feedAll_eq_ok hne hlen]
  constructor
  · rintro ⟨p, ⟨hclean, hparsed⟩, hlast, hdone⟩
    refine ⟨hdone ▸ hparsed.readPieces_collapse hlast, hclean, ?_⟩
    rw [← hparsed.buffer]
    exact hlast
  · rintro ⟨hread, hcuts, hlast⟩
    have hclean : Clean chunks := hcuts chunks List.prefix_rfl
    have hp : pieces (collapse chunks.flatten) =
        ((pieces (settle chunks)).1 ++ (pieces (collapse (pieces (settle chunks)).2)).1,
          (pieces (collapse (pieces (settle chunks)).2)).2) := by
      have h := collapse_settle_append chunks []
      simp only [List.append_nil] at h
      rw [← h]
      conv_lhs => rw [← joinPieces_pieces (settle chunks),
        collapse_append_of_cr_not_mem (cr_not_mem_joinPieces hclean)]
      exact pieces_joinPieces_append _ _
    have hblank : ∀ piece ∈ (pieces (collapse (pieces (settle chunks)).2)).1, piece = [] := by
      rw [← collapse_crlfToLf, collapse_of_cr_not_mem (cr_not_mem_of_all_lf hlast)]
      exact pieces_of_all_lf hlast
    rw [hp] at hread
    obtain ⟨f₁, d, f₂, h₁, h₂, rfl⟩ := readPieces_append.mp hread
    obtain ⟨rfl, rfl⟩ : [] = f₂ ∧ d = true := by simpa [readPieces_blank hblank] using h₂
    rw [List.append_nil]
    exact ⟨⟨(pieces (settle chunks)).2, true⟩, ⟨hcuts, h₁, rfl⟩, hlast, rfl⟩

/-! ## Two ways to cut one stream -/

/-- **Two ways of cutting a stream have one outcome exactly when**, the octets being readable, both
are timely or neither is. -/
theorem parseStream_splits_eq_iff {body : Bytes} (hlen : body.length ≤ maxSseBufferBytes)
    {chunks₁ chunks₂ : List Bytes} (h₁ : Splits body chunks₁) (h₂ : Splits body chunks₂) :
    (parseStream chunks₁).toOption = (parseStream chunks₂).toOption ↔
      (Readable body → (Timely chunks₁ ↔ Timely chunks₂)) := by
  have key : ∀ {chunks frames}, Splits body chunks →
      ((parseStream chunks).toOption = some frames ↔
        readPieces false (pieces (collapse body)).1 = .ok (frames, true) ∧ Timely chunks) := by
    intro chunks frames h
    obtain ⟨rfl, hne⟩ := h
    rw [← parseStream_eq_ok hne hlen]
    cases parseStream chunks <;> simp [Except.toOption]
  constructor
  · rintro heq ⟨frames, hread⟩
    have hk := (@key _ frames h₁).symm.trans (heq ▸ key h₂)
    simpa [hread] using hk
  · intro hiff
    refine Option.ext fun frames => ?_
    rw [key h₁, key h₂]
    exact and_congr_right fun hread => hiff ⟨frames, hread⟩

/-- A CR before a CRLF: in one chunk one CR is left when the blank line is found, in two none is. -/
theorem parseStream_splits_eq_iff_cr_cr_lf :
    (parseStream [ascii "data: [DONE]" ++ [CR, CR, LF], [CR, LF]]).toOption =
        (parseStream [ascii "data: [DONE]" ++ [CR, CR, LF, CR, LF]]).toOption ↔
      (Readable (ascii "data: [DONE]" ++ [CR, CR, LF, CR, LF]) →
        (Timely [ascii "data: [DONE]" ++ [CR, CR, LF], [CR, LF]] ↔
          Timely [ascii "data: [DONE]" ++ [CR, CR, LF, CR, LF]])) :=
  parseStream_splits_eq_iff (by decide +kernel) ⟨by decide, by decide⟩ ⟨by decide, by decide⟩

/-- The outcome does depend on the chunks. -/
theorem exists_splits_parseStream_ne :
    ∃ body chunks₁ chunks₂, body.length ≤ maxSseBufferBytes ∧ Splits body chunks₁ ∧
      Splits body chunks₂ ∧
      (parseStream chunks₁).toOption ≠ (parseStream chunks₂).toOption :=
  ⟨ascii "data: [DONE]" ++ [CR, CR, LF, CR, LF],
    [ascii "data: [DONE]" ++ [CR, CR, LF], [CR, LF]],
    [ascii "data: [DONE]" ++ [CR, CR, LF, CR, LF]],
    by decide +kernel, ⟨by decide, by decide⟩, ⟨by decide, by decide⟩, by decide +kernel⟩

/-! ### Streams with no `CR CR LF` -/

/-- Where one replacement is enough, the reads have made it. -/
theorem settle_of_oneReplacement {chunks : List Bytes} (h : OneReplacement chunks.flatten) :
    settle chunks = crlfToLf chunks.flatten := by
  induction chunks using List.reverseRecOn with
  | nil => rfl
  | append_singleton chunks chunk ih =>
    have hflat : (chunks ++ [chunk]).flatten = chunks.flatten ++ chunk := by simp
    rw [hflat] at h ⊢
    have hpre : OneReplacement chunks.flatten :=
      fun hd => h (hd.trans (List.prefix_append _ _).isInfix)
    rw [settle_concat, settleStep, ih hpre]
    split
    · next hc => rw [hc, List.append_nil]
    · exact crlfToLf_crlfToLf_append h

/-- The pieces cut early stay cut. -/
theorem pieces_crlfToLf_isPrefix {data more : Bytes} (h : OneReplacement (data ++ more)) :
    (pieces (crlfToLf data)).1 <+: (pieces (crlfToLf (data ++ more))).1 := by
  have hpre : OneReplacement data := fun hd => h (hd.trans (List.prefix_append _ _).isInfix)
  have hno : NoCrlf (joinPieces (pieces (crlfToLf data)).1) := by
    intro hd
    refine noCrlf_crlfToLf hpre (hd.trans (List.IsPrefix.isInfix ?_))
    exact ⟨_, joinPieces_pieces (crlfToLf data)⟩
  have hlast : (joinPieces (pieces (crlfToLf data)).1).getLast? ≠ some CR := by
    rcases List.eq_nil_or_concat (pieces (crlfToLf data)).1 with hnil | ⟨ps, p, hp⟩
    · simp [hnil]
    · rw [hp, List.concat_eq_append, joinPieces_append]
      simp [joinPieces, show LF ≠ CR by decide]
  have hcut : pieces (crlfToLf (data ++ more)) =
      ((pieces (crlfToLf data)).1 ++ (pieces (crlfToLf ((pieces (crlfToLf data)).2 ++ more))).1,
        (pieces (crlfToLf ((pieces (crlfToLf data)).2 ++ more))).2) := by
    rw [← crlfToLf_crlfToLf_append h]
    conv_lhs => rw [← joinPieces_pieces (crlfToLf data), List.append_assoc,
      crlfToLf_append_of_noCrlf hno hlast]
    exact pieces_joinPieces_append _ _
  rw [hcut]
  exact List.prefix_append _ _

end Sse
