import LlmInferenceSystems.Sse.Chunking
import LlmInferenceSystems.Stage1.RetracedBodies

/-!
# Two ways to cut a body

The frames of a chunk are recorded once the whole chunk is parsed. How a body is cut therefore shows
in the evidence where a chunk holds a frame and, after it, octets that the parser refuses.

## Main definitions

* `delivered`: the frames that are complete before the first chunk that cannot be read
* `CutEnd`: how a request ends whose body is cut in some way
* `CutAlike`: two ways to cut a body that show the same of it
* `SameOutcome`: what two requests have in common that differ in how their bodies are cut

## Main results

* `readBody_delivered`: the evidence of a body is that of the delivered frames
* `executeStreamingRequest_cuts`: when two ways to cut a body come to the same outcome
-/

namespace Stage1

open Python Sse IncrementalSSEParser

/-! ## Delivered frames -/

/-- The frames of some chunks, when all pieces that are cut can be read. -/
def framesOf (chunks : List Bytes) : Option (List SSEFrame) :=
  (readPieces false (pieces (settle chunks)).1).toOption.map (·.1)

/-- The frames that are complete after `read`, and before the first chunk that cannot be read. -/
def deliveredAfter (read : List Bytes) (frames : List SSEFrame) : List Bytes → List SSEFrame
  | [] => frames
  | chunk :: chunks =>
    match framesOf (read ++ [chunk]) with
    | none => frames
    | some frames => deliveredAfter (read ++ [chunk]) frames chunks

/-- The frames that chunks bring, up to the one the parser refuses. -/
def delivered (chunks : List Bytes) : List SSEFrame := deliveredAfter [] [] chunks

section

variable {read chunks : List Bytes} {frames : List SSEFrame} {p : IncrementalSSEParser}
  {chunk : Bytes}

theorem Parsed.framesOf (h : Parsed read frames p) : framesOf read = some frames := by
  rw [Stage1.framesOf, h.read]
  rfl

/-- A chunk is fed with success when its pieces can be read. -/
theorem feed_of_framesOf (h : Parsed read frames p) (hne : chunk ≠ [])
    (hlen : (read ++ [chunk]).flatten.length ≤ maxSseBufferBytes) {frames' : List SSEFrame}
    (hframes : Stage1.framesOf (read ++ [chunk]) = some frames') :
    ∃ more q, feed chunk p = (.ok more, q) ∧ frames' = frames ++ more ∧
      Parsed (read ++ [chunk]) frames' q := by
  obtain ⟨⟨fs, d⟩, hread, rfl⟩ := Option.map_eq_some_iff.mp hframes
  have hpieces := ok_of_toOption hread
  rw [pieces_settleStep h.clean hne] at hpieces
  obtain ⟨f₁, d₁, more, h₁, h₂, rfl⟩ := readPieces_append.mp hpieces
  obtain ⟨rfl, rfl⟩ := Prod.mk.inj (Except.ok.inj (h.read.symm.trans h₁))
  have hlength : (p.buffer ++ chunk).length ≤ maxSseBufferBytes := by
    have hsettle := length_settle_le read
    have hjoin := congrArg List.length (joinPieces_pieces (settle read))
    rw [h.buffer]
    simp only [List.flatten_append, List.flatten_cons, List.flatten_nil, List.append_nil,
      List.length_append] at hlen hjoin ⊢
    omega
  have hfeed : feed chunk p =
      (.ok more, ⟨(pieces (crlfToLf (p.buffer ++ chunk))).2, d⟩) := by
    refine (feed_eq_ok hne).mpr ⟨hlength, ?_, rfl⟩
    rw [h.buffer]
    exact h₂
  exact ⟨more, _, hfeed, rfl, h.feed hfeed⟩

/-- A chunk is refused when a piece of it cannot be read. -/
theorem feed_of_framesOf_none (h : Parsed read frames p)
    (hframes : Stage1.framesOf (read ++ [chunk]) = none) :
    ∃ error q, feed chunk p = (.error error, q) := by
  rcases hfeed : feed chunk p with ⟨error | more, q⟩
  · exact ⟨error, q, rfl⟩
  · rw [Parsed.framesOf (h.feed hfeed)] at hframes
    cases hframes

end

section

variable [Interpreter]

/-- Frames that were refused stay refused. -/
theorem acceptFrames_deliveredAfter {read : List Bytes} {frames : List SSEFrame}
    {p : IncrementalSSEParser} (h : Parsed read frames p) {error : RequestError}
    (haccept : (acceptFrames frames).2 = some error) (chunks : List Bytes)
    (hne : ∀ chunk ∈ chunks, chunk ≠ [])
    (hlen : (read ++ chunks).flatten.length ≤ maxSseBufferBytes) :
    acceptFrames (deliveredAfter read frames chunks) = acceptFrames frames := by
  induction chunks generalizing read frames p with
  | nil => rfl
  | cons chunk chunks ih =>
    rw [deliveredAfter]
    cases hframes : framesOf (read ++ [chunk]) with
    | none => rfl
    | some frames' =>
      have hlen' : (read ++ [chunk] ++ chunks).flatten.length ≤ maxSseBufferBytes := by
        rwa [List.append_assoc, List.singleton_append]
      obtain ⟨more, q, -, rfl, hparsed⟩ := feed_of_framesOf h (hne chunk (by simp))
        (le_trans (by simp only [List.flatten_append, List.length_append]; omega) hlen') hframes
      have happend : acceptFrames (frames ++ more) = acceptFrames frames := by
        rw [acceptFrames_append, haccept]
        exact Prod.ext rfl haccept.symm
      have haccept' : (acceptFrames (frames ++ more)).2 = some error := happend ▸ haccept
      dsimp only
      rw [ih hparsed haccept' (fun c hc => hne c (by simp [hc])) hlen', happend]

/-- How the reading of a body and that of its delivered frames end. -/
inductive ReadingEnd (refused : Option RequestError)
    (fed : Except SSEProtocolError (List SSEFrame) × IncrementalSSEParser)
    (result : Except RequestError IncrementalSSEParser) : Prop
  | refused {error : RequestError} (refused : refused = some error) (result : result = .error error)
  | unreadable {error : SSEProtocolError} (accepted : refused = none)
      (fed : ∃ error, fed.1 = .error error) (result : result = .error (.sseProtocol error))
  | read {q : IncrementalSSEParser} (accepted : refused = none)
      (fed : ∃ frames, fed = (.ok frames, q)) (result : result = .ok q)

omit [Interpreter] in
theorem ReadingEnd.cons {refused : Option RequestError} {frames : List SSEFrame}
    {p q : IncrementalSSEParser} {chunk : Bytes} {chunks : List Bytes}
    {result : Except RequestError IncrementalSSEParser} (hfeed : feed chunk p = (.ok frames, q))
    (h : ReadingEnd refused (feedAll chunks q) result) :
    ReadingEnd refused (feedAll (chunk :: chunks) p) result := by
  have hall : feedAll (chunk :: chunks) p = (feedAll chunks >>= fun more =>
      pure (frames ++ more)) q := by
    rw [feedAll, Method.bind_ok hfeed]
  cases h with
  | refused hrefused hresult => exact .refused hrefused hresult
  | unreadable haccepted hfed hresult =>
    obtain ⟨error, hfed⟩ := hfed
    refine .unreadable haccepted ⟨error, ?_⟩ hresult
    rw [hall, Method.bind_error (Method.eq_mk_snd hfed)]
  | read haccepted hfed hresult =>
    obtain ⟨more, hfed⟩ := hfed
    refine .read haccepted ⟨frames ++ more, ?_⟩ hresult
    rw [hall, Method.bind_ok hfed]
    rfl

/-- **The evidence of a body is that of the delivered frames.** -/
theorem readBody_delivered {read : List Bytes} {frames : List SSEFrame} {p : IncrementalSSEParser}
    (h : Parsed read frames p) (haccept : (acceptFrames frames).2 = none) (chunks : List Bytes)
    (hne : ∀ chunk ∈ chunks, chunk ≠ [])
    (hlen : (read ++ chunks).flatten.length ≤ maxSseBufferBytes) :
    (acceptFrames (deliveredAfter read frames chunks)).1 =
        (acceptFrames frames).1 ++ (readBody none p chunks).evidence ∧
      ReadingEnd (acceptFrames (deliveredAfter read frames chunks)).2 (feedAll chunks p)
        (readBody none p chunks).result := by
  induction chunks generalizing read frames p with
  | nil => exact ⟨(List.append_nil _).symm, .read haccept ⟨[], rfl⟩ rfl⟩
  | cons chunk chunks ih =>
    have hchunk : chunk ≠ [] := hne chunk (by simp)
    have hlen' : (read ++ [chunk] ++ chunks).flatten.length ≤ maxSseBufferBytes := by
      rwa [List.append_assoc, List.singleton_append]
    rw [deliveredAfter]
    -- a chunk that does not feed ends the reading, and `deliveredAfter` stops at it
    cases hframes : framesOf (read ++ [chunk]) with
    | none =>
      obtain ⟨error, q, hfeed⟩ := feed_of_framesOf_none h hframes
      rw [readBody_raised hchunk hfeed]
      refine ⟨(List.append_nil _).symm, .unreadable haccept ⟨error, ?_⟩ rfl⟩
      rw [feedAll, Method.bind_error hfeed]
    | some frames' =>
      obtain ⟨more, q, hfeed, rfl, hparsed⟩ := feed_of_framesOf h hchunk
        (le_trans (by simp only [List.flatten_append, List.length_append]; omega) hlen') hframes
      have hne' : ∀ c ∈ chunks, c ≠ [] := fun c hc => hne c (by simp [hc])
      have happend := acceptFrames_append frames more
      rw [haccept] at happend
      -- a payload among the frames that this chunk completes may be refused
      dsimp only at happend ⊢
      cases hmore : (acceptFrames more).2 with
      | some error =>
        have hrefused : (acceptFrames (frames ++ more)).2 = some error := by rw [happend, hmore]
        rw [readBody_refused hchunk hfeed hmore,
          -- once one is refused, no later chunk changes what is accepted
          acceptFrames_deliveredAfter hparsed hrefused chunks hne' hlen']
        exact ⟨by rw [happend], .refused hrefused rfl⟩
      | none =>
        have haccept' : (acceptFrames (frames ++ more)).2 = none := by rw [happend, hmore]
        obtain ⟨hevidence, hend⟩ := ih hparsed haccept' hne' hlen'
        -- all are accepted: the reading goes on (induction)
        rw [readBody_accepted hchunk hfeed hmore]
        refine ⟨?_, .cons hfeed hend⟩
        rw [hevidence, happend, List.append_assoc]

/-! ## How a body ends -/

/-- How a request ends whose body is cut into some chunks: with the first delivered frame that is
refused; else as a malformed stream, unless the octets can be read and the chunks are timely; else by
the count of its tokens. -/
inductive CutEnd (expectedOutputTokenCount : ℕ) (chunks : List Bytes) : Terminal → Prop
  | refused {error : RequestError} (refused : (acceptFrames (delivered chunks)).2 = some error) :
    CutEnd expectedOutputTokenCount chunks error.terminal
  | malformed (accepted : (acceptFrames (delivered chunks)).2 = none)
      (unread : ¬ (Readable chunks.flatten ∧ Timely chunks)) (error : SSEProtocolError) :
    CutEnd expectedOutputTokenCount chunks (RequestError.sseProtocol error).terminal
  | short (accepted : (acceptFrames (delivered chunks)).2 = none)
      (read : Readable chunks.flatten ∧ Timely chunks)
      (count : ((acceptFrames (delivered chunks)).1.filterMap (·.tokenDeltaCount)).sum ≠
        expectedOutputTokenCount) (error : FixtureTokenError) :
    CutEnd expectedOutputTokenCount chunks (RequestError.fixtureToken error).terminal
  | success (accepted : (acceptFrames (delivered chunks)).2 = none)
      (read : Readable chunks.flatten ∧ Timely chunks)
      (count : ((acceptFrames (delivered chunks)).1.filterMap (·.tokenDeltaCount)).sum =
        expectedOutputTokenCount) :
    CutEnd expectedOutputTokenCount chunks ⟨.success, none⟩

variable {expectedOutputTokenCount : ℕ} {chunks : List Bytes}

omit [Interpreter] in
theorem parseStream_iff (hne : ∀ chunk ∈ chunks, chunk ≠ [])
    (hlen : chunks.flatten.length ≤ maxSseBufferBytes) :
    (∃ frames, parseStream chunks = .ok frames) ↔ Readable chunks.flatten ∧ Timely chunks := by
  simp only [parseStream_eq_ok hne hlen, exists_and_right]
  rfl

/-- **How a body ends**, by its octets and its chunks. -/
theorem cutEnd_streamTerminal (hne : ∀ chunk ∈ chunks, chunk ≠ [])
    (hlen : chunks.flatten.length ≤ maxSseBufferBytes) :
    (acceptFrames (delivered chunks)).1 = (readBody none {} chunks).evidence ∧
      CutEnd expectedOutputTokenCount chunks
        (streamTerminal expectedOutputTokenCount (readBody none {} chunks)) := by
  obtain ⟨hevidence, hend⟩ :=
    readBody_delivered Parsed.start (show (acceptFrames []).2 = none from rfl) chunks hne hlen
  change (acceptFrames (delivered chunks)).1 = [] ++ _ at hevidence
  change ReadingEnd (acceptFrames (delivered chunks)).2 _ _ at hend
  rw [List.nil_append] at hevidence
  refine ⟨hevidence, ?_⟩
  unfold streamTerminal
  have hparse := parseStream_iff hne hlen
  cases hend with
  | refused hrefused hresult =>
    -- the first refused frame decides, whatever comes after it
    rw [hresult]
    exact .refused hrefused
  | unreadable haccepted hfed hresult =>
    rw [hresult]
    -- an unreadable chunk: the parser raises for it, so the whole body does not parse
    refine .malformed haccepted (fun hread => ?_) _
    obtain ⟨frames, hframes⟩ := hparse.mpr hread
    obtain ⟨q, hall, -⟩ := parseStream_apply.mp hframes
    obtain ⟨error, hfed⟩ := hfed
    rw [hall] at hfed
    cases hfed
  | @read q haccepted hfed hresult =>
    obtain ⟨frames, hfed⟩ := hfed
    rw [hresult]
    dsimp only
    -- the chunks were read to the last; what is left to fail is the end of the stream
    rcases hfinalize : finalize q with ⟨error | ⟨⟩, q'⟩
    · refine .malformed haccepted (fun hread => ?_) _
      obtain ⟨frames', hframes⟩ := hparse.mpr hread
      obtain ⟨q'', hall, hlast, hdone⟩ := parseStream_apply.mp hframes
      obtain ⟨-, rfl⟩ := Prod.mk.inj (hfed.symm.trans hall)
      rw [finalize_eq_ok.mpr ⟨hlast, hdone, rfl⟩] at hfinalize
      cases hfinalize
    · obtain ⟨hlast, hdone, -⟩ := finalize_eq_ok.mp hfinalize
      -- the stream ends well, and the counts decide
      have hread := hparse.mp ⟨frames, parseStream_apply.mpr ⟨q, hfed, hlast, hdone⟩⟩
      rw [← hevidence]
      dsimp only
      by_cases hcount : ((acceptFrames (delivered chunks)).1.filterMap
          (·.tokenDeltaCount)).sum = expectedOutputTokenCount
      · rw [if_neg (not_not.mpr hcount)]
        exact .success haccepted hread hcount
      · rw [if_pos hcount]
        exact .short haccepted hread hcount _

/-- A body ends in one way. -/
theorem CutEnd.unique {terminal terminal' : Terminal}
    (h : CutEnd expectedOutputTokenCount chunks terminal)
    (h' : CutEnd expectedOutputTokenCount chunks terminal') : terminal = terminal' := by
  -- the four ends exclude each other: a refusal, no parse, another count, the same count
  cases h with
  | refused hrefused =>
    cases h' with
    | refused hrefused' => rw [Option.some.inj (hrefused.symm.trans hrefused')]
    | malformed haccepted => simp [hrefused] at haccepted
    | short haccepted => simp [hrefused] at haccepted
    | success haccepted => simp [hrefused] at haccepted
  | malformed haccepted hunread =>
    cases h' with
    | refused hrefused => simp [hrefused] at haccepted
    | malformed => rfl
    | short _ hread => exact absurd hread hunread
    | success _ hread => exact absurd hread hunread
  | short haccepted hread hcount =>
    cases h' with
    | refused hrefused => simp [hrefused] at haccepted
    | malformed _ hunread => exact absurd hread hunread
    | short => rfl
    | success _ _ hcount' => exact absurd hcount' hcount
  | success haccepted hread hcount =>
    cases h' with
    | refused hrefused => simp [hrefused] at haccepted
    | malformed _ hunread => exact absurd hread hunread
    | short _ _ hcount' => exact absurd hcount hcount'
    | success => rfl

/-- The ends of a body are told apart by their class and the kind of the failure. -/
theorem CutEnd.eq_of_kind {chunks' : List Bytes} {terminal terminal' : Terminal}
    (h : CutEnd expectedOutputTokenCount chunks terminal)
    (h' : CutEnd expectedOutputTokenCount chunks' terminal')
    (hkind : terminal.failure.map (·.1) = terminal'.failure.map (·.1)) : terminal = terminal' := by
  have hends : ∀ {chunks terminal}, CutEnd expectedOutputTokenCount chunks terminal →
      terminal = ⟨.success, none⟩ ∨ ∃ error, Refusal error ∧ terminal = error.terminal := by
    intro chunks terminal h
    cases h with
    | refused hrefused => exact .inr ⟨_, refusal_of_acceptFrames hrefused, rfl⟩
    | malformed _ _ error => exact .inr ⟨_, .sseProtocol error, rfl⟩
    | short _ _ _ error => exact .inr ⟨_, .fixtureToken error, rfl⟩
    | success => exact .inl rfl
  rcases hends h with rfl | ⟨error, herror, rfl⟩ <;>
    rcases hends h' with rfl | ⟨error', herror', rfl⟩
  · rfl
  · cases herror' <;> cases hkind
  · cases herror <;> cases hkind
  · cases herror <;> cases herror' <;> first | rfl | cases hkind

/-! ## Bodies that can be read -/

omit [Interpreter] in
/-- Where all chunks can be read, all their frames are delivered. -/
theorem deliveredAfter_of_feedAll {read : List Bytes} {frames more : List SSEFrame}
    {p q : IncrementalSSEParser} (h : Parsed read frames p)
    (hfeed : feedAll chunks p = (.ok more, q)) :
    deliveredAfter read frames chunks = frames ++ more := by
  induction chunks generalizing read frames more p with
  | nil =>
    obtain ⟨rfl, -⟩ : [] = more ∧ p = q := by simpa [feedAll] using hfeed
    rw [deliveredAfter, List.append_nil]
  | cons chunk chunks ih =>
    obtain ⟨f₁, t, f₂, hchunk, hchunks, rfl⟩ := feedAll_cons.mp hfeed
    have hparsed := h.feed hchunk
    rw [deliveredAfter, Parsed.framesOf hparsed]
    dsimp only
    rw [ih hparsed hchunks, List.append_assoc]

/-- The frames that two ways to cut a body deliver are accepted alike, and the body ends alike. -/
structure AcceptedAlike (expectedOutputTokenCount : ℕ) (chunks₁ chunks₂ : List Bytes) : Prop where
  evidence : (acceptFrames (delivered chunks₁)).1 = (acceptFrames (delivered chunks₂)).1
  ending : ∃ terminal, CutEnd expectedOutputTokenCount chunks₁ terminal ∧
    CutEnd expectedOutputTokenCount chunks₂ terminal

theorem AcceptedAlike.symm {chunks₁ chunks₂ : List Bytes}
    (h : AcceptedAlike expectedOutputTokenCount chunks₁ chunks₂) :
    AcceptedAlike expectedOutputTokenCount chunks₂ chunks₁ := by
  obtain ⟨hevidence, terminal, hend₁, hend₂⟩ := h
  exact ⟨hevidence.symm, terminal, hend₂, hend₁⟩

/-! ## Two ways to cut a body -/

omit [Interpreter] in
/-- The delivered frames are those of the chunks up to some point. -/
theorem exists_framesOf_deliveredAfter {read : List Bytes} {frames : List SSEFrame}
    (h : framesOf read = some frames) (chunks : List Bytes) :
    ∃ read', read' <+: read ++ chunks ∧
      framesOf read' = some (deliveredAfter read frames chunks) := by
  induction chunks generalizing read frames with
  | nil => exact ⟨read, by simp, h⟩
  | cons chunk chunks ih =>
    rw [deliveredAfter]
    cases hframes : framesOf (read ++ [chunk]) with
    | none => exact ⟨read, List.prefix_append _ _, h⟩
    | some frames' =>
      obtain ⟨read', hcommon, hread'⟩ := ih hframes
      rw [List.append_assoc, List.singleton_append] at hcommon
      exact ⟨read', hcommon, hread'⟩

omit [Interpreter] in
/-- The delivered frames are those of the first pieces of the collapsed octets. -/
theorem exists_readPieces_delivered (chunks : List Bytes) :
    ∃ ps done, ps <+: (pieces (collapse chunks.flatten)).1 ∧
      readPieces false ps = .ok (delivered chunks, done) := by
  obtain ⟨read, ⟨rest, hrest⟩, hframes⟩ :=
    exists_framesOf_deliveredAfter (Parsed.framesOf Parsed.start) chunks
  rw [List.nil_append] at hrest
  obtain ⟨⟨frames, done⟩, hread, hfirst⟩ := Option.map_eq_some_iff.mp hframes
  obtain rfl : frames = delivered chunks := hfirst
  have hparsed : Parsed read (delivered chunks) ⟨(pieces (settle read)).2, done⟩ :=
    ⟨ok_of_toOption hread, rfl⟩
  refine ⟨_, done, ?_, ok_of_toOption hread⟩
  rw [← hrest, List.flatten_append, hparsed.pieces_collapse]
  exact List.prefix_append _ _

omit [Interpreter] in
/-- The first pieces hold the first frames. -/
theorem frames_isPrefix {ps qs : List Bytes} {done done' : Bool} {frames more : List SSEFrame}
    (h : readPieces false ps = .ok (frames, done)) (h' : readPieces false qs = .ok (more, done'))
    (hcommon : ps <+: qs) : frames <+: more := by
  obtain ⟨rest, rfl⟩ := hcommon
  obtain ⟨f₁, d₁, f₂, h₁, -, rfl⟩ := readPieces_append.mp h'
  obtain ⟨rfl, -⟩ := Prod.mk.inj (Except.ok.inj (h.symm.trans h₁))
  exact List.prefix_append _ _

variable {body : Bytes} {chunks₁ chunks₂ : List Bytes}

omit [Interpreter] in
/-- **Of two ways to cut a body** one delivers the first frames of the other. -/
theorem delivered_isPrefix_or (hsplits₁ : Splits body chunks₁) (hsplits₂ : Splits body chunks₂) :
    delivered chunks₁ <+: delivered chunks₂ ∨ delivered chunks₂ <+: delivered chunks₁ := by
  obtain ⟨ps₁, d₁, hps₁, h₁⟩ := exists_readPieces_delivered chunks₁
  obtain ⟨ps₂, d₂, hps₂, h₂⟩ := exists_readPieces_delivered chunks₂
  rw [hsplits₁.flatten] at hps₁
  rw [hsplits₂.flatten] at hps₂
  rcases List.prefix_or_prefix_of_prefix hps₁ hps₂ with hcommon | hcommon
  · exact .inl (frames_isPrefix h₁ h₂ hcommon)
  · exact .inr (frames_isPrefix h₂ h₁ hcommon)

omit [Interpreter] in
/-- A body that can be read is delivered whole by timely chunks. -/
theorem delivered_of_timely (hlen : body.length ≤ maxSseBufferBytes) {frames : List SSEFrame}
    (hread : readPieces false (pieces (collapse body)).1 = .ok (frames, true))
    (hsplits₁ : Splits body chunks₁) (htimely : Timely chunks₁) : delivered chunks₁ = frames := by
  obtain ⟨rfl, hne⟩ := hsplits₁
  obtain ⟨q, hfeed, -⟩ := parseStream_apply.mp ((parseStream_eq_ok hne hlen).mpr ⟨hread, htimely⟩)
  exact deliveredAfter_of_feedAll Parsed.start hfeed

omit [Interpreter] in
/-- No way to cut a body delivers more than timely chunks of a body that can be read. -/
theorem delivered_isPrefix_of_timely (hlen : body.length ≤ maxSseBufferBytes)
    (hsplits₁ : Splits body chunks₁) (hsplits₂ : Splits body chunks₂)
    (hread : Readable chunks₁.flatten ∧ Timely chunks₁) :
    delivered chunks₂ <+: delivered chunks₁ := by
  obtain ⟨⟨frames, hframes⟩, htimely⟩ := hread
  rw [hsplits₁.flatten] at hframes
  obtain ⟨ps, done, hps, hdelivered⟩ := exists_readPieces_delivered chunks₂
  rw [hsplits₂.flatten] at hps
  rw [delivered_of_timely hlen hframes hsplits₁ htimely]
  exact frames_isPrefix hdelivered hframes hps

/-- When two ways to cut a body show the same of it, by the frames that are complete before the
first unreadable chunk. -/
inductive CutAlike (chunks₁ chunks₂ : List Bytes) : Prop
  /-- as many frames are complete and none of them is refused, and the chunks of a readable body are
  timely in both or in neither -/
  | carried (carried : ∀ frame ∈ delivered chunks₁, ∃ n, Carries frame n)
      (length : (delivered chunks₁).length = (delivered chunks₂).length)
      (timely : Readable chunks₁.flatten → (Timely chunks₁ ↔ Timely chunks₂))
  /-- the first frame that is refused is complete in both -/
  | refused {frames : List SSEFrame} {frame : SSEFrame}
      (carried : ∀ frame ∈ frames, ∃ n, Carries frame n) (refused : ∀ n, ¬ Carries frame n)
      (first : frames ++ [frame] <+: delivered chunks₁)
      (second : frames ++ [frame] <+: delivered chunks₂)
  /-- the first frame that is refused is misshapen, and the other chunks are unreadable from where
  it would be complete -/
  | unreadable₁ {frame : SSEFrame} (carried : ∀ frame ∈ delivered chunks₁, ∃ n, Carries frame n)
      (misshapen : Misshapen frame) (second : delivered chunks₁ ++ [frame] <+: delivered chunks₂)
  | unreadable₂ {frame : SSEFrame} (carried : ∀ frame ∈ delivered chunks₂, ∃ n, Carries frame n)
      (misshapen : Misshapen frame) (first : delivered chunks₂ ++ [frame] <+: delivered chunks₁)

theorem CutAlike.symm (hsplits₁ : Splits body chunks₁) (hsplits₂ : Splits body chunks₂)
    (h : CutAlike chunks₁ chunks₂) : CutAlike chunks₂ chunks₁ := by
  cases h with
  | carried hcarried hlength htimely =>
    have heq : delivered chunks₁ = delivered chunks₂ := by
      rcases delivered_isPrefix_or hsplits₁ hsplits₂ with hcommon | hcommon
      · exact hcommon.eq_of_length hlength
      · exact (hcommon.eq_of_length hlength.symm).symm
    refine .carried (heq ▸ hcarried) hlength.symm fun hread => (htimely ?_).symm
    rwa [hsplits₁.flatten, ← hsplits₂.flatten]
  | refused hcarried hrefused hfirst hsecond => exact .refused hcarried hrefused hsecond hfirst
  | unreadable₁ hcarried hmisshapen hsecond => exact .unreadable₂ hcarried hmisshapen hsecond
  | unreadable₂ hcarried hmisshapen hfirst => exact .unreadable₁ hcarried hmisshapen hfirst

/-- What is accepted of frames with one that is refused. -/
theorem acceptFrames_of_isPrefix {frames delivered : List SSEFrame} {frame : SSEFrame}
    {error : RequestError} (hcarried : ∀ frame ∈ frames, ∃ n, Carries frame n)
    (herror : frameEvidence frame = .error error) (hcommon : frames ++ [frame] <+: delivered) :
    acceptFrames delivered = ((acceptFrames frames).1, some error) := by
  obtain ⟨rest, rfl⟩ := hcommon
  rw [List.append_assoc, List.singleton_append, acceptFrames_append, accepted_iff.mpr hcarried]
  simp [acceptFrames, herror]

/-- The ends of a body that is read to its end, and of one that is not. -/
theorem CutEnd.read_iff {terminal : Terminal} (h : CutEnd expectedOutputTokenCount chunks terminal)
    (haccept : (acceptFrames (delivered chunks)).2 = none) :
    (Readable chunks.flatten ∧ Timely chunks) ↔
      ∀ error, terminal ≠ (RequestError.sseProtocol error).terminal := by
  cases h with
  | refused hrefused => cases hrefused.symm.trans haccept
  | malformed _ hunread error => exact iff_of_false hunread fun h => h error rfl
  | short _ hread _ error => exact iff_of_true hread fun _ h => by cases h
  | success _ hread _ => exact iff_of_true hread fun _ h => by cases h

/-- Where one way to cut a body delivers the first frames of another, they are accepted alike
exactly when they show the same. -/
theorem acceptedAlike_iff_of_isPrefix (hlen : body.length ≤ maxSseBufferBytes)
    (hsplits₁ : Splits body chunks₁) (hsplits₂ : Splits body chunks₂)
    (hcommon : delivered chunks₁ <+: delivered chunks₂) :
    AcceptedAlike expectedOutputTokenCount chunks₁ chunks₂ ↔ CutAlike chunks₁ chunks₂ := by
  have hend : ∃ terminal, CutEnd expectedOutputTokenCount chunks₁ terminal :=
    ⟨_, (cutEnd_streamTerminal hsplits₁.nonempty (hsplits₁.flatten ▸ hlen)).2⟩
  have hflatten : chunks₁.flatten = chunks₂.flatten :=
    hsplits₁.flatten.trans hsplits₂.flatten.symm
  -- what is left out by the first chunks is not read by them
  have hunread : ∀ {frame}, delivered chunks₁ ++ [frame] <+: delivered chunks₂ →
      ¬ (Readable chunks₁.flatten ∧ Timely chunks₁) := by
    intro frame hlonger hread
    have hshorter := (delivered_isPrefix_of_timely hlen hsplits₁ hsplits₂ hread).length_le
    have hlonger := hlonger.length_le
    simp only [List.length_append, List.length_singleton] at hlonger
    omega
  constructor
  · rintro ⟨hevidence, terminal, hend₁, hend₂⟩
    by_cases haccept : (acceptFrames (delivered chunks₁)).2 = none
    · have hcarried := accepted_iff.mp haccept
      obtain ⟨rest, hrest⟩ := hcommon
      cases rest with
      | nil =>
        rw [List.append_nil] at hrest
        refine .carried hcarried (by rw [hrest]) fun hreadable => ?_
        have hread := (hend₁.read_iff haccept).trans (hend₂.read_iff (hrest ▸ haccept)).symm
        rw [← hflatten] at hread
        simpa [hreadable] using hread
      | cons frame rest =>
        have hlonger : delivered chunks₁ ++ [frame] <+: delivered chunks₂ := by
          rw [← hrest]
          exact ⟨rest, by simp⟩
        cases hframe : frameEvidence frame with
        | ok evidence =>
          -- the frame would show in the evidence
          rw [← hrest, acceptFrames_append, haccept] at hevidence
          simp [acceptFrames, hframe] at hevidence
        | error error =>
          have haccept₂ := acceptFrames_of_isPrefix hcarried hframe hlonger
          obtain ⟨malformed, rfl⟩ : ∃ malformed,
              terminal = (RequestError.sseProtocol malformed).terminal := by
            by_contra hnot
            push Not at hnot
            exact hunread hlonger ((hend₁.read_iff haccept).mpr hnot)
          have herror := hend₂.unique (.refused (congrArg Prod.snd haccept₂))
          refine .unreadable₁ hcarried (misshapen_iff.mpr ?_) hlonger
          rw [hframe]
          cases refusal_of_frameEvidence hframe with
          | sseProtocol error => exact ⟨error, rfl⟩
          | fixtureToken => cases herror
          | other => cases herror
    · obtain ⟨error, herror⟩ := Option.ne_none_iff_exists'.mp haccept
      obtain ⟨frames, frame, rest, hdelivered, haccepted, -, hframe⟩ := exists_refused herror
      have hfirst : frames ++ [frame] <+: delivered chunks₁ := by
        rw [hdelivered]
        exact ⟨rest, by simp⟩
      exact .refused (accepted_iff.mp haccepted) (not_carries_iff.mpr ⟨error, hframe⟩) hfirst
        (hfirst.trans hcommon)
  · intro h
    cases h with
    | carried hcarried hlength htimely =>
      have heq := hcommon.eq_of_length hlength
      have haccept := accepted_iff.mpr hcarried
      obtain ⟨terminal, hterminal⟩ := hend
      have hread : Readable chunks₁.flatten ∧ Timely chunks₁ ↔
          Readable chunks₂.flatten ∧ Timely chunks₂ := by
        rw [← hflatten]
        exact and_congr_right htimely
      refine ⟨by rw [heq], terminal, hterminal, ?_⟩
      cases hterminal with
      | refused hrefused => cases hrefused.symm.trans haccept
      | malformed _ hunread error => exact .malformed (heq ▸ haccept) (mt hread.mpr hunread) error
      | short _ hread₁ hcount error =>
        exact .short (heq ▸ haccept) (hread.mp hread₁) (heq ▸ hcount) error
      | success _ hread₁ hcount => exact .success (heq ▸ haccept) (hread.mp hread₁) (heq ▸ hcount)
    | @refused frames frame hcarried hrefused hfirst hsecond =>
      obtain ⟨error, hframe⟩ := not_carries_iff.mp hrefused
      have haccept₁ := acceptFrames_of_isPrefix hcarried hframe hfirst
      have haccept₂ := acceptFrames_of_isPrefix hcarried hframe hsecond
      exact ⟨by rw [haccept₁, haccept₂], error.terminal, .refused (congrArg Prod.snd haccept₁),
        .refused (congrArg Prod.snd haccept₂)⟩
    | unreadable₁ hcarried hmisshapen hsecond =>
      obtain ⟨error, hframe⟩ := misshapen_iff.mp hmisshapen
      have haccept₂ := acceptFrames_of_isPrefix hcarried hframe hsecond
      exact ⟨by rw [haccept₂], (RequestError.sseProtocol error).terminal,
        .malformed (accepted_iff.mpr hcarried) (hunread hsecond) error,
        .refused (congrArg Prod.snd haccept₂)⟩
    | unreadable₂ _ _ hfirst =>
      have hlonger := hfirst.length_le
      have hshorter := hcommon.length_le
      simp only [List.length_append, List.length_singleton] at hlonger
      omega

/-- **Two ways to cut a body are accepted alike** exactly when they show the same. -/
theorem acceptedAlike_iff (hlen : body.length ≤ maxSseBufferBytes)
    (hsplits₁ : Splits body chunks₁) (hsplits₂ : Splits body chunks₂) :
    AcceptedAlike expectedOutputTokenCount chunks₁ chunks₂ ↔ CutAlike chunks₁ chunks₂ := by
  rcases delivered_isPrefix_or hsplits₁ hsplits₂ with hcommon | hcommon
  · exact acceptedAlike_iff_of_isPrefix hlen hsplits₁ hsplits₂ hcommon
  · have hiff := @acceptedAlike_iff_of_isPrefix _ expectedOutputTokenCount _ _ _ hlen hsplits₂
      hsplits₁ hcommon
    exact ⟨fun h => (hiff.mp h.symm).symm hsplits₂ hsplits₁,
      fun h => (hiff.mpr (h.symm hsplits₁ hsplits₂)).symm⟩

/-- A body that can be read is cut alike by all timely chunks. -/
theorem cutAlike_of_timely (hlen : body.length ≤ maxSseBufferBytes) (hread : Readable body)
    (hsplits₁ : Splits body chunks₁) (hsplits₂ : Splits body chunks₂) (htimely₁ : Timely chunks₁)
    (htimely₂ : Timely chunks₂) : CutAlike chunks₁ chunks₂ := by
  obtain ⟨frames, hframes⟩ := hread
  have hdelivered₁ := delivered_of_timely hlen hframes hsplits₁ htimely₁
  have hdelivered₂ := delivered_of_timely hlen hframes hsplits₂ htimely₂
  cases haccept : (acceptFrames frames).2 with
  | none =>
    refine .carried ?_ (by rw [hdelivered₁, hdelivered₂]) fun _ => iff_of_true htimely₁ htimely₂
    rw [hdelivered₁]
    exact accepted_iff.mp haccept
  | some error =>
    obtain ⟨accepted, frame, rest, rfl, haccepted, -, hframe⟩ := exists_refused haccept
    have hcommon : accepted ++ [frame] <+: accepted ++ frame :: rest := ⟨rest, by simp⟩
    exact .refused (accepted_iff.mp haccepted) (not_carries_iff.mpr ⟨error, hframe⟩)
      (hdelivered₁ ▸ hcommon) (hdelivered₂ ▸ hcommon)

/-! ## Two requests -/

/-- What two requests have in common that differ in how their bodies are cut. -/
structure SameOutcome (record₁ record₂ : Stage1RequestRecord)
    (observed₁ observed₂ : List StreamEvidenceRecord) : Prop where
  sse : (sseEvents observed₁).map (·.sseEvidence) = (sseEvents observed₂).map (·.sseEvidence)
  outputTokenCount : record₁.outputTokenCount = record₂.outputTokenCount
  tokenDeltas : record₁.tokenEventDeltaCounts = record₂.tokenEventDeltaCounts
  terminalClass : record₁.terminalClass = record₂.terminalClass
  failureKind : record₁.failure.map (·.kind) = record₂.failure.map (·.kind)

/-- A successful response that delivers a body in some chunks. -/
def successServer (status : ℕ) (chunks : List Bytes) : ServerBehaviour where
  status := .ok status
  chunks := chunks

variable {request : StreamingRequest} {status : ℕ}
  {record₁ record₂ : Stage1RequestRecord} {observed₁ observed₂ : List StreamEvidenceRecord}
  {terminal₁ terminal₂ : StreamEvidenceRecord}

/-- What a request returns whose body is cut in some way. -/
theorem Returned.cut (hsuccess : isSuccessStatus status = true)
    (hlen : body.length ≤ maxSseBufferBytes) (hsplits : Splits body chunks₁)
    (h : Returned request (successServer status chunks₁) record₁ observed₁ terminal₁) :
    (sseEvents observed₁).map (·.sseEvidence) = (acceptFrames (delivered chunks₁)).1 ∧
      record₁.tokenEventDeltaCounts =
        (acceptFrames (delivered chunks₁)).1.filterMap (·.tokenDeltaCount) ∧
      ∃ terminal, CutEnd request.case.expectedOutputTokenCount chunks₁ terminal ∧
        record₁.terminalClass = terminal.terminalClass ∧
        record₁.failure.map (·.kind) = terminal.failure.map (·.1) := by
  obtain ⟨hflatten, hne⟩ := hsplits
  obtain ⟨houtcome, -⟩ := @serverOutcome_of_success _ request.case.expectedOutputTokenCount
    (successServer status chunks₁) status rfl hsuccess
  obtain ⟨hevidence, hend⟩ := @cutEnd_streamTerminal _ request.case.expectedOutputTokenCount
    chunks₁ hne (hflatten ▸ hlen)
  have hsse := h.sse
  have hdeltas := h.tokenDeltas
  have hclass := h.terminalClass
  have hfailure := congrArg (Option.map Prod.fst) h.failure
  rw [houtcome] at hsse hdeltas hclass hfailure
  refine ⟨hsse.trans hevidence.symm, ?_, _, hend, hclass, ?_⟩
  · rw [hevidence]
    exact hdeltas
  · rw [Option.map_map] at hfailure
    exact hfailure

/-- When the outcomes of two requests are the same. -/
theorem Returned.sameOutcome_iff (hsuccess : isSuccessStatus status = true)
    (hlen : body.length ≤ maxSseBufferBytes) (hsplits₁ : Splits body chunks₁)
    (hsplits₂ : Splits body chunks₂)
    (h₁ : Returned request (successServer status chunks₁) record₁ observed₁ terminal₁)
    (h₂ : Returned request (successServer status chunks₂) record₂ observed₂ terminal₂) :
    SameOutcome record₁ record₂ observed₁ observed₂ ↔ CutAlike chunks₁ chunks₂ := by
  rw [← @acceptedAlike_iff _ request.case.expectedOutputTokenCount _ _ _ hlen hsplits₁ hsplits₂]
  obtain ⟨hsse₁, hdeltas₁, t₁, hend₁, hclass₁, hkind₁⟩ := h₁.cut hsuccess hlen hsplits₁
  obtain ⟨hsse₂, hdeltas₂, t₂, hend₂, hclass₂, hkind₂⟩ := h₂.cut hsuccess hlen hsplits₂
  have hcounted₁ := (Stage1RequestRecord.constraints_of_modelValidate h₁.valid).counted
  have hcounted₂ := (Stage1RequestRecord.constraints_of_modelValidate h₂.valid).counted
  constructor
  · intro h
    have hkind : t₁.failure.map (·.1) = t₂.failure.map (·.1) :=
      hkind₁.symm.trans (h.failureKind.trans hkind₂)
    refine ⟨hsse₁.symm.trans (h.sse.trans hsse₂), t₁, hend₁, ?_⟩
    rw [hend₁.eq_of_kind hend₂ hkind]
    exact hend₂
  · rintro ⟨hevidence, terminal, hend₁', hend₂'⟩
    obtain rfl := hend₁.unique hend₁'
    obtain rfl := hend₂.unique hend₂'
    have hdeltas : record₁.tokenEventDeltaCounts = record₂.tokenEventDeltaCounts := by
      rw [hdeltas₁, hdeltas₂, hevidence]
    exact ⟨hsse₁.trans (hevidence.trans hsse₂.symm), by rw [← hcounted₁, ← hcounted₂, hdeltas],
      hdeltas, hclass₁.trans hclass₂.symm, hkind₁.trans hkind₂.symm⟩

/-- **When two ways to cut a body come to the same outcome.** Of two requests with the same
successful body and whatever clocks, the evidence of the frames and the outcome are the same exactly
when as many frames, none of them refused, are complete before the first unreadable chunk and both
cuts are timely or neither is, or when both bring the first frame that is refused. -/
theorem executeStreamingRequest_cuts {clock₁ clock₂ : ℕ → ℤ} {runOriginNs₁ runOriginNs₂ : ℤ}
    (hprepared₁ : Prepared clock₁ request runOriginNs₁)
    (hprepared₂ : Prepared clock₂ request runOriginNs₂) (hpolicy : request.timeoutPolicy.IsPositive)
    {tokens : List Str} (hinput : parseInputTokens request.case.inputText = .ok tokens)
    (hsuccess : isSuccessStatus status = true) (hlen : body.length ≤ maxSseBufferBytes)
    (hsplits₁ : Splits body chunks₁) (hsplits₂ : Splits body chunks₂)
    {collector₁ collector₂ : EvidenceCollector} (horigin₁ : collector₁.runOriginNs = runOriginNs₁)
    (horigin₂ : collector₂.runOriginNs = runOriginNs₂) :
    ∃ record₁ observed₁ terminal₁ record₂ observed₂ terminal₂,
      executeStreamingRequest request clock₁ (successServer status chunks₁) collector₁ =
        (.ok record₁, { collector₁ with
          streamEvents := collector₁.streamEvents ++ observed₁ ++ [terminal₁] }) ∧
      executeStreamingRequest request clock₂ (successServer status chunks₂) collector₂ =
        (.ok record₂, { collector₂ with
          streamEvents := collector₂.streamEvents ++ observed₂ ++ [terminal₂] }) ∧
      (SameOutcome record₁ record₂ observed₁ observed₂ ↔ CutAlike chunks₁ chunks₂) := by
  -- a success status is one a record can hold
  have hstatus : ∀ chunks status', (successServer status chunks).status = .ok status' →
      100 ≤ status' ∧ status' ≤ 599 := by
    intro chunks status' h
    obtain rfl := Except.ok.inj h
    obtain ⟨hlow, hhigh⟩ := isSuccessStatus_iff.mp hsuccess
    omega
  -- each run returns, and the two records are compared
  obtain ⟨record₁, observed₁, terminal₁, hreturns₁, hreturned₁⟩ :=
    exists_returned hprepared₁ hpolicy hinput rfl rfl (hstatus chunks₁) horigin₁
  obtain ⟨record₂, observed₂, terminal₂, hreturns₂, hreturned₂⟩ :=
    exists_returned hprepared₂ hpolicy hinput rfl rfl (hstatus chunks₂) horigin₂
  exact ⟨record₁, observed₁, terminal₁, record₂, observed₂, terminal₂, hreturns₁, hreturns₂,
    hreturned₁.sameOutcome_iff hsuccess hlen hsplits₁ hsplits₂ hreturned₂⟩

end

/-! ### A token event before a field that is refused -/

section

attribute [local instance] cpython

/-- The octets of one event with two tokens. -/
def twoTokens : Bytes :=
  ascii "data: \x7b\"choices\":[\x7b\"text\":\"<t001><t002>\"\x7d]\x7d\n\n"

/-- A stream that ends well comes to one outcome, read at once or frame by frame. -/
theorem executeStreamingRequest_cuts_twoTokens :
    ∃ record₁ observed₁ terminal₁ record₂ observed₂ terminal₂,
      executeStreamingRequest sampleRequest (fun reads => reads)
          (successServer 200 [twoTokens ++ ascii "data: [DONE]\n\n"]) ⟨0, []⟩ =
        (.ok record₁, ⟨0, [] ++ observed₁ ++ [terminal₁]⟩) ∧
      executeStreamingRequest sampleRequest (fun reads => reads)
          (successServer 200 [twoTokens, ascii "data: [DONE]\n\n"]) ⟨0, []⟩ =
        (.ok record₂, ⟨0, [] ++ observed₂ ++ [terminal₂]⟩) ∧
      SameOutcome record₁ record₂ observed₁ observed₂ := by
  have hsplits₁ : Splits (twoTokens ++ ascii "data: [DONE]\n\n")
      [twoTokens ++ ascii "data: [DONE]\n\n"] := ⟨by simp, by decide +kernel⟩
  have hsplits₂ : Splits (twoTokens ++ ascii "data: [DONE]\n\n")
      [twoTokens, ascii "data: [DONE]\n\n"] := ⟨by simp, by decide +kernel⟩
  have hlen : (twoTokens ++ ascii "data: [DONE]\n\n").length ≤ maxSseBufferBytes := by
    decide +kernel
  obtain ⟨record₁, observed₁, terminal₁, record₂, observed₂, terminal₂, h₁, h₂, hsame⟩ :=
    executeStreamingRequest_cuts prepared_sampleRequest prepared_sampleRequest (by decide +kernel)
      (show parseInputTokens (lit "<p001>") = .ok [lit "<p001>"] by decide +kernel)
      (show isSuccessStatus 200 = true by decide) hlen hsplits₁ hsplits₂
      (show (⟨0, []⟩ : EvidenceCollector).runOriginNs = 0 from rfl)
      (show (⟨0, []⟩ : EvidenceCollector).runOriginNs = 0 from rfl)
  refine ⟨record₁, observed₁, terminal₁, record₂, observed₂, terminal₂, h₁, h₂, hsame.mpr ?_⟩
  have hread : ∀ {chunks}, Splits (twoTokens ++ ascii "data: [DONE]\n\n") chunks →
      (parseStream chunks).isOk = true →
      Readable (twoTokens ++ ascii "data: [DONE]\n\n") ∧ Timely chunks := by
    -- two cuts of a body that both parse: the body is readable, and the cut timely
    rintro chunks ⟨hflatten, hne⟩ hparse
    rw [← hflatten]
    refine (parseStream_iff hne (hflatten ▸ hlen)).mp ?_
    cases hstream : parseStream chunks with
    | error error => simp [hstream, Except.isOk, Except.toBool] at hparse
    | ok frames => exact ⟨frames, rfl⟩
  obtain ⟨hreadable, htimely₁⟩ := hread hsplits₁ (by decide +kernel)
  exact cutAlike_of_timely hlen hreadable hsplits₁ hsplits₂ htimely₁
    (hread hsplits₂ (by decide +kernel)).2

/-- With a field after it that is refused, the token event is recorded only when it is read
first. -/
theorem exists_cuts_not_sameOutcome :
    ∃ record₁ observed₁ terminal₁ record₂ observed₂ terminal₂,
      executeStreamingRequest sampleRequest (fun reads => reads)
          (successServer 200 [twoTokens ++ ascii "id: 1\n\n"]) ⟨0, []⟩ =
        (.ok record₁, ⟨0, [] ++ observed₁ ++ [terminal₁]⟩) ∧
      executeStreamingRequest sampleRequest (fun reads => reads)
          (successServer 200 [twoTokens, ascii "id: 1\n\n"]) ⟨0, []⟩ =
        (.ok record₂, ⟨0, [] ++ observed₂ ++ [terminal₂]⟩) ∧
      ¬ SameOutcome record₁ record₂ observed₁ observed₂ := by
  -- 200 is in range whatever the chunks are
  have hstatus : ∀ chunks status, (successServer 200 chunks).status = .ok status →
      100 ≤ status ∧ status ≤ 599 := by
    intro chunks status h
    obtain rfl := Except.ok.inj h
    norm_num
  have hreturns : ∀ chunks, ∃ record observed terminal,
      executeStreamingRequest sampleRequest (fun reads => reads) (successServer 200 chunks)
          ⟨0, []⟩ = (.ok record, ⟨0, [] ++ observed ++ [terminal]⟩) ∧
        Returned sampleRequest (successServer 200 chunks) record observed terminal := fun chunks =>
    exists_returned prepared_sampleRequest (by decide +kernel)
      (show parseInputTokens (lit "<p001>") = .ok [lit "<p001>"] by decide +kernel) rfl rfl
      (hstatus chunks) rfl
  obtain ⟨record₁, observed₁, terminal₁, h₁, hreturned₁⟩ :=
    hreturns [twoTokens ++ ascii "id: 1\n\n"]
  obtain ⟨record₂, observed₂, terminal₂, h₂, hreturned₂⟩ :=
    hreturns [twoTokens, ascii "id: 1\n\n"]
  refine ⟨record₁, observed₁, terminal₁, record₂, observed₂, terminal₂, h₁, h₂, fun h => ?_⟩
  -- equal outcomes would have equal SSE evidence, but the first cut loses both tokens
  have hsse := hreturned₁.sse.symm.trans (h.sse.trans hreturned₂.sse)
  revert hsse
  decide +kernel

end

end Stage1
