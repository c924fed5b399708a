import LlmInferenceSystems.Sse.Chunking
import LlmInferenceSystems.Stage1.HonestRecords

/-!
# Bodies that are read twice alike

The validation reads the chunks of a body once more. It refuses a `[DONE]` without success, wants a
malformed stream to be malformed again, and takes payloads that the execution refuses. Which records
it accepts is therefore said by the body and by how its reading was interrupted.

## Main definitions

* `Retraced`: a body whose records are accepted
* `BodyStop`: where the execution stops reading a body

## Main results

* `seenAgain_iff_retraced`: when the validation sees what the execution saw
* `executeStreamingRequest_validates`: when the records of an executed request are validated
-/

namespace Stage1

open Python Sse IncrementalSSEParser

/-- A body that the execution and the validation read alike, by the chunks that are not empty and
what interrupts them. -/
inductive Retraced [Interpreter] (expectedOutputTokenCount : ℕ) (ending : Option Interruption)
    (chunks : List Bytes) : Prop
  /-- all chunks are read, and `[DONE]` is not among their frames -/
  | unfinished {frames : List SSEFrame} {parser : IncrementalSSEParser}
      (fed : feedAll chunks {} = (.ok frames, parser))
      (carried : ∀ frame ∈ frames, ∃ n, Carries frame n)
      (unmarked : ∀ frame ∈ frames, frame.kind ≠ .done)
  /-- a stream that ends well, with as many tokens as the case expects -/
  | finished {frames : List SSEFrame} {counts : List ℕ} (ended : ending = none)
      (parsed : parseStream chunks = .ok frames) (carried : List.Forall₂ Carries frames counts)
      (count : counts.sum = expectedOutputTokenCount)
  /-- the parser refuses a chunk, and `[DONE]` is not among the frames before it -/
  | unreadable {before after : List Bytes} {chunk : Bytes} {frames : List SSEFrame}
      {parser : IncrementalSSEParser} (split : chunks = before ++ chunk :: after)
      (fed : feedAll before {} = (.ok frames, parser))
      (carried : ∀ frame ∈ frames, ∃ n, Carries frame n)
      (unmarked : ∀ frame ∈ frames, frame.kind ≠ .done)
      (refused : ∀ more, (feed chunk parser).1 ≠ .ok more)
  /-- a chunk brings the first payload that the execution refuses, and the validation refuses one
  in it as well -/
  | refused {before after : List Bytes} {chunk : Bytes} {frames more shown rest : List SSEFrame}
      {frame : SSEFrame} {parser parser' : IncrementalSSEParser}
      (split : chunks = before ++ chunk :: after) (fed : feedAll before {} = (.ok frames, parser))
      (carried : ∀ frame ∈ frames, ∃ n, Carries frame n)
      (read : feed chunk parser = (.ok more, parser'))
      (first : ∃ frame ∈ more, ∀ n, ¬ Carries frame n) (stop : more = shown ++ frame :: rest)
      (shown : ∀ frame ∈ shown, Shows frame) (hidden : ¬ Shows frame) (shallow : ¬ TooDeep frame)
  /-- a chunk brings the first payload that the execution refuses, the validation takes all of its
  payloads, and the stream up to it does not end well -/
  | shown {before after : List Bytes} {chunk : Bytes} {frames more : List SSEFrame}
      {parser parser' : IncrementalSSEParser} (split : chunks = before ++ chunk :: after)
      (fed : feedAll before {} = (.ok frames, parser))
      (carried : ∀ frame ∈ frames, ∃ n, Carries frame n)
      (read : feed chunk parser = (.ok more, parser'))
      (first : ∃ frame ∈ more, ∀ n, ¬ Carries frame n) (shown : ∀ frame ∈ more, Shows frame)
      (unended : ∀ frames, parseStream (before ++ [chunk]) ≠ .ok frames)

/-- The body of a successful response is read alike twice; other bodies are read once. -/
def ServerBehaviour.Retraced [Interpreter] (server : ServerBehaviour)
    (expectedOutputTokenCount : ℕ) : Prop :=
  ∀ status, server.status = .ok status → isSuccessStatus status = true →
    Stage1.Retraced expectedOutputTokenCount server.ending (server.chunks.filter (· ≠ []))

section

variable [Interpreter]

/-! ## Frames that are taken -/

section

variable {frames more : List SSEFrame}

theorem accepted_iff :
    (acceptFrames frames).2 = none ↔ ∀ frame ∈ frames, ∃ n, Carries frame n := by
  induction frames with
  | nil => simp [acceptFrames]
  | cons frame frames ih =>
    rw [List.forall_mem_cons, ← ih, acceptFrames]
    cases hevidence : frameEvidence frame with
    | error error =>
      have hnot := not_carries_iff.mpr ⟨error, hevidence⟩
      simp [hnot]
    | ok evidence =>
      have hcarries : ∃ n, Carries frame n := ⟨_, carries_iff.mpr ⟨evidence, hevidence, rfl⟩⟩
      simp [hcarries]

/-- The validation takes what the execution accepts. -/
theorem shows_of_accepted (haccept : (acceptFrames frames).2 = none) :
    ∀ frame ∈ frames, Shows frame := by
  intro frame hframe
  obtain ⟨n, hcarries⟩ := accepted_iff.mp haccept frame hframe
  exact hcarries.shows

/-- The tokens that some frames deliver. -/
theorem sum_of_carries {counts : List ℕ} (h : List.Forall₂ Carries frames counts) :
    (countsOf (acceptFrames frames).1).sum = counts.sum := by
  induction h with
  | nil => rfl
  | cons hcarries _ ih =>
    obtain ⟨evidence, hevidence, rfl⟩ := carries_iff.mp hcarries
    rw [countsOf] at ih ⊢
    simp only [acceptFrames, hevidence, List.sum_cons]
    cases hcount : evidence.tokenDeltaCount with
    | none => simp [hcount, ih]
    | some count => simp [hcount, ih]

theorem carried_of_forall₂ {counts : List ℕ} (h : List.Forall₂ Carries frames counts) :
    ∀ frame ∈ frames, ∃ n, Carries frame n := by
  induction h with
  | nil => simp
  | cons hcarries _ ih => exact List.forall_mem_cons.mpr ⟨⟨_, hcarries⟩, ih⟩

theorem exists_carries (h : ∀ frame ∈ frames, ∃ n, Carries frame n) :
    ∃ counts, List.Forall₂ Carries frames counts := by
  induction frames with
  | nil => exact ⟨[], .nil⟩
  | cons frame frames ih =>
    obtain ⟨⟨n, hframe⟩, hframes⟩ := List.forall_mem_cons.mp h
    obtain ⟨counts, hcounts⟩ := ih hframes
    exact ⟨n :: counts, .cons hframe hcounts⟩

/-- A frame that the execution refuses is among those of a chunk that it refuses. -/
theorem refused_iff :
    (∃ error, (acceptFrames frames).2 = some error) ↔ ∃ frame ∈ frames, ∀ n, ¬ Carries frame n := by
  rw [← Option.ne_none_iff_exists', ne_eq, accepted_iff]
  push Not
  rfl

omit [Interpreter] in
/-- `[DONE]` is not among the frames. -/
theorem doneFrames_eq_zero : doneFrames frames = 0 ↔ ∀ frame ∈ frames, frame.kind ≠ .done := by
  simp [doneFrames]

/-- The frames that are accepted with `[DONE]`. -/
theorem doneCount_eq_zero (haccept : (acceptFrames frames).2 = none) :
    doneCount (acceptFrames frames).1 = 0 ↔ ∀ frame ∈ frames, frame.kind ≠ .done := by
  rw [doneCount_of_accepted haccept, doneFrames_eq_zero]

theorem replayFrames_eq_ok :
    (∃ shapes, replayFrames frames = .ok shapes) ↔ ∀ frame ∈ frames, Shows frame := by
  induction frames with
  | nil => simp [replayFrames]
  | cons frame frames ih =>
    rw [List.forall_mem_cons, ← ih, shows_iff, replayFrames]
    cases replayFrame frame with
    | error error => simp
    | ok shapes => cases replayFrames frames <;> simp [Except.map]

/-- The validation is stopped by the first frame it does not take, unless that one is too deep. -/
theorem replayFrames_eq_caught : replayFrames frames = .error .caught ↔
    ∃ shown frame rest, frames = shown ++ frame :: rest ∧ (∀ f ∈ shown, Shows f) ∧
      ¬ Shows frame ∧ ¬ TooDeep frame := by
  induction frames with
  | nil => simp [replayFrames]
  | cons frame frames ih =>
    rw [replayFrames]
    constructor
    · intro h
      -- the first frame is refused itself, or one of the frames after it is
      cases hframe : replayFrame frame with
      | error error =>
        rw [hframe] at h
        obtain rfl : error = .caught := by simpa using h
        obtain ⟨hshows, htooDeep⟩ := replayFrame_eq_caught.mp hframe
        exact ⟨[], frame, frames, rfl, by simp, hshows, htooDeep⟩
      | ok shapes =>
        rw [hframe] at h
        -- this frame shows something, so the refusal comes from the others
        have hframes : replayFrames frames = .error .caught := by
          cases hframes : replayFrames frames with
          | error error => simpa [hframes, Except.map] using h
          | ok more => simp [hframes, Except.map] at h
        obtain ⟨shown, stop, rest, rfl, hshown, hstop⟩ := ih.mp hframes
        refine ⟨frame :: shown, stop, rest, rfl, ?_, hstop⟩
        exact List.forall_mem_cons.mpr ⟨shows_iff.mpr ⟨shapes, hframe⟩, hshown⟩
    · rintro ⟨shown, stop, rest, heq, hshown, hstop⟩
      cases shown with
      -- nothing is shown before the refused frame: it is the first
      | nil =>
        obtain ⟨rfl, rfl⟩ := List.cons.inj heq
        rw [replayFrame_eq_caught.mpr hstop]
      | cons first shown =>
        obtain ⟨rfl, rfl⟩ := List.cons.inj heq
        obtain ⟨hfirst, hshown⟩ := List.forall_mem_cons.mp hshown
        obtain ⟨shapes, hshapes⟩ := shows_iff.mp hfirst
        rw [hshapes, ih.mpr ⟨shown, stop, rest, rfl, hshown, hstop⟩]
        rfl

theorem replayFrames_append (frames more : List SSEFrame) :
    replayFrames (frames ++ more) =
      match replayFrames frames with
      | .error error => .error error
      | .ok shapes => (replayFrames more).map (shapes ++ ·) := by
  induction frames with
  | nil => cases hmore : replayFrames more <;> simp [replayFrames, hmore, Except.map]
  | cons frame frames ih =>
    rw [List.cons_append, replayFrames, replayFrames]
    cases replayFrame frame with
    | error error => rfl
    | ok first =>
      dsimp only
      rw [ih]
      cases replayFrames frames with
      | error error => rfl
      | ok shapes => cases replayFrames more <;> simp [Except.map]

end

/-! ## The second reading of a body -/

section

variable {chunks before after : List Bytes} {chunk : Bytes} {frames more : List SSEFrame}
  {parser parser' : IncrementalSSEParser}

/-- Chunks that the parser reads are read as their frames are. -/
theorem replayChunks_of_feedAll (hfed : feedAll chunks parser = (.ok frames, parser')) :
    (replayChunks chunks parser).1 = replayFrames frames ∧
      ∀ shapes, replayFrames frames = .ok shapes → (replayChunks chunks parser).2 = parser' := by
  induction chunks generalizing parser frames with
  | nil =>
    obtain ⟨rfl, rfl⟩ : [] = frames ∧ parser = parser' := by simpa [feedAll] using hfed
    exact ⟨rfl, fun _ _ => rfl⟩
  | cons chunk chunks ih =>
    obtain ⟨f₁, p, f₂, hfeed, hrest, rfl⟩ := feedAll_cons.mp hfed
    obtain ⟨hresult, hparser⟩ := ih hrest
    rw [replayChunks_of_feed hfeed, replayFrames_append]
    cases replayFrames f₁ with
    | error error => exact ⟨rfl, fun shapes h => by cases h⟩
    | ok shapes =>
      dsimp only
      rw [← hresult]
      rw [← hresult] at hparser
      rcases hreplayed : replayChunks chunks p with ⟨error | more, q⟩
      · exact ⟨rfl, fun shapes h => by cases h⟩
      · rw [hreplayed] at hparser
        exact ⟨rfl, fun _ _ => hparser more rfl⟩

/-- A chunk that the parser refuses after frames that are taken stops the replay. -/
theorem replayChunks_of_unreadable (hfed : feedAll before parser = (.ok frames, parser'))
    (hshown : ∀ frame ∈ frames, Shows frame) (hrefused : ∀ more, (feed chunk parser').1 ≠ .ok more) :
    (replayChunks (before ++ chunk :: after) parser).1 = .error .caught := by
  induction before generalizing parser frames with
  | nil =>
    obtain ⟨rfl, rfl⟩ : [] = frames ∧ parser = parser' := by simpa [feedAll] using hfed
    rcases hfeed : feed chunk parser with ⟨error | more, q⟩
    · have hcall : Method.onField id (fun parser _ => parser) (fun _ => ReplayError.caught)
          (feed chunk) parser = (.error .caught, q) := by
        rw [Method.onField, id_eq, hfeed]
      rw [List.nil_append, replayChunks, Method.bind_error hcall]
    · exact absurd (congrArg Prod.fst hfeed) (hrefused more)
  | cons first before ih =>
    obtain ⟨f₁, p, f₂, hfeed, hrest, rfl⟩ := feedAll_cons.mp hfed
    obtain ⟨hf₁, hf₂⟩ := List.forall_mem_append.mp hshown
    obtain ⟨shapes, hshapes⟩ := replayFrames_eq_ok.mpr hf₁
    rw [List.cons_append, replayChunks_of_feed hfeed, hshapes]
    dsimp only
    rw [Method.eq_mk_snd (ih hrest hf₂)]

/-- The replay of chunks that the parser reads: it is stopped where a frame is not taken, and else
is caught when the stream does not end well. -/
theorem replay_of_feedAll (hfed : feedAll chunks {} = (.ok frames, parser)) :
    ((replay chunks).1 = .error .caught ↔ replayFrames frames = .error .caught ∨
      (∀ frame ∈ frames, Shows frame) ∧ ∀ frames, parseStream chunks ≠ .ok frames) ∧
    ∀ error, (replay chunks).1 = .error (.raised error) ↔
      replayFrames frames = .error (.raised error) := by
  obtain ⟨hresult, hparser⟩ := replayChunks_of_feedAll hfed
  rw [← replayFrames_eq_ok]
  -- a frame that cannot be replayed ends the replay, whatever the parser would have said
  cases hframes : replayFrames frames with
  | error error =>
    rw [hframes] at hresult
    rw [replay_of_error (Method.eq_mk_snd hresult)]
    simp
  | ok shapes =>
    have hread : replayChunks chunks {} = (.ok shapes, parser) :=
      Prod.ext (hresult.trans hframes) (hparser shapes hframes)
    -- every frame shows something, so only the end of the stream is left to fail
    have hparse : (∃ frames, parseStream chunks = .ok frames) ↔
        ∃ q, finalize parser = (.ok (), q) := by
      constructor
      · rintro ⟨frames', hframes'⟩
        obtain ⟨q, hfed', hlast, hdone⟩ := parseStream_apply.mp hframes'
        obtain ⟨-, rfl⟩ := Prod.mk.inj (hfed.symm.trans hfed')
        exact ⟨parser, finalize_eq_ok.mpr ⟨hlast, hdone, rfl⟩⟩
      · rintro ⟨q, hfinalize⟩
        obtain ⟨hlast, hdone, -⟩ := finalize_eq_ok.mp hfinalize
        exact ⟨frames, parseStream_apply.mpr ⟨parser, hfed, hlast, hdone⟩⟩
    -- `finalize` fails in the replay exactly when it does in `parse_stream`
    rw [← not_exists, hparse, replay_of_ok hread]
    rcases finalize parser with ⟨error | ⟨⟩, q⟩
    · simp [Except.mapError, bind, Except.bind]
    · simp [Except.mapError, bind, Except.bind]

end

/-! ## Where the execution stops -/

section

variable {ending : Option Interruption} {chunks before after : List Bytes} {chunk : Bytes}
  {frames more : List SSEFrame} {parser parser' : IncrementalSSEParser}

/-- Empty chunks are not read. -/
theorem readBody_filter (parser : IncrementalSSEParser) (chunks : List Bytes) :
    readBody ending parser (chunks.filter (· ≠ [])) = readBody ending parser chunks := by
  induction chunks generalizing parser with
  | nil => rfl
  | cons chunk chunks ih =>
    rcases eq_or_ne chunk [] with rfl | hne
    · rw [readBody_skip, ← ih]
      rfl
    · rw [List.filter_cons_of_pos (by simpa using hne), readBody, readBody, if_neg hne, if_neg hne]
      simp only [ih]

/-- Chunks whose frames are all accepted are read first. -/
theorem readBody_append (hne : ∀ chunk ∈ before, chunk ≠ [])
    (hfed : feedAll before parser = (.ok frames, parser'))
    (haccept : (acceptFrames frames).2 = none) (chunks : List Bytes) :
    readBody ending parser (before ++ chunks) =
      ⟨before ++ (readBody ending parser' chunks).rawChunks,
        (acceptFrames frames).1 ++ (readBody ending parser' chunks).evidence,
        (readBody ending parser' chunks).result⟩ := by
  induction before generalizing parser frames with
  | nil =>
    obtain ⟨rfl, rfl⟩ : [] = frames ∧ parser = parser' := by simpa [feedAll] using hfed
    rfl
  | cons chunk before ih =>
    obtain ⟨hchunk, hbefore⟩ := List.forall_mem_cons.mp hne
    obtain ⟨f₁, p, f₂, hfeed, hrest, rfl⟩ := feedAll_cons.mp hfed
    obtain ⟨hf₁, hf₂⟩ := List.forall_mem_append.mp (accepted_iff.mp haccept)
    have haccept₁ := accepted_iff.mpr hf₁
    rw [List.cons_append, readBody_accepted hchunk hfeed haccept₁,
      ih hbefore hrest (accepted_iff.mpr hf₂), acceptFrames_append, haccept₁]
    simp

/-- Where the execution stops reading the chunks of a body: after the last, at one that the parser
refuses, or in one with a frame that is refused. -/
inductive BodyStop (parser : IncrementalSSEParser) (chunks : List Bytes) : Prop
  | read {frames : List SSEFrame} {parser' : IncrementalSSEParser}
      (fed : feedAll chunks parser = (.ok frames, parser'))
      (accepted : (acceptFrames frames).2 = none)
  | unreadable {before after : List Bytes} {chunk : Bytes} {frames : List SSEFrame}
      {parser' : IncrementalSSEParser} (split : chunks = before ++ chunk :: after)
      (fed : feedAll before parser = (.ok frames, parser'))
      (accepted : (acceptFrames frames).2 = none)
      (refused : ∀ more, (feed chunk parser').1 ≠ .ok more)
  | refused {before after : List Bytes} {chunk : Bytes} {frames more : List SSEFrame}
      {parser' parser'' : IncrementalSSEParser} (split : chunks = before ++ chunk :: after)
      (fed : feedAll before parser = (.ok frames, parser'))
      (accepted : (acceptFrames frames).2 = none)
      (read : feed chunk parser' = (.ok more, parser''))
      (refused : ∃ error, (acceptFrames more).2 = some error)

/-- **The execution stops somewhere.** -/
theorem bodyStop (parser : IncrementalSSEParser) (chunks : List Bytes) :
    BodyStop parser chunks := by
  have hnil : ∀ p, feedAll [] p = (.ok [], p) := fun _ => rfl
  induction chunks generalizing parser with
  | nil => exact .read (hnil parser) rfl
  | cons chunk chunks ih =>
    rcases hfeed : feed chunk parser with ⟨error | frames, p⟩
    · refine .unreadable (List.nil_append _).symm (hnil parser) rfl fun more h => ?_
      rw [hfeed] at h
      cases h
    · cases haccept : (acceptFrames frames).2 with
      | some error =>
        exact .refused (List.nil_append _).symm (hnil parser) rfl hfeed ⟨error, haccept⟩
      | none =>
        -- the frames of the chunk come before those of the others
        have hcons : ∀ {chunks : List Bytes} {fs : List SSEFrame} {q : IncrementalSSEParser},
            feedAll chunks p = (.ok fs, q) → (acceptFrames fs).2 = none →
            feedAll (chunk :: chunks) parser = (.ok (frames ++ fs), q) ∧
              (acceptFrames (frames ++ fs)).2 = none := by
          intro chunks fs q hfed haccepted
          refine ⟨feedAll_cons.mpr ⟨frames, p, fs, hfeed, hfed, rfl⟩, ?_⟩
          rw [acceptFrames_append, haccept]
          exact haccepted
        cases ih p with
        | read hfed haccepted => exact .read (hcons hfed haccepted).1 (hcons hfed haccepted).2
        | unreadable hsplit hfed haccepted hrefused =>
          exact .unreadable (by rw [hsplit, List.cons_append]) (hcons hfed haccepted).1
            (hcons hfed haccepted).2 hrefused
        | refused hsplit hfed haccepted hread hrefused =>
          exact .refused (by rw [hsplit, List.cons_append]) (hcons hfed haccepted).1
            (hcons hfed haccepted).2 hread hrefused

/-! ## What the validation sees -/

variable {httpStatus : Option ℕ} {raw : List Bytes} {evidence : List SseEvidence}

/-- A failure of an error is seen again when `[DONE]` was not accepted, a malformed stream is
malformed again, and an exception that was not expected is not let through. -/
theorem reproducible_error_iff (hreplay : replayOf httpStatus = replay) {error : RequestError} :
    Reproducible httpStatus ⟨raw, evidence, error.terminal⟩ ↔ doneCount evidence = 0 ∧
      ((∃ malformed, error = .sseProtocol malformed) → (replay raw).1 = .error .caught) ∧
      ((∃ unexpected, error = .other unexpected) →
        ∀ raised, (replay raw).1 ≠ .error (.raised raised)) := by
  constructor
  · rintro ⟨hdone, hmalformed, hunexpected⟩
    rw [hreplay] at hmalformed hunexpected
    refine ⟨hdone, ?_, ?_⟩
    · rintro ⟨malformed, rfl⟩
      exact hmalformed ⟨_, rfl, rfl⟩
    · rintro ⟨unexpected, rfl⟩
      exact hunexpected ⟨_, rfl, rfl⟩
  · rintro ⟨hdone, hmalformed, hunexpected⟩
    refine ⟨hdone, ?_, ?_⟩ <;> rw [hreplay] <;> rintro ⟨failure, hfailure, hkind⟩
    · refine hmalformed ?_
      cases error with
      | sseProtocol malformed => exact ⟨malformed, rfl⟩
      | _ => obtain rfl := Option.some.inj hfailure; cases hkind
    · refine hunexpected ?_
      cases error with
      | other unexpected => exact ⟨unexpected, rfl⟩
      | _ => obtain rfl := Option.some.inj hfailure; cases hkind

omit [Interpreter] in
theorem terminalClass_ne_success (error : RequestError) :
    error.terminal.terminalClass ≠ .success := by
  cases error <;> simp [RequestError.terminal]

/-- What a request comes to whose body was read in some way. -/
def bodyOutcome (expectedOutputTokenCount : ℕ) (reading : BodyReading) : Outcome :=
  ⟨reading.rawChunks, reading.evidence, streamTerminal expectedOutputTokenCount reading⟩

/-- The records of an outcome are validated. -/
def SeenAgain (httpStatus : Option ℕ) (outcome : Outcome) : Prop :=
  outcome.terminal.terminalClass = .success ∨ Reproducible httpStatus outcome

variable {expectedOutputTokenCount : ℕ}

theorem seenAgain_error_iff {reading : BodyReading} (error : RequestError)
    (hresult : reading.result = .error error) :
    SeenAgain httpStatus (bodyOutcome expectedOutputTokenCount reading) ↔
      Reproducible httpStatus ⟨reading.rawChunks, reading.evidence, error.terminal⟩ := by
  unfold SeenAgain bodyOutcome
  rw [streamTerminal, hresult]
  exact or_iff_right (terminalClass_ne_success error)

/-- A body that is read to its end, with all frames accepted. -/
theorem seenAgain_read_iff (hreplay : replayOf httpStatus = replay)
    (hne : ∀ chunk ∈ chunks, chunk ≠ []) (hfed : feedAll chunks {} = (.ok frames, parser))
    (haccept : (acceptFrames frames).2 = none) :
    SeenAgain httpStatus (bodyOutcome expectedOutputTokenCount (readBody ending {} chunks)) ↔
      (∀ frame ∈ frames, frame.kind ≠ .done) ∨ ending = none ∧
        (∃ frames, parseStream chunks = .ok frames) ∧
        (countsOf (acceptFrames frames).1).sum = expectedOutputTokenCount := by
  have hshows := shows_of_accepted haccept
  obtain ⟨hcaught, hraised⟩ := replay_of_feedAll hfed
  -- frames that were accepted show something, so nothing is raised while they are replayed
  have hnotRaised : ∀ error, (replay chunks).1 ≠ .error (.raised error) := by
    intro error h
    obtain ⟨shapes, hshapes⟩ := replayFrames_eq_ok.mpr hshows
    cases hshapes.symm.trans ((hraised error).mp h)
  -- the body is read to its last chunk
  have hreading : readBody ending {} chunks =
      ⟨chunks, (acceptFrames frames).1, bodyEnd ending parser⟩ := by
    have happend := @readBody_append _ ending _ _ _ _ hne hfed haccept []
    simpa [readBody] using happend
  rw [hreading, ← doneCount_eq_zero haccept]
  cases ending with
  -- an interruption that was raised is seen again when no [DONE] frame was read
  | some interruption =>
    rw [seenAgain_error_iff interruption.error rfl, reproducible_error_iff hreplay]
    have hmalformed : ¬ ∃ malformed, interruption.error = .sseProtocol malformed := by
      rintro ⟨malformed, h⟩
      cases interruption <;> cases h
    simp [hmalformed, hnotRaised]
  | none =>
    rcases hfinalize : finalize parser with ⟨error | ⟨⟩, q⟩
    · -- the stream does not end well, and does not do so the second time
      have hunended : ∀ frames, parseStream chunks ≠ .ok frames := by
        intro frames' h
        obtain ⟨p, hfed', hlast, hdone⟩ := parseStream_apply.mp h
        obtain ⟨-, rfl⟩ := Prod.mk.inj (hfed.symm.trans hfed')
        cases (finalize_eq_ok.mpr ⟨hlast, hdone, rfl⟩).symm.trans hfinalize
      have houtcome : bodyOutcome expectedOutputTokenCount
          ⟨chunks, (acceptFrames frames).1, bodyEnd none parser⟩ =
          ⟨chunks, (acceptFrames frames).1, (RequestError.sseProtocol error).terminal⟩ := by
        simp [bodyOutcome, streamTerminal, bodyEnd, hfinalize]
      rw [houtcome, SeenAgain, or_iff_right (terminalClass_ne_success _),
        reproducible_error_iff hreplay]
      simp [hcaught.mpr (.inr ⟨hshows, hunended⟩), hunended]
    -- the stream ends well, so the counts decide between success and a difference from the case
    · obtain ⟨hlast, hdone, -⟩ := finalize_eq_ok.mp hfinalize
      have hended : ∃ frames, parseStream chunks = .ok frames :=
        ⟨frames, parseStream_apply.mpr ⟨parser, hfed, hlast, hdone⟩⟩
      by_cases hcount : (countsOf (acceptFrames frames).1).sum = expectedOutputTokenCount
      · refine iff_of_true (.inl ?_) (.inr ⟨rfl, hended, hcount⟩)
        rw [countsOf] at hcount
        simp [bodyOutcome, streamTerminal, bodyEnd, hfinalize, hcount]
      · have houtcome : bodyOutcome expectedOutputTokenCount
            ⟨chunks, (acceptFrames frames).1, bodyEnd none parser⟩ =
            ⟨chunks, (acceptFrames frames).1, (RequestError.fixtureToken
              ⟨"fixture output count differs from the declared case"⟩).terminal⟩ := by
          rw [countsOf] at hcount
          simp [bodyOutcome, streamTerminal, bodyEnd, hfinalize, hcount]
        rw [houtcome, SeenAgain, or_iff_right (terminalClass_ne_success _),
          reproducible_error_iff hreplay]
        simp [hcount]

/-- A body with a chunk that the parser refuses. -/
theorem seenAgain_unreadable_iff (hreplay : replayOf httpStatus = replay)
    (hne : ∀ c ∈ before ++ chunk :: after, c ≠ [])
    (hfed : feedAll before {} = (.ok frames, parser)) (haccept : (acceptFrames frames).2 = none)
    (hrefused : ∀ more, (feed chunk parser).1 ≠ .ok more) :
    SeenAgain httpStatus (bodyOutcome expectedOutputTokenCount
        (readBody ending {} (before ++ chunk :: after))) ↔
      ∀ frame ∈ frames, frame.kind ≠ .done := by
  obtain ⟨hbefore, hchunk⟩ := List.forall_mem_append.mp hne
  have hshows := shows_of_accepted haccept
  rcases hfeed : feed chunk parser with ⟨error | more, q⟩
  · have hreading := @readBody_append _ ending _ _ _ _ hbefore hfed haccept (chunk :: after)
    rw [readBody_raised (hchunk chunk (by simp)) hfeed, List.append_nil] at hreading
    rw [hreading, seenAgain_error_iff (.sseProtocol error) rfl,
      reproducible_error_iff hreplay, ← doneCount_eq_zero haccept]
    have hcaught := @replayChunks_of_unreadable _ before [] chunk _ _ _ hfed hshows hrefused
    simp [replay_of_error (Method.eq_mk_snd hcaught)]
  · exact absurd (congrArg Prod.fst hfeed) (hrefused more)

/-- A body with a chunk that brings a frame which is refused. -/
theorem seenAgain_refused_iff (hreplay : replayOf httpStatus = replay)
    (hne : ∀ c ∈ before ++ chunk :: after, c ≠ [])
    (hfed : feedAll before {} = (.ok frames, parser)) (haccept : (acceptFrames frames).2 = none)
    (hread : feed chunk parser = (.ok more, parser'))
    (hrefused : ∃ error, (acceptFrames more).2 = some error) :
    SeenAgain httpStatus (bodyOutcome expectedOutputTokenCount
        (readBody ending {} (before ++ chunk :: after))) ↔
      (replay (before ++ [chunk])).1 = .error .caught := by
  obtain ⟨hbefore, hchunk⟩ := List.forall_mem_append.mp hne
  obtain ⟨error, herror⟩ := hrefused
  have hreading := @readBody_append _ ending _ _ _ _ hbefore hfed haccept (chunk :: after)
  rw [readBody_refused (hchunk chunk (by simp)) hread herror] at hreading
  rw [hreading, seenAgain_error_iff error rfl, reproducible_error_iff hreplay]
  have hfedAll : feedAll (before ++ [chunk]) {} = (.ok (frames ++ more), parser') :=
    feedAll_concat.mpr ⟨frames, parser, more, hfed, hread, rfl⟩
  obtain ⟨accepted, frame, rest, rfl, haccepted, hfirst, hframe⟩ := exists_refused herror
  -- the payload that is refused comes before `[DONE]`
  have hdone : doneCount ((acceptFrames frames).1 ++ (acceptFrames (accepted ++ frame :: rest)).1)
      = 0 := by
    have hparsed := Parsed.start.feedAll hfedAll
    rw [List.nil_append, List.nil_append, ← List.append_assoc] at hparsed
    have happend : acceptFrames (frames ++ accepted) =
        ((acceptFrames frames).1 ++ (acceptFrames accepted).1, none) := by
      rw [acceptFrames_append, haccept, haccepted]
    have hcount := @doneCount_eq_zero _ (frames ++ accepted) (by rw [happend])
    rw [happend] at hcount
    rw [hfirst]
    exact hcount.mpr (not_done_of_readPieces hparsed.read (refused_of_frameEvidence hframe).1).2
  obtain ⟨hcaught, hraised⟩ := replay_of_feedAll hfedAll
  simp only [hdone, true_and]
  constructor
  · rintro ⟨hmalformed, hunexpected⟩
    by_cases hprotocol : ∃ malformed, error = .sseProtocol malformed
    · exact hmalformed hprotocol
    · -- the validation does not take the frame either
      have hhidden : ¬ Shows frame := fun hshows => hprotocol (misshapen_of_shows hframe hshows)
      refine hcaught.mpr (.inl ?_)
      cases hframes : replayFrames (frames ++ (accepted ++ frame :: rest)) with
      | ok shapes =>
        exact absurd (replayFrames_eq_ok.mp ⟨shapes, hframes⟩ frame (by simp)) hhidden
      | error stopped =>
        cases stopped with
        | caught => rfl
        | raised raised =>
          exfalso
          cases error with
          | sseProtocol malformed => exact hprotocol ⟨malformed, rfl⟩
          | other unexpected =>
            exact hunexpected ⟨unexpected, rfl⟩ raised ((hraised raised).mpr hframes)
          | fixtureToken markers =>
            have hstop := replayFrames_eq_caught.mpr ⟨frames ++ accepted, frame, rest,
              (List.append_assoc _ _ _).symm, ?_, replayFrame_eq_caught.mp
                (replayFrame_of_fixtureToken hframe)⟩
            · cases hstop.symm.trans hframes
            · exact List.forall_mem_append.mpr
                ⟨shows_of_accepted haccept, shows_of_accepted haccepted⟩
          | _ => cases (refused_of_frameEvidence hframe).2 with | payload h => cases h
  · intro h
    refine ⟨fun _ => h, fun _ raised hraise => ?_⟩
    cases h.symm.trans hraise

/-- The replay of the stream up to a chunk with a frame that is refused. -/
theorem replay_eq_caught (hfed : feedAll before {} = (.ok frames, parser))
    (haccept : (acceptFrames frames).2 = none) (hread : feed chunk parser = (.ok more, parser')) :
    (replay (before ++ [chunk])).1 = .error .caught ↔
      replayFrames more = .error .caught ∨ (∀ frame ∈ more, Shows frame) ∧
        ∀ frames, parseStream (before ++ [chunk]) ≠ .ok frames := by
  have hfedAll : feedAll (before ++ [chunk]) {} = (.ok (frames ++ more), parser') :=
    feedAll_concat.mpr ⟨frames, parser, more, hfed, hread, rfl⟩
  obtain ⟨shapes, hshapes⟩ := replayFrames_eq_ok.mpr (shows_of_accepted haccept)
  have hmore : replayFrames (frames ++ more) = .error .caught ↔
      replayFrames more = .error .caught := by
    rw [replayFrames_append, hshapes]
    cases replayFrames more <;> simp [Except.map]
  rw [(replay_of_feedAll hfedAll).1, hmore, List.forall_mem_append,
    and_iff_right (shows_of_accepted haccept)]

/-- **When the validation sees what the execution saw**: exactly when the body is read alike
twice. -/
theorem seenAgain_iff_retraced (hreplay : replayOf httpStatus = replay)
    (hne : ∀ chunk ∈ chunks, chunk ≠ []) :
    SeenAgain httpStatus (bodyOutcome expectedOutputTokenCount (readBody ending {} chunks)) ↔
      Retraced expectedOutputTokenCount ending chunks := by
  constructor
  · intro h
    -- the cases are those in which reading a body comes to a halt
    cases bodyStop {} chunks with
    | read hfed haccept =>
      have hcarried := accepted_iff.mp haccept
      rcases (seenAgain_read_iff hreplay hne hfed haccept).mp h with
        hunmarked | ⟨hended, ⟨frames', hparsed⟩, hcount⟩
      · exact .unfinished hfed hcarried hunmarked
      · obtain ⟨p, hfed', -⟩ := parseStream_apply.mp hparsed
        obtain ⟨hframes, -⟩ := Prod.mk.inj (hfed.symm.trans hfed')
        obtain rfl := Except.ok.inj hframes
        obtain ⟨counts, hcounts⟩ := exists_carries hcarried
        exact .finished hended hparsed hcounts ((sum_of_carries hcounts).symm.trans hcount)
    | unreadable hsplit hfed haccept hrefused =>
      subst hsplit
      exact .unreadable rfl hfed (accepted_iff.mp haccept)
        ((seenAgain_unreadable_iff hreplay hne hfed haccept hrefused).mp h) hrefused
    | refused hsplit hfed haccept hread hrefused =>
      subst hsplit
      have hcaught := (seenAgain_refused_iff hreplay hne hfed haccept hread hrefused).mp h
      have hfirst := refused_iff.mp hrefused
      rcases (replay_eq_caught hfed haccept hread).mp hcaught with hstop | ⟨hshown, hunended⟩
      · obtain ⟨shown, frame, rest, heq, hshown, hhidden, hshallow⟩ :=
          replayFrames_eq_caught.mp hstop
        exact .refused rfl hfed (accepted_iff.mp haccept) hread hfirst heq hshown hhidden hshallow
      · exact .shown rfl hfed (accepted_iff.mp haccept) hread hfirst hshown hunended
  -- each kind of retraced body is one of them, read the other way
  · intro h
    cases h with
    | unfinished hfed hcarried hunmarked =>
      exact (seenAgain_read_iff hreplay hne hfed (accepted_iff.mpr hcarried)).mpr (.inl hunmarked)
    | finished hended hparsed hcounts hcount =>
      obtain ⟨p, hfed, -⟩ := parseStream_apply.mp hparsed
      have haccept := accepted_iff.mpr fun frame hframe => carried_of_forall₂ hcounts frame hframe
      refine (seenAgain_read_iff hreplay hne hfed haccept).mpr (.inr ⟨hended, ⟨_, hparsed⟩, ?_⟩)
      exact (sum_of_carries hcounts).trans hcount
    | unreadable hsplit hfed hcarried hunmarked hrefused =>
      subst hsplit
      exact (seenAgain_unreadable_iff hreplay hne hfed (accepted_iff.mpr hcarried) hrefused).mpr
        hunmarked
    | refused hsplit hfed hcarried hread hfirst hstop hshown hhidden hshallow =>
      subst hsplit
      have haccept := accepted_iff.mpr hcarried
      refine (seenAgain_refused_iff hreplay hne hfed haccept hread (refused_iff.mpr hfirst)).mpr ?_
      refine (replay_eq_caught hfed haccept hread).mpr (.inl ?_)
      exact replayFrames_eq_caught.mpr ⟨_, _, _, hstop, hshown, hhidden, hshallow⟩
    | shown hsplit hfed hcarried hread hfirst hshown hunended =>
      subst hsplit
      have haccept := accepted_iff.mpr hcarried
      refine (seenAgain_refused_iff hreplay hne hfed haccept hread (refused_iff.mpr hfirst)).mpr ?_
      exact (replay_eq_caught hfed haccept hread).mpr (.inr ⟨hshown, hunended⟩)

end

/-! ## The records of an executed request -/

variable {request : StreamingRequest} {server : ServerBehaviour}

/-- Whatever the server did, the records of an outcome are validated when its body is read alike
twice. -/
theorem seenAgain_serverOutcome_iff {expectedOutputTokenCount : ℕ} :
    SeenAgain server.status.toOption (serverOutcome expectedOutputTokenCount server) ↔
      server.Retraced expectedOutputTokenCount := by
  unfold ServerBehaviour.Retraced
  by_cases hresponse : ∃ status, server.status = .ok status ∧ isSuccessStatus status = true
  · obtain ⟨status, hstatus, hsuccess⟩ := hresponse
    obtain ⟨houtcome, hreplay⟩ :=
      @serverOutcome_of_success _ expectedOutputTokenCount server status hstatus hsuccess
    have hne : ∀ chunk ∈ server.chunks.filter (· ≠ []), chunk ≠ [] := by simp
    rw [houtcome, ← readBody_filter]
    refine (seenAgain_iff_retraced hreplay hne).trans ⟨fun h _ _ _ => h, fun h => ?_⟩
    exact h status hstatus hsuccess
  · push Not at hresponse
    obtain ⟨-, hmalformed, hevidence, hreplay⟩ :=
      @serverOutcome_of_unsuccessful _ expectedOutputTokenCount server
        fun status hstatus => by simpa using hresponse status hstatus
    refine iff_of_true (.inr ⟨?_, ?_, ?_⟩) fun status hstatus hsuccess => ?_
    · rw [hevidence]
      rfl
    · rintro ⟨failure, hfailure, hkind⟩
      exact absurd hkind (hmalformed failure hfailure)
    · intro _ error
      rw [hreplay]
      simp
    · exact absurd hsuccess (by simpa using hresponse status hstatus)

/-- A request that returned a record: its input was parsed, it was built, its response was closed,
and the status of the response is one that a record can have. -/
theorem inputs_of_returned {clock : ℕ → ℤ} {runOriginNs : ℤ}
    (hprepared : Prepared clock request runOriginNs) {record : Stage1RequestRecord}
    {collector collector' : EvidenceCollector} (horigin : collector.runOriginNs = runOriginNs)
    (h : executeStreamingRequest request clock server collector = (.ok record, collector')) :
    (∃ tokens, parseInputTokens request.case.inputText = .ok tokens) ∧ server.built = .ok () ∧
      server.closed = none ∧ ∀ status, server.status = .ok status → 100 ≤ status ∧ status ≤ 599 := by
  obtain ⟨-, -, -, hhttp⟩ := executeBody_running hprepared horigin server
  unfold executeStreamingRequest at h
  split at h
  -- the prompt is parsed first, then the request is built ...
  · cases h
  · next tokens htokens =>
    split at h
    · cases h
    · next hbuilt =>
      dsimp only at h
      split at h
      -- ... then the response is closed, and only then is the record made
      · cases h
      · next hclosed =>
        refine ⟨⟨tokens, htokens⟩, hbuilt, hclosed, fun status hstatus => ?_⟩
        have hfinished := ok_of_mapError (Prod.mk.inj h).1
        unfold finishRequest at hfinished
        dsimp only at hfinished
        split at hfinished
        · cases hfinished
        · split at hfinished
          · cases hfinished
          · unfold requestRecord at hfinished
            -- the other validations of a record come before the one of its status
            obtain ⟨_, -, hrecord⟩ := bind_eq_ok.mp hfinished
            obtain ⟨_, -, hrecord⟩ := bind_eq_ok.mp hrecord
            obtain ⟨_, -, hrecord⟩ := bind_eq_ok.mp hrecord
            obtain ⟨_, -, hrecord⟩ := bind_eq_ok.mp hrecord
            obtain ⟨_, -, hrecord⟩ := bind_eq_ok.mp hrecord
            obtain ⟨_, -, hrecord⟩ := bind_eq_ok.mp hrecord
            obtain ⟨_, -, hrecord⟩ := bind_eq_ok.mp hrecord
            unfold Stage1RequestRecord.modelValidate at hrecord
            split_ifs at hrecord with hrequest hcase hrange
            -- a status that was received is the one of the record
            refine hrange status ?_
            rw [hhttp, hstatus]
            rfl

/-- **When the records of an executed request are validated.** Whatever the server did and other
requests record beside it, what a request that returned has recorded is validated exactly when the
body of its response is read alike twice. -/
theorem executeStreamingRequest_validates {clock : ℕ → ℤ} {runOriginNs : ℤ}
    (hprepared : Prepared clock request runOriginNs) (hpolicy : request.timeoutPolicy.IsPositive)
    {record : Stage1RequestRecord} {collector collector' : EvidenceCollector}
    (horigin : collector.runOriginNs = runOriginNs)
    (hreturns :
      executeStreamingRequest request clock server collector = (.ok record, collector')) :
    ∃ observed terminal,
      collector'.streamEvents = collector.streamEvents ++ observed ++ [terminal] ∧
      Returned request server record observed terminal ∧
      ∀ started ended events, Surrounded record observed started terminal ended events →
        (validateRequest record events = .ok () ↔
          server.Retraced request.case.expectedOutputTokenCount) := by
  obtain ⟨⟨tokens, hinput⟩, hbuilt, hclosed, hstatus⟩ :=
    inputs_of_returned hprepared horigin hreturns
  obtain ⟨record', observed, terminal, hreturns', hreturned⟩ :=
    exists_returned hprepared hpolicy hinput hbuilt hclosed hstatus horigin
  obtain ⟨hrecord, hcollector⟩ := Prod.mk.inj (hreturns.symm.trans hreturns')
  obtain rfl := Except.ok.inj hrecord
  refine ⟨observed, terminal, congrArg EvidenceCollector.streamEvents hcollector, hreturned, ?_⟩
  intro started ended events hsurrounded
  rw [hreturned.validateRequest_iff hsurrounded, hreturned.terminalClass]
  exact seenAgain_serverOutcome_iff

end

/-! ### A stream of two tokens, and one that lacks a token -/

section

attribute [local instance] cpython

/-- The tokens of a text, and `[DONE]`. -/
def doneServer (text : String) : ServerBehaviour where
  status := .ok 200
  chunks := [ascii ("data: \x7b\"choices\":[\x7b\"text\":\"" ++ text ++
    "\"\x7d]\x7d\n\ndata: [DONE]\n\n")]

theorem prepared_sampleRequest : Prepared (fun reads => reads) sampleRequest 0 where
  monotone _ _ h := Int.ofNat_le.mpr h
  origin := le_refl _
  requestId := by decide
  caseId := by decide

theorem status_doneServer (text : String) :
    ∀ status, (doneServer text).status = .ok status → 100 ≤ status ∧ status ≤ 599 := by
  intro status h
  obtain rfl := Except.ok.inj h
  norm_num

/-- The frame of a text. -/
def textFrame (text : String) : SSEFrame where
  kind := .data
  data := some (lit ("\x7b\"choices\":[\x7b\"text\":\"" ++ text ++ "\"\x7d]\x7d"))
  comments := []

theorem carries_textFrame {text : String} {tokens : List Str}
    (hpayload : (payloadText (textFrame text)).toOption = some (lit text))
    (htokens : parseOutputTokens (lit text) = .ok tokens) :
    Carries (textFrame text) tokens.length := by
  obtain ⟨hkind, data, hdata, hloads⟩ := payloadText_eq_ok.mp (ok_of_toOption hpayload)
  exact .tokens hkind hdata hloads htokens

/-- A text of two tokens, and the end of the stream. -/
theorem retraced_doneServer : (doneServer "<t001><t002>").Retraced 2 := by
  intro status _ _
  have hparsed : parseStream ((doneServer "<t001><t002>").chunks.filter (· ≠ [])) =
      .ok [textFrame "<t001><t002>", ⟨.done, some (lit "[DONE]"), []⟩] := by decide +kernel
  have htext : Carries (textFrame "<t001><t002>") [lit "<t001>", lit "<t002>"].length :=
    carries_textFrame (by decide +kernel) (by decide +kernel)
  exact .finished rfl hparsed (.cons htext (.cons (.done rfl) .nil)) rfl

/-- A start or an end of the client of the request. -/
def clientEvent (kind : StreamEvidenceKind) (observationOffsetNs : ℕ) : StreamEvidenceRecord :=
  StreamObservation.event (sampleRequest.observation kind observationOffsetNs) 0
    observationOffsetNs

/-- The evidence of the request, with its start and its end. -/
def clientEvents (record : Stage1RequestRecord) (observed : List StreamEvidenceRecord)
    (terminal : StreamEvidenceRecord) : List StreamEvidenceRecord :=
  clientEvent .clientRequestStarted 0 ::
    (observed ++ [terminal, clientEvent .clientRequestEnded record.timing.terminalOffsetNs])

theorem surrounded_clientEvents {server : ServerBehaviour} {record : Stage1RequestRecord}
    {observed : List StreamEvidenceRecord} {terminal : StreamEvidenceRecord}
    (h : Returned sampleRequest server record observed terminal) :
    Surrounded record observed (clientEvent .clientRequestStarted 0) terminal
      (clientEvent .clientRequestEnded record.timing.terminalOffsetNs)
      (clientEvents record observed terminal) := by
  refine surrounded_self (fun event hevent => ?_) rfl rfl (Nat.zero_le _) (le_refl _)
  rw [h.requestId]
  simp only [List.mem_cons, List.mem_append, List.not_mem_nil, or_false] at hevent
  rcases hevent with rfl | hevent | rfl | rfl
  · rfl
  · exact (h.own event hevent).requestId
  · exact h.terminalOwn.1
  · rfl

/-- A run of the request that returns. -/
theorem exists_returned_sampleRequest (text : String) : ∃ record observed terminal,
    executeStreamingRequest sampleRequest (fun reads => reads) (doneServer text) ⟨0, []⟩ =
        (.ok record, ⟨0, [] ++ observed ++ [terminal]⟩) ∧
      Returned sampleRequest (doneServer text) record observed terminal :=
  exists_returned prepared_sampleRequest (by decide +kernel)
    (show parseInputTokens (lit "<p001>") = .ok [lit "<p001>"] by decide +kernel)
    rfl rfl (status_doneServer text) rfl

/-- With both tokens the request succeeds, and its records are validated. -/
theorem executeStreamingRequest_validates_doneServer : ∃ record observed terminal,
    (executeStreamingRequest sampleRequest (fun reads => reads) (doneServer "<t001><t002>")
        ⟨0, []⟩).1 = .ok record ∧
      validateRequest record (clientEvents record observed terminal) = .ok () := by
  obtain ⟨record, _, _, hreturns, -⟩ := exists_returned_sampleRequest "<t001><t002>"
  obtain ⟨observed, terminal, -, hreturned, hvalidates⟩ :=
    executeStreamingRequest_validates prepared_sampleRequest (by decide +kernel) rfl hreturns
  exact ⟨record, observed, terminal, congrArg Prod.fst hreturns,
    (hvalidates _ _ _ (surrounded_clientEvents hreturned)).mpr retraced_doneServer⟩

/-- Without the second token the request fails after `[DONE]`, and its records are refused. -/
theorem exists_returned_not_validated : ∃ record observed terminal,
    executeStreamingRequest sampleRequest (fun reads => reads) (doneServer "<t001>") ⟨0, []⟩ =
        (.ok record, ⟨0, observed ++ [terminal]⟩) ∧
      Surrounded record observed (clientEvent .clientRequestStarted 0) terminal
        (clientEvent .clientRequestEnded record.timing.terminalOffsetNs)
        (clientEvents record observed terminal) ∧
      validateRequest record (clientEvents record observed terminal) ≠ .ok () := by
  obtain ⟨record, observed, terminal, hreturns, hreturned⟩ :=
    exists_returned_sampleRequest "<t001>"
  have hsurrounded := surrounded_clientEvents hreturned
  refine ⟨record, observed, terminal, hreturns, hsurrounded, fun hvalid => ?_⟩
  rcases (hreturned.validateRequest_iff hsurrounded).mp hvalid with hsuccess | hreproducible
  · have hclass : record.terminalClass = .failed :=
      hreturned.terminalClass.trans (by decide +kernel)
    rw [hclass] at hsuccess
    cases hsuccess
  · exact absurd hreproducible.notDone (by decide +kernel)

end

end Stage1
