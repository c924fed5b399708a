import LlmInferenceSystems.Stage1.CrossRecords
import LlmInferenceSystems.Stage1.StreamingRuns

/-!
# The two readings of a payload

The execution takes a payload that is a choice with a text of markers and nothing else. The
validation subscripts the payload, and takes whatever has a text of markers at that place.

## Main definitions

* `Carries`: a frame that the execution takes, with the tokens it delivers
* `Misshapen`: a frame that the execution refuses as a malformed stream
* `Shows`, `TooDeep`: a frame that the validation takes, and one it stumbles over

## Main results

* `carries_iff`, `shows_iff`: what the two readings take
* `Carries.shows`: the validation takes what the execution takes
-/

namespace Stage1

open Python Sse

/-- `{"choices": [{"text": text}]}` -/
def choicesText (text : Str) : Json :=
  .obj [(lit "choices", .arr [.obj [(lit "text", .str text)]])]

/-- `value["choices"][0]["text"]` is a string. -/
def TextAt (value : Json) (text : Str) : Prop :=
  ∃ items choice choices, value = .obj items ∧
    item items "choices" = some (.arr (.obj choice :: choices)) ∧
    item choice "text" = some (.str text)

variable [Interpreter]

/-- A frame that delivers some tokens: a comment and `[DONE]` deliver none, and data is a choice with
a text of markers and nothing else. -/
inductive Carries : SSEFrame → ℕ → Prop
  | comment {frame : SSEFrame} (kind : frame.kind = .comment) : Carries frame 0
  | done {frame : SSEFrame} (kind : frame.kind = .done) : Carries frame 0
  | tokens {frame : SSEFrame} {data text : Str} {tokens : List Str} (kind : frame.kind = .data)
      (hasData : frame.data = some data) (loads : jsonLoads data = .ok (choicesText text))
      (markers : parseOutputTokens text = .ok tokens) : Carries frame tokens.length

/-- Data that is no JSON, or that is other JSON than a choice with a text. -/
structure Misshapen (frame : SSEFrame) : Prop where
  kind : frame.kind = .data
  data : ∀ data, frame.data = some data → jsonLoads data = .error .decode ∨
    ∃ value, jsonLoads data = .ok value ∧ ∀ text, value ≠ choicesText text

/-- A frame that has a text of markers where the validation looks for it, if it is data. -/
inductive Shows : SSEFrame → Prop
  | comment {frame : SSEFrame} (kind : frame.kind = .comment) : Shows frame
  | done {frame : SSEFrame} (kind : frame.kind = .done) : Shows frame
  | tokens {frame : SSEFrame} {data text : Str} {value : Json} {tokens : List Str}
      (kind : frame.kind = .data) (hasData : frame.data = some data)
      (loads : jsonLoads data = .ok value) (textAt : TextAt value text)
      (markers : parseOutputTokens text = .ok tokens) : Shows frame

/-- Data that is nested deeper than the interpreter's stack. -/
structure TooDeep (frame : SSEFrame) : Prop where
  kind : frame.kind = .data
  data : ∃ data, frame.data = some data ∧ jsonLoads data = .error .recursion

section

variable {frame : SSEFrame}

/-! ## The first reading -/

theorem payloadText_of_choicesText {data text : Str} (hkind : frame.kind = .data)
    (hdata : frame.data = some data) (hloads : jsonLoads data = .ok (choicesText text)) :
    payloadText frame = .ok text := by
  unfold payloadText
  rw [hkind, hdata]
  dsimp only
  rw [hloads]
  simp [choicesText]

/-- A payload is accepted when it is a choice with a text and nothing else. -/
theorem payloadText_eq_ok {text : Str} : payloadText frame = .ok text ↔
    frame.kind = .data ∧ ∃ data, frame.data = some data ∧
      jsonLoads data = .ok (choicesText text) := by
  refine ⟨fun h => ?_, fun ⟨hkind, data, hdata, hloads⟩ =>
    payloadText_of_choicesText hkind hdata hloads⟩
  -- a payload that loads must be a record with the one key `choices` ...
  unfold payloadText at h
  split at h
  · next data hkind hdata =>
    refine ⟨hkind, data, hdata, ?_⟩
    split at h
    · cases h
    · cases h
    · next value hloads =>
      rw [hloads]
      split at h
      · next key choices =>
        split_ifs at h with hkey
        obtain rfl := not_not.mp hkey
        -- ... whose one item is a record with the one key `text`
        split at h
        · next choice =>
          split at h
          · next key text' =>
            split_ifs at h with hkey
            obtain rfl := not_not.mp hkey
            split at h
            · obtain rfl := Except.ok.inj h
              rfl
            · cases h
          · cases h
        · cases h
      · cases h
  · cases h

/-- Why the text of a data frame is refused. -/
inductive PayloadRefused (frame : SSEFrame) : RequestError → Prop
  | misshapen (error : SSEProtocolError) (misshapen : Misshapen frame) :
    PayloadRefused frame (.sseProtocol error)
  | loads {data : Str} {error : LoadError Empty} (hasData : frame.data = some data)
      (loads : jsonLoads data = .error error) (decode : error ≠ .decode) :
    PayloadRefused frame (.other (loadError error))

theorem payloadRefused_of_payloadText (hkind : frame.kind = .data) {error : RequestError}
    (h : payloadText frame = .error error) : PayloadRefused frame error := by
  have hnot : ∀ data value, frame.data = some data → jsonLoads data = .ok value →
      ∀ text, value ≠ choicesText text := by
    rintro data value hdata hloads text rfl
    rw [payloadText_of_choicesText hkind hdata hloads] at h
    cases h
  have hmisshapen : ∀ data, frame.data = some data → (jsonLoads data = .error .decode ∨
      ∃ value, jsonLoads data = .ok value ∧ ∀ text, value ≠ choicesText text) →
      Misshapen frame := by
    intro data hdata hshape
    refine ⟨hkind, fun data' hdata' => ?_⟩
    obtain rfl := Option.some.inj (hdata.symm.trans hdata')
    exact hshape
  unfold payloadText at h
  split at h
  · next data _ hdata =>
    split at h
    · next hloads =>
      obtain rfl := Except.error.inj h
      exact .misshapen _ (hmisshapen data hdata (.inl hloads))
    · next error' hdecode hloads =>
      obtain rfl := Except.error.inj h
      exact .loads hdata hloads hdecode
    · next value hloads =>
      have hshape := hmisshapen data hdata (.inr ⟨value, hloads, hnot data value hdata hloads⟩)
      -- every other branch refuses the shape
      repeat' split at h
      all_goals first
        | (obtain rfl := Except.error.inj h; exact .misshapen _ hshape)
        | cases h
  · next hother =>
    obtain rfl := Except.error.inj h
    exact .misshapen _ ⟨hkind, fun data hdata => absurd hdata (hother data hkind)⟩

/-- Why a frame is refused. -/
inductive FrameRefused (frame : SSEFrame) : RequestError → Prop
  | payload {error : RequestError} (refused : PayloadRefused frame error) :
    FrameRefused frame error
  | markers {data text : Str} {error : FixtureTokenError} (hasData : frame.data = some data)
      (loads : jsonLoads data = .ok (choicesText text))
      (markers : parseOutputTokens text = .error error) : FrameRefused frame (.fixtureToken error)

/-- **What the execution takes.** -/
theorem carries_iff {n : ℕ} : Carries frame n ↔
    ∃ evidence, frameEvidence frame = .ok evidence ∧ evidence.tokenDeltaCount.getD 0 = n := by
  unfold frameEvidence
  constructor
  -- a frame of any of the three kinds has evidence
  · rintro (hkind | hkind | ⟨hkind, hdata, hloads, hmarkers⟩)
    · exact ⟨_, by rw [hkind], rfl⟩
    · exact ⟨_, by rw [hkind], rfl⟩
    · rw [hkind]
      dsimp only
      rw [tokenCount, payloadText_of_choicesText hkind hdata hloads]
      dsimp only
      rw [hmarkers]
      exact ⟨_, rfl, rfl⟩
  · rintro ⟨evidence, h, rfl⟩
    -- evidence without a count comes from a comment or [DONE], and with one from tokens
    cases hkind : frame.kind with
    | comment =>
      rw [hkind] at h
      obtain rfl := Except.ok.inj h
      exact .comment hkind
    | done =>
      rw [hkind] at h
      obtain rfl := Except.ok.inj h
      exact .done hkind
    | data =>
      rw [hkind] at h
      obtain ⟨count, hcount, rfl⟩ := exists_of_map_eq_ok h
      unfold tokenCount at hcount
      split at hcount
      · cases hcount
      · next text htext =>
        obtain ⟨-, data, hdata, hloads⟩ := payloadText_eq_ok.mp htext
        split at hcount
        · cases hcount
        · next tokens htokens =>
          obtain rfl := Except.ok.inj hcount
          exact .tokens hkind hdata hloads htokens

/-- A frame that is refused is data, and is refused for its payload or for its markers. -/
theorem refused_of_frameEvidence {error : RequestError} (h : frameEvidence frame = .error error) :
    frame.kind = .data ∧ FrameRefused frame error := by
  unfold frameEvidence at h
  split at h
  · cases h
  · cases h
  · next hkind =>
    refine ⟨hkind, ?_⟩
    have hcount : tokenCount frame = .error error := by
      cases hcount : tokenCount frame with
      | error e => rw [hcount] at h; exact congrArg Except.error (Except.error.inj h)
      | ok count => rw [hcount] at h; cases h
    unfold tokenCount at hcount
    split at hcount
    · next e hpayload =>
      obtain rfl := Except.error.inj hcount
      exact .payload (payloadRefused_of_payloadText hkind hpayload)
    · next text htext =>
      obtain ⟨-, data, hdata, hloads⟩ := payloadText_eq_ok.mp htext
      split at hcount
      · next e hmarkers =>
        obtain rfl := Except.error.inj hcount
        exact .markers hdata hloads hmarkers
      · cases hcount

/-- A frame is taken by the execution or refused by it. -/
theorem not_carries_iff :
    (∀ n, ¬ Carries frame n) ↔ ∃ error, frameEvidence frame = .error error := by
  constructor
  · intro h
    cases hevidence : frameEvidence frame with
    | error error => exact ⟨error, rfl⟩
    | ok evidence => exact absurd (carries_iff.mpr ⟨evidence, hevidence, rfl⟩) (h _)
  · rintro ⟨error, herror⟩ n hcarries
    obtain ⟨evidence, hevidence, -⟩ := carries_iff.mp hcarries
    rw [herror] at hevidence
    cases hevidence

/-- A frame is misshapen when it is refused as a malformed stream. -/
theorem misshapen_iff :
    Misshapen frame ↔ ∃ error, frameEvidence frame = .error (.sseProtocol error) := by
  constructor
  · rintro ⟨hkind, hshape⟩
    -- a frame that carries something has a payload of the right shape
    cases hevidence : frameEvidence frame with
    | ok evidence =>
      obtain ⟨n, hcarries⟩ : ∃ n, Carries frame n := ⟨_, carries_iff.mpr ⟨evidence, hevidence, rfl⟩⟩
      rcases hcarries with hkind' | hkind' | ⟨-, hdata, hloads, -⟩
      · cases hkind.symm.trans hkind'
      · cases hkind.symm.trans hkind'
      · rcases hshape _ hdata with hdecode | ⟨value, hvalue, hne⟩
        · cases hdecode.symm.trans hloads
        · exact absurd (Except.ok.inj (hvalue.symm.trans hloads)) (hne _)
    | error error =>
      -- of the refusals, only the one for the shape is an error of the protocol
      obtain ⟨-, hrefused⟩ := refused_of_frameEvidence hevidence
      cases hrefused with
      | payload hrefused =>
        cases hrefused with
        | misshapen error => exact ⟨error, rfl⟩
        | loads hdata hloads hdecode =>
          exfalso
          rcases hshape _ hdata with hdecode' | ⟨value, hvalue, -⟩
          · exact hdecode (Except.error.inj (hloads.symm.trans hdecode'))
          · cases hloads.symm.trans hvalue
      | markers hdata hloads _ =>
        exfalso
        rcases hshape _ hdata with hdecode | ⟨value, hvalue, hne⟩
        · cases hdecode.symm.trans hloads
        · exact hne _ (Except.ok.inj (hvalue.symm.trans hloads))
  · rintro ⟨error, herror⟩
    obtain ⟨-, hrefused⟩ := refused_of_frameEvidence herror
    cases hrefused with
    | payload hrefused =>
      cases hrefused with
      | misshapen _ hshape => exact hshape

/-! ## The second reading -/

omit [Interpreter] in
theorem textAt_iff {value : Json} {text : Str} :
    TextAt value text ↔ replayText value = some text := by
  constructor
  · rintro ⟨items, choice, choices, rfl, hchoices, htext⟩
    simp only [replayText, hchoices, htext]
  · intro h
    unfold replayText at h
    split at h
    · next items =>
      split at h
      · next choice choices hchoices =>
        split at h
        · next text' htext =>
          obtain rfl := Option.some.inj h
          exact ⟨items, choice, choices, rfl, hchoices, htext⟩
        · cases h
      · cases h
    · cases h

omit [Interpreter] in
/-- The text of a choice is where it is looked for. -/
theorem textAt_choicesText (text : Str) : TextAt (choicesText text) text :=
  textAt_iff.mpr (by simp [choicesText, replayText, item])

/-- **The validation takes what the execution takes.** -/
theorem Carries.shows {n : ℕ} (h : Carries frame n) : Shows frame := by
  cases h with
  | comment kind => exact .comment kind
  | done kind => exact .done kind
  | tokens kind data loads markers => exact .tokens kind data loads (textAt_choicesText _) markers

/-- **What the validation takes.** -/
theorem shows_iff : Shows frame ↔ ∃ shapes, replayFrame frame = .ok shapes := by
  unfold replayFrame
  constructor
  · rintro (hkind | hkind | ⟨hkind, hdata, hloads, htext, hmarkers⟩)
    · exact ⟨[], by rw [hkind]⟩
    · exact ⟨[], by rw [hkind]⟩
    · simp only [hkind, hdata, hloads, textAt_iff.mp htext, hmarkers]
      exact ⟨_, rfl⟩
  · rintro ⟨shapes, h⟩
    split at h
    · next hkind => exact .comment hkind
    · next hkind => exact .done hkind
    · next hkind =>
      split at h
      · cases h
      · next data hdata =>
        split at h
        · cases h
        · cases h
        · next value hloads =>
          split at h
          · cases h
          · next text htext =>
            split at h
            · cases h
            · next tokens hmarkers =>
              exact .tokens hkind hdata hloads (textAt_iff.mpr htext) hmarkers

/-- What lets the exception of a replay through. -/
theorem tooDeep_iff : TooDeep frame ↔ ∃ error, replayFrame frame = .error (.raised error) := by
  unfold replayFrame
  constructor
  · rintro ⟨hkind, data, hdata, hloads⟩
    simp only [hkind, hdata, hloads]
    exact ⟨_, rfl⟩
  · rintro ⟨error, h⟩
    split at h
    · cases h
    · cases h
    · next hkind =>
      split at h
      · cases h
      · next data hdata =>
        split at h
        · next hloads => exact ⟨hkind, data, hdata, hloads⟩
        · cases h
        · next value hloads =>
          split at h
          · cases h
          · split at h <;> cases h

/-- A frame that is neither shown nor too deep is refused by the validation as by any reading. -/
theorem replayFrame_eq_caught :
    replayFrame frame = .error .caught ↔ ¬ Shows frame ∧ ¬ TooDeep frame := by
  rw [shows_iff, tooDeep_iff]
  cases hreplay : replayFrame frame with
  | ok shapes => simp
  | error error => cases error <;> simp

/-- What the execution refuses and the validation takes is misshapen. -/
theorem misshapen_of_shows {error : RequestError} (h : frameEvidence frame = .error error)
    (hshows : Shows frame) : ∃ malformed, error = .sseProtocol malformed := by
  obtain ⟨hkind, hrefused⟩ := refused_of_frameEvidence h
  rcases hshows with hkind' | hkind' | ⟨-, hdata, hloads, htext, hmarkers⟩
  · cases hkind.symm.trans hkind'
  · cases hkind.symm.trans hkind'
  · cases hrefused with
    | payload hrefused =>
      cases hrefused with
      | misshapen malformed => exact ⟨malformed, rfl⟩
      | loads hdata' hloads' _ =>
        obtain rfl := Option.some.inj (hdata.symm.trans hdata')
        cases hloads.symm.trans hloads'
    | markers hdata' hloads' hmarkers' =>
      -- the text of the choice is the one that is subscripted
      obtain rfl := Option.some.inj (hdata.symm.trans hdata')
      obtain rfl := Except.ok.inj (hloads.symm.trans hloads')
      obtain rfl := Option.some.inj
        ((textAt_iff.mp htext).symm.trans (textAt_iff.mp (textAt_choicesText _)))
      cases hmarkers.symm.trans hmarkers'

/-- What the execution refuses for its markers the validation refuses too. -/
theorem replayFrame_of_fixtureToken {error : FixtureTokenError}
    (h : frameEvidence frame = .error (.fixtureToken error)) :
    replayFrame frame = .error .caught := by
  refine replayFrame_eq_caught.mpr ⟨fun hshows => ?_, fun htooDeep => ?_⟩
  · obtain ⟨malformed, hmalformed⟩ := misshapen_of_shows h hshows
    cases hmalformed
  · obtain ⟨-, data, hdata, hrecursion⟩ := htooDeep
    cases (refused_of_frameEvidence h).2 with
    | payload hrefused => cases hrefused
    | markers hdata' hloads _ =>
      obtain rfl := Option.some.inj (hdata.symm.trans hdata')
      cases hrecursion.symm.trans hloads

/-- A frame that is accepted adds the shape of its tokens. -/
theorem replayFrame_of_frameEvidence {evidence : SseEvidence}
    (h : frameEvidence frame = .ok evidence) :
    replayFrame frame = .ok evidence.tokenDeltaCount.toList := by
  unfold frameEvidence at h
  unfold replayFrame
  cases hkind : frame.kind with
  | comment =>
    rw [hkind] at h
    -- neither has tokens, in the evidence or in the replay
    obtain rfl := Except.ok.inj h
    rfl
  | done =>
    rw [hkind] at h
    obtain rfl := Except.ok.inj h
    rfl
  | data =>
    rw [hkind] at h
    obtain ⟨count, hcount, rfl⟩ := exists_of_map_eq_ok h
    unfold tokenCount at hcount
    split at hcount
    · cases hcount
    · next text htext =>
      -- the evidence and the replay read the same text, so they count the same tokens
      obtain ⟨-, data, hdata, hloads⟩ := payloadText_eq_ok.mp htext
      split at hcount
      · cases hcount
      · next tokens htokens =>
        obtain rfl := Except.ok.inj hcount
        simp only [hdata, hloads, textAt_iff.mp (textAt_choicesText text), htokens]
        rfl

end

end Stage1
