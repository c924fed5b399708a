import LlmInferenceSystems.Stage2.HonestLogs
import LlmInferenceSystems.Stage2.RestartComparison
import LlmInferenceSystems.Stage2.StreamRuns

/-!
# What does not depend on the chunks

The frames of two accepted streams of the same octets are the same, whatever the chunks were and
whenever they came; so is everything of the evidence but its times. The records of a case that the
restarts are compared by hold nothing else of the evidence.

## Main definitions

* `Received.SameBut`, `Stage2RequestEvidence.SameBut`: equal up to the times
* `Stage2RequestEvidence.restartRecord`: what a restart is compared by

## Main results

* `Stage2StreamValidator.frames_of_closed`: the frames depend on the octets alone
* `Stage2StreamValidator.evidence_sameBut`: so does the evidence but its times
* `evidence_independent_of_chunks`: the restarts of a case agree when the octets do
-/

namespace Stage2

open Python Sse

/-! ## Up to the times -/

/-- What an event holds but its time. -/
def Stage2TokenEvent.content (event : Stage2TokenEvent) :
    List ℕ × Str × Option FinishReason × Option (List ℕ) :=
  (event.outputTokenIds, event.text, event.finishReason, event.promptTokenIds)

/-- The same was received, at other times. -/
structure Received.SameBut (r r' : Received) : Prop where
  events : r.tokenEvents.map (·.content) = r'.tokenEvents.map (·.content)
  prompt : r.returnedPromptIds = r'.returnedPromptIds
  outputIds : r.outputIds = r'.outputIds
  texts : r.outputTextParts = r'.outputTextParts
  usage : r.usage = r'.usage
  serverMetrics : r.serverMetrics = r'.serverMetrics
  carried : r.terminalCarriedTokens = r'.terminalCarriedTokens

namespace Received

theorem SameBut.after {r r' : Received} (h : r.SameBut r') (offset offset' : ℤ)
    (reading : StreamReading) : (r.after offset reading).SameBut (r'.after offset' reading) := by
  cases reading with
  | comment => exact h
  | done => exact ⟨h.events, h.prompt, h.outputIds, h.texts, h.usage, h.serverMetrics, h.carried⟩
  | usage usage serverMetrics =>
    exact ⟨h.events, h.prompt, h.outputIds, h.texts, rfl, rfl, h.carried⟩
  | generation generation prompt =>
    have hfirst : r.tokenEvents.isEmpty = r'.tokenEvents.isEmpty := by
      have hlength := congrArg List.length h.events
      simp only [List.length_map] at hlength
      rw [Bool.eq_iff_iff, List.isEmpty_iff_length_eq_zero, List.isEmpty_iff_length_eq_zero, hlength]
    refine ⟨?_, ?_, ?_, ?_, h.usage, h.serverMetrics, ?_⟩
    · have hevent : (r.event offset generation prompt).content =
          (r'.event offset' generation prompt).content := by
        simp only [Received.event, Stage2TokenEvent.content, hfirst, h.prompt]
      simp only [Received.after, List.map_append, h.events, List.map_cons, List.map_nil, hevent]
    · simp only [Received.after, h.prompt]
    · simp only [Received.after, h.outputIds]
    · simp only [Received.after, h.texts]
    · simp only [Received.after, h.carried]

/-- The same readings at other times leave the same. -/
theorem SameBut.afterAll {r r' : Received} (h : r.SameBut r')
    {readings readings' : List (ℤ × StreamReading)}
    (hsame : readings.map (·.2) = readings'.map (·.2)) :
    (r.afterAll readings).SameBut (r'.afterAll readings') := by
  induction readings generalizing r r' readings' with
  | nil =>
    obtain rfl : readings' = [] := by simpa using hsame.symm
    exact h
  | cons reading readings ih =>
    cases readings' with
    | nil => cases hsame
    | cons reading' readings' =>
      obtain ⟨hreading, hrest⟩ := List.cons.inj hsame
      have hreading : reading.2 = reading'.2 := hreading
      rw [afterAll_cons, afterAll_cons, hreading]
      exact ih (h.after _ _ _) hrest

theorem SameBut.refl (r : Received) : r.SameBut r := ⟨rfl, rfl, rfl, rfl, rfl, rfl, rfl⟩

end Received

section

variable [Interpreter]

/-- Events with the same frames say the same. -/
theorem readings_eq_of_frames {base : Str} {events events' : List RetainedSSEEvent}
    {readings readings' : List (ℤ × StreamReading)}
    (h : List.Forall₂ (RetainedSSEEvent.ReadsAs base) events readings)
    (h' : List.Forall₂ (RetainedSSEEvent.ReadsAs base) events' readings')
    (hframes : events.map (·.frame) = events'.map (·.frame)) :
    readings.map (·.2) = readings'.map (·.2) := by
  induction h generalizing events' readings' with
  | nil =>
    obtain rfl : events' = [] := by simpa using hframes.symm
    cases h'
    rfl
  | @cons event reading _ _ hreads _ ih =>
    cases h' with
    | nil => cases hframes
    | @cons event' reading' _ _ hreads' hrest' =>
      obtain ⟨hframe, hrest⟩ := List.cons.inj hframes
      have hkind : event.kind = event'.kind := congrArg SSEFrame.kind hframe
      have hdata : event.data = event'.data := congrArg SSEFrame.data hframe
      have hread := hreads.2
      rw [hkind, hdata, hreads'.2] at hread
      rw [List.map_cons, List.map_cons, Except.ok.inj hread, ih hrest' hrest]

namespace Stage2StreamValidator

/-- **The frames of a stream that is closed depend on its octets alone.** -/
theorem frames_of_closed {request : StreamRequest} {dispatch : ℤ} {fixture : Option Str}
    {calls : List StreamCall} {offset : ℤ} {chain : RequestIdentityChain}
    {v w : Stage2StreamValidator} (hv : InFlight request dispatch fixture calls v)
    (hclose : closeChecks offset chain v = (.ok (), w)) :
    readPieces false (pieces (collapse (bodyChunks calls).flatten)).1 =
      .ok (w.parsedSseEvents.map (·.frame), true) := by
  obtain ⟨hopen, -, hlf, hdone, -, -, rfl⟩ := closeChecks_eq_ok.mp hclose
  rw [(hv.parsed hopen).readPieces_collapse hlf, hdone]

theorem InFlight.closeChecks_request {request : StreamRequest} {dispatch : ℤ}
    {fixture : Option Str} {calls : List StreamCall} {offset : ℤ} {chain : RequestIdentityChain}
    {v w : Stage2StreamValidator} (hv : InFlight request dispatch fixture calls v)
    (hclose : closeChecks offset chain v = (.ok (), w)) : w.request = request := by
  obtain ⟨-, -, -, -, -, -, rfl⟩ := closeChecks_eq_ok.mp hclose
  exact hv.request

/-- **What a stream that is closed has received depends on its octets alone**, but for the times. -/
theorem received_sameBut {request : StreamRequest} {dispatch dispatch' : ℤ}
    {fixture fixture' : Option Str} {calls calls' : List StreamCall} {offset offset' : ℤ}
    {chain chain' : RequestIdentityChain} {v w v' w' : Stage2StreamValidator}
    (hv : InFlight request dispatch fixture calls v)
    (hclose : closeChecks offset chain v = (.ok (), w))
    (hv' : InFlight request dispatch' fixture' calls' v')
    (hclose' : closeChecks offset' chain' v' = (.ok (), w'))
    (hbody : (bodyChunks calls).flatten = (bodyChunks calls').flatten) :
    w.received.SameBut w'.received := by
  have hread := frames_of_closed hv hclose
  rw [hbody, frames_of_closed hv' hclose'] at hread
  have hframes := congrArg Prod.fst (Except.ok.inj hread)
  obtain ⟨readings, hreads, -, hreceived⟩ := hv.replayed.closeChecks hclose
  obtain ⟨readings', hreads', -, hreceived'⟩ := hv'.replayed.closeChecks hclose'
  rw [hv.closeChecks_request hclose] at hreads
  rw [hv'.closeChecks_request hclose'] at hreads'
  rw [hreceived, hreceived']
  exact (Received.SameBut.refl _).afterAll (readings_eq_of_frames hreads hreads' hframes.symm)

end Stage2StreamValidator

end

/-! ## The evidence -/

/-- The same evidence, up to its times. -/
structure Stage2RequestEvidence.SameBut (a b : Stage2RequestEvidence) : Prop where
  returned : a.returnedPromptTokenIds = b.returnedPromptTokenIds
  sent : a.sentPromptTokenIds = b.sentPromptTokenIds
  events : a.tokenEvents.map (·.content) = b.tokenEvents.map (·.content)
  output : a.finalOutputTokenIds = b.finalOutputTokenIds
  finishReason : a.finishReason = b.finishReason
  carried : a.terminalEventCarriedTokenIds = b.terminalEventCarriedTokenIds
  text : a.outputText = b.outputText
  digest : a.outputTextSha256 = b.outputTextSha256
  usage : a.usage = b.usage
  serverMetrics : a.serverPerRequestMetrics = b.serverPerRequestMetrics
  tpot : a.clientGenerationTpot.unavailableReason = b.clientGenerationTpot.unavailableReason
  itl : a.tokenObservationItl.unavailableReason = b.tokenObservationItl.unavailableReason

/-- Whether an event has more than one id does not depend on the times. -/
theorem isGrouped_congr {events events' : List Stage2TokenEvent}
    (h : events.map (·.content) = events'.map (·.content)) :
    isGrouped (tokenBearing events) = isGrouped (tokenBearing events') := by
  induction events generalizing events' with
  | nil =>
    obtain rfl : events' = [] := by simpa using h.symm
    rfl
  | cons event events ih =>
    cases events' with
    | nil => cases h
    | cons event' events' =>
      obtain ⟨hevent, hrest⟩ := List.cons.inj h
      have hids : event.outputTokenIds = event'.outputTokenIds := congrArg Prod.fst hevent
      have hrest := ih hrest
      unfold isGrouped tokenBearing at hrest ⊢
      rw [List.filter_cons, List.filter_cons, hids]
      split
      · rw [List.any_cons, List.any_cons, hrest, hids]
      · exact hrest

namespace Stage2StreamValidator

/-- The metrics are unavailable exactly when an event has more than one id. -/
theorem clientMetrics_unavailable [MetricArithmetic] {v : Stage2StreamValidator}
    {parts : EvidenceParts} {tpot itl : MetricAvailability}
    (h : v.clientMetrics parts = .ok (tpot, itl)) :
    tpot.unavailableReason =
        (if isGrouped (tokenBearing v.tokenEvents) then some .groupedTokenEvent else none) ∧
      itl.unavailableReason =
        (if isGrouped (tokenBearing v.tokenEvents) then some .groupedTokenEvent else none) := by
  unfold clientMetrics at h
  dsimp only at h
  split at h
  · next hgrouped =>
    obtain ⟨rfl, rfl⟩ := Prod.mk.inj (Except.ok.inj h)
    rw [if_pos hgrouped]
    exact ⟨rfl, rfl⟩
  · next hgrouped =>
    obtain ⟨_, -, h⟩ := bind_eq_ok.mp h
    obtain ⟨_, htpot, h⟩ := bind_eq_ok.mp h
    obtain ⟨_, -, h⟩ := bind_eq_ok.mp h
    obtain ⟨_, hitl, h⟩ := bind_eq_ok.mp h
    obtain ⟨rfl, rfl⟩ := Prod.mk.inj (Except.ok.inj h)
    obtain ⟨_, -, -, rfl⟩ := MetricAvailability.ofValue_eq_ok.mp htpot
    obtain ⟨_, -, -, rfl⟩ := MetricAvailability.ofValue_eq_ok.mp hitl
    rw [if_neg hgrouped]
    exact ⟨rfl, rfl⟩

/-- Evidence of the same received fields is the same, up to its times. -/
theorem evidence_sameBut [Interpreter] [MetricArithmetic] {v v' : Stage2StreamValidator}
    {chain chain' : RequestIdentityChain} {a b : Stage2RequestEvidence}
    (hrequest : v.request = v'.request) (hsame : v.received.SameBut v'.received)
    (ha : v.evidence chain = .ok a) (hb : v'.evidence chain' = .ok b) : a.SameBut b := by
  -- -- both records are built from their validator's parts
  obtain ⟨parts, tpot, itl, _, octets, _, hparts, hmetrics, -, hoctets, -, hcreate⟩ :=
    evidence_eq_ok.mp ha
  obtain ⟨parts', tpot', itl', _, octets', _, hparts', hmetrics', -, hoctets', -, hcreate'⟩ :=
    evidence_eq_ok.mp hb
  obtain ⟨rfl, -, -⟩ := Stage2RequestEvidence.create_eq_ok.mp hcreate
  obtain ⟨rfl, -, -⟩ := Stage2RequestEvidence.create_eq_ok.mp hcreate'
  obtain ⟨-, husage, hserver, hcarried, -⟩ := evidenceParts_eq_ok.mp hparts
  obtain ⟨-, husage', hserver', hcarried', -⟩ := evidenceParts_eq_ok.mp hparts'
  have hevents : v.tokenEvents.map (·.content) = v'.tokenEvents.map (·.content) := hsame.events
  have htexts : v.outputTextParts = v'.outputTextParts := hsame.texts
  have hgrouped := isGrouped_congr hevents
  -- -- no time derived from a grouped stream enters the comparison
  obtain ⟨htpot, hitl⟩ := clientMetrics_unavailable hmetrics
  obtain ⟨htpot', hitl'⟩ := clientMetrics_unavailable hmetrics'
  -- -- the same texts have the same octets, and so the same digest
  have hdigest : octets = octets' := by
    rw [htexts, hoctets'] at hoctets
    exact (Option.some.inj hoctets).symm
  exact
    { returned := congrArg StreamRequest.prompt hrequest
      sent := congrArg StreamRequest.prompt hrequest
      events := hevents
      output := hsame.outputIds
      finishReason := rfl
      carried := Option.some.inj (hcarried.symm.trans (hsame.carried.trans hcarried'))
      text := congrArg List.flatten htexts
      digest := congrArg Interpreter.hexdigest hdigest
      usage := Option.some.inj (husage.symm.trans (hsame.usage.trans husage'))
      serverMetrics := Option.some.inj (hserver.symm.trans (hsame.serverMetrics.trans hserver'))
      tpot := htpot.trans (by rw [hgrouped]; exact htpot'.symm)
      itl := hitl.trans (by rw [hgrouped]; exact hitl'.symm) }

end Stage2StreamValidator

/-! ## The restarts of a case -/

/-- The record of a restart, as the experiment compares it with the evidence of the request. -/
def Stage2RequestEvidence.restartRecord (evidence : Stage2RequestEvidence) (caseId : Str)
    (repetitionIndex : ℤ) (bundleManifestSha256 : Str) : RestartSemanticRecord where
  repetitionIndex := repetitionIndex
  bundleManifestSha256 := bundleManifestSha256
  caseId := caseId
  sentPromptTokenIds := evidence.sentPromptTokenIds.map Int.ofNat
  returnedPromptTokenIds := evidence.returnedPromptTokenIds.map Int.ofNat
  outputTokenIds := evidence.finalOutputTokenIds.map Int.ofNat
  finishReason := lit "length"
  promptTokens := evidence.usage.promptTokens
  completionTokens := evidence.usage.completionTokens
  totalTokens := evidence.usage.totalTokens
  outputTextSha256 := evidence.outputTextSha256

/-- The records of equal evidence differ in the repetition and its manifest. -/
theorem Stage2RequestEvidence.SameBut.restartRecord {a b : Stage2RequestEvidence}
    (h : a.SameBut b) (caseId : Str) (index index' : ℤ) (manifest manifest' : Str) :
    { a.restartRecord caseId index manifest with
      repetitionIndex := index', bundleManifestSha256 := manifest' } =
      b.restartRecord caseId index' manifest' := by
  simp only [Stage2RequestEvidence.restartRecord, h.sent, h.returned, h.output, h.usage, h.digest]

theorem Stage2RequestEvidence.SameBut.semanticallyEqual {a b : Stage2RequestEvidence}
    (h : a.SameBut b) (caseId : Str) (index index' : ℤ) (manifest manifest' : Str) :
    SemanticallyEqual (a.restartRecord caseId index manifest)
      (b.restartRecord caseId index' manifest') := by
  rw [← h.restartRecord caseId index index' manifest manifest']
  exact ⟨rfl, rfl, rfl, rfl, rfl, rfl, rfl, rfl, rfl⟩

section

variable [Interpreter] [MetricArithmetic]

/-- Calls none of which raised, whatever the chunks of the octets, the offsets and the clock, and a
close that returned the evidence. -/
def Yields (request : StreamRequest) (chain : RequestIdentityChain) (body : Bytes)
    (evidence : Stage2RequestEvidence) : Prop :=
  ∃ dispatch fixture clock calls offset v w,
    accepted Stage2StreamValidator.call (Stage2StreamValidator.start request dispatch fixture clock)
      calls = some v ∧
    Stage2StreamValidator.closeTransport offset chain v = (.ok evidence, w) ∧
    (bodyChunks calls).flatten = body

theorem Yields.sameBut {request : StreamRequest} {chain : RequestIdentityChain} {body : Bytes}
    {a b : Stage2RequestEvidence} (ha : Yields request chain body a)
    (hb : Yields request chain body b) : a.SameBut b := by
  obtain ⟨_, _, _, calls, offset, v, w, hv, hclose, hbody⟩ := ha
  obtain ⟨_, _, _, calls', offset', v', w', hv', hclose', hbody'⟩ := hb
  have hflight := Stage2StreamValidator.inFlight_of_accepted hv
  have hflight' := Stage2StreamValidator.inFlight_of_accepted hv'
  obtain ⟨hchecks, hevidence⟩ := Stage2StreamValidator.closeTransport_eq_ok.mp hclose
  obtain ⟨hchecks', hevidence'⟩ := Stage2StreamValidator.closeTransport_eq_ok.mp hclose'
  have hsame := Stage2StreamValidator.received_sameBut hflight hchecks hflight' hchecks'
    (hbody.trans hbody'.symm)
  have hrequest := (hflight.closeChecks_request hchecks).trans
    (hflight'.closeChecks_request hchecks').symm
  exact Stage2StreamValidator.evidence_sameBut hrequest hsame hevidence hevidence'

/-- **The evidence does not depend on the chunks and the clocks**, but for its times; the records of
three restarts of a case with the same octets are compared without a mismatch. -/
theorem evidence_independent_of_chunks (request : StreamRequest) (chain : RequestIdentityChain)
    (body : Bytes) :
    (∀ a b, Yields request chain body a → Yields request chain body b →
      a.SameBut b ∧ ∀ caseId index index' manifest manifest',
        { a.restartRecord caseId index manifest with
          repetitionIndex := index', bundleManifestSha256 := manifest' } =
          b.restartRecord caseId index' manifest') ∧
    ∀ a b c, Yields request chain body a → Yields request chain body b →
      Yields request chain body c → ∀ caseId manifest manifest' manifest'' records,
        records.Perm [a.restartRecord caseId 1 manifest, b.restartRecord caseId 2 manifest',
          c.restartRecord caseId 3 manifest''] →
        compareThreeRestarts records =
          .ok { caseId := caseId, state := .committed, mismatches := [] } := by
  constructor
  · intro a b ha hb
    exact ⟨ha.sameBut hb, (ha.sameBut hb).restartRecord⟩
  · intro a b c ha hb hc caseId manifest manifest' manifest'' records hperm
    rw [compareThreeRestarts_perm hperm, compareThreeRestarts_eq_ok rfl]
    refine ⟨by simp [Stage2RequestEvidence.restartRecord], _, _, rfl, ?_⟩
    have hnone : semanticMismatches (a.restartRecord caseId 1 manifest)
        [b.restartRecord caseId 2 manifest', c.restartRecord caseId 3 manifest''] = [] := by
      rw [semanticMismatches_eq_nil]
      intro candidate hcandidate
      rcases List.mem_pair.mp hcandidate with rfl | rfl
      · exact (hb.sameBut ha).semanticallyEqual caseId 2 1 manifest' manifest
      · exact (hc.sameBut ha).semanticallyEqual caseId 3 1 manifest'' manifest
    rw [compareWithBaseline, hnone]
    rfl

end

/-! ### One stream in two cuts -/

theorem isExternalRequestId_sample : IsExternalRequestId (lit "a") := by decide

theorem length_samplePrompt : (List.replicate 64 0 : List ℕ).length = 64 := List.length_replicate

/-- A request for tokens that are all zero. -/
def sampleStreamRequest : StreamRequest where
  externalBaseId := lit "a"
  prompt := List.replicate 64 0
  external := isExternalRequestId_sample
  length_prompt := length_samplePrompt

/-- An array of one token, some times. -/
def sampleTokens (count : ℕ) (token : String) : Str :=
  lit "[" ++ List.intercalate (lit ",") (List.replicate count (lit token)) ++ lit "]"

/-- The octets of a data frame. -/
def sampleFrame (data : Str) : Bytes := ascii "data: " ++ data.map UInt8.ofNat ++ [LF, LF]

/-- The one generation event of a stream. -/
def sampleGeneration (text : String) : Bytes :=
  sampleFrame (lit "\x7b\"id\":\"cmpl-a\",\"choices\":[\x7b\"index\":0,\"text\":\"" ++ lit text ++
    lit "\",\"token_ids\":" ++ sampleTokens 32 "7" ++
    lit ",\"finish_reason\":\"length\",\"prompt_token_ids\":" ++ sampleTokens 64 "0" ++
    lit "\x7d]\x7d")

/-- One of several generation events: some ids, and the fields that not every event has. -/
def samplePart (count : ℕ) (text : String) (more : Str) : Bytes :=
  sampleFrame (lit "\x7b\"id\":\"cmpl-a\",\"choices\":[\x7b\"index\":0,\"text\":\"" ++ lit text ++
    lit "\",\"token_ids\":" ++ sampleTokens count "7" ++ more ++ lit "\x7d]\x7d")

/-- The usage terminal of a stream, with its metrics. -/
def sampleUsage (metrics : String) : Bytes :=
  sampleFrame (lit "\x7b\"id\":\"cmpl-a\",\"choices\":[],\"usage\":\x7b\"prompt_tokens\":64," ++
    lit "\"completion_tokens\":32,\"total_tokens\":96\x7d,\"metrics\":\x7b" ++ lit metrics ++
    lit "\x7d\x7d")

/-- Metrics that are all null. -/
def sampleMetrics : String :=
  "\"time_to_first_token_ms\":null,\"generation_time_ms\":null,\"queue_time_ms\":null," ++
    "\"mean_itl_ms\":null,\"tokens_per_second\":null"

/-- The octets of the final frame. -/
def sampleDone : Bytes := ascii "data: [DONE]" ++ [LF, LF]

section

attribute [local instance] cpython binary64Metrics

/-- The chain of the request. -/
def sampleChain : RequestIdentityChain :=
  honestChain (lit "a") (lit "1234abcd") sampleReceived (sampleAdded (lit "1234abcd")) none

/-- A clock that starts at ten. -/
def sampleClock : FrameClock where
  readings n := .ok (10 + n)

/-- The calls that read the chunks, one after the other. -/
def sampleCalls (chunks : List Bytes) : List StreamCall :=
  .acceptResponseHeaders (lit "a") 0 ::
    chunks.zipIdx.map fun chunk => .feed chunk.1 (chunk.2 + 1)

/-- The evidence of a stream that is closed. -/
def sampleStream (clock : Option FrameClock) (chunks : List Bytes) :
    Option Stage2RequestEvidence :=
  (accepted Stage2StreamValidator.call
      (Stage2StreamValidator.start sampleStreamRequest 0 none clock) (sampleCalls chunks)).bind
    fun v => (Stage2StreamValidator.closeTransport 100 sampleChain v).1.toOption

theorem bodyChunks_sampleCalls (chunks : List Bytes) :
    bodyChunks (sampleCalls chunks) = chunks := by
  rw [bodyChunks, sampleCalls, List.filterMap_cons_none rfl, List.filterMap_map]
  change List.filterMap (fun chunk => some chunk.1) chunks.zipIdx = chunks
  rw [List.filterMap_eq_map', List.zipIdx_map_fst]

theorem yields_sampleStream {clock : Option FrameClock} {chunks : List Bytes}
    {evidence : Stage2RequestEvidence} (h : sampleStream clock chunks = some evidence) :
    Yields sampleStreamRequest sampleChain chunks.flatten evidence := by
  obtain ⟨v, hv, hclose⟩ := Option.bind_eq_some_iff.mp h
  refine ⟨0, none, clock, sampleCalls chunks, 100, v, _, hv, Method.eq_mk_snd ?_, ?_⟩
  · cases hresult : (Stage2StreamValidator.closeTransport 100 sampleChain v).1 with
    | error e => simp [hresult, Except.toOption] at hclose
    | ok e => simpa [hresult, Except.toOption] using hclose
  · rw [bodyChunks_sampleCalls]

/-- The stream in three reads without a clock, and in one read with a clock. -/
theorem evidence_independent_of_chunks_cuts :
    ∃ a b, Yields sampleStreamRequest sampleChain
        [sampleGeneration "x", sampleUsage sampleMetrics, sampleDone].flatten a ∧
      Yields sampleStreamRequest sampleChain
        [sampleGeneration "x", sampleUsage sampleMetrics, sampleDone].flatten b ∧
      a.timing ≠ b.timing ∧ a.SameBut b := by
  obtain ⟨a, ha, hthree⟩ := exists_eq_some
    (p := fun e : Stage2RequestEvidence => e.timing.usageTerminalOffsetNs = 2)
    (show (sampleStream none [sampleGeneration "x", sampleUsage sampleMetrics, sampleDone]).any
      (fun e => decide (e.timing.usageTerminalOffsetNs = 2)) = true by decide +kernel)
  obtain ⟨b, hb, hone⟩ := exists_eq_some
    (p := fun e : Stage2RequestEvidence => e.timing.usageTerminalOffsetNs = 10)
    (show (sampleStream (some sampleClock)
      [[sampleGeneration "x", sampleUsage sampleMetrics, sampleDone].flatten]).any
      (fun e => decide (e.timing.usageTerminalOffsetNs = 10)) = true by decide +kernel)
  have hb := yields_sampleStream hb
  rw [List.flatten_singleton] at hb
  refine ⟨a, b, yields_sampleStream ha, hb, ?_, ?_⟩
  · intro htiming
    rw [htiming, hone] at hthree
    cases hthree
  · exact ((evidence_independent_of_chunks sampleStreamRequest sampleChain _).1 a b
      (yields_sampleStream ha) hb).1

end

end Stage2
