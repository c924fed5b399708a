import LlmInferenceSystems.Stage2.HonestLogs

/-!
# Isolation of requests

The correlation of one request is refused when the log names another request, by its serving id or
by an engine's id. The greedy pattern finds each of them where it stands between characters that no
identifier has, whole but for one case: of an engine's id whose suffix starts with `0` it takes only
what goes up to that `0`, which is the serving id of a request that is named like the other one with
`-0` at its end.

## Main definitions

* `Bounded`: an identifier between characters that no identifier has
* `IsOwnId`: the identifiers of a request
* `requestLog`: a log of any request

## Main results

* `correlateRequestLogs_isolates_iff`: which identifiers of another request are refused
-/

namespace Stage2

open Python Regex

/-- A text between characters that no identifier has, or the ends of the line. -/
def Bounded (text line : Str) : Prop :=
  ∃ pre post, line = pre ++ text ++ post ∧ pre.getLast?.any isIdChar = false ∧
    post.head?.any isIdChar = false

/-- The identifiers under which a request shows in the log. -/
inductive IsOwnId (base : Str) : Str → Prop
  | serving : IsOwnId base (servingItemId base)
  | engine {suffix : Str} (h : IsSuffix suffix) : IsOwnId base (internalEngineId base suffix)

/-! ## Identifiers of different requests -/

theorem servingItemId_inj {base other : Str} :
    servingItemId base = servingItemId other ↔ base = other := by
  simp [servingItemId, responseBodyId]

theorem servingItemId_append (base : Str) :
    servingItemId base ++ lit "-0" = servingItemId (base ++ lit "-0") := by
  simp [servingItemId, responseBodyId]

/-- A suffix has no dash, but a serving id has one before its last character. -/
theorem servingItemId_ne_internalEngineId {base other suffix : Str} (h : IsSuffix suffix) :
    servingItemId base ≠ internalEngineId other suffix := by
  obtain ⟨init, c, d, rfl⟩ : ∃ init c d, suffix = init ++ [c, d] := by
    rcases List.eq_nil_or_concat suffix with rfl | ⟨front, d, rfl⟩
    · simp [IsSuffix] at h
    · rcases List.eq_nil_or_concat front with rfl | ⟨init, c, rfl⟩
      · simp [IsSuffix] at h
      · exact ⟨init, c, d, by simp⟩
  intro heq
  have hlast : [45, 48] = [c, d] := by
    have hzero : lit "-0" = [45, 48] := by decide
    rw [servingItemId, internalEngineId, hzero, ← List.append_assoc] at heq
    exact (List.append_inj' heq rfl).2
  have hc : isHexDigit c = true := h.2 c (by simp)
  rw [← (List.cons.inj hlast).1] at hc
  exact absurd hc (by decide)

theorem internalEngineId_inj {base other suffix suffix' : Str} (h : IsSuffix suffix)
    (h' : IsSuffix suffix') (heq : internalEngineId base suffix = internalEngineId other suffix') :
    base = other := by
  rw [internalEngineId, internalEngineId] at heq
  have hserving := (List.append_inj' heq (by rw [h.1, h'.1])).1
  exact servingItemId_inj.mp (List.append_cancel_right hserving)

theorem isSuffix_of_isOwnId {base suffix : Str}
    (h : IsOwnId base (internalEngineId base suffix)) : IsSuffix suffix := by
  generalize hid : internalEngineId base suffix = id at h
  cases h with
  | serving =>
    have hlength := congrArg List.length hid
    have hdash : (lit "-").length = 1 := by decide
    rw [internalEngineId, List.length_append, List.length_append, hdash] at hlength
    omega
  | @engine suffix' hsuffix =>
    have hsame : suffix = suffix' := by simpa [internalEngineId] using hid
    rwa [hsame]

/-! ## What the greedy pattern finds -/

theorem isIdChar_cmpl : ∀ c ∈ lit "cmpl-", isIdChar c = true := by decide

/-- The pattern does not look past a character that no identifier has. -/
theorem stopsAt_genericIdPattern_of_not {c : ℕ} (h : isIdChar c = false) :
    StopsAt c genericIdPattern := by
  have hliteral : ∀ text : Str, (∀ d ∈ text, isIdChar d = true) → StopsAt c (literal text) := by
    intro text htext
    apply stopsAt_literal
    intro hc
    rw [htext c hc] at h
    cases h
  have hhex : isHexDigit c = false := by
    by_contra hc
    rw [Bool.not_eq_false] at hc
    rw [(isIdChar_hex hc).1] at h
    cases h
  exact ⟨hliteral _ isIdChar_cmpl, h, hliteral _ isIdChar_dash_zero,
    ⟨hliteral _ (by decide), hhex⟩, trivial⟩

theorem IsOwnId.exists_run {base id : Str} (hid : IsOwnId base id) :
    ∃ run, run ≠ [] ∧ id = lit "cmpl-" ++ run := by
  have hzero : lit "-0" ≠ [] := by decide
  cases hid with
  | serving =>
    exact ⟨base ++ lit "-0", by simp [hzero], by simp [servingItemId, responseBodyId]⟩
  | @engine suffix h =>
    exact ⟨base ++ lit "-0" ++ lit "-" ++ suffix, by simp [hzero], by
      simp [internalEngineId, servingItemId, responseBodyId]⟩

/-- An identifier of a request does not end in a full stop. -/
theorem trimStops_of_isOwnId {base id : Str} (hid : IsOwnId base id) : trimStops id = id := by
  have hlast : id.getLast? ≠ some 46 := by
    cases hid with
    | serving =>
      rw [servingItemId, show lit "-0" = [45] ++ [48] by decide, ← List.append_assoc,
        List.getLast?_concat]
      decide
    | @engine suffix h =>
      obtain ⟨init, c, rfl, hc⟩ := h.exists_concat
      rw [internalEngineId, ← List.append_assoc, List.getLast?_concat]
      rintro ⟨rfl⟩
      exact absurd hc (by decide)
  have hstarts := prefix_trimStops (List.prefix_refl id) hlast
  obtain ⟨stops, htrim, -⟩ := trimStops_append id
  have hlength : (trimStops id).length ≤ id.length := by
    rw [congrArg List.length htrim, List.length_append]
    omega
  exact (hstarts.eq_of_length_le hlength).symm

section

variable [Interpreter]

/-- The match at an identifier of a request, and the scan after it. -/
theorem texts_finditer_own {base suffix id post : Str} (hbase : IsExternalRequestId base)
    (hsuffix : IsSuffix suffix) (hid : id = servingItemId base ∨ id = internalEngineId base suffix)
    (hpost : post.head?.any isIdChar = false) :
    texts (finditer isWord genericIdPattern (id ++ post)) =
      genericId base suffix id :: texts (finditer isWord genericIdPattern post) := by
  have hown : IsOwnId base id := by
    rcases hid with rfl | rfl
    · exact .serving
    · exact .engine hsuffix
  obtain ⟨run, -, hrun⟩ := hown.exists_run
  have htrim : trimStops (lit "cmpl-" ++ run) = id := by
    rw [← hrun, trimStops_of_isOwnId hown]
  have hat := texts_finditer_generic_at hbase hsuffix hpost (htrim.symm ▸ hid)
  rwa [htrim, ← List.append_assoc, ← hrun] at hat

/-- **What is found of an identifier of another request.** -/
theorem genericId_mem {base suffix id line : Str} (hbase : IsExternalRequestId base)
    (hsuffix : IsSuffix suffix) (hid : id = servingItemId base ∨ id = internalEngineId base suffix)
    (h : Bounded id line) :
    genericId base suffix id ∈ texts (finditer isWord genericIdPattern line) := by
  obtain ⟨pre, post, rfl, hpre, hpost⟩ := h
  have hscan := texts_finditer_own hbase hsuffix hid hpost
  rcases List.eq_nil_or_concat pre with rfl | ⟨init, c, rfl⟩
  · rw [List.nil_append, hscan]
    exact List.mem_cons_self
  · have hc : isIdChar c = false := by simpa using hpre
    have hline : init.concat c ++ id ++ post = init ++ c :: (id ++ post) := by simp
    rw [hline, finditer_separator (stopsAt_genericIdPattern_of_not hc), hscan]
    exact List.mem_append_right _ List.mem_cons_self

/-! ## Requests are told apart -/

/-- **An identifier of another request is refused**, unless it is an engine's id whose suffix starts
with `0` and the request is named like the other one with `-0` at its end. -/
theorem correlateRequestLogs_isolates {base other id : Str} (hother : IsExternalRequestId other)
    (hne : other ≠ base) (hid : IsOwnId other id)
    (hnot : ¬ (base = other ++ lit "-0" ∧
      ∃ suffix, id = internalEngineId other suffix ∧ suffix.head? = some 48))
    {records : List RawLogRecord} {cancellation : Bool}
    (hmem : ∃ record ∈ records, Bounded id record.rawRecord) :
    ∃ message, correlateRequestLogs base records cancellation =
      .error (.stage2Protocol message) := by
  cases hcall : correlateRequestLogs base records cancellation with
  | error e =>
    -- every error of the correlation is one of the protocol
    have hclass := raisesOnly_correlateRequestLogs e hcall
    cases e <;> first | exact ⟨_, rfl⟩ | cases hclass
  | ok chain =>
  exfalso
  have hcorrelated := correlateRequestLogs_eq_ok.mp hcall
  -- were a chain returned, its ids would be those of `base`
  obtain ⟨own, hown, hinternal⟩ := hcorrelated.valid.internal
  rw [hcorrelated.base] at hinternal
  have hids := hcorrelated.ids
  rw [hinternal] at hids
  obtain ⟨record, hrecord, hbounded⟩ := hmem
  -- but the generic pattern finds the other id in the record
  have hfound : ∀ {suffix : Str}, IsSuffix suffix →
      id = servingItemId other ∨ id = internalEngineId other suffix →
        genericId other suffix id ∈ [servingItemId base, internalEngineId base own] :=
    fun hsuffix hcase => hids _ (List.mem_flatMap.mpr
      ⟨record, hrecord, genericId_mem hother hsuffix hcase hbounded⟩)
  cases hid with
  | serving =>
    have hfound := hfound hown (.inl rfl)
    rw [genericId, if_pos rfl] at hfound
    -- a serving id is that of `base` alone, and no engine id is one
    rcases List.mem_pair.mp hfound with hserving | hengine
    · exact hne (servingItemId_inj.mp hserving)
    · exact servingItemId_ne_internalEngineId hown hengine
  | @engine suffix hsuffix =>
    have hfound := hfound hsuffix (.inr rfl)
    rw [genericId, if_neg (servingItemId_ne_internalEngineId hsuffix).symm] at hfound
    by_cases hzero : suffix.head? = some 48
    · -- what is found is the serving id of the request whose name has `-0` at its end
      rw [if_pos hzero, servingItemId_append] at hfound
      rcases List.mem_pair.mp hfound with hserving | hengine
      · exact hnot ⟨(servingItemId_inj.mp hserving).symm, suffix, rfl, hzero⟩
      · exact servingItemId_ne_internalEngineId hown hengine
    · rw [if_neg hzero] at hfound
      rcases List.mem_pair.mp hfound with hserving | hengine
      · exact servingItemId_ne_internalEngineId hsuffix hserving.symm
      · exact hne (internalEngineId_inj hsuffix hown hengine)

end

/-! ## Messages among words -/

/-- A word without a space ends after any space before its end. -/
theorem exists_append_of_space {pre word v gap : Str} (hword : 32 ∉ word)
    (h : pre ++ word = v ++ 32 :: gap) : ∃ front, gap = front ++ word := by
  have h : pre ++ word = (v ++ [32]) ++ gap := by simpa using h
  rcases List.append_eq_append_iff.mp h with ⟨part, hpart, rfl⟩ | ⟨front, -, hfront⟩
  · rcases List.eq_nil_or_concat part with rfl | ⟨init, d, rfl⟩
    · exact ⟨[], rfl⟩
    · have hspace : 32 = d := by
        rw [List.concat_eq_append, ← List.append_assoc] at hpart
        exact List.singleton_inj.mp (List.append_inj' hpart rfl).2
      exact absurd (by simp [hspace]) hword
  · exact ⟨front, hfront⟩

/-- A text that starts with a word occurs in a line of words only where a word ends with that
word. -/
theorem exists_suffix_of_within {word message : Str} (hword : 32 ∉ word) {words : List Str}
    (hwords : ∀ v ∈ words, 32 ∉ v) (h : word ++ 32 :: message <:+: [32].intercalate words) :
    ∃ v ∈ words.dropLast, word <:+ v := by
  have hnone : ∀ line : Str, 32 ∉ line → ¬ word ++ 32 :: message <:+: line := fun line hline hin =>
    hline (hin.subset (by simp))
  induction words with
  | nil => exact absurd h (hnone _ (by simp))
  | cons v words ih =>
    obtain ⟨hv, hrest⟩ := List.forall_mem_cons.mp hwords
    cases words with
    | nil => exact absurd h (hnone _ (by simpa using hv))
    | cons next words =>
      rw [List.intercalate_cons_cons] at h
      obtain ⟨pre, post, hline⟩ := h
      have hline : pre ++ word ++ 32 :: (message ++ post) =
          v ++ 32 :: [32].intercalate (next :: words) := by
        simpa using hline
      -- the first word of the text ends before, at or after the first space of the line
      rcases List.append_eq_append_iff.mp hline with ⟨gap, hgap, hafter⟩ | ⟨gap, hgap, hafter⟩
      · cases gap with
        | nil =>
          rw [List.append_nil] at hgap
          exact ⟨v, by simp, ⟨pre, hgap.symm⟩⟩
        | cons c gap =>
          obtain ⟨rfl, -⟩ := List.cons.inj hafter
          exact absurd (hgap ▸ by simp) hv
      · cases gap with
        | nil =>
          rw [List.append_nil] at hgap
          exact ⟨v, by simp, ⟨pre, hgap⟩⟩
        | cons c gap =>
          obtain ⟨rfl, htail⟩ := List.cons.inj hafter
          have hlater : word ++ 32 :: message <:+: [32].intercalate (next :: words) := by
            obtain ⟨front, rfl⟩ := exists_append_of_space hword hgap
            exact ⟨front, post, by simpa using htail.symm⟩
          obtain ⟨u, hu, hsuffix⟩ := ih hrest hlater
          exact ⟨u, by simpa using .inr hu, hsuffix⟩

/-- The messages of a request: the first word, and the words after it. -/
def messageWords (base suffix : Str) : List (Str × List Str) :=
  [(lit "Received", [lit "request", servingItemId base ++ lit ":"]),
    (lit "Added", [lit "request", internalEngineId base suffix ++ lit "."]),
    (lit "Aborted", [lit "request(s)", internalEngineId base suffix ++ lit "."]),
    (lit "Request", [servingItemId base, lit "aborted."])]

/-- The words, written. -/
def spaced (words : Str × List Str) : Str := [32].intercalate (words.1 :: words.2)

theorem spaced_messageWords (base suffix : Str) :
    (messageWords base suffix).map spaced =
      [receivedMessage (servingItemId base), addedMessage (internalEngineId base suffix),
        internalAbortMessage (internalEngineId base suffix),
        externalAbortMessage (servingItemId base)] := by
  have hreceived : lit "Received request " = lit "Received" ++ 32 :: (lit "request" ++ [32]) := by
    decide
  have hadded : lit "Added request " = lit "Added" ++ 32 :: (lit "request" ++ [32]) := by decide
  have haborted : lit "Aborted request(s) " = lit "Aborted" ++ 32 :: (lit "request(s)" ++ [32]) := by
    decide
  have hrequest : lit "Request " = lit "Request" ++ [32] := by decide
  have hend : lit " aborted." = 32 :: lit "aborted." := by decide
  simp [messageWords, spaced, receivedMessage, addedMessage, internalAbortMessage,
    externalAbortMessage, hreceived, hadded, haborted, hrequest, hend]

theorem isIdChar_servingItemId {base : Str} (h : IsExternalRequestId base) :
    ∀ c ∈ servingItemId base, isIdChar c = true := by
  intro c hc
  rcases List.mem_append.mp hc with hc | hc
  · exact (List.mem_append.mp hc).elim (isIdChar_cmpl c) (h.isIdChar c)
  · exact isIdChar_dash_zero c hc

theorem isIdChar_internalEngineId {base suffix : Str} (h : IsExternalRequestId base)
    (hsuffix : IsSuffix suffix) : ∀ c ∈ internalEngineId base suffix, isIdChar c = true := by
  intro c hc
  rcases List.mem_append.mp hc with hc | hc
  · rcases List.mem_append.mp hc with hc | hc
    · exact isIdChar_servingItemId h c hc
    · exact (by decide : ∀ c ∈ lit "-", isIdChar c = true) c hc
  · exact (isIdChar_hex (hsuffix.2 c hc)).1

theorem not_mem_space {text : Str} (h : ∀ c ∈ text, isIdChar c = true) : 32 ∉ text :=
  fun hc => absurd (h 32 hc) (by decide)

theorem space_not_mem_messageWords {base suffix : Str} (hbase : IsExternalRequestId base)
    (hsuffix : IsSuffix suffix) :
    ∀ words ∈ messageWords base suffix, ∀ v ∈ words.1 :: words.2, 32 ∉ v := by
  have hserving := not_mem_space (isIdChar_servingItemId hbase)
  have hengine := not_mem_space (isIdChar_internalEngineId hbase hsuffix)
  simp only [messageWords, List.forall_mem_cons, List.not_mem_nil, false_implies, implies_true,
    and_true, List.mem_append, not_or]
  exact ⟨⟨by decide, by decide, hserving, by decide⟩, ⟨by decide, by decide, hengine, by decide⟩,
    ⟨by decide, by decide, hengine, by decide⟩, by decide, hserving, by decide⟩

theorem exists_spaced {base suffix : Str} :
    ∀ words ∈ messageWords base suffix, ∃ message, spaced words = words.1 ++ 32 :: message := by
  simp only [messageWords, List.forall_mem_cons, List.not_mem_nil, false_implies, implies_true,
    and_true, spaced, List.intercalate_cons_cons, List.append_assoc, List.singleton_append]
  exact ⟨⟨_, rfl⟩, ⟨_, rfl⟩, ⟨_, rfl⟩, _, rfl⟩

/-- The words with which the messages start. -/
def firstWords : List Str := [lit "Received", lit "Added", lit "Aborted", lit "Request"]

theorem first_mem_firstWords {base suffix : Str} :
    ∀ words ∈ messageWords base suffix, words.1 ∈ firstWords := by
  simp [messageWords, firstWords]

/-- A first word ends no other word that is followed by a space. -/
theorem eq_of_firstWord_suffix {base suffix word : Str} (hword : word ∈ firstWords) :
    ∀ words ∈ messageWords base suffix, ∀ v ∈ (words.1 :: words.2).dropLast,
      word <:+ v → word = words.1 := by
  have hserving : ¬ word <:+ servingItemId base := by
    have hlast : ∀ w ∈ firstWords, w ≠ [] ∧ w.getLast? ≠ some 48 := by decide
    rintro ⟨pre, hpre⟩
    refine (hlast word hword).2 ?_
    have hzero : servingItemId base = responseBodyId base ++ [45] ++ [48] := by
      rw [servingItemId, show lit "-0" = [45] ++ [48] by decide, List.append_assoc]
    rw [← List.getLast?_append_of_ne_nil pre (hlast word hword).1, hpre, hzero,
      List.getLast?_concat]
  have hfirst : ∀ w ∈ firstWords, ∀ v ∈ firstWords, w <:+ v → w = v := by decide
  have hsecond : ∀ w ∈ firstWords, ¬ w <:+ lit "request" ∧ ¬ w <:+ lit "request(s)" := by decide
  simp only [messageWords, List.forall_mem_cons, List.not_mem_nil, false_implies, implies_true,
    and_true, List.dropLast]
  refine ⟨⟨hfirst word hword _ (by decide), fun h => absurd h (hsecond word hword).1⟩,
    ⟨hfirst word hword _ (by decide), fun h => absurd h (hsecond word hword).1⟩,
    ⟨hfirst word hword _ (by decide), fun h => absurd h (hsecond word hword).2⟩,
    hfirst word hword _ (by decide), fun h => absurd h hserving⟩

/-- One message of a request does not occur in another. -/
theorem firstWord_of_within {base suffix suffix' : Str} (hbase : IsExternalRequestId base)
    (hsuffix : IsSuffix suffix) {words words' : Str × List Str}
    (hwords : words ∈ messageWords base suffix') (hwords' : words' ∈ messageWords base suffix)
    (h : spaced words <:+: spaced words') : words.1 = words'.1 := by
  obtain ⟨message, hmessage⟩ := exists_spaced words hwords
  have hfirst := first_mem_firstWords words hwords
  have hword : 32 ∉ words.1 := (by decide : ∀ w ∈ firstWords, 32 ∉ w) words.1 hfirst
  rw [hmessage] at h
  obtain ⟨v, hv, hend⟩ :=
    exists_suffix_of_within hword (space_not_mem_messageWords hbase hsuffix words' hwords') h
  exact eq_of_firstWord_suffix hfirst words' hwords' v hv hend

/-- The messages of a request, each with its first word. -/
def messages (base suffix : Str) : List (Str × Str) :=
  [(lit "Received", receivedMessage (servingItemId base)),
    (lit "Added", addedMessage (internalEngineId base suffix)),
    (lit "Aborted", internalAbortMessage (internalEngineId base suffix)),
    (lit "Request", externalAbortMessage (servingItemId base))]

theorem first_eq_of_within {base suffix suffix' : Str} (hbase : IsExternalRequestId base)
    (hsuffix : IsSuffix suffix) {message message' : Str × Str}
    (hmessage : message ∈ messages base suffix') (hmessage' : message' ∈ messages base suffix)
    (h : message.2 <:+: message'.2) : message.1 = message'.1 := by
  have hwords : ∀ tail : Str, messages base tail =
      (messageWords base tail).map fun words => (words.1, spaced words) := by
    intro tail
    have hspaced := spaced_messageWords base tail
    simp only [messageWords, List.map_cons, List.map_nil, List.cons.injEq, and_true] at hspaced
    obtain ⟨h₁, h₂, h₃, h₄⟩ := hspaced
    simp only [messages, messageWords, List.map_cons, List.map_nil, h₁, h₂, h₃, h₄]
  rw [hwords] at hmessage hmessage'
  obtain ⟨words, hmem, rfl⟩ := List.mem_map.mp hmessage
  obtain ⟨words', hmem', rfl⟩ := List.mem_map.mp hmessage'
  exact firstWord_of_within hbase hsuffix hmem hmem' h

/-! ## A log of any request -/

section

variable [Interpreter] {base suffix : Str}

/-- The records of the messages of a request. -/
def requestReceived (base : Str) : RawLogRecord :=
  sampleRecord 0 (receivedMessage (servingItemId base))

/-- The record of a request's admission. -/
def requestAdded (base suffix : Str) : RawLogRecord :=
  sampleRecord 1 (addedMessage (internalEngineId base suffix))

/-- The records of a request's abort, for a cancelled one. -/
def requestAborts (base suffix : Str) (cancellation : Bool) :
    Option (RawLogRecord × RawLogRecord) :=
  if cancellation then
    some (sampleRecord 2 (internalAbortMessage (internalEngineId base suffix)),
      sampleRecord 3 (externalAbortMessage (servingItemId base)))
  else none

/-- A log with nothing but the messages of one request. -/
def requestLog (base suffix : Str) (cancellation : Bool) : List RawLogRecord :=
  requestReceived base :: requestAdded base suffix ::
    abortRecords (requestAborts base suffix cancellation)

/-- A property of the log's records that holds of the record of each message. -/
theorem forall_mem_requestLog {p : RawLogRecord → Prop} (cancellation : Bool)
    (hreceived : p (requestReceived base)) (hadded : p (requestAdded base suffix))
    (hinternal : p (sampleRecord 2 (internalAbortMessage (internalEngineId base suffix))))
    (hexternal : p (sampleRecord 3 (externalAbortMessage (servingItemId base)))) :
    ∀ record ∈ requestLog base suffix cancellation, p record := by
  cases cancellation with
  | false =>
    simp only [requestLog, requestAborts, abortRecords, List.forall_mem_cons]
    exact ⟨hreceived, hadded, by simp⟩
  | true =>
    simp only [requestLog, requestAborts, abortRecords, List.forall_mem_cons]
    exact ⟨hreceived, hadded, by simp [hinternal, hexternal]⟩

/-- An identifier of a request after a space, whether or not it ends a sentence. -/
theorem identifiers_own {pre id stops rest : Str} (hbase : IsExternalRequestId base)
    (hid : IsOwnId base id) (hstops : stops = [] ∨ stops = [46])
    (hrest : rest.head?.any isIdChar = false) :
    identifiers (pre ++ 32 :: (id ++ stops ++ rest)) =
      identifiers pre ++ id :: identifiers rest := by
  have hchars : ∀ c ∈ id, isIdChar c = true := by
    cases hid with
    | serving => exact isIdChar_servingItemId hbase
    | engine hsuffix => exact isIdChar_internalEngineId hbase hsuffix
  have htrim : trimStops (id ++ stops) = id := by
    rcases hstops with rfl | rfl
    · rw [List.append_nil, trimStops_of_isOwnId hid]
    · rw [trimStops, List.rdropWhile_concat_pos _ _ _ (by decide)]
      exact trimStops_of_isOwnId hid
  obtain ⟨run, hne, rfl⟩ := hid.exists_run
  have hrun : ∀ c ∈ run ++ stops, isIdChar c = true := by
    intro c hc
    rcases List.mem_append.mp hc with hc | hc
    · exact hchars c (List.mem_append_right _ hc)
    · rcases hstops with rfl | rfl
      · simp at hc
      · obtain rfl := List.mem_singleton.mp hc
        decide
  have hline : lit "cmpl-" ++ run ++ stops ++ rest = lit "cmpl-" ++ ((run ++ stops) ++ rest) := by
    simp
  rw [hline, identifiers_run (by simp [hne]) hrun hrest, ← List.append_assoc, htrim]

theorem identifiers_receivedMessage (h : IsExternalRequestId base) :
    identifiers (receivedMessage (servingItemId base)) = [servingItemId base] := by
  have hline : receivedMessage (servingItemId base) =
      lit "Received request" ++ 32 :: (servingItemId base ++ [] ++ lit ":") := by
    rw [receivedMessage, show lit "Received request " = lit "Received request" ++ [32] by decide]
    simp
  rw [hline, identifiers_own h .serving (.inl rfl) (by decide)]
  rfl

theorem identifiers_addedMessage (h : IsExternalRequestId base) (hsuffix : IsSuffix suffix) :
    identifiers (addedMessage (internalEngineId base suffix)) =
      [internalEngineId base suffix] := by
  have hline : addedMessage (internalEngineId base suffix) =
      lit "Added request" ++ 32 :: (internalEngineId base suffix ++ [46] ++ []) := by
    rw [addedMessage, show lit "Added request " = lit "Added request" ++ [32] by decide]
    simp [show lit "." = [46] by decide]
  rw [hline, identifiers_own h (.engine hsuffix) (.inr rfl) rfl]
  rfl

theorem identifiers_internalAbortMessage (h : IsExternalRequestId base)
    (hsuffix : IsSuffix suffix) :
    identifiers (internalAbortMessage (internalEngineId base suffix)) =
      [internalEngineId base suffix] := by
  have hline : internalAbortMessage (internalEngineId base suffix) =
      lit "Aborted request(s)" ++ 32 :: (internalEngineId base suffix ++ [46] ++ []) := by
    rw [internalAbortMessage,
      show lit "Aborted request(s) " = lit "Aborted request(s)" ++ [32] by decide]
    simp [show lit "." = [46] by decide]
  rw [hline, identifiers_own h (.engine hsuffix) (.inr rfl) rfl]
  rfl

theorem identifiers_externalAbortMessage (h : IsExternalRequestId base) :
    identifiers (externalAbortMessage (servingItemId base)) = [servingItemId base] := by
  have hline : externalAbortMessage (servingItemId base) =
      lit "Request" ++ 32 :: (servingItemId base ++ [] ++ lit " aborted.") := by
    rw [externalAbortMessage, show lit "Request " = lit "Request" ++ [32] by decide]
    simp
  rw [hline, identifiers_own h .serving (.inl rfl) (by decide)]
  rfl

omit [Interpreter] in
/-- The messages of a request are ASCII lines of at most a hundred characters. -/
theorem messages_ascii (h : IsExternalRequestId base) (hsuffix : IsSuffix suffix) :
    ∀ message ∈ messages base suffix, message.2 ≠ [] ∧ (∀ c ∈ message.2, c < 128) ∧
      message.2.length ≤ 100 := by
  have hascii : ∀ c, isIdChar c = true → c < 128 := by
    intro c hc
    simp only [isIdChar, isAsciiAlnum, Bool.or_eq_true, Bool.and_eq_true, decide_eq_true_eq,
      beq_iff_eq] at hc
    omega
  -- the ids consist of id characters, which are ASCII
  have hserving := fun c hc => hascii c (isIdChar_servingItemId h c hc)
  have hengine := fun c hc => hascii c (isIdChar_internalEngineId h hsuffix c hc)
  have hlength : base.length ≤ 64 := by
    cases base with
    | nil => simp
    | cons c base =>
      have hrest := h.2.1
      rw [List.length_cons]
      omega
  -- a base id has 64 characters at most
  have hsize : (servingItemId base).length ≤ 71 ∧ (internalEngineId base suffix).length ≤ 80 := by
    have hcmpl : (lit "cmpl-").length = 5 := by decide
    have hzero : (lit "-0").length = 2 := by decide
    have hdash : (lit "-").length = 1 := by decide
    simp only [internalEngineId, servingItemId, responseBodyId, List.length_append, hcmpl, hzero,
      hdash, hsuffix.1]
    omega
  have hpart : ∀ (first last : String) {id : Str}, (∀ c ∈ id, c < 128) →
      (∀ c ∈ lit first, c < 128) → (∀ c ∈ lit last, c < 128) → lit first ≠ [] →
      (lit first).length + id.length + (lit last).length ≤ 100 →
      lit first ++ id ++ lit last ≠ [] ∧ (∀ c ∈ lit first ++ id ++ lit last, c < 128) ∧
        (lit first ++ id ++ lit last).length ≤ 100 := by
    intro first last id hid hfirst hlast hne hle
    refine ⟨by simp [hne], ?_, by simpa [Nat.add_assoc] using hle⟩
    intro c hc
    rcases List.mem_append.mp hc with hc | hc
    · exact (List.mem_append.mp hc).elim (hfirst c) (hid c)
    · exact hlast c hc
  -- so each message is shorter than 100
  have hbound : ∀ (first last : String) {size : ℕ} {id : Str}, id.length ≤ size →
      (lit first).length + size + (lit last).length ≤ 100 →
      (lit first).length + id.length + (lit last).length ≤ 100 := by
    intro first last size id hid hle
    omega
  simp only [messages, List.forall_mem_cons, List.not_mem_nil, false_implies, implies_true,
    and_true]
  exact ⟨hpart _ _ hserving (by decide) (by decide) (by decide) (hbound _ _ hsize.1 (by decide)),
    hpart _ _ hengine (by decide) (by decide) (by decide) (hbound _ _ hsize.2 (by decide)),
    hpart _ _ hengine (by decide) (by decide) (by decide) (hbound _ _ hsize.2 (by decide)),
    hpart _ _ hserving (by decide) (by decide) (by decide) (hbound _ _ hsize.1 (by decide))⟩

/-- Each record of the log with the first word of its message. -/
def labelled (base suffix : Str) (cancellation : Bool) : List (Str × RawLogRecord) :=
  (lit "Received", requestReceived base) :: (lit "Added", requestAdded base suffix) ::
    if cancellation then
      [(lit "Aborted", sampleRecord 2 (internalAbortMessage (internalEngineId base suffix))),
        (lit "Request", sampleRecord 3 (externalAbortMessage (servingItemId base)))]
    else []

theorem nodup_labelled {cancellation : Bool} :
    ((labelled base suffix cancellation).map (·.1)).Nodup := by
  cases cancellation with
  | false =>
    show [lit "Received", lit "Added"].Nodup
    decide
  | true =>
    show [lit "Received", lit "Added", lit "Aborted", lit "Request"].Nodup
    decide

theorem message_mem_of_labelled {cancellation : Bool} :
    ∀ label ∈ labelled base suffix cancellation,
      (label.1, label.2.rawRecord) ∈ messages base suffix := by
  cases cancellation with
  | false =>
    simp only [labelled, List.forall_mem_cons]
    exact ⟨by simp [messages, requestReceived, sampleRecord],
      by simp [messages, requestAdded, sampleRecord], by simp⟩
  | true =>
    simp only [labelled, List.forall_mem_cons]
    exact ⟨by simp [messages, requestReceived, sampleRecord],
      by simp [messages, requestAdded, sampleRecord], by simp [messages, sampleRecord]⟩

/-- **A message of the request occurs in its own record only.** -/
theorem mem_labelled_of_within {cancellation : Bool} {suffix' : Str} (h : IsExternalRequestId base)
    (hsuffix : IsSuffix suffix) {message : Str × Str} (hmessage : message ∈ messages base suffix')
    {record : RawLogRecord} (hrecord : record ∈ requestLog base suffix cancellation)
    (hwithin : message.2 <:+: record.rawRecord) :
    (message.1, record) ∈ labelled base suffix cancellation := by
  obtain ⟨label, hlabel⟩ : ∃ label, (label, record) ∈ labelled base suffix cancellation := by
    cases cancellation <;>
      simpa [labelled, requestLog, requestAborts, abortRecords, exists_or] using hrecord
  have hown : (label, record.rawRecord) ∈ messages base suffix :=
    message_mem_of_labelled _ hlabel
  have heq := first_eq_of_within h hsuffix hmessage hown hwithin
  rwa [heq]

/-- **Every request has an honest log**, completed or cancelled. -/
theorem honestLog_requestLog (h : IsExternalRequestId base) (hsuffix : IsSuffix suffix)
    (cancellation : Bool) :
    HonestLog base suffix (requestLog base suffix cancellation) (requestReceived base)
      (requestAdded base suffix) (requestAborts base suffix cancellation) := by
  -- a message stands in one record of the log, and in no other
  have honly : ∀ {message : Str × Str} {suffix' : Str}, message ∈ messages base suffix' →
      ∀ {own record : RawLogRecord}, (message.1, own) ∈ labelled base suffix cancellation →
        record ∈ requestLog base suffix cancellation → message.2 <:+: record.rawRecord →
          record = own := by
    intro message suffix' hmessage own record hown hrecord hwithin
    have hlabel := mem_labelled_of_within h hsuffix hmessage hrecord hwithin
    exact (Prod.mk.inj (List.inj_on_of_nodup_map nodup_labelled hlabel hown rfl)).2
  -- and a message of the engine's aborts stands in none when nothing was cancelled
  have hnone : ∀ {message : Str × Str} {suffix' : Str}, message ∈ messages base suffix' →
      ∀ {record : RawLogRecord}, message.1 ∉ (labelled base suffix cancellation).map (·.1) →
        record ∈ requestLog base suffix cancellation → ¬ message.2 <:+: record.rawRecord := by
    intro message suffix' hmessage record hlabel hrecord hwithin
    exact hlabel (List.mem_map_of_mem (mem_labelled_of_within h hsuffix hmessage hrecord hwithin))
  have hreceived : (lit "Received", receivedMessage (servingItemId base)) ∈
      messages base suffix := by simp [messages]
  have hadded : ∀ tail, (lit "Added", addedMessage (internalEngineId base tail)) ∈
      messages base tail := by simp [messages]
  have hinternal : (lit "Aborted", internalAbortMessage (internalEngineId base suffix)) ∈
      messages base suffix := by simp [messages]
  have hexternal : (lit "Request", externalAbortMessage (servingItemId base)) ∈
      messages base suffix := by simp [messages]
  have hcarries : ∀ message : Str, Carries message message := fun message =>
    ⟨[], [], by simp, .inl rfl⟩
  have hlines := messages_ascii h hsuffix
  constructor
  case externalId => exact h
  case hexSuffix => exact hsuffix
  -- each record is a line of ASCII
  case valid =>
    exact forall_mem_requestLog cancellation
      (valid_sampleRecord 0 (hlines _ hreceived).1 (hlines _ hreceived).2.1)
      (valid_sampleRecord 1 (hlines _ (hadded suffix)).1 (hlines _ (hadded suffix)).2.1)
      (valid_sampleRecord 2 (hlines _ hinternal).1 (hlines _ hinternal).2.1)
      (valid_sampleRecord 3 (hlines _ hexternal).1 (hlines _ hexternal).2.1)
  case source => exact ⟨lit "server", forall_mem_requestLog cancellation rfl rfl rfl rfl⟩
  case ordinals =>
    cases cancellation <;>
      simp [requestLog, requestAborts, abortRecords, requestReceived, requestAdded, sampleRecord]
  case intervals =>
    have h₀ := (hlines _ hreceived).2.2
    have h₁ := (hlines _ (hadded suffix)).2.2
    have h₂ := (hlines _ hinternal).2.2
    dsimp only at h₀ h₁ h₂
    cases cancellation <;>
      simp [requestLog, requestAborts, abortRecords, requestReceived, requestAdded, sampleRecord]
      <;> omega
  case offsets =>
    cases cancellation <;>
      simp [requestLog, requestAborts, abortRecords, requestReceived, requestAdded, sampleRecord]
  case ids =>
    -- each record names its own id and no other
    refine forall_mem_requestLog cancellation ?_ ?_ ?_ ?_
    · show ∀ id ∈ identifiers (receivedMessage (servingItemId base)), _
      rw [identifiers_receivedMessage h]
      simp
    · show ∀ id ∈ identifiers (addedMessage (internalEngineId base suffix)), _
      rw [identifiers_addedMessage h hsuffix]
      simp
    · show ∀ id ∈ identifiers (internalAbortMessage (internalEngineId base suffix)), _
      rw [identifiers_internalAbortMessage h hsuffix]
      simp
    · show ∀ id ∈ identifiers (externalAbortMessage (servingItemId base)), _
      rw [identifiers_externalAbortMessage h]
      simp
  case order => exact List.Sublist.refl _
  case carriesReceived => exact hcarries _
  case carriesAdded => exact hcarries _
  case carriesAborts =>
    intro p hp
    cases cancellation with
    | false => simp [requestAborts] at hp
    | true =>
      obtain rfl := Option.some.inj hp
      exact ⟨hcarries _, hcarries _⟩
  -- so each pattern matches the record of its message alone
  case receivedOnly =>
    intro record hrecord hocc
    exact honly hreceived (by simp [labelled]) hrecord (occurs_received.mp hocc).isInfix
  case addedOnly =>
    intro record hrecord hocc
    obtain ⟨tail, -, hmessage⟩ := occurs_internal.mp hocc
    exact honly (hadded tail) (by simp [labelled]) hrecord hmessage.isInfix
  case internalAbortsOnly =>
    intro record hrecord hocc
    have hmessage := (occurs_internalAbort.mp hocc).isInfix
    cases cancellation with
    | false =>
      refine absurd hmessage (hnone hinternal ?_ hrecord)
      show lit "Aborted" ∉ [lit "Received", lit "Added"]
      decide
    | true =>
      have hlabelled : (lit "Aborted", sampleRecord 2
          (internalAbortMessage (internalEngineId base suffix))) ∈
            labelled base suffix true := by simp [labelled]
      rw [honly hinternal hlabelled hrecord hmessage]
      rfl
  case externalAbortsOnly =>
    intro record hrecord hocc
    have hmessage := (occurs_externalAbort.mp hocc).isInfix
    cases cancellation with
    | false =>
      refine absurd hmessage (hnone hexternal ?_ hrecord)
      show lit "Request" ∉ [lit "Received", lit "Added"]
      decide
    | true =>
      have hlabelled : (lit "Request", sampleRecord 3
          (externalAbortMessage (servingItemId base))) ∈
            labelled base suffix true := by simp [labelled]
      rw [honly hexternal hlabelled hrecord hmessage]
      rfl

/-! ## The identifier that is not told apart -/

/-- The record of an identifier alone, after the messages of a request. -/
def foreignRecord (id : Str) : RawLogRecord := sampleRecord 4 id

/-- A log of a request, with an identifier of another one. -/
def mixedLog (base id : Str) (cancellation : Bool) : List RawLogRecord :=
  requestLog base (lit "1234abcd") cancellation ++ [foreignRecord id]

/-- No message occurs in an identifier. -/
theorem found_mixedLog {id : Str} {cancellation : Bool} {pattern : Regex ℕ}
    (h : ¬ occurs isWord pattern id) :
    found pattern (mixedLog base id cancellation) =
        found pattern (requestLog base (lit "1234abcd") cancellation) ∧
      foundMatches pattern (mixedLog base id cancellation) =
        foundMatches pattern (requestLog base (lit "1234abcd") cancellation) := by
  have hnone : search isWord pattern id = none := by
    simpa [occurs] using h
  constructor
  · rw [mixedLog, found, List.filter_append, found]
    simp [foreignRecord, sampleRecord, h]
  · rw [mixedLog, foundMatches, List.filterMap_append, foundMatches]
    simp [foreignRecord, sampleRecord, hnone]

theorem not_delimited_of_space {message id : Str} (hid : 32 ∉ id) (hmessage : 32 ∈ message) :
    ¬ Delimited message id :=
  fun h => hid (h.isInfix.subset hmessage)

/-- A record without spaces is overlooked if what the greedy pattern finds there is the request's
own. -/
theorem correlated_mixedLog {id : Str} (hbase : IsExternalRequestId base) (hspace : 32 ∉ id)
    (hids : ∀ found ∈ texts (finditer isWord genericIdPattern id), found = servingItemId base)
    (cancellation : Bool) :
    Correlated base (mixedLog base id cancellation) cancellation
      (honestChain base (lit "1234abcd") (requestReceived base)
        (requestAdded base (lit "1234abcd")) (requestAborts base (lit "1234abcd") cancellation)) := by
  have hlog := honestLog_requestLog hbase (by decide : IsSuffix (lit "1234abcd")) cancellation
  have hnot : ∀ (first : String) (rest last : Str), 32 ∈ lit first →
      ¬ Delimited (lit first ++ rest ++ last) id := fun first rest last hfirst =>
    not_delimited_of_space hspace (List.mem_append_left _ (List.mem_append_left _ hfirst))
  have hreceived : ¬ occurs isWord (receivedPattern (servingItemId base)) id := fun h =>
    hnot _ _ _ (by decide) (occurs_received.mp h)
  have hadded : ¬ occurs isWord (internalPattern (servingItemId base)) id := by
    intro h
    obtain ⟨tail, -, hmessage⟩ := occurs_internal.mp h
    exact hnot _ _ _ (by decide) hmessage
  have hexternal : ¬ occurs isWord (externalAbortPattern (servingItemId base)) id := fun h =>
    hnot _ _ _ (by decide) (occurs_externalAbort.mp h)
  have hinternal : ¬ occurs isWord
      (internalAbortPattern (internalEngineId base (lit "1234abcd"))) id := fun h =>
    hnot _ _ _ (by decide) (occurs_internalAbort.mp h)
  obtain ⟨m, hm, hgroups⟩ := hlog.foundMatches_added
  constructor
  case base => rfl
  case received => rw [(found_mixedLog hreceived).1, hlog.found_received]; rfl
  case added => exact ⟨m, (found_mixedLog hadded).2.trans hm, hgroups⟩
  case ids =>
    intro found hfound
    rw [genericIds, mixedLog, List.flatMap_append] at hfound
    rcases List.mem_append.mp hfound with hfound | hfound
    · exact hlog.genericIds_iff.mpr (by decide) found hfound
    · rw [hids found (by simpa [foreignRecord, sampleRecord] using hfound)]
      exact List.mem_cons_self
  case externalAborts => rw [(found_mixedLog hexternal).1, hlog.found_externalAborts]; rfl
  case internalAborts => exact (found_mixedLog hinternal).1.trans hlog.found_internalAborts
  case cancellation => cases cancellation <;> rfl
  case valid => exact hlog.valid_honestChain

/-- **What is not told apart.** The engine's id of another request whose suffix starts with `0`
looks like the serving id of the request that is named with `-0` at its end. -/
theorem correlateRequestLogs_mixedLog {other tail : Str}
    (hbase : IsExternalRequestId (other ++ lit "-0")) (hother : IsExternalRequestId other)
    (htail : IsSuffix tail) (hzero : tail.head? = some 48) (cancellation : Bool) :
    ∃ chain, correlateRequestLogs (other ++ lit "-0")
      (mixedLog (other ++ lit "-0") (internalEngineId other tail) cancellation) cancellation =
        .ok chain := by
  refine ⟨_, correlateRequestLogs_eq_ok.mpr (correlated_mixedLog hbase
    (not_mem_space (isIdChar_internalEngineId hother htail)) ?_ cancellation)⟩
  intro found hfound
  have hscan := texts_finditer_own hother htail (.inr rfl)
    (rfl : ([] : Str).head?.any isIdChar = false)
  rw [List.append_nil, genericId, if_neg (servingItemId_ne_internalEngineId htail).symm,
    if_pos hzero, servingItemId_append] at hscan
  rw [hscan] at hfound
  simpa [finditer, finditerN, texts] using hfound

/-- **Which identifiers of another request are refused**: all but the engine's ids whose suffix
starts with `0`, where the request is named like the other one with `-0` at its end. -/
theorem correlateRequestLogs_isolates_iff {base other id : Str} (hbase : IsExternalRequestId base)
    (hother : IsExternalRequestId other) (hne : other ≠ base) (hid : IsOwnId other id)
    (cancellation : Bool) :
    (∀ records : List RawLogRecord, (∃ record ∈ records, Bounded id record.rawRecord) →
      ∃ message, correlateRequestLogs base records cancellation =
        .error (.stage2Protocol message)) ↔
      ¬ (base = other ++ lit "-0" ∧
        ∃ suffix, id = internalEngineId other suffix ∧ suffix.head? = some 48) := by
  constructor
  · rintro h ⟨rfl, suffix, rfl, hzero⟩
    have hsuffix := isSuffix_of_isOwnId hid
    obtain ⟨chain, hchain⟩ :=
      correlateRequestLogs_mixedLog hbase hother hsuffix hzero cancellation
    obtain ⟨message, hmessage⟩ := h
      (mixedLog (other ++ lit "-0") (internalEngineId other suffix) cancellation)
      ⟨foreignRecord (internalEngineId other suffix), by simp [mixedLog],
        [], [], by simp [foreignRecord, sampleRecord], rfl, rfl⟩
    rw [hchain] at hmessage
    cases hmessage
  · intro hnot records hmem
    exact correlateRequestLogs_isolates hother hne hid hnot hmem

end

section

attribute [local instance] cpython

/-- The log of the cancelled request `a` is accepted, and refused with the engine's id of the request
`b` in one more record. -/
theorem correlateRequestLogs_isolates_one :
    (∃ chain, correlateRequestLogs (lit "a") (requestLog (lit "a") (lit "1234abcd") true) true =
      .ok chain) ∧
    ∃ message, correlateRequestLogs (lit "a") (mixedLog (lit "a") (lit "cmpl-b-0-0234abcd") true)
      true = .error (.stage2Protocol message) := by
  have hbase : IsExternalRequestId (lit "a") := by decide
  have hother : IsExternalRequestId (lit "b") := by decide
  have hid : IsOwnId (lit "b") (lit "cmpl-b-0-0234abcd") :=
    .engine (by decide : IsSuffix (lit "0234abcd"))
  constructor
  · have hlog := honestLog_requestLog hbase (by decide : IsSuffix (lit "1234abcd")) true
    exact ⟨_, correlateRequestLogs_eq_ok.mpr (hlog.correlated (hlog.genericIds_iff.mpr (by decide)))⟩
  · apply (correlateRequestLogs_isolates_iff hbase hother (by decide) hid true).mpr
    · rintro ⟨hsame, -⟩
      exact absurd hsame (by decide)
    · exact ⟨foreignRecord (lit "cmpl-b-0-0234abcd"), by simp [mixedLog], [], [],
        by simp [foreignRecord, sampleRecord], rfl, rfl⟩

/-- The log of the request `a-0` with the engine's id of the request `a`. -/
theorem exists_foreign_not_refused :
    ∃ records : List RawLogRecord, (∀ record ∈ records, record.Valid) ∧
      (∃ record ∈ records, Bounded (lit "cmpl-a-0-0234abcd") record.rawRecord) ∧
      ∃ chain, correlateRequestLogs (lit "a-0") records true = .ok chain := by
  have hbase : IsExternalRequestId (lit "a-0") := by decide
  have hforeign : (foreignRecord (lit "cmpl-a-0-0234abcd")).Valid :=
    valid_sampleRecord 4 (by decide) (by decide)
  refine ⟨mixedLog (lit "a-0") (lit "cmpl-a-0-0234abcd") true, ?_, ?_, ?_⟩
  · intro record hrecord
    rcases List.mem_append.mp hrecord with hrecord | hrecord
    · exact (honestLog_requestLog hbase (by decide) true).valid record hrecord
    · rw [List.mem_singleton.mp hrecord]
      exact hforeign
  · exact ⟨foreignRecord (lit "cmpl-a-0-0234abcd"), by simp [mixedLog], [], [],
      by simp [foreignRecord, sampleRecord], rfl, rfl⟩
  · have hsuffix : IsSuffix (lit "0234abcd") := by decide
    exact correlateRequestLogs_mixedLog hbase (by decide : IsExternalRequestId (lit "a")) hsuffix
      (by decide) true

end

end Stage2
