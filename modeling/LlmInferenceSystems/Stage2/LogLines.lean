import LlmInferenceSystems.Stage2.GenericIds

/-!
# Lines of a captured log

Correlation counts records, a reader of the captured bytes counts lines. The two agree as long as a
record that carries one of the request's messages is one line; nothing in the contract of a record
says that it is.

## Main definitions

* `RawLogCapture.lines`: the lines of the captured bytes
* `LinesOnce`: each message of a chain is in exactly one line, which is its record

## Main results

* `delimited_iff_lines`: a message is in a text exactly when it is in a line of it
* `linesOnce_iff`: each message is in exactly one line exactly when no record that carries a message
  holds a line feed
-/

namespace Stage2

open Python Regex

/-- `\bAdded request {internal_id}\.` -/
def addedPattern (internalId : Str) : Regex ℕ :=
  .seq .boundary (literal (addedMessage internalId))

/-- The exact captured bytes, decoded and split on LF. -/
def RawLogCapture.lines (capture : RawLogCapture) : Option (List Str) :=
  (capture.exactBytes.bind utf8Decode).map (·.splitOn 10)

theorem splitOn_intercalate_flatMap {α : Type} [DecidableEq α] (x : α) {texts : List (List α)}
    (h : texts ≠ []) : ([x].intercalate texts).splitOn x = texts.flatMap (·.splitOn x) := by
  induction texts with
  | nil => exact absurd rfl h
  | cons text texts ih =>
    rcases eq_or_ne texts [] with rfl | hne
    · simp
    · rw [List.intercalate_cons_of_ne_nil hne, List.append_assoc, List.singleton_append,
        List.splitOn_append_cons_self, ih hne, List.flatMap_cons]

/-- What is found in lines of some records is found in lines of the records it is found in. -/
theorem filter_lines {p : Str → Bool} (hlines : ∀ text, ∀ line ∈ text.splitOn 10, p line → p text)
    (records : List RawLogRecord) :
    (records.flatMap fun r => r.rawRecord.splitOn 10).filter p =
      (records.filter fun r => p r.rawRecord).flatMap
        fun r => (r.rawRecord.splitOn 10).filter p := by
  induction records with
  | nil => rfl
  | cons r records ih =>
    rw [List.flatMap_cons, List.filter_append, ih]
    by_cases hp : p r.rawRecord
    · rw [List.filter_cons_of_pos (by exact hp), List.flatMap_cons]
    · have hnone : (r.rawRecord.splitOn 10).filter p = [] :=
        List.filter_eq_nil_iff.mpr fun line hline hpl => hp (hlines _ line hline hpl)
      rw [List.filter_cons_of_neg (by simp [hp]), hnone, List.nil_append]

/-- What is found in one record is found in one line exactly when that record is one line. -/
theorem filter_lines_eq_singleton_iff {p : Str → Bool}
    (hlines : ∀ text, ∀ line ∈ text.splitOn 10, p line → p text) {records : List RawLogRecord}
    {record : RawLogRecord} (h : records.filter (fun r => p r.rawRecord) = [record]) :
    (records.flatMap fun r => r.rawRecord.splitOn 10).filter p = [record.rawRecord] ↔
      10 ∉ record.rawRecord := by
  have hp : p record.rawRecord := by
    have hmem : record ∈ records.filter fun r => p r.rawRecord := by rw [h]; simp
    simpa using (List.mem_filter.mp hmem).2
  rw [filter_lines hlines, h, List.flatMap_singleton]
  constructor
  · intro hone
    have hmem : record.rawRecord ∈ (record.rawRecord.splitOn 10).filter p := by rw [hone]; simp
    exact not_mem_of_mem_splitOn (List.mem_filter.mp hmem).1
  · intro hlf
    rw [List.splitOn_eq_singleton hlf]
    exact List.filter_cons_of_pos hp

/-! ## Messages hold no line feed -/

theorem lf_not_mem_servingItemId {base : Str} (h : IsExternalRequestId base) :
    10 ∉ servingItemId base := by
  have hbase : 10 ∉ base := fun hmem => absurd (h.isIdChar 10 hmem) (by decide)
  simp only [servingItemId, responseBodyId, List.mem_append]
  exact not_or.mpr ⟨not_or.mpr ⟨by decide, hbase⟩, by decide⟩

theorem lf_not_mem_internalEngineId {base suffix : Str} (h : IsExternalRequestId base)
    (hsuffix : IsSuffix suffix) : 10 ∉ internalEngineId base suffix := by
  have hhex : 10 ∉ suffix := fun hmem => absurd (hsuffix.2 10 hmem) (by decide)
  simp only [internalEngineId, List.mem_append]
  exact not_or.mpr ⟨not_or.mpr ⟨lf_not_mem_servingItemId h, by decide⟩, hhex⟩

theorem lf_not_mem_message {before name after : Str} (hbefore : 10 ∉ before) (hname : 10 ∉ name)
    (hafter : 10 ∉ after) : 10 ∉ before ++ name ++ after := by
  simp only [List.mem_append]
  exact not_or.mpr ⟨not_or.mpr ⟨hbefore, hname⟩, hafter⟩

section

variable [Interpreter]

/-! ## Messages and lines -/

theorem isWord_lf : isWord 10 = false := by
  rw [isWord_ascii (by decide)]
  decide

theorem delimited_append_lf {message a b : Str} (hlf : 10 ∉ message) :
    Delimited message (a ++ 10 :: b) ↔ Delimited message a ∨ Delimited message b := by
  constructor
  · rintro ⟨pre, post, heq, hpre⟩
    rw [List.append_assoc] at heq
    rcases List.append_eq_append_iff.mp heq with ⟨u, hu, hb⟩ | ⟨u, hu, hmid⟩
    · -- the message starts after the line feed, or at it
      cases u with
      | nil =>
        cases message with
        | nil => exact .inl ⟨a, [], by simp, by simpa [hu] using hpre⟩
        | cons c message => simp_all
      | cons c u =>
        simp only [List.cons_append, List.cons.injEq] at hb
        obtain ⟨rfl, rfl⟩ := hb
        refine .inr ⟨u, post, by simp, ?_⟩
        rw [hu, List.getLast?_append] at hpre
        cases hlast : u.getLast? with
        | none => rfl
        | some d => simpa [List.getLast?_cons, hlast] using hpre
    · -- the message starts before the line feed, so it ends before it
      refine .inl ?_
      rcases List.append_eq_append_iff.mp hmid with ⟨v, rfl, hpost⟩ | ⟨v, rfl, hpost⟩
      · exact ⟨pre, v, by rw [hu, List.append_assoc], hpre⟩
      · cases v with
        | nil => exact ⟨pre, [], by simpa using hu, hpre⟩
        | cons c v => simp_all
  -- a message in one of the parts stays delimited, since a line feed is no word character
  · rintro (⟨pre, post, rfl, hpre⟩ | ⟨pre, post, rfl, hpre⟩)
    · exact ⟨pre, post ++ 10 :: b, by simp, hpre⟩
    · refine ⟨a ++ 10 :: pre, post, by simp, ?_⟩
      cases hlast : pre.getLast? with
      | none => simp [List.getLast?_append, List.getLast?_cons, hlast, isWord_lf]
      | some d => simpa [List.getLast?_append, List.getLast?_cons, hlast] using hpre

/-- **A message is in a text exactly when it is in a line of it.** -/
theorem delimited_iff_lines {message text : Str} (hlf : 10 ∉ message) :
    Delimited message text ↔ ∃ line ∈ text.splitOn 10, Delimited message line := by
  have key : ∀ lines : List Str, lines ≠ [] →
      (Delimited message ([10].intercalate lines) ↔ ∃ line ∈ lines, Delimited message line) := by
    intro lines hne
    induction lines with
    | nil => exact absurd rfl hne
    | cons line lines ih =>
      rcases eq_or_ne lines [] with rfl | hlines
      · simp
      · rw [List.intercalate_cons_of_ne_nil hlines, List.append_assoc, List.singleton_append,
          delimited_append_lf hlf, ih hlines]
        simp
  rw [← key _ (List.splitOn_ne_nil 10 text), List.intercalate_splitOn]

theorem occurs_added {internalId line : Str} :
    occurs isWord (addedPattern internalId) line ↔ Delimited (addedMessage internalId) line :=
  occurs_boundary_literal (c := 65) (isWord_upper (by decide))

/-! ## The abort of an engine id -/

/-- Where an engine id stands after a space, the greedy pattern finds an identifier longer than the
serving id. -/
theorem exists_generic {base suffix pre post : Str} (hbase : IsExternalRequestId base)
    (hsuffix : IsSuffix suffix) :
    ∃ id ∈ texts (finditer isWord genericIdPattern
        (pre ++ 32 :: (internalEngineId base suffix ++ post))),
      id <+: internalEngineId base suffix ++ post ∧ (servingItemId base).length < id.length := by
  let second : Regex ℕ :=
    .seq (literal (lit "-0")) (.opt (.seq (literal (lit "-")) (.rep isHexDigit 8 (some 8))))
  let tail := lit "-0" ++ (lit "-" ++ (suffix ++ post))
  have hline : internalEngineId base suffix ++ post = lit "cmpl-" ++ (base ++ tail) := by
    simp [internalEngineId, servingItemId, responseBodyId, tail]
  have hpos : 0 < base.length := List.length_pos_iff.mpr hbase.ne_nil
  -- the greedy run may take the whole base
  have hlimit : base.length ≤ repLimit isIdChar none (base ++ tail) := by
    rw [repLimit, List.takeWhile_append_of_pos hbase.isIdChar, List.length_append]
    omega
  -- and from its end the rest of the pattern matches
  have hsecond : ∀ before, matchAt isWord second before tail =
      some ⟨lit "-0" ++ (lit "-" ++ suffix), post, []⟩ := by
    intro before
    have hrep := @matchAt_exactly _ isWord _ _ hsuffix.2
      (lastOr (lastOr before (lit "-0")) (lit "-")) post
    rw [hsuffix.1] at hrep
    rw [matchAt_literal_seq, matchAt_opt, matchAt_literal_seq, hrep]
    rfl
  -- so the pattern matches somewhere, at the end of the base or later
  obtain ⟨n, m, hn, hle, heq, hm, hmatch⟩ :=
    @exists_matchAt_rep_seq ℕ isWord isIdChar 1 none second (lastOr none (lit "cmpl-"))
      (base ++ tail) base.length hpos hlimit _ (by rw [List.drop_left]; exact hsecond _)
  have hgeneric : matchAt isWord genericIdPattern none (lit "cmpl-" ++ (base ++ tail)) =
      some ⟨lit "cmpl-" ++ ((base ++ tail).take n ++ m.text), m.rest, m.groups⟩ := by
    rw [genericIdPattern, matchAt_literal_seq, genericIdTail, hmatch]
    rfl
  have hne : lit "cmpl-" ++ ((base ++ tail).take n ++ m.text) ≠ [] := by
    simp [show lit "cmpl-" ≠ [] by decide]
  refine ⟨lit "cmpl-" ++ ((base ++ tail).take n ++ m.text), ?_, ⟨m.rest, ?_⟩, ?_⟩
  · rw [hline, finditer_separator stopsAt_genericIdPattern,
      texts_finditer_of_some stopsAt_genericIdPattern hgeneric hne]
    exact List.mem_append_right _ List.mem_cons_self
  · rw [hline]
    exact run_append (List.mem_of_head? hgeneric)
  · have hn' : n ≤ (base ++ tail).length :=
      hle.trans (List.takeWhile_prefix _).length_le
    simp only [servingItemId, responseBodyId, List.length_append, List.length_take_of_le hn']
    -- at the end of the base, the suffix is part of the match
    rcases hn.eq_or_lt with rfl | hlt
    · rw [heq rfl]
      simp only [List.length_append, hsuffix.1]
      omega
    -- later, the match is longer by the base itself
    · obtain ⟨a, ha, b, -, rfl⟩ := mem_run_seq.mp (List.mem_of_head? hm)
      obtain ⟨-, rfl⟩ := mem_run_literal.mp ha
      simp only [List.length_append]
      omega

/-- In a correlated log the engine's abort names the chain's own engine id. -/
theorem Correlated.internalEngineId_of_abort {base suffix : Str} {records : List RawLogRecord}
    {cancellation : Bool} {chain : RequestIdentityChain}
    (h : Correlated base records cancellation chain) (hsuffix : IsSuffix suffix)
    {record : RawLogRecord} (hrecord : record ∈ records)
    (habort : Delimited (internalAbortMessage (internalEngineId base suffix)) record.rawRecord) :
    chain.internalEngineId = internalEngineId base suffix := by
  obtain ⟨own, hown, hinternal⟩ := h.valid.internal
  have hbase := h.valid.external
  rw [h.base] at hinternal hbase
  obtain ⟨pre, post, hline, -⟩ := habort
  have hshape : record.rawRecord = (pre ++ lit "Aborted request(s)") ++
      32 :: (internalEngineId base suffix ++ (lit "." ++ post)) := by
    rw [hline, internalAbortMessage, show lit "Aborted request(s) " =
      lit "Aborted request(s)" ++ [32] by decide]
    simp
  obtain ⟨id, hid, hstart, hlong⟩ := @exists_generic _ base suffix
    (pre ++ lit "Aborted request(s)") (lit "." ++ post) hbase hsuffix
  have hmem : id ∈ genericIds records :=
    List.mem_flatMap.mpr ⟨record, hrecord, by rwa [hshape]⟩
  rcases List.mem_pair.mp (h.ids id hmem) with rfl | rfl
  · exact absurd hlong (Nat.lt_irrefl _)
  · have hsame : (internalEngineId base suffix).length = chain.internalEngineId.length := by
      rw [hinternal]
      simp [internalEngineId, hsuffix.1, hown.1]
    exact ((List.prefix_of_prefix_length_le hstart (List.prefix_append _ _) hsame.ge).eq_of_length
      hsame.symm)

/-! ## One line for each message -/

/-- Each message of a cancelled request is in exactly one line, and that line is its record. -/
structure LinesOnce (lines : List Str) (chain : RequestIdentityChain) : Prop where
  received : lines.filter (occurs isWord (receivedPattern chain.servingItemId) ·) =
    [chain.requestReceivedLog.rawRecord]
  added : lines.filter (occurs isWord (addedPattern chain.internalEngineId) ·) =
    [chain.requestAddLog.rawRecord]
  internalAbort : ∃ record, chain.internalAbortLog = some record ∧
    lines.filter (occurs isWord (internalAbortPattern chain.internalEngineId) ·) =
      [record.rawRecord]
  externalAbort : ∃ record, chain.externalAbortLog = some record ∧
    lines.filter (occurs isWord (externalAbortPattern chain.servingItemId) ·) =
      [record.rawRecord]

/-- A line that carries a message of the request `base`. -/
def CarriesMessage (base line : Str) : Prop :=
  occurs isWord (receivedPattern (servingItemId base)) line ∨
    occurs isWord (internalPattern (servingItemId base)) line ∨
    (∃ suffix, IsSuffix suffix ∧
      occurs isWord (internalAbortPattern (internalEngineId base suffix)) line) ∨
    occurs isWord (externalAbortPattern (servingItemId base)) line

/-- The lines of a valid capture are those of its records. -/
theorem RawLogCapture.Valid.lines_eq {capture : RawLogCapture} (h : capture.Valid) :
    capture.lines = some (capture.records.flatMap fun r => r.rawRecord.splitOn 10) := by
  have hne : capture.records.map (·.rawRecord) ≠ [] := by simpa using h.nonempty
  rw [RawLogCapture.lines, h.utf8Decode_exactBytes, Option.map_some,
    splitOn_intercalate_flatMap 10 hne, List.flatMap_map]

/-- What one record carries is carried by one line exactly when that record is one line. -/
theorem filter_occurs_eq_singleton_iff {pattern : Regex ℕ} {message : Str} (hlf : 10 ∉ message)
    (hoccurs : ∀ line, occurs isWord pattern line ↔ Delimited message line)
    {records : List RawLogRecord} {record : RawLogRecord} (h : found pattern records = [record]) :
    (records.flatMap fun r => r.rawRecord.splitOn 10).filter (occurs isWord pattern ·) =
        [record.rawRecord] ↔ 10 ∉ record.rawRecord := by
  refine filter_lines_eq_singleton_iff (p := fun line => occurs isWord pattern line) ?_ h
  intro text line hline hp
  simp only [decide_eq_true_eq, hoccurs] at hp ⊢
  exact (delimited_iff_lines hlf).mpr ⟨line, hline, hp⟩

namespace Correlated

variable {base : Str} {records : List RawLogRecord} {chain : RequestIdentityChain}

theorem found_internal {cancellation : Bool} (h : Correlated base records cancellation chain) :
    found (internalPattern (servingItemId base)) records = [chain.requestAddLog] := by
  obtain ⟨m, hadded, -⟩ := h.added
  rw [found_eq_map_foundMatches, hadded]
  rfl

/-- The admission of the chain's engine id is in the chain's record only. -/
theorem found_added {cancellation : Bool} (h : Correlated base records cancellation chain) :
    found (addedPattern chain.internalEngineId) records = [chain.requestAddLog] := by
  obtain ⟨m, hadded, hgroup⟩ := h.added
  have hfound := h.found_internal
  obtain ⟨m', hm', hsearch⟩ := foundMatches_eq_singleton hfound
  obtain ⟨suffix, hsuffix, hgroups, hmessage⟩ := search_internal hsearch
  obtain rfl : m = m' := by simpa [hadded] using hm'
  have hid : chain.internalEngineId = internalEngineId base suffix := by
    rw [← hgroup, hgroups]
    rfl
  have hsub : found (addedPattern chain.internalEngineId) records =
      (found (internalPattern (servingItemId base)) records).filter
        fun r => occurs isWord (addedPattern chain.internalEngineId) r.rawRecord := by
    rw [found, found, List.filter_filter]
    refine List.filter_congr fun r _ => ?_
    rw [← Bool.decide_and]
    refine decide_eq_decide.mpr ⟨fun ho => ⟨ho, ?_⟩, And.left⟩
    rw [occurs_added, hid] at ho
    exact occurs_internal.mpr ⟨suffix, hsuffix, ho⟩
  rw [hsub, hfound]
  refine List.filter_cons_of_pos (decide_eq_true ?_)
  rw [occurs_added, hid]
  exact hmessage

/-- The records that carry a message are the chain's. -/
theorem mem_records_iff (h : Correlated base records true chain) {record : RawLogRecord} :
    record ∈ chain.records ↔ record ∈ records ∧ CarriesMessage base record.rawRecord := by
  have hfound : ∀ {pattern : Regex ℕ} {only : List RawLogRecord}, found pattern records = only →
      (record ∈ only ↔ record ∈ records ∧ occurs isWord pattern record.rawRecord) := by
    rintro pattern _ rfl
    simp [found]
  obtain ⟨own, hown, hinternal⟩ := h.valid.internal
  rw [h.base] at hinternal
  have habort : record ∈ records →
      (occurs isWord (internalAbortPattern chain.internalEngineId) record.rawRecord ↔
        ∃ suffix, IsSuffix suffix ∧
          occurs isWord (internalAbortPattern (internalEngineId base suffix)) record.rawRecord) := by
    intro hrecord
    constructor
    · exact fun ho => ⟨own, hown, hinternal ▸ ho⟩
    · rintro ⟨suffix, hsuffix, ho⟩
      rw [h.internalEngineId_of_abort hsuffix hrecord (occurs_internalAbort.mp ho)]
      exact ho
  have hmem : record ∈ chain.records ↔ record ∈ [chain.requestReceivedLog] ∨
      record ∈ [chain.requestAddLog] ∨ record ∈ chain.internalAbortLog.toList ∨
        record ∈ chain.externalAbortLog.toList := by
    simp [RequestIdentityChain.records, List.reduceOption, eq_comm]
  rw [hmem, hfound h.received, hfound h.found_internal, hfound h.internalAborts,
    hfound h.externalAborts, ← and_or_left, ← and_or_left, ← and_or_left, CarriesMessage]
  refine and_congr_right fun hrecord => ?_
  rw [habort hrecord]

end Correlated

/-- **Each message is in exactly one line exactly when no record that carries a message holds a line
feed.** -/
theorem linesOnce_iff {base : Str} {capture : RawLogCapture} {chain : RequestIdentityChain}
    (hvalid : capture.Valid) (hchain : correlateRequestLogs base capture.records true = .ok chain) :
    (∃ lines, capture.lines = some lines ∧ LinesOnce lines chain) ↔
      ∀ record ∈ capture.records, CarriesMessage base record.rawRecord → 10 ∉ record.rawRecord := by
  -- the chain names its messages by ids without a line feed
  have h := correlateRequestLogs_eq_ok.mp hchain
  have hbase : IsExternalRequestId base := h.base ▸ h.valid.external
  have hserving : chain.servingItemId = servingItemId base := by rw [h.valid.serving, h.base]
  have hlfServing := lf_not_mem_servingItemId hbase
  have hlfInternal : 10 ∉ chain.internalEngineId := by
    obtain ⟨suffix, hsuffix, hinternal⟩ := h.valid.internal
    rw [hinternal, h.base]
    exact lf_not_mem_internalEngineId hbase hsuffix
  obtain ⟨external, hexternal⟩ := Option.isSome_iff_exists.mp h.cancellation
  obtain ⟨internal, hinternal⟩ : ∃ r, chain.internalAbortLog = some r := by
    have htogether := h.valid.together
    rw [hexternal] at htogether
    exact Option.ne_none_iff_exists'.mp fun hnone => by simp [hnone] at htogether
  have hexternalAborts := h.externalAborts
  have hinternalAborts := h.internalAborts
  rw [hexternal] at hexternalAborts
  rw [hinternal] at hinternalAborts
  -- each of its records is the only one with its message
  have hreceived := filter_occurs_eq_singleton_iff
    (lf_not_mem_message (by decide) hlfServing (by decide)) (fun _ => occurs_received) h.received
  have hadded := filter_occurs_eq_singleton_iff
    (lf_not_mem_message (by decide) hlfInternal (by decide)) (fun _ => occurs_added) h.found_added
  have hinternalAbort := filter_occurs_eq_singleton_iff
    (lf_not_mem_message (by decide) hlfInternal (by decide)) (fun _ => occurs_internalAbort)
    hinternalAborts
  have hexternalAbort := filter_occurs_eq_singleton_iff
    (lf_not_mem_message (by decide) hlfServing (by decide)) (fun _ => occurs_externalAbort)
    hexternalAborts
  have hrecords : chain.records =
      [chain.requestReceivedLog, chain.requestAddLog, internal, external] := by
    rw [RequestIdentityChain.records, hexternal, hinternal]
    rfl
  -- a message is on one line when its record is one line
  calc (∃ lines, capture.lines = some lines ∧ LinesOnce lines chain)
      ↔ ∀ record ∈ chain.records, 10 ∉ record.rawRecord := by
        rw [hrecords]
        simp only [List.forall_mem_cons, List.not_mem_nil, false_implies, implies_true, and_true]
        rw [← hreceived, ← hadded, ← hinternalAbort, ← hexternalAbort, ← hserving]
        constructor
        · rintro ⟨lines, hlines, honce⟩
          obtain rfl := Option.some.inj (hvalid.lines_eq.symm.trans hlines)
          obtain ⟨r, hr, hinternalLine⟩ := honce.internalAbort
          obtain ⟨r', hr', hexternalLine⟩ := honce.externalAbort
          obtain rfl := Option.some.inj (hinternal.symm.trans hr)
          obtain rfl := Option.some.inj (hexternal.symm.trans hr')
          exact ⟨honce.received, honce.added, hinternalLine, hexternalLine⟩
        · rintro ⟨h₁, h₂, h₃, h₄⟩
          exact ⟨_, hvalid.lines_eq, h₁, h₂, ⟨internal, hinternal, h₃⟩, external, hexternal, h₄⟩
    _ ↔ _ := by
        simp only [h.mem_records_iff, and_imp]

end

/-! ## The captured log of one cancelled request -/

section

attribute [local instance] cpython

/-- The log of a cancelled request `a`, with what the record of its admission is. -/
def cancelledLines (admission : Str) : List Str :=
  [lit "Received request cmpl-a-0:", admission, lit "Aborted request(s) cmpl-a-0-1234abcd.",
    lit "Request cmpl-a-0 aborted."]

/-- The records of a cancelled request's log. -/
def cancelledRecords (admission : Str) : List RawLogRecord :=
  (retainRawLogRecords (cancelledLines admission) (lit "server")).toOption.getD []

theorem exists_cancelled_capture {admission : Str}
    (h : admission ≠ [] ∧ ∀ c ∈ admission, c < 128)
    (hshort : ∀ exact ∈ encodeLines (cancelledLines admission),
      intsShort (captureOf (lit "server") exact (cancelledRecords admission) []).dump = true) :
    ∃ capture : RawLogCapture, capture.Valid ∧ capture.records = cancelledRecords admission := by
  have hlines : ∀ line ∈ cancelledLines admission, line ≠ [] ∧ IsEncodable line := by
    simp only [cancelledLines, List.forall_mem_cons, List.not_mem_nil, false_implies,
      implies_true, and_true]
    exact ⟨⟨by decide, encodable_of_ascii (by decide)⟩, ⟨h.1, encodable_of_ascii h.2⟩,
      ⟨by decide, encodable_of_ascii (by decide)⟩, ⟨by decide, encodable_of_ascii (by decide)⟩⟩
  obtain ⟨capture, -, hvalid, -, hrecords⟩ := @retainRawLogCapture_eq_ok _
    (lit "server") (by decide) _ hlines (by simp [cancelledLines]) 0 none (by simp)
    (fun records hrecords => by
      rw [cancelledRecords, Option.mem_def.mp hrecords] at hshort
      exact hshort)
  refine ⟨capture, hvalid, ?_⟩
  rw [cancelledRecords, hrecords]
  rfl

/-- One admission in its record. -/
theorem linesOnce_cancelled :
    ∃ (capture : RawLogCapture) (chain : RequestIdentityChain) (lines : List Str),
      capture.Valid ∧ correlateRequestLogs (lit "a") capture.records true = .ok chain ∧
        capture.lines = some lines ∧ LinesOnce lines chain := by
  obtain ⟨capture, hvalid, hrecords⟩ := @exists_cancelled_capture
    (lit "Added request cmpl-a-0-1234abcd.") (by decide) (by decide +kernel)
  obtain ⟨chain, hchain, -⟩ := exists_eq_ok (p := fun _ => True) (x := correlateRequestLogs (lit "a")
    (cancelledRecords (lit "Added request cmpl-a-0-1234abcd.")) true) (by decide +kernel)
  have hlf : ∀ record ∈ cancelledRecords (lit "Added request cmpl-a-0-1234abcd."),
      10 ∉ record.rawRecord := by decide +kernel
  rw [← hrecords] at hchain hlf
  obtain ⟨lines, hlines, honce⟩ :=
    (linesOnce_iff hvalid hchain).mpr fun record hrecord _ => hlf record hrecord
  exact ⟨capture, chain, lines, hvalid, hchain, hlines, honce⟩

/-- A second admission after a line feed in the record of the first. -/
theorem exists_not_linesOnce :
    ∃ (capture : RawLogCapture) (chain : RequestIdentityChain) (lines : List Str),
      capture.Valid ∧ correlateRequestLogs (lit "a") capture.records true = .ok chain ∧
        capture.lines = some lines ∧ ¬ LinesOnce lines chain := by
  let admission := lit "Added request cmpl-a-0-1234abcd.\nAdded request cmpl-a-0-1234abcd."
  obtain ⟨capture, hvalid, hrecords⟩ := @exists_cancelled_capture admission
    (by decide) (by decide +kernel)
  have htwice : ∃ chain, correlateRequestLogs (lit "a") (cancelledRecords admission) true =
      .ok chain ∧ (((cancelledRecords admission).flatMap fun r => r.rawRecord.splitOn 10).filter
        (occurs isWord (addedPattern chain.internalEngineId) ·)).length = 2 :=
    exists_eq_ok (by decide +kernel)
  rw [← hrecords] at htwice
  obtain ⟨chain, hchain, htwice⟩ := htwice
  refine ⟨capture, chain, _, hvalid, hchain, hvalid.lines_eq, fun honce => ?_⟩
  rw [honce.added] at htwice
  simp at htwice

end

end Stage2
