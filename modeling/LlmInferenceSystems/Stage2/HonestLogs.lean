import LlmInferenceSystems.Stage2.GenericIds

/-!
# Honest logs

The log of one request in which only the request's own two `cmpl-` identifiers occur, and each of
its messages is in one record, at the record's start or after a space.

## Main definitions

* `HonestLog`: the log of one request
* `honestChain`: the chain it should correlate to

## Main results

* `correlateRequestLogs_honest_iff`: an honest log correlates exactly when its suffix does not
  start with `0`
-/

namespace Stage2

open Python Regex

/-- A message at the start of a line or after a space. -/
def Carries (message line : Str) : Prop :=
  ∃ pre post, line = pre ++ message ++ post ∧ (pre = [] ∨ pre.getLast? = some 32)

/-- The abort records of a request in the order they are written: internal before external. -/
def abortRecords (aborts : Option (RawLogRecord × RawLogRecord)) : List RawLogRecord :=
  aborts.toList.flatMap fun p => [p.1, p.2]

/-- The chain of an honest log. -/
def honestChain (base suffix : Str) (received added : RawLogRecord)
    (aborts : Option (RawLogRecord × RawLogRecord)) : RequestIdentityChain where
  externalBaseId := base
  responseBodyId := responseBodyId base
  servingItemId := servingItemId base
  internalEngineId := internalEngineId base suffix
  requestReceivedLog := received
  requestAddLog := added
  externalAbortLog := aborts.map (·.2)
  internalAbortLog := aborts.map (·.1)

theorem records_honestChain (base suffix : Str) (received added : RawLogRecord)
    (aborts : Option (RawLogRecord × RawLogRecord)) :
    (honestChain base suffix received added aborts).records =
      received :: added :: abortRecords aborts := by
  cases aborts <;> rfl

theorem IsSuffix.exists_concat {suffix : Str} (h : IsSuffix suffix) :
    ∃ init c, suffix = init ++ [c] ∧ isHexDigit c = true := by
  rcases List.eq_nil_or_concat suffix with rfl | ⟨init, c, rfl⟩
  · simp [IsSuffix] at h
  · exact ⟨init, c, by simp, h.2 c (by simp)⟩

section

variable [Interpreter]

theorem Carries.delimited {message line : Str} (h : Carries message line) :
    Delimited message line := by
  obtain ⟨pre, post, rfl, hpre⟩ := h
  refine ⟨pre, post, rfl, ?_⟩
  rcases hpre with rfl | hpre
  · rfl
  · rw [hpre, Option.any_some, isWord_ascii (by decide)]
    decide

/-- The log of a request: its records, and which of them carry its messages. -/
structure HonestLog (base suffix : Str) (records : List RawLogRecord)
    (received added : RawLogRecord) (aborts : Option (RawLogRecord × RawLogRecord)) : Prop where
  externalId : IsExternalRequestId base
  hexSuffix : IsSuffix suffix
  valid : ∀ record ∈ records, record.Valid
  source : ∃ stream, ∀ record ∈ records, record.sourceStreamId = stream
  ordinals : records.Pairwise (·.recordOrdinal < ·.recordOrdinal)
  intervals : records.Pairwise (·.byteEnd ≤ ·.byteStart)
  offsets : records.Pairwise (·.observationOffsetNs ≤ ·.observationOffsetNs)
  ids : ∀ record ∈ records, ∀ id ∈ identifiers record.rawRecord,
    id = servingItemId base ∨ id = internalEngineId base suffix
  order : (received :: added :: abortRecords aborts).Sublist records
  carriesReceived : Carries (receivedMessage (servingItemId base)) received.rawRecord
  carriesAdded : Carries (addedMessage (internalEngineId base suffix)) added.rawRecord
  carriesAborts : ∀ p ∈ aborts,
    Carries (internalAbortMessage (internalEngineId base suffix)) p.1.rawRecord ∧
      Carries (externalAbortMessage (servingItemId base)) p.2.rawRecord
  receivedOnly : ∀ record ∈ records,
    occurs isWord (receivedPattern (servingItemId base)) record.rawRecord → record = received
  addedOnly : ∀ record ∈ records,
    occurs isWord (internalPattern (servingItemId base)) record.rawRecord → record = added
  internalAbortsOnly : ∀ record ∈ records,
    occurs isWord (internalAbortPattern (internalEngineId base suffix)) record.rawRecord →
      record ∈ aborts.map (·.1)
  externalAbortsOnly : ∀ record ∈ records,
    occurs isWord (externalAbortPattern (servingItemId base)) record.rawRecord →
      record ∈ aborts.map (·.2)

/-! ## The identifier of the admission -/

/-- A run of identifier characters after a space is an identifier of its own. -/
theorem identifiers_run {pre run rest : Str} (hne : run ≠ []) (hrun : ∀ c ∈ run, isIdChar c)
    (hrest : rest.head?.any isIdChar = false) :
    identifiers (pre ++ 32 :: (lit "cmpl-" ++ (run ++ rest))) =
      identifiers pre ++ trimStops (lit "cmpl-" ++ run) :: identifiers rest := by
  have htake := takeWhile_run hrun hrest
  have hdrop : (run ++ rest).dropWhile isIdChar = rest := by
    have happ := List.takeWhile_append_dropWhile (p := isIdChar) (l := run ++ rest)
    rw [htake] at happ
    exact List.append_cancel_left happ
  have hmatch := @matchAt_identifier _ none (run ++ rest) (by rwa [htake])
  rw [htake, hdrop] at hmatch
  rw [identifiers, finditer_separator stopsAt_identifierPattern,
    texts_finditer_of_some stopsAt_identifierPattern hmatch (by simp [hne]), List.map_append,
    List.map_cons, identifiers, identifiers]

/-- An admission in a line of the request is the request's own, and its id is in the line. -/
theorem identifier_of_added {base suffix suffix' line : Str} (hbase : IsExternalRequestId base)
    (hsuffix : IsSuffix suffix) (hsuffix' : IsSuffix suffix')
    (hids : ∀ id ∈ identifiers line, id = servingItemId base ∨ id = internalEngineId base suffix)
    (h : addedMessage (internalEngineId base suffix') <:+: line) :
    suffix' = suffix ∧ internalEngineId base suffix ∈ identifiers line := by
  obtain ⟨pre, post, rfl⟩ := h
  -- the run of identifier characters that starts at the id, with the full stop after it
  let id' := base ++ lit "-0" ++ lit "-" ++ suffix'
  let more := 46 :: post.takeWhile isIdChar
  have hid' : ∀ c ∈ id', isIdChar c := by
    intro c hc
    simp only [id', List.mem_append] at hc
    rcases hc with ((hc | hc) | hc) | hc
    · exact hbase.isIdChar c hc
    · exact isIdChar_dash_zero c hc
    · exact (by decide : ∀ c ∈ lit "-", isIdChar c) c hc
    · exact (isIdChar_hex (hsuffix'.2 c hc)).1
  have hrun : ∀ c ∈ id' ++ more, isIdChar c := by
    intro c hc
    rcases List.mem_append.mp hc with hc | hc
    · exact hid' c hc
    · rcases List.mem_cons.mp hc with rfl | hc
      · decide
      · exact List.mem_takeWhile_imp hc
  have hline : pre ++ addedMessage (internalEngineId base suffix') ++ post =
      (pre ++ lit "Added request") ++
        32 :: (lit "cmpl-" ++ ((id' ++ more) ++ post.dropWhile isIdChar)) := by
    have hadded : lit "Added request " = lit "Added request" ++ [32] := by decide
    conv_lhs => rw [← List.takeWhile_append_dropWhile (p := isIdChar) (l := post)]
    simp [addedMessage, internalEngineId, servingItemId, responseBodyId, id', more, hadded,
      show lit "." = [46] by decide]
  have hmem : trimStops (lit "cmpl-" ++ (id' ++ more)) ∈
      identifiers (pre ++ addedMessage (internalEngineId base suffix') ++ post) := by
    rw [hline, identifiers_run (by simp [more]) hrun (head?_dropWhile_any post)]
    exact List.mem_append_right _ List.mem_cons_self
  have hinternal : internalEngineId base suffix' = lit "cmpl-" ++ id' := by
    simp [id', internalEngineId, servingItemId, responseBodyId]
  -- the id does not end in a full stop, so trimming leaves it whole
  have hlong : internalEngineId base suffix' <+: trimStops (lit "cmpl-" ++ (id' ++ more)) := by
    refine prefix_trimStops ⟨more, by rw [hinternal, List.append_assoc]⟩ ?_
    obtain ⟨init, c, rfl, hc⟩ := hsuffix'.exists_concat
    rw [internalEngineId, ← List.append_assoc, List.getLast?_concat]
    rintro ⟨rfl⟩
    exact absurd hc (by decide)
  have hlen : (internalEngineId base suffix').length = (internalEngineId base suffix).length := by
    simp [internalEngineId, hsuffix.1, hsuffix'.1]
  rcases hids _ hmem with hserving | hown
  · rw [hserving] at hlong
    have hle := hlong.length_le
    simp [internalEngineId, hsuffix'.1] at hle
  · rw [hown] at hlong hmem
    have heq := hlong.eq_of_length hlen
    exact ⟨by simpa [internalEngineId] using heq, hmem⟩

/-! ## What is found -/

theorem found_eq_toList {pattern : Regex ℕ} {records : List RawLogRecord}
    {record : Option RawLogRecord} (hnodup : records.Nodup)
    (hmem : ∀ r ∈ record, r ∈ records ∧ occurs isWord pattern r.rawRecord)
    (honly : ∀ r ∈ records, occurs isWord pattern r.rawRecord → r ∈ record) :
    found pattern records = record.toList := by
  have hfound : ∀ r, r ∈ found pattern records ↔ r ∈ record := by
    intro r
    simp only [found, List.mem_filter, decide_eq_true_eq]
    exact ⟨fun h => honly r h.1 h.2, hmem r⟩
  cases record with
  | none => exact List.eq_nil_iff_forall_not_mem.mpr fun r hr => by simpa using (hfound r).mp hr
  | some r =>
    refine List.perm_singleton.mp ((List.perm_ext_iff_of_nodup (hnodup.filter _) (by simp)).mpr ?_)
    intro s
    rw [← found, hfound]
    simp [eq_comm]

namespace HonestLog

variable {base suffix : Str} {records : List RawLogRecord} {received added : RawLogRecord}
  {aborts : Option (RawLogRecord × RawLogRecord)}

theorem nodup (h : HonestLog base suffix records received added aborts) : records.Nodup :=
  h.ordinals.imp fun hlt heq => absurd (congrArg RawLogRecord.recordOrdinal heq) (Nat.ne_of_lt hlt)

theorem found_received (h : HonestLog base suffix records received added aborts) :
    found (receivedPattern (servingItemId base)) records = [received] := by
  refine @found_eq_toList _ _ _ (some received) h.nodup ?_ ?_
  · rintro r ⟨⟩
    exact ⟨h.order.subset (by simp), occurs_received.mpr h.carriesReceived.delimited⟩
  · exact fun r hr hocc => congrArg some (h.receivedOnly r hr hocc).symm

theorem found_added (h : HonestLog base suffix records received added aborts) :
    found (internalPattern (servingItemId base)) records = [added] := by
  refine @found_eq_toList _ _ _ (some added) h.nodup ?_ ?_
  · rintro r ⟨⟩
    exact ⟨h.order.subset (by simp),
      occurs_internal.mpr ⟨suffix, h.hexSuffix, h.carriesAdded.delimited⟩⟩
  · exact fun r hr hocc => congrArg some (h.addedOnly r hr hocc).symm

theorem abortRecords_subset (h : HonestLog base suffix records received added aborts) :
    ∀ p ∈ aborts, p.1 ∈ records ∧ p.2 ∈ records := by
  rintro p rfl
  exact ⟨h.order.subset (by simp [abortRecords]), h.order.subset (by simp [abortRecords])⟩

theorem found_internalAborts (h : HonestLog base suffix records received added aborts) :
    found (internalAbortPattern (internalEngineId base suffix)) records =
      (aborts.map (·.1)).toList := by
  refine found_eq_toList h.nodup ?_ h.internalAbortsOnly
  intro r hr
  obtain ⟨p, hp, rfl⟩ := Option.map_eq_some_iff.mp hr
  exact ⟨(h.abortRecords_subset p hp).1, occurs_internalAbort.mpr (h.carriesAborts p hp).1.delimited⟩

theorem found_externalAborts (h : HonestLog base suffix records received added aborts) :
    found (externalAbortPattern (servingItemId base)) records = (aborts.map (·.2)).toList := by
  refine found_eq_toList h.nodup ?_ h.externalAbortsOnly
  intro r hr
  obtain ⟨p, hp, rfl⟩ := Option.map_eq_some_iff.mp hr
  exact ⟨(h.abortRecords_subset p hp).2, occurs_externalAbort.mpr (h.carriesAborts p hp).2.delimited⟩

/-- The id captured from the admission is the request's own. -/
theorem foundMatches_added (h : HonestLog base suffix records received added aborts) :
    ∃ m, foundMatches (internalPattern (servingItemId base)) records = [(added, m)] ∧
      m.groups.headD [] = internalEngineId base suffix := by
  obtain ⟨m, hm, hsearch⟩ := foundMatches_eq_singleton h.found_added
  obtain ⟨suffix', hsuffix', hgroups, hmessage⟩ := search_internal hsearch
  have hmem : added ∈ records := h.order.subset (by simp)
  obtain ⟨rfl, -⟩ :=
    identifier_of_added h.externalId h.hexSuffix hsuffix' (h.ids added hmem) hmessage.isInfix
  exact ⟨m, hm, by rw [hgroups]; rfl⟩

/-- The greedy pattern finds nothing else exactly when the suffix does not start with `0`. -/
theorem genericIds_iff (h : HonestLog base suffix records received added aborts) :
    (∀ id ∈ genericIds records, id ∈ [servingItemId base, internalEngineId base suffix]) ↔
      suffix.head? ≠ some 48 := by
  -- the engine's id is longer than the serving id
  have hserving : servingItemId base ≠ internalEngineId base suffix := by
    intro heq
    have hlen := congrArg List.length heq
    simp [internalEngineId, h.hexSuffix.1] at hlen
  -- the generic ids of a record are those of its own ids
  have hgeneric : ∀ id, id ∈ genericIds records ↔ ∃ record ∈ records,
      ∃ own ∈ identifiers record.rawRecord, genericId base suffix own = id := by
    intro id
    rw [genericIds, List.mem_flatMap]
    refine exists_congr fun record => and_congr_right fun hrecord => ?_
    rw [genericIds_of_identifiers h.externalId h.hexSuffix (h.ids record hrecord), List.mem_map]
  constructor
  -- the record that adds the request holds the engine's id, of which the `-0` is cut off
  · intro hall hzero
    have hmem : added ∈ records := h.order.subset (by simp)
    obtain ⟨-, hown⟩ := identifier_of_added h.externalId h.hexSuffix h.hexSuffix (h.ids added hmem)
      h.carriesAdded.delimited.isInfix
    have hid := hall _ ((hgeneric _).mpr ⟨added, hmem, _, hown, rfl⟩)
    rw [genericId, if_neg hserving.symm, if_pos hzero] at hid
    rcases List.mem_pair.mp hid with hid | hid
    · exact absurd (List.append_right_eq_self.mp hid) (by decide)
    · have hlen := congrArg List.length hid
      simp [internalEngineId, h.hexSuffix.1, show (lit "-0").length = 2 by decide,
        show (lit "-").length = 1 by decide] at hlen
  · intro hzero id hid
    obtain ⟨record, hrecord, own, hown, rfl⟩ := (hgeneric id).mp hid
    -- otherwise the generic pattern finds an own id whole
    have hsame : genericId base suffix own = own := by
      rw [genericId, if_neg hzero, ite_self]
    rw [hsame]
    simpa using h.ids record hrecord own hown

theorem valid_honestChain (h : HonestLog base suffix records received added aborts) :
    (honestChain base suffix received added aborts).Valid := by
  -- all records have one source, and their intervals lie apart
  obtain ⟨stream, hstream⟩ := h.source
  have hrecords := records_honestChain base suffix received added aborts
  have hsubset := h.order.subset
  have hreceived : received.sourceStreamId = stream := hstream received (hsubset (by simp))
  have hapart := h.intervals.sublist h.order
  constructor
  case external => exact h.externalId
  case response => rfl
  case serving => rfl
  case internal => exact ⟨suffix, h.hexSuffix, rfl⟩
  case nodup =>
    rw [hrecords]
    refine List.pairwise_map.mpr ((h.ordinals.sublist h.order).imp fun hlt heq => ?_)
    exact Nat.ne_of_lt hlt (Prod.mk.inj heq).2
  case source =>
    rw [hrecords]
    exact fun r hr => (hstream r (hsubset hr)).trans hreceived.symm
  case together => cases aborts <;> rfl
  case ordinals =>
    rw [hrecords]
    exact (h.ordinals.sublist h.order).imp Nat.le_of_lt
  case offsets =>
    rw [hrecords]
    exact h.offsets.sublist h.order
  case starts =>
    rw [hrecords]
    refine hapart.imp_of_mem fun {a b} ha _ hle => ?_
    exact (h.valid a (hsubset ha)).interval.le.trans hle
  case apart =>
    rw [hrecords]
    exact hapart.isChain
  -- each record carries its message
  case fragments =>
    have haborts := h.carriesAborts
    cases aborts with
    | none =>
      simp only [RequestIdentityChain.requiredFragments, honestChain, Option.map_none,
        Option.toList_none, List.append_nil, List.forall_mem_cons, List.not_mem_nil]
      exact ⟨h.carriesReceived.delimited.isInfix, h.carriesAdded.delimited.isInfix, by simp⟩
    | some p =>
      obtain ⟨hinternal, hexternal⟩ := haborts p rfl
      simp only [RequestIdentityChain.requiredFragments, honestChain, Option.map_some,
        Option.toList_some, List.cons_append, List.nil_append, List.forall_mem_cons,
        List.not_mem_nil]
      exact ⟨h.carriesReceived.delimited.isInfix, h.carriesAdded.delimited.isInfix,
        hexternal.delimited.isInfix,
        hinternal.delimited.isInfix, by simp⟩

end HonestLog

/-- The chain of a log in which the greedy pattern finds the request's own identifiers. -/
theorem HonestLog.correlated {base suffix : Str} {records : List RawLogRecord}
    {received added : RawLogRecord} {aborts : Option (RawLogRecord × RawLogRecord)}
    (h : HonestLog base suffix records received added aborts)
    (hids : ∀ id ∈ genericIds records,
      id ∈ [servingItemId base, internalEngineId base suffix]) :
    Correlated base records aborts.isSome (honestChain base suffix received added aborts) := by
  obtain ⟨m, hm, hinternal⟩ := h.foundMatches_added
  exact ⟨rfl, h.found_received, ⟨m, hm, hinternal⟩, hids, h.found_externalAborts,
    h.found_internalAborts, by cases aborts <;> rfl, h.valid_honestChain⟩

/-- **An honest log correlates to its chain exactly when its suffix does not start with `0`.** -/
theorem correlateRequestLogs_honest_iff {base suffix : Str} {records : List RawLogRecord}
    {received added : RawLogRecord} {aborts : Option (RawLogRecord × RawLogRecord)}
    (h : HonestLog base suffix records received added aborts) :
    correlateRequestLogs base records aborts.isSome =
        .ok (honestChain base suffix received added aborts) ↔ suffix.head? ≠ some 48 := by
  rw [correlateRequestLogs_eq_ok, ← h.genericIds_iff]
  constructor
  · exact fun hc => hc.ids
  · exact fun hids => h.correlated hids

/-! ## The log of one cancelled request -/

/-- A record of an ASCII line of less than a hundred characters. -/
def sampleRecord (ordinal : ℕ) (line : Str) : RawLogRecord where
  sourceStreamId := lit "server"
  recordOrdinal := ordinal
  byteStart := 100 * ordinal
  byteEnd := 100 * ordinal + line.length
  observationOffsetNs := ordinal
  rawRecord := line
  rawRecordSha256 := Interpreter.hexdigest (line.map UInt8.ofNat)

theorem valid_sampleRecord (ordinal : ℕ) {line : Str} (hne : line ≠ [])
    (hascii : ∀ c ∈ line, c < 128) : (sampleRecord ordinal line).Valid := by
  have hencode := utf8Encode_of_ascii hascii
  have hpos := List.length_pos_iff.mpr hne
  exact ⟨(by decide : IsIdentifier (lit "server")), by simpa [sampleRecord] using hpos,
    by simp [sampleRecord, hencode], by simp [sampleRecord, hencode]⟩

/-- The record of the request's arrival. -/
def sampleReceived : RawLogRecord :=
  sampleRecord 0 (lit "> Received request cmpl-a-0:")

/-- The record of the request's admission. -/
def sampleAdded (suffix : Str) : RawLogRecord :=
  sampleRecord 2 (lit "> " ++ addedMessage (internalEngineId (lit "a") suffix))

/-- The two records of the request's abort. -/
def sampleAborts (suffix : Str) : RawLogRecord × RawLogRecord :=
  (sampleRecord 3 (internalAbortMessage (internalEngineId (lit "a") suffix)),
    sampleRecord 4 (lit "Request cmpl-a-0 aborted."))

/-- The log of a cancelled request `a` among other lines. -/
def sampleLog (suffix : Str) : List RawLogRecord :=
  [sampleReceived, sampleRecord 1 (lit "GET /"), sampleAdded suffix,
    (sampleAborts suffix).1, (sampleAborts suffix).2]

end

section

attribute [local instance] cpython

theorem honestLog_sampleLog {suffix : Str}
    (h : suffix = lit "1234abcd" ∨ suffix = lit "0234abcd") :
    HonestLog (lit "a") suffix (sampleLog suffix) sampleReceived (sampleAdded suffix)
      (some (sampleAborts suffix)) := by
  -- a message at the start of a record, or after `> `, is delimited
  have carries : ∀ {pre message : Str}, pre = [] ∨ pre = lit "> " → ∀ post,
      Carries message (pre ++ message ++ post) := by
    rintro pre message hpre post
    refine ⟨pre, post, rfl, ?_⟩
    rcases hpre with rfl | rfl
    · exact .inl rfl
    · exact .inr (by decide)
  constructor
  case valid =>
    -- the records are short lines of ASCII
    have hvalid : ∀ record ∈ sampleLog suffix, ∃ ordinal line,
        record = sampleRecord ordinal line ∧ line ≠ [] ∧ ∀ c ∈ line, c < 128 := by
      simp only [sampleLog, sampleReceived, sampleAdded, sampleAborts, List.forall_mem_cons]
      rcases h with rfl | rfl <;>
        exact ⟨⟨_, _, rfl, by decide⟩, ⟨_, _, rfl, by decide⟩, ⟨_, _, rfl, by decide⟩,
          ⟨_, _, rfl, by decide⟩, ⟨_, _, rfl, by decide⟩, by simp⟩
    intro record hrecord
    obtain ⟨ordinal, line, rfl, hne, hascii⟩ := hvalid record hrecord
    exact valid_sampleRecord ordinal hne hascii
  case carriesReceived => exact carries (.inr rfl) []
  case carriesAdded =>
    have hadded := @carries _ (addedMessage (internalEngineId (lit "a") suffix)) (.inr rfl) []
    rwa [List.append_nil] at hadded
  case carriesAborts =>
    rintro p ⟨rfl⟩
    have habort := @carries _ (internalAbortMessage (internalEngineId (lit "a") suffix))
      (.inl rfl) []
    rw [List.append_nil] at habort
    exact ⟨habort, carries (.inl rfl) []⟩
  case source => exact ⟨lit "server", by rcases h with rfl | rfl <;> decide +kernel⟩
  all_goals rcases h with rfl | rfl <;> decide +kernel

/-- The log of a cancelled request whose suffix starts with `1`. -/
theorem correlateRequestLogs_honest_one :
    correlateRequestLogs (lit "a") (sampleLog (lit "1234abcd")) true =
      .ok (honestChain (lit "a") (lit "1234abcd") sampleReceived
        (sampleAdded (lit "1234abcd")) (some (sampleAborts (lit "1234abcd")))) :=
  (correlateRequestLogs_honest_iff (honestLog_sampleLog (.inl rfl))).mpr (by decide)

/-- The same log with a suffix that starts with `0` is refused. -/
theorem exists_honestLog_not_correlated :
    ∃ suffix, HonestLog (lit "a") suffix (sampleLog suffix) sampleReceived (sampleAdded suffix)
        (some (sampleAborts suffix)) ∧
      correlateRequestLogs (lit "a") (sampleLog suffix) true =
        .error (.stage2Protocol "cross-request log correlation detected") :=
  ⟨lit "0234abcd", honestLog_sampleLog (.inr rfl), by decide +kernel⟩

end

end Stage2
