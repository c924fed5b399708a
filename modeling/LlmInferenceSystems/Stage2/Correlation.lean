import LlmInferenceSystems.Python.Checks
import LlmInferenceSystems.Python.Regex
import LlmInferenceSystems.Stage2.IdentityChain

/-!
# Request-log correlation

The records that carry the messages of one request are found by four patterns, each of a message
after a word boundary. A fifth, greedy pattern collects the `cmpl-` identifiers of the whole log;
the chain is refused when it finds any but the request's own two.

## Main definitions

* `correlateRequestLogs`: the correlation of a log
* `Delimited`: a message that does not start inside a word
* `Correlated`: the chain of a log

## Main results

* `correlateRequestLogs_eq_ok`: when a log correlates, and to which chain
-/

namespace Stage2

open Python Regex

/-- `cmpl-[A-Za-z0-9._-]+-0(?:-[0-9a-f]{8})?`, after `cmpl-`. -/
def genericIdTail : Regex ℕ :=
  .seq (.rep isIdChar 1 none)
    (.seq (literal (lit "-0")) (.opt (.seq (literal (lit "-")) (.rep isHexDigit 8 (some 8)))))

/-- `cmpl-[A-Za-z0-9._-]+-0(?:-[0-9a-f]{8})?` -/
def genericIdPattern : Regex ℕ := .seq (literal (lit "cmpl-")) genericIdTail

/-- `\bReceived request {serving_item}:` -/
def receivedPattern (servingItem : Str) : Regex ℕ :=
  .seq .boundary (literal (receivedMessage servingItem))

/-- `\bAdded request ({serving_item}-[0-9a-f]{8})\.` -/
def internalPattern (servingItem : Str) : Regex ℕ :=
  .seq .boundary (.seq (literal (lit "Added request "))
    (.seq (.group (.seq (literal (servingItem ++ lit "-")) (.rep isHexDigit 8 (some 8))))
      (literal (lit "."))))

/-- `\bRequest {serving_item} aborted\.` -/
def externalAbortPattern (servingItem : Str) : Regex ℕ :=
  .seq .boundary (literal (externalAbortMessage servingItem))

/-- `\bAborted request\(s\) {internal_id}\.` -/
def internalAbortPattern (internalId : Str) : Regex ℕ :=
  .seq .boundary (literal (internalAbortMessage internalId))

section

variable [Interpreter]

/-- The records a pattern is found in. -/
def found (pattern : Regex ℕ) (records : List RawLogRecord) : List RawLogRecord :=
  records.filter fun record => occurs isWord pattern record.rawRecord

/-- The records a pattern is found in, each with its first match. -/
def foundMatches (pattern : Regex ℕ) (records : List RawLogRecord) :
    List (RawLogRecord × Match ℕ) :=
  records.filterMap fun record => (search isWord pattern record.rawRecord).map (record, ·)

/-- The identifiers the greedy pattern finds. -/
def genericIds (records : List RawLogRecord) : List Str :=
  records.flatMap fun record => texts (finditer isWord genericIdPattern record.rawRecord)

/-- `correlate_request_logs` -/
def correlateRequestLogs (externalBaseId : Str) (records : List RawLogRecord)
    (cancellation : Bool) : Except PyError RequestIdentityChain :=
  let servingItem := servingItemId externalBaseId
  let externalAborts := found (externalAbortPattern servingItem) records
  match found (receivedPattern servingItem) records with
  | [received] =>
    match foundMatches (internalPattern servingItem) records with
    | [(requestAddRecord, internalMatch)] =>
      let internalId := internalMatch.groups.headD []
      let internalAborts := found (internalAbortPattern internalId) records
      if ¬ ∀ id ∈ genericIds records, id ∈ [servingItem, internalId] then
        .error (.stage2Protocol "cross-request log correlation detected")
      else if cancellation ∧ (externalAborts.length ≠ 1 ∨ internalAborts.length ≠ 1) then
        .error (.stage2Protocol "cancellation requires both external and internal abort logs")
      else if ¬ cancellation ∧ (externalAborts ≠ [] ∨ internalAborts ≠ []) then
        .error (.stage2Protocol "unexpected abort logs observed for a completed request")
      else
        let chain : RequestIdentityChain :=
          { externalBaseId
            responseBodyId := responseBodyId externalBaseId
            servingItemId := servingItem
            internalEngineId := internalId
            requestReceivedLog := received
            requestAddLog := requestAddRecord
            externalAbortLog := externalAborts.head?
            internalAbortLog := internalAborts.head? }
        match chain.validate with
        | .ok () => .ok chain
        | .error _ =>
          .error (.stage2Protocol
            "request-log chronology differs from the pinned internal-before-external chain")
    | _ =>
      .error (.stage2Protocol "internal request-add correlation is missing or ambiguous")
  | _ => .error (.stage2Protocol "request logger correlation is missing or ambiguous")

/-- Every failure of the correlation is a `Stage2ProtocolError`. -/
theorem raisesOnly_correlateRequestLogs {externalBaseId : Str}
    {records : List RawLogRecord} {cancellation : Bool} :
    RaisesOnly PyError.isStage2Protocol
      (correlateRequestLogs externalBaseId records cancellation) := by
  simp only [correlateRequestLogs]
  split
  · split
    · split_ifs
      · exact raisesOnly_error rfl
      · exact raisesOnly_error rfl
      · split
        · exact (returns_ok _).raisesOnly
        · exact raisesOnly_error rfl
      · exact raisesOnly_error rfl
    · exact raisesOnly_error rfl
  · exact raisesOnly_error rfl

/-! ## Messages -/

/-- A message that does not start inside a word. -/
def Delimited (message line : Str) : Prop :=
  ∃ pre post, line = pre ++ message ++ post ∧ pre.getLast?.any isWord = false

theorem Delimited.isInfix {message line : Str} (h : Delimited message line) : message <:+: line := by
  obtain ⟨pre, post, rfl, -⟩ := h
  exact ⟨pre, post, rfl⟩

theorem occurs_boundary_literal {c : ℕ} {message line : Str} (hc : isWord c = true) :
    occurs isWord (.seq .boundary (literal (c :: message))) line ↔
      Delimited (c :: message) line := by
  rw [occurs_iff]
  constructor
  · rintro ⟨pre, post, m, rfl, hm⟩
    obtain ⟨hpre, ⟨more, rfl⟩, -⟩ := (mem_run_boundary_literal hc).mp hm
    exact ⟨pre, more, by simp, hpre⟩
  · rintro ⟨pre, post, rfl, hpre⟩
    exact ⟨pre, c :: message ++ post, _, by simp,
      (mem_run_boundary_literal hc).mpr ⟨hpre, List.prefix_append _ _, rfl⟩⟩

theorem isWord_upper {c : ℕ} (h : 65 ≤ c ∧ c ≤ 90) : isWord c = true := by
  rw [isWord_ascii (by omega)]
  simp [isAsciiAlnum, h]

theorem occurs_received {servingItem line : Str} :
    occurs isWord (receivedPattern servingItem) line ↔
      Delimited (receivedMessage servingItem) line :=
  occurs_boundary_literal (c := 82) (isWord_upper (by decide))

theorem occurs_externalAbort {servingItem line : Str} :
    occurs isWord (externalAbortPattern servingItem) line ↔
      Delimited (externalAbortMessage servingItem) line :=
  occurs_boundary_literal (c := 82) (isWord_upper (by decide))

theorem occurs_internalAbort {internalId line : Str} :
    occurs isWord (internalAbortPattern internalId) line ↔
      Delimited (internalAbortMessage internalId) line :=
  occurs_boundary_literal (c := 65) (isWord_upper (by decide))

/-- A match of the internal pattern captures an internal id whose message is there. -/
theorem mem_run_internal {base line : Str} {before : Option ℕ} {m : Match ℕ} :
    m ∈ run isWord (internalPattern (servingItemId base)) before line ↔
      ∃ suffix post, IsSuffix suffix ∧ before.any isWord = false ∧
        line = addedMessage (internalEngineId base suffix) ++ post ∧
        m = ⟨addedMessage (internalEngineId base suffix), post, [internalEngineId base suffix]⟩ := by
  -- the message begins with a word character, so the boundary looks at what is before it
  have hA : ∀ more, atBoundary isWord before (lit "Added request " ++ more) =
      !before.any isWord := by
    intro more
    have hword : isWord 65 = true := isWord_upper (by decide)
    have hhead : (lit "Added request " ++ more).head? = some 65 := rfl
    rw [atBoundary, hhead, Option.any_some, hword]
    cases before.any isWord <;> rfl
  constructor
  · simp only [internalPattern, mem_run_seq, mem_run_group]
    rintro ⟨a, ha, b, ⟨c, hc, d, ⟨e, ⟨f, ⟨g, hg, k, hk, rfl⟩, rfl⟩, l, hl, rfl⟩, rfl⟩, rfl⟩
    -- the boundary, the message up to the id, and the id with its eight digits
    obtain ⟨hbound, rfl⟩ := mem_run_boundary.mp ha
    obtain ⟨⟨more, rfl⟩, rfl⟩ := mem_run_literal.mp hc
    simp only [List.drop_left] at hg
    obtain ⟨⟨more', rfl⟩, rfl⟩ := mem_run_literal.mp hg
    simp only [List.drop_left] at hk
    obtain ⟨hk₁, hk₂, hk₃, hk₄⟩ := mem_run_exactly.mp hk
    obtain ⟨⟨more'', hl₁⟩, rfl⟩ := mem_run_literal.mp hl
    simp only at hl₁
    refine ⟨k.text, more'', ⟨hk₂, hk₃⟩, ?_, ?_, ?_⟩
    · simpa [hA] using hbound
    · rw [← hk₁, ← hl₁]
      simp [addedMessage, internalEngineId]
    · simp [addedMessage, internalEngineId, hk₄, ← hl₁]
  · rintro ⟨suffix, post, ⟨hlen, hhex⟩, hbefore, rfl, rfl⟩
    have hline : addedMessage (internalEngineId base suffix) ++ post =
        lit "Added request " ++ (servingItemId base ++ lit "-" ++ (suffix ++ (lit "." ++ post))) := by
      simp [addedMessage, internalEngineId]
    rw [hline]
    refine mem_run_seq.mpr ⟨⟨[], _, []⟩, mem_run_boundary.mpr ⟨by rw [hA, hbefore]; rfl, rfl⟩,
      ⟨addedMessage (internalEngineId base suffix), post, [internalEngineId base suffix]⟩, ?_, rfl⟩
    refine mem_run_seq.mpr ⟨_, mem_run_literal_append _ _ _,
      ⟨internalEngineId base suffix ++ lit ".", post, [internalEngineId base suffix]⟩, ?_,
      by simp [addedMessage]⟩
    refine mem_run_seq.mpr ⟨⟨internalEngineId base suffix, lit "." ++ post,
      [internalEngineId base suffix]⟩, ?_, _, mem_run_literal_append _ _ _, rfl⟩
    refine mem_run_group.mpr ⟨⟨internalEngineId base suffix, lit "." ++ post, []⟩, ?_, rfl⟩
    exact mem_run_seq.mpr ⟨_, mem_run_literal_append _ _ _, ⟨suffix, lit "." ++ post, []⟩,
      mem_run_exactly.mpr ⟨rfl, hlen, hhex, rfl⟩, rfl⟩

theorem occurs_internal {base line : Str} :
    occurs isWord (internalPattern (servingItemId base)) line ↔
      ∃ suffix, IsSuffix suffix ∧ Delimited (addedMessage (internalEngineId base suffix)) line := by
  rw [occurs_iff]
  constructor
  · rintro ⟨pre, post, m, rfl, hm⟩
    obtain ⟨suffix, more, hsuffix, hpre, rfl, -⟩ := mem_run_internal.mp hm
    exact ⟨suffix, hsuffix, pre, more, by simp, hpre⟩
  · rintro ⟨suffix, hsuffix, pre, post, rfl, hpre⟩
    exact ⟨pre, _, _, by rw [List.append_assoc], mem_run_internal.mpr
      ⟨suffix, post, hsuffix, hpre, rfl, rfl⟩⟩

/-- The id captured by the first match is one whose message is there. -/
theorem search_internal {base line : Str} {m : Match ℕ}
    (h : search isWord (internalPattern (servingItemId base)) line = some m) :
    ∃ suffix, IsSuffix suffix ∧ m.groups = [internalEngineId base suffix] ∧
      Delimited (addedMessage (internalEngineId base suffix)) line := by
  obtain ⟨pre, post, rfl, hm⟩ := searchFrom_eq_some h
  obtain ⟨suffix, more, hsuffix, hpre, rfl, rfl⟩ := mem_run_internal.mp hm
  exact ⟨suffix, hsuffix, rfl, pre, more, by simp, by simpa [lastOr] using hpre⟩

theorem found_eq_map_foundMatches (pattern : Regex ℕ) (records : List RawLogRecord) :
    found pattern records = (foundMatches pattern records).map (·.1) := by
  induction records with
  | nil => rfl
  | cons record records ih =>
    simp only [found, foundMatches] at ih ⊢
    cases h : search isWord pattern record.rawRecord with
    | none => simpa [h, occurs] using ih
    | some m => simpa [h, occurs] using ih

/-- The one record a pattern is found in, with its first match. -/
theorem foundMatches_eq_singleton {pattern : Regex ℕ} {records : List RawLogRecord}
    {record : RawLogRecord} (h : found pattern records = [record]) :
    ∃ m, foundMatches pattern records = [(record, m)] ∧
      search isWord pattern record.rawRecord = some m := by
  rw [found_eq_map_foundMatches] at h
  obtain ⟨⟨r, m⟩, hp, rfl⟩ := List.map_eq_singleton_iff.mp h
  have hmem : (r, m) ∈ foundMatches pattern records := by rw [hp]; simp
  obtain ⟨s, -, hs⟩ := List.mem_filterMap.mp hmem
  obtain ⟨m', hm', heq⟩ := Option.map_eq_some_iff.mp hs
  obtain ⟨rfl, rfl⟩ := Prod.mk.inj heq
  exact ⟨m', hp, hm'⟩

/-! ## When a log correlates -/

/-- What a correlated chain is. -/
structure Correlated (externalBaseId : Str) (records : List RawLogRecord) (cancellation : Bool)
    (chain : RequestIdentityChain) : Prop where
  base : chain.externalBaseId = externalBaseId
  received : found (receivedPattern (servingItemId externalBaseId)) records =
    [chain.requestReceivedLog]
  added : ∃ m, foundMatches (internalPattern (servingItemId externalBaseId)) records =
    [(chain.requestAddLog, m)] ∧ m.groups.headD [] = chain.internalEngineId
  ids : ∀ id ∈ genericIds records, id ∈ [servingItemId externalBaseId, chain.internalEngineId]
  externalAborts : found (externalAbortPattern (servingItemId externalBaseId)) records =
    chain.externalAbortLog.toList
  internalAborts : found (internalAbortPattern chain.internalEngineId) records =
    chain.internalAbortLog.toList
  cancellation : chain.externalAbortLog.isSome = cancellation
  valid : chain.Valid

/-- **When a log correlates, and to which chain.** -/
theorem correlateRequestLogs_eq_ok {externalBaseId : Str} {records : List RawLogRecord}
    {cancellation : Bool} {chain : RequestIdentityChain} :
    correlateRequestLogs externalBaseId records cancellation = .ok chain ↔
      Correlated externalBaseId records cancellation chain := by
  constructor
  · intro h
    -- the checks in their order: the two messages, the ids, the aborts, and the chain itself
    simp only [correlateRequestLogs] at h
    split at h
    · next received hreceived =>
      split at h
      · next added m hadded =>
        split_ifs at h with hids hcancel hclean
        split at h
        · next hvalid =>
          obtain rfl := Except.ok.inj h
          cases cancellation with
          -- a cancelled request has exactly one abort of each kind
          | true =>
            simp only [true_and, not_or, not_not, List.length_eq_one_iff] at hcancel
            obtain ⟨⟨external, hexternal⟩, internal, hinternal⟩ := hcancel
            exact ⟨rfl, hreceived, ⟨m, hadded, rfl⟩, hids, by rw [hexternal]; rfl,
              by rw [hinternal]; rfl, by rw [hexternal]; rfl,
              RequestIdentityChain.validate_eq_ok.mp hvalid⟩
          -- any other request has none
          | false =>
            simp only [Bool.false_eq_true, not_false_eq_true, true_and, not_or, not_not] at hclean
            obtain ⟨hexternal, hinternal⟩ := hclean
            exact ⟨rfl, hreceived, ⟨m, hadded, rfl⟩, hids, by rw [hexternal]; rfl,
              by rw [hinternal]; rfl, by rw [hexternal]; rfl,
              RequestIdentityChain.validate_eq_ok.mp hvalid⟩
        · simp at h
      · simp at h
    · simp at h
  · intro h
    obtain ⟨m, hadded, hinternal⟩ := h.added
    have hbase := h.base
    have hserving := h.valid.serving
    have hresponse := h.valid.response
    have htogether := h.valid.together
    have hvalid := RequestIdentityChain.validate_eq_ok.mpr h.valid
    have hexternalAborts := h.externalAborts
    have hinternalAborts := h.internalAborts
    have hcancellation := h.cancellation
    have hids := h.ids
    -- the chain is the one that its fields describe
    obtain ⟨base, response, serving, internal, received, added, external, internalAbort⟩ := chain
    dsimp only at *
    subst hbase hserving hresponse
    simp only [correlateRequestLogs, h.received, hadded, hinternal, hexternalAborts,
      hinternalAborts]
    rw [if_neg (not_not.mpr hids)]
    cases external with
    | none =>
      obtain rfl : false = cancellation := hcancellation
      -- the two aborts come together, so without one there is not the other
      obtain rfl : internalAbort = none := by simpa using htogether.symm
      simp [hvalid]
    | some external =>
      obtain rfl : true = cancellation := hcancellation
      obtain ⟨internalAbort, rfl⟩ : ∃ r, internalAbort = some r := by
        cases internalAbort with
        | none => simp at htogether
        | some r => exact ⟨r, rfl⟩
      simp [hvalid]

end

end Stage2
