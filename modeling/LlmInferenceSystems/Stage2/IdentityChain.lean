import Mathlib.Data.List.ReduceOption
import LlmInferenceSystems.Stage2.RawLogs

/-!
# The identity chain of a request

One request shows under four names: the client's id `E`, the response body's `cmpl-E`, the serving
item's `cmpl-E-0` and the engine's `cmpl-E-0-s`, where `s` is eight hexadecimal characters. A chain
holds the four names and the log records that tie them together.

## Main definitions

* `RequestIdentityChain`: the contract
* `RequestIdentityChain.validate`: its validator

## Main results

* `RequestIdentityChain.validate_eq_ok`: what a valid chain is
-/

namespace Stage2

open Python

/-- The characters of an identifier: `[A-Za-z0-9._-]`. -/
def isIdChar (c : ℕ) : Bool := isAsciiAlnum c || c == 46 || c == 95 || c == 45

/-- `ExternalRequestId`: `^[A-Za-z0-9][A-Za-z0-9._-]{0,63}$` -/
def IsExternalRequestId : Str → Prop
  | [] => False
  | c :: rest => isAsciiAlnum c ∧ rest.length ≤ 63 ∧ ∀ d ∈ rest, isIdChar d

instance : DecidablePred IsExternalRequestId
  | [] => inferInstanceAs (Decidable False)
  | _ :: _ => inferInstanceAs (Decidable (_ ∧ _))

/-- Eight lower-case hexadecimal characters. -/
def IsSuffix (suffix : Str) : Prop := suffix.length = 8 ∧ ∀ c ∈ suffix, isHexDigit c

instance (suffix : Str) : Decidable (IsSuffix suffix) := inferInstanceAs (Decidable (_ ∧ _))

/-- The id in the body of the response. -/
def responseBodyId (externalBaseId : Str) : Str := lit "cmpl-" ++ externalBaseId

/-- The id of the one item that is served. -/
def servingItemId (externalBaseId : Str) : Str := responseBodyId externalBaseId ++ lit "-0"

/-- The id inside the engine, with its random suffix. -/
def internalEngineId (externalBaseId suffix : Str) : Str :=
  servingItemId externalBaseId ++ lit "-" ++ suffix

/-- `RequestIdentityChain` -/
structure RequestIdentityChain where
  externalBaseId : Str
  responseBodyId : Str
  servingItemId : Str
  internalEngineId : Str
  requestReceivedLog : RawLogRecord
  requestAddLog : RawLogRecord
  externalAbortLog : Option RawLogRecord
  internalAbortLog : Option RawLogRecord
deriving DecidableEq

/-- `model_dump` -/
def RequestIdentityChain.dump (chain : RequestIdentityChain) : Json :=
  let optional (record : Option RawLogRecord) : Json := (record.map RawLogRecord.dump).getD .null
  .obj [(lit "external_base_id", .str chain.externalBaseId),
    (lit "response_body_id", .str chain.responseBodyId),
    (lit "serving_item_id", .str chain.servingItemId),
    (lit "internal_engine_id", .str chain.internalEngineId),
    (lit "request_received_log", chain.requestReceivedLog.dump),
    (lit "request_add_log", chain.requestAddLog.dump),
    (lit "external_abort_log", optional chain.externalAbortLog),
    (lit "internal_abort_log", optional chain.internalAbortLog)]

/-- The fragments the chain's records must contain. -/
def receivedMessage (servingItem : Str) : Str := lit "Received request " ++ servingItem ++ lit ":"

/-- What the engine logs when it admits a request. -/
def addedMessage (internalId : Str) : Str := lit "Added request " ++ internalId ++ lit "."

/-- What the server logs when it aborts a request. -/
def externalAbortMessage (servingItem : Str) : Str :=
  lit "Request " ++ servingItem ++ lit " aborted."

/-- What the engine logs when it aborts a request. -/
def internalAbortMessage (internalId : Str) : Str :=
  lit "Aborted request(s) " ++ internalId ++ lit "."

theorem internalEngineId_iff {base internal : Str} :
    (servingItemId base ++ lit "-" <+: internal ∧
        IsSuffix (removePrefix (servingItemId base ++ lit "-") internal)) ↔
      ∃ suffix, IsSuffix suffix ∧ internal = internalEngineId base suffix := by
  constructor
  · rintro ⟨⟨suffix, rfl⟩, hsuffix⟩
    rw [removePrefix_append] at hsuffix
    exact ⟨suffix, hsuffix, rfl⟩
  · rintro ⟨suffix, hsuffix, rfl⟩
    rw [internalEngineId, removePrefix_append]
    exact ⟨List.prefix_append _ _, hsuffix⟩

namespace RequestIdentityChain

/-- The records of a chain in the order its validator looks at them. -/
def records (chain : RequestIdentityChain) : List RawLogRecord :=
  [some chain.requestReceivedLog, some chain.requestAddLog, chain.internalAbortLog,
    chain.externalAbortLog].reduceOption

/-- Each record with the fragment it must contain. -/
def requiredFragments (chain : RequestIdentityChain) : List (RawLogRecord × Str) :=
  [(chain.requestReceivedLog, receivedMessage (Stage2.servingItemId chain.externalBaseId)),
    (chain.requestAddLog, addedMessage chain.internalEngineId)] ++
  (chain.externalAbortLog.map fun record =>
    (record, externalAbortMessage (Stage2.servingItemId chain.externalBaseId))).toList ++
  (chain.internalAbortLog.map fun record =>
    (record, internalAbortMessage chain.internalEngineId)).toList

/-- `validate_chain`, after the check of the external id's own pattern. -/
def validate (chain : RequestIdentityChain) : Except PyError Unit :=
  let expectedResponse := Stage2.responseBodyId chain.externalBaseId
  let expectedItem := Stage2.servingItemId chain.externalBaseId
  let prefix' := expectedItem ++ lit "-"
  let records := chain.records
  if ¬ IsExternalRequestId chain.externalBaseId then .error (.validation "external_base_id")
  else if chain.responseBodyId ≠ expectedResponse ∨ chain.servingItemId ≠ expectedItem then
    .error (.validation "request identity chain does not preserve the external ID")
  else if ¬ prefix' <+: chain.internalEngineId then
    .error (.validation "internal engine ID does not preserve the serving item ID")
  else if ¬ IsSuffix (removePrefix prefix' chain.internalEngineId) then
    .error (.validation
      "internal engine ID requires an eight-character lowercase hex suffix")
  else if ¬ (records.map fun r => (r.sourceStreamId, r.recordOrdinal)).Nodup then
    .error (.validation "request identity log records are duplicated")
  else if ¬ ∀ r ∈ records, r.sourceStreamId = chain.requestReceivedLog.sourceStreamId then
    .error (.validation "request identity log records do not share one source stream")
  else if chain.externalAbortLog.isNone ≠ chain.internalAbortLog.isNone then
    .error (.validation "external and internal abort records must be retained together")
  else if records.map (·.recordOrdinal) ≠ sorted (records.map (·.recordOrdinal)) ∨
      records.map (·.observationOffsetNs) ≠ sorted (records.map (·.observationOffsetNs)) ∨
      records.map (·.byteStart) ≠ sorted (records.map (·.byteStart)) ∨
      ∃ p ∈ neighbours records, p.2.byteStart < p.1.byteEnd then
    .error (.validation "request identity log records are not monotonic and nonoverlapping")
  else if ∃ p ∈ chain.requiredFragments, ¬ p.2 <:+: p.1.rawRecord then
    .error (.validation "raw log record does not match the request identity chain")
  else .ok ()

/-- What a valid chain is. -/
structure Valid (chain : RequestIdentityChain) : Prop where
  external : IsExternalRequestId chain.externalBaseId
  response : chain.responseBodyId = Stage2.responseBodyId chain.externalBaseId
  serving : chain.servingItemId = Stage2.servingItemId chain.externalBaseId
  internal : ∃ suffix, IsSuffix suffix ∧
    chain.internalEngineId = Stage2.internalEngineId chain.externalBaseId suffix
  nodup : (chain.records.map fun r => (r.sourceStreamId, r.recordOrdinal)).Nodup
  source : ∀ r ∈ chain.records, r.sourceStreamId = chain.requestReceivedLog.sourceStreamId
  together : chain.externalAbortLog.isNone = chain.internalAbortLog.isNone
  ordinals : chain.records.Pairwise (·.recordOrdinal ≤ ·.recordOrdinal)
  offsets : chain.records.Pairwise (·.observationOffsetNs ≤ ·.observationOffsetNs)
  starts : chain.records.Pairwise (·.byteStart ≤ ·.byteStart)
  apart : chain.records.IsChain (·.byteEnd ≤ ·.byteStart)
  fragments : ∀ p ∈ chain.requiredFragments, p.2 <:+: p.1.rawRecord

theorem validate_eq_ok {chain : RequestIdentityChain} :
    chain.validate = .ok () ↔ chain.Valid := by
  simp only [validate]
  constructor
  · intro h
    split_ifs at h with h₁ h₂ h₃ h₄ h₅ h₆ h₇ h₈ h₉
    push Not at h₂ h₇ h₈ h₉
    obtain ⟨hordinals, hoffsets, hstarts, hapart⟩ := h₈
    exact ⟨h₁, h₂.1, h₂.2, internalEngineId_iff.mp ⟨h₃, h₄⟩, h₅, h₆, h₇,
      List.pairwise_map.mp (sorted_eq_self.mp hordinals.symm),
      List.pairwise_map.mp (sorted_eq_self.mp hoffsets.symm),
      List.pairwise_map.mp (sorted_eq_self.mp hstarts.symm),
      forall_neighbours.mp hapart, h₉⟩
  · intro h
    obtain ⟨hstart, hsuffix⟩ := internalEngineId_iff.mpr h.internal
    have hordinals := sorted_eq_self.mpr (List.pairwise_map.mpr h.ordinals)
    have hoffsets := sorted_eq_self.mpr (List.pairwise_map.mpr h.offsets)
    have hstarts := sorted_eq_self.mpr (List.pairwise_map.mpr h.starts)
    rw [if_neg (not_not.mpr h.external), if_neg (by simp [h.response, h.serving]),
      if_neg (not_not.mpr hstart), if_neg (not_not.mpr hsuffix), if_neg (not_not.mpr h.nodup),
      if_neg (not_not.mpr h.source), if_neg (not_not.mpr h.together), if_neg, if_neg]
    · push Not
      exact h.fragments
    · push Not
      exact ⟨hordinals.symm, hoffsets.symm, hstarts.symm, forall_neighbours.mpr h.apart⟩

theorem jsonEncodable_dump {chain : RequestIdentityChain}
    (hbase : IsEncodable chain.externalBaseId) (hresponse : IsEncodable chain.responseBodyId)
    (hserving : IsEncodable chain.servingItemId) (hinternal : IsEncodable chain.internalEngineId)
    (hrecords : ∀ record ∈ chain.records, JsonEncodable record.dump) :
    JsonEncodable chain.dump := by
  have hoptional : ∀ record : Option RawLogRecord, (∀ r ∈ record, r ∈ chain.records) →
      JsonEncodable ((record.map RawLogRecord.dump).getD .null) := by
    rintro (_ | record) hrecord
    · exact trivial
    · exact hrecords record (hrecord record rfl)
  refine fieldsEncodable_iff.mpr ?_
  simp only [List.forall_mem_cons, JsonEncodable, List.not_mem_nil, false_implies, implies_true,
    and_true]
  refine ⟨⟨encodable_lit _, hbase⟩, ⟨encodable_lit _, hresponse⟩, ⟨encodable_lit _, hserving⟩,
    ⟨encodable_lit _, hinternal⟩,
    ⟨encodable_lit _, hrecords _ (by simp [records, List.reduceOption])⟩,
    ⟨encodable_lit _, hrecords _ (by simp [records, List.reduceOption])⟩,
    ⟨encodable_lit _, hoptional _ ?_⟩, ⟨encodable_lit _, hoptional _ ?_⟩⟩
  · rintro r hr
    simp [records, List.reduceOption, Option.mem_def.mp hr]
  · rintro r hr
    simp [records, List.reduceOption, Option.mem_def.mp hr]

theorem intsShort_dump {chain : RequestIdentityChain} :
    intsShort chain.dump = true ↔ ∀ record ∈ chain.records, intsShort record.dump = true := by
  obtain ⟨base, response, serving, internal, received, added, external, internalAbort⟩ := chain
  cases external <;> cases internalAbort <;>
    simp [dump, intsShort, fieldsShort, records, List.reduceOption, and_comm]
theorem encodable_of_isExternalRequestId {base : Str} (h : IsExternalRequestId base) :
    IsEncodable base := by
  refine encodable_of_ascii fun c hc => ?_
  match base, h with
  | head :: rest, h =>
    obtain ⟨hhead, -, hrest⟩ := h
    have hchar : isIdChar c = true := by
      rcases List.mem_cons.mp hc with rfl | hc
      · simp [isIdChar, hhead]
      · exact hrest c hc
    simp only [isIdChar, isAsciiAlnum, Bool.or_eq_true, Bool.and_eq_true, decide_eq_true_eq,
      beq_iff_eq] at hchar
    omega

theorem encodable_of_isSuffix {suffix : Str} (h : IsSuffix suffix) : IsEncodable suffix := by
  refine encodable_of_ascii fun c hc => ?_
  have hhex := h.2 c hc
  simp only [isHexDigit, Bool.or_eq_true, Bool.and_eq_true, decide_eq_true_eq] at hhex
  omega

/-- What a chain object is: a valid chain of valid records. -/
structure Validated [Interpreter] (chain : RequestIdentityChain) : Prop where
  valid : chain.Valid
  records : ∀ record ∈ chain.records, record.Valid

theorem Validated.jsonEncodable_dump [Interpreter] {chain : RequestIdentityChain}
    (h : chain.Validated) : JsonEncodable chain.dump := by
  have hbase : IsEncodable chain.externalBaseId := encodable_of_isExternalRequestId h.valid.external
  have hresponse : IsEncodable (Stage2.responseBodyId chain.externalBaseId) :=
    (encodable_lit _).append hbase
  have hserving : IsEncodable (Stage2.servingItemId chain.externalBaseId) :=
    hresponse.append (encodable_lit _)
  have hinternal : IsEncodable chain.internalEngineId := by
    obtain ⟨suffix, hsuffix, hid⟩ := h.valid.internal
    rw [hid]
    exact (hserving.append (encodable_lit _)).append (encodable_of_isSuffix hsuffix)
  exact RequestIdentityChain.jsonEncodable_dump hbase (h.valid.response ▸ hresponse)
    (h.valid.serving ▸ hserving) hinternal
    fun record hrecord => (h.records record hrecord).jsonEncodable_dump

end RequestIdentityChain

end Stage2
