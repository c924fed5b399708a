import LlmInferenceSystems.Stage1.CrossRecords
import LlmInferenceSystems.Stage1.JsonIdentities
import LlmInferenceSystems.Stage1.Summary

/-!
# Semantic fingerprint of a run

The fingerprint of a run is the identity of what the run did: the outcome of each request, the
digest of its body, the shape of its SSE evidence, two rates and how many clients were active at
once. No offset is hashed and no boundary of a raw chunk.

## Main definitions

* `SemanticView`: what is hashed
* `semanticFingerprint`: its identity

## Main results

* `semanticView_eq_of_fingerprint`: a fingerprint determines what was hashed
-/

namespace Stage1

open Python Stage2

/-! ## What is hashed -/

/-- What is hashed of a request; the source of its token counts is constant. -/
structure FingerprintRequest where
  requestId : Str
  caseId : Str
  phase : Stage1Phase
  terminalClass : Stage1TerminalClass
  failureKind : Option Stage1FailureKind
  inputTokenCount : ℕ
  outputTokenCount : ℕ
  tokenEventDeltaCounts : List ℕ
  perTokenObservationComplete : Bool
  sloSatisfied : Bool
  bodySha256 : Str
  protocolShape : List (StreamEvidenceKind × Option ℕ)
deriving DecidableEq

/-- What is hashed of a run; that no server batch was observed is constant. -/
structure SemanticView where
  workloadSha256 : Str
  configurationSha256 : Str
  fixtureSha256 : Str
  requests : List FingerprintRequest
  failureRate : RateValue
  timeoutRate : RateValue
  observedMaxClientConcurrency : ℤ
deriving DecidableEq

/-- A ratio as a float of JSON. -/
def jsonRatio (value : ℚ) : Json := .float (.finite value)

namespace RateValue

/-- `model_dump` of a rate, by its fields -/
def dumpFields (rate : RateValue) : List (Str × Json) :=
  [(lit "numerator", jsonNat rate.numerator),
    (lit "denominator", jsonNat rate.denominator),
    (lit "value", jsonOptional jsonRatio rate.value)]

/-- `model_dump` -/
def dump (rate : RateValue) : Json := .obj rate.dumpFields

end RateValue

/-- An SSE event of the shape. -/
def shapeFields (event : StreamEvidenceKind × Option ℕ) : List (Str × Json) :=
  [(lit "kind", jsonEnum StreamEvidenceKind.text event.1),
    (lit "token_delta_count", jsonOptional jsonNat event.2)]

/-- The JSON of one entry of a protocol shape. -/
def shapeJson (event : StreamEvidenceKind × Option ℕ) : Json := .obj (shapeFields event)

namespace FingerprintRequest

/-- The fields of a request's part of the fingerprint. -/
def fields (request : FingerprintRequest) : List (Str × Json) :=
  [(lit "request_id", .str request.requestId),
    (lit "case_id", .str request.caseId),
    (lit "phase", jsonEnum Stage1Phase.text request.phase),
    (lit "terminal_class", jsonEnum Stage1TerminalClass.text request.terminalClass),
    (lit "failure_kind", jsonOptional (jsonEnum Stage1FailureKind.text) request.failureKind),
    (lit "input_token_count", jsonNat request.inputTokenCount),
    (lit "output_token_count", jsonNat request.outputTokenCount),
    (lit "token_count_source", .str (lit "FIXTURE_EXACT")),
    (lit "token_event_delta_counts", .arr (request.tokenEventDeltaCounts.map jsonNat)),
    (lit "per_token_observation_complete", .bool request.perTokenObservationComplete),
    (lit "slo_satisfied", .bool request.sloSatisfied),
    (lit "body_sha256", .str request.bodySha256),
    (lit "protocol_shape", .arr (request.protocolShape.map shapeJson))]

/-- The JSON of a request's part of the fingerprint. -/
def json (request : FingerprintRequest) : Json := .obj request.fields

end FingerprintRequest

namespace SemanticView

/-- The fields of what is fingerprinted. -/
def fields (view : SemanticView) : List (Str × Json) :=
  [(lit "workload_sha256", .str view.workloadSha256),
    (lit "configuration_sha256", .str view.configurationSha256),
    (lit "fixture_sha256", .str view.fixtureSha256),
    (lit "requests", .arr (view.requests.map FingerprintRequest.json)),
    (lit "failure_rate", view.failureRate.dump),
    (lit "timeout_rate", view.timeoutRate.dump),
    (lit "observed_max_client_concurrency", .int view.observedMaxClientConcurrency),
    (lit "server_batch_observed", .bool false)]

/-- The JSON of what is fingerprinted. -/
def json (view : SemanticView) : Json := .obj view.fields

/-- The floats that are written. -/
def floats (view : SemanticView) : List ℚ :=
  view.failureRate.value.toList ++ view.timeoutRate.value.toList

end SemanticView

section

variable [Interpreter]

/-! ## The fingerprint -/

/-- The raw chunks of a body, in order. -/
def bodyChunksOf (request : Stage1RequestRecord) (events : List StreamEvidenceRecord) :
    List StreamEvidenceRecord :=
  sortedBy (fun event => event.rawChunkSequence.getD 0)
    (events.filter fun event => event.requestId = request.requestId ∧ event.kind = .rawBodyChunk)

/-- `base64.b64decode(event.raw_bytes_base64 or "", validate=True)` -/
def decodedBytes (event : StreamEvidenceRecord) : Except PyError Bytes :=
  match b64decode (event.rawBytesBase64.getD []) with
  | none => .error (.value "Only base64 data is allowed")
  | some raw => .ok raw

/-- The body of a request. -/
def bodyOf (request : Stage1RequestRecord) (events : List StreamEvidenceRecord) :
    Except PyError Bytes :=
  (collect decodedBytes (bodyChunksOf request events)).map List.flatten

/-- The shape of the SSE evidence of a request. -/
def protocolShapeOf (request : Stage1RequestRecord) (events : List StreamEvidenceRecord) :
    List (StreamEvidenceKind × Option ℕ) :=
  (events.filter fun event => event.requestId = request.requestId ∧ event.kind.isSse = true).map
    fun event => (event.kind, event.tokenDeltaCount)

/-- What is hashed of a request. -/
def fingerprintRequest (events : List StreamEvidenceRecord) (request : Stage1RequestRecord) :
    Except PyError FingerprintRequest := do
  let body ← bodyOf request events
  return {
    requestId := request.requestId
    caseId := request.caseId
    phase := request.phase
    terminalClass := request.terminalClass
    failureKind := request.failure.map (·.kind)
    inputTokenCount := request.inputTokenCount
    outputTokenCount := request.outputTokenCount
    tokenEventDeltaCounts := request.tokenEventDeltaCounts
    perTokenObservationComplete := request.perTokenObservationComplete
    sloSatisfied := request.sloSatisfied
    bodySha256 := Interpreter.hexdigest body
    protocolShape := protocolShapeOf request events }

/-- The value that `semantic_fingerprint` hashes. -/
def semanticView (workloadSha256 configurationSha256 fixtureSha256 : Str)
    (requests : List Stage1RequestRecord) (streamEvents : List StreamEvidenceRecord)
    (summary : Stage1RunSummary) : Except PyError SemanticView := do
  let requests ← collect (fingerprintRequest streamEvents) requests
  return {
    workloadSha256
    configurationSha256
    fixtureSha256
    requests
    failureRate := summary.failureRate
    timeoutRate := summary.timeoutRate
    observedMaxClientConcurrency := summary.observedMaxClientConcurrency }

/-- `semantic_fingerprint` -/
def semanticFingerprint (workloadSha256 configurationSha256 fixtureSha256 : Str)
    (requests : List Stage1RequestRecord) (streamEvents : List StreamEvidenceRecord)
    (summary : Stage1RunSummary) : Except PyError Str := do
  let view ← semanticView workloadSha256 configurationSha256 fixtureSha256 requests streamEvents
    summary
  sha256Identity view.json

end

/-! ## What is hashed can be told from its JSON -/

theorem distinguishes_str : Distinguishes Json.str := reads_str.distinguishes

theorem distinguishes_nat : Distinguishes jsonNat := reads_nat.distinguishes

theorem distinguishes_int : Distinguishes Json.int := fun _ _ h => Json.int.inj h

theorem distinguishes_ratio : Distinguishes jsonRatio := fun _ _ h =>
  PyFloat.finite.inj (Json.float.inj h)

theorem RateValue.distinguishes : Distinguishes RateValue.dump := by
  intro rate rate' h
  have hkeys : (["numerator", "denominator", "value"].map lit).Nodup := by decide
  have hfields := @field_eq_of_sortKeys rate.dumpFields rate'.dumpFields hkeys hkeys h
  have hnumerator : rate.numerator = rate'.numerator :=
    distinguishes_nat.field "numerator" hfields rfl rfl
  have hdenominator : rate.denominator = rate'.denominator :=
    distinguishes_nat.field "denominator" hfields rfl rfl
  have hvalue : rate.value = rate'.value :=
    (distinguishes_ratio.optional fun _ => by simp [jsonRatio, Json.sortKeys]).field "value" hfields
      rfl rfl
  obtain ⟨numerator, denominator, value⟩ := rate
  obtain ⟨_, _, _⟩ := rate'
  cases hnumerator
  cases hdenominator
  cases hvalue
  rfl

theorem distinguishes_shape : Distinguishes shapeJson := by
  intro event event' h
  have hkeys : (["kind", "token_delta_count"].map lit).Nodup := by decide
  have hfields := @field_eq_of_sortKeys (shapeFields event) (shapeFields event') hkeys hkeys h
  have hkind : event.1 = event'.1 := reads_streamKind.distinguishes.field "kind" hfields rfl rfl
  have hcount : event.2 = event'.2 :=
    reads_nat.distinguishes_optional.field "token_delta_count" hfields rfl rfl
  exact Prod.ext hkind hcount

namespace FingerprintRequest

/-- The names of the fields, in the source's order. -/
def names : List String :=
  ["request_id", "case_id", "phase", "terminal_class", "failure_kind", "input_token_count",
    "output_token_count", "token_count_source", "token_event_delta_counts",
    "per_token_observation_complete", "slo_satisfied", "body_sha256", "protocol_shape"]

theorem distinguishes : Distinguishes json := by
  intro request request' h
  -- the names of the fields differ, so an equal list of fields has equal fields
  have hkeys : (names.map lit).Nodup := by decide
  have hfields := @field_eq_of_sortKeys request.fields request'.fields hkeys hkeys h
  have hrequest : request.requestId = request'.requestId :=
    distinguishes_str.field "request_id" hfields rfl rfl
  have hcase : request.caseId = request'.caseId := distinguishes_str.field "case_id" hfields rfl rfl
  have hphase : request.phase = request'.phase :=
    reads_phase.distinguishes.field "phase" hfields rfl rfl
  have hclass : request.terminalClass = request'.terminalClass :=
    reads_terminalClass.distinguishes.field "terminal_class" hfields rfl rfl
  have hfailure : request.failureKind = request'.failureKind :=
    reads_failureKind.distinguishes_optional.field "failure_kind" hfields rfl rfl
  have hinput : request.inputTokenCount = request'.inputTokenCount :=
    distinguishes_nat.field "input_token_count" hfields rfl rfl
  have houtput : request.outputTokenCount = request'.outputTokenCount :=
    distinguishes_nat.field "output_token_count" hfields rfl rfl
  have hdeltas : request.tokenEventDeltaCounts = request'.tokenEventDeltaCounts :=
    distinguishes_nat.tuple.field "token_event_delta_counts" hfields rfl rfl
  have hcomplete : request.perTokenObservationComplete = request'.perTokenObservationComplete :=
    reads_bool.distinguishes.field "per_token_observation_complete" hfields rfl rfl
  have hslo : request.sloSatisfied = request'.sloSatisfied :=
    reads_bool.distinguishes.field "slo_satisfied" hfields rfl rfl
  have hbody : request.bodySha256 = request'.bodySha256 :=
    distinguishes_str.field "body_sha256" hfields rfl rfl
  have hshape : request.protocolShape = request'.protocolShape :=
    distinguishes_shape.tuple.field "protocol_shape" hfields rfl rfl
  cases request
  cases request'
  simp only [mk.injEq]
  exact ⟨hrequest, hcase, hphase, hclass, hfailure, hinput, houtput, hdeltas, hcomplete, hslo,
    hbody, hshape⟩

end FingerprintRequest

namespace SemanticView

/-- The names of the fields, in the source's order. -/
def names : List String :=
  ["workload_sha256", "configuration_sha256", "fixture_sha256", "requests", "failure_rate",
    "timeout_rate", "observed_max_client_concurrency", "server_batch_observed"]

theorem distinguishes : Distinguishes json := by
  intro view view' h
  have hkeys : (names.map lit).Nodup := by decide
  have hfields := @field_eq_of_sortKeys view.fields view'.fields hkeys hkeys h
  have hworkload : view.workloadSha256 = view'.workloadSha256 :=
    distinguishes_str.field "workload_sha256" hfields rfl rfl
  have hconfiguration : view.configurationSha256 = view'.configurationSha256 :=
    distinguishes_str.field "configuration_sha256" hfields rfl rfl
  have hfixture : view.fixtureSha256 = view'.fixtureSha256 :=
    distinguishes_str.field "fixture_sha256" hfields rfl rfl
  have hrequests : view.requests = view'.requests :=
    FingerprintRequest.distinguishes.tuple.field "requests" hfields rfl rfl
  have hfailure : view.failureRate = view'.failureRate :=
    RateValue.distinguishes.field "failure_rate" hfields rfl rfl
  have htimeout : view.timeoutRate = view'.timeoutRate :=
    RateValue.distinguishes.field "timeout_rate" hfields rfl rfl
  have hobserved : view.observedMaxClientConcurrency = view'.observedMaxClientConcurrency :=
    distinguishes_int.field "observed_max_client_concurrency" hfields rfl rfl
  cases view
  cases view'
  simp only [mk.injEq]
  exact ⟨hworkload, hconfiguration, hfixture, hrequests, hfailure, htimeout, hobserved⟩

end SemanticView

/-! ## What is hashed is read back -/

section

variable [Interpreter]

theorem RateValue.readsShort_dump {rate : RateValue}
    (hfloats : ∀ q ∈ rate.value, Json.FloatReads q) : ReadsShort 1 rate.dump := by
  apply readsShort_obj
  · show (["numerator", "denominator", "value"].map lit).Nodup
    decide
  · simp only [dumpFields, List.forall_mem_cons, List.not_mem_nil, false_implies, implies_true,
      and_true]
    exact ⟨readsShort_nat _ _, readsShort_nat _ _,
      readsShort_optional fun q hq _ => .float (hfloats q hq)⟩

theorem readsShort_shape (event : StreamEvidenceKind × Option ℕ) :
    ReadsShort 1 (shapeJson event) := by
  apply readsShort_obj
  · show (["kind", "token_delta_count"].map lit).Nodup
    decide
  · simp only [shapeFields, List.forall_mem_cons, List.not_mem_nil, false_implies, implies_true,
      and_true]
    exact ⟨readsShort_enum _ _ _, readsShort_optional fun a _ => readsShort_nat _ a⟩

theorem FingerprintRequest.readsShort_json (request : FingerprintRequest) :
    ReadsShort 3 request.json := by
  have hdeltas : ReadsShort 2 (.arr (request.tokenEventDeltaCounts.map jsonNat)) :=
    readsShort_arr fun delta _ => readsShort_nat 1 delta
  have hshape : ReadsShort 2 (.arr (request.protocolShape.map shapeJson)) :=
    readsShort_arr fun event _ => readsShort_shape event
  apply readsShort_obj
  · show (names.map lit).Nodup
    decide
  · simp only [fields, List.forall_mem_cons, List.not_mem_nil, false_implies, implies_true,
      and_true]
    exact ⟨readsShort_str _ _, readsShort_str _ _, readsShort_enum _ _ _, readsShort_enum _ _ _,
      readsShort_optional fun a _ => readsShort_enum _ _ a, readsShort_nat _ _,
      readsShort_nat _ _, readsShort_str _ _, hdeltas, readsShort_bool _ _, readsShort_bool _ _,
      readsShort_str _ _, hshape⟩

theorem SemanticView.readsShort_json {view : SemanticView}
    (hfloats : ∀ q ∈ view.floats, Json.FloatReads q) : ReadsShort 5 view.json := by
  have hrequests : ReadsShort 4 (.arr (view.requests.map FingerprintRequest.json)) :=
    readsShort_arr fun request _ => request.readsShort_json
  have hfailure : ReadsShort 1 view.failureRate.dump := RateValue.readsShort_dump fun q hq =>
    hfloats q (List.mem_append_left _ (Option.mem_toList.mpr hq))
  have htimeout : ReadsShort 1 view.timeoutRate.dump := RateValue.readsShort_dump fun q hq =>
    hfloats q (List.mem_append_right _ (Option.mem_toList.mpr hq))
  apply readsShort_obj
  · show (names.map lit).Nodup
    decide
  · simp only [fields, List.forall_mem_cons, List.not_mem_nil, false_implies, implies_true,
      and_true]
    exact ⟨readsShort_str _ _, readsShort_str _ _, readsShort_str _ _, hrequests,
      hfailure.mono (by decide), htimeout.mono (by decide),
      fun hshort => .int (natAbs_lt_of_intsShort hshort), readsShort_bool _ _⟩

/-! ## What is hashed has an identity -/

omit [Interpreter] in
theorem jsonEncodable_optional {α : Type} {json : α → Json} (h : ∀ a, JsonEncodable (json a))
    (value : Option α) : JsonEncodable (jsonOptional json value) := by
  cases value with
  | none => exact trivial
  | some a => exact h a

omit [Interpreter] in
theorem jsonEncodable_arr {α : Type} {json : α → Json} {items : List α}
    (h : ∀ a ∈ items, JsonEncodable (json a)) : JsonEncodable (.arr (items.map json)) := by
  rw [JsonEncodable, itemsEncodable_iff, List.forall_mem_map]
  exact h

omit [Interpreter] in
theorem RateValue.jsonEncodable_dump (rate : RateValue) : JsonEncodable rate.dump := by
  have hvalue : JsonEncodable (jsonOptional jsonRatio rate.value) :=
    @jsonEncodable_optional _ jsonRatio (fun _ => rfl) _
  exact ⟨encodable_lit _, trivial, encodable_lit _, trivial, encodable_lit _, hvalue, trivial⟩

omit [Interpreter] in
theorem FingerprintRequest.jsonEncodable_json {request : FingerprintRequest}
    (hrequest : IsEncodable request.requestId) (hcase : IsEncodable request.caseId)
    (hbody : IsEncodable request.bodySha256) : JsonEncodable request.json := by
  have hfailure : JsonEncodable (jsonOptional (jsonEnum Stage1FailureKind.text)
      request.failureKind) :=
    @jsonEncodable_optional _ (jsonEnum Stage1FailureKind.text) (fun _ => encodable_lit _) _
  have hdeltas : JsonEncodable (.arr (request.tokenEventDeltaCounts.map jsonNat)) :=
    jsonEncodable_arr fun _ _ => trivial
  have hshape : JsonEncodable (.arr (request.protocolShape.map shapeJson)) := by
    refine jsonEncodable_arr fun event _ => ?_
    have hcount : JsonEncodable (jsonOptional jsonNat event.2) :=
      @jsonEncodable_optional _ jsonNat (fun _ => trivial) _
    exact ⟨encodable_lit _, encodable_lit _, encodable_lit _, hcount, trivial⟩
  refine fieldsEncodable_iff.mpr ?_
  simp only [fields, List.forall_mem_cons, List.not_mem_nil, false_implies, implies_true, and_true,
    encodable_lit, true_and]
  exact ⟨hrequest, hcase, encodable_lit _, encodable_lit _, hfailure, trivial, trivial,
    encodable_lit _, hdeltas, trivial, trivial, hbody, hshape⟩

/-- What is hashed has an identity when its texts can be encoded and its integers written. -/
theorem SemanticView.exists_identity {view : SemanticView}
    (hinputs : ∀ text ∈ [view.workloadSha256, view.configurationSha256, view.fixtureSha256],
      IsEncodable text)
    (hrequests : ∀ request ∈ view.requests, IsEncodable request.requestId ∧
      IsEncodable request.caseId ∧ IsEncodable request.bodySha256)
    (hshort : intsShort view.json = true) :
    ∃ digest, sha256Identity view.json = .ok digest := by
  refine exists_sha256Identity_iff.mpr ⟨?_, hshort⟩
  have hviews : JsonEncodable (.arr (view.requests.map FingerprintRequest.json)) := by
    refine jsonEncodable_arr fun request hrequest => ?_
    obtain ⟨hid, hcase, hbody⟩ := hrequests request hrequest
    exact FingerprintRequest.jsonEncodable_json hid hcase hbody
  refine fieldsEncodable_iff.mpr ?_
  simp only [fields, List.forall_mem_cons, List.not_mem_nil, false_implies, implies_true, and_true,
    encodable_lit, true_and] at hinputs ⊢
  exact ⟨hinputs.1, hinputs.2.1, hinputs.2.2, hviews, view.failureRate.jsonEncodable_dump,
    view.timeoutRate.jsonEncodable_dump, trivial, trivial⟩

/-- **A fingerprint determines what was hashed**, unless two digests collide. -/
theorem semanticView_eq_of_fingerprint {view view' : SemanticView} {digest : Str}
    (hfloats : ∀ q ∈ view.floats, Json.FloatReads q)
    (hfloats' : ∀ q ∈ view'.floats, Json.FloatReads q)
    (hcollision : NoCollision view.json view'.json)
    (h : sha256Identity view.json = .ok digest) (h' : sha256Identity view'.json = .ok digest) :
    view = view' :=
  SemanticView.distinguishes view view' <| sortKeys_eq_of_sha256Identity
    ((SemanticView.readsShort_json hfloats).mono (by decide))
    ((SemanticView.readsShort_json hfloats').mono (by decide)) hcollision h h'

end

/-! ## Where the hashed fields of a summary come from -/

/-- The populations of a summary, its rates and its concurrency. -/
structure Derived [FloatArithmetic] (requests : List Stage1RequestRecord)
    (streamEvents : List StreamEvidenceRecord) (summary : Stage1RunSummary) : Prop where
  attempted : summary.attemptedMeasuredRequests = (countRequests requests).attempted
  successful : summary.successfulMeasuredRequests = (countRequests requests).successful
  failedNonTimeout :
    summary.failedNonTimeoutMeasuredRequests = (countRequests requests).failedNonTimeout
  timedOut : summary.timedOutMeasuredRequests = (countRequests requests).timedOut
  failureRate : shareOfAttempted (countRequests requests).failedNonTimeout
    (countRequests requests).attempted = .ok summary.failureRate
  timeoutRate : shareOfAttempted (countRequests requests).timedOut
    (countRequests requests).attempted = .ok summary.timeoutRate
  observedMaximum :
    deriveObservedMaxClientConcurrency streamEvents = .ok summary.observedMaxClientConcurrency

theorem Derived.of_deriveStage1Summary [FloatArithmetic] {configuration : Stage1RunConfiguration}
    {requests : List Stage1RequestRecord} {streamEvents : List StreamEvidenceRecord}
    {summary : Stage1RunSummary}
    (h : deriveStage1Summary configuration requests streamEvents = .ok summary) :
    Derived requests streamEvents summary := by
  unfold deriveStage1Summary at h
  dsimp only at h
  -- a run without measured requests has no summary
  split at h
  · cases h
  · obtain ⟨⟨⟩, hslo, h⟩ := bind_eq_ok.mp h
    obtain ⟨window, -, h⟩ := bind_eq_ok.mp h
    obtain ⟨seconds, -, h⟩ := bind_eq_ok.mp h
    obtain ⟨metrics, -, h⟩ := bind_eq_ok.mp h
    obtain ⟨observedMaximum, hobserved, h⟩ := bind_eq_ok.mp h
    -- the rates, then the distributions: each of them was computed
    unfold summarize at h
    obtain ⟨offered, -, h⟩ := bind_eq_ok.mp h
    obtain ⟨terminal, -, h⟩ := bind_eq_ok.mp h
    obtain ⟨successful, -, h⟩ := bind_eq_ok.mp h
    obtain ⟨output, -, h⟩ := bind_eq_ok.mp h
    obtain ⟨total, -, h⟩ := bind_eq_ok.mp h
    obtain ⟨goodput, -, h⟩ := bind_eq_ok.mp h
    obtain ⟨failureRate, hfailure, h⟩ := bind_eq_ok.mp h
    obtain ⟨timeoutRate, htimeout, h⟩ := bind_eq_ok.mp h
    obtain ⟨endToEnd, -, h⟩ := bind_eq_ok.mp h
    obtain ⟨ttft, -, h⟩ := bind_eq_ok.mp h
    obtain ⟨tpot, -, h⟩ := bind_eq_ok.mp h
    obtain ⟨itl, -, h⟩ := bind_eq_ok.mp h
    obtain ⟨span, -, h⟩ := bind_eq_ok.mp h
    -- a summary that passes its checks is the one that was written down
    obtain ⟨rfl, -⟩ := Stage1RunSummary.of_modelValidate h
    exact ⟨rfl, rfl, rfl, rfl, hfailure, htimeout, hobserved⟩

end Stage1
