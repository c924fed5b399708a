import LlmInferenceSystems.Canonical
import LlmInferenceSystems.Python.Checks
import LlmInferenceSystems.Stage2.RawLogs

/-!
# Prometheus snapshots

A retained scrape of the server's metrics, the one series a metric is read from, and the difference
of a counter between two scrapes of one process. Sample values are taken as exact numbers.

## Main definitions

* `PrometheusSample`, `PrometheusSnapshot`, `CounterDelta`: the contracts
* `selectExactSeries`: the series of a metric
* `deriveCounterDelta`: the difference of a counter between two snapshots
* `requireQuiescent`: no request is running or waiting
* `counterValue`: what a snapshot shows of a series

## Main results

* `deriveCounterDelta_eq_ok`: what a derived difference says about the two snapshots
* `returns_deriveCounterDelta_iff`: when a difference is derived
-/

namespace Stage2

open Python

/-- A label set, sorted by name. -/
abbrev Labels := List (Str × Str)

/-- `PrometheusSample` -/
structure PrometheusSample where
  name : Str
  labels : Labels
  value : ℚ
deriving DecidableEq

/-- The label inventory is kept in the order of its names, so that two are equal when they are equal
as dictionaries; the wall clock is kept as its ISO text. -/
structure PrometheusSnapshot where
  processStartId : Str
  scrapeWallClockUtc : Str
  scrapeMonotonicOffsetNs : ℕ
  rawExposition : Str
  rawExpositionSha256 : Str
  samples : List PrometheusSample
  labelInventory : List (Str × List Labels)
deriving DecidableEq

/-- `CounterDelta` -/
structure CounterDelta where
  metric : Str
  labels : Labels
  before : ℚ
  after : ℚ
  delta : ℚ
deriving DecidableEq

/-- The JSON of labels. -/
def Labels.dump (labels : Labels) : Json :=
  .arr (labels.map fun label => .arr [.str label.1, .str label.2])

/-- `model_dump` -/
def PrometheusSample.dump (sample : PrometheusSample) : Json :=
  .obj [(lit "name", .str sample.name), (lit "labels", sample.labels.dump),
    (lit "value", .float (.finite sample.value))]

/-- `model_dump` -/
def PrometheusSnapshot.dump (snapshot : PrometheusSnapshot) : Json :=
  .obj [(lit "process_start_id", .str snapshot.processStartId),
    (lit "scrape_wall_clock_utc", .str snapshot.scrapeWallClockUtc),
    (lit "scrape_monotonic_offset_ns", .int snapshot.scrapeMonotonicOffsetNs),
    (lit "raw_exposition", .str snapshot.rawExposition),
    (lit "raw_exposition_sha256", .str snapshot.rawExpositionSha256),
    (lit "samples", .arr (snapshot.samples.map PrometheusSample.dump)),
    (lit "label_inventory", .obj (snapshot.labelInventory.map fun entry =>
      (entry.1, .arr (entry.2.map Labels.dump))))]

/-- The gauge of running requests. -/
def requestsRunning : Str := lit "vllm:num_requests_running"
/-- The gauge of waiting requests. -/
def requestsWaiting : Str := lit "vllm:num_requests_waiting"
/-- The gauge of the cache in use. -/
def cacheUsage : Str := lit "vllm:kv_cache_usage_perc"
/-- The counter of prompt tokens. -/
def promptTokens : Str := lit "vllm:prompt_tokens_total"
/-- The counter of generated tokens. -/
def generationTokens : Str := lit "vllm:generation_tokens_total"
/-- The counters of finished requests, by reason. -/
def requestSuccess : Str := lit "vllm:request_success_total"
/-- The counter of preemptions. -/
def preemptions : Str := lit "vllm:num_preemptions_total"
/-- The counter of prefix-cache queries. -/
def prefixCacheQueries : Str := lit "vllm:prefix_cache_queries_total"
/-- The counter of prefix-cache hits. -/
def prefixCacheHits : Str := lit "vllm:prefix_cache_hits_total"

/-- `MODEL_LABELS` -/
def modelLabels : Labels :=
  [(lit "model_name", lit "qwen2.5-0.5b-instruct-stage2"), (lit "engine", lit "0")]

/-- `GAUGE_NAMES` -/
def gaugeNames : List Str := [requestsRunning, requestsWaiting, cacheUsage]

/-- `COUNTER_NAMES` -/
def counterNames : List Str :=
  [promptTokens, generationTokens, requestSuccess, preemptions, prefixCacheQueries,
    prefixCacheHits]

/-- `tuple(sorted(labels.items()))` -/
def sortedLabels (labels : Labels) : Labels :=
  labels.insertionSort fun a b => strLe a.1 b.1 = true

/-- `select_exact_series` -/
def selectExactSeries (snapshot : PrometheusSnapshot) (name : Str)
    (finishedReason : Option Str := none) : Except PyError PrometheusSample :=
  if name ∉ gaugeNames ++ counterNames then
    .error (.prometheusProtocol "metric is outside the Stage 2 exact-series contract")
  else if name = requestSuccess ∧ finishedReason = none then
    .error (.prometheusProtocol "request-success selection requires finished_reason")
  else if name ≠ requestSuccess ∧ finishedReason ≠ none then
    .error (.prometheusProtocol "finished_reason applies only to request-success series")
  else
    let labels := modelLabels ++ (finishedReason.map (lit "finished_reason", ·)).toList
    let expected := sortedLabels labels
    match snapshot.samples.filter fun sample => sample.name = name ∧ sample.labels = expected with
    | [sample] => .ok sample
    | _ =>
      .error (.prometheusProtocol "exact Prometheus series is absent, duplicate, or ambiguous")

/-- The validation of a `CounterDelta`. -/
def CounterDelta.validate (delta : CounterDelta) : Except PyError CounterDelta :=
  if ¬ IsIdentifier delta.metric then .error (.validation "metric")
  else if ¬ ∀ label ∈ delta.labels, IsIdentifier label.1 then .error (.validation "labels")
  else if delta.before < 0 then .error (.validation "before")
  else if delta.after < 0 then .error (.validation "after")
  else if delta.delta < 0 then .error (.validation "delta")
  else if delta.after < delta.before ∨ delta.delta ≠ delta.after - delta.before then
    .error (.validation "counter delta does not reconstruct from before and after")
  else .ok delta

/-- `derive_counter_delta` -/
def deriveCounterDelta (before after : PrometheusSnapshot) (name : Str)
    (finishedReason : Option Str := none) : Except PyError CounterDelta :=
  if name ∉ counterNames then
    .error (.prometheusProtocol "same-process deltas apply only to Stage 2 counters")
  else if before.processStartId ≠ after.processStartId then
    .error (.prometheusProtocol "counter subtraction across restarts is prohibited")
  else if after.scrapeMonotonicOffsetNs ≤ before.scrapeMonotonicOffsetNs then
    .error (.prometheusProtocol "counter snapshots are stale or reordered")
  else if before.labelInventory.lookup name ≠ after.labelInventory.lookup name then
    .error (.prometheusProtocol "Prometheus label inventory changed between scrapes")
  else
    match selectExactSeries before name finishedReason,
      selectExactSeries after name finishedReason with
    | .error e, _ => .error e
    | .ok _, .error e => .error e
    | .ok first, .ok second =>
      if second.value < first.value then
        .error (.prometheusProtocol "counter reset or decrease detected")
      else
        CounterDelta.validate
          { metric := name
            labels := first.labels
            before := first.value
            after := second.value
            delta := second.value - first.value }

/-- `require_quiescent` -/
def requireQuiescent (snapshot : PrometheusSnapshot) : Except PyError Unit :=
  each (fun name =>
    match selectExactSeries snapshot name with
    | .error e => .error e
    | .ok sample =>
      if sample.value ≠ 0 then
        .error (.prometheusProtocol "pre/post metrics gate is not quiescent")
      else .ok ()) [requestsRunning, requestsWaiting]

/-! ## IsEncodable snapshots -/

theorem Labels.jsonEncodable_dump {labels : Labels}
    (h : ∀ label ∈ labels, IsEncodable label.1 ∧ IsEncodable label.2) : JsonEncodable labels.dump := by
  refine itemsEncodable_iff.mpr fun item hitem => ?_
  obtain ⟨label, hlabel, rfl⟩ := List.mem_map.mp hitem
  exact ⟨(h label hlabel).1, (h label hlabel).2, trivial⟩

theorem PrometheusSample.jsonEncodable_dump {sample : PrometheusSample}
    (hname : IsEncodable sample.name)
    (hlabels : ∀ label ∈ sample.labels, IsEncodable label.1 ∧ IsEncodable label.2) :
    JsonEncodable sample.dump :=
  ⟨encodable_lit _, hname, encodable_lit _, Labels.jsonEncodable_dump hlabels, encodable_lit _, rfl,
    trivial⟩

theorem PrometheusSnapshot.jsonEncodable_dump {snapshot : PrometheusSnapshot}
    (hprocess : IsEncodable snapshot.processStartId)
    (hclock : IsEncodable snapshot.scrapeWallClockUtc) (hraw : IsEncodable snapshot.rawExposition)
    (hdigest : IsEncodable snapshot.rawExpositionSha256)
    (hsamples : ∀ sample ∈ snapshot.samples, JsonEncodable sample.dump)
    (hinventory : ∀ entry ∈ snapshot.labelInventory, IsEncodable entry.1 ∧
      ∀ labels ∈ entry.2, JsonEncodable labels.dump) : JsonEncodable snapshot.dump := by
  refine ⟨encodable_lit _, hprocess, encodable_lit _, hclock, encodable_lit _, trivial,
    encodable_lit _, hraw, encodable_lit _,
    hdigest, encodable_lit _, ?_, encodable_lit _, ?_, trivial⟩
  · refine itemsEncodable_iff.mpr fun item hitem => ?_
    obtain ⟨sample, hsample, rfl⟩ := List.mem_map.mp hitem
    exact hsamples sample hsample
  · refine fieldsEncodable_iff.mpr fun field hfield => ?_
    obtain ⟨entry, hentry, rfl⟩ := List.mem_map.mp hfield
    refine ⟨(hinventory entry hentry).1, itemsEncodable_iff.mpr fun item hitem => ?_⟩
    obtain ⟨labels, hlabels, rfl⟩ := List.mem_map.mp hitem
    exact (hinventory entry hentry).2 labels hlabels

theorem Labels.intsShort_dump (labels : Labels) : intsShort labels.dump = true := by
  refine itemsShort_iff.mpr fun item hitem => ?_
  obtain ⟨label, -, rfl⟩ := List.mem_map.mp hitem
  rfl

theorem PrometheusSnapshot.intsShort_dump {snapshot : PrometheusSnapshot} :
    intsShort snapshot.dump = true ↔ snapshot.scrapeMonotonicOffsetNs < maxInt := by
  have hsamples : itemsShort (snapshot.samples.map PrometheusSample.dump) = true := by
    refine itemsShort_iff.mpr fun item hitem => ?_
    obtain ⟨sample, -, rfl⟩ := List.mem_map.mp hitem
    simp [PrometheusSample.dump, intsShort, fieldsShort, Labels.intsShort_dump]
  have hinventory : fieldsShort (snapshot.labelInventory.map fun entry =>
      (entry.1, .arr (entry.2.map Labels.dump))) = true := by
    refine fieldsShort_iff.mpr fun field hfield => ?_
    obtain ⟨entry, -, rfl⟩ := List.mem_map.mp hfield
    refine itemsShort_iff.mpr fun item hitem => ?_
    obtain ⟨labels, -, rfl⟩ := List.mem_map.mp hitem
    exact Labels.intsShort_dump labels
  simp [dump, intsShort, fieldsShort, hsamples, hinventory]

/-! ## What the contracts require -/

/-- What `validate_labels` and the fields of a sample require. -/
structure PrometheusSample.Valid (sample : PrometheusSample) : Prop where
  name : IsIdentifier sample.name
  labels : ∀ label ∈ sample.labels, IsIdentifier label.1
  value : 0 ≤ sample.value
  sorted : sample.labels.Pairwise fun a b => strLe a.1 b.1 = true
  nodup : (sample.labels.map (·.1)).Nodup

section

variable [Interpreter]

/-- What a snapshot requires besides that its samples reconstruct from its exposition. -/
structure PrometheusSnapshot.Valid (snapshot : PrometheusSnapshot) : Prop where
  process : IsIdentifier snapshot.processStartId
  digest : (utf8Encode snapshot.rawExposition).map Interpreter.hexdigest =
    some snapshot.rawExpositionSha256
  samples : ∀ sample ∈ snapshot.samples, sample.Valid

end

/-! ## What a snapshot shows -/

/-- The value of a series in a snapshot, if the snapshot has exactly one. -/
def counterValue (snapshot : PrometheusSnapshot) (selector : Str × Option Str) : Option ℚ :=
  (selectExactSeries snapshot selector.1 selector.2).toOption.map (·.value)

theorem counterValue_of_select {snapshot : PrometheusSnapshot} {name : Str}
    {finishedReason : Option Str} {sample : PrometheusSample}
    (h : selectExactSeries snapshot name finishedReason = .ok sample) :
    counterValue snapshot (name, finishedReason) = some sample.value := by
  rw [counterValue, h]
  rfl

theorem labels_of_select {snapshot : PrometheusSnapshot} {name : Str}
    {finishedReason : Option Str} {sample : PrometheusSample}
    (h : selectExactSeries snapshot name finishedReason = .ok sample) :
    sample.labels =
      sortedLabels (modelLabels ++ (finishedReason.map (lit "finished_reason", ·)).toList) := by
  unfold selectExactSeries at h
  split_ifs at h
  dsimp only at h
  split at h
  · next found hfound =>
    obtain rfl := Except.ok.inj h
    have hmem : found ∈ [found] := List.mem_singleton_self _
    rw [← hfound] at hmem
    have hboth := (List.mem_filter.mp hmem).2
    simp only [decide_eq_true_eq] at hboth
    exact hboth.2
  · simp at h

theorem CounterDelta.validate_eq_ok {delta delta' : CounterDelta}
    (h : delta.validate = .ok delta') : delta' = delta := by
  unfold validate at h
  split_ifs at h
  exact (Except.ok.inj h).symm

/-- What a derived difference says about the two snapshots. -/
structure DerivedDelta (before after : PrometheusSnapshot) (selector : Str × Option Str)
    (delta : CounterDelta) : Prop where
  process : before.processStartId = after.processStartId
  order : before.scrapeMonotonicOffsetNs < after.scrapeMonotonicOffsetNs
  before : counterValue before selector = some delta.before
  after : counterValue after selector = some delta.after
  nondecreasing : delta.before ≤ delta.after
  difference : delta.delta = delta.after - delta.before
  metric : delta.metric = selector.1
  labels : delta.labels =
    sortedLabels (modelLabels ++ (selector.2.map (lit "finished_reason", ·)).toList)

/-- **A derived difference is the difference of what the two snapshots show.** -/
theorem deriveCounterDelta_eq_ok {before after : PrometheusSnapshot} {name : Str}
    {finishedReason : Option Str} {delta : CounterDelta}
    (h : deriveCounterDelta before after name finishedReason = .ok delta) :
    DerivedDelta before after (name, finishedReason) delta := by
  unfold deriveCounterDelta at h
  split_ifs at h with hname hprocess horder hinventory
  split at h
  · simp at h
  · simp at h
  · next first second hfirst hsecond =>
    split_ifs at h with hdecrease
    obtain rfl := CounterDelta.validate_eq_ok h
    exact ⟨not_not.mp hprocess, not_le.mp horder, counterValue_of_select hfirst,
      counterValue_of_select hsecond, not_lt.mp hdecrease, rfl, rfl, labels_of_select hfirst⟩

theorem counterValue_of_requireQuiescent {snapshot : PrometheusSnapshot}
    (h : requireQuiescent snapshot = .ok ()) :
    counterValue snapshot (requestsRunning, none) = some 0 ∧
      counterValue snapshot (requestsWaiting, none) = some 0 := by
  have hgauge := each_eq_ok.mp h
  have hzero : ∀ name ∈ [requestsRunning, requestsWaiting],
      counterValue snapshot (name, none) = some 0 := by
    intro name hname
    have hname := hgauge name hname
    cases hselect : selectExactSeries snapshot name with
    | error e => simp [hselect] at hname
    | ok sample =>
      have hvalue : sample.value = 0 := by simpa [hselect] using hname
      rw [counterValue_of_select hselect, hvalue]
  exact ⟨hzero _ (by simp), hzero _ (by simp)⟩

/-! ## When a difference is derived -/

theorem raisesOnly_selectExactSeries {snapshot : PrometheusSnapshot} {name : Str}
    {finishedReason : Option Str} :
    RaisesOnly PyError.isPrometheusProtocol (selectExactSeries snapshot name finishedReason) := by
  unfold selectExactSeries
  split_ifs
  · exact raisesOnly_error rfl
  · exact raisesOnly_error rfl
  · dsimp only
    split
    · exact (returns_ok _).raisesOnly
    · exact raisesOnly_error rfl
  · exact raisesOnly_error rfl

/-- No sample of the snapshot is negative. -/
def PrometheusSnapshot.Nonnegative (snapshot : PrometheusSnapshot) : Prop :=
  ∀ sample ∈ snapshot.samples, 0 ≤ sample.value

theorem PrometheusSnapshot.Valid.nonnegative [Interpreter]
    {snapshot : PrometheusSnapshot} (h : snapshot.Valid) : snapshot.Nonnegative :=
  fun sample hsample => (h.samples sample hsample).value

theorem mem_samples_of_select {snapshot : PrometheusSnapshot} {name : Str}
    {finishedReason : Option Str} {sample : PrometheusSample}
    (h : selectExactSeries snapshot name finishedReason = .ok sample) :
    sample ∈ snapshot.samples := by
  unfold selectExactSeries at h
  split_ifs at h
  dsimp only at h
  split at h
  · next found hfound =>
    obtain rfl := Except.ok.inj h
    have hmem : found ∈ [found] := List.mem_singleton_self _
    rw [← hfound] at hmem
    exact List.mem_of_mem_filter hmem
  · simp at h

/-- The names of a label set are the fixed ones. -/
theorem names_sortedLabels {finishedReason : Option Str} {label : Str × Str}
    (h : label ∈ sortedLabels (modelLabels ++
      (finishedReason.map (lit "finished_reason", ·)).toList)) : IsIdentifier label.1 := by
  have hmem := (List.mem_insertionSort _).mp h
  rcases List.mem_append.mp hmem with hmem | hmem
  · have hmodel : ∀ label ∈ modelLabels, IsIdentifier label.1 := by decide
    exact hmodel label hmem
  · obtain ⟨reason, -, rfl⟩ := Option.map_eq_some_iff.mp (Option.mem_toList.mp hmem)
    exact (by decide : IsIdentifier (lit "finished_reason"))

theorem isIdentifier_of_mem_counterNames {name : Str} (h : name ∈ counterNames) :
    IsIdentifier name := by
  have hall : ∀ name ∈ counterNames, IsIdentifier name := by decide
  exact hall name h

/-- What two snapshots must show of a counter for its difference to be derived. -/
structure Derives (before after : PrometheusSnapshot) (selector : Str × Option Str) : Prop where
  name : selector.1 ∈ counterNames
  process : before.processStartId = after.processStartId
  order : before.scrapeMonotonicOffsetNs < after.scrapeMonotonicOffsetNs
  inventory : before.labelInventory.lookup selector.1 = after.labelInventory.lookup selector.1
  values : ∃ first second, selectExactSeries before selector.1 selector.2 = .ok first ∧
    selectExactSeries after selector.1 selector.2 = .ok second ∧
    0 ≤ first.value ∧ first.value ≤ second.value

/-- **When the difference of a counter is derived.** -/
theorem returns_deriveCounterDelta_iff {before after : PrometheusSnapshot}
    {selector : Str × Option Str} :
    Returns (deriveCounterDelta before after selector.1 selector.2) ↔
      Derives before after selector := by
  constructor
  · rintro ⟨delta, h⟩
    unfold deriveCounterDelta at h
    -- the checks of the derivation, and then those of the delta itself
    split_ifs at h with hname hprocess horder hinventory
    split at h
    · simp at h
    · simp at h
    · next first second hfirst hsecond =>
      split_ifs at h with hdecrease
      refine ⟨hname, not_not.mp hprocess, not_le.mp horder, not_not.mp hinventory,
        first, second, hfirst, hsecond, ?_, not_lt.mp hdecrease⟩
      unfold CounterDelta.validate at h
      split_ifs at h with hmetric hlabels hbefore
      exact not_lt.mp hbefore
  · rintro ⟨hname, hprocess, horder, hinventory, first, second, hfirst, hsecond, hzero, hle⟩
    -- the delta is the difference of the two samples
    refine ⟨⟨selector.1, first.labels, first.value, second.value, second.value - first.value⟩, ?_⟩
    rw [deriveCounterDelta, if_neg (not_not.mpr hname), if_neg (not_not.mpr hprocess),
      if_neg (not_le.mpr horder), if_neg (not_not.mpr hinventory), hfirst, hsecond]
    dsimp only
    rw [if_neg (not_lt.mpr hle), CounterDelta.validate,
      if_neg (not_not.mpr (isIdentifier_of_mem_counterNames hname)), if_neg, if_neg, if_neg,
      if_neg, if_neg]
    -- its own checks: the difference, the sign, the two values and the labels
    · exact not_or.mpr ⟨not_lt.mpr hle, not_not.mpr rfl⟩
    · exact not_lt.mpr (sub_nonneg.mpr hle)
    · exact not_lt.mpr (hzero.trans hle)
    · exact not_lt.mpr hzero
    · rw [labels_of_select hfirst]
      exact not_not.mpr fun label hlabel => names_sortedLabels hlabel

/-- A difference that is not derived is refused by the protocol. -/
theorem raisesOnly_deriveCounterDelta {before after : PrometheusSnapshot}
    {selector : Str × Option Str} (h : before.Nonnegative) :
    RaisesOnly PyError.isPrometheusProtocol
      (deriveCounterDelta before after selector.1 selector.2) := by
  by_cases hderives : Derives before after selector
  · exact (returns_deriveCounterDelta_iff.mpr hderives).raisesOnly
  · unfold deriveCounterDelta
    split_ifs with hname hprocess horder hinventory
    · exact raisesOnly_error rfl
    · exact raisesOnly_error rfl
    · exact raisesOnly_error rfl
    · split
      · next e hfirst => exact raisesOnly_error (raisesOnly_selectExactSeries e hfirst)
      · next e _ hsecond => exact raisesOnly_error (raisesOnly_selectExactSeries e hsecond)
      · next first second hfirst hsecond =>
        split_ifs with hdecrease
        · exact raisesOnly_error rfl
        · exact absurd ⟨hname, not_not.mp hprocess, not_le.mp horder,
            not_not.mp hinventory, first, second, hfirst, hsecond,
            h first (mem_samples_of_select hfirst), not_lt.mp hdecrease⟩ hderives
    · exact raisesOnly_error rfl

theorem Derives.trans {a b c : PrometheusSnapshot} {selector : Str × Option Str}
    (hab : Derives a b selector) (hbc : Derives b c selector) : Derives a c selector := by
  obtain ⟨first, second, hfirst, hsecond, hzero, hle⟩ := hab.values
  obtain ⟨second', third, hsecond', hthird, -, hle'⟩ := hbc.values
  obtain rfl := Except.ok.inj (hsecond.symm.trans hsecond')
  exact ⟨hab.name, hab.process.trans hbc.process, hab.order.trans hbc.order,
    hab.inventory.trans hbc.inventory, first, third, hfirst, hthird, hzero, hle.trans hle'⟩

end Stage2
