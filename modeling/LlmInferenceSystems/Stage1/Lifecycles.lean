import Mathlib.Data.Finset.Card
import Mathlib.Data.Finset.Dedup
import LlmInferenceSystems.Stage1.Evidence

/-!
# Well-formed lifecycle evidence

Evidence of streams is accepted when it is numbered without a gap and every request that starts or
ends has one start and, later, one end. Any number of requests may be interleaved.

## Main definitions

* `lifecycleKinds`: the starts and ends of a request, in order
* `openRequests`: the requests started and not ended
* `WellFormedEvidence`, `WellFormedStart`: what accepted evidence, and a beginning of it, look like

## Main results

* `ScanInvariant.observe_cases`: what a turn of the loop does
* `scanEvents_cases`: what the loop comes to
* `deriveObservedMaxClientConcurrency_accepts`: evidence is accepted exactly when it is well formed,
  and the value is the greatest number of open requests
-/

namespace Stage1

open Python

/-- The kinds of a request's starts and ends, in order. -/
def lifecycleKinds (events : List StreamEvidenceRecord) (requestId : Str) :
    List StreamEvidenceKind :=
  (events.filter fun event => event.requestId = requestId ∧ event.kind.isLifecycle).map (·.kind)

/-- The requests with an event of a kind. -/
def requestsWith (kind : StreamEvidenceKind) (events : List StreamEvidenceRecord) : Finset Str :=
  ((events.filter (·.kind = kind)).map (·.requestId)).toFinset

/-- The requests started and not ended. -/
def openRequests (events : List StreamEvidenceRecord) : Finset Str :=
  requestsWith .clientRequestStarted events \ requestsWith .clientRequestEnded events

/-- How many requests are started and not ended. -/
def openCount (events : List StreamEvidenceRecord) : ℤ := (openRequests events).card

/-- Evidence numbered without a gap, in which every request that starts or ends has exactly one
start, followed by exactly one end. -/
structure WellFormedEvidence (events : List StreamEvidenceRecord) : Prop where
  sequence : events.map (·.sequence) = List.range events.length
  lifecycle : ∀ requestId, lifecycleKinds events requestId ≠ [] →
    lifecycleKinds events requestId = [.clientRequestStarted, .clientRequestEnded]

/-- A beginning of such evidence. -/
structure WellFormedStart (events : List StreamEvidenceRecord) : Prop where
  sequence : events.map (·.sequence) = List.range events.length
  lifecycle : ∀ requestId,
    lifecycleKinds events requestId <+: [.clientRequestStarted, .clientRequestEnded]

variable {events : List StreamEvidenceRecord} {event : StreamEvidenceRecord}

/-! ## One more event -/

theorem lifecycleKinds_concat (events : List StreamEvidenceRecord) (event : StreamEvidenceRecord)
    (requestId : Str) :
    lifecycleKinds (events ++ [event]) requestId = lifecycleKinds events requestId ++
      if event.requestId = requestId ∧ event.kind.isLifecycle then [event.kind] else [] := by
  simp only [lifecycleKinds, List.filter_append, List.map_append, List.filter_singleton]
  by_cases h : event.requestId = requestId ∧ event.kind.isLifecycle = true
  · simp [h]
  · simp [h]

/-- A start or an end, seen from its own request. -/
theorem lifecycleKinds_concat_self (events : List StreamEvidenceRecord)
    (h : event.kind.isLifecycle = true) :
    lifecycleKinds (events ++ [event]) event.requestId =
      lifecycleKinds events event.requestId ++ [event.kind] := by
  rw [lifecycleKinds_concat, if_pos ⟨rfl, h⟩]

theorem requestsWith_concat (kind : StreamEvidenceKind) (events : List StreamEvidenceRecord)
    (event : StreamEvidenceRecord) :
    requestsWith kind (events ++ [event]) =
      if event.kind = kind then insert event.requestId (requestsWith kind events)
      else requestsWith kind events := by
  simp only [requestsWith, List.filter_append, List.filter_singleton, List.map_append,
    List.toFinset_append]
  split
  · next h =>
    rw [decide_eq_true h]
    ext x
    simp
  · next h => simp [h]

theorem WellFormedStart.of_concat (h : WellFormedStart (events ++ [event])) :
    WellFormedStart events := by
  refine ⟨?_, fun requestId => ?_⟩
  · have hsequence := h.sequence
    rw [List.map_append, List.length_append, List.length_singleton, List.range_succ,
      List.map_singleton] at hsequence
    exact (List.append_inj' hsequence rfl).1
  · have hkinds := h.lifecycle requestId
    rw [lifecycleKinds_concat] at hkinds
    exact (List.prefix_append _ _).trans hkinds

theorem WellFormedStart.sequence_last (h : WellFormedStart (events ++ [event])) :
    event.sequence = events.length := by
  have hsequence := h.sequence
  rw [List.map_append, List.length_append, List.length_singleton, List.range_succ,
    List.map_singleton] at hsequence
  exact List.singleton_inj.mp (List.append_inj' hsequence rfl).2

theorem WellFormedEvidence.start (h : WellFormedEvidence events) : WellFormedStart events := by
  refine ⟨h.sequence, fun requestId => ?_⟩
  by_cases hkinds : lifecycleKinds events requestId = []
  · rw [hkinds]
    exact List.nil_prefix
  · rw [h.lifecycle requestId hkinds]

/-! ## The loop -/

/-- What the variables of the loop are after some events. -/
structure ScanInvariant (events : List StreamEvidenceRecord) (clients : ActiveClients) : Prop where
  sequence : events.map (·.sequence) = List.range events.length
  expectedSequence : clients.expectedSequence = events.length
  started : clients.started = requestsWith .clientRequestStarted events
  ended : clients.ended = requestsWith .clientRequestEnded events
  active : clients.active = openCount events
  maximum : IsGreatest (prefixValues openCount events) clients.maximum
  lifecycle : ∀ requestId, lifecycleKinds events requestId =
    if requestId ∈ clients.started then
      if requestId ∈ clients.ended then [.clientRequestStarted, .clientRequestEnded]
      else [.clientRequestStarted]
    else []
  subset : clients.ended ⊆ clients.started

namespace ScanInvariant

variable {clients : ActiveClients}

theorem nil : ScanInvariant [] {} := by
  refine ⟨rfl, rfl, rfl, rfl, rfl, ?_, fun _ => rfl, Finset.Subset.refl _⟩
  rw [prefixValues_nil]
  exact isGreatest_singleton

theorem wellFormedStart (h : ScanInvariant events clients) : WellFormedStart events := by
  refine ⟨h.sequence, fun requestId => ?_⟩
  rw [h.lifecycle requestId]
  split
  · split
    · exact List.prefix_refl _
    · exact ⟨[.clientRequestEnded], rfl⟩
  · exact List.nil_prefix

/-- The evidence is complete when nobody is active and everybody who started has ended. -/
theorem wellFormedEvidence_iff (h : ScanInvariant events clients) :
    WellFormedEvidence events ↔ clients.active = 0 ∧ clients.started = clients.ended := by
  have hactive : clients.active = ((clients.started \ clients.ended).card : ℤ) := by
    rw [h.active, openCount, openRequests, h.started, h.ended]
  constructor
  · intro hevidence
    have hsubset : clients.started ⊆ clients.ended := by
      intro requestId hstarted
      by_contra hended
      have hkinds := h.lifecycle requestId
      rw [if_pos hstarted, if_neg hended] at hkinds
      have := hevidence.lifecycle requestId (by rw [hkinds]; exact List.cons_ne_nil _ _)
      rw [hkinds] at this
      cases this
    refine ⟨?_, hsubset.antisymm h.subset⟩
    rw [hactive, Finset.sdiff_eq_empty_iff_subset.mpr hsubset]
    rfl
  · rintro ⟨-, heq⟩
    refine ⟨h.sequence, fun requestId hne => ?_⟩
    rw [h.lifecycle requestId] at hne ⊢
    by_cases hstarted : requestId ∈ clients.started
    · rw [if_pos hstarted, if_pos (heq ▸ hstarted)]
    · rw [if_neg hstarted] at hne
      exact absurd rfl hne

theorem sequence_concat (h : ScanInvariant events clients)
    (hsequence : event.sequence = clients.expectedSequence) :
    (events ++ [event]).map (·.sequence) = List.range (events ++ [event]).length := by
  rw [List.map_append, List.length_append, List.length_singleton, List.range_succ, h.sequence,
    List.map_singleton, hsequence, h.expectedSequence]

/-- A request starts. -/
theorem concat_started (h : ScanInvariant events clients)
    (hsequence : event.sequence = clients.expectedSequence)
    (hkind : event.kind = .clientRequestStarted) (hnew : event.requestId ∉ clients.started) :
    ScanInvariant (events ++ [event])
      { expectedSequence := clients.expectedSequence + 1
        active := clients.active + 1
        maximum := max clients.maximum (clients.active + 1)
        started := insert event.requestId clients.started
        ended := clients.ended } := by
  have hended : event.requestId ∉ clients.ended := fun hmem => hnew (h.subset hmem)
  -- one more request is open
  have hopen : openCount (events ++ [event]) = clients.active + 1 := by
    rw [h.active, openCount, openCount, openRequests, openRequests, requestsWith_concat,
      requestsWith_concat, if_pos hkind, if_neg (by simp [hkind]), ← h.started, ← h.ended,
      Finset.insert_sdiff_of_notMem _ hended, Finset.card_insert_of_notMem (by simp [hnew])]
    push_cast
    rfl
  refine ⟨h.sequence_concat hsequence, by simp [h.expectedSequence], ?_, ?_, hopen.symm, ?_, ?_, ?_⟩
  · rw [requestsWith_concat, if_pos hkind, h.started]
  · rw [requestsWith_concat, if_neg (by simp [hkind]), h.ended]
  -- the maximum is that of the prefixes, with the new count among them
  · rw [← hopen, max_comm]
    exact isGreatest_prefixValues_concat h.maximum event
  -- of all requests, only this one has a new lifecycle event
  · intro requestId
    rw [lifecycleKinds_concat, h.lifecycle requestId]
    by_cases hid : event.requestId = requestId
    · subst hid
      simp [hkind, StreamEvidenceKind.isLifecycle, hnew, hended]
    · simp [hid, Ne.symm hid]
  · exact h.subset.trans (Finset.subset_insert _ _)

/-- A request that is active ends. -/
theorem concat_ended (h : ScanInvariant events clients)
    (hsequence : event.sequence = clients.expectedSequence)
    (hkind : event.kind = .clientRequestEnded) (hstarted : event.requestId ∈ clients.started)
    (hended : event.requestId ∉ clients.ended) :
    0 < clients.active ∧ ScanInvariant (events ++ [event])
      { expectedSequence := clients.expectedSequence + 1
        active := clients.active - 1
        maximum := clients.maximum
        started := clients.started
        ended := insert event.requestId clients.ended } := by
  have hmem : event.requestId ∈ clients.started \ clients.ended :=
    Finset.mem_sdiff.mpr ⟨hstarted, hended⟩
  -- the request is open, so the count does not become negative
  have hactive : clients.active = ((clients.started \ clients.ended).card : ℤ) := by
    rw [h.active, openCount, openRequests, h.started, h.ended]
  have hpos : 0 < (clients.started \ clients.ended).card := Finset.card_pos.mpr ⟨_, hmem⟩
  have hopen : openCount (events ++ [event]) = clients.active - 1 := by
    rw [hactive, openCount, openRequests, requestsWith_concat, requestsWith_concat,
      if_neg (by simp [hkind]), if_pos hkind, ← h.started, ← h.ended, Finset.sdiff_insert,
      Finset.card_erase_of_mem hmem]
    omega
  refine ⟨by omega, h.sequence_concat hsequence, by simp [h.expectedSequence], ?_, ?_, hopen.symm,
    ?_, ?_, ?_⟩
  · rw [requestsWith_concat, if_neg (by simp [hkind]), h.started]
  · rw [requestsWith_concat, if_pos hkind, h.ended]
  -- one fewer is open, which cannot be a new maximum
  · have hle : openCount (events ++ [event]) ≤ clients.maximum := by
      have : clients.active ≤ clients.maximum :=
        h.active ▸ h.maximum.2 ⟨events, List.prefix_refl _, rfl⟩
      omega
    have hgreatest := isGreatest_prefixValues_concat h.maximum event
    rwa [max_eq_right hle] at hgreatest
  -- of all requests, only this one has a new lifecycle event
  · intro requestId
    rw [lifecycleKinds_concat, h.lifecycle requestId]
    by_cases hid : event.requestId = requestId
    · subst hid
      simp [hkind, StreamEvidenceKind.isLifecycle, hstarted, hended]
    · simp [hid, Ne.symm hid]
  · exact Finset.insert_subset hstarted h.subset

/-- What is neither a start nor an end changes nothing but the number. -/
theorem concat_other (h : ScanInvariant events clients)
    (hsequence : event.sequence = clients.expectedSequence)
    (hkind : event.kind.isLifecycle = false) :
    ScanInvariant (events ++ [event])
      { clients with expectedSequence := clients.expectedSequence + 1 } := by
  have hstart : event.kind ≠ .clientRequestStarted := by rintro h; rw [h] at hkind; cases hkind
  have hend : event.kind ≠ .clientRequestEnded := by rintro h; rw [h] at hkind; cases hkind
  have hopen : openCount (events ++ [event]) = openCount events := by
    rw [openCount, openRequests, requestsWith_concat, requestsWith_concat, if_neg hstart,
      if_neg hend]
    rfl
  refine ⟨h.sequence_concat hsequence, by simp [h.expectedSequence], ?_, ?_, ?_, ?_, ?_, h.subset⟩
  · rw [requestsWith_concat, if_neg hstart, h.started]
  · rw [requestsWith_concat, if_neg hend, h.ended]
  · rw [hopen, h.active]
  · have hgreatest := isGreatest_prefixValues_concat h.maximum event
    rwa [hopen, max_eq_right (h.maximum.2 ⟨events, List.prefix_refl _, rfl⟩)] at hgreatest
  · intro requestId
    rw [lifecycleKinds_concat, h.lifecycle requestId]
    simp [hkind]

/-- **What a turn of the loop does.** It goes on exactly while the evidence is the beginning of
well-formed evidence, and the count of active clients is not what stops it. -/
theorem observe_cases (h : ScanInvariant events clients) (event : StreamEvidenceRecord) :
    (∃ clients', clients.observe event = .ok clients' ∧
      ScanInvariant (events ++ [event]) clients') ∨
    ∃ error, clients.observe event = .error error ∧
      error ≠ .value "active client count became negative" ∧
      ¬ WellFormedStart (events ++ [event]) := by
  by_cases hsequence : event.sequence = clients.expectedSequence
  swap
  · right
    refine ⟨_, if_pos hsequence, by simp, fun hstart => hsequence ?_⟩
    rw [hstart.sequence_last, h.expectedSequence]
  by_cases hlifecycle : event.kind.isLifecycle = true
  swap
  · left
    have hkind := Bool.not_eq_true _ ▸ hlifecycle
    exact ⟨_, ActiveClients.observe_other hsequence hkind, h.concat_other hsequence hkind⟩
  -- A start or an end: what the request has done so far decides.
  have hkinds := lifecycleKinds_concat_self events hlifecycle
  rw [h.lifecycle event.requestId] at hkinds
  cases hkind : event.kind with
  | clientRequestStarted =>
    by_cases hstarted : event.requestId ∈ clients.started
    · right
      refine ⟨.value "request lifecycle start is duplicated", ?_, by simp, fun hstart => ?_⟩
      · simp [ActiveClients.observe, hsequence, hkind, hstarted]
      · have hstarts := hstart.lifecycle event.requestId
        rw [hkinds, hkind, if_pos hstarted] at hstarts
        split at hstarts <;> simp [List.cons_prefix_cons] at hstarts
    · left
      exact ⟨_, ActiveClients.observe_started hsequence hkind hstarted,
        h.concat_started hsequence hkind hstarted⟩
  | clientRequestEnded =>
    by_cases hmatch : event.requestId ∉ clients.started ∨ event.requestId ∈ clients.ended
    · right
      refine ⟨.value "request lifecycle end has no unique matching start", ?_, by simp,
        fun hstart => ?_⟩
      · simp only [ActiveClients.observe, hsequence, hkind, ne_eq, not_true_eq_false, if_false]
        rw [if_pos hmatch]
      · have hstarts := hstart.lifecycle event.requestId
        rw [hkinds, hkind] at hstarts
        rcases hmatch with hstarted | hended
        · rw [if_neg hstarted] at hstarts
          simp [List.cons_prefix_cons] at hstarts
        · rw [if_pos (h.subset hended), if_pos hended] at hstarts
          simp [List.cons_prefix_cons] at hstarts
    · left
      obtain ⟨hstarted, hended⟩ := not_or.mp hmatch
      obtain ⟨hpos, hinvariant⟩ :=
        h.concat_ended hsequence hkind (not_not.mp hstarted) hended
      exact ⟨_, ActiveClients.observe_ended hsequence hkind (not_not.mp hstarted) hended hpos,
        hinvariant⟩
  | rawBodyChunk | sseComment | sseTokenEvent | sseDone | requestTerminal =>
    rw [hkind] at hlifecycle
    cases hlifecycle

end ScanInvariant

/-- **What the loop comes to.** -/
theorem scanEvents_cases (events : List StreamEvidenceRecord) :
    (∃ clients, scanEvents events = .ok clients ∧ ScanInvariant events clients) ∨
    ∃ error, scanEvents events = .error error ∧
      error ≠ .value "active client count became negative" ∧ ¬ WellFormedStart events := by
  induction events using List.reverseRecOn with
  | nil => exact .inl ⟨_, scanEvents_nil, ScanInvariant.nil⟩
  | append_singleton events event ih =>
    obtain ⟨clients, hscan, hinvariant⟩ | ⟨error, hscan, herror, hstart⟩ := ih
    · rw [scanEvents_append hscan]
      exact hinvariant.observe_cases event
    · right
      refine ⟨error, ?_, herror, fun h => hstart h.of_concat⟩
      have hfold : events.foldlM ActiveClients.observe {} = Except.error error := hscan
      rw [scanEvents, List.foldlM_append, hfold]
      rfl

/-- **Lifecycle evidence is accepted exactly when it is well formed.** The value is the greatest
number of requests that are open after a beginning of the evidence, and the count of active clients
never becomes negative. -/
theorem deriveObservedMaxClientConcurrency_accepts (events : List StreamEvidenceRecord) :
    ((∃ value, deriveObservedMaxClientConcurrency events = .ok value) ↔
      WellFormedEvidence events) ∧
    (∀ value, deriveObservedMaxClientConcurrency events = .ok value →
      IsGreatest (prefixValues openCount events) value) ∧
    deriveObservedMaxClientConcurrency events ≠
      .error (.value "active client count became negative") := by
  -- the scan reads all events, or it stops at the first that does not fit
  obtain ⟨clients, hscan, hinvariant⟩ | ⟨error, hscan, herror, hstart⟩ := scanEvents_cases events
  · rw [hinvariant.wellFormedEvidence_iff]
    -- requests that are left open are refused at the end
    by_cases hopen : clients.active ≠ 0 ∨ clients.started ≠ clients.ended
    · have hderive : deriveObservedMaxClientConcurrency events =
          .error (.value "request lifecycle evidence is incomplete") := by
        rw [deriveObservedMaxClientConcurrency, hscan]
        exact if_pos hopen
      rw [hderive]
      refine ⟨iff_of_false (by rintro ⟨_, h⟩; cases h) ?_, fun _ h => (by cases h), by simp⟩
      rintro ⟨hactive, hended⟩
      exact hopen.elim (fun h => h hactive) fun h => h hended
    · have hderive : deriveObservedMaxClientConcurrency events = .ok clients.maximum := by
        rw [deriveObservedMaxClientConcurrency, hscan]
        exact if_neg hopen
      obtain ⟨hactive, hended⟩ := not_or.mp hopen
      rw [hderive]
      refine ⟨iff_of_true ⟨_, rfl⟩ ⟨not_not.mp hactive, not_not.mp hended⟩, ?_, by simp⟩
      intro value hvalue
      obtain rfl := Except.ok.inj hvalue
      exact hinvariant.maximum
  -- an event that does not fit is refused for its own reason, and the evidence is not well-formed
  · have hderive : deriveObservedMaxClientConcurrency events = .error error := by
      rw [deriveObservedMaxClientConcurrency, hscan]
      rfl
    rw [hderive]
    refine ⟨iff_of_false (by rintro ⟨_, h⟩; cases h) fun h => hstart h.start,
      fun _ h => (by cases h), ?_⟩
    simpa using herror

end Stage1
