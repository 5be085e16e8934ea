import MarketSupport.State.Faults

/-!
# Replay

A reply that was committed for a request is what every later reservation of this request
gets, until its record expires or makes room for another one.

## Main results

* `Held.between` — a record outlives everything but its expiry and its eviction.
* `replay_source` — what is replayed was committed under the same key.
* `replay_idempotent` — both, for every reservation of a run.
-/

namespace MarketSupport

open Library

variable {setup : CoordinatorSetup}

/-! ## Losing a record -/

/-- The event applies the TTL cleanup at a reading that has reached `expiresAt`. -/
def Expires (e : CoordinatorEvent) (expiresAt : ℤ) : Prop :=
  ∃ mono epoch, Change.cleanup mono epoch ∈ e.input.1.changes e.input.2 ∧ expiresAt ≤ mono

/-- The event is a `reserve_reply` that evicts the complete record under `key`. -/
def Evicts (setup : CoordinatorSetup) (e : CoordinatorEvent) (key : RecordKey) : Prop :=
  Change.evict ∈ e.input.1.changes e.input.2 ∧
    (∃ record, issuedEvictionVictim (afterCleanup setup e.input.2 e.before).root =
      some (key, record)) ∧
    ∀ record, e.after.root.issuedRecords.get key ≠ some (.complete record)

/-- The root holds a version of the record under `key`. -/
def Held (root : CoordinatorStateRootV1) (key : RecordKey)
    (record : CompleteIssuedResponseRecordV1) :
    Prop :=
  ∃ record', root.issuedRecords.get key = some (.complete record') ∧ SameCommit record record'

theorem Held.step {root root' : CoordinatorStateRootV1} {change : Change}
    {key : RecordKey} {record : CompleteIssuedResponseRecordV1} (held : Held root key record)
    (step : RootStep setup root change root') (inv : RootInvariant root)
    (guarded : Guarded genuineGuard root change)
    (live : ∀ mono epoch, change = .cleanup mono epoch → mono < record.expiresAtMonotonicNs) :
    Held root' key record ∨ change = .evict ∧ ∃ victim, issuedEvictionVictim root =
      some (key, victim) := by
  obtain ⟨version, hget, same⟩ := held
  obtain ⟨record', hafter, same'⟩ | ⟨mono, epoch, rfl, hexp⟩ | ⟨rfl, hvictim⟩ :=
    step.record_kept inv guarded hget
  · exact .inl ⟨record', hafter, same.trans same'⟩
  · have hlive := live mono epoch rfl
    rw [same.expiresAt] at hlive
    exact absurd hexp (not_le.mpr hlive)
  · exact .inr ⟨rfl, version, hvictim⟩

/-- An operation without an eviction. -/
theorem Held.operation {operation : CoordinatorOperation} {draws : OperationDraws} {c : Coordinator}
    {key : RecordKey} {record : CompleteIssuedResponseRecordV1} (held : Held c.root key record)
    (inv : RootInvariant c.root) (holds : genuineGuard.Holds setup operation draws c)
    (live : ∀ mono epoch, Change.cleanup mono epoch ∈ operation.changes draws →
      mono < record.expiresAtMonotonicNs)
    (noEviction : Change.evict ∉ operation.changes draws) :
    Held (runOperation setup operation draws c).2.root key record := by
  suffices h : RootInvariant (runOperation setup operation draws c).2.root ∧
      Held (runOperation setup operation draws c).2.root key record from h.2
  refine runOperation_invariant (P := fun root => RootInvariant root ∧ Held root key record)
    ⟨inv, held⟩ holds ?_
  rintro r r' change hmem guarded ⟨inv, held⟩ step
  refine ⟨step.rootInvariant inv guarded, ?_⟩
  obtain hheld | ⟨rfl, _⟩ :=
    held.step step inv guarded fun mono epoch heq => live mono epoch (heq ▸ hmem)
  · exact hheld
  · exact absurd hmem noEviction

theorem Held.cleanup {draws : OperationDraws} {c : Coordinator} {key : RecordKey}
    {record : CompleteIssuedResponseRecordV1} (held : Held c.root key record)
    (inv : RootInvariant c.root) (live : draws.cleanupMonotonicNs < record.expiresAtMonotonicNs) :
    RootInvariant (afterCleanup setup draws c).root ∧
      Held (afterCleanup setup draws c).root key record := by
  have hguarded : ∀ root mono epoch,
      Guarded genuineGuard root (.cleanup mono epoch) :=
    fun _ _ _ => trivial
  have hlive : ∀ mono epoch, Change.cleanup draws.cleanupMonotonicNs draws.cleanupEpochMs =
      .cleanup mono epoch → mono < record.expiresAtMonotonicNs := by
    rintro mono epoch heq
    cases heq
    exact live
  have hf : Follows setup [.cleanup draws.cleanupMonotonicNs draws.cleanupEpochMs] c.root
      (afterCleanup setup draws c).root := afterCleanup_follows
  obtain hroot | step := hf.single_cases
  · rw [hroot]
    exact ⟨inv, held⟩
  · refine ⟨step.rootInvariant inv (hguarded _ _ _), ?_⟩
    obtain hheld | ⟨heq, _⟩ := held.step step inv (hguarded _ _ _) hlive
    · exact hheld
    · cases heq

/-- A reservation keeps the record, or evicts it. -/
theorem Held.reserve {stateKey : ConversationStateKey} {requestId requestHash : String}
    {replayEligible : Bool} {draws : OperationDraws} {c c' : Coordinator}
    {result : Except CoordinatorException ReservationResultV1} {key : RecordKey}
    {record : CompleteIssuedResponseRecordV1}
    (h : reserveReply setup stateKey requestId requestHash replayEligible draws c = (result, c'))
    (held : Held c.root key record) (inv : RootInvariant c.root)
    (live : draws.cleanupMonotonicNs < record.expiresAtMonotonicNs) :
    Held c'.root key record ∨
      (∃ victim, issuedEvictionVictim (afterCleanup setup draws c).root =
        some (key, victim)) ∧
        ∀ record, c'.root.issuedRecords.get key ≠ some (.complete record) := by
  have hcleaned : RootInvariant (afterCleanup setup draws c).root ∧
      Held (afterCleanup setup draws c).root key record := held.cleanup inv live
  obtain ⟨cleanInv, cleanHeld⟩ := hcleaned
  -- What an eviction on the cleaned root does to the record.
  have hevict : ∀ root, Follows setup [.evict] (afterCleanup setup draws c).root root →
      RootInvariant root ∧ (Held root key record ∨
        (∃ victim, issuedEvictionVictim (afterCleanup setup draws c).root =
          some (key, victim)) ∧ root.issuedRecords.get key = none) := by
    intro root hf
    obtain rfl | step := hf.single_cases
    · exact ⟨cleanInv, .inl cleanHeld⟩
    · have hguarded : Guarded genuineGuard
          (afterCleanup setup draws c).root .evict := trivial
      refine ⟨step.rootInvariant cleanInv hguarded, ?_⟩
      obtain hheld | ⟨_, victim, hvictim⟩ := cleanHeld.step step cleanInv hguarded (by simp)
      · exact .inl hheld
      · cases step with
        | evict _ victim' =>
          rw [hvictim] at victim'
          cases victim'
          exact .inr ⟨⟨victim, hvictim⟩, FrozenMap.get_withoutKeys_singleton_self ..⟩
  obtain ⟨_, hf⟩ | ⟨_, _, _, hsame⟩ | ⟨evicted, _, hf, step⟩ := reserveReply_cases h
  · obtain ⟨_, hheld | ⟨hvictim, hgone⟩⟩ := hevict _ hf
    · exact .inl hheld
    · exact .inr ⟨hvictim, by simp [hgone]⟩
  · rw [hsame]
    exact .inl cleanHeld
  · have hguarded : Guarded genuineGuard evicted.root
        (.reserve stateKey requestId requestHash replayEligible draws.reserveReadings) := trivial
    obtain ⟨inv', hheld | ⟨hvictim, hgone⟩⟩ := hevict _ (publishEviction_follows hf)
    · obtain hheld | ⟨heq, _⟩ := hheld.step step inv' hguarded (by simp)
      · exact .inl hheld
      · cases heq
    · refine .inr ⟨hvictim, fun record hget => ?_⟩
      cases step.recordSource inv' hguarded hget with
      | kept _ before => simp [hgone] at before

/-- A record outlives every event but its expiry and its eviction. -/
theorem Held.event {es : List CoordinatorEvent} {c : Coordinator} {input : CoordinatorInput}
    {key : RecordKey} {record : CompleteIssuedResponseRecordV1}
    (run : CoordinatorRun setup Admissible es c)
    (ok : Admissible es ((coordinatorSystem setup).event c input)) (held : Held c.root key record)
    (notExpired : ¬ Expires ((coordinatorSystem setup).event c input) record.expiresAtMonotonicNs)
    (notEvicted : ¬ Evicts setup ((coordinatorSystem setup).event c input) key) :
    Held ((coordinatorSystem setup).event c input).after.root key record := by
  have inv := RootInvariant.of_run run fun _ _ => id
  have live : ∀ mono epoch, Change.cleanup mono epoch ∈ input.1.changes input.2 →
      mono < record.expiresAtMonotonicNs := by
    intro mono epoch hmem
    by_contra hexp
    exact notExpired ⟨mono, epoch, hmem, not_lt.mp hexp⟩
  obtain ⟨operation, draws⟩ := input
  cases operation with
  | reserveReply stateKey requestId requestHash replayEligible =>
    rcases hx : reserveReply setup stateKey requestId requestHash replayEligible draws c with
      ⟨result, c'⟩
    have hroot : (runOperation setup (.reserveReply stateKey requestId requestHash replayEligible)
        draws c).2.root = c'.root := by
      simp [runOperation, outcome, hx]
    have hlive : draws.cleanupMonotonicNs < record.expiresAtMonotonicNs :=
      live _ draws.cleanupEpochMs (by simp [CoordinatorOperation.changes])
    obtain hheld | ⟨hvictim, hgone⟩ := held.reserve hx inv hlive
    · rwa [← hroot] at hheld
    · refine absurd ⟨by simp [System.event, CoordinatorOperation.changes], hvictim, ?_⟩ notEvicted
      rwa [← hroot] at hgone
  | abortReply | commitReply | prepareFeedback | commitFeedback | cleanup | lookupIssuedResponse |
      readTurnAdmissionSnapshot =>
    exact held.operation inv (holds_of_admissible (fun _ _ => id) run ok) live
      (by simp [CoordinatorOperation.changes])

/-- A record outlives a stretch of a run in which it neither expires nor is evicted. -/
theorem Held.between {es₁ mid : List CoordinatorEvent} {e₁ : CoordinatorEvent} {c : Coordinator}
    {key : RecordKey} {record : CompleteIssuedResponseRecordV1}
    (run : CoordinatorRun setup Admissible (es₁ ++ e₁ :: mid) c)
    (held : Held e₁.after.root key record)
    (kept : ∀ e ∈ mid, ¬ Expires e record.expiresAtMonotonicNs ∧ ¬ Evicts setup e key) :
    Held c.root key record := by
  refine run.persists_mem (P := fun c => Held c.root key record) held ?_
  intro es c input hrun ok hmem ih
  exact ih.event hrun ok (kept _ hmem).1 (kept _ hmem).2

/-! ## What is replayed -/

/-- Where the complete records after an operation come from. -/
theorem runOperation_complete {operation : CoordinatorOperation} {draws : OperationDraws}
    {c : Coordinator} {key : RecordKey} {record : CompleteIssuedResponseRecordV1}
    (inv : RootInvariant c.root) (holds : genuineGuard.Holds setup operation draws c)
    (h : (runOperation setup operation draws c).2.root.issuedRecords.get key =
      some (.complete record)) :
    (∃ before, c.root.issuedRecords.get key = some (.complete before) ∧ SameCommit before record) ∨
      ∃ proposal, operation = .commitReply proposal ∧
        key = ⟨proposal.stateKey, proposal.requestId⟩ ∧
        (runOperation setup operation draws c).1 = .ok (.committed record.response) ∧
        record.requestHash = proposal.requestHash ∧
        record.replayEligible = proposal.replayEligible ∧ record.issuedAtEpochMs = draws.epochMs ∧
        record.expiresAtMonotonicNs = draws.monotonicNs + setup.config.issuedTtlNs := by
  cases operation with
  | commitReply proposal =>
    rcases hx : commitReply setup proposal draws c with ⟨result, c'⟩
    have hrun : runOperation setup (.commitReply proposal) draws c =
        (result.map .committed, c') := by
      simp [runOperation, outcome, hx]
    rw [hrun] at h ⊢
    obtain ⟨_, hroot⟩ | ⟨rfl, step⟩ := commitReply_cases hx
    · rw [hroot] at h
      exact .inl ⟨record, h, .refl record⟩
    · have hguarded : Guarded genuineGuard c.root
          (.commit proposal draws.commitReadings) := trivial
      cases step.recordSource inv hguarded h with
      | kept _ before => exact .inl ⟨record, before, .refl record⟩
      | committed _ _ hkey => exact .inr ⟨proposal, rfl, hkey, rfl, rfl, rfl, rfl, rfl⟩
  | reserveReply | abortReply | prepareFeedback | commitFeedback | cleanup | lookupIssuedResponse |
      readTurnAdmissionSnapshot =>
    left
    refine (runOperation_invariant (P := fun root => RootInvariant root ∧ ∀ record,
      root.issuedRecords.get key = some (.complete record) → ∃ before,
        c.root.issuedRecords.get key = some (.complete before) ∧ SameCommit before record)
      ⟨inv, fun record h => ⟨record, h, .refl record⟩⟩ holds ?_).2 record h
    rintro r r' change hmem guarded ⟨inv, ih⟩ step
    refine ⟨step.rootInvariant inv guarded, fun record hget => ?_⟩
    have hsource := step.recordSource inv guarded hget
    cases hsource with
    | kept _ before => exact ih _ before
    | cleaned before =>
      obtain ⟨origin, horigin, same⟩ := ih _ before
      exact ⟨origin, horigin, same.trans ⟨rfl, rfl, rfl, rfl, rfl, rfl, rfl⟩⟩
    | fed _ _ _ _ before =>
      obtain ⟨origin, horigin, same⟩ := ih _ before
      exact ⟨origin, horigin, same.trans ⟨rfl, rfl, rfl, rfl, rfl, rfl, rfl⟩⟩
    | committed => simp [CoordinatorOperation.changes] at hmem

/-- Some earlier `commit_reply` under this key returned the response. -/
def CommittedUnder (es : List CoordinatorEvent) (key : RecordKey)
    (response : ReplyResponse) : Prop :=
  ∃ e ∈ es, ∃ proposal, e.input.1 = .commitReply proposal ∧
    key = ⟨proposal.stateKey, proposal.requestId⟩ ∧ e.output = .ok (.committed response)

/-- Complete records hold what was committed under their key. -/
theorem committedUnder_of_run {es : List CoordinatorEvent} {c : Coordinator}
    (run : CoordinatorRun setup Admissible es c) {key : RecordKey}
    {record : CompleteIssuedResponseRecordV1}
    (h : c.root.issuedRecords.get key = some (.complete record)) :
    CommittedUnder es key record.response := by
  refine run.invariant (P := fun es c => ∀ record, c.root.issuedRecords.get key =
    some (.complete record) → CommittedUnder es key record.response) ?_ ?_ record h
  · intro record h
    simp [Coordinator.initial, emptyCoordinatorRoot] at h
  · intro es c input hrun ok ih record h
    obtain ⟨before, hbefore, same⟩ | ⟨proposal, hop, hkey, hout, _⟩ :=
      runOperation_complete (RootInvariant.of_run hrun fun _ _ => id)
        (holds_of_admissible (fun _ _ => id) hrun ok) h
    · obtain ⟨e, he, hcommitted⟩ := ih before hbefore
      rw [same.response] at hcommitted
      exact ⟨e, List.mem_append_left _ he, hcommitted⟩
    · exact ⟨_, List.mem_append_right _ (List.mem_singleton_self _), proposal, hop, hkey, hout⟩

/-- A replay returns the record under its own key and publishes nothing but the cleanup. -/
theorem replay_source {stateKey : ConversationStateKey} {requestId requestHash : String}
    {replayEligible : Bool} {draws : OperationDraws} {c : Coordinator}
    {reply : CompletedReplyReplayV1} (h : (runOperation setup
      (.reserveReply stateKey requestId requestHash replayEligible) draws c).1 =
      .ok (.reservation (.replay reply))) :
    ∃ record, (runOperation setup (.reserveReply stateKey requestId requestHash replayEligible)
        draws c).2.root.issuedRecords.get ⟨stateKey, requestId⟩ = some (.complete record) ∧
      reply.response = record.response ∧
      (runOperation setup (.reserveReply stateKey requestId requestHash replayEligible)
        draws c).2.root = (afterCleanup setup draws c).root := by
  rcases hx : reserveReply setup stateKey requestId requestHash replayEligible draws c
    with ⟨result, c'⟩
  have hrun : runOperation setup (.reserveReply stateKey requestId requestHash replayEligible)
      draws c = (result.map .reservation, c') := by
    simp [runOperation, outcome, hx]
  rw [hrun] at h ⊢
  obtain ⟨⟨e, rfl⟩, _⟩ | ⟨existing, rfl, hexisting, hsame⟩ | ⟨root, rfl, _⟩ := reserveReply_cases hx
  · cases h
  · simp only [Except.map, Except.ok.injEq, OperationResult.reservation.injEq] at h
    subst h
    unfold existingReservationResult at hexisting
    split at hexisting
    · next existing hget =>
      cases existing
      · simp only at hexisting
        split_ifs at hexisting
      · simp only at hexisting
        split_ifs at hexisting
        cases hexisting
        exact ⟨_, hget, rfl, hsame⟩
    · split_ifs at hexisting
      cases hexisting
  · cases h

/-! ## Replays of a committed reply -/

/-- The record that a successful `commit_reply` leaves. -/
theorem commitReply_held {proposal : ReplyCommitProposalV1} {draws : OperationDraws}
    {c : Coordinator} {response : ReplyResponse}
    (h : (runOperation setup (.commitReply proposal) draws c).1 = .ok (.committed response)) :
    ∃ record, Held (runOperation setup (.commitReply proposal) draws c).2.root
        ⟨proposal.stateKey, proposal.requestId⟩ record ∧
      record.response = response ∧ record.requestHash = proposal.requestHash ∧
      record.replayEligible = proposal.replayEligible ∧ record.issuedAtEpochMs = draws.epochMs ∧
      record.expiresAtMonotonicNs = draws.monotonicNs + setup.config.issuedTtlNs := by
  rcases hx : commitReply setup proposal draws c with ⟨result, c'⟩
  have hrun : runOperation setup (.commitReply proposal) draws c = (result.map .committed, c') := by
    simp [runOperation, outcome, hx]
  rw [hrun] at h ⊢
  obtain ⟨⟨e, rfl⟩, _⟩ | ⟨rfl, step⟩ := commitReply_cases hx
  · cases h
  · obtain rfl : issuedResponse proposal draws.commitReadings = response := by
      simpa [Except.map] using h
    obtain ⟨revision, _, _, _, _, _, hafter⟩ := step.of_commit
    refine ⟨completeRecord setup.config proposal (revision.next setup.config draws.monotonicNs)
      (issuedResponse proposal draws.commitReadings) draws.monotonicNs draws.epochMs,
      ⟨_, ?_, .refl _⟩, rfl, rfl, rfl, rfl, rfl⟩
    rw [hafter]
    exact FrozenMap.get_insert_self ..

/-- The answer of `reserve_reply` when the request is already known after the cleanup. -/
theorem reserveReply_known {stateKey : ConversationStateKey} {requestId requestHash : String}
    {replayEligible : Bool} {draws : OperationDraws} {c c₁ : Coordinator} {n : ℕ}
    (hclean : cleanupLocked setup draws.cleanupMonotonicNs draws.cleanupEpochMs
      draws.cleanupPublication c = (.ok n, c₁)) {record : CompleteIssuedResponseRecordV1}
    (hget : c₁.root.issuedRecords.get ⟨stateKey, requestId⟩ = some (.complete record)) :
    reserveReply setup stateKey requestId requestHash replayEligible draws c =
      (if record.requestHash = requestHash ∧ record.replayEligible = replayEligible ∧
          replayEligible = true then
        .ok (.replay ⟨stateKey, requestId, requestHash, record.response, record.issuedAtEpochMs,
          record.recordRevision⟩)
      else .error (.coordinatorError "request_id_conflict"), c₁) := by
  have hhash : (IssuedResponseRecordV1.complete record).requestHash = record.requestHash := rfl
  have heligible : (IssuedResponseRecordV1.complete record).replayEligible =
      record.replayEligible := rfl
  unfold reserveReply
  simp only [hclean, existingReservationResult, hget, hhash, heligible]
  by_cases hsame : record.requestHash = requestHash ∧ record.replayEligible = replayEligible
  · obtain ⟨rfl, rfl⟩ := hsame
    cases record.replayEligible <;> simp
  · rw [if_pos (by tauto), if_neg (by tauto)]

/-- How the event answers a reservation of a request whose committed reply is live. -/
structure Answers (setup : CoordinatorSetup) (e : CoordinatorEvent)
    (proposal : ReplyCommitProposalV1) (response : ReplyResponse) (issuedAtEpochMs : ℤ) : Prop where
  replayed : e.input.1 =
      .reserveReply proposal.stateKey proposal.requestId proposal.requestHash true →
    (∃ recordRevision, e.output = .ok (.reservation (.replay ⟨proposal.stateKey, proposal.requestId,
      proposal.requestHash, response, issuedAtEpochMs, recordRevision⟩))) ∧
    e.after.root = cleaned setup.config e.before.root e.input.2.cleanupMonotonicNs
      e.input.2.cleanupEpochMs
  refused : ∀ requestHash replayEligible,
    e.input.1 = .reserveReply proposal.stateKey proposal.requestId requestHash replayEligible →
    requestHash ≠ proposal.requestHash ∨ replayEligible = false →
    e.output = .error (.coordinatorError "request_id_conflict")

/-- A live record answers the reservations of its request. -/
theorem Held.answers {es : List CoordinatorEvent} {c : Coordinator} {input : CoordinatorInput}
    {proposal : ReplyCommitProposalV1} {record : CompleteIssuedResponseRecordV1}
    (run : CoordinatorRun setup Admissible es c)
    (held : Held c.root ⟨proposal.stateKey, proposal.requestId⟩ record)
    (notExpired : ¬ Expires ((coordinatorSystem setup).event c input) record.expiresAtMonotonicNs)
    (hook : input.2.cleanupPublication.hook = .passes)
    (hhash : record.requestHash = proposal.requestHash) (heligible : record.replayEligible = true) :
    Answers setup ((coordinatorSystem setup).event c input) proposal record.response
      record.issuedAtEpochMs := by
  obtain ⟨operation, draws⟩ := input
  have inv := RootInvariant.of_run run fun _ _ => id
  have sound := ActionIndexSound.of_run run fun _ _ => id
  have hknown : ∀ requestHash replayEligible,
      operation = .reserveReply proposal.stateKey proposal.requestId requestHash replayEligible →
      ∃ recordRevision journal, reserveReply setup proposal.stateKey proposal.requestId requestHash
        replayEligible draws c =
        (if record.requestHash = requestHash ∧ record.replayEligible = replayEligible ∧
            replayEligible = true then
          .ok (.replay ⟨proposal.stateKey, proposal.requestId, requestHash, record.response,
            record.issuedAtEpochMs, recordRevision⟩)
        else .error (.coordinatorError "request_id_conflict"),
        ⟨cleaned setup.config c.root draws.cleanupMonotonicNs draws.cleanupEpochMs, journal⟩) := by
    rintro requestHash replayEligible rfl
    have live : draws.cleanupMonotonicNs < record.expiresAtMonotonicNs := by
      by_contra hexp
      exact notExpired
        ⟨_, draws.cleanupEpochMs, by simp [System.event, CoordinatorOperation.changes],
        not_lt.mp hexp⟩
    have hclean : ∃ n journal, cleanupLocked setup draws.cleanupMonotonicNs draws.cleanupEpochMs
        draws.cleanupPublication c = (.ok n, ⟨cleaned setup.config c.root draws.cleanupMonotonicNs
          draws.cleanupEpochMs, journal⟩) := cleanupLocked_passes (.of_run run fun _ _ => id) hook
    obtain ⟨n, journal, hclean⟩ := hclean
    have hheld : Held (afterCleanup setup draws c).root
        ⟨proposal.stateKey, proposal.requestId⟩ record := (held.cleanup inv live).2
    obtain ⟨record', hget, same⟩ := hheld
    rw [afterCleanup, hclean] at hget
    refine ⟨record'.recordRevision, journal, ?_⟩
    rw [reserveReply_known hclean hget, same.requestHash, same.replayEligible, same.response,
      same.issuedAt]
  constructor
  · intro hop
    obtain ⟨recordRevision, journal, hreserve⟩ := hknown _ _ hop
    rw [hhash, heligible, if_pos ⟨rfl, rfl, rfl⟩] at hreserve
    obtain rfl : operation = _ := hop
    have hrun : runOperation setup (.reserveReply proposal.stateKey proposal.requestId
        proposal.requestHash true) draws c = _ := congrArg (outcome .reservation) hreserve
    exact ⟨⟨recordRevision, congrArg Prod.fst hrun⟩, congrArg (fun x => x.2.root) hrun⟩
  · intro requestHash replayEligible hop hconflict
    obtain ⟨recordRevision, journal, hreserve⟩ := hknown _ _ hop
    rw [hhash, heligible, if_neg (by rintro ⟨rfl, rfl, _⟩; simp at hconflict)] at hreserve
    obtain rfl : operation = _ := hop
    have hrun : runOperation setup (.reserveReply proposal.stateKey proposal.requestId
        requestHash replayEligible) draws c = _ := congrArg (outcome .reservation) hreserve
    exact congrArg Prod.fst hrun

/-- While the committed record has neither expired nor been evicted, its request is answered
with the committed reply and a conflicting one is refused; nobody else ever gets it. -/
theorem replay_idempotent {es mid : List CoordinatorEvent} {c : Coordinator}
    {e₁ e₂ : CoordinatorEvent} {proposal : ReplyCommitProposalV1} {response : ReplyResponse}
    (run : CoordinatorRun setup Admissible es c) (between : Between es e₁ mid e₂)
    (commits : e₁.input.1 = .commitReply proposal)
    (committed : e₁.output = .ok (.committed response))
    (eligible : proposal.replayEligible = true) :
    ((∀ e ∈ mid, ¬ Expires e (e₁.input.2.monotonicNs + setup.config.issuedTtlNs) ∧
        ¬ Evicts setup e ⟨proposal.stateKey, proposal.requestId⟩) →
      ¬ Expires e₂ (e₁.input.2.monotonicNs + setup.config.issuedTtlNs) →
      (e₂.input.2.cleanupPublication.hook = .passes →
        Answers setup e₂ proposal response e₁.input.2.epochMs) ∧
      ∀ stateKey requestId requestHash replayEligible reply,
        e₂.input.1 = .reserveReply stateKey requestId requestHash replayEligible →
        (⟨stateKey, requestId⟩ : RecordKey) ≠ ⟨proposal.stateKey, proposal.requestId⟩ →
        e₂.output = .ok (.reservation (.replay reply)) →
        reply.response.responseId ≠ response.responseId) ∧
    ∀ stateKey requestId requestHash replayEligible reply,
      e₂.input.1 = .reserveReply stateKey requestId requestHash replayEligible →
      e₂.output = .ok (.reservation (.replay reply)) →
      ∃ before, before ++ [e₂] <+: es ∧
        CommittedUnder before ⟨stateKey, requestId⟩ reply.response := by
  obtain ⟨es₁, es₃, rfl⟩ := between
  obtain ⟨hrun, hok, he₂, hafter⟩ := run.split
  obtain ⟨_, _, he₁, _⟩ := hrun.split
  obtain ⟨c₁, ⟨operation₁, draws₁⟩, rfl⟩ : ∃ c input, e₁ =
      (coordinatorSystem setup).event c input :=
    ⟨_, _, he₁⟩
  obtain ⟨c₂, input₂, rfl⟩ : ∃ c input, e₂ = (coordinatorSystem setup).event c input :=
    ⟨_, _, he₂⟩
  obtain rfl : operation₁ = .commitReply proposal := commits
  obtain ⟨record, held, rfl, hhash, heligible, hissued, hexpires⟩ := commitReply_held committed
  refine ⟨fun kept notExpired => ⟨fun hook => ?_, ?_⟩, ?_⟩
  · have hheld := held.between hrun (by rwa [hexpires])
    have hanswers := hheld.answers hrun (by rwa [hexpires]) hook hhash (heligible.trans eligible)
    rwa [hissued] at hanswers
  · intro stateKey requestId requestHash replayEligible reply hop hne hout hid
    obtain ⟨operation₂, draws₂⟩ := input₂
    obtain rfl : operation₂ = _ := hop
    obtain ⟨other, hother, hresponse, hsame⟩ := replay_source hout
    have hheld := held.between hrun (by rwa [hexpires])
    have live : draws₂.cleanupMonotonicNs < record.expiresAtMonotonicNs := by
      by_contra hexp
      rw [hexpires, not_lt] at hexp
      exact notExpired ⟨_, draws₂.cleanupEpochMs,
        by simp [System.event, CoordinatorOperation.changes], hexp⟩
    obtain ⟨inv, version, hversion, same⟩ :=
      hheld.cleanup (RootInvariant.of_run hrun fun _ _ => id) live
    rw [hsame] at hother
    refine hne (inv.responses.key_unique hother hversion rfl ?_)
    rw [IssuedResponseRecordV1.responseId?, ← same.response, ← hid, hresponse]
  · intro stateKey requestId requestHash replayEligible reply hop hout
    obtain ⟨operation₂, draws₂⟩ := input₂
    obtain rfl : operation₂ = _ := hop
    obtain ⟨record', hget, hresponse, _⟩ := replay_source hout
    obtain ⟨origin, horigin, same⟩ | ⟨_, hop, _⟩ := runOperation_complete
      (RootInvariant.of_run hrun fun _ _ => id) (holds_of_admissible (fun _ _ => id) hrun hok) hget
    · refine ⟨_, ⟨es₃, List.append_assoc _ [_] es₃⟩, ?_⟩
      rw [hresponse, ← same.response]
      exact committedUnder_of_run hrun horigin
    · cases hop

/-! ## Samples -/

namespace ReplayedRequest

/-- After the reply and its feedback, another principal of the group reserves a reply. -/
def inputs : List CoordinatorInput :=
  sampleFeedbackInputs ++
    [(.reserveReply { sampleKey with principalRef := "principal:b" } "r" "h" true, sampleDraws 5 5)]

/-- The first request comes once more. -/
def input : CoordinatorInput := (.reserveReply sampleKey "r" "h" true, sampleDraws 6 6)

def response : ReplyResponse :=
  issueResponseIds sampleUuid (fun _ => sampleUuid) sampleActionResponse

def holdsReply (root : CoordinatorStateRootV1) : Bool :=
  match root.issuedRecords.get ⟨sampleKey, "r"⟩ with
  | some (.complete _) => true
  | _ => false

theorem exists_of_holdsReply {root : CoordinatorStateRootV1} (h : holdsReply root = true) :
    ∃ record, root.issuedRecords.get ⟨sampleKey, "r"⟩ = some (.complete record) := by
  unfold holdsReply at h
  split at h
  · next record hget => exact ⟨record, hget⟩
  · cases h

def checked : CheckedTrace sampleSetup Admissible (inputs ++ [input]) fun t =>
    decide ((t.1[1]?.map (·.output)) = some (.ok (.committed response))) &&
      t.1[4]?.any fun e => holdsReply e.after.root :=
  ⟨by decide +kernel⟩

/-- The events of the run, of which the last starts where the others end. -/
theorem exists_events {setup : CoordinatorSetup} {i₀ i₁ i₂ i₃ i₄ i₅ : CoordinatorInput} :
    ∃ s₀ s₁ s₂ s₃ s₄, (coordinatorTrace setup ([i₀, i₁, i₂, i₃, i₄] ++ [i₅])).1 =
      [(coordinatorSystem setup).event s₀ i₀, (coordinatorSystem setup).event s₁ i₁,
        (coordinatorSystem setup).event s₂ i₂, (coordinatorSystem setup).event s₃ i₃,
        (coordinatorSystem setup).event s₄ i₄,
        (coordinatorSystem setup).event (coordinatorTrace setup [i₀, i₁, i₂, i₃, i₄]).2 i₅] :=
  ⟨_, _, _, _, _, rfl⟩

theorem between_events (e₀ e₁ e₂ e₃ e₄ e₅ : CoordinatorEvent) :
    Between [e₀, e₁, e₂, e₃, e₄, e₅] e₁ [e₂, e₃, e₄] e₅ := ⟨[e₀], [], rfl⟩

theorem not_expires (s : Coordinator) {operation : CoordinatorOperation} {n : ℕ} {t : ℤ}
    (ht : t ≤ 6) :
    ¬ Expires ((coordinatorSystem sampleSetup).event s (operation, sampleDraws n t))
      (2 + sampleSetup.config.issuedTtlNs) := by
  rintro ⟨mono, epoch, hmem, hexp⟩
  have hmono : mono = t := by
    cases operation <;> simp_all [System.event, CoordinatorOperation.changes, sampleDraws]
  have httl : sampleSetup.config.issuedTtlNs = 86400000000000 := by decide +kernel
  omega

end ReplayedRequest

open ReplayedRequest in
/-- After feedback on the reply and a reservation of another principal, the request of the sample
run is replayed. -/
theorem replay_idempotent_sample :
    ∃ recordRevision, ((coordinatorSystem sampleSetup).event
        (coordinatorTrace sampleSetup inputs).2 input).output =
      .ok (.reservation (.replay ⟨sampleKey, "r", "h", response, 2, recordRevision⟩)) := by
  obtain ⟨run, hcheck⟩ := checked.run
  obtain ⟨s₀, s₁, s₂, s₃, s₄, hes⟩ : ∃ s₀ s₁ s₂ s₃ s₄,
      (coordinatorTrace sampleSetup (inputs ++ [input])).1 = _ := exists_events
  rw [hes] at run hcheck
  obtain ⟨hcommitted, hholds⟩ := Bool.and_eq_true_iff.mp hcheck
  have committed := of_decide_eq_true hcommitted
  simp only [List.getElem?_cons_succ, List.getElem?_cons_zero, Option.map_some,
    Option.some.injEq] at committed
  simp only [List.getElem?_cons_succ, List.getElem?_cons_zero, Option.any_some] at hholds
  obtain ⟨record, held⟩ := exists_of_holdsReply hholds
  refine ((replay_idempotent run (between_events _ _ _ _ _ _) rfl committed rfl).1 ?_
    (not_expires _ le_rfl)).1 rfl |>.replayed rfl |>.1
  simp only [List.forall_mem_cons, List.not_mem_nil, false_implies, implies_true, and_true]
  refine ⟨⟨not_expires _ (by decide), fun h => ?_⟩, ⟨not_expires _ (by decide), fun h => ?_⟩,
    not_expires _ (by decide), fun h => h.2.2 _ held⟩
  all_goals exact absurd h.1 (by simp [System.event, CoordinatorOperation.changes])

end MarketSupport
