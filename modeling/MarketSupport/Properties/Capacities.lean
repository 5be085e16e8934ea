import MarketSupport.State.RootInvariant

/-!
# Capacities

Every store of the root has a capacity. The issued records make room before a reservation,
sessions and audit records inside a commit, ledger rows on publication, and feedback is
refused when it finds no room. State revisions are kept for exactly the conversations that
own an entry.

## Main results

* `RootStep.storeBounds` — every publication keeps the capacities of the other stores.
* `runOperation_issuedRecords` — every operation keeps the capacity of the issued records.
* `capacities` — all bounds, and the keys of the state revisions, in every reachable root.
-/

namespace MarketSupport

open Library

variable {setup : CoordinatorSetup} {config : CoordinatorConfigV1} {root : CoordinatorStateRootV1}

/-! ## Stores other than the issued records -/

/-- The capacities that every candidate keeps. -/
structure StoreBounds (config : CoordinatorConfigV1) (root : CoordinatorStateRootV1) : Prop where
  sessions : (sessionsOf root).length ≤ config.conversationMaxSessions
  audits : root.auditRecords.size ≤ config.conversationMaxSessions
  tokens : root.preparedFeedbackTokens.size ≤ config.issuedResponseCapacity
  receipts : root.feedbackReceipts.size ≤ config.feedbackReceiptCapacity
  turns : ∀ {k turns}, root.conversationTurns.get k = some turns →
    turns.length ≤ config.conversationMaxMessages

theorem StoreBounds.empty (config : CoordinatorConfigV1) :
    StoreBounds config emptyCoordinatorRoot where
  sessions := Nat.zero_le _
  audits := Nat.zero_le _
  tokens := Nat.zero_le _
  receipts := Nat.zero_le _
  turns h := by simp [emptyCoordinatorRoot] at h

theorem length_lastMessages {α : Type} {n : ℕ} (hn : 1 ≤ n) (l : List α) :
    (lastMessages n l).length ≤ n := by
  rw [lastMessages, if_neg (by omega), List.length_drop]
  omega

theorem length_sessionsOf_le {a b : CoordinatorStateRootV1}
    (turns : ∀ {k v}, a.conversationTurns.get k = some v → ∃ w, b.conversationTurns.get k = some w)
    (clarifications : ∀ {k v}, a.clarificationRecords.get k = some v →
      ∃ w, b.clarificationRecords.get k = some w) :
    (sessionsOf a).length ≤ (sessionsOf b).length := by
  refine (List.subperm_of_subset nodup_sessionKeys fun k hk => ?_).length_le
  simp only [sessionsOf, mem_sessionKeys] at hk ⊢
  exact hk.imp (fun ⟨_, hv⟩ => turns hv) (fun ⟨_, hv⟩ => clarifications hv)

/-- Making room leaves a place for one more audit record. -/
theorem size_auditRecordsWithRoom {capacity : ℕ} {audits : FrozenMap RecordKey AuditRecordV1}
    (pos : 1 ≤ capacity) (h : audits.size ≤ capacity) :
    (auditRecordsWithRoom capacity audits).size < capacity := by
  unfold auditRecordsWithRoom
  split_ifs with hroom
  · exact hroom
  · split
    · next hnone =>
      rw [List.argmin_eq_none] at hnone
      rw [FrozenMap.size, hnone, List.length_nil] at hroom
      omega
    · next victim record hvictim =>
      have hget := FrozenMap.get_eq_some_iff.mpr (List.argmin_mem hvictim)
      exact (FrozenMap.size_withoutKeys_lt (List.mem_singleton_self _) hget).trans_le h

theorem StoreBounds.withoutExpired (h : StoreBounds config root)
    (pos : 1 ≤ config.conversationMaxMessages)
    (mono epoch : ℤ) : StoreBounds config (withoutExpired config root mono epoch) where
  sessions := by
    refine (length_sessionsOf_le (fun hv => ?_) (fun hv => ?_)).trans h.sessions
    · obtain ⟨before, hbefore, _⟩ := get_withoutExpired_turns.mp hv
      exact ⟨before, hbefore⟩
    · exact ⟨_, (get_withoutExpired_clarifications.mp hv).1⟩
  audits := (FrozenMap.size_withoutKeys_le _ _).trans h.audits
  tokens := (FrozenMap.size_withoutKeys_le _ _).trans h.tokens
  receipts := (FrozenMap.size_withoutKeys_le _ _).trans h.receipts
  turns hv := by
    obtain ⟨before, _, rfl, _⟩ := get_withoutExpired_turns.mp hv
    exact length_lastMessages pos _

theorem StoreBounds.committedRoot (h : StoreBounds setup.config root)
    {proposal : ReplyCommitProposalV1} {readings : CommitReadings}
    {revision : StateRevisionRecordV1} {audit : AuditRecordV1} {victims : List ConversationStateKey}
    (sessions : (sessionsOf (committedRoot setup root proposal readings revision audit
      victims)).length ≤ setup.config.conversationMaxSessions) :
    StoreBounds setup.config
      (committedRoot setup root proposal readings revision audit victims) where
  sessions := sessions
  audits := (FrozenMap.size_insert_le _ _ _).trans
    (size_auditRecordsWithRoom setup.accepted.sessions_pos h.audits)
  tokens := h.tokens
  receipts := h.receipts
  turns {k turns} hv := by
    have hinserted := (FrozenMap.get_withoutKeys_eq_some.mp hv).1
    simp only [withCommittedReply, FrozenMap.get_insert] at hinserted
    split_ifs at hinserted
    · cases hinserted
      exact length_lastMessages setup.accepted.messages_pos _
    · exact h.turns hinserted

/-- Every publication keeps the capacities of the stores. -/
theorem RootStep.storeBounds {root' : CoordinatorStateRootV1} {change : Change}
    (step : RootStep setup root change root') (h : StoreBounds setup.config root) :
    StoreBounds setup.config root' := by
  -- Publication changes none of these stores.
  have hpublished : ∀ {candidate}, StoreBounds setup.config candidate →
      StoreBounds setup.config (published candidate) :=
    fun h => ⟨h.sessions, h.audits, h.tokens, h.receipts, h.turns⟩
  have hframe : ∀ {candidate : CoordinatorStateRootV1},
      candidate.conversationTurns = root.conversationTurns →
      candidate.clarificationRecords = root.clarificationRecords →
      candidate.auditRecords = root.auditRecords →
      candidate.preparedFeedbackTokens.size ≤ setup.config.issuedResponseCapacity →
      candidate.feedbackReceipts.size ≤ setup.config.feedbackReceiptCapacity →
      StoreBounds setup.config candidate := by
    intro candidate hturns hclarifications haudits htokens hreceipts
    refine ⟨?_, haudits ▸ h.audits, htokens, hreceipts, hturns ▸ h.turns⟩
    rw [sessionsOf, hturns, hclarifications]
    exact h.sessions
  cases step with
  | cleanup mono epoch => exact hpublished (h.withoutExpired setup.accepted.messages_pos mono epoch)
  | evict | reserve | abort => exact hpublished (hframe rfl rfl rfl h.tokens h.receipts)
  | commit _ _ _ _ _ sessions => exact hpublished (h.committedRoot sessions)
  | prepare _ room =>
    exact hpublished (hframe rfl rfl rfl ((FrozenMap.size_insert_le _ _ _).trans room) h.receipts)
  | commitFeedback _ _ capacity =>
    exact hpublished (hframe rfl rfl rfl ((FrozenMap.size_withoutKeys_le _ _).trans h.tokens)
      ((FrozenMap.size_insert_le _ _ _).trans capacity))
  | drop =>
    exact hpublished (hframe rfl rfl rfl ((FrozenMap.size_withoutKeys_le _ _).trans h.tokens)
      h.receipts)

/-! ## What publication enforces -/

/-- With a turn of the loop for every row, the ledger ends within its capacity. -/
theorem trimLedger_size {capacity fuel : ℕ} {ledger : ActionLedgerRecords}
    (hfuel : ledger.size ≤ fuel) : (trimLedger capacity fuel ledger).size ≤ capacity := by
  induction fuel generalizing ledger with
  | zero => exact hfuel.trans (Nat.zero_le _)
  | succ fuel ih =>
    unfold trimLedger
    split_ifs with hsize
    · exact hsize
    · split
      · next hnone =>
        rw [List.argmin_eq_none] at hnone
        simp [FrozenMap.size, hnone] at hsize
      · next victim row hvictim =>
        have hget := FrozenMap.get_eq_some_iff.mpr (List.argmin_mem hvictim)
        have hless := FrozenMap.size_withoutKeys_lt (List.mem_singleton_self victim) hget
        exact ih (by omega)

/-- What holds of a root because it was published. -/
structure Trimmed (root : CoordinatorStateRootV1) : Prop where
  ledger : root.actionLedgerRecords.size ≤ actionLedgerCapacity
  revisions : ∀ {k revision}, root.stateRevisions.get k = some revision → Pinned root k

theorem Trimmed.empty : Trimmed emptyCoordinatorRoot where
  ledger := Nat.zero_le _
  revisions h := by simp [emptyCoordinatorRoot] at h

theorem Trimmed.published (candidate : CoordinatorStateRootV1) : Trimmed (published candidate) where
  ledger := trimLedger_size le_rfl
  revisions h := (published_stateRevisions_sub h).2

theorem RootStep.trimmed {root' : CoordinatorStateRootV1} {change : Change}
    (step : RootStep setup root change root') : Trimmed root' := by
  cases step <;> exact .published _

/-! ## Issued records -/

/-- Only a reservation adds an issued record. -/
theorem RootStep.issuedRecords_size {root' : CoordinatorStateRootV1} {change : Change}
    (step : RootStep setup root change root') (inv : RootInvariant root)
    (guarded : Guarded genuineGuard root change)
    (noReserve : ∀ k requestId requestHash replayEligible readings,
      change ≠ .reserve k requestId requestHash replayEligible readings) :
    root'.issuedRecords.size ≤ root.issuedRecords.size := by
  cases step with
  | cleanup => exact FrozenMap.size_filterMap_le _ _
  | evict | abort => exact FrozenMap.size_withoutKeys_le _ _
  | reserve => exact absurd rfl (noReserve _ _ _ _ _)
  | commit admitted => exact FrozenMap.size_insert_of_get _ admitted.reserved
  | commitFeedback admitted =>
    exact FrozenMap.size_insert_of_get _ (inv.feedbackTarget admitted guarded).1
  | prepare | drop => exact le_rfl

variable {draws : OperationDraws} {c c' : Coordinator}

/-- The eviction of `reserve_reply` leaves a place for one more record. -/
theorem publishEviction_room (h : publishEviction setup draws c = (.ok (), c'))
    (bounded : c.root.issuedRecords.size ≤ setup.config.issuedResponseCapacity) :
    c'.root.issuedRecords.size < setup.config.issuedResponseCapacity := by
  unfold publishEviction issuedCapacityEvictionCandidate at h
  split_ifs at h with hroom
  · cases h
    exact hroom
  · cases hvictim : issuedEvictionVictim c.root with
    | none => simp [hvictim] at h
    | some entry =>
      obtain ⟨key, record⟩ := entry
      simp only [hvictim] at h
      rw [publish_ok h]
      exact (FrozenMap.size_withoutKeys_lt (List.mem_singleton_self key)
        (issuedEvictionVictim_get hvictim)).trans_le bounded

/-- The root keeps to the capacity of issued records, and its indexes to the root invariant. -/
structure IssuedBound (config : CoordinatorConfigV1) (root : CoordinatorStateRootV1) : Prop where
  inv : RootInvariant root
  bounded : root.issuedRecords.size ≤ config.issuedResponseCapacity

theorem IssuedBound.follows {allowed : List Change} {root' : CoordinatorStateRootV1}
    (h : IssuedBound setup.config root) (hf : Follows setup allowed root root')
    (guarded : ∀ r change, change ∈ allowed → Guarded genuineGuard r change)
    (noReserve : ∀ k requestId requestHash replayEligible readings,
      .reserve k requestId requestHash replayEligible readings ∉ allowed) :
    IssuedBound setup.config root' := by
  refine hf.invariant h fun r r' change hmem hr step => ⟨?_, ?_⟩
  · exact step.rootInvariant hr.inv (guarded r change hmem)
  · refine (step.issuedRecords_size hr.inv (guarded r change hmem) ?_).trans hr.bounded
    rintro k requestId requestHash replayEligible readings rfl
    exact noReserve _ _ _ _ _ hmem

theorem IssuedBound.afterCleanup (h : IssuedBound setup.config c.root) :
    IssuedBound setup.config (afterCleanup setup draws c).root :=
  h.follows afterCleanup_follows (by simp [Guarded]) (by simp)

/-- Every operation keeps the capacity of the issued records. -/
theorem runOperation_issuedRecords {operation : CoordinatorOperation}
    (h : IssuedBound setup.config c.root) (holds : genuineGuard.Holds setup operation draws c) :
    IssuedBound setup.config (runOperation setup operation draws c).2.root := by
  cases operation with
  | reserveReply k requestId requestHash replayEligible =>
    rcases hx : reserveReply setup k requestId requestHash replayEligible draws c with ⟨result, c'⟩
    have hroot : (runOperation setup (.reserveReply k requestId requestHash replayEligible) draws
        c).2.root = c'.root := by
      simp [runOperation, outcome, hx]
    rw [hroot]
    have hclean : IssuedBound setup.config (afterCleanup setup draws c).root := h.afterCleanup
    obtain ⟨_, hf⟩ | ⟨_, _, _, hsame⟩ | ⟨evicted, _, heviction, step⟩ := reserveReply_cases hx
    · exact hclean.follows hf (by simp [Guarded]) (by simp)
    · rwa [hsame]
    · have hevicted : IssuedBound setup.config evicted.root :=
        hclean.follows (publishEviction_follows heviction) (by simp [Guarded]) (by simp)
      refine ⟨step.rootInvariant hevicted.inv trivial, ?_⟩
      have hroom := publishEviction_room heviction hclean.bounded
      generalize c'.root = root' at step
      cases step with
      | reserve => exact (FrozenMap.size_insert_le _ _ _).trans hroom
  | abortReply | commitReply | prepareFeedback | commitFeedback | cleanup | lookupIssuedResponse |
      readTurnAdmissionSnapshot =>
    refine runOperation_invariant h holds fun r r' change hmem guarded hr step =>
      ⟨step.rootInvariant hr.inv guarded, ?_⟩
    refine (step.issuedRecords_size hr.inv guarded ?_).trans hr.bounded
    rintro _ _ _ _ _ rfl
    simp [CoordinatorOperation.changes] at hmem

theorem IssuedBound.of_run {adm : List CoordinatorEvent → CoordinatorEvent → Prop}
    {es : List CoordinatorEvent} (run : CoordinatorRun setup adm es c)
    (hadm : ∀ es e, adm es e → Admissible es e) : IssuedBound setup.config c.root := by
  refine run.invariant (P := fun _ c => IssuedBound setup.config c.root)
    ⟨.empty, Nat.zero_le _⟩ fun es c input run ok h => ?_
  exact runOperation_issuedRecords h (holds_of_admissible hadm run ok)

/-! ## Runs -/

theorem StoreBounds.of_run {adm : List CoordinatorEvent → CoordinatorEvent → Prop}
    {es : List CoordinatorEvent} (run : CoordinatorRun setup adm es c)
    (hadm : ∀ es e, adm es e → Admissible es e) : StoreBounds setup.config c.root :=
  run_root_invariant run hadm (.empty _) fun _ h step => step.storeBounds h

theorem Trimmed.of_run {adm : List CoordinatorEvent → CoordinatorEvent → Prop}
    {es : List CoordinatorEvent} (run : CoordinatorRun setup adm es c)
    (hadm : ∀ es e, adm es e → Admissible es e) : Trimmed c.root :=
  run_root_invariant run hadm .empty fun _ _ step => step.trimmed

/-- Every store of a reachable root is within its capacity, and the state revisions belong to
exactly the conversations that own an entry. -/
theorem capacities {es : List CoordinatorEvent} (run : CoordinatorRun setup Admissible es c) :
    c.root.issuedRecords.size ≤ setup.config.issuedResponseCapacity ∧
    (sessionsOf c.root).length ≤ setup.config.conversationMaxSessions ∧
    c.root.auditRecords.size ≤ setup.config.conversationMaxSessions ∧
    c.root.preparedFeedbackTokens.size ≤ setup.config.issuedResponseCapacity ∧
    c.root.feedbackReceipts.size ≤ setup.config.feedbackReceiptCapacity ∧
    c.root.actionLedgerRecords.size ≤ 5000 ∧
    (∀ k turns, c.root.conversationTurns.get k = some turns →
      turns.length ≤ setup.config.conversationMaxMessages) ∧
    ∀ k, k ∈ c.root.stateRevisions.keys ↔ k ∈ pinnedStateKeys c.root := by
  have issued := IssuedBound.of_run run fun _ _ => id
  have stores := StoreBounds.of_run run fun _ _ => id
  have trimmed := Trimmed.of_run run fun _ _ => id
  refine ⟨issued.bounded, stores.sessions, stores.audits, stores.tokens, stores.receipts,
    trimmed.ledger, fun _ _ => stores.turns, fun k => ?_⟩
  rw [FrozenMap.mem_keys_iff, mem_pinnedStateKeys]
  constructor
  · rintro ⟨revision, hrevision⟩
    exact trimmed.revisions hrevision
  · exact issued.inv.revisions

def samplePinnedChecked : CheckedTrace sampleSetup Admissible sampleInputs fun t =>
    decide (sampleKey ∈ pinnedStateKeys t.2.root) :=
  ⟨by decide +kernel⟩

/-- After the sample run the revision of the only conversation is kept. -/
theorem capacities_sample :
    sampleKey ∈ pinnedStateKeys (coordinatorTrace sampleSetup sampleInputs).2.root ∧
      sampleKey ∈ (coordinatorTrace sampleSetup sampleInputs).2.root.stateRevisions.keys := by
  obtain ⟨run, hpinned⟩ := samplePinnedChecked.run
  obtain ⟨_, _, _, _, _, _, _, hkeys⟩ := capacities run
  exact ⟨of_decide_eq_true hpinned, (hkeys sampleKey).mpr (of_decide_eq_true hpinned)⟩

end MarketSupport
