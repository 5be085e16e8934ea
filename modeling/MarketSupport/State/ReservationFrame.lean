import MarketSupport.State.RootInvariant

/-!
# Held reservations

A reservation adds an issued record, a pending entry and a revision to the root. What the
operations on other conversations compute commutes with the addition, as long as no shared limit
counts it.

## Main results

* `published_withHold` — a publication keeps the reservation.
* `cleanupCandidate_withHold`, `reserveReplyCandidate_withHold`, `abortReplyCandidate_withHold`,
  `commitReplyCandidate_withHold`, `prepareFeedbackCandidate_withHold`,
  `commitFeedbackCandidate_withHold` — the candidates of other conversations keep it.
-/

namespace MarketSupport

open Library

/-- A reservation with the revision of its conversation. -/
structure Hold where
  pending : PendingIssuedResponseRecordV1
  revision : StateRevisionRecordV1

def Hold.key (hold : Hold) : RecordKey := ⟨hold.pending.stateKey, hold.pending.requestId⟩

/-- The root with a reservation in it, or without one, at another root revision. -/
def withHold (hold : Option Hold) (rootRevision : ℕ) (orders : RootOrders)
    (root : CoordinatorStateRootV1) : CoordinatorStateRootV1 :=
  { root with
    rootRevision := rootRevision
    issuedRecords := root.issuedRecords.withEntry (hold.map fun h => (h.key, .pending h.pending))
    pendingRequestByState :=
      root.pendingRequestByState.withEntry (hold.map fun h => (h.pending.stateKey, h.key))
    stateRevisions :=
      root.stateRevisions.withEntry (hold.map fun h => (h.pending.stateKey, h.revision))
    orders := orders }

/-- The reservation is one of another conversation. -/
def Apart (hold : Option Hold) (k : ConversationStateKey) : Prop :=
  ∀ h ∈ hold, k ≠ h.pending.stateKey

/-- The root has nothing where the reservation goes. -/
structure Vacant (hold : Hold) (root : CoordinatorStateRootV1) : Prop where
  absent : root.issuedRecords.get hold.key = none
  idle : root.pendingRequestByState.get hold.pending.stateKey = none

variable {hold : Option Hold} {n : ℕ} {o : RootOrders} {root : CoordinatorStateRootV1}
  {k : ConversationStateKey}

/-! ## Lookups -/

section

variable (hold n o root)

@[simp] theorem withHold_rootRevision : (withHold hold n o root).rootRevision = n := rfl
@[simp] theorem withHold_feedbackReceipts :
    (withHold hold n o root).feedbackReceipts = root.feedbackReceipts := rfl
@[simp] theorem withHold_preparedFeedbackTokens :
    (withHold hold n o root).preparedFeedbackTokens = root.preparedFeedbackTokens := rfl
@[simp] theorem withHold_responseIndex :
    (withHold hold n o root).responseIndex = root.responseIndex := rfl
@[simp] theorem withHold_actionIndex :
    (withHold hold n o root).actionIndex = root.actionIndex := rfl
@[simp] theorem withHold_conversationTurns :
    (withHold hold n o root).conversationTurns = root.conversationTurns := rfl
@[simp] theorem withHold_clarificationRecords :
    (withHold hold n o root).clarificationRecords = root.clarificationRecords := rfl
@[simp] theorem withHold_auditRecords :
    (withHold hold n o root).auditRecords = root.auditRecords := rfl
@[simp] theorem withHold_actionLedgerRecords :
    (withHold hold n o root).actionLedgerRecords = root.actionLedgerRecords := rfl

end

theorem Apart.issued (h : Apart hold k) (ident : String) :
    ∀ e ∈ hold.map fun h => (h.key, IssuedResponseRecordV1.pending h.pending),
      ⟨k, ident⟩ ≠ e.1 := by
  rintro e he
  obtain ⟨held, hheld, rfl⟩ := Option.mem_map.mp he
  exact fun hkey => h held hheld (congrArg RecordKey.stateKey hkey)

theorem Apart.entry {V : Type} (h : Apart hold k) (v : Hold → V) :
    ∀ e ∈ hold.map fun h => (h.pending.stateKey, v h), k ≠ e.1 := by
  rintro e he
  obtain ⟨held, hheld, rfl⟩ := Option.mem_map.mp he
  exact h held hheld

section

variable (apart : Apart hold k)

include apart

theorem get_issuedRecords_withHold (ident : String) :
    (withHold hold n o root).issuedRecords.get ⟨k, ident⟩ = root.issuedRecords.get ⟨k, ident⟩ :=
  FrozenMap.get_withEntry_of_ne (apart.issued ident)

theorem get_pendingRequestByState_withHold :
    (withHold hold n o root).pendingRequestByState.get k = root.pendingRequestByState.get k :=
  FrozenMap.get_withEntry_of_ne (apart.entry _)

theorem get_stateRevisions_withHold :
    (withHold hold n o root).stateRevisions.get k = root.stateRevisions.get k :=
  FrozenMap.get_withEntry_of_ne (apart.entry _)

/-- A response of another conversation is found as before. -/
theorem lookup_withHold (responseId : String) :
    lookup (withHold hold n o root) k responseId = lookup root k responseId := by
  unfold lookup
  rw [withHold_responseIndex]
  cases root.responseIndex.get responseId with
  | none => rfl
  | some indexed =>
    by_cases hkey : indexed.stateKey = k
    · obtain ⟨_, ident⟩ := indexed
      cases hkey
      simp only [get_issuedRecords_withHold apart]
    · simp only [ne_eq, hkey, not_false_eq_true, if_true]

end

/-! ## Publications -/

theorem pinned_withHold : Pinned (withHold hold n o root) k ↔
    Pinned root k ∨ ∃ h ∈ hold, h.pending.stateKey = k := by
  constructor
  · intro h
    cases h with
    | turns h => exact .inl (.turns h)
    | clarification h => exact .inl (.clarification h)
    | issued h =>
      cases hold with
      | none => exact .inl (.issued h)
      | some held =>
        simp only [withHold, Option.map_some, FrozenMap.withEntry_some, FrozenMap.get_insert] at h
        split_ifs at h with hkey
        · exact .inr ⟨held, rfl, (congrArg RecordKey.stateKey hkey).symm⟩
        · exact .inl (.issued h)
    | receipt h => exact .inl (.receipt h)
    | token h => exact .inl (.token h)
    | ledger h => exact .inl (.ledger h)
    | audit h => exact .inl (.audit h)
  · rintro (h | ⟨held, rfl, rfl⟩)
    · refine h.mono { issued := fun {ident v} hv => ?_ }
      exact FrozenMap.contains_iff.mp
        (FrozenMap.contains_withEntry (FrozenMap.contains_iff.mpr ⟨v, hv⟩))
    · exact .issued (FrozenMap.get_insert_self ..)

/-- Pruning keeps the revision of the reservation. -/
theorem withoutUnpinnedRevisions_withHold : withoutUnpinnedRevisions (withHold hold n o root) =
    withHold hold n o (withoutUnpinnedRevisions root) := by
  have hrev : (withoutUnpinnedRevisions (withHold hold n o root)).stateRevisions =
      (withHold hold n o (withoutUnpinnedRevisions root)).stateRevisions := by
    refine FrozenMap.ext_get fun k => ?_
    have hpin : k ∈ pinnedStateKeys (withHold hold n o root) ↔
        k ∈ pinnedStateKeys root ∨ ∃ h ∈ hold, h.pending.stateKey = k := by
      rw [mem_pinnedStateKeys, mem_pinnedStateKeys, pinned_withHold]
    rw [get_withoutUnpinnedRevisions]
    by_cases hk : ∃ h ∈ hold, h.pending.stateKey = k
    · rw [if_pos (hpin.mpr (.inr hk))]
      obtain ⟨held, rfl, rfl⟩ := hk
      exact (FrozenMap.get_insert_self ..).trans (FrozenMap.get_insert_self ..).symm
    · have apart : Apart hold k := fun h hh he => hk ⟨h, hh, he.symm⟩
      rw [or_iff_left hk] at hpin
      rw [get_stateRevisions_withHold apart, get_stateRevisions_withHold apart,
        get_withoutUnpinnedRevisions]
      exact if_congr hpin rfl rfl
  exact CoordinatorStateRootV1.mk.injEq .. ▸
    ⟨rfl, rfl, rfl, rfl, rfl, hrev, rfl, rfl, rfl, rfl, rfl, rfl, rfl⟩

/-- A publication keeps the reservation. -/
theorem published_withHold : published (withHold hold n o root) =
    withHold hold n (published (withHold hold n o root)).orders (published root) := by
  have hprune : withoutUnpinnedRevisions
      (withHold hold n o (enforceInactiveRecordCapacities root)) =
      withHold hold n o (withoutUnpinnedRevisions (enforceInactiveRecordCapacities root)) :=
    withoutUnpinnedRevisions_withHold
  have hledger : enforceInactiveRecordCapacities (withHold hold n o root) =
      withHold hold n o (enforceInactiveRecordCapacities root) := rfl
  unfold published
  rw [hledger, hprune]
  rfl

/-! ## Cleanups -/

section

variable {K V : Type} [LinearOrder K] {m : FrozenMap K V} {entry : Option (K × V)}

theorem keysWhere_eq_keys (m : FrozenMap K V) (p : V → Bool) :
    keysWhere m p = (m.restrict fun _ v => p v).keys := by
  simp only [keysWhere, FrozenMap.keys, FrozenMap.restrict, FrozenMap.filterMap]
  induction m.entries with
  | nil => rfl
  | cons e es ih => by_cases he : p e.2 <;> simp [he, ih]

/-- A new entry of which `p` is false is no such key. -/
theorem keysWhere_withEntry {p : V → Bool} (h : ∀ e ∈ entry, p e.2 = false)
    (new : ∀ e ∈ entry, m.get e.1 = none) :
    keysWhere (m.withEntry entry) p = keysWhere m p := by
  rw [keysWhere_eq_keys, keysWhere_eq_keys]
  refine congrArg FrozenMap.keys (FrozenMap.filterMap_withEntry_of_none (fun e he => ?_) new)
  simp [h e he]

theorem any_values_eq (m : FrozenMap K V) (p : V → Bool) :
    m.values.any p = !(keysWhere m p).isEmpty := by
  simp only [FrozenMap.values, keysWhere]
  induction m.entries with
  | nil => rfl
  | cons e es ih =>
    rw [List.map_cons, List.any_cons, ih]
    by_cases he : p e.2 <;> simp [he]

end

section

variable {config : CoordinatorConfigV1} {mono epoch : ℤ}
  (vacant : ∀ h ∈ hold, Vacant h root) (alive : ∀ h ∈ hold, mono < h.pending.expiresAtMonotonicNs)

include vacant

theorem Vacant.newIssued : ∀ e ∈ hold.map fun h =>
    (h.key, IssuedResponseRecordV1.pending h.pending),
    root.issuedRecords.get e.1 = none := by
  rintro e he
  obtain ⟨held, hheld, rfl⟩ := Option.mem_map.mp he
  exact (vacant held hheld).absent

theorem Vacant.newPending : ∀ e ∈ hold.map fun h => (h.pending.stateKey, h.key),
    root.pendingRequestByState.get e.1 = none := by
  rintro e he
  obtain ⟨held, hheld, rfl⟩ := Option.mem_map.mp he
  exact (vacant held hheld).idle

/-- Complete records do not see a reservation. -/
theorem completeRecords_withHold :
    completeRecords (withHold hold n o root).issuedRecords =
      completeRecords root.issuedRecords := by
  refine FrozenMap.filterMap_withEntry_of_none (fun e he => ?_) (Vacant.newIssued vacant)
  obtain ⟨held, hheld, rfl⟩ := Option.mem_map.mp he
  rfl

include alive

theorem expiredKeys_withHold :
    expiredKeys config (withHold hold n o root) mono epoch =
      expiredKeys config root mono epoch := by
  have hrecords : keysWhere (withHold hold n o root).issuedRecords
      (fun record => record.expiresAtMonotonicNs ≤ mono) =
      keysWhere root.issuedRecords (fun record => record.expiresAtMonotonicNs ≤ mono) := by
    refine keysWhere_withEntry (fun e he => ?_) (Vacant.newIssued vacant)
    obtain ⟨held, hheld, rfl⟩ := Option.mem_map.mp he
    exact decide_eq_false (alive held hheld).not_ge
  have hchanged : (withHold hold n o root).issuedRecords.values.any (fun record =>
      mono < record.expiresAtMonotonicNs &&
        record.complete?.any (fun r => (retainedReceipts mono r).receipts ≠ r.receipts)) =
      root.issuedRecords.values.any (fun record => mono < record.expiresAtMonotonicNs &&
        record.complete?.any (fun r => (retainedReceipts mono r).receipts ≠ r.receipts)) := by
    rw [any_values_eq, any_values_eq]
    refine congrArg (fun l => !List.isEmpty l)
      (keysWhere_withEntry (fun e he => ?_) (Vacant.newIssued vacant))
    obtain ⟨held, hheld, rfl⟩ := Option.mem_map.mp he
    simp [IssuedResponseRecordV1.complete?]
  simp only [expiredKeys]
  rw [hrecords, hchanged]
  rfl

theorem withoutExpired_withHold : withoutExpired config (withHold hold n o root) mono epoch =
    withHold hold (n + 1) o (withoutExpired config root mono epoch) := by
  have hissued : (withHold hold n o root).issuedRecords.filterMap
      (fun _ r => retainedIssuedRecord mono r) =
      (root.issuedRecords.filterMap (fun _ r => retainedIssuedRecord mono r)).withEntry
        (hold.map fun h => (h.key, .pending h.pending)) := by
    refine FrozenMap.filterMap_withEntry fun e he => ?_
    obtain ⟨held, hheld, rfl⟩ := Option.mem_map.mp he
    exact if_neg (alive held hheld).not_ge
  have hpending : (withHold hold n o root).pendingRequestByState.withoutKeys
      (keysWhere (withHold hold n o root).pendingRequestByState
        (fun key => key ∈ (expiredKeys config root mono epoch).records)) =
      (root.pendingRequestByState.withoutKeys (keysWhere root.pendingRequestByState
        (fun key => key ∈ (expiredKeys config root mono epoch).records))).withEntry
        (hold.map fun h => (h.pending.stateKey, h.key)) := by
    have hkeys := keysWhere_withEntry (p := fun key =>
      decide (key ∈ (expiredKeys config root mono epoch).records)) (fun e he => ?_)
      (Vacant.newPending vacant)
    · simp only [withHold] at hkeys ⊢
      rw [hkeys]
      refine FrozenMap.withoutKeys_withEntry fun e he hmem => ?_
      obtain ⟨v, hv, _⟩ := mem_keysWhere.mp hmem
      rw [Vacant.newPending vacant e he] at hv
      cases hv
    · obtain ⟨held, hheld, rfl⟩ := Option.mem_map.mp he
      refine decide_eq_false fun hmem => ?_
      obtain ⟨v, hv, _⟩ : ∃ v, root.issuedRecords.get held.key = some v ∧
          decide (v.expiresAtMonotonicNs ≤ mono) = true := mem_keysWhere.mp hmem
      rw [(vacant held hheld).absent] at hv
      cases hv
  unfold withoutExpired
  simp only [expiredKeys_withHold vacant alive, expiredCompleteRecords,
    completeRecords_withHold vacant]
  rw [hissued, hpending]
  rfl

/-- A cleanup before the reservation expires finds the same entries expired. -/
theorem cleanupCandidate_withHold : cleanupCandidate config (withHold hold n o root) mono epoch =
    (cleanupCandidate config root mono epoch).map (Option.map (withHold hold (n + 1) o)) id := by
  unfold cleanupCandidate
  simp only [expiredKeys_withHold vacant alive]
  split_ifs
  · rfl
  · rw [withoutExpired_withHold vacant alive, withoutUnpinnedRevisions_withHold]
    rfl

end

/-! ## Candidates of other conversations -/

section

variable {config : CoordinatorConfigV1} {sha256 : Sha256} (apart : Apart hold k)

include apart

theorem existingReservationResult_withHold (requestId requestHash : String)
    (replayEligible : Bool) :
    existingReservationResult (withHold hold n o root) k requestId requestHash replayEligible =
      existingReservationResult root k requestId requestHash replayEligible := by
  unfold existingReservationResult FrozenMap.contains
  rw [get_issuedRecords_withHold apart, get_pendingRequestByState_withHold apart]

theorem withReservation_withHold (requestId requestHash : String) (replayEligible : Bool)
    (readings : ReserveReadings) :
    withReservation config (withHold hold n o root) k requestId requestHash
      replayEligible readings =
      withHold hold (n + 1) o
        (withReservation config root k requestId requestHash replayEligible readings) := by
  have hrevision : reservedRevision config (withHold hold n o root) k readings =
      reservedRevision config root k readings := by
    rw [reservedRevision, get_stateRevisions_withHold apart, reservedRevision]
  unfold withReservation
  rw [hrevision]
  exact CoordinatorStateRootV1.mk.injEq .. ▸ ⟨rfl, FrozenMap.insert_withEntry _ (apart.issued _),
    FrozenMap.insert_withEntry _ (apart.entry _), rfl, rfl,
    FrozenMap.insert_withEntry _ (apart.entry _), rfl, rfl, rfl, rfl, rfl, rfl, rfl⟩

theorem reserveReplyCandidate_withHold (requestId requestHash : String) (replayEligible : Bool)
    (readings : ReserveReadings) :
    reserveReplyCandidate config (withHold hold n o root) k requestId requestHash replayEligible
        readings =
      (reserveReplyCandidate config root k requestId requestHash replayEligible readings).map
        (Prod.map (Option.map (withHold hold (n + 1) o)) id) := by
  have hrevision : reservedRevision config (withHold hold n o root) k readings =
      reservedRevision config root k readings := by
    rw [reservedRevision, get_stateRevisions_withHold apart, reservedRevision]
  unfold reserveReplyCandidate
  rw [existingReservationResult_withHold apart, withReservation_withHold apart, hrevision]
  rcases existingReservationResult root k requestId requestHash replayEligible
    with _ | _ | _ <;> rfl

theorem withoutReservation_withHold (requestId : String) :
    withoutReservation (withHold hold n o root) k requestId =
      withHold hold (n + 1) o (withoutReservation root k requestId) := by
  refine CoordinatorStateRootV1.mk.injEq .. ▸ ⟨rfl, FrozenMap.withoutKeys_withEntry fun e he => ?_,
    FrozenMap.withoutKeys_withEntry fun e he => ?_, rfl, rfl, rfl, rfl, rfl, rfl, rfl,
      rfl, rfl, rfl⟩
  · exact fun hmem => apart.issued _ e he (List.mem_singleton.mp hmem).symm
  · exact fun hmem => apart.entry _ e he (List.mem_singleton.mp hmem).symm

theorem abortReplyCandidate_withHold (requestId : String) (ownerToken : Bytes) :
    abortReplyCandidate (withHold hold n o root) k requestId ownerToken =
      (abortReplyCandidate root k requestId ownerToken).map (withHold hold (n + 1) o) := by
  have hroot : withoutReservation (withHold hold n o root) k requestId =
      withHold hold (n + 1) o (withoutReservation root k requestId) :=
    withoutReservation_withHold apart requestId
  unfold withoutReservation at hroot
  unfold abortReplyCandidate
  rw [get_issuedRecords_withHold apart]
  rcases root.issuedRecords.get ⟨k, requestId⟩ with _ | pending | complete
  · rfl
  · simp only
    split_ifs
    · rfl
    · exact congrArg Except.ok hroot
  · rfl

theorem resolveFeedbackRecord_withHold (feedback : ActionFeedbackRequestV2) :
    resolveFeedbackRecord (withHold hold n o root) k feedback =
      resolveFeedbackRecord root k feedback := by
  unfold resolveFeedbackRecord
  rw [lookup_withHold apart]

theorem prepareFeedbackCandidate_withHold (feedback : ActionFeedbackRequestV2)
    (record : CompleteIssuedResponseRecordV1) (readings : PrepareReadings) :
    prepareFeedbackCandidate config sha256 (withHold hold n o root) k feedback record readings =
      (prepareFeedbackCandidate config sha256 root k feedback record readings).map
        (Prod.map (Option.map (withHold hold (n + 1) o)) id) := by
  have hrevision : (withHold hold n o root).stateRevisions.get k = root.stateRevisions.get k :=
    get_stateRevisions_withHold apart
  rcases hreceipt : root.feedbackReceipts.get ⟨k, feedback.feedbackId⟩ with _ | receipt
  · rcases htoken : root.preparedFeedbackTokens.get ⟨k, feedback.feedbackId⟩ with _ | existing
    · by_cases hfull : config.issuedResponseCapacity ≤ root.preparedFeedbackTokens.size
      · simp [prepareFeedbackCandidate, hreceipt, htoken, hfull, Except.map]
      · simp only [prepareFeedbackCandidate, withHold_feedbackReceipts, hreceipt,
          withHold_preparedFeedbackTokens, htoken, hfull, if_false, hrevision]
        rcases root.stateRevisions.get k with _ | revision
        · rfl
        · rcases prepareEffectTransitions record feedback with _ | transitions <;> rfl
    · simp only [prepareFeedbackCandidate, withHold_feedbackReceipts, hreceipt,
        withHold_preparedFeedbackTokens, htoken]
      split_ifs <;> rfl
  · simp only [prepareFeedbackCandidate, withHold_feedbackReceipts, hreceipt]
    split_ifs <;> rfl

end

section

variable {config : CoordinatorConfigV1} {sha256 : Sha256} {prepared : PreparedFeedbackV1}
  (apart : Apart hold prepared.stateKey)

include apart

theorem feedbackCommitInputs_withHold (now : ℤ) :
    feedbackCommitInputs (withHold hold n o root) prepared now =
      feedbackCommitInputs root prepared now := by
  unfold feedbackCommitInputs
  rw [lookup_withHold apart, get_stateRevisions_withHold apart]
  rfl

theorem commitFeedbackCandidate_withHold (mono epoch : ℤ) :
    commitFeedbackCandidate config sha256 (withHold hold n o root) prepared mono epoch =
      (commitFeedbackCandidate config sha256 root prepared mono epoch).map
        (Prod.map (withHold hold (n + 1) o) id) := by
  unfold commitFeedbackCandidate
  rw [feedbackCommitInputs_withHold apart]
  rcases feedbackCommitInputs root prepared mono with _ | ⟨record, revision⟩
  · rfl
  · by_cases hfull : receiptsPerRecord ≤ record.receipts.length ∨
        config.feedbackReceiptCapacity ≤ root.feedbackReceipts.size
    · simp [hfull, Except.map]
    · simp only [withHold_feedbackReceipts, hfull, if_false]
      have hroot : withCommittedFeedback config sha256 (withHold hold n o root) prepared record
          revision mono epoch = withHold hold (n + 1) o
            (withCommittedFeedback config sha256 root prepared record revision mono epoch) :=
        CoordinatorStateRootV1.mk.injEq .. ▸ ⟨rfl, FrozenMap.insert_withEntry _ (apart.issued _),
          rfl, rfl, rfl, FrozenMap.insert_withEntry _ (apart.entry _), rfl, rfl, rfl, rfl, rfl, rfl,
          rfl⟩
      rw [hroot]
      rfl

end

/-- Committed replies of another conversation keep the reservation, before sessions make room. -/
theorem withCommittedReply_withHold {config : CoordinatorConfigV1} {sha256 : Sha256}
    {proposal : ReplyCommitProposalV1} (apart : Apart hold proposal.stateKey)
    (revision : StateRevisionRecordV1) (response : ReplyResponse) (audit : AuditRecordV1)
    (mono epoch : ℤ) :
    withCommittedReply config sha256 (withHold hold n o root) proposal revision response audit mono
        epoch =
      withHold hold (n + 1) o
        (withCommittedReply config sha256 root proposal revision response audit mono epoch) := by
  refine CoordinatorStateRootV1.mk.injEq .. ▸ ⟨rfl, FrozenMap.insert_withEntry _ (apart.issued _),
    FrozenMap.withoutKeys_withEntry fun e he => ?_, rfl, rfl,
    FrozenMap.insert_withEntry _ (apart.entry _), rfl, rfl, rfl, rfl, rfl, rfl, rfl⟩
  exact fun hmem => apart.entry _ e he (List.mem_singleton.mp hmem).symm

end MarketSupport
