import MarketSupport.State.Ledger
import MarketSupport.State.Retention

/-!
# Reservations and admission

Reading the admission snapshot of a turn, reserving a reply, and aborting a reservation.
-/

namespace MarketSupport

open Library

/-- The revision that a state key without one gets: a fresh epoch at zero. -/
def freshRevision (config : CoordinatorConfigV1) (epoch : Bytes) (nowMonotonicNs : ℤ) :
    StateRevisionRecordV1 where
  revisionEpoch := epoch
  revision := 0
  createdAtMonotonicNs := nowMonotonicNs
  updatedAtMonotonicNs := nowMonotonicNs
  expiresAtMonotonicNs := nowMonotonicNs + config.issuedTtlNs

/-- `read_turn_admission_snapshot`; `epoch` is drawn when the key has no revision. -/
def readTurnAdmissionSnapshot (config : CoordinatorConfigV1) (root : CoordinatorStateRootV1)
    (stateKey : ConversationStateKey) (par1 grh1 bsh1 : String) (epoch : Bytes)
    (nowMonotonicNs nowEpochMs : ℤ) : TurnAdmissionSnapshotV1 :=
  let revision :=
    (root.stateRevisions.get stateKey).getD (freshRevision config epoch nowMonotonicNs)
  { stateKey, par1, grh1, bsh1
    ledgerRows := admittedActionLedgerRows root stateKey par1 grh1 bsh1
    turns := ((root.conversationTurns.get stateKey).getD []).filter
      (fun turn => turn.par1 = par1 ∧ turn.grh1 = grh1 ∧ turn.bsh1 = bsh1)
    pendingClarification := (root.clarificationRecords.get stateKey).filter
      (fun clarification => clarification.par1 = par1 ∧ clarification.grh1 = grh1 ∧
        clarification.bsh1 = bsh1)
    revisionEpoch := revision.revisionEpoch
    stateRevision := revision.revision
    snapshotAtEpochMs := nowEpochMs
    snapshotAtMonotonicNs := nowMonotonicNs
    pendingReply := root.pendingRequestByState.contains stateKey }

/-- `existing_reservation_result`. -/
def existingReservationResult (root : CoordinatorStateRootV1) (stateKey : ConversationStateKey)
    (requestId requestHash : String) (replayEligible : Bool) :
    Except CoordinatorException (Option ReservationResultV1) :=
  match root.issuedRecords.get ⟨stateKey, requestId⟩ with
  | some existing =>
    if existing.requestHash ≠ requestHash ∨ existing.replayEligible ≠ replayEligible then
      .error (.coordinatorError "request_id_conflict")
    else match existing with
    | .pending _ => .error (.coordinatorError "request_in_progress")
    | .complete record =>
      if !replayEligible then .error (.coordinatorError "request_id_conflict")
      else .ok (some (.replay {
        stateKey, requestId, requestHash
        response := record.response
        issuedAtEpochMs := record.issuedAtEpochMs
        issuedRecordRevision := record.recordRevision }))
  | none =>
    if root.pendingRequestByState.contains stateKey then
      .error (.coordinatorError "conversation_turn_in_progress")
    else .ok none

/-- The values that `reserve_reply_candidate` draws and reads. -/
structure ReserveReadings where
  monotonicNs : ℤ
  epochMs : ℤ
  revisionEpoch : Bytes
  ownerToken : Bytes

/-- The revision under which a reply is reserved. -/
def reservedRevision (config : CoordinatorConfigV1) (root : CoordinatorStateRootV1)
    (stateKey : ConversationStateKey) (readings : ReserveReadings) : StateRevisionRecordV1 :=
  (root.stateRevisions.get stateKey).getD
    (freshRevision config readings.revisionEpoch readings.monotonicNs)

def pendingRecord (config : CoordinatorConfigV1) (revision : StateRevisionRecordV1)
    (stateKey : ConversationStateKey) (requestId requestHash : String) (replayEligible : Bool)
    (readings : ReserveReadings) : PendingIssuedResponseRecordV1 where
  stateKey := stateKey
  requestId := requestId
  requestHash := requestHash
  replayEligible := replayEligible
  ownerToken := readings.ownerToken
  revisionEpoch := revision.revisionEpoch
  reservedStateRevision := revision.revision
  createdAtEpochMs := readings.epochMs
  createdAtMonotonicNs := readings.monotonicNs
  expiresAtMonotonicNs := readings.monotonicNs + config.issuedPendingTtlNs

/-- The root with the reservation in it. -/
def withReservation (config : CoordinatorConfigV1) (root : CoordinatorStateRootV1)
    (stateKey : ConversationStateKey) (requestId requestHash : String) (replayEligible : Bool)
    (readings : ReserveReadings) : CoordinatorStateRootV1 :=
  let revision := reservedRevision config root stateKey readings
  { root with
    rootRevision := root.rootRevision + 1
    issuedRecords := root.issuedRecords.insert ⟨stateKey, requestId⟩ (.pending
      (pendingRecord config revision stateKey requestId requestHash replayEligible readings))
    pendingRequestByState := root.pendingRequestByState.insert stateKey ⟨stateKey, requestId⟩
    stateRevisions := root.stateRevisions.insert stateKey revision }

/-- `reserve_reply_candidate`. -/
def reserveReplyCandidate (config : CoordinatorConfigV1) (root : CoordinatorStateRootV1)
    (stateKey : ConversationStateKey) (requestId requestHash : String) (replayEligible : Bool)
    (readings : ReserveReadings) :
    Except CoordinatorException (Option CoordinatorStateRootV1 × ReservationResultV1) :=
  match existingReservationResult root stateKey requestId requestHash replayEligible with
  | .error e => .error e
  | .ok (some existing) => .ok (none, existing)
  | .ok none =>
    let revision := reservedRevision config root stateKey readings
    .ok (some (withReservation config root stateKey requestId requestHash replayEligible readings),
      .new {
        stateKey, requestId, requestHash, replayEligible
        ownerToken := readings.ownerToken
        revisionEpoch := revision.revisionEpoch
        stateRevision := revision.revision })

/-- `abort_reply_candidate`. -/
def abortReplyCandidate (root : CoordinatorStateRootV1) (stateKey : ConversationStateKey)
    (requestId : String) (ownerToken : Bytes) :
    Except CoordinatorException CoordinatorStateRootV1 :=
  match root.issuedRecords.get ⟨stateKey, requestId⟩ with
  | some (.pending record) =>
    if record.ownerToken ≠ ownerToken then .error (.coordinatorError "reservation_not_found")
    else .ok { root with
      rootRevision := root.rootRevision + 1
      issuedRecords := root.issuedRecords.withoutKeys [⟨stateKey, requestId⟩]
      pendingRequestByState := root.pendingRequestByState.withoutKeys [stateKey] }
  | _ => .error (.coordinatorError "reservation_not_found")

end MarketSupport
