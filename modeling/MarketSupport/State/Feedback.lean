import MarketSupport.Hashing
import MarketSupport.State.Ledger
import MarketSupport.State.ReplyCommit

/-!
# Feedback

Looking up issued responses, preparing feedback on one under a short-lived commit token, and
committing it.
-/

namespace MarketSupport

open Library

/-- `IssuedResponseStoreV1.lookup`. -/
def lookup (root : CoordinatorStateRootV1) (stateKey : ConversationStateKey)
    (responseId : String) : IssuedResponseLookupV1 :=
  match root.responseIndex.get responseId with
  | none => .notFound
  | some indexed =>
    if indexed.stateKey ≠ stateKey then .identityMismatch
    else match root.issuedRecords.get indexed with
    | some (.complete record) => .found record
    | _ => .notFound

theorem lookup_eq_found {root : CoordinatorStateRootV1} {stateKey : ConversationStateKey}
    {responseId : String} {record : CompleteIssuedResponseRecordV1} :
    lookup root stateKey responseId = .found record ↔
      ∃ key, root.responseIndex.get responseId = some key ∧ key.stateKey = stateKey ∧
        root.issuedRecords.get key = some (.complete record) := by
  unfold lookup
  cases root.responseIndex.get responseId with
  | none => simp
  | some key =>
    by_cases hkey : key.stateKey = stateKey
    · cases hget : root.issuedRecords.get key with
      | none => simp [hkey, hget]
      | some r => cases r <;> simp [hkey, hget]
    · simp [hkey]

/-- `resolve_feedback_record`. -/
def resolveFeedbackRecord (root : CoordinatorStateRootV1) (stateKey : ConversationStateKey)
    (feedback : ActionFeedbackRequestV2) :
    Except CoordinatorException CompleteIssuedResponseRecordV1 :=
  match lookup root stateKey feedback.responseId with
  | .notFound => .error (.coordinatorError "issued_response_not_found")
  | .identityMismatch => .error (.coordinatorError "feedback_identity_mismatch")
  | .found record =>
    if record.requestId ≠ feedback.requestId then
      .error (.coordinatorError "feedback_effect_mismatch")
    else .ok record

/-! ## Preparing -/

/-- The thirty seconds that a prepared token lives. -/
def preparedTokenTtlNs : ℤ := 30000000000

/-- The draws of `prepare_feedback_candidate`; the clock is read twice. -/
structure PrepareReadings where
  commitToken : Bytes
  expiryBaseMonotonicNs : ℤ
  createdAtMonotonicNs : ℤ

def preparedFeedback (stateKey : ConversationStateKey) (feedback : ActionFeedbackRequestV2)
    (digest : String) (record : CompleteIssuedResponseRecordV1) (revision : StateRevisionRecordV1)
    (transitions : List PreparedEffectTransitionV1) (readings : PrepareReadings) :
    PreparedFeedbackV1 where
  stateKey := stateKey
  feedbackId := feedback.feedbackId
  feedbackHash := digest
  requestId := feedback.requestId
  responseId := feedback.responseId
  commitToken := readings.commitToken
  revisionEpoch := revision.revisionEpoch
  expectedStateRevision := revision.revision
  expectedIssuedRecordRevision := record.recordRevision
  transitions := transitions
  expiresAtMonotonicNs := readings.expiryBaseMonotonicNs + preparedTokenTtlNs

/-- The key of the token of a preparation. -/
def PreparedFeedbackV1.tokenKey (prepared : PreparedFeedbackV1) : RecordKey :=
  ⟨prepared.stateKey, prepared.feedbackId⟩

def withPreparedToken (root : CoordinatorStateRootV1) (prepared : PreparedFeedbackV1)
    (createdAtMonotonicNs : ℤ) : CoordinatorStateRootV1 :=
  { root with
    rootRevision := root.rootRevision + 1
    preparedFeedbackTokens := root.preparedFeedbackTokens.insert prepared.tokenKey
      ⟨prepared, createdAtMonotonicNs⟩ }

/-- `prepare_feedback_candidate`. -/
def prepareFeedbackCandidate (config : CoordinatorConfigV1) (sha256 : Sha256)
    (root : CoordinatorStateRootV1) (stateKey : ConversationStateKey)
    (feedback : ActionFeedbackRequestV2) (record : CompleteIssuedResponseRecordV1)
    (readings : PrepareReadings) :
    Except CoordinatorException (Option CoordinatorStateRootV1 × FeedbackPreparationV1) :=
  let digest := feedbackHash sha256 feedback
  match root.feedbackReceipts.get ⟨stateKey, feedback.feedbackId⟩ with
  | some receipt =>
    if receipt.feedbackHash ≠ digest then .error (.coordinatorError "feedback_id_conflict")
    else .ok (none, .replay {
      stateKey
      feedbackId := feedback.feedbackId
      feedbackHash := digest
      requestId := feedback.requestId
      responseId := feedback.responseId
      receiptId := receipt.receiptId
      issuedRecordRevision := receipt.issuedRecordRevision })
  | none =>
    match root.preparedFeedbackTokens.get ⟨stateKey, feedback.feedbackId⟩ with
    | some existing =>
      if existing.preparation.feedbackHash ≠ digest then
        .error (.coordinatorError "feedback_id_conflict")
      else .ok (none, .prepared existing.preparation)
    | none =>
      if config.issuedResponseCapacity ≤ root.preparedFeedbackTokens.size then
        .error (.coordinatorError "feedback_store_unavailable")
      else match root.stateRevisions.get stateKey with
      | none => .error (.coordinatorError "conversation_state_changed")
      | some revision =>
        match prepareEffectTransitions record feedback with
        | .error e => .error e
        | .ok transitions =>
          let prepared :=
            preparedFeedback stateKey feedback digest record revision transitions readings
          .ok (some (withPreparedToken root prepared readings.createdAtMonotonicNs),
            .prepared prepared)

/-! ## Committing -/

/-- `feedback_commit_inputs`. -/
def feedbackCommitInputs (root : CoordinatorStateRootV1) (prepared : PreparedFeedbackV1)
    (nowMonotonicNs : ℤ) :
    Except CoordinatorException (CompleteIssuedResponseRecordV1 × StateRevisionRecordV1) :=
  match root.preparedFeedbackTokens.get prepared.tokenKey with
  | none => .error (.coordinatorError "feedback_token_not_found")
  | some stored =>
    if stored.preparation.commitToken ≠ prepared.commitToken then
      .error (.coordinatorError "feedback_token_not_found")
    else if prepared.expiresAtMonotonicNs ≤ nowMonotonicNs then
      .error (.coordinatorError "feedback_token_expired")
    else match lookup root prepared.stateKey prepared.responseId,
        root.stateRevisions.get prepared.stateKey with
    | .found record, some revision =>
      if revision.revisionEpoch ≠ prepared.revisionEpoch ∨
          revision.revision ≠ prepared.expectedStateRevision ∨
          record.recordRevision ≠ prepared.expectedIssuedRecordRevision then
        .error (.coordinatorError "conversation_state_changed")
      else .ok (record, revision)
    | _, _ => .error (.coordinatorError "conversation_state_changed")

/-- `requires_prepared_token_drop`. -/
def requiresPreparedTokenDrop (error : CoordinatorException) : Bool :=
  error = .coordinatorError "feedback_token_expired" ∨
    error = .coordinatorError "conversation_state_changed"

/-- The most receipts that one record carries. -/
def receiptsPerRecord : ℕ := 64

/-- The number of effects that the transitions change. -/
def storedCount (transitions : List PreparedEffectTransitionV1) : ℕ :=
  transitions.countP (fun transition => !transition.isNoop)

def feedbackReceipt (config : CoordinatorConfigV1) (sha256 : Sha256) (prepared : PreparedFeedbackV1)
    (recordRevision : ℕ) (nowMonotonicNs nowEpochMs : ℤ) : FeedbackReceiptV1 where
  receiptId := feedbackReceiptId sha256 prepared.stateKey prepared.feedbackId prepared.feedbackHash
    prepared.responseId recordRevision
  stateKey := prepared.stateKey
  feedbackId := prepared.feedbackId
  feedbackHash := prepared.feedbackHash
  responseId := prepared.responseId
  issuedRecordRevision := recordRevision
  stored := storedCount prepared.transitions
  createdAtEpochMs := nowEpochMs
  createdAtMonotonicNs := nowMonotonicNs
  expiresAtMonotonicNs := nowMonotonicNs + config.issuedTtlNs

/-- The record after the feedback that `receipt` acknowledges. -/
def recordWithFeedback (record : CompleteIssuedResponseRecordV1)
    (transitions : List PreparedEffectTransitionV1) (receipt : FeedbackReceiptV1) :
    CompleteIssuedResponseRecordV1 :=
  { record with
    effects := applyEffectTransitions record.effects transitions
    receipts := record.receipts ++ [receipt]
    recordRevision := record.recordRevision + 1 }

def withCommittedFeedback (config : CoordinatorConfigV1) (sha256 : Sha256)
    (root : CoordinatorStateRootV1) (prepared : PreparedFeedbackV1)
    (record : CompleteIssuedResponseRecordV1) (revision : StateRevisionRecordV1)
    (nowMonotonicNs nowEpochMs : ℤ) : CoordinatorStateRootV1 :=
  let receipt := feedbackReceipt config sha256 prepared (record.recordRevision + 1) nowMonotonicNs
    nowEpochMs
  let complete := recordWithFeedback record prepared.transitions receipt
  { root with
    rootRevision := root.rootRevision + 1
    issuedRecords := root.issuedRecords.insert ⟨prepared.stateKey, prepared.requestId⟩
      (.complete complete)
    feedbackReceipts := root.feedbackReceipts.insert prepared.tokenKey receipt
    preparedFeedbackTokens := root.preparedFeedbackTokens.withoutKeys [prepared.tokenKey]
    stateRevisions := root.stateRevisions.insert prepared.stateKey
      (revision.next config nowMonotonicNs)
    actionLedgerRecords := root.actionLedgerRecords.withUpdates (deriveLedgerUpdates root complete
      prepared.transitions nowEpochMs (nowMonotonicNs + config.issuedTtlNs)) }

/-- `commit_feedback_candidate`. -/
def commitFeedbackCandidate (config : CoordinatorConfigV1) (sha256 : Sha256)
    (root : CoordinatorStateRootV1) (prepared : PreparedFeedbackV1)
    (nowMonotonicNs nowEpochMs : ℤ) :
    Except CoordinatorException (CoordinatorStateRootV1 × FeedbackCommitResultV1) :=
  match feedbackCommitInputs root prepared nowMonotonicNs with
  | .error e => .error e
  | .ok (record, revision) =>
    if receiptsPerRecord ≤ record.receipts.length ∨
        config.feedbackReceiptCapacity ≤ root.feedbackReceipts.size then
      .error (.coordinatorError "feedback_store_unavailable")
    else .ok (withCommittedFeedback config sha256 root prepared record revision nowMonotonicNs
        nowEpochMs, {
      receiptId := feedbackReceiptId sha256 prepared.stateKey prepared.feedbackId
        prepared.feedbackHash prepared.responseId (record.recordRevision + 1)
      stored := storedCount prepared.transitions
      replayed := false })

/-- `drop_prepared_token_candidate`. -/
def dropPreparedTokenCandidate (root : CoordinatorStateRootV1) (prepared : PreparedFeedbackV1) :
    CoordinatorStateRootV1 :=
  { root with
    rootRevision := root.rootRevision + 1
    preparedFeedbackTokens := root.preparedFeedbackTokens.withoutKeys [prepared.tokenKey] }

end MarketSupport
