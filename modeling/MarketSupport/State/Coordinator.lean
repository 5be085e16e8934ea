import MarketSupport.Library.Runs
import MarketSupport.State.Cleanup
import MarketSupport.State.Feedback

/-!
# The transaction coordinator

Every operation computes candidate roots and publishes them one by one. A publication is
validated, recorded in the journal and exposed to a fault hook before the root changes.
-/

namespace MarketSupport

/-- What a coordinator is constructed with; its configuration was accepted. -/
structure CoordinatorSetup where
  settings : CoordinatorSettings
  config : CoordinatorConfigV1
  built : buildCoordinatorConfig settings = .ok config
  sha256 : Sha256

theorem CoordinatorSetup.accepted (setup : CoordinatorSetup) : setup.config.Accepted :=
  buildCoordinatorConfig_accepted setup.built

/-! ## Journal -/

inductive ReplyStateJournalOperationV1 where
  | replyReserve
  | replyCommit
  | replyAbort
  | feedbackPrepare
  | feedbackCommit
  | cleanup
  deriving DecidableEq, Repr

inductive JournalOutcome where
  | staging
  | committed
  | rolledBack
  deriving DecidableEq, Repr

structure ReplyStateJournalV2 where
  transactionId : Bytes
  operation : ReplyStateJournalOperationV1
  initiatingStateKey : Option ConversationStateKey
  affectedStateKeys : List ConversationStateKey
  priorRoot : CoordinatorStateRootV1
  candidateRoot : CoordinatorStateRootV1
  outcome : JournalOutcome

/-- What the fault hook does when it is called. -/
inductive HookOutcome where
  | passes
  | runtimeError
  | otherError
  deriving DecidableEq, Repr

/-- What one publication draws and meets. -/
structure PublicationDraws where
  transactionId : Bytes
  hook : HookOutcome

/-! ## Publication -/

/-- The mutable fields of `ReplyStateTransactionCoordinatorV1`. -/
structure Coordinator where
  root : CoordinatorStateRootV1
  lastJournal : Option ReplyStateJournalV2

def Coordinator.initial : Coordinator := ⟨emptyCoordinatorRoot, none⟩

/-- `_publish`. Only a `RuntimeError` of the hook leaves a journal behind. -/
def publish (setup : CoordinatorSetup) (operation : ReplyStateJournalOperationV1)
    (initiatingStateKey : Option ConversationStateKey) (draws : PublicationDraws)
    (candidate : CoordinatorStateRootV1) (c : Coordinator) :
    Except CoordinatorException Unit × Coordinator :=
  match prepareRootForPublication candidate setup.config.stateRevisionCapacity with
  | .error e => (.error e, c)
  | .ok candidate =>
    if candidate.rootRevision ≠ c.root.rootRevision + 1 then (.error stateStoreUnavailable, c)
    else
      let journal : ReplyStateJournalV2 := {
        transactionId := draws.transactionId
        operation := operation
        initiatingStateKey := initiatingStateKey
        affectedStateKeys := initiatingStateKey.toList
        priorRoot := c.root
        candidateRoot := candidate
        outcome := .staging }
      match draws.hook with
      | .passes => (.ok (), ⟨candidate, some { journal with outcome := .committed }⟩)
      | .runtimeError =>
        (.error .hookRuntimeError, ⟨c.root, some { journal with outcome := .rolledBack }⟩)
      | .otherError => (.error .hookOtherError, c)

/-- `_cleanup_locked`. -/
def cleanupLocked (setup : CoordinatorSetup) (nowMonotonicNs nowEpochMs : ℤ)
    (draws : PublicationDraws) (c : Coordinator) : Except CoordinatorException ℕ × Coordinator :=
  match cleanupCandidate setup.config c.root nowMonotonicNs nowEpochMs with
  | (none, removed) => (.ok removed, c)
  | (some candidate, removed) =>
    match publish setup .cleanup none draws candidate c with
    | (.error e, c) => (.error e, c)
    | (.ok _, c) => (.ok removed, c)

/-! ## Operations -/

/-- The clock readings, random draws and hook outcomes of one operation. -/
structure OperationDraws where
  cleanupMonotonicNs : ℤ
  cleanupEpochMs : ℤ
  monotonicNs : ℤ
  createdAtMonotonicNs : ℤ
  epochMs : ℤ
  revisionEpoch : Bytes
  ownerToken : Bytes
  commitToken : Bytes
  responseUuid : UuidHex
  actionUuid : ℕ → UuidHex
  cleanupPublication : PublicationDraws
  evictionPublication : PublicationDraws
  publication : PublicationDraws

def OperationDraws.reserveReadings (draws : OperationDraws) : ReserveReadings :=
  ⟨draws.monotonicNs, draws.epochMs, draws.revisionEpoch, draws.ownerToken⟩

def OperationDraws.commitReadings (draws : OperationDraws) : CommitReadings :=
  ⟨draws.monotonicNs, draws.epochMs, draws.responseUuid, draws.actionUuid⟩

def OperationDraws.prepareReadings (draws : OperationDraws) : PrepareReadings :=
  ⟨draws.commitToken, draws.monotonicNs, draws.createdAtMonotonicNs⟩

variable (setup : CoordinatorSetup)

/-- The eviction that `reserve_reply` publishes when the issued capacity is reached. -/
def publishEviction (draws : OperationDraws) (c : Coordinator) :
    Except CoordinatorException Unit × Coordinator :=
  match issuedCapacityEvictionCandidate c.root setup.config.issuedResponseCapacity with
  | .error e => (.error e, c)
  | .ok none => (.ok (), c)
  | .ok (some eviction) => publish setup .cleanup none draws.evictionPublication eviction c

/-- The last part of `reserve_reply`. -/
def publishReservation (stateKey : ConversationStateKey) (requestId requestHash : String)
    (replayEligible : Bool) (draws : OperationDraws) (c : Coordinator) :
    Except CoordinatorException ReservationResultV1 × Coordinator :=
  match reserveReplyCandidate setup.config c.root stateKey requestId requestHash replayEligible
      draws.reserveReadings with
  | .error e => (.error e, c)
  | .ok (none, reservation) => (.ok reservation, c)
  | .ok (some candidate, reservation) =>
    match publish setup .replyReserve (some stateKey) draws.publication candidate c with
    | (.error e, c) => (.error e, c)
    | (.ok _, c) => (.ok reservation, c)

/-- `reserve_reply`: cleanup, replay or capacity eviction, reservation. -/
def reserveReply (stateKey : ConversationStateKey) (requestId requestHash : String)
    (replayEligible : Bool) (draws : OperationDraws) (c : Coordinator) :
    Except CoordinatorException ReservationResultV1 × Coordinator :=
  match cleanupLocked setup draws.cleanupMonotonicNs draws.cleanupEpochMs draws.cleanupPublication
      c with
  | (.error e, c) => (.error e, c)
  | (.ok _, c) =>
    match existingReservationResult c.root stateKey requestId requestHash replayEligible with
    | .error e => (.error e, c)
    | .ok (some replay) => (.ok replay, c)
    | .ok none =>
      match publishEviction setup draws c with
      | (.error e, c) => (.error e, c)
      | (.ok _, c) =>
        publishReservation setup stateKey requestId requestHash replayEligible draws c

/-- `abort_reply`. -/
def abortReply (stateKey : ConversationStateKey) (requestId : String) (ownerToken : Bytes)
    (draws : OperationDraws) (c : Coordinator) : Except CoordinatorException Unit × Coordinator :=
  match abortReplyCandidate c.root stateKey requestId ownerToken with
  | .error e => (.error e, c)
  | .ok candidate => publish setup .replyAbort (some stateKey) draws.publication candidate c

/-- `commit_reply`. -/
def commitReply (proposal : ReplyCommitProposalV1) (draws : OperationDraws) (c : Coordinator) :
    Except CoordinatorException ReplyResponse × Coordinator :=
  match commitReplyCandidate setup.config setup.sha256 c.root proposal draws.commitReadings with
  | .error e => (.error e, c)
  | .ok (candidate, response) =>
    match publish setup .replyCommit (some proposal.stateKey) draws.publication candidate c with
    | (.error e, c) => (.error e, c)
    | (.ok _, c) => (.ok response, c)

/-- The part of `prepare_feedback` after the cleanup. -/
def prepareFeedbackLocked (stateKey : ConversationStateKey) (feedback : ActionFeedbackRequestV2)
    (draws : OperationDraws) (c : Coordinator) :
    Except CoordinatorException FeedbackPreparationV1 × Coordinator :=
  match resolveFeedbackRecord c.root stateKey feedback with
  | .error e => (.error e, c)
  | .ok record =>
    match prepareFeedbackCandidate setup.config setup.sha256 c.root stateKey feedback record
        draws.prepareReadings with
    | .error e => (.error e, c)
    | .ok (none, prepared) => (.ok prepared, c)
    | .ok (some candidate, prepared) =>
      match publish setup .feedbackPrepare (some stateKey) draws.publication candidate c with
      | (.error e, c) => (.error e, c)
      | (.ok _, c) => (.ok prepared, c)

/-- `prepare_feedback`. -/
def prepareFeedback (stateKey : ConversationStateKey) (feedback : ActionFeedbackRequestV2)
    (draws : OperationDraws) (c : Coordinator) :
    Except CoordinatorException FeedbackPreparationV1 × Coordinator :=
  match cleanupLocked setup draws.cleanupMonotonicNs draws.cleanupEpochMs draws.cleanupPublication
      c with
  | (.error e, c) => (.error e, c)
  | (.ok _, c) => prepareFeedbackLocked setup stateKey feedback draws c

/-- The exception handler of `commit_feedback`; an error of the publication inside it
replaces the one that is handled. -/
def dropPreparedToken (prepared : PreparedFeedbackV1) (e : CoordinatorException)
    (draws : OperationDraws) (c : Coordinator) :
    Except CoordinatorException FeedbackCommitResultV1 × Coordinator :=
  if requiresPreparedTokenDrop e then
    match publish setup .feedbackCommit (some prepared.stateKey) draws.publication
        (dropPreparedTokenCandidate c.root prepared) c with
    | (.error e, c) => (.error e, c)
    | (.ok _, c) => (.error e, c)
  else (.error e, c)

/-- `commit_feedback`. -/
def commitFeedback (prepared : PreparedFeedbackV1) (draws : OperationDraws) (c : Coordinator) :
    Except CoordinatorException FeedbackCommitResultV1 × Coordinator :=
  match commitFeedbackCandidate setup.config setup.sha256 c.root prepared draws.monotonicNs
      draws.epochMs with
  | .error e => dropPreparedToken setup prepared e draws c
  | .ok (candidate, result) =>
    match publish setup .feedbackCommit (some prepared.stateKey) draws.publication candidate c with
    | (.error e, c) => (.error e, c)
    | (.ok _, c) => (.ok result, c)

/-- `cleanup`. -/
def cleanup (draws : OperationDraws) (c : Coordinator) :
    Except CoordinatorException ℕ × Coordinator :=
  cleanupLocked setup draws.cleanupMonotonicNs draws.cleanupEpochMs draws.cleanupPublication c

/-! ## The coordinator as a system -/

inductive CoordinatorOperation where
  | reserveReply (stateKey : ConversationStateKey) (requestId requestHash : String)
      (replayEligible : Bool)
  | abortReply (stateKey : ConversationStateKey) (requestId : String) (ownerToken : Bytes)
  | commitReply (proposal : ReplyCommitProposalV1)
  | prepareFeedback (stateKey : ConversationStateKey) (feedback : ActionFeedbackRequestV2)
  | commitFeedback (prepared : PreparedFeedbackV1)
  | cleanup
  | lookupIssuedResponse (stateKey : ConversationStateKey) (responseId : String)
  | readTurnAdmissionSnapshot (stateKey : ConversationStateKey) (par1 grh1 bsh1 : String)

/-- The state key that an operation is about. -/
def CoordinatorOperation.stateKey? : CoordinatorOperation → Option ConversationStateKey
  | .reserveReply k _ _ _ | .abortReply k _ _ | .prepareFeedback k _ => some k
  | .lookupIssuedResponse k _ | .readTurnAdmissionSnapshot k _ _ _ => some k
  | .commitReply proposal => some proposal.stateKey
  | .commitFeedback prepared => some prepared.stateKey
  | .cleanup => none

inductive OperationResult where
  | reservation (value : ReservationResultV1)
  | aborted
  | committed (response : ReplyResponse)
  | preparation (value : FeedbackPreparationV1)
  | feedbackCommitted (value : FeedbackCommitResultV1)
  | removed (count : ℕ)
  | lookup (value : IssuedResponseLookupV1)
  | snapshot (value : TurnAdmissionSnapshotV1)
  deriving DecidableEq

abbrev OperationOutcome := Except CoordinatorException OperationResult

/-- The result of an operation, wrapped for the outcome of a step. -/
def outcome {α : Type} (wrap : α → OperationResult)
    (x : Except CoordinatorException α × Coordinator) :
    OperationOutcome × Coordinator :=
  (x.1.map wrap, x.2)

theorem outcome_eq_ok {α : Type} {wrap : α → OperationResult}
    {x : Except CoordinatorException α × Coordinator} {result : OperationResult} :
    (outcome wrap x).1 = .ok result ↔ ∃ value, x.1 = .ok value ∧ wrap value = result := by
  unfold outcome
  cases x.1 <;> simp [Except.map]

/-- One operation on the coordinator. -/
def runOperation (operation : CoordinatorOperation) (draws : OperationDraws) (c : Coordinator) :
    OperationOutcome × Coordinator :=
  match operation with
  | .reserveReply stateKey requestId requestHash replayEligible =>
    outcome .reservation (reserveReply setup stateKey requestId requestHash replayEligible draws c)
  | .abortReply stateKey requestId ownerToken =>
    outcome (fun _ => .aborted) (abortReply setup stateKey requestId ownerToken draws c)
  | .commitReply proposal => outcome .committed (commitReply setup proposal draws c)
  | .prepareFeedback stateKey feedback =>
    outcome .preparation (prepareFeedback setup stateKey feedback draws c)
  | .commitFeedback prepared => outcome .feedbackCommitted (commitFeedback setup prepared draws c)
  | .cleanup => outcome .removed (cleanup setup draws c)
  | .lookupIssuedResponse stateKey responseId =>
    (.ok (.lookup (lookup c.root stateKey responseId)), c)
  | .readTurnAdmissionSnapshot stateKey par1 grh1 bsh1 =>
    (.ok (.snapshot (readTurnAdmissionSnapshot setup.config c.root stateKey par1 grh1 bsh1
      draws.revisionEpoch draws.monotonicNs draws.epochMs)), c)

/-- The coordinator answers one operation after another. -/
def coordinatorSystem :
    Library.System Coordinator (CoordinatorOperation × OperationDraws) OperationOutcome where
  step c input := runOperation setup input.1 input.2 c

end MarketSupport
