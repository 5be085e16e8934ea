import MarketSupport.Hashing
import MarketSupport.Rendering.ResponseIds
import MarketSupport.State.Effects
import MarketSupport.State.Reservations

/-!
# Committing a reply

A commit turns a pending reservation into a complete issued record, appends the two turns of
the exchange, replaces the pending clarification and writes the audit record.
-/

namespace MarketSupport

open Library

/-- The clock readings and identifiers that a commit draws. -/
structure CommitReadings where
  monotonicNs : ℤ
  epochMs : ℤ
  responseUuid : UuidHex
  actionUuid : ℕ → UuidHex

/-- The checks before an identifier is issued; they yield the current revision. -/
def commitGuards (root : CoordinatorStateRootV1) (proposal : ReplyCommitProposalV1) :
    Except CoordinatorException StateRevisionRecordV1 :=
  match root.issuedRecords.get ⟨proposal.stateKey, proposal.requestId⟩ with
  | some (.pending pending) =>
    if pending.ownerToken ≠ proposal.ownerToken then
      .error (.coordinatorError "reservation_not_found")
    else match root.stateRevisions.get proposal.stateKey with
    | none => .error (.coordinatorError "conversation_state_changed")
    | some revision =>
      if revision.revisionEpoch ≠ proposal.expectedRevisionEpoch ∨
          revision.revision ≠ proposal.expectedStateRevision then
        .error (.coordinatorError "conversation_state_changed")
      else if pending.requestHash ≠ proposal.requestHash ∨
          pending.replayEligible ≠ proposal.replayEligible then
        .error (.coordinatorError "request_id_conflict")
      else .ok revision
  | _ => .error (.coordinatorError "reservation_not_found")

/-- The revision after a commit at `nowMonotonicNs`. -/
def StateRevisionRecordV1.next (revision : StateRevisionRecordV1) (config : CoordinatorConfigV1)
    (nowMonotonicNs : ℤ) : StateRevisionRecordV1 :=
  { revision with
    revision := revision.revision + 1
    updatedAtMonotonicNs := nowMonotonicNs
    expiresAtMonotonicNs := nowMonotonicNs + config.issuedTtlNs }

/-! ## Conversation -/

/-- `l[-n:]`, which is the whole of `l` for `n = 0`. -/
def lastMessages {α : Type} (n : ℕ) (l : List α) : List α :=
  if n = 0 then l else l.drop (l.length - n)

def priorTurns (root : CoordinatorStateRootV1) (stateKey : ConversationStateKey) :
    List ConversationTurnRecordV2 :=
  (root.conversationTurns.get stateKey).getD []

/-- The reference of the clarification that the proposal asks for. -/
def proposedClarificationRef (sha256 : Sha256) (proposal : ReplyCommitProposalV1)
    (nextOrdinal : ℕ) : Option String :=
  proposal.clarification.map (fun clarification =>
    clarificationRefHash sha256 proposal.stateKey (nextOrdinal + 1) clarification.question)

def proposedClarification (sha256 : Sha256) (proposal : ReplyCommitProposalV1) (nextOrdinal : ℕ)
    (nowEpochMs : ℤ) : Option PendingClarificationRecordV1 :=
  proposal.clarification.map (fun clarification => {
    clarificationRef :=
      clarificationRefHash sha256 proposal.stateKey (nextOrdinal + 1) clarification.question
    kind := clarification.kind
    slots := clarification.slots
    question := clarification.question
    topic := clarification.topic
    originatingTurnOrdinal := nextOrdinal + 1
    createdAtEpochMs := nowEpochMs
    pol1 := proposal.pol1
    par1 := proposal.par1
    grh1 := proposal.grh1
    bsh1 := proposal.bsh1 })

def userTurnRecord (proposal : ReplyCommitProposalV1) (nextOrdinal : ℕ) (nowEpochMs : ℤ) :
    ConversationTurnRecordV2 where
  role := .user
  text := proposal.userTurn.text
  ordinal := nextOrdinal
  createdAtEpochMs := nowEpochMs
  pol1 := proposal.pol1
  par1 := proposal.par1
  grh1 := proposal.grh1
  bsh1 := proposal.bsh1
  replyKind := none
  clarificationRef := none

def assistantTurnRecord (sha256 : Sha256) (proposal : ReplyCommitProposalV1) (nextOrdinal : ℕ)
    (nowEpochMs : ℤ) : ConversationTurnRecordV2 where
  role := .assistant
  text := proposal.assistantTurn.text
  ordinal := nextOrdinal + 1
  createdAtEpochMs := nowEpochMs
  pol1 := proposal.pol1
  par1 := proposal.par1
  grh1 := proposal.grh1
  bsh1 := proposal.bsh1
  replyKind := some proposal.assistantTurn.replyKind
  clarificationRef := proposedClarificationRef sha256 proposal nextOrdinal

/-- The retained turns of the conversation after the exchange. -/
def committedTurns (config : CoordinatorConfigV1) (sha256 : Sha256) (root : CoordinatorStateRootV1)
    (proposal : ReplyCommitProposalV1) (nowEpochMs : ℤ) : List ConversationTurnRecordV2 :=
  let prior := priorTurns root proposal.stateKey
  lastMessages config.conversationMaxMessages (prior ++
    [userTurnRecord proposal prior.length nowEpochMs,
      assistantTurnRecord sha256 proposal prior.length nowEpochMs])

def committedClarifications (sha256 : Sha256) (root : CoordinatorStateRootV1)
    (proposal : ReplyCommitProposalV1) (nowEpochMs : ℤ) : ClarificationRecords :=
  match proposedClarification sha256 proposal (priorTurns root proposal.stateKey).length
      nowEpochMs with
  | some clarification => root.clarificationRecords.insert proposal.stateKey clarification
  | none => root.clarificationRecords.withoutKeys [proposal.stateKey]

/-! ## Audit -/

/-- The audit records after the oldest made room when `capacity` is reached. -/
def auditRecordsWithRoom (capacity : ℕ) (audits : FrozenMap RecordKey AuditRecordV1) :
    FrozenMap RecordKey AuditRecordV1 :=
  if audits.size < capacity then audits
  else match audits.entries.argmin
      (fun e => toLex (e.2.createdAtEpochMs, keyBytes e.1.stateKey e.1.ident)) with
  | none => audits
  | some (victim, _) => audits.withoutKeys [victim]

/-! ## The candidate -/

def completeRecord (config : CoordinatorConfigV1) (proposal : ReplyCommitProposalV1)
    (revision : StateRevisionRecordV1) (response : ReplyResponse) (nowMonotonicNs nowEpochMs : ℤ) :
    CompleteIssuedResponseRecordV1 where
  stateKey := proposal.stateKey
  requestId := proposal.requestId
  requestHash := proposal.requestHash
  replayEligible := proposal.replayEligible
  revisionEpoch := revision.revisionEpoch
  committedStateRevision := revision.revision
  recordRevision := 1
  response := response
  effects := deriveIssuedEffects response
  receipts := []
  issuedAtEpochMs := nowEpochMs
  completedAtMonotonicNs := nowMonotonicNs
  expiresAtMonotonicNs := nowMonotonicNs + config.issuedTtlNs
  pol1 := proposal.pol1
  par1 := proposal.par1
  grh1 := proposal.grh1
  bsh1 := proposal.bsh1

/-- The entries that a record adds to the action index. -/
def CompleteIssuedResponseRecordV1.actionEntries (record : CompleteIssuedResponseRecordV1) :
    List (String × ConversationStateKey × String × String) :=
  record.effects.filterMap (fun effect => effect.actionId.map (fun actionId =>
    (actionId, record.stateKey, record.response.responseId, effect.effectKey)))

/-- The root with the reply in it, before sessions make room. -/
def withCommittedReply (config : CoordinatorConfigV1) (sha256 : Sha256)
    (root : CoordinatorStateRootV1) (proposal : ReplyCommitProposalV1)
    (revision : StateRevisionRecordV1) (response : ReplyResponse) (audit : AuditRecordV1)
    (nowMonotonicNs nowEpochMs : ℤ) : CoordinatorStateRootV1 :=
  let revised := revision.next config nowMonotonicNs
  let key : RecordKey := ⟨proposal.stateKey, proposal.requestId⟩
  let record := completeRecord config proposal revised response nowMonotonicNs nowEpochMs
  { root with
    rootRevision := root.rootRevision + 1
    issuedRecords := root.issuedRecords.insert key (.complete record)
    pendingRequestByState := root.pendingRequestByState.withoutKeys [proposal.stateKey]
    stateRevisions := root.stateRevisions.insert proposal.stateKey revised
    responseIndex := root.responseIndex.insert response.responseId key
    actionIndex := root.actionIndex.withUpdates record.actionEntries
    conversationTurns := root.conversationTurns.insert proposal.stateKey
      (committedTurns config sha256 root proposal nowEpochMs)
    clarificationRecords := committedClarifications sha256 root proposal nowEpochMs
    auditRecords := (auditRecordsWithRoom config.conversationMaxSessions root.auditRecords).insert
      ⟨proposal.stateKey, response.responseId⟩ audit }

/-- `commit_reply_candidate`. -/
def commitReplyCandidate (config : CoordinatorConfigV1) (sha256 : Sha256)
    (root : CoordinatorStateRootV1) (proposal : ReplyCommitProposalV1) (readings : CommitReadings) :
    Except CoordinatorException (CoordinatorStateRootV1 × ReplyResponse) :=
  match commitGuards root proposal with
  | .error e => .error e
  | .ok revision =>
    let response := issueResponseIds readings.responseUuid readings.actionUuid proposal.response
    if root.responseIndex.contains response.responseId then .error stateStoreUnavailable
    else if decide (response.reply.kind = .clarification) ≠
        proposal.assistantTurn.clarificationRequested then
      .error (.coordinatorError "reply_commit_invalid")
    else if proposal.clarification.isSome ≠ proposal.assistantTurn.clarificationRequested then
      .error (.coordinatorError "reply_commit_invalid")
    else match buildAuditRecord proposal.audit proposal.stateKey response.responseId
        proposal.requestId response.reply.kind readings.epochMs
        (readings.monotonicNs + config.issuedTtlNs) with
    | .error e => .error e
    | .ok audit =>
      match enforceSessionCapacity (withCommittedReply config sha256 root proposal revision response
          audit readings.monotonicNs readings.epochMs) config.conversationMaxSessions with
      | .error e => .error e
      | .ok candidate => .ok (candidate, response)

end MarketSupport
