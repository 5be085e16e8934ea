import Mathlib.Data.List.MinMax
import MarketSupport.State.Root

/-!
# Retention

Capacities of the state root, the removal of state revisions that nothing pins, and the
validation of a root before publication.
-/

namespace MarketSupport

open Library

/-- `_ACTION_LEDGER_CAPACITY`. -/
def actionLedgerCapacity : ℕ := 5000

def stateStoreUnavailable : CoordinatorException := .coordinatorError "state_store_unavailable"

/-- `_pinned_state_keys`. -/
def pinnedStateKeys (root : CoordinatorStateRootV1) : List ConversationStateKey :=
  root.conversationTurns.keys ++ root.clarificationRecords.keys ++
    root.issuedRecords.keys.map (·.stateKey) ++ root.feedbackReceipts.keys.map (·.stateKey) ++
    root.preparedFeedbackTokens.keys.map (·.stateKey) ++
    root.actionLedgerRecords.keys.map (·.stateKey) ++ root.auditRecords.keys.map (·.stateKey)

def withoutUnpinnedRevisions (root : CoordinatorStateRootV1) : CoordinatorStateRootV1 :=
  let pinned := pinnedStateKeys root
  let removable := root.stateRevisions.keys.filter (· ∉ pinned)
  { root with stateRevisions := root.stateRevisions.withoutKeys removable }

/-! ## Session capacity -/

/-- The loop of `enforce_session_capacity`: sessions leave in eviction order, and none with a
pending reservation may leave. Each turn removes a session, so `fuel` sessions suffice. -/
def evictSessions (pending : FrozenMap ConversationStateKey RecordKey) (capacity : ℕ) :
    ℕ → ConversationTurns → ClarificationRecords →
      Except CoordinatorException (ConversationTurns × ClarificationRecords)
  | 0, turns, clarifications => .ok (turns, clarifications)
  | fuel + 1, turns, clarifications =>
    match stateSessionEvictionOrder turns clarifications with
    | [] => .ok (turns, clarifications)
    | (_, _, victim) :: rest =>
      if rest.length + 1 ≤ capacity then .ok (turns, clarifications)
      else if pending.contains victim then .error stateStoreUnavailable
      else evictSessions pending capacity fuel (turns.withoutKeys [victim])
        (clarifications.withoutKeys [victim])

def enforceSessionCapacity (root : CoordinatorStateRootV1) (capacity : ℕ) :
    Except CoordinatorException CoordinatorStateRootV1 :=
  match evictSessions root.pendingRequestByState capacity
    (root.conversationTurns.size + root.clarificationRecords.size)
    root.conversationTurns root.clarificationRecords with
  | .error e => .error e
  | .ok (turns, clarifications) => .ok (withoutUnpinnedRevisions
      { root with conversationTurns := turns, clarificationRecords := clarifications })

/-! ## Issued capacity -/

/-- The complete record that is evicted first: the oldest, then by request id. -/
def issuedEvictionVictim (root : CoordinatorStateRootV1) :
    Option (RecordKey × CompleteIssuedResponseRecordV1) :=
  (completeRecords root.issuedRecords).entries.argmin
    (fun e => toLex (e.2.completedAtMonotonicNs, e.1.ident))

/-- The action ids of the effects of a record. -/
def CompleteIssuedResponseRecordV1.actionIds (record : CompleteIssuedResponseRecordV1) :
    List String :=
  record.effects.filterMap (·.actionId)

def withoutIssuedRecord (root : CoordinatorStateRootV1) (key : RecordKey)
    (record : CompleteIssuedResponseRecordV1) : CoordinatorStateRootV1 :=
  { root with
    rootRevision := root.rootRevision + 1
    issuedRecords := root.issuedRecords.withoutKeys [key]
    responseIndex := root.responseIndex.withoutKeys [record.response.responseId]
    actionIndex := root.actionIndex.withoutKeys record.actionIds }

def issuedCapacityEvictionCandidate (root : CoordinatorStateRootV1) (capacity : ℕ) :
    Except CoordinatorException (Option CoordinatorStateRootV1) :=
  if root.issuedRecords.size < capacity then .ok none
  else match issuedEvictionVictim root with
  | none => .error (.coordinatorError "issued_response_store_unavailable")
  | some (key, record) => .ok (some (withoutIssuedRecord root key record))

/-! ## Publication -/

/-- The loop of `_enforce_inactive_record_capacities`; each turn removes a row. -/
def trimLedger (capacity : ℕ) : ℕ → ActionLedgerRecords → ActionLedgerRecords
  | 0, ledger => ledger
  | fuel + 1, ledger =>
    if ledger.size ≤ capacity then ledger
    else match ledger.entries.argmin
        (fun e => toLex (e.2.receivedAtEpochMs, keyBytes e.1.stateKey e.1.actionId)) with
    | none => ledger
    | some (victim, _) => trimLedger capacity fuel (ledger.withoutKeys [victim])

def enforceInactiveRecordCapacities (root : CoordinatorStateRootV1) : CoordinatorStateRootV1 :=
  { root with actionLedgerRecords :=
      trimLedger actionLedgerCapacity root.actionLedgerRecords.size root.actionLedgerRecords }

def enforceStateRevisionCapacity (root : CoordinatorStateRootV1) (capacity : ℕ) :
    Except CoordinatorException CoordinatorStateRootV1 :=
  let pruned := withoutUnpinnedRevisions root
  if pruned.stateRevisions.size ≤ capacity then .ok pruned
  else
    let pinned := pinnedStateKeys pruned
    let removable := sortEntries (fun _ => []) ((pruned.stateRevisions.entries.filter
      (fun e => e.1 ∉ pinned)).map (fun e => (e.2.updatedAtMonotonicNs, keyBytes e.1 "", e.1)))
    let excess := pruned.stateRevisions.size - capacity
    let keys := (removable.take excess).map (·.2.2)
    if removable.length < excess then .error stateStoreUnavailable
    else .ok { pruned with stateRevisions := pruned.stateRevisions.withoutKeys keys }

/-- Every pending entry points to the pending record of its state key. -/
def pendingIndexValid (root : CoordinatorStateRootV1) : Bool :=
  root.pendingRequestByState.entries.all (fun e =>
    match root.issuedRecords.get e.2 with
    | some (.pending record) => record.stateKey = e.1
    | _ => false)

/-- Every indexed response id is that of the complete record it points to. -/
def responseIndexValid (root : CoordinatorStateRootV1) : Bool :=
  root.responseIndex.entries.all (fun e =>
    match root.issuedRecords.get e.2 with
    | some (.complete record) => record.response.responseId = e.1
    | _ => false)

/-- Every indexed action id leads to an effect of a complete record with this action id. -/
def actionIndexValid (root : CoordinatorStateRootV1) : Bool :=
  root.actionIndex.entries.all (fun e =>
    match root.responseIndex.get e.2.2.1 with
    | none => false
    | some issuedKey => issuedKey.stateKey = e.2.1 &&
      match root.issuedRecords.get issuedKey with
      | some (.complete record) =>
        match record.effects.find? (·.effectKey = e.2.2.2) with
        | some effect => effect.actionId = some e.1
        | none => false
      | _ => false)

/-- `_validate_root`. -/
def validateRoot (root : CoordinatorStateRootV1) : Except CoordinatorException Unit :=
  if pendingIndexValid root && responseIndexValid root && actionIndexValid root &&
      root.orders == rootOrders root then .ok ()
  else .error stateStoreUnavailable

def prepareRootForPublication (root : CoordinatorStateRootV1) (stateRevisionCapacity : ℕ) :
    Except CoordinatorException CoordinatorStateRootV1 := do
  let bounded ← enforceStateRevisionCapacity (enforceInactiveRecordCapacities root)
    stateRevisionCapacity
  let ordered := withRootOrders bounded
  validateRoot ordered
  return ordered

end MarketSupport
