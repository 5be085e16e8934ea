import Mathlib.Data.List.Sort
import MarketSupport.Library.FrozenMap
import MarketSupport.State.Records

/-!
# The state root

All conversation state is one immutable root. The eviction and expiry orders are derived
from its maps; `withRootOrders` recomputes them on publication.
-/

namespace MarketSupport

open Library

/-- Timestamps are ordered as integers. Without this instance the order of a pair is looked up
through the completeness of `ℤ`, which does not compute. -/
instance timestampPreorder : Preorder ℤ := Int.instLinearOrder.toPartialOrder.toPreorder

/-- `(timestamp, key_bytes, key)`. -/
abbrev RootOrderEntry (κ : Type) := ℤ × Bytes × κ

structure RootOrders where
  issuedExpiryOrder : List (RootOrderEntry RecordKey) := []
  issuedCompleteEvictionOrder : List (RootOrderEntry RecordKey) := []
  conversationExpiryOrder : List (RootOrderEntry RecordKey) := []
  stateSessionEvictionOrder : List (RootOrderEntry ConversationStateKey) := []
  clarificationExpiryOrder : List (RootOrderEntry ConversationStateKey) := []
  auditExpiryOrder : List (RootOrderEntry RecordKey) := []
  auditEvictionOrder : List (RootOrderEntry RecordKey) := []
  actionLedgerExpiryOrder : List (RootOrderEntry ActionKey) := []
  actionLedgerEvictionOrder : List (RootOrderEntry ActionKey) := []
  feedbackReceiptExpiryOrder : List (RootOrderEntry RecordKey) := []
  preparedTokenExpiryOrder : List (RootOrderEntry RecordKey) := []
  stateRevisionExpiryOrder : List (RootOrderEntry ConversationStateKey) := []
  stateRevisionEvictionOrder : List (RootOrderEntry ConversationStateKey) := []
  deriving DecidableEq

abbrev ConversationTurns := FrozenMap ConversationStateKey (List ConversationTurnRecordV2)
abbrev ClarificationRecords := FrozenMap ConversationStateKey PendingClarificationRecordV1
abbrev ActionLedgerRecords := FrozenMap ActionKey ActionLedgerRecordV2

structure CoordinatorStateRootV1 where
  rootRevision : ℕ
  issuedRecords : FrozenMap RecordKey IssuedResponseRecordV1
  pendingRequestByState : FrozenMap ConversationStateKey RecordKey
  feedbackReceipts : FrozenMap RecordKey FeedbackReceiptV1
  preparedFeedbackTokens : FrozenMap RecordKey PreparedFeedbackTokenRecordV1
  stateRevisions : FrozenMap ConversationStateKey StateRevisionRecordV1
  responseIndex : FrozenMap String RecordKey
  actionIndex : FrozenMap String (ConversationStateKey × String × String)
  conversationTurns : ConversationTurns
  clarificationRecords : ClarificationRecords
  auditRecords : FrozenMap RecordKey AuditRecordV1
  actionLedgerRecords : ActionLedgerRecords
  orders : RootOrders := {}
  deriving DecidableEq

def emptyCoordinatorRoot : CoordinatorStateRootV1 where
  rootRevision := 0
  issuedRecords := ∅
  pendingRequestByState := ∅
  feedbackReceipts := ∅
  preparedFeedbackTokens := ∅
  stateRevisions := ∅
  responseIndex := ∅
  actionIndex := ∅
  conversationTurns := ∅
  clarificationRecords := ∅
  auditRecords := ∅
  actionLedgerRecords := ∅

/-! ## Orders -/

/-- The newest of the timestamps, or -1. -/
def newestEpochMs (timestamps : List ℤ) : ℤ := timestamps.max?.getD (-1)

/-- The time of the newest turn or clarification of a session. -/
def sessionEpochMs (turns : ConversationTurns) (clarifications : ClarificationRecords)
    (key : ConversationStateKey) : ℤ :=
  max (newestEpochMs (((turns.get key).getD []).map (·.createdAtEpochMs)))
    (((clarifications.get key).map (·.createdAtEpochMs)).getD (-1))

/-- The state keys that have a turn or a clarification. -/
def sessionKeys (turns : ConversationTurns) (clarifications : ClarificationRecords) :
    List ConversationStateKey :=
  turns.keys ++ clarifications.keys.filter (· ∉ turns.keys)

def stateSessionEvictionOrder (turns : ConversationTurns) (clarifications : ClarificationRecords) :
    List (RootOrderEntry ConversationStateKey) :=
  ((sessionKeys turns clarifications).map
    (fun key => (sessionEpochMs turns clarifications key, keyBytes key "", key))).insertionSort
    (fun a b => toLex (a.1, a.2.1) ≤ toLex (b.1, b.2.1))

/-- `sorted` on order entries. Equal timestamps and bytes leave the identifiers of the key to
compare, because equal bytes imply equal state keys. -/
def sortEntries {κ : Type} (idents : κ → List String) (rows : List (RootOrderEntry κ)) :
    List (RootOrderEntry κ) :=
  rows.insertionSort (fun a b =>
    toLex (a.1, toLex (a.2.1, idents a.2.2)) ≤ toLex (b.1, toLex (b.2.1, idents b.2.2)))

/-- The order of a map keyed by `(state_key, id)`, by a timestamp of its records. -/
def recordOrder {V : Type} (m : FrozenMap RecordKey V) (timestamp : V → ℤ) :
    List (RootOrderEntry RecordKey) :=
  sortEntries (fun k => [k.ident])
    (m.entries.map (fun e => (timestamp e.2, keyBytes e.1.stateKey e.1.ident, e.1)))

/-- The order of the ledger, whose bytes leave out the response id. -/
def ledgerOrder (m : ActionLedgerRecords) (timestamp : ActionLedgerRecordV2 → ℤ) :
    List (RootOrderEntry ActionKey) :=
  sortEntries (fun k => [k.responseId, k.actionId])
    (m.entries.map (fun e => (timestamp e.2, keyBytes e.1.stateKey e.1.actionId, e.1)))

def conversationExpiryOrder (turns : ConversationTurns) : List (RootOrderEntry RecordKey) :=
  sortEntries (fun k => [k.ident]) (turns.entries.flatMap (fun e => e.2.map (fun turn =>
    (turn.createdAtEpochMs, keyBytes e.1 (toString turn.ordinal),
      RecordKey.mk e.1 (toString turn.ordinal)))))

def clarificationExpiryOrder (clarifications : ClarificationRecords) :
    List (RootOrderEntry ConversationStateKey) :=
  sortEntries (fun _ => []) (clarifications.entries.map
    (fun e => (e.2.createdAtEpochMs, keyBytes e.1 e.2.clarificationRef, e.1)))

def stateRevisionOrder (m : FrozenMap ConversationStateKey StateRevisionRecordV1) :
    List (RootOrderEntry ConversationStateKey) :=
  sortEntries (fun _ => [])
    (m.entries.map (fun e => (e.2.expiresAtMonotonicNs, keyBytes e.1 "", e.1)))

/-- The complete records of the issued map. -/
def completeRecords (m : FrozenMap RecordKey IssuedResponseRecordV1) :
    FrozenMap RecordKey CompleteIssuedResponseRecordV1 :=
  m.filterMap (fun _ r => r.complete?)

/-- All derived orders of a root. -/
def rootOrders (root : CoordinatorStateRootV1) : RootOrders where
  issuedExpiryOrder := recordOrder root.issuedRecords (·.expiresAtMonotonicNs)
  issuedCompleteEvictionOrder :=
    recordOrder (completeRecords root.issuedRecords) (·.completedAtMonotonicNs)
  conversationExpiryOrder := conversationExpiryOrder root.conversationTurns
  stateSessionEvictionOrder :=
    stateSessionEvictionOrder root.conversationTurns root.clarificationRecords
  clarificationExpiryOrder := clarificationExpiryOrder root.clarificationRecords
  auditExpiryOrder := recordOrder root.auditRecords (·.expiresAtMonotonicNs)
  auditEvictionOrder := recordOrder root.auditRecords (·.createdAtEpochMs)
  actionLedgerExpiryOrder := ledgerOrder root.actionLedgerRecords (·.expiresAtMonotonicNs)
  actionLedgerEvictionOrder := ledgerOrder root.actionLedgerRecords (·.receivedAtEpochMs)
  feedbackReceiptExpiryOrder := recordOrder root.feedbackReceipts (·.expiresAtMonotonicNs)
  preparedTokenExpiryOrder :=
    recordOrder root.preparedFeedbackTokens (·.preparation.expiresAtMonotonicNs)
  stateRevisionExpiryOrder := stateRevisionOrder root.stateRevisions
  stateRevisionEvictionOrder := stateRevisionOrder root.stateRevisions

def withRootOrders (root : CoordinatorStateRootV1) : CoordinatorStateRootV1 :=
  { root with orders := rootOrders root }

end MarketSupport
