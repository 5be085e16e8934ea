import MarketSupport.Identity.KeyBytes
import MarketSupport.State.CoordinatorRuns

/-!
# The keys of the orders

The tuples of an order are compared by their timestamps, then by the bytes of their keys, then by
the keys. A `ConversationStateKey` has no order, so a sort that compared two of them would raise;
the bytes tell two state keys apart before that.

## Main results

* `rootOrders_ordered` — the orders of every root are sorted without comparing state keys, and
  have the keys of their entries.
-/

namespace MarketSupport

open Library

/-! ## Comparing tuples -/

/-- What stands in the tuples of an order. -/
inductive OrderField where
  | int (n : ℤ)
  | bytes (b : Bytes)
  | text (s : String)
  | stateKey (k : ConversationStateKey)
  deriving DecidableEq

/-- `<` of two fields; `none` is the `TypeError` of two state keys. -/
def OrderField.lt : OrderField → OrderField → Option Bool
  | .int m, .int n => some (m < n)
  | .bytes b, .bytes c => some (b < c)
  | .text s, .text t => some (s < t)
  | _, _ => none

/-- `<` of two tuples: the first fields that differ decide. A tuple inside of a tuple stands as its
own fields. -/
def fieldsLt : List OrderField → List OrderField → Option Bool
  | [], [] => some false
  | [], _ :: _ => some true
  | _ :: _, [] => some false
  | a :: as, b :: bs => if a = b then fieldsLt as bs else a.lt b

section Rows

variable {κ : Type} (stateKey : κ → ConversationStateKey) (idents : κ → List String)

/-- The fields of a tuple; `idents` are those of its key after the state key. -/
def rowFields (row : RootOrderEntry κ) : List OrderField :=
  .int row.1 :: .bytes row.2.1 :: .stateKey (stateKey row.2.2) :: (idents row.2.2).map .text

/-- The rows can be compared, they are sorted, and their keys are these. -/
structure OrderedRows (rows : List (RootOrderEntry κ)) (keys : List κ) : Prop where
  compares : ∀ a ∈ rows, ∀ b ∈ rows,
    (fieldsLt (rowFields stateKey idents a) (rowFields stateKey idents b)).isSome = true
  sorted : rows.Pairwise fun a b =>
    fieldsLt (rowFields stateKey idents b) (rowFields stateKey idents a) = some false
  keys : (rows.map (·.2.2)).Perm keys

/-- The rows of a map keyed by `(state_key, id)`. -/
def OrderedRecords : List (RootOrderEntry RecordKey) → List RecordKey → Prop :=
  OrderedRows (·.stateKey) (fun k => [k.ident])

def OrderedActions : List (RootOrderEntry ActionKey) → List ActionKey → Prop :=
  OrderedRows (·.stateKey) (fun k => [k.responseId, k.actionId])

def OrderedStates : List (RootOrderEntry ConversationStateKey) → List ConversationStateKey → Prop :=
  OrderedRows id (fun _ => [])

end Rows

/-! ## The property -/

/-- The keys of the turns of all conversations. -/
def turnKeys (turns : ConversationTurns) : List RecordKey :=
  turns.entries.flatMap fun e => e.2.map fun turn => ⟨e.1, toString turn.ordinal⟩

/-- Every order is sorted without comparing state keys, and has the keys of its map: the order of
the complete responses those of the complete records, the order of the turns one for each turn, and
the order of the sessions the state keys with a turn or a clarification. -/
structure OrdersByKeys (root : CoordinatorStateRootV1) (orders : RootOrders) : Prop where
  issuedExpiry : OrderedRecords orders.issuedExpiryOrder root.issuedRecords.keys
  issuedComplete : OrderedRecords orders.issuedCompleteEvictionOrder
    (completeRecords root.issuedRecords).keys
  conversationExpiry : OrderedRecords orders.conversationExpiryOrder
    (turnKeys root.conversationTurns)
  stateSession : OrderedStates orders.stateSessionEvictionOrder
    (sessionKeys root.conversationTurns root.clarificationRecords)
  clarificationExpiry : OrderedStates orders.clarificationExpiryOrder root.clarificationRecords.keys
  auditExpiry : OrderedRecords orders.auditExpiryOrder root.auditRecords.keys
  auditEviction : OrderedRecords orders.auditEvictionOrder root.auditRecords.keys
  actionLedgerExpiry : OrderedActions orders.actionLedgerExpiryOrder root.actionLedgerRecords.keys
  actionLedgerEviction : OrderedActions orders.actionLedgerEvictionOrder
    root.actionLedgerRecords.keys
  feedbackReceiptExpiry :
    OrderedRecords orders.feedbackReceiptExpiryOrder root.feedbackReceipts.keys
  preparedTokenExpiry : OrderedRecords orders.preparedTokenExpiryOrder
    root.preparedFeedbackTokens.keys
  stateRevisionExpiry : OrderedStates orders.stateRevisionExpiryOrder root.stateRevisions.keys
  stateRevisionEviction : OrderedStates orders.stateRevisionEvictionOrder root.stateRevisions.keys

/-- Every order has the keys of a map of the root, those of the responses all issued records and
those of the turns all conversations. -/
structure OrdersPermuteKeys (root : CoordinatorStateRootV1) (orders : RootOrders) : Prop
    extends OrdersByKeys root orders where
  allIssued : (orders.issuedCompleteEvictionOrder.map (·.2.2)).Perm root.issuedRecords.keys
  allConversations : (orders.conversationExpiryOrder.map (·.2.2.stateKey)).Perm
    root.conversationTurns.keys

/-! ## Rows with key bytes -/

section Rows

variable {κ : Type} {stateKey : κ → ConversationStateKey} {idents : κ → List String}
  {rows : List (RootOrderEntry κ)} {a b : RootOrderEntry κ}

variable (stateKey) in
/-- The bytes of a row are those of its state key, with a suffix. -/
def HasKeyBytes (row : RootOrderEntry κ) : Prop :=
  ∃ suffix, row.2.1 = keyBytes (stateKey row.2.2) suffix

variable (idents) in
/-- What the sort compares. -/
def rowOrder (row : RootOrderEntry κ) : ℤ ×ₗ Bytes ×ₗ List String :=
  toLex (row.1, toLex (row.2.1, idents row.2.2))

theorem fieldsLt_texts (l m : List String) :
    fieldsLt (l.map .text) (m.map .text) = some (decide (l < m)) := by
  induction l generalizing m with
  | nil => cases m <;> simp [fieldsLt]
  | cons s l ih =>
    cases m with
    | nil => simp [fieldsLt]
    | cons t m =>
      by_cases hst : s = t
      · subst hst
        simp [fieldsLt, ih]
      · simp [fieldsLt, hst, OrderField.lt, List.cons_lt_cons_iff]

/-- Rows with the bytes of their keys are compared as the sort compares them. -/
theorem fieldsLt_rowFields (ha : HasKeyBytes stateKey a) (hb : HasKeyBytes stateKey b) :
    fieldsLt (rowFields stateKey idents a) (rowFields stateKey idents b) =
      some (decide (rowOrder idents a < rowOrder idents b)) := by
  obtain ⟨s, ha⟩ := ha
  obtain ⟨t, hb⟩ := hb
  simp only [rowFields, rowOrder, fieldsLt, OrderField.int.injEq, OrderField.bytes.injEq,
    Prod.Lex.toLex_lt_toLex]
  by_cases htime : a.1 = b.1
  · by_cases hbytes : a.2.1 = b.2.1
    · -- equal bytes are those of one state key
      have hstate : stateKey a.2.2 = stateKey b.2.2 :=
        (keyBytes_inj.mp (ha.symm.trans (hbytes.trans hb))).1
      simp [htime, hbytes, hstate, fieldsLt_texts]
    · simp [htime, hbytes, OrderField.lt]
  · simp [htime, OrderField.lt]

theorem orderedRows_of_rowOrder {keys : List κ} (hkeyed : ∀ row ∈ rows, HasKeyBytes stateKey row)
    (hsorted : rows.Pairwise fun a b => rowOrder idents a ≤ rowOrder idents b)
    (hkeys : (rows.map (·.2.2)).Perm keys) : OrderedRows stateKey idents rows keys where
  compares a ha b hb := by
    rw [fieldsLt_rowFields (hkeyed a ha) (hkeyed b hb)]
    rfl
  sorted := hsorted.imp_of_mem fun {a b} ha hb hle => by
    rw [fieldsLt_rowFields (hkeyed b hb) (hkeyed a ha), decide_eq_false (not_lt.mpr hle)]
  keys := hkeys

theorem orderedRows_sortEntries {keys : List κ} (hkeyed : ∀ row ∈ rows, HasKeyBytes stateKey row)
    (hkeys : rows.map (·.2.2) = keys) :
    OrderedRows stateKey idents (sortEntries idents rows) keys := by
  have hperm : (sortEntries idents rows).Perm rows := List.perm_insertionSort _ rows
  refine orderedRows_of_rowOrder (fun row hrow => hkeyed row (hperm.subset hrow)) ?_ ?_
  · have htotal : Std.Total fun a b => rowOrder idents a ≤ rowOrder idents b :=
      ⟨fun a b => le_total _ _⟩
    have htrans : IsTrans _ fun a b => rowOrder idents a ≤ rowOrder idents b :=
      ⟨fun _ _ _ => le_trans⟩
    exact List.pairwise_insertionSort (fun a b => rowOrder idents a ≤ rowOrder idents b) rows
  · exact hkeys ▸ hperm.map _

end Rows

/-! ## The orders of a root -/

theorem orderedRecords_recordOrder {V : Type} (m : FrozenMap RecordKey V) (timestamp : V → ℤ) :
    OrderedRecords (recordOrder m timestamp) m.keys := by
  refine orderedRows_sortEntries (fun row hrow => ?_) ?_
  · obtain ⟨e, _, rfl⟩ := List.mem_map.mp hrow
    exact ⟨_, rfl⟩
  · rw [List.map_map]
    rfl

theorem orderedActions_ledgerOrder (m : ActionLedgerRecords)
    (timestamp : ActionLedgerRecordV2 → ℤ) : OrderedActions (ledgerOrder m timestamp) m.keys := by
  refine orderedRows_sortEntries (fun row hrow => ?_) ?_
  · obtain ⟨e, _, rfl⟩ := List.mem_map.mp hrow
    exact ⟨_, rfl⟩
  · rw [List.map_map]
    rfl

theorem orderedRecords_conversationExpiryOrder (turns : ConversationTurns) :
    OrderedRecords (conversationExpiryOrder turns) (turnKeys turns) := by
  refine orderedRows_sortEntries (fun row hrow => ?_) ?_
  · obtain ⟨e, _, hrow⟩ := List.mem_flatMap.mp hrow
    obtain ⟨turn, _, rfl⟩ := List.mem_map.mp hrow
    exact ⟨_, rfl⟩
  · rw [List.map_flatMap]
    simp only [List.map_map]
    rfl

theorem orderedStates_clarificationExpiryOrder (clarifications : ClarificationRecords) :
    OrderedStates (clarificationExpiryOrder clarifications) clarifications.keys := by
  refine orderedRows_sortEntries (fun row hrow => ?_) ?_
  · obtain ⟨e, _, rfl⟩ := List.mem_map.mp hrow
    exact ⟨_, rfl⟩
  · rw [List.map_map]
    rfl

theorem orderedStates_stateRevisionOrder
    (m : FrozenMap ConversationStateKey StateRevisionRecordV1) :
    OrderedStates (stateRevisionOrder m) m.keys := by
  refine orderedRows_sortEntries (fun row hrow => ?_) ?_
  · obtain ⟨e, _, rfl⟩ := List.mem_map.mp hrow
    exact ⟨_, rfl⟩
  · rw [List.map_map]
    rfl

/-- Without more fields, the sort compares timestamps and bytes. -/
theorem rowOrder_le_of_le {a b : RootOrderEntry ConversationStateKey}
    (h : toLex (a.1, a.2.1) ≤ toLex (b.1, b.2.1)) :
    rowOrder (fun _ => []) a ≤ rowOrder (fun _ => []) b := by
  rw [Prod.Lex.toLex_le_toLex] at h
  refine Prod.Lex.toLex_le_toLex.mpr (h.imp_right fun ⟨htime, hbytes⟩ => ⟨htime, ?_⟩)
  exact Prod.Lex.toLex_le_toLex.mpr (hbytes.lt_or_eq.imp_right fun heq => ⟨heq, le_rfl⟩)

theorem orderedStates_stateSessionEvictionOrder (turns : ConversationTurns)
    (clarifications : ClarificationRecords) :
    OrderedStates (stateSessionEvictionOrder turns clarifications)
      (sessionKeys turns clarifications) := by
  have hperm := List.perm_insertionSort
    (fun a b : RootOrderEntry ConversationStateKey => toLex (a.1, a.2.1) ≤ toLex (b.1, b.2.1))
    ((sessionKeys turns clarifications).map fun key =>
      (sessionEpochMs turns clarifications key, keyBytes key "", key))
  have htotal : Std.Total fun a b : RootOrderEntry ConversationStateKey =>
    toLex (a.1, a.2.1) ≤ toLex (b.1, b.2.1) := ⟨fun a b => le_total _ _⟩
  have htrans : IsTrans _ fun a b : RootOrderEntry ConversationStateKey =>
    toLex (a.1, a.2.1) ≤ toLex (b.1, b.2.1) := ⟨fun _ _ _ => le_trans⟩
  refine orderedRows_of_rowOrder (fun row hrow => ?_) ?_ ?_
  · obtain ⟨key, _, rfl⟩ := List.mem_map.mp (hperm.subset hrow)
    exact ⟨"", rfl⟩
  · exact (List.pairwise_insertionSort _ _).imp rowOrder_le_of_le
  · have hkeys := hperm.map (·.2.2)
    rw [List.map_map] at hkeys
    exact hkeys.trans (.of_eq (List.map_id _))

/-- The bytes of a key tell both of its parts, so the orders of a root are sorted without comparing
state keys, and have the keys of its maps. -/
theorem rootOrders_ordered (root : CoordinatorStateRootV1) :
    (∀ k l s t, keyBytes k s = keyBytes l t → k = l ∧ s = t) ∧
      OrdersByKeys root (withRootOrders root).orders :=
  ⟨fun _ _ _ _ h => keyBytes_inj.mp h, {
    issuedExpiry := orderedRecords_recordOrder ..
    issuedComplete := orderedRecords_recordOrder ..
    conversationExpiry := orderedRecords_conversationExpiryOrder _
    stateSession := orderedStates_stateSessionEvictionOrder ..
    clarificationExpiry := orderedStates_clarificationExpiryOrder _
    auditExpiry := orderedRecords_recordOrder ..
    auditEviction := orderedRecords_recordOrder ..
    actionLedgerExpiry := orderedActions_ledgerOrder ..
    actionLedgerEviction := orderedActions_ledgerOrder ..
    feedbackReceiptExpiry := orderedRecords_recordOrder ..
    preparedTokenExpiry := orderedRecords_recordOrder root.preparedFeedbackTokens
      (·.preparation.expiresAtMonotonicNs)
    stateRevisionExpiry := orderedStates_stateRevisionOrder _
    stateRevisionEviction := orderedStates_stateRevisionOrder _ }⟩

def reservedChecked : CheckedTrace sampleSetup Admissible
    (sampleInputs ++ [(.reserveReply sampleKey "s" "h" true, sampleDraws 3 3)]) fun t =>
    decide ((withRootOrders t.2.root).orders.issuedCompleteEvictionOrder.length <
        t.2.root.issuedRecords.keys.length ∧
      t.2.root.conversationTurns.keys.length <
        (withRootOrders t.2.root).orders.conversationExpiryOrder.length) :=
  ⟨by decide +kernel⟩

/-- One reply is committed, with a turn of the user and one of the assistant, and the next one is
reserved: the pending record is not in the order of the complete responses, and the conversation
stands twice in the order of the turns. -/
theorem rootOrders_reserved : ∃ es c, CoordinatorRun sampleSetup Admissible es c ∧
    (withRootOrders c.root).orders.issuedCompleteEvictionOrder.length <
      c.root.issuedRecords.keys.length ∧
    c.root.conversationTurns.keys.length <
      (withRootOrders c.root).orders.conversationExpiryOrder.length ∧
    ¬ OrdersPermuteKeys c.root (withRootOrders c.root).orders := by
  obtain ⟨run, hcheck⟩ := reservedChecked.run
  obtain ⟨hissued, hturns⟩ := of_decide_eq_true hcheck
  refine ⟨_, _, run, hissued, hturns, fun h => ?_⟩
  have hperm := h.allIssued.length_eq
  rw [List.length_map] at hperm
  exact absurd hperm hissued.ne

end MarketSupport
