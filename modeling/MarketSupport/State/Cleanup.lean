import MarketSupport.State.ReplyCommit

/-!
# Cleanup

The removal of expired entries. Conversation turns and clarifications expire by the wall
clock, everything else by the monotonic clock.
-/

namespace MarketSupport

open Library

/-- The keys of the entries whose value satisfies `p`. -/
def keysWhere {K V : Type} [LinearOrder K] (m : FrozenMap K V) (p : V → Bool) : List K :=
  (m.entries.filter (fun e => p e.2)).map (·.1)

/-- The turns of one conversation that survive. -/
def retainedTurns (config : CoordinatorConfigV1) (nowEpochMs : ℤ)
    (turns : List ConversationTurnRecordV2) : List ConversationTurnRecordV2 :=
  lastMessages config.conversationMaxMessages
    (turns.filter (fun turn => nowEpochMs < turn.createdAtEpochMs + config.conversationTtlMs))

def retainedConversationTurns (config : CoordinatorConfigV1) (nowEpochMs : ℤ)
    (turns : ConversationTurns) : ConversationTurns :=
  turns.filterMap (fun _ ts =>
    if retainedTurns config nowEpochMs ts = [] then none
      else some (retainedTurns config nowEpochMs ts))

/-- A record without its expired receipts. -/
def retainedReceipts (nowMonotonicNs : ℤ) (record : CompleteIssuedResponseRecordV1) :
    CompleteIssuedResponseRecordV1 :=
  { record with
    receipts := record.receipts.filter
      (fun receipt => nowMonotonicNs < receipt.expiresAtMonotonicNs) }

/-- What remains of an issued record. -/
def retainedIssuedRecord (nowMonotonicNs : ℤ) (record : IssuedResponseRecordV1) :
    Option IssuedResponseRecordV1 :=
  if record.expiresAtMonotonicNs ≤ nowMonotonicNs then none
  else match record with
  | .pending r => some (.pending r)
  | .complete r => some (.complete (retainedReceipts nowMonotonicNs r))

/-- The sets that `cleanup_candidate` collects. -/
structure ExpiredKeys where
  turnStates : List ConversationStateKey
  changedTurnStates : List ConversationStateKey
  clarifications : List ConversationStateKey
  audits : List RecordKey
  tokens : List RecordKey
  records : List RecordKey
  feedbackReceipts : List RecordKey
  ledgerRows : List ActionKey
  changedIssuedReceipts : Bool
  deriving DecidableEq

def expiredKeys (config : CoordinatorConfigV1) (root : CoordinatorStateRootV1)
    (nowMonotonicNs nowEpochMs : ℤ) : ExpiredKeys where
  turnStates := keysWhere root.conversationTurns
    (fun turns => retainedTurns config nowEpochMs turns = [])
  changedTurnStates := keysWhere root.conversationTurns (fun turns =>
    retainedTurns config nowEpochMs turns ≠ [] ∧ retainedTurns config nowEpochMs turns ≠ turns)
  clarifications := keysWhere root.clarificationRecords
    (fun record => record.createdAtEpochMs + config.conversationTtlMs ≤ nowEpochMs)
  audits := keysWhere root.auditRecords (fun record => record.expiresAtMonotonicNs ≤ nowMonotonicNs)
  tokens := keysWhere root.preparedFeedbackTokens
    (fun token => token.preparation.expiresAtMonotonicNs ≤ nowMonotonicNs)
  records := keysWhere root.issuedRecords (fun record => record.expiresAtMonotonicNs ≤
    nowMonotonicNs)
  feedbackReceipts := keysWhere root.feedbackReceipts
    (fun receipt => receipt.expiresAtMonotonicNs ≤ nowMonotonicNs)
  ledgerRows := keysWhere root.actionLedgerRecords
    (fun row => row.expiresAtMonotonicNs ≤ nowMonotonicNs)
  changedIssuedReceipts := root.issuedRecords.values.any (fun record =>
    nowMonotonicNs < record.expiresAtMonotonicNs &&
      record.complete?.any (fun r => (retainedReceipts nowMonotonicNs r).receipts ≠ r.receipts))

def ExpiredKeys.removed (expired : ExpiredKeys) : ℕ :=
  expired.tokens.length + expired.records.length + expired.feedbackReceipts.length +
    expired.ledgerRows.length + expired.turnStates.length + expired.changedTurnStates.length +
    expired.clarifications.length + expired.audits.length

/-- The complete records under the expired keys. -/
def expiredCompleteRecords (root : CoordinatorStateRootV1) (nowMonotonicNs : ℤ) :
    List CompleteIssuedResponseRecordV1 :=
  (completeRecords root.issuedRecords).values.filter
    (fun record => record.expiresAtMonotonicNs ≤ nowMonotonicNs)

/-- The root without its expired entries. -/
def withoutExpired (config : CoordinatorConfigV1) (root : CoordinatorStateRootV1)
    (nowMonotonicNs nowEpochMs : ℤ) : CoordinatorStateRootV1 :=
  let expired := expiredKeys config root nowMonotonicNs nowEpochMs
  let completed := expiredCompleteRecords root nowMonotonicNs
  { root with
    rootRevision := root.rootRevision + 1
    issuedRecords := root.issuedRecords.filterMap (fun _ r => retainedIssuedRecord nowMonotonicNs r)
    pendingRequestByState := root.pendingRequestByState.withoutKeys
      (keysWhere root.pendingRequestByState (fun key => key ∈ expired.records))
    preparedFeedbackTokens := root.preparedFeedbackTokens.withoutKeys expired.tokens
    responseIndex := root.responseIndex.withoutKeys (completed.map (·.response.responseId))
    actionIndex := root.actionIndex.withoutKeys (completed.flatMap (·.actionIds))
    feedbackReceipts := root.feedbackReceipts.withoutKeys expired.feedbackReceipts
    actionLedgerRecords := root.actionLedgerRecords.withoutKeys expired.ledgerRows
    conversationTurns := retainedConversationTurns config nowEpochMs root.conversationTurns
    clarificationRecords := root.clarificationRecords.withoutKeys expired.clarifications
    auditRecords := root.auditRecords.withoutKeys expired.audits }

/-- `cleanup_candidate`: no candidate when nothing expired. -/
def cleanupCandidate (config : CoordinatorConfigV1) (root : CoordinatorStateRootV1)
    (nowMonotonicNs nowEpochMs : ℤ) : Option CoordinatorStateRootV1 × ℕ :=
  let expired := expiredKeys config root nowMonotonicNs nowEpochMs
  if expired.removed = 0 ∧ expired.changedIssuedReceipts = false then (none, 0)
  else (some (withoutUnpinnedRevisions (withoutExpired config root nowMonotonicNs nowEpochMs)),
    expired.removed)

/-! ## Lookups after a cleanup -/

theorem mem_keysWhere {K V : Type} [LinearOrder K] {m : FrozenMap K V} {p : V → Bool} {k : K} :
    k ∈ keysWhere m p ↔ ∃ v, m.get k = some v ∧ p v = true := by
  simp [keysWhere, FrozenMap.get_eq_some_iff]

theorem get_withoutKeysWhere {K V : Type} [LinearOrder K] {m : FrozenMap K V} {p : V → Bool} {k : K}
    {v : V} : (m.withoutKeys (keysWhere m p)).get k = some v ↔ m.get k = some v ∧ p v = false := by
  rw [FrozenMap.get_withoutKeys_eq_some, mem_keysWhere]
  refine and_congr_right fun hv => ?_
  simp [hv]

theorem mem_expiredCompleteRecords {root : CoordinatorStateRootV1} {now : ℤ}
    {record : CompleteIssuedResponseRecordV1} : record ∈ expiredCompleteRecords root now ↔
      ∃ k, root.issuedRecords.get k = some (.complete record) ∧
        record.expiresAtMonotonicNs ≤ now := by
  simp [expiredCompleteRecords, FrozenMap.mem_values_iff, completeRecords, FrozenMap.get_filterMap,
    Option.bind_eq_some_iff]

section

variable {config : CoordinatorConfigV1} {root : CoordinatorStateRootV1} {mono epoch : ℤ}

theorem retainedIssuedRecord_eq_none {now : ℤ} {record : IssuedResponseRecordV1} :
    retainedIssuedRecord now record = none ↔ record.expiresAtMonotonicNs ≤ now := by
  unfold retainedIssuedRecord
  split_ifs with h
  · simp [h]
  · cases record <;> simp [h]

theorem get_withoutExpired_issued (k : RecordKey) :
    (withoutExpired config root mono epoch).issuedRecords.get k =
      (root.issuedRecords.get k).bind (retainedIssuedRecord mono) :=
  FrozenMap.get_filterMap ..

/-- A complete record that survives lost only receipts. -/
theorem get_withoutExpired_complete {k : RecordKey} {record : CompleteIssuedResponseRecordV1} :
    (withoutExpired config root mono epoch).issuedRecords.get k = some (.complete record) ↔
      ∃ before, root.issuedRecords.get k = some (.complete before) ∧
        mono < before.expiresAtMonotonicNs ∧ record = retainedReceipts mono before := by
  rw [get_withoutExpired_issued, Option.bind_eq_some_iff]
  constructor
  · rintro ⟨r, hr, h⟩
    unfold retainedIssuedRecord at h
    split_ifs at h with hexp
    cases r with
    | pending p => cases h
    | complete c =>
      simp only [Option.some.injEq, IssuedResponseRecordV1.complete.injEq] at h
      exact ⟨c, hr, not_le.mp hexp, h.symm⟩
  · rintro ⟨before, hr, hexp, rfl⟩
    exact ⟨_, hr, if_neg (not_le.mpr hexp)⟩

theorem get_withoutExpired_pendingRecord {k : RecordKey} {record : PendingIssuedResponseRecordV1} :
    (withoutExpired config root mono epoch).issuedRecords.get k = some (.pending record) ↔
      root.issuedRecords.get k = some (.pending record) ∧ mono < record.expiresAtMonotonicNs := by
  rw [get_withoutExpired_issued, Option.bind_eq_some_iff]
  constructor
  · rintro ⟨r, hr, h⟩
    unfold retainedIssuedRecord at h
    split_ifs at h with hexp
    cases r with
    | complete c => cases h
    | pending p =>
      simp only [Option.some.injEq, IssuedResponseRecordV1.pending.injEq] at h
      subst h
      exact ⟨hr, not_le.mp hexp⟩
  · rintro ⟨hr, hexp⟩
    exact ⟨_, hr, if_neg (not_le.mpr hexp)⟩

theorem get_withoutExpired_tokens {k : RecordKey} {token : PreparedFeedbackTokenRecordV1} :
    (withoutExpired config root mono epoch).preparedFeedbackTokens.get k = some token ↔
      root.preparedFeedbackTokens.get k = some token ∧
        mono < token.preparation.expiresAtMonotonicNs := by
  rw [withoutExpired, expiredKeys, get_withoutKeysWhere]
  simp

theorem get_withoutExpired_receipts {k : RecordKey} {receipt : FeedbackReceiptV1} :
    (withoutExpired config root mono epoch).feedbackReceipts.get k = some receipt ↔
      root.feedbackReceipts.get k = some receipt ∧ mono < receipt.expiresAtMonotonicNs := by
  rw [withoutExpired, expiredKeys, get_withoutKeysWhere]
  simp

theorem get_withoutExpired_ledger {k : ActionKey} {row : ActionLedgerRecordV2} :
    (withoutExpired config root mono epoch).actionLedgerRecords.get k = some row ↔
      root.actionLedgerRecords.get k = some row ∧ mono < row.expiresAtMonotonicNs := by
  rw [withoutExpired, expiredKeys, get_withoutKeysWhere]
  simp

theorem get_withoutExpired_audits {k : RecordKey} {record : AuditRecordV1} :
    (withoutExpired config root mono epoch).auditRecords.get k = some record ↔
      root.auditRecords.get k = some record ∧ mono < record.expiresAtMonotonicNs := by
  rw [withoutExpired, expiredKeys, get_withoutKeysWhere]
  simp

theorem get_withoutExpired_clarifications {k : ConversationStateKey}
    {record : PendingClarificationRecordV1} :
    (withoutExpired config root mono epoch).clarificationRecords.get k = some record ↔
      root.clarificationRecords.get k = some record ∧
        epoch < record.createdAtEpochMs + config.conversationTtlMs := by
  rw [withoutExpired, expiredKeys, get_withoutKeysWhere]
  simp

theorem get_withoutExpired_turns {k : ConversationStateKey}
    {turns : List ConversationTurnRecordV2} :
    (withoutExpired config root mono epoch).conversationTurns.get k = some turns ↔
      ∃ before, root.conversationTurns.get k = some before ∧
        turns = retainedTurns config epoch before ∧ turns ≠ [] := by
  simp only [withoutExpired, retainedConversationTurns, FrozenMap.get_filterMap,
    Option.bind_eq_some_iff]
  refine exists_congr fun before => and_congr_right fun _ => ?_
  split_ifs with h
  · simp only [false_iff, not_and, not_not]
    exact fun hturns => hturns.trans h
  · simp only [Option.some.injEq]
    exact ⟨fun hturns => ⟨hturns.symm, hturns ▸ h⟩, fun hturns => hturns.1.symm⟩

theorem get_withoutExpired_pending {k : ConversationStateKey} {key : RecordKey} :
    (withoutExpired config root mono epoch).pendingRequestByState.get k = some key ↔
      root.pendingRequestByState.get k = some key ∧
        ∀ record, root.issuedRecords.get key = some record →
          mono < record.expiresAtMonotonicNs := by
  rw [withoutExpired, get_withoutKeysWhere]
  simp [expiredKeys, mem_keysWhere]

end

end MarketSupport
