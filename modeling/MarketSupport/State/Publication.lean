import MarketSupport.State.Coordinator

/-!
# Publication

A root that passes publication is its candidate with the ledger trimmed, the unpinned
revisions removed and the orders recomputed.

## Main results

* `prepareRootForPublication_ok` — what publication accepts and returns.
* `publish_cases` — a publication moves to the published candidate or changes no root.
-/

namespace MarketSupport

open Library

/-! ## Pinned keys -/

/-- Some entry of the root belongs to the conversation `k`. -/
inductive Pinned (root : CoordinatorStateRootV1) (k : ConversationStateKey) : Prop where
  | turns {v} (h : root.conversationTurns.get k = some v)
  | clarification {v} (h : root.clarificationRecords.get k = some v)
  | issued {ident v} (h : root.issuedRecords.get ⟨k, ident⟩ = some v)
  | receipt {ident v} (h : root.feedbackReceipts.get ⟨k, ident⟩ = some v)
  | token {ident v} (h : root.preparedFeedbackTokens.get ⟨k, ident⟩ = some v)
  | ledger {responseId actionId v}
      (h : root.actionLedgerRecords.get ⟨k, responseId, actionId⟩ = some v)
  | audit {ident v} (h : root.auditRecords.get ⟨k, ident⟩ = some v)

theorem mem_map_stateKey {V : Type} {m : FrozenMap RecordKey V} {k : ConversationStateKey} :
    k ∈ m.keys.map (·.stateKey) ↔ ∃ ident v, m.get ⟨k, ident⟩ = some v := by
  simp only [List.mem_map, FrozenMap.mem_keys_iff]
  constructor
  · rintro ⟨⟨_, ident⟩, ⟨v, hv⟩, rfl⟩
    exact ⟨ident, v, hv⟩
  · rintro ⟨ident, v, hv⟩
    exact ⟨⟨k, ident⟩, ⟨v, hv⟩, rfl⟩

theorem mem_map_stateKey_ledger {m : ActionLedgerRecords} {k : ConversationStateKey} :
    k ∈ m.keys.map (·.stateKey) ↔ ∃ responseId actionId v,
      m.get ⟨k, responseId, actionId⟩ = some v := by
  simp only [List.mem_map, FrozenMap.mem_keys_iff]
  constructor
  · rintro ⟨⟨_, responseId, actionId⟩, ⟨v, hv⟩, rfl⟩
    exact ⟨responseId, actionId, v, hv⟩
  · rintro ⟨responseId, actionId, v, hv⟩
    exact ⟨⟨k, responseId, actionId⟩, ⟨v, hv⟩, rfl⟩

theorem mem_pinnedStateKeys {root : CoordinatorStateRootV1} {k : ConversationStateKey} :
    k ∈ pinnedStateKeys root ↔ Pinned root k := by
  simp only [pinnedStateKeys, List.mem_append, mem_map_stateKey, mem_map_stateKey_ledger,
    FrozenMap.mem_keys_iff]
  constructor
  · rintro ((((((⟨_, h⟩ | ⟨_, h⟩) | ⟨_, _, h⟩) | ⟨_, _, h⟩) | ⟨_, _, h⟩) |
      ⟨_, _, _, h⟩) | ⟨_, _, h⟩)
    · exact .turns h
    · exact .clarification h
    · exact .issued h
    · exact .receipt h
    · exact .token h
    · exact .ledger h
    · exact .audit h
  · intro h
    cases h with
    | turns h => exact .inl (.inl (.inl (.inl (.inl (.inl ⟨_, h⟩)))))
    | clarification h => exact .inl (.inl (.inl (.inl (.inl (.inr ⟨_, h⟩)))))
    | issued h => exact .inl (.inl (.inl (.inl (.inr ⟨_, _, h⟩))))
    | receipt h => exact .inl (.inl (.inl (.inr ⟨_, _, h⟩)))
    | token h => exact .inl (.inl (.inr ⟨_, _, h⟩))
    | ledger h => exact .inl (.inr ⟨_, _, _, h⟩)
    | audit h => exact .inr ⟨_, _, h⟩

/-- The entries of `k` in `a` all have one in `b` under their key. -/
structure EntriesWithin (a b : CoordinatorStateRootV1) (k : ConversationStateKey) : Prop where
  turns : ∀ {v}, a.conversationTurns.get k = some v → ∃ w, b.conversationTurns.get k = some w :=
    by exact fun h => ⟨_, h⟩
  clarification : ∀ {v}, a.clarificationRecords.get k = some v →
    ∃ w, b.clarificationRecords.get k = some w := by exact fun h => ⟨_, h⟩
  issued : ∀ {ident v}, a.issuedRecords.get ⟨k, ident⟩ = some v →
    ∃ w, b.issuedRecords.get ⟨k, ident⟩ = some w := by exact fun h => ⟨_, h⟩
  receipt : ∀ {ident v}, a.feedbackReceipts.get ⟨k, ident⟩ = some v →
    ∃ w, b.feedbackReceipts.get ⟨k, ident⟩ = some w := by exact fun h => ⟨_, h⟩
  token : ∀ {ident v}, a.preparedFeedbackTokens.get ⟨k, ident⟩ = some v →
    ∃ w, b.preparedFeedbackTokens.get ⟨k, ident⟩ = some w := by exact fun h => ⟨_, h⟩
  ledger : ∀ {responseId actionId v}, a.actionLedgerRecords.get ⟨k, responseId, actionId⟩ = some v →
    ∃ w, b.actionLedgerRecords.get ⟨k, responseId, actionId⟩ = some w := by exact fun h => ⟨_, h⟩
  audit : ∀ {ident v}, a.auditRecords.get ⟨k, ident⟩ = some v →
    ∃ w, b.auditRecords.get ⟨k, ident⟩ = some w := by exact fun h => ⟨_, h⟩

theorem Pinned.mono {a b : CoordinatorStateRootV1} {k : ConversationStateKey} (h : Pinned a k)
    (within : EntriesWithin a b k) : Pinned b k := by
  cases h with
  | turns h => exact .turns (within.turns h).choose_spec
  | clarification h => exact .clarification (within.clarification h).choose_spec
  | issued h => exact .issued (within.issued h).choose_spec
  | receipt h => exact .receipt (within.receipt h).choose_spec
  | token h => exact .token (within.token h).choose_spec
  | ledger h => exact .ledger (within.ledger h).choose_spec
  | audit h => exact .audit (within.audit h).choose_spec

theorem get_withoutUnpinnedRevisions (root : CoordinatorStateRootV1) (k : ConversationStateKey) :
    (withoutUnpinnedRevisions root).stateRevisions.get k =
      if k ∈ pinnedStateKeys root then root.stateRevisions.get k else none := by
  unfold withoutUnpinnedRevisions
  rw [FrozenMap.get_withoutKeys]
  by_cases hk : k ∈ pinnedStateKeys root
  · simp [hk]
  · cases hget : root.stateRevisions.get k with
    | none => simp
    | some revision => simp [hk, FrozenMap.mem_keys_iff, hget]

/-! ## The ledger -/

theorem trimLedger_sub {capacity fuel : ℕ} {ledger : ActionLedgerRecords} {k : ActionKey}
    {row : ActionLedgerRecordV2} (h : (trimLedger capacity fuel ledger).get k = some row) :
    ledger.get k = some row := by
  induction fuel generalizing ledger with
  | zero => exact h
  | succ fuel ih =>
    unfold trimLedger at h
    split_ifs at h with hsize
    · exact h
    · split at h
      · exact h
      · exact (FrozenMap.get_withoutKeys_eq_some.mp (ih h)).1

theorem trimLedger_eq {capacity : ℕ} {ledger : ActionLedgerRecords} (fuel : ℕ)
    (h : ledger.size ≤ capacity) : trimLedger capacity fuel ledger = ledger := by
  cases fuel with
  | zero => rfl
  | succ fuel => simp [trimLedger, h]

/-! ## The published root -/

/-- What publication makes of a candidate. -/
def published (candidate : CoordinatorStateRootV1) : CoordinatorStateRootV1 :=
  withRootOrders (withoutUnpinnedRevisions (enforceInactiveRecordCapacities candidate))

section

variable (candidate : CoordinatorStateRootV1)

@[simp] theorem published_rootRevision :
    (published candidate).rootRevision = candidate.rootRevision := rfl
@[simp] theorem published_issuedRecords :
    (published candidate).issuedRecords = candidate.issuedRecords := rfl
@[simp] theorem published_pendingRequestByState :
    (published candidate).pendingRequestByState = candidate.pendingRequestByState := rfl
@[simp] theorem published_feedbackReceipts :
    (published candidate).feedbackReceipts = candidate.feedbackReceipts := rfl
@[simp] theorem published_preparedFeedbackTokens :
    (published candidate).preparedFeedbackTokens = candidate.preparedFeedbackTokens := rfl
@[simp] theorem published_responseIndex :
    (published candidate).responseIndex = candidate.responseIndex := rfl
@[simp] theorem published_actionIndex :
    (published candidate).actionIndex = candidate.actionIndex := rfl
@[simp] theorem published_conversationTurns :
    (published candidate).conversationTurns = candidate.conversationTurns := rfl
@[simp] theorem published_clarificationRecords :
    (published candidate).clarificationRecords = candidate.clarificationRecords := rfl
@[simp] theorem published_auditRecords :
    (published candidate).auditRecords = candidate.auditRecords := rfl

end

theorem published_ledger_sub {candidate : CoordinatorStateRootV1} {k : ActionKey}
    {row : ActionLedgerRecordV2} (h : (published candidate).actionLedgerRecords.get k = some row) :
    candidate.actionLedgerRecords.get k = some row := trimLedger_sub h

theorem published_ledger_eq {candidate : CoordinatorStateRootV1}
    (h : candidate.actionLedgerRecords.size ≤ actionLedgerCapacity) :
    (published candidate).actionLedgerRecords = candidate.actionLedgerRecords := trimLedger_eq _ h

theorem get_published_stateRevisions (candidate : CoordinatorStateRootV1)
    (k : ConversationStateKey) : (published candidate).stateRevisions.get k =
      if k ∈ pinnedStateKeys (published candidate) then candidate.stateRevisions.get k else none :=
  get_withoutUnpinnedRevisions (enforceInactiveRecordCapacities candidate) k

theorem published_stateRevisions_of_pinned {candidate : CoordinatorStateRootV1}
    {k : ConversationStateKey} (h : Pinned (published candidate) k) :
    (published candidate).stateRevisions.get k = candidate.stateRevisions.get k := by
  rw [get_published_stateRevisions, if_pos (mem_pinnedStateKeys.mpr h)]

theorem published_stateRevisions_sub {candidate : CoordinatorStateRootV1}
    {k : ConversationStateKey} {revision : StateRevisionRecordV1}
    (h : (published candidate).stateRevisions.get k = some revision) :
    candidate.stateRevisions.get k = some revision ∧ Pinned (published candidate) k := by
  rw [get_published_stateRevisions] at h
  split_ifs at h with hk
  exact ⟨h, mem_pinnedStateKeys.mp hk⟩

theorem Pinned.of_published {candidate : CoordinatorStateRootV1} {k : ConversationStateKey}
    (h : Pinned (published candidate) k) : Pinned candidate k :=
  h.mono { ledger := fun h => ⟨_, published_ledger_sub h⟩ }

/-- Pruning before publication changes nothing: the ledger is trimmed first either way. -/
theorem published_withoutUnpinnedRevisions (candidate : CoordinatorStateRootV1) :
    published (withoutUnpinnedRevisions candidate) = published candidate := by
  have hrev : (published (withoutUnpinnedRevisions candidate)).stateRevisions =
      (published candidate).stateRevisions := by
    refine FrozenMap.ext_get fun k => ?_
    rw [get_published_stateRevisions, get_published_stateRevisions, get_withoutUnpinnedRevisions]
    have hpin : pinnedStateKeys (published (withoutUnpinnedRevisions candidate)) =
        pinnedStateKeys (published candidate) := rfl
    rw [hpin]
    by_cases hk : k ∈ pinnedStateKeys (published candidate)
    · have hk' : k ∈ pinnedStateKeys candidate :=
        mem_pinnedStateKeys.mpr (mem_pinnedStateKeys.mp hk).of_published
      simp [hk, hk']
    · simp [hk]
  have hrev' : (withoutUnpinnedRevisions (enforceInactiveRecordCapacities
      (withoutUnpinnedRevisions candidate))).stateRevisions =
      (withoutUnpinnedRevisions (enforceInactiveRecordCapacities candidate)).stateRevisions := hrev
  have hpruned : withoutUnpinnedRevisions (enforceInactiveRecordCapacities
      (withoutUnpinnedRevisions candidate)) =
      withoutUnpinnedRevisions (enforceInactiveRecordCapacities candidate) :=
    CoordinatorStateRootV1.mk.injEq .. ▸ ⟨rfl, rfl, rfl, rfl, rfl, hrev', rfl, rfl, rfl, rfl,
      rfl, rfl, rfl⟩
  unfold published
  rw [hpruned]

/-- Pruned roots have no unpinned revision left, so the capacity can only refuse. -/
theorem enforceStateRevisionCapacity_eq (root : CoordinatorStateRootV1) (capacity : ℕ) :
    enforceStateRevisionCapacity root capacity =
      if (withoutUnpinnedRevisions root).stateRevisions.size ≤ capacity then
        .ok (withoutUnpinnedRevisions root)
      else .error stateStoreUnavailable := by
  have hnone : (withoutUnpinnedRevisions root).stateRevisions.entries.filter
      (fun e => e.1 ∉ pinnedStateKeys (withoutUnpinnedRevisions root)) = [] := by
    rw [List.filter_eq_nil_iff]
    rintro ⟨k, v⟩ hmem
    have hget := FrozenMap.get_eq_some_iff.mpr hmem
    rw [get_withoutUnpinnedRevisions] at hget
    split_ifs at hget with hk
    have hk' : k ∈ pinnedStateKeys (withoutUnpinnedRevisions root) := hk
    simpa using hk'
  unfold enforceStateRevisionCapacity
  simp only [hnone]
  split_ifs with hsize hlen
  · rfl
  · rfl
  · simp [sortEntries] at hlen
    omega

/-- The index checks of a root that is published. -/
def indexesValid (root : CoordinatorStateRootV1) : Bool :=
  pendingIndexValid root && responseIndexValid root && actionIndexValid root

/-- The orders of a published candidate are always the expected ones. -/
theorem prepareRootForPublication_eq (candidate : CoordinatorStateRootV1) (capacity : ℕ) :
    prepareRootForPublication candidate capacity =
      if (published candidate).stateRevisions.size ≤ capacity ∧
        indexesValid (published candidate) = true then .ok (published candidate)
      else .error stateStoreUnavailable := by
  have horders : (published candidate).orders = rootOrders (published candidate) := rfl
  have hvalid : validateRoot (published candidate) =
      if indexesValid (published candidate) then .ok () else .error stateStoreUnavailable := by
    unfold validateRoot indexesValid
    simp [horders]
  unfold prepareRootForPublication
  rw [enforceStateRevisionCapacity_eq]
  by_cases hsize : (published candidate).stateRevisions.size ≤ capacity
  · have hsize' : (withoutUnpinnedRevisions (enforceInactiveRecordCapacities
        candidate)).stateRevisions.size ≤ capacity := hsize
    rw [if_pos hsize']
    change (do validateRoot (published candidate); return published candidate) = _
    rw [hvalid]
    cases indexesValid (published candidate) <;> simp [hsize]
  · have hsize' : ¬ (withoutUnpinnedRevisions (enforceInactiveRecordCapacities
        candidate)).stateRevisions.size ≤ capacity := hsize
    rw [if_neg hsize']
    simp [hsize]
    rfl

/-- Publication returns the published candidate. -/
theorem prepareRootForPublication_ok {candidate root : CoordinatorStateRootV1} {capacity : ℕ}
    (h : prepareRootForPublication candidate capacity = .ok root) :
    root = published candidate ∧ indexesValid root = true := by
  rw [prepareRootForPublication_eq] at h
  split_ifs at h with hok
  obtain rfl := Except.ok.inj h
  exact ⟨rfl, hok.2⟩

/-! ## Publishing -/

/-- A publication moves to the published candidate, one revision on, or changes no root. -/
theorem publish_cases {setup : CoordinatorSetup} {operation : ReplyStateJournalOperationV1}
    {initiating : Option ConversationStateKey} {draws : PublicationDraws}
    {candidate : CoordinatorStateRootV1} {c c' : Coordinator}
    {result : Except CoordinatorException Unit}
    (h : publish setup operation initiating draws candidate c = (result, c')) :
    (result = .ok () ∧ c'.root = published candidate ∧
      c'.root.rootRevision = c.root.rootRevision + 1) ∨
    (∃ e, result = .error e) ∧ c'.root = c.root := by
  unfold publish at h
  split at h
  · cases h
    exact .inr ⟨⟨_, rfl⟩, rfl⟩
  · next root hprep =>
    obtain ⟨rfl, _⟩ := prepareRootForPublication_ok hprep
    split_ifs at h with hrev
    · cases h
      exact .inr ⟨⟨_, rfl⟩, rfl⟩
    · split at h <;> cases h
      · exact .inl ⟨rfl, rfl, not_not.mp hrev⟩
      · exact .inr ⟨⟨_, rfl⟩, rfl⟩
      · exact .inr ⟨⟨_, rfl⟩, rfl⟩

end MarketSupport
