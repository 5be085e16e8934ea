import MarketSupport.Properties.FeedbackAccounting
import MarketSupport.State.ActionIndex

/-!
# The action ledger

The ledger is a second copy of what feedback said about the actions of a response. It agrees
with the effects of the live records, and the rows that a turn sees are the newest of those.

## Main results

* `deriveLedgerUpdates_changed`, `deriveLedgerUpdates_unchanged` — feedback moves the row of
  an action together with its effects.
* `LedgerAgreement.of_run`, `LedgerRevisions.of_run` — the two copies agree in every run.
* `admittedActionLedgerRows_newest` — the rows that are admitted.
-/

namespace MarketSupport

open Library

/-! ## Updates of the ledger -/

section

variable {root : CoordinatorStateRootV1} {record : CompleteIssuedResponseRecordV1}
  {transitions : List PreparedEffectTransitionV1} {received expires : ℤ}
  {effect : IssuedEffectV1} {actionId : String}

/-- An update is about an action whose effects were changed. -/
theorem mem_deriveLedgerUpdates (keyed : ActionKeyed record.effects) {key : ActionKey}
    {row : ActionLedgerRecordV2}
    (h : (key, row) ∈ deriveLedgerUpdates root record transitions received expires) :
    ∃ transition, transitionFor transitions ("action:" ++ key.actionId) = some transition ∧
      transition.isNoop = false ∧ key.stateKey = record.stateKey ∧
      key.responseId = record.response.responseId ∧
      (∃ effect ∈ record.effects, effect.actionId = some key.actionId ∧
        effect.effectType = row.actionType) ∧
      row.stateKey = key.stateKey ∧ row.responseId = key.responseId ∧ row.actionId = key.actionId ∧
      row.status = transition.requestedStatus ∧
      row.artifactRef = transition.requestedArtifactRef ∧
      row.statusRevision = ((root.actionLedgerRecords.get key).map (·.statusRevision)).getD 0 + 1 ∧
      row.expiresAtMonotonicNs = expires ∧ row.par1 = record.par1 ∧ row.grh1 = record.grh1 ∧
      row.bsh1 = record.bsh1 := by
  obtain ⟨effect, heffect, hupdate⟩ := List.mem_filterMap.mp h
  obtain ⟨transition, hfor, hnoop, _, hid, hkey, hresponse, rfl⟩ := ledgerUpdate_eq_some hupdate
  rw [(keyed.key effect heffect _).mp hid] at hfor
  refine ⟨transition, hfor, hnoop, hkey, hresponse, ⟨effect, heffect, hid, rfl⟩, hkey.symm,
    hresponse.symm, rfl, rfl, rfl, ?_, rfl, rfl, rfl, rfl⟩
  cases root.actionLedgerRecords.get key <;> rfl

/-- A changed action has an update. -/
theorem deriveLedgerUpdates_changed (keyed : ActionKeyed record.effects)
    (heffect : effect ∈ record.effects) (hid : effect.actionId = some actionId)
    {transition : PreparedEffectTransitionV1}
    (hfor : transitionFor transitions effect.effectKey = some transition)
    (hnoop : transition.isNoop = false) :
    (⟨record.stateKey, record.response.responseId, actionId⟩ : ActionKey) ∈
      (deriveLedgerUpdates root record transitions received expires).map (·.1) := by
  have hsend := keyed.send effect heffect actionId hid
  have hupdate : ∃ row, ledgerUpdate root.actionLedgerRecords record transitions received expires
      effect = some (⟨record.stateKey, record.response.responseId, actionId⟩, row) := by
    simp [ledgerUpdate, hfor, hid, hnoop, hsend]
  obtain ⟨row, hupdate⟩ := hupdate
  exact List.mem_map.mpr ⟨_, List.mem_filterMap.mpr ⟨effect, heffect, hupdate⟩, rfl⟩

/-- An action that is not changed has none. -/
theorem deriveLedgerUpdates_unchanged (keyed : ActionKeyed record.effects)
    (heffect : effect ∈ record.effects) (hid : effect.actionId = some actionId)
    (hsame : ∀ transition, transitionFor transitions effect.effectKey = some transition →
      transition.isNoop = true) {stateKey : ConversationStateKey} {responseId : String} :
    (⟨stateKey, responseId, actionId⟩ : ActionKey) ∉
      (deriveLedgerUpdates root record transitions received expires).map (·.1) := by
  intro hmem
  obtain ⟨⟨key, row⟩, hupdate, rfl⟩ := List.mem_map.mp hmem
  obtain ⟨transition, hfor, hnoop, _⟩ := mem_deriveLedgerUpdates keyed hupdate
  rw [← (keyed.key effect heffect actionId).mp hid] at hfor
  rw [hsame transition hfor] at hnoop
  cases hnoop

end

/-! ## Agreement -/

/-- The row says the same as the record about its action. -/
structure RowAgrees (record : CompleteIssuedResponseRecordV1)
    (row : ActionLedgerRecordV2) : Prop where
  issued : ∃ effect ∈ record.effects, effect.actionId = some row.actionId ∧
    effect.effectType = row.actionType
  status : ∀ effect ∈ record.effects, effect.actionId = some row.actionId →
    effect.status = some row.status ∧ effect.artifactRef = row.artifactRef
  audience : row.par1 = record.par1 ∧ row.grh1 = record.grh1 ∧ row.bsh1 = record.bsh1
  outlive : record.expiresAtMonotonicNs ≤ row.expiresAtMonotonicNs

/-- Rows are stored under their own keys. -/
def LedgerKeyed (root : CoordinatorStateRootV1) : Prop :=
  ∀ key row, root.actionLedgerRecords.get key = some row →
    row.stateKey = key.stateKey ∧ row.responseId = key.responseId ∧ row.actionId = key.actionId

theorem LedgerKeyed.empty : LedgerKeyed emptyCoordinatorRoot := by
  intro key row h
  simp [emptyCoordinatorRoot] at h

/-- Every row of a live response agrees with it. -/
structure LedgerAgreement (root : CoordinatorStateRootV1) : Prop where
  keyed : LedgerKeyed root
  rows : ∀ {key row issuedKey record}, root.actionLedgerRecords.get key = some row →
    root.issuedRecords.get issuedKey = some (.complete record) →
    issuedKey.stateKey = key.stateKey → record.response.responseId = key.responseId →
    RowAgrees record row

theorem LedgerAgreement.empty : LedgerAgreement emptyCoordinatorRoot where
  keyed := .empty
  rows h := by simp [emptyCoordinatorRoot] at h

/-- A reply is committed under a response id that has no row left in its conversation. -/
def NewResponseId (root : CoordinatorStateRootV1) (proposal : ReplyCommitProposalV1)
    (readings : CommitReadings) : Prop :=
  ∀ actionId, root.actionLedgerRecords.get
    ⟨proposal.stateKey, (issuedResponse proposal readings).responseId, actionId⟩ = none

variable {setup : CoordinatorSetup} {root root' : CoordinatorStateRootV1} {change : Change}

/-- A record and a version with the same effects agree with the same rows. -/
theorem RowAgrees.congr {record record' : CompleteIssuedResponseRecordV1}
    {row : ActionLedgerRecordV2} (h : RowAgrees record row) (same : SameCommit record record')
    (effects : record'.effects = record.effects) : RowAgrees record' row := by
  have haudience := same.audience
  simp only [Prod.mk.injEq] at haudience
  refine ⟨effects ▸ h.issued, effects ▸ h.status, ?_, same.expiresAt ▸ h.outlive⟩
  rw [← haudience.1, ← haudience.2.1, ← haudience.2.2]
  exact h.audience

/-! ## Feedback -/

/-- The rows that committed feedback writes. -/
def feedbackUpdates (setup : CoordinatorSetup) (root : CoordinatorStateRootV1)
    (prepared : PreparedFeedbackV1) (record : CompleteIssuedResponseRecordV1) (now nowEpochMs : ℤ) :
    List (ActionKey × ActionLedgerRecordV2) :=
  deriveLedgerUpdates root (recordWithFeedback record prepared.transitions (feedbackReceipt
    setup.config setup.sha256 prepared (record.recordRevision + 1) now nowEpochMs))
    prepared.transitions nowEpochMs (now + setup.config.issuedTtlNs)

section

variable {prepared : PreparedFeedbackV1} {now nowEpochMs : ℤ}
  {stored : PreparedFeedbackTokenRecordV1} {record : CompleteIssuedResponseRecordV1}
  {revision : StateRevisionRecordV1} {receipt : FeedbackReceiptV1}

/-- A row that feedback writes agrees with the record after the feedback. -/
theorem rowAgrees_of_update {expires : ℤ} {key : ActionKey} {row : ActionLedgerRecordV2}
    (keyed : ActionKeyed record.effects) (hexpires : record.expiresAtMonotonicNs ≤ expires)
    (h : (key, row) ∈ deriveLedgerUpdates root
      (recordWithFeedback record prepared.transitions receipt) prepared.transitions nowEpochMs
      expires) :
    RowAgrees (recordWithFeedback record prepared.transitions receipt) row := by
  have keyed' : ActionKeyed (recordWithFeedback record prepared.transitions receipt).effects :=
    keyed.apply prepared.transitions
  obtain ⟨transition, hfor, hnoop, _, _, hissued, _, _, hid, hstatus, hartifact, _,
      hrow, haudience⟩ :=
    mem_deriveLedgerUpdates keyed' h
  refine ⟨hid ▸ hissued, fun effect' heffect' hid' => ?_, haudience, hrow ▸ hexpires⟩
  have hkey := (keyed'.key effect' heffect' _).mp hid'
  obtain ⟨effect, _, rfl⟩ := List.mem_map.mp heffect'
  rw [applyTransition_effectKey, hid] at hkey
  unfold applyTransition
  rw [hkey, hfor, hstatus, hartifact]
  simp [hnoop]

/-- A row that feedback leaves alone still agrees with the record after the feedback. -/
theorem RowAgrees.fed {expires : ℤ} {key : ActionKey} {row : ActionLedgerRecordV2}
    (h : RowAgrees record row) (keyed : ActionKeyed record.effects)
    (hkey : key = ⟨record.stateKey, record.response.responseId, row.actionId⟩)
    (hnot : key ∉ (deriveLedgerUpdates root (recordWithFeedback record prepared.transitions receipt)
      prepared.transitions nowEpochMs expires).map (·.1)) :
    RowAgrees (recordWithFeedback record prepared.transitions receipt) row := by
  have keyed' : ActionKeyed (recordWithFeedback record prepared.transitions receipt).effects :=
    keyed.apply prepared.transitions
  -- A transition of the action would have written a row under its key.
  have hsame : ∀ effect ∈ record.effects, effect.actionId = some row.actionId →
      applyTransition prepared.transitions effect = effect := by
    intro effect heffect hactionId
    obtain ⟨hsame, _⟩ | ⟨transition, hfor, hnoop, _⟩ :=
      applyTransition_split prepared.transitions effect
    · exact hsame
    · refine absurd ?_ hnot
      rw [hkey]
      have hmem : applyTransition prepared.transitions effect ∈
          (recordWithFeedback record prepared.transitions receipt).effects :=
        List.mem_map_of_mem heffect
      exact deriveLedgerUpdates_changed keyed' hmem (by simpa using hactionId) (by simpa using hfor)
        hnoop
  constructor
  · obtain ⟨effect, heffect, hactionId, htype⟩ := h.issued
    refine ⟨applyTransition prepared.transitions effect, List.mem_map_of_mem heffect, ?_, ?_⟩
    · simpa using hactionId
    · simpa using htype
  · intro effect' heffect' hactionId
    obtain ⟨effect, heffect, rfl⟩ := List.mem_map.mp heffect'
    rw [applyTransition_actionId] at hactionId
    rw [hsame effect heffect hactionId]
    exact h.status effect heffect hactionId
  · exact h.audience
  · exact h.outlive

/-- A row after feedback was written by it, or was there before and is not written. -/
theorem ledgerRow_of_feedback {key : ActionKey} {row : ActionLedgerRecordV2}
    (h : (root.actionLedgerRecords.withUpdates
      (feedbackUpdates setup root prepared record now nowEpochMs)).get key = some row) :
    (key, row) ∈ feedbackUpdates setup root prepared record now nowEpochMs ∨
      key ∉ (feedbackUpdates setup root prepared record now nowEpochMs).map (·.1) ∧
        root.actionLedgerRecords.get key = some row := by
  by_cases hmem : key ∈ (feedbackUpdates setup root prepared record now nowEpochMs).map (·.1)
  · obtain ⟨row', hrow, hget⟩ := FrozenMap.get_withUpdates_mem root.actionLedgerRecords hmem
    obtain rfl : row' = row := Option.some.inj (hget.symm.trans h)
    exact .inl hrow
  · rw [FrozenMap.get_withUpdates_of_notMem _ hmem] at h
    exact .inr ⟨hmem, h⟩

theorem LedgerKeyed.fed (h : LedgerKeyed root) (keyed : ActionKeyed record.effects) :
    LedgerKeyed (published (withCommittedFeedback setup.config setup.sha256 root prepared record
      revision now nowEpochMs)) := by
  intro key row hget
  obtain hnew | ⟨_, hold⟩ := ledgerRow_of_feedback (published_ledger_sub hget)
  · obtain ⟨_, _, _, _, _, _, hkey, hresponse, hid, _⟩ :=
      mem_deriveLedgerUpdates (keyed.apply _) hnew
    exact ⟨hkey, hresponse, hid⟩
  · exact h _ _ hold

/-- Feedback keeps the agreement. -/
theorem LedgerAgreement.fed (h : LedgerAgreement root) (inv : RootInvariant root)
    (sound : ActionIndexSound root)
    (admitted : FeedbackAdmitted root prepared now stored record revision)
    (genuine : Genuine root prepared)
    (hexpires : record.expiresAtMonotonicNs ≤ now + setup.config.issuedTtlNs) :
    LedgerAgreement (published (withCommittedFeedback setup.config setup.sha256 root prepared record
      revision now nowEpochMs)) := by
  obtain ⟨hrecord, _, _⟩ := inv.feedbackTarget admitted genuine
  have hstateKey : record.stateKey = prepared.stateKey := (inv.keyed hrecord).1
  have keyed := sound.keyed hrecord
  refine ⟨h.keyed.fed keyed, ?_⟩
  intro key row issuedKey issued hget hissued hkey hresponse
  rw [published_issuedRecords, withCommittedFeedback, FrozenMap.get_insert] at hissued
  obtain hnew | ⟨hnot, hold⟩ := ledgerRow_of_feedback (published_ledger_sub hget)
  · obtain ⟨hkey', hresponse'⟩ := mem_deriveLedgerUpdates_key (List.mem_map_of_mem hnew)
    split_ifs at hissued with hfed
    · cases hissued
      exact rowAgrees_of_update keyed hexpires hnew
    · -- The row is about the response that was fed, which no other record carries.
      refine absurd (inv.responses.key_unique hissued hrecord rfl ?_) hfed
      exact congrArg some (hresponse'.symm.trans hresponse.symm)
  · split_ifs at hissued with hfed
    · cases hissued
      have hagrees := h.rows hold hrecord (by rw [← hkey, hfed]) hresponse
      refine hagrees.fed keyed ?_ hnot
      have hid := (h.keyed _ _ hold).2.2
      have hfedKey : issuedKey.stateKey = prepared.stateKey := by rw [hfed]
      cases key
      simp_all [recordWithFeedback]
    · exact h.rows hold hissued hkey hresponse

end

/-! ## Publications -/

/-- Only feedback writes ledger rows. -/
theorem RootStep.ledger_sub (step : RootStep setup root change root')
    (noFeedback : ∀ prepared now nowEpochMs, change ≠ .commitFeedback prepared now nowEpochMs)
    {key : ActionKey} {row : ActionLedgerRecordV2}
    (h : root'.actionLedgerRecords.get key = some row) :
    root.actionLedgerRecords.get key = some row := by
  cases step with
  | cleanup => exact (get_withoutExpired_ledger.mp (published_ledger_sub h)).1
  | commitFeedback => exact absurd rfl (noFeedback _ _ _)
  | evict | reserve | abort | commit | prepare | drop => exact published_ledger_sub h

theorem RootStep.ledgerKeyed (step : RootStep setup root change root') (inv : RootInvariant root)
    (sound : ActionIndexSound root) (h : LedgerKeyed root)
    (guarded : Guarded genuineGuard root change) : LedgerKeyed root' := by
  by_cases hfeedback : ∃ prepared now nowEpochMs, change = .commitFeedback prepared now nowEpochMs
  · obtain ⟨prepared, now, nowEpochMs, rfl⟩ := hfeedback
    obtain ⟨_, _, _, admitted, _, rfl⟩ := step.of_commitFeedback
    exact h.fed (sound.keyed (inv.feedbackTarget admitted guarded).1)
  · push Not at hfeedback
    exact fun key row hget => h _ _ (step.ledger_sub hfeedback hget)

/-- Replies get new response ids, and feedback is committed on genuine preparations. -/
def ledgerGuard : CommitGuard where
  reply := NewResponseId
  feedback root prepared _ _ := Genuine root prepared

theorem RootStep.ledgerAgreement {operation : CoordinatorOperation} {draws : OperationDraws}
    (step : RootStep setup root change root') (hmem : change ∈ operation.changes draws)
    (accounting : Accounting setup.config draws.monotonicNs root) (sound : ActionIndexSound root)
    (h : LedgerAgreement root) (guarded : Guarded ledgerGuard root change) :
    LedgerAgreement root' := by
  have inv := accounting.invariant
  have guarded' : Guarded genuineGuard root change :=
    guarded.mono (fun _ _ _ => trivial) (fun _ _ _ => id)
  by_cases hfeedback : ∃ prepared now nowEpochMs, change = .commitFeedback prepared now nowEpochMs
  · obtain ⟨prepared, now, nowEpochMs, rfl⟩ := hfeedback
    obtain ⟨_, rfl, rfl⟩ := commitFeedback_mem_changes hmem
    obtain ⟨stored, record, revision, admitted, _, rfl⟩ := step.of_commitFeedback
    have hrecord := (inv.feedbackTarget admitted guarded').1
    exact h.fed inv sound admitted guarded' (accounting.records hrecord).completed
  · push Not at hfeedback
    refine ⟨step.ledgerKeyed inv sound h.keyed guarded', ?_⟩
    intro key row issuedKey record' hget hissued hkey hresponse
    have hrow := step.ledger_sub hfeedback hget
    cases step.recordSource inv guarded' hissued with
    | kept _ before => exact h.rows hrow before hkey hresponse
    | cleaned before =>
      exact (h.rows hrow before hkey hresponse).congr ⟨rfl, rfl, rfl, rfl, rfl, rfl, rfl⟩ rfl
    | @committed proposal readings _ _ _ _ hissuedKey =>
      have hnew : NewResponseId root proposal readings := guarded
      have hnone := hnew key.actionId
      rw [show (⟨proposal.stateKey, (issuedResponse proposal readings).responseId, key.actionId⟩ :
        ActionKey) = key by cases key; simp_all [completeRecord]] at hnone
      simp [hnone] at hrow
    | fed => exact absurd rfl (hfeedback _ _ _)

/-! ## Revisions of rows -/

/-- The revision of the row under `key`, which is 0 when there is none. -/
def ledgerRevision (root : CoordinatorStateRootV1) (key : ActionKey) : ℕ :=
  ((root.actionLedgerRecords.get key).map (·.statusRevision)).getD 0

/-- Rows count the statuses of their effects, as long as none was trimmed. -/
structure LedgerRevisions (root : CoordinatorStateRootV1) : Prop where
  size : root.actionLedgerRecords.size ≤ actionLedgerCapacity
  counts : ∀ {key record effect actionId}, root.issuedRecords.get key = some (.complete record) →
    effect ∈ record.effects → effect.actionId = some actionId →
    ledgerRevision root ⟨key.stateKey, record.response.responseId, actionId⟩ =
      effect.statusHistory.length

theorem LedgerRevisions.empty : LedgerRevisions emptyCoordinatorRoot where
  size := Nat.zero_le _
  counts h := by simp [emptyCoordinatorRoot] at h

/-- The ledger stays within its capacity when the feedback is committed. -/
def LedgerWithin (setup : CoordinatorSetup) (root : CoordinatorStateRootV1)
    (prepared : PreparedFeedbackV1) (now nowEpochMs : ℤ) : Prop :=
  ∀ candidate result,
    commitFeedbackCandidate setup.config setup.sha256 root prepared now nowEpochMs =
    .ok (candidate, result) → candidate.actionLedgerRecords.size ≤ actionLedgerCapacity

/-- Without feedback a row stays until it expires. -/
theorem RootStep.ledgerRevision_kept (step : RootStep setup root change root')
    (noFeedback : ∀ prepared now nowEpochMs, change ≠ .commitFeedback prepared now nowEpochMs)
    (size : root.actionLedgerRecords.size ≤ actionLedgerCapacity) {key : ActionKey}
    (live : ∀ mono epoch row, change = .cleanup mono epoch →
      root.actionLedgerRecords.get key = some row → mono < row.expiresAtMonotonicNs) :
    ledgerRevision root' key = ledgerRevision root key := by
  have hget : root'.actionLedgerRecords.get key = root.actionLedgerRecords.get key := by
    cases step with
    | cleanup mono epoch =>
      have hsize : (withoutExpired setup.config root mono epoch).actionLedgerRecords.size ≤
          actionLedgerCapacity := (FrozenMap.size_withoutKeys_le _ _).trans size
      rw [published_ledger_eq hsize]
      refine Option.ext fun row => ?_
      rw [get_withoutExpired_ledger]
      exact ⟨And.left, fun h => ⟨h, live mono epoch row rfl h⟩⟩
    | commitFeedback => exact absurd rfl (noFeedback _ _ _)
    | evict => rw [published_ledger_eq (by exact size)]; rfl
    | reserve => rw [published_ledger_eq (by exact size)]; rfl
    | abort => rw [published_ledger_eq (by exact size)]; rfl
    | commit => rw [published_ledger_eq (by exact size)]; rfl
    | prepare => rw [published_ledger_eq (by exact size)]; rfl
    | drop => rw [published_ledger_eq (by exact size)]; rfl
  rw [ledgerRevision, hget, ledgerRevision]

section

variable {prepared : PreparedFeedbackV1} {now nowEpochMs : ℤ}
  {stored : PreparedFeedbackTokenRecordV1} {record : CompleteIssuedResponseRecordV1}
  {revision : StateRevisionRecordV1}

/-- Feedback raises the revision of a row exactly when it lengthens the history of its effect. -/
theorem ledgerRevision_fed (keyed : ActionKeyed record.effects) {effect : IssuedEffectV1}
    {actionId : String} (heffect : effect ∈ record.effects) (hid : effect.actionId = some actionId)
    (count : ledgerRevision root ⟨record.stateKey, record.response.responseId, actionId⟩ =
      effect.statusHistory.length) :
    (((root.actionLedgerRecords.withUpdates
        (feedbackUpdates setup root prepared record now nowEpochMs)).get
        ⟨record.stateKey, record.response.responseId, actionId⟩).map (·.statusRevision)).getD 0 =
      (applyTransition prepared.transitions effect).statusHistory.length := by
  have keyed' := keyed.apply prepared.transitions
  have heffect' := List.mem_map_of_mem (f := applyTransition prepared.transitions) heffect
  have hid' : (applyTransition prepared.transitions effect).actionId = some actionId := by
    rw [applyTransition_actionId, hid]
  obtain ⟨hsame, hnoop⟩ | ⟨transition, hfor, hnoop, happly⟩ :=
    applyTransition_split prepared.transitions effect
  · have hnot : (⟨record.stateKey, record.response.responseId, actionId⟩ : ActionKey) ∉
        (feedbackUpdates setup root prepared record now nowEpochMs).map (·.1) :=
      deriveLedgerUpdates_unchanged keyed' heffect' hid' (by simpa using hnoop)
    rw [FrozenMap.get_withUpdates_of_notMem _ hnot, hsame]
    exact count
  · have hmem : (⟨record.stateKey, record.response.responseId, actionId⟩ : ActionKey) ∈
        (feedbackUpdates setup root prepared record now nowEpochMs).map (·.1) :=
      deriveLedgerUpdates_changed keyed' heffect' hid' (by simpa using hfor) hnoop
    obtain ⟨row, hrow, hget⟩ := FrozenMap.get_withUpdates_mem root.actionLedgerRecords hmem
    obtain ⟨_, _, _, _, _, _, _, _, _, _, _, hrevision, _⟩ := mem_deriveLedgerUpdates keyed' hrow
    rw [hget, happly, Option.map_some, Option.getD_some, hrevision]
    rw [ledgerRevision] at count
    rw [count]
    simp

theorem LedgerRevisions.fed (h : LedgerRevisions root) (inv : RootInvariant root)
    (sound : ActionIndexSound root)
    (admitted : FeedbackAdmitted root prepared now stored record revision)
    (genuine : Genuine root prepared)
    (within : (withCommittedFeedback setup.config setup.sha256 root prepared record revision now
      nowEpochMs).actionLedgerRecords.size ≤ actionLedgerCapacity) :
    LedgerRevisions (published (withCommittedFeedback setup.config setup.sha256 root prepared record
      revision now nowEpochMs)) := by
  obtain ⟨hrecord, _, _⟩ := inv.feedbackTarget admitted genuine
  have hstateKey : record.stateKey = prepared.stateKey := (inv.keyed hrecord).1
  have hledger := published_ledger_eq within
  refine ⟨by rw [hledger]; exact within, ?_⟩
  intro key issued effect actionId hissued heffect hid
  rw [published_issuedRecords, withCommittedFeedback, FrozenMap.get_insert] at hissued
  rw [ledgerRevision, hledger]
  split_ifs at hissued with hfed
  · cases hissued
    obtain ⟨before, hbefore, rfl⟩ := List.mem_map.mp heffect
    rw [applyTransition_actionId] at hid
    have hcount := h.counts hrecord hbefore hid
    rw [hfed]
    rw [← hstateKey] at hcount ⊢
    exact ledgerRevision_fed (sound.keyed hrecord) hbefore hid hcount
  · -- The updates are about the response that was fed, which no other record carries.
    have hnot : (⟨key.stateKey, issued.response.responseId, actionId⟩ : ActionKey) ∉
        (feedbackUpdates setup root prepared record now nowEpochMs).map (·.1) := by
      intro hmem
      have hresponse := (mem_deriveLedgerUpdates_key hmem).2
      exact hfed (inv.responses.key_unique hissued hrecord rfl (congrArg some hresponse.symm))
    have hsame := FrozenMap.get_withUpdates_of_notMem root.actionLedgerRecords hnot
    have hcount := h.counts hissued heffect hid
    rw [ledgerRevision, ← hsame] at hcount
    exact hcount

end

/-- Feedback also keeps the ledger within its capacity. -/
def ledgerCapacityGuard (setup : CoordinatorSetup) : CommitGuard where
  reply := NewResponseId
  feedback root prepared now nowEpochMs :=
    Genuine root prepared ∧ LedgerWithin setup root prepared now nowEpochMs

theorem RootStep.ledgerRevisions (step : RootStep setup root change root')
    (inv : RootInvariant root) (sound : ActionIndexSound root) (agreement : LedgerAgreement root)
    (h : LedgerRevisions root) (guarded : Guarded (ledgerCapacityGuard setup) root change) :
    LedgerRevisions root' := by
  have guarded' : Guarded genuineGuard root change :=
    guarded.mono (fun _ _ _ => trivial) (fun _ _ _ => And.left)
  by_cases hfeedback : ∃ prepared now nowEpochMs, change = .commitFeedback prepared now nowEpochMs
  · obtain ⟨prepared, now, nowEpochMs, rfl⟩ := hfeedback
    cases step with
    | commitFeedback admitted room capacity =>
      have hwithin : LedgerWithin setup root prepared now nowEpochMs := And.right guarded
      obtain ⟨result, hcandidate⟩ := admitted.candidate room capacity setup.sha256 nowEpochMs
      exact h.fed inv sound admitted guarded' (hwithin _ _ hcandidate)
  · push Not at hfeedback
    have hsize : root'.actionLedgerRecords.size ≤ root.actionLedgerRecords.size :=
      FrozenMap.size_le_of_keys_subset fun key hkey => by
        obtain ⟨row, hrow⟩ := FrozenMap.contains_iff.mp hkey
        exact FrozenMap.contains_iff.mpr ⟨row, step.ledger_sub hfeedback hrow⟩
    refine ⟨hsize.trans h.size, ?_⟩
    intro key record' effect actionId hissued heffect hid
    cases step.recordSource inv guarded' hissued with
    | kept noCleanup before =>
      rw [step.ledgerRevision_kept hfeedback h.size fun mono epoch _ hchange =>
        absurd hchange (noCleanup mono epoch)]
      exact h.counts before heffect hid
    | @cleaned _ _ record before live =>
      -- The row outlives its record.
      rw [step.ledgerRevision_kept hfeedback h.size]
      · have hcount := h.counts before heffect hid
        exact hcount
      · intro mono epoch row hchange hrow
        cases hchange
        exact live.trans_le (agreement.rows hrow before rfl rfl).outlive
    | @committed proposal readings _ _ _ _ hkey =>
      have hnew : NewResponseId root proposal readings := guarded
      rw [step.ledgerRevision_kept hfeedback h.size fun _ _ _ hchange => by cases hchange]
      subst hkey
      have hnone := hnew actionId
      simp only [ledgerRevision, completeRecord, hnone]
      simp [(deriveIssuedEffects_unreported heffect).2.2]
    | fed => exact absurd rfl (hfeedback _ _ _)

/-! ## Admitted rows -/

/-- The issued response of a row is live, and the row names exactly one of its actions. -/
structure Joins (root : CoordinatorStateRootV1) (row : ActionLedgerRecordV2) (key : RecordKey)
    (record : CompleteIssuedResponseRecordV1) : Prop where
  issued : root.issuedRecords.get key = some (.complete record)
  stateKey : key.stateKey = row.stateKey
  responseId : record.response.responseId = row.responseId
  once : record.effects.countP
    (fun effect => effect.actionId = some row.actionId ∧ effect.effectType = row.actionType) = 1

/-- The join of a row is found by its own keys. -/
theorem issuedEffectIdentity_eq_some (inv : RootInvariant root) (sound : ActionIndexSound root)
    {row : ActionLedgerRecordV2} {identity : ActionKey} :
    issuedEffectIdentity root row = some identity ↔ (∃ key record, Joins root row key record) ∧
      identity = ⟨row.stateKey, row.responseId, "action:" ++ row.actionId⟩ := by
  unfold issuedEffectIdentity
  constructor
  · intro h
    split at h
    · cases h
    · next key hindex =>
      split_ifs at h with hkey
      split at h
      · next record hget =>
        split_ifs at h with hrecord
        split at h
        · next effect heffect =>
          cases h
          push Not at hkey hrecord
          have hmem : effect ∈ record.effects.filter (fun effect =>
              effect.actionId = some row.actionId ∧ effect.effectType = row.actionType) := by
            rw [heffect]
            exact List.mem_singleton_self _
          rw [List.mem_filter, decide_eq_true_eq] at hmem
          refine ⟨⟨key, record, hget, hkey, hrecord.2, ?_⟩, ?_⟩
          · rw [List.countP_eq_length_filter, heffect, List.length_singleton]
          · rw [((sound.keyed hget).key effect hmem.1 row.actionId).mp hmem.2.1]
        · cases h
      · cases h
  · rintro ⟨⟨key, record, joins⟩, rfl⟩
    have hindex := inv.responses.get_of_value joins.issued (congrArg some joins.responseId)
    have hkey : record.stateKey = row.stateKey := (inv.keyed joins.issued).1.trans joins.stateKey
    have honce := joins.once
    rw [List.countP_eq_length_filter, List.length_eq_one_iff] at honce
    obtain ⟨effect, heffect⟩ := honce
    have hmem : effect ∈ record.effects.filter (fun effect =>
        effect.actionId = some row.actionId ∧ effect.effectType = row.actionType) := by
      rw [heffect]
      exact List.mem_singleton_self _
    rw [List.mem_filter, decide_eq_true_eq] at hmem
    simp only [hindex, joins.stateKey, joins.issued, hkey, joins.responseId, heffect]
    simp [((sound.keyed joins.issued).key effect hmem.1 row.actionId).mp hmem.2.1]

/-- The entry of a row in the join. -/
def joinedRow (root : CoordinatorStateRootV1) (stateKey : ConversationStateKey)
    (par1 grh1 bsh1 : String) (row : ActionLedgerRecordV2) :
    Option (ActionKey × ActionLedgerRecordV2) :=
  if row.hasAudience stateKey par1 grh1 bsh1 then
    (issuedEffectIdentity root row).map (fun identity => (identity, row))
  else none

theorem joinedLedgerRows_eq (root : CoordinatorStateRootV1) (stateKey : ConversationStateKey)
    (par1 grh1 bsh1 : String) : joinedLedgerRows root stateKey par1 grh1 bsh1 =
      (∅ : ActionLedgerRecords).withUpdates
        (root.actionLedgerRecords.values.filterMap (joinedRow root stateKey par1 grh1 bsh1)) := by
  unfold joinedLedgerRows
  generalize (∅ : ActionLedgerRecords) = rows
  induction root.actionLedgerRecords.values generalizing rows with
  | nil => rfl
  | cons row rest ih =>
    rw [List.foldl_cons, ih, List.filterMap_cons, joinedRow]
    split_ifs
    · cases issuedEffectIdentity root row <;> rfl
    · rfl

/-- No two rows are about the same action. -/
theorem LedgerKeyed.pairwise_values (keyed : LedgerKeyed root) :
    root.actionLedgerRecords.values.Pairwise (fun a b =>
      (⟨a.stateKey, a.responseId, a.actionId⟩ : ActionKey) ≠
        ⟨b.stateKey, b.responseId, b.actionId⟩) := by
  have hself : ∀ e ∈ root.actionLedgerRecords.entries,
      (⟨e.2.stateKey, e.2.responseId, e.2.actionId⟩ : ActionKey) = e.1 := by
    rintro ⟨key, row⟩ hmem
    obtain ⟨hkey, hresponse, hid⟩ := keyed _ _ (FrozenMap.get_eq_some_iff.mpr hmem)
    rw [hkey, hresponse, hid]
  rw [FrozenMap.values, List.pairwise_map]
  refine root.actionLedgerRecords.sorted.imp_of_mem ?_
  intro a b ha hb hlt heq
  rw [hself a ha, hself b hb] at heq
  exact hlt.ne heq

/-- The admitted rows are the twenty newest of the rows that join. -/
theorem admittedActionLedgerRows_newest (inv : RootInvariant root) (sound : ActionIndexSound root)
    (keyed : LedgerKeyed root) (stateKey : ConversationStateKey) (par1 grh1 bsh1 : String) :
    ∃ rows : List ActionLedgerRecordV2, rows.Nodup ∧
      (∀ row, row ∈ rows ↔ row ∈ root.actionLedgerRecords.values ∧
        row.hasAudience stateKey par1 grh1 bsh1 = true ∧ ∃ key record, Joins root row key record) ∧
      rows.Pairwise (fun a b => b.receivedAtEpochMs ≤ a.receivedAtEpochMs) ∧
      admittedActionLedgerRows root stateKey par1 grh1 bsh1 = rows.take 20 := by
  set items := root.actionLedgerRecords.values.filterMap (joinedRow root stateKey par1 grh1 bsh1)
    with hitems
  have hjoined : ∀ {row identity other},
      joinedRow root stateKey par1 grh1 bsh1 row = some (identity, other) ↔
        other = row ∧ row.hasAudience stateKey par1 grh1 bsh1 = true ∧
          (∃ key record, Joins root row key record) ∧
          identity = ⟨row.stateKey, row.responseId, "action:" ++ row.actionId⟩ := by
    intro row identity other
    rw [joinedRow, ← issuedEffectIdentity_eq_some inv sound]
    split_ifs with haudience
    · simp [haudience, eq_comm, and_comm]
    · simp [haudience]
  have hpairwise := keyed.pairwise_values
  have hdistinct : items.Pairwise (fun a b => a.1 ≠ b.1) := by
    refine hpairwise.filterMap _ ?_
    rintro a b hne ⟨i, a'⟩ ha ⟨j, b'⟩ hb heq
    obtain ⟨_, _, _, rfl⟩ := hjoined.mp ha
    obtain ⟨_, _, _, rfl⟩ := hjoined.mp hb
    refine hne ?_
    simpa using heq
  have hperm : (joinedLedgerRows root stateKey par1 grh1 bsh1).values.Perm (items.map (·.2)) := by
    rw [joinedLedgerRows_eq]
    exact (FrozenMap.entries_withUpdates_perm (List.pairwise_map.mpr hdistinct)).map _
  set rows := (joinedLedgerRows root stateKey par1 grh1 bsh1).values.insertionSort
    (fun a b => ledgerSortKey b ≤ ledgerSortKey a) with hrows
  have hsorted : rows.Perm (items.map (·.2)) := (List.perm_insertionSort _ _).trans hperm
  refine ⟨rows, ?_, ?_, ?_, rfl⟩
  · rw [hsorted.nodup_iff, List.Nodup, List.pairwise_map]
    refine hpairwise.filterMap _ ?_
    rintro a b hne ⟨i, a'⟩ ha ⟨j, b'⟩ hb rfl
    obtain ⟨rfl, _⟩ := hjoined.mp ha
    obtain ⟨rfl, _⟩ := hjoined.mp hb
    exact hne rfl
  · intro row
    rw [hsorted.mem_iff, List.mem_map]
    constructor
    · rintro ⟨⟨identity, other⟩, hmem, rfl⟩
      obtain ⟨row', hrow', hjoin⟩ := List.mem_filterMap.mp hmem
      obtain ⟨rfl, haudience, hjoins, _⟩ := hjoined.mp hjoin
      exact ⟨hrow', haudience, hjoins⟩
    · rintro ⟨hrow, haudience, hjoins⟩
      exact ⟨_, List.mem_filterMap.mpr ⟨row, hrow, hjoined.mpr ⟨rfl, haudience, hjoins, rfl⟩⟩, rfl⟩
  · have : Std.Total (fun a b : ActionLedgerRecordV2 => ledgerSortKey b ≤ ledgerSortKey a) :=
      ⟨fun a b => le_total _ _⟩
    have : IsTrans ActionLedgerRecordV2 (fun a b => ledgerSortKey b ≤ ledgerSortKey a) :=
      ⟨fun a b c hab hbc => le_trans hbc hab⟩
    refine (List.pairwise_insertionSort _ _).imp fun {a b} hle => ?_
    exact (Prod.Lex.toLex_le_toLex.mp hle).elim le_of_lt fun h => h.1.le

/-! ## Runs -/

/-- What holds of the ledger while replies get new response ids. -/
structure LedgerSound (setup : CoordinatorSetup) (t : ℤ)
    (root : CoordinatorStateRootV1) : Prop where
  accounting : Accounting setup.config t root
  index : ActionIndexSound root
  agreement : LedgerAgreement root

theorem LedgerSound.empty (setup : CoordinatorSetup) (t : ℤ) :
    LedgerSound setup t emptyCoordinatorRoot := ⟨.empty _ t, .empty, .empty⟩

theorem LedgerSound.mono {t t' : ℤ} (ht : t ≤ t') (h : LedgerSound setup t root) :
    LedgerSound setup t' root := ⟨h.accounting.mono ht, h.index, h.agreement⟩

theorem RootStep.ledgerSound {operation : CoordinatorOperation} {draws : OperationDraws}
    (step : RootStep setup root change root') (hmem : change ∈ operation.changes draws)
    (h : LedgerSound setup draws.monotonicNs root) (guarded : Guarded ledgerGuard root change) :
    LedgerSound setup draws.monotonicNs root' := by
  have guarded' : Guarded genuineGuard root change :=
    guarded.mono (fun _ _ _ => trivial) (fun _ _ _ => id)
  exact ⟨step.accounting hmem h.accounting guarded',
    step.actionIndexSound h.index h.accounting.invariant guarded',
    step.ledgerAgreement hmem h.accounting h.index h.agreement guarded⟩

section

variable {adm : List CoordinatorEvent → CoordinatorEvent → Prop} {es : List CoordinatorEvent}
  {c : Coordinator}

theorem LedgerSound.of_run (run : CoordinatorRun setup adm es c)
    (hadm : ∀ es e, adm es e → Admissible es e ∧ MonotonicClock es e)
    (fresh : ∀ es e, adm es e → CommitsMeet NewResponseId e) : ∃ t, LedgerSound setup t c.root := by
  obtain ⟨t, ht⟩ := exists_clock_bound (·.monotonicNs) es
  refine ⟨t, run_clock_invariant (·.monotonicNs) ledgerGuard run
    (fun _ _ _ ok he => (hadm _ _ ok).2.le he) ?_ (.empty setup) .mono
    (fun hmem guarded h step => step.ledgerSound hmem h guarded) ht⟩
  intro es c input hrun ok
  have genuine := holds_of_admissible (fun _ _ h => (hadm _ _ h).1) hrun ok
  exact ⟨fun hop hout => fresh _ _ ok _ _ hop hout, genuine.feedback⟩

theorem LedgerRevisions.of_run (run : CoordinatorRun setup adm es c)
    (hadm : ∀ es e, adm es e → Admissible es e ∧ MonotonicClock es e)
    (fresh : ∀ es e, adm es e → CommitsMeet NewResponseId e)
    (within : ∀ es e, adm es e → FeedbackMeets (LedgerWithin setup) e) :
    LedgerRevisions c.root := by
  obtain ⟨t, ht⟩ := exists_clock_bound (·.monotonicNs) es
  have h : LedgerSound setup t c.root ∧ LedgerRevisions c.root := by
    refine run_clock_invariant (P := fun t root => LedgerSound setup t root ∧ LedgerRevisions root)
      (·.monotonicNs) (ledgerCapacityGuard setup) run (fun _ _ _ ok he => (hadm _ _ ok).2.le he)
      ?_ (fun t => ⟨.empty setup t, .empty⟩) (fun ht h => ⟨h.1.mono ht, h.2⟩) ?_ ht
    · intro es c input hrun ok
      have genuine := holds_of_admissible (fun _ _ h => (hadm _ _ h).1) hrun ok
      exact ⟨fun hop hout => fresh _ _ ok _ _ hop hout,
        fun hop hout => ⟨genuine.feedback hop hout, within _ _ ok _ _ hop hout⟩⟩
    · rintro operation draws change r r' hmem guarded ⟨sound, revisions⟩ step
      have guarded' : Guarded ledgerGuard r change :=
        guarded.mono (fun _ _ => id) (fun _ _ _ => And.left)
      exact ⟨step.ledgerSound hmem sound guarded', step.ledgerRevisions sound.accounting.invariant
        sound.index sound.agreement revisions guarded⟩
  exact h.2

theorem LedgerKeyed.of_run (run : CoordinatorRun setup adm es c)
    (hadm : ∀ es e, adm es e → Admissible es e) : LedgerKeyed c.root := by
  have h : RootInvariant c.root ∧ ActionIndexSound c.root ∧ LedgerKeyed c.root := by
    refine run_root_invariant (P := fun root => RootInvariant root ∧ ActionIndexSound root ∧
      LedgerKeyed root) run hadm ⟨.empty, .empty, .empty⟩ ?_
    rintro change r r' guarded ⟨inv, sound, keyed⟩ step
    exact ⟨step.rootInvariant inv guarded, step.actionIndexSound sound inv guarded,
      step.ledgerKeyed inv sound keyed guarded⟩
  exact h.2.2

end

/-- The ledger agrees with the issued effects, unless a reply reuses a response id of which the
ledger still has a row; and the admitted rows are the newest of those that join. -/
theorem action_ledger_agrees {es : List CoordinatorEvent} {c : Coordinator}
    (run : CoordinatorRun setup (fun es e => Admissible es e ∧ MonotonicClock es e) es c) :
    ((∀ e ∈ es, CommitsMeet NewResponseId e) →
      ∀ key row issuedKey record, c.root.actionLedgerRecords.get key = some row →
        c.root.issuedRecords.get issuedKey = some (.complete record) →
        issuedKey.stateKey = key.stateKey → record.response.responseId = key.responseId →
        (∃ effect ∈ record.effects, effect.actionId = some key.actionId) ∧
        ∀ effect ∈ record.effects, effect.actionId = some key.actionId →
          effect.status = some row.status ∧ effect.artifactRef = row.artifactRef ∧
          ((∀ e ∈ es, FeedbackMeets (LedgerWithin setup) e) →
            row.statusRevision = effect.statusHistory.length)) ∧
    ∀ stateKey par1 grh1 bsh1, ∃ rows : List ActionLedgerRecordV2, rows.Nodup ∧
      (∀ row, row ∈ rows ↔ row ∈ c.root.actionLedgerRecords.values ∧
        row.hasAudience stateKey par1 grh1 bsh1 = true ∧
        ∃ key record, Joins c.root row key record) ∧
      rows.Pairwise (fun a b => b.receivedAtEpochMs ≤ a.receivedAtEpochMs) ∧
      admittedActionLedgerRows c.root stateKey par1 grh1 bsh1 = rows.take 20 := by
  constructor
  · intro fresh key row issuedKey record hrow hrecord hkey hresponse
    have hfresh := run.strengthen fresh
    obtain ⟨t, sound⟩ := LedgerSound.of_run hfresh (fun _ _ ok => ok.1) (fun _ _ ok => ok.2)
    have hid : row.actionId = key.actionId := (sound.agreement.keyed _ _ hrow).2.2
    have hagrees := sound.agreement.rows hrow hrecord hkey hresponse
    obtain ⟨effect, heffect, hissued, _⟩ := hagrees.issued
    refine ⟨⟨effect, heffect, hid ▸ hissued⟩, fun effect heffect hactionId => ?_⟩
    obtain ⟨hstatus, hartifact⟩ := hagrees.status effect heffect (hid ▸ hactionId)
    refine ⟨hstatus, hartifact, fun within => ?_⟩
    have hrevisions := LedgerRevisions.of_run (hfresh.strengthen within) (fun _ _ ok => ok.1.1)
      (fun _ _ ok => ok.1.2) (fun _ _ ok => ok.2)
    have hcount := hrevisions.counts hrecord heffect hactionId
    rw [hkey, hresponse, ledgerRevision, hrow] at hcount
    exact hcount
  · intro stateKey par1 grh1 bsh1
    have hadm : ∀ (es : List CoordinatorEvent) e, Admissible es e ∧ MonotonicClock es e →
        Admissible es e := fun _ _ => And.left
    exact admittedActionLedgerRows_newest (RootInvariant.of_run run hadm)
      (ActionIndexSound.of_run run hadm) (LedgerKeyed.of_run run hadm) stateKey par1 grh1 bsh1

/-! ## Sample runs -/

/-- A decision procedure for `NewResponseId`. -/
def newResponseIdCheck (root : CoordinatorStateRootV1) (proposal : ReplyCommitProposalV1)
    (readings : CommitReadings) : Bool :=
  root.actionLedgerRecords.keys.all (fun key => !(key.stateKey = proposal.stateKey ∧
    key.responseId = (issuedResponse proposal readings).responseId))

theorem newResponseId_of_check {proposal : ReplyCommitProposalV1} {readings : CommitReadings}
    (h : newResponseIdCheck root proposal readings = true) :
    NewResponseId root proposal readings := by
  intro actionId
  rw [← FrozenMap.contains_eq_false_iff, ← Bool.not_eq_true, ← FrozenMap.mem_keys_iff_contains]
  intro hmem
  have hkey := List.all_eq_true.mp h _ hmem
  simp at hkey

def sampleFeedbackChecked : CheckedTrace sampleSetup
    (fun es e => Admissible es e ∧ MonotonicClock es e) sampleFeedbackInputs fun t =>
    t.1.all (commitsMeetCheck newResponseIdCheck) &&
      ((t.2.root.actionLedgerRecords.get ⟨sampleKey, sampleResponseId, sampleActionId⟩).isSome &&
        ((t.2.root.issuedRecords.get ⟨sampleKey, "r"⟩).bind (·.complete?)).any
          (fun record => record.response.responseId = sampleResponseId)) :=
  ⟨by decide +kernel⟩

/-- In the sample run the row of the action says the same as its effect. -/
theorem action_ledger_agrees_sample :
    ∃ row record effect,
      (coordinatorTrace sampleSetup sampleFeedbackInputs).2.root.actionLedgerRecords.get
        ⟨sampleKey, sampleResponseId, sampleActionId⟩ = some row ∧
      (coordinatorTrace sampleSetup sampleFeedbackInputs).2.root.issuedRecords.get
        ⟨sampleKey, "r"⟩ =
        some (.complete record) ∧
      effect ∈ record.effects ∧ effect.status = some row.status ∧
      effect.artifactRef = row.artifactRef := by
  obtain ⟨hrun, hend⟩ := sampleFeedbackChecked.run
  rw [Bool.and_eq_true, Bool.and_eq_true] at hend
  obtain ⟨hcheck, hrow, hrecord⟩ := hend
  have hfresh : ∀ e ∈ (coordinatorTrace sampleSetup sampleFeedbackInputs).1,
      CommitsMeet NewResponseId e := fun e he =>
    commitsMeet_of_check (fun _ _ _ => newResponseId_of_check) (List.all_eq_true.mp hcheck e he)
  obtain ⟨row, hrow⟩ := Option.isSome_iff_exists.mp hrow
  obtain ⟨record, hrecord, hid⟩ := (Option.any_eq_true _ _).mp hrecord
  obtain ⟨issued, hget, hissued⟩ := Option.bind_eq_some_iff.mp hrecord
  obtain rfl := IssuedResponseRecordV1.complete?_eq_some.mp hissued
  obtain ⟨⟨effect, heffect, hactionId⟩, hagrees⟩ :=
    (action_ledger_agrees hrun).1 hfresh _ row _ record hrow hget rfl (of_decide_eq_true hid)
  obtain ⟨hstatus, hartifact, _⟩ := hagrees effect heffect hactionId
  exact ⟨row, record, effect, hrow, hget, heffect, hstatus, hartifact⟩

/-- A reply whose caller chose the response id and the action ids. -/
def sampleNamedResponse (actionIds : List String) : ReplyResponse :=
  ⟨sampleResponseId, ⟨.answer, "answer", []⟩, actionIds.map (.sendMaterialPack · "pack" none)⟩

/-- Feedback on a reply, and the same ids again once the reply expired and its row did not. -/
def reusedIdInputs : List CoordinatorInput :=
  [(.reserveReply sampleKey "r" "h" true, sampleDraws 1 1),
    (.commitReply (sampleProposal 1 "r" (sampleNamedResponse [sampleActionId])), sampleDraws 2 2),
    (.prepareFeedback sampleKey (sampleFeedback "f" .executed), sampleDraws 3 3),
    (.commitFeedback (samplePrepared 3 3 "f" .executed), sampleDraws 4 4),
    (.reserveReply sampleKey "s" "h" true, sampleDraws 5 86400000000003),
    (.commitReply { sampleProposal 5 "s" (sampleNamedResponse [sampleActionId]) with
      expectedRevisionEpoch := [0], expectedStateRevision := 2 }, sampleDraws 6 86400000000003)]

/-- Feedback on a reply that has one action id twice. -/
def repeatedIdInputs : List CoordinatorInput :=
  [(.reserveReply sampleKey "r" "h" true, sampleDraws 1 1),
    (.commitReply (sampleProposal 1 "r" (sampleNamedResponse [sampleActionId, sampleActionId])),
      sampleDraws 2 2),
    (.prepareFeedback sampleKey (sampleFeedback "f" .executed), sampleDraws 3 3),
    (.commitFeedback (samplePrepared 3 3 "f" .executed), sampleDraws 4 4)]

def reusedIdChecked : CheckedTrace sampleSetup
    (fun es e => Admissible es e ∧ MonotonicClock es e) reusedIdInputs fun t =>
    (t.2.root.actionLedgerRecords.get ⟨sampleKey, sampleResponseId, sampleActionId⟩).any
        (fun row => row.status = .executed) &&
      ((t.2.root.issuedRecords.get ⟨sampleKey, "s"⟩).bind (·.complete?)).any (fun record =>
        record.response.responseId = sampleResponseId ∧ record.effects.any (fun effect =>
          effect.actionId = some sampleActionId ∧ effect.status = none)) :=
  ⟨by decide +kernel⟩

def repeatedIdChecked : CheckedTrace sampleSetup
    (fun es e => Admissible es e ∧ MonotonicClock es e) repeatedIdInputs fun t =>
    decide (t.2.root.actionLedgerRecords.values.map (·.hasAudience sampleKey "p" "p" "p") = [true] ∧
      ((t.2.root.issuedRecords.get ⟨sampleKey, "r"⟩).bind (·.complete?)).any
        (fun record => record.response.responseId = sampleResponseId) = true ∧
      admittedActionLedgerRows t.2.root sampleKey "p" "p" "p" = []) :=
  ⟨by decide +kernel⟩

/-- A row survives its response and meets a later one under the same id, about which nothing was
reported; and a row whose action id occurs twice is not admitted. -/
theorem ledger_id_reuse :
    (CoordinatorRun sampleSetup (fun es e => Admissible es e ∧ MonotonicClock es e)
      (coordinatorTrace sampleSetup reusedIdInputs).1
        (coordinatorTrace sampleSetup reusedIdInputs).2 ∧
    ∃ row record effect,
      (coordinatorTrace sampleSetup reusedIdInputs).2.root.actionLedgerRecords.get
        ⟨sampleKey, sampleResponseId, sampleActionId⟩ = some row ∧
      (coordinatorTrace sampleSetup reusedIdInputs).2.root.issuedRecords.get ⟨sampleKey, "s"⟩ =
        some (.complete record) ∧ record.response.responseId = sampleResponseId ∧
      effect ∈ record.effects ∧ effect.actionId = some sampleActionId ∧
      row.status = .executed ∧ effect.status = none) ∧
    CoordinatorRun sampleSetup (fun es e => Admissible es e ∧ MonotonicClock es e)
      (coordinatorTrace sampleSetup repeatedIdInputs).1
      (coordinatorTrace sampleSetup repeatedIdInputs).2 ∧
    ((coordinatorTrace sampleSetup repeatedIdInputs).2.root.actionLedgerRecords.values.map
      (·.hasAudience sampleKey "p" "p" "p") = [true] ∧
    (((coordinatorTrace sampleSetup repeatedIdInputs).2.root.issuedRecords.get
      ⟨sampleKey, "r"⟩).bind
      (·.complete?)).any (fun record => record.response.responseId = sampleResponseId) = true ∧
    admittedActionLedgerRows (coordinatorTrace sampleSetup repeatedIdInputs).2.root
      sampleKey "p" "p"
      "p" = []) := by
  constructor
  · obtain ⟨hrun, hend⟩ := reusedIdChecked.run
    obtain ⟨hrow, hrecord⟩ := (Bool.and_eq_true _ _).mp hend
    obtain ⟨row, hrow, hexecuted⟩ := (Option.any_eq_true _ _).mp hrow
    obtain ⟨record, hrecord, hreported⟩ := (Option.any_eq_true _ _).mp hrecord
    obtain ⟨issued, hget, hissued⟩ := Option.bind_eq_some_iff.mp hrecord
    obtain rfl := IssuedResponseRecordV1.complete?_eq_some.mp hissued
    obtain ⟨hid, hany⟩ := of_decide_eq_true hreported
    obtain ⟨effect, heffect, hunreported⟩ := List.any_eq_true.mp hany
    obtain ⟨hactionId, hstatus⟩ := of_decide_eq_true hunreported
    exact ⟨hrun, row, record, effect, hrow, hget, hid, heffect, hactionId,
      of_decide_eq_true hexecuted, hstatus⟩
  · obtain ⟨hrun, hend⟩ := repeatedIdChecked.run
    exact ⟨hrun, of_decide_eq_true hend⟩

end MarketSupport
