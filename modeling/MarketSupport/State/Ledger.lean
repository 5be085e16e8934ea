import MarketSupport.State.Root
import MarketSupport.State.Effects

/-!
# Action ledger

Feedback on an outbound action is copied to a ledger row. A row is admitted to a turn only
while it joins with a live issued response of the same conversation and audience.
-/

namespace MarketSupport

open Library

/-- The ledger row written for one effect, with the key it is stored under. -/
def ledgerUpdate (ledger : ActionLedgerRecords) (record : CompleteIssuedResponseRecordV1)
    (transitions : List PreparedEffectTransitionV1) (receivedAtEpochMs expiresAtMonotonicNs : ℤ)
    (effect : IssuedEffectV1) : Option (ActionKey × ActionLedgerRecordV2) :=
  match transitionFor transitions effect.effectKey, effect.actionId with
  | some transition, some actionId =>
    if transition.isNoop || !effect.effectType.isSend then none
    else
      let key : ActionKey := ⟨record.stateKey, record.response.responseId, actionId⟩
      some (key, {
        stateKey := record.stateKey
        responseId := record.response.responseId
        actionId := actionId
        actionType := effect.effectType
        status := transition.requestedStatus
        artifactRef := transition.requestedArtifactRef
        statusRevision := ((ledger.get key).map (·.statusRevision + 1)).getD 1
        receivedAtEpochMs := receivedAtEpochMs
        expiresAtMonotonicNs := expiresAtMonotonicNs
        pol1 := record.pol1
        par1 := record.par1
        grh1 := record.grh1
        bsh1 := record.bsh1 })
  | _, _ => none

/-- `derive_ledger_updates`. -/
def deriveLedgerUpdates (root : CoordinatorStateRootV1) (record : CompleteIssuedResponseRecordV1)
    (transitions : List PreparedEffectTransitionV1) (receivedAtEpochMs expiresAtMonotonicNs : ℤ) :
    List (ActionKey × ActionLedgerRecordV2) :=
  record.effects.filterMap (ledgerUpdate root.actionLedgerRecords record transitions
    receivedAtEpochMs expiresAtMonotonicNs)

/-- `_issued_effect_identity`. -/
def issuedEffectIdentity (root : CoordinatorStateRootV1) (row : ActionLedgerRecordV2) :
    Option ActionKey :=
  match root.responseIndex.get row.responseId with
  | none => none
  | some issuedKey =>
    if issuedKey.stateKey ≠ row.stateKey then none
    else match root.issuedRecords.get issuedKey with
    | some (.complete record) =>
      if record.stateKey ≠ row.stateKey ∨ record.response.responseId ≠ row.responseId then none
      else match record.effects.filter
          (fun effect => effect.actionId = some row.actionId ∧
            effect.effectType = row.actionType) with
      | [effect] => some ⟨row.stateKey, row.responseId, effect.effectKey⟩
      | _ => none
    | _ => none

/-- The audience of a ledger row: its conversation and the three hashes. -/
def ActionLedgerRecordV2.hasAudience (row : ActionLedgerRecordV2) (stateKey : ConversationStateKey)
    (par1 grh1 bsh1 : String) : Bool :=
  row.stateKey = stateKey ∧ row.par1 = par1 ∧ row.grh1 = grh1 ∧ row.bsh1 = bsh1

/-- Newer rows first; rows of one time by response and action id. -/
def ledgerSortKey (row : ActionLedgerRecordV2) : ℤ ×ₗ String ×ₗ String :=
  toLex (row.receivedAtEpochMs, toLex (row.responseId, row.actionId))

/-- The rows of the audience that join, by the effect they join with. -/
def joinedLedgerRows (root : CoordinatorStateRootV1) (stateKey : ConversationStateKey)
    (par1 grh1 bsh1 : String) : ActionLedgerRecords :=
  root.actionLedgerRecords.values.foldl (fun rows row =>
    if row.hasAudience stateKey par1 grh1 bsh1 then
      match issuedEffectIdentity root row with
      | some identity => rows.insert identity row
      | none => rows
    else rows) ∅

/-- `admitted_action_ledger_rows`: the twenty newest rows. -/
def admittedActionLedgerRows (root : CoordinatorStateRootV1) (stateKey : ConversationStateKey)
    (par1 grh1 bsh1 : String) : List ActionLedgerRecordV2 :=
  ((joinedLedgerRows root stateKey par1 grh1 bsh1).values.insertionSort
    (fun a b => ledgerSortKey b ≤ ledgerSortKey a)).take 20

/-! ## Updates -/

/-- What a ledger update says about its effect. -/
theorem ledgerUpdate_eq_some {ledger : ActionLedgerRecords}
    {record : CompleteIssuedResponseRecordV1}
    {transitions : List PreparedEffectTransitionV1} {received expires : ℤ} {effect : IssuedEffectV1}
    {key : ActionKey} {row : ActionLedgerRecordV2}
    (h : ledgerUpdate ledger record transitions received expires effect = some (key, row)) :
    ∃ transition, transitionFor transitions effect.effectKey = some transition ∧
      transition.isNoop = false ∧ effect.effectType.isSend = true ∧
      effect.actionId = some key.actionId ∧ key.stateKey = record.stateKey ∧
      key.responseId = record.response.responseId ∧
      row = ⟨record.stateKey, record.response.responseId, key.actionId, effect.effectType,
        transition.requestedStatus, transition.requestedArtifactRef,
        ((ledger.get key).map (·.statusRevision + 1)).getD 1, received, expires, record.pol1,
        record.par1, record.grh1, record.bsh1⟩ := by
  unfold ledgerUpdate at h
  split at h
  · next transition actionId htransition hactionId =>
    split_ifs at h with hskip
    cases h
    simp only [Bool.or_eq_true, Bool.not_eq_eq_eq_not, Bool.not_true, not_or,
      Bool.not_eq_false] at hskip
    exact ⟨transition, htransition, by simpa using hskip.1, hskip.2, hactionId, rfl, rfl, rfl⟩
  · cases h

theorem mem_deriveLedgerUpdates_key {root : CoordinatorStateRootV1}
    {record : CompleteIssuedResponseRecordV1} {transitions : List PreparedEffectTransitionV1}
    {received expires : ℤ} {key : ActionKey}
    (h : key ∈ (deriveLedgerUpdates root record transitions received expires).map (·.1)) :
    key.stateKey = record.stateKey ∧ key.responseId = record.response.responseId := by
  obtain ⟨⟨_, row⟩, hmem, rfl⟩ := List.mem_map.mp h
  obtain ⟨effect, _, hupdate⟩ := List.mem_filterMap.mp hmem
  obtain ⟨_, _, _, _, _, hkey, hid, _⟩ := ledgerUpdate_eq_some hupdate
  exact ⟨hkey, hid⟩

end MarketSupport
