import MarketSupport.State.CompleteRecords

/-!
# The action index

Every entry of the action index leads to an effect of a live record that carries the action
id. Together with the exact indexes this is all that the validation of a root looks at, so
no publication is refused for its indexes.

## Main results

* `RootStep.actionIndexSound` — publications keep the index sound.
* `indexesValid_of_sound` — sound roots pass the index checks.
-/

namespace MarketSupport

open Library

/-- Actions, and only they, have an effect key that is made of their id. -/
structure ActionKeyed (effects : List IssuedEffectV1) : Prop where
  key : ∀ effect ∈ effects, ∀ actionId,
    effect.actionId = some actionId ↔ effect.effectKey = "action:" ++ actionId
  send : ∀ effect ∈ effects, ∀ actionId, effect.actionId = some actionId →
    effect.effectType.isSend = true

theorem actionKeyed_deriveIssuedEffects (response : ReplyResponse) :
    ActionKeyed (deriveIssuedEffects response) := by
  have hcases : ∀ effect ∈ deriveIssuedEffects response,
      effect = responseEffect "send_text" .sendText ∨
      effect = responseEffect "mention:sales" .mentionSales ∨
      ∃ action, effect = actionEffect action := by
    intro effect h
    simp only [deriveIssuedEffects, List.mem_append, List.mem_map] at h
    obtain (h | ⟨_, _, rfl⟩) | ⟨action, _, rfl⟩ := h
    · split_ifs at h
      · exact .inl (List.mem_singleton.mp h)
      · cases h
    · exact .inr (.inl rfl)
    · exact .inr (.inr ⟨action, rfl⟩)
  have hprefix : ∀ name actionId : String, name.toList.head? ≠ some 'a' →
      name ≠ "action:" ++ actionId := by
    rintro _ actionId hname rfl
    simp [String.toList_append] at hname
  constructor
  · intro effect h actionId
    obtain rfl | rfl | ⟨action, rfl⟩ := hcases effect h
    · simpa [responseEffect] using hprefix "send_text" actionId (by decide)
    · simpa [responseEffect] using hprefix "mention:sales" actionId (by decide)
    · simp [actionEffect]
  · intro effect h actionId hid
    obtain rfl | rfl | ⟨action, rfl⟩ := hcases effect h
    · cases hid
    · cases hid
    · exact action.isSend_type

theorem ActionKeyed.apply {effects : List IssuedEffectV1} (h : ActionKeyed effects)
    (transitions : List PreparedEffectTransitionV1) :
    ActionKeyed (applyEffectTransitions effects transitions) := by
  constructor <;> intro effect' heffect' actionId
  · obtain ⟨effect, heffect, rfl⟩ := List.mem_map.mp heffect'
    rw [applyTransition_actionId, applyTransition_effectKey]
    exact h.key effect heffect actionId
  · obtain ⟨effect, heffect, rfl⟩ := List.mem_map.mp heffect'
    rw [applyTransition_actionId, applyTransition_effectType]
    exact h.send effect heffect actionId

/-- The effect that an entry of the action index leads to. -/
structure ActionTarget (root : CoordinatorStateRootV1) (actionId : String)
    (entry : ConversationStateKey × String × String) (key : RecordKey)
    (record : CompleteIssuedResponseRecordV1) : Prop where
  issued : root.issuedRecords.get key = some (.complete record)
  stateKey : key.stateKey = entry.1
  responseId : record.response.responseId = entry.2.1
  effect : (record.effects.find? (·.effectKey = entry.2.2)).bind (·.actionId) = some actionId

structure ActionIndexSound (root : CoordinatorStateRootV1) : Prop where
  keyed : ∀ {key record}, root.issuedRecords.get key = some (.complete record) →
    ActionKeyed record.effects
  target : ∀ {actionId entry}, root.actionIndex.get actionId = some entry →
    ∃ key record, ActionTarget root actionId entry key record

theorem ActionIndexSound.empty : ActionIndexSound emptyCoordinatorRoot where
  keyed h := by simp [emptyCoordinatorRoot] at h
  target h := by simp [emptyCoordinatorRoot] at h

variable {setup : CoordinatorSetup} {root root' : CoordinatorStateRootV1} {change : Change}

theorem RecordSource.actionKeyed {key : RecordKey} {record : CompleteIssuedResponseRecordV1}
    (h : RecordSource setup root key change record) (sound : ActionIndexSound root) :
    ActionKeyed record.effects := by
  cases h with
  | kept _ before => exact sound.keyed before
  | @cleaned _ _ record before =>
    have hkeyed : ActionKeyed record.effects := sound.keyed before
    exact hkeyed
  | committed => exact actionKeyed_deriveIssuedEffects _
  | fed _ _ _ _ before => exact (sound.keyed before).apply _

/-- The versions of a record lead to the same action ids. -/
theorem RecordSource.find?_actionId {key : RecordKey}
    {record record' : CompleteIssuedResponseRecordV1}
    (h : RecordSource setup root key change record')
    (hget : root.issuedRecords.get key = some (.complete record)) (effectKey : String) :
    (record'.effects.find? (·.effectKey = effectKey)).bind (·.actionId) =
      (record.effects.find? (·.effectKey = effectKey)).bind (·.actionId) := by
  have hsame : ∀ {r}, root.issuedRecords.get key = some (.complete r) → record = r := by
    intro r hr
    simpa [hget] using hr
  cases h with
  | kept _ before => rw [hsame before]
  | cleaned before =>
    rw [hsame before]
    rfl
  | committed admitted _ hkey =>
    rw [hkey, admitted.reserved] at hget
    cases hget
  | @fed prepared _ _ _ _ _ _ _ _ _ before =>
    obtain rfl := hsame before
    have hkey : (fun effect : IssuedEffectV1 => decide (effect.effectKey = effectKey)) ∘
        applyTransition prepared.transitions = fun effect =>
          decide (effect.effectKey = effectKey) := by
      funext effect
      simp
    simp only [recordWithFeedback, applyEffectTransitions, List.find?_map, Option.bind_map, hkey]
    simp

theorem ActionTarget.mem_actionIds {actionId : String}
    {entry : ConversationStateKey × String × String} {key : RecordKey}
    {record : CompleteIssuedResponseRecordV1} (h : ActionTarget root actionId entry key record) :
    actionId ∈ record.actionIds := by
  obtain ⟨effect, hfind, hid⟩ := Option.bind_eq_some_iff.mp h.effect
  exact List.mem_filterMap.mpr ⟨effect, List.mem_of_find?_eq_some hfind, hid⟩

/-- An entry leads to the new version of its record, or is gone with it. -/
theorem ActionTarget.step {actionId : String} {entry : ConversationStateKey × String × String}
    {key : RecordKey} {record : CompleteIssuedResponseRecordV1}
    (target : ActionTarget root actionId entry key record) (step : RootStep setup root change root')
    (inv : RootInvariant root) (guarded : Guarded genuineGuard root change) :
    (∃ record', ActionTarget root' actionId entry key record') ∨
      root'.actionIndex.get actionId = none := by
  obtain ⟨record', hafter, same⟩ | ⟨mono, epoch, rfl, hexp⟩ | ⟨rfl, hvictim⟩ :=
    step.record_kept inv guarded target.issued
  · refine .inl ⟨record', hafter, target.stateKey, same.response ▸ target.responseId, ?_⟩
    rw [(step.recordSource inv guarded hafter).find?_actionId target.issued]
    exact target.effect
  · right
    cases step
    have hremoved : actionId ∈ (expiredCompleteRecords root mono).flatMap (·.actionIds) :=
      List.mem_flatMap.mpr ⟨record, mem_expiredCompleteRecords.mpr ⟨key, target.issued, hexp⟩,
        target.mem_actionIds⟩
    rw [published_actionIndex, withoutExpired, FrozenMap.get_withoutKeys, if_pos hremoved]
  · right
    cases step with
    | evict _ victim =>
      rw [hvictim] at victim
      cases victim
      rw [published_actionIndex, withoutIssuedRecord, FrozenMap.get_withoutKeys,
        if_pos target.mem_actionIds]

/-- The entries that a commit adds lead to the effects of its record. -/
theorem actionTarget_of_mem_actionEntries {key : RecordKey}
    {record : CompleteIssuedResponseRecordV1}
    (hget : root.issuedRecords.get key = some (.complete record))
    (hkey : record.stateKey = key.stateKey) (keyed : ActionKeyed record.effects) {actionId : String}
    {entry : ConversationStateKey × String × String}
    (hmem : (actionId, entry) ∈ record.actionEntries) :
    ActionTarget root actionId entry key record := by
  obtain ⟨effect, heffect, hentry⟩ := List.mem_filterMap.mp hmem
  obtain ⟨id, hid, heq⟩ := Option.map_eq_some_iff.mp hentry
  cases heq
  refine ⟨hget, hkey.symm, rfl, ?_⟩
  -- Whichever effect comes first under the key of this one is named by the same action id.
  cases hfind : record.effects.find? (·.effectKey = effect.effectKey) with
  | none => simpa using List.find?_eq_none.mp hfind effect heffect
  | some first =>
    have hfirst : first.effectKey = "action:" ++ actionId := by
      rw [← (keyed.key effect heffect actionId).mp hid]
      simpa using List.find?_some hfind
    exact (keyed.key first (List.mem_of_find?_eq_some hfind) actionId).mpr hfirst

/-- The action index only gains the entries of a committed record. -/
theorem RootStep.actionIndex_entry (step : RootStep setup root change root') {actionId : String}
    {entry : ConversationStateKey × String × String}
    (h : root'.actionIndex.get actionId = some entry) :
    root.actionIndex.get actionId = some entry ∨
      ∃ key record, root'.issuedRecords.get key = some (.complete record) ∧
        record.stateKey = key.stateKey ∧ (actionId, entry) ∈ record.actionEntries := by
  cases step with
  | cleanup => exact .inl (FrozenMap.get_withoutKeys_eq_some.mp h).1
  | evict => exact .inl (FrozenMap.get_withoutKeys_eq_some.mp h).1
  | reserve | abort | prepare | commitFeedback | drop => exact .inl h
  | @commit proposal readings revision _ _ _ =>
    set record := completeRecord setup.config proposal
        (revision.next setup.config readings.monotonicNs)
      (issuedResponse proposal readings) readings.monotonicNs readings.epochMs
    by_cases hnew : actionId ∈ record.actionEntries.map (·.1)
    · obtain ⟨entry', hmem, hget⟩ := FrozenMap.get_withUpdates_mem root.actionIndex hnew
      obtain rfl : entry' = entry := Option.some.inj (hget.symm.trans h)
      exact .inr ⟨⟨proposal.stateKey, proposal.requestId⟩, record,
        FrozenMap.get_insert_self .., rfl,
        hmem⟩
    · left
      rw [← h]
      exact (FrozenMap.get_withUpdates_of_notMem root.actionIndex hnew).symm

theorem RootStep.actionIndexSound (step : RootStep setup root change root')
    (sound : ActionIndexSound root) (inv : RootInvariant root)
    (guarded : Guarded genuineGuard root change) : ActionIndexSound root' := by
  have hkeyed : ∀ {key record}, root'.issuedRecords.get key = some (.complete record) →
      ActionKeyed record.effects :=
    fun hget => (step.recordSource inv guarded hget).actionKeyed sound
  refine ⟨hkeyed, fun {actionId entry} h => ?_⟩
  obtain hbefore | ⟨key, record, hget, hkey, hmem⟩ := step.actionIndex_entry h
  · obtain ⟨key, record, target⟩ := sound.target hbefore
    obtain ⟨record', target'⟩ | hgone := target.step step inv guarded
    · exact ⟨key, record', target'⟩
    · simp [h] at hgone
  · exact ⟨key, record, actionTarget_of_mem_actionEntries hget hkey (hkeyed hget) hmem⟩

/-- Sound roots pass the index checks. -/
theorem indexesValid_of_sound (inv : RootInvariant root) (sound : ActionIndexSound root) :
    indexesValid root = true := by
  have hpending : pendingIndexValid root = true := by
    rw [pendingIndexValid, List.all_eq_true]
    rintro ⟨k, key⟩ hmem
    obtain ⟨record, hget, hk⟩ := inv.pending.get_iff.mp (FrozenMap.get_eq_some_iff.mpr hmem)
    cases record with
    | pending p => simpa [hget] using Option.some.inj hk
    | complete r => cases hk
  have hresponse : responseIndexValid root = true := by
    rw [responseIndexValid, List.all_eq_true]
    rintro ⟨id, key⟩ hmem
    obtain ⟨record, hget, hid⟩ := inv.responses.get_iff.mp (FrozenMap.get_eq_some_iff.mpr hmem)
    cases record with
    | pending p => cases hid
    | complete r => simpa [hget] using Option.some.inj hid
  have haction : actionIndexValid root = true := by
    rw [actionIndexValid, List.all_eq_true]
    rintro ⟨actionId, entry⟩ hmem
    obtain ⟨key, record, target⟩ := sound.target (FrozenMap.get_eq_some_iff.mpr hmem)
    have hindex := inv.responses.get_of_value target.issued (congrArg some target.responseId)
    obtain ⟨effect, hfind, hid⟩ := Option.bind_eq_some_iff.mp target.effect
    simp [hindex, target.stateKey, target.issued, hfind, hid]
  simp [indexesValid, hpending, hresponse, haction]

theorem ActionIndexSound.of_run {adm : List CoordinatorEvent → CoordinatorEvent → Prop}
    {es : List CoordinatorEvent} {c : Coordinator} (run : CoordinatorRun setup adm es c)
    (hadm : ∀ es e, adm es e → Admissible es e) : ActionIndexSound c.root := by
  have h := run_root_invariant (P := fun root => RootInvariant root ∧
      ActionIndexSound root) run hadm
    ⟨.empty, .empty⟩ fun guarded h step =>
      ⟨step.rootInvariant h.1 guarded, step.actionIndexSound h.2 h.1 guarded⟩
  exact h.2

end MarketSupport
