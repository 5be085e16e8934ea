import MarketSupport.State.Records

/-!
# Issued effects

The effects that a response can have on the world, how feedback about them is checked
against the issued record, and how accepted transitions are applied.
-/

namespace MarketSupport

/-! ## Deriving effects -/

def responseEffect (effectKey : String) (effectType : ActionExecutionType) : IssuedEffectV1 where
  effectKey := effectKey
  effectType := effectType
  actionId := none
  resolveRef := none
  materialPackOption := none
  period := none
  reportDate := none
  status := none
  artifactRef := none
  statusHistory := []

def actionEffect (action : OutboundAction) : IssuedEffectV1 where
  effectKey := "action:" ++ action.actionId
  effectType := action.type
  actionId := some action.actionId
  resolveRef := some action.resolveRef
  materialPackOption := action.materialPackOption
  period := action.period
  reportDate := action.reportDate
  status := none
  artifactRef := none
  statusHistory := []

/-- `derive_issued_effects`: the text, each sales mention, each action. -/
def deriveIssuedEffects (response : ReplyResponse) : List IssuedEffectV1 :=
  (if response.reply.kind ≠ .noReply ∧ response.reply.text ≠ "" then
    [responseEffect "send_text" .sendText] else []) ++
  (response.reply.mentions.filter (·.type = .sales)).map
    (fun _ => responseEffect "mention:sales" .mentionSales) ++
  response.actions.map actionEffect

/-! ## Checking feedback -/

/-- The effect that an execution is about, when its shape is admissible. -/
def executionEffectKey? (execution : ActionExecutionFeedbackV2) : Option String :=
  match execution.actionType, execution.actionId, execution.artifact with
  | .sendMaterialPack, some actionId, some _ | .sendWeeklyReport, some actionId, some _
  | .sendMonthlyReport, some actionId, some _ => some ("action:" ++ actionId)
  | .sendText, none, none => some "send_text"
  | .mentionSales, none, none => some "mention:sales"
  | _, _, _ => none

/-- `_validate_execution_set`; `effectKeys` are the keys seen so far. -/
def validateExecutionSet (effectKeys : List String) :
    List ActionExecutionFeedbackV2 → Except CoordinatorException Unit
  | [] => .ok ()
  | execution :: rest =>
    match executionEffectKey? execution with
    | none => .error (.coordinatorError "feedback_effect_mismatch")
    | some effectKey =>
      if effectKey ∈ effectKeys then .error (.coordinatorError "feedback_effect_duplicate")
      else validateExecutionSet (effectKey :: effectKeys) rest

/-- The metadata comparison of `_validate_effect_metadata`. -/
def effectMetadataMatches (effect : IssuedEffectV1)
    (execution : ActionExecutionFeedbackV2) : Bool :=
  match execution.actionType, execution.artifact with
  | .sendMaterialPack, some (.materialPack resolveRef _ option) =>
    resolveRef = effect.resolveRef ∧ option = effect.materialPackOption ∧ effect.period = none ∧
      effect.reportDate = none
  | .sendWeeklyReport, some (.weeklyReport resolveRef _ period reportDate)
  | .sendMonthlyReport, some (.monthlyReport resolveRef _ period reportDate) =>
    resolveRef = effect.resolveRef ∧ period = effect.period ∧ reportDate = effect.reportDate ∧
      effect.materialPackOption = none
  | .sendText, none | .mentionSales, none => true
  | _, _ => false

/-- The transitions that `_validate_status_transition` lets pass. -/
def statusTransitionAllowed (current : Option ActionExecutionStatus)
    (currentArtifact : Option String)
    (requested : ActionExecutionStatus) (requestedArtifact : Option String) : Bool :=
  (current = some requested ∧ currentArtifact = requestedArtifact) ∨ current = none ∨
    ((current = some .failed ∨ current = some .skipped) ∧ requested = .executed)

/-- The key under which the effect of an execution is looked up. -/
def lookupEffectKey (execution : ActionExecutionFeedbackV2) : String :=
  match execution.actionId with
  | some actionId => "action:" ++ actionId
  | none => if execution.actionType = .mentionSales then "mention:sales" else "send_text"

/-- One turn of the loop in `prepare_effect_transitions`. -/
def prepareEffectTransition (effects : List IssuedEffectV1)
    (execution : ActionExecutionFeedbackV2) :
    Except CoordinatorException PreparedEffectTransitionV1 :=
  match effects.find? (·.effectKey = lookupEffectKey execution) with
  | none => .error (.coordinatorError "feedback_effect_mismatch")
  | some effect =>
    let artifactRef := execution.artifact.bind (·.artifactRef)
    if effect.effectType ≠ execution.actionType then
      .error (.coordinatorError "feedback_effect_mismatch")
    else if !effectMetadataMatches effect execution then
      .error (.coordinatorError "feedback_effect_metadata_mismatch")
    else if !statusTransitionAllowed effect.status effect.artifactRef execution.status
        artifactRef then
      .error (.coordinatorError "feedback_effect_conflict")
    else .ok {
      effectKey := effect.effectKey
      effectType := effect.effectType
      expectedStatus := effect.status
      requestedStatus := execution.status
      expectedArtifactRef := effect.artifactRef
      requestedArtifactRef := artifactRef
      isNoop := effect.status = some execution.status ∧ effect.artifactRef = artifactRef }

/-- `prepare_effect_transitions`. -/
def prepareEffectTransitions (record : CompleteIssuedResponseRecordV1)
    (feedback : ActionFeedbackRequestV2) :
    Except CoordinatorException (List PreparedEffectTransitionV1) := do
  validateExecutionSet [] feedback.executions
  feedback.executions.mapM (prepareEffectTransition record.effects)

/-! ## Applying transitions -/

/-- `{transition.effect_key: transition}`: the last transition of a key wins. -/
def transitionFor (transitions : List PreparedEffectTransitionV1) (effectKey : String) :
    Option PreparedEffectTransitionV1 :=
  transitions.reverse.find? (·.effectKey = effectKey)

/-- One effect under the transitions. -/
def applyTransition (transitions : List PreparedEffectTransitionV1) (effect : IssuedEffectV1) :
    IssuedEffectV1 :=
  match transitionFor transitions effect.effectKey with
  | none => effect
  | some transition =>
    if transition.isNoop then effect
    else { effect with
      status := some transition.requestedStatus
      artifactRef := transition.requestedArtifactRef
      statusHistory := effect.statusHistory ++ [transition.requestedStatus] }

/-- `apply_effect_transitions`. -/
def applyEffectTransitions (effects : List IssuedEffectV1)
    (transitions : List PreparedEffectTransitionV1) : List IssuedEffectV1 :=
  effects.map (applyTransition transitions)

/-! ## Effects under one key -/

/-- Effects under one key share their status, as repeated sales mentions do. -/
def Lockstep (effects : List IssuedEffectV1) : Prop :=
  ∀ a ∈ effects, ∀ b ∈ effects, a.effectKey = b.effectKey →
    a.status = b.status ∧ a.artifactRef = b.artifactRef ∧ a.statusHistory = b.statusHistory

/-- Nothing has been reported about a derived effect. -/
theorem deriveIssuedEffects_unreported {response : ReplyResponse} {effect : IssuedEffectV1}
    (h : effect ∈ deriveIssuedEffects response) :
    effect.status = none ∧ effect.artifactRef = none ∧ effect.statusHistory = [] := by
  simp only [deriveIssuedEffects, List.mem_append, List.mem_map] at h
  obtain (h | ⟨_, _, rfl⟩) | ⟨_, _, rfl⟩ := h
  · split_ifs at h
    · obtain rfl := List.mem_singleton.mp h
      exact ⟨rfl, rfl, rfl⟩
    · cases h
  · exact ⟨rfl, rfl, rfl⟩
  · exact ⟨rfl, rfl, rfl⟩

theorem lockstep_deriveIssuedEffects (response : ReplyResponse) :
    Lockstep (deriveIssuedEffects response) := by
  intro a ha b hb _
  obtain ⟨ha, ha', ha''⟩ := deriveIssuedEffects_unreported ha
  obtain ⟨hb, hb', hb''⟩ := deriveIssuedEffects_unreported hb
  exact ⟨ha.trans hb.symm, ha'.trans hb'.symm, ha''.trans hb''.symm⟩

@[simp] theorem applyTransition_effectKey (transitions : List PreparedEffectTransitionV1)
    (effect : IssuedEffectV1) :
    (applyTransition transitions effect).effectKey = effect.effectKey := by
  unfold applyTransition
  split
  · rfl
  · split_ifs <;> rfl

@[simp] theorem applyTransition_effectType (transitions : List PreparedEffectTransitionV1)
    (effect : IssuedEffectV1) :
    (applyTransition transitions effect).effectType = effect.effectType := by
  unfold applyTransition
  split
  · rfl
  · split_ifs <;> rfl

@[simp] theorem applyTransition_actionId (transitions : List PreparedEffectTransitionV1)
    (effect : IssuedEffectV1) :
    (applyTransition transitions effect).actionId = effect.actionId := by
  unfold applyTransition
  split
  · rfl
  · split_ifs <;> rfl

theorem Lockstep.apply {effects : List IssuedEffectV1} (h : Lockstep effects)
    (transitions : List PreparedEffectTransitionV1) :
    Lockstep (applyEffectTransitions effects transitions) := by
  intro a' ha' b' hb' hkey
  obtain ⟨a, ha, rfl⟩ := List.mem_map.mp ha'
  obtain ⟨b, hb, rfl⟩ := List.mem_map.mp hb'
  rw [applyTransition_effectKey, applyTransition_effectKey] at hkey
  have hab := h a ha b hb hkey
  unfold applyTransition
  rw [hkey]
  cases transitionFor transitions b.effectKey with
  | none => exact hab
  | some transition =>
    dsimp only
    split_ifs
    · exact hab
    · exact ⟨rfl, rfl, by simp only [hab.2.2]⟩

/-- Preparing feedback reads only the effects of the record. -/
theorem prepareEffectTransitions_congr {a b : CompleteIssuedResponseRecordV1}
    (h : a.effects = b.effects) (feedback : ActionFeedbackRequestV2) :
    prepareEffectTransitions a feedback = prepareEffectTransitions b feedback := by
  simp [prepareEffectTransitions, h]

end MarketSupport
