import Mathlib.Data.List.Nodup
import MarketSupport.State.Effects

/-!
# Transitions of effects

What preparing feedback establishes about its transitions, and what applying them does to the
status of an effect.

## Main results

* `prepareEffectTransitions_ok` — prepared transitions have distinct keys and each was
  checked against an effect of the record.
* `ValidFor.checked` — the check covers every effect under the key, not only the first.
-/

namespace MarketSupport

/-! ## Prepared transitions -/

/-- The transition was checked against an effect and records the status that it found. -/
structure CheckedAgainst (effect : IssuedEffectV1) (transition : PreparedEffectTransitionV1) :
    Prop where
  key : effect.effectKey = transition.effectKey
  type : effect.effectType = transition.effectType
  status : effect.status = transition.expectedStatus
  artifact : effect.artifactRef = transition.expectedArtifactRef
  noop : transition.isNoop = true ↔
    effect.status = some transition.requestedStatus ∧
      effect.artifactRef = transition.requestedArtifactRef
  allowed : statusTransitionAllowed effect.status effect.artifactRef transition.requestedStatus
    transition.requestedArtifactRef = true

/-- Some effect of the record passed the check. -/
def ValidFor (effects : List IssuedEffectV1) (transition : PreparedEffectTransitionV1) : Prop :=
  ∃ effect ∈ effects, CheckedAgainst effect transition

theorem executionEffectKey?_eq_some {execution : ActionExecutionFeedbackV2} {key : String}
    (h : executionEffectKey? execution = some key) : key = lookupEffectKey execution := by
  unfold executionEffectKey? at h
  unfold lookupEffectKey
  split at h <;> simp_all

/-- The executions of admissible feedback are about distinct effects. -/
theorem validateExecutionSet_ok {seen : List String} {executions : List ActionExecutionFeedbackV2}
    (h : validateExecutionSet seen executions = .ok ()) :
    (executions.map lookupEffectKey).Nodup ∧
      ∀ execution ∈ executions, lookupEffectKey execution ∉ seen := by
  induction executions generalizing seen with
  | nil => simp
  | cons execution rest ih =>
    unfold validateExecutionSet at h
    split at h
    · cases h
    · next key hkey =>
      split_ifs at h with hseen
      obtain rfl := executionEffectKey?_eq_some hkey
      obtain ⟨hnodup, hfresh⟩ := ih h
      constructor
      · rw [List.map_cons, List.nodup_cons]
        refine ⟨fun hmem => ?_, hnodup⟩
        obtain ⟨other, hother, heq⟩ := List.mem_map.mp hmem
        exact hfresh other hother (heq ▸ List.mem_cons_self)
      · intro other hother
        rcases List.mem_cons.mp hother with rfl | hother
        · exact hseen
        · exact fun hmem => hfresh other hother (List.mem_cons_of_mem _ hmem)

theorem prepareEffectTransition_ok {effects : List IssuedEffectV1}
    {execution : ActionExecutionFeedbackV2} {transition : PreparedEffectTransitionV1}
    (h : prepareEffectTransition effects execution = .ok transition) :
    transition.effectKey = lookupEffectKey execution ∧ ValidFor effects transition := by
  unfold prepareEffectTransition at h
  split at h
  · cases h
  · next effect hfind =>
    simp only at h
    split_ifs at h with htype hmeta hallowed
    cases h
    have hkey : effect.effectKey = lookupEffectKey execution := by
      simpa using List.find?_some hfind
    refine ⟨hkey, effect, List.mem_of_find?_eq_some hfind, rfl, rfl, rfl, rfl, by simp, ?_⟩
    simpa using hallowed

/-- The transitions of a list of executions, in their order. -/
theorem mapM_prepareEffectTransition_ok {effects : List IssuedEffectV1}
    {executions : List ActionExecutionFeedbackV2} {transitions : List PreparedEffectTransitionV1}
    (h : executions.mapM (prepareEffectTransition effects) = .ok transitions) :
    transitions.map (·.effectKey) = executions.map lookupEffectKey ∧
      ∀ transition ∈ transitions, ValidFor effects transition := by
  induction executions generalizing transitions with
  | nil =>
    cases h
    simp
  | cons execution rest ih =>
    rw [List.mapM_cons] at h
    cases hfirst : prepareEffectTransition effects execution with
    | error e => simp [hfirst, bind, Except.bind] at h
    | ok first =>
      cases hrest : rest.mapM (prepareEffectTransition effects) with
      | error e => simp [hfirst, hrest, bind, Except.bind] at h
      | ok others =>
        obtain ⟨hkey, hvalid⟩ := prepareEffectTransition_ok hfirst
        obtain ⟨hkeys, hvalids⟩ := ih hrest
        obtain rfl : first :: others = transitions := by
          simpa [hfirst, hrest, bind, Except.bind, pure, Except.pure] using h
        exact ⟨by simp [hkey, hkeys], by simpa using ⟨hvalid, hvalids⟩⟩

theorem prepareEffectTransitions_ok {record : CompleteIssuedResponseRecordV1}
    {feedback : ActionFeedbackRequestV2} {transitions : List PreparedEffectTransitionV1}
    (h : prepareEffectTransitions record feedback = .ok transitions) :
    (transitions.map (·.effectKey)).Nodup ∧
      ∀ transition ∈ transitions, ValidFor record.effects transition := by
  unfold prepareEffectTransitions at h
  cases hset : validateExecutionSet [] feedback.executions with
  | error e => simp [hset, bind, Except.bind] at h
  | ok u =>
    rw [hset] at h
    obtain ⟨hkeys, hvalid⟩ := mapM_prepareEffectTransition_ok h
    exact ⟨hkeys ▸ (validateExecutionSet_ok hset).1, hvalid⟩

theorem transitionFor_eq_some {transitions : List PreparedEffectTransitionV1} {key : String}
    {transition : PreparedEffectTransitionV1}
    (h : transitionFor transitions key = some transition) :
    transition ∈ transitions ∧ transition.effectKey = key := by
  refine ⟨List.mem_reverse.mp (List.mem_of_find?_eq_some h), ?_⟩
  simpa using List.find?_some h

/-- With distinct keys the transition of a key is the one in the list. -/
theorem transitionFor_of_mem {transitions : List PreparedEffectTransitionV1}
    (hnodup : (transitions.map (·.effectKey)).Nodup) {transition : PreparedEffectTransitionV1}
    (hmem : transition ∈ transitions) :
    transitionFor transitions transition.effectKey = some transition := by
  cases hfind : transitionFor transitions transition.effectKey with
  | none =>
    have hnone := List.find?_eq_none.mp hfind transition (List.mem_reverse.mpr hmem)
    simp at hnone
  | some other =>
    obtain ⟨hother, hkey⟩ := transitionFor_eq_some hfind
    exact congrArg some (List.inj_on_of_nodup_map hnodup hother hmem hkey)

/-- An effect stays as it is, or the transition of its key moves it. -/
theorem applyTransition_split (transitions : List PreparedEffectTransitionV1)
    (effect : IssuedEffectV1) :
    (applyTransition transitions effect = effect ∧
      ∀ transition, transitionFor transitions effect.effectKey = some transition →
        transition.isNoop = true) ∨
    ∃ transition, transitionFor transitions effect.effectKey = some transition ∧
      transition.isNoop = false ∧ applyTransition transitions effect = { effect with
        status := some transition.requestedStatus
        artifactRef := transition.requestedArtifactRef
        statusHistory := effect.statusHistory ++ [transition.requestedStatus] } := by
  unfold applyTransition
  cases hfor : transitionFor transitions effect.effectKey with
  | none => exact .inl ⟨rfl, by simp⟩
  | some transition =>
    cases hnoop : transition.isNoop with
    | true => exact .inl ⟨by simp [hnoop], by simp [hnoop]⟩
    | false => exact .inr ⟨transition, rfl, hnoop, by simp [hnoop]⟩

/-- What a transition does to one effect, in a list of transitions with distinct keys. -/
theorem applyTransition_cases {transitions : List PreparedEffectTransitionV1}
    (hnodup : (transitions.map (·.effectKey)).Nodup) (effect : IssuedEffectV1) :
    (applyTransition transitions effect = effect ∧
      ∀ transition ∈ transitions, transition.effectKey = effect.effectKey →
        transition.isNoop = true) ∨
    ∃ transition ∈ transitions, transition.effectKey = effect.effectKey ∧
      transition.isNoop = false ∧ applyTransition transitions effect = { effect with
        status := some transition.requestedStatus
        artifactRef := transition.requestedArtifactRef
        statusHistory := effect.statusHistory ++ [transition.requestedStatus] } := by
  obtain ⟨hsame, hnoop⟩ | ⟨transition, hfor, hnoop, happly⟩ :=
    applyTransition_split transitions effect
  · refine .inl ⟨hsame, fun transition hmem hkey => hnoop transition ?_⟩
    rw [← hkey]
    exact transitionFor_of_mem hnodup hmem
  · obtain ⟨hmem, hkey⟩ := transitionFor_eq_some hfor
    exact .inr ⟨transition, hmem, hkey, hnoop, happly⟩

/-- In lockstep, a transition that was checked against one effect fits all under its key. -/
theorem ValidFor.checked {effects : List IssuedEffectV1} {transition : PreparedEffectTransitionV1}
    (h : ValidFor effects transition) (lockstep : Lockstep effects) {effect : IssuedEffectV1}
    (hmem : effect ∈ effects) (hkey : effect.effectKey = transition.effectKey) :
    effect.status = transition.expectedStatus ∧
      effect.artifactRef = transition.expectedArtifactRef ∧
      (transition.isNoop = true ↔ effect.status = some transition.requestedStatus ∧
        effect.artifactRef = transition.requestedArtifactRef) ∧
      statusTransitionAllowed effect.status effect.artifactRef transition.requestedStatus
        transition.requestedArtifactRef = true := by
  obtain ⟨other, hother, checked⟩ := h
  obtain ⟨hstatus, hartifact, _⟩ := lockstep effect hmem other hother (hkey.trans checked.key.symm)
  rw [hstatus, hartifact]
  exact ⟨checked.status, checked.artifact, checked.noop, checked.allowed⟩

end MarketSupport
