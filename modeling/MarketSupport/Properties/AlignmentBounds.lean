import MarketSupport.Lifecycle.ReplyTurn
import MarketSupport.Validation.AlignmentLoop

/-!
# The bounds of the alignment loop

Whatever the remediator answers, the loop keeps to its budgets, and what it returns was
approved, or is a replacement, an unchanged refusal, or a candidate that is not valid.

## Main results

* `alignmentLoop_ends` — the invariant of the loop, by induction on the remaining budget.
* `alignment_bounded` — the bounds and the returned candidates of `ensure_aligned_v2_response`.
-/

namespace MarketSupport

open Library Program

variable {encoding : PlanEncoding} {limits : AlignmentRemediationLimitsV1}
  {recallState : Object RecallTurnStateV1}

/-! ## Exchanges with the remediator -/

abbrev AlignmentExchange := Exchange AlignmentCall AlignmentCall.Answer

def AlignmentCall.isVerdict : AlignmentCall → Bool
  | .verdictFor .. => true
  | _ => false

/-- The action that a call runs. -/
def AlignmentCall.action? : AlignmentCall → Option AlignmentAction
  | .replan .. => some .replan
  | .refetch .. => some .refetch
  | .recompose .. => some .recompose
  | _ => none

/-- The number of verdicts that were asked for. -/
def verdictCount (l : List AlignmentExchange) : ℕ := l.countP (·.1.isVerdict)

/-- How often the action was run. -/
def actionCount (action : AlignmentAction) (l : List AlignmentExchange) : ℕ :=
  l.countP (·.1.action? = some action)

/-- How often any action was run. -/
def actionTotal (l : List AlignmentExchange) : ℕ := l.countP (·.1.action?.isSome)

/-- The exchange ran an action, which returned the candidate. -/
def Mended (candidate : V2AttemptResult) : AlignmentExchange → Prop
  | ⟨.replan .., .ok next⟩ | ⟨.recompose .., .ok next⟩ => next = candidate
  | ⟨.refetch .., .ok outcome⟩ => AlignmentRefetchOutcomeV1.candidate outcome = candidate
  | _ => False

/-- Why a candidate is returned, by the last exchange. -/
inductive MayReturn (encoding : PlanEncoding) (candidate : V2AttemptResult) :
    AlignmentExchange → Prop
  | approved {attempt : ℕ} {verdict : ReplyAlignmentVerdict} (aligned : verdict.aligned = true)
      (safe : verdict.safeToReturn = true) :
      MayReturn encoding candidate ⟨.verdictFor candidate attempt, .ok verdict⟩
  | replaced {before : V2AttemptResult} {verdict : Option ReplyAlignmentVerdict}
      {remediation : AlignmentFallbackV1}
      (authority : requireReplacementAuthority encoding before candidate remediation = .ok ()) :
      MayReturn encoding candidate ⟨.replace before verdict remediation, .ok candidate⟩
  | refused {attempt : ℕ} {e : AlignmentException} (caught : e.caught = true)
      (refusal : candidate.plan.value.responseMode = .refusal) :
      MayReturn encoding candidate ⟨.verdictFor candidate attempt, .error e⟩
  | invalid {exchange : AlignmentExchange} (mended : Mended candidate exchange)
      (invalid : candidate.replyValidation.valid = false) : MayReturn encoding candidate exchange

/-- The candidate has the recall state object of the turn. -/
def KeepsRecall (recallState : Object RecallTurnStateV1) (candidate : V2AttemptResult) : Prop :=
  ∃ actual, candidate.recallState = some actual ∧ actual.Is recallState

/-- The exceptions of `_alignment_attempt` and `_action_attempt`. -/
def OutOfRange (e : AlignmentException) : Prop :=
  e = .agentRuntimeError "alignment_attempt_out_of_range" ∨
    e = .agentRuntimeError "alignment_action_attempt_out_of_range"

/-- How a part of the loop ends: an out-of-range error is one that the remediator raised, and
a returned candidate is one that may be returned. -/
structure Ends (encoding : PlanEncoding) (recallState : Object RecallTurnStateV1)
    (l : List AlignmentExchange) (result : Except AlignmentException V2AttemptResult) : Prop where
  raised : ∀ e, OutOfRange e → result = .error e → ∃ x ∈ l, x.2 = .error e
  returned : ∀ candidate, result = .ok candidate → KeepsRecall recallState candidate ∧
    ∃ l' x, l = l' ++ [x] ∧ MayReturn encoding candidate x

theorem Ends.prepend {l : List AlignmentExchange}
    {result : Except AlignmentException V2AttemptResult} (h : Ends encoding recallState l result)
    (l₀ : List AlignmentExchange) : Ends encoding recallState (l₀ ++ l) result where
  raised e hrange hresult := by
    obtain ⟨x, hx, hraised⟩ := h.raised e hrange hresult
    exact ⟨x, List.mem_append_right _ hx, hraised⟩
  returned candidate hresult := by
    obtain ⟨hkeeps, l', x, rfl, hx⟩ := h.returned candidate hresult
    exact ⟨hkeeps, l₀ ++ l', x, by simp, hx⟩

/-! ## The parts of the loop -/

@[simp] theorem verdictCount_append (l l' : List AlignmentExchange) :
    verdictCount (l ++ l') = verdictCount l + verdictCount l' := List.countP_append

@[simp] theorem actionCount_append (action : AlignmentAction) (l l' : List AlignmentExchange) :
    actionCount action (l ++ l') = actionCount action l + actionCount action l' :=
  List.countP_append

@[simp] theorem actionTotal_append (l l' : List AlignmentExchange) :
    actionTotal (l ++ l') = actionTotal l + actionTotal l' := List.countP_append

theorem actionCount_le_total (action : AlignmentAction) (l : List AlignmentExchange) :
    actionCount action l ≤ actionTotal l := by
  refine List.countP_mono_left fun x _ h => ?_
  rw [of_decide_eq_true h]
  rfl

/-- No postcondition fails with an out-of-range code. -/
structure Harmless {α : Type} (result : Except AlignmentException α) : Prop where
  error : ∀ e, result = .error e → ¬ OutOfRange e

theorem harmless_requireSameRecallState (candidate : V2AttemptResult)
    (expected : Object RecallTurnStateV1) :
    Harmless (requireSameRecallState candidate expected) where
  error e h := by
    unfold requireSameRecallState at h
    split at h
    · cases h
      simp [OutOfRange]
    · split_ifs at h
      cases h
      simp [OutOfRange]

theorem harmless_requireReplacementAuthority (before after : V2AttemptResult)
    (remediation : AlignmentFallbackV1) :
    Harmless (requireReplacementAuthority encoding before after remediation) where
  error e h := by
    unfold requireReplacementAuthority at h
    split_ifs at h
    cases h
    simp [OutOfRange]

theorem harmless_requireReplanAuthority (before after : V2AttemptResult) :
    Harmless (requireReplanAuthority encoding before after) where
  error e h := by
    unfold requireReplanAuthority at h
    split_ifs at h
    cases h
    simp [OutOfRange]

theorem harmless_requireRefetchAuthority (before : V2AttemptResult)
    (outcome : AlignmentRefetchOutcomeV1) (verdict : ReplyAlignmentVerdict) :
    Harmless (requireRefetchAuthority encoding before outcome verdict) where
  error e h := by
    unfold requireRefetchAuthority at h
    split_ifs at h
    cases h
    simp [OutOfRange]

theorem harmless_requireRecomposeResponseOnly (before after : V2AttemptResult) :
    Harmless (requireRecomposeResponseOnly before after) where
  error e h := by
    unfold requireRecomposeResponseOnly at h
    split_ifs at h
    cases h
    simp [OutOfRange]

/-- A program that ends with a harmless error. -/
theorem Ends.of_harmless {α : Type} {x : Except AlignmentException α} (h : Harmless x)
    {l : List AlignmentExchange} {e : AlignmentException} (he : x = .error e) :
    Ends encoding recallState l (.error e) where
  raised _ hrange heq := absurd hrange (Except.error.inj heq ▸ h.error e he)
  returned _ heq := nomatch heq

/-- A program that ends with what the remediator raised last. -/
theorem Ends.of_raised {x : AlignmentExchange} {e : AlignmentException} (h : x.2 = .error e) :
    Ends encoding recallState [x] (.error e) where
  raised _ _ heq := ⟨x, List.mem_singleton_self _, by rw [h, Except.error.inj heq]⟩
  returned _ heq := nomatch heq

/-- A program that returns what its last exchange lets it return. -/
theorem Ends.of_returned {candidate : V2AttemptResult} {x : AlignmentExchange}
    (l : List AlignmentExchange) (keeps : KeepsRecall recallState candidate)
    (h : MayReturn encoding candidate x) :
    Ends encoding recallState (l ++ [x]) (.ok candidate) where
  raised _ _ heq := nomatch heq
  returned _ heq := by
    cases heq
    exact ⟨keeps, l, x, rfl, h⟩

/-- A fallback asks for one replacement. -/
theorem replaceCandidate_ends (candidate : V2AttemptResult) (verdict : Option ReplyAlignmentVerdict)
    (remediation : AlignmentFallbackV1) :
    (replaceCandidate encoding recallState candidate verdict remediation).wp (fun l result =>
      verdictCount l = 0 ∧ actionTotal l = 0 ∧ Ends encoding recallState l result) := by
  refine wp_bind.mpr fun answer => ?_
  cases answer with
  | error e => exact ⟨rfl, rfl, .of_raised rfl⟩
  | ok replacement =>
    refine wp_ofExcept_bind (fun _ authority => ?_) fun e he =>
      ⟨rfl, rfl, .of_harmless (harmless_requireReplacementAuthority ..) he⟩
    refine wp_ofExcept_bind (fun _ same => ?_) fun e he =>
      ⟨rfl, rfl, .of_harmless (harmless_requireSameRecallState ..) he⟩
    exact ⟨rfl, rfl, .of_returned [] (requireSameRecallState_ok same) (.replaced authority)⟩

/-- After the verifier failed: a refusal is returned as it is, any other candidate replaced. -/
theorem verifierFailed_ends {candidate : V2AttemptResult}
    (keeps : KeepsRecall recallState candidate)
    {e : AlignmentException} (caught : e.caught = true) (attempt : ℕ) :
    (verifierFailed encoding recallState candidate).wp (fun l result =>
      verdictCount l = 0 ∧ actionTotal l = 0 ∧
        Ends encoding recallState (⟨.verdictFor candidate attempt, .error e⟩ :: l) result) := by
  unfold verifierFailed
  by_cases hmode : candidate.plan.value.responseMode = .refusal
  · rw [if_pos hmode]
    exact ⟨rfl, rfl, .of_returned [] keeps (.refused caught hmode)⟩
  · rw [if_neg hmode]
    refine wp_mono (replaceCandidate_ends candidate none .returnUnable) fun l result h => ?_
    exact ⟨h.1, h.2.1, h.2.2.prepend [_]⟩

/-- The exchanges run the action once, and nothing else that is counted. -/
structure RunsOnce (action : AlignmentAction) (l : List AlignmentExchange) : Prop where
  verdicts : verdictCount l = 0
  other : ∀ action', action' ≠ action → actionCount action' l = 0
  total : actionTotal l = 1

theorem RunsOnce.single {action : AlignmentAction} {x : AlignmentExchange}
    (h : x.1.action? = some action) : RunsOnce action [x] := by
  obtain ⟨c, answer⟩ := x
  cases c <;> cases h <;>
    exact ⟨rfl, by intro a ha; cases a <;> first | rfl | exact absurd rfl ha, rfl⟩

theorem RunsOnce.append {action : AlignmentAction} {l l' : List AlignmentExchange}
    (h : RunsOnce action l) (verdicts : verdictCount l' = 0) (actions : actionTotal l' = 0) :
    RunsOnce action (l ++ l') where
  verdicts := by rw [verdictCount_append, h.verdicts, verdicts]
  other action' hne := by
    have hle := actionCount_le_total action' l'
    rw [actionCount_append, h.other action' hne]
    omega
  total := by rw [actionTotal_append, h.total, actions]

/-- How the case of an action ends: what it returns may be returned, and what it goes on with
is what the action returned. -/
structure ActionEnds (encoding : PlanEncoding) (recallState : Object RecallTurnStateV1)
    (action : AlignmentAction) (l : List AlignmentExchange)
    (result : Except AlignmentException (V2AttemptResult ⊕ V2AttemptResult)) : Prop where
  once : RunsOnce action l
  raised : ∀ e, result = .error e → Ends encoding recallState l (.error e)
  returned : ∀ candidate, result = .ok (.inl candidate) →
    Ends encoding recallState l (.ok candidate)
  mended : ∀ candidate, result = .ok (.inr candidate) → ∃ l' x, l = l' ++ [x] ∧ Mended candidate x

theorem ActionEnds.of_error {action : AlignmentAction} {l : List AlignmentExchange}
    {e : AlignmentException} (once : RunsOnce action l)
    (h : Ends encoding recallState l (.error e)) :
    ActionEnds encoding recallState action l (.error e) where
  once := once
  raised _ heq := Except.error.inj heq ▸ h
  returned _ heq := nomatch heq
  mended _ heq := nomatch heq

theorem ActionEnds.of_returned {action : AlignmentAction} {l : List AlignmentExchange}
    {candidate : V2AttemptResult} (once : RunsOnce action l)
    (h : Ends encoding recallState l (.ok candidate)) :
    ActionEnds encoding recallState action l (.ok (.inl candidate)) where
  once := once
  raised _ heq := nomatch heq
  returned _ heq := by
    cases heq
    exact h
  mended _ heq := nomatch heq

theorem ActionEnds.of_mended {action : AlignmentAction} {x : AlignmentExchange}
    {candidate : V2AttemptResult} (once : RunsOnce action [x]) (h : Mended candidate x) :
    ActionEnds encoding recallState action [x] (.ok (.inr candidate)) where
  once := once
  raised _ heq := nomatch heq
  returned _ heq := nomatch heq
  mended _ heq := by
    cases heq
    exact ⟨[], x, rfl, h⟩

theorem actionAttempt_ok {n : ℕ} (pos : 1 ≤ n) (le : n ≤ 2) : actionAttempt n = .ok n := by
  unfold actionAttempt
  rw [if_neg (by omega)]
  simp

theorem replanCandidate_ends {previous : V2AttemptResult} {verdict : ReplyAlignmentVerdict} {n : ℕ}
    (pos : 1 ≤ n) (le : n ≤ 2) : (replanCandidate encoding recallState previous verdict n).wp
      (ActionEnds encoding recallState .replan) := by
  unfold replanCandidate
  rw [actionAttempt_ok pos le]
  intro answer
  have once : RunsOnce .replan [⟨.replan previous verdict n, answer⟩] := .single rfl
  cases answer with
  | ok candidate =>
    exact wp_ofExcept_bind (fun _ _ => .of_mended once rfl) fun e he =>
      .of_error once (.of_harmless (harmless_requireReplanAuthority ..) he)
  | error e =>
    change (if e.caught then _ else raise e : AlignmentProgram _).wp _
    split_ifs
    · refine wp_seq (replaceCandidate_ends previous (some verdict) .returnUnable)
        (fun l e' h => .of_error (once.append h.1 h.2.1) (h.2.2.prepend [_]))
          fun l replacement h => ?_
      rw [wp_pure, List.append_nil]
      exact .of_returned (once.append h.1 h.2.1) (h.2.2.prepend [_])
    · exact .of_error once (.of_raised rfl)

/-- Every case runs its action once. -/
theorem runAction_ends {previous : V2AttemptResult} {verdict : ReplyAlignmentVerdict}
    {counts : AlignmentCounts} {action : AlignmentAction} (pos : 1 ≤ counts.of action)
    (le : counts.of action ≤ 2) : (runAction encoding recallState previous verdict counts action).wp
      (ActionEnds encoding recallState action) := by
  cases action with
  | replan => exact replanCandidate_ends pos le
  | refetch =>
    unfold runAction
    rw [show actionAttempt counts.refetches = .ok counts.refetches from actionAttempt_ok pos le]
    intro answer
    have once : RunsOnce .refetch [⟨.refetch previous verdict counts.refetches, answer⟩] :=
      .single rfl
    cases answer with
    | ok outcome =>
      exact wp_ofExcept_bind (fun _ _ => .of_mended once rfl) fun e he =>
        .of_error once (.of_harmless (harmless_requireRefetchAuthority ..) he)
    | error e => exact .of_error once (.of_raised rfl)
  | recompose =>
    unfold runAction
    rw [show actionAttempt counts.recomposes = .ok counts.recomposes from actionAttempt_ok pos le]
    intro answer
    have once : RunsOnce .recompose [⟨.recompose previous verdict counts.recomposes, answer⟩] :=
      .single rfl
    cases answer with
    | ok candidate =>
      exact wp_ofExcept_bind (fun _ _ => .of_mended once rfl) fun e he =>
        .of_error once (.of_harmless (harmless_requireRecomposeResponseOnly ..) he)
    | error e => exact .of_error once (.of_raised rfl)

/-! ## The loop -/

/-- The counters of the loop are within their limits. -/
structure Within (limits : AlignmentRemediationLimitsV1) (counts : AlignmentCounts) : Prop where
  total : counts.total ≤ limits.maxTotal
  actions : ∀ action, counts.of action ≤ limits.of action

/-- The exchanges keep to what the counters leave of the budgets. -/
structure Budgets (limits : AlignmentRemediationLimitsV1) (counts : AlignmentCounts)
    (l : List AlignmentExchange) : Prop where
  verdicts : verdictCount l + counts.total ≤ limits.maxTotal + 1
  actions : ∀ action, actionCount action l + counts.of action ≤ limits.of action
  total : actionTotal l + counts.total ≤ limits.maxTotal

theorem AlignmentRemediationLimitsV1.of_le (limits : AlignmentRemediationLimitsV1)
    (action : AlignmentAction) : limits.of action ≤ limits.maxTotal ∧ limits.maxTotal ≤ 2 := by
  refine ⟨limits.covered _ ?_, (limits.inRange _ (by simp)).2⟩
  cases action <;> simp [AlignmentRemediationLimitsV1.of]

theorem AlignmentCounts.of_add (counts : AlignmentCounts) (action action' : AlignmentAction) :
    (counts.add action).of action' =
      if action' = action then counts.of action' + 1 else counts.of action' := by
  cases action <;> cases action' <;> rfl

/-- An action is only selected below its limit. -/
theorem selectRemediation_inl {counts : AlignmentCounts} {remediation : AlignmentRemediation}
    {action : AlignmentAction} (h : selectRemediation limits counts remediation = .inl action) :
    counts.of action < limits.of action := by
  cases remediation <;> simp only [selectRemediation] at h <;>
    first
    | (split_ifs at h with hlt; cases h; exact hlt)
    | cases h

theorem alignmentAttempt_ok {n : ℕ} (le : n ≤ 2) : alignmentAttempt n = .ok n := by
  unfold alignmentAttempt
  rw [if_neg (by omega)]
  simp

/-- A verdict is counted as one, and is no action. -/
theorem counts_verdict {x : AlignmentExchange} (hx : x.1.isVerdict = true)
    (l : List AlignmentExchange) : verdictCount (x :: l) = verdictCount l + 1 ∧
      (∀ action, actionCount action (x :: l) = actionCount action l) ∧
      actionTotal (x :: l) = actionTotal l := by
  have hnone : x.1.action? = none := by
    obtain ⟨c, answer⟩ := x
    cases c <;> first | rfl | cases hx
  exact ⟨List.countP_cons_of_pos hx, fun action => List.countP_cons_of_neg (by simp [hnone]),
    List.countP_cons_of_neg (by simp [hnone])⟩

/-- A verdict, and then exchanges that are not counted. -/
theorem Budgets.of_last {counts : AlignmentCounts} (within : Within limits counts)
    {x : AlignmentExchange} {l : List AlignmentExchange} (hx : x.1.isVerdict = true)
    (verdicts : verdictCount l = 0) (actions : actionTotal l = 0) :
    Budgets limits counts (x :: l) := by
  obtain ⟨hverdicts, hactions, htotal⟩ := counts_verdict hx l
  have hwithin := within.total
  constructor
  case verdicts => omega
  case actions =>
    intro action
    have hle := actionCount_le_total action l
    have hof := within.actions action
    rw [hactions]
    omega
  case total => omega

/-- A verdict and an action, and then exchanges within the budgets that are left. -/
theorem Budgets.of_action {counts : AlignmentCounts} {action : AlignmentAction}
    {x : AlignmentExchange} {l l' : List AlignmentExchange} (hx : x.1.isVerdict = true)
    (once : RunsOnce action l) (rest : Budgets limits (counts.add action) l') :
    Budgets limits counts (x :: (l ++ l')) := by
  obtain ⟨hverdicts, hactions, htotal⟩ := counts_verdict hx (l ++ l')
  have hadd := counts.total_add action
  constructor
  case verdicts =>
    have h := rest.verdicts
    have hone := once.verdicts
    rw [hverdicts, verdictCount_append]
    omega
  case actions =>
    intro action'
    have h := rest.actions action'
    have hle := actionCount_le_total action' l
    have htotal := once.total
    rw [counts.of_add] at h
    rw [hactions, actionCount_append]
    split_ifs at h with heq
    · omega
    · rw [once.other action' heq]
      omega
  case total =>
    have h := rest.total
    have hone := once.total
    rw [htotal, actionTotal_append]
    omega

theorem Within.budgets {counts : AlignmentCounts} (h : Within limits counts) :
    Budgets limits counts [] where
  verdicts := by
    have htotal := h.total
    simp only [verdictCount, List.countP_nil]
    omega
  actions action := by simpa [actionCount] using h.actions action
  total := by simpa [actionTotal] using h.total

/-- The counters start within every accepted limit. -/
theorem Within.start (limits : AlignmentRemediationLimitsV1) : Within limits {} where
  total := (limits.inRange limits.maxTotal (by simp)).1
  actions action := by
    cases action with
    | replan => exact (limits.inRange limits.maxReplans (by simp)).1
    | refetch => exact (limits.inRange limits.maxRefetches (by simp)).1
    | recompose => exact (limits.inRange limits.maxRecomposes (by simp)).1

theorem Within.add {counts : AlignmentCounts} {action : AlignmentAction} (h : Within limits counts)
    (total : counts.total < limits.maxTotal) (below : counts.of action < limits.of action) :
    Within limits (counts.add action) where
  total := by
    rw [counts.total_add]
    omega
  actions action' := by
    have hof := h.actions action'
    rw [counts.of_add]
    split_ifs with heq
    · subst heq
      omega
    · exact hof

/-- The loop stays within its budgets: by induction on what is left of the total. -/
theorem alignmentLoop_ends {candidate : V2AttemptResult} {counts : AlignmentCounts}
    (within : Within limits counts) (keeps : KeepsRecall recallState candidate) :
    (alignmentLoop encoding limits recallState candidate counts).wp (fun l result =>
      Budgets limits counts l ∧ Ends encoding recallState l result) := by
  induction hn : (limits.maxTotal - counts.total).toNat using Nat.strong_induction_on
    generalizing candidate counts with
  | _ n ih =>
  have htotal := within.total
  have hmax := (limits.of_le .replan).2
  rw [alignmentLoop, alignmentAttempt_ok (by omega)]
  intro answer
  cases answer with
  | error e =>
    change (if e.caught then _ else raise e : AlignmentProgram _).wp _
    split_ifs with caught
    · exact wp_mono (verifierFailed_ends keeps caught counts.total) fun l result h =>
        ⟨.of_last within rfl h.1 h.2.1, h.2.2⟩
    · exact ⟨.of_last within rfl rfl rfl, .of_raised rfl⟩
  | ok verdict =>
    change (if _ then _ else _ : AlignmentProgram _).wp _
    have hfallback : ∀ fallback, (replaceCandidate encoding recallState candidate (some verdict)
        fallback).wp (fun l result =>
          Budgets limits counts (⟨.verdictFor candidate counts.total, .ok verdict⟩ :: l) ∧
          Ends encoding recallState
            (⟨.verdictFor candidate counts.total, .ok verdict⟩ :: l) result) :=
      fun fallback => wp_mono (replaceCandidate_ends candidate (some verdict) fallback)
        fun l result h => ⟨.of_last within rfl h.1 h.2.1, h.2.2.prepend [_]⟩
    split_ifs with hsafe hlimit
    · obtain ⟨aligned, safe⟩ := Bool.and_eq_true_iff.mp hsafe
      exact ⟨.of_last within rfl rfl rfl, .of_returned [] keeps (.approved aligned safe)⟩
    · exact hfallback .returnUnable
    · cases hselect : selectRemediation limits counts verdict.remediation with
      | inr fallback => exact hfallback fallback
      | inl action =>
        have below := selectRemediation_inl hselect
        obtain ⟨hle, _⟩ := limits.of_le action
        have hof := counts.of_add action action
        rw [if_pos rfl] at hof
        have within' := within.add (not_le.mp hlimit) below
        have hlast : ∀ {l result}, RunsOnce action l → Ends encoding recallState l result →
            Budgets limits counts (⟨.verdictFor candidate counts.total, .ok verdict⟩ :: l) ∧
            Ends encoding recallState
              (⟨.verdictFor candidate counts.total, .ok verdict⟩ :: l) result :=
          fun {l result} once ends => by
            have hbudgets := Budgets.of_action (x := ⟨.verdictFor candidate counts.total,
              .ok verdict⟩) rfl once within'.budgets
            rw [List.append_nil] at hbudgets
            exact ⟨hbudgets, ends.prepend [_]⟩
        refine wp_seq (runAction_ends (by omega) (by omega))
          (fun l e h => hlast h.once (h.raised e rfl)) fun l next h => ?_
        cases next with
        | inl returned =>
          rw [wp_pure, List.append_nil]
          exact hlast h.once (h.returned returned rfl)
        | inr next =>
          obtain ⟨l', x, rfl, mended⟩ := h.mended next rfl
          refine wp_ofExcept_bind (fun _ same => ?_) fun e he => ?_
          · have hkeeps := requireSameRecallState_ok same
            by_cases hvalid : next.replyValidation.valid = true
            · have hless : (limits.maxTotal - (counts.add action).total).toNat < n := by
                rw [counts.total_add]
                omega
              rw [if_pos hvalid]
              refine wp_mono (ih _ hless within' hkeeps rfl) fun rest result hrest => ?_
              exact ⟨.of_action rfl h.once hrest.1, hrest.2.prepend (_ :: (l' ++ [x]))⟩
            · rw [if_neg hvalid, wp_pure, List.append_nil]
              exact hlast h.once
                (.of_returned l' hkeeps (.invalid mended (Bool.eq_false_iff.mpr hvalid)))
          · rw [List.append_nil]
            exact hlast h.once (.of_harmless (harmless_requireSameRecallState ..) he)

/-! ## The property -/

/-- A turn refuses to commit a candidate that is not valid. -/
theorem commitCandidate_invalid {candidate : V2AttemptResult}
    (invalid : candidate.replyValidation.valid = false) (request : TurnRequest)
    (reservation : NewReplyReservationV1) (snapshot : TurnAdmissionSnapshotV1)
    (policy : PolicyIdentity) :
    commitCandidate request reservation snapshot policy candidate = raise (.replyContract
      ("rendered reply failed validation: " ++
        replyValidationErrorSummary candidate.replyValidation)) := by
  simp [commitCandidate, invalid]

/-- Whatever the remediator answers, `ensure_aligned_v2_response` asks for at most
`max_total + 1` verdicts, runs every action within its own limit and all of them within
`max_total`, and raises no out-of-range error of its own. A candidate that it returns has the
recall state it started with and is approved, a replacement, an unchanged refusal after a
verifier failure, or not valid, and then a turn does not commit it. -/
theorem alignment_bounded {candidate : V2AttemptResult} {l : List AlignmentExchange}
    {result : Except AlignmentException V2AttemptResult}
    (trace : Trace (ensureAlignedV2Response encoding limits candidate) l result) :
    verdictCount l ≤ limits.maxTotal + 1 ∧
    (∀ action, actionCount action l ≤ limits.of action) ∧
    actionTotal l ≤ limits.maxTotal ∧
    (∀ e, OutOfRange e → result = .error e → ∃ x ∈ l, x.2 = .error e) ∧
    ∀ recallState, candidate.recallState = some recallState → ∀ returned, result = .ok returned →
      KeepsRecall recallState returned ∧ (∃ l' x, l = l' ++ [x] ∧ MayReturn encoding returned x) ∧
      (returned.replyValidation.valid = false → ∀ request reservation snapshot policy,
        commitCandidate request reservation snapshot policy returned = raise (.replyContract
          ("rendered reply failed validation: " ++
            replyValidationErrorSummary returned.replyValidation))) := by
  have hstart := Within.start limits
  unfold ensureAlignedV2Response at trace
  cases hrecall : candidate.recallState with
  | none =>
    rw [hrecall] at trace
    have hdone : l = [] ∧ result = .ok candidate :=
      Trace.wp (Q := fun l result => l = [] ∧ result = .ok candidate) trace ⟨rfl, rfl⟩
    obtain ⟨rfl, rfl⟩ := hdone
    have hbudgets := hstart.budgets
    refine ⟨by simpa using hbudgets.verdicts, fun action => ?_, by simpa using hbudgets.total,
      ?_, ?_⟩
    · exact (Int.le_add_of_nonneg_right (Int.natCast_nonneg _)).trans (hbudgets.actions action)
    · intro e _ herror
      cases herror
    · intro recallState hrecall'
      cases hrecall'
  | some recallState =>
    rw [hrecall] at trace
    obtain ⟨budgets, ends⟩ := trace.wp (alignmentLoop_ends hstart ⟨recallState, hrecall, rfl⟩)
    refine ⟨by simpa using budgets.verdicts, fun action => ?_, by simpa using budgets.total,
      ends.raised, ?_⟩
    · exact (Int.le_add_of_nonneg_right (Int.natCast_nonneg _)).trans (budgets.actions action)
    · rintro _ ⟨⟩ returned hreturned
      obtain ⟨hkeeps, hlast⟩ := ends.returned returned hreturned
      exact ⟨hkeeps, hlast, fun invalid => commitCandidate_invalid invalid⟩

def sampleLimits : AlignmentRemediationLimitsV1 where
  maxReplans := 2
  maxRefetches := 2
  maxRecomposes := 2
  maxTotal := 2
  inRange := by simp
  covered := by simp

def samplePlan : ExecutionPlanV2 where
  executionPlanId := "epl1:"
  origin := .planner
  userNeed := "greeting"
  responseMode := .smalltalk
  complianceReasonCode := "compliant"
  units := []
  selectedManifestRefs := []
  adapterResolves := []
  actionIntents := []
  hasPlanSpec := true

def sampleRecallState : Object RecallTurnStateV1 := ⟨0, ⟨⟨1, ⟨"trace"⟩⟩⟩⟩

def sampleAttempt (text : String) : V2AttemptResult where
  plan := ⟨2, samplePlan⟩
  evidence := ⟨3, ⟨[], [], [], []⟩⟩
  response := ⟨"", ⟨.answer, text, []⟩, []⟩
  replyValidation := ⟨true, []⟩
  reasonCode := "smalltalk_composer"
  recallState := some sampleRecallState

def sampleRejection : ReplyAlignmentVerdict :=
  ⟨false, false, "composer_drift", "", .recompose, none, none, some "shorter"⟩

def sampleApproval : ReplyAlignmentVerdict := ⟨true, true, "none", "", .none, none, none, none⟩

def sampleEncoding : PlanEncoding := ⟨fun plan => plan.executionPlanId, fun _ => []⟩

/-- A verdict asks for one recomposition, and the next one approves of it. -/
def sampleExchanges : List AlignmentExchange :=
  [⟨.verdictFor (sampleAttempt "hello there") 0, .ok sampleRejection⟩,
    ⟨.recompose (sampleAttempt "hello there") sampleRejection 1, .ok (sampleAttempt "hello")⟩,
    ⟨.verdictFor (sampleAttempt "hello") 1, .ok sampleApproval⟩]

theorem sampleExchanges_trace : Trace
    (ensureAlignedV2Response sampleEncoding sampleLimits (sampleAttempt "hello there"))
    sampleExchanges (.ok (sampleAttempt "hello")) := by
  have hlast : Trace (alignmentLoop sampleEncoding sampleLimits sampleRecallState
      (sampleAttempt "hello") ⟨0, 0, 1, 1⟩) [⟨.verdictFor (sampleAttempt "hello") 1,
        .ok sampleApproval⟩] (.ok (sampleAttempt "hello")) := by
    rw [alignmentLoop]
    exact .call (.done _)
  change Trace (alignmentLoop _ _ sampleRecallState _ _) _ _
  rw [alignmentLoop]
  exact .call (.call hlast)

theorem alignment_bounded_sample : verdictCount sampleExchanges ≤ sampleLimits.maxTotal + 1 ∧
    actionTotal sampleExchanges ≤ sampleLimits.maxTotal ∧
    KeepsRecall sampleRecallState (sampleAttempt "hello") := by
  obtain ⟨verdicts, _, total, _, returned⟩ := alignment_bounded sampleExchanges_trace
  exact ⟨verdicts, total, (returned sampleRecallState rfl _ rfl).1⟩

end MarketSupport
