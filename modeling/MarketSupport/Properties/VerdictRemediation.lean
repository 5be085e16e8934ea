import MarketSupport.Evidence.Collected
import MarketSupport.Properties.AlignmentBounds
import MarketSupport.Validation.AlignmentRuntime

/-!
# Verdicts and the production remediator

Every verdict that the schema accepts leads to a remediation. The loop handles what the
production remediator answers exactly when the remediation applies to the candidate: a
recomposition needs a composed candidate and feedback for the composer, a refetch exactly one
unit, and what is collected for a replan or a refetch must ground the plan and leave it.

## Main results

* `remediate_served` — when the loop can go on from an answer of the remediator.
* `alignment_returns_iff` — when a run of the loop returns a candidate.
-/

namespace MarketSupport

open Library Program RuntimeAlignmentRemediatorV1

variable (runtime : CandidateRuntime) (recallState : Object RecallTurnStateV1)

/-! ## Calls and their answers -/

/-- The candidate of a call. -/
def AlignmentCall.candidate : AlignmentCall → V2AttemptResult
  | .verdictFor candidate _ | .replan candidate _ _ | .refetch candidate _ _
  | .recompose candidate _ _ | .replace candidate _ _ => candidate

/-- A candidate that the loop can have: with the recall state of the turn, and a plan that its
constructor and the policy accepted. -/
structure Live (candidate : V2AttemptResult) : Prop where
  turnState : candidate.recallState = some recallState
  checked : candidate.plan.value.Checked runtime.encoding
  valid : validateExecutionPlanV2 candidate.plan.value runtime.policy = []
  origin : candidate.plan.value.origin ≠ .remediation

/-- The loop makes the call: for the remediation of a verdict, with an attempt in range. -/
def Asked : AlignmentCall → Prop
  | .verdictFor candidate _ | .replace candidate _ _ => Live runtime recallState candidate
  | .replan candidate verdict attempt => Live runtime recallState candidate ∧
      verdict.SchemaValid ∧ verdict.remediation = .replan ∧ attempt ∈ [1, 2]
  | .refetch candidate verdict attempt => Live runtime recallState candidate ∧
      verdict.SchemaValid ∧ verdict.remediation ∈ [.refetchDocumentContext, .refetchReportScope] ∧
      attempt ∈ [1, 2]
  | .recompose candidate verdict attempt => Live runtime recallState candidate ∧
      verdict.SchemaValid ∧ verdict.remediation = .recompose ∧ attempt ∈ [1, 2]

/-- The loop can go on from the answer: it is caught, or passes its postcondition. -/
def Handled : AlignmentExchange → Prop
  | ⟨.verdictFor .., .ok _⟩ => True
  | ⟨.replan candidate _ _, .ok next⟩ =>
      requireReplanAuthority runtime.encoding candidate next = .ok ()
  | ⟨.refetch candidate verdict _, .ok outcome⟩ =>
    requireRefetchAuthority runtime.encoding candidate outcome verdict = .ok ()
  | ⟨.recompose candidate _ _, .ok next⟩ => requireRecomposeResponseOnly candidate next = .ok ()
  | ⟨.replace candidate _ remediation, .ok next⟩ =>
    requireReplacementAuthority runtime.encoding candidate next remediation = .ok ()
  | ⟨.verdictFor .., .error e⟩ | ⟨.replan .., .error e⟩ => e.caught = true
  | ⟨.refetch .., .error _⟩ | ⟨.recompose .., .error _⟩ | ⟨.replace .., .error _⟩ => False

/-- What holds of every answer of the production remediator: verdicts are schema-valid,
replacements pass, and a candidate that passes its postcondition is one the loop can have. -/
def Respects : AlignmentExchange → Prop
  | ⟨.verdictFor .., answer⟩ =>
    ∃ verdict : ReplyAlignmentVerdict, answer = Except.ok verdict ∧ verdict.SchemaValid
  | ⟨.replan candidate _ _, answer⟩ => ∀ next : V2AttemptResult, answer = Except.ok next →
    requireReplanAuthority runtime.encoding candidate next = .ok () → Live runtime recallState next
  | ⟨.refetch candidate verdict _, answer⟩ =>
    ∀ outcome : AlignmentRefetchOutcomeV1, answer = Except.ok outcome →
      requireRefetchAuthority runtime.encoding candidate outcome verdict = .ok () →
      Live runtime recallState outcome.candidate
  | ⟨.recompose candidate _ _, answer⟩ => ∀ next : V2AttemptResult, answer = Except.ok next →
    requireRecomposeResponseOnly candidate next = .ok () → Live runtime recallState next
  | ⟨.replace candidate _ remediation, answer⟩ => ∃ next : V2AttemptResult,
    answer = Except.ok next ∧ next.recallState = some recallState ∧
      requireReplacementAuthority runtime.encoding candidate next remediation = .ok ()

/-! ## The loop -/

variable {runtime recallState} {limits : AlignmentRemediationLimitsV1}

/-- A part of the loop ends well exactly when all answers can be handled. `ended` says that
the part ended well. -/
structure EndsWhenHandled (runtime : CandidateRuntime) (recallState : Object RecallTurnStateV1)
    (l : List AlignmentExchange) (ended : Prop) : Prop where
  asked : ∀ x ∈ l, Asked runtime recallState x.1
  iff : ended ↔ ∀ x ∈ l, Handled runtime x

/-- The exchanges are with the production remediator. -/
def AllRespect (runtime : CandidateRuntime) (recallState : Object RecallTurnStateV1)
    (l : List AlignmentExchange) : Prop :=
  ∀ x ∈ l, Asked runtime recallState x.1 → Respects runtime recallState x

/-- One exchange that the loop asks for. -/
theorem EndsWhenHandled.single {x : AlignmentExchange} {ended : Prop}
    (asked : Asked runtime recallState x.1) (h : ended ↔ Handled runtime x) :
    EndsWhenHandled runtime recallState [x] ended where
  asked _ hx := List.mem_singleton.mp hx ▸ asked
  iff := h.trans (List.forall_mem_singleton).symm

theorem EndsWhenHandled.append {l l' : List AlignmentExchange} {ended : Prop}
    (first : EndsWhenHandled runtime recallState l True)
    (rest : EndsWhenHandled runtime recallState l' ended) :
    EndsWhenHandled runtime recallState (l ++ l') ended where
  asked x hx := (List.mem_append.mp hx).elim (first.asked x) (rest.asked x)
  iff := by
    have hfirst := first.iff.mp trivial
    rw [rest.iff, List.forall_mem_append]
    exact ⟨fun h => ⟨hfirst, h⟩, fun h => h.2⟩

/-- The loop, or the rest of it, returns a candidate exactly when all answers can be handled. -/
def LoopHandled (runtime : CandidateRuntime) (recallState : Object RecallTurnStateV1)
    (l : List AlignmentExchange) (result : Except AlignmentException V2AttemptResult) : Prop :=
  AllRespect runtime recallState l →
    EndsWhenHandled runtime recallState l (∃ returned, result = .ok returned)

theorem LoopHandled.returned (returned : V2AttemptResult) :
    LoopHandled runtime recallState [] (.ok returned) := fun _ =>
  ⟨List.forall_mem_nil _, iff_of_true ⟨returned, rfl⟩ (List.forall_mem_nil _)⟩

theorem LoopHandled.append {l l' : List AlignmentExchange}
    {result : Except AlignmentException V2AttemptResult}
    (rest : LoopHandled runtime recallState l' result)
    (first : AllRespect runtime recallState l → EndsWhenHandled runtime recallState l True) :
    LoopHandled runtime recallState (l ++ l') result := fun hrespect =>
  (first fun x hx => hrespect x (List.mem_append_left _ hx)).append
    (rest fun x hx => hrespect x (List.mem_append_right _ hx))

/-- A replacement is always handled. -/
theorem replaceCandidate_handled {candidate : V2AttemptResult}
    (live : Live runtime recallState candidate) (verdict : Option ReplyAlignmentVerdict)
    (remediation : AlignmentFallbackV1) :
    (replaceCandidate runtime.encoding recallState candidate verdict remediation).wp
      (fun l result => AllRespect runtime recallState l → (∃ returned, result = .ok returned) ∧
        EndsWhenHandled runtime recallState l True) := by
  refine wp_bind.mpr fun answer => ?_
  have hasked : Asked runtime recallState (.replace candidate verdict remediation) := live
  cases answer with
  | error e =>
    intro hrespect
    obtain ⟨next, hnext, _⟩ := hrespect _ (List.mem_singleton_self _) hasked
    cases hnext
  | ok replacement =>
    refine wp_ofExcept_bind (fun _ authority => ?_) fun e he hrespect => ?_
    · refine wp_ofExcept_bind (fun _ same hrespect => ?_) fun e he hrespect => ?_
      · exact ⟨⟨_, rfl⟩, .single hasked (iff_of_true trivial authority)⟩
      · obtain ⟨next, hnext, hrecall, _⟩ := hrespect _ (List.mem_singleton_self _) hasked
        cases hnext
        simp [requireSameRecallState, hrecall, Object.Is] at he
    · obtain ⟨next, hnext, _, hauthority⟩ := hrespect _ (List.mem_singleton_self _) hasked
      cases hnext
      rw [hauthority] at he
      cases he

theorem requireSameRecallState_of_live {candidate : V2AttemptResult}
    (live : Live runtime recallState candidate) :
    requireSameRecallState candidate recallState = .ok () := by
  simp [requireSameRecallState, live.turnState, Object.Is]

/-- The remediations that an action is for. -/
def AlignmentAction.remediations : AlignmentAction → List AlignmentRemediation
  | .replan => [.replan]
  | .refetch => [.refetchDocumentContext, .refetchReportScope]
  | .recompose => [.recompose]

theorem remediation_of_select {counts : AlignmentCounts} {remediation : AlignmentRemediation}
    {action : AlignmentAction} (h : selectRemediation limits counts remediation = .inl action) :
    remediation ∈ action.remediations := by
  cases remediation <;> simp only [selectRemediation] at h
  case none | returnUnable | returnClarification => cases h
  all_goals
    split_ifs at h
    cases h
    simp [AlignmentAction.remediations]

/-- How the case of an action ends. -/
def ActionHandled (runtime : CandidateRuntime) (recallState : Object RecallTurnStateV1)
    (l : List AlignmentExchange)
    (result : Except AlignmentException (V2AttemptResult ⊕ V2AttemptResult)) : Prop :=
  AllRespect runtime recallState l →
    EndsWhenHandled runtime recallState l (∃ next, result = .ok next) ∧
    ∀ next, result = .ok (.inr next) → Live runtime recallState next

/-- An exchange whose answer passes a postcondition. -/
theorem ActionHandled.of_ok {x : AlignmentExchange} {next : V2AttemptResult}
    (asked : Asked runtime recallState x.1) (handled : Handled runtime x)
    (live : Respects runtime recallState x → Live runtime recallState next) :
    ActionHandled runtime recallState [x] (.ok (.inr next)) := by
  intro hrespect
  refine ⟨.single asked (iff_of_true ⟨_, rfl⟩ handled), fun next' heq => ?_⟩
  cases heq
  exact live (hrespect x (List.mem_singleton_self x) asked)

/-- An exchange whose answer raises, or fails a postcondition. -/
theorem ActionHandled.of_error {x : AlignmentExchange} {e : AlignmentException}
    (asked : Asked runtime recallState x.1) (handled : ¬ Handled runtime x) :
    ActionHandled runtime recallState [x] (.error e) := fun _ =>
  ⟨.single asked (iff_of_false (fun ⟨_, h⟩ => nomatch h) handled), fun _ h => nomatch h⟩

theorem replanCandidate_handled {previous : V2AttemptResult} {verdict : ReplyAlignmentVerdict}
    {n : ℕ} (pos : 1 ≤ n) (le : n ≤ 2)
    (asked : Asked runtime recallState (.replan previous verdict n)) :
    (replanCandidate runtime.encoding recallState previous verdict n).wp
      (ActionHandled runtime recallState) := by
  unfold replanCandidate
  rw [actionAttempt_ok pos le]
  intro answer
  cases answer with
  | ok candidate =>
    refine wp_ofExcept_bind (fun _ h => ?_) fun e he => ?_
    · exact .of_ok asked h fun hrespect => hrespect candidate rfl h
    · exact .of_error asked fun h => by
        rw [show requireReplanAuthority runtime.encoding previous candidate = .ok () from h] at he
        cases he
  | error e =>
    change (if e.caught then _ else raise e : AlignmentProgram _).wp _
    split_ifs with caught
    · refine wp_seq (replaceCandidate_handled asked.1 (some verdict) .returnUnable)
        (fun l e' h hrespect => ?_) fun l replacement h => ?_
      · obtain ⟨⟨_, hreturned⟩, _⟩ := h fun x hx => hrespect x (List.mem_cons_of_mem _ hx)
        cases hreturned
      · intro hrespect
        obtain ⟨_, hends⟩ := h fun x hx => hrespect x (by simp_all)
        have hfirst : EndsWhenHandled runtime recallState
            [⟨.replan previous verdict n, .error e⟩] True :=
          .single asked (iff_of_true trivial caught)
        refine ⟨?_, fun next heq => by cases heq⟩
        have hall := hfirst.append hends
        exact ⟨by simpa using hall.asked, iff_of_true ⟨_, rfl⟩ (by simpa using hall.iff.mp trivial)⟩
    · exact .of_error asked caught

/-- The case of an action goes on with a candidate that the loop can have, or returns one,
exactly when all answers can be handled. -/
theorem runAction_handled {previous : V2AttemptResult} (live : Live runtime recallState previous)
    {verdict : ReplyAlignmentVerdict} (schema : verdict.SchemaValid) {counts : AlignmentCounts}
    {action : AlignmentAction} (select : verdict.remediation ∈ action.remediations)
    (pos : 1 ≤ counts.of action) (le : counts.of action ≤ 2) :
    (runAction runtime.encoding recallState previous verdict counts action).wp
      (ActionHandled runtime recallState) := by
  have hattempt : counts.of action ∈ [1, 2] := by
    simp only [List.mem_cons, List.not_mem_nil, or_false]
    omega
  cases action with
  | replan =>
    exact replanCandidate_handled pos le ⟨live, schema, List.mem_singleton.mp select, hattempt⟩
  | refetch =>
    have asked : Asked runtime recallState (.refetch previous verdict counts.refetches) :=
      ⟨live, schema, select, hattempt⟩
    unfold runAction
    rw [show actionAttempt counts.refetches = .ok counts.refetches from actionAttempt_ok pos le]
    intro answer
    cases answer with
    | error e => exact .of_error asked id
    | ok outcome =>
      refine wp_ofExcept_bind (fun _ h => ?_) fun e he => ?_
      · exact .of_ok asked h fun hrespect => hrespect outcome rfl h
      · exact .of_error asked fun h => by
          rw [show requireRefetchAuthority runtime.encoding previous outcome verdict =
            .ok () from h] at he
          cases he
  | recompose =>
    have asked : Asked runtime recallState (.recompose previous verdict counts.recomposes) :=
      ⟨live, schema, List.mem_singleton.mp select, hattempt⟩
    unfold runAction
    rw [show actionAttempt counts.recomposes = .ok counts.recomposes from actionAttempt_ok pos le]
    intro answer
    cases answer with
    | error e => exact .of_error asked id
    | ok candidate =>
      refine wp_ofExcept_bind (fun _ h => ?_) fun e he => ?_
      · exact .of_ok asked h fun hrespect => hrespect candidate rfl h
      · exact .of_error asked fun h => by
          rw [show requireRecomposeResponseOnly previous candidate = .ok () from h] at he
          cases he

/-- An action, and what the loop does with its end. -/
theorem wp_andThen_of_actionHandled
    {action : AlignmentProgram (V2AttemptResult ⊕ V2AttemptResult)}
    (handled : action.wp (ActionHandled runtime recallState))
    {f : V2AttemptResult ⊕ V2AttemptResult → AlignmentProgram V2AttemptResult}
    (hreturn : ∀ returned, f (.inl returned) = return returned)
    (hnext : ∀ next, Live runtime recallState next →
      (f (.inr next)).wp (LoopHandled runtime recallState)) :
    (action >>= f).wp (LoopHandled runtime recallState) := by
  refine wp_seq handled (fun l e h hrespect => ?_) fun l ended h => ?_
  · obtain ⟨hends, _⟩ := h hrespect
    exact ⟨hends.asked, (iff_of_false (by simp) (by simp)).trans hends.iff⟩
  -- what the action needs of its answers is only known with the whole run
  refine wp_iff.mpr fun rest result trace hrespect => ?_
  have hprior : AllRespect runtime recallState l := fun x hx =>
    hrespect x (List.mem_append_left _ hx)
  obtain ⟨hends, hlive⟩ := h hprior
  have hdone : EndsWhenHandled runtime recallState l True :=
    ⟨hends.asked, iff_of_true trivial (hends.iff.mp ⟨ended, rfl⟩)⟩
  have hrest : LoopHandled runtime recallState rest result := by
    cases ended with
    | inl returned =>
      rw [hreturn] at trace
      cases trace
      exact .returned returned
    | inr next => exact trace.wp (hnext next (hlive next rfl))
  exact hrest.append (fun _ => hdone) hrespect

/-- The loop returns a candidate exactly when it can handle every answer: by induction on what
is left of the total. -/
theorem alignmentLoop_handled {candidate : V2AttemptResult} {counts : AlignmentCounts}
    (within : Within limits counts) (live : Live runtime recallState candidate) :
    (alignmentLoop runtime.encoding limits recallState candidate counts).wp
      (LoopHandled runtime recallState) := by
  induction hn : (limits.maxTotal - counts.total).toNat using Nat.strong_induction_on
    generalizing candidate counts with
  | _ n ih =>
  have htotal := within.total
  have hmax := (limits.of_le .replan).2
  rw [alignmentLoop, alignmentAttempt_ok (by omega)]
  intro answer
  have asked : Asked runtime recallState (.verdictFor candidate counts.total) := live
  cases answer with
  | error e =>
    -- the production verifier does not fail
    refine wp_iff.mpr fun l result _ hrespect => ?_
    obtain ⟨verdict, hverdict, _⟩ := hrespect _ List.mem_cons_self asked
    cases hverdict
  | ok verdict =>
    change (if _ then _ else _ : AlignmentProgram _).wp _
    have hfirst : EndsWhenHandled runtime recallState
        [⟨.verdictFor candidate counts.total, .ok verdict⟩] True :=
      .single asked (iff_of_true trivial trivial)
    have hfallback : ∀ fallback, (replaceCandidate runtime.encoding recallState candidate
        (some verdict) fallback).wp (fun l result => LoopHandled runtime recallState
          (⟨.verdictFor candidate counts.total, .ok verdict⟩ :: l) result) := by
      refine fun fallback => wp_mono (replaceCandidate_handled live (some verdict) fallback)
        fun l result h => ?_
      have hrest : LoopHandled runtime recallState l result := fun hrespect => by
        obtain ⟨hreturned, hends⟩ := h hrespect
        exact ⟨hends.asked, iff_of_true hreturned (hends.iff.mp trivial)⟩
      exact hrest.append fun _ => hfirst
    split_ifs with hsafe hlimit
    · exact (LoopHandled.returned candidate).append fun _ => hfirst
    · exact hfallback .returnUnable
    · cases hselect : selectRemediation limits counts verdict.remediation with
      | inr fallback => exact hfallback fallback
      | inl action =>
        have below := selectRemediation_inl hselect
        obtain ⟨hle, _⟩ := limits.of_le action
        have hof := counts.of_add action action
        rw [if_pos rfl] at hof
        have within' := within.add (not_le.mp hlimit) below
        have hless : (limits.maxTotal - (counts.add action).total).toNat < n := by
          rw [counts.total_add]
          omega
        refine wp_iff.mpr fun l result trace hrespect => ?_
        obtain ⟨verdict', hverdict, schema⟩ := hrespect _ List.mem_cons_self asked
        cases hverdict
        have haction : (runAction runtime.encoding recallState candidate verdict
            (counts.add action) action).wp (ActionHandled runtime recallState) :=
          runAction_handled live schema (remediation_of_select hselect) (by omega) (by omega)
        have hrest : LoopHandled runtime recallState l result := by
          refine trace.wp (wp_andThen_of_actionHandled haction (fun _ => rfl) fun next hnext => ?_)
          change (ofExcept (requireSameRecallState next recallState) >>= _ :
            AlignmentProgram _).wp _
          rw [requireSameRecallState_of_live hnext]
          change (if next.replyValidation.valid then _ else _ : AlignmentProgram _).wp _
          split_ifs
          · exact ih _ hless within' hnext rfl
          · exact .returned next
        exact hrest.append (fun _ => hfirst) hrespect

/-! ## The services of the remediator -/

/-- What the sources of evidence answer for a plan when the adapter succeeds: the results of its
resolves, and what the report scope service and the knowledge gateway end with. -/
def EvidenceAnswered (runtime : CandidateRuntime) (plan : ExecutionPlanV2)
    (refetch : Option AlignmentRefetchRequestV1)
    (answer : Except EvidenceException EvidenceSources) : Prop :=
  ∃ results collected, ∃ fns : EvidenceFunctions, ∃ catalog,
    fns.toEvidenceHashes = runtime.hashes ∧
    SourcesAnswered fns catalog plan runtime.policy (planPreflight plan runtime.policy
      runtime.authority.scope fun _ => some results) refetch collected ∧
    answer = collected.map (⟨some results, ·⟩)

/-- A service answers a call of the remediator: language models and the adapter succeed, what
they return is well-formed, and a new object is not one that the candidate still has. -/
def Succeeds (runtime : CandidateRuntime) (candidate : V2AttemptResult) : RuntimeExchange → Prop
  | ⟨.verify .., answer⟩ =>
    ∃ verdict : ReplyAlignmentVerdict, answer = Except.ok verdict ∧ verdict.SchemaValid
  | ⟨.plannerRound .., answer⟩ => ∃ returned : String ⊕ Object ExecutionPlanV2,
    answer = Except.ok returned ∧ ∀ plan, returned = .inr plan →
      plan.value.Checked runtime.encoding ∧ plan.value.origin = .planner ∧
        ¬ plan.Is candidate.plan
  | ⟨.collect plan refetch, answer⟩ => EvidenceAnswered runtime plan refetch answer
  | ⟨.compose .., answer⟩ => ∃ outcome : ComposerOutcome, answer = Except.ok outcome
  | ⟨.newObject, address⟩ =>
    candidate.plan.address ≠ (address : ℕ) ∧ candidate.evidence.address ≠ (address : ℕ)
  | ⟨.uuid, _⟩ => True

/-- The snapshot of the adapter for a plan. -/
def EvidenceSources.preflight (sources : EvidenceSources) (runtime : CandidateRuntime)
    (plan : ExecutionPlanV2) : List AdapterPreflightRecord :=
  planPreflight plan runtime.policy runtime.authority.scope fun _ => sources.resolved

/-- The facts of the adapter's resolves can be built, and ground the plan together with those of
the other sources. -/
def EvidenceSources.Groundable (sources : EvidenceSources) (runtime : CandidateRuntime)
    (plan : ExecutionPlanV2) : Prop :=
  ∃ facts bindings groundings, canonicalAdapterFactsV1 runtime.hashes plan
      (sources.preflight runtime plan) = .ok (facts, bindings) ∧
    groundExecutionPlanV2 plan runtime.policy (facts ++ sources.collected) bindings none =
      .ok groundings

/-- What is collected for a plan is of use: the other sources build their facts, the plan can be
grounded, and the material pack resolution leaves it. -/
def UsableFor (runtime : CandidateRuntime) (plan : ExecutionPlanV2)
    (answer : Except EvidenceException EvidenceSources) : Prop :=
  ∃ sources, answer = .ok sources ∧ sources.Groundable runtime plan ∧
    materialPackResolution plan ((sources.preflight runtime plan).map (·.item)) = none

/-- The evidence of every plan that was executed is of use. -/
def EvidenceUsable (runtime : CandidateRuntime) (l : List RuntimeExchange) : Prop :=
  ∀ plan refetch, ∀ answer : Except EvidenceException EvidenceSources,
    ⟨.collect plan refetch, answer⟩ ∈ l → UsableFor runtime plan answer

/-- A plan was executed on evidence that is of no use. -/
def ExecutedInVain (runtime : CandidateRuntime) (plan : ExecutionPlanV2)
    (l : List RuntimeExchange) : Prop :=
  ∃ refetch, ∃ answer : Except EvidenceException EvidenceSources,
    ⟨.collect plan refetch, answer⟩ ∈ l ∧ ¬ UsableFor runtime plan answer

theorem ExecutedInVain.not_usable {plan : ExecutionPlanV2} {l : List RuntimeExchange}
    (h : ExecutedInVain runtime plan l) : ¬ EvidenceUsable runtime l := fun husable => by
  obtain ⟨refetch, answer, hmem, hnot⟩ := h
  exact hnot (husable plan refetch answer hmem)

/-- No plan is executed. -/
def NothingExecuted (l : List RuntimeExchange) : Prop :=
  ∀ y ∈ l, ∀ plan refetch, y.1 ≠ .collect plan refetch

theorem NothingExecuted.usable {l : List RuntimeExchange} (h : NothingExecuted l) :
    EvidenceUsable runtime l := fun plan refetch _ hmem => absurd rfl (h _ hmem plan refetch)

theorem nothingExecuted_nil : NothingExecuted [] := fun _ h => nomatch h

theorem NothingExecuted.newObject {l : List RuntimeExchange} (h : NothingExecuted l)
    (address : ℕ) : NothingExecuted (⟨.newObject, address⟩ :: l) :=
  List.forall_mem_cons.mpr ⟨fun _ _ heq => (by cases heq), h⟩

theorem evidenceUsable_cons {y : RuntimeExchange} {l : List RuntimeExchange}
    (h : ∀ plan refetch, y.1 ≠ .collect plan refetch) :
    EvidenceUsable runtime (y :: l) ↔ EvidenceUsable runtime l := by
  constructor
  · exact fun hall plan refetch answer hmem =>
      hall plan refetch answer (List.mem_cons_of_mem _ hmem)
  · intro hrest plan refetch answer hmem
    rcases List.mem_cons.mp hmem with rfl | hmem
    · exact absurd rfl (h plan refetch)
    · exact hrest plan refetch answer hmem

theorem evidenceUsable_plannerRound {overlay : Option PlannerRetryOverlayV1}
    {answer : Except AlignmentException (String ⊕ Object ExecutionPlanV2)}
    {l : List RuntimeExchange} :
    EvidenceUsable runtime (⟨.plannerRound overlay, answer⟩ :: l) ↔ EvidenceUsable runtime l :=
  evidenceUsable_cons fun _ _ heq => (by cases heq)

/-- One executed plan, and then nothing that is executed. -/
theorem evidenceUsable_collect {plan : ExecutionPlanV2}
    {refetch : Option AlignmentRefetchRequestV1}
    {answer : Except EvidenceException EvidenceSources} {l : List RuntimeExchange}
    (h : NothingExecuted l) : EvidenceUsable runtime (⟨.collect plan refetch, answer⟩ :: l) ↔
      UsableFor runtime plan answer := by
  constructor
  · exact fun hall => hall plan refetch answer List.mem_cons_self
  · intro husable plan' refetch' answer' hmem
    rcases List.mem_cons.mp hmem with heq | hmem
    · cases heq
      exact husable
    · exact absurd rfl (h _ hmem plan' refetch')

variable {candidate : V2AttemptResult}

/-! ## Rendering -/

/-- Rendering returns when the services succeed, and executes nothing. -/
theorem renderV2Response_succeeds {plan : ExecutionPlanV2}
    {evidence : CanonicalEvidenceExecutionResultV1} {overlay : Option ComposerRetryOverlayV1}
    (hunits : plan.responseMode = .action → evidence.groundings.length = plan.units.length) :
    (renderV2Response runtime plan evidence overlay).wp (fun l result =>
      (∀ y ∈ l, Succeeds runtime candidate y) →
        NothingExecuted l ∧ ∃ rendered, result = .ok rendered) := by
  have hnil : NothingExecuted [] := fun _ h => nomatch h
  have hcompose : plan.responseMode = .knowledgeAnswer ∨ plan.responseMode = .smalltalk →
      (composeV2Response plan evidence overlay).wp (fun l result =>
        (∀ y ∈ l, Succeeds runtime candidate y) →
          NothingExecuted l ∧ ∃ rendered, result = .ok rendered) := by
    intro hmode
    unfold composeV2Response
    split
    · exact fun _ => ⟨hnil, _, rfl⟩
    · intro answer
      have hone : NothingExecuted [⟨.compose plan evidence overlay, answer⟩] := by
        intro y hy plan' request
        cases List.mem_singleton.mp hy
        nofun
      cases answer with
      | error e =>
        intro h
        obtain ⟨outcome, houtcome⟩ := h _ (List.mem_singleton_self _)
        cases houtcome
      | ok outcome =>
        cases outcome with
        | unavailable | outputRejected => exact fun _ => ⟨hone, _, rfl⟩
        | output response =>
          change (if _ then _ else _ : RuntimeProgram _).wp _
          split_ifs with hknowledge hsmalltalk
          · exact fun _ => ⟨hone, _, rfl⟩
          · exact fun _ => ⟨hone, _, rfl⟩
          · exact absurd hmode (by simp [hknowledge, hsmalltalk])
  unfold renderV2Response
  split
  case h_5 hmode =>
    refine fun _ => ⟨hnil, ?_⟩
    unfold actionReply
    rw [if_neg (not_not.mpr (hunits hmode).symm)]
    dsimp only
    split_ifs <;> exact ⟨_, rfl⟩
  case h_6 hmode => exact hcompose (.inl hmode)
  case h_7 hmode => exact hcompose (.inr hmode)
  case h_8 =>
    dsimp only
    split_ifs
    · split <;> exact fun _ => ⟨hnil, _, rfl⟩
    · exact fun _ => ⟨hnil, _, rfl⟩
  all_goals exact fun _ => ⟨hnil, _, rfl⟩

/-! ## Candidates -/

/-- How building a candidate from a plan ends: the policy refuses the plan, the candidate has
the plan and new evidence, or the evidence is of no use, and a material pack resolution takes the
place of the plan unless something raises. -/
inductive BuildEnds (runtime : CandidateRuntime) (candidate : V2AttemptResult)
    (plan : Object ExecutionPlanV2) (turnState : Option (Object RecallTurnStateV1)) :
    List RuntimeExchange → Except AlignmentException V2AttemptResult → Prop
  | invalid (invalid : validateExecutionPlanV2 plan.value runtime.policy ≠ []) :
      BuildEnds runtime candidate plan turnState []
        (.error (.agentRuntimeError "execution_plan_v2_invalid"))
  | built {l : List RuntimeExchange} {next : V2AttemptResult}
      (valid : validateExecutionPlanV2 plan.value runtime.policy = [])
      (usable : EvidenceUsable runtime l) (samePlan : next.plan = plan)
      (fresh : ¬ candidate.evidence.Is next.evidence) (sameRecall : next.recallState = turnState) :
      BuildEnds runtime candidate plan turnState l (.ok next)
  | resolved {l : List RuntimeExchange} {next : V2AttemptResult}
      (vain : ExecutedInVain runtime plan.value l)
      (origin : next.plan.value.origin = .deterministic) (fresh : ¬ candidate.plan.Is next.plan) :
      BuildEnds runtime candidate plan turnState l (.ok next)
  | failed {l : List RuntimeExchange} {name : String}
      (vain : ExecutedInVain runtime plan.value l) :
      BuildEnds runtime candidate plan turnState l (.error (.otherError name))

theorem candidateOf_wp {plan : Object ExecutionPlanV2}
    {evidence : Object CanonicalEvidenceExecutionResultV1}
    {turnState : Option (Object RecallTurnStateV1)} {rendered : ReplyResponse × String} :
    (candidateOf runtime plan evidence turnState rendered).wp (fun l result => NothingExecuted l ∧
      ∃ next, result = .ok next ∧ next.plan = plan ∧ next.evidence = evidence ∧
        next.recallState = turnState) := by
  intro uuid
  refine ⟨fun y hy plan' request => ?_, _, rfl, rfl, rfl, rfl⟩
  cases List.mem_singleton.mp hy
  nofun

/-- Rendering and the candidate of it. -/
theorem rendered_wp {plan : Object ExecutionPlanV2}
    {evidence : Object CanonicalEvidenceExecutionResultV1}
    {turnState : Option (Object RecallTurnStateV1)} {overlay : Option ComposerRetryOverlayV1}
    (hunits : plan.value.responseMode = .action →
      evidence.value.groundings.length = plan.value.units.length) :
    (renderV2Response runtime plan.value evidence.value overlay >>=
      candidateOf runtime plan evidence turnState).wp (fun l result =>
        (∀ y ∈ l, Succeeds runtime candidate y) → NothingExecuted l ∧
          ∃ next, result = .ok next ∧ next.plan = plan ∧ next.evidence = evidence ∧
            next.recallState = turnState) := by
  have hrendered : (renderV2Response runtime plan.value evidence.value overlay).wp
      (fun l result => (∀ y ∈ l, Succeeds runtime candidate y) →
        NothingExecuted l ∧ ∃ rendered, result = .ok rendered) := renderV2Response_succeeds hunits
  refine wp_seq hrendered (fun l e h hs => ?_)
    fun l rendered h => wp_mono candidateOf_wp fun l' result h' hs => ?_
  · obtain ⟨_, _, hok⟩ := h hs
    cases hok
  · obtain ⟨hexecuted, _⟩ := h fun y hy => hs y (List.mem_append_left _ hy)
    refine ⟨fun y hy => ?_, h'.2⟩
    rcases List.mem_append.mp hy with hy | hy
    · exact hexecuted y hy
    · exact h'.1 y hy

theorem rendered_trace {plan : Object ExecutionPlanV2}
    {evidence : Object CanonicalEvidenceExecutionResultV1}
    {turnState : Option (Object RecallTurnStateV1)} {overlay : Option ComposerRetryOverlayV1}
    {l : List RuntimeExchange} {result : Except AlignmentException V2AttemptResult}
    (trace : Trace (renderV2Response runtime plan.value evidence.value overlay >>=
      candidateOf runtime plan evidence turnState) l result)
    (hunits : plan.value.responseMode = .action →
      evidence.value.groundings.length = plan.value.units.length)
    (hs : ∀ y ∈ l, Succeeds runtime candidate y) : NothingExecuted l ∧
      ∃ next, result = .ok next ∧ next.plan = plan ∧ next.evidence = evidence ∧
        next.recallState = turnState :=
  Trace.wp trace (rendered_wp hunits) hs

/-- The mode of a material pack resolution. -/
theorem materialPackResolution_mode {plan : ExecutionPlanV2} {preflight : List AdapterPreflightItem}
    {unit : DeterministicPlanUnitV1} (h : materialPackResolution plan preflight = some unit) :
    responseModeForAnswerabilityPolicies [unit.answerabilityPolicy] ≠ .action := by
  unfold materialPackResolution at h
  split at h
  · cases h
  split at h
  case h_1 | h_2 => cases h
  case h_3 =>
    cases h
    decide
  case h_4 =>
    split at h <;> cases h <;> decide

/-- A plan that the compiler returns. -/
theorem finalizeExecutionPlanV2_spec {policy : PolicyManifestV2}
    {authority : BusinessScopeAuthorityV1} {encoding : PlanEncoding}
    {source : PlanSourceV1} {origin : ExecutionPlanOriginV1} {plan : ExecutionPlanV2}
    (h : finalizeExecutionPlanV2 policy authority encoding source origin = .ok plan) :
    plan.origin = origin ∧ plan.responseMode =
      responseModeForAnswerabilityPolicies source.answerabilityPolicies := by
  obtain ⟨_, units, _, rfl, _⟩ := finalizeExecutionPlanV2_eq_ok.mp h
  exact ⟨rfl, rfl⟩

/-- Building a candidate from evidence, after the exchanges that collected it. -/
theorem resolved_ends {plan : Object ExecutionPlanV2}
    (valid : validateExecutionPlanV2 plan.value runtime.policy = [])
    {turnState : Option (Object RecallTurnStateV1)} {refetch : Option AlignmentRefetchRequestV1}
    {sources : EvidenceSources} {evidence : CanonicalEvidenceExecutionResultV1} {address : ℕ}
    (grounded : sources.Groundable runtime plan.value)
    (hpreflight : evidence.preflight = (sources.preflight runtime plan.value).map (·.item))
    (hlength : evidence.groundings.length = plan.value.units.length) :
    (resolveMaterialPack runtime plan ⟨address, evidence⟩ >>= fun resolved =>
      renderV2Response runtime resolved.1.value resolved.2.value none >>=
        candidateOf runtime resolved.1 resolved.2 turnState).wp (fun l result =>
      (∀ y ∈ (⟨.collect plan.value refetch, .ok sources⟩ :: ⟨.newObject, address⟩ :: l :
        List RuntimeExchange), Succeeds runtime candidate y) →
      BuildEnds runtime candidate plan turnState
        (⟨.collect plan.value refetch, .ok sources⟩ :: ⟨.newObject, address⟩ :: l) result) := by
  cases hresolution : materialPackResolution plan.value evidence.preflight with
  | none =>
    simp only [resolveMaterialPack, hresolution]
    refine wp_iff.mpr fun l result trace hs => ?_
    obtain ⟨hexecuted, next, rfl, hplan, hevidence, hrecall⟩ := rendered_trace trace
      (fun _ => hlength) fun y hy => hs y (by simp_all)
    have hfresh : candidate.evidence.address ≠ address := (hs ⟨.newObject, address⟩ (by simp)).2
    refine .built valid ((evidenceUsable_collect (hexecuted.newObject address)).mpr
      ⟨sources, rfl, grounded, hpreflight ▸ hresolution⟩) hplan ?_ hrecall
    rw [hevidence]
    exact hfresh
  | some unit =>
    have hvain : ∀ l, ExecutedInVain runtime plan.value
        (⟨.collect plan.value refetch, .ok sources⟩ :: l) := by
      refine fun l => ⟨refetch, _, List.mem_cons_self, fun ⟨_, heq, _, hnone⟩ => ?_⟩
      cases heq
      rw [← hpreflight, hresolution] at hnone
      cases hnone
    simp only [resolveMaterialPack, hresolution]
    cases hplan : finalizeExecutionPlanV2 runtime.policy runtime.authority runtime.encoding
        (.deterministic ⟨plan.value.userNeed, [unit], plan.value.complianceReasonCode⟩)
        .deterministic with
    | error e => exact fun _ => .failed (hvain _)
    | ok resolution =>
      obtain ⟨horigin, hmode⟩ := finalizeExecutionPlanV2_spec hplan
      intro address'
      cases hground : groundExecutionPlanV2 resolution runtime.policy
          evidence.canonicalFacts evidence.resolveBindings none with
      | error e => exact fun _ => .failed (hvain _)
      | ok groundings =>
        intro address''
        refine wp_iff.mpr fun l result trace hs => ?_
        obtain ⟨_, next, rfl, hnext, _⟩ := rendered_trace trace
          (fun haction => absurd (hmode.symm.trans haction)
            (materialPackResolution_mode hresolution)) fun y hy => hs y (by simp_all)
        refine .resolved (hvain _) ?_ ?_
        · rw [hnext]
          exact horigin
        · rw [hnext]
          exact (hs ⟨.newObject, address'⟩ (by simp)).1

/-- Building a candidate when the services succeed. -/
theorem buildCandidateFromPlanV2_ends
    (hhash : runtime.policy.businessScopeHash = runtime.authority.businessScopeHash)
    {plan : Object ExecutionPlanV2} {turnState : Option (Object RecallTurnStateV1)}
    {refetch : Option AlignmentRefetchRequestV1}
    (hrefetch : validateRefetch plan.value refetch = .ok ()) :
    (buildCandidateFromPlanV2 runtime plan turnState refetch).wp (fun l result =>
      (∀ y ∈ l, Succeeds runtime candidate y) →
        BuildEnds runtime candidate plan turnState l result) := by
  unfold buildCandidateFromPlanV2
  split_ifs with hvalid
  · exact fun _ => .invalid hvalid
  rw [not_not] at hvalid
  rw [hrefetch]
  intro answer
  cases answer with
  | error e =>
    refine fun _ => .failed ⟨refetch, _, List.mem_cons_self, fun ⟨_, heq, _⟩ => ?_⟩
    cases heq
  | ok sources =>
    have hexecuted : (∃ evidence, executeV2 plan.value runtime.policy runtime.hashes
        runtime.authority.scope runtime.authority (fun _ => sources.resolved) sources.collected =
          .ok evidence) ↔ _ := exists_executeV2_iff rfl hhash
    change ((ofEvidence (executeV2 plan.value runtime.policy runtime.hashes
      runtime.authority.scope runtime.authority (fun _ => sources.resolved)
      sources.collected) >>= newObject) >>= _).wp _
    cases hexecute : executeV2 plan.value runtime.policy runtime.hashes runtime.authority.scope
        runtime.authority (fun _ => sources.resolved) sources.collected with
    | error e =>
      refine fun _ => .failed ⟨refetch, _, List.mem_cons_self, fun ⟨_, heq, hgrounded, _⟩ => ?_⟩
      cases heq
      obtain ⟨_, hok⟩ := hexecuted.mpr hgrounded
      rw [hexecute] at hok
      cases hok
    | ok evidence =>
      obtain ⟨hpreflight, hlength⟩ := executeV2_spec hexecute
      intro address
      exact resolved_ends hvalid (hexecuted.mp ⟨evidence, hexecute⟩) hpreflight hlength

/-! ## The calls of the remediator -/

/-- What the policy compiler always grants: the scope of the request, and the general capabilities
of a replacement and their modes. -/
structure CandidateRuntime.Compiled (runtime : CandidateRuntime) : Prop where
  faithful : runtime.encoding.Faithful
  scopeHash : runtime.policy.businessScopeHash = runtime.authority.businessScopeHash
  capability : ∀ remediation : AlignmentFallbackV1, ∃ ref ∈ runtime.policy.eligibleCapabilities,
    ref.manifestId = remediation.manifestId
  mode : ∀ remediation : AlignmentFallbackV1, remediation.mode ∈ runtime.policy.allowedReplyModes

/-- The remediation applies to its candidate: there is feedback that an overlay accepts, a
composed reply to compose again, or one unit to fetch for, and the evidence that is collected for
the plan is of use. -/
def Applicable (runtime : CandidateRuntime) : AlignmentCall → List RuntimeExchange → Prop
  | .replan _ verdict _, l => hasControlCharacter (plannerFeedback verdict) = false ∧
      EvidenceUsable runtime l
  | .refetch candidate verdict _, l => (∃ unit, candidate.plan.value.units.filter
      (unitSupportsRefetch ·.manifestRef verdict.remediation) = [unit]) ∧ EvidenceUsable runtime l
  | .recompose candidate verdict _, _ =>
    candidate.plan.value.responseMode ∈ [.knowledgeAnswer, .smalltalk] ∧
      composerFeedback verdict ≠ "" ∧ hasControlCharacter (composerFeedback verdict) = false
  | .verdictFor .., _ | .replace .., _ => True

/-- What an answered call of the remediator means for the loop. -/
def Served (runtime : CandidateRuntime) (recallState : Object RecallTurnStateV1)
    (c : AlignmentCall) (l : List RuntimeExchange) (answer : Except AlignmentException c.Value) :
    Prop :=
  (∀ y ∈ l, Succeeds runtime c.candidate y) → Respects runtime recallState ⟨c, answer⟩ ∧
    (Handled runtime ⟨c, answer⟩ ↔ Applicable runtime c l)

theorem verdictFor_served (attempt : ℕ) : (verdictFor candidate attempt).wp
    (Served runtime recallState (.verdictFor candidate attempt)) := by
  intro answer hs
  obtain ⟨verdict, hverdict, schema⟩ := hs _ (List.mem_singleton_self _)
  cases hverdict
  exact ⟨⟨verdict, rfl, schema⟩, Iff.rfl⟩

/-- An answer that the loop does not go on from. -/
theorem Served.of_replan_error {verdict : ReplyAlignmentVerdict} {attempt : ℕ}
    {l : List RuntimeExchange} {e : AlignmentException}
    (h : e.caught = true ↔ Applicable runtime (.replan candidate verdict attempt) l) :
    Served runtime recallState (.replan candidate verdict attempt) l (.error e) := fun _ =>
  ⟨fun _ heq => (nomatch heq), h⟩

/-- A candidate that a replan returns. -/
theorem Served.of_replan_ok {verdict : ReplyAlignmentVerdict} {attempt : ℕ}
    {l : List RuntimeExchange} {next : V2AttemptResult}
    (live : requireReplanAuthority runtime.encoding candidate next = .ok () →
      Live runtime recallState next)
    (h : requireReplanAuthority runtime.encoding candidate next = .ok () ↔
      Applicable runtime (.replan candidate verdict attempt) l) :
    Served runtime recallState (.replan candidate verdict attempt) l (.ok next) := by
  intro _
  have hrespects : Respects runtime recallState
      ⟨.replan candidate verdict attempt, .ok next⟩ := by
    intro next' heq
    cases heq
    exact live
  exact ⟨hrespects, h⟩

/-- The candidate of the plan that the planner returned. -/
theorem replan_built {verdict : ReplyAlignmentVerdict} {attempt : ℕ}
    {overlay : Option PlannerRetryOverlayV1} {plan : Object ExecutionPlanV2}
    {l : List RuntimeExchange} {result : Except AlignmentException V2AttemptResult}
    (hcontrol : hasControlCharacter (plannerFeedback verdict) = false)
    (hends : (∀ y ∈ l, Succeeds runtime candidate y) →
      BuildEnds runtime candidate plan (some recallState) l result) :
    Served runtime recallState (.replan candidate verdict attempt)
      (⟨.plannerRound overlay, .ok (.inr plan)⟩ :: l) result := by
  intro hs
  obtain ⟨_, hreturned, hplan⟩ := hs _ List.mem_cons_self
  cases hreturned
  obtain ⟨checked, horigin, hfresh⟩ := hplan plan rfl
  have hiff : Applicable runtime (.replan candidate verdict attempt)
      (⟨.plannerRound overlay, .ok (.inr plan)⟩ :: l) ↔ EvidenceUsable runtime l :=
    (and_iff_right hcontrol).trans evidenceUsable_plannerRound
  cases hends fun y hy => hs y (List.mem_cons_of_mem _ hy) with
  | invalid invalid =>
    exact Served.of_replan_error
      (iff_of_true rfl (hiff.mpr nothingExecuted_nil.usable)) hs
  | failed vain =>
    have huncaught : ∀ name, (AlignmentException.otherError name).caught ≠ true := nofun
    exact Served.of_replan_error (iff_of_false (huncaught _) fun h =>
      vain.not_usable (hiff.mp h)) hs
  | built valid usable samePlan fresh sameRecall =>
    rename_i next
    have hauthority : requireReplanAuthority runtime.encoding candidate next = .ok () := by
      have hspec := checked.planSpec.mpr horigin
      have hfresh : ¬ plan.Is candidate.plan := hfresh
      simp [requireReplanAuthority, samePlan, hfresh, horigin, hspec, ← checked.executionPlanId]
    have hlive : Live runtime recallState next :=
      ⟨sameRecall, samePlan ▸ checked, samePlan ▸ valid, by simp [samePlan, horigin]⟩
    exact Served.of_replan_ok (fun _ => hlive) (iff_of_true hauthority (hiff.mpr usable)) hs
  | resolved vain origin fresh =>
    rename_i next
    have hauthority : requireReplanAuthority runtime.encoding candidate next ≠ .ok () := by
      simp [requireReplanAuthority, origin]
    exact Served.of_replan_ok (fun h => absurd h hauthority)
      (iff_of_false hauthority fun h => vain.not_usable (hiff.mp h)) hs

/-- One round of the planner, and the candidate of its plan. -/
theorem replanned_served
    (hhash : runtime.policy.businessScopeHash = runtime.authority.businessScopeHash)
    {verdict : ReplyAlignmentVerdict} {attempt : ℕ}
    (hcontrol : hasControlCharacter (plannerFeedback verdict) = false)
    (overlay : PlannerRetryOverlayV1) :
    (buildCandidateViaPlanner runtime (some overlay) recallState).wp
      (Served runtime recallState (.replan candidate verdict attempt)) := by
  intro answer
  cases answer with
  | error e =>
    intro hs
    obtain ⟨_, hok, _⟩ := hs _ (List.mem_singleton_self _)
    cases hok
  | ok returned =>
    cases returned with
    | inl errorSummary =>
      have hnothing : EvidenceUsable runtime
          [⟨.plannerRound (some overlay), .ok (.inl errorSummary)⟩] :=
        evidenceUsable_plannerRound.mpr nothingExecuted_nil.usable
      exact Served.of_replan_error (iff_of_true rfl ⟨hcontrol, hnothing⟩)
    | inr plan =>
      have hends : (buildCandidateFromPlanV2 runtime plan (some recallState) none).wp
          (fun l result => (∀ y ∈ l, Succeeds runtime candidate y) →
            BuildEnds runtime candidate plan (some recallState) l result) :=
        buildCandidateFromPlanV2_ends hhash rfl
      exact wp_mono hends fun l result h => replan_built hcontrol h

theorem replan_served
    (hhash : runtime.policy.businessScopeHash = runtime.authority.businessScopeHash)
    {verdict : ReplyAlignmentVerdict} {attempt : ℕ}
    (asked : Asked runtime recallState (.replan candidate verdict attempt)) :
    (replan runtime candidate verdict attempt).wp (fun l result =>
      Served runtime recallState (.replan candidate verdict attempt) l result) := by
  obtain ⟨live, schema, hremediation, hattempt⟩ := asked
  have hoverlay : plannerAlignmentReplanOverlay verdict attempt = plannerRetryOverlayV1
      ⟨attempt + 1, .alignmentReplan, attempt, plannerFeedback verdict⟩ := by
    rw [plannerAlignmentReplanOverlay, if_neg (by simp [hremediation, hattempt])]
  have hreplan : replan runtime candidate verdict attempt =
      ofExcept (plannerAlignmentReplanOverlay verdict attempt) >>= fun overlay =>
        buildCandidateViaPlanner runtime (some overlay) recallState := by
    unfold replan
    rw [live.turnState]
  rw [hreplan, hoverlay]
  cases hcontrol : hasControlCharacter (plannerFeedback verdict) with
  | true =>
    rw [plannerRetryOverlayV1, if_pos hcontrol]
    have hnot : ¬ Applicable runtime (.replan candidate verdict attempt) [] :=
      fun h => Bool.false_ne_true (h.1.symm.trans hcontrol)
    exact Served.of_replan_error (iff_of_false Bool.false_ne_true hnot)
  | false =>
    rw [plannerRetryOverlayV1, if_neg (by simp [hcontrol])]
    exact replanned_served hhash hcontrol _

/-! ### Refetches -/

/-- A refetch that raises ends the turn. -/
theorem Served.of_refetch_error {verdict : ReplyAlignmentVerdict} {attempt : ℕ}
    {l : List RuntimeExchange} {e : AlignmentException}
    (h : ¬ Applicable runtime (.refetch candidate verdict attempt) l) :
    Served runtime recallState (.refetch candidate verdict attempt) l (.error e) := fun _ =>
  ⟨fun _ heq => (nomatch heq), iff_of_false id h⟩

theorem Served.of_refetch_ok {verdict : ReplyAlignmentVerdict} {attempt : ℕ}
    {l : List RuntimeExchange} {outcome : AlignmentRefetchOutcomeV1}
    (live : requireRefetchAuthority runtime.encoding candidate outcome verdict = .ok () →
      Live runtime recallState outcome.candidate)
    (h : requireRefetchAuthority runtime.encoding candidate outcome verdict = .ok () ↔
      Applicable runtime (.refetch candidate verdict attempt) l) :
    Served runtime recallState (.refetch candidate verdict attempt) l (.ok outcome) := by
  intro _
  have hrespects : Respects runtime recallState
      ⟨.refetch candidate verdict attempt, .ok outcome⟩ := by
    intro outcome' heq
    cases heq
    exact live
  exact ⟨hrespects, h⟩

/-- The query of a refetch verdict can be sent. -/
theorem ReplyAlignmentVerdict.SchemaValid.query {verdict : ReplyAlignmentVerdict}
    (schema : verdict.SchemaValid)
    (h : verdict.remediation ∈ [.refetchDocumentContext, .refetchReportScope]) :
    ∃ query, verdict.refinedEvidenceQuery = some query ∧ 1 ≤ query.length ∧
      query.length ≤ 200 := by
  have hblank := schema.refetch h
  cases hquery : verdict.refinedEvidenceQuery with
  | none =>
    rw [hquery] at hblank
    exact absurd (by decide) hblank
  | some query =>
    refine ⟨query, rfl, ?_, schema.query_bound query hquery⟩
    rw [Nat.one_le_iff_ne_zero, Ne, String.length_eq_zero_iff]
    rintro rfl
    rw [hquery] at hblank
    exact absurd (by decide) hblank

/-- In a plan, the id of a unit stands for the unit. -/
theorem filter_unit_length {units : List ExecutionPlanUnitV2}
    (nodup : (units.map (·.unitId)).Nodup) {unit : ExecutionPlanUnitV2} (hmem : unit ∈ units) :
    (units.filter fun unit' => unit'.unitId = unit.unitId ∧
      unit'.manifestRef = unit.manifestRef).length = 1 := by
  induction units with
  | nil => cases hmem
  | cons head units ih =>
    rw [List.map_cons, List.nodup_cons] at nodup
    obtain ⟨hfresh, nodup⟩ := nodup
    rcases List.mem_cons.mp hmem with rfl | hmem
    · have hrest : (units.filter fun unit' => unit'.unitId = unit.unitId ∧
          unit'.manifestRef = unit.manifestRef) = [] := by
        refine List.filter_eq_nil_iff.mpr fun unit' hmem' => ?_
        rw [decide_eq_true_iff]
        exact fun h => hfresh (h.1 ▸ List.mem_map_of_mem hmem')
      rw [List.filter_cons_of_pos (by simp), hrest, List.length_singleton]
    · have hother : head.unitId ≠ unit.unitId := fun h =>
        hfresh (h ▸ List.mem_map_of_mem hmem)
      rw [List.filter_cons_of_neg (by simp [hother])]
      exact ih nodup hmem

/-- The candidate of a request for the unit. -/
theorem refetch_built {verdict : ReplyAlignmentVerdict} {attempt : ℕ}
    (live : Live runtime recallState candidate) {unit : ExecutionPlanUnitV2} {query : String}
    (hunit : candidate.plan.value.units.filter
      (unitSupportsRefetch ·.manifestRef verdict.remediation) = [unit])
    (hquery : verdict.refinedEvidenceQuery = some query) {l : List RuntimeExchange}
    {result : Except AlignmentException V2AttemptResult}
    (hends : (∀ y ∈ l, Succeeds runtime candidate y) →
      BuildEnds runtime candidate candidate.plan (some recallState) l result) :
    Served runtime recallState (.refetch candidate verdict attempt) l
      (result.map (AlignmentRefetchOutcomeV1.mk
        ⟨unit.unitId, unit.manifestRef, query, attempt⟩)) := by
  intro hs
  have hiff : Applicable runtime (.refetch candidate verdict attempt) l ↔
      EvidenceUsable runtime l :=
    and_iff_right ⟨unit, hunit⟩
  cases hends hs with
  | invalid invalid => exact absurd live.valid invalid
  | failed vain => exact Served.of_refetch_error (fun h => vain.not_usable (hiff.mp h)) hs
  | built valid usable samePlan fresh sameRecall =>
    rename_i next
    have hmem : unit ∈ candidate.plan.value.units :=
      List.mem_of_mem_filter (hunit ▸ List.mem_singleton_self unit)
    have hauthority : requireRefetchAuthority runtime.encoding candidate
        ⟨⟨unit.unitId, unit.manifestRef, query, attempt⟩, next⟩ verdict = .ok () := by
      have hid := List.mem_map_of_mem (f := (·.unitId)) hmem
      have hsame : candidate.plan.Is candidate.plan := rfl
      simp only [requireRefetchAuthority, samePlan, hquery, fresh, hid, hsame, not_true_eq_false,
        ne_eq, or_self, ↓reduceIte]
    have hlive : Live runtime recallState next :=
      ⟨sameRecall, samePlan ▸ live.checked, samePlan ▸ valid, samePlan ▸ live.origin⟩
    exact Served.of_refetch_ok (fun _ => hlive) (iff_of_true hauthority (hiff.mpr usable)) hs
  | resolved vain origin fresh =>
    rename_i next
    have hauthority : requireRefetchAuthority runtime.encoding candidate
        ⟨⟨unit.unitId, unit.manifestRef, query, attempt⟩, next⟩ verdict ≠ .ok () := by
      simp [requireRefetchAuthority, fresh]
    exact Served.of_refetch_ok (fun h => absurd h hauthority)
      (iff_of_false hauthority fun h => vain.not_usable (hiff.mp h)) hs

theorem refetch_served
    (hhash : runtime.policy.businessScopeHash = runtime.authority.businessScopeHash)
    {verdict : ReplyAlignmentVerdict} {attempt : ℕ}
    (asked : Asked runtime recallState (.refetch candidate verdict attempt)) :
    (refetch runtime candidate verdict attempt).wp (fun l result =>
      Served runtime recallState (.refetch candidate verdict attempt) l result) := by
  obtain ⟨live, schema, hremediation, _⟩ := asked
  obtain ⟨query, hquery, hpos, hle⟩ := schema.query hremediation
  by_cases hunique : ∃ unit, candidate.plan.value.units.filter
      (unitSupportsRefetch ·.manifestRef verdict.remediation) = [unit]
  · obtain ⟨unit, hunit⟩ := hunique
    have hmem : unit ∈ candidate.plan.value.units :=
      List.mem_of_mem_filter (hunit ▸ List.mem_singleton_self unit)
    have hrequest : buildAlignmentRefetchRequestV1 candidate.plan.value verdict attempt =
        .ok ⟨unit.unitId, unit.manifestRef, query, attempt⟩ := by
      simp only [buildAlignmentRefetchRequestV1, hquery, hunit, hpos, hle, and_self, ↓reduceIte]
    have hvalid : validateRefetch candidate.plan.value
        (some ⟨unit.unitId, unit.manifestRef, query, attempt⟩) = .ok () := by
      simp only [validateRefetch, validateAlignmentRefetchRequestV1,
        filter_unit_length live.checked.nodup hmem, ne_eq, not_true_eq_false, ↓reduceIte]
    have hends : (buildCandidateFromPlanV2 runtime candidate.plan (some recallState)
        (some ⟨unit.unitId, unit.manifestRef, query, attempt⟩)).wp (fun l result =>
          (∀ y ∈ l, Succeeds runtime candidate y) →
            BuildEnds runtime candidate candidate.plan (some recallState) l result) :=
      buildCandidateFromPlanV2_ends hhash hvalid
    have hrefetch : refetch runtime candidate verdict attempt =
        buildCandidateFromPlanV2 runtime candidate.plan (some recallState)
            (some ⟨unit.unitId, unit.manifestRef, query, attempt⟩) >>= fun refreshed =>
          pure ⟨⟨unit.unitId, unit.manifestRef, query, attempt⟩, refreshed⟩ := by
      rw [refetch, hrequest, live.turnState]
      rfl
    rw [hrefetch]
    refine wp_seq hends (fun l e h => ?_) fun l next h => ?_
    · exact refetch_built live hunit hquery h
    · rw [wp_pure, List.append_nil]
      exact refetch_built live hunit hquery h
  · have hrequest : buildAlignmentRefetchRequestV1 candidate.plan.value verdict attempt =
        .error (.otherError "alignment_refetch_unit_not_unique") := by
      simp only [buildAlignmentRefetchRequestV1, hquery]
      split
      · next unit hunit => exact absurd ⟨unit, hunit⟩ hunique
      · rfl
    rw [refetch, hrequest]
    exact Served.of_refetch_error fun h => hunique h.1

/-! ### Recompositions -/

/-- A recomposition that raises ends the turn. -/
theorem Served.of_recompose_error {verdict : ReplyAlignmentVerdict} {attempt : ℕ}
    {l : List RuntimeExchange} {e : AlignmentException}
    (h : ¬ Applicable runtime (.recompose candidate verdict attempt) l) :
    Served runtime recallState (.recompose candidate verdict attempt) l (.error e) := fun _ =>
  ⟨fun _ heq => (nomatch heq), iff_of_false id h⟩

theorem Served.of_recompose_ok {verdict : ReplyAlignmentVerdict} {attempt : ℕ}
    {l : List RuntimeExchange} {next : V2AttemptResult} (live : Live runtime recallState next)
    (authority : requireRecomposeResponseOnly candidate next = .ok ())
    (h : Applicable runtime (.recompose candidate verdict attempt) l) :
    Served runtime recallState (.recompose candidate verdict attempt) l (.ok next) := by
  intro _
  have hrespects : Respects runtime recallState
      ⟨.recompose candidate verdict attempt, .ok next⟩ := by
    intro next' heq _
    cases heq
    exact live
  exact ⟨hrespects, iff_of_true authority h⟩

/-- The feedback makes an overlay, or the constructor raises. -/
theorem composerRetryOverlayV1_cases (attempt : ℕ) (feedback : String) :
    (feedback ≠ "" ∧ hasControlCharacter feedback = false ∧
      composerRetryOverlayV1 attempt feedback = .ok ⟨attempt, feedback⟩) ∨
    (¬ (feedback ≠ "" ∧ hasControlCharacter feedback = false) ∧
      ∃ e, composerRetryOverlayV1 attempt feedback = .error e) := by
  unfold composerRetryOverlayV1
  split_ifs with hempty hcontrol
  · exact .inr ⟨fun h => h.1 hempty, _, rfl⟩
  · exact .inr ⟨fun h => Bool.false_ne_true (h.2.symm.trans hcontrol), _, rfl⟩
  · exact .inl ⟨hempty, Bool.eq_false_iff.mpr hcontrol, rfl⟩

/-- The candidate of the recomposed reply. -/
theorem recomposed_served {verdict : ReplyAlignmentVerdict} {attempt : ℕ}
    (live : Live runtime recallState candidate) (hempty : composerFeedback verdict ≠ "")
    (hcontrol : hasControlCharacter (composerFeedback verdict) = false)
    {overlay : ComposerRetryOverlayV1} {l : List RuntimeExchange}
    {answer : Except AlignmentException V2AttemptResult}
    (trace : Trace (recomposeCandidateV2 runtime candidate overlay) l answer) :
    Served runtime recallState (.recompose candidate verdict attempt) l answer := by
  unfold recomposeCandidateV2 at trace
  split_ifs at trace with hmode
  rotate_left
  · cases trace
    exact Served.of_recompose_error fun h => hmode h.1
  have hcomposed : candidate.plan.value.responseMode ≠ .action := by
    intro haction
    rw [haction] at hmode
    exact absurd hmode (by decide)
  intro hs
  obtain ⟨_, next, rfl, hplan, hevidence, hrecall⟩ := rendered_trace trace
    (fun h => absurd h hcomposed) hs
  have hauthority : requireRecomposeResponseOnly candidate next = .ok () := by
    simp [requireRecomposeResponseOnly, hplan, hevidence, Object.Is]
  have hlive : Live runtime recallState next :=
    ⟨hrecall.trans live.turnState, hplan ▸ live.checked, hplan ▸ live.valid, hplan ▸ live.origin⟩
  exact Served.of_recompose_ok hlive hauthority ⟨hmode, hempty, hcontrol⟩ hs

theorem recompose_served {verdict : ReplyAlignmentVerdict} {attempt : ℕ}
    (asked : Asked runtime recallState (.recompose candidate verdict attempt))
    {l : List RuntimeExchange} {answer : Except AlignmentException V2AttemptResult}
    (trace : Trace (recompose runtime candidate verdict attempt) l answer) :
    Served runtime recallState (.recompose candidate verdict attempt) l answer := by
  have live := asked.1
  unfold recompose at trace
  obtain ⟨hempty, hcontrol, hoverlay⟩ | ⟨hrefused, e, hoverlay⟩ :=
    composerRetryOverlayV1_cases attempt (composerFeedback verdict)
  · rw [hoverlay] at trace
    exact recomposed_served live hempty hcontrol trace
  · rw [hoverlay] at trace
    cases trace
    exact Served.of_recompose_error fun h => hrefused h.2

/-! ### Replacements -/

/-- A plan that nothing is collected for: it resolves nothing, answers nothing and sends
nothing. -/
structure NeedsNoEvidence (plan : ExecutionPlanV2) : Prop where
  resolves : ∀ unit ∈ plan.units, unit.adapterResolves = []
  answers : ∀ unit ∈ plan.units, unit.answerabilityPolicy ≠ .answer
  knowledge : ∀ unit ∈ plan.units,
    unit.manifestRef.manifestId ≠ .answerInternalCompanyKnowledge
  intents : plan.actionIntents = []

theorem NeedsNoEvidence.collected {plan : ExecutionPlanV2} (h : NeedsNoEvidence plan)
    {fns : EvidenceFunctions} {catalog : ApprovedCatalog} {policy : PolicyManifestV2}
    {preflight : List AdapterPreflightRecord} {refetch : Option AlignmentRefetchRequestV1}
    {result : Except EvidenceException (List CanonicalEvidenceFactV1)}
    (answered : SourcesAnswered fns catalog plan policy preflight refetch result) :
    result = .ok [] := by
  obtain ⟨reports, knowledge, hreports, hknowledge, rfl⟩ := answered
  have htargets : reportTargets plan policy preflight refetch = [] :=
    List.filterMap_eq_nil_iff.mpr fun unit hunit => by simp [h.answers unit hunit]
  have hnone : knowledgeTargets plan policy = [] := by
    refine List.filter_eq_nil_iff.mpr fun unit hunit => ?_
    simp [h.knowledge unit hunit]
  have hreported : reports = .ok [] := by
    obtain hreported | ⟨distName, ready, l, trace⟩ := hreports
    · exact hreported
    · rw [htargets, show collectReportScope fns.toEvidenceHashes distName [] ready = return [] by
        cases ready <;> rfl] at trace
      cases trace
      rfl
  have hknown : knowledge = .ok [] := by
    obtain hknown | ⟨scene, stateKeyRef, documentCacheConfig, l, result, trace, rfl⟩ := hknowledge
    · exact hknown
    · rw [collectKnowledge, hnone] at trace
      split_ifs at trace <;> cases trace <;> rfl
  rw [hreported, hknown]
  rfl

/-- Such a plan is grounded on nothing. -/
theorem NeedsNoEvidence.usable {plan : ExecutionPlanV2} (h : NeedsNoEvidence plan)
    (valid : validateExecutionPlanV2 plan runtime.policy = [])
    {refetch : Option AlignmentRefetchRequestV1} {answer : Except EvidenceException EvidenceSources}
    (answered : EvidenceAnswered runtime plan refetch answer) : UsableFor runtime plan answer := by
  obtain ⟨results, collected, fns, catalog, _, hsources, rfl⟩ := answered
  obtain rfl := h.collected hsources
  refine ⟨_, rfl, ?_, ?_⟩
  · have hserved : ∀ preflight, servedResolves plan preflight = [] := fun preflight =>
      List.flatMap_eq_nil_iff.mpr fun unit hunit => by rw [h.resolves unit hunit]; rfl
    have hbuilt : ∀ preflight, canonicalAdapterFactsV1 runtime.hashes plan preflight =
        .ok ([], []) := fun preflight => by rw [canonicalAdapterFactsV1, hserved]; rfl
    have hground : ∃ groundings, groundExecutionPlanV2 plan runtime.policy ([] ++ []) [] none =
        .ok groundings ∧ groundings.length = plan.units.length := by
      refine (groundExecutionPlanV2_ok_iff valid (by simp)).mpr fun unit _ => ?_
      refine (exists_deriveUnitBusinessFactsV1_iff rfl (by simp [admittedFacts_eq, candidateFacts])
        (allowedFactTypes_not_mem _).2 rfl).mpr ?_
      simp [admittedFacts_eq, candidateFacts, MaterialOptionUsable, ReportDateUsable,
        bindingForResolveFactV1, firstResolvableFactV1]
    obtain ⟨groundings, hground, _⟩ := hground
    exact ⟨[], [], groundings, hbuilt _, hground⟩
  · rw [materialPackResolution, h.intents]
    exact if_pos (by simp)

theorem replacementUnit_general (remediation : AlignmentFallbackV1) :
    (replacementUnit remediation).General := by
  cases remediation <;> constructor <;> decide

theorem replacementUnit_mode (remediation : AlignmentFallbackV1) :
    responseModeForAnswerabilityPolicies [(replacementUnit remediation).answerabilityPolicy] =
      remediation.mode := by
  cases remediation <;> decide

/-- The replacement that the loop accepts. -/
theorem Served.of_replace_ok {verdict : Option ReplyAlignmentVerdict}
    {remediation : AlignmentFallbackV1} {l : List RuntimeExchange} {next : V2AttemptResult}
    (turnState : next.recallState = some recallState)
    (authority : requireReplacementAuthority runtime.encoding candidate next remediation = .ok ()) :
    Served runtime recallState (.replace candidate verdict remediation) l (.ok next) := by
  intro _
  have hrespects : Respects runtime recallState
      ⟨.replace candidate verdict remediation, .ok next⟩ := ⟨next, rfl, turnState, authority⟩
  exact ⟨hrespects, iff_of_true authority trivial⟩

/-- A plan of the deterministic compiler replaces a candidate of another origin. -/
theorem requireReplacementAuthority_ok (compiled : runtime.Compiled)
    (live : Live runtime recallState candidate) {remediation : AlignmentFallbackV1}
    {plan : ExecutionPlanV2} {next : V2AttemptResult} (samePlan : next.plan.value = plan)
    (checked : plan.Checked runtime.encoding) (origin : plan.origin = .remediation)
    (mode : plan.responseMode = remediation.mode)
    (refs : plan.selectedManifestRefs.map (·.manifestId) = [remediation.manifestId]) :
    requireReplacementAuthority runtime.encoding candidate next remediation = .ok () := by
  have hspec : plan.hasPlanSpec ≠ true := fun h => by
    rw [checked.planSpec, origin] at h
    cases h
  have hother : plan.executionPlanId ≠ candidate.plan.value.executionPlanId := by
    intro h
    rw [checked.executionPlanId, live.checked.executionPlanId] at h
    exact live.origin ((compiled.faithful.origin _ _ h).symm.trans origin)
  simp only [requireReplacementAuthority, samePlan, origin, hspec, mode, refs, hother,
    ← checked.executionPlanId, ne_eq, not_true_eq_false, or_self, Bool.false_eq_true, ↓reduceIte]

/-- The plan of a replacement, which nothing is collected for. -/
structure ReplacementPlan (runtime : CandidateRuntime) (candidate : V2AttemptResult)
    (remediation : AlignmentFallbackV1) (plan : ExecutionPlanV2) : Prop where
  finalized : finalizeExecutionPlanV2 runtime.policy runtime.authority runtime.encoding
    (.deterministic ⟨candidate.plan.value.userNeed, [replacementUnit remediation],
      candidate.plan.value.complianceReasonCode⟩) .remediation = .ok plan
  checked : plan.Checked runtime.encoding
  valid : validateExecutionPlanV2 plan runtime.policy = []
  needsNoEvidence : NeedsNoEvidence plan
  origin : plan.origin = .remediation
  responseMode : plan.responseMode = remediation.mode
  manifestIds : plan.selectedManifestRefs.map (·.manifestId) = [remediation.manifestId]

theorem exists_replacementPlan (compiled : runtime.Compiled) {remediation : AlignmentFallbackV1}
    (hneed : 1 ≤ candidate.plan.value.userNeed.length ∧
      candidate.plan.value.userNeed.length ≤ 500) :
    ∃ plan, ReplacementPlan runtime candidate remediation plan := by
  obtain ⟨ref, href⟩ : ∃ ref, runtime.policy.eligibleCapabilities.find?
      (·.manifestId = (replacementUnit remediation).manifestId) = some ref := by
    obtain ⟨ref, hmem, hid⟩ := compiled.capability remediation
    rw [← Option.isSome_iff_exists, List.find?_isSome]
    exact ⟨ref, hmem, decide_eq_true hid⟩
  have hmanifest : ref.manifestId = remediation.manifestId := by
    have h := List.find?_some href
    exact of_decide_eq_true h
  have general := replacementUnit_general remediation
  have hmode : responseModeForAnswerabilityPolicies
      [(replacementUnit remediation).answerabilityPolicy] ∈ runtime.policy.allowedReplyModes :=
    replacementUnit_mode remediation ▸ compiled.mode remediation
  have hknowledge : ref.manifestId ≠ .answerInternalCompanyKnowledge := by
    rw [hmanifest]
    cases remediation <;> decide
  have hpolicy : (replacementUnit remediation).answerabilityPolicy ≠ .answer := by
    cases remediation <;> decide
  obtain ⟨hfinal, checked⟩ := finalizeExecutionPlanV2_single general href
    (show ExecutionPlanOriginV1.remediation ≠ .planner by decide) hneed
  exact ⟨_, {
    finalized := hfinal
    checked
    valid := validateExecutionPlanV2_single general (List.mem_of_find?_eq_some href) hmode
    needsNoEvidence := by
      constructor <;> simp [executionPlan, executionUnit, general.adapterResolves, hknowledge,
        hpolicy]
    origin := rfl
    responseMode := replacementUnit_mode remediation
    manifestIds := by simp [executionPlan, executionUnit, selectedRefsV2, hmanifest] }⟩

theorem replace_served (compiled : runtime.Compiled) {verdict : Option ReplyAlignmentVerdict}
    {remediation : AlignmentFallbackV1} (live : Live runtime recallState candidate) :
    (replace runtime candidate remediation).wp (fun l result =>
      Served runtime recallState (.replace candidate verdict remediation) l result) := by
  obtain ⟨plan, replacement⟩ : ∃ plan, ReplacementPlan runtime candidate remediation plan :=
    exists_replacementPlan compiled live.checked.userNeed
  have hreplace : replace runtime candidate remediation = newObject plan >>= fun plan' =>
      buildCandidateFromPlanV2 runtime plan' candidate.recallState none := by
    rw [replace, replacement.finalized]
    rfl
  rw [hreplace, live.turnState]
  intro address
  have hends : (buildCandidateFromPlanV2 runtime ⟨address, plan⟩ (some recallState) none).wp
      (fun l result => (∀ y ∈ l, Succeeds runtime candidate y) →
        BuildEnds runtime candidate ⟨address, plan⟩ (some recallState) l result) :=
    buildCandidateFromPlanV2_ends compiled.scopeHash rfl
  have hserved : ∀ l result, ((∀ y ∈ l, Succeeds runtime candidate y) →
      BuildEnds runtime candidate ⟨address, plan⟩ (some recallState) l result) →
        Served runtime recallState (.replace candidate verdict remediation)
          (⟨.newObject, address⟩ :: l) result := by
    intro l result h hs
    have hnot : ¬ ExecutedInVain runtime plan l := by
      rintro ⟨refetch, answer, hmem, hvain⟩
      exact hvain (replacement.needsNoEvidence.usable replacement.valid
        (hs _ (List.mem_cons_of_mem _ hmem)))
    cases h fun y hy => hs y (List.mem_cons_of_mem _ hy) with
    | invalid invalid => exact absurd replacement.valid invalid
    | failed vain => exact absurd vain hnot
    | resolved vain => exact absurd vain hnot
    | built _ _ samePlan _ sameRecall =>
      have hauthority := requireReplacementAuthority_ok compiled live
        (congrArg Object.value samePlan) replacement.checked replacement.origin
        replacement.responseMode replacement.manifestIds
      exact Served.of_replace_ok sameRecall hauthority hs
  exact wp_mono hends hserved

/-! ### All calls -/

/-- What the production remediator does with a call of the loop. -/
theorem remediate_served (compiled : runtime.Compiled) {c : AlignmentCall}
    (asked : Asked runtime recallState c) {l : List RuntimeExchange} {answer : c.Answer}
    (trace : Trace (remediate runtime c) l answer) : Served runtime recallState c l answer := by
  cases c with
  | verdictFor candidate attempt =>
    have h : Trace (verdictFor candidate attempt) l answer := trace
    exact h.wp (verdictFor_served attempt)
  | replan candidate verdict attempt =>
    have h : Trace (replan runtime candidate verdict attempt) l answer := trace
    exact h.wp (replan_served compiled.scopeHash asked)
  | refetch candidate verdict attempt =>
    have h : Trace (refetch runtime candidate verdict attempt) l answer := trace
    exact h.wp (refetch_served compiled.scopeHash asked)
  | recompose candidate verdict attempt =>
    exact recompose_served asked trace
  | replace candidate verdict remediation =>
    have h : Trace (replace runtime candidate remediation) l answer := trace
    exact h.wp (replace_served compiled asked)

/-! ## Runs -/

/-- A run of the loop with the production remediator: every exchange of the loop comes with the
exchanges of the remediator that served it. -/
structure ProductionRun (runtime : CandidateRuntime) (limits : AlignmentRemediationLimitsV1)
    (candidate : V2AttemptResult) (L : List (AlignmentExchange × List RuntimeExchange))
    (result : Except AlignmentException V2AttemptResult) : Prop where
  trace : Trace (ensureAlignedV2Response runtime.encoding limits candidate) (L.map (·.1)) result
  served : ∀ p ∈ L, Trace (remediate runtime p.1.1) p.2 p.1.2
  succeeds : ∀ p ∈ L, ∀ y ∈ p.2, Succeeds runtime p.1.1.candidate y

namespace Fallback

/-- An encoding that tells the origins of plans apart. -/
def encoding : PlanEncoding where
  planHash plan := match plan.origin with
    | .planner => "planner"
    | .inputPolicy => "input_policy"
    | .directSend => "direct_send"
    | .approvedStaticShortcut => "approved_static_shortcut"
    | .deterministic => "deterministic"
    | .remediation => "remediation"
  planBytes _ := []

theorem encoding_faithful : encoding.Faithful where
  origin plan plan' h := by
    revert h
    simp only [PlanEncoding.executionPlanIdV2, ExecutionPlanV2.hashPayload, encoding]
    cases plan.origin <;> cases plan'.origin <;> decide

def abstention : ManifestRefV1 := ⟨.generalAbstention, .v20260718n1⟩

def policy : PolicyManifestV2 where
  policyId := "policy"
  scene := .direct
  allowedReplyModes := [.clarification, .unable]
  eligibleCapabilities := [⟨.generalClarification, .v20260718n1⟩, abstention]
  allowedReadCapabilities := []
  allowedOutboundActions := []
  allowedMentionTypes := []
  allowedAdapterResolves := []
  internalCompanyKnowledgeEnabled := false
  actionsAllowed := false
  mentionsAllowed := false
  materialPackOptions := []
  businessScopeHash := ""

def authority : BusinessScopeAuthorityV1 := ⟨.unscoped, "", ""⟩

def hashes : EvidenceHashes :=
  ⟨fun _ => "", fun _ => "", fun _ => "", fun _ => "", fun _ => "", fun _ => ""⟩

def directRuntime : CandidateRuntime where
  encoding := encoding
  hashes := hashes
  policy := policy
  authority := authority
  scene := .direct
  refusalTextForReason _ := ""
  inputBlock _ := none
  imageMarkerFilenames _ := []

theorem directRuntime_compiled : directRuntime.Compiled where
  faithful := encoding_faithful
  scopeHash := rfl
  capability remediation := by cases remediation <;> decide
  mode remediation := by cases remediation <;> decide

/-- The plan that the input policy makes for a question that is out of scope. -/
def plan : ExecutionPlanV2 :=
  executionPlan encoding (.deterministic ⟨"weather", [replacementUnit .returnUnable], "unknown"⟩)
    .inputPolicy [executionUnit policy (replacementUnit .returnUnable) abstention
      (unplannedScope authority none) []]

def unableCandidate : V2AttemptResult where
  plan := ⟨2, plan⟩
  evidence := ⟨3, ⟨[], [], [], []⟩⟩
  response := plainReply .unableToAnswer unableText
  replyValidation := ⟨true, []⟩
  reasonCode := "insufficient_evidence"
  recallState := some sampleRecallState

theorem unableCandidate_live : Live directRuntime sampleRecallState unableCandidate := by
  have general := replacementUnit_general .returnUnable
  have heligible : policy.eligibleCapabilities.find?
      (·.manifestId = (replacementUnit .returnUnable).manifestId) = some abstention := by decide
  refine ⟨rfl, ?_, by decide, by decide⟩
  exact (finalizeExecutionPlanV2_single general heligible
    (show ExecutionPlanOriginV1.inputPolicy ≠ .planner by decide)
    (show 1 ≤ "weather".length ∧ "weather".length ≤ 500 by decide)).2

/-- The verifier asks for another wording of the candidate. -/
def recomposition : List (AlignmentExchange × List RuntimeExchange) :=
  [(⟨.verdictFor unableCandidate 0, .ok sampleRejection⟩,
    [⟨.verify unableCandidate 0, .ok sampleRejection⟩]),
    (⟨.recompose unableCandidate sampleRejection 1,
      .error (.agentRuntimeError "alignment_recompose_mode_not_supported")⟩, [])]

theorem sampleRejection_schemaValid : sampleRejection.SchemaValid := by
  constructor <;> simp [sampleRejection, alignmentFailureCodes]
  decide

theorem recomposition_run : ProductionRun directRuntime sampleLimits unableCandidate recomposition
    (.error (.agentRuntimeError "alignment_recompose_mode_not_supported")) where
  trace := by
    change Trace (alignmentLoop _ _ sampleRecallState _ _) _ _
    rw [alignmentLoop]
    exact .call (.call (.done _))
  served p hp := by
    simp only [recomposition, List.mem_cons, List.not_mem_nil, or_false] at hp
    obtain rfl | rfl := hp
    · exact .call (.done _)
    · have hfeedback : composerFeedback sampleRejection = "shorter" := by decide +kernel
      change Trace (recompose directRuntime unableCandidate sampleRejection 1) [] _
      rw [recompose, composerRetryOverlayV1, hfeedback, if_neg (by decide), if_neg (by decide)]
      exact .done _
  succeeds p hp y hy := by
    simp only [recomposition, List.mem_cons, List.not_mem_nil, or_false] at hp
    obtain rfl | rfl := hp
    · cases List.mem_singleton.mp hy
      exact ⟨_, rfl, sampleRejection_schemaValid⟩
    · cases hy

/-- The verifier asks for another plan. -/
def replanVerdict : ReplyAlignmentVerdict :=
  ⟨false, false, "ambiguous_request", "", .replan, none, some "ask for the city", none⟩

theorem replanVerdict_schemaValid : replanVerdict.SchemaValid := by
  constructor <;> simp [replanVerdict, alignmentFailureCodes]
  decide

/-- The plan of the planner, which asks back. -/
def clarification : ExecutionPlanV2 :=
  let unit := replacementUnit .returnClarification
  executionPlan encoding (.planSpec ⟨"weather", [⟨unit.unitId, "general.clarification", .unscoped,
      .clarify, [], [], []⟩], []⟩) .planner
    [executionUnit policy unit ⟨.generalClarification, .v20260718n1⟩
      (unplannedScope authority none) []]

theorem clarification_checked : clarification.Checked encoding := by decide +kernel

theorem clarification_valid : validateExecutionPlanV2 clarification policy = [] := by
  decide +kernel

theorem clarification_needsNoEvidence : NeedsNoEvidence clarification := by
  constructor <;> decide +kernel

def clarificationEvidence : CanonicalEvidenceExecutionResultV1 :=
  ⟨[], [], [], ((groundExecutionPlanV2 clarification policy [] [] none).toOption).getD []⟩

def uuidHex : UuidHex := ⟨"00000000000000000000000000000000", UuidHex.zeros⟩

def clarificationCandidate : V2AttemptResult where
  plan := ⟨5, clarification⟩
  evidence := ⟨7, clarificationEvidence⟩
  response := ensureResponseIds uuidHex
    (plainReply .clarification (clarificationText clarification))
  replyValidation := ⟨true, []⟩
  reasonCode := "ambiguous_request"
  recallState := some sampleRecallState

/-- What the remediator does for the plan: nothing is resolved or collected. -/
def replanExchanges : List RuntimeExchange :=
  [⟨.plannerRound (some ⟨2, .alignmentReplan, 1, "ask for the city"⟩),
      (.ok (.inr ⟨5, clarification⟩) : Except AlignmentException (String ⊕ Object _))⟩,
    ⟨.collect clarification none, (.ok ⟨some [], []⟩ : Except EvidenceException EvidenceSources)⟩,
    ⟨.newObject, (7 : ℕ)⟩, ⟨.uuid, uuidHex⟩]

/-- The plan is made anew, and the verifier approves of its candidate. -/
def replanned : List (AlignmentExchange × List RuntimeExchange) :=
  [(⟨.verdictFor unableCandidate 0, .ok replanVerdict⟩,
    [⟨.verify unableCandidate 0, .ok replanVerdict⟩]),
    (⟨.replan unableCandidate replanVerdict 1, .ok clarificationCandidate⟩, replanExchanges),
    (⟨.verdictFor clarificationCandidate 1, .ok sampleApproval⟩,
      [⟨.verify clarificationCandidate 1, .ok sampleApproval⟩])]

theorem clarification_answered :
    EvidenceAnswered directRuntime clarification none (.ok ⟨some [], []⟩) :=
  ⟨[], .ok [], ⟨hashes, id⟩, ⟨[], []⟩, rfl, ⟨.ok [], .ok [], .inl rfl, .inl rfl, rfl⟩, rfl⟩

theorem replanExchanges_usable : EvidenceUsable directRuntime replanExchanges := by
  have huuid : NothingExecuted [⟨.uuid, uuidHex⟩] := fun y hy plan refetch heq => by
    cases List.mem_singleton.mp hy
    cases heq
  rw [replanExchanges, evidenceUsable_plannerRound, evidenceUsable_collect (huuid.newObject 7)]
  exact clarification_needsNoEvidence.usable clarification_valid clarification_answered

theorem replan_trace :
    Trace (replan directRuntime unableCandidate replanVerdict 1) replanExchanges
      (.ok clarificationCandidate) := by
  have hoverlay : plannerAlignmentReplanOverlay replanVerdict 1 =
      .ok ⟨2, .alignmentReplan, 1, "ask for the city"⟩ := by decide +kernel
  have hexecute : executeV2 clarification policy hashes authority.scope authority
      (fun _ => some []) [] = .ok clarificationEvidence := by decide +kernel
  have hvalid : ¬ validateExecutionPlanV2 (⟨5, clarification⟩ : Object ExecutionPlanV2).value
      directRuntime.policy ≠ [] := not_not_intro clarification_valid
  change Trace (ofExcept (plannerAlignmentReplanOverlay replanVerdict 1) >>= _) _ _
  rw [hoverlay]
  refine .call ?_
  change Trace (buildCandidateFromPlanV2 directRuntime ⟨5, clarification⟩ (some sampleRecallState)
    none) _ _
  rw [buildCandidateFromPlanV2, if_neg hvalid]
  refine .call ?_
  change Trace ((ofEvidence (executeV2 clarification policy hashes authority.scope authority
    (fun _ => some []) []) >>= newObject) >>= _) _ _
  rw [hexecute]
  refine .call ?_
  exact .call (.done _)

theorem replanned_run :
    ProductionRun directRuntime sampleLimits unableCandidate replanned
      (.ok clarificationCandidate) where
  trace := by
    have hlast : Trace (alignmentLoop encoding sampleLimits sampleRecallState
        clarificationCandidate ⟨1, 0, 0, 1⟩) [⟨.verdictFor clarificationCandidate 1,
          .ok sampleApproval⟩] (.ok clarificationCandidate) := by
      rw [alignmentLoop]
      exact .call (.done _)
    change Trace (alignmentLoop _ _ sampleRecallState _ _) _ _
    rw [alignmentLoop]
    exact .call (.call hlast)
  served p hp := by
    simp only [replanned, List.mem_cons, List.not_mem_nil, or_false] at hp
    obtain rfl | rfl | rfl := hp
    · exact .call (.done _)
    · exact replan_trace
    · exact .call (.done _)
  succeeds p hp y hy := by
    simp only [replanned, List.mem_cons, List.not_mem_nil, or_false] at hp
    obtain rfl | rfl | rfl := hp
    · cases List.mem_singleton.mp hy
      exact ⟨_, rfl, replanVerdict_schemaValid⟩
    · simp only [replanExchanges, List.mem_cons, List.not_mem_nil, or_false] at hy
      obtain rfl | rfl | rfl | rfl := hy
      · refine ⟨_, rfl, fun plan h => ?_⟩
        cases h
        exact ⟨clarification_checked, rfl, by decide⟩
      · exact clarification_answered
      · exact ⟨by decide, by decide⟩
      · trivial
    · cases List.mem_singleton.mp hy
      exact ⟨_, rfl, by constructor <;> simp [sampleApproval, alignmentFailureCodes]⟩

end Fallback

end MarketSupport
