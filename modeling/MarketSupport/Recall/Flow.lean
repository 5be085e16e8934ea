import MarketSupport.Library.Programs
import MarketSupport.Planning.Compiler
import MarketSupport.Policy.Manifest
import MarketSupport.Recall.Service

/-!
# Recall before planning

`collect_preplanner_recall` asks the approved knowledge and the documents for candidates, and
answers from the approved knowledge alone where the policy lets it.
-/

namespace MarketSupport.Recall

open Library

/-! ## Collectors -/

/-- The collectors that recall calls. -/
inductive RecallCall where
  | approvedStatic
  | document
  deriving DecidableEq, Repr

/-- What a collector returns or raises. -/
abbrev RecallCall.Answer : RecallCall → Type
  | .approvedStatic => Except RecallException ApprovedStaticRecallCollectionV1
  | .document => Except RecallException KnowledgeQaMatch

/-- The exceptions of a collector that leave its branch unavailable. -/
def RecallException.FailsOpen : RecallException → Bool
  | .connectionError | .documentMcpError | .qaCorpusShapeError | .timeoutError => true
  | .validationError | .recallContractError _ | .other _ => false

variable (encoding : RecallEncoding) (digest : Sha256Hex)

/-- `_collect_static`, after the collector has answered. -/
def collectStatic : Except RecallException ApprovedStaticRecallCollectionV1 →
    Except RecallException (RecallBranchCollectionV1 × Option ApprovedStaticShortcutPayloadV1)
  | .ok collection =>
    .ok (approvedStaticBranch encoding collection.recallMatch, collection.shortcutPayload)
  | .error e =>
    if e.FailsOpen then .ok ({ sourceClass := .approvedStatic, unavailable := true }, none)
    else .error e

/-- `_collect_document`, after the collector has answered. -/
def collectDocument : Except RecallException KnowledgeQaMatch →
    Except RecallException RecallBranchCollectionV1
  | .ok recallMatch => .ok (documentRecallBranch encoding digest recallMatch)
  | .error e =>
    if e.FailsOpen then .ok { sourceClass := .documentMcp, unavailable := true } else .error e

/-! ## Shortcuts -/

variable (planEncoding : PlanEncoding) (policy : PolicyManifestV2)
  (authority : BusinessScopeAuthorityV1)

/-- The candidates that are the payload's own. -/
def matchingCandidates (candidates : List RecallCandidateViewV1)
    (payload : ApprovedStaticShortcutPayloadV1) : List RecallCandidateViewV1 :=
  candidates.filter fun candidate => candidate.candidateId = payload.candidateId ∧
    candidate.canonicalId = payload.canonicalId ∧ candidate.confidence = payload.confidence ∧
    candidate.reasonCode = .approvedRecallHit

/-- The manifest of a shortcut is the registered one, and takes approved knowledge. -/
def manifestTakesApprovedStatic (ref : ManifestRefV1) : Bool :=
  match findManifest ref.manifestId with
  | none => false
  | some manifest => decide (manifest.manifestVersion = ref.manifestVersion) &&
    decide (.documentContext ∈ manifest.evidenceContract.allowedFactTypes) &&
    decide (.approvedStaticKnowledge ∈ manifest.evidenceContract.allowedSourceTypes)

/-- The checks of a shortcut before its plan is compiled. -/
def shortcutEligible (static : RecallBranchCollectionV1)
    (payload : ApprovedStaticShortcutPayloadV1) : Bool :=
  !(decide (payload.confidence < hitThreshold) ||
      decide ((matchingCandidates static.candidates payload).length ≠ 1) ||
      decide (static.rejectedCount ≠ 0) || !policy.internalCompanyKnowledgeEnabled ||
      decide (payload.selectedManifestRef ∉ policy.eligibleCapabilities)) &&
    manifestTakesApprovedStatic payload.selectedManifestRef

/-- The plan that answers with the payload, as the runtime asks for it. -/
def shortcutSource (payload : ApprovedStaticShortcutPayloadV1) :
    DeterministicPlanOriginInputV1 where
  userNeed := "answer approved static recall"
  units := [{
    unitId := "approved-static-recall"
    manifestId := payload.selectedManifestRef.manifestId
    answerabilityPolicy := .answer
    evidenceQuery := some payload.question }]
  complianceReasonCode := "compliant_product_request"

/-- The plan of a shortcut, if it is one that the policy accepts. -/
def shortcutPlan? (payload : ApprovedStaticShortcutPayloadV1) : Option ExecutionPlanV2 :=
  match finalizeExecutionPlanV2 policy authority planEncoding
      (.deterministic (shortcutSource payload)) .approvedStaticShortcut with
  | .error _ => none
  | .ok plan => if validateExecutionPlanV2 plan policy = [] then some plan else none

/-- `_shortcut_transition`. -/
def shortcutTransition (static : RecallBranchCollectionV1)
    (payload : ApprovedStaticShortcutPayloadV1) :
    Except RecallException (Option PreplannerRecallTransitionV1) :=
  if shortcutEligible policy static payload then
    match shortcutPlan? planEncoding policy authority payload with
    | none => .ok none
    | some plan => do
      let summary ← payload.summary.create
      let approved ← RecallBranchOutcomeV1.create .approvedStatic .ok 1 0 .ok
      let documents ← RecallBranchOutcomeV1.create .documentMcp .notCalled 0 0 .notNeeded
      let outcome ← makeRecallOutcome encoding .shortcut .shortcutMatch
        (matchingCandidates static.candidates payload) (approved, documents) (some summary)
      let turnState ← RecallTurnStateV1.create outcome (some payload)
      return some ⟨turnState, some plan⟩
  else .ok none

/-- The shortcut, where the mode and the payload allow one. -/
def attemptShortcut (mode : RecallModeV1) (static : RecallBranchCollectionV1)
    (shortcutPayload : Option ApprovedStaticShortcutPayloadV1) :
    Except RecallException (Option PreplannerRecallTransitionV1) :=
  match shortcutPayload with
  | some payload =>
    if mode = .shortcut then
      shortcutTransition encoding planEncoding policy authority static payload
    else .ok none
  | none => .ok none

/-! ## The flow -/

/-- `disabled_recall_transition`. -/
def disabledRecallTransition : Except RecallException PreplannerRecallTransitionV1 := do
  let approved ← RecallBranchOutcomeV1.create .approvedStatic .notCalled 0 0 .disabled
  let documents ← RecallBranchOutcomeV1.create .documentMcp .notCalled 0 0 .disabled
  let outcome ← makeRecallOutcome encoding .off .disabled [] (approved, documents)
  let turnState ← RecallTurnStateV1.create outcome none
  return ⟨turnState, none⟩

/-- The decision about candidates that are advice. -/
def advisoryDecision (candidates : List RecallCandidateViewV1)
    (branches : RecallBranchOutcomeV1 × RecallBranchOutcomeV1) : RecallDecisionV1 :=
  if candidates ≠ [] then .advisoryCandidates
  else if branches.1.status ∈ [.invalid, .unavailable] ∨
      branches.2.status ∈ [.invalid, .unavailable] then .unavailable
  else .noMatch

/-- The end of `collect_preplanner_recall`: the candidates of both branches are advice. -/
def advisoryTransition (mode : RecallModeV1) (static document : RecallBranchCollectionV1) :
    Except RecallException PreplannerRecallTransitionV1 := do
  let approved ← static.outcome
  let documents ← document.outcome
  let candidates := mergeRecallCandidates static.candidates document.candidates
  let outcome ← makeRecallOutcome encoding mode
    (advisoryDecision candidates (approved, documents)) candidates (approved, documents)
  let turnState ← RecallTurnStateV1.create outcome none
  return ⟨turnState, none⟩

/-- `collect_preplanner_recall`; the policy's `recall_mode` is an argument of its own. -/
def collectPreplannerRecall (mode : RecallModeV1) :
    Program RecallCall RecallCall.Answer RecallException PreplannerRecallTransitionV1 :=
  if mode = .off then .ofExcept (disabledRecallTransition encoding)
  else do
    let answer ← .perform RecallCall.approvedStatic
    let (static, payload) ← .ofExcept (collectStatic encoding answer)
    let shortcut ← .ofExcept
      (attemptShortcut encoding planEncoding policy authority mode static payload)
    match shortcut with
    | some transition => return transition
    | none =>
      let answer ← .perform RecallCall.document
      let document ← .ofExcept (collectDocument encoding digest answer)
      .ofExcept (advisoryTransition encoding mode static document)

end MarketSupport.Recall
