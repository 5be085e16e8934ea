import Mathlib.Data.String.Basic
import MarketSupport.Policy.Capabilities

/-!
# Execution plans

The plan that a turn executes, and the checks of its constructor.
-/

namespace MarketSupport

/-! ## Type ids -/

inductive ChannelType where
  | bank
  | nonBank
  | unknown
  deriving DecidableEq, Repr

inductive AdapterResolveType where
  | materialPack
  | weeklyReport
  | monthlyReport
  | salesMention
  deriving DecidableEq, Repr

inductive CapabilityName where
  | materialPack
  | weeklyReport
  | monthlyReport
  | salesMention
  | documentContext
  deriving DecidableEq, Repr

inductive ArtifactKind where
  | materialPack
  | weeklyReport
  | monthlyReport
  | multiAction
  | knowledgeAnswer
  | humanSupport
  | refusal
  | unclear
  | smalltalk
  deriving DecidableEq, Repr

inductive ResponseMode where
  | action
  | clarification
  | handoff
  | refusal
  | unable
  | knowledgeAnswer
  | smalltalk
  | noReply
  deriving DecidableEq, Repr

inductive ExecutionPlanOriginV1 where
  | planner
  | inputPolicy
  | directSend
  | approvedStaticShortcut
  | deterministic
  | remediation
  deriving DecidableEq, Repr

inductive AnswerabilityPolicy where
  | answer
  | send
  | clarify
  | abstain
  | refuse
  | handoff
  | smalltalk
  | noReply
  deriving DecidableEq, Repr

inductive OutboundActionType where
  | sendMaterialPack
  | sendWeeklyReport
  | sendMonthlyReport
  deriving DecidableEq, Repr

/-! ## Plans -/

/-- Of an `ExecutionPlanTimeRangeV1` only the period is read. -/
structure ExecutionPlanTimeRangeV1 where
  period : Option String
  deriving DecidableEq, Repr

structure DistributionExecutionDomainScopeV2 where
  businessScopeRef : String
  channelKind : ChannelType
  materialPackOption : Option String
  productIds : List String
  timeRange : Option ExecutionPlanTimeRangeV1
  deriving DecidableEq, Repr

inductive ExecutionDomainScopeV2 where
  | distribution (scope : DistributionExecutionDomainScopeV2)
  | unscoped
  deriving DecidableEq, Repr

structure CanonicalAdapterResolveV1 where
  resolveType : AdapterResolveType
  materialPackOption : Option String
  artifactId : Option String
  deriving DecidableEq, Repr

structure CanonicalActionIntentV1 where
  actionType : OutboundActionType
  capability : CapabilityName
  materialPackOption : Option String
  deriving DecidableEq, Repr

structure ExecutionPlanUnitV2 where
  unitId : String
  manifestRef : ManifestRefV1
  answerabilityPolicy : AnswerabilityPolicy
  artifactKind : ArtifactKind
  runtimeCapabilities : List CapabilityName
  answerCapabilities : List CapabilityName
  adapterResolves : List CanonicalAdapterResolveV1
  actionIntents : List CanonicalActionIntentV1
  scope : ExecutionDomainScopeV2
  evidenceQuery : Option String
  ambiguitySlots : List String
  deriving DecidableEq, Repr

/-- `ExecutionPlanV2`; of the plan spec only its presence is read. -/
structure ExecutionPlanV2 where
  executionPlanId : String
  origin : ExecutionPlanOriginV1
  userNeed : String
  responseMode : ResponseMode
  complianceReasonCode : String
  units : List ExecutionPlanUnitV2
  selectedManifestRefs : List ManifestRefV1
  adapterResolves : List CanonicalAdapterResolveV1
  actionIntents : List CanonicalActionIntentV1
  hasPlanSpec : Bool
  deriving DecidableEq, Repr

/-- How the payload of a plan's id is hashed and the plan of a candidate is serialised. -/
structure PlanEncoding where
  planHash : ExecutionPlanV2 → String
  planBytes : ExecutionPlanV2 → List ℕ

/-- What of a plan is hashed: the id and the plan spec are left out. -/
def ExecutionPlanV2.hashPayload (plan : ExecutionPlanV2) : ExecutionPlanV2 :=
  { plan with executionPlanId := "", hasPlanSpec := false }

def PlanEncoding.executionPlanIdV2 (encoding : PlanEncoding) (plan : ExecutionPlanV2) : String :=
  encoding.planHash plan.hashPayload

/-! ## The constructor of a plan -/

/-- `_selected_manifest_refs`: the first reference to every manifest. -/
def selectedRefsV2 (units : List ExecutionPlanUnitV2) : List ManifestRefV1 :=
  units.foldl (fun refs unit =>
    if unit.manifestRef.manifestId ∈ refs.map (·.manifestId) then refs
    else refs ++ [unit.manifestRef]) []

/-- `_unique_resolves`, of all units. -/
def unitResolvesV2 (units : List ExecutionPlanUnitV2) : List CanonicalAdapterResolveV1 :=
  (units.flatMap (·.adapterResolves)).foldl (fun resolves resolve =>
    if resolve ∈ resolves then resolves else resolves ++ [resolve]) []

/-- What the constructor of `ExecutionPlanV2` checks. -/
structure ExecutionPlanV2.Checked (encoding : PlanEncoding) (plan : ExecutionPlanV2) : Prop where
  userNeed : 1 ≤ plan.userNeed.length ∧ plan.userNeed.length ≤ 500
  units : 1 ≤ plan.units.length ∧ plan.units.length ≤ 4
  nodup : (plan.units.map (·.unitId)).Nodup
  selectedManifestRefs : plan.selectedManifestRefs = selectedRefsV2 plan.units
  adapterResolves : plan.adapterResolves = unitResolvesV2 plan.units
  adapterResolves_bound : plan.adapterResolves.length ≤ 8
  actionIntents : plan.actionIntents = plan.units.flatMap (·.actionIntents)
  actionIntents_bound : plan.actionIntents.length ≤ 3
  planSpec : plan.hasPlanSpec = true ↔ plan.origin = .planner
  executionPlanId : plan.executionPlanId = encoding.executionPlanIdV2 plan

end MarketSupport
