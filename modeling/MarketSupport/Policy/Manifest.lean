import MarketSupport.Identity.StateKey
import MarketSupport.Planning.Models
import MarketSupport.Schemas.Reply

/-!
# Policies

The policy that a turn was compiled against, and the check of a plan against it.
-/

namespace MarketSupport

inductive ReadCapability where
  | resolveMaterialPack
  | resolveWeeklyReport
  | resolveMonthlyReport
  | resolveSalesMention
  | queryInternalCompanyInfo
  | queryWeeklyReportProductList
  | queryMonthlyReportProductList
  deriving DecidableEq, Repr

/-- The fields of `PolicyManifestV2` that planning, evidence and rendering read. -/
structure PolicyManifestV2 where
  policyId : String
  scene : Scene
  allowedReplyModes : List ResponseMode
  eligibleCapabilities : List ManifestRefV1
  allowedReadCapabilities : List ReadCapability
  allowedOutboundActions : List OutboundActionType
  allowedMentionTypes : List ReplyMentionType
  allowedAdapterResolves : List AdapterResolveType
  internalCompanyKnowledgeEnabled : Bool
  actionsAllowed : Bool
  mentionsAllowed : Bool
  materialPackOptions : List String
  businessScopeHash : String
  deriving DecidableEq, Repr

inductive PlanValidationCode where
  | responseModeNotAllowed
  | capabilityNotAllowed
  | adapterResolveNotAllowed
  | actionNotAllowed
  deriving DecidableEq, Repr

/-- The issues of one unit, in the order of the source. -/
def unitIssues (policy : PolicyManifestV2) (unit : ExecutionPlanUnitV2) : List PlanValidationCode :=
  (if unit.manifestRef ∈ policy.eligibleCapabilities then [] else [.capabilityNotAllowed]) ++
    (unit.adapterResolves.filter (·.resolveType ∉ policy.allowedAdapterResolves)).map
      (fun _ => .adapterResolveNotAllowed) ++
    (unit.actionIntents.filter (·.actionType ∉ policy.allowedOutboundActions)).map
      (fun _ => .actionNotAllowed)

/-- `validate_execution_plan_v2`; a plan is valid when there are no issues. -/
def validateExecutionPlanV2 (plan : ExecutionPlanV2) (policy : PolicyManifestV2) :
    List PlanValidationCode :=
  (if plan.responseMode ∈ policy.allowedReplyModes then [] else [.responseModeNotAllowed]) ++
    plan.units.flatMap (unitIssues policy)

/-- The units of a valid plan are within the policy. -/
theorem eligible_of_valid {plan : ExecutionPlanV2} {policy : PolicyManifestV2}
    (valid : validateExecutionPlanV2 plan policy = []) {unit : ExecutionPlanUnitV2}
    (hunit : unit ∈ plan.units) : unit.manifestRef ∈ policy.eligibleCapabilities := by
  have hissues : unitIssues policy unit = [] :=
    List.flatMap_eq_nil_iff.mp (List.append_eq_nil_iff.mp valid).2 unit hunit
  by_contra hnot
  simp [unitIssues, hnot] at hissues

end MarketSupport
