import MarketSupport.Planning.Models

/-!
# Plan specs

What the planner returns: the fields of `PlanSpec` that the compiler reads.
-/

namespace MarketSupport

structure DistributionPlanDomainScopeV2 where
  businessScopeRef : String
  channelKind : ChannelType
  materialPackOption : Option String
  productIds : List String
  deriving DecidableEq, Repr

inductive PlanDomainScopeV2 where
  | distribution (scope : DistributionPlanDomainScopeV2)
  | unscoped
  deriving DecidableEq, Repr

structure PlanStep where
  evidenceQuery : Option String
  deriving DecidableEq, Repr

structure PlanUnit where
  unitId : String
  selectedCapabilityId : String
  domainScope : PlanDomainScopeV2
  answerabilityPolicy : AnswerabilityPolicy
  steps : List PlanStep
  abstentionCases : List String
  riskFlags : List String
  deriving DecidableEq, Repr

structure PlanSpec where
  userIntentSummary : String
  planUnits : List PlanUnit
  riskFlags : List String
  deriving DecidableEq, Repr

end MarketSupport
