import MarketSupport.Planning.DirectSend

/-!
# The input policy

A message that a rule of the input policy matches is handed to a person, without the planner.
-/

namespace MarketSupport

/-- The fields of a rule that decide whether it matches, and its plan. -/
structure InputPolicyRule where
  ruleId : String
  reasonCode : String
  contains : List String
  userNeed : String
  deriving DecidableEq, Repr

/-- `DEFAULT_INPUT_POLICY_RULES`. -/
def defaultInputPolicyRules : List InputPolicyRule :=
  [⟨"t0_handoff", "t0_human_support_required", ["t0"], "T0 request requires human support"⟩]

inductive InputPolicyStatus where
  | noMatch
  | guardrailHandoff
  deriving DecidableEq, Repr

structure InputPolicyResult where
  status : InputPolicyStatus
  plan : Option ExecutionPlanV2 := none
  reasonCode : String := ""
  ruleId : String := ""
  deriving DecidableEq, Repr

variable (text : TextFunctions) (encoding : PlanEncoding) (request : KernelReplyRequestV1)
  (policy : PolicyManifestV2) (authority : BusinessScopeAuthorityV1)

/-- `_compact_policy_text`. -/
def compactPolicyText (value : String) : List Char := (text.lower value).toList.filter (· ≠ '+')

/-- `_rule_matches`. -/
def ruleMatches (rule : InputPolicyRule) (normalized : String) : Bool :=
  rule.contains.any fun trigger =>
    compactPolicyText text trigger <:+: compactPolicyText text normalized

/-- Whether the policy has all that a handoff to sales needs. -/
def hasSalesHandoff : Bool :=
  .salesHandoff ∈ policy.eligibleCapabilities.map (·.manifestId) ∧
    .salesMention ∈ policy.allowedAdapterResolves ∧ .sales ∈ policy.allowedMentionTypes

/-- The capability of the handoff. -/
def handoffManifest : CapabilityManifestIdV2 :=
  if policy.scene = .direct then .generalHandoff
  else if hasSalesHandoff policy then .salesHandoff
  else .generalAbstention

/-- The unit of the handoff. -/
def handoffUnit (rule : InputPolicyRule) : DeterministicPlanUnitV1 where
  unitId := "input-policy-" ++ rule.ruleId
  manifestId := handoffManifest policy
  answerabilityPolicy :=
    if handoffManifest policy ≠ .generalAbstention then .handoff else .abstain

/-- `_handoff_result`. -/
def handoffResult (rule : InputPolicyRule) : Except PlanningException InputPolicyResult := do
  let plan ← finalizeExecutionPlanV2 policy authority encoding
    (.deterministic ⟨rule.userNeed, [handoffUnit policy rule], "customer_service_request"⟩)
    .inputPolicy
  return {
    status := .guardrailHandoff
    plan := some plan
    reasonCode := rule.reasonCode
    ruleId := rule.ruleId }

def matchInputPolicy (rules : List InputPolicyRule := defaultInputPolicyRules) :
    Except PlanningException InputPolicyResult :=
  let normalized := normalizeCompactMessage text request.message
  if normalized = "" then .ok { status := .noMatch, reasonCode := "empty_message" }
  else match rules.find? fun rule => ruleMatches text rule normalized with
    | none => .ok { status := .noMatch, reasonCode := "no_match" }
    | some rule => handoffResult encoding policy authority rule

/-- No match, or a plan that the validator accepts. -/
def InputPolicyResult.Accepted (policy : PolicyManifestV2) (result : InputPolicyResult) : Prop :=
  result.status = .noMatch ∧ result.plan = none ∨
    ∃ plan, result.plan = some plan ∧ validateExecutionPlanV2 plan policy = []

end MarketSupport
