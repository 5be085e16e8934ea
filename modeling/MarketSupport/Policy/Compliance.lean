import Mathlib.Data.List.Basic

/-!
# Compliance reasons

The text with which a request is refused, by the reason of the refusal.
-/

namespace MarketSupport

/-- The codes and the refusal texts of `COMPLIANCE_REASON_SPECS`. -/
def complianceReasonSpecs : List (String × String) :=
  [("compliant_product_request", ""),
    ("customer_service_request", ""),
    ("expected_or_target_return",
      "您好，我司产品不设置预计收益、目标收益或最低收益。过往业绩仅供参考，产品仅适合风险等级匹配的私募合格投资者。"),
    ("principal_or_risk_guarantee",
      "您好，我司产品不承诺保本、最低收益或无风险。过往业绩仅供参考，产品仅适合风险等级匹配的私募合格投资者。"),
    ("peer_or_competitor_comparison", "这个问题涉及同行评价，我不做横向评论。"),
    ("private_contact_request",
      "老师请问具体是什么产品需求？业务问题请在当前群内沟通，便于留痕和统一回复。"),
    ("contract_or_restricted_document", "因合规要求，合同及受限文件我无法直接提供。"),
    ("restricted_internal_document",
      "因合规要求，四级估值表、业绩归因报告等内部敏感材料我无法直接提供。"),
    ("fee_waiver_request", "赎回费等费用安排需严格按照基金合同及相关文件执行，不能临时减免。"),
    ("qualified_investor_or_threshold",
      "因合规要求，未确认适当性或不符合相应参与门槛时，我无法直接发送产品材料或进行产品推介。"),
    ("unrelated_request", "这个问题与示例产品或服务无关，我先不回答。"),
    ("unknown", "这个问题我无法按当前合规要求回答。")]

/-- `_REASON_SPEC_BY_CODE["unknown"].refusal_text`. -/
def unknownRefusalText : String := "这个问题我无法按当前合规要求回答。"

/-- `refusal_text_for_reason`. -/
def refusalTextForReason (reasonCode : String) : String :=
  match complianceReasonSpecs.find? (·.1 = reasonCode) with
  | none | some (_, "") => unknownRefusalText
  | some (_, refusalText) => refusalText

theorem percent_not_mem {cs : List Char} (h : cs.all (· != '%') = true) :
    '%' ∉ (String.ofList cs).toList := by
  rw [String.toList_ofList]
  intro hmem
  simpa using List.all_eq_true.mp h _ hmem

set_option maxRecDepth 2000 in
/-- No refusal shows the character that image markers begin with. -/
theorem percent_not_mem_refusalTextForReason (reasonCode : String) :
    '%' ∉ (refusalTextForReason reasonCode).toList := by
  have hunknown : '%' ∉ unknownRefusalText.toList := percent_not_mem rfl
  have hspecs : ∀ spec ∈ complianceReasonSpecs, '%' ∉ spec.2.toList := by
    intro spec hspec
    simp only [complianceReasonSpecs, List.mem_cons, List.not_mem_nil, or_false] at hspec
    rcases hspec with rfl | rfl | rfl | rfl | rfl | rfl | rfl | rfl | rfl | rfl | rfl | rfl <;>
      exact percent_not_mem rfl
  unfold refusalTextForReason
  split
  · exact hunknown
  · exact hunknown
  · rename_i hfound
    exact hspecs _ (List.mem_of_find?_eq_some hfound)

end MarketSupport
