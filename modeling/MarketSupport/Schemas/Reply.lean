import Mathlib.Data.String.Basic

/-!
# Reply schema

The response that a turn produces: one primary reply with its mentions, and the outbound
actions that the adapter may execute.
-/

namespace MarketSupport

inductive ReplyKind where
  | answer
  | clarification
  | humanHandoff
  | unableToAnswer
  | noReply
  deriving DecidableEq, Repr

inductive ReplyMentionType where
  | sales
  deriving DecidableEq, Repr

inductive ActionExecutionStatus where
  | executed
  | failed
  | skipped
  deriving DecidableEq, Repr

inductive ActionExecutionType where
  | sendMaterialPack
  | sendWeeklyReport
  | sendMonthlyReport
  | mentionSales
  | sendText
  deriving DecidableEq, Repr

/-- The types that name an outbound action. -/
def ActionExecutionType.isSend : ActionExecutionType → Bool
  | .sendMaterialPack | .sendWeeklyReport | .sendMonthlyReport => true
  | .mentionSales | .sendText => false

structure ReplyMention where
  type : ReplyMentionType
  reason : Option String
  deriving DecidableEq, Repr

structure PrimaryReply where
  kind : ReplyKind
  text : String
  mentions : List ReplyMention
  deriving DecidableEq, Repr

/-- `OutboundAction`; the `resolve_type` of an action is fixed by its type. -/
inductive OutboundAction where
  | sendMaterialPack (actionId resolveRef : String) (materialPackOption : Option String)
  | sendWeeklyReport (actionId resolveRef period reportDate : String)
  | sendMonthlyReport (actionId resolveRef period reportDate : String)
  deriving DecidableEq, Repr

namespace OutboundAction

def actionId : OutboundAction → String
  | sendMaterialPack a _ _ | sendWeeklyReport a _ _ _ | sendMonthlyReport a _ _ _ => a

def resolveRef : OutboundAction → String
  | sendMaterialPack _ r _ | sendWeeklyReport _ r _ _ | sendMonthlyReport _ r _ _ => r

def type : OutboundAction → ActionExecutionType
  | sendMaterialPack .. => .sendMaterialPack
  | sendWeeklyReport .. => .sendWeeklyReport
  | sendMonthlyReport .. => .sendMonthlyReport

/-- `getattr(action, "material_pack_option", None)`. -/
def materialPackOption : OutboundAction → Option String
  | sendMaterialPack _ _ o => o
  | _ => none

/-- `getattr(action, "period", None)`. -/
def period : OutboundAction → Option String
  | sendMaterialPack .. => none
  | sendWeeklyReport _ _ p _ | sendMonthlyReport _ _ p _ => some p

/-- `getattr(action, "report_date", None)`. -/
def reportDate : OutboundAction → Option String
  | sendMaterialPack .. => none
  | sendWeeklyReport _ _ _ d | sendMonthlyReport _ _ _ d => some d

/-- `action.model_copy(update={"action_id": a})`. -/
def withActionId (a : String) : OutboundAction → OutboundAction
  | sendMaterialPack _ r o => sendMaterialPack a r o
  | sendWeeklyReport _ r p d => sendWeeklyReport a r p d
  | sendMonthlyReport _ r p d => sendMonthlyReport a r p d

@[simp] theorem actionId_withActionId (a : String) (x : OutboundAction) :
    (x.withActionId a).actionId = a := by cases x <;> rfl

@[simp] theorem type_withActionId (a : String) (x : OutboundAction) :
    (x.withActionId a).type = x.type := by cases x <;> rfl

theorem isSend_type (x : OutboundAction) : x.type.isSend = true := by cases x <;> rfl

end OutboundAction

structure ReplyResponse where
  responseId : String
  reply : PrimaryReply
  actions : List OutboundAction
  deriving DecidableEq, Repr

/-! ## Server-issued identifiers -/

def isLowerHex (c : Char) : Bool := ('0' ≤ c ∧ c ≤ '9') ∨ ('a' ≤ c ∧ c ≤ 'f')

/-- `uuid4().hex`: thirty-two lowercase hexadecimal digits. -/
structure UuidHex where
  hex : String
  digits : hex.toList.length = 32 ∧ hex.toList.all isLowerHex = true

theorem UuidHex.zeros : "00000000000000000000000000000000".toList.length = 32 ∧
    "00000000000000000000000000000000".toList.all isLowerHex = true := by decide +kernel

/-- A full match of `resp-[0-9a-f]{32}`. -/
def isServerResponseId (s : String) : Bool :=
  match s.toList with
  | 'r' :: 'e' :: 's' :: 'p' :: '-' :: rest => rest.length == 32 && rest.all isLowerHex
  | _ => false

end MarketSupport
