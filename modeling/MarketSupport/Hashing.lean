import Mathlib.Data.List.Sort
import MarketSupport.Schemas.Feedback

/-!
# Hash frames

Content hashes are SHA-256 digests of a domain tag, a zero byte and canonical JSON. The
digest itself is a parameter; the frames are those of the source.
-/

namespace MarketSupport

/-- The hexadecimal SHA-256 digest. -/
abbrev Sha256 := Bytes → String

/-! ## Canonical JSON with `ensure_ascii=False` -/

def escapeControl (c : Char) : List Char :=
  if c.toNat < 32 ∨ c = '"' ∨ c = '\\' then escapeChar c else [c]

def jsonText (s : String) : List Char := '"' :: s.toList.flatMap escapeControl ++ ['"']

def joinMembers (members : List (String × List Char)) : List Char :=
  '{' :: List.intercalate [','] ((members.insertionSort (fun a b => a.1 ≤ b.1)).map
    (fun m => jsonText m.1 ++ ':' :: m.2)) ++ ['}']

mutual

/-- `json.dumps(value, sort_keys=True, separators=(",", ":"), ensure_ascii=False)`. -/
def JsonValue.dumps : JsonValue → List Char
  | .null => "null".toList
  | .bool true => "true".toList
  | .bool false => "false".toList
  | .number literal => literal.toList
  | .string text => jsonText text
  | .array items => '[' :: List.intercalate [','] (dumpsItems items) ++ [']']
  | .object members => joinMembers (dumpsMembers members)

def dumpsItems : List JsonValue → List (List Char)
  | [] => []
  | x :: xs => x.dumps :: dumpsItems xs

def dumpsMembers : List (String × JsonValue) → List (String × List Char)
  | [] => []
  | (name, x) :: xs => (name, x.dumps) :: dumpsMembers xs

end

/-- `canonical_json_bytes` of `hashing.py`. -/
def JsonValue.canonicalBytes (value : JsonValue) : Bytes := utf8Bytes (String.ofList value.dumps)

def JsonValue.optional : Option String → JsonValue
  | none => .null
  | some s => .string s

/-! ## Payloads -/

def ActionExecutionType.text : ActionExecutionType → String
  | .sendMaterialPack => "send_material_pack"
  | .sendWeeklyReport => "send_weekly_report"
  | .sendMonthlyReport => "send_monthly_report"
  | .mentionSales => "mention_sales"
  | .sendText => "send_text"

def ActionExecutionStatus.text : ActionExecutionStatus → String
  | .executed => "executed"
  | .failed => "failed"
  | .skipped => "skipped"

def ActionFeedbackArtifact.payload : ActionFeedbackArtifact → JsonValue
  | .materialPack r a o => .object [("resolve_ref", .optional r), ("artifact_ref", .optional a),
      ("type", .string "material_pack"), ("option", .optional o)]
  | .weeklyReport r a p d => .object [("resolve_ref", .optional r), ("artifact_ref", .optional a),
      ("type", .string "weekly_report"), ("period", .optional p), ("report_date", .optional d)]
  | .monthlyReport r a p d => .object [("resolve_ref", .optional r), ("artifact_ref", .optional a),
      ("type", .string "monthly_report"), ("period", .optional p), ("report_date", .optional d)]

def ActionExecutionFeedbackV2.payload (e : ActionExecutionFeedbackV2) : JsonValue :=
  .object [("action_type", .string e.actionType.text), ("status", .string e.status.text),
    ("action_id", .optional e.actionId),
    ("artifact", (e.artifact.map (·.payload)).getD .null),
    ("adapter_result", .object e.adapterResult)]

def ConversationIdentityV1.payload (i : ConversationIdentityV1) : JsonValue :=
  .object [("contract_version", .string "conversation-identity.v1"), ("surface", .string "wecom"),
    ("scene", .string i.scene.text), ("tenant_ref", .string i.tenantRef),
    (match i.scene with | .group => "group_ref" | .direct => "direct_thread_ref",
      .string i.subjectRef),
    ("principal_ref", .string i.principalRef)]

/-- `feedback.model_dump(mode="json")`. -/
def ActionFeedbackRequestV2.payload (f : ActionFeedbackRequestV2) : JsonValue :=
  .object [("contract_version", .string "action-feedback.v2"),
    ("feedback_id", .string f.feedbackId), ("request_id", .string f.requestId),
    ("response_id", .string f.responseId), ("identity", f.identity.payload),
    ("executions", .array (f.executions.map (·.payload)))]

/-! ## Digests -/

variable (sha256 : Sha256)

/-- `tag`, a zero byte and the bytes, digested. -/
def hashFrame (label domainTag : String) (bytes : Bytes) : String :=
  label ++ ":" ++ sha256 (utf8Bytes domainTag ++ 0 :: bytes)

def stateKeyRef (key : ConversationStateKey) : String :=
  hashFrame sha256 "csk1" "conversation-state-key.v1"
    (canonicalJsonBytes (canonicalStateKeyPayload key))

def feedbackHash (feedback : ActionFeedbackRequestV2) : String :=
  hashFrame sha256 "fbh1" "action-feedback.v2" feedback.payload.canonicalBytes

/-- What a clarification is referred to by: its conversation, its ordinal and its question. -/
def clarificationPayload (key : ConversationStateKey) (ordinal : ℕ) (proposal : String) :
    JsonValue :=
  .object [("state_key_ref", .string (stateKeyRef sha256 key)),
    ("ordinal", .number (toString ordinal)), ("proposal", .string proposal)]

def clarificationRefHash (key : ConversationStateKey) (ordinal : ℕ) (proposal : String) : String :=
  hashFrame sha256 "clr1" "clarification-record.v1"
    (clarificationPayload sha256 key ordinal proposal).canonicalBytes

def feedbackReceiptId (key : ConversationStateKey) (feedbackId feedbackDigest responseId : String)
    (recordRevision : ℕ) : String :=
  hashFrame sha256 "fbr1" "feedback-receipt.v1" (JsonValue.object [
    ("state_key_ref", .string (stateKeyRef sha256 key)), ("feedback_id", .string feedbackId),
    ("feedback_hash", .string feedbackDigest), ("response_id", .string responseId),
    ("record_revision", .number (toString recordRevision))]).canonicalBytes

end MarketSupport
