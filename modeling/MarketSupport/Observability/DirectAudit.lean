import MarketSupport.Library.Base64
import MarketSupport.Prompts.ProgramModels
import MarketSupport.Rendering.ResponseIds

/-!
# Keyed digests of direct turns

A direct conversation leaves no readable text in its audit, only digests under a configured key.
The key is given in URL-safe base 64 without padding. A digest covers its purpose, the
conversation and the content, joined by NUL bytes.
-/

namespace MarketSupport

open Library

/-! ## Keys -/

/-- The URL-safe digits. -/
def urlsafeDigit (v : ℕ) : Char :=
  "ABCDEFGHIJKLMNOPQRSTUVWXYZabcdefghijklmnopqrstuvwxyz0123456789-_".toList.getD v 'A'

/-- The reader of `urlsafe_b64decode` also takes the standard digits. -/
def urlsafeValue (c : Char) : Option ℕ :=
  if 65 ≤ c.toNat ∧ c.toNat ≤ 90 then some (c.toNat - 65)
  else if 97 ≤ c.toNat ∧ c.toNat ≤ 122 then some (c.toNat - 97 + 26)
  else if 48 ≤ c.toNat ∧ c.toNat ≤ 57 then some (c.toNat - 48 + 52)
  else if c = '-' ∨ c = '+' then some 62
  else if c = '_' ∨ c = '/' then some 63
  else none

theorem urlsafeValue_urlsafeDigit : ∀ v < 64, urlsafeValue (urlsafeDigit v) = some v := by
  decide +kernel

theorem urlsafeDigit_ne_pad : ∀ v < 64, urlsafeDigit v ≠ '=' := by
  decide +kernel

def urlsafeAlphabet : Alphabet64 where
  digit := urlsafeDigit
  value := urlsafeValue
  pad := '='
  value_digit := urlsafeValue_urlsafeDigit
  digit_ne_pad := urlsafeDigit_ne_pad

/-- `base64.urlsafe_b64encode`. -/
def urlsafeB64encode (bytes : Bytes) : List Char :=
  urlsafeAlphabet.encode bytes ++
    List.replicate (Alphabet64.padding (urlsafeAlphabet.encode bytes).length) '='

/-- `base64.urlsafe_b64decode`. -/
def urlsafeB64decode (text : List Char) : Option Bytes := urlsafeAlphabet.scan 0 0 0 text

/-- `decode_direct_audit_hmac_key`. -/
def decodeDirectAuditHmacKey (encodedKey : String) : Except CoordinatorException Bytes :=
  if encodedKey = "" ∨ strip encodedKey ≠ encodedKey ∨ '=' ∈ encodedKey.toList then
    .error (.valueError "direct_audit_hmac_key_invalid")
  else if encodedKey.toList.any fun c => 128 ≤ c.toNat then
    .error (.valueError "direct_audit_hmac_key_invalid")
  else match urlsafeB64decode (encodedKey.toList ++
      List.replicate (Alphabet64.padding encodedKey.toList.length) '=') with
    | none => .error (.valueError "direct_audit_hmac_key_invalid")
    | some decoded =>
      if ¬(32 ≤ decoded.length ∧ decoded.length ≤ 64) then
        .error (.valueError "direct_audit_hmac_key_invalid")
      else if (urlsafeB64encode decoded).rdropWhile (· == '=') ≠ encodedKey.toList then
        .error (.valueError "direct_audit_hmac_key_invalid")
      else .ok decoded

/-! ## Digests -/

/-- The literal of a purpose. -/
def DirectAuditPurposeV1.text : DirectAuditPurposeV1 → String
  | .message => "message"
  | .requestId => "request_id"
  | .request => "request"
  | .reply => "reply"
  | .evidence => "evidence"
  | .directive => "directive"
  | .plan => "plan"
  | .plannerInput => "planner_input"
  | .plannerOutput => "planner_output"
  | .composerInput => "composer_input"
  | .composerOutput => "composer_output"
  | .verifierInput => "verifier_input"
  | .verifierOutput => "verifier_output"
  | .approvedSelectorInput => "approved_selector_input"
  | .approvedSelectorOutput => "approved_selector_output"
  | .documentSelectorInput => "document_selector_input"
  | .documentSelectorOutput => "document_selector_output"

/-- The bytes that a direct digest covers. -/
def directAuditMessage (purpose : DirectAuditPurposeV1) (stateKey : ConversationStateKey)
    (payload : Bytes) : Bytes :=
  List.intercalate [0] [utf8Bytes "direct-audit.v1", utf8Bytes purpose.text,
    canonicalJsonBytes (canonicalStateKeyPayload stateKey), payload]

/-- `direct_audit_digest` of a text; `hmac` is the tagged HMAC-SHA-256. -/
def directAuditDigest (hmac : Bytes → Bytes → Digest "dah1") (key : Bytes)
    (purpose : DirectAuditPurposeV1) (stateKey : ConversationStateKey) (content : String) :
    Digest "dah1" :=
  hmac key (directAuditMessage purpose stateKey (utf8Bytes content))

end MarketSupport
