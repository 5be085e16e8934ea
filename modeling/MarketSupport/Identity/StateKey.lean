import Mathlib.Algebra.GroupWithZero.Nat
import Mathlib.Data.Prod.Lex
import Mathlib.Data.String.Basic
import Mathlib.Order.Fin.Basic
import Mathlib.Data.List.Lex

/-!
# Conversation state keys

The identity under which all conversation state is kept, its canonical JSON bytes, and
the tuple keys of the coordinator's maps.

`FrozenMapV1` iterates in the order of `repr`. For the identifiers that the schemas admit
(letters, digits and `._:~-`, all above the closing quote) this is the field-by-field
order used here.
-/

namespace MarketSupport

abbrev Bytes := List (Fin 256)

/-- Byte literals. -/
instance byteNeZero : NeZero 256 := ⟨by decide⟩

inductive Surface where
  | wecom
  deriving DecidableEq, Repr

inductive Scene where
  | group
  | direct
  deriving DecidableEq, Repr

def Surface.text : Surface → String
  | .wecom => "wecom"

def Scene.text : Scene → String
  | .group => "group"
  | .direct => "direct"

theorem Scene.text_injective : Function.Injective Scene.text := by
  intro a b h
  cases a <;> cases b <;> simp_all [Scene.text]

structure ConversationStateKey where
  surface : Surface
  adapterNamespace : String
  tenantRef : String
  scene : Scene
  subjectRef : String
  principalRef : String
  deriving Repr

namespace ConversationStateKey

/-- The fields in declaration order, compared lexicographically. -/
def orderKey (k : ConversationStateKey) : String ×ₗ String ×ₗ String ×ₗ String ×ₗ String :=
  toLex (k.adapterNamespace, toLex (k.tenantRef, toLex (k.scene.text,
    toLex (k.subjectRef, k.principalRef))))

theorem orderKey_injective : Function.Injective orderKey := by
  rintro ⟨⟨⟩, _, _, s, _, _⟩ ⟨⟨⟩, _, _, t, _, _⟩ h
  simp only [orderKey, toLex_inj, Prod.mk.injEq] at h
  obtain ⟨rfl, rfl, hs, rfl, rfl⟩ := h
  obtain rfl := Scene.text_injective hs
  rfl

instance : LinearOrder ConversationStateKey :=
  LinearOrder.lift' orderKey orderKey_injective

instance lawfulBEq : LawfulBEq ConversationStateKey := inferInstance

end ConversationStateKey

/-- The key `(state_key, id)` of a record owned by a conversation. -/
structure RecordKey where
  stateKey : ConversationStateKey
  ident : String
  deriving Repr

/-- The key `(state_key, response_id, action_id)` of a ledger row. -/
structure ActionKey where
  stateKey : ConversationStateKey
  responseId : String
  actionId : String
  deriving Repr

def RecordKey.orderKey (k : RecordKey) : ConversationStateKey ×ₗ String :=
  toLex (k.stateKey, k.ident)

def ActionKey.orderKey (k : ActionKey) : ConversationStateKey ×ₗ String ×ₗ String :=
  toLex (k.stateKey, toLex (k.responseId, k.actionId))

theorem RecordKey.orderKey_injective : Function.Injective RecordKey.orderKey := by
  rintro ⟨_, _⟩ ⟨_, _⟩ h
  simpa [RecordKey.orderKey] using h

theorem ActionKey.orderKey_injective : Function.Injective ActionKey.orderKey := by
  rintro ⟨_, _, _⟩ ⟨_, _, _⟩ h
  simpa [ActionKey.orderKey] using h

instance : LinearOrder RecordKey :=
  LinearOrder.lift' RecordKey.orderKey RecordKey.orderKey_injective

instance RecordKey.lawfulBEq : LawfulBEq RecordKey := inferInstance

instance : LinearOrder ActionKey :=
  LinearOrder.lift' ActionKey.orderKey ActionKey.orderKey_injective

/-! ## Canonical JSON -/

def hexDigit (n : ℕ) : Char := "0123456789abcdef".toList.getD n '0'

/-- `\uXXXX` for a 16-bit unit. -/
def unicodeEscape (n : ℕ) : List Char :=
  ['\\', 'u', hexDigit (n / 4096 % 16), hexDigit (n / 256 % 16), hexDigit (n / 16 % 16),
    hexDigit (n % 16)]

/-- `json.dumps` with `ensure_ascii`: a surrogate pair stands for an astral character. -/
def escapeChar (c : Char) : List Char :=
  if c = '"' then ['\\', '"']
  else if c = '\\' then ['\\', '\\']
  else if c = '\n' then ['\\', 'n']
  else if c = '\r' then ['\\', 'r']
  else if c = '\t' then ['\\', 't']
  else if c.toNat = 8 then ['\\', 'b']
  else if c.toNat = 12 then ['\\', 'f']
  else if 32 ≤ c.toNat ∧ c.toNat ≤ 126 then [c]
  else if c.toNat < 65536 then unicodeEscape c.toNat
  else unicodeEscape (0xd800 + (c.toNat - 65536) / 1024) ++
    unicodeEscape (0xdc00 + (c.toNat - 65536) % 1024)

def jsonString (s : String) : List Char := '"' :: s.toList.flatMap escapeChar ++ ['"']

/-- One `"name":value` member of an object. -/
def jsonMember (name : String) (value : List Char) : List Char := jsonString name ++ ':' :: value

/-- `canonical_state_key_payload` as JSON text, its names sorted. -/
def canonicalStateKeyPayload (k : ConversationStateKey) : List Char :=
  '{' :: List.intercalate [','] [
    jsonMember "adapter_namespace" (jsonString k.adapterNamespace),
    jsonMember "principal_ref" (jsonString k.principalRef),
    jsonMember "scene" (jsonString k.scene.text),
    jsonMember "subject_ref" (jsonString k.subjectRef),
    jsonMember "surface" (jsonString k.surface.text),
    jsonMember "tenant_ref" (jsonString k.tenantRef),
    jsonMember "version" ['1']] ++ ['}']

/-- The JSON text is ASCII, so encoding takes one byte a character. -/
def canonicalJsonBytes (text : List Char) : Bytes := text.map (fun c => Fin.ofNat 256 c.toNat)

def utf8Bytes (s : String) : Bytes := s.toUTF8.data.toList.map (·.toFin)

/-- `key_bytes`: canonical bytes of the state key, then the suffix. -/
def keyBytes (k : ConversationStateKey) (suffix : String) : Bytes :=
  canonicalJsonBytes (canonicalStateKeyPayload k) ++ utf8Bytes suffix

end MarketSupport
