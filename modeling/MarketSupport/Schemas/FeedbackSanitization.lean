import MarketSupport.Hashing
import MarketSupport.Library.Except

/-!
# Sanitisation of feedback payloads

`SanitizedAdapterResultV1` walks the `adapter_result` of an execution. It gives object keys a
canonical form, and refuses what is too deep, too large, or not to be stored.

A number is the text that `json.dumps` has for it.
-/

namespace MarketSupport

open Library

/-- What the sanitiser takes from its surroundings: the two steps of the key normalisation that
depend on the Unicode tables, and the secrets of the validation context. -/
structure SanitizerContext where
  nfc : String → String
  casefold : String → String
  configuredSecretValues : List String

variable (context : SanitizerContext)

/-- `_configured_secret_values`. -/
def SanitizerContext.configuredSecrets : List String :=
  context.configuredSecretValues.filter (· ≠ "")

/-! ## Texts -/

/-- `needle in text`. -/
def containsText (needle text : String) : Bool :=
  text.toList.tails.any (needle.toList.isPrefixOf ·)

/-- `reject_raw_locator_text`, as a test. -/
def isRawLocator (text : String) : Bool :=
  containsText "://" text || containsText "/" text || containsText "\\" text ||
    containsText "file:" text || "~".toList.isPrefixOf text.toList

/-- Some configured secret is part of the text. -/
def SanitizerContext.containsSecret (text : String) : Bool :=
  context.configuredSecrets.any (containsText · text)

/-- `_SANITIZED_ADAPTER_RESULT_DENIED_KEYS`. -/
def sanitizedAdapterResultDeniedKeys : List String :=
  ["authorization", "api_key", "apikey", "access_token", "token", "secret", "signature", "sig",
    "key", "cookie", "set_cookie", "url", "uri", "path", "file_path", "group_id", "sender_id",
    "tenant_ref", "principal_ref", "direct_thread_ref", "target_id", "receiver", "webhook",
    "resolve_ref"]

/-- The form that a key is stored in. -/
def SanitizerContext.canonicalKey (rawKey : String) : String :=
  String.ofList ((context.casefold (context.nfc rawKey)).toList.map fun c =>
    if c = '-' ∨ c = ' ' then '_' else c)

/-- `_canonical_adapter_result_key`. -/
def canonicalAdapterResultKey (rawKey : String) : Except String String :=
  let canonicalKey := context.canonicalKey rawKey
  if canonicalKey = "" ∨ canonicalKey ∈ sanitizedAdapterResultDeniedKeys then
    .error "adapter_result contains a forbidden key"
  else .ok canonicalKey

/-- The texts of the numbers that are not finite. -/
def isFiniteNumber (literal : String) : Bool := literal ∉ ["NaN", "Infinity", "-Infinity"]

def sanitizeText (text : String) : Except String JsonValue :=
  if 256 < text.length then .error "adapter_result string values must be at most 256 chars"
  else if context.containsSecret text then .error "adapter_result contains a configured secret"
  else if isRawLocator text then .error "adapter_result contains raw locator values"
  else .ok (.string text)

/-! ## Values -/

mutual

/-- `_sanitize_adapter_result_value`; its case of an object is `_sanitize_adapter_result_object`. -/
def sanitizeAdapterResultValue (depth : ℕ) : JsonValue → Except String JsonValue
  | .object members =>
    if 4 < depth ∨ 16 < members.length then
      .error "adapter_result exceeds object depth or key bounds"
    else do return .object (← sanitizeMembers (depth + 1) [] members)
  | .array items =>
    if 4 < depth ∨ 16 < items.length then
      .error "adapter_result exceeds array depth or item bounds"
    else do return .array (← sanitizeItems (depth + 1) items)
  | .string text => sanitizeText context text
  | .number literal =>
    if isFiniteNumber literal then .ok (.number literal)
    else .error "adapter_result numbers must be finite"
  | .bool value => .ok (.bool value)
  | .null => .ok .null

def sanitizeItems (depth : ℕ) : List JsonValue → Except String (List JsonValue)
  | [] => .ok []
  | item :: items => do
    let value ← sanitizeAdapterResultValue depth item
    return value :: (← sanitizeItems depth items)

/-- The loop over the items of an object; `normalized` are the keys stored so far. -/
def sanitizeMembers (depth : ℕ) (normalized : List String) :
    List (String × JsonValue) → Except String (List (String × JsonValue))
  | [] => .ok []
  | (rawKey, nested) :: members => do
    let canonicalKey ← canonicalAdapterResultKey context rawKey
    if canonicalKey ∈ normalized then
      .error "adapter_result contains duplicate normalized keys"
    else do
      let value ← sanitizeAdapterResultValue depth nested
      return (canonicalKey, value) :: (← sanitizeMembers depth (canonicalKey :: normalized) members)

end

/-- `SanitizedAdapterResultV1.validate_values`, after the bound of the model on the number of
keys. -/
def sanitizedAdapterResultV1 (values : List (String × JsonValue)) : Except String JsonValue :=
  if 16 < values.length then .error "too_long"
  else do
    let normalized ← sanitizeAdapterResultValue context 1 (.object values)
    if 4096 < normalized.canonicalBytes.length then
      .error "adapter_result canonical JSON exceeds 4096 bytes"
    else return normalized

/-! ## What is stored -/

/-- `sub` is part of a value, at a depth, when the value itself is at `depth`. -/
inductive JsonValue.Occurs : JsonValue → ℕ → ℕ → JsonValue → Prop
  | here {value : JsonValue} {depth : ℕ} : Occurs value depth depth value
  | item {items : List JsonValue} {value sub : JsonValue} {depth d : ℕ} :
      value ∈ items → Occurs value (depth + 1) d sub → Occurs (.array items) depth d sub
  | member {members : List (String × JsonValue)} {member : String × JsonValue} {sub : JsonValue}
      {depth d : ℕ} : member ∈ members → Occurs member.2 (depth + 1) d sub →
      Occurs (.object members) depth d sub

/-- What one value at a depth is stored as, up to the values inside it. -/
inductive StoredAs (depth : ℕ) : JsonValue → JsonValue → Prop
  | object {members stored : List (String × JsonValue)} : depth ≤ 4 → members.length ≤ 16 →
      stored.map (·.1) = members.map (context.canonicalKey ·.1) → (stored.map (·.1)).Nodup →
      StoredAs depth (.object members) (.object stored)
  | array {items stored : List JsonValue} : depth ≤ 4 → items.length ≤ 16 →
      stored.length = items.length → StoredAs depth (.array items) (.array stored)
  | string {text : String} : text.length ≤ 256 → context.containsSecret text = false →
      isRawLocator text = false → StoredAs depth (.string text) (.string text)
  | number {literal : String} : StoredAs depth (.number literal) (.number literal)
  | bool {value : Bool} : StoredAs depth (.bool value) (.bool value)
  | null : StoredAs depth .null .null

/-- Every part of either value has its counterpart in the other. -/
structure StoredTree (depth : ℕ) (value stored : JsonValue) : Prop where
  of_value : ∀ {d sub}, value.Occurs depth d sub →
    ∃ sub', stored.Occurs depth d sub' ∧ StoredAs context d sub sub'
  of_stored : ∀ {d sub'}, stored.Occurs depth d sub' →
    ∃ sub, value.Occurs depth d sub ∧ StoredAs context d sub sub'

variable {context} {depth : ℕ}

theorem StoredTree.array {items stored : List JsonValue} (hdepth : depth ≤ 4)
    (hlength : items.length ≤ 16) (h : List.Forall₂ (StoredTree context (depth + 1)) items stored) :
    StoredTree context depth (.array items) (.array stored) := by
  have hnode : StoredAs context depth (.array items) (.array stored) :=
    .array hdepth hlength h.length_eq.symm
  constructor
  · intro d sub hsub
    cases hsub with
    | here => exact ⟨_, .here, hnode⟩
    | item hmem hsub =>
      obtain ⟨value', hzip, htree⟩ := exists_mem_zip h hmem
      obtain ⟨sub', hsub', hstored⟩ := htree.of_value hsub
      exact ⟨sub', .item (List.of_mem_zip hzip).2 hsub', hstored⟩
  · intro d sub' hsub'
    cases hsub' with
    | here => exact ⟨_, .here, hnode⟩
    | item hmem hsub' =>
      obtain ⟨value, hzip, htree⟩ := exists_mem_zip h.flip hmem
      obtain ⟨sub, hsub, hstored⟩ := htree.of_stored hsub'
      exact ⟨sub, .item (List.of_mem_zip hzip).2 hsub, hstored⟩

theorem StoredTree.object {members stored : List (String × JsonValue)} (hdepth : depth ≤ 4)
    (hlength : members.length ≤ 16) (hnodup : (stored.map (·.1)).Nodup)
    (h : List.Forall₂ (fun member member' => member'.1 = context.canonicalKey member.1 ∧
      StoredTree context (depth + 1) member.2 member'.2) members stored) :
    StoredTree context depth (.object members) (.object stored) := by
  have hkeys : stored.map (·.1) = members.map (context.canonicalKey ·.1) :=
    List.forall₂_eq_eq_eq ▸ List.forall₂_map_left_iff.mpr (List.forall₂_map_right_iff.mpr
      (h.flip.imp fun _ _ hmember => hmember.1))
  have hnode : StoredAs context depth (.object members) (.object stored) :=
    .object hdepth hlength hkeys hnodup
  constructor
  · intro d sub hsub
    cases hsub with
    | here => exact ⟨_, .here, hnode⟩
    | member hmem hsub =>
      obtain ⟨member', hzip, _, htree⟩ := exists_mem_zip h hmem
      obtain ⟨sub', hsub', hstored⟩ := htree.of_value hsub
      exact ⟨sub', .member (List.of_mem_zip hzip).2 hsub', hstored⟩
  · intro d sub' hsub'
    cases hsub' with
    | here => exact ⟨_, .here, hnode⟩
    | member hmem hsub' =>
      obtain ⟨member, hzip, _, htree⟩ := exists_mem_zip h.flip hmem
      obtain ⟨sub, hsub, hstored⟩ := htree.of_stored hsub'
      exact ⟨sub, .member (List.of_mem_zip hzip).2 hsub, hstored⟩

theorem canonicalAdapterResultKey_eq_ok {rawKey key : String}
    (h : canonicalAdapterResultKey context rawKey = .ok key) :
    key = context.canonicalKey rawKey := by
  unfold canonicalAdapterResultKey at h
  dsimp only at h
  split_ifs at h
  exact (Except.ok.inj h).symm

/-- A value without parts is its own tree. -/
theorem StoredTree.leaf {value : JsonValue} (hleaf : ∀ {d sub}, value.Occurs depth d sub →
    d = depth ∧ sub = value) (h : StoredAs context depth value value) :
    StoredTree context depth value value := by
  constructor <;> intro d sub hsub <;> obtain ⟨rfl, rfl⟩ := hleaf hsub <;> exact ⟨_, .here, h⟩

mutual

/-- What the sanitiser accepts, it stores part by part. -/
theorem storedTree_of_sanitizeValue (depth : ℕ) (value : JsonValue) {stored : JsonValue}
    (h : sanitizeAdapterResultValue context depth value = .ok stored) :
    StoredTree context depth value stored := by
  cases value with
  | object members =>
    unfold sanitizeAdapterResultValue at h
    split_ifs at h with hbounds
    obtain ⟨stored, hmembers, h⟩ := bind_eq_ok_iff.mp h
    cases h
    push Not at hbounds
    obtain ⟨hall, hnodup, _⟩ := storedTree_of_sanitizeMembers (depth + 1) [] members hmembers
    exact .object hbounds.1 hbounds.2 hnodup hall
  | array items =>
    unfold sanitizeAdapterResultValue at h
    split_ifs at h with hbounds
    obtain ⟨stored, hitems, h⟩ := bind_eq_ok_iff.mp h
    cases h
    push Not at hbounds
    exact .array hbounds.1 hbounds.2 (storedTree_of_sanitizeItems (depth + 1) items hitems)
  | string text =>
    unfold sanitizeAdapterResultValue sanitizeText at h
    split_ifs at h with hlength hsecret hlocator
    cases h
    exact .leaf (fun h => by cases h; exact ⟨rfl, rfl⟩)
      (.string (not_lt.mp hlength) (by simpa using hsecret) (by simpa using hlocator))
  | number literal =>
    unfold sanitizeAdapterResultValue at h
    split_ifs at h
    cases h
    exact .leaf (fun h => by cases h; exact ⟨rfl, rfl⟩) .number
  | bool value =>
    unfold sanitizeAdapterResultValue at h
    cases h
    exact .leaf (fun h => by cases h; exact ⟨rfl, rfl⟩) .bool
  | null =>
    unfold sanitizeAdapterResultValue at h
    cases h
    exact .leaf (fun h => by cases h; exact ⟨rfl, rfl⟩) .null

theorem storedTree_of_sanitizeItems (depth : ℕ) (items : List JsonValue) {stored : List JsonValue}
    (h : sanitizeItems context depth items = .ok stored) :
    List.Forall₂ (StoredTree context depth) items stored := by
  cases items with
  | nil =>
    unfold sanitizeItems at h
    cases h
    exact .nil
  | cons item items =>
    unfold sanitizeItems at h
    obtain ⟨value, hvalue, h⟩ := bind_eq_ok_iff.mp h
    obtain ⟨values, hvalues, h⟩ := bind_eq_ok_iff.mp h
    cases h
    exact .cons (storedTree_of_sanitizeValue depth item hvalue)
      (storedTree_of_sanitizeItems depth items hvalues)

theorem storedTree_of_sanitizeMembers (depth : ℕ) (normalized : List String)
    (members : List (String × JsonValue)) {stored : List (String × JsonValue)}
    (h : sanitizeMembers context depth normalized members = .ok stored) :
    List.Forall₂ (fun member member' => member'.1 = context.canonicalKey member.1 ∧
        StoredTree context depth member.2 member'.2) members stored ∧
      (stored.map (·.1)).Nodup ∧ ∀ key ∈ stored.map (·.1), key ∉ normalized := by
  match members with
  | [] =>
    unfold sanitizeMembers at h
    cases h
    exact ⟨.nil, List.nodup_nil, nofun⟩
  | (rawKey, nested) :: members =>
    unfold sanitizeMembers at h
    obtain ⟨key, hkey, h⟩ := bind_eq_ok_iff.mp h
    split_ifs at h with hnew
    obtain ⟨value, hvalue, h⟩ := bind_eq_ok_iff.mp h
    obtain ⟨values, hvalues, h⟩ := bind_eq_ok_iff.mp h
    cases h
    obtain ⟨hall, hnodup, hfresh⟩ := storedTree_of_sanitizeMembers depth (key :: normalized)
      members hvalues
    refine ⟨.cons ⟨canonicalAdapterResultKey_eq_ok hkey,
      storedTree_of_sanitizeValue depth nested hvalue⟩ hall, ?_, ?_⟩
    · exact List.nodup_cons.mpr ⟨fun hmem => hfresh key hmem List.mem_cons_self, hnodup⟩
    · intro other hother
      obtain rfl | hother := List.mem_cons.mp hother
      · exact hnew
      · exact fun hold => hfresh other hother (List.mem_cons_of_mem _ hold)

end

end MarketSupport
