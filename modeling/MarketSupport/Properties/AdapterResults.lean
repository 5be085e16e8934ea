import MarketSupport.Schemas.FeedbackSanitization

/-!
# Sanitised adapter results

An accepted `adapter_result` is within the bounds, the keys of its objects are distinct once they
are normalised, and its string values carry neither secrets nor locators. Its keys are normalised
and compared with the denied names, but not searched.

## Main results

* `sanitized_iff_keys` — an accepted payload and what is stored of it are clean exactly when the
  keys are, as they are sent and as they are stored.
-/

namespace MarketSupport

open Library

/-- The strings that a value shows by itself: its text, or its keys. -/
def JsonValue.texts : JsonValue → List String
  | .string text => [text]
  | .object members => members.map (·.1)
  | .array _ | .number _ | .bool _ | .null => []

/-- The bounds on one value at a depth. -/
def JsonValue.WithinBounds (depth : ℕ) : JsonValue → Prop
  | .object members => depth ≤ 4 ∧ members.length ≤ 16
  | .array items => depth ≤ 4 ∧ items.length ≤ 16
  | .string text => text.length ≤ 256
  | .number _ | .bool _ | .null => True

/-- The keys of an object are distinct. -/
def JsonValue.UniqueKeys : JsonValue → Prop
  | .object members => (members.map (·.1)).Nodup
  | .array _ | .string _ | .number _ | .bool _ | .null => True

/-- A text that may be stored. -/
def SanitizerContext.Clean (context : SanitizerContext) (text : String) : Prop :=
  context.containsSecret text = false ∧ isRawLocator text = false

instance {context : SanitizerContext} {text : String} : Decidable (context.Clean text) :=
  inferInstanceAs (Decidable (_ ∧ _))

/-- Every text in the value, at every depth, may be stored. -/
def SanitizerContext.CleanTree (context : SanitizerContext) (value : JsonValue) : Prop :=
  ∀ {depth sub}, value.Occurs 1 depth sub → ∀ text ∈ sub.texts, context.Clean text

/-- Every part of the value is within the bounds of its depth. -/
def JsonValue.BoundedTree (value : JsonValue) : Prop :=
  ∀ {depth sub}, value.Occurs 1 depth sub → sub.WithinBounds depth

/-- A payload whose texts are clean and within the bounds, as it is sent and as it is stored, and
which is stored small and with distinct keys. -/
structure SanitizedResult (context : SanitizerContext) (values : List (String × JsonValue))
    (result : JsonValue) : Prop where
  sent_clean : context.CleanTree (.object values)
  stored_clean : context.CleanTree result
  sent_bounds : (JsonValue.object values).BoundedTree
  stored_bounds : result.BoundedTree
  unique_keys : ∀ {depth sub}, result.Occurs 1 depth sub → sub.UniqueKeys
  size : result.canonicalBytes.length ≤ 4096

/-- The keys of the payload, at every depth, are clean as they are sent and as they are stored. -/
def KeysClean (context : SanitizerContext) (values : List (String × JsonValue)) : Prop :=
  ∀ {depth members}, (JsonValue.object values).Occurs 1 depth (.object members) →
    ∀ member ∈ members, context.Clean member.1 ∧ context.Clean (context.canonicalKey member.1)

variable {context : SanitizerContext} {values : List (String × JsonValue)} {result : JsonValue}

theorem StoredAs.withinBounds {depth : ℕ} {value stored : JsonValue}
    (h : StoredAs context depth value stored) :
    value.WithinBounds depth ∧ stored.WithinBounds depth := by
  cases h with
  | @object members stored hdepth hlength hkeys _ =>
    have hsame : stored.length = members.length := by simpa using congrArg List.length hkeys
    exact ⟨⟨hdepth, hlength⟩, hdepth, hsame ▸ hlength⟩
  | array hdepth hlength hsame => exact ⟨⟨hdepth, hlength⟩, hdepth, hsame ▸ hlength⟩
  | string hlength _ _ => exact ⟨hlength, hlength⟩
  | number | bool | null => exact ⟨trivial, trivial⟩

theorem StoredAs.uniqueKeys {depth : ℕ} {value stored : JsonValue}
    (h : StoredAs context depth value stored) : stored.UniqueKeys := by
  cases h with
  | object _ _ _ hnodup => exact hnodup
  | array | string | number | bool | null => trivial

/-- A value is sent and stored clean when its keys are. -/
theorem StoredAs.clean {depth : ℕ} {value stored : JsonValue}
    (h : StoredAs context depth value stored)
    (hkeys : ∀ members, value = .object members → ∀ member ∈ members,
      context.Clean member.1 ∧ context.Clean (context.canonicalKey member.1)) :
    (∀ text ∈ value.texts, context.Clean text) ∧ ∀ text ∈ stored.texts, context.Clean text := by
  cases h with
  | object _ _ hsame _ =>
    rw [JsonValue.texts, JsonValue.texts, hsame, List.forall_mem_map, List.forall_mem_map]
    exact ⟨fun member hmember => (hkeys _ rfl member hmember).1,
      fun member hmember => (hkeys _ rfl member hmember).2⟩
  | string _ hsecret hlocator =>
    have htext : ∀ other ∈ [_], context.Clean other :=
      List.forall_mem_singleton.mpr ⟨hsecret, hlocator⟩
    exact ⟨htext, htext⟩
  | array | number | bool | null => exact ⟨nofun, nofun⟩

/-- An accepted payload is small, and stored part by part. -/
theorem storedTree_of_accepted (h : sanitizedAdapterResultV1 context values = .ok result) :
    StoredTree context 1 (.object values) result ∧ result.canonicalBytes.length ≤ 4096 := by
  unfold sanitizedAdapterResultV1 at h
  split_ifs at h
  obtain ⟨normalized, hvalue, h⟩ := bind_eq_ok_iff.mp h
  split_ifs at h with hsize
  cases h
  exact ⟨storedTree_of_sanitizeValue 1 _ hvalue, not_lt.mp hsize⟩

/-- An accepted payload is within the bounds and its keys are stored distinct. It is free of
secrets and locators, as it is sent and as it is stored, exactly when its keys are. -/
theorem sanitized_iff_keys (h : sanitizedAdapterResultV1 context values = .ok result) :
    SanitizedResult context values result ↔ KeysClean context values := by
  obtain ⟨htree, hsize⟩ := storedTree_of_accepted h
  constructor
  · intro hresult depth members hoccurs member hmember
    obtain ⟨stored, hstored, hnode⟩ := htree.of_value hoccurs
    cases hnode with
    | object _ _ hkeys _ =>
      refine ⟨hresult.sent_clean hoccurs _ (List.mem_map_of_mem hmember),
        hresult.stored_clean hstored _ ?_⟩
      rw [JsonValue.texts, hkeys]
      exact List.mem_map_of_mem hmember
  · intro hkeys
    have hnodeKeys : ∀ {depth sub}, (JsonValue.object values).Occurs 1 depth sub →
        ∀ members, sub = .object members → ∀ member ∈ members,
          context.Clean member.1 ∧ context.Clean (context.canonicalKey member.1) := by
      rintro depth _ hsub members rfl
      exact hkeys hsub
    constructor
    case size => exact hsize
    case sent_clean =>
      intro depth sub hsub
      obtain ⟨stored, _, hnode⟩ := htree.of_value hsub
      exact (hnode.clean (hnodeKeys hsub)).1
    case sent_bounds =>
      intro depth sub hsub
      obtain ⟨stored, _, hnode⟩ := htree.of_value hsub
      exact hnode.withinBounds.1
    all_goals
      intro depth sub hsub
      obtain ⟨value, hvalue, hnode⟩ := htree.of_stored hsub
    · exact (hnode.clean (hnodeKeys hvalue)).2
    · exact hnode.withinBounds.2
    · exact hnode.uniqueKeys

/-! ## Keys that are not searched -/

namespace NestedKey

def sanitizer : SanitizerContext :=
  ⟨id, fun text => String.ofList (text.toList.map Char.toLower), ["sk-live-1"]⟩

/-- A payload with the key, nested in an object, over a list. -/
def payload (key : String) : List (String × JsonValue) :=
  [("ok", .bool true), ("report", .object [(key, .array [.string "weekly"])])]

theorem occurs_payload {key : String} : (JsonValue.object (payload key)).Occurs 1 2
    (.object [(key, .array [.string "weekly"])]) :=
  .member (List.mem_cons_of_mem _ List.mem_cons_self) .here

theorem keysClean_payload_iff {key : String} : KeysClean sanitizer (payload key) ↔
    sanitizer.Clean key ∧ sanitizer.Clean (sanitizer.canonicalKey key) := by
  constructor
  · exact fun h => h occurs_payload _ (List.mem_singleton_self _)
  · intro hkey depth members hoccurs
    have houter : ∀ member ∈ payload key,
        sanitizer.Clean member.1 ∧ sanitizer.Clean (sanitizer.canonicalKey member.1) := by
      simp only [payload, List.forall_mem_cons]
      decide +kernel
    rcases hoccurs with _ | _ | ⟨hmember, hinner⟩
    · exact houter
    · simp only [payload, List.mem_cons, List.not_mem_nil, or_false] at hmember
      obtain rfl | rfl := hmember
      · cases hinner
      · rcases hinner with _ | _ | ⟨hmember, hleaf⟩
        · exact List.forall_mem_singleton.mpr hkey
        · obtain rfl := List.mem_singleton.mp hmember
          cases hleaf with
          | item hitem hleaf =>
            obtain rfl := List.mem_singleton.mp hitem
            cases hleaf

end NestedKey

/-- One payload is clean as it is sent and as it is stored. In another a key is a configured
secret, though what is stored of it is not. -/
theorem sanitized_iff_keys_nested :
    (∃ result, sanitizedAdapterResultV1 NestedKey.sanitizer (NestedKey.payload "Report Kind") =
        .ok result ∧ KeysClean NestedKey.sanitizer (NestedKey.payload "Report Kind") ∧
      SanitizedResult NestedKey.sanitizer (NestedKey.payload "Report Kind") result) ∧
    ∃ result, sanitizedAdapterResultV1 NestedKey.sanitizer (NestedKey.payload "sk-live-1") =
        .ok result ∧ ¬KeysClean NestedKey.sanitizer (NestedKey.payload "sk-live-1") ∧
      ¬SanitizedResult NestedKey.sanitizer (NestedKey.payload "sk-live-1") result := by
  constructor
  · obtain ⟨result, hresult⟩ : ∃ result, sanitizedAdapterResultV1 NestedKey.sanitizer
        (NestedKey.payload "Report Kind") = .ok result := exists_of_isOk (by decide +kernel)
    have hkeys : KeysClean NestedKey.sanitizer (NestedKey.payload "Report Kind") :=
      NestedKey.keysClean_payload_iff.mpr (by decide +kernel)
    exact ⟨result, hresult, hkeys, (sanitized_iff_keys hresult).mpr hkeys⟩
  · obtain ⟨result, hresult⟩ : ∃ result, sanitizedAdapterResultV1 NestedKey.sanitizer
        (NestedKey.payload "sk-live-1") = .ok result := exists_of_isOk (by decide +kernel)
    have hkeys : ¬KeysClean NestedKey.sanitizer (NestedKey.payload "sk-live-1") :=
      mt NestedKey.keysClean_payload_iff.mp (by decide +kernel)
    exact ⟨result, hresult, hkeys, mt (sanitized_iff_keys hresult).mp hkeys⟩

/-- A nested key that is a locator is stored. -/
theorem locatorKey_stored : ∃ result,
    sanitizedAdapterResultV1 NestedKey.sanitizer
        (NestedKey.payload "https://example.invalid/weekly") = .ok result ∧
      ¬SanitizedResult NestedKey.sanitizer
        (NestedKey.payload "https://example.invalid/weekly") result := by
  obtain ⟨result, hresult⟩ : ∃ result, sanitizedAdapterResultV1 NestedKey.sanitizer
      (NestedKey.payload "https://example.invalid/weekly") = .ok result :=
    exists_of_isOk (by decide +kernel)
  refine ⟨result, hresult, fun hclean => ?_⟩
  exact absurd (hclean.sent_clean NestedKey.occurs_payload _ List.mem_cons_self) (by decide +kernel)

end MarketSupport
