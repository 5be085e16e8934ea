import MarketSupport.Library.Trim
import MarketSupport.Schemas.Reply

/-!
# Response identifiers

`ensureResponseIds` runs when a candidate is rendered, `issueResponseIds` when it is
committed. Both keep the identifiers that are already there.
-/

namespace MarketSupport

/-- The characters that `str.strip` removes. -/
def isPySpace (c : Char) : Bool :=
  c.toNat ∈ [9, 10, 11, 12, 13, 28, 29, 30, 31, 32, 0x85, 0xa0, 0x1680, 0x2028, 0x2029, 0x202f,
    0x205f, 0x3000] || (0x2000 ≤ c.toNat && c.toNat ≤ 0x200a)

/-- `str.strip()`. -/
def strip (s : String) : String :=
  String.ofList ((s.toList.dropWhile isPySpace).reverse.dropWhile isPySpace).reverse

theorem toList_strip (s : String) : (strip s).toList = Library.trim isPySpace s.toList := by
  simp [strip, Library.trim, List.rdropWhile]

/-- `text.replace(marker, "")`, scanning from the left; `skip` counts the characters of a
match that are still to be dropped. -/
def removeMarker (marker : List Char) : ℕ → List Char → List Char
  | _, [] => []
  | skip + 1, _ :: cs => removeMarker marker skip cs
  | 0, c :: cs =>
    if marker.isPrefixOf (c :: cs) then removeMarker marker (marker.length - 1) cs
    else c :: removeMarker marker 0 cs

/-- `_PLAIN_TEXT_MARKERS`. -/
def plainTextMarkers : List String := ["**", "```"]

/-- `_sanitize_plain_text`. -/
def sanitizePlainText (text : String) : String :=
  plainTextMarkers.foldl (fun t m => String.ofList (removeMarker m.toList 0 t.toList)) text

/-- `ensure_response_ids`: a blank action id becomes `act-` and the position of the action. -/
def ensureResponseIds (uuid : UuidHex) (response : ReplyResponse) : ReplyResponse where
  responseId :=
    if strip response.responseId = "" then "resp-" ++ uuid.hex else strip response.responseId
  reply := { response.reply with text := sanitizePlainText response.reply.text }
  actions := response.actions.mapIdx (fun index action =>
    action.withActionId (if strip action.actionId = "" then "act-" ++ toString (index + 1)
      else strip action.actionId))

/-- `issue_response_ids`; `actionUuid i` is the draw for the action at position `i`. -/
def issueResponseIds (uuid : UuidHex) (actionUuid : ℕ → UuidHex) (response : ReplyResponse) :
    ReplyResponse where
  responseId := if response.responseId = "" then "resp-" ++ uuid.hex else response.responseId
  reply := response.reply
  actions := response.actions.mapIdx (fun index action =>
    action.withActionId (if action.actionId = "" then "act-" ++ (actionUuid index).hex
      else action.actionId))

end MarketSupport
