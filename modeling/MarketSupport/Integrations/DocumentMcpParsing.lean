import MarketSupport.Rendering.ResponseIds

/-!
# Responses of the document MCP

A response is one JSON text, or an event stream whose last data line is one.
-/

namespace MarketSupport

/-- The characters at which `str.splitlines` ends a line. -/
def isLineSeparator (c : Char) : Bool :=
  c.toNat ∈ [0x0a, 0x0b, 0x0c, 0x0d, 0x1c, 0x1d, 0x1e, 0x85, 0x2028, 0x2029]

/-- `str.splitlines`; `line` is what was read of the current line. -/
def splitLinesFrom (line : List Char) : List Char → List (List Char)
  | [] => if line.isEmpty then [] else [line]
  | '\r' :: '\n' :: cs => line :: splitLinesFrom [] cs
  | c :: cs => if isLineSeparator c then line :: splitLinesFrom [] cs
    else splitLinesFrom (line ++ [c]) cs

def splitLines (text : String) : List (List Char) := splitLinesFrom [] text.toList

/-- What `validate_json` returns: of a value, only whether it is a `dict` is read. -/
inductive JsonValidation (JsonMap : Type) where
  | invalid
  | nonObject
  | object (payload : JsonMap)

section Parsing

variable {JsonMap : Type} (validateJson : String → JsonValidation JsonMap)

/-- `parse_json_map`; the error is the text of the `DocumentMcpError`. -/
def parseJsonMap (rawJson invalidMessage nonObjectMessage : String) : Except String JsonMap :=
  match validateJson rawJson with
  | .invalid => .error invalidMessage
  | .nonObject => .error nonObjectMessage
  | .object payload => .ok payload

/-- The text of a data line. -/
def dataText (line : List Char) : Option String :=
  if "data:".toList <+: line then some (strip (String.ofList (line.drop 5))) else none

/-- What is read of the last data line. -/
def parseDataText : Option String → Except String JsonMap
  | none => .error "document MCP SSE response has no data line"
  | some text => parseJsonMap validateJson text "document MCP SSE data is invalid JSON"
      "document MCP SSE data is not a JSON object"

/-- `parse_mcp_message`. -/
def parseMcpMessage (raw : String) : Except String JsonMap :=
  let stripped := strip raw
  if stripped = "" then .error "document MCP returned an empty response"
  else if stripped.toList.head? = some '{' then
    parseJsonMap validateJson stripped "document MCP returned invalid JSON"
      "document MCP returned a non-object JSON response"
  else parseDataText validateJson ((splitLines stripped).filterMap dataText).getLast?

end Parsing

end MarketSupport
