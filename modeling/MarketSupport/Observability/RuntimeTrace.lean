import Mathlib
import MarketSupport.Schemas.Reply

/-!
# Traces of a turn

A turn records events and spans in a trace, which is logged while it runs and when it ends. A
trace of the direct scene keeps counts and digests only.
-/

namespace MarketSupport

/-! ## Values and events -/

/-- A value of an attribute; of a float nothing but its bits is known. -/
inductive TraceValue where
  | none
  | bool (value : Bool)
  | int (value : ℤ)
  | float (bits : BitVec 64)
  | str (value : String)
  | list (items : List TraceValue)
  | tuple (items : List TraceValue)
  | dict (items : List (String × TraceValue))

abbrev TraceAttributes := List (String × TraceValue)

/-- A `TraceEvent`; a key that is missing is `none`. -/
structure TraceEvent where
  type : String
  name : String
  attrs : TraceAttributes
  status : Option String := none
  atTime : Option String := none
  startedAt : Option String := none
  endedAt : Option String := none
  durationMs : Option (BitVec 64) := none
  error : Option String := none

/-! ## Direct attributes -/

def directEventName : String := "direct.runtime_event"
def directSpanName : String := "direct.runtime_span"
def directSpanStartStatus : String := "started"
def directSpanOkStatus : String := "completed"
def directSpanFailureStatus : String := "failed"

/-- `_DIRECT_NUMERIC_ATTR_KEYS`. -/
def directNumericAttrKeys : List String :=
  ["action_count", "action_history_count", "adapter_resolve_count", "alignment_verdict_count",
    "candidate_count", "evidence_fact_count", "guardrail_decision_count", "history_count",
    "issue_count", "request_count"]

/-- `_DIRECT_DAH1_ATTR_KEYS`. -/
def directDah1AttrKeys : List String :=
  ["dah1", "message_dah1", "request_id_dah1", "request_dah1", "reply_dah1", "evidence_dah1",
    "directive_dah1", "plan_dah1", "planner_input_dah1", "planner_output_dah1",
    "composer_input_dah1", "composer_output_dah1", "verifier_input_dah1", "verifier_output_dah1",
    "approved_selector_input_dah1", "approved_selector_output_dah1",
    "document_selector_input_dah1", "document_selector_output_dah1"]

def isDirectAuditDigest (value : String) : Bool :=
  value.length == 69 && "dah1:".toList.isPrefixOf value.toList &&
    (value.toList.drop 5).all isLowerHex

def directAttrAllowed (key : String) (value : TraceValue) : Bool :=
  if key ∈ directNumericAttrKeys then
    match value with
    | .int n => 0 ≤ n
    | _ => false
  else if key ∈ directDah1AttrKeys then
    match value with
    | .str s => isDirectAuditDigest s
    | _ => false
  else false

/-- `direct_trace_name`; the name that it is given does not matter. -/
def directTraceName (isSpan : Bool) : String := if isSpan then directSpanName else directEventName

/-! ## Other attributes -/

variable (lower : String → String)

/-- `_SENSITIVE_KEY_PARTS`. -/
def sensitiveKeyParts : List String := ["api_key", "token", "secret", "password"]

/-- `looks_sensitive`, with `str.lower`. -/
def looksSensitive (key : String) : Bool :=
  sensitiveKeyParts.any fun part => decide (part.toList <:+: (lower key).toList)

/-- At most three hundred characters of a text. -/
def shortText (value : String) : String :=
  if value.length ≤ 300 then value else String.ofList (value.toList.take 297) ++ "..."

mutual

def safeValue : TraceValue → TraceValue
  | .none => .none
  | .bool value => .bool value
  | .int value => .int value
  | .float bits => .float bits
  | .str value => .str (shortText value)
  | .list items => .list (safeItems 20 items)
  | .tuple items => .list (safeItems 20 items)
  | .dict items => .dict (safeEntries 50 items)

/-- `[safe_value(item) for item in value[:n]]`. -/
def safeItems : ℕ → List TraceValue → List TraceValue
  | 0, _ => []
  | _, [] => []
  | n + 1, item :: items => safeValue item :: safeItems n items

/-- The first `n` entries of a dictionary, without those whose keys look sensitive. -/
def safeEntries : ℕ → List (String × TraceValue) → List (String × TraceValue)
  | 0, _ => []
  | _, [] => []
  | n + 1, (key, item) :: items =>
    if looksSensitive lower key then safeEntries n items
    else (key, safeValue item) :: safeEntries n items

end

def safeAttrs (attrs : TraceAttributes) (direct : Bool) : TraceAttributes :=
  if direct then attrs.filter fun attr => directAttrAllowed attr.1 attr.2
  else (attrs.filter fun attr => !looksSensitive lower attr.1).map fun attr =>
    (attr.1, safeValue lower attr.2)

/-! ## Traces -/

/-- A `RuntimeTrace`, with what it has logged. -/
structure RuntimeTrace where
  context : TraceAttributes
  events : List TraceEvent
  direct : Bool
  seq : ℕ := 0

/-- A line of the live log: its number, the context and the event. -/
structure LiveTracePayload where
  seq : ℕ
  context : TraceAttributes
  event : TraceEvent

/-- The log of a whole trace. The direct one says that it is redacted, and no more. -/
inductive TraceLogEnvelope where
  | redacted (totalMs : BitVec 64) (events : List TraceEvent)
  | plain (contextId : Option String) (conversationKey : String) (totalMs : BitVec 64)
    (events : List TraceEvent)

def RuntimeTrace.create (context : TraceAttributes) (events : List TraceEvent) (direct : Bool) :
    RuntimeTrace where
  context := safeAttrs lower context direct
  events
  direct

/-- `_direct_trace_event`. -/
def directTraceEvent (event : TraceEvent) : TraceEvent :=
  let type := if event.type ∈ ["event", "span", "span_start", "span_end"] then event.type
    else "event"
  { type
    name := directTraceName (decide (type ≠ "event"))
    attrs := safeAttrs lower event.attrs true
    status :=
      if type = "event" then none
      else if type = "span_start" then some directSpanStartStatus
      else if event.status ∈ [some directSpanStartStatus, some directSpanOkStatus,
        some directSpanFailureStatus] then event.status
      else some directSpanFailureStatus
    atTime := event.atTime
    startedAt := event.startedAt
    endedAt := event.endedAt
    durationMs := event.durationMs }

namespace RuntimeTrace

variable (trace : RuntimeTrace)

/-- The event that a trace logs. -/
def visible (event : TraceEvent) : TraceEvent :=
  if trace.direct then directTraceEvent lower event else event

/-- `emit_live`; `live` tells whether the environment and the logger let it. -/
def emitLive (live : Bool) (event : TraceEvent) : RuntimeTrace × List LiveTracePayload :=
  if live then
    ({ trace with seq := trace.seq + 1 },
      [⟨trace.seq + 1, if trace.direct then safeAttrs lower trace.context true else trace.context,
        trace.visible lower event⟩])
  else (trace, [])

/-- The name that a trace gives an event or a span. -/
def eventName (name : String) (isSpan : Bool) : String :=
  if trace.direct then directTraceName isSpan else name

/-- `event`, at a time of the clock. -/
def event (live : Bool) (name : String) (attrs : TraceAttributes) (now : String) :
    RuntimeTrace × List LiveTracePayload :=
  let event : TraceEvent := {
    type := "event"
    name := trace.eventName name false
    atTime := some now
    attrs := safeAttrs lower attrs trace.direct }
  { trace with events := trace.events ++ [event] }.emitLive lower live event

/-- `span` and `_TraceSpan.__enter__`. -/
def enterSpan (live : Bool) (name : String) (attrs : TraceAttributes) (now : String) :
    RuntimeTrace × List LiveTracePayload :=
  let event : TraceEvent := {
    type := "span"
    name := trace.eventName name true
    status := some (if trace.direct then directSpanStartStatus else "running")
    startedAt := some now
    attrs := safeAttrs lower attrs trace.direct }
  { trace with events := trace.events ++ [event] }.emitLive lower live {
    type := "span_start"
    name := event.name
    atTime := event.startedAt
    attrs := event.attrs }

/-- `finish_span`; `error` is the text of the exception that ended the span. -/
def finishSpan (event : TraceEvent) (error : Option String) (now : String)
    (durationMs : BitVec 64) : TraceEvent :=
  { event with
    status := some <|
      if trace.direct then if error.isSome then directSpanFailureStatus else directSpanOkStatus
      else if error.isSome then "error" else "ok"
    durationMs := some durationMs
    endedAt := some now
    error := if error.isSome && !trace.direct then error.map shortText else event.error }

/-- `_TraceSpan.__exit__` of the span that is at this place of the events. -/
def exitSpan (live : Bool) (span : ℕ) (error : Option String) (now : String)
    (durationMs : BitVec 64) : RuntimeTrace × List LiveTracePayload :=
  match trace.events[span]? with
  | none => (trace, [])
  | some event =>
    let event := trace.finishSpan event error now durationMs
    { trace with events := trace.events.set span event }.emitLive lower live {
      type := "span_end"
      name := event.name
      atTime := event.endedAt
      status := event.status
      durationMs := event.durationMs
      attrs := event.attrs
      error := event.error }

/-- `log_trace`, when the logger is enabled. -/
def logTrace (contextId : Option String) (conversationKey : String) (totalMs : BitVec 64) :
    TraceLogEnvelope :=
  let events := trace.events.map (trace.visible lower)
  if trace.direct then .redacted totalMs events
  else .plain contextId conversationKey totalMs events

end RuntimeTrace

/-! ## Runs -/

/-- What the code does with a trace; spans are named by their places among the events. -/
inductive TraceOp where
  | event (live : Bool) (name : String) (attrs : TraceAttributes) (now : String)
  | enterSpan (live : Bool) (name : String) (attrs : TraceAttributes) (now : String)
  | exitSpan (live : Bool) (span : ℕ) (error : Option String) (now : String)
    (durationMs : BitVec 64)

def RuntimeTrace.step (trace : RuntimeTrace) : TraceOp → RuntimeTrace × List LiveTracePayload
  | .event live name attrs now => trace.event lower live name attrs now
  | .enterSpan live name attrs now => trace.enterSpan lower live name attrs now
  | .exitSpan live span error now durationMs =>
    trace.exitSpan lower live span error now durationMs

/-- A trace after some operations, and what it has logged on the way. -/
def RuntimeTrace.run (trace : RuntimeTrace) : List TraceOp → RuntimeTrace × List LiveTracePayload
  | [] => (trace, [])
  | op :: ops =>
    let (next, logged) := trace.step lower op
    let (last, rest) := next.run ops
    (last, logged ++ rest)

end MarketSupport
