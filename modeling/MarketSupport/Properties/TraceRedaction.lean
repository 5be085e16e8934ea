import MarketSupport.Observability.RuntimeTrace

/-!
# What traces log

The log of a direct turn does not depend on anything that it must not show, and no log shows
values that look like secrets.

## Main results

* `direct_trace_redacted` — two direct turns that agree in the allow-listed attributes log the
  same.
* `safe_safeValue` — what other traces keep of a value is safe.
-/

namespace MarketSupport

variable {lower : String → String}

/-! ## Direct traces -/

/-- What a direct trace may show of an operation. -/
def TraceOp.shown (op : TraceOp) : TraceOp :=
  match op with
  | .event live _ attrs now =>
    .event live "" (attrs.filter fun attr => directAttrAllowed attr.1 attr.2) now
  | .enterSpan live _ attrs now =>
    .enterSpan live "" (attrs.filter fun attr => directAttrAllowed attr.1 attr.2) now
  | .exitSpan live span error now durationMs =>
    .exitSpan live span (error.map fun _ => "") now durationMs

/-- Two direct traces that show the same. -/
structure SameShown (lower : String → String) (trace trace' : RuntimeTrace) : Prop where
  direct : trace.direct = true
  direct' : trace'.direct = true
  context : safeAttrs lower trace.context true = safeAttrs lower trace'.context true
  events : trace.events.map (directTraceEvent lower) = trace'.events.map (directTraceEvent lower)
  seq : trace.seq = trace'.seq

variable {trace trace' : RuntimeTrace}

theorem SameShown.append (h : SameShown lower trace trace') {event event' : TraceEvent}
    (hevent : directTraceEvent lower event = directTraceEvent lower event') :
    SameShown lower { trace with events := trace.events ++ [event] }
      { trace' with events := trace'.events ++ [event'] } :=
  { h with events := by simp only [List.map_append, List.map_cons, List.map_nil, h.events, hevent] }

theorem SameShown.emitLive (h : SameShown lower trace trace') (live : Bool)
    {event event' : TraceEvent}
    (hevent : directTraceEvent lower event = directTraceEvent lower event') :
    SameShown lower (trace.emitLive lower live event).1 (trace'.emitLive lower live event').1 ∧
      (trace.emitLive lower live event).2 = (trace'.emitLive lower live event').2 := by
  cases live with
  | false => exact ⟨h, rfl⟩
  | true =>
    refine ⟨{ h with seq := congrArg (· + 1) h.seq }, ?_⟩
    simp [RuntimeTrace.emitLive, RuntimeTrace.visible, h.direct, h.direct', h.seq, h.context,
      hevent]

theorem safeAttrs_safeAttrs (attrs : TraceAttributes) :
    safeAttrs lower (safeAttrs lower attrs true) true = safeAttrs lower attrs true := by
  simp [safeAttrs]

/-- How a span ended is all that finishing it shows. -/
theorem directTraceEvent_finishSpan (h : trace.direct = true) (event : TraceEvent)
    (error : Option String) (now : String) (durationMs : BitVec 64) :
    directTraceEvent lower (trace.finishSpan event error now durationMs) =
      let shown := directTraceEvent lower event
      { shown with
        status :=
          if shown.type = "event" then none
          else if shown.type = "span_start" then some directSpanStartStatus
          else some (if error.isSome then directSpanFailureStatus else directSpanOkStatus)
        durationMs := some durationMs
        endedAt := some now } := by
  cases error <;> simp [directTraceEvent, RuntimeTrace.finishSpan, h]

theorem SameShown.event (h : SameShown lower trace trace') (live : Bool) (name name' now : String)
    {attrs attrs' : TraceAttributes}
    (hattrs : safeAttrs lower attrs true = safeAttrs lower attrs' true) :
    SameShown lower (trace.event lower live name attrs now).1
        (trace'.event lower live name' attrs' now).1 ∧
      (trace.event lower live name attrs now).2 = (trace'.event lower live name' attrs' now).2 := by
  have hevent : directTraceEvent lower (TraceEvent.mk "event" (trace.eventName name false)
      (safeAttrs lower attrs trace.direct) none (some now) none none none none) =
        directTraceEvent lower (TraceEvent.mk "event" (trace'.eventName name' false)
          (safeAttrs lower attrs' trace'.direct) none (some now) none none none none) := by
    simp [directTraceEvent, h.direct, h.direct', hattrs]
  exact (h.append hevent).emitLive live hevent

theorem SameShown.enterSpan (h : SameShown lower trace trace') (live : Bool)
    (name name' now : String) {attrs attrs' : TraceAttributes}
    (hattrs : safeAttrs lower attrs true = safeAttrs lower attrs' true) :
    SameShown lower (trace.enterSpan lower live name attrs now).1
        (trace'.enterSpan lower live name' attrs' now).1 ∧
      (trace.enterSpan lower live name attrs now).2 =
        (trace'.enterSpan lower live name' attrs' now).2 := by
  refine (h.append ?_).emitLive live ?_
  · simp [directTraceEvent, h.direct, h.direct', hattrs]
  · simp [directTraceEvent, h.direct, h.direct', hattrs]

/-- A span that both traces have is finished in the same way; a text of an exception is lost. -/
theorem SameShown.exitSpan (h : SameShown lower trace trace') (live : Bool) (span : ℕ)
    {error error' : Option String} (herror : error.isSome = error'.isSome) (now : String)
    (durationMs : BitVec 64) :
    SameShown lower (trace.exitSpan lower live span error now durationMs).1
        (trace'.exitSpan lower live span error' now durationMs).1 ∧
      (trace.exitSpan lower live span error now durationMs).2 =
        (trace'.exitSpan lower live span error' now durationMs).2 := by
  have hget := congrArg (·[span]?) h.events
  simp only [List.getElem?_map] at hget
  unfold RuntimeTrace.exitSpan
  cases hspan : trace.events[span]? with
  | none =>
    rw [hspan, Option.map_none, eq_comm, Option.map_eq_none_iff] at hget
    rw [hget]
    exact ⟨h, rfl⟩
  | some event =>
    rw [hspan, Option.map_some, eq_comm, Option.map_eq_some_iff] at hget
    obtain ⟨event', hspan', hevent⟩ := hget
    rw [hspan']
    have hstatus : (trace.finishSpan event error now durationMs).status =
        (trace'.finishSpan event' error' now durationMs).status := by
      simp [RuntimeTrace.finishSpan, h.direct, h.direct', herror]
    have hfinished : directTraceEvent lower (trace.finishSpan event error now durationMs) =
        directTraceEvent lower (trace'.finishSpan event' error' now durationMs) := by
      rw [directTraceEvent_finishSpan h.direct, directTraceEvent_finishSpan h.direct', hevent,
        herror]
    have hattrs := congrArg TraceEvent.attrs hfinished
    set finished := trace.finishSpan event error now durationMs
    set finished' := trace'.finishSpan event' error' now durationMs
    have hset : SameShown lower { trace with events := trace.events.set span finished }
        { trace' with events := trace'.events.set span finished' } :=
      { h with events := by simp only [List.map_set, h.events, hfinished] }
    refine hset.emitLive live ?_
    have htimes : finished.endedAt = finished'.endedAt ∧
        finished.durationMs = finished'.durationMs := ⟨rfl, rfl⟩
    simp only [directTraceEvent] at hattrs ⊢
    rw [hattrs, hstatus, htimes.1, htimes.2]

theorem SameShown.step (h : SameShown lower trace trace') {op op' : TraceOp}
    (hop : op.shown = op'.shown) :
    SameShown lower (trace.step lower op).1 (trace'.step lower op').1 ∧
      (trace.step lower op).2 = (trace'.step lower op').2 := by
  cases op <;> cases op' <;> simp only [TraceOp.shown, TraceOp.event.injEq,
    TraceOp.enterSpan.injEq, TraceOp.exitSpan.injEq, reduceCtorEq] at hop
  case event.event live name attrs now live' name' attrs' now' =>
    obtain ⟨rfl, -, hattrs, rfl⟩ := hop
    exact h.event live name name' now (by simpa [safeAttrs] using hattrs)
  case enterSpan.enterSpan live name attrs now live' name' attrs' now' =>
    obtain ⟨rfl, -, hattrs, rfl⟩ := hop
    exact h.enterSpan live name name' now (by simpa [safeAttrs] using hattrs)
  case exitSpan.exitSpan live span error now durationMs live' span' error' now' durationMs' =>
    obtain ⟨rfl, rfl, herror, rfl, rfl⟩ := hop
    have hsome := congrArg Option.isSome herror
    exact h.exitSpan live span (by simpa using hsome) now durationMs

theorem SameShown.run {ops ops' : List TraceOp} (h : SameShown lower trace trace')
    (hops : ops.map TraceOp.shown = ops'.map TraceOp.shown) :
    SameShown lower (trace.run lower ops).1 (trace'.run lower ops').1 ∧
      (trace.run lower ops).2 = (trace'.run lower ops').2 := by
  induction ops generalizing ops' trace trace' with
  | nil =>
    obtain rfl : ops' = [] := by simpa using hops.symm
    exact ⟨h, rfl⟩
  | cons op ops ih =>
    cases ops' with
    | nil => simp at hops
    | cons op' ops' =>
      obtain ⟨hop, hops⟩ := List.cons.inj hops
      obtain ⟨hnext, hlogged⟩ := h.step hop
      obtain ⟨hlast, hrest⟩ := ih hnext hops
      refine ⟨hlast, ?_⟩
      dsimp only [RuntimeTrace.run]
      rw [hlogged, hrest]

/-- Two direct turns with the same course log the same, both in the live log and at the end,
whatever their events and spans are called, whichever texts, keys and exceptions they carry, and
whichever ids and conversation keys they end with. What their operations, contexts and earlier
events have of the allow-listed attributes is the same. -/
theorem direct_trace_redacted (lower : String → String) {context context' : TraceAttributes}
    {events events' : List TraceEvent} {ops ops' : List TraceOp}
    (hcontext : safeAttrs lower context true = safeAttrs lower context' true)
    (hevents : events.map (directTraceEvent lower) = events'.map (directTraceEvent lower))
    (hops : ops.map TraceOp.shown = ops'.map TraceOp.shown)
    (contextId contextId' : Option String) (conversationKey conversationKey' : String)
    (totalMs : BitVec 64) :
    let turn := (RuntimeTrace.create lower context events true).run lower ops
    let turn' := (RuntimeTrace.create lower context' events' true).run lower ops'
    turn.2 = turn'.2 ∧ turn.1.logTrace lower contextId conversationKey totalMs =
      turn'.1.logTrace lower contextId' conversationKey' totalMs := by
  intro turn turn'
  have hcreated : SameShown lower (RuntimeTrace.create lower context events true)
      (RuntimeTrace.create lower context' events' true) := by
    refine ⟨rfl, rfl, ?_, hevents, rfl⟩
    simp only [RuntimeTrace.create, safeAttrs_safeAttrs, hcontext]
  obtain ⟨hshown, hlogged⟩ := hcreated.run hops
  refine ⟨hlogged, ?_⟩
  have hvisible (trace : RuntimeTrace) (h : trace.direct = true) :
      trace.visible lower = directTraceEvent lower := by
    funext event
    simp [RuntimeTrace.visible, h]
  unfold RuntimeTrace.logTrace
  rw [if_pos hshown.direct, if_pos hshown.direct', hvisible _ hshown.direct,
    hvisible _ hshown.direct', hshown.events]

namespace TwoMessages

/-- A greeting, of which planning runs out of time. -/
def greeting : List TraceOp :=
  [.event true "greeting" [("text", .str "hello"), ("history_count", .int 2)] "09:00",
    .enterSpan true "plan" [] "09:01", .exitSpan true 1 (some "timeout") "09:02" 60]

/-- A complaint about an account, which fails for a reason of its own. -/
def complaint : List TraceOp :=
  [.event true "complaint" [("history_count", .int 2), ("request_count", .bool true)] "09:00",
    .enterSpan true "refund" [("amount", .int 7)] "09:01",
    .exitSpan true 1 (some "no such account") "09:02" 60]

theorem shown_eq : greeting.map TraceOp.shown = complaint.map TraceOp.shown := by
  simp [greeting, complaint, TraceOp.shown, directAttrAllowed, directNumericAttrKeys,
    directDah1AttrKeys]

theorem context_eq : safeAttrs id [("context_id", .none)] true =
    safeAttrs id [("conversation_key", .str "key")] true := by
  simp [safeAttrs, directAttrAllowed, directNumericAttrKeys, directDah1AttrKeys]

end TwoMessages

open TwoMessages in
/-- The two messages are logged alike. -/
theorem direct_trace_redacted_messages :
    let turn := (RuntimeTrace.create id [("context_id", .none)] [] true).run id greeting
    let turn' := (RuntimeTrace.create id [("conversation_key", .str "key")]
        [] true).run id complaint
    turn.2 = turn'.2 ∧
      turn.1.logTrace id (some "first") "key" 90 = turn'.1.logTrace id none "other key" 90 :=
  direct_trace_redacted id context_eq (Eq.refl (([] : List TraceEvent).map (directTraceEvent id)))
    shown_eq (some "first") none "key" "other key" 90

/-! ## Values -/

/-- A value in which no text is long, no list or dictionary is large and no key, at any depth,
looks sensitive. -/
inductive TraceValue.Safe (lower : String → String) : TraceValue → Prop where
  | none : Safe lower .none
  | bool (value : Bool) : Safe lower (.bool value)
  | int (value : ℤ) : Safe lower (.int value)
  | float (bits : BitVec 64) : Safe lower (.float bits)
  | str {value : String} (length : value.length ≤ 300) : Safe lower (.str value)
  | list {items : List TraceValue} (length : items.length ≤ 20)
    (safe : ∀ item ∈ items, Safe lower item) : Safe lower (.list items)
  | dict {items : List (String × TraceValue)} (length : items.length ≤ 50)
    (plain : ∀ entry ∈ items, looksSensitive lower entry.1 = false)
    (safe : ∀ entry ∈ items, Safe lower entry.2) : Safe lower (.dict items)

theorem length_shortText_le (value : String) : (shortText value).length ≤ 300 := by
  unfold shortText
  split_ifs with h
  · exact h
  · have hdots : "...".length = 3 := rfl
    rw [String.length_append, String.length_ofList, List.length_take, hdots]
    omega

theorem length_safeItems_le (n : ℕ) (items : List TraceValue) :
    (safeItems lower n items).length ≤ n := by
  induction items generalizing n with
  | nil => cases n <;> simp [safeItems]
  | cons item items ih =>
    cases n with
    | zero => simp [safeItems]
    | succ n => simpa [safeItems] using ih n

theorem safeEntries_bounds (lower : String → String) (n : ℕ) (items : List (String × TraceValue)) :
    (safeEntries lower n items).length ≤ n ∧
      ∀ entry ∈ safeEntries lower n items, looksSensitive lower entry.1 = false := by
  induction items generalizing n with
  | nil => cases n <;> simp [safeEntries]
  | cons entry items ih =>
    cases n with
    | zero => simp [safeEntries]
    | succ n =>
      obtain ⟨hlength, hplain⟩ := ih n
      rw [safeEntries]
      split_ifs with hsensitive
      · exact ⟨by omega, hplain⟩
      · refine ⟨by simpa using hlength, fun entry h => ?_⟩
        obtain rfl | h := List.mem_cons.mp h
        · simpa using hsensitive
        · exact hplain entry h

mutual

/-- What is kept of a value is safe. -/
theorem safe_safeValue : ∀ value : TraceValue, (safeValue lower value).Safe lower
  | .none => by rw [safeValue]; exact .none
  | .bool value => by rw [safeValue]; exact .bool value
  | .int value => by rw [safeValue]; exact .int value
  | .float bits => by rw [safeValue]; exact .float bits
  | .str value => by rw [safeValue]; exact .str (length_shortText_le value)
  | .list items => by
    rw [safeValue]
    exact .list (length_safeItems_le 20 items) (safe_of_mem_safeItems 20 items)
  | .tuple items => by
    rw [safeValue]
    exact .list (length_safeItems_le 20 items) (safe_of_mem_safeItems 20 items)
  | .dict items => by
    rw [safeValue]
    obtain ⟨hlength, hplain⟩ := safeEntries_bounds lower 50 items
    exact .dict hlength hplain (safe_of_mem_safeEntries 50 items)

theorem safe_of_mem_safeItems : ∀ (n : ℕ) (items : List TraceValue),
    ∀ item ∈ safeItems lower n items, item.Safe lower
  | 0, _ => by simp [safeItems]
  | _ + 1, [] => by simp [safeItems]
  | n + 1, item :: items => by
    rw [safeItems, List.forall_mem_cons]
    exact ⟨safe_safeValue item, safe_of_mem_safeItems n items⟩

theorem safe_of_mem_safeEntries : ∀ (n : ℕ) (items : List (String × TraceValue)),
    ∀ entry ∈ safeEntries lower n items, entry.2.Safe lower
  | 0, _ => by simp [safeEntries]
  | _ + 1, [] => by simp [safeEntries]
  | n + 1, (key, item) :: items => by
    rw [safeEntries]
    split_ifs
    · exact safe_of_mem_safeEntries n items
    · rw [List.forall_mem_cons]
      exact ⟨safe_safeValue item, safe_of_mem_safeEntries n items⟩

end

end MarketSupport
