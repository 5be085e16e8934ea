import Mathlib.Data.Bool.AllAny
import MarketSupport.Integrations.DocumentMcpParsing
import MarketSupport.Library.Trim

/-!
# Framings of a response

An event stream ends its lines at line feeds and carriage returns only. `str.splitlines` ends them
at more characters, and some of these may stand in a JSON string as they are.

## Main results

* `sameMessage_iff` — the objects that are read alike from both framings.
-/

namespace MarketSupport

open Library

/-! ## The property -/

/-- JSON text of an object: white space, then an opening brace. -/
def IsObjectText (json : String) : Prop :=
  ∃ space rest, json.toList = space ++ '{' :: rest ∧ ∀ c ∈ space, c ∈ [' ', '\t', '\n', '\r']

/-- What may stand around a data line: an event line in front of it, and blank lines after it. -/
structure EventFraming where
  event : Option (String × String)
  blanks : String
  event_line : ∀ line ∈ event, (∀ c ∈ line.1.toList, isLineSeparator c = false) ∧
    line.2 ∈ ["\n", "\r\n"]
  blank : ∀ c ∈ blanks.toList, isPySpace c = true

def EventFraming.eventLine (framing : EventFraming) : String :=
  match framing.event with
  | none => ""
  | some (event, lineEnd) => "event:" ++ event ++ lineEnd

/-- The event stream with a text as its data. -/
def EventFraming.frame (framing : EventFraming) (json : String) : String :=
  framing.eventLine ++ "data: " ++ json ++ framing.blanks

/-- Every validator reads the same object from an event stream as from its data alone, or rejects
both. -/
def SameMessage (json : String) : Prop :=
  ∀ (JsonMap : Type) (validateJson : String → JsonValidation JsonMap) (framing : EventFraming),
    (parseMcpMessage validateJson (framing.frame json)).toOption =
      (parseMcpMessage validateJson json).toOption

/-! ## Lines -/

section Lines

variable {line cs rest : List Char}

theorem splitLinesFrom_append (h : ∀ c ∈ cs, isLineSeparator c = false) :
    splitLinesFrom line (cs ++ rest) = splitLinesFrom (line ++ cs) rest := by
  induction cs generalizing line with
  | nil => simp
  | cons c cs ih =>
    have hc := h c List.mem_cons_self
    have hstep : splitLinesFrom line (c :: (cs ++ rest)) =
        splitLinesFrom (line ++ [c]) (cs ++ rest) := by
      rw [splitLinesFrom, if_neg (by simp [hc])]
      rintro _ rfl
      simp [isLineSeparator] at hc
    rw [List.cons_append, hstep, ih fun d hd => h d (List.mem_cons_of_mem _ hd), List.append_assoc,
      List.singleton_append]

theorem splitLinesFrom_lineEnd {lineEnd : String} (h : lineEnd ∈ ["\n", "\r\n"]) :
    splitLinesFrom line (lineEnd.toList ++ rest) = line :: splitLinesFrom [] rest := by
  simp only [List.mem_cons, List.not_mem_nil, or_false] at h
  obtain rfl | rfl := h
  · rfl
  · rfl

/-- No line has a separator. -/
theorem not_separator_of_mem_lines (hline : ∀ c ∈ line, isLineSeparator c = false) {l : List Char}
    (h : l ∈ splitLinesFrom line cs) : ∀ c ∈ l, isLineSeparator c = false := by
  fun_induction splitLinesFrom line cs with
  | case1 => cases h
  | case2 line hne =>
    obtain rfl := List.mem_singleton.mp h
    exact hline
  | case3 line cs ih =>
    obtain rfl | h := List.mem_cons.mp h
    · exact hline
    · exact ih (by simp) h
  | case4 line c cs hne hsep ih =>
    obtain rfl | h := List.mem_cons.mp h
    · exact hline
    · exact ih (by simp) h
  | case5 line c cs hne hsep ih =>
    refine ih (fun d hd => ?_) h
    obtain hd | hd := List.mem_append.mp hd
    · exact hline d hd
    · obtain rfl := List.mem_singleton.mp hd
      exact Bool.eq_false_iff.mpr hsep

theorem clean_of_all (h : (cs.all fun c => isLineSeparator c = false) = true) :
    ∀ c ∈ cs, isLineSeparator c = false := List.all_iff_forall_prop.mp h

end Lines

/-! ## Stripping -/

/-- The text of an object, without line ends, between white space. -/
theorem exists_objectText {json : String} (hobject : IsObjectText json)
    (hline : ∀ c ∈ json.toList, c ≠ '\r' ∧ c ≠ '\n') :
    ∃ space text trail, json.toList = space ++ '{' :: text ++ trail ∧
      (strip json).toList = '{' :: text ∧ (∀ c ∈ space, c = ' ' ∨ c = '\t') ∧
      ∀ c ∈ trail, isPySpace c = true := by
  obtain ⟨space, rest, hjson, hspace⟩ := hobject
  have htab : ∀ c ∈ space, c = ' ' ∨ c = '\t' := by
    intro c hc
    have hends := hline c (hjson ▸ List.mem_append_left _ hc)
    have := hspace c hc
    simp only [List.mem_cons, List.not_mem_nil, or_false, hends.1, hends.2] at this
    exact this
  have hlead : ∀ c ∈ space, isPySpace c = true := by
    intro c hc
    obtain rfl | rfl := htab c hc <;> rfl
  have hstrip : (strip json).toList = trim isPySpace ('{' :: rest) := by
    rw [toList_strip, hjson, trim_append_left hlead]
  obtain ⟨lead, trail, hrest, hleading, htrail⟩ := exists_eq_trim isPySpace ('{' :: rest)
  rw [← hstrip] at hrest
  have hnil : lead = [] := by
    cases lead with
    | nil => rfl
    | cons c lead =>
      obtain ⟨rfl, -⟩ := List.cons.inj hrest
      exact absurd (hleading '{' List.mem_cons_self) (by decide)
  subst hnil
  cases htext : (strip json).toList with
  | nil =>
    rw [htext] at hrest
    have hbrace : '{' ∈ trail := by
      rw [List.nil_append, List.nil_append] at hrest
      exact hrest ▸ List.mem_cons_self
    exact absurd (htrail '{' hbrace) (by decide)
  | cons c text =>
    rw [htext] at hrest
    obtain ⟨rfl, -⟩ := List.cons.inj hrest
    exact ⟨space, text, trail, by rw [hjson, hrest]; simp, rfl, htab, htrail⟩

/-! ## Data lines -/

section Framings

/-- The texts of the data lines of an event stream whose data is `data`. -/
def dataTexts (data : List Char) : List String :=
  (splitLinesFrom [] ("data: ".toList ++ data)).filterMap dataText

variable {JsonMap : Type} {validateJson : String → JsonValidation JsonMap} {json : String}
  {framing : EventFraming} {data : List Char}

/-- The event line is no data line. -/
theorem filterMap_dataText (framing : EventFraming) (data : List Char) :
    (splitLinesFrom [] (framing.eventLine.toList ++ "data: ".toList ++ data)).filterMap dataText =
      dataTexts data := by
  unfold EventFraming.eventLine
  split
  · rfl
  · next event lineEnd hevent =>
    obtain ⟨hclean, hend⟩ := framing.event_line (event, lineEnd) hevent
    have hname : ∀ c ∈ "event:".toList ++ event.toList, isLineSeparator c = false := by
      intro c hc
      obtain hc | hc := List.mem_append.mp hc
      · exact clean_of_all (by decide) c hc
      · exact hclean c hc
    have hnone : dataText ("event:".toList ++ event.toList) = none := rfl
    rw [String.toList_append, String.toList_append, List.append_assoc, List.append_assoc,
      splitLinesFrom_append hname, splitLinesFrom_lineEnd hend, List.nil_append,
      List.filterMap_cons_none hnone]
    rfl

theorem eventLine_head (framing : EventFraming) (rest : List Char) :
    (framing.eventLine.toList ++ "data: ".toList ++ rest).head? = some 'e' ∨
      (framing.eventLine.toList ++ "data: ".toList ++ rest).head? = some 'd' := by
  unfold EventFraming.eventLine
  split
  · exact .inr rfl
  · exact .inl (by simp)

/-- An event stream gives the last of its data lines. -/
theorem parseMcpMessage_stream (hdata : data ≠ [])
    (hlast : ∀ c ∈ data.getLast?, isPySpace c = false) {raw : String} {trail : List Char}
    (hraw : raw.toList = framing.eventLine.toList ++ "data: ".toList ++ data ++ trail)
    (htrail : ∀ c ∈ trail, isPySpace c = true) :
    parseMcpMessage validateJson raw = parseDataText validateJson (dataTexts data).getLast? := by
  have hhead := eventLine_head framing data
  have hfirst : ∀ c ∈ (framing.eventLine.toList ++ "data: ".toList ++ data).head?,
      isPySpace c = false := by
    intro c hc
    obtain hhead | hhead := hhead <;>
      · rw [hhead] at hc
        obtain rfl := Option.some.inj hc
        rfl
  have hend : ∀ c ∈ (framing.eventLine.toList ++ "data: ".toList ++ data).getLast?,
      isPySpace c = false := by
    rwa [List.getLast?_append_of_ne_nil _ hdata]
  have htrim : trim isPySpace ([] ++ (framing.eventLine.toList ++ "data: ".toList ++ data) ++ trail)
      = framing.eventLine.toList ++ "data: ".toList ++ data :=
    trim_append (by simp) htrail hfirst hend
  have hstripped : (strip raw).toList = framing.eventLine.toList ++ "data: ".toList ++ data := by
    rw [toList_strip, hraw]
    exact htrim
  have hne : strip raw ≠ "" := by
    intro hnil
    rw [hnil] at hstripped
    rw [← hstripped] at hhead
    simp at hhead
  have hbrace : (strip raw).toList.head? ≠ some '{' := by
    rw [hstripped]
    obtain hhead | hhead := hhead <;>
      · rw [hhead]
        decide
  unfold parseMcpMessage
  dsimp only
  rw [if_neg hne, if_neg hbrace, splitLines, hstripped, filterMap_dataText]

theorem not_separator_of_mem_dataTexts {text : String} (h : text ∈ dataTexts data) :
    ∀ c ∈ text.toList, isLineSeparator c = false := by
  obtain ⟨line, hline, htext⟩ := List.mem_filterMap.mp h
  unfold dataText at htext
  split_ifs at htext
  obtain rfl := Option.some.inj htext
  intro c hc
  rw [toList_strip, String.toList_ofList] at hc
  have hmem := (List.drop_sublist 5 line).subset ((trim_sublist _ _).subset hc)
  exact not_separator_of_mem_lines (by simp) hline c hmem

theorem dataTexts_of_clean (h : ∀ c ∈ data, isLineSeparator c = false) :
    dataTexts data = [String.ofList (trim isPySpace data)] := by
  have hclean : ∀ c ∈ "data: ".toList ++ data, isLineSeparator c = false := by
    intro c hc
    obtain hc | hc := List.mem_append.mp hc
    · exact clean_of_all (by decide) c hc
    · exact h c hc
  have hlines : splitLinesFrom [] ("data: ".toList ++ data) = ["data: ".toList ++ data] := by
    have happend : splitLinesFrom [] ("data: ".toList ++ data ++ []) =
        splitLinesFrom ([] ++ ("data: ".toList ++ data)) [] := splitLinesFrom_append hclean
    rw [List.append_nil, List.nil_append] at happend
    rw [happend]
    rfl
  have htext : dataText ("data: ".toList ++ data) = some (String.ofList (trim isPySpace data)) := by
    have hspace : ∀ c ∈ [' '], isPySpace c = true := List.all_iff_forall_prop.mp (by decide)
    have hstrip : strip (String.ofList (' ' :: data)) = String.ofList (trim isPySpace data) := by
      apply String.toList_inj.mp
      rw [toList_strip, String.toList_ofList, String.toList_ofList, ← trim_append_left hspace]
      rfl
    exact congrArg some hstrip
  rw [dataTexts, hlines, List.filterMap_cons_some htext]
  rfl

/-! ## Both framings -/

theorem toOption_parseJsonMap (text invalid nonObject : String) :
    (parseJsonMap validateJson text invalid nonObject).toOption =
      match validateJson text with
      | .object payload => some payload
      | _ => none := by
  unfold parseJsonMap
  cases validateJson text <;> rfl

theorem parseMcpMessage_json {text : List Char} (h : (strip json).toList = '{' :: text) :
    parseMcpMessage validateJson json = parseJsonMap validateJson (strip json)
      "document MCP returned invalid JSON" "document MCP returned a non-object JSON response" := by
  have hne : strip json ≠ "" := by
    intro hnil
    rw [hnil] at h
    cases h
  unfold parseMcpMessage
  dsimp only
  have hbrace : (strip json).toList.head? = some '{' := by
    rw [h]
    rfl
  rw [if_neg hne, if_pos hbrace]

/-- The data of an event stream, up to the white space at its end. -/
theorem exists_data (hobject : IsObjectText json)
    (hline : ∀ c ∈ json.toList, c ≠ '\r' ∧ c ≠ '\n') :
    ∃ space text, (strip json).toList = '{' :: text ∧ (∀ c ∈ space, c = ' ' ∨ c = '\t') ∧
      ∀ (JsonMap : Type) (validateJson : String → JsonValidation JsonMap) (framing : EventFraming),
        parseMcpMessage validateJson (framing.frame json) =
          parseDataText validateJson (dataTexts (space ++ '{' :: text)).getLast? := by
  obtain ⟨space, text, trail, hjson, hstrip, hspace, htrail⟩ := exists_objectText hobject hline
  refine ⟨space, text, hstrip, hspace, fun JsonMap validateJson framing => ?_⟩
  have hlast : ∀ c ∈ (space ++ '{' :: text).getLast?, isPySpace c = false := by
    intro c hc
    rw [List.getLast?_append_of_ne_nil _ (List.cons_ne_nil _ _), ← hstrip, toList_strip] at hc
    exact getLast?_trim isPySpace _ c hc
  have hframe : (framing.frame json).toList = framing.eventLine.toList ++ "data: ".toList ++
      (space ++ '{' :: text) ++ (trail ++ framing.blanks.toList) := by
    simp only [EventFraming.frame, String.toList_append, hjson, List.append_assoc]
  exact parseMcpMessage_stream (by simp) hlast hframe fun c hc =>
    (List.mem_append.mp hc).elim (htrail c) (framing.blank c)

/-- Both framings of an object are read alike, by every validator, exactly when `str.splitlines`
splits its text nowhere. -/
theorem sameMessage_iff (hobject : IsObjectText json)
    (hline : ∀ c ∈ json.toList, c ≠ '\r' ∧ c ≠ '\n') :
    SameMessage json ↔ ∀ c ∈ (strip json).toList, isLineSeparator c = false := by
  obtain ⟨space, text, hstrip, hspace, hstream⟩ := exists_data hobject hline
  constructor
  · intro hsame c hc
    -- a validator that accepts the whole text only
    let validate : String → JsonValidation Unit := fun raw =>
      if raw = strip json then .object () else .invalid
    have hread := hsame Unit validate ⟨none, "", by simp, by simp⟩
    have hwhole : (parseMcpMessage validate json).toOption = some () := by
      rw [parseMcpMessage_json hstrip, toOption_parseJsonMap]
      simp [validate]
    rw [hwhole, hstream] at hread
    cases hdata : (dataTexts (space ++ '{' :: text)).getLast? with
    | none =>
      rw [hdata] at hread
      cases hread
    | some data =>
      rw [hdata] at hread
      rw [parseDataText, toOption_parseJsonMap] at hread
      by_cases hdata' : data = strip json
      · exact not_separator_of_mem_dataTexts (List.mem_of_getLast? hdata) c (hdata' ▸ hc)
      · simp [validate, hdata'] at hread
  · intro hclean JsonMap validateJson framing
    have hdata : ∀ c ∈ space ++ '{' :: text, isLineSeparator c = false := by
      intro c hc
      obtain hc | hc := List.mem_append.mp hc
      · obtain rfl | rfl := hspace c hc <;> rfl
      · exact hclean c (hstrip ▸ hc)
    have hlead : ∀ c ∈ space, isPySpace c = true := by
      intro c hc
      obtain rfl | rfl := hspace c hc <;> rfl
    have htrim : String.ofList (trim isPySpace (space ++ '{' :: text)) = strip json := by
      apply String.toList_inj.mp
      rw [trim_append_left hlead, String.toList_ofList, ← hstrip, toList_strip, trim_trim]
    rw [hstream, dataTexts_of_clean hdata, htrim, parseMcpMessage_json hstrip,
      toOption_parseJsonMap]
    exact toOption_parseJsonMap ..

theorem sameMessage_plain : SameMessage " \x7b\"a\":[]\x7d" :=
  (sameMessage_iff ⟨[' '], "\"a\":[]\x7d".toList, by decide, by simp⟩
    (List.all_iff_forall_prop.mp (by decide +kernel))).mpr
      (List.all_iff_forall_prop.mp (by decide +kernel))

end Framings

/-! ## A line separator in a string -/

namespace LineSeparator

/-- A string of one line separator, which JSON does not ask to escape. -/
def json : String := "\x7b\"a\":\"\u2028\"\x7d"

/-- What a validator reads of the whole text, and of its part up to the separator. -/
def validateJson (raw : String) : JsonValidation (List (String × String)) :=
  if raw = json then .object [("a", "\u2028")] else .invalid

def framing : EventFraming := ⟨none, "\n\n", by simp, List.all_iff_forall_prop.mp (by decide)⟩

end LineSeparator

open LineSeparator in
/-- The event stream is cut at the separator and rejected. -/
theorem sameMessage_lineSeparator : IsObjectText json ∧
    (parseMcpMessage validateJson json).toOption = some [("a", "\u2028")] ∧
    parseMcpMessage validateJson (framing.frame json) =
      .error "document MCP SSE data is invalid JSON" ∧ ¬ SameMessage json := by
  have hwhole : (parseMcpMessage validateJson json).toOption = some [("a", "\u2028")] := by
    decide +kernel
  have hstream : parseMcpMessage validateJson (framing.frame json) =
      .error "document MCP SSE data is invalid JSON" := by decide +kernel
  refine ⟨⟨[], "\"a\":\"\u2028\"\x7d".toList, by decide, by simp⟩, hwhole, hstream, fun hsame => ?_⟩
  have hread := hsame _ validateJson framing
  rw [hwhole, hstream] at hread
  cases hread

end MarketSupport
