import MarketSupport.Integrations.DocumentManifest
import MarketSupport.Integrations.DocumentMcpParsing
import MarketSupport.Library.Sections
import MarketSupport.Lifecycle.PlanningFlow
import MarketSupport.Recall.Service

/-!
# The corpus of document questions

Documents of questions and answers are read line by line. A line is a question, an answer, or
goes on with the answer before it.

## Main results

* `length_of_mem_questionVariants` — no variant of a question is empty or too long.
* `documentQaEntry_checked` — an entry passes the checks of its constructor.
-/

namespace MarketSupport.Recall

open Library

/-! ## Entries -/

structure DocumentQaEntry where
  entryId : String
  docId : String
  docTitle : String
  question : String
  answer : String
  sourceHash : String
  deriving DecidableEq, Repr

/-- What the constructor of an entry checks. -/
structure DocumentQaEntry.Checked (entry : DocumentQaEntry) : Prop where
  entryId : 1 ≤ entry.entryId.length ∧ entry.entryId.length ≤ 80
  docId : 1 ≤ entry.docId.length ∧ entry.docId.length ≤ 160
  docTitle : entry.docTitle.length ≤ 240
  question : 1 ≤ entry.question.length ∧ entry.question.length ≤ 400
  answer : entry.answer.length ≤ 4000
  sourceHash : 12 ≤ entry.sourceHash.length ∧ entry.sourceHash.length ≤ 64

instance (entry : DocumentQaEntry) : Decidable entry.Checked :=
  decidable_of_iff ((1 ≤ entry.entryId.length ∧ entry.entryId.length ≤ 80) ∧
      (1 ≤ entry.docId.length ∧ entry.docId.length ≤ 160) ∧ entry.docTitle.length ≤ 240 ∧
      (1 ≤ entry.question.length ∧ entry.question.length ≤ 400) ∧ entry.answer.length ≤ 4000 ∧
      (12 ≤ entry.sourceHash.length ∧ entry.sourceHash.length ≤ 64))
    ⟨fun ⟨a, b, c, d, e, f⟩ => ⟨a, b, c, d, e, f⟩, fun ⟨a, b, c, d, e, f⟩ => ⟨a, b, c, d, e, f⟩⟩

/-! ## Lines -/

/-- `_QUESTION_RE` has these in front of the colon, and `_ANSWER_RE` the other four. -/
def questionLabels : List String := ["Q", "q", "问", "问题"]

def answerLabels : List String := ["A", "a", "答", "答案"]

/-- The colons `:` and `：`. -/
def isColon (c : Char) : Bool := c.toNat ∈ [0x3a, 0xff1a]

/-- What stands after a label, a colon and the space around it. -/
def afterLabel (labels : List String) (line : String) : Option String :=
  labels.findSome? fun label =>
    if label.toList <+: line.toList then
      match (line.toList.drop label.length).dropWhile isPySpace with
      | [] => none
      | c :: rest => if isColon c then some (strip (String.ofList rest)) else none
    else none

/-- The question of a line without space around it; a question is never empty. -/
def questionText (line : String) : Option String :=
  (afterLabel questionLabels line).filter (· ≠ "")

/-- The answer of a line without space around it. -/
def answerText (line : String) : Option String := afterLabel answerLabels line

/-! ## Questions -/

/-- `_compact_question`. -/
def compactQuestion (question : String) : String := strip (truncate 400 (strip question))

/-- The slashes `/` and `／`. -/
def isSlash (c : Char) : Bool := c.toNat ∈ [0x2f, 0xff0f]

/-- The parts of a question between slashes. The code takes the space around a slash away with
it; every part is stripped before it is used. -/
def questionParts (question : String) : List String :=
  (question.toList.splitOnP isSlash).map String.ofList

/-- `_question_variants`. -/
def questionVariants (question : String) : List String :=
  let normalized := strip question
  if normalized = "" then []
  else
    let variants := ((questionParts normalized).filter (strip · ≠ "")).map compactQuestion
    if variants = [] then [compactQuestion normalized] else variants

/-! ## Parsing -/

variable (digest : Sha256Hex) (docId title : String)

/-- The answer of some lines. -/
def answerOf (answerLines : List String) : String :=
  strip ("\n".intercalate (answerLines.filter (strip · ≠ "")))

/-- The entry of one variant of a question. -/
def documentQaEntry (answer question : String) : DocumentQaEntry :=
  let sourceHash := digest.hexdigest (docId ++ "\n" ++ question ++ "\n" ++ answer)
  { entryId := "qa:" ++ truncate 16 sourceHash
    docId
    docTitle := title
    question
    answer := truncate 4000 answer
    sourceHash }

/-- `_append_entry`. -/
def appendEntry (entries : List DocumentQaEntry) (question : String) (answerLines : List String) :
    Except RecallException (List DocumentQaEntry) :=
  (questionVariants question).foldlM (fun entries variant =>
    let entry := documentQaEntry digest docId title (answerOf answerLines) variant
    if entry.Checked then .ok (entries ++ [entry]) else .error .validationError) entries

/-- The variables of the loop over the lines. -/
structure ParserState where
  entries : List DocumentQaEntry := []
  currentQuestion : String := ""
  answerLines : List String := []

/-- The body of the loop. -/
def parseLine (state : ParserState) (rawLine : String) : Except RecallException ParserState :=
  let line := strip rawLine
  match questionText line with
  | some question => do
    let entries ← appendEntry digest docId title state.entries state.currentQuestion
      state.answerLines
    return ⟨entries, question, []⟩
  | none =>
    match answerText line with
    | some answer => .ok { state with answerLines := [answer] }
    | none =>
      if state.currentQuestion ≠ "" ∧ line ≠ "" then
        .ok { state with answerLines := state.answerLines ++ [line] }
      else .ok state

/-- The loop over the lines, and the entry after it. -/
def parseLines (lines : List String) : Except RecallException (List DocumentQaEntry) := do
  let state ← lines.foldlM (parseLine digest docId title) {}
  appendEntry digest docId title state.entries state.currentQuestion state.answerLines

/-! ## Sections of a document -/

/-- Take a line that is no question into the answer; only after a question does a line go on. -/
def addAnswerLine (started : Bool) (answerLines : List String) (line : String) : List String :=
  match answerText line with
  | some answer => [answer]
  | none => if started ∧ line ≠ "" then answerLines ++ [line] else answerLines

/-- The answer of the lines after a question: the last answer among them, and the lines that go
on with it. -/
def sectionAnswer (lines : List String) : List String :=
  (sections answerText lines).2.getLast?.elim (lines.filter (· ≠ "")) fun last =>
    last.1 :: last.2.filter (· ≠ "")

/-- The entries of a question and the lines after it. -/
def sectionEntries (part : String × List String) : List DocumentQaEntry :=
  (questionVariants part.1).map
    (documentQaEntry digest docId title (answerOf (sectionAnswer part.2)))

/-- The values of a document, as strings; those that are missing are empty. -/
structure QaDocument where
  id : String := ""
  title : String := ""
  name : String := ""
  content : String := ""
  text : String := ""
  deriving DecidableEq, Repr

/-- `a or b`. -/
def orElse (a b : String) : String := if a = "" then b else a

variable (sanitizer : DocumentSanitizer)

/-- `safe_metadata_label`. -/
def safeMetadataLabel (value : String) : String :=
  let sanitized := sanitizer.sanitize value
  if sanitized.internalLocatorRedacted || sanitized.secretRedacted then "document"
  else strip (truncate 160 sanitized.text)

variable (maxCharsPerDocument : Option ℕ)

/-- The lines that are read of a document. -/
def QaDocument.lines (document : QaDocument) : List String :=
  let content := orElse document.content document.text
  let content := maxCharsPerDocument.elim content fun n => truncate n content
  (splitLines (sanitizer.sanitize content).text).map String.ofList

/-- `_parse_document_entries`. -/
def parseDocumentEntries (document : QaDocument) : Except RecallException (List DocumentQaEntry) :=
  let docId := safeMetadataLabel sanitizer (strip document.id)
  if docId = "" then .ok []
  else
    let rawTitle := strip (orElse (orElse document.title document.name) docId)
    let title := orElse (safeMetadataLabel sanitizer rawTitle) docId
    parseLines digest docId title (document.lines sanitizer maxCharsPerDocument)

/-- The body of the loop over the documents; `none` is a document that is no mapping. -/
def addDocument (entries : List DocumentQaEntry) :
    Option QaDocument → Except RecallException (List DocumentQaEntry)
  | none => .error .qaCorpusShapeError
  | some document => do
    let parsed ← parseDocumentEntries digest sanitizer maxCharsPerDocument document
    return entries ++ parsed

def parseQaEntries (documents : List (Option QaDocument)) :
    Except RecallException (List DocumentQaEntry) :=
  documents.foldlM (addDocument digest sanitizer maxCharsPerDocument) []

/-! ## The checks of the entries -/

theorem length_strip_le (s : String) : (strip s).length ≤ s.length := by
  rw [← String.length_toList, ← String.length_toList, toList_strip]
  exact (trim_sublist isPySpace s.toList).length_le

theorem length_truncate_le (n : ℕ) (s : String) : (truncate n s).length ≤ n := by
  rw [truncate, String.length_ofList, List.length_take]
  exact Nat.min_le_left _ _

theorem strip_strip (s : String) : strip (strip s) = strip s := by
  rw [← String.toList_inj, toList_strip, toList_strip, trim_trim]

theorem one_le_length_iff {s : String} : 1 ≤ s.length ↔ s ≠ "" := by
  rw [← String.length_toList, Nat.one_le_iff_ne_zero, ne_eq, List.length_eq_zero_iff,
    String.toList_eq_nil_iff]

theorem length_compactQuestion {question : String} (h : strip question ≠ "") :
    1 ≤ (compactQuestion question).length ∧ (compactQuestion question).length ≤ 400 := by
  constructor
  · rw [← String.length_toList, compactQuestion, toList_strip, truncate, String.toList_ofList]
    have hne : (strip question).toList ≠ [] := by simpa using h
    rw [toList_strip] at hne ⊢
    cases htrim : trim isPySpace question.toList with
    | nil => exact absurd htrim hne
    | cons c cs =>
      have hc : isPySpace c = false := head?_trim isPySpace question.toList c (by simp [htrim])
      refine List.length_pos_iff.mpr fun hnil => ?_
      rw [List.take_succ_cons, trim, List.dropWhile_cons_of_neg (by simp [hc]),
        List.rdropWhile_eq_nil_iff] at hnil
      simp [hc] at hnil
  · exact (length_strip_le _).trans (length_truncate_le _ _)

theorem length_of_mem_questionVariants {question variant : String}
    (h : variant ∈ questionVariants question) : 1 ≤ variant.length ∧ variant.length ≤ 400 := by
  dsimp only [questionVariants] at h
  split_ifs at h with hnil hvariants
  · exact absurd h List.not_mem_nil
  · obtain rfl := List.mem_singleton.mp h
    exact length_compactQuestion (by rwa [strip_strip])
  · obtain ⟨part, hpart, rfl⟩ := List.mem_map.mp h
    exact length_compactQuestion (by simpa using (List.mem_filter.mp hpart).2)

variable {digest docId title}

/-- The entries of a document pass the checks of their constructor. -/
theorem documentQaEntry_checked (hdocId : 1 ≤ docId.length ∧ docId.length ≤ 160)
    (htitle : title.length ≤ 240) {answer question variant : String}
    (h : variant ∈ questionVariants question) :
    (documentQaEntry digest docId title answer variant).Checked where
  entryId := by
    have hlength := length_truncate_le 16
      (digest.hexdigest (docId ++ "\n" ++ variant ++ "\n" ++ answer))
    have hprefix : "qa:".length = 3 := rfl
    simp only [documentQaEntry, String.length_append, hprefix]
    omega
  docId := hdocId
  docTitle := htitle
  question := length_of_mem_questionVariants h
  answer := length_truncate_le 4000 answer
  sourceHash := by
    have hlength := digest.length (docId ++ "\n" ++ variant ++ "\n" ++ answer)
    rw [String.length_toList] at hlength
    simp only [documentQaEntry, hlength]
    omega

end MarketSupport.Recall
