import Mathlib.Data.List.ReduceOption
import MarketSupport.Recall.DocumentQaCorpus

/-!
# Parsing the corpus

The parser reads every document line by line; what it returns is said of whole documents.

## Main results

* `parseLines_eq` — reading the lines is reading the questions with the lines after them.
* `parseQaEntries_eq` — the entries of a corpus, and when there are none.
-/

namespace MarketSupport.Recall

open Library

variable {digest : Sha256Hex} {docId title : String}

/-! ## The loops never raise -/

/-- The entries of a question with some answer lines. -/
def questionEntries (digest : Sha256Hex) (docId title : String)
    (question : String × List String) : List DocumentQaEntry :=
  (questionVariants question.1).map (documentQaEntry digest docId title (answerOf question.2))

theorem appendEntry_eq (hdocId : 1 ≤ docId.length ∧ docId.length ≤ 160)
    (htitle : title.length ≤ 240) (entries : List DocumentQaEntry) (question : String)
    (answerLines : List String) :
    appendEntry digest docId title entries question answerLines =
      .ok (entries ++ questionEntries digest docId title (question, answerLines)) := by
  have hstep (entries : List DocumentQaEntry) (variant : String)
      (h : variant ∈ questionVariants question) :
      (if (documentQaEntry digest docId title (answerOf answerLines) variant).Checked then
        Except.ok (entries ++ [documentQaEntry digest docId title (answerOf answerLines) variant])
      else .error RecallException.validationError) =
        .ok (entries ++ [documentQaEntry digest docId title (answerOf answerLines) variant]) :=
    if_pos (documentQaEntry_checked hdocId htitle h)
  refine (foldlM_eq_ok hstep entries).trans (congrArg Except.ok ?_)
  unfold questionEntries
  generalize questionVariants question = variants
  induction variants generalizing entries with
  | nil => simp
  | cons variant variants ih => simp [ih]

/-- What a line does to the variables of the loop. -/
def readLine (digest : Sha256Hex) (docId title : String) (state : ParserState) (line : String) :
    ParserState :=
  match questionText line with
  | some question => ⟨state.entries ++ questionEntries digest docId title
      (state.currentQuestion, state.answerLines), question, []⟩
  | none => { state with
      answerLines := addAnswerLine (state.currentQuestion ≠ "") state.answerLines line }

theorem parseLine_eq (hdocId : 1 ≤ docId.length ∧ docId.length ≤ 160)
    (htitle : title.length ≤ 240) (state : ParserState) (rawLine : String) :
    parseLine digest docId title state rawLine =
      .ok (readLine digest docId title state (strip rawLine)) := by
  dsimp only [parseLine, readLine, addAnswerLine]
  cases questionText (strip rawLine) with
  | some question =>
    simp only [appendEntry_eq hdocId htitle]
    rfl
  | none =>
    cases answerText (strip rawLine) with
    | some answer => rfl
    | none =>
      simp only [decide_eq_true_eq]
      split_ifs <;> rfl

/-! ## Lines without a question -/

theorem foldl_readLine {lines : List String} (h : ∀ line ∈ lines, questionText line = none)
    (state : ParserState) : lines.foldl (readLine digest docId title) state =
      { state with answerLines :=
          lines.foldl (addAnswerLine (state.currentQuestion ≠ "")) state.answerLines } := by
  induction lines generalizing state with
  | nil => rfl
  | cons line lines ih =>
    obtain ⟨hline, hlines⟩ := List.forall_mem_cons.mp h
    rw [List.foldl_cons, readLine, hline, ih hlines]
    rfl

/-- After a question, the answer starts again at every answer line. -/
theorem foldl_addAnswerLine (lines : List String) :
    lines.foldl (addAnswerLine true) [] = sectionAnswer lines := by
  have hreset (acc : List String) (line answer : String) (h : answerText line = some answer) :
      addAnswerLine true acc line = [answer] := by
    rw [addAnswerLine, h]
  have hplain (lines acc : List String) (h : ∀ line ∈ lines, answerText line = none) :
      lines.foldl (addAnswerLine true) acc = acc ++ lines.filter (· ≠ "") := by
    induction lines generalizing acc with
    | nil => simp
    | cons line lines ih =>
      obtain ⟨hline, hlines⟩ := List.forall_mem_cons.mp h
      rw [List.foldl_cons, ih _ hlines, addAnswerLine, hline]
      by_cases hempty : line = "" <;> simp [hempty]
  rw [foldl_reset hreset, sectionAnswer]
  cases hlast : (sections answerText lines).2.getLast? with
  | none =>
    have hnil : (sections answerText lines).2 = [] := by simpa using hlast
    have hfront := front_eq_of_sections_eq_nil hnil
    rw [Option.elim_none, Option.elim_none, hfront,
      hplain lines [] (fun line h => header_eq_none_of_mem_front (hfront ▸ h)), List.nil_append]
  | some last =>
    have hmem : last ∈ (sections answerText lines).2 := List.mem_of_getLast? hlast
    rw [Option.elim_some, Option.elim_some,
      hplain last.2 [last.1] (fun line h => header_eq_none_of_mem_section hmem h)]
    rfl

example : sectionAnswer ["A: first", "more", "答：second", "", "third"] = ["second", "third"] := by
  decide +kernel

theorem questionText_ne_empty {line question : String} (h : questionText line = some question) :
    question ≠ "" := by
  simpa using (Option.filter_eq_some_iff.mp h).2

/-! ## Documents -/

/-- The body of a question is read into its answer. -/
theorem foldl_section {part : String × List String} (hquestion : part.1 ≠ "")
    (hlines : ∀ line ∈ part.2, questionText line = none) (entries : List DocumentQaEntry) :
    part.2.foldl (readLine digest docId title) ⟨entries, part.1, []⟩ =
      ⟨entries, part.1, sectionAnswer part.2⟩ := by
  rw [foldl_readLine hlines]
  simp [hquestion, ← foldl_addAnswerLine]

/-- Every question waits for its answer until the next question, or the end. -/
theorem foldl_questions {parts : List (String × List String)}
    (hparts : ∀ part ∈ parts, part.1 ≠ "" ∧ ∀ line ∈ part.2, questionText line = none)
    (state : ParserState) :
    let last := parts.foldl (fun state part => part.2.foldl (readLine digest docId title)
      ⟨state.entries ++ questionEntries digest docId title
        (state.currentQuestion, state.answerLines), part.1, []⟩) state
    last.entries ++ questionEntries digest docId title (last.currentQuestion, last.answerLines) =
      state.entries ++ questionEntries digest docId title
        (state.currentQuestion, state.answerLines) ++
          parts.flatMap (sectionEntries digest docId title) := by
  induction parts generalizing state with
  | nil => simp
  | cons part parts ih =>
    obtain ⟨⟨hquestion, hlines⟩, hparts⟩ := List.forall_mem_cons.mp hparts
    intro last
    have hlast := ih hparts ⟨state.entries ++ questionEntries digest docId title
      (state.currentQuestion, state.answerLines), part.1, sectionAnswer part.2⟩
    rw [← foldl_section hquestion hlines] at hlast
    refine hlast.trans ?_
    rw [foldl_section hquestion hlines, List.flatMap_cons, ← List.append_assoc]
    rfl

/-- The parser gives every question the answer of the lines up to the next question. -/
theorem parseLines_eq (hdocId : 1 ≤ docId.length ∧ docId.length ≤ 160)
    (htitle : title.length ≤ 240) (lines : List String) : parseLines digest docId title lines =
      .ok ((sections questionText (lines.map strip)).2.flatMap
        (sectionEntries digest docId title)) := by
  have hlines : lines.foldlM (parseLine digest docId title) {} =
      .ok ((lines.map strip).foldl (readLine digest docId title) {}) := by
    rw [List.foldl_map]
    exact foldlM_eq_ok (fun state line _ => parseLine_eq hdocId htitle state line) {}
  have henter (state : ParserState) (line question : String)
      (h : questionText line = some question) :
      readLine digest docId title state line = ⟨state.entries ++ questionEntries digest docId title
        (state.currentQuestion, state.answerLines), question, []⟩ := by
    rw [readLine, h]
  have hparts (part : String × List String)
      (h : part ∈ (sections questionText (lines.map strip)).2) :
      part.1 ≠ "" ∧ ∀ line ∈ part.2, questionText line = none := by
    refine ⟨?_, fun line => header_eq_none_of_mem_section h⟩
    have hmem : part.1 ∈ (lines.map strip).filterMap questionText := by
      rw [← map_fst_sections]
      exact List.mem_map_of_mem h
    obtain ⟨line, -, hline⟩ := List.mem_filterMap.mp hmem
    exact questionText_ne_empty hline
  rw [parseLines, hlines, ok_bind, appendEntry_eq hdocId htitle, foldl_sections henter,
    foldl_readLine fun line => header_eq_none_of_mem_front]
  refine congrArg Except.ok ((foldl_questions hparts _).trans ?_)
  have hempty : questionVariants "" = [] := by decide
  simp [questionEntries, hempty]

/-! ## The corpus -/

variable (sanitizer : DocumentSanitizer)

theorem length_safeMetadataLabel_le (value : String) :
    (safeMetadataLabel sanitizer value).length ≤ 160 := by
  dsimp only [safeMetadataLabel]
  split_ifs
  · decide
  · exact (length_strip_le _).trans (length_truncate_le _ _)

theorem length_title_le {docId : String} (h : docId.length ≤ 160) (rawTitle : String) :
    (orElse (safeMetadataLabel sanitizer rawTitle) docId).length ≤ 240 := by
  have hlabel := length_safeMetadataLabel_le sanitizer rawTitle
  unfold orElse
  split_ifs <;> omega

variable {sanitizer}

/-- The entries of a document: those of its questions, if the document has an id. -/
def QaDocument.entries (digest : Sha256Hex) (sanitizer : DocumentSanitizer)
    (maxCharsPerDocument : Option ℕ) (document : QaDocument) : List DocumentQaEntry :=
  let docId := safeMetadataLabel sanitizer (strip document.id)
  let rawTitle := strip (orElse (orElse document.title document.name) docId)
  let lines := (document.lines sanitizer maxCharsPerDocument).map strip
  if docId = "" then []
  else (sections questionText lines).2.flatMap
    (sectionEntries digest docId (orElse (safeMetadataLabel sanitizer rawTitle) docId))

theorem parseDocumentEntries_eq (digest : Sha256Hex) (sanitizer : DocumentSanitizer)
    (maxCharsPerDocument : Option ℕ) (document : QaDocument) :
    parseDocumentEntries digest sanitizer maxCharsPerDocument document =
      .ok (document.entries digest sanitizer maxCharsPerDocument) := by
  dsimp only [parseDocumentEntries, QaDocument.entries]
  split_ifs with hdocId
  · rfl
  · have hlabel := length_safeMetadataLabel_le sanitizer (strip document.id)
    have hbounds := And.intro (one_le_length_iff.mpr hdocId) hlabel
    exact parseLines_eq hbounds (length_title_le sanitizer hlabel _) _

/-- The entries of a document are within the bounds of their constructor. -/
theorem checked_of_mem_entries {maxCharsPerDocument : Option ℕ} {document : QaDocument}
    {entry : DocumentQaEntry} (h : entry ∈ document.entries digest sanitizer maxCharsPerDocument) :
    entry.Checked := by
  dsimp only [QaDocument.entries] at h
  split_ifs at h with hdocId
  · exact absurd h List.not_mem_nil
  · obtain ⟨part, -, hentry⟩ := List.mem_flatMap.mp h
    obtain ⟨variant, hvariant, rfl⟩ := List.mem_map.mp hentry
    have hlabel := length_safeMetadataLabel_le sanitizer (strip document.id)
    exact documentQaEntry_checked ⟨one_le_length_iff.mpr hdocId, hlabel⟩
      (length_title_le sanitizer hlabel _) hvariant

/-- A corpus is parsed document by document, unless one of them is no mapping; every entry is one
that the constructor takes. -/
theorem parseQaEntries_eq (digest : Sha256Hex) (sanitizer : DocumentSanitizer)
    (maxCharsPerDocument : Option ℕ) (documents : List (Option QaDocument)) :
    parseQaEntries digest sanitizer maxCharsPerDocument documents =
        (if none ∈ documents then .error .qaCorpusShapeError
        else .ok (documents.reduceOption.flatMap
          (QaDocument.entries digest sanitizer maxCharsPerDocument))) ∧
      ∀ document ∈ documents.reduceOption, ∀ entry ∈ document.entries digest sanitizer
        maxCharsPerDocument, entry.Checked := by
  refine ⟨?_, fun document _ entry => checked_of_mem_entries⟩
  have hloop (documents : List (Option QaDocument)) (entries : List DocumentQaEntry) :
      documents.foldlM (addDocument digest sanitizer maxCharsPerDocument) entries =
        if none ∈ documents then .error .qaCorpusShapeError
        else .ok (entries ++ documents.reduceOption.flatMap
          (QaDocument.entries digest sanitizer maxCharsPerDocument)) := by
    induction documents generalizing entries with
    | nil =>
      rw [if_neg List.not_mem_nil, List.reduceOption_nil, List.flatMap_nil, List.append_nil]
      rfl
    | cons document documents ih =>
      rw [List.foldlM_cons]
      cases document with
      | none =>
        rw [if_pos List.mem_cons_self]
        rfl
      | some document =>
        rw [addDocument, parseDocumentEntries_eq, ok_bind, pure_bind, ih]
        simp [List.reduceOption_cons_of_some]
  exact (hloop documents []).trans (by rw [List.nil_append])

end MarketSupport.Recall
