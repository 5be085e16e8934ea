import Mathlib.Data.Finset.Card
import Mathlib.Data.Prod.Lex
import Mathlib.Data.String.Basic
import MarketSupport.Library.Strongest
import MarketSupport.Recall.OutcomeModels

/-!
# Branches of recall

What recall makes of the matches of its two sources, and how it merges their candidates.

## Main results

* `approvedStaticBranch_count`, `documentRecallBranch_rejectedCount` — no candidate is lost, and
  the documents have none rejected.
* `merges_mergeRecallCandidates` — the candidates of a merge.
-/

namespace MarketSupport.Recall

open Library

/-! ## Matches -/

inductive QuestionRecallDecision where
  | recallHit
  | recallHint
  | failOpen
  deriving DecidableEq, Repr

/-- Of the statuses of a match only `unavailable` is read. -/
inductive QuestionRecallStatus where
  | disabled
  | unavailable
  | noMatch
  | candidates
  | matched
  deriving DecidableEq, Repr

inductive QuestionRecallSource where
  | documentMcp
  | approvedStaticKnowledge
  deriving DecidableEq, Repr

/-- The fields of a `QuestionRecallCandidate` that recall reads. -/
structure QuestionRecallCandidate where
  entryId : String
  canonicalId : String
  question : String
  question_length : 1 ≤ question.length ∧ question.length ≤ 400
  sourceType : QuestionRecallSource
  confidence : ℚ
  confidence_range : 0 ≤ confidence ∧ confidence ≤ 1
  answerAvailable : Bool

structure QuestionRecallMatch where
  status : QuestionRecallStatus
  decision : QuestionRecallDecision
  candidates : List QuestionRecallCandidate
  candidates_length : candidates.length ≤ 8

structure ApprovedStaticRecallCollectionV1 where
  recallMatch : QuestionRecallMatch
  shortcutPayload : Option ApprovedStaticShortcutPayloadV1 := none

/-- The fields of a `KnowledgeQaCandidate` that recall reads. -/
structure KnowledgeQaCandidate where
  question : String
  question_length : 1 ≤ question.length ∧ question.length ≤ 400
  score : ℚ
  score_range : 0 ≤ score ∧ score ≤ 1

structure KnowledgeQaMatch where
  status : QuestionRecallStatus
  candidates : List KnowledgeQaCandidate
  candidates_length : candidates.length ≤ 8

/-! ## Branches -/

structure RecallBranchCollectionV1 where
  sourceClass : RecallSourceClassV1
  candidates : List RecallCandidateViewV1 := []
  rejectedCount : ℕ := 0
  unavailable : Bool := false
  deriving DecidableEq

/-- `RecallBranchCollectionV1.outcome`. -/
def RecallBranchCollectionV1.outcome (branch : RecallBranchCollectionV1) :
    Except RecallException RecallBranchOutcomeV1 :=
  let acceptedCount := branch.candidates.length
  if branch.unavailable then
    RecallBranchOutcomeV1.create branch.sourceClass .unavailable 0 0 .sourceUnavailable
  else
    let (status, reason) : RecallBranchStatusV1 × RecallBranchReasonV1 :=
      if acceptedCount ≠ 0 ∧ branch.rejectedCount ≠ 0 then (.partialStatus, .candidateRejected)
      else if branch.rejectedCount ≠ 0 then (.invalid, .sourceInvalid)
      else if acceptedCount ≠ 0 then (.ok, .ok)
      else (.ok, .noMatch)
    RecallBranchOutcomeV1.create branch.sourceClass status acceptedCount branch.rejectedCount reason

/-- The views of the candidates that have one, and the number of the others. -/
def collectViews {γ : Type} (view : γ → Option RecallCandidateViewV1) (candidates : List γ) :
    List RecallCandidateViewV1 × ℕ :=
  candidates.foldl (fun acc candidate => match view candidate with
    | some accepted => (acc.1 ++ [accepted], acc.2)
    | none => (acc.1, acc.2 + 1)) ([], 0)

variable (encoding : RecallEncoding)

/-- A view, or nothing where its constructor raises. -/
def RecallCandidateViewV1.create? (candidate : RecallCandidateViewV1) :
    Option RecallCandidateViewV1 :=
  if candidate.Checked encoding then some candidate else none

/-- The view of a static candidate. -/
def approvedStaticView (decision : QuestionRecallDecision) (candidate : QuestionRecallCandidate) :
    Option RecallCandidateViewV1 :=
  let reasonCode : RecallCandidateReasonV1 :=
    if decision = .recallHit then .approvedRecallHit else .approvedRecallHint
  if candidate.sourceType = .documentMcp then none
  else RecallCandidateViewV1.create? encoding {
    candidateId := candidate.entryId
    canonicalId := candidate.canonicalId
    sourceClass := .approvedStatic
    question := candidate.question
    confidence := candidate.confidence
    reasonCode := if candidate.answerAvailable then reasonCode else .approvedRecallHint }

def approvedStaticBranch (recallMatch : QuestionRecallMatch) : RecallBranchCollectionV1 :=
  if recallMatch.status = .unavailable then { sourceClass := .approvedStatic, unavailable := true }
  else
    let (candidates, rejectedCount) :=
      collectViews (approvedStaticView encoding recallMatch.decision) recallMatch.candidates
    { sourceClass := .approvedStatic, candidates, rejectedCount }

/-- SHA-256 digests of texts, in lowercase hexadecimal digits. -/
structure Sha256Hex where
  hexdigest : String → String
  length : ∀ text, (hexdigest text).toList.length = 64
  digits : ∀ text, (hexdigest text).toList.all isLowerHex = true

variable (digest : Sha256Hex)

/-- The view of a candidate of the documents. -/
def documentView (candidate : KnowledgeQaCandidate) : RecallCandidateViewV1 where
  candidateId := "document:" ++
    String.ofList ((digest.hexdigest candidate.question).toList.take 16)
  canonicalId := "document_qa:" ++ digest.hexdigest candidate.question
  sourceClass := .documentMcp
  question := candidate.question
  confidence := candidate.score
  reasonCode := .documentQaCandidate

def documentRecallBranch (recallMatch : KnowledgeQaMatch) : RecallBranchCollectionV1 :=
  if recallMatch.status = .unavailable then { sourceClass := .documentMcp, unavailable := true }
  else
    let (candidates, rejectedCount) :=
      collectViews (fun candidate => (documentView digest candidate).create? encoding)
        recallMatch.candidates
    { sourceClass := .documentMcp, candidates, rejectedCount }

/-! ## Merging -/

/-- The key of a candidate in the dictionary of a merge. -/
def RecallCandidateViewV1.key (candidate : RecallCandidateViewV1) : RecallSourceClassV1 × String :=
  (candidate.sourceClass, candidate.canonicalId)

/-- `source_order`. -/
def RecallSourceClassV1.order : RecallSourceClassV1 → ℕ
  | .approvedStatic => 0
  | .documentMcp => 1

/-- The key by which a merge sorts. -/
def RecallCandidateViewV1.rank (candidate : RecallCandidateViewV1) : ℚ ×ₗ ℕ ×ₗ String ×ₗ String :=
  toLex (-candidate.confidence, toLex (candidate.sourceClass.order,
    toLex (candidate.canonicalId, candidate.candidateId)))

def mergeRecallCandidates (static document : List RecallCandidateViewV1) :
    List RecallCandidateViewV1 :=
  firstByRank RecallCandidateViewV1.rank 5
    (strongestByKey RecallCandidateViewV1.key (·.confidence) (static ++ document))

/-! ## What the branches keep -/

theorem collectViews_eq {γ : Type} (view : γ → Option RecallCandidateViewV1)
    (candidates : List γ) : collectViews view candidates =
      (candidates.filterMap view, candidates.countP fun candidate => (view candidate).isNone) := by
  suffices h : ∀ acc : List RecallCandidateViewV1 × ℕ,
      candidates.foldl (fun acc candidate => match view candidate with
        | some accepted => (acc.1 ++ [accepted], acc.2)
        | none => (acc.1, acc.2 + 1)) acc =
      (acc.1 ++ candidates.filterMap view,
        acc.2 + candidates.countP fun candidate => (view candidate).isNone) by
    exact (h ([], 0)).trans (by simp)
  induction candidates with
  | nil => simp
  | cons candidate candidates ih =>
    intro acc
    rw [List.foldl_cons, ih]
    cases h : view candidate with
    | none => simp [h]; omega
    | some accepted => simp [h]

/-- Every candidate is accepted or counted as rejected. -/
theorem collectViews_count {γ : Type} (view : γ → Option RecallCandidateViewV1)
    (candidates : List γ) : (collectViews view candidates).1.length +
      (collectViews view candidates).2 = candidates.length := by
  rw [collectViews_eq]
  induction candidates with
  | nil => rfl
  | cons candidate candidates ih =>
    cases h : view candidate with
    | none => simp_all; omega
    | some accepted => simp_all; omega

variable {encoding digest}

theorem checked_of_create? {candidate view : RecallCandidateViewV1}
    (h : candidate.create? encoding = some view) : view = candidate ∧ view.WithinBounds := by
  unfold RecallCandidateViewV1.create? at h
  split_ifs at h with hchecked
  obtain rfl := Option.some.inj h
  exact ⟨rfl, hchecked.toWithinBounds⟩

theorem approvedStaticBranch_of_available {recallMatch : QuestionRecallMatch}
    (h : recallMatch.status ≠ .unavailable) : approvedStaticBranch encoding recallMatch =
      ⟨.approvedStatic, recallMatch.candidates.filterMap (approvedStaticView encoding
        recallMatch.decision), recallMatch.candidates.countP fun candidate =>
          (approvedStaticView encoding recallMatch.decision candidate).isNone, false⟩ := by
  rw [approvedStaticBranch, if_neg h, collectViews_eq]

/-- No candidate of the approved knowledge is lost. -/
theorem approvedStaticBranch_count (encoding : RecallEncoding) {recallMatch : QuestionRecallMatch}
    (h : recallMatch.status ≠ .unavailable) :
    (approvedStaticBranch encoding recallMatch).candidates.length +
      (approvedStaticBranch encoding recallMatch).rejectedCount =
        recallMatch.candidates.length := by
  rw [approvedStaticBranch, if_neg h]
  exact collectViews_count _ _

theorem approvedStaticBranch_sourceClass (recallMatch : QuestionRecallMatch) :
    (approvedStaticBranch encoding recallMatch).sourceClass = .approvedStatic := by
  unfold approvedStaticBranch
  split_ifs <;> rfl

theorem withinBounds_of_mem_approvedStaticBranch {recallMatch : QuestionRecallMatch}
    {candidate : RecallCandidateViewV1}
    (h : candidate ∈ (approvedStaticBranch encoding recallMatch).candidates) :
    candidate.WithinBounds := by
  by_cases hstatus : recallMatch.status = .unavailable
  · rw [approvedStaticBranch, if_pos hstatus] at h
    exact absurd h List.not_mem_nil
  · rw [approvedStaticBranch_of_available hstatus] at h
    obtain ⟨question, -, hview⟩ := List.mem_filterMap.mp h
    unfold approvedStaticView at hview
    split_ifs at hview <;> exact (checked_of_create? hview).2

/-- The view of a candidate of the documents passes every check. -/
theorem documentView_withinBounds (candidate : KnowledgeQaCandidate) :
    (documentView digest candidate).WithinBounds where
  candidateId := by
    refine matchesId_append (n := 63) (k := 8) (by decide) ?_ ?_
    · have hdigits := List.all_eq_true.mp (digest.digits candidate.question)
      simpa using fun c hc => isIdChar_of_isLowerHex (hdigits c (List.mem_of_mem_take hc))
    · rw [String.length_ofList, List.length_take]
      omega
  canonicalId := by
    refine matchesId_append (n := 127) (k := 11) (by decide) ?_ ?_
    · have hdigits := List.all_eq_true.mp (digest.digits candidate.question)
      simpa using fun c hc => isIdChar_of_isLowerHex (hdigits c hc)
    · rw [← String.length_toList, digest.length]
      omega
  question := candidate.question_length
  confidence := candidate.score_range

theorem documentRecallBranch_of_available {recallMatch : KnowledgeQaMatch}
    (h : recallMatch.status ≠ .unavailable) : documentRecallBranch encoding digest recallMatch =
      ⟨.documentMcp, recallMatch.candidates.map (documentView digest), 0, false⟩ := by
  have hview (candidate : KnowledgeQaCandidate) :
      (documentView digest candidate).create? encoding = some (documentView digest candidate) :=
    if_pos ((RecallCandidateViewV1.checked_iff encoding).mpr (documentView_withinBounds candidate))
  rw [documentRecallBranch, if_neg h, collectViews_eq]
  simp [hview]

/-- The documents never have a candidate rejected. -/
theorem documentRecallBranch_rejectedCount (recallMatch : KnowledgeQaMatch) :
    (documentRecallBranch encoding digest recallMatch).rejectedCount = 0 := by
  by_cases hstatus : recallMatch.status = .unavailable
  · rw [documentRecallBranch, if_pos hstatus]
  · rw [documentRecallBranch_of_available hstatus]

theorem documentRecallBranch_sourceClass (recallMatch : KnowledgeQaMatch) :
    (documentRecallBranch encoding digest recallMatch).sourceClass = .documentMcp := by
  unfold documentRecallBranch
  split_ifs <;> rfl

theorem withinBounds_of_mem_documentRecallBranch {recallMatch : KnowledgeQaMatch}
    {candidate : RecallCandidateViewV1}
    (h : candidate ∈ (documentRecallBranch encoding digest recallMatch).candidates) :
    candidate.WithinBounds := by
  by_cases hstatus : recallMatch.status = .unavailable
  · rw [documentRecallBranch, if_pos hstatus] at h
    exact absurd h List.not_mem_nil
  · rw [documentRecallBranch_of_available hstatus] at h
    obtain ⟨question, -, rfl⟩ := List.mem_map.mp h
    exact documentView_withinBounds question

/-! ## What a merge keeps -/

/-- The first of the strongest candidates of its key. -/
def Strongest (l : List RecallCandidateViewV1) (candidate : RecallCandidateViewV1) : Prop :=
  candidate ∈ (l.filter (·.key = candidate.key)).argmax (·.confidence)

instance (l : List RecallCandidateViewV1) : DecidablePred (Strongest l) :=
  fun candidate => inferInstanceAs
    (Decidable ((l.filter (·.key = candidate.key)).argmax (·.confidence) = some candidate))

/-- What a merge of a list is: in the order of their ranks, the candidates that are the strongest
of their keys and have fewer than five such candidates in front. -/
structure Merges (l merged : List RecallCandidateViewV1) : Prop where
  ranked : merged.Pairwise fun a b => a.rank < b.rank
  mem_iff : ∀ candidate, candidate ∈ merged ↔ Strongest l candidate ∧
    (l.toFinset.filter fun other => Strongest l other ∧ other.rank < candidate.rank).card < 5

theorem mem_of_strongest {l : List RecallCandidateViewV1} {candidate : RecallCandidateViewV1}
    (h : Strongest l candidate) : candidate ∈ l :=
  List.mem_of_mem_filter (List.argmax_mem h)

/-- The strongest candidate of a key is as strong as all others of it. -/
theorem Strongest.le {l : List RecallCandidateViewV1} {candidate other : RecallCandidateViewV1}
    (h : Strongest l candidate) (hmem : other ∈ l) (hkey : other.key = candidate.key) :
    other.confidence ≤ candidate.confidence :=
  List.le_of_mem_argmax (List.mem_filter.mpr ⟨hmem, by simpa using hkey⟩) h

theorem Strongest.unique {l : List RecallCandidateViewV1} {a b : RecallCandidateViewV1}
    (ha : Strongest l a) (hb : Strongest l b) (hkey : a.key = b.key) : a = b := by
  unfold Strongest at ha hb
  rw [hkey] at ha
  exact Option.mem_unique ha hb

/-- Ranks tell candidates with different keys apart. -/
theorem key_eq_of_rank_eq {a b : RecallCandidateViewV1} (h : a.rank = b.rank) : a.key = b.key := by
  obtain ⟨-, h⟩ := Prod.mk.inj (toLex_inj.mp h)
  obtain ⟨horder, h⟩ := Prod.mk.inj (toLex_inj.mp h)
  obtain ⟨hcanonical, -⟩ := Prod.mk.inj (toLex_inj.mp h)
  have hsource : a.sourceClass = b.sourceClass := by
    generalize a.sourceClass = s at *
    generalize b.sourceClass = t at *
    cases s <;> cases t <;> simp_all [RecallSourceClassV1.order]
  exact Prod.ext hsource hcanonical

theorem merges_mergeRecallCandidates (static document : List RecallCandidateViewV1) :
    Merges (static ++ document) (mergeRecallCandidates static document) := by
  set l := static ++ document with hl
  have hmem (a : RecallCandidateViewV1) :
      a ∈ strongestByKey RecallCandidateViewV1.key (·.confidence) l ↔ Strongest l a :=
    mem_strongestByKey
  have hkeys : ((strongestByKey RecallCandidateViewV1.key (·.confidence) l).map
      RecallCandidateViewV1.key).Nodup := nodup_strongestByKey
  have hranks : ((strongestByKey RecallCandidateViewV1.key (·.confidence) l).map
      RecallCandidateViewV1.rank).Nodup := by
    rw [List.Nodup, List.pairwise_map] at hkeys ⊢
    exact hkeys.imp fun h hrank => h (key_eq_of_rank_eq hrank)
  refine ⟨pairwise_firstByRank hranks, fun candidate => ?_⟩
  rw [mergeRecallCandidates, ← hl, mem_firstByRank hranks, hmem]
  refine and_congr_right fun _ => ?_
  have hcount : ((strongestByKey RecallCandidateViewV1.key (·.confidence) l).filter fun other =>
      other.rank < candidate.rank).toFinset =
        l.toFinset.filter fun other => Strongest l other ∧ other.rank < candidate.rank := by
    ext other
    simp only [List.mem_toFinset, List.mem_filter, Finset.mem_filter, hmem, decide_eq_true_eq]
    exact ⟨fun h => ⟨mem_of_strongest h.1, h⟩, fun h => h.2⟩
  rw [← hcount, List.toFinset_card_of_nodup ((List.Nodup.of_map _ hkeys).filter _),
    List.countP_eq_length_filter]

/-- A list has one merge. -/
theorem Merges.unique {l merged merged' : List RecallCandidateViewV1} (h : Merges l merged)
    (h' : Merges l merged') : merged = merged' := by
  have : Std.Irrefl fun a b : RecallCandidateViewV1 => a.rank < b.rank :=
    ⟨fun a => lt_irrefl a.rank⟩
  have : Std.Antisymm fun a b : RecallCandidateViewV1 => a.rank < b.rank :=
    ⟨fun a b hab hba => absurd hab hba.asymm⟩
  exact h.ranked.eq_of_mem_iff h'.ranked fun a => (h.mem_iff a).trans (h'.mem_iff a).symm

end MarketSupport.Recall
