import Mathlib
import MarketSupport.Planning.Models
import MarketSupport.Prompts.ProgramModels

/-!
# Outcomes of recall

What recall hands to the turn, and the checks of the constructors. A confidence is the rational
number that its float denotes; of the texts of floats in JSON only the lengths are used.

## Main results

* `RecallCandidateViewV1.canonicalBytes_le` — the bounds of the fields of a candidate bound its
  serialization.
* `RecallCandidateViewV1.jsonBytes_le` — and its size in the list of an outcome.
-/

namespace MarketSupport.Recall

/-! ## Literals -/

inductive RecallSourceClassV1 where
  | approvedStatic
  | documentMcp
  deriving DecidableEq, Repr

inductive RecallCandidateReasonV1 where
  | approvedRecallHit
  | approvedRecallHint
  | documentQaCandidate
  deriving DecidableEq, Repr

inductive RecallBranchStatusV1 where
  | notCalled
  | ok
  | partialStatus
  | unavailable
  | invalid
  deriving DecidableEq, Repr

inductive RecallBranchReasonV1 where
  | disabled
  | notNeeded
  | noMatch
  | candidateRejected
  | sourceUnavailable
  | sourceInvalid
  | ok
  deriving DecidableEq, Repr

inductive RecallModeV1 where
  | off
  | advisory
  | shortcut
  deriving DecidableEq, Repr

inductive RecallDecisionV1 where
  | disabled
  | noMatch
  | advisoryCandidates
  | shortcutMatch
  | unavailable
  deriving DecidableEq, Repr

def RecallSourceClassV1.text : RecallSourceClassV1 → String
  | .approvedStatic => "approved_static"
  | .documentMcp => "document_mcp"

def RecallCandidateReasonV1.text : RecallCandidateReasonV1 → String
  | .approvedRecallHit => "approved_recall_hit"
  | .approvedRecallHint => "approved_recall_hint"
  | .documentQaCandidate => "document_qa_candidate"

/-- What collecting raises. -/
inductive RecallException where
  | connectionError
  | documentMcpError
  | qaCorpusShapeError
  | timeoutError
  | validationError
  | recallContractError (code : String)
  | other (name : String)
  deriving DecidableEq, Repr

/-- The float `0.72`. -/
def hitThreshold : ℚ := 6485183463413514 / 2 ^ 53

/-! ## Sizes of JSON -/

/-- The bytes of a character in a JSON string; both serializers escape the same characters. -/
def jsonCharBytes (c : Char) : ℕ :=
  if c.toNat ∈ [8, 9, 10, 12, 13, 34, 92] then 2
  else if c.toNat < 32 then 6
  else c.utf8Size

def jsonStringBytes (s : String) : ℕ := 2 + (s.toList.map jsonCharBytes).sum

/-- The bytes of an object whose values have these sizes. -/
def jsonObjectBytes (fields : List (String × ℕ)) : ℕ :=
  2 + (fields.map fun field => jsonStringBytes field.1 + 1 + field.2).sum + (fields.length - 1)

theorem jsonCharBytes_le (c : Char) : jsonCharBytes c ≤ 6 := by
  unfold jsonCharBytes
  split_ifs
  · omega
  · omega
  · exact c.utf8Size_le_four.trans (by omega)

theorem jsonStringBytes_le (s : String) : jsonStringBytes s ≤ 2 + 6 * s.length := by
  have h : (s.toList.map jsonCharBytes).sum ≤ (s.toList.map jsonCharBytes).length • 6 := by
    refine List.sum_le_card_nsmul _ _ fun n hn => ?_
    obtain ⟨c, -, rfl⟩ := List.mem_map.mp hn
    exact jsonCharBytes_le c
  rw [List.length_map, String.length_toList, smul_eq_mul] at h
  unfold jsonStringBytes
  omega

/-! ## Ids -/

/-- The characters `[a-zA-Z0-9._:-]`. -/
def isIdChar (c : Char) : Bool := c.isAlphanum || c.toNat ∈ [46, 95, 58, 45]

/-- The pattern `^[a-zA-Z0-9][a-zA-Z0-9._:-]{0,n}$`. -/
def matchesId (n : ℕ) (s : String) : Bool :=
  match s.toList with
  | [] => false
  | c :: cs => c.isAlphanum && cs.all isIdChar && decide (cs.length ≤ n)

theorem matchesId_append {n k : ℕ} {head tail : String} (hhead : matchesId k head = true)
    (htail : tail.toList.all isIdChar = true) (hlength : k + tail.length ≤ n) :
    matchesId n (head ++ tail) = true := by
  unfold matchesId at hhead ⊢
  rw [String.toList_append]
  cases hlist : head.toList with
  | nil => simp [hlist] at hhead
  | cons c cs =>
    simp only [hlist, Bool.and_eq_true, decide_eq_true_eq] at hhead
    rw [← String.length_toList] at hlength
    simp only [List.cons_append, List.all_append, List.length_append, Bool.and_eq_true,
      decide_eq_true_eq]
    exact ⟨⟨hhead.1.1, hhead.1.2, htail⟩, by omega⟩

theorem isIdChar_of_isLowerHex {c : Char} (h : isLowerHex c = true) : isIdChar c = true := by
  simp only [isLowerHex, isIdChar, Char.isAlphanum, Char.isAlpha, Char.isUpper, Char.isLower,
    Char.isDigit, Bool.or_eq_true, Bool.and_eq_true, decide_eq_true_eq, ge_iff_le] at h ⊢
  obtain h | h := h
  · exact .inl (.inr h)
  · exact .inl (.inl (.inr ⟨h.1, h.2.trans (by decide)⟩))

/-- The characters of an id are their own JSON. -/
theorem jsonCharBytes_isIdChar {c : Char} (h : isIdChar c = true) : jsonCharBytes c = 1 := by
  have hrange : c.toNat < 128 ∧ 32 ≤ c.toNat ∧ c.toNat ∉ [8, 9, 10, 12, 13, 34, 92] := by
    simp only [isIdChar, Char.isAlphanum, Char.isAlpha, Char.isUpper, Char.isLower, Char.isDigit,
      Bool.or_eq_true, Bool.and_eq_true, decide_eq_true_eq, UInt32.le_iff_toNat_le, ge_iff_le,
      List.mem_cons, List.not_mem_nil, or_false] at h ⊢
    change ((((65 ≤ c.toNat ∧ c.toNat ≤ 90) ∨ (97 ≤ c.toNat ∧ c.toNat ≤ 122)) ∨
      (48 ≤ c.toNat ∧ c.toNat ≤ 57)) ∨ _) at h
    omega
  unfold jsonCharBytes
  rw [if_neg hrange.2.2, if_neg (by omega), Char.utf8Size_eq_one_iff]
  rw [UInt32.le_iff_toNat_le]
  have hnat : c.val.toNat < 128 := hrange.1
  exact Nat.le_of_lt_succ hnat

theorem jsonStringBytes_of_matchesId {n : ℕ} {s : String} (h : matchesId n s = true) :
    jsonStringBytes s ≤ n + 3 := by
  unfold matchesId at h
  unfold jsonStringBytes
  cases hs : s.toList with
  | nil => simp [hs] at h
  | cons c cs =>
    simp only [hs, Bool.and_eq_true, List.all_eq_true, decide_eq_true_eq] at h
    obtain ⟨⟨hc, hcs⟩, hlength⟩ := h
    have hrest : cs.map jsonCharBytes = cs.map fun _ => 1 :=
      List.map_congr_left fun d hd => jsonCharBytes_isIdChar (hcs d hd)
    have hfirst : jsonCharBytes c = 1 := jsonCharBytes_isIdChar (by simp [isIdChar, hc])
    rw [List.map_cons, List.sum_cons, hfirst, hrest, List.map_const', List.sum_replicate,
      smul_eq_mul, Nat.mul_one]
    omega

/-! ## Candidates and branches -/

structure RecallCandidateViewV1 where
  candidateId : String
  canonicalId : String
  sourceClass : RecallSourceClassV1
  question : String
  confidence : ℚ
  reasonCode : RecallCandidateReasonV1
  deriving DecidableEq, Repr

structure RecallBranchOutcomeV1 where
  sourceClass : RecallSourceClassV1
  status : RecallBranchStatusV1
  acceptedCount : ℕ
  rejectedCount : ℕ
  reasonCode : RecallBranchReasonV1
  deriving DecidableEq, Repr

/-- The payload of a shortcut; its fact type is `document_context`. -/
structure ApprovedStaticShortcutPayloadV1 where
  candidateId : String
  canonicalId : String
  selectedManifestRef : ManifestRefV1
  selectedMediaAssetIds : List String
  confidence : ℚ
  question : String
  replyText : String
  evidenceText : String
  sourceId : String
  replyTextHash : Digest "rtx1"
  evidenceTextHash : Digest "evx1"
  deriving DecidableEq

structure RecallShortcutSummaryV1 where
  candidateId : String
  canonicalId : String
  sourceId : String
  selectedManifestRef : ManifestRefV1
  confidence : ℚ
  replyTextHash : Digest "rtx1"
  evidenceTextHash : Digest "evx1"
  deriving DecidableEq

/-- What the hash of an outcome is taken of. -/
structure RecallOutcomePayload where
  mode : RecallModeV1
  decision : RecallDecisionV1
  candidates : List RecallCandidateViewV1
  branchOutcomes : RecallBranchOutcomeV1 × RecallBranchOutcomeV1
  shortcutSummary : Option RecallShortcutSummaryV1
  deriving DecidableEq

structure RecallOutcomeV1 extends RecallOutcomePayload where
  traceHash : Digest "rch1"
  deriving DecidableEq

/-- How recall serializes and hashes. -/
structure RecallEncoding where
  reprBytes : ℚ → ℕ
  jsonFloatBytes : ℚ → ℕ
  reprBytes_le : ∀ x, reprBytes x ≤ 24
  jsonFloatBytes_le : ∀ x, jsonFloatBytes x ≤ 24
  recallReplyTextHash : String → Digest "rtx1"
  recallEvidenceTextHash : String → Digest "evx1"
  recallOutcomeHash : RecallOutcomePayload → Digest "rch1"

variable (encoding : RecallEncoding)

namespace RecallCandidateViewV1

/-- The bytes of a candidate whose confidence has a text of `n` bytes. -/
def bytesWith (candidate : RecallCandidateViewV1) (n : ℕ) : ℕ :=
  jsonObjectBytes [
    ("contract_version", jsonStringBytes "recall-candidate.v1"),
    ("candidate_id", jsonStringBytes candidate.candidateId),
    ("canonical_id", jsonStringBytes candidate.canonicalId),
    ("source_class", jsonStringBytes candidate.sourceClass.text),
    ("question", jsonStringBytes candidate.question),
    ("confidence", n),
    ("reason_code", jsonStringBytes candidate.reasonCode.text)]

/-- `len(canonical_json_bytes(self.model_dump(mode="json")))`. -/
def canonicalBytes (candidate : RecallCandidateViewV1) : ℕ :=
  candidate.bytesWith (encoding.reprBytes candidate.confidence)

/-- `len(self.model_dump_json().encode("utf-8"))`. -/
def jsonBytes (candidate : RecallCandidateViewV1) : ℕ :=
  candidate.bytesWith (encoding.jsonFloatBytes candidate.confidence)

/-- What the annotations of the fields check. -/
structure WithinBounds (candidate : RecallCandidateViewV1) : Prop where
  candidateId : matchesId 63 candidate.candidateId = true
  canonicalId : matchesId 127 candidate.canonicalId = true
  question : 1 ≤ candidate.question.length ∧ candidate.question.length ≤ 400
  confidence : 0 ≤ candidate.confidence ∧ candidate.confidence ≤ 1

/-- What the constructor checks. -/
structure Checked (candidate : RecallCandidateViewV1) : Prop extends candidate.WithinBounds where
  bytes : candidate.canonicalBytes encoding ≤ 4096

instance instDecidableWithinBounds (candidate : RecallCandidateViewV1) :
    Decidable candidate.WithinBounds :=
  decidable_of_iff (matchesId 63 candidate.candidateId = true ∧
      matchesId 127 candidate.canonicalId = true ∧
      (1 ≤ candidate.question.length ∧ candidate.question.length ≤ 400) ∧
      (0 ≤ candidate.confidence ∧ candidate.confidence ≤ 1))
    ⟨fun ⟨a, b, c, d⟩ => ⟨a, b, c, d⟩, fun ⟨a, b, c, d⟩ => ⟨a, b, c, d⟩⟩

instance instDecidableChecked (candidate : RecallCandidateViewV1) :
    Decidable (candidate.Checked encoding) :=
  decidable_of_iff (candidate.WithinBounds ∧ candidate.canonicalBytes encoding ≤ 4096)
    ⟨fun ⟨a, b⟩ => ⟨a, b⟩, fun ⟨a, b⟩ => ⟨a, b⟩⟩

theorem bytesWith_le {candidate : RecallCandidateViewV1} (h : candidate.WithinBounds) (n : ℕ) :
    candidate.bytesWith n ≤ 371 + jsonStringBytes candidate.question + n := by
  have hcandidate := jsonStringBytes_of_matchesId h.candidateId
  have hcanonical := jsonStringBytes_of_matchesId h.canonicalId
  have hsource : jsonStringBytes candidate.sourceClass.text ≤ 17 := by
    cases candidate.sourceClass <;> decide
  have hreason : jsonStringBytes candidate.reasonCode.text ≤ 23 := by
    cases candidate.reasonCode <;> decide
  have hkeys : jsonStringBytes "contract_version" = 18 ∧
      jsonStringBytes "recall-candidate.v1" = 21 ∧ jsonStringBytes "candidate_id" = 14 ∧
      jsonStringBytes "canonical_id" = 14 ∧ jsonStringBytes "source_class" = 14 ∧
      jsonStringBytes "question" = 10 ∧ jsonStringBytes "confidence" = 12 ∧
      jsonStringBytes "reason_code" = 13 := by decide
  simp only [bytesWith, jsonObjectBytes, List.map_cons, List.map_nil, List.sum_cons, List.sum_nil,
    List.length_cons, List.length_nil, hkeys]
  omega

/-- The check of the serialized candidate never fails: the bounds of the fields are enough. -/
theorem canonicalBytes_le {candidate : RecallCandidateViewV1} (h : candidate.WithinBounds) :
    candidate.canonicalBytes encoding ≤ 4096 := by
  have hbytes := bytesWith_le h (encoding.reprBytes candidate.confidence)
  have hquestion := jsonStringBytes_le candidate.question
  have hlength := h.question.2
  have hrepr := encoding.reprBytes_le candidate.confidence
  unfold canonicalBytes
  omega

theorem checked_iff {candidate : RecallCandidateViewV1} :
    candidate.Checked encoding ↔ candidate.WithinBounds :=
  ⟨fun h => h.toWithinBounds, fun h => ⟨h, canonicalBytes_le encoding h⟩⟩

theorem jsonBytes_le {candidate : RecallCandidateViewV1} (h : candidate.WithinBounds) :
    candidate.jsonBytes encoding ≤ 395 + jsonStringBytes candidate.question := by
  have hbytes := bytesWith_le h (encoding.jsonFloatBytes candidate.confidence)
  have hfloat := encoding.jsonFloatBytes_le candidate.confidence
  unfold jsonBytes
  omega

end RecallCandidateViewV1

/-- The constructor of a branch outcome. -/
def RecallBranchOutcomeV1.create (sourceClass : RecallSourceClassV1)
    (status : RecallBranchStatusV1) (acceptedCount rejectedCount : ℕ)
    (reasonCode : RecallBranchReasonV1) : Except RecallException RecallBranchOutcomeV1 :=
  if acceptedCount ≤ 5 ∧ rejectedCount ≤ 5 then
    .ok ⟨sourceClass, status, acceptedCount, rejectedCount, reasonCode⟩
  else .error .validationError

/-! ## Outcomes -/

/-- The bytes of a list of candidates. -/
def candidateListBytes (candidates : List RecallCandidateViewV1) : ℕ :=
  2 + (candidates.map (·.jsonBytes encoding)).sum + (candidates.length - 1)

/-- What the constructor of an outcome checks. -/
structure RecallOutcomePayload.Checked (payload : RecallOutcomePayload) : Prop where
  candidates : payload.candidates.length ≤ 5
  order : (payload.branchOutcomes.1.sourceClass, payload.branchOutcomes.2.sourceClass) =
    (.approvedStatic, .documentMcp)
  bytes : candidateListBytes encoding payload.candidates ≤ 5120

instance (payload : RecallOutcomePayload) : Decidable (payload.Checked encoding) :=
  decidable_of_iff (payload.candidates.length ≤ 5 ∧
      (payload.branchOutcomes.1.sourceClass, payload.branchOutcomes.2.sourceClass) =
        (RecallSourceClassV1.approvedStatic, RecallSourceClassV1.documentMcp) ∧
      candidateListBytes encoding payload.candidates ≤ 5120)
    ⟨fun ⟨a, b, c⟩ => ⟨a, b, c⟩, fun ⟨a, b, c⟩ => ⟨a, b, c⟩⟩

/-- `make_recall_outcome`. -/
def makeRecallOutcome (mode : RecallModeV1) (decision : RecallDecisionV1)
    (candidates : List RecallCandidateViewV1)
    (branches : RecallBranchOutcomeV1 × RecallBranchOutcomeV1)
    (summary : Option RecallShortcutSummaryV1 := none) : Except RecallException RecallOutcomeV1 :=
  let draft : RecallOutcomePayload := ⟨mode, decision, candidates, branches, summary⟩
  if draft.Checked encoding then .ok ⟨draft, encoding.recallOutcomeHash draft⟩
  else .error .validationError

/-- What the constructor of a payload checks. -/
structure ApprovedStaticShortcutPayloadV1.Checked (payload : ApprovedStaticShortcutPayloadV1) :
    Prop where
  candidateId : matchesId 63 payload.candidateId = true
  canonicalId : matchesId 127 payload.canonicalId = true
  selectedMediaAssetIds : payload.selectedMediaAssetIds.length ≤ 2
  confidence : hitThreshold ≤ payload.confidence ∧ payload.confidence ≤ 1
  question : 1 ≤ payload.question.length ∧ payload.question.length ≤ 400
  replyText : 1 ≤ payload.replyText.length ∧ payload.replyText.length ≤ 4000
  evidenceText : 1 ≤ payload.evidenceText.length ∧ payload.evidenceText.length ≤ 5000
  sourceId : 1 ≤ payload.sourceId.length ∧ payload.sourceId.length ≤ 160
  replyTextHash : payload.replyTextHash = encoding.recallReplyTextHash payload.replyText
  evidenceTextHash : payload.evidenceTextHash =
    encoding.recallEvidenceTextHash payload.evidenceText

/-- The constructor of a summary. -/
def RecallShortcutSummaryV1.create (summary : RecallShortcutSummaryV1) :
    Except RecallException RecallShortcutSummaryV1 :=
  if matchesId 63 summary.candidateId ∧ matchesId 127 summary.canonicalId ∧
      (1 ≤ summary.sourceId.length ∧ summary.sourceId.length ≤ 160) ∧
      (hitThreshold ≤ summary.confidence ∧ summary.confidence ≤ 1) then .ok summary
  else .error .validationError

/-! ## Turn states -/

/-- The part of a payload that a summary repeats. -/
def ApprovedStaticShortcutPayloadV1.summary (payload : ApprovedStaticShortcutPayloadV1) :
    RecallShortcutSummaryV1 where
  candidateId := payload.candidateId
  canonicalId := payload.canonicalId
  sourceId := payload.sourceId
  selectedManifestRef := payload.selectedManifestRef
  confidence := payload.confidence
  replyTextHash := payload.replyTextHash
  evidenceTextHash := payload.evidenceTextHash

structure RecallTurnStateV1 where
  outcome : RecallOutcomeV1
  shortcutPayload : Option ApprovedStaticShortcutPayloadV1
  deriving DecidableEq

/-- `RecallTurnStateV1.__post_init__`. -/
def RecallTurnStateV1.create (outcome : RecallOutcomeV1)
    (shortcutPayload : Option ApprovedStaticShortcutPayloadV1) :
    Except RecallException RecallTurnStateV1 :=
  if outcome.decision = .shortcutMatch then
    match outcome.shortcutSummary, shortcutPayload with
    | some summary, some payload =>
      if summary = payload.summary then .ok ⟨outcome, shortcutPayload⟩
      else .error (.recallContractError "recall_shortcut_payload_mismatch")
    | _, _ => .error (.recallContractError "recall_shortcut_payload_mismatch")
  else if shortcutPayload.isSome then
    .error (.recallContractError "recall_unexpected_shortcut_payload")
  else .ok ⟨outcome, shortcutPayload⟩

structure PreplannerRecallTransitionV1 where
  turnState : RecallTurnStateV1
  shortcutPlan : Option ExecutionPlanV2
  deriving DecidableEq

end MarketSupport.Recall
