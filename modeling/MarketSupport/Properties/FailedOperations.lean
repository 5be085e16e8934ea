import MarketSupport.State.CompleteRecords
import MarketSupport.State.Faults

/-!
# Failed operations

An operation that raises leaves the root as it was, up to what it had published before: the
cleanup with which it started, the response that a reservation evicted to make room, and the token
of feedback that can no longer be committed.

## Main results

* `failed_operation_keeps` — the root after a failure, and the responses in it.
-/

namespace MarketSupport

open Library

/-! ## The property -/

/-- The roots that an operation can leave behind when it raises `e`. -/
inductive FailedRoot (setup : CoordinatorSetup) (draws : OperationDraws)
    (root : CoordinatorStateRootV1)
    (e : CoordinatorException) : CoordinatorOperation → CoordinatorStateRootV1 → Prop where
  | unchanged (operation : CoordinatorOperation) : FailedRoot setup draws root e operation root
  | reserve {stateKey : ConversationStateKey} {requestId requestHash : String}
      {replayEligible : Bool}
      {root' : CoordinatorStateRootV1}
      (path : Follows setup [.cleanup draws.cleanupMonotonicNs draws.cleanupEpochMs,
        .evict] root root') :
      FailedRoot setup draws root e
        (.reserveReply stateKey requestId requestHash replayEligible) root'
  | prepare {stateKey : ConversationStateKey} {feedback : ActionFeedbackRequestV2}
      {root' : CoordinatorStateRootV1}
      (path : Follows setup [.cleanup draws.cleanupMonotonicNs draws.cleanupEpochMs] root root') :
      FailedRoot setup draws root e (.prepareFeedback stateKey feedback) root'
  | drop {prepared : PreparedFeedbackV1} {stored : PreparedFeedbackTokenRecordV1}
      (code : e ∈ [.coordinatorError "feedback_token_expired",
        .coordinatorError "conversation_state_changed"])
      (own : root.preparedFeedbackTokens.get prepared.tokenKey = some stored)
      (same : stored.preparation.commitToken = prepared.commitToken) :
      FailedRoot setup draws root e (.commitFeedback prepared)
        (published (dropPreparedTokenCandidate root prepared))

/-- The response of the record is indexed, as the same commit left it. -/
def Keeps (root' : CoordinatorStateRootV1) (key : RecordKey)
    (record : CompleteIssuedResponseRecordV1) :
    Prop :=
  ∃ record', root'.issuedRecords.get key = some (.complete record') ∧ SameCommit record record' ∧
    root'.responseIndex.get record.response.responseId = some key

/-- The record at a key is the one that a reservation evicts from a full store. -/
def EvictedBy (setup : CoordinatorSetup) (operation : CoordinatorOperation) (draws : OperationDraws)
    (root : CoordinatorStateRootV1) (key : RecordKey) : Prop :=
  (∃ stateKey requestId requestHash replayEligible,
    operation = .reserveReply stateKey requestId requestHash replayEligible) ∧
  ∃ full record, Follows setup [.cleanup draws.cleanupMonotonicNs draws.cleanupEpochMs] root full ∧
    setup.config.issuedResponseCapacity ≤ full.issuedRecords.size ∧
    issuedEvictionVictim full = some (key, record)

/-- What remains when an operation raises. -/
structure FailureKeeps (setup : CoordinatorSetup) (operation : CoordinatorOperation)
    (draws : OperationDraws) (e : CoordinatorException) (root root' : CoordinatorStateRootV1) :
    Prop where
  published : FailedRoot setup draws root e operation root'
  responses : ∀ key record, root.issuedRecords.get key = some (.complete record) →
    draws.cleanupMonotonicNs < record.expiresAtMonotonicNs →
    Keeps root' key record ∨ EvictedBy setup operation draws root key

/-! ## Publications -/

section Failures

variable {setup : CoordinatorSetup} {operation : CoordinatorOperation} {draws : OperationDraws}
  {c c' : Coordinator} {e : CoordinatorException} {root root' : CoordinatorStateRootV1}

/-- Every publication is one revision. -/
theorem RootPath.rootRevision {changes : List Change} (path : RootPath setup root changes root') :
    root'.rootRevision = root.rootRevision + changes.length := by
  induction path with
  | nil => rfl
  | cons step _ ih =>
    rw [ih, step.rootRevision, List.length_cons]
    omega

/-- The two errors that drop a token are raised for a stored one. -/
theorem stored_of_requiresPreparedTokenDrop {prepared : PreparedFeedbackV1} {nowMonotonicNs : ℤ}
    {nowEpochMs : ℤ} (h : commitFeedbackCandidate setup.config setup.sha256 root prepared
      nowMonotonicNs nowEpochMs = .error e) (hdrop : requiresPreparedTokenDrop e = true) :
    ∃ stored, root.preparedFeedbackTokens.get prepared.tokenKey = some stored ∧
      stored.preparation.commitToken = prepared.commitToken := by
  have hinputs : feedbackCommitInputs root prepared nowMonotonicNs = .error e := by
    unfold commitFeedbackCandidate at h
    split at h
    · next hinputs => rw [hinputs, Except.error.inj h]
    · split_ifs at h
      cases h
      exact absurd hdrop (by decide)
  unfold feedbackCommitInputs at hinputs
  split at hinputs
  · cases hinputs
    exact absurd hdrop (by decide)
  · next stored hstored =>
    split_ifs at hinputs with hsame hexpired
    · cases hinputs
      exact absurd hdrop (by decide)
    · exact ⟨stored, hstored, not_not.mp hsame⟩
    · exact ⟨stored, hstored, not_not.mp hsame⟩

/-- What `commit_feedback` left behind when it raised. -/
theorem commitFeedback_failed {prepared : PreparedFeedbackV1}
    (h : commitFeedback setup prepared draws c = (.error e, c')) :
    FailedRoot setup draws c.root e (.commitFeedback prepared) c'.root := by
  unfold commitFeedback at h
  split at h
  · next e' he' =>
    unfold dropPreparedToken at h
    split_ifs at h with hdrop
    · split at h
      · next hpublish =>
        cases h
        rw [publish_error hpublish]
        exact .unchanged _
      · next hpublish =>
        cases h
        obtain ⟨stored, hstored, hsame⟩ := stored_of_requiresPreparedTokenDrop he' hdrop
        rw [publish_ok hpublish]
        refine .drop ?_ hstored hsame
        simpa [requiresPreparedTokenDrop] using hdrop
    · cases h
      exact .unchanged _
  · split at h
    · next hpublish =>
      cases h
      rw [publish_error hpublish]
      exact .unchanged _
    · cases h

/-- What an operation left behind when it raised. -/
theorem runOperation_failed (h : (runOperation setup operation draws c).1 = .error e) :
    FailedRoot setup draws c.root e operation (runOperation setup operation draws c).2.root := by
  cases operation with
  | reserveReply stateKey requestId requestHash replayEligible =>
    rcases hx : reserveReply setup stateKey requestId requestHash replayEligible draws c with
      ⟨result, c'⟩
    simp only [runOperation, outcome, hx] at h ⊢
    obtain ⟨_, path⟩ | ⟨_, rfl, _⟩ | ⟨_, rfl, _⟩ := reserveReply_cases hx
    · exact .reserve (afterCleanup_follows.append path)
    · cases h
    · cases h
  | abortReply stateKey requestId ownerToken =>
    rcases hx : abortReply setup stateKey requestId ownerToken draws c with ⟨result, c'⟩
    simp only [runOperation, outcome, hx] at h ⊢
    obtain ⟨_, hroot⟩ | ⟨rfl, _⟩ := abortReply_cases hx
    · exact hroot ▸ .unchanged _
    · cases h
  | commitReply proposal =>
    rcases hx : commitReply setup proposal draws c with ⟨result, c'⟩
    simp only [runOperation, outcome, hx] at h ⊢
    obtain ⟨_, hroot⟩ | ⟨rfl, _⟩ := commitReply_cases hx
    · exact hroot ▸ .unchanged _
    · cases h
  | prepareFeedback stateKey feedback =>
    rcases hx : prepareFeedback setup stateKey feedback draws c with ⟨result, c'⟩
    simp only [runOperation, outcome, hx] at h ⊢
    obtain ⟨_, path⟩ | ⟨_, rfl, _⟩ | ⟨_, _, _, _, _, _, rfl, _⟩ := prepareFeedback_cases hx
    · exact .prepare path
    · cases h
    · cases h
  | commitFeedback prepared =>
    rcases hx : commitFeedback setup prepared draws c with ⟨result, c'⟩
    simp only [runOperation, outcome, hx] at h ⊢
    cases result with
    | error e' => exact Except.error.inj h ▸ commitFeedback_failed hx
    | ok value => cases h
  | cleanup =>
    rcases hx : cleanupLocked setup draws.cleanupMonotonicNs draws.cleanupEpochMs
      draws.cleanupPublication c with ⟨result, c'⟩
    simp only [runOperation, outcome, cleanup, hx] at h ⊢
    unfold cleanupLocked at hx
    split at hx
    · cases hx
      cases h
    · split at hx
      · next hpublish =>
        cases hx
        rw [publish_error hpublish]
        exact .unchanged _
      · cases hx
        cases h
  | lookupIssuedResponse | readTurnAdmissionSnapshot => cases h

/-! ## The responses -/

theorem RootPath.of_append {xs ys : List Change} (path : RootPath setup root (xs ++ ys) root') :
    ∃ middle, RootPath setup root xs middle ∧ RootPath setup middle ys root' := by
  induction xs generalizing root with
  | nil => exact ⟨root, .nil _, path⟩
  | cons change xs ih =>
    cases path with
    | cons step rest =>
      obtain ⟨middle, first, last⟩ := ih rest
      exact ⟨middle, .cons step first, last⟩

theorem Follows.of_append {xs ys : List Change} (path : Follows setup (xs ++ ys) root root') :
    ∃ middle, Follows setup xs root middle ∧ Follows setup ys middle root' := by
  obtain ⟨changes, hsub, path⟩ := path
  obtain ⟨as, bs, rfl, has, hbs⟩ := List.sublist_append_iff.mp hsub
  obtain ⟨middle, first, last⟩ := path.of_append
  exact ⟨middle, ⟨as, has, first⟩, ⟨bs, hbs, last⟩⟩

variable {key : RecordKey} {record : CompleteIssuedResponseRecordV1}

theorem RootInvariant.keeps (inv : RootInvariant root) {record' : CompleteIssuedResponseRecordV1}
    (hget : root.issuedRecords.get key = some (.complete record'))
    (same : SameCommit record record') :
    Keeps root key record :=
  ⟨record', hget, same, inv.responses.get_iff.mpr ⟨_, hget, by rw [same.response]; rfl⟩⟩

/-- A cleanup keeps what is not expired. -/
theorem keeps_of_cleanup (inv : RootInvariant root) {mono epoch : ℤ}
    (path : Follows setup [.cleanup mono epoch] root root')
    (hget : root.issuedRecords.get key = some (.complete record))
    (hlive : mono < record.expiresAtMonotonicNs) :
    RootInvariant root' ∧ Keeps root' key record := by
  obtain rfl | step := path.single_cases
  · exact ⟨inv, inv.keeps hget (.refl record)⟩
  · have inv' := step.rootInvariant inv trivial
    refine ⟨inv', ?_⟩
    obtain ⟨record', hget', same⟩ | ⟨_, _, hcleanup, hexpired⟩ | ⟨hevict, _⟩ :=
      step.record_kept inv trivial hget
    · exact inv'.keeps hget' same
    · cases hcleanup
      exact absurd hlive (not_lt.mpr hexpired)
    · cases hevict

/-- An eviction keeps all responses but its victim. -/
theorem keeps_of_evict (inv : RootInvariant root) (path : Follows setup [.evict] root root')
    (hget : root.issuedRecords.get key = some (.complete record)) :
    Keeps root' key record ∨ setup.config.issuedResponseCapacity ≤ root.issuedRecords.size ∧
      issuedEvictionVictim root = some (key, record) := by
  obtain rfl | step := path.single_cases
  · exact .inl (inv.keeps hget (.refl record))
  · have inv' := step.rootInvariant inv trivial
    obtain ⟨record', hget', same⟩ | ⟨_, _, hcleanup, _⟩ | ⟨_, hvictim⟩ :=
      step.record_kept inv trivial hget
    · exact .inl (inv'.keeps hget' same)
    · cases hcleanup
    · cases step with
      | evict full => exact .inr ⟨full, hvictim⟩

/-- A response that is not expired is lost by a failure only to the eviction of a reservation. -/
theorem FailedRoot.responses (failed : FailedRoot setup draws root e operation root')
    (inv : RootInvariant root) (hget : root.issuedRecords.get key = some (.complete record))
    (hlive : draws.cleanupMonotonicNs < record.expiresAtMonotonicNs) :
    Keeps root' key record ∨ EvictedBy setup operation draws root key := by
  cases failed with
  | unchanged => exact .inl (inv.keeps hget (.refl record))
  | reserve path =>
    have path : Follows setup ([.cleanup draws.cleanupMonotonicNs draws.cleanupEpochMs] ++ [.evict])
      root root' := path
    obtain ⟨full, cleanup, evict⟩ := path.of_append
    obtain ⟨inv', record', hget', same, _⟩ := keeps_of_cleanup inv cleanup hget hlive
    obtain ⟨record'', hget'', same', hindex⟩ | ⟨hfull, hvictim⟩ := keeps_of_evict inv' evict hget'
    · exact .inl ⟨record'', hget'', same.trans same', same.response ▸ hindex⟩
    · exact .inr ⟨⟨_, _, _, _, rfl⟩, full, record', cleanup, hfull, hvictim⟩
  | prepare path => exact .inl (keeps_of_cleanup inv path hget hlive).2
  | @drop prepared =>
    have step : RootStep setup root (.drop prepared)
        (published (dropPreparedTokenCandidate root prepared)) := .drop prepared
    exact .inl ((step.rootInvariant inv trivial).keeps hget (.refl record))

/-- Every publication of an operation is one revision, and an operation that raises leaves the
root as it was but for its cleanup, the eviction of a reservation and the token of feedback that
can no longer be committed. -/
theorem failed_operation_keeps {es : List CoordinatorEvent}
    (run : CoordinatorRun setup Admissible es c)
    (operation : CoordinatorOperation) (draws : OperationDraws) :
    (∃ changes, changes.Sublist (operation.changes draws) ∧
      RootPath setup c.root changes (runOperation setup operation draws c).2.root ∧
      (runOperation setup operation draws c).2.root.rootRevision =
        c.root.rootRevision + changes.length) ∧
    ∀ e, (runOperation setup operation draws c).1 = .error e →
      FailureKeeps setup operation draws e c.root
        (runOperation setup operation draws c).2.root := by
  obtain ⟨changes, hsub, path⟩ := runOperation_follows setup operation draws c
  refine ⟨⟨changes, hsub, path, path.rootRevision⟩, fun e h => ?_⟩
  have failed := runOperation_failed h
  have inv : RootInvariant c.root := .of_run run fun _ _ h => h
  exact ⟨failed, fun _ _ hget hlive => failed.responses inv hget hlive⟩

end Failures

/-! ## Samples -/

namespace LostResponse

theorem setup_built : buildCoordinatorConfig { issuedResponseCapacity := 1 } =
    .ok ⟨1, 5000, 20000, 86400000, 12, 86400000000000, 180000000000, 10002⟩ := by
  decide +kernel

/-- Room for one issued response. -/
def setup : CoordinatorSetup where
  settings := { issuedResponseCapacity := 1 }
  config := ⟨1, 5000, 20000, 86400000, 12, 86400000000000, 180000000000, 10002⟩
  built := setup_built
  sha256 := fun _ => "0"

/-- The reservation of another conversation. -/
def reservation : CoordinatorOperation :=
  .reserveReply { sampleKey with subjectRef := "group:b" } "s" "h" true

/-- Its last publication raises. -/
def draws : OperationDraws := { sampleDraws 3 3 with publication := ⟨[], .runtimeError⟩ }

/-- The coordinator with one response. -/
def full : Coordinator := (coordinatorTrace setup sampleInputs).2

def holdsResponse (root : CoordinatorStateRootV1) : Bool :=
  ((root.issuedRecords.get ⟨sampleKey, "r"⟩).bind (·.complete?)).any
    fun record => decide (draws.cleanupMonotonicNs < record.expiresAtMonotonicNs)

def checked : CheckedTrace setup Admissible sampleInputs fun t =>
    decide ((runOperation setup reservation draws t.2).1 = .error .hookRuntimeError) &&
      holdsResponse t.2.root &&
      ((runOperation setup reservation draws t.2).2.root.issuedRecords.get
        ⟨sampleKey, "r"⟩).isNone :=
  ⟨by decide +kernel⟩

theorem failed_spec : CoordinatorRun setup Admissible (coordinatorTrace setup sampleInputs).1 full ∧
    (runOperation setup reservation draws full).1 = .error .hookRuntimeError ∧
    holdsResponse full.root = true ∧
    (runOperation setup reservation draws full).2.root.issuedRecords.get
      ⟨sampleKey, "r"⟩ = none := by
  obtain ⟨run, hall⟩ := checked.run
  simp only [Bool.and_eq_true, decide_eq_true_eq, Option.isNone_iff_eq_none] at hall
  unfold full
  exact ⟨run, hall.1.1, hall.1.2, hall.2⟩

end LostResponse

open LostResponse in
/-- The reservation fails, and the other response is kept or was evicted. -/
theorem failed_operation_keeps_reservation :
    FailureKeeps setup reservation draws .hookRuntimeError full.root
      (runOperation setup reservation draws full).2.root :=
  (failed_operation_keeps failed_spec.1 reservation draws).2 .hookRuntimeError failed_spec.2.1

open LostResponse in
/-- A reservation evicts a response that is not expired, and then fails. -/
theorem failed_reservation_loses_response : ∃ es c operation draws e key record,
    CoordinatorRun setup Admissible es c ∧ (runOperation setup operation draws c).1 = .error e ∧
    c.root.issuedRecords.get key = some (.complete record) ∧
    draws.cleanupMonotonicNs < record.expiresAtMonotonicNs ∧
    (runOperation setup operation draws c).2.root.issuedRecords.get key = none := by
  obtain ⟨run, herror, hholds, hlost⟩ := failed_spec
  obtain ⟨record, hrecord, hlive⟩ := (Option.any_eq_true _ _).mp hholds
  obtain ⟨issued, hissued, hcomplete⟩ := Option.bind_eq_some_iff.mp hrecord
  cases issued with
  | pending => cases hcomplete
  | complete r =>
    obtain rfl := Option.some.inj hcomplete
    exact ⟨_, full, reservation, draws, _, _, r, run, herror, hissued,
      of_decide_eq_true hlive, hlost⟩

end MarketSupport
