import MarketSupport.Library.Programs
import MarketSupport.Planning.Attempt
import MarketSupport.State.Coordinator

/-!
# The reply turn

`run_reply_turn` reserves its request, builds a candidate, commits it, and releases the
reservation on every way out that did not commit. The coordinator and the code that builds
the candidate are called; any of these calls may raise, a cancellation included.

## Main results

* `runReplyTurn_calls` — what the coordinator calls of a turn are, and how they end it.
-/

namespace MarketSupport

open Library Program

/-! ## Calls -/

/-- What a turn raises: an exception of the coordinator, a `ReplyContractError`, or whatever
the code that it calls raises. -/
inductive TurnException where
  | coordinator (e : CoordinatorException)
  | replyContract (message : String)
  | raised (name : String)
  deriving DecidableEq, Repr

/-- What the turn reads of its envelope. -/
structure TurnRequest where
  stateKey : ConversationStateKey
  requestId : String
  requestHash : String
  replayEligible : Bool
  message : String

/-- The hashes under which the admission snapshot is read. -/
structure PolicyAuthorityCoreV1 where
  stateAdmissionHash : String
  effectiveGrantsHash : String
  businessScopeHash : String

/-- What the turn reads of its compiled policy. -/
structure PolicyIdentity where
  policyId : String
  stateAdmissionHash : String
  effectiveGrantsHash : String
  businessScopeHash : String

/-- The code of a turn between its coordinator calls. -/
inductive TurnStep where
  | validateRequest
  | compilePolicyAuthorityCore
  | compilePolicy (core : PolicyAuthorityCoreV1) (snapshot : TurnAdmissionSnapshotV1)
  | buildCandidate (policy : PolicyIdentity)
  | ensureAligned (candidate : V2AttemptResult)
  | auditCommitProposal (stateKey : ConversationStateKey) (candidate : V2AttemptResult)
  | closeCommitSpan
  | abortConflictEvent
  | logTrace

/-- What a step of the code returns. -/
def TurnStep.Value : TurnStep → Type
  | .validateRequest | .closeCommitSpan | .abortConflictEvent | .logTrace => Unit
  | .compilePolicyAuthorityCore => PolicyAuthorityCoreV1
  | .compilePolicy _ _ => PolicyIdentity
  | .buildCandidate _ | .ensureAligned _ => V2AttemptResult
  | .auditCommitProposal stateKey _ =>
    { audit : SanitizedAuditCommitProposalV1 // stateKey.scene = audit.kind }

inductive TurnCall where
  | reserveReply (stateKey : ConversationStateKey) (requestId requestHash : String)
      (replayEligible : Bool)
  | readTurnAdmissionSnapshot (stateKey : ConversationStateKey) (core : PolicyAuthorityCoreV1)
  | commitReply (proposal : ReplyCommitProposalV1)
  | abortReply (stateKey : ConversationStateKey) (requestId : String) (ownerToken : Bytes)
  | code (step : TurnStep)

def TurnCall.Answer : TurnCall → Type
  | .reserveReply .. => Except CoordinatorException ReservationResultV1
  | .readTurnAdmissionSnapshot .. => Except CoordinatorException TurnAdmissionSnapshotV1
  | .commitReply _ => Except CoordinatorException ReplyResponse
  | .abortReply .. => Except CoordinatorException Unit
  | .code step => Except TurnException step.Value

abbrev TurnProgram := Program TurnCall TurnCall.Answer TurnException

/-- Return the answer of the coordinator, or raise its exception. -/
def orRaise {α : Type} (answer : Except CoordinatorException α) : TurnProgram α :=
  ofExcept (answer.mapError .coordinator)

def runStep (step : TurnStep) : TurnProgram step.Value :=
  call (.code step) (fun answer => ofExcept answer)

/-! ## The turn -/

variable (request : TurnRequest) (reservation : NewReplyReservationV1)

/-- `reply_commit_proposal`, once the audit proposal is built. -/
def replyCommitProposal (candidate : V2AttemptResult) (snapshot : TurnAdmissionSnapshotV1)
    (policy : PolicyIdentity)
    (audit : { audit : SanitizedAuditCommitProposalV1 // request.stateKey.scene = audit.kind }) :
    ReplyCommitProposalV1 where
  stateKey := request.stateKey
  requestId := request.requestId
  requestHash := request.requestHash
  replayEligible := request.replayEligible
  ownerToken := reservation.ownerToken
  expectedRevisionEpoch := snapshot.revisionEpoch
  expectedStateRevision := snapshot.stateRevision
  response := candidate.response
  pol1 := policy.policyId
  par1 := policy.stateAdmissionHash
  grh1 := policy.effectiveGrantsHash
  bsh1 := policy.businessScopeHash
  userTurn := ⟨request.message⟩
  assistantTurn := ⟨candidate.response.reply.text, candidate.response.reply.kind,
    candidate.response.reply.kind = .clarification⟩
  clarification :=
    if candidate.response.reply.kind = .clarification then
      some ⟨.other, candidate.plan.value.units.flatMap (·.ambiguitySlots),
        candidate.response.reply.text, none⟩
    else none
  audit := audit.val
  audit_scene := audit.property

/-- `admit_turn`: the snapshot has to show the version of the reservation. -/
def admitTurn : TurnProgram (TurnAdmissionSnapshotV1 × PolicyIdentity) := do
  let core ← runStep .compilePolicyAuthorityCore
  let snapshot ← call (.readTurnAdmissionSnapshot request.stateKey core) orRaise
  if snapshot.revisionEpoch ≠ reservation.revisionEpoch ∨
      snapshot.stateRevision ≠ reservation.stateRevision then
    raise (.coordinator (.coordinatorError "conversation_state_changed"))
  else
    let policy ← runStep (.compilePolicy core snapshot)
    return (snapshot, policy)

/-- The verifier sees valid candidates only. -/
def alignCandidate (verifierEnabled : Bool) (candidate : V2AttemptResult) :
    TurnProgram V2AttemptResult :=
  if candidate.replyValidation.valid && verifierEnabled then runStep (.ensureAligned candidate)
  else pure candidate

/-- The last part of the `try` block: only a valid candidate is committed. -/
def commitCandidate (snapshot : TurnAdmissionSnapshotV1) (policy : PolicyIdentity)
    (candidate : V2AttemptResult) : TurnProgram ReplyResponse :=
  if candidate.replyValidation.valid then do
    let audit ← runStep (.auditCommitProposal request.stateKey candidate)
    let response ← call (.commitReply
      (replyCommitProposal request reservation candidate snapshot policy audit)) orRaise
    let _ ← runStep .closeCommitSpan
    return response
  else raise (.replyContract
    ("rendered reply failed validation: " ++ replyValidationErrorSummary candidate.replyValidation))

/-- The `try` block of `run_reply_turn`. -/
def replyTurnBody (verifierEnabled : Bool) : TurnProgram ReplyResponse := do
  let _ ← runStep .validateRequest
  let (snapshot, policy) ← admitTurn request reservation
  let built ← runStep (.buildCandidate policy)
  let candidate ← alignCandidate verifierEnabled built
  commitCandidate request reservation snapshot policy candidate

/-- The abort in the `finally` block; a `CoordinatorError` is swallowed. -/
def abortReservation : TurnProgram Unit :=
  call (.abortReply request.stateKey request.requestId reservation.ownerToken) (fun
    | .ok _ => return ()
    | .error (.coordinatorError _) => runStep .abortConflictEvent
    | .error e => raise (.coordinator e))

/-- The `finally` block; `committed` is set right before the `try` block returns. -/
def releaseReservation : Except TurnException ReplyResponse → TurnProgram Unit
  | .ok _ => runStep .logTrace
  | .error _ => do
    abortReservation request reservation
    runStep .logTrace

/-- `run_reply_turn`. -/
def runReplyTurn (verifierEnabled : Bool) : TurnProgram ReplyResponse :=
  call (.reserveReply request.stateKey request.requestId request.requestHash request.replayEligible)
    (fun
      | .error e => raise (.coordinator e)
      | .ok (.replay reply) => return reply.response
      | .ok (.new reservation) =>
        tryFinally (replyTurnBody request reservation verifierEnabled)
          (releaseReservation request reservation))

/-! ## The coordinator calls of a turn -/

/-- The operation and the outcome that a call is for the coordinator. -/
def TurnCall.operation? :
    (c : TurnCall) → c.Answer → Option (CoordinatorOperation × OperationOutcome)
  | .reserveReply k requestId requestHash replayEligible, answer =>
    some (.reserveReply k requestId requestHash replayEligible, answer.map .reservation)
  | .readTurnAdmissionSnapshot k core, answer =>
    some (.readTurnAdmissionSnapshot k core.stateAdmissionHash core.effectiveGrantsHash
      core.businessScopeHash, answer.map .snapshot)
  | .commitReply proposal, answer => some (.commitReply proposal, answer.map .committed)
  | .abortReply k requestId ownerToken, answer =>
    some (.abortReply k requestId ownerToken, answer.map (fun _ => .aborted))
  | .code _, _ => none

/-- The coordinator operations of a trace, with their outcomes. -/
def coordinatorCalls (l : List (Exchange TurnCall TurnCall.Answer)) :
    List (CoordinatorOperation × OperationOutcome) :=
  l.filterMap (fun e => e.1.operation? e.2)

@[simp] theorem coordinatorCalls_nil : coordinatorCalls [] = [] := rfl

@[simp] theorem coordinatorCalls_append (l l' : List (Exchange TurnCall TurnCall.Answer)) :
    coordinatorCalls (l ++ l') = coordinatorCalls l ++ coordinatorCalls l' :=
  List.filterMap_append

/-- Steps of the code are no coordinator calls. -/
@[simp] theorem coordinatorCalls_code (step : TurnStep) (answer : (TurnCall.code step).Answer)
    (l : List (Exchange TurnCall TurnCall.Answer)) :
    coordinatorCalls (⟨.code step, answer⟩ :: l) = coordinatorCalls l := rfl

/-- The operation of the turn's reservation. -/
def TurnRequest.reserve (request : TurnRequest) : CoordinatorOperation :=
  .reserveReply request.stateKey request.requestId request.requestHash request.replayEligible

/-- The operation that releases the reservation. -/
def TurnRequest.abort (request : TurnRequest) (reservation : NewReplyReservationV1) :
    CoordinatorOperation :=
  .abortReply request.stateKey request.requestId reservation.ownerToken

/-- The proposal is one for the turn's reservation. -/
structure Proposes (proposal : ReplyCommitProposalV1) : Prop where
  stateKey : proposal.stateKey = request.stateKey
  requestId : proposal.requestId = request.requestId
  ownerToken : proposal.ownerToken = reservation.ownerToken

/-- The operation that reads the admission snapshot. -/
def TurnRequest.read (request : TurnRequest) (core : PolicyAuthorityCoreV1) :
    CoordinatorOperation :=
  .readTurnAdmissionSnapshot request.stateKey core.stateAdmissionHash core.effectiveGrantsHash
    core.businessScopeHash

/-- How a part of the turn ends, with its coordinator calls: it raised before it tried to
commit, or it tried once. A response is the one that the commit returned. -/
inductive CommitCalls : List (CoordinatorOperation × OperationOutcome) →
    Except TurnException ReplyResponse → Prop where
  | untried (e : TurnException) : CommitCalls [] (.error e)
  | refused {proposal : ReplyCommitProposalV1} (proposes : Proposes request reservation proposal)
      (e : CoordinatorException) :
      CommitCalls [(.commitReply proposal, .error e)] (.error (.coordinator e))
  | committed {proposal : ReplyCommitProposalV1} (proposes : Proposes request reservation proposal)
      (response : ReplyResponse) {result : Except TurnException ReplyResponse}
      (returned : ∀ reply, result = .ok reply → reply = response) :
      CommitCalls [(.commitReply proposal, .ok (.committed response))] result

/-- The coordinator calls of the `try` block: at most one snapshot, then at most one commit. -/
inductive BodyCalls : List (CoordinatorOperation × OperationOutcome) →
    Except TurnException ReplyResponse → Prop where
  | unread (e : TurnException) : BodyCalls [] (.error e)
  | read (core : PolicyAuthorityCoreV1) (outcome : OperationOutcome)
      {calls : List (CoordinatorOperation × OperationOutcome)}
      {result : Except TurnException ReplyResponse}
      (rest : CommitCalls request reservation calls result) :
      BodyCalls ((request.read core, outcome) :: calls) result

/-- The coordinator calls of a turn: a reservation, and unless it is refused or replays a
response, those of the `try` block and the abort when that block raised. -/
inductive TurnCalls : List (CoordinatorOperation × OperationOutcome) →
    Except TurnException ReplyResponse → Prop where
  | refused (e : CoordinatorException) :
      TurnCalls [(request.reserve, .error e)] (.error (.coordinator e))
  | replayed (reply : CompletedReplyReplayV1) :
      TurnCalls [(request.reserve, .ok (.reservation (.replay reply)))] (.ok reply.response)
  | kept (reservation : NewReplyReservationV1)
      {calls : List (CoordinatorOperation × OperationOutcome)}
      {response : ReplyResponse} {result : Except TurnException ReplyResponse}
      (body : BodyCalls request reservation calls (.ok response))
      (returned : ∀ reply, result = .ok reply → reply = response) :
      TurnCalls ((request.reserve, .ok (.reservation (.new reservation))) :: calls) result
  | released (reservation : NewReplyReservationV1)
      {calls : List (CoordinatorOperation × OperationOutcome)} {e e' : TurnException}
      (body : BodyCalls request reservation calls (.error e)) (outcome : OperationOutcome) :
      TurnCalls ((request.reserve, .ok (.reservation (.new reservation))) ::
        (calls ++ [(request.abort reservation, outcome)])) (.error e')

variable {request reservation}

/-- A step of the code makes no coordinator call. -/
theorem runStep_calls (step : TurnStep) :
    (runStep step).wp (fun l _ => coordinatorCalls l = []) := fun _ => rfl

theorem alignCandidate_calls (verifierEnabled : Bool) (candidate : V2AttemptResult) :
    (alignCandidate verifierEnabled candidate).wp (fun l _ => coordinatorCalls l = []) := by
  unfold alignCandidate
  cases candidate.replyValidation.valid && verifierEnabled
  · exact rfl
  · exact runStep_calls (.ensureAligned candidate)

theorem admitTurn_calls : (admitTurn request reservation).wp (fun l result =>
    (coordinatorCalls l = [] ∧ ∃ e, result = .error e) ∨
      ∃ core outcome, coordinatorCalls l = [(request.read core, outcome)]) := by
  refine wp_seq (runStep_calls _) (fun l e h => .inl ⟨h, e, rfl⟩) fun l core h => ?_
  have hread : (call (.readTurnAdmissionSnapshot request.stateKey core) orRaise : TurnProgram _).wp
      (fun l _ => ∃ outcome, coordinatorCalls l = [(request.read core, outcome)]) :=
    fun answer => ⟨answer.map .snapshot, rfl⟩
  refine wp_seq hread (fun l' e hl' => .inr ?_) fun l' snapshot hl' => ?_
  · obtain ⟨outcome, hl'⟩ := hl'
    exact ⟨core, outcome, by rw [coordinatorCalls_append, h, hl']; rfl⟩
  · obtain ⟨outcome, hl'⟩ := hl'
    have hcalls : ∀ l'', coordinatorCalls l'' = [] →
        coordinatorCalls (l ++ (l' ++ l'')) = [(request.read core, outcome)] := by
      intro l'' hl''
      simp [h, hl', hl'']
    split_ifs
    · exact .inr ⟨core, outcome, hcalls [] rfl⟩
    · refine wp_seq (runStep_calls _) (fun l'' e hl'' => .inr ⟨core, outcome, hcalls l'' hl''⟩)
        fun l'' policy hl'' => .inr ⟨core, outcome, ?_⟩
      simpa using hcalls l'' hl''

theorem commitCandidate_calls (snapshot : TurnAdmissionSnapshotV1) (policy : PolicyIdentity)
    (candidate : V2AttemptResult) :
    (commitCandidate request reservation snapshot policy candidate).wp
      (fun l result => CommitCalls request reservation (coordinatorCalls l) result) := by
  unfold commitCandidate
  split_ifs
  · refine wp_seq (runStep_calls _) (fun l e h => ?_) fun l audit h => ?_
    · rw [h]
      exact .untried e
    have proposes : Proposes request reservation
        (replyCommitProposal request reservation candidate snapshot policy audit) :=
      ⟨rfl, rfl, rfl⟩
    refine wp_bind.mpr fun answer => ?_
    cases answer with
    | error e =>
      simp only [orRaise, Except.mapError, wp_ofExcept, coordinatorCalls_append, h]
      exact .refused proposes e
    | ok response =>
      simp only [orRaise, Except.mapError, wp_ofExcept]
      have hcommit : coordinatorCalls (l ++ [⟨.commitReply (replyCommitProposal request reservation
          candidate snapshot policy audit), Except.ok response⟩]) = [(.commitReply
            (replyCommitProposal request reservation candidate snapshot policy audit),
            .ok (.committed response))] := by
        rw [coordinatorCalls_append, h]
        rfl
      refine wp_seq (runStep_calls _) (fun l' e hl' => ?_) fun l' u hl' => ?_
      · rw [← List.append_assoc, coordinatorCalls_append, hcommit, hl']
        exact .committed proposes response (fun _ h => by cases h)
      · rw [wp_pure, List.append_nil, ← List.append_assoc, coordinatorCalls_append, hcommit, hl']
        exact .committed proposes response (fun _ h => (Except.ok.inj h).symm)
  · exact .untried _

theorem replyTurnBody_calls (verifierEnabled : Bool) :
    (replyTurnBody request reservation verifierEnabled).wp
      (fun l result => BodyCalls request reservation (coordinatorCalls l) result) := by
  refine wp_seq (runStep_calls _) (fun l e h => ?_) fun l u h => ?_
  · rw [h]
    exact .unread e
  have hl : ∀ l', coordinatorCalls (l ++ l') = coordinatorCalls l' := fun l' => by
    rw [coordinatorCalls_append, h, List.nil_append]
  refine wp_seq admitTurn_calls (fun l' e hl' => ?_) fun l' admitted hl' => ?_
  · rw [hl]
    obtain ⟨hnone, _⟩ | ⟨core, outcome, hread⟩ := hl'
    · rw [hnone]
      exact .unread e
    · rw [hread]
      exact .read core outcome (.untried e)
  obtain ⟨_, e, he⟩ | ⟨core, outcome, hread⟩ := hl'
  · cases he
  have hl' : ∀ l'', coordinatorCalls (l ++ (l' ++ l'')) =
      (request.read core, outcome) :: coordinatorCalls l'' := fun l'' => by
    rw [hl, coordinatorCalls_append, hread, List.singleton_append]
  refine wp_seq (runStep_calls _) (fun l₁ e h₁ => ?_) fun l₁ built h₁ => ?_
  · rw [hl', h₁]
    exact .read core outcome (.untried e)
  refine wp_seq (alignCandidate_calls _ _) (fun l₂ e h₂ => ?_) fun l₂ candidate h₂ => ?_
  · rw [hl', coordinatorCalls_append, h₁, h₂]
    exact .read core outcome (.untried e)
  · refine wp_mono (commitCandidate_calls _ _ _) fun l₃ result h₃ => ?_
    rw [hl', coordinatorCalls_append, coordinatorCalls_append, h₁, h₂]
    exact .read core outcome h₃

theorem abortReservation_calls : (abortReservation request reservation).wp (fun l _ =>
    ∃ outcome, coordinatorCalls l = [(request.abort reservation, outcome)]) := by
  intro answer
  have hcall : ∀ l, coordinatorCalls l = [] → ∃ outcome, coordinatorCalls
      (⟨.abortReply request.stateKey request.requestId reservation.ownerToken, answer⟩ :: l) =
        [(request.abort reservation, outcome)] :=
    fun l h => ⟨answer.map (fun _ => .aborted), by
      rw [← List.singleton_append, coordinatorCalls_append, h]
      rfl⟩
  match answer with
  | .ok _ => exact hcall [] rfl
  | .error (.coordinatorError _) => exact wp_mono (runStep_calls _) fun l _ h => hcall l h
  | .error (.valueError _) | .error .hookRuntimeError | .error .hookOtherError => exact hcall [] rfl

/-- The coordinator calls of a turn, whatever the code that it calls does. -/
theorem runReplyTurn_calls (verifierEnabled : Bool) : (runReplyTurn request verifierEnabled).wp
    (fun l result => TurnCalls request (coordinatorCalls l) result) := by
  intro answer
  have hcall : ∀ l, coordinatorCalls (⟨.reserveReply request.stateKey request.requestId
      request.requestHash request.replayEligible, answer⟩ :: l) =
      (request.reserve, answer.map .reservation) :: coordinatorCalls l := fun l => rfl
  simp only [hcall]
  match answer with
  | .error e => exact .refused e
  | .ok (.replay reply) => exact .replayed reply
  | .ok (.new reservation) =>
    refine wp_tryFinally.mpr (wp_mono (replyTurnBody_calls verifierEnabled) fun l ended body => ?_)
    cases ended with
    | ok response =>
      refine wp_mono (runStep_calls .logTrace) fun l' logged h => ?_
      rw [coordinatorCalls_append, h, List.append_nil]
      cases logged with
      | ok _ => exact .kept reservation body fun _ h => (Except.ok.inj h).symm
      | error _ => exact .kept reservation body fun _ h => nomatch h
    | error e =>
      have haborted : (releaseReservation request reservation (.error e)).wp (fun l _ =>
          ∃ outcome, coordinatorCalls l = [(request.abort reservation, outcome)]) := by
        refine wp_seq abortReservation_calls (fun _ _ h => h) fun l' _ h => ?_
        refine wp_mono (runStep_calls .logTrace) fun l'' _ h'' => ?_
        rwa [coordinatorCalls_append, h'', List.append_nil]
      refine wp_mono haborted fun l' ended h => ?_
      obtain ⟨outcome, h⟩ := h
      rw [coordinatorCalls_append, h]
      cases ended with
      | ok _ => exact .released reservation body outcome
      | error _ => exact .released reservation body outcome

theorem CommitCalls.ne_reserve {calls : List (CoordinatorOperation × OperationOutcome)}
    {result : Except TurnException ReplyResponse}
    (h : CommitCalls request reservation calls result) :
    ∀ call ∈ calls, call.1 ≠ request.reserve := by
  cases h <;> simp [TurnRequest.reserve]

theorem BodyCalls.ne_reserve {calls : List (CoordinatorOperation × OperationOutcome)}
    {result : Except TurnException ReplyResponse} (h : BodyCalls request reservation calls result) :
    ∀ call ∈ calls, call.1 ≠ request.reserve := by
  cases h with
  | unread => simp
  | read core outcome rest =>
    intro call hcall
    rcases List.mem_cons.mp hcall with rfl | hcall
    · exact fun h => nomatch h
    · exact rest.ne_reserve call hcall

/-- A body that returns has committed what it returns. -/
theorem BodyCalls.committed {calls : List (CoordinatorOperation × OperationOutcome)}
    {result : Except TurnException ReplyResponse} (h : BodyCalls request reservation calls result)
    {response : ReplyResponse} (hresult : result = .ok response) :
    ∃ proposal, Proposes request reservation proposal ∧
      (.commitReply proposal, .ok (.committed response)) ∈ calls := by
  cases h with
  | unread e => cases hresult
  | read core outcome rest =>
    cases rest with
    | untried e => cases hresult
    | refused proposes e => cases hresult
    | committed proposes reply returned =>
      obtain rfl := returned _ hresult
      exact ⟨_, proposes, by simp⟩

/-- How a turn ends: without a reservation, with a commit, or with an abort. -/
theorem TurnCalls.ends {calls : List (CoordinatorOperation × OperationOutcome)}
    {result : Except TurnException ReplyResponse} (h : TurnCalls request calls result) :
    ∃ outcome rest, calls = (request.reserve, outcome) :: rest ∧
      (∀ call ∈ rest, call.1 ≠ request.reserve) ∧
      ((∀ reservation, outcome ≠ .ok (.reservation (.new reservation))) ∨
        ∃ reservation, outcome = .ok (.reservation (.new reservation)) ∧
          ((∃ proposal response, Proposes request reservation proposal ∧
              (.commitReply proposal, .ok (.committed response)) ∈ rest) ∨
            ∃ answer, (request.abort reservation, answer) ∈ rest)) := by
  cases h with
  | refused e => exact ⟨_, [], rfl, by simp, .inl fun _ => by simp⟩
  | replayed reply => exact ⟨_, [], rfl, by simp, .inl fun _ => by simp⟩
  | kept reservation body =>
    refine ⟨_, _, rfl, body.ne_reserve, .inr ⟨reservation, rfl, .inl ?_⟩⟩
    obtain ⟨proposal, proposes, hmem⟩ := body.committed rfl
    exact ⟨proposal, _, proposes, hmem⟩
  | released reservation body outcome =>
    refine ⟨_, _, rfl, ?_, .inr ⟨reservation, rfl, .inr ⟨outcome, by simp⟩⟩⟩
    intro call hcall
    rcases List.mem_append.mp hcall with hcall | hcall
    · exact body.ne_reserve call hcall
    · rw [List.mem_singleton.mp hcall]
      exact fun h => nomatch h

/-- What a turn returns is a replay, or what one of its commits returned. -/
theorem TurnCalls.returned {calls : List (CoordinatorOperation × OperationOutcome)}
    {result : Except TurnException ReplyResponse} (h : TurnCalls request calls result)
    {response : ReplyResponse} (hresult : result = .ok response) :
    (∃ reply, (request.reserve, .ok (.reservation (.replay reply))) ∈ calls ∧
      reply.response = response) ∨
    ∃ reservation proposal, Proposes request reservation proposal ∧
      (.commitReply proposal, .ok (.committed response)) ∈ calls := by
  cases h with
  | refused e => cases hresult
  | replayed reply => exact .inl ⟨reply, by simp, Except.ok.inj hresult⟩
  | kept reservation body returned =>
    obtain rfl := returned _ hresult
    obtain ⟨proposal, proposes, hmem⟩ := body.committed rfl
    exact .inr ⟨reservation, proposal, proposes, List.mem_cons_of_mem _ hmem⟩
  | released => cases hresult

end MarketSupport
