import MarketSupport.Lifecycle.ReplyTurn
import MarketSupport.Properties.Concurrency
import MarketSupport.Properties.Replay
import MarketSupport.Properties.RevisionCapacity

/-!
# Reservations of turns

A turn runs beside the other callers of the coordinator: its coordinator calls are some of
the operations of a run. Whatever the code of the turn does, its reservation is gone when it
has ended, by its commit or by its abort.

## Main results

* `TurnIn.released` — no pending record carries the owner token of an ended turn.
* `reserveReply_refused` — what refuses a later reservation is held by someone else.
* `turn_releases_reservation` — the whole property of a turn.
-/

namespace MarketSupport

open Library Program

variable {setup : CoordinatorSetup} {request : TurnRequest} {verifierEnabled : Bool}
  {es mine : List CoordinatorEvent} {c : Coordinator} {result : Except TurnException ReplyResponse}

/-- The coordinator of the service has no fault hook. -/
def Unhooked (es : List CoordinatorEvent) (e : CoordinatorEvent) : Prop :=
  Admissible es e ∧ e.input.2.HooksPass

/-- A turn inside a run: `mine` are the events of its coordinator calls, in their order. -/
structure TurnIn (request : TurnRequest) (verifierEnabled : Bool) (es mine : List CoordinatorEvent)
    (result : Except TurnException ReplyResponse) : Prop where
  within : mine.Sublist es
  ran : ∃ l, Trace (runReplyTurn request verifierEnabled) l result ∧
    mine.map (fun e => (e.input.1, e.output)) = coordinatorCalls l

theorem TurnIn.calls (turn : TurnIn request verifierEnabled es mine result) :
    TurnCalls request (mine.map (fun e => (e.input.1, e.output))) result := by
  obtain ⟨l, trace, hcalls⟩ := turn.ran
  rw [hcalls]
  exact trace.wp (runReplyTurn_calls verifierEnabled)

/-! ## The owner token of a turn -/

/-- The owner token that the event drew is carried at `key` only. -/
def OwnedAt (e : CoordinatorEvent) (key : RecordKey) (c : Coordinator) : Prop :=
  ∀ key' pending, c.root.issuedRecords.get key' = some (.pending pending) →
    pending.ownerToken = e.input.2.ownerToken → key' = key

theorem ownedAt_of_run {es₁ es₂ : List CoordinatorEvent} {e : CoordinatorEvent}
    (run : CoordinatorRun setup Admissible (es₁ ++ e :: es₂) c)
    (hop : e.input.1 = request.reserve) :
    OwnedAt e ⟨request.stateKey, request.requestId⟩ c := by
  obtain ⟨hbefore, ok, he, _⟩ := run.split
  refine run.persists (P := fun _ => OwnedAt e ⟨request.stateKey, request.requestId⟩) ?_ ?_
  · rintro ⟨stateKey, requestId⟩ pending hget htoken
    rw [he] at hget
    obtain hold | ⟨_, _, hreserve, _⟩ := runOperation_pending hget
    · exact absurd htoken ((owner_drawn hbefore hold).ne ok)
    · obtain ⟨rfl, rfl, _⟩ := CoordinatorOperation.reserveReply.inj (hop.symm.trans hreserve)
      rfl
  · rintro es c input _ ⟨rest, rfl⟩ ok' ih key pending hget htoken
    obtain hold | ⟨_, _, _, hdraw⟩ := runOperation_pending hget
    · exact ih key pending hold htoken
    · have hfresh := (ok'.fresh e (by simp)).2.1
      exact absurd (hdraw.symm.trans htoken) hfresh

/-- A cleanup and an eviction make no reservation. -/
theorem Follows.pending {allowed : List Change} {root root' : CoordinatorStateRootV1}
    (h : Follows setup allowed root root')
    (hallowed : ∀ change ∈ allowed, ∀ k requestId requestHash replayEligible readings,
      change ≠ .reserve k requestId requestHash replayEligible readings)
    {key : RecordKey} {pending : PendingIssuedResponseRecordV1}
    (hget : root'.issuedRecords.get key = some (.pending pending)) :
    root.issuedRecords.get key = some (.pending pending) := by
  revert hget
  refine h.invariant (P := fun r => r.issuedRecords.get key = some (.pending pending) →
    root.issuedRecords.get key = some (.pending pending)) id ?_
  intro r r' change hmem ih step hget
  obtain hold | ⟨_, _, _, rfl, _⟩ := step.pending hget
  · exact ih hold
  · exact absurd rfl (hallowed _ hmem _ _ _ _ _)

/-- A `reserve_reply` that was refused, or answered with a replay, left nothing pending. -/
theorem not_holds_of_no_reservation {es : List CoordinatorEvent} {e : CoordinatorEvent}
    (run : CoordinatorRun setup Admissible es e.before) (ok : Admissible es e)
    (he : e = (coordinatorSystem setup).event e.before e.input) (hop : e.input.1 = request.reserve)
    (hout : ∀ reservation, e.output ≠ .ok (.reservation (.new reservation))) :
    ¬ (ownerNonce setup).holds e.after e.input.2.ownerToken := by
  rintro ⟨key, pending, hget, htoken⟩
  suffices hold : e.before.root.issuedRecords.get key = some (.pending pending) from
    (owner_drawn run hold).ne ok htoken
  rcases hinput : e.input with ⟨operation, draws⟩
  rw [hinput] at he hop
  obtain rfl : operation = request.reserve := hop
  rcases hx : reserveReply setup request.stateKey request.requestId request.requestHash
    request.replayEligible draws e.before with ⟨answer, c'⟩
  have hevent : e.output = answer.map .reservation ∧ e.after = c' := by
    rw [he]
    simp [System.event, coordinatorSystem, runOperation, TurnRequest.reserve, outcome, hx]
  rw [hevent.2] at hget
  have hclean : Follows setup [.cleanup draws.cleanupMonotonicNs draws.cleanupEpochMs]
      e.before.root (afterCleanup setup draws e.before).root := afterCleanup_follows
  obtain ⟨_, hfollows⟩ | ⟨_, _, _, hroot⟩ | ⟨_, rfl, _⟩ := reserveReply_cases hx
  · exact hclean.pending (by simp) (hfollows.pending (by simp) hget)
  · rw [hroot] at hget
    exact hclean.pending (by simp) hget
  · exact absurd hevent.1 (hout _)

/-- An abort that finds its reservation is published when there is no fault. -/
theorem abortReply_passes {stateKey : ConversationStateKey} {requestId : String}
    {draws : OperationDraws} (sound : Sound setup c) (hook : draws.publication.hook = .passes)
    {pending : PendingIssuedResponseRecordV1}
    (reserved : c.root.issuedRecords.get ⟨stateKey, requestId⟩ = some (.pending pending)) :
    ∃ journal, abortReply setup stateKey requestId pending.ownerToken draws c =
      (.ok (), ⟨published (withoutReservation c.root stateKey requestId), some journal⟩) := by
  have hcandidate : abortReplyCandidate c.root stateKey requestId pending.ownerToken =
      .ok (withoutReservation c.root stateKey requestId) := by
    simp [abortReplyCandidate, reserved, withoutReservation]
  have step : RootStep setup c.root (.abort stateKey requestId pending.ownerToken)
      (published (withoutReservation c.root stateKey requestId)) := .abort reserved
  unfold abortReply
  rw [hcandidate]
  exact step.publishes sound trivial ((size_stateRevisions_published _).trans sound.bounded) hook

/-- An abort without a fault leaves nothing pending under its key and token. -/
theorem abortReply_released {stateKey : ConversationStateKey} {requestId : String}
    {ownerToken : Bytes} {draws : OperationDraws} (sound : Sound setup c)
    (hook : draws.publication.hook = .passes) {pending : PendingIssuedResponseRecordV1}
    (hget : (abortReply setup stateKey requestId ownerToken draws c).2.root.issuedRecords.get
      ⟨stateKey, requestId⟩ = some (.pending pending)) : pending.ownerToken ≠ ownerToken := by
  rintro rfl
  by_cases reserved : c.root.issuedRecords.get ⟨stateKey, requestId⟩ = some (.pending pending)
  · obtain ⟨journal, habort⟩ := abortReply_passes sound hook reserved
    rw [habort] at hget
    exact (FrozenMap.get_withoutKeys_eq_some.mp hget).2 (List.mem_singleton_self _)
  · have hbefore : c.root.issuedRecords.get ⟨stateKey, requestId⟩ = some (.pending pending) ∨
        ∃ requestHash replayEligible, CoordinatorOperation.abortReply stateKey requestId
          pending.ownerToken = .reserveReply stateKey requestId requestHash replayEligible ∧
          pending.ownerToken = draws.ownerToken := runOperation_pending hget
    obtain hold | ⟨_, _, hop, _⟩ := hbefore
    · exact reserved hold
    · cases hop

theorem reserveReply_ownerToken {e : CoordinatorEvent} {reservation : NewReplyReservationV1}
    (he : e = (coordinatorSystem setup).event e.before e.input) (hop : e.input.1 = request.reserve)
    (hout : e.output = .ok (.reservation (.new reservation))) :
    reservation.ownerToken = e.input.2.ownerToken := by
  rcases hinput : e.input with ⟨operation, draws⟩
  rw [hinput] at he hop
  obtain rfl : operation = request.reserve := hop
  rcases hx : reserveReply setup request.stateKey request.requestId request.requestHash
    request.replayEligible draws e.before with ⟨answer, c'⟩
  have hanswer : answer.map OperationResult.reservation =
      .ok (.reservation (.new reservation)) := by
    rw [← hout, he]
    simp [System.event, coordinatorSystem, runOperation, TurnRequest.reserve, outcome, hx]
  obtain ⟨⟨_, rfl⟩, _⟩ | ⟨existing, rfl, hexisting, _⟩ | ⟨_, rfl, _⟩ := reserveReply_cases hx
  · cases hanswer
  · simp only [Except.map, Except.ok.injEq, OperationResult.reservation.injEq] at hanswer
    rw [hanswer] at hexisting
    exact (existingReservationResult_ne_new hexisting).elim
  · simp only [Except.map, Except.ok.injEq, OperationResult.reservation.injEq,
      ReservationResultV1.new.injEq] at hanswer
    rw [← hanswer]
    rfl

/-! ## The end of a turn -/

theorem TurnIn.events (turn : TurnIn request verifierEnabled es mine result) :
    ∃ e₀ rest, mine = e₀ :: rest ∧ e₀.input.1 = request.reserve ∧
      (∀ e ∈ rest, e.input.1 ≠ request.reserve) ∧
      ((∀ reservation, e₀.output ≠ .ok (.reservation (.new reservation))) ∨
        ∃ reservation, e₀.output = .ok (.reservation (.new reservation)) ∧
          ((∃ e ∈ rest, ∃ proposal, Proposes request reservation proposal ∧
            CommitsReply e proposal) ∨
            ∃ e ∈ rest, e.input.1 = request.abort reservation)) := by
  obtain ⟨outcome, calls, hcalls, hother, hends⟩ := turn.calls.ends
  obtain ⟨e₀, rest, rfl, hhead, rfl⟩ := List.map_eq_cons_iff.mp hcalls
  obtain ⟨hop, rfl⟩ := Prod.mk.inj hhead
  refine ⟨e₀, rest, rfl, hop, fun e he => hother _ (List.mem_map_of_mem he), hends.imp_right ?_⟩
  rintro ⟨reservation, hout, hcommit | habort⟩
  · obtain ⟨proposal, response, proposes, hmem⟩ := hcommit
    obtain ⟨e, he, heq⟩ := List.mem_map.mp hmem
    obtain ⟨hcommit, hresponse⟩ := Prod.mk.inj heq
    exact ⟨reservation, hout, .inl ⟨e, he, proposal, proposes, hcommit, response, hresponse⟩⟩
  · obtain ⟨answer, hmem⟩ := habort
    obtain ⟨e, he, heq⟩ := List.mem_map.mp hmem
    exact ⟨reservation, hout, .inr ⟨e, he, (Prod.mk.inj heq).1⟩⟩

/-- Once a turn has ended, no pending record carries the owner token that it drew. -/
theorem TurnIn.released (turn : TurnIn request verifierEnabled es mine result)
    (run : CoordinatorRun setup Unhooked es c) {e₀ : CoordinatorEvent} (h₀ : e₀ ∈ mine)
    (hop : e₀.input.1 = request.reserve) :
    ¬ (ownerNonce setup).holds c e₀.input.2.ownerToken := by
  have hrun : CoordinatorRun setup Admissible es c := run.mono fun _ _ h => h.1
  obtain ⟨e, rest, rfl, _, hother, hends⟩ := turn.events
  obtain rfl : e₀ = e := by
    rcases List.mem_cons.mp h₀ with h | h
    · exact h
    · exact absurd hop (hother _ h)
  obtain hnone | ⟨reservation, hout, hcommit | habort⟩ := hends
  · obtain ⟨es₁, es₂, rfl⟩ := List.append_of_mem (turn.within.subset h₀)
    obtain ⟨hbefore, ok, he, _⟩ := hrun.split
    exact (ownerNonce setup).spent hrun ⟨e₀, by simp, rfl⟩
      (not_holds_of_no_reservation hbefore ok he hop hnone)
  · obtain ⟨e, he, proposal, proposes, hcommit⟩ := hcommit
    obtain ⟨mid, es₁, es₂, rfl⟩ := between_of_sublist turn.within he
    obtain ⟨hbefore, _, heq, hafter⟩ := hrun.split
    have htoken : proposal.ownerToken = e₀.input.2.ownerToken :=
      proposes.ownerToken.trans (reserveReply_ownerToken hbefore.split.2.2.1 hop hout)
    have hgone := hcommit.spent hbefore heq
    rw [htoken] at hgone
    exact (ownerNonce setup).spent hrun ⟨e₀, by simp, rfl⟩ hgone
  · obtain ⟨e, he, habort⟩ := habort
    obtain ⟨mid, es₁, es₂, rfl⟩ := between_of_sublist turn.within he
    obtain ⟨hbefore, _, heq, hafter⟩ := hrun.split
    have htoken := reserveReply_ownerToken hbefore.split.2.2.1 hop hout
    refine (ownerNonce setup).spent hrun ⟨e₀, by simp, rfl⟩ ?_
    rintro ⟨key, pending, hget, hpending⟩
    have howned : OwnedAt e₀ ⟨request.stateKey, request.requestId⟩ e.after := by
      rw [List.append_assoc] at hafter
      exact ownedAt_of_run hafter hop
    obtain rfl := howned _ _ hget hpending
    have hook : e.input.2.publication.hook = .passes := run.split.2.1.2.publication
    rcases hinput : e.input with ⟨operation, draws⟩
    rw [hinput] at heq habort hook
    obtain rfl : operation = request.abort reservation := habort
    rw [heq] at hget
    exact abortReply_released (.of_run hbefore fun _ _ => id) hook hget (hpending.trans htoken.symm)

/-! ## What a turn returns -/

/-- The operation committed a reply. -/
def commitsReply : CoordinatorOperation × OperationOutcome → Bool
  | (.commitReply _, .ok _) => true
  | _ => false

theorem CommitCalls.count_le {reservation : NewReplyReservationV1}
    {calls : List (CoordinatorOperation × OperationOutcome)}
    (h : CommitCalls request reservation calls result) : calls.countP commitsReply ≤ 1 := by
  cases h <;> simp [commitsReply]

theorem BodyCalls.count_le {reservation : NewReplyReservationV1}
    {calls : List (CoordinatorOperation × OperationOutcome)}
    (h : BodyCalls request reservation calls result) : calls.countP commitsReply ≤ 1 := by
  cases h with
  | unread => simp
  | read core outcome rest =>
    rw [List.countP_cons_of_neg (by simp [TurnRequest.read, commitsReply])]
    exact rest.count_le

theorem TurnCalls.count_le {calls : List (CoordinatorOperation × OperationOutcome)}
    (h : TurnCalls request calls result) : calls.countP commitsReply ≤ 1 := by
  cases h with
  | refused | replayed => simp [TurnRequest.reserve, commitsReply]
  | kept reservation body =>
    rw [List.countP_cons_of_neg (by simp [TurnRequest.reserve, commitsReply])]
    exact body.count_le
  | released reservation body =>
    rw [List.countP_cons_of_neg (by simp [TurnRequest.reserve, commitsReply]), List.countP_append]
    simpa [TurnRequest.abort, commitsReply] using body.count_le

/-- The event stored the response, as the reply to the request, or found it stored. -/
def Delivers (request : TurnRequest) (e : CoordinatorEvent) (response : ReplyResponse) : Prop :=
  (e.output = .ok (.committed response) ∨
      ∃ reply, e.output = .ok (.reservation (.replay reply)) ∧ reply.response = response) ∧
    ∃ record, e.after.root.issuedRecords.get ⟨request.stateKey, request.requestId⟩ =
      some (.complete record) ∧ record.response = response

/-- A turn returns the response that it committed, or the stored one of a replay. -/
theorem TurnIn.delivers (turn : TurnIn request verifierEnabled es mine result)
    (run : CoordinatorRun setup Unhooked es c) {response : ReplyResponse}
    (hresult : result = .ok response) : ∃ e ∈ mine, Delivers request e response := by
  have hevent : ∀ e ∈ mine, e = (coordinatorSystem setup).event e.before e.input := by
    intro e he
    obtain ⟨es₁, es₂, rfl⟩ := List.append_of_mem (turn.within.subset he)
    exact run.split.2.2.1
  obtain hreplay | hcommit := turn.calls.returned hresult
  · obtain ⟨reply, hmem, rfl⟩ := hreplay
    obtain ⟨e, he, heq⟩ := List.mem_map.mp hmem
    obtain ⟨hop, hout⟩ := Prod.mk.inj heq
    refine ⟨e, he, .inr ⟨reply, hout, rfl⟩, ?_⟩
    have hself := hevent e he
    rcases hinput : e.input with ⟨operation, draws⟩
    rw [hinput] at hself hop
    obtain rfl : operation = request.reserve := hop
    rw [hself] at hout ⊢
    obtain ⟨record, hget, hresponse, _⟩ := replay_source hout
    exact ⟨record, hget, hresponse.symm⟩
  · obtain ⟨reservation, proposal, proposes, hmem⟩ := hcommit
    obtain ⟨e, he, heq⟩ := List.mem_map.mp hmem
    obtain ⟨hop, hout⟩ := Prod.mk.inj heq
    refine ⟨e, he, .inl hout, ?_⟩
    have hself := hevent e he
    rcases hinput : e.input with ⟨operation, draws⟩
    rw [hinput] at hself hop
    obtain rfl : operation = .commitReply proposal := hop
    rw [hself] at hout ⊢
    obtain ⟨record, ⟨stored, hget, same⟩, hresponse, _⟩ := commitReply_held hout
    rw [proposes.stateKey, proposes.requestId] at hget
    exact ⟨stored, hget, same.response.symm.trans hresponse⟩

/-! ## Later reservations -/

/-- Why `reserve_reply` refuses a request, when nothing that refuses it is pending under the
token: the request is known, another reservation of the conversation is pending, or one of the
two capacities is filled with what has to stay. -/
inductive RefusedByOthers (setup : CoordinatorSetup) (root : CoordinatorStateRootV1)
    (k : ConversationStateKey) (requestId : String) (token : Bytes) : CoordinatorException → Prop
  | request {record : IssuedResponseRecordV1} {code : String}
      (stored : root.issuedRecords.get ⟨k, requestId⟩ = some record)
      (foreign : ∀ pending, record = .pending pending → pending.ownerToken ≠ token)
      (known : code = "request_id_conflict" ∨ code = "request_in_progress") :
      RefusedByOthers setup root k requestId token (.coordinatorError code)
  | conversation {key : RecordKey} {pending : PendingIssuedResponseRecordV1}
      (reserved : root.pendingRequestByState.get k = some key)
      (stored : root.issuedRecords.get key = some (.pending pending))
      (foreign : pending.ownerToken ≠ token) :
      RefusedByOthers setup root k requestId token
        (.coordinatorError "conversation_turn_in_progress")
  | issued (full : setup.config.issuedResponseCapacity ≤ root.issuedRecords.size)
      (foreign : ∀ key record, root.issuedRecords.get key = some record →
        ∃ pending, record = .pending pending ∧ pending.ownerToken ≠ token) :
      RefusedByOthers setup root k requestId token
        (.coordinatorError "issued_response_store_unavailable")
  | revisions {root' : CoordinatorStateRootV1}
      (room : withIssuedRoom setup.config.issuedResponseCapacity root = some root')
      (full : setup.config.stateRevisionCapacity ≤ pinnedBesides root' k) :
      RefusedByOthers setup root k requestId token stateStoreUnavailable

theorem existingReservationResult_refused {root : CoordinatorStateRootV1} {k : ConversationStateKey}
    {requestId requestHash : String} {replayEligible : Bool} {token : Bytes}
    {e : CoordinatorException} (inv : RootInvariant root)
    (free : ∀ key pending, root.issuedRecords.get key = some (.pending pending) →
      pending.ownerToken ≠ token)
    (h : existingReservationResult root k requestId requestHash replayEligible = .error e) :
    RefusedByOthers setup root k requestId token e := by
  unfold existingReservationResult at h
  split at h
  · next existing stored =>
    have foreign : ∀ pending, existing = .pending pending → pending.ownerToken ≠ token := by
      rintro pending rfl
      exact free _ _ stored
    cases existing with
    | pending pending =>
      simp only at h
      split_ifs at h
      · exact (Except.error.inj h) ▸ .request stored foreign (.inl rfl)
      · exact (Except.error.inj h) ▸ .request stored foreign (.inr rfl)
    | complete record =>
      split_ifs at h <;> exact (Except.error.inj h) ▸ .request stored foreign (.inl rfl)
  · split_ifs at h with hpending
    obtain ⟨key, hkey⟩ := FrozenMap.contains_iff.mp hpending
    obtain ⟨record, stored, hreserves⟩ := inv.pending.get_iff.mp hkey
    cases record with
    | complete record => cases hreserves
    | pending pending => exact (Except.error.inj h) ▸ .conversation hkey stored (free _ _ stored)

theorem cleaned_pending {root : CoordinatorStateRootV1} {config : CoordinatorConfigV1}
    {mono epoch : ℤ} {key : RecordKey} {pending : PendingIssuedResponseRecordV1}
    (h : (cleaned config root mono epoch).issuedRecords.get key = some (.pending pending)) :
    root.issuedRecords.get key = some (.pending pending) := by
  obtain hroot | hroot := cleaned_cases config root mono epoch
  · rwa [hroot] at h
  · rw [hroot, published_issuedRecords] at h
    exact (get_withoutExpired_pendingRecord.mp h).1

/-- A reservation without a fault is only refused for what the token does not hold. -/
theorem reserveReply_refused {k : ConversationStateKey} {requestId requestHash : String}
    {replayEligible : Bool} {token : Bytes} {draws : OperationDraws} {e : CoordinatorException}
    (sound : Sound setup c) (trimmed : Trimmed c.root) (hooks : draws.HooksPass)
    (free : ¬ (ownerNonce setup).holds c token)
    (h : (reserveReply setup k requestId requestHash replayEligible draws c).1 = .error e) :
    RefusedByOthers setup
      (cleaned setup.config c.root draws.cleanupMonotonicNs draws.cleanupEpochMs)
      k requestId token e := by
  have hfree : ∀ key pending, (cleaned setup.config c.root draws.cleanupMonotonicNs
      draws.cleanupEpochMs).issuedRecords.get key = some (.pending pending) →
      pending.ownerToken ≠ token :=
    fun key pending hget htoken => free ⟨key, pending, cleaned_pending hget, htoken⟩
  have hcleanup : ∃ n journal, cleanupLocked setup draws.cleanupMonotonicNs draws.cleanupEpochMs
      draws.cleanupPublication c = (.ok n, ⟨cleaned setup.config c.root draws.cleanupMonotonicNs
        draws.cleanupEpochMs, journal⟩) := cleanupLocked_passes sound hooks.cleanup
  obtain ⟨n, journal, hclean⟩ := hcleanup
  have inv := (sound.cleaned draws.cleanupMonotonicNs draws.cleanupEpochMs journal).inv
  cases hexisting : existingReservationResult (cleaned setup.config c.root draws.cleanupMonotonicNs
    draws.cleanupEpochMs) k requestId requestHash replayEligible with
  | error e' =>
    simp only [reserveReply, hclean, hexisting, Except.error.injEq] at h
    exact h ▸ existingReservationResult_refused inv hfree hexisting
  | ok existing =>
    cases existing with
    | some replay => simp [reserveReply, hclean, hexisting] at h
    | none =>
      obtain ⟨hnone, hresult⟩ | ⟨root', hroom, hresult⟩ :=
        reserveReply_passes sound trimmed hexisting hooks
      · rw [hresult] at h
        unfold withIssuedRoom at hnone
        split_ifs at hnone with hfull
        refine (Except.error.inj h) ▸ .issued (not_lt.mp hfull) fun key record hget => ?_
        obtain ⟨pending, rfl⟩ := pending_of_no_victim (Option.map_eq_none_iff.mp hnone) hget
        exact ⟨pending, rfl, hfree _ _ hget⟩
      · split_ifs at hresult with hlt
        · obtain ⟨evicted, journal', _, hresult⟩ := hresult
          rw [hresult] at h
          cases h
        · rw [hresult] at h
          exact (Except.error.inj h) ▸ .revisions hroom (not_lt.mp hlt)

/-- Once `run_reply_turn` has returned or raised, whatever the code that it called did and
whatever other callers did meanwhile: no pending record carries its owner token, it committed
at most once, a response that it returned is the stored one, and a later `reserve_reply` of
another request of the conversation is only refused because of entries that it does not own. -/
theorem turn_releases_reservation (run : CoordinatorRun setup Unhooked es c)
    (turn : TurnIn request verifierEnabled es mine result) :
    (∃ e ∈ mine, e.input.1 = request.reserve ∧
      (∀ reservation, e.output = .ok (.reservation (.new reservation)) →
        reservation.ownerToken = e.input.2.ownerToken) ∧
      (∀ key pending, c.root.issuedRecords.get key = some (.pending pending) →
        pending.ownerToken ≠ e.input.2.ownerToken) ∧
      ∀ requestId requestHash replayEligible draws error, requestId ≠ request.requestId →
        draws.HooksPass → (reserveReply setup request.stateKey requestId requestHash replayEligible
          draws c).1 = .error error →
        RefusedByOthers setup (cleaned setup.config c.root draws.cleanupMonotonicNs
          draws.cleanupEpochMs) request.stateKey requestId e.input.2.ownerToken error) ∧
    mine.countP (fun e => commitsReply (e.input.1, e.output)) ≤ 1 ∧
    ∀ response, result = .ok response → ∃ e ∈ mine, Delivers request e response := by
  have hrun : CoordinatorRun setup Admissible es c := run.mono fun _ _ h => h.1
  obtain ⟨e, rest, hmine, hop, _⟩ := turn.events
  have he : e ∈ mine := by
    rw [hmine]
    exact List.mem_cons_self
  have hreleased := turn.released run he hop
  refine ⟨⟨e, he, hop, ?_, ?_, ?_⟩, ?_, fun response hresult => turn.delivers run hresult⟩
  · intro reservation hout
    obtain ⟨es₁, es₂, rfl⟩ := List.append_of_mem (turn.within.subset he)
    exact reserveReply_ownerToken run.split.2.2.1 hop hout
  · exact fun key pending hget htoken => hreleased ⟨key, pending, hget, htoken⟩
  · intro requestId requestHash replayEligible draws error _ hooks herror
    exact reserveReply_refused (.of_run hrun fun _ _ => id) (.of_run hrun fun _ _ => id) hooks
      hreleased herror
  · have hcount := turn.calls.count_le
    rwa [List.countP_map] at hcount

instance (draws : OperationDraws) : Decidable draws.HooksPass :=
  decidable_of_iff (draws.cleanupPublication.hook = .passes ∧
    draws.evictionPublication.hook = .passes ∧ draws.publication.hook = .passes)
    ⟨fun h => ⟨h.1, h.2.1, h.2.2⟩, fun h => ⟨h.cleanup, h.eviction, h.publication⟩⟩

instance (es : List CoordinatorEvent) (e : CoordinatorEvent) : Decidable (Unhooked es e) :=
  inferInstanceAs (Decidable (_ ∧ _))

def sampleTurnRequest : TurnRequest := ⟨sampleKey, "r", "h", true, "question"⟩

def sampleReservation : NewReplyReservationV1 := ⟨sampleKey, "r", "h", true, [0], [0], 0⟩

/-- The turn reserves its request, its validation raises, and the reservation is aborted. -/
def sampleTurnInputs : List CoordinatorInput :=
  [(sampleTurnRequest.reserve, sampleDraws 1 1),
    (sampleTurnRequest.abort sampleReservation, sampleDraws 2 2)]

def sampleTurnChecked : CheckedTrace sampleSetup Unhooked sampleTurnInputs fun t =>
    decide (t.1.map (·.output) =
      [.ok (.reservation (.new sampleReservation)), .ok .aborted]) :=
  ⟨by decide +kernel⟩

/-- A turn whose request is not valid releases its reservation. -/
theorem turn_releases_reservation_sample :
    (coordinatorTrace sampleSetup sampleTurnInputs).1.map (·.output) =
      [.ok (.reservation (.new sampleReservation)), .ok .aborted] ∧
    ∀ key pending, (coordinatorTrace sampleSetup sampleTurnInputs).2.root.issuedRecords.get key =
      some (.pending pending) → pending.ownerToken ≠ [0] := by
  obtain ⟨run, houtputs⟩ := sampleTurnChecked.run
  refine ⟨of_decide_eq_true houtputs, ?_⟩
  have hinputs : (coordinatorTrace sampleSetup sampleTurnInputs).1.map (·.input) =
      sampleTurnInputs :=
    System.trace_inputs _ [] _ _
  have turn : TurnIn sampleTurnRequest true (coordinatorTrace sampleSetup sampleTurnInputs).1
      (coordinatorTrace sampleSetup sampleTurnInputs).1 (.error (.raised "ValueError")) := by
    refine ⟨.refl _, [⟨.reserveReply sampleKey "r" "h" true, .ok (.new sampleReservation)⟩,
      ⟨.code .validateRequest, .error (.raised "ValueError")⟩,
      ⟨.abortReply sampleKey "r" [0], .ok ()⟩, ⟨.code .logTrace, .ok ()⟩], ?_, ?_⟩
    · exact .call (.call (.call (.call (.done _))))
    · have hops : (coordinatorTrace sampleSetup sampleTurnInputs).1.map (fun e => e.input.1) =
          sampleTurnInputs.map Prod.fst := by rw [← hinputs, List.map_map]; rfl
      rw [← List.zip_map', of_decide_eq_true houtputs, hops]
      rfl
  obtain ⟨⟨e, he, hop, _, hpending, _⟩, _⟩ := turn_releases_reservation run turn
  have hinput : e.input ∈ sampleTurnInputs := by
    rw [← hinputs]
    exact List.mem_map_of_mem he
  obtain heq | heq : e.input = (sampleTurnRequest.reserve, sampleDraws 1 1) ∨
      e.input = (sampleTurnRequest.abort sampleReservation, sampleDraws 2 2) := by
    simpa [sampleTurnInputs] using hinput
  · rw [heq] at hpending
    exact hpending
  · rw [heq] at hop
    cases hop

end MarketSupport
