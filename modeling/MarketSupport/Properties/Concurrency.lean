import MarketSupport.Library.Nonces
import MarketSupport.Library.VersionCell
import MarketSupport.State.EffectTransitions
import MarketSupport.State.RootInvariant

/-!
# Optimistic concurrency

A commit quotes the token and the version it was prepared with. Tokens are spent by the first
commit; versions are never reached twice, because a revision that was dropped comes back under
a fresh epoch.

## Main results

* `commitReply_once`, `commitFeedback_once` — a token commits at most once.
* `commitReply_current` — no commit happened since the quoted version was read.
* `commitFeedback_expected` — every effect still is as it was when it was checked.
* `optimistic_concurrency` — the four facts for every interleaving.
-/

namespace MarketSupport

open Library

variable {setup : CoordinatorSetup}

/-! ## Events -/

/-- The event is a `commit_reply` that succeeded. -/
def CommitsReply (e : CoordinatorEvent) (proposal : ReplyCommitProposalV1) : Prop :=
  e.input.1 = .commitReply proposal ∧ ∃ response, e.output = .ok (.committed response)

/-- The event is a `commit_feedback` that succeeded. -/
def CommitsFeedback (e : CoordinatorEvent) (prepared : PreparedFeedbackV1) : Prop :=
  e.input.1 = .commitFeedback prepared ∧ ∃ result, e.output = .ok (.feedbackCommitted result)

/-- The event is a successful commit on the conversation `k`. -/
def CommitsOn (e : CoordinatorEvent) (k : ConversationStateKey) : Prop :=
  (∃ proposal, CommitsReply e proposal ∧ proposal.stateKey = k) ∨
    ∃ prepared, CommitsFeedback e prepared ∧ prepared.stateKey = k

/-- The event told its caller that `(epoch, revision)` is the version of `k`. -/
def ReadsVersion (e : CoordinatorEvent) (k : ConversationStateKey) (epoch : Bytes)
    (revision : ℕ) : Prop :=
  (∃ reservation, e.output = .ok (.reservation (.new reservation)) ∧ reservation.stateKey = k ∧
    reservation.revisionEpoch = epoch ∧ reservation.stateRevision = revision) ∨
  ∃ snapshot, e.output = .ok (.snapshot snapshot) ∧ snapshot.stateKey = k ∧
    snapshot.revisionEpoch = epoch ∧ snapshot.stateRevision = revision

theorem commitReply_success {proposal : ReplyCommitProposalV1} {draws : OperationDraws}
    {c : Coordinator} {result : OperationResult}
    (h : (runOperation setup (.commitReply proposal) draws c).1 = .ok result) :
    RootStep setup c.root (.commit proposal draws.commitReadings)
      (runOperation setup (.commitReply proposal) draws c).2.root := by
  obtain ⟨response, hok, _⟩ := outcome_eq_ok.mp h
  rcases hx : commitReply setup proposal draws c with ⟨value, c'⟩
  obtain ⟨⟨e, rfl⟩, _⟩ | ⟨_, step⟩ := commitReply_cases hx
  · rw [hx] at hok
    cases hok
  · have hroot : (runOperation setup (.commitReply proposal) draws c).2.root = c'.root := by
      simp [runOperation, outcome, hx]
    rwa [hroot]

theorem commitFeedback_success {prepared : PreparedFeedbackV1} {draws : OperationDraws}
    {c : Coordinator} {result : OperationResult}
    (h : (runOperation setup (.commitFeedback prepared) draws c).1 = .ok result) :
    RootStep setup c.root (.commitFeedback prepared draws.monotonicNs draws.epochMs)
      (runOperation setup (.commitFeedback prepared) draws c).2.root := by
  obtain ⟨value, hok, _⟩ := outcome_eq_ok.mp h
  rcases hx : commitFeedback setup prepared draws c with ⟨value', c'⟩
  obtain ⟨⟨e, rfl⟩, _⟩ | ⟨_, step⟩ := commitFeedback_cases hx
  · rw [hx] at hok
    cases hok
  · have hroot : (runOperation setup (.commitFeedback prepared) draws c).2.root = c'.root := by
      simp [runOperation, outcome, hx]
    rwa [hroot]

/-- A successful `commit_reply` of a run is a commit step of the root. -/
theorem CommitsReply.step {e : CoordinatorEvent} {proposal : ReplyCommitProposalV1}
    (h : CommitsReply e proposal) (he : e = (coordinatorSystem setup).event e.before e.input) :
    RootStep setup e.before.root (.commit proposal e.input.2.commitReadings) e.after.root := by
  obtain ⟨hop, response, hout⟩ := h
  rcases hinput : e.input with ⟨operation, draws⟩
  rw [hinput] at he hop
  obtain rfl : operation = .commitReply proposal := hop
  have hout' : (runOperation setup (.commitReply proposal) draws e.before).1 =
      .ok (.committed response) := by
    rw [← hout, he]
    rfl
  have hstep := commitReply_success hout'
  rw [he]
  exact hstep

/-- A successful `commit_feedback` of a run is a feedback step of the root. -/
theorem CommitsFeedback.step {e : CoordinatorEvent} {prepared : PreparedFeedbackV1}
    (h : CommitsFeedback e prepared) (he : e = (coordinatorSystem setup).event e.before e.input) :
    RootStep setup e.before.root
      (.commitFeedback prepared e.input.2.monotonicNs e.input.2.epochMs) e.after.root := by
  obtain ⟨hop, result, hout⟩ := h
  rcases hinput : e.input with ⟨operation, draws⟩
  rw [hinput] at he hop
  obtain rfl : operation = .commitFeedback prepared := hop
  have hout' : (runOperation setup (.commitFeedback prepared) draws e.before).1 =
      .ok (.feedbackCommitted result) := by
    rw [← hout, he]
    rfl
  have hstep := commitFeedback_success hout'
  rw [he]
  exact hstep

/-! ## Reservations -/

/-- A pending reservation was there before, or is the one that the change makes. -/
theorem RootStep.pending {root root' : CoordinatorStateRootV1} {change : Change}
    (step : RootStep setup root change root') {key : RecordKey}
    {pending : PendingIssuedResponseRecordV1}
    (h : root'.issuedRecords.get key = some (.pending pending)) :
    root.issuedRecords.get key = some (.pending pending) ∨
      ∃ requestHash replayEligible readings,
        change = .reserve key.stateKey key.ident requestHash replayEligible readings ∧
        pending.ownerToken = readings.ownerToken := by
  cases step with
  | cleanup =>
    rw [published_issuedRecords, get_withoutExpired_pendingRecord] at h
    exact .inl h.1
  | evict => exact .inl (FrozenMap.get_withoutKeys_eq_some.mp h).1
  | abort => exact .inl (FrozenMap.get_withoutKeys_eq_some.mp h).1
  | prepare | drop => exact .inl h
  | reserve =>
    simp only [published_issuedRecords, withReservation, FrozenMap.get_insert] at h
    split_ifs at h with hkey
    · cases h
      exact .inr ⟨_, _, _, by rw [hkey], rfl⟩
    · exact .inl h
  | commit =>
    simp only [published_issuedRecords, committedRoot, withoutSessions, withCommittedReply,
      FrozenMap.get_insert] at h
    split_ifs at h
    · cases h
    · exact .inl h
  | commitFeedback =>
    simp only [published_issuedRecords, withCommittedFeedback, FrozenMap.get_insert] at h
    split_ifs at h
    · cases h
    · exact .inl h

theorem runOperation_pending {operation : CoordinatorOperation} {draws : OperationDraws}
    {c : Coordinator} {key : RecordKey} {pending : PendingIssuedResponseRecordV1}
    (h : (runOperation setup operation draws c).2.root.issuedRecords.get key =
      some (.pending pending)) :
    c.root.issuedRecords.get key = some (.pending pending) ∨
      ∃ requestHash replayEligible,
        operation = .reserveReply key.stateKey key.ident requestHash replayEligible ∧
        pending.ownerToken = draws.ownerToken := by
  revert h
  refine (runOperation_follows setup operation draws c).invariant (P := fun r =>
    r.issuedRecords.get key = some (.pending pending) →
      c.root.issuedRecords.get key = some (.pending pending) ∨
      ∃ requestHash replayEligible,
        operation = .reserveReply key.stateKey key.ident requestHash replayEligible ∧
        pending.ownerToken = draws.ownerToken) .inl ?_
  intro r r' change hmem ih step h
  obtain hbefore | ⟨requestHash, replayEligible, readings, rfl, hdraw⟩ := step.pending h
  · exact ih hbefore
  · obtain ⟨hop, rfl⟩ := reserve_mem_changes hmem
    exact .inr ⟨requestHash, replayEligible, hop, hdraw⟩

/-! ## Versions -/

/-- The version of a conversation as a cell that is dropped and created again. -/
def versionCell (root : CoordinatorStateRootV1) (k : ConversationStateKey) : Option (Bytes × ℕ) :=
  (root.stateRevisions.get k).map (fun revision => (revision.revisionEpoch, revision.revision))

theorem versionCell_published (used : Set Bytes) (root : CoordinatorStateRootV1)
    (k : ConversationStateKey) :
    VersionCell.Step used (versionCell root k) (versionCell (published root) k) := by
  unfold versionCell
  rw [get_published_stateRevisions]
  split_ifs
  · exact .keep _
  · exact .drop _

/-- A publication keeps, creates or bumps the version, and may then drop it. -/
theorem RootStep.versionCell {root root' : CoordinatorStateRootV1} {change : Change}
    (step : RootStep setup root change root') {used : Set Bytes}
    (fresh : ∀ k requestId requestHash replayEligible readings,
      change = .reserve k requestId requestHash replayEligible readings →
      readings.revisionEpoch ∉ used) (k : ConversationStateKey) :
    ∃ cell, VersionCell.Step used (versionCell root k) cell ∧
      VersionCell.Step used cell (versionCell root' k) := by
  cases step with
  | cleanup mono epoch =>
    exact ⟨_, .keep _, versionCell_published used (withoutExpired setup.config root mono epoch) k⟩
  | @evict key record =>
    exact ⟨_, .keep _, versionCell_published used (withoutIssuedRecord root key record) k⟩
  | @abort stateKey requestId =>
    exact ⟨_, .keep _, versionCell_published used (withoutReservation root stateKey requestId) k⟩
  | @prepare stateKey feedback readings record revision transitions =>
    exact ⟨_, .keep _, versionCell_published used (withPreparedToken root (preparedFeedback stateKey
      feedback (feedbackHash setup.sha256 feedback) record revision transitions readings)
      readings.createdAtMonotonicNs) k⟩
  | drop prepared =>
    exact ⟨_, .keep _, versionCell_published used (dropPreparedTokenCandidate root prepared) k⟩
  | @reserve k' requestId requestHash replayEligible readings =>
    refine ⟨_, ?_, versionCell_published ..⟩
    simp only [MarketSupport.versionCell, withReservation, FrozenMap.get_insert]
    split_ifs with hk
    · subst hk
      cases hget : root.stateRevisions.get k with
      | none =>
        rw [reservedRevision, hget]
        exact .create _ (fresh _ _ _ _ _ rfl)
      | some revision =>
        rw [reservedRevision_of_some hget]
        exact .keep _
    · exact .keep _
  | commit admitted =>
    refine ⟨_, ?_, versionCell_published ..⟩
    simp only [MarketSupport.versionCell, committedRoot, withoutSessions, withCommittedReply,
      FrozenMap.get_insert]
    split_ifs with hk
    · subst hk
      rw [admitted.current]
      exact .bump _ _
    · exact .keep _
  | commitFeedback admitted =>
    refine ⟨_, ?_, versionCell_published ..⟩
    simp only [MarketSupport.versionCell, withCommittedFeedback, FrozenMap.get_insert]
    split_ifs with hk
    · subst hk
      rw [admitted.current]
      exact .bump _ _
    · exact .keep _

/-- What the steps of a cell keep, an operation keeps. -/
theorem runOperation_versionCell {operation : CoordinatorOperation} {draws : OperationDraws}
    {c : Coordinator} {k : ConversationStateKey} (used : Set Bytes)
    {Q : Option (Bytes × ℕ) → Prop} (fresh : draws.revisionEpoch ∉ used)
    (keeps : ∀ {cell cell'}, VersionCell.Step used cell cell' → Q cell → Q cell')
    (h : Q (versionCell c.root k)) :
    Q (versionCell (runOperation setup operation draws c).2.root k) := by
  have holds : ({} : CommitGuard).Holds setup operation draws c :=
    ⟨fun _ _ => trivial, fun _ _ => trivial⟩
  refine runOperation_invariant (P := fun root => Q (versionCell root k)) h holds ?_
  intro r r' change hmem _ hr step
  have hfresh : ∀ k requestId requestHash replayEligible readings,
      change = .reserve k requestId requestHash replayEligible readings →
      readings.revisionEpoch ∉ used := by
    rintro k requestId requestHash replayEligible readings rfl
    rw [(reserve_mem_changes hmem).2]
    exact fresh
  obtain ⟨cell, first, second⟩ := step.versionCell hfresh k
  exact keeps second (keeps first hr)

/-- The epochs of the stored versions. -/
def epochNonce (setup : CoordinatorSetup) : Nonce (coordinatorSystem setup) Admissible Bytes where
  holds c epoch := ∃ k n, versionCell c.root k = some (epoch, n)
  draw input := input.2.revisionEpoch
  source := by
    rintro c ⟨operation, draws⟩ epoch ⟨k, n, hcell⟩
    have hsource : ∀ n, versionCell (runOperation setup operation draws c).2.root k =
        some (epoch, n) →
        (∃ m, versionCell c.root k = some (epoch, m)) ∨ epoch = draws.revisionEpoch := by
      refine runOperation_versionCell (fun x => x ≠ draws.revisionEpoch)
        (Q := fun cell => ∀ n, cell = some (epoch, n) →
          (∃ m, versionCell c.root k = some (epoch, m)) ∨ epoch = draws.revisionEpoch)
        (fun h => h rfl) ?_ (fun n h => .inl ⟨n, h⟩)
      intro cell cell' step ih n hn
      obtain ⟨m, hm⟩ | hused := step.source hn
      · exact ih m hm
      · exact .inr (not_not.mp hused)
    exact (hsource n hcell).imp_left fun ⟨m, hm⟩ => ⟨k, m, hm⟩
  fresh ok e' he' := (ok.fresh e' he').1

/-- The owner tokens of the pending reservations. -/
def ownerNonce (setup : CoordinatorSetup) : Nonce (coordinatorSystem setup) Admissible Bytes where
  holds c token := ∃ key pending, c.root.issuedRecords.get key = some (.pending pending) ∧
    pending.ownerToken = token
  draw input := input.2.ownerToken
  source := by
    rintro c ⟨operation, draws⟩ _ ⟨key, pending, hget, rfl⟩
    obtain hbefore | ⟨_, _, _, hdraw⟩ := runOperation_pending hget
    · exact .inl ⟨key, pending, hbefore, rfl⟩
    · exact .inr hdraw
  fresh ok e' he' := (ok.fresh e' he').2.1

/-- The commit tokens of the stored preparations. -/
def commitNonce (setup : CoordinatorSetup) : Nonce (coordinatorSystem setup) Admissible Bytes where
  holds c token := ∃ key stored, c.root.preparedFeedbackTokens.get key = some stored ∧
    stored.preparation.commitToken = token
  draw input := input.2.commitToken
  source := by
    rintro c ⟨operation, draws⟩ _ ⟨key, stored, hget, rfl⟩
    have hstep := runOperation_tokenStep setup operation draws c
    obtain hbefore | hreturned := hstep.stored hget
    · exact .inl ⟨key, stored, hbefore, rfl⟩
    obtain ⟨key', token, hbefore, heq⟩ | hdraw := hstep.returned hreturned
    · exact .inl ⟨key', token, hbefore, by rw [heq]⟩
    · exact .inr hdraw
  fresh ok e' he' := (ok.fresh e' he').2.2

/-! ## Reply commits -/

theorem owner_drawn {es : List CoordinatorEvent} {c : Coordinator}
    (run : CoordinatorRun setup Admissible es c) {key : RecordKey}
    {pending : PendingIssuedResponseRecordV1}
    (hget : c.root.issuedRecords.get key = some (.pending pending)) :
    (ownerNonce setup).Drawn es pending.ownerToken := by
  refine (ownerNonce setup).drawn run ?_ ⟨key, pending, hget, rfl⟩
  rintro n ⟨key, pending, hget, _⟩
  simp [Coordinator.initial, emptyCoordinatorRoot] at hget

/-- Pending reservations of a reachable root have distinct owner tokens. -/
theorem owner_unique {es : List CoordinatorEvent} {c : Coordinator}
    (run : CoordinatorRun setup Admissible es c) {key key' : RecordKey}
    {pending pending' : PendingIssuedResponseRecordV1}
    (hget : c.root.issuedRecords.get key = some (.pending pending))
    (hget' : c.root.issuedRecords.get key' = some (.pending pending'))
    (htoken : pending.ownerToken = pending'.ownerToken) : key = key' := by
  induction run generalizing key key' pending pending' with
  | nil => simp [Coordinator.initial, emptyCoordinatorRoot] at hget
  | @snoc es c run input ok ih =>
    have hdrawn : ∀ {key pending}, c.root.issuedRecords.get key = some (.pending pending) →
        pending.ownerToken ≠ input.2.ownerToken := fun hbefore => (owner_drawn run hbefore).ne ok
    obtain hold | ⟨_, _, hop, hnew⟩ := runOperation_pending hget <;>
      obtain hold' | ⟨_, _, hop', hnew'⟩ := runOperation_pending hget'
    · exact ih hold hold' htoken
    · exact absurd (htoken.trans hnew') (hdrawn hold)
    · exact absurd (htoken.symm.trans hnew) (hdrawn hold')
    · rw [hop] at hop'
      cases key
      cases key'
      simp_all

/-- No reservation carries the owner token of a reply that was committed. -/
theorem CommitsReply.spent {es : List CoordinatorEvent} {e : CoordinatorEvent}
    {proposal : ReplyCommitProposalV1} (h : CommitsReply e proposal)
    (run : CoordinatorRun setup Admissible es e.before)
    (he : e = (coordinatorSystem setup).event e.before e.input) :
    ¬ (ownerNonce setup).holds e.after proposal.ownerToken := by
  obtain ⟨_, pending, _, _, admitted, _, hafter⟩ := (h.step he).of_commit
  rintro ⟨key, pending', hget, htoken⟩
  simp only [hafter, published_issuedRecords, committedRoot, withoutSessions, withCommittedReply,
    FrozenMap.get_insert] at hget
  split_ifs at hget with hkey
  · cases hget
  · exact hkey (owner_unique run hget admitted.reserved (htoken.trans admitted.owner.symm))

/-- The owner token of a reservation commits at most once. -/
theorem commitReply_once {es mid : List CoordinatorEvent} {c : Coordinator}
    {e₁ e₂ : CoordinatorEvent}
    {p₁ p₂ : ReplyCommitProposalV1} (run : CoordinatorRun setup Admissible es c)
    (between : Between es e₁ mid e₂) (first : CommitsReply e₁ p₁) (second : CommitsReply e₂ p₂) :
    p₁.ownerToken ≠ p₂.ownerToken := by
  obtain ⟨es₁, hrun, _, he₂⟩ := between.run run
  obtain ⟨hbefore, _, he₁, _⟩ := hrun.split
  obtain ⟨_, pending₁, _, _, admitted₁, _⟩ := (first.step he₁).of_commit
  obtain ⟨_, pending₂, _, _, admitted₂, _⟩ := (second.step he₂).of_commit
  intro htoken
  have hdrawn : (ownerNonce setup).Drawn (es₁ ++ [e₁]) p₁.ownerToken := by
    rw [← admitted₁.owner]
    exact (owner_drawn hbefore admitted₁.reserved).append _
  exact (ownerNonce setup).spent hrun hdrawn (first.spent hbefore he₁)
    ⟨_, pending₂, admitted₂.reserved, admitted₂.owner.trans htoken.symm⟩

theorem epoch_drawn {es : List CoordinatorEvent} {c : Coordinator}
    (run : CoordinatorRun setup Admissible es c) {k : ConversationStateKey} {epoch : Bytes} {n : ℕ}
    (h : versionCell c.root k = some (epoch, n)) : (epochNonce setup).Drawn es epoch := by
  refine (epochNonce setup).drawn run ?_ ⟨k, n, h⟩
  rintro epoch ⟨k, n, hcell⟩
  simp [versionCell, Coordinator.initial, emptyCoordinatorRoot] at hcell

/-- A commit on a conversation passes every version that was reached. -/
theorem CommitsOn.passed {e : CoordinatorEvent} {k : ConversationStateKey} (h : CommitsOn e k)
    (he : e = (coordinatorSystem setup).event e.before e.input) {epoch : Bytes} {n : ℕ}
    (reached : VersionCell.Reached epoch n (versionCell e.before.root k)) :
    VersionCell.Passed epoch n (versionCell e.after.root k) := by
  have hbump : ∀ (base : CoordinatorStateRootV1) (r r' : StateRevisionRecordV1),
      e.before.root.stateRevisions.get k = some r → base.stateRevisions.get k = some r' →
      r'.revisionEpoch = r.revisionEpoch → r'.revision = r.revision + 1 →
      VersionCell.Passed epoch n (versionCell (published base) k) := by
    intro base r r' hr hr' hepoch hrevision
    have hbefore : versionCell e.before.root k = some (r.revisionEpoch, r.revision) := by
      simp [versionCell, hr]
    have hbase : versionCell base k = some (r.revisionEpoch, r.revision + 1) := by
      simp [versionCell, hr', hepoch, hrevision]
    rw [hbefore] at reached
    have hpassed := reached.bump
    rw [← hbase] at hpassed
    exact (versionCell_published Set.univ base k).passed (Set.mem_univ _) hpassed
  obtain ⟨proposal, hcommit, rfl⟩ | ⟨prepared, hcommit, rfl⟩ := h
  · obtain ⟨revision, pending, audit, victims, admitted, _, hafter⟩ := (hcommit.step he).of_commit
    rw [hafter]
    exact hbump _ revision (revision.next setup.config e.input.2.commitReadings.monotonicNs)
      admitted.current (FrozenMap.get_insert_self ..) rfl rfl
  · obtain ⟨stored, record, revision, admitted, _, hafter⟩ := (hcommit.step he).of_commitFeedback
    rw [hafter]
    exact hbump _ revision (revision.next setup.config e.input.2.monotonicNs)
      admitted.current (FrozenMap.get_insert_self ..) rfl rfl

/-- A version that was reached by the end of an event stays reached. -/
theorem reached_later {es₁ es₂ : List CoordinatorEvent} {e : CoordinatorEvent} {c : Coordinator}
    (run : CoordinatorRun setup Admissible (es₁ ++ e :: es₂) c) {k : ConversationStateKey}
    {epoch : Bytes} {n : ℕ} (drawn : (epochNonce setup).Drawn (es₁ ++ [e]) epoch)
    (reached : VersionCell.Reached epoch n (versionCell e.after.root k)) :
    VersionCell.Reached epoch n (versionCell c.root k) := by
  refine run.persists (P := fun _ c =>
    VersionCell.Reached epoch n (versionCell c.root k)) reached ?_
  rintro es c input _ ⟨rest, rfl⟩ ok ih
  have hne := (drawn.append rest).ne ok
  exact runOperation_versionCell (fun x => x ≠ input.2.revisionEpoch) (fun h => h rfl)
    (fun step h => step.reached hne h) ih

theorem RootStep.reserved_revision {root root' : CoordinatorStateRootV1} {k : ConversationStateKey}
    {requestId requestHash : String} {replayEligible : Bool} {readings : ReserveReadings}
    (step : RootStep setup root (.reserve k requestId requestHash replayEligible readings) root') :
    root'.stateRevisions.get k = some (reservedRevision setup.config root k readings) := by
  cases step with
  | reserve new idle =>
    have hissued : (published (withReservation setup.config root k requestId requestHash
        replayEligible readings)).issuedRecords.get ⟨k, requestId⟩ = some _ :=
      FrozenMap.get_insert_self ..
    rw [published_stateRevisions_of_pinned (.issued hissued)]
    exact FrozenMap.get_insert_self ..

/-- The version in a new reservation is the one in the root that was published with it. -/
theorem runOperation_reservation {operation : CoordinatorOperation} {draws : OperationDraws}
    {c : Coordinator} {reservation : NewReplyReservationV1}
    (h : (runOperation setup operation draws c).1 = .ok (.reservation (.new reservation))) :
    versionCell (runOperation setup operation draws c).2.root reservation.stateKey =
      some (reservation.revisionEpoch, reservation.stateRevision) := by
  cases operation with
  | reserveReply k requestId requestHash replayEligible =>
    rcases hx : reserveReply setup k requestId requestHash replayEligible draws c with ⟨result, c'⟩
    have hrun : runOperation setup (.reserveReply k requestId requestHash replayEligible) draws c =
        (result.map .reservation, c') := by
      simp [runOperation, outcome, hx]
    rw [hrun] at h ⊢
    obtain ⟨⟨e, rfl⟩, _⟩ | ⟨existing, rfl, hexisting, _⟩ | ⟨root, rfl, _, step⟩ :=
      reserveReply_cases hx
    · cases h
    · simp only [Except.map, Except.ok.injEq, OperationResult.reservation.injEq] at h
      subst h
      exact absurd hexisting existingReservationResult_ne_new
    · simp only [Except.map, Except.ok.injEq, OperationResult.reservation.injEq,
        ReservationResultV1.new.injEq] at h
      subst h
      have hrevision := step.reserved_revision
      simp only [versionCell, newReservation, hrevision, Option.map_some]
  | abortReply | commitReply | prepareFeedback | commitFeedback | cleanup | lookupIssuedResponse |
      readTurnAdmissionSnapshot =>
    simp [runOperation, outcome_eq_ok] at h

/-- A snapshot reports the version of the root, or a fresh epoch when there is none. -/
theorem runOperation_snapshot {operation : CoordinatorOperation} {draws : OperationDraws}
    {c : Coordinator} {snapshot : TurnAdmissionSnapshotV1}
    (h : (runOperation setup operation draws c).1 = .ok (.snapshot snapshot)) :
    versionCell (runOperation setup operation draws c).2.root snapshot.stateKey =
        some (snapshot.revisionEpoch, snapshot.stateRevision) ∨
      versionCell (runOperation setup operation draws c).2.root snapshot.stateKey = none ∧
        snapshot.revisionEpoch = draws.revisionEpoch := by
  cases operation with
  | readTurnAdmissionSnapshot k par1 grh1 bsh1 =>
    simp only [runOperation, Except.ok.injEq, OperationResult.snapshot.injEq] at h ⊢
    subst h
    simp only [versionCell, readTurnAdmissionSnapshot]
    cases hget : c.root.stateRevisions.get k with
    | none => exact .inr ⟨rfl, rfl⟩
    | some revision => exact .inl rfl
  | reserveReply | abortReply | commitReply | prepareFeedback | commitFeedback | cleanup |
      lookupIssuedResponse =>
    simp [runOperation, outcome_eq_ok] at h

/-- Reading a version reaches it. -/
theorem ReadsVersion.reached {es : List CoordinatorEvent} {e : CoordinatorEvent}
    (run : CoordinatorRun setup Admissible (es ++ [e]) e.after)
    (he : e = (coordinatorSystem setup).event e.before e.input) {k : ConversationStateKey}
    {epoch : Bytes} {n : ℕ} (h : ReadsVersion e k epoch n) :
    VersionCell.Reached epoch n (versionCell e.after.root k) ∧
      (epochNonce setup).Drawn (es ++ [e]) epoch := by
  have hcell : versionCell e.after.root k = some (epoch, n) ∨
      versionCell e.after.root k = none ∧ epoch = e.input.2.revisionEpoch := by
    obtain ⟨reservation, hout, rfl, rfl, rfl⟩ | ⟨snapshot, hout, rfl, rfl, rfl⟩ := h
    · rw [he] at hout ⊢
      exact .inl (runOperation_reservation hout)
    · rw [he] at hout ⊢
      exact runOperation_snapshot hout
  obtain hcell | ⟨hcell, rfl⟩ := hcell
  · exact ⟨.of_eq hcell, epoch_drawn run hcell⟩
  · refine ⟨fun m hm => ?_, e, by simp, rfl⟩
    rw [hcell] at hm
    cases hm

/-- No commit succeeded on the conversation since the quoted version was read. -/
theorem commitReply_current {es mid : List CoordinatorEvent} {c : Coordinator}
    {e₁ e₂ : CoordinatorEvent} {proposal : ReplyCommitProposalV1}
    (run : CoordinatorRun setup Admissible es c) (between : Between es e₁ mid e₂)
    (reads : ReadsVersion e₁ proposal.stateKey proposal.expectedRevisionEpoch
      proposal.expectedStateRevision)
    (commits : CommitsReply e₂ proposal) : ∀ e ∈ mid, ¬ CommitsOn e proposal.stateKey := by
  obtain ⟨es₁, hrun, _, he₂⟩ := between.run run
  obtain ⟨_, _, he₁, hafter₁⟩ := hrun.split
  obtain ⟨reached, drawn⟩ := reads.reached hafter₁ he₁
  intro e hmem hcommits
  obtain ⟨mid₁, mid₂, rfl⟩ := List.append_of_mem hmem
  have hassoc : es₁ ++ e₁ :: (mid₁ ++ e :: mid₂) = (es₁ ++ e₁ :: mid₁) ++ e :: mid₂ := by simp
  rw [hassoc] at hrun
  obtain ⟨hbefore, _, he, _⟩ := hrun.split
  have hpassed := hcommits.passed he (reached_later hbefore drawn reached)
  have hdrawn : (epochNonce setup).Drawn ((es₁ ++ e₁ :: mid₁) ++ [e])
      proposal.expectedRevisionEpoch := by
    have happend := drawn.append (mid₁ ++ [e])
    simpa using happend
  have hstill : VersionCell.Passed proposal.expectedRevisionEpoch proposal.expectedStateRevision
      (versionCell e₂.before.root proposal.stateKey) := reached_later hrun hdrawn hpassed
  obtain ⟨revision, _, _, _, admitted, _, _⟩ := (commits.step he₂).of_commit
  apply hstill.ne
  simp [versionCell, admitted.current, admitted.epoch, admitted.version]

/-! ## Feedback commits -/

/-- A prepared token commits at most once. -/
theorem commitFeedback_once {es mid : List CoordinatorEvent} {c : Coordinator}
    {e₁ e₂ : CoordinatorEvent} {p₁ p₂ : PreparedFeedbackV1}
    (run : CoordinatorRun setup Admissible es c) (between : Between es e₁ mid e₂)
    (first : CommitsFeedback e₁ p₁) (second : CommitsFeedback e₂ p₂) :
    p₁.commitToken ≠ p₂.commitToken := by
  obtain ⟨es₁, hrun, _, he₂⟩ := between.run run
  obtain ⟨hbefore, _, he₁, _⟩ := hrun.split
  obtain ⟨stored₁, _, _, admitted₁, _, hafter⟩ := (first.step he₁).of_commitFeedback
  obtain ⟨stored₂, _, _, admitted₂, _, _⟩ := (second.step he₂).of_commitFeedback
  have history := TokenHistory.of_run (fun _ _ => id) hbefore
  have hinv := RootInvariant.of_run hbefore fun _ _ => id
  intro htoken
  have hgone : ¬ (commitNonce setup).holds e₁.after p₁.commitToken := by
    rintro ⟨key, stored, hget, hstored⟩
    rw [hafter, published_preparedFeedbackTokens, withCommittedFeedback,
      FrozenMap.get_withoutKeys_eq_some] at hget
    have hsame : stored.preparation = stored₁.preparation :=
      history.unique (history.stored hget.1) (history.stored admitted₁.token)
        (hstored.trans admitted₁.same.symm)
    have hkey : key = p₁.tokenKey := by
      rw [← hinv.tokenKey hget.1, hsame, hinv.tokenKey admitted₁.token]
    exact hget.2 (List.mem_singleton.mpr hkey)
  have hdrawn : (commitNonce setup).Drawn (es₁ ++ [e₁]) p₁.commitToken := by
    refine Nonce.Drawn.append ?_ _
    refine (commitNonce setup).drawn hbefore ?_ ⟨_, stored₁, admitted₁.token, admitted₁.same⟩
    rintro n ⟨key, stored, hget, _⟩
    simp [Coordinator.initial, emptyCoordinatorRoot] at hget
  exact (commitNonce setup).spent hrun hdrawn hgone
    ⟨_, stored₂, admitted₂.token, admitted₂.same.trans htoken.symm⟩

/-- A transition that is applied finds its effect as it was when it was checked, and leaves it
with the requested status. -/
structure AppliedAsChecked (prepared : PreparedFeedbackV1) (record : CompleteIssuedResponseRecordV1)
    (transition : PreparedEffectTransitionV1) (effect : IssuedEffectV1) : Prop where
  status : effect.status = transition.expectedStatus
  artifact : effect.artifactRef = transition.expectedArtifactRef
  applied : (applyTransition prepared.transitions effect).status = some transition.requestedStatus ∧
    (applyTransition prepared.transitions effect).artifactRef = transition.requestedArtifactRef

/-- Feedback is committed on the record and the effects it was checked against. -/
theorem commitFeedback_expected {es : List CoordinatorEvent} {c : Coordinator}
    {e : CoordinatorEvent}
    {prepared : PreparedFeedbackV1} (run : CoordinatorRun setup Admissible es c) (he : e ∈ es)
    (commits : CommitsFeedback e prepared) :
    ∃ record record',
      e.before.root.issuedRecords.get ⟨prepared.stateKey, prepared.requestId⟩ =
        some (.complete record) ∧
      e.after.root.issuedRecords.get ⟨prepared.stateKey, prepared.requestId⟩ =
        some (.complete record') ∧
      record.response.responseId = prepared.responseId ∧
      record'.effects = record.effects.map (applyTransition prepared.transitions) ∧
      ∀ transition ∈ prepared.transitions,
        (∃ effect ∈ record.effects, effect.effectKey = transition.effectKey) ∧
        ∀ effect ∈ record.effects, effect.effectKey = transition.effectKey →
          AppliedAsChecked prepared record transition effect := by
  obtain ⟨es₁, es₂, rfl⟩ := List.append_of_mem he
  obtain ⟨hbefore, ok, heq, _⟩ := run.split
  obtain ⟨stored, record, revision, admitted, _, hafter⟩ := (commits.step heq).of_commitFeedback
  have hinv := RootInvariant.of_run hbefore fun _ _ => id
  have hgenuine := (TokenHistory.of_run (fun _ _ => id) hbefore).genuine
    (ok.returned prepared commits.1)
  obtain ⟨hrecord, hid, feedback, hprepared⟩ := hinv.feedbackTarget admitted hgenuine
  obtain ⟨hnodup, hvalid⟩ := prepareEffectTransitions_ok hprepared
  refine ⟨record, recordWithFeedback record prepared.transitions (feedbackReceipt setup.config
    setup.sha256 prepared (record.recordRevision + 1) e.input.2.monotonicNs e.input.2.epochMs),
    hrecord, ?_, hid, rfl, ?_⟩
  · rw [hafter]
    exact FrozenMap.get_insert_self ..
  intro transition hmem
  have hfits := hvalid transition hmem
  refine ⟨?_, fun effect heffect hkey => ?_⟩
  · obtain ⟨effect, heffect, checked⟩ := hfits
    exact ⟨effect, heffect, checked.key⟩
  · obtain ⟨hstatus, hartifact, hnoop, _⟩ := hfits.checked (hinv.lockstep hrecord) heffect hkey
    refine ⟨hstatus, hartifact, ?_⟩
    unfold applyTransition
    rw [hkey, transitionFor_of_mem hnodup hmem]
    dsimp only
    split_ifs with h
    · exact hnoop.mp h
    · exact ⟨rfl, rfl⟩

/-- The guarantees of the two commits for every interleaving of operations. -/
theorem optimistic_concurrency {es : List CoordinatorEvent} {c : Coordinator}
    (run : CoordinatorRun setup Admissible es c) :
    (∀ e ∈ es, ∀ proposal, CommitsReply e proposal → ∃ pending,
      e.before.root.pendingRequestByState.get proposal.stateKey =
        some ⟨proposal.stateKey, proposal.requestId⟩ ∧
      e.before.root.issuedRecords.get ⟨proposal.stateKey, proposal.requestId⟩ =
        some (.pending pending) ∧ pending.ownerToken = proposal.ownerToken) ∧
    (∀ e₁ mid e₂, Between es e₁ mid e₂ → ∀ p₁ p₂, CommitsReply e₁ p₁ → CommitsReply e₂ p₂ →
      p₁.ownerToken ≠ p₂.ownerToken) ∧
    (∀ e₁ mid e₂, Between es e₁ mid e₂ → ∀ proposal,
      ReadsVersion e₁ proposal.stateKey proposal.expectedRevisionEpoch
        proposal.expectedStateRevision →
      CommitsReply e₂ proposal → ∀ e ∈ mid, ¬ CommitsOn e proposal.stateKey) ∧
    (∀ e₁ mid e₂, Between es e₁ mid e₂ → ∀ p₁ p₂, CommitsFeedback e₁ p₁ → CommitsFeedback e₂ p₂ →
      p₁.commitToken ≠ p₂.commitToken) ∧
    ∀ e ∈ es, ∀ prepared, CommitsFeedback e prepared → ∃ record record',
      e.before.root.issuedRecords.get ⟨prepared.stateKey, prepared.requestId⟩ =
        some (.complete record) ∧
      e.after.root.issuedRecords.get ⟨prepared.stateKey, prepared.requestId⟩ =
        some (.complete record') ∧
      record.response.responseId = prepared.responseId ∧
      record'.effects = record.effects.map (applyTransition prepared.transitions) ∧
      ∀ transition ∈ prepared.transitions,
        (∃ effect ∈ record.effects, effect.effectKey = transition.effectKey) ∧
        ∀ effect ∈ record.effects, effect.effectKey = transition.effectKey →
          AppliedAsChecked prepared record transition effect := by
  refine ⟨?_, fun _ _ _ between _ _ => commitReply_once run between,
    fun _ _ _ between _ => commitReply_current run between,
    fun _ _ _ between _ _ => commitFeedback_once run between,
    fun _ he _ => commitFeedback_expected run he⟩
  intro e he proposal commits
  obtain ⟨es₁, es₂, rfl⟩ := List.append_of_mem he
  obtain ⟨hbefore, _, heq, _⟩ := run.split
  obtain ⟨_, pending, _, _, admitted, _, _⟩ := (commits.step heq).of_commit
  have hinv := RootInvariant.of_run hbefore fun _ _ => id
  have hkey : pending.stateKey = proposal.stateKey := (hinv.keyed admitted.reserved).1
  exact ⟨pending, hinv.pending.get_of_value admitted.reserved (congrArg some hkey),
    admitted.reserved, admitted.owner⟩

def committedChecked : CheckedTrace sampleSetup Admissible sampleFeedbackInputs fun t =>
    decide (3 < t.1.length) && decide ((t.1[3]?).map (·.output) =
      some (.ok (.feedbackCommitted ⟨"fbr1:0", 1, false⟩))) :=
  ⟨by decide +kernel⟩

/-- In the sample run the feedback finds the effect without a status. -/
theorem optimistic_concurrency_sample :
    ∃ e ∈ (coordinatorTrace sampleSetup sampleFeedbackInputs).1,
      CommitsFeedback e (samplePrepared 3 3 "f" .executed) ∧ ∃ record,
        e.before.root.issuedRecords.get ⟨sampleKey, "r"⟩ = some (.complete record) ∧
        ∀ effect ∈ record.effects, effect.effectKey = "action:" ++ sampleActionId →
          effect.status = none := by
  obtain ⟨hrun, hcheck⟩ := committedChecked.run
  obtain ⟨hlen, hout⟩ := Bool.and_eq_true_iff.mp hcheck
  replace hlen := of_decide_eq_true hlen
  replace hout := of_decide_eq_true hout
  have hmem := List.getElem_mem hlen
  rw [List.getElem?_eq_getElem hlen, Option.map_some, Option.some_inj] at hout
  have hcommits : CommitsFeedback ((coordinatorTrace sampleSetup sampleFeedbackInputs).1[3])
      (samplePrepared 3 3 "f" .executed) := ⟨rfl, _, hout⟩
  obtain ⟨record, _, hrecord, _, _, _, happlied⟩ := (optimistic_concurrency
    hrun).2.2.2.2 _ hmem _ hcommits
  refine ⟨_, hmem, hcommits, record, hrecord, fun effect heffect hkey => ?_⟩
  exact ((happlied _ (List.mem_singleton_self _)).2 effect heffect hkey).status

end MarketSupport
