import MarketSupport.Properties.SessionCapacity
import MarketSupport.State.OtherConversations
import MarketSupport.State.ReservationFrame

/-!
# Aborted reservations

A reservation that is aborted leaves no trace but the root revision. Operations on other
conversations in between do what they do without it, unless a shared limit counts the
reservation.

## Main results

* `runOperation_beside` — an operation of another conversation keeps two runs side by side.
* `abort_undoes_reservation` — the abort leads to the root of the run without the reservation.
* `abort_keeps_refusal` — an operation that a shared limit refuses is not made up for.
-/

namespace MarketSupport

open Library

variable {setup : CoordinatorSetup}

/-! ## Settled roots -/

/-- A publication of the root would change nothing, and find nothing wrong. -/
structure Settled (setup : CoordinatorSetup) (c : Coordinator) : Prop where
  trimmed : Trimmed c.root
  orders : c.root.orders = rootOrders c.root
  valid : indexesValid c.root = true
  bounded : Bounded setup c

theorem Settled.initial : Settled setup .initial := ⟨.empty, by decide +kernel, rfl, Nat.zero_le _⟩

theorem publish_settled (operation : ReplyStateJournalOperationV1)
    (initiating : Option ConversationStateKey) (draws : PublicationDraws)
    (candidate : CoordinatorStateRootV1) (c : Coordinator) (h : Settled setup c) :
    Settled setup (publish setup operation initiating draws candidate c).2 := by
  have hbounded := publish_bounded operation initiating draws candidate c h.bounded
  revert hbounded
  unfold publish
  split
  · exact fun _ => h
  · next root hprep =>
    obtain ⟨rfl, hvalid⟩ := prepareRootForPublication_ok hprep
    split_ifs
    · exact fun _ => h
    · cases draws.hook
      · exact fun hbounded => ⟨.published _, rfl, hvalid, hbounded⟩
      · exact fun hbounded => ⟨h.trimmed, h.orders, h.valid, hbounded⟩
      · exact fun _ => h

theorem runOperation_settled {c : Coordinator} (operation : CoordinatorOperation)
    (draws : OperationDraws) (h : Settled setup c) :
    Settled setup (runOperation setup operation draws c).2 :=
  runOperation_publishes publish_settled draws operation h

theorem Settled.of_run {adm : List CoordinatorEvent → CoordinatorEvent → Prop}
    {es : List CoordinatorEvent} {c : Coordinator} (run : CoordinatorRun setup adm es c) :
    Settled setup c := by
  refine run.invariant (P := fun _ c => Settled setup c) .initial ?_
  exact fun _ _ input _ _ h => runOperation_settled input.1 input.2 h

/-- Publication does not see the revisions that nothing pins. -/
theorem published_congr_revisions {candidate : CoordinatorStateRootV1}
    {revisions : FrozenMap ConversationStateKey StateRevisionRecordV1}
    (h : ∀ {k}, Pinned candidate k → revisions.get k = candidate.stateRevisions.get k) :
    published { candidate with stateRevisions := revisions } = published candidate := by
  have hrev : (withoutUnpinnedRevisions (enforceInactiveRecordCapacities
      { candidate with stateRevisions := revisions })).stateRevisions =
      (withoutUnpinnedRevisions (enforceInactiveRecordCapacities candidate)).stateRevisions := by
    refine FrozenMap.ext_get fun k => ?_
    rw [get_withoutUnpinnedRevisions, get_withoutUnpinnedRevisions]
    by_cases hk : k ∈ pinnedStateKeys (enforceInactiveRecordCapacities candidate)
    · have hpin : Pinned candidate k :=
        (mem_pinnedStateKeys.mp hk).mono { ledger := fun hrow => ⟨_, trimLedger_sub hrow⟩ }
      rw [if_pos hk]
      exact (if_pos hk).trans (h hpin)
    · rw [if_neg hk]
      exact if_neg hk
  have hpruned : withoutUnpinnedRevisions (enforceInactiveRecordCapacities
      { candidate with stateRevisions := revisions }) =
      withoutUnpinnedRevisions (enforceInactiveRecordCapacities candidate) :=
    CoordinatorStateRootV1.mk.injEq .. ▸
      ⟨rfl, rfl, rfl, rfl, rfl, hrev, rfl, rfl, rfl, rfl, rfl, rfl, rfl⟩
  unfold published
  rw [hpruned]

/-- A settled root is published as it is, at the root revision of the candidate. -/
theorem Settled.published_eq {c : Coordinator} (h : Settled setup c) (n : ℕ) (orders : RootOrders) :
    published { c.root with rootRevision := n, orders := orders } =
      { c.root with rootRevision := n } := by
  have hledger :
      (published { c.root with rootRevision := n, orders := orders }).actionLedgerRecords =
      c.root.actionLedgerRecords := trimLedger_eq _ h.trimmed.ledger
  have hrev : (published { c.root with rootRevision := n, orders := orders }).stateRevisions =
      c.root.stateRevisions := by
    refine FrozenMap.ext_get fun k => ?_
    have hpin : k ∈ pinnedStateKeys (published { c.root with
        rootRevision := n, orders := orders }) ↔ Pinned c.root k := by
      rw [← mem_pinnedStateKeys, pinnedStateKeys, hledger]
      rfl
    rw [get_published_stateRevisions]
    split_ifs with hk
    · rfl
    · refine (Option.eq_none_iff_forall_ne_some.mpr fun revision hrevision => ?_).symm
      exact hk (hpin.mpr (h.trimmed.revisions hrevision))
  have horders : (published { c.root with rootRevision := n, orders := orders }).orders =
      c.root.orders := by
    have hroot : (published { c.root with rootRevision := n, orders := orders }).orders =
        rootOrders (published { c.root with rootRevision := n, orders := orders }) := rfl
    rw [hroot, h.orders]
    simp only [rootOrders, hrev, hledger]
    rfl
  exact CoordinatorStateRootV1.mk.injEq .. ▸
    ⟨rfl, rfl, rfl, rfl, rfl, hrev, rfl, rfl, rfl, rfl, rfl, hledger, horders⟩

/-! ## Publications side by side -/

variable {hold : Option Hold} {n : ℕ} {o : RootOrders} {root candidate : CoordinatorStateRootV1}

theorem all_entries_iff {K V : Type} [LinearOrder K] {m : FrozenMap K V} {p : K × V → Bool} :
    m.entries.all p = true ↔ ∀ k v, m.get k = some v → p (k, v) = true := by
  simp only [List.all_eq_true, FrozenMap.get_eq_some_iff, Prod.forall]

/-- The record of the reservation is no complete record. -/
theorem get_complete_withHold (vacant : ∀ h ∈ hold, Vacant h root) {key : RecordKey}
    {record : CompleteIssuedResponseRecordV1} :
    (withHold hold n o root).issuedRecords.get key = some (.complete record) ↔
      root.issuedRecords.get key = some (.complete record) := by
  cases hold with
  | none => rfl
  | some h =>
    simp only [withHold, Option.map_some, FrozenMap.withEntry_some, FrozenMap.get_insert]
    split_ifs with hkey
    · rw [hkey, (vacant h rfl).absent]
      simp
    · rfl

theorem pendingIndexValid_withHold (vacant : ∀ h ∈ hold, Vacant h root) :
    pendingIndexValid (withHold hold n o root) = pendingIndexValid root := by
  cases hold with
  | none => rfl
  | some h =>
    obtain ⟨habsent, hidle⟩ := vacant h rfl
    rw [Bool.eq_iff_iff, pendingIndexValid, pendingIndexValid, all_entries_iff, all_entries_iff]
    simp only [withHold, Option.map_some, FrozenMap.withEntry_some, FrozenMap.get_insert]
    constructor
    · intro hvalid k key hget
      have hk : k ≠ h.pending.stateKey := by
        rintro rfl
        rw [hidle] at hget
        cases hget
      have hmatch := hvalid k key (by rw [if_neg hk, hget])
      split_ifs at hmatch with hkey
      · exact absurd (of_decide_eq_true hmatch).symm hk
      · exact hmatch
    · intro hvalid k key hget
      split_ifs at hget with hk
      · obtain rfl := Option.some.inj hget
        simp [hk]
      · have hmatch := hvalid k key hget
        split_ifs with hkey
        · rw [hkey, habsent] at hmatch
          cases hmatch
        · exact hmatch

/-- What an index asks of the complete record at a key. -/
def completeAt (root : CoordinatorStateRootV1) (key : RecordKey)
    (p : CompleteIssuedResponseRecordV1 → Bool) : Bool :=
  match root.issuedRecords.get key with
  | some (.complete record) => p record
  | _ => false

/-- An index that asks for complete records does not see the reservation. -/
theorem indexesValid_withHold (vacant : ∀ h ∈ hold, Vacant h root) :
    indexesValid (withHold hold n o root) = indexesValid root := by
  have hmatch : ∀ (key : RecordKey) (p : CompleteIssuedResponseRecordV1 → Bool),
      completeAt (withHold hold n o root) key p = completeAt root key p := by
    intro key p
    unfold completeAt
    have hcomplete : ∀ record, (withHold hold n o root).issuedRecords.get key =
        some (.complete record) ↔ root.issuedRecords.get key = some (.complete record) :=
      fun _ => get_complete_withHold vacant
    rcases hget : root.issuedRecords.get key with _ | _ | record
    · rcases hget' : (withHold hold n o root).issuedRecords.get key with _ | _ | record
      · rfl
      · rfl
      · simp [(hcomplete record).mp hget'] at hget
    · rcases hget' : (withHold hold n o root).issuedRecords.get key with _ | _ | record
      · rfl
      · rfl
      · simp [(hcomplete record).mp hget'] at hget
    · rw [(hcomplete record).mpr hget]
  have hresponse : responseIndexValid (withHold hold n o root) = responseIndexValid root := by
    unfold responseIndexValid
    exact List.all_congr rfl fun e => hmatch e.2 fun record => record.response.responseId = e.1
  have haction : actionIndexValid (withHold hold n o root) = actionIndexValid root := by
    unfold actionIndexValid
    refine List.all_congr rfl fun e => ?_
    rw [withHold_responseIndex]
    rcases root.responseIndex.get e.2.2.1 with _ | key
    · rfl
    · exact congrArg (decide (key.stateKey = e.2.1) && ·) (hmatch key _)
  rw [indexesValid, pendingIndexValid_withHold vacant, hresponse, haction, indexesValid]

/-- The roots are the same but for the reservation. -/
def SameBut (hold : Option Hold) (a b : Coordinator) : Prop :=
  ∃ n o, a.root = withHold hold n o b.root

section

variable {a b : Coordinator} (operation : ReplyStateJournalOperationV1)
  (initiating : Option ConversationStateKey) (draws : PublicationDraws)

/-- The revisions of both candidates find room, or those of none. -/
def SameRoom (setup : CoordinatorSetup) (hold : Option Hold) (candidate : CoordinatorStateRootV1) :
    Prop :=
  ∀ n o, (published (withHold hold n o candidate)).stateRevisions.size ≤
      setup.config.stateRevisionCapacity ↔
    (published candidate).stateRevisions.size ≤ setup.config.stateRevisionCapacity

/-- Both publications go the same way: they move to the candidates, or leave the roots. -/
theorem publish_withHold (hn : a.root.rootRevision = n)
    (vacant : ∀ h ∈ hold, Vacant h candidate)
    (next : candidate.rootRevision = b.root.rootRevision + 1)
    (room : SameRoom setup hold candidate) :
    (publish setup operation initiating draws (withHold hold (n + 1) o candidate) a).1 =
        (publish setup operation initiating draws candidate b).1 ∧
      (SameBut hold (publish setup operation initiating draws
        (withHold hold (n + 1) o candidate) a).2
          (publish setup operation initiating draws candidate b).2 ∨
        (publish setup operation initiating draws
            (withHold hold (n + 1) o candidate) a).2.root = a.root ∧
          (publish setup operation initiating draws candidate b).2.root = b.root) := by
  have hpublished : published (withHold hold (n + 1) o candidate) = withHold hold (n + 1)
      (published (withHold hold (n + 1) o candidate)).orders (published candidate) :=
    published_withHold
  have hvalid : indexesValid (published (withHold hold (n + 1) o candidate)) =
      indexesValid (published candidate) := by
    rw [hpublished]
    exact indexesValid_withHold fun h hh => ⟨(vacant h hh).absent, (vacant h hh).idle⟩
  have hok : ((published (withHold hold (n + 1) o candidate)).stateRevisions.size ≤
        setup.config.stateRevisionCapacity ∧
      indexesValid (published (withHold hold (n + 1) o candidate)) = true) ↔
      ((published candidate).stateRevisions.size ≤ setup.config.stateRevisionCapacity ∧
      indexesValid (published candidate) = true) := by
    rw [hvalid, room]
  unfold publish
  rw [prepareRootForPublication_eq, prepareRootForPublication_eq]
  by_cases haccepted : (published candidate).stateRevisions.size ≤
      setup.config.stateRevisionCapacity ∧ indexesValid (published candidate) = true
  · rw [if_pos haccepted, if_pos (hok.mpr haccepted)]
    have hnextA : (published (withHold hold (n + 1) o candidate)).rootRevision =
        a.root.rootRevision + 1 := by rw [hn]; rfl
    have hnextB : (published candidate).rootRevision = b.root.rootRevision + 1 := next
    simp only [hnextA, hnextB, ne_eq, not_true_eq_false, if_false]
    cases draws.hook with
    | passes => exact ⟨rfl, .inl ⟨_, _, hpublished⟩⟩
    | runtimeError => exact ⟨rfl, .inr ⟨rfl, rfl⟩⟩
    | otherError => exact ⟨rfl, .inr ⟨rfl, rfl⟩⟩
  · rw [if_neg haccepted, if_neg fun h => haccepted (hok.mp h)]
    exact ⟨rfl, .inr ⟨rfl, rfl⟩⟩

end

/-- Only a reservation brings a revision. -/
theorem RootStep.revisions_sub {root root' : CoordinatorStateRootV1} {change : Change}
    (step : RootStep setup root change root')
    (noReserve : ∀ k requestId requestHash replayEligible readings,
      change ≠ .reserve k requestId requestHash replayEligible readings)
    {k : ConversationStateKey} (h : root'.stateRevisions.contains k = true) :
    root.stateRevisions.contains k = true := by
  rw [FrozenMap.contains_iff] at h ⊢
  obtain ⟨revision, hget⟩ := h
  cases step with
  | reserve => exact absurd rfl (noReserve _ _ _ _ _)
  | cleanup | evict | abort | prepare | drop => exact ⟨_, (published_stateRevisions_sub hget).1⟩
  | commit admitted =>
    have hinsert := (published_stateRevisions_sub hget).1
    simp only [committedRoot, withoutSessions, withCommittedReply, FrozenMap.get_insert] at hinsert
    split_ifs at hinsert with hk
    · exact ⟨_, hk ▸ admitted.current⟩
    · exact ⟨_, hinsert⟩
  | commitFeedback admitted =>
    have hinsert := (published_stateRevisions_sub hget).1
    simp only [withCommittedFeedback, FrozenMap.get_insert] at hinsert
    split_ifs at hinsert with hk
    · exact ⟨_, hk ▸ admitted.current⟩
    · exact ⟨_, hinsert⟩

/-! ## Two coordinators side by side -/

/-- The reservation would fit the root, at the revision that its conversation has there. -/
structure Unclaimed (hold : Hold) (root : CoordinatorStateRootV1) : Prop
    extends Vacant hold root where
  revised : Pinned root hold.pending.stateKey →
    root.stateRevisions.get hold.pending.stateKey = some hold.revision

theorem Unclaimed.of_leavesAlone {held : Hold} {root root' : CoordinatorStateRootV1}
    (h : Unclaimed held root) (leaves : LeavesAlone held.pending.stateKey root root') :
    Unclaimed held root' where
  absent := by
    refine Option.eq_none_iff_forall_ne_some.mpr fun record hrecord => ?_
    obtain ⟨before, hbefore⟩ := leaves.entries.issued hrecord
    exact Option.some_ne_none _ (hbefore.symm.trans h.absent)
  idle := by
    refine Option.eq_none_iff_forall_ne_some.mpr fun key hkey => ?_
    exact Option.some_ne_none _ ((leaves.pending hkey).symm.trans h.idle)
  revised hpin := (leaves.revision hpin).trans (h.revised (hpin.mono leaves.entries))

/-- `a` has the reservation, if there is one, and `b` has not. -/
structure Side (setup : CoordinatorSetup) (hold : Option Hold) (n : ℕ) (o : RootOrders)
    (a b : Coordinator) : Prop where
  root : a.root = withHold hold n o b.root
  bounded : Bounded setup a
  keyed : StateKeyed b.root
  unclaimed : ∀ h ∈ hold, Unclaimed h b.root

section

variable {a b : Coordinator} (side : Side setup hold n o a b)

include side

theorem Side.same : SameBut hold a b := ⟨n, o, side.root⟩

/-- Changes of other conversations keep the coordinators side by side, though the reservation may
have left. -/
theorem Side.follows {a' b' : Coordinator} {allowed : List Change} {hold' : Option Hold}
    (hf : Follows setup allowed b.root b'.root)
    (other : ∀ h ∈ hold, ∀ change ∈ allowed, change.stateKey? ≠ some h.pending.stateKey)
    (bounded : Bounded setup a') (hsub : ∀ h ∈ hold', h ∈ hold) (same : SameBut hold' a' b') :
    ∃ n' o', Side setup hold' n' o' a' b' := by
  obtain ⟨n', o', hroot⟩ := same
  have hkeyed : StateKeyed b'.root :=
    hf.invariant (P := StateKeyed) side.keyed fun _ _ _ _ h step => step.stateKeyed h
  refine ⟨n', o', hroot, bounded, hkeyed, fun h hh => ?_⟩
  have hleaves : StateKeyed b'.root ∧ LeavesAlone h.pending.stateKey b.root b'.root := by
    refine hf.invariant (P := fun r => StateKeyed r ∧ LeavesAlone h.pending.stateKey b.root r)
      ⟨side.keyed, .refl _ _⟩ ?_
    rintro r r' change hmem ⟨hkeyed, hleaves⟩ step
    have hother := other h (hsub h hh) change hmem
    exact ⟨step.stateKeyed hkeyed, hleaves.trans (step.leavesAlone hkeyed hother)⟩
  exact (side.unclaimed h (hsub h hh)).of_leavesAlone hleaves.2

/-- A candidate that brings no revision finds room wherever the root did. -/
theorem Side.sameRoom (hsub : ∀ k, (published candidate).stateRevisions.contains k = true →
    b.root.stateRevisions.contains k = true) : SameRoom setup hold candidate := by
  intro n' o'
  have hwith : (published (withHold hold n' o' candidate)).stateRevisions.size ≤
      a.root.stateRevisions.size := by
    rw [published_withHold, side.root]
    exact FrozenMap.size_withEntry_le hsub
  have hwithout : (published candidate).stateRevisions.size ≤
      (published (withHold hold n' o' candidate)).stateRevisions.size := by
    rw [published_withHold]
    exact FrozenMap.size_le_size_withEntry
  exact iff_of_true (hwith.trans side.bounded) (hwithout.trans (hwith.trans side.bounded))

variable (operation : ReplyStateJournalOperationV1) (initiating : Option ConversationStateKey)
  (draws : PublicationDraws) {change : Change}
  (step : RootStep setup b.root change (published candidate))
  (other : ∀ h ∈ hold, change.stateKey? ≠ some h.pending.stateKey)

include step other

/-- A change of another conversation is published in both, when it finds the same room. -/
theorem Side.publication_of_room (room : SameRoom setup hold candidate) :
    (publish setup operation initiating draws (withHold hold (n + 1) o candidate) a).1 =
        (publish setup operation initiating draws candidate b).1 ∧
      SameBut hold (publish setup operation initiating draws
        (withHold hold (n + 1) o candidate) a).2
        (publish setup operation initiating draws candidate b).2 := by
  have hvacant : ∀ h ∈ hold, Vacant h candidate := by
    intro h hh
    have hleaves := step.leavesAlone side.keyed (other h hh)
    have hvacant := ((side.unclaimed h hh).of_leavesAlone hleaves).toVacant
    exact ⟨hvacant.absent, hvacant.idle⟩
  have hn : a.root.rootRevision = n := by rw [side.root, withHold_rootRevision]
  obtain ⟨hresult, hmoved | ⟨hstaysA, hstaysB⟩⟩ :=
    publish_withHold operation initiating draws (o := o) hn hvacant step.rootRevision room
  · exact ⟨hresult, hmoved⟩
  · exact ⟨hresult, n, o, by rw [hstaysA, hstaysB, side.root]⟩

/-- A change that brings no revision finds room wherever the root did. -/
theorem Side.publication (noReserve : ∀ k requestId requestHash replayEligible readings,
      change ≠ .reserve k requestId requestHash replayEligible readings) :
    (publish setup operation initiating draws (withHold hold (n + 1) o candidate) a).1 =
        (publish setup operation initiating draws candidate b).1 ∧
      SameBut hold
        (publish setup operation initiating draws
          (withHold hold (n + 1) o candidate) a).2
        (publish setup operation initiating draws candidate b).2 := by
  refine side.publication_of_room operation initiating draws step other (side.sameRoom ?_)
  exact fun k hk => step.revisions_sub noReserve hk

end

/-! ## Operations side by side -/

section

variable {a b : Coordinator} (side : Side setup hold n o a b)

include side

theorem Side.abortReply {k : ConversationStateKey} (apart : Apart hold k) (requestId : String)
    (ownerToken : Bytes) (draws : OperationDraws) :
    SameBut hold (abortReply setup k requestId ownerToken draws a).2
      (abortReply setup k requestId ownerToken draws b).2 := by
  unfold MarketSupport.abortReply
  rw [side.root, abortReplyCandidate_withHold apart]
  rcases hcandidate : abortReplyCandidate b.root k requestId ownerToken with _ | candidate
  · exact side.same
  · have step : RootStep setup b.root (.abort k requestId ownerToken) (published candidate) :=
      abortReplyCandidate_ok hcandidate
    have hother : ∀ h ∈ hold, (Change.abort k requestId ownerToken).stateKey? ≠
        some h.pending.stateKey := fun h hh he => apart h hh (Option.some.inj he)
    exact (side.publication .replyAbort (some k) draws.publication step hother (by simp)).2

theorem Side.prepareFeedbackLocked {k : ConversationStateKey} (apart : Apart hold k)
    (feedback : ActionFeedbackRequestV2) (draws : OperationDraws) :
    SameBut hold (prepareFeedbackLocked setup k feedback draws a).2
      (prepareFeedbackLocked setup k feedback draws b).2 := by
  unfold MarketSupport.prepareFeedbackLocked
  rw [side.root, resolveFeedbackRecord_withHold apart]
  rcases hrecord : resolveFeedbackRecord b.root k feedback with _ | record
  · exact side.same
  · simp only [prepareFeedbackCandidate_withHold apart]
    rcases hcandidate : prepareFeedbackCandidate setup.config setup.sha256 b.root k feedback record
        draws.prepareReadings with _ | ⟨_ | candidate, preparation⟩
    · exact side.same
    · exact side.same
    · obtain ⟨revision, transitions, admitted, room, _, rfl⟩ :=
        prepareFeedbackCandidate_ok hrecord hcandidate
      have step : RootStep setup b.root (.prepare k feedback draws.prepareReadings)
          (published (withPreparedToken b.root (preparedFeedback k feedback
            (feedbackHash setup.sha256 feedback) record revision transitions draws.prepareReadings)
            draws.prepareReadings.createdAtMonotonicNs)) := .prepare admitted room
      have hother : ∀ h ∈ hold, (Change.prepare k feedback draws.prepareReadings).stateKey? ≠
          some h.pending.stateKey := fun h hh he => apart h hh (Option.some.inj he)
      obtain ⟨hresult, hsame⟩ :=
        side.publication .feedbackPrepare (some k) draws.publication step hother (by simp)
      simp only [Except.map, Prod.map, Option.map]
      split <;> split <;> simp_all

theorem Side.commitFeedback {prepared : PreparedFeedbackV1} (apart : Apart hold prepared.stateKey)
    (draws : OperationDraws) :
    SameBut hold (commitFeedback setup prepared draws a).2
      (commitFeedback setup prepared draws b).2 := by
  unfold MarketSupport.commitFeedback
  rw [side.root, commitFeedbackCandidate_withHold apart]
  rcases hcandidate : commitFeedbackCandidate setup.config setup.sha256 b.root prepared
      draws.monotonicNs draws.epochMs with e | ⟨candidate, result⟩
  · simp only [Except.map, dropPreparedToken]
    split_ifs
    · have hother : ∀ h ∈ hold, (Change.drop prepared).stateKey? ≠ some h.pending.stateKey :=
        fun h hh he => apart h hh (Option.some.inj he)
      have hroot : dropPreparedTokenCandidate a.root prepared =
          withHold hold (n + 1) o (dropPreparedTokenCandidate b.root prepared) := by
        rw [side.root]
        rfl
      obtain ⟨hresult, hsame⟩ := side.publication .feedbackCommit (some prepared.stateKey)
        draws.publication (.drop prepared) hother (by simp)
      rw [hroot]
      split <;> split <;> simp_all
    · exact side.same
  · have step : RootStep setup b.root (.commitFeedback prepared draws.monotonicNs draws.epochMs)
        (published candidate) := commitFeedbackCandidate_ok hcandidate
    have hother : ∀ h ∈ hold, (Change.commitFeedback prepared draws.monotonicNs
        draws.epochMs).stateKey? ≠ some h.pending.stateKey :=
      fun h hh he => apart h hh (Option.some.inj he)
    obtain ⟨hresult, hsame⟩ := side.publication .feedbackCommit (some prepared.stateKey)
      draws.publication step hother (by simp)
    simp only [Except.map, Prod.map]
    split <;> split <;> simp_all

end

/-! ### Commits -/

/-- The eviction for a commit goes the same way, unless the reservation keeps its victim. -/
theorem enforceSessionCapacity_withHold {capacity : ℕ}
    (bound : (sessionsOf root).length ≤ capacity + 1)
    (spared : (sessionsOf root).length ≤ capacity ∨ ∀ h ∈ hold,
      nextVictim root.conversationTurns root.clarificationRecords ≠ some h.pending.stateKey) :
    enforceSessionCapacity (withHold hold n o root) capacity =
      (enforceSessionCapacity root capacity).map (withHold hold n o) := by
  by_cases hwithin : (sessionsOf root).length ≤ capacity
  · have hwithin' : (sessionsOf (withHold hold n o root)).length ≤ capacity := hwithin
    rw [enforceSessionCapacity_within hwithin, enforceSessionCapacity_within hwithin',
      withoutUnpinnedRevisions_withHold]
    rfl
  · have hlength : (sessionsOf root).length = capacity + 1 := by omega
    have hpos : 0 < (sessionKeys root.conversationTurns root.clarificationRecords).length :=
      hlength ▸ Nat.succ_pos capacity
    obtain ⟨v, hv⟩ := exists_nextVictim hpos
    have hlength' : (sessionsOf (withHold hold n o root)).length = capacity + 1 := hlength
    have hv' : nextVictim (withHold hold n o root).conversationTurns
        (withHold hold n o root).clarificationRecords = some v := hv
    have apart : Apart hold v := by
      rintro h hh rfl
      exact spared.resolve_left hwithin h hh hv
    have hpending : (withHold hold n o root).pendingRequestByState.contains v =
        root.pendingRequestByState.contains v := by
      rw [FrozenMap.contains, get_pendingRequestByState_withHold apart, FrozenMap.contains]
    rw [enforceSessionCapacity_over hlength hv, enforceSessionCapacity_over hlength' hv', hpending]
    split_ifs
    · rfl
    · have hsessions : withoutSessions (withHold hold n o root) [v] =
          withHold hold n o (withoutSessions root [v]) := rfl
      rw [hsessions, withoutUnpinnedRevisions_withHold]
      rfl

/-- A commit leaves the conversation of `k` in place, as far as sessions make room. -/
def SparesSession (setup : CoordinatorSetup) (root : CoordinatorStateRootV1)
    (proposal : ReplyCommitProposalV1) (epoch : ℤ) (k : ConversationStateKey) : Prop :=
  (sessionKeys (repliedTurns setup root proposal epoch)
      (committedClarifications setup.sha256 root proposal epoch)).length ≤
      setup.config.conversationMaxSessions ∨
    nextVictim (repliedTurns setup root proposal epoch)
      (committedClarifications setup.sha256 root proposal epoch) ≠ some k

section

variable {proposal : ReplyCommitProposalV1} (apart : Apart hold proposal.stateKey)

include apart

theorem commitGuards_withHold : commitGuards (withHold hold n o root) proposal =
    commitGuards root proposal := by
  unfold commitGuards
  rw [get_issuedRecords_withHold apart, get_stateRevisions_withHold apart]

theorem commitReplyCandidate_withHold (readings : CommitReadings)
    (stores : StoreBounds setup.config root)
    (spared : ∀ h ∈ hold, SparesSession setup root proposal readings.epochMs h.pending.stateKey) :
    commitReplyCandidate setup.config setup.sha256 (withHold hold n o root) proposal readings =
      (commitReplyCandidate setup.config setup.sha256 root proposal readings).map
        (Prod.map (withHold hold (n + 1) o) id) := by
  unfold commitReplyCandidate
  rw [commitGuards_withHold apart]
  rcases commitGuards root proposal with _ | revision
  · rfl
  · by_cases hindexed : root.responseIndex.contains (issueResponseIds readings.responseUuid
        readings.actionUuid proposal.response).responseId = true
    · simp only [withHold_responseIndex, hindexed, if_true]
      rfl
    simp only [withHold_responseIndex, hindexed, Bool.false_eq_true, if_false]
    split_ifs
    · rfl
    · rfl
    · rcases buildAuditRecord proposal.audit proposal.stateKey _ _ _ _ _ with _ | audit
      · rfl
      · have hbound :
          (sessionsOf (repliedRoot setup root proposal readings revision audit)).length ≤
            setup.config.conversationMaxSessions + 1 := by
          rw [sessionsOf_repliedRoot]
          by_cases hknown : proposal.stateKey ∈ sessionsOf root
          · rw [(perm_sessionKeys_replied_of_mem hknown).length_eq]
            exact stores.sessions.trans (Nat.le_succ _)
          · rw [(perm_sessionKeys_replied_of_notMem hknown).length_eq, List.length_cons]
            exact Nat.succ_le_succ stores.sessions
        have hspared : (sessionsOf
            (repliedRoot setup root proposal readings revision audit)).length ≤
            setup.config.conversationMaxSessions ∨ ∀ h ∈ hold,
            nextVictim (repliedRoot setup root proposal readings revision audit).conversationTurns
              (repliedRoot setup root proposal readings revision audit).clarificationRecords ≠
              some h.pending.stateKey := by
          by_cases hwithin : (sessionsOf (repliedRoot setup root proposal readings revision
              audit)).length ≤ setup.config.conversationMaxSessions
          · exact .inl hwithin
          · exact .inr fun h hh => (spared h hh).resolve_left hwithin
        have hsessions := enforceSessionCapacity_withHold (n := n + 1) (o := o) hbound hspared
        simp only [repliedRoot, issuedResponse] at hsessions
        simp only [withCommittedReply_withHold apart, hsessions]
        rcases enforceSessionCapacity _ _ with _ | candidate <;> rfl

theorem Side.commitReply {a b : Coordinator} (side : Side setup hold n o a b)
    (stores : StoreBounds setup.config b.root) (draws : OperationDraws)
    (spared : ∀ h ∈ hold, SparesSession setup a.root proposal draws.epochMs h.pending.stateKey) :
    SameBut hold (commitReply setup proposal draws a).2 (commitReply setup proposal draws b).2 := by
  have hspared : ∀ h ∈ hold,
      SparesSession setup b.root proposal draws.epochMs h.pending.stateKey := by
    intro h hh
    have hsame := spared h hh
    rwa [side.root] at hsame
  unfold MarketSupport.commitReply
  rw [side.root, commitReplyCandidate_withHold apart draws.commitReadings stores hspared]
  rcases hcandidate : commitReplyCandidate setup.config setup.sha256 b.root proposal
      draws.commitReadings with _ | ⟨candidate, response⟩
  · exact side.same
  · have hother : ∀ h ∈ hold, (Change.commit proposal draws.commitReadings).stateKey? ≠
        some h.pending.stateKey := fun h hh he => apart h hh (Option.some.inj he)
    obtain ⟨hresult, hsame⟩ :=
      side.publication .replyCommit (some proposal.stateKey) draws.publication
      (commitReplyCandidate_ok hcandidate).2 hother (by simp)
    simp only [Except.map, Prod.map]
    split <;> split <;> simp_all

end

/-! ### Cleanups -/

/-- Publication sees of a candidate only what is published of it. -/
theorem publish_congr {candidate' : CoordinatorStateRootV1}
    (operation : ReplyStateJournalOperationV1) (initiating : Option ConversationStateKey)
    (draws : PublicationDraws) (c : Coordinator) (h : published candidate = published candidate') :
    publish setup operation initiating draws candidate c =
      publish setup operation initiating draws candidate' c := by
  unfold publish
  rw [prepareRootForPublication_eq, prepareRootForPublication_eq, h]

/-- A cleanup at or after its expiry removes the reservation, and the revision with it if nothing
else pins it. -/
theorem published_withoutExpired_withHold {config : CoordinatorConfigV1} {held : Hold}
    {mono epoch : ℤ} (unclaimed : Unclaimed held root) (indexed : pendingIndexValid root = true)
    (expired : held.pending.expiresAtMonotonicNs ≤ mono) :
    published (withoutExpired config (withHold (some held) n o root) mono epoch) =
      published (withHold none (n + 1) o (withoutExpired config root mono epoch)) := by
  have hissued : (withoutExpired config (withHold (some held) n o root) mono epoch).issuedRecords =
      (withoutExpired config root mono epoch).issuedRecords := by
    refine FrozenMap.ext_get fun key => ?_
    rw [get_withoutExpired_issued, get_withoutExpired_issued]
    simp only [withHold, Option.map_some, FrozenMap.withEntry_some, FrozenMap.get_insert]
    split_ifs with hkey
    · rw [hkey, unclaimed.absent]
      exact if_pos expired
    · rfl
  have hpending :
      (withoutExpired config (withHold (some held) n o root) mono epoch).pendingRequestByState =
        (withoutExpired config root mono epoch).pendingRequestByState := by
    refine FrozenMap.ext_get fun k => Option.ext fun key => ?_
    rw [get_withoutExpired_pending, get_withoutExpired_pending]
    by_cases hk : k = held.pending.stateKey
    · rw [hk, unclaimed.idle]
      refine iff_of_false ?_ (by simp)
      rintro ⟨hkey, hall⟩
      obtain rfl : held.key = key :=
        Option.some.inj ((FrozenMap.get_insert_self ..).symm.trans hkey)
      have halive : mono < held.pending.expiresAtMonotonicNs :=
        hall (.pending held.pending) (FrozenMap.get_insert_self ..)
      exact expired.not_gt halive
    · have apart : Apart (some held) k := by
        rintro h ⟨⟩
        exact hk
      rw [get_pendingRequestByState_withHold apart]
      refine and_congr_right fun hget => ?_
      have hkey : key ≠ held.key := by
        rintro rfl
        have hmatch := all_entries_iff.mp indexed k held.key hget
        rw [unclaimed.absent] at hmatch
        cases hmatch
      have hsame : (withHold (some held) n o root).issuedRecords.get key =
          root.issuedRecords.get key := FrozenMap.get_insert_of_ne _ _ hkey
      rw [hsame]
  have hcompleted : expiredCompleteRecords (withHold (some held) n o root) mono =
      expiredCompleteRecords root mono := by
    rw [expiredCompleteRecords, expiredCompleteRecords, completeRecords_withHold]
    rintro h ⟨⟩
    exact unclaimed.toVacant
  have hroot : withoutExpired config (withHold (some held) n o root) mono epoch =
      { withHold none (n + 1) o (withoutExpired config root mono epoch) with
        stateRevisions := root.stateRevisions.insert held.pending.stateKey held.revision } := by
    refine CoordinatorStateRootV1.mk.injEq .. ▸
      ⟨rfl, hissued, hpending, rfl, rfl, rfl, ?_, ?_, rfl, rfl, rfl, rfl, rfl⟩
    · rw [hcompleted]
      rfl
    · rw [hcompleted]
      rfl
  rw [hroot]
  refine published_congr_revisions fun {k} hpin => ?_
  have hpinned : Pinned root k := by
    obtain hpin | ⟨h, ⟨⟩, _⟩ := pinned_withHold.mp hpin
    exact hpin.mono (entriesWithin_withoutExpired config root mono epoch k)
  rw [FrozenMap.get_insert]
  split_ifs with hk
  · subst hk
    exact (unclaimed.revised hpinned).symm
  · rfl

/-- A cleanup after the expiry has a candidate, which is that of the root without the
reservation. -/
theorem cleanupCandidate_withHold_expired (config : CoordinatorConfigV1) {held : Hold} {mono : ℤ}
    (epoch : ℤ) (unclaimed : Unclaimed held root) (indexed : pendingIndexValid root = true)
    (expired : held.pending.expiresAtMonotonicNs ≤ mono) :
    ∃ removed candidate,
      cleanupCandidate config (withHold (some held) n o root) mono epoch =
        (some candidate, removed) ∧
      published candidate =
        published (withHold none (n + 1) o (withoutExpired config root mono epoch)) := by
  have hmem : held.key ∈ (expiredKeys config (withHold (some held) n o root) mono epoch).records :=
    (mem_keysWhere (p := fun record : IssuedResponseRecordV1 =>
      decide (record.expiresAtMonotonicNs ≤ mono))).mpr
      ⟨.pending held.pending, FrozenMap.get_insert_self .., decide_eq_true expired⟩
  have hpos := List.length_pos_of_mem hmem
  refine ⟨_, _, if_neg ?_, ?_⟩
  · simp only [ExpiredKeys.removed]
    omega
  · rw [published_withoutUnpinnedRevisions]
    exact published_withoutExpired_withHold unclaimed indexed expired

section

variable {a b : Coordinator} {mono epoch : ℤ} {draws : PublicationDraws}

/-- What remains of the reservation when both cleanups go the same way. -/
def CleanupsAgree (setup : CoordinatorSetup) (hold : Option Hold) (mono epoch : ℤ)
    (draws : PublicationDraws) (a b : Coordinator) : Prop :=
  ∃ hold', (hold' = hold ∨ hold' = none) ∧
    SameBut hold' (cleanupLocked setup mono epoch draws a).2
      (cleanupLocked setup mono epoch draws b).2 ∧
    (cleanupLocked setup mono epoch draws a).1.isOk =
      (cleanupLocked setup mono epoch draws b).1.isOk

theorem Side.cleanupLocked_of_alive (side : Side setup hold n o a b)
    (alive : ∀ h ∈ hold, mono < h.pending.expiresAtMonotonicNs) :
    CleanupsAgree setup hold mono epoch draws a b := by
  have hother : ∀ h ∈ hold, (Change.cleanup mono epoch).stateKey? ≠ some h.pending.stateKey :=
    fun _ _ => by simp [Change.stateKey?]
  refine ⟨hold, .inl rfl, ?_⟩
  unfold MarketSupport.cleanupLocked
  rw [side.root, cleanupCandidate_withHold (fun h hh => (side.unclaimed h hh).toVacant) alive]
  rcases hcandidate : cleanupCandidate setup.config b.root mono epoch with ⟨_ | candidate, removed⟩
  · exact ⟨side.same, rfl⟩
  · obtain ⟨hresult, hsame⟩ :=
      side.publication .cleanup none draws (cleanupCandidate_some hcandidate) hother (by simp)
    simp only [Prod.map, Option.map]
    split <;> split <;> simp_all [Except.isOk, Except.toBool]

section Expired

variable {held : Hold} (side : Side setup (some held) n o a b) (settled : Settled setup b)

include side settled

/-- With the reservation expired, the cleanup publishes what is left without it. -/
theorem Side.cleanupCandidate_expired (expired : held.pending.expiresAtMonotonicNs ≤ mono) :
    ∃ removed candidate, cleanupCandidate setup.config a.root mono epoch =
        (some candidate, removed) ∧
      publish setup .cleanup none draws candidate a = publish setup .cleanup none draws
        (withHold none (n + 1) o (withoutExpired setup.config b.root mono epoch)) a := by
  have hindexed : pendingIndexValid b.root = true := by
    have hvalid := settled.valid
    simp only [indexesValid, Bool.and_eq_true] at hvalid
    exact hvalid.1.1
  obtain ⟨removed, candidate, hcandidate, hpublished⟩ := cleanupCandidate_withHold_expired
    (n := n) (o := o) setup.config epoch (side.unclaimed held rfl) hindexed expired
  rw [← side.root] at hcandidate
  exact ⟨removed, candidate, hcandidate, publish_congr .cleanup none draws a hpublished⟩

/-- Nothing else expired: without the reservation nothing is published. -/
theorem Side.publish_withoutExpired_of_none {removed : ℕ}
    (hnone : cleanupCandidate setup.config b.root mono epoch = (none, removed))
    (passes : draws.hook = .passes) : ∃ journal, publish setup .cleanup none draws
        (withHold none (n + 1) o (withoutExpired setup.config b.root mono epoch)) a =
      (.ok (), ⟨{ b.root with rootRevision := n + 1 }, some journal⟩) := by
  have hn : a.root.rootRevision = n := by rw [side.root, withHold_rootRevision]
  have hroot : withHold none (n + 1) o (withoutExpired setup.config b.root mono epoch) =
      { b.root with rootRevision := n + 1, orders := o } := by
    unfold cleanupCandidate at hnone
    simp only at hnone
    split_ifs at hnone with hnothing
    · rw [withoutExpired_of_none hnothing.1 hnothing.2]
      rfl
    · cases hnone
  have hpub := settled.published_eq (n + 1) o
  rw [hroot, ← hpub]
  refine publish_passes ?_ ?_ (congrArg (· + 1) hn.symm) passes
  · rw [hpub]
    exact settled.bounded
  · rw [hpub]
    exact settled.valid

theorem Side.cleanupLocked_of_expired (expired : held.pending.expiresAtMonotonicNs ≤ mono)
    (passes : draws.hook = .passes) :
    CleanupsAgree setup (some held) mono epoch draws a b := by
  obtain ⟨removed, candidate, hcandidate, hA⟩ : ∃ removed candidate,
      cleanupCandidate setup.config a.root mono epoch = (some candidate, removed) ∧
        publish setup .cleanup none draws candidate a = publish setup .cleanup none draws
          (withHold none (n + 1) o (withoutExpired setup.config b.root mono epoch)) a :=
    side.cleanupCandidate_expired settled expired
  have hn : a.root.rootRevision = n := by rw [side.root, withHold_rootRevision]
  unfold CleanupsAgree MarketSupport.cleanupLocked
  rw [hcandidate]
  simp only [hA]
  rcases hb : cleanupCandidate setup.config b.root mono epoch with ⟨_ | candidateB, removedB⟩
  · obtain ⟨journal, hpasses⟩ := side.publish_withoutExpired_of_none settled hb passes
    rw [hpasses]
    exact ⟨none, .inr rfl, ⟨n + 1, b.root.orders, rfl⟩, rfl⟩
  · have hB : publish setup .cleanup none draws candidateB b = publish setup .cleanup none draws
        (withoutExpired setup.config b.root mono epoch) b := by
      unfold cleanupCandidate at hb
      simp only at hb
      split_ifs at hb with hnone
      · cases hb
      obtain ⟨hcandidateB, _⟩ := Prod.mk.inj hb
      refine publish_congr .cleanup none draws b ?_
      rw [← Option.some.inj hcandidateB, published_withoutUnpinnedRevisions]
    have hroom : SameRoom setup none (withoutExpired setup.config b.root mono epoch) := by
      intro n' o'
      rw [published_withHold]
      rfl
    obtain ⟨hresult, hmoved⟩ := publish_withHold .cleanup none draws (o := o) hn
      (fun _ => by simp) (by rfl) hroom
    simp only [hB]
    rcases hmoved with hsame | ⟨hstaysA, hstaysB⟩
    · refine ⟨none, .inr rfl, ?_⟩
      split <;> split <;> simp_all [Except.isOk, Except.toBool]
    · have hsame : SameBut (some held) (publish setup .cleanup none draws
          (withHold none (n + 1) o (withoutExpired setup.config b.root mono epoch)) a).2
          (publish setup .cleanup none draws
            (withoutExpired setup.config b.root mono epoch) b).2 :=
        ⟨n, o, by rw [hstaysA, hstaysB, side.root]⟩
      refine ⟨some held, .inl rfl, ?_⟩
      split <;> split <;> simp_all [Except.isOk, Except.toBool]

end Expired

end

/-- Both cleanups go the same way. One that finds the reservation expired removes it, unless the
publication fails in both. -/
theorem Side.cleanupLocked {a b : Coordinator} (side : Side setup hold n o a b)
    (settled : Settled setup b) {mono epoch : ℤ} {draws : PublicationDraws}
    (passes : ∀ h ∈ hold, h.pending.expiresAtMonotonicNs ≤ mono → draws.hook = .passes) :
    CleanupsAgree setup hold mono epoch draws a b := by
  by_cases alive : ∀ h ∈ hold, mono < h.pending.expiresAtMonotonicNs
  · exact side.cleanupLocked_of_alive alive
  · push Not at alive
    obtain ⟨held, rfl, expired⟩ := alive
    exact side.cleanupLocked_of_expired settled expired (passes held rfl expired)

/-- Both cleanups leave the coordinators side by side. -/
theorem Side.afterCleanup {a b : Coordinator} (side : Side setup hold n o a b)
    (settled : Settled setup b) {draws : OperationDraws}
    (passes : ∀ h ∈ hold, h.pending.expiresAtMonotonicNs ≤ draws.cleanupMonotonicNs →
      draws.cleanupPublication.hook = .passes) :
    ∃ hold', (hold' = hold ∨ hold' = none) ∧
      (∃ n' o', Side setup hold' n' o' (afterCleanup setup draws a) (afterCleanup setup draws b)) ∧
      (MarketSupport.cleanupLocked setup draws.cleanupMonotonicNs draws.cleanupEpochMs
        draws.cleanupPublication a).1.isOk =
      (MarketSupport.cleanupLocked setup draws.cleanupMonotonicNs draws.cleanupEpochMs
        draws.cleanupPublication b).1.isOk := by
  obtain ⟨hold', hhold, hsame, hresult⟩ := side.cleanupLocked settled passes
  refine ⟨hold', hhold, side.follows (cleanupLocked_follows rfl) ?_ ?_ ?_ hsame, hresult⟩
  · simp [Change.stateKey?]
  · exact cleanupLocked_publishes publish_bounded draws.cleanupMonotonicNs draws.cleanupEpochMs
      draws.cleanupPublication side.bounded
  · rintro h hh
    obtain rfl | rfl := hhold
    · exact hh
    · cases hh

/-! ### Reservations -/

/-- Without a reservation between them, the coordinators see the same room. -/
theorem sameRoom_none (candidate : CoordinatorStateRootV1) : SameRoom setup none candidate := by
  intro n o
  rw [published_withHold]
  rfl

/-- A conversation that gets a reservation has room for its revision next to that of `k`. -/
def RevisionRoomBeside (config : CoordinatorConfigV1) (root : CoordinatorStateRootV1)
    (k : ConversationStateKey) (requestId : String) (other : ConversationStateKey) : Prop :=
  root.stateRevisions.contains other = true ∨
    root.stateRevisions.size < config.stateRevisionCapacity ∨
    k ∈ pinnedStateKeys (withoutReservation root k requestId)

section

variable {a b : Coordinator} (side : Side setup hold n o a b)

include side

theorem Side.publishEviction (draws : OperationDraws)
    (room : ∀ h ∈ hold, a.root.issuedRecords.size < setup.config.issuedResponseCapacity) :
    (publishEviction setup draws a).1 = (publishEviction setup draws b).1 ∧
      SameBut hold (publishEviction setup draws a).2 (publishEviction setup draws b).2 := by
  unfold MarketSupport.publishEviction
  cases hold with
  | none =>
    have hcandidate : issuedCapacityEvictionCandidate a.root setup.config.issuedResponseCapacity =
        (issuedCapacityEvictionCandidate b.root setup.config.issuedResponseCapacity).map
          (Option.map (withHold none (n + 1) o)) := by
      rw [side.root]
      unfold issuedCapacityEvictionCandidate
      have hvictim : issuedEvictionVictim (withHold none n o b.root) =
          issuedEvictionVictim b.root := rfl
      have hsize : (withHold none n o b.root).issuedRecords = b.root.issuedRecords := rfl
      simp only [hvictim, hsize]
      split_ifs
      · rfl
      · rcases issuedEvictionVictim b.root with _ | ⟨key, record⟩ <;> rfl
    rw [hcandidate]
    rcases heviction : issuedCapacityEvictionCandidate b.root
        setup.config.issuedResponseCapacity with _ | _ | eviction
    · exact ⟨rfl, side.same⟩
    · exact ⟨rfl, side.same⟩
    · exact side.publication .cleanup none draws.evictionPublication
        (issuedCapacityEvictionCandidate_ok heviction) (by simp) (by simp)
  | some held =>
    have hroomA := room held rfl
    have hroomB : b.root.issuedRecords.size < setup.config.issuedResponseCapacity := by
      rw [side.root] at hroomA
      exact FrozenMap.size_le_size_withEntry.trans_lt hroomA
    unfold issuedCapacityEvictionCandidate
    rw [if_pos hroomA, if_pos hroomB]
    exact ⟨rfl, side.same⟩

/-- The revision of the new reservation finds room in both, or in none. -/
theorem Side.sameRoom_reserve {held : Hold} (settled : Settled setup b) (hheld : held ∈ hold)
    {k : ConversationStateKey} (apart : Apart hold k) {requestId requestHash : String}
    {replayEligible : Bool} {readings : ReserveReadings}
    (room : RevisionRoomBeside setup.config a.root held.pending.stateKey held.pending.requestId k) :
    SameRoom setup hold
      (withReservation setup.config b.root k requestId requestHash replayEligible readings) := by
  obtain rfl : hold = some held := hheld
  set candidate :=
    withReservation setup.config b.root k requestId requestHash replayEligible readings
    with hcandidate
  have unclaimed := side.unclaimed held rfl
  rcases room with hknown | hroom | hpinned
  · refine side.sameRoom fun l hl => ?_
    rw [side.root, FrozenMap.contains, get_stateRevisions_withHold apart] at hknown
    obtain ⟨revision, hget⟩ := FrozenMap.contains_iff.mp hl
    have hinsert := (published_stateRevisions_sub hget).1
    simp only [hcandidate, withReservation, FrozenMap.get_insert] at hinsert
    split_ifs at hinsert with hlk
    · rw [hlk]
      exact hknown
    · exact FrozenMap.contains_iff.mpr ⟨revision, hinsert⟩
  · intro n' o'
    have hrevisions : (withHold (some held) n' o' candidate).stateRevisions =
        a.root.stateRevisions.insert k (reservedRevision setup.config b.root k readings) := by
      rw [side.root]
      exact (FrozenMap.insert_withEntry _ (apart.entry _)).symm
    have hwith : (published (withHold (some held) n' o' candidate)).stateRevisions.size ≤
        setup.config.stateRevisionCapacity := by
      refine (size_stateRevisions_published _).trans ?_
      rw [hrevisions]
      exact (FrozenMap.size_insert_le _ _ _).trans hroom
    have hwithout : (published candidate).stateRevisions.size ≤
        (published (withHold (some held) n' o' candidate)).stateRevisions.size := by
      rw [published_withHold]
      exact FrozenMap.size_le_size_withEntry
    exact iff_of_true hwith (hwithout.trans hwith)
  · -- Something else pins the revision of the reservation: it is there in both.
    have hissued : (withoutReservation a.root held.pending.stateKey
        held.pending.requestId).issuedRecords = b.root.issuedRecords := by
      rw [side.root]
      exact FrozenMap.withoutKeys_insert_of_none unclaimed.absent
    have hpin : Pinned b.root held.pending.stateKey := by
      rw [← mem_pinnedStateKeys]
      rw [pinnedStateKeys, hissued, side.root] at hpinned
      exact hpinned
    have hpublished : Pinned (published candidate) held.pending.stateKey := by
      have hledger : (published candidate).actionLedgerRecords = b.root.actionLedgerRecords :=
        published_ledger_eq settled.trimmed.ledger
      refine hpin.mono {
        issued := fun {ident v} hv => ⟨v, ?_⟩
        ledger := fun hv => ⟨_, hledger ▸ hv⟩ }
      have hne : held.pending.stateKey ≠ k := fun h => apart held rfl h.symm
      exact (FrozenMap.get_insert_of_ne _ _ (RecordKey.ne_of_stateKey hne _ _)).trans hv
    have hrevision : (published candidate).stateRevisions.get held.pending.stateKey =
        some held.revision := by
      have hne : held.pending.stateKey ≠ k := fun h => apart held rfl h.symm
      rw [published_stateRevisions_of_pinned hpublished, hcandidate, withReservation,
        FrozenMap.get_insert_of_ne _ _ hne]
      exact unclaimed.revised hpin
    intro n' o'
    have hsame : (published (withHold (some held) n' o' candidate)).stateRevisions =
        (published candidate).stateRevisions := by
      rw [published_withHold]
      exact FrozenMap.insert_of_get hrevision
    rw [hsame]

theorem Side.publishReservation (settled : Settled setup b) {k : ConversationStateKey}
    (apart : Apart hold k) {requestId requestHash : String} {replayEligible : Bool}
    {draws : OperationDraws} (room : ∀ h ∈ hold,
      RevisionRoomBeside setup.config a.root h.pending.stateKey h.pending.requestId k) :
    SameBut hold (publishReservation setup k requestId requestHash replayEligible draws a).2
      (publishReservation setup k requestId requestHash replayEligible draws b).2 := by
  unfold MarketSupport.publishReservation
  rw [side.root, reserveReplyCandidate_withHold apart]
  rcases hcandidate : reserveReplyCandidate setup.config b.root k requestId requestHash
      replayEligible draws.reserveReadings with _ | ⟨_ | candidate, reservation⟩
  · exact side.same
  · exact side.same
  · have step := (reserveReplyCandidate_ok hcandidate).2
    have hother : ∀ h ∈ hold, (Change.reserve k requestId requestHash replayEligible
        draws.reserveReadings).stateKey? ≠ some h.pending.stateKey :=
      fun h hh he => apart h hh (Option.some.inj he)
    have hroot : candidate = withReservation setup.config b.root k requestId requestHash
        replayEligible draws.reserveReadings := by
      unfold reserveReplyCandidate at hcandidate
      split at hcandidate
      · cases hcandidate
      · cases hcandidate
      · cases hcandidate
        rfl
    have hroom : SameRoom setup hold candidate := by
      rw [hroot]
      rcases hold with _ | held
      · exact sameRoom_none _
      · exact side.sameRoom_reserve settled rfl apart (room held rfl)
    obtain ⟨hresult, hsame⟩ := side.publication_of_room .replyReserve (some k) draws.publication
      step hother hroom
    simp only [Except.map, Prod.map, Option.map]
    split <;> split <;> simp_all

end

/-! ### Operations with a cleanup -/

section

variable {a b : Coordinator} (side : Side setup hold n o a b) (settled : Settled setup b)
  {draws : OperationDraws} (passes : ∀ h ∈ hold,
    h.pending.expiresAtMonotonicNs ≤ draws.cleanupMonotonicNs →
      draws.cleanupPublication.hook = .passes)

include side settled passes

theorem Side.reserveReply {k : ConversationStateKey} (apart : Apart hold k)
    {requestId requestHash : String} {replayEligible : Bool} (room : ∀ h ∈ hold,
      (MarketSupport.afterCleanup setup draws a).root.pendingRequestByState.contains
        h.pending.stateKey = true →
      existingReservationResult (MarketSupport.afterCleanup setup draws a).root k requestId
        requestHash replayEligible = .ok none →
      (MarketSupport.afterCleanup setup draws a).root.issuedRecords.size <
          setup.config.issuedResponseCapacity ∧
        RevisionRoomBeside setup.config (MarketSupport.afterCleanup setup draws a).root
          h.pending.stateKey h.pending.requestId k) :
    ∃ hold', (hold' = hold ∨ hold' = none) ∧
      SameBut hold' (reserveReply setup k requestId requestHash replayEligible draws a).2
        (reserveReply setup k requestId requestHash replayEligible draws b).2 := by
  obtain ⟨hold', hhold, ⟨n', o', side'⟩, hresult⟩ := side.afterCleanup settled passes
  have settled' : Settled setup (MarketSupport.afterCleanup setup draws b) :=
    cleanupLocked_publishes publish_settled draws.cleanupMonotonicNs draws.cleanupEpochMs
      draws.cleanupPublication settled
  have hsub : ∀ h ∈ hold', h ∈ hold := by
    rintro h hh
    obtain rfl | rfl := hhold
    · exact hh
    · cases hh
  have apart' : Apart hold' k := fun h hh => apart h (hsub h hh)
  refine ⟨hold', hhold, ?_⟩
  unfold MarketSupport.afterCleanup at side' room settled'
  unfold MarketSupport.reserveReply
  rcases hA : MarketSupport.cleanupLocked setup draws.cleanupMonotonicNs draws.cleanupEpochMs
    draws.cleanupPublication a with ⟨_ | removedA, a₁⟩ <;>
  rcases hB : MarketSupport.cleanupLocked setup draws.cleanupMonotonicNs draws.cleanupEpochMs
    draws.cleanupPublication b with ⟨_ | removedB, b₁⟩ <;>
  simp only [hA, hB] at side' room settled' hresult ⊢
  · exact side'.same
  · cases hresult
  · cases hresult
  have hexisting : existingReservationResult a₁.root k requestId requestHash replayEligible =
      existingReservationResult b₁.root k requestId requestHash replayEligible := by
    rw [side'.root, existingReservationResult_withHold apart']
  rw [hexisting] at room ⊢
  rcases hx : existingReservationResult b₁.root k requestId requestHash replayEligible
    with _ | _ | _
  · exact side'.same
  · -- A new request.
    have hroom : ∀ h ∈ hold', a₁.root.issuedRecords.size < setup.config.issuedResponseCapacity ∧
        RevisionRoomBeside setup.config a₁.root h.pending.stateKey h.pending.requestId k := by
      intro h hh
      refine room h (hsub h hh) ?_ hx
      rw [side'.root, Option.mem_def.mp hh]
      exact FrozenMap.contains_iff.mpr ⟨_, FrozenMap.get_insert_self ..⟩
    obtain ⟨heviction, hsame⟩ := side'.publishEviction draws fun h hh => (hroom h hh).1
    have hbounded := publishEviction_publishes publish_bounded draws side'.bounded
    have hsettled := publishEviction_publishes publish_settled draws settled'
    have hstays : ∀ h ∈ hold', (MarketSupport.publishEviction setup draws a₁).2 = a₁ := by
      intro h hh
      unfold MarketSupport.publishEviction issuedCapacityEvictionCandidate
      rw [if_pos (hroom h hh).1]
    have hside : ∃ n'' o'',
        Side setup hold' n'' o'' (MarketSupport.publishEviction setup draws a₁).2
        (MarketSupport.publishEviction setup draws b₁).2 :=
      side'.follows (publishEviction_follows rfl) (by simp [Change.stateKey?]) hbounded
        (fun _ => id) hsame
    obtain ⟨n'', o'', hside⟩ := hside
    rcases hevA : MarketSupport.publishEviction setup draws a₁ with ⟨_ | _, a₂⟩ <;>
    rcases hevB : MarketSupport.publishEviction setup draws b₁ with ⟨_ | _, b₂⟩ <;>
    simp only [hevA, hevB] at heviction hside hsettled hstays ⊢
    · exact hside.same
    · cases heviction
    · cases heviction
    · refine hside.publishReservation hsettled apart' fun h hh => ?_
      rw [hstays h hh]
      exact (hroom h hh).2
  · exact side'.same

theorem Side.prepareFeedback {k : ConversationStateKey} (apart : Apart hold k)
    (feedback : ActionFeedbackRequestV2) :
    ∃ hold', (hold' = hold ∨ hold' = none) ∧
      SameBut hold' (prepareFeedback setup k feedback draws a).2
        (prepareFeedback setup k feedback draws b).2 := by
  obtain ⟨hold', hhold, ⟨n', o', side'⟩, hresult⟩ := side.afterCleanup settled passes
  have apart' : Apart hold' k := by
    obtain rfl | rfl := hhold
    · exact apart
    · rintro h ⟨⟩
  refine ⟨hold', hhold, ?_⟩
  unfold MarketSupport.afterCleanup at side'
  unfold MarketSupport.prepareFeedback
  rcases hA : MarketSupport.cleanupLocked setup draws.cleanupMonotonicNs draws.cleanupEpochMs
    draws.cleanupPublication a with ⟨_ | removedA, a₁⟩ <;>
  rcases hB : MarketSupport.cleanupLocked setup draws.cleanupMonotonicNs draws.cleanupEpochMs
    draws.cleanupPublication b with ⟨_ | removedB, b₁⟩ <;>
  simp only [hA, hB] at side' hresult ⊢
  · exact side'.same
  · cases hresult
  · cases hresult
  · exact side'.prepareFeedbackLocked apart' feedback draws

end

/-! ## Runs side by side -/

/-- When the operation finds the reservation expired, its cleanup meets no fault. -/
def CleanupPasses (k : ConversationStateKey) (requestId : String) (c : Coordinator)
    (draws : OperationDraws) : Prop :=
  ∀ pending, c.root.issuedRecords.get ⟨k, requestId⟩ = some (.pending pending) →
    pending.expiresAtMonotonicNs ≤ draws.cleanupMonotonicNs →
      draws.cleanupPublication.hook = .passes

/-- The operation meets no shared limit because of the reservation of `k`: a new reservation finds
room next to it, and a commit takes its room from another session. -/
def Undisturbed (setup : CoordinatorSetup) (k : ConversationStateKey) (requestId : String)
    (c : Coordinator) (input : CoordinatorInput) : Prop :=
  match input.1 with
  | .reserveReply other request hash eligible =>
    CleanupPasses k requestId c input.2 ∧
      ((afterCleanup setup input.2 c).root.pendingRequestByState.contains k = true →
        existingReservationResult (afterCleanup setup input.2 c).root other request hash eligible =
          .ok none →
        (afterCleanup setup input.2 c).root.issuedRecords.size <
            setup.config.issuedResponseCapacity ∧
          RevisionRoomBeside setup.config (afterCleanup setup input.2 c).root k requestId other)
  | .commitReply proposal =>
    c.root.pendingRequestByState.contains k = true →
      SparesSession setup c.root proposal input.2.epochMs k
  | .prepareFeedback _ _ | .cleanup => CleanupPasses k requestId c input.2
  | .abortReply _ _ _ | .commitFeedback _ | .lookupIssuedResponse _ _
  | .readTurnAdmissionSnapshot _ _ _ _ => True

/-- A run with the reservation, which may have expired, next to one without it. -/
structure Beside (setup : CoordinatorSetup) (held : Hold) (a b : Coordinator) : Prop where
  side : ∃ hold n o, (hold = some held ∨ hold = none) ∧ Side setup hold n o a b
  unclaimed : Unclaimed held b.root
  settled : Settled setup a
  settled' : Settled setup b
  stores : StoreBounds setup.config b.root

/-- An operation of another conversation keeps two runs side by side. -/
theorem runOperation_beside {held : Hold} {a b : Coordinator} (beside : Beside setup held a b)
    {input : CoordinatorInput} (other : input.1.stateKey? ≠ some held.pending.stateKey)
    (undisturbed : Undisturbed setup held.pending.stateKey held.pending.requestId a input) :
    Beside setup held (runOperation setup input.1 input.2 a).2
      (runOperation setup input.1 input.2 b).2 := by
  obtain ⟨hold, n, o, hhold, side⟩ := beside.side
  obtain ⟨operation, draws⟩ := input
  have hheld : ∀ h ∈ hold, h = held := by
    rintro h hh
    obtain rfl | rfl := hhold
    · exact (Option.some.inj hh).symm
    · cases hh
  have hpending : ∀ h ∈ hold, a.root.issuedRecords.get h.key = some (.pending h.pending) ∧
      a.root.pendingRequestByState.contains h.pending.stateKey = true := by
    intro h hh
    rw [side.root, Option.mem_def.mp hh]
    exact ⟨FrozenMap.get_insert_self ..,
      FrozenMap.contains_iff.mpr ⟨_, FrozenMap.get_insert_self ..⟩⟩
  have hpasses : CleanupPasses held.pending.stateKey held.pending.requestId a draws → ∀ h ∈ hold,
      h.pending.expiresAtMonotonicNs ≤ draws.cleanupMonotonicNs →
        draws.cleanupPublication.hook = .passes := by
    intro hcleanup h hh hexpired
    rw [hheld h hh] at hexpired
    exact hcleanup held.pending (hheld h hh ▸ (hpending h hh).1) hexpired
  have happart : ∀ {k}, k ≠ held.pending.stateKey → Apart hold k := by
    rintro k hk h hh rfl
    exact hk (congrArg (·.pending.stateKey) (hheld h hh))
  have hsame : ∃ hold', (hold' = hold ∨ hold' = none) ∧ SameBut hold'
      (runOperation setup operation draws a).2 (runOperation setup operation draws b).2 := by
    cases operation with
    | reserveReply k requestId requestHash replayEligible =>
      obtain ⟨hcleanup, hroom⟩ := undisturbed
      refine side.reserveReply beside.settled' (hpasses hcleanup)
        (happart fun he => other (congrArg some he)) fun h hh => ?_
      rw [hheld h hh]
      exact hroom
    | abortReply k requestId ownerToken =>
      exact ⟨hold, .inl rfl,
        side.abortReply (happart fun he => other (congrArg some he)) requestId ownerToken draws⟩
    | commitReply proposal =>
      refine ⟨hold, .inl rfl,
        side.commitReply (happart fun he => other (congrArg some he)) beside.stores
        draws fun h hh => ?_⟩
      rw [hheld h hh]
      exact undisturbed (hheld h hh ▸ (hpending h hh).2)
    | prepareFeedback k feedback =>
      exact side.prepareFeedback beside.settled' (hpasses undisturbed)
        (happart fun he => other (congrArg some he)) feedback
    | commitFeedback prepared =>
      exact ⟨hold, .inl rfl,
        side.commitFeedback (happart fun he => other (congrArg some he)) draws⟩
    | cleanup =>
      obtain ⟨hold', hhold', hsame, _⟩ := side.cleanupLocked beside.settled' (hpasses undisturbed)
      exact ⟨hold', hhold', hsame⟩
    | lookupIssuedResponse | readTurnAdmissionSnapshot => exact ⟨hold, .inl rfl, side.same⟩
  obtain ⟨hold', hhold', hsame⟩ := hsame
  have hfollows := runOperation_follows setup operation draws b
  have hkeys : ∀ change ∈ operation.changes draws,
      change.stateKey? ≠ some held.pending.stateKey :=
    fun change hmem hk => other (stateKey?_of_mem_changes hmem hk)
  have hside : ∃ n' o', Side setup hold' n' o' (runOperation setup operation draws a).2
      (runOperation setup operation draws b).2 := by
    refine side.follows hfollows (fun h hh => ?_)
      (runOperation_publishes publish_bounded draws operation side.bounded) (fun h hh => ?_) hsame
    · rw [hheld h hh]
      exact hkeys
    · obtain rfl | rfl := hhold'
      · exact hh
      · cases hh
  obtain ⟨n', o', hside⟩ := hside
  refine ⟨⟨hold', n', o', ?_, hside⟩, ?_, runOperation_settled operation draws beside.settled,
    runOperation_settled operation draws beside.settled', ?_⟩
  · obtain rfl | rfl := hhold'
    · exact hhold
    · exact .inr rfl
  · exact beside.unclaimed.of_leavesAlone (runOperation_leavesAlone side.keyed other).2
  · exact hfollows.invariant (P := StoreBounds setup.config) beside.stores
      fun _ _ _ _ hstores step => step.storeBounds hstores

/-! ## Reservation and abort -/

section

variable {c c₁ : Coordinator} {k : ConversationStateKey} {requestId requestHash : String}
  {replayEligible : Bool} {draws : OperationDraws} {reservation : NewReplyReservationV1}

/-- The reservation that `reserve_reply` makes in a root. -/
def holdOf (config : CoordinatorConfigV1) (root : CoordinatorStateRootV1) (k : ConversationStateKey)
    (requestId requestHash : String) (replayEligible : Bool)
    (readings : ReserveReadings) : Hold where
  pending := pendingRecord config (reservedRevision config root k readings) k requestId requestHash
    replayEligible readings
  revision := reservedRevision config root k readings

/-- A new reservation without a cleanup or an eviction is one step of the root. -/
theorem reserveReply_step
    (quiet : (cleanupCandidate setup.config c.root draws.cleanupMonotonicNs
      draws.cleanupEpochMs).1 = none)
    (room : c.root.issuedRecords.size < setup.config.issuedResponseCapacity)
    (reserved : reserveReply setup k requestId requestHash replayEligible draws c =
      (.ok (.new reservation), c₁)) :
    reservation.ownerToken = draws.ownerToken ∧
      RootStep setup c.root (.reserve k requestId requestHash replayEligible draws.reserveReadings)
        c₁.root := by
  have hclean : afterCleanup setup draws c = c := by
    unfold afterCleanup cleanupLocked
    rcases hcandidate : cleanupCandidate setup.config c.root draws.cleanupMonotonicNs
      draws.cleanupEpochMs with ⟨_ | candidate, removed⟩
    · rfl
    · rw [hcandidate] at quiet
      cases quiet
  have hroom : publishEviction setup draws c = (.ok (), c) := by
    unfold publishEviction issuedCapacityEvictionCandidate
    rw [if_pos room]
  obtain ⟨⟨e, he⟩, _⟩ | ⟨existing, he, hexisting, _⟩ | ⟨evicted, he, hevicted, step⟩ :=
    reserveReply_cases reserved
  · cases he
  · cases he
    exact absurd hexisting existingReservationResult_ne_new
  · rw [hclean, hroom] at hevicted
    cases hevicted
    cases he
    exact ⟨rfl, step⟩

/-- After the reservation the coordinator is beside the one without it. -/
theorem Beside.of_reserve {es : List CoordinatorEvent}
    (run : CoordinatorRun setup Admissible es c)
    (step : RootStep setup c.root (.reserve k requestId requestHash replayEligible
      draws.reserveReadings) c₁.root) (settled : Settled setup c₁) :
    Beside setup (holdOf setup.config c.root k requestId requestHash replayEligible
      draws.reserveReadings) c₁ c := by
  have inv : RootInvariant c.root := .of_run run fun _ _ => id
  have hsettled : Settled setup c := .of_run run
  have hkeyed : StateKeyed c.root := fun hget => (inv.keyed hget).1
  generalize hroot₁ : c₁.root = root₁ at step
  cases step with
  | reserve new idle =>
    have unclaimed : Unclaimed (holdOf setup.config c.root k requestId requestHash replayEligible
        draws.reserveReadings) c.root := by
      refine ⟨⟨new, idle⟩, fun hpin => ?_⟩
      obtain ⟨revision, hrevision⟩ := inv.revisions hpin
      exact hrevision.trans (congrArg some (reservedRevision_of_some hrevision).symm)
    have hself : published c.root = c.root :=
      hsettled.published_eq c.root.rootRevision c.root.orders
    have hroot : c₁.root = withHold (some (holdOf setup.config c.root k requestId requestHash
        replayEligible draws.reserveReadings)) (c.root.rootRevision + 1) c₁.root.orders c.root := by
      have hcandidate : withReservation setup.config c.root k requestId requestHash replayEligible
          draws.reserveReadings = withHold (some (holdOf setup.config c.root k requestId requestHash
            replayEligible draws.reserveReadings))
              (c.root.rootRevision + 1) c.root.orders c.root := rfl
      rw [hroot₁, hcandidate, published_withHold, hself]
      rfl
    refine ⟨⟨_, _, _, .inl rfl, hroot, settled.bounded, hkeyed, ?_⟩, unclaimed, settled, hsettled,
      .of_run run fun _ _ => id⟩
    rintro h ⟨⟩
    exact unclaimed

/-- The root at another root revision. -/
def CoordinatorStateRootV1.atRevision (root : CoordinatorStateRootV1) (n : ℕ) :
    CoordinatorStateRootV1 := { root with rootRevision := n }

/-- The abort leads to the root without the reservation. -/
theorem Beside.abortReply {held : Hold} {a b : Coordinator} (beside : Beside setup held a b)
    (hook : draws.publication.hook = .passes) :
    (abortReply setup held.pending.stateKey held.pending.requestId held.pending.ownerToken draws
        a).2.root =
      b.root.atRevision (abortReply setup held.pending.stateKey held.pending.requestId
        held.pending.ownerToken draws a).2.root.rootRevision ∧
      (a.root.pendingRequestByState.contains held.pending.stateKey = true →
        (abortReply setup held.pending.stateKey held.pending.requestId held.pending.ownerToken draws
          a).1 = .ok ()) := by
  obtain ⟨hold, n, o, rfl | rfl, side⟩ := beside.side
  · have hget : a.root.issuedRecords.get ⟨held.pending.stateKey, held.pending.requestId⟩ =
        some (.pending held.pending) := by
      rw [side.root]
      exact FrozenMap.get_insert_self ..
    have hcandidate : abortReplyCandidate a.root held.pending.stateKey held.pending.requestId
        held.pending.ownerToken =
          .ok (withoutReservation a.root held.pending.stateKey held.pending.requestId) := by
      unfold abortReplyCandidate
      rw [hget]
      simp only [ne_eq, not_true_eq_false, if_false]
      rfl
    have hroot : withoutReservation a.root held.pending.stateKey held.pending.requestId =
        { b.root with
          rootRevision := n + 1, orders := o
          stateRevisions := b.root.stateRevisions.insert held.pending.stateKey held.revision } := by
      rw [side.root]
      exact CoordinatorStateRootV1.mk.injEq .. ▸
        ⟨rfl, FrozenMap.withoutKeys_insert_of_none beside.unclaimed.absent,
          FrozenMap.withoutKeys_insert_of_none beside.unclaimed.idle, rfl, rfl, rfl, rfl, rfl, rfl,
          rfl, rfl, rfl, rfl⟩
    have hpublished : published (withoutReservation a.root held.pending.stateKey
        held.pending.requestId) = { b.root with rootRevision := n + 1 } := by
      rw [hroot, ← beside.settled'.published_eq (n + 1) o]
      have hrevisions : ∀ {k}, Pinned { b.root with rootRevision := n + 1, orders := o } k →
          (b.root.stateRevisions.insert held.pending.stateKey held.revision).get k =
            b.root.stateRevisions.get k := by
        intro k hpin
        have hpinned : Pinned b.root k := hpin.mono {}
        rw [FrozenMap.get_insert]
        split_ifs with hk
        · subst hk
          exact (beside.unclaimed.revised hpinned).symm
        · rfl
      exact published_congr_revisions hrevisions
    have hn : a.root.rootRevision = n := by rw [side.root, withHold_rootRevision]
    obtain ⟨journal, hpublish⟩ : ∃ journal, publish setup .replyAbort (some held.pending.stateKey)
        draws.publication (withoutReservation a.root held.pending.stateKey held.pending.requestId)
        a = (.ok (), ⟨published (withoutReservation a.root held.pending.stateKey
          held.pending.requestId), some journal⟩) := by
      refine publish_passes ?_ ?_ rfl hook
      · rw [hpublished]
        exact beside.settled'.bounded
      · rw [hpublished]
        exact beside.settled'.valid
    unfold MarketSupport.abortReply
    rw [hcandidate]
    simp only [hpublish, hpublished]
    exact ⟨rfl, fun _ => trivial⟩
  · have hget : a.root.issuedRecords.get ⟨held.pending.stateKey, held.pending.requestId⟩ =
      none := by
      rw [side.root]
      exact beside.unclaimed.absent
    have hidle : a.root.pendingRequestByState.contains held.pending.stateKey = false := by
      rw [side.root]
      exact FrozenMap.contains_eq_false_iff.mpr beside.unclaimed.idle
    have horders : a.root.orders = b.root.orders := by
      rw [beside.settled.orders, beside.settled'.orders, side.root]
      rfl
    unfold MarketSupport.abortReply abortReplyCandidate
    rw [hget, hidle]
    refine ⟨?_, by simp⟩
    have horders' : o = b.root.orders := by
      rw [← horders, side.root]
      rfl
    rw [side.root, horders']
    rfl

/-- **Reserve and abort are the identity** up to the root revision, and remain so with operations of
other conversations in between: the root is then the one of these operations alone. -/
theorem abort_undoes_reservation {es : List CoordinatorEvent}
    (run : CoordinatorRun setup Admissible es c)
    (quiet : (cleanupCandidate setup.config c.root draws.cleanupMonotonicNs
      draws.cleanupEpochMs).1 = none)
    (room : c.root.issuedRecords.size < setup.config.issuedResponseCapacity)
    (reserved : reserveReply setup k requestId requestHash replayEligible draws c =
      (.ok (.new reservation), c₁)) {inputs : List CoordinatorInput}
    (between : (coordinatorSystem setup).All (fun c input =>
      input.1.stateKey? ≠ some k ∧ Undisturbed setup k requestId c input) c₁ inputs)
    {abortDraws : OperationDraws} (hook : abortDraws.publication.hook = .passes) :
    (abortReply setup k requestId reservation.ownerToken abortDraws
        ((coordinatorSystem setup).after c₁ inputs)).2.root =
      ((coordinatorSystem setup).after c inputs).root.atRevision
        (abortReply setup k requestId reservation.ownerToken abortDraws
          ((coordinatorSystem setup).after c₁ inputs)).2.root.rootRevision ∧
      (((coordinatorSystem setup).after c₁ inputs).root.pendingRequestByState.contains k = true →
        (abortReply setup k requestId reservation.ownerToken abortDraws
          ((coordinatorSystem setup).after c₁ inputs)).1 = .ok ()) := by
  obtain ⟨htoken, step⟩ := reserveReply_step quiet room reserved
  have hsettled : Settled setup c₁ := by
    have hreserved : Settled setup
        (reserveReply setup k requestId requestHash replayEligible draws c).2 :=
      reserveReply_publishes publish_settled draws (.of_run run)
    rwa [reserved] at hreserved
  have hreserved : Beside setup (holdOf setup.config c.root k requestId requestHash replayEligible
      draws.reserveReadings) c₁ c := .of_reserve run step hsettled
  have hstep : ∀ {a b : Coordinator} {input : CoordinatorInput},
      Beside setup (holdOf setup.config c.root k requestId requestHash replayEligible
        draws.reserveReadings) a b →
      input.1.stateKey? ≠ some k ∧ Undisturbed setup k requestId a input →
      Beside setup (holdOf setup.config c.root k requestId requestHash replayEligible
        draws.reserveReadings) ((coordinatorSystem setup).step a input).2
        ((coordinatorSystem setup).step b input).2 :=
    fun beside ok => runOperation_beside beside ok.1 ok.2
  have hbeside := between.related hstep hreserved
  have habort := hbeside.abortReply hook
  rw [htoken]
  exact habort

end

/-! ## Samples -/

theorem eq_mk_of_fst {α β : Type} {x : α × β} {a : α} (h : x.1 = a) : x = (a, x.2) := by rw [← h]

/-- Room for one issued record. -/
def fullStoreSetup : CoordinatorSetup where
  settings := { issuedResponseCapacity := 1 }
  config := ⟨1, 5000, 20000, 86400000, 12, 86400000000000, 180000000000, 10002⟩
  built := by decide +kernel
  sha256 := fun _ => "0"

/-- Another conversation reserves a reply. -/
def otherReservation : CoordinatorInput :=
  (.reserveReply { sampleKey with subjectRef := "group:b" } "r" "h" true, sampleDraws 2 2)

/-- The coordinator with the first reservation. -/
def reservedCoordinator (setup : CoordinatorSetup) : Coordinator :=
  (reserveReply setup sampleKey "r" "h" true (sampleDraws 1 1) .initial).2

/-- With room for both, the other reservation is made in between and stays. -/
theorem abort_undoes_reservation_sample :
    (abortReply sampleSetup sampleKey "r" [0] (sampleDraws 3 3)
      ((coordinatorSystem sampleSetup).after
        (reservedCoordinator sampleSetup) [otherReservation])).2.root =
      ((coordinatorSystem sampleSetup).after .initial [otherReservation]).root.atRevision
        (abortReply sampleSetup sampleKey "r" [0] (sampleDraws 3 3)
          ((coordinatorSystem sampleSetup).after (reservedCoordinator sampleSetup)
            [otherReservation])).2.root.rootRevision := by
  have hreserved : reserveReply sampleSetup sampleKey "r" "h" true (sampleDraws 1 1) .initial =
      (.ok (.new (newReservation sampleSetup.config emptyCoordinatorRoot sampleKey "r" "h" true
        (sampleDraws 1 1).reserveReadings)), reservedCoordinator sampleSetup) := by
    unfold reservedCoordinator
    exact eq_mk_of_fst (by decide +kernel)
  have hroom : RevisionRoomBeside sampleSetup.config
      (afterCleanup sampleSetup (sampleDraws 2 2)
        (reservedCoordinator sampleSetup)).root sampleKey "r"
      { sampleKey with subjectRef := "group:b" } := .inr (.inl (by decide +kernel))
  have hbetween : (coordinatorSystem sampleSetup).All (fun c input =>
      input.1.stateKey? ≠ some sampleKey ∧ Undisturbed sampleSetup sampleKey "r" c input)
      (reservedCoordinator sampleSetup) [otherReservation] :=
    ⟨⟨by decide, fun _ _ _ => rfl, fun _ _ => ⟨by decide +kernel, hroom⟩⟩, trivial⟩
  have hquiet : (cleanupCandidate sampleSetup.config Coordinator.initial.root
      (sampleDraws 1 1).cleanupMonotonicNs (sampleDraws 1 1).cleanupEpochMs).1 = none := by
    decide +kernel
  have hhook : (sampleDraws 3 3).publication.hook = .passes := rfl
  have habort :=
    (abort_undoes_reservation .nil hquiet (by decide +kernel) hreserved hbetween hhook).1
  have htoken : (newReservation sampleSetup.config emptyCoordinatorRoot sampleKey "r" "h" true
    (sampleDraws 1 1).reserveReadings).ownerToken = [0] := rfl
  rw [htoken] at habort
  exact habort

/-- An operation in between that a shared limit refuses because of the reservation is not made up
for by the abort. -/
theorem abort_keeps_refusal : CoordinatorRun fullStoreSetup Admissible [] .initial ∧
    (cleanupCandidate fullStoreSetup.config Coordinator.initial.root 1 1).1 = none ∧
    Coordinator.initial.root.issuedRecords.size < fullStoreSetup.config.issuedResponseCapacity ∧
    (∃ reservation, reserveReply fullStoreSetup sampleKey "r" "h" true (sampleDraws 1 1) .initial =
      (.ok (.new reservation), reservedCoordinator fullStoreSetup) ∧ reservation.ownerToken = [0]) ∧
    otherReservation.1.stateKey? ≠ some sampleKey ∧
    (abortReply fullStoreSetup sampleKey "r" [0] (sampleDraws 3 3)
      ((coordinatorSystem fullStoreSetup).after (reservedCoordinator fullStoreSetup)
        [otherReservation])).1 = .ok () ∧
    (abortReply fullStoreSetup sampleKey "r" [0] (sampleDraws 3 3)
        ((coordinatorSystem fullStoreSetup).after (reservedCoordinator fullStoreSetup)
          [otherReservation])).2.root ≠
      ((coordinatorSystem fullStoreSetup).after .initial [otherReservation]).root.atRevision
        (abortReply fullStoreSetup sampleKey "r" [0] (sampleDraws 3 3)
          ((coordinatorSystem fullStoreSetup).after (reservedCoordinator fullStoreSetup)
            [otherReservation])).2.root.rootRevision := by
  have hreserved : reserveReply fullStoreSetup sampleKey "r" "h" true (sampleDraws 1 1) .initial =
      (.ok (.new (newReservation fullStoreSetup.config emptyCoordinatorRoot sampleKey "r" "h" true
        (sampleDraws 1 1).reserveReadings)), reservedCoordinator fullStoreSetup) := by
    unfold reservedCoordinator
    exact eq_mk_of_fst (by decide +kernel)
  refine ⟨.nil, by decide +kernel, by decide +kernel, ⟨_, hreserved, rfl⟩, by decide,
    by decide +kernel, fun h => ?_⟩
  have hpending := congrArg (fun root => root.pendingRequestByState.size) h
  revert hpending
  decide +kernel

end MarketSupport
