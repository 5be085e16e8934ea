import MarketSupport.State.ActionIndex

/-!
# Publications without a fault

Roots of a run are sound, so a publication is only refused for the revision capacity or by
the fault hook. A cleanup adds no revision: it always succeeds when the hook passes.

## Main results

* `runOperation_publishes` — every operation changes the coordinator by publishing only.
* `cleanupLocked_passes` — a cleanup without a fault succeeds.
-/

namespace MarketSupport

open Library

variable {setup : CoordinatorSetup} {c : Coordinator}

/-! ## What keeps across publications -/

section

variable {P : Coordinator → Prop}
  (keeps : ∀ operation initiating draws candidate c, P c →
    P (publish setup operation initiating draws candidate c).2)
  (draws : OperationDraws)

include keeps

theorem cleanupLocked_publishes (mono epoch : ℤ) (pubDraws : PublicationDraws) (h : P c) :
    P (cleanupLocked setup mono epoch pubDraws c).2 := by
  unfold cleanupLocked
  split
  · exact h
  · next candidate _ _ =>
    have hpublish := keeps .cleanup none pubDraws candidate c h
    split <;> simp_all

theorem publishEviction_publishes (h : P c) : P (publishEviction setup draws c).2 := by
  unfold publishEviction
  split
  · exact h
  · exact h
  · exact keeps _ _ _ _ _ h

theorem publishReservation_publishes {stateKey : ConversationStateKey}
    {requestId requestHash : String} {replayEligible : Bool} (h : P c) :
    P (publishReservation setup stateKey requestId requestHash replayEligible draws c).2 := by
  unfold publishReservation
  split
  · exact h
  · exact h
  · next candidate _ _ =>
    have hpublish := keeps .replyReserve (some stateKey) draws.publication candidate c h
    split <;> simp_all

theorem reserveReply_publishes {stateKey : ConversationStateKey} {requestId requestHash : String}
    {replayEligible : Bool} (h : P c) :
    P (reserveReply setup stateKey requestId requestHash replayEligible draws c).2 := by
  have hclean := cleanupLocked_publishes keeps draws.cleanupMonotonicNs draws.cleanupEpochMs
    draws.cleanupPublication h
  unfold reserveReply
  split
  · next heq => simpa [heq] using hclean
  · next c₁ heq =>
    replace hclean : P c₁ := by simpa [heq] using hclean
    split
    · exact hclean
    · exact hclean
    · have hevict := publishEviction_publishes keeps draws hclean
      split
      · next heq => simpa [heq] using hevict
      · next c₂ heq =>
        replace hevict : P c₂ := by simpa [heq] using hevict
        exact publishReservation_publishes keeps draws hevict

theorem abortReply_publishes {stateKey : ConversationStateKey} {requestId : String}
    {ownerToken : Bytes} (h : P c) :
    P (abortReply setup stateKey requestId ownerToken draws c).2 := by
  unfold abortReply
  split
  · exact h
  · exact keeps _ _ _ _ _ h

theorem commitReply_publishes {proposal : ReplyCommitProposalV1} (h : P c) :
    P (commitReply setup proposal draws c).2 := by
  unfold commitReply
  split
  · exact h
  · next candidate _ _ =>
    have hpublish := keeps .replyCommit (some proposal.stateKey) draws.publication candidate c h
    split <;> simp_all

theorem prepareFeedback_publishes {stateKey : ConversationStateKey}
    {feedback : ActionFeedbackRequestV2} (h : P c) :
    P (prepareFeedback setup stateKey feedback draws c).2 := by
  have hclean := cleanupLocked_publishes keeps draws.cleanupMonotonicNs draws.cleanupEpochMs
    draws.cleanupPublication h
  unfold prepareFeedback
  split
  · next heq => simpa [heq] using hclean
  · next c₁ heq =>
    replace hclean : P c₁ := by simpa [heq] using hclean
    unfold prepareFeedbackLocked
    split
    · exact hclean
    · split
      · exact hclean
      · exact hclean
      · next candidate _ _ =>
        have hpublish :=
          keeps .feedbackPrepare (some stateKey) draws.publication candidate c₁ hclean
        split <;> simp_all

theorem commitFeedback_publishes {prepared : PreparedFeedbackV1} (h : P c) :
    P (commitFeedback setup prepared draws c).2 := by
  unfold commitFeedback
  split
  · unfold dropPreparedToken
    have hpublish := keeps .feedbackCommit (some prepared.stateKey) draws.publication
      (dropPreparedTokenCandidate c.root prepared) c h
    split_ifs
    · split <;> simp_all
    · exact h
  · next candidate _ _ =>
    have hpublish := keeps .feedbackCommit (some prepared.stateKey) draws.publication candidate c h
    split <;> simp_all

/-- Every operation changes the coordinator by publishing only. -/
theorem runOperation_publishes (operation : CoordinatorOperation) (h : P c) :
    P (runOperation setup operation draws c).2 := by
  cases operation with
  | reserveReply => exact reserveReply_publishes keeps draws h
  | abortReply => exact abortReply_publishes keeps draws h
  | commitReply => exact commitReply_publishes keeps draws h
  | prepareFeedback => exact prepareFeedback_publishes keeps draws h
  | commitFeedback => exact commitFeedback_publishes keeps draws h
  | cleanup => exact cleanupLocked_publishes keeps _ _ _ h
  | lookupIssuedResponse | readTurnAdmissionSnapshot => exact h

end

/-- The root keeps to the revision capacity. -/
def Bounded (setup : CoordinatorSetup) (c : Coordinator) : Prop :=
  c.root.stateRevisions.size ≤ setup.config.stateRevisionCapacity

theorem publish_bounded (operation : ReplyStateJournalOperationV1)
    (initiating : Option ConversationStateKey) (draws : PublicationDraws)
    (candidate : CoordinatorStateRootV1) (c : Coordinator) (h : Bounded setup c) :
    Bounded setup (publish setup operation initiating draws candidate c).2 := by
  unfold publish
  rw [prepareRootForPublication_eq]
  split
  · exact h
  · next root hprep =>
    split_ifs at hprep with hok
    cases hprep
    split_ifs
    · exact h
    · cases draws.hook
      · exact hok.1
      · exact h
      · exact h

theorem bounded_of_run {adm : List CoordinatorEvent → CoordinatorEvent → Prop}
    {es : List CoordinatorEvent} (run : CoordinatorRun setup adm es c) : Bounded setup c := by
  refine run.invariant (P := fun _ c => Bounded setup c) (Nat.zero_le _) ?_
  exact fun _ _ input _ _ h => runOperation_publishes publish_bounded input.2 input.1 h

/-! ## Publications that succeed -/

/-- What a publication needs besides the hook. -/
theorem publish_passes {operation : ReplyStateJournalOperationV1}
    {initiating : Option ConversationStateKey} {draws : PublicationDraws}
    {candidate : CoordinatorStateRootV1}
    (room : (published candidate).stateRevisions.size ≤ setup.config.stateRevisionCapacity)
    (valid : indexesValid (published candidate) = true)
    (next : candidate.rootRevision = c.root.rootRevision + 1) (hook : draws.hook = .passes) :
    ∃ journal, publish setup operation initiating draws candidate c =
      (.ok (), ⟨published candidate, some journal⟩) := by
  unfold publish
  rw [prepareRootForPublication_eq, if_pos ⟨room, valid⟩]
  simp [next, hook]

/-- Every publication is one root revision on. -/
theorem RootStep.rootRevision {root root' : CoordinatorStateRootV1} {change : Change}
    (step : RootStep setup root change root') : root'.rootRevision = root.rootRevision + 1 := by
  cases step <;> rfl

/-- The fault hook passes every publication of an operation. -/
structure OperationDraws.HooksPass (draws : OperationDraws) : Prop where
  cleanup : draws.cleanupPublication.hook = .passes
  eviction : draws.evictionPublication.hook = .passes
  publication : draws.publication.hook = .passes

/-- A root that publications accept: only the revision capacity can refuse the next one. -/
structure Sound (setup : CoordinatorSetup) (c : Coordinator) : Prop where
  inv : RootInvariant c.root
  index : ActionIndexSound c.root
  bounded : Bounded setup c

theorem Sound.of_run {adm : List CoordinatorEvent → CoordinatorEvent → Prop}
    {es : List CoordinatorEvent} (run : CoordinatorRun setup adm es c)
    (hadm : ∀ es e, adm es e → Admissible es e) : Sound setup c :=
  ⟨.of_run run hadm, .of_run run hadm, bounded_of_run run⟩

/-- A change is published when its revisions find room. -/
theorem RootStep.publishes {operation : ReplyStateJournalOperationV1}
    {initiating : Option ConversationStateKey} {draws : PublicationDraws}
    {candidate : CoordinatorStateRootV1} {change : Change}
    (step : RootStep setup c.root change (published candidate)) (sound : Sound setup c)
    (guarded : Guarded genuineGuard c.root change)
    (room : (published candidate).stateRevisions.size ≤ setup.config.stateRevisionCapacity)
    (hook : draws.hook = .passes) :
    ∃ journal, publish setup operation initiating draws candidate c =
      (.ok (), ⟨published candidate, some journal⟩) := by
  have hvalid := indexesValid_of_sound (step.rootInvariant sound.inv guarded)
    (step.actionIndexSound sound.index sound.inv guarded)
  exact publish_passes room hvalid step.rootRevision hook

/-- The root after a published change is as sound as the one before. -/
theorem RootStep.sound {candidate : CoordinatorStateRootV1} {change : Change}
    {journal : Option ReplyStateJournalV2}
    (step : RootStep setup c.root change (published candidate)) (sound : Sound setup c)
    (guarded : Guarded genuineGuard c.root change)
    (room : (published candidate).stateRevisions.size ≤ setup.config.stateRevisionCapacity) :
    Sound setup ⟨published candidate, journal⟩ :=
  ⟨step.rootInvariant sound.inv guarded, step.actionIndexSound sound.index sound.inv guarded, room⟩

section

variable {draws : OperationDraws} {candidate : CoordinatorStateRootV1}
  (sound : Sound setup c) (hooks : draws.HooksPass)
  (room : (published candidate).stateRevisions.size ≤ setup.config.stateRevisionCapacity)

include sound hooks room

/-- A reply whose candidate finds room is committed. -/
theorem commitReply_passes {proposal : ReplyCommitProposalV1} {response : ReplyResponse}
    (h : commitReplyCandidate setup.config setup.sha256 c.root proposal draws.commitReadings =
      .ok (candidate, response)) : ∃ journal, commitReply setup proposal draws c =
      (.ok response, ⟨published candidate, some journal⟩) := by
  have hpublish : ∃ journal, publish setup .replyCommit (some proposal.stateKey) draws.publication
      candidate c = (.ok (), ⟨published candidate, some journal⟩) :=
    (commitReplyCandidate_ok h).2.publishes sound trivial room hooks.publication
  obtain ⟨journal, hpublish⟩ := hpublish
  exact ⟨journal, by simp only [commitReply, h, hpublish]⟩

/-- Feedback whose candidate finds room is prepared. -/
theorem prepareFeedbackLocked_passes {k : ConversationStateKey} {feedback : ActionFeedbackRequestV2}
    {record : CompleteIssuedResponseRecordV1} {preparation : FeedbackPreparationV1}
    (hrecord : resolveFeedbackRecord c.root k feedback = .ok record)
    (h : prepareFeedbackCandidate setup.config setup.sha256 c.root k feedback record
      draws.prepareReadings = .ok (some candidate, preparation)) :
    ∃ journal, prepareFeedbackLocked setup k feedback draws c =
      (.ok preparation, ⟨published candidate, some journal⟩) := by
  obtain ⟨revision, transitions, admitted, capacity, rfl, rfl⟩ :=
    prepareFeedbackCandidate_ok hrecord h
  have step : RootStep setup c.root (.prepare k feedback draws.prepareReadings)
      (published (withPreparedToken c.root (preparedFeedback k feedback
        (feedbackHash setup.sha256 feedback) record revision transitions draws.prepareReadings)
        draws.prepareReadings.createdAtMonotonicNs)) := .prepare admitted capacity
  have hpublish : ∃ journal, publish setup .feedbackPrepare (some k) draws.publication
      (withPreparedToken c.root (preparedFeedback k feedback (feedbackHash setup.sha256 feedback)
        record revision transitions draws.prepareReadings)
        draws.prepareReadings.createdAtMonotonicNs) c = (.ok (), ⟨_, some journal⟩) :=
    step.publishes sound trivial room hooks.publication
  obtain ⟨journal, hpublish⟩ := hpublish
  exact ⟨journal, by simp only [prepareFeedbackLocked, hrecord, h, hpublish]⟩

/-- Genuine feedback whose candidate finds room is committed. -/
theorem commitFeedback_passes {prepared : PreparedFeedbackV1} {result : FeedbackCommitResultV1}
    (genuine : Genuine c.root prepared)
    (h : commitFeedbackCandidate setup.config setup.sha256 c.root prepared draws.monotonicNs
      draws.epochMs = .ok (candidate, result)) : ∃ journal, commitFeedback setup prepared draws c =
      (.ok result, ⟨published candidate, some journal⟩) := by
  have hpublish : ∃ journal, publish setup .feedbackCommit (some prepared.stateKey)
      draws.publication candidate c = (.ok (), ⟨published candidate, some journal⟩) :=
    (commitFeedbackCandidate_ok h).publishes sound genuine room hooks.publication
  obtain ⟨journal, hpublish⟩ := hpublish
  exact ⟨journal, by simp only [commitFeedback, h, hpublish]⟩

end

/-- Publication adds no revision to those of the candidate. -/
theorem size_stateRevisions_published (candidate : CoordinatorStateRootV1) :
    (published candidate).stateRevisions.size ≤ candidate.stateRevisions.size := by
  refine FrozenMap.size_le_of_keys_subset fun k hk => ?_
  obtain ⟨revision, hrevision⟩ := FrozenMap.contains_iff.mp hk
  exact FrozenMap.contains_iff.mpr ⟨revision, (published_stateRevisions_sub hrevision).1⟩

/-- A cleanup removes revisions only. -/
theorem size_stateRevisions_withoutExpired (config : CoordinatorConfigV1)
    (root : CoordinatorStateRootV1) (mono epoch : ℤ) :
    (published (withoutExpired config root mono epoch)).stateRevisions.size ≤
      root.stateRevisions.size := size_stateRevisions_published _

/-- The root after a cleanup that meets no fault: nothing is published when nothing expired. -/
def cleaned (config : CoordinatorConfigV1) (root : CoordinatorStateRootV1) (mono epoch : ℤ) :
    CoordinatorStateRootV1 :=
  if (expiredKeys config root mono epoch).removed = 0 ∧
      (expiredKeys config root mono epoch).changedIssuedReceipts = false then root
  else published (withoutExpired config root mono epoch)

theorem keysWhere_eq_nil {K V : Type} [LinearOrder K] {m : FrozenMap K V} {p : V → Bool}
    (h : (keysWhere m p).length = 0) {k : K} {v : V} (hget : m.get k = some v) : p v = false := by
  by_contra hp
  have hmem : k ∈ keysWhere m p := mem_keysWhere.mpr ⟨v, hget, by simpa using hp⟩
  rw [List.length_eq_zero_iff.mp h] at hmem
  cases hmem

/-- When nothing expired, removing the expired entries changes nothing. -/
theorem withoutExpired_of_none {config : CoordinatorConfigV1} {root : CoordinatorStateRootV1}
    {mono epoch : ℤ} (hremoved : (expiredKeys config root mono epoch).removed = 0)
    (hreceipts : (expiredKeys config root mono epoch).changedIssuedReceipts = false) :
    withoutExpired config root mono epoch =
      { root with rootRevision := root.rootRevision + 1 } := by
  simp only [ExpiredKeys.removed, Nat.add_eq_zero_iff] at hremoved
  obtain ⟨⟨⟨⟨⟨⟨⟨htokens, hrecords⟩, hfeedback⟩, hledger⟩, hturns⟩, hchanged⟩, hclarifications⟩,
      haudits⟩ :=
    hremoved
  have hlive : ∀ {key record}, root.issuedRecords.get key = some record →
      ¬ record.expiresAtMonotonicNs ≤ mono := by
    intro key record hget
    have hrecords' : (keysWhere root.issuedRecords
      (fun record => record.expiresAtMonotonicNs ≤ mono)).length = 0 := hrecords
    simpa using keysWhere_eq_nil hrecords' hget
  have hissued : root.issuedRecords.filterMap (fun _ r => retainedIssuedRecord mono r) =
      root.issuedRecords := by
    refine FrozenMap.ext_get fun key => ?_
    rw [FrozenMap.get_filterMap]
    cases hget : root.issuedRecords.get key with
    | none => rfl
    | some record =>
      unfold retainedIssuedRecord
      rw [Option.bind_some, if_neg (hlive hget)]
      cases record with
      | pending r => rfl
      | complete r =>
        have hsame := List.any_eq_false.mp hreceipts _ (FrozenMap.mem_values_iff.mpr ⟨key, hget⟩)
        have hexp : mono < r.expiresAtMonotonicNs := not_le.mp (hlive hget)
        have hkept : (retainedReceipts mono r).receipts = r.receipts := by
          simpa [IssuedResponseRecordV1.expiresAtMonotonicNs, IssuedResponseRecordV1.complete?,
            hexp] using hsame
        exact congrArg (fun receipts => some (IssuedResponseRecordV1.complete
          { r with receipts := receipts })) hkept
  have hcompleted : expiredCompleteRecords root mono = [] := by
    rw [List.eq_nil_iff_forall_not_mem]
    intro record hmem
    obtain ⟨key, hget, hexp⟩ := mem_expiredCompleteRecords.mp hmem
    exact hlive hget hexp
  have hconversations : retainedConversationTurns config epoch root.conversationTurns =
      root.conversationTurns := by
    refine FrozenMap.ext_get fun k => ?_
    rw [retainedConversationTurns, FrozenMap.get_filterMap]
    cases hget : root.conversationTurns.get k with
    | none => rfl
    | some turns =>
      have hturns' : (keysWhere root.conversationTurns
        (fun turns => retainedTurns config epoch turns = [])).length = 0 := hturns
      have hchanged' : (keysWhere root.conversationTurns (fun turns =>
        retainedTurns config epoch turns ≠ [] ∧
          retainedTurns config epoch turns ≠ turns)).length = 0 := hchanged
      have hne : retainedTurns config epoch turns ≠ [] := by
        simpa using keysWhere_eq_nil hturns' hget
      have hsame : retainedTurns config epoch turns = turns := by
        have hkept := keysWhere_eq_nil hchanged' hget
        simp only [decide_eq_false_iff_not, not_and, not_not] at hkept
        exact hkept hne
      rw [Option.bind_some, if_neg hne, hsame]
  have hpending : keysWhere root.pendingRequestByState
      (fun key => key ∈ (expiredKeys config root mono epoch).records) = [] := by
    simp [keysWhere, List.length_eq_zero_iff.mp hrecords]
  simp only [withoutExpired, hissued, hcompleted, hconversations, hpending,
    List.length_eq_zero_iff.mp htokens, List.length_eq_zero_iff.mp hfeedback,
    List.length_eq_zero_iff.mp hledger, List.length_eq_zero_iff.mp hclarifications,
    List.length_eq_zero_iff.mp haudits, List.map_nil, List.flatMap_nil, FrozenMap.withoutKeys_nil]

/-- A cleanup without a fault succeeds. -/
theorem cleanupLocked_passes {mono epoch : ℤ} {draws : PublicationDraws} (sound : Sound setup c)
    (hook : draws.hook = .passes) :
    ∃ n journal, cleanupLocked setup mono epoch draws c =
      (.ok n, ⟨cleaned setup.config c.root mono epoch, journal⟩) := by
  unfold cleanupLocked cleaned
  by_cases hnone : (expiredKeys setup.config c.root mono epoch).removed = 0 ∧
      (expiredKeys setup.config c.root mono epoch).changedIssuedReceipts = false
  · have hcandidate : cleanupCandidate setup.config c.root mono epoch = (none, 0) := if_pos hnone
    rw [hcandidate, if_pos hnone]
    exact ⟨0, c.lastJournal, rfl⟩
  · have hcandidate : cleanupCandidate setup.config c.root mono epoch =
        (some (withoutUnpinnedRevisions (withoutExpired setup.config c.root mono epoch)),
          (expiredKeys setup.config c.root mono epoch).removed) := if_neg hnone
    have step : RootStep setup c.root (.cleanup mono epoch)
        (published (withoutExpired setup.config c.root mono epoch)) := .cleanup mono epoch
    rw [← published_withoutUnpinnedRevisions] at step
    have hroom : (published (withoutUnpinnedRevisions (withoutExpired setup.config c.root mono
        epoch))).stateRevisions.size ≤ setup.config.stateRevisionCapacity := by
      rw [published_withoutUnpinnedRevisions]
      exact (size_stateRevisions_withoutExpired ..).trans sound.bounded
    have hpublish : ∃ journal, publish setup .cleanup none draws
        (withoutUnpinnedRevisions (withoutExpired setup.config c.root mono epoch)) c =
        (.ok (), ⟨published (withoutExpired setup.config c.root mono epoch), some journal⟩) := by
      rw [← published_withoutUnpinnedRevisions (withoutExpired setup.config c.root mono epoch)]
      exact step.publishes sound trivial hroom hook
    obtain ⟨journal, hpublish⟩ := hpublish
    simp only [hcandidate, hpublish, if_neg hnone]
    exact ⟨_, some journal, rfl⟩

end MarketSupport
