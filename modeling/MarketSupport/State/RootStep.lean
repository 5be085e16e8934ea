import MarketSupport.State.Publication

/-!
# Steps of the root

Every publication of the coordinator is one of eight changes. Each operation moves the root
along a short path of them, and says which ones it took by its result.

## Main results

* `RootStep` — what each change requires of the root and what root it leads to.
* `runOperation_follows` — an operation follows a path of changes that belong to it.
* `reserveReply_cases`, `commitReply_cases`, `prepareFeedback_cases`, `commitFeedback_cases` — the
  changes behind a success.
-/

namespace MarketSupport

open Library

/-- One publication, with the inputs and readings it was computed from. -/
inductive Change where
  | cleanup (nowMonotonicNs nowEpochMs : ℤ)
  | evict
  | reserve (stateKey : ConversationStateKey) (requestId requestHash : String)
      (replayEligible : Bool) (readings : ReserveReadings)
  | abort (stateKey : ConversationStateKey) (requestId : String) (ownerToken : Bytes)
  | commit (proposal : ReplyCommitProposalV1) (readings : CommitReadings)
  | prepare (stateKey : ConversationStateKey) (feedback : ActionFeedbackRequestV2)
      (readings : PrepareReadings)
  | commitFeedback (prepared : PreparedFeedbackV1) (nowMonotonicNs nowEpochMs : ℤ)
  | drop (prepared : PreparedFeedbackV1)

/-- The response that a commit issues. -/
def issuedResponse (proposal : ReplyCommitProposalV1) (readings : CommitReadings) : ReplyResponse :=
  issueResponseIds readings.responseUuid readings.actionUuid proposal.response

/-- The root without the sessions of the victims. -/
def withoutSessions (root : CoordinatorStateRootV1) (victims : List ConversationStateKey) :
    CoordinatorStateRootV1 :=
  { root with
    conversationTurns := root.conversationTurns.withoutKeys victims
    clarificationRecords := root.clarificationRecords.withoutKeys victims }

/-- The conversations of which the root retains a turn or a clarification. -/
def sessionsOf (root : CoordinatorStateRootV1) : List ConversationStateKey :=
  sessionKeys root.conversationTurns root.clarificationRecords

def withoutReservation (root : CoordinatorStateRootV1) (stateKey : ConversationStateKey)
    (requestId : String) : CoordinatorStateRootV1 :=
  { root with
    rootRevision := root.rootRevision + 1
    issuedRecords := root.issuedRecords.withoutKeys [⟨stateKey, requestId⟩]
    pendingRequestByState := root.pendingRequestByState.withoutKeys [stateKey] }

/-- What `commitGuards` established when it passed. -/
structure CommitAdmitted (root : CoordinatorStateRootV1) (proposal : ReplyCommitProposalV1)
    (revision : StateRevisionRecordV1) (pending : PendingIssuedResponseRecordV1) : Prop where
  reserved : root.issuedRecords.get ⟨proposal.stateKey, proposal.requestId⟩ =
    some (.pending pending)
  owner : pending.ownerToken = proposal.ownerToken
  current : root.stateRevisions.get proposal.stateKey = some revision
  epoch : revision.revisionEpoch = proposal.expectedRevisionEpoch
  version : revision.revision = proposal.expectedStateRevision
  hash : pending.requestHash = proposal.requestHash
  eligible : pending.replayEligible = proposal.replayEligible

theorem commitGuards_ok {root : CoordinatorStateRootV1} {proposal : ReplyCommitProposalV1}
    {revision : StateRevisionRecordV1} (h : commitGuards root proposal = .ok revision) :
    ∃ pending, CommitAdmitted root proposal revision pending := by
  unfold commitGuards at h
  split at h
  · next pending hreserved =>
    by_cases howner : pending.ownerToken = proposal.ownerToken
    · rw [if_neg (not_not.mpr howner)] at h
      split at h
      · cases h
      · next current hcurrent =>
        split_ifs at h with hversion hhash
        cases h
        push Not at hversion hhash
        exact ⟨pending, hreserved, howner, hcurrent, hversion.1, hversion.2, hhash.1, hhash.2⟩
    · rw [if_pos howner] at h
      cases h
  · cases h

theorem CommitAdmitted.guards {root : CoordinatorStateRootV1} {proposal : ReplyCommitProposalV1}
    {revision : StateRevisionRecordV1} {pending : PendingIssuedResponseRecordV1}
    (h : CommitAdmitted root proposal revision pending) :
    commitGuards root proposal = .ok revision := by
  simp [commitGuards, h.reserved, h.owner, h.current, h.epoch, h.version, h.hash, h.eligible]

/-- A reply that passes every check of `commit_reply_candidate` but the last, which makes room
for its session. -/
theorem CommitAdmitted.sessions {config : CoordinatorConfigV1} {sha256 : Sha256}
    {root : CoordinatorStateRootV1} {proposal : ReplyCommitProposalV1}
    {readings : CommitReadings} {revision : StateRevisionRecordV1}
    {pending : PendingIssuedResponseRecordV1} {audit : AuditRecordV1}
    (h : CommitAdmitted root proposal revision pending)
    (unused : root.responseIndex.get (issuedResponse proposal readings).responseId = none)
    (kind : decide ((issuedResponse proposal readings).reply.kind = .clarification) =
      proposal.assistantTurn.clarificationRequested)
    (clarification : proposal.clarification.isSome = proposal.assistantTurn.clarificationRequested)
    (audited : buildAuditRecord proposal.audit proposal.stateKey
      (issuedResponse proposal readings).responseId proposal.requestId
      (issuedResponse proposal readings).reply.kind readings.epochMs
      (readings.monotonicNs + config.issuedTtlNs) = .ok audit) :
    commitReplyCandidate config sha256 root proposal readings =
      (enforceSessionCapacity (withCommittedReply config sha256 root proposal revision
        (issuedResponse proposal readings) audit readings.monotonicNs readings.epochMs)
        config.conversationMaxSessions).map (·, issuedResponse proposal readings) := by
  unfold commitReplyCandidate
  rw [h.guards]
  simp only [issuedResponse] at unused kind audited ⊢
  split_ifs with hindexed hkind hclarification
  · simp [FrozenMap.contains_eq_false_iff.mpr unused] at hindexed
  · exact absurd kind hkind
  · exact absurd clarification hclarification
  · simp only [audited]
    cases enforceSessionCapacity _ _ <;> rfl

/-- A reply that passes every check of `commit_reply_candidate`. -/
theorem CommitAdmitted.candidate {config : CoordinatorConfigV1} {sha256 : Sha256}
    {root candidate : CoordinatorStateRootV1} {proposal : ReplyCommitProposalV1}
    {readings : CommitReadings} {revision : StateRevisionRecordV1}
    {pending : PendingIssuedResponseRecordV1} {audit : AuditRecordV1}
    (h : CommitAdmitted root proposal revision pending)
    (unused : root.responseIndex.get (issuedResponse proposal readings).responseId = none)
    (kind : decide ((issuedResponse proposal readings).reply.kind = .clarification) =
      proposal.assistantTurn.clarificationRequested)
    (clarification : proposal.clarification.isSome = proposal.assistantTurn.clarificationRequested)
    (audited : buildAuditRecord proposal.audit proposal.stateKey
      (issuedResponse proposal readings).responseId proposal.requestId
      (issuedResponse proposal readings).reply.kind readings.epochMs
      (readings.monotonicNs + config.issuedTtlNs) = .ok audit)
    (sessions : enforceSessionCapacity (withCommittedReply config sha256 root proposal revision
      (issuedResponse proposal readings) audit readings.monotonicNs readings.epochMs)
      config.conversationMaxSessions = .ok candidate) :
    commitReplyCandidate config sha256 root proposal readings =
      .ok (candidate, issuedResponse proposal readings) := by
  rw [h.sessions unused kind clarification audited, sessions]
  rfl

/-- What `feedbackCommitInputs` established when it passed. -/
structure FeedbackAdmitted (root : CoordinatorStateRootV1) (prepared : PreparedFeedbackV1)
    (nowMonotonicNs : ℤ) (stored : PreparedFeedbackTokenRecordV1)
    (record : CompleteIssuedResponseRecordV1) (revision : StateRevisionRecordV1) : Prop where
  token : root.preparedFeedbackTokens.get prepared.tokenKey = some stored
  same : stored.preparation.commitToken = prepared.commitToken
  unexpired : nowMonotonicNs < prepared.expiresAtMonotonicNs
  found : lookup root prepared.stateKey prepared.responseId = .found record
  current : root.stateRevisions.get prepared.stateKey = some revision
  epoch : revision.revisionEpoch = prepared.revisionEpoch
  version : revision.revision = prepared.expectedStateRevision
  recordVersion : record.recordRevision = prepared.expectedIssuedRecordRevision

theorem feedbackCommitInputs_ok {root : CoordinatorStateRootV1} {prepared : PreparedFeedbackV1}
    {now : ℤ} {record : CompleteIssuedResponseRecordV1} {revision : StateRevisionRecordV1}
    (h : feedbackCommitInputs root prepared now = .ok (record, revision)) :
    ∃ stored, FeedbackAdmitted root prepared now stored record revision := by
  unfold feedbackCommitInputs at h
  split at h
  · cases h
  · next stored htoken =>
    split_ifs at h with hsame hexp
    split at h
    · next found current hfound hcurrent =>
      split_ifs at h with hversion
      cases h
      push Not at hversion hsame hexp
      exact ⟨stored, htoken, hsame, hexp, hfound, hcurrent, hversion.1, hversion.2.1, hversion.2.2⟩
    · cases h

theorem FeedbackAdmitted.inputs {root : CoordinatorStateRootV1} {prepared : PreparedFeedbackV1}
    {now : ℤ} {stored : PreparedFeedbackTokenRecordV1} {record : CompleteIssuedResponseRecordV1}
    {revision : StateRevisionRecordV1}
    (h : FeedbackAdmitted root prepared now stored record revision) :
    feedbackCommitInputs root prepared now = .ok (record, revision) := by
  simp [feedbackCommitInputs, h.token, h.same, not_le.mpr h.unexpired, h.found, h.current, h.epoch,
    h.version, h.recordVersion]

theorem FeedbackAdmitted.candidate {root : CoordinatorStateRootV1} {prepared : PreparedFeedbackV1}
    {now : ℤ} {stored : PreparedFeedbackTokenRecordV1} {record : CompleteIssuedResponseRecordV1}
    {revision : StateRevisionRecordV1}
    (h : FeedbackAdmitted root prepared now stored record revision) {config : CoordinatorConfigV1}
    (room : record.receipts.length < receiptsPerRecord)
    (capacity : root.feedbackReceipts.size < config.feedbackReceiptCapacity) (sha256 : Sha256)
    (nowEpochMs : ℤ) :
    ∃ result, commitFeedbackCandidate config sha256 root prepared now nowEpochMs =
      .ok (withCommittedFeedback config sha256 root prepared record revision now nowEpochMs,
        result) := by
  unfold commitFeedbackCandidate
  rw [h.inputs]
  simp [not_le.mpr room, not_le.mpr capacity]

/-- What is admitted is determined by the root. -/
theorem FeedbackAdmitted.unique {root : CoordinatorStateRootV1} {prepared : PreparedFeedbackV1}
    {now now' : ℤ} {stored stored' : PreparedFeedbackTokenRecordV1}
    {record record' : CompleteIssuedResponseRecordV1} {revision revision' : StateRevisionRecordV1}
    (h : FeedbackAdmitted root prepared now stored record revision)
    (h' : FeedbackAdmitted root prepared now' stored' record' revision') :
    record = record' ∧ revision = revision' := by
  have hrecord := h.found.symm.trans h'.found
  have hrevision := h.current.symm.trans h'.current
  simpa using And.intro hrecord hrevision

/-- What `prepare_feedback` established before it created a token. -/
structure PrepareAdmitted (root : CoordinatorStateRootV1) (stateKey : ConversationStateKey)
    (feedback : ActionFeedbackRequestV2) (record : CompleteIssuedResponseRecordV1)
    (revision : StateRevisionRecordV1) (transitions : List PreparedEffectTransitionV1) : Prop where
  found : lookup root stateKey feedback.responseId = .found record
  request : record.requestId = feedback.requestId
  noReceipt : root.feedbackReceipts.get ⟨stateKey, feedback.feedbackId⟩ = none
  noToken : root.preparedFeedbackTokens.get ⟨stateKey, feedback.feedbackId⟩ = none
  current : root.stateRevisions.get stateKey = some revision
  valid : prepareEffectTransitions record feedback = .ok transitions

theorem PrepareAdmitted.resolve {root : CoordinatorStateRootV1} {stateKey : ConversationStateKey}
    {feedback : ActionFeedbackRequestV2} {record : CompleteIssuedResponseRecordV1}
    {revision : StateRevisionRecordV1} {transitions : List PreparedEffectTransitionV1}
    (h : PrepareAdmitted root stateKey feedback record revision transitions) :
    resolveFeedbackRecord root stateKey feedback = .ok record := by
  simp [resolveFeedbackRecord, h.found, h.request]

theorem PrepareAdmitted.candidate {root : CoordinatorStateRootV1} {stateKey : ConversationStateKey}
    {feedback : ActionFeedbackRequestV2} {record : CompleteIssuedResponseRecordV1}
    {revision : StateRevisionRecordV1} {transitions : List PreparedEffectTransitionV1}
    (h : PrepareAdmitted root stateKey feedback record revision transitions)
    {config : CoordinatorConfigV1}
    (room : root.preparedFeedbackTokens.size < config.issuedResponseCapacity) (sha256 : Sha256)
    (readings : PrepareReadings) :
    prepareFeedbackCandidate config sha256 root stateKey feedback record readings =
      .ok (some (withPreparedToken root (preparedFeedback stateKey feedback
        (feedbackHash sha256 feedback) record revision transitions readings)
        readings.createdAtMonotonicNs), .prepared (preparedFeedback stateKey feedback
        (feedbackHash sha256 feedback) record revision transitions readings)) := by
  simp [prepareFeedbackCandidate, h.noReceipt, h.noToken, not_le.mpr room, h.current, h.valid]

variable (setup : CoordinatorSetup)

/-- The root that `commit_reply` publishes, once the victims' sessions are gone. -/
def committedRoot (root : CoordinatorStateRootV1) (proposal : ReplyCommitProposalV1)
    (readings : CommitReadings) (revision : StateRevisionRecordV1) (audit : AuditRecordV1)
    (victims : List ConversationStateKey) : CoordinatorStateRootV1 :=
  withoutSessions (withCommittedReply setup.config setup.sha256 root proposal revision
    (issuedResponse proposal readings) audit readings.monotonicNs readings.epochMs) victims

/-- One publication. -/
inductive RootStep (root : CoordinatorStateRootV1) : Change → CoordinatorStateRootV1 → Prop where
  | cleanup (nowMonotonicNs nowEpochMs : ℤ) :
      RootStep root (.cleanup nowMonotonicNs nowEpochMs)
        (published (withoutExpired setup.config root nowMonotonicNs nowEpochMs))
  | evict {key : RecordKey} {record : CompleteIssuedResponseRecordV1}
      (full : setup.config.issuedResponseCapacity ≤ root.issuedRecords.size)
      (victim : issuedEvictionVictim root = some (key, record)) :
      RootStep root .evict (published (withoutIssuedRecord root key record))
  | reserve {stateKey : ConversationStateKey} {requestId requestHash : String}
      {replayEligible : Bool} {readings : ReserveReadings}
      (new : root.issuedRecords.get ⟨stateKey, requestId⟩ = none)
      (idle : root.pendingRequestByState.get stateKey = none) :
      RootStep root (.reserve stateKey requestId requestHash replayEligible readings)
        (published (withReservation setup.config root stateKey requestId requestHash replayEligible
          readings))
  | abort {stateKey : ConversationStateKey} {requestId : String}
      {pending : PendingIssuedResponseRecordV1}
      (reserved : root.issuedRecords.get ⟨stateKey, requestId⟩ = some (.pending pending)) :
      RootStep root (.abort stateKey requestId pending.ownerToken)
        (published (withoutReservation root stateKey requestId))
  | commit {proposal : ReplyCommitProposalV1} {readings : CommitReadings}
      {revision : StateRevisionRecordV1} {pending : PendingIssuedResponseRecordV1}
      {audit : AuditRecordV1} {victims : List ConversationStateKey}
      (admitted : CommitAdmitted root proposal revision pending)
      (unused : root.responseIndex.get (issuedResponse proposal readings).responseId = none)
      (kind : decide ((issuedResponse proposal readings).reply.kind = .clarification) =
        proposal.assistantTurn.clarificationRequested)
      (clarification : proposal.clarification.isSome =
        proposal.assistantTurn.clarificationRequested)
      (audited : buildAuditRecord proposal.audit proposal.stateKey
        (issuedResponse proposal readings).responseId proposal.requestId
        (issuedResponse proposal readings).reply.kind readings.epochMs
        (readings.monotonicNs + setup.config.issuedTtlNs) = .ok audit)
      (sessions : (sessionsOf (committedRoot setup root proposal readings revision audit
        victims)).length ≤ setup.config.conversationMaxSessions) :
      RootStep root (.commit proposal readings)
        (published (committedRoot setup root proposal readings revision audit victims))
  | prepare {stateKey : ConversationStateKey} {feedback : ActionFeedbackRequestV2}
      {readings : PrepareReadings} {record : CompleteIssuedResponseRecordV1}
      {revision : StateRevisionRecordV1} {transitions : List PreparedEffectTransitionV1}
      (admitted : PrepareAdmitted root stateKey feedback record revision transitions)
      (room : root.preparedFeedbackTokens.size < setup.config.issuedResponseCapacity) :
      RootStep root (.prepare stateKey feedback readings)
        (published (withPreparedToken root (preparedFeedback stateKey feedback
          (feedbackHash setup.sha256 feedback) record revision transitions readings)
          readings.createdAtMonotonicNs))
  | commitFeedback {prepared : PreparedFeedbackV1} {nowMonotonicNs nowEpochMs : ℤ}
      {stored : PreparedFeedbackTokenRecordV1} {record : CompleteIssuedResponseRecordV1}
      {revision : StateRevisionRecordV1}
      (admitted : FeedbackAdmitted root prepared nowMonotonicNs stored record revision)
      (room : record.receipts.length < receiptsPerRecord)
      (capacity : root.feedbackReceipts.size < setup.config.feedbackReceiptCapacity) :
      RootStep root (.commitFeedback prepared nowMonotonicNs nowEpochMs)
        (published (withCommittedFeedback setup.config setup.sha256 root prepared record revision
          nowMonotonicNs nowEpochMs))
  | drop (prepared : PreparedFeedbackV1) :
      RootStep root (.drop prepared) (published (dropPreparedTokenCandidate root prepared))

/-- Publications in sequence. -/
inductive RootPath : CoordinatorStateRootV1 → List Change → CoordinatorStateRootV1 → Prop where
  | nil (root : CoordinatorStateRootV1) : RootPath root [] root
  | cons {root root' root'' : CoordinatorStateRootV1} {change : Change} {changes : List Change}
      (step : RootStep setup root change root') (rest : RootPath root' changes root'') :
      RootPath root (change :: changes) root''

variable {setup}

theorem RootPath.single {root root' : CoordinatorStateRootV1} {change : Change}
    (step : RootStep setup root change root') : RootPath setup root [change] root' :=
  .cons step (.nil _)

theorem RootPath.append {a b c : CoordinatorStateRootV1} {xs ys : List Change}
    (h : RootPath setup a xs b) (h' : RootPath setup b ys c) : RootPath setup a (xs ++ ys) c := by
  induction h with
  | nil => exact h'
  | cons step _ ih => exact .cons step (ih h')

theorem RootStep.of_commit {root root' : CoordinatorStateRootV1} {proposal : ReplyCommitProposalV1}
    {readings : CommitReadings} (step : RootStep setup root (.commit proposal readings) root') :
    ∃ revision pending audit victims, CommitAdmitted root proposal revision pending ∧
      root.responseIndex.get (issuedResponse proposal readings).responseId = none ∧
      root' = published (committedRoot setup root proposal readings revision audit victims) := by
  cases step with
  | commit admitted unused => exact ⟨_, _, _, _, admitted, unused, rfl⟩

theorem RootStep.of_commitFeedback {root root' : CoordinatorStateRootV1}
    {prepared : PreparedFeedbackV1} {nowMonotonicNs nowEpochMs : ℤ}
    (step : RootStep setup root (.commitFeedback prepared nowMonotonicNs nowEpochMs) root') :
    ∃ stored record revision, FeedbackAdmitted root prepared nowMonotonicNs stored record revision ∧
      record.receipts.length < receiptsPerRecord ∧
      root' = published (withCommittedFeedback setup.config setup.sha256 root prepared record
        revision nowMonotonicNs nowEpochMs) := by
  cases step with
  | commitFeedback admitted room => exact ⟨_, _, _, admitted, room, rfl⟩

/-! ## Candidates -/

theorem evictSessions_ok {pending : FrozenMap ConversationStateKey RecordKey} {capacity fuel : ℕ}
    {turns turns' : ConversationTurns} {clarifications clarifications' : ClarificationRecords}
    (h : evictSessions pending capacity fuel turns clarifications = .ok (turns', clarifications')) :
    ∃ victims, turns' = turns.withoutKeys victims ∧
      clarifications' = clarifications.withoutKeys victims := by
  induction fuel generalizing turns clarifications with
  | zero =>
    cases h
    exact ⟨[], by simp, by simp⟩
  | succ fuel ih =>
    unfold evictSessions at h
    split at h
    · cases h
      exact ⟨[], by simp, by simp⟩
    · next victim _ _ =>
      split_ifs at h
      · cases h
        exact ⟨[], by simp, by simp⟩
      · obtain ⟨victims, rfl, rfl⟩ := ih h
        exact ⟨victim :: victims, FrozenMap.withoutKeys_withoutKeys ..,
          FrozenMap.withoutKeys_withoutKeys ..⟩

section

variable {turns turns' : ConversationTurns} {clarifications clarifications' : ClarificationRecords}

theorem mem_sessionKeys {k : ConversationStateKey} : k ∈ sessionKeys turns clarifications ↔
    (∃ v, turns.get k = some v) ∨ ∃ v, clarifications.get k = some v := by
  simp only [sessionKeys, List.mem_append, List.mem_filter, FrozenMap.mem_keys_iff,
    decide_eq_true_eq]
  tauto

theorem nodup_sessionKeys : (sessionKeys turns clarifications).Nodup := by
  refine List.Nodup.append turns.keys_nodup (clarifications.keys_nodup.filter _) ?_
  intro k hk hk'
  simp only [List.mem_filter, decide_eq_true_eq] at hk'
  exact hk'.2 hk

/-- A session that leaves is gone, and no other one comes. -/
theorem length_sessionKeys_withoutKeys {k : ConversationStateKey}
    (hk : k ∈ sessionKeys turns clarifications) :
    (sessionKeys (turns.withoutKeys [k]) (clarifications.withoutKeys [k])).length <
      (sessionKeys turns clarifications).length := by
  have hsub : (k :: sessionKeys (turns.withoutKeys [k]) (clarifications.withoutKeys [k])) ⊆
      sessionKeys turns clarifications := by
    intro l hl
    rcases List.mem_cons.mp hl with rfl | hl
    · exact hk
    · simp only [mem_sessionKeys, FrozenMap.get_withoutKeys_eq_some] at hl ⊢
      exact hl.imp (fun ⟨v, hv⟩ => ⟨v, hv.1⟩) (fun ⟨v, hv⟩ => ⟨v, hv.1⟩)
  have hnodup : (k :: sessionKeys (turns.withoutKeys [k])
      (clarifications.withoutKeys [k])).Nodup := by
    refine List.nodup_cons.mpr ⟨?_, nodup_sessionKeys⟩
    simp [mem_sessionKeys]
  exact (List.subperm_of_subset hnodup hsub).length_le

theorem length_stateSessionEvictionOrder :
    (stateSessionEvictionOrder turns clarifications).length =
      (sessionKeys turns clarifications).length := by
  simp [stateSessionEvictionOrder]

/-- With a turn of the loop for every session, the loop ends within the capacity. -/
theorem evictSessions_length {pending : FrozenMap ConversationStateKey RecordKey}
    {capacity fuel : ℕ} (hfuel : (sessionKeys turns clarifications).length ≤ fuel)
    (h : evictSessions pending capacity fuel turns clarifications = .ok (turns', clarifications')) :
    (sessionKeys turns' clarifications').length ≤ capacity := by
  induction fuel generalizing turns clarifications with
  | zero =>
    cases h
    omega
  | succ fuel ih =>
    have hlength : (stateSessionEvictionOrder turns clarifications).length =
        (sessionKeys turns clarifications).length := length_stateSessionEvictionOrder
    unfold evictSessions at h
    split at h
    · next hnil =>
      cases h
      rw [hnil, List.length_nil] at hlength
      omega
    · next _ _ victim rest hcons =>
      rw [hcons, List.length_cons] at hlength
      split_ifs at h with hroom
      · cases h
        omega
      · have hvictim : victim ∈ sessionKeys turns clarifications := by
          have hmem : ∃ t b, (t, b, victim) ∈ stateSessionEvictionOrder turns clarifications := by
            rw [hcons]
            exact ⟨_, _, List.mem_cons_self⟩
          obtain ⟨t, b, hmem⟩ := hmem
          simp only [stateSessionEvictionOrder, List.mem_insertionSort, List.mem_map,
            Prod.mk.injEq] at hmem
          obtain ⟨k, hk, _, _, rfl⟩ := hmem
          exact hk
        have hless := length_sessionKeys_withoutKeys hvictim
        exact ih (by omega) h

theorem length_sessionKeys_le :
    (sessionKeys turns clarifications).length ≤ turns.size + clarifications.size := by
  have hfilter : (clarifications.keys.filter (· ∉ turns.keys)).length ≤
      clarifications.keys.length :=
    List.length_filter_le _ _
  simp only [FrozenMap.keys, List.length_map] at hfilter
  simp only [sessionKeys, List.length_append, FrozenMap.size, FrozenMap.keys, List.length_map]
  omega

end

theorem enforceSessionCapacity_ok {root candidate : CoordinatorStateRootV1} {capacity : ℕ}
    (h : enforceSessionCapacity root capacity = .ok candidate) :
    ∃ victims, candidate = withoutUnpinnedRevisions (withoutSessions root victims) ∧
      (sessionsOf (withoutSessions root victims)).length ≤ capacity := by
  unfold enforceSessionCapacity at h
  split at h
  · cases h
  · next turns clarifications hevict =>
    have hlength := evictSessions_length length_sessionKeys_le hevict
    obtain ⟨victims, rfl, rfl⟩ := evictSessions_ok hevict
    exact ⟨victims, (Except.ok.inj h).symm, hlength⟩

theorem commitReplyCandidate_ok {root candidate : CoordinatorStateRootV1}
    {proposal : ReplyCommitProposalV1} {readings : CommitReadings} {response : ReplyResponse}
    (h : commitReplyCandidate setup.config setup.sha256 root proposal readings =
      .ok (candidate, response)) :
    response = issuedResponse proposal readings ∧
      RootStep setup root (.commit proposal readings) (published candidate) := by
  unfold commitReplyCandidate at h
  split at h
  · cases h
  · next revision hguards =>
    simp only at h
    split_ifs at h with hindexed hkind hclarification
    split at h
    · cases h
    · next audit haudit =>
      split at h
      · cases h
      · next root' hsessions =>
        cases h
        obtain ⟨pending, admitted⟩ := commitGuards_ok hguards
        obtain ⟨victims, rfl, hsize⟩ := enforceSessionCapacity_ok hsessions
        refine ⟨rfl, ?_⟩
        rw [published_withoutUnpinnedRevisions]
        refine .commit admitted ?_ (not_not.mp hkind) (not_not.mp hclarification) haudit hsize
        exact FrozenMap.contains_eq_false_iff.mp (Bool.not_eq_true _ ▸ hindexed)

/-- Only an unknown request of an idle conversation gets a new reservation. -/
theorem existingReservationResult_none {root : CoordinatorStateRootV1}
    {stateKey : ConversationStateKey} {requestId requestHash : String} {replayEligible : Bool}
    (h : existingReservationResult root stateKey requestId requestHash replayEligible = .ok none) :
    root.issuedRecords.get ⟨stateKey, requestId⟩ = none ∧
      root.pendingRequestByState.get stateKey = none := by
  unfold existingReservationResult at h
  split at h
  · next existing _ =>
    cases existing
    · simp only at h
      split_ifs at h
    · simp only at h
      split_ifs at h
      cases h
  · next hnone =>
    split_ifs at h with hidle
    exact ⟨hnone, FrozenMap.contains_eq_false_iff.mp (Bool.not_eq_true _ ▸ hidle)⟩

/-- The reservation that a caller gets for the record in the root. -/
def newReservation (config : CoordinatorConfigV1) (root : CoordinatorStateRootV1)
    (stateKey : ConversationStateKey) (requestId requestHash : String) (replayEligible : Bool)
    (readings : ReserveReadings) : NewReplyReservationV1 where
  stateKey := stateKey
  requestId := requestId
  requestHash := requestHash
  replayEligible := replayEligible
  ownerToken := readings.ownerToken
  revisionEpoch := (reservedRevision config root stateKey readings).revisionEpoch
  stateRevision := (reservedRevision config root stateKey readings).revision

/-- What exists under the request is replayed, never reserved again. -/
theorem existingReservationResult_ne_new {root : CoordinatorStateRootV1}
    {stateKey : ConversationStateKey} {requestId requestHash : String} {replayEligible : Bool}
    {reservation : NewReplyReservationV1} :
    existingReservationResult root stateKey requestId requestHash replayEligible ≠
      .ok (some (.new reservation)) := by
  unfold existingReservationResult
  split
  · next existing _ =>
    cases existing <;> simp only <;> split_ifs <;> simp
  · split_ifs <;> simp

theorem existingReservationResult_of_none {root : CoordinatorStateRootV1}
    {stateKey : ConversationStateKey} {requestId : String} (requestHash : String)
    (replayEligible : Bool) (hnone : root.issuedRecords.get ⟨stateKey, requestId⟩ = none)
    (hidle : root.pendingRequestByState.get stateKey = none) :
    existingReservationResult root stateKey requestId requestHash replayEligible = .ok none := by
  simp [existingReservationResult, hnone, FrozenMap.contains_eq_false_iff.mpr hidle]

theorem reserveReplyCandidate_ok {root candidate : CoordinatorStateRootV1}
    {stateKey : ConversationStateKey} {requestId requestHash : String} {replayEligible : Bool}
    {readings : ReserveReadings} {reservation : ReservationResultV1}
    (h : reserveReplyCandidate setup.config root stateKey requestId requestHash replayEligible
      readings = .ok (some candidate, reservation)) :
    reservation = .new (newReservation setup.config root stateKey requestId requestHash
      replayEligible readings) ∧
    RootStep setup root (.reserve stateKey requestId requestHash replayEligible readings)
      (published candidate) := by
  unfold reserveReplyCandidate at h
  split at h
  · cases h
  · cases h
  · next hexisting =>
    cases h
    obtain ⟨hnone, hidle⟩ := existingReservationResult_none hexisting
    exact ⟨rfl, .reserve hnone hidle⟩

theorem abortReplyCandidate_ok {root candidate : CoordinatorStateRootV1}
    {stateKey : ConversationStateKey} {requestId : String} {ownerToken : Bytes}
    (h : abortReplyCandidate root stateKey requestId ownerToken = .ok candidate) :
    RootStep setup root (.abort stateKey requestId ownerToken) (published candidate) := by
  unfold abortReplyCandidate at h
  split at h
  · next pending hreserved =>
    split_ifs at h with howner
    cases h
    obtain rfl := not_not.mp howner
    exact .abort hreserved
  · cases h

theorem resolveFeedbackRecord_ok {root : CoordinatorStateRootV1} {stateKey : ConversationStateKey}
    {feedback : ActionFeedbackRequestV2} {record : CompleteIssuedResponseRecordV1}
    (h : resolveFeedbackRecord root stateKey feedback = .ok record) :
    lookup root stateKey feedback.responseId = .found record ∧
      record.requestId = feedback.requestId := by
  unfold resolveFeedbackRecord at h
  split at h
  · cases h
  · cases h
  · next found hfound =>
    split_ifs at h with hrequest
    cases h
    exact ⟨hfound, not_not.mp hrequest⟩

theorem prepareFeedbackCandidate_ok {root candidate : CoordinatorStateRootV1}
    {stateKey : ConversationStateKey} {feedback : ActionFeedbackRequestV2}
    {record : CompleteIssuedResponseRecordV1} {readings : PrepareReadings}
    {preparation : FeedbackPreparationV1}
    (hrecord : resolveFeedbackRecord root stateKey feedback = .ok record)
    (h : prepareFeedbackCandidate setup.config setup.sha256 root stateKey feedback record readings =
      .ok (some candidate, preparation)) :
    ∃ revision transitions,
      PrepareAdmitted root stateKey feedback record revision transitions ∧
      root.preparedFeedbackTokens.size < setup.config.issuedResponseCapacity ∧
      preparation = .prepared (preparedFeedback stateKey feedback
        (feedbackHash setup.sha256 feedback) record revision transitions readings) ∧
      candidate = withPreparedToken root (preparedFeedback stateKey feedback
        (feedbackHash setup.sha256 feedback) record revision transitions readings)
        readings.createdAtMonotonicNs := by
  obtain ⟨hfound, hrequest⟩ := resolveFeedbackRecord_ok hrecord
  unfold prepareFeedbackCandidate at h
  simp only at h
  split at h
  · split_ifs at h
    cases h
  · next hreceipt =>
    split at h
    · split_ifs at h
      cases h
    · next htoken =>
      by_cases hfull : setup.config.issuedResponseCapacity ≤ root.preparedFeedbackTokens.size
      · rw [if_pos hfull] at h
        cases h
      · rw [if_neg hfull] at h
        split at h
        · cases h
        · next revision hrevision =>
          split at h
          · cases h
          · next transitions htransitions =>
            cases h
            exact ⟨revision, transitions,
              ⟨hfound, hrequest, hreceipt, htoken, hrevision, htransitions⟩, not_le.mp hfull,
              rfl, rfl⟩

/-- A preparation that publishes nothing is the one whose token is stored. -/
theorem prepareFeedbackCandidate_stored {root : CoordinatorStateRootV1}
    {stateKey : ConversationStateKey} {feedback : ActionFeedbackRequestV2}
    {record : CompleteIssuedResponseRecordV1} {readings : PrepareReadings}
    {prepared : PreparedFeedbackV1}
    (h : prepareFeedbackCandidate setup.config setup.sha256 root stateKey feedback record readings =
      .ok (none, .prepared prepared)) :
    ∃ stored, root.preparedFeedbackTokens.get ⟨stateKey, feedback.feedbackId⟩ = some stored ∧
      stored.preparation = prepared := by
  unfold prepareFeedbackCandidate at h
  simp only at h
  split at h
  · split_ifs at h
    cases h
  · split at h
    · next stored hstored =>
      split_ifs at h
      cases h
      exact ⟨stored, hstored, rfl⟩
    · split_ifs at h
      split at h
      · cases h
      · split at h <;> cases h

theorem commitFeedbackCandidate_ok {root candidate : CoordinatorStateRootV1}
    {prepared : PreparedFeedbackV1} {nowMonotonicNs nowEpochMs : ℤ}
    {result : FeedbackCommitResultV1}
    (h : commitFeedbackCandidate setup.config setup.sha256 root prepared nowMonotonicNs nowEpochMs =
      .ok (candidate, result)) :
    RootStep setup root (.commitFeedback prepared nowMonotonicNs nowEpochMs)
      (published candidate) := by
  unfold commitFeedbackCandidate at h
  split at h
  · cases h
  · next record revision hinputs =>
    split_ifs at h with hroom
    cases h
    obtain ⟨stored, admitted⟩ := feedbackCommitInputs_ok hinputs
    push Not at hroom
    exact .commitFeedback admitted hroom.1 hroom.2

theorem issuedCapacityEvictionCandidate_ok {root candidate : CoordinatorStateRootV1}
    (h : issuedCapacityEvictionCandidate root setup.config.issuedResponseCapacity =
      .ok (some candidate)) :
    RootStep setup root .evict (published candidate) := by
  unfold issuedCapacityEvictionCandidate at h
  split_ifs at h with hsize
  · cases h
  split at h
  · cases h
  · next key record hvictim =>
    cases h
    exact .evict (not_lt.mp hsize) hvictim

theorem cleanupCandidate_some {root candidate : CoordinatorStateRootV1}
    {nowMonotonicNs nowEpochMs : ℤ}
    {removed : ℕ} (h : cleanupCandidate setup.config root nowMonotonicNs nowEpochMs =
      (some candidate, removed)) :
    RootStep setup root (.cleanup nowMonotonicNs nowEpochMs) (published candidate) := by
  unfold cleanupCandidate at h
  simp only at h
  split_ifs at h
  · cases h
  obtain ⟨hcandidate, _⟩ := Prod.mk.inj h
  obtain rfl := Option.some.inj hcandidate
  rw [published_withoutUnpinnedRevisions]
  exact .cleanup ..

/-! ## Operations -/

/-- The changes that an operation can publish, in their order. -/
def CoordinatorOperation.changes (operation : CoordinatorOperation) (draws : OperationDraws) :
    List Change :=
  match operation with
  | .reserveReply stateKey requestId requestHash replayEligible =>
    [.cleanup draws.cleanupMonotonicNs draws.cleanupEpochMs, .evict,
      .reserve stateKey requestId requestHash replayEligible draws.reserveReadings]
  | .abortReply stateKey requestId ownerToken => [.abort stateKey requestId ownerToken]
  | .commitReply proposal => [.commit proposal draws.commitReadings]
  | .prepareFeedback stateKey feedback =>
    [.cleanup draws.cleanupMonotonicNs draws.cleanupEpochMs,
      .prepare stateKey feedback draws.prepareReadings]
  | .commitFeedback prepared =>
    [.commitFeedback prepared draws.monotonicNs draws.epochMs, .drop prepared]
  | .cleanup => [.cleanup draws.cleanupMonotonicNs draws.cleanupEpochMs]
  | .lookupIssuedResponse .. | .readTurnAdmissionSnapshot .. => []

variable {c c' : Coordinator} {draws : OperationDraws}

/-- The root follows a path whose changes are among `allowed`, in this order. -/
def Follows (setup : CoordinatorSetup) (allowed : List Change)
    (root root' : CoordinatorStateRootV1) :
    Prop :=
  ∃ changes, changes.Sublist allowed ∧ RootPath setup root changes root'

theorem Follows.refl {allowed : List Change} (root : CoordinatorStateRootV1) :
    Follows setup allowed root root := ⟨[], List.nil_sublist _, .nil _⟩

theorem Follows.of_step {change : Change} {root root' : CoordinatorStateRootV1}
    (step : RootStep setup root change root') : Follows setup [change] root root' :=
  ⟨[change], List.Sublist.refl _, .single step⟩

theorem Follows.append {xs ys : List Change} {r₁ r₂ r₃ : CoordinatorStateRootV1}
    (h : Follows setup xs r₁ r₂) (h' : Follows setup ys r₂ r₃) :
    Follows setup (xs ++ ys) r₁ r₃ := by
  obtain ⟨as, hsub, path⟩ := h
  obtain ⟨bs, hsub', path'⟩ := h'
  exact ⟨as ++ bs, hsub.append hsub', path.append path'⟩

theorem Follows.mono {xs ys : List Change} {root root' : CoordinatorStateRootV1}
    (h : Follows setup xs root root') (hsub : xs.Sublist ys) : Follows setup ys root root' := by
  obtain ⟨as, hsub', path⟩ := h
  exact ⟨as, hsub'.trans hsub, path⟩

theorem Follows.single_cases {change : Change} {root root' : CoordinatorStateRootV1}
    (h : Follows setup [change] root root') : root' = root ∨ RootStep setup root change root' := by
  obtain ⟨changes, hsub, path⟩ := h
  rcases List.sublist_singleton.mp hsub with rfl | rfl
  · cases path
    exact .inl rfl
  · cases path with
    | cons step rest =>
      cases rest
      exact .inr step

/-- A publication follows its change when the published candidate is a step of it. -/
theorem publish_follows {operation : ReplyStateJournalOperationV1}
    {initiating : Option ConversationStateKey} {pubDraws : PublicationDraws}
    {candidate : CoordinatorStateRootV1} {result : Except CoordinatorException Unit}
    {change : Change} (step : RootStep setup c.root change (published candidate))
    (h : publish setup operation initiating pubDraws candidate c = (result, c')) :
    Follows setup [change] c.root c'.root := by
  obtain ⟨_, hroot, _⟩ | ⟨_, hroot⟩ := publish_cases h
  · rw [hroot]
    exact .of_step step
  · rw [hroot]
    exact .refl _

theorem publish_ok {operation : ReplyStateJournalOperationV1}
    {initiating : Option ConversationStateKey} {pubDraws : PublicationDraws}
    {candidate : CoordinatorStateRootV1} {u : Unit}
    (h : publish setup operation initiating pubDraws candidate c = (.ok u, c')) :
    c'.root = published candidate := by
  obtain ⟨_, hroot, _⟩ | ⟨⟨_, he⟩, _⟩ := publish_cases h
  · exact hroot
  · cases he

theorem publish_error {operation : ReplyStateJournalOperationV1}
    {initiating : Option ConversationStateKey} {pubDraws : PublicationDraws}
    {candidate : CoordinatorStateRootV1} {e : CoordinatorException}
    (h : publish setup operation initiating pubDraws candidate c = (.error e, c')) :
    c'.root = c.root := by
  obtain ⟨he, _⟩ | ⟨_, hroot⟩ := publish_cases h
  · cases he
  · exact hroot

theorem cleanupLocked_follows {nowMonotonicNs nowEpochMs : ℤ} {pubDraws : PublicationDraws}
    {result : Except CoordinatorException ℕ}
    (h : cleanupLocked setup nowMonotonicNs nowEpochMs pubDraws c = (result, c')) :
    Follows setup [.cleanup nowMonotonicNs nowEpochMs] c.root c'.root := by
  unfold cleanupLocked at h
  split at h
  · cases h
    exact .refl _
  · next candidate removed hcandidate =>
    have step := cleanupCandidate_some hcandidate
    split at h <;> cases h <;> exact publish_follows step ‹_›

theorem publishEviction_follows {result : Except CoordinatorException Unit}
    (h : publishEviction setup draws c = (result, c')) :
    Follows setup [.evict] c.root c'.root := by
  unfold publishEviction at h
  split at h
  · cases h
    exact .refl _
  · cases h
    exact .refl _
  · next eviction heviction =>
    exact publish_follows (issuedCapacityEvictionCandidate_ok heviction) h

/-- An eviction does not bring back a request or a reservation. -/
theorem publishEviction_existing {stateKey : ConversationStateKey} {requestId requestHash : String}
    {replayEligible : Bool} {result : Except CoordinatorException Unit}
    (h : publishEviction setup draws c = (result, c'))
    (hnone : existingReservationResult c.root stateKey requestId requestHash replayEligible =
      .ok none) :
    existingReservationResult c'.root stateKey requestId requestHash replayEligible = .ok none := by
  obtain ⟨hissued, hidle⟩ := existingReservationResult_none hnone
  obtain hroot | step := (publishEviction_follows h).single_cases
  · rwa [hroot]
  · generalize c'.root = root' at step ⊢
    cases step with
    | evict _ victim =>
      apply existingReservationResult_of_none
      · simp [withoutIssuedRecord, FrozenMap.get_withoutKeys, hissued]
      · exact hidle

/-- The coordinator after the cleanup with which an operation starts. -/
def afterCleanup (setup : CoordinatorSetup) (draws : OperationDraws) (c : Coordinator) :
    Coordinator :=
  (cleanupLocked setup draws.cleanupMonotonicNs draws.cleanupEpochMs draws.cleanupPublication c).2

theorem afterCleanup_follows :
    Follows setup [.cleanup draws.cleanupMonotonicNs draws.cleanupEpochMs]
    c.root (afterCleanup setup draws c).root := cleanupLocked_follows rfl

/-- What `reserve_reply` answered, and how it got there. -/
theorem reserveReply_cases {stateKey : ConversationStateKey} {requestId requestHash : String}
    {replayEligible : Bool} {result : Except CoordinatorException ReservationResultV1}
    (h : reserveReply setup stateKey requestId requestHash replayEligible draws c = (result, c')) :
    ((∃ e, result = .error e) ∧
      Follows setup [.evict] (afterCleanup setup draws c).root c'.root) ∨
    (∃ existing, result = .ok existing ∧
      existingReservationResult c'.root stateKey requestId requestHash replayEligible =
        .ok (some existing) ∧ c'.root = (afterCleanup setup draws c).root) ∨
    ∃ evicted, result = .ok (.new (newReservation setup.config evicted.root stateKey requestId
        requestHash replayEligible draws.reserveReadings)) ∧
      publishEviction setup draws (afterCleanup setup draws c) = (.ok (), evicted) ∧
      RootStep setup evicted.root (.reserve stateKey requestId requestHash replayEligible
        draws.reserveReadings) c'.root := by
  unfold reserveReply at h
  unfold afterCleanup
  split at h
  · next e c₁ hcleanup =>
    cases h
    rw [hcleanup]
    exact .inl ⟨⟨e, rfl⟩, .refl _⟩
  · next n c₁ hcleanup =>
    rw [hcleanup]
    split at h
    · next e hexisting =>
      cases h
      exact .inl ⟨⟨e, rfl⟩, .refl _⟩
    · next existing hexisting =>
      cases h
      exact .inr (.inl ⟨existing, rfl, hexisting, rfl⟩)
    · next hexisting =>
      split at h
      · next e c₂ heviction =>
        cases h
        exact .inl ⟨⟨e, rfl⟩, publishEviction_follows heviction⟩
      · next u c₂ heviction =>
        have hevict := publishEviction_follows heviction
        unfold publishReservation at h
        split at h
        · next e _ =>
          cases h
          exact .inl ⟨⟨e, rfl⟩, hevict⟩
        · next reservation hcandidate =>
          have hnone := publishEviction_existing heviction hexisting
          simp [reserveReplyCandidate, hnone] at hcandidate
        · next candidate reservation hcandidate =>
          obtain ⟨hnew, step⟩ := reserveReplyCandidate_ok hcandidate
          split at h
          · next e c₃ hpublish =>
            cases h
            refine .inl ⟨⟨e, rfl⟩, ?_⟩
            rw [publish_error hpublish]
            exact hevict
          · next hpublish =>
            cases h
            refine .inr (.inr ⟨c₂, by rw [hnew], heviction, ?_⟩)
            rw [publish_ok hpublish]
            exact step

/-- What `abort_reply` answered, and how it got there. -/
theorem abortReply_cases {stateKey : ConversationStateKey} {requestId : String} {ownerToken : Bytes}
    {result : Except CoordinatorException Unit}
    (h : abortReply setup stateKey requestId ownerToken draws c = (result, c')) :
    ((∃ e, result = .error e) ∧ c'.root = c.root) ∨
    (result = .ok () ∧ RootStep setup c.root (.abort stateKey requestId ownerToken) c'.root) := by
  unfold abortReply at h
  split at h
  · next e _ =>
    cases h
    exact .inl ⟨⟨e, rfl⟩, rfl⟩
  · next candidate hcandidate =>
    obtain ⟨hok, hroot, _⟩ | herror := publish_cases h
    · refine .inr ⟨hok, ?_⟩
      rw [hroot]
      exact abortReplyCandidate_ok hcandidate
    · exact .inl herror

/-- What `commit_reply` answered, and how it got there. -/
theorem commitReply_cases {proposal : ReplyCommitProposalV1}
    {result : Except CoordinatorException ReplyResponse}
    (h : commitReply setup proposal draws c = (result, c')) :
    ((∃ e, result = .error e) ∧ c'.root = c.root) ∨
    (result = .ok (issuedResponse proposal draws.commitReadings) ∧
      RootStep setup c.root (.commit proposal draws.commitReadings) c'.root) := by
  unfold commitReply at h
  split at h
  · next e _ =>
    cases h
    exact .inl ⟨⟨e, rfl⟩, rfl⟩
  · next candidate response hcandidate =>
    obtain ⟨rfl, step⟩ := commitReplyCandidate_ok hcandidate
    split at h
    · next e c₁ hpublish =>
      cases h
      exact .inl ⟨⟨e, rfl⟩, publish_error hpublish⟩
    · next u c₁ hpublish =>
      cases h
      refine .inr ⟨rfl, ?_⟩
      rw [publish_ok hpublish]
      exact step

/-- What `prepare_feedback` answered, and how it got there: a refusal, a receipt, a token that
was stored before, or a new one. -/
theorem prepareFeedback_cases {stateKey : ConversationStateKey} {feedback : ActionFeedbackRequestV2}
    {result : Except CoordinatorException FeedbackPreparationV1}
    (h : prepareFeedback setup stateKey feedback draws c = (result, c')) :
    (((∃ e, result = .error e) ∨ ∃ receipt, result = .ok (.replay receipt)) ∧
      Follows setup [.cleanup draws.cleanupMonotonicNs draws.cleanupEpochMs] c.root c'.root) ∨
    (∃ stored, result = .ok (.prepared stored.preparation) ∧
      c'.root.preparedFeedbackTokens.get ⟨stateKey, feedback.feedbackId⟩ = some stored ∧
      Follows setup [.cleanup draws.cleanupMonotonicNs draws.cleanupEpochMs] c.root c'.root) ∨
    ∃ root record revision transitions,
      PrepareAdmitted root stateKey feedback record revision transitions ∧
      root.preparedFeedbackTokens.size < setup.config.issuedResponseCapacity ∧
      result = .ok (.prepared (preparedFeedback stateKey feedback
        (feedbackHash setup.sha256 feedback) record revision transitions draws.prepareReadings)) ∧
      Follows setup [.cleanup draws.cleanupMonotonicNs draws.cleanupEpochMs] c.root root ∧
      c'.root = published (withPreparedToken root (preparedFeedback stateKey feedback
        (feedbackHash setup.sha256 feedback) record revision transitions draws.prepareReadings)
        draws.createdAtMonotonicNs) := by
  unfold prepareFeedback at h
  split at h
  · next e c₁ hcleanup =>
    cases h
    exact .inl ⟨.inl ⟨e, rfl⟩, cleanupLocked_follows hcleanup⟩
  · next n c₁ hcleanup =>
    have hclean := cleanupLocked_follows hcleanup
    unfold prepareFeedbackLocked at h
    split at h
    · next e _ =>
      cases h
      exact .inl ⟨.inl ⟨e, rfl⟩, hclean⟩
    · next record hrecord =>
      split at h
      · next e _ =>
        cases h
        exact .inl ⟨.inl ⟨e, rfl⟩, hclean⟩
      · next preparation hcandidate =>
        cases h
        cases preparation with
        | replay receipt => exact .inl ⟨.inr ⟨receipt, rfl⟩, hclean⟩
        | prepared prepared =>
          obtain ⟨stored, hstored, rfl⟩ := prepareFeedbackCandidate_stored hcandidate
          exact .inr (.inl ⟨stored, rfl, hstored, hclean⟩)
      · next candidate preparation hcandidate =>
        obtain ⟨revision, transitions, admitted, room, rfl, rfl⟩ :=
          prepareFeedbackCandidate_ok hrecord hcandidate
        split at h
        · next e c₂ hpublish =>
          cases h
          refine .inl ⟨.inl ⟨e, rfl⟩, ?_⟩
          rw [publish_error hpublish]
          exact hclean
        · next u c₂ hpublish =>
          cases h
          exact .inr (.inr ⟨c₁.root, record, revision, transitions, admitted, room, rfl, hclean,
            publish_ok hpublish⟩)

/-- What `commit_feedback` answered, and how it got there. -/
theorem commitFeedback_cases {prepared : PreparedFeedbackV1}
    {result : Except CoordinatorException FeedbackCommitResultV1}
    (h : commitFeedback setup prepared draws c = (result, c')) :
    ((∃ e, result = .error e) ∧
      (c'.root = c.root ∨ (RootStep setup c.root (.drop prepared) c'.root ∧
      ∃ e, result = .error e ∧ requiresPreparedTokenDrop e = true))) ∨
    ((∃ value, result = .ok value) ∧ RootStep setup c.root
      (.commitFeedback prepared draws.monotonicNs draws.epochMs) c'.root) := by
  unfold commitFeedback at h
  split at h
  · next e _ =>
    unfold dropPreparedToken at h
    split_ifs at h with hdrop
    · split at h
      · next e' c₁ hpublish =>
        cases h
        exact .inl ⟨⟨e', rfl⟩, .inl (publish_error hpublish)⟩
      · next u c₁ hpublish =>
        cases h
        refine .inl ⟨⟨e, rfl⟩, .inr ⟨?_, e, rfl, hdrop⟩⟩
        rw [publish_ok hpublish]
        exact .drop prepared
    · cases h
      exact .inl ⟨⟨e, rfl⟩, .inl rfl⟩
  · next candidate value hcandidate =>
    split at h
    · next e c₁ hpublish =>
      cases h
      exact .inl ⟨⟨e, rfl⟩, .inl (publish_error hpublish)⟩
    · next u c₁ hpublish =>
      cases h
      refine .inr ⟨⟨value, rfl⟩, ?_⟩
      rw [publish_ok hpublish]
      exact commitFeedbackCandidate_ok hcandidate

/-- Every operation follows a path of its own changes. -/
theorem runOperation_follows (setup : CoordinatorSetup) (operation : CoordinatorOperation)
    (draws : OperationDraws) (c : Coordinator) : Follows setup (operation.changes draws) c.root
      (runOperation setup operation draws c).2.root := by
  cases operation with
  | reserveReply stateKey requestId requestHash replayEligible =>
    rcases hx : reserveReply setup stateKey requestId requestHash replayEligible draws c with
      ⟨result, c'⟩
    have hroot : (runOperation setup (.reserveReply stateKey requestId requestHash replayEligible)
        draws c).2.root = c'.root := by
      simp [runOperation, outcome, hx]
    rw [hroot]
    obtain ⟨_, hf⟩ | ⟨_, _, _, hsame⟩ | ⟨root, _, hf, step⟩ := reserveReply_cases hx
    · exact (afterCleanup_follows.append hf).mono (by simp [CoordinatorOperation.changes])
    · rw [hsame]
      exact afterCleanup_follows.mono (by simp [CoordinatorOperation.changes])
    · exact (afterCleanup_follows.append (publishEviction_follows hf)).append (.of_step step)
  | abortReply stateKey requestId ownerToken =>
    obtain ⟨_, hroot⟩ | ⟨_, step⟩ := abortReply_cases
      (rfl : abortReply setup stateKey requestId ownerToken draws c = _)
    · exact ⟨[], List.nil_sublist _, hroot ▸ .nil _⟩
    · exact .of_step step
  | commitReply proposal =>
    obtain ⟨_, hroot⟩ | ⟨_, step⟩ := commitReply_cases
      (rfl : commitReply setup proposal draws c = _)
    · exact ⟨[], List.nil_sublist _, hroot ▸ .nil _⟩
    · exact .of_step step
  | prepareFeedback stateKey feedback =>
    rcases hx : prepareFeedback setup stateKey feedback draws c with ⟨result, c'⟩
    have hroot : (runOperation setup (.prepareFeedback stateKey feedback) draws c).2.root =
        c'.root := by
      simp [runOperation, outcome, hx]
    rw [hroot]
    obtain ⟨_, hf⟩ | ⟨_, _, _, hf⟩ | ⟨root, _, _, _, admitted, room, _, hf, hc⟩ :=
      prepareFeedback_cases hx
    · exact hf.mono (by simp [CoordinatorOperation.changes])
    · exact hf.mono (by simp [CoordinatorOperation.changes])
    · rw [hc]
      exact hf.append (.of_step (.prepare admitted room))
  | commitFeedback prepared =>
    obtain ⟨_, hroot | ⟨step, _⟩⟩ | ⟨_, step⟩ := commitFeedback_cases
      (rfl : commitFeedback setup prepared draws c = _)
    · exact ⟨[], List.nil_sublist _, hroot ▸ .nil _⟩
    · exact (Follows.of_step step).mono (by simp [CoordinatorOperation.changes])
    · exact (Follows.of_step step).mono (by simp [CoordinatorOperation.changes])
  | cleanup =>
    exact cleanupLocked_follows (rfl : cleanup setup draws c = _)
  | lookupIssuedResponse stateKey responseId => exact .refl _
  | readTurnAdmissionSnapshot stateKey par1 grh1 bsh1 => exact .refl _

end MarketSupport
