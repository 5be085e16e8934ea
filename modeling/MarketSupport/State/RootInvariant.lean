import MarketSupport.Library.Index
import MarketSupport.State.CoordinatorRuns

/-!
# The root invariant

What every published root satisfies: both indexes are exact, every conversation with an
entry has a revision, and a stored token still fits the record it was prepared for as long as
the revision has not moved on.

## Main results

* `RootStep.rootInvariant` — every guarded publication keeps the invariant.
* `RootInvariant.of_run` — every reachable root satisfies it.
-/

namespace MarketSupport

open Library

/-- The conversation whose turn a record reserves. -/
def IssuedResponseRecordV1.reserves? : IssuedResponseRecordV1 → Option ConversationStateKey
  | .pending r => some r.stateKey
  | .complete _ => none

/-- The response id under which a record is found. -/
def IssuedResponseRecordV1.responseId? : IssuedResponseRecordV1 → Option String
  | .pending _ => none
  | .complete r => some r.response.responseId

/-- What feedback depends on: two versions of one record agree on it while no feedback is
committed. -/
structure SameIssue (a b : CompleteIssuedResponseRecordV1) : Prop where
  response : a.response = b.response
  requestId : a.requestId = b.requestId
  effects : a.effects = b.effects

/-- The preparation fits the root, unless the revision has passed the one it quotes. -/
structure Current (root : CoordinatorStateRootV1) (prepared : PreparedFeedbackV1) : Prop where
  reached : ∀ {revision}, root.stateRevisions.get prepared.stateKey = some revision →
    revision.revisionEpoch = prepared.revisionEpoch ∧
      prepared.expectedStateRevision ≤ revision.revision
  unchanged : ∀ {revision}, root.stateRevisions.get prepared.stateKey = some revision →
    revision.revision = prepared.expectedStateRevision → ∀ {key record},
      root.issuedRecords.get key = some (.complete record) → key.stateKey = prepared.stateKey →
      record.response.responseId = prepared.responseId →
      record.requestId = prepared.requestId ∧
        ∃ feedback, prepareEffectTransitions record feedback = .ok prepared.transitions

structure RootInvariant (root : CoordinatorStateRootV1) : Prop where
  keyed : ∀ {key record}, root.issuedRecords.get key = some record →
    record.stateKey = key.stateKey ∧ record.requestId = key.ident
  pending : Indexes root.pendingRequestByState root.issuedRecords (·.reserves?)
  responses : Indexes root.responseIndex root.issuedRecords (·.responseId?)
  revisions : ∀ {k}, Pinned root k → ∃ revision, root.stateRevisions.get k = some revision
  lockstep : ∀ {key record}, root.issuedRecords.get key = some (.complete record) →
    Lockstep record.effects
  tokenKey : ∀ {key token}, root.preparedFeedbackTokens.get key = some token →
    token.preparation.tokenKey = key
  tokens : ∀ {key token}, root.preparedFeedbackTokens.get key = some token →
    Current root token.preparation

theorem RootInvariant.empty : RootInvariant emptyCoordinatorRoot where
  keyed h := by simp [emptyCoordinatorRoot] at h
  pending := Indexes.empty _
  responses := Indexes.empty _
  revisions h := by cases h <;> simp_all [emptyCoordinatorRoot]
  lockstep h := by simp [emptyCoordinatorRoot] at h
  tokenKey h := by simp [emptyCoordinatorRoot] at h
  tokens h := by simp [emptyCoordinatorRoot] at h

/-! ## Frames -/

theorem Current.mono {a b : CoordinatorStateRootV1} {prepared : PreparedFeedbackV1}
    (h : Current a prepared) (revision : ∀ {r}, b.stateRevisions.get prepared.stateKey = some r →
      ∃ r', a.stateRevisions.get prepared.stateKey = some r' ∧ r'.revisionEpoch = r.revisionEpoch ∧
        r'.revision = r.revision)
    (records : ∀ {key record}, b.issuedRecords.get key = some (.complete record) →
      key.stateKey = prepared.stateKey →
      ∃ before, a.issuedRecords.get key = some (.complete before) ∧ SameIssue record before) :
    Current b prepared := by
  constructor
  · intro r hr
    obtain ⟨r', hr', hepoch, hrev⟩ := revision hr
    rw [← hepoch, ← hrev]
    exact h.reached hr'
  · intro r hr hver key record hget hkey hid
    obtain ⟨r', hr', _, hrev⟩ := revision hr
    obtain ⟨before, hbefore, same⟩ := records hget hkey
    obtain ⟨hreq, feedback, hprep⟩ := h.unchanged hr' (hrev.trans hver) hbefore hkey
      (same.response ▸ hid)
    exact ⟨same.requestId.trans hreq, feedback,
      (prepareEffectTransitions_congr same.effects feedback).trans hprep⟩

/-- After a bump no preparation of the conversation quotes the current revision. -/
theorem Current.bump {a b : CoordinatorStateRootV1} {prepared : PreparedFeedbackV1}
    {r r' : StateRevisionRecordV1} (h : Current a prepared)
    (before : a.stateRevisions.get prepared.stateKey = some r)
    (after : b.stateRevisions.get prepared.stateKey = some r')
    (epoch : r'.revisionEpoch = r.revisionEpoch) (bumped : r'.revision = r.revision + 1) :
    Current b prepared := by
  obtain ⟨hepoch, hle⟩ := h.reached before
  constructor
  · intro x hx
    obtain rfl := Option.some.inj (after.symm.trans hx)
    exact ⟨epoch.trans hepoch, by omega⟩
  · intro x hx hver
    obtain rfl := Option.some.inj (after.symm.trans hx)
    omega

theorem SameIssue.refl (record : CompleteIssuedResponseRecordV1) : SameIssue record record :=
  ⟨rfl, rfl, rfl⟩

theorem sameIssue_retainedReceipts (now : ℤ) (record : CompleteIssuedResponseRecordV1) :
    SameIssue (retainedReceipts now record) record := ⟨rfl, rfl, rfl⟩

/-- Publication itself keeps the invariant: it only removes ledger rows and revisions that
nothing pins. -/
theorem RootInvariant.published {root : CoordinatorStateRootV1} (h : RootInvariant root) :
    RootInvariant (published root) where
  keyed := h.keyed
  pending := h.pending
  responses := h.responses
  revisions hk := by
    rw [published_stateRevisions_of_pinned hk]
    exact h.revisions hk.of_published
  lockstep := h.lockstep
  tokenKey := h.tokenKey
  tokens hget := (h.tokens hget).mono
    (fun hr => ⟨_, (published_stateRevisions_sub hr).1, rfl, rfl⟩)
    (fun hrec _ => ⟨_, hrec, SameIssue.refl _⟩)

/-! ## Candidates keep the invariant -/

variable {root : CoordinatorStateRootV1}

theorem RootInvariant.withoutExpired (h : RootInvariant root) (config : CoordinatorConfigV1)
    (mono epoch : ℤ) : RootInvariant (withoutExpired config root mono epoch) where
  keyed {key record} hget := by
    cases record with
    | pending r => exact h.keyed (get_withoutExpired_pendingRecord.mp hget).1
    | complete r =>
      obtain ⟨before, hbefore, _, rfl⟩ := get_withoutExpired_complete.mp hget
      have hkeyed := h.keyed hbefore
      exact hkeyed
  pending := by
    refine h.pending.filterMap ?_ ?_
    · intro key v w _ hw
      unfold retainedIssuedRecord at hw
      split_ifs at hw
      cases v <;> cases hw <;> rfl
    · intro k
      simp only [mem_keysWhere, expiredKeys, decide_eq_true_eq, h.pending.get_iff,
        retainedIssuedRecord_eq_none]
      constructor
      · rintro ⟨key, ⟨v, hv, hk⟩, w, hw, hexp⟩
        obtain rfl := Option.some.inj (hv.symm.trans hw)
        exact ⟨key, v, hv, hexp, hk⟩
      · rintro ⟨key, v, hv, hexp, hk⟩
        exact ⟨key, ⟨v, hv, hk⟩, v, hv, hexp⟩
  responses := by
    refine h.responses.filterMap ?_ ?_
    · intro key v w _ hw
      unfold retainedIssuedRecord at hw
      split_ifs at hw
      cases v <;> cases hw <;> rfl
    · intro id
      simp only [List.mem_map, mem_expiredCompleteRecords, retainedIssuedRecord_eq_none]
      constructor
      · rintro ⟨record, ⟨key, hkey, hexp⟩, hid⟩
        exact ⟨key, _, hkey, hexp, congrArg some hid⟩
      · rintro ⟨key, v, hv, hexp, hid⟩
        cases v with
        | pending r => cases hid
        | complete r => exact ⟨r, ⟨key, hv, hexp⟩, Option.some.inj hid⟩
  revisions hk := by
    refine h.revisions (hk.mono {
      turns := ?_
      clarification := fun hv => ⟨_, (get_withoutExpired_clarifications.mp hv).1⟩
      issued := ?_
      receipt := fun hv => ⟨_, (get_withoutExpired_receipts.mp hv).1⟩
      token := fun hv => ⟨_, (get_withoutExpired_tokens.mp hv).1⟩
      ledger := fun hv => ⟨_, (get_withoutExpired_ledger.mp hv).1⟩
      audit := fun hv => ⟨_, (get_withoutExpired_audits.mp hv).1⟩ })
    · intro v hv
      obtain ⟨before, hbefore, _⟩ := get_withoutExpired_turns.mp hv
      exact ⟨before, hbefore⟩
    · intro ident v hv
      rw [get_withoutExpired_issued] at hv
      obtain ⟨before, hbefore, _⟩ := Option.bind_eq_some_iff.mp hv
      exact ⟨before, hbefore⟩
  lockstep hget := by
    obtain ⟨before, hbefore, _, rfl⟩ := get_withoutExpired_complete.mp hget
    have hlockstep := h.lockstep hbefore
    exact hlockstep
  tokenKey hget := h.tokenKey (get_withoutExpired_tokens.mp hget).1
  tokens hget := by
    refine (h.tokens (get_withoutExpired_tokens.mp hget).1).mono (fun hr => ⟨_, hr, rfl, rfl⟩) ?_
    intro key record hrec _
    obtain ⟨before, hbefore, _, rfl⟩ := get_withoutExpired_complete.mp hrec
    exact ⟨before, hbefore, sameIssue_retainedReceipts ..⟩


theorem RootInvariant.withoutIssuedRecord (h : RootInvariant root) {key : RecordKey}
    {record : CompleteIssuedResponseRecordV1}
    (hget : root.issuedRecords.get key = some (.complete record)) :
    RootInvariant (withoutIssuedRecord root key record) where
  keyed hrec := h.keyed (FrozenMap.get_withoutKeys_eq_some.mp hrec).1
  pending := by
    have hpending := h.pending.withoutKey hget
    rwa [show (IssuedResponseRecordV1.complete record).reserves?.toList = [] from rfl,
      FrozenMap.withoutKeys_nil] at hpending
  responses := h.responses.withoutKey hget
  revisions hk := h.revisions
    (hk.mono { issued := fun hv => ⟨_, (FrozenMap.get_withoutKeys_eq_some.mp hv).1⟩ })
  lockstep hrec := h.lockstep (FrozenMap.get_withoutKeys_eq_some.mp hrec).1
  tokenKey := h.tokenKey
  tokens htok := (h.tokens htok).mono (fun hr => ⟨_, hr, rfl, rfl⟩)
    (fun hrec _ => ⟨_, (FrozenMap.get_withoutKeys_eq_some.mp hrec).1, SameIssue.refl _⟩)

theorem RootInvariant.withoutReservation (h : RootInvariant root) {k : ConversationStateKey}
    {requestId : String} {pending : PendingIssuedResponseRecordV1}
    (hget : root.issuedRecords.get ⟨k, requestId⟩ = some (.pending pending)) :
    RootInvariant (withoutReservation root k requestId) where
  keyed hrec := h.keyed (FrozenMap.get_withoutKeys_eq_some.mp hrec).1
  pending := by
    have hkey : pending.stateKey = k := (h.keyed hget).1
    have hpending := h.pending.withoutKey hget
    rwa [show (IssuedResponseRecordV1.pending pending).reserves?.toList =
      [pending.stateKey] from rfl,
      hkey] at hpending
  responses := by
    have hresponses := h.responses.withoutKey hget
    rwa [show (IssuedResponseRecordV1.pending pending).responseId?.toList = [] from rfl,
      FrozenMap.withoutKeys_nil] at hresponses
  revisions hk := h.revisions
    (hk.mono { issued := fun hv => ⟨_, (FrozenMap.get_withoutKeys_eq_some.mp hv).1⟩ })
  lockstep hrec := h.lockstep (FrozenMap.get_withoutKeys_eq_some.mp hrec).1
  tokenKey := h.tokenKey
  tokens htok := (h.tokens htok).mono (fun hr => ⟨_, hr, rfl, rfl⟩)
    (fun hrec _ => ⟨_, (FrozenMap.get_withoutKeys_eq_some.mp hrec).1, SameIssue.refl _⟩)

theorem RootInvariant.dropPreparedTokenCandidate (h : RootInvariant root)
    (prepared : PreparedFeedbackV1) : RootInvariant (dropPreparedTokenCandidate root prepared) where
  keyed := h.keyed
  pending := h.pending
  responses := h.responses
  revisions hk := h.revisions
    (hk.mono { token := fun hv => ⟨_, (FrozenMap.get_withoutKeys_eq_some.mp hv).1⟩ })
  lockstep := h.lockstep
  tokenKey htok := h.tokenKey (FrozenMap.get_withoutKeys_eq_some.mp htok).1
  tokens htok := (h.tokens (FrozenMap.get_withoutKeys_eq_some.mp htok).1).mono
    (fun hr => ⟨_, hr, rfl, rfl⟩) (fun hrec _ => ⟨_, hrec, SameIssue.refl _⟩)

theorem RecordKey.ne_of_stateKey {k l : ConversationStateKey} (h : k ≠ l) (a b : String) :
    (⟨k, a⟩ : RecordKey) ≠ ⟨l, b⟩ := fun he => h (congrArg RecordKey.stateKey he)

/-- A conversation with a revision gets no new one from a reservation. -/
theorem reservedRevision_of_some {config : CoordinatorConfigV1} {k : ConversationStateKey}
    {readings : ReserveReadings} {revision : StateRevisionRecordV1}
    (h : root.stateRevisions.get k = some revision) :
    reservedRevision config root k readings = revision := by
  simp [reservedRevision, h]

theorem RootInvariant.withReservation (h : RootInvariant root) (config : CoordinatorConfigV1)
    {k : ConversationStateKey} {requestId : String} (requestHash : String) (replayEligible : Bool)
    (readings : ReserveReadings) (new : root.issuedRecords.get ⟨k, requestId⟩ = none)
    (idle : root.pendingRequestByState.get k = none) :
    RootInvariant (withReservation config root k requestId requestHash replayEligible
      readings) where
  keyed {key record} hrec := by
    simp only [MarketSupport.withReservation, FrozenMap.get_insert] at hrec
    split_ifs at hrec with hkey
    · cases hrec
      exact ⟨(congrArg RecordKey.stateKey hkey).symm, (congrArg RecordKey.ident hkey).symm⟩
    · exact h.keyed hrec
  pending := h.pending.insert_new (by simp [new]) rfl idle
  responses := h.responses.insert_keep (by simp [new, IssuedResponseRecordV1.responseId?])
  revisions {l} hl := by
    by_cases hkl : l = k
    · subst hkl
      exact ⟨_, FrozenMap.get_insert_self ..⟩
    · simp only [MarketSupport.withReservation, FrozenMap.get_insert_of_ne _ _ hkl]
      refine h.revisions (hl.mono { issued := fun {ident v} hv => ⟨v, ?_⟩ })
      simpa [MarketSupport.withReservation, FrozenMap.get_insert_of_ne,
        RecordKey.ne_of_stateKey hkl] using hv
  lockstep {key record} hrec := by
    simp only [MarketSupport.withReservation, FrozenMap.get_insert] at hrec
    split_ifs at hrec
    · cases hrec
    · exact h.lockstep hrec
  tokenKey := h.tokenKey
  tokens {key token} htok := by
    refine (h.tokens htok).mono ?_ ?_
    · intro r hr
      refine ⟨r, ?_, rfl, rfl⟩
      simp only [MarketSupport.withReservation, FrozenMap.get_insert] at hr
      split_ifs at hr with hk
      · have hpin : Pinned root k := by
          have hkey := h.tokenKey htok
          rw [PreparedFeedbackV1.tokenKey, hk] at hkey
          exact .token (hkey ▸ htok)
        obtain ⟨revision, hrevision⟩ := h.revisions hpin
        rw [reservedRevision_of_some hrevision] at hr
        rw [hk, hrevision, hr]
      · exact hr
    · intro key' record hrec _
      simp only [MarketSupport.withReservation, FrozenMap.get_insert] at hrec
      split_ifs at hrec
      · cases hrec
      · exact ⟨record, hrec, .refl record⟩

theorem RootInvariant.withPreparedToken (h : RootInvariant root) {k : ConversationStateKey}
    {feedback : ActionFeedbackRequestV2} {record : CompleteIssuedResponseRecordV1}
    {revision : StateRevisionRecordV1} {transitions : List PreparedEffectTransitionV1}
    (admitted : PrepareAdmitted root k feedback record revision transitions) (digest : String)
    (readings : PrepareReadings) (createdAt : ℤ) :
    RootInvariant (withPreparedToken root
      (preparedFeedback k feedback digest record revision transitions readings) createdAt) where
  keyed := h.keyed
  pending := h.pending
  responses := h.responses
  revisions {l} hl := by
    by_cases hkl : l = k
    · exact ⟨revision, hkl ▸ admitted.current⟩
    · refine h.revisions (hl.mono { token := fun {ident v} hv => ⟨v, ?_⟩ })
      simpa [MarketSupport.withPreparedToken, FrozenMap.get_insert_of_ne,
        PreparedFeedbackV1.tokenKey,
        preparedFeedback, RecordKey.ne_of_stateKey hkl] using hv
  lockstep := h.lockstep
  tokenKey {key token} htok := by
    simp only [MarketSupport.withPreparedToken, FrozenMap.get_insert] at htok
    split_ifs at htok with hkey
    · cases htok
      exact hkey.symm
    · exact h.tokenKey htok
  tokens {key token} htok := by
    simp only [MarketSupport.withPreparedToken, FrozenMap.get_insert] at htok
    split_ifs at htok with hkey
    · cases htok
      constructor
      · intro r hr
        obtain rfl := Option.some.inj (admitted.current.symm.trans hr)
        exact ⟨rfl, le_refl _⟩
      · intro r _ _ key' record' hrec _ hid
        obtain ⟨found, hindex, _, hfound⟩ := lookup_eq_found.mp admitted.found
        -- The index is exact, so a live record with this response id is the one found.
        have hrec' : root.issuedRecords.get key' = some (.complete record') := hrec
        have hindex' := h.responses.get_of_value hrec' (congrArg some hid)
        obtain rfl := Option.some.inj (hindex.symm.trans hindex')
        obtain rfl : record = record' := by simpa [hfound] using hrec'
        exact ⟨admitted.request, feedback, admitted.valid⟩
    · exact (h.tokens htok).mono (fun hr => ⟨_, hr, rfl, rfl⟩)
        (fun hrec _ => ⟨_, hrec, .refl _⟩)

theorem auditRecordsWithRoom_sub {capacity : ℕ} {audits : FrozenMap RecordKey AuditRecordV1}
    {key : RecordKey} {record : AuditRecordV1}
    (h : (auditRecordsWithRoom capacity audits).get key = some record) :
    audits.get key = some record := by
  unfold auditRecordsWithRoom at h
  split_ifs at h
  · exact h
  · split at h
    · exact h
    · exact (FrozenMap.get_withoutKeys_eq_some.mp h).1

theorem committedClarifications_of_ne {sha256 : Sha256} {proposal : ReplyCommitProposalV1}
    {nowEpochMs : ℤ} {k : ConversationStateKey} (hk : k ≠ proposal.stateKey) :
    (committedClarifications sha256 root proposal nowEpochMs).get k =
      root.clarificationRecords.get k := by
  unfold committedClarifications
  split
  · exact FrozenMap.get_insert_of_ne _ _ hk
  · simp [FrozenMap.get_withoutKeys, hk]

theorem RootInvariant.committedRoot (h : RootInvariant root) (setup : CoordinatorSetup)
    {proposal : ReplyCommitProposalV1} (readings : CommitReadings)
    {revision : StateRevisionRecordV1}
    {pending : PendingIssuedResponseRecordV1} (audit : AuditRecordV1)
    (victims : List ConversationStateKey) (admitted : CommitAdmitted root proposal revision pending)
    (unused : root.responseIndex.get (issuedResponse proposal readings).responseId = none) :
    RootInvariant (committedRoot setup root proposal readings revision audit victims) where
  keyed {key record} hrec := by
    simp only [MarketSupport.committedRoot, withoutSessions, withCommittedReply,
      FrozenMap.get_insert] at hrec
    split_ifs at hrec with hkey
    · cases hrec
      exact ⟨(congrArg RecordKey.stateKey hkey).symm, (congrArg RecordKey.ident hkey).symm⟩
    · exact h.keyed hrec
  pending := by
    refine h.pending.insert_drop (i := proposal.stateKey) ?_ rfl
    have hkey : pending.stateKey = proposal.stateKey := (h.keyed admitted.reserved).1
    rw [admitted.reserved, Option.bind_some, IssuedResponseRecordV1.reserves?, hkey]
  responses := by
    refine h.responses.insert_new ?_ rfl unused
    rw [admitted.reserved, Option.bind_some, IssuedResponseRecordV1.responseId?]
  revisions {l} hl := by
    by_cases hkl : l = proposal.stateKey
    · subst hkl
      exact ⟨_, FrozenMap.get_insert_self ..⟩
    · simp only [MarketSupport.committedRoot, withoutSessions, withCommittedReply,
        FrozenMap.get_insert_of_ne _ _ hkl]
      refine h.revisions (hl.mono {
        turns := fun {v} hv => ⟨v, ?_⟩
        clarification := fun {v} hv => ⟨v, ?_⟩
        issued := fun {ident v} hv => ⟨v, ?_⟩
        audit := fun {ident v} hv => ⟨v, ?_⟩ })
      · simp only [MarketSupport.committedRoot, withoutSessions, withCommittedReply,
          FrozenMap.get_withoutKeys_eq_some, FrozenMap.get_insert_of_ne _ _ hkl] at hv
        exact hv.1
      · simp only [MarketSupport.committedRoot, withoutSessions, withCommittedReply,
          FrozenMap.get_withoutKeys_eq_some, committedClarifications_of_ne hkl] at hv
        exact hv.1
      · rwa [MarketSupport.committedRoot, withoutSessions, withCommittedReply,
          FrozenMap.get_insert_of_ne _ _ (RecordKey.ne_of_stateKey hkl _ _)] at hv
      · rw [MarketSupport.committedRoot, withoutSessions, withCommittedReply,
          FrozenMap.get_insert_of_ne _ _ (RecordKey.ne_of_stateKey hkl _ _)] at hv
        exact auditRecordsWithRoom_sub hv
  lockstep {key record} hrec := by
    simp only [MarketSupport.committedRoot, withoutSessions, withCommittedReply,
      FrozenMap.get_insert] at hrec
    split_ifs at hrec
    · cases hrec
      exact lockstep_deriveIssuedEffects _
    · exact h.lockstep hrec
  tokenKey := h.tokenKey
  tokens {key token} htok := by
    by_cases hk : token.preparation.stateKey = proposal.stateKey
    · have hafter : (MarketSupport.committedRoot setup root proposal readings revision audit
          victims).stateRevisions.get token.preparation.stateKey =
          some (revision.next setup.config readings.monotonicNs) := by
        rw [hk]
        exact FrozenMap.get_insert_self ..
      have hbefore : root.stateRevisions.get token.preparation.stateKey = some revision := by
        rw [hk]
        exact admitted.current
      exact (h.tokens htok).bump hbefore hafter rfl rfl
    · refine (h.tokens htok).mono (fun {r} hr => ⟨r, ?_, rfl, rfl⟩)
        fun {key record} hrec hkey => ⟨record, ?_, .refl record⟩
      · rwa [MarketSupport.committedRoot, withoutSessions, withCommittedReply,
          FrozenMap.get_insert_of_ne _ _ hk] at hr
      · rwa [MarketSupport.committedRoot, withoutSessions, withCommittedReply,
          FrozenMap.get_insert_of_ne _ _ (fun he => hk (by rw [← hkey, he]))] at hrec

/-- What feedback on a genuine token is applied to: the record under the quoted request,
with the effects that the transitions were computed from. -/
theorem RootInvariant.feedbackTarget (h : RootInvariant root) {prepared : PreparedFeedbackV1}
    {now : ℤ} {stored : PreparedFeedbackTokenRecordV1} {record : CompleteIssuedResponseRecordV1}
    {revision : StateRevisionRecordV1}
    (admitted : FeedbackAdmitted root prepared now stored record revision)
    (genuine : Genuine root prepared) :
    root.issuedRecords.get ⟨prepared.stateKey, prepared.requestId⟩ = some (.complete record) ∧
      record.response.responseId = prepared.responseId ∧
      ∃ feedback, prepareEffectTransitions record feedback = .ok prepared.transitions := by
  obtain ⟨key, hindex, hkey, hrec⟩ := lookup_eq_found.mp admitted.found
  have hstored := genuine stored admitted.token admitted.same
  have hid : record.response.responseId = prepared.responseId := by
    obtain ⟨v, hv, hid⟩ := h.responses.get_iff.mp hindex
    obtain rfl := Option.some.inj (hv.symm.trans hrec)
    exact Option.some.inj hid
  have hcurrent := h.tokens admitted.token
  rw [hstored] at hcurrent
  obtain ⟨hreq, feedback⟩ := hcurrent.unchanged admitted.current admitted.version hrec hkey hid
  have hident : record.requestId = key.ident := (h.keyed hrec).2
  refine ⟨?_, hid, feedback⟩
  rw [← hkey, ← hreq, hident]
  exact hrec

theorem RootInvariant.withCommittedFeedback (h : RootInvariant root) (config : CoordinatorConfigV1)
    (sha256 : Sha256) {prepared : PreparedFeedbackV1} {now : ℤ} (nowEpochMs : ℤ)
    {stored : PreparedFeedbackTokenRecordV1} {record : CompleteIssuedResponseRecordV1}
    {revision : StateRevisionRecordV1}
    (admitted : FeedbackAdmitted root prepared now stored record revision)
    (genuine : Genuine root prepared) : RootInvariant
      (withCommittedFeedback config sha256 root prepared record revision now nowEpochMs) := by
  obtain ⟨htarget, _, _⟩ := h.feedbackTarget admitted genuine
  constructor
  case keyed =>
    intro key r hrec
    simp only [MarketSupport.withCommittedFeedback, FrozenMap.get_insert] at hrec
    split_ifs at hrec with hkey
    · cases hrec
      have hkeyed := h.keyed htarget
      rwa [hkey]
    · exact h.keyed hrec
  case pending => exact h.pending.insert_keep (by rw [htarget]; rfl)
  case responses => exact h.responses.insert_keep (by rw [htarget]; rfl)
  case revisions =>
    intro l hl
    by_cases hkl : l = prepared.stateKey
    · subst hkl
      exact ⟨_, FrozenMap.get_insert_self ..⟩
    · simp only [MarketSupport.withCommittedFeedback, FrozenMap.get_insert_of_ne _ _ hkl]
      refine h.revisions (hl.mono {
        issued := fun {ident v} hv => ⟨v, ?_⟩
        receipt := fun {ident v} hv => ⟨v, ?_⟩
        token := fun {ident v} hv => ⟨v, (FrozenMap.get_withoutKeys_eq_some.mp hv).1⟩
        ledger := fun {responseId actionId v} hv => ⟨v, ?_⟩ })
      · rwa [MarketSupport.withCommittedFeedback,
          FrozenMap.get_insert_of_ne _ _ (RecordKey.ne_of_stateKey hkl _ _)] at hv
      · rwa [MarketSupport.withCommittedFeedback, PreparedFeedbackV1.tokenKey,
          FrozenMap.get_insert_of_ne _ _ (RecordKey.ne_of_stateKey hkl _ _)] at hv
      · rwa [MarketSupport.withCommittedFeedback, FrozenMap.get_withUpdates_of_notMem] at hv
        intro hmem
        have hkey : l = record.stateKey := (mem_deriveLedgerUpdates_key hmem).1
        have hrecord : record.stateKey = prepared.stateKey := (h.keyed htarget).1
        exact hkl (hkey.trans hrecord)
  case lockstep =>
    intro key r hrec
    simp only [MarketSupport.withCommittedFeedback, FrozenMap.get_insert] at hrec
    split_ifs at hrec
    · cases hrec
      exact (h.lockstep htarget).apply _
    · exact h.lockstep hrec
  case tokenKey => exact fun htok => h.tokenKey (FrozenMap.get_withoutKeys_eq_some.mp htok).1
  case tokens =>
    intro key token htok
    have htok' := (FrozenMap.get_withoutKeys_eq_some.mp htok).1
    by_cases hk : token.preparation.stateKey = prepared.stateKey
    · have hafter : (MarketSupport.withCommittedFeedback config sha256 root prepared record revision
          now nowEpochMs).stateRevisions.get token.preparation.stateKey =
          some (revision.next config now) := by
        rw [hk]
        exact FrozenMap.get_insert_self ..
      have hbefore : root.stateRevisions.get token.preparation.stateKey = some revision := by
        rw [hk]
        exact admitted.current
      exact (h.tokens htok').bump hbefore hafter rfl rfl
    · refine (h.tokens htok').mono (fun {r} hr => ⟨r, ?_, rfl, rfl⟩)
        fun {key record} hrec hkey => ⟨record, ?_, .refl record⟩
      · rwa [MarketSupport.withCommittedFeedback, FrozenMap.get_insert_of_ne _ _ hk] at hr
      · rwa [MarketSupport.withCommittedFeedback,
          FrozenMap.get_insert_of_ne _ _ (fun he => hk (by rw [← hkey, he]))] at hrec

/-! ## Steps and runs -/

variable {setup : CoordinatorSetup}

theorem issuedEvictionVictim_get {key : RecordKey} {record : CompleteIssuedResponseRecordV1}
    (h : issuedEvictionVictim root = some (key, record)) :
    root.issuedRecords.get key = some (.complete record) := by
  have hmem : (key, record) ∈ (completeRecords root.issuedRecords).entries := List.argmin_mem h
  have hget := FrozenMap.get_eq_some_iff.mpr hmem
  rw [completeRecords, FrozenMap.get_filterMap] at hget
  obtain ⟨r, hr, hc⟩ := Option.bind_eq_some_iff.mp hget
  rw [hr, IssuedResponseRecordV1.complete?_eq_some.mp hc]

/-- Every guarded publication keeps the root invariant. -/
theorem RootStep.rootInvariant {root' : CoordinatorStateRootV1} {change : Change}
    (step : RootStep setup root change root') (h : RootInvariant root)
    (guarded : Guarded genuineGuard root change) : RootInvariant root' := by
  cases step with
  | cleanup mono epoch => exact (h.withoutExpired setup.config mono epoch).published
  | evict _ victim => exact (h.withoutIssuedRecord (issuedEvictionVictim_get victim)).published
  | reserve new idle => exact (h.withReservation setup.config _ _ _ new idle).published
  | abort reserved => exact (h.withoutReservation reserved).published
  | commit admitted unused => exact (h.committedRoot setup _ _ _ admitted unused).published
  | prepare admitted => exact (h.withPreparedToken admitted _ _ _).published
  | commitFeedback admitted =>
    exact (h.withCommittedFeedback setup.config setup.sha256 _ admitted guarded).published
  | drop prepared => exact (h.dropPreparedTokenCandidate prepared).published

theorem RootInvariant.of_run {adm : List CoordinatorEvent → CoordinatorEvent → Prop}
    {es : List CoordinatorEvent} {c : Coordinator} (run : CoordinatorRun setup adm es c)
    (hadm : ∀ es e, adm es e → Admissible es e) : RootInvariant c.root :=
  run_root_invariant run hadm .empty fun guarded h step => step.rootInvariant h guarded

end MarketSupport
