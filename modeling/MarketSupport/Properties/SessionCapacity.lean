import MarketSupport.Identity.KeyBytes
import MarketSupport.Library.Except
import MarketSupport.Properties.Capacities
import MarketSupport.Properties.TurnOrdinals
import MarketSupport.State.Faults

/-!
# Session capacity

A commit that brings a new session to a full store evicts the first session of the eviction
order, and fails when that one is in mid-turn. Reachable roots are never over capacity, so one
eviction is enough.

## Main results

* `nextVictim_eq_some_iff` — which session is evicted first.
* `commit_retained_iff` — when a commit that passes its checks is retained.
-/

namespace MarketSupport

open Library

/-! ## The first victim -/

section Order

variable {turns : ConversationTurns} {clarifications : ClarificationRecords}
  {k v : ConversationStateKey}

/-- What the eviction order compares: the time of a session, then its bytes. -/
def evictionRank (turns : ConversationTurns) (clarifications : ClarificationRecords)
    (k : ConversationStateKey) : ℤ ×ₗ Bytes :=
  toLex (sessionEpochMs turns clarifications k, keyBytes k "")

/-- The session at the head of the eviction order. -/
def nextVictim (turns : ConversationTurns) (clarifications : ClarificationRecords) :
    Option ConversationStateKey :=
  (stateSessionEvictionOrder turns clarifications).head?.map (·.2.2)

theorem evictionRank_injective (h : evictionRank turns clarifications k =
    evictionRank turns clarifications v) : k = v :=
  keyBytes_injective "" (Prod.ext_iff.mp (toLex.injective h)).2

/-- The sessions in the eviction order. -/
def evictionOrder (turns : ConversationTurns) (clarifications : ClarificationRecords) :
    List ConversationStateKey :=
  (sessionKeys turns clarifications).insertionSort
    fun k l => evictionRank turns clarifications k ≤ evictionRank turns clarifications l

theorem stateSessionEvictionOrder_eq : stateSessionEvictionOrder turns clarifications =
    (evictionOrder turns clarifications).map fun k =>
      (sessionEpochMs turns clarifications k, keyBytes k "", k) := by
  refine (List.map_insertionSort _ _ _ _ ?_).symm
  exact fun _ _ _ _ => Iff.rfl

theorem nextVictim_eq_head? :
    nextVictim turns clarifications = (evictionOrder turns clarifications).head? := by
  rw [nextVictim, stateSessionEvictionOrder_eq, List.head?_map, Option.map_map]
  exact congrFun Option.map_id _

theorem mem_evictionOrder :
    k ∈ evictionOrder turns clarifications ↔ k ∈ sessionKeys turns clarifications :=
  List.mem_insertionSort _

theorem pairwise_evictionOrder : (evictionOrder turns clarifications).Pairwise
    fun k l => evictionRank turns clarifications k ≤ evictionRank turns clarifications l := by
  have : Std.Total fun k l : ConversationStateKey =>
      evictionRank turns clarifications k ≤ evictionRank turns clarifications l :=
    ⟨fun _ _ => le_total _ _⟩
  have : IsTrans ConversationStateKey fun k l =>
      evictionRank turns clarifications k ≤ evictionRank turns clarifications l :=
    ⟨fun _ _ _ => le_trans⟩
  exact List.pairwise_insertionSort _ _

/-- The session of least rank is evicted first. -/
theorem nextVictim_eq_some_iff : nextVictim turns clarifications = some v ↔
    v ∈ sessionKeys turns clarifications ∧ ∀ k ∈ sessionKeys turns clarifications,
      evictionRank turns clarifications v ≤ evictionRank turns clarifications k := by
  rw [nextVictim_eq_head?]
  have hsorted := @pairwise_evictionOrder turns clarifications
  have hmem := @mem_evictionOrder turns clarifications
  cases horder : evictionOrder turns clarifications with
  | nil =>
    simp only [horder, List.not_mem_nil, false_iff] at hmem
    simp [hmem]
  | cons first rest =>
    rw [horder, List.pairwise_cons] at hsorted
    have hfirst : ∀ k ∈ sessionKeys turns clarifications,
        evictionRank turns clarifications first ≤ evictionRank turns clarifications k := by
      intro k hk
      rcases List.mem_cons.mp (horder ▸ hmem.mpr hk) with rfl | hk
      · exact le_rfl
      · exact hsorted.1 k hk
    have hin : first ∈ sessionKeys turns clarifications :=
      hmem.mp (horder ▸ List.mem_cons_self)
    rw [List.head?_cons, Option.some.injEq]
    constructor
    · rintro rfl
      exact ⟨hin, hfirst⟩
    · rintro ⟨hv, hleast⟩
      exact evictionRank_injective ((hfirst v hv).antisymm (hleast first hin))

theorem exists_nextVictim (h : 0 < (sessionKeys turns clarifications).length) :
    ∃ v, nextVictim turns clarifications = some v := by
  rw [nextVictim, ← Option.isSome_iff_exists, Option.isSome_map, List.isSome_head?,
    ← List.length_pos_iff, length_stateSessionEvictionOrder]
  exact h

end Order

/-! ## Making room -/

section Room

variable {root : CoordinatorStateRootV1} {capacity : ℕ}

theorem evictSessions_within {pending : FrozenMap ConversationStateKey RecordKey} {fuel : ℕ}
    {turns : ConversationTurns} {clarifications : ClarificationRecords}
    (h : (sessionKeys turns clarifications).length ≤ capacity) :
    evictSessions pending capacity fuel turns clarifications = .ok (turns, clarifications) := by
  cases fuel with
  | zero => rfl
  | succ fuel =>
    have hlength : (stateSessionEvictionOrder turns clarifications).length =
        (sessionKeys turns clarifications).length := length_stateSessionEvictionOrder
    unfold evictSessions
    split
    · rfl
    · next hcons =>
      rw [hcons, List.length_cons] at hlength
      rw [if_pos (by omega)]

/-- Within the capacity nothing leaves. -/
theorem enforceSessionCapacity_within (h : (sessionsOf root).length ≤ capacity) :
    enforceSessionCapacity root capacity = .ok (withoutUnpinnedRevisions root) := by
  simp only [enforceSessionCapacity, evictSessions_within h]

theorem withoutSessions_nil : withoutSessions root [] = root := by
  simp only [withoutSessions, FrozenMap.withoutKeys_nil]

/-- One session over the capacity, the first victim leaves unless it is in mid-turn. -/
theorem enforceSessionCapacity_over {v : ConversationStateKey}
    (h : (sessionsOf root).length = capacity + 1)
    (hv : nextVictim root.conversationTurns root.clarificationRecords = some v) :
    enforceSessionCapacity root capacity = if root.pendingRequestByState.contains v then
        .error stateStoreUnavailable
      else .ok (withoutUnpinnedRevisions (withoutSessions root [v])) := by
  have hkeys : (sessionKeys root.conversationTurns root.clarificationRecords).length =
      capacity + 1 := h
  have hfuel := @length_sessionKeys_le root.conversationTurns root.clarificationRecords
  have hmem := (nextVictim_eq_some_iff.mp hv).1
  have hless := length_sessionKeys_withoutKeys hmem
  obtain ⟨fuel, hfuel⟩ : ∃ fuel, root.conversationTurns.size + root.clarificationRecords.size =
      fuel + 1 := ⟨_, (Nat.sub_add_cancel (by omega)).symm⟩
  obtain ⟨first, hfirst, rfl⟩ := Option.map_eq_some_iff.mp hv
  obtain ⟨rest, hcons⟩ := List.head?_eq_some_iff.mp hfirst
  have hrest : rest.length = capacity := by
    have hlength := @length_stateSessionEvictionOrder root.conversationTurns
      root.clarificationRecords
    rw [hcons, List.length_cons] at hlength
    omega
  simp only [enforceSessionCapacity, hfuel, evictSessions, hcons]
  rw [if_neg (by omega)]
  split_ifs with hpending
  · rfl
  · rw [evictSessions_within (Nat.lt_succ_iff.mp (hless.trans_eq hkeys))]
    rfl

end Room

/-! ## The sessions after a reply -/

section Replied

variable {setup : CoordinatorSetup} {root : CoordinatorStateRootV1}
  {proposal : ReplyCommitProposalV1} {epoch : ℤ}

/-- The turns with a reply in them, before sessions make room. -/
def repliedTurns (setup : CoordinatorSetup) (root : CoordinatorStateRootV1)
    (proposal : ReplyCommitProposalV1) (epoch : ℤ) : ConversationTurns :=
  root.conversationTurns.insert proposal.stateKey
    (committedTurns setup.config setup.sha256 root proposal epoch)

/-- The root with a reply in it, before sessions make room. -/
def repliedRoot (setup : CoordinatorSetup) (root : CoordinatorStateRootV1)
    (proposal : ReplyCommitProposalV1) (readings : CommitReadings)
    (revision : StateRevisionRecordV1) (audit : AuditRecordV1) : CoordinatorStateRootV1 :=
  withCommittedReply setup.config setup.sha256 root proposal revision
    (issuedResponse proposal readings) audit readings.monotonicNs readings.epochMs

section

variable {readings : CommitReadings} {revision : StateRevisionRecordV1} {audit : AuditRecordV1}

@[simp] theorem repliedRoot_conversationTurns :
    (repliedRoot setup root proposal readings revision audit).conversationTurns =
      repliedTurns setup root proposal readings.epochMs := rfl

@[simp] theorem repliedRoot_clarificationRecords :
    (repliedRoot setup root proposal readings revision audit).clarificationRecords =
      committedClarifications setup.sha256 root proposal readings.epochMs := rfl

@[simp] theorem sessionsOf_repliedRoot :
    sessionsOf (repliedRoot setup root proposal readings revision audit) =
      sessionKeys (repliedTurns setup root proposal readings.epochMs)
        (committedClarifications setup.sha256 root proposal readings.epochMs) := rfl

@[simp] theorem contains_pending_repliedRoot {k : ConversationStateKey} :
    (repliedRoot setup root proposal readings revision audit).pendingRequestByState.contains k =
      (decide (k ≠ proposal.stateKey) && root.pendingRequestByState.contains k) := by
  simp only [repliedRoot, withCommittedReply, FrozenMap.contains, FrozenMap.get_withoutKeys,
    List.mem_singleton]
  by_cases hk : k = proposal.stateKey <;> simp [hk]

/-- The session of the reply itself is idle once it is committed. -/
theorem enforceSessionCapacity_replied (readings : CommitReadings)
    (revision : StateRevisionRecordV1) (audit : AuditRecordV1) {v : ConversationStateKey}
    {capacity : ℕ} (h : (sessionKeys (repliedTurns setup root proposal readings.epochMs)
      (committedClarifications setup.sha256 root proposal readings.epochMs)).length = capacity + 1)
    (hv : nextVictim (repliedTurns setup root proposal readings.epochMs)
      (committedClarifications setup.sha256 root proposal readings.epochMs) = some v) :
    enforceSessionCapacity (repliedRoot setup root proposal readings revision audit) capacity =
      if v ≠ proposal.stateKey ∧ root.pendingRequestByState.contains v then
        .error stateStoreUnavailable
      else .ok (withoutUnpinnedRevisions (withoutSessions
        (repliedRoot setup root proposal readings revision audit) [v])) := by
  have hsessions : (sessionsOf (repliedRoot setup root proposal readings revision audit)).length =
      capacity + 1 := h
  rw [enforceSessionCapacity_over hsessions hv, contains_pending_repliedRoot]
  simp

end

/-- The time of a session that begins with the proposal. -/
def exchangeEpochMs (proposal : ReplyCommitProposalV1) (epoch : ℤ) : ℤ :=
  max epoch ((proposal.clarification.map fun _ => epoch).getD (-1))

/-- The rank of a session that begins with the proposal. -/
def exchangeRank (proposal : ReplyCommitProposalV1) (epoch : ℤ) : ℤ ×ₗ Bytes :=
  toLex (exchangeEpochMs proposal epoch, keyBytes proposal.stateKey "")

theorem mem_sessionKeys_replied {k : ConversationStateKey} :
    k ∈ sessionKeys (repliedTurns setup root proposal epoch)
        (committedClarifications setup.sha256 root proposal epoch) ↔
      k = proposal.stateKey ∨ k ∈ sessionsOf root := by
  simp only [sessionsOf, mem_sessionKeys, repliedTurns]
  by_cases hk : k = proposal.stateKey
  · subst hk
    simp
  · rw [FrozenMap.get_insert_of_ne _ _ hk, committedClarifications_of_ne hk]
    simp [hk]

theorem perm_sessionKeys_replied_of_mem (h : proposal.stateKey ∈ sessionsOf root) :
    (sessionKeys (repliedTurns setup root proposal epoch)
      (committedClarifications setup.sha256 root proposal epoch)).Perm (sessionsOf root) := by
  refine (List.perm_ext_iff_of_nodup nodup_sessionKeys nodup_sessionKeys).mpr fun k => ?_
  rw [mem_sessionKeys_replied]
  exact ⟨fun hk => hk.elim (· ▸ h) id, .inr⟩

theorem perm_sessionKeys_replied_of_notMem (h : proposal.stateKey ∉ sessionsOf root) :
    (sessionKeys (repliedTurns setup root proposal epoch)
      (committedClarifications setup.sha256 root proposal epoch)).Perm
        (proposal.stateKey :: sessionsOf root) := by
  have hnodup : (proposal.stateKey :: sessionsOf root).Nodup :=
    List.nodup_cons.mpr ⟨h, nodup_sessionKeys⟩
  refine (List.perm_ext_iff_of_nodup nodup_sessionKeys hnodup).mpr fun k => ?_
  rw [mem_sessionKeys_replied, List.mem_cons]

theorem evictionRank_replied_of_ne {k : ConversationStateKey} (hk : k ≠ proposal.stateKey) :
    evictionRank (repliedTurns setup root proposal epoch)
        (committedClarifications setup.sha256 root proposal epoch) k =
      evictionRank root.conversationTurns root.clarificationRecords k := by
  simp only [evictionRank, sessionEpochMs, repliedTurns, FrozenMap.get_insert_of_ne _ _ hk,
    committedClarifications_of_ne hk]

theorem evictionRank_replied_self (new : proposal.stateKey ∉ sessionsOf root) :
    evictionRank (repliedTurns setup root proposal epoch)
        (committedClarifications setup.sha256 root proposal epoch) proposal.stateKey =
      exchangeRank proposal epoch := by
  have hprior : priorTurns root proposal.stateKey = [] := by
    have hnone : root.conversationTurns.get proposal.stateKey = none := by
      rw [Option.eq_none_iff_forall_ne_some]
      exact fun turns hturns => new (mem_sessionKeys.mpr (.inl ⟨turns, hturns⟩))
    rw [priorTurns, hnone, Option.getD_none]
  have hturns : newestEpochMs (((repliedTurns setup root proposal epoch).get
      proposal.stateKey).getD [] |>.map (·.createdAtEpochMs)) = epoch := by
    have hmessages := setup.accepted.messages_pos
    rw [repliedTurns, FrozenMap.get_insert_self, Option.getD_some, committedTurns_eq, hprior]
    obtain hone | hmore : 2 - setup.config.conversationMaxMessages = 1 ∨
        2 - setup.config.conversationMaxMessages = 0 := by omega
    all_goals simp [newestEpochMs, keptTurns, exchangeTurns, userTurnRecord, assistantTurnRecord, *]
  have hclarification : (((committedClarifications setup.sha256 root proposal epoch).get
      proposal.stateKey).map (·.createdAtEpochMs)) =
      proposal.clarification.map fun _ => epoch := by
    unfold committedClarifications proposedClarification
    cases proposal.clarification <;> simp
  rw [evictionRank, sessionEpochMs, hturns, hclarification]
  rfl

variable {v : ConversationStateKey} (new : proposal.stateKey ∉ sessionsOf root)
  (hv : nextVictim root.conversationTurns root.clarificationRecords = some v)

include new hv

theorem nextVictim_replied_of_lt (hlt : evictionRank root.conversationTurns
    root.clarificationRecords v < exchangeRank proposal epoch) :
    nextVictim (repliedTurns setup root proposal epoch)
      (committedClarifications setup.sha256 root proposal epoch) = some v := by
  obtain ⟨hmem, hleast⟩ := nextVictim_eq_some_iff.mp hv
  have hne : v ≠ proposal.stateKey := fun h => new (h ▸ hmem)
  refine nextVictim_eq_some_iff.mpr ⟨mem_sessionKeys_replied.mpr (.inr hmem), fun k hk => ?_⟩
  rw [evictionRank_replied_of_ne hne]
  obtain rfl | hold := mem_sessionKeys_replied.mp hk
  · rw [evictionRank_replied_self new]
    exact hlt.le
  · rw [evictionRank_replied_of_ne fun h => new (h ▸ hold)]
    exact hleast k hold

theorem nextVictim_replied_of_le (hle : exchangeRank proposal epoch ≤
    evictionRank root.conversationTurns root.clarificationRecords v) :
    nextVictim (repliedTurns setup root proposal epoch)
      (committedClarifications setup.sha256 root proposal epoch) = some proposal.stateKey := by
  obtain ⟨hmem, hleast⟩ := nextVictim_eq_some_iff.mp hv
  refine nextVictim_eq_some_iff.mpr ⟨mem_sessionKeys_replied.mpr (.inl rfl), fun k hk => ?_⟩
  rw [evictionRank_replied_self new]
  obtain rfl | hold := mem_sessionKeys_replied.mp hk
  · rw [evictionRank_replied_self new]
  · rw [evictionRank_replied_of_ne fun h => new (h ▸ hold)]
    exact hle.trans (hleast k hold)

end Replied

/-! ## A commit -/

/-- A reply that passes every check of a commit but the one that makes room for its session. -/
structure CommitPasses (setup : CoordinatorSetup) (root : CoordinatorStateRootV1)
    (proposal : ReplyCommitProposalV1) (readings : CommitReadings) : Prop where
  admitted : ∃ revision pending, CommitAdmitted root proposal revision pending
  unused : root.responseIndex.get (issuedResponse proposal readings).responseId = none
  kind : decide ((issuedResponse proposal readings).reply.kind = .clarification) =
    proposal.assistantTurn.clarificationRequested
  clarification : proposal.clarification.isSome = proposal.assistantTurn.clarificationRequested
  audited : ∃ audit, buildAuditRecord proposal.audit proposal.stateKey
    (issuedResponse proposal readings).responseId proposal.requestId
    (issuedResponse proposal readings).reply.kind readings.epochMs
    (readings.monotonicNs + setup.config.issuedTtlNs) = .ok audit

/-- The root retains other sessions, and each of them is in mid-turn. -/
def OthersPending (root : CoordinatorStateRootV1) (stateKey : ConversationStateKey) : Prop :=
  (∃ k ∈ sessionsOf root, k ≠ stateKey) ∧
    ∀ k ∈ sessionsOf root, k ≠ stateKey →
      ∃ pending, root.pendingRequestByState.get k = some pending

/-- The commit succeeds, and its exchange ends the turns of the next snapshot of its audience. -/
def CommitRetained (setup : CoordinatorSetup) (draws : OperationDraws)
    (proposal : ReplyCommitProposalV1) (c : Coordinator) : Prop :=
  ∃ response c', commitReply setup proposal draws c = (.ok response, c') ∧
    ∀ epoch nowMonotonicNs nowEpochMs, exchangeTurns setup c.root proposal draws.epochMs <:+
      (readTurnAdmissionSnapshot setup.config c'.root proposal.stateKey proposal.par1 proposal.grh1
        proposal.bsh1 epoch nowMonotonicNs nowEpochMs).turns

/-- No session that the commit evicts was in mid-turn. -/
def VictimsIdle (setup : CoordinatorSetup) (draws : OperationDraws)
    (proposal : ReplyCommitProposalV1) (c : Coordinator) : Prop :=
  ∀ k ∈ sessionsOf c.root, k ∉ sessionsOf (commitReply setup proposal draws c).2.root →
    c.root.pendingRequestByState.get k = none

/-- The store keeps both turns, and has a place for the session: its own, a free one, or that of
an idle session which is first in the eviction order and before the new one. -/
def RetentionRoom (config : CoordinatorConfigV1) (root : CoordinatorStateRootV1)
    (proposal : ReplyCommitProposalV1) (epoch : ℤ) : Prop :=
  2 ≤ config.conversationMaxMessages ∧
    (proposal.stateKey ∈ sessionsOf root ∨
      (sessionsOf root).length < config.conversationMaxSessions ∨
      ∃ v, nextVictim root.conversationTurns root.clarificationRecords = some v ∧
        root.pendingRequestByState.get v = none ∧
        evictionRank root.conversationTurns root.clarificationRecords v <
          exchangeRank proposal epoch)

section Commit

variable {setup : CoordinatorSetup} {draws : OperationDraws} {proposal : ReplyCommitProposalV1}
  {c : Coordinator}

/-- The exchange ends the snapshot exactly when its session is there with both turns. -/
theorem exchange_suffix_iff {root root' : CoordinatorStateRootV1} {epoch : ℤ}
    {victims : List ConversationStateKey} (hturns : root'.conversationTurns =
      (repliedTurns setup root proposal epoch).withoutKeys victims) :
    (∀ e nowMonotonicNs nowEpochMs, exchangeTurns setup root proposal epoch <:+
      (readTurnAdmissionSnapshot setup.config root' proposal.stateKey proposal.par1 proposal.grh1
        proposal.bsh1 e nowMonotonicNs nowEpochMs).turns) ↔
      2 ≤ setup.config.conversationMaxMessages ∧ proposal.stateKey ∉ victims := by
  simp only [readTurnAdmissionSnapshot, hturns, FrozenMap.get_withoutKeys, repliedTurns]
  by_cases hvictim : proposal.stateKey ∈ victims
  · rw [if_pos hvictim]
    simp [hvictim, exchangeTurns]
  · rw [if_neg hvictim, FrozenMap.get_insert_self, Option.getD_some, committedTurns_eq,
      List.filter_append]
    simp only [hvictim, not_false_eq_true, and_true, forall_const]
    by_cases hboth : 2 ≤ setup.config.conversationMaxMessages
    · have hfilter : (exchangeTurns setup root proposal epoch).filter (fun turn =>
          turn.par1 = proposal.par1 ∧ turn.grh1 = proposal.grh1 ∧ turn.bsh1 = proposal.bsh1) =
          exchangeTurns setup root proposal epoch := by
        simp [exchangeTurns, userTurnRecord, assistantTurnRecord]
      rw [Nat.sub_eq_zero_of_le hboth, List.drop_zero, hfilter]
      simp [hboth]
    · have hmessages := setup.accepted.messages_pos
      have hkept : keptTurns setup.config (priorTurns root proposal.stateKey) = [] :=
        List.drop_eq_nil_of_le (by omega)
      refine iff_of_false (fun hsuffix => ?_) hboth
      have hle := hsuffix.length_le.trans (List.length_append.trans_le (add_le_add
        (List.length_filter_le _ _) (List.length_filter_le _ _)))
      rw [hkept, List.length_nil, List.length_drop] at hle
      have htwo : (exchangeTurns setup root proposal epoch).length = 2 := rfl
      omega

/-- The commit succeeds, and the victims are the sessions that leave. -/
def CommitServed (setup : CoordinatorSetup) (draws : OperationDraws)
    (proposal : ReplyCommitProposalV1) (c : Coordinator) (victims : List ConversationStateKey) :
    Prop :=
  ∃ response c', commitReply setup proposal draws c = (.ok response, c') ∧
    c'.root.conversationTurns =
      (repliedTurns setup c.root proposal draws.epochMs).withoutKeys victims ∧
    c'.root.clarificationRecords =
      (committedClarifications setup.sha256 c.root proposal draws.epochMs).withoutKeys victims

theorem CommitServed.retained_iff {victims : List ConversationStateKey}
    (h : CommitServed setup draws proposal c victims) : CommitRetained setup draws proposal c ↔
      2 ≤ setup.config.conversationMaxMessages ∧ proposal.stateKey ∉ victims := by
  obtain ⟨response, c', hcommit, hturns, -⟩ := h
  rw [← exchange_suffix_iff hturns]
  constructor
  · rintro ⟨response', c'', hcommit', hsuffix⟩
    obtain ⟨-, rfl⟩ := Prod.mk.inj (hcommit.symm.trans hcommit')
    exact hsuffix
  · exact fun hsuffix => ⟨response, c', hcommit, hsuffix⟩

theorem CommitServed.victimsIdle {victims : List ConversationStateKey}
    (h : CommitServed setup draws proposal c victims)
    (idle : ∀ k ∈ victims, k ∈ sessionsOf c.root → c.root.pendingRequestByState.get k = none) :
    VictimsIdle setup draws proposal c := by
  obtain ⟨response, c', hcommit, hturns, hclarifications⟩ := h
  intro k hk hgone
  by_contra hpending
  have hstays : k ∉ victims := fun hvictim => hpending (idle k hvictim hk)
  refine hgone ?_
  have hreplied : k ∈ sessionKeys (repliedTurns setup c.root proposal draws.epochMs)
      (committedClarifications setup.sha256 c.root proposal draws.epochMs) :=
    mem_sessionKeys_replied.mpr (.inr hk)
  rw [hcommit, sessionsOf, mem_sessionKeys, hturns, hclarifications, FrozenMap.get_withoutKeys,
    FrozenMap.get_withoutKeys, if_neg hstays, if_neg hstays]
  exact mem_sessionKeys.mp hreplied

section Passes

variable (passes : CommitPasses setup c.root proposal draws.commitReadings)

include passes

/-- A refusal for the sessions is the answer of the commit. -/
theorem CommitPasses.refused {e : CoordinatorException}
    (h : ∀ revision audit, enforceSessionCapacity (repliedRoot setup c.root proposal
      draws.commitReadings revision audit) setup.config.conversationMaxSessions = .error e) :
    commitReply setup proposal draws c = (.error e, c) := by
  obtain ⟨revision, pending, admitted⟩ := passes.admitted
  obtain ⟨audit, audited⟩ := passes.audited
  have hcandidate : commitReplyCandidate setup.config setup.sha256 c.root proposal
      draws.commitReadings = .error e := by
    rw [admitted.sessions passes.unused passes.kind passes.clarification audited]
    exact congrArg (Except.map _) (h revision audit)
  simp only [commitReply, hcandidate]

/-- Room for the session is all that the commit of a sound root needs. -/
theorem CommitPasses.served {victims : List ConversationStateKey} (sound : Sound setup c)
    (hooks : draws.HooksPass)
    (h : ∀ revision audit, enforceSessionCapacity (repliedRoot setup c.root proposal
      draws.commitReadings revision audit) setup.config.conversationMaxSessions =
        .ok (withoutUnpinnedRevisions (withoutSessions (repliedRoot setup c.root proposal
          draws.commitReadings revision audit) victims))) :
    CommitServed setup draws proposal c victims := by
  obtain ⟨revision, pending, admitted⟩ := passes.admitted
  obtain ⟨audit, audited⟩ := passes.audited
  have hcandidate := admitted.candidate passes.unused passes.kind passes.clarification audited
    (h revision audit)
  have hroom : (published (withoutUnpinnedRevisions (withoutSessions (repliedRoot setup c.root
      proposal draws.commitReadings revision audit) victims))).stateRevisions.size ≤
      setup.config.stateRevisionCapacity := by
    rw [published_withoutUnpinnedRevisions]
    have hsize : (withoutSessions (repliedRoot setup c.root proposal draws.commitReadings revision
        audit) victims).stateRevisions.size ≤ c.root.stateRevisions.size :=
      FrozenMap.size_insert_of_get _ admitted.current
    exact (size_stateRevisions_published _).trans (hsize.trans sound.bounded)
  obtain ⟨journal, hcommit⟩ := commitReply_passes sound hooks hroom hcandidate
  exact ⟨_, _, hcommit, rfl, rfl⟩

variable (sound : Sound setup c) (hooks : draws.HooksPass)
  (bound : (sessionsOf c.root).length ≤ setup.config.conversationMaxSessions)

include sound hooks bound

/-- A conversation with a session, or a store that is not full, evicts nothing. -/
theorem CommitPasses.served_of_free (hfree : proposal.stateKey ∈ sessionsOf c.root ∨
    (sessionsOf c.root).length < setup.config.conversationMaxSessions) :
    CommitServed setup draws proposal c [] := by
  refine passes.served sound hooks fun revision audit => ?_
  have hsessions : (sessionsOf (repliedRoot setup c.root proposal draws.commitReadings revision
      audit)).length ≤ setup.config.conversationMaxSessions := by
    change (sessionKeys (repliedTurns setup c.root proposal draws.epochMs)
      (committedClarifications setup.sha256 c.root proposal draws.epochMs)).length ≤ _
    by_cases hold : proposal.stateKey ∈ sessionsOf c.root
    · rw [(perm_sessionKeys_replied_of_mem hold).length_eq]
      exact bound
    · rw [(perm_sessionKeys_replied_of_notMem hold).length_eq]
      exact hfree.resolve_left hold
  rw [enforceSessionCapacity_within hsessions, withoutSessions_nil]

section Full

variable {v : ConversationStateKey} (new : proposal.stateKey ∉ sessionsOf c.root)
  (hfull : setup.config.conversationMaxSessions ≤ (sessionsOf c.root).length)
  (hv : nextVictim c.root.conversationTurns c.root.clarificationRecords = some v)

include new hfull hv

omit passes sound hooks hv in
theorem length_sessionKeys_replied_of_full :
    (sessionKeys (repliedTurns setup c.root proposal draws.epochMs)
      (committedClarifications setup.sha256 c.root proposal draws.epochMs)).length =
      setup.config.conversationMaxSessions + 1 := by
  rw [(perm_sessionKeys_replied_of_notMem new).length_eq, List.length_cons]
  omega

/-- The first victim of a full store is still first, and leaves unless it is in mid-turn. -/
theorem CommitPasses.outcome_of_lt (hlt : evictionRank c.root.conversationTurns
    c.root.clarificationRecords v < exchangeRank proposal draws.epochMs) :
    (CommitRetained setup draws proposal c ↔ 2 ≤ setup.config.conversationMaxMessages ∧
      c.root.pendingRequestByState.get v = none) ∧
    VictimsIdle setup draws proposal c := by
  have hvictim : nextVictim (repliedTurns setup c.root proposal draws.epochMs)
      (committedClarifications setup.sha256 c.root proposal draws.epochMs) = some v :=
    nextVictim_replied_of_lt new hv hlt
  have hne : v ≠ proposal.stateKey := fun h => new (h ▸ (nextVictim_eq_some_iff.mp hv).1)
  have hover : ∀ revision audit, enforceSessionCapacity (repliedRoot setup c.root proposal
      draws.commitReadings revision audit) setup.config.conversationMaxSessions =
      if c.root.pendingRequestByState.contains v then .error stateStoreUnavailable
      else .ok (withoutUnpinnedRevisions (withoutSessions (repliedRoot setup c.root proposal
        draws.commitReadings revision audit) [v])) := by
    intro revision audit
    rw [enforceSessionCapacity_replied draws.commitReadings revision audit
      (length_sessionKeys_replied_of_full bound new hfull) hvictim]
    simp only [hne, ne_eq, not_false_eq_true, true_and]
  rcases hpending : c.root.pendingRequestByState.get v with _ | pending
  · have hserved : CommitServed setup draws proposal c [v] := by
      refine passes.served sound hooks fun revision audit => ?_
      rw [hover, FrozenMap.contains, hpending]
      rfl
    refine ⟨hserved.retained_iff.trans (and_congr_right fun _ => ?_),
      hserved.victimsIdle fun k hk _ => List.mem_singleton.mp hk ▸ hpending⟩
    simp [hne.symm]
  · have hrefused : commitReply setup proposal draws c = (.error stateStoreUnavailable, c) := by
      refine passes.refused fun revision audit => ?_
      rw [hover, FrozenMap.contains, hpending]
      rfl
    refine ⟨iff_of_false ?_ (by simp), fun k hk hgone => ?_⟩
    · rintro ⟨response, c', hcommit, -⟩
      rw [hrefused] at hcommit
      cases hcommit
    · rw [hrefused] at hgone
      exact absurd hk hgone

/-- A new session that is not after the first victim of a full store evicts itself. -/
theorem CommitPasses.outcome_of_le (hle : exchangeRank proposal draws.epochMs ≤
    evictionRank c.root.conversationTurns c.root.clarificationRecords v) :
    ¬CommitRetained setup draws proposal c ∧ VictimsIdle setup draws proposal c := by
  have hvictim : nextVictim (repliedTurns setup c.root proposal draws.epochMs)
      (committedClarifications setup.sha256 c.root proposal draws.epochMs) =
        some proposal.stateKey := nextVictim_replied_of_le new hv hle
  have hserved : CommitServed setup draws proposal c [proposal.stateKey] := by
    refine passes.served sound hooks fun revision audit => ?_
    rw [enforceSessionCapacity_replied draws.commitReadings revision audit
      (length_sessionKeys_replied_of_full bound new hfull) hvictim, if_neg fun h => h.1 rfl]
  refine ⟨fun hretained => ?_,
    hserved.victimsIdle fun k hk hold => absurd (List.mem_singleton.mp hk ▸ hold) new⟩
  exact (hserved.retained_iff.mp hretained).2 List.mem_cons_self

end Full

/-- A commit that passes its checks is served or refused by the room for its session, and what is
evicted was idle. -/
theorem CommitPasses.outcome : (CommitRetained setup draws proposal c ↔
      RetentionRoom setup.config c.root proposal draws.epochMs) ∧
    VictimsIdle setup draws proposal c := by
  by_cases hfree : proposal.stateKey ∈ sessionsOf c.root ∨
      (sessionsOf c.root).length < setup.config.conversationMaxSessions
  · have hserved := passes.served_of_free sound hooks bound hfree
    refine ⟨hserved.retained_iff.trans (and_congr_right fun _ => ?_), hserved.victimsIdle (by simp)⟩
    exact iff_of_true List.not_mem_nil (or_assoc.mp (.inl hfree))
  · push Not at hfree
    obtain ⟨new, hfull⟩ := hfree
    obtain ⟨v, hv⟩ : ∃ v, nextVictim c.root.conversationTurns c.root.clarificationRecords =
        some v := exists_nextVictim (setup.accepted.sessions_pos.trans hfull)
    have hroom : RetentionRoom setup.config c.root proposal draws.epochMs ↔
        2 ≤ setup.config.conversationMaxMessages ∧ c.root.pendingRequestByState.get v = none ∧
          evictionRank c.root.conversationTurns c.root.clarificationRecords v <
            exchangeRank proposal draws.epochMs := by
      simp [RetentionRoom, new, hfull.not_gt, hv]
    rw [hroom]
    obtain hlt | hle :=
      lt_or_ge (evictionRank c.root.conversationTurns c.root.clarificationRecords v)
      (exchangeRank proposal draws.epochMs)
    · obtain ⟨hretained, hidle⟩ := passes.outcome_of_lt sound hooks bound new hfull hv hlt
      exact ⟨by rw [hretained, and_iff_left hlt], hidle⟩
    · obtain ⟨hlost, hidle⟩ := passes.outcome_of_le sound hooks bound new hfull hv hle
      exact ⟨iff_of_false hlost fun h => h.2.2.not_ge hle, hidle⟩

end Passes

/-- In every reachable root, a commit that passes its checks is retained exactly when the store
keeps both turns and has room for the session. So it is retained, unless all other sessions are in
mid-turn, exactly when there is room or all of them are. -/
theorem commit_retained_iff {es : List CoordinatorEvent}
    (run : CoordinatorRun setup Admissible es c)
    (passes : CommitPasses setup c.root proposal draws.commitReadings) (hooks : draws.HooksPass) :
    (((¬OthersPending c.root proposal.stateKey → CommitRetained setup draws proposal c) ∧
        VictimsIdle setup draws proposal c) ↔
      (OthersPending c.root proposal.stateKey ∨
        RetentionRoom setup.config c.root proposal draws.epochMs)) ∧
    (CommitRetained setup draws proposal c ↔
      RetentionRoom setup.config c.root proposal draws.epochMs) := by
  have hbound := (StoreBounds.of_run run fun _ _ => id).sessions
  obtain ⟨hretained, hidle⟩ := passes.outcome (.of_run run fun _ _ => id) hooks hbound
  refine ⟨?_, hretained⟩
  rw [and_iff_left hidle, hretained, or_iff_not_imp_left]

end Commit

/-! ## Samples -/

def commitPassesCheck (setup : CoordinatorSetup) (root : CoordinatorStateRootV1)
    (proposal : ReplyCommitProposalV1) (readings : CommitReadings) : Bool :=
  (commitGuards root proposal).isOk &&
  (root.responseIndex.get (issuedResponse proposal readings).responseId).isNone &&
  decide (decide ((issuedResponse proposal readings).reply.kind = .clarification) =
    proposal.assistantTurn.clarificationRequested) &&
  decide (proposal.clarification.isSome = proposal.assistantTurn.clarificationRequested) &&
  (buildAuditRecord proposal.audit proposal.stateKey (issuedResponse proposal readings).responseId
    proposal.requestId (issuedResponse proposal readings).reply.kind readings.epochMs
    (readings.monotonicNs + setup.config.issuedTtlNs)).isOk

theorem commitPasses_of_check {setup : CoordinatorSetup} {root : CoordinatorStateRootV1}
    {proposal : ReplyCommitProposalV1} {readings : CommitReadings}
    (h : commitPassesCheck setup root proposal readings = true) :
    CommitPasses setup root proposal readings := by
  simp only [commitPassesCheck, Bool.and_eq_true, decide_eq_true_eq, Option.isNone_iff_eq_none] at h
  obtain ⟨⟨⟨⟨hguards, unused⟩, kind⟩, clarification⟩, haudit⟩ := h
  obtain ⟨revision, hrevision⟩ := exists_of_isOk hguards
  exact ⟨⟨revision, commitGuards_ok hrevision⟩, unused, kind, clarification, exists_of_isOk haudit⟩

namespace BusyOldest

/-- Room for two sessions. -/
def setup : CoordinatorSetup where
  settings := { conversationMaxSessions := 2 }
  config := ⟨5000, 2, 20000, 86400000, 12, 86400000000000, 180000000000, 10003⟩
  built := by decide +kernel
  sha256 := fun _ => "0"

/-- The conversation of a group. -/
def key (subjectRef : String) : ConversationStateKey := { sampleKey with subjectRef }

/-- The draws of the `n`-th operation; its response is the one of `digit`. -/
def draws (n : ℕ) (digit : ℕ) : OperationDraws :=
  { sampleDraws n n with
    responseUuid := ⟨String.ofList (List.replicate 31 '0' ++ [hexDigit digit]),
      digits_replicate_hexDigit digit⟩ }

/-- The first reply to a group, for the reservation of the `n`-th operation. -/
def proposal (n : ℕ) (subjectRef : String) : ReplyCommitProposalV1 :=
  { sampleProposal n "r" sampleResponse with
    stateKey := key subjectRef
    audit_scene := rfl }

/-- Two groups had their exchange; the first of them is in mid-turn again when a third one has
its own. -/
def inputs : List CoordinatorInput :=
  [(.reserveReply (key "group:a") "r" "h" true, draws 1 1),
    (.commitReply (proposal 1 "group:a"), draws 2 1),
    (.reserveReply (key "group:b") "r" "h" true, draws 3 2),
    (.commitReply (proposal 3 "group:b"), draws 4 2),
    (.reserveReply (key "group:a") "s" "h" true, draws 5 3),
    (.reserveReply (key "group:c") "r" "h" true, draws 6 3)]

/-- The third group comes when both of the others are idle. -/
def idleInputs : List CoordinatorInput :=
  inputs.take 4 ++ [(.reserveReply (key "group:c") "r" "h" true, draws 5 3)]

def idleChecked : CheckedTrace setup Admissible idleInputs fun t =>
    commitPassesCheck setup t.2.root (proposal 5 "group:c") (draws 6 3).commitReadings &&
      decide (key "group:a" ∈ sessionsOf t.2.root ∧ key "group:b" ∈ sessionsOf t.2.root ∧
        t.2.root.pendingRequestByState.get (key "group:a") = none ∧
        nextVictim t.2.root.conversationTurns t.2.root.clarificationRecords =
          some (key "group:a") ∧
        sessionEpochMs t.2.root.conversationTurns t.2.root.clarificationRecords (key "group:a") <
          6) :=
  ⟨by decide +kernel⟩

def busyChecked : CheckedTrace setup
    (fun es e => Admissible es e ∧ MonotonicClock es e ∧ WallClock es e) inputs fun t =>
    commitPassesCheck setup t.2.root (proposal 6 "group:c") (draws 7 3).commitReadings &&
      (decide (key "group:b" ∈ sessionsOf t.2.root) &&
        ((t.2.root.pendingRequestByState.get (key "group:b")).isNone &&
          !(commitReply setup (proposal 6 "group:c") (draws 7 3) t.2).1.isOk)) :=
  ⟨by decide +kernel⟩

end BusyOldest

open BusyOldest in
/-- In a full store of two idle sessions the third one takes the place of the oldest. -/
theorem commit_retained_third : ∃ c, CommitRetained setup (draws 6 3) (proposal 5 "group:c") c ∧
    ¬OthersPending c.root (key "group:c") ∧ VictimsIdle setup (draws 6 3) (proposal 5 "group:c") c ∧
    key "group:a" ∈ sessionsOf c.root ∧ key "group:b" ∈ sessionsOf c.root := by
  obtain ⟨run, hcheck⟩ := idleChecked.run
  obtain ⟨hpasses, hroom⟩ := Bool.and_eq_true_iff.mp hcheck
  obtain ⟨hoccupied, hsecond, hidle, hvictim, htime⟩ := of_decide_eq_true hroom
  obtain ⟨hproperty, hretained⟩ :=
    commit_retained_iff run (commitPasses_of_check hpasses) ⟨rfl, rfl, rfl⟩
  have hbefore : RetentionRoom setup.config (coordinatorTrace setup idleInputs).2.root
      (proposal 5 "group:c") (draws 6 3).epochMs :=
    ⟨by decide, .inr (.inr ⟨_, hvictim, hidle, Prod.Lex.toLex_lt_toLex.mpr (.inl htime)⟩)⟩
  refine ⟨_, hretained.mpr hbefore, fun hothers => ?_, (hproperty.mpr (.inr hbefore)).2,
    hoccupied, hsecond⟩
  obtain ⟨pending, hget⟩ := hothers.2 _ hoccupied (by decide)
  rw [hidle] at hget
  cases hget

open BusyOldest in
/-- With the oldest session in mid-turn a third one is refused, though the second one is idle. -/
theorem commit_not_retained : ∃ es c, CoordinatorRun setup
    (fun es e => Admissible es e ∧ MonotonicClock es e ∧ WallClock es e) es c ∧
    CommitPasses setup c.root (proposal 6 "group:c") (draws 7 3).commitReadings ∧
    (draws 7 3).HooksPass ∧ ¬OthersPending c.root (key "group:c") ∧
    ¬CommitRetained setup (draws 7 3) (proposal 6 "group:c") c := by
  obtain ⟨run, hcheck⟩ := busyChecked.run
  simp only [Bool.and_eq_true, Bool.not_eq_true', Option.isNone_iff_eq_none, decide_eq_true_eq]
    at hcheck
  obtain ⟨hpasses, hother, hidle, hrefused⟩ := hcheck
  refine ⟨_, _, run, commitPasses_of_check hpasses, ⟨rfl, rfl, rfl⟩, fun hpending => ?_, ?_⟩
  · obtain ⟨pending, hget⟩ := hpending.2 _ hother (by decide)
    rw [hidle] at hget
    cases hget
  · rintro ⟨response, c', hcommit, -⟩
    rw [hcommit] at hrefused
    cases hrefused

end MarketSupport
