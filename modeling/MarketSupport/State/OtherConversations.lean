import MarketSupport.State.RootInvariant

/-!
# Changes of other conversations

A change that is about one conversation, or about none, brings no entry to the others. It may
remove theirs, and leaves their revisions as long as something pins them.

## Main results

* `RootStep.leavesAlone` — what a change leaves of another conversation.
* `runOperation_leavesAlone` — what an operation leaves of another conversation.
-/

namespace MarketSupport

open Library

/-- The conversation that a change is about. -/
def Change.stateKey? : Change → Option ConversationStateKey
  | .cleanup _ _ | .evict => none
  | .reserve k _ _ _ _ | .abort k _ _ | .prepare k _ _ => some k
  | .commit proposal _ => some proposal.stateKey
  | .commitFeedback prepared _ _ | .drop prepared => some prepared.stateKey

/-- An operation only makes changes of its own conversation. -/
theorem stateKey?_of_mem_changes {operation : CoordinatorOperation} {draws : OperationDraws}
    {change : Change} {k : ConversationStateKey} (h : change ∈ operation.changes draws)
    (hk : change.stateKey? = some k) : operation.stateKey? = some k := by
  cases operation <;> simp only [CoordinatorOperation.changes, List.mem_cons, List.not_mem_nil,
    or_false] at h
  case reserveReply =>
    rcases h with rfl | rfl | rfl
    · cases hk
    · cases hk
    · exact hk
  case prepareFeedback =>
    rcases h with rfl | rfl
    · cases hk
    · exact hk
  case commitFeedback => rcases h with rfl | rfl <;> exact hk
  case cleanup =>
    subst h
    cases hk
  case abortReply | commitReply =>
    subst h
    exact hk

/-- Complete records are stored under their own conversation. -/
def StateKeyed (root : CoordinatorStateRootV1) : Prop :=
  ∀ {key record}, root.issuedRecords.get key = some (.complete record) →
    record.stateKey = key.stateKey

/-- The record that feedback is committed on belongs to the conversation of the feedback. -/
theorem StateKeyed.of_admitted {root : CoordinatorStateRootV1} (h : StateKeyed root)
    {prepared : PreparedFeedbackV1} {now : ℤ} {stored : PreparedFeedbackTokenRecordV1}
    {record : CompleteIssuedResponseRecordV1} {revision : StateRevisionRecordV1}
    (admitted : FeedbackAdmitted root prepared now stored record revision) :
    record.stateKey = prepared.stateKey := by
  obtain ⟨key, _, hkey, hrecord⟩ := lookup_eq_found.mp admitted.found
  exact (h hrecord).trans hkey

variable {setup : CoordinatorSetup} {root root' : CoordinatorStateRootV1} {change : Change}

theorem RootStep.stateKeyed (step : RootStep setup root change root') (h : StateKeyed root) :
    StateKeyed root' := by
  cases step with
  | cleanup =>
    intro key record hget
    rw [published_issuedRecords] at hget
    obtain ⟨before, hbefore, _, rfl⟩ := get_withoutExpired_complete.mp hget
    have hkey : before.stateKey = key.stateKey := h hbefore
    exact hkey
  | evict | abort => exact fun hget => h (FrozenMap.get_withoutKeys_eq_some.mp hget).1
  | reserve =>
    intro key record hget
    simp only [published_issuedRecords, withReservation, FrozenMap.get_insert] at hget
    split_ifs at hget
    · cases hget
    · exact h hget
  | commit =>
    intro key record hget
    simp only [published_issuedRecords, committedRoot, withoutSessions, withCommittedReply,
      FrozenMap.get_insert] at hget
    split_ifs at hget with hkey
    · cases hget
      exact (congrArg RecordKey.stateKey hkey).symm
    · exact h hget
  | prepare | drop => exact h
  | commitFeedback admitted =>
    intro key record hget
    simp only [published_issuedRecords, withCommittedFeedback, FrozenMap.get_insert] at hget
    split_ifs at hget with hkey
    · cases hget
      exact (h.of_admitted admitted).trans (congrArg RecordKey.stateKey hkey).symm
    · exact h hget

/-! ## What is left of another conversation -/

/-- `root'` has no entry of `k` that `root` did not have, and its revision while it is pinned. -/
structure LeavesAlone (k : ConversationStateKey) (root root' : CoordinatorStateRootV1) : Prop where
  entries : EntriesWithin root' root k
  pending : ∀ {v}, root'.pendingRequestByState.get k = some v →
    root.pendingRequestByState.get k = some v
  revision : Pinned root' k → root'.stateRevisions.get k = root.stateRevisions.get k

theorem LeavesAlone.refl (k : ConversationStateKey) (root : CoordinatorStateRootV1) :
    LeavesAlone k root root := ⟨{}, id, fun _ => rfl⟩

theorem LeavesAlone.trans {k : ConversationStateKey} {root'' : CoordinatorStateRootV1}
    (h : LeavesAlone k root root') (h' : LeavesAlone k root' root'') :
    LeavesAlone k root root'' where
  entries := {
    turns := fun hv => h.entries.turns (h'.entries.turns hv).choose_spec
    clarification := fun hv => h.entries.clarification (h'.entries.clarification hv).choose_spec
    issued := fun hv => h.entries.issued (h'.entries.issued hv).choose_spec
    receipt := fun hv => h.entries.receipt (h'.entries.receipt hv).choose_spec
    token := fun hv => h.entries.token (h'.entries.token hv).choose_spec
    ledger := fun hv => h.entries.ledger (h'.entries.ledger hv).choose_spec
    audit := fun hv => h.entries.audit (h'.entries.audit hv).choose_spec }
  pending hv := h.pending (h'.pending hv)
  revision hpin := (h'.revision hpin).trans (h.revision (hpin.mono h'.entries))

/-- Publication leaves what the candidate left. -/
theorem LeavesAlone.of_candidate {k : ConversationStateKey} {candidate : CoordinatorStateRootV1}
    (entries : EntriesWithin candidate root k)
    (pending : ∀ {v}, candidate.pendingRequestByState.get k = some v →
      root.pendingRequestByState.get k = some v)
    (revision : candidate.stateRevisions.get k = root.stateRevisions.get k) :
    LeavesAlone k root (published candidate) where
  entries := { entries with ledger := fun hv => entries.ledger (published_ledger_sub hv) }
  pending := pending
  revision hpin := (published_stateRevisions_of_pinned hpin).trans revision

/-- A cleanup only removes entries. -/
theorem entriesWithin_withoutExpired (config : CoordinatorConfigV1) (root : CoordinatorStateRootV1)
    (mono epoch : ℤ) (k : ConversationStateKey) :
    EntriesWithin (withoutExpired config root mono epoch) root k where
  turns hv := by
    obtain ⟨before, hbefore, _⟩ := get_withoutExpired_turns.mp hv
    exact ⟨before, hbefore⟩
  clarification hv := ⟨_, (get_withoutExpired_clarifications.mp hv).1⟩
  issued hv := by
    rw [get_withoutExpired_issued] at hv
    obtain ⟨before, hbefore, _⟩ := Option.bind_eq_some_iff.mp hv
    exact ⟨before, hbefore⟩
  receipt hv := ⟨_, (get_withoutExpired_receipts.mp hv).1⟩
  token hv := ⟨_, (get_withoutExpired_tokens.mp hv).1⟩
  ledger hv := ⟨_, (get_withoutExpired_ledger.mp hv).1⟩
  audit hv := ⟨_, (get_withoutExpired_audits.mp hv).1⟩

/-- A change of another conversation leaves `k` alone. -/
theorem RootStep.leavesAlone {k : ConversationStateKey} (step : RootStep setup root change root')
    (keyed : StateKeyed root) (other : change.stateKey? ≠ some k) : LeavesAlone k root root' := by
  cases step with
  | cleanup mono epoch =>
    exact .of_candidate (entriesWithin_withoutExpired setup.config root mono epoch k)
      (fun hv => (get_withoutExpired_pending.mp hv).1) rfl
  | evict =>
    exact .of_candidate
      { issued := fun hv => ⟨_, (FrozenMap.get_withoutKeys_eq_some.mp hv).1⟩ } id rfl
  | @reserve l =>
    have hk : k ≠ l := fun h => other (congrArg some h.symm)
    refine .of_candidate { issued := fun {ident v} hv => ⟨v, ?_⟩ } (fun hv => ?_)
      (FrozenMap.get_insert_of_ne _ _ hk)
    · rwa [withReservation, FrozenMap.get_insert_of_ne _ _ (RecordKey.ne_of_stateKey hk _ _)] at hv
    · rwa [withReservation, FrozenMap.get_insert_of_ne _ _ hk] at hv
  | abort =>
    exact .of_candidate
      { issued := fun hv => ⟨_, (FrozenMap.get_withoutKeys_eq_some.mp hv).1⟩ }
      (fun hv => (FrozenMap.get_withoutKeys_eq_some.mp hv).1) rfl
  | @commit proposal =>
    have hk : k ≠ proposal.stateKey := fun h => other (congrArg some h.symm)
    refine .of_candidate {
      turns := fun {v} hv => ⟨v, ?_⟩
      clarification := fun {v} hv => ⟨v, ?_⟩
      issued := fun {ident v} hv => ⟨v, ?_⟩
      audit := fun {ident v} hv => ⟨v, ?_⟩ }
      (fun hv => (FrozenMap.get_withoutKeys_eq_some.mp hv).1) (FrozenMap.get_insert_of_ne _ _ hk)
    · simp only [committedRoot, withoutSessions, withCommittedReply,
        FrozenMap.get_withoutKeys_eq_some, FrozenMap.get_insert_of_ne _ _ hk] at hv
      exact hv.1
    · simp only [committedRoot, withoutSessions, withCommittedReply,
        FrozenMap.get_withoutKeys_eq_some, committedClarifications_of_ne hk] at hv
      exact hv.1
    · rwa [committedRoot, withoutSessions, withCommittedReply,
        FrozenMap.get_insert_of_ne _ _ (RecordKey.ne_of_stateKey hk _ _)] at hv
    · rw [committedRoot, withoutSessions, withCommittedReply,
        FrozenMap.get_insert_of_ne _ _ (RecordKey.ne_of_stateKey hk _ _)] at hv
      exact auditRecordsWithRoom_sub hv
  | @prepare l =>
    have hk : k ≠ l := fun h => other (congrArg some h.symm)
    refine .of_candidate { token := fun {ident v} hv => ⟨v, ?_⟩ } id rfl
    rwa [withPreparedToken,
      FrozenMap.get_insert_of_ne _ _ (fun h => hk (congrArg RecordKey.stateKey h))] at hv
  | @commitFeedback prepared mono epoch stored record revision admitted =>
    have hk : k ≠ prepared.stateKey := fun h => other (congrArg some h.symm)
    refine .of_candidate {
      issued := fun {ident v} hv => ⟨v, ?_⟩
      receipt := fun {ident v} hv => ⟨v, ?_⟩
      token := fun hv => ⟨_, (FrozenMap.get_withoutKeys_eq_some.mp hv).1⟩
      ledger := fun {responseId actionId v} hv => ⟨v, ?_⟩ } id (FrozenMap.get_insert_of_ne _ _ hk)
    · rwa [withCommittedFeedback,
        FrozenMap.get_insert_of_ne _ _ (RecordKey.ne_of_stateKey hk _ _)] at hv
    · rwa [withCommittedFeedback,
        FrozenMap.get_insert_of_ne _ _ (fun h => hk (congrArg RecordKey.stateKey h))] at hv
    · rwa [withCommittedFeedback, FrozenMap.get_withUpdates_of_notMem] at hv
      intro hmem
      have hkey : k = record.stateKey := (mem_deriveLedgerUpdates_key hmem).1
      exact hk (hkey.trans (keyed.of_admitted admitted))
  | drop =>
    exact .of_candidate
      { token := fun hv => ⟨_, (FrozenMap.get_withoutKeys_eq_some.mp hv).1⟩ } id rfl

/-- An operation of another conversation leaves `k` alone. -/
theorem runOperation_leavesAlone {operation : CoordinatorOperation} {draws : OperationDraws}
    {c : Coordinator} {k : ConversationStateKey} (keyed : StateKeyed c.root)
    (other : operation.stateKey? ≠ some k) :
    StateKeyed (runOperation setup operation draws c).2.root ∧
      LeavesAlone k c.root (runOperation setup operation draws c).2.root := by
  refine (runOperation_follows setup operation draws c).invariant
    (P := fun r => StateKeyed r ∧ LeavesAlone k c.root r) ⟨keyed, .refl k _⟩ ?_
  rintro r r' change hmem ⟨hkeyed, hleaves⟩ step
  have hother : change.stateKey? ≠ some k := fun hk => other (stateKey?_of_mem_changes hmem hk)
  exact ⟨step.stateKeyed hkeyed, hleaves.trans (step.leavesAlone hkeyed hother)⟩

end MarketSupport
