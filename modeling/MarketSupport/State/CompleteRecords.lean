import MarketSupport.State.EffectTransitions
import MarketSupport.State.RootInvariant

/-!
# Complete records

A complete record is made by a reply commit, grows by feedback, loses expired receipts, and
leaves with its expiry or as a victim of the issued capacity.

## Main results

* `RootStep.recordSource` — where a complete record of a published root comes from.
* `RootStep.record_kept` — a publication keeps a complete record, or removes it for one of
  two reasons.
-/

namespace MarketSupport

open Library

/-- Two versions of one committed reply. -/
structure SameCommit (a b : CompleteIssuedResponseRecordV1) : Prop where
  requestHash : a.requestHash = b.requestHash
  replayEligible : a.replayEligible = b.replayEligible
  response : a.response = b.response
  issuedAt : a.issuedAtEpochMs = b.issuedAtEpochMs
  completedAt : a.completedAtMonotonicNs = b.completedAtMonotonicNs
  expiresAt : a.expiresAtMonotonicNs = b.expiresAtMonotonicNs
  audience : (a.par1, a.grh1, a.bsh1) = (b.par1, b.grh1, b.bsh1)

theorem SameCommit.refl (a : CompleteIssuedResponseRecordV1) : SameCommit a a :=
  ⟨rfl, rfl, rfl, rfl, rfl, rfl, rfl⟩

theorem SameCommit.trans {a b c : CompleteIssuedResponseRecordV1} (h : SameCommit a b)
    (h' : SameCommit b c) : SameCommit a c :=
  ⟨h.1.trans h'.1, h.2.trans h'.2, h.3.trans h'.3, h.4.trans h'.4, h.5.trans h'.5, h.6.trans h'.6,
    h.7.trans h'.7⟩

/-- How a complete record gets under `key` by one publication. -/
inductive RecordSource (setup : CoordinatorSetup) (root : CoordinatorStateRootV1)
    (key : RecordKey) :
    Change → CompleteIssuedResponseRecordV1 → Prop where
  | kept {change : Change} {record : CompleteIssuedResponseRecordV1}
      (noCleanup : ∀ mono epoch, change ≠ .cleanup mono epoch)
      (before : root.issuedRecords.get key = some (.complete record)) :
      RecordSource setup root key change record
  | cleaned {mono epoch : ℤ} {record : CompleteIssuedResponseRecordV1}
      (before : root.issuedRecords.get key = some (.complete record))
      (live : mono < record.expiresAtMonotonicNs) :
      RecordSource setup root key (.cleanup mono epoch) (retainedReceipts mono record)
  | committed {proposal : ReplyCommitProposalV1} {readings : CommitReadings}
      {revision : StateRevisionRecordV1} {pending : PendingIssuedResponseRecordV1}
      (admitted : CommitAdmitted root proposal revision pending)
      (unused : root.responseIndex.get (issuedResponse proposal readings).responseId = none)
      (hkey : key = ⟨proposal.stateKey, proposal.requestId⟩) :
      RecordSource setup root key (.commit proposal readings)
        (completeRecord setup.config proposal (revision.next setup.config readings.monotonicNs)
          (issuedResponse proposal readings) readings.monotonicNs readings.epochMs)
  | fed {prepared : PreparedFeedbackV1} {now nowEpochMs : ℤ}
      {stored : PreparedFeedbackTokenRecordV1} {record : CompleteIssuedResponseRecordV1}
      {revision : StateRevisionRecordV1}
      (admitted : FeedbackAdmitted root prepared now stored record revision)
      (room : record.receipts.length < receiptsPerRecord)
      (genuine : Genuine root prepared) (hkey : key = ⟨prepared.stateKey, prepared.requestId⟩)
      (before : root.issuedRecords.get key = some (.complete record)) :
      RecordSource setup root key (.commitFeedback prepared now nowEpochMs)
        (recordWithFeedback record prepared.transitions (feedbackReceipt setup.config setup.sha256
          prepared (record.recordRevision + 1) now nowEpochMs))

variable {setup : CoordinatorSetup} {root root' : CoordinatorStateRootV1} {change : Change}
  {key : RecordKey} {record record' : CompleteIssuedResponseRecordV1}

theorem RootStep.recordSource (step : RootStep setup root change root') (inv : RootInvariant root)
    (guarded : Guarded genuineGuard root change)
    (h : root'.issuedRecords.get key = some (.complete record')) :
    RecordSource setup root key change record' := by
  cases step with
  | cleanup mono epoch =>
    rw [published_issuedRecords, get_withoutExpired_complete] at h
    obtain ⟨record, before, live, rfl⟩ := h
    exact .cleaned before live
  | evict => exact .kept (by simp) (FrozenMap.get_withoutKeys_eq_some.mp h).1
  | abort => exact .kept (by simp) (FrozenMap.get_withoutKeys_eq_some.mp h).1
  | prepare | drop => exact .kept (by simp) h
  | reserve =>
    simp only [published_issuedRecords, withReservation, FrozenMap.get_insert] at h
    split_ifs at h
    · cases h
    · exact .kept (by simp) h
  | commit admitted unused =>
    simp only [published_issuedRecords, committedRoot, withoutSessions, withCommittedReply,
      FrozenMap.get_insert] at h
    split_ifs at h with hkey
    · cases h
      exact .committed admitted unused hkey
    · exact .kept (by simp) h
  | @commitFeedback prepared _ _ _ _ _ admitted room =>
    have hgenuine : Genuine root prepared := guarded
    simp only [published_issuedRecords, withCommittedFeedback, FrozenMap.get_insert] at h
    split_ifs at h with hkey
    · cases h
      exact .fed admitted room hgenuine hkey (hkey ▸ (inv.feedbackTarget admitted hgenuine).1)
    · exact .kept (by simp) h

/-- A record that was there before is still the same commit. -/
theorem RecordSource.sameCommit (h : RecordSource setup root key change record')
    (hget : root.issuedRecords.get key = some (.complete record)) : SameCommit record record' := by
  have hsame : ∀ {r}, root.issuedRecords.get key = some (.complete r) → record = r := by
    intro r hr
    simpa [hget] using hr
  cases h with
  | kept _ before =>
    rw [hsame before]
    exact .refl _
  | cleaned before =>
    rw [hsame before]
    exact ⟨rfl, rfl, rfl, rfl, rfl, rfl, rfl⟩
  | committed admitted _ hkey =>
    rw [hkey, admitted.reserved] at hget
    cases hget
  | fed _ _ _ _ before =>
    rw [hsame before]
    exact ⟨rfl, rfl, rfl, rfl, rfl, rfl, rfl⟩

/-- A publication keeps a complete record, unless it expired or is the victim of an eviction. -/
theorem RootStep.record_kept (step : RootStep setup root change root') (inv : RootInvariant root)
    (guarded : Guarded genuineGuard root change)
    (hget : root.issuedRecords.get key = some (.complete record)) :
    (∃ record', root'.issuedRecords.get key = some (.complete record') ∧
      SameCommit record record') ∨
      (∃ mono epoch, change = .cleanup mono epoch ∧ record.expiresAtMonotonicNs ≤ mono) ∨
      change = .evict ∧ issuedEvictionVictim root = some (key, record) := by
  have hkeep : (∃ record', root'.issuedRecords.get key = some (.complete record')) →
      ∃ record', root'.issuedRecords.get key = some (.complete record') ∧
        SameCommit record record' := by
    rintro ⟨record', hafter⟩
    exact ⟨record', hafter, (step.recordSource inv guarded hafter).sameCommit hget⟩
  cases step with
  | cleanup mono epoch =>
    by_cases hexp : record.expiresAtMonotonicNs ≤ mono
    · exact .inr (.inl ⟨mono, epoch, rfl, hexp⟩)
    · refine .inl (hkeep ⟨retainedReceipts mono record, ?_⟩)
      rw [published_issuedRecords, get_withoutExpired_complete]
      exact ⟨record, hget, not_le.mp hexp, rfl⟩
  | @evict key' victim _ hvictim =>
    by_cases hkey : key = key'
    · subst hkey
      have hrecord := issuedEvictionVictim_get hvictim
      obtain rfl : record = victim := by simpa [hget] using hrecord
      exact .inr (.inr ⟨rfl, hvictim⟩)
    · refine .inl (hkeep ⟨record, FrozenMap.get_withoutKeys_eq_some.mpr ⟨hget, ?_⟩⟩)
      simpa using hkey
  | reserve new =>
    refine .inl (hkeep ⟨record, ?_⟩)
    rw [published_issuedRecords, withReservation, FrozenMap.get_insert_of_ne, hget]
    rintro rfl
    simp [hget] at new
  | abort reserved =>
    refine .inl (hkeep ⟨record, FrozenMap.get_withoutKeys_eq_some.mpr ⟨hget, ?_⟩⟩)
    rw [List.mem_singleton]
    rintro rfl
    simp [hget] at reserved
  | commit admitted =>
    refine .inl (hkeep ⟨record, ?_⟩)
    rw [published_issuedRecords, committedRoot, withoutSessions, withCommittedReply,
      FrozenMap.get_insert_of_ne, hget]
    rintro rfl
    simpa [hget] using admitted.reserved
  | prepare | drop => exact .inl (hkeep ⟨record, hget⟩)
  | @commitFeedback prepared =>
    refine .inl (hkeep ?_)
    simp only [published_issuedRecords, withCommittedFeedback, FrozenMap.get_insert]
    split_ifs
    · exact ⟨_, rfl⟩
    · exact ⟨record, hget⟩

end MarketSupport
