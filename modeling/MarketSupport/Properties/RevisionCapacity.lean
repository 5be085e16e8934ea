import Mathlib.Data.Finset.Card
import MarketSupport.Properties.Capacities
import MarketSupport.State.Faults

/-!
# The capacity of state revisions

A new reservation needs a revision for its conversation, and the revisions of all
conversations with an entry stay. The capacity is derived from those of the sessions, the
issued records and the ledger, while receipts, tokens and audit records keep conversations
pinned as well.

## Main results

* `reserve_available_iff` — a new reservation is refused exactly when the conversations that
  are pinned besides its own fill the capacity.
* `reserve_revision_room` — it is not refused if the conversations that receipts, tokens and
  audit records alone keep fit into what those with a session, an issued record or a ledger row
  leave free; when the call has nothing to clean up or evict, it is refused otherwise.
* `reserve_without_revision_room` — under the default settings they need not fit.
-/

namespace MarketSupport

open Library

variable {setup : CoordinatorSetup} {root : CoordinatorStateRootV1}

/-- The number of conversations besides `k` that pin a revision. -/
def pinnedBesides (root : CoordinatorStateRootV1) (k : ConversationStateKey) : ℕ :=
  ((pinnedStateKeys root).toFinset.erase k).card

/-- The root without the record that leaves at the issued capacity; `none` when no record can
leave. -/
def withIssuedRoom (capacity : ℕ) (root : CoordinatorStateRootV1) : Option CoordinatorStateRootV1 :=
  if root.issuedRecords.size < capacity then some root
  else (issuedEvictionVictim root).map (fun e => withoutIssuedRecord root e.1 e.2)

/-- The conversations other than `k` with an entry in one of the three stores from whose
capacities the revision capacity is derived. -/
def heldStateKeys (root : CoordinatorStateRootV1) (k : ConversationStateKey) :
    Finset ConversationStateKey :=
  (sessionsOf root ++ root.issuedRecords.keys.map (·.stateKey) ++
    root.actionLedgerRecords.keys.map (·.stateKey)).toFinset.erase k

/-- The conversations with a receipt, a prepared token or an audit record that is not expired
at `mono`. -/
def feedbackStateKeys (root : CoordinatorStateRootV1) (mono : ℤ) : List ConversationStateKey :=
  (keysWhere root.feedbackReceipts (fun receipt => mono < receipt.expiresAtMonotonicNs) ++
    keysWhere root.preparedFeedbackTokens
      (fun token => mono < token.preparation.expiresAtMonotonicNs) ++
    keysWhere root.auditRecords (fun record => mono < record.expiresAtMonotonicNs)).map (·.stateKey)

/-- The conversations other than `k` that such a receipt, token or audit record alone keeps. -/
def looseStateKeys (root : CoordinatorStateRootV1) (k : ConversationStateKey) (mono : ℤ) :
    Finset ConversationStateKey :=
  (feedbackStateKeys root mono).toFinset.erase k \ heldStateKeys root k

/-- The loose conversations, which the derivation forgets, fit into the places that the
conversations it counts leave free. -/
def RevisionRoom (config : CoordinatorConfigV1) (root : CoordinatorStateRootV1)
    (k : ConversationStateKey) (mono : ℤ) : Prop :=
  (looseStateKeys root k mono).card + (heldStateKeys root k).card ≤
    config.conversationMaxSessions + config.issuedResponseCapacity + actionLedgerCapacity

/-! ## Counting revisions -/

theorem pinnedStateKeys_published {candidate : CoordinatorStateRootV1}
    (h : candidate.actionLedgerRecords.size ≤ actionLedgerCapacity) :
    pinnedStateKeys (published candidate) = pinnedStateKeys candidate := by
  simp only [pinnedStateKeys, published_ledger_eq h, published_conversationTurns,
    published_clarificationRecords, published_issuedRecords, published_feedbackReceipts,
    published_preparedFeedbackTokens, published_auditRecords]

/-- A published root has one revision for each pinned conversation. -/
theorem size_stateRevisions (inv : RootInvariant root) (trimmed : Trimmed root) :
    root.stateRevisions.size = (pinnedStateKeys root).toFinset.card := by
  have hkeys : root.stateRevisions.keys.toFinset = (pinnedStateKeys root).toFinset := by
    ext k
    rw [List.mem_toFinset, List.mem_toFinset, FrozenMap.mem_keys_iff, mem_pinnedStateKeys]
    exact ⟨fun ⟨_, h⟩ => trimmed.revisions h, inv.revisions⟩
  rw [← hkeys, List.toFinset_card_of_nodup root.stateRevisions.keys_nodup]
  simp [FrozenMap.size, FrozenMap.keys]

/-- A reservation pins its own conversation. -/
theorem pinnedStateKeys_withReservation (config : CoordinatorConfigV1) (k : ConversationStateKey)
    (requestId requestHash : String) (replayEligible : Bool) (readings : ReserveReadings) :
    (pinnedStateKeys (withReservation config root k requestId requestHash replayEligible
      readings)).toFinset = insert k (pinnedStateKeys root).toFinset := by
  have hissued : ∀ l, l ∈ (withReservation config root k requestId requestHash replayEligible
      readings).issuedRecords.keys.map (·.stateKey) ↔
      l = k ∨ l ∈ root.issuedRecords.keys.map (·.stateKey) := by
    intro l
    simp only [mem_map_stateKey, withReservation, FrozenMap.get_insert]
    constructor
    · rintro ⟨ident, v, hv⟩
      split_ifs at hv with hkey
      · exact .inl (congrArg RecordKey.stateKey hkey)
      · exact .inr ⟨ident, v, hv⟩
    · rintro (rfl | ⟨ident, v, hv⟩)
      · exact ⟨requestId, _, if_pos rfl⟩
      · by_cases hkey : (⟨l, ident⟩ : RecordKey) = ⟨k, requestId⟩
        · exact ⟨ident, _, if_pos hkey⟩
        · exact ⟨ident, v, by rw [if_neg hkey, hv]⟩
  ext l
  have h := hissued l
  simp only [withReservation] at h
  simp only [List.mem_toFinset, Finset.mem_insert, pinnedStateKeys, List.mem_append,
    withReservation, h]
  tauto

/-- The revisions after a reservation: those of the other conversations, and one. -/
theorem size_stateRevisions_reserved {k : ConversationStateKey} {requestId requestHash : String}
    {replayEligible : Bool} {readings : ReserveReadings} (inv : RootInvariant root)
    (ledger : root.actionLedgerRecords.size ≤ actionLedgerCapacity)
    (new : root.issuedRecords.get ⟨k, requestId⟩ = none)
    (idle : root.pendingRequestByState.get k = none) :
    (published (withReservation setup.config root k requestId requestHash replayEligible
      readings)).stateRevisions.size = pinnedBesides root k + 1 := by
  have step : RootStep setup root (.reserve k requestId requestHash replayEligible readings)
      (published (withReservation setup.config root k requestId requestHash replayEligible
        readings)) := .reserve new idle
  have hpinned : pinnedStateKeys (published (withReservation setup.config root k requestId
      requestHash replayEligible readings)) = pinnedStateKeys (withReservation setup.config root k
      requestId requestHash replayEligible readings) := pinnedStateKeys_published ledger
  rw [size_stateRevisions (step.rootInvariant inv trivial) (.published _), hpinned,
    pinnedStateKeys_withReservation, pinnedBesides,
    ← Finset.card_insert_of_notMem (Finset.notMem_erase k _)]
  congr 1
  ext l
  simp only [Finset.mem_insert, Finset.mem_erase]
  tauto

/-! ## The reservation -/

variable {c : Coordinator} {draws : OperationDraws} {k : ConversationStateKey}
  {requestId requestHash : String} {replayEligible : Bool}

theorem cleaned_cases (config : CoordinatorConfigV1) (root : CoordinatorStateRootV1)
    (mono epoch : ℤ) :
    cleaned config root mono epoch = root ∨
      cleaned config root mono epoch = published (withoutExpired config root mono epoch) := by
  unfold cleaned
  split_ifs
  · exact .inl rfl
  · exact .inr rfl

theorem Sound.cleaned (sound : Sound setup c) (mono epoch : ℤ)
    (journal : Option ReplyStateJournalV2) :
    Sound setup ⟨cleaned setup.config c.root mono epoch, journal⟩ := by
  obtain h | h := cleaned_cases setup.config c.root mono epoch
  · rw [h]
    exact ⟨sound.inv, sound.index, sound.bounded⟩
  · rw [h]
    exact (RootStep.cleanup mono epoch).sound sound trivial
      ((size_stateRevisions_withoutExpired ..).trans sound.bounded)

theorem Trimmed.cleaned (trimmed : Trimmed root) (config : CoordinatorConfigV1) (mono epoch : ℤ) :
    Trimmed (cleaned config root mono epoch) := by
  obtain h | h := cleaned_cases config root mono epoch
  · rwa [h]
  · rw [h]
    exact .published _

/-- A cleanup brings back no request and no reservation. -/
theorem cleaned_existing {config : CoordinatorConfigV1} (mono epoch : ℤ)
    (new : root.issuedRecords.get ⟨k, requestId⟩ = none)
    (idle : root.pendingRequestByState.get k = none) :
    existingReservationResult (cleaned config root mono epoch) k requestId requestHash
      replayEligible = .ok none := by
  obtain h | h := cleaned_cases config root mono epoch
  · rw [h]
    exact existingReservationResult_of_none _ _ new idle
  · rw [h]
    apply existingReservationResult_of_none
    · rw [published_issuedRecords, get_withoutExpired_issued, new, Option.bind_none]
    · rw [published_pendingRequestByState, Option.eq_none_iff_forall_ne_some]
      intro key hkey
      have hbefore := (get_withoutExpired_pending.mp hkey).1
      rw [idle] at hbefore
      cases hbefore

/-- A record cannot leave only when all of them are pending. -/
theorem pending_of_no_victim (h : issuedEvictionVictim root = none) {key : RecordKey}
    {record : IssuedResponseRecordV1} (hget : root.issuedRecords.get key = some record) :
    ∃ pending, record = .pending pending := by
  have hnone : (completeRecords root.issuedRecords).entries = [] := List.argmin_eq_none.mp h
  cases record with
  | pending pending => exact ⟨pending, rfl⟩
  | complete r =>
    have hcomplete : (completeRecords root.issuedRecords).get key = some r := by
      simp [completeRecords, FrozenMap.get_filterMap, hget, IssuedResponseRecordV1.complete?]
    rw [FrozenMap.get_eq_some_iff, hnone] at hcomplete
    cases hcomplete

/-- The eviction of `reserve_reply` without a fault. -/
theorem publishEviction_passes (sound : Sound setup c) (hooks : draws.HooksPass) :
    (withIssuedRoom setup.config.issuedResponseCapacity c.root = none ∧
      (publishEviction setup draws c).1 =
        .error (.coordinatorError "issued_response_store_unavailable")) ∨
    ∃ root' c', withIssuedRoom setup.config.issuedResponseCapacity c.root = some root' ∧
      publishEviction setup draws c = (.ok (), c') ∧ Sound setup c' ∧
      (c'.root = root' ∨ c'.root = published root') := by
  unfold withIssuedRoom
  split_ifs with hroom
  · refine .inr ⟨c.root, c, rfl, ?_, sound, .inl rfl⟩
    simp [publishEviction, issuedCapacityEvictionCandidate, hroom]
  · cases hvictim : issuedEvictionVictim c.root with
    | none =>
      refine .inl ⟨rfl, ?_⟩
      simp [publishEviction, issuedCapacityEvictionCandidate, hroom, hvictim]
    | some entry =>
      obtain ⟨key, record⟩ := entry
      have step : RootStep setup c.root .evict
          (published (withoutIssuedRecord c.root key record)) :=
        .evict (not_lt.mp hroom) hvictim
      have hsize := (size_stateRevisions_published (withoutIssuedRecord c.root key record)).trans
        sound.bounded
      have hpublish : ∃ journal, publish setup .cleanup none draws.evictionPublication
          (withoutIssuedRecord c.root key record) c =
          (.ok (), ⟨published (withoutIssuedRecord c.root key record), some journal⟩) :=
        step.publishes sound trivial hsize hooks.eviction
      obtain ⟨journal, hpublish⟩ := hpublish
      refine .inr ⟨withoutIssuedRecord c.root key record,
        ⟨published (withoutIssuedRecord c.root key record), some journal⟩, rfl, ?_,
        step.sound sound trivial hsize, .inr rfl⟩
      simp [publishEviction, issuedCapacityEvictionCandidate, hroom, hvictim, hpublish]

/-- A new reservation without a fault. -/
theorem publishReservation_passes (requestHash : String) (replayEligible : Bool)
    (sound : Sound setup c) (ledger : c.root.actionLedgerRecords.size ≤ actionLedgerCapacity)
    (new : c.root.issuedRecords.get ⟨k, requestId⟩ = none)
    (idle : c.root.pendingRequestByState.get k = none) (hooks : draws.HooksPass) :
    if pinnedBesides c.root k < setup.config.stateRevisionCapacity then
      ∃ journal, publishReservation setup k requestId requestHash replayEligible draws c =
        (.ok (.new (newReservation setup.config c.root k requestId requestHash replayEligible
          draws.reserveReadings)), ⟨published (withReservation setup.config c.root k requestId
          requestHash replayEligible draws.reserveReadings), some journal⟩)
    else (publishReservation setup k requestId requestHash replayEligible draws c).1 =
      .error stateStoreUnavailable := by
  obtain ⟨candidate, hcandidate⟩ : ∃ candidate, candidate = withReservation setup.config c.root k
    requestId requestHash replayEligible draws.reserveReadings := ⟨_, rfl⟩
  have step : RootStep setup c.root
      (.reserve k requestId requestHash replayEligible draws.reserveReadings)
      (published candidate) := hcandidate ▸ .reserve new idle
  have hsize : (published candidate).stateRevisions.size = pinnedBesides c.root k + 1 :=
    hcandidate ▸ size_stateRevisions_reserved sound.inv ledger new idle
  have hreserve : reserveReplyCandidate setup.config c.root k requestId requestHash replayEligible
      draws.reserveReadings = .ok (some candidate, .new (newReservation setup.config c.root k
        requestId requestHash replayEligible draws.reserveReadings)) := by
    unfold reserveReplyCandidate
    rw [existingReservationResult_of_none requestHash replayEligible new idle, hcandidate]
    rfl
  unfold publishReservation
  rw [hreserve]
  split_ifs with hroom
  · have hpublish : ∃ journal, publish setup .replyReserve (some k) draws.publication candidate c =
        (.ok (), ⟨published candidate, some journal⟩) :=
      step.publishes sound trivial (by omega) hooks.publication
    obtain ⟨journal, hpublish⟩ := hpublish
    exact ⟨journal, by simp only [hpublish, ← hcandidate]⟩
  · have hpublish : publish setup .replyReserve (some k) draws.publication candidate c =
        (.error stateStoreUnavailable, c) := by
      unfold publish
      rw [prepareRootForPublication_eq, if_neg (by rintro ⟨hle, _⟩; omega)]
    simp [hpublish]

/-- What a `reserve_reply` without a fault answers to a request that is new after the cleanup. -/
theorem reserveReply_passes (sound : Sound setup c) (trimmed : Trimmed c.root)
    (existing : existingReservationResult (cleaned setup.config c.root draws.cleanupMonotonicNs
      draws.cleanupEpochMs) k requestId requestHash replayEligible = .ok none)
    (hooks : draws.HooksPass) :
    (withIssuedRoom setup.config.issuedResponseCapacity (cleaned setup.config c.root
        draws.cleanupMonotonicNs draws.cleanupEpochMs) = none ∧
      (reserveReply setup k requestId requestHash replayEligible draws c).1 =
        .error (.coordinatorError "issued_response_store_unavailable")) ∨
    ∃ root', withIssuedRoom setup.config.issuedResponseCapacity (cleaned setup.config c.root
        draws.cleanupMonotonicNs draws.cleanupEpochMs) = some root' ∧
      if pinnedBesides root' k < setup.config.stateRevisionCapacity then
        ∃ evicted journal, (evicted = root' ∨ evicted = published root') ∧
          reserveReply setup k requestId requestHash replayEligible draws c =
            (.ok (.new (newReservation setup.config evicted k requestId requestHash replayEligible
              draws.reserveReadings)), ⟨published (withReservation setup.config evicted k requestId
              requestHash replayEligible draws.reserveReadings), some journal⟩)
      else (reserveReply setup k requestId requestHash replayEligible draws c).1 =
        .error stateStoreUnavailable := by
  have hcleanup : ∃ n journal, cleanupLocked setup draws.cleanupMonotonicNs draws.cleanupEpochMs
      draws.cleanupPublication c = (.ok n, ⟨cleaned setup.config c.root draws.cleanupMonotonicNs
        draws.cleanupEpochMs, journal⟩) := cleanupLocked_passes sound hooks.cleanup
  obtain ⟨n, journal, hclean⟩ := hcleanup
  have hledger :=
    (trimmed.cleaned setup.config draws.cleanupMonotonicNs draws.cleanupEpochMs).ledger
  obtain ⟨hnone, herror⟩ | ⟨root', c', hroom, heviction, sound', hroot⟩ := publishEviction_passes
    (sound.cleaned draws.cleanupMonotonicNs draws.cleanupEpochMs journal) hooks
  · rcases heviction : publishEviction setup draws ⟨cleaned setup.config c.root
      draws.cleanupMonotonicNs draws.cleanupEpochMs, journal⟩ with ⟨result, c'⟩
    rw [heviction] at herror
    refine .inl ⟨hnone, ?_⟩
    simp only [reserveReply, hclean, existing, heviction]
    rw [show result = _ from herror]
  · refine .inr ⟨root', hroom, ?_⟩
    obtain ⟨new', idle'⟩ :=
      existingReservationResult_none (publishEviction_existing heviction existing)
    have hledger' : root'.actionLedgerRecords.size ≤ actionLedgerCapacity := by
      unfold withIssuedRoom at hroom
      split_ifs at hroom
      · cases hroom
        exact hledger
      · obtain ⟨entry, _, rfl⟩ := Option.map_eq_some_iff.mp hroom
        exact hledger
    have hpinned : pinnedBesides c'.root k = pinnedBesides root' k ∧
        c'.root.actionLedgerRecords.size ≤ actionLedgerCapacity := by
      obtain h | h := hroot
      · rw [h]
        exact ⟨rfl, hledger'⟩
      · rw [h, pinnedBesides, pinnedStateKeys_published hledger', published_ledger_eq hledger']
        exact ⟨rfl, hledger'⟩
    have hresult : reserveReply setup k requestId requestHash replayEligible draws c =
        publishReservation setup k requestId requestHash replayEligible draws c' := by
      simp only [reserveReply, hclean, existing, heviction]
    rw [hresult, ← hpinned.1]
    have hreserved := publishReservation_passes requestHash replayEligible sound' hpinned.2
      new' idle' hooks
    split_ifs at hreserved ⊢ with hlt
    · obtain ⟨journal, hreserved⟩ := hreserved
      exact ⟨c'.root, journal, hroot, hreserved⟩
    · exact hreserved

/-- In every reachable root a new reservation without a fault is refused as the state store
being unavailable exactly when the pinned conversations fill the capacity, once the expired
entries and the oldest response have left. -/
theorem reserve_available_iff {es : List CoordinatorEvent}
    (run : CoordinatorRun setup Admissible es c)
    (new : c.root.issuedRecords.get ⟨k, requestId⟩ = none)
    (idle : c.root.pendingRequestByState.get k = none) (hooks : draws.HooksPass) :
    (reserveReply setup k requestId requestHash replayEligible draws c).1 ≠
        .error stateStoreUnavailable ↔
      ∀ root', withIssuedRoom setup.config.issuedResponseCapacity (cleaned setup.config c.root
          draws.cleanupMonotonicNs draws.cleanupEpochMs) = some root' →
        pinnedBesides root' k < setup.config.stateRevisionCapacity := by
  obtain ⟨hnone, hresult⟩ | ⟨root', hroom, hresult⟩ := reserveReply_passes
    (.of_run run fun _ _ => id) (.of_run run fun _ _ => id)
    (cleaned_existing _ _ new idle) hooks
  · rw [hresult, hnone]
    simp [stateStoreUnavailable]
  · rw [hroom]
    split_ifs at hresult with hlt
    · obtain ⟨evicted, journal, _, hresult⟩ := hresult
      rw [hresult]
      simp [hlt]
    · rw [hresult]
      simp [hlt]

/-! ## Room in the root before the call -/

section

variable {config : CoordinatorConfigV1} {root' : CoordinatorStateRootV1} {mono epoch : ℤ}
  {l : ConversationStateKey}

theorem mem_heldStateKeys : l ∈ heldStateKeys root k ↔ l ≠ k ∧
    (l ∈ sessionsOf root ∨ (∃ ident v, root.issuedRecords.get ⟨l, ident⟩ = some v) ∨
      ∃ responseId actionId v, root.actionLedgerRecords.get
        ⟨l, responseId, actionId⟩ = some v) := by
  simp only [heldStateKeys, Finset.mem_erase, List.mem_toFinset, List.mem_append,
    mem_map_stateKey, mem_map_stateKey_ledger, or_assoc]

theorem mem_looseStateKeys : l ∈ looseStateKeys root k mono ↔
    l ≠ k ∧ l ∈ feedbackStateKeys root mono ∧ l ∉ heldStateKeys root k := by
  simp only [looseStateKeys, Finset.mem_sdiff, Finset.mem_erase, List.mem_toFinset, and_assoc]

theorem card_heldStateKeys_le (root : CoordinatorStateRootV1) (k : ConversationStateKey) :
    (heldStateKeys root k).card ≤
      (sessionsOf root).length + root.issuedRecords.size + root.actionLedgerRecords.size := by
  refine (Finset.card_erase_le.trans (List.toFinset_card_le _)).trans_eq ?_
  simp [FrozenMap.keys, FrozenMap.size, Nat.add_assoc]

theorem pinned_of_mem_feedbackStateKeys (h : l ∈ feedbackStateKeys root mono) : Pinned root l := by
  obtain ⟨key, hkey, rfl⟩ := List.mem_map.mp h
  simp only [List.mem_append, mem_keysWhere] at hkey
  obtain (⟨_, hget, _⟩ | ⟨_, hget, _⟩) | ⟨_, hget, _⟩ := hkey
  · exact .receipt hget
  · exact .token hget
  · exact .audit hget

theorem pinned_of_mem_heldStateKeys (h : l ∈ heldStateKeys root k) : Pinned root l := by
  obtain ⟨-, hsession | ⟨_, _, hget⟩ | ⟨_, _, _, hget⟩⟩ := mem_heldStateKeys.mp h
  · obtain ⟨_, hget⟩ | ⟨_, hget⟩ := mem_sessionKeys.mp hsession
    · exact .turns hget
    · exact .clarification hget
  · exact .issued hget
  · exact .ledger hget

/-- What still pins another conversation without the expired entries. -/
theorem Pinned.of_withoutExpired (h : Pinned (withoutExpired config root mono epoch) l)
    (hne : l ≠ k) : l ∈ looseStateKeys root k mono ∪ heldStateKeys root k := by
  have hkept : l ∈ heldStateKeys root k ∨ l ∈ feedbackStateKeys root mono := by
    rw [mem_heldStateKeys]
    cases h with
    | turns hget =>
      obtain ⟨before, hbefore, _⟩ := get_withoutExpired_turns.mp hget
      exact .inl ⟨hne, .inl (mem_sessionKeys.mpr (.inl ⟨before, hbefore⟩))⟩
    | clarification hget =>
      have hbefore := (get_withoutExpired_clarifications.mp hget).1
      exact .inl ⟨hne, .inl (mem_sessionKeys.mpr (.inr ⟨_, hbefore⟩))⟩
    | issued hget =>
      rw [get_withoutExpired_issued] at hget
      obtain ⟨before, hbefore, _⟩ := Option.bind_eq_some_iff.mp hget
      exact .inl ⟨hne, .inr (.inl ⟨_, before, hbefore⟩)⟩
    | ledger hget =>
      exact .inl ⟨hne, .inr (.inr ⟨_, _, _, (get_withoutExpired_ledger.mp hget).1⟩)⟩
    | receipt hget =>
      obtain ⟨hbefore, hlive⟩ := get_withoutExpired_receipts.mp hget
      have hkey := mem_keysWhere (p := fun receipt => mono < receipt.expiresAtMonotonicNs).mpr
        ⟨_, hbefore, decide_eq_true hlive⟩
      exact .inr (List.mem_map.mpr
        ⟨_, List.mem_append_left _ (List.mem_append_left _ hkey), rfl⟩)
    | token hget =>
      obtain ⟨hbefore, hlive⟩ := get_withoutExpired_tokens.mp hget
      have hkey := mem_keysWhere (p := fun token => mono <
          token.preparation.expiresAtMonotonicNs).mpr
        ⟨_, hbefore, decide_eq_true hlive⟩
      exact .inr (List.mem_map.mpr
        ⟨_, List.mem_append_left _ (List.mem_append_right _ hkey), rfl⟩)
    | audit hget =>
      obtain ⟨hbefore, hlive⟩ := get_withoutExpired_audits.mp hget
      have hkey := mem_keysWhere (p := fun record => mono < record.expiresAtMonotonicNs).mpr
        ⟨_, hbefore, decide_eq_true hlive⟩
      exact .inr (List.mem_map.mpr ⟨_, List.mem_append_right _ hkey, rfl⟩)
  rw [Finset.mem_union, mem_looseStateKeys]
  tauto

theorem Pinned.of_cleaned (h : Pinned (cleaned config root mono epoch) l) :
    Pinned (withoutExpired config root mono epoch) l := by
  unfold cleaned at h
  split_ifs at h with hnone
  · rw [withoutExpired_of_none hnone.1 hnone.2]
    exact h.mono {}
  · exact h.of_published

theorem Pinned.of_withIssuedRoom {capacity : ℕ}
    (hroom : withIssuedRoom capacity root = some root') (h : Pinned root' l) : Pinned root l := by
  unfold withIssuedRoom at hroom
  split_ifs at hroom
  · exact Option.some.inj hroom ▸ h
  · obtain ⟨entry, _, rfl⟩ := Option.map_eq_some_iff.mp hroom
    exact h.mono { issued := fun hget => ⟨_, (FrozenMap.get_withoutKeys_eq_some.mp hget).1⟩ }

theorem card_loose_held (root : CoordinatorStateRootV1) (k : ConversationStateKey) (mono : ℤ) :
    (looseStateKeys root k mono ∪ heldStateKeys root k).card =
      (looseStateKeys root k mono).card + (heldStateKeys root k).card :=
  Finset.card_union_of_disjoint Finset.sdiff_disjoint

/-- The cleanup and the eviction of the call only take conversations away. -/
theorem pinnedBesides_le {capacity : ℕ}
    (hroom : withIssuedRoom capacity (cleaned config root mono epoch) = some root') :
    pinnedBesides root' k ≤ (looseStateKeys root k mono).card + (heldStateKeys root k).card := by
  rw [← card_loose_held]
  refine Finset.card_le_card fun l hl => ?_
  obtain ⟨hne, hl⟩ := Finset.mem_erase.mp hl
  have hpinned := mem_pinnedStateKeys.mp (List.mem_toFinset.mp hl)
  exact (hpinned.of_withIssuedRoom hroom).of_cleaned.of_withoutExpired hne

/-- A root pins its held and its loose conversations. -/
theorem card_loose_held_le (root : CoordinatorStateRootV1) (k : ConversationStateKey) (mono : ℤ) :
    (looseStateKeys root k mono).card + (heldStateKeys root k).card ≤ pinnedBesides root k := by
  rw [← card_loose_held]
  refine Finset.card_le_card fun l hl => ?_
  rw [Finset.mem_erase, List.mem_toFinset, mem_pinnedStateKeys]
  obtain hl | hl := Finset.mem_union.mp hl
  · obtain ⟨hne, hl, _⟩ := mem_looseStateKeys.mp hl
    exact ⟨hne, pinned_of_mem_feedbackStateKeys hl⟩
  · exact ⟨(mem_heldStateKeys.mp hl).1, pinned_of_mem_heldStateKeys hl⟩

/-- The derivation is right about the stores it counts: loose conversations that fit into what
these stores leave free find room. -/
theorem revisionRoom_of_loose_le {es : List CoordinatorEvent}
    (run : CoordinatorRun setup Admissible es c) (h : (looseStateKeys c.root k mono).card ≤
      (setup.config.conversationMaxSessions - (sessionsOf c.root).length) +
      (setup.config.issuedResponseCapacity - c.root.issuedRecords.size) +
      (actionLedgerCapacity - c.root.actionLedgerRecords.size)) :
    RevisionRoom setup.config c.root k mono := by
  obtain ⟨hissued, hsessions, -, -, -, hledger, -, -⟩ := capacities run
  have hheld := card_heldStateKeys_le c.root k
  unfold actionLedgerCapacity at h
  unfold RevisionRoom actionLedgerCapacity
  omega

end

/-! ## A run that fills the capacity -/

/-- Four hexadecimal digits. -/
def roundDigits (i : ℕ) : List Char :=
  [hexDigit (i / 4096 % 16), hexDigit (i / 256 % 16), hexDigit (i / 16 % 16), hexDigit (i % 16)]

theorem isLowerHex_hexDigit : ∀ d < 16, isLowerHex (hexDigit d) = true := by decide

/-- The identifier that names the conversation and the response of round `i`. -/
def roundUuid (i : ℕ) : UuidHex where
  hex := String.ofList (roundDigits i ++ List.replicate 28 '0')
  digits := by
    have hdigit : ∀ n, isLowerHex (hexDigit (n % 16)) = true :=
      fun n => isLowerHex_hexDigit _ (Nat.mod_lt _ (by omega))
    simp [roundDigits, hdigit, show isLowerHex '0' = true by decide]

theorem hexDigit_injective : ∀ a < 16, ∀ b < 16, hexDigit a = hexDigit b → a = b := by decide

theorem roundUuid_injective {i j : ℕ} (hi : i < 65536) (hj : j < 65536)
    (h : (roundUuid i).hex = (roundUuid j).hex) : i = j := by
  have hdigits : roundDigits i = roundDigits j := by
    have hlist := congrArg String.toList h
    simpa [roundUuid] using hlist
  have hdigit : ∀ a b, hexDigit (a % 16) = hexDigit (b % 16) → a % 16 = b % 16 :=
    fun a b => hexDigit_injective _ (Nat.mod_lt _ (by omega)) _ (Nat.mod_lt _ (by omega))
  simp only [roundDigits, List.cons.injEq, and_true] at hdigits
  obtain ⟨h₁, h₂, h₃, h₄⟩ := hdigits
  have h₁ := hdigit _ _ h₁
  have h₂ := hdigit _ _ h₂
  have h₃ := hdigit _ _ h₃
  have h₄ := hdigit _ _ h₄
  omega

/-- The conversation of round `i`. -/
def roundKey (i : ℕ) : ConversationStateKey := { sampleKey with principalRef := (roundUuid i).hex }

def roundResponseId (i : ℕ) : String := "resp-" ++ (roundUuid i).hex

theorem roundKey_injective {i j : ℕ} (hi : i < 65536) (hj : j < 65536)
    (h : roundKey i = roundKey j) : i = j :=
  roundUuid_injective hi hj (congrArg ConversationStateKey.principalRef h)

theorem roundResponseId_injective {i j : ℕ} (hi : i < 65536) (hj : j < 65536)
    (h : roundResponseId i = roundResponseId j) : i = j := by
  refine roundUuid_injective hi hj ?_
  have hlist := congrArg String.toList h
  simp only [roundResponseId, String.toList_append] at hlist
  exact String.toList_injective (List.append_cancel_left hlist)

/-- The draws of the `m`-th operation, in round `i`; a nanosecond passes between two. -/
def roundDraws (m i : ℕ) : OperationDraws := { sampleDraws m m with responseUuid := roundUuid i }

def roundProposal (m i : ℕ) : ReplyCommitProposalV1 :=
  { sampleProposal m "r" sampleResponse with stateKey := roundKey i, audit_scene := rfl }

/-- The adapter reports that it sent the text of round `i`. -/
def roundFeedback (i : ℕ) : ActionFeedbackRequestV2 where
  feedbackId := "f"
  requestId := "r"
  responseId := roundResponseId i
  identity := ⟨.group, "tenant:a", "group:a", (roundUuid i).hex⟩
  executions := [⟨.sendText, .executed, none, none, []⟩]

/-- The first `opened` conversations own revisions and responses, and feedback was received
on the first `received` of them. -/
structure Filled (opened received : ℕ) (root : CoordinatorStateRootV1) : Prop where
  revisions : ∀ {k revision}, root.stateRevisions.get k = some revision →
    ∃ i < opened, k = roundKey i
  responses : ∀ {id key}, root.responseIndex.get id = some key →
    ∃ i < opened, id = roundResponseId i
  receipts : ∀ i < received, ∃ receipt, root.feedbackReceipts.get ⟨roundKey i, "f"⟩ = some receipt ∧
    86400000000000 ≤ receipt.expiresAtMonotonicNs
  only : ∀ {key receipt}, root.feedbackReceipts.get key = some receipt →
    ∃ i < received, key = ⟨roundKey i, "f"⟩

/-- No reply and no feedback is under way. -/
structure Quiet (root : CoordinatorStateRootV1) : Prop where
  tokens : ∀ key, root.preparedFeedbackTokens.get key = none
  pending : ∀ k, root.pendingRequestByState.get k = none

section

variable {c : Coordinator} {root root' : CoordinatorStateRootV1} {opened received : ℕ}

theorem Filled.size_stateRevisions (h : Filled opened received root) :
    root.stateRevisions.size ≤ opened := by
  have hsub : root.stateRevisions.keys ⊆ (List.range opened).map roundKey := by
    intro k hk
    obtain ⟨revision, hrevision⟩ := FrozenMap.mem_keys_iff.mp hk
    obtain ⟨i, hi, rfl⟩ := h.revisions hrevision
    exact List.mem_map_of_mem (List.mem_range.mpr hi)
  have hlength := (List.subperm_of_subset root.stateRevisions.keys_nodup hsub).length_le
  simpa [FrozenMap.keys, FrozenMap.size] using hlength

theorem Filled.size_feedbackReceipts (h : Filled opened received root) :
    root.feedbackReceipts.size ≤ received := by
  have hsub : root.feedbackReceipts.keys ⊆
      (List.range received).map (fun i => ⟨roundKey i, "f"⟩) := by
    intro k hk
    obtain ⟨receipt, hreceipt⟩ := FrozenMap.mem_keys_iff.mp hk
    obtain ⟨i, hi, rfl⟩ := h.only hreceipt
    exact List.mem_map_of_mem (List.mem_range.mpr hi)
  have hlength := (List.subperm_of_subset root.feedbackReceipts.keys_nodup hsub).length_le
  simpa [FrozenMap.keys, FrozenMap.size] using hlength

/-- A candidate is filled as the root is when it only loses entries. -/
theorem Filled.published {candidate : CoordinatorStateRootV1}
    (h : Filled opened received candidate) :
    Filled opened received (published candidate) :=
  ⟨fun hget => h.revisions (published_stateRevisions_sub hget).1, h.responses, h.receipts, h.only⟩

theorem Filled.withoutExpired (h : Filled opened received root) (config : CoordinatorConfigV1)
    {mono : ℤ} (epoch : ℤ) (hmono : mono < 86400000000000) :
    Filled opened received (withoutExpired config root mono epoch) where
  revisions := h.revisions
  responses hget := h.responses (FrozenMap.get_withoutKeys_eq_some.mp hget).1
  receipts i hi := by
    obtain ⟨receipt, hreceipt, hexp⟩ := h.receipts i hi
    exact ⟨receipt, get_withoutExpired_receipts.mpr ⟨hreceipt, by omega⟩, hexp⟩
  only hget := h.only (get_withoutExpired_receipts.mp hget).1

theorem Quiet.withoutExpired (h : Quiet root) (config : CoordinatorConfigV1) (mono epoch : ℤ) :
    Quiet (withoutExpired config root mono epoch) where
  tokens key := by
    rw [Option.eq_none_iff_forall_ne_some]
    intro token htoken
    have hbefore := (get_withoutExpired_tokens.mp htoken).1
    rw [h.tokens key] at hbefore
    cases hbefore
  pending k := by
    rw [Option.eq_none_iff_forall_ne_some]
    intro key hkey
    have hbefore := (get_withoutExpired_pending.mp hkey).1
    rw [h.pending k] at hbefore
    cases hbefore

/-- What a round starts from and ends in. -/
structure Rest (n : ℕ) (root : CoordinatorStateRootV1) : Prop where
  filled : Filled n n root
  quiet : Quiet root

theorem Rest.cleaned {n : ℕ} (h : Rest n root) (config : CoordinatorConfigV1) {mono : ℤ} (epoch : ℤ)
    (hmono : mono < 86400000000000) : Rest n (cleaned config root mono epoch) := by
  obtain heq | heq := cleaned_cases config root mono epoch
  · rwa [heq]
  · rw [heq]
    have hquiet := h.quiet.withoutExpired config mono epoch
    exact ⟨(h.filled.withoutExpired config epoch hmono).published, hquiet.tokens, hquiet.pending⟩

theorem Rest.withoutIssuedRecord {n : ℕ} (h : Rest n root) (key : RecordKey)
    (record : CompleteIssuedResponseRecordV1) : Rest n (withoutIssuedRecord root key record) where
  filled := ⟨h.filled.revisions,
    fun hget => h.filled.responses (FrozenMap.get_withoutKeys_eq_some.mp hget).1, h.filled.receipts,
    h.filled.only⟩
  quiet := ⟨h.quiet.tokens, h.quiet.pending⟩

/-- Without reservations under way a record can leave. -/
theorem exists_withIssuedRoom {capacity : ℕ} (inv : RootInvariant root) (quiet : Quiet root)
    (pos : 1 ≤ capacity) : ∃ root', withIssuedRoom capacity root = some root' ∧
      (root' = root ∨ ∃ key record, root.issuedRecords.get key = some (.complete record) ∧
        root' = withoutIssuedRecord root key record) := by
  unfold withIssuedRoom
  split_ifs with hroom
  · exact ⟨root, rfl, .inl rfl⟩
  · cases hvictim : issuedEvictionVictim root with
    | some entry => exact ⟨_, rfl, .inr ⟨_, _, issuedEvictionVictim_get hvictim, rfl⟩⟩
    | none =>
      obtain ⟨⟨key, record⟩, hmem⟩ := List.exists_mem_of_length_pos
        (l := root.issuedRecords.entries) (by unfold FrozenMap.size at hroom; omega)
      have hget := FrozenMap.get_eq_some_iff.mpr hmem
      obtain ⟨pending, rfl⟩ := pending_of_no_victim hvictim hget
      have hpending := inv.pending.get_of_value hget rfl
      rw [quiet.pending] at hpending
      cases hpending

theorem Rest.withIssuedRoom {n capacity : ℕ} (h : Rest n root) (inv : RootInvariant root)
    (pos : 1 ≤ capacity) : ∃ root', withIssuedRoom capacity root = some root' ∧ Rest n root' ∧
      RootInvariant root' := by
  obtain ⟨root', hroom, rfl | ⟨key, record, hget, rfl⟩⟩ := exists_withIssuedRoom inv h.quiet pos
  · exact ⟨_, hroom, h, inv⟩
  · exact ⟨_, hroom, h.withoutIssuedRecord key record, inv.withoutIssuedRecord hget⟩

/-- The receipts of the first rounds pin their conversations, and nothing else is pinned. -/
theorem Rest.pinnedBesides {n : ℕ} (h : Rest n root) (inv : RootInvariant root) (hn : n < 65536) :
    pinnedBesides root (roundKey n) = n := by
  have hset : (pinnedStateKeys root).toFinset.erase (roundKey n) =
      (Finset.range n).image roundKey := by
    ext k
    simp only [Finset.mem_erase, List.mem_toFinset, mem_pinnedStateKeys, Finset.mem_image,
      Finset.mem_range]
    constructor
    · rintro ⟨-, hpinned⟩
      obtain ⟨revision, hrevision⟩ := inv.revisions hpinned
      obtain ⟨i, hi, rfl⟩ := h.filled.revisions hrevision
      exact ⟨i, hi, rfl⟩
    · rintro ⟨i, hi, rfl⟩
      obtain ⟨receipt, hreceipt, _⟩ := h.filled.receipts i hi
      refine ⟨fun heq => ?_, .receipt hreceipt⟩
      have := roundKey_injective (by omega) hn heq
      omega
  have hinj : Set.InjOn roundKey (Finset.range n) := by
    intro i hi j hj heq
    simp only [Finset.coe_range, Set.mem_Iio] at hi hj
    exact roundKey_injective (by omega) (by omega) heq
  rw [MarketSupport.pinnedBesides, hset, Finset.card_image_of_injOn hinj, Finset.card_range]

/-- The conversation of the next round is new. -/
theorem Rest.new {n : ℕ} (h : Rest n root) (inv : RootInvariant root) (hn : n < 65536) :
    ¬ Pinned root (roundKey n) := by
  intro hpinned
  obtain ⟨revision, hrevision⟩ := inv.revisions hpinned
  obtain ⟨i, hi, heq⟩ := h.filled.revisions hrevision
  have := roundKey_injective hn (by omega) heq
  omega

end

section

variable {c : Coordinator} {root : CoordinatorStateRootV1} {n m : ℕ}

theorem Rest.published (h : Rest n root) : Rest n (published root) :=
  ⟨h.filled.published, h.quiet.tokens, h.quiet.pending⟩

/-- The reply of round `n` was reserved by the `m`-th operation. -/
structure Reserved (n m : ℕ) (root : CoordinatorStateRootV1) : Prop where
  filled : Filled (n + 1) n root
  tokens : ∀ key, root.preparedFeedbackTokens.get key = none
  pending : ∀ k, k ≠ roundKey n → root.pendingRequestByState.get k = none
  record : ∃ p, root.issuedRecords.get ⟨roundKey n, "r"⟩ = some (.pending p) ∧
    p.ownerToken = List.replicate m 0 ∧ p.requestHash = "h" ∧ p.replayEligible = true
  revision : ∃ r, root.stateRevisions.get (roundKey n) = some r ∧
    r.revisionEpoch = List.replicate m 0 ∧ r.revision = 0
  unused : root.responseIndex.get (roundResponseId n) = none

theorem Filled.mono {opened received opened' : ℕ} (h : Filled opened received root)
    (le : opened ≤ opened') : Filled opened' received root where
  revisions hget := by
    obtain ⟨i, hi, heq⟩ := h.revisions hget
    exact ⟨i, by omega, heq⟩
  responses hget := by
    obtain ⟨i, hi, heq⟩ := h.responses hget
    exact ⟨i, by omega, heq⟩
  receipts := h.receipts
  only := h.only

/-- A conversation is reserved that the root knows nothing of. -/
theorem Rest.reserved (h : Rest n root) (hn : n < 65536) : Reserved n m
    (MarketSupport.published (withReservation sampleSetup.config root (roundKey n) "r" "h" true
      (roundDraws m n).reserveReadings)) := by
  have hnew : root.stateRevisions.get (roundKey n) = none := by
    rw [Option.eq_none_iff_forall_ne_some]
    intro revision hrevision
    obtain ⟨i, hi, heq⟩ := h.filled.revisions hrevision
    have := roundKey_injective hn (by omega) heq
    omega
  have hpinned : Pinned
      (MarketSupport.published (withReservation sampleSetup.config root (roundKey n)
      "r" "h" true (roundDraws m n).reserveReadings)) (roundKey n) :=
    .issued (FrozenMap.get_insert_self ..)
  have hfilled : Filled (n + 1) n (withReservation sampleSetup.config root (roundKey n) "r" "h" true
      (roundDraws m n).reserveReadings) := by
    refine ⟨fun {k revision} hget => ?_, (h.filled.mono (Nat.le_succ n)).responses,
      h.filled.receipts,
      h.filled.only⟩
    simp only [withReservation, FrozenMap.get_insert] at hget
    split_ifs at hget with hk
    · exact ⟨n, Nat.lt_succ_self n, hk⟩
    · exact (h.filled.mono (Nat.le_succ n)).revisions hget
  refine ⟨hfilled.published, h.quiet.tokens, fun k hk => ?_,
    ⟨pendingRecord sampleSetup.config (reservedRevision sampleSetup.config root (roundKey n)
      (roundDraws m n).reserveReadings) (roundKey n) "r" "h" true (roundDraws m n).reserveReadings,
      FrozenMap.get_insert_self .., rfl, rfl, rfl⟩,
        ⟨freshRevision sampleSetup.config (List.replicate m 0) m, ?_, rfl, rfl⟩, ?_⟩
  · exact (FrozenMap.get_insert_of_ne _ _ hk).trans (h.quiet.pending k)
  · rw [published_stateRevisions_of_pinned hpinned]
    refine (FrozenMap.get_insert_self ..).trans ?_
    simp only [reservedRevision, hnew]
    rfl
  · rw [published_responseIndex, Option.eq_none_iff_forall_ne_some]
    intro key hkey
    obtain ⟨i, hi, heq⟩ := h.filled.responses hkey
    have := roundResponseId_injective hn (by omega) heq
    omega

theorem roundDraws_hooksPass (m n : ℕ) : (roundDraws m n).HooksPass := ⟨rfl, rfl, rfl⟩

/-- While the capacity is not full, the next conversation is reserved. -/
theorem Rest.reserve (h : Rest n c.root) (sound : Sound sampleSetup c) (trimmed : Trimmed c.root)
    (hn : n < 15001) (hm : m < 86400000000000) : ∃ reservation c',
      reserveReply sampleSetup (roundKey n) "r" "h" true (roundDraws m n) c =
        (.ok (.new reservation), c') ∧ Reserved n m c'.root := by
  have hunpinned := h.new sound.inv (by omega)
  have hnew : c.root.issuedRecords.get ⟨roundKey n, "r"⟩ = none := by
    rw [Option.eq_none_iff_forall_ne_some]
    exact fun record hrecord => hunpinned (.issued hrecord)
  have hclean : Rest n (MarketSupport.cleaned sampleSetup.config c.root m m) :=
    h.cleaned sampleSetup.config m (by omega)
  have hsound : Sound sampleSetup ⟨MarketSupport.cleaned sampleSetup.config c.root m m, none⟩ :=
    sound.cleaned m m none
  obtain ⟨root', hroom, hrest, hinv⟩ :=
    hclean.withIssuedRoom hsound.inv sampleSetup.accepted.issued_pos
  obtain ⟨hnone, _⟩ | ⟨root'', hroom', hresult⟩ := reserveReply_passes sound trimmed
    (cleaned_existing _ _ hnew (h.quiet.pending _)) (roundDraws_hooksPass m n)
  · exact absurd (hnone.symm.trans hroom) (by simp)
  · obtain rfl : root'' = root' := Option.some.inj (hroom'.symm.trans hroom)
    rw [hrest.pinnedBesides hinv (by omega),
      if_pos (show n < sampleSetup.config.stateRevisionCapacity
      from hn)] at hresult
    obtain ⟨evicted, journal, hevicted, hresult⟩ := hresult
    refine ⟨_, _, hresult, ?_⟩
    obtain rfl | rfl := hevicted
    · exact hrest.reserved (by omega)
    · exact hrest.published.reserved (by omega)

end

section

variable {c : Coordinator} {root : CoordinatorStateRootV1} {n m l : ℕ}

/-- Without reservations under way every session may leave. -/
theorem evictSessions_idle {pending : FrozenMap ConversationStateKey RecordKey}
    (idle : ∀ k, pending.get k = none) (capacity fuel : ℕ) (turns : ConversationTurns)
    (clarifications : ClarificationRecords) :
    ∃ sessions, evictSessions pending capacity fuel turns clarifications = .ok sessions := by
  induction fuel generalizing turns clarifications with
  | zero => exact ⟨_, rfl⟩
  | succ fuel ih =>
    unfold evictSessions
    split
    · exact ⟨_, rfl⟩
    · split_ifs with hsize hpending
      · exact ⟨_, rfl⟩
      · rw [FrozenMap.contains_iff] at hpending
        obtain ⟨key, hkey⟩ := hpending
        rw [idle] at hkey
        cases hkey
      · exact ih _ _

theorem enforceSessionCapacity_idle (idle : ∀ k, root.pendingRequestByState.get k = none)
    (capacity : ℕ) : ∃ candidate, enforceSessionCapacity root capacity = .ok candidate := by
  obtain ⟨sessions, hsessions⟩ := evictSessions_idle idle capacity
    (root.conversationTurns.size + root.clarificationRecords.size) root.conversationTurns
    root.clarificationRecords
  unfold enforceSessionCapacity
  rw [hsessions]
  exact ⟨_, rfl⟩

/-- The reply of round `n` was committed by the `m`-th operation. -/
structure Committed (n m : ℕ) (root : CoordinatorStateRootV1) : Prop where
  filled : Filled (n + 1) n root
  quiet : Quiet root
  record : ∃ r, root.issuedRecords.get ⟨roundKey n, "r"⟩ = some (.complete r) ∧ r.requestId = "r" ∧
    r.response.responseId = roundResponseId n ∧ r.effects = [responseEffect "send_text" .sendText] ∧
    r.receipts = [] ∧ r.expiresAtMonotonicNs = m + 86400000000000

theorem Reserved.candidate (h : Reserved n m root) : ∃ candidate response,
    commitReplyCandidate sampleSetup.config sampleSetup.sha256 root (roundProposal m n)
      (roundDraws l n).commitReadings = .ok (candidate, response) := by
  obtain ⟨p, hrecord, howner, hhash, heligible⟩ := h.record
  obtain ⟨r, hrevision, hepoch, hversion⟩ := h.revision
  have admitted : CommitAdmitted root (roundProposal m n) r p :=
    ⟨hrecord, howner, hrevision, hepoch, hversion, hhash, heligible⟩
  have hpending : ∀ k, (root.pendingRequestByState.withoutKeys [roundKey n]).get k = none := by
    intro k
    rw [FrozenMap.get_withoutKeys]
    split_ifs with hk
    · rfl
    · exact h.pending k (by simpa using hk)
  obtain ⟨audit, haudit⟩ : ∃ audit, buildAuditRecord (roundProposal m n).audit
      (roundProposal m n).stateKey (roundResponseId n) "r" .answer (l : ℤ)
      ((l : ℤ) + sampleSetup.config.issuedTtlNs) = .ok audit := ⟨_, rfl⟩
  obtain ⟨candidate, hsessions⟩ : ∃ candidate, enforceSessionCapacity (withCommittedReply
      sampleSetup.config sampleSetup.sha256 root (roundProposal m n) r
      (issuedResponse (roundProposal m n) (roundDraws l n).commitReadings) audit
      (roundDraws l n).commitReadings.monotonicNs (roundDraws l n).commitReadings.epochMs)
      sampleSetup.config.conversationMaxSessions = .ok candidate :=
    enforceSessionCapacity_idle hpending _
  exact ⟨candidate, _, admitted.candidate h.unused rfl rfl haudit hsessions⟩

end

section

variable {c : Coordinator} {root : CoordinatorStateRootV1} {n m l : ℕ}

theorem Reserved.committed (h : Reserved n m root) {revision : StateRevisionRecordV1}
    {audit : AuditRecordV1} {victims : List ConversationStateKey} : Committed n l
      (published (committedRoot sampleSetup root (roundProposal m n) (roundDraws l n).commitReadings
        revision audit victims)) := by
  have hfilled : Filled (n + 1) n (committedRoot sampleSetup root (roundProposal m n)
      (roundDraws l n).commitReadings revision audit victims) := by
    refine ⟨fun {k r} hget => ?_, fun {id key} hget => ?_, h.filled.receipts, h.filled.only⟩
    · simp only [committedRoot, withoutSessions, withCommittedReply, FrozenMap.get_insert] at hget
      split_ifs at hget with hk
      · exact ⟨n, Nat.lt_succ_self n, hk⟩
      · exact h.filled.revisions hget
    · simp only [committedRoot, withoutSessions, withCommittedReply, FrozenMap.get_insert] at hget
      split_ifs at hget with hid
      · exact ⟨n, Nat.lt_succ_self n, hid⟩
      · exact h.filled.responses hget
  refine ⟨hfilled.published, ⟨h.tokens, fun k => ?_⟩,
    ⟨_, FrozenMap.get_insert_self .., rfl, rfl, rfl, rfl, rfl⟩⟩
  rw [published_pendingRequestByState]
  simp only [committedRoot, withoutSessions, withCommittedReply, FrozenMap.get_withoutKeys]
  split_ifs with hk
  · rfl
  · exact h.pending k (by simpa [roundProposal] using hk)

/-- The reserved reply is committed. -/
theorem Reserved.commit (h : Reserved n m c.root) (sound : Sound sampleSetup c) (hn : n < 15001) :
    ∃ response c', commitReply sampleSetup (roundProposal m n) (roundDraws l n) c =
      (.ok response, c') ∧ Committed n l c'.root := by
  obtain ⟨candidate, response, hcandidate⟩ := h.candidate (l := l)
  obtain ⟨revision, pending, audit, victims, _, _, hroot⟩ :=
    (commitReplyCandidate_ok hcandidate).2.of_commit
  have hcommitted : Committed n l (published candidate) := hroot ▸ h.committed
  obtain ⟨journal, hcommit⟩ := commitReply_passes sound (roundDraws_hooksPass l n)
    (hcommitted.filled.size_stateRevisions.trans hn) hcandidate
  exact ⟨_, _, hcommit, hcommitted⟩

end

section

variable {c : Coordinator} {root : CoordinatorStateRootV1} {n m l : ℕ}

theorem Committed.cleaned (h : Committed n m root) (config : CoordinatorConfigV1) {mono : ℤ}
    (epoch : ℤ) (hmono : mono < 86400000000000) :
    Committed n m (cleaned config root mono epoch) := by
  obtain heq | heq := cleaned_cases config root mono epoch
  · rwa [heq]
  · obtain ⟨r, hget, hrequest, hid, heffects, hreceipts, hexp⟩ := h.record
    have hquiet := h.quiet.withoutExpired config mono epoch
    rw [heq]
    refine ⟨(h.filled.withoutExpired config epoch hmono).published, ⟨hquiet.tokens, hquiet.pending⟩,
      retainedReceipts mono r, ?_, hrequest, hid,
        heffects, by simp [retainedReceipts, hreceipts], hexp⟩
    have hkept : (MarketSupport.withoutExpired config root mono epoch).issuedRecords.get
        ⟨roundKey n, "r"⟩ = some (.complete (retainedReceipts mono r)) :=
      get_withoutExpired_complete.mpr ⟨r, hget, by omega, rfl⟩
    exact hkept

theorem prepareEffectTransitions_roundFeedback {r : CompleteIssuedResponseRecordV1}
    (h : r.effects = [responseEffect "send_text" .sendText]) :
    prepareEffectTransitions r (roundFeedback n) =
      .ok [⟨"send_text", .sendText, none, .executed, none, none, false⟩] := by
  rw [prepareEffectTransitions, h]
  rfl

/-- What feedback on round `n` finds in the root. -/
theorem Committed.admitted (h : Committed n m root) (inv : RootInvariant root) (hn : n < 65536) :
    ∃ r revision, PrepareAdmitted root (roundKey n) (roundFeedback n) r revision
      [⟨"send_text", .sendText, none, .executed, none, none, false⟩] ∧
      root.issuedRecords.get ⟨roundKey n, "r"⟩ = some (.complete r) ∧ r.receipts = [] := by
  obtain ⟨r, hget, hrequest, hid, heffects, hreceipts, _⟩ := h.record
  obtain ⟨revision, hrevision⟩ := inv.revisions (.issued hget)
  have hindex : root.responseIndex.get (roundResponseId n) = some ⟨roundKey n, "r"⟩ :=
    inv.responses.get_of_value hget (congrArg some hid)
  refine ⟨r, revision, ⟨lookup_eq_found.mpr ⟨_, hindex, rfl, hget⟩, hrequest, ?_, h.quiet.tokens _,
    hrevision, prepareEffectTransitions_roundFeedback heffects⟩, hget, hreceipts⟩
  rw [Option.eq_none_iff_forall_ne_some]
  intro receipt hreceipt
  obtain ⟨i, hi, heq⟩ := h.filled.only hreceipt
  have := roundKey_injective hn (by omega) (congrArg RecordKey.stateKey heq)
  omega

/-- The feedback on round `n` that the `m`-th operation prepared. -/
structure PreparedRound (n m : ℕ) (prepared : PreparedFeedbackV1) (root : CoordinatorStateRootV1) :
    Prop where
  filled : Filled (n + 1) n root
  pending : ∀ k, root.pendingRequestByState.get k = none
  tokenKey : prepared.tokenKey = ⟨roundKey n, "f"⟩
  tokens : ∀ key, root.preparedFeedbackTokens.get key =
    if key = ⟨roundKey n, "f"⟩ then some ⟨prepared, m⟩ else none
  expires : prepared.expiresAtMonotonicNs = m + 30000000000
  admitted : ∃ r revision, lookup root prepared.stateKey prepared.responseId = .found r ∧
    root.stateRevisions.get prepared.stateKey = some revision ∧
    revision.revisionEpoch = prepared.revisionEpoch ∧
    revision.revision = prepared.expectedStateRevision ∧
    r.recordRevision = prepared.expectedIssuedRecordRevision ∧ r.receipts = []

/-- The feedback that is prepared on the record `r` of round `n`. -/
def roundPrepared (n l : ℕ) (r : CompleteIssuedResponseRecordV1)
    (revision : StateRevisionRecordV1) : PreparedFeedbackV1 :=
  preparedFeedback (roundKey n) (roundFeedback n)
    (feedbackHash sampleSetup.sha256 (roundFeedback n)) r revision
    [⟨"send_text", .sendText, none, .executed, none, none, false⟩] (roundDraws l n).prepareReadings

theorem Committed.prepared (h : Committed n m root) {r : CompleteIssuedResponseRecordV1}
    {revision : StateRevisionRecordV1}
    (admitted : PrepareAdmitted root (roundKey n) (roundFeedback n) r revision
      [⟨"send_text", .sendText, none, .executed, none, none, false⟩])
    (hget : root.issuedRecords.get ⟨roundKey n, "r"⟩ = some (.complete r))
    (hreceipts : r.receipts = []) :
    PreparedRound n l (roundPrepared n l r revision)
      (published (withPreparedToken root (roundPrepared n l r revision) l)) := by
  have hfilled : Filled (n + 1) n (withPreparedToken root (roundPrepared n l r revision) l) :=
    ⟨h.filled.revisions, h.filled.responses, h.filled.receipts, h.filled.only⟩
  refine ⟨hfilled.published, h.quiet.pending, rfl, fun key => ?_, rfl, r, revision,
    admitted.found, ?_, rfl, rfl, rfl, hreceipts⟩
  · rw [published_preparedFeedbackTokens, withPreparedToken, FrozenMap.get_insert]
    split_ifs with hkey hkey' hkey'
    · rfl
    · exact absurd hkey hkey'
    · exact absurd hkey' hkey
    · exact h.quiet.tokens key
  · have hpinned : Pinned (published (withPreparedToken root (roundPrepared n l r revision) l))
        (roundKey n) := .issued hget
    exact (published_stateRevisions_of_pinned hpinned).trans admitted.current

/-- The adapter's feedback is prepared. -/
theorem Committed.prepare (h : Committed n m c.root) (sound : Sound sampleSetup c) (hn : n < 15001)
    (hm : l < 86400000000000) : ∃ prepared c',
      prepareFeedback sampleSetup (roundKey n) (roundFeedback n) (roundDraws l n) c =
        (.ok (.prepared prepared), c') ∧ PreparedRound n l prepared c'.root := by
  have hclean : Committed n m (MarketSupport.cleaned sampleSetup.config c.root l l) :=
    h.cleaned sampleSetup.config l (by omega)
  have hcleanup : ∃ k journal, cleanupLocked sampleSetup (roundDraws l n).cleanupMonotonicNs
      (roundDraws l n).cleanupEpochMs (roundDraws l n).cleanupPublication c =
      (.ok k, ⟨MarketSupport.cleaned sampleSetup.config c.root l l, journal⟩) :=
    cleanupLocked_passes sound rfl
  obtain ⟨k, journal, hcleanup⟩ := hcleanup
  have hsound : Sound sampleSetup ⟨MarketSupport.cleaned sampleSetup.config c.root l l, journal⟩ :=
    sound.cleaned l l journal
  generalize MarketSupport.cleaned sampleSetup.config c.root l l = root at hclean hcleanup hsound
  obtain ⟨r, revision, admitted, hget, hreceipts⟩ := hclean.admitted hsound.inv (by omega)
  have hroom : root.preparedFeedbackTokens.size < sampleSetup.config.issuedResponseCapacity := by
    have hempty : root.preparedFeedbackTokens.size ≤ (∅ : FrozenMap RecordKey Unit).size := by
      refine FrozenMap.size_le_of_keys_subset fun key hkey => ?_
      rw [FrozenMap.contains_iff] at hkey
      obtain ⟨token, htoken⟩ := hkey
      rw [hclean.quiet.tokens] at htoken
      cases htoken
    exact hempty.trans_lt (by decide)
  have hcandidate := admitted.candidate hroom sampleSetup.sha256 (roundDraws l n).prepareReadings
  have hround := hclean.prepared (l := l) admitted hget hreceipts
  obtain ⟨journal', hlocked⟩ := prepareFeedbackLocked_passes hsound (roundDraws_hooksPass l n)
    (hround.filled.size_stateRevisions.trans hn) admitted.resolve hcandidate
  have hresult : prepareFeedback sampleSetup (roundKey n) (roundFeedback n) (roundDraws l n) c =
      (.ok (.prepared (roundPrepared n l r revision)),
        ⟨published (withPreparedToken root (roundPrepared n l r revision) l), some journal'⟩) := by
    simp only [prepareFeedback, hcleanup, hlocked]
    rfl
  exact ⟨_, _, hresult, hround⟩

/-- What is left of a round when its feedback is committed. -/
theorem PreparedRound.rest {prepared : PreparedFeedbackV1} (h : PreparedRound n m prepared root)
    (r : CompleteIssuedResponseRecordV1) (revision : StateRevisionRecordV1) :
    Rest (n + 1) (withCommittedFeedback sampleSetup.config sampleSetup.sha256 root prepared r
      revision l l) := by
  have hkey : prepared.stateKey = roundKey n := congrArg RecordKey.stateKey h.tokenKey
  have hfilled : Filled (n + 1) (n + 1) (withCommittedFeedback sampleSetup.config
      sampleSetup.sha256 root prepared r revision l l) := by
    refine ⟨fun {k r} hget => ?_, h.filled.responses, fun i hi => ?_, fun {key receipt} hget => ?_⟩
    · simp only [withCommittedFeedback, FrozenMap.get_insert] at hget
      split_ifs at hget with hk
      · exact ⟨n, Nat.lt_succ_self n, hk.trans hkey⟩
      · exact h.filled.revisions hget
    · simp only [withCommittedFeedback, FrozenMap.get_insert, h.tokenKey]
      split_ifs with hnew
      · refine ⟨_, rfl, ?_⟩
        change (86400000000000 : ℤ) ≤ l + 86400000000000
        omega
      · refine h.filled.receipts i (lt_of_le_of_ne (Nat.lt_succ_iff.mp hi) ?_)
        rintro rfl
        exact hnew rfl
    · simp only [withCommittedFeedback, FrozenMap.get_insert, h.tokenKey] at hget
      split_ifs at hget with hnew
      · exact ⟨n, Nat.lt_succ_self n, hnew⟩
      · obtain ⟨i, hi, heq⟩ := h.filled.only hget
        exact ⟨i, by omega, heq⟩
  refine ⟨hfilled, ⟨fun key => ?_, h.pending⟩⟩
  simp only [withCommittedFeedback, h.tokenKey, FrozenMap.get_withoutKeys, h.tokens]
  split_ifs <;> simp_all

/-- The prepared feedback is committed. -/
theorem PreparedRound.commit {prepared : PreparedFeedbackV1}
    (h : PreparedRound n m prepared c.root) (sound : Sound sampleSetup c) (hn : n < 15001)
    (hm : l < m + 30000000000) : ∃ result c',
      commitFeedback sampleSetup prepared (roundDraws l n) c = (.ok result, c') ∧
        Rest (n + 1) c'.root := by
  obtain ⟨r, revision, hfound, hcurrent, hepoch, hversion, hrecord, hreceipts⟩ := h.admitted
  have htoken : c.root.preparedFeedbackTokens.get prepared.tokenKey = some ⟨prepared, m⟩ := by
    rw [h.tokens, if_pos h.tokenKey]
  have admitted : FeedbackAdmitted c.root prepared l ⟨prepared, m⟩ r revision :=
    ⟨htoken, rfl, by rw [h.expires]; omega, hfound, hcurrent, hepoch, hversion, hrecord⟩
  have genuine : Genuine c.root prepared := by
    intro stored hstored _
    obtain rfl := Option.some.inj (htoken.symm.trans hstored)
    rfl
  have hcapacity : c.root.feedbackReceipts.size < sampleSetup.config.feedbackReceiptCapacity :=
    h.filled.size_feedbackReceipts.trans_lt (by change n < 20000; omega)
  have hroom : r.receipts.length < receiptsPerRecord := by
    rw [hreceipts]
    decide
  obtain ⟨result, hcandidate⟩ := admitted.candidate hroom hcapacity sampleSetup.sha256 (l : ℤ)
  have hrest := (h.rest (l := l) r revision).published
  obtain ⟨journal, hcommit⟩ := commitFeedback_passes sound (roundDraws_hooksPass l n)
    (hrest.filled.size_stateRevisions.trans hn) genuine hcandidate
  exact ⟨_, _, hcommit, hrest⟩

end

/-! ### Rounds -/

/-- The events drew their tokens before the `m`-th operation. -/
def DrawnBefore (m : ℕ) (es : List CoordinatorEvent) : Prop :=
  ∀ e ∈ es, ∃ j < m, ∃ i, e.input.2 = roundDraws j i

section

variable {es : List CoordinatorEvent} {c : Coordinator} {n m : ℕ}

/-- An operation may draw what its turn provides. -/
theorem DrawnBefore.admissible (drawn : DrawnBefore m es) (operation : CoordinatorOperation)
    (returned : ∀ prepared, operation = .commitFeedback prepared → Returned es prepared) :
    Admissible es ((coordinatorSystem sampleSetup).event c (operation, roundDraws m n)) := by
  refine ⟨fun e he => ?_, returned⟩
  obtain ⟨j, hj, i, hdraws⟩ := drawn e he
  have hne : (List.replicate m 0 : Bytes) ≠ List.replicate j 0 := by
    intro heq
    have hlength := congrArg List.length heq
    simp only [List.length_replicate] at hlength
    omega
  rw [hdraws]
  exact ⟨hne, hne, hne⟩

theorem DrawnBefore.extend (drawn : DrawnBefore m es)
    (run : CoordinatorRun sampleSetup Admissible es c) (operation : CoordinatorOperation)
    (returned : ∀ prepared, operation = .commitFeedback prepared → Returned es prepared) :
    CoordinatorRun sampleSetup Admissible
      (es ++ [(coordinatorSystem sampleSetup).event c (operation, roundDraws m n)])
      (runOperation sampleSetup operation (roundDraws m n) c).2 ∧
    DrawnBefore (m + 1)
      (es ++ [(coordinatorSystem sampleSetup).event c (operation, roundDraws m n)]) := by
  refine ⟨run.snoc (operation, roundDraws m n) (drawn.admissible operation returned),
    fun e he => ?_⟩
  rcases List.mem_append.mp he with he | he
  · obtain ⟨j, hj, i, hdraws⟩ := drawn e he
    exact ⟨j, by omega, i, hdraws⟩
  · obtain rfl := List.mem_singleton.mp he
    exact ⟨m, Nat.lt_succ_self m, n, rfl⟩

/-- In one round a new conversation gets a reply, and the adapter reports that it was sent. -/
theorem Rest.round (h : Rest n c.root) (drawn : DrawnBefore (4 * n) es)
    (run : CoordinatorRun sampleSetup Admissible es c) (hn : n < 15001) : ∃ es' c',
      CoordinatorRun sampleSetup Admissible es' c' ∧ DrawnBefore (4 * (n + 1)) es' ∧
        Rest (n + 1) c'.root := by
  have sound {es c} (run : CoordinatorRun sampleSetup Admissible es c) : Sound sampleSetup c :=
    .of_run run fun _ _ => id
  obtain ⟨reservation, c₁, hreserve, h₁⟩ := h.reserve (m := 4 * n) (sound run)
    (.of_run run fun _ _ => id) hn (by omega)
  obtain ⟨run₁, drawn₁⟩ :=
    drawn.extend (n := n) run (.reserveReply (roundKey n) "r" "h" true) (by simp)
  simp only [runOperation, outcome, hreserve] at run₁
  obtain ⟨response, c₂, hcommit, h₂⟩ := h₁.commit (l := 4 * n + 1) (sound run₁) hn
  obtain ⟨run₂, drawn₂⟩ :=
    drawn₁.extend (n := n) run₁ (.commitReply (roundProposal (4 * n) n)) (by simp)
  simp only [runOperation, outcome, hcommit] at run₂
  obtain ⟨prepared, c₃, hprepare, h₃⟩ := h₂.prepare (l := 4 * n + 2) (sound run₂) hn (by omega)
  obtain ⟨run₃, drawn₃⟩ := drawn₂.extend (n := n) run₂
    (.prepareFeedback (roundKey n) (roundFeedback n)) (by simp)
  simp only [runOperation, outcome, hprepare] at run₃
  obtain ⟨result, c₄, hfeedback, h₄⟩ := h₃.commit (l := 4 * n + 3) (sound run₃) hn (by omega)
  obtain ⟨run₄, drawn₄⟩ := drawn₃.extend (n := n) run₃ (.commitFeedback prepared) (by
    rintro _ ⟨⟩
    refine ⟨_, List.mem_append_right _ (List.mem_singleton_self _), ?_⟩
    simp [System.event, coordinatorSystem, runOperation, outcome, hprepare, Except.map])
  simp only [runOperation, outcome, hfeedback] at run₄
  exact ⟨_, _, run₄, drawn₄, h₄⟩

/-- Any number of rounds up to the capacity can be taken. -/
theorem exists_run_rest (n : ℕ) (hn : n ≤ 15001) : ∃ es c,
    CoordinatorRun sampleSetup Admissible es c ∧ DrawnBefore (4 * n) es ∧ Rest n c.root := by
  induction n with
  | zero =>
    refine ⟨[], .initial, .nil, by simp [DrawnBefore], ?_⟩
    constructor <;> constructor <;> simp [Coordinator.initial, emptyCoordinatorRoot]
  | succ n ih =>
    obtain ⟨es, c, run, drawn, rest⟩ := ih (by omega)
    exact rest.round drawn run hn

theorem Rest.revisionRoom (h : Rest n root) (inv : RootInvariant root) (hn : n ≤ 15000) (mono : ℤ) :
    RevisionRoom sampleSetup.config root (roundKey n) mono := by
  have hpinned := h.pinnedBesides inv (by omega)
  have hle := card_loose_held_le root (roundKey n) mono
  change _ ≤ 5000 + 5000 + 5000
  omega

end

/-! ## The capacity -/

/-- In every reachable root a new reservation without a fault finds the state store available if
the loose conversations fit into what the counted ones leave free. If the call has nothing to
clean up or evict, it finds it available only then. -/
theorem reserve_revision_room {es : List CoordinatorEvent}
    (run : CoordinatorRun setup Admissible es c)
    (new : c.root.issuedRecords.get ⟨k, requestId⟩ = none)
    (idle : c.root.pendingRequestByState.get k = none) (hooks : draws.HooksPass) :
    (RevisionRoom setup.config c.root k draws.cleanupMonotonicNs →
      (reserveReply setup k requestId requestHash replayEligible draws c).1 ≠
        .error stateStoreUnavailable) ∧
    (cleanupCandidate setup.config c.root draws.cleanupMonotonicNs draws.cleanupEpochMs =
        (none, 0) →
      issuedCapacityEvictionCandidate c.root setup.config.issuedResponseCapacity = .ok none →
      (reserveReply setup k requestId requestHash replayEligible draws c).1 ≠
        .error stateStoreUnavailable →
      RevisionRoom setup.config c.root k draws.cleanupMonotonicNs) := by
  have hcapacity := setup.accepted.revisions
  rw [reserve_available_iff run new idle hooks]
  constructor
  · intro room root' hroom
    have hle := pinnedBesides_le (k := k) hroom
    unfold RevisionRoom actionLedgerCapacity at room
    omega
  · intro hcleanup heviction havailable
    have hclean : cleaned setup.config c.root draws.cleanupMonotonicNs draws.cleanupEpochMs =
        c.root := by
      simp only [cleanupCandidate] at hcleanup
      split_ifs at hcleanup with hnone
      · exact if_pos hnone
      · cases congrArg Prod.fst hcleanup
    have hroom : withIssuedRoom setup.config.issuedResponseCapacity c.root = some c.root := by
      unfold issuedCapacityEvictionCandidate at heviction
      split_ifs at heviction with hissued
      · exact if_pos hissued
      · split at heviction <;> cases heviction
    have hpinned := havailable c.root (by rw [hclean, hroom])
    have hle := card_loose_held_le c.root k draws.cleanupMonotonicNs
    unfold RevisionRoom actionLedgerCapacity
    omega

/-- After fifteen thousand conversations with feedback one more is reserved. -/
theorem reserve_revision_room_sample : ∃ es c, CoordinatorRun sampleSetup Admissible es c ∧
    (∀ i < 15000, ∃ receipt, c.root.feedbackReceipts.get ⟨roundKey i, "f"⟩ = some receipt) ∧
    RevisionRoom sampleSetup.config c.root (roundKey 15000)
      (roundDraws 60000 15000).cleanupMonotonicNs ∧
    (reserveReply sampleSetup (roundKey 15000) "r" "h" true (roundDraws 60000 15000) c).1 ≠
      .error stateStoreUnavailable := by
  obtain ⟨es, c, run, drawn, rest⟩ := exists_run_rest 15000 (by omega)
  have sound : Sound sampleSetup c := .of_run run fun _ _ => id
  have hnew : c.root.issuedRecords.get ⟨roundKey 15000, "r"⟩ = none := by
    rw [Option.eq_none_iff_forall_ne_some]
    exact fun record hrecord => rest.new sound.inv (by omega) (.issued hrecord)
  have room := rest.revisionRoom sound.inv le_rfl (roundDraws 60000 15000).cleanupMonotonicNs
  refine ⟨es, c, run, fun i hi => ?_, room, (reserve_revision_room run hnew (rest.quiet.pending _)
    (roundDraws_hooksPass _ _)).1 room⟩
  obtain ⟨receipt, hreceipt, _⟩ := rest.filled.receipts i hi
  exact ⟨receipt, hreceipt⟩

/-- Under the default settings a conversation that the root knows nothing of can be refused:
the receipts of earlier conversations fill the revision capacity. -/
theorem reserve_without_revision_room : ∃ es c, CoordinatorRun sampleSetup Admissible es c ∧
    ∃ k draws, draws.HooksPass ∧
      Admissible es ((coordinatorSystem sampleSetup).event c
        (.reserveReply k "r" "h" true, draws)) ∧
      ¬ Pinned c.root k ∧ c.root.pendingRequestByState.get k = none ∧
      (reserveReply sampleSetup k "r" "h" true draws c).1 = .error stateStoreUnavailable := by
  obtain ⟨es, c, run, drawn, rest⟩ := exists_run_rest 15001 le_rfl
  have sound : Sound sampleSetup c := .of_run run fun _ _ => id
  have hunpinned := rest.new sound.inv (by decide)
  have hnew : c.root.issuedRecords.get ⟨roundKey 15001, "r"⟩ = none := by
    rw [Option.eq_none_iff_forall_ne_some]
    exact fun record hrecord => hunpinned (.issued hrecord)
  have hclean : Rest 15001 (cleaned sampleSetup.config c.root 60004 60004) :=
    rest.cleaned sampleSetup.config 60004 (by decide)
  obtain ⟨root', hroom, hrest, hinv⟩ := hclean.withIssuedRoom
    (sound.cleaned 60004 60004 none).inv sampleSetup.accepted.issued_pos
  refine ⟨es, c, run, roundKey 15001, roundDraws 60004 15001, roundDraws_hooksPass _ _,
    ?_, hunpinned,
    rest.quiet.pending _, ?_⟩
  · exact drawn.admissible _ (by simp)
  · obtain ⟨hnone, _⟩ | ⟨root'', hroom', hresult⟩ := reserveReply_passes sound
      (.of_run run fun _ _ => id) (cleaned_existing _ _ hnew (rest.quiet.pending _))
      (roundDraws_hooksPass 60004 15001)
    · exact absurd (hnone.symm.trans hroom) (by simp)
    · obtain rfl : root'' = root' := Option.some.inj (hroom'.symm.trans hroom)
      rwa [hrest.pinnedBesides hinv (by decide),
        if_neg (show ¬ 15001 <
          sampleSetup.config.stateRevisionCapacity from lt_irrefl 15001)] at hresult

end MarketSupport
