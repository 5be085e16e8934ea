import MarketSupport.State.CompleteRecords

/-!
# Feedback accounting

Every feedback that was stored is visible in four places: the revision and the receipts of
its record, the receipts of the root, and the histories of the effects it changed.

## Main results

* `StatusAutomaton.apply` — a checked transition moves an effect along its automaton.
* `sum_statusHistory_apply` — applied transitions lengthen the histories by the stored count.
* `feedback_accounting` — the four places agree in every reachable root.
-/

namespace MarketSupport

open Library

/-! ## The automaton of an effect -/

/-- The status ends the history, and the history is a path of the automaton: nothing, one
status, or a failed or skipped attempt that was executed later. -/
structure StatusAutomaton (effect : IssuedEffectV1) : Prop where
  last : effect.status = effect.statusHistory.getLast?
  path : effect.statusHistory = [] ∨ (∃ status, effect.statusHistory = [status]) ∨
    ∃ status, (status = .failed ∨ status = .skipped) ∧ effect.statusHistory = [status, .executed]

/-- A transition that was allowed and changes something moves the effect along the automaton. -/
theorem StatusAutomaton.move {effect : IssuedEffectV1} (h : StatusAutomaton effect)
    {requested : ActionExecutionStatus} {artifact : Option String}
    (allowed : statusTransitionAllowed effect.status effect.artifactRef requested artifact = true)
    (changes : ¬ (effect.status = some requested ∧ effect.artifactRef = artifact)) :
    StatusAutomaton { effect with
      status := some requested
      artifactRef := artifact
      statusHistory := effect.statusHistory ++ [requested] } := by
  refine ⟨by simp, ?_⟩
  simp only [statusTransitionAllowed, decide_eq_true_eq] at allowed
  rw [or_iff_right changes, h.last] at allowed
  obtain hnil | ⟨status, hone⟩ | ⟨status, _, htwo⟩ := h.path
  · exact .inr (.inl ⟨requested, by simp [hnil]⟩)
  · rw [hone] at allowed ⊢
    simp only [List.getLast?_singleton, reduceCtorEq, Option.some.injEq, false_or] at allowed
    exact .inr (.inr ⟨status, allowed.1, by simp [allowed.2]⟩)
  · simp [htwo] at allowed

/-- Checked transitions keep the automaton of every effect. -/
theorem StatusAutomaton.apply {effects : List IssuedEffectV1}
    {transitions : List PreparedEffectTransitionV1}
    (hnodup : (transitions.map (·.effectKey)).Nodup) (lockstep : Lockstep effects)
    (valid : ∀ transition ∈ transitions, ValidFor effects transition) {effect : IssuedEffectV1}
    (hmem : effect ∈ effects) (h : StatusAutomaton effect) :
    StatusAutomaton (applyTransition transitions effect) := by
  obtain ⟨hsame, _⟩ | ⟨transition, htransition, hkey, hnoop, happly⟩ :=
    applyTransition_cases hnodup effect
  · rwa [hsame]
  · obtain ⟨_, _, hnoop', hallowed⟩ :=
      (valid transition htransition).checked lockstep hmem hkey.symm
    rw [happly]
    refine h.move hallowed fun hunchanged => ?_
    rw [hnoop'.mpr hunchanged] at hnoop
    cases hnoop

/-! ## Counting -/

/-- With distinct keys on both sides, matched elements are counted from either side. -/
theorem countP_matched {α β : Type} {xs : List α} {ts : List β} {f : α → String} {g : β → String}
    (hxs : (xs.map f).Nodup) (hts : (ts.map g).Nodup) (sub : ∀ t ∈ ts, ∃ x ∈ xs, f x = g t)
    (p : β → Bool) :
    xs.countP (fun x => ts.any (fun t => g t = f x && p t)) = ts.countP p := by
  have hperm : ((xs.filter (fun x => ts.any (fun t => g t = f x && p t))).map f).Perm
      ((ts.filter p).map g) := by
    refine (List.perm_ext_iff_of_nodup ?_ ?_).mpr fun key => ?_
    · exact (List.filter_sublist.map f).nodup hxs
    · exact (List.filter_sublist.map g).nodup hts
    simp only [List.mem_map, List.mem_filter, List.any_eq_true, Bool.and_eq_true,
      decide_eq_true_eq]
    constructor
    · rintro ⟨x, ⟨_, t, ht, hkey, hp⟩, rfl⟩
      exact ⟨t, ⟨ht, hp⟩, hkey⟩
    · rintro ⟨t, ⟨ht, hp⟩, rfl⟩
      obtain ⟨x, hx, hkey⟩ := sub t ht
      exact ⟨x, ⟨hx, t, ht, hkey.symm, hp⟩, hkey⟩
  have hlength := hperm.length_eq
  simpa [List.countP_eq_length_filter] using hlength

/-- Adding one to the elements that satisfy `p`. -/
theorem sum_map_add_ite {α : Type} (l : List α) (f : α → ℕ) (p : α → Bool) :
    (l.map (fun x => f x + if p x then 1 else 0)).sum = (l.map f).sum + l.countP p := by
  induction l with
  | nil => rfl
  | cons x l ih =>
    rw [List.map_cons, List.sum_cons, ih, List.map_cons, List.sum_cons, List.countP_cons]
    omega

/-- Transitions with distinct keys lengthen the histories by the number that is stored. -/
theorem sum_statusHistory_apply {effects : List IssuedEffectV1}
    {transitions : List PreparedEffectTransitionV1} (hkeys : (effects.map (·.effectKey)).Nodup)
    (hnodup : (transitions.map (·.effectKey)).Nodup)
    (valid : ∀ transition ∈ transitions, ValidFor effects transition) :
    ((applyEffectTransitions effects transitions).map (·.statusHistory.length)).sum =
      (effects.map (·.statusHistory.length)).sum + storedCount transitions := by
  have hone : ∀ effect : IssuedEffectV1, (applyTransition transitions effect).statusHistory.length =
      effect.statusHistory.length + if transitions.any
        (fun t => t.effectKey = effect.effectKey && !t.isNoop) then 1 else 0 := by
    intro effect
    obtain ⟨hsame, hnoop⟩ | ⟨transition, hmem, hkey, hnoop, happly⟩ :=
      applyTransition_cases hnodup effect
    · have hnone : transitions.any (fun t => t.effectKey = effect.effectKey && !t.isNoop) =
        false := by
        rw [List.any_eq_false]
        intro transition hmem hchanges
        simp only [Bool.and_eq_true, decide_eq_true_eq, Bool.not_eq_eq_eq_not,
          Bool.not_true] at hchanges
        simp [hnoop transition hmem hchanges.1] at hchanges
      simp [hsame, hnone]
    · have hsome : transitions.any (fun t => t.effectKey = effect.effectKey && !t.isNoop) = true :=
        List.any_eq_true.mpr ⟨transition, hmem, by simp [hkey, hnoop]⟩
      simp [happly, hsome]
  have hsub : ∀ t ∈ transitions, ∃ x ∈ effects, x.effectKey = t.effectKey := by
    intro t ht
    obtain ⟨effect, heffect, checked⟩ := valid t ht
    exact ⟨effect, heffect, checked.key⟩
  have hcount := countP_matched hkeys hnodup hsub (fun t => !t.isNoop)
  rw [storedCount, ← hcount, applyEffectTransitions, List.map_map]
  simp only [Function.comp_def, hone]
  exact sum_map_add_ite effects _ _

/-! ## The invariant -/

/-- No feedback that has a receipt waits for a commit under the same key. -/
def TokensUnreceipted (root : CoordinatorStateRootV1) : Prop :=
  ∀ {key token}, root.preparedFeedbackTokens.get key = some token →
    root.feedbackReceipts.get key = none

/-- The account of one record; `t` bounds the monotonic readings so far. -/
structure Accounted (config : CoordinatorConfigV1) (t : ℤ) (root : CoordinatorStateRootV1)
    (key : RecordKey) (record : CompleteIssuedResponseRecordV1) : Prop where
  revision : record.recordRevision = 1 + record.receipts.length
  bounded : record.receipts.length ≤ receiptsPerRecord
  shared : ∀ receipt ∈ record.receipts,
    root.feedbackReceipts.get ⟨key.stateKey, receipt.feedbackId⟩ = some receipt
  distinct : (record.receipts.map (·.feedbackId)).Nodup
  outlive : ∀ receipt ∈ record.receipts, record.expiresAtMonotonicNs ≤ receipt.expiresAtMonotonicNs
  completed : record.expiresAtMonotonicNs ≤ t + config.issuedTtlNs
  automata : ∀ effect ∈ record.effects, StatusAutomaton effect
  counted : (record.effects.map (·.effectKey)).Nodup →
    (record.receipts.map (·.stored)).sum = (record.effects.map (·.statusHistory.length)).sum

structure Accounting (config : CoordinatorConfigV1) (t : ℤ)
    (root : CoordinatorStateRootV1) : Prop where
  invariant : RootInvariant root
  tokens : TokensUnreceipted root
  records : ∀ {key record}, root.issuedRecords.get key = some (.complete record) →
    Accounted config t root key record

theorem Accounting.empty (config : CoordinatorConfigV1) (t : ℤ) :
    Accounting config t emptyCoordinatorRoot where
  invariant := .empty
  tokens h := by simp [emptyCoordinatorRoot] at h
  records h := by simp [emptyCoordinatorRoot] at h

theorem Accounting.mono {config : CoordinatorConfigV1} {t t' : ℤ} {root : CoordinatorStateRootV1}
    (ht : t ≤ t') (h : Accounting config t root) : Accounting config t' root where
  invariant := h.invariant
  tokens := h.tokens
  records hget := { h.records hget with
    completed := (h.records hget).completed.trans (by omega) }

variable {setup : CoordinatorSetup} {root root' : CoordinatorStateRootV1} {change : Change}

theorem RootStep.tokensUnreceipted (step : RootStep setup root change root')
    (h : TokensUnreceipted root) : TokensUnreceipted root' := by
  intro key token hget
  cases step with
  | cleanup =>
    have hbefore := h (FrozenMap.get_withoutKeys_eq_some.mp hget).1
    simp [withoutExpired, FrozenMap.get_withoutKeys, hbefore]
  | evict | reserve | abort | commit => exact h hget
  | drop => exact h (FrozenMap.get_withoutKeys_eq_some.mp hget).1
  | prepare admitted =>
    simp only [published_preparedFeedbackTokens, withPreparedToken, FrozenMap.get_insert] at hget
    split_ifs at hget with hkey
    · rw [hkey]
      exact admitted.noReceipt
    · exact h hget
  | commitFeedback =>
    obtain ⟨hbefore, hkey⟩ := FrozenMap.get_withoutKeys_eq_some.mp hget
    rw [published_feedbackReceipts, withCommittedFeedback,
      FrozenMap.get_insert_of_ne _ _ (by simpa using hkey)]
    exact h hbefore

/-- Receipts of the root change by their expiry and by new ones only. -/
theorem RootStep.receipt_kept (step : RootStep setup root change root') (h : TokensUnreceipted root)
    (noCleanup : ∀ mono epoch, change ≠ .cleanup mono epoch) {key : RecordKey}
    {receipt : FeedbackReceiptV1} (hget : root.feedbackReceipts.get key = some receipt) :
    root'.feedbackReceipts.get key = some receipt := by
  cases step with
  | cleanup mono epoch => exact absurd rfl (noCleanup mono epoch)
  | evict | reserve | abort | commit | prepare | drop => exact hget
  | commitFeedback admitted =>
    rw [published_feedbackReceipts, withCommittedFeedback, FrozenMap.get_insert_of_ne, hget]
    rintro rfl
    simp [h admitted.token] at hget

theorem Accounted.cleaned {config : CoordinatorConfigV1} {t mono epoch : ℤ} {key : RecordKey}
    {record : CompleteIssuedResponseRecordV1} (h : Accounted config t root key record)
    (live : mono < record.expiresAtMonotonicNs) :
    Accounted config t (published (withoutExpired config root mono epoch)) key
      (retainedReceipts mono record) := by
  have hsame : retainedReceipts mono record = record := by
    have hall : record.receipts.filter (fun receipt => mono < receipt.expiresAtMonotonicNs) =
        record.receipts := by
      rw [List.filter_eq_self]
      intro receipt hmem
      exact decide_eq_true (live.trans_le (h.outlive receipt hmem))
    rw [retainedReceipts, hall]
  rw [hsame]
  refine { h with shared := fun receipt hmem => ?_ }
  rw [published_feedbackReceipts, get_withoutExpired_receipts]
  exact ⟨h.shared receipt hmem, live.trans_le (h.outlive receipt hmem)⟩

theorem accounted_completeRecord (config : CoordinatorConfigV1) (root : CoordinatorStateRootV1)
    (key : RecordKey) (proposal : ReplyCommitProposalV1) (revision : StateRevisionRecordV1)
    (response : ReplyResponse) (now nowEpochMs : ℤ) :
    Accounted config now root key
      (completeRecord config proposal revision response now nowEpochMs) where
  revision := rfl
  bounded := Nat.zero_le _
  shared := by simp [completeRecord]
  distinct := List.nodup_nil
  outlive := by simp [completeRecord]
  completed := le_refl _
  automata effect hmem := by
    obtain ⟨hstatus, _, hhistory⟩ := deriveIssuedEffects_unreported hmem
    exact ⟨by rw [hstatus, hhistory]; rfl, .inl hhistory⟩
  counted _ := by
    have hzero : ∀ effect ∈ deriveIssuedEffects response, effect.statusHistory.length = 0 := by
      intro effect hmem
      rw [(deriveIssuedEffects_unreported hmem).2.2, List.length_nil]
    have hmap : (deriveIssuedEffects response).map (·.statusHistory.length) =
        (deriveIssuedEffects response).map (fun _ => 0) := List.map_congr_left hzero
    simp [completeRecord, hmap]

/-- Feedback is accounted for on its record. -/
theorem Accounted.fed {t now nowEpochMs : ℤ} {key : RecordKey}
    {record : CompleteIssuedResponseRecordV1}
    {prepared : PreparedFeedbackV1} {stored : PreparedFeedbackTokenRecordV1}
    {revision : StateRevisionRecordV1} (h : Accounted setup.config t root key record)
    (inv : RootInvariant root) (tokens : TokensUnreceipted root)
    (admitted : FeedbackAdmitted root prepared now stored record revision)
    (room : record.receipts.length < receiptsPerRecord) (genuine : Genuine root prepared)
    (hkey : key = ⟨prepared.stateKey, prepared.requestId⟩)
    (hget : root.issuedRecords.get key = some (.complete record)) (ht : t ≤ now) :
    Accounted setup.config t
      (published (withCommittedFeedback setup.config setup.sha256 root prepared
        record revision now nowEpochMs)) key
      (recordWithFeedback record prepared.transitions (feedbackReceipt setup.config setup.sha256
        prepared (record.recordRevision + 1) now nowEpochMs)) := by
  obtain ⟨_, _, feedback, hprepared⟩ := inv.feedbackTarget admitted genuine
  obtain ⟨hnodup, hvalid⟩ := prepareEffectTransitions_ok hprepared
  have hnew : root.feedbackReceipts.get prepared.tokenKey = none := tokens admitted.token
  have hfresh : ∀ receipt ∈ record.receipts, receipt.feedbackId ≠ prepared.feedbackId := by
    intro receipt hmem heq
    have hshared := h.shared receipt hmem
    rw [hkey, heq] at hshared
    exact absurd hshared (by rw [show (⟨prepared.stateKey, prepared.feedbackId⟩ : RecordKey) =
      prepared.tokenKey from rfl, hnew]; simp)
  constructor
  · simp [recordWithFeedback, h.revision]
    omega
  · simpa [recordWithFeedback] using Nat.succ_le_of_lt room
  · intro receipt hmem
    rw [published_feedbackReceipts, withCommittedFeedback]
    rcases List.mem_append.mp hmem with hmem | hmem
    · rw [FrozenMap.get_insert_of_ne, h.shared receipt hmem]
      intro heq
      exact hfresh receipt hmem (congrArg RecordKey.ident heq)
    · rw [List.mem_singleton.mp hmem, hkey]
      exact FrozenMap.get_insert_self ..
  · simp only [recordWithFeedback, List.map_append, List.map_cons, List.map_nil]
    rw [List.nodup_append]
    refine ⟨h.distinct, List.nodup_singleton _, ?_⟩
    intro id hid other hother
    obtain ⟨receipt, hmem, rfl⟩ := List.mem_map.mp hid
    rw [List.mem_singleton.mp hother]
    exact hfresh receipt hmem
  · intro receipt hmem
    rcases List.mem_append.mp hmem with hmem | hmem
    · exact h.outlive receipt hmem
    · rw [List.mem_singleton.mp hmem]
      have hcompleted := h.completed
      simp only [recordWithFeedback, feedbackReceipt]
      omega
  · exact h.completed
  · intro effect' hmem
    obtain ⟨effect, heffect, rfl⟩ := List.mem_map.mp hmem
    exact (h.automata effect heffect).apply hnodup (inv.lockstep hget) hvalid heffect
  · intro hkeys
    have hkeys' : (record.effects.map (·.effectKey)).Nodup := by
      simpa [recordWithFeedback, applyEffectTransitions, Function.comp_def] using hkeys
    simp only [recordWithFeedback, List.map_append, List.sum_append]
    rw [sum_statusHistory_apply hkeys' hnodup hvalid, h.counted hkeys']
    simp [feedbackReceipt]

theorem RootStep.accounting {operation : CoordinatorOperation} {draws : OperationDraws}
    (step : RootStep setup root change root') (hmem : change ∈ operation.changes draws)
    (h : Accounting setup.config draws.monotonicNs root)
    (guarded : Guarded genuineGuard root change) :
    Accounting setup.config draws.monotonicNs root' := by
  refine ⟨step.rootInvariant h.invariant guarded, step.tokensUnreceipted h.tokens, ?_⟩
  intro key record' hget
  have hsource := step.recordSource h.invariant guarded hget
  have hstep := step
  cases hsource with
  | kept noCleanup before =>
    have hbefore := h.records before
    refine { hbefore with shared := fun receipt hreceipt => ?_ }
    exact step.receipt_kept h.tokens noCleanup (hbefore.shared receipt hreceipt)
  | cleaned before live =>
    cases hstep
    exact (h.records before).cleaned live
  | @committed proposal readings =>
    have hreadings := (commit_mem_changes hmem).2
    subst hreadings
    exact accounted_completeRecord ..
  | fed admitted room genuine hkey before =>
    obtain ⟨_, rfl, rfl⟩ := commitFeedback_mem_changes hmem
    cases hstep with
    | commitFeedback admitted' =>
      obtain ⟨rfl, rfl⟩ := admitted'.unique admitted
      exact (h.records before).fed h.invariant h.tokens admitted room genuine hkey
        before (le_refl _)

/-- In every reachable root the receipts, the revision and the histories of a record agree. -/
theorem feedback_accounting {es : List CoordinatorEvent} {c : Coordinator}
    (run : CoordinatorRun setup (fun es e => Admissible es e ∧ MonotonicClock es e) es c)
    {key : RecordKey} {record : CompleteIssuedResponseRecordV1}
    (hget : c.root.issuedRecords.get key = some (.complete record)) :
    record.recordRevision = 1 + record.receipts.length ∧ record.receipts.length ≤ 64 ∧
    (∀ receipt ∈ record.receipts,
      c.root.feedbackReceipts.get ⟨record.stateKey, receipt.feedbackId⟩ = some receipt) ∧
    (∀ effect ∈ record.effects, effect.status = effect.statusHistory.getLast? ∧
      (effect.statusHistory = [] ∨ (∃ status, effect.statusHistory = [status]) ∨
        ∃ status, (status = .failed ∨ status = .skipped) ∧
          effect.statusHistory = [status, .executed])) ∧
    (record.receipts.map (·.feedbackId)).Nodup ∧
    ((record.effects.map (·.effectKey)).Nodup →
      (record.receipts.map (·.stored)).sum =
        (record.effects.map (·.statusHistory.length)).sum) := by
  obtain ⟨t, ht⟩ := exists_clock_bound (·.monotonicNs) es
  have h : Accounting setup.config t c.root := by
    refine run_clock_invariant (·.monotonicNs) genuineGuard run
      (fun _ _ _ ok he => ok.2.le he)
      (fun _ _ _ hrun ok => holds_of_admissible (fun _ _ => And.left) hrun ok)
      (Accounting.empty setup.config) Accounting.mono ?_ ht
    exact fun hmem guarded h step => step.accounting hmem h guarded
  have hrecord := h.records hget
  have hkey : record.stateKey = key.stateKey := (h.invariant.keyed hget).1
  rw [hkey]
  exact ⟨hrecord.revision, hrecord.bounded, hrecord.shared,
    fun effect hmem => ⟨(hrecord.automata effect hmem).last, (hrecord.automata effect hmem).path⟩,
    hrecord.distinct, hrecord.counted⟩

def effectKeysChecked : CheckedTrace sampleSetup
    (fun es e => Admissible es e ∧ MonotonicClock es e) sampleFeedbackInputs fun t =>
    ((t.2.root.issuedRecords.get ⟨sampleKey, "r"⟩).bind (·.complete?)).any
      (fun record => (record.effects.map (·.effectKey)).Nodup) :=
  ⟨by decide +kernel⟩

/-- After the feedback of the sample run its record has one receipt, for one status. -/
theorem feedback_accounting_sample :
    ∃ record, (coordinatorTrace sampleSetup sampleFeedbackInputs).2.root.issuedRecords.get
        ⟨sampleKey, "r"⟩ = some (.complete record) ∧
      record.recordRevision = 1 + record.receipts.length ∧
      (record.receipts.map (·.stored)).sum =
        (record.effects.map (·.statusHistory.length)).sum := by
  obtain ⟨hrun, hcomplete⟩ := effectKeysChecked.run
  obtain ⟨record, hrecord, hnodup⟩ := (Option.any_eq_true _ _).mp hcomplete
  obtain ⟨issued, hget, hissued⟩ := Option.bind_eq_some_iff.mp hrecord
  obtain rfl := IssuedResponseRecordV1.complete?_eq_some.mp hissued
  obtain ⟨hrevision, _, _, _, _, hcounted⟩ := feedback_accounting hrun hget
  exact ⟨record, hget, hrevision, hcounted (of_decide_eq_true hnodup)⟩

end MarketSupport
