import MarketSupport.State.RootInvariant

/-!
# Pending clarifications

A conversation has a pending clarification exactly when the last thing said in it asked for
one. The turns and the clarifications are two maps that expire by separate filters; they stay
together because a clarification is as old as the turn that asked for it.

## Main results

* `RootStep.dialogue` — every publication keeps the two maps together.
* `clarification_iff_last_turn` — the correspondence in every reachable root.
-/

namespace MarketSupport

open Library

/-- The turn asked for the clarification. -/
structure AskedBy (clarification : PendingClarificationRecordV1) (turn : ConversationTurnRecordV2) :
    Prop where
  role : turn.role = .assistant
  ref : turn.clarificationRef = some clarification.clarificationRef
  ordinal : clarification.originatingTurnOrdinal = turn.ordinal
  hashes : (clarification.pol1, clarification.par1, clarification.grh1, clarification.bsh1) =
    (turn.pol1, turn.par1, turn.grh1, turn.bsh1)
  created : clarification.createdAtEpochMs = turn.createdAtEpochMs

/-- The turns of a conversation and its pending clarification fit together at time `t`. -/
structure Dialogue (t : ℤ) (turns : List ConversationTurnRecordV2)
    (clarification : Option PendingClarificationRecordV1) : Prop where
  sorted : turns.Pairwise (·.createdAtEpochMs ≤ ·.createdAtEpochMs)
  bounded : ∀ turn ∈ turns, turn.createdAtEpochMs ≤ t
  asked : ∀ {c}, clarification = some c → ∃ turn, turns.getLast? = some turn ∧ AskedBy c turn
  pending : ∀ {turn ref}, turns.getLast? = some turn → turn.role = .assistant →
    turn.clarificationRef = some ref → ∃ c, clarification = some c

/-- All conversations of the root; one without an entry has no turns. -/
def Dialogues (t : ℤ) (root : CoordinatorStateRootV1) : Prop :=
  ∀ k, Dialogue t (priorTurns root k) (root.clarificationRecords.get k)

theorem Dialogue.nil (t : ℤ) : Dialogue t [] none :=
  ⟨.nil, by simp, by simp, by simp⟩

theorem Dialogue.mono {t t' : ℤ} {turns : List ConversationTurnRecordV2}
    {clarification : Option PendingClarificationRecordV1} (h : Dialogue t turns clarification)
    (ht : t ≤ t') : Dialogue t' turns clarification :=
  ⟨h.sorted, fun turn hturn => (h.bounded turn hturn).trans ht, h.asked, h.pending⟩

/-! ## The last messages -/

theorem lastMessages_sublist {α : Type} (n : ℕ) (l : List α) : (lastMessages n l).Sublist l := by
  unfold lastMessages
  split_ifs
  · exact List.Sublist.refl l
  · exact List.drop_sublist _ l

theorem getLast?_lastMessages {α : Type} {n : ℕ} (hn : 1 ≤ n) (l : List α) :
    (lastMessages n l).getLast? = l.getLast? := by
  unfold lastMessages
  rw [if_neg (by omega), List.getLast?_drop]
  split_ifs with hlen
  · have hnil : l = [] := List.eq_nil_of_length_eq_zero (by omega)
    rw [hnil, List.getLast?_nil]
  · rfl

/-! ## Expiry -/

/-- The newest turn decides: if it expired, so did all the others. -/
theorem Dialogue.retained {t : ℤ} {turns : List ConversationTurnRecordV2}
    {clarification : Option PendingClarificationRecordV1} (h : Dialogue t turns clarification)
    {config : CoordinatorConfigV1} (messages : 1 ≤ config.conversationMaxMessages) (epoch : ℤ) :
    Dialogue t (retainedTurns config epoch turns) (clarification.filter
      (fun c => epoch < c.createdAtEpochMs + config.conversationTtlMs)) := by
  have hsub : (retainedTurns config epoch turns).Sublist turns :=
    (lastMessages_sublist _ _).trans List.filter_sublist
  have hlast : ∀ turn, turns.getLast? = some turn → (retainedTurns config epoch turns).getLast? =
      if epoch < turn.createdAtEpochMs + config.conversationTtlMs then some turn else none := by
    intro turn hturn
    obtain ⟨before, rfl⟩ := List.getLast?_eq_some_iff.mp hturn
    rw [retainedTurns, getLast?_lastMessages messages]
    split_ifs with hexp
    · rw [List.filter_append, List.filter_cons_of_pos (by simpa using hexp)]
      simp
    · rw [List.getLast?_eq_none_iff, List.filter_eq_nil_iff]
      intro other hother
      have hle : other.createdAtEpochMs ≤ turn.createdAtEpochMs := by
        rcases List.mem_append.mp hother with hother | hother
        · exact (List.pairwise_append.mp h.sorted).2.2 other hother turn (by simp)
        · rw [List.mem_singleton.mp hother]
      simp only [decide_eq_true_eq]
      omega
  refine ⟨h.sorted.sublist hsub, fun turn hturn => h.bounded turn (hsub.subset hturn), ?_, ?_⟩
  · intro c hc
    obtain ⟨hc, hexp⟩ := Option.filter_eq_some_iff.mp hc
    obtain ⟨turn, hturn, asked⟩ := h.asked hc
    refine ⟨turn, ?_, asked⟩
    rw [hlast turn hturn, if_pos]
    rw [← asked.created]
    exact of_decide_eq_true hexp
  · intro turn ref hturn hrole href
    cases hturns : turns.getLast? with
    | none =>
      rw [List.getLast?_eq_none_iff] at hturns
      rw [hturns] at hturn
      simp [retainedTurns, lastMessages] at hturn
    | some last =>
      rw [hlast last hturns] at hturn
      split_ifs at hturn with hexp
      obtain rfl := Option.some.inj hturn
      obtain ⟨c, rfl⟩ := h.pending hturns hrole href
      obtain ⟨turn, hturn, asked⟩ := h.asked rfl
      obtain rfl := Option.some.inj (hturns.symm.trans hturn)
      refine ⟨c, ?_⟩
      rw [Option.filter_eq_some_iff]
      exact ⟨rfl, by simpa [asked.created] using hexp⟩

theorem priorTurns_withoutExpired (config : CoordinatorConfigV1) (root : CoordinatorStateRootV1)
    (mono epoch : ℤ) (k : ConversationStateKey) :
    priorTurns (withoutExpired config root mono epoch) k =
      retainedTurns config epoch (priorTurns root k) := by
  simp only [priorTurns, withoutExpired, retainedConversationTurns, FrozenMap.get_filterMap]
  cases root.conversationTurns.get k with
  | none => simp [retainedTurns, lastMessages]
  | some turns =>
    rw [Option.bind_some]
    split_ifs with h <;> simp [h]

theorem Dialogues.withoutExpired {t mono epoch : ℤ} {root : CoordinatorStateRootV1}
    (h : Dialogues t root) {config : CoordinatorConfigV1}
    (messages : 1 ≤ config.conversationMaxMessages) :
    Dialogues t (withoutExpired config root mono epoch) := by
  intro k
  have hk := (h k).retained messages epoch
  have hturns : priorTurns (MarketSupport.withoutExpired config root mono epoch) k =
      retainedTurns config epoch (priorTurns root k) := priorTurns_withoutExpired ..
  have hclarification :
      (MarketSupport.withoutExpired config root mono epoch).clarificationRecords.get k =
      (root.clarificationRecords.get k).filter
        (fun c => epoch < c.createdAtEpochMs + config.conversationTtlMs) := by
    refine Option.ext fun c => ?_
    rw [get_withoutExpired_clarifications, Option.filter_eq_some_iff, decide_eq_true_eq]
  rw [hturns, hclarification]
  exact hk

/-! ## Commits -/

/-- The assistant turn of an exchange asks for the clarification of the exchange. -/
theorem askedBy_assistantTurn {sha256 : Sha256} {proposal : ReplyCommitProposalV1} {ordinal : ℕ}
    {now : ℤ} {clarification : PendingClarificationRecordV1}
    (h : proposedClarification sha256 proposal ordinal now = some clarification) :
    AskedBy clarification (assistantTurnRecord sha256 proposal ordinal now) := by
  unfold proposedClarification at h
  obtain ⟨c, hc, rfl⟩ := Option.map_eq_some_iff.mp h
  refine ⟨rfl, ?_, rfl, rfl, rfl⟩
  simp [assistantTurnRecord, proposedClarificationRef, hc]

theorem Dialogue.committed {t : ℤ} {turns : List ConversationTurnRecordV2}
    {clarification : Option PendingClarificationRecordV1} (h : Dialogue t turns clarification)
    {config : CoordinatorConfigV1} (messages : 1 ≤ config.conversationMaxMessages) (sha256 : Sha256)
    (proposal : ReplyCommitProposalV1) :
    Dialogue t (lastMessages config.conversationMaxMessages (turns ++
        [userTurnRecord proposal turns.length t,
          assistantTurnRecord sha256 proposal turns.length t]))
      (proposedClarification sha256 proposal turns.length t) := by
  have hsorted : (turns ++ [userTurnRecord proposal turns.length t,
      assistantTurnRecord sha256 proposal turns.length t]).Pairwise
      (·.createdAtEpochMs ≤ ·.createdAtEpochMs) := by
    refine List.pairwise_append.mpr ⟨h.sorted, ?_, ?_⟩
    · simp [userTurnRecord, assistantTurnRecord]
    · intro a ha b hb
      have hbt : b.createdAtEpochMs = t := by
        rcases List.mem_pair.mp hb with rfl | rfl <;> rfl
      rw [hbt]
      exact h.bounded a ha
  have hlast : (lastMessages config.conversationMaxMessages (turns ++
      [userTurnRecord proposal turns.length t,
        assistantTurnRecord sha256 proposal turns.length t])).getLast? =
      some (assistantTurnRecord sha256 proposal turns.length t) := by
    rw [getLast?_lastMessages messages]
    simp
  refine ⟨hsorted.sublist (lastMessages_sublist _ _), ?_, ?_, ?_⟩
  · intro turn hturn
    rcases List.mem_append.mp ((lastMessages_sublist _ _).subset hturn) with hturn | hturn
    · exact h.bounded turn hturn
    · rcases List.mem_pair.mp hturn with rfl | rfl <;> exact le_refl t
  · exact fun hc => ⟨_, hlast, askedBy_assistantTurn hc⟩
  · intro turn ref hturn _ href
    obtain rfl := Option.some.inj (hlast.symm.trans hturn)
    simp only [assistantTurnRecord, proposedClarificationRef] at href
    obtain ⟨c, hc, _⟩ := Option.map_eq_some_iff.mp href
    simp [proposedClarification, hc]

theorem Dialogues.committedRoot {root : CoordinatorStateRootV1} {readings : CommitReadings}
    (h : Dialogues readings.epochMs root) (setup : CoordinatorSetup)
    (proposal : ReplyCommitProposalV1) (revision : StateRevisionRecordV1) (audit : AuditRecordV1)
    (victims : List ConversationStateKey) :
    Dialogues readings.epochMs
      (committedRoot setup root proposal readings revision audit victims) := by
  intro k
  simp only [priorTurns, MarketSupport.committedRoot, withoutSessions, withCommittedReply,
    FrozenMap.get_withoutKeys]
  by_cases hvictim : k ∈ victims
  · rw [if_pos hvictim, if_pos hvictim]
    exact .nil _
  rw [if_neg hvictim, if_neg hvictim]
  by_cases hk : k = proposal.stateKey
  · subst hk
    have hcommitted := (h proposal.stateKey).committed setup.accepted.messages_pos setup.sha256
      proposal
    rw [FrozenMap.get_insert_self]
    unfold committedClarifications
    cases hc : proposedClarification setup.sha256 proposal
      (priorTurns root proposal.stateKey).length
        readings.epochMs with
    | none =>
      rw [hc] at hcommitted
      rw [FrozenMap.get_withoutKeys_singleton_self]
      exact hcommitted
    | some clarification =>
      rw [hc] at hcommitted
      rw [FrozenMap.get_insert_self]
      exact hcommitted
  · rw [FrozenMap.get_insert_of_ne _ _ hk, committedClarifications_of_ne hk]
    exact h k

/-! ## Steps and runs -/

variable {setup : CoordinatorSetup}

theorem RootStep.dialogue {root root' : CoordinatorStateRootV1} {change : Change}
    {operation : CoordinatorOperation} {draws : OperationDraws}
    (step : RootStep setup root change root') (hmem : change ∈ operation.changes draws)
    (h : Dialogues draws.epochMs root) : Dialogues draws.epochMs root' := by
  cases step with
  | cleanup mono epoch => exact h.withoutExpired setup.accepted.messages_pos
  | @commit proposal readings revision pending audit victims =>
    have hepoch : readings.epochMs = draws.epochMs := by
      rw [(commit_mem_changes hmem).2]
      rfl
    rw [← hepoch] at h ⊢
    exact h.committedRoot setup proposal revision audit victims
  | evict | reserve | abort | prepare | commitFeedback | drop => exact h

theorem Dialogues.of_run {adm : List CoordinatorEvent → CoordinatorEvent → Prop}
    {es : List CoordinatorEvent} {c : Coordinator} (run : CoordinatorRun setup adm es c)
    (hadm : ∀ es e, adm es e → WallClock es e) {t : ℤ} (ht : ∀ e ∈ es, e.input.2.epochMs ≤ t) :
    Dialogues t c.root :=
  run_clock_invariant (·.epochMs) {} run (fun _ _ _ h he => (hadm _ _ h).le he)
    (fun _ _ _ _ _ => ⟨fun _ _ => trivial, fun _ _ => trivial⟩) (fun t _ => .nil t)
    (fun ht h k => (h k).mono ht) (fun hmem _ h step => step.dialogue hmem h) ht

/-- A clarification is pending exactly when the last retained turn asked for it. -/
theorem clarification_iff_last_turn {es : List CoordinatorEvent} {c : Coordinator}
    (run : CoordinatorRun setup WallClock es c) (k : ConversationStateKey) :
    ((∃ clarification, c.root.clarificationRecords.get k = some clarification) ↔
      ∃ turns turn ref, c.root.conversationTurns.get k = some turns ∧ turns.getLast? = some turn ∧
        turn.role = .assistant ∧ turn.clarificationRef = some ref) ∧
    ∀ clarification, c.root.clarificationRecords.get k = some clarification →
      ∃ turns turn, c.root.conversationTurns.get k = some turns ∧ turns.getLast? = some turn ∧
        turn.role = .assistant ∧ turn.clarificationRef = some clarification.clarificationRef ∧
        turn.ordinal = clarification.originatingTurnOrdinal ∧ turn.pol1 = clarification.pol1 ∧
        turn.par1 = clarification.par1 ∧ turn.grh1 = clarification.grh1 ∧
        turn.bsh1 = clarification.bsh1 := by
  obtain ⟨t, ht⟩ := exists_clock_bound (·.epochMs) es
  have hk := Dialogues.of_run run (fun _ _ => id) ht k
  have hturns : ∀ turn, (priorTurns c.root k).getLast? = some turn →
      ∃ turns, c.root.conversationTurns.get k = some turns ∧ turns.getLast? = some turn := by
    intro turn hturn
    cases hget : c.root.conversationTurns.get k with
    | none => simp [priorTurns, hget] at hturn
    | some turns => exact ⟨turns, rfl, by simpa [priorTurns, hget] using hturn⟩
  refine ⟨⟨?_, ?_⟩, ?_⟩
  · rintro ⟨clarification, hc⟩
    obtain ⟨turn, hlast, asked⟩ := hk.asked hc
    obtain ⟨turns, hget, hlast⟩ := hturns turn hlast
    exact ⟨turns, turn, _, hget, hlast, asked.role, asked.ref⟩
  · rintro ⟨turns, turn, ref, hget, hlast, hrole, href⟩
    exact hk.pending (by simpa [priorTurns, hget] using hlast) hrole href
  · intro clarification hc
    obtain ⟨turn, hlast, asked⟩ := hk.asked hc
    obtain ⟨turns, hget, hlast⟩ := hturns turn hlast
    have hhashes := asked.hashes
    simp only [Prod.mk.injEq] at hhashes
    exact ⟨turns, turn, hget, hlast, asked.role, asked.ref, asked.ordinal.symm, hhashes.1.symm,
      hhashes.2.1.symm, hhashes.2.2.1.symm, hhashes.2.2.2.symm⟩

/-- A reply that asks back. -/
def clarificationProposal : ReplyCommitProposalV1 :=
  { sampleProposal 1 "r" ⟨"", ⟨.clarification, "which one?", []⟩, []⟩ with
    assistantTurn := ⟨"which one?", .clarification, true⟩
    clarification := some ⟨.other, ["product"], "which one?", none⟩ }

/-- In the sample run the question stays pending after the turn that asked it. -/
theorem clarification_iff_last_turn_sample :
    ∃ turns turn ref, (coordinatorTrace sampleSetup
        [(.reserveReply sampleKey "r" "h" true, sampleDraws 1 1),
          (.commitReply clarificationProposal, sampleDraws 2 2)]).2.root.conversationTurns.get
        sampleKey = some turns ∧ turns.getLast? = some turn ∧ turn.role = .assistant ∧
      turn.clarificationRef = some ref :=
  ((clarification_iff_last_turn (coordinatorTrace_run (by decide +kernel)) sampleKey).1).mp
    (Option.isSome_iff_exists.mp (by decide +kernel))

end MarketSupport
