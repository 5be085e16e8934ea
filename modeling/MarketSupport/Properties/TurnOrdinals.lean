import MarketSupport.Identity.KeyBytes
import MarketSupport.Properties.Clarifications

/-!
# Turn ordinals

The ordinal of a new turn is the number of the retained ones, which identifies it as long as
no turn was dropped before the ones that are retained.

## Main results

* `committed_increasing_iff` — when a commit keeps the ordinals of a conversation increasing.
* `ordinals_identify_turns` — the ordinals and the clarification references along a run.
-/

namespace MarketSupport

open Library

/-! ## The ordinals of a commit -/

/-- The prior turns that stay when an exchange is appended. -/
def keptTurns (config : CoordinatorConfigV1) (prior : List ConversationTurnRecordV2) :
    List ConversationTurnRecordV2 :=
  prior.drop (prior.length + 2 - config.conversationMaxMessages)

/-- The prior turns that stay have ordinals below the number of the prior turns. -/
def OrdinalsBelow (config : CoordinatorConfigV1) (root : CoordinatorStateRootV1)
    (proposal : ReplyCommitProposalV1) (_ : CommitReadings) : Prop :=
  ∀ turn ∈ keptTurns config (priorTurns root proposal.stateKey),
    turn.ordinal < (priorTurns root proposal.stateKey).length

section Commit

variable {setup : CoordinatorSetup} {root : CoordinatorStateRootV1}
  {proposal : ReplyCommitProposalV1} {epoch : ℤ}

/-- The two turns of an exchange that is committed. -/
def exchangeTurns (setup : CoordinatorSetup) (root : CoordinatorStateRootV1)
    (proposal : ReplyCommitProposalV1) (epoch : ℤ) : List ConversationTurnRecordV2 :=
  [userTurnRecord proposal (priorTurns root proposal.stateKey).length epoch,
    assistantTurnRecord setup.sha256 proposal (priorTurns root proposal.stateKey).length epoch]

theorem committedTurns_eq : committedTurns setup.config setup.sha256 root proposal epoch =
    keptTurns setup.config (priorTurns root proposal.stateKey) ++
      (exchangeTurns setup root proposal epoch).drop
        (2 - setup.config.conversationMaxMessages) := by
  have hmessages := setup.accepted.messages_pos
  change lastMessages _ (priorTurns root proposal.stateKey ++
    exchangeTurns setup root proposal epoch)
    = _
  have hlength : (priorTurns root proposal.stateKey ++
      exchangeTurns setup root proposal epoch).length =
      (priorTurns root proposal.stateKey).length + 2 := by
    rw [List.length_append]
    rfl
  rw [lastMessages, if_neg (by omega), hlength, List.drop_append, keptTurns]
  congr 2
  omega

theorem ordinal_of_mem_exchangeTurns {turn : ConversationTurnRecordV2}
    (h : turn ∈ exchangeTurns setup root proposal epoch) :
    (priorTurns root proposal.stateKey).length ≤ turn.ordinal := by
  rcases List.mem_pair.mp h with rfl | rfl
  · exact le_refl _
  · exact Nat.le_succ _

theorem exchangeTurns_increasing :
    (exchangeTurns setup root proposal epoch).Pairwise (·.ordinal < ·.ordinal) := by
  simp [exchangeTurns, userTurnRecord, assistantTurnRecord]

/-- A commit keeps the ordinals increasing exactly when those that stay are below. -/
theorem committed_increasing_iff {readings : CommitReadings}
    (h : (priorTurns root proposal.stateKey).Pairwise (·.ordinal < ·.ordinal)) :
    (committedTurns setup.config setup.sha256 root proposal epoch).Pairwise
      (·.ordinal < ·.ordinal) ↔ OrdinalsBelow setup.config root proposal readings := by
  have hkept : (keptTurns setup.config (priorTurns root proposal.stateKey)).Pairwise
      (·.ordinal < ·.ordinal) := h.sublist (List.drop_sublist _ _)
  rw [committedTurns_eq, List.pairwise_append, and_iff_right hkept,
    and_iff_right (exchangeTurns_increasing.sublist (List.drop_sublist _ _))]
  constructor
  · intro hbelow turn hturn
    -- A prior turn only stays when the user turn does.
    have hcap : 2 ≤ setup.config.conversationMaxMessages := by
      by_contra hlt
      rw [keptTurns, List.drop_eq_nil_of_le (by omega)] at hturn
      cases hturn
    rw [Nat.sub_eq_zero_of_le hcap, List.drop_zero] at hbelow
    exact hbelow turn hturn _ List.mem_cons_self
  · intro hbelow turn hturn new hnew
    exact (hbelow turn hturn).trans_le
      (ordinal_of_mem_exchangeTurns ((List.drop_sublist _ _).subset hnew))

end Commit

/-! ## References -/

/-- The clarification that an event asks for: its conversation, its ordinal and its question. -/
def askedClarifications (e : CoordinatorEvent) : List (ConversationStateKey × ℕ × String) :=
  match e.input.1 with
  | .commitReply proposal => proposal.clarification.toList.map fun clarification =>
      (proposal.stateKey, (priorTurns e.before.root proposal.stateKey).length + 1,
        clarification.question)
  | _ => []

/-- The bytes of which the reference of a clarification is the digest. -/
def clarificationFrame (sha256 : Sha256) (asked : ConversationStateKey × ℕ × String) : Bytes :=
  utf8Bytes "clarification-record.v1" ++
    0 :: (clarificationPayload sha256 asked.1 asked.2.1 asked.2.2).canonicalBytes

/-- The digest has no collision on the clarifications of a conversation. -/
def CollisionFree (sha256 : Sha256) (asked : List (ConversationStateKey × ℕ × String)) : Prop :=
  ∀ a ∈ asked, ∀ b ∈ asked, a.1 = b.1 →
    sha256 (clarificationFrame sha256 a) = sha256 (clarificationFrame sha256 b) →
      clarificationFrame sha256 a = clarificationFrame sha256 b

theorem dumps_clarificationPayload (sha256 : Sha256) (key : ConversationStateKey) (ordinal : ℕ)
    (proposal : String) : (clarificationPayload sha256 key ordinal proposal).dumps =
      '{' :: jsonText "ordinal" ++ ':' :: (Nat.toDigits 10 ordinal ++ ',' ::
        (jsonText "proposal" ++ ':' :: jsonText proposal ++ ',' ::
          (jsonText "state_key_ref" ++ ':' :: jsonText (stateKeyRef sha256 key) ++ ['}']))) := by
  have hordinal : "ordinal" ≤ "proposal" := by decide
  have hproposal : ¬ "state_key_ref" ≤ "proposal" := by decide
  have hdigits : (toString ordinal).toList = Nat.toDigits 10 ordinal := String.toList_ofList
  simp [clarificationPayload, JsonValue.dumps, dumpsMembers, joinMembers, List.orderedInsert,
    hordinal, hproposal, List.intercalate, List.intersperse, -Nat.toString_eq_repr, hdigits]

/-- Frames tell the ordinals: the digits end at the comma after them. -/
theorem ordinal_of_clarificationFrame {sha256 : Sha256} {a b : ConversationStateKey × ℕ × String}
    (h : clarificationFrame sha256 a = clarificationFrame sha256 b) : a.2.1 = b.2.1 := by
  have hdumps := String.ofList_inj.mp (utf8Bytes_injective
    (List.cons.inj (List.append_cancel_left h)).2)
  rw [dumps_clarificationPayload, dumps_clarificationPayload] at hdumps
  have hcomma : ∀ n, ',' ∉ Nat.toDigits 10 n := fun n hmem =>
    absurd (Nat.isDigit_of_mem_toDigits (by decide) (by decide) hmem) (by decide)
  have hdigits : Nat.toDigits 10 a.2.1 = Nat.toDigits 10 b.2.1 :=
    (append_separator_inj (hcomma _) (hcomma _)
      (List.cons.inj (List.append_cancel_left hdumps)).2).1
  have hread : ∀ n, Nat.ofDigitChars 10 (Nat.toDigits 10 n) 0 = n :=
    fun n => Nat.ofDigitChars_toDigits (by decide) (by decide)
  rw [← hread a.2.1, hdigits, hread]

/-- So references do, when the digest has no collision. -/
theorem CollisionFree.ordinal_eq {sha256 : Sha256}
    {asked : List (ConversationStateKey × ℕ × String)} (free : CollisionFree sha256 asked)
    {k : ConversationStateKey} {m n : ℕ} {question question' : String}
    (hm : (k, m, question) ∈ asked) (hn : (k, n, question') ∈ asked)
    (h : clarificationRefHash sha256 k m question = clarificationRefHash sha256 k n question') :
    m = n := by
  have hdigest : sha256 (clarificationFrame sha256 (k, m, question)) =
      sha256 (clarificationFrame sha256 (k, n, question')) := String.append_right_inj _ |>.mp h
  exact ordinal_of_clarificationFrame (free _ hm _ hn rfl hdigest)

/-- The turns of a conversation stand in the order of their ordinals, and their clarifications
are among the ones that were asked for. -/
structure TurnsIdentified (sha256 : Sha256) (asked : List (ConversationStateKey × ℕ × String))
    (k : ConversationStateKey) (turns : List ConversationTurnRecordV2) : Prop where
  increasing : turns.Pairwise (·.ordinal < ·.ordinal)
  refs : ∀ turn ∈ turns, ∀ ref, turn.clarificationRef = some ref → ∃ question,
    (k, turn.ordinal, question) ∈ asked ∧ ref = clarificationRefHash sha256 k turn.ordinal question

section Runs

variable {setup : CoordinatorSetup} {asked : List (ConversationStateKey × ℕ × String)}
  {k : ConversationStateKey} {root : CoordinatorStateRootV1}

theorem TurnsIdentified.nil : TurnsIdentified setup.sha256 asked k [] :=
  ⟨.nil, by simp⟩

theorem TurnsIdentified.sublist {turns turns' : List ConversationTurnRecordV2}
    (h : TurnsIdentified setup.sha256 asked k turns) (hsub : turns'.Sublist turns) :
    TurnsIdentified setup.sha256 asked k turns' :=
  ⟨h.increasing.sublist hsub, fun turn hturn => h.refs turn (hsub.subset hturn)⟩

/-- What a commit of a reply is asked to meet. -/
def ordinalGuard (setup : CoordinatorSetup) (asked : List (ConversationStateKey × ℕ × String)) :
    CommitGuard where
  reply root proposal readings := OrdinalsBelow setup.config root proposal readings ∧
    ∀ clarification, proposal.clarification = some clarification →
      (proposal.stateKey, (priorTurns root proposal.stateKey).length + 1,
        clarification.question) ∈ asked

theorem TurnsIdentified.committed {proposal : ReplyCommitProposalV1} {readings : CommitReadings}
    (h : TurnsIdentified setup.sha256 asked proposal.stateKey (priorTurns root proposal.stateKey))
    (guard : (ordinalGuard setup asked).reply root proposal readings) :
    TurnsIdentified setup.sha256 asked proposal.stateKey
      (committedTurns setup.config setup.sha256 root proposal readings.epochMs) := by
  refine ⟨(committed_increasing_iff h.increasing).mpr guard.1, fun turn hturn ref href => ?_⟩
  rw [committedTurns_eq] at hturn
  obtain hkept | hnew := List.mem_append.mp hturn
  · exact h.refs turn ((List.drop_sublist _ _).subset hkept) ref href
  · rcases List.mem_pair.mp ((List.drop_sublist _ _).subset hnew) with rfl | rfl
    · cases href
    · obtain ⟨clarification, hclarification, rfl⟩ := Option.map_eq_some_iff.mp href
      exact ⟨clarification.question, guard.2 clarification hclarification, rfl⟩

/-- All conversations of a root. -/
def AllIdentified (setup : CoordinatorSetup) (asked : List (ConversationStateKey × ℕ × String))
    (root : CoordinatorStateRootV1) : Prop :=
  ∀ k, TurnsIdentified setup.sha256 asked k (priorTurns root k)

/-- Every publication keeps the turns identified, when its commit meets the guard. -/
theorem RootStep.allIdentified {root' : CoordinatorStateRootV1} {change : Change}
    (step : RootStep setup root change root')
    (guarded : Guarded (ordinalGuard setup asked) root change)
    (h : AllIdentified setup asked root) : AllIdentified setup asked root' := by
  cases step with
  | cleanup mono epoch =>
    intro k
    have hturns : priorTurns (published (withoutExpired setup.config root mono epoch)) k =
        retainedTurns setup.config epoch (priorTurns root k) :=
      priorTurns_withoutExpired setup.config root mono epoch k
    rw [hturns]
    exact (h k).sublist ((lastMessages_sublist _ _).trans List.filter_sublist)
  | @commit proposal readings revision pending audit victims =>
    intro k
    simp only [priorTurns, published_conversationTurns, committedRoot, withoutSessions,
      withCommittedReply, FrozenMap.get_withoutKeys]
    by_cases hvictim : k ∈ victims
    · rw [if_pos hvictim]
      exact .nil
    rw [if_neg hvictim]
    by_cases hk : k = proposal.stateKey
    · subst hk
      rw [FrozenMap.get_insert_self]
      exact (h proposal.stateKey).committed guarded
    · rw [FrozenMap.get_insert_of_ne _ _ hk]
      exact h k
  | evict | reserve | abort | prepare | commitFeedback | drop => exact h

/-- In a run whose commits come to conversations that lost no turns before those that stay,
ordinals and clarification references identify the retained turns. The condition is only
sufficient: the turns with a repeated ordinal may be dropped again before the last root, and
references with the same ordinal still differ when their questions do. -/
theorem ordinals_identify_turns {es : List CoordinatorEvent} {c : Coordinator}
    (run : CoordinatorRun setup (fun _ e => CommitsMeet (OrdinalsBelow setup.config) e) es c)
    (free : CollisionFree setup.sha256 (es.flatMap askedClarifications))
    {turns : List ConversationTurnRecordV2} (hget : c.root.conversationTurns.get k = some turns) :
    turns.Pairwise (·.ordinal < ·.ordinal) ∧
      turns.Pairwise fun a b => ∀ ref, a.clarificationRef = some ref →
        b.clarificationRef ≠ some ref := by
  set asked := es.flatMap askedClarifications
  have hrun := run.strengthen (Q := fun e => ∀ a ∈ askedClarifications e, a ∈ asked)
    fun e he a ha => List.mem_flatMap.mpr ⟨e, he, ha⟩
  have hall : AllIdentified setup asked c.root :=
    run_clock_invariant (P := fun _ => AllIdentified setup asked) (fun _ => 0)
      (ordinalGuard setup asked) hrun (fun _ _ _ _ _ => le_refl 0)
      (fun es c input _ hadm => {
        reply := fun hop hout => by
          refine ⟨hadm.1 _ _ hop hout, fun clarification hclarification => hadm.2 _ ?_⟩
          simp only [askedClarifications]
          rw [show ((coordinatorSystem setup).event c input).input.1 = _ from hop]
          simp only [hclarification]
          exact List.mem_singleton_self _
        feedback := fun _ _ => trivial })
      (fun _ _ => .nil) (fun _ h => h) (fun _ guarded h step => step.allIdentified guarded h)
      (t := 0) (fun _ _ => le_refl 0)
  have hturns : priorTurns c.root k = turns := by simp [priorTurns, hget]
  obtain ⟨increasing, refs⟩ := hturns ▸ hall k
  refine ⟨increasing, increasing.imp_of_mem fun {a b} ha hb hlt ref hrefa hrefb => ?_⟩
  obtain ⟨p, hp, rfl⟩ := refs a ha ref hrefa
  obtain ⟨q, hq, heq⟩ := refs b hb _ hrefb
  exact hlt.ne (free.ordinal_eq hp hq heq)

end Runs

/-! ## Samples -/

namespace RepeatedQuestion

/-- The sample setup, with the sum of the bytes for the digest. -/
def setup : CoordinatorSetup :=
  { sampleSetup with sha256 := fun bytes => toString (bytes.map Fin.val).sum }

/-- The draws of the `n`-th operation, at time `t`; its response is the one of `digit`. -/
def draws (n : ℕ) (t : ℤ) (digit : ℕ) : OperationDraws :=
  { sampleDraws n t with
    responseUuid := ⟨String.ofList (List.replicate 31 '0' ++ [hexDigit digit]),
      digits_replicate_hexDigit digit⟩ }

/-- The same question, for the reservation of the `n`-th operation. -/
def question (n revision : ℕ) (requestId : String) : ReplyCommitProposalV1 :=
  { clarificationProposal with
    requestId
    ownerToken := List.replicate n 0
    expectedRevisionEpoch := [0]
    expectedStateRevision := revision }

/-- The question is asked in two exchanges. -/
def twoQuestions : List CoordinatorInput :=
  [(.reserveReply sampleKey "r1" "h" true, draws 1 1 1),
    (.commitReply (question 1 0 "r1"), draws 2 1 1),
    (.reserveReply sampleKey "r2" "h" true, draws 3 2 2),
    (.commitReply (question 3 1 "r2"), draws 4 2 2)]

/-- It is asked again when the first exchange expired, and the second did not. -/
def threeQuestions : List CoordinatorInput :=
  twoQuestions ++
    [(.reserveReply sampleKey "r3" "h" true, draws 5 86400001 3),
      (.commitReply (question 5 2 "r3"), draws 6 86400001 3)]

def ordinalsBelowCheck (root : CoordinatorStateRootV1) (proposal : ReplyCommitProposalV1)
    (_ : CommitReadings) : Bool :=
  (keptTurns setup.config (priorTurns root proposal.stateKey)).all fun turn =>
    turn.ordinal < (priorTurns root proposal.stateKey).length

instance (asked : List (ConversationStateKey × ℕ × String)) :
    Decidable (CollisionFree setup.sha256 asked) :=
  inferInstanceAs (Decidable (∀ a ∈ asked, ∀ b ∈ asked, _ → _ → _))

def twoChecked : CheckedTrace setup Admissible twoQuestions fun t =>
    t.1.all (commitsMeetCheck ordinalsBelowCheck) &&
      (decide (CollisionFree setup.sha256 (t.1.flatMap askedClarifications)) &&
        (t.2.root.conversationTurns.get sampleKey).isSome) :=
  ⟨by decide +kernel⟩

def threeChecked : CheckedTrace setup
    (fun es e => Admissible es e ∧ MonotonicClock es e ∧ WallClock es e) threeQuestions fun t =>
    (t.2.root.conversationTurns.get sampleKey).any fun turns =>
      turns.map (·.ordinal) = [2, 3, 2, 3] ∧
        turns.map (·.clarificationRef) = [none, (turns.getLast?.bind (·.clarificationRef)), none,
          turns.getLast?.bind (·.clarificationRef)] ∧
        (turns.getLast?.bind (·.clarificationRef)).isSome :=
  ⟨by decide +kernel⟩

end RepeatedQuestion

open RepeatedQuestion in
/-- Two exchanges, with the same question, have different references. -/
theorem ordinals_identify_turns_two : ∃ turns,
    (coordinatorTrace setup twoQuestions).2.root.conversationTurns.get sampleKey = some turns ∧
      turns.Pairwise (·.ordinal < ·.ordinal) ∧
      turns.Pairwise fun a b => ∀ ref, a.clarificationRef = some ref →
        b.clarificationRef ≠ some ref := by
  obtain ⟨run, hcheck⟩ := twoChecked.run
  rw [Bool.and_eq_true, Bool.and_eq_true] at hcheck
  obtain ⟨hmeet, hfree, hsome⟩ := hcheck
  obtain ⟨turns, hget⟩ := Option.isSome_iff_exists.mp hsome
  have hrun := run.strengthen (Q := CommitsMeet (OrdinalsBelow setup.config)) fun e he =>
    commitsMeet_of_check (fun root proposal _ h turn hturn =>
      of_decide_eq_true (List.all_eq_true.mp h turn hturn)) (List.all_eq_true.mp hmeet e he)
  exact ⟨turns, hget,
    ordinals_identify_turns (hrun.mono fun _ _ h => h.2) (of_decide_eq_true hfree) hget⟩

open RepeatedQuestion in
/-- In a conversation that lost its first exchange, ordinals and references repeat. -/
theorem ordinals_repeat : ∃ es c turns,
    CoordinatorRun setup (fun es e => Admissible es e ∧ MonotonicClock es e ∧ WallClock es e) es c ∧
      c.root.conversationTurns.get sampleKey = some turns ∧
      turns.map (·.ordinal) = [2, 3, 2, 3] ∧
      ∃ ref, turns.map (·.clarificationRef) = [none, some ref, none, some ref] := by
  obtain ⟨run, hcheck⟩ := threeChecked.run
  obtain ⟨turns, hget, hturns⟩ := (Option.any_eq_true _ _).mp hcheck
  obtain ⟨hordinals, hrefs, hsome⟩ := of_decide_eq_true hturns
  obtain ⟨ref, href⟩ := Option.isSome_iff_exists.mp hsome
  rw [href] at hrefs
  exact ⟨_, _, turns, run, hget, hordinals, ref, hrefs⟩

end MarketSupport
