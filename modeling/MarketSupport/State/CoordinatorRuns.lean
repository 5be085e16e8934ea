import MarketSupport.State.RootStep

/-!
# Runs of the coordinator

Runs start from the empty root. What an environment is assumed to do (draw fresh tokens,
commit only feedback that was prepared, read clocks that do not go back) are conditions on
the next event of a run.

## Main results

* `TokenHistory.of_run` — a stored token belongs to exactly one returned preparation.
* `run_clock_invariant` — the invariant rule over publications: what the empty root
  satisfies and every publication keeps holds in every reachable root.
-/

namespace MarketSupport

open Library

abbrev CoordinatorInput := CoordinatorOperation × OperationDraws
abbrev CoordinatorEvent := Event Coordinator CoordinatorInput OperationOutcome

/-- A run of the coordinator from the empty root. -/
abbrev CoordinatorRun (setup : CoordinatorSetup)
    (adm : List CoordinatorEvent → CoordinatorEvent → Prop) :=
  Run (coordinatorSystem setup) adm Coordinator.initial

/-! ## Environments -/

/-- No random token of the event was drawn before. -/
def FreshTokens (es : List CoordinatorEvent) (e : CoordinatorEvent) : Prop :=
  ∀ e' ∈ es, e.input.2.revisionEpoch ≠ e'.input.2.revisionEpoch ∧
    e.input.2.ownerToken ≠ e'.input.2.ownerToken ∧ e.input.2.commitToken ≠ e'.input.2.commitToken

/-- Some earlier `prepare_feedback` returned the preparation. -/
def Returned (es : List CoordinatorEvent) (prepared : PreparedFeedbackV1) : Prop :=
  ∃ e ∈ es, e.output = .ok (.preparation (.prepared prepared))

/-- `commit_feedback` is called on values that `prepare_feedback` returned. -/
def CommitsReturned (es : List CoordinatorEvent) (e : CoordinatorEvent) : Prop :=
  ∀ prepared, e.input.1 = .commitFeedback prepared → Returned es prepared

/-- What all results about runs assume of their events. -/
structure Admissible (es : List CoordinatorEvent) (e : CoordinatorEvent) : Prop where
  fresh : FreshTokens es e
  returned : CommitsReturned es e

/-- A reply that the event commits meets `ok` in the root that it starts from. -/
def CommitsMeet (ok : CoordinatorStateRootV1 → ReplyCommitProposalV1 → CommitReadings → Prop)
    (e : CoordinatorEvent) : Prop :=
  ∀ proposal response, e.input.1 = .commitReply proposal → e.output = .ok (.committed response) →
    ok e.before.root proposal e.input.2.commitReadings

/-- Feedback that the event commits meets `ok` in the root that it starts from. -/
def FeedbackMeets (ok : CoordinatorStateRootV1 → PreparedFeedbackV1 → ℤ → ℤ → Prop)
    (e : CoordinatorEvent) : Prop :=
  ∀ prepared result, e.input.1 = .commitFeedback prepared →
    e.output = .ok (.feedbackCommitted result) →
    ok e.before.root prepared e.input.2.monotonicNs e.input.2.epochMs

def OperationDraws.monotonicReadings (draws : OperationDraws) : List ℤ :=
  [draws.cleanupMonotonicNs, draws.monotonicNs, draws.createdAtMonotonicNs]

def OperationDraws.epochReadings (draws : OperationDraws) : List ℤ :=
  [draws.cleanupEpochMs, draws.epochMs]

/-- The monotonic clock does not go back, within an operation or between two. -/
def MonotonicClock (es : List CoordinatorEvent) (e : CoordinatorEvent) : Prop :=
  ((es ++ [e]).flatMap (·.input.2.monotonicReadings)).Pairwise (· ≤ ·)

/-- The wall clock does not go back. -/
def WallClock (es : List CoordinatorEvent) (e : CoordinatorEvent) : Prop :=
  ((es ++ [e]).flatMap (·.input.2.epochReadings)).Pairwise (· ≤ ·)

theorem MonotonicClock.le {es : List CoordinatorEvent} {e e' : CoordinatorEvent}
    (h : MonotonicClock es e) (he : e' ∈ es) : e'.input.2.monotonicNs ≤ e.input.2.monotonicNs := by
  unfold MonotonicClock at h
  rw [List.flatMap_append, List.pairwise_append] at h
  exact h.2.2 _ (List.mem_flatMap.mpr ⟨e', he, by simp [OperationDraws.monotonicReadings]⟩) _
    (by simp [OperationDraws.monotonicReadings])

theorem WallClock.le {es : List CoordinatorEvent} {e e' : CoordinatorEvent}
    (h : WallClock es e) (he : e' ∈ es) : e'.input.2.epochMs ≤ e.input.2.epochMs := by
  unfold WallClock at h
  rw [List.flatMap_append, List.pairwise_append] at h
  exact h.2.2 _ (List.mem_flatMap.mpr ⟨e', he, by simp [OperationDraws.epochReadings]⟩) _
    (by simp [OperationDraws.epochReadings])

/-! ## Operations preserve what their changes preserve -/

variable {setup : CoordinatorSetup}

theorem Follows.invariant {P : CoordinatorStateRootV1 → Prop} {allowed : List Change}
    {root root' : CoordinatorStateRootV1} (h : Follows setup allowed root root') (hP : P root)
    (step : ∀ r r' change, change ∈ allowed → P r → RootStep setup r change r' → P r') :
    P root' := by
  obtain ⟨changes, hsub, path⟩ := h
  have hmem : ∀ change ∈ changes, change ∈ allowed := fun _ h => hsub.subset h
  clear hsub
  induction path with
  | nil => exact hP
  | cons hstep _ ih =>
    exact ih (step _ _ _ (hmem _ (by simp)) hP hstep) (fun _ h => hmem _ (List.mem_cons_of_mem _ h))

theorem reserve_mem_changes {operation : CoordinatorOperation} {draws : OperationDraws}
    {k : ConversationStateKey} {requestId requestHash : String} {replayEligible : Bool}
    {readings : ReserveReadings}
    (h : .reserve k requestId requestHash replayEligible readings ∈ operation.changes draws) :
    operation = .reserveReply k requestId requestHash replayEligible ∧
      readings = draws.reserveReadings := by
  cases operation <;> simp_all [CoordinatorOperation.changes]

theorem commit_mem_changes {operation : CoordinatorOperation} {draws : OperationDraws}
    {proposal : ReplyCommitProposalV1} {readings : CommitReadings}
    (h : .commit proposal readings ∈ operation.changes draws) :
    operation = .commitReply proposal ∧ readings = draws.commitReadings := by
  cases operation <;> simp_all [CoordinatorOperation.changes]

theorem commitFeedback_mem_changes {operation : CoordinatorOperation} {draws : OperationDraws}
    {prepared : PreparedFeedbackV1} {nowMonotonicNs nowEpochMs : ℤ}
    (h : .commitFeedback prepared nowMonotonicNs nowEpochMs ∈ operation.changes draws) :
    operation = .commitFeedback prepared ∧ nowMonotonicNs = draws.monotonicNs ∧
      nowEpochMs = draws.epochMs := by
  cases operation <;> simp_all [CoordinatorOperation.changes]

/-- What a preparation says was stored under its token, if the token is still there. -/
def Genuine (root : CoordinatorStateRootV1) (prepared : PreparedFeedbackV1) : Prop :=
  ∀ stored, root.preparedFeedbackTokens.get prepared.tokenKey = some stored →
    stored.preparation.commitToken = prepared.commitToken → stored.preparation = prepared

/-- Side conditions on the two commits, in the root that they start from. -/
structure CommitGuard where
  reply : CoordinatorStateRootV1 → ReplyCommitProposalV1 → CommitReadings → Prop :=
    fun _ _ _ => True
  feedback : CoordinatorStateRootV1 → PreparedFeedbackV1 → ℤ → ℤ → Prop := fun _ _ _ _ => True

/-- The side condition under which a change keeps an invariant. -/
def Guarded (guard : CommitGuard) (root : CoordinatorStateRootV1) : Change → Prop
  | .commit proposal readings => guard.reply root proposal readings
  | .commitFeedback prepared nowMonotonicNs nowEpochMs =>
    guard.feedback root prepared nowMonotonicNs nowEpochMs
  | _ => True

/-- The guard holds where an operation starts that commits. -/
structure CommitGuard.Holds (guard : CommitGuard) (setup : CoordinatorSetup)
    (operation : CoordinatorOperation) (draws : OperationDraws) (c : Coordinator) : Prop where
  reply : ∀ {proposal response}, operation = .commitReply proposal →
    (runOperation setup operation draws c).1 = .ok (.committed response) →
    guard.reply c.root proposal draws.commitReadings
  feedback : ∀ {prepared result}, operation = .commitFeedback prepared →
    (runOperation setup operation draws c).1 = .ok (.feedbackCommitted result) →
    guard.feedback c.root prepared draws.monotonicNs draws.epochMs

/-- Feedback is committed on genuine preparations. -/
def genuineGuard : CommitGuard where
  feedback root prepared _ _ := Genuine root prepared

theorem Guarded.mono {guard guard' : CommitGuard} {root : CoordinatorStateRootV1} {change : Change}
    (h : Guarded guard root change)
    (reply : ∀ proposal readings, guard.reply root proposal readings →
      guard'.reply root proposal readings)
    (feedback : ∀ prepared now nowEpochMs, guard.feedback root prepared now nowEpochMs →
      guard'.feedback root prepared now nowEpochMs) : Guarded guard' root change := by
  cases change with
  | commit => exact reply _ _ h
  | commitFeedback => exact feedback _ _ _ h
  | cleanup | evict | reserve | abort | prepare | drop => trivial

/-- Outside of the two commits no change is guarded. -/
theorem guarded_of_mem {guard : CommitGuard} {operation : CoordinatorOperation}
    {draws : OperationDraws} {root : CoordinatorStateRootV1} {change : Change}
    (h : change ∈ operation.changes draws)
    (noCommit : ∀ proposal, operation ≠ .commitReply proposal)
    (noFeedback : ∀ prepared, operation ≠ .commitFeedback prepared) :
    Guarded guard root change := by
  cases change with
  | commit => cases operation <;> simp_all [CoordinatorOperation.changes]
  | commitFeedback => cases operation <;> simp_all [CoordinatorOperation.changes]
  | cleanup | evict | reserve | abort | prepare | drop => trivial

/-- An operation keeps what its guarded changes keep: only single publications are guarded. -/
theorem runOperation_invariant {P : CoordinatorStateRootV1 → Prop} {guard : CommitGuard}
    {operation : CoordinatorOperation} {draws : OperationDraws} {c : Coordinator} (hP : P c.root)
    (holds : guard.Holds setup operation draws c)
    (step : ∀ r r' change, change ∈ operation.changes draws → Guarded guard r change → P r →
      RootStep setup r change r' → P r') :
    P (runOperation setup operation draws c).2.root := by
  have hf := runOperation_follows setup operation draws c
  cases operation with
  | commitReply proposal =>
    rcases hx : commitReply setup proposal draws c with ⟨result, c'⟩
    have hrun : runOperation setup (.commitReply proposal) draws c =
        (result.map .committed, c') := by
      simp [runOperation, outcome, hx]
    obtain ⟨_, hsame⟩ | ⟨hok, hstep⟩ := commitReply_cases hx
    · rwa [hrun, hsame]
    · have hout : (runOperation setup (.commitReply proposal) draws c).1 =
          .ok (.committed (issuedResponse proposal draws.commitReadings)) := by
        rw [hrun, hok]
        rfl
      rw [hrun]
      exact step _ _ (.commit proposal draws.commitReadings)
        (by simp [CoordinatorOperation.changes]) (holds.reply rfl hout) hP hstep
  | commitFeedback prepared =>
    rcases hx : commitFeedback setup prepared draws c with ⟨result, c'⟩
    have hrun : runOperation setup (.commitFeedback prepared) draws c =
        (result.map .feedbackCommitted, c') := by
      simp [runOperation, outcome, hx]
    obtain ⟨_, hsame | ⟨hdrop, _⟩⟩ | ⟨⟨value, hok⟩, hstep⟩ := commitFeedback_cases hx
    · rwa [hrun, hsame]
    · rw [hrun]
      exact step _ _ (.drop prepared) (by simp [CoordinatorOperation.changes]) trivial hP hdrop
    · have hout : (runOperation setup (.commitFeedback prepared) draws c).1 =
          .ok (.feedbackCommitted value) := by
        rw [hrun, hok]
        rfl
      rw [hrun]
      exact step _ _ (.commitFeedback prepared draws.monotonicNs draws.epochMs)
        (by simp [CoordinatorOperation.changes]) (holds.feedback rfl hout) hP hstep
  | reserveReply | abortReply | prepareFeedback | cleanup | lookupIssuedResponse |
      readTurnAdmissionSnapshot =>
    exact hf.invariant hP fun r r' change hmem => step r r' change hmem
      (guarded_of_mem hmem (by simp) (by simp))

/-! ## Tokens -/

/-- What the history says about the stored tokens. -/
structure TokenHistory (es : List CoordinatorEvent) (root : CoordinatorStateRootV1) : Prop where
  stored : ∀ {key token}, root.preparedFeedbackTokens.get key = some token →
    Returned es token.preparation
  drawn : ∀ {prepared}, Returned es prepared →
    ∃ e ∈ es, e.input.2.commitToken = prepared.commitToken
  unique : ∀ {p q}, Returned es p → Returned es q → p.commitToken = q.commitToken → p = q

theorem Returned.append {es : List CoordinatorEvent} {e : CoordinatorEvent}
    {prepared : PreparedFeedbackV1} (h : Returned es prepared) : Returned (es ++ [e]) prepared := by
  obtain ⟨e', he', hout⟩ := h
  exact ⟨e', List.mem_append_left _ he', hout⟩

theorem Returned.cases {es : List CoordinatorEvent} {e : CoordinatorEvent}
    {prepared : PreparedFeedbackV1} (h : Returned (es ++ [e]) prepared) :
    Returned es prepared ∨ e.output = .ok (.preparation (.prepared prepared)) := by
  obtain ⟨e', he', hout⟩ := h
  rcases List.mem_append.mp he' with he' | he'
  · exact .inl ⟨e', he', hout⟩
  · obtain rfl := List.mem_singleton.mp he'
    exact .inr hout

/-- A change stores no token but the one it prepares. -/
theorem RootStep.token {root root' : CoordinatorStateRootV1} {change : Change}
    (h : RootStep setup root change root') {key : RecordKey} {token : PreparedFeedbackTokenRecordV1}
    (hget : root'.preparedFeedbackTokens.get key = some token) :
    root.preparedFeedbackTokens.get key = some token ∨
      ∃ stateKey feedback readings, change = .prepare stateKey feedback readings := by
  cases h with
  | prepare => exact .inr ⟨_, _, _, rfl⟩
  | cleanup => exact .inl (FrozenMap.get_withoutKeys_eq_some.mp hget).1
  | commitFeedback => exact .inl (FrozenMap.get_withoutKeys_eq_some.mp hget).1
  | drop => exact .inl (FrozenMap.get_withoutKeys_eq_some.mp hget).1
  | evict | reserve | abort | commit => exact .inl hget

theorem Follows.token {allowed : List Change} {root root' : CoordinatorStateRootV1}
    (h : Follows setup allowed root root')
    (hno : ∀ stateKey feedback readings, .prepare stateKey feedback readings ∉ allowed)
    {key : RecordKey} {token : PreparedFeedbackTokenRecordV1}
    (hget : root'.preparedFeedbackTokens.get key = some token) :
    root.preparedFeedbackTokens.get key = some token := by
  revert hget
  refine h.invariant (P := fun r => r.preparedFeedbackTokens.get key = some token →
    root.preparedFeedbackTokens.get key = some token) id ?_
  intro r r' change hmem hP step hget
  obtain hold | ⟨stateKey, feedback, readings, rfl⟩ := step.token hget
  · exact hP hold
  · exact absurd hmem (hno stateKey feedback readings)

/-- Where returned preparations and stored tokens of an operation come from. -/
structure TokenStep (before : CoordinatorStateRootV1) (draws : OperationDraws)
    (output : OperationOutcome) (after : CoordinatorStateRootV1) : Prop where
  returned : ∀ {prepared}, output = .ok (.preparation (.prepared prepared)) →
    (∃ key token, before.preparedFeedbackTokens.get key = some token ∧
      token.preparation = prepared) ∨ prepared.commitToken = draws.commitToken
  stored : ∀ {key token}, after.preparedFeedbackTokens.get key = some token →
    before.preparedFeedbackTokens.get key = some token ∨
      output = .ok (.preparation (.prepared token.preparation))

theorem prepareFeedback_tokenStep (stateKey : ConversationStateKey)
    (feedback : ActionFeedbackRequestV2) (draws : OperationDraws) (c : Coordinator) :
    TokenStep c.root draws (runOperation setup (.prepareFeedback stateKey feedback) draws c).1
      (runOperation setup (.prepareFeedback stateKey feedback) draws c).2.root := by
  rcases hx : prepareFeedback setup stateKey feedback draws c with ⟨result, c'⟩
  have hrun : runOperation setup (.prepareFeedback stateKey feedback) draws c =
      (result.map .preparation, c') := by
    simp [runOperation, outcome, hx]
  rw [hrun]
  have hclean : ∀ stateKey feedback readings, Change.prepare stateKey feedback readings ∉
      [Change.cleanup draws.cleanupMonotonicNs draws.cleanupEpochMs] := by simp
  obtain ⟨hresult, hf⟩ | ⟨token, rfl, htoken, hf⟩ | ⟨root, record, revision, transitions,
      _, _, rfl, hf,
      hroot⟩ := prepareFeedback_cases hx
  · refine ⟨fun hout => ?_, fun hget => .inl (hf.token hclean hget)⟩
    obtain ⟨e, rfl⟩ | ⟨receipt, rfl⟩ := hresult <;> cases hout
  · refine ⟨fun hout => ?_, fun hget => .inl (hf.token hclean hget)⟩
    cases hout
    exact .inl ⟨_, token, hf.token hclean htoken, rfl⟩
  · refine ⟨fun hout => ?_, fun {key token} hget => ?_⟩
    · cases hout
      exact .inr rfl
    · rw [hroot, published_preparedFeedbackTokens, withPreparedToken, FrozenMap.get_insert] at hget
      split_ifs at hget
      · cases hget
        exact .inr rfl
      · exact .inl (hf.token hclean hget)

theorem runOperation_tokenStep (setup : CoordinatorSetup) (operation : CoordinatorOperation)
    (draws : OperationDraws)
    (c : Coordinator) : TokenStep c.root draws (runOperation setup operation draws c).1
      (runOperation setup operation draws c).2.root := by
  cases operation with
  | prepareFeedback stateKey feedback => exact prepareFeedback_tokenStep stateKey feedback draws c
  | reserveReply | abortReply | commitReply | commitFeedback | cleanup | lookupIssuedResponse |
      readTurnAdmissionSnapshot =>
    refine ⟨fun hout => ?_, fun hget => .inl ((runOperation_follows ..).token ?_ hget)⟩
    · simp [runOperation, outcome_eq_ok] at hout
    · simp [CoordinatorOperation.changes]

theorem TokenHistory.step {es : List CoordinatorEvent} {c : Coordinator} {input : CoordinatorInput}
    (h : TokenHistory es c.root)
    (fresh : FreshTokens es ((coordinatorSystem setup).event c input)) :
    TokenHistory (es ++ [(coordinatorSystem setup).event c input])
      ((coordinatorSystem setup).event c input).after.root := by
  have hstep := runOperation_tokenStep setup input.1 input.2 c
  set e := (coordinatorSystem setup).event c input with he
  -- A preparation returned by the last event is an old one, or carries the token drawn there.
  have hnew : ∀ {p}, e.output = .ok (.preparation (.prepared p)) →
      Returned es p ∨ p.commitToken = e.input.2.commitToken := by
    intro p hout
    obtain ⟨key, token, hget, rfl⟩ | hdrawn := hstep.returned hout
    · exact .inl (h.stored hget)
    · exact .inr hdrawn
  have hold : ∀ {p}, Returned es p → p.commitToken ≠ e.input.2.commitToken := by
    intro p hp heq
    obtain ⟨e', he', hdrawn⟩ := h.drawn hp
    exact (fresh e' he').2.2 (heq.symm.trans hdrawn.symm)
  refine ⟨fun hget => ?_, fun {p} hp => ?_, fun {p q} hp hq htoken => ?_⟩
  · obtain hbefore | hout := hstep.stored hget
    · exact (h.stored hbefore).append
    · exact ⟨e, by simp, hout⟩
  · have hcases : Returned es p ∨ p.commitToken = e.input.2.commitToken :=
      hp.cases.elim .inl hnew
    obtain hp | hp := hcases
    · obtain ⟨e', he', hdrawn⟩ := h.drawn hp
      exact ⟨e', List.mem_append_left _ he', hdrawn⟩
    · exact ⟨e, by simp, hp.symm⟩
  · have hcases : ∀ {p}, Returned (es ++ [e]) p → Returned es p ∨
        (p.commitToken = e.input.2.commitToken ∧ e.output = .ok (.preparation (.prepared p))) := by
      intro p hp
      obtain hp | hout := hp.cases
      · exact .inl hp
      · exact (hnew hout).imp_right fun hdrawn => ⟨hdrawn, hout⟩
    obtain hp | ⟨hp, hpout⟩ := hcases hp <;> obtain hq | ⟨hq, hqout⟩ := hcases hq
    · exact h.unique hp hq htoken
    · exact absurd (htoken.trans hq) (hold hp)
    · exact absurd (htoken.symm.trans hp) (hold hq)
    · rw [hpout] at hqout
      cases hqout
      rfl

theorem TokenHistory.of_run {adm : List CoordinatorEvent → CoordinatorEvent → Prop}
    {es : List CoordinatorEvent} {c : Coordinator} (hadm : ∀ es e, adm es e → Admissible es e)
    (run : CoordinatorRun setup adm es c) : TokenHistory es c.root := by
  refine run.invariant (P := fun es c => TokenHistory es c.root) ⟨?_, ?_, ?_⟩ ?_
  · intro key token hget
    simp [Coordinator.initial, emptyCoordinatorRoot] at hget
  · rintro p ⟨e, he, _⟩
    cases he
  · rintro p q ⟨e, he, _⟩
    cases he
  · exact fun es c input _ ok h => h.step (hadm _ _ ok).fresh

/-- In a run, a preparation that is committed is the one whose token is stored. -/
theorem TokenHistory.genuine {es : List CoordinatorEvent} {root : CoordinatorStateRootV1}
    {prepared : PreparedFeedbackV1} (h : TokenHistory es root) (returned : Returned es prepared) :
    Genuine root prepared :=
  fun _ hget htoken => h.unique (h.stored hget) returned htoken

/-! ## The invariant rule -/

/-- What holds of the empty root and is kept by every guarded publication holds of every
reachable root. `clock` is a reading that never goes back; `P t` may only get weaker in `t`. -/
theorem run_clock_invariant {P : ℤ → CoordinatorStateRootV1 → Prop} (clock : OperationDraws → ℤ)
    (guard : CommitGuard) {adm : List CoordinatorEvent → CoordinatorEvent → Prop}
    {es : List CoordinatorEvent} {c : Coordinator} (run : CoordinatorRun setup adm es c)
    (hclock : ∀ es e e', adm es e → e' ∈ es → clock e'.input.2 ≤ clock e.input.2)
    (holds : ∀ es c input, CoordinatorRun setup adm es c →
      adm es ((coordinatorSystem setup).event c input) → guard.Holds setup input.1 input.2 c)
    (init : ∀ t, P t emptyCoordinatorRoot) (mono : ∀ {t t' r}, t ≤ t' → P t r → P t' r)
    (step : ∀ {operation draws change r r'}, change ∈ CoordinatorOperation.changes operation draws →
      Guarded guard r change → P (clock draws) r → RootStep setup r change r' → P (clock draws) r')
    {t : ℤ} (ht : ∀ e ∈ es, clock e.input.2 ≤ t) : P t c.root := by
  have hrun : ∀ t, (∀ e ∈ es, clock e.input.2 ≤ t) → P t c.root := by
    clear ht t
    refine run.invariant (P := fun es c => ∀ t, (∀ e ∈ es, clock e.input.2 ≤ t) → P t c.root)
      (fun t _ => init t) ?_
    intro es c input hrun hadm ih t ht
    have hnow : P (clock input.2) c.root := ih _ fun e' he' => hclock _ _ _ hadm he'
    have hlast : clock input.2 ≤ t := ht ((coordinatorSystem setup).event c input) (by simp)
    exact mono hlast (runOperation_invariant hnow (holds es c input hrun hadm)
      fun r r' change => step)
  exact hrun t ht

/-- The readings of a run are bounded. -/
theorem exists_clock_bound (clock : OperationDraws → ℤ) (es : List CoordinatorEvent) :
    ∃ t, ∀ e ∈ es, clock e.input.2 ≤ t := by
  induction es with
  | nil => exact ⟨0, by simp⟩
  | cons e es ih =>
    obtain ⟨t, ht⟩ := ih
    refine ⟨max t (clock e.input.2), fun e' he' => ?_⟩
    rcases List.mem_cons.mp he' with rfl | he'
    · exact le_max_right _ _
    · exact (ht e' he').trans (le_max_left _ _)

/-- In admissible runs feedback is committed on genuine preparations. -/
theorem holds_of_admissible {adm : List CoordinatorEvent → CoordinatorEvent → Prop}
    (hadm : ∀ es e, adm es e → Admissible es e) {es : List CoordinatorEvent} {c : Coordinator}
    {input : CoordinatorInput} (run : CoordinatorRun setup adm es c)
    (h : adm es ((coordinatorSystem setup).event c input)) :
    genuineGuard.Holds setup input.1 input.2 c where
  reply _ _ := trivial
  feedback hop _ := (TokenHistory.of_run hadm run).genuine ((hadm _ _ h).returned _ hop)

/-- The invariant rule without a clock, for admissible runs. -/
theorem run_root_invariant {P : CoordinatorStateRootV1 → Prop}
    {adm : List CoordinatorEvent → CoordinatorEvent → Prop}
    {es : List CoordinatorEvent} {c : Coordinator} (run : CoordinatorRun setup adm es c)
    (hadm : ∀ es e, adm es e → Admissible es e) (init : P emptyCoordinatorRoot)
    (step : ∀ {change r r'}, Guarded genuineGuard r change → P r →
      RootStep setup r change r' → P r') : P c.root :=
  run_clock_invariant (P := fun _ => P) (t := 0) (fun _ => 0) genuineGuard run
    (fun _ _ _ _ _ => le_refl _) (fun _ _ _ => holds_of_admissible hadm) (fun _ => init)
    (fun _ h => h) (fun _ => step) (fun _ _ => le_refl _)

/-! ## Sample runs -/

/-- A decision procedure for the shared assumptions. -/
def admissibleCheck (es : List CoordinatorEvent) (e : CoordinatorEvent) : Bool :=
  es.all (fun e' => e.input.2.revisionEpoch ≠ e'.input.2.revisionEpoch &&
    e.input.2.ownerToken ≠ e'.input.2.ownerToken && e.input.2.commitToken ≠
      e'.input.2.commitToken) &&
  match e.input.1 with
  | .commitFeedback prepared =>
    es.any (fun e' => e'.output = .ok (.preparation (.prepared prepared)))
  | _ => true

theorem admissibleCheck_iff {es : List CoordinatorEvent} {e : CoordinatorEvent} :
    admissibleCheck es e = true ↔ Admissible es e := by
  have hfresh : es.all (fun e' => e.input.2.revisionEpoch ≠ e'.input.2.revisionEpoch &&
      e.input.2.ownerToken ≠ e'.input.2.ownerToken &&
      e.input.2.commitToken ≠ e'.input.2.commitToken) = true ↔ FreshTokens es e := by
    simp [FreshTokens, and_assoc]
  rw [admissibleCheck, Bool.and_eq_true, hfresh]
  constructor
  · rintro ⟨fresh, hreturned⟩
    refine ⟨fresh, fun prepared hop => ?_⟩
    rw [hop] at hreturned
    obtain ⟨e', he', hout⟩ := List.any_eq_true.mp hreturned
    exact ⟨e', he', of_decide_eq_true hout⟩
  · rintro ⟨fresh, returned⟩
    refine ⟨fresh, ?_⟩
    split
    · next prepared hop =>
      obtain ⟨e', he', hout⟩ := returned prepared hop
      exact List.any_eq_true.mpr ⟨e', he', decide_eq_true hout⟩
    · rfl

instance (es : List CoordinatorEvent) (e : CoordinatorEvent) : Decidable (Admissible es e) :=
  decidable_of_iff (admissibleCheck es e = true) admissibleCheck_iff

/-- A decision procedure for a condition on committed replies. -/
def commitsMeetCheck (check : CoordinatorStateRootV1 → ReplyCommitProposalV1 →
    CommitReadings → Bool) (e : CoordinatorEvent) : Bool :=
  match e.input.1, e.output with
  | .commitReply proposal, .ok (.committed _) =>
    check e.before.root proposal e.input.2.commitReadings
  | _, _ => true

theorem commitsMeet_of_check
    {ok : CoordinatorStateRootV1 → ReplyCommitProposalV1 → CommitReadings → Prop}
    {check : CoordinatorStateRootV1 → ReplyCommitProposalV1 → CommitReadings → Bool}
    (sound : ∀ root proposal readings, check root proposal readings = true →
      ok root proposal readings) {e : CoordinatorEvent} (h : commitsMeetCheck check e = true) :
    CommitsMeet ok e := by
  intro proposal response hop hout
  rw [commitsMeetCheck, hop, hout] at h
  exact sound _ _ _ h

instance (es : List CoordinatorEvent) (e : CoordinatorEvent) : Decidable (MonotonicClock es e) :=
  inferInstanceAs (Decidable (List.Pairwise _ _))

instance (es : List CoordinatorEvent) (e : CoordinatorEvent) : Decidable (WallClock es e) :=
  inferInstanceAs (Decidable (List.Pairwise _ _))

def sampleUuid : UuidHex := ⟨"00000000000000000000000000000000", UuidHex.zeros⟩

theorem digits_replicate_hexDigit (digit : ℕ) :
    (String.ofList (List.replicate 31 '0' ++ [hexDigit digit])).toList.length = 32 ∧
      (String.ofList (List.replicate 31 '0' ++ [hexDigit digit])).toList.all isLowerHex = true := by
  have hdigits : "0123456789abcdef".toList.all isLowerHex = true := by decide +kernel
  have hdigit : isLowerHex (hexDigit digit) = true := by
    rw [hexDigit, List.getD_eq_getElem?_getD]
    cases hget : "0123456789abcdef".toList[digit]? with
    | none => rfl
    | some c => exact List.all_eq_true.mp hdigits c (List.mem_of_getElem? hget)
  simp [hdigit, show isLowerHex '0' = true from rfl]

/-- The default settings, with a constant in place of the digest. -/
def sampleSetup : CoordinatorSetup where
  settings := {}
  config := ⟨5000, 5000, 20000, 86400000, 12, 86400000000000, 180000000000, 15001⟩
  built := by decide +kernel
  sha256 := fun _ => "0"

def sampleKey : ConversationStateKey := ⟨.wecom, "a", "tenant:a", .group, "group:a", "principal:a"⟩

/-- The draws of the `n`-th operation, at time `t`. -/
def sampleDraws (n : ℕ) (t : ℤ) : OperationDraws where
  cleanupMonotonicNs := t
  cleanupEpochMs := t
  monotonicNs := t
  createdAtMonotonicNs := t
  epochMs := t
  revisionEpoch := List.replicate n 0
  ownerToken := List.replicate n 0
  commitToken := List.replicate n 0
  responseUuid := sampleUuid
  actionUuid := fun _ => sampleUuid
  cleanupPublication := ⟨[], .passes⟩
  evictionPublication := ⟨[], .passes⟩
  publication := ⟨[], .passes⟩

def sampleResponse : ReplyResponse := ⟨"", ⟨.answer, "answer", []⟩, []⟩

/-- A reply for the reservation of the `n`-th operation, the first of its conversation. -/
def sampleProposal (n : ℕ) (requestId : String) (response : ReplyResponse) :
    ReplyCommitProposalV1 where
  stateKey := sampleKey
  requestId := requestId
  requestHash := "h"
  replayEligible := true
  ownerToken := List.replicate n 0
  expectedRevisionEpoch := List.replicate n 0
  expectedStateRevision := 0
  response := response
  pol1 := "p"
  par1 := "p"
  grh1 := "p"
  bsh1 := "p"
  userTurn := ⟨"question"⟩
  assistantTurn := ⟨"answer", .answer, false⟩
  clarification := none
  audit := .group ⟨.noMatch, [], []⟩
  audit_scene := rfl

/-- One reply is reserved and committed. -/
def sampleInputs : List CoordinatorInput :=
  [(.reserveReply sampleKey "r" "h" true, sampleDraws 1 1),
    (.commitReply (sampleProposal 1 "r" sampleResponse), sampleDraws 2 2)]

/-- The id that `sampleUuid` gives to an action. -/
def sampleActionId : String := "act-00000000000000000000000000000000"

def sampleResponseId : String := "resp-00000000000000000000000000000000"

/-- A reply with one outbound action. -/
def sampleActionResponse : ReplyResponse :=
  ⟨"", ⟨.answer, "answer", []⟩, [.sendMaterialPack "" "pack" none]⟩

/-- What the adapter reports about that action. -/
def sampleFeedback (feedbackId : String) (status : ActionExecutionStatus) :
    ActionFeedbackRequestV2 where
  feedbackId := feedbackId
  requestId := "r"
  responseId := sampleResponseId
  identity := ⟨.group, "tenant:a", "group:a", "principal:a"⟩
  executions := [⟨.sendMaterialPack, status, some sampleActionId,
    some (.materialPack (some "pack") none none), []⟩]

/-- The preparation that the `n`-th operation returns at time `t`, for the first feedback on
the first reply of the conversation. -/
def samplePrepared (n : ℕ) (t : ℤ) (feedbackId : String) (status : ActionExecutionStatus) :
    PreparedFeedbackV1 where
  stateKey := sampleKey
  feedbackId := feedbackId
  feedbackHash := "fbh1:0"
  requestId := "r"
  responseId := sampleResponseId
  commitToken := List.replicate n 0
  revisionEpoch := [0]
  expectedStateRevision := 1
  expectedIssuedRecordRevision := 1
  transitions := [⟨"action:" ++ sampleActionId, .sendMaterialPack, none, status, none, none, false⟩]
  expiresAtMonotonicNs := t + preparedTokenTtlNs

/-- A reply with an action is committed and the action reported as executed. -/
def sampleFeedbackInputs : List CoordinatorInput :=
  [(.reserveReply sampleKey "r" "h" true, sampleDraws 1 1),
    (.commitReply (sampleProposal 1 "r" sampleActionResponse), sampleDraws 2 2),
    (.prepareFeedback sampleKey (sampleFeedback "f" .executed), sampleDraws 3 3),
    (.commitFeedback (samplePrepared 3 3 "f" .executed), sampleDraws 4 4)]

/-- The events and the last state of a sequence of inputs. -/
def coordinatorTrace (setup : CoordinatorSetup) (inputs : List CoordinatorInput) :
    List CoordinatorEvent × Coordinator := (coordinatorSystem setup).trace [] .initial inputs

theorem coordinatorTrace_run {setup : CoordinatorSetup} {inputs : List CoordinatorInput}
    {adm : List CoordinatorEvent → CoordinatorEvent → Prop} [∀ es e, Decidable (adm es e)]
    (h : (coordinatorSystem setup).accepts (fun es e => decide (adm es e))
      [] .initial inputs = true) :
    CoordinatorRun setup adm (coordinatorTrace setup inputs).1 (coordinatorTrace setup inputs).2 :=
  Run.nil.trace (fun _ _ => of_decide_eq_true) h

/-- A sample run whose steps are admissible, and a check that holds at its end. The evaluation is a
definition of its own, so that no two of them are evaluated at once. -/
structure CheckedTrace (setup : CoordinatorSetup)
    (adm : List CoordinatorEvent → CoordinatorEvent → Prop) [∀ es e, Decidable (adm es e)]
    (inputs : List CoordinatorInput) (p : List CoordinatorEvent × Coordinator → Bool) : Type where
  passes : ((coordinatorSystem setup).checked (fun es e => decide (adm es e))
    [] .initial inputs).any
    p = true

theorem CheckedTrace.run {setup : CoordinatorSetup}
    {adm : List CoordinatorEvent → CoordinatorEvent → Prop} [∀ es e, Decidable (adm es e)]
    {inputs : List CoordinatorInput} {p : List CoordinatorEvent × Coordinator → Bool}
    (t : CheckedTrace setup adm inputs p) :
    CoordinatorRun setup adm (coordinatorTrace setup inputs).1 (coordinatorTrace setup inputs).2 ∧
      p (coordinatorTrace setup inputs) = true :=
  Run.nil.checked (fun _ _ => of_decide_eq_true) t.passes

end MarketSupport
