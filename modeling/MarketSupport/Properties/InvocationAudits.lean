import Mathlib.Data.List.Nodup
import MarketSupport.Library.Runs
import MarketSupport.Lifecycle.AuditProposal
import MarketSupport.Lifecycle.CallRows

/-!
# Audits of model calls

Every model call of a turn leaves at most one journal row. Which rows the audit of the turn
accepts depends on how the calls ended: a row that no handler closed is refused, and a group
turn also needs a captured request for every failed CrewAI call.

## Main results

* `audit_turn_ok_iff` — when the audit of a turn is recorded.
* `journal_rows_kept` — the rows of a turn keep their places, and closed rows their contents.
-/

namespace MarketSupport

open Library

/-! ## All calls of a turn -/

/-- The journal of a turn, and the calls that use it one after the other. -/
def journalSystem : System TurnLlmInvocationJournalV1 LlmCall (Except CallException Unit) where
  step journal call := call.run journal

abbrev CallEvent := Event TurnLlmInvocationJournalV1 LlmCall (Except CallException Unit)

/-- The calls of a turn of the scene. -/
abbrev TurnLlmCalls (scene : Scene) (start : TurnLlmInvocationJournalV1) (es : List CallEvent)
    (journal : TurnLlmInvocationJournalV1) : Prop :=
  Run journalSystem (fun _ e => e.input.MadeIn scene) start es journal

/-- The calls that left a row. -/
def recordedCalls (es : List CallEvent) : List LlmCall :=
  (es.filter fun e => decide (e.before.rows.length < e.after.rows.length)).map (·.input)

theorem recordedCalls_snoc (es : List CallEvent) (e : CallEvent) :
    recordedCalls (es ++ [e]) = recordedCalls es ++
      if e.before.rows.length < e.after.rows.length then [e.input] else [] := by
  unfold recordedCalls
  rw [List.filter_append, List.map_append]
  by_cases h : e.before.rows.length < e.after.rows.length <;> simp [h]

section Turn

variable {scene : Scene} {maxRows : ℤ} {es : List CallEvent}
  {start journal : TurnLlmInvocationJournalV1}

/-- The journal has one row for each recorded call, in order. -/
theorem turn_rows (hnew : TurnLlmInvocationJournalV1.new maxRows = .ok start)
    (run : TurnLlmCalls scene start es journal) :
    journal.WellFormed ∧ List.Forall₂ (RowOf scene) (recordedCalls es) journal.rows := by
  refine run.invariant (P := fun es journal => journal.WellFormed ∧
    List.Forall₂ (RowOf scene) (recordedCalls es) journal.rows) ?_ ?_
  · refine ⟨TurnLlmInvocationJournalV1.new_wellFormed hnew, ?_⟩
    rw [TurnLlmInvocationJournalV1.new_rows hnew]
    exact .nil
  · intro es journal call _ made ⟨wf, rows⟩
    rw [recordedCalls_snoc]
    obtain hsame | ⟨row, hleaves⟩ := call.run_leaves journal made
    · have hafter : (journalSystem.event journal call).after = journal := hsame
      rw [hafter, if_neg (by simp [System.event]), List.append_nil]
      exact ⟨wf, rows⟩
    · have hafter : (journalSystem.event journal call).after =
          { journal with rows := journal.rows ++ [row] } := hleaves.after
      refine ⟨hleaves.wellFormed wf, ?_⟩
      have hgrows : (journalSystem.event journal call).before.rows.length <
          (journalSystem.event journal call).after.rows.length := by
        rw [hafter]
        simp [System.event]
      rw [if_pos hgrows, hafter]
      exact List.rel_append rows (.cons hleaves.rowOf .nil)

end Turn

/-! ## Audits of rows -/

section Audit

variable {scene : Scene} {call : LlmCall} {row : TurnLlmInvocationRowV1} {stage : AuditStageV1}

/-- What the audit makes of the row of a call. -/
theorem RowOf.auditAttempt (h : RowOf scene call row) (digest : Option DirectDigest)
    (haudit : row.stageKind.audit? = some stage) {item : LlmInvocationAuditProposalV1}
    (hitem : MarketSupport.auditAttempt scene digest stage row = .ok item) :
    ∃ program errorCode digests, ClosedRow program row ∧ program.stage.audit? = some stage ∧
      auditSceneKey scene program.stage = program.sceneKey ∧ digests.Full digest row ∧
      codeFits stage errorCode row.status.audit = true ∧ Coded row ∧
      item = attemptProposal program stage row errorCode digests := by
  by_cases hopen : row.status = .reserved
  · rw [MarketSupport.auditAttempt, if_pos hopen] at hitem
    cases hitem
  obtain ⟨program, hclosed, hkey⟩ := h.closed hopen
  have hstage : program.stage.audit? = some stage := by rw [← hclosed.stage, haudit]
  obtain ⟨errorCode, digests, heq, hfull, hsuccess, hcode⟩ := hclosed.auditAttempt_eq
    digest hkey hstage
  rw [heq] at hitem
  obtain ⟨rfl, hfits⟩ := (hclosed.construct_ok_iff hstage).mp hitem
  have hcoded : Coded row := by
    by_cases hs : row.status = .success
    · intro code hrow
      have hnone := ((hclosed.valid.status hclosed.closed).2.1 hs).2.2
      rw [hnone] at hrow
      cases hrow
    · exact (hclosed.codeFits_iff hsuccess hcode).mp hfits hs
  exact ⟨program, errorCode, digests, hclosed, hstage, hkey, hfull, hfits, hcoded, rfl⟩

/-- The audit takes the row of a call that is closed under a fitting status. -/
theorem RowOf.exists_auditAttempt (h : RowOf scene call row) (digest : Option DirectDigest)
    (haudit : row.stageKind.audit? = some stage) (hopen : row.status ≠ .reserved)
    (hcoded : Coded row) :
    ∃ item, MarketSupport.auditAttempt scene digest stage row = .ok item := by
  obtain ⟨program, hclosed, hkey⟩ := h.closed hopen
  have hstage : program.stage.audit? = some stage := by rw [← hclosed.stage, haudit]
  obtain ⟨errorCode, digests, heq, -, hsuccess, hcode⟩ := hclosed.auditAttempt_eq
    digest hkey hstage
  refine ⟨_, heq.trans ((hclosed.construct_ok_iff hstage).mpr ⟨rfl, ?_⟩)⟩
  exact (hclosed.codeFits_iff hsuccess hcode).mpr fun _ => hcoded

theorem auditSceneKey_group (stage : StageKindV1) : auditSceneKey .group stage ≠
    .wecomDirectV1 := by
  cases stage <;> decide

theorem auditSceneKey_direct (stage : StageKindV1) : auditSceneKey .direct stage ≠
    .wecomGroupV1 := by
  cases stage <;> decide

/-- A group turn records exactly the rows of auditable calls. -/
theorem RowOf.group_ok_iff (h : RowOf .group call row)
    (haudit : row.stageKind.audit? = some stage) :
    (∃ item audit, MarketSupport.auditAttempt .group none stage row = .ok item ∧
      groupProgramAudit item = .ok audit) ↔ call.auditable = true := by
  rw [h.auditable]
  constructor
  · rintro ⟨item, audit, hitem, hrecord⟩
    obtain ⟨program, errorCode, digests, hclosed, hstage, hkey, hfull, hfits, hcoded, rfl⟩ :=
      h.auditAttempt none haudit hitem
    have hcaptured := (hclosed.group_ok_iff hstage (hkey ▸ auditSceneKey_group _) hfull hfits).mp
      ⟨audit, hrecord⟩
    exact ⟨hclosed.closed, hcoded, fun _ => hcaptured⟩
  · intro ⟨hopen, hcoded, hcaptured⟩
    obtain ⟨item, hitem⟩ := h.exists_auditAttempt none haudit hopen hcoded
    obtain ⟨program, errorCode, digests, hclosed, hstage, hkey, hfull, hfits, -, rfl⟩ :=
      h.auditAttempt none haudit hitem
    obtain ⟨audit, hrecord⟩ := (hclosed.group_ok_iff hstage (hkey ▸ auditSceneKey_group _) hfull
      hfits).mpr (hcaptured rfl)
    exact ⟨_, audit, hitem, hrecord⟩

/-- So does a direct turn. -/
theorem RowOf.direct_ok_iff (h : RowOf .direct call row) (keyed : DirectDigest)
    (haudit : row.stageKind.audit? = some stage) :
    (∃ item audit, MarketSupport.auditAttempt .direct (some keyed) stage row = .ok item ∧
      directProgramAudit item = .ok audit) ↔ call.auditable = true := by
  rw [h.auditable]
  constructor
  · rintro ⟨item, audit, hitem, hrecord⟩
    obtain ⟨program, errorCode, digests, hclosed, -, -, -, -, hcoded, -⟩ :=
      h.auditAttempt (some keyed) haudit hitem
    exact ⟨hclosed.closed, hcoded, fun hscene => by cases hscene⟩
  · intro ⟨hopen, hcoded, _⟩
    obtain ⟨item, hitem⟩ := h.exists_auditAttempt (some keyed) haudit hopen hcoded
    obtain ⟨program, errorCode, digests, hclosed, hstage, hkey, hfull, hfits, -, rfl⟩ :=
      h.auditAttempt (some keyed) haudit hitem
    obtain ⟨audit, hrecord⟩ := hclosed.direct_ok hstage (hkey ▸ auditSceneKey_direct _) hfull hfits
    exact ⟨_, audit, hitem, hrecord⟩

/-- A record keeps the number and the program of its attempt. -/
theorem groupProgramAudit_fields {item : LlmInvocationAuditProposalV1} {audit : GroupProgramAuditV2}
    (h : groupProgramAudit item = .ok audit) :
    (audit.ordinal, audit.programId) = (item.ordinal, item.programId) := by
  unfold groupProgramAudit at h
  simp only [Library.bind_eq_ok_iff] at h
  obtain ⟨_, -, _, -, _, -, _, -, _, -, _, -, _, -, _, -, _, -, _, -, _, -, _, -, _, -, h⟩ := h
  obtain rfl := Except.ok.inj h
  rfl

theorem directProgramAudit_fields {item : LlmInvocationAuditProposalV1}
    {audit : DirectProgramAuditV2} (h : directProgramAudit item = .ok audit) :
    (audit.ordinal, audit.programId) = (item.ordinal, item.programId) := by
  unfold directProgramAudit at h
  simp only [Library.bind_eq_ok_iff] at h
  obtain ⟨_, -, _, -, _, -, _, -, _, -, _, -, _, -, _, -, _, -, h⟩ := h
  obtain rfl := Except.ok.inj h
  rfl

/-- An attempt has the number and the program of its row. -/
theorem RowOf.auditAttempt_fields (h : RowOf scene call row) (digest : Option DirectDigest)
    (haudit : row.stageKind.audit? = some stage) {item : LlmInvocationAuditProposalV1}
    (hitem : MarketSupport.auditAttempt scene digest stage row = .ok item) :
    (item.ordinal, item.programId) = ((row.invocationOrdinal : ℤ), call.programId) ∧
      ∀ key ∈ [AuditSceneKey.wecomGroupV1, .wecomDirectV1], auditSceneKey scene
        row.stageKind = key ∨
        auditSceneKey scene row.stageKind = .sceneNeutralV1 →
          auditProgramAllowed key item.programId = true := by
  obtain ⟨program, errorCode, digests, hclosed, hstage, hkey, -, -, -, rfl⟩ :=
    h.auditAttempt digest haudit hitem
  refine ⟨?_, fun key hmem hscene => ?_⟩
  · rw [← h.programId]
    rfl
  · have hallowed := registered_allowed program hclosed.registered (by rw [hstage]; rfl) key hmem
    rw [hclosed.stage, hkey] at hscene
    have hprogram : (attemptProposal program stage row errorCode digests).programId =
      program.programId :=
      hclosed.programId
    rw [hprogram]
    exact hallowed hscene

end Audit

/-! ## The audit of a turn -/

/-- `audit_commit_proposal`, and the record that the commit builds from it. -/
def auditTurn (hmac : Bytes → Bytes → Digest "dah1") (turn : AuditedTurn)
    (stateKey : ConversationStateKey) (directAuditHmacKey : Option String)
    (journal : TurnLlmInvocationJournalV1) (responseId : String) (replyKind : ReplyKind)
    (createdAtEpochMs expiresAtMonotonicNs : ℤ) : Except CoordinatorException AuditRecordV1 := do
  let proposal ← auditCommitProposal hmac turn stateKey directAuditHmacKey journal
  buildAuditRecord proposal stateKey responseId turn.requestId replyKind createdAtEpochMs
    expiresAtMonotonicNs

/-- What the audit asks of a turn besides its calls. -/
structure AuditedTurn.Fits (turn : AuditedTurn) (stateKey : ConversationStateKey)
    (directAuditHmacKey : Option String) (responseId : String) : Prop where
  refs : turn.selectedManifestRefs.length ≤ 4 ∧ turn.selectedManifestRefs.Nodup
  direct : stateKey.scene = .direct →
    (∃ encodedKey key, directAuditHmacKey = some encodedKey ∧
      decodeDirectAuditHmacKey encodedKey = .ok key) ∧
    (∃ reasonCode, directAuditReasonCode turn.reasonCode = .ok reasonCode) ∧
    isServerResponseId responseId = true

/-- The number and the program of every attempt of a record. -/
def AuditRecordV1.attempts : AuditRecordV1 → List (ℤ × String)
  | .group record => record.programs.map fun program => (program.ordinal, program.programId)
  | .direct record => record.programs.map fun program => (program.ordinal, program.programId)

section AuditTurn

variable {turn : AuditedTurn} {refs : List ManifestRefV1}

theorem validateAuditManifestRefs_ok_iff {u : Unit} :
    validateAuditManifestRefs (refs.map ManifestRefV1.text) = .ok u ↔ refs.length ≤ 4 ∧
      refs.Nodup := by
  unfold validateAuditManifestRefs
  rw [require_bind_eq_ok_iff, require_eq_ok_iff]
  simp only [List.length_map, Bool.and_eq_true, decide_eq_true_eq, List.all_map, List.all_eq_true,
    Function.comp_apply, List.nodup_map_iff ManifestRefV1.text_injective]
  constructor
  · intro h
    exact h.1
  · intro h
    exact ⟨h, fun ref _ => ref.length_text⟩

/-- The rows of a journal that the audit reads. -/
def auditedRows (rows : List TurnLlmInvocationRowV1) :
    List (AuditStageV1 × TurnLlmInvocationRowV1) :=
  rows.filterMap fun row => row.stageKind.audit?.map fun stage => (stage, row)

variable {scene : Scene} {calls : List LlmCall} {rows : List TurnLlmInvocationRowV1}

/-- The audit reads all rows of a turn. -/
theorem map_auditedRows (h : List.Forall₂ (RowOf scene) calls rows) :
    (auditedRows rows).map Prod.snd = rows := by
  induction h with
  | nil => rfl
  | cons hrow _ ih =>
    obtain ⟨stage, haudit⟩ := hrow.stage
    unfold auditedRows at ih ⊢
    rw [List.filterMap_cons, haudit]
    exact congrArg (List.cons _) ih

/-- What holds of the row of a call exactly when the call is auditable. -/
theorem forall_auditedRows_iff (h : List.Forall₂ (RowOf scene) calls rows)
    {P : AuditStageV1 × TurnLlmInvocationRowV1 → Prop}
    (hP : ∀ call row stage, RowOf scene call row → row.stageKind.audit? = some stage →
      (P (stage, row) ↔ call.auditable = true)) :
    (∀ x ∈ auditedRows rows, P x) ↔ ∀ call ∈ calls, call.auditable = true := by
  induction h with
  | nil => exact iff_of_true (by simp [auditedRows]) (by simp)
  | cons hrow _ ih =>
    obtain ⟨stage, haudit⟩ := hrow.stage
    unfold auditedRows at ih ⊢
    rw [List.filterMap_cons, haudit, List.forall_mem_cons, ← ih, ← hP _ _ stage hrow haudit]
    exact List.forall_mem_cons

theorem forall_of_auditedRows (h : List.Forall₂ (RowOf scene) calls rows) :
    ∀ x ∈ auditedRows rows, ∃ call, RowOf scene call x.2 ∧ x.2.stageKind.audit? = some x.1 := by
  induction h with
  | nil =>
    intro x hx
    cases hx
  | cons hrow _ ih =>
    obtain ⟨stage, haudit⟩ := hrow.stage
    unfold auditedRows at ih ⊢
    rw [List.filterMap_cons, haudit]
    exact List.forall_mem_cons.mpr ⟨⟨_, hrow, haudit⟩, ih⟩

/-- The rows of a turn show the number and the program of its calls. -/
theorem map_rows {journal : TurnLlmInvocationJournalV1} (wf : journal.WellFormed)
    (h : List.Forall₂ (RowOf scene) calls journal.rows) :
    journal.rows.map (fun row => ((row.invocationOrdinal : ℤ), row.programId)) =
      calls.mapIdx fun i call => ((i : ℤ) + 1, call.programId) := by
  have hlength := h.length_eq
  refine List.ext_getElem (by simp [hlength]) fun i hi hi' => ?_
  have hrow : i < journal.rows.length := by simpa using hi
  have hcall := h.get (hlength ▸ hrow) hrow
  simp only [List.get_eq_getElem] at hcall
  have hordinal := wf.ordinal i journal.rows[i] (List.getElem?_eq_getElem hrow)
  simp only [List.getElem_map, List.getElem_mapIdx, hordinal, hcall.programId]
  rfl

/-! ### The two scenes -/

variable {journal : TurnLlmInvocationJournalV1} {hmac : Bytes → Bytes → Digest "dah1"}
  {stateKey : ConversationStateKey} {directAuditHmacKey : Option String} {responseId : String}
  {replyKind : ReplyKind} {createdAtEpochMs expiresAtMonotonicNs : ℤ} {record : AuditRecordV1}

/-- The attempts of the rows of a turn, and what the record makes of them, keep numbers and
programs. -/
theorem map_attempts {α : Type} {items : List LlmInvocationAuditProposalV1} {programs : List α}
    {digest : Option DirectDigest}
    {build : LlmInvocationAuditProposalV1 → Except CoordinatorException α}
    {fields : α → ℤ × String} (wf : journal.WellFormed)
    (rows : List.Forall₂ (RowOf scene) calls journal.rows)
    (hitems : journalAuditAttempts journal scene digest = .ok items)
    (hprograms : items.mapM build = .ok programs)
    (hbuild : ∀ item program, build item = .ok program → fields program =
    (item.ordinal, item.programId)) :
    programs.map fields = calls.mapIdx fun i call => ((i : ℤ) + 1, call.programId) := by
  have hitems' : (auditedRows journal.rows).mapM (fun x => auditAttempt scene digest x.1 x.2) =
    .ok items :=
    hitems
  rw [map_of_mapM hprograms hbuild, ← map_rows wf rows, ← map_auditedRows rows, List.map_map]
  have hall := mapM_eq_ok_iff.mp hitems'
  have hfields := forall_of_auditedRows rows
  generalize auditedRows journal.rows = audited at hall hfields ⊢
  clear hitems hitems' hprograms
  induction hall with
  | nil => rfl
  | cons hitem _ ih =>
    obtain ⟨⟨call, hrow, haudit⟩, hfields⟩ := List.forall_mem_cons.mp hfields
    have hone := (hrow.auditAttempt_fields digest haudit hitem).1
    rw [← hrow.programId] at hone
    rw [List.map_cons, List.map_cons, hone, ih hfields]
    rfl

theorem length_attempts {digest : Option DirectDigest} {items : List LlmInvocationAuditProposalV1}
    (wf : journal.WellFormed) (hitems : journalAuditAttempts journal scene digest = .ok items) :
    items.length ≤ 18 := by
  have hall := (mapM_eq_ok_iff.mp hitems).length_eq
  have hsub := List.length_filterMap_le
    (fun row : TurnLlmInvocationRowV1 => row.stageKind.audit?.map fun stage => (stage, row))
    journal.rows
  have hroom := wf.room
  have hlimit := wf.limit.2
  omega

/-- The rows of a group turn are recorded when all its calls are auditable. -/
theorem group_rows_iff (rows : List.Forall₂ (RowOf .group) calls journal.rows) :
    (∃ items programs, journalAuditAttempts journal .group none = .ok items ∧
      items.mapM groupProgramAudit = .ok programs) ↔ ∀ call ∈ calls, call.auditable = true := by
  rw [← forall_auditedRows_iff (P := fun x => ∃ item audit, auditAttempt .group none x.1
    x.2 = .ok item ∧
    groupProgramAudit item = .ok audit) rows fun call row stage hrow haudit =>
      hrow.group_ok_iff haudit]
  exact exists_mapM_mapM_eq_ok_iff

theorem direct_rows_iff (keyed : DirectDigest)
    (rows : List.Forall₂ (RowOf .direct) calls journal.rows) :
    (∃ items programs, journalAuditAttempts journal .direct (some keyed) = .ok items ∧
      items.mapM directProgramAudit = .ok programs) ↔ ∀ call ∈ calls, call.auditable = true := by
  rw [← forall_auditedRows_iff (P := fun x => ∃ item audit, auditAttempt .direct
    (some keyed) x.1 x.2 =
    .ok item ∧ directProgramAudit item = .ok audit) rows
      fun call row stage hrow haudit => hrow.direct_ok_iff keyed haudit]
  exact exists_mapM_mapM_eq_ok_iff

/-- Every program that a scene records is one of the scene. -/
theorem allowed_attempts {α : Type} {items : List LlmInvocationAuditProposalV1} {programs : List α}
    {digest : Option DirectDigest}
    {build : LlmInvocationAuditProposalV1 → Except CoordinatorException α}
    {fields : α → ℤ × String} (key : AuditSceneKey)
    (hkey : key ∈ [AuditSceneKey.wecomGroupV1, .wecomDirectV1])
    (hscene : ∀ stage, auditSceneKey scene stage = key ∨ auditSceneKey scene stage =
    .sceneNeutralV1)
    (rows : List.Forall₂ (RowOf scene) calls journal.rows)
    (hitems : journalAuditAttempts journal scene digest = .ok items)
    (hprograms : items.mapM build = .ok programs)
    (hbuild : ∀ item program, build item = .ok program → fields program =
    (item.ordinal, item.programId)) :
    ∀ program ∈ programs, auditProgramAllowed key (fields program).2 = true := by
  intro program hprogram
  obtain ⟨item, hitem, hbuilt⟩ := exists_of_mem_mapM hprograms hprogram
  obtain ⟨x, hx, hattempt⟩ := exists_of_mem_mapM hitems hitem
  obtain ⟨call, hrow, haudit⟩ := forall_of_auditedRows rows x hx
  rw [hbuild item program hbuilt]
  exact (hrow.auditAttempt_fields digest haudit hattempt).2 key hkey (hscene _)

theorem audit_group_turn (hscene : stateKey.scene = .group) (wf : journal.WellFormed)
    (rows : List.Forall₂ (RowOf .group) calls journal.rows)
    (h : auditTurn hmac turn stateKey directAuditHmacKey journal responseId replyKind
    createdAtEpochMs
      expiresAtMonotonicNs = .ok record) :
    (turn.selectedManifestRefs.length ≤ 4 ∧ turn.selectedManifestRefs.Nodup) ∧
      (∀ call ∈ calls, call.auditable = true) ∧
      record.attempts = calls.mapIdx fun i call => ((i : ℤ) + 1, call.programId) := by
  unfold auditTurn auditCommitProposal at h
  rw [hscene] at h
  dsimp only at h
  obtain ⟨proposal, hproposal, h⟩ := Library.bind_eq_ok_iff.mp h
  obtain ⟨items, hitems, hproposal⟩ := Library.bind_eq_ok_iff.mp hproposal
  obtain ⟨built, hbuilt, hproposal⟩ := Library.bind_eq_ok_iff.mp hproposal
  obtain rfl := Except.ok.inj hproposal
  obtain ⟨u, hrefs, hbuilt⟩ := Library.bind_eq_ok_iff.mp hbuilt
  obtain ⟨-, hbuilt⟩ := require_bind_eq_ok_iff.mp hbuilt
  obtain rfl := Except.ok.inj hbuilt
  obtain ⟨programs, hprograms, h⟩ := Library.bind_eq_ok_iff.mp h
  obtain ⟨u', -, h⟩ := Library.bind_eq_ok_iff.mp h
  obtain rfl := Except.ok.inj h
  refine ⟨validateAuditManifestRefs_ok_iff.mp hrefs, ?_, ?_⟩
  · exact (group_rows_iff rows).mp ⟨items, programs, hitems, hprograms⟩
  · exact map_attempts wf rows hitems hprograms fun _ _ => groupProgramAudit_fields

theorem audit_direct_turn (hscene : stateKey.scene = .direct) (wf : journal.WellFormed)
    (rows : List.Forall₂ (RowOf .direct) calls journal.rows)
    (h : auditTurn hmac turn stateKey directAuditHmacKey journal responseId replyKind
    createdAtEpochMs
      expiresAtMonotonicNs = .ok record) :
    turn.Fits stateKey directAuditHmacKey responseId ∧ (∀ call ∈ calls, call.auditable = true) ∧
      record.attempts = calls.mapIdx fun i call => ((i : ℤ) + 1, call.programId) := by
  unfold auditTurn auditCommitProposal at h
  rw [hscene] at h
  cases hkey : directAuditHmacKey with
  | none => rw [hkey] at h; cases h
  | some encodedKey =>
    rw [hkey] at h
    dsimp only at h
    obtain ⟨proposal, hproposal, h⟩ := Library.bind_eq_ok_iff.mp h
    obtain ⟨key, hdecode, hproposal⟩ := Library.bind_eq_ok_iff.mp hproposal
    obtain ⟨items, hitems, hproposal⟩ := Library.bind_eq_ok_iff.mp hproposal
    obtain ⟨reasonCode, hreason, hproposal⟩ := Library.bind_eq_ok_iff.mp hproposal
    obtain ⟨built, hbuilt, hproposal⟩ := Library.bind_eq_ok_iff.mp hproposal
    obtain rfl := Except.ok.inj hproposal
    obtain ⟨_, -, hbuilt⟩ := Library.bind_eq_ok_iff.mp hbuilt
    obtain ⟨_, -, hbuilt⟩ := Library.bind_eq_ok_iff.mp hbuilt
    obtain ⟨_, hrefs, hbuilt⟩ := Library.bind_eq_ok_iff.mp hbuilt
    simp only [require_bind_eq_ok_iff] at hbuilt
    obtain ⟨-, -, -, -, hbuilt⟩ := hbuilt
    obtain ⟨_, -, hbuilt⟩ := Library.bind_eq_ok_iff.mp hbuilt
    obtain rfl := Except.ok.inj hbuilt
    obtain ⟨programs, hprograms, h⟩ := Library.bind_eq_ok_iff.mp h
    obtain ⟨_, hvalid, h⟩ := Library.bind_eq_ok_iff.mp h
    obtain rfl := Except.ok.inj h
    obtain ⟨_, -, hvalid⟩ := Library.bind_eq_ok_iff.mp hvalid
    obtain ⟨hserver, -⟩ := require_bind_eq_ok_iff.mp hvalid
    refine ⟨⟨validateAuditManifestRefs_ok_iff.mp hrefs, fun _ => ⟨⟨_, key, rfl, hdecode⟩,
      ⟨reasonCode, hreason⟩, hserver⟩⟩, ?_, ?_⟩
    · exact (direct_rows_iff _ rows).mp ⟨items, programs, hitems, hprograms⟩
    · exact map_attempts wf rows hitems hprograms fun _ _ => directProgramAudit_fields

theorem audit_group_turn_ok (hscene : stateKey.scene = .group) (wf : journal.WellFormed)
    (rows : List.Forall₂ (RowOf .group) calls journal.rows)
    (hrefs : turn.selectedManifestRefs.length ≤ 4 ∧ turn.selectedManifestRefs.Nodup)
    (hcalls : ∀ call ∈ calls, call.auditable = true) :
    ∃ record, auditTurn hmac turn stateKey directAuditHmacKey journal responseId replyKind
      createdAtEpochMs
      expiresAtMonotonicNs = .ok record := by
  obtain ⟨items, programs, hitems, hprograms⟩ := (group_rows_iff rows).mpr hcalls
  have hrefs' := (validateAuditManifestRefs_ok_iff (u := ())).mpr hrefs
  have hlength := length_attempts wf hitems
  have hlength' : programs.length ≤ 18 := (mapM_eq_ok_iff.mp hprograms).length_eq ▸ hlength
  have hallowed := allowed_attempts .wecomGroupV1 (by simp)
    (by intro stage; cases stage <;> decide) rows
    hitems hprograms fun _ _ => groupProgramAudit_fields
  let proposal : GroupAuditCommitProposalV1 :=
    ⟨turn.reasonCode, turn.selectedManifestRefs.map ManifestRefV1.text, items⟩
  have hproposal : auditCommitProposal hmac turn stateKey directAuditHmacKey journal = .ok
    (.group proposal) := by
    unfold auditCommitProposal
    rw [hscene]
    refine Library.bind_eq_ok_iff.mpr
      ⟨items, hitems, Library.bind_eq_ok_iff.mpr ⟨proposal, ?_, rfl⟩⟩
    exact Library.bind_eq_ok_iff.mpr
      ⟨(), hrefs', require_bind_eq_ok_iff.mpr ⟨decide_eq_true hlength, rfl⟩⟩
  refine ⟨_, Library.bind_eq_ok_iff.mpr
    ⟨_, hproposal, Library.bind_eq_ok_iff.mpr ⟨programs, hprograms,
    Library.bind_eq_ok_iff.mpr ⟨(), ?_, rfl⟩⟩⟩⟩
  refine Library.bind_eq_ok_iff.mpr
    ⟨(), hrefs', require_bind_eq_ok_iff.mpr ⟨decide_eq_true hlength', ?_⟩⟩
  exact require_eq_ok_iff.mpr (List.all_eq_true.mpr hallowed)

theorem forM_digests_ok {digests : List (DirectAuditPurposeV1 × String)}
    (h : ∀ digest ∈ digests, isDigest "dah1" digest.2 = true) :
    digests.forM (fun digest => validateDirectAuditDigest digest.2) = .ok () := by
  induction digests with
  | nil => rfl
  | cons digest digests ih =>
    obtain ⟨hdigest, hdigests⟩ := List.forall_mem_cons.mp h
    exact Library.bind_eq_ok_iff.mpr ⟨(), validateDirectAuditDigest_ok hdigest, ih hdigests⟩

theorem audit_direct_turn_ok (hscene : stateKey.scene = .direct) (wf : journal.WellFormed)
    (rows : List.Forall₂ (RowOf .direct) calls journal.rows)
    (hfits : turn.Fits stateKey directAuditHmacKey responseId)
    (hcalls : ∀ call ∈ calls, call.auditable = true) :
    ∃ record, auditTurn hmac turn stateKey directAuditHmacKey journal responseId replyKind
      createdAtEpochMs
      expiresAtMonotonicNs = .ok record := by
  obtain ⟨⟨encodedKey, key, rfl, hdecode⟩, ⟨reasonCode, hreason⟩, hserver⟩ := hfits.direct hscene
  let digest := fun purpose content => directAuditDigest hmac key purpose stateKey content
  obtain ⟨items, programs, hitems, hprograms⟩ := (direct_rows_iff digest rows).mpr hcalls
  have hrefs' := (validateAuditManifestRefs_ok_iff (u := ())).mpr hfits.refs
  have hlength := length_attempts wf hitems
  have hlength' : programs.length ≤ 18 := (mapM_eq_ok_iff.mp hprograms).length_eq ▸ hlength
  have hallowed := allowed_attempts .wecomDirectV1 (by simp)
    (by intro stage; cases stage <;> decide) rows
    hitems hprograms fun _ _ => directProgramAudit_fields
  have hrefsLength : turn.selectedManifestRefs.length ≤ 4 := hfits.refs.1
  let proposal : DirectAuditCommitProposalV1 := {
    stateKeyDigest := (digest .request "state").text
    requestIdDigest := (digest .requestId turn.requestId).text
    reasonCode := reasonCode
    manifestRefs := turn.selectedManifestRefs.map ManifestRefV1.text
    contentDigests := [
      (.message, (digest .message turn.message).text),
      (.reply, (digest .reply turn.replyPayload).text),
      (.plan, (digest .plan turn.planPayload).text),
      (.evidence, (digest .evidence (",".intercalate turn.evidenceIds)).text)]
    lengths := [
      (.messageChars, turn.message.length),
      (.messageBytes, turn.message.utf8ByteSize),
      (.replyChars, turn.replyText.length),
      (.replyBytes, turn.replyText.utf8ByteSize),
      (.evidenceCount, turn.evidenceIds.length),
      (.manifestCount, (turn.selectedManifestRefs.map ManifestRefV1.text).length),
      (.invocationCount, items.length)]
    dependencyCounts := [(.evidence, turn.groundings)]
    staticRegistryId := "capability-registry.v2"
    staticRegistryVersion := "2026-07-18.1"
    programAttempts := items }
  have hstate := validateDirectAuditDigest_ok (digest .request "state").shape
  have hrequest := validateDirectAuditDigest_ok (digest .requestId turn.requestId).shape
  have hcontents : proposal.contentDigests.forM
    (fun content => validateDirectAuditDigest content.2) = .ok () := by
    refine forM_digests_ok ?_
    simp only [proposal, List.forall_mem_cons]
    exact ⟨Digest.shape _, Digest.shape _, Digest.shape _, Digest.shape _, by simp⟩
  have hproposal : auditCommitProposal hmac turn stateKey (some encodedKey) journal = .ok
    (.direct proposal) := by
    unfold auditCommitProposal
    rw [hscene]
    refine Library.bind_eq_ok_iff.mpr ⟨key, hdecode, Library.bind_eq_ok_iff.mpr ⟨items, hitems,
      Library.bind_eq_ok_iff.mpr
        ⟨reasonCode, hreason, Library.bind_eq_ok_iff.mpr ⟨proposal, ?_, rfl⟩⟩⟩⟩
    refine Library.bind_eq_ok_iff.mpr ⟨(), hstate, Library.bind_eq_ok_iff.mpr ⟨(), hrequest,
      Library.bind_eq_ok_iff.mpr ⟨(), hrefs', ?_⟩⟩⟩
    refine require_bind_eq_ok_iff.mpr ⟨decide_eq_true hlength, require_bind_eq_ok_iff.mpr ⟨rfl,
      require_bind_eq_ok_iff.mpr ⟨rfl, require_bind_eq_ok_iff.mpr ⟨rfl, ?_⟩⟩⟩⟩
    exact Library.bind_eq_ok_iff.mpr ⟨(), hcontents, rfl⟩
  refine ⟨_, Library.bind_eq_ok_iff.mpr
    ⟨_, hproposal, Library.bind_eq_ok_iff.mpr ⟨programs, hprograms,
    Library.bind_eq_ok_iff.mpr ⟨(), ?_, rfl⟩⟩⟩⟩
  refine Library.bind_eq_ok_iff.mpr ⟨(), hstate, require_bind_eq_ok_iff.mpr ⟨hserver,
    require_bind_eq_ok_iff.mpr ⟨decide_eq_true hlength', require_bind_eq_ok_iff.mpr ⟨rfl,
      require_bind_eq_ok_iff.mpr
        ⟨rfl, require_bind_eq_ok_iff.mpr ⟨?_, require_bind_eq_ok_iff.mpr ⟨rfl,
        require_bind_eq_ok_iff.mpr ⟨List.all_eq_true.mpr hallowed,
          Library.bind_eq_ok_iff.mpr ⟨(), hrequest, hcontents⟩⟩⟩⟩⟩⟩⟩⟩⟩
  simpa [proposal] using hrefsLength

end AuditTurn

section Main

variable {stateKey : ConversationStateKey} {maxRows : ℤ} {es : List CallEvent}
  {start journal : TurnLlmInvocationJournalV1}

/-- The audit of a turn is recorded when the turn fits and every call that left a row ended in a
way that the audit accepts. The record then has one attempt for each of these calls, in order. -/
theorem audit_turn_ok_iff (hnew : TurnLlmInvocationJournalV1.new maxRows = .ok start)
    (run : TurnLlmCalls stateKey.scene start es journal) (hmac : Bytes → Bytes → Digest "dah1")
    (turn : AuditedTurn) (directAuditHmacKey : Option String) (responseId : String)
    (replyKind : ReplyKind) (createdAtEpochMs expiresAtMonotonicNs : ℤ) :
    ((∃ record, auditTurn hmac turn stateKey directAuditHmacKey journal responseId replyKind
        createdAtEpochMs expiresAtMonotonicNs = .ok record) ↔
      turn.Fits stateKey directAuditHmacKey responseId ∧
        ∀ call ∈ recordedCalls es, call.auditable = true) ∧
    ∀ record, auditTurn hmac turn stateKey directAuditHmacKey journal responseId replyKind
        createdAtEpochMs expiresAtMonotonicNs = .ok record →
      record.attempts = (recordedCalls es).mapIdx fun i call => ((i : ℤ) + 1, call.programId) := by
  obtain ⟨wf, rows⟩ := turn_rows hnew run
  cases hscene : stateKey.scene with
  | group =>
    rw [hscene] at rows
    refine ⟨⟨fun ⟨record, h⟩ => ?_, fun ⟨hfits, hcalls⟩ => ?_⟩, fun record h => ?_⟩
    · obtain ⟨hrefs, hcalls, -⟩ := audit_group_turn hscene wf rows h
      exact ⟨⟨hrefs, fun hdirect => by rw [hscene] at hdirect; cases hdirect⟩, hcalls⟩
    · exact audit_group_turn_ok hscene wf rows hfits.refs hcalls
    · exact (audit_group_turn hscene wf rows h).2.2
  | direct =>
    rw [hscene] at rows
    refine ⟨⟨fun ⟨record, h⟩ => ?_, fun ⟨hfits, hcalls⟩ => ?_⟩, fun record h => ?_⟩
    · obtain ⟨hfits, hcalls, -⟩ := audit_direct_turn hscene wf rows h
      exact ⟨hfits, hcalls⟩
    · exact audit_direct_turn_ok hscene wf rows hfits hcalls
    · exact (audit_direct_turn hscene wf rows h).2.2

end Main

/-- A selector whose provider does not answer in time. -/
def lateSelector : LlmCall := .direct {
  synthesis := ⟨.approvedKnowledgeSelector, "approved_knowledge_selector.scene_neutral.v1@1",
    default,
    default, default⟩
  modelFamily := .generic
  internalEndpoint := false
  sceneKey := .sceneNeutralV1
  model := ⟨⟨"approved_selection", by decide⟩, ⟨"approved-selection.v1", by decide⟩, fun _ => true⟩
  purpose := "approved_selector"
  purpose_bound := by decide
  envelope := .ok ⟨.openaiChatCompletions, .openaiCompatible, default, default, default, 512⟩
  ending := .error .timeout
  out1 := fun _ => default
  latencyMs := 30000 }

/-- A turn in a group that ends without a reply. -/
def silentTurn : AuditedTurn :=
  ⟨.noReply, [⟨.generalNoReply, .v20260718n1⟩], "req-1", "hi", "", "{}", "{}", [], 0⟩

theorem audit_turn_ok_iff_lateSelector : ∃ record, auditTurn (fun _ _ => default) silentTurn
    ⟨.wecom, "adapter", "tenant", .group, "subject", "principal"⟩ none
      (lateSelector.run ⟨8, []⟩).2 "resp-1"
      .noReply 0 0 = .ok record := by
  have hnew : TurnLlmInvocationJournalV1.new 8 = .ok ⟨8, []⟩ := rfl
  refine (audit_turn_ok_iff hnew (.snoc .nil lateSelector rfl) _ silentTurn none "resp-1"
    .noReply 0 0).1.mpr
    ⟨⟨by decide, fun hdirect => by cases hdirect⟩, ?_⟩
  intro call hcall
  obtain ⟨e, he, rfl⟩ := List.mem_map.mp hcall
  obtain rfl := List.mem_singleton.mp (List.mem_of_mem_filter he)
  rfl

/-! ## Journals under any operations -/

/-- What callers do to a journal: they reserve a row, or build a closed one and put it in place. -/
inductive JournalOperation where
  | reserve (stageKind : StageKindV1) (programId : String) (targetSlot : TargetSlotV1)
      (purpose : String) (logicalAttempt : Option ℕ)
  | replaceReserved (ordinal : ℕ) (replacement : TurnLlmInvocationRowV1)

/-- A refused operation leaves the journal as it is. -/
def journalOperations : System TurnLlmInvocationJournalV1 JournalOperation
    (Except JournalException Unit) where
  step journal operation :=
    match operation with
    | .reserve stageKind programId targetSlot purpose logicalAttempt =>
      match journal.reserve stageKind programId targetSlot purpose logicalAttempt with
      | .ok (_, journal') => (.ok (), journal')
      | .error e => (.error e, journal)
    | .replaceReserved ordinal replacement =>
      match replacement.construct.bind fun row => journal.replaceReserved ordinal row with
      | .ok journal' => (.ok (), journal')
      | .error e => (.error e, journal)

/-- A row that was closed. -/
def TurnLlmInvocationRowV1.Closed (row : TurnLlmInvocationRowV1) : Prop := row.status ≠ .reserved

section Operations

variable {journal : TurnLlmInvocationJournalV1} {operation : JournalOperation}

/-- One operation keeps the closed rows. -/
theorem journalOperations_step (wf : journal.WellFormed) :
    (journalOperations.event journal operation).after.WellFormed ∧
      Extends TurnLlmInvocationRowV1.Closed journal.rows
        (journalOperations.event journal operation).after.rows := by
  cases operation with
  | reserve stageKind programId targetSlot purpose logicalAttempt =>
    dsimp only [System.event, journalOperations]
    cases h : journal.reserve stageKind programId targetSlot purpose logicalAttempt with
    | error e => exact ⟨wf, .refl _ _⟩
    | ok result =>
      obtain ⟨row, journal'⟩ := result
      refine ⟨wf.reserve h, ?_⟩
      obtain ⟨-, -, -, rfl⟩ := TurnLlmInvocationJournalV1.reserve_spec h
      exact .append _ _ _
  | replaceReserved ordinal replacement =>
    dsimp only [System.event, journalOperations]
    cases h : replacement.construct.bind fun row => journal.replaceReserved ordinal row with
    | error e => exact ⟨wf, .refl _ _⟩
    | ok journal' =>
      obtain ⟨row, hrow, hreplace⟩ := Library.bind_eq_ok_iff.mp h
      obtain ⟨rfl, hvalid⟩ := TurnLlmInvocationRowV1.valid_of_construct hrow
      refine ⟨wf.replaceReserved hvalid hreplace, ?_⟩
      obtain ⟨i, current, -, hcurrent, hopen, -, rfl⟩ :=
        TurnLlmInvocationJournalV1.replaceReserved_spec hreplace
      exact .set hcurrent (fun hclosed => hclosed hopen) _

variable {maxRows : ℤ} {start : TurnLlmInvocationJournalV1}
  {es es₁ es₂ : List (Event TurnLlmInvocationJournalV1 JournalOperation
    (Except JournalException Unit))}
  {e : Event TurnLlmInvocationJournalV1 JournalOperation (Except JournalException Unit)}

theorem journal_wellFormed (hnew : TurnLlmInvocationJournalV1.new maxRows = .ok start)
    (run : Run journalOperations (fun _ _ => True) start es journal) : journal.WellFormed := by
  refine run.invariant (P := fun _ journal => journal.WellFormed) ?_ ?_
  · exact TurnLlmInvocationJournalV1.new_wellFormed hnew
  · intro _ _ _ _ _ wf
    exact (journalOperations_step wf).1

/-- Whatever callers do in whichever order, the rows keep their numbers, their number its limit,
and every row that was ever closed its contents. -/
theorem journal_rows_kept (hnew : TurnLlmInvocationJournalV1.new maxRows = .ok start)
    (run : Run journalOperations (fun _ _ => True) start (es₁ ++ e :: es₂) journal) :
    journal.WellFormed ∧ Extends TurnLlmInvocationRowV1.Closed e.after.rows journal.rows := by
  refine ⟨journal_wellFormed hnew run, ?_⟩
  refine run.persists (P := fun _ journal => Extends TurnLlmInvocationRowV1.Closed
    e.after.rows journal.rows)
    (.refl _ _) ?_
  intro _ _ _ before _ _ hkept
  exact hkept.trans (journalOperations_step (journal_wellFormed hnew before)).2

end Operations

namespace ClosedRowRun

/-- A planner call that failed. -/
def closedRow (errorCode : String) : TurnLlmInvocationRowV1 :=
  { TurnLlmInvocationJournalV1.reservedRow 1 1 .plannerIntent "planner" .planner "plan" with
    programVersion := some "1"
    sceneKey := some .sceneNeutralV1
    status := .transportError
    hph1 := some (default : Digest "hph1").text
    inputDigest := some (default : Digest "mch1").text
    errorCode := some errorCode
    modelFamily := some "generic"
    providerId := some "gemini"
    transportId := some "gemini_generate_content"
    inputSchemaVersion := some "planner.v1"
    outputSchemaVersion := some "plan.v1" }

theorem closedRow_valid {errorCode : String} (h : boundedText 0 80 errorCode = true) :
    (closedRow errorCode).Valid := by
  refine ⟨?_, rfl⟩
  simp only [TurnLlmInvocationRowV1.fieldChecks, closedRow, TurnLlmInvocationJournalV1.reservedRow,
    List.forall_mem_cons, Option.all_some, Option.all_none, Digest.shape, h, List.not_mem_nil,
    false_implies, implies_true, and_true, true_and]
  and_intros <;> rfl

def reservePlanner : JournalOperation := .reserve .plannerIntent "planner" .planner "plan" none

def closePlanner (errorCode : String) : JournalOperation :=
  .replaceReserved 1 (closedRow errorCode)

def reserveComposer : JournalOperation :=
  .reserve .knowledgeComposer "composer" .composer "answer" none

def opened : TurnLlmInvocationJournalV1 :=
  ⟨8, [TurnLlmInvocationJournalV1.reservedRow 1 1 .plannerIntent "planner" .planner "plan"]⟩

def closed : TurnLlmInvocationJournalV1 := ⟨8, [closedRow "timeout"]⟩

theorem after_close :
    (journalOperations.event opened (closePlanner "timeout")).after = closed := by
  have h := TurnLlmInvocationRowV1.construct_of_valid
    (closedRow_valid (show boundedText 0 80 "timeout" = true by rfl))
  simp only [System.event, journalOperations, closePlanner, h]
  rfl

/-- The closed row is not written again. -/
theorem after_again :
    (journalOperations.event closed (closePlanner "unavailable")).after = closed := by
  have h := TurnLlmInvocationRowV1.construct_of_valid
    (closedRow_valid (show boundedText 0 80 "unavailable" = true by rfl))
  simp only [System.event, journalOperations, closePlanner, h]
  rfl

end ClosedRowRun

open ClosedRowRun in
/-- The planner call is reserved and closed as timed out, closed again in vain, and a composer call
reserved: the row of the planner call keeps its place and its first reason. -/
theorem journal_rows_kept_closed : ∃ es journal,
    Run journalOperations (fun _ _ => True) ⟨8, []⟩ es journal ∧
      es.map (·.input) = [reservePlanner, closePlanner "timeout", closePlanner "unavailable",
        reserveComposer] ∧
      journal.WellFormed ∧ journal.rows[0]? = some (closedRow "timeout") ∧
      journal.rows.length = 2 := by
  have opening : Run journalOperations (fun _ _ => True) ⟨8, []⟩
      [journalOperations.event ⟨8, []⟩ reservePlanner] opened :=
    Run.nil.snoc reservePlanner trivial
  have closing : Run journalOperations (fun _ _ => True) ⟨8, []⟩
      ([journalOperations.event ⟨8, []⟩ reservePlanner] ++
        [journalOperations.event opened (closePlanner "timeout")]) closed :=
    after_close ▸ opening.snoc (closePlanner "timeout") trivial
  have refused : Run journalOperations (fun _ _ => True) ⟨8, []⟩
      ([journalOperations.event ⟨8, []⟩ reservePlanner] ++
        journalOperations.event opened (closePlanner "timeout") ::
        [journalOperations.event closed (closePlanner "unavailable")]) closed :=
    after_again ▸ closing.snoc (closePlanner "unavailable") trivial
  have run : Run journalOperations (fun _ _ => True) ⟨8, []⟩
      ([journalOperations.event ⟨8, []⟩ reservePlanner] ++
        journalOperations.event opened (closePlanner "timeout") ::
        [journalOperations.event closed (closePlanner "unavailable"),
          journalOperations.event closed reserveComposer]) _ :=
    refused.snoc reserveComposer trivial
  obtain ⟨wf, kept⟩ := journal_rows_kept
    (show TurnLlmInvocationJournalV1.new 8 = .ok ⟨8, []⟩ from rfl) run
  rw [after_close] at kept
  obtain ⟨row, hrow, hsame⟩ := kept 0 (closedRow "timeout") rfl
  obtain rfl := hsame (show (closedRow "timeout").status ≠ .reserved by decide)
  exact ⟨_, _, run, rfl, wf, hrow, rfl⟩

end MarketSupport
