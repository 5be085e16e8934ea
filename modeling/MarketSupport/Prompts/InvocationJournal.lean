import MarketSupport.Library.Except
import MarketSupport.Library.WriteOnce
import MarketSupport.Prompts.ProgramModels

/-!
# The journal of a turn's model calls

A turn reserves a row before it calls a model and closes the row with what came of the call.
Ordinals are positions, the number of rows is limited, and a closed row is never written again.

## Main results

* `reserve_spec`, `replaceReserved_spec` — what the two operations do, and when they refuse.
-/

namespace MarketSupport

/-! ## Rows -/

inductive JournalStatusV1 where
  | reserved | success | outputContractError | transportError | uncapturedNetworkError
  deriving DecidableEq, Repr

/-- What the journal raises: an `InvocationJournalError`, or the `ValidationError` of a row, of
its fields or of its status. -/
inductive JournalException where
  | journal (code : String)
  | fields (names : List String)
  | status (code : String)
  deriving DecidableEq, Repr

structure TurnLlmInvocationRowV1 where
  invocationOrdinal : ℕ
  logicalAttempt : ℕ
  stageKind : StageKindV1
  programId : String
  programVersion : Option String
  targetSlot : TargetSlotV1
  sceneKey : Option AuditSceneKey
  sceneContractRef : Option String
  purpose : String
  status : JournalStatusV1
  osh1 : Option String
  poh1 : Option String
  hph1 : Option String
  prh1 : Option String
  inputDigest : Option String
  outputDigest : Option String
  errorCode : Option String
  modelFamily : Option String
  providerId : Option String
  transportId : Option String
  inputSchemaVersion : Option String
  outputSchemaVersion : Option String
  latencyMs : ℕ
  inputBytes : ℕ
  outputBytes : Option ℕ
  deriving DecidableEq, Repr

/-- `min_length` and `max_length` of a text. -/
def boundedText (least most : ℕ) (text : String) : Bool :=
  decide (least ≤ text.length) && decide (text.length ≤ most)

namespace TurnLlmInvocationRowV1

/-- The bounds and patterns of the fields, under their names. -/
def fieldChecks (row : TurnLlmInvocationRowV1) : List (String × Bool) :=
  [("invocation_ordinal", decide (1 ≤ row.invocationOrdinal) && decide
    (row.invocationOrdinal ≤ 18)),
   ("logical_attempt", decide (1 ≤ row.logicalAttempt) && decide (row.logicalAttempt ≤ 18)),
   ("program_id", boundedText 1 180 row.programId),
   ("program_version", row.programVersion.all (boundedText 1 40)),
   ("scene_contract_ref", row.sceneContractRef.all (boundedText 0 240)),
   ("purpose", boundedText 1 80 row.purpose),
   ("osh1", row.osh1.all (isDigest "osh1")),
   ("poh1", row.poh1.all (isDigest "poh1")),
   ("hph1", row.hph1.all (isDigest "hph1")),
   ("prh1", row.prh1.all (isDigest "prh1")),
   ("input_digest", row.inputDigest.all (isDigest "mch1")),
   ("output_digest", row.outputDigest.all (isDigest "out1")),
   ("error_code", row.errorCode.all (boundedText 0 80)),
   ("model_family", row.modelFamily.all (boundedText 0 80)),
   ("provider_id", row.providerId.all (boundedText 0 80)),
   ("transport_id", row.transportId.all (boundedText 0 80)),
   ("input_schema_version", row.inputSchemaVersion.all (boundedText 0 160)),
   ("output_schema_version", row.outputSchemaVersion.all (boundedText 0 160))]

/-- `validate_status_fields`. -/
def validateStatusFields (row : TurnLlmInvocationRowV1) : Except JournalException Unit :=
  if row.status = .success ∧
      (row.outputDigest.isNone ∨ row.outputBytes.isNone ∨ row.errorCode.isSome) then
    .error (.status "journal_success_capture_invalid")
  else if row.status ≠ .success ∧ row.status ≠ .reserved ∧ row.errorCode.isNone then
    .error (.status "journal_error_code_required")
  else if row.status ≠ .reserved ∧ (row.programVersion.isNone ∨ row.sceneKey.isNone ∨
      row.hph1.isNone ∨ row.inputDigest.isNone ∨ row.modelFamily.isNone ∨ row.providerId.isNone ∨
      row.transportId.isNone ∨ row.inputSchemaVersion.isNone ∨ row.outputSchemaVersion.isNone) then
    .error (.status "journal_transport_metadata_required")
  else if row.status ≠ .reserved ∧ row.status ≠ .success ∧
      (row.outputDigest.isSome ∨ row.outputBytes.isSome) then
    .error (.status "journal_error_capture_forbidden")
  else if row.sceneKey = some .sceneNeutralV1 then
    if row.sceneContractRef.isSome then
      .error (.status "journal_neutral_scene_contract_forbidden")
    else .ok ()
  else if row.status ≠ .reserved ∧ row.sceneContractRef.isNone then
    .error (.status "journal_scene_contract_required")
  else .ok ()

/-- The constructor of a row: the fields first, then the status. -/
def construct (row : TurnLlmInvocationRowV1) : Except JournalException TurnLlmInvocationRowV1 :=
  match (row.fieldChecks.filter fun check => !check.2).map (·.1) with
  | [] => row.validateStatusFields.map fun _ => row
  | names => .error (.fields names)

/-- Whether the constructor accepts the row. -/
def Valid (row : TurnLlmInvocationRowV1) : Prop :=
  (∀ check ∈ row.fieldChecks, check.2 = true) ∧ row.validateStatusFields = .ok ()

theorem construct_of_valid {row : TurnLlmInvocationRowV1} (h : row.Valid) :
    row.construct = .ok row := by
  have hfilter : (row.fieldChecks.filter fun check => !check.2) = [] := by
    rw [List.filter_eq_nil_iff]
    intro check hcheck
    rw [h.1 check hcheck]
    decide
  rw [construct, hfilter, h.2]
  rfl

theorem valid_of_construct {row row' : TurnLlmInvocationRowV1} (h : row.construct = .ok row') :
    row' = row ∧ row.Valid := by
  unfold construct at h
  split at h
  · next hnames =>
    rw [List.map_eq_nil_iff, List.filter_eq_nil_iff] at hnames
    cases hstatus : row.validateStatusFields with
    | error e => rw [hstatus] at h; cases h
    | ok u =>
      rw [hstatus] at h
      refine ⟨(Except.ok.inj h).symm, fun check hcheck => ?_, hstatus⟩
      simpa using hnames check hcheck
  · cases h

end TurnLlmInvocationRowV1

/-! ## The journal -/

structure TurnLlmInvocationJournalV1 where
  maxRows : ℕ
  rows : List TurnLlmInvocationRowV1
  deriving DecidableEq, Repr

namespace TurnLlmInvocationJournalV1

/-- The constructor: between one and eighteen rows. -/
def new (maxRows : ℤ) : Except JournalException TurnLlmInvocationJournalV1 :=
  if maxRows < 1 ∨ maxRows > 18 then
    .error (.journal "llm_invocation_journal_capacity_invalid")
  else .ok ⟨maxRows.toNat, []⟩

/-- The row that `reserve` appends. -/
def reservedRow (ordinal logicalAttempt : ℕ) (stageKind : StageKindV1) (programId : String)
    (targetSlot : TargetSlotV1) (purpose : String) : TurnLlmInvocationRowV1 where
  invocationOrdinal := ordinal
  logicalAttempt := logicalAttempt
  stageKind := stageKind
  programId := programId
  programVersion := none
  targetSlot := targetSlot
  sceneKey := none
  sceneContractRef := none
  purpose := purpose
  status := .reserved
  osh1 := none
  poh1 := none
  hph1 := none
  prh1 := none
  inputDigest := none
  outputDigest := none
  errorCode := none
  modelFamily := none
  providerId := none
  transportId := none
  inputSchemaVersion := none
  outputSchemaVersion := none
  latencyMs := 0
  inputBytes := 0
  outputBytes := none

/-- `reserve`. -/
def reserve (journal : TurnLlmInvocationJournalV1) (stageKind : StageKindV1) (programId : String)
    (targetSlot : TargetSlotV1) (purpose : String) (logicalAttempt : Option ℕ) :
    Except JournalException (TurnLlmInvocationRowV1 × TurnLlmInvocationJournalV1) := do
  let ordinal := journal.rows.length + 1
  if ordinal > journal.maxRows then
    .error (.journal "llm_invocation_journal_capacity_exceeded")
  else
    let row ← (reservedRow ordinal (logicalAttempt.getD ordinal) stageKind programId targetSlot
      purpose).construct
    return (row, { journal with rows := journal.rows ++ [row] })

/-- `replace_reserved`. -/
def replaceReserved (journal : TurnLlmInvocationJournalV1) (ordinal : ℕ)
    (replacement : TurnLlmInvocationRowV1) : Except JournalException TurnLlmInvocationJournalV1 :=
  if ordinal < 1 ∨ ordinal > journal.rows.length then
    .error (.journal "llm_invocation_journal_ordinal_invalid")
  else match journal.rows[ordinal - 1]? with
    | none => .error (.journal "llm_invocation_journal_ordinal_invalid")
    | some current =>
      if current.status ≠ .reserved then .error (.journal "llm_invocation_journal_row_closed")
      else if replacement.invocationOrdinal ≠ ordinal then
        .error (.journal "llm_invocation_journal_ordinal_mismatch")
      else .ok { journal with rows := journal.rows.set (ordinal - 1) replacement }

/-- Rows stand at their ordinals, every one is valid, and there is room for them. -/
structure WellFormed (journal : TurnLlmInvocationJournalV1) : Prop where
  limit : 1 ≤ journal.maxRows ∧ journal.maxRows ≤ 18
  room : journal.rows.length ≤ journal.maxRows
  ordinal : ∀ (i : ℕ) (row : TurnLlmInvocationRowV1), journal.rows[i]? = some row →
    row.invocationOrdinal = i + 1
  valid : ∀ row ∈ journal.rows, row.Valid

variable {journal journal' : TurnLlmInvocationJournalV1}

theorem new_wellFormed {maxRows : ℤ} (h : new maxRows = .ok journal) : journal.WellFormed := by
  unfold new at h
  split_ifs at h with hlimit
  obtain rfl := Except.ok.inj h
  refine ⟨by dsimp only; omega, Nat.zero_le _, ?_, ?_⟩
  · intro i row hrow
    cases hrow
  · intro row hrow
    cases hrow

theorem new_rows {maxRows : ℤ} (h : new maxRows = .ok journal) : journal.rows = [] := by
  unfold new at h
  split_ifs at h
  rw [← Except.ok.inj h]

/-- A reservation appends an open row, within the limit. -/
theorem reserve_spec {stageKind : StageKindV1} {programId purpose : String}
    {targetSlot : TargetSlotV1} {logicalAttempt : Option ℕ} {row : TurnLlmInvocationRowV1}
    (h : journal.reserve stageKind programId targetSlot purpose logicalAttempt =
    .ok (row, journal')) :
    journal.rows.length < journal.maxRows ∧
      row = reservedRow (journal.rows.length + 1) (logicalAttempt.getD (journal.rows.length + 1))
        stageKind programId targetSlot purpose ∧
      row.Valid ∧ journal' = { journal with rows := journal.rows ++ [row] } := by
  unfold reserve at h
  dsimp only at h
  split_ifs at h with hfull
  obtain ⟨row', hrow, h⟩ := Library.bind_eq_ok_iff.mp h
  obtain ⟨rfl, hvalid⟩ := TurnLlmInvocationRowV1.valid_of_construct hrow
  obtain ⟨rfl, rfl⟩ := Prod.mk.inj (Except.ok.inj h)
  exact ⟨by omega, rfl, hvalid, rfl⟩

/-- A replacement fills an open row. -/
theorem replaceReserved_spec {ordinal : ℕ} {replacement : TurnLlmInvocationRowV1}
    (h : journal.replaceReserved ordinal replacement = .ok journal') :
    ∃ i current, ordinal = i + 1 ∧ journal.rows[i]? = some current ∧ current.status = .reserved ∧
      replacement.invocationOrdinal = i + 1 ∧
      journal' = { journal with rows := journal.rows.set i replacement } := by
  unfold replaceReserved at h
  by_cases hordinal : ordinal < 1 ∨ ordinal > journal.rows.length
  · rw [if_pos hordinal] at h
    cases h
  rw [if_neg hordinal] at h
  obtain ⟨i, rfl⟩ : ∃ i, ordinal = i + 1 := ⟨ordinal - 1, by omega⟩
  rw [Nat.add_sub_cancel] at h
  cases hcurrent : journal.rows[i]? with
  | none => rw [hcurrent] at h; cases h
  | some current =>
    rw [hcurrent] at h
    dsimp only at h
    split_ifs at h with hstatus hmatch
    exact ⟨i, current, rfl, hcurrent, not_not.mp hstatus, not_not.mp hmatch,
      (Except.ok.inj h).symm⟩

theorem WellFormed.reserve {stageKind : StageKindV1} {programId purpose : String}
    {targetSlot : TargetSlotV1} {logicalAttempt : Option ℕ} {row : TurnLlmInvocationRowV1}
    (wf : journal.WellFormed)
    (h : journal.reserve stageKind programId targetSlot purpose logicalAttempt =
    .ok (row, journal')) :
    journal'.WellFormed := by
  obtain ⟨hroom, hrow, hvalid, rfl⟩ := reserve_spec h
  refine ⟨wf.limit, by simp; omega, fun i r hr => ?_, fun r hr => ?_⟩
  · obtain hlt | rfl := (show i < journal.rows.length ∨ i = journal.rows.length by grind)
    · exact wf.ordinal i r (by grind)
    · obtain rfl : row = r := by simpa using hr
      rw [hrow]
      rfl
  · obtain hr | hr := List.mem_append.mp hr
    · exact wf.valid r hr
    · rw [List.mem_singleton.mp hr]
      exact hvalid

theorem WellFormed.replaceReserved {ordinal : ℕ} {replacement : TurnLlmInvocationRowV1}
    (wf : journal.WellFormed) (hvalid : replacement.Valid)
    (h : journal.replaceReserved ordinal replacement = .ok journal') : journal'.WellFormed := by
  obtain ⟨i, current, rfl, hcurrent, -, hmatch, rfl⟩ := replaceReserved_spec h
  refine ⟨wf.limit, by simpa using wf.room, fun j r hr => ?_, fun r hr => ?_⟩
  · by_cases hij : i = j
    · subst hij
      obtain rfl : replacement = r := by grind
      exact hmatch
    · exact wf.ordinal j r (by grind)
  · obtain hr | rfl := List.mem_or_eq_of_mem_set hr
    · exact wf.valid r hr
    · exact hvalid

end TurnLlmInvocationJournalV1

end MarketSupport
