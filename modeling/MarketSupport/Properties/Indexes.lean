import MarketSupport.State.RootInvariant

/-!
# Index exactness

The two lookup maps of the root agree with the issued records in both directions.
-/

namespace MarketSupport

open Library

/-- Both indexes of every reachable root are exact. A root that is only passed on the way of
an operation is the last root of the run in which the next call of the hook raises. -/
theorem indexes_exact {setup : CoordinatorSetup} {es : List CoordinatorEvent} {c : Coordinator}
    (run : CoordinatorRun setup Admissible es c) :
    (∀ k key, c.root.pendingRequestByState.get k = some key ↔
      key.stateKey = k ∧ ∃ record, c.root.issuedRecords.get key = some (.pending record)) ∧
    (∀ k r s p q, c.root.issuedRecords.get ⟨k, r⟩ = some (.pending p) →
      c.root.issuedRecords.get ⟨k, s⟩ = some (.pending q) → r = s) ∧
    (∀ id key, c.root.responseIndex.get id = some key ↔
      ∃ record, c.root.issuedRecords.get key = some (.complete record) ∧
        record.response.responseId = id) ∧
    (∀ key key' record record', c.root.issuedRecords.get key = some (.complete record) →
      c.root.issuedRecords.get key' = some (.complete record') →
      record.response.responseId = record'.response.responseId → key = key') := by
  have h := RootInvariant.of_run run fun _ _ => id
  have hpending : ∀ k key, c.root.pendingRequestByState.get k = some key ↔
      key.stateKey = k ∧ ∃ record, c.root.issuedRecords.get key = some (.pending record) := by
    intro k key
    rw [h.pending.get_iff]
    constructor
    · rintro ⟨record, hget, hk⟩
      cases record with
      | pending p => exact ⟨(h.keyed hget).1.symm.trans (Option.some.inj hk), p, hget⟩
      | complete r => cases hk
    · rintro ⟨rfl, p, hget⟩
      exact ⟨_, hget, congrArg some (h.keyed hget).1⟩
  refine ⟨hpending, ?_, ?_, ?_⟩
  · intro k r s p q hp hq
    have hr := (hpending k ⟨k, r⟩).mpr ⟨rfl, p, hp⟩
    have hs := (hpending k ⟨k, s⟩).mpr ⟨rfl, q, hq⟩
    exact congrArg RecordKey.ident (Option.some.inj (hr.symm.trans hs))
  · intro id key
    rw [h.responses.get_iff]
    constructor
    · rintro ⟨record, hget, hid⟩
      cases record with
      | pending p => cases hid
      | complete r => exact ⟨r, hget, Option.some.inj hid⟩
    · rintro ⟨r, hget, rfl⟩
      exact ⟨_, hget, rfl⟩
  · intro key key' record record' hget hget' hid
    exact h.responses.key_unique hget hget' rfl (congrArg some hid.symm)

/-- In the sample run the committed reply is indexed under its response id. -/
theorem indexes_exact_sample :
    (coordinatorTrace sampleSetup sampleInputs).2.root.responseIndex.get
        "resp-00000000000000000000000000000000" = some ⟨sampleKey, "r"⟩ ∧
      ∃ record, (coordinatorTrace sampleSetup sampleInputs).2.root.issuedRecords.get
          ⟨sampleKey, "r"⟩ = some (.complete record) ∧
        record.response.responseId = "resp-00000000000000000000000000000000" := by
  have hindex : (coordinatorTrace sampleSetup sampleInputs).2.root.responseIndex.get
      "resp-00000000000000000000000000000000" = some ⟨sampleKey, "r"⟩ := by decide +kernel
  exact ⟨hindex, ((indexes_exact (coordinatorTrace_run (by decide +kernel))).2.2.1 _ _).mp hindex⟩

end MarketSupport
