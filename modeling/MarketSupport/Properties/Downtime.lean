import Mathlib.Tactic.NormNum
import MarketSupport.Health.Models

/-!
# Reported downtime

The outages of a target are the stretches of time in which its last call was a failure, so the
unavailable time that a report gives for a window is the time in it with the status `unhealthy`.

## Main results

* `downtime_reported` — what holds of the outages after any calls at times that do not go back.
-/

namespace MarketSupport

open Library

/-! ## The status over time -/

/-- The status that a call leaves. -/
def HealthCall.status : HealthCall → HealthStatus
  | .recordSuccess _ => .healthy
  | .recordFailure .. => .unhealthy

/-- The status at an instant: that of the last call up to then. -/
def statusAt (calls : List HealthCall) (t : Datetime) : HealthStatus :=
  match (calls.filter (·.now ≤ t)).getLast? with
  | none => .unknown
  | some call => call.status

/-- The microseconds of a window in which the status was `unhealthy`. -/
def downtime (calls : List HealthCall) (start stop : Datetime) : ℕ :=
  (instants start stop).countP fun t => statusAt calls t = .unhealthy

/-! ## The property -/

/-- An outage lasts from its first instant until before its last one; one that is open has no
end. -/
def OutageWindow.Covers (outage : OutageWindow) (t : Datetime) : Prop :=
  outage.startedAt ≤ t ∧ ∀ ended ∈ outage.endedAt, t < ended

/-- The outages, and what was returned of them, after some calls. -/
structure DowntimeReported (calls : List HealthCall) (state : LlmHealthState)
    (recovered : List OutageWindow) : Prop where
  chronological : state.outages.Pairwise fun first second =>
    ∃ ended, first.endedAt = some ended ∧ ended ≤ second.startedAt
  disjoint : state.outages.Pairwise fun first second => ∀ t, ¬(first.Covers t ∧ second.Covers t)
  ordered : ∀ outage ∈ state.outages, ∀ ended ∈ outage.endedAt, outage.startedAt ≤ ended
  lastOpen : (∃ outage ∈ state.outages.getLast?, outage.endedAt = none) ↔
    state.status = .unhealthy
  seconds : ∀ start stop now, stop ≤ now → (∀ call ∈ calls, call.now ≤ now) →
    outageSecondsBetween state start stop now = totalSeconds (downtime calls start stop)
  recoveries : recovered = state.outages.filter (·.endedAt.isSome)

/-! ## Status changes -/

variable {calls : List HealthCall} {call : HealthCall} {state : LlmHealthState}
  {recovered : List OutageWindow}

theorem statusAt_of_le {t : Datetime} (h : call.now ≤ t) :
    statusAt (calls ++ [call]) t = call.status := by
  simp [statusAt, List.filter_append, h]

theorem statusAt_of_lt {t : Datetime} (h : t < call.now) :
    statusAt (calls ++ [call]) t = statusAt calls t := by
  simp [statusAt, List.filter_append, not_le.mpr h]

theorem run_append (state : LlmHealthState) (calls : List HealthCall) (call : HealthCall) :
    state.run (calls ++ [call]) =
      (((state.run calls).1.call call).1,
        (state.run calls).2 ++ ((state.run calls).1.call call).2.toList) := by
  simp [LlmHealthState.run]

/-- A returned outage takes the place of the last one. -/
theorem recordSuccess_outages (state : LlmHealthState) (now : Datetime) :
    (state.recordSuccess now).1.outages = match (state.recordSuccess now).2 with
      | some outage => state.outages.dropLast ++ [outage]
      | none => state.outages := rfl

/-! ## The invariant -/

/-- The outages that were returned, then the open one of an unhealthy target, are the times with
the status `unhealthy`. -/
structure Tracks (calls : List HealthCall) (state : LlmHealthState)
    (recovered : List OutageWindow) (current : Option OutageWindow) : Prop where
  outages : state.outages = recovered ++ current.toList
  closed : ∀ outage ∈ recovered, ∃ ended, outage.endedAt = some ended ∧ outage.startedAt ≤ ended
  current_open : ∀ outage ∈ current, outage.endedAt = none
  current_iff : current.isSome ↔ state.status = .unhealthy
  chronological : state.outages.Pairwise fun first second =>
    ∃ ended, first.endedAt = some ended ∧ ended ≤ second.startedAt
  past : ∀ now, (∀ call ∈ calls, call.now ≤ now) → ∀ outage ∈ state.outages,
    outage.startedAt ≤ now ∧ ∀ ended ∈ outage.endedAt, ended ≤ now
  covers : ∀ t, statusAt calls t = .unhealthy ↔ ∃ outage ∈ state.outages, outage.Covers t

theorem tracks_nil : Tracks [] {} [] none := by
  constructor <;> simp [statusAt]

namespace Tracks

variable {current : Option OutageWindow} {now : Datetime} {reason : ProviderFailureCodeV1}
  {cooldown : ℚ}

/-- The status from the call on is that of the call. -/
theorem covers_append (h : Tracks calls state recovered current) {outages : List OutageWindow}
    (hbefore : ∀ t < call.now,
      (∃ outage ∈ outages, outage.Covers t) ↔ ∃ outage ∈ state.outages, outage.Covers t)
    (hafter : ∀ t, call.now ≤ t →
      ((∃ outage ∈ outages, outage.Covers t) ↔ call.status = .unhealthy)) (t : Datetime) :
    statusAt (calls ++ [call]) t = .unhealthy ↔ ∃ outage ∈ outages, outage.Covers t := by
  obtain hle | hlt := le_or_gt call.now t
  · rw [statusAt_of_le hle, hafter t hle]
  · rw [statusAt_of_lt hlt, h.covers, hbefore t hlt]

/-- What was closed before a call is over from the call on. -/
theorem not_covers (h : Tracks calls state recovered current)
    (hnow : ∀ call ∈ calls, call.now ≤ now) {outage : OutageWindow} (hmem : outage ∈ recovered)
    {t : Datetime} (ht : now ≤ t) : ¬ outage.Covers t := by
  rintro ⟨_, hcovers⟩
  obtain ⟨ended, hended, _⟩ := h.closed outage hmem
  have hin : outage ∈ state.outages := by
    rw [h.outages]
    exact List.mem_append_left _ hmem
  have hpast := (h.past now hnow outage hin).2 ended hended
  exact absurd (hcovers ended hended) (not_lt.mpr (hpast.trans ht))

theorem forall_now {later : Datetime}
    (hlater : ∀ earlier ∈ calls ++ [call], earlier.now ≤ later) :
    (∀ earlier ∈ calls, earlier.now ≤ later) ∧ call.now ≤ later :=
  ⟨fun earlier hmem => hlater earlier (List.mem_append_left _ hmem),
    hlater call (List.mem_append_right _ (List.mem_singleton_self _))⟩

theorem recordSuccess_healthy (h : Tracks calls state recovered none)
    (hnow : ∀ call ∈ calls, call.now ≤ now) :
    Tracks (calls ++ [.recordSuccess now]) (state.recordSuccess now).1
      (recovered ++ (state.recordSuccess now).2.toList) none := by
  have hstatus : state.status ≠ .unhealthy := fun hstatus => by
    simpa using h.current_iff.mpr hstatus
  have hopen : state.openOutage = none := if_neg hstatus
  have houtages : state.outages = recovered := by simpa using h.outages
  have hreturned : (state.recordSuccess now).2 = none := by
    simp [LlmHealthState.recordSuccess, hopen]
  have hsame : (state.recordSuccess now).1.outages = state.outages := by
    simp [LlmHealthState.recordSuccess, hopen]
  rw [hreturned, Option.toList_none, List.append_nil]
  refine ⟨?_, h.closed, h.current_open, ?_, ?_, ?_, ?_⟩
  · rw [hsame, h.outages]
  · simp [LlmHealthState.recordSuccess]
  · rw [hsame]
    exact h.chronological
  · intro later hlater
    rw [hsame]
    exact h.past later (forall_now hlater).1
  · rw [hsame]
    refine h.covers_append (fun _ _ => Iff.rfl) fun t ht =>
      iff_of_false ?_ (by simp [HealthCall.status])
    rintro ⟨outage, hmem, hcovers⟩
    exact h.not_covers hnow (houtages ▸ hmem) ht hcovers

theorem recordSuccess_unhealthy {outage : OutageWindow}
    (h : Tracks calls state recovered (some outage)) (hnow : ∀ call ∈ calls, call.now ≤ now) :
    Tracks (calls ++ [.recordSuccess now]) (state.recordSuccess now).1
      (recovered ++ (state.recordSuccess now).2.toList) none := by
  have houtages : state.outages = recovered ++ [outage] := h.outages
  have hlast : outage ∈ state.outages := by simp [houtages]
  have hended : outage.endedAt = none := h.current_open outage rfl
  have hopen : state.openOutage = some outage := by
    rw [LlmHealthState.openOutage, if_pos (h.current_iff.mp rfl), houtages,
      List.getLast?_concat]
  have hreturned : (state.recordSuccess now).2 = some { outage with endedAt := some now } := by
    simp [LlmHealthState.recordSuccess, hopen, hended]
  have hclosed : (state.recordSuccess now).1.outages =
      recovered ++ [{ outage with endedAt := some now }] := by
    rw [recordSuccess_outages, hreturned, houtages, List.dropLast_concat]
  have hstarted : outage.startedAt ≤ now := (h.past now hnow outage hlast).1
  have hchronological := h.chronological
  rw [houtages, List.pairwise_append] at hchronological
  rw [hreturned, Option.toList_some]
  refine ⟨?_, ?_, by simp, ?_, ?_, ?_, ?_⟩
  · rw [hclosed, Option.toList_none, List.append_nil]
  · intro closed hmem
    obtain hmem | hmem := List.mem_append.mp hmem
    · exact h.closed closed hmem
    · obtain rfl := List.mem_singleton.mp hmem
      exact ⟨now, rfl, hstarted⟩
  · simp [LlmHealthState.recordSuccess]
  · rw [hclosed, List.pairwise_append]
    refine ⟨hchronological.1, List.pairwise_singleton _ _, fun first hfirst second hsecond => ?_⟩
    obtain rfl := List.mem_singleton.mp hsecond
    exact hchronological.2.2 first hfirst outage (List.mem_singleton_self _)
  · intro later hlater closed hmem
    obtain ⟨hearlier, hlater⟩ := forall_now hlater
    rw [hclosed] at hmem
    obtain hmem | hmem := List.mem_append.mp hmem
    · exact h.past later hearlier closed (houtages ▸ List.mem_append_left _ hmem)
    · obtain rfl := List.mem_singleton.mp hmem
      refine ⟨hstarted.trans hlater, fun ended hended => ?_⟩
      obtain rfl := Option.some.inj hended
      exact hlater
  · rw [hclosed]
    refine h.covers_append (fun t ht => ?_) fun t ht =>
      iff_of_false ?_ (by simp [HealthCall.status])
    · -- the closed outage ends at the call
      have hsame : (OutageWindow.Covers { outage with endedAt := some now } t) ↔
          outage.Covers t := by
        simpa [OutageWindow.Covers, hended] using fun _ => show t < now from ht
      simp only [houtages, List.mem_append, List.mem_singleton, or_and_right, exists_or,
        exists_eq_left, hsame]
    · rintro ⟨closed, hmem, hcovers⟩
      obtain hmem | hmem := List.mem_append.mp hmem
      · exact h.not_covers hnow hmem ht hcovers
      · obtain rfl := List.mem_singleton.mp hmem
        exact absurd (hcovers.2 now rfl) (not_lt.mpr ht)

theorem recordFailure_unhealthy {outage : OutageWindow}
    (h : Tracks calls state recovered (some outage)) (hnow : ∀ call ∈ calls, call.now ≤ now) :
    Tracks (calls ++ [.recordFailure now reason cooldown])
      (state.recordFailure now reason cooldown).1 recovered (some outage) := by
  have hstatus : state.status = .unhealthy := h.current_iff.mp rfl
  have hlast : outage ∈ state.outages := by
    rw [h.outages]
    simp
  have hsame : (state.recordFailure now reason cooldown).1.outages = state.outages := by
    simp [LlmHealthState.recordFailure, hstatus]
  refine ⟨?_, h.closed, h.current_open, ?_, ?_, ?_, ?_⟩
  · rw [hsame, h.outages]
  · simp [LlmHealthState.recordFailure]
  · rw [hsame]
    exact h.chronological
  · intro later hlater
    rw [hsame]
    exact h.past later (forall_now hlater).1
  · rw [hsame]
    refine h.covers_append (fun _ _ => Iff.rfl) fun t ht => iff_of_true ⟨outage, hlast, ?_, ?_⟩ rfl
    · exact (h.past now hnow outage hlast).1.trans ht
    · simp [h.current_open outage rfl]

theorem recordFailure_healthy (h : Tracks calls state recovered none)
    (hnow : ∀ call ∈ calls, call.now ≤ now) :
    Tracks (calls ++ [.recordFailure now reason cooldown])
      (state.recordFailure now reason cooldown).1 recovered
      (some { startedAt := now, reason := some reason }) := by
  have hstatus : state.status ≠ .unhealthy := fun hstatus => by
    simpa using h.current_iff.mpr hstatus
  have houtages : state.outages = recovered := by simpa using h.outages
  have hadded : (state.recordFailure now reason cooldown).1.outages =
      recovered ++ [{ startedAt := now, reason := some reason }] := by
    simp [LlmHealthState.recordFailure, hstatus, houtages]
  refine ⟨hadded, h.closed, by simp, by simp [LlmHealthState.recordFailure], ?_, ?_, ?_⟩
  · rw [hadded, List.pairwise_append, ← houtages]
    refine ⟨h.chronological, List.pairwise_singleton _ _, fun first hfirst second hsecond => ?_⟩
    obtain rfl := List.mem_singleton.mp hsecond
    obtain ⟨ended, hended, _⟩ := h.closed first (houtages ▸ hfirst)
    exact ⟨ended, hended, (h.past now hnow first hfirst).2 ended hended⟩
  · intro later hlater outage hmem
    obtain ⟨hearlier, hlater⟩ := forall_now hlater
    rw [hadded] at hmem
    obtain hmem | hmem := List.mem_append.mp hmem
    · exact h.past later hearlier outage (houtages ▸ hmem)
    · obtain rfl := List.mem_singleton.mp hmem
      exact ⟨hlater, by simp⟩
  · rw [hadded]
    refine h.covers_append (fun t ht => ?_) fun t ht => iff_of_true ?_ rfl
    · have hnot : ¬ OutageWindow.Covers { startedAt := now, reason := some reason } t :=
        fun hcovers => absurd hcovers.1 (not_le.mpr ht)
      simp only [houtages, List.mem_append, List.mem_singleton, or_and_right, exists_or,
        exists_eq_left, hnot, or_false]
    · exact ⟨_, List.mem_append_right _ (List.mem_singleton_self _), ht, by simp⟩

/-- Every call keeps track. -/
theorem step (h : Tracks calls state recovered current)
    (hnow : ∀ earlier ∈ calls, earlier.now ≤ call.now) :
    ∃ current', Tracks (calls ++ [call]) (state.call call).1
      (recovered ++ (state.call call).2.toList) current' := by
  cases call with
  | recordSuccess now =>
    cases current with
    | none => exact ⟨_, h.recordSuccess_healthy hnow⟩
    | some outage => exact ⟨_, h.recordSuccess_unhealthy hnow⟩
  | recordFailure now reason cooldown =>
    simp only [LlmHealthState.call, Option.toList_none, List.append_nil]
    cases current with
    | none => exact ⟨_, h.recordFailure_healthy hnow⟩
    | some outage => exact ⟨_, h.recordFailure_unhealthy hnow⟩

end Tracks

/-- All calls keep track, at times that do not go back. -/
theorem exists_tracks (h : calls.Pairwise fun earlier later => earlier.now ≤ later.now) :
    ∃ current, Tracks calls (LlmHealthState.run {} calls).1 (LlmHealthState.run {} calls).2
      current := by
  induction calls using List.reverseRecOn with
  | nil => exact ⟨none, tracks_nil⟩
  | append_singleton calls call ih =>
    rw [List.pairwise_append] at h
    obtain ⟨current, htracks⟩ := ih h.1
    rw [run_append]
    exact htracks.step fun earlier hmem => h.2.2 earlier hmem call (List.mem_singleton_self _)

/-! ## Reports -/

/-- The instants of an outage, up to `now` when it is open. -/
def OutageWindow.span (outage : OutageWindow) (now : Datetime) : Span :=
  ⟨outage.startedAt, outage.endedAt.getD now⟩

theorem totalSeconds_nonpos_iff {microseconds : ℤ} : totalSeconds microseconds ≤ 0 ↔
    microseconds ≤ 0 := by
  rw [totalSeconds, div_le_iff₀ (by norm_num), zero_mul]
  exact_mod_cast Iff.rfl

theorem overlapOutage_seconds (outage : OutageWindow) (start stop now : Datetime) :
    ((overlapOutage outage start stop now).map (·.seconds)).getD 0 =
      totalSeconds ((outage.span now).within start stop) := by
  unfold overlapOutage Span.within
  dsimp only
  split_ifs with hnone
  · rw [totalSeconds_nonpos_iff] at hnone
    rw [OutageWindow.span, max_eq_left hnone]
    simp [totalSeconds]
  · rw [totalSeconds_nonpos_iff, not_le] at hnone
    rw [OutageWindow.span, max_eq_right hnone.le]
    rfl

theorem totalSeconds_add (a b : ℤ) : totalSeconds (a + b) = totalSeconds a + totalSeconds b := by
  rw [totalSeconds, Int.cast_add, add_div]
  rfl

/-- The report adds up what the outages take of the window. -/
theorem outageSecondsBetween_eq (state : LlmHealthState) (start stop now : Datetime) :
    outageSecondsBetween state start stop now =
      totalSeconds ((state.outages.map (·.span now)).map (·.within start stop)).sum := by
  have hfold : ∀ f : ℚ → OutageWindow → ℚ,
      (∀ total outage, f total outage =
        total + totalSeconds ((outage.span now).within start stop)) →
      ∀ (outages : List OutageWindow) (total : ℚ), outages.foldl f total =
        total + totalSeconds ((outages.map (·.span now)).map (·.within start stop)).sum := by
    intro f hf outages
    induction outages with
    | nil => simp [totalSeconds]
    | cons outage outages ih =>
      intro total
      rw [List.foldl_cons, ih, hf, List.map_cons, List.map_cons, List.sum_cons, totalSeconds_add,
        ← add_assoc]
  refine (hfold _ (fun total outage => ?_) state.outages 0).trans (zero_add _)
  rw [← overlapOutage_seconds]
  cases overlapOutage outage start stop now with
  | none => simp
  | some overlap => rfl

namespace Tracks

variable {current : Option OutageWindow}

theorem successive (h : Tracks calls state recovered current) (now : Datetime) :
    Span.Successive (state.outages.map (·.span now)) := by
  refine List.pairwise_map.mpr (h.chronological.imp ?_)
  rintro first second ⟨ended, hended, hle⟩
  rw [OutageWindow.span, hended]
  exact hle

/-- Before `now`, the spans are the times with the status `unhealthy`. -/
theorem statusAt_iff (h : Tracks calls state recovered current) {t now : Datetime} (ht : t < now) :
    statusAt calls t = .unhealthy ↔ ∃ span ∈ state.outages.map (·.span now), t ∈ span := by
  simp only [h.covers, List.mem_map, exists_exists_and_eq_and]
  refine exists_congr fun outage => and_congr_right fun _ => ?_
  rw [Span.mem_iff, OutageWindow.Covers, OutageWindow.span]
  cases outage.endedAt with
  | none => simp [ht]
  | some ended => simp

theorem outageSecondsBetween_eq (h : Tracks calls state recovered current)
    {start stop now : Datetime} (hstop : stop ≤ now) :
    outageSecondsBetween state start stop now = totalSeconds (downtime calls start stop) := by
  have hcount : downtime calls start stop = (instants start stop).countP
      fun t => ∃ span ∈ state.outages.map (·.span now), t ∈ span := by
    refine List.countP_congr fun t ht => ?_
    simp only [decide_eq_true_eq]
    exact h.statusAt_iff ((mem_instants.mp ht).2.trans_le hstop)
  rw [MarketSupport.outageSecondsBetween_eq, hcount, Span.count_covered (h.successive now)]

theorem recoveries (h : Tracks calls state recovered current) :
    recovered = state.outages.filter (·.endedAt.isSome) := by
  have hclosed : recovered.filter (·.endedAt.isSome) = recovered :=
    List.filter_eq_self.mpr fun outage hmem => by
      obtain ⟨ended, hended, _⟩ := h.closed outage hmem
      rw [hended]
      rfl
  have hopen : current.toList.filter (·.endedAt.isSome) = [] :=
    List.filter_eq_nil_iff.mpr fun outage hmem => by
      rw [h.current_open outage (Option.mem_toList.mp hmem)]
      exact Bool.false_ne_true
  rw [h.outages, List.filter_append, hclosed, hopen, List.append_nil]

theorem lastOpen (h : Tracks calls state recovered current) :
    (∃ outage ∈ state.outages.getLast?, outage.endedAt = none) ↔ state.status = .unhealthy := by
  rw [← h.current_iff, h.outages]
  cases current with
  | none =>
    refine iff_of_false ?_ (by simp)
    rintro ⟨outage, hmem, hopen⟩
    rw [Option.toList_none, List.append_nil] at hmem
    obtain ⟨ended, hended, _⟩ := h.closed outage (List.mem_of_getLast? hmem)
    rw [hopen] at hended
    cases hended
  | some outage =>
    refine iff_of_true ⟨outage, ?_, h.current_open outage rfl⟩ rfl
    rw [Option.toList_some, List.getLast?_concat]
    rfl

theorem downtimeReported (h : Tracks calls state recovered current) :
    DowntimeReported calls state recovered where
  chronological := h.chronological
  disjoint := h.chronological.imp fun {first second} ⟨ended, hended, hle⟩ t ⟨hfirst, hsecond⟩ =>
    absurd ((hfirst.2 ended hended).trans_le hle) (not_lt.mpr hsecond.1)
  ordered := by
    intro outage hmem ended hended
    rw [h.outages] at hmem
    obtain hmem | hmem := List.mem_append.mp hmem
    · obtain ⟨ended', hended', hle⟩ := h.closed outage hmem
      rw [hended'] at hended
      obtain rfl := Option.some.inj hended
      exact hle
    · rw [h.current_open outage (Option.mem_toList.mp hmem)] at hended
      cases hended
  lastOpen := h.lastOpen
  seconds _ _ _ hstop _ := h.outageSecondsBetween_eq hstop
  recoveries := h.recoveries

end Tracks

/-- After any calls at times that do not go back, the reported downtime of a window is the time in
it with the status `unhealthy`, and the outages that were returned are the closed ones. -/
theorem downtime_reported (h : calls.Pairwise fun earlier later => earlier.now ≤ later.now) :
    DowntimeReported calls (LlmHealthState.run {} calls).1 (LlmHealthState.run {} calls).2 := by
  obtain ⟨current, htracks⟩ := exists_tracks h
  exact htracks.downtimeReported

/-- A target that fails twice, recovers and fails again. -/
theorem downtime_reported_twice : ∃ calls : List HealthCall,
    (LlmHealthState.run {} calls).1.outages.length = 2 ∧
      DowntimeReported calls (LlmHealthState.run {} calls).1 (LlmHealthState.run {} calls).2 :=
  ⟨[.recordFailure 1 .providerTimeout 60, .recordFailure 3 .providerTimeout 60, .recordSuccess 7,
    .recordFailure 9 .providerAuthFailed 60], by decide +kernel,
    downtime_reported (by simp [HealthCall.now])⟩

end MarketSupport
