import Mathlib.Algebra.Order.Field.Rat
import MarketSupport.Library.Spans
import MarketSupport.Prompts.ProviderErrors

/-!
# Outages

The health of a model target, kept up to date by its successes and failures, and the time that the
daily report counts as unavailable. A `datetime` counts microseconds.
-/

namespace MarketSupport

open Library

abbrev Datetime := ℤ

/-- `timedelta.total_seconds`. -/
def totalSeconds (microseconds : ℤ) : ℚ := microseconds / 1000000

inductive HealthStatus where
  | unknown
  | healthy
  | unhealthy
  deriving DecidableEq, Repr

structure OutageWindow where
  startedAt : Datetime
  endedAt : Option Datetime := none
  reason : Option ProviderFailureCodeV1 := none
  deriving DecidableEq, Repr

structure LlmHealthState where
  status : HealthStatus := .unknown
  healthySince : Option Datetime := none
  unhealthySince : Option Datetime := none
  lastSuccessAt : Option Datetime := none
  lastFailureAt : Option Datetime := none
  lastProbeAt : Option Datetime := none
  lastWarningAt : Option Datetime := none
  lastError : Option ProviderFailureCodeV1 := none
  outages : List OutageWindow := []
  deriving DecidableEq, Repr

namespace LlmHealthState

/-- `open_outage`. -/
def openOutage (state : LlmHealthState) : Option OutageWindow :=
  if state.status = .unhealthy then state.outages.getLast? else none

/-- `record_success`: the outage that it returns is the last one of the list, closed. -/
def recordSuccess (state : LlmHealthState) (now : Datetime) :
    LlmHealthState × Option OutageWindow :=
  let previousOutage := state.openOutage
  let recovered := (previousOutage.filter (·.endedAt.isNone)).map fun outage =>
    { outage with endedAt := some now }
  ({ state with
      status := .healthy
      lastSuccessAt := some now
      lastError := none
      unhealthySince := none
      healthySince := if state.healthySince.isNone || previousOutage.isSome then some now
        else state.healthySince
      outages := match recovered with
        | some outage => state.outages.dropLast ++ [outage]
        | none => state.outages }, recovered)

/-- `warning_due`. -/
def warningDue (state : LlmHealthState) (now : Datetime) (cooldownSeconds : ℚ) : Bool :=
  match state.lastWarningAt with
  | none => true
  | some lastWarningAt => cooldownSeconds ≤ totalSeconds (now - lastWarningAt)

/-- `record_failure`; it returns whether to warn. -/
def recordFailure (state : LlmHealthState) (now : Datetime) (reason : ProviderFailureCodeV1)
    (warningCooldownSeconds : ℚ) : LlmHealthState × Bool :=
  let firstFailure : Bool := state.status ≠ .unhealthy
  let warn := firstFailure || state.warningDue now warningCooldownSeconds
  ({ state with
      status := .unhealthy
      lastFailureAt := some now
      lastError := some reason
      healthySince := none
      unhealthySince := if firstFailure then some now else state.unhealthySince
      outages := if firstFailure then state.outages ++ [{ startedAt := now, reason := some reason }]
        else state.outages
      lastWarningAt := if warn then some now else state.lastWarningAt }, warn)

end LlmHealthState

/-! ## Reports -/

structure OutageOverlap where
  startedAt : Datetime
  endedAt : Datetime
  seconds : ℚ
  openEnded : Bool
  deriving DecidableEq

/-- `overlap_outage`. -/
def overlapOutage (outage : OutageWindow) (start stop now : Datetime) : Option OutageOverlap :=
  let outageEnd := outage.endedAt.getD now
  let overlapStart := max outage.startedAt start
  let overlapEnd := min outageEnd stop
  let seconds := totalSeconds (overlapEnd - overlapStart)
  if seconds ≤ 0 then none else some ⟨overlapStart, overlapEnd, seconds, outage.endedAt.isNone⟩

/-- `outage_seconds_between`. -/
def outageSecondsBetween (state : LlmHealthState) (start stop now : Datetime) : ℚ :=
  state.outages.foldl (fun total outage =>
    match overlapOutage outage start stop now with
    | some overlap => total + overlap.seconds
    | none => total) 0

/-! ## Calls -/

inductive HealthCall where
  | recordSuccess (now : Datetime)
  | recordFailure (now : Datetime) (reason : ProviderFailureCodeV1) (warningCooldownSeconds : ℚ)
  deriving DecidableEq

def HealthCall.now : HealthCall → Datetime
  | .recordSuccess now | .recordFailure now _ _ => now

/-- The state after a call, and the outage that the call returns. -/
def LlmHealthState.call (state : LlmHealthState) : HealthCall →
    LlmHealthState × Option OutageWindow
  | .recordSuccess now => state.recordSuccess now
  | .recordFailure now reason cooldown => ((state.recordFailure now reason cooldown).1, none)

/-- The state after all calls, and the outages that they return. -/
def LlmHealthState.run (state : LlmHealthState) (calls : List HealthCall) :
    LlmHealthState × List OutageWindow :=
  calls.foldl (fun (state, recovered) call =>
    ((state.call call).1, recovered ++ (state.call call).2.toList)) (state, [])

end MarketSupport
