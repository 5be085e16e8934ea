import Mathlib.Data.Set.Basic

/-!
# Version cells

A cell holds a counter within an epoch. It may be dropped and created again, always
under an epoch that was never used. Comparing both the epoch and the counter then rules
out the ABA problem: a pair that was passed once never comes back.

## Main results

* `VersionCell.Step.reached`, `VersionCell.Step.passed` — a version that was reached, or
  passed, stays so under every step.
-/

namespace MarketSupport.Library.VersionCell

variable {ε : Type*}

/-- What one transition can do to the cell; `used` are the epochs drawn before it. -/
inductive Step (used : Set ε) : Option (ε × ℕ) → Option (ε × ℕ) → Prop where
  | keep (c : Option (ε × ℕ)) : Step used c c
  | drop (c : Option (ε × ℕ)) : Step used c none
  | create (epoch : ε) (fresh : epoch ∉ used) : Step used none (some (epoch, 0))
  | bump (epoch : ε) (n : ℕ) : Step used (some (epoch, n)) (some (epoch, n + 1))

/-- While the cell is in `epoch`, its counter is at least `n`. -/
def Reached (epoch : ε) (n : ℕ) (c : Option (ε × ℕ)) : Prop := ∀ m, c = some (epoch, m) → n ≤ m

/-- The cell no longer holds `(epoch, n)`, nor an earlier counter of the same epoch. -/
def Passed (epoch : ε) (n : ℕ) (c : Option (ε × ℕ)) : Prop := Reached epoch (n + 1) c

theorem Reached.of_eq {epoch : ε} {n : ℕ} {c : Option (ε × ℕ)} (h : c = some (epoch, n)) :
    Reached epoch n c := by
  intro m hm
  simp_all

theorem Reached.mono {epoch : ε} {n m : ℕ} {c : Option (ε × ℕ)} (h : Reached epoch n c)
    (hm : m ≤ n) : Reached epoch m c := fun k hk => hm.trans (h k hk)

theorem Passed.ne {epoch : ε} {n : ℕ} {c : Option (ε × ℕ)} (h : Passed epoch n c) :
    c ≠ some (epoch, n) := fun hc => Nat.not_succ_le_self n (h n hc)

/-- A version of a used epoch that was reached stays reached. -/
theorem Step.reached {used : Set ε} {c d : Option (ε × ℕ)} (step : Step used c d)
    {epoch : ε} {n : ℕ} (hused : epoch ∈ used) (h : Reached epoch n c) : Reached epoch n d := by
  intro m hm
  cases step with
  | keep => exact h m hm
  | drop => cases hm
  | create e fresh =>
    simp only [Option.some.injEq, Prod.mk.injEq] at hm
    exact absurd (hm.1 ▸ hused) fresh
  | bump e k =>
    simp only [Option.some.injEq, Prod.mk.injEq] at hm
    have := h k (by rw [hm.1])
    omega

theorem Step.passed {used : Set ε} {c d : Option (ε × ℕ)} (step : Step used c d) {epoch : ε} {n : ℕ}
    (hused : epoch ∈ used) (h : Passed epoch n c) : Passed epoch n d := step.reached hused h

/-- The epoch of a cell was there before, or is new. -/
theorem Step.source {used : Set ε} {c d : Option (ε × ℕ)} (step : Step used c d) {epoch : ε} {n : ℕ}
    (h : d = some (epoch, n)) : (∃ m, c = some (epoch, m)) ∨ epoch ∉ used := by
  cases step with
  | keep => exact .inl ⟨n, h⟩
  | drop => cases h
  | create e fresh =>
    cases h
    exact .inr fresh
  | bump e k =>
    cases h
    exact .inl ⟨k, rfl⟩

/-- A bump passes every version that was reached. -/
theorem Reached.bump {epoch e : ε} {n k : ℕ} (h : Reached epoch n (some (e, k))) :
    Passed epoch n (some (e, k + 1)) := by
  intro m hm
  simp only [Option.some.injEq, Prod.mk.injEq] at hm
  have := h k (by rw [hm.1])
  omega

end MarketSupport.Library.VersionCell
