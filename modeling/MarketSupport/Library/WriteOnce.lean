import Mathlib.Data.List.Infix

/-!
# Logs whose slots are filled once

A log of slots grows at its end. A slot that is still open may be replaced; a closed one is
kept forever. `Extends closed xs ys` says that `ys` came from `xs` in this way.
-/

namespace MarketSupport.Library

variable {α : Type*}

/-- The later log has every slot of the earlier one, and the closed ones unchanged. -/
def Extends (closed : α → Prop) (xs ys : List α) : Prop :=
  ∀ (i : ℕ) (x : α), xs[i]? = some x → ∃ y, ys[i]? = some y ∧ (closed x → y = x)

namespace Extends

variable {closed : α → Prop} {xs ys zs : List α}

theorem refl (closed : α → Prop) (xs : List α) : Extends closed xs xs :=
  fun _ x h => ⟨x, h, fun _ => rfl⟩

theorem trans (h : Extends closed xs ys) (h' : Extends closed ys zs) : Extends closed xs zs := by
  intro i x hx
  obtain ⟨y, hy, hxy⟩ := h i x hx
  obtain ⟨z, hz, hyz⟩ := h' i y hy
  refine ⟨z, hz, fun hclosed => ?_⟩
  have hyx := hxy hclosed
  rw [hyz (hyx ▸ hclosed), hyx]

theorem append (closed : α → Prop) (xs ys : List α) : Extends closed xs (xs ++ ys) := by
  intro i x hx
  exact ⟨x, by grind, fun _ => rfl⟩

/-- Filling an open slot. -/
theorem set {i : ℕ} {x : α} (hx : xs[i]? = some x) (hopen : ¬closed x) (y : α) :
    Extends closed xs (xs.set i y) := by
  intro j z hz
  by_cases hij : i = j
  · subst hij
    obtain rfl : x = z := by grind
    exact ⟨y, by grind, fun h => absurd h hopen⟩
  · exact ⟨z, by grind, fun _ => rfl⟩

end Extends

end MarketSupport.Library
