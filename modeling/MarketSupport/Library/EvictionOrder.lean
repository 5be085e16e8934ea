import Mathlib.Data.List.MinMax
import Mathlib.Data.List.Sort

/-!
# Eviction in order

A store that publishes its entries in the order in which they leave evicts in order when every
entry that leaves is the head of the order of the store it leaves. The head of a sorted list is
the first least element, so a minimum finds it if it breaks ties as the sort does.

## Main results

* `head?_insertionSort` — the head of a sorted list is its first least element.
* `argmin_eq_of_refines` — a key that breaks the ties of another in the order of the list has
  the same first least element.
-/

namespace MarketSupport.Library

variable {α β : Type*} [LinearOrder β]

theorem head?_insertionSort (f : α → β) (l : List α) :
    (l.insertionSort fun a b => f a ≤ f b).head? = l.argmin f := by
  induction l with
  | nil => rfl
  | cons a l ih =>
    rw [List.insertionSort_cons, List.argmin_cons, ← ih]
    cases l.insertionSort fun a b => f a ≤ f b with
    | nil => rfl
    | cons b sorted =>
      rw [List.orderedInsert_cons]
      by_cases h : f a ≤ f b
      · simp [h, not_lt.mpr h]
      · simp [h, not_le.mp h]

theorem argmin_map {ι : Type*} {f : α → β} {g : ι → α} {l : List ι} :
    (l.map g).argmin f = (l.argmin (f ∘ g)).map g := by
  induction l with
  | nil => rfl
  | cons a l ih =>
    rw [List.map_cons, List.argmin_cons, List.argmin_cons, ih]
    cases l.argmin (f ∘ g) with
    | none => rfl
    | some b =>
      by_cases h : f (g b) < f (g a) <;> simp [h]

/-- A key that breaks the ties of another in the order of the list has the same first least
element. -/
theorem argmin_eq_of_refines {γ : Type*} [LinearOrder γ] {f : α → β} {g : α → γ} {l : List α}
    (hlt : ∀ a ∈ l, ∀ b ∈ l, f a < f b → g a < g b)
    (htie : l.Pairwise fun a b => f a = f b → g a ≤ g b) : l.argmin f = l.argmin g := by
  induction l with
  | nil => rfl
  | cons a l ih =>
    rw [List.pairwise_cons] at htie
    have hrest := ih (fun b hb c hc => hlt b (List.mem_cons_of_mem _ hb) c
      (List.mem_cons_of_mem _ hc)) htie.2
    rw [List.argmin_cons, List.argmin_cons, ← hrest]
    cases hmin : l.argmin f with
    | none => rfl
    | some b =>
      have hb : b ∈ l := List.argmin_mem hmin
      have hiff : f b < f a ↔ g b < g a := by
        refine ⟨hlt b (List.mem_cons_of_mem _ hb) a List.mem_cons_self, fun h => ?_⟩
        by_contra hnot
        rcases (not_lt.mp hnot).lt_or_eq with hless | heq
        · exact lt_asymm h (hlt a List.mem_cons_self b (List.mem_cons_of_mem _ hb) hless)
        · exact not_lt.mpr (htie.1 b hb heq) h
      simp [hiff]

/-- Entries leave a store one by one, each at the head of the order of the store it leaves. -/
inductive Evicts {σ κ : Type*} (order : σ → List κ) (remove : κ → σ → σ) : σ → σ → Prop
  | refl (s : σ) : Evicts order remove s s
  | head {s s' : σ} {k : κ} (hhead : (order s).head? = some k)
      (hrest : Evicts order remove (remove k s) s') : Evicts order remove s s'

end MarketSupport.Library
