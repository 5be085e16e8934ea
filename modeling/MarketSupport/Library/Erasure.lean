import Mathlib.Data.List.Chain
import Mathlib.Data.List.TakeWhile

/-!
# Erasure

A list without some of its elements of one kind, and two lists that have such elements in the
same gaps.
-/

namespace MarketSupport.Library

variable {α : Type*}

/-- The second list is the first without some of the elements with `p`. -/
inductive Erases (p : α → Prop) : List α → List α → Prop
  | nil : Erases p [] []
  | erase {a l r} (ha : p a) (h : Erases p l r) : Erases p (a :: l) r
  | keep {a l r} (h : Erases p l r) : Erases p (a :: l) (a :: r)

namespace Erases

variable {p : α → Prop} {l r k : List α}

theorem trans (h : Erases p l r) (h' : Erases p r k) : Erases p l k := by
  induction h generalizing k with
  | nil => exact h'
  | erase ha _ ih => exact .erase ha (ih h')
  | keep h ih => cases h' with
    | erase ha h' => exact .erase ha (ih h')
    | keep h' => exact .keep (ih h')

theorem sublist (h : Erases p l r) : r.Sublist l := by
  induction h with
  | nil => exact .slnil
  | erase _ _ ih => exact ih.cons _
  | keep _ ih => exact ih.cons_cons _

theorem mem (h : Erases p l r) {a : α} (ha : a ∈ l) (hp : ¬ p a) : a ∈ r := by
  induction h with
  | nil => exact ha
  | erase hb _ ih =>
    obtain rfl | ha := List.mem_cons.mp ha
    · exact absurd hb hp
    · exact ih ha
  | keep _ ih =>
    obtain rfl | ha := List.mem_cons.mp ha
    · exact List.mem_cons_self
    · exact List.mem_cons_of_mem _ (ih ha)

/-- What has none of the elements stays. -/
theorem of_append {m : List α} (hm : ∀ a ∈ m, ¬ p a) (h : Erases p (m ++ l) r) :
    ∃ r', r = m ++ r' ∧ Erases p l r' := by
  induction m generalizing r with
  | nil => exact ⟨r, rfl, h⟩
  | cons a m ih =>
    cases h with
    | erase ha _ => exact absurd ha (hm a List.mem_cons_self)
    | keep h =>
      obtain ⟨r', rfl, h'⟩ := ih (fun b hb => hm b (List.mem_cons_of_mem _ hb)) h
      exact ⟨r', rfl, h'⟩

/-- Successive elements that stay were successive. -/
theorem append_of_isChain {R : α → α → Prop} (index : α → ℕ)
    (hR : ∀ a b, R a b → index b = index a + 1) {a : α} {m : List α} (hl : (a :: l).IsChain R)
    (hm : (a :: m).IsChain R) (h : Erases p l (m ++ r)) : ∃ l', l = m ++ l' ∧ Erases p l' r := by
  induction m generalizing a l with
  | nil => exact ⟨l, rfl, h⟩
  | cons b m ih =>
    have hb : index b = index a + 1 := hR a b (List.isChain_cons_cons.mp hm).1
    cases h with
    | @erase d l _ _ h =>
      -- all that follows `d` has a larger index
      have hd : index d = index a + 1 := hR a d (List.isChain_cons_cons.mp hl).1
      have hlt : (d :: l).Pairwise (fun x y => index x < index y) := by
        have : Trans (fun x y : α => index x < index y) (fun x y => index x < index y)
          (fun x y => index x < index y) := ⟨fun hxy hyz => lt_trans hxy hyz⟩
        exact ((List.isChain_cons_cons.mp hl).2.imp fun x y hxy => by
          rw [hR x y hxy]; exact Nat.lt_succ_self _).pairwise
      have hmem : b ∈ l := h.sublist.subset List.mem_cons_self
      have := (List.pairwise_cons.mp hlt).1 b hmem
      omega
    | keep h =>
      obtain ⟨l', rfl, h'⟩ :=
        ih (List.isChain_cons_cons.mp hl).2 (List.isChain_cons_cons.mp hm).2 h
      exact ⟨l', rfl, h'⟩

end Erases

/-- The lists differ in what their gaps of elements with `p` are. -/
inductive SameGaps (p : α → Bool) : List α → List α → Prop
  | nil : SameGaps p [] []
  | keep {a l r} (ha : p a = false) (h : SameGaps p l r) : SameGaps p (a :: l) (a :: r)
  | gap {g g' l r} (hg : ∀ a ∈ g, p a = true) (hg' : ∀ a ∈ g', p a = true) (hne : g ≠ [])
      (hne' : g' ≠ []) (h : SameGaps p l r) : SameGaps p (g ++ l) (g' ++ r)

namespace SameGaps

variable {p : α → Bool} {l r : List α}

/-- Up to the first gap the lists agree. -/
theorem of_prefix (h : SameGaps p l r) {m : List α} (hm : ∀ a ∈ m, p a = false) (hl : m <+: l) :
    ∃ l' r', l = m ++ l' ∧ r = m ++ r' ∧ SameGaps p l' r' := by
  induction m generalizing l r with
  | nil => exact ⟨l, r, rfl, rfl, h⟩
  | cons a m ih =>
    have ha := hm a List.mem_cons_self
    obtain ⟨t, rfl⟩ := hl
    have hm' : ∀ b ∈ m, p b = false := fun b hb => hm b (List.mem_cons_of_mem _ hb)
    generalize hcons : a :: m ++ t = l at h
    cases h with
    | nil => cases hcons
    | keep hb h =>
      obtain ⟨rfl, rfl⟩ := List.cons.inj hcons
      obtain ⟨l', r', hl', rfl, h'⟩ := ih h hm' (List.prefix_append m t)
      exact ⟨l', r', congrArg (a :: ·) hl', rfl, h'⟩
    | @gap g _ _ _ hg _ hne _ _ =>
      obtain ⟨b, g, rfl⟩ := List.exists_cons_of_ne_nil hne
      obtain ⟨rfl, -⟩ := List.cons.inj hcons
      simp [hg a List.mem_cons_self] at ha

theorem symm (h : SameGaps p l r) : SameGaps p r l := by
  induction h with
  | nil => exact .nil
  | keep ha _ ih => exact .keep ha ih
  | gap hg hg' hne hne' _ ih => exact .gap hg' hg hne' hne ih

/-- A gap in front, that both lists have or none. -/
theorem append {g g' : List α} (hg : ∀ a ∈ g, p a = true) (hg' : ∀ a ∈ g', p a = true)
    (hiff : g = [] ↔ g' = []) (h : SameGaps p l r) : SameGaps p (g ++ l) (g' ++ r) := by
  by_cases hnil : g = []
  · rw [hnil, hiff.mp hnil]
    exact h
  · exact .gap hg hg' hnil (fun hnil' => hnil (hiff.mpr hnil')) h

end SameGaps

end MarketSupport.Library
