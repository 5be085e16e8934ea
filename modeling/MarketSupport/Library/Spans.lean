import Mathlib.Algebra.BigOperators.Group.List.Basic
import Mathlib.Algebra.Order.Ring.Int
import Mathlib.Data.List.Range

/-!
# Spans of time

Half-open stretches of a time that goes in steps of one, and how much of a window is covered by
spans that follow one another.
-/

namespace MarketSupport.Library

/-- The instants from `start` on, before `stop`. -/
def instants (start stop : ℤ) : List ℤ :=
  (List.range (stop - start).toNat).map fun (n : ℕ) => start + n

theorem mem_instants {start stop t : ℤ} : t ∈ instants start stop ↔ start ≤ t ∧ t < stop := by
  simp only [instants, List.mem_map, List.mem_range]
  constructor
  · rintro ⟨n, hn, rfl⟩
    omega
  · intro h
    exact ⟨(t - start).toNat, by omega, by omega⟩

/-- A half-open stretch of time. -/
structure Span where
  start : ℤ
  stop : ℤ

namespace Span

instance : Membership ℤ Span := ⟨fun s t => s.start ≤ t ∧ t < s.stop⟩

theorem mem_iff {s : Span} {t : ℤ} : t ∈ s ↔ s.start ≤ t ∧ t < s.stop := Iff.rfl

instance (s : Span) (t : ℤ) : Decidable (t ∈ s) := inferInstanceAs (Decidable (_ ∧ _))

/-- How much of a window the span takes. -/
def within (s : Span) (start stop : ℤ) : ℤ := max 0 (min s.stop stop - max s.start start)

theorem count_within (s : Span) (start stop : ℤ) :
    ((instants start stop).countP (fun t => t ∈ s) : ℤ) = s.within start stop := by
  have hsteps : ∀ n : ℕ, (((List.range n).map fun (k : ℕ) => start + (k : ℤ)).countP
      (fun t => t ∈ s) : ℤ) = s.within start (start + n) := by
    intro n
    induction n with
    | zero => simp [within]
    | succ n ih =>
      rw [List.range_succ, List.map_append, List.countP_append, Int.natCast_add, ih]
      by_cases hmem : start + (n : ℤ) ∈ s
      · simp only [List.map_cons, List.map_nil, List.countP_singleton, hmem, decide_true, if_true]
        rw [mem_iff] at hmem
        simp only [within]
        omega
      · simp only [List.map_cons, List.map_nil, List.countP_singleton, hmem, decide_false,
          Bool.false_eq_true, if_false]
        rw [mem_iff] at hmem
        simp only [within]
        omega
  rw [instants, hsteps]
  simp only [within]
  omega

/-- Every span ends before the next ones begin. -/
def Successive (spans : List Span) : Prop := spans.Pairwise fun s s' => s.stop ≤ s'.start

theorem countP_or {α : Type*} (p q : α → Prop) [DecidablePred p] [DecidablePred q]
    (h : ∀ a, p a → ¬ q a) (l : List α) :
    l.countP (fun a => p a ∨ q a) = l.countP (fun a => p a) + l.countP (fun a => q a) := by
  induction l with
  | nil => rfl
  | cons a l ih =>
    have ha := h a
    by_cases hp : p a
    · simp only [List.countP_cons, hp, ha hp, ih, true_or, decide_true, decide_false, if_true,
        Bool.false_eq_true, if_false]
      omega
    · simp only [List.countP_cons, hp, ih, false_or, decide_false, Bool.false_eq_true, if_false]
      omega

/-- What successive spans cover of a window adds up. -/
theorem count_covered {spans : List Span} (h : Successive spans) (start stop : ℤ) :
    ((instants start stop).countP (fun t => ∃ s ∈ spans, t ∈ s) : ℤ) =
      (spans.map (·.within start stop)).sum := by
  induction spans with
  | nil => simp
  | cons s spans ih =>
    obtain ⟨hfirst, hrest⟩ := List.pairwise_cons.mp h
    -- no instant of the first span is covered by a later one
    have hdisjoint : ∀ t, t ∈ s → ¬ ∃ s ∈ spans, t ∈ s := by
      rintro t hs ⟨s', hs', ht⟩
      have := hfirst s' hs'
      rw [mem_iff] at hs ht
      omega
    simp only [List.mem_cons, exists_eq_or_imp]
    rw [countP_or _ _ hdisjoint, Int.natCast_add, count_within, ih hrest, List.map_cons,
      List.sum_cons]

end Span

end MarketSupport.Library
