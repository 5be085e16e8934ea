import Mathlib.Data.List.TakeWhile
import Mathlib.Data.List.DropRight

/-!
# Trimming

A list without the elements at its two ends that satisfy a predicate.
-/

namespace MarketSupport.Library

variable {α : Type*} {p : α → Bool} {l m lead trail : List α}

/-- The list without its elements with `p` at the front, then without those at the end. -/
def trim (p : α → Bool) (l : List α) : List α := (l.dropWhile p).rdropWhile p

/-- The ends of `m` stay, so trimming removes what is around it. -/
theorem trim_append (hlead : ∀ a ∈ lead, p a = true) (htrail : ∀ a ∈ trail, p a = true)
    (hhead : ∀ a ∈ m.head?, p a = false) (hlast : ∀ a ∈ m.getLast?, p a = false) :
    trim p (lead ++ m ++ trail) = m := by
  have hright : (m ++ trail).rdropWhile p = m := by
    rw [List.rdropWhile, List.reverse_append, List.dropWhile_append_of_pos (by simpa using htrail)]
    cases hrev : m.reverse with
    | nil => simpa using (List.reverse_eq_nil_iff.mp hrev).symm
    | cons a rev =>
      have ha : a ∈ m.getLast? := by
        rw [← List.head?_reverse, hrev]
        rfl
      rw [List.dropWhile_cons_of_neg (by simp [hlast a ha]), ← hrev, List.reverse_reverse]
  rw [trim, List.append_assoc, List.dropWhile_append_of_pos hlead]
  cases m with
  | nil =>
    rw [List.nil_append, List.dropWhile_eq_nil_iff.mpr htrail]
    rfl
  | cons a m => rw [List.cons_append, List.dropWhile_cons_of_neg (by simp [hhead a rfl]),
      ← List.cons_append, hright]

theorem trim_append_left (hlead : ∀ a ∈ lead, p a = true) : trim p (lead ++ l) = trim p l := by
  rw [trim, List.dropWhile_append_of_pos hlead, trim]

theorem trim_sublist (p : α → Bool) (l : List α) : (trim p l).Sublist l :=
  (List.rdropWhile_prefix p _).sublist.trans (List.dropWhile_sublist p)

theorem exists_eq_trim (p : α → Bool) (l : List α) : ∃ lead trail, l = lead ++ trim p l ++ trail ∧
    (∀ a ∈ lead, p a = true) ∧ ∀ a ∈ trail, p a = true := by
  have hmem : ∀ l : List α, ∀ a ∈ l.takeWhile p, p a = true :=
    fun l => List.all_eq_true.mp List.all_takeWhile
  refine ⟨l.takeWhile p, (l.dropWhile p).rtakeWhile p, ?_, hmem l, fun a ha => ?_⟩
  · rw [trim, List.append_assoc, List.rdropWhile, List.rtakeWhile, ← List.reverse_append,
      List.takeWhile_append_dropWhile, List.reverse_reverse, List.takeWhile_append_dropWhile]
  · exact hmem _ a (List.mem_reverse.mp ha)

theorem getLast?_trim (p : α → Bool) (l : List α) : ∀ a ∈ (trim p l).getLast?, p a = false := by
  intro a ha
  rw [trim, List.rdropWhile, List.getLast?_reverse] at ha
  have hhead := List.head?_dropWhile_not p (l.dropWhile p).reverse
  rw [Option.mem_def.mp ha] at hhead
  exact hhead

theorem head?_trim (p : α → Bool) (l : List α) : ∀ a ∈ (trim p l).head?, p a = false := by
  intro a ha
  have hhead := List.head?_dropWhile_not p l
  obtain ⟨rest, hrest⟩ := List.rdropWhile_prefix p (l.dropWhile p)
  rw [← hrest, ← trim, List.head?_append, Option.mem_def.mp ha] at hhead
  exact hhead

@[simp] theorem trim_trim (p : α → Bool) (l : List α) : trim p (trim p l) = trim p l := by
  have htrim : trim p ([] ++ trim p l ++ []) = trim p l :=
    trim_append (by simp) (by simp) (head?_trim p l) (getLast?_trim p l)
  simpa using htrim

end MarketSupport.Library
