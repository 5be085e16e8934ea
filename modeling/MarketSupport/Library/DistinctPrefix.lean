import Mathlib.Data.List.Nodup

/-!
# Loops that collect new elements up to a limit

`appendNew` appends to an output the elements of a list that are not there yet, and stops when
the output has reached a limit. It tests the limit after it has appended.

## Main results

* `appendNew_fst` — what is appended is a prefix of the new elements, of at least one of them.
* `appendNew_nil_fst`, `appendNew_again_fst` — from an empty output, one loop after another
  collects the first elements of the concatenation.
-/

namespace MarketSupport.Library

variable {α : Type*} [DecidableEq α]

/-- Append the new elements until there are `limit`; also tells whether it stopped there. -/
def appendNew (limit : ℕ) (output : List α) : List α → List α × Bool
  | [] => (output, false)
  | a :: l =>
    if a ∈ output then appendNew limit output l
    else if limit ≤ output.length + 1 then (output ++ [a], true)
    else appendNew limit (output ++ [a]) l

/-- The elements that an output does not have, without repetitions. -/
def newElements (output l : List α) : List α := (l.filter (· ∉ output)).eraseDups

variable {limit : ℕ} {output l m : List α} {a : α}

theorem newElements_cons_of_mem (h : a ∈ output) :
    newElements output (a :: l) = newElements output l := by
  rw [newElements, List.filter_cons_of_neg (by simpa using h), newElements]

theorem newElements_cons (h : a ∉ output) :
    newElements output (a :: l) = a :: newElements (output ++ [a]) l := by
  rw [newElements, List.filter_cons_of_pos (by simpa using h), List.eraseDups_cons,
    List.filter_filter, newElements]
  congr 3
  funext b
  by_cases hb : b = a <;> simp [hb]

theorem mem_newElements : a ∈ newElements output l ↔ a ∈ l ∧ a ∉ output := by
  simp [newElements]

theorem nodup_eraseDups : ∀ l : List α, l.eraseDups.Nodup
  | [] => List.nodup_nil
  | a :: l => by
    have : (l.filter fun b => !b == a).length < l.length + 1 :=
      Nat.lt_succ_of_le (List.length_filter_le _ _)
    rw [List.eraseDups_cons]
    exact List.nodup_cons.mpr ⟨by simp, nodup_eraseDups _⟩
termination_by l => l.length

theorem eraseDups_sublist : ∀ l : List α, l.eraseDups.Sublist l
  | [] => .slnil
  | a :: l => by
    have : (l.filter fun b => !b == a).length < l.length + 1 :=
      Nat.lt_succ_of_le (List.length_filter_le _ _)
    rw [List.eraseDups_cons]
    exact ((eraseDups_sublist _).trans List.filter_sublist).cons_cons a
termination_by l => l.length

theorem eraseDups_of_nodup (h : l.Nodup) : l.eraseDups = l := by
  induction l with
  | nil => rfl
  | cons a l ih =>
    obtain ⟨hnew, hl⟩ := List.nodup_cons.mp h
    have hfilter : (l.filter fun b => !b == a) = l :=
      List.filter_eq_self.mpr fun b hb => by
        have hne : b ≠ a := fun hab => hnew (hab ▸ hb)
        simp [hne]
    rw [List.eraseDups_cons, hfilter, ih hl]

theorem nodup_append_newElements (h : output.Nodup) : (output ++ newElements output l).Nodup :=
  h.append (nodup_eraseDups _) fun _ hold hnew => (mem_newElements.mp hnew).2 hold

/-- The loop appends at least one new element, when there is one. -/
theorem appendNew_fst :
    (appendNew limit output l).1 =
      output ++ (newElements output l).take (max (limit - output.length) 1) := by
  induction l generalizing output with
  | nil => simp [appendNew, newElements]
  | cons a l ih =>
    rw [appendNew]
    split_ifs with hmem hlimit
    · rw [ih, newElements_cons_of_mem hmem]
    · have hone : max (limit - output.length) 1 = 1 := by omega
      rw [newElements_cons hmem, hone, List.take_one, List.head?_cons, Option.toList_some]
    · have hmore : max (limit - output.length) 1 =
          max (limit - (output ++ [a]).length) 1 + 1 := by
        rw [List.length_append, List.length_singleton]
        omega
      rw [ih, newElements_cons hmem, hmore, List.take_succ_cons, List.append_assoc,
        List.singleton_append]

/-- The loop stops early when the new elements fill the output. -/
theorem appendNew_snd :
    (appendNew limit output l).2 =
      decide (max (limit - output.length) 1 ≤ (newElements output l).length) := by
  induction l generalizing output with
  | nil => simp [appendNew, newElements]
  | cons a l ih =>
    rw [appendNew]
    split_ifs with hmem hlimit
    · rw [ih, newElements_cons_of_mem hmem]
    · have hone : max (limit - output.length) 1 = 1 := by omega
      simp [newElements_cons hmem, hone]
    · rw [ih, newElements_cons hmem, List.length_cons, List.length_append, List.length_singleton]
      exact decide_eq_decide.mpr (by omega)

theorem nodup_appendNew (h : output.Nodup) : (appendNew limit output l).1.Nodup := by
  rw [appendNew_fst]
  exact (nodup_append_newElements h).sublist
    ((List.take_sublist _ _).append_left _)

/-- An output within the limit stays within it when it has room, or when nothing is new. -/
theorem length_appendNew_le_iff (h : output.length ≤ limit) :
    (appendNew limit output l).1.length ≤ limit ↔
      output.length < limit ∨ ∀ a ∈ l, a ∈ output := by
  rw [appendNew_fst, List.length_append, List.length_take]
  by_cases hroom : output.length < limit
  · exact iff_of_true (by omega) (.inl hroom)
  · rw [or_iff_right hroom]
    constructor
    · intro hle a ha
      by_contra hnew
      have hpos := List.length_pos_of_mem (mem_newElements.mpr ⟨ha, hnew⟩)
      omega
    · intro hall
      have hnil : newElements output l = [] := List.eq_nil_iff_forall_not_mem.mpr fun a ha =>
        (mem_newElements.mp ha).2 (hall a (mem_newElements.mp ha).1)
      rw [hnil, List.length_nil, Nat.min_zero]
      exact h

theorem newElements_nil : newElements [] l = l.eraseDups := by
  rw [newElements, List.filter_eq_self.mpr (by simp)]

/-- From an empty output, the loop collects the first distinct elements. -/
theorem appendNew_nil_fst (hlimit : 1 ≤ limit) :
    (appendNew limit [] l).1 = l.eraseDups.take limit := by
  rw [appendNew_fst, newElements_nil, List.nil_append, List.length_nil, Nat.sub_zero,
    Nat.max_eq_left hlimit]

theorem eraseDups_append_eq (l m : List α) :
    (l ++ m).eraseDups = l.eraseDups ++ newElements l.eraseDups m := by
  rw [List.eraseDups_append, newElements]
  congr 2
  refine List.filter_congr fun b _ => ?_
  simp

/-- Two loops in a row, the second only when the first has not filled the output, collect the
first distinct elements of the two lists. -/
theorem appendNew_again_fst (hlimit : 1 ≤ limit) :
    (if (appendNew limit [] l).2 then (appendNew limit [] l).1
      else (appendNew limit (appendNew limit [] l).1 m).1) = (l ++ m).eraseDups.take limit := by
  have hstop : (appendNew limit [] l).2 = decide (limit ≤ l.eraseDups.length) := by
    rw [appendNew_snd, newElements_nil, List.length_nil, Nat.sub_zero, Nat.max_eq_left hlimit]
  rw [appendNew_nil_fst hlimit, hstop, eraseDups_append_eq, List.take_append]
  by_cases hfull : limit ≤ l.eraseDups.length
  · simp [hfull]
  · have hroom : max (limit - l.eraseDups.length) 1 = limit - l.eraseDups.length := by omega
    have htake : l.eraseDups.take limit = l.eraseDups :=
      List.take_of_length_le (Nat.le_of_lt (Nat.lt_of_not_le hfull))
    simp [hfull, htake, appendNew_fst, hroom]

end MarketSupport.Library
