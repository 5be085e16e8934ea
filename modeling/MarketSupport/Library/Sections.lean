import Mathlib.Data.List.Induction

/-!
# Sections of a list

A list is read in sections: headers, each with the elements up to the next one.

## Main results

* `foldl_sections` — a fold over a list is a fold over its sections.
* `foldl_reset` — a fold that starts again at every header sees the last section only.
-/

namespace MarketSupport.Library

variable {α β σ : Type*} (header : α → Option β)

/-- The elements before the first header, and every header with the elements up to the next. -/
def sections : List α → List α × List (β × List α)
  | [] => ([], [])
  | a :: l =>
    match header a with
    | some b => ([], (b, (sections l).1) :: (sections l).2)
    | none => (a :: (sections l).1, (sections l).2)

variable {header}

theorem header_eq_none_of_mem_front {l : List α} {a : α} (h : a ∈ (sections header l).1) :
    header a = none := by
  induction l with
  | nil => exact absurd h List.not_mem_nil
  | cons b l ih =>
    cases hb : header b with
    | some => simp [sections, hb] at h
    | none =>
      simp only [sections, hb, List.mem_cons] at h
      obtain rfl | h := h
      · exact hb
      · exact ih h

theorem header_eq_none_of_mem_section {l : List α} {s : β × List α} {a : α}
    (hs : s ∈ (sections header l).2) (h : a ∈ s.2) : header a = none := by
  induction l with
  | nil => exact absurd hs List.not_mem_nil
  | cons b l ih =>
    cases hb : header b with
    | some =>
      simp only [sections, hb, List.mem_cons] at hs
      obtain rfl | hs := hs
      · exact header_eq_none_of_mem_front h
      · exact ih hs
    | none =>
      simp only [sections, hb] at hs
      exact ih hs

theorem front_eq_of_sections_eq_nil {l : List α} (h : (sections header l).2 = []) :
    (sections header l).1 = l := by
  induction l with
  | nil => rfl
  | cons a l ih =>
    cases ha : header a with
    | some => simp [sections, ha] at h
    | none =>
      simp only [sections, ha] at h ⊢
      rw [ih h]

/-- The headers are the headers of the list, in order. -/
theorem map_fst_sections (l : List α) : (sections header l).2.map (·.1) = l.filterMap header := by
  induction l with
  | nil => rfl
  | cons a l ih =>
    cases ha : header a with
    | some => simp [sections, ha, ih]
    | none => simp [sections, ha, ih]

/-- A fold whose step at a header is `enter` is a fold over the sections. -/
theorem foldl_sections {step : σ → α → σ} {enter : σ → β → σ}
    (hstep : ∀ s a b, header a = some b → step s a = enter s b) (l : List α) (s : σ) :
    l.foldl step s = (sections header l).2.foldl (fun s c => c.2.foldl step (enter s c.1))
      ((sections header l).1.foldl step s) := by
  induction l generalizing s with
  | nil => rfl
  | cons a l ih =>
    cases ha : header a with
    | some b => simp only [sections, ha, List.foldl_cons, List.foldl_nil, ih, hstep s a b ha]
    | none => simp only [sections, ha, List.foldl_cons, ih]

/-- A fold that forgets everything at a header sees the last section, or no header at all. -/
theorem foldl_reset {step : σ → α → σ} {reset : β → σ}
    (hstep : ∀ s a b, header a = some b → step s a = reset b) (l : List α) (s : σ) :
    l.foldl step s = (sections header l).2.getLast?.elim ((sections header l).1.foldl step s)
      fun c => c.2.foldl step (reset c.1) := by
  have henter (s : σ) (a : α) (b : β) (h : header a = some b) :
      step s a = (fun (_ : σ) b => reset b) s b := hstep s a b h
  rw [foldl_sections henter]
  generalize (sections header l).2 = cs
  induction cs using List.reverseRecOn with
  | nil => rfl
  | append_singleton cs c _ => simp

end MarketSupport.Library
