import Mathlib.Data.List.Basic

/-!
# Prefix codes

A code whose words tell where they end: a text that begins with a word has one reading. When the
words also differ in the order of what they code, texts of words are in the order of what they
code.
-/

namespace MarketSupport.Library

variable {α β σ : Type} {f : α → List σ} {g : β → List σ}

/-- A word of `f` can be told from whatever follows it. -/
def PrefixCode (f : α → List σ) : Prop :=
  ∀ ⦃a b : α⦄ ⦃x y : List σ⦄, f a ++ x = f b ++ y → a = b ∧ x = y

namespace PrefixCode

theorem injective (hf : PrefixCode f) : Function.Injective f :=
  fun _ _ h => (hf (congrArg (· ++ []) h)).1

/-- A code that a decoder reads back from the front of a text. -/
theorem of_decode {decode : List σ → Option (α × List σ)}
    (h : ∀ a x, decode (f a ++ x) = some (a, x)) : PrefixCode f := by
  intro a b x y heq
  have hdecode : some (a, x) = some (b, y) := by rw [← h a x, ← h b y, heq]
  simpa using hdecode

/-- Names may be coded by words for what they name. -/
theorem comp_injective (hf : PrefixCode f) {name : β → α} (hname : Function.Injective name) :
    PrefixCode (f ∘ name) :=
  fun _ _ _ _ h => (hf h).imp_left fun heq => hname heq

/-- Words in a row end at the symbol with which none of them begins. -/
theorem sequence (hf : PrefixCode f) {stop : σ} (hstop : ∀ a, ∃ s w, f a = s :: w ∧ s ≠ stop) :
    PrefixCode fun l : List α => l.flatMap f ++ [stop] := by
  intro l m x y h
  simp only [List.append_assoc, List.singleton_append] at h
  induction l generalizing m with
  | nil =>
    cases m with
    | nil => exact ⟨rfl, (List.cons.inj h).2⟩
    | cons b m =>
      obtain ⟨s, w, hw, hne⟩ := hstop b
      rw [List.flatMap_nil, List.flatMap_cons, hw] at h
      exact absurd (List.cons.inj h).1.symm hne
  | cons a l ih =>
    cases m with
    | nil =>
      obtain ⟨s, w, hw, hne⟩ := hstop a
      rw [List.flatMap_nil, List.flatMap_cons, hw] at h
      exact absurd (List.cons.inj h).1 hne
    | cons b m =>
      rw [List.flatMap_cons, List.flatMap_cons, List.append_assoc, List.append_assoc] at h
      obtain ⟨rfl, htail⟩ := hf h
      obtain ⟨rfl, hrest⟩ := ih htail
      exact ⟨rfl, hrest⟩

end PrefixCode

/-! ## Order -/

section Order

variable [LT σ] {a b x y : List σ}

/-- The words differ, and at the first place where they do the first of them has less. -/
def Precedes : List σ → List σ → Prop
  | s :: a, t :: b => s < t ∨ s = t ∧ Precedes a b
  | _, _ => False

/-- What follows the words plays no part. -/
theorem Precedes.append_lt (h : Precedes a b) : a ++ x < b ++ y := by
  induction a generalizing b with
  | nil => cases h
  | cons s a ih =>
    cases b with
    | nil => cases h
    | cons t b =>
      rcases h with hlt | ⟨rfl, hrest⟩
      · exact .rel hlt
      · exact .cons (ih hrest)

theorem precedes_of_lt (hlt : a < b) (hstart : ¬a <+: b) : Precedes a b := by
  induction hlt with
  | nil => exact absurd List.nil_prefix hstart
  | rel h => exact .inl h
  | cons _ ih =>
    exact .inr ⟨rfl, ih fun h => hstart (List.cons_prefix_cons.mpr ⟨rfl, h⟩)⟩

/-- Words in a row are in the order of what they code. -/
theorem flatMap_lt_flatMap [LT α] (hf : ∀ a b, a < b → Precedes (f a) (f b))
    (hne : ∀ a, f a ≠ []) {l m : List α} (h : l < m) : l.flatMap f < m.flatMap f := by
  induction h with
  | @nil b m =>
    obtain ⟨s, w, hw⟩ := List.exists_cons_of_ne_nil (hne b)
    rw [List.flatMap_cons, hw]
    exact .nil
  | rel h => exact (hf _ _ h).append_lt
  | cons _ ih => exact List.append_left_lt ih

end Order

/-- A word ends at the first separator after it, when it holds none. -/
theorem append_separator_inj {s : σ} {a b x y : List σ} (ha : s ∉ a) (hb : s ∉ b)
    (h : a ++ s :: x = b ++ s :: y) : a = b ∧ x = y := by
  induction a generalizing b with
  | nil =>
    cases b with
    | nil => exact ⟨rfl, (List.cons.inj h).2⟩
    | cons d b => exact absurd (List.cons.inj h).1 (List.ne_of_not_mem_cons hb)
  | cons c a ih =>
    cases b with
    | nil => exact absurd (List.cons.inj h).1.symm (List.ne_of_not_mem_cons ha)
    | cons d b =>
      obtain ⟨rfl, htail⟩ := List.cons.inj h
      obtain ⟨rfl, hrest⟩ :=
        ih (List.not_mem_of_not_mem_cons ha) (List.not_mem_of_not_mem_cons hb) htail
      exact ⟨rfl, hrest⟩

end MarketSupport.Library
