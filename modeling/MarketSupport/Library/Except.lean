import Mathlib.Data.List.Forall2

/-!
# Fallible traversals

When a traversal of a list by a fallible function returns, and with what.
-/

namespace MarketSupport.Library

universe u

variable {α : Type*} {β γ : Type u} {ε : Type*}

theorem ok_bind (b : β) (f : β → Except ε γ) : (Except.ok b >>= f) = f b := rfl

theorem bind_eq_ok_iff {x : Except ε β} {f : β → Except ε γ} {b : γ} :
    (x >>= f) = .ok b ↔ ∃ a, x = .ok a ∧ f a = .ok b := by
  cases x with
  | error e => exact ⟨nofun, nofun⟩
  | ok a => exact ⟨fun h => ⟨a, rfl, h⟩, by rintro ⟨_, ⟨⟩, h⟩; exact h⟩

theorem exists_bind_pure_eq_ok_iff {x : Except ε β} {f : β → γ} :
    (∃ c, (x >>= fun b => pure (f b)) = .ok c) ↔ ∃ b, x = .ok b := by
  cases x with
  | error e => exact ⟨nofun, nofun⟩
  | ok b => exact ⟨fun _ => ⟨b, rfl⟩, fun _ => ⟨f b, rfl⟩⟩

theorem exists_of_isOk {x : Except ε α} (h : x.isOk = true) : ∃ a, x = .ok a := by
  cases x with
  | error e => cases h
  | ok a => exact ⟨a, rfl⟩

/-- A traversal returns the results of its elements. -/
theorem mapM_eq_ok_iff {f : α → Except ε β} {l : List α} {r : List β} :
    l.mapM f = .ok r ↔ List.Forall₂ (fun a b => f a = .ok b) l r := by
  induction l generalizing r with
  | nil =>
    rw [List.mapM_nil, List.forall₂_nil_left_iff]
    exact ⟨fun h => (Except.ok.inj h).symm, fun h => h ▸ rfl⟩
  | cons a l ih =>
    rw [List.mapM_cons, List.forall₂_cons_left_iff]
    constructor
    · intro h
      obtain ⟨b, ha, h⟩ := bind_eq_ok_iff.mp h
      obtain ⟨bs, hl, h⟩ := bind_eq_ok_iff.mp h
      exact ⟨b, bs, ha, ih.mp hl, (Except.ok.inj h).symm⟩
    · rintro ⟨b, bs, ha, hl, rfl⟩
      rw [ha, ih.mpr hl]
      rfl

/-- A traversal returns exactly when the function does, on every element. -/
theorem exists_mapM_eq_ok_iff {f : α → Except ε β} {l : List α} :
    (∃ r, l.mapM f = .ok r) ↔ ∀ a ∈ l, ∃ b, f a = .ok b := by
  simp only [mapM_eq_ok_iff]
  induction l with
  | nil => simp
  | cons a l ih =>
    rw [List.forall_mem_cons, ← ih]
    constructor
    · rintro ⟨r, hall⟩
      cases hall with
      | cons ha hl => exact ⟨⟨_, ha⟩, _, hl⟩
    · rintro ⟨⟨b, ha⟩, bs, hl⟩
      exact ⟨b :: bs, .cons ha hl⟩

/-- Two traversals in a row return exactly when the functions do in a row, on every element. -/
theorem exists_mapM_mapM_eq_ok_iff {f : α → Except ε β} {g : β → Except ε γ} {l : List α} :
    (∃ r s, l.mapM f = .ok r ∧ r.mapM g = .ok s) ↔ ∀ a ∈ l, ∃ b c, f a = .ok b ∧ g b = .ok c := by
  simp only [mapM_eq_ok_iff]
  induction l with
  | nil => simp
  | cons a l ih =>
    rw [List.forall_mem_cons, ← ih]
    constructor
    · rintro ⟨r, s, hf, hg⟩
      cases hf with
      | cons ha hl =>
        cases hg with
        | cons hb hr => exact ⟨⟨_, _, ha, hb⟩, _, _, hl, hr⟩
    · rintro ⟨⟨b, c, ha, hb⟩, r, s, hl, hr⟩
      exact ⟨b :: r, c :: s, .cons ha hl, .cons hb hr⟩

/-- What a traversal returns comes from an element. -/
theorem exists_of_mem_mapM {f : α → Except ε β} {l : List α} {r : List β} (h : l.mapM f = .ok r)
    {b : β} (hb : b ∈ r) : ∃ a ∈ l, f a = .ok b := by
  have hall := mapM_eq_ok_iff.mp h
  clear h
  induction hall with
  | nil => cases hb
  | cons ha _ ih =>
    obtain rfl | hb := List.mem_cons.mp hb
    · exact ⟨_, List.mem_cons_self, ha⟩
    · obtain ⟨a, hmem, ha⟩ := ih hb
      exact ⟨a, List.mem_cons_of_mem _ hmem, ha⟩

/-- What every result shows of its element, all results show of the list. -/
theorem map_of_mapM {δ : Type*} {f : α → Except ε β} {l : List α} {r : List β} {g : β → δ}
    {k : α → δ} (h : l.mapM f = .ok r) (hf : ∀ a b, f a = .ok b → g b = k a) :
    r.map g = l.map k := by
  have hall := mapM_eq_ok_iff.mp h
  clear h
  induction hall with
  | nil => rfl
  | cons ha _ ih => rw [List.map_cons, List.map_cons, hf _ _ ha, ih]

/-- What is made of the pairs of two related lists, when one of the lists determines it. -/
theorem flatMap_zip {δ : Type*} {R : α → β → Prop} {l : List α} {r : List β}
    {f : α × β → List δ} {g : α → List δ} (h : List.Forall₂ R l r)
    (hf : ∀ a b, R a b → f (a, b) = g a) : (l.zip r).flatMap f = l.flatMap g := by
  induction h with
  | nil => rfl
  | cons hab _ ih => rw [List.zip_cons_cons, List.flatMap_cons, List.flatMap_cons, hf _ _ hab, ih]

theorem exists_mem_zip {R : α → β → Prop} {l : List α} {r : List β} (h : List.Forall₂ R l r)
    {a : α} (ha : a ∈ l) : ∃ b, (a, b) ∈ l.zip r ∧ R a b := by
  induction h with
  | nil => cases ha
  | cons hab _ ih =>
    obtain rfl | ha := List.mem_cons.mp ha
    · exact ⟨_, List.mem_cons_self, hab⟩
    · obtain ⟨b, hmem, hb⟩ := ih ha
      exact ⟨b, List.mem_cons_of_mem _ hmem, hb⟩

/-- What is kept of a list comes, in order, from the elements that give something. -/
theorem forall₂_filterMap {f : α → Option β} (l : List α) :
    List.Forall₂ (fun a b => f a = some b) (l.filter fun a => (f a).isSome) (l.filterMap f) := by
  induction l with
  | nil => exact .nil
  | cons a l ih =>
    cases ha : f a with
    | none => simpa [ha] using ih
    | some b => simpa [ha] using ih

/-- A loop whose body never raises. -/
theorem foldlM_eq_ok {σ : Type*} {f : σ → α → Except ε σ} {g : σ → α → σ} {l : List α}
    (h : ∀ s, ∀ a ∈ l, f s a = .ok (g s a)) (s : σ) : l.foldlM f s = .ok (l.foldl g s) := by
  induction l generalizing s with
  | nil => rfl
  | cons a l ih =>
    rw [List.foldlM_cons, h s a List.mem_cons_self, ok_bind, List.foldl_cons]
    exact ih (fun s a ha => h s a (List.mem_cons_of_mem _ ha)) (g s a)

end MarketSupport.Library
