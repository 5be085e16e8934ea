import Mathlib.Data.List.Nodup

/-!
# One element for every key

The first element of every key, and the values of a dictionary, where the last element of a key
takes the place of the first.

## Main results

* `nodup_firstByKey` — the elements that are kept have distinct keys.
* `firstByKey_eq_eraseDups` — with an injective key, exactly the repetitions go.
* `find?_dictValues` — a search finds the same in the values as in the list, when the keys tell
  its elements apart.
* `find?_perm` — with distinct keys, a search for a key does not depend on the order.
-/

namespace MarketSupport.Library

variable {α κ : Type*} [DecidableEq κ] (key : α → κ)

/-- Add an element unless its key is there. -/
def addFirst (output : List α) (a : α) : List α :=
  if key a ∈ output.map key then output else output ++ [a]

/-- The first element of every key, in order. -/
def firstByKey (l : List α) : List α := l.foldl (addFirst key) []

variable {key} {output l : List α} {a : α}

theorem nodup_addFirst (h : (output.map key).Nodup) : ((addFirst key output a).map key).Nodup := by
  unfold addFirst
  split_ifs with hmem
  · exact h
  · rw [List.map_append, List.map_singleton, ← List.concat_eq_append]
    exact h.concat hmem

theorem nodup_foldl_addFirst (h : (output.map key).Nodup) :
    ((l.foldl (addFirst key) output).map key).Nodup := by
  induction l generalizing output with
  | nil => exact h
  | cons a l ih => exact ih (nodup_addFirst h)

theorem nodup_firstByKey : ((firstByKey key l).map key).Nodup :=
  nodup_foldl_addFirst List.nodup_nil

theorem length_foldl_addFirst_le : (l.foldl (addFirst key) output).length ≤
    output.length + l.length := by
  induction l generalizing output with
  | nil => exact Nat.le_refl _
  | cons a l ih =>
    have hstep : (addFirst key output a).length ≤ output.length + 1 := by
      unfold addFirst
      split_ifs <;> simp
    have hrest : (l.foldl _ (addFirst key output a)).length ≤ _ := ih
    rw [List.foldl_cons, List.length_cons]
    omega

theorem length_firstByKey_le : (firstByKey key l).length ≤ l.length :=
  Nat.le_trans length_foldl_addFirst_le (by simp)

/-! ## Values of a dictionary -/

/-- Give the key of an element a new value, in the place of the old one if there is one. -/
def setByKey (key : α → κ) (output : List α) (a : α) : List α :=
  if key a ∈ output.map key then output.map fun b => if key b = key a then a else b
  else output ++ [a]

/-- The values of the dictionary that has every element under its key. -/
def dictValues (key : α → κ) (l : List α) : List α := l.foldl (setByKey key) []

theorem map_key_setByKey : (setByKey key output a).map key = (addFirst key output a).map key := by
  unfold setByKey addFirst
  split_ifs
  · rw [List.map_map]
    refine List.map_congr_left fun b _ => ?_
    by_cases hb : key b = key a <;> simp [hb]
  · rfl

theorem nodup_foldl_setByKey (h : (output.map key).Nodup) :
    ((l.foldl (setByKey key) output).map key).Nodup := by
  induction l generalizing output with
  | nil => exact h
  | cons a l ih =>
    refine ih ?_
    rw [map_key_setByKey]
    exact nodup_addFirst h

theorem nodup_dictValues : ((dictValues key l).map key).Nodup :=
  nodup_foldl_setByKey List.nodup_nil

theorem mem_of_mem_foldl_setByKey {b : α} (h : b ∈ l.foldl (setByKey key) output) :
    b ∈ output ∨ b ∈ l := by
  induction l generalizing output with
  | nil => exact .inl h
  | cons a l ih =>
    obtain hb | hb := ih h
    · unfold setByKey at hb
      split_ifs at hb
      · obtain ⟨c, hc, rfl⟩ := List.mem_map.mp hb
        split_ifs
        · exact .inr List.mem_cons_self
        · exact .inl hc
      · obtain hb | hb := List.mem_append.mp hb
        · exact .inl hb
        · exact .inr (List.mem_singleton.mp hb ▸ List.mem_cons_self)
    · exact .inr (List.mem_cons_of_mem _ hb)

theorem mem_of_mem_dictValues (h : a ∈ dictValues key l) : a ∈ l :=
  (mem_of_mem_foldl_setByKey h).resolve_left List.not_mem_nil

/-- The keys tell the elements of a list apart. -/
def Separates (key : α → κ) (l : List α) : Prop := ∀ a ∈ l, ∀ b ∈ l, key a = key b → a = b

instance instDecidableSeparates [DecidableEq α] : Decidable (Separates key l) :=
  inferInstanceAs (Decidable (∀ a ∈ l, ∀ b ∈ l, key a = key b → a = b))

theorem find?_foldl_setByKey {p : α → Bool} (h : Separates key (output ++ l)) :
    (l.foldl (setByKey key) output).find? p = (output ++ l).find? p := by
  induction l generalizing output with
  | nil => simp
  | cons a l ih =>
    rw [List.foldl_cons, setByKey]
    split_ifs with hmem
    · obtain ⟨b, hb, hkey⟩ := List.mem_map.mp hmem
      obtain rfl : b = a := h b (by simp [hb]) a (by simp) hkey
      have hsame : (output.map fun c => if key c = key b then b else c) = output := by
        refine (List.map_congr_left fun c hc => ?_).trans output.map_id
        split_ifs with hc'
        · exact h b (by simp) c (by simp [hc]) hc'.symm
        · rfl
      rw [hsame, ih fun x hx y hy => h x (by grind) y (by grind), List.find?_append,
        List.find?_append, List.find?_cons]
      cases hfind : output.find? p with
      | some c => rfl
      | none =>
        have hb' := List.find?_eq_none.mp hfind b hb
        simp [hb']
    · rw [ih (by simpa using h), List.append_assoc, List.singleton_append]

theorem find?_dictValues {p : α → Bool} (h : Separates key l) :
    (dictValues key l).find? p = l.find? p :=
  find?_foldl_setByKey h

/-- With distinct keys, the search for the key of an element finds the element. -/
theorem find?_key (hnodup : (l.map key).Nodup) (ha : a ∈ l) : l.find? (key · = key a) = some a := by
  cases hfind : l.find? (key · = key a) with
  | none => simpa using List.find?_eq_none.mp hfind a ha
  | some b =>
    have hb : key b = key a := by simpa using List.find?_some hfind
    rw [List.inj_on_of_nodup_map hnodup (List.mem_of_find?_eq_some hfind) ha hb]

/-- With distinct keys, a search for a key does not depend on the order. -/
theorem find?_perm {l' : List α} (hperm : l.Perm l') (hnodup : (l.map key).Nodup) (k : κ) :
    l.find? (key · = k) = l'.find? (key · = k) := by
  by_cases hk : ∃ a ∈ l, key a = k
  · obtain ⟨a, ha, rfl⟩ := hk
    rw [find?_key hnodup ha, find?_key ((hperm.map key).nodup_iff.mp hnodup) (hperm.mem_iff.mp ha)]
  · have hnone : ∀ {m : List α}, (∀ a ∈ m, a ∈ l) → m.find? (key · = k) = none := fun hsub =>
      List.find?_eq_none.mpr fun a ha heq => hk ⟨a, hsub a ha, of_decide_eq_true heq⟩
    rw [hnone fun _ h => h, hnone fun _ h => hperm.mem_iff.mpr h]

/-- The values of a dictionary of images are the images of its values. -/
theorem dictValues_map {β : Type*} {f : β → α} {l : List β} :
    dictValues key (l.map f) = (dictValues (fun b => key (f b)) l).map f := by
  suffices h : ∀ output : List β, (l.map f).foldl (setByKey key) (output.map f) =
      (l.foldl (setByKey fun b => key (f b)) output).map f from h []
  intro output
  induction l generalizing output with
  | nil => rfl
  | cons b l ih =>
    have hstep : setByKey key (output.map f) (f b) =
        (setByKey (fun b => key (f b)) output b).map f := by
      simp only [setByKey, List.map_map]
      have hkeys : output.map (key ∘ f) = output.map fun b => key (f b) := rfl
      rw [hkeys]
      split_ifs
      · rw [List.map_map]
        refine List.map_congr_left fun c _ => ?_
        simp only [Function.comp_apply]
        split_ifs <;> rfl
      · simp
    rw [List.map_cons, List.foldl_cons, List.foldl_cons, hstep, ih]

theorem length_dictValues_le : (dictValues key l).length ≤ l.length := by
  suffices h : ∀ output : List α, (l.foldl (setByKey key) output).length ≤
      output.length + l.length from Nat.le_trans (h []) (by simp)
  intro output
  induction l generalizing output with
  | nil => exact Nat.le_refl _
  | cons a l ih =>
    have hstep : (setByKey key output a).length ≤ output.length + 1 := by
      unfold setByKey
      split_ifs <;> simp
    have hrest : (l.foldl _ (setByKey key output a)).length ≤ _ := ih _
    rw [List.foldl_cons, List.length_cons]
    omega

variable [DecidableEq α]

theorem foldl_addFirst_eq (hkey : Function.Injective key) :
    l.foldl (addFirst key) output = output ++ (l.filter (· ∉ output)).eraseDups := by
  induction l generalizing output with
  | nil => simp
  | cons a l ih =>
    rw [List.foldl_cons, ih, addFirst]
    by_cases hmem : a ∈ output
    · rw [if_pos (List.mem_map_of_mem hmem), List.filter_cons_of_neg (by simpa using hmem)]
    · have hnot : key a ∉ output.map key := fun h => by
        obtain ⟨b, hb, heq⟩ := List.mem_map.mp h
        exact hmem (hkey heq ▸ hb)
      rw [if_neg hnot, List.filter_cons_of_pos (by simpa using hmem), List.eraseDups_cons,
        List.filter_filter, List.append_assoc, List.singleton_append]
      congr 4
      funext b
      by_cases heq : b = a <;> simp [heq]

/-- With an injective key, exactly the repetitions go. -/
theorem firstByKey_eq_eraseDups (hkey : Function.Injective key) :
    firstByKey key l = l.eraseDups := by
  have hfilter : l.filter (· ∉ ([] : List α)) = l := List.filter_eq_self.mpr (by simp)
  rw [firstByKey, foldl_addFirst_eq hkey, hfilter, List.nil_append]

end MarketSupport.Library
