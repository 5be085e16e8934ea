import Mathlib.Data.List.MinMax
import Mathlib.Data.List.Sort
import MarketSupport.Library.FirstByKey

/-!
# The strongest element for every key, and the first ones by rank

A dictionary that keeps the strongest of the values it was given under a key, and the first
elements of a list in the order of a rank.

## Main results

* `find?_strongestByKey` — a key has the first of its strongest elements.
* `mem_strongestByKey` — what the dictionary keeps.
* `mem_firstByRank` — an element is among the first `n` exactly when fewer than `n` precede it.
-/

namespace MarketSupport.Library

variable {α κ σ ρ : Type*} [DecidableEq κ] [LinearOrder σ] [LinearOrder ρ]

/-- Give the key of an element a new value, unless it has one that is as strong. -/
def setStronger (key : α → κ) (strength : α → σ) (output : List α) (a : α) : List α :=
  match output.find? (fun b => key b = key a) with
  | none => setByKey key output a
  | some current => if strength current < strength a then setByKey key output a else output

/-- The values of the dictionary that keeps the strongest element of every key. -/
def strongestByKey (key : α → κ) (strength : α → σ) (l : List α) : List α :=
  l.foldl (setStronger key strength) []

variable {key : α → κ} {strength : α → σ} {output l : List α} {a : α}

theorem find?_setByKey {k : κ} : (setByKey key output a).find? (fun b => key b = k) =
    if key a = k then some a else output.find? (fun b => key b = k) := by
  have hmap : (output.map fun b => if key b = key a then a else b).find? (fun b => key b = k) =
      if key a = k then if key a ∈ output.map key then some a else none
      else output.find? (fun b => key b = k) := by
    induction output with
    | nil => simp
    | cons b output ih =>
      rw [List.map_cons, List.find?_cons, List.find?_cons, ih]
      by_cases hb : key b = key a <;> by_cases hk : key a = k <;> by_cases hbk : key b = k <;>
        simp_all [eq_comm]
  unfold setByKey
  split_ifs with hmem hk hk
  · rw [hmap, if_pos hk, if_pos hmem]
  · rw [hmap, if_neg hk]
  · have hnone : output.find? (fun b => key b = k) = none := by
      rw [List.find?_eq_none]
      intro b hb
      simpa [← hk] using fun h => hmem (List.mem_map.mpr ⟨b, hb, h⟩)
    simp [List.find?_append, hnone, hk]
  · simp [List.find?_append, hk]

/-- One element changes its own key only. -/
theorem find?_setStronger {k : κ} : (setStronger key strength output a).find? (fun b => key b = k) =
    if key a = k then
      match output.find? (fun b => key b = k) with
      | none => some a
      | some current => if strength current < strength a then some a else some current
    else output.find? (fun b => key b = k) := by
  unfold setStronger
  by_cases hk : key a = k
  · subst hk
    cases hfind : output.find? (fun b => key b = key a) with
    | none => simp [find?_setByKey]
    | some current =>
      simp only [if_true]
      split_ifs
      · simp [find?_setByKey]
      · exact hfind
  · rw [if_neg hk]
    split
    · rw [find?_setByKey, if_neg hk]
    · split_ifs
      · rw [find?_setByKey, if_neg hk]
      · rfl

theorem find?_strongestByKey (k : κ) : (strongestByKey key strength l).find? (fun b => key b = k) =
    (l.filter fun b => key b = k).argmax strength := by
  induction l using List.reverseRecOn with
  | nil => rfl
  | append_singleton l a ih =>
    unfold strongestByKey at ih ⊢
    rw [List.foldl_append, List.foldl_cons, List.foldl_nil, find?_setStronger, ih,
      List.filter_append]
    by_cases hk : key a = k
    · have hlast : [a].filter (fun b => key b = k) = [a] := by simp [hk]
      rw [if_pos hk, hlast, List.argmax_concat]
      cases (l.filter fun b => key b = k).argmax strength <;> rfl
    · have hlast : [a].filter (fun b => key b = k) = [] := by simp [hk]
      rw [if_neg hk, hlast, List.append_nil]

theorem map_key_setStronger :
    (setStronger key strength output a).map key = (addFirst key output a).map key := by
  have hkept (h : key a ∈ output.map key) : output.map key = (addFirst key output a).map key := by
    rw [addFirst, if_pos h]
  unfold setStronger
  cases hfind : output.find? (fun b => key b = key a) with
  | none => exact map_key_setByKey
  | some current =>
    simp only
    split_ifs
    · exact map_key_setByKey
    · refine hkept (List.mem_map.mpr ⟨current, List.mem_of_find?_eq_some hfind, ?_⟩)
      simpa using List.find?_some hfind

/-- The keys are the keys of the list, each at its first place. -/
theorem map_key_strongestByKey :
    (strongestByKey key strength l).map key = (firstByKey key l).map key := by
  suffices h : ∀ output output' : List α, output.map key = output'.map key →
      (l.foldl (setStronger key strength) output).map key =
        (l.foldl (addFirst key) output').map key from h [] [] rfl
  induction l with
  | nil => exact fun _ _ h => h
  | cons a l ih =>
    intro output output' h
    refine ih _ _ ?_
    rw [map_key_setStronger]
    unfold addFirst
    rw [h]
    split_ifs
    · exact h
    · simp [h]

theorem nodup_strongestByKey : ((strongestByKey key strength l).map key).Nodup := by
  rw [map_key_strongestByKey]
  exact nodup_firstByKey

/-- The dictionary keeps the first of the strongest elements of every key. -/
theorem mem_strongestByKey : a ∈ strongestByKey key strength l ↔
    a ∈ (l.filter fun b => key b = key a).argmax strength := by
  rw [← find?_strongestByKey, Option.mem_def]
  constructor
  · exact find?_key nodup_strongestByKey
  · exact List.mem_of_find?_eq_some

/-! ## The first ones by rank -/

/-- The first `n` elements in the order of their rank. -/
def firstByRank (rank : α → ρ) (n : ℕ) (l : List α) : List α :=
  (l.mergeSort fun a b => rank a ≤ rank b).take n

variable {rank : α → ρ} {n : ℕ}

theorem pairwise_rank_le_mergeSort :
    (l.mergeSort fun a b => rank a ≤ rank b).Pairwise fun a b => rank a ≤ rank b := by
  have htrans (a b c : α) (hab : decide (rank a ≤ rank b) = true)
      (hbc : decide (rank b ≤ rank c) = true) : decide (rank a ≤ rank c) = true := by
    rw [decide_eq_true_eq] at hab hbc ⊢
    exact hab.trans hbc
  have htotal (a b : α) : (decide (rank a ≤ rank b) || decide (rank b ≤ rank a)) = true := by
    simpa using le_total (rank a) (rank b)
  simpa using List.pairwise_mergeSort htrans htotal l

/-- With distinct ranks the order is strict. -/
theorem pairwise_rank_lt_mergeSort (h : (l.map rank).Nodup) :
    (l.mergeSort fun a b => rank a ≤ rank b).Pairwise fun a b => rank a < rank b := by
  have hnodup := ((List.mergeSort_perm l fun a b => rank a ≤ rank b).map rank).nodup_iff.mpr h
  rw [List.Nodup, List.pairwise_map] at hnodup
  exact pairwise_rank_le_mergeSort.imp₂ (fun _ _ hle hne => lt_of_le_of_ne hle hne) hnodup

theorem pairwise_firstByRank (h : (l.map rank).Nodup) :
    (firstByRank rank n l).Pairwise fun a b => rank a < rank b :=
  (pairwise_rank_lt_mergeSort h).sublist (List.take_sublist _ _)

theorem length_firstByRank : (firstByRank rank n l).length = min n l.length := by
  rw [firstByRank, List.length_take, List.length_mergeSort]

theorem mem_take_iff_of_pairwise (h : l.Pairwise fun a b => rank a < rank b) :
    a ∈ l.take n ↔ a ∈ l ∧ (l.countP fun b => rank b < rank a) < n := by
  induction l generalizing n with
  | nil => simp
  | cons b l ih =>
    obtain ⟨hb, hl⟩ := List.pairwise_cons.mp h
    cases n with
    | zero => simp
    | succ n =>
      have hnone : (l.countP fun c => rank c < rank b) = 0 :=
        List.countP_eq_zero.mpr fun c hc => by simpa using (hb c hc).le
      rw [List.take_succ_cons, List.mem_cons, List.mem_cons, ih hl, List.countP_cons]
      by_cases hab : a = b
      · subst hab
        simp [hnone]
      · by_cases ha : a ∈ l
        · simp [hab, ha, hb a ha]
        · simp [hab, ha]

theorem mem_firstByRank (h : (l.map rank).Nodup) : a ∈ firstByRank rank n l ↔
    a ∈ l ∧ (l.countP fun b => rank b < rank a) < n := by
  rw [firstByRank, mem_take_iff_of_pairwise (pairwise_rank_lt_mergeSort h), List.mem_mergeSort,
    (List.mergeSort_perm l _).countP_eq]

end MarketSupport.Library
