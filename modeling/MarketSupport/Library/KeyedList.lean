import Mathlib.Data.List.Nodup

/-!
# Keyed lists

Lists with one entry for each key, in the order in which the keys came first. A later entry
takes the place of an earlier one with its key.

## Main results

* `nodup_ofEntries` — the entries have distinct keys.
* `mem_of_mem_ofEntries` — no entry is added.
-/

namespace MarketSupport.Library.KeyedList

variable {α κ : Type*} [DecidableEq κ] (key : α → κ)

/-- Put an entry in the place of the one with its key, or at the end. -/
def upsert (l : List α) (a : α) : List α :=
  if key a ∈ l.map key then l.map (fun b => if key b = key a then a else b) else l ++ [a]

/-- The entries, one for each key. -/
def ofEntries (l : List α) : List α := l.foldl (upsert key) []

variable {key}

theorem map_upsert (l : List α) (a : α) : (upsert key l a).map key =
    if key a ∈ l.map key then l.map key else l.map key ++ [key a] := by
  unfold upsert
  split_ifs
  · rw [List.map_map]
    refine List.map_congr_left fun b _ => ?_
    simp only [Function.comp_apply]
    split_ifs with h
    · exact h.symm
    · rfl
  · simp

theorem mem_upsert {l : List α} {a b : α} (h : b ∈ upsert key l a) : b ∈ l ∨ b = a := by
  unfold upsert at h
  grind

theorem nodup_upsert {l : List α} (h : (l.map key).Nodup) (a : α) :
    ((upsert key l a).map key).Nodup := by
  rw [map_upsert]
  split_ifs with hmem
  · exact h
  · rw [List.nodup_append]
    grind

theorem nodup_ofEntries (l : List α) : ((ofEntries key l).map key).Nodup :=
  List.foldlRecOn (motive := fun d => (d.map key).Nodup) l (upsert key) List.nodup_nil
    fun _ h a _ => nodup_upsert h a

theorem mem_of_mem_ofEntries {l : List α} {b : α} (h : b ∈ ofEntries key l) : b ∈ l := by
  have hall : ∀ b ∈ ofEntries key l, b ∈ l := by
    refine List.foldlRecOn (motive := fun d => ∀ b ∈ d, b ∈ l) l (upsert key) (by simp) ?_
    intro d ih a ha b hb
    obtain hb | rfl := mem_upsert hb
    · exact ih b hb
    · exact ha
  exact hall b h

end MarketSupport.Library.KeyedList
