import Mathlib.Data.List.Dedup

/-!
# Least recently used

What was used last, without repetitions, and what of it a bounded store keeps. A history has
its newest use first.

## Main results

* `recent_cons_take` — using one more key needs only what the store keeps.
* `lookup_take_recent_eq_some_iff` — a key is kept with its last value as long as fewer other keys
  than the capacity were used since.
-/

namespace MarketSupport.Library.Lru

variable {κ ν : Type*} [DecidableEq κ]

/-- The entries under other keys. -/
def without (key : κ) (entries : List (κ × ν)) : List (κ × ν) :=
  entries.filter fun entry => decide (entry.1 ≠ key)

/-- Every key that was used, the last used first, with its last value. -/
def recent : List (κ × ν) → List (κ × ν)
  | [] => []
  | use :: history => use :: without use.1 (recent history)

variable {key : κ} {value : ν} {entries history newer older : List (κ × ν)} {n : ℕ}

theorem keys_without (entries : List (κ × ν)) :
    (without key entries).map Prod.fst = (entries.map Prod.fst).filter fun k => decide
    (k ≠ key) := by
  unfold without
  rw [List.filter_map]
  rfl

theorem without_eq_self (h : key ∉ entries.map Prod.fst) : without key entries = entries := by
  apply List.filter_eq_self.mpr
  intro entry hentry
  rw [decide_eq_true_eq]
  rintro rfl
  exact h (List.mem_map_of_mem hentry)

theorem nodup_recent (history : List (κ × ν)) : ((recent history).map Prod.fst).Nodup := by
  induction history with
  | nil => exact List.nodup_nil
  | cons use history ih =>
    rw [recent, List.map_cons, List.nodup_cons, keys_without]
    exact ⟨by simp, ih.filter _⟩

theorem mem_keys_recent (history : List (κ × ν)) (k : κ) :
    k ∈ (recent history).map Prod.fst ↔ k ∈ history.map Prod.fst := by
  induction history with
  | nil => rfl
  | cons use history ih =>
    rw [recent, List.map_cons, List.map_cons, List.mem_cons, List.mem_cons, keys_without,
      List.mem_filter, ih]
    by_cases hk : k = use.1 <;> simp [hk]

/-- As many entries as there are different keys. -/
theorem length_recent (history : List (κ × ν)) :
    (recent history).length = (history.map Prod.fst).dedup.length := by
  have hperm : ((recent history).map Prod.fst).Perm (history.map Prod.fst).dedup := by
    rw [List.perm_ext_iff_of_nodup (nodup_recent history) (List.nodup_dedup _)]
    intro k
    rw [mem_keys_recent, List.mem_dedup]
  rw [← List.length_map, hperm.length_eq]

/-- Dropping one key of a prefix drops it of the list, as far as the prefix then reaches. -/
theorem take_without_take (h : (entries.map Prod.fst).Nodup) :
    (without key (entries.take (n + 1))).take n = (without key entries).take n := by
  induction entries generalizing n with
  | nil => rfl
  | cons entry entries ih =>
    obtain ⟨hentry, hnodup⟩ := List.nodup_cons.mp h
    rw [List.take_succ_cons]
    by_cases hkey : entry.1 = key
    · have hdrop : ∀ rest : List (κ × ν), without key (entry :: rest) = without key rest := by
        intro rest
        simp [without, hkey]
      have habsent : key ∉ entries.map Prod.fst := hkey ▸ hentry
      have habsent' : key ∉ (entries.take n).map Prod.fst := by
        intro hmem
        rw [List.map_take] at hmem
        exact habsent (List.mem_of_mem_take hmem)
      rw [hdrop, hdrop, without_eq_self habsent, without_eq_self habsent',
        List.take_take, Nat.min_self]
    · have hkeep : ∀ rest : List (κ × ν), without key (entry :: rest) =
      entry :: without key rest := by
        intro rest
        simp [without, hkey]
      rw [hkeep, hkeep]
      cases n with
      | zero => rfl
      | succ n => rw [List.take_succ_cons, List.take_succ_cons, ih hnodup]

/-- The entries that are kept after one more use come from those that were kept before. -/
theorem recent_cons_take (key : κ) (value : ν) (history : List (κ × ν)) (n : ℕ) :
    (recent ((key, value) :: history)).take (n + 1) =
      ((key, value) :: without key ((recent history).take (n + 1))).take (n + 1) := by
  rw [recent, List.take_succ_cons, List.take_succ_cons, take_without_take (nodup_recent history)]

/-- The keys used later come first. -/
theorem recent_append (newer older : List (κ × ν)) : recent (newer ++ older) =
    recent newer ++ (recent older).filter fun entry => decide (entry.1 ∉ newer.map Prod.fst) := by
  induction newer with
  | nil => simp [recent]
  | cons use newer ih =>
    rw [List.cons_append, recent, recent, ih, without, List.filter_append, ← without,
      List.filter_filter,
      List.cons_append]
    congr 2
    apply List.filter_congr
    intro entry _
    by_cases hkey : entry.1 = use.1 <;> simp [hkey]

/-- The entry of a key stands behind those of the keys that were used after it. -/
theorem recent_eq_append (value : ν) (older : List (κ × ν)) (h : key ∉ newer.map Prod.fst) :
    ∃ rest, recent (newer ++ (key, value) :: older) = recent newer ++ (key, value) :: rest := by
  rw [recent_append, recent, List.filter_cons_of_pos (by simpa using h)]
  exact ⟨_, rfl⟩

theorem lookup_append_of_absent (h : key ∉ newer.map Prod.fst) :
    (newer ++ entries).lookup key = entries.lookup key := by
  rw [List.lookup_append]
  have hnone : newer.lookup key = none := by
    rw [List.lookup_eq_none_iff]
    intro entry hentry
    simp only [bne_iff_ne, ne_eq]
    rintro rfl
    exact h (List.mem_map_of_mem hentry)
  rw [hnone, Option.none_or]

/-- With distinct keys, a key has the values that stand with it. -/
theorem lookup_eq_some_iff_mem (h : (entries.map Prod.fst).Nodup) :
    entries.lookup key = some value ↔ (key, value) ∈ entries := by
  induction entries with
  | nil => simp
  | cons entry entries ih =>
    obtain ⟨k, v⟩ := entry
    obtain ⟨habsent, hnodup⟩ := List.nodup_cons.mp h
    by_cases hkey : key = k
    · subst hkey
      have hmem : (key, value) ∉ entries := fun hmem => habsent (List.mem_map.mpr ⟨_, hmem, rfl⟩)
      rw [List.lookup_cons_self, List.mem_cons]
      simp only [Option.some.injEq, Prod.mk.injEq, true_and, hmem, or_false, eq_comm]
    · have hbeq : (key == k) = false := beq_eq_false_iff_ne.mpr hkey
      rw [List.lookup_cons, hbeq, ih hnodup, List.mem_cons]
      simp [hkey]

theorem lookup_reverse (h : (entries.map Prod.fst).Nodup) (key : κ) :
    entries.reverse.lookup key = entries.lookup key := by
  have hreverse : (entries.reverse.map Prod.fst).Nodup := by
    rw [List.map_reverse]
    exact List.nodup_reverse.mpr h
  apply Option.ext
  intro value
  rw [lookup_eq_some_iff_mem h, lookup_eq_some_iff_mem hreverse, List.mem_reverse]

/-- A key that was used was used last at some place. -/
theorem exists_last_use (h : key ∈ history.map Prod.fst) :
    ∃ newer value older, history = newer ++ (key, value) :: older ∧ key ∉ newer.map Prod.fst := by
  induction history with
  | nil => cases h
  | cons use history ih =>
    by_cases hkey : use.1 = key
    · subst hkey
      exact ⟨[], use.2, history, rfl, List.not_mem_nil⟩
    · obtain hmem | hmem := List.mem_cons.mp h
      · exact absurd hmem.symm hkey
      · obtain ⟨newer, value, older, rfl, habsent⟩ := ih hmem
        refine ⟨use :: newer, value, older, rfl, ?_⟩
        rw [List.map_cons, List.mem_cons, not_or]
        exact ⟨fun heq => hkey heq.symm, habsent⟩

/-- Whether the first `n` entries reach the first one of a key. -/
theorem lookup_take (h : key ∉ newer.map Prod.fst) (n : ℕ) :
    ((newer ++ (key, value) :: older).take n).lookup key =
      if newer.length < n then some value else none := by
  by_cases hroom : newer.length < n
  · obtain ⟨m, rfl⟩ : ∃ m, n = newer.length + (m + 1) := ⟨n - newer.length - 1, by omega⟩
    rw [if_pos hroom, List.take_length_add_append, List.take_succ_cons, lookup_append_of_absent h]
    simp
  · have hprefix : (newer ++ (key, value) :: older).take n = newer.take n := by
      rw [List.take_append_of_le_length (by omega)]
    rw [if_neg hroom, hprefix, List.lookup_eq_none_iff]
    intro entry hentry
    simp only [bne_iff_ne, ne_eq]
    rintro rfl
    exact h (List.mem_map_of_mem (List.mem_of_mem_take hentry))

/-- What a store with room for `n` keys has under a key. -/
theorem lookup_take_recent_eq_some_iff :
    ((recent history).take n).lookup key = some value ↔
      ∃ newer older, history = newer ++ (key, value) :: older ∧ key ∉ newer.map Prod.fst ∧
        (newer.map Prod.fst).dedup.length < n := by
  constructor
  · intro hlookup
    have hmem : key ∈ (recent history).map Prod.fst := by
      obtain ⟨before, after, heq, -⟩ := List.lookup_eq_some_iff.mp hlookup
      have hentry : (key, value) ∈ (recent history).take n := by
        rw [heq]
        simp
      exact List.mem_map.mpr ⟨_, List.mem_of_mem_take hentry, rfl⟩
    obtain ⟨newer, last, older, rfl, habsent⟩ :=
      exists_last_use ((mem_keys_recent history key).mp hmem)
    obtain ⟨rest, hrest⟩ := recent_eq_append last older habsent
    rw [hrest, lookup_take (fun h => habsent ((mem_keys_recent newer key).mp h))] at hlookup
    split_ifs at hlookup with hroom
    obtain rfl := Option.some.inj hlookup
    exact ⟨newer, older, rfl, habsent, length_recent newer ▸ hroom⟩
  · rintro ⟨newer, older, rfl, habsent, hroom⟩
    obtain ⟨rest, hrest⟩ := recent_eq_append value older habsent
    rw [hrest, lookup_take (fun h => habsent ((mem_keys_recent newer key).mp h)),
      if_pos (length_recent newer ▸ hroom)]

end MarketSupport.Library.Lru
