import MarketSupport.Library.Lru

/-!
# The selector cache of a turn

The two selectors of a turn share a cache of four outcomes under the hashes of their inputs. The
cache is an ordered dictionary, its oldest entry first.

## Main results

* `Keeps.get_some`, `Keeps.put` — reading and storing use an entry.
-/

namespace MarketSupport

open Library

variable {ν ε : Type*}

structure TurnSelectorOutcomeCacheV1 (ν : Type*) where
  entries : List (String × ν)
  deriving DecidableEq, Repr

namespace TurnSelectorOutcomeCacheV1

/-- `max_entries`. -/
def maxEntries : ℕ := 4

/-- The constructor. -/
def new : TurnSelectorOutcomeCacheV1 ν := ⟨[]⟩

/-- `move_to_end` of an ordered dictionary. -/
def moveToEnd (entries : List (String × ν)) (key : String) : List (String × ν) :=
  match entries.lookup key with
  | none => entries
  | some value => Lru.without key entries ++ [(key, value)]

/-- `popitem(last=False)` while there are too many entries. -/
def popOldest : List (String × ν) → List (String × ν)
  | [] => []
  | entry :: entries => if (entry :: entries).length > maxEntries then popOldest entries else
    entry :: entries

/-- `get`. -/
def get (cache : TurnSelectorOutcomeCacheV1 ν) (sih1 : String) :
    Option ν × TurnSelectorOutcomeCacheV1 ν :=
  match cache.entries.lookup sih1 with
  | none => (none, cache)
  | some value => (some value, ⟨moveToEnd cache.entries sih1⟩)

/-- `put`: an entry keeps its place when its value is replaced, and is then moved. -/
def put (cache : TurnSelectorOutcomeCacheV1 ν) (sih1 : String) (outcome : ν) :
    TurnSelectorOutcomeCacheV1 ν :=
  let entries :=
    if sih1 ∈ cache.entries.map Prod.fst then
      cache.entries.map fun entry => if entry.1 = sih1 then (sih1, outcome) else entry
    else cache.entries ++ [(sih1, outcome)]
  ⟨popOldest (moveToEnd entries sih1)⟩

/-! ## Entries, the last used first -/

theorem popOldest_eq_drop (entries : List (String × ν)) :
    popOldest entries = entries.drop (entries.length - maxEntries) := by
  induction entries with
  | nil => rfl
  | cons entry entries ih =>
    unfold popOldest
    split_ifs with hlong
    · rw [ih]
      obtain ⟨m, hm⟩ : ∃ m, (entry :: entries).length - maxEntries = m + 1 :=
        ⟨(entry :: entries).length - maxEntries - 1, by omega⟩
      have hm' : entries.length - maxEntries = m := by
        rw [List.length_cons] at hm
        omega
      rw [hm, hm', List.drop_succ_cons]
    · have hzero : (entry :: entries).length - maxEntries = 0 := by omega
      rw [hzero, List.drop_zero]

theorem reverse_popOldest (entries : List (String × ν)) :
    (popOldest entries).reverse = entries.reverse.take maxEntries := by
  rw [popOldest_eq_drop, List.reverse_drop]
  by_cases h : entries.length ≤ maxEntries
  · rw [List.take_of_length_le (by simp; omega), List.take_of_length_le (by simp; omega)]
  · have hlength : entries.length - (entries.length - maxEntries) = maxEntries := by omega
    rw [hlength]

/-- The cache has the entries that were used last. -/
def Keeps (cache : TurnSelectorOutcomeCacheV1 ν) (history : List (String × ν)) : Prop :=
  cache.entries.reverse = (Lru.recent history).take maxEntries

variable {cache : TurnSelectorOutcomeCacheV1 ν} {history : List (String × ν)} {sih1 : String}
  {outcome : ν}

theorem keeps_new : (new : TurnSelectorOutcomeCacheV1 ν).Keeps [] := rfl

theorem Keeps.nodup (h : cache.Keeps history) : (cache.entries.map Prod.fst).Nodup := by
  have hkeys : (cache.entries.reverse.map Prod.fst).Nodup := by
    rw [h, List.map_take]
    exact (Lru.nodup_recent history).sublist (List.take_sublist _ _)
  rw [List.map_reverse] at hkeys
  exact List.nodup_reverse.mp hkeys

theorem Keeps.lookup (h : cache.Keeps history) (sih1 : String) :
    cache.entries.lookup sih1 = ((Lru.recent history).take maxEntries).lookup sih1 := by
  rw [← h, Lru.lookup_reverse h.nodup]

/-- Moving an entry to the end makes it the last used one. -/
theorem reverse_moveToEnd {entries : List (String × ν)} (h : entries.lookup sih1 = some outcome) :
    (moveToEnd entries sih1).reverse = (sih1, outcome) :: Lru.without sih1 entries.reverse := by
  unfold moveToEnd
  rw [h]
  simp [Lru.without, List.filter_reverse]

theorem Keeps.use (h : cache.Keeps history) :
    (((sih1, outcome) :: Lru.without sih1 cache.entries.reverse).take maxEntries) =
      (Lru.recent ((sih1, outcome) :: history)).take maxEntries := by
  rw [h]
  exact (Lru.recent_cons_take sih1 outcome history 3).symm

theorem Keeps.get_none (h : cache.entries.lookup sih1 = none) : cache.get sih1 = (none, cache) := by
  rw [get, h]

/-- Reading an entry uses it. -/
theorem Keeps.get_some (h : cache.Keeps history)
    (hlookup : cache.entries.lookup sih1 = some outcome) :
    (cache.get sih1).1 = some outcome ∧ (cache.get sih1).2.Keeps ((sih1, outcome) :: history) := by
  unfold get
  rw [hlookup]
  refine ⟨rfl, ?_⟩
  unfold Keeps
  rw [← h.use, reverse_moveToEnd hlookup, List.take_of_length_le]
  have hmem : sih1 ∈ cache.entries.map Prod.fst :=
    List.mem_map.mpr ⟨_, (Lru.lookup_eq_some_iff_mem h.nodup).mp hlookup, rfl⟩
  have hshort : cache.entries.reverse.length ≤ maxEntries := by
    rw [h]
    exact List.length_take_le _ _
  have hless : (Lru.without sih1 cache.entries.reverse).length < cache.entries.reverse.length := by
    apply List.length_filter_lt_length_iff_exists.mpr
    obtain ⟨entry, hentry, hkey⟩ := List.mem_map.mp hmem
    exact ⟨entry, by simpa using hentry, by simpa using hkey⟩
  rw [List.length_cons]
  omega

/-- The entries with a new value in the place of the old one. -/
theorem replaced_entries (entries : List (String × ν)) (sih1 : String) (outcome : ν) :
    let replaced := entries.map fun entry => if entry.1 = sih1 then (sih1, outcome) else entry
    replaced.map Prod.fst = entries.map Prod.fst ∧ Lru.without sih1 replaced =
      Lru.without sih1 entries := by
  induction entries with
  | nil => exact ⟨rfl, rfl⟩
  | cons entry entries ih =>
    obtain ⟨hkeys, hwithout⟩ := ih
    unfold Lru.without at hwithout ⊢
    dsimp only at hkeys hwithout ⊢
    by_cases hkey : entry.1 = sih1
    · rw [List.map_cons, if_pos hkey, List.map_cons, List.map_cons, hkeys, hkey]
      refine ⟨rfl, ?_⟩
      rw [List.filter_cons_of_neg (by simp), List.filter_cons_of_neg (by simp [hkey]), hwithout]
    · rw [List.map_cons, if_neg hkey, List.map_cons, List.map_cons, hkeys]
      refine ⟨rfl, ?_⟩
      rw [List.filter_cons_of_pos (by simp [hkey]), List.filter_cons_of_pos
        (by simp [hkey]), hwithout]

/-- Storing an outcome uses it. -/
theorem Keeps.put (h : cache.Keeps history) (sih1 : String) (outcome : ν) :
    (cache.put sih1 outcome).Keeps ((sih1, outcome) :: history) := by
  unfold TurnSelectorOutcomeCacheV1.put Keeps
  dsimp only
  rw [reverse_popOldest, ← h.use]
  congr 1
  by_cases hmem : sih1 ∈ cache.entries.map Prod.fst
  · obtain ⟨hkeys, hwithout⟩ := replaced_entries cache.entries sih1 outcome
    rw [if_pos hmem]
    have hlookup : (cache.entries.map fun entry =>
        if entry.1 = sih1 then (sih1, outcome) else entry).lookup sih1 = some outcome := by
      rw [Lru.lookup_eq_some_iff_mem (hkeys ▸ h.nodup)]
      obtain ⟨entry, hentry, hkey⟩ := List.mem_map.mp hmem
      exact List.mem_map.mpr ⟨entry, hentry, if_pos hkey⟩
    rw [reverse_moveToEnd hlookup]
    unfold Lru.without at hwithout ⊢
    rw [List.filter_reverse, hwithout, List.filter_reverse]
  · have hlookup : (cache.entries ++ [(sih1, outcome)]).lookup sih1 = some outcome := by
      rw [Lru.lookup_append_of_absent hmem]
      simp
    rw [if_neg hmem, reverse_moveToEnd hlookup]
    simp [Lru.without]

end TurnSelectorOutcomeCacheV1

/-! ## Selectors -/

/-- What comes of a selector call: a selection or an exception, and whether a provider was asked. -/
structure SelectorOutcome (ε ν : Type*) where
  result : Except ε ν
  asked : Bool
  deriving DecidableEq, Repr

/-- What a selector is called with: whether it has an API key, candidates and a query, the hash of
its input, and what the provider would answer. -/
structure SelectorRequest (ε ν : Type*) where
  asks : Bool
  sih1 : String
  answer : Except ε ν

/-- `select` of either selector, with the cache that it resolves: the cache, then the provider,
whose selection is stored. The dump of a selection is read back as the selection. -/
def directSelect (nothing : ν) (cache : Option (TurnSelectorOutcomeCacheV1 ν))
    (request : SelectorRequest ε ν) : SelectorOutcome ε ν × Option (TurnSelectorOutcomeCacheV1 ν) :=
  if !request.asks then (⟨.ok nothing, false⟩, cache)
  else match cache with
    | none => (⟨request.answer, true⟩, none)
    | some cache =>
      match cache.get request.sih1 with
      | (some cached, cache) => (⟨.ok cached, false⟩, some cache)
      | (none, cache) =>
        match request.answer with
        | .error e => (⟨.error e, true⟩, some cache)
        | .ok selection => (⟨.ok selection, true⟩, some (cache.put request.sih1 selection))

end MarketSupport
