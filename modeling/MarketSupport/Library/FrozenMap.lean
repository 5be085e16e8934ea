import Mathlib.Data.List.Sort
import Mathlib.Data.List.MinMax
import Mathlib.Order.Basic

/-!
# Frozen maps

Immutable finite maps with an ordered iteration. A map is the list of its entries,
strictly sorted by key, so two maps with the same lookups are equal and iteration
visits the keys in order.

## Main definitions

* `FrozenMap.get`, `FrozenMap.insert`, `FrozenMap.withoutKeys` — lookup and update.
* `FrozenMap.filterMap` — rebuild a map from the entries that are kept.
* `FrozenMap.restrict` — the entries that satisfy a predicate.
-/

namespace MarketSupport.Library

variable {K V W : Type*}

/-- The list of entries is strictly sorted by key. -/
def SortedKeys [LinearOrder K] (l : List (K × V)) : Prop := l.Pairwise (fun a b => a.1 < b.1)

/-- A finite map whose entries are kept in strictly increasing key order. -/
structure FrozenMap (K V : Type*) [LinearOrder K] where
  entries : List (K × V)
  sorted : SortedKeys entries

namespace FrozenMap

variable [LinearOrder K]

instance [DecidableEq V] : DecidableEq (FrozenMap K V) := fun m n =>
  decidable_of_iff (m.entries = n.entries) (by cases m; cases n; simp)

/-- The map without entries. -/
def empty : FrozenMap K V := ⟨[], List.Pairwise.nil⟩

instance : EmptyCollection (FrozenMap K V) := ⟨empty⟩

/-- The value stored at `k`. -/
def get (m : FrozenMap K V) (k : K) : Option V := (m.entries.find? (fun e => e.1 = k)).map (·.2)

/-- Whether `k` is a key of `m`. -/
def contains (m : FrozenMap K V) (k : K) : Bool := (m.get k).isSome

def keys (m : FrozenMap K V) : List K := m.entries.map (·.1)
def values (m : FrozenMap K V) : List V := m.entries.map (·.2)
def size (m : FrozenMap K V) : ℕ := m.entries.length

/-! ## Lookup and membership -/

theorem find?_eq_some_iff_mem {l : List (K × V)} (h : SortedKeys l) (k : K) (v : V) :
    (l.find? (fun e => e.1 = k)).map (·.2) = some v ↔ (k, v) ∈ l := by
  induction l with
  | nil => simp
  | cons e l ih =>
    obtain ⟨a, b⟩ := e
    rw [SortedKeys, List.pairwise_cons] at h
    by_cases hk : a = k
    · subst hk
      have hnot : ∀ w, (a, w) ∉ l := fun w hw => lt_irrefl a (h.1 (a, w) hw)
      simp [hnot, eq_comm]
    · simp [hk, ih h.2, Ne.symm hk]

theorem get_eq_some_iff {m : FrozenMap K V} {k : K} {v : V} :
    m.get k = some v ↔ (k, v) ∈ m.entries := find?_eq_some_iff_mem m.sorted k v

theorem mem_keys_iff {m : FrozenMap K V} {k : K} : k ∈ m.keys ↔ ∃ v, m.get k = some v := by
  simp [keys, get_eq_some_iff]

theorem mem_values_iff {m : FrozenMap K V} {v : V} : v ∈ m.values ↔ ∃ k, m.get k = some v := by
  simp [values, get_eq_some_iff]

theorem contains_iff {m : FrozenMap K V} {k : K} : m.contains k = true ↔ ∃ v, m.get k = some v := by
  simp [contains, Option.isSome_iff_exists]

theorem contains_eq_false_iff {m : FrozenMap K V} {k : K} :
    m.contains k = false ↔ m.get k = none := by
  simp [contains]

theorem mem_keys_iff_contains {m : FrozenMap K V} {k : K} : k ∈ m.keys ↔ m.contains k = true := by
  rw [mem_keys_iff, contains_iff]

theorem keys_nodup (m : FrozenMap K V) : m.keys.Nodup := by
  rw [keys, List.Nodup, List.pairwise_map]
  exact m.sorted.imp ne_of_lt

theorem entries_nodup (m : FrozenMap K V) : m.entries.Nodup :=
  List.Nodup.of_map Prod.fst m.keys_nodup

/-- Maps with the same lookups are equal. -/
theorem ext_get {m n : FrozenMap K V} (h : ∀ k, m.get k = n.get k) : m = n := by
  have hmem : ∀ e, e ∈ m.entries ↔ e ∈ n.entries := by
    rintro ⟨k, v⟩
    rw [← get_eq_some_iff, ← get_eq_some_iff, h]
  have hperm : m.entries.Perm n.entries :=
    (List.perm_ext_iff_of_nodup m.entries_nodup n.entries_nodup).mpr hmem
  have heq : m.entries = n.entries :=
    hperm.eq_of_pairwise (fun a b _ _ hab hba => (lt_asymm hab hba).elim) m.sorted n.sorted
  cases m; cases n; simpa using heq

@[simp] theorem get_empty (k : K) : (∅ : FrozenMap K V).get k = none := rfl
@[simp] theorem entries_empty : (∅ : FrozenMap K V).entries = [] := rfl
@[simp] theorem size_empty : (∅ : FrozenMap K V).size = 0 := rfl
@[simp] theorem keys_empty : (∅ : FrozenMap K V).keys = [] := rfl

/-! ## Insertion -/

/-- Insert an entry at its place, replacing an entry with the same key. -/
def insertEntry (k : K) (v : V) : List (K × V) → List (K × V)
  | [] => [(k, v)]
  | (a, b) :: l =>
    if k < a then (k, v) :: (a, b) :: l
    else if k = a then (k, v) :: l
    else (a, b) :: insertEntry k v l

theorem mem_insertEntry_key {k : K} {v : V} {l : List (K × V)} {e : K × V}
    (h : e ∈ insertEntry k v l) : e.1 = k ∨ e ∈ l := by
  induction l with
  | nil => simp_all [insertEntry]
  | cons x l ih =>
    simp only [insertEntry] at h
    split_ifs at h <;> simp only [List.mem_cons] at h ⊢
    · rcases h with rfl | h <;> simp_all
    · rcases h with rfl | h <;> simp_all
    · rcases h with rfl | h
      · simp
      · rcases ih h with h | h <;> simp [h]

theorem sortedKeys_insertEntry (k : K) (v : V) {l : List (K × V)} (h : SortedKeys l) :
    SortedKeys (insertEntry k v l) := by
  induction l with
  | nil => simp [insertEntry, SortedKeys]
  | cons x l ih =>
    rw [SortedKeys, List.pairwise_cons] at h
    simp only [insertEntry]
    split_ifs with hlt heq
    · refine List.pairwise_cons.mpr ⟨?_, List.pairwise_cons.mpr h⟩
      intro e he
      rcases List.mem_cons.mp he with rfl | he
      · exact hlt
      · exact hlt.trans (h.1 e he)
    · refine List.pairwise_cons.mpr ⟨fun e he => ?_, h.2⟩
      exact heq ▸ h.1 e he
    · refine List.pairwise_cons.mpr ⟨fun e he => ?_, ih h.2⟩
      rcases mem_insertEntry_key he with rfl | he
      · exact lt_of_le_of_ne (not_lt.mp hlt) (Ne.symm heq)
      · exact h.1 e he

theorem find?_insertEntry (k k' : K) (v : V) (l : List (K × V)) :
    ((insertEntry k v l).find? (fun e => e.1 = k')).map (·.2) =
      if k' = k then some v else (l.find? (fun e => e.1 = k')).map (·.2) := by
  induction l with
  | nil => by_cases h : k = k' <;> simp [insertEntry, h, eq_comm]
  | cons x l ih =>
    simp only [insertEntry]
    split_ifs <;> grind

theorem length_insertEntry_le (k : K) (v : V) (l : List (K × V)) :
    (insertEntry k v l).length ≤ l.length + 1 := by
  induction l with
  | nil => simp [insertEntry]
  | cons x l ih => simp only [insertEntry]; split_ifs <;> simp; omega

/-- The map with `k` bound to `v`. -/
def insert (m : FrozenMap K V) (k : K) (v : V) : FrozenMap K V :=
  ⟨insertEntry k v m.entries, sortedKeys_insertEntry k v m.sorted⟩

theorem get_insert (m : FrozenMap K V) (k k' : K) (v : V) :
    (m.insert k v).get k' = if k' = k then some v else m.get k' :=
  find?_insertEntry k k' v m.entries

@[simp] theorem get_insert_self (m : FrozenMap K V) (k : K) (v : V) :
    (m.insert k v).get k = some v := by simp [get_insert]

theorem get_insert_of_ne (m : FrozenMap K V) {k k' : K} (v : V) (h : k' ≠ k) :
    (m.insert k v).get k' = m.get k' := by simp [get_insert, h]

theorem size_insert_le (m : FrozenMap K V) (k : K) (v : V) : (m.insert k v).size ≤ m.size + 1 :=
  length_insertEntry_le k v m.entries

/-- The map updated with every entry of a list, later entries winning. -/
def withUpdates (m : FrozenMap K V) (items : List (K × V)) : FrozenMap K V :=
  items.foldl (fun m e => m.insert e.1 e.2) m

@[simp] theorem withUpdates_nil (m : FrozenMap K V) : m.withUpdates [] = m := rfl
@[simp] theorem withUpdates_cons (m : FrozenMap K V) (e : K × V) (l : List (K × V)) :
    m.withUpdates (e :: l) = (m.insert e.1 e.2).withUpdates l := rfl

theorem get_withUpdates_of_notMem (m : FrozenMap K V) {items : List (K × V)} {k : K}
    (h : k ∉ items.map (·.1)) : (m.withUpdates items).get k = m.get k := by
  induction items generalizing m with
  | nil => rfl
  | cons e l ih =>
    simp only [List.map_cons, List.mem_cons, not_or] at h
    rw [withUpdates_cons, ih _ h.2, get_insert_of_ne _ _ h.1]

theorem get_withUpdates_mem (m : FrozenMap K V) {items : List (K × V)} {k : K}
    (h : k ∈ items.map (·.1)) : ∃ v, (k, v) ∈ items ∧ (m.withUpdates items).get k = some v := by
  induction items generalizing m with
  | nil => simp at h
  | cons e l ih =>
    by_cases hl : k ∈ l.map (·.1)
    · obtain ⟨v, hv, hget⟩ := ih (m.insert e.1 e.2) hl
      exact ⟨v, List.mem_cons_of_mem _ hv, hget⟩
    · have hk : k = e.1 := by simpa [hl] using h
      refine ⟨e.2, by simp [hk], ?_⟩
      rw [withUpdates_cons, get_withUpdates_of_notMem _ hl, hk, get_insert_self]

/-- Entries with distinct keys are the entries of the map that they build. -/
theorem entries_withUpdates_perm {items : List (K × V)} (h : (items.map (·.1)).Nodup) :
    ((∅ : FrozenMap K V).withUpdates items).entries.Perm items := by
  refine (List.perm_ext_iff_of_nodup (entries_nodup _) (List.Nodup.of_map _ h)).mpr ?_
  rintro ⟨k, v⟩
  rw [← get_eq_some_iff]
  by_cases hk : k ∈ items.map (·.1)
  · obtain ⟨w, hw, hget⟩ := get_withUpdates_mem ∅ hk
    rw [hget, Option.some.injEq]
    refine ⟨fun heq => heq ▸ hw, fun hv => ?_⟩
    exact congrArg Prod.snd (List.inj_on_of_nodup_map h hw hv rfl)
  · rw [get_withUpdates_of_notMem _ hk, get_empty]
    constructor
    · intro hv
      cases hv
    · intro hv
      exact absurd (List.mem_map_of_mem hv) hk

/-! ## Removal and rebuilding -/

/-- Keep the entries that `f` maps to a value, with that value. -/
def filterMap (m : FrozenMap K V) (f : K → V → Option W) : FrozenMap K W where
  entries := m.entries.filterMap (fun e => (f e.1 e.2).map (fun w => (e.1, w)))
  sorted := by
    refine List.Pairwise.filterMap _ ?_ m.sorted
    intro a b hab a' ha b' hb
    simp only [Option.map_eq_some_iff] at ha hb
    obtain ⟨_, _, rfl⟩ := ha
    obtain ⟨_, _, rfl⟩ := hb
    exact hab

theorem get_filterMap (m : FrozenMap K V) (f : K → V → Option W) (k : K) :
    (m.filterMap f).get k = (m.get k).bind (f k) := by
  refine Option.ext fun w => ?_
  rw [get_eq_some_iff, Option.bind_eq_some_iff]
  simp only [filterMap, List.mem_filterMap, Option.map_eq_some_iff, Prod.exists, Prod.mk.injEq]
  constructor
  · rintro ⟨a, b, hab, x, hx, rfl, rfl⟩
    exact ⟨b, get_eq_some_iff.mpr hab, hx⟩
  · rintro ⟨v, hv, hw⟩
    exact ⟨k, v, get_eq_some_iff.mp hv, w, hw, rfl, rfl⟩

theorem size_filterMap_le (m : FrozenMap K V) (f : K → V → Option W) :
    (m.filterMap f).size ≤ m.size := List.length_filterMap_le _ _

/-- The entries that satisfy `p`. -/
def restrict (m : FrozenMap K V) (p : K → V → Bool) : FrozenMap K V :=
  m.filterMap (fun k v => if p k v then some v else none)

theorem get_restrict (m : FrozenMap K V) (p : K → V → Bool) (k : K) :
    (m.restrict p).get k = (m.get k).filter (p k) := by
  rw [restrict, get_filterMap]
  cases m.get k <;> simp [Option.filter]

theorem size_restrict_le (m : FrozenMap K V) (p : K → V → Bool) : (m.restrict p).size ≤ m.size :=
  size_filterMap_le m _

/-- The map without the given keys. -/
def withoutKeys (m : FrozenMap K V) (ks : List K) : FrozenMap K V :=
  m.restrict (fun k _ => decide (k ∉ ks))

theorem get_withoutKeys (m : FrozenMap K V) (ks : List K) (k : K) :
    (m.withoutKeys ks).get k = if k ∈ ks then none else m.get k := by
  rw [withoutKeys, get_restrict]
  by_cases h : k ∈ ks <;> cases m.get k <;> simp [h, Option.filter]

theorem get_withoutKeys_eq_some {m : FrozenMap K V} {ks : List K} {k : K} {v : V} :
    (m.withoutKeys ks).get k = some v ↔ m.get k = some v ∧ k ∉ ks := by
  rw [get_withoutKeys]; split_ifs with h <;> simp [h]

@[simp] theorem get_withoutKeys_singleton_self (m : FrozenMap K V) (k : K) :
    (m.withoutKeys [k]).get k = none := by simp [get_withoutKeys]

theorem size_withoutKeys_le (m : FrozenMap K V) (ks : List K) : (m.withoutKeys ks).size ≤ m.size :=
  size_restrict_le m _

@[simp] theorem withoutKeys_nil (m : FrozenMap K V) : m.withoutKeys [] = m :=
  ext_get fun k => by simp [get_withoutKeys]

theorem withoutKeys_withoutKeys (m : FrozenMap K V) (ks ls : List K) :
    (m.withoutKeys ks).withoutKeys ls = m.withoutKeys (ks ++ ls) :=
  ext_get fun k => by
    by_cases hk : k ∈ ks <;> simp [get_withoutKeys, hk]

/-- A map whose keys all occur in another one has at most its size. -/
theorem size_le_of_keys_subset {m : FrozenMap K V} {n : FrozenMap K W}
    (h : ∀ k, m.contains k = true → n.contains k = true) : m.size ≤ n.size := by
  have hsub : m.keys ⊆ n.keys :=
    fun k hk => mem_keys_iff_contains.mpr (h k (mem_keys_iff_contains.mp hk))
  simpa [keys, size] using (List.subperm_of_subset m.keys_nodup hsub).length_le

/-- Rebinding a key adds no entry. -/
theorem size_insert_of_get {m : FrozenMap K V} {k : K} {v : V} (w : V) (h : m.get k = some v) :
    (m.insert k w).size ≤ m.size := by
  refine size_le_of_keys_subset fun l hl => ?_
  rw [contains_iff] at hl ⊢
  obtain ⟨x, hx⟩ := hl
  rw [get_insert] at hx
  split_ifs at hx with hlk
  · exact ⟨v, hlk ▸ h⟩
  · exact ⟨x, hx⟩

/-- Removing a key that is there removes an entry. -/
theorem size_withoutKeys_lt {m : FrozenMap K V} {ks : List K} {k : K} {v : V} (hk : k ∈ ks)
    (h : m.get k = some v) : (m.withoutKeys ks).size < m.size := by
  have hnot : k ∉ (m.withoutKeys ks).keys := by
    rw [mem_keys_iff, get_withoutKeys, if_pos hk]
    simp
  have hsub : (k :: (m.withoutKeys ks).keys) ⊆ m.keys := by
    intro l hl
    rw [mem_keys_iff]
    rcases List.mem_cons.mp hl with rfl | hl
    · exact ⟨v, h⟩
    · obtain ⟨x, hx⟩ := mem_keys_iff.mp hl
      exact ⟨x, (get_withoutKeys_eq_some.mp hx).1⟩
  have hlen := (List.subperm_of_subset (List.nodup_cons.mpr ⟨hnot, keys_nodup _⟩) hsub).length_le
  simp only [keys, List.length_cons, List.length_map] at hlen
  exact hlen

/-! ### One more entry -/

/-- The map with one more entry, or with none. -/
def withEntry (m : FrozenMap K V) : Option (K × V) → FrozenMap K V
  | none => m
  | some e => m.insert e.1 e.2

section

variable {m : FrozenMap K V} {entry : Option (K × V)}

@[simp] theorem withEntry_none : m.withEntry none = m := rfl

@[simp] theorem withEntry_some (e : K × V) : m.withEntry (some e) = m.insert e.1 e.2 := rfl

theorem get_withEntry_of_ne {k : K} (h : ∀ e ∈ entry, k ≠ e.1) :
    (m.withEntry entry).get k = m.get k := by
  cases entry with
  | none => rfl
  | some e => exact get_insert_of_ne _ _ (h e rfl)

theorem insert_withEntry {k : K} (v : V) (h : ∀ e ∈ entry, k ≠ e.1) :
    (m.withEntry entry).insert k v = (m.insert k v).withEntry entry := by
  cases entry with
  | none => rfl
  | some e =>
    refine ext_get fun l => ?_
    simp only [withEntry_some, get_insert]
    split_ifs with hk he
    · exact absurd (hk.symm.trans he) (h e rfl)
    · rfl
    · rfl
    · rfl

theorem withoutKeys_withEntry {ks : List K} (h : ∀ e ∈ entry, e.1 ∉ ks) :
    (m.withEntry entry).withoutKeys ks = (m.withoutKeys ks).withEntry entry := by
  cases entry with
  | none => rfl
  | some e =>
    refine ext_get fun l => ?_
    simp only [withEntry_some, get_insert, get_withoutKeys]
    split_ifs with hl he
    · exact absurd (he ▸ hl) (h e rfl)
    · rfl
    · rfl
    · rfl

/-- Binding a key to its own value changes nothing. -/
theorem insert_of_get {k : K} {v : V} (h : m.get k = some v) : m.insert k v = m := by
  refine ext_get fun l => ?_
  rw [get_insert]
  split_ifs with hl
  · rw [hl, h]
  · rfl

/-- Removing a new entry leaves the map as it was. -/
theorem withoutKeys_insert_of_none {k : K} {v : V} (h : m.get k = none) :
    (m.insert k v).withoutKeys [k] = m := by
  refine ext_get fun l => ?_
  simp only [get_withoutKeys, get_insert, List.mem_singleton]
  split_ifs with hl
  · rw [hl, h]
  · rfl

/-- A pass that keeps the entry as it is. -/
theorem filterMap_withEntry {f : K → V → Option V} (h : ∀ e ∈ entry, f e.1 e.2 = some e.2) :
    (m.withEntry entry).filterMap f = (m.filterMap f).withEntry entry := by
  cases entry with
  | none => rfl
  | some e =>
    refine ext_get fun l => ?_
    simp only [withEntry_some, get_filterMap, get_insert]
    split_ifs with hl
    · rw [hl]
      exact h e rfl
    · rfl

/-- A pass that drops the entry, new as it is. -/
theorem filterMap_withEntry_of_none {f : K → V → Option W} (h : ∀ e ∈ entry, f e.1 e.2 = none)
    (new : ∀ e ∈ entry, m.get e.1 = none) : (m.withEntry entry).filterMap f = m.filterMap f := by
  cases entry with
  | none => rfl
  | some e =>
    refine ext_get fun l => ?_
    simp only [withEntry_some, get_filterMap, get_insert]
    split_ifs with hl
    · rw [hl, new e rfl]
      exact h e rfl
    · rfl

theorem contains_withEntry {k : K} (h : m.contains k = true) :
    (m.withEntry entry).contains k = true := by
  rw [contains_iff] at h ⊢
  cases entry with
  | none => exact h
  | some e =>
    obtain ⟨v, hv⟩ := h
    rw [withEntry_some, get_insert]
    split_ifs
    · exact ⟨e.2, rfl⟩
    · exact ⟨v, hv⟩

theorem size_le_size_withEntry : m.size ≤ (m.withEntry entry).size :=
  size_le_of_keys_subset fun _ => contains_withEntry

theorem size_withEntry_le {m' : FrozenMap K V}
    (h : ∀ k, m.contains k = true → m'.contains k = true) :
    (m.withEntry entry).size ≤ (m'.withEntry entry).size := by
  refine size_le_of_keys_subset fun k hk => ?_
  cases entry with
  | none => exact h k hk
  | some e =>
    by_cases hke : k = e.1
    · exact contains_iff.mpr ⟨e.2, hke ▸ get_insert_self ..⟩
    · rw [contains_iff, withEntry_some, get_insert_of_ne _ _ hke, ← contains_iff] at hk ⊢
      exact h k hk

end

end FrozenMap

end MarketSupport.Library
