import MarketSupport.Library.FrozenMap

/-!
# Reverse indexes

An index of a map leads from an identifier of a value to its key. It is exact when it has
an entry for every value with an identifier and for no other, so no two values share one.

## Main results

* `Indexes.insert_new`, `Indexes.insert_keep`, `Indexes.insert_drop` — one per way an
  insertion can change the identifier under a key.
* `Indexes.filterMap` — rebuilding the map, with the identifiers of the removed values
  taken out of the index.
-/

namespace MarketSupport.Library

variable {I K V : Type*} [LinearOrder I] [LinearOrder K]

/-- `idx` maps an identifier to the key of the one value of `m` that carries it. -/
def Indexes (idx : FrozenMap I K) (m : FrozenMap K V) (f : V → Option I) : Prop :=
  ∀ i k, idx.get i = some k ↔ (m.get k).bind f = some i

namespace Indexes

variable {idx : FrozenMap I K} {m : FrozenMap K V} {f : V → Option I}

theorem empty (f : V → Option I) : Indexes (∅ : FrozenMap I K) ∅ f := by
  intro i k
  simp

theorem get_iff (h : Indexes idx m f) {i : I} {k : K} :
    idx.get i = some k ↔ ∃ v, m.get k = some v ∧ f v = some i := by
  rw [h, Option.bind_eq_some_iff]

theorem get_of_value (h : Indexes idx m f) {i : I} {k : K} {v : V} (hv : m.get k = some v)
    (hi : f v = some i) : idx.get i = some k := h.get_iff.mpr ⟨v, hv, hi⟩

/-- Two values of the map never share an identifier. -/
theorem key_unique (h : Indexes idx m f) {i : I} {k l : K} {v w : V} (hv : m.get k = some v)
    (hw : m.get l = some w) (hfv : f v = some i) (hfw : f w = some i) : k = l := by
  have hk := h.get_of_value hv hfv
  have hl := h.get_of_value hw hfw
  exact Option.some.inj (hk.symm.trans hl)

/-- A value that keeps the identifier of its key leaves the index as it is. -/
theorem insert_keep (h : Indexes idx m f) {k : K} {v : V} (same : (m.get k).bind f = f v) :
    Indexes idx (m.insert k v) f := by
  intro i l
  rw [h, FrozenMap.get_insert]
  split_ifs with hl
  · rw [hl, same, Option.bind_some]
  · rfl

/-- A value with a new identifier at a key without one gets an entry. -/
theorem insert_new (h : Indexes idx m f) {k : K} {v : V} {i : I} (old : (m.get k).bind f = none)
    (hv : f v = some i) (hi : idx.get i = none) : Indexes (idx.insert i k) (m.insert k v) f := by
  intro j l
  rw [FrozenMap.get_insert, FrozenMap.get_insert]
  by_cases hj : j = i
  · subst hj
    have hm : ∀ x, (m.get x).bind f ≠ some j := fun x hx => by simp [(h j x).mpr hx] at hi
    by_cases hl : l = k
    · simp [hl, hv]
    · simp [hl, hm l, Ne.symm hl]
  · by_cases hl : l = k
    · subst hl
      have hn : idx.get j ≠ some l := fun hx => by simp [(h j l).mp hx] at old
      simp [hj, hn, hv, Ne.symm hj]
    · simpa [hj, hl] using h j l

/-- A value without an identifier takes the entry of its key away. -/
theorem insert_drop (h : Indexes idx m f) {k : K} {v : V} {i : I} (old : (m.get k).bind f = some i)
    (hv : f v = none) : Indexes (idx.withoutKeys [i]) (m.insert k v) f := by
  intro j l
  rw [FrozenMap.get_withoutKeys_eq_some, FrozenMap.get_insert, h j l, List.mem_singleton]
  by_cases hl : l = k
  · subst hl
    simp only [old, hv, Option.bind_some, if_true, Option.some.injEq, reduceCtorEq, iff_false,
      not_and, not_not]
    exact fun hij => hij.symm
  · have hne : (m.get l).bind f = some j → j ≠ i := by
      rintro hj rfl
      have hik := (h j k).mpr old
      have hil := (h j l).mpr hj
      exact hl (Option.some.inj (hil.symm.trans hik))
    simpa [hl] using hne

/-- Rebuilding the map with `g`, which keeps identifiers, and dropping from the index the
identifiers of the values that `g` removes. -/
theorem filterMap (h : Indexes idx m f) {g : K → V → Option V} {removed : List I}
    (keeps : ∀ k v w, m.get k = some v → g k v = some w → f w = f v)
    (hremoved : ∀ i, i ∈ removed ↔ ∃ k v, m.get k = some v ∧ g k v = none ∧ f v = some i) :
    Indexes (idx.withoutKeys removed) (m.filterMap g) f := by
  intro i k
  rw [FrozenMap.get_withoutKeys_eq_some, FrozenMap.get_filterMap, h.get_iff]
  constructor
  · rintro ⟨⟨v, hv, hi⟩, hnot⟩
    cases hg : g k v with
    | none => exact absurd ((hremoved i).mpr ⟨k, v, hv, hg, hi⟩) hnot
    | some w => simp [hv, hg, keeps k v w hv hg, hi]
  · intro hget
    obtain ⟨w, hw, hi⟩ := Option.bind_eq_some_iff.mp hget
    obtain ⟨v, hv, hg⟩ := Option.bind_eq_some_iff.mp hw
    have hfv : f v = some i := (keeps k v w hv hg).symm.trans hi
    refine ⟨⟨v, hv, hfv⟩, fun hmem => ?_⟩
    obtain ⟨l, u, hu, hgu, hfu⟩ := (hremoved i).mp hmem
    obtain rfl := h.key_unique hv hu hfv hfu
    simp_all

/-- Removing one value and its identifier. -/
theorem withoutKey (h : Indexes idx m f) {k : K} {v : V} (hv : m.get k = some v) :
    Indexes (idx.withoutKeys (f v).toList) (m.withoutKeys [k]) f := by
  refine h.filterMap ?_ ?_
  · intro l u w _ hg
    split_ifs at hg
    cases hg
    rfl
  · intro i
    simp only [Option.mem_toList, List.mem_singleton, decide_not, Bool.not_eq_eq_eq_not,
      Bool.not_true, decide_eq_false_iff_not, ite_eq_right_iff, reduceCtorEq, imp_false, not_not]
    constructor
    · exact fun hi => ⟨k, v, hv, rfl, hi⟩
    · rintro ⟨l, u, hu, rfl, hi⟩
      rwa [← Option.some.inj (hu.symm.trans hv)]

end Indexes

end MarketSupport.Library
