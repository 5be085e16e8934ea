import Mathlib.Logic.Function.Basic
import Mathlib.Order.Lattice

/-!
# Caches with a time to live

An entry is returned until its time is over. Against the writes that were made to it, a cache
returns what was written and is still live, as long as nothing is written over a live value.

## Main results

* `Reflects.get`, `Reflects.set` — reading and storing keep a cache in step with the writes.
* `Reflects.get_eq_some_iff` — what is returned is what was written and is live.
-/

namespace MarketSupport.Library

variable {κ τ ν : Type*}

structure TtlEntry (τ ν : Type*) where
  expiresAt : τ
  value : ν
  deriving DecidableEq, Repr

/-- The entries of a cache, by their keys. -/
abbrev TtlStore (κ τ ν : Type*) := κ → Option (TtlEntry τ ν)

namespace TtlStore

/-- The cache without entries. -/
def empty : TtlStore κ τ ν := fun _ => none

variable [DecidableEq κ] [LinearOrder τ]

/-- The value of a key, and the cache without the entry when its time is over. -/
def get (store : TtlStore κ τ ν) (now : τ) (key : κ) : Option ν × TtlStore κ τ ν :=
  match store key with
  | none => (none, store)
  | some entry =>
    if entry.expiresAt ≤ now then (none, Function.update store key none)
    else (some entry.value, store)

/-- Store a value for a positive time. -/
def set [Add τ] [Zero τ] (store : TtlStore κ τ ν) (now ttl : τ) (key : κ) (value : ν) :
    TtlStore κ τ ν :=
  if ttl ≤ 0 then store else Function.update store key (some ⟨now + ttl, value⟩)

variable {store : TtlStore κ τ ν} {now : τ} {key other : κ} {value : ν} {entry : TtlEntry τ ν}

theorem get_fst_eq_some_iff : (store.get now key).1 = some value ↔
    ∃ entry, store key = some entry ∧ now < entry.expiresAt ∧ entry.value = value := by
  unfold TtlStore.get
  cases hentry : store key with
  | none => simp
  | some entry =>
    by_cases hover : entry.expiresAt ≤ now
    · simp [hover, hover.not_gt]
    · simp [hover, not_le.mp hover]

/-- Reading takes away what is over, and nothing else. -/
theorem get_snd_eq_some_iff : (store.get now key).2 other = some entry ↔
    store other = some entry ∧ (other = key → now < entry.expiresAt) := by
  unfold TtlStore.get
  cases hentry : store key with
  | none =>
    refine ⟨fun h => ⟨h, ?_⟩, And.left⟩
    rintro rfl
    simp [hentry] at h
  | some found =>
    dsimp only
    by_cases hover : found.expiresAt ≤ now
    · rw [if_pos hover]
      by_cases hother : other = key
      · subst hother
        simp only [Function.update_self, hentry, Option.some.injEq, true_imp_iff]
        refine iff_of_false nofun ?_
        rintro ⟨rfl, hlive⟩
        exact hlive.not_ge hover
      · simp [hother]
    · rw [if_neg hover]
      refine ⟨fun h => ⟨h, ?_⟩, And.left⟩
      rintro rfl
      obtain rfl := Option.some.inj (hentry.symm.trans h)
      exact not_le.mp hover

theorem set_eq [Add τ] [Zero τ] {ttl : τ} (h : 0 < ttl) :
    store.set now ttl key value = Function.update store key (some ⟨now + ttl, value⟩) :=
  if_neg h.not_ge

end TtlStore

/-! ## The writes of a cache -/

/-- A cache against the writes that were made to it, at a time: its entries were written, and
what was written, is kept and is live is there. -/
structure Reflects (kept : ν → Prop) (writes : List (κ × TtlEntry τ ν)) [LT τ] (now : τ)
    (store : TtlStore κ τ ν) : Prop where
  written : ∀ key entry, store key = some entry → (key, entry) ∈ writes
  live : ∀ key entry, (key, entry) ∈ writes → kept entry.value → now < entry.expiresAt →
    store key = some entry

namespace Reflects

variable [LinearOrder τ] {kept : ν → Prop} {writes : List (κ × TtlEntry τ ν)} {now later : τ}
  {store : TtlStore κ τ ν} {key : κ} {value : ν}

theorem empty : Reflects kept [] now (TtlStore.empty : TtlStore κ τ ν) := ⟨nofun, nofun⟩

theorem mono (h : Reflects kept writes now store) (hle : now ≤ later) :
    Reflects kept writes later store :=
  ⟨h.written, fun key entry hmem hkept hlive => h.live key entry hmem hkept (hle.trans_lt hlive)⟩

variable [DecidableEq κ]

theorem get (h : Reflects kept writes now store) :
    Reflects kept writes now (store.get now key).2 where
  written _ _ hentry := h.written _ _ (TtlStore.get_snd_eq_some_iff.mp hentry).1
  live other entry hmem hkept hlive :=
    TtlStore.get_snd_eq_some_iff.mpr ⟨h.live other entry hmem hkept hlive, fun _ => hlive⟩

/-- What is returned and kept was written, and is live. -/
theorem get_eq_some_iff (h : Reflects kept writes now store) (hkept : kept value) :
    (store.get now key).1 = some value ↔
      ∃ entry, (key, entry) ∈ writes ∧ now < entry.expiresAt ∧ entry.value = value := by
  rw [TtlStore.get_fst_eq_some_iff]
  constructor
  · rintro ⟨entry, hentry, hlive, hvalue⟩
    exact ⟨entry, h.written key entry hentry, hlive, hvalue⟩
  · rintro ⟨entry, hmem, hlive, rfl⟩
    exact ⟨entry, h.live key entry hmem hkept hlive, hlive, rfl⟩

/-- A write under a key of which nothing that is kept is live. -/
theorem set [Add τ] [Zero τ] {ttl : τ} (h : Reflects kept writes now store) (hle : now ≤ later)
    (httl : 0 < ttl) (hover : ∀ entry, (key, entry) ∈ writes → kept entry.value →
      entry.expiresAt ≤ now) :
    Reflects kept (writes ++ [(key, ⟨later + ttl, value⟩)]) later
      (store.set later ttl key value) := by
  rw [TtlStore.set_eq httl]
  constructor
  · intro other entry hentry
    by_cases hother : other = key
    · subst hother
      rw [Function.update_self, Option.some.injEq] at hentry
      exact List.mem_append_right _ (by simp [hentry])
    · rw [Function.update_of_ne hother] at hentry
      exact List.mem_append_left _ (h.written other entry hentry)
  · intro other entry hmem hkept hlive
    obtain hold | hnew := List.mem_append.mp hmem
    · have hother : other ≠ key := by
        rintro rfl
        exact (hle.trans_lt hlive).not_ge (hover entry hold hkept)
      rw [Function.update_of_ne hother]
      exact h.live other entry hold hkept (hle.trans_lt hlive)
    · obtain ⟨rfl, rfl⟩ := Prod.mk.inj (List.mem_singleton.mp hnew)
      rw [Function.update_self]

end Reflects

end MarketSupport.Library
