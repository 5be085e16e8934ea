import Mathlib.Data.List.Perm.Subperm
import MarketSupport.Library.Runs
import MarketSupport.Prompts.SelectorCache

/-!
# Cached selections

Within a turn, a selector asks its provider again only when four other inputs were used since the
input was, or when it was never answered.

## Main results

* `selector_outcome` — when a selector answers from the cache, and with what.
* `selector_asked_once` — a turn with at most four inputs has each of them answered once.
-/

namespace MarketSupport

open Library TurnSelectorOutcomeCacheV1

variable {ν ε : Type*}

/-- The selector calls of a turn. -/
def selectorSystem (nothing : ν) :
    System (TurnSelectorOutcomeCacheV1 ν) (SelectorRequest ε ν) (SelectorOutcome ε ν) where
  step cache request :=
    ((directSelect nothing (some cache) request).1,
    (directSelect nothing (some cache) request).2.getD cache)

abbrev SelectorEvent (ε ν : Type*) :=
  Event (TurnSelectorOutcomeCacheV1 ν) (SelectorRequest ε ν) (SelectorOutcome ε ν)

/-- The input of a call and its selection, when there is one. -/
def usedBy (e : SelectorEvent ε ν) : Option (String × ν) :=
  if e.input.asks then
    match e.output.result with
    | .ok selection => some (e.input.sih1, selection)
    | .error _ => none
  else none

/-- The inputs that were answered, the last one first. -/
def answered (es : List (SelectorEvent ε ν)) : List (String × ν) := (es.filterMap usedBy).reverse

theorem usedBy_eq_some {nothing : ν} {cache : TurnSelectorOutcomeCacheV1 ν}
    {request : SelectorRequest ε ν} {use : String × ν}
    (h : usedBy ((selectorSystem nothing).event cache request) = some use) :
    request.asks = true ∧ use.1 = request.sih1 ∧
      ((selectorSystem nothing).step cache request).1.result = .ok use.2 := by
  unfold usedBy at h
  split_ifs at h with hasks
  split at h
  · next selection hresult =>
    obtain rfl := Option.some.inj h
    exact ⟨hasks, rfl, hresult⟩
  · cases h

/-- The last answer to an input, unless four other inputs were answered since. -/
def Remembered (history : List (String × ν)) (sih1 : String) (selection : ν) : Prop :=
  ∃ newer older, history = newer ++ (sih1, selection) :: older ∧ sih1 ∉ newer.map Prod.fst ∧
    (newer.map Prod.fst).dedup.length < maxEntries

theorem answered_snoc (es : List (SelectorEvent ε ν)) (e : SelectorEvent ε ν) :
    answered (es ++ [e]) = (usedBy e).toList ++ answered es := by
  unfold answered
  rw [List.filterMap_append, List.reverse_append]
  cases h : usedBy e <;> simp [h]

section Step

variable {nothing : ν} {cache : TurnSelectorOutcomeCacheV1 ν} {history : List (String × ν)}
  {request : SelectorRequest ε ν} {selection : ν}

theorem Remembered.lookup_iff (h : cache.Keeps history) :
    cache.entries.lookup request.sih1 = some selection ↔
      Remembered history request.sih1 selection := by
  rw [h.lookup]
  exact Lru.lookup_take_recent_eq_some_iff

/-- A remembered input is answered from the cache, and used once more. -/
theorem step_remembered (nothing : ν) (h : cache.Keeps history) (hasks : request.asks = true)
    (hremembered : Remembered history request.sih1 selection) :
    ((selectorSystem nothing).step cache request).1 = ⟨.ok selection, false⟩ ∧
      ((selectorSystem nothing).step cache request).2.Keeps
        ((request.sih1, selection) :: history) := by
  obtain ⟨hget, hkeeps⟩ := h.get_some ((Remembered.lookup_iff h).mpr hremembered)
  have hpair : cache.get request.sih1 = (some selection, (cache.get request.sih1).2) := by
    rw [← hget]
  simp only [selectorSystem, directSelect, hasks, Bool.not_true, Bool.false_eq_true, if_false]
  rw [hpair]
  exact ⟨rfl, hkeeps⟩

/-- Another input is answered by the provider. -/
theorem step_forgotten (nothing : ν) (h : cache.Keeps history) (hasks : request.asks = true)
    (hforgotten : ¬∃ selection, Remembered history request.sih1 selection) :
    ((selectorSystem nothing).step cache request).1 = ⟨request.answer, true⟩ ∧
      ((selectorSystem nothing).step cache request).2.Keeps
        ((usedBy ((selectorSystem nothing).event cache request)).toList ++ history) := by
  have hlookup : cache.entries.lookup request.sih1 = none := by
    rw [Option.eq_none_iff_forall_ne_some]
    intro selection hsome
    exact hforgotten ⟨selection, (Remembered.lookup_iff h).mp hsome⟩
  have hget := Keeps.get_none hlookup
  cases hanswer : request.answer with
  | error e =>
    have hstep : (selectorSystem nothing).step cache request = (⟨.error e, true⟩, cache) := by
      simp [selectorSystem, directSelect, hasks, hget, hanswer]
    rw [usedBy, System.event, hstep]
    simpa [hasks] using h
  | ok selection =>
    have hstep : (selectorSystem nothing).step cache request =
        (⟨.ok selection, true⟩, cache.put request.sih1 selection) := by
      simp [selectorSystem, directSelect, hasks, hget, hanswer]
    rw [usedBy, System.event, hstep]
    simpa [hasks] using h.put request.sih1 selection

/-- One call keeps what the cache is about. -/
theorem step_keeps (nothing : ν) (h : cache.Keeps history) (request : SelectorRequest ε ν) :
    ((selectorSystem nothing).event cache request).after.Keeps
      ((usedBy ((selectorSystem nothing).event cache request)).toList ++ history) := by
  by_cases hasks : request.asks = true
  · by_cases hremembered : ∃ selection, Remembered history request.sih1 selection
    · obtain ⟨selection, hremembered⟩ := hremembered
      obtain ⟨houtput, hkeeps⟩ := step_remembered nothing h hasks hremembered
      have hused : usedBy ((selectorSystem nothing).event cache request) = some
        (request.sih1, selection) := by
        simp [usedBy, System.event, houtput, hasks]
      rw [hused]
      exact hkeeps
    · exact (step_forgotten nothing h hasks hremembered).2
  · have hused : usedBy ((selectorSystem nothing).event cache request) = none := by
      simp [usedBy, System.event, hasks]
    have hafter : ((selectorSystem nothing).event cache request).after = cache := by
      simp [System.event, selectorSystem, directSelect, hasks]
    rw [hused, hafter]
    exact h

end Step

section Turn

variable {nothing : ν} {es es₁ es₂ : List (SelectorEvent ε ν)} {e : SelectorEvent ε ν}
  {cache : TurnSelectorOutcomeCacheV1 ν} {request : SelectorRequest ε ν} {selection : ν}

abbrev SelectorCalls (nothing : ν) (es : List (SelectorEvent ε ν))
    (cache : TurnSelectorOutcomeCacheV1 ν) : Prop :=
  Run (selectorSystem nothing) (fun _ _ => True) TurnSelectorOutcomeCacheV1.new es cache

/-- The cache has the inputs that were answered last. -/
theorem selector_keeps (run : SelectorCalls nothing es cache) : cache.Keeps (answered es) := by
  refine run.invariant (P := fun es cache => cache.Keeps (answered es)) keeps_new ?_
  intro es cache request _ _ h
  rw [answered_snoc]
  exact step_keeps nothing h request

/-- A selector answers an input from the cache, with its last answer, exactly when fewer than four
other inputs were answered since; otherwise it asks the provider. -/
theorem selector_outcome (run : SelectorCalls nothing es cache) (hasks : request.asks = true) :
    (∀ selection, Remembered (answered es) request.sih1 selection →
      ((selectorSystem nothing).step cache request).1 = ⟨.ok selection, false⟩) ∧
    ((¬∃ selection, Remembered (answered es) request.sih1 selection) →
      ((selectorSystem nothing).step cache request).1 = ⟨request.answer, true⟩) := by
  have h := selector_keeps run
  constructor
  · intro selection hremembered
    exact (step_remembered nothing h hasks hremembered).1
  · intro hforgotten
    exact (step_forgotten nothing h hasks hforgotten).1

/-- An input that the provider answers with the number. -/
def answeredInput (sih1 : String) (selection : ℕ) : SelectorRequest String ℕ :=
  ⟨true, sih1, .ok selection⟩

/-- Five inputs, of which the last displaces the first. -/
def fiveInputs : List (SelectorRequest String ℕ) :=
  [answeredInput "sih1:a" 7, answeredInput "sih1:b" 1, answeredInput "sih1:c" 2,
    answeredInput "sih1:d" 3, answeredInput "sih1:e" 4]

/-- After five inputs, the second is answered from the cache, and the first is asked again. -/
theorem selector_outcome_displaced :
    let turn := (selectorSystem 0).trace [] TurnSelectorOutcomeCacheV1.new fiveInputs
    ((selectorSystem 0).step turn.2 (answeredInput "sih1:b" 8)).1 = ⟨.ok 1, false⟩ ∧
      ((selectorSystem 0).step turn.2 (answeredInput "sih1:a" 8)).1 = ⟨.ok 8, true⟩ := by
  intro turn
  have run : SelectorCalls 0 turn.1 turn.2 :=
    ((((Run.nil.snoc _ trivial).snoc _ trivial).snoc _ trivial).snoc _ trivial).snoc _ trivial
  have hanswered : answered turn.1 =
      [("sih1:e", 4), ("sih1:d", 3), ("sih1:c", 2), ("sih1:b", 1), ("sih1:a", 7)] := rfl
  refine ⟨(selector_outcome run rfl).1 1 ?_, (selector_outcome run rfl).2 ?_⟩
  · exact ⟨[("sih1:e", 4), ("sih1:d", 3), ("sih1:c", 2)], [("sih1:a", 7)], hanswered, by decide,
      by decide⟩
  · rintro ⟨selection, newer, older, heq, habsent, hlt⟩
    rw [hanswered] at heq
    -- The four inputs after the first one all stand before its last answer.
    rcases newer with _ | ⟨e, _ | ⟨d, _ | ⟨c, _ | ⟨b, newer⟩⟩⟩⟩
    all_goals simp only [answeredInput, List.nil_append, List.cons_append, List.cons.injEq,
      Prod.mk.injEq, String.reduceEq, false_and, and_false] at heq
    obtain ⟨rfl, rfl, rfl, rfl, htail⟩ := heq
    cases newer with
    | nil => exact absurd hlt (by decide)
    | cons a newer =>
      obtain rfl := (List.cons.inj htail).1
      exact habsent (by simp [answeredInput])

/-! ## Few inputs -/

/-- How many inputs were answered. -/
def distinctInputs (es : List (SelectorEvent ε ν)) : ℕ := ((answered es).map Prod.fst).dedup.length

theorem distinctInputs_le_append (es es' : List (SelectorEvent ε ν)) :
    distinctInputs es ≤ distinctInputs (es ++ es') := by
  have hsub : ((answered es).map Prod.fst).dedup ⊆ ((answered (es ++ es')).map Prod.fst).dedup := by
    intro k hk
    rw [List.mem_dedup] at hk ⊢
    unfold answered at hk ⊢
    rw [List.filterMap_append, List.reverse_append, List.map_append]
    exact List.mem_append_right _ hk
  exact (List.subperm_of_subset (List.nodup_dedup _) hsub).length_le

/-- With at most four inputs, the last answer to an input is remembered. -/
theorem remembered_of_lookup {history : List (String × ν)} {sih1 : String}
    (hfew : (history.map Prod.fst).dedup.length ≤ maxEntries)
    (hlast : history.lookup sih1 = some selection) : Remembered history sih1 selection := by
  have hmem : sih1 ∈ history.map Prod.fst := by
    obtain ⟨before, after, rfl, -⟩ := List.lookup_eq_some_iff.mp hlast
    simp
  obtain ⟨newer, last, older, rfl, habsent⟩ := Lru.exists_last_use hmem
  rw [Lru.lookup_append_of_absent habsent, List.lookup_cons_self] at hlast
  obtain rfl := Option.some.inj hlast
  refine ⟨newer, older, rfl, habsent, ?_⟩
  have hnodup : (sih1 :: (newer.map Prod.fst).dedup).Nodup := by
    rw [List.nodup_cons, List.mem_dedup]
    exact ⟨habsent, List.nodup_dedup _⟩
  have hsub : (sih1 :: (newer.map Prod.fst).dedup) ⊆
      ((newer ++ (sih1, last) :: older).map Prod.fst).dedup := by
    intro k hk
    rw [List.mem_dedup, List.map_append, List.mem_append]
    obtain rfl | hk := List.mem_cons.mp hk
    · exact .inr List.mem_cons_self
    · exact .inl (List.mem_dedup.mp hk)
  have hlength := (List.subperm_of_subset hnodup hsub).length_le
  rw [List.length_cons] at hlength
  omega

/-- In a turn with at most four inputs, an input that was answered keeps its answer, and its
provider is not asked again. -/
theorem selector_asked_once {sih1 : String}
    (run : SelectorCalls nothing (es₁ ++ e :: es₂) cache)
    (hused : usedBy e = some (sih1, selection))
    (hfew : distinctInputs (es₁ ++ e :: es₂) ≤ maxEntries) (hasks : request.asks = true)
    (hsame : request.sih1 = sih1) :
    ((selectorSystem nothing).step cache request).1 = ⟨.ok selection, false⟩ := by
  have hlast : distinctInputs (es₁ ++ e :: es₂) ≤ maxEntries →
      (answered (es₁ ++ e :: es₂)).lookup sih1 = some selection := by
    refine run.persists (P := fun es _ => distinctInputs es ≤ maxEntries →
      (answered es).lookup sih1 = some selection) ?_ ?_
    · intro _
      rw [answered_snoc, hused]
      exact List.lookup_cons_self
    · intro es cache request before _ _ hkept hfew
      have hlast := hkept (Nat.le_trans (distinctInputs_le_append es _) hfew)
      rw [answered_snoc]
      cases hnext : usedBy ((selectorSystem nothing).event cache request) with
      | none => exact hlast
      | some use =>
        obtain ⟨hasks, hinput, hresult⟩ := usedBy_eq_some hnext
        by_cases hkey : use.1 = sih1
        · -- the input is still remembered, so its selection comes from the cache
          have hremembered := remembered_of_lookup
            (Nat.le_trans (distinctInputs_le_append es _) hfew) hlast
          rw [← hkey, hinput] at hremembered
          have houtput := (step_remembered nothing (selector_keeps before) hasks hremembered).1
          rw [houtput] at hresult
          obtain rfl := Except.ok.inj hresult
          rw [← hkey]
          exact List.lookup_cons_self
        · have hbeq : (sih1 == use.1) = false := beq_eq_false_iff_ne.mpr fun h => hkey h.symm
          rw [Option.toList_some, List.singleton_append, List.lookup_cons, hbeq]
          exact hlast
  refine (step_remembered nothing (selector_keeps run) hasks ?_).1
  rw [hsame]
  exact remembered_of_lookup hfew (hlast hfew)

theorem selector_asked_once_between :
    let first := (selectorSystem 0).event TurnSelectorOutcomeCacheV1.new (answeredInput "sih1:a" 7)
    let second := (selectorSystem 0).event first.after (answeredInput "sih1:b" 9)
    ((selectorSystem 0).step second.after (answeredInput "sih1:a" 8)).1 = ⟨.ok 7, false⟩ := by
  intro first second
  have run : SelectorCalls 0 ([] ++ first :: [second]) second.after :=
    .snoc (.snoc .nil _ trivial) _ trivial
  exact selector_asked_once run (rfl : usedBy first = some ("sih1:a", 7)) (by decide) rfl rfl

end Turn

end MarketSupport
