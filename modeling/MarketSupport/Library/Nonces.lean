import MarketSupport.Library.Runs

/-!
# Nonces

A system that takes its nonces from its inputs, where no two inputs of a run bring the same
one. Then a nonce that the state let go of never comes back, so what it names happens once.

## Main results

* `Nonce.drawn` — every nonce in a reachable state was brought by an input.
* `Nonce.spent` — a nonce that was drawn and is gone stays gone.
-/

namespace MarketSupport.Library

variable {σ ι ο ν : Type*} {sys : System σ ι ο} {adm : List (Event σ ι ο) → Event σ ι ο → Prop}
  {init s : σ} {es : List (Event σ ι ο)}

/-- Where the nonces of a system come from; `holds s n` says that the state carries `n`. -/
structure Nonce (sys : System σ ι ο) (adm : List (Event σ ι ο) → Event σ ι ο → Prop) (ν : Type*)
    where
  holds : σ → ν → Prop
  draw : ι → ν
  source : ∀ {s i n}, holds (sys.step s i).2 n → holds s n ∨ n = draw i
  fresh : ∀ {es e}, adm es e → ∀ e' ∈ es, draw e.input ≠ draw e'.input

namespace Nonce

variable (nonce : Nonce sys adm ν)

/-- Some event of the list brought the nonce. -/
def Drawn (es : List (Event σ ι ο)) (n : ν) : Prop := ∃ e ∈ es, nonce.draw e.input = n

theorem Drawn.append {nonce : Nonce sys adm ν} {n : ν} (h : nonce.Drawn es n)
    (es' : List (Event σ ι ο)) : nonce.Drawn (es ++ es') n := by
  obtain ⟨e, he, hdraw⟩ := h
  exact ⟨e, List.mem_append_left _ he, hdraw⟩

/-- The next admissible event brings another nonce. -/
theorem Drawn.ne {nonce : Nonce sys adm ν} {n : ν} (h : nonce.Drawn es n) {e : Event σ ι ο}
    (ok : adm es e) : n ≠ nonce.draw e.input := by
  obtain ⟨e', he', rfl⟩ := h
  exact (nonce.fresh ok e' he').symm

theorem drawn (run : Run sys adm init es s) (empty : ∀ n, ¬ nonce.holds init n) {n : ν}
    (h : nonce.holds s n) : nonce.Drawn es n := by
  refine run.invariant (P := fun es s => ∀ n, nonce.holds s n → nonce.Drawn es n)
    (fun n hn => absurd hn (empty n)) ?_ n h
  intro es s input _ _ ih n hn
  obtain hold | rfl := nonce.source hn
  · exact (ih n hold).append _
  · exact ⟨_, List.mem_append_right _ (List.mem_singleton_self _), rfl⟩

theorem spent {es₁ es₂ : List (Event σ ι ο)} {e : Event σ ι ο}
    (run : Run sys adm init (es₁ ++ e :: es₂) s) {n : ν} (drawn : nonce.Drawn (es₁ ++ [e]) n)
    (gone : ¬ nonce.holds e.after n) : ¬ nonce.holds s n := by
  refine run.persists (P := fun _ s => ¬ nonce.holds s n) gone ?_
  rintro es s input _ ⟨rest, rfl⟩ ok ih hn
  obtain hold | heq := nonce.source hn
  · exact ih hold
  · exact (drawn.append rest).ne ok heq

end Nonce

end MarketSupport.Library
