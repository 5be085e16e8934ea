import Mathlib.Data.List.Infix

/-!
# Runs of a deterministic system

A system answers every input in every state. A run records its events in order, each one
admissible after the events before it, so the assumptions on an environment (fresh
tokens, a clock that does not go back) are conditions on the next event.

## Main results

* `Run.invariant` — what holds at the start and is kept by every admissible event holds
  after every run.
* `Run.persists` — what an event establishes and every later event keeps holds at the end.
* `Unwinding.outputs` — noninterference: hidden inputs can be deleted from a run.
-/

namespace MarketSupport.Library

/-- A system whose `step` answers an input and moves to the next state. -/
structure System (σ ι ο : Type*) where
  step : σ → ι → ο × σ

/-- One step of a run, with the states around it. -/
structure Event (σ ι ο : Type*) where
  before : σ
  input : ι
  output : ο
  after : σ

variable {σ ι ο : Type*}

/-- The event of `input` in state `s`. -/
def System.event (sys : System σ ι ο) (s : σ) (input : ι) : Event σ ι ο :=
  ⟨s, input, (sys.step s input).1, (sys.step s input).2⟩

/-- Runs from `init` whose every event is admissible after its predecessors. -/
inductive Run (sys : System σ ι ο) (adm : List (Event σ ι ο) → Event σ ι ο → Prop) (init : σ) :
    List (Event σ ι ο) → σ → Prop where
  | nil : Run sys adm init [] init
  | snoc {es : List (Event σ ι ο)} {s : σ} (run : Run sys adm init es s) (input : ι)
      (ok : adm es (sys.event s input)) :
      Run sys adm init (es ++ [sys.event s input]) (sys.event s input).after

namespace Run

variable {sys : System σ ι ο} {adm adm' : List (Event σ ι ο) → Event σ ι ο → Prop} {init s : σ}
  {es : List (Event σ ι ο)}

/-- The invariant rule, for invariants that may speak about the history. -/
theorem invariant {P : List (Event σ ι ο) → σ → Prop} (h : Run sys adm init es s) (base : P [] init)
    (step : ∀ es s input, Run sys adm init es s → adm es (sys.event s input) → P es s →
      P (es ++ [sys.event s input]) (sys.event s input).after) : P es s := by
  induction h with
  | nil => exact base
  | snoc run input ok ih => exact step _ _ input run ok ih

/-- A run stays a run when its environment is less constrained. -/
theorem mono (h : Run sys adm init es s) (hadm : ∀ es e, adm es e → adm' es e) :
    Run sys adm' init es s := by
  induction h with
  | nil => exact .nil
  | snoc _ input ok ih => exact .snoc ih input (hadm _ _ ok)

/-- What every event of a run satisfies can be asked of its environment. -/
theorem strengthen {Q : Event σ ι ο → Prop} (h : Run sys adm init es s) (hQ : ∀ e ∈ es, Q e) :
    Run sys (fun es e => adm es e ∧ Q e) init es s := by
  induction h with
  | nil => exact .nil
  | snoc _ input ok ih =>
    have hlast := hQ _ (List.mem_append_right _ (List.mem_singleton_self _))
    exact .snoc (ih fun e he => hQ e (List.mem_append_left _ he)) input ⟨ok, hlast⟩

/-- An event inside a run was admissible after the events before it. -/
theorem split {es₁ es₂ : List (Event σ ι ο)} {e : Event σ ι ο}
    (h : Run sys adm init (es₁ ++ e :: es₂) s) :
    Run sys adm init es₁ e.before ∧ adm es₁ e ∧ e = sys.event e.before e.input ∧
      Run sys adm init (es₁ ++ [e]) e.after := by
  generalize hes : es₁ ++ e :: es₂ = l at h
  induction h generalizing es₂ with
  | nil => simp at hes
  | @snoc l s run input ok ih =>
    rcases es₂.eq_nil_or_concat with rfl | ⟨es₂, x, rfl⟩
    · obtain ⟨rfl, heq⟩ := List.append_inj' hes rfl
      obtain rfl : e = sys.event s input := by simpa using heq
      exact ⟨run, ok, rfl, .snoc run input ok⟩
    · have hes' : (es₁ ++ e :: es₂) ++ [x] = l ++ [sys.event s input] := by simpa using hes
      exact ih (List.append_inj_left' hes' rfl)

/-- What holds right after an event and is kept by every later one holds at the end. -/
theorem persists {P : List (Event σ ι ο) → σ → Prop} {es₁ es₂ : List (Event σ ι ο)}
    {e : Event σ ι ο} (h : Run sys adm init (es₁ ++ e :: es₂) s) (base : P (es₁ ++ [e]) e.after)
    (step : ∀ es s input, Run sys adm init es s → es₁ ++ [e] <+: es →
      adm es (sys.event s input) → P es s →
      P (es ++ [sys.event s input]) (sys.event s input).after) :
    P (es₁ ++ e :: es₂) s := by
  generalize hes : es₁ ++ e :: es₂ = l at h
  induction h generalizing es₂ with
  | nil => simp at hes
  | @snoc l s run input ok ih =>
    rcases es₂.eq_nil_or_concat with rfl | ⟨es₂, x, rfl⟩
    · obtain ⟨rfl, heq⟩ := List.append_inj' hes rfl
      obtain rfl : e = sys.event s input := by simpa using heq
      exact base
    · have hes' : (es₁ ++ e :: es₂) ++ [x] = l ++ [sys.event s input] := by simpa using hes
      have hl : es₁ ++ e :: es₂ = l := List.append_inj_left' hes' rfl
      exact step _ _ input run ⟨es₂, by simp [← hl]⟩ ok (ih hl)

/-- What holds right after an event and is kept by each of the later ones holds at the end. -/
theorem persists_mem {P : σ → Prop} {es₁ es₂ : List (Event σ ι ο)} {e : Event σ ι ο}
    (h : Run sys adm init (es₁ ++ e :: es₂) s) (base : P e.after)
    (step : ∀ es s input, Run sys adm init es s → adm es (sys.event s input) →
      sys.event s input ∈ es₂ → P s → P (sys.event s input).after) : P s := by
  generalize hes : es₁ ++ e :: es₂ = l at h
  induction h generalizing es₂ with
  | nil => simp at hes
  | @snoc l s run input ok ih =>
    rcases es₂.eq_nil_or_concat with rfl | ⟨es₂, x, rfl⟩
    · obtain ⟨rfl, heq⟩ := List.append_inj' hes rfl
      obtain rfl : e = sys.event s input := by simpa using heq
      exact base
    · have hes' : (es₁ ++ e :: es₂) ++ [x] = l ++ [sys.event s input] := by simpa using hes
      obtain ⟨hl, hx⟩ := List.append_inj' hes' rfl
      obtain rfl : x = sys.event s input := by simpa using hx
      exact step _ _ input run ok (by simp) (ih (fun es s input hrun hok hmem =>
        step es s input hrun hok (by simp [hmem])) hl)

end Run

/-- The event `e₂` comes after `e₁`, with the events `mid` between them. -/
def Between (es : List (Event σ ι ο)) (e₁ : Event σ ι ο) (mid : List (Event σ ι ο))
    (e₂ : Event σ ι ο) : Prop :=
  ∃ es₁ es₃, es = (es₁ ++ e₁ :: mid) ++ e₂ :: es₃

theorem Between.run {sys : System σ ι ο}
    {adm : List (Event σ ι ο) → Event σ ι ο → Prop} {init s : σ}
    {es mid : List (Event σ ι ο)} {e₁ e₂ : Event σ ι ο} (h : Between es e₁ mid e₂)
    (run : Run sys adm init es s) :
    ∃ es₁, Run sys adm init (es₁ ++ e₁ :: mid) e₂.before ∧ adm (es₁ ++ e₁ :: mid) e₂ ∧
      e₂ = sys.event e₂.before e₂.input := by
  obtain ⟨es₁, es₃, rfl⟩ := h
  obtain ⟨before, ok, heq, _⟩ := run.split
  exact ⟨es₁, before, ok, heq⟩

/-- An event of a sublist that is not its first one comes after the first one. -/
theorem between_of_sublist {es rest : List (Event σ ι ο)} {e e' : Event σ ι ο}
    (sub : (e :: rest).Sublist es) (h : e' ∈ rest) : ∃ mid, Between es e mid e' := by
  obtain ⟨r₁, r₂, rfl, hmem, hsub⟩ := List.cons_sublist_iff.mp sub
  obtain ⟨a, b, rfl⟩ := List.append_of_mem hmem
  obtain ⟨s, t, rfl⟩ := List.append_of_mem (hsub.subset h)
  exact ⟨b ++ s, a, t, by simp⟩

/-! ## Input sequences -/

/-- The outputs of a sequence of inputs, and the state after it. -/
def System.outputs (sys : System σ ι ο) : σ → List ι → List (ι × ο)
  | _, [] => []
  | s, i :: is => (i, (sys.step s i).1) :: sys.outputs (sys.step s i).2 is

/-- Every step of the sequence is taken in a state where `ok` holds. -/
def System.All (sys : System σ ι ο) (ok : σ → ι → Prop) : σ → List ι → Prop
  | _, [] => True
  | s, i :: is => ok s i ∧ sys.All ok (sys.step s i).2 is

/-- The state after a sequence of inputs. -/
def System.after (sys : System σ ι ο) : σ → List ι → σ
  | s, [] => s
  | s, i :: is => sys.after (sys.step s i).2 is

/-- A relation that the steps of two runs keep holds where both end. -/
theorem System.All.related {sys : System σ ι ο} {ok : σ → ι → Prop} {rel : σ → σ → Prop}
    (step : ∀ {s t i}, rel s t → ok s i → rel (sys.step s i).2 (sys.step t i).2) {s t : σ}
    {is : List ι} (good : sys.All ok s is) (h : rel s t) :
    rel (sys.after s is) (sys.after t is) := by
  induction is generalizing s t with
  | nil => exact h
  | cons i is ih => exact ih good.2 (step h good.1)

/-- The events of a sequence of inputs after the events `es`, and the state after it. -/
def System.trace (sys : System σ ι ο) :
    List (Event σ ι ο) → σ → List ι → List (Event σ ι ο) × σ
  | es, s, [] => (es, s)
  | es, s, i :: is => sys.trace (es ++ [sys.event s i]) (sys.event s i).after is

theorem System.trace_inputs (sys : System σ ι ο) (es : List (Event σ ι ο)) (s : σ) (is : List ι) :
    (sys.trace es s is).1.map (·.input) = es.map (·.input) ++ is := by
  induction is generalizing es s with
  | nil => simp [System.trace]
  | cons i is ih => simp [System.trace, ih, System.event]

/-- Every input of the sequence passes the check where it is taken. -/
def System.accepts (sys : System σ ι ο) (check : List (Event σ ι ο) → Event σ ι ο → Bool) :
    List (Event σ ι ο) → σ → List ι → Bool
  | _, _, [] => true
  | es, s, i :: is => check es (sys.event s i) &&
      sys.accepts check (es ++ [sys.event s i]) (sys.event s i).after is

/-- A sequence of accepted inputs extends a run. -/
theorem Run.trace {sys : System σ ι ο} {adm : List (Event σ ι ο) → Event σ ι ο → Prop} {init s : σ}
    {es : List (Event σ ι ο)} {check : List (Event σ ι ο) → Event σ ι ο → Bool} {is : List ι}
    (run : Run sys adm init es s) (sound : ∀ es e, check es e = true → adm es e)
    (h : sys.accepts check es s is = true) :
    Run sys adm init (sys.trace es s is).1 (sys.trace es s is).2 := by
  induction is generalizing es s with
  | nil => exact run
  | cons i is ih =>
    rw [System.accepts, Bool.and_eq_true] at h
    exact ih (run.snoc i (sound _ _ h.1)) h.2

/-- The trace of a sequence whose inputs all pass the check. -/
def System.checked (sys : System σ ι ο) (check : List (Event σ ι ο) → Event σ ι ο → Bool) :
    List (Event σ ι ο) → σ → List ι → Option (List (Event σ ι ο) × σ)
  | es, s, [] => some (es, s)
  | es, s, i :: is =>
    if check es (sys.event s i) then
      sys.checked check (es ++ [sys.event s i]) (sys.event s i).after is
    else none

/-- A checked sequence is a run, and ends where its trace ends. -/
theorem Run.checked {sys : System σ ι ο}
    {adm : List (Event σ ι ο) → Event σ ι ο → Prop} {init s : σ}
    {es : List (Event σ ι ο)} {check : List (Event σ ι ο) → Event σ ι ο → Bool} {is : List ι}
    {p : List (Event σ ι ο) × σ → Bool} (run : Run sys adm init es s)
    (sound : ∀ es e, check es e = true → adm es e) (h : (sys.checked check es s is).any p = true) :
    Run sys adm init (sys.trace es s is).1 (sys.trace es s is).2 ∧
      p (sys.trace es s is) = true := by
  induction is generalizing es s with
  | nil => exact ⟨run, h⟩
  | cons i is ih =>
    rw [System.checked] at h
    split_ifs at h with hcheck
    · exact ih (run.snoc i (sound _ _ hcheck)) h
    · cases h

/-- The unwinding conditions: `rel` relates a state of the full run to one of the run
without the hidden inputs, and `same` relates the outputs of a visible input. -/
structure Unwinding (sys : System σ ι ο) (ok : σ → ι → Prop) (visible : ι → Bool) where
  rel : σ → σ → Prop
  same : ι → ο → ο → Prop
  hidden : ∀ {s t i}, rel s t → ok s i → visible i = false → rel (sys.step s i).2 t
  shown : ∀ {s t i}, rel s t → ok s i → visible i = true →
    same i (sys.step s i).1 (sys.step t i).1 ∧ rel (sys.step s i).2 (sys.step t i).2

/-- Deleting the hidden inputs keeps the output of every visible one. -/
theorem Unwinding.outputs {sys : System σ ι ο} {ok : σ → ι → Prop} {visible : ι → Bool}
    (u : Unwinding sys ok visible) {s t : σ} (is : List ι) (h : u.rel s t)
    (good : sys.All ok s is) :
    List.Forall₂ (fun a b => a.1 = b.1 ∧ u.same a.1 a.2 b.2)
      ((sys.outputs s is).filter (fun a => visible a.1))
      (sys.outputs t (is.filter visible)) := by
  induction is generalizing s t with
  | nil => simp [System.outputs]
  | cons i is ih =>
    obtain ⟨hok, good⟩ := good
    cases hv : visible i with
    | false => simpa [System.outputs, hv] using ih (u.hidden h hok hv) good
    | true =>
      obtain ⟨hsame, hrel⟩ := u.shown h hok hv
      simpa [System.outputs, hv, hsame] using ih hrel good

end MarketSupport.Library
