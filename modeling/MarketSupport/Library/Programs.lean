import Mathlib.Data.List.Basic

/-!
# Programs that call their environment

A program returns, raises, or calls its environment and goes on with the answer. Nothing is
assumed of the answers, so what holds of every trace of a program holds for every behaviour
of the code that it calls.

## Main results

* `wp_iff` — the weakest precondition of a program speaks about all of its traces.
* `wp_handle`, `wp_bind`, `wp_tryFinally` — the rules of the program constructors.
* `returns_bind`, `returns_mapM` — the rules of partial correctness.
* `run_bind` — running a program against an environment that never changes its answers.
-/

namespace MarketSupport.Library

/-- A program that makes calls `C` with answers `A`, raises `ε` and returns `α`. -/
inductive Program (C : Type) (A : C → Type) (ε α : Type) where
  | done (result : Except ε α)
  | call (c : C) (next : A c → Program C A ε α)

/-- A call with its answer. -/
abbrev Exchange (C : Type) (A : C → Type) := (c : C) × A c

variable {C : Type} {A : C → Type} {ε ε' α β : Type}

namespace Program

/-- Go on after a program has returned or raised. -/
def handle : Program C A ε α → (Except ε α → Program C A ε' β) → Program C A ε' β
  | done result, f => f result
  | call c next, f => call c (fun answer => (next answer).handle f)

def raise (e : ε) : Program C A ε α := done (.error e)

/-- Go on with the value that a program returns. -/
def bind (p : Program C A ε α) (f : α → Program C A ε β) : Program C A ε β :=
  p.handle (fun
    | .ok a => f a
    | .error e => raise e)

instance : Monad (Program C A ε) where
  pure a := done (.ok a)
  bind := bind

/-- Make a call and return its answer. -/
def perform (c : C) : Program C A ε (A c) := call c (fun answer => done (.ok answer))

/-- Return a value, or raise an exception. -/
def ofExcept (result : Except ε α) : Program C A ε α := done result

/-- `try: p finally: cleanup`. The cleanup sees how `p` ended; what it raises replaces that. -/
def tryFinally (p : Program C A ε α) (cleanup : Except ε α → Program C A ε Unit) :
    Program C A ε α :=
  p.handle (fun result => (cleanup result).bind (fun _ => done result))

/-! ## Traces -/

/-- The program makes these exchanges and ends with the result. -/
inductive Trace : Program C A ε α → List (Exchange C A) → Except ε α → Prop where
  | done (result : Except ε α) : Trace (done result) [] result
  | call {c : C} {next : A c → Program C A ε α} {answer : A c} {l : List (Exchange C A)}
      {result : Except ε α} (rest : Trace (next answer) l result) :
      Trace (call c next) (⟨c, answer⟩ :: l) result

/-- Whatever is answered, the program ends with exchanges and a result that satisfy `Q`. -/
def wp : Program C A ε α → (List (Exchange C A) → Except ε α → Prop) → Prop
  | done result, Q => Q [] result
  | call c next, Q => ∀ answer, (next answer).wp (fun l result => Q (⟨c, answer⟩ :: l) result)

theorem wp_iff {p : Program C A ε α} {Q : List (Exchange C A) → Except ε α → Prop} :
    p.wp Q ↔ ∀ l result, Trace p l result → Q l result := by
  induction p generalizing Q with
  | done result =>
    constructor
    · rintro h _ _ ⟨⟩
      exact h
    · exact fun h => h _ _ (.done result)
  | call c next ih =>
    constructor
    · intro h l result trace
      cases trace with
      | call rest => exact (ih _).mp (h _) _ _ rest
    · exact fun h answer => (ih answer).mpr fun l result rest => h _ _ (.call rest)

theorem Trace.wp {p : Program C A ε α} {Q : List (Exchange C A) → Except ε α → Prop}
    {l : List (Exchange C A)} {result : Except ε α} (trace : Trace p l result) (h : p.wp Q) :
    Q l result := wp_iff.mp h l result trace

theorem wp_mono {p : Program C A ε α} {Q R : List (Exchange C A) → Except ε α → Prop}
    (h : p.wp Q) (imp : ∀ l result, Q l result → R l result) : p.wp R :=
  wp_iff.mpr fun l result trace => imp l result (trace.wp h)

@[simp] theorem wp_done {result : Except ε α} {Q : List (Exchange C A) → Except ε α → Prop} :
    (done result : Program C A ε α).wp Q ↔ Q [] result := Iff.rfl

@[simp] theorem wp_call {c : C} {next : A c → Program C A ε α}
    {Q : List (Exchange C A) → Except ε α → Prop} :
    (call c next).wp Q ↔
      ∀ answer, (next answer).wp (fun l result => Q (⟨c, answer⟩ :: l) result) := Iff.rfl

@[simp] theorem wp_handle {p : Program C A ε α} {f : Except ε α → Program C A ε' β}
    {Q : List (Exchange C A) → Except ε' β → Prop} :
    (p.handle f).wp Q ↔
      p.wp (fun l result => (f result).wp (fun l' result' => Q (l ++ l') result')) := by
  induction p generalizing Q with
  | done result => rfl
  | call c next ih => exact forall_congr' fun answer => ih answer

@[simp] theorem wp_raise {e : ε} {Q : List (Exchange C A) → Except ε α → Prop} :
    (raise e : Program C A ε α).wp Q ↔ Q [] (.error e) := Iff.rfl

@[simp] theorem wp_pure {a : α} {Q : List (Exchange C A) → Except ε α → Prop} :
    (pure a : Program C A ε α).wp Q ↔ Q [] (.ok a) := Iff.rfl

@[simp] theorem wp_perform {c : C} {Q : List (Exchange C A) → Except ε (A c) → Prop} :
    (perform c : Program C A ε (A c)).wp Q ↔ ∀ answer, Q [⟨c, answer⟩] (.ok answer) := Iff.rfl

@[simp] theorem wp_ofExcept {result : Except ε α} {Q : List (Exchange C A) → Except ε α → Prop} :
    (ofExcept result : Program C A ε α).wp Q ↔ Q [] result := Iff.rfl

/-- A sequence ends early when its first part raises. -/
theorem wp_bind {p : Program C A ε α} {f : α → Program C A ε β}
    {Q : List (Exchange C A) → Except ε β → Prop} :
    (p >>= f).wp Q ↔ p.wp (fun l result => match result with
      | .ok a => (f a).wp (fun l' result' => Q (l ++ l') result')
      | .error e => Q l (.error e)) := by
  refine wp_handle.trans (iff_of_eq (congrArg p.wp ?_))
  funext l result
  cases result <;> simp

/-- A check in front of a program. -/
theorem wp_ofExcept_bind {x : Except ε α} {f : α → Program C A ε β}
    {Q : List (Exchange C A) → Except ε β → Prop} (passed : ∀ a, x = .ok a → (f a).wp Q)
    (failed : ∀ e, x = .error e → Q [] (.error e)) : (ofExcept x >>= f).wp Q := by
  cases x with
  | ok a => exact passed a rfl
  | error e => exact failed e rfl

/-- The sequence rule: what the first part ends with is all that the second one needs. -/
theorem wp_seq {p : Program C A ε α} {f : α → Program C A ε β}
    {P : List (Exchange C A) → Except ε α → Prop} {Q : List (Exchange C A) → Except ε β → Prop}
    (first : p.wp P) (raised : ∀ l e, P l (.error e) → Q l (.error e))
    (rest : ∀ l a, P l (.ok a) → (f a).wp (fun l' result => Q (l ++ l') result)) :
    (p >>= f).wp Q := by
  refine wp_bind.mpr (wp_mono first fun l result h => ?_)
  cases result with
  | ok a => exact rest l a h
  | error e => exact raised l e h

/-- The cleanup runs however the body ended. -/
theorem wp_tryFinally {p : Program C A ε α} {cleanup : Except ε α → Program C A ε Unit}
    {Q : List (Exchange C A) → Except ε α → Prop} :
    (p.tryFinally cleanup).wp Q ↔ p.wp (fun l result => (cleanup result).wp (fun l' ended =>
      match ended with
      | .ok _ => Q (l ++ l') result
      | .error e => Q (l ++ l') (.error e))) := by
  refine wp_handle.trans (iff_of_eq (congrArg p.wp ?_))
  funext l result
  refine propext (wp_handle.trans (iff_of_eq (congrArg (cleanup result).wp ?_)))
  funext l' ended
  cases ended <;> simp

/-- The program against an environment that always answers a call in the same way. -/
def run (answer : (c : C) → A c) : Program C A ε α → List (Exchange C A) × Except ε α
  | done result => ([], result)
  | call c next =>
    let (l, result) := (next (answer c)).run answer
    (⟨c, answer c⟩ :: l, result)

theorem trace_run (answer : (c : C) → A c) (p : Program C A ε α) :
    Trace p (p.run answer).1 (p.run answer).2 := by
  induction p with
  | done result => exact .done result
  | call c next ih => exact .call (ih (answer c))

@[simp] theorem run_handle (answer : (c : C) → A c) (p : Program C A ε α)
    (f : Except ε α → Program C A ε' β) : ((p.handle f).run answer).2 =
      ((f (p.run answer).2).run answer).2 := by
  induction p with
  | done result => rfl
  | call c next ih => exact ih (answer c)

/-- The result of a sequence, against an environment, is the sequence of the results. -/
theorem run_bind (answer : (c : C) → A c) (p : Program C A ε α) (f : α → Program C A ε β) :
    ((p >>= f).run answer).2 = (p.run answer).2 >>= fun a => ((f a).run answer).2 := by
  refine (run_handle answer p _).trans ?_
  cases (p.run answer).2 <;> rfl

/-! ## Partial correctness -/

/-- Whatever is answered, what the program returns satisfies `P`. -/
def Returns (p : Program C A ε α) (P : α → Prop) : Prop :=
  p.wp fun _ result => ∀ a, result = .ok a → P a

theorem Trace.returns {p : Program C A ε α} {P : α → Prop} {l : List (Exchange C A)} {a : α}
    (trace : Trace p l (.ok a)) (h : p.Returns P) : P a := trace.wp h a rfl

theorem returns_pure {P : α → Prop} {a : α} (h : P a) : (pure a : Program C A ε α).Returns P :=
  fun _ heq => Except.ok.inj heq ▸ h

theorem returns_ofExcept {P : α → Prop} {x : Except ε α} (h : ∀ a, x = .ok a → P a) :
    (ofExcept x : Program C A ε α).Returns P := h

theorem returns_true {p : Program C A ε α} : p.Returns fun _ => True :=
  wp_iff.mpr fun _ _ _ _ _ => trivial

theorem returns_handle {p : Program C A ε α} {f : Except ε α → Program C A ε' β} {P : β → Prop}
    (h : ∀ result, (f result).Returns P) : (p.handle f).Returns P :=
  wp_handle.mpr (wp_iff.mpr fun _ result _ => h result)

/-- The sequence rule of partial correctness. -/
theorem returns_bind {p : Program C A ε α} {f : α → Program C A ε β} {P : α → Prop} {Q : β → Prop}
    (first : p.Returns P) (rest : ∀ a, P a → (f a).Returns Q) : (p >>= f).Returns Q := by
  refine wp_bind.mpr (wp_mono first fun l result h => ?_)
  cases result with
  | ok a => exact rest a (h a rfl)
  | error e => exact nofun

/-- What every turn of a loop returns is what the loop returns. -/
theorem returns_mapM {γ : Type} {f : γ → Program C A ε α} {P : α → Prop} {l : List γ}
    (h : ∀ c ∈ l, (f c).Returns P) : (l.mapM f).Returns fun out => ∀ a ∈ out, P a := by
  suffices hloop : ∀ acc : List α, (∀ a ∈ acc, P a) →
      (List.mapM.loop f l acc).Returns fun out => ∀ a ∈ out, P a from hloop [] (by simp)
  induction l with
  | nil => exact fun acc hacc => returns_pure (by simpa using hacc)
  | cons c l ih =>
    intro acc hacc
    refine returns_bind (h c List.mem_cons_self) fun a ha => ?_
    exact ih (fun c hc => h c (List.mem_cons_of_mem _ hc)) _ (List.forall_mem_cons.mpr ⟨ha, hacc⟩)

end Program

end MarketSupport.Library
