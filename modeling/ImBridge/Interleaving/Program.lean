import Mathlib.Data.List.Forall2

/-!
# Programs over a signature of calls

A task is written as a tree of calls on its environment: either it has returned a value, or it
makes one call and goes on from the reply. Nothing is assumed here about what a call does. A
deterministic handler interprets a task on its own; the sibling modules run many tasks
side by side.

## Main definitions

* `Signature`: the calls a task may make, each with its type of replies
* `Program σ α`: tasks over `σ` returning an `α`, a lawful monad
* `Fallible σ ε α`: tasks that may stop with an error
* `Program.interpret`: the run of a task on its own under a deterministic handler
* `Program.Uses`: every call a task can ever make satisfies a predicate
* `Program.Ends`: every result a task can ever return satisfies a predicate

## Main results

* `Program.interpret_bind`: a handler runs a sequence one part after the other
* `Fallible.interpret_bind_ok`, `Fallible.interpret_bind_error`: the same for fallible tasks
* `Program.uses_bind`, `Program.ends_bind`: the footprint and the results of a sequence
-/

namespace Interleaving

/-- The calls a task may make, and the replies to each of them. -/
structure Signature where
  Call : Type
  Reply : Call → Type

/-- A task over the signature `σ`: it has returned, or it waits for the reply to a call. -/
inductive Program (σ : Signature) (α : Type) : Type
  | ret (a : α)
  | call (c : σ.Call) (k : σ.Reply c → Program σ α)

namespace Program

variable {σ : Signature} {α β γ S : Type}

/-- Runs the first task and continues with the one its value selects. -/
def bind : Program σ α → (α → Program σ β) → Program σ β
  | ret a, f => f a
  | call c k, f => call c fun r => (k r).bind f

instance : Monad (Program σ) where
  pure := ret
  bind := bind

/-- The task making the single call `c` and returning its reply. -/
def perform (c : σ.Call) : Program σ (σ.Reply c) := call c ret

@[simp] theorem call_bind (c : σ.Call) (k : σ.Reply c → Program σ α) (f : α → Program σ β) :
    (call c k >>= f) = call c fun r => k r >>= f := rfl

theorem bind_ret (p : Program σ α) : p >>= ret = p := by
  induction p with
  | ret a => rfl
  | call c k ih => rw [call_bind]; exact congrArg _ (funext ih)

theorem bind_bind (p : Program σ α) (f : α → Program σ β) (g : β → Program σ γ) :
    p >>= f >>= g = p >>= fun a => f a >>= g := by
  induction p with
  | ret a => rfl
  | call c k ih => simp only [call_bind]; exact congrArg _ (funext ih)

instance : LawfulMonad (Program σ) :=
  LawfulMonad.mk' (Program σ) (fun p => bind_ret p) (fun _ _ => rfl) bind_bind

/-! ## The run of one task under a handler -/

/-- The run of a task on its own: the handler answers each call and moves the state. -/
def interpret (h : (c : σ.Call) → S → σ.Reply c × S) : Program σ α → S → α × S
  | ret a, s => (a, s)
  | call c k, s => (k (h c s).1).interpret h (h c s).2

section Interpret

variable (h : (c : σ.Call) → S → σ.Reply c × S)

theorem interpret_call (c : σ.Call) (k : σ.Reply c → Program σ α) (s : S) :
    (call c k).interpret h s = (k (h c s).1).interpret h (h c s).2 := rfl

/-- **A sequence runs one part after the other.** -/
@[simp] theorem interpret_bind (p : Program σ α) (f : α → Program σ β) (s : S) :
    (p >>= f).interpret h s = (f (p.interpret h s).1).interpret h (p.interpret h s).2 := by
  induction p generalizing s with
  | ret a => rfl
  | call c k ih => rw [call_bind, interpret_call, interpret_call]; exact ih _ _

/-- Every call of the run passes the check, in the state it is made in. -/
def check (ok : σ.Call → S → Bool) : Program σ α → S → Bool
  | ret _, _ => true
  | call c k, s => ok c s && (k (h c s).1).check ok (h c s).2

theorem check_true (p : Program σ α) (s : S) : p.check h (fun _ _ => true) s = true := by
  induction p generalizing s with
  | ret a => rfl
  | call c k ih => exact ih _ _

end Interpret

/-! ## Footprints -/

/-- Every call the task can make, whatever the replies, satisfies `P`. -/
def Uses (P : σ.Call → Prop) : Program σ α → Prop
  | ret _ => True
  | call c k => P c ∧ ∀ r, (k r).Uses P

variable {p : Program σ α}

section Uses

variable {P Q : σ.Call → Prop}

@[simp] theorem uses_ret (a : α) : (ret a : Program σ α).Uses P := trivial

@[simp] theorem uses_call (c : σ.Call) (k : σ.Reply c → Program σ α) :
    (call c k).Uses P ↔ P c ∧ ∀ r, (k r).Uses P := Iff.rfl

@[simp] theorem uses_perform (c : σ.Call) : (perform c).Uses P ↔ P c := by
  simp [perform]

theorem Uses.imp (h : p.Uses P) (hPQ : ∀ c, P c → Q c) : p.Uses Q := by
  induction p with
  | ret a => trivial
  | call c k ih => exact ⟨hPQ c h.1, fun r => ih r (h.2 r)⟩

@[grind ←]
theorem uses_pure (a : α) : (pure a : Program σ α).Uses P := trivial

@[grind ←]
theorem uses_bind {f : α → Program σ β} (hp : p.Uses P) (hf : ∀ a, (f a).Uses P) :
    (p >>= f).Uses P := by
  induction p with
  | ret a => exact hf a
  | call c k ih => exact ⟨hp.1, fun r => ih r (hp.2 r)⟩

end Uses

/-- Every result the task can return, whatever the replies, satisfies `Q`. -/
def Ends (Q : α → Prop) : Program σ α → Prop
  | ret a => Q a
  | call _ k => ∀ r, (k r).Ends Q

section Ends

variable {Q : α → Prop} {R : β → Prop}

theorem ends_true (p : Program σ α) : p.Ends fun _ => True := by
  induction p with
  | ret a => trivial
  | call c k ih => exact ih

theorem Ends.imp {Q' : α → Prop} (h : p.Ends Q) (hQ : ∀ a, Q a → Q' a) : p.Ends Q' := by
  induction p with
  | ret a => exact hQ a h
  | call c k ih => exact fun r => ih r (h r)

theorem ends_bind {f : α → Program σ β} (hp : p.Ends Q) (hf : ∀ a, Q a → (f a).Ends R) :
    (p >>= f).Ends R := by
  induction p with
  | ret a => exact hf a hp
  | call c k ih => exact fun r => ih r (hp r)

/-- The footprint of a sequence whose second part relies on the result of the first. -/
theorem uses_bind_of_ends {P : σ.Call → Prop} {f : α → Program σ β} (hp : p.Uses P) (he : p.Ends Q)
    (hf : ∀ a, Q a → (f a).Uses P) : (p >>= f).Uses P := by
  induction p with
  | ret a => exact hf a he
  | call c k ih => exact ⟨hp.1, fun r => ih r (hp.2 r) (he r)⟩

end Ends

end Program

/-- A task that may stop with an error of type `ε`. -/
abbrev Fallible (σ : Signature) (ε α : Type) := ExceptT ε (Program σ) α

namespace Fallible

open Program

variable {σ : Signature} {ε δ α β S : Type}

/-- One assertion for values and one for errors. -/
def onResult (Q : α → Prop) (R : ε → Prop) : Except ε α → Prop
  | .ok a => Q a
  | .error e => R e

@[simp] theorem onResult_ok {Q : α → Prop} {R : ε → Prop} (a : α) :
    onResult Q R (.ok a) = Q a := rfl

@[simp] theorem onResult_error {Q : α → Prop} {R : ε → Prop} (e : ε) :
    onResult Q R (.error e) = R e := rfl

theorem onResult_mono {Q Q' : α → Prop} {R : ε → Prop} (h : ∀ a, Q a → Q' a) {r : Except ε α}
    (hr : onResult Q R r) : onResult Q' R r := by
  cases r with
  | ok a => exact h a hr
  | error e => exact hr

/-- The same task with its error translated. -/
def mapError (f : ε → δ) (p : Fallible σ ε α) : Fallible σ δ α :=
  ExceptT.mk do
    match ← p.run with
    | .ok a => pure (.ok a)
    | .error e => pure (.error (f e))

/-- A computed result as a task. -/
def ofExcept (r : Except ε α) : Fallible σ ε α := ExceptT.mk (pure r)

@[simp] theorem run_ofExcept (r : Except ε α) :
    (ofExcept r : Fallible σ ε α).run = Program.ret r := rfl

theorem run_bind (p : Fallible σ ε α) (f : α → Fallible σ ε β) :
    (p >>= f).run = p.run >>= fun r => match r with
      | .ok a => (f a).run
      | .error e => ret (.error e) := by
  rw [ExceptT.run_bind]
  rfl

/-- A task that cannot fail, and then one that can. -/
theorem run_lift_bind (p : Program σ α) (f : α → Fallible σ ε β) :
    (liftM p >>= f : Fallible σ ε β).run = p >>= fun a => (f a).run := by
  rw [run_bind]
  exact Program.bind_bind p _ _

/-- The result of the task, whether a value or an error. -/
def attempt (p : Fallible σ ε α) : Fallible σ δ (Except ε α) := ExceptT.lift p.run

theorem run_attempt_bind (p : Fallible σ ε α) (f : Except ε α → Fallible σ δ β) :
    (p.attempt >>= f).run = p.run >>= fun r => (f r).run :=
  run_lift_bind p.run f

theorem run_mapError (f : ε → δ) (p : Fallible σ ε α) :
    (p.mapError f).run = p.run >>= fun r => ret (r.mapError f) := by
  refine congrArg (p.run >>= ·) (funext fun r => ?_)
  cases r <;> rfl

/-- Every call of a task that may fail satisfies `P`. -/
def Uses (P : σ.Call → Prop) (p : Fallible σ ε α) : Prop := p.run.Uses P

variable {p : Fallible σ ε α} {f : α → Fallible σ ε β}

section Uses

variable {P : σ.Call → Prop}

@[grind ←]
theorem uses_bind (hp : Uses P p) (hf : ∀ a, Uses P (f a)) : Uses P (p >>= f) := by
  rw [Uses, run_bind]
  refine Program.uses_bind hp fun r => ?_
  cases r with
  | ok a => exact hf a
  | error e => exact Program.uses_ret _

@[grind ←]
theorem uses_pure (a : α) : Uses P (pure a : Fallible σ ε α) := Program.uses_ret _

@[grind ←]
theorem uses_throw (e : ε) : Uses P (throw e : Fallible σ ε α) := Program.uses_ret _

@[grind ←]
theorem uses_ofExcept (r : Except ε α) : Uses P (ofExcept r : Fallible σ ε α) :=
  Program.uses_ret _

@[grind ←]
theorem uses_lift {p : Program σ α} (hp : p.Uses P) : Uses P (liftM p : Fallible σ ε α) :=
  Program.uses_bind hp fun _ => Program.uses_ret _

@[grind ←]
theorem uses_mapError {f : ε → δ} (hp : Uses P p) : Uses P (p.mapError f) := by
  refine Program.uses_bind hp fun r => ?_
  cases r <;> exact Program.uses_ret _

theorem uses_attempt (hp : Uses P p) : Uses P (p.attempt : Fallible σ δ (Except ε α)) :=
  Program.uses_bind hp fun _ => Program.uses_ret _

@[grind ←]
theorem uses_foldlM {f : β → α → Fallible σ ε β} (hf : ∀ b a, Uses P (f b a)) (b : β)
    (as : List α) : Uses P (as.foldlM f b) := by
  induction as generalizing b with
  | nil => exact uses_pure b
  | cons a as ih =>
    rw [List.foldlM_cons]
    exact uses_bind (hf b a) ih

@[grind ←]
theorem uses_forM {f : α → Fallible σ ε PUnit} (hf : ∀ a, Uses P (f a)) (as : List α) :
    Uses P (as.forM f) := by
  induction as with
  | nil => exact uses_pure _
  | cons a as ih => exact uses_bind (hf a) fun _ => ih

end Uses

section Ends

variable {Q : α → Prop} {R : Except ε β → Prop}

theorem ends_bind (hp : p.run.Ends (onResult Q fun e => R (.error e)))
    (hf : ∀ a, Q a → (f a).run.Ends R) : (p >>= f).run.Ends R := by
  rw [run_bind]
  refine Program.ends_bind hp fun r hr => ?_
  cases r with
  | ok a => exact hf a hr
  | error e => exact hr

theorem uses_bind_of_ends {P : σ.Call → Prop} (hp : p.run.Uses P)
    (he : p.run.Ends (onResult Q fun _ => True)) (hf : ∀ a, Q a → (f a).run.Uses P) :
    (p >>= f).run.Uses P := by
  rw [run_bind]
  refine Program.uses_bind_of_ends hp he fun r hr => ?_
  cases r with
  | ok a => exact hf a hr
  | error e => exact Program.uses_ret _

theorem ends_mapError {f : ε → δ} {R : Except δ α → Prop}
    (hp : p.run.Ends (onResult (fun a => R (.ok a)) fun e => R (.error (f e)))) :
    (p.mapError f).run.Ends R := by
  refine Program.ends_bind hp fun r hr => ?_
  cases r <;> exact hr

/-- The results for the items of a list, one after the other. -/
theorem ends_mapM {R : α → β → Prop} (hf : ∀ a, (f a).run.Ends (onResult (R a) fun _ => True))
    (as : List α) : (as.mapM f).run.Ends (onResult (List.Forall₂ R as) fun _ => True) := by
  induction as with
  | nil => exact List.Forall₂.nil
  | cons a as ih =>
    rw [List.mapM_cons]
    refine ends_bind (hf a) fun b hb => ?_
    refine ends_bind ih fun bs hbs => ?_
    exact List.Forall₂.cons hb hbs

end Ends

section Interpret

variable (h : (c : σ.Call) → S → σ.Reply c × S)

theorem interpret_bind_ok {s s' : S} {a : α} (hp : Program.interpret h p.run s = (.ok a, s')) :
    Program.interpret h (p >>= f).run s = Program.interpret h (f a).run s' := by
  rw [run_bind, interpret_bind, hp]

theorem interpret_bind_error {s s' : S} {e : ε} (hp : Program.interpret h p.run s = (.error e, s'))
      :
    Program.interpret h (p >>= f).run s = (.error e, s') := by
  rw [run_bind, interpret_bind, hp]
  rfl

end Interpret

end Fallible

end Interleaving
