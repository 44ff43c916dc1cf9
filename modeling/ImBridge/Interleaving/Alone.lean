import ImBridge.Interleaving.RelyGuarantee

/-!
# Runs of a task that is alone

The runs of one task, call by call, in a semantics that leaves replies and effects open. When the
task is the only agent and the world does not move by itself, nothing disturbs its assertions, so
the rules for pools of tasks become the rules of a sequential logic.

## Main definitions

* `Runs`: the complete runs of a task
* `Solitary`: there is nobody else, and the world stays as it is

## Main results

* `Runs.of_bind`, `Fallible.runs_bind_ok`: a run of a sequence is made of runs of its parts
* `Runs.keeps`: what every call of the task keeps, a run of it keeps
* `runs_interpret`: a handler that does what the semantics allows gives a run
* `Discipline.Triple.runs`: what a verified task returns, in every run of it
* `Solitary.stable`: no assertion of a solitary task is disturbed
-/

namespace Interleaving

variable {σ : Signature} {A W α β : Type}

/-- From the moment `m`, the task of the agent `t` runs to its end, returns `a` and leaves `m'`. -/
inductive Runs (sem : Semantics σ A W) (t : A) :
    Program σ α → Moment σ A W → α → Moment σ A W → Prop
  | ret (a : α) (m : Moment σ A W) : Runs sem t (.ret a) m a m
  | call (c : σ.Call) (k : σ.Reply c → Program σ α) (m : Moment σ A W) (r : σ.Reply c) (w : W)
      (a : α) (m' : Moment σ A W) (he : sem.effect t m c r w)
      (h : Runs sem t (k r) (m.after t c r w) a m') : Runs sem t (.call c k) m a m'

variable {sem : Semantics σ A W} {t : A}

/-! ## The parts of a run -/

variable {m m' : Moment σ A W} {p : Program σ α}

theorem Runs.of_bind {f : α → Program σ β} {b : β} (h : Runs sem t (p >>= f) m b m') :
    ∃ a m₁, Runs sem t p m a m₁ ∧ Runs sem t (f a) m₁ b m' := by
  induction p generalizing m with
  | ret a => exact ⟨a, m, .ret a m, h⟩
  | call c k ih =>
    rw [Program.call_bind] at h
    cases h with
    | call _ _ _ r w _ _ he h =>
      obtain ⟨a, m₁, hk, hf⟩ := ih r h
      exact ⟨a, m₁, .call c k m r w a m₁ he hk, hf⟩

/-- A fallible sequence that succeeds is made of parts that succeed. -/
theorem Fallible.runs_bind_ok {ε : Type} {p : Fallible σ ε α} {f : α → Fallible σ ε β} {b : β}
    (h : Runs sem t (p >>= f).run m (.ok b) m') :
    ∃ a m₁, Runs sem t p.run m (.ok a) m₁ ∧ Runs sem t (f a).run m₁ (.ok b) m' := by
  rw [Fallible.run_bind] at h
  obtain ⟨r, m₁, hp, hf⟩ := h.of_bind
  cases r with
  | ok a => exact ⟨a, m₁, hp, hf⟩
  | error e => cases hf

theorem Fallible.runs_lift_bind {ε : Type} {f : α → Fallible σ ε β} {r : Except ε β}
    (h : Runs sem t (liftM p >>= f : Fallible σ ε β).run m r m') :
    ∃ a m₁, Runs sem t p m a m₁ ∧ Runs sem t (f a).run m₁ r m' := by
  rw [Fallible.run_lift_bind] at h
  exact h.of_bind

theorem Runs.of_perform {c : σ.Call} {r : σ.Reply c} (h : Runs sem t (.perform c) m r m') :
    ∃ w, sem.effect t m c r w ∧ m' = m.after t c r w := by
  cases h with
  | call _ _ _ r w _ _ he h =>
    cases h
    exact ⟨w, he, rfl⟩

/-- What every call of the task keeps, a run of it keeps. -/
theorem Runs.keeps {Q : σ.Call → Prop} {I : Moment σ A W → Prop} {a : α} (h : Runs sem t p m a m')
    (hp : p.Uses Q) (hI : ∀ m c r w, Q c → sem.effect t m c r w → I m → I (m.after t c r w))
    (hm : I m) : I m' := by
  induction h with
  | ret a m => exact hm
  | call c k m r w a m' he _ ih => exact ih (hp.2 r) (hI m c r w hp.1 he hm)

/-- A run only adds to the calls made so far. -/
theorem Runs.exists_trace {a : α} (h : Runs sem t p m a m') :
    ∃ more, m'.trace = m.trace ++ more := by
  induction h with
  | ret a m => exact ⟨[], (List.append_nil _).symm⟩
  | call c k m r w a m' he _ ih =>
    obtain ⟨more, hmore⟩ := ih
    exact ⟨⟨t, c, r⟩ :: more, by rw [hmore, Moment.after_trace, List.append_assoc]; rfl⟩

/-- A handler that does what the semantics allows gives a run. -/
theorem runs_interpret {h : (c : σ.Call) → Moment σ A W → σ.Reply c × Moment σ A W}
    (hh : ∀ c m, ∃ w, sem.effect t m c (h c m).1 w ∧ (h c m).2 = m.after t c (h c m).1 w)
    (p : Program σ α) (m : Moment σ A W) :
    Runs sem t p m (p.interpret h m).1 (p.interpret h m).2 := by
  induction p generalizing m with
  | ret a => exact .ret a m
  | call c k ih =>
    obtain ⟨w, he, hafter⟩ := hh c m
    refine .call c k m (h c m).1 w _ _ he ?_
    rw [Program.interpret_call, ← hafter]
    exact ih _ _

/-! ## Runs of verified tasks -/

theorem Discipline.Safe.runs {D : Discipline sem} {post : α → Moment σ A W → Prop} {a : α}
    (hsafe : D.Safe t post p m) (hm : D.inv m) (h : Runs sem t p m a m') : post a m' := by
  induction h with
  | ret a m => exact hsafe m .refl hm
  | call c k m r w a m' he _ ih =>
    obtain ⟨hmay, hk⟩ := hsafe m .refl hm
    exact ih (hk r w he) (D.keep _ _ _ _ _ hm hmay he)

/-- **A verified task returns what its specification says**, in every run that starts in its
precondition. -/
theorem Discipline.Triple.runs {D : Discipline sem} {pre : Moment σ A W → Prop}
    {post : α → Moment σ A W → Prop} (htriple : D.Triple t pre p post) {a : α} (hm : D.inv m)
    (hpre : pre m) (h : Runs sem t p m a m') : post a m' :=
  (htriple m hm hpre).runs hm h

/-- There is no other agent, and the world does not move by itself. -/
structure Solitary (sem : Semantics σ A W) (t : A) : Prop where
  only : ∀ u, u = t
  still : ∀ w w', ¬ sem.drift w w'

theorem Solitary.stable (h : Solitary sem t) (D : Discipline sem) (R : Moment σ A W → Prop) :
    D.Stable t R := by
  intro m m' ho _
  cases ho with
  | call u c r w hu hm hmay he => exact absurd (h.only u) hu
  | drift w hm hd => exact absurd hd (h.still _ _)

end Interleaving
