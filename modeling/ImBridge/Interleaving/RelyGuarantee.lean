import ImBridge.Interleaving.Pool

/-!
# Rely and guarantee for pools of tasks

A discipline fixes an invariant of the shared world and its history, and says when a task may make
which call. Each permitted call keeps the invariant. A task is then verified alone, against every
sequence of permitted calls of the others: between any two of its own calls the moment may move
along such a sequence, and its assertions have to survive that. When every task of a family is
verified so, every reachable pool of such tasks satisfies the invariant, and every task that has
returned satisfies its postcondition, then and at every later time.

## Main definitions

* `Discipline`: an invariant, the calls a task may make, and their preservation; `Discipline.free`
  has no rule at all, and `Discipline.restrict` has the same rules for fewer runs
* `Discipline.Other`, `Discipline.Rely`: one step, and any number of steps, of the other tasks
* `Discipline.Stable`: an assertion survives the other tasks
* `Discipline.Safe`, `Discipline.Triple`: a task keeps the discipline and ends in its postcondition

## Main results

* `Discipline.triple_bind`, `Discipline.triple_call`, `Discipline.triple_ret`: the rules of the
  logic, with `Discipline.triple_tryBind` for fallible tasks, and `Discipline.triple_foldlM` and
  `Discipline.triple_forM` for lists
* `Discipline.triple_of_uses`: a task that only makes harmless calls keeps an assertion, and
  `Discipline.Triple.frame`: so does a verified task all of whose calls keep it
* `Discipline.Triple.restrict`: what is verified for all runs is verified for fewer of them
* `Discipline.sound`: verified tasks are safe in every reachable pool
* `Discipline.preserved`: what permitted calls keep is kept along every run
-/

namespace Interleaving

open Relation

variable {σ : Signature} {A W τ α β ε : Type} {Out : τ → Type}

/-- **A discipline** for tasks running under `sem`: an invariant of the moments of a run, and the
calls a task may make, each of which keeps the invariant. -/
structure Discipline (sem : Semantics σ A W) where
  inv : Moment σ A W → Prop
  may : A → Moment σ A W → σ.Call → Prop
  keep : ∀ t m c r w, inv m → may t m c → sem.effect t m c r w → inv (m.after t c r w)
  keep_drift : ∀ m w, inv m → sem.drift m.world w → inv (m.drifted w)

namespace Discipline

variable {sem : Semantics σ A W} (D : Discipline sem)

/-- No rule at all: for assertions that every call keeps. -/
def free (sem : Semantics σ A W) : Discipline sem where
  inv _ := True
  may _ _ _ := True
  keep _ _ _ _ _ _ _ _ := trivial
  keep_drift _ _ _ _ := trivial

/-- One step that the agent `t` does not make: a permitted call of another agent, or a move of the
world by itself. -/
inductive Other (t : A) : Moment σ A W → Moment σ A W → Prop
  | call (m : Moment σ A W) (u : A) (c : σ.Call) (r : σ.Reply c) (w : W) (hu : u ≠ t)
      (hm : D.inv m) (hmay : D.may u m c) (he : sem.effect u m c r w) :
      Other t m (m.after u c r w)
  | drift (m : Moment σ A W) (w : W) (hm : D.inv m) (hd : sem.drift m.world w) :
      Other t m (m.drifted w)

/-- Any number of steps that the agent `t` does not make. -/
def Rely (t : A) : Moment σ A W → Moment σ A W → Prop := ReflTransGen (D.Other t)

/-- The assertion survives every step of the other agents. -/
def Stable (t : A) (R : Moment σ A W → Prop) : Prop := ∀ m m', D.Other t m m' → R m → R m'

/-- **Safety of a task** from a moment on: whatever the others have done by then, its next call is
permitted and it stays safe after every reply to it, and its result satisfies `post`. -/
def Safe (t : A) (post : α → Moment σ A W → Prop) : Program σ α → Moment σ A W → Prop
  | .ret a, m => ∀ m', D.Rely t m m' → D.inv m' → post a m'
  | .call c k, m => ∀ m', D.Rely t m m' → D.inv m' → D.may t m' c ∧
      ∀ r w, sem.effect t m' c r w → Safe t post (k r) (m'.after t c r w)

/-- The task is safe from every moment that satisfies the precondition. -/
def Triple (t : A) (pre : Moment σ A W → Prop) (p : Program σ α) (post : α → Moment σ A W → Prop) :
    Prop :=
  ∀ m, D.inv m → pre m → D.Safe t post p m

variable {D} {R : Moment σ A W → Prop} {t : A} {m m' : Moment σ A W}

theorem Stable.rely (hR : D.Stable t R) (h : D.Rely t m m') (hm : R m) :
    R m' := by
  induction h with
  | refl => exact hm
  | tail _ hs ih => exact hR _ _ hs ih

theorem Stable.and {R R' : Moment σ A W → Prop} (hR : D.Stable t R) (hR' : D.Stable t R') :
    D.Stable t fun m => R m ∧ R' m :=
  fun m m' h hm => ⟨hR m m' h hm.1, hR' m m' h hm.2⟩

theorem stable_true : D.Stable t fun _ => True := fun _ _ _ _ => trivial

theorem stable_const (p : Prop) : D.Stable t fun _ => p := fun _ _ _ h => h

theorem stable_silent : D.Stable t fun m => m.Silent t := by
  intro m m' hother hm
  cases hother with
  | call u c r w hu => exact List.forall_mem_append.mpr ⟨hm, List.forall_mem_singleton.mpr hu⟩
  | drift => exact hm

variable {post : α → Moment σ A W → Prop} {p : Program σ α}

/-- The steps of the others do not disturb a safe task. -/
theorem Safe.rely (h : D.Safe t post p m) (hr : D.Rely t m m') :
    D.Safe t post p m' := by
  cases p with
  | ret a | call c k => exact fun m'' h' => h m'' (hr.trans h')

variable {m : Moment σ A W}

theorem Safe.mono {post post' : α → Moment σ A W → Prop} (h : D.Safe t post p m)
    (hpost : ∀ a m, D.inv m → post a m → post' a m) :
    D.Safe t post' p m := by
  induction p generalizing m with
  | ret a => exact fun m' hr hi => hpost a m' hi (h m' hr hi)
  | call c k ih => exact fun m' hr hi =>
      ⟨(h m' hr hi).1, fun r w he => ih r ((h m' hr hi).2 r w he)⟩

theorem Safe.bind {post : β → Moment σ A W → Prop} {f : α → Program σ β} (hm : D.inv m)
    (h : D.Safe t (fun a m' => D.Safe t post (f a) m') p m) :
    D.Safe t post (p >>= f) m := by
  induction p generalizing m with
  | ret a => exact h m .refl hm
  | call c k ih =>
    intro m' hr hi
    obtain ⟨hmay, hk⟩ := h m' hr hi
    exact ⟨hmay, fun r w he => ih r (D.keep _ _ _ _ _ hi hmay he) (hk r w he)⟩

/-! ## The rules of the logic -/

section Rules

variable {t : A} {pre pre' : Moment σ A W → Prop}

theorem Triple.weaken {post post' : α → Moment σ A W → Prop} (h : D.Triple t pre p post)
    (hpre : ∀ m, D.inv m → pre' m → pre m) (hpost : ∀ a m, D.inv m → post a m → post' a m) :
    D.Triple t pre' p post' :=
  fun m hm hp => (h m hm (hpre m hm hp)).mono hpost

theorem Triple.given (h : D.Triple t pre p post) (hpre : ∀ m, D.inv m → pre' m → pre m) :
    D.Triple t pre' p post :=
  h.weaken hpre fun _ _ _ h => h

theorem Triple.mono {post' : α → Moment σ A W → Prop} (h : D.Triple t pre p post)
    (hpost : ∀ a m, D.inv m → post a m → post' a m) : D.Triple t pre p post' :=
  h.weaken (fun _ _ h => h) hpost

theorem triple_ret {a : α} (hpost : D.Stable t (post a)) (h : ∀ m, D.inv m → pre m → post a m) :
    D.Triple t pre (.ret a) post :=
  fun m hm hp _ hr _ => hpost.rely hr (h m hm hp)

/-- **The call rule**: the precondition survives the others and permits the call, and every effect
of the call leads into a precondition of what follows. -/
theorem triple_call {c : σ.Call} {k : σ.Reply c → Program σ α}
    (mid : σ.Reply c → Moment σ A W → Prop) (hpre : D.Stable t pre)
    (hmay : ∀ m, D.inv m → pre m → D.may t m c)
    (hmid : ∀ m r w, D.inv m → pre m → sem.effect t m c r w → mid r (m.after t c r w))
    (hk : ∀ r, D.Triple t (mid r) (k r) post) : D.Triple t pre (.call c k) post := by
  intro m hm hp m' hr hi
  have hp' := hpre.rely hr hp
  refine ⟨hmay m' hi hp', fun r w he => ?_⟩
  exact hk r _ (D.keep _ _ _ _ _ hi (hmay m' hi hp') he) (hmid m' r w hi hp' he)

theorem triple_perform {c : σ.Call} {post : σ.Reply c → Moment σ A W → Prop}
    (hpre : D.Stable t pre) (hmay : ∀ m, D.inv m → pre m → D.may t m c)
    (hpost : ∀ m r w, D.inv m → pre m → sem.effect t m c r w → post r (m.after t c r w))
    (hstable : ∀ r, D.Stable t (post r)) : D.Triple t pre (.perform c) post :=
  triple_call post hpre hmay hpost fun r => triple_ret (hstable r) fun _ _ h => h

variable {M : α → Moment σ A W → Prop}

theorem triple_bind {post : β → Moment σ A W → Prop} {f : α → Program σ β} (hp : D.Triple t pre p M)
    (hf : ∀ a, D.Triple t (M a) (f a) post) : D.Triple t pre (p >>= f) post :=
  fun m hm h => Safe.bind hm ((hp m hm h).mono fun a m' hm' h' => hf a m' hm' h')

/-- The bind rule for fallible tasks: an error of the first part is the error of the whole. -/
theorem triple_tryBind {post : Except ε β → Moment σ A W → Prop} {p : Fallible σ ε α}
    {f : α → Fallible σ ε β}
    (hp : D.Triple t pre p.run fun r m => Fallible.onResult (fun a => M a m)
      (fun e => post (.error e) m) r) (hpost : ∀ e, D.Stable t (post (.error e)))
    (hf : ∀ a, D.Triple t (M a) (f a).run post) : D.Triple t pre (p >>= f).run post := by
  rw [Fallible.run_bind]
  refine triple_bind hp fun r => ?_
  cases r with
  | ok a => exact hf a
  | error e => exact triple_ret (hpost e) fun _ _ h => h

theorem triple_liftBind {post : Except ε β → Moment σ A W → Prop} {f : α → Fallible σ ε β}
    (hp : D.Triple t pre p M) (hf : ∀ a, D.Triple t (M a) (f a).run post) :
    D.Triple t pre (liftM p >>= f : Fallible σ ε β).run post := by
  rw [Fallible.run_lift_bind]
  exact triple_bind hp hf

theorem triple_attemptBind {δ : Type} {M : Except ε α → Moment σ A W → Prop}
    {post : Except δ β → Moment σ A W → Prop} {p : Fallible σ ε α}
    {f : Except ε α → Fallible σ δ β} (hp : D.Triple t pre p.run M)
    (hf : ∀ r, D.Triple t (M r) (f r).run post) : D.Triple t pre (p.attempt >>= f).run post := by
  rw [Fallible.run_attempt_bind]
  exact triple_bind hp hf

theorem triple_mapError {δ : Type} {post : Except δ α → Moment σ A W → Prop} {f : ε → δ}
    {p : Fallible σ ε α} (hp : D.Triple t pre p.run fun r m => post (r.mapError f) m)
    (hpost : ∀ r, D.Stable t (post r)) : D.Triple t pre (p.mapError f).run post := by
  rw [Fallible.run_mapError]
  exact triple_bind hp fun r => triple_ret (hpost _) fun _ _ h => h

/-- The items of a list one after the other, with an assertion on those that are done. -/
theorem triple_foldlM {ι : Type} {J : List ι → β → Moment σ A W → Prop} {f : β → ι → Program σ β}
    (hJ : ∀ done b, D.Stable t (J done b))
    (h : ∀ done x b, D.Triple t (J done b) (f b x) (J (done ++ [x]))) (done xs : List ι) (b : β) :
    D.Triple t (J done b) (xs.foldlM f b) (J (done ++ xs)) := by
  induction xs generalizing done b with
  | nil =>
    rw [List.append_nil]
    exact triple_ret (hJ done b) fun _ _ hm => hm
  | cons x xs ih =>
    rw [List.foldlM_cons]
    refine triple_bind (h done x b) fun b' => ?_
    have hrest := ih (done ++ [x]) b'
    rwa [List.append_assoc] at hrest

theorem triple_forM {ι : Type} {f : ι → Program σ PUnit} (hR : D.Stable t R)
    (h : ∀ x, D.Triple t R (f x) fun _ => R) (xs : List ι) :
    D.Triple t R (xs.forM f) fun _ => R := by
  induction xs with
  | nil => exact triple_ret hR fun _ _ hm => hm
  | cons x xs ih => exact triple_bind (h x) fun _ => ih

variable {Q : σ.Call → Prop}

/-- **The frame rule**: a task all of whose calls are permitted and keep an assertion keeps it
too, and ends as it always does. -/
theorem triple_of_uses {S : α → Prop} (hp : p.Uses Q) (he : p.Ends S) (hR : D.Stable t R)
    (hQ : ∀ c, Q c → ∀ m, D.inv m → R m → D.may t m c ∧ ∀ r w, sem.effect t m c r w → R (m.after t c
      r w)) :
    D.Triple t R p fun a m => R m ∧ S a := by
  induction p with
  | ret a => exact triple_ret (hR.and (stable_const _)) fun _ _ h => ⟨h, he⟩
  | call c k ih =>
    exact triple_call (fun _ => R) hR (fun m hm h => (hQ c hp.1 m hm h).1)
      (fun m r w hm h he => (hQ c hp.1 m hm h).2 r w he) fun r => ih r (hp.2 r) (he r)

theorem Safe.frame (h : D.Safe t post p m) (hp : p.Uses Q) (hR : D.Stable t R)
    (hQ : ∀ c, Q c → ∀ m r w, D.inv m → R m → sem.effect t m c r w → R (m.after t c r w)) (hm : R m)
    : D.Safe t (fun a m => post a m ∧ R m) p m := by
  induction p generalizing m with
  | ret a => exact fun m' hr hi => ⟨h m' hr hi, hR.rely hr hm⟩
  | call c k ih =>
    intro m' hr hi
    obtain ⟨hmay, hk⟩ := h m' hr hi
    exact ⟨hmay, fun r w he => ih r (hk r w he) (hp.2 r) (hQ c hp.1 m' r w hi (hR.rely hr hm) he)⟩

/-- What a verified task keeps, besides what it is verified for. -/
theorem Triple.frame (h : D.Triple t pre p post) (hp : p.Uses Q) (hR : D.Stable t R)
    (hQ : ∀ c, Q c → ∀ m r w, D.inv m → R m → sem.effect t m c r w → R (m.after t c r w)) :
    D.Triple t (fun m => pre m ∧ R m) p fun a m => post a m ∧ R m :=
  fun m hm hpre => (h m hm hpre.1).frame hp hR hQ hpre.2

end Rules

/-! ## Fewer effects -/

section Restrict

variable (D) {cond : A → Moment σ A W → (c : σ.Call) → σ.Reply c → W → Prop}

/-- The same rules, for runs in which the effects of all calls also satisfy `cond`. -/
def restrict (cond : A → Moment σ A W → (c : σ.Call) → σ.Reply c → W → Prop) :
    Discipline (sem.restrict cond) where
  inv := D.inv
  may := D.may
  keep t m c r w hm hmay he := D.keep t m c r w hm hmay he.1
  keep_drift := D.keep_drift

variable {D} {t : A}

theorem Rely.of_restrict (h : (D.restrict cond).Rely t m m') :
    D.Rely t m m' := by
  refine ReflTransGen.mono (fun m m' hs => ?_) _ _ h
  cases hs with
  | call u c r w hu hm hmay he => exact .call m u c r w hu hm hmay he.1
  | drift w hm hd => exact .drift m w hm hd

theorem Safe.restrict (h : D.Safe t post p m) :
    (D.restrict cond).Safe t post p m := by
  induction p generalizing m with
  | ret a => exact fun m' hr hi => h m' hr.of_restrict hi
  | call c k ih =>
    intro m' hr hi
    obtain ⟨hmay, hk⟩ := h m' hr.of_restrict hi
    exact ⟨hmay, fun r w he => ih r (hk r w he.1)⟩

/-- What is verified for all runs is verified for these. -/
theorem Triple.restrict {pre : Moment σ A W → Prop} (h : D.Triple t pre p post) :
    (D.restrict cond).Triple t pre p post :=
  fun m hm hp => (h m hm hp).restrict

end Restrict

/-! ## Soundness -/

section Sound

variable {sem : Semantics σ (ℕ × τ) W} (D : Discipline sem)

/-- What a verified pool guarantees: the invariant, and the safety of every task still there. -/
structure Verified (post : (j : τ) → ℕ → Out j → Moment σ (ℕ × τ) W → Prop) (P : Pool σ W Out) :
    Prop where
  inv : D.inv P.moment
  safe : ∀ i j p, P.tasks[i]? = some ⟨j, some p⟩ → D.Safe (i, j) (post j i) p P.moment

variable {D} {body : (j : τ) → Program σ (Out j)}
  {post : (j : τ) → ℕ → Out j → Moment σ (ℕ × τ) W → Prop}

theorem Verified.step (spec : ∀ j i, D.Triple (i, j) (fun m => m.Silent (i, j)) (body j) (post j i))
    {P Q : Pool σ W Out} (hs : Pool.Step sem body P Q)
    (hlt : ∀ e ∈ P.moment.trace, e.agent.1 < P.tasks.length) (hP : D.Verified post P) :
    D.Verified post Q := by
  obtain ⟨hinv, hsafe⟩ := hP
  cases hs with
  | spawn m ts j =>
    refine ⟨hinv, fun i j' p hi => ?_⟩
    rw [List.getElem?_append] at hi
    split at hi
    · exact hsafe i j' p hi
    · -- the new task has made no call, so its specification applies
      obtain ⟨hi0, hj⟩ := List.getElem?_eq_some_iff.mp hi
      have hi' : i = ts.length := by simp only [List.length_singleton] at hi0; omega
      subst hi'
      simp only [Nat.sub_self, List.getElem_cons_zero] at hj
      cases hj
      exact spec j ts.length m hinv fun e he heq => Nat.ne_of_lt (hlt e he) (congrArg Prod.fst heq)
  | exec m ts i j c k r w hi he =>
    obtain ⟨hmay, hk⟩ := hsafe i j _ hi m .refl hinv
    refine ⟨D.keep _ _ _ _ _ hinv hmay he, fun i' j' p hi' => ?_⟩
    rw [List.getElem?_set] at hi'
    split at hi'
    · subst i'
      split at hi'
      · cases hi'
        exact hk r w he
      · exact absurd hi' (by simp)
    · rename_i hne
      have hother : (i, j) ≠ (i', j') := fun heq => hne (congrArg Prod.fst heq)
      exact (hsafe i' j' p hi').rely (.single (.call m (i, j) c r w hother hinv hmay he))
  | crash m ts i j c k hi =>
    refine ⟨hinv, fun i' j' p hi' => ?_⟩
    rw [List.getElem?_set] at hi'
    split at hi'
    · split at hi' <;> cases hi'
    · exact hsafe i' j' p hi'
  | drift m ts w hd =>
    exact ⟨D.keep_drift m w hinv hd, fun i j p hi =>
      (hsafe i j p hi).rely (.single (.drift m w hinv hd))⟩

/-- **Soundness**: if every task is verified from a moment at which it has made no call, then in
every reachable pool the invariant holds and every task is safe. -/
theorem sound (spec : ∀ j i, D.Triple (i, j) (fun m => m.Silent (i, j)) (body j) (post j i)) {w : W}
    (hw : D.inv ⟨w, []⟩) {P : Pool σ W Out} (h : Pool.Reachable sem body w P) :
    D.Verified post P := by
  induction h with
  | refl => exact ⟨hw, fun i j p hi => by simp [Pool.start] at hi⟩
  | tail hr hs ih => exact ih.step spec hs (Pool.Reachable.trace_task_lt hr)

/-- What every permitted call and every move of the world keep, every continuation of a run keeps.
-/
theorem preserved (spec : ∀ j i, D.Triple (i, j) (fun m => m.Silent (i, j)) (body j) (post j i))
    {w : W} (hw : D.inv ⟨w, []⟩) {P Q : Pool σ W Out} (hP : Pool.Reachable sem body w P)
    (hPQ : ReflTransGen (Pool.Step sem body) P Q) {K : Moment σ (ℕ × τ) W → Prop}
    (hcall : ∀ t m c r w, D.inv m → D.may t m c → sem.effect t m c r w → K m → K (m.after t c r w))
    (hdrift : ∀ m w, D.inv m → sem.drift m.world w → K m → K (m.drifted w)) (hK : K P.moment) :
    K Q.moment := by
  induction hPQ with
  | refl => exact hK
  | tail hr hs ih =>
    have hv := sound spec hw (hP.trans hr)
    cases hs with
    | spawn m ts j => exact ih
    | exec m ts i j c k r w hi he =>
      exact hcall _ m c r w hv.inv (hv.safe i j _ hi m .refl hv.inv).1 he ih
    | crash m ts i j c k hi => exact ih
    | drift m ts w hd => exact hdrift m w hv.inv hd ih

/-- The result of a task that has returned satisfies its postcondition. -/
theorem Verified.returned {P : Pool σ W Out} (h : D.Verified post P) {i : ℕ} {j : τ} {a : Out j}
    (hi : P.Returned i j a) : post j i a P.moment :=
  h.safe i j _ hi P.moment .refl h.inv

end Sound

end Discipline

end Interleaving
