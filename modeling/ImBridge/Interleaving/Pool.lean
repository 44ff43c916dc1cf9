import Mathlib.Data.List.Induction
import Mathlib.Logic.Relation
import ImBridge.Interleaving.Program

/-!
# Pools of tasks and their interleavings

A pool holds the shared world, the trace of the calls made so far, and any number of tasks. In one
step a new task is started, some task makes its next call, a running task is lost, or the world
moves by itself. What a call may do is given by a relation, so that one semantics covers every
reply of an environment that is not under our control.

## Main definitions

* `Event`, `Moment`: a call that was made, and the world together with the calls made so far
* `Semantics`: what each call may reply and do, and how the world moves by itself
* `Semantics.restrict`: the same semantics with some effects ruled out
* `Pool`, `Pool.Step`, `Pool.Reachable`: pools and their interleavings

## Main results

* `Pool.Reachable.trace_task`: a call in the trace was made by a task of the pool
* `Pool.steps_invariant`: what every call keeps, every continuation of a run keeps
* `Pool.Reachable.forall_trace`, `Pool.Reachable.countP_le_one`: what holds of all calls that were
  made, and calls that succeed at most once
* `Pool.Returned.steps`: a task that has returned has returned for good
* `Pool.Reachable.run`: a reachable pool can run one more task to its end, undisturbed
* `Pool.exists_reachable_runs`, `Pool.exists_reachable_runs_of_check`: tasks can run to their ends
  one after the other
-/

namespace Interleaving

/-- A call that was made: by which agent, and with which reply. -/
structure Event (σ : Signature) (A : Type) where
  agent : A
  call : σ.Call
  reply : σ.Reply call

/-- The world at some point of a run, with the calls made up to it. -/
structure Moment (σ : Signature) (A W : Type) where
  world : W
  trace : List (Event σ A)

/-- What a call may reply and do when an agent makes it, and how the world moves by itself. -/
structure Semantics (σ : Signature) (A W : Type) where
  effect : A → Moment σ A W → (c : σ.Call) → σ.Reply c → W → Prop
  drift : W → W → Prop

variable {σ : Signature} {A W τ : Type} {Out : τ → Type}

/-- The moment after the agent `a` made the call `c`, got the reply `r` and left the world `w`. -/
def Moment.after (m : Moment σ A W) (a : A) (c : σ.Call) (r : σ.Reply c) (w : W) : Moment σ A W :=
  ⟨w, m.trace ++ [⟨a, c, r⟩]⟩

/-- The moment after the world moved to `w` by itself. -/
def Moment.drifted (m : Moment σ A W) (w : W) : Moment σ A W := ⟨w, m.trace⟩

variable (m : Moment σ A W)

@[simp] theorem Moment.after_world (a : A) (c : σ.Call) (r : σ.Reply c) (w : W) :
    (m.after a c r w).world = w := rfl

@[simp] theorem Moment.after_trace (a : A) (c : σ.Call) (r : σ.Reply c) (w : W) :
    (m.after a c r w).trace = m.trace ++ [⟨a, c, r⟩] := rfl

@[simp] theorem Moment.drifted_world (w : W) : (m.drifted w).world = w := rfl

@[simp] theorem Moment.drifted_trace (w : W) :
    (m.drifted w).trace = m.trace := rfl

/-- The agent has made no call yet. -/
def Moment.Silent (m : Moment σ A W) (a : A) : Prop := ∀ e ∈ m.trace, e.agent ≠ a

/-- The semantics whose effects also satisfy `cond`. -/
def Semantics.restrict (sem : Semantics σ A W)
    (cond : A → Moment σ A W → (c : σ.Call) → σ.Reply c → W → Prop) : Semantics σ A W where
  effect a m c r w := sem.effect a m c r w ∧ cond a m c r w
  drift := sem.drift

/-- A task of a pool: what it was started as, and what is left of it (nothing once lost). -/
abbrev Task (σ : Signature) (Out : τ → Type) := (j : τ) × Option (Program σ (Out j))

/-- The shared world with its history, and the tasks started so far. The `i`-th task, started as
`j`, is the agent `(i, j)`. -/
structure Pool (σ : Signature) (W : Type) (Out : τ → Type) where
  moment : Moment σ (ℕ × τ) W
  tasks : List (Task σ Out)

namespace Pool

/-- The `i`-th task, started as `j`, has returned `a`. -/
def Returned (P : Pool σ W Out) (i : ℕ) (j : τ) (a : Out j) : Prop :=
  P.tasks[i]? = some ⟨j, some (.ret a)⟩

/-- The pool with no task, before any call. -/
def start (w : W) : Pool σ W Out := ⟨⟨w, []⟩, []⟩

/-- **One step of a pool**: a task is started, makes a call, or is lost while it waits for one;
or the world moves by itself. A task that has returned stays as it is. -/
inductive Step (sem : Semantics σ (ℕ × τ) W) (body : (j : τ) → Program σ (Out j)) :
    Pool σ W Out → Pool σ W Out → Prop
  | spawn (m : Moment σ (ℕ × τ) W) (ts : List (Task σ Out)) (j : τ) :
      Step sem body ⟨m, ts⟩ ⟨m, ts ++ [⟨j, some (body j)⟩]⟩
  | exec (m : Moment σ (ℕ × τ) W) (ts : List (Task σ Out)) (i : ℕ) (j : τ) (c : σ.Call)
      (k : σ.Reply c → Program σ (Out j)) (r : σ.Reply c) (w : W)
      (hi : ts[i]? = some ⟨j, some (.call c k)⟩) (he : sem.effect (i, j) m c r w) :
      Step sem body ⟨m, ts⟩ ⟨m.after (i, j) c r w, ts.set i ⟨j, some (k r)⟩⟩
  | crash (m : Moment σ (ℕ × τ) W) (ts : List (Task σ Out)) (i : ℕ) (j : τ) (c : σ.Call)
      (k : σ.Reply c → Program σ (Out j)) (hi : ts[i]? = some ⟨j, some (.call c k)⟩) :
      Step sem body ⟨m, ts⟩ ⟨m, ts.set i ⟨j, none⟩⟩
  | drift (m : Moment σ (ℕ × τ) W) (ts : List (Task σ Out)) (w : W) (hd : sem.drift m.world w) :
      Step sem body ⟨m, ts⟩ ⟨m.drifted w, ts⟩

/-- The pools some interleaving reaches from `w`. -/
def Reachable (sem : Semantics σ (ℕ × τ) W) (body : (j : τ) → Program σ (Out j)) (w : W) :
    Pool σ W Out → Prop :=
  Relation.ReflTransGen (Step sem body) (start w)

variable {sem : Semantics σ (ℕ × τ) W} {body : (j : τ) → Program σ (Out j)} {P : Pool σ W Out}

/-- A semantics that allows more reaches more. -/
theorem Reachable.mono {sem' : Semantics σ (ℕ × τ) W} {w : W}
    (heffect : ∀ a m c r w, sem.effect a m c r w → sem'.effect a m c r w)
    (hdrift : ∀ w w', sem.drift w w' → sem'.drift w w') (h : Reachable sem body w P) :
    Reachable sem' body w P := by
  refine Relation.ReflTransGen.mono (fun P Q hs => ?_) _ _ h
  cases hs with
  | spawn m ts j => exact .spawn m ts j
  | exec m ts i j c k r w hi he => exact .exec m ts i j c k r w hi (heffect _ _ _ _ _ he)
  | crash m ts i j c k hi => exact .crash m ts i j c k hi
  | drift m ts w hd => exact .drift m ts w (hdrift _ _ hd)

theorem Step.trace_task {P Q : Pool σ W Out} (h : Step sem body P Q)
    (hP : ∀ e ∈ P.moment.trace, ∃ p, P.tasks[e.agent.1]? = some ⟨e.agent.2, p⟩) :
    ∀ e ∈ Q.moment.trace, ∃ p, Q.tasks[e.agent.1]? = some ⟨e.agent.2, p⟩ := by
  -- a task that goes on or is lost keeps what it was started as
  have hset : ∀ (ts : List (Task σ Out)) (i : ℕ) (j : τ) (p q : Option (Program σ (Out j)))
      (a : ℕ × τ), ts[i]? = some ⟨j, p⟩ → (∃ p', ts[a.1]? = some ⟨a.2, p'⟩) →
        ∃ p', (ts.set i ⟨j, q⟩)[a.1]? = some ⟨a.2, p'⟩ := by
    rintro ts i j p q ⟨i', j'⟩ hi ⟨p', hp'⟩
    by_cases heq : i = i'
    · subst heq
      rw [hi] at hp'
      cases hp'
      exact ⟨q, List.getElem?_set_self (List.getElem?_eq_some_iff.mp hi).1⟩
    · exact ⟨p', by rw [List.getElem?_set_ne heq, hp']⟩
  cases h with
  | spawn m ts j =>
    intro e he
    obtain ⟨p, hp⟩ := hP e he
    exact ⟨p, by rw [List.getElem?_append_left (List.getElem?_eq_some_iff.mp hp).1, hp]⟩
  | exec m ts i j c k r w hi he =>
    intro e he
    refine hset ts i j _ _ e.agent hi ?_
    rcases List.mem_append.mp he with he | he
    · exact hP e he
    · rw [List.mem_singleton.mp he]
      exact ⟨_, hi⟩
  | crash m ts i j c k hi => exact fun e he => hset ts i j _ _ e.agent hi (hP e he)
  | drift m ts w hd => exact hP

variable {w : W} (h : Reachable sem body w P)
include h

/-- Every call in the trace was made by a task of the pool. -/
theorem Reachable.trace_task :
    ∀ e ∈ P.moment.trace, ∃ p, P.tasks[e.agent.1]? = some ⟨e.agent.2, p⟩ := by
  induction h with
  | refl => exact fun e he => absurd he (List.not_mem_nil)
  | tail _ hs ih => exact hs.trace_task ih

theorem Reachable.trace_task_lt :
    ∀ e ∈ P.moment.trace, e.agent.1 < P.tasks.length := by
  intro e he
  obtain ⟨p, hp⟩ := h.trace_task e he
  exact (List.getElem?_eq_some_iff.mp hp).1

/-- A task is one agent throughout. -/
theorem Reachable.agent_eq {e e' : Event σ (ℕ × τ)} (he : e ∈ P.moment.trace)
    (he' : e' ∈ P.moment.trace) (hi : e.agent.1 = e'.agent.1) :
    e.agent = e'.agent := by
  obtain ⟨p, hp⟩ := h.trace_task e he
  obtain ⟨p', hp'⟩ := h.trace_task e' he'
  rw [hi, hp'] at hp
  refine Prod.ext hi ?_
  exact (congrArg Sigma.fst (Option.some.inj hp)).symm

omit h

/-- **What every call keeps, every continuation of a run keeps**, whatever the tasks are. -/
theorem steps_invariant {I : Moment σ (ℕ × τ) W → Prop}
    (hcall : ∀ t m c r w, sem.effect t m c r w → I m → I (m.after t c r w))
    (hdrift : ∀ m w, sem.drift m.world w → I m → I (m.drifted w)) {P Q : Pool σ W Out}
    (h : Relation.ReflTransGen (Step sem body) P Q) (hP : I P.moment) : I Q.moment := by
  induction h with
  | refl => exact hP
  | tail _ hs ih =>
    cases hs with
    | spawn m ts j => exact ih
    | exec m ts i j c k r w hi he => exact hcall _ m c r w he ih
    | crash m ts i j c k hi => exact ih
    | drift m ts w hd => exact hdrift m w hd ih

/-- **What holds of a call once it is made, and stays so**, holds of all calls that were made. -/
theorem Reachable.forall_trace {X : Event σ (ℕ × τ) → W → Prop}
    (hnew : ∀ t m c r w, sem.effect t m c r w → X ⟨t, c, r⟩ w)
    (hkeep : ∀ t m c r w e, sem.effect t m c r w → X e m.world → X e w)
    (hdrift : ∀ w w' e, sem.drift w w' → X e w → X e w') {w : W} (h : Reachable sem body w P) :
    ∀ e ∈ P.moment.trace, X e P.moment.world := by
  refine steps_invariant (I := fun m => ∀ e ∈ m.trace, X e m.world) ?_ ?_ h
    fun e he => absurd he List.not_mem_nil
  · intro t m c r w' heffect hm
    exact List.forall_mem_append.mpr ⟨fun e he => hkeep t m c r w' e heffect (hm e he),
      List.forall_mem_singleton.mpr (hnew t m c r w' heffect)⟩
  · intro m w' hd hm e he
    exact hdrift _ _ e hd (hm e he)

/-- **Calls that succeed at most once**: each needs that something is not done yet and does it, and
nothing undoes it. -/
theorem Reachable.countP_le_one {p : Event σ (ℕ × τ) → Bool} (Done : W → Prop)
    (hwin : ∀ t m c r w, sem.effect t m c r w → p ⟨t, c, r⟩ = true → ¬ Done m.world ∧ Done w)
    (hdone : ∀ t m c r w, sem.effect t m c r w → Done m.world → Done w)
    (hdrift : ∀ w w', sem.drift w w' → Done w → Done w') {w : W} (h : Reachable sem body w P) :
    P.moment.trace.countP p ≤ 1 := by
  -- as soon as one has succeeded it is done
  have hinv : P.moment.trace.countP p ≤ 1 ∧
    (0 < P.moment.trace.countP p → Done P.moment.world) := by
    refine steps_invariant
      (I := fun m => m.trace.countP p ≤ 1 ∧ (0 < m.trace.countP p → Done m.world)) ?_ ?_ h
      ⟨Nat.zero_le _, fun hpos => absurd hpos (Nat.lt_irrefl 0)⟩
    · rintro t m c r w' heffect ⟨hle, hm⟩
      simp only [Moment.after_trace, Moment.after_world, List.countP_append, List.countP_singleton]
      cases hp : p ⟨t, c, r⟩ with
      | true =>
        obtain ⟨hnot, hnow⟩ := hwin t m c r w' heffect hp
        have hzero : m.trace.countP p = 0 := by
          by_contra hne
          exact hnot (hm (Nat.pos_of_ne_zero hne))
        exact ⟨by simp [hzero], fun _ => hnow⟩
      | false =>
        refine ⟨by simpa using hle, fun hpos => ?_⟩
        exact hdone t m c r w' heffect (hm (by simpa using hpos))
    · rintro m w' hd ⟨hle, hm⟩
      exact ⟨hle, fun hpos => hdrift _ _ hd (hm hpos)⟩
  exact hinv.1

variable {P Q : Pool σ W Out} {i : ℕ} {j : τ} {a : Out j} (hP : P.Returned i j a)
include hP

/-- A task that has returned has returned for good. -/
theorem Returned.step (h : Step sem body P Q) : Q.Returned i j a := by
  have hset : ∀ (ts : List (Task σ Out)) (i' : ℕ) (j' : τ) (c : σ.Call)
      (k : σ.Reply c → Program σ (Out j')) (q : Option (Program σ (Out j'))),
      ts[i']? = some ⟨j', some (.call c k)⟩ → ts[i]? = some ⟨j, some (.ret a)⟩ →
        (ts.set i' ⟨j', q⟩)[i]? = some ⟨j, some (.ret a)⟩ := by
    intro ts i' j' c k q hi' hi
    have hne : i' ≠ i := by
      rintro rfl
      rw [hi] at hi'
      cases hi'
    rw [List.getElem?_set_ne hne, hi]
  cases h with
  | spawn m ts j' =>
    have hi : ts[i]? = some ⟨j, some (.ret a)⟩ := hP
    exact (List.getElem?_append_left (List.getElem?_eq_some_iff.mp hi).1).trans hi
  | exec m ts i' j' c k r w hi' he | crash m ts i' j' c k hi' => exact hset ts i' j' c k _ hi' hP
  | drift m ts w hd => exact hP

theorem Returned.steps (h : Relation.ReflTransGen (Step sem body) P Q) : Q.Returned i j a := by
  induction h with
  | refl => exact hP
  | tail _ hs ih => exact ih.step hs

omit hP

/-! ## A task that runs alone -/

/-- The world that the tasks leave when each runs to its end before the next one starts. -/
def runInTurn (body : (j : τ) → Program σ (Out j)) (handler : (c : σ.Call) → W → σ.Reply c × W)
    (w : W) (js : List τ) : W :=
  js.foldl (fun w j => ((body j).interpret handler w).2) w

theorem runInTurn_concat (handler : (c : σ.Call) → W → σ.Reply c × W) (w : W) (js : List τ)
    (j : τ) : runInTurn body handler w (js ++ [j]) =
      ((body j).interpret handler (runInTurn body handler w js)).2 := by
  rw [runInTurn, List.foldl_append]
  rfl

/-- Every call of these runs passes the check. -/
def checkInTurn (body : (j : τ) → Program σ (Out j)) (handler : (c : σ.Call) → W → σ.Reply c × W)
    (ok : τ → σ.Call → W → Bool) : W → List τ → Bool
  | _, [] => true
  | w, j :: js => (body j).check handler (ok j) w &&
      checkInTurn body handler ok ((body j).interpret handler w).2 js

theorem checkInTurn_true (handler : (c : σ.Call) → W → σ.Reply c × W) (w : W) (js : List τ) :
    checkInTurn body handler (fun _ _ _ => true) w js = true := by
  induction js generalizing w with
  | nil => rfl
  | cons j js ih =>
    rw [checkInTurn, Program.check_true, ih]
    rfl

theorem checkInTurn_concat (handler : (c : σ.Call) → W → σ.Reply c × W)
    (ok : τ → σ.Call → W → Bool) (w : W) (js : List τ) (j : τ) :
    checkInTurn body handler ok w (js ++ [j]) = (checkInTurn body handler ok w js &&
      (body j).check handler (ok j) (runInTurn body handler w js)) := by
  induction js generalizing w with
  | nil => simp [checkInTurn, runInTurn]
  | cons j' js ih =>
    rw [List.cons_append, checkInTurn, ih, checkInTurn, Bool.and_assoc]
    rfl

section Alone

variable (sem body) (handler : (c : σ.Call) → W → σ.Reply c × W) (ok : τ → σ.Call → W → Bool)
  (hh : ∀ i j m c, ok j c m.world = true →
    sem.effect (i, j) m c (handler c m.world).1 (handler c m.world).2)
include hh

/-- The last task of a pool can run to its end with the handler's replies. -/
theorem exists_run_last (m : Moment σ (ℕ × τ) W) (ts : List (Task σ Out)) (j : τ)
    (p : Program σ (Out j)) (hp : p.check handler (ok j) m.world = true) :
    ∃ trace, Relation.ReflTransGen (Step sem body) ⟨m, ts ++ [⟨j, some p⟩]⟩
      ⟨⟨(p.interpret handler m.world).2, m.trace ++ trace⟩,
        ts ++ [⟨j, some (.ret (p.interpret handler m.world).1)⟩]⟩ := by
  induction p generalizing m with
  | ret a => exact ⟨[], by rw [List.append_nil]; exact .refl⟩
  | call c k ih =>
    rw [Program.check, Bool.and_eq_true] at hp
    obtain ⟨trace, hrun⟩ := ih (handler c m.world).1
      (m.after (ts.length, j) c (handler c m.world).1 (handler c m.world).2) hp.2
    have hexec : Step sem body ⟨m, ts ++ [⟨j, some (.call c k)⟩]⟩ _ :=
      .exec m _ ts.length j c k (handler c m.world).1 (handler c m.world).2 (by simp)
        (hh _ j m c hp.1)
    rw [List.set_append_right _ _ (Nat.le_refl _), Nat.sub_self, List.set_cons_zero] at hexec
    refine ⟨⟨(ts.length, j), c, (handler c m.world).1⟩ :: trace, .head hexec ?_⟩
    simpa [Moment.after, Program.interpret_call] using hrun

/-- **A reachable pool can start one more task and run it to its end.** -/
theorem Reachable.run {w : W} (hP : Reachable sem body w P) (j : τ)
    (hj : (body j).check handler (ok j) P.moment.world = true) :
    ∃ trace, Reachable sem body w
      ⟨⟨((body j).interpret handler P.moment.world).2, P.moment.trace ++ trace⟩,
        P.tasks ++ [⟨j, some (.ret ((body j).interpret handler P.moment.world).1)⟩]⟩ := by
  obtain ⟨trace, hrun⟩ := exists_run_last sem body handler ok hh P.moment P.tasks j (body j) hj
  exact ⟨trace, (Relation.ReflTransGen.tail hP (.spawn P.moment P.tasks j)).trans hrun⟩

/-- **Tasks run to their ends one after the other**, each in the world that the ones before it
left, if all their calls pass a check that the semantics follows. -/
theorem exists_reachable_runs_of_check (w : W) (js : List τ)
    (hjs : checkInTurn body handler ok w js = true) : ∃ P : Pool σ W Out,
    Reachable sem body w P ∧ P.tasks.map (·.1) = js ∧
      P.moment.world = runInTurn body handler w js ∧
      ∀ i j a, js[i]? = some j →
        ((body j).interpret handler (runInTurn body handler w (js.take i))).1 = a →
          P.Returned i j a := by
  induction js using List.reverseRecOn with
  | nil => exact ⟨start w, .refl, rfl, rfl, fun i j a hj => by simp at hj⟩
  | append_singleton js j ih =>
    rw [checkInTurn_concat, Bool.and_eq_true] at hjs
    obtain ⟨P, hP, htasks, hw, hreturned⟩ := ih hjs.1
    have hlength : P.tasks.length = js.length := by rw [← htasks, List.length_map]
    obtain ⟨trace, hrun⟩ := hP.run sem body handler ok hh j (by rw [hw]; exact hjs.2)
    refine ⟨_, hrun, by simp [htasks], by rw [hw, runInTurn_concat], fun i j' a hj' ha => ?_⟩
    rw [List.getElem?_append] at hj'
    split at hj'
    · rename_i hi
      rw [List.take_append_of_le_length (Nat.le_of_lt hi)] at ha
      exact (List.getElem?_append_left (hlength ▸ hi)).trans (hreturned i j' a hj' ha)
    · -- the last task
      obtain ⟨hi0, hj⟩ := List.getElem?_eq_some_iff.mp hj'
      have hi : i = js.length := by simp only [List.length_singleton] at hi0; omega
      subst hi
      simp only [Nat.sub_self, List.getElem_cons_zero] at hj
      subst hj
      rw [List.take_left, ← hw] at ha
      simp [Returned, ← hlength, ha]

end Alone

/-- Tasks run to their ends one after the other, if the semantics follows the handler. -/
theorem exists_reachable_runs (sem : Semantics σ (ℕ × τ) W) (body : (j : τ) → Program σ (Out j))
    (handler : (c : σ.Call) → W → σ.Reply c × W)
    (hh : ∀ a m c, sem.effect a m c (handler c m.world).1 (handler c m.world).2) (w : W)
    (js : List τ) : ∃ P : Pool σ W Out, Reachable sem body w P ∧ P.tasks.map (·.1) = js ∧
      P.moment.world = runInTurn body handler w js ∧
      ∀ i j a, js[i]? = some j →
        ((body j).interpret handler (runInTurn body handler w (js.take i))).1 = a →
          P.Returned i j a :=
  exists_reachable_runs_of_check sem body handler (fun _ _ _ => true)
    (fun i j m c _ => hh (i, j) m c) w js (checkInTurn_true handler w js)

end Pool

end Interleaving
