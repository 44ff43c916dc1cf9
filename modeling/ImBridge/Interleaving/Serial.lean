import ImBridge.Interleaving.Transcript

/-!
# Runs in which tasks do not overlap

In a serial run a task makes its first call only when every task that has made a call has returned.
What a task does is then a matter of the task alone: its assertions are not disturbed from its first
call to its last. So an invariant of a serial run comes from a specification of each task on its
own, which says what holds at every step of it and what it leaves behind. A task that is lost on its
way blocks the tasks after it.

## Main definitions

* `Keeps`: every step of a task that runs undisturbed keeps a condition
* `Pool.SerialStep`, `Pool.SerialReachable`: the steps and runs without overlap

## Main results

* `Keeps.bind`, `Keeps.tryBind`: the rules for the parts of a task
* `Pool.SerialReachable.good`: the condition holds throughout every serial run
-/

namespace Interleaving

variable {σ : Signature} {A W α β ε : Type}

/-- From the moment `m` on, every call of the undisturbed task leaves a moment with `Good`, and the
task ends in `post`. -/
def Keeps (sem : Semantics σ A W) (t : A) (Good : Moment σ A W → Prop)
    (post : α → Moment σ A W → Prop) : Program σ α → Moment σ A W → Prop
  | .ret a, m => post a m
  | .call c k, m => ∀ r w, sem.effect t m c r w →
      Good (m.after t c r w) ∧ Keeps sem t Good post (k r) (m.after t c r w)

section Rules

variable {sem : Semantics σ A W} {t : A} {Good : Moment σ A W → Prop} {m : Moment σ A W}

variable {p : Program σ α}

theorem Keeps.imp {post post' : α → Moment σ A W → Prop} (h : Keeps sem t Good post p m)
    (hpost : ∀ a m', post a m' → post' a m') :
    Keeps sem t Good post' p m := by
  induction p generalizing m with
  | ret a => exact hpost a m h
  | call c k ih =>
    intro r w he
    exact ⟨(h r w he).1, ih r (h r w he).2⟩

theorem Keeps.bind {mid : α → Moment σ A W → Prop} {post : β → Moment σ A W → Prop}
    {f : α → Program σ β} (hp : Keeps sem t Good mid p m)
    (hf : ∀ a m', mid a m' → Keeps sem t Good post (f a) m') :
    Keeps sem t Good post (p >>= f) m := by
  induction p generalizing m with
  | ret a => exact hf a m hp
  | call c k ih =>
    intro r w he
    exact ⟨(hp r w he).1, ih r (hp r w he).2⟩

/-- An error of the first part is the error of the whole. -/
theorem Keeps.tryBind (mid : α → Moment σ A W → Prop) {post : Except ε β → Moment σ A W → Prop}
    {p : Fallible σ ε α} {f : α → Fallible σ ε β} (hp : Keeps sem t Good (fun r m' =>
      Fallible.onResult (fun a => mid a m') (fun e => post (.error e) m') r) p.run m)
    (hf : ∀ a m', mid a m' → Keeps sem t Good post (f a).run m') :
    Keeps sem t Good post (p >>= f).run m := by
  rw [Fallible.run_bind]
  refine hp.bind fun r m' hr => ?_
  cases r with
  | ok a => exact hf a m' hr
  | error e => exact hr

end Rules

namespace Pool

variable {τ : Type} {Out : τ → Type} {sem : Semantics σ (ℕ × τ) W}
  {body : (j : τ) → Program σ (Out j)}

/-- The `i`-th task has made a call. -/
def Begun (P : Pool σ W Out) (i : ℕ) : Prop := ∃ e ∈ P.moment.trace, e.agent.1 = i

/-- The `i`-th task has returned. -/
def Settled (P : Pool σ W Out) (i : ℕ) : Prop := ∃ j a, P.Returned i j a

/-- **A step without overlap**: a task makes its first call only when every task that has begun has
returned. -/
def SerialStep (sem : Semantics σ (ℕ × τ) W) (body : (j : τ) → Program σ (Out j))
    (P Q : Pool σ W Out) : Prop :=
  Step sem body P Q ∧ ∀ i j c r w, Q.moment = P.moment.after (i, j) c r w → ¬ P.Begun i →
    ∀ i', P.Begun i' → P.Settled i'

/-- The pools some run without overlap reaches from `w`. -/
def SerialReachable (sem : Semantics σ (ℕ × τ) W) (body : (j : τ) → Program σ (Out j)) (w : W) :
    Pool σ W Out → Prop :=
  Relation.ReflTransGen (SerialStep sem body) (start w)

variable {P : Pool σ W Out}

theorem SerialReachable.reachable {w : W} (h : SerialReachable sem body w P) :
    Reachable sem body w P := Relation.ReflTransGen.mono (fun _ _ hs => hs.1) _ _ h

variable {i : ℕ}

/-- A task that has not begun is still the whole of its body. -/
theorem Reachable.eq_body {w : W} (h : Reachable sem body w P) {j : τ} {p : Program σ (Out j)}
    (hi : P.tasks[i]? = some ⟨j, some p⟩) (hnew : ¬ P.Begun i) :
    p = body j := by
  obtain ⟨q, hgoes, hq⟩ := h.goes i j _ hi
  have hnone : P.exchanges i = [] := by
    rw [exchanges, List.map_eq_nil_iff, List.filter_eq_nil_iff]
    intro e he hagent
    exact hnew ⟨e, he, eq_of_beq hagent⟩
  rw [hnone] at hgoes
  rw [hq p rfl]
  exact hgoes.of_nil

/-- A task that waits for a reply has not returned. -/
theorem not_settled_of_call {j : τ} {c : σ.Call} {k : σ.Reply c → Program σ (Out j)}
    (hi : P.tasks[i]? = some ⟨j, some (.call c k)⟩) :
    ¬ P.Settled i := by
  rintro ⟨j', a, hret⟩
  rw [Returned, hi] at hret
  cases hret

theorem Settled.step {P Q : Pool σ W Out} (h : P.Settled i) (hs : Step sem body P Q) :
    Q.Settled i := by
  obtain ⟨j, a, hret⟩ := h
  exact ⟨j, a, hret.step hs⟩

/-- What a serial run keeps: between tasks there is `Idle`, and a task under way is the only one. -/
structure SerialInv (sem : Semantics σ (ℕ × τ) W) (Good Idle : Moment σ (ℕ × τ) W → Prop)
    (P : Pool σ W Out) : Prop where
  good : Good P.moment
  idle : (∀ i, P.Begun i → P.Settled i) → Idle P.moment
  active : ∀ i j c k, P.tasks[i]? = some ⟨j, some (.call c k)⟩ → P.Begun i →
    Keeps sem (i, j) Good (fun _ => Idle) (.call c k) P.moment ∧
      ∀ i', i' ≠ i → P.Begun i' → P.Settled i'

variable {Good Idle : Moment σ (ℕ × τ) W → Prop}

/-- The next call of a task, be it the first one or not. -/
theorem SerialInv.exec {w₀ : W} {m : Moment σ (ℕ × τ) W} {ts : List (Task σ Out)} {j : τ}
    {c : σ.Call} {k : σ.Reply c → Program σ (Out j)} {r : σ.Reply c} {w : W}
    (hbody : ∀ t m, Good m → Idle m → Keeps sem t Good (fun _ => Idle) (body t.2) m)
    (hreach : Reachable sem body w₀ ⟨m, ts⟩) (h : SerialInv sem Good Idle ⟨m, ts⟩)
    (hi : ts[i]? = some ⟨j, some (.call c k)⟩) (he : sem.effect (i, j) m c r w)
    (hserial : ¬ Begun (⟨m, ts⟩ : Pool σ W Out) i → ∀ i', Begun (⟨m, ts⟩ : Pool σ W Out) i' →
      Settled (⟨m, ts⟩ : Pool σ W Out) i') :
    SerialInv sem Good Idle ⟨m.after (i, j) c r w, ts.set i ⟨j, some (k r)⟩⟩ := by
  have hstep : Step sem body ⟨m, ts⟩ ⟨m.after (i, j) c r w, ts.set i ⟨j, some (k r)⟩⟩ :=
    .exec m ts i j c k r w hi he
  have hkeeps : Keeps sem (i, j) Good (fun _ => Idle) (.call c k) m ∧
      ∀ i', i' ≠ i → Begun (⟨m, ts⟩ : Pool σ W Out) i' → Settled (⟨m, ts⟩ : Pool σ W Out) i' := by
    by_cases hbegun : Begun (⟨m, ts⟩ : Pool σ W Out) i
    · exact h.active i j c k hi hbegun
    · -- the first call: nobody else is under way, and the task is its whole body
      have hall := hserial hbegun
      refine ⟨?_, fun i' _ => hall i'⟩
      have heq : Program.call c k = body j := hreach.eq_body hi hbegun
      rw [heq]
      exact hbody (i, j) m h.good (h.idle hall)
  obtain ⟨hcall, hothers⟩ := hkeeps
  obtain ⟨hgood, hrest⟩ := hcall r w he
  -- the others that have begun have returned
  have hothers' : ∀ i', i' ≠ i →
      Begun (⟨m.after (i, j) c r w, ts.set i ⟨j, some (k r)⟩⟩ : Pool σ W Out) i' →
        Settled (⟨m.after (i, j) c r w, ts.set i ⟨j, some (k r)⟩⟩ : Pool σ W Out) i' := by
    rintro i' hne ⟨e, hmem, hagent⟩
    rcases List.mem_append.mp hmem with hmem | hmem
    · exact (hothers i' hne ⟨e, hmem, hagent⟩).step hstep
    · rw [List.mem_singleton.mp hmem] at hagent
      exact absurd hagent.symm hne
  have hself : (ts.set i ⟨j, some (k r)⟩)[i]? = some ⟨j, some (k r)⟩ :=
    List.getElem?_set_self (List.getElem?_eq_some_iff.mp hi).1
  refine ⟨hgood, fun hall => ?_, fun i' j' c' k' hi' hbegun => ?_⟩
  · have hbegun : Begun (⟨m.after (i, j) c r w, ts.set i ⟨j, some (k r)⟩⟩ : Pool σ W Out) i :=
      ⟨⟨(i, j), c, r⟩, by simp, rfl⟩
    obtain ⟨j', a, hret⟩ := hall i hbegun
    obtain ⟨rfl, hk⟩ := Sigma.mk.inj (Option.some.inj (hself.symm.trans hret))
    rw [Option.some.inj (eq_of_heq hk)] at hrest
    exact hrest
  · by_cases hne : i' = i
    · subst hne
      obtain ⟨rfl, hk⟩ := Sigma.mk.inj (Option.some.inj (hself.symm.trans hi'))
      rw [Option.some.inj (eq_of_heq hk)] at hrest
      exact ⟨hrest, hothers'⟩
    · exact absurd (hothers' i' hne hbegun) (not_settled_of_call hi')

/-- **One step of a serial run.** -/
theorem SerialInv.step {w₀ : W} {P Q : Pool σ W Out} (hstill : ∀ w w', ¬ sem.drift w w')
    (hbody : ∀ t m, Good m → Idle m → Keeps sem t Good (fun _ => Idle) (body t.2) m)
    (hreach : Reachable sem body w₀ P) (h : SerialInv sem Good Idle P)
    (hs : SerialStep sem body P Q) : SerialInv sem Good Idle Q := by
  obtain ⟨hstep, hserial⟩ := hs
  have hstep' := hstep
  cases hstep with
  | exec m ts i j c k r w hi he => exact h.exec hbody hreach hi he (hserial i j c r w rfl)
  | drift m ts w hd => exact absurd hd (hstill _ _)
  | spawn m ts j =>
    -- the new task has not begun
    have hold : ∀ {i}, Begun (⟨m, ts⟩ : Pool σ W Out) i →
        (ts ++ [⟨j, some (body j)⟩])[i]? = ts[i]? := by
      rintro i ⟨e, he, rfl⟩
      exact List.getElem?_append_left (hreach.trace_task_lt e he)
    refine ⟨h.good, fun hall => h.idle fun i hbegun => ?_, fun i j' c k hi hbegun => ?_⟩
    · obtain ⟨j', a, hret⟩ := hall i hbegun
      exact ⟨j', a, (hold hbegun).symm.trans hret⟩
    · obtain ⟨hkeeps, hothers⟩ := h.active i j' c k ((hold hbegun).symm.trans hi) hbegun
      exact ⟨hkeeps, fun i' hne hbegun' => (hothers i' hne hbegun').step hstep'⟩
  | crash m ts i j c k hi =>
    have hlost : ¬ Settled (⟨m, ts.set i ⟨j, none⟩⟩ : Pool σ W Out) i := by
      rintro ⟨j', a, hret⟩
      have hnone := List.getElem?_set_self (a := (⟨j, none⟩ : Task σ Out))
        (List.getElem?_eq_some_iff.mp hi).1
      cases hnone.symm.trans hret
    have hold : ∀ {i'}, i' ≠ i → (ts.set i ⟨j, none⟩)[i']? = ts[i']? :=
      fun hne => List.getElem?_set_ne (Ne.symm hne)
    refine ⟨h.good, fun hall => h.idle fun i' hbegun => ?_, fun i' j' c' k' hi' hbegun => ?_⟩
    · have hne : i' ≠ i := by
        rintro rfl
        exact hlost (hall i' hbegun)
      obtain ⟨j', a, hret⟩ := hall i' hbegun
      exact ⟨j', a, (hold hne).symm.trans hret⟩
    · have hne : i' ≠ i := by
        rintro rfl
        have hnone := List.getElem?_set_self (a := (⟨j, none⟩ : Task σ Out))
          (List.getElem?_eq_some_iff.mp hi).1
        cases hnone.symm.trans hi'
      obtain ⟨hkeeps, hothers⟩ := h.active i' j' c' k' ((hold hne).symm.trans hi') hbegun
      refine ⟨hkeeps, fun i'' hne' hbegun' => (hothers i'' hne' hbegun').step hstep'⟩

/-- **The condition holds throughout every serial run**, if each task on its own keeps it from a
moment at which no task is under way to the next such moment. -/
theorem SerialReachable.good (Good Idle : Moment σ (ℕ × τ) W → Prop) {w : W}
    (h : SerialReachable sem body w P) (hstill : ∀ w w', ¬ sem.drift w w')
    (hbody : ∀ t m, Good m → Idle m → Keeps sem t Good (fun _ => Idle) (body t.2) m)
    (hgood : Good ⟨w, []⟩) (hidle : Idle ⟨w, []⟩) : Good P.moment := by
  have hinv : SerialInv sem Good Idle P := by
    induction h with
    | refl =>
      refine ⟨hgood, fun _ => hidle, fun i j c k _ hbegun => ?_⟩
      obtain ⟨e, he, -⟩ := hbegun
      exact absurd he List.not_mem_nil
    | tail hP hs ih => exact ih.step hstill hbody (SerialReachable.reachable hP) hs
  exact hinv.good

/-! ## Tasks one after the other -/

section InTurn

variable (sem body) (handler : (c : σ.Call) → W → σ.Reply c × W)
  (hh : ∀ i j m c, sem.effect (i, j) m c (handler c m.world).1 (handler c m.world).2)
include hh

/-- The last task of a pool runs to its end without overlap, if the others have returned. -/
theorem exists_serial_run_last (m : Moment σ (ℕ × τ) W) (ts : List (Task σ Out)) (j : τ)
    (p : Program σ (Out j)) (hts : ∀ e ∈ m.trace, e.agent.1 ≠ ts.length →
      ∃ j' a, ts[e.agent.1]? = some ⟨j', some (.ret a)⟩) :
    ∃ trace, Relation.ReflTransGen (SerialStep sem body) ⟨m, ts ++ [⟨j, some p⟩]⟩
        ⟨⟨(p.interpret handler m.world).2, m.trace ++ trace⟩,
          ts ++ [⟨j, some (.ret (p.interpret handler m.world).1)⟩]⟩ ∧
      ∀ e ∈ trace, e.agent.1 = ts.length := by
  induction p generalizing m with
  | ret a =>
    exact ⟨[], by rw [List.append_nil]; exact .refl, fun e he => absurd he List.not_mem_nil⟩
  | call c k ih =>
    have hexec : Step sem body ⟨m, ts ++ [⟨j, some (.call c k)⟩]⟩ _ :=
      .exec m _ ts.length j c k (handler c m.world).1 (handler c m.world).2 (by simp)
        (hh _ j m c)
    rw [List.set_append_right _ _ (Nat.le_refl _), Nat.sub_self, List.set_cons_zero] at hexec
    have hserial : SerialStep sem body ⟨m, ts ++ [⟨j, some (.call c k)⟩]⟩
        ⟨m.after (ts.length, j) c (handler c m.world).1 (handler c m.world).2,
          ts ++ [⟨j, some (k (handler c m.world).1)⟩]⟩ := by
      refine ⟨hexec, ?_⟩
      rintro i j' c' r w hmoment hnew i' ⟨e, he, rfl⟩
      have hagent : (ts.length, j) = (i, j') := by
        have htrace := congrArg (fun m' : Moment σ (ℕ × τ) W => m'.trace.map (·.agent)) hmoment
        simpa [Moment.after] using htrace
      have hne : e.agent.1 ≠ ts.length := by
        intro heq
        exact hnew ⟨e, he, heq.trans (congrArg Prod.fst hagent)⟩
      obtain ⟨j'', a, hret⟩ := hts e he hne
      exact ⟨j'', a, (List.getElem?_append_left (List.getElem?_eq_some_iff.mp hret).1).trans hret⟩
    obtain ⟨trace, hrun, htrace⟩ := ih (handler c m.world).1
      (m.after (ts.length, j) c (handler c m.world).1 (handler c m.world).2) (by
        intro e he hne
        rcases List.mem_append.mp he with he | he
        · exact hts e he hne
        · rw [List.mem_singleton.mp he] at hne
          exact absurd rfl hne)
    refine ⟨⟨(ts.length, j), c, (handler c m.world).1⟩ :: trace, .head hserial ?_, ?_⟩
    · simpa [Moment.after, Program.interpret_call] using hrun
    · intro e he
      rcases List.mem_cons.mp he with rfl | he
      · rfl
      · exact htrace e he

/-- **Tasks that run to their ends one after the other do not overlap.** -/
theorem exists_serialReachable_runs (w : W) (js : List τ) : ∃ P : Pool σ W Out,
    SerialReachable sem body w P ∧ P.moment.world = runInTurn body handler w js ∧
      ∀ e ∈ P.moment.trace, P.Settled e.agent.1 := by
  induction js using List.reverseRecOn with
  | nil => exact ⟨start w, .refl, rfl, fun e he => absurd he List.not_mem_nil⟩
  | append_singleton js j ih =>
    obtain ⟨⟨m, ts⟩, hP, hw, hsettled⟩ := ih
    have hspawn : SerialStep sem body ⟨m, ts⟩ ⟨m, ts ++ [⟨j, some (body j)⟩]⟩ := by
      refine ⟨.spawn m ts j, fun i j' c r w' hmoment => ?_⟩
      have hlength := congrArg (fun m' : Moment σ (ℕ × τ) W => m'.trace.length) hmoment
      simp at hlength
    obtain ⟨trace, hrun, htrace⟩ := exists_serial_run_last sem body handler hh m ts j
      (body j) fun e he _ => hsettled e he
    refine ⟨_, (Relation.ReflTransGen.tail hP hspawn).trans hrun, ?_, ?_⟩
    · rw [runInTurn_concat, ← hw]
    · intro e he
      rcases List.mem_append.mp he with he | he
      · obtain ⟨j', a, hret⟩ := hsettled e he
        exact ⟨j', a, (List.getElem?_append_left (List.getElem?_eq_some_iff.mp hret).1).trans hret⟩
      · rw [htrace e he]
        exact ⟨j, _, by simp [Returned]; rfl⟩

end InTurn

end Pool

end Interleaving
