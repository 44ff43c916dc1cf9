import ImBridge.Interleaving.Pool

/-!
# What a task has exchanged with its environment

The calls of one task with the replies to them, as a sequence of their own. Whatever the other tasks
do, the exchanges of a task lead along its body. So what a task can have done is a matter of the
task alone: a sequence of two tasks is still in the first part, or has finished it and is in the
second one.

## Main definitions

* `Exchange`: a call with the reply to it
* `Program.Goes p es q`: the exchanges lead from `p` to `q`
* `Pool.exchanges P i`: the exchanges of the `i`-th task

## Main results

* `Program.Goes.of_bind`, `Fallible.goes_bind`: the two parts of a sequence
* `Program.Goes.of_uses`: the exchanges of a task are calls of its footprint
* `Pool.Reachable.goes`: the exchanges of a task lead from its body to what is left of it
* `Pool.Reachable.steps_restrict`: only calls of the footprints are made
-/

namespace Interleaving

variable {σ : Signature} {α β ε : Type}

/-- A call with the reply to it. -/
abbrev Exchange (σ : Signature) := (c : σ.Call) × σ.Reply c

variable {c : σ.Call}

namespace Program

/-- The exchanges lead from one task to another. -/
inductive Goes : Program σ α → List (Exchange σ) → Program σ α → Prop
  | here (p : Program σ α) : Goes p [] p
  | on (c : σ.Call) (k : σ.Reply c → Program σ α) (r : σ.Reply c) (es : List (Exchange σ))
      (q : Program σ α) (h : Goes (k r) es q) : Goes (call c k) (⟨c, r⟩ :: es) q

variable {p q : Program σ α} {es : List (Exchange σ)}

@[simp] theorem goes_ret {a : α} : Goes (ret a) es q ↔ es = [] ∧ q = ret a := by
  constructor
  · intro h
    cases h
    exact ⟨rfl, rfl⟩
  · rintro ⟨rfl, rfl⟩
    exact .here _

theorem call_ne_ret (c : σ.Call) (k : σ.Reply c → Program σ α) (a : α) : call c k ≠ ret a := nofun

/-- One more call. -/
theorem Goes.snoc {k : σ.Reply c → Program σ α} (h : Goes p es (call c k)) (r : σ.Reply c) :
    Goes p (es ++ [⟨c, r⟩]) (k r) := by
  generalize hq : call c k = q at h
  induction h with
  | here p =>
    subst hq
    exact .on c k r [] _ (.here _)
  | on c' k' r' es q h ih => exact .on c' k' r' _ _ (ih hq)

theorem Goes.of_nil (h : Goes p [] q) : q = p := by
  generalize hes : ([] : List (Exchange σ)) = es at h
  cases h with
  | here => rfl
  | on => cases hes

theorem goes_call {k : σ.Reply c → Program σ α} (h : Goes (call c k) es q) :
    (es = [] ∧ q = call c k) ∨ ∃ r es', es = ⟨c, r⟩ :: es' ∧ Goes (k r) es' q := by
  cases h with
  | here => exact .inl ⟨rfl, rfl⟩
  | on _ _ r es' _ h => exact .inr ⟨r, es', rfl, h⟩

/-- **The two parts of a sequence**: the first one is under way, or it has returned and the second
one is under way. -/
theorem Goes.of_bind {p : Program σ α} {f : α → Program σ β} {q : Program σ β}
    (h : Goes (p >>= f) es q) :
    (∃ c k, Goes p es (call c k) ∧ q = call c fun r => k r >>= f) ∨
      ∃ es₁ es₂ a, es = es₁ ++ es₂ ∧ Goes p es₁ (ret a) ∧ Goes (f a) es₂ q := by
  induction p generalizing es with
  | ret a => exact .inr ⟨[], es, a, rfl, .here _, h⟩
  | call c k ih =>
    rcases goes_call h with ⟨rfl, rfl⟩ | ⟨r, es', rfl, h'⟩
    · exact .inl ⟨c, k, .here _, rfl⟩
    · rcases ih r h' with ⟨c', k', hp, hq⟩ | ⟨es₁, es₂, a, rfl, hp, hf⟩
      · exact .inl ⟨c', k', .on c k r es' _ hp, hq⟩
      · exact .inr ⟨⟨c, r⟩ :: es₁, es₂, a, rfl, .on c k r es₁ _ hp, hf⟩

/-- The exchanges of a task are calls of its footprint. -/
theorem Goes.of_uses {P : σ.Call → Prop} (h : Goes p es q) (hp : p.Uses P) : ∀ e ∈ es, P e.1 := by
  induction h with
  | here p => exact fun e he => absurd he List.not_mem_nil
  | on c k r es q h ih =>
    intro e he
    rcases List.mem_cons.mp he with rfl | he
    · exact hp.1
    · exact ih (hp.2 r) e he

theorem Goes.uses {P : σ.Call → Prop} (h : Goes p es q) (hp : p.Uses P) : q.Uses P := by
  induction h with
  | here p => exact hp
  | on c k r es q h ih => exact ih (hp.2 r)

theorem Goes.ends {Q : α → Prop} (h : Goes p es q) (hp : p.Ends Q) : q.Ends Q := by
  induction h with
  | here p => exact hp
  | on c k r es q h ih => exact ih (hp r)

end Program

/-- **The two parts of a sequence of tasks that may fail.** Nothing is returned while the first one
is under way, or once it has failed. -/
theorem Fallible.goes_bind {p : Fallible σ ε α} {f : α → Fallible σ ε β}
    {q : Program σ (Except ε β)} {es : List (Exchange σ)} (h : Program.Goes (p >>= f).run es q) :
    (∃ p', Program.Goes p.run es p') ∧ (∀ b, q ≠ .ret (.ok b)) ∨
      ∃ es₁ es₂ a, es = es₁ ++ es₂ ∧ Program.Goes p.run es₁ (.ret (.ok a)) ∧
        Program.Goes (f a).run es₂ q := by
  rw [Fallible.run_bind] at h
  rcases h.of_bind with ⟨c, k, hp, rfl⟩ | ⟨es₁, es₂, r, rfl, hp, hf⟩
  · exact .inl ⟨⟨_, hp⟩, nofun⟩
  · cases r with
    | ok a => exact .inr ⟨es₁, es₂, a, rfl, hp, hf⟩
    | error e =>
      -- nothing follows an error
      obtain ⟨rfl, rfl⟩ := Program.goes_ret.mp hf
      rw [List.append_nil]
      exact .inl ⟨⟨_, hp⟩, nofun⟩

/-- Of what is counted at most once there is only one. -/
theorem eq_of_countP_le_one {γ : Type} {l : List γ} {p : γ → Bool} (h : l.countP p ≤ 1) {x y : γ}
    (hx : x ∈ l) (hy : y ∈ l) (hpx : p x = true) (hpy : p y = true) : x = y := by
  rw [List.countP_eq_length_filter] at h
  have hmem : ∀ z, z ∈ l → p z = true → z ∈ l.filter p := fun z hz hpz =>
    List.mem_filter.mpr ⟨hz, hpz⟩
  match hfilter : l.filter p with
  | [] =>
    rw [hfilter] at hmem
    exact absurd (hmem x hx hpx) List.not_mem_nil
  | [z] =>
    rw [hfilter] at hmem
    rw [List.mem_singleton.mp (hmem x hx hpx), List.mem_singleton.mp (hmem y hy hpy)]
  | z :: z' :: rest =>
    rw [hfilter] at h
    simp at h

namespace Pool

variable {τ W : Type} {Out : τ → Type} {sem : Semantics σ (ℕ × τ) W}
  {body : (j : τ) → Program σ (Out j)}

/-- The exchanges of the `i`-th task. -/
def exchanges (P : Pool σ W Out) (i : ℕ) : List (Exchange σ) :=
  (P.moment.trace.filter (·.agent.1 == i)).map fun e => ⟨e.call, e.reply⟩

variable {P : Pool σ W Out}

/-- Events that all belong to one task are counted in its exchanges. -/
theorem countP_le_exchanges {i : ℕ} (p : Exchange σ → Bool)
    (hagent : ∀ e ∈ P.moment.trace, p ⟨e.call, e.reply⟩ = true → e.agent.1 = i) :
    (P.moment.trace.countP fun e => p ⟨e.call, e.reply⟩) = (P.exchanges i).countP p := by
  rw [exchanges, List.countP_map, List.countP_filter]
  refine List.countP_congr fun e he => ?_
  simp only [Function.comp_apply, Bool.and_eq_true, beq_iff_eq]
  exact ⟨fun hp => ⟨hp, hagent e he hp⟩, fun hp => hp.1⟩

theorem mem_exchanges {e : Event σ (ℕ × τ)} (he : e ∈ P.moment.trace) :
    ⟨e.call, e.reply⟩ ∈ P.exchanges e.agent.1 := by
  refine List.mem_map.mpr ⟨e, List.mem_filter.mpr ⟨he, ?_⟩, rfl⟩
  exact beq_self_eq_true _

/-- The step that made a given call. -/
theorem Step.of_after {P Q : Pool σ W Out} (h : Step sem body P Q) {i : ℕ} {j : τ} {r : σ.Reply c}
    {w : W} (hQ : Q.moment = P.moment.after (i, j) c r w) :
    sem.effect (i, j) P.moment c r w ∧ ∃ q, Q.tasks[i]? = some ⟨j, some q⟩ := by
  -- no other step makes the trace longer
  have hlength : Q.moment.trace.length = P.moment.trace.length + 1 := by
    rw [hQ]
    simp
  cases h with
  | spawn m ts j' | crash m ts i' j' c' k hi | drift m ts w' hd => simp at hlength
  | exec m ts i' j' c' k r' w' hi he =>
    obtain ⟨rfl, htrace⟩ := Moment.mk.inj hQ
    cases List.append_cancel_left htrace
    exact ⟨he, _, List.getElem?_set_self (List.getElem?_eq_some_iff.mp hi).1⟩

/-- **The exchanges of a task lead from its body to what is left of it**, if that is not lost. -/
theorem Reachable.goes {w : W} (h : Reachable sem body w P) :
    ∀ i j t, P.tasks[i]? = some ⟨j, t⟩ →
      ∃ q, Program.Goes (body j) (P.exchanges i) q ∧ ∀ p, t = some p → p = q := by
  induction h with
  | refl => exact fun i j t ht => absurd ht (by simp [start])
  | @tail P Q hP hs ih =>
    have hP' : Reachable sem body w P := hP
    cases hs with
    | spawn m ts j' =>
      intro i j t ht
      by_cases hi : i < ts.length
      · rw [List.getElem?_append_left hi] at ht
        exact ih i j t ht
      · -- the new task has made no call
        rw [List.getElem?_append_right (Nat.le_of_not_lt hi), List.getElem?_singleton] at ht
        split at ht
        · cases ht
          refine ⟨body j', ?_, fun p hp => (Option.some.inj hp).symm⟩
          have hnone : m.trace.filter (·.agent.1 == i) = [] := by
            refine List.filter_eq_nil_iff.mpr fun e he heq => ?_
            have hlt := hP'.trace_task_lt e he
            rw [beq_iff_eq] at heq
            exact hi (heq ▸ hlt)
          simp only [exchanges, hnone, List.map_nil]
          exact .here _
        · cases ht
    | exec m ts i' j' c k r w' hi' he =>
      intro i j t ht
      by_cases hi : i' = i
      · subst hi
        rw [List.getElem?_set_self (List.getElem?_eq_some_iff.mp hi').1] at ht
        cases ht
        obtain ⟨q, hgoes, hq⟩ := ih i' j' _ hi'
        cases hq _ rfl
        refine ⟨k r, ?_, fun p hp => (Option.some.inj hp).symm⟩
        have hsnoc := hgoes.snoc r
        simpa [exchanges] using hsnoc
      · rw [List.getElem?_set_ne hi] at ht
        obtain ⟨q, hgoes, hq⟩ := ih i j t ht
        refine ⟨q, ?_, hq⟩
        simpa [exchanges, hi] using hgoes
    | crash m ts i' j' c k hi' =>
      intro i j t ht
      by_cases hi : i' = i
      · subst hi
        rw [List.getElem?_set_self (List.getElem?_eq_some_iff.mp hi').1] at ht
        cases ht
        obtain ⟨q, hgoes, -⟩ := ih i' j' _ hi'
        exact ⟨q, hgoes, nofun⟩
      · rw [List.getElem?_set_ne hi] at ht
        exact ih i j t ht
    | drift m ts w' hd => exact ih

/-- **Only calls of the footprints are made**, so nothing need be known about others. -/
theorem Reachable.steps_restrict {F : σ.Call → Prop} (hbody : ∀ j, (body j).Uses F) {w : W}
    {P Q : Pool σ W Out} (hP : Reachable sem body w P)
    (h : Relation.ReflTransGen (Step sem body) P Q) :
    Relation.ReflTransGen (Step (sem.restrict fun _ _ c _ _ => F c) body) P Q := by
  induction h with
  | refl => exact .refl
  | @tail Q R hQ hs ih =>
    refine ih.tail ?_
    cases hs with
    | spawn m ts j => exact .spawn m ts j
    | exec m ts i j c k r w' hi he =>
      have hreach : Reachable sem body w ⟨m, ts⟩ := Relation.ReflTransGen.trans hP hQ
      obtain ⟨q, hgoes, hq⟩ := hreach.goes i j _ hi
      have huses := hgoes.uses (hbody j)
      rw [← hq _ rfl] at huses
      exact .exec m ts i j c k r w' hi ⟨he, huses.1⟩
    | crash m ts i j c k hi => exact .crash m ts i j c k hi
    | drift m ts w' hd => exact .drift m ts w' hd

end Pool

end Interleaving
