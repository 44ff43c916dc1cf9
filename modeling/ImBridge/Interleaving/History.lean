import ImBridge.Interleaving.RelyGuarantee

/-!
# What an agent has done

Assertions on the own history of an agent. The other agents cannot change what an agent has done,
so both having done something and not having done it survive them. Calls that each agent makes at
most once are counted over a whole run.

## Main definitions

* `Moment.Did`: the agent has made such a call, with such a reply
* `Moment.EachOnce`: no agent has made two such calls
* `Discipline.Steady`: an assertion that survives the other agents and the calm calls of one's own

## Main results

* `Moment.EachOnce.after`: a call that is a first one keeps it
* `Moment.EachOnce.countP_le_one`: events of one agent, counted
* `Discipline.triple_of_calm`: a task whose calls are calm keeps a steady assertion
-/

namespace Interleaving

variable {σ : Signature} {A W α : Type} {c : σ.Call} {r : σ.Reply c} {w : W}

namespace Moment

variable {m : Moment σ A W} {a b : A} {P : (c : σ.Call) → σ.Reply c → Prop} {Q : σ.Call → Prop}

/-- The agent has made a call and got a reply to it that satisfy `P`. -/
def Did (m : Moment σ A W) (a : A) (P : (c : σ.Call) → σ.Reply c → Prop) : Prop :=
  ∃ e ∈ m.trace, e.agent = a ∧ P e.call e.reply

theorem did_after :
    (m.after b c r w).Did a P ↔ m.Did a P ∨ (b = a ∧ P c r) := by
  constructor
  · rintro ⟨e, he, ha, hP⟩
    rcases List.mem_append.mp he with he | he
    · exact .inl ⟨e, he, ha, hP⟩
    · rw [List.mem_singleton] at he
      subst he
      exact .inr ⟨ha, hP⟩
  · rintro (⟨e, he, ha, hP⟩ | ⟨ha, hP⟩)
    · exact ⟨e, List.mem_append_left _ he, ha, hP⟩
    · exact ⟨_, List.mem_append_right _ List.mem_cons_self, ha, hP⟩

theorem Did.after (h : m.Did a P) :
    (m.after b c r w).Did a P :=
  did_after.mpr (.inl h)

theorem did_after_self (h : P c r) :
    (m.after a c r w).Did a P :=
  did_after.mpr (.inr ⟨rfl, h⟩)

theorem Did.imp {P' : (c : σ.Call) → σ.Reply c → Prop} (h : m.Did a P)
    (hP : ∀ c r, P c r → P' c r) : m.Did a P' := by
  obtain ⟨e, he, ha, hPe⟩ := h
  exact ⟨e, he, ha, hP _ _ hPe⟩

theorem Silent.not_did (h : m.Silent a) : ¬ m.Did a P := by
  rintro ⟨e, he, ha, -⟩
  exact h e he ha

/-- No agent has made two calls that satisfy `Q`. -/
def EachOnce (m : Moment σ A W) (Q : σ.Call → Prop) : Prop :=
  m.trace.Pairwise fun e e' => e.agent = e'.agent → ¬ (Q e.call ∧ Q e'.call)

theorem EachOnce.after (h : m.EachOnce Q) (hc : Q c → ¬ m.Did b fun c _ => Q c) :
    (m.after b c r w).EachOnce Q := by
  refine List.pairwise_append.mpr ⟨h, List.pairwise_singleton _ _, fun e he e' he' => ?_⟩
  rw [List.mem_singleton] at he'
  subst he'
  rintro ha ⟨hQe, hQc⟩
  exact hc hQc ⟨e, he, ha, hQe⟩

/-- Events that all belong to one agent, and are such calls, are at most one. -/
theorem EachOnce.countP_le_one (h : m.EachOnce Q) {p : Event σ A → Bool}
    (hQ : ∀ e ∈ m.trace, p e = true → Q e.call)
    (hagent : ∀ e ∈ m.trace, ∀ e' ∈ m.trace, p e = true → p e' = true → e.agent = e'.agent) :
    m.trace.countP p ≤ 1 := by
  rw [List.countP_eq_length_filter]
  have hfilter := List.Pairwise.filter p h
  match hevents : m.trace.filter p with
  | [] => exact Nat.zero_le _
  | [_] => exact Nat.le_refl _
  | e :: e' :: rest =>
    exfalso
    have hmem : ∀ x ∈ e :: e' :: rest, x ∈ m.trace ∧ p x = true := by
      intro x hx
      rw [← hevents] at hx
      exact List.mem_filter.mp hx
    obtain ⟨he, hpe⟩ := hmem e (by simp)
    obtain ⟨he', hpe'⟩ := hmem e' (by simp)
    rw [hevents, List.pairwise_cons] at hfilter
    exact hfilter.1 e' (by simp) (hagent e he e' he' hpe hpe') ⟨hQ e he hpe, hQ e' he' hpe'⟩

end Moment

namespace Discipline

variable {sem : Semantics σ A W} {D : Discipline sem} {t : A}
  {P : (c : σ.Call) → σ.Reply c → Prop}

theorem stable_did : D.Stable t fun m => m.Did t P := by
  intro m m' h hm
  cases h with
  | call u c r w hu hinv hmay he => exact hm.after
  | drift w hinv hd => exact hm

theorem stable_not_did : D.Stable t fun m => ¬ m.Did t P := by
  intro m m' h hm
  cases h with
  | call u c r w hu hinv hmay he =>
    rw [Moment.did_after]
    rintro (hdid | ⟨rfl, -⟩)
    · exact hm hdid
    · exact hu rfl
  | drift w hinv hd => exact hm

/-! ## Calm calls

Calls that leave the world as it is, are always permitted, and are none of those that assertions
speak about. -/

/-- The assertion survives the other agents, and the agent's own calls that satisfy `calm`. -/
structure Steady (D : Discipline sem) (calm : σ.Call → Prop) (t : A)
    (R : Moment σ A W → Prop) : Prop where
  stable : D.Stable t R
  own : ∀ m c r, calm c → R m → R (m.after t c r m.world)

variable {calm : σ.Call → Prop} {R R' : Moment σ A W → Prop}

theorem Steady.and (h : D.Steady calm t R) (h' : D.Steady calm t R') :
    D.Steady calm t fun m => R m ∧ R' m :=
  ⟨h.stable.and h'.stable, fun m c r hc hm => ⟨h.own m c r hc hm.1, h'.own m c r hc hm.2⟩⟩

theorem Steady.or (h : D.Steady calm t R) (h' : D.Steady calm t R') :
    D.Steady calm t fun m => R m ∨ R' m :=
  ⟨fun m m' ho hm => hm.imp (h.stable m m' ho) (h'.stable m m' ho),
    fun m c r hc hm => hm.imp (h.own m c r hc) (h'.own m c r hc)⟩

theorem Steady.imp {p : Prop} (h : p → D.Steady calm t R) : D.Steady calm t fun m => p → R m :=
  ⟨fun m m' ho hm hp => (h hp).stable m m' ho (hm hp),
    fun m c r hc hm hp => (h hp).own m c r hc (hm hp)⟩

theorem steady_true : D.Steady calm t fun _ => True :=
  ⟨stable_true, fun _ _ _ _ _ => trivial⟩

theorem steady_did : D.Steady calm t fun m => m.Did t P :=
  ⟨stable_did, fun _ _ _ _ hm => hm.after⟩

theorem steady_not_did (hP : ∀ c r, calm c → ¬ P c r) : D.Steady calm t fun m => ¬ m.Did t P := by
  refine ⟨stable_not_did, fun m c r hc hm => ?_⟩
  rw [Moment.did_after]
  rintro (hdid | ⟨-, hPc⟩)
  · exact hm hdid
  · exact hP c r hc hPc

/-- The discipline permits calm calls, which leave the world as it is. -/
structure Permits (D : Discipline sem) (calm : σ.Call → Prop) : Prop where
  may : ∀ t m c, calm c → D.may t m c
  world : ∀ t m c r w, calm c → sem.effect t m c r w → w = m.world

theorem Permits.keep (h : D.Permits calm) (hR : D.Steady calm t R) {m : Moment σ A W} (hc : calm c)
    (hm : R m) (he : sem.effect t m c r w) :
    R (m.after t c r w) := by
  obtain rfl := h.world t m c r w hc he
  exact hR.own m c r hc hm

/-- **A task whose calls are calm keeps a steady assertion.** -/
theorem triple_of_calm (h : D.Permits calm) (hR : D.Steady calm t R) {S : α → Prop}
    {p : Program σ α} (hp : p.Uses calm) (he : p.Ends S) : D.Triple t R p fun a m => R m ∧ S a :=
  triple_of_uses hp he hR.stable fun c hc m _ hm =>
    ⟨h.may t m c hc, fun _ _ heff => h.keep hR hc hm heff⟩

end Discipline

end Interleaving
