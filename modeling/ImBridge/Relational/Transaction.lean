import Mathlib.Tactic.Common

/-!
# Transactions

A transaction reads and writes a state step by step and may stop with an error, which undoes all
that it has written.

## Main definitions

* `Transaction S ε α`: transactions on states `S` with errors `ε`
* `Transaction.demand`: stopping with an error unless a condition holds
* `Transaction.commit`: the result of a transaction, and the state after it
* `Transaction.Moves R`: a transaction that runs to its end moves the state along `R`

## Main results

* `Transaction.commit_cases`: a transaction runs to its end or has no effect
* `Transaction.run_bind_eq_ok`, `Transaction.run_demand_eq_ok`, `Transaction.run_lift_eq_ok`: the
  transactions that run to their end
* `Transaction.moves_bind`: the moves of a sequence
-/

namespace Relational

/-- A transaction on states `S`, with errors `ε`. -/
abbrev Transaction (S ε α : Type) := StateT S (Except ε) α

namespace Transaction

variable {S ε α β : Type}

/-- The result of the transaction and the state after it, which is the one before it if it
failed. -/
def commit (t : Transaction S ε α) (s : S) : Except ε α × S :=
  match t.run s with
  | .ok (a, s') => (.ok a, s')
  | .error e => (.error e, s)

/-- Stops with the error unless the condition holds. -/
def demand (cond : Prop) [Decidable cond] (error : ε) : Transaction S ε Unit :=
  if cond then pure () else throw error

variable {t : Transaction S ε α} {s s' : S} {a : α}

/-- **A transaction runs to its end or has no effect.** -/
theorem commit_cases (t : Transaction S ε α) (s : S) :
    (∃ a s', t.run s = .ok (a, s') ∧ t.commit s = (.ok a, s')) ∨
      ∃ e, t.run s = .error e ∧ t.commit s = (.error e, s) := by
  unfold commit
  cases h : t.run s with
  | ok r => exact .inl ⟨r.1, r.2, rfl, rfl⟩
  | error e => exact .inr ⟨e, rfl, rfl⟩

theorem run_eq_ok_of_commit (h : (t.commit s).1 = .ok a) : t.run s = .ok (a, (t.commit s).2) := by
  rcases commit_cases t s with ⟨a', s', hrun, hcommit⟩ | ⟨e, -, hcommit⟩
  · rw [hcommit] at h ⊢
    rw [hrun, Except.ok.inj h]
  · rw [hcommit] at h
    cases h

theorem commit_error {e : ε} (h : (t.commit s).1 = .error e) : (t.commit s).2 = s := by
  rcases commit_cases t s with ⟨a', s', -, hcommit⟩ | ⟨e', -, hcommit⟩
  · rw [hcommit] at h
    cases h
  · rw [hcommit]

/-! ## The steps of a transaction that runs to its end -/

variable {f : α → Transaction S ε β} {r : β × S}

theorem run_bind_eq_ok :
    (t >>= f).run s = .ok r ↔ ∃ a s', t.run s = .ok (a, s') ∧ (f a).run s' = .ok r := by
  rw [StateT.run_bind]
  cases h : t.run s with
  | ok p =>
    obtain ⟨a, s'⟩ := p
    constructor
    · intro hr
      exact ⟨a, s', rfl, hr⟩
    · rintro ⟨a', s'', heq, hr⟩
      cases heq
      exact hr
  | error e =>
    constructor
    · intro hr
      cases hr
    · rintro ⟨a', s'', heq, -⟩
      cases heq

variable {error : ε} {cond : Prop}

theorem run_demand_eq_ok [Decidable cond] {u : Unit} :
    (demand cond error : Transaction S ε Unit).run s = .ok (u, s') ↔ cond ∧ s' = s := by
  unfold demand
  split
  · rename_i hcond
    constructor
    · intro hr
      cases hr
      exact ⟨hcond, rfl⟩
    · rintro ⟨-, rfl⟩
      rfl
  · rename_i hcond
    constructor
    · intro hr
      cases hr
    · rintro ⟨h, -⟩
      exact absurd h hcond

theorem run_lift_eq_ok {x : Except ε α} :
    (liftM x : Transaction S ε α).run s = .ok (a, s') ↔ x = .ok a ∧ s' = s := by
  cases x with
  | ok b =>
    constructor
    · intro hr
      cases hr
      exact ⟨rfl, rfl⟩
    · rintro ⟨hb, rfl⟩
      cases hb
      rfl
  | error e =>
    constructor
    · intro hr
      cases hr
    · rintro ⟨hb, -⟩
      cases hb

theorem run_get_eq_ok {x : S} : (get : Transaction S ε S).run s = .ok (x, s') ↔ x = s ∧ s' = s := by
  constructor
  · intro hr
    cases hr
    exact ⟨rfl, rfl⟩
  · rintro ⟨rfl, rfl⟩
    rfl

theorem run_pure_eq_ok {b : α} :
    (pure a : Transaction S ε α).run s = .ok (b, s') ↔ b = a ∧ s' = s := by
  constructor
  · intro hr
    cases hr
    exact ⟨rfl, rfl⟩
  · rintro ⟨rfl, rfl⟩
    rfl

/-- A transaction that begins with a computed result. -/
theorem run_lift_bind_eq_ok {x : Except ε α} :
    ((liftM x : Transaction S ε α) >>= f).run s = .ok r ↔ ∃ a, x = .ok a ∧ (f a).run s = .ok r := by
  rw [run_bind_eq_ok]
  constructor
  · rintro ⟨a, s', hrun, hf⟩
    obtain ⟨hx, rfl⟩ := run_lift_eq_ok.mp hrun
    exact ⟨a, hx, hf⟩
  · rintro ⟨a, hx, hf⟩
    exact ⟨a, s, run_lift_eq_ok.mpr ⟨hx, rfl⟩, hf⟩

/-- A transaction that begins by reading the state. -/
theorem run_get_bind_eq_ok {f : S → Transaction S ε β} :
    (get >>= f : Transaction S ε β).run s = .ok r ↔ (f s).run s = .ok r := by
  rw [run_bind_eq_ok]
  constructor
  · rintro ⟨x, s', hrun, hf⟩
    obtain ⟨rfl, rfl⟩ := run_get_eq_ok.mp hrun
    exact hf
  · intro hf
    exact ⟨s, s, run_get_eq_ok.mpr ⟨rfl, rfl⟩, hf⟩

/-- A transaction that begins with a demand. -/
theorem run_demand_bind_eq_ok [Decidable cond] {f : Unit → Transaction S ε β} :
    (demand cond error >>= f).run s = .ok r ↔ cond ∧ (f ()).run s = .ok r := by
  rw [run_bind_eq_ok]
  constructor
  · rintro ⟨u, s', hrun, hf⟩
    obtain ⟨hcond, rfl⟩ := run_demand_eq_ok.mp hrun
    exact ⟨hcond, hf⟩
  · rintro ⟨hcond, hf⟩
    exact ⟨(), s, run_demand_eq_ok.mpr ⟨hcond, rfl⟩, hf⟩

/-! ## Moves of the state -/

/-- From the state before the transaction to the one after it, unless it fails. -/
def Moves (R : S → S → Prop) (t : Transaction S ε α) : Prop :=
  ∀ s a s', t.run s = .ok (a, s') → R s s'

section Moves

variable {R : S → S → Prop}

/-- **The moves of a sequence** are those of its parts. -/
theorem moves_bind (htrans : ∀ s s' s'', R s s' → R s' s'' → R s s'') (ht : Moves R t)
    (hf : ∀ a, Moves R (f a)) : Moves R (t >>= f) := by
  intro s b s'' h
  obtain ⟨a, s', hrun, hrest⟩ := run_bind_eq_ok.mp h
  exact htrans s s' s'' (ht s a s' hrun) (hf a s' b s'' hrest)

variable (hrefl : ∀ s, R s s)
include hrefl

theorem moves_pure : Moves R (pure a : Transaction S ε α) := by
  intro s b s' h
  obtain ⟨-, rfl⟩ := run_pure_eq_ok.mp h
  exact hrefl _

theorem moves_get : Moves R (get : Transaction S ε S) := by
  intro s b s' h
  obtain ⟨-, rfl⟩ := run_get_eq_ok.mp h
  exact hrefl _

theorem moves_lift (x : Except ε α) : Moves R (liftM x : Transaction S ε α) := by
  intro s b s' h
  obtain ⟨-, rfl⟩ := run_lift_eq_ok.mp h
  exact hrefl _

theorem moves_demand [Decidable cond] :
    Moves R (demand cond error : Transaction S ε Unit) := by
  intro s b s' h
  obtain ⟨-, rfl⟩ := run_demand_eq_ok.mp h
  exact hrefl _

omit hrefl in
theorem moves_throw : Moves R (throw error : Transaction S ε α) := by
  intro s b s' h
  cases h

end Moves

end Transaction

end Relational
