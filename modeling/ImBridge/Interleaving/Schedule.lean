import ImBridge.Interleaving.Pool

/-!
# Interleavings by a schedule

A schedule says which task is started or makes its next call, one move after the other, with a
choice for each call where the semantics leaves its effect open. Following a schedule is a
computation, so that a pool some interleaving reaches can be found by evaluation.

## Main definitions

* `Move`: the moves of a schedule
* `Pool.follow`: the pool after a schedule, if all its moves can be made
* `Pool.returned?`: what a task has returned

## Main results

* `Pool.steps_of_follow`: what a schedule leads to, some interleaving reaches
-/

namespace Interleaving

variable {σ : Signature} {W τ κ : Type} {Out : τ → Type}

/-- A task is started, or the `i`-th task makes its next call. -/
inductive Move (τ κ : Type)
  | spawn (j : τ)
  | exec (i : ℕ) (choice : κ)

namespace Pool

variable (act : κ → ℕ × τ → Moment σ (ℕ × τ) W → (c : σ.Call) → Option (σ.Reply c × W))
  (body : (j : τ) → Program σ (Out j))

/-- The pool after the move, if it can be made. -/
def move (P : Pool σ W Out) : Move τ κ → Option (Pool σ W Out)
  | .spawn j => some ⟨P.moment, P.tasks ++ [⟨j, some (body j)⟩]⟩
  | .exec i choice =>
    match P.tasks[i]? with
    | some ⟨j, some (.call c k)⟩ =>
      (act choice (i, j) P.moment c).map fun rw =>
        ⟨P.moment.after (i, j) c rw.1 rw.2, P.tasks.set i ⟨j, some (k rw.1)⟩⟩
    | _ => none

/-- The pool after all the moves. -/
def follow (P : Pool σ W Out) (moves : List (Move τ κ)) : Option (Pool σ W Out) :=
  moves.foldlM (move act body) P

theorem follow_append (P : Pool σ W Out) (moves moves' : List (Move τ κ)) :
    P.follow act body (moves ++ moves') =
      (P.follow act body moves).bind fun Q => Q.follow act body moves' := by
  rw [follow, List.foldlM_append]
  rfl

variable {act body} {sem : Semantics σ (ℕ × τ) W}

variable (hact : ∀ choice t m c r w, act choice t m c = some (r, w) → sem.effect t m c r w)
include hact

theorem step_of_move {P Q : Pool σ W Out} {mv : Move τ κ} (h : P.move act body mv = some Q) :
    Step sem body P Q := by
  obtain ⟨m, ts⟩ := P
  cases mv with
  | spawn j =>
    cases h
    exact .spawn m ts j
  | exec i choice =>
    simp only [move] at h
    split at h
    · rename_i j c k hi
      obtain ⟨⟨r, w⟩, hr, rfl⟩ := Option.map_eq_some_iff.mp h
      exact .exec m ts i j c k r w hi (hact choice _ m c r w hr)
    · cases h

/-- **What a schedule leads to, some interleaving reaches.** -/
theorem steps_of_follow {P Q : Pool σ W Out} {moves : List (Move τ κ)}
    (h : P.follow act body moves = some Q) :
    Relation.ReflTransGen (Step sem body) P Q := by
  induction moves generalizing P with
  | nil =>
    cases h
    exact .refl
  | cons mv moves ih =>
    obtain ⟨P', hmv, hrest⟩ := Option.bind_eq_some_iff.mp h
    exact .head (step_of_move hact hmv) (ih hrest)

omit hact

/-- What the `i`-th task has returned, if it was started as `j`. -/
def returned? [DecidableEq τ] (P : Pool σ W Out) (i : ℕ) (j : τ) : Option (Out j) :=
  match P.tasks[i]? with
  | some ⟨j', some (.ret a)⟩ => if h : j' = j then some (h ▸ a) else none
  | _ => none

theorem returned_of_returned? [DecidableEq τ] {P : Pool σ W Out} {i : ℕ} {j : τ} {a : Out j}
    (h : P.returned? i j = some a) : P.Returned i j a := by
  unfold returned? at h
  split at h
  · rename_i j' a' htask
    split at h
    · rename_i heq
      subst heq
      cases h
      exact htask
    · cases h
  · cases h

end Pool

end Interleaving
