import ImBridge.Interleaving.Pool

/-!
# The worlds a run has passed through

An assertion speaks about the world as it is. What was so at some earlier time is said with the help
of a record: the world together with all earlier worlds of the run. Every run has a recorded run
with the same calls, and every world in its record is the one of a pool that the run has passed
through.

## Main definitions

* `Recorded`: a world and the earlier ones
* `Semantics.recorded`: the same semantics, which also keeps the record

## Main results

* `Pool.Reachable.exists_recorded`: every run has a recorded one
-/

namespace Interleaving

open Relation

variable {σ : Signature} {A W τ : Type} {Out : τ → Type}

/-- The world, and the earlier worlds of the run. -/
structure Recorded (W : Type) where
  now : W
  past : List W

/-- The moment without its record. -/
def Moment.current (m : Moment σ A (Recorded W)) : Moment σ A W := ⟨m.world.now, m.trace⟩

/-- The semantics that records each world it leaves. -/
def Semantics.recorded (sem : Semantics σ A W) : Semantics σ A (Recorded W) where
  effect a m c r w := sem.effect a m.current c r w.now ∧ w.past = m.world.now :: m.world.past
  drift w w' := sem.drift w.now w'.now ∧ w'.past = w.now :: w.past

namespace Pool

/-- The pool without its record. -/
def current (R : Pool σ (Recorded W) Out) : Pool σ W Out := ⟨R.moment.current, R.tasks⟩

variable {sem : Semantics σ (ℕ × τ) W} {body : (j : τ) → Program σ (Out j)} {w : W}

/-- The recorded worlds are those of pools that lie on the way to `P`. -/
def OnTheWay (sem : Semantics σ (ℕ × τ) W) (body : (j : τ) → Program σ (Out j)) (w : W)
    (P : Pool σ W Out) (past : List W) : Prop :=
  ∀ v ∈ past, ∃ Q, Reachable sem body w Q ∧ ReflTransGen (Step sem body) Q P ∧ Q.moment.world = v

variable {P Q : Pool σ W Out} {past : List W} (h : OnTheWay sem body w P past)
include h

theorem OnTheWay.step (hs : Step sem body P Q) : OnTheWay sem body w Q past := by
  intro v hv
  obtain ⟨Q', hreach, hway, hworld⟩ := h v hv
  exact ⟨Q', hreach, hway.tail hs, hworld⟩

theorem OnTheWay.cons (hP : Reachable sem body w P) (hs : Step sem body P Q) :
    OnTheWay sem body w Q (P.moment.world :: past) := by
  intro v hv
  rcases List.mem_cons.mp hv with rfl | hv
  · exact ⟨P, hP, .single hs, rfl⟩
  · exact h.step hs v hv

omit h

/-- **Every run has a recorded one**, whose record holds the worlds it has passed through. -/
theorem Reachable.exists_recorded {P : Pool σ W Out} (h : Reachable sem body w P) :
    ∃ R, Reachable sem.recorded body ⟨w, []⟩ R ∧ R.current = P ∧
      OnTheWay sem body w P R.moment.world.past := by
  induction h with
  | refl => exact ⟨start ⟨w, []⟩, .refl, rfl, fun v hv => absurd hv List.not_mem_nil⟩
  | tail hreach hs ih =>
    obtain ⟨⟨⟨⟨v, past⟩, trace⟩, ts⟩, hR, rfl, hway⟩ := ih
    -- the recorded run makes the same step, and adds the world it leaves
    cases hs with
    | spawn _ _ j =>
      exact ⟨⟨⟨⟨v, past⟩, trace⟩, ts ++ [⟨j, some (body j)⟩]⟩, hR.tail (.spawn _ _ j), rfl,
        hway.step (.spawn _ _ j)⟩
    | exec _ _ i j c k r w' hi he =>
      have heffect : sem.recorded.effect (i, j) ⟨⟨v, past⟩, trace⟩ c r ⟨w', v :: past⟩ := ⟨he, rfl⟩
      exact ⟨_, hR.tail (Step.exec _ ts i j c k r _ hi heffect), rfl,
        hway.cons hreach (.exec _ _ i j c k r w' hi he)⟩
    | crash _ _ i j c k hi =>
      exact ⟨⟨⟨⟨v, past⟩, trace⟩, ts.set i ⟨j, none⟩⟩, hR.tail (.crash _ _ i j c k hi), rfl,
        hway.step (.crash _ _ i j c k hi)⟩
    | drift _ _ w' hd =>
      have hdrift : sem.recorded.drift ⟨v, past⟩ ⟨w', v :: past⟩ := ⟨hd, rfl⟩
      have hs : Step sem.recorded body _ _ := Step.drift (Moment.mk ⟨v, past⟩ trace) ts _ hdrift
      exact ⟨_, hR.tail hs, rfl, hway.cons hreach (.drift _ _ w' hd)⟩

end Pool

end Interleaving
