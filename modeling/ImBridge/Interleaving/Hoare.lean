import ImBridge.Interleaving.Program

/-!
# Triples for one task on its own

Pre- and postconditions of a task that a handler runs from its first call to its last. The handler
answers every call, so a triple also says that the task ends.

## Main definitions

* `Hoare`: from every state that satisfies the precondition, the run ends in the postcondition

## Main results

* `Hoare.bind`, `hoare_perform`, `hoare_ret`: the rules of the logic, with `Hoare.tryBind`,
  `Hoare.liftBind` and `Hoare.attemptBind` for fallible tasks
* `hoare_mapM`: the items of a list one after the other
* `hoare_of_uses`: a task that only makes harmless calls keeps an invariant
-/

namespace Interleaving

open Program

variable {σ : Signature} {α β ε δ S : Type}

/-- From every state that satisfies `pre`, the run of the task ends with a result and a state that
satisfy `post`. -/
def Hoare (h : (c : σ.Call) → S → σ.Reply c × S) (pre : S → Prop) (p : Program σ α)
    (post : α → S → Prop) : Prop :=
  ∀ s, pre s → post (p.interpret h s).1 (p.interpret h s).2

variable {h : (c : σ.Call) → S → σ.Reply c × S} {pre pre' : S → Prop} {p : Program σ α}

theorem Hoare.weaken {post post' : α → S → Prop} (hp : Hoare h pre p post)
    (hpre : ∀ s, pre' s → pre s) (hpost : ∀ a s, post a s → post' a s) : Hoare h pre' p post' :=
  fun s hs => hpost _ _ (hp s (hpre s hs))

theorem Hoare.mono {post post' : α → S → Prop} (hp : Hoare h pre p post)
    (hpost : ∀ a s, post a s → post' a s) : Hoare h pre p post' :=
  hp.weaken (fun _ h => h) hpost

theorem hoare_ret {post : α → S → Prop} {a : α} (hpost : ∀ s, pre s → post a s) :
    Hoare h pre (.ret a) post :=
  hpost

theorem hoare_perform {c : σ.Call} {post : σ.Reply c → S → Prop}
    (hpost : ∀ s, pre s → post (h c s).1 (h c s).2) : Hoare h pre (.perform c) post :=
  hpost

variable {M : α → S → Prop}

theorem Hoare.bind {post : β → S → Prop} {f : α → Program σ β} (hp : Hoare h pre p M)
    (hf : ∀ a, Hoare h (M a) (f a) post) :
    Hoare h pre (p >>= f) post := by
  intro s hs
  rw [interpret_bind]
  exact hf _ _ (hp s hs)

variable {f : α → Fallible σ ε β}

/-- An error of the first part is the error of the whole. -/
theorem Hoare.tryBind {post : Except ε β → S → Prop} {p : Fallible σ ε α}
    (hp : Hoare h pre p.run fun r s => Fallible.onResult (fun a => M a s) (fun e => post (.error e)
      s) r) (hf : ∀ a, Hoare h (M a) (f a).run post) : Hoare h pre (p >>= f).run post := by
  rw [Fallible.run_bind]
  refine hp.bind fun r => ?_
  cases r with
  | ok a => exact hf a
  | error e => exact hoare_ret fun _ hs => hs

theorem Hoare.liftBind {post : Except ε β → S → Prop} (hp : Hoare h pre p M)
    (hf : ∀ a, Hoare h (M a) (f a).run post) :
    Hoare h pre (liftM p >>= f : Fallible σ ε β).run post := by
  rw [Fallible.run_lift_bind]
  exact hp.bind hf

theorem Hoare.attemptBind {M : Except ε α → S → Prop} {post : Except δ β → S → Prop}
    {p : Fallible σ ε α} {f : Except ε α → Fallible σ δ β} (hp : Hoare h pre p.run M)
    (hf : ∀ r, Hoare h (M r) (f r).run post) : Hoare h pre (p.attempt >>= f).run post := by
  rw [Fallible.run_attempt_bind]
  exact hp.bind hf

/-- The items of a list one after the other, none of which fails. -/
theorem hoare_mapM {I : S → Prop}
    (hf : ∀ a, Hoare h I (f a).run fun r s => Fallible.onResult (fun _ => I s) (fun _ => False) r)
    (as : List α) : Hoare h I (as.mapM f).run fun r s =>
      Fallible.onResult (fun _ => I s) (fun _ => False) r := by
  induction as with
  | nil => exact hoare_ret fun s hs => hs
  | cons a as ih =>
    rw [List.mapM_cons]
    refine Hoare.tryBind (hf a) fun b => ?_
    refine Hoare.tryBind ih fun bs => ?_
    exact hoare_ret fun s hs => hs

/-- **The frame rule**: a task whose calls keep an invariant keeps it too, and ends as it always
does. -/
theorem hoare_of_uses {I : S → Prop} {Q : σ.Call → Prop} {R : α → Prop} (hp : p.Uses Q)
    (he : p.Ends R) (hQ : ∀ c, Q c → ∀ s, I s → I (h c s).2) :
    Hoare h I p fun a s => I s ∧ R a := by
  induction p with
  | ret a => exact hoare_ret fun _ hs => ⟨hs, he⟩
  | call c k ih => exact fun s hs => ih _ (hp.2 _) (he _) _ (hQ c hp.1 s hs)

end Interleaving
