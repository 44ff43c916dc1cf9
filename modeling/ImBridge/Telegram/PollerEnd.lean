import ImBridge.Interleaving.History
import ImBridge.Telegram.PollerExit

/-!
# How a poller ends

A poller that ends has given back what its runtime holds, unless it ends early: when the configured
address of Telegram is refused, or its offset cannot be read, it returns without giving anything
back.

## Main definitions

* `PollerCall.Routine`: the calls of a poller between its start and its end
* `EndedEarly`: the address was refused, or the offset could not be read
* `PollerEnded`: what is left of a poller that has ended

## Main results

* `triple_pollerTask_ended`: what a poller leaves when it ends
-/

namespace ImBridge

open Interleaving Discipline

variable {χ : Signature} {lib : Primitives} {app : UpdateHandler χ} {me : String → Json}

/-! ## The work of a poller -/

/-- The calls that a poller makes between its start and its end. -/
@[grind]
def PollerCall.Routine : PollerCall χ → Prop
  | .inbox (.selectOffset _) => False
  | .inbox _ | .beginTx | .inTx _ | .commitTx | .getUpdates .. | .spawnGroup _ | .joinGroups => True
  | c => c.Ordinary

section Footprints

variable {botId : String} {guard : PollerOwnershipGuard}

theorem routine_of_ordinary (c : PollerCall χ) (hc : c.Ordinary) : c.Routine := by
  cases c <;> first | exact hc | exact hc.elim

@[grind ←]
theorem routine_txStep {α : Type} {p : PollerProgram χ (Except SqlError α)}
    (hp : p.Uses PollerCall.Routine) : Fallible.Uses PollerCall.Routine (txStep p) :=
  Program.uses_bind hp fun _ => Program.uses_ret _

@[grind ←]
theorem routine_persistUpdate (updateId : ℤ) (update : Json) (now : String) :
    Fallible.Uses PollerCall.Routine (persistUpdate (χ := χ) lib botId updateId update now) := by
  unfold persistUpdate
  grind

@[grind ←]
theorem routine_persistUpdates (now : String) (updates : List Json) (persisted : List (ℤ × Json))
    (offset : ℤ) : Fallible.Uses PollerCall.Routine
      (persistUpdates (χ := χ) lib botId now updates persisted offset) := by
  induction updates generalizing persisted offset with
  | nil => exact Fallible.uses_pure _
  | cons update updates ih =>
    unfold persistUpdates
    grind

theorem routine_persistUpdateBatch (updates : List Json) (offset : ℤ) :
    (persistUpdateBatch (χ := χ) lib botId updates offset).Uses PollerCall.Routine := by
  have htx : Fallible.Uses PollerCall.Routine
      (persistTransaction (χ := χ) lib botId updates offset) := by
    unfold persistTransaction
    grind
  refine Program.uses_bind htx fun r => ?_
  cases r <;> exact Program.uses_ret _

@[grind ←]
theorem routine_takeBatch (updates : List Json) (offset : ℤ) :
    (takeBatch (χ := χ) lib botId updates offset).Uses PollerCall.Routine := by
  have hspawn : ∀ groups, (spawnGroups (χ := χ) groups).Uses PollerCall.Routine := by
    intro groups
    induction groups with
    | nil => exact Program.uses_ret _
    | cons group groups ih => exact Program.uses_bind (uses_askPoller trivial) fun _ => ih
  have hpersist : (persistUpdateBatch (χ := χ) lib botId updates offset).Uses PollerCall.Routine :=
    routine_persistUpdateBatch updates offset
  unfold takeBatch
  grind

@[grind ←]
theorem routine_pollUpdates (offset : ℤ) :
    (pollUpdates (χ := χ) lib botId offset).Uses PollerCall.Routine := by
  unfold pollUpdates
  grind

theorem routine_pollRound (offset : ℤ) :
    (pollRound lib app botId guard offset).Uses PollerCall.Routine := by
  have howner : (stillOwner (χ := χ) guard).Uses PollerCall.Routine :=
    uses_stillOwner routine_of_ordinary
  have hoperations : (recoverDueOperations app botId guard).Uses PollerCall.Routine :=
    uses_recoverDueOperations routine_of_ordinary
  have hinbox : (recoverDueUpdates lib app botId guard).Uses PollerCall.Routine :=
    uses_recoverDueUpdates routine_of_ordinary (fun _ _ _ => trivial) fun _ => trivial
  unfold pollRound
  grind

theorem routine_pollLoop (rounds : ℕ) (offset : ℤ) :
    (pollLoop lib app botId guard rounds offset).Uses PollerCall.Routine := by
  induction rounds generalizing offset with
  | zero => exact Program.uses_ret _
  | succ rounds ih =>
    refine Program.uses_bind (routine_pollRound offset) fun next => ?_
    grind

end Footprints

/-! ## Pollers -/

/-- The replies with which a poller ends early: the address of Telegram is refused, or the offset
cannot be read. -/
def PollerCall.endsEarly : (c : PollerCall χ) → c.Reply → Bool
  | .telegramApiBase, .error _ | .inbox (.selectOffset _), .error _ => true
  | _, _ => false

/-- **The poller has ended early.** -/
def EndedEarly (t : BotTask) (m : BotMoment χ) : Prop := m.Did t fun c r => c.endsEarly r

variable {t : BotTask} {m : BotMoment χ} {c : PollerCall χ}

theorem endedEarly_after {r : c.Reply} {w : BotWorld} (h : ¬ EndedEarly t m) :
    EndedEarly t (m.after t c r w) ↔ c.endsEarly r :=
  Moment.did_after.trans ((or_iff_right h).trans (and_iff_right rfl))

/-- The calls at which a poller may end early. -/
def PollerCall.Critical : PollerCall χ → Prop
  | .telegramApiBase | .inbox (.selectOffset _) => True
  | _ => False

theorem not_endedEarly_after {r : c.Reply} {w : BotWorld} (hc : ¬ c.Critical)
    (h : ¬ EndedEarly t m) : ¬ EndedEarly t (m.after t c r w) := by
  rw [endedEarly_after h]
  unfold PollerCall.endsEarly
  split
  · exact absurd trivial hc
  · exact absurd trivial hc
  · exact Bool.false_ne_true

theorem routine_not_critical (hc : c.Routine) : ¬ c.Critical := by
  cases c <;> try exact False.elim
  · rename_i s
    cases s <;> first | exact False.elim | exact fun _ => hc
  · exact fun _ => hc

/-- The routine of a poller does not change who has which place. -/
theorem Holdings.Step.eq_of_routine {h h' : Holdings} (hs : h.Step t c h') (hc : c.Routine) :
    h' = h := by
  cases hs with
  | keep => rfl
  | fail _ hends => cases c <;> first | exact hc.elim | exact hends.elim
  | _ => exact hc.elim

section Poller

variable {t : BotTask} {g : PollerOwnershipGuard}

/-- The task polls for the runtime. -/
def Polling (t : BotTask) (g : PollerOwnershipGuard) (m : BotMoment χ) : Prop :=
  m.world.stage g.runtimeInstanceId = some (.begun g t)

theorem Polling.placed (h : Polling t g m) : Placed t g m :=
  ⟨.inr ⟨g, .inl h⟩, _, h, rfl, rfl⟩

theorem Polling.not_delisted (hinv : BotInv m) (h : Polling t g m) :
    ¬ Delisted g.runtimeInstanceId m.world := fun hd =>
  hd.active _ _ (hinv.valid.held _ _ h trivial)

theorem stable_polling : (botDiscipline me χ).Stable t (Polling t g) :=
  stable_of_leftToRuntime g.runtimeInstanceId (fun _ h => h.placed.1) fun _ _ _ hl h =>
    hl.kept.stage.trans h

theorem stable_polling_going :
    (botDiscipline me χ).Stable t fun m => Polling t g m ∧ ¬ EndedEarly t m :=
  stable_polling.and stable_not_did

theorem triple_routine {α : Type} {p : PollerProgram χ α} (hp : p.Uses PollerCall.Routine) :
    (botDiscipline me χ).Triple t (fun m => Polling t g m ∧ ¬ EndedEarly t m) p
      fun _ m => Polling t g m ∧ ¬ EndedEarly t m := by
  refine (triple_of_uses hp (Program.ends_true p) stable_polling_going
    fun c hc m hinv h => ⟨?_, fun r w he => ?_⟩).mono fun _ _ _ h => h.1
  · cases c <;> first | exact ⟨trivial, trivial⟩ | exact hc.elim
  · have hsame := (BotEffect.step he).eq_of_routine hc
    refine ⟨?_, not_endedEarly_after (routine_not_critical hc) h.2⟩
    exact (congrFun (congrArg Holdings.stage hsame) _).trans h.1

/-- **What is left of a poller that has ended**: all it held, if it has ended early, and nothing
otherwise. -/
def PollerEnded (t : BotTask) (g : PollerOwnershipGuard) (m : BotMoment χ) : Prop :=
  (Polling t g m ∧ EndedEarly t m) ∨ (Finalized t g m ∧ ¬ EndedEarly t m)

theorem stable_pollerEnded : (botDiscipline me χ).Stable t (PollerEnded t g) := by
  intro m m' ho h
  rcases h with h | h
  · exact .inl (stable_polling.and stable_did m m' ho h)
  · exact .inr (stable_finalized.and stable_not_did m m' ho h)

theorem triple_finalize_going :
    (botDiscipline me χ).Triple t (fun m => Placed t g m ∧ ¬ EndedEarly t m)
      (finalizePollerExit g.internalBotId g) fun _ m => PollerEnded t g m := by
  have huses : (finalizePollerExit g.internalBotId g).Uses fun c : PollerCall χ => ¬ c.Critical :=
    uses_finalizePollerExit (fun c hc hcritical => by
      cases c <;> first | exact hc | exact hcritical)
      fun hcritical => hcritical
  refine (triple_finalizePollerExit_cleaned.frame huses stable_not_did
    fun c hc m r w _ h _ => not_endedEarly_after hc h).mono fun _ _ _ h => .inr h

theorem triple_pollFrom_ended (rounds : ℕ) (offset : ℤ) :
    (botDiscipline me χ).Triple t (fun m => Polling t g m ∧ ¬ EndedEarly t m)
      (pollFrom lib app g.internalBotId g rounds offset)
      fun r m => r ≠ none → PollerEnded t g m := by
  refine triple_bind (triple_routine (uses_ofHandler routine_of_ordinary _)) fun _ => ?_
  refine triple_bind (triple_routine (uses_recoverStartupUpdates routine_of_ordinary
    (fun _ _ _ => trivial) (fun _ => trivial) fun _ => trivial)) fun _ => ?_
  refine triple_bind (triple_routine (routine_pollLoop rounds offset)) fun left => ?_
  cases left with
  | false => exact triple_ret (fun _ _ _ _ h => absurd rfl h) fun _ _ _ h => absurd rfl h
  | true =>
    refine triple_bind (triple_finalize_going.given fun _ _ h => ⟨h.1.placed, h.2⟩) fun r => ?_
    exact triple_ret (fun m m' ho h _ => stable_pollerEnded m m' ho (h nofun))
      fun _ _ h _ => h

theorem leaveOn_stage {ε α : Type} (w : BotWorld) (t : BotTask) (r : Except ε α) :
    (w.leaveOn t r).stage = w.stage := by
  cases r <;> rfl

/-- A poller has drawn no identity. -/
theorem BotInv.not_issued (hinv : BotInv m) {rounds : ℕ} (ht : t.2 = .poller g rounds)
    (id : String) : (id, t) ∉ m.world.holdings.issued := by
  intro hissued
  obtain ⟨botId, secretId, hstart⟩ := hinv.valid.starter id t hissued
  rw [ht] at hstart
  cases hstart

variable {rounds : ℕ} (ht : t.2 = .poller g rounds)
include ht

theorem triple_buildClient :
    (botDiscipline me χ).Triple t (fun m => Polling t g m ∧ ¬ EndedEarly t m)
      (askPoller .buildClient) fun _ m => Polling t g m ∧ ¬ EndedEarly t m := by
  refine triple_perform stable_polling_going
    (fun m hinv _ => ⟨trivial, hinv.not_issued ht⟩) (fun m r w _ h he => ?_)
    fun _ => stable_polling_going
  cases he
  refine ⟨?_, not_endedEarly_after id h.2⟩
  rw [Polling, Moment.after_world, leaveOn_stage]
  exact h.1

theorem triple_pollTelegramBotAt_ended :
    (botDiscipline me χ).Triple t (fun m => Polling t g m ∧ ¬ EndedEarly t m)
      (pollTelegramBotAt lib app g.internalBotId g rounds)
      fun r m => r ≠ none → PollerEnded t g m := by
  have hended : ∀ r : Option (AppResult Unit), (botDiscipline me χ).Triple t (PollerEnded t g)
      (.ret r : PollerProgram χ _) fun r m => r ≠ none → PollerEnded t g m := fun r =>
    triple_ret (fun m m' ho h hr => stable_pollerEnded m m' ho (h hr)) fun _ _ h _ => h
  refine triple_bind (triple_buildClient ht) fun client => ?_
  cases client with
  | error message =>
    refine triple_bind (triple_finalize_going.given fun _ _ h => ⟨h.1.placed, h.2⟩) fun r => ?_
    cases r <;> exact hended _
  | ok _ =>
    refine triple_bind (triple_routine (uses_configureOrReport routine_of_ordinary))
      fun _ => ?_
    refine triple_call (fun r m => Polling t g m ∧
      (EndedEarly t m ↔ PollerCall.endsEarly (χ := χ) (.inbox (.selectOffset g.internalBotId)) r))
      stable_polling_going (fun _ _ _ => ⟨trivial, trivial⟩) (fun m r w _ h he => ?_) fun r => ?_
    · cases he
      exact ⟨h.1, endedEarly_after h.2⟩
    · cases r with
      | error e => exact (hended _).given fun m _ h => .inl ⟨h.1, h.2.mpr rfl⟩
      | ok offset => exact (triple_pollFrom_ended rounds _).given fun m _ h => ⟨h.1, nofun ∘ h.2.mp⟩

theorem triple_pollTelegramBot_ended :
    (botDiscipline me χ).Triple t (fun m => Polling t g m ∧ ¬ EndedEarly t m)
      (pollTelegramBot lib app g.internalBotId g rounds)
      fun r m => r ≠ none → PollerEnded t g m := by
  refine triple_call (fun r m => Polling t g m ∧
    (EndedEarly t m ↔ PollerCall.endsEarly (χ := χ) .telegramApiBase r))
    stable_polling_going (fun m hinv _ => ⟨trivial, hinv.not_issued ht⟩) (fun m r w _ h he => ?_)
    fun r => ?_
  · cases he
    refine ⟨?_, endedEarly_after h.2⟩
    rw [Polling, Moment.after_world, leaveOn_stage]
    exact h.1
  · cases r with
    | error e =>
      refine triple_ret (fun m m' ho h hr => stable_pollerEnded m m' ho (h hr))
        fun m _ h _ => .inl ⟨h.1, h.2.mpr rfl⟩
    | ok _ => exact (triple_pollTelegramBotAt_ended ht).given fun m _ h => ⟨h.1, nofun ∘ h.2.mp⟩

/-- **What a poller leaves when it ends**, from the moment it is spawned. -/
theorem triple_pollerTask_ended :
    (botDiscipline me χ).Triple t (fun m => m.Silent t)
      (pollerTask lib app g.internalBotId g rounds) fun r m => r ≠ none → PollerEnded t g m := by
  refine triple_call (fun r m => (r = true → Polling t g m) ∧ Placed t g m ∧
    ¬ EndedEarly t m) stable_silent (fun _ _ _ => ⟨trivial, trivial⟩) (fun m r w _ h he => ?_)
    fun r => ?_
  · have hearly : ¬ EndedEarly t (m.after t (.awaitStart g.runtimeInstanceId) r w) :=
      not_endedEarly_after id h.not_did
    -- the poller gets its signal, or its start was dropped
    obtain ⟨guard, rounds', hjob, ⟨-, rfl, rfl⟩ | ⟨-, rfl, rfl⟩⟩ := he
    · cases ht.symm.trans hjob
      have hpolling : Polling t g (m.after t (.awaitStart g.runtimeInstanceId) true
          (m.world.setStage g.runtimeInstanceId (some (.begun g t)))) := Function.update_self ..
      exact ⟨fun _ => hpolling, hpolling.placed, hearly⟩
    · cases ht.symm.trans hjob
      have hleaving : Function.update m.world.stage g.runtimeInstanceId (some (.leaving g t))
          g.runtimeInstanceId = some (.leaving g t) := Function.update_self ..
      exact ⟨nofun, ⟨.inr ⟨g, .inr hleaving⟩, _, hleaving, rfl, rfl⟩, hearly⟩
  · cases r with
    | true =>
      exact (triple_pollTelegramBot_ended ht).given fun _ _ h => ⟨h.1 rfl, h.2.2⟩
    | false =>
      change (botDiscipline me χ).Triple t _ (finalizePollerExit g.internalBotId g >>= fun r =>
        .ret (some r)) _
      refine triple_bind (triple_finalize_going.given fun _ _ h => h.2) fun r => ?_
      exact triple_ret (fun m m' ho h hr => stable_pollerEnded m m' ho (h hr))
        fun _ _ h _ => h

end Poller

end ImBridge
