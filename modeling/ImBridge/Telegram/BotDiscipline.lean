import ImBridge.Telegram.Runtimes

/-!
# Rules for starting, stopping and polling

The rules that the tasks of a process keep to: a start claims the numeric id of the bot behind the
token that it has read, once it has found its row without a runtime; and a runtime is moved on only
by the task that it belongs to. Under these rules the others leave to a task what it has: its
identity, its token and its start, the places of its runtime, and the calls it has made.

## Main definitions

* `BotMay`, `BotInv`, `botDiscipline`: the rules
* `LeftToTask`: what the others leave to a task
* `LeftToRuntime`: what they leave to a runtime that belongs to it

## Main results

* `stable_of_leftToTask`, `stable_of_leftToRuntime`: what survives that, survives the others
-/

namespace ImBridge

open Interleaving

variable {χ : Signature} {me : String → Json}

abbrev BotMoment (χ : Signature) := Moment (pollerCalls χ) BotTask BotWorld

/-- When a task may make a call, as far as starts are concerned. -/
def Holdings.MayStart (me : String → Json) (h : Holdings) (t : BotTask) : PollerCall χ → Prop
  | .vaultGet _ => ∀ botId, (t, botId) ∉ h.starting
  | .buildClient | .telegramApiBase | .getMe _ => ∀ id, (id, t) ∉ h.issued
  | .insertActive n botId _ _ =>
    (t, botId) ∈ h.starting ∧ ∃ token, h.token t = some token ∧ parseNumericBotId (me token) = .ok n
  | .insertRuntime botId _ => (t, botId) ∈ h.starting
  | _ => True

/-- When a task may make a call. -/
def BotMay (me : String → Json) (t : BotTask) (m : BotMoment χ) (c : PollerCall χ) : Prop :=
  m.world.holdings.May t c ∧ m.world.holdings.MayStart me t c

/-- The places of runtimes agree with their stages, a runtime that was not drawn yet has no guard,
and who has made no call has nothing. -/
structure BotInv (m : BotMoment χ) : Prop where
  valid : m.world.holdings.Valid
  unborn : ∀ id, (∀ t, (id, t) ∉ m.world.issued) → m.world.lifecycle id = .starting
  silent : ∀ t, m.Silent t →
    (∀ id, (id, t) ∉ m.world.issued) ∧ ∀ botId, (t, botId) ∉ m.world.starting

section Effects

variable {t : BotTask} {w w' : BotWorld} {c : PollerCall χ} {r : c.Reply}

theorem leaveOn_eq {ε α : Type} (w : BotWorld) (t : BotTask) (r : Except ε α) :
    w.leaveOn t r = w ∨ w.leaveOn t r = w.leave t := by
  cases r with
  | ok a => exact .inl rfl
  | error e => exact .inr rfl

theorem setLifecycle_astray (w : BotWorld) (id : String) (l : Except PollerError PollerLifecycle) :
    (w.setLifecycle id l).astray = w.astray := by
  cases l <;> rfl

theorem lifecycle_setLifecycle {id id' : String} (h : id' ≠ id)
    (l : Except PollerError PollerLifecycle) :
    (w.setLifecycle id' l).lifecycle id = w.lifecycle id := by
  cases l with
  | error e => rfl
  | ok l => exact Function.update_of_ne h.symm ..

/-- How the lifecycle of a runtime may change. -/
theorem BotEffect.lifecycle (h : BotEffect me t w c r w') (id : String) :
    w'.lifecycle id = w.lifecycle id ∨ (∃ lifecycle, c = .newLifecycle id lifecycle) ∨
      c = .beginDraining id ∨ c = .markStopped id ∨
      ((∃ botId g, w.holdings.runtime botId = some g ∧ g.runtimeInstanceId = id) ∧
        (w.lifecycle id).beginDraining = .ok (w'.lifecycle id)) := by
  cases c with
  | newLifecycle id' lifecycle =>
    cases h
    by_cases hid : id' = id
    · exact .inr (.inl ⟨lifecycle, by rw [hid]⟩)
    · exact .inl (lifecycle_setLifecycle hid _)
  | beginDraining id' | markStopped id' =>
    obtain ⟨-, rfl⟩ := h
    by_cases hid : id' = id
    · simp [hid]
    · exact .inl (lifecycle_setLifecycle hid _)
  | drainRuntime botId =>
    simp only [BotEffect] at h
    split at h
    · obtain ⟨-, rfl⟩ := h
      exact .inl rfl
    · rename_i entry hentry
      split at h
      · obtain ⟨-, rfl⟩ := h
        exact .inl rfl
      · rename_i lifecycle hdrain
        obtain ⟨-, rfl⟩ := h
        by_cases hid : entry.ownershipGuard.runtimeInstanceId = id
        · subst hid
          refine .inr (.inr (.inr (.inr ⟨⟨botId, entry.ownershipGuard, ?_, rfl⟩, ?_⟩)))
          · simp [BotWorld.holdings, hentry]
          · simp [hdrain, BotWorld.setLifecycle]
        · exact .inl (Function.update_of_ne (Ne.symm hid) ..)
  | _ =>
    have hsame : w'.lifecycle = w.lifecycle := by
      simp only [BotEffect] at h
      grind [leaveOn_eq, BotWorld.leave, BotWorld.setActive, BotWorld.setRuntime, BotWorld.setStage]
    exact .inl (congrFun hsame id)

/-- What the registry keeps, it keeps. -/
theorem BotEffect.astray_mono (h : BotEffect me t w c r w') {id : String} (hid : id ∈ w.astray) :
    id ∈ w'.astray := by
  cases c <;> simp only [BotEffect] at h <;>
    grind [leaveOn_eq, setLifecycle_astray, BotWorld.leave, BotWorld.setActive, BotWorld.setRuntime,
      BotWorld.setStage]

end Effects

variable {w : BotWorld}

theorem BotInv.after {m : BotMoment χ} {t : BotTask} {c : PollerCall χ} {r : c.Reply}
    (hinv : BotInv m) (hmay : BotMay me t m c) (he : BotEffect me t m.world c r w) :
    BotInv (m.after t c r w) := by
  refine ⟨hinv.valid.step hmay.1 he.step, fun id hid => ?_, fun u hu => ?_⟩
  · have hid' : ∀ u, (id, u) ∉ m.world.issued := fun u hu => hid u (he.step.issued_mono hu)
    have hown : ¬ m.world.holdings.Own t id := by
      intro hown
      obtain ⟨u, hu⟩ := hown.issued hinv.valid
      exact hid' u hu
    rcases he.lifecycle id with h | ⟨lifecycle, rfl⟩ | rfl | rfl | ⟨⟨botId, g, hg, rfl⟩, -⟩
    · exact h.trans (hinv.unborn id hid')
    · exact absurd hmay.1 hown
    · exact absurd hmay.1 hown
    · exact absurd hmay.1 hown
    · obtain ⟨s, hs, -⟩ := hinv.valid.runtime botId g hg
      obtain ⟨u, hu⟩ := hinv.valid.staged _ s hs
      exact absurd hu (hid' u)
  have hne : t ≠ u := hu ⟨t, c, r⟩ (List.mem_append_right _ List.mem_cons_self)
  have hsilent := hinv.silent u fun e h => hu e (List.mem_append_left _ h)
  obtain ⟨hissued, hstarting, -⟩ := he.step.others hne
  exact ⟨fun id h => hsilent.1 id ((hissued id).mp h),
    fun botId h => hsilent.2 botId ((hstarting botId).mp h)⟩

theorem holdings_records {registry : MemoryPollerRegistry}
    (h : registry.runtimeBindings = w.registry.runtimeBindings) :
    { w with registry }.holdings = w.holdings := by
  simp [BotWorld.holdings, MemoryPollerRegistry.runtimeBinding, h]

theorem BotInv.drifted {m : BotMoment χ} (hinv : BotInv m) (hd : BotDrift m.world w) :
    BotInv (m.drifted w) := by
  cases hd with
  | drop id guard h =>
    refine ⟨?_, hinv.unborn, hinv.silent⟩
    exact hinv.valid.setStage h rfl rfl (fun _ hg => hg) (fun g hg => hinv.valid.named id _ g h hg)
      fun _ => hinv.valid.held _ _ h trivial
  | records registry h =>
    refine ⟨?_, hinv.unborn, hinv.silent⟩
    rw [Moment.drifted_world, holdings_records h]
    exact hinv.valid

/-- **The rules of starting, stopping and polling.** -/
def botDiscipline (me : String → Json) (χ : Signature) : Discipline (botSemantics me χ) where
  inv := BotInv
  may := BotMay me
  keep _ _ _ _ _ hinv hmay he := hinv.after hmay he
  keep_drift _ _ hinv hd := hinv.drifted hd

/-! ## What the others leave to a task -/

/-- **What the others leave to a task**: its identities, its token, its start, and what the registry
keeps. -/
structure LeftToTask (t : BotTask) (m m' : BotMoment χ) : Prop where
  issued : ∀ id, (id, t) ∈ m'.world.issued ↔ (id, t) ∈ m.world.issued
  starting : ∀ botId, (t, botId) ∈ m'.world.starting ↔ (t, botId) ∈ m.world.starting
  token : m'.world.token t = m.world.token t
  astray : ∀ id ∈ m.world.astray, id ∈ m'.world.astray

/-- **What they leave to a runtime** that belongs to the task; whoever stops its row may have it
drained. -/
structure LeftToRuntime (t : BotTask) (id : String) (m m' : BotMoment χ) : Prop
    extends LeftToTask t m m' where
  kept : m.world.holdings.KeptFor id m'.world.holdings
  lifecycle : m'.world.lifecycle id = m.world.lifecycle id ∨
    ((∃ botId g, m.world.holdings.runtime botId = some g ∧ g.runtimeInstanceId = id) ∧
      (m.world.lifecycle id).beginDraining = .ok (m'.world.lifecycle id))

section Stable

variable {t : BotTask} {m m' : BotMoment χ}

theorem LeftToTask.of_other (ho : (botDiscipline me χ).Other t m m') : LeftToTask t m m' := by
  cases ho with
  | call u c r w hu hm hmay he =>
    obtain ⟨hissued, hstarting, htoken⟩ := BotEffect.step he |>.others hu
    exact ⟨hissued, hstarting, htoken, fun id hid => BotEffect.astray_mono he hid⟩
  | drift w hm hd =>
    cases hd with
    | drop id guard h | records registry h =>
      exact ⟨fun _ => .rfl, fun _ => .rfl, rfl, fun _ hid => hid⟩

theorem LeftToRuntime.of_other {id : String} (hown : m.world.holdings.Own t id)
    (ho : (botDiscipline me χ).Other t m m') : LeftToRuntime t id m m' := by
  refine ⟨.of_other ho, ?_, ?_⟩
  · cases ho with
    | call u c r w hu hm hmay he => exact .of_step hm.valid hown hu hmay.1 he.step
    | drift w hm hd =>
      cases hd with
      | drop id' guard h => exact .setStage (hown.ne_of_waits h trivial) _
      | records registry h =>
        rw [Moment.drifted_world, holdings_records h]
        exact .refl _ _
  · cases ho with
    | call u c r w hu hm hmay he =>
      have hapart : ¬ m.world.holdings.Own u id := fun hown' => hu (hown'.unique hm.valid hown)
      rcases BotEffect.lifecycle he id with h | ⟨lifecycle, rfl⟩ | rfl | rfl | h
      · exact .inl h
      · exact absurd hmay.1 hapart
      · exact absurd hmay.1 hapart
      · exact absurd hmay.1 hapart
      · exact .inr h
    | drift w hm hd => cases hd <;> exact .inl rfl

theorem stable_of_leftToTask {R : BotMoment χ → Prop}
    (hR : ∀ m m', LeftToTask t m m' → R m → R m') : (botDiscipline me χ).Stable t R :=
  fun m m' ho h => hR m m' (.of_other ho) h

theorem stable_of_leftToRuntime {R : BotMoment χ → Prop} (id : String)
    (hown : ∀ m, R m → m.world.holdings.Own t id)
    (hR : ∀ m m', BotInv m → LeftToRuntime t id m m' → R m → R m') :
    (botDiscipline me χ).Stable t R := by
  intro m m' ho h
  have hinv : BotInv m := by
    cases ho with
    | call u c r w hu hm hmay he => exact hm
    | drift w hm hd => exact hm
  exact hR m m' hinv (.of_other (hown m h) ho) h

end Stable

end ImBridge
