import ImBridge.Interleaving.Schedule
import ImBridge.Telegram.Bots
import ImBridge.Telegram.InboxRuns

/-!
# Bots in one process

The runs of the calls that start and stop bots, and of the pollers that they spawn, in one process.
Each section under a lock is one step. A runtime passes through stages: its identity is drawn and
enters the table of active bots, its poller is spawned, it enters the table of runtimes, its poller
gets the signal to start, and in the end gives back what it holds. A start that is dropped before
its runtime is entered also drops the signal, and its poller only gives back what the start has
claimed.

Identities are never drawn twice, and `getMe` answers with the bot behind the token or fails. The
registry serves the calls as `MemoryPollerRegistry` does, or is unavailable, also after it has made
a binding or given one up; its ownership records may change at any time. All other replies are left
open, and no poller panics.

## Main definitions

* `BotJob`: the tasks
* `BotWorld`: the tables, the registry, the runtimes and the starts that are on their way
* `BotEffect`, `botSemantics`: what a call may reply and do
* `Holdings`: which runtime has which place in the tables

## Main results

* `BotEffect.step`: what a call does to the places that runtimes have
-/

namespace ImBridge

open Interleaving Function

/-- The tasks: starting and stopping the bot of a row, and polling. -/
inductive BotJob
  | start (botId : String) (tokenSecretId : Option String)
  | stop (botId : String) (disable : Bool)
  | poller (guard : PollerOwnershipGuard) (rounds : ℕ)
  deriving DecidableEq

abbrev BotTask := ℕ × BotJob

/-- The entry of a numeric id in the table of active bots. -/
structure ActiveNumericBot where
  botId : String
  runtimeInstanceId : String
  epoch : ℕ
  lifecycle : PollerLifecycle
  deriving DecidableEq

/-- The entry of a row in the table of runtimes, and whether its task was not waited for yet. -/
structure BotRuntime where
  ownershipGuard : PollerOwnershipGuard
  join : Bool
  deriving DecidableEq

/-- How far a runtime is. -/
inductive RuntimeStage
  | claimed (numericBotId : ℤ) (botId : String)
  | spawned (guard : PollerOwnershipGuard)
  | entered (guard : PollerOwnershipGuard)
  | signalled (guard : PollerOwnershipGuard)
  /-- The start was dropped, and the signal with it. -/
  | dropped (guard : PollerOwnershipGuard)
  /-- The task has its signal and polls. -/
  | begun (guard : PollerOwnershipGuard) (task : BotTask)
  /-- The task gives back what the runtime holds. -/
  | leaving (guard : PollerOwnershipGuard) (task : BotTask)
  deriving DecidableEq

namespace RuntimeStage

def numericBotId : RuntimeStage → ℤ
  | claimed n _ => n
  | spawned g | entered g | signalled g | dropped g | begun g _ | leaving g _ => g.numericBotId

def botId : RuntimeStage → String
  | claimed _ botId => botId
  | spawned g | entered g | signalled g | dropped g | begun g _ | leaving g _ => g.internalBotId

def guard? : RuntimeStage → Option PollerOwnershipGuard
  | claimed .. => none
  | spawned g | entered g | signalled g | dropped g | begun g _ | leaving g _ => some g

/-- The task that polls goes over to giving back what it holds. -/
def leave : RuntimeStage → RuntimeStage
  | begun g t => leaving g t
  | stage => stage

end RuntimeStage

/-- The state of the process, as far as the life of pollers is concerned. -/
structure BotWorld where
  registry : MemoryPollerRegistry
  /-- The runtimes that the registry keeps bound while their tasks know nothing of it: the answer to
  their claim was lost, or their release did not get through. -/
  astray : List String
  activeNumericBots : ℤ → Option ActiveNumericBot
  runtime : String → Option BotRuntime
  /-- By runtime: the shared lifecycle of its guards, and whether it is cancelled. -/
  lifecycle : String → PollerLifecycle
  cancelled : String → Bool
  /-- The runtime identities that were drawn, and the task that drew each of them. -/
  issued : List (String × BotTask)
  stage : String → Option RuntimeStage
  /-- The token that a task has read. -/
  token : BotTask → Option String
  /-- The starts that found their row without a runtime, and have neither entered one nor failed
  since. -/
  starting : List (BotTask × String)

namespace BotWorld

/-- A process that has started no bot yet. -/
def start (registry : MemoryPollerRegistry) : BotWorld where
  registry := { registry with runtimeBindings := ∅ }
  astray := []
  activeNumericBots _ := none
  runtime _ := none
  lifecycle _ := .starting
  cancelled _ := false
  issued := []
  stage _ := none
  token _ := none
  starting := []

/-- The start of the task is over. -/
def leave (w : BotWorld) (t : BotTask) : BotWorld :=
  { w with starting := w.starting.filter (·.1 ≠ t) }

/-- The start of the task is over if its step has failed. -/
def leaveOn {ε α : Type} (w : BotWorld) (t : BotTask) : Except ε α → BotWorld
  | .ok _ => w
  | .error _ => w.leave t

def setActive (w : BotWorld) (n : ℤ) (entry : Option ActiveNumericBot) : BotWorld :=
  { w with activeNumericBots := update w.activeNumericBots n entry }

def setRuntime (w : BotWorld) (botId : String) (entry : Option BotRuntime) : BotWorld :=
  { w with runtime := update w.runtime botId entry }

def setStage (w : BotWorld) (id : String) (stage : Option RuntimeStage) : BotWorld :=
  { w with stage := update w.stage id stage }

/-- The lifecycle of the runtime, if the step to the next one is permitted. -/
def setLifecycle (w : BotWorld) (id : String) : Except PollerError PollerLifecycle → BotWorld
  | .ok lifecycle => { w with lifecycle := update w.lifecycle id lifecycle }
  | .error _ => w

end BotWorld

section Semantics

variable {χ : Signature} (me : String → Json)

/-- **What a call of the task `t` may reply and do.** -/
def BotEffect (t : BotTask) (w : BotWorld) : (c : PollerCall χ) → c.Reply → BotWorld → Prop
  | .vaultGet _, r, w' =>
    w' = { w with token := update w.token t (r.toOption.bind fromUtf8) }
  | .isRunning botId, r, w' =>
    r = (w.runtime botId).isSome ∧
      w' = if r then w else { w with starting := (t, botId) :: w.starting }
  | .buildClient, r, w' => w' = w.leaveOn t r
  | .telegramApiBase, r, w' => w' = w.leaveOn t r
  | .getMe token, r, w' =>
    (r = .ok (me token) ∧ w' = w.leaveOn t (parseNumericBotId (me token))) ∨
      (∃ e, r = .error e ∧ w' = w.leave t)
  | .newRuntimeInstanceId, r, w' =>
    (∀ u, (r, u) ∉ w.issued) ∧ w' = { w with issued := (r, t) :: w.issued }
  | .insertActive n botId id epoch, r, w' =>
    r = (w.activeNumericBots n).isNone ∧
      w' = if r then (w.setActive n (some ⟨botId, id, epoch, .starting⟩)).setStage id
          (some (.claimed n botId))
        else w.leave t
  | .activate n epoch, _, w' =>
    w' = w.setActive n ((w.activeNumericBots n).map fun entry =>
      { entry with epoch, lifecycle := .running })
  | .drainActive n id, _, w' =>
    w' = w.setActive n ((w.activeNumericBots n).map fun entry =>
      if entry.runtimeInstanceId = id then { entry with lifecycle := .draining } else entry)
  | .releaseActive n botId id, _, w' =>
    w' = ((w.setActive n ((w.activeNumericBots n).filter fun entry =>
      ¬(entry.botId = botId ∧ entry.runtimeInstanceId = id))).setStage id
        ((w.stage id).map RuntimeStage.leave)).leave t
  | .getOwnership n, r, w' =>
    (r = .ok (w.registry.get n) ∨ r = .error .registryUnavailable) ∧ w' = w
  | .assertCanStart n owner epoch, r, w' =>
    (r = w.registry.assertCanStart n owner epoch ∨ r = .error .registryUnavailable) ∧ w' = w
  | .claimRuntime n binding, r, w' =>
    (r = (w.registry.claimRuntime n binding).1 ∧
      w' = { w with registry := (w.registry.claimRuntime n binding).2 }) ∨
      (r = .error .registryUnavailable ∧ (w' = w ∨
        ((w.registry.claimRuntime n binding).1 = .ok () ∧
          w' = { w with registry := (w.registry.claimRuntime n binding).2
                        astray := binding.runtimeInstanceId :: w.astray })))
  | .assertFence n owner binding, r, w' =>
    (r = SharedMemoryPollerRegistry.assertFence w.registry n owner binding ∨
      r = .error .registryUnavailable) ∧ w' = w
  | .releaseRuntime n id, r, w' =>
    ((r = (w.registry.releaseRuntime n id).1 ∨ r = .error .registryUnavailable) ∧
      w' = { w with registry := (w.registry.releaseRuntime n id).2 }) ∨
      (r = .error .registryUnavailable ∧ w' = { w with astray := id :: w.astray })
  | .newLifecycle id lifecycle, _, w' => w' = w.setLifecycle id (.ok lifecycle)
  | .currentLifecycle id, r, w' => r = w.lifecycle id ∧ w' = w
  | .beginDraining id, r, w' =>
    r = (w.lifecycle id).beginDraining.map (fun _ => ()) ∧
      w' = w.setLifecycle id (w.lifecycle id).beginDraining
  | .markStopped id, r, w' =>
    r = (w.lifecycle id).markStopped.map (fun _ => ()) ∧
      w' = w.setLifecycle id (w.lifecycle id).markStopped
  | .spawnPoller _ _ guard, _, w' => w' = w.setStage guard.runtimeInstanceId (some (.spawned guard))
  | .insertRuntime botId guard, _, w' =>
    w.stage guard.runtimeInstanceId = some (.spawned guard) ∧
      w' = ((w.setRuntime botId (some ⟨guard, true⟩)).setStage guard.runtimeInstanceId
        (some (.entered guard))).leave t
  | .sendStart id, r, w' =>
    ∃ guard, w.stage id = some (.entered guard) ∧ r = .ok () ∧
      w' = w.setStage id (some (.signalled guard))
  | .awaitStart id, r, w' =>
    ∃ guard rounds, t.2 = .poller guard rounds ∧
      ((w.stage id = some (.signalled guard) ∧ r = true ∧
          w' = w.setStage id (some (.begun guard t))) ∨
        (w.stage id = some (.dropped guard) ∧ r = false ∧
          w' = w.setStage id (some (.leaving guard t))))
  | .isCancelled id, r, w' => r = w.cancelled id ∧ w' = w
  | .drainRuntime botId, r, w' =>
    match w.runtime botId with
    | none => r = .ok none ∧ w' = w
    | some entry =>
      let id := entry.ownershipGuard.runtimeInstanceId
      match (w.lifecycle id).beginDraining with
      | .error e => r = .error e ∧ w' = w
      | .ok lifecycle =>
        r = .ok (some (entry.ownershipGuard, entry.join)) ∧
          w' = { (w.setRuntime botId (some { entry with join := false })).setLifecycle id
            (.ok lifecycle) with cancelled := update w.cancelled id true }
  | .joinPoller _, r, w' => (∃ result, r = .returned result) ∧ w' = w
  | .removeRuntime botId id, r, w' =>
    r = (w.runtime botId).any (·.ownershipGuard.runtimeInstanceId = id) ∧
      w' = w.setRuntime botId ((w.runtime botId).filter
        (·.ownershipGuard.runtimeInstanceId ≠ id))
  | _, _, w' => w' = w

/-- A start is dropped before it has entered its runtime, or the records of the registry change. -/
inductive BotDrift (w : BotWorld) : BotWorld → Prop
  | drop (id : String) (guard : PollerOwnershipGuard) (h : w.stage id = some (.spawned guard)) :
      BotDrift w (w.setStage id (some (.dropped guard)))
  | records (registry : MemoryPollerRegistry)
      (h : registry.runtimeBindings = w.registry.runtimeBindings) : BotDrift w { w with registry }

def botSemantics (χ : Signature) : Semantics (pollerCalls χ) BotTask BotWorld where
  effect t m c r w := BotEffect me t m.world c r w
  drift := BotDrift

end Semantics

namespace BotJob

@[reducible] def Out : BotJob → Type
  | start .. => AppResult Unit
  | stop .. => AppResult Unit
  | poller .. => Option (AppResult Unit)

def body {χ : Signature} (lib : Primitives) (app : UpdateHandler χ) :
    (j : BotJob) → PollerProgram χ j.Out
  | start botId tokenSecretId => (startBot botId tokenSecretId).run
  | stop botId disable => stopBot botId disable
  | poller guard rounds => pollerTask lib app guard.internalBotId guard rounds

end BotJob

/-! ## The places that runtimes have -/

/-- Which runtime has which place: the rows and runtimes of the active bots, the guards in the table
of runtimes, and the runtimes bound in the registry; and the starts on their way to a place. -/
structure Holdings where
  issued : List (String × BotTask)
  stage : String → Option RuntimeStage
  active : ℤ → Option (String × String)
  runtime : String → Option PollerOwnershipGuard
  bound : ℤ → Option String
  token : BotTask → Option String
  starting : List (BotTask × String)

/-- The start of the task is over. -/
def Holdings.leave (h : Holdings) (t : BotTask) : Holdings :=
  { h with starting := h.starting.filter (·.1 ≠ t) }

namespace BotWorld

def holdings (w : BotWorld) : Holdings where
  issued := w.issued
  stage := w.stage
  active n := (w.activeNumericBots n).map fun entry => (entry.botId, entry.runtimeInstanceId)
  runtime botId := (w.runtime botId).map BotRuntime.ownershipGuard
  bound n := (w.registry.runtimeBinding n).map PollerRuntimeBinding.runtimeInstanceId
  token := w.token
  starting := w.starting

variable (w : BotWorld)

@[simp] theorem holdings_leave (t : BotTask) : (w.leave t).holdings = w.holdings.leave t := rfl

@[simp] theorem holdings_setLifecycle (id : String) (r : Except PollerError PollerLifecycle) :
    (w.setLifecycle id r).holdings = w.holdings := by
  cases r <;> rfl

@[simp] theorem holdings_setStage (id : String) (stage : Option RuntimeStage) :
    (w.setStage id stage).holdings =
      { w.holdings with stage := update w.holdings.stage id stage } := rfl

@[simp] theorem holdings_setActive (n : ℤ) (entry : Option ActiveNumericBot) :
    (w.setActive n entry).holdings =
      { w.holdings with
        active := update w.holdings.active n
          (entry.map fun entry => (entry.botId, entry.runtimeInstanceId)) } := by
  simp only [holdings, setActive, Holdings.mk.injEq, true_and, and_true]
  funext n'
  by_cases h : n' = n
  · subst h
    simp
  · simp [h]

@[simp] theorem holdings_setRuntime (botId : String) (entry : Option BotRuntime) :
    (w.setRuntime botId entry).holdings =
      { w.holdings with
        runtime := update w.holdings.runtime botId
          (entry.map BotRuntime.ownershipGuard) } := by
  simp only [holdings, setRuntime, Holdings.mk.injEq, true_and, and_true]
  funext botId'
  by_cases h : botId' = botId
  · subst h
    simp
  · simp [h]

/-- Giving back a numeric id, as a change of the places. -/
theorem map_filter_active (n : ℤ) (botId id : String) :
    ((w.activeNumericBots n).filter fun entry =>
      ¬(entry.botId = botId ∧ entry.runtimeInstanceId = id)).map
        (fun entry => (entry.botId, entry.runtimeInstanceId)) =
      (w.holdings.active n).filter (· ≠ (botId, id)) := by
  simp only [holdings]
  cases w.activeNumericBots n with
  | none => rfl
  | some entry =>
    by_cases hentry : entry.botId = botId ∧ entry.runtimeInstanceId = id
    · simp [Option.filter, hentry]
    · have hne : (entry.botId, entry.runtimeInstanceId) ≠ (botId, id) := fun h =>
        hentry (Prod.mk.inj h)
      simp only [Option.filter, Option.map_some, decide_eq_true hne, decide_eq_true hentry, if_true]

theorem map_filter_runtime (botId id : String) :
    ((w.runtime botId).filter (·.ownershipGuard.runtimeInstanceId ≠ id)).map
        BotRuntime.ownershipGuard =
      (w.holdings.runtime botId).filter (·.runtimeInstanceId ≠ id) := by
  simp only [holdings]
  cases w.runtime botId with
  | none => rfl
  | some entry => simp [Option.filter, apply_ite]

end BotWorld

/-- The calls that end a start when they fail, before it has claimed anything. -/
def PollerCall.EndsStart {χ : Signature} : PollerCall χ → Prop
  | .buildClient | .telegramApiBase | .getMe _ | .insertActive .. => True
  | _ => False

/-- What a call of the task `t` does to the places that runtimes have. -/
inductive Holdings.Step {χ : Signature} (t : BotTask) (h : Holdings) :
    PollerCall χ → Holdings → Prop
  | keep (c : PollerCall χ) : Step t h c h
  | read (secretId : String) (token : Option String) :
      Step t h (.vaultGet secretId) { h with token := update h.token t token }
  | check (botId : String) (hnone : h.runtime botId = none) :
      Step t h (.isRunning botId) { h with starting := (t, botId) :: h.starting }
  | fail (c : PollerCall χ) (hc : c.EndsStart) : Step t h c (h.leave t)
  | issue (id : String) (hfresh : ∀ u, (id, u) ∉ h.issued) :
      Step t h .newRuntimeInstanceId { h with issued := (id, t) :: h.issued }
  | claim (n : ℤ) (botId id : String) (epoch : ℕ) (hnone : h.active n = none) :
      Step t h (.insertActive n botId id epoch)
        { h with active := update h.active n (some (botId, id))
                 stage := update h.stage id (some (.claimed n botId)) }
  | release (n : ℤ) (botId id : String) :
      Step t h (.releaseActive n botId id)
        (Holdings.leave
          { h with active := update h.active n ((h.active n).filter (· ≠ (botId, id)))
                   stage := update h.stage id ((h.stage id).map RuntimeStage.leave) } t)
  | bind (n : ℤ) (binding : PollerRuntimeBinding) (hpos : 0 < n) :
      Step t h (.claimRuntime n binding)
        { h with bound := update h.bound n (some binding.runtimeInstanceId) }
  | unbind (n : ℤ) (id : String) :
      Step t h (.releaseRuntime n id)
        { h with bound := update h.bound n ((h.bound n).filter (· ≠ id)) }
  | spawn (botId token : String) (guard : PollerOwnershipGuard) :
      Step t h (.spawnPoller botId token guard)
        { h with stage := update h.stage guard.runtimeInstanceId (some (.spawned guard)) }
  | enter (botId : String) (guard : PollerOwnershipGuard)
      (hstage : h.stage guard.runtimeInstanceId = some (.spawned guard)) :
      Step t h (.insertRuntime botId guard)
        (Holdings.leave
          { h with runtime := update h.runtime botId (some guard)
                   stage := update h.stage guard.runtimeInstanceId
                    (some (.entered guard)) } t)
  | signal (id : String) (guard : PollerOwnershipGuard)
      (hstage : h.stage id = some (.entered guard)) :
      Step t h (.sendStart id)
        { h with stage := update h.stage id (some (.signalled guard)) }
  | begin (id : String) (guard : PollerOwnershipGuard) (rounds : ℕ)
      (hjob : t.2 = .poller guard rounds) (hstage : h.stage id = some (.signalled guard)) :
      Step t h (.awaitStart id)
        { h with stage := update h.stage id (some (.begun guard t)) }
  | letGo (id : String) (guard : PollerOwnershipGuard) (rounds : ℕ)
      (hjob : t.2 = .poller guard rounds) (hstage : h.stage id = some (.dropped guard)) :
      Step t h (.awaitStart id)
        { h with stage := update h.stage id (some (.leaving guard t)) }
  | remove (botId id : String) :
      Step t h (.removeRuntime botId id)
        { h with runtime := update h.runtime botId
                  ((h.runtime botId).filter (·.runtimeInstanceId ≠ id)) }

theorem Holdings.step_leaveOn {χ : Signature} (t : BotTask) (w : BotWorld) (c : PollerCall χ)
    (hc : c.EndsStart) {ε α : Type} (r : Except ε α) :
    w.holdings.Step t c (w.leaveOn t r).holdings := by
  cases r with
  | ok _ => exact .keep _
  | error _ => exact .fail _ hc

/-- **What a call does to the places that runtimes have.** -/
theorem BotEffect.step {χ : Signature} {me : String → Json} {t : BotTask} {w w' : BotWorld}
    {c : PollerCall χ} {r : c.Reply} (h : BotEffect me t w c r w') :
    w.holdings.Step t c w'.holdings := by
  cases c with
  | vaultGet secretId =>
    cases h
    exact .read secretId _
  | isRunning botId =>
    obtain ⟨hr, rfl⟩ := h
    cases r with
    | true => exact .keep _
    | false =>
      refine .check botId ?_
      have hnone : w.runtime botId = none := by simpa using hr.symm
      simp [BotWorld.holdings, hnone]
  | buildClient =>
    cases h
    exact Holdings.step_leaveOn t w .buildClient trivial r
  | telegramApiBase =>
    cases h
    exact Holdings.step_leaveOn t w .telegramApiBase trivial r
  | getMe token =>
    rcases h with ⟨-, rfl⟩ | ⟨e, -, rfl⟩
    · exact Holdings.step_leaveOn t w (.getMe token) trivial _
    · exact .fail _ trivial
  | newRuntimeInstanceId =>
    obtain ⟨hfresh, rfl⟩ := h
    exact .issue r hfresh
  | insertActive n botId id epoch =>
    obtain ⟨hr, rfl⟩ := h
    cases r with
    | false => exact .fail _ trivial
    | true =>
      rw [if_pos rfl, BotWorld.holdings_setStage, BotWorld.holdings_setActive]
      refine .claim n botId id epoch ?_
      simp [BotWorld.holdings, Option.isNone_iff_eq_none.mp hr.symm]
  | activate n epoch =>
    cases h
    rw [BotWorld.holdings_setActive, Option.map_map]
    refine (congrArg (Holdings.Step t w.holdings _) ?_).mp (.keep _)
    exact congrArg (fun active => { w.holdings with active }) (update_eq_self n _).symm
  | drainActive n id =>
    cases h
    rw [BotWorld.holdings_setActive, Option.map_map]
    refine (congrArg (Holdings.Step t w.holdings _) ?_).mp (.keep _)
    refine congrArg (fun active => { w.holdings with active }) ?_
    refine (update_eq_self n w.holdings.active).symm.trans (congrArg _ ?_)
    refine congrArg (Option.map · (w.activeNumericBots n)) (funext fun entry => ?_)
    simp only [comp]
    split <;> rfl
  | releaseActive n botId id =>
    cases h
    rw [BotWorld.holdings_leave, BotWorld.holdings_setStage, BotWorld.holdings_setActive,
      BotWorld.map_filter_active]
    exact .release n botId id
  | getOwnership n | assertCanStart n owner epoch | assertFence n owner binding
  | currentLifecycle id | isCancelled id | joinPoller id =>
    obtain ⟨-, rfl⟩ := h
    exact .keep _
  | claimRuntime n binding =>
    have hclaim : w.holdings.Step t (.claimRuntime n binding : PollerCall χ)
        { w with registry := (w.registry.claimRuntime n binding).2 }.holdings := by
      rcases w.registry.claimRuntime_cases n binding with ⟨e, he⟩ | ⟨hpos, hok⟩
      · rw [he]
        exact .keep _
      · rw [hok]
        refine (congrArg (Holdings.Step t w.holdings _) ?_).mp (.bind n binding hpos)
        refine congrArg (fun bound => { w.holdings with bound }) (funext fun n' => ?_)
        by_cases hn : n' = n
        · subst hn
          simp [MemoryPollerRegistry.runtimeBinding]
        · simp [hn, MemoryPollerRegistry.runtimeBinding, BotWorld.holdings]
    rcases h with ⟨-, rfl⟩ | ⟨-, rfl | ⟨-, rfl⟩⟩
    · exact hclaim
    · exact .keep _
    · exact hclaim
  | releaseRuntime n id =>
    rcases h with ⟨-, rfl⟩ | ⟨-, rfl⟩
    · by_cases hpos : 0 < n
      · refine (congrArg (Holdings.Step t w.holdings _) ?_).mp (.unbind n id)
        refine congrArg (fun bound => { w.holdings with bound }) (funext fun n' => ?_)
        rw [MemoryPollerRegistry.runtimeBinding_releaseRuntime hpos]
        by_cases hn : n' = n
        · subst hn
          simp only [update_self, if_true, BotWorld.holdings]
          cases w.registry.runtimeBinding n' with
          | none => rfl
          | some binding => simp [Option.filter, apply_ite]
        · simp [hn, BotWorld.holdings]
      · rw [MemoryPollerRegistry.releaseRuntime_of_nonpos (Int.not_lt.mp hpos)]
        exact .keep _
    · exact .keep _
  | newLifecycle id lifecycle =>
    cases h
    exact .keep _
  | beginDraining id | markStopped id =>
    obtain ⟨-, rfl⟩ := h
    rw [BotWorld.holdings_setLifecycle]
    exact .keep _
  | spawnPoller botId token guard =>
    cases h
    exact .spawn botId token guard
  | insertRuntime botId guard =>
    obtain ⟨hstage, rfl⟩ := h
    rw [BotWorld.holdings_leave, BotWorld.holdings_setStage, BotWorld.holdings_setRuntime]
    exact .enter botId guard hstage
  | sendStart id =>
    obtain ⟨guard, hstage, -, rfl⟩ := h
    exact .signal id guard hstage
  | awaitStart id =>
    obtain ⟨guard, rounds, hjob, ⟨hstage, -, rfl⟩ | ⟨hstage, -, rfl⟩⟩ := h
    · exact .begin id guard rounds hjob hstage
    · exact .letGo id guard rounds hjob hstage
  | drainRuntime botId =>
    simp only [BotEffect] at h
    split at h
    · obtain ⟨-, rfl⟩ := h
      exact .keep _
    · rename_i entry hentry
      split at h
      · obtain ⟨-, rfl⟩ := h
        exact .keep _
      · obtain ⟨-, rfl⟩ := h
        refine (congrArg (Holdings.Step t w.holdings _) ?_).mp (.keep _)
        refine congrArg (fun runtime => { w.holdings with runtime }) (funext fun botId' => ?_)
        by_cases hbot : botId' = botId
        · subst hbot
          simp [hentry, BotWorld.setRuntime, BotWorld.setLifecycle]
        · simp [hbot, BotWorld.setRuntime, BotWorld.setLifecycle]
  | removeRuntime botId id =>
    obtain ⟨-, rfl⟩ := h
    rw [BotWorld.holdings_setRuntime, BotWorld.map_filter_runtime]
    exact .remove botId id
  | _ =>
    cases h
    exact .keep _

/-! ## Runs by a schedule -/

/-- One effect of each call: secrets are tokens, identities are drawn in turn, the tables of the
inbox cannot be read, and requests to Telegram are refused when the schedule says so. -/
def botAct (me : String → Json) (refused : Bool) (t : BotTask) (w : BotWorld) :
    (c : PollerCall noCalls) → Option (c.Reply × BotWorld)
  | .vaultGet secretId =>
    some (.ok (utf8 secretId),
      { w with token := update w.token t (fromUtf8 (utf8 secretId)) })
  | .isRunning botId =>
    some ((w.runtime botId).isSome,
      if (w.runtime botId).isSome then w else { w with starting := (t, botId) :: w.starting })
  | .telegramApiBase =>
    if refused then some (.error (.internal "address refused"), w.leave t) else some (.ok (), w)
  | .buildClient => if refused then some (.error "no client", w.leave t) else some (.ok (), w)
  | .getMe token => some (.ok (me token), w.leaveOn t (parseNumericBotId (me token)))
  | .newRuntimeInstanceId =>
    let id := String.ofList (List.replicate (w.issued.length + 1) 'r')
    if ∀ u ∈ w.issued, u.1 ≠ id then some (id, { w with issued := (id, t) :: w.issued }) else none
  | .insertActive n botId id epoch =>
    if (w.activeNumericBots n).isNone then
      some (true, (w.setActive n (some ⟨botId, id, epoch, .starting⟩)).setStage id
        (some (.claimed n botId)))
    else some (false, w.leave t)
  | .activate n epoch =>
    some ((), w.setActive n ((w.activeNumericBots n).map fun entry =>
      { entry with epoch, lifecycle := .running }))
  | .drainActive n id =>
    some ((), w.setActive n ((w.activeNumericBots n).map fun entry =>
      if entry.runtimeInstanceId = id then { entry with lifecycle := .draining } else entry))
  | .releaseActive n botId id =>
    some ((), ((w.setActive n ((w.activeNumericBots n).filter fun entry =>
      ¬(entry.botId = botId ∧ entry.runtimeInstanceId = id))).setStage id
        ((w.stage id).map RuntimeStage.leave)).leave t)
  | .getOwnership n => some (.ok (w.registry.get n), w)
  | .assertCanStart n owner epoch => some (w.registry.assertCanStart n owner epoch, w)
  | .claimRuntime n binding =>
    some ((w.registry.claimRuntime n binding).1,
      { w with registry := (w.registry.claimRuntime n binding).2 })
  | .assertFence n owner binding =>
    some (SharedMemoryPollerRegistry.assertFence w.registry n owner binding, w)
  | .releaseRuntime n id =>
    some ((w.registry.releaseRuntime n id).1,
      { w with registry := (w.registry.releaseRuntime n id).2 })
  | .beginDraining id =>
    some ((w.lifecycle id).beginDraining.map fun _ => (),
      w.setLifecycle id (w.lifecycle id).beginDraining)
  | .markStopped id =>
    some ((w.lifecycle id).markStopped.map fun _ => (),
      w.setLifecycle id (w.lifecycle id).markStopped)
  | .removeRuntime botId id =>
    some ((w.runtime botId).any (·.ownershipGuard.runtimeInstanceId = id),
      w.setRuntime botId ((w.runtime botId).filter (·.ownershipGuard.runtimeInstanceId ≠ id)))
  | .newLifecycle id lifecycle => some ((), w.setLifecycle id (.ok lifecycle))
  | .currentLifecycle id => some (w.lifecycle id, w)
  | .setDesiredEnabled .. => some (.ok (), w)
  | .spawnPoller _ _ guard => some ((), w.setStage guard.runtimeInstanceId (some (.spawned guard)))
  | .insertRuntime botId guard =>
    if w.stage guard.runtimeInstanceId = some (.spawned guard) then
      some ((), ((w.setRuntime botId (some ⟨guard, true⟩)).setStage guard.runtimeInstanceId
        (some (.entered guard))).leave t)
    else none
  | .sendStart id =>
    match w.stage id with
    | some (.entered guard) => some (.ok (), w.setStage id (some (.signalled guard)))
    | _ => none
  | .awaitStart id =>
    match t.2 with
    | .poller guard _ =>
      if w.stage id = some (.signalled guard) then
        some (true, w.setStage id (some (.begun guard t)))
      else none
    | _ => none
  | .isCancelled id => some (w.cancelled id, w)
  | .drainRuntime botId =>
    match w.runtime botId with
    | none => some (.ok none, w)
    | some entry =>
      let id := entry.ownershipGuard.runtimeInstanceId
      match (w.lifecycle id).beginDraining with
      | .error e => some (.error e, w)
      | .ok lifecycle =>
        some (.ok (some (entry.ownershipGuard, entry.join)),
          { (w.setRuntime botId (some { entry with join := false })).setLifecycle id
            (.ok lifecycle) with cancelled := update w.cancelled id true })
  | .joinPoller _ => some (.returned (.error .database), w)
  | c => some (quietReply .cancelled c, w)

theorem botAct_effect {me : String → Json} {refused : Bool} {t : BotTask} {w w' : BotWorld}
    {c : PollerCall noCalls} {r : c.Reply} (h : botAct me refused t w c = some (r, w')) :
    BotEffect me t w c r w' := by
  cases c <;> simp only [botAct] at h <;> simp only [BotEffect] <;>
    grind [BotWorld.leaveOn, Except.toOption]

end ImBridge
