import ImBridge.Interleaving.Alone
import ImBridge.Telegram.Poller

/-!
# Pollers on the inbox

The runs of the pollers of one bot over time. Statements may fail at any time without effect; a
transaction works on its own copy, and a commit succeeds only if nobody has written since the
transaction began. The process may end at any time: its tasks are gone then, and the next process
starts with the tables and nothing else. A process runs at most one poller of the bot at a
time, together with the tasks for the groups of its batches. All replies of Telegram, of the handler
and of the ownership registry are left open.

## Main definitions

* `InboxWorld`: the tables, the transactions, the process and its groups of updates
* `InboxEffect`, `inboxSemantics`: what a call may reply and do
* `PollerJob`: the tasks, each of one process

## Main results

* `uses_processOrFail`, `uses_recoverPendingUpdates`, `uses_finalizePollerExit`: what the parts of
  a poller do to the inbox
-/

namespace ImBridge

open Interleaving Fallible

/-- The world of pollers, for tasks with names in `A`. -/
structure InboxWorld (A : Type) where
  db : Inbox
  /-- The transaction of a task: the tables it began with, and its copy. -/
  tx : A → Option (Inbox × Inbox)
  /-- How many processes there were before the present one. -/
  process : ℕ
  /-- The task that is the poller of the process. -/
  poller : Option A
  /-- The groups of updates that wait for their task, and those that a task has. -/
  groups : List (List (ℤ × Json))
  running : List (A × List (ℤ × Json))

namespace InboxWorld

variable {A : Type}

/-- The first process. -/
def start (db : Inbox) : InboxWorld A := ⟨db, fun _ => none, 0, none, [], []⟩

/-- The next process, with nothing but the tables. -/
def restart (w : InboxWorld A) : InboxWorld A := ⟨w.db, fun _ => none, w.process + 1, none, [], []⟩

variable [DecidableEq A]

def setTx (w : InboxWorld A) (t : A) (tx : Option (Inbox × Inbox)) : InboxWorld A :=
  { w with tx := Function.update w.tx t tx }

@[simp] theorem setTx_self (w : InboxWorld A) (t : A) (tx : Option (Inbox × Inbox)) :
    (w.setTx t tx).tx t = tx := Function.update_self ..

@[simp] theorem setTx_of_ne (w : InboxWorld A) {t u : A} (h : u ≠ t) (tx : Option (Inbox × Inbox)) :
    (w.setTx t tx).tx u = w.tx u := Function.update_of_ne h ..

end InboxWorld

section Semantics

variable {χ : Signature} {A : Type} [DecidableEq A] (unixepoch : String → Option ℤ)

/-- **What a call of the task `t` may reply and do.** -/
def InboxEffect (t : A) (w : InboxWorld A) : (c : PollerCall χ) → c.Reply → InboxWorld A → Prop
  | .inbox s, r, w' =>
    (r = (s.exec unixepoch w.db).1 ∧ w' = { w with db := (s.exec unixepoch w.db).2 }) ∨
      (r = .error .other ∧ w' = w)
  | .beginTx, r, w' =>
    (r = .ok () ∧ w' = w.setTx t (some (w.db, w.db))) ∨ (r = .error .other ∧ w' = w.setTx t none)
  | .inTx s, r, w' =>
    (∃ start copy, w.tx t = some (start, copy) ∧ r = (s.exec unixepoch copy).1 ∧
      w' = w.setTx t (some (start, (s.exec unixepoch copy).2))) ∨ (r = .error .other ∧ w' = w)
  | .commitTx, r, w' =>
    (∃ start copy, w.tx t = some (start, copy) ∧ w.db = start ∧ r = .ok () ∧
      w' = { w.setTx t none with db := copy }) ∨ (r = .error .other ∧ w' = w.setTx t none)
  | .awaitStart _, r, w' =>
    (r = true ∧ w.poller = none ∧ w' = { w with poller := some t }) ∨ (r = false ∧ w' = w)
  | .spawnGroup updates, _, w' => w' = { w with groups := w.groups ++ [updates] }
  | .takeGroup, r, w' =>
    ∃ before after, w.groups = before ++ r :: after ∧
      w' = { w with groups := before ++ after, running := (t, r) :: w.running }
  | .finishGroup, _, w' => w' = { w with running := w.running.filter (·.1 ≠ t) }
  | .joinGroups, _, w' => w.groups = [] ∧ w.running = [] ∧ w' = w
  | .removeRuntime .., _, w' =>
    w' = { w with poller := if w.poller = some t then none else w.poller }
  | _, _, w' => w' = w

/-- What a call does to the poller of the process and to the groups. -/
inductive RosterStep (t : A) (w w' : InboxWorld A) : PollerCall χ → Prop
  | keep (c : PollerCall χ) (hpoller : w'.poller = w.poller) (hgroups : w'.groups = w.groups)
      (hrunning : w'.running = w.running) : RosterStep t w w' c
  | start (id : String) (hnone : w.poller = none) (hpoller : w'.poller = some t)
      (hgroups : w'.groups = w.groups) (hrunning : w'.running = w.running) :
      RosterStep t w w' (.awaitStart id)
  | spawn (updates : List (ℤ × Json)) (hpoller : w'.poller = w.poller)
      (hgroups : w'.groups = w.groups ++ [updates]) (hrunning : w'.running = w.running) :
      RosterStep t w w' (.spawnGroup updates)
  | take (updates : List (ℤ × Json)) (before after : List (List (ℤ × Json)))
      (hpoller : w'.poller = w.poller) (hmem : w.groups = before ++ updates :: after)
      (hgroups : w'.groups = before ++ after) (hrunning : w'.running = (t, updates) :: w.running) :
      RosterStep t w w' .takeGroup
  | finish (hpoller : w'.poller = w.poller) (hgroups : w'.groups = w.groups)
      (hrunning : w'.running = w.running.filter (·.1 ≠ t)) : RosterStep t w w' .finishGroup
  | remove (botId id : String) (hpoller : w'.poller = if w.poller = some t then none else w.poller)
      (hgroups : w'.groups = w.groups) (hrunning : w'.running = w.running) :
      RosterStep t w w' (.removeRuntime botId id)

section Effect

variable {unixepoch : String → Option ℤ} {t : A} {w w' : InboxWorld A} {c : PollerCall χ}
  {r : c.Reply} (h : InboxEffect unixepoch t w c r w')
include h

/-- What a call leaves as it is: the process, the transactions of the others, and the tables unless
it is a statement or a commit. -/
theorem InboxEffect.inversion :
    w'.process = w.process ∧ (∀ u, u ≠ t → w'.tx u = w.tx u) ∧
      (w'.db = w.db ∨ (∃ s, c = .inbox s ∧ w'.db = (s.exec unixepoch w.db).2) ∨
        (c = .commitTx ∧ w.tx t = some (w.db, w'.db))) := by
  unfold InboxEffect at h
  split at h
  case h_1 s r =>
    rcases h with ⟨-, rfl⟩ | ⟨-, rfl⟩
    · exact ⟨rfl, fun _ _ => rfl, .inr (.inl ⟨s, rfl, rfl⟩)⟩
    · exact ⟨rfl, fun _ _ => rfl, .inl rfl⟩
  case h_2 r =>
    rcases h with ⟨-, rfl⟩ | ⟨-, rfl⟩ <;>
      exact ⟨rfl, fun _ hu => InboxWorld.setTx_of_ne w hu _, .inl rfl⟩
  case h_3 s r =>
    rcases h with ⟨start, copy, -, -, rfl⟩ | ⟨-, rfl⟩
    · exact ⟨rfl, fun _ hu => InboxWorld.setTx_of_ne w hu _, .inl rfl⟩
    · exact ⟨rfl, fun _ _ => rfl, .inl rfl⟩
  case h_4 r =>
    rcases h with ⟨start, copy, htx, rfl, -, rfl⟩ | ⟨-, rfl⟩
    · exact ⟨rfl, fun _ hu => InboxWorld.setTx_of_ne w hu _, .inr (.inr ⟨rfl, htx⟩)⟩
    · exact ⟨rfl, fun _ hu => InboxWorld.setTx_of_ne w hu _, .inl rfl⟩
  case h_5 r =>
    rcases h with ⟨-, -, rfl⟩ | ⟨-, rfl⟩ <;> exact ⟨rfl, fun _ _ => rfl, .inl rfl⟩
  case h_7 r =>
    obtain ⟨before, after, -, rfl⟩ := h
    exact ⟨rfl, fun _ _ => rfl, .inl rfl⟩
  case h_9 =>
    obtain ⟨-, -, rfl⟩ := h
    exact ⟨rfl, fun _ _ => rfl, .inl rfl⟩
  all_goals
    subst h
    exact ⟨rfl, fun _ _ => rfl, .inl rfl⟩

theorem InboxEffect.roster : RosterStep t w w' c := by
  unfold InboxEffect at h
  split at h
  case h_1 s r => rcases h with ⟨-, rfl⟩ | ⟨-, rfl⟩ <;> exact .keep _ rfl rfl rfl
  case h_2 r => rcases h with ⟨-, rfl⟩ | ⟨-, rfl⟩ <;> exact .keep _ rfl rfl rfl
  case h_3 s r => rcases h with ⟨start, copy, -, -, rfl⟩ | ⟨-, rfl⟩ <;> exact .keep _ rfl rfl rfl
  case h_4 r =>
    rcases h with ⟨start, copy, -, -, -, rfl⟩ | ⟨-, rfl⟩ <;> exact .keep _ rfl rfl rfl
  case h_5 id r =>
    rcases h with ⟨-, hnone, rfl⟩ | ⟨-, rfl⟩
    · exact .start id hnone rfl rfl rfl
    · exact .keep _ rfl rfl rfl
  case h_6 updates r =>
    subst h
    exact .spawn updates rfl rfl rfl
  case h_7 r =>
    obtain ⟨before, after, hmem, rfl⟩ := h
    exact .take r before after rfl hmem rfl rfl
  case h_8 r =>
    subst h
    exact .finish rfl rfl rfl
  case h_9 r =>
    obtain ⟨-, -, rfl⟩ := h
    exact .keep _ rfl rfl rfl
  case h_10 bot id r =>
    subst h
    exact .remove bot id rfl rfl rfl
  case h_11 =>
    subst h
    exact .keep _ rfl rfl rfl

end Effect

/-- The world moves to the next process, or others write what does not belong to the bot. -/
inductive InboxDrift (botId : String) (w : InboxWorld A) : InboxWorld A → Prop
  | restart : InboxDrift botId w w.restart
  | others (db : Inbox)
      (hupdates : ∀ updateId, db.update? botId updateId = w.db.update? botId updateId)
      (hoffset : db.offset? botId = w.db.offset? botId) : InboxDrift botId w { w with db }

/-- The tasks of pollers: each belongs to one process, and only the tasks of the present process
make calls. -/
inductive PollerJob
  | poller (process : ℕ) (guard : PollerOwnershipGuard) (rounds : ℕ)
  | group (process : ℕ) (guard : PollerOwnershipGuard)
  deriving DecidableEq

namespace PollerJob

def process : PollerJob → ℕ
  | poller n .. => n
  | group n _ => n

@[reducible] def Out : PollerJob → Type
  | poller .. => Option (AppResult Unit)
  | group .. => Unit

def body (lib : Primitives) (app : UpdateHandler χ) (botId : String) :
    (j : PollerJob) → PollerProgram χ j.Out
  | poller _ guard rounds => pollerTask lib app botId guard rounds
  | group _ guard => groupTask app botId guard

end PollerJob

/-- A task of the process, with its number. -/
abbrev JobTask := ℕ × PollerJob

abbrev JobWorld := InboxWorld JobTask

abbrev JobMoment (χ : Signature) := Moment (pollerCalls χ) JobTask JobWorld

abbrev JobEvent (χ : Signature) := Event (pollerCalls χ) JobTask

def inboxSemantics (χ : Signature) (botId : String) :
    Semantics (pollerCalls χ) JobTask JobWorld where
  effect a m c r w := a.2.process = m.world.process ∧ InboxEffect unixepoch a m.world c r w
  drift := InboxDrift botId

/-- One task that is alone with the inbox. -/
def inboxAlone (χ : Signature) : Semantics (pollerCalls χ) Unit (InboxWorld Unit) where
  effect t m c r w := InboxEffect unixepoch t m.world c r w
  drift _ _ := False

theorem solitary_inboxAlone : Solitary (inboxAlone unixepoch χ) () := ⟨fun _ => rfl, fun _ _ h => h⟩

end Semantics

/-! ## What the parts of a poller do to the inbox -/

section Footprints

variable {χ : Signature} {lib : Primitives} {app : UpdateHandler χ} {botId : String}
  {guard : PollerOwnershipGuard} {P : PollerCall χ → Prop}

/-- Calls that have nothing to do with the inbox, the batches and their groups. -/
def PollerCall.Plain : PollerCall χ → Prop
  | .inbox _ | .beginTx | .inTx _ | .commitTx | .getUpdates .. | .spawnGroup _ | .joinGroups
  | .takeGroup | .finishGroup | .awaitStart _ | .removeRuntime .. => False
  | _ => True

variable {c : PollerCall χ}

theorem InboxEffect.eq_of_plain {A : Type} [DecidableEq A] {unixepoch : String → Option ℤ} {t : A}
    {w w' : InboxWorld A} {r : c.Reply} (hc : c.Plain) (h : InboxEffect unixepoch t w c r w') :
    w' = w := by
  cases c <;> first | exact hc.elim | exact h

/-- The calls that a poller makes while it goes about its work. -/
@[grind]
def PollerCall.Ordinary : PollerCall χ → Prop
  | .handler _ | .nowRfc3339 | .unixTimestamp | .configure _ | .setPollError .. | .clearPollError _
  | .operationRecoveryDue | .inboxRecoveryDue | .currentLifecycle _ | .assertFence ..
  | .isCancelled _ => True
  | _ => False

theorem PollerCall.Ordinary.plain (hc : c.Ordinary) : c.Plain := by
  cases c <;> trivial

@[grind ←]
theorem uses_askPoller (hc : P c) : (askPoller c).Uses P :=
  ⟨hc, fun _ => trivial⟩

@[grind ←]
theorem uses_inboxSql {s : InboxStatement} (hs : P (.inbox s)) : Uses P (inboxSql (χ := χ) s) :=
  Program.uses_bind (uses_askPoller hs) fun _ => Program.uses_ret _

/-- The calls with which a poller gives back what it holds, up to its place in the table of
runtimes. -/
@[grind]
def PollerCall.OfExit : PollerCall χ → Prop
  | .beginDraining _ | .markStopped _ | .currentLifecycle _ | .releaseRuntime ..
  | .releaseActive .. => True
  | _ => False

theorem PollerCall.OfExit.plain (hc : c.OfExit) : c.Plain := by
  cases c <;> trivial

section Exit

variable (hexit : ∀ c : PollerCall χ, c.OfExit → P c)
include hexit

theorem uses_releaseRuntime : (releaseRuntime (χ := χ) guard).Uses P := by
  unfold releaseRuntime
  grind

theorem uses_finalizePollerExit (hremove : P (.removeRuntime botId guard.runtimeInstanceId)) :
    (finalizePollerExit (χ := χ) botId guard).Uses P := by
  have hrelease : (releaseRuntime (χ := χ) guard).Uses P := uses_releaseRuntime hexit
  unfold finalizePollerExit
  grind

end Exit

variable (hordinary : ∀ c : PollerCall χ, c.Ordinary → P c)
include hordinary

@[grind ←]
theorem uses_ofHandler {α : Type} (p : Program χ α) : (ofHandler p).Uses P := by
  induction p with
  | ret a => trivial
  | call c k ih => exact ⟨hordinary _ trivial, ih⟩

@[grind ←]
theorem uses_assertValid : (assertValid (χ := χ) guard).Uses P := by
  unfold assertValid
  grind

@[grind ←]
theorem uses_stillOwner : (stillOwner (χ := χ) guard).Uses P := by
  unfold stillOwner
  grind

theorem uses_configureOrReport : (configureOrReport (χ := χ) botId).Uses P := by
  unfold configureOrReport
  grind

@[grind ←]
theorem uses_recoverDueOperations : (recoverDueOperations app botId guard).Uses P := by
  unfold recoverDueOperations
  grind

section Updates

variable (hchange : ∀ u updateId now, P (.inbox (.changeUpdate u botId updateId now)))
include hchange

variable (updateId : ℤ)

@[grind ←]
theorem uses_markUpdateProcessed :
    Uses P (markUpdateProcessed (χ := χ) botId updateId) := by
  unfold markUpdateProcessed
  grind

theorem uses_processAndDeliver (update : Json) :
    Uses P (processAndDeliver app botId updateId update guard) := by
  have hrespond : ∀ chatId, Uses P (ExceptT.mk (ofHandler
      (app.respond botId chatId updateId update guard))) := fun _ => uses_ofHandler hordinary _
  unfold processAndDeliver
  grind

@[grind ←]
theorem uses_processOrFail (update : Json) :
    (processOrFail app botId updateId update guard).Uses P := by
  refine Program.uses_bind (uses_processAndDeliver hordinary hchange updateId update) fun r => ?_
  cases r with
  | ok _ => grind
  | error e => grind

theorem uses_processGroup (updates : List (ℤ × Json)) :
    (processGroup app botId guard updates).Uses P := by
  induction updates with
  | nil => exact Program.uses_ret _
  | cons u updates ih =>
    exact Program.uses_bind (uses_processOrFail hordinary hchange u.1 u.2) fun _ => ih

theorem uses_recoverUpdate (raw : Bytes) :
    Uses P (recoverUpdate lib app botId guard updateId raw) := by
  refine uses_bind (uses_lift (uses_assertValid hordinary)) fun r => ?_
  cases r with
  | error e => grind
  | ok _ =>
    dsimp only
    split
    · grind
    · grind

@[grind ←]
theorem uses_recoverUpdates (rows : List (ℤ × Bytes)) :
    Uses P (recoverUpdates lib app botId guard rows) := by
  induction rows with
  | nil => exact uses_pure _
  | cons row rows ih =>
    exact uses_bind (uses_recoverUpdate hordinary hchange row.1 row.2) fun _ => ih

variable (hpending : ∀ nowUnix, P (.inbox (.selectPending botId nowUnix)))
include hpending

@[grind ←]
theorem uses_recoverPendingUpdates : Uses P (recoverPendingUpdates lib app botId guard) := by
  unfold recoverPendingUpdates
  grind

@[grind ←]
theorem uses_recoverDueUpdates : (recoverDueUpdates lib app botId guard).Uses P := by
  have hpendings : (recoverPendingUpdates lib app botId guard).run.Uses P :=
    uses_recoverPendingUpdates hordinary hchange hpending
  unfold recoverDueUpdates
  grind

theorem uses_recoverStartupUpdates (hreset : ∀ now, P (.inbox (.resetProcessing botId now))) :
    Uses P (recoverStartupUpdates lib app botId guard) := by
  unfold recoverStartupUpdates
  grind

end Updates

end Footprints

/-! ## Replies for runs by a schedule -/

/-- A handler that makes no calls. -/
abbrev noCalls : Signature := ⟨Empty, fun _ => Unit⟩

/-- Replies to the calls that have nothing to do with the inbox. -/
def quietReply (poll : Poll) : (c : PollerCall noCalls) → c.Reply
  | .handler c => c.elim
  | .nowRfc3339 => "2026-01-01T00:00:00Z"
  | .unixTimestamp => 0
  | .inbox _ | .beginTx | .inTx _ | .commitTx | .setDesiredEnabled .. => .error .other
  | .telegramApiBase | .buildClient | .configure _ => .ok ()
  | .getMe _ => .ok .null
  | .getUpdates .. => poll
  | .setPollError .. | .clearPollError _ | .spawnGroup _ | .joinGroups | .finishGroup => ()
  | .operationRecoveryDue | .inboxRecoveryDue | .isRunning _ | .isCancelled _ => false
  | .takeGroup => []
  | .vaultGet _ => .ok []
  | .newRuntimeInstanceId => "runtime"
  | .insertActive .. | .hasRegistry | .awaitStart _ | .removeRuntime .. => true
  | .activate .. | .drainActive .. | .releaseActive .. | .newLifecycle .. | .spawnPoller ..
  | .insertRuntime .. => ()
  | .getOwnership _ => .ok none
  | .assertCanStart .. | .claimRuntime .. | .assertFence .. | .releaseRuntime .. => .ok ()
  | .currentLifecycle _ => .running
  | .beginDraining _ | .markStopped _ => .ok ()
  | .sendStart _ => .ok ()
  | .drainRuntime _ => .ok none
  | .joinPoller _ => .returned (.ok ())

/-- The handler that has nothing to answer. -/
def silentHandler : UpdateHandler noCalls where
  respond _ _ _ _ _ := .ret (.ok ())
  recoverBridgeOperations _ _ := .ret (.ok ())

end ImBridge
