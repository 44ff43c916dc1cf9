import ImBridge.System
import ImBridge.Bridge.PollerRegistry
import ImBridge.Telegram.Inbox

/-!
# The poller of a bot

A poller asks Telegram for updates, stores them in the inbox, and hands each of them to the handler
that answers it; what is left unanswered in the inbox is tried again. The updates of one batch are
processed by one task for each chat. The poller runs until it is cancelled or no longer owns the
bot, and then gives back what it holds.

What the handler does with an update is a parameter: a program over calls of its own, which say
nothing about the inbox and the ownership of the bot.

## Main definitions

* `PollerCall`, `pollerCalls`: the calls of pollers, and of the calls that start and stop them
* `persistUpdateBatch`: storing a batch of updates in one transaction
* `processAndDeliver`: claiming an update, handling it, and marking it as processed
* `recoverStartupUpdates`, `recoverPendingUpdates`: trying again
* `finalizePollerExit`: giving back what a poller holds
* `pollTelegramBot`: the poller; its loop is cut off after a number of rounds
-/

namespace ImBridge

open Interleaving

/-- The chat that an update belongs to. -/
def chatIdOf (update : Json) : Option ℤ :=
  ((update.pointer ["message", "chat", "id"]).or
    (update.pointer ["callback_query", "message", "chat", "id"])).bind Json.asI64

/-- The answer to `getUpdates`, or why there is none. -/
inductive Poll
  | cancelled
  | requestFailed
  | invalidJson
  | answered (success : Bool) (payload : Json)

/-- How a task that was waited for has ended. -/
inductive Joined
  | returned (result : AppResult Unit)
  | panicked (message : String)

inductive PollerCall (χ : Signature)
  | handler (c : χ.Call)
  | nowRfc3339
  | unixTimestamp
  | inbox (s : InboxStatement)
  | beginTx
  | inTx (s : InboxStatement)
  | commitTx
  | telegramApiBase
  | buildClient
  | getMe (token : String)
  | configure (botId : String)
  | getUpdates (botId : String) (offset : ℤ)
  | setPollError (botId message : String)
  | clearPollError (botId : String)
  | operationRecoveryDue
  | inboxRecoveryDue
  /-- A group of updates is handed to a new task. -/
  | spawnGroup (updates : List (ℤ × Json))
  /-- All tasks with groups have ended. -/
  | joinGroups
  /-- A new task gets its group, and has ended with it. -/
  | takeGroup
  | finishGroup
  | vaultGet (secretId : String)
  | newRuntimeInstanceId
  | isRunning (botId : String)
  | insertActive (numericBotId : ℤ) (botId runtimeInstanceId : String) (epoch : ℕ)
  | activate (numericBotId : ℤ) (epoch : ℕ)
  | drainActive (numericBotId : ℤ) (runtimeInstanceId : String)
  | releaseActive (numericBotId : ℤ) (botId runtimeInstanceId : String)
  | hasRegistry
  | getOwnership (numericBotId : ℤ)
  | assertCanStart (numericBotId : ℤ) (owner : PollerOwner) (epoch : ℕ)
  | claimRuntime (numericBotId : ℤ) (binding : PollerRuntimeBinding)
  | assertFence (numericBotId : ℤ) (owner : PollerOwner) (binding : PollerRuntimeBinding)
  | releaseRuntime (numericBotId : ℤ) (runtimeInstanceId : String)
  | newLifecycle (runtimeInstanceId : String) (lifecycle : PollerLifecycle)
  | currentLifecycle (runtimeInstanceId : String)
  | beginDraining (runtimeInstanceId : String)
  | markStopped (runtimeInstanceId : String)
  | setDesiredEnabled (botId : String) (enabled : Bool)
  | spawnPoller (botId token : String) (guard : PollerOwnershipGuard)
  | insertRuntime (botId : String) (guard : PollerOwnershipGuard)
  | sendStart (runtimeInstanceId : String)
  | awaitStart (runtimeInstanceId : String)
  | isCancelled (runtimeInstanceId : String)
  /-- The poller of the bot is told to stop; whether it is still to be waited for. -/
  | drainRuntime (botId : String)
  | joinPoller (runtimeInstanceId : String)
  | removeRuntime (botId runtimeInstanceId : String)

@[reducible] def PollerCall.Reply {χ : Signature} : PollerCall χ → Type
  | handler c => χ.Reply c
  | nowRfc3339 => String
  | unixTimestamp => ℤ
  | inbox s => s.Reply
  | beginTx => Except SqlError Unit
  | inTx s => s.Reply
  | commitTx => Except SqlError Unit
  | telegramApiBase => AppResult Unit
  | buildClient => Except String Unit
  | getMe _ => AppResult Json
  | configure _ => AppResult Unit
  | getUpdates .. => Poll
  | setPollError .. => Unit
  | clearPollError _ => Unit
  | operationRecoveryDue => Bool
  | inboxRecoveryDue => Bool
  | spawnGroup _ => Unit
  | joinGroups => Unit
  | takeGroup => List (ℤ × Json)
  | finishGroup => Unit
  | vaultGet _ => AppResult Bytes
  | newRuntimeInstanceId => String
  | isRunning _ => Bool
  | insertActive .. => Bool
  | activate .. => Unit
  | drainActive .. => Unit
  | releaseActive .. => Unit
  | hasRegistry => Bool
  | getOwnership _ => Except PollerError (Option PollerOwnershipRecord)
  | assertCanStart .. => Except PollerError Unit
  | claimRuntime .. => Except PollerError Unit
  | assertFence .. => Except PollerError Unit
  | releaseRuntime .. => Except PollerError Unit
  | newLifecycle .. => Unit
  | currentLifecycle _ => PollerLifecycle
  | beginDraining _ => Except PollerError Unit
  | markStopped _ => Except PollerError Unit
  | setDesiredEnabled .. => Except SqlError Unit
  | spawnPoller .. => Unit
  | insertRuntime .. => Unit
  | sendStart _ => Except Unit Unit
  | awaitStart _ => Bool
  | isCancelled _ => Bool
  | drainRuntime _ => Except PollerError (Option (PollerOwnershipGuard × Bool))
  | joinPoller _ => Joined
  | removeRuntime .. => Bool

abbrev pollerCalls (χ : Signature) : Signature := ⟨PollerCall χ, PollerCall.Reply⟩

section Poller

variable {χ : Signature}

/-- Tasks of pollers. -/
abbrev PollerProgram (χ : Signature) (α : Type) := Program (pollerCalls χ) α

/-- Tasks of pollers that may fail. -/
abbrev PollerTask (χ : Signature) (α : Type) := Fallible (pollerCalls χ) AppError α

/-- Makes the call and returns its reply. -/
def askPoller (c : PollerCall χ) : PollerProgram χ c.Reply :=
  Program.perform (σ := pollerCalls χ) c

/-- The program of the handler, as a part of the poller. -/
def ofHandler {α : Type} : Program χ α → PollerProgram χ α
  | .ret a => .ret a
  | .call c k => .call (σ := pollerCalls χ) (.handler c) fun r => ofHandler (k r)

/-- Runs a statement on the inbox; any failure of it is the storage's error. -/
def inboxSql (s : InboxStatement) : PollerTask χ s.Rows := ExceptT.mk do
  return (← askPoller (.inbox s)).mapError fun _ => AppError.database

/-- A step of a transaction that may fail. -/
def txStep {α : Type} (p : PollerProgram χ (Except SqlError α)) : PollerTask χ α := ExceptT.mk do
  return (← p).mapError fun _ => AppError.database

/-- What the poller leaves to others: the answer to an update of a chat, and the recovery of the
operations of the bot. -/
structure UpdateHandler (χ : Signature) where
  respond : (botId : String) → (chatId updateId : ℤ) → Json → PollerOwnershipGuard →
    Program χ (AppResult Unit)
  recoverBridgeOperations : (botId : String) → PollerOwnershipGuard → Program χ (AppResult Unit)

/-! ## Storing a batch -/

variable (lib : Primitives)

def updateIdInvalid (message : String) : AppError :=
  .badRequest "TELEGRAM_UPDATE_ID_INVALID" message

/-- Stores one update, unless it is stored already, and tells whether it waits to be processed. -/
def persistUpdate (botId : String) (updateId : ℤ) (update : Json) (now : String) :
    PollerTask χ Bool := do
  let rawJson := lib.renderJson update
  let rawSha256 := lib.sha256Hex rawJson
  match ← txStep (askPoller (.inTx (.selectUpdate botId updateId))) with
  | some existing =>
    if existing.rawUpdateJson ≠ rawJson ∨ existing.rawUpdateSha256 ≠ some rawSha256 then
      throw (.conflict "TELEGRAM_UPDATE_IDENTITY_REUSED"
        "Telegram update identity was reused with a different body")
    else return existing.status == .received || existing.status == .failed
  | none =>
    txStep (askPoller (.inTx (.insertUpdate botId updateId rawJson rawSha256 now)))
    return true

/-- The updates of the batch that wait to be processed, and the offset after the batch. -/
def persistUpdates (botId now : String) :
    List Json → List (ℤ × Json) → ℤ → PollerTask χ (List (ℤ × Json) × ℤ)
  | [], persisted, candidateOffset => pure (persisted, candidateOffset)
  | update :: updates, persisted, candidateOffset =>
    match (update.get "update_id").bind Json.asI64 with
    | none => persistUpdates botId now updates persisted candidateOffset
    | some updateId =>
      if updateId < 0 then
        throw (updateIdInvalid "Telegram update id must be non-negative")
      else do
        let waits ← persistUpdate lib botId updateId update now
        if 2 ^ 63 ≤ updateId + 1 then
          throw (updateIdInvalid "Telegram update id overflow")
        else
          persistUpdates botId now updates
            (if waits then persisted ++ [(updateId, update)] else persisted)
            (max candidateOffset (updateId + 1))

/-- The transaction of `persist_update_batch`. -/
def persistTransaction (botId : String) (updates : List Json) (offset : ℤ) :
    PollerTask χ (List (ℤ × Json) × ℤ) := do
  let now ← askPoller (χ := χ) .nowRfc3339
  txStep (askPoller .beginTx)
  let (persisted, candidateOffset) ← persistUpdates lib botId now updates [] offset
  txStep (askPoller (.inTx (.upsertOffset botId candidateOffset now)))
  txStep (askPoller .commitTx)
  return (persisted, candidateOffset)

/-- Stores the batch, and returns the updates to process and the caller's offset, which is moved
only once the transaction has committed. -/
def persistUpdateBatch (botId : String) (updates : List Json) (offset : ℤ) :
    PollerProgram χ (AppResult (List (ℤ × Json)) × ℤ) := do
  match ← (persistTransaction lib botId updates offset).run with
  | .ok (persisted, candidateOffset) => return (.ok persisted, candidateOffset)
  | .error e => return (.error e, offset)

/-! ## Processing updates -/

variable (app : UpdateHandler χ)

def markUpdateProcessed (botId : String) (updateId : ℤ) : PollerTask χ Unit := do
  let now ← askPoller (χ := χ) .nowRfc3339
  let _ ← inboxSql (.changeUpdate .process botId updateId now)
  return ()

/-- Claims the update, and handles it if it was there to be claimed. -/
def processAndDeliver (botId : String) (updateId : ℤ) (update : Json)
    (guard : PollerOwnershipGuard) : PollerTask χ Unit := do
  let now ← askPoller (χ := χ) .nowRfc3339
  let claimed ← inboxSql (.changeUpdate .claim botId updateId now)
  if claimed = 0 then return ()
  else
    match chatIdOf update with
    | none => markUpdateProcessed botId updateId
    | some chatId => do
      ExceptT.mk (ofHandler (app.respond botId chatId updateId update guard))
      markUpdateProcessed botId updateId

/-- Processes the update; a failure is recorded with it, if that can be done. -/
def processOrFail (botId : String) (updateId : ℤ) (update : Json) (guard : PollerOwnershipGuard) :
    PollerProgram χ Unit := do
  match ← (processAndDeliver app botId updateId update guard).run with
  | .ok () => return ()
  | .error e => do
    let now ← askPoller .nowRfc3339
    let _ ← askPoller (.inbox (.changeUpdate (.fail e.code) botId updateId now))
    return ()

/-- One update after the other. -/
def processGroup (botId : String) (guard : PollerOwnershipGuard) :
    List (ℤ × Json) → PollerProgram χ Unit
  | [] => pure ()
  | (updateId, update) :: updates => do
    processOrFail app botId updateId update guard
    processGroup botId guard updates

/-- The task of one group of a batch. -/
def groupTask (botId : String) (guard : PollerOwnershipGuard) : PollerProgram χ Unit := do
  let updates ← askPoller .takeGroup
  processGroup app botId guard updates
  askPoller .finishGroup

/-- The group of an update: its chat, or only itself. -/
def groupOf (updateId : ℤ) (update : Json) : ℤ ⊕ ℤ :=
  match chatIdOf update with
  | some chatId => .inl chatId
  | none => .inr updateId

/-- The updates by their groups, each sorted by its update ids. -/
def groupUpdates (persisted : List (ℤ × Json)) : List (List (ℤ × Json)) :=
  (persisted.map fun u => groupOf u.1 u.2).dedup.map fun key =>
    (persisted.filter fun u => groupOf u.1 u.2 = key).insertionSort fun u v => u.1 ≤ v.1

def spawnGroups : List (List (ℤ × Json)) → PollerProgram χ Unit
  | [] => pure ()
  | group :: groups => do
    askPoller (.spawnGroup group)
    spawnGroups groups

/-! ## Ownership -/

/-- The binding of the guard, with the lifecycle its runtime is in. -/
def PollerOwnershipGuard.bindingIn (self : PollerOwnershipGuard) (lifecycle : PollerLifecycle) :
    PollerRuntimeBinding :=
  ⟨self.internalBotId, self.runtimeInstanceId, self.epoch, lifecycle⟩

def assertValid (guard : PollerOwnershipGuard) : PollerProgram χ (Except PollerError Unit) := do
  let lifecycle ← askPoller (.currentLifecycle guard.runtimeInstanceId)
  askPoller (.assertFence guard.numericBotId guard.owner (guard.bindingIn lifecycle))

/-- The runtime is released in the registry once it drains. -/
def releaseRuntime (guard : PollerOwnershipGuard) : PollerProgram χ (Except PollerError Unit) := do
  match ← askPoller (.currentLifecycle guard.runtimeInstanceId) with
  | .draining | .stopped =>
    askPoller (.releaseRuntime guard.numericBotId guard.runtimeInstanceId)
  | .starting | .running => return .error .lifecycleInvalid

/-- Gives back what the poller holds; the first failure is returned, but the rest goes on. -/
def finalizePollerExit (botId : String) (guard : PollerOwnershipGuard) :
    PollerProgram χ (AppResult Unit) := do
  let drained ← askPoller (.beginDraining guard.runtimeInstanceId)
  let stopped ← askPoller (.markStopped guard.runtimeInstanceId)
  let released ← releaseRuntime guard
  askPoller (.releaseActive guard.numericBotId botId guard.runtimeInstanceId)
  let _ ← askPoller (.removeRuntime botId guard.runtimeInstanceId)
  return (((drained.mapError fun e => AppError.conflict "ST_POLLER_NOT_OWNER"
      s!"poller begin draining failed: {e.asStr}") *>
    (stopped.mapError fun e => AppError.internal s!"poller mark stopped failed: {e.asStr}")) *>
    (released.mapError fun e => AppError.internal s!"poller runtime release failed: {e.asStr}"))

/-! ## Trying again -/

/-- One stored update is tried again. A row that no longer reads as JSON is put aside. -/
def recoverUpdate (botId : String) (guard : PollerOwnershipGuard) (updateId : ℤ) (raw : Bytes) :
    PollerTask χ Unit := do
  match ← assertValid (χ := χ) guard with
  | .error _ => throw (.conflict "POLLER_OWNERSHIP_LOST"
      "inbox recovery ownership is no longer valid")
  | .ok () =>
    match lib.parseJson raw with
    | none => do
      let now ← askPoller (χ := χ) .nowRfc3339
      let _ ← inboxSql (.changeUpdate .quarantine botId updateId now)
      return ()
    | some update => processOrFail app botId updateId update guard

def recoverUpdates (botId : String) (guard : PollerOwnershipGuard) :
    List (ℤ × Bytes) → PollerTask χ Unit
  | [] => pure ()
  | (updateId, raw) :: rows => do
    recoverUpdate lib app botId guard updateId raw
    recoverUpdates botId guard rows

def recoverPendingUpdates (botId : String) (guard : PollerOwnershipGuard) : PollerTask χ Unit := do
  let nowUnix ← askPoller (χ := χ) .unixTimestamp
  let rows ← inboxSql (.selectPending botId nowUnix)
  recoverUpdates lib app botId guard rows

/-- Updates that a poller before this one was processing are put back first. -/
def recoverStartupUpdates (botId : String) (guard : PollerOwnershipGuard) : PollerTask χ Unit := do
  let now ← askPoller (χ := χ) .nowRfc3339
  let _ ← inboxSql (.resetProcessing botId now)
  recoverPendingUpdates lib app botId guard

/-! ## The loop -/

/-- The guard still owns the bot. -/
def stillOwner (guard : PollerOwnershipGuard) : PollerProgram χ Bool := do
  match ← assertValid guard with
  | .ok () => return true
  | .error _ => return false

def recoverDueOperations (botId : String) (guard : PollerOwnershipGuard) :
    PollerProgram χ Unit := do
  if ← askPoller .operationRecoveryDue then
    let _ ← ofHandler (app.recoverBridgeOperations botId guard)
    return ()
  else return ()

def recoverDueUpdates (botId : String) (guard : PollerOwnershipGuard) : PollerProgram χ Unit := do
  if ← askPoller .inboxRecoveryDue then
    let _ ← (recoverPendingUpdates lib app botId guard).run
    return ()
  else return ()

/-- A batch is stored, and its groups are processed to their ends. -/
def takeBatch (botId : String) (updates : List Json) (offset : ℤ) : PollerProgram χ ℤ := do
  let (persisted, offset) ← persistUpdateBatch lib botId updates offset
  match persisted with
  | .error _ => return offset
  | .ok persisted => do
    spawnGroups (groupUpdates persisted)
    askPoller .joinGroups
    return offset

/-- One request for updates; nothing is returned when the poller is cancelled. -/
def pollUpdates (botId : String) (offset : ℤ) : PollerProgram χ (Option ℤ) := do
  match ← askPoller (.getUpdates botId offset) with
  | .cancelled => return none
  | .requestFailed => do
    askPoller (.setPollError botId "Telegram getUpdates request failed")
    return some offset
  | .invalidJson => do
    askPoller (.setPollError botId "Telegram returned invalid JSON")
    return some offset
  | .answered success payload =>
    if success && (payload.get "ok").bind Json.asBool == some true then do
      askPoller (.clearPollError botId)
      let updates := ((payload.get "result").bind Json.asArray).getD []
      return some (← takeBatch lib botId updates offset)
    else do
      askPoller (.setPollError botId "Telegram getUpdates failed")
      return some offset

/-- One round of the loop; nothing is returned when the loop is left. -/
def pollRound (botId : String) (guard : PollerOwnershipGuard) (offset : ℤ) :
    PollerProgram χ (Option ℤ) := do
  if ← askPoller (.isCancelled guard.runtimeInstanceId) then return none
  else if ← stillOwner guard then do
    recoverDueOperations app botId guard
    recoverDueUpdates lib app botId guard
    -- ownership can change while recovery waits for storage or delivery
    if ← stillOwner guard then pollUpdates lib botId offset
    else return none
  else return none

/-- The loop, for at most so many rounds; whether it was left by then. -/
def pollLoop (botId : String) (guard : PollerOwnershipGuard) :
    ℕ → ℤ → PollerProgram χ Bool
  | 0, _ => pure false
  | rounds + 1, offset => do
    match ← pollRound lib app botId guard offset with
    | none => return true
    | some offset => pollLoop botId guard rounds offset

/-- The poller once it has its offset; nothing is returned while it still runs. -/
def pollFrom (botId : String) (guard : PollerOwnershipGuard) (rounds : ℕ) (offset : ℤ) :
    PollerProgram χ (Option (AppResult Unit)) := do
  let _ ← ofHandler (app.recoverBridgeOperations botId guard)
  let _ ← (recoverStartupUpdates lib app botId guard).run
  if ← pollLoop lib app botId guard rounds offset then
    return some (← finalizePollerExit botId guard)
  else return none

def configureOrReport (botId : String) : PollerProgram χ Unit := do
  match ← askPoller (.configure botId) with
  | .ok () => return ()
  | .error e => askPoller (.setPollError botId e.message)

def pollTelegramBotAt (botId : String) (guard : PollerOwnershipGuard) (rounds : ℕ) :
    PollerProgram χ (Option (AppResult Unit)) := do
  match ← askPoller .buildClient with
  | .error message => do
    match ← finalizePollerExit botId guard with
    | .error e => return some (.error e)
    | .ok () => return some (.error (.badGateway "TELEGRAM_REQUEST_FAILED" message))
  | .ok () => do
    configureOrReport botId
    match ← askPoller (.inbox (.selectOffset botId)) with
    | .error _ => return some (.error .database)
    | .ok offset => pollFrom lib app botId guard rounds (offset.getD 0)

def pollTelegramBot (botId : String) (guard : PollerOwnershipGuard) (rounds : ℕ) :
    PollerProgram χ (Option (AppResult Unit)) := do
  match ← askPoller .telegramApiBase with
  | .error e => return some (.error e)
  | .ok () => pollTelegramBotAt lib app botId guard rounds

/-- The task that `start_bot` spawns: it waits for the signal to start. -/
def pollerTask (botId : String) (guard : PollerOwnershipGuard) (rounds : ℕ) :
    PollerProgram χ (Option (AppResult Unit)) := do
  if ← askPoller (.awaitStart guard.runtimeInstanceId) then
    pollTelegramBot lib app botId guard rounds
  else return some (← finalizePollerExit botId guard)

end Poller

end ImBridge
