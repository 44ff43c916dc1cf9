import ImBridge.Telegram.Poller

/-!
# Starting and stopping bots

A bot is started by the token of its row: the bot behind the token is asked for its numeric id, the
id is claimed in the table of active bots and in the registry, and the poller is spawned, entered in
the table of runtimes and given the signal to start. Stopping a bot goes through its entry in the
table of runtimes, and waits for the poller to end.

The tables have different keys: runtimes are found by the row of the bot, active bots by their
numeric id.

## Main definitions

* `claimNumericBot`: claiming a numeric id, with everything given back when a step of it is refused
* `startBot`: starting the bot of a row
* `stopBot`: stopping the bot of a row
-/

namespace ImBridge

open Interleaving

section Bots

variable {χ : Signature}

/-- The numeric id in an answer to `getMe`. -/
def parseNumericBotId (me : Json) : AppResult ℤ :=
  match (me.get "id").bind Json.asI64 with
  | some id =>
    if 0 < id then .ok id
    else .error (.badGateway "TELEGRAM_BOT_ID_INVALID"
      "Telegram bot numeric id is missing or invalid")
  | none => .error (.badGateway "TELEGRAM_BOT_ID_INVALID"
      "Telegram bot numeric id is missing or invalid")

/-! ## Claiming a numeric id -/

/-- The claim is given back, and refused. -/
def rejectClaim {α : Type} (numericBotId : ℤ) (botId runtimeInstanceId message : String) :
    PollerTask χ α := do
  let _ ← askPoller (χ := χ) (.releaseActive numericBotId botId runtimeInstanceId)
  throw (.conflict "ST_POLLER_NOT_OWNER" message)

/-- The epoch that the registry has for the bot. -/
def ownershipEpoch (numericBotId : ℤ) (botId runtimeInstanceId : String) : PollerTask χ ℕ := do
  match ← askPoller (χ := χ) (.getOwnership numericBotId) with
  | .ok (some record) => return record.epoch
  | .ok none =>
    rejectClaim numericBotId botId runtimeInstanceId
      "poller ownership rejected: poller not registered for numeric bot id"
  | .error e =>
    rejectClaim numericBotId botId runtimeInstanceId s!"poller ownership rejected: {e.asStr}"

/-- The rest of a claim, once the id is entered in the table of active bots and its epoch is
known. -/
def claimBinding (numericBotId : ℤ) (botId runtimeInstanceId : String) (epoch : ℕ) :
    PollerTask χ PollerOwnershipGuard := do
  match ← askPoller (χ := χ) (.assertCanStart numericBotId .rustBridge epoch) with
  | .error e =>
    rejectClaim numericBotId botId runtimeInstanceId s!"poller ownership rejected: {e.asStr}"
  | .ok () =>
    match ← askPoller (χ := χ)
        (.claimRuntime numericBotId ⟨botId, runtimeInstanceId, epoch, .running⟩) with
    | .error e =>
      rejectClaim numericBotId botId runtimeInstanceId s!"poller runtime claim rejected: {e.asStr}"
    | .ok () => do
      let _ ← askPoller (χ := χ) (.activate numericBotId epoch)
      let _ ← askPoller (χ := χ) (.newLifecycle runtimeInstanceId .running)
      return ⟨numericBotId, .rustBridge, epoch, botId, runtimeInstanceId⟩

/-- Claims the numeric id for the row. -/
def claimNumericBot (numericBotId : ℤ) (botId : String) : PollerTask χ PollerOwnershipGuard :=
  if numericBotId ≤ 0 then
    throw (.badGateway "TELEGRAM_BOT_ID_INVALID" "Telegram bot numeric id is missing or invalid")
  else do
    let runtimeInstanceId ← askPoller (χ := χ) .newRuntimeInstanceId
    -- the epoch is not known yet
    if ← askPoller (χ := χ) (.insertActive numericBotId botId runtimeInstanceId 1) then
      if ← askPoller (χ := χ) .hasRegistry then do
        let epoch ← ownershipEpoch numericBotId botId runtimeInstanceId
        claimBinding numericBotId botId runtimeInstanceId epoch
      else
        rejectClaim numericBotId botId runtimeInstanceId
          "poller ownership rejected: poller ownership registry unavailable"
    else
      throw (.conflict "BOT_NUMERIC_ID_ALREADY_RUNNING" "该 Telegram Bot (numeric ID) 已在运行")

/-! ## Starting -/

/-- The token of the bot, from the vault. -/
def botToken (tokenSecretId : Option String) : PollerTask χ String :=
  match tokenSecretId with
  | none => throw (.badRequest "BOT_TOKEN_MISSING" "请先配置 bot token")
  | some secretId => do
    let raw ← ExceptT.mk (askPoller (χ := χ) (.vaultGet secretId))
    match fromUtf8 raw with
    | none => throw (.internal "bot token is not utf-8")
    | some token => return token

/-- The numeric id of the bot behind the token. -/
def identifyBot (token : String) : PollerTask χ ℤ := do
  match ← askPoller (χ := χ) .buildClient with
  | .error message => throw (.badGateway "TELEGRAM_REQUEST_FAILED" message)
  | .ok () => do
    ExceptT.mk (askPoller (χ := χ) .telegramApiBase)
    let me ← ExceptT.mk (askPoller (χ := χ) (.getMe token))
    Fallible.ofExcept (parseNumericBotId me)

/-- The poller is spawned, entered in the table of runtimes, and started. -/
def launchPoller (botId token : String) (guard : PollerOwnershipGuard) : PollerTask χ Unit := do
  let _ ← askPoller (χ := χ) (.spawnPoller botId token guard)
  let _ ← askPoller (χ := χ) (.insertRuntime botId guard)
  match ← askPoller (χ := χ) (.sendStart guard.runtimeInstanceId) with
  | .ok () => return ()
  | .error () => throw (.serviceUnavailable "TELEGRAM_POLLER_START_FAILED"
      "telegram poller failed to receive its start signal")

/-- Starts the bot of the row, whose token is this secret. -/
def startBot (botId : String) (tokenSecretId : Option String) : PollerTask χ Unit := do
  let token ← botToken tokenSecretId
  if ← askPoller (χ := χ) (.isRunning botId) then
    throw (.conflict "BOT_ALREADY_RUNNING" "Bot 已在运行")
  else do
    let numericBotId ← identifyBot token
    let guard ← claimNumericBot numericBotId botId
    match ← askPoller (χ := χ) (.setDesiredEnabled botId true) with
    | .error _ => do
      -- a failure of the cleanup is only logged
      let _ ← Fallible.attempt (ExceptT.mk (finalizePollerExit (χ := χ) botId guard))
      throw .database
    | .ok () => launchPoller botId token guard

/-! ## Stopping -/

/-- Waits for the poller, and gives back what it holds if it has panicked. -/
def joinPoller (botId : String) (guard : PollerOwnershipGuard) :
    PollerProgram χ (AppResult Unit) := do
  match ← askPoller (.joinPoller guard.runtimeInstanceId) with
  | .returned result => return result
  | .panicked message => do
    let _ ← finalizePollerExit botId guard
    return .error (.internal s!"telegram poller join failed: {message}")

/-- Stops the poller that the table of runtimes has for the row, if there is one. -/
def stopPoller (botId : String) : PollerProgram χ (AppResult Unit × Bool) := do
  match ← askPoller (.drainRuntime botId) with
  | .error e => return (.error (.conflict "ST_POLLER_NOT_OWNER" e.asStr), false)
  | .ok none => return (.ok (), true)
  | .ok (some (guard, waits)) => do
    askPoller (.drainActive guard.numericBotId guard.runtimeInstanceId)
    if waits then return (← joinPoller botId guard, true)
    else return (.ok (), true)

/-- Stops the bot of the row, and disables it if asked to; the first failure is returned. -/
def stopBot (botId : String) (disable : Bool) : PollerProgram χ (AppResult Unit) := do
  let (stopped, goesOn) ← stopPoller botId
  if goesOn && disable then do
    let disabled ← askPoller (.setDesiredEnabled botId false)
    return stopped *> disabled.mapError fun _ => AppError.database
  else return stopped

end Bots

end ImBridge
