import ImBridge.Bridge.Engine
import ImBridge.Bridge.Redaction
import ImBridge.Telegram.Turns

/-!
# Delivering messages

The messages of a chat: sending, editing and deleting them, with a row for each attempt to deliver
one and for each message that shows a chunk of a turn. A command that changes a turn first freezes
its target, and moves the target from state to state while it is carried out.

The requests of the chat layer to the engine are calls here. Waiting between messages and after rate
limits is left out, and so is the queue of deliveries that could be tried again, which nobody takes
from.

## Main definitions

* `ChatCall`, `chatCalls`, `BridgeRequest`: the calls of the chat layer on its surroundings
* `TelegramDelivery.sendMessage`, `TelegramDelivery.editMessage`,
  `TelegramDelivery.deleteMessageInChat`: requests to Telegram
* `TelegramDelivery.sendTurnChunkScoped` to `TelegramDelivery.retireTurnScoped`: the ledger of turns
* `TelegramDelivery.loadFrozenTarget`, `TelegramDelivery.freezeTarget`,
  `TelegramDelivery.casTargetStatus`: targets of commands
* `TelegramDelivery.executeRedoCleanupScoped`, `TelegramDelivery.executeRevokeEffectScoped`: the
  messages of a turn that are not needed any more
-/

namespace ImBridge

open Interleaving

/-! ## Calls -/

/-- A request to Telegram: the method and the body. -/
structure TelegramRequest where
  method : String
  body : Json

/-- The answer to a request, or why there is none. -/
inductive TelegramAnswer
  | requestFailed
  | invalidJson (message : String)
  | answered (status : ℕ) (payload : Json)

/-- What the chat layer asks of the engine. -/
inductive BridgeRequest
  | claim (actor : Actor) (operationId operationKind : String) (locator : StChatLocator)
      (origin : BridgeOperationOrigin)
  | getLastTurn (locator : StChatLocator)
  | execute (actor : Actor) (command : StBridgeCommand) (context : Option BridgeExecutionContext)
      (origin : BridgeOperationOrigin)
  | markDelivered (operationId : String)

@[reducible] def BridgeRequest.Reply : BridgeRequest → Type
  | claim .. => ClaimedOperation
  | getLastTurn _ => Option String
  | execute .. => StBridgeOutcome
  | markDelivered _ => BridgeOperationRecord

inductive ChatCall
  | bridge (engine : SidecarBridgeEngine) (r : BridgeRequest)
  | turns (s : TurnStatement)
  | telegram (request : TelegramRequest)
  | loadContext (accountId contextKey : String)
  | numericBotId (botId : String)
  | now
  | newId
  /-- The time so many seconds from now. -/
  | retryAt (seconds : ℕ)
  /-- A panic, or a computation that does not come to an end; there is no reply to it. -/
  | hang

@[reducible] def ChatCall.Reply : ChatCall → Type
  | bridge _ r => StResult r.Reply
  | turns s => s.Reply
  | telegram _ => TelegramAnswer
  | loadContext .. => AppResult StChannelLocator
  | numericBotId _ => Option ℤ
  | now => String
  | newId => String
  | retryAt _ => AppResult String
  | hang => Unit

abbrev chatCalls : Signature := ⟨ChatCall, ChatCall.Reply⟩

/-- Tasks of the chat layer. -/
abbrev ChatProgram (α : Type) := Program chatCalls α

/-- Tasks of the chat layer that may fail. -/
abbrev ChatTask (α : Type) := Fallible chatCalls ChatError α

/-- Makes the call and returns its reply. -/
def askChat (c : ChatCall) : ChatProgram c.Reply := Program.perform (σ := chatCalls) c

/-- Runs a statement; any failure of it is the storage's error. -/
def turnSql (s : TurnStatement) : ChatTask s.Rows := ExceptT.mk do
  return (← askChat (.turns s)).mapError fun _ => ChatError.database

/-- Asks the engine. -/
def askBridge (engine : SidecarBridgeEngine) (r : BridgeRequest) : ChatTask r.Reply := ExceptT.mk do
  return (← askChat (.bridge engine r)).mapError ChatError.fromSt

/-- The value, if it is found at all. -/
def orHang {α : Type} [Inhabited α] (value : Option α) : ChatProgram α :=
  match value with
  | some value => pure value
  | none => do
    askChat .hang
    return default

/-- Fails unless the condition holds. -/
def demandThat (cond : Prop) [Decidable cond] (error : ChatError) : ChatTask Unit :=
  if cond then pure () else throw error

/-- A result of the bridge's own storage. -/
def ofApp {α : Type} (result : AppResult α) : ChatTask α :=
  Fallible.ofExcept (result.mapError ChatError.ofApp)

/-! ## Texts of errors -/

/-- The text before the pattern and the text after it, where it occurs first. -/
def splitFirst (pattern : List Char) : List Char → Option (List Char × List Char)
  | [] => none
  | c :: rest =>
    if pattern.isPrefixOf (c :: rest) then some ([], (c :: rest).drop pattern.length)
    else (splitFirst pattern rest).map fun (before, after) => (c :: before, after)

/-- A number below `2 ^ 64` in decimal digits. -/
def parseU64 (s : List Char) : Option ℕ :=
  let digits := if s.head? = some '+' then s.tail else s
  let value := digits.foldl (fun n c => 10 * n + (c.toNat - '0'.toNat)) 0
  if digits ≠ [] ∧ digits.all (fun c => '0' ≤ c ∧ c ≤ '9') ∧
    value < 2 ^ 64 then some value else none

/-- How long to wait, by the text of the error. -/
def retryAfterSeconds (error : ChatError) : ℕ :=
  let pattern := "retry_after=".toList
  match splitFirst pattern error.app.message.toList with
  | none => 1
  | some (_, rest) =>
    let value := ((splitFirst pattern rest).map (·.1)).getD rest
    (parseU64 ((value.dropWhile isWhitespace).takeWhile fun c => !isWhitespace c)).getD 1

def isNotFoundError (error : ChatError) : Bool :=
  let message := toAsciiLowercase error.app.message
  containsText "not found" message || containsText "message to delete not found" message ||
    containsText "message can't be deleted" message

def isKnownUneditable (error : ChatError) : Bool :=
  let message := toAsciiLowercase error.app.message
  containsText "not found" message || containsText "cannot edit" message ||
    containsText "can't be edited" message || containsText "message to edit" message

/-! ## Requests -/

/-- What an error of Telegram is reported as, with its description redacted. -/
def safeTelegramDescription (value : Option String) (fallback : String) : ChatProgram String :=
  match value with
  | none => pure fallback
  | some value => do return (← orHang (redactDetail value)).getD fallback

/-- The result in the answer of Telegram. -/
def telegramResult : TelegramAnswer → ChatTask Json
  | .requestFailed => throw (.badGateway "TELEGRAM_REQUEST_FAILED" "Telegram request failed")
  | .invalidJson message => throw (.badGateway "TELEGRAM_RESPONSE_INVALID" message)
  | .answered status payload => do
    let description := (payload.get "description").bind Json.asStr
    if status = 429 ∨ (payload.get "error_code").bind Json.asI64 = some 429 then
      let retryAfter := ((payload.pointer ["parameters", "retry_after"]).bind Json.asU64).getD 1
      let description ← safeTelegramDescription description "Telegram API rate limited"
      throw (.badGateway "TELEGRAM_RATE_LIMITED"
        (description ++ "; retry_after=" ++ toString retryAfter))
    else if ¬(200 ≤ status ∧ status < 300) ∨ (payload.get "ok").bind Json.asBool ≠ some true then
      throw (.badGateway "TELEGRAM_API_ERROR"
        (← safeTelegramDescription description "Telegram API request failed"))
    else return (payload.get "result").getD .null

/-- The moves of a target. -/
def TargetStatus.allowed : TargetStatus → TargetStatus → Bool
  | frozen, applying | applying, applied | applying, failed | applying, unknown => true
  | _, _ => false

/-- The messages of one chat of a bot. -/
structure TelegramDelivery where
  botId : String
  numericBotId : ℤ
  chatId : ℤ

namespace TelegramDelivery

def call (method : String) (body : Json) : ChatTask Json := do
  telegramResult (← askChat (.telegram ⟨method, body⟩))

section Requests

variable (self : TelegramDelivery)

def sendMessage (message : String) (markup : Option Json) : ChatTask ℤ := do
  let result ← call "sendMessage" (.object ([("chat_id", .int self.chatId),
    ("text", .string message)] ++ markup.toList.map fun markup => ("reply_markup", markup)))
  match (result.pointer ["message_id"]).bind Json.asI64 with
  | some messageId => return messageId
  | none => throw (.badGateway "TELEGRAM_RESPONSE_INVALID" "sendMessage returned no message_id")

/-- Editing a message; it is no error that the text is already there. -/
def editMessage (messageId : ℤ) (message : String) : ChatTask Unit := do
  match ← (call "editMessageText" (.object [("chat_id", .int self.chatId),
    ("message_id", .int messageId), ("text", .string message)])).attempt with
  | .ok _ => return ()
  | .error error =>
    demandThat (containsText "message is not modified" error.app.message = true) error

end Requests

def deleteMessageInChat (chatId messageId : ℤ) : ChatTask Unit := do
  let _ ← call "deleteMessage" (.object [("chat_id", .int chatId), ("message_id", .int messageId)])

/-! ## Attempts to deliver a message -/

/-- The error of a row that is not in the state it has to be in. -/
def stale (message : String) : ChatError := .conflict "TELEGRAM_DELIVERY_STATE_STALE" message

/-- A change of exactly one attempt. -/
def changeDelivery (u : DeliveryChange) (id message : String) : ChatTask Unit := do
  let changed ← turnSql (.changeDelivery u id (← askChat .now))
  demandThat (changed = 1) (stale message)

def markSending (id : String) : ChatTask Unit :=
  changeDelivery .sending id "Telegram 投递状态已被其他尝试接管"

def markSentResult (id : String) (messageId : ℤ) : ChatTask Unit :=
  changeDelivery (.sent messageId) id
    "Telegram delivery confirmation no longer matches the active attempt"

def markUnknown (id : String) : ChatTask Unit :=
  changeDelivery .unknown id "Telegram unknown delivery state did not update exactly one attempt"

def markFailed (id : String) : ChatTask Unit :=
  changeDelivery .failed id "Telegram failed delivery state did not update exactly one attempt"

/-- The time of the next attempt. -/
def retryAtRfc3339 (seconds : ℕ) : ChatTask String := do
  demandThat (seconds < 2 ^ 63) (.badGateway "TELEGRAM_RETRY_AFTER_INVALID"
    "Telegram retry_after exceeds the supported range")
  ofApp (← askChat (.retryAt seconds))

def markRetryPending (id : String) (error : ChatError) : ChatTask Unit := do
  let nextAttemptAt ← retryAtRfc3339 (retryAfterSeconds error)
  changeDelivery (.retryPending nextAttemptAt) id
    "Telegram retry state did not update exactly one active attempt"

/-- What becomes of an attempt whose message was not accepted. -/
def markUnsent (id : String) (error : ChatError) : ChatTask Unit :=
  if error.app.code = "TELEGRAM_RATE_LIMITED" then markRetryPending id error
  else if error.app.code = "TELEGRAM_REQUEST_FAILED" ∨
      error.app.code = "TELEGRAM_RESPONSE_INVALID" then markUnknown id
  else markFailed id

/-- The error of a message that was sent, but could not be written down. The text of the storage's
own error is left out. -/
def markUnknownAfterPersistenceFailure (id : String) (error : ChatError) :
    ChatProgram ChatError := do
  let text := "persistence_error=" ++ error.app.code
  match ← askChat (.turns (.changeDelivery .unconfirmed id (← askChat .now))) with
  | .ok changed =>
    return .conflict "TELEGRAM_COMMIT_STATE_UNKNOWN" (text ++
      if changed = 1 then "; delivery_state=unknown"
      else "; unknown_state_persistence_not_confirmed")
  | .error _ => return .internal (text ++ "; unknown_state_error")

/-- The step that writes down what was sent; if it fails, the attempt is unknown. -/
def orUnknown {α : Type} (id : String) (step : ChatTask α) : ChatTask α := do
  match ← step.attempt with
  | .ok a => return a
  | .error error => throw (← markUnknownAfterPersistenceFailure id error)

section Attempts

variable (self : TelegramDelivery)

def createDelivery (kind : MessageKind) (turnId : Option String) : ChatTask String := do
  let id ← askChat .newId
  turnSql (.insertDelivery id self.botId self.chatId kind turnId (← askChat .now))
  return id

/-- The message is sent in an attempt of its own. -/
def sendAttempt (kind : MessageKind) (turnId : Option String) (message : String)
    (markup : Option Json) : ChatTask (String × ℤ) := do
  let deliveryId ← self.createDelivery kind turnId
  markSending deliveryId
  match ← (self.sendMessage message markup).attempt with
  | .ok messageId => return (deliveryId, messageId)
  | .error error =>
    markUnsent deliveryId error
    throw error

end Attempts

/-! ## The ledger of turns -/

/-- The error of a row of a turn that is not what it has to be. -/
def ledgerStale (message : String) : ChatError := .conflict "TELEGRAM_TURN_LEDGER_STALE" message

section Ledger

variable (lib : Primitives) (self : TelegramDelivery)

def contentHash (message : String) : String := lib.sha256Hex (utf8 message)

def recordScopedTurnMessageWithRevision (metadata : TurnMetadata) (chunkIndex : ℕ) (messageId : ℤ)
    (message : String) (renderVersion : ℕ) : ChatTask Unit := do
  turnSql (.insertMessage metadata chunkIndex messageId (contentHash lib message) renderVersion
    (← askChat .now))

def sendSingleScopedResultWithRevision (metadata : TurnMetadata) (chunkIndex : ℕ)
    (message : String) (markup : Option Json) (renderVersion : ℕ) : ChatTask ℤ := do
  let (deliveryId, messageId) ← self.sendAttempt .reply (some metadata.operationId) message markup
  orUnknown deliveryId
    (recordScopedTurnMessageWithRevision lib metadata chunkIndex messageId message renderVersion)
  orUnknown deliveryId (markSentResult deliveryId messageId)
  return messageId

def sendTurnChunkScoped (metadata : TurnMetadata) (targetRevision chunkIndex : ℕ)
    (message : String) : ChatTask ℤ :=
  self.sendSingleScopedResultWithRevision lib metadata chunkIndex message none (targetRevision + 1)

/-- The ledger and the attempt are changed together, for a message in place of another one. -/
def recordReplacement (metadata : TurnMetadata) (targetRevision chunkIndex : ℕ)
    (oldMessageId newMessageId : ℤ) (message deliveryId : String) : ChatTask Unit := do
  match ← turnSql (.replaceChunk metadata.scope metadata.turnId chunkIndex oldMessageId
    targetRevision newMessageId (contentHash lib message) (targetRevision + 1) deliveryId
    (← askChat .now)) with
  | .replaced => return ()
  | .ledgerStale =>
    throw (ledgerStale "Telegram turn replacement revision or target no longer matches")
  | .deliveryStale => throw (stale "Telegram replacement delivery confirmation no longer matches")

def replaceTurnChunkScoped (metadata : TurnMetadata) (targetRevision chunkIndex : ℕ)
    (oldMessageId : ℤ) (message : String) : ChatTask ℤ := do
  let (deliveryId, newMessageId) ←
    self.sendAttempt .reply (some metadata.operationId) message none
  orUnknown deliveryId (recordReplacement lib metadata targetRevision chunkIndex oldMessageId
    newMessageId message deliveryId)
  orUnknown deliveryId (deleteMessageInChat metadata.scope.chatId oldMessageId)
  return newMessageId

def updateTurnChunkScoped (scope : TurnScope) (targetRevision : ℕ) (turnId : String)
    (chunkIndex : ℕ) (messageId : ℤ) (message : String) : ChatTask Unit := do
  let changed ← turnSql (.renderChunk scope turnId chunkIndex messageId targetRevision
    (contentHash lib message) (targetRevision + 1) (← askChat .now))
  demandThat (changed = 1)
    (ledgerStale "Telegram turn ledger no longer matches the active scoped message")

def assertTurnRevision (scope : TurnScope) (turnId : String) (expectedRevision : ℕ) :
    ChatTask Unit := do
  match ← turnSql (.selectRevision scope turnId) with
  | none => throw (ledgerStale "Telegram turn revision is missing")
  | some stored =>
    demandThat (stored = expectedRevision) (.conflict "TELEGRAM_TURN_REVISION_CONFLICT"
      "Telegram turn revision changed concurrently")

def retireTurnScoped (scope : TurnScope) (turnId operationId : String) : ChatTask Unit := do
  demandThat (isBlank turnId = false ∧ isBlank operationId = false ∧ scope.chatId = self.chatId)
    (.badRequest "TELEGRAM_TURN_SCOPE_INVALID" "Telegram turn retirement identity is invalid")
  let changed ← turnSql (.retireTurn scope turnId operationId (← askChat .now))
  demandThat (changed ≠ 0)
    (ledgerStale "Telegram turn retirement matched no active scoped message")

def markStatus (scope : TurnScope) (messageId : ℤ) (status : TurnMessageStatus) :
    ChatTask Unit := do
  let changed ← turnSql (.markMessage scope messageId status (← askChat .now))
  demandThat (changed = 1)
    (ledgerStale "Telegram turn status update did not match exactly one scoped message")

/-- The last turn of a scope with its messages and its revision. -/
def findLastTurn (scope : TurnScope) : ChatTask (Option String × List ℤ × ℕ) := do
  match ← turnSql (.selectLastTurn scope) with
  | none => return (none, [], 0)
  | some turnId =>
    let ids ← turnSql (.selectTurnMessages scope turnId)
    match ← turnSql (.selectRevision scope turnId) with
    | none => throw (.internal "Telegram turn render revision is missing")
    | some revision => return (some turnId, ids, revision)

end Ledger

/-! ## Targets of commands -/

section Targets

variable (operationId : String) (scope : TurnScope)

def loadFrozenTarget : ChatTask (Option FrozenTurnTarget) := do
  match ← turnSql (.selectTarget operationId scope) with
  | none => return none
  | some row =>
    demandThat (row.oldMessageIds.all (0 < ·) = true ∧ isSha256Hex row.tailFingerprint = true)
      (.conflict "TELEGRAM_TURN_TARGET_INVALID"
        "frozen Telegram target contains invalid identity data")
    return some
      { operationId := row.operationId
        scope
        targetTurnId := row.targetTurnId
        tailFingerprint := row.tailFingerprint
        targetRevision := row.targetRevision
        oldMessageIds := row.oldMessageIds
        status := row.status }

def identityReused : ChatError :=
  .conflict "TELEGRAM_TURN_TARGET_IDENTITY_REUSED" "frozen Telegram target identity was reused"

/-- The target of the command is written down, or found as it was written down before. -/
def freezeTarget (targetTurnId tailFingerprint : String) (targetRevision : ℕ)
    (oldMessageIds : List ℤ) : ChatTask FrozenTurnTarget := do
  demandThat (isBlank operationId = false ∧ isBlank targetTurnId = false ∧
      isSha256Hex tailFingerprint = true ∧ oldMessageIds.all (0 < ·) = true)
    (.badRequest "TELEGRAM_TURN_TARGET_INVALID" "frozen Telegram target identity is invalid")
  let inserted ← turnSql (.insertTarget
    { operationId, scope, targetTurnId, tailFingerprint, targetRevision, oldMessageIds
      status := .frozen })
  match ← loadFrozenTarget operationId scope with
  | none =>
    throw (if inserted = 0 then identityReused
      else .internal "frozen Telegram target disappeared after insert")
  | some existing =>
    demandThat (inserted ≠ 0 ∨ existing.targetTurnId = targetTurnId ∧
        existing.tailFingerprint = tailFingerprint ∧ existing.targetRevision = targetRevision ∧
        existing.oldMessageIds = oldMessageIds)
      identityReused
    return existing

def casTargetStatus (expected next : TargetStatus) : ChatTask Unit := do
  demandThat (expected.allowed next = true) (.badRequest "TELEGRAM_TURN_TARGET_STATUS_INVALID"
    "invalid frozen Telegram target status transition")
  let changed ← turnSql (.casTarget operationId scope expected next)
  demandThat (changed = 1) (.conflict "TELEGRAM_TURN_TARGET_CAS_CONFLICT"
    "frozen Telegram target status changed concurrently")

end Targets

/-! ## Messages that are not needed any more -/

structure RevokeEffectResult where
  editedTombstoneMessageId : Option ℤ := none
  deletedExtraMessageIds : List ℤ := []
  failedMessageIds : List ℤ := []

section Cleanup

variable (self : TelegramDelivery) (scope : TurnScope)

def executeRedoCleanupScoped (previousIds newIds : List ℤ) : ChatTask Unit := do
  let keep := max newIds.length 1
  if previousIds.length ≤ keep ∨ scope.chatId ≠ self.chatId then return ()
  else
    (previousIds.drop keep).reverse.forM fun messageId => do
      deleteMessageInChat scope.chatId messageId
      markStatus scope messageId .deleted

/-- The first message becomes a tombstone. -/
def editTombstone (firstId : ℤ) (tombstone : String) : ChatTask RevokeEffectResult := do
  match ← (self.editMessage firstId tombstone).attempt with
  | .ok () =>
    markStatus scope firstId .revoked
    return { editedTombstoneMessageId := some firstId }
  | .error _ => return { failedMessageIds := [firstId] }

/-- Another message is deleted; it is no error that it is not there. -/
def deleteExtra (effect : RevokeEffectResult) (extraId : ℤ) : ChatTask RevokeEffectResult := do
  match ← (deleteMessageInChat scope.chatId extraId).attempt with
  | .ok () =>
    markStatus scope extraId .deleted
    return { effect with deletedExtraMessageIds := effect.deletedExtraMessageIds ++ [extraId] }
  | .error error =>
    if isNotFoundError error then
      markStatus scope extraId .deleted
      return { effect with deletedExtraMessageIds := effect.deletedExtraMessageIds ++ [extraId] }
    else return { effect with failedMessageIds := effect.failedMessageIds ++ [extraId] }

def executeRevokeEffectScoped (targetMessageIds : List ℤ) (tombstone : String) :
    ChatTask RevokeEffectResult := do
  match targetMessageIds with
  | [] => return {}
  | firstId :: extraIds =>
    if scope.chatId ≠ self.chatId then return {}
    else
      let effect ← self.editTombstone scope firstId tombstone
      extraIds.foldlM (deleteExtra scope) effect

end Cleanup

end TelegramDelivery

end ImBridge
