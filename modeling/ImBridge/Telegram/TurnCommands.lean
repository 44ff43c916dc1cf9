import ImBridge.Telegram.Chunks
import ImBridge.Telegram.Delivery

/-!
# Undo, revoke and redo

The three commands that change the last turn of a chat. Each claims its operation, freezes the turn
it is about, and moves this target from `frozen` to `applying`; only then the chat of SillyTavern is
changed, and after that the messages of Telegram are brought in line with it. A redelivered command
finds the target of its operation and goes on only if that is still `frozen`.

The commands differ in the checks they begin with and in what they do to the messages; what is
between these is one definition, `changeTurn`.

## Main definitions

* `TurnRequest`, `TurnPlan`: a command as it was received, and after its first checks
* `claimedTarget`: the frozen target of a command
* `changeTurn`: from the claim of the operation to the cleanup
* `undoTurn`, `revokeTurn`, `redoTurn`: the commands
-/

namespace ImBridge

open Interleaving TelegramDelivery

inductive GenerationKind
  | send
  | redo
  | compress
  deriving DecidableEq

structure GenerationIntent where
  kind : GenerationKind
  conversationId : String
  contextKey : String
  userText : Option String

structure TelegramReply where
  text : String
  markup : Option Json := none
  generation : Option GenerationIntent := none

/-- A command as it was received. The engine is that of the services. -/
structure TurnRequest where
  botId : String
  chatId : ℤ
  bridge : Option SidecarBridgeEngine
  actor : Actor
  contextKey : String
  clientTurnId : Option String
  delivery : Option TelegramDelivery
  origin : BridgeOperationOrigin

/-- A command after its first checks. -/
structure TurnPlan where
  operationId : String
  locator : StChatLocator
  scope : TurnScope
  delivery : TelegramDelivery
  bridge : SidecarBridgeEngine

/-! ## The first checks -/

def TurnRequest.requireBridge (request : TurnRequest) : ChatTask SidecarBridgeEngine :=
  match request.bridge with
  | some engine => pure { engine with contextKey := request.contextKey }
  | none => throw (.fromSt
    { code := .stWriteNotReady
      stage := .control
      safeMessage := stWriteNotReadyMessage
      retryable := false
      commitState := .notStarted })

/-- The value, or else this error. -/
def orThrow {α : Type} (value : Option α) (error : ChatError) : ChatTask α :=
  match value with
  | some value => pure value
  | none => throw error

def stLocatorFromContext (context : StChannelLocator) : ChatTask StChatLocator := do
  let avatar ← orThrow context.avatar
    (.badRequest "CHARACTER_NOT_SELECTED" "当前还没有选择角色。请先使用 /chars。")
  let chatFile ← orThrow context.chatFile
    (.badRequest "SESSION_NOT_SELECTED" "当前没有绑定角色和会话。请先使用 /chars。")
  return { handle := context.handle.getD "default-user"
           avatar
           characterName := context.characterName.getD ""
           chatFile }

def requireSelectedChat (actor : Actor) (contextKey : String) : ChatTask StChatLocator := do
  stLocatorFromContext (← ofApp (← askChat (.loadContext actor.accountId contextKey)))

/-- The operation of the command `name`. -/
def canonicalOperationId (name : String) (clientTurnId : Option String) : ChatTask String :=
  orThrow (clientTurnId.filter fun value => !isBlank value)
    (.badRequest "TELEGRAM_OPERATION_ID_REQUIRED" (name ++ " requires a canonical operation id"))

/-- The scope of a command by the bot it was sent to. -/
def botScope (lib : Primitives) (name : String) (request : TurnRequest) (locator : StChatLocator) :
    ChatTask TurnScope := do
  let numericBotId ← orThrow (← askChat (.numericBotId request.botId))
    (.serviceUnavailable "TELEGRAM_BOT_SCOPE_UNAVAILABLE"
      ("Telegram " ++ name ++ " has no numeric bot scope"))
  ofApp (TurnScope.new request.actor.accountId request.botId numericBotId request.chatId
    (locatorHash lib locator.handle locator.avatar locator.chatFile))

/-- The scope of a command by the delivery that it answers with. -/
def turnScopeForDelivery (lib : Primitives) (actor : Actor) (contextKey : String)
    (delivery : TelegramDelivery) : ChatTask TurnScope := do
  let context ← ofApp (← askChat (.loadContext actor.accountId contextKey))
  let handle ← orThrow context.handle
    (.conflict "TELEGRAM_TURN_SCOPE_INVALID" "Telegram turn handle is missing")
  let avatar ← orThrow context.avatar
    (.conflict "TELEGRAM_TURN_SCOPE_INVALID" "Telegram turn avatar is missing")
  let chatFile ← orThrow context.chatFile
    (.conflict "TELEGRAM_TURN_SCOPE_INVALID" "Telegram turn chat locator is missing")
  demandThat (0 < delivery.numericBotId) (.serviceUnavailable "TELEGRAM_BOT_SCOPE_UNAVAILABLE"
    "Telegram numeric bot scope is unavailable")
  ofApp (TurnScope.new actor.accountId delivery.botId delivery.numericBotId delivery.chatId
    (locatorHash lib handle avatar chatFile))

/-- The delivery of the command `name`. -/
def requireDelivery (name : String) (request : TurnRequest) : ChatTask TelegramDelivery :=
  orThrow request.delivery (.serviceUnavailable "TELEGRAM_TURN_SCOPE_REQUIRED"
    (name ++ " requires a Telegram delivery scope"))

/-! ## Targets -/

/-- Whether the operation was delivered before. -/
def alreadyDelivered (bridge : SidecarBridgeEngine) (request : TurnRequest)
    (operationId operationKind : String) (locator : StChatLocator) : ChatTask Bool := do
  let claimed ← askBridge bridge
    (.claim request.actor operationId operationKind locator request.origin)
  return claimed.record.status = .delivered ∧ claimed.record.commitState = .applied

section Targets

variable (name : String) (plan : TurnPlan)

/-- The target of a new command: the last turn, in the chat as it is now. -/
def newTarget : ChatTask FrozenTurnTarget := do
  let fingerprint ← askBridge plan.bridge (.getLastTurn plan.locator)
  let tailFingerprint ← orThrow (fingerprint.filter isSha256Hex)
    (.conflict "TELEGRAM_TURN_FINGERPRINT_INVALID"
      (name ++ " requires a valid frozen ST tail fingerprint"))
  let (turnId, oldMessageIds, targetRevision) ← findLastTurn plan.scope
  let targetTurnId ← orThrow turnId
    (.conflict "TELEGRAM_TURN_TARGET_MISSING" (name ++ " has no active Telegram turn target"))
  freezeTarget plan.operationId plan.scope targetTurnId tailFingerprint targetRevision
    oldMessageIds

/-- The target of the command, which has not been applied yet. -/
def frozenTarget : ChatTask (Option FrozenTurnTarget) := do
  match ← loadFrozenTarget plan.operationId plan.scope with
  | none => return some (← newTarget name plan)
  | some target =>
    match target.status with
    | .applied => return none
    | .applying | .unknown => throw (.conflict "TELEGRAM_TURN_TARGET_IN_PROGRESS"
      (name ++ " target is already being reconciled"))
    | .failed => throw (.conflict "TELEGRAM_TURN_TARGET_FAILED"
      (name ++ " target has a recorded terminal failure"))
    | .frozen => return some target

/-- The target of the command, unless that has been carried out before. -/
def claimedTarget (operationKind : String) (request : TurnRequest) :
    ChatTask (Option FrozenTurnTarget) := do
  if ← alreadyDelivered plan.bridge request plan.operationId operationKind plan.locator then
    return none
  else frozenTarget name plan

/-- The target is moved on from `applying`. -/
def settleTarget (next : TargetStatus) : ChatTask Unit :=
  casTargetStatus plan.operationId plan.scope .applying next

/-- A step after which the target is settled if it fails. -/
def orSettle {α : Type} (next : TargetStatus) (step : ChatTask α) : ChatTask α := do
  match ← step.attempt with
  | .ok a => return a
  | .error error =>
    settleTarget plan next
    throw error

/-- The same for `unknown`, where it is reported that this failed as well. -/
def orUnknownTarget (failed alsoFailed : String) (step : ChatTask Unit) : ChatTask Unit := do
  match ← step.attempt with
  | .ok () => return ()
  | .error error =>
    match ← (settleTarget plan .unknown).attempt with
    | .ok () => throw error
    | .error stateError =>
      throw (.internal (failed ++ error.app.code ++ alsoFailed ++ stateError.app.code))

/-- The target is applied; `name` is who says so if that fails. -/
def applyTarget (name : String) : ChatTask Unit :=
  orUnknownTarget plan (name ++ " target applied CAS failed with ")
    " and unknown CAS failed with " (settleTarget plan .applied)

/-! ## The command -/

/-- The command is carried out in SillyTavern. -/
def executeEnveloped (request : TurnRequest) (command : StBridgeCommand) :
    ChatTask StBridgeOutcome := do
  match ← askChat (.bridge plan.bridge (.execute request.actor command none request.origin)) with
  | .error error =>
    settleTarget plan (if error.commitState = .notApplied then .failed else .unknown)
    throw (.fromSt error)
  | .ok outcome =>
    if outcome.confirmedCommit then return outcome
    else
      settleTarget plan .unknown
      throw (.conflict "ST_COMMIT_STATE_UNKNOWN"
        ("SillyTavern " ++ name ++ " commit was not confirmed"))

/-- The check that a turn is still the one that was frozen. -/
def assertTarget (turnId : String) (revision : ℕ) : ChatTask Unit :=
  orSettle plan .failed (assertTurnRevision plan.scope turnId revision)

/-- The same check for the target as it was frozen. -/
def assertFrozen (target : FrozenTurnTarget) : ChatTask Unit :=
  assertTarget plan target.targetTurnId target.targetRevision

end Targets

/-- What the three commands do, from the claim of the operation on. -/
def changeTurn (name operationKind : String) (request : TurnRequest) (plan : TurnPlan)
    (check : FrozenTurnTarget → ChatTask Unit) (command : StBridgeCommand)
    (cleanup : FrozenTurnTarget → StBridgeOutcome → ChatTask (List TelegramReply)) :
    ChatTask (List TelegramReply) := do
  match ← claimedTarget name plan operationKind request with
  | none => return []
  | some target =>
    casTargetStatus plan.operationId plan.scope .frozen .applying
    check target
    let outcome ← executeEnveloped name plan request command
    cleanup target outcome

/-! ## Undo -/

def undoCleanup (plan : TurnPlan) (target : FrozenTurnTarget) (outcome : StBridgeOutcome) :
    ChatTask (List TelegramReply) := do
  orUnknownTarget plan "turn retirement failed with " " and target unknown CAS failed with "
    (plan.delivery.retireTurnScoped plan.scope target.targetTurnId plan.operationId)
  applyTarget plan "turn"
  let removed := outcome.removedSafeContent.getD "最后一轮"
  return [{ text := "已在 SillyTavern 撤回最后一轮（Telegram 消息保持保留）：" ++ removed }]

def undoPlan (lib : Primitives) (request : TurnRequest) : ChatTask TurnPlan := do
  let locator ← requireSelectedChat request.actor request.contextKey
  let operationId ← canonicalOperationId "undo" request.clientTurnId
  let scope ← botScope lib "undo" request locator
  let delivery ← requireDelivery "undo" request
  let bridge ← request.requireBridge
  return { operationId, locator, scope, delivery, bridge }

def undoTurn (lib : Primitives) (request : TurnRequest) : ChatTask (List TelegramReply) := do
  let plan ← undoPlan lib request
  changeTurn "undo" kindUndo request plan (assertFrozen plan)
    (.undoLastTurn plan.locator plan.operationId) (undoCleanup plan)

/-! ## Revoke -/

def revokeReply (targetMessageIds : List ℤ) (effect : RevokeEffectResult) (removed : String) :
    String :=
  if targetMessageIds = [] then
    "已撤回最后一轮（SillyTavern 已回退，但无可确认 Telegram 目标）：" ++ removed
  else if effect.failedMessageIds = [] then
    "已撤回最后一轮（SillyTavern 已回退，消息已清理）：" ++ removed
  else "已在 SillyTavern 撤回最后一轮，但 Telegram 消息清理部分失败（将只重试清理）：" ++ removed

/-- The messages of the turn are taken back, if there are any. -/
def revokeEffect (plan : TurnPlan) (targetMessageIds : List ℤ) : ChatTask RevokeEffectResult :=
  if targetMessageIds = [] then pure {}
  else
    orSettle plan .unknown
      (plan.delivery.executeRevokeEffectScoped plan.scope targetMessageIds "[已撤回]")

def revokeCleanup (plan : TurnPlan) (target : FrozenTurnTarget) (outcome : StBridgeOutcome) :
    ChatTask (List TelegramReply) := do
  let targetMessageIds := target.oldMessageIds
  let effect ← revokeEffect plan targetMessageIds
  if effect.failedMessageIds = [] then
    applyTarget plan "turn"
    let removed := outcome.removedSafeContent.getD "最后一轮"
    return [{ text := revokeReply targetMessageIds effect removed }]
  else
    settleTarget plan .unknown
    throw (.conflict "TELEGRAM_REVOKE_CLEANUP_UNKNOWN"
      "Telegram revoke cleanup did not reach a confirmed terminal state")

def revokePlan (lib : Primitives) (request : TurnRequest) : ChatTask TurnPlan := do
  let locator ← requireSelectedChat request.actor request.contextKey
  let operationId ← canonicalOperationId "revoke" request.clientTurnId
  let scope ← botScope lib "revoke" request locator
  let bridge ← request.requireBridge
  let delivery ← requireDelivery "revoke" request
  return { operationId, locator, scope, delivery, bridge }

def revokeTurn (lib : Primitives) (request : TurnRequest) : ChatTask (List TelegramReply) := do
  let plan ← revokePlan lib request
  changeTurn "revoke" kindRevoke request plan (assertFrozen plan)
    (.revokeLastTurn plan.locator plan.operationId) (revokeCleanup plan)

/-! ## Redo -/

section Redo

variable (lib : Primitives) (plan : TurnPlan) (metadata : TurnMetadata)

/-- The messages that show the new reply so far, and the revision of the turn. -/
abbrev Rewritten := List ℤ × ℕ

/-- A message that shows a chunk of the old reply shows one of the new reply, or is replaced if it
is the first one and cannot be edited. -/
def rewriteChunk (rewritten : Rewritten) (chunk : (ℤ × String) × ℕ) : ChatTask Rewritten := do
  let (activeIds, targetRevision) := rewritten
  let ((messageId, desired), index) := chunk
  assertTarget plan metadata.turnId targetRevision
  match ← (plan.delivery.editMessage messageId desired).attempt with
  | .ok () =>
    orSettle plan .unknown (updateTurnChunkScoped lib plan.scope targetRevision metadata.turnId
      index messageId desired)
    return (activeIds, targetRevision + 1)
  | .error error =>
    if index = 0 ∧ isKnownUneditable error then
      let replacement ← orSettle plan .unknown
        (plan.delivery.replaceTurnChunkScoped lib metadata targetRevision index messageId desired)
      return (activeIds.set 0 replacement, targetRevision + 1)
    else
      settleTarget plan .unknown
      throw error

/-- A chunk of the new reply is sent as a message of its own. -/
def appendChunk (rewritten : Rewritten) (chunk : String × ℕ) : ChatTask Rewritten := do
  let (activeIds, targetRevision) := rewritten
  let (desired, index) := chunk
  assertTarget plan metadata.turnId targetRevision
  let messageId ← orSettle plan .unknown
    (plan.delivery.sendTurnChunkScoped lib metadata targetRevision index desired)
  return (activeIds ++ [messageId], targetRevision + 1)

/-- The messages that show nothing of the new reply are deleted. -/
def removeSurplus (oldMessageIds : List ℤ) (desired : List String) (rewritten : Rewritten) :
    ChatTask Unit :=
  if desired.length < oldMessageIds.length then do
    assertTarget plan metadata.turnId rewritten.2
    orSettle plan .unknown
      (plan.delivery.executeRedoCleanupScoped plan.scope oldMessageIds rewritten.1)
  else pure ()

/-- The messages of the turn show the new reply. -/
def rewriteTurn (target : FrozenTurnTarget) (desired : List String) : ChatTask Unit := do
  let old := target.oldMessageIds
  let kept := (old.take (min old.length desired.length), target.targetRevision)
  let rewritten ← (old.zip desired).zipIdx.foldlM (rewriteChunk lib plan metadata) kept
  let rewritten ← (desired.zipIdx.drop old.length).foldlM (appendChunk lib plan metadata) rewritten
  removeSurplus plan metadata old desired rewritten

end Redo

/-- The chunks of the new reply. -/
def desiredChunks (outcome : StBridgeOutcome) : ChatProgram (List String) := do
  let chunks ← orHang (splitText (outcome.replyText.getD "") 3200)
  return if chunks = [] then ["生成结果为空"] else chunks

def redoCleanup (lib : Primitives) (plan : TurnPlan) (target : FrozenTurnTarget)
    (outcome : StBridgeOutcome) : ChatTask (List TelegramReply) := do
  let desired ← desiredChunks outcome
  let metadata ← ofApp (TurnMetadata.newScoped plan.scope target.targetTurnId plan.operationId)
  rewriteTurn lib plan metadata target desired
  applyTarget plan "redo"
  let _ ← orThrow plan.bridge.operationCoordinator (.serviceUnavailable "ST_WRITE_NOT_READY"
    "redo delivery confirmation coordinator is unavailable")
  let _ ← askBridge plan.bridge (.markDelivered plan.operationId)
  return []

def redoPlan (lib : Primitives) (request : TurnRequest) (delivery : TelegramDelivery) :
    ChatTask TurnPlan := do
  let locator ← requireSelectedChat request.actor request.contextKey
  let operationId ← canonicalOperationId "redo" request.clientTurnId
  let bridge ← request.requireBridge
  let scope ← turnScopeForDelivery lib request.actor request.contextKey delivery
  return { operationId, locator, scope, delivery, bridge }

/-- Without a delivery there is nothing to do but to claim the operation. -/
def redoUndelivered (request : TurnRequest) : ChatTask (List TelegramReply) := do
  let locator ← requireSelectedChat request.actor request.contextKey
  let operationId ← canonicalOperationId "redo" request.clientTurnId
  let bridge ← request.requireBridge
  if ← alreadyDelivered bridge request operationId kindRegenerate locator then return []
  else
    throw (.serviceUnavailable "TELEGRAM_TURN_SCOPE_REQUIRED"
      "redo requires a Telegram delivery scope")

/-- Unlike the other commands, this one claims its operation before it misses the delivery, and does
not look at the turn again before the command is carried out. -/
def redoTurn (lib : Primitives) (request : TurnRequest) : ChatTask (List TelegramReply) :=
  match request.delivery with
  | none => redoUndelivered request
  | some delivery => do
    let plan ← redoPlan lib request delivery
    changeTurn "redo" kindRegenerate request plan (fun _ => pure ())
      (.regenerateReply plan.locator plan.operationId none) (redoCleanup lib plan)

end ImBridge
