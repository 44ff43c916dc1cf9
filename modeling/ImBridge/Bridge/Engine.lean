import ImBridge.Bridge.OperationCoordinator

/-!
# What the bridge engine is asked

The engine carries out the commands of a user. Here are the engine, as far as its callers read it,
the commands that write, and their outcomes; what the engine does for a command is left to the
replies.

## Main definitions

* `SidecarBridgeEngine`, `Actor`, `BridgeOperationOrigin`, `StBridgeCommand`: the engine and what it
  is asked
* `StBridgeOutcome`: what it answers
-/

namespace ImBridge

structure Actor where
  accountId : String
  workspaceId : Option String

structure BridgeOperationOrigin where
  internalBotId : String
  telegramUpdateId : ℤ
  channelContextKey : String

/-- The context of an execution, and whether its progress is reported. -/
structure BridgeExecutionContext where
  operationId : String
  progress : Bool

structure StBridgeOutcome where
  operationId : Option String
  replyText : Option String
  writeCommitted : Bool
  confirmedCommit : Bool
  removedSafeContent : Option String := none
  stTailFingerprint : Option String := none
  deriving DecidableEq, Repr

def committedOutcome (operationId replyText : String) : StBridgeOutcome where
  operationId := some operationId
  replyText := some replyText
  writeCommitted := true
  confirmedCommit := true

/-- The commands that write. -/
inductive StBridgeCommand
  | startChat (locator : StChatLocator) (clientOperationId : String)
  | sendMessage (locator : StChatLocator) (text clientOperationId : String)
      (modelOverride : Option String)
  | undoLastTurn (locator : StChatLocator) (clientOperationId : String)
  | revokeLastTurn (locator : StChatLocator) (clientOperationId : String)
  | regenerateReply (locator : StChatLocator) (clientOperationId : String)
      (modelOverride : Option String)
  | compressChat (locator : StChatLocator) (clientOperationId : String)

/-- The engine, as far as its callers read it. -/
structure SidecarBridgeEngine where
  contextKey : String
  operationCoordinator : Option OperationCoordinator
  ownershipGuard : Option PollerOwnershipGuard
  generationBudgetValid : Bool

end ImBridge
