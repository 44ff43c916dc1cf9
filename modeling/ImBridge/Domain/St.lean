import ImBridge.Domain.Text

/-!
# The chat backend's data

The values that pass between the bridge and the chat backend: where a chat is, what a write asks
for and what came of it, and what the backend says it can do.

## Main definitions

* `StChatLocator`, `StChatSnapshot`: a chat, and its content with the revision it was read at
* `StCharacterSummary`, `StChatSummary`, `StModelSummary`: what can be selected
* `StChannelLocator`: what is selected
* `PollerRuntimeFence`: the runtime instance a write is made on behalf of
* `StMutation`, `CommitStChat`, `CreateStChat`, `StCommitResult`: writes and their outcome
* `HandshakeResponse`, `StStatus`, `StWriteMode`, `StWriteScope`: what the backend admits
-/

namespace ImBridge

structure StChatLocator where
  handle : String
  avatar : String
  characterName : String
  chatFile : String
  deriving DecidableEq, Repr

structure StChatSnapshot where
  locator : StChatLocator
  parsedChat : List Json
  sourceSha256 : String
  sourceIntegrity : String
  sourceByteLength : ℕ
  sourceMessageCount : ℕ

structure StCharacterSummary where
  avatar : String
  name : String
  description : String := ""
  personality : String := ""
  scenario : String := ""
  firstMes : String := ""
  mesExample : String := ""
  deriving DecidableEq, Repr

structure StChatSummary where
  chatFile : String
  title : Option String
  deriving DecidableEq, Repr

structure StModelSummary where
  id : String
  ownedBy : Option String
  deriving DecidableEq, Repr

/-- What a channel has selected. -/
structure StChannelLocator where
  handle : Option String
  avatar : Option String
  characterName : Option String
  chatFile : Option String
  deriving DecidableEq, Repr

structure StGenerationSettings where
  username : String
  chatCompletionSource : String
  model : String
  customUrl : String
  customPromptPostProcessing : String
  temperature : Float
  topP : Float
  maxTokens : ℕ

structure StPromptMessage where
  role : String
  content : String
  name : Option String
  deriving DecidableEq, Repr

structure StGenerationRequest where
  modelId : Option String
  messages : List StPromptMessage
  temperature : Option Float
  topP : Option Float
  maxTokens : Option ℕ

structure StGenerationResult where
  text : String
  finishReason : Option String

/-! ## Runtime fences -/

/-- The runtime instance, and its claim on the bot, on whose behalf a write is made. -/
structure PollerRuntimeFence where
  telegramBotId : ℤ
  owner : String
  epoch : ℕ
  internalBotId : String
  runtimeInstanceId : String
  deriving DecidableEq, Repr

def PollerRuntimeFence.isValid (fence : PollerRuntimeFence) : Bool :=
  0 < fence.telegramBotId && fence.owner == "rust_bridge" && 0 < fence.epoch &&
    !isBlank fence.internalBotId && !isBlank fence.runtimeInstanceId

/-! ## Writes -/

structure StChatMessage where
  name : String
  isUser : Bool
  mes : String
  sendDate : Option String
  extra : List (String × Json)

structure StCompressionExtraPatch where
  displayText : Option String
  compressed : Option Bool

structure StMessagePatch where
  index : ℕ
  expectedMessageSha256 : String
  mes : Option String
  extra : Option StCompressionExtraPatch

inductive StMutation
  | appendTurn (userMessage assistantMessage : StChatMessage)
  | undoLastTurn (expectedUserSha256 expectedAssistantSha256 : String)
  | replaceLastAssistant (expectedAssistantSha256 : String) (assistantMessage : StChatMessage)
  | compressMessages (patches : List StMessagePatch)

inductive StWriteScope
  | testChat
  | productionChat
  deriving DecidableEq, Repr

structure CreateStChat where
  operationId : String
  locator : StChatLocator
  openingMessage : Json
  scope : StWriteScope
  fence : PollerRuntimeFence

structure CommitStChat where
  operationId : String
  locator : StChatLocator
  expectedSha256 : String
  expectedIntegrity : String
  mutation : StMutation
  fence : PollerRuntimeFence

inductive StCommitStatus
  | applied
  | alreadyApplied
  | notApplied
  | unknown
  deriving DecidableEq, Repr

structure StCommitResult where
  status : StCommitStatus
  newSha256 : Option String
  newIntegrity : Option String
  byteLength : Option ℕ
  messageCount : Option ℕ
  deriving DecidableEq, Repr

/-! ## What the backend admits -/

inductive StWriteMode
  | disabled
  | readOnly
  | testWrite
  | productionWrite
  deriving DecidableEq, Repr

namespace StWriteMode

def rank : StWriteMode → ℕ
  | disabled => 0
  | readOnly => 1
  | testWrite => 2
  | productionWrite => 3

def allowsWrite : StWriteMode → Bool
  | testWrite | productionWrite => true
  | disabled | readOnly => false

/-- The weaker of the two modes. -/
def effective (self connector : StWriteMode) : StWriteMode :=
  if self.rank ≤ connector.rank then self else connector

end StWriteMode

def StWriteScope.mode : StWriteScope → StWriteMode
  | testChat => .testWrite
  | productionChat => .productionWrite

structure HandshakeResponse where
  version : String
  handle : String
  profile : String
  connectorMode : StWriteMode
  scopes : List StWriteScope
  snapshot : Bool
  integrityEnabled : Bool
  typedMutations : Bool
  integrityRotation : Bool
  operationReplay : Bool
  durableWrite : Bool
  handshakeAtUnix : ℤ
  expiresAtUnix : ℤ
  deriving DecidableEq, Repr

namespace HandshakeResponse

def isValidAt (self : HandshakeResponse) (nowUnix : ℤ) : Bool :=
  !isBlank self.version && !isBlank self.handle && !isBlank self.profile &&
    0 < self.handshakeAtUnix && self.handshakeAtUnix < self.expiresAtUnix &&
    self.handshakeAtUnix ≤ nowUnix && nowUnix < self.expiresAtUnix

def supportsScope (self : HandshakeResponse) (scope : StWriteScope) : Bool :=
  self.scopes.contains scope

end HandshakeResponse

structure StCapabilities where
  mode : StWriteMode := .disabled
  snapshot : Bool := false
  typedMutations : Bool := false
  integrityRotation : Bool := false
  operationReplay : Bool := false
  deriving DecidableEq, Repr

structure StStatus where
  available : Bool
  version : Option String
  handle : String
  capabilities : StCapabilities
  deriving DecidableEq, Repr

end ImBridge
