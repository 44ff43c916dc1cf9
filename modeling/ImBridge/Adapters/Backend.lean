import ImBridge.Adapters.Connector

/-!
# The chat backend

The backend admits a write in three steps: it probes the chat server and the Connector for what
they can do, compares that with the configured mode and the scope of the command, and checks that
there is a Connector at all. Only then the Connector client takes over. Every refusal up to that
point is made without sending a mutation.

## Main definitions

* `ReqwestStBackend`, `ReqwestStBackend.probe`: the backend and its status
* `ReqwestStBackend.admitTarget`: the checks before a write
* `ReqwestStBackend.createChat`, `ReqwestStBackend.commit`: the writes

## Main results

* `ReqwestStBackend.write_eq`: a write is its admission, one request, and a verdict
* `ReqwestStBackend.uses_admission`: no mutation is sent before the request itself
-/

namespace ImBridge

open Interleaving
open Fallible (ends_bind onResult uses_bind uses_ofExcept uses_pure)

structure ReqwestStBackend where
  handle : String
  mode : StWriteMode
  connector : Option ConnectorClient

namespace ReqwestStBackend

variable (lib : Primitives) (self : ReqwestStBackend)

def notReady (code : StErrorCode) (stage : StErrorStage) : StBridgeError :=
  mapStError lib
    { stage := stage
      endpointClass := some "control"
      operationId := none
      commitState := .notStarted
      attempt := 1
      failure := .control code }

def statusWithoutConnector (available : Bool) : StStatus where
  available := available
  version := none
  handle := self.handle
  capabilities := { mode := if self.mode = .readOnly then .readOnly else .disabled }

/-- The scope that the configured mode writes in. -/
def localScope : Option StWriteScope :=
  match self.mode with
  | .testWrite => some .testChat
  | .productionWrite => some .productionChat
  | _ => none

def statusFromHandshake (handshake : HandshakeResponse) (now : ℤ) : StStatus :=
  let profileMatches := handshake.handle == self.handle && !isBlank handshake.profile
  let scopeMatches := (self.localScope.map handshake.supportsScope).getD true
  let capabilitiesValid :=
    handshake.isValidAt now && profileMatches && handshake.integrityEnabled &&
    handshake.snapshot && handshake.typedMutations && handshake.integrityRotation &&
    handshake.operationReplay && handshake.durableWrite && scopeMatches
  let effective := self.mode.effective handshake.connectorMode
  let readyMode :=
    if self.mode.allowsWrite && effective.allowsWrite && capabilitiesValid then effective
    else if self.mode = .readOnly then .readOnly
    else .disabled
  { available := true
    version := some handshake.version
    handle := handshake.handle
    capabilities :=
      { mode := readyMode
        snapshot := handshake.snapshot
        typedMutations := handshake.typedMutations
        integrityRotation := handshake.integrityRotation
        operationReplay := handshake.operationReplay } }

/-- The status of a chat server that answers, by what its Connector says. -/
def connectorStatus : BridgeTask StStatus :=
  match self.connector with
  | none => pure (self.statusWithoutConnector true)
  | some connector => do
    match ← (connector.probe lib).run with
    | .ok handshake => return self.statusFromHandshake handshake (← ask .unixTimestamp)
    | .error error =>
      if error.code = .stConnectFailed ∨ error.code = .stRequestTimeout ∨
          error.code = .stConnectorUnavailable then
        return self.statusWithoutConnector false
      else
        return { available := true, version := none, handle := self.handle, capabilities := {} }

def probe : StTask StStatus :=
  if isBlank self.handle then pure (self.statusWithoutConnector false)
  else ExceptT.mk do
    match ← ask .ensureSession with
    | .error error =>
      if error.code = .stConnectFailed ∨ error.code = .stRequestTimeout then
        return .ok (self.statusWithoutConnector false)
      else return .error error
    | .ok _ => return .ok (← connectorStatus lib self)

/-- The status admits writes, in the scope that is asked for. -/
def checkWrite (scope : Option StWriteScope) (status : StStatus) : StResult StStatus :=
  if !status.capabilities.mode.allowsWrite then .error (notReady lib .stWriteNotReady .control)
  else if scope.any (·.mode ≠ status.capabilities.mode) then
    .error (notReady lib .stTestScopeRequired .control)
  else .ok status

def requireWrite (scope : Option StWriteScope) : StTask StStatus := do
  let status ← probe lib self
  Fallible.ofExcept (checkWrite lib scope status)

/-- In test mode only test chats are written to; and a write needs a Connector. -/
def checkTarget (operationId chatFile : String) (status : StStatus) : StResult ConnectorClient :=
  if status.capabilities.mode = .testWrite ∧ startsWith "IMBridge-Test-" chatFile = false then
    .error (notReady lib .stTestScopeRequired .control)
  else match self.connector with
    | some connector => .ok connector
    | none =>
      .error (mapStError lib
        (connectorFacts .commit (some operationId) .notStarted .connectorUnavailable))

/-- The checks before a write, and the client that then makes it. -/
def admitTarget (scope : Option StWriteScope) (operationId chatFile : String) :
    StTask ConnectorClient := do
  let status ← requireWrite lib self scope
  Fallible.ofExcept (checkTarget lib self operationId chatFile status)

def createChat (command : CreateStChat) : StTask StCommitResult := do
  let connector ← admitTarget lib self (some command.scope) command.operationId
    command.locator.chatFile
  connector.createChat lib command

def commit (command : CommitStChat) : StTask StCommitResult := do
  let connector ← admitTarget lib self none command.operationId command.locator.chatFile
  connector.commit lib command

/-- The method of the backend for a command. -/
def write : BackendCommand → StTask StCommitResult
  | .createChat command => createChat lib self command
  | .commit command => commit lib self command

/-! ## The shape of a write -/

/-- The scope that a command asks for. -/
def requestedScope : BackendCommand → Option StWriteScope
  | .createChat command => some command.scope
  | .commit _ => none

def chatFile : BackendCommand → String
  | .createChat command => command.locator.chatFile
  | .commit command => command.locator.chatFile

/-- The local checks for a command. -/
def gate (command : BackendCommand) : StTask ConnectorClient :=
  admitTarget lib self (requestedScope command) command.operationId (chatFile command)

/-- Everything before the request for a command: the local checks, and its preparation. -/
def admission (command : BackendCommand) : StTask ConnectorRequest := do
  let connector ← gate lib self command
  connector.prepare lib (ConnectorClient.order lib command)

variable (command : BackendCommand)

/-- **A write is its admission, one request, and a verdict on what became of it.** -/
theorem write_eq :
    write lib self command = (do
      let request ← admission lib self command
      let sent ← ask (.http request)
      Fallible.ofExcept (ConnectorClient.verdict lib command sent)) := by
  have hgate : write lib self command = (do
      let connector ← gate lib self command
      connector.write lib command) := by cases command <;> rfl
  rw [hgate]
  simp only [admission, bind_assoc, ConnectorClient.write_eq]

theorem uses_connectorStatus : (connectorStatus lib self).Uses Call.Quiet := by
  unfold connectorStatus
  split
  · exact Program.uses_ret _
  · refine Program.uses_bind (ConnectorClient.uses_probe lib _) fun r => ?_
    cases r with
    | ok handshake => exact ⟨trivial, fun _ => trivial⟩
    | error error => dsimp only; split <;> exact Program.uses_ret _

theorem uses_probe : (probe lib self).run.Uses Call.Quiet := by
  unfold probe
  split
  · exact uses_pure _
  · refine Program.uses_bind ⟨trivial, fun _ => trivial⟩ fun r => ?_
    cases r with
    | ok session => exact Program.uses_bind (uses_connectorStatus lib self) fun _ => trivial
    | error error => dsimp only; split <;> exact Program.uses_ret _

theorem uses_gate : (gate lib self command).run.Uses Call.Quiet := by
  refine uses_bind ?_ fun status => uses_ofExcept _
  exact uses_bind (uses_probe lib self) fun status => uses_ofExcept _

/-- **No mutation is sent before the request itself.** -/
theorem uses_admission :
    (admission lib self command).run.Uses Call.Quiet :=
  uses_bind (uses_gate lib self command) fun connector =>
    ConnectorClient.uses_prepare lib connector _

/-- An admitted request carries the command's operation, and says that it mutates. -/
theorem ends_admission :
    (admission lib self command).run.Ends (onResult
      (fun request => request.mutates = some command.operationId) fun _ => True) := by
  refine ends_bind (Q := fun _ => True) ?_ fun connector _ => ?_
  · exact (Program.ends_true _).imp fun r _ => by cases r <;> trivial
  · refine (ConnectorClient.ends_prepare_order lib connector command).imp fun r hr => ?_
    cases r with
    | ok request => exact hr
    | error e => trivial

end ReqwestStBackend

end ImBridge
