import ImBridge.Bridge.ConnectorHmac
import ImBridge.Bridge.ErrorMapper

/-!
# The Connector client

The client of the write service. A request is prepared (session, time, nonce, signature), sent once
and its answer decoded; only a request that does not mutate is sent again, once, when the session
was refused. What the client concludes about a write is decided here from the shape of the answer.

## Main definitions

* `ConnectorClient.prepare`, `answer`, `ConnectorClient.requestOnce`: one request
* `CommitWire`, `CreateWire`, `ProbeWire`: the decoded bodies
* `ConnectorClient.probe`, `ConnectorClient.createChat`, `ConnectorClient.commit`: the methods

## Main results

* `ConnectorClient.write_eq`: a write is a preparation, one request, and a verdict on the answer
* `ConnectorClient.uses_prepare`, `ConnectorClient.uses_probe`: neither preparing nor probing sends
  a mutation
-/

namespace ImBridge

open Interleaving ConnectorHmac
open Fallible (ends_bind ends_mapError onResult uses_bind uses_bind_of_ends uses_lift uses_mapError
  uses_ofExcept uses_pure uses_throw)

def maxConnectorBodyBytes : ℕ := 4 * 1024 * 1024

def maxSnapshotBytes : ℕ := 64 * 1024 * 1024

def maxSnapshotMessages : ℕ := 1000000

/-! ## Errors of the client -/

section Errors

variable (lib : Primitives)

def connectorFacts (stage : StErrorStage) (operationId : Option String)
    (commitState : CommitState) (failure : StFailureFacts) : StErrorFacts where
  stage := stage
  endpointClass := some "connector"
  operationId := operationId
  commitState := commitState
  attempt := 1
  failure := failure

def invalidPayload (stage : StErrorStage) (operationId : Option String)
    (commitState : CommitState) : StBridgeError :=
  mapStError lib (connectorFacts stage operationId commitState .decodeInvalidPayload)

def unknownCommit (operationId : String) : StBridgeError :=
  mapStError lib
    (connectorFacts .commit (some operationId) .unknown (.control .stCommitStateUnknown))

def unknownOrNotApplied (stage : StErrorStage) (operationId : Option String) (mutation : Bool)
    (failure : StFailureFacts) : StBridgeError :=
  mapStError lib
    (connectorFacts stage operationId (if mutation then .unknown else .notStarted) failure)

end Errors

/-! ## Decoding JSON bodies -/

namespace Json

/-- The field of a decoded structure: an object gives it under one of its names, an array by its
position among `count` fields. The outer option is a failure of the decoder. -/
def member (v : Json) (names : List String) (position count : ℕ) : Option (Option Json) :=
  match v with
  | object fields =>
    match fields.filter fun field => names.contains field.1 with
    | [] => some none
    | [(_, value)] => some (some value)
    | _ => none
  | array elems => if elems.length = count then some elems[position]? else none
  | _ => none

/-- A field of a type without a default. -/
def required {α : Type} (decode : Json → Option α) : Option Json → Option α
  | some value => decode value
  | none => none

/-- A field of an optional type: it may be missing or null. -/
def optional {α : Type} (decode : Json → Option α) : Option Json → Option (Option α)
  | none => some none
  | some null => some none
  | some value => (decode value).map some

/-- The name of a variant without data. -/
def asVariant : Json → Option String
  | string s => some s
  | object [(s, null)] => some s
  | _ => none

end Json

structure CommitWire where
  status : String
  newSha256 : Option String
  newIntegrity : Option String
  byteLength : Option ℕ
  messageCount : Option ℕ

def CommitWire.decode (v : Json) : Option CommitWire := do
  return {
    status := ← Json.required Json.asStr (← v.member ["status"] 0 5)
    newSha256 := ← Json.optional Json.asStr (← v.member ["newSha256"] 1 5)
    newIntegrity := ← Json.optional Json.asStr (← v.member ["newIntegrity"] 2 5)
    byteLength := ← Json.optional Json.asU64 (← v.member ["byteLength"] 3 5)
    messageCount := ← Json.optional Json.asU64 (← v.member ["messageCount"] 4 5) }

structure CreateWire where
  status : String
  chatFile : Option String
  sha256 : Option String
  integrity : Option String
  byteLength : Option ℕ
  messageCount : Option ℕ

def CreateWire.decode (v : Json) : Option CreateWire := do
  return {
    status := ← Json.required Json.asStr (← v.member ["status"] 0 6)
    chatFile := ← Json.optional Json.asStr (← v.member ["chatFile"] 1 6)
    sha256 := ← Json.optional Json.asStr (← v.member ["sha256", "newSha256"] 2 6)
    integrity := ← Json.optional Json.asStr (← v.member ["integrity", "newIntegrity"] 3 6)
    byteLength := ← Json.optional Json.asU64 (← v.member ["byteLength"] 4 6)
    messageCount := ← Json.optional Json.asU64 (← v.member ["messageCount"] 5 6) }

def StWriteMode.decode (v : Json) : Option StWriteMode :=
  match v.asVariant with
  | some "disabled" => some .disabled
  | some "read_only" => some .readOnly
  | some "test_write" => some .testWrite
  | some "production_write" => some .productionWrite
  | _ => none

def StWriteScope.decode (v : Json) : Option StWriteScope :=
  match v.asVariant with
  | some "test_chat" => some .testChat
  | some "production_chat" => some .productionChat
  | _ => none

def decodeScopes (v : Json) : Option (List StWriteScope) := do
  (← v.asArray).mapM StWriteScope.decode

structure ProbeCapabilitiesWire where
  mode : StWriteMode
  snapshot : Bool
  typedMutations : Bool
  integrityRotation : Bool
  operationReplay : Bool
  durableWrite : Bool
  scopes : List StWriteScope

def ProbeCapabilitiesWire.decode (v : Json) : Option ProbeCapabilitiesWire := do
  -- the last field has a default, so an array may also leave it out
  let count := match v with
    | .array elems => max 6 elems.length
    | _ => 7
  guard (count ≤ 7)
  let scopes ← v.member ["scopes"] 6 count
  return {
    mode := ← Json.required StWriteMode.decode (← v.member ["mode"] 0 count)
    snapshot := ← Json.required Json.asBool (← v.member ["snapshot"] 1 count)
    typedMutations := ← Json.required Json.asBool (← v.member ["typedMutations"] 2 count)
    integrityRotation := ← Json.required Json.asBool (← v.member ["integrityRotation"] 3 count)
    operationReplay := ← Json.required Json.asBool (← v.member ["operationReplay"] 4 count)
    durableWrite := ← Json.required Json.asBool (← v.member ["durableWrite"] 5 count)
    scopes := ← match scopes with
      | none => some []
      | some scopes => decodeScopes scopes }

structure ProbeWire where
  version : String
  handle : String
  profile : String
  mode : Option StWriteMode
  scopes : Option (List StWriteScope)
  snapshot : Option Bool
  integrityEnabled : Option Bool
  typedMutations : Option Bool
  integrityRotation : Option Bool
  operationReplay : Option Bool
  durableWrite : Option Bool
  handshakeAtUnix : ℤ
  expiresAtUnix : ℤ
  capabilities : Option ProbeCapabilitiesWire

def ProbeWire.decode (v : Json) : Option ProbeWire := do
  let count := match v with
    | .array elems => max 13 elems.length
    | _ => 14
  guard (count ≤ 14)
  let flag (name : String) (position : ℕ) : Option (Option Bool) := do
    Json.optional Json.asBool (← v.member [name] position count)
  return {
    version := ← Json.required Json.asStr (← v.member ["version"] 0 count)
    handle := ← Json.required Json.asStr (← v.member ["handle"] 1 count)
    profile := ← Json.required Json.asStr (← v.member ["profile"] 2 count)
    mode := ← Json.optional StWriteMode.decode (← v.member ["mode", "connectorMode"] 3 count)
    scopes := ← Json.optional decodeScopes (← v.member ["scopes"] 4 count)
    snapshot := ← flag "snapshot" 5
    integrityEnabled := ← flag "integrityEnabled" 6
    typedMutations := ← flag "typedMutations" 7
    integrityRotation := ← flag "integrityRotation" 8
    operationReplay := ← flag "operationReplay" 9
    durableWrite := ← flag "durableWrite" 10
    handshakeAtUnix := ← Json.required Json.asI64 (← v.member ["handshakeAtUnix"] 11 count)
    expiresAtUnix := ← Json.required Json.asI64 (← v.member ["expiresAtUnix"] 12 count)
    capabilities := ← Json.optional ProbeCapabilitiesWire.decode
      (← v.member ["capabilities"] 13 count) }

def ProbeWire.intoHandshake (self : ProbeWire) : Option HandshakeResponse := do
  let capability := self.capabilities
  return {
    version := self.version
    handle := self.handle
    profile := self.profile
    connectorMode := ← self.mode.or (capability.map (·.mode))
    scopes := ← self.scopes.or (capability.map (·.scopes))
    snapshot := ← self.snapshot.or (capability.map (·.snapshot))
    integrityEnabled := ← self.integrityEnabled
    typedMutations := ← self.typedMutations.or (capability.map (·.typedMutations))
    integrityRotation := ← self.integrityRotation.or (capability.map (·.integrityRotation))
    operationReplay := ← self.operationReplay.or (capability.map (·.operationReplay))
    durableWrite := ← self.durableWrite.or (capability.map (·.durableWrite))
    handshakeAtUnix := self.handshakeAtUnix
    expiresAtUnix := self.expiresAtUnix }

/-! ## Checks on decoded bodies -/

def isHexDigit (b : UInt8) : Bool :=
  (48 ≤ b && b ≤ 57) || (65 ≤ b && b ≤ 70) || (97 ≤ b && b ≤ 102)

def isSha256 (value : String) : Bool :=
  (utf8 value).length == 64 && (utf8 value).all isHexDigit

def validateIntegrity (value : String) : Bool :=
  !isBlank value && (utf8 value).length ≤ 256

def validateAfterFields (sha256 integrity : Option String) (byteLength messageCount : Option ℕ) :
    Bool :=
  isSha256 (sha256.getD "") && validateIntegrity (integrity.getD "") &&
    byteLength.any (fun value => 0 < value && value ≤ maxSnapshotBytes) &&
    messageCount.any (fun value => 0 < value && value ≤ maxSnapshotMessages)

/-! ## Encoding commands -/

section Encode

open Json

def encodeOption {α : Type} (encode : α → Json) : Option α → Json
  | none => null
  | some a => encode a

def PollerRuntimeFence.toJson (fence : PollerRuntimeFence) : Json :=
  object [("telegramBotId", int fence.telegramBotId), ("owner", string fence.owner),
    ("epoch", int fence.epoch), ("internalBotId", string fence.internalBotId),
    ("runtimeInstanceId", string fence.runtimeInstanceId)]

def StChatMessage.toJson (message : StChatMessage) : Json :=
  object [("name", string message.name), ("isUser", bool message.isUser),
    ("mes", string message.mes), ("sendDate", encodeOption string message.sendDate),
    ("extra", object message.extra)]

def StCompressionExtraPatch.toJson (patch : StCompressionExtraPatch) : Json :=
  object [("displayText", encodeOption string patch.displayText),
    ("compressed", encodeOption bool patch.compressed)]

def StMessagePatch.toJson (patch : StMessagePatch) : Json :=
  object [("index", int patch.index), ("expectedMessageSha256", string patch.expectedMessageSha256),
    ("mes", encodeOption string patch.mes),
    ("extra", encodeOption StCompressionExtraPatch.toJson patch.extra)]

def StMutation.toJson : StMutation → Json
  | .appendTurn userMessage assistantMessage =>
    object [("kind", string "append_turn"), ("userMessage", userMessage.toJson),
      ("assistantMessage", assistantMessage.toJson)]
  | .undoLastTurn expectedUserSha256 expectedAssistantSha256 =>
    object [("kind", string "undo_last_turn"), ("expectedUserSha256", string expectedUserSha256),
      ("expectedAssistantSha256", string expectedAssistantSha256)]
  | .replaceLastAssistant expectedAssistantSha256 assistantMessage =>
    object [("kind", string "replace_last_assistant"),
      ("expectedAssistantSha256", string expectedAssistantSha256),
      ("assistantMessage", assistantMessage.toJson)]
  | .compressMessages patches =>
    object [("kind", string "compress_messages"), ("patches", array (patches.map (·.toJson)))]

def CreateStChat.body (command : CreateStChat) : Json :=
  object [("operationId", string command.operationId), ("handle", string command.locator.handle),
    ("avatar", string command.locator.avatar), ("chatFile", string command.locator.chatFile),
    ("openingMessage", command.openingMessage), ("fence", command.fence.toJson)]

def CommitStChat.body (command : CommitStChat) : Json :=
  object [("operationId", string command.operationId), ("handle", string command.locator.handle),
    ("avatar", string command.locator.avatar), ("chatFile", string command.locator.chatFile),
    ("expectedSha256", string command.expectedSha256),
    ("expectedIntegrity", string command.expectedIntegrity),
    ("mutation", command.mutation.toJson), ("fence", command.fence.toJson)]

end Encode

/-! ## One request -/

/-- What a method of the client asks for, before it is signed. -/
structure ConnectorOrder where
  method : String
  path : String
  query : String
  body : Bytes
  stage : StErrorStage
  operationId : Option String
  mutation : Bool

structure ConnectorClient where
  hmacKey : Bytes

/-- The chunks of a body, one after the other, as long as they fit. -/
def readChunks : List (Option Bytes) → Bytes → Except StFailureFacts Bytes
  | [], bytes => .ok bytes
  | none :: _, _ => .error .connectorUnavailable
  | some chunk :: rest, bytes =>
    if maxConnectorBodyBytes < bytes.length + chunk.length then
      .error (.control .stCommitPayloadTooLarge)
    else readChunks rest (bytes ++ chunk)

def isSuccess (status : ℕ) : Bool := 200 ≤ status && status ≤ 299

def isClientError (status : ℕ) : Bool := 400 ≤ status && status ≤ 499

/-- What the client makes of the answer to a request. -/
def answer (lib : Primitives) (order : ConnectorOrder) (response : HttpResponse) :
    StResult Json :=
  if response.contentLength.any (maxConnectorBodyBytes < ·) then
    .error (unknownOrNotApplied lib order.stage order.operationId order.mutation
      (.control .stCommitPayloadTooLarge))
  else match readChunks response.chunks [] with
    | .error failure =>
      .error (unknownOrNotApplied lib order.stage order.operationId order.mutation failure)
    | .ok bytes =>
      if isSuccess response.status then
        match lib.parseJson bytes with
        | some value => .ok value
        | none =>
          .error (if order.mutation then unknownCommit lib
            (order.operationId.getD "unknown-operation")
            else invalidPayload lib order.stage order.operationId .notStarted)
      else
        let rejectionState : CommitState :=
          if order.mutation then
            if isClientError response.status then .notApplied else .unknown
          else .notStarted
        .error (mapStError lib (connectorFacts order.stage order.operationId rejectionState
          (.http response.status response.contentType (some bytes))))

namespace ConnectorClient

variable (lib : Primitives) (self : ConnectorClient)

/-- Session, time, nonce and signature of a request. A failure here is before the request is sent,
and says so. -/
def prepare (order : ConnectorOrder) : StTask ConnectorRequest := do
  let (csrfToken, cookieHeader) ← Fallible.mapError
    (fun error => { error with
      operationId := order.operationId
      commitState := if order.mutation then .notApplied else .notStarted })
    (ExceptT.mk (ask .ensureSession) : StTask (String × String))
  let timestamp ← ask .unixTimestamp
  let nonce ← ask .connectorNonce
  let request : ConnectorHmacRequest :=
    ⟨order.method, order.path, order.query, timestamp, nonce, allowedContentType, order.body⟩
  let refused := mapStError lib
    (connectorFacts order.stage order.operationId .notApplied .connectorAuth)
  let canonical ← Fallible.ofExcept ((canonicalString lib request).mapError fun _ => refused)
  let signature ← Fallible.ofExcept ((sign lib self.hmacKey canonical).mapError fun _ => refused)
  return {
    method := order.method
    path := order.path
    query := order.query
    body := order.body
    csrfToken := csrfToken
    cookieHeader := cookieHeader
    timestamp := timestamp
    nonce := nonce
    signature := signature
    operationId := order.operationId
    mutation := order.mutation }

/-- What the client makes of an attempt to send a request. -/
def outcome (order : ConnectorOrder) : Except Unit HttpResponse → StResult Json
  | .error _ => .error (mapStError lib (connectorFacts order.stage order.operationId
      (if order.mutation then .unknown else .notStarted) .connectorUnavailable))
  | .ok response => answer lib order response

/-- The session was refused. -/
def forbidden : Except Unit HttpResponse → Bool
  | .error _ => false
  | .ok response => response.status == 403

/-- Prepares the request and sends it. -/
def send (order : ConnectorOrder) : StTask (Except Unit HttpResponse) := do
  let request ← prepare lib self order
  ask (.http request)

def requestOnce (order : ConnectorOrder) (retryOn403 : Bool) : StTask Json := do
  let sent ← send lib self order
  if forbidden sent && retryOn403 && !order.mutation then
    ask .invalidateSession
    let sent ← send lib self order
    Fallible.ofExcept (outcome lib order sent)
  else Fallible.ofExcept (outcome lib order sent)

def probeOrder : ConnectorOrder where
  method := "GET"
  path := "/api/plugins/st-im-bridge/connector/v1/probe"
  query := ""
  body := []
  stage := .control
  operationId := none
  mutation := false

def probe : StTask HandshakeResponse := do
  let payload ← requestOnce lib self probeOrder true
  let invalid := invalidPayload lib .control none .notStarted
  match (ProbeWire.decode payload).bind ProbeWire.intoHandshake with
  | none => throw invalid
  | some handshake =>
    if isBlank handshake.version || isBlank handshake.handle || isBlank handshake.profile ||
        handshake.handshakeAtUnix ≤ 0 || handshake.expiresAtUnix ≤ handshake.handshakeAtUnix then
      throw invalid
    else return handshake

/-! ## Writes -/

def createOrder (command : CreateStChat) : ConnectorOrder where
  method := "POST"
  path := "/api/plugins/st-im-bridge/connector/v1/chats/create"
  query := ""
  body := lib.renderJson command.body
  stage := .commit
  operationId := some command.operationId
  mutation := true

/-- The result that the answer to a creation stands for. -/
def createResult (command : CreateStChat) (payload : Json) : StResult StCommitResult :=
  match CreateWire.decode payload with
  | none => .error (unknownCommit lib command.operationId)
  | some wire =>
    let result (status : StCommitStatus) : StCommitResult :=
      ⟨status, wire.sha256, wire.integrity, wire.byteLength, wire.messageCount⟩
    if wire.status = "not_applied" ∨ wire.status = "failed" then .ok (result .notApplied)
    else if wire.status = "unknown" then .ok (result .unknown)
    else if wire.status ≠ "applied" ∧ wire.status ≠ "already_applied" then
      .error (unknownCommit lib command.operationId)
    else match wire.chatFile with
      | none => .error (unknownCommit lib command.operationId)
      | some chatFile =>
        if isBlank chatFile || chatFile ≠ command.locator.chatFile ||
            !validateAfterFields wire.sha256 wire.integrity wire.byteLength wire.messageCount then
          .error (unknownCommit lib command.operationId)
        else
          .ok (result (if wire.status = "already_applied" then .alreadyApplied else .applied))

def createChat (command : CreateStChat) : StTask StCommitResult := do
  let payload ← requestOnce lib self (createOrder lib command) true
  Fallible.ofExcept (createResult lib command payload)

def commitOrder (command : CommitStChat) : ConnectorOrder where
  method := "POST"
  path := "/api/plugins/st-im-bridge/connector/v1/chats/commit"
  query := ""
  body := lib.renderJson command.body
  stage := .commit
  operationId := some command.operationId
  mutation := true

def commitStatusOf : String → Option StCommitStatus
  | "applied" => some .applied
  | "already_applied" => some .alreadyApplied
  | "not_applied" => some .notApplied
  | "failed" => some .notApplied
  | "unknown" => some .unknown
  | _ => none

/-- The result that the answer to a commit stands for. -/
def commitResult (command : CommitStChat) (payload : Json) : StResult StCommitResult :=
  match CommitWire.decode payload with
  | none => .error (unknownCommit lib command.operationId)
  | some wire =>
    match commitStatusOf wire.status with
    | none => .error (unknownCommit lib command.operationId)
    | some status =>
      if (status = .applied ∨ status = .alreadyApplied) ∧
          !validateAfterFields wire.newSha256 wire.newIntegrity wire.byteLength wire.messageCount
      then .error (unknownCommit lib command.operationId)
      else
        .ok ⟨status, wire.newSha256, wire.newIntegrity, wire.byteLength, wire.messageCount⟩

def commit (command : CommitStChat) : StTask StCommitResult := do
  let payload ← requestOnce lib self (commitOrder lib command) true
  Fallible.ofExcept (commitResult lib command payload)

/-! ## The shape of a write -/

/-- The method of the client for a command. -/
def write : BackendCommand → StTask StCommitResult
  | .createChat command => createChat lib self command
  | .commit command => commit lib self command

/-- What is sent for a command. -/
def order : BackendCommand → ConnectorOrder
  | .createChat command => createOrder lib command
  | .commit command => commitOrder lib command

/-- The result that an answer to the command stands for. -/
def result : BackendCommand → Json → StResult StCommitResult
  | .createChat command => createResult lib command
  | .commit command => commitResult lib command

/-- What the client concludes from the attempt to send the command. -/
def verdict (command : BackendCommand) (sent : Except Unit HttpResponse) :
    StResult StCommitResult :=
  (outcome lib (order lib command) sent).bind (result lib command)

variable (command : BackendCommand)

theorem mutation_order : (order lib command).mutation = true := by
  cases command <;> rfl

theorem stage_order : (order lib command).stage = .commit := by
  cases command <;> rfl

theorem operationId_order :
    (order lib command).operationId = some command.operationId := by
  cases command <;> rfl

/-- **A write is a preparation, one request, and a verdict on what became of it**: a refused session
is no reason to send a mutation again. -/
theorem write_eq :
    write lib self command = (do
      let request ← prepare lib self (order lib command)
      let sent ← ask (.http request)
      Fallible.ofExcept (verdict lib command sent)) := by
  have hrequest : write lib self command =
      requestOnce lib self (order lib command) true >>= fun payload =>
        Fallible.ofExcept (result lib command payload) := by cases command <;> rfl
  rw [hrequest]
  simp only [requestOnce, send, mutation_order, Bool.not_true, Bool.and_false, Bool.false_eq_true,
    if_false, bind_assoc]
  refine congrArg _ (funext fun request => congrArg _ (funext fun sent => ?_))
  unfold verdict
  cases outcome lib (order lib command) sent <;> rfl

end ConnectorClient

/-! ## Calls that send no mutation -/

/-- The calls by which a request is prepared, and requests that do not mutate. -/
def Call.Quiet : Call → Prop
  | .ensureSession | .invalidateSession | .unixTimestamp | .connectorNonce => True
  | .http request => request.mutates = none
  | _ => False

namespace ConnectorClient

variable (lib : Primitives) (self : ConnectorClient)

theorem uses_prepare (order : ConnectorOrder) : (prepare lib self order).run.Uses Call.Quiet := by
  refine uses_bind (uses_mapError ⟨trivial, fun _ => trivial⟩) fun session => ?_
  refine uses_bind (uses_lift ⟨trivial, fun _ => trivial⟩) fun timestamp => ?_
  refine uses_bind (uses_lift ⟨trivial, fun _ => trivial⟩) fun nonce => ?_
  refine uses_bind (uses_ofExcept _) fun canonical => ?_
  exact uses_bind (uses_ofExcept _) fun signature => uses_pure _

/-- A prepared request is the one that was ordered. -/
def Prepared (order : ConnectorOrder) : StResult ConnectorRequest → Prop
  | .ok request => request.operationId = order.operationId ∧ request.mutation = order.mutation
  | .error error => order.mutation = true → error.commitState = .notApplied

theorem ends_prepare (order : ConnectorOrder) :
    (prepare lib self order).run.Ends (Prepared order) := by
  have hauth : ∀ r : Except ConnectorHmacError String,
      (Fallible.ofExcept (r.mapError fun _ => mapStError lib
        (connectorFacts order.stage order.operationId .notApplied .connectorAuth)) :
          StTask String).run.Ends
        (onResult (fun _ => True) fun e => Prepared order (.error e)) := by
    intro r
    cases r with
    | ok _ => trivial
    | error e => exact fun _ => rfl
  refine ends_bind (Q := fun _ => True) (ends_mapError ?_) fun session _ => ?_
  · intro r
    cases r with
    | ok _ => trivial
    | error e => exact fun hmutation => if_pos hmutation
  refine ends_bind (Q := fun _ => True) (fun _ => trivial) fun timestamp _ => ?_
  refine ends_bind (Q := fun _ => True) (fun _ => trivial) fun nonce _ => ?_
  refine ends_bind (Q := fun _ => True) (hauth _) fun canonical _ => ?_
  refine ends_bind (Q := fun _ => True) (hauth _) fun signature _ => ?_
  exact ⟨rfl, rfl⟩

/-- The request for a command mutates its operation; a failure to prepare it says that nothing was
applied. -/
theorem ends_prepare_order (command : BackendCommand) :
    (prepare lib self (order lib command)).run.Ends (onResult
      (fun request => request.mutates = some command.operationId)
      fun error => error.commitState = .notApplied) := by
  refine (ends_prepare lib self _).imp fun r hr => ?_
  cases r with
  | ok request =>
    obtain ⟨hid, hmutation⟩ := hr
    rw [mutation_order] at hmutation
    rw [operationId_order] at hid
    simp [ConnectorRequest.mutates, hid, hmutation]
  | error e => exact hr (mutation_order lib command)

/-- A request that does not mutate stays so when it is sent again. -/
theorem uses_send {order : ConnectorOrder} (horder : order.mutation = false) :
    (send lib self order).run.Uses Call.Quiet := by
  refine uses_bind_of_ends (Q := fun request => request.mutation = order.mutation)
    (uses_prepare lib self order) ((ends_prepare lib self order).imp fun r hr => ?_)
    fun request hrequest => ?_
  · cases r with
    | ok request => exact hr.2
    | error e => trivial
  · refine uses_lift ⟨?_, fun _ => trivial⟩
    show request.mutates = none
    simp [ConnectorRequest.mutates, hrequest, horder]

theorem uses_requestOnce {order : ConnectorOrder} (horder : order.mutation = false) :
    (requestOnce lib self order true).run.Uses Call.Quiet := by
  refine uses_bind (uses_send lib self horder) fun sent => ?_
  split
  · refine uses_bind (uses_lift ⟨trivial, fun _ => trivial⟩) fun _ => ?_
    exact uses_bind (uses_send lib self horder) fun sent => uses_ofExcept _
  · exact uses_ofExcept _

theorem uses_probe : (probe lib self).run.Uses Call.Quiet := by
  refine uses_bind (uses_requestOnce lib self rfl) fun payload => ?_
  dsimp only
  split
  · exact uses_throw _
  · split
    · exact uses_throw _
    · exact uses_pure _

end ConnectorClient

end ImBridge
