import ImBridge.Bridge.ErrorMapper
import ImBridge.Bridge.OperationPayload
import ImBridge.Bridge.StOps

/-!
# The operation coordinator

The coordinator moves an operation through its states around the one write to the chat backend. The
live path (`commit`, `create`) and the recovery path (`replayGenerated`) share their shape: win the
transition to `committing`, invoke the backend, and record what came of it. Reconciliation
(`reconcileCommit`) confirms a write from the journal of the Connector.

The backend is a parameter: the method it has for each command.

## Main definitions

* `OperationCoordinator`: the backend, and where keys come from
* `claimDisposition`: what becomes of a claim of an operation that is already there
* `OperationCoordinator.settleGenerationFailure`: a generation that failed
* `OperationCoordinator.recordOutcome`: what is recorded of an outcome
* `OperationCoordinator.commit`, `OperationCoordinator.create`,
  `OperationCoordinator.replayGenerated`: the writes
* `OperationCoordinator.reconcileCommit`: reconciliation
-/

namespace ImBridge

open Interleaving OperationStore

inductive ClaimDisposition
  | fresh
  | resume
  | alreadyDelivered
  | rejected
  deriving DecidableEq, Repr

structure ClaimedOperation where
  disposition : ClaimDisposition
  record : BridgeOperationRecord

structure OperationCoordinator where
  backend : BackendCommand → StTask StCommitResult
  payloadEncryptor : Option OperationPayloadEncryptor
  payloadKeyProvider : Option OperationPayloadKeyProvider

/-! ## Errors -/

def bridgeErrorFromApp (operationId : String) (error : AppError) : StBridgeError where
  code := .stCommitFailed
  stage := .control
  safeMessage := error.message
  retryable := false
  commitState := .notStarted
  operationId := some operationId

def operationStatePersistenceError (operationId : String) (originalCode : StErrorCode)
    (persistenceError : AppError) (commitState : CommitState) : StBridgeError where
  code := .stCommitStateUnknown
  stage := .control
  safeMessage := "operation state persistence failed (original error code " ++ originalCode.asStr ++
    "; persistence error code " ++ persistenceError.code ++ ")"
  retryable := false
  commitState := commitState
  operationId := some operationId

def unknownCommitError (operationId : String) : StBridgeError where
  code := .stCommitStateUnknown
  stage := .commit
  safeMessage := "SillyTavern commit state is unknown; reconciliation is required"
  retryable := false
  commitState := .unknown
  operationId := some operationId

/-- The error of a write that the Connector answered as not applied. -/
def notAppliedError (lib : Primitives) (operationId : String) : StBridgeError :=
  mapStError lib
    { stage := .commit
      endpointClass := some "connector"
      operationId := some operationId
      commitState := .notApplied
      attempt := 1
      failure := .control .stCommitFailed }

/-! ## Claims -/

/-- What becomes of a claim of an operation that is already there. -/
def claimDisposition (status : BridgeOperationStatus) (commitState : OperationCommitState) :
    ClaimDisposition :=
  match status, commitState with
  | .delivered, .applied => .alreadyDelivered
  | .committed, .applied => .resume
  | .committed, .notApplied | .delivered, .notApplied => .rejected
  | .committed, .unknown | .delivered, .unknown => .resume
  | _, .notApplied | .conflict, _ | .failed, _ | .interrupted, _ => .rejected
  | _, _ => .resume

namespace OperationCoordinator

/-! ## The payload of an operation -/

section Payload

variable (lib : Primitives) (self : OperationCoordinator)

def keyUnavailable : AppError :=
  .serviceUnavailable "PAYLOAD_KEY_UNAVAILABLE" "operation payload key is unavailable"

def restorePayloadEncryptorForOperation (operationId : String) :
    AppTask OperationPayloadEncryptor :=
  match self.payloadKeyProvider with
  | some _ => OperationPayloadKeyProvider.restoreForOperation operationId
  | none =>
    match self.payloadEncryptor with
    | some encryptor => pure encryptor
    | none => throw keyUnavailable

def recoveryPayload (record : BridgeOperationRecord) : AppResult EncryptedOperationPayload :=
  match record.payload with
  | none => .error (.badRequest "PAYLOAD_MISSING" "operation recovery payload is missing")
  | some encrypted =>
    if isBlank record.id || isBlank record.botId then
      .error (.badRequest "PAYLOAD_AAD_INVALID" "operation payload identity is incomplete")
    else .ok encrypted

/-- The data that the payload of the record is bound to, under a fence. -/
def recordAad (record : BridgeOperationRecord) (fence : PollerRuntimeFence) : OperationAad :=
  .newWithFence record.id
    (locatorHash lib record.locator.handle record.locator.avatar record.locator.chatFile)
    record.operationKind record.actorId fence

/-- The digest that a payload is recorded with: of its mutation, or of the whole of it. -/
def payloadDigest (payload : OperationRecoveryPayload) (plaintext : Bytes) : String :=
  match payload.mutation with
  | some mutation => StOps.mutationDigest lib mutation
  | none => lib.sha256Hex plaintext

/-- Decoding a decrypted payload, and its checks. -/
def decodeRecoveryPayload (record : BridgeOperationRecord) (plaintext : Bytes) :
    AppResult OperationRecoveryPayload :=
  match lib.decodePayload plaintext with
  | none => .error (.badRequest "PAYLOAD_RECOVERY_INVALID" "operation recovery payload is invalid")
  | some payload => do
    payload.validate
    if record.mutationDigest.any (payloadDigest lib payload plaintext ≠ ·) then
      .error (.conflict "PAYLOAD_DIGEST_MISMATCH" "operation recovery payload digest mismatch")
    else .ok payload

def decodeAndValidateRecoveryPayload (encryptor : OperationPayloadEncryptor)
    (record : BridgeOperationRecord) (encrypted : EncryptedOperationPayload)
    (fence : PollerRuntimeFence) : AppResult OperationRecoveryPayload := do
  let plaintext ← encryptor.decrypt lib encrypted (recordAad lib record fence)
  decodeRecoveryPayload lib record plaintext

/-- The payload of the record under a key: the checks on the record and the fence, and the
decryption. -/
def openRecoveryPayload (encryptor : OperationPayloadEncryptor) (record : BridgeOperationRecord)
    (fence : PollerRuntimeFence) : AppResult OperationRecoveryPayload := do
  let encrypted ← recoveryPayload record
  if !fence.isValid || fence.internalBotId ≠ record.botId then
    .error (.conflict "PAYLOAD_AAD_INVALID"
      "operation recovery fence does not match the historical operation")
  else decodeAndValidateRecoveryPayload lib encryptor record encrypted fence

theorem decodePayload_of_decodeRecoveryPayload {record : BridgeOperationRecord} {plaintext : Bytes}
    {payload : OperationRecoveryPayload}
    (h : decodeRecoveryPayload lib record plaintext = .ok payload) :
    lib.decodePayload plaintext = some payload := by
  unfold decodeRecoveryPayload at h
  split at h
  · cases h
  · rename_i decoded hdecoded
    obtain ⟨-, -, h⟩ := exists_of_bind_eq_ok h
    split at h
    · cases h
    · rw [hdecoded, Except.ok.inj h]

/-- A payload that is opened was decrypted and decoded. -/
theorem decodePayload_of_openRecoveryPayload {encryptor : OperationPayloadEncryptor}
    {record : BridgeOperationRecord} {fence : PollerRuntimeFence}
    {payload : OperationRecoveryPayload}
    (h : openRecoveryPayload lib encryptor record fence = .ok payload) :
    ∃ plaintext, lib.decodePayload plaintext = some payload := by
  unfold openRecoveryPayload at h
  obtain ⟨encrypted, -, h⟩ := exists_of_bind_eq_ok h
  split at h
  · cases h
  · unfold decodeAndValidateRecoveryPayload at h
    obtain ⟨plaintext, -, h⟩ := exists_of_bind_eq_ok h
    exact ⟨plaintext, decodePayload_of_decodeRecoveryPayload lib h⟩

def decryptRecoveryPayloadForOperation (record : BridgeOperationRecord)
    (fence : PollerRuntimeFence) : AppTask OperationRecoveryPayload := do
  let encryptor ← restorePayloadEncryptorForOperation self record.id
  Fallible.ofExcept (openRecoveryPayload lib encryptor record fence)

end Payload

/-! ## Before the write -/

/-- A failed generation ends the operation; the error is the original one, if that was recorded. -/
def settleGenerationFailure (operationId : String) (error : StBridgeError) :
    BridgeTask StBridgeError := do
  match ← (markFailed operationId error.stage.asStr error.code.asStr error.safeMessage
      error.retryable).run with
  | .ok _ => return error
  | .error persistenceError =>
    return operationStatePersistenceError operationId error.code persistenceError .notStarted

/-! ## Recording an outcome -/

section Record

variable (lib : Primitives) (operationId : String)

/-- The write was not applied: the operation fails with the error, if that can be recorded. -/
def recordNotApplied (summary : String) (error : StBridgeError) : StTask StCommitResult := do
  match ← (markFailedWithState operationId "commit" StErrorCode.stCommitFailed.asStr summary false
      .notApplied).attempt with
  | .ok _ => throw error
  | .error persistenceError =>
    throw (operationStatePersistenceError operationId error.code persistenceError .notApplied)

/-- It is not known whether the write was applied. -/
def recordUnknown : StTask StCommitResult := do
  match ← (markCommitUnknown operationId).attempt with
  | .ok _ => throw (unknownCommitError operationId)
  | .error persistenceError =>
    throw (operationStatePersistenceError operationId .stCommitStateUnknown persistenceError
      .unknown)

/-- The write was applied, as the live path records it: a failure to do so leaves it unknown. -/
def recordApplied (result : StCommitResult) : StTask StCommitResult := do
  match lib.encodeResult result with
  | none => throw (unknownCommitError operationId)
  | some encoded =>
    match ← (markCommittedWithState operationId encoded .notStarted).attempt with
    | .ok _ => return result
    | .error error =>
      match ← (markCommitUnknown operationId).attempt with
      | .ok _ =>
        throw (operationStatePersistenceError operationId .stCommitStateUnknown error .unknown)
      | .error persistenceError =>
        throw (operationStatePersistenceError operationId .stCommitStateUnknown persistenceError
          .unknown)

/-- The write was applied, as a replay records it: a failure to do so is only reported. -/
def recordReplayed (result : StCommitResult) : StTask StCommitResult := do
  match lib.encodeResult result with
  | none => throw (unknownCommitError operationId)
  | some encoded =>
    let _ ← (markCommittedWithState operationId encoded .notStarted).mapError fun _ =>
      unknownCommitError operationId
    return result

/-- The summaries with which a write is recorded as failed. -/
structure Summaries where
  notApplied : String
  rejected : String

def commitSummaries : Summaries :=
  ⟨"commit was not applied", "commit was rejected before mutation"⟩

def createSummaries : Summaries :=
  ⟨"create was not applied", "create was rejected before mutation"⟩

def replaySummaries : Summaries :=
  ⟨"replayed commit was not applied", "replayed commit was rejected before mutation"⟩

/-- What is recorded of the outcome of a write. -/
def recordOutcome (summaries : Summaries) (applied : StCommitResult → StTask StCommitResult)
    (outcome : StResult StCommitResult) : StTask StCommitResult :=
  match outcome with
  | .ok result =>
    match result.status with
    | .applied | .alreadyApplied => applied result
    | .notApplied =>
      recordNotApplied operationId summaries.notApplied (notAppliedError lib operationId)
    | .unknown => recordUnknown operationId
  | .error error =>
    if error.commitState = .notApplied then
      recordNotApplied operationId summaries.rejected error
    else recordUnknown operationId

end Record

/-! ## Writes -/

section Writes

variable (lib : Primitives) (self : OperationCoordinator)

def markCommitting (operationId : String) : StTask BridgeOperationRecord :=
  (OperationStore.markCommitting operationId).mapError (bridgeErrorFromApp operationId)

/-- The backend's method for the command, for an operation. -/
def invoke (operationId : String) (command : BackendCommand) :
    BridgeTask (StResult StCommitResult) := do
  ask (.invoke operationId command)
  (self.backend command).run

/-- The shape of the writes: win the operation, invoke the backend, record the outcome. -/
def perform (operationId : String) (command : BackendCommand) (summaries : Summaries)
    (applied : StCommitResult → StTask StCommitResult) : StTask StCommitResult := do
  let _ ← markCommitting operationId
  let outcome ← ExceptT.lift (invoke self operationId command)
  recordOutcome lib operationId summaries applied outcome

def create (command : CreateStChat) : StTask StCommitResult :=
  perform lib self command.operationId (.createChat command) createSummaries
    (recordApplied lib command.operationId)

def commit (operationId : String) (locator : StChatLocator)
    (expectedSha256 expectedIntegrity : String) (mutation : StMutation)
    (fence : PollerRuntimeFence) : StTask StCommitResult :=
  if !fence.isValid then throw (unknownCommitError operationId)
  else
    perform lib self operationId
      (.commit ⟨operationId, locator, expectedSha256, expectedIntegrity, mutation, fence⟩)
      commitSummaries (recordApplied lib operationId)

/-- The command that a payload stands for. -/
def replayCommand (record : BridgeOperationRecord) : OperationRecoveryPayload → BackendCommand
  | .create command => .createChat command
  | .append mutation expectedSha256 expectedIntegrity fence
  | .replace mutation expectedSha256 expectedIntegrity fence
  | .undo mutation expectedSha256 expectedIntegrity fence
  | .compress mutation expectedSha256 expectedIntegrity fence =>
    .commit ⟨record.id, record.locator, expectedSha256, expectedIntegrity, mutation, fence⟩

def replayGenerated (record : BridgeOperationRecord) (internalBotId : String)
    (fence : PollerRuntimeFence) : StTask StCommitResult :=
  if !fence.isValid || isBlank internalBotId || internalBotId ≠ record.botId ||
      fence.internalBotId ≠ record.botId then
    throw (bridgeErrorFromApp record.id (.conflict "PAYLOAD_AAD_INVALID"
      "operation replay bot identity does not match the historical operation"))
  else if record.status ≠ .generated then throw (unknownCommitError record.id)
  else do
    let payload ← (decryptRecoveryPayloadForOperation lib self record fence).mapError
      (bridgeErrorFromApp record.id)
    perform lib self record.id (replayCommand record payload) replaySummaries
      (recordReplayed lib record.id)

end Writes

/-! ## Reconciliation -/

/-- The result that a journal entry stands for. -/
def journalResult (journal : StOperationJournalRecord) : Json :=
  .object [("status", .string "already_applied"),
    ("newSha256", (journal.afterSha256.map Json.string).getD .null),
    ("newIntegrity", (journal.afterIntegrity.map Json.string).getD .null),
    ("byteLength", (journal.afterByteLength.map fun n => Json.int n).getD .null),
    ("messageCount", (journal.afterMessageCount.map fun n => Json.int n).getD .null)]

def identityMatches (journal : StOperationJournalRecord)
    (operationId locatorHash mutationDigest : String) : Bool :=
  journal.operationId == operationId && journal.locatorHash == locatorHash &&
    journal.mutationDigest == mutationDigest

/-- What is done with a journal entry of the operation. -/
def confirm (lib : Primitives) (record : BridgeOperationRecord)
    (locatorHash mutationDigest : String)
    (journal : StOperationJournalRecord) : AppTask (Option BridgeOperationRecord) :=
  if !identityMatches journal record.id locatorHash mutationDigest then
    throw (.conflict "ST_OPERATION_ID_REUSED" "operation journal identity does not match")
  else if journal.status ≠ .applied then pure none
  else do
    let encoded := (fromUtf8 (lib.renderJson (journalResult journal))).getD ""
    return some (← markCommittedWithState record.id encoded record.commitState)

def reconcileCommit (lib : Primitives) (record : BridgeOperationRecord) (locatorHash : String) :
    AppTask (Option BridgeOperationRecord) :=
  if (record.status = .committed ∨ record.status = .delivered) ∧ record.commitState = .applied then
    pure (some record)
  else if record.status ≠ .committing then pure none
  else match record.mutationDigest with
    | none => pure none
    | some mutationDigest => do
      match ← ExceptT.mk (ask (.journalLookup record.id)) with
      | none => pure none
      | some journal => confirm lib record locatorHash mutationDigest journal

end OperationCoordinator

end ImBridge
