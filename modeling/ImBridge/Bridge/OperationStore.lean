import ImBridge.System

/-!
# The operation store

The functions of the store, each a task that issues one or two statements. An update reads the
clock, issues its guarded `UPDATE`, and takes any other count than one for a lost race; then it
reads the row back.

## Main definitions

* `claimOperation`, `OperationClaimError`: claiming an operation
* `applyUpdate`: the shape of the updates, with `updateSnapshotReady` to `markCommitUnknown`
* `getOperationKeyReference`, `putOperationKeyReference`: the key of an operation
* `tryAcquireExecutionLease`, `releaseExecutionLease`: the lease under which recovery works
* `listRecoveryCandidatesForBot`: what recovery looks at
-/

namespace ImBridge

open Interleaving
open Fallible (uses_bind uses_lift uses_mapError uses_ofExcept uses_pure uses_throw)

namespace OperationStore

def getOperation (id : String) : AppTask (Option BridgeOperationRecord) := do
  match ← sql (.selectOperation id) with
  | none => pure none
  | some row => return some (← Fallible.ofExcept row.intoRecord)

def getByClaim (botId : String) (updateId : ℤ) (kind : String) :
    AppTask (Option BridgeOperationRecord) := do
  match ← sql (.selectByClaim botId updateId kind) with
  | none => pure none
  | some row => return some (← Fallible.ofExcept row.intoRecord)

/-! ## Claims -/

inductive OperationClaimError
  | duplicateClaim (record : BridgeOperationRecord)
  | failed (error : AppError)

/-- The record was claimed by this request. -/
def matchesClaim (self : BridgeOperationRecord) (request : ClaimOperationRequest) : Bool :=
  (isBlank request.id || self.id == request.id) && self.actorId == request.actorId &&
    self.botId == request.botId && self.telegramUpdateId == request.telegramUpdateId &&
    self.channelContextKey == request.channelContextKey &&
    self.operationKind == request.operationKind &&
    self.locator.handle == request.locator.handle &&
    self.locator.avatar == request.locator.avatar &&
    self.locator.chatFile == request.locator.chatFile

/-- What a claim makes of an operation that is already there. -/
def duplicateClaim (request : ClaimOperationRequest) :
    Fallible bridgeCalls OperationClaimError BridgeOperationRecord := do
  let existing ← (getByClaim request.botId request.telegramUpdateId request.operationKind).mapError
    OperationClaimError.failed
  match existing with
  | none =>
    throw (.failed (.conflict "BRIDGE_OPERATION_DUPLICATE_CLAIM"
      "duplicate claim unique constraint fired but existing row was not found"))
  | some existing =>
    if matchesClaim existing request then throw (.duplicateClaim existing)
    else throw (.failed (.conflict "ST_OPERATION_ID_REUSED"
      "operation identity does not match the existing claim"))

/-- The id of a claimed operation: the requested one, unless that is blank. -/
def claimId (request : ClaimOperationRequest) : BridgeTask String :=
  if isBlank request.id then ask .newId else pure request.id

def claimOperation (request : ClaimOperationRequest) :
    Fallible bridgeCalls OperationClaimError BridgeOperationRecord := do
  let id ← claimId request
  let now ← ask .nowRfc3339
  match ← ask (.sql (.insertOperation request id now)) with
  | .ok _ =>
    match ← (getOperation id).mapError OperationClaimError.failed with
    | some record => pure record
    | none => throw (.failed (.internal "claimed operation missing after insert"))
  | .error .uniqueViolation => duplicateClaim request
  | .error .other => throw (.failed .database)

/-! ## Updates -/

def assertCas (affected : ℕ) (id expectedFrom expectedTo : String) :
    AppTask BridgeOperationRecord := do
  if affected ≠ 1 then
    throw (.conflict "BRIDGE_OPERATION_CAS_CONFLICT"
      s!"operation {id} rejected transition {expectedFrom} -> {expectedTo}")
  match ← getOperation id with
  | some record => pure record
  | none => throw (.internal "operation missing after cas update")

/-- The shape of the updates: the clock, the guarded update, and the check that it changed one
row. -/
def applyUpdate (u : OperationUpdate) (id expectedFrom expectedTo : String) :
    AppTask BridgeOperationRecord := do
  let now ← ask .nowRfc3339
  let affected ← sql (.updateOperation u id now)
  assertCas affected id expectedFrom expectedTo

def updateSnapshotReady (id : String) (sourceSha256 sourceIntegrity : Option String)
    (sourceSize messageCount : Option ℤ) : AppTask BridgeOperationRecord :=
  applyUpdate (.snapshotReady sourceSha256 sourceIntegrity sourceSize messageCount) id "received"
    "snapshot_ready"

def updateGenerating (id : String) : AppTask BridgeOperationRecord :=
  applyUpdate .generating id "snapshot_ready" "generating"

def updateGenerated (id : String) (payload : EncryptedOperationPayload) (mutationDigest : String) :
    AppTask BridgeOperationRecord :=
  applyUpdate (.generated payload mutationDigest) id "snapshot_ready|generating" "generated"

def markCommitting (id : String) : AppTask BridgeOperationRecord :=
  applyUpdate .committing id "generated" "committing"

def markCommittedWithState (id connectorResultJson : String)
    (expectedCommitState : OperationCommitState) : AppTask BridgeOperationRecord :=
  applyUpdate (.committed connectorResultJson expectedCommitState) id
    ("committing/" ++ expectedCommitState.asStr) "committed/applied"

def markDelivered (id : String) : AppTask BridgeOperationRecord :=
  applyUpdate .delivered id "committed" "delivered"

def markConflict (id errorSummary : String) : AppTask BridgeOperationRecord :=
  applyUpdate (.conflict errorSummary) id "committing" "conflict"

def markFailedWithState (id errorStage errorCode errorSummary : String) (retryable : Bool)
    (commitState : OperationCommitState) : AppTask BridgeOperationRecord :=
  applyUpdate (.failed errorStage errorCode errorSummary retryable commitState) id "pre-commit"
    "failed"

def markFailed (id errorStage errorCode errorSummary : String) (retryable : Bool) :
    AppTask BridgeOperationRecord :=
  markFailedWithState id errorStage errorCode errorSummary retryable .notStarted

def markInterrupted (id : String) : AppTask BridgeOperationRecord :=
  applyUpdate .interrupted id "generating" "interrupted"

def markCommitUnknown (id : String) : AppTask BridgeOperationRecord :=
  applyUpdate .commitUnknown id "committing" "committing(unknown)"

def interruptStaleGenerating (cutoff : String) : AppTask (List String) := do
  let now ← ask .nowRfc3339
  sql (.interruptStaleGenerating cutoff now)

/-! ## Key references -/

structure OperationKeyReference where
  wrappedSecretId : String
  keyVersion : UInt32
  deriving DecidableEq

/-- The reference a row stands for, if it is well formed. -/
def keyReferenceOfRow (row : OperationKeyRefRow) : AppResult OperationKeyReference :=
  if isBlank row.wrappedSecretId then
    .error (.internal "operation wrapped secret reference is invalid")
  else if 0 < row.keyVersion ∧ row.keyVersion < 2 ^ 32 then
    .ok ⟨row.wrappedSecretId, UInt32.ofNat row.keyVersion.toNat⟩
  else .error (.internal "operation key version is invalid")

def getOperationKeyReference (id : String) : AppTask (Option OperationKeyReference) := do
  match ← sql (.selectKeyReference id) with
  | none => pure none
  | some row => return some (← Fallible.ofExcept (keyReferenceOfRow row))

def putOperationKeyReference (id wrappedSecretId : String) (keyVersion : UInt32) :
    AppTask Unit := do
  if isBlank id || isBlank wrappedSecretId || keyVersion == 0 then
    throw (.badRequest "PAYLOAD_KEY_REFERENCE_INVALID"
      "operation wrapped secret reference is invalid")
  let now ← ask .nowRfc3339
  let inserted ← sql (.insertKeyReference id wrappedSecretId keyVersion.toNat now)
  if inserted = 1 then return ()
  match ← getOperationKeyReference id with
  | none => throw (.internal "operation key reference disappeared after conflict")
  | some existing =>
    if existing.wrappedSecretId ≠ wrappedSecretId ∨ existing.keyVersion ≠ keyVersion then
      throw (.conflict "PAYLOAD_KEY_REFERENCE_CONFLICT"
        "operation already has a different wrapped key reference")

/-! ## Leases and recovery candidates -/

structure OperationExecutionLease where
  operationId : String
  instanceId : String
  leaseGeneration : ℕ
  leaseUntil : String
  deriving DecidableEq

/-- The lease a row stands for, if its generation is well formed. -/
def leaseOfRow (row : OperationLeaseRow) : AppResult OperationExecutionLease :=
  if 0 < row.leaseGeneration then
    .ok ⟨row.operationId, row.instanceId, row.leaseGeneration.toNat, row.leaseUntil⟩
  else .error (.internal "operation lease generation is invalid")

def tryAcquireExecutionLease (operationId botId instanceId leaseUntil : String) :
    AppTask (Option OperationExecutionLease) := do
  if isBlank operationId || isBlank botId || isBlank instanceId || isBlank leaseUntil then
    throw (.badRequest "OPERATION_LEASE_INVALID" "operation execution lease identity is incomplete")
  let now ← ask .nowRfc3339
  match ← sql (.acquireLease operationId botId instanceId leaseUntil now) with
  | none => pure none
  | some row => return some (← Fallible.ofExcept (leaseOfRow row))

def releaseExecutionLease (lease : OperationExecutionLease) : AppTask Bool := do
  if lease.leaseGeneration < 2 ^ 63 then
    let released ← sql (.releaseLease lease.operationId lease.instanceId lease.leaseGeneration)
    return released = 1
  else throw (.internal "operation lease generation is invalid")

def listRecoveryCandidatesForBot (botId : String) (limit : ℕ) :
    AppTask (List BridgeOperationRecord) := do
  if isBlank botId then
    throw (.badRequest "OPERATION_BOT_ID_REQUIRED" "operation recovery bot id is required")
  let rows ← sql (.selectRecoveryCandidates botId (max 1 (min limit 256)))
  Fallible.ofExcept (rows.mapM OperationRow.intoRecord)

/-! ## Footprints -/

section Footprints

variable {P : Call → Prop} {id : String}

theorem uses_ask {c : Call} (h : P c) : (ask c).Uses P := ⟨h, fun _ => trivial⟩

theorem uses_sql {s : Statement} (h : P (.sql s)) : (sql s).run.Uses P :=
  Program.uses_bind (uses_ask h) fun _ => Program.uses_ret _

theorem uses_getOperation (h : P (.sql (.selectOperation id))) : (getOperation id).run.Uses P := by
  refine uses_bind (uses_sql h) fun row => ?_
  cases row with
  | none => exact uses_pure _
  | some row => exact uses_bind (uses_ofExcept _) fun _ => uses_pure _

theorem uses_getByClaim {botId kind : String} {updateId : ℤ}
    (h : P (.sql (.selectByClaim botId updateId kind))) :
    (getByClaim botId updateId kind).run.Uses P := by
  refine uses_bind (uses_sql h) fun row => ?_
  cases row with
  | none => exact uses_pure _
  | some row => exact uses_bind (uses_ofExcept _) fun _ => uses_pure _

theorem uses_applyUpdate {u : OperationUpdate} {expectedFrom expectedTo : String}
    (hclock : P .nowRfc3339) (hupdate : ∀ now, P (.sql (.updateOperation u id now)))
    (hread : P (.sql (.selectOperation id))) :
    (applyUpdate u id expectedFrom expectedTo).run.Uses P := by
  refine uses_bind (uses_lift (uses_ask hclock)) fun now => ?_
  refine uses_bind (uses_sql (hupdate now)) fun affected => ?_
  unfold assertCas
  split
  · exact uses_throw _
  · refine uses_bind (uses_getOperation hread) fun record => ?_
    cases record with
    | none => exact uses_throw _
    | some record => exact uses_pure _

theorem uses_claimOperation {request : ClaimOperationRequest} (hid : P .newId)
    (hclock : P .nowRfc3339) (hinsert : ∀ id now, P (.sql (.insertOperation request id now)))
    (hread : ∀ id, P (.sql (.selectOperation id)))
    (hclaim : P (.sql (.selectByClaim request.botId request.telegramUpdateId
      request.operationKind))) : (claimOperation request).run.Uses P := by
  have hdup : (duplicateClaim request).run.Uses P := by
    refine uses_bind (uses_mapError (uses_getByClaim hclaim)) fun existing => ?_
    cases existing with
    | none => exact uses_throw _
    | some existing => dsimp only; split <;> exact uses_throw _
  have hname : (claimId request).Uses P := by
    unfold claimId
    split
    · exact uses_ask hid
    · exact Program.uses_ret _
  refine uses_bind (uses_lift hname) fun id => ?_
  refine uses_bind (uses_lift (uses_ask hclock)) fun now => ?_
  refine uses_bind (uses_lift (uses_ask (hinsert id now))) fun inserted => ?_
  match inserted with
  | .ok _ =>
    refine uses_bind (uses_mapError (uses_getOperation (hread id))) fun record => ?_
    cases record with
    | none => exact uses_throw _
    | some record => exact uses_pure _
  | .error .uniqueViolation => exact hdup
  | .error .other => exact uses_throw _

theorem uses_getOperationKeyReference (h : P (.sql (.selectKeyReference id))) :
    (getOperationKeyReference id).run.Uses P := by
  refine uses_bind (uses_sql h) fun row => ?_
  cases row with
  | none => exact uses_pure _
  | some row => exact uses_bind (uses_ofExcept _) fun _ => uses_pure _

theorem uses_putOperationKeyReference {secretId : String} {version : UInt32}
    (hclock : P .nowRfc3339)
    (hinsert : ∀ now, P (.sql (.insertKeyReference id secretId version.toNat now)))
    (hread : P (.sql (.selectKeyReference id))) :
    (putOperationKeyReference id secretId version).run.Uses P := by
  unfold putOperationKeyReference
  split
  · exact uses_throw _
  · refine uses_bind (uses_lift (uses_ask hclock)) fun now => ?_
    refine uses_bind (uses_sql (hinsert now)) fun inserted => ?_
    split
    · exact uses_pure _
    · refine uses_bind (uses_getOperationKeyReference hread) fun existing => ?_
      cases existing with
      | none => exact uses_throw _
      | some existing =>
        dsimp only
        split
        · exact uses_throw _
        · exact uses_pure _

end Footprints

end OperationStore

end ImBridge
