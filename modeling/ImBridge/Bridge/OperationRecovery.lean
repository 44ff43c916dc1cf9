import ImBridge.Bridge.OperationCoordinator

/-!
# Recovery of operations

When a runtime takes over a bot, it looks at the operations that an earlier one has left behind:
those that were generated are written from their stored payload, and those that wait for the outcome
of a write are reconciled with the journal of the Connector. Each is worked on under a lease. What
goes wrong with one operation is only logged; a lease that is lost ends the recovery.

## Main definitions

* `OperationRecovery.recoverRecord`: what is done with one operation
* `OperationRecovery.recoverEach`: the loop over the operations
* `OperationRecovery.recoverForBot`: recovery
-/

namespace ImBridge

open Interleaving OperationStore

namespace OperationRecovery

variable (lib : Primitives) (coordinator : OperationCoordinator) (guard : PollerOwnershipGuard)

def fenceRejected (error : String) : AppError :=
  .conflict "ST_POLLER_EPOCH_MISMATCH" ("operation recovery fence rejected: " ++ error)

def replayFailed (id : String) (error : StBridgeError) : AppError :=
  .badGateway "OPERATION_RECOVERY_REPLAY_FAILED"
    ("operation " ++ id ++ " replay failed: " ++ error.code.asStr)

def reconcileFailed (id : String) (error : AppError) : AppError :=
  .badGateway "OPERATION_RECOVERY_RECONCILE_FAILED"
    ("operation " ++ id ++ " reconciliation failed: " ++ error.code)

/-- The write of a record, by its status. -/
def rewrite (internalBotId : String) (fence : PollerRuntimeFence) (record : BridgeOperationRecord) :
    AppTask Bool :=
  match record.status with
  | .generated => do
    let _ ← (coordinator.replayGenerated lib record internalBotId fence).mapError
      (replayFailed record.id)
    return true
  | .committing => do
    let outcome ← (OperationCoordinator.reconcileCommit lib record
      (locatorHash lib record.locator.handle record.locator.avatar
        record.locator.chatFile)).mapError (reconcileFailed record.id)
    return outcome.isSome
  | _ => pure false

/-- What is done with one operation: whether it was recovered. -/
def recoverRecord (internalBotId : String) (fence : PollerRuntimeFence)
    (record : BridgeOperationRecord) : AppTask Bool := do
  Fallible.mapError fenceRejected (ExceptT.mk (ask .assertCommitFence))
  rewrite lib coordinator internalBotId fence record

def releaseLease (lease : OperationExecutionLease) : AppTask Unit := do
  if ← releaseExecutionLease lease then return ()
  else throw (.conflict "OPERATION_LEASE_LOST" "operation execution lease changed before release")

/-- One round of the loop: the id of the operation, if it was recovered. -/
def recoverLeased (internalBotId leaseUntil : String) (fence : PollerRuntimeFence)
    (record : BridgeOperationRecord) : AppTask (Option String) := do
  match ← tryAcquireExecutionLease record.id internalBotId guard.runtimeInstanceId leaseUntil with
  | none => pure none
  | some lease =>
    let result ← (recoverRecord lib coordinator internalBotId fence record).attempt
    releaseLease lease
    match result with
    | .ok true => return some record.id
    | _ => return none

/-- The loop over the operations. -/
def recoverEach (internalBotId leaseUntil : String) (fence : PollerRuntimeFence) :
    List BridgeOperationRecord → AppTask (List String)
  | [] => pure []
  | record :: records => do
    let recovered ← recoverLeased lib coordinator guard internalBotId leaseUntil fence record
    let rest ← recoverEach internalBotId leaseUntil fence records
    return recovered.toList ++ rest

/-- How many operations one recovery looks at. -/
def recoveryLimit : ℕ := 128

def requireFence (lifecycle : PollerLifecycle) : AppResult PollerRuntimeFence :=
  match guard.fenceIn lifecycle with
  | some fence => .ok fence
  | none =>
    .error (.serviceUnavailable "ST_POLLER_EPOCH_MISMATCH"
      "operation recovery requires a running runtime fence")

def requireDeadline (deadline : Option String) : AppResult String :=
  match deadline with
  | some leaseUntil => .ok leaseUntil
  | none => .error (.internal "operation lease deadline format failed")

def recoverForBot (internalBotId : String) : AppTask (List String) :=
  if isBlank internalBotId || guard.internalBotId ≠ internalBotId then
    throw (.badRequest "OPERATION_RECOVERY_SCOPE_INVALID" "operation recovery bot scope is invalid")
  else do
    let lifecycle ← ask .currentLifecycle
    let fence ← Fallible.ofExcept (requireFence guard lifecycle)
    let deadline ← ask (.rfc3339After 60)
    let leaseUntil ← Fallible.ofExcept (requireDeadline deadline)
    let records ← listRecoveryCandidatesForBot internalBotId recoveryLimit
    recoverEach lib coordinator guard internalBotId leaseUntil fence records

end OperationRecovery

end ImBridge
