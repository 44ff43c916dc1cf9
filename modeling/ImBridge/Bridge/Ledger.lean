import ImBridge.Bridge.Operations
import ImBridge.Relational.Table
import Mathlib.Data.List.Sort

/-!
# The operation tables and their statements

The three tables that the operation store works on, and every statement it issues against them,
each of which is atomic. An update is a guard (its `WHERE` clause) with an assignment (its `SET`
clause); it answers with the number of rows it changed.

## Main definitions

* `OperationRow`, `OperationKeyRefRow`, `OperationLeaseRow`, `Ledger`: the tables
* `OperationRow.intoRecord`: the record of a row
* `OperationUpdate`: the updates of one operation, with `guard` and `set`
* `Statement`, `Statement.exec`: the statements and their effect

## Main results

* `Ledger.rowStep_exec`: what a statement does to the row of an operation
* `Ledger.exec_update_eq_one_iff`: when an update answers that it changed one row
* `Ledger.keyRef?_exec`: key references are never changed or removed
-/

namespace ImBridge

open Relational

structure OperationRow where
  id : String
  actorId : String
  botId : String
  telegramUpdateId : ℤ
  channelContextKey : String
  operationKind : String
  stHandle : Option String
  stCharacterAvatar : Option String
  stChatFile : Option String
  status : BridgeOperationStatus
  sourceSha256 : Option String
  sourceIntegrity : Option String
  sourceSize : Option ℤ
  messageCount : Option ℤ
  operationPayloadCiphertext : Option Bytes
  operationPayloadNonce : Option Bytes
  operationPayloadKeyVersion : Option ℤ
  mutationDigest : Option String
  connectorResultJson : Option String
  errorStage : Option String
  errorCode : Option String
  errorSummary : Option String
  retryable : Bool
  commitState : OperationCommitState
  attemptCount : ℤ
  requestId : Option String
  traceId : Option String
  createdAt : String
  updatedAt : String
  deriving DecidableEq

/-- The primary key, and the key (`bot_id`, `telegram_update_id`, `operation_kind`). -/
def OperationRow.Clash (r s : OperationRow) : Prop :=
  r.id = s.id ∨ (r.botId = s.botId ∧ r.telegramUpdateId = s.telegramUpdateId ∧
    r.operationKind = s.operationKind)

instance : DecidableRel OperationRow.Clash := fun _ _ => inferInstanceAs (Decidable (_ ∨ _))

structure OperationKeyRefRow where
  operationId : String
  wrappedSecretId : String
  keyVersion : ℤ
  createdAt : String
  updatedAt : String
  deriving DecidableEq

def OperationKeyRefRow.Clash (r s : OperationKeyRefRow) : Prop := r.operationId = s.operationId

instance : DecidableRel OperationKeyRefRow.Clash := fun _ _ => inferInstanceAs (Decidable (_ = _))

structure OperationLeaseRow where
  operationId : String
  instanceId : String
  leaseGeneration : ℤ
  leaseUntil : String
  createdAt : String
  updatedAt : String
  deriving DecidableEq

def OperationLeaseRow.Clash (r s : OperationLeaseRow) : Prop := r.operationId = s.operationId

instance : DecidableRel OperationLeaseRow.Clash := fun _ _ => inferInstanceAs (Decidable (_ = _))

/-- The tables `bridge_operations`, `operation_key_refs` and `operation_execution_leases`. -/
structure Ledger where
  operations : Table OperationRow OperationRow.Clash
  keyRefs : Table OperationKeyRefRow OperationKeyRefRow.Clash
  leases : Table OperationLeaseRow OperationLeaseRow.Clash

namespace Ledger

def empty : Ledger := ⟨.empty, .empty, .empty⟩

/-- The row of the operation `id`. -/
def operation? (db : Ledger) (id : String) : Option OperationRow :=
  db.operations.rows.find? (·.id == id)

/-- The key reference of the operation `id`. -/
def keyRef? (db : Ledger) (id : String) : Option OperationKeyRefRow :=
  db.keyRefs.rows.find? (·.operationId == id)

/-- A key reference of this version exists for the operation. -/
def hasKeyRef (db : Ledger) (id : String) (keyVersion : ℤ) : Bool :=
  db.keyRefs.rows.any fun k => k.operationId == id && k.keyVersion == keyVersion

end Ledger

/-! ## Records of rows -/

def mapPayload (ciphertext nonce : Option Bytes) (keyVersion : Option ℤ) :
    AppResult (Option EncryptedOperationPayload) :=
  match ciphertext, nonce, keyVersion with
  | none, none, none => .ok none
  | some ciphertext, some nonce, some keyVersion =>
    if h : nonce.length = 24 then
      if 0 ≤ keyVersion ∧ keyVersion < 2 ^ 32 then
        .ok (some ⟨ciphertext, ⟨nonce, h⟩, UInt32.ofNat keyVersion.toNat⟩)
      else .error (.internal "operation payload key_version is invalid")
    else .error (.internal "operation payload nonce has invalid length")
  | _, _, _ =>
    .error (.internal "operation payload ciphertext/nonce/key_version are inconsistent")

def OperationRow.intoRecord (self : OperationRow) : AppResult BridgeOperationRecord := do
  let payload ← mapPayload self.operationPayloadCiphertext self.operationPayloadNonce
    self.operationPayloadKeyVersion
  if 0 ≤ self.attemptCount ∧ self.attemptCount < 2 ^ 32 then
    .ok { id := self.id
          actorId := self.actorId
          botId := self.botId
          telegramUpdateId := self.telegramUpdateId
          channelContextKey := self.channelContextKey
          operationKind := self.operationKind
          locator :=
            { handle := self.stHandle.getD ""
              avatar := self.stCharacterAvatar.getD ""
              characterName := ""
              chatFile := self.stChatFile.getD "" }
          status := self.status
          commitState := self.commitState
          sourceSha256 := self.sourceSha256
          sourceIntegrity := self.sourceIntegrity
          sourceSize := self.sourceSize
          messageCount := self.messageCount
          mutationDigest := self.mutationDigest
          payload := payload
          connectorResultJson := self.connectorResultJson
          errorStage := self.errorStage
          errorCode := self.errorCode
          errorSummary := self.errorSummary
          retryable := self.retryable
          attemptCount := UInt32.ofNat self.attemptCount.toNat
          requestId := self.requestId.getD ""
          traceId := self.traceId.getD ""
          createdAt := self.createdAt
          updatedAt := self.updatedAt }
  else .error (.internal "operation attempt count is invalid")

/-! ## Claims and updates -/

structure ClaimOperationRequest where
  id : String
  actorId : String
  botId : String
  telegramUpdateId : ℤ
  channelContextKey : String
  operationKind : String
  locator : StChatLocator
  requestId : String
  traceId : String
  deriving DecidableEq

/-- The row that a claim inserts. -/
def ClaimOperationRequest.row (request : ClaimOperationRequest) (id now : String) :
    OperationRow where
  id := id
  actorId := request.actorId
  botId := request.botId
  telegramUpdateId := request.telegramUpdateId
  channelContextKey := request.channelContextKey
  operationKind := request.operationKind
  stHandle := some request.locator.handle
  stCharacterAvatar := some request.locator.avatar
  stChatFile := some request.locator.chatFile
  status := .received
  sourceSha256 := none
  sourceIntegrity := none
  sourceSize := none
  messageCount := none
  operationPayloadCiphertext := none
  operationPayloadNonce := none
  operationPayloadKeyVersion := none
  mutationDigest := none
  connectorResultJson := none
  errorStage := none
  errorCode := none
  errorSummary := none
  retryable := false
  commitState := .notStarted
  attemptCount := 1
  requestId := some request.requestId
  traceId := some request.traceId
  createdAt := now
  updatedAt := now

/-- The updates of one operation, by the status they lead to. -/
inductive OperationUpdate
  | snapshotReady (sourceSha256 sourceIntegrity : Option String)
    (sourceSize messageCount : Option ℤ)
  | generating
  | generated (payload : EncryptedOperationPayload) (mutationDigest : String)
  | committing
  | committed (connectorResultJson : String) (expected : OperationCommitState)
  | delivered
  | conflict (errorSummary : String)
  | failed (errorStage errorCode errorSummary : String) (retryable : Bool)
      (commitState : OperationCommitState)
  | interrupted
  | commitUnknown
  deriving DecidableEq

namespace OperationUpdate

/-- The `WHERE` clause beyond the id. -/
def guard (db : Ledger) (u : OperationUpdate) (r : OperationRow) : Bool :=
  match u with
  | snapshotReady .. => r.status == .received && r.commitState == .notStarted
  | generating => r.status == .snapshotReady && r.commitState == .notStarted
  | generated payload _ =>
    (r.status == .snapshotReady || r.status == .generating) && r.commitState == .notStarted &&
      db.hasKeyRef r.id payload.keyVersion.toNat
  | committing => r.status == .generated && r.commitState == .notStarted
  | committed _ expected => r.status == .committing && r.commitState == expected
  | delivered => r.status == .committed && r.commitState == .applied
  | conflict _ => r.status == .committing && r.commitState == .notStarted
  | failed .. =>
    (r.status == .received || r.status == .snapshotReady || r.status == .generating ||
      r.status == .generated || r.status == .committing) && r.commitState == .notStarted
  | interrupted => r.status == .generating && r.commitState == .notStarted
  | commitUnknown => r.status == .committing && r.commitState == .notStarted

/-- The `SET` clause. -/
def set (now : String) (u : OperationUpdate) (r : OperationRow) : OperationRow :=
  match u with
  | snapshotReady sha integrity size count =>
    { r with status := .snapshotReady, sourceSha256 := sha, sourceIntegrity := integrity,
             sourceSize := size, messageCount := count, updatedAt := now }
  | generating => { r with status := .generating, updatedAt := now }
  | generated payload digest =>
    { r with status := .generated, operationPayloadCiphertext := some payload.ciphertext,
             operationPayloadNonce := some payload.nonce.val,
             operationPayloadKeyVersion := some payload.keyVersion.toNat,
             mutationDigest := some digest, updatedAt := now }
  | committing => { r with status := .committing, updatedAt := now }
  | committed json _ =>
    { r with status := .committed, commitState := .applied, connectorResultJson := some json,
             updatedAt := now }
  | delivered => { r with status := .delivered, updatedAt := now }
  | conflict summary =>
    { r with status := .conflict, errorStage := some "commit",
             errorCode := some "ST_CHAT_CONFLICT", errorSummary := some summary,
             commitState := .notApplied, updatedAt := now }
  | failed stage code summary retryable commitState =>
    { r with status := .failed, errorStage := some stage, errorCode := some code,
             errorSummary := some summary, retryable := retryable, commitState := commitState,
             updatedAt := now }
  | interrupted => { r with status := .interrupted, updatedAt := now }
  | commitUnknown => { r with commitState := .unknown, updatedAt := now }

def change (now : String) (u : OperationUpdate) : Table.Change OperationRow OperationRow.Clash where
  set := u.set now
  left r s := by cases u <;> exact Iff.rfl
  right r s := by cases u <;> exact Iff.rfl

@[simp] theorem set_id (now : String) (u : OperationUpdate) (r : OperationRow) :
    (u.set now r).id = r.id := by cases u <;> rfl

end OperationUpdate

/-- The change that `interrupt_stale_generating` makes. -/
def interruptStale (now : String) : Table.Change OperationRow OperationRow.Clash where
  set r := { r with status := .interrupted, updatedAt := now }
  left _ _ := Iff.rfl
  right _ _ := Iff.rfl

/-! ## Statements -/

inductive SqlError
  | uniqueViolation
  | other
  deriving DecidableEq

inductive Statement
  | insertOperation (request : ClaimOperationRequest) (id now : String)
  | updateOperation (u : OperationUpdate) (id now : String)
  | interruptStaleGenerating (cutoff now : String)
  | selectOperation (id : String)
  | selectByClaim (botId : String) (updateId : ℤ) (kind : String)
  | selectRecoveryCandidates (botId : String) (limit : ℕ)
  | selectKeyReference (id : String)
  | insertKeyReference (id wrappedSecretId : String) (keyVersion : ℤ) (now : String)
  | acquireLease (operationId botId instanceId leaseUntil now : String)
  | releaseLease (operationId instanceId : String) (generation : ℤ)
  deriving DecidableEq

namespace Statement

/-- What a statement answers: the rows it selects, or how many it changed. -/
@[reducible] def Rows : Statement → Type
  | insertOperation .. => Unit
  | updateOperation .. => ℕ
  | interruptStaleGenerating .. => List String
  | selectOperation _ => Option OperationRow
  | selectByClaim .. => Option OperationRow
  | selectRecoveryCandidates .. => List OperationRow
  | selectKeyReference _ => Option OperationKeyRefRow
  | insertKeyReference .. => ℕ
  | acquireLease .. => Option OperationLeaseRow
  | releaseLease .. => ℕ

abbrev Reply (s : Statement) := Except SqlError s.Rows

/-- The rows that `list_recovery_candidates_for_bot` selects. -/
def isRecoveryCandidate (botId : String) (r : OperationRow) : Bool :=
  r.botId == botId && (r.status == .generated || r.status == .committing ||
    (r.status == .committed && r.commitState == .applied))

/-- `ORDER BY updated_at ASC, id ASC`. -/
def olderFirst (r s : OperationRow) : Prop :=
  r.updatedAt < s.updatedAt ∨ (r.updatedAt = s.updatedAt ∧ ¬ s.id < r.id)

instance : DecidableRel olderFirst := fun _ _ => inferInstanceAs (Decidable (_ ∨ _))

/-- The lease that `try_acquire_execution_lease` inserts when there is none. -/
def firstLease (operationId instanceId leaseUntil now : String) : OperationLeaseRow :=
  ⟨operationId, instanceId, 1, leaseUntil, now, now⟩

/-- Taking a lease over: from the same instance, or once it has run out. -/
def takeOver (instanceId leaseUntil now : String) :
    Table.Change OperationLeaseRow OperationLeaseRow.Clash where
  set l := { l with instanceId := instanceId, leaseGeneration := l.leaseGeneration + 1,
                    leaseUntil := leaseUntil, updatedAt := now }
  left _ _ := Iff.rfl
  right _ _ := Iff.rfl

def canTakeOver (operationId instanceId now : String) (l : OperationLeaseRow) : Bool :=
  l.operationId == operationId && (l.instanceId == instanceId || !decide (now < l.leaseUntil)) &&
    decide (l.leaseGeneration < 9223372036854775807)

/-- The effect of a statement that does not fail for reasons outside the tables. -/
def exec : (s : Statement) → Ledger → s.Reply × Ledger
  | insertOperation request id now, db =>
    match db.operations.insert? (request.row id now) with
    | some operations => (.ok (), { db with operations })
    | none => (.error .uniqueViolation, db)
  | updateOperation u id now, db =>
    let guard := fun r : OperationRow => r.id == id && u.guard db r
    (.ok (db.operations.affected guard),
      { db with operations := db.operations.update guard (u.change now) })
  | interruptStaleGenerating cutoff now, db =>
    let guard := fun r : OperationRow => r.status == .generating && decide (r.updatedAt < cutoff)
    (.ok ((db.operations.rows.filter guard).map (·.id)),
      { db with operations := db.operations.update guard (interruptStale now) })
  | selectOperation id, db => (.ok (db.operation? id), db)
  | selectByClaim botId updateId kind, db =>
    (.ok (db.operations.rows.find? fun r =>
      r.botId == botId && r.telegramUpdateId == updateId && r.operationKind == kind), db)
  | selectRecoveryCandidates botId limit, db =>
    (.ok (((db.operations.rows.filter (isRecoveryCandidate botId)).insertionSort olderFirst).take
      limit), db)
  | selectKeyReference id, db => (.ok (db.keyRef? id), db)
  | insertKeyReference id wrappedSecretId keyVersion now, db =>
    -- the reference's foreign key is the operation
    if (db.operation? id).isNone then (.error .other, db)
    else match db.keyRefs.insert? ⟨id, wrappedSecretId, keyVersion, now, now⟩ with
      | some keyRefs => (.ok (1 : ℕ), { db with keyRefs })
      | none => (.ok (0 : ℕ), db)
  | acquireLease operationId botId instanceId leaseUntil now, db =>
    if (db.operation? operationId).any (·.botId == botId) then
      match db.leases.insert? (firstLease operationId instanceId leaseUntil now) with
      | some leases => (.ok (some (firstLease operationId instanceId leaseUntil now)),
          { db with leases })
      | none =>
        let change := takeOver instanceId leaseUntil now
        (.ok ((db.leases.rows.find? (canTakeOver operationId instanceId now)).map change.set),
          { db with leases := db.leases.update (canTakeOver operationId instanceId now) change })
    else (.ok none, db)
  | releaseLease operationId instanceId generation, db =>
    let guard := fun l : OperationLeaseRow =>
      l.operationId == operationId && l.instanceId == instanceId && l.leaseGeneration == generation
    (.ok (db.leases.affected guard), { db with leases := db.leases.delete guard })

end Statement

/-! ## What a statement does to a row -/

namespace Ledger

theorem pins_id (id : String) : Table.Pins OperationRow.Clash (·.id == id) := by
  intro r s hr hs
  simp only [beq_iff_eq] at hr hs
  exact .inl (hr.trans hs.symm)

theorem pins_operationId (id : String) :
    Table.Pins OperationKeyRefRow.Clash (·.operationId == id) := by
  intro r s hr hs
  simp only [beq_iff_eq] at hr hs
  exact hr.trans hs.symm

variable {db : Ledger}

theorem id_of_operation? {id : String} {r : OperationRow} (h : db.operation? id = some r) :
    r.id = id := by
  simpa using List.find?_some h

theorem operationId_of_keyRef? {id : String} {k : OperationKeyRefRow} (h : db.keyRef? id = some k) :
    k.operationId = id := by
  simpa using List.find?_some h

/-- A version exists for the operation exactly when its one reference has that version. -/
theorem hasKeyRef_iff {id : String} {keyVersion : ℤ} :
    db.hasKeyRef id keyVersion = true ↔
      ∃ k, db.keyRef? id = some k ∧ k.keyVersion = keyVersion := by
  simp only [hasKeyRef, List.any_eq_true, Bool.and_eq_true, beq_iff_eq]
  constructor
  · rintro ⟨k, hk, hid, hv⟩
    exact ⟨k, (Table.find?_eq_some_iff (pins_operationId id) db.keyRefs).mpr
      ⟨hk, by simpa using hid⟩, hv⟩
  · rintro ⟨k, hk, hv⟩
    exact ⟨k, List.mem_of_find?_eq_some hk, operationId_of_keyRef? hk, hv⟩

/-- What a statement can do to the row of the operation `id`. -/
inductive RowStep (db : Ledger) (s : Statement) (id : String) :
    Option OperationRow → Option OperationRow → Prop
  | same (o : Option OperationRow) : RowStep db s id o o
  | claimed (request : ClaimOperationRequest) (now : String)
      (hs : s = .insertOperation request id now) :
      RowStep db s id none (some (request.row id now))
  | updated (u : OperationUpdate) (now : String) (r : OperationRow)
      (hs : s = .updateOperation u id now) (hg : u.guard db r = true) :
      RowStep db s id (some r) (some (u.set now r))
  | interrupted (cutoff now : String) (r : OperationRow)
      (hs : s = .interruptStaleGenerating cutoff now) (hg : r.status = .generating) :
      RowStep db s id (some r) (some ((interruptStale now).set r))

theorem operation?_update (db : Ledger) (u : OperationUpdate) (id now id' : String) :
    ((Statement.updateOperation u id now).exec db).2.operation? id' =
      (db.operation? id').map ((u.change now).on fun r => r.id == id && u.guard db r) :=
  Table.find?_update fun r => by simp [OperationUpdate.change]

theorem rowStep_insert (db : Ledger) (request : ClaimOperationRequest) (id now id' : String) :
    RowStep db (.insertOperation request id now) id' (db.operation? id')
      (((Statement.insertOperation request id now).exec db).2.operation? id') := by
  simp only [Statement.exec]
  cases hins : db.operations.insert? (request.row id now) with
  | none => exact .same _
  | some operations =>
    have hrows := (Table.insert?_eq_some hins).1
    simp only [operation?, hrows, List.find?_append]
    cases hold : db.operations.rows.find? (·.id == id') with
    | some r => exact .same _
    | none =>
      -- only the inserted row can be selected now
      by_cases hid : id = id'
      · subst hid
        simpa [ClaimOperationRequest.row] using RowStep.claimed request now rfl
      · simpa [ClaimOperationRequest.row, hid] using RowStep.same none

theorem rowStep_update (db : Ledger) (u : OperationUpdate) (id now id' : String) :
    RowStep db (.updateOperation u id now) id' (db.operation? id')
      (((Statement.updateOperation u id now).exec db).2.operation? id') := by
  rw [operation?_update]
  cases hold : db.operation? id' with
  | none => exact .same _
  | some r =>
    have hrid := id_of_operation? hold
    simp only [Option.map_some, Table.Change.on, OperationUpdate.change]
    split
    · rename_i hg
      simp only [Bool.and_eq_true, beq_iff_eq] at hg
      obtain ⟨hid, hguard⟩ := hg
      exact .updated u now r (by rw [← hrid, hid]) hguard
    · exact .same _

theorem rowStep_interrupt (db : Ledger) (cutoff now id' : String) :
    RowStep db (.interruptStaleGenerating cutoff now) id' (db.operation? id')
      (((Statement.interruptStaleGenerating cutoff now).exec db).2.operation? id') := by
  have hfind : ((Statement.interruptStaleGenerating cutoff now).exec db).2.operation? id' =
      (db.operation? id').map ((interruptStale now).on
        fun r => r.status == .generating && decide (r.updatedAt < cutoff)) :=
    Table.find?_update fun r => rfl
  rw [hfind]
  cases hold : db.operation? id' with
  | none => exact .same _
  | some r =>
    simp only [Option.map_some, Table.Change.on]
    split
    · rename_i hg
      simp only [Bool.and_eq_true, beq_iff_eq] at hg
      exact .interrupted cutoff now r rfl hg.1
    · exact .same _

/-- Statements that only read, or work on the other tables, leave the operations as they are. -/
theorem operations_exec (db : Ledger) (s : Statement) :
    (∃ request id now, s = .insertOperation request id now) ∨
      (∃ u id now, s = .updateOperation u id now) ∨
      (∃ cutoff now, s = .interruptStaleGenerating cutoff now) ∨
      (s.exec db).2.operations = db.operations := by
  cases s with
  | insertOperation request id now => exact .inl ⟨request, id, now, rfl⟩
  | updateOperation u id now => exact .inr (.inl ⟨u, id, now, rfl⟩)
  | interruptStaleGenerating cutoff now => exact .inr (.inr (.inl ⟨cutoff, now, rfl⟩))
  | selectOperation id | selectByClaim botId updateId kind | selectRecoveryCandidates botId limit
  | selectKeyReference id | releaseLease operationId instanceId generation =>
    exact .inr (.inr (.inr rfl))
  | insertKeyReference id secret version now =>
    refine .inr (.inr (.inr ?_))
    simp only [Statement.exec]
    split
    · rfl
    · split <;> rfl
  | acquireLease operationId botId instanceId leaseUntil now =>
    refine .inr (.inr (.inr ?_))
    simp only [Statement.exec]
    split
    · split <;> rfl
    · rfl

/-- **What a statement does to the row of an operation**: nothing, the claim that creates it, a
guarded update of it, or the interruption of a stale generation. -/
theorem rowStep_exec (db : Ledger) (s : Statement) (id : String) :
    RowStep db s id (db.operation? id) ((s.exec db).2.operation? id) := by
  rcases operations_exec db s with ⟨request, id', now, rfl⟩ | ⟨u, id', now, rfl⟩ |
    ⟨cutoff, now, rfl⟩ | hsame
  · exact rowStep_insert db request id' now id
  · exact rowStep_update db u id' now id
  · exact rowStep_interrupt db cutoff now id
  · rw [show (s.exec db).2.operation? id = db.operation? id by simp only [operation?, hsame]]
    exact .same _

/-- **Key references are never changed or removed.** -/
theorem keyRef?_exec {id : String} {k : OperationKeyRefRow} (s : Statement)
    (h : db.keyRef? id = some k) : (s.exec db).2.keyRef? id = some k := by
  cases s with
  | insertOperation request id' now =>
    simp only [Statement.exec]
    split <;> exact h
  | insertKeyReference id' secret version now =>
    simp only [Statement.exec]
    split
    · exact h
    · split
      · rename_i keyRefs hins
        exact Table.find?_insert? hins h
      · exact h
  | acquireLease operationId botId instanceId leaseUntil now =>
    simp only [Statement.exec]
    split
    · split <;> exact h
    · exact h
  | _ => exact h

/-- The reference that an insertion stored. -/
theorem keyRef?_insertKeyReference {id secretId now : String} {keyVersion : ℤ}
    (h : ((Statement.insertKeyReference id secretId keyVersion now).exec db).1 = .ok (1 : ℕ)) :
    ((Statement.insertKeyReference id secretId keyVersion now).exec db).2.keyRef? id =
      some ⟨id, secretId, keyVersion, now, now⟩ := by
  simp only [Statement.exec] at h ⊢
  split at h
  · cases h
  · rename_i hrow
    rw [if_neg hrow]
    cases hins : db.keyRefs.insert? ⟨id, secretId, keyVersion, now, now⟩ with
    | none => rw [hins] at h; cases h
    | some keyRefs =>
      refine (Table.find?_eq_some_iff (pins_operationId id) keyRefs).mpr ⟨?_, by simp⟩
      rw [(Table.insert?_eq_some hins).1]
      exact List.mem_append_right _ List.mem_cons_self

/-- An update changed one row exactly when the operation's row passed its guard. -/
theorem exec_update_eq_one_iff (db : Ledger) (u : OperationUpdate) (id now : String) :
    ((Statement.updateOperation u id now).exec db).1 = .ok (1 : ℕ) ↔
      ∃ r, db.operation? id = some r ∧ u.guard db r = true := by
  have hone := Table.affected_eq_one_iff (p := fun r => r.id == id && u.guard db r) (pins_id id)
    db.operations fun r hr => (Bool.and_eq_true _ _ ▸ hr).1
  constructor
  · intro h
    obtain ⟨r, hr, hg⟩ := hone.mp (Except.ok.inj h)
    exact ⟨r, hr, (Bool.and_eq_true _ _ ▸ hg).2⟩
  · rintro ⟨r, hr, hg⟩
    exact congrArg Except.ok (hone.mpr ⟨r, hr, by simp [id_of_operation? hr, hg]⟩)

/-- The row after an update that passed its guard. -/
theorem operation?_update_of_guard {u : OperationUpdate} {id now : String} {r : OperationRow}
    (hr : db.operation? id = some r) (hg : u.guard db r = true) :
    ((Statement.updateOperation u id now).exec db).2.operation? id = some (u.set now r) := by
  rw [operation?_update, hr]
  simp [Table.Change.on, OperationUpdate.change, id_of_operation? hr, hg]

end Ledger

end ImBridge
