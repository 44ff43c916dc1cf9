import ImBridge.Adapters.Answers
import ImBridge.Adapters.Backend
import ImBridge.Bridge.LedgerInvariant
import ImBridge.Bridge.OperationCoordinator
import ImBridge.Interleaving.History

/-!
# The calls on an operation, and what they leave behind

The live path, recovery, reconciliation and the functions of the store all work on the same rows.
This module fixes the family of their calls, with the chat backend of the source behind the
coordinator, and says what one call on the surroundings can do to the row of an operation and to
the mutation that the Connector has for it.

## Main definitions

* `Runtime`, `OperationCall`, `OperationCall.body`: the calls on operations
* `Wins`, `Call.invokes`, `Call.mutation?`: winning a row, invoking the backend, sending a mutation
* `Call.Calm`: the calls that leave everything as it is
* `World.Settled`, `World.Confirmed`, `World.Dead`, `World.NotApplied`, `World.Clear`: what is known
  of an operation

## Main results

* `Effect.update_won`, `Effect.update_lost`: a guarded update that changed its row, or did not
* `Effect.confirmed`, `Effect.dead`, `Effect.settled`, `Effect.notApplied`: how what is known
  survives a call
-/

namespace ImBridge

open Interleaving

/-! ## The calls -/

/-- A runtime of the bridge: its chat backend, and where it takes the keys of payloads from. -/
structure Runtime where
  backend : ReqwestStBackend
  payloadEncryptor : Option OperationPayloadEncryptor
  payloadKeyProvider : Option OperationPayloadKeyProvider

def Runtime.coordinator (lib : Primitives) (self : Runtime) : OperationCoordinator where
  backend := self.backend.write lib
  payloadEncryptor := self.payloadEncryptor
  payloadKeyProvider := self.payloadKeyProvider

/-- A call of the coordinator, or of a function of the store. -/
inductive OperationCall
  | commit (runtime : Runtime) (operationId : String) (locator : StChatLocator)
      (expectedSha256 expectedIntegrity : String) (mutation : StMutation)
      (fence : PollerRuntimeFence)
  | create (runtime : Runtime) (command : CreateStChat)
  | replayGenerated (runtime : Runtime) (record : BridgeOperationRecord) (internalBotId : String)
      (fence : PollerRuntimeFence)
  | reconcileCommit (record : BridgeOperationRecord) (locatorHash : String)
  | settleGenerationFailure (operationId : String) (error : StBridgeError)
  | store (call : StoreCall)

namespace OperationCall

@[reducible] def Out : OperationCall → Type
  | commit .. => StResult StCommitResult
  | create .. => StResult StCommitResult
  | replayGenerated .. => StResult StCommitResult
  | reconcileCommit .. => AppResult (Option BridgeOperationRecord)
  | settleGenerationFailure .. => StBridgeError
  | store call => call.Out

def body (lib : Primitives) : (j : OperationCall) → BridgeTask j.Out
  | commit runtime operationId locator sha integrity mutation fence =>
    ((runtime.coordinator lib).commit lib operationId locator sha integrity mutation fence).run
  | create runtime command => ((runtime.coordinator lib).create lib command).run
  | replayGenerated runtime record internalBotId fence =>
    ((runtime.coordinator lib).replayGenerated lib record internalBotId fence).run
  | reconcileCommit record locatorHash =>
    (OperationCoordinator.reconcileCommit lib record locatorHash).run
  | settleGenerationFailure operationId error =>
    OperationCoordinator.settleGenerationFailure operationId error
  | store call => call.body

/-- The operation that the call may write. -/
def writes? : OperationCall → Option String
  | commit _ operationId .. => some operationId
  | create _ command => some command.operationId
  | replayGenerated _ record .. => some record.id
  | _ => none

/-- The operation whose generation has failed. -/
def settles? : OperationCall → Option String
  | settleGenerationFailure operationId _ => some operationId
  | _ => none

/-- A replay of a created chat addresses the operation that it is stored with. Starting a chat
stores its command so. -/
def Addressed (lib : Primitives) : OperationCall → Prop
  | replayGenerated _ record _ fence => ∀ encryptor command,
      OperationCoordinator.openRecoveryPayload lib encryptor record fence = .ok (.create command) →
        command.operationId = record.id
  | _ => True

end OperationCall

/-- An agent of a pool of such calls. -/
abbrev Agent := ℕ × OperationCall

abbrev BridgeMoment := Moment bridgeCalls Agent World

/-! ## The calls that matter -/

/-- The row of the operation was moved to `committing`. -/
inductive Wins (id : String) : (c : Call) → c.Reply → Prop
  | intro (now : String) : Wins id (.sql (.updateOperation .committing id now)) (.ok (1 : ℕ))

/-- The backend is invoked for the operation. -/
def Call.invokes (id : String) : Call → Bool
  | invoke id' _ => id' == id
  | _ => false

/-- The backend is invoked. -/
def Call.isInvoke : Call → Bool
  | invoke .. => true
  | _ => false

/-- The operation whose mutation is sent. -/
def Call.mutation? : Call → Option String
  | http request => request.mutates
  | _ => none

/-- A mutation is sent. -/
def Call.isMutation (c : Call) : Bool := c.mutation?.isSome

def Statement.isSelect : Statement → Bool
  | selectOperation _ | selectByClaim .. | selectRecoveryCandidates ..
  | selectKeyReference _ => true
  | _ => false

/-- The calls that leave the shared state as it is, and neither invoke the backend nor send a
mutation. -/
def Call.Calm : Call → Prop
  | sql s => s.isSelect = true
  | vaultPut .. => False
  | http request => request.mutates = none
  | invoke .. => False
  | _ => True

variable {c : Call}

theorem Call.Quiet.calm (h : c.Quiet) : c.Calm := by
  cases c <;> first | exact h | exact h.elim

theorem Call.Calm.isInvoke (h : c.Calm) : c.isInvoke = false := by
  cases c <;> first | rfl | exact h.elim

theorem Call.Calm.isMutation (h : c.Calm) : c.isMutation = false := by
  cases c with
  | http request =>
    have hnone : request.mutates = none := h
    simp [Call.isMutation, Call.mutation?, hnone]
  | _ => rfl

variable {w w' : World}

theorem Effect.of_calm {r : c.Reply} (h : Effect w c r w') (hc : c.Calm) : w' = w := by
  cases c with
  | sql s =>
    rcases h with ⟨-, rfl⟩ | ⟨-, rfl⟩
    · cases s <;> first | rfl | cases hc
    · rfl
  | vaultGet secretId => exact h.1
  | http request =>
    rw [Effect, show request.mutates = none from hc] at h
    exact h
  | vaultPut scope kind plaintext => exact hc.elim
  | _ => exact h

/-! ## The row of an operation -/

/-- What a call can do to a row that is there. -/
theorem Effect.row {reply : c.Reply} (h : Effect w c reply w') {id : String} {r : OperationRow}
    (hr : w.ledger.operation? id = some r) :
    ∃ r', w'.ledger.operation? id = some r' ∧
      (r' = r ∨
        (∃ u now, c = .sql (.updateOperation u id now) ∧ u.guard w.ledger r = true ∧
          r' = u.set now r) ∨
        (r.status = .generating ∧ ∃ now, r' = (interruptStale now).set r)) := by
  rcases h.ledger with ⟨s, rfl, hw⟩ | hw
  · have hstep := Ledger.rowStep_exec w.ledger s id
    rw [← hw, hr] at hstep
    generalize w'.ledger.operation? id = o at hstep
    cases hstep with
    | same => exact ⟨r, rfl, .inl rfl⟩
    | updated u now r hs hg => exact ⟨_, rfl, .inr (.inl ⟨u, now, by rw [hs], hg, rfl⟩)⟩
    | interrupted cutoff now r hs hg => exact ⟨_, rfl, .inr (.inr ⟨hg, now, rfl⟩)⟩
  · exact ⟨r, by rw [hw, hr], .inl rfl⟩

/-- A row that was not there is a claim. -/
theorem Effect.row_of_none {reply : c.Reply} (h : Effect w c reply w') {id : String}
    (hr : w.ledger.operation? id = none) {r' : OperationRow}
    (hr' : w'.ledger.operation? id = some r') :
    ∃ request now, r' = ClaimOperationRequest.row request id now := by
  rcases h.ledger with ⟨s, rfl, hw⟩ | hw
  · have hstep := Ledger.rowStep_exec w.ledger s id
    rw [← hw, hr, hr'] at hstep
    cases hstep with
    | claimed request now hs => exact ⟨request, now, rfl⟩
  · rw [hw, hr] at hr'
    cases hr'

/-- An update that changed a row found it as its guard says, and left it as it sets it. -/
theorem Effect.update_won {u : OperationUpdate} {id now : String}
    (h : Effect w (.sql (.updateOperation u id now)) (.ok (1 : ℕ)) w') :
    ∃ r, w.ledger.operation? id = some r ∧ u.guard w.ledger r = true ∧
      w'.ledger.operation? id = some (u.set now r) := by
  rcases h with ⟨hreply, rfl⟩ | ⟨hreply, -⟩
  · obtain ⟨r, hr, hg⟩ := (Ledger.exec_update_eq_one_iff w.ledger u id now).mp hreply.symm
    exact ⟨r, hr, hg, Ledger.operation?_update_of_guard hr hg⟩
  · cases hreply

/-- An update that did not change a row left it as it was, because its guard did not hold or the
statement failed. -/
theorem Effect.update_lost {u : OperationUpdate} {id now : String} {reply : Except SqlError ℕ}
    (h : Effect w (.sql (.updateOperation u id now)) reply w') (hlost : reply ≠ .ok 1)
    {r : OperationRow} (hr : w.ledger.operation? id = some r) :
    w'.ledger.operation? id = some r ∧ (u.guard w.ledger r = false ∨ reply = .error .other) := by
  rcases h with ⟨hreply, rfl⟩ | ⟨hreply, rfl⟩
  · have hg : u.guard w.ledger r = false := by
      by_contra hg
      rw [Bool.not_eq_false] at hg
      exact hlost (hreply.trans ((Ledger.exec_update_eq_one_iff w.ledger u id now).mpr ⟨r, hr, hg⟩))
    refine ⟨?_, .inl hg⟩
    show ((Statement.updateOperation u id now).exec w.ledger).2.operation? id = some r
    rw [Ledger.operation?_update, hr]
    simp [Relational.Table.Change.on, hg]
  · exact ⟨hr, .inr hreply⟩

/-! ## What is known of an operation -/

/-- The statuses that a row can only have once it was won. -/
def BridgeOperationStatus.pastGenerated : BridgeOperationStatus → Bool
  | committing | committed | delivered | conflict | failed | interrupted => true
  | _ => false

theorem BridgeOperationStatus.pastGenerated_of_canTransitionTo {s s' : BridgeOperationStatus}
    (hs : s.pastGenerated = true) (h : s.canTransitionTo s' = true) : s'.pastGenerated = true := by
  revert hs h
  cases s <;> cases s' <;> decide

namespace World

/-- The row of the operation is past being won. -/
def Past (w : World) (id : String) : Prop :=
  ∃ r, w.ledger.operation? id = some r ∧ r.status.pastGenerated = true

/-- The row of the operation waits for the outcome of its write, or records it as applied. -/
def Settled (w : World) (id : String) : Prop :=
  ∃ r, w.ledger.operation? id = some r ∧ (r.status = .committing ∨
    ((r.status = .committed ∨ r.status = .delivered) ∧ r.commitState = .applied))

/-- The row of the operation records its write as applied, with this result. -/
def Confirmed (w : World) (id json : String) : Prop :=
  ∃ r, w.ledger.operation? id = some r ∧ (r.status = .committed ∨ r.status = .delivered) ∧
    r.commitState = .applied ∧ r.connectorResultJson = some json

/-- The operation has ended without a write. -/
def Dead (w : World) (id : String) : Prop :=
  ∃ r, w.ledger.operation? id = some r ∧
    (r.status = .failed ∨ r.status = .conflict ∨ r.status = .interrupted)

/-- No write of the operation is recorded as applied. -/
def NotApplied (w : World) (id : String) : Prop :=
  ∀ r, w.ledger.operation? id = some r → r.commitState ≠ .applied

/-- No write of the operation is under way. -/
def Unwritten (w : World) (id : String) : Prop :=
  ∀ r, w.ledger.operation? id = some r → r.status ≠ .committing

/-- The Connector has not got the mutation of the operation, or has refused it. -/
def Clear (w : World) (id : String) : Prop :=
  w.connector id = .idle ∨ w.connector id = .refused

end World

section Survival

variable {w w' : World} {c : Call} {reply : c.Reply} {id : String}

variable (h : Effect w c reply w')
include h

theorem Effect.past (hw : w.Past id) : w'.Past id := by
  obtain ⟨r, hr, hpast⟩ := hw
  obtain ⟨r', hr', hcases⟩ := h.row hr
  refine ⟨r', hr', ?_⟩
  rcases hcases with rfl | ⟨u, now, -, hg, rfl⟩ | ⟨hs, -⟩
  · exact hpast
  · rcases OperationUpdate.status_set hg with hsame | hmove
    · rw [hsame, hpast]
    · exact BridgeOperationStatus.pastGenerated_of_canTransitionTo hpast hmove
  · rw [hs] at hpast
    cases hpast

/-- A recorded write stays recorded. -/
theorem Effect.confirmed {json : String} (hw : w.Confirmed id json) :
    w'.Confirmed id json := by
  obtain ⟨r, hr, hstatus, hstate, hjson⟩ := hw
  obtain ⟨r', hr', hcases⟩ := h.row hr
  refine ⟨r', hr', ?_⟩
  rcases hcases with rfl | ⟨u, now, -, hg, rfl⟩ | ⟨hs, -⟩
  · exact ⟨hstatus, hstate, hjson⟩
  · -- of a recorded write only the delivery is recorded
    rcases hstatus with hs | hs <;> cases u <;>
      simp_all [OperationUpdate.guard, OperationUpdate.set]
  · simp [hs] at hstatus

/-- An ended operation stays ended. -/
theorem Effect.dead (hw : w.Dead id) : w'.Dead id := by
  obtain ⟨r, hr, hstatus⟩ := hw
  obtain ⟨r', hr', hcases⟩ := h.row hr
  refine ⟨r', hr', ?_⟩
  rcases hcases with rfl | ⟨u, now, -, hg, rfl⟩ | ⟨hs, -⟩
  · exact hstatus
  · rcases hstatus with hs | hs | hs <;> cases u <;> simp_all [OperationUpdate.guard]
  · simp [hs] at hstatus

/-- Only a failure of a write that is under way, or a conflict, takes a row back from waiting for
its outcome. -/
theorem Effect.settled (hw : w.Settled id)
    (hconflict : ∀ summary now, c ≠ .sql (.updateOperation (.conflict summary) id now))
    (hfailed : ∀ stage code summary retryable state now,
      c = .sql (.updateOperation (.failed stage code summary retryable state) id now) →
        w.Unwritten id) :
    w'.Settled id := by
  obtain ⟨r, hr, hsettled⟩ := hw
  obtain ⟨r', hr', hcases⟩ := h.row hr
  refine ⟨r', hr', ?_⟩
  rcases hcases with rfl | ⟨u, now, hc, hg, rfl⟩ | ⟨hs, -⟩
  · exact hsettled
  · cases u with
    | conflict summary => exact absurd hc (hconflict summary now)
    | failed stage code summary retryable state =>
      have hunwritten := hfailed stage code summary retryable state now hc r hr
      rcases hsettled with hs | ⟨hs | hs, -⟩
      · exact absurd hs hunwritten
      all_goals simp [OperationUpdate.guard, hs] at hg
    | committed json expected => exact .inr ⟨.inl rfl, rfl⟩
    | _ =>
      rcases hsettled with hs | ⟨hs | hs, hstate⟩ <;>
        simp_all [OperationUpdate.guard, OperationUpdate.set]
  · simp [hs] at hsettled

/-- Only the record of a write, or a failure that says so, makes an operation applied. -/
theorem Effect.notApplied (hw : w.NotApplied id)
    (hcommitted : ∀ json expected now,
      c ≠ .sql (.updateOperation (.committed json expected) id now))
    (hfailed : ∀ stage code summary retryable now,
      c ≠ .sql (.updateOperation (.failed stage code summary retryable .applied) id now)) :
    w'.NotApplied id := by
  intro r' hr'
  cases hr : w.ledger.operation? id with
  | none =>
    obtain ⟨request, now, rfl⟩ := h.row_of_none hr hr'
    exact fun hstate => by cases hstate
  | some r =>
    have hstate := hw r hr
    obtain ⟨r'', hr'', hcases⟩ := h.row hr
    obtain rfl : r'' = r' := Option.some.inj (hr''.symm.trans hr')
    rcases hcases with rfl | ⟨u, now, hc, hg, rfl⟩ | ⟨-, now, rfl⟩
    · exact hstate
    · cases u with
      | committed json expected => exact absurd hc (hcommitted json expected now)
      | failed stage code summary retryable state =>
        rintro rfl
        exact hfailed stage code summary retryable now hc
      | conflict summary | commitUnknown => exact fun heq => by cases heq
      | _ => exact hstate
    · exact hstate

/-- What a call can do to the mutations that the Connector has. -/
theorem Effect.connector :
    (∃ id' d, c.mutation? = some id' ∧ w' = w.deliver id' d) ∨ w'.connector = w.connector := by
  cases c with
  | sql s => rcases h with ⟨-, rfl⟩ | ⟨-, rfl⟩ <;> exact .inr rfl
  | vaultPut scope kind plaintext =>
    cases reply with
    | ok secretId => obtain ⟨-, rfl⟩ := h; exact .inr rfl
    | error e => cases h; exact .inr rfl
  | vaultGet secretId => obtain ⟨rfl, -⟩ := h; exact .inr rfl
  | http request =>
    simp only [Effect] at h
    split at h
    · rename_i id' hid
      obtain ⟨d, rfl⟩ := h
      exact .inl ⟨id', d, hid, rfl⟩
    · cases h; exact .inr rfl
  | _ => cases h; exact .inr rfl

theorem Effect.connector_of_ne (hc : c.mutation? ≠ some id) :
    w'.connector id = w.connector id := by
  rcases h.connector with ⟨id', d, hid', rfl⟩ | hw
  · refine Function.update_of_ne ?_ _ _
    rintro rfl
    exact hc hid'
  · rw [hw]

omit h

/-- The Connector goes on only with what it has received. -/
theorem Drift.connector (h : Drift w w') (id : String) :
    w'.connector id = w.connector id ∨
      w.connector id = .received ∧ (w'.connector id = .applied ∨ w'.connector id = .refused) := by
  cases h with
  | applied id' h =>
    by_cases hid : id = id'
    · subst hid
      exact .inr ⟨h, .inl (Function.update_self ..)⟩
    · exact .inl (Function.update_of_ne hid _ _)
  | refused id' h =>
    by_cases hid : id = id'
    · subst hid
      exact .inr ⟨h, .inr (Function.update_self ..)⟩
    · exact .inl (Function.update_of_ne hid _ _)

theorem Drift.clear (h : Drift w w') (hw : w.Clear id) : w'.Clear id := by
  rcases h.connector id with hsame | ⟨hreceived, -⟩
  · rw [World.Clear, hsame]
    exact hw
  · rw [World.Clear, hreceived] at hw
    simp at hw

end Survival

/-! ## A sample operation

An operation for examples, and the calls that prepare it for its write. -/

namespace Sample

def locator : StChatLocator := ⟨"user", "a.png", "A", "IMBridge-Test-c.jsonl"⟩

def fence : PollerRuntimeFence := ⟨1, "rust_bridge", 1, "bot", "runtime"⟩

def mutation : StMutation := .undoLastTurn "user-hash" "assistant-hash"

def backend : ReqwestStBackend := ⟨"user", .testWrite, some ⟨List.replicate 32 0⟩⟩

def encrypted : EncryptedOperationPayload := ⟨[], zeroNonce, 1⟩

/-- The operation `op-1` is claimed, gets its key and its snapshot, and is generated. -/
def prepare : List OperationCall :=
  [.store (.claimOperation ⟨"op-1", "actor", "bot", 7, "telegram", kindUndo, locator, "op-1",
    "op-1"⟩),
    .store (.putOperationKeyReference "op-1" "secret-1" 1),
    .store (.updateSnapshotReady "op-1" (some "sha") (some "integrity") none none),
    .store (.updateGenerated "op-1" encrypted "hash")]

/-- The record of the operation, as recovery reads it. -/
def record : BridgeOperationRecord where
  id := "op-1"
  actorId := "actor"
  botId := "bot"
  telegramUpdateId := 7
  channelContextKey := "telegram"
  operationKind := kindUndo
  locator := ⟨"user", "a.png", "", "IMBridge-Test-c.jsonl"⟩
  status := .generated
  commitState := .notStarted
  sourceSha256 := some "sha"
  sourceIntegrity := some "integrity"
  sourceSize := none
  messageCount := none
  mutationDigest := some "hash"
  payload := some encrypted
  connectorResultJson := none
  errorStage := none
  errorCode := none
  errorSummary := none
  retryable := false
  attemptCount := 1
  requestId := "op-1"
  traceId := "op-1"
  createdAt := "2026-01-01T00:00:00Z"
  updatedAt := "2026-01-01T00:00:00Z"

/-- The live path writes the operation. -/
abbrev commit (runtime : Runtime) : OperationCall :=
  .commit runtime "op-1" locator "sha" "integrity" mutation fence

end Sample

end ImBridge
