import ImBridge.Bridge.Errors
import ImBridge.Encoding.Frame

/-!
# Bridge operations

A write of the bridge is an operation: a row that moves through the statuses below, together with
what is known about its effect, and an encrypted payload from which an interrupted write can be
made again.

## Main definitions

* `BridgeOperationStatus`, `canTransitionTo`: the statuses and the transition table
* `OperationCommitState`: what is known about the effect of the write
* `OperationRecoveryPayload`, `validate`: what is kept of a write to make it again
* `OperationAad`, `encode`: the data the encryption of a payload is bound to
* `BridgeOperationRecord`: an operation as the store returns it

## Main results

* `canTransitionTo_eq_false_of_isTerminal`: nothing leaves a terminal status
* `OperationAad.encode_injective`: the encoding binds every component
-/

namespace ImBridge

open Encoding

def kindSend := "send"
def kindUndo := "undo"
def kindRevoke := "revoke"
def kindRegenerate := "regenerate"

inductive BridgeOperationStatus
  | received
  | snapshotReady
  | generating
  | generated
  | committing
  | committed
  | delivered
  | conflict
  | failed
  | interrupted
  deriving DecidableEq, Repr

namespace BridgeOperationStatus

def isTerminal : BridgeOperationStatus → Bool
  | delivered | conflict | failed | interrupted => true
  | _ => false

def canTransitionTo : BridgeOperationStatus → BridgeOperationStatus → Bool
  | received, snapshotReady
  | snapshotReady, generating
  | snapshotReady, generated
  | generating, generated
  | generated, committing
  | committing, committed
  | committed, delivered
  | received, failed
  | snapshotReady, failed
  | generating, failed
  | generating, interrupted
  | generated, failed
  | committing, conflict
  | committing, failed
  | committing, interrupted => true
  | _, _ => false

theorem canTransitionTo_eq_false_of_isTerminal {s : BridgeOperationStatus}
    (h : s.isTerminal = true) (next : BridgeOperationStatus) : s.canTransitionTo next = false := by
  cases s <;> simp [isTerminal] at h <;> rfl

end BridgeOperationStatus

inductive OperationCommitState
  | notStarted
  | notApplied
  | applied
  | unknown
  deriving DecidableEq, Repr

def OperationCommitState.asStr : OperationCommitState → String
  | notStarted => "not_started"
  | notApplied => "not_applied"
  | applied => "applied"
  | unknown => "unknown"

/-! ## Recovery payloads -/

/-- What is kept of a write so that it can be made again: the mutation and the revision it was
computed from, or the whole command that creates a chat. -/
inductive OperationRecoveryPayload
  | append (mutation : StMutation) (expectedSha256 expectedIntegrity : String)
      (fence : PollerRuntimeFence)
  | replace (mutation : StMutation) (expectedSha256 expectedIntegrity : String)
      (fence : PollerRuntimeFence)
  | undo (mutation : StMutation) (expectedSha256 expectedIntegrity : String)
      (fence : PollerRuntimeFence)
  | create (command : CreateStChat)
  | compress (mutation : StMutation) (expectedSha256 expectedIntegrity : String)
      (fence : PollerRuntimeFence)

namespace OperationRecoveryPayload

def mutation : OperationRecoveryPayload → Option StMutation
  | append m _ _ _ | replace m _ _ _ | undo m _ _ _ | compress m _ _ _ => some m
  | create _ => none

def fence : OperationRecoveryPayload → PollerRuntimeFence
  | create command => command.fence
  | append _ _ _ f | replace _ _ _ f | undo _ _ _ f | compress _ _ _ f => f

def validate (self : OperationRecoveryPayload) : AppResult Unit :=
  if !self.fence.isValid then
    .error (.badRequest "PAYLOAD_FENCE_INVALID"
      "operation recovery payload runtime fence is invalid")
  else
    match self with
    | create command =>
      if isBlank command.operationId then
        .error (.badRequest "PAYLOAD_RECOVERY_INVALID" "create operation id is required")
      else .ok ()
    | append (.appendTurn _ _) sha integrity _
    | replace (.replaceLastAssistant _ _) sha integrity _
    | undo (.undoLastTurn _ _) sha integrity _
    | compress (.compressMessages _) sha integrity _ =>
      if isBlank sha || isBlank integrity then
        .error (.badRequest "PAYLOAD_RECOVERY_INVALID" "recovery snapshot identity is required")
      else .ok ()
    | _ =>
      .error (.badRequest "PAYLOAD_RECOVERY_INVALID"
        "recovery payload mutation kind is not allowed")

end OperationRecoveryPayload

/-! ## The data bound by the encryption -/

structure OperationAad where
  version : UInt16
  operationId : String
  locatorHash : String
  operationKind : String
  actorId : String
  botId : String
  runtimeFence : Option PollerRuntimeFence
  deriving DecidableEq, Repr

namespace OperationAad

/-- The data for an operation of the bot that the fence names. -/
def newWithFence (operationId locatorHash operationKind actorId : String)
    (fence : PollerRuntimeFence) : OperationAad where
  version := 1
  operationId := operationId
  locatorHash := locatorHash
  operationKind := operationKind
  actorId := actorId
  botId := fence.internalBotId
  runtimeFence := some fence

def fenceParts (fence : PollerRuntimeFence) : List String :=
  [toString fence.telegramBotId, fence.owner, toString fence.epoch, fence.internalBotId,
    fence.runtimeInstanceId]

/-- The components that are framed one after the other. -/
def parts (self : OperationAad) : List String :=
  [self.operationId, self.locatorHash, self.operationKind, self.actorId, self.botId] ++
    match self.runtimeFence with
    | some fence => fenceParts fence
    | none => []

def encode (self : OperationAad) : Bytes :=
  utf8 "im-bridge/operation-payload" ++ [0] ++ bigEndian 2 self.version.toNat ++
    frames 8 (self.parts.map utf8)

/-- Every component is short enough for its length field. -/
def Framed (self : OperationAad) : Prop := ∀ s ∈ self.parts, (utf8 s).length < 256 ^ 8

theorem fenceParts_injective {f g : PollerRuntimeFence} (h : fenceParts f = fenceParts g) :
    f = g := by
  obtain ⟨botId, owner, epoch, internal, instanceId⟩ := f
  obtain ⟨botId', owner', epoch', internal', instanceId'⟩ := g
  simp only [fenceParts, List.cons.injEq, and_true] at h
  obtain ⟨hbot, howner, hepoch, hinternal, hinstance⟩ := h
  rw [toString_int_injective hbot, toString_injective hepoch, howner, hinternal, hinstance]

/-- **The encoding binds every component**: two data with one encoding are equal. -/
theorem encode_injective {a b : OperationAad} (ha : a.Framed) (hb : b.Framed)
    (h : a.encode = b.encode) : a = b := by
  simp only [encode, List.append_assoc] at h
  have htail := List.append_cancel_left h
  rw [List.singleton_append, List.singleton_append, List.cons.injEq] at htail
  obtain ⟨hversion, hframes⟩ := List.append_inj htail.2 (by simp)
  have hv : a.version = b.version := by
    apply UInt16.toNat_inj.mp
    exact bigEndian_injective a.version.toNat_lt b.version.toNat_lt hversion
  have hparts : a.parts = b.parts := by
    have hutf8 : a.parts.map utf8 = b.parts.map utf8 := by
      refine frames_injective (by omega) ?_ ?_ hframes
      · simpa [Framed] using ha
      · simpa [Framed] using hb
    exact List.map_injective_iff.mpr (fun _ _ => utf8_injective) hutf8
  obtain ⟨va, ida, hasha, kinda, actora, bota, fa⟩ := a
  obtain ⟨vb, idb, hashb, kindb, actorb, botb, fb⟩ := b
  simp only [parts, List.cons_append, List.nil_append, List.cons.injEq] at hparts
  obtain ⟨hid, hhash, hkind, hactor, hbot, hfence⟩ := hparts
  have hf : fa = fb := by
    cases fa with
    | none => cases fb with
      | none => rfl
      | some g => simp [fenceParts] at hfence
    | some f => cases fb with
      | none => simp [fenceParts] at hfence
      | some g => rw [fenceParts_injective hfence]
  simp only at hv
  rw [hv, hid, hhash, hkind, hactor, hbot, hf]

end OperationAad

/-! ## Records -/

/-- Nonces of the payload cipher. -/
abbrev Nonce := { b : Bytes // b.length = 24 }

structure EncryptedOperationPayload where
  ciphertext : Bytes
  nonce : Nonce
  keyVersion : UInt32
  deriving DecidableEq

/-- An operation as the store returns it. -/
structure BridgeOperationRecord where
  id : String
  actorId : String
  botId : String
  telegramUpdateId : ℤ
  channelContextKey : String
  operationKind : String
  locator : StChatLocator
  status : BridgeOperationStatus
  commitState : OperationCommitState
  sourceSha256 : Option String
  sourceIntegrity : Option String
  sourceSize : Option ℤ
  messageCount : Option ℤ
  mutationDigest : Option String
  payload : Option EncryptedOperationPayload
  connectorResultJson : Option String
  errorStage : Option String
  errorCode : Option String
  errorSummary : Option String
  retryable : Bool
  attemptCount : UInt32
  requestId : String
  traceId : String
  createdAt : String
  updatedAt : String
  deriving DecidableEq

end ImBridge
