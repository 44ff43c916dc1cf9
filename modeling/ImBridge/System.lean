import ImBridge.Bridge.Ledger
import ImBridge.Bridge.PollerOwnership
import ImBridge.Interleaving.RelyGuarantee

/-!
# The calls of the bridge on its surroundings

Everything the bridge does that another task, a clock, a random source or a remote party can see or
decide is a call: a statement on the database, a request to the Connector, a secret read from the
vault, and so on. Between two calls the bridge computes.

The libraries that the bridge computes with (hashing, authenticated encryption, serialisation) are
collected in `Primitives`; what is relied on of them is stated where it is used.

## Main definitions

* `Primitives`: the library functions
* `Call`, `Call.Reply`, `bridgeCalls`: the calls and their replies
* `World`, `bridgeSemantics`: the shared state, and what a call may reply and do to it

## Main results

* `Effect.ledger`: only statements change the tables
* `triple_sql`: the rule of the logic for statements
-/

namespace ImBridge

open Interleaving

/-- Data encryption keys of operations. -/
abbrev Dek := { b : Bytes // b.length = 32 }

/-- The library functions: SHA-256 and HMAC-SHA-256 in hexadecimal, XChaCha20-Poly1305, and the
JSON encodings of the types that are stored or sent. -/
structure Primitives where
  sha256Hex : Bytes → String
  hmacSha256Hex : Bytes → Bytes → String
  sealPayload : Dek → Nonce → Bytes → Bytes → Option Bytes
  openPayload : Dek → Nonce → Bytes → Bytes → Option Bytes
  parseJson : Bytes → Option Json
  renderJson : Json → Bytes
  encodeMutation : StMutation → Option Bytes
  encodePayload : OperationRecoveryPayload → Option Bytes
  decodePayload : Bytes → Option OperationRecoveryPayload
  encodeResult : StCommitResult → Option String

/-- A command for the chat backend. -/
inductive BackendCommand
  | createChat (command : CreateStChat)
  | commit (command : CommitStChat)

/-- The operation that the command says it belongs to. -/
def BackendCommand.operationId : BackendCommand → String
  | createChat command => command.operationId
  | commit command => command.operationId

/-- A signed request to the Connector. `operationId` is the operation it is made for. -/
structure ConnectorRequest where
  method : String
  path : String
  query : String
  body : Bytes
  csrfToken : String
  cookieHeader : String
  timestamp : ℤ
  nonce : String
  signature : String
  operationId : Option String
  mutation : Bool

/-- The operation whose mutation the request carries. -/
def ConnectorRequest.mutates (request : ConnectorRequest) : Option String :=
  if request.mutation then request.operationId else none

/-- The answer to a request. A chunk of the body is missing when the stream failed there. -/
structure HttpResponse where
  status : ℕ
  contentType : Option String
  contentLength : Option ℕ
  chunks : List (Option Bytes)

inductive StOperationJournalStatus
  | prepared
  | applied
  | notApplied
  | unknown
  deriving DecidableEq, Repr

structure StOperationJournalRecord where
  operationId : String
  locatorHash : String
  mutationDigest : String
  status : StOperationJournalStatus
  afterSha256 : Option String
  afterIntegrity : Option String
  afterByteLength : Option ℕ
  afterMessageCount : Option ℕ
  deriving DecidableEq, Repr

/-- The model choices stored for a channel. -/
structure ChannelContext where
  chatModelId : Option String
  compressionModelId : Option String

/-- The methods of the chat backend, as calls. -/
inductive BackendCall
  | probe
  | listCharacters
  | snapshot (locator : StChatLocator)
  | generationSettings
  | streamGenerate (request : StGenerationRequest)
  | createChat (command : CreateStChat)
  | commit (command : CommitStChat)

@[reducible] def BackendCall.Reply : BackendCall → Type
  | probe => StResult StStatus
  | listCharacters => StResult (List StCharacterSummary)
  | snapshot _ => StResult StChatSnapshot
  | generationSettings => StResult StGenerationSettings
  | streamGenerate _ => StResult StGenerationResult
  | createChat _ => StResult StCommitResult
  | commit _ => StResult StCommitResult

inductive Call
  | sql (s : Statement)
  | nowRfc3339
  | rfc3339After (seconds : ℕ)
  | nowUnixMs
  | unixTimestamp
  | newId
  | randomDek
  | randomNonce
  | connectorNonce
  | vaultPut (ownerScope kind : String) (plaintext : Bytes)
  | vaultGet (secretId : String)
  | ensureSession
  | invalidateSession
  | http (request : ConnectorRequest)
  | journalLookup (operationId : String)
  /-- The method of the chat backend is invoked for the operation. -/
  | invoke (operationId : String) (command : BackendCommand)
  | backend (c : BackendCall)
  | assertGenerationFence
  | assertCommitFence
  | currentLifecycle
  | loadChannel (accountId contextKey : String)
  | selectChat (accountId workspaceId contextKey : String) (locator : StChatLocator)
  | lockLocator (key : String)
  | generationPermit
  | emitDone (replyText : String)

@[reducible] def Call.Reply : Call → Type
  | sql s => s.Reply
  | nowRfc3339 => String
  | rfc3339After _ => Option String
  | nowUnixMs => ℤ
  | unixTimestamp => ℤ
  | newId => String
  | randomDek => Dek
  | randomNonce => Nonce
  | connectorNonce => String
  | vaultPut .. => AppResult String
  | vaultGet _ => AppResult Bytes
  | ensureSession => StResult (String × String)
  | invalidateSession => Unit
  | http _ => Except Unit HttpResponse
  | journalLookup _ => AppResult (Option StOperationJournalRecord)
  | invoke .. => Unit
  | backend c => c.Reply
  | assertGenerationFence => Except String Unit
  | assertCommitFence => Except String Unit
  | currentLifecycle => PollerLifecycle
  | loadChannel .. => AppResult ChannelContext
  | selectChat .. => AppResult Unit
  | lockLocator _ => Except Unit Unit
  | generationPermit => Except Unit Unit
  | emitDone _ => Except Unit Unit

abbrev bridgeCalls : Signature := ⟨Call, Call.Reply⟩

/-- Tasks of the bridge. -/
abbrev BridgeTask (α : Type) := Program bridgeCalls α

/-- Tasks that may fail with an error of the bridge's own storage. -/
abbrev AppTask (α : Type) := Fallible bridgeCalls AppError α

/-- Tasks that may fail with an error of the chat backend. -/
abbrev StTask (α : Type) := Fallible bridgeCalls StBridgeError α

/-- Makes the call and returns its reply. -/
def ask (c : Call) : BridgeTask c.Reply := Program.perform (σ := bridgeCalls) c

/-- Runs a statement; any failure of it is the storage's error. -/
def sql (s : Statement) : AppTask s.Rows := ExceptT.mk do
  return (← ask (.sql s)).mapError fun _ => AppError.database

/-! ## The shared state -/

/-- How far the Connector is with the mutation of an operation. -/
inductive Delivery
  | idle
  | received
  | applied
  | refused
  deriving DecidableEq, Repr

/-- What the tasks of the bridge share: the database, the secrets of the vault, and what the
Connector has done. -/
structure World where
  ledger : Ledger
  vault : String → Option Bytes
  connector : String → Delivery

namespace World

def start : World := ⟨.empty, fun _ => none, fun _ => .idle⟩

/-- The world with one more secret. -/
def store (w : World) (secretId : String) (plaintext : Bytes) : World :=
  { w with vault := Function.update w.vault secretId (some plaintext) }

/-- The world in which the Connector is so far with the mutation of the operation. -/
def deliver (w : World) (operationId : String) (d : Delivery) : World :=
  { w with connector := Function.update w.connector operationId d }

end World

/-- **What a call may reply and do.** A statement takes effect or fails without one; the vault
names a new secret and gives back what was put; a mutation request may get the Connector anywhere,
whatever the answer to it; every other call leaves the shared state as it is, with any reply. -/
def Effect (w : World) : (c : Call) → c.Reply → World → Prop
  | .sql s, r, w' =>
    (r = (s.exec w.ledger).1 ∧ w' = { w with ledger := (s.exec w.ledger).2 }) ∨
      (r = .error .other ∧ w' = w)
  | .vaultPut _ _ plaintext, r, w' =>
    match r with
    | .ok secretId => w.vault secretId = none ∧ w' = w.store secretId plaintext
    | .error _ => w' = w
  | .vaultGet secretId, r, w' => w' = w ∧ ∀ b, r = .ok b → w.vault secretId = some b
  | .http request, _, w' =>
    match request.mutates with
    | some operationId => ∃ d, w' = w.deliver operationId d
    | none => w' = w
  | _, _, w' => w' = w

/-- Only statements change the tables. -/
theorem Effect.ledger {w w' : World} {c : Call} {r : c.Reply} (h : Effect w c r w') :
    (∃ s, c = .sql s ∧ w'.ledger = (s.exec w.ledger).2) ∨ w'.ledger = w.ledger := by
  cases c with
  | sql s =>
    rcases h with ⟨-, rfl⟩ | ⟨-, rfl⟩
    · exact .inl ⟨s, rfl, rfl⟩
    · exact .inr rfl
  | vaultPut scope kind plaintext =>
    cases r with
    | ok secretId => obtain ⟨-, rfl⟩ := h; exact .inr rfl
    | error e => cases h; exact .inr rfl
  | vaultGet secretId => obtain ⟨rfl, -⟩ := h; exact .inr rfl
  | http request =>
    simp only [Effect] at h
    split at h
    · obtain ⟨d, rfl⟩ := h; exact .inr rfl
    · cases h; exact .inr rfl
  | _ => cases h; exact .inr rfl

/-- The Connector goes on with a mutation it has received, whether or not the bridge still waits
for the answer. -/
inductive Drift (w : World) : World → Prop
  | applied (operationId : String) (h : w.connector operationId = .received) :
      Drift w (w.deliver operationId .applied)
  | refused (operationId : String) (h : w.connector operationId = .received) :
      Drift w (w.deliver operationId .refused)

theorem Drift.ledger {w w' : World} (h : Drift w w') : w'.ledger = w.ledger := by
  cases h <;> rfl

/-- The bridge's tasks in their surroundings. -/
def bridgeSemantics (A : Type) : Semantics bridgeCalls A World where
  effect _ m c r w := Effect m.world c r w
  drift := Drift

theorem triple_sql {A : Type} {sem : Semantics bridgeCalls A World} {D : Discipline sem} {t : A}
    {s : Statement} {pre : Moment bridgeCalls A World → Prop}
    {post : AppResult s.Rows → Moment bridgeCalls A World → Prop} (hpre : D.Stable t pre)
    (hmay : ∀ m, D.inv m → pre m → D.may t m (.sql s))
    (hpost : ∀ m (r : s.Reply) w, D.inv m → pre m → sem.effect t m (.sql s) r w →
      post (r.mapError fun _ => .database) (m.after t (.sql s) r w))
    (hstable : ∀ r, D.Stable t (post r)) : D.Triple t pre (sql s).run post :=
  Discipline.triple_call (fun r => post (Except.mapError (fun _ => AppError.database) r)) hpre hmay
    hpost fun _ => Discipline.triple_ret (hstable _) fun _ _ h => h

end ImBridge
