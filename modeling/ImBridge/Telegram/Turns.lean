import Mathlib.Data.Char
import Mathlib.Data.List.Lex
import ImBridge.Bridge.Ledger

/-!
# The tables of deliveries, turns and targets

What the bridge writes down about the messages it sends: one row for each attempt to deliver a
message, one row for each message that shows a chunk of a turn, and one row for each command that
changes a turn, with the turn it is about. The statements on these tables are atomic, and so is the
one transaction on them.

The messages of a turn are unique by their scope, turn and chunk index, also those that are not
shown any more.

## Main definitions

* `TurnScope`, `TurnMetadata`, `FrozenTurnTarget`: the turns of an account in a chat of a bot
* `DeliveryRow`, `TurnMessageRow`, `TurnTargetRow`, `TurnDb`: the tables `channel_deliveries`,
  `telegram_turn_messages` and `telegram_turn_targets`
* `TurnStatement`, `TurnStatement.exec`: the statements and their effect
-/

namespace ImBridge

open Relational

/-! ## Scopes -/

/-- A SHA-256 hash in lower-case hexadecimal digits. -/
def isSha256Hex (s : String) : Bool :=
  s.toList.all isAsciiHexdigit && s.toList.length == 64 && s == toAsciiLowercase s

structure TurnScope where
  accountId : String
  internalBotId : String
  numericBotId : ℤ
  chatId : ℤ
  locatorHash : String
  deriving DecidableEq, Repr

def TurnScope.new (accountId internalBotId : String) (numericBotId chatId : ℤ)
    (locatorHash : String) : AppResult TurnScope :=
  if isBlank accountId || isBlank internalBotId || decide (numericBotId ≤ 0) || chatId == 0 ||
      !isSha256Hex locatorHash then
    .error (.badRequest "TELEGRAM_TURN_SCOPE_INVALID"
      "Telegram turn scope is incomplete or invalid")
  else .ok ⟨accountId, internalBotId, numericBotId, chatId, locatorHash⟩

structure TurnMetadata where
  scope : TurnScope
  turnId : String
  operationId : String
  deriving DecidableEq, Repr

def TurnMetadata.newScoped (scope : TurnScope) (turnId operationId : String) :
    AppResult TurnMetadata :=
  if isBlank turnId || isBlank operationId then
    .error (.badRequest "TELEGRAM_TURN_ID_INVALID" "Telegram turn and operation IDs are required")
  else .ok ⟨scope, turnId, operationId⟩

/-! ## The tables -/

inductive DeliveryStatus
  | pending
  | sending
  | sent
  | retryPending
  | failed
  | unknown
  deriving DecidableEq, Repr

inductive MessageKind
  | reply
  | generation
  deriving DecidableEq, Repr

structure DeliveryRow where
  id : String
  botId : String
  chatId : ℤ
  externalMessageId : Option ℤ
  messageKind : MessageKind
  turnId : Option String
  status : DeliveryStatus
  nextAttemptAt : Option String
  createdAt : String
  updatedAt : String
  deriving DecidableEq

def DeliveryRow.Clash (r s : DeliveryRow) : Prop := r.id = s.id

instance : DecidableRel DeliveryRow.Clash := fun _ _ => inferInstanceAs (Decidable (_ = _))

inductive TurnMessageStatus
  | sent
  | active
  | retired
  | revoked
  | deleted
  deriving DecidableEq, Repr

inductive TurnLifecycle
  | active
  | sent
  | retired
  deriving DecidableEq, Repr

/-- A message that shows a chunk of a turn. The rows are in the order of their ids. -/
structure TurnMessageRow where
  scope : TurnScope
  turnId : String
  operationId : String
  chunkIndex : ℕ
  messageId : ℤ
  contentHash : String
  renderVersion : ℕ
  status : TurnMessageStatus
  lifecycle : TurnLifecycle
  updatedAt : String
  deriving DecidableEq

/-- The index `telegram_turn_messages_complete_scope_idx`. -/
def TurnMessageRow.Clash (r s : TurnMessageRow) : Prop :=
  r.scope = s.scope ∧ r.turnId = s.turnId ∧ r.chunkIndex = s.chunkIndex

instance : DecidableRel TurnMessageRow.Clash := fun _ _ => inferInstanceAs (Decidable (_ ∧ _))

namespace TurnMessageRow

/-- `status IN ('sent', 'active')`. -/
def shown (r : TurnMessageRow) : Bool := r.status == .sent || r.status == .active

/-- The message is shown, and not retired. -/
def live (r : TurnMessageRow) : Bool :=
  (r.lifecycle == .active || r.lifecycle == .sent) && r.shown

/-- The message shows a chunk of this turn. -/
def ofTurn (scope : TurnScope) (turnId : String) (r : TurnMessageRow) : Bool :=
  r.scope == scope && r.turnId == turnId

end TurnMessageRow

inductive TargetStatus
  | frozen
  | applying
  | applied
  | failed
  | unknown
  deriving DecidableEq, Repr

structure TurnTargetRow where
  operationId : String
  scope : TurnScope
  targetTurnId : String
  tailFingerprint : String
  targetRevision : ℕ
  oldMessageIds : List ℤ
  status : TargetStatus
  deriving DecidableEq

def TurnTargetRow.Clash (r s : TurnTargetRow) : Prop := r.operationId = s.operationId

instance : DecidableRel TurnTargetRow.Clash := fun _ _ => inferInstanceAs (Decidable (_ = _))

/-- The target of a command, as it is read back. -/
structure FrozenTurnTarget where
  operationId : String
  scope : TurnScope
  targetTurnId : String
  tailFingerprint : String
  targetRevision : ℕ
  oldMessageIds : List ℤ
  status : TargetStatus
  deriving DecidableEq

structure TurnDb where
  deliveries : Table DeliveryRow DeliveryRow.Clash
  messages : Table TurnMessageRow TurnMessageRow.Clash
  targets : Table TurnTargetRow TurnTargetRow.Clash
  deriving DecidableEq

namespace TurnDb

def empty : TurnDb := ⟨.empty, .empty, .empty⟩

/-- The target of an operation. -/
def target? (db : TurnDb) (operationId : String) : Option TurnTargetRow :=
  db.targets.rows.find? (·.operationId == operationId)

/-- The messages that show the turn, by their chunk indices. -/
def shownMessages (db : TurnDb) (scope : TurnScope) (turnId : String) : List TurnMessageRow :=
  (db.messages.rows.filter fun r => r.ofTurn scope turnId && r.live).insertionSort
    fun r s => r.chunkIndex ≤ s.chunkIndex

end TurnDb

/-! ## Changes of rows -/

/-- The updates of rows of `channel_deliveries`. -/
inductive DeliveryChange
  | sending
  | sent (messageId : ℤ)
  | unknown
  /-- What was sent, or is being sent, could not be recorded. -/
  | unconfirmed
  | retryPending (nextAttemptAt : String)
  | failed
  deriving DecidableEq

namespace DeliveryChange

/-- The `SET` clause. -/
def set (u : DeliveryChange) (now : String) (r : DeliveryRow) : DeliveryRow :=
  match u with
  | sending => { r with status := .sending, updatedAt := now }
  | sent messageId =>
    { r with externalMessageId := some messageId, status := .sent, updatedAt := now }
  | unknown | unconfirmed => { r with status := .unknown, updatedAt := now }
  | retryPending nextAttemptAt =>
    { r with status := .retryPending, nextAttemptAt := some nextAttemptAt, updatedAt := now }
  | failed => { r with status := .failed, updatedAt := now }

/-- What the `WHERE` clause asks of the status. -/
def guard (u : DeliveryChange) (status : DeliveryStatus) : Bool :=
  match u with
  | sending => status == .pending || status == .retryPending
  | unconfirmed => status == .sending || status == .sent
  | sent _ | unknown | retryPending _ | failed => status == .sending

@[simp] theorem set_id (u : DeliveryChange) (now : String) (r : DeliveryRow) :
    (u.set now r).id = r.id := by
  cases u <;> rfl

def change (u : DeliveryChange) (now : String) : Table.Change DeliveryRow DeliveryRow.Clash where
  set := u.set now
  left r s := by simp only [DeliveryRow.Clash, set_id]
  right r s := by simp only [DeliveryRow.Clash, set_id]

end DeliveryChange

/-- The updates of rows of `telegram_turn_messages`. -/
inductive TurnMessageChange
  /-- Another text is shown. -/
  | render (contentHash : String) (renderVersion : ℕ)
  /-- Another text is shown by another message. -/
  | replace (messageId : ℤ) (contentHash : String) (renderVersion : ℕ)
  | retire
  | mark (status : TurnMessageStatus)
  deriving DecidableEq

namespace TurnMessageChange

/-- The `SET` clause. -/
def set (u : TurnMessageChange) (now : String) (r : TurnMessageRow) : TurnMessageRow :=
  match u with
  | render contentHash renderVersion =>
    { r with contentHash, renderVersion, status := .sent, updatedAt := now }
  | replace messageId contentHash renderVersion =>
    { r with messageId, contentHash, renderVersion, status := .sent, lifecycle := .active
             updatedAt := now }
  | retire => { r with status := .retired, lifecycle := .retired, updatedAt := now }
  | mark status =>
    { r with status, updatedAt := now
             lifecycle := if status = .deleted ∨ status = .revoked then .retired else .active }

theorem set_place (u : TurnMessageChange) (now : String) (r : TurnMessageRow) :
    (u.set now r).scope = r.scope ∧ (u.set now r).turnId = r.turnId ∧
      (u.set now r).chunkIndex = r.chunkIndex := by
  cases u <;> exact ⟨rfl, rfl, rfl⟩

def change (u : TurnMessageChange) (now : String) :
    Table.Change TurnMessageRow TurnMessageRow.Clash where
  set := u.set now
  left r s := by
    obtain ⟨hscope, hturn, hchunk⟩ := u.set_place now r
    simp only [TurnMessageRow.Clash, hscope, hturn, hchunk]
  right r s := by
    obtain ⟨hscope, hturn, hchunk⟩ := u.set_place now r
    simp only [TurnMessageRow.Clash, hscope, hturn, hchunk]

end TurnMessageChange

/-- The status of a target is set. -/
def setTargetStatus (status : TargetStatus) : Table.Change TurnTargetRow TurnTargetRow.Clash where
  set r := { r with status }
  left _ _ := Iff.rfl
  right _ _ := Iff.rfl

/-! ## The statements -/

/-- How the transaction that replaces a message has ended. -/
inductive Replacement
  | replaced
  | ledgerStale
  | deliveryStale
  deriving DecidableEq

inductive TurnStatement
  | insertDelivery (id botId : String) (chatId : ℤ) (kind : MessageKind) (turnId : Option String)
      (now : String)
  | changeDelivery (u : DeliveryChange) (id now : String)
  | insertMessage (metadata : TurnMetadata) (chunkIndex : ℕ) (messageId : ℤ)
      (contentHash : String) (renderVersion : ℕ) (now : String)
  | renderChunk (scope : TurnScope) (turnId : String) (chunkIndex : ℕ) (messageId : ℤ)
      (targetRevision : ℕ) (contentHash : String) (nextRevision : ℕ) (now : String)
  | replaceChunk (scope : TurnScope) (turnId : String) (chunkIndex : ℕ) (oldMessageId : ℤ)
      (targetRevision : ℕ) (newMessageId : ℤ) (contentHash : String) (nextRevision : ℕ)
      (deliveryId now : String)
  | selectRevision (scope : TurnScope) (turnId : String)
  | retireTurn (scope : TurnScope) (turnId operationId now : String)
  | markMessage (scope : TurnScope) (messageId : ℤ) (status : TurnMessageStatus) (now : String)
  | selectLastTurn (scope : TurnScope)
  | selectTurnMessages (scope : TurnScope) (turnId : String)
  | selectTarget (operationId : String) (scope : TurnScope)
  | insertTarget (row : TurnTargetRow)
  | casTarget (operationId : String) (scope : TurnScope) (expected next : TargetStatus)

namespace TurnStatement

/-- What a statement answers: the rows it selects, or how many it changed. -/
@[reducible] def Rows : TurnStatement → Type
  | insertDelivery .. => Unit
  | changeDelivery .. => ℕ
  | insertMessage .. => Unit
  | renderChunk .. => ℕ
  | replaceChunk .. => Replacement
  | selectRevision .. => Option ℕ
  | retireTurn .. => ℕ
  | markMessage .. => ℕ
  | selectLastTurn _ => Option String
  | selectTurnMessages .. => List ℤ
  | selectTarget .. => Option TurnTargetRow
  | insertTarget _ => ℕ
  | casTarget .. => ℕ

abbrev Reply (s : TurnStatement) := Except SqlError s.Rows

/-- `ORDER BY key DESC, id DESC LIMIT 1`, for rows in the order of their ids. -/
def latest {α : Type} (key : α → String) : List α → Option α
  | [] => none
  | a :: rest =>
    match latest key rest with
    | none => some a
    | some b => if (key a).toList ≤ (key b).toList then some b else some a

/-- The row of a new attempt to deliver a message. -/
def newDelivery (id botId : String) (chatId : ℤ) (kind : MessageKind) (turnId : Option String)
    (now : String) : DeliveryRow :=
  { id, botId, chatId, externalMessageId := none, messageKind := kind, turnId, status := .pending
    nextAttemptAt := none, createdAt := now, updatedAt := now }

/-- The row of a message that shows a chunk for the first time. -/
def newMessage (metadata : TurnMetadata) (chunkIndex : ℕ) (messageId : ℤ) (contentHash : String)
    (renderVersion : ℕ) (now : String) : TurnMessageRow :=
  { scope := metadata.scope, turnId := metadata.turnId, operationId := metadata.operationId
    chunkIndex, messageId, contentHash, renderVersion, status := .sent, lifecycle := .active
    updatedAt := now }

/-- The message still shows this chunk of the turn, in no later revision. -/
def showsChunk (scope : TurnScope) (turnId : String) (chunkIndex : ℕ) (messageId : ℤ)
    (targetRevision : ℕ) (r : TurnMessageRow) : Bool :=
  r.ofTurn scope turnId && r.chunkIndex == chunkIndex && r.messageId == messageId &&
    decide (r.renderVersion ≤ targetRevision) && r.live

/-- The target of the operation, in its scope. -/
def isTarget (operationId : String) (scope : TurnScope) (r : TurnTargetRow) : Bool :=
  r.operationId == operationId && r.scope == scope

/-- The effect of a statement that does not fail for reasons outside the tables. -/
def exec : (s : TurnStatement) → TurnDb → s.Reply × TurnDb
  | insertDelivery id botId chatId kind turnId now, db =>
    match db.deliveries.insert? (newDelivery id botId chatId kind turnId now) with
    | some deliveries => (.ok (), { db with deliveries })
    | none => (.error .uniqueViolation, db)
  | changeDelivery u id now, db =>
    let p := fun r : DeliveryRow => r.id == id && u.guard r.status
    (.ok (db.deliveries.affected p),
      { db with deliveries := db.deliveries.update p (u.change now) })
  | insertMessage metadata chunkIndex messageId contentHash renderVersion now, db =>
    match db.messages.insert?
        (newMessage metadata chunkIndex messageId contentHash renderVersion now) with
    | some messages => (.ok (), { db with messages })
    | none => (.error .uniqueViolation, db)
  | renderChunk scope turnId chunkIndex messageId targetRevision contentHash nextRevision now, db =>
    let p := showsChunk scope turnId chunkIndex messageId targetRevision
    let u := TurnMessageChange.render contentHash nextRevision
    (.ok (db.messages.affected p), { db with messages := db.messages.update p (u.change now) })
  | replaceChunk scope turnId chunkIndex oldMessageId targetRevision newMessageId contentHash
      nextRevision deliveryId now, db =>
    let p := showsChunk scope turnId chunkIndex oldMessageId targetRevision
    let q := fun r : DeliveryRow => r.id == deliveryId && r.status == .sending
    if db.messages.affected p ≠ 1 then (.ok .ledgerStale, db)
    else if db.deliveries.affected q ≠ 1 then (.ok .deliveryStale, db)
    else
      (.ok .replaced,
        { db with
          messages := db.messages.update p
            ((TurnMessageChange.replace newMessageId contentHash nextRevision).change now)
          deliveries := db.deliveries.update q ((DeliveryChange.sent newMessageId).change now) })
  | selectRevision scope turnId, db =>
    (.ok (((db.messages.rows.filter fun r => r.ofTurn scope turnId && r.live).map
      (·.renderVersion)).max?), db)
  | retireTurn scope turnId operationId now, db =>
    let p := fun r : TurnMessageRow =>
      r.ofTurn scope turnId && r.operationId != operationId && r.live
    (.ok (db.messages.affected p),
      { db with messages := db.messages.update p (TurnMessageChange.retire.change now) })
  | markMessage scope messageId status now, db =>
    let p := fun r : TurnMessageRow => r.scope == scope && r.messageId == messageId && r.shown
    (.ok (db.messages.affected p),
      { db with messages := db.messages.update p ((TurnMessageChange.mark status).change now) })
  | selectLastTurn scope, db =>
    (.ok ((latest (·.updatedAt) (db.messages.rows.filter fun r => r.scope == scope && r.live)).map
      (·.turnId)), db)
  | selectTurnMessages scope turnId, db =>
    (.ok ((db.shownMessages scope turnId).map (·.messageId)), db)
  | selectTarget operationId scope, db =>
    (.ok (db.targets.rows.find? (isTarget operationId scope)), db)
  | insertTarget row, db =>
    match db.targets.insert? row with
    | some targets => (.ok 1, { db with targets })
    | none => (.ok 0, db)
  | casTarget operationId scope expected next, db =>
    let p := fun r : TurnTargetRow => isTarget operationId scope r && r.status == expected
    (.ok (db.targets.affected p), { db with targets := db.targets.update p (setTargetStatus next) })

end TurnStatement

end ImBridge
