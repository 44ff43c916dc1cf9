import ImBridge.Interleaving.Pool
import ImBridge.Relational.Table
import ImBridge.Relational.Transaction
import ImBridge.Telegram.Panel

/-!
# The tables of panels

The places of panels, and the effects on them: replacements of a panel, the tokens of its buttons,
and the actions of buttons that were pressed. Each method on the tables is one transaction. What a
method takes from its surroundings, the time and new ids and random bytes, is among its arguments;
a payload stands for its JSON text.

## Main definitions

* `SlotRow`, `EffectRow`, `PanelDb`: the tables `telegram_panel_slots` and `telegram_panel_effects`
* `PanelStore.saveSlot` to `PanelStore.completePanelReplace`: the methods on panels
* `CallbackStore.insertToken` to `CallbackStore.updateActionEffect`: the methods on buttons
* `PanelStoreCall`, `panelSemantics`: calls of these methods, which may fail without effect

## Main results

* `PanelStoreCall.moves_transaction`: what the methods do, from what their statements do
-/

namespace ImBridge

open Interleaving Relational Transaction

/-! ## The tables -/

structure SlotRow where
  panelId : String
  accountId : String
  numericBotId : ℤ
  chatId : ℤ
  messageId : ℤ
  kind : PanelKind
  revision : ℤ
  active : Bool
  expiresAtUnix : ℤ
  deriving DecidableEq

/-- The primary key `panel_id`, and one active panel for a bot in a chat. -/
def SlotRow.Clash (r s : SlotRow) : Prop :=
  r.panelId = s.panelId ∨
    (r.active = true ∧ s.active = true ∧ r.numericBotId = s.numericBotId ∧ r.chatId = s.chatId)

instance : DecidableRel SlotRow.Clash := fun _ _ => inferInstanceAs (Decidable (_ ∨ _))

inductive EffectType
  | replace
  | callbackToken
  | callbackAction
  deriving DecidableEq, Repr

inductive EffectStatus
  | pending
  | sending
  | sent
  | failed
  | unknown
  | active
  | consumed
  deriving DecidableEq, Repr

/-- The states that an effect can have later on. -/
def EffectStatus.advances : EffectStatus → EffectStatus → Bool
  | active, consumed => true
  | pending, sending | pending, sent | pending, failed | pending, unknown => true
  | sending, sent | sending, failed | sending, unknown => true
  | status, status' => status == status'

theorem EffectStatus.advances_trans {a b c : EffectStatus} (hab : a.advances b = true)
    (hbc : b.advances c = true) : a.advances c = true := by
  cases a <;> cases b <;> cases hab <;> cases c <;> cases hbc <;> rfl

/-- What the token of a button is bound to. -/
structure CallbackBinding where
  accountId : String
  internalBotId : String
  numericBotId : ℤ
  chatId : ℤ
  authorizedUserId : String
  panelId : String
  messageId : ℤ
  panelRevision : UInt64
  catalogRevision : Option String
  expiresAtUnix : ℤ
  action : CallbackAction
  actionNonce : String
  deriving DecidableEq, Repr

inductive EffectPayload
  | replacement (expectedRevision : UInt64) (slot nextSlot : PanelSlot) (panel : TelegramPanel)
  | binding (binding : CallbackBinding)
  | action (action : CallbackAction)
  deriving DecidableEq

structure EffectRow where
  effectId : String
  panelId : String
  chatId : ℤ
  effectType : EffectType
  payload : EffectPayload
  status : EffectStatus
  actionNonce : Option String := none
  attemptToken : Option String := none
  expectedRevision : Option ℤ := none
  deriving DecidableEq

/-- The primary key `effect_id`, and `action_nonce` where there is one. -/
def EffectRow.Clash (r s : EffectRow) : Prop :=
  r.effectId = s.effectId ∨ (r.actionNonce ≠ none ∧ r.actionNonce = s.actionNonce)

instance : DecidableRel EffectRow.Clash := fun _ _ => inferInstanceAs (Decidable (_ ∨ _))

structure PanelDb where
  slots : Table SlotRow SlotRow.Clash
  effects : Table EffectRow EffectRow.Clash
  deriving DecidableEq

namespace PanelDb

def empty : PanelDb := ⟨.empty, .empty⟩

/-- The place of the panel. -/
def slot? (db : PanelDb) (panelId : String) : Option SlotRow :=
  db.slots.rows.find? (·.panelId == panelId)

end PanelDb

theorem pins_panelId (panelId : String) : Table.Pins SlotRow.Clash (·.panelId == panelId) := by
  intro r s hr hs
  simp only [beq_iff_eq] at hr hs
  exact .inl (hr.trans hs.symm)

theorem pins_effectId (effectId : String) :
    Table.Pins EffectRow.Clash (·.effectId == effectId) := by
  intro r s hr hs
  simp only [beq_iff_eq] at hr hs
  exact .inl (hr.trans hs.symm)

/-! ## Statements -/

/-- Transactions on the tables of panels. -/
abbrev PanelTx (α : Type) := Transaction PanelDb AppError α

namespace PanelTx

/-- An update of places that may break a constraint. -/
def assignSlots (p : SlotRow → Bool) (f : SlotRow → SlotRow) : PanelTx Unit := fun db =>
  match db.slots.assign? p f with
  | some slots => .ok ((), { db with slots })
  | none => .error .database

def insertSlot (row : SlotRow) : PanelTx Unit := fun db =>
  match db.slots.insert? row with
  | some slots => .ok ((), { db with slots })
  | none => .error .database

/-- An update of places that must concern one of them. -/
def changeSlot (p : SlotRow → Bool) (change : Table.Change SlotRow SlotRow.Clash)
    (error : AppError) : PanelTx Unit := fun db =>
  if db.slots.affected p = 1 then .ok ((), { db with slots := db.slots.update p change })
  else .error error

def insertEffect (row : EffectRow) : PanelTx Unit := fun db =>
  match db.effects.insert? row with
  | some effects => .ok ((), { db with effects })
  | none => .error .database

/-- `SET status = ?`. -/
def setStatus (status : EffectStatus) : Table.Change EffectRow EffectRow.Clash where
  set r := { r with status }
  left _ _ := Iff.rfl
  right _ _ := Iff.rfl

/-- An update of the state of effects that must concern one of them. -/
def changeEffect (p : EffectRow → Bool) (status : EffectStatus) (error : AppError) :
    PanelTx Unit := fun db =>
  if db.effects.affected p = 1 then
    .ok ((), { db with effects := db.effects.update p (setStatus status) })
  else .error error

variable {db db' : PanelDb} {u : Unit}

theorem run_changeSlot_eq_ok {p : SlotRow → Bool} {change : Table.Change SlotRow SlotRow.Clash}
    {error : AppError} : (changeSlot p change error).run db = .ok (u, db') ↔
      db.slots.affected p = 1 ∧ db' = { db with slots := db.slots.update p change } := by
  simp only [changeSlot, StateT.run]
  split
  · simp_all [eq_comm]
  · simp_all

theorem run_insertEffect_eq_ok {row : EffectRow} :
    (insertEffect row).run db = .ok (u, db') ↔
      ∃ effects, db.effects.insert? row = some effects ∧ db' = { db with effects } := by
  simp only [insertEffect, StateT.run]
  cases db.effects.insert? row with
  | none => simp
  | some effects => simp [eq_comm]

theorem run_changeEffect_eq_ok {p : EffectRow → Bool} {status : EffectStatus} {error : AppError} :
    (changeEffect p status error).run db = .ok (u, db') ↔ db.effects.affected p = 1 ∧
      db' = { db with effects := db.effects.update p (setStatus status) } := by
  simp only [changeEffect, StateT.run]
  split
  · simp_all [eq_comm]
  · simp_all

end PanelTx

/-! ## Methods on panels -/

namespace PanelStore

open PanelTx

def encodeRevision (revision : UInt64) : AppResult ℤ :=
  if revision.toNat < 2 ^ 63 then .ok revision.toNat
  else .error (.badRequest "TELEGRAM_PANEL_REVISION_INVALID"
    "panel revision exceeds SQLite integer range")

/-- The row of a place. -/
def slotRow (slot : PanelSlot) (revision : ℤ) : SlotRow :=
  { panelId := slot.panelId, accountId := slot.accountId, numericBotId := slot.numericBotId
    chatId := slot.chatId, messageId := slot.messageId, kind := slot.kind, revision
    active := slot.active, expiresAtUnix := slot.expiresAtUnix }

/-- The other active places of the account in the chat. -/
def retires (slot : PanelSlot) (r : SlotRow) : Bool :=
  r.accountId == slot.accountId && r.numericBotId == slot.numericBotId &&
    r.chatId == slot.chatId && r.active && r.panelId != slot.panelId

/-- `INSERT … ON CONFLICT(panel_id) DO UPDATE`, which sets every column. -/
def upsertSlot (row : SlotRow) : PanelTx Unit := do
  match (← get).slot? row.panelId with
  | none => insertSlot row
  | some _ => assignSlots (·.panelId == row.panelId) fun _ => row

def saveSlot (slot : PanelSlot) : PanelTx Unit := do
  if slot.active then assignSlots (retires slot) fun r => { r with active := false }
  let revision ← encodeRevision slot.revision
  upsertSlot (slotRow slot revision)

/-- The active place of the slot at the revision. -/
def isAt (slot : PanelSlot) (revision : ℤ) (r : SlotRow) : Bool :=
  r.panelId == slot.panelId && r.accountId == slot.accountId &&
    r.numericBotId == slot.numericBotId && r.chatId == slot.chatId && r.revision == revision &&
    r.active

/-- The same replacement waits or is being made. -/
def isUnderWay (slot : PanelSlot) (payload : EffectPayload) (r : EffectRow) : Bool :=
  r.panelId == slot.panelId && r.effectType == .replace &&
    (r.status == .pending || r.status == .sending) && r.payload == payload

def claimPanelRevision (effectId : String) (slot : PanelSlot) (expectedRevision : UInt64)
    (panel : TelegramPanel) (nextSlot : PanelSlot) : PanelTx (Option String) := do
  let payload := .replacement expectedRevision slot nextSlot panel
  let revision ← encodeRevision expectedRevision
  let db ← get
  if db.slots.rows.any (isAt slot revision) && !db.effects.rows.any (isUnderWay slot payload) then
    insertEffect
      { effectId, panelId := slot.panelId, chatId := slot.chatId, effectType := .replace, payload
        status := .pending, attemptToken := some effectId, expectedRevision := some revision }
    return some effectId
  else return none

/-- The replacement at the revision, in the state. -/
def isReplacement (effectId : String) (slot : PanelSlot) (revision : ℤ) (status : EffectStatus)
    (r : EffectRow) : Bool :=
  r.effectId == effectId && r.attemptToken == some effectId && r.panelId == slot.panelId &&
    r.chatId == slot.chatId && r.expectedRevision == some revision && r.effectType == .replace &&
    r.status == status

def markPanelRevisionStatus (effectId : String) (slot : PanelSlot) (expectedRevision : UInt64)
    (status : EffectStatus) : PanelTx Unit := do
  let expectedStatus := if status = .sending then .pending else .sending
  let revision ← encodeRevision expectedRevision
  changeEffect (isReplacement effectId slot revision expectedStatus) status
    (.conflict "TELEGRAM_PANEL_EFFECT_CAS_CONFLICT" "panel effect status changed concurrently")

def markPanelRevisionSending (effectId : String) (slot : PanelSlot) (expectedRevision : UInt64) :
    PanelTx Unit :=
  markPanelRevisionStatus effectId slot expectedRevision .sending

def markPanelRevisionSent (effectId : String) (slot : PanelSlot) (expectedRevision : UInt64) :
    PanelTx Unit :=
  markPanelRevisionStatus effectId slot expectedRevision .sent

def markPanelRevisionFailed (effectId : String) (slot : PanelSlot) (expectedRevision : UInt64) :
    PanelTx Unit :=
  markPanelRevisionStatus effectId slot expectedRevision .failed

/-- `SET revision = ?, kind = ?, message_id = ?, expires_at_unix = ?`. -/
def showNext (revision : ℤ) (nextSlot : PanelSlot) : Table.Change SlotRow SlotRow.Clash where
  set r := { r with revision, kind := nextSlot.kind, messageId := nextSlot.messageId
                    expiresAtUnix := nextSlot.expiresAtUnix }
  left _ _ := Iff.rfl
  right _ _ := Iff.rfl

def completePanelReplace (effectId : String) (slot : PanelSlot) (expectedRevision : UInt64)
    (nextSlot : PanelSlot) : PanelTx Unit := do
  let revision ← encodeRevision nextSlot.revision
  let expected ← encodeRevision expectedRevision
  changeSlot (isAt slot expected) (showNext revision nextSlot)
    (.conflict "TELEGRAM_PANEL_STALE" "panel slot revision changed before effect confirmation")
  changeEffect (isReplacement effectId slot expected .sending) .sent
    (.conflict "TELEGRAM_PANEL_EFFECT_CAS_CONFLICT"
      "panel effect confirmation changed concurrently")

end PanelStore

/-! ## Methods on buttons -/

def opaqueCallbackDataBytes : ℕ := 35

/-- The check of `validate_opaque_token`. -/
def isOpaqueToken (data : String) : Bool :=
  data.utf8ByteSize == opaqueCallbackDataBytes && data.toList.all (·.toNat < 128) &&
    startsWith "cb:" data && (data.toList.drop 3).all isAsciiHexdigit

def validateOpaqueToken (data : String) : AppResult Unit :=
  if !isOpaqueToken data then
    .error (.badRequest "TELEGRAM_CALLBACK_INVALID" "callback token 无效或已过期")
  else .ok ()

/-- A button that was pressed: the arguments of `consume`. -/
structure CallbackPress where
  token : String
  accountId : String
  internalBotId : String
  numericBotId : ℤ
  chatId : ℤ
  authorizedUserId : String
  panelId : String
  messageId : ℤ
  panelRevision : UInt64
  deriving DecidableEq

namespace CallbackStore

open PanelTx Transaction

/-- The row of a token that is issued. -/
def tokenRow (digest : String → String) (token : String) (binding : CallbackBinding) : EffectRow :=
  { effectId := digest token, panelId := binding.panelId, chatId := binding.chatId
    effectType := .callbackToken, payload := .binding binding, status := .active
    actionNonce := some binding.actionNonce }

/-- The statement of `issue`, for a new token. -/
def insertToken (digest : String → String) (token : String) (binding : CallbackBinding) :
    PanelTx Unit :=
  insertEffect (tokenRow digest token binding)

/-- The row of an action that waits. -/
def actionRow (effectId : String) (binding : CallbackBinding) : EffectRow :=
  { effectId, panelId := binding.panelId, chatId := binding.chatId
    effectType := .callbackAction, payload := .action binding.action, status := .pending
    attemptToken := some effectId }

def decodeBinding : EffectPayload → AppResult CallbackBinding
  | .binding binding => .ok binding
  | _ => .error (.internal "callback binding is invalid")

/-- The button is not the one that the token was issued for, or the token has expired. -/
def mismatch (press : CallbackPress) (now : ℤ) (storedNonce : Option String)
    (binding : CallbackBinding) : Bool :=
  isBlank binding.actionNonce || storedNonce != some binding.actionNonce ||
    binding.accountId != press.accountId || binding.internalBotId != press.internalBotId ||
    binding.numericBotId != press.numericBotId || binding.chatId != press.chatId ||
    binding.authorizedUserId != press.authorizedUserId || binding.panelId != press.panelId ||
    binding.messageId != press.messageId || binding.panelRevision != press.panelRevision ||
    decide (binding.expiresAtUnix ≤ now)

/-- `TELEGRAM_CALLBACK_SCOPE_MISMATCH`. -/
def scopeMismatch : AppError :=
  .badRequest "TELEGRAM_CALLBACK_SCOPE_MISMATCH" "callback 已失效，请重新打开面板"

/-- `TELEGRAM_CALLBACK_REPLAYED`. -/
def replayed : AppError := .conflict "TELEGRAM_CALLBACK_REPLAYED" "callback 已处理"

def consume (digest : String → String) (press : CallbackPress) (now : ℤ) (effectId : String) :
    PanelTx (CallbackAction × String) := do
  validateOpaqueToken press.token
  demand (¬(press.numericBotId ≤ 0 ∨ press.messageId ≤ 0)) scopeMismatch
  let db ← get
  match db.effects.rows.find?
      fun r => r.effectId == digest press.token && r.chatId == press.chatId with
  | none => throw (.badRequest "TELEGRAM_CALLBACK_INVALID" "callback 已失效")
  | some row =>
    demand (row.status = .active) replayed
    let binding ← decodeBinding row.payload
    demand (mismatch press now row.actionNonce binding = false) scopeMismatch
    changeEffect (fun r => r.effectId == digest press.token && r.status == .active &&
      r.payload == row.payload && r.actionNonce == some binding.actionNonce) .consumed replayed
    insertEffect (actionRow effectId binding)
    return (binding.action, effectId)

/-- The action of a button, in the state. -/
def isAction (effectId : String) (status : EffectStatus) (r : EffectRow) : Bool :=
  r.effectId == effectId && r.attemptToken == some effectId && r.effectType == .callbackAction &&
    r.status == status

def claimActionEffect (effectId : String) : PanelTx Unit :=
  changeEffect (isAction effectId .pending) .sending
    (.conflict "TELEGRAM_CALLBACK_EFFECT_CAS_CONFLICT"
      "callback action effect was already consumed")

def updateActionEffect (effectId : String) (status : EffectStatus) : PanelTx Unit :=
  changeEffect (isAction effectId .sending) status
    (.conflict "TELEGRAM_CALLBACK_EFFECT_CAS_CONFLICT"
      "callback action effect terminal state changed concurrently")

def completeActionEffect (effectId : String) : PanelTx Unit := updateActionEffect effectId .sent

def failActionEffect (effectId : String) (unknown : Bool) : PanelTx Unit :=
  updateActionEffect effectId (if unknown then .unknown else .failed)

end CallbackStore

/-! ## Calls -/

/-- A call of a method, with what it takes from its surroundings. -/
inductive PanelStoreCall
  | saveSlot (slot : PanelSlot)
  | claimPanelRevision (effectId : String) (slot : PanelSlot) (expectedRevision : UInt64)
      (panel : TelegramPanel) (nextSlot : PanelSlot)
  | markPanelRevisionSending (effectId : String) (slot : PanelSlot) (expectedRevision : UInt64)
  | markPanelRevisionSent (effectId : String) (slot : PanelSlot) (expectedRevision : UInt64)
  | markPanelRevisionFailed (effectId : String) (slot : PanelSlot) (expectedRevision : UInt64)
  | completePanelReplace (effectId : String) (slot : PanelSlot) (expectedRevision : UInt64)
      (nextSlot : PanelSlot)
  | insertToken (token : String) (binding : CallbackBinding)
  | consume (press : CallbackPress) (now : ℤ) (effectId : String)
  | claimActionEffect (effectId : String)
  | completeActionEffect (effectId : String)
  | failActionEffect (effectId : String) (unknown : Bool)
  deriving DecidableEq

namespace PanelStoreCall

@[reducible] def Result : PanelStoreCall → Type
  | claimPanelRevision .. => Option String
  | consume .. => CallbackAction × String
  | _ => Unit

/-- The transaction of a call. -/
def transaction (digest : String → String) : (c : PanelStoreCall) → PanelTx c.Result
  | saveSlot slot => PanelStore.saveSlot slot
  | claimPanelRevision effectId slot expectedRevision panel nextSlot =>
    PanelStore.claimPanelRevision effectId slot expectedRevision panel nextSlot
  | markPanelRevisionSending effectId slot expectedRevision =>
    PanelStore.markPanelRevisionSending effectId slot expectedRevision
  | markPanelRevisionSent effectId slot expectedRevision =>
    PanelStore.markPanelRevisionSent effectId slot expectedRevision
  | markPanelRevisionFailed effectId slot expectedRevision =>
    PanelStore.markPanelRevisionFailed effectId slot expectedRevision
  | completePanelReplace effectId slot expectedRevision nextSlot =>
    PanelStore.completePanelReplace effectId slot expectedRevision nextSlot
  | insertToken token binding => CallbackStore.insertToken digest token binding
  | consume press now effectId => CallbackStore.consume digest press now effectId
  | claimActionEffect effectId => CallbackStore.claimActionEffect effectId
  | completeActionEffect effectId => CallbackStore.completeActionEffect effectId
  | failActionEffect effectId unknown => CallbackStore.failActionEffect effectId unknown

section Moves

variable {digest : String → String} {R : PanelDb → PanelDb → Prop} (hrefl : ∀ db, R db db)
  (htrans : ∀ db db' db'', R db db' → R db' db'' → R db db'')
  (hinsert : ∀ row, Moves R (PanelTx.insertEffect row))
  (hchange : ∀ p status error, (∀ r : EffectRow, p r = true → r.status.advances status = true) →
    Moves R (PanelTx.changeEffect p status error))
include hrefl htrans hchange

theorem moves_markPanelRevisionStatus (effectId : String) (slot : PanelSlot)
    (expectedRevision : UInt64) {status : EffectStatus}
    (hstatus :
      (if status = .sending then EffectStatus.pending else .sending).advances status = true) :
    Moves R
      (PanelStore.markPanelRevisionStatus effectId slot expectedRevision status) := by
  apply moves_bind htrans (moves_lift hrefl _)
  intro revision
  apply hchange
  intro r hr
  simp only [PanelStore.isReplacement, Bool.and_eq_true, beq_iff_eq] at hr
  rw [hr.2]
  exact hstatus

include hinsert

/-- **What the statements on effects do, the methods do**, apart from those that write places. -/
theorem moves_transaction (c : PanelStoreCall)
    (hsave : ∀ slot, c = saveSlot slot → Moves R (PanelStore.saveSlot slot))
    (hcomplete : ∀ effectId slot expectedRevision nextSlot,
      c = completePanelReplace effectId slot expectedRevision nextSlot →
        Moves R
          (PanelStore.completePanelReplace effectId slot expectedRevision nextSlot)) :
    Moves R (c.transaction digest) := by
  have hupdate : ∀ effectId status, EffectStatus.sending.advances status = true →
      Moves R (CallbackStore.updateActionEffect effectId status) := by
    intro effectId status hstatus
    apply hchange
    intro r hr
    simp only [CallbackStore.isAction, Bool.and_eq_true, beq_iff_eq] at hr
    rw [hr.2]
    exact hstatus
  cases c with
  | saveSlot slot => exact hsave slot rfl
  | completePanelReplace effectId slot expectedRevision nextSlot =>
    exact hcomplete effectId slot expectedRevision nextSlot rfl
  | claimPanelRevision effectId slot expectedRevision panel nextSlot =>
    apply moves_bind htrans (moves_lift hrefl _)
    intro revision
    apply moves_bind htrans (moves_get hrefl)
    intro db
    split
    · apply moves_bind htrans (hinsert _)
      exact fun _ => moves_pure hrefl
    · exact moves_pure hrefl
  | markPanelRevisionSending effectId slot expectedRevision
  | markPanelRevisionSent effectId slot expectedRevision
  | markPanelRevisionFailed effectId slot expectedRevision =>
    exact moves_markPanelRevisionStatus hrefl htrans hchange effectId slot expectedRevision rfl
  | insertToken token binding => exact hinsert _
  | consume press now effectId =>
    apply moves_bind htrans (moves_lift hrefl _)
    intro _
    apply moves_bind htrans (moves_demand hrefl)
    intro _
    apply moves_bind htrans (moves_get hrefl)
    intro db
    split
    · exact moves_throw
    · apply moves_bind htrans (moves_demand hrefl)
      intro _
      apply moves_bind htrans (moves_lift hrefl _)
      intro binding
      apply moves_bind htrans (moves_demand hrefl)
      intro _
      refine moves_bind htrans (hchange _ _ _ ?_) fun _ => ?_
      · intro r hr
        simp only [Bool.and_eq_true, beq_iff_eq] at hr
        rw [hr.1.1.2]
        rfl
      · apply moves_bind htrans (hinsert _)
        exact fun _ => moves_pure hrefl
  | claimActionEffect effectId =>
    apply hchange
    intro r hr
    simp only [CallbackStore.isAction, Bool.and_eq_true, beq_iff_eq] at hr
    rw [hr.2]
    rfl
  | completeActionEffect effectId => exact hupdate effectId .sent rfl
  | failActionEffect effectId unknown =>
    apply hupdate
    cases unknown <;> rfl

end Moves

end PanelStoreCall

/-- The calls of the tasks that show panels. -/
inductive PanelCall
  | store (c : PanelStoreCall)
  | unixTimestamp
  | newId
  | randomBytes
  deriving DecidableEq

@[reducible] def PanelCall.Reply : PanelCall → Type
  | store c => AppResult c.Result
  | unixTimestamp => ℤ
  | newId => String
  | randomBytes => { raw : Bytes // raw.length = 16 }

abbrev panelCalls : Signature := ⟨PanelCall, PanelCall.Reply⟩

/-- Makes the call and returns its reply. -/
def askPanel (c : PanelCall) : Program panelCalls c.Reply := Program.perform (σ := panelCalls) c

/-- What a call may reply and do: a method is one transaction, or fails without effect. -/
def PanelCall.Effect (digest : String → String) (db : PanelDb) :
    (c : PanelCall) → c.Reply → PanelDb → Prop
  | store c, r, db' => (r, db') = (c.transaction digest).commit db ∨
    (r = .error .database ∧ db' = db)
  | _, _, db' => db' = db

section Effect

variable {digest : String → String} {db db' : PanelDb} {c : PanelStoreCall}

/-- A method that succeeds ran to its end. -/
theorem PanelCall.run_of_effect_ok {a : c.Result}
    (h : (PanelCall.store c).Effect digest db (.ok a) db') :
    (c.transaction digest).run db = .ok (a, db') := by
  rcases h with hcommit | ⟨herror, -⟩
  · have hdb : db' = _ := congrArg Prod.snd hcommit
    rw [hdb]
    exact run_eq_ok_of_commit (congrArg Prod.fst hcommit).symm
  · cases herror

/-- A method that fails changes nothing. -/
theorem PanelCall.eq_of_effect_error {e : AppError}
    (h : (PanelCall.store c).Effect digest db (.error e) db') : db' = db := by
  rcases h with hcommit | ⟨-, hdb⟩
  · have hdb : db' = _ := congrArg Prod.snd hcommit
    rw [hdb]
    exact commit_error (congrArg Prod.fst hcommit).symm
  · exact hdb

/-- The moves of the methods are the moves of the calls. -/
theorem PanelCall.move_of_effect {R : PanelDb → PanelDb → Prop} (hrefl : ∀ db, R db db)
    (hmoves : ∀ c : PanelStoreCall, Moves R (c.transaction digest)) {c : PanelCall}
    {r : c.Reply} (h : c.Effect digest db r db') : R db db' := by
  cases c with
  | store c =>
    cases r with
    | ok a => exact hmoves c db a db' (run_of_effect_ok h)
    | error e =>
      rw [eq_of_effect_error h]
      exact hrefl db
  | unixTimestamp | newId | randomBytes =>
    cases h
    exact hrefl db

end Effect

/-- The runs of any tasks on the tables of panels. -/
def panelSemantics (digest : String → String) (A : Type) : Semantics panelCalls A PanelDb where
  effect _ m c r db := c.Effect digest m.world r db
  drift _ _ := False

/-- The effect of a method that does not fail for reasons outside the tables. -/
def PanelCall.act (digest : String → String) (db : PanelDb) :
    (c : PanelCall) → Option (c.Reply × PanelDb)
  | store c => some ((c.transaction digest).commit db)
  | _ => none

theorem PanelCall.effect_of_act {digest : String → String} {db db' : PanelDb} {c : PanelCall}
    {r : c.Reply} (h : c.act digest db = some (r, db')) : c.Effect digest db r db' := by
  cases c with
  | store c => exact .inl (Option.some.inj h).symm
  | _ => cases h

end ImBridge
