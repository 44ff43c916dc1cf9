import ImBridge.Telegram.TurnCommands

/-!
# The calls of the commands on turns

Which calls the parts of an undo, revoke or redo make. Up to the compare-and-set that takes the
target, a command only reads, claims its operation and freezes the target; it carries out the
command in SillyTavern in one place, and touches messages only after that.

## Main definitions

* `ChatCall.begins`, `ChatCall.isCommand`, `ChatCall.isCleanup`: the calls that matter
* `ChatCall.lawful`: targets are inserted as `frozen`, and moved in the allowed way
* `ChatCall.tame`, `ChatCall.quiet`: the calls that take no target and carry out no command, and
  those of them that touch no message either

## Main results

* `quiet_undoPlan`, `quiet_revokePlan`, `quiet_redoPlan`, `quiet_claimedTarget`: up to its target, a
  command is quiet
* `tame_undoCleanup`, `tame_revokeCleanup`, `tame_redoCleanup`: what a command does to messages
-/

namespace ImBridge

open Interleaving TelegramDelivery Fallible ChatCall

/-- The statement writes to the tables of messages and of attempts to deliver them. -/
def TurnStatement.writesMessages : TurnStatement → Bool
  | insertDelivery .. | changeDelivery .. | insertMessage .. | renderChunk .. | replaceChunk ..
  | retireTurn .. | markMessage .. => true
  | _ => false

namespace ChatCall

/-- The call takes a frozen target. -/
def begins : ChatCall → Bool
  | turns (.casTarget _ _ .frozen _) => true
  | _ => false

/-- The call carries out a command in SillyTavern. -/
def isCommand : ChatCall → Bool
  | bridge _ (.execute ..) => true
  | _ => false

/-- The call touches messages, at Telegram or in the tables. -/
def isCleanup : ChatCall → Bool
  | telegram _ => true
  | turns s => s.writesMessages
  | _ => false

/-- Targets are inserted as `frozen`, and moved in the allowed way. -/
def lawful : ChatCall → Bool
  | turns (.insertTarget row) => row.status == .frozen
  | turns (.casTarget _ _ expected next) => expected.allowed next
  | _ => true

def tame (c : ChatCall) : Bool := c.lawful && !c.begins && !c.isCommand

def quiet (c : ChatCall) : Bool := c.tame && !c.isCleanup

end ChatCall

attribute [grind] ChatCall.begins isCommand isCleanup lawful
  tame quiet TurnStatement.writesMessages

/-- The task makes only such calls. -/
def Makes {α : Type} (ok : ChatCall → Bool) (p : ChatTask α) : Prop :=
  p.run.Uses fun c : ChatCall => ok c = true

section Rules

variable {ok : ChatCall → Bool} {α β : Type} {p : ChatTask α}

theorem Makes.mono {ok' : ChatCall → Bool} (h : Makes ok p) (hok : ∀ c, ok c = true → ok' c = true)
    : Makes ok' p :=
  Program.Uses.imp h hok

@[grind ←]
theorem makes_bind {f : α → ChatTask β} (hp : Makes ok p) (hf : ∀ a, Makes ok (f a)) :
    Makes ok (p >>= f) :=
  uses_bind hp hf

@[grind ←]
theorem makes_pure (a : α) : Makes ok (pure a : ChatTask α) := uses_pure a

@[grind ←]
theorem makes_throw (error : ChatError) : Makes ok (throw error : ChatTask α) :=
  uses_throw error

@[grind ←]
theorem makes_ask {c : ChatCall} (hc : ok c = true) : Makes ok (liftM (askChat c)) :=
  uses_lift ⟨hc, fun _ => trivial⟩

theorem makes_attempt_bind {f : Except ChatError α → ChatTask β} (hp : Makes ok p)
    (hok : ∀ a, Makes ok (f (.ok a))) (herror : ∀ e, Makes ok (f (.error e))) :
    Makes ok (p.attempt >>= f) := by
  refine makes_bind (uses_attempt hp) fun result => ?_
  cases result with
  | ok a => exact hok a
  | error e => exact herror e

@[grind ←]
theorem makes_turnSql {s : TurnStatement} (hs : ok (.turns s) = true) : Makes ok (turnSql s) :=
  Program.uses_bind ⟨hs, fun _ => trivial⟩ fun _ => Program.uses_ret _

@[grind ←]
theorem makes_askBridge {engine : SidecarBridgeEngine} {r : BridgeRequest}
    (hr : ok (.bridge engine r) = true) : Makes ok (askBridge engine r) :=
  Program.uses_bind ⟨hr, fun _ => trivial⟩ fun _ => Program.uses_ret _

@[grind ←]
theorem makes_ofApp (result : AppResult α) : Makes ok (ofApp result) := uses_ofExcept _

@[grind ←]
theorem makes_orThrow (value : Option α) (error : ChatError) : Makes ok (orThrow value error) := by
  cases value with
  | none => exact makes_throw error
  | some a => exact makes_pure a

/-- What comes after a demand can rely on it. -/
@[grind ←]
theorem makes_demandThat_bind {cond : Prop} [Decidable cond] {error : ChatError}
    {f : Unit → ChatTask α} (hf : cond → Makes ok (f ())) :
    Makes ok (demandThat cond error >>= f) := by
  unfold demandThat
  split
  · rename_i hcond
    exact hf hcond
  · exact makes_throw error

@[grind ←]
theorem makes_demandThat (cond : Prop) [Decidable cond] (error : ChatError) :
    Makes ok (demandThat cond error) := by
  rw [← bind_pure (demandThat cond error)]
  exact makes_demandThat_bind fun _ => makes_pure ()

/-- A scan that does not end waits for ever. -/
theorem makes_orHang [Inhabited α] (hhang : ok .hang = true) (value : Option α) (f : α → β) :
    Makes ok (liftM (do return f (← orHang value) : ChatProgram β)) := by
  refine uses_lift (Program.uses_bind ?_ fun _ => trivial)
  cases value with
  | none => exact ⟨hhang, fun _ => trivial⟩
  | some a => trivial

@[grind ←]
theorem makes_forM {f : α → ChatTask PUnit} (hf : ∀ a, Makes ok (f a)) (l : List α) :
    Makes ok (l.forM f) :=
  uses_forM hf l

@[grind ←]
theorem makes_foldlM {f : β → α → ChatTask β} (hf : ∀ b a, Makes ok (f b a)) (b : β) (l : List α) :
    Makes ok (l.foldlM f b) :=
  uses_foldlM hf b l

end Rules

/-! ## Up to the target -/

section Quiet

variable (lib : Primitives) (actor : Actor) (contextKey name : String) (request : TurnRequest)
  (plan : TurnPlan) (delivery : TelegramDelivery) (operationId operationKind : String)
  (scope : TurnScope) (locator : StChatLocator)

@[grind ←]
theorem quiet_requireSelectedChat : Makes quiet (requireSelectedChat actor contextKey) := by
  unfold requireSelectedChat stLocatorFromContext
  grind

@[grind ←]
theorem quiet_requireBridge : Makes quiet request.requireBridge := by
  unfold TurnRequest.requireBridge
  grind

@[grind ←]
theorem quiet_botScope : Makes quiet (botScope lib name request locator) := by
  unfold botScope
  grind

@[grind ←]
theorem quiet_turnScopeForDelivery :
    Makes quiet (turnScopeForDelivery lib actor contextKey delivery) := by
  unfold turnScopeForDelivery
  grind

@[grind ←]
theorem quiet_alreadyDelivered (bridge : SidecarBridgeEngine) : Makes quiet
    (alreadyDelivered bridge request operationId operationKind locator) := by
  unfold alreadyDelivered
  grind

@[grind ←]
theorem quiet_loadFrozenTarget : Makes quiet (loadFrozenTarget operationId scope) := by
  unfold loadFrozenTarget
  grind

@[grind ←]
theorem quiet_findLastTurn : Makes quiet (findLastTurn scope) := by
  refine makes_bind (makes_turnSql rfl) fun turnId => ?_
  cases turnId with
  | none => exact makes_pure _
  | some turnId => grind

@[grind ←]
theorem quiet_freezeTarget (targetTurnId tailFingerprint : String) (targetRevision : ℕ)
    (oldMessageIds : List ℤ) : Makes quiet (freezeTarget operationId scope targetTurnId
      tailFingerprint targetRevision oldMessageIds) := by
  unfold freezeTarget
  grind

@[grind ←]
theorem quiet_newTarget : Makes quiet (newTarget name plan) := by
  unfold newTarget
  grind

@[grind ←]
theorem quiet_frozenTarget : Makes quiet (frozenTarget name plan) := by
  unfold frozenTarget
  grind

/-- **Up to its target, a command is quiet.** -/
theorem quiet_claimedTarget : Makes quiet (claimedTarget name plan operationKind request) := by
  unfold claimedTarget
  grind

theorem quiet_undoPlan : Makes quiet (undoPlan lib request) := by
  unfold undoPlan canonicalOperationId requireDelivery
  grind

theorem quiet_revokePlan : Makes quiet (revokePlan lib request) := by
  unfold revokePlan canonicalOperationId requireDelivery
  grind

theorem quiet_redoPlan : Makes quiet (redoPlan lib request delivery) := by
  unfold redoPlan canonicalOperationId
  grind

theorem quiet_redoUndelivered : Makes quiet (redoUndelivered request) := by
  unfold redoUndelivered canonicalOperationId
  grind

/-! ## Settling the target -/

/-- The statement is made only if the move is allowed. -/
@[grind ←]
theorem quiet_settleTarget (next : TargetStatus) : Makes quiet (settleTarget plan next) := by
  unfold settleTarget casTargetStatus
  grind

theorem quiet_assertTarget (turnId : String) (revision : ℕ) :
    Makes quiet (assertTarget plan turnId revision) := by
  have hassert : Makes quiet (assertTurnRevision plan.scope turnId revision) := by
    unfold assertTurnRevision
    grind
  refine makes_attempt_bind hassert (by grind) fun error => ?_
  grind

end Quiet

/-! ## Messages -/

section Tame

theorem Makes.tame {α : Type} {p : ChatTask α} (h : Makes quiet p) : Makes tame p := by
  refine h.mono fun c hc => ?_
  rw [quiet, Bool.and_eq_true] at hc
  exact hc.1

variable (lib : Primitives) (delivery : TelegramDelivery) (scope : TurnScope)
  (metadata : TurnMetadata) (plan : TurnPlan) (id turnId : String) (error : ChatError)
  (messageId : ℤ) (message : String) (targetRevision chunkIndex : ℕ)

@[grind ←]
theorem tame_settleTarget (next : TargetStatus) : Makes tame (settleTarget plan next) :=
  (quiet_settleTarget plan next).tame

@[grind ←]
theorem tame_assertTarget : Makes tame (assertTarget plan turnId targetRevision) :=
  (quiet_assertTarget plan turnId targetRevision).tame

@[grind ←]
theorem tame_safeTelegramDescription (value : Option String) (fallback : String) :
    Makes tame (liftM (safeTelegramDescription value fallback)) := by
  cases value with
  | none => exact makes_pure fallback
  | some value => exact makes_orHang rfl _ _

@[grind ←]
theorem tame_telegramResult (answer : TelegramAnswer) : Makes tame (telegramResult answer) := by
  unfold telegramResult
  grind

@[grind ←]
theorem tame_call (method : String) (body : Json) : Makes tame (call method body) := by
  unfold call
  grind

@[grind ←]
theorem tame_deleteMessageInChat (chatId : ℤ) :
    Makes tame (deleteMessageInChat chatId messageId) := by
  unfold deleteMessageInChat
  grind

@[grind ←]
theorem tame_changeDelivery (u : DeliveryChange) : Makes tame (changeDelivery u id message) := by
  unfold changeDelivery
  grind

@[grind ←]
theorem tame_markUnsent : Makes tame (markUnsent id error) := by
  unfold markUnsent markRetryPending markUnknown markFailed retryAtRfc3339
  grind

@[grind ←]
theorem tame_markUnknownAfterPersistenceFailure :
    Makes tame (liftM (markUnknownAfterPersistenceFailure id error)) := by
  refine uses_lift ⟨rfl, fun now => ⟨rfl, fun changed => ?_⟩⟩
  cases changed <;> trivial

@[grind ←]
theorem tame_orUnknown {α : Type} {step : ChatTask α} (hstep : Makes tame step) :
    Makes tame (orUnknown id step) := by
  refine makes_attempt_bind hstep (by grind) fun error => ?_
  grind

@[grind ←]
theorem tame_markStatus (status : TurnMessageStatus) :
    Makes tame (markStatus scope messageId status) := by
  unfold markStatus
  grind

@[grind ←]
theorem tame_sendMessage (markup : Option Json) :
    Makes tame (delivery.sendMessage message markup) := by
  unfold sendMessage
  grind

@[grind ←]
theorem tame_editMessage : Makes tame (delivery.editMessage messageId message) := by
  refine makes_attempt_bind (tame_call _ _) (by grind) fun error => ?_
  grind

@[grind ←]
theorem tame_sendAttempt (kind : MessageKind) (turnId : Option String) (markup : Option Json) :
    Makes tame (delivery.sendAttempt kind turnId message markup) := by
  have hcreate : Makes tame (delivery.createDelivery kind turnId) := by
    unfold createDelivery
    grind
  refine makes_bind hcreate fun deliveryId => makes_bind (tame_changeDelivery _ _ _) fun _ => ?_
  exact makes_attempt_bind (tame_sendMessage _ _ _) (by grind) (by grind)

@[grind ←]
theorem tame_sendTurnChunkScoped : Makes tame
    (delivery.sendTurnChunkScoped lib metadata targetRevision chunkIndex message) := by
  unfold sendTurnChunkScoped sendSingleScopedResultWithRevision markSentResult
  have hrecord : ∀ messageId, Makes tame (recordScopedTurnMessageWithRevision lib metadata
      chunkIndex messageId message (targetRevision + 1)) := by
    unfold recordScopedTurnMessageWithRevision
    grind
  grind

@[grind ←]
theorem tame_replaceTurnChunkScoped : Makes tame
    (delivery.replaceTurnChunkScoped lib metadata targetRevision chunkIndex messageId message) := by
  have hrecord : ∀ newMessageId deliveryId, Makes tame (recordReplacement lib metadata
      targetRevision chunkIndex messageId newMessageId message deliveryId) := by
    unfold recordReplacement
    grind
  unfold replaceTurnChunkScoped
  grind

@[grind ←]
theorem tame_updateTurnChunkScoped : Makes tame
    (updateTurnChunkScoped lib scope targetRevision turnId chunkIndex messageId message) := by
  unfold updateTurnChunkScoped
  grind

@[grind ←]
theorem tame_retireTurnScoped : Makes tame (delivery.retireTurnScoped scope turnId id) := by
  unfold retireTurnScoped
  grind

@[grind ←]
theorem tame_executeRedoCleanupScoped (previousIds newIds : List ℤ) :
    Makes tame (delivery.executeRedoCleanupScoped scope previousIds newIds) := by
  unfold executeRedoCleanupScoped
  grind

@[grind ←]
theorem tame_executeRevokeEffectScoped (targetMessageIds : List ℤ) : Makes tame
    (delivery.executeRevokeEffectScoped scope targetMessageIds message) := by
  have hfirst : ∀ firstId, Makes tame (delivery.editTombstone scope firstId message) :=
    fun firstId => makes_attempt_bind (tame_editMessage _ _ _) (by grind) (by grind)
  have hextra : ∀ effect extraId, Makes tame (deleteExtra scope effect extraId) :=
    fun effect extraId => makes_attempt_bind (tame_deleteMessageInChat _ _) (by grind) (by grind)
  unfold executeRevokeEffectScoped
  grind

/-! ## What a command does to messages -/

@[grind ←]
theorem tame_orSettle {α : Type} (next : TargetStatus) {step : ChatTask α}
    (hstep : Makes tame step) : Makes tame (orSettle plan next step) := by
  refine makes_attempt_bind hstep (by grind) fun error => ?_
  grind

@[grind ←]
theorem tame_orUnknownTarget (failed alsoFailed : String) {step : ChatTask Unit}
    (hstep : Makes tame step) : Makes tame (orUnknownTarget plan failed alsoFailed step) := by
  refine makes_attempt_bind hstep (by grind) fun error => ?_
  exact makes_attempt_bind (tame_settleTarget plan .unknown) (by grind) (by grind)

@[grind ←]
theorem tame_applyTarget (name : String) : Makes tame (applyTarget plan name) := by
  unfold applyTarget
  grind

variable (target : FrozenTurnTarget) (outcome : StBridgeOutcome)

theorem tame_undoCleanup : Makes tame (undoCleanup plan target outcome) := by
  unfold undoCleanup
  grind

theorem tame_revokeCleanup : Makes tame (revokeCleanup plan target outcome) := by
  unfold revokeCleanup revokeEffect
  grind

@[grind ←]
theorem tame_rewriteChunk (rewritten : Rewritten) (chunk : (ℤ × String) × ℕ) :
    Makes tame (rewriteChunk lib plan metadata rewritten chunk) := by
  refine makes_bind (tame_assertTarget _ _ _) fun _ => ?_
  refine makes_attempt_bind (tame_editMessage _ _ _) (by grind) fun error => ?_
  grind

@[grind ←]
theorem tame_appendChunk (rewritten : Rewritten) (chunk : String × ℕ) :
    Makes tame (appendChunk lib plan metadata rewritten chunk) := by
  unfold appendChunk
  grind

@[grind ←]
theorem tame_rewriteTurn (desired : List String) :
    Makes tame (rewriteTurn lib plan metadata target desired) := by
  unfold rewriteTurn removeSurplus
  grind

theorem tame_redoCleanup : Makes tame (redoCleanup lib plan target outcome) := by
  refine makes_bind (makes_orHang rfl _ _) fun desired => ?_
  grind

end Tame

end ImBridge
