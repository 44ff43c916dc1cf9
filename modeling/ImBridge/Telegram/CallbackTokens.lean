import ImBridge.Interleaving.Schedule
import ImBridge.Telegram.PanelStore

/-!
# Tokens of buttons

The token of a button is consumed when the button is pressed, which puts the action of the button
into a queue; the action is then claimed, and completed or failed. The states of an effect only go
forward, whatever methods are called side by side, so a token is consumed at most once and an action
is claimed at most once.

## Main definitions

* `EffectsAdvance`: no effect is lost, and its state has gone forward
* `CallbackBinding.Fits`: a button is the one that a token was issued for, in time
* `Consumed`: the tables after a token was consumed
* `issued`, `pressed`, `claimed`, `settled`: what replies grant
* `Recorded`: what calls leave behind in the tables

## Main results

* `effectsAdvance_effect`: every call moves effects forward
* `consumed_of_run`: what a press does that succeeds
* `recorded_reachable`: what all calls of a run have left behind
* `single_use_tokens`: each token is consumed at most once and each action is claimed at most once
-/

namespace ImBridge

open Interleaving Relational PanelTx Transaction

variable {digest : String → String} {db db' : PanelDb}

/-! ## The states of effects -/

/-- Every effect is still there, and its state is the same or a later one. -/
def EffectsAdvance (db db' : PanelDb) : Prop :=
  ∀ row ∈ db.effects.rows, ∃ status, row.status.advances status = true ∧
    { row with status } ∈ db'.effects.rows

theorem EffectStatus.advances_refl (status : EffectStatus) : status.advances status = true := by
  cases status <;> rfl

theorem effectsAdvance_of_eq (h : db'.effects = db.effects) : EffectsAdvance db db' := by
  intro row hrow
  exact ⟨row.status, row.status.advances_refl, by rw [h]; exact hrow⟩

theorem effectsAdvance_refl (db : PanelDb) : EffectsAdvance db db := effectsAdvance_of_eq rfl

theorem effectsAdvance_trans (db db' db'' : PanelDb) (h : EffectsAdvance db db')
    (h' : EffectsAdvance db' db'') : EffectsAdvance db db'' := by
  intro row hrow
  obtain ⟨status, hstatus, hrow'⟩ := h row hrow
  obtain ⟨status', hstatus', hrow''⟩ := h' _ hrow'
  exact ⟨status', EffectStatus.advances_trans hstatus hstatus', hrow''⟩

theorem moves_insertEffect (row : EffectRow) : Moves EffectsAdvance (insertEffect row) := by
  intro db u db' h r hr
  obtain ⟨effects, hinsert, rfl⟩ := run_insertEffect_eq_ok.mp h
  refine ⟨r.status, r.status.advances_refl, ?_⟩
  rw [(Table.insert?_eq_some hinsert).1]
  exact List.mem_append_left _ hr

theorem moves_changeEffect (p : EffectRow → Bool) (status : EffectStatus) (error : AppError)
    (hp : ∀ r : EffectRow, p r = true → r.status.advances status = true) :
    Moves EffectsAdvance (changeEffect p status error) := by
  intro db u db' h r hr
  obtain ⟨-, rfl⟩ := run_changeEffect_eq_ok.mp h
  cases hpr : p r with
  | true =>
    refine ⟨status, hp r hpr, Table.mem_update.mpr ⟨r, hr, ?_⟩⟩
    simp [Table.Change.on, hpr, setStatus]
  | false =>
    refine ⟨r.status, r.status.advances_refl, Table.mem_update.mpr ⟨r, hr, ?_⟩⟩
    simp [Table.Change.on, hpr]

/-- Saving a place leaves the effects alone. -/
theorem moves_saveSlot (slot : PanelSlot) : Moves EffectsAdvance (PanelStore.saveSlot slot) := by
  have hassign : ∀ p f, Moves EffectsAdvance (assignSlots p f) := by
    intro p f db u db' h
    simp only [assignSlots, StateT.run] at h
    split at h
    · cases h
      exact effectsAdvance_of_eq rfl
    · cases h
  have hinsert : ∀ row, Moves EffectsAdvance (insertSlot row) := by
    intro row db u db' h
    simp only [insertSlot, StateT.run] at h
    split at h
    · cases h
      exact effectsAdvance_of_eq rfl
    · cases h
  have hupsert : ∀ row, Moves EffectsAdvance (PanelStore.upsertSlot row) := by
    intro row
    apply moves_bind effectsAdvance_trans
    · exact moves_get effectsAdvance_refl
    · intro db
      split
      · exact hinsert row
      · exact hassign _ _
  have hrest : Moves EffectsAdvance
      ((liftM (PanelStore.encodeRevision slot.revision) : PanelTx ℤ) >>= fun revision =>
        PanelStore.upsertSlot (PanelStore.slotRow slot revision)) := by
    apply moves_bind effectsAdvance_trans
    · exact moves_lift effectsAdvance_refl _
    · exact fun revision => hupsert _
  unfold PanelStore.saveSlot
  split
  · exact moves_bind effectsAdvance_trans (hassign _ _) fun _ => hrest
  · exact hrest

theorem moves_completePanelReplace (effectId : String) (slot : PanelSlot)
    (expectedRevision : UInt64) (nextSlot : PanelSlot) : Moves EffectsAdvance
      (PanelStore.completePanelReplace effectId slot expectedRevision nextSlot) := by
  apply moves_bind effectsAdvance_trans (moves_lift effectsAdvance_refl _)
  intro revision
  apply moves_bind effectsAdvance_trans (moves_lift effectsAdvance_refl _)
  intro expected
  apply moves_bind effectsAdvance_trans
  · intro db u db' h
    obtain ⟨-, rfl⟩ := run_changeSlot_eq_ok.mp h
    exact effectsAdvance_of_eq rfl
  · intro _
    apply moves_changeEffect
    intro r hr
    simp only [PanelStore.isReplacement, Bool.and_eq_true, beq_iff_eq] at hr
    rw [hr.2]
    rfl

/-- **Every call moves effects forward.** -/
theorem effectsAdvance_effect {c : PanelCall} {r : c.Reply} (h : c.Effect digest db r db') :
    EffectsAdvance db db' := by
  refine PanelCall.move_of_effect effectsAdvance_refl (fun c => ?_) h
  apply PanelStoreCall.moves_transaction effectsAdvance_refl effectsAdvance_trans
  · exact moves_insertEffect
  · exact moves_changeEffect
  · exact fun slot _ => moves_saveSlot slot
  · exact fun _ _ _ _ _ => moves_completePanelReplace _ _ _ _

/-! ## Presses -/

/-- The button is the one that the token was issued for, and the token has not expired. -/
structure CallbackBinding.Fits (binding : CallbackBinding) (press : CallbackPress) (now : ℤ) :
    Prop where
  account : binding.accountId = press.accountId
  internalBot : binding.internalBotId = press.internalBotId
  numericBot : binding.numericBotId = press.numericBotId
  chat : binding.chatId = press.chatId
  user : binding.authorizedUserId = press.authorizedUserId
  panel : binding.panelId = press.panelId
  message : binding.messageId = press.messageId
  revision : binding.panelRevision = press.panelRevision
  unexpired : now < binding.expiresAtUnix

/-- The token was active and bound so; now it is consumed, and the action waits in a row that was
not there. -/
structure Consumed (digest : String → String) (press : CallbackPress) (effectId : String)
    (binding : CallbackBinding) (db db' : PanelDb) : Prop where
  active : ∃ row ∈ db.effects.rows, row.effectId = digest press.token ∧ row.status = .active ∧
    row.payload = .binding binding
  rows : db'.effects.rows = (db.effects.rows.map fun row =>
    if row.effectId = digest press.token then { row with status := .consumed } else row) ++
      [CallbackStore.actionRow effectId binding]
  fresh : ∀ row ∈ db.effects.rows, row.effectId ≠ effectId
  slots : db'.slots = db.slots

variable {press : CallbackPress}

theorem fits_of_mismatch {now : ℤ} {nonce : Option String} {binding : CallbackBinding}
    (h : CallbackStore.mismatch press now nonce binding = false) :
    binding.Fits press now ∧ nonce = some binding.actionNonce := by
  simp only [CallbackStore.mismatch, Bool.or_eq_false_iff, bne_eq_false_iff_eq,
    decide_eq_false_iff_not, Int.not_le] at h
  obtain ⟨⟨⟨⟨⟨⟨⟨⟨⟨⟨-, hnonce⟩, h1⟩, h2⟩, h3⟩, h4⟩, h5⟩, h6⟩, h7⟩, h8⟩, h9⟩ := h
  exact ⟨⟨h1, h2, h3, h4, h5, h6, h7, h8, h9⟩, hnonce⟩

variable {effectId : String}

/-- **What a press does that succeeds.** -/
theorem consumed_of_run {now : ℤ} {a : CallbackAction × String}
    (h : (CallbackStore.consume digest press now effectId).run db = .ok (a, db')) :
    ∃ binding, a = (binding.action, effectId) ∧ binding.Fits press now ∧
      Consumed digest press effectId binding db db' := by
  obtain ⟨-, -, h₁⟩ := run_lift_bind_eq_ok.mp h
  obtain ⟨-, h₂⟩ := run_demand_bind_eq_ok.mp h₁
  have h₃ := run_get_bind_eq_ok.mp h₂
  split at h₃
  · cases h₃
  · rename_i row hfind
    have hrow := List.mem_of_find?_eq_some hfind
    have hkey := List.find?_some hfind
    simp only [Bool.and_eq_true, beq_iff_eq] at hkey
    obtain ⟨hactive, h₄⟩ := run_demand_bind_eq_ok.mp h₃
    obtain ⟨binding, hbinding, h₅⟩ := run_lift_bind_eq_ok.mp h₄
    obtain ⟨hfits, h₆⟩ := run_demand_bind_eq_ok.mp h₅
    obtain ⟨hfits, hnonce⟩ := fits_of_mismatch hfits
    have hpayload : row.payload = .binding binding := by
      cases hp : row.payload with
      | binding b =>
        rw [hp] at hbinding
        exact congrArg _ (Except.ok.inj hbinding)
      | replacement expectedRevision slot nextSlot panel | action action =>
        rw [hp] at hbinding
        cases hbinding
    obtain ⟨_, db₁, hchange, h₇⟩ := run_bind_eq_ok.mp h₆
    obtain ⟨_, db₂, hinsert, h₈⟩ := run_bind_eq_ok.mp h₇
    obtain ⟨rfl, rfl⟩ := run_pure_eq_ok.mp h₈
    obtain ⟨-, rfl⟩ := run_changeEffect_eq_ok.mp hchange
    obtain ⟨effects, hinserted, rfl⟩ := run_insertEffect_eq_ok.mp hinsert
    obtain ⟨hrows, hfree⟩ := Table.insert?_eq_some hinserted
    -- the row of the token is the one that was read
    have hmark : ∀ r ∈ db.effects.rows, (setStatus .consumed).on (fun r =>
        r.effectId == digest press.token && r.status == .active && r.payload == row.payload &&
          r.actionNonce == some binding.actionNonce) r =
        if r.effectId = digest press.token then { r with status := .consumed } else r := by
      intro r hr
      by_cases hid : r.effectId = digest press.token
      · have heq : r = row := Table.eq_of_pins (pins_effectId (digest press.token)) db.effects hr
          hrow (by simpa using hid) (by simpa using hkey.1)
        subst heq
        simp [Table.Change.on, hid, hactive, hnonce, setStatus]
      · simp [Table.Change.on, hid]
    refine ⟨binding, rfl, hfits, ⟨row, hrow, hkey.1, hactive, hpayload⟩, ?_, ?_, rfl⟩
    · rw [hrows]
      exact congrArg (· ++ _) (List.map_congr_left hmark)
    · intro r hr hid
      refine hfree _ (Table.mem_update.mpr ⟨r, hr, rfl⟩) (.inl ?_)
      rw [hmark r hr]
      split <;> exact hid

/-! ## What calls leave behind -/

/-- The token that a reply issues, with its binding. -/
def issued : (c : PanelCall) → c.Reply → Option (String × CallbackBinding)
  | .store (.insertToken token binding), .ok () => some (token, binding)
  | _, _ => none

/-- The press that a reply accepts, at which time and with which action. -/
def pressed : (c : PanelCall) → c.Reply → Option (CallbackPress × ℤ × CallbackAction)
  | .store (.consume press now _), .ok (action, _) => some (press, now, action)
  | _, _ => none

/-- The action that a reply grants to the caller. -/
def claimed : (c : PanelCall) → c.Reply → Option String
  | .store (.claimActionEffect effectId), .ok () => some effectId
  | _, _ => none

/-- The action that is completed or failed by a reply. -/
def settled : (c : PanelCall) → c.Reply → Option String
  | .store (.completeActionEffect effectId), .ok () => some effectId
  | .store (.failActionEffect effectId _), .ok () => some effectId
  | _, _ => none

def EffectStatus.isFinal : EffectStatus → Bool
  | sent | failed | unknown => true
  | _ => false

/-- The tables have an effect with this payload. -/
def PanelDb.Holds (db : PanelDb) (effectId : String) (payload : EffectPayload) : Prop :=
  ∃ row ∈ db.effects.rows, row.effectId = effectId ∧ row.payload = payload

/-- The tables have an action that is completed or failed. -/
def PanelDb.Settled (db : PanelDb) (effectId : String) : Prop :=
  ∃ row ∈ db.effects.rows, row.effectId = effectId ∧ row.effectType = .callbackAction ∧
    row.status.isFinal = true

/-- The tables have an effect that has left this state. -/
def PanelDb.Left (db : PanelDb) (effectId : String) (status : EffectStatus) : Prop :=
  ∃ row ∈ db.effects.rows, row.effectId = effectId ∧ row.status ≠ status

theorem PanelDb.Holds.advance {payload : EffectPayload} (h : db.Holds effectId payload)
    (hadvance : EffectsAdvance db db') : db'.Holds effectId payload := by
  obtain ⟨row, hrow, hid, hpayload⟩ := h
  obtain ⟨status, -, hrow'⟩ := hadvance row hrow
  exact ⟨_, hrow', hid, hpayload⟩

theorem PanelDb.Holds.unique {payload payload' : EffectPayload} (h : db.Holds effectId payload)
    (h' : db.Holds effectId payload') : payload = payload' := by
  obtain ⟨row, hrow, hid, rfl⟩ := h
  obtain ⟨row', hrow', hid', rfl⟩ := h'
  rw [Table.eq_of_pins (pins_effectId effectId) db.effects hrow hrow' (by simpa using hid)
    (by simpa using hid')]

variable {row : EffectRow}

/-- An effect in a final state stays as it is. -/
theorem EffectsAdvance.mem_of_isFinal (h : EffectsAdvance db db') (hrow : row ∈ db.effects.rows)
    (hfinal : row.status.isFinal = true) :
    row ∈ db'.effects.rows := by
  obtain ⟨status, hstatus, hrow'⟩ := h row hrow
  have heq : status = row.status := by
    cases hs : row.status <;> rw [hs] at hfinal hstatus <;> cases hfinal <;>
      cases status <;> first | rfl | cases hstatus
  rwa [heq] at hrow'

theorem PanelDb.Settled.advance (h : db.Settled effectId) (hadvance : EffectsAdvance db db') :
    db'.Settled effectId := by
  obtain ⟨row, hrow, hid, htype, hfinal⟩ := h
  exact ⟨row, hadvance.mem_of_isFinal hrow hfinal, hid, htype, hfinal⟩

/-- Nothing goes back to the states that effects begin with. -/
theorem PanelDb.Left.advance {status : EffectStatus} (hfirst : status = .active ∨ status = .pending)
    (h : db.Left effectId status) (hadvance : EffectsAdvance db db') :
    db'.Left effectId status := by
  obtain ⟨row, hrow, hid, hne⟩ := h
  obtain ⟨status', hstatus', hrow'⟩ := hadvance row hrow
  refine ⟨_, hrow', hid, fun heq => hne ?_⟩
  simp only at heq
  subst heq
  rcases hfirst with rfl | rfl <;> cases hs : row.status <;> rw [hs] at hstatus' <;>
    first | rfl | cases hstatus'

/-- A change of one action that succeeds finds it in the state it asks for. -/
theorem exists_of_changeAction {status status' : EffectStatus} {error : AppError} {u : Unit}
    (h : (changeEffect (CallbackStore.isAction effectId status) status' error).run db =
      .ok (u, db')) :
    ∃ row ∈ db.effects.rows, row.effectId = effectId ∧ row.effectType = .callbackAction ∧
      row.status = status ∧ { row with status := status' } ∈ db'.effects.rows := by
  obtain ⟨haffected, rfl⟩ := run_changeEffect_eq_ok.mp h
  have hkey : ∀ r : EffectRow, CallbackStore.isAction effectId status r = true →
      (r.effectId == effectId) = true := by
    intro r hr
    simp only [CallbackStore.isAction, Bool.and_eq_true] at hr
    exact hr.1.1.1
  obtain ⟨row, hfind, hrow⟩ :=
    (Table.affected_eq_one_iff (pins_effectId effectId) db.effects hkey).mp haffected
  have hmem := List.mem_of_find?_eq_some hfind
  have hparts := hrow
  simp only [CallbackStore.isAction, Bool.and_eq_true, beq_iff_eq] at hparts
  refine ⟨row, hmem, hparts.1.1.1, hparts.1.2, hparts.2, Table.mem_update.mpr ⟨row, hmem, ?_⟩⟩
  simp [Table.Change.on, hrow, setStatus]

/-- What a call leaves behind in the tables. -/
structure Recorded (digest : String → String) (db : PanelDb) (c : PanelCall) (r : c.Reply) :
    Prop where
  issued : ∀ token binding, issued c r = some (token, binding) →
    db.Holds (digest token) (.binding binding)
  pressed : ∀ press now action, pressed c r = some (press, now, action) →
    ∃ binding, db.Holds (digest press.token) (.binding binding) ∧ binding.Fits press now ∧
      action = binding.action
  settled : ∀ effectId, settled c r = some effectId → db.Settled effectId

variable {c : PanelCall} {r : c.Reply} (h : c.Effect digest db r db')
include h

theorem recorded_of_effect :
    Recorded digest db' c r := by
  constructor
  · intro token binding hissued
    unfold issued at hissued
    split at hissued
    · cases hissued
      obtain ⟨effects, hinsert, rfl⟩ := run_insertEffect_eq_ok.mp (PanelCall.run_of_effect_ok h)
      refine ⟨CallbackStore.tokenRow digest token binding, ?_, rfl, rfl⟩
      rw [(Table.insert?_eq_some hinsert).1]
      exact List.mem_append_right _ (List.mem_singleton_self _)
    · cases hissued
  · intro press now action hpressed
    unfold pressed at hpressed
    split at hpressed
    · cases hpressed
      obtain ⟨binding, haction, hfits, hconsumed⟩ := consumed_of_run (PanelCall.run_of_effect_ok h)
      obtain ⟨row, hrow, hid, -, hpayload⟩ := hconsumed.active
      refine ⟨binding, ⟨{ row with status := .consumed }, ?_, hid, hpayload⟩, hfits,
        congrArg Prod.fst haction⟩
      rw [hconsumed.rows]
      exact List.mem_append_left _ (List.mem_map.mpr ⟨row, hrow, by rw [if_pos hid]⟩)
    · cases hpressed
  · intro effectId hsettled
    unfold settled at hsettled
    split at hsettled
    · cases hsettled
      obtain ⟨row, -, hid, htype, -, hrow⟩ :=
        exists_of_changeAction (PanelCall.run_of_effect_ok h)
      exact ⟨_, hrow, hid, htype, rfl⟩
    · rename_i unknown
      cases hsettled
      obtain ⟨row, -, hid, htype, -, hrow⟩ :=
        exists_of_changeAction (PanelCall.run_of_effect_ok h)
      exact ⟨_, hrow, hid, htype, by cases unknown <;> rfl⟩
    · cases hsettled

omit h in
theorem Recorded.advance {c : PanelCall} {r : c.Reply} (h : Recorded digest db c r)
    (hadvance : EffectsAdvance db db') : Recorded digest db' c r := by
  refine ⟨fun token binding hc => (h.issued token binding hc).advance hadvance, ?_,
    fun effectId hc => (h.settled effectId hc).advance hadvance⟩
  intro press now action hc
  obtain ⟨binding, hholds, hfits⟩ := h.pressed press now action hc
  exact ⟨binding, hholds.advance hadvance, hfits⟩

omit h in
/-- Only one row has the id of an effect. -/
theorem PanelDb.not_left {status : EffectStatus} (hrow : row ∈ db.effects.rows)
    (hid : row.effectId = effectId) (hstatus : row.status = status) :
    ¬ db.Left effectId status := by
  rintro ⟨row', hrow', hid', hne⟩
  refine hne ?_
  rw [Table.eq_of_pins (pins_effectId effectId) db.effects hrow' hrow (by simpa using hid')
    (by simpa using hid)]
  exact hstatus

/-- A press that is accepted finds the token active and leaves it consumed. -/
theorem left_of_pressed {now : ℤ} {action : CallbackAction}
    (hpressed : pressed c r = some (press, now, action)) :
    ¬ db.Left (digest press.token) .active ∧ db'.Left (digest press.token) .active := by
  unfold pressed at hpressed
  split at hpressed
  · cases hpressed
    obtain ⟨binding, -, -, hconsumed⟩ := consumed_of_run (PanelCall.run_of_effect_ok h)
    obtain ⟨row, hrow, hid, hactive, -⟩ := hconsumed.active
    refine ⟨PanelDb.not_left hrow hid hactive, { row with status := .consumed }, ?_, hid, by simp⟩
    rw [hconsumed.rows]
    exact List.mem_append_left _ (List.mem_map.mpr ⟨row, hrow, by rw [if_pos hid]⟩)
  · cases hpressed

/-- A claim that is granted finds the action pending and leaves it in the hands of the caller. -/
theorem left_of_claimed (hclaimed : claimed c r = some effectId) :
    ¬ db.Left effectId .pending ∧ db'.Left effectId .pending := by
  unfold claimed at hclaimed
  split at hclaimed
  · cases hclaimed
    obtain ⟨row, hrow, hid, -, hpending, hrow'⟩ :=
      exists_of_changeAction (PanelCall.run_of_effect_ok h)
    exact ⟨PanelDb.not_left hrow hid hpending, _, hrow', hid, by simp⟩
  · cases hclaimed

omit h

/-! ## Whole runs -/

section Runs

variable {τ : Type} {Out : τ → Type} {body : (j : τ) → Program panelCalls (Out j)}
  {P : Pool panelCalls PanelDb Out}

theorem recorded_reachable (h : Pool.Reachable (panelSemantics digest (ℕ × τ)) body db P) :
    ∀ e ∈ P.moment.trace, Recorded digest P.moment.world e.call e.reply := by
  refine h.forall_trace (X := fun e db => Recorded digest db e.call e.reply) ?_ ?_ ?_
  · exact fun t m c r w heffect => recorded_of_effect heffect
  · exact fun t m c r w e heffect he => he.advance (effectsAdvance_effect heffect)
  · exact fun w w' e hdrift => hdrift.elim

/-- The replies that accept a press of the token. -/
def acceptsPress (token : String) (e : Event panelCalls (ℕ × τ)) : Bool :=
  (pressed e.call e.reply).any fun (press, _) => press.token == token

/-- The replies that grant the action. -/
def grantsAction (effectId : String) (e : Event panelCalls (ℕ × τ)) : Bool :=
  claimed e.call e.reply == some effectId

theorem countP_acceptsPress_le_one
    (h : Pool.Reachable (panelSemantics digest (ℕ × τ)) body db P) (token : String) :
    P.moment.trace.countP (acceptsPress token) ≤ 1 := by
  refine h.countP_le_one (fun db => db.Left (digest token) .active) ?_ ?_ ?_
  · intro t m c r w heffect haccepts
    obtain ⟨⟨press, now, action⟩, hpressed, htoken⟩ := (Option.any_eq_true _ _).mp haccepts
    rw [← eq_of_beq htoken]
    exact left_of_pressed heffect hpressed
  · intro t m c r w heffect hleft
    exact hleft.advance (.inl rfl) (effectsAdvance_effect heffect)
  · exact fun w w' hdrift => hdrift.elim

theorem countP_grantsAction_le_one
    (h : Pool.Reachable (panelSemantics digest (ℕ × τ)) body db P) (effectId : String) :
    P.moment.trace.countP (grantsAction effectId) ≤ 1 := by
  refine h.countP_le_one (fun db => db.Left effectId .pending) ?_ ?_ ?_
  · intro t m c r w heffect hgrants
    exact left_of_claimed heffect (eq_of_beq hgrants)
  · intro t m c r w heffect hleft
    exact hleft.advance (.inr rfl) (effectsAdvance_effect heffect)
  · exact fun w w' hdrift => hdrift.elim

/-- What is in a final state stays as it is in every continuation of a run. -/
theorem mem_of_steps {Q : Pool panelCalls PanelDb Out}
    (h : Relation.ReflTransGen (Pool.Step (panelSemantics digest (ℕ × τ)) body) P Q)
    (hrow : row ∈ P.moment.world.effects.rows) (hfinal : row.status.isFinal = true) :
    row ∈ Q.moment.world.effects.rows := by
  refine Pool.steps_invariant (I := fun m => row ∈ m.world.effects.rows) ?_ ?_ h hrow
  · intro t m c r w heffect hm
    exact (effectsAdvance_effect heffect).mem_of_isFinal hm hfinal
  · exact fun m w hdrift => hdrift.elim

/-- **Single-use tokens**: a token is consumed at most once, only by the button and in the time it
was issued for, and this puts exactly one action into the queue; a press that fails changes
nothing; an action is claimed at most once, and stays as it is once it is completed or failed. -/
theorem single_use_tokens (h : Pool.Reachable (panelSemantics digest (ℕ × τ)) body db P) :
    (∀ token, P.moment.trace.countP (acceptsPress token) ≤ 1) ∧
      (∀ e ∈ P.moment.trace, ∀ e' ∈ P.moment.trace, ∀ token binding press now action,
        issued e.call e.reply = some (token, binding) →
          pressed e'.call e'.reply = some (press, now, action) → press.token = token →
            binding.Fits press now ∧ action = binding.action) ∧
      (∀ press now effectId a db', (PanelCall.store (.consume press now effectId)).Effect digest
        P.moment.world (.ok a) db' → ∃ binding, a = (binding.action, effectId) ∧
          binding.Fits press now ∧ Consumed digest press effectId binding P.moment.world db') ∧
      (∀ press now effectId e db', (PanelCall.store (.consume press now effectId)).Effect digest
        P.moment.world (.error e) db' → db' = P.moment.world) ∧
      (∀ effectId, P.moment.trace.countP (grantsAction effectId) ≤ 1) ∧
      ∀ e ∈ P.moment.trace, ∀ effectId, settled e.call e.reply = some effectId →
        ∃ row : EffectRow, row.effectId = effectId ∧ row.effectType = .callbackAction ∧
          row.status.isFinal = true ∧ ∀ Q : Pool panelCalls PanelDb Out,
            Relation.ReflTransGen (Pool.Step (panelSemantics digest (ℕ × τ)) body) P Q →
              row ∈ Q.moment.world.effects.rows := by
  have hrecorded := recorded_reachable h
  refine ⟨countP_acceptsPress_le_one h, ?_, ?_, ?_, countP_grantsAction_le_one h, ?_⟩
  · intro e he e' he' token binding press now action hissued hpressed htoken
    obtain ⟨binding', hholds', hfits, haction⟩ :=
      (hrecorded e' he').pressed press now action hpressed
    have hholds := (hrecorded e he).issued token binding hissued
    rw [htoken] at hholds'
    -- the token has one row, with one binding
    cases hholds.unique hholds'
    exact ⟨hfits, haction⟩
  · intro press now effectId a db' heffect
    exact consumed_of_run (PanelCall.run_of_effect_ok heffect)
  · intro press now effectId e db' heffect
    exact PanelCall.eq_of_effect_error heffect
  · intro e he effectId hsettled
    obtain ⟨row, hrow, hid, htype, hfinal⟩ := (hrecorded e he).settled effectId hsettled
    exact ⟨row, hid, htype, hfinal, fun Q hsteps => mem_of_steps hsteps hrow hfinal⟩

/-! ## Two presses of one button -/

/-- The token of a button. -/
def pressedToken : String := "cb:0123456789abcdef0123456789abcdef"

def pressedBinding : CallbackBinding :=
  { accountId := "alice", internalBotId := "bot", numericBotId := 7, chatId := 5
    authorizedUserId := "11", panelId := "panel-1", messageId := 3, panelRevision := 0
    catalogRevision := none, expiresAtUnix := 600, action := .help, actionNonce := "nonce" }

/-- A press of the button. -/
def buttonPress : CallbackPress :=
  { token := pressedToken, accountId := "alice", internalBotId := "bot", numericBotId := 7
    chatId := 5, authorizedUserId := "11", panelId := "panel-1", messageId := 3,
    panelRevision := 0 }

/-- The button is shown and pressed twice, and both presses claim and complete the action. -/
def pressCalls : List PanelCall :=
  [.store (.insertToken pressedToken pressedBinding), .store (.consume buttonPress 10 "action-1"),
    .store (.consume buttonPress 11 "action-2"), .store (.claimActionEffect "action-1"),
    .store (.claimActionEffect "action-1"), .store (.completeActionEffect "action-1")]

/-- The calls are made one after the other. -/
def presses : List (Move PanelCall Unit) :=
  (pressCalls.map fun c => Move.spawn c) ++ [0, 1, 2, 3, 4, 5].map fun i => Move.exec i ()

/-- Two presses of one button: one of them is accepted, at a time the token is good for. -/
theorem single_use_tokens_twice :
    ∃ P : Pool panelCalls PanelDb PanelCall.Reply,
      Pool.Reachable (panelSemantics id (ℕ × PanelCall)) askPanel PanelDb.empty P ∧
      P.moment.trace.countP (acceptsPress pressedToken) = 1 ∧
      P.moment.trace.countP (grantsAction "action-1") = 1 ∧
      P.moment.trace.countP (acceptsPress pressedToken) ≤ 1 := by
  have hrun : ((Pool.start PanelDb.empty).follow
      (fun (_ : Unit) _ m (c : PanelCall) => c.act id m.world) askPanel presses).map (fun P =>
        (P.moment.trace.countP (acceptsPress pressedToken),
          P.moment.trace.countP (grantsAction "action-1"))) = some (1, 1) := by
    decide +kernel
  obtain ⟨P, hP, hcounts⟩ := Option.map_eq_some_iff.mp hrun
  obtain ⟨haccepts, hgrants⟩ := Prod.mk.inj hcounts
  have hreachable : Pool.Reachable (panelSemantics id (ℕ × PanelCall)) askPanel PanelDb.empty P :=
    Pool.steps_of_follow (fun _ _ _ _ _ _ hact => PanelCall.effect_of_act hact) hP
  exact ⟨P, hreachable, haccepts, hgrants, (single_use_tokens hreachable).1 pressedToken⟩

end Runs

end ImBridge
