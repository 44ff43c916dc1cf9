import ImBridge.Bridge.Interleavings
import ImBridge.Interleaving.Schedule
import ImBridge.Interleaving.Transcript
import ImBridge.Telegram.TurnFootprints

/-!
# A target is taken once

The handlers of undo, revoke and redo side by side, in any interleaving, with statements that are
atomic and may fail, and with handlers that are lost at any point and started again. The target of
an operation is taken from `frozen` to `applying` at most once, because the table has one row for an
operation and moves it only on. A handler carries out its command only after it has taken the target
itself, and touches messages only after the command, so that both happen at most once.

## Main definitions

* `TurnHandler`, `turnSemantics`: handlers, and what their calls do to the tables
* `TargetsAdvance`: the targets are the same ones, and have moved on at most
* `Course`: how far a handler can have come

## Main results

* `targetsAdvance_effect`: every call of a handler keeps the targets
* `TurnHandler.course`: the exchanges of a handler are such a course
* `target_taken_once`: the result
-/

namespace ImBridge

open Interleaving Relational TelegramDelivery Fallible

/-! ## Handlers side by side -/

inductive TurnCommandKind
  | undo
  | revoke
  | redo
  deriving DecidableEq

/-- The handler of an update with one of the commands. -/
structure TurnHandler where
  kind : TurnCommandKind
  request : TurnRequest

namespace TurnHandler

variable (lib : Primitives) (self : TurnHandler)

def handle : ChatTask (List TelegramReply) :=
  match self.kind with
  | .undo => undoTurn lib self.request
  | .revoke => revokeTurn lib self.request
  | .redo => redoTurn lib self.request

def body : ChatProgram (Except ChatError (List TelegramReply)) := (self.handle lib).run

/-- The command that is carried out in SillyTavern. -/
def command (plan : TurnPlan) : StBridgeCommand :=
  match self.kind with
  | .undo => .undoLastTurn plan.locator plan.operationId
  | .revoke => .revokeLastTurn plan.locator plan.operationId
  | .redo => .regenerateReply plan.locator plan.operationId none

/-- What is done after the command. -/
def cleanup (plan : TurnPlan) (target : FrozenTurnTarget) (outcome : StBridgeOutcome) :
    ChatTask (List TelegramReply) :=
  match self.kind with
  | .undo => undoCleanup plan target outcome
  | .revoke => revokeCleanup plan target outcome
  | .redo => redoCleanup lib plan target outcome

end TurnHandler

/-- What a call may reply and do to the tables: a statement is carried out, or fails without any
effect, and no other call touches the tables. -/
def ChatCall.Effect (db : TurnDb) : (c : ChatCall) → c.Reply → TurnDb → Prop
  | .turns s, r, db' => s.exec db = (r, db') ∨ (∃ error, r = .error error) ∧ db' = db
  | .hang, _, _ => False
  | _, _, db' => db' = db

/-- The other parts of the bridge may write to the tables, but not to that of the targets. -/
def turnSemantics (A : Type) : Semantics chatCalls A TurnDb where
  effect _ m c r db' := c.Effect m.world r db'
  drift db db' := db'.targets = db.targets

/-! ## Targets only move on -/

namespace TargetStatus

/-- Where a target can get. -/
def leadsTo (s t : TargetStatus) : Bool := s == t || s == frozen || (s == applying && t != frozen)

def isFinal : TargetStatus → Bool
  | applied | failed | unknown => true
  | frozen | applying => false

theorem leadsTo_refl (s : TargetStatus) : s.leadsTo s = true := by cases s <;> rfl

theorem leadsTo_trans {s t u : TargetStatus} (h : s.leadsTo t = true) (h' : t.leadsTo u = true) :
    s.leadsTo u = true := by
  cases s <;> cases t <;> cases u <;>
    first | rfl | exact absurd h (by decide) | exact absurd h' (by decide)

variable {s t : TargetStatus}

theorem leadsTo_of_allowed (h : s.allowed t = true) : s.leadsTo t = true := by
  cases s <;> cases t <;> first | rfl | cases h

theorem eq_of_isFinal (h : s.leadsTo t = true) (hs : s.isFinal = true) :
    t = s := by
  cases s <;> cases t <;> first | rfl | exact absurd h (by decide) | exact absurd hs (by decide)

theorem ne_frozen_of_leadsTo (h : s.leadsTo t = true) (hs : s ≠ frozen) :
    t ≠ frozen := by
  rintro rfl
  cases s <;> first | exact hs rfl | cases h

end TargetStatus

variable {db db' db'' : TurnDb}

/-- The targets are the same ones, and have moved on at most. -/
def TargetsAdvance (db db' : TurnDb) : Prop :=
  ∀ row ∈ db.targets.rows, ∃ status, row.status.leadsTo status = true ∧
    { row with status } ∈ db'.targets.rows

theorem targetsAdvance_of_eq (h : db'.targets = db.targets) : TargetsAdvance db db' := by
  intro row hrow
  refine ⟨row.status, row.status.leadsTo_refl, ?_⟩
  rw [h]
  exact hrow

theorem TargetsAdvance.trans (h : TargetsAdvance db db') (h' : TargetsAdvance db' db'') :
    TargetsAdvance db db'' := by
  intro row hrow
  obtain ⟨status, hstatus, hrow'⟩ := h row hrow
  obtain ⟨status', hstatus', hrow''⟩ := h' _ hrow'
  exact ⟨status', TargetStatus.leadsTo_trans hstatus hstatus', hrow''⟩

variable {row : TurnTargetRow}

theorem targetsAdvance_insert {targets : Table TurnTargetRow TurnTargetRow.Clash}
    (h : db.targets.insert? row = some targets) :
    TargetsAdvance db { db with targets } := by
  intro r hr
  refine ⟨r.status, r.status.leadsTo_refl, ?_⟩
  rw [(Table.insert?_eq_some h).1]
  exact List.mem_append_left _ hr

theorem targetsAdvance_update {p : TurnTargetRow → Bool} {next : TargetStatus}
    (hp : ∀ r, p r = true → r.status.leadsTo next = true) :
    TargetsAdvance db { db with targets := db.targets.update p (setTargetStatus next) } := by
  intro r hr
  cases hpr : p r with
  | true =>
    refine ⟨next, hp r hpr, Table.mem_update.mpr ⟨r, hr, ?_⟩⟩
    simp [Table.Change.on, hpr, setTargetStatus]
  | false =>
    refine ⟨r.status, r.status.leadsTo_refl, Table.mem_update.mpr ⟨r, hr, ?_⟩⟩
    simp [Table.Change.on, hpr]

/-- The statements on other tables leave the targets alone. -/
theorem targetsAdvance_exec {s : TurnStatement} (hs : (ChatCall.turns s).lawful = true) :
    TargetsAdvance db (s.exec db).2 := by
  cases s with
  | insertTarget row =>
    simp only [TurnStatement.exec]
    split
    · rename_i targets hinsert
      exact targetsAdvance_insert hinsert
    · exact targetsAdvance_of_eq rfl
  | casTarget operationId scope expected next =>
    refine targetsAdvance_update fun r hr => ?_
    rw [Bool.and_eq_true, beq_iff_eq] at hr
    rw [hr.2]
    exact TargetStatus.leadsTo_of_allowed hs
  | insertDelivery id botId chatId kind turnId now
  | insertMessage metadata chunkIndex messageId contentHash renderVersion now =>
    simp only [TurnStatement.exec]
    split <;> exact targetsAdvance_of_eq rfl
  | replaceChunk scope turnId chunkIndex oldMessageId targetRevision newMessageId contentHash
      nextRevision deliveryId now =>
    simp only [TurnStatement.exec]
    split
    · exact targetsAdvance_of_eq rfl
    · split <;> exact targetsAdvance_of_eq rfl
  | _ => exact targetsAdvance_of_eq rfl

variable {c : ChatCall} {r : c.Reply}

/-- **Every call of a handler keeps the targets.** -/
theorem targetsAdvance_effect (hc : c.lawful = true) (h : c.Effect db r db') :
    TargetsAdvance db db' := by
  cases c with
  | turns s =>
    rcases h with h | ⟨-, rfl⟩
    · have hexec : TargetsAdvance db (s.exec db).2 := targetsAdvance_exec hc
      rw [h] at hexec
      exact hexec
    · exact targetsAdvance_of_eq rfl
  | hang => exact h.elim
  | _ => exact targetsAdvance_of_eq (congrArg _ h)

/-! ## Taking a target -/

/-- The reply says that the target of the operation was taken. -/
def takes (operationId : String) : (c : ChatCall) → c.Reply → Bool
  | .turns (.casTarget id _ .frozen _), .ok changed => id == operationId && changed == 1
  | _, _ => false

/-- The target of the operation has been taken. -/
def TurnDb.Taken (db : TurnDb) (operationId : String) : Prop :=
  ∃ row ∈ db.targets.rows, row.operationId = operationId ∧ row.status ≠ .frozen

variable {operationId : String}

theorem TurnDb.Taken.advance (h : db.Taken operationId) (hadvance : TargetsAdvance db db') :
    db'.Taken operationId := by
  obtain ⟨row, hrow, hid, hne⟩ := h
  obtain ⟨status, hstatus, hrow'⟩ := hadvance row hrow
  exact ⟨_, hrow', hid, TargetStatus.ne_frozen_of_leadsTo hstatus hne⟩

theorem pins_targetId (operationId : String) :
    Table.Pins TurnTargetRow.Clash fun r => r.operationId == operationId := by
  intro r s hr hs
  rw [beq_iff_eq] at hr hs
  exact hr.trans hs.symm

/-- A target that is taken was frozen, and it is the only one of its operation. -/
theorem taken_of_takes (hc : c.lawful = true) (h : c.Effect db r db')
    (htakes : takes operationId c r = true) : ¬ db.Taken operationId ∧ db'.Taken operationId := by
  unfold takes at htakes
  split at htakes
  · rename_i id scope next changed
    rw [Bool.and_eq_true, beq_iff_eq, beq_iff_eq] at htakes
    obtain ⟨rfl, rfl⟩ := htakes
    rcases h with h | ⟨⟨_, h⟩, -⟩
    · have hchanged := congrArg Prod.fst h
      have hdb := congrArg Prod.snd h
      simp only [TurnStatement.exec, Except.ok.injEq] at hchanged hdb
      obtain ⟨row, hfind, hrow⟩ := (Table.affected_eq_one_iff (pins_targetId id) db.targets
        fun r hr => by
          simp only [TurnStatement.isTarget, Bool.and_eq_true] at hr
          exact hr.1.1).mp hchanged
      have hmem := List.mem_of_find?_eq_some hfind
      have hid := List.find?_some hfind
      rw [beq_iff_eq] at hid
      rw [Bool.and_eq_true, beq_iff_eq] at hrow
      constructor
      · rintro ⟨row', hmem', hid', hne⟩
        have heq : row' = row := Table.eq_of_pins (pins_targetId id) db.targets hmem' hmem
          (by simpa using hid') (by simpa using hid)
        exact hne (heq ▸ hrow.2)
      · rw [← hdb]
        refine ⟨{ row with status := next }, Table.mem_update.mpr ⟨row, hmem, ?_⟩, hid, ?_⟩
        · simp [Table.Change.on, hrow, setTargetStatus]
        · rintro rfl
          cases hc
    · cases h
  · cases htakes

/-! ## How far a handler can have come -/

/-- None of these calls takes a target, carries out a command or touches a message. -/
def AllQuiet (es : List (Exchange chatCalls)) : Prop := ∀ e ∈ es, e.1.quiet = true

theorem allQuiet_nil : AllQuiet [] := fun _ he => absurd he List.not_mem_nil

variable {es : List (Exchange chatCalls)}

theorem Makes.allQuiet {α : Type} {p : ChatTask α} {q : ChatProgram (Except ChatError α)}
    (hp : Makes ChatCall.quiet p) (h : Program.Goes p.run es q) : AllQuiet es :=
  h.of_uses hp

theorem allQuiet_append {es es' : List (Exchange chatCalls)} (h : AllQuiet es)
    (h' : AllQuiet es') : AllQuiet (es ++ es') :=
  List.forall_mem_append.mpr ⟨h, h'⟩

/-- The call with which a command takes its target. -/
abbrev takeCall (plan : TurnPlan) : ChatCall :=
  .turns (.casTarget plan.operationId plan.scope .frozen .applying)

/-- The call with which a command is carried out in SillyTavern. -/
abbrev commandCall (request : TurnRequest) (plan : TurnPlan) (command : StBridgeCommand) :
    ChatCall :=
  .bridge plan.bridge (.execute request.actor command none request.origin)

section Courses

variable {name operationKind : String} {request : TurnRequest} {plan : TurnPlan}
  {command : StBridgeCommand} {check : FrozenTurnTarget → ChatTask Unit}
  {cleanup : FrozenTurnTarget → StBridgeOutcome → ChatTask (List TelegramReply)}
  {es es' : List (Exchange chatCalls)} {q : ChatProgram (Except ChatError (List TelegramReply))}

/-- **How far a command can have come** that has tried to take its target: it was refused or has not
gone on yet; or it has taken the target and made the one call that carries out the command; and
after that call has succeeded, a single cleanup is under way. -/
inductive Course (request : TurnRequest) (plan : TurnPlan) (command : StBridgeCommand)
    (cleanup : FrozenTurnTarget → StBridgeOutcome → ChatTask (List TelegramReply)) :
    List (Exchange chatCalls) → Prop
  | trying (before after : List (Exchange chatCalls)) (r : (takeCall plan).Reply)
      (hbefore : AllQuiet before) (hafter : AllQuiet after) :
      Course request plan command cleanup (before ++ ⟨takeCall plan, r⟩ :: after)
  | commanding (before between after : List (Exchange chatCalls))
      (r : (commandCall request plan command).Reply) (hbefore : AllQuiet before)
      (hbetween : AllQuiet between) (hafter : AllQuiet after) :
      Course request plan command cleanup (before ++ ⟨takeCall plan, .ok 1⟩ ::
        (between ++ ⟨commandCall request plan command, r⟩ :: after))
  | cleaning (before between after : List (Exchange chatCalls)) (target : FrozenTurnTarget)
      (outcome : StBridgeOutcome) (q : ChatProgram (Except ChatError (List TelegramReply)))
      (hbefore : AllQuiet before) (hbetween : AllQuiet between)
      (hgoes : Program.Goes (cleanup target outcome).run after q) :
      Course request plan command cleanup (before ++ ⟨takeCall plan, .ok 1⟩ ::
        (between ++ ⟨commandCall request plan command, .ok outcome⟩ :: after))

theorem goes_turnSql {s : TurnStatement} {q : ChatProgram (Except ChatError s.Rows)}
    (h : Program.Goes (turnSql s).run es q) :
    (es = [] ∧ ∀ a, q ≠ .ret a) ∨
      ∃ r, es = [⟨.turns s, r⟩] ∧ q = .ret (r.mapError fun _ => ChatError.database) := by
  rcases Program.goes_call h with ⟨rfl, rfl⟩ | ⟨r, es', rfl, h'⟩
  · exact .inl ⟨rfl, Program.call_ne_ret _ _⟩
  · obtain ⟨rfl, rfl⟩ := Program.goes_ret.mp h'
    exact .inr ⟨r, rfl, rfl⟩

theorem goes_demandThat {cond : Prop} [Decidable cond] {error : ChatError}
    {q : ChatProgram (Except ChatError Unit)} (h : Program.Goes (demandThat cond error).run es q) :
    es = [] ∧ (q = .ret (.ok ()) → cond) := by
  unfold demandThat at h
  split at h
  · rename_i hcond
    exact ⟨(Program.goes_ret.mp h).1, fun _ => hcond⟩
  · obtain ⟨rfl, rfl⟩ := Program.goes_ret.mp h
    exact ⟨rfl, nofun⟩

/-- Taking a target is one call, and it succeeds only if one row was changed. -/
theorem goes_take {plan : TurnPlan} {q : ChatProgram (Except ChatError Unit)}
    (h : Program.Goes (casTargetStatus plan.operationId plan.scope .frozen .applying).run es q) :
    es = [] ∧ q ≠ .ret (.ok ()) ∨
      ∃ r, es = [⟨takeCall plan, r⟩] ∧ (q = .ret (.ok ()) → r = .ok 1) := by
  rcases goes_bind h with ⟨⟨p', hp'⟩, hq⟩ | ⟨es₁, es₂, _, rfl, hdemand, hrest⟩
  · exact .inl ⟨(goes_demandThat hp').1, hq ()⟩
  · obtain ⟨rfl, -⟩ := goes_demandThat hdemand
    rw [List.nil_append]
    rcases goes_bind hrest with ⟨⟨p', hp'⟩, hq⟩ | ⟨es₃, es₄, changed, rfl, hsql, hone⟩
    · rcases goes_turnSql hp' with ⟨hnil, -⟩ | ⟨r, rfl, -⟩
      · exact .inl ⟨hnil, hq ()⟩
      · exact .inr ⟨r, rfl, fun heq => absurd heq (hq ())⟩
    · obtain ⟨rfl, hchanged⟩ := goes_demandThat hone
      rw [List.append_nil]
      rcases goes_turnSql hsql with ⟨rfl, hr⟩ | ⟨r, rfl, hr⟩
      · exact absurd rfl (hr _)
      · refine .inr ⟨r, rfl, fun hq => ?_⟩
        -- the reply is the number of rows, and that is one
        cases r with
        | error error => cases hr
        | ok n =>
          cases hr
          rw [hchanged hq]

/-- Carrying out a command is one call, and nothing but settling the target follows it. -/
theorem goes_executeEnveloped {q : ChatProgram (Except ChatError StBridgeOutcome)}
    (h : Program.Goes (executeEnveloped name plan request command).run es q) :
    (es = [] ∧ ∀ a, q ≠ .ret a) ∨ ∃ r es', es = ⟨commandCall request plan command, r⟩ :: es' ∧
      AllQuiet es' ∧ ∀ outcome, q = .ret (.ok outcome) → r = .ok outcome ∧ es' = [] := by
  rcases Program.goes_call h with ⟨rfl, rfl⟩ | ⟨r, es', rfl, h'⟩
  · exact .inl ⟨rfl, Program.call_ne_ret _ _⟩
  · refine .inr ⟨r, es', rfl, ?_⟩
    -- a target that is settled is followed by an error
    have hsettle : ∀ (next : TargetStatus) (error : ChatError),
        Program.Goes (settleTarget plan next >>= fun _ =>
          (throw error : ChatTask StBridgeOutcome)).run es' q →
        AllQuiet es' ∧ ∀ outcome, q = .ret (.ok outcome) → r = .ok outcome ∧ es' = [] := by
      intro next error hgoes
      refine ⟨(makes_bind (quiet_settleTarget plan next) fun _ => makes_throw _).allQuiet hgoes, ?_⟩
      intro outcome hq
      rcases goes_bind hgoes with ⟨-, hne⟩ | ⟨_, _, _, -, -, hthrow⟩
      · exact absurd hq (hne outcome)
      · cases hq.symm.trans (Program.goes_ret.mp hthrow).2
    cases r with
    | error error => exact hsettle _ _ h'
    | ok outcome =>
      have hbranch : Program.Goes (if outcome.confirmedCommit = true then pure outcome
          else settleTarget plan .unknown >>= fun _ => throw (.conflict "ST_COMMIT_STATE_UNKNOWN"
            ("SillyTavern " ++ name ++ " commit was not confirmed")) :
          ChatTask StBridgeOutcome).run es' q := h'
      split at hbranch
      · obtain ⟨rfl, rfl⟩ := Program.goes_ret.mp hbranch
        refine ⟨allQuiet_nil, fun outcome' hq => ⟨?_, rfl⟩⟩
        cases hq
        rfl
      · exact hsettle _ _ hbranch

theorem goes_changeTurn (hcheck : ∀ target, Makes ChatCall.quiet (check target)) (h : Program.Goes
      (changeTurn name operationKind request plan check command cleanup).run es q) :
    AllQuiet es ∨ Course request plan command cleanup es := by
  rcases goes_bind h with ⟨⟨p', hp'⟩, -⟩ | ⟨before, es₁, target, rfl, hclaim, h₁⟩
  · exact .inl ((quiet_claimedTarget name request plan operationKind).allQuiet hp')
  have hbefore := (quiet_claimedTarget name request plan operationKind).allQuiet hclaim
  cases target with
  | none =>
    obtain ⟨rfl, -⟩ := Program.goes_ret.mp h₁
    exact .inl (by rwa [List.append_nil])
  | some target =>
    rcases goes_bind h₁ with ⟨⟨p', hp'⟩, -⟩ | ⟨taking, es₂, _, rfl, htake, h₂⟩
    · rcases goes_take hp' with ⟨rfl, -⟩ | ⟨r, rfl, -⟩
      · exact .inl (by rwa [List.append_nil])
      · exact .inr (.trying before [] r hbefore allQuiet_nil)
    rcases goes_take htake with ⟨-, hne⟩ | ⟨r, rfl, hr⟩
    · exact absurd rfl hne
    cases hr rfl
    rcases goes_bind h₂ with ⟨⟨p', hp'⟩, -⟩ | ⟨between, es₃, _, rfl, hchecked, h₃⟩
    · exact .inr (.trying before es₂ (.ok 1) hbefore ((hcheck target).allQuiet hp'))
    have hbetween := (hcheck target).allQuiet hchecked
    rcases goes_bind h₃ with ⟨⟨p', hp'⟩, -⟩ | ⟨es₄, after, outcome, rfl, hexecute, hclean⟩
    · rcases goes_executeEnveloped hp' with ⟨rfl, -⟩ | ⟨r, after, rfl, hafter, -⟩
      · exact .inr (.trying before _ (.ok 1) hbefore (by rwa [List.append_nil]))
      · exact .inr (.commanding before between after r hbefore hbetween hafter)
    · rcases goes_executeEnveloped hexecute with ⟨-, hne⟩ | ⟨r, es₅, rfl, -, hr⟩
      · exact absurd rfl (hne _)
      · obtain ⟨rfl, rfl⟩ := hr outcome rfl
        exact .inr (.cleaning before between after target outcome q hbefore hbetween hclean)

theorem Course.prepend (hquiet : AllQuiet es') (h : Course request plan command cleanup es) :
    Course request plan command cleanup (es' ++ es) := by
  cases h with
  | trying before after r hbefore hafter =>
    rw [← List.append_assoc]
    exact .trying _ after r (allQuiet_append hquiet hbefore) hafter
  | commanding before between after r hbefore hbetween hafter =>
    rw [← List.append_assoc]
    exact .commanding _ between after r (allQuiet_append hquiet hbefore) hbetween hafter
  | cleaning before between after target outcome q hbefore hbetween hgoes =>
    rw [← List.append_assoc]
    exact .cleaning _ between after target outcome q (allQuiet_append hquiet hbefore) hbetween hgoes

/-- What is planned is the operation that the command was sent with. -/
abbrev Plans (request : TurnRequest) (planning : ChatTask TurnPlan) : Prop :=
  planning.run.Ends (onResult (fun plan => request.clientTurnId = some plan.operationId)
    fun _ => True)

/-- A command whose plan is made before it changes the turn. -/
theorem goes_planned {planning : ChatTask TurnPlan}
    {check : TurnPlan → FrozenTurnTarget → ChatTask Unit} {command : TurnPlan → StBridgeCommand}
    {cleanup : TurnPlan → FrozenTurnTarget → StBridgeOutcome → ChatTask (List TelegramReply)}
    (hplan : Makes ChatCall.quiet planning) (hends : Plans request planning)
    (hcheck : ∀ plan target, Makes ChatCall.quiet (check plan target))
    (h : Program.Goes (planning >>= fun plan => changeTurn name operationKind request plan
      (check plan) (command plan) (cleanup plan)).run es q) :
    AllQuiet es ∨ ∃ plan, request.clientTurnId = some plan.operationId ∧
      Course request plan (command plan) (cleanup plan) es := by
  rcases goes_bind h with ⟨⟨p', hp'⟩, -⟩ | ⟨before, es', plan, rfl, hp, hchange⟩
  · exact .inl (hplan.allQuiet hp')
  · have hbefore := hplan.allQuiet hp
    have hid : request.clientTurnId = some plan.operationId := hp.ends hends
    rcases goes_changeTurn (hcheck plan) hchange with hquiet | hcourse
    · exact .inl (allQuiet_append hbefore hquiet)
    · exact .inr ⟨plan, hid, hcourse.prepend hbefore⟩

section Plans

variable (lib : Primitives) (request : TurnRequest)

/-- What a step returns does not matter. -/
theorem ends_bind_any {α β : Type} {p : ChatTask α} {f : α → ChatTask β} {Q : β → Prop}
    (hf : ∀ a, (f a).run.Ends (onResult Q fun _ => True)) :
    (p >>= f).run.Ends (onResult Q fun _ => True) := by
  refine ends_bind (Q := fun _ => True) ?_ fun a _ => hf a
  exact (Program.ends_true p.run).imp fun r _ => by cases r <;> trivial

/-- The operation of a command is the one it was sent with. -/
theorem ends_canonicalOperationId (name : String) (clientTurnId : Option String) :
    (canonicalOperationId name clientTurnId).run.Ends
      (onResult (fun id => clientTurnId = some id) fun _ => True) := by
  cases clientTurnId with
  | none => trivial
  | some id =>
    simp only [canonicalOperationId, Option.filter]
    split
    · exact rfl
    · trivial

theorem plans_undoPlan : Plans request (undoPlan lib request) := by
  refine ends_bind_any fun locator => ?_
  refine ends_bind (ends_canonicalOperationId _ _) fun operationId hid => ?_
  exact ends_bind_any fun scope => ends_bind_any fun delivery => ends_bind_any fun bridge => hid

theorem plans_revokePlan : Plans request (revokePlan lib request) := by
  refine ends_bind_any fun locator => ?_
  refine ends_bind (ends_canonicalOperationId _ _) fun operationId hid => ?_
  exact ends_bind_any fun scope => ends_bind_any fun bridge => ends_bind_any fun delivery => hid

theorem plans_redoPlan (delivery : TelegramDelivery) :
    Plans request (redoPlan lib request delivery) := by
  refine ends_bind_any fun locator => ?_
  refine ends_bind (ends_canonicalOperationId _ _) fun operationId hid => ?_
  exact ends_bind_any fun bridge => ends_bind_any fun scope => hid

end Plans

/-- A handler is quiet, or makes its plan and then changes the turn. -/
theorem TurnHandler.handle_cases (lib : Primitives) (self : TurnHandler) :
    Makes ChatCall.quiet (self.handle lib) ∨ ∃ (name operationKind : String)
      (planning : ChatTask TurnPlan) (check : TurnPlan → FrozenTurnTarget → ChatTask Unit),
      (self.handle lib = planning >>= fun plan => changeTurn name operationKind self.request plan
        (check plan) (self.command plan) (self.cleanup lib plan)) ∧
      Makes ChatCall.quiet planning ∧ Plans self.request planning ∧
      ∀ plan target, Makes ChatCall.quiet (check plan target) := by
  obtain ⟨kind, request⟩ := self
  cases kind with
  | undo =>
    exact .inr ⟨_, _, _, _, rfl, quiet_undoPlan lib request, plans_undoPlan lib request,
      fun plan _ => quiet_assertTarget plan _ _⟩
  | revoke =>
    exact .inr ⟨_, _, _, _, rfl, quiet_revokePlan lib request, plans_revokePlan lib request,
      fun plan _ => quiet_assertTarget plan _ _⟩
  | redo =>
    simp only [handle, redoTurn]
    split
    · exact .inl (quiet_redoUndelivered request)
    · exact .inr ⟨_, _, _, _, rfl, quiet_redoPlan lib request _, plans_redoPlan lib request _,
        fun _ _ => makes_pure ()⟩

/-- **The exchanges of a handler are such a course**, unless they are all quiet. -/
theorem TurnHandler.course {lib : Primitives} {self : TurnHandler}
    {q : ChatProgram (Except ChatError (List TelegramReply))}
    (h : Program.Goes (self.body lib) es q) :
    AllQuiet es ∨ ∃ plan, self.request.clientTurnId = some plan.operationId ∧
      Course self.request plan (self.command plan) (self.cleanup lib plan) es := by
  rcases self.handle_cases lib with hquiet |
    ⟨name, kind, planning, check, heq, hplan, hends, hcheck⟩
  · exact .inl (hquiet.allQuiet h)
  · rw [body, heq] at h
    exact goes_planned hplan hends hcheck h

/-! ## Every handler is lawful -/

theorem Makes.lawful {α : Type} {p : ChatTask α} (h : Makes ChatCall.tame p) :
    Makes ChatCall.lawful p := by
  refine h.mono fun c hc => ?_
  rw [ChatCall.tame, Bool.and_eq_true, Bool.and_eq_true] at hc
  exact hc.1.1

@[grind ←]
theorem lawful_settleTarget (next : TargetStatus) :
    Makes ChatCall.lawful (settleTarget plan next) :=
  (quiet_settleTarget plan next).tame.lawful

theorem lawful_changeTurn (hcheck : ∀ target, Makes ChatCall.quiet (check target))
    (hcleanup : ∀ target outcome, Makes ChatCall.tame (cleanup target outcome)) :
    Makes ChatCall.lawful
      (changeTurn name operationKind request plan check command cleanup) := by
  have hclaimed := (quiet_claimedTarget name request plan operationKind).tame.lawful
  have htake : Makes ChatCall.lawful
      (casTargetStatus plan.operationId plan.scope .frozen .applying) := by
    unfold casTargetStatus
    grind
  have hexecute : Makes ChatCall.lawful (executeEnveloped name plan request command) := by
    refine makes_bind (makes_ask rfl) fun reply => ?_
    cases reply with
    | error error => grind
    | ok outcome => grind
  have hchecked := fun target => (hcheck target).tame.lawful
  have hcleaned := fun target outcome => (hcleanup target outcome).lawful
  unfold changeTurn
  grind

theorem TurnHandler.tame_cleanup (lib : Primitives) (self : TurnHandler) (plan : TurnPlan)
    (target : FrozenTurnTarget) (outcome : StBridgeOutcome) :
    Makes ChatCall.tame (self.cleanup lib plan target outcome) := by
  obtain ⟨kind, request⟩ := self
  cases kind with
  | undo => exact tame_undoCleanup plan target outcome
  | revoke => exact tame_revokeCleanup plan target outcome
  | redo => exact tame_redoCleanup lib plan target outcome

theorem TurnHandler.lawful_body (lib : Primitives) (self : TurnHandler) :
    (self.body lib).Uses fun c : ChatCall => c.lawful = true := by
  rcases self.handle_cases lib with hquiet | ⟨name, kind, planning, check, heq, hplan, -, hcheck⟩
  · exact hquiet.tame.lawful
  · rw [body, heq]
    exact makes_bind hplan.tame.lawful fun plan =>
      lawful_changeTurn (hcheck plan) (self.tame_cleanup lib plan)

/-! ## What a course contains -/

@[grind →]
theorem AllQuiet.not_isCommand (h : AllQuiet es) : ∀ e ∈ es, e.1.isCommand = false := by
  intro e he
  have hquiet := h e he
  simp only [ChatCall.quiet, ChatCall.tame, Bool.and_eq_true, Bool.not_eq_true'] at hquiet
  exact hquiet.1.2

@[grind →]
theorem AllQuiet.not_isCleanup (h : AllQuiet es) : ∀ e ∈ es, e.1.isCleanup = false := by
  intro e he
  have hquiet := h e he
  simp only [ChatCall.quiet, Bool.and_eq_true, Bool.not_eq_true'] at hquiet
  exact hquiet.2

@[simp] theorem isCommand_takeCall (plan : TurnPlan) : (takeCall plan).isCommand = false := rfl

@[grind =] theorem isCleanup_takeCall (plan : TurnPlan) : (takeCall plan).isCleanup = false := rfl

@[simp] theorem isCommand_commandCall (request : TurnRequest) (plan : TurnPlan)
    (command : StBridgeCommand) : (commandCall request plan command).isCommand = true := rfl

/-- A list without commands has none to count. -/
theorem countP_isCommand (h : ∀ e ∈ es, e.1.isCommand = false) :
    es.countP (fun e => e.1.isCommand) = 0 := by
  rw [List.countP_eq_zero]
  intro e he hcommand
  rw [h e he] at hcommand
  cases hcommand

/-- What is done after a command does not carry out another one. -/
theorem not_isCommand_cleanup
    (hcleanup : ∀ target outcome, Makes ChatCall.tame (cleanup target outcome))
    {target : FrozenTurnTarget} {outcome : StBridgeOutcome}
    {q : ChatProgram (Except ChatError (List TelegramReply))}
    (h : Program.Goes (cleanup target outcome).run es q) : ∀ e ∈ es, e.1.isCommand = false := by
  intro e he
  have htame := h.of_uses (hcleanup target outcome) e he
  simp only [ChatCall.tame, Bool.and_eq_true, Bool.not_eq_true'] at htame
  exact htame.2

variable (hcleanup : ∀ target outcome, Makes ChatCall.tame (cleanup target outcome))
include hcleanup

/-- The command is carried out at most once. -/
theorem Course.countP_le_one (h : Course request plan command cleanup es) :
    es.countP (fun e => e.1.isCommand) ≤ 1 := by
  cases h with
  | trying before after r hbefore hafter =>
    simp [countP_isCommand hbefore.not_isCommand, countP_isCommand hafter.not_isCommand]
  | commanding before between after r hbefore hbetween hafter =>
    simp [List.countP_cons, countP_isCommand hbefore.not_isCommand,
      countP_isCommand hbetween.not_isCommand, countP_isCommand hafter.not_isCommand]
  | cleaning before between after target outcome q hbefore hbetween hgoes =>
    simp [List.countP_cons, countP_isCommand hbefore.not_isCommand,
      countP_isCommand hbetween.not_isCommand,
      countP_isCommand (not_isCommand_cleanup hcleanup hgoes)]

/-- A command is carried out only after the target was taken. -/
theorem Course.of_isCommand (h : Course request plan command cleanup es) {e : Exchange chatCalls}
    (he : e ∈ es) (hcommand : e.1.isCommand = true) :
    e.1 = commandCall request plan command ∧ ⟨takeCall plan, .ok 1⟩ ∈ es := by
  cases h with
  | trying => grind
  | commanding => grind
  | cleaning before between after target outcome q hbefore hbetween hgoes =>
    have hafter := not_isCommand_cleanup hcleanup hgoes
    grind

omit hcleanup

/-- Messages are touched only in a single cleanup, after the command has succeeded. -/
theorem Course.of_isCleanup (h : Course request plan command cleanup es) {e : Exchange chatCalls}
    (he : e ∈ es) (hclean : e.1.isCleanup = true) :
    ∃ before after target outcome q,
      es = before ++ ⟨commandCall request plan command, .ok outcome⟩ :: after ∧
      ⟨takeCall plan, .ok 1⟩ ∈ before ∧ (∀ x ∈ before, x.1.isCleanup = false) ∧
      Program.Goes (cleanup target outcome).run after q := by
  cases h with
  | trying => grind
  | commanding => grind
  | cleaning before between after target outcome q hbefore hbetween hgoes =>
    refine ⟨before ++ ⟨takeCall plan, .ok 1⟩ :: between, after, target, outcome, q, by simp,
      by simp,
      ?_, hgoes⟩
    grind

end Courses

/-! ## The result -/

/-- The operation of a command. -/
def StBridgeCommand.clientOperationId : StBridgeCommand → String
  | startChat _ id | sendMessage _ _ id _ | undoLastTurn _ id | revokeLastTurn _ id
  | regenerateReply _ id _ | compressChat _ id => id

/-- The call carries out a command of the operation in SillyTavern. -/
def commandsFor (operationId : String) : ChatCall → Bool
  | .bridge _ (.execute _ command _ _) => command.clientOperationId == operationId
  | _ => false

/-- A handler of the operation touches messages. -/
def CleansFor (operationId : String) (e : Event chatCalls (ℕ × TurnHandler)) : Prop :=
  e.agent.2.request.clientTurnId = some operationId ∧ e.call.isCleanup = true

abbrev TurnPool :=
  Pool chatCalls TurnDb fun _ : TurnHandler => Except ChatError (List TelegramReply)

/-- The handler has taken the target and carried out its command, and all that it did to messages
belongs to the one cleanup after that. -/
def TurnPool.CleansOnce (lib : Primitives) (P : TurnPool) (agent : ℕ × TurnHandler) : Prop :=
  ∃ plan before after target outcome q, agent.2.request.clientTurnId = some plan.operationId ∧
    P.exchanges agent.1 = before ++
      ⟨commandCall agent.2.request plan (agent.2.command plan), .ok outcome⟩ :: after ∧
    ⟨takeCall plan, .ok 1⟩ ∈ before ∧ (∀ x ∈ before, x.1.isCleanup = false) ∧
    Program.Goes (agent.2.cleanup lib plan target outcome).run after q

section Result

variable {lib : Primitives} {db : TurnDb} {P : TurnPool}

theorem commandsFor_isCommand (h : commandsFor operationId c = true) :
    c.isCommand = true := by
  unfold commandsFor at h
  split at h
  · rfl
  · cases h

theorem clientOperationId_command (handler : TurnHandler) (plan : TurnPlan) :
    (handler.command plan).clientOperationId = plan.operationId := by
  obtain ⟨kind, request⟩ := handler
  cases kind <;> rfl

variable (h : Pool.Reachable (turnSemantics (ℕ × TurnHandler)) (TurnHandler.body lib) db P)
include h

/-- Every handler that made a call is at some point of its course. -/
theorem course_of_mem {e : Event chatCalls (ℕ × TurnHandler)} (he : e ∈ P.moment.trace)
    (hnot : e.call.quiet = false) :
    ∃ plan, e.agent.2.request.clientTurnId = some plan.operationId ∧
      Course e.agent.2.request plan (e.agent.2.command plan) (e.agent.2.cleanup lib plan)
        (P.exchanges e.agent.1) := by
  obtain ⟨t, ht⟩ := h.trace_task e he
  obtain ⟨q, hgoes, -⟩ := h.goes _ _ _ ht
  rcases TurnHandler.course hgoes with hquiet | hcourse
  · have htrue := hquiet _ (Pool.mem_exchanges he)
    rw [hnot] at htrue
    cases htrue
  · exact hcourse

omit h in
/-- The handler that has taken the target is the one that made a call for it. -/
theorem taken_by {i : ℕ} {plan : TurnPlan} (h : ⟨takeCall plan, .ok 1⟩ ∈ P.exchanges i) :
    ∃ e ∈ P.moment.trace, e.agent.1 = i ∧ takes plan.operationId e.call e.reply = true := by
  obtain ⟨⟨agent, call, reply⟩, he, heq⟩ := List.mem_map.mp h
  obtain ⟨hmem, hagent⟩ := List.mem_filter.mp he
  cases heq
  exact ⟨_, hmem, by simpa using hagent, by simp [takes]⟩

/-- **The target is taken at most once.** -/
theorem countP_takes_le_one (operationId : String) :
    P.moment.trace.countP (fun e => takes operationId e.call e.reply) ≤ 1 := by
  refine Pool.Reachable.countP_le_one (fun db => db.Taken operationId) ?_ ?_ ?_
    (Pool.Reachable.steps_restrict (TurnHandler.lawful_body lib) .refl h)
  · intro t m c r db' heffect htakes
    exact taken_of_takes heffect.2 heffect.1 htakes
  · intro t m c r db' heffect htaken
    exact htaken.advance (targetsAdvance_effect heffect.2 heffect.1)
  · intro db db' hdrift htaken
    exact htaken.advance (targetsAdvance_of_eq hdrift)

/-- Only one handler takes the target. -/
theorem taken_by_one {i i' : ℕ} {plan plan' : TurnPlan}
    (hi : ⟨takeCall plan, .ok 1⟩ ∈ P.exchanges i) (hi' : ⟨takeCall plan', .ok 1⟩ ∈ P.exchanges i')
    (hid : plan.operationId = plan'.operationId) : i = i' := by
  obtain ⟨e, he, rfl, htakes⟩ := taken_by hi
  obtain ⟨e', he', rfl, htakes'⟩ := taken_by hi'
  rw [← hid] at htakes'
  have heq := eq_of_countP_le_one (countP_takes_le_one h plan.operationId) he he' htakes htakes'
  rw [heq]

/-- **The command is carried out at most once.** -/
theorem countP_commandsFor_le_one (operationId : String) :
    P.moment.trace.countP (fun e => commandsFor operationId e.call) ≤ 1 := by
  -- each such call was made by a handler that has taken the target
  have htaken : ∀ e ∈ P.moment.trace, commandsFor operationId e.call = true →
      ∃ plan, plan.operationId = operationId ∧ ⟨takeCall plan, .ok 1⟩ ∈ P.exchanges e.agent.1 ∧
        (P.exchanges e.agent.1).countP (fun x => x.1.isCommand) ≤ 1 := by
    intro e he hcommand
    have hisCommand := commandsFor_isCommand hcommand
    obtain ⟨plan, -, hcourse⟩ := course_of_mem h he (by simp [ChatCall.quiet, ChatCall.tame,
      hisCommand])
    have htame := e.agent.2.tame_cleanup lib plan
    obtain ⟨hcall, htake⟩ := hcourse.of_isCommand htame (Pool.mem_exchanges he) hisCommand
    refine ⟨plan, ?_, htake, hcourse.countP_le_one htame⟩
    have hfor : commandsFor operationId (commandCall e.agent.2.request plan
        (e.agent.2.command plan)) = true := hcall ▸ hcommand
    simpa [commandsFor, clientOperationId_command] using hfor
  by_cases hany : ∃ e ∈ P.moment.trace, commandsFor operationId e.call = true
  · obtain ⟨e, he, hcommand⟩ := hany
    obtain ⟨plan, hplan, htake, hle⟩ := htaken e he hcommand
    have hcount := Pool.countP_le_exchanges (P := P) (i := e.agent.1)
      (fun x => commandsFor operationId x.1) fun e' he' hcommand' => by
        obtain ⟨plan', hplan', htake', -⟩ := htaken e' he' hcommand'
        exact taken_by_one h htake' htake (hplan'.trans hplan.symm)
    rw [hcount]
    refine Nat.le_trans (List.countP_mono_left fun x _ hx => ?_) hle
    exact commandsFor_isCommand hx
  · rw [List.countP_eq_zero.mpr fun e he hcommand => hany ⟨e, he, hcommand⟩]
    exact Nat.zero_le 1

/-- **What is done to messages is a single cleanup** after the command. -/
theorem cleansOnce_of_mem {e : Event chatCalls (ℕ × TurnHandler)} (he : e ∈ P.moment.trace)
    (hclean : e.call.isCleanup = true) : P.CleansOnce lib e.agent := by
  obtain ⟨plan, hid, hcourse⟩ := course_of_mem h he (by simp [ChatCall.quiet, hclean])
  obtain ⟨before, after, target, outcome, q, hes, htake, hbefore, hgoes⟩ :=
    hcourse.of_isCleanup (Pool.mem_exchanges he) hclean
  exact ⟨plan, before, after, target, outcome, q, hid, hes, htake, hbefore, hgoes⟩

omit h in
theorem target?_eq_some :
    db.target? operationId = some row ↔
      row ∈ db.targets.rows ∧ row.operationId = operationId := by
  rw [TurnDb.target?, Table.find?_eq_some_iff (pins_targetId operationId), beq_iff_eq]

/-- **A target stays what it is**, and an end of it stays as well. -/
theorem target?_steps {Q : TurnPool}
    (hsteps : Relation.ReflTransGen (Pool.Step (turnSemantics (ℕ × TurnHandler)) (TurnHandler.body
      lib)) P Q) (hrow : P.moment.world.target? operationId = some row) :
    ∃ status, Q.moment.world.target? operationId = some { row with status } ∧
      row.status.leadsTo status = true ∧ (row.status.isFinal = true → status = row.status) := by
  have hadvance : TargetsAdvance P.moment.world Q.moment.world := by
    refine Pool.steps_invariant (I := fun m => TargetsAdvance P.moment.world m.world) ?_ ?_
      (h.steps_restrict (TurnHandler.lawful_body lib) hsteps) (targetsAdvance_of_eq rfl)
    · intro t m c r db' heffect hm
      exact hm.trans (targetsAdvance_effect heffect.2 heffect.1)
    · intro m db' hdrift hm
      exact hm.trans (targetsAdvance_of_eq hdrift)
  obtain ⟨hmem, hid⟩ := target?_eq_some.mp hrow
  obtain ⟨status, hstatus, hmem'⟩ := hadvance row hmem
  exact ⟨status, target?_eq_some.mpr ⟨hmem', hid⟩, hstatus, TargetStatus.eq_of_isFinal hstatus⟩

omit h

/-- **In every interleaving of the handlers of undo, revoke and redo**, with handlers lost and
started again at any point, and for every operation: the target is taken from `frozen` at most once,
the command is carried out in SillyTavern at most once, what is done to messages belongs to a single
cleanup of a single handler, which has taken the target; and from any point on, the target that is
written down stays the same, and `applied`, `failed` and `unknown` stay as well. -/
theorem target_taken_once
    (h : Pool.Reachable (turnSemantics (ℕ × TurnHandler)) (TurnHandler.body lib) db P)
    (operationId : String) :
    P.moment.trace.countP (fun e => takes operationId e.call e.reply) ≤ 1 ∧
    P.moment.trace.countP (fun e => commandsFor operationId e.call) ≤ 1 ∧
    (∀ e ∈ P.moment.trace, CleansFor operationId e → P.CleansOnce lib e.agent ∧
      ∀ e' ∈ P.moment.trace, CleansFor operationId e' → e'.agent = e.agent) ∧
    ∀ Q, Relation.ReflTransGen
        (Pool.Step (turnSemantics (ℕ × TurnHandler)) (TurnHandler.body lib)) P Q →
      ∀ row, P.moment.world.target? operationId = some row →
        ∃ status, Q.moment.world.target? operationId = some { row with status } ∧
          row.status.leadsTo status = true ∧
          (row.status.isFinal = true → status = row.status) := by
  refine ⟨countP_takes_le_one h operationId, countP_commandsFor_le_one h operationId, ?_,
    fun Q hsteps row hrow => target?_steps h hsteps hrow⟩
  intro e he hclean
  have honce := cleansOnce_of_mem h he hclean.2
  refine ⟨honce, fun e' he' hclean' => ?_⟩
  obtain ⟨plan, before, after, _, _, _, hid, hes, htake, -⟩ := honce
  obtain ⟨plan', before', after', _, _, _, hid', hes', htake', -⟩ :=
    cleansOnce_of_mem h he' hclean'.2
  have hmem : ⟨takeCall plan, .ok 1⟩ ∈ P.exchanges e.agent.1 := by
    rw [hes]
    exact List.mem_append_left _ htake
  have hmem' : ⟨takeCall plan', .ok 1⟩ ∈ P.exchanges e'.agent.1 := by
    rw [hes']
    exact List.mem_append_left _ htake'
  refine h.agent_eq he' he (taken_by_one h hmem' hmem ?_)
  exact Option.some.inj (hid'.symm.trans (hclean'.1.trans (hclean.1.symm.trans hid)))

end Result

section Runs

/-- A hash for examples. -/
def someHash : String := "0000000000000000000000000000000000000000000000000000000000000000"

/-- Libraries for examples, with a hash that can be part of a scope. -/
def Primitives.hashing : Primitives := { Primitives.plain with sha256Hex := fun _ => someHash }

/-- The tables with one turn, which one message shows. -/
def oneTurn : TurnDb :=
  { TurnDb.empty with
    messages := ⟨[⟨⟨"alice", "bot", 7, 5, someHash⟩, "turn-1", "op-0", 0, 31, "hash", 1, .sent,
      .active, "2026-01-01T00:00:00Z"⟩], List.pairwise_singleton _ _⟩ }

def undoUpdate : TurnHandler where
  kind := .undo
  request :=
    { botId := "bot"
      chatId := 5
      bridge := some ⟨"telegram", none, none, true⟩
      actor := ⟨"alice", some "workspace"⟩
      contextKey := "telegram"
      clientTurnId := some "op-1"
      delivery := some ⟨"bot", 7, 5⟩
      origin := ⟨"bot", 7, "telegram"⟩ }

/-- Calls that succeed, in a chat that is selected. -/
def ChatCall.act (db : TurnDb) : (c : ChatCall) → Option (c.Reply × TurnDb)
  | .turns s => some (s.exec db)
  | .bridge _ (.claim ..) => some (.ok ⟨.fresh, Sample.record⟩, db)
  | .bridge _ (.getLastTurn _) => some (.ok (some someHash), db)
  | .bridge _ (.execute ..) => some (.ok (committedOutcome "op-1" "done"), db)
  | .loadContext .. => some (.ok ⟨some "user", some "a.png", some "A", some "c.jsonl"⟩, db)
  | .numericBotId _ => some (some 7, db)
  | .now => some ("2026-01-01T00:00:00Z", db)
  | _ => none

theorem ChatCall.effect_of_act {db db' : TurnDb} (h : c.act db = some (r, db')) :
    c.Effect db r db' := by
  unfold ChatCall.act at h
  split at h
  · exact .inl (Option.some.inj h)
  all_goals first | exact (Prod.mk.inj (Option.some.inj h)).2.symm | cases h

/-- An undo and its redelivery both find the target frozen; the second one takes it. -/
def twoUndos : List (Move TurnHandler Unit) :=
  [.spawn undoUpdate, .spawn undoUpdate] ++
    (List.replicate 10 0 ++ List.replicate 5 1 ++ [0] ++ List.replicate 5 1).map (.exec · ())

theorem target_taken_once_by_two :
    ∃ P : TurnPool, Pool.Reachable (turnSemantics (ℕ × TurnHandler))
        (TurnHandler.body .hashing) oneTurn P ∧
      P.moment.trace.countP (fun e => takes "op-1" e.call e.reply) = 1 ∧
      P.moment.trace.countP (fun e => commandsFor "op-1" e.call) = 1 ∧
      ∃ row, row.status = .applied ∧ ∀ Q, Relation.ReflTransGen (Pool.Step
          (turnSemantics (ℕ × TurnHandler)) (TurnHandler.body .hashing)) P Q →
        Q.moment.world.target? "op-1" = some row := by
  have hrun : ((Pool.start oneTurn).follow (fun (_ : Unit) _ m (c : ChatCall) => c.act m.world)
      (TurnHandler.body .hashing) twoUndos).map (fun P =>
        (P.moment.trace.countP (fun e => takes "op-1" e.call e.reply),
          P.moment.trace.countP (fun e => commandsFor "op-1" e.call),
          (P.moment.world.target? "op-1").map (·.status))) = some (1, 1, some .applied) := by
    decide +kernel
  obtain ⟨P, hP, hresult⟩ := Option.map_eq_some_iff.mp hrun
  simp only [Prod.mk.injEq, Option.map_eq_some_iff] at hresult
  obtain ⟨htakes, hcommands, row, hrow, hstatus⟩ := hresult
  have hreachable : Pool.Reachable (turnSemantics (ℕ × TurnHandler))
      (TurnHandler.body .hashing) oneTurn P :=
    Pool.steps_of_follow (fun _ _ _ _ _ _ hact => ChatCall.effect_of_act hact) hP
  refine ⟨P, hreachable, htakes, hcommands, row, hstatus, fun Q hsteps => ?_⟩
  obtain ⟨status, htarget, -, hfinal⟩ :=
    (target_taken_once hreachable "op-1").2.2.2 Q hsteps row hrow
  rw [htarget, hfinal (by rw [hstatus]; rfl)]

end Runs

end ImBridge
