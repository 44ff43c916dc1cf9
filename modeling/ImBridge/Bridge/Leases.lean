import ImBridge.Bridge.OperationRecovery
import ImBridge.Interleaving.Schedule
import ImBridge.Sequential

/-!
# The generations of execution leases

Recovery works on an operation under a lease. Taking a lease over raises its generation, and giving
it back deletes the row that has the instance and the generation of the lease. The generation is
kept in that row only: once the row is deleted the next lease has generation 1 again, and a lease
from before is taken for the new one.

## Main definitions

* `Statement.handsOut`, `leases`, `generations`: the leases that were handed out for an operation
* `LeaseStep`: what a statement can do to the lease of an operation
* `NeverRestarts`: no lease is handed out afresh once there was one

## Main results

* `leaseStep_exec`: statements take these steps
* `lease_fencing`: generations grow, and only the current lease is given back, in runs of that kind
* `lease_generation_reused`: a recovery that gives back the lease of another one
-/

namespace ImBridge

open Interleaving Relational OperationStore Statement

variable {A τ : Type} {id : String}

/-! ## Leases and statements -/

/-- The lease of the operation `id`. -/
def Ledger.lease? (db : Ledger) (id : String) : Option OperationLeaseRow :=
  db.leases.rows.find? (·.operationId == id)

/-- The lease for the operation `id` that the reply to a statement hands out. -/
def Statement.handsOut (id : String) : (s : Statement) → s.Reply → Option OperationLeaseRow
  | .acquireLease operationId .., .ok lease => if operationId = id then lease else none
  | _, _ => none

theorem pins_lease (id : String) : Table.Pins OperationLeaseRow.Clash (·.operationId == id) := by
  intro r s hr hs
  simp only [beq_iff_eq] at hr hs
  exact hr.trans hs.symm

/-- **What a statement can do to the lease of an operation**: the lease before it, the one it hands
out, and the one after it. -/
inductive LeaseStep :
    Option OperationLeaseRow → Option OperationLeaseRow → Option OperationLeaseRow → Prop
  | same (o : Option OperationLeaseRow) : LeaseStep o none o
  | first (l : OperationLeaseRow) : LeaseStep none (some l) (some l)
  | taken (l l' : OperationLeaseRow) (h : l'.leaseGeneration = l.leaseGeneration + 1) :
      LeaseStep (some l) (some l') (some l')
  | released (l : OperationLeaseRow) : LeaseStep (some l) none none

variable {l : OperationLeaseRow}

variable {db : Ledger} {leases : Table OperationLeaseRow OperationLeaseRow.Clash}
  (h : db.leases.insert? l = some leases)
include h

theorem lease?_of_insert : db.lease? l.operationId = none := by
  obtain ⟨-, hfree⟩ := Table.insert?_eq_some h
  refine List.find?_eq_none.mpr fun s hs hsid => hfree s hs ?_
  exact beq_iff_eq.mp hsid

theorem lease?_insert (id : String) :
    ({ db with leases } : Ledger).lease? id =
      if l.operationId = id then some l else db.lease? id := by
  have hnone := lease?_of_insert h
  simp only [Ledger.lease?] at hnone
  simp only [Ledger.lease?, (Table.insert?_eq_some h).1, List.find?_append]
  split
  · rename_i hid
    subst hid
    simp [hnone]
  · rename_i hid
    simp [hid]

omit h

variable (db : Ledger)

/-- Taking over the leases of one operation. -/
theorem lease?_takeOver (operationId instanceId leaseUntil now id : String) :
    ({ db with
        leases := db.leases.update (canTakeOver operationId instanceId now)
          (takeOver instanceId leaseUntil now) } : Ledger).lease? id =
      (db.lease? id).map ((takeOver instanceId leaseUntil now).on
        (canTakeOver operationId instanceId now)) :=
  Table.find?_update fun _ => rfl

theorem operationId_of_canTakeOver {operationId instanceId now : String}
    (h : canTakeOver operationId instanceId now l = true) : l.operationId = operationId := by
  simp only [canTakeOver, Bool.and_eq_true, beq_iff_eq] at h
  exact h.1.1

/-- The lease that can be taken over is the one of the operation. -/
theorem find?_canTakeOver (instanceId now : String) :
    db.leases.rows.find? (canTakeOver id instanceId now) =
      (db.lease? id).filter (canTakeOver id instanceId now) := by
  have hpins : Table.Pins OperationLeaseRow.Clash (canTakeOver id instanceId now) :=
    fun r s hr hs => (operationId_of_canTakeOver hr).trans (operationId_of_canTakeOver hs).symm
  ext l
  rw [Table.find?_eq_some_iff hpins, Option.filter_eq_some_iff, Ledger.lease?,
    Table.find?_eq_some_iff (pins_lease id)]
  constructor
  · rintro ⟨hl, htake⟩
    exact ⟨⟨hl, beq_iff_eq.mpr (operationId_of_canTakeOver htake)⟩, htake⟩
  · rintro ⟨⟨hl, -⟩, htake⟩
    exact ⟨hl, htake⟩

theorem leaseStep_takeOver (operationId instanceId leaseUntil now : String) :
    LeaseStep (db.lease? id)
      (if operationId = id then
        (db.leases.rows.find? (canTakeOver operationId instanceId now)).map
          (takeOver instanceId leaseUntil now).set
      else none)
      ((db.lease? id).map ((takeOver instanceId leaseUntil now).on
        (canTakeOver operationId instanceId now))) := by
  cases hl : db.lease? id with
  | none =>
    split
    · rename_i hid
      rw [hid, find?_canTakeOver, hl]
      exact .same none
    · exact .same none
  | some l =>
    have hlid : l.operationId = id := by simpa using List.find?_some hl
    by_cases htake : canTakeOver operationId instanceId now l = true
    · -- the lease is of the operation whose lease is taken over
      have hid : operationId = id := (operationId_of_canTakeOver htake).symm.trans hlid
      subst hid
      rw [if_pos rfl, find?_canTakeOver, hl, Option.filter_some_pos htake]
      simp only [Option.map_some, Table.Change.on, htake, if_true]
      exact .taken l _ rfl
    · simp only [Option.map_some, Table.Change.on, htake, Bool.false_eq_true, if_false]
      split
      · rename_i hid
        subst hid
        rw [find?_canTakeOver, hl, Option.filter_some_neg (Bool.eq_false_iff.mpr htake)]
        exact .same (some l)
      · exact .same (some l)

theorem leaseStep_delete (guard : OperationLeaseRow → Bool) :
    LeaseStep (db.lease? id) none
      (({ db with leases := db.leases.delete guard } : Ledger).lease? id) := by
  rw [show ({ db with leases := db.leases.delete guard } : Ledger).lease? id =
    (db.lease? id).filter fun l => !guard l from Table.find?_delete (pins_lease id) db.leases guard]
  cases hl : db.lease? id with
  | none => exact .same none
  | some l =>
    by_cases hguard : guard l = true
    · rw [Option.filter_some_neg (by simp [hguard])]
      exact .released l
    · rw [Option.filter_some_pos (by simp [hguard])]
      exact .same (some l)

/-- **Statements take these steps.** -/
theorem leaseStep_exec (s : Statement) (db : Ledger) (id : String) :
    LeaseStep (db.lease? id) (s.handsOut id (s.exec db).1) ((s.exec db).2.lease? id) := by
  have hsame : (s.exec db).2.leases = db.leases → s.handsOut id (s.exec db).1 = none →
      LeaseStep (db.lease? id) (s.handsOut id (s.exec db).1) ((s.exec db).2.lease? id) := by
    intro hleases hnone
    rw [hnone, show (s.exec db).2.lease? id = db.lease? id by simp only [Ledger.lease?, hleases]]
    exact .same _
  cases s with
  | acquireLease operationId botId instanceId leaseUntil now =>
    by_cases hbot : (db.operation? operationId).any (·.botId == botId) = true
    · cases hins : db.leases.insert?
        (firstLease operationId instanceId leaseUntil now) with
      | some leases =>
        simp only [exec, hbot, if_true, hins, handsOut]
        rw [lease?_insert hins]
        have hop : (firstLease operationId instanceId leaseUntil now).operationId =
          operationId := rfl
        rw [hop]
        split
        · rename_i hid
          rw [← hid, ← hop, lease?_of_insert hins]
          exact .first _
        · exact .same _
      | none =>
        simp only [exec, hbot, if_true, hins, handsOut]
        rw [lease?_takeOver]
        exact leaseStep_takeOver db operationId instanceId leaseUntil now
    · refine hsame ?_ ?_ <;> simp [exec, hbot, handsOut]
  | releaseLease operationId instanceId generation => exact leaseStep_delete db _
  | insertOperation request operationId now =>
    refine hsame ?_ rfl
    simp only [exec]
    split <;> rfl
  | insertKeyReference operationId wrappedSecretId keyVersion now =>
    refine hsame ?_ rfl
    simp only [exec]
    split
    · rfl
    · split <;> rfl
  | _ => exact hsame rfl rfl

/-! ## Leases in a run -/

/-- The lease for the operation `id` that the call hands out. -/
def leaseOf (id : String) : Event bridgeCalls A → Option OperationLeaseRow
  | ⟨_, .sql s, r⟩ => s.handsOut id r
  | _ => none

/-- The generations of the leases handed out for the operation `id`, in the order of the calls. -/
def generations (id : String) (trace : List (Event bridgeCalls A)) : List ℤ :=
  (trace.filterMap (leaseOf id)).map (·.leaseGeneration)

theorem generations_append (trace trace' : List (Event bridgeCalls A)) :
    generations id (trace ++ trace') = generations id trace ++ generations id trace' := by
  simp [generations]

theorem generations_cons {e : Event bridgeCalls A} (h : leaseOf id e = some l)
    (trace : List (Event bridgeCalls A)) :
    generations id (e :: trace) = l.leaseGeneration :: generations id trace := by
  simp [generations, h]

theorem generations_after (m : Moment bridgeCalls A World) (a : A) (c : Call) (r : c.Reply)
    (w : World) :
    generations id (m.after a c r w).trace =
      generations id m.trace ++ ((leaseOf id ⟨a, c, r⟩).map (·.leaseGeneration)).toList := by
  rw [Moment.after_trace, generations_append]
  cases h : leaseOf id ⟨a, c, r⟩ <;> simp [generations, h]

variable {c : Call} {r : c.Reply}

theorem leaseStep_effect {w w' : World} (h : Effect w c r w') (a : A) (id : String) :
    LeaseStep (w.ledger.lease? id) (leaseOf id ⟨a, c, r⟩) (w'.ledger.lease? id) := by
  cases c with
  | sql s =>
    rcases h with ⟨rfl, rfl⟩ | ⟨rfl, rfl⟩
    · exact leaseStep_exec s w.ledger id
    · -- a statement that fails hands out nothing
      have hnone : leaseOf id (⟨a, .sql s, .error .other⟩ : Event bridgeCalls A) = none := by
        cases s <;> rfl
      rw [hnone]
      exact .same _
  | _ =>
    rcases h.ledger with ⟨s, hs, -⟩ | hledger
    · cases hs
    · rw [hledger]
      exact .same _

/-- **No lease is handed out afresh once there was one**: an acquisition meets a lease of its
operation, or is the first one. -/
def NeverRestarts (_ : A) (m : Moment bridgeCalls A World) : (c : Call) → c.Reply → World → Prop
  | .sql (.acquireLease id ..), _, _ =>
    (m.world.ledger.lease? id).isSome = true ∨ generations id m.trace = []
  | _, _, _ => True

instance (a : A) (m : Moment bridgeCalls A World) (c : Call) (r : c.Reply) (w : World) :
    Decidable (NeverRestarts a m c r w) := by
  unfold NeverRestarts
  split <;> infer_instance

/-- The generations grow, and the lease that is held is the last one handed out. -/
structure Fenced (id : String) (m : Moment bridgeCalls A World) : Prop where
  increasing : (generations id m.trace).Pairwise (· < ·)
  last : ∀ l, m.world.ledger.lease? id = some l →
    (generations id m.trace).getLast? = some l.leaseGeneration

variable {m : Moment bridgeCalls A World}

theorem neverRestarts_of_leaseOf {a : A} {w : World} (h : NeverRestarts a m c r w)
    (hl : leaseOf id ⟨a, c, r⟩ = some l) :
    (m.world.ledger.lease? id).isSome = true ∨ generations id m.trace = [] := by
  cases c with
  | sql s =>
    cases s with
    | acquireLease operationId botId instanceId leaseUntil now =>
      cases r with
      | ok lease =>
        simp only [leaseOf, handsOut] at hl
        split at hl
        · rename_i hid
          rw [← hid]
          exact h
        · cases hl
      | error e => cases hl
    | _ => cases hl
  | _ => cases hl

theorem le_getLast_of_increasing {gs : List ℤ} (h : gs.Pairwise (· < ·)) {z : ℤ}
    (hz : gs.getLast? = some z) : ∀ x ∈ gs, x ≤ z := by
  obtain ⟨init, rfl⟩ := List.getLast?_eq_some_iff.mp hz
  intro x hx
  rcases List.mem_append.mp hx with hx | hx
  · exact le_of_lt ((List.pairwise_append.mp h).2.2 x hx z (by simp))
  · exact le_of_eq (List.mem_singleton.mp hx)

theorem Fenced.after {a : A} {w : World} (h : Fenced id m) (he : Effect m.world c r w)
    (hcond : NeverRestarts a m c r w) :
    Fenced id (m.after a c r w) := by
  obtain ⟨hincreasing, hlast⟩ := h
  have hstep := leaseStep_effect he a id
  have hfirst : ∀ l, leaseOf id ⟨a, c, r⟩ = some l → (m.world.ledger.lease? id).isSome = true ∨
      generations id m.trace = [] := fun l hl => neverRestarts_of_leaseOf hcond hl
  suffices h : (generations id (m.after a c r w).trace).Pairwise (· < ·) ∧
      ∀ l, w.ledger.lease? id = some l →
        (generations id (m.after a c r w).trace).getLast? = some l.leaseGeneration from ⟨h.1, h.2⟩
  rw [generations_after]
  generalize m.world.ledger.lease? id = before at hstep hlast hfirst
  generalize leaseOf id ⟨a, c, r⟩ = handed at hstep hfirst
  generalize w.ledger.lease? id = held at hstep
  cases hstep with
  | same => simpa using ⟨hincreasing, hlast⟩
  | first l =>
    -- the first lease of all
    have hnil : generations id m.trace = [] := (hfirst l rfl).resolve_left (by simp)
    simp [hnil]
  | taken l l' hgeneration =>
    have hle := le_getLast_of_increasing hincreasing (hlast l rfl)
    simp only [Option.map_some, Option.toList_some, List.getLast?_concat]
    refine ⟨List.pairwise_append.mpr ⟨hincreasing, List.pairwise_singleton _ _, ?_⟩, ?_⟩
    · intro x hx y hy
      have := hle x hx
      rw [List.mem_singleton.mp hy]
      omega
    · rintro _ ⟨⟩
      rfl
  | released l => simpa using hincreasing

/-- A release that deletes a row deletes the one with its instance and generation. -/
theorem lease?_of_released {db : Ledger} {instanceId : String} {generation : ℤ}
    (h : ((releaseLease id instanceId generation).exec db).1 = .ok 1) :
    ∃ l, db.lease? id = some l ∧ l.instanceId = instanceId ∧ l.leaseGeneration = generation := by
  have haffected : db.leases.affected (fun l => l.operationId == id && l.instanceId == instanceId &&
      l.leaseGeneration == generation) = 1 := Except.ok.inj h
  rw [Table.affected_eq_one_iff (pins_lease id) db.leases (by simp +contextual)] at haffected
  obtain ⟨l, hl, hguard⟩ := haffected
  simp only [Bool.and_eq_true, beq_iff_eq] at hguard
  exact ⟨l, hl, hguard.1.2, hguard.2⟩

/-- A lease can be given back only if none was handed out after it. -/
theorem Fenced.current (h : Fenced id m) {before later : List (Event bridgeCalls A)}
    {e : Event bridgeCalls A} (htrace : m.trace = before ++ e :: later) (hl : leaseOf id e = some l)
    (hreleased : ((releaseLease id l.instanceId l.leaseGeneration).exec m.world.ledger).1 = .ok 1) :
    generations id later = [] := by
  obtain ⟨l', hl', -, hgeneration⟩ := lease?_of_released hreleased
  have hle := le_getLast_of_increasing h.increasing (h.last l' hl')
  have hincreasing := h.increasing
  rw [htrace, generations_append, generations_cons hl] at hle hincreasing
  rw [List.eq_nil_iff_forall_not_mem]
  intro x hx
  -- a later generation is greater than this one, which is the greatest
  have hlt := (List.pairwise_cons.mp (List.pairwise_append.mp hincreasing).2.1).1 x hx
  have hx' := hle x (by simp [hx])
  omega

/-- **Lease fencing**: in runs in which no lease is handed out afresh once there was one, the
generations handed out for an operation grow, and a lease can be given back only while it is the
one handed out last. -/
theorem lease_fencing {Out : τ → Type} {body : (j : τ) → Program bridgeCalls (Out j)}
    {P : Pool bridgeCalls World Out}
    (hP : Pool.Reachable ((bridgeSemantics (ℕ × τ)).restrict NeverRestarts) body World.start P)
    (id : String) :
    (generations id P.moment.trace).Pairwise (· < ·) ∧
    ∀ before e later l, P.moment.trace = before ++ e :: later → leaseOf id e = some l →
      ((releaseLease id l.instanceId l.leaseGeneration).exec
        P.moment.world.ledger).1 = .ok 1 → generations id later = [] := by
  have hfenced : Fenced id P.moment := by
    refine Pool.steps_invariant (fun t m c r w he hm => hm.after he.1 he.2) (fun m w hd hm => ?_) hP
      ⟨List.Pairwise.nil, nofun⟩
    refine ⟨hm.increasing, fun l hl => hm.last l ?_⟩
    rwa [Moment.drifted_world, Drift.ledger hd] at hl
  exact ⟨hfenced.increasing, fun before e later l htrace hl => hfenced.current htrace hl⟩

/-! ## A lease that is given back by another recovery -/

section Reused

/-- The operation is claimed, or recovered by the instance `x`. -/
inductive RecoveryJob
  | claim
  | recover
  deriving DecidableEq

@[reducible] def RecoveryJob.Out : RecoveryJob → Type
  | claim => Except OperationClaimError BridgeOperationRecord
  | recover => AppResult (Option String)

def recoveredRequest : ClaimOperationRequest :=
  ⟨"op-1", "actor", "bot", 7, "telegram", kindSend, ⟨"user", "a.png", "A", "c.jsonl"⟩, "op-1",
    "op-1"⟩

def recoveredRecord : BridgeOperationRecord where
  id := "op-1"
  actorId := "actor"
  botId := "bot"
  telegramUpdateId := 7
  channelContextKey := "telegram"
  operationKind := kindSend
  locator := ⟨"user", "a.png", "A", "c.jsonl"⟩
  status := .committed
  commitState := .applied
  sourceSha256 := none
  sourceIntegrity := none
  sourceSize := none
  messageCount := none
  mutationDigest := none
  payload := none
  connectorResultJson := none
  errorStage := none
  errorCode := none
  errorSummary := none
  retryable := false
  attemptCount := 0
  requestId := "op-1"
  traceId := "op-1"
  createdAt := ""
  updatedAt := ""

def RecoveryJob.body : (j : RecoveryJob) → BridgeTask j.Out
  | claim => (OperationStore.claimOperation recoveredRequest).run
  | recover =>
    (OperationRecovery.recoverLeased .plain ⟨fun _ => throw refuse.refused, none, none⟩
      ⟨7, .rustBridge, 2, "bot", "x"⟩ "bot" "2026-01-01T00:01:00Z" ⟨7, "rust_bridge", 2, "bot", "x"⟩
      recoveredRecord).run

/-- A call as it takes effect when nothing but the database works; with `checked`, only if it meets
the condition. -/
def recoveryAct (checked : Bool) (t : ℕ × RecoveryJob)
    (m : Moment bridgeCalls (ℕ × RecoveryJob) World) (c : Call) : Option (c.Reply × World) :=
  let out := settle m.world c (refuse c)
  if checked = true ∧ ¬ NeverRestarts t m c out.1 out.2 then none else some out

theorem recoveryAct_effect {checked : Bool} {t : ℕ × RecoveryJob}
    {m : Moment bridgeCalls (ℕ × RecoveryJob) World} {w : World}
    (h : recoveryAct checked t m c = some (r, w)) :
    Effect m.world c r w ∧ (checked = true → NeverRestarts t m c r w) := by
  have heffect := refuse_effect m.world c
  simp only [recoveryAct] at h
  split at h
  · cases h
  · rename_i hcond
    have hout := Option.some.inj h
    rw [hout] at heffect hcond
    exact ⟨heffect, fun hchecked => not_not.mp fun hnot => hcond ⟨hchecked, hnot⟩⟩

/-- The pool after the moves. -/
def recoveriesAfter (checked : Bool) (moves : List (Move RecoveryJob Unit)) :
    Option (Pool bridgeCalls World RecoveryJob.Out) :=
  (Pool.start World.start).follow (fun _ => recoveryAct checked) RecoveryJob.body moves

/-- The second recovery takes the lease over and gives it back, and the third one gets a new lease,
before the first one is done. -/
def overlapping : List (Move RecoveryJob Unit) :=
  .spawn .claim :: List.replicate 3 (.exec 0 ()) ++
    [.spawn .recover, .exec 1 (), .exec 1 ()] ++
    .spawn .recover :: List.replicate 4 (.exec 2 ()) ++
    [.spawn .recover, .exec 3 (), .exec 3 ()] ++
    [.exec 1 (), .exec 1 (), .exec 3 (), .exec 3 ()]

/-- **A recovery gives back the lease of another one**, which then finds its lease lost. -/
theorem lease_generation_reused :
    ∃ P : Pool bridgeCalls World RecoveryJob.Out,
      Pool.Reachable (bridgeSemantics (ℕ × RecoveryJob)) RecoveryJob.body World.start P ∧
      generations "op-1" P.moment.trace = [1, 2, 1] ∧ P.Returned 1 .recover (.ok none) ∧
      P.Returned 3 .recover (.error (.conflict "OPERATION_LEASE_LOST"
        "operation execution lease changed before release")) := by
  have hrun : (recoveriesAfter false overlapping).map (fun P =>
      (generations "op-1" P.moment.trace, P.returned? 1 .recover, P.returned? 3 .recover)) =
        some ([1, 2, 1], some (.ok none), some (.error (.conflict "OPERATION_LEASE_LOST"
          "operation execution lease changed before release"))) := by
    decide +kernel
  obtain ⟨P, hP, hresults⟩ := Option.map_eq_some_iff.mp hrun
  obtain ⟨hgenerations, hresults⟩ := Prod.mk.inj hresults
  obtain ⟨hfirst, hthird⟩ := Prod.mk.inj hresults
  have hreachable : Pool.Reachable (bridgeSemantics (ℕ × RecoveryJob)) RecoveryJob.body World.start
      P := Pool.steps_of_follow (fun _ _ _ _ _ _ hact => (recoveryAct_effect hact).1) hP
  exact ⟨P, hreachable, hgenerations, Pool.returned_of_returned? hfirst,
    Pool.returned_of_returned? hthird⟩

/-- One recovery takes over the lease of another one. -/
def takingOver : List (Move RecoveryJob Unit) :=
  .spawn .claim :: List.replicate 3 (.exec 0 ()) ++
    [.spawn .recover, .exec 1 (), .exec 1 (), .spawn .recover, .exec 2 (), .exec 2 ()]

/-- The generations of a lease that was taken over. -/
theorem lease_fencing_taken :
    ∃ P : Pool bridgeCalls World RecoveryJob.Out,
      Pool.Reachable ((bridgeSemantics (ℕ × RecoveryJob)).restrict NeverRestarts) RecoveryJob.body
        World.start P ∧
      generations "op-1" P.moment.trace = [1, 2] ∧
      (generations "op-1" P.moment.trace).Pairwise (· < ·) := by
  have hrun : (recoveriesAfter true takingOver).map (fun P =>
      generations "op-1" P.moment.trace) = some [1, 2] := by
    decide +kernel
  obtain ⟨P, hP, hgenerations⟩ := Option.map_eq_some_iff.mp hrun
  have hreachable : Pool.Reachable ((bridgeSemantics (ℕ × RecoveryJob)).restrict NeverRestarts)
      RecoveryJob.body World.start P := by
    refine Pool.steps_of_follow (fun _ _ _ _ _ _ hact => ?_) hP
    exact ⟨(recoveryAct_effect hact).1, (recoveryAct_effect hact).2 rfl⟩
  exact ⟨P, hreachable, hgenerations, (lease_fencing hreachable "op-1").1⟩

end Reused

end ImBridge
