import ImBridge.Bridge.OperationStore
import ImBridge.Sequential

/-!
# The invariant of the operation ledger

Every update of the store has its own guard on the status and the commit state of a row, and none
of them consults the transition table. Here the guards are shown to agree with it: along every
interleaving of the store's functions, with statements failing and tasks lost at any point, each
row satisfies the invariant below, and its status only changes as the table allows.

## Main definitions

* `OperationRow.Consistent`, `Ledger.Consistent`: the invariant of a row, and of the ledger
* `Statement.Permitted`: the statements that keep it
* `StoreCall`, `StoreCall.body`: the functions of the store
* `ledgerDiscipline`: the discipline that the store's functions follow

## Main results

* `OperationRow.Consistent.set`: every guarded update keeps the invariant of its row
* `OperationUpdate.status_set`: every guarded update follows the transition table
* `Ledger.Consistent.exec`: every permitted statement keeps the invariant of the ledger
* `ledger_invariant`: the invariant and the transition table along every interleaving
-/

namespace ImBridge

open Interleaving BridgeOperationStatus

/-! ## Rows -/

/-- The row carries its whole payload, and a key reference of the version it was encrypted under
exists. -/
def OperationRow.HasPayload (db : Ledger) (r : OperationRow) : Prop :=
  r.operationPayloadCiphertext.isSome ∧ r.operationPayloadNonce.isSome ∧
    r.mutationDigest.isSome ∧
    ∃ version, r.operationPayloadKeyVersion = some version ∧ db.hasKeyRef r.id version = true

/-- The statuses in which a row has been given its payload. -/
def BridgeOperationStatus.carriesPayload : BridgeOperationStatus → Bool
  | generated | committing | committed | delivered | conflict => true
  | _ => false

/-- **The invariant of a row**: what its status and its commit state say about each other, and the
payload it carries. -/
structure OperationRow.Consistent (db : Ledger) (r : OperationRow) : Prop where
  applied_iff : r.commitState = .applied ↔ r.status = .committed ∨ r.status = .delivered
  unknown : r.commitState = .unknown → r.status = .committing
  not_applied : r.commitState = .notApplied → r.status = .failed ∨ r.status = .conflict
  payload : r.status.carriesPayload = true → r.HasPayload db

/-- A row that fails does so without its write, or knowing that the write was not applied. -/
def OperationUpdate.Permitted : OperationUpdate → Prop
  | failed _ _ _ _ commitState => commitState = .notStarted ∨ commitState = .notApplied
  | _ => True

variable {r : OperationRow} {db : Ledger} {u : OperationUpdate} {now : String}

/-- The payload columns are set together, by one update only. -/
theorem OperationRow.HasPayload.set (h : r.HasPayload db)
    (hu : ∀ payload digest, u ≠ .generated payload digest) : (u.set now r).HasPayload db := by
  cases u with
  | generated payload digest => exact absurd rfl (hu payload digest)
  | _ => exact h

/-- **Every guarded update keeps the invariant of its row.** -/
theorem OperationRow.Consistent.set (hr : r.Consistent db) (hu : u.Permitted)
    (hg : u.guard db r = true) : (u.set now r).Consistent db := by
  have hkeep : (∀ payload digest, u ≠ .generated payload digest) →
      r.status.carriesPayload = true → (u.set now r).HasPayload db :=
    fun hne hs => (hr.payload hs).set hne
  cases u with
  | snapshotReady sha integrity size count | generating | interrupted =>
    simp only [OperationUpdate.guard, Bool.and_eq_true, beq_iff_eq] at hg
    constructor <;> simp [OperationUpdate.set, carriesPayload, hg.2]
  | generated payload digest =>
    simp only [OperationUpdate.guard, Bool.and_eq_true, beq_iff_eq] at hg
    obtain ⟨⟨-, hstate⟩, hkey⟩ := hg
    refine ⟨?_, ?_, ?_, fun _ => ⟨rfl, rfl, rfl, _, rfl, hkey⟩⟩ <;>
      simp [OperationUpdate.set, hstate]
  | committing | delivered =>
    simp only [OperationUpdate.guard, Bool.and_eq_true, beq_iff_eq] at hg
    refine ⟨?_, ?_, ?_, fun _ => hkeep (by simp) (by rw [hg.1]; rfl)⟩ <;>
      simp [OperationUpdate.set, hg.2]
  | committed json expected | conflict summary =>
    simp only [OperationUpdate.guard, Bool.and_eq_true, beq_iff_eq] at hg
    refine ⟨?_, ?_, ?_, fun _ => hkeep (by simp) (by rw [hg.1]; rfl)⟩ <;>
      simp [OperationUpdate.set]
  | failed stage code summary retryable commitState =>
    rcases hu with rfl | rfl <;>
      constructor <;> simp [OperationUpdate.set, carriesPayload]
  | commitUnknown =>
    simp only [OperationUpdate.guard, Bool.and_eq_true, beq_iff_eq] at hg
    refine ⟨?_, ?_, ?_, fun _ => hkeep (by simp) (by rw [hg.1]; rfl)⟩ <;>
      simp [OperationUpdate.set, hg.1]

/-- A row that is generating or generated has neither begun its write nor settled it. -/
theorem OperationRow.Consistent.commitState_of_early (hr : r.Consistent db)
    (hs : r.status = .generating ∨ r.status = .generated) : r.commitState = .notStarted := by
  cases hc : r.commitState with
  | notStarted => rfl
  | notApplied => rcases hs with hs | hs <;> simpa [hs] using hr.not_applied hc
  | applied => rcases hs with hs | hs <;> simpa [hs] using hr.applied_iff.mp hc
  | unknown => rcases hs with hs | hs <;> simpa [hs] using hr.unknown hc

theorem OperationRow.Consistent.interruptStale (hr : r.Consistent db) (hs : r.status = .generating)
    : ((interruptStale now).set r).Consistent db := by
  have hstate := hr.commitState_of_early (.inl hs)
  constructor <;> simp [ImBridge.interruptStale, carriesPayload, hstate]

theorem OperationRow.consistent_claim (db : Ledger) (request : ClaimOperationRequest)
    (id now : String) : (request.row id now).Consistent db := by
  constructor <;> simp [ClaimOperationRequest.row, carriesPayload]

/-- **Every guarded update follows the transition table**, or leaves the status as it is. -/
theorem OperationUpdate.status_set (hg : u.guard db r = true) :
    (u.set now r).status = r.status ∨ r.status.canTransitionTo (u.set now r).status = true := by
  cases u with
  | commitUnknown => exact .inl rfl
  | generated payload digest =>
    simp only [guard, Bool.and_eq_true, Bool.or_eq_true, beq_iff_eq] at hg
    rcases hg.1.1 with hs | hs <;> exact .inr (by rw [hs]; rfl)
  | failed stage code summary retryable commitState =>
    simp only [guard, Bool.and_eq_true, Bool.or_eq_true, beq_iff_eq] at hg
    rcases hg.1 with (((hs | hs) | hs) | hs) | hs <;> exact .inr (by rw [hs]; rfl)
  | _ =>
    simp only [guard, Bool.and_eq_true, beq_iff_eq] at hg
    exact .inr (by rw [hg.1]; rfl)

/-! ## The ledger -/

/-- Every row of the ledger satisfies its invariant. -/
def Ledger.Consistent (db : Ledger) : Prop := ∀ r ∈ db.operations.rows, r.Consistent db

/-- The statements of the store's functions. -/
def Statement.Permitted : Statement → Prop
  | updateOperation u _ _ => u.Permitted
  | _ => True

theorem OperationRow.Consistent.mono {db db' : Ledger} (hr : r.Consistent db)
    (hdb : ∀ id version, db.hasKeyRef id version = true → db'.hasKeyRef id version = true) :
    r.Consistent db' := by
  refine ⟨hr.applied_iff, hr.unknown, hr.not_applied, fun hs => ?_⟩
  obtain ⟨hc, hn, hd, version, hv, hkey⟩ := hr.payload hs
  exact ⟨hc, hn, hd, version, hv, hdb _ _ hkey⟩

variable {id : String}

namespace Ledger

theorem hasKeyRef_exec (s : Statement) {version : ℤ} (h : db.hasKeyRef id version = true) :
    (s.exec db).2.hasKeyRef id version = true := by
  obtain ⟨k, hk, hv⟩ := hasKeyRef_iff.mp h
  exact hasKeyRef_iff.mpr ⟨k, keyRef?_exec s hk, hv⟩

/-- Rows are selected by their ids. -/
theorem operation?_eq_some_iff :
    db.operation? id = some r ↔ r ∈ db.operations.rows ∧ r.id = id := by
  rw [operation?, Relational.Table.find?_eq_some_iff (pins_id id)]
  simp

theorem Consistent.row (h : db.Consistent) (hr : db.operation? id = some r) : r.Consistent db :=
  h r (operation?_eq_some_iff.mp hr).1

/-- **Every permitted statement keeps the invariant of the ledger.** -/
theorem Consistent.exec (h : db.Consistent) {s : Statement} (hs : s.Permitted) :
    (s.exec db).2.Consistent := by
  intro r' hr'
  suffices hold : r'.Consistent db from hold.mono fun id version => hasKeyRef_exec s
  obtain ⟨id, hfind⟩ : ∃ id, (s.exec db).2.operation? id = some r' :=
    ⟨r'.id, operation?_eq_some_iff.mpr ⟨hr', rfl⟩⟩
  have hstep := rowStep_exec db s id
  rw [hfind] at hstep
  generalize hold : db.operation? id = o at hstep
  cases hstep with
  | same => exact h.row hold
  | claimed request now hstmt => exact OperationRow.consistent_claim db request _ now
  | updated u now r hstmt hg =>
    subst hstmt
    exact (h.row hold).set hs hg
  | interrupted cutoff now r hstmt hg => exact (h.row hold).interruptStale hg

/-- **Every statement follows the transition table**, for every row. -/
theorem status_exec (s : Statement) (hr : db.operation? id = some r) :
    ∃ r', (s.exec db).2.operation? id = some r' ∧
      (r'.status = r.status ∨ r.status.canTransitionTo r'.status = true) := by
  have hstep := rowStep_exec db s id
  rw [hr] at hstep
  generalize hnew : (s.exec db).2.operation? id = o at hstep
  cases hstep with
  | same => exact ⟨r, rfl, .inl rfl⟩
  | updated u now r hstmt hg => exact ⟨_, rfl, OperationUpdate.status_set hg⟩
  | interrupted cutoff now r hstmt hg => exact ⟨_, rfl, .inr (by rw [hg]; rfl)⟩

end Ledger

/-! ## Interleavings of the store's functions -/

/-- A call of a function that changes the ledger. As its callers do, `mark_failed_with_state` is
called only with the commit states `not_started` and `not_applied`. -/
inductive StoreCall
  | claimOperation (request : ClaimOperationRequest)
  | updateSnapshotReady (id : String) (sourceSha256 sourceIntegrity : Option String)
      (sourceSize messageCount : Option ℤ)
  | updateGenerating (id : String)
  | updateGenerated (id : String) (payload : EncryptedOperationPayload) (mutationDigest : String)
  | markCommitting (id : String)
  | markCommittedWithState (id connectorResultJson : String) (expected : OperationCommitState)
  | markDelivered (id : String)
  | markConflict (id errorSummary : String)
  | markFailedWithState (id errorStage errorCode errorSummary : String) (retryable : Bool)
      (commitState : OperationCommitState)
      (h : commitState = .notStarted ∨ commitState = .notApplied)
  | markInterrupted (id : String)
  | markCommitUnknown (id : String)
  | interruptStaleGenerating (cutoff : String)
  | putOperationKeyReference (id wrappedSecretId : String) (keyVersion : UInt32)

namespace StoreCall

open OperationStore

@[reducible] def Out : StoreCall → Type
  | claimOperation _ => Except OperationClaimError BridgeOperationRecord
  | interruptStaleGenerating _ => AppResult (List String)
  | putOperationKeyReference .. => AppResult Unit
  | _ => AppResult BridgeOperationRecord

def body : (j : StoreCall) → BridgeTask j.Out
  | claimOperation request => (OperationStore.claimOperation request).run
  | updateSnapshotReady id sha integrity size count =>
    (OperationStore.updateSnapshotReady id sha integrity size count).run
  | updateGenerating id => (OperationStore.updateGenerating id).run
  | updateGenerated id payload digest => (OperationStore.updateGenerated id payload digest).run
  | markCommitting id => (OperationStore.markCommitting id).run
  | markCommittedWithState id json expected =>
    (OperationStore.markCommittedWithState id json expected).run
  | markDelivered id => (OperationStore.markDelivered id).run
  | markConflict id summary => (OperationStore.markConflict id summary).run
  | markFailedWithState id stage code summary retryable commitState _ =>
    (OperationStore.markFailedWithState id stage code summary retryable commitState).run
  | markInterrupted id => (OperationStore.markInterrupted id).run
  | markCommitUnknown id => (OperationStore.markCommitUnknown id).run
  | interruptStaleGenerating cutoff => (OperationStore.interruptStaleGenerating cutoff).run
  | putOperationKeyReference id secretId version =>
    (OperationStore.putOperationKeyReference id secretId version).run

end StoreCall

/-- The call is not a statement, or a permitted one. -/
def Call.Permitted : Call → Prop
  | .sql s => s.Permitted
  | _ => True

theorem uses_applyUpdate_permitted (hu : u.Permitted) (id expectedFrom expectedTo : String) :
    (OperationStore.applyUpdate u id expectedFrom expectedTo).run.Uses Call.Permitted :=
  OperationStore.uses_applyUpdate trivial (fun _ => hu) trivial

/-- Every function of the store issues permitted statements only. -/
theorem StoreCall.uses_permitted (j : StoreCall) : j.body.Uses Call.Permitted := by
  cases j with
  | claimOperation request =>
    exact OperationStore.uses_claimOperation trivial trivial (fun _ _ => trivial) (fun _ => trivial)
      trivial
  | markFailedWithState id stage code summary retryable commitState h =>
    refine uses_applyUpdate_permitted ?_ id _ _
    exact h
  | interruptStaleGenerating cutoff =>
    exact Fallible.uses_bind (Fallible.uses_lift (OperationStore.uses_ask trivial)) fun now =>
      OperationStore.uses_sql trivial
  | putOperationKeyReference id secretId version =>
    exact OperationStore.uses_putOperationKeyReference trivial (fun _ => trivial) trivial
  | _ =>
    refine uses_applyUpdate_permitted ?_ _ _ _
    trivial

/-- **The discipline of the store**: permitted statements keep the ledger consistent. -/
def ledgerDiscipline (A : Type) : Discipline (bridgeSemantics A) where
  inv m := m.world.ledger.Consistent
  may _ _ c := Call.Permitted c
  keep a m c r w hinv hmay he := by
    show w.ledger.Consistent
    rcases Effect.ledger he with ⟨s, rfl, hw⟩ | hw
    · rw [hw]; exact hinv.exec hmay
    · rw [hw]; exact hinv
  keep_drift m w hinv hd := by
    show w.ledger.Consistent
    rw [Drift.ledger hd]; exact hinv

/-- A step of a pool changes the status of a row as the transition table allows, or not at all. -/
theorem status_step {τ : Type} {Out : τ → Type} {body : (j : τ) → BridgeTask (Out j)}
    {P Q : Pool bridgeCalls World Out} (hs : Pool.Step (bridgeSemantics (ℕ × τ)) body P Q)
    (hr : P.moment.world.ledger.operation? id = some r) :
    ∃ r', Q.moment.world.ledger.operation? id = some r' ∧
      (r'.status = r.status ∨ r.status.canTransitionTo r'.status = true) := by
  cases hs with
  | spawn m ts j | crash m ts i j c k hi => exact ⟨r, hr, .inl rfl⟩
  | exec m ts i j c k reply w hi he =>
    show ∃ r', w.ledger.operation? id = some r' ∧ _
    rcases Effect.ledger he with ⟨s, rfl, hw⟩ | hw
    · rw [hw]; exact Ledger.status_exec s hr
    · rw [hw]; exact ⟨r, hr, .inl rfl⟩
  | drift m ts w hd =>
    show ∃ r', w.ledger.operation? id = some r' ∧ _
    rw [Drift.ledger hd]; exact ⟨r, hr, .inl rfl⟩

/-- A terminal status never changes. -/
theorem status_of_isTerminal {τ : Type} {Out : τ → Type} {body : (j : τ) → BridgeTask (Out j)}
    {P Q : Pool bridgeCalls World Out}
    (h : Relation.ReflTransGen (Pool.Step (bridgeSemantics (ℕ × τ)) body) P Q)
    (hr : P.moment.world.ledger.operation? id = some r) (ht : r.status.isTerminal = true) :
    ∃ r', Q.moment.world.ledger.operation? id = some r' ∧ r'.status = r.status := by
  induction h with
  | refl => exact ⟨r, hr, rfl⟩
  | tail _ hs ih =>
    obtain ⟨r', hr', hstatus⟩ := ih
    obtain ⟨r'', hr'', hstep⟩ := status_step hs hr'
    refine ⟨r'', hr'', ?_⟩
    rcases hstep with hsame | hmove
    · rw [hsame, hstatus]
    · rw [hstatus, canTransitionTo_eq_false_of_isTerminal ht] at hmove
      exact absurd hmove (by simp)

/-- **The ledger invariant**: in every interleaving of the store's functions from the empty ledger,
every row is consistent, every step follows the transition table, and a row that is delivered, in
conflict, failed or interrupted stays so. -/
theorem ledger_invariant {P : Pool bridgeCalls World StoreCall.Out}
    (h : Pool.Reachable (bridgeSemantics (ℕ × StoreCall)) StoreCall.body World.start P) :
    (∀ r ∈ P.moment.world.ledger.operations.rows, r.Consistent P.moment.world.ledger) ∧
    (∀ Q, Pool.Step (bridgeSemantics (ℕ × StoreCall)) StoreCall.body P Q →
      ∀ id r, P.moment.world.ledger.operation? id = some r →
        ∃ r', Q.moment.world.ledger.operation? id = some r' ∧
          (r'.status = r.status ∨ r.status.canTransitionTo r'.status = true)) ∧
    (∀ Q, Relation.ReflTransGen (Pool.Step (bridgeSemantics (ℕ × StoreCall)) StoreCall.body) P Q →
      ∀ id r, P.moment.world.ledger.operation? id = some r → r.status.isTerminal = true →
        ∃ r', Q.moment.world.ledger.operation? id = some r' ∧ r'.status = r.status) := by
  have hspec : ∀ j i, (ledgerDiscipline (ℕ × StoreCall)).Triple (i, j) (fun m => m.Silent (i, j))
      (StoreCall.body j) fun _ _ => True := by
    intro j i
    refine (Discipline.triple_of_uses (R := fun _ => True) (StoreCall.uses_permitted j)
      (Program.ends_true _) Discipline.stable_true fun c hc m _ _ =>
        ⟨hc, fun _ _ _ => trivial⟩).weaken (fun _ _ _ => trivial) fun _ _ _ _ => trivial
  have hstart : (ledgerDiscipline (ℕ × StoreCall)).inv ⟨World.start, []⟩ :=
    fun r hr => absurd hr List.not_mem_nil
  refine ⟨(Discipline.sound hspec hstart h).inv, ?_, ?_⟩
  · intro Q hs id r hr
    exact status_step hs hr
  · intro Q hs id r hr ht
    exact status_of_isTerminal hs hr ht

/-- An operation that is claimed and then fails is a failed one in every continuation. -/
theorem ledger_invariant_failed : ∃ P : Pool bridgeCalls World StoreCall.Out,
    Pool.Reachable (bridgeSemantics (ℕ × StoreCall)) StoreCall.body World.start P ∧
    (∃ r, P.moment.world.ledger.operation? "op-1" = some r ∧ r.status = .failed ∧
      r.Consistent P.moment.world.ledger) ∧
    ∀ Q, Relation.ReflTransGen (Pool.Step (bridgeSemantics (ℕ × StoreCall)) StoreCall.body) P Q →
      ∃ r, Q.moment.world.ledger.operation? "op-1" = some r ∧ r.status = .failed := by
  obtain ⟨P, hP, -, hw, -⟩ := Pool.exists_reachable_runs (bridgeSemantics (ℕ × StoreCall))
    StoreCall.body (fun c w => settle w c (refuse c)) (fun _ m c => refuse_effect m.world c)
    World.start
    [.claimOperation ⟨"op-1", "actor", "bot", 7, "telegram", kindSend,
        ⟨"user", "a.png", "A", "c.jsonl"⟩, "op-1", "op-1"⟩,
      .markFailedWithState "op-1" "snapshot" "ST_CONNECT_FAILED" "" true .notStarted (.inl rfl)]
  obtain ⟨r, hr, hs⟩ := (Option.any_eq_true (fun r : OperationRow => r.status == .failed)
    (P.moment.world.ledger.operation? "op-1")).mp (by rw [hw]; decide +kernel)
  rw [beq_iff_eq] at hs
  obtain ⟨hrows, -, hterminal⟩ := ledger_invariant hP
  refine ⟨P, hP, ⟨r, hr, hs, hrows r (Ledger.operation?_eq_some_iff.mp hr).1⟩, fun Q hQ => ?_⟩
  rw [← hs]
  exact hterminal Q hQ "op-1" r hr (by rw [hs]; rfl)

end ImBridge
