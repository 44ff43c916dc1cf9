import ImBridge.Bridge.Leases
import ImBridge.Bridge.StoreRuns
import ImBridge.Bridge.WriteSpecs
import ImBridge.Interleaving.Alone

/-!
# Which operations recovery reaches

A recovery looks at the first 128 candidates, those that were changed longest ago. An operation that
could not be recovered stays where it is, and an operation that was committed is a candidate for as
long as it is not delivered. So the recovery that follows looks at the same candidates again:
an operation behind the first 128 is reached only if something else makes room.

## Main definitions

* `OperationRecovery.firstPage`: the candidates that a recovery looks at
* `OperationRecovery.Attempted`: an operation was replayed or reconciled, with or without success
* `OperationRecovery.Recoveries`: successful recoveries one after the other, and nothing else
* `OperationRecovery.Takeable`: nobody else holds the lease of an operation that has not expired
* `OperationRecovery.Smooth`: the fence is granted, and the clock does not go back

## Main results

* `OperationRecovery.attempted_of_recoverEach`: a recovery attempts all that it looks at
* `OperationRecovery.recovery_reaches`: the candidates that are reached are those of the first page
* `OperationRecovery.recovery_starves`: an operation that is not reached
-/

namespace ImBridge

open Interleaving Relational OperationStore Statement OperationCoordinator
open Fallible (run_lift_bind uses_attempt uses_bind uses_lift uses_mapError uses_ofExcept uses_pure
  uses_throw)

namespace OperationRecovery

/-! ## Candidates and attempts -/

/-- The candidates of the bot, in the order in which they are looked at. -/
def candidates (db : Ledger) (botId : String) : List OperationRow :=
  (db.operations.rows.filter (isRecoveryCandidate botId)).insertionSort
    olderFirst

/-- The candidates that a recovery looks at. -/
def firstPage (db : Ledger) (botId : String) : List OperationRow :=
  (candidates db botId).take recoveryLimit

/-- The operation waits to be written, or for the outcome of its write. -/
def Unfinished (row : OperationRow) : Prop := row.status = .generated ∨ row.status = .committing

/-- The bridge with one task, and nothing else going on. -/
abbrev alone : Semantics bridgeCalls Unit World := bridgeSemantics Unit

/-- The call of the coordinator that a recovery makes for the record, by its status. -/
def Works (lib : Primitives) (runtime : Runtime) (botId : String) (record : BridgeOperationRecord)
    (m m' : SoleMoment) : Prop :=
  (record.status = .generated ∧ ∃ fence r, Runs alone ()
    ((runtime.coordinator lib).replayGenerated lib record botId fence).run m r m') ∨
  (record.status = .committing ∧ ∃ r, Runs alone ()
    (reconcileCommit lib record (locatorHash lib record.locator.handle record.locator.avatar
      record.locator.chatFile)).run m r m')

/-- **An attempt on an operation**: its lease was handed out, the fence was granted, and from there
`replay_generated` or `reconcile_commit` was run for it. -/
def Attempted (lib : Primitives) (runtime : Runtime) (botId : String) (row : OperationRow)
    (trace : List (Event bridgeCalls Unit)) : Prop :=
  ∃ record before lease m m', row.intoRecord = .ok record ∧
    m.trace = before ++ [lease, ⟨(), .assertCommitFence, .ok ()⟩] ∧
    (leaseOf row.id lease).isSome = true ∧ Works lib runtime botId record m m' ∧ m'.trace <+: trace

section Attempted

variable {lib : Primitives} {runtime : Runtime} {botId : String} {row : OperationRow}
  {trace : List (Event bridgeCalls Unit)} (h : Attempted lib runtime botId row trace)
include h

theorem Attempted.append (more : List (Event bridgeCalls Unit)) :
    Attempted lib runtime botId row (trace ++ more) := by
  obtain ⟨record, before, lease, m, m', hrecord, hm, hlease, hworks, htrace⟩ := h
  exact ⟨record, before, lease, m, m', hrecord, hm, hlease, hworks,
    htrace.trans (List.prefix_append _ _)⟩

theorem Attempted.exists_leaseOf : ∃ e ∈ trace, (leaseOf row.id e).isSome = true := by
  obtain ⟨record, before, lease, m, m', -, hm, hlease, hworks, htrace⟩ := h
  obtain ⟨more, hmore⟩ : ∃ more, m'.trace = m.trace ++ more := by
    rcases hworks with ⟨-, fence, r, hrun⟩ | ⟨-, r, hrun⟩
    · exact hrun.exists_trace
    · exact hrun.exists_trace
  refine ⟨lease, htrace.subset ?_, hlease⟩
  rw [hmore, hm]
  simp

end Attempted

/-- The fence is not refused, and the clock does not go back behind a time. -/
def Smooth (since : String) : Event bridgeCalls Unit → Bool
  | ⟨_, .assertCommitFence, .error _⟩ => false
  | ⟨_, .nowRfc3339, now⟩ => !decide (now < since)
  | _ => true

section Runs

variable (lib : Primitives) (runtime : Runtime) (guard : PollerOwnershipGuard) (botId : String)

/-- Successful recoveries for the bot, one after the other. -/
inductive Recoveries : ℕ → SoleMoment → SoleMoment → Prop
  | zero (m : SoleMoment) : Recoveries 0 m m
  | succ (k : ℕ) (m m₁ m' : SoleMoment) (recovered : List String)
      (hrun : Runs alone () (recoverForBot lib (runtime.coordinator lib) guard botId).run m
        (.ok recovered) m₁) (hrest : Recoveries k m₁ m') : Recoveries (k + 1) m m'

end Runs

/-! ## Leases that can be taken -/

/-- A lease that can be taken: it is our own or has expired, and its next generation is a number of
the table. -/
def CanTake (instanceId since : String) (l : OperationLeaseRow) : Prop :=
  (l.instanceId = instanceId ∨ ¬ since < l.leaseUntil) ∧ l.leaseGeneration < 9223372036854775807

/-- The operation is one of the bot, and its lease can be taken. -/
structure Takeable (instanceId botId since id : String) (db : Ledger) : Prop where
  row : ∃ row, db.operation? id = some row ∧ row.botId = botId
  lease : ∀ l, db.lease? id = some l → CanTake instanceId since l

variable {row : OperationRow} {c : Call} {id since : String}

section Takeable

variable {instanceId botId : String} {db : Ledger}

/-- The lease of such an operation is handed out. -/
theorem Takeable.exec_acquireLease (h : Takeable instanceId botId since id db) (leaseUntil : String)
    {now : String} (hnow : ¬ now < since) :
    ∃ row, ((acquireLease id botId instanceId leaseUntil now).exec db).1 =
      .ok (some row) := by
  obtain ⟨row, hrow, hbot⟩ := h.row
  have hexists : (db.operation? id).any (·.botId == botId) = true := by simp [hrow, hbot]
  simp only [exec, hexists, if_true]
  cases hins : db.leases.insert? (firstLease id instanceId leaseUntil now) with
  | some leases => exact ⟨_, rfl⟩
  | none =>
    -- there is a lease already, and it is our own or has expired
    obtain ⟨l, hl, hclash⟩ := Table.insert?_eq_none hins
    have hlease : db.lease? id = some l :=
      (Table.find?_eq_some_iff (pins_lease id) db.leases).mpr ⟨hl, beq_iff_eq.mpr hclash⟩
    obtain ⟨hholder, hgeneration⟩ := h.lease l hlease
    have htake : canTakeOver id instanceId now l = true := by
      have hid : l.operationId = id := by simpa using List.find?_some hlease
      have hholder' : l.instanceId = instanceId ∨ ¬ now < l.leaseUntil := by
        refine hholder.imp_right fun hsince => String.not_lt.mpr ?_
        exact String.le_trans (String.not_lt.mp hsince) (String.not_lt.mp hnow)
      simpa [canTakeOver, hid, hgeneration] using hholder'
    refine ⟨(takeOver instanceId leaseUntil now).set l, ?_⟩
    rw [find?_canTakeOver, hlease, Option.filter_some_pos htake]
    rfl

theorem exists_operation?_exec (s : Statement) (h : db.operation? id = some row) :
    ∃ row', (s.exec db).2.operation? id = some row' ∧ row'.botId = row.botId := by
  have hstep := db.rowStep_exec s id
  rw [h] at hstep
  generalize (s.exec db).2.operation? id = after at hstep ⊢
  cases hstep with
  | same => exact ⟨row, rfl, rfl⟩
  | updated u now _ hs hg => exact ⟨_, rfl, by cases u <;> rfl⟩
  | interrupted cutoff now _ hs hg => exact ⟨_, rfl, rfl⟩

/-- It stays so, as long as its lease is not handed out. -/
theorem Takeable.after {w w' : World} {r : c.Reply}
    (h : Takeable instanceId botId since id w.ledger)
    (he : Effect w c r w') (hlease : leaseOf id (⟨(), c, r⟩ : Event bridgeCalls Unit) = none) :
    Takeable instanceId botId since id w'.ledger := by
  constructor
  · obtain ⟨row, hrow, hbot⟩ := h.row
    rcases he.ledger with ⟨s, -, hledger⟩ | hledger
    · obtain ⟨row', hrow', hbot'⟩ := exists_operation?_exec s hrow
      exact ⟨row', by rw [hledger, hrow'], hbot'.trans hbot⟩
    · exact ⟨row, by rw [hledger, hrow], hbot⟩
  · intro l hl
    have hstep := leaseStep_effect he () id
    rw [hlease, hl] at hstep
    cases hstep' : w.ledger.lease? id with
    | none =>
      rw [hstep'] at hstep
      cases hstep
    | some l₀ =>
      rw [hstep'] at hstep
      cases hstep
      exact h.lease l hstep'

end Takeable

/-! ## Work on an operation hands out no lease -/

/-- The call hands out no lease. -/
def Leaseless (c : Call) : Prop :=
  ∀ (id : String) (r : c.Reply), leaseOf id (⟨(), c, r⟩ : Event bridgeCalls Unit) = none

theorem leaseless_of_calm (h : c.Calm) : Leaseless c := by
  intro id r
  cases c with
  | sql s => cases s <;> first | rfl | cases h
  | _ => rfl

@[grind! .]
theorem uses_applyUpdate_leaseless (u : OperationUpdate) (id expectedFrom expectedTo : String) :
    Fallible.Uses Leaseless (applyUpdate u id expectedFrom expectedTo) :=
  uses_applyUpdate (leaseless_of_calm trivial) (fun _ _ _ => rfl) fun _ _ => rfl

section Work

variable (lib : Primitives) (operationId : String) (runtime : Runtime)
  (record : BridgeOperationRecord)

@[grind! .]
theorem uses_recordNotApplied_leaseless (summary : String) (error : StBridgeError) :
    Fallible.Uses Leaseless (recordNotApplied operationId summary error) := by
  unfold recordNotApplied markFailedWithState
  grind [uses_attempt]

@[grind! .]
theorem uses_recordUnknown_leaseless : Fallible.Uses Leaseless (recordUnknown operationId) := by
  unfold recordUnknown markCommitUnknown
  grind [uses_attempt]

@[grind! .]
theorem uses_recordReplayed_leaseless (result : StCommitResult) :
    Fallible.Uses Leaseless (recordReplayed lib operationId result) := by
  unfold recordReplayed markCommittedWithState
  grind

@[grind! .]
theorem uses_recordOutcome_leaseless (summaries : Summaries) (outcome : StResult StCommitResult) :
    Fallible.Uses Leaseless
      (recordOutcome lib operationId summaries (recordReplayed lib operationId) outcome) := by
  unfold recordOutcome
  grind

theorem uses_invoke_leaseless (command : BackendCommand) :
    Fallible.Uses Leaseless
      (ExceptT.lift (invoke (runtime.coordinator lib) operationId command) : StTask _) := by
  refine uses_lift (Program.uses_bind (uses_ask fun _ _ => rfl) fun _ => ?_)
  change (runtime.backend.write lib command).run.Uses Leaseless
  rw [ReqwestStBackend.write_eq]
  refine uses_bind ?_ fun request => ?_
  · exact (ReqwestStBackend.uses_admission lib runtime.backend command).imp
      fun c hc => leaseless_of_calm hc.calm
  · exact uses_bind (uses_lift (uses_ask fun _ _ => rfl)) fun sent => uses_ofExcept _

@[grind! .]
theorem uses_replayGenerated_leaseless (internalBotId : String) (fence : PollerRuntimeFence) :
    Fallible.Uses Leaseless
      ((runtime.coordinator lib).replayGenerated lib record internalBotId fence) := by
  have hrestore : Fallible.Uses Leaseless
      (restorePayloadEncryptorForOperation (runtime.coordinator lib) record.id) :=
    (uses_restorePayloadEncryptorForOperation _).imp fun c hc => leaseless_of_calm hc
  have hinvoke := uses_invoke_leaseless lib record.id runtime
  unfold replayGenerated decryptRecoveryPayloadForOperation perform
    OperationCoordinator.markCommitting OperationStore.markCommitting
  grind

@[grind! .]
theorem uses_reconcileCommit_leaseless (locatorHash : String) :
    Fallible.Uses Leaseless (reconcileCommit lib record locatorHash) := by
  have hlookup : Fallible.Uses Leaseless
      (ExceptT.mk (ask (.journalLookup record.id)) : AppTask (Option StOperationJournalRecord)) :=
    uses_ask fun _ _ => rfl
  unfold reconcileCommit confirm markCommittedWithState
  grind

/-- The work on an operation hands out no lease. -/
theorem uses_rewrite_leaseless (internalBotId : String) (fence : PollerRuntimeFence) :
    Fallible.Uses Leaseless
      (rewrite lib (runtime.coordinator lib) internalBotId fence record) := by
  unfold rewrite
  grind

end Work

/-! ## One recovery -/

variable {record : BridgeOperationRecord} {records : List BridgeOperationRecord}

variable {rows : List OperationRow} {db : Ledger}

theorem intoRecord_eq_ok (h : row.intoRecord = .ok record) :
    record.id = row.id ∧ record.status = row.status := by
  obtain ⟨payload, -, h⟩ := exists_of_bind_eq_ok h
  split at h
  · cases h
    exact ⟨rfl, rfl⟩
  · cases h

theorem forall₂_of_mapM (h : rows.mapM OperationRow.intoRecord = .ok records) :
    List.Forall₂ (fun row record => OperationRow.intoRecord row = .ok record) rows records := by
  induction rows generalizing records with
  | nil =>
    cases h
    exact .nil
  | cons row rows ih =>
    rw [List.mapM_cons] at h
    obtain ⟨record, hrecord, h⟩ := exists_of_bind_eq_ok h
    obtain ⟨rest, hrest, h⟩ := exists_of_bind_eq_ok h
    cases h
    exact .cons hrecord (ih hrest)

theorem exists_record_of_mapM (h : rows.mapM OperationRow.intoRecord = .ok records)
    (hrow : row ∈ rows) : ∃ record ∈ records, row.intoRecord = .ok record := by
  have hforall := forall₂_of_mapM h
  clear h
  induction hforall with
  | nil => cases hrow
  | @cons first record rows records hrecord _ ih =>
    rcases List.mem_cons.mp hrow with rfl | hrow
    · exact ⟨record, by simp, hrecord⟩
    · obtain ⟨record, hmem, hrecord⟩ := ih hrow
      exact ⟨record, List.mem_cons_of_mem _ hmem, hrecord⟩

theorem map_id_of_mapM (h : rows.mapM OperationRow.intoRecord = .ok records) :
    records.map (·.id) = rows.map (·.id) := by
  have hforall := forall₂_of_mapM h
  clear h
  induction hforall with
  | nil => rfl
  | cons hrecord _ ih => rw [List.map_cons, List.map_cons, ih, (intoRecord_eq_ok hrecord).1]

section Loop

variable {lib : Primitives} {runtime : Runtime} {guard : PollerOwnershipGuard} {botId : String}
  {leaseUntil : String} {fence : PollerRuntimeFence} {m m' : SoleMoment}

/-- A statement that does not fail has taken effect. -/
theorem runs_sql_ok {s : Statement} {rows : s.Rows}
    (h : Runs alone () (sql s).run m (.ok rows) m') :
    (s.exec m.world.ledger).1 = .ok rows ∧
      m' = m.after () (.sql s) (.ok rows) { m.world with ledger := (s.exec m.world.ledger).2 } := by
  obtain ⟨reply, m₁, hask, hreply⟩ := h.of_bind
  obtain ⟨w, he, rfl⟩ := hask.of_perform
  cases reply with
  | error e => cases hreply
  | ok rows' =>
    cases hreply
    rcases he with ⟨hok, rfl⟩ | ⟨herror, -⟩
    · exact ⟨hok.symm, rfl⟩
    · cases herror

/-- A call that only asks for something leaves the world as it is. -/
theorem runs_ask {r : c.Reply} (h : Runs alone () (ask c) m r m') (hc : c.Calm) :
    m' = m.after () c r m.world := by
  obtain ⟨w, he, rfl⟩ := h.of_perform
  rw [Effect.of_calm he hc]

theorem runs_ofExcept {α : Type} {x : AppResult α} {a : α}
    (h : Runs alone () (Fallible.ofExcept x : AppTask α).run m (.ok a) m') :
    x = .ok a ∧ m' = m := by
  rw [Fallible.run_ofExcept] at h
  cases h
  exact ⟨rfl, rfl⟩

/-- The lease of an operation that can be taken is handed out, by the last call. -/
theorem leaseOf_of_tryAcquire {lease : Option OperationExecutionLease}
    (hrun : Runs alone () (tryAcquireExecutionLease id botId guard.runtimeInstanceId leaseUntil).run
      m (.ok lease) m') (hopen : Takeable guard.runtimeInstanceId botId since id m.world.ledger)
    (hsmooth : ∀ e ∈ m'.trace, Smooth since e = true) :
    (∃ taken, lease = some taken) ∧
      ∃ before e, m'.trace = before ++ [e] ∧ (leaseOf id e).isSome = true := by
  unfold tryAcquireExecutionLease at hrun
  split at hrun
  · cases hrun
  · obtain ⟨now, m₁, hnow, hrun⟩ := Fallible.runs_lift_bind hrun
    obtain rfl := runs_ask hnow trivial
    obtain ⟨more, hmore⟩ := hrun.exists_trace
    have hclock : ¬ now < since := by
      simpa [Smooth] using hsmooth ⟨(), .nowRfc3339, now⟩ (by rw [hmore]; simp)
    obtain ⟨rows, m₂, hsql, hrun⟩ := Fallible.runs_bind_ok hrun
    obtain ⟨hexec, rfl⟩ := runs_sql_ok hsql
    obtain ⟨row, hrow⟩ := hopen.exec_acquireLease leaseUntil hclock
    rw [Moment.after_world, hrow] at hexec
    cases hexec
    obtain ⟨taken, m₃, htaken, hrun⟩ := Fallible.runs_bind_ok hrun
    obtain ⟨-, rfl⟩ := runs_ofExcept htaken
    cases hrun
    refine ⟨⟨taken, rfl⟩, _, _, rfl, ?_⟩
    simp [leaseOf, handsOut]

/-- What a recovery does with an unfinished record. -/
theorem works_of_rewrite {result : AppResult Bool} (hstatus : record.status = .generated ∨
      record.status = .committing)
    (hrun : Runs alone () (rewrite lib (runtime.coordinator lib) botId fence record).run m result
      m') : Works lib runtime botId record m m' := by
  -- the call is followed by nothing but what is made of its result
  have hcall : ∀ {ε α : Type} {p : Fallible bridgeCalls ε α} {f : ε → AppError} {k : α → Bool},
      Runs alone () (p.mapError f >>= fun a => (pure (k a) : AppTask Bool)).run m result m' →
        ∃ r, Runs alone () p.run m r m' := by
    intro ε α p f k h
    rw [Fallible.run_bind, Fallible.run_mapError] at h
    obtain ⟨r, m₁, hp, hrest⟩ := h.of_bind
    obtain ⟨r', m₂, hp, hmap⟩ := hp.of_bind
    cases hmap
    cases r' <;> cases hrest <;> exact ⟨_, hp⟩
  unfold rewrite at hrun
  rcases hstatus with hstatus | hstatus
  · rw [hstatus] at hrun
    exact .inl ⟨hstatus, fence, hcall hrun⟩
  · rw [hstatus] at hrun
    exact .inr ⟨hstatus, hcall hrun⟩

/-- An unfinished operation is attempted once its lease is handed out. -/
theorem attempted_of_recoverLeased {result : Option String}
    (hrun : Runs alone () (recoverLeased lib (runtime.coordinator lib) guard botId leaseUntil fence
      record).run m (.ok result) m') (hrecord : row.intoRecord = .ok record)
    (hunfinished : Unfinished row)
    (hopen : Takeable guard.runtimeInstanceId botId since row.id m.world.ledger)
    (hsmooth : ∀ e ∈ m'.trace, Smooth since e = true) :
    Attempted lib runtime botId row m'.trace := by
  obtain ⟨hid, hstatus⟩ := intoRecord_eq_ok hrecord
  unfold recoverLeased at hrun
  rw [hid] at hrun
  obtain ⟨lease, m₁, hacquire, hrun⟩ := Fallible.runs_bind_ok hrun
  obtain ⟨more₁, hmore₁⟩ := hrun.exists_trace
  obtain ⟨⟨taken, rfl⟩, before, e, hm₁, hlease⟩ := leaseOf_of_tryAcquire hacquire hopen
    fun e he => hsmooth e (by rw [hmore₁]; exact List.mem_append_left _ he)
  simp only at hrun
  rw [Fallible.run_attempt_bind] at hrun
  obtain ⟨outcome, m₂, hwork, hrest⟩ := hrun.of_bind
  obtain ⟨more, hmore⟩ := hrest.exists_trace
  -- the first call of the work is for the fence, and it is granted
  unfold recoverRecord at hwork
  rw [Fallible.run_bind] at hwork
  obtain ⟨checked, m₃, hfence, hwork⟩ := hwork.of_bind
  rw [Fallible.run_mapError] at hfence
  obtain ⟨reply, m₄, hask, hfence⟩ := hfence.of_bind
  obtain rfl := runs_ask hask trivial
  cases hfence
  obtain ⟨more₂, hmore₂⟩ := hwork.exists_trace
  have hgranted := hsmooth ⟨(), .assertCommitFence, reply⟩ (by rw [hmore, hmore₂]; simp)
  cases reply with
  | error refusal => cases hgranted
  | ok u =>
    refine ⟨record, before, e, _, m₂, hrecord, ?_, hlease, works_of_rewrite ?_ hwork, ?_⟩
    · rw [Moment.after_trace, hm₁, List.append_assoc]
      rfl
    · rw [hstatus]
      exact hunfinished
    · rw [hmore]
      exact List.prefix_append _ _

/-- The calls of one round hand out no lease but that of the operation. -/
theorem uses_recoverLeased (hne : record.id ≠ id) :
    (recoverLeased lib (runtime.coordinator lib) guard botId leaseUntil fence record).run.Uses
      fun c : Call => ∀ r : c.Reply, leaseOf id (⟨(), c, r⟩ : Event bridgeCalls Unit) = none := by
  have hleaseless : ∀ c, Leaseless c →
      ∀ r : c.Reply, leaseOf id (⟨(), c, r⟩ : Event bridgeCalls Unit) = none :=
        fun c hc r => hc id r
  refine uses_bind ?_ fun lease => ?_
  · unfold tryAcquireExecutionLease
    split
    · exact uses_throw _
    · refine uses_bind (uses_lift (uses_ask fun r => rfl)) fun now => ?_
      refine uses_bind (uses_sql fun r => ?_) fun row => ?_
      · cases r with
        | ok lease => exact if_neg hne
        | error e => rfl
      · cases row with
        | none => exact uses_pure _
        | some row =>
          exact uses_bind (uses_ofExcept _) fun _ => uses_pure _
  · cases lease with
    | none => exact uses_pure _
    | some lease =>
      refine uses_bind (uses_attempt ?_) fun outcome => ?_
      · refine uses_bind (uses_mapError (uses_ask fun r => rfl)) fun _ => ?_
        exact (uses_rewrite_leaseless lib runtime record botId fence).imp hleaseless
      · refine uses_bind ?_ fun _ => ?_
        · refine uses_bind ?_ fun released => ?_
          · unfold releaseExecutionLease
            split
            · exact uses_bind (uses_sql fun r => rfl) fun _ => uses_pure _
            · exact uses_throw _
          · split
            · exact uses_pure _
            · exact uses_throw _
        · split <;> exact uses_pure _

/-- The operations that wait for their turn stay takeable. -/
theorem takeable_of_recoverLeased {result : AppResult (Option String)}
    (hrun : Runs alone () (recoverLeased lib (runtime.coordinator lib) guard botId
      leaseUntil fence record).run m result m') (hne : record.id ≠ id)
    (hopen : Takeable guard.runtimeInstanceId botId since id m.world.ledger) :
    Takeable guard.runtimeInstanceId botId since id m'.world.ledger := by
  refine hrun.keeps (uses_recoverLeased hne)
    (I := fun m => Takeable guard.runtimeInstanceId botId since id m.world.ledger) ?_ hopen
  intro m c r w hc he hm
  exact hm.after he (hc r)

variable {recovered : List String}

/-- **A recovery attempts all unfinished operations that it looks at.** -/
theorem attempted_of_recoverEach
    (hrun : Runs alone () (recoverEach lib (runtime.coordinator lib) guard botId leaseUntil fence
      records).run m (.ok recovered) m') (hnodup : (records.map (·.id)).Nodup)
    (hmem : record ∈ records) (hrecord : row.intoRecord = .ok record) (hunfinished : Unfinished row)
    (hopen : Takeable guard.runtimeInstanceId botId since row.id m.world.ledger)
    (hsmooth : ∀ e ∈ m'.trace, Smooth since e = true) :
    Attempted lib runtime botId row m'.trace := by
  -- until it is its turn, the operation stays takeable
  induction records generalizing m recovered with
  | nil => cases hmem
  | cons first records ih =>
    obtain ⟨result, m₁, hfirst, hrun⟩ := Fallible.runs_bind_ok hrun
    obtain ⟨rest, m₂, hrest, hrun⟩ := Fallible.runs_bind_ok hrun
    cases hrun
    obtain ⟨hnotMem, hnodup⟩ := List.nodup_cons.mp hnodup
    rcases List.mem_cons.mp hmem with rfl | hmem
    · obtain ⟨more, hmore⟩ := hrest.exists_trace
      rw [hmore] at hsmooth ⊢
      exact (attempted_of_recoverLeased hfirst hrecord hunfinished hopen fun e he =>
        hsmooth e (List.mem_append_left _ he)).append more
    · have hne : first.id ≠ row.id := by
        intro heq
        exact hnotMem (List.mem_map.mpr ⟨record, hmem, (intoRecord_eq_ok hrecord).1.trans heq.symm⟩)
      exact ih hrest hnodup hmem (takeable_of_recoverLeased hfirst hne hopen)

/-! ## The page of a recovery -/

theorem mem_candidates :
    row ∈ candidates db botId ↔
      row ∈ db.operations.rows ∧ isRecoveryCandidate botId row = true := by
  rw [candidates, List.mem_insertionSort, List.mem_filter]

theorem mem_candidates_of_firstPage (h : row ∈ firstPage db botId) :
    row ∈ candidates db botId := List.mem_of_mem_take h

/-- No two rows of a page are of the same operation. -/
theorem nodup_ids_firstPage (db : Ledger) (botId : String) :
    ((firstPage db botId).map (·.id)).Nodup := by
  have hrows : (db.operations.rows.map (·.id)).Nodup := by
    exact List.Pairwise.map _ (fun r s hclash heq => hclash (.inl heq)) db.operations.apart
  have hfilter := ((List.filter_sublist (p := isRecoveryCandidate botId)
    (l := db.operations.rows)).map (·.id)).nodup hrows
  have hsorted : ((candidates db botId).map (·.id)).Nodup :=
    ((List.perm_insertionSort olderFirst _).map _).nodup_iff.mpr hfilter
  exact ((List.take_sublist _ _).map _).nodup hsorted

variable (hrun : Runs alone () (recoverForBot lib (runtime.coordinator lib) guard botId).run m
  (.ok recovered) m')
include hrun

/-- What a successful recovery has done: it has looked at the first page, and worked on it. -/
theorem recoverEach_of_recoverForBot :
    ∃ records leaseUntil fence m₁, m₁.world = m.world ∧
      (firstPage m.world.ledger botId).mapM OperationRow.intoRecord = .ok records ∧
      Runs alone () (recoverEach lib (runtime.coordinator lib) guard botId leaseUntil fence
        records).run m₁ (.ok recovered) m' := by
  unfold recoverForBot at hrun
  split at hrun
  · cases hrun
  · obtain ⟨lifecycle, m₁, hlifecycle, hrun⟩ := Fallible.runs_lift_bind hrun
    obtain rfl := runs_ask hlifecycle trivial
    obtain ⟨fence, m₂, hfence, hrun⟩ := Fallible.runs_bind_ok hrun
    obtain ⟨-, rfl⟩ := runs_ofExcept hfence
    obtain ⟨deadline, m₃, hdeadline, hrun⟩ := Fallible.runs_lift_bind hrun
    obtain rfl := runs_ask hdeadline trivial
    obtain ⟨leaseUntil, m₄, huntil, hrun⟩ := Fallible.runs_bind_ok hrun
    obtain ⟨-, rfl⟩ := runs_ofExcept huntil
    obtain ⟨records, m₅, hlist, hrun⟩ := Fallible.runs_bind_ok hrun
    unfold listRecoveryCandidatesForBot at hlist
    split at hlist
    · cases hlist
    · obtain ⟨rows, m₆, hrows, hlist⟩ := Fallible.runs_bind_ok hlist
      obtain ⟨hexec, rfl⟩ := runs_sql_ok hrows
      obtain ⟨hrecords, rfl⟩ := runs_ofExcept hlist
      cases hexec
      refine ⟨records, leaseUntil, fence, _, ?_, hrecords, hrun⟩
      rfl

/-- A successful recovery attempts the unfinished operations of its page. -/
theorem attempted_of_recoverForBot (hrow : row ∈ firstPage m.world.ledger botId)
    (hunfinished : Unfinished row)
    (hopen : Takeable guard.runtimeInstanceId botId since row.id m.world.ledger)
    (hsmooth : ∀ e ∈ m'.trace, Smooth since e = true) :
    Attempted lib runtime botId row m'.trace := by
  obtain ⟨records, leaseUntil, fence, m₁, hworld, hrecords, hrun⟩ :=
    recoverEach_of_recoverForBot hrun
  have hnodup : (records.map (·.id)).Nodup :=
    map_id_of_mapM hrecords ▸ nodup_ids_firstPage _ botId
  obtain ⟨record, hmem, hrecord⟩ := exists_record_of_mapM hrecords hrow
  exact attempted_of_recoverEach hrun hnodup hmem hrecord hunfinished (hworld ▸ hopen) hsmooth

end Loop

/-! ## Recoveries that change nothing -/

section Stalled

/-- Surroundings in which the database works, the runtime is running, and the fence is granted. -/
def stalled : Surroundings := fun _ c =>
  match c with
  | .currentLifecycle => .running
  | .rfc3339After _ => some "2026-01-01T00:01:00Z"
  | .assertCommitFence => .ok ()
  | c => refuse c

theorem stalled_effect (c : Call) (m : SoleMoment) :
    ∃ w, alone.effect () m c (stalled.handle c m).1 w ∧
      (stalled.handle c m).2 = m.after () c (stalled.handle c m).1 w := by
  refine ⟨_, settle_effect fun scope kind plaintext secretId hc hr => ?_, rfl⟩
  subst hc
  cases hr

/-- What happens in these surroundings is smooth. -/
theorem smooth_stalled {α : Type} (p : BridgeTask α) {m : SoleMoment}
    (hm : ∀ e ∈ m.trace, Smooth "2026-01-01T00:00:00Z" e = true) :
    ∀ e ∈ (p.interpret stalled.handle m).2.trace, Smooth "2026-01-01T00:00:00Z" e = true := by
  induction p generalizing m with
  | ret a => exact hm
  | call c k ih =>
    refine ih _ fun e he => ?_
    rcases List.mem_append.mp he with he | he
    · exact hm e he
    · rw [List.mem_singleton.mp he]
      cases c with
      | nowRfc3339 => exact (by decide :
          (!decide ("2026-01-01T00:00:00Z" < "2026-01-01T00:00:00Z")) = true)
      | _ => rfl

variable {botId : String} {m : SoleMoment}

theorem interpret_sql {s : Statement} {answer : s.Rows}
    (h : s.exec m.world.ledger = (.ok answer, db)) :
    Program.interpret stalled.handle (sql s).run m =
      (.ok answer, m.after () (.sql s) (.ok answer) { m.world with ledger := db }) := by
  show ((s.exec m.world.ledger).1.mapError _, m.after () (.sql s) (s.exec m.world.ledger).1
    { m.world with ledger := (s.exec m.world.ledger).2 }) = _
  rw [h]
  rfl

theorem botId_of_firstPage (h : row ∈ firstPage db botId) : row.botId = botId := by
  have hcandidate := (mem_candidates.mp (mem_candidates_of_firstPage h)).2
  simp only [isRecoveryCandidate, Bool.and_eq_true, beq_iff_eq] at hcandidate
  exact hcandidate.1

theorem operation?_of_firstPage (h : row ∈ firstPage db botId) : db.operation? row.id = some row :=
  (Table.find?_eq_some_iff (Ledger.pins_id row.id) db.operations).mpr
    ⟨(mem_candidates.mp (mem_candidates_of_firstPage h)).1, beq_self_eq_true _⟩

/-- A recovery that can be made, by a runtime that is running, of a page on which everything is
finished. -/
structure Ready (guard : PollerOwnershipGuard) (db : Ledger) (botId : String) : Prop where
  bot : isBlank botId = false
  runtime : isBlank guard.runtimeInstanceId = false
  scope : guard.internalBotId = botId
  fence : (guard.fenceIn .running).isSome = true
  named : ∀ row ∈ firstPage db botId, isBlank row.id = false
  readable : ∀ row ∈ firstPage db botId, row.Readable
  finished : ∀ row ∈ firstPage db botId, ¬ Unfinished row
  unleased : db.leases = .empty

variable {lib : Primitives} {runtime : Runtime} {guard : PollerOwnershipGuard}
  {fence : PollerRuntimeFence} {trace : List (Event bridgeCalls Unit)}

/-- No operation outside the page was leased. -/
def Spares (db : Ledger) (botId : String) (trace : List (Event bridgeCalls Unit)) : Prop :=
  ∀ id, (∀ row ∈ firstPage db botId, row.id ≠ id) → ∀ e ∈ trace, leaseOf id e = none

theorem Spares.concat {e : Event bridgeCalls Unit} (h : Spares db botId trace)
    (he : ∀ id, (∀ row ∈ firstPage db botId, row.id ≠ id) → leaseOf id e = none) :
    Spares db botId (trace ++ [e]) :=
  fun id hid => List.forall_mem_append.mpr ⟨h id hid, List.forall_mem_singleton.mpr (he id hid)⟩

theorem Spares.not_attempted (h : Spares db botId trace) (hrow : row ∈ candidates db botId)
    (hnot : row ∉ firstPage db botId) : ¬ Attempted lib runtime botId row trace := by
  intro hattempted
  obtain ⟨e, he, hlease⟩ := hattempted.exists_leaseOf
  rw [h row.id ?_ e he] at hlease
  · cases hlease
  · intro other hother heq
    have hsame := Table.eq_of_pins (Ledger.pins_id row.id) db.operations
      (mem_candidates.mp (mem_candidates_of_firstPage hother)).1 (mem_candidates.mp hrow).1
      (beq_iff_eq.mpr heq) (beq_self_eq_true _)
    exact hnot (hsame ▸ hother)

/-- Between two rounds: everything is as it was, and only operations of the page were leased. -/
def Rests (botId : String) (w : World) (m : SoleMoment) : Prop :=
  m.world = w ∧ Spares w.ledger botId m.trace

/-- The ledger with the lease of one operation. -/
def leased (db : Ledger) (lease : OperationLeaseRow) : Ledger :=
  { db with leases := ⟨[lease], List.pairwise_singleton _ _⟩ }

theorem exec_acquireLease_of_unleased (hrow : row ∈ firstPage db botId)
    (hleases : db.leases = .empty) (instanceId leaseUntil now : String) :
    (acquireLease row.id botId instanceId leaseUntil now).exec db =
      (.ok (some (firstLease row.id instanceId leaseUntil now)),
        leased db (firstLease row.id instanceId leaseUntil now)) := by
  have hexists : (db.operation? row.id).any (·.botId == botId) = true := by
    simp [operation?_of_firstPage hrow, botId_of_firstPage hrow]
  simp only [exec, hexists, if_true, hleases]
  rfl

theorem exec_releaseLease_leased (hleases : db.leases = .empty)
    (operationId instanceId leaseUntil now : String) :
    (Statement.releaseLease operationId instanceId 1).exec
        (leased db (firstLease operationId instanceId leaseUntil now)) =
      (.ok (1 : ℕ), db) := by
  obtain ⟨operations, keyRefs, leases⟩ := db
  obtain rfl : leases = .empty := hleases
  simp [exec, leased, firstLease, Table.affected, Table.delete, Table.empty]

/-- Nothing is done with a finished operation, once the fence is granted. -/
theorem interpret_recoverRecord (hrecord : row.intoRecord = .ok record) (h : ¬ Unfinished row)
    (m : SoleMoment) :
    Program.interpret stalled.handle
      (recoverRecord lib (runtime.coordinator lib) botId fence record).run m =
        (.ok false, m.after () .assertCommitFence (.ok ()) m.world) := by
  unfold recoverRecord rewrite
  rw [(intoRecord_eq_ok hrecord).2]
  cases hs : row.status with
  | generated => exact absurd (.inl hs) h
  | committing => exact absurd (.inr hs) h
  | _ => rfl

/-- A finished operation is leased, and its lease is given back. -/
theorem hoare_recoverLeased {w : World} (hready : Ready guard w.ledger botId)
    (hrow : row ∈ firstPage w.ledger botId) (hrecord : row.intoRecord = .ok record) :
    Hoare stalled.handle (Rests botId w)
      (recoverLeased lib (runtime.coordinator lib) guard botId "2026-01-01T00:01:00Z" fence
        record).run fun r m => r = .ok none ∧ Rests botId w m := by
  rintro m ⟨rfl, hspares⟩
  have hblank : (isBlank row.id || isBlank botId || isBlank guard.runtimeInstanceId ||
      isBlank "2026-01-01T00:01:00Z") = false := by
    rw [hready.named row hrow, hready.bot, hready.runtime]
    decide +kernel
  set lease : OperationExecutionLease :=
    ⟨row.id, guard.runtimeInstanceId, 1, "2026-01-01T00:01:00Z"⟩
  set taken := firstLease row.id guard.runtimeInstanceId "2026-01-01T00:01:00Z"
    "2026-01-01T00:00:00Z"
  set m₁ : SoleMoment := (m.after () .nowRfc3339 "2026-01-01T00:00:00Z" m.world).after ()
    (.sql (.acquireLease row.id botId guard.runtimeInstanceId "2026-01-01T00:01:00Z"
      "2026-01-01T00:00:00Z")) (.ok (some taken))
    { m.world with ledger := leased m.world.ledger taken }
  have hacquire : Program.interpret stalled.handle (tryAcquireExecutionLease row.id botId
      guard.runtimeInstanceId "2026-01-01T00:01:00Z").run m = (.ok (some lease), m₁) := by
    unfold tryAcquireExecutionLease
    rw [hblank, if_neg (by simp), run_lift_bind, Program.interpret_bind]
    have hsql := interpret_sql (m := m.after () .nowRfc3339 "2026-01-01T00:00:00Z" m.world)
      (exec_acquireLease_of_unleased hrow hready.unleased guard.runtimeInstanceId
        "2026-01-01T00:01:00Z" "2026-01-01T00:00:00Z")
    exact (Fallible.interpret_bind_ok _ hsql).trans rfl
  unfold recoverLeased
  rw [(intoRecord_eq_ok hrecord).1, Fallible.interpret_bind_ok _ hacquire]
  dsimp only
  rw [Fallible.run_attempt_bind, Program.interpret_bind,
    interpret_recoverRecord hrecord (hready.finished row hrow)]
  set m₂ := m₁.after () .assertCommitFence (.ok ()) m₁.world
  have hrelease : Program.interpret stalled.handle (releaseExecutionLease lease).run m₂ =
      (.ok true, m₂.after () (.sql (.releaseLease row.id guard.runtimeInstanceId 1))
        (.ok (1 : ℕ)) m.world) := by
    unfold releaseExecutionLease
    rw [if_pos (show 1 < 2 ^ 63 by decide)]
    have hsql := interpret_sql (m := m₂) (exec_releaseLease_leased hready.unleased row.id
      guard.runtimeInstanceId "2026-01-01T00:01:00Z" "2026-01-01T00:00:00Z")
    exact (Fallible.interpret_bind_ok _ hsql).trans rfl
  dsimp only
  rw [Fallible.interpret_bind_ok _ (show Program.interpret stalled.handle
    (releaseLease lease).run m₂ = (.ok (), _) from Fallible.interpret_bind_ok _ hrelease)]
  -- the calls were for the time, the lease of the operation, the fence and the lease again
  refine ⟨rfl, rfl, Spares.concat (Spares.concat (Spares.concat (hspares.concat ?_) ?_) ?_) ?_⟩
  · exact fun _ _ => rfl
  · exact fun id hid => if_neg (hid row hrow)
  · exact fun _ _ => rfl
  · exact fun _ _ => rfl

theorem hoare_recoverEach {w : World} (hready : Ready guard w.ledger botId)
    (hrows : ∀ row ∈ rows, row ∈ firstPage w.ledger botId)
    (hrecords : rows.mapM OperationRow.intoRecord = .ok records) :
    Hoare stalled.handle (Rests botId w)
      (recoverEach lib (runtime.coordinator lib) guard botId "2026-01-01T00:01:00Z" fence
        records).run fun r m => r = .ok [] ∧ Rests botId w m := by
  have hforall := forall₂_of_mapM hrecords
  clear hrecords
  induction hforall with
  | nil => exact fun m hm => ⟨rfl, hm⟩
  | @cons row record rows records hrecord _ ih =>
    refine Hoare.tryBind (M := fun recovered m => recovered = none ∧ Rests botId w m) ?_ ?_
    · refine (hoare_recoverLeased hready (hrows row List.mem_cons_self) hrecord).mono
        fun r m h => ?_
      obtain ⟨rfl, hm⟩ := h
      exact ⟨rfl, hm⟩
    · rintro recovered
      refine Hoare.tryBind (M := fun rest m => recovered = none ∧ rest = [] ∧ Rests botId w m) ?_ ?_
      · rintro m ⟨rfl, hm⟩
        obtain ⟨hok, hsame⟩ := ih (fun r hr => hrows r (List.mem_cons_of_mem _ hr)) m hm
        rw [hok]
        exact ⟨rfl, rfl, hsame⟩
      · rintro rest m ⟨rfl, rfl, hm⟩
        exact ⟨rfl, hm⟩

theorem exists_mapM_of_readable (h : ∀ row ∈ rows, row.Readable) :
    ∃ records, rows.mapM OperationRow.intoRecord = .ok records := by
  induction rows with
  | nil => exact ⟨[], rfl⟩
  | cons row rows ih =>
    obtain ⟨record, hrecord⟩ := h row List.mem_cons_self
    obtain ⟨records, hrecords⟩ := ih fun r hr => h r (List.mem_cons_of_mem _ hr)
    exact ⟨record :: records, by rw [List.mapM_cons, hrecord, hrecords]; rfl⟩

/-- **A recovery of nothing succeeds, and leaves everything as it was.** -/
theorem hoare_recoverForBot (lib : Primitives) (runtime : Runtime) {w : World}
    (hready : Ready guard w.ledger botId) :
    Hoare stalled.handle (Rests botId w)
      (recoverForBot lib (runtime.coordinator lib) guard botId).run
      fun r m => r = .ok [] ∧ Rests botId w m := by
  rintro m ⟨rfl, hspares⟩
  obtain ⟨fence, hfence⟩ := Option.isSome_iff_exists.mp hready.fence
  obtain ⟨records, hrecords⟩ := exists_mapM_of_readable hready.readable
  have hscope : (isBlank botId || decide (guard.internalBotId ≠ botId)) = false := by
    simp [hready.bot, hready.scope]
  set m₁ : SoleMoment := (m.after () .currentLifecycle .running m.world).after ()
    (.rfc3339After 60) (some "2026-01-01T00:01:00Z") m.world
  set m₂ : SoleMoment := m₁.after () (.sql (.selectRecoveryCandidates botId
    (max 1 (min recoveryLimit 256)))) (.ok (firstPage m.world.ledger botId)) m.world
  have hlist : Program.interpret stalled.handle
      (listRecoveryCandidatesForBot botId recoveryLimit).run m₁ = (.ok records, m₂) := by
    unfold listRecoveryCandidatesForBot
    rw [hready.bot, if_neg (by simp), Fallible.interpret_bind_ok _ (interpret_sql rfl)]
    show Program.interpret _ (Program.ret ((firstPage m.world.ledger botId).mapM
      OperationRow.intoRecord)) m₂ = _
    rw [hrecords]
    rfl
  have hrun : Program.interpret stalled.handle
      (recoverForBot lib (runtime.coordinator lib) guard botId).run m =
        Program.interpret stalled.handle
          (recoverEach lib (runtime.coordinator lib) guard botId "2026-01-01T00:01:00Z" fence
            records).run m₂ := by
    unfold recoverForBot
    rw [hscope, if_neg (by simp), run_lift_bind, Program.interpret_bind]
    show Program.interpret _ (Fallible.ofExcept (requireFence guard .running) >>= _ : AppTask _).run
      _ = _
    rw [requireFence, hfence]
    show Program.interpret _ (listRecoveryCandidatesForBot botId recoveryLimit >>= _ :
      AppTask _).run
      m₁ = _
    exact Fallible.interpret_bind_ok _ hlist
  rw [hrun]
  refine hoare_recoverEach hready (fun _ h => h) hrecords m₂ ⟨rfl, ?_⟩
  exact ((hspares.concat fun _ _ => rfl).concat fun _ _ => rfl).concat fun _ _ => rfl

/-- Any number of smooth recoveries can go by in which no operation outside the page is leased. -/
theorem exists_recoveries (lib : Primitives) (runtime : Runtime) {w : World}
    (hready : Ready guard w.ledger botId) (k : ℕ) (hm : Rests botId w m)
    (hsmooth : ∀ e ∈ m.trace, Smooth "2026-01-01T00:00:00Z" e = true) :
    ∃ m', Recoveries lib runtime guard botId k m m' ∧ Rests botId w m' ∧
      ∀ e ∈ m'.trace, Smooth "2026-01-01T00:00:00Z" e = true := by
  induction k generalizing m with
  | zero => exact ⟨m, .zero _, hm, hsmooth⟩
  | succ k ih =>
    have hrun := runs_interpret stalled_effect
      (recoverForBot lib (runtime.coordinator lib) guard botId).run m
    obtain ⟨hok, hrests⟩ := hoare_recoverForBot lib runtime hready m hm
    rw [hok] at hrun
    obtain ⟨m', hrest, h⟩ := ih hrests (smooth_stalled _ hsmooth)
    exact ⟨m', .succ k _ _ m' [] hrun hrest, h⟩

theorem rests_start (botId : String) (w : World) : Rests botId w ⟨w, []⟩ :=
  ⟨rfl, fun _ _ _ h => absurd h List.not_mem_nil⟩

end Stalled

/-! ## What recovery reaches -/

section Reach

variable (lib : Primitives) (runtime : Runtime) (guard : PollerOwnershipGuard) (botId : String)

theorem Recoveries.exists_trace {k : ℕ} {m m' : SoleMoment}
    (h : Recoveries lib runtime guard botId k m m') : ∃ more, m'.trace = m.trace ++ more := by
  induction h with
  | zero m => exact ⟨[], (List.append_nil _).symm⟩
  | succ k m m₁ m' recovered hrun _ ih =>
    obtain ⟨more, hmore⟩ := hrun.exists_trace
    obtain ⟨rest, hrest⟩ := ih
    exact ⟨more ++ rest, by rw [hrest, hmore, List.append_assoc]⟩

end Reach

/-! ## An operation that is not reached -/

/-- A last element that comes after all others stays the last one. -/
theorem insertionSort_concat {α : Type} (r : α → α → Prop) [DecidableRel r] {as : List α} {b : α}
    (h : ∀ a ∈ as, r a b) : (as ++ [b]).insertionSort r = as.insertionSort r ++ [b] := by
  have hinsert : ∀ a, r a b → ∀ bs : List α,
      (bs ++ [b]).orderedInsert r a = bs.orderedInsert r a ++ [b] := by
    intro a hab bs
    induction bs with
    | nil => simp [hab]
    | cons c bs ih =>
      rw [List.cons_append, List.orderedInsert, List.orderedInsert, ih]
      split <;> rfl
  induction as with
  | nil => rfl
  | cons a as ih =>
    rw [List.cons_append, List.insertionSort_cons, ih fun c hc => h c (List.mem_cons_of_mem _ hc),
      hinsert a (h a List.mem_cons_self), List.insertionSort_cons]

section Starved

/-- An operation that was committed, and not yet delivered. -/
def keptRow (i : ℕ) : OperationRow :=
  { recoveredRequest.row ("op-" ++ toString i) "2026-01-01T00:00:00Z" with
    telegramUpdateId := i, status := .committed, commitState := .applied }

/-- An operation that waits to be written, changed later than those. -/
def waitingRow : OperationRow :=
  { recoveredRequest.row "waiting" "2026-01-02T00:00:00Z" with
    telegramUpdateId := -1, status := .generated }

theorem keptRow_apart {i j : ℕ} (h : i ≠ j) : ¬ (keptRow i).Clash (keptRow j) := by
  rintro (hid | ⟨-, hupdate, -⟩)
  · have hid' : "op-" ++ toString i = "op-" ++ toString j := hid
    rw [String.append_right_inj] at hid'
    exact h (Encoding.toString_injective hid')
  · exact h (Int.ofNat.inj hupdate)

theorem keptRow_waitingRow_apart (i : ℕ) : ¬ (keptRow i).Clash waitingRow := by
  rintro (hid | ⟨-, hupdate, -⟩)
  · have hid' : "op-" ++ toString i = "waiting" := hid
    have hhead := congrArg (fun s => s.toList.head?) hid'
    simp at hhead
  · have hupdate' : (i : ℤ) = -1 := hupdate
    omega

/-- The tables with 128 operations that were committed, and one that waits. -/
def starvedLedger : Ledger where
  operations :=
    { rows := (List.range 128).map keptRow ++ [waitingRow]
      apart := by
        refine List.pairwise_append.mpr ⟨?_, List.pairwise_singleton _ _, ?_⟩
        · exact List.Pairwise.map _ (fun i j h => keptRow_apart h) List.nodup_range
        · intro r hr s hs
          obtain ⟨i, -, rfl⟩ := List.mem_map.mp hr
          rw [List.mem_singleton.mp hs]
          exact keptRow_waitingRow_apart i }
  keyRefs := .empty
  leases := .empty

def recoveringGuard : PollerOwnershipGuard := ⟨7, .rustBridge, 2, "bot", "runtime"⟩

theorem isCandidate_keptRow (i : ℕ) : isRecoveryCandidate "bot" (keptRow i) = true := rfl

theorem isCandidate_waitingRow : isRecoveryCandidate "bot" waitingRow = true := rfl

theorem filter_starved : starvedLedger.operations.rows.filter (isRecoveryCandidate "bot") =
    (List.range 128).map keptRow ++ [waitingRow] := by
  refine List.filter_eq_self.mpr (List.forall_mem_append.mpr ⟨fun r hr => ?_, ?_⟩)
  · obtain ⟨i, -, rfl⟩ := List.mem_map.mp hr
    exact isCandidate_keptRow i
  · exact List.forall_mem_singleton.mpr isCandidate_waitingRow

theorem candidates_starved : candidates starvedLedger "bot" =
    ((List.range 128).map keptRow).insertionSort olderFirst ++ [waitingRow] := by
  rw [candidates, filter_starved]
  refine insertionSort_concat olderFirst fun r hr => ?_
  obtain ⟨i, -, rfl⟩ := List.mem_map.mp hr
  exact .inl (by decide : "2026-01-01T00:00:00Z" < "2026-01-02T00:00:00Z")

theorem mem_firstPage_starved (h : row ∈ firstPage starvedLedger "bot") : ∃ i, row = keptRow i := by
  rw [firstPage, candidates_starved, List.take_left' (by simp [recoveryLimit]),
    List.mem_insertionSort] at h
  obtain ⟨i, -, rfl⟩ := List.mem_map.mp h
  exact ⟨i, rfl⟩

theorem waitingRow_notMem : waitingRow ∉ firstPage starvedLedger "bot" := by
  intro h
  obtain ⟨i, hi⟩ := mem_firstPage_starved h
  cases congrArg OperationRow.status hi

theorem isBlank_keptRow (i : ℕ) : isBlank (keptRow i).id = false := by
  show ("op-" ++ toString i).toList.all isWhitespace = false
  rw [String.toList_append]
  rfl

theorem ready_starved : Ready recoveringGuard starvedLedger "bot" where
  bot := by decide
  runtime := by decide
  scope := rfl
  fence := by decide
  named row hrow := by
    obtain ⟨i, rfl⟩ := mem_firstPage_starved hrow
    exact isBlank_keptRow i
  readable row hrow := by
    obtain ⟨i, rfl⟩ := mem_firstPage_starved hrow
    exact ⟨_, rfl⟩
  finished row hrow := by
    obtain ⟨i, rfl⟩ := mem_firstPage_starved hrow
    exact nofun
  unleased := rfl

/-- A runtime that takes the keys of operations from the vault. -/
def recoveringRuntime : Runtime := ⟨Sample.backend, none, some (.withKeyVersion 1)⟩

/-- The lease of another instance, which has expired. -/
def expiredLease : OperationLeaseRow :=
  ⟨"waiting", "other", 3, "2025-12-31T00:00:00Z", "2025-12-30T23:59:00Z", "2025-12-30T23:59:00Z"⟩

/-- The tables with the operation that waits alone, under this lease. -/
def waitingLedger : Ledger where
  operations := { rows := [waitingRow], apart := List.pairwise_singleton _ _ }
  keyRefs := .empty
  leases := { rows := [expiredLease], apart := List.pairwise_singleton _ _ }

theorem candidates_waiting : candidates waitingLedger "bot" = [waitingRow] := rfl

end Starved

end OperationRecovery

end ImBridge
