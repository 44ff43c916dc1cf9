import ImBridge.Bridge.Classification

/-!
# What a live call tells its caller

A live `commit` or `create` returns a result or an error with a commit state. With a Connector and a
journal that tell the truth, a result means that the row records it. An error that says that nothing
was started or applied can be relied on if the call found its row generated, or ended, when it tried
to win it.

It cannot be relied on otherwise: a live call whose row was won by recovery returns the same error
as one whose operation never began, while recovery goes on to apply the write.

## Main definitions

* `HonestJournal`, `Undisturbed`, `PromptStep`: the runs in which errors can be relied on
* `OperationCall.liveResult`: the result of a live call

## Main results

* `honest_result`: what a live call returns is true then and later
* `lost_race_not_started`: a live call that lost its row to recovery reports an applied write as not
  started
-/

namespace ImBridge

open Interleaving OperationCall

/-- The journal of the Connector claims an application only of a mutation that was applied. -/
def HonestJournal (m : BridgeMoment) : (c : Call) → c.Reply → Prop
  | .journalLookup _, .ok (some journal) =>
    journal.status = .applied → m.world.connector journal.operationId = .applied
  | _, _ => True

/-- A live call that tries to win its row finds it generated, and does not meet a fault of the
storage; or it finds the operation ended. -/
def Undisturbed (a : Agent) (m : BridgeMoment) : (c : Call) → c.Reply → Prop
  | .sql (.updateOperation .committing id _), r => a.2.IsLive = true → m.world.Dead id ∨
      ∃ row, m.world.ledger.operation? id = some row ∧ row.status = .generated ∧ r ≠ .error .other
  | _, _ => True

/-- The steps of runs in which the Connector and its journal tell the truth, and live calls are
undisturbed. -/
def PromptStep (lib : Primitives) : StepCondition := fun a m c r w =>
  CandidStep lib a m c r w ∧ HonestJournal m c r ∧ Undisturbed a m c r

theorem candid_promptStep (lib : Primitives) : Candid lib (PromptStep lib) where
  legit _ _ _ _ _ h := h.1.1
  early _ _ _ _ _ h := h.1.2.2
  answer _ _ _ _ _ id h := h.1.2.1 id

theorem prompt_promptStep (lib : Primitives) : Prompt (PromptStep lib) where
  journal _ _ _ _ _ h := h.2.1
  live _ _ _ _ _ _ hlive h := h.2.2 hlive

variable {j : OperationCall} {m : BridgeMoment}

namespace OperationCall

/-- The operation and the result of a live call. -/
def liveResult : (j : OperationCall) → j.Out → Option (String × StResult StCommitResult)
  | commit _ operationId .., r => some (operationId, r)
  | create _ command, r => some (command.operationId, r)
  | _, _ => none

theorem reported_of_liveResult {lib : Primitives} {cond : StepCondition} {i : ℕ} {a : j.Out}
    {id : String} {r : StResult StCommitResult} (h : j.post lib cond i a m)
    (hlive : j.liveResult a = some (id, r)) :
    Reported lib cond (i, j) id r m ∧ j.IsLive = true := by
  cases j with
  | commit runtime operationId locator sha integrity mutation fence | create runtime command =>
    cases hlive
    exact ⟨h, rfl⟩
  | _ => cases hlive

end OperationCall

/-- **What a live call returns is true, then and later**, in every interleaving with recovery in
which the Connector and its journal tell the truth and live calls are undisturbed. -/
theorem honest_result {lib : Primitives} {w : World}
    {P : Pool bridgeCalls World Out} (hledger : w.ledger.Consistent)
    (hidle : ∀ id, w.connector id = .idle)
    (h : Pool.Reachable ((bridgeSemantics Agent).restrict (PromptStep lib)) (body lib)
      w P) {i : ℕ} {j : OperationCall} {a : j.Out} (hreturned : P.Returned i j a) {id : String}
    {r : StResult StCommitResult} (hlive : j.liveResult a = some (id, r)) :
    (∀ result, r = .ok result → ∃ row, P.moment.world.ledger.operation? id = some row ∧
      (row.status = .committed ∨ row.status = .delivered) ∧ row.commitState = .applied ∧
      row.connectorResultJson = lib.encodeResult result) ∧
    (∀ error, r = .error error →
      error.commitState = .notStarted ∨ error.commitState = .notApplied →
      ∀ Q, Relation.ReflTransGen (Pool.Step ((bridgeSemantics Agent).restrict (PromptStep lib))
        (body lib)) P Q →
        ∀ row, Q.moment.world.ledger.operation? id = some row → row.commitState ≠ .applied) := by
  have hstart : (writeDiscipline lib (PromptStep lib)).inv ⟨w, []⟩ :=
    writeDiscipline_start w fun _ => ⟨hledger, hidle⟩
  have hcandid := candid_promptStep lib
  refine ⟨?_, ?_⟩
  · rintro result rfl
    have hpost := (Discipline.sound (fun j i => operation_verified j i) hstart h).returned hreturned
    obtain ⟨⟨json, hjson, row, hrow, hstatus, hstate, hresult⟩, -⟩ :=
      reported_of_liveResult hpost hlive
    exact ⟨row, hrow, hstatus, hstate, hresult.trans hjson.symm⟩
  · rintro error rfl herror Q hQ row hrow
    -- the task has also returned in the later pool, where its postcondition holds as well
    have hverified := Discipline.sound (fun j i => operation_verified j i) hstart (h.trans hQ)
    have hpost := hverified.returned (hreturned.steps hQ)
    obtain ⟨hreported, hislive⟩ := reported_of_liveResult hpost hlive
    rcases hreported hcandid (prompt_promptStep lib) hislive herror with hdead | ⟨-, -, hnot⟩
    · obtain ⟨row', hrow', hstatus⟩ := hdead
      obtain rfl : row' = row := Option.some.inj (hrow'.symm.trans hrow)
      intro happlied
      have hconsistent := (hverified.inv.2 hcandid).consistent.row hrow
      rcases hconsistent.applied_iff.mp happlied with hs | hs <;> simp [hs] at hstatus
    · exact hnot row hrow

/-- A row that is to be won is generated. -/
def findsGenerated (w : World) : Call → Bool
  | .sql (.updateOperation .committing id _) =>
    (w.ledger.operation? id).any (·.status == .generated)
  | _ => true

/-- No replay runs, and every row that is to be won is generated. -/
def isPromptCall (j : OperationCall) (c : Call) (w : World) : Bool :=
  j.isPlain && findsGenerated w c

theorem wholeBody_readyAnswer :
    readyAnswer.wholeBody = some (utf8 (readyBody "applied").text) := by decide +kernel

/-- Such a Connector states that it has applied what it is sent. -/
theorem honestAnswer_serve {lib : Primitives}
    (hlib : lib.parseJson (utf8 (readyBody "applied").text) = some (readyBody "applied"))
    (w : World) (c : Call) : HonestAnswer (HttpResponse.SaysNotApplied lib) c
      (serve (answering readyAnswer) c w).1
      (serve (answering readyAnswer) c w).2 := by
  cases c with
  | http request =>
    intro id hid hsays
    rw [answering_of_mutates hid] at hsays
    obtain ⟨bytes, hbytes, hsays⟩ := hsays
    obtain rfl := Option.some.inj (wholeBody_readyAnswer.symm.trans hbytes)
    rw [if_pos (by decide)] at hsays
    obtain ⟨v, s, hv, hs, hnegative⟩ := hsays
    rw [hlib] at hv
    cases hv
    have hstated : statedStatus (readyBody "applied") = some "applied" := by decide +kernel
    rw [hstated] at hs
    cases hs
    simp at hnegative
  | _ => trivial

/-- And its journal is not to be had. -/
theorem honestJournal_serve (m : BridgeMoment) (c : Call) :
    HonestJournal m c (serve (answering readyAnswer) c m.world).1 := by
  cases c <;> trivial

theorem undisturbed_serve {a : Agent} {c : Call} (h : findsGenerated m.world c = true) :
    Undisturbed a m c (serve (answering readyAnswer) c m.world).1 := by
  cases c with
  | sql s =>
    cases s with
    | updateOperation u id now =>
      cases u with
      | committing =>
        intro _
        obtain ⟨row, hrow, hs⟩ := (Option.any_eq_true _ _).mp h
        refine .inr ⟨row, hrow, by simpa using hs, ?_⟩
        exact fun hfault => by cases hfault
      | _ => trivial
    | _ => trivial
  | _ => trivial

theorem promptStep_serve {i : ℕ} {c : Call} (h : isPromptCall j c m.world = true) :
    ((bridgeSemantics Agent).restrict (PromptStep readyLibrary)).effect (i, j) m
      c (serve (answering readyAnswer) c m.world).1
      (serve (answering readyAnswer) c m.world).2 := by
  rw [isPromptCall, Bool.and_eq_true] at h
  exact ⟨serve_effect _ m.world c,
    ⟨legit_of_isPlain h.1, honestAnswer_serve (parseJson_reading _ []) m.world c,
      earlyFailure_of_isPlain h.1 m c⟩,
    honestJournal_serve m c, undisturbed_serve h.2⟩

/-- A live call that is undisturbed returns the result that its row records. -/
theorem honest_result_applied : ∃ (P : Pool bridgeCalls World Out) (result : StCommitResult),
    Pool.Reachable ((bridgeSemantics Agent).restrict (PromptStep readyLibrary))
      (body readyLibrary) World.start P ∧
    P.Returned 4 (Sample.commit ⟨Sample.backend, none, none⟩) (.ok result) ∧
    ∃ row, P.moment.world.ledger.operation? "op-1" = some row ∧
      (row.status = .committed ∨ row.status = .delivered) ∧ row.commitState = .applied ∧
      row.connectorResultJson = some "result" := by
  obtain ⟨P, hP, -, -, hreturned⟩ := Pool.exists_reachable_runs_of_check _
    (body readyLibrary) (serve (answering readyAnswer))
    isPromptCall (fun i j m c h => promptStep_serve h) World.start
    (Sample.prepare ++ [Sample.commit ⟨Sample.backend, none, none⟩]) (by decide +kernel)
  have hcommit := hreturned 4 (Sample.commit ⟨Sample.backend, none, none⟩)
    (.ok ⟨.applied, some "0123456789abcdef0123456789abcdef0123456789abcdef0123456789abcdef",
      some "integrity", some 1, some 1⟩) rfl (by decide +kernel)
  refine ⟨P, _, hP, hcommit, ?_⟩
  exact (honest_result (fun r hr => absurd hr List.not_mem_nil) (fun _ => rfl) hP hcommit
    rfl).1 _ rfl

/-! ## The lost race -/

/-- Libraries for examples, in which every payload is that of the sample operation. -/
def recoveryLibrary : Primitives :=
  { readyLibrary with
    decodePayload := fun _ => some (.undo Sample.mutation "sha" "integrity" Sample.fence) }

/-- A runtime that keeps one key for all payloads. -/
def recoveryRuntime : Runtime :=
  ⟨Sample.backend, some ⟨zeroDek, 1, none⟩, none⟩

/-- Recovery replays the sample operation. -/
def replaySample : OperationCall :=
  .replayGenerated recoveryRuntime Sample.record "bot" Sample.fence

/-- The record that recovery replays is the one that the ledger holds. -/
example : ((Pool.runInTurn (body recoveryLibrary)
    (serve (answering readyAnswer)) World.start Sample.prepare).ledger.operation?
      "op-1").map OperationRow.intoRecord = some (.ok Sample.record) := by decide +kernel

/-- In this library no payload is that of a created chat. -/
theorem legit_recoveryLibrary (runtime : Runtime) (record : BridgeOperationRecord)
    (internalBotId : String) (fence : PollerRuntimeFence) :
    (replayGenerated runtime record internalBotId fence).Legit recoveryLibrary := by
  intro encryptor command hopen
  obtain ⟨plaintext, hdecoded⟩ :=
    OperationCoordinator.decodePayload_of_openRecoveryPayload recoveryLibrary hopen
  cases hdecoded

/-- The calls that the example makes are legitimate. -/
def isSampleCall : OperationCall → Bool
  | .replayGenerated .. => true
  | j => j.isPlain

theorem legit_of_isSampleCall (h : isSampleCall j = true) :
    j.Legit recoveryLibrary := by
  cases j with
  | replayGenerated runtime record internalBotId fence =>
    exact legit_recoveryLibrary runtime record internalBotId fence
  | _ => exact legit_of_isPlain h

theorem earlyFailure_of_isSampleCall {i : ℕ} (h : isSampleCall j = true) (m : BridgeMoment)
    (c : Call) : EarlyFailure (i, j) m c := by
  intro u id now _ hsettles
  cases j with
  | settleGenerationFailure operationId error => cases h
  | _ => cases hsettles

/-- **A write that recovery applied is reported as not started** by the live call that lost its row:
the Connector and its journal tell the truth, recovery replays the generated row, and the live call
finds it committed. -/
theorem lost_race_not_started : ∃ (P : Pool bridgeCalls World Out) (error : StBridgeError),
    Pool.Reachable ((bridgeSemantics Agent).restrict fun a m c r w =>
        CandidStep recoveryLibrary a m c r w ∧ HonestJournal m c r)
      (body recoveryLibrary) World.start P ∧
    P.tasks.map (·.1) = Sample.prepare ++ [replaySample, Sample.commit recoveryRuntime] ∧
    P.Returned 5 (Sample.commit recoveryRuntime) (.error error) ∧ error.commitState = .notStarted ∧
    P.moment.world.connector "op-1" = .applied ∧
    ∃ row, P.moment.world.ledger.operation? "op-1" = some row ∧ row.status = .committed ∧
      row.commitState = .applied := by
  have hhonest : ∀ i j (m : BridgeMoment) (c : Call), isSampleCall j = true →
      ((bridgeSemantics Agent).restrict fun a m c r w =>
        CandidStep recoveryLibrary a m c r w ∧ HonestJournal m c r).effect (i, j) m c
        (serve (answering readyAnswer) c m.world).1
        (serve (answering readyAnswer) c m.world).2 := fun i j m c hj =>
    ⟨serve_effect _ m.world c, ⟨legit_of_isSampleCall hj,
      honestAnswer_serve (parseJson_reading _ []) m.world c, earlyFailure_of_isSampleCall hj m c⟩,
      honestJournal_serve m c⟩
  obtain ⟨P, hP, htasks, hw, hreturned⟩ := Pool.exists_reachable_runs_of_check _
    (body recoveryLibrary) (serve (answering readyAnswer))
    (fun j _ _ => isSampleCall j) hhonest World.start
    (Sample.prepare ++ [replaySample, Sample.commit recoveryRuntime]) (by decide +kernel)
  have hcommit := hreturned 5 (Sample.commit recoveryRuntime)
    (.error (bridgeErrorFromApp "op-1" (.conflict "BRIDGE_OPERATION_CAS_CONFLICT"
      "operation op-1 rejected transition generated -> committing"))) rfl (by decide +kernel)
  refine ⟨P, _, hP, htasks, hcommit, rfl, by rw [hw]; decide +kernel, ?_⟩
  obtain ⟨row, hrow, hsettled⟩ := (Option.any_eq_true
    (fun r : OperationRow => r.status == .committed && r.commitState == .applied)
    (P.moment.world.ledger.operation? "op-1")).mp (by rw [hw]; decide +kernel)
  simp only [Bool.and_eq_true, beq_iff_eq] at hsettled
  exact ⟨row, hrow, hsettled⟩

end ImBridge
