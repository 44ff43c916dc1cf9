import ImBridge.Bridge.WriteSpecs

/-!
# Sound classification of outcomes

The verdict on a write is made from an answer of the Connector, and from what happens to the
connection. If the Connector says that a mutation was not applied only when it was not, a mutation
that it did apply is never recorded as failed, whatever else happens.

What counts as saying so is the point. The bridge reads the commit state of an `error` object only
if it knows the error's code. An answer that announces its commit state beside an unknown code is
classified by its status alone.

## Main definitions

* `HonestAnswer`, `CandidStep`: runs in which the Connector says so only truly
* `HttpResponse.announcesNotApplied`: what an answer announces, whether or not its code is known

## Main results

* `applied_never_failed`: an applied mutation is not recorded as failed
* `unknown_code_failed`: unless it is announced beside an unknown code
* `rejected_claim_unwritten`: a claim is rejected only if nothing was written
-/

namespace ImBridge

open Interleaving OperationCall

/-- A negative answer is given only to a mutation that is not applied and not on its way. -/
def HonestAnswer (negative : HttpResponse → Prop) : (c : Call) → c.Reply → World → Prop
  | .http request, .ok response, w =>
    ∀ id, request.mutates = some id → negative response → w.Clear id
  | _, _, _ => True

/-- The steps of runs in which the Connector says that a mutation was not applied only if it was
not, rows are moved through their writes by the coordinator only, and a failed generation is settled
before its write. -/
def CandidStep (lib : Primitives) : StepCondition := fun a m c r w =>
  a.2.Legit lib ∧ HonestAnswer (HttpResponse.SaysNotApplied lib) c r w ∧ EarlyFailure a m c

theorem candid_candidStep (lib : Primitives) : Candid lib (CandidStep lib) where
  legit _ _ _ _ _ h := h.1
  early _ _ _ _ _ h := h.2.2
  answer _ _ _ _ _ id h := h.2.1 id

/-- **An applied mutation is never recorded as failed or not applied**: in every interleaving, its
row waits for the outcome or records it as applied. -/
theorem applied_never_failed {lib : Primitives} {w : World}
    {P : Pool bridgeCalls World Out} (hledger : w.ledger.Consistent)
    (hidle : ∀ id, w.connector id = .idle)
    (h : Pool.Reachable ((bridgeSemantics Agent).restrict (CandidStep lib)) (body lib)
      w P) {id : String} (happlied : P.moment.world.connector id = .applied) :
    ∃ r, P.moment.world.ledger.operation? id = some r ∧
      ((r.status = .committing ∧ r.commitState ≠ .notApplied) ∨
        ((r.status = .committed ∨ r.status = .delivered) ∧ r.commitState = .applied)) := by
  have hstart : (writeDiscipline lib (CandidStep lib)).inv ⟨w, []⟩ :=
    writeDiscipline_start w fun _ => ⟨hledger, hidle⟩
  have htruthful : Truthful lib P.moment :=
    (Discipline.sound (fun j i => operation_verified j i) hstart h).inv.2 (candid_candidStep lib)
  obtain ⟨r, hr, hsettled⟩ := htruthful.settled id (.inr happlied)
  refine ⟨r, hr, ?_⟩
  rcases hsettled with hcommitting | hrecorded
  · refine .inl ⟨hcommitting, fun hstate => ?_⟩
    -- only a failed or conflicting row is known not to be applied
    have hended := (htruthful.consistent.row hr).not_applied hstate
    rw [hcommitting] at hended
    simp at hended
  · exact .inr hrecorded

/-- The calls that may run in a candid run whatever they find: no replay, whose payload would be
looked at, and no failed generation, whose row would be. -/
def OperationCall.isPlain : OperationCall → Bool
  | commit .. | create .. | reconcileCommit .. => true
  | replayGenerated .. | settleGenerationFailure .. => false
  | store call => call.IsEarly

theorem OperationCall.legit_of_isPlain {lib : Primitives} {j : OperationCall}
    (h : j.isPlain = true) : j.Legit lib := by
  cases j with
  | store call => exact h
  | replayGenerated runtime record internalBotId fence => cases h
  | _ => trivial

theorem earlyFailure_of_isPlain {i : ℕ} {j : OperationCall} (h : j.isPlain = true)
    (m : BridgeMoment) (c : Call) : EarlyFailure (i, j) m c := by
  intro u id now _ hsettles
  cases j with
  | settleGenerationFailure operationId error => cases h
  | _ => cases hsettles

/-- A server error after the mutation was applied leaves the row waiting. -/
theorem applied_never_failed_unanswered : ∃ P : Pool bridgeCalls World Out,
    Pool.Reachable ((bridgeSemantics Agent).restrict (CandidStep readyLibrary))
      (body readyLibrary) World.start P ∧
    P.moment.world.connector "op-1" = .applied ∧
    ∃ r, P.moment.world.ledger.operation? "op-1" = some r ∧
      ((r.status = .committing ∧ r.commitState ≠ .notApplied) ∨
        ((r.status = .committed ∨ r.status = .delivered) ∧ r.commitState = .applied)) := by
  have hcandid : ∀ i j (m : BridgeMoment) (c : Call), isPlain j = true →
      ((bridgeSemantics Agent).restrict (CandidStep readyLibrary)).effect (i, j)
        m c (serve (answering ⟨500, none, none, []⟩) c m.world).1
        (serve (answering ⟨500, none, none, []⟩) c m.world).2 := by
    intro i j m c hj
    refine ⟨serve_effect _ m.world c, legit_of_isPlain hj, ?_, earlyFailure_of_isPlain hj m c⟩
    cases c with
    | http request =>
      -- a server error without a body says nothing
      intro id hid hsays
      rw [answering_of_mutates hid] at hsays
      obtain ⟨bytes, hbytes, hsays⟩ := hsays
      cases hbytes
      rw [if_neg (by decide)] at hsays
      rcases hsays with hstated | ⟨hclient, -⟩
      · exact absurd hstated (by decide +kernel)
      · cases hclient
    | _ => trivial
  obtain ⟨P, hP, -, hw, -⟩ := Pool.exists_reachable_runs_of_check _
    (body readyLibrary) (serve (answering ⟨500, none, none, []⟩))
    (fun j _ _ => j.isPlain) hcandid World.start
    (Sample.prepare ++ [Sample.commit ⟨Sample.backend, none, none⟩]) (by decide +kernel)
  have happlied : P.moment.world.connector "op-1" = .applied := by
    rw [hw]
    decide +kernel
  refine ⟨P, hP, happlied, applied_never_failed ?_ (fun _ => rfl) hP happlied⟩
  exact fun r hr => absurd hr List.not_mem_nil

/-! ## Claims that are rejected -/

/-- A claim is rejected because the operation has ended without a write. -/
theorem OperationRow.Consistent.ended_of_rejected {db : Ledger} {r : OperationRow}
    (h : r.Consistent db) (hr : claimDisposition r.status r.commitState = .rejected) :
    r.status = .failed ∨ r.status = .conflict ∨ r.status = .interrupted := by
  have hnot := h.not_applied
  cases hs : r.status <;> cases hc : r.commitState <;> simp_all [claimDisposition]

/-- **A rejected claim hides no write.** The Connector has not got the mutation of an operation
whose claim is rejected, or has refused it, then and in every continuation of the run. -/
theorem rejected_claim_unwritten (lib : Primitives) {w : World} {P Q : Pool bridgeCalls World Out}
    (hledger : w.ledger.Consistent) (hidle : ∀ id, w.connector id = .idle)
    (hP : Pool.Reachable ((bridgeSemantics Agent).restrict (CandidStep lib)) (body lib) w P)
    {id : String} {r : OperationRow} (hr : P.moment.world.ledger.operation? id = some r)
    (hrejected : claimDisposition r.status r.commitState = .rejected)
    (hQ : Relation.ReflTransGen
      (Pool.Step ((bridgeSemantics Agent).restrict (CandidStep lib)) (body lib)) P Q) :
    Q.moment.world.Clear id := by
  have htruthful {R : Pool bridgeCalls World Out} (hR : Pool.Reachable _ (body lib) w R) :
      Truthful lib R.moment :=
    (Discipline.sound (fun j i => operation_verified j i)
      (writeDiscipline_start w fun _ => ⟨hledger, hidle⟩) hR).inv.2 (candid_candidStep lib)
  -- an operation that has ended stays so
  have hdead : Q.moment.world.Dead id := by
    refine Pool.steps_invariant (I := fun m => m.world.Dead id) ?_ ?_ hQ
      ⟨r, hr, ((htruthful hP).consistent.row hr).ended_of_rejected hrejected⟩
    · intro t m c reply w' he hm
      exact he.1.dead hm
    · intro m w' hd hm
      rwa [Moment.drifted_world, World.Dead, Drift.ledger hd]
  obtain ⟨r', hr', hended⟩ := hdead
  by_contra hclear
  obtain ⟨r'', hr'', hsettled⟩ := (htruthful (hP.trans hQ)).settled id (by
    cases hc : Q.moment.world.connector id <;> simp_all [World.Clear])
  cases hr'.symm.trans hr''
  rcases hended with hs | hs | hs <;> simp [hs] at hsettled

/-- The error of a generation that took too long. -/
def generationTimeout : StBridgeError :=
  mapStError .plain
    { stage := .generation
      endpointClass := none
      operationId := some "op-1"
      commitState := .notStarted
      attempt := 1
      failure := .control .stGenerateHardTimeout }

/-- The operation `op-1` is claimed and generated, and the failure of its generation is settled. -/
def failedGeneration : List OperationCall :=
  Sample.prepare.take 3 ++
    [.store (.updateGenerating "op-1"), .settleGenerationFailure "op-1" generationTimeout]

/-- No mutation is sent, and no write of the operation that the call settles is under way. -/
def isEarlyCall (j : OperationCall) (c : Call) (w : World) : Bool :=
  (j.isPlain || j.settles?.isSome) && !c.isMutation &&
    j.settles?.all fun id => (w.ledger.operation? id).all fun r => r.status != .committing

theorem candidStep_of_isEarlyCall {lib : Primitives} {i : ℕ} {j : OperationCall} {m : BridgeMoment}
    {c : Call} (h : isEarlyCall j c m.world = true) (r : c.Reply) (w : World) :
    CandidStep lib (i, j) m c r w := by
  simp only [isEarlyCall, Bool.and_eq_true, Bool.or_eq_true, Bool.not_eq_true'] at h
  obtain ⟨⟨hplain, hunsent⟩, hunwritten⟩ := h
  refine ⟨?_, ?_, fun u id now _ hid row hrow => ?_⟩
  · rcases hplain with hplain | hsettles
    · exact legit_of_isPlain hplain
    · cases j with
      | settleGenerationFailure operationId error => trivial
      | _ => cases hsettles
  · cases c with
    | http request =>
      cases r with
      | ok response =>
        intro id hid
        simp [Call.isMutation, Call.mutation?, hid] at hunsent
      | error e => trivial
    | _ => trivial
  · rw [show j.settles? = some id from hid, Option.all_some, hrow, Option.all_some] at hunwritten
    simpa using hunwritten

/-- An operation whose generation has failed is not claimed again, and is not written. -/
theorem rejected_claim_unwritten_failed : ∃ P : Pool bridgeCalls World Out,
    Pool.Reachable ((bridgeSemantics Agent).restrict (CandidStep .plain)) (body .plain) World.start
      P ∧ P.tasks.map (·.1) = failedGeneration ∧
    (∃ r, P.moment.world.ledger.operation? "op-1" = some r ∧ r.status = .failed ∧
      claimDisposition r.status r.commitState = .rejected) ∧ P.moment.world.Clear "op-1" := by
  obtain ⟨P, hP, htasks, hw, -⟩ := Pool.exists_reachable_runs_of_check
    ((bridgeSemantics Agent).restrict (CandidStep .plain)) (body .plain)
    (serve (answering readyAnswer)) isEarlyCall
    (fun _ _ m c h => ⟨serve_effect _ m.world c, candidStep_of_isEarlyCall h _ _⟩) World.start
    failedGeneration (by decide +kernel)
  obtain ⟨r, hr, hfailed⟩ := (Option.any_eq_true (fun r : OperationRow => r.status == .failed)
    (P.moment.world.ledger.operation? "op-1")).mp (by rw [hw]; decide +kernel)
  rw [beq_iff_eq] at hfailed
  have hrejected : claimDisposition r.status r.commitState = .rejected := by
    rw [hfailed]
    cases r.commitState <;> rfl
  exact ⟨P, hP, htasks, ⟨r, hr, hfailed, hrejected⟩, rejected_claim_unwritten .plain
    (fun r hr => absurd hr List.not_mem_nil) (fun _ => rfl) hP hr hrejected .refl⟩

/-! ## Unknown error codes -/

/-- What a body announces about the write, by its status or by the commit state of its `error`: that
it was not applied, or that this is not so. -/
def announcement (v : Json) : Option Bool :=
  match statedStatus v with
  | some status => some (status == "not_applied" || status == "failed")
  | none => (((v.get "error").bind (·.get "commitState")).bind Json.asStr).map (· == "not_applied")

/-- The answer announces that the write was not applied, or is a client error that does not announce
otherwise. -/
def HttpResponse.announcesNotApplied (lib : Primitives) (response : HttpResponse) : Bool :=
  match response.wholeBody with
  | none => false
  | some bytes => ((lib.parseJson bytes).bind announcement).getD (isClientError response.status)

/-- A body with an error code that the bridge does not know, for a mutation that was applied. -/
def unknownCodeBody : Json :=
  .object [("error", .object [("code", .string "ST_FUTURE_CODE"),
    ("commitState", .string "applied")])]

def unknownCodeAnswer : HttpResponse := .ofJson 409 unknownCodeBody

def unknownCodeLibrary : Primitives := .reading [readyBody "applied", unknownCodeBody]

/-- **An applied mutation is recorded as failed** when its answer is a client error that announces
`applied` beside an unknown code: every answer is honest, and the mutation is applied. -/
theorem unknown_code_failed : ∃ P : Pool bridgeCalls World Out,
    Pool.Reachable ((bridgeSemantics Agent).restrict fun a _ c r w => a.2.Legit unknownCodeLibrary ∧
        HonestAnswer (fun response => response.announcesNotApplied unknownCodeLibrary = true) c r w)
      (body unknownCodeLibrary) World.start P ∧
    P.tasks.map (·.1) = Sample.prepare ++ [Sample.commit ⟨Sample.backend, none, none⟩] ∧
    P.moment.world.connector "op-1" = .applied ∧
    ∃ r, P.moment.world.ledger.operation? "op-1" = some r ∧ r.status = .failed ∧
      r.commitState = .notApplied := by
  have hhonest : ∀ i j (m : BridgeMoment) (c : Call), isPlain j = true →
      ((bridgeSemantics Agent).restrict fun a _ c r w => a.2.Legit unknownCodeLibrary ∧
        HonestAnswer (fun response => response.announcesNotApplied unknownCodeLibrary = true)
          c r w).effect (i, j) m c
        (serve (answering unknownCodeAnswer) c m.world).1
        (serve (answering unknownCodeAnswer) c m.world).2 := by
    intro i j m c hj
    refine ⟨serve_effect _ m.world c, legit_of_isPlain hj, ?_⟩
    cases c with
    | http request =>
      -- the answer to a mutation announces that it was applied
      intro id hid hannounces
      rw [answering_of_mutates hid] at hannounces
      exact absurd hannounces (by decide +kernel)
    | _ => trivial
  obtain ⟨P, hP, htasks, hw, -⟩ := Pool.exists_reachable_runs_of_check _
    (body unknownCodeLibrary)
    (serve (answering unknownCodeAnswer))
    (fun j _ _ => j.isPlain) hhonest World.start
    (Sample.prepare ++ [Sample.commit ⟨Sample.backend, none, none⟩]) (by decide +kernel)
  refine ⟨P, hP, htasks, by rw [hw]; decide +kernel, ?_⟩
  obtain ⟨r, hr, hrow⟩ := (Option.any_eq_true
    (fun r : OperationRow => r.status == .failed && r.commitState == .notApplied)
    (P.moment.world.ledger.operation? "op-1")).mp (by rw [hw]; decide +kernel)
  simp only [Bool.and_eq_true, beq_iff_eq] at hrow
  exact ⟨r, hr, hrow⟩

end ImBridge
