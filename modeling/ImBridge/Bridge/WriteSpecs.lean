import ImBridge.Bridge.WriteDiscipline

/-!
# The writes follow the discipline

Each function of the coordinator is verified alone against the discipline of the writes: from the
update that wins the row, over the invocation of the backend and the one request it makes, to the
record of the outcome. What a call returns is tied to the row by `Reported`.

## Main definitions

* `Hopeless`: no write of the operation is or will be applied
* `Waiting`, `Ready`: what the winner knows before it sends, and when it has a verdict
* `Reported`: what the result of a call says about the row

## Main results

* `triple_applyUpdate`: the rule for guarded updates
* `triple_performWrite`: the writes of the coordinator follow the discipline
* `operation_verified`: so do all calls on operations
-/

namespace ImBridge

open Interleaving OperationStore Discipline Fallible

variable {lib : Primitives} {cond : StepCondition} {t : Agent} {id : String}

/-! ## Guarded updates -/

section Update

variable (u : OperationUpdate) (id expectedFrom expectedTo : String)
  (pre won lost : BridgeMoment → Prop)

/-- **The rule for guarded updates**: an update that changed the row leads to `won`, also if the row
cannot be read back afterwards; one that did not leads to `lost`. -/
theorem triple_applyUpdate (hpre : (writeDiscipline lib cond).Steady Call.Calm t pre)
    (hwon : (writeDiscipline lib cond).Steady Call.Calm t won)
    (hlost : (writeDiscipline lib cond).Steady Call.Calm t lost)
    (hmay : ∀ m now, (writeDiscipline lib cond).inv m → pre m →
      (writeDiscipline lib cond).may t m (.sql (.updateOperation u id now)))
    (hwins : ∀ m now w, (writeDiscipline lib cond).inv m → pre m →
      ((bridgeSemantics Agent).restrict cond).effect t m (.sql (.updateOperation u id now))
        (.ok (1 : ℕ)) w → won (m.after t (.sql (.updateOperation u id now)) (.ok (1 : ℕ)) w))
    (hloses : ∀ m now (r : Except SqlError ℕ) w, r ≠ .ok 1 → (writeDiscipline lib cond).inv m →
      pre m → ((bridgeSemantics Agent).restrict cond).effect t m
        (.sql (.updateOperation u id now)) r w →
          lost (m.after t (.sql (.updateOperation u id now)) r w)) :
    (writeDiscipline lib cond).Triple t pre (applyUpdate u id expectedFrom expectedTo).run
      fun r m => onResult (fun _ => won m) (fun _ => won m ∨ lost m) r := by
  have hboth := hwon.or hlost
  refine triple_liftBind (M := fun _ => pre) ?_ fun now => ?_
  · exact triple_perform hpre.stable (fun m _ _ => permits_calm.may t m _ trivial)
      (fun m r w _ hm he => permits_calm.keep hpre trivial hm he) fun _ => hpre.stable
  refine triple_tryBind
    (M := fun affected m => if affected = 1 then won m else lost m) ?_ (fun _ => hboth.stable)
    fun affected => ?_
  · refine triple_sql hpre.stable (fun m hinv hm => hmay m now hinv hm) ?_ ?_
    · intro m r w hinv hm he
      by_cases hr : r = .ok 1
      · subst hr
        exact hwins m now w hinv hm he
      · have hafter := hloses m now r w hr hinv hm he
        cases r with
        | ok affected =>
          show if affected = 1 then _ else _
          rw [if_neg fun heq => hr (by rw [heq])]
          exact hafter
        | error e => exact .inr hafter
    · intro r
      cases r with
      | ok affected =>
        show (writeDiscipline lib cond).Stable t fun m => if affected = 1 then won m else lost m
        split
        · exact hwon.stable
        · exact hlost.stable
      | error e => exact hboth.stable
  unfold assertCas
  by_cases haffected : affected = 1
  · subst haffected
    -- the row was changed, whatever becomes of reading it back
    refine (triple_of_calm permits_calm hwon ?_ (Program.ends_true _)).mono fun r m _ hm => ?_
    · refine uses_bind (uses_getOperation rfl) fun record => ?_
      cases record with
      | none => exact uses_throw _
      | some record => exact uses_pure _
    cases r with
    | ok record => exact hm.1
    | error e => exact .inl hm.1
  · rw [if_pos haffected]
    refine triple_ret hboth.stable fun m _ hm => ?_
    rw [if_neg haffected] at hm
    exact .inr hm

end Update

/-! ## What the winner knows -/

/-- The agent has sent no mutation. -/
def Unsent (t : Agent) (m : BridgeMoment) : Prop := ¬ m.Did t fun c _ => Call.isMutation c = true

/-- The agent has not invoked the backend. -/
def Uninvoked (t : Agent) (m : BridgeMoment) : Prop := ¬ m.Did t fun c _ => Call.isInvoke c = true

/-- No write of the operation is or will be applied: it has ended, or its winner knows that the
Connector will not apply it. -/
def Hopeless (t : Agent) (id : String) (m : BridgeMoment) : Prop :=
  m.world.Dead id ∨ (m.Did t (Wins id) ∧ m.world.Clear id ∧ m.world.NotApplied id)

/-- What the winner knows when the Connector has not applied the write and will not. -/
def Unapplied (lib : Primitives) (cond : StepCondition) (t : Agent) (id : String)
    (m : BridgeMoment) : Prop :=
  (Candid lib cond → m.Did t (Wins id) ∧ m.world.Clear id) ∧
    (Candid lib cond → Prompt cond → m.Did t (Wins id) ∧ m.world.Clear id ∧ m.world.NotApplied id)

/-- What the winner knows before it sends. -/
def Waiting (lib : Primitives) (cond : StepCondition) (t : Agent) (id : String)
    (m : BridgeMoment) : Prop :=
  (m.Did t (Wins id) ∧ Unsent t m) ∧ (Candid lib cond → m.Did t (Wins id) ∧ m.world.Settled id) ∧
    Unapplied lib cond t id m

/-- What the winner knows when it has a verdict on its write. -/
def Ready (lib : Primitives) (cond : StepCondition) (t : Agent) (id : String)
    (outcome : StResult StCommitResult) (m : BridgeMoment) : Prop :=
  m.Did t (Wins id) ∧ (ConcludesNotApplied outcome → Unapplied lib cond t id m)

/-- **What the result of a call says about the row.** -/
def Reported (lib : Primitives) (cond : StepCondition) (t : Agent) (id : String) :
    StResult StCommitResult → BridgeMoment → Prop
  | .ok result, m => ∃ json, lib.encodeResult result = some json ∧ m.world.Confirmed id json
  | .error error, m => Candid lib cond → Prompt cond → t.2.IsLive = true →
      error.commitState = .notStarted ∨ error.commitState = .notApplied → Hopeless t id m

theorem steady_unsent : (writeDiscipline lib cond).Steady Call.Calm t (Unsent t) := by
  refine steady_not_did fun c r hc => ?_
  rw [hc.isMutation]
  simp

theorem steady_uninvoked : (writeDiscipline lib cond).Steady Call.Calm t (Uninvoked t) := by
  refine steady_not_did fun c r hc => ?_
  rw [hc.isInvoke]
  simp

theorem steady_hopeless (hcandid : Candid lib cond) (hprompt : Prompt cond) :
    (writeDiscipline lib cond).Steady Call.Calm t (Hopeless t id) :=
  steady_dead.or (steady_notApplied hcandid hprompt)

theorem steady_unapplied :
    (writeDiscipline lib cond).Steady Call.Calm t (Unapplied lib cond t id) :=
  (Steady.imp steady_clear).and
    (Steady.imp fun hcandid => Steady.imp (steady_notApplied hcandid))

theorem steady_waiting : (writeDiscipline lib cond).Steady Call.Calm t (Waiting lib cond t id) :=
  (steady_did.and steady_unsent).and
    ((Steady.imp steady_settled).and steady_unapplied)

theorem steady_ready (outcome : StResult StCommitResult) :
    (writeDiscipline lib cond).Steady Call.Calm t (Ready lib cond t id outcome) :=
  steady_did.and (Steady.imp fun _ => steady_unapplied)

theorem stable_reported (r : StResult StCommitResult) :
    (writeDiscipline lib cond).Stable t (Reported lib cond t id r) := by
  cases r with
  | ok result =>
    rintro m m' ho ⟨json, hjson, hconfirmed⟩
    exact ⟨json, hjson, steady_confirmed.stable m m' ho hconfirmed⟩
  | error error =>
    intro m m' ho hm hcandid hprompt hlive hstate
    exact (steady_hopeless hcandid hprompt).stable m m' ho (hm hcandid hprompt hlive hstate)

/-- An error that leaves the outcome open says nothing about the row. -/
theorem reported_of_unknown {error : StBridgeError} (h : error.commitState = .unknown)
    (m : BridgeMoment) : Reported lib cond t id (.error error) m := by
  intro _ _ _ hstate
  rw [h] at hstate
  simp at hstate

variable {m : BridgeMoment}

theorem reported_of_unapplied {error : StBridgeError}
    (h : m.world.Dead id ∨ Unapplied lib cond t id m) :
    Reported lib cond t id (.error error) m := by
  intro hcandid hprompt _ _
  rcases h with hdead | hunapplied
  · exact .inl hdead
  · exact .inr (hunapplied.2 hcandid hprompt)

/-! ## Winning the row -/

/-- The update that wins a row leaves it waiting, with nothing sent. -/
theorem waiting_of_wins {now : String} {w : World} (hinv : (writeDiscipline lib cond).inv m)
    (hunsent : Unsent t m) (he : ((bridgeSemantics Agent).restrict cond).effect t m
      (.sql (.updateOperation .committing id now)) (.ok (1 : ℕ)) w) :
    Waiting lib cond t id (m.after t (.sql (.updateOperation .committing id now)) (.ok (1 : ℕ)) w)
    := by
  obtain ⟨row, hrow, hg, hrow'⟩ := Effect.update_won he.1
  have hinv' := (writeDiscipline lib cond).keep t m (.sql (.updateOperation .committing id now))
    (.ok (1 : ℕ)) w hinv ⟨trivial, fun _ _ => trivial⟩ he
  have hwins : (m.after t (.sql (.updateOperation .committing id now)) (.ok (1 : ℕ)) w).Did t
      (Wins id) := Moment.did_after_self (.intro now)
  have hunsent' : Unsent t
      (m.after t (.sql (.updateOperation .committing id now)) (.ok (1 : ℕ)) w) := by
    rw [Unsent, Moment.did_after]
    rintro (hsent | ⟨-, hsent⟩)
    · exact hunsent hsent
    · cases hsent
  have hclear : Candid lib cond → w.Clear id := fun hcandid =>
    .inl (idle_of_unsent hinv' hcandid hwins hunsent')
  refine ⟨⟨hwins, hunsent'⟩, fun _ => ⟨hwins, _, hrow', .inl rfl⟩,
    fun hcandid => ⟨hwins, hclear hcandid⟩, fun hcandid _ => ⟨hwins, hclear hcandid, ?_⟩⟩
  -- the guard asks for a write that has not started, and the update does not touch that
  intro row' hfound
  rw [Moment.after_world, hrow'] at hfound
  cases hfound
  simp only [OperationUpdate.guard, Bool.and_eq_true, beq_iff_eq] at hg
  simp [OperationUpdate.set, hg.2]

/-- A live call that does not win its row finds the operation ended, under a prompt condition. -/
theorem dead_of_loses {now : String} {r : Except SqlError ℕ} {w : World}
    (hinv : (writeDiscipline lib cond).inv m) (hlost : r ≠ .ok 1)
    (he : ((bridgeSemantics Agent).restrict cond).effect t m
      (.sql (.updateOperation .committing id now)) r w) (hcandid : Candid lib cond)
    (hprompt : Prompt cond) (hlive : t.2.IsLive = true) : w.Dead id := by
  have heffect : Effect m.world (.sql (.updateOperation .committing id now)) r w := he.1
  rcases hprompt.live t m id now r w hlive he.2 with hdead | ⟨row, hrow, hs, hfault⟩
  · exact heffect.dead hdead
  · exfalso
    have hstate := ((hinv.2 hcandid).consistent.row hrow).commitState_of_early (.inr hs)
    rcases (heffect.update_lost hlost hrow).2 with hg | hother
    · simp [OperationUpdate.guard, hs, hstate] at hg
    · exact hfault hother

theorem triple_markCommitting :
    (writeDiscipline lib cond).Triple t (fun m => Uninvoked t m ∧ Unsent t m)
      (OperationCoordinator.markCommitting id).run fun r m => onResult
        (fun _ => Uninvoked t m ∧ Waiting lib cond t id m)
        (fun error => Reported lib cond t id (.error error) m) r := by
  have hlost : (writeDiscipline lib cond).Steady Call.Calm t fun m => Candid lib cond →
      Prompt cond → t.2.IsLive = true → m.world.Dead id :=
    Steady.imp fun _ => Steady.imp fun _ => Steady.imp fun _ =>
      steady_dead
  have huninvoked : ∀ {m : BridgeMoment} {now : String} {r : Except SqlError ℕ} {w : World},
      Uninvoked t m →
        Uninvoked t (m.after t (.sql (.updateOperation .committing id now)) r w) := by
    intro m now r w hm
    rw [Uninvoked, Moment.did_after]
    rintro (hinvoked | ⟨-, hinvoked⟩)
    · exact hm hinvoked
    · cases hinvoked
  refine triple_mapError ?_ ?_
  · refine (triple_applyUpdate .committing id "generated" "committing" _ _ _
      (steady_uninvoked.and steady_unsent)
      (steady_uninvoked.and steady_waiting) hlost (fun m now _ _ => ⟨trivial, fun _ _ => trivial⟩)
      (fun m now w hinv hm he => ⟨huninvoked hm.1, waiting_of_wins hinv hm.2 he⟩)
      (fun m now r w hr hinv hm he => dead_of_loses hinv hr he)).mono ?_
    intro r m _ hm
    cases r with
    | ok record => exact hm
    | error error =>
      rcases hm with ⟨-, -, -, hunapplied⟩ | hdead
      · exact reported_of_unapplied (.inr hunapplied)
      · exact fun hcandid hprompt hlive _ => .inl (hdead hcandid hprompt hlive)
  · intro r
    cases r with
    | ok record => exact (steady_uninvoked.and steady_waiting).stable
    | error error => exact fun m m' ho hm => stable_reported (.error error) m m' ho hm

/-! ## Invoking the backend -/

section Invoke

variable {command : BackendCommand}

theorem waiting_after {c : Call} {r : c.Reply} (h : Waiting lib cond t id m)
    (hc : c.isMutation = false) : Waiting lib cond t id (m.after t c r m.world) := by
  obtain ⟨⟨hwins, hunsent⟩, hsettled, hclear, hnot⟩ := h
  refine ⟨⟨hwins.after, ?_⟩, fun hcandid => ⟨hwins.after, (hsettled hcandid).2⟩,
    fun hcandid => ⟨hwins.after, (hclear hcandid).2⟩,
    fun hcandid hprompt => ⟨hwins.after, (hnot hcandid hprompt).2⟩⟩
  rw [Unsent, Moment.did_after]
  rintro (hsent | ⟨-, hsent⟩)
  · exact hunsent hsent
  · rw [hc] at hsent
    cases hsent

/-- The winner invokes the backend. -/
theorem triple_invoke (hwrites : t.2.writes? = some id)
    (haddressed : t.2.Addressed lib → command.operationId = id) :
    (writeDiscipline lib cond).Triple t (fun m => Uninvoked t m ∧ Waiting lib cond t id m)
      (ask (.invoke id command)) fun _ m => Waiting lib cond t id m ∧ m.Did t (Invokes id command)
    := by
  refine triple_perform (steady_uninvoked.and steady_waiting).stable ?_ ?_ fun _ =>
    (steady_waiting.and steady_did).stable
  · rintro m - ⟨huninvoked, ⟨hwins, -⟩, -⟩
    exact ⟨⟨hwins, huninvoked, hwrites, haddressed⟩, fun _ _ => trivial⟩
  · rintro m r w - ⟨-, hwaiting⟩ he
    obtain rfl : w = m.world := he.1
    exact ⟨waiting_after hwaiting rfl, Moment.did_after_self rfl⟩

/-- The answer to the one request leaves the winner with a verdict. -/
theorem triple_request {request : ConnectorRequest}
    (hrequest : request.mutates = some command.operationId)
    (haddressed : t.2.Addressed lib → command.operationId = id) :
    (writeDiscipline lib cond).Triple t
      (fun m => Waiting lib cond t id m ∧ m.Did t (Invokes id command)) (ask (.http request))
      fun sent m => Ready lib cond t id (ConnectorClient.verdict lib command sent) m := by
  refine triple_perform (steady_waiting.and steady_did).stable ?_ ?_ fun _ =>
    (steady_ready _).stable
  · rintro m - ⟨⟨⟨-, hunsent⟩, hsettled, -⟩, hinvoked⟩
    refine ⟨fun id' hid' => ?_, fun hcandid hlegit id' hid' => ?_⟩
    · rw [hrequest] at hid'
      exact ⟨hunsent, id, command, hinvoked, Option.some.inj hid'⟩
    · rw [hrequest, haddressed hlegit.addressed] at hid'
      rw [← Option.some.inj hid']
      exact (hsettled hcandid).2
  · rintro m sent w - ⟨⟨⟨hwins, -⟩, -, -, hnot⟩, -⟩ he
    have heffect : Effect m.world (.http request) sent w := he.1
    refine ⟨hwins.after, fun hconcludes => ?_⟩
    -- the verdict rests on an answer that says so, and a candid Connector says so truly
    have hclear : Candid lib cond → w.Clear id := by
      intro hcandid
      obtain ⟨response, hsent, hsays⟩ := ConnectorClient.saysNotApplied_of_verdict lib hconcludes
      cases hsent
      have hlegit := hcandid.legit t m _ _ w he.2
      rw [← haddressed hlegit.addressed]
      exact hcandid.answer t m request response w _ he.2 hrequest hsays
    refine ⟨fun hcandid => ⟨hwins.after, hclear hcandid⟩,
      fun hcandid hprompt => ⟨hwins.after, hclear hcandid, ?_⟩⟩
    refine heffect.notApplied (hnot hcandid hprompt).2.2 ?_ ?_
    · exact fun _ _ _ hne => by cases hne
    · exact fun _ _ _ _ _ hne => by cases hne

/-- **The backend sends one request and returns its verdict.** -/
theorem triple_write (backend : ReqwestStBackend)
    (haddressed : t.2.Addressed lib → command.operationId = id) :
    (writeDiscipline lib cond).Triple t
      (fun m => Waiting lib cond t id m ∧ m.Did t (Invokes id command))
      (backend.write lib command).run fun outcome m => Ready lib cond t id outcome m := by
  have hsteady : (writeDiscipline lib cond).Steady Call.Calm t
      fun m => Waiting lib cond t id m ∧ m.Did t (Invokes id command) :=
    steady_waiting.and steady_did
  rw [ReqwestStBackend.write_eq]
  refine triple_tryBind (M := fun request m =>
    (Waiting lib cond t id m ∧ m.Did t (Invokes id command)) ∧
      request.mutates = some command.operationId) ?_ (fun _ => (steady_ready _).stable) ?_
  · refine (triple_of_calm permits_calm hsteady
      ((ReqwestStBackend.uses_admission lib backend command).imp fun _ hc => hc.calm)
      (ReqwestStBackend.ends_admission lib backend command)).mono ?_
    rintro r m - ⟨hm, hends⟩
    cases r with
    | ok request => exact ⟨hm, hends⟩
    | error error => exact ⟨hm.1.1.1, fun _ => hm.1.2.2⟩
  · intro request
    by_cases hrequest : request.mutates = some command.operationId
    · refine triple_liftBind (M := fun sent m =>
        Ready lib cond t id (ConnectorClient.verdict lib command sent) m) ?_ fun sent => ?_
      · exact (triple_request hrequest haddressed).given fun m _ hm => hm.1
      · exact triple_ret (steady_ready _).stable fun _ _ h => h
    · intro m _ hm
      exact absurd hm.2 hrequest

end Invoke

/-! ## Recording the outcome -/

variable (runtime : Runtime)

section Record

open OperationCoordinator

theorem unapplied_after {stage code summary now : String} {retryable : Bool} {r : Except SqlError ℕ}
    {w : World} (h : Unapplied lib cond t id m) (he : Effect m.world
      (.sql (.updateOperation (.failed stage code summary retryable .notApplied) id now)) r w) :
    Unapplied lib cond t id (m.after t
      (.sql (.updateOperation (.failed stage code summary retryable .notApplied) id now)) r w) := by
  have hclear : m.world.Clear id → w.Clear id := by
    intro hm
    have hne : (Call.sql (.updateOperation (.failed stage code summary retryable .notApplied) id
        now)).mutation? ≠ some id := fun heq => by cases heq
    rw [World.Clear, he.connector_of_ne hne]
    exact hm
  refine ⟨fun hcandid => ?_, fun hcandid hprompt => ?_⟩
  · obtain ⟨hwins, hm⟩ := h.1 hcandid
    exact ⟨hwins.after, hclear hm⟩
  · obtain ⟨hwins, hm, hnot⟩ := h.2 hcandid hprompt
    refine ⟨hwins.after, hclear hm, he.notApplied hnot ?_ ?_⟩
    · exact fun _ _ _ hne => by cases hne
    · exact fun _ _ _ _ _ hne => by cases hne

/-- A write that was not applied fails its row, or leaves it to nobody. -/
theorem triple_recordNotApplied (summary : String) (error : StBridgeError) :
    (writeDiscipline lib cond).Triple t
      (fun m => m.Did t (Wins id) ∧ Unapplied lib cond t id m)
      (recordNotApplied id summary error).run fun r m => Reported lib cond t id r m := by
  refine triple_attemptBind
    (M := fun _ m => m.world.Dead id ∨ Unapplied lib cond t id m) ?_ fun r => ?_
  · refine (triple_applyUpdate (.failed "commit" StErrorCode.stCommitFailed.asStr summary false
      .notApplied) id "pre-commit" "failed" _ (fun m => m.world.Dead id) (Unapplied lib cond t id)
      (steady_did.and steady_unapplied) steady_dead steady_unapplied
      ?_ ?_ ?_).mono ?_
    · rintro m now - ⟨-, hunapplied⟩
      exact ⟨.inr rfl, fun hcandid _ => .inr (hunapplied.1 hcandid)⟩
    · intro m now w _ _ he
      obtain ⟨row, -, -, hrow⟩ := Effect.update_won he.1
      exact ⟨_, hrow, .inl rfl⟩
    · intro m now r w _ _ hm he
      exact unapplied_after hm.2 he.1
    · intro r m _ hm
      cases r with
      | ok record => exact .inl hm
      | error error => exact hm
  · cases r with
    | ok record | error persistenceError =>
      exact triple_ret (stable_reported _) fun m _ hm => reported_of_unapplied hm

/-- The mark of an open outcome is always permitted, and nothing is said about it. -/
theorem triple_markCommitUnknown :
    (writeDiscipline lib cond).Triple t (fun _ => True) (markCommitUnknown id).run
      fun _ _ => True := by
  refine (triple_applyUpdate .commitUnknown id "committing" "committing(unknown)" _ _ _
    steady_true steady_true steady_true
    (fun _ _ _ _ => ⟨trivial, fun _ _ => trivial⟩) (fun _ _ _ _ _ _ => trivial)
    fun _ _ _ _ _ _ _ _ => trivial).mono fun _ _ _ _ => trivial

theorem triple_recordUnknown :
    (writeDiscipline lib cond).Triple t (fun _ => True) (recordUnknown id).run
      fun r m => Reported lib cond t id r m := by
  refine triple_attemptBind triple_markCommitUnknown fun r => ?_
  cases r with
  | ok record | error persistenceError =>
    exact triple_ret (stable_reported _) fun m _ _ => reported_of_unknown rfl m

/-- The record of an applied write confirms it, if it succeeds. -/
theorem triple_markCommitted (encoded : String) :
    (writeDiscipline lib cond).Triple t (fun m => m.Did t (Wins id))
      (markCommittedWithState id encoded .notStarted).run
      fun r m => onResult (fun _ => m.world.Confirmed id encoded) (fun _ => True) r := by
  refine (triple_applyUpdate (.committed encoded .notStarted) id
    ("committing/" ++ OperationCommitState.asStr .notStarted) "committed/applied"
    (fun m => m.Did t (Wins id)) (fun m => m.world.Confirmed id encoded) (fun _ => True)
    steady_did steady_confirmed steady_true ?_ ?_ ?_).mono ?_
  · intro m now _ hm
    exact ⟨trivial, fun _ _ _ => .inl hm⟩
  · intro m now w _ _ he
    obtain ⟨row, -, -, hrow⟩ := Effect.update_won he.1
    exact ⟨_, hrow, .inl rfl, rfl, rfl⟩
  · exact fun _ _ _ _ _ _ _ _ => trivial
  · intro r m _ hm
    cases r with
    | ok record => exact hm
    | error error => trivial

theorem triple_recordApplied (result : StCommitResult) :
    (writeDiscipline lib cond).Triple t (fun m => m.Did t (Wins id))
      (recordApplied lib id result).run fun r m => Reported lib cond t id r m := by
  unfold recordApplied
  cases hencoded : lib.encodeResult result with
  | none => exact triple_ret (stable_reported _) fun m _ _ => reported_of_unknown rfl m
  | some encoded =>
    refine triple_attemptBind (triple_markCommitted encoded) fun r => ?_
    cases r with
    | ok record =>
      exact triple_ret (stable_reported _) fun m _ hm => ⟨encoded, hencoded, hm⟩
    | error error =>
      refine (triple_attemptBind triple_markCommitUnknown fun r => ?_).given fun _ _ _ => trivial
      cases r with
      | ok record | error persistenceError =>
        exact triple_ret (stable_reported _) fun m _ _ => reported_of_unknown rfl m

theorem triple_recordReplayed (result : StCommitResult) :
    (writeDiscipline lib cond).Triple t (fun m => m.Did t (Wins id))
      (recordReplayed lib id result).run fun r m => Reported lib cond t id r m := by
  unfold recordReplayed
  cases hencoded : lib.encodeResult result with
  | none => exact triple_ret (stable_reported _) fun m _ _ => reported_of_unknown rfl m
  | some encoded =>
    refine triple_tryBind (M := fun _ m => m.world.Confirmed id encoded) ?_
      (fun e => stable_reported (.error e)) fun record => ?_
    · refine triple_mapError ((triple_markCommitted encoded).mono fun r m _ hm => ?_) fun r => ?_
      · cases r with
        | ok record => exact hm
        | error error => exact reported_of_unknown rfl m
      · cases r with
        | ok record => exact steady_confirmed.stable
        | error error => exact fun m m' ho hm => stable_reported (.error error) m m' ho hm
    · exact triple_ret (stable_reported _) fun m _ hm => ⟨encoded, hencoded, hm⟩

/-- What is recorded of an outcome follows the discipline. -/
theorem triple_recordOutcome {applied : StCommitResult → StTask StCommitResult}
    (happlied : ∀ result, (writeDiscipline lib cond).Triple t (fun m => m.Did t (Wins id))
      (applied result).run fun r m => Reported lib cond t id r m)
    (summaries : Summaries) (outcome : StResult StCommitResult) :
    (writeDiscipline lib cond).Triple t (Ready lib cond t id outcome)
      (recordOutcome lib id summaries applied outcome).run
      fun r m => Reported lib cond t id r m := by
  unfold recordOutcome
  cases outcome with
  | ok result =>
    dsimp only
    split
    · exact (happlied result).given fun _ _ hm => hm.1
    · exact (happlied result).given fun _ _ hm => hm.1
    · rename_i hstatus
      exact (triple_recordNotApplied _ _).given fun _ _ hm => ⟨hm.1, hm.2 hstatus⟩
    · exact triple_recordUnknown.given fun _ _ _ => trivial
  | error error =>
    dsimp only
    split
    · rename_i hstate
      exact (triple_recordNotApplied _ _).given fun _ _ hm => ⟨hm.1, hm.2 hstate⟩
    · exact triple_recordUnknown.given fun _ _ _ => trivial

/-- **The writes of the coordinator follow the discipline**: win the row, invoke the backend, and
record the outcome. -/
theorem triple_performWrite {command : BackendCommand}
    {applied : StCommitResult → StTask StCommitResult} (hwrites : t.2.writes? = some id)
    (haddressed : t.2.Addressed lib → command.operationId = id)
    (happlied : ∀ result, (writeDiscipline lib cond).Triple t (fun m => m.Did t (Wins id)) (applied
      result).run fun r m => Reported lib cond t id r m) (summaries : Summaries) :
    (writeDiscipline lib cond).Triple t (fun m => Uninvoked t m ∧ Unsent t m)
      (perform lib (runtime.coordinator lib) id command summaries applied).run
      fun r m => Reported lib cond t id r m := by
  refine triple_tryBind triple_markCommitting (fun e => stable_reported (.error e))
    fun record => ?_
  refine triple_liftBind (M := fun outcome m => Ready lib cond t id outcome m) ?_
    fun outcome => triple_recordOutcome happlied summaries outcome
  exact triple_bind (triple_invoke hwrites haddressed) fun _ =>
    triple_write runtime.backend haddressed

end Record

/-! ## The calls on operations -/

section Calls

open OperationCoordinator

theorem unsent_of_silent (h : m.Silent t) : Uninvoked t m ∧ Unsent t m :=
  ⟨h.not_did, h.not_did⟩

theorem triple_commit (locator : StChatLocator) (sha integrity : String) (mutation : StMutation)
    (fence : PollerRuntimeFence) (hwrites : t.2.writes? = some id) :
    (writeDiscipline lib cond).Triple t (fun m => m.Silent t)
      ((runtime.coordinator lib).commit lib id locator sha integrity mutation fence).run
      fun r m => Reported lib cond t id r m := by
  unfold OperationCoordinator.commit
  split
  · exact triple_ret (stable_reported _) fun m _ _ => reported_of_unknown rfl m
  · exact (triple_performWrite runtime hwrites (fun _ => rfl) triple_recordApplied _).given
      fun m _ hm => unsent_of_silent hm

theorem triple_create (command : CreateStChat) (hwrites : t.2.writes? = some command.operationId) :
    (writeDiscipline lib cond).Triple t (fun m => m.Silent t)
      ((runtime.coordinator lib).create lib command).run
      fun r m => Reported lib cond t command.operationId r m :=
  (triple_performWrite runtime hwrites (fun _ => rfl) triple_recordApplied _).given
    fun _ _ hm => unsent_of_silent hm

/-- Finding the key of an operation leaves everything as it is. -/
theorem uses_restorePayloadEncryptorForOperation (self : OperationCoordinator) :
    (restorePayloadEncryptorForOperation self id).run.Uses Call.Calm := by
  unfold restorePayloadEncryptorForOperation
  split
  · refine uses_bind (uses_getOperationKeyReference rfl) fun reference => ?_
    cases reference with
    | none => exact uses_throw _
    | some reference =>
      show (OperationPayloadEncryptor.fromWrapped reference.wrappedSecretId
        reference.keyVersion).run.Uses Call.Calm
      unfold OperationPayloadEncryptor.fromWrapped
      split
      · exact uses_throw _
      · exact uses_bind (uses_ask trivial) fun _ => uses_ofExcept _
  · split
    · exact uses_pure _
    · exact uses_throw _

/-- A replayed command is addressed to its own operation. -/
theorem operationId_replayCommand {runtime : Runtime} {record : BridgeOperationRecord}
    {internalBotId : String} {fence : PollerRuntimeFence} {encryptor : OperationPayloadEncryptor}
    {payload : OperationRecoveryPayload}
    (hopen : openRecoveryPayload lib encryptor record fence = .ok payload)
    (h : (OperationCall.replayGenerated runtime record internalBotId fence).Addressed lib) :
    (replayCommand record payload).operationId = record.id := by
  cases payload with
  | create command => exact h encryptor command hopen
  | _ => rfl

theorem triple_replayGenerated (i : ℕ) (runtime : Runtime) (record : BridgeOperationRecord)
    (internalBotId : String) (fence : PollerRuntimeFence) :
    (writeDiscipline lib cond).Triple (i, .replayGenerated runtime record internalBotId fence)
      (fun m => m.Silent (i, .replayGenerated runtime record internalBotId fence))
      ((runtime.coordinator lib).replayGenerated lib record internalBotId fence).run
      fun _ _ => True := by
  unfold replayGenerated
  split
  · exact triple_ret stable_true fun _ _ _ => trivial
  split
  · exact triple_ret stable_true fun _ _ _ => trivial
  set t : Agent := (i, .replayGenerated runtime record internalBotId fence) with ht
  have hfresh : (writeDiscipline lib cond).Steady Call.Calm t
      fun m => Uninvoked t m ∧ Unsent t m := steady_uninvoked.and steady_unsent
  refine triple_tryBind (M := fun payload m => (Uninvoked t m ∧ Unsent t m) ∧
    ∃ encryptor, openRecoveryPayload lib encryptor record fence = .ok payload) ?_
    (fun _ => stable_true) fun payload => ?_
  · have hends : ((decryptRecoveryPayloadForOperation lib (runtime.coordinator lib) record
        fence).mapError (bridgeErrorFromApp record.id)).run.Ends (onResult (fun payload =>
          ∃ encryptor, openRecoveryPayload lib encryptor record fence = .ok payload)
          fun _ => True) := by
      refine ends_mapError (ends_bind (Q := fun _ => True) ?_ fun encryptor _ => ?_)
      · exact (Program.ends_true _).imp fun r _ => by cases r <;> trivial
      · show onResult _ _ (openRecoveryPayload lib encryptor record fence)
        cases hopen : openRecoveryPayload lib encryptor record fence with
        | ok payload => exact ⟨encryptor, hopen⟩
        | error error => trivial
    have huses : ((decryptRecoveryPayloadForOperation lib (runtime.coordinator lib) record
        fence).mapError (bridgeErrorFromApp record.id)).run.Uses Call.Calm :=
      uses_mapError (uses_bind (uses_restorePayloadEncryptorForOperation _)
        fun _ => uses_ofExcept _)
    refine (triple_of_calm permits_calm hfresh huses hends).weaken
      (fun m _ hm => unsent_of_silent hm) ?_
    rintro r m - ⟨hm, hr⟩
    cases r with
    | ok payload => exact ⟨hm, hr⟩
    | error error => trivial
  · by_cases hopen : ∃ encryptor, openRecoveryPayload lib encryptor record fence = .ok payload
    · obtain ⟨encryptor, hopen⟩ := hopen
      exact (triple_performWrite runtime rfl (operationId_replayCommand hopen) triple_recordReplayed
        _).weaken (fun _ _ hm => hm.1) fun _ _ _ _ => trivial
    · exact fun m _ hm => absurd hm.2 hopen

/-- Reconciliation records a write that the journal claims. -/
theorem triple_reconcileCommit (record : BridgeOperationRecord) (locatorHash : String) :
    (writeDiscipline lib cond).Triple t (fun _ => True) (reconcileCommit lib record locatorHash).run
      fun _ _ => True := by
  unfold reconcileCommit
  split
  · exact triple_ret stable_true fun _ _ _ => trivial
  split
  · exact triple_ret stable_true fun _ _ _ => trivial
  split
  · exact triple_ret stable_true fun _ _ _ => trivial
  rename_i mutationDigest _
  -- what an honest journal claims is applied, and stays so
  let Claimed (journal : StOperationJournalRecord) (m : BridgeMoment) : Prop :=
    Candid lib cond → Prompt cond → journal.status = .applied →
      m.world.connector journal.operationId = .applied
  have hclaimed : ∀ journal, (writeDiscipline lib cond).Steady Call.Calm t (Claimed journal) :=
    fun journal => Steady.imp fun hcandid => Steady.imp fun _ =>
      Steady.imp fun _ => steady_applied hcandid
  refine triple_tryBind (p := ExceptT.mk (ask (.journalLookup record.id)))
    (M := fun found m => ∀ journal, found = some journal → Claimed journal m) ?_
    (fun _ => stable_true) fun found => ?_
  · refine triple_perform stable_true
      (fun m _ _ => permits_calm.may t m _ trivial) ?_ ?_
    · intro m r w _ _ he
      obtain rfl : w = m.world := he.1
      cases r with
      | ok found =>
        rintro journal rfl _ hprompt happlied
        exact hprompt.journal t m record.id journal m.world he.2 happlied
      | error error => trivial
    · intro r
      cases r with
      | ok found =>
        intro m m' ho hm journal hfound
        exact (hclaimed journal).stable m m' ho (hm journal hfound)
      | error error => exact stable_true
  · cases found with
    | none => exact triple_ret stable_true fun _ _ _ => trivial
    | some journal =>
      unfold confirm
      dsimp only
      split
      · exact triple_ret stable_true fun _ _ _ => trivial
      split
      · exact triple_ret stable_true fun _ _ _ => trivial
      rename_i hidentity hstatus
      have hid : journal.operationId = record.id := by
        simp only [identityMatches, Bool.not_eq_true', Bool.not_eq_false, Bool.and_eq_true,
          beq_iff_eq] at hidentity
        exact hidentity.1.1
      refine triple_tryBind (M := fun _ _ => True) ?_ (fun _ => stable_true)
        fun _ => triple_ret stable_true fun _ _ _ => trivial
      refine (triple_applyUpdate _ record.id _ _ (Claimed journal) (fun _ => True) (fun _ => True)
        (hclaimed journal) steady_true steady_true ?_
        (fun _ _ _ _ _ _ => trivial) fun _ _ _ _ _ _ _ _ => trivial).weaken
        (fun m _ hm => hm journal rfl) fun r m _ _ => by cases r <;> trivial
      intro m now _ hm
      refine ⟨trivial, fun hcandid _ hprompt => .inr ?_⟩
      rw [← hid]
      exact hm hcandid hprompt (not_not.mp hstatus)

/-- A program of calls that are always permitted follows the discipline. -/
theorem triple_of_may {α : Type} {p : BridgeTask α}
    (huses : p.Uses fun c => ∀ m, (writeDiscipline lib cond).may t m c) :
    (writeDiscipline lib cond).Triple t (fun _ => True) p fun _ _ => True :=
  (triple_of_uses (R := fun _ => True) huses (Program.ends_true _)
    stable_true fun _ hc m _ _ => ⟨hc m, fun _ _ _ => trivial⟩).weaken
    (fun _ _ _ => trivial) fun _ _ _ _ => trivial

/-- The failure of a generation does not say that anything was written. -/
theorem triple_settleGenerationFailure (i : ℕ) (operationId : String) (error : StBridgeError) :
    (writeDiscipline lib cond).Triple (i, .settleGenerationFailure operationId error)
      (fun _ => True) (settleGenerationFailure operationId error) fun _ _ => True := by
  refine triple_of_may (Program.uses_bind ?_ fun r => ?_)
  · exact uses_applyUpdate (fun m => permits_calm.may _ m _ trivial)
      (fun now m => ⟨.inl rfl, fun _ _ => .inl ⟨rfl, by decide⟩⟩)
      fun m => permits_calm.may _ m _ rfl
  · cases r <;> exact Program.uses_pure _

/-- The functions of the store are always permitted, the early ones also in a candid run. -/
theorem triple_store (i : ℕ) (call : StoreCall) :
    (writeDiscipline lib cond).Triple (i, .store call) (fun _ => True) call.body
      fun _ _ => True := by
  have hcalm : ∀ c : Call, c.Calm → ∀ m, (writeDiscipline lib cond).may (i, .store call) m c :=
    fun c hc m => permits_calm.may _ m c hc
  -- an update that is recorded only by the coordinator is not an early one
  have hupdate : ∀ u id expectedFrom expectedTo, u.Permitted →
      (call.IsEarly = true → ∀ m now, MayRecord cond (i, .store call) m
        (.sql (.updateOperation u id now))) →
      (applyUpdate u id expectedFrom expectedTo).run.Uses fun c => ∀ m,
        (writeDiscipline lib cond).may (i, .store call) m c := by
    intro u id expectedFrom expectedTo hu hearly
    exact uses_applyUpdate (hcalm _ trivial)
      (fun now m => ⟨hu, fun _ hlegit => hearly hlegit m now⟩) (hcalm _ rfl)
  refine triple_of_may ?_
  cases call with
  | claimOperation request =>
    exact uses_claimOperation (hcalm _ trivial) (hcalm _ trivial)
      (fun _ _ _ => ⟨trivial, fun _ _ => trivial⟩) (fun _ => hcalm _ rfl) (hcalm _ rfl)
  | interruptStaleGenerating cutoff =>
    exact uses_bind (uses_lift (uses_ask (hcalm _ trivial))) fun now =>
      uses_sql fun _ => ⟨trivial, fun _ _ => trivial⟩
  | putOperationKeyReference id secretId version =>
    exact uses_putOperationKeyReference (hcalm _ trivial)
      (fun _ _ => ⟨trivial, fun _ _ => trivial⟩) (hcalm _ rfl)
  | markFailedWithState id stage code summary retryable commitState h =>
    exact hupdate _ _ _ _ h fun hearly => by cases hearly
  | markConflict id summary => exact hupdate _ _ _ _ trivial fun hearly => by cases hearly
  | markCommittedWithState id json expected =>
    exact hupdate _ _ _ _ trivial fun hearly => by cases hearly
  | _ => exact hupdate _ _ _ _ trivial fun _ _ _ => trivial

end Calls

/-- What is guaranteed when a call returns. -/
def OperationCall.post (lib : Primitives) (cond : StepCondition) :
    (j : OperationCall) → ℕ → j.Out → BridgeMoment → Prop
  | commit runtime operationId locator sha integrity mutation fence, i => Reported lib cond
      (i, commit runtime operationId locator sha integrity mutation fence) operationId
  | create runtime command, i => Reported lib cond (i, create runtime command) command.operationId
  | _, _ => fun _ _ => True

/-- **All calls on operations follow the discipline of the writes.** -/
theorem operation_verified (j : OperationCall) (i : ℕ) :
    (writeDiscipline lib cond).Triple (i, j) (fun m => m.Silent (i, j)) (j.body lib)
      (j.post lib cond i) := by
  cases j with
  | commit runtime operationId locator sha integrity mutation fence =>
    exact triple_commit runtime locator sha integrity mutation fence rfl
  | create runtime command => exact triple_create runtime command rfl
  | replayGenerated runtime record internalBotId fence =>
    exact triple_replayGenerated i runtime record internalBotId fence
  | reconcileCommit record locatorHash =>
    exact (triple_reconcileCommit record locatorHash).given fun _ _ _ => trivial
  | settleGenerationFailure operationId error =>
    exact (triple_settleGenerationFailure i operationId error).given fun _ _ _ => trivial
  | store call =>
    exact (triple_store i call).given fun _ _ _ => trivial

end ImBridge
