import ImBridge.Bridge.StoreRuns
import ImBridge.Bridge.WriteDiscipline

/-!
# Refusals before anything is sent

A write that the backend refuses on its own, before it sends the Connector anything, cannot have
been applied. The client of the Connector says so when it fails to prepare a request. The backend
does not when its mode, the scope of the command or the missing Connector make it refuse: its error
says that nothing was started, and the coordinator records every error but "not applied" as unknown.

So an operation is recorded as unknown only if its mutation was sent exactly when the call does not
get as far as the backend, or the backend admits it, or what the backend met was an error of the
session that says "not applied".

## Main definitions

* `OperationCoordinator.live`: the live path for a command
* `Reaches`: the call gets as far as the backend
* `Admits`, `RefusedUnapplied`: what the backend's own checks make of the surroundings
* `UnknownOnlyIfSent`: what is asked of a run

## Main results

* `gate_result`, `hoare_write`: the outcome of the checks, and of the write
* `unknown_only_if_sent_iff`: exactly when an unknown write was sent
* `disabled_backend_unknown`: a write that was refused for the mode is recorded as unknown
-/

namespace ImBridge

open Interleaving OperationStore ReqwestStBackend Surroundings

/-- The live path for a command. -/
def OperationCoordinator.live (lib : Primitives) (self : OperationCoordinator) :
    BackendCommand → StTask StCommitResult
  | .createChat command => self.create lib command
  | .commit command =>
    self.commit lib command.operationId command.locator command.expectedSha256
      command.expectedIntegrity command.mutation command.fence

/-- The row of the operation records that it is not known whether its write was applied. -/
def World.Unknown (w : World) (id : String) : Prop :=
  ∃ r, w.ledger.operation? id = some r ∧ r.commitState = .unknown

/-- The call gets as far as the backend: its row can be won, and a commit comes with a valid
fence. -/
def Reaches (w : World) (command : BackendCommand) : Prop :=
  (∀ c, command = .commit c → c.fence.isValid = true) ∧ w.Winnable command.operationId

/-- The moment after a call. -/
def Surroundings.after (E : Surroundings) (c : Call) (m : SoleMoment) : SoleMoment :=
  (E.handle c m).2

/-- The moment at which the backend gets the command. -/
def Surroundings.atBackend (E : Surroundings) (command : BackendCommand) (m : SoleMoment) :
    SoleMoment :=
  E.after (.invoke command.operationId command)
    (E.run (OperationStore.markCommitting command.operationId).run m).2

/-- The command fits the mode: it is one that writes, in the scope that is asked for, and in test
mode the chat is a test chat. -/
def Fits (command : BackendCommand) (mode : StWriteMode) : Prop :=
  mode.allowsWrite = true ∧ (∀ scope, requestedScope command = some scope → scope.mode = mode) ∧
    (mode = .testWrite → startsWith "IMBridge-Test-" (chatFile command) = true)

section Checks

variable (lib : Primitives) (E : Surroundings) (self : ReqwestStBackend)

/-- The backend admits the command: it has a handle and a session, and the handshake of its
Connector leads to a mode that the command fits. -/
def Admits (command : BackendCommand) (m : SoleMoment) : Prop :=
  isBlank self.handle = false ∧ (∃ session, E m .ensureSession = .ok session) ∧
    ∃ client handshake m', self.connector = some client ∧
      E.run (client.probe lib).run (E.after .ensureSession m) = (.ok handshake, m') ∧
      Fits command (self.statusFromHandshake handshake (E m' .unixTimestamp)).capabilities.mode

/-- The session fails with an error that is passed on, and says that nothing was applied. -/
def RefusedUnapplied (m : SoleMoment) : Prop :=
  isBlank self.handle = false ∧ ∃ error, E m .ensureSession = .error error ∧
    error.code ≠ .stConnectFailed ∧ error.code ≠ .stRequestTimeout ∧ error.commitState = .notApplied

end Checks

/-- An operation that is recorded as unknown was so before, or its mutation was sent. -/
def UnknownOnlyIfSent (w : World) (id : String) (m : SoleMoment) : Prop :=
  m.world.Unknown id → w.Unknown id ∨ m.Did () (Sends id)

/-! ## The checks of the backend -/

variable {m : SoleMoment} {session : String × String} {status : StStatus} {m m' : SoleMoment}

section Gate

variable {lib : Primitives} {E : Surroundings} {self : ReqwestStBackend} {command : BackendCommand}

/-- What the checks make of a status. -/
def checkStatus (lib : Primitives) (self : ReqwestStBackend) (command : BackendCommand)
    (status : StStatus) : StResult ConnectorClient :=
  (checkWrite lib (requestedScope command) status).bind
    (checkTarget lib self command.operationId (chatFile command))

theorem gate_eq : gate lib self command = (do
    let status ← probe lib self
    Fallible.ofExcept (checkStatus lib self command status)) := by
  unfold gate admitTarget requireWrite
  rw [bind_assoc]
  refine congrArg _ (funext fun status => ?_)
  unfold checkStatus
  cases checkWrite lib (requestedScope command) status <;> rfl

theorem commitState_notReady (code : StErrorCode) (stage : StErrorStage) :
    (notReady lib code stage).commitState = .notStarted := rfl

variable (lib self) in
/-- A status whose mode the command does not fit is refused as not started. -/
theorem checkStatus_of_not_fits (h : ¬ Fits command status.capabilities.mode) :
    ∃ e, checkStatus lib self command status = .error e ∧ e.commitState = .notStarted := by
  unfold checkStatus checkWrite
  by_cases hwrite : status.capabilities.mode.allowsWrite = true
  · rw [hwrite, if_neg (by simp)]
    by_cases hscope : (requestedScope command).any (·.mode ≠ status.capabilities.mode) = true
    · rw [if_pos hscope]
      exact ⟨_, rfl, commitState_notReady _ _⟩
    · rw [if_neg hscope]
      -- mode and scope are right, so it is the name of the chat
      have htest : status.capabilities.mode = .testWrite ∧
          startsWith "IMBridge-Test-" (chatFile command) = false := by
        by_contra hname
        refine h ⟨hwrite, fun scope heq => ?_, fun hmode => ?_⟩
        · by_contra hne
          exact hscope (by simp [heq, hne])
        · by_contra hfile
          exact hname ⟨hmode, Bool.eq_false_of_not_eq_true hfile⟩
      exact ⟨_, if_pos htest, commitState_notReady _ _⟩
  · rw [Bool.eq_false_of_not_eq_true hwrite]
    exact ⟨_, rfl, commitState_notReady _ _⟩

variable {client : ConnectorClient}

theorem checkStatus_of_fits (h : Fits command status.capabilities.mode)
    (hclient : self.connector = some client) :
    checkStatus lib self command status = .ok client := by
  obtain ⟨hwrite, hscope, htest⟩ := h
  have hany : ¬ (requestedScope command).any (·.mode ≠ status.capabilities.mode) = true := by
    cases hcase : requestedScope command with
    | none => simp
    | some scope => simp [hscope scope hcase]
  have hname : ¬ (status.capabilities.mode = .testWrite ∧
      startsWith "IMBridge-Test-" (chatFile command) = false) := by
    rintro ⟨hmode, hfile⟩
    rw [htest hmode] at hfile
    cases hfile
  unfold checkStatus checkWrite
  rw [hwrite, if_neg (by simp), if_neg hany]
  show checkTarget lib self command.operationId (chatFile command) status = .ok client
  unfold checkTarget
  rw [if_neg hname, hclient]

theorem not_fits_statusWithoutConnector (available : Bool) :
    ¬ Fits command (self.statusWithoutConnector available).capabilities.mode := by
  rintro ⟨hwrite, -, -⟩
  unfold statusWithoutConnector at hwrite
  by_cases hmode : self.mode = .readOnly
  · simp [hmode, StWriteMode.allowsWrite] at hwrite
  · simp [hmode, StWriteMode.allowsWrite] at hwrite

/-- The checks succeed exactly when the backend admits the command, and fail with "not applied"
exactly when that is what the session failed with. -/
def GateSpec (lib : Primitives) (E : Surroundings) (self : ReqwestStBackend)
    (command : BackendCommand) (m : SoleMoment) : StResult ConnectorClient → Prop :=
  Fallible.onResult (fun _ => Admits lib E self command m) fun e =>
    ¬ Admits lib E self command m ∧ (e.commitState = .notApplied ↔ RefusedUnapplied E self m)

/-- A status that the command does not fit is refused, and nobody says that it was not applied. -/
theorem gateSpec_of_not_fits (hfits : ¬ Fits command status.capabilities.mode)
    (hadmits : ¬ Admits lib E self command m) (hrefused : ¬ RefusedUnapplied E self m) :
    GateSpec lib E self command m (checkStatus lib self command status) := by
  obtain ⟨e, he, hstate⟩ := checkStatus_of_not_fits lib self hfits
  rw [he]
  refine ⟨hadmits, fun hunapplied => ?_, fun h => absurd h hrefused⟩
  rw [hstate] at hunapplied
  cases hunapplied

/-- The checks, once the status is known. -/
theorem run_gate (h : E.run (probe lib self).run m = (.ok status, m')) :
    (E.run (gate lib self command).run m).1 = checkStatus lib self command status := by
  rw [gate_eq, run, Fallible.interpret_bind_ok _ h]
  rfl

variable (self) in
theorem not_refused_of_session (h : E m .ensureSession = .ok session) :
    ¬ RefusedUnapplied E self m := by
  simp [RefusedUnapplied, h]

/-- With a session, the status is the one by the Connector. -/
theorem run_probe_of_session (hblank : isBlank self.handle = false)
    (hsession : E m .ensureSession = .ok session) :
    E.run (probe lib self).run m =
      (.ok (E.run (connectorStatus lib self) (E.after .ensureSession m)).1,
        (E.run (connectorStatus lib self) (E.after .ensureSession m)).2) := by
  unfold probe
  rw [hblank, if_neg (by simp)]
  refine (E.run_bind m _ _).trans ?_
  rw [run_ask, show (E.handle .ensureSession m).1 = .ok session from hsession]
  exact E.run_bind _ _ _

theorem gateSpec_of_no_connector (hblank : isBlank self.handle = false)
    (hsession : E m .ensureSession = .ok session) (hnone : self.connector = none) :
    GateSpec lib E self command m (E.run (gate lib self command).run m).1 := by
  have hadmits : ¬ Admits lib E self command m := by simp [Admits, hnone]
  have hstatus : (E.run (connectorStatus lib self) (E.after .ensureSession m)).1 =
      self.statusWithoutConnector true := by
    unfold connectorStatus
    rw [hnone]
    rfl
  rw [run_gate (run_probe_of_session hblank hsession), hstatus]
  exact gateSpec_of_not_fits (not_fits_statusWithoutConnector true) hadmits
    (not_refused_of_session self hsession)

variable (command) in
/-- With a Connector, the status is the one by its handshake; without an answer, one that no command
fits. -/
theorem status_of_connector {r : StResult HandshakeResponse}
    (hclient : self.connector = some client) (hrun : E.run (client.probe lib).run m = (r, m')) :
    (∃ handshake, r = .ok handshake ∧ (E.run (connectorStatus lib self) m).1 =
        self.statusFromHandshake handshake (E m' .unixTimestamp)) ∨
      ((∃ e, r = .error e) ∧
        ¬ Fits command (E.run (connectorStatus lib self) m).1.capabilities.mode) := by
  unfold connectorStatus
  rw [hclient]
  dsimp only
  rw [E.run_bind, hrun]
  cases r with
  | ok handshake => exact .inl ⟨handshake, rfl, rfl⟩
  | error e =>
    refine .inr ⟨⟨e, rfl⟩, ?_⟩
    dsimp only
    split
    · exact not_fits_statusWithoutConnector false
    · rintro ⟨hwrite, -, -⟩
      cases hwrite

theorem gateSpec_of_connector (hblank : isBlank self.handle = false)
    (hsession : E m .ensureSession = .ok session) (hclient : self.connector = some client) :
    GateSpec lib E self command m (E.run (gate lib self command).run m).1 := by
  rw [run_gate (run_probe_of_session hblank hsession)]
  obtain ⟨r, m', hrun⟩ :
      ∃ r m', E.run (client.probe lib).run (E.after .ensureSession m) = (r, m') :=
    ⟨_, _, rfl⟩
  have hrefused := not_refused_of_session self hsession
  rcases status_of_connector command hclient hrun with
    ⟨handshake, rfl, hstatus⟩ | ⟨⟨e, rfl⟩, hfits⟩
  · rw [hstatus]
    by_cases hfits : Fits command
        (self.statusFromHandshake handshake (E m' .unixTimestamp)).capabilities.mode
    · rw [checkStatus_of_fits hfits hclient]
      exact ⟨hblank, ⟨session, hsession⟩, client, handshake, m', hclient, hrun, hfits⟩
    · refine gateSpec_of_not_fits hfits ?_ hrefused
      rintro ⟨-, -, client', handshake', m'', hclient', hrun', hfits'⟩
      obtain rfl : client = client' := Option.some.inj (hclient.symm.trans hclient')
      cases hrun.symm.trans hrun'
      exact hfits hfits'
  · refine gateSpec_of_not_fits hfits ?_ hrefused
    rintro ⟨-, -, client', handshake, m'', hclient', hrun', -⟩
    obtain rfl : client = client' := Option.some.inj (hclient.symm.trans hclient')
    cases hrun.symm.trans hrun'

/-- A session that fails is an error of the checks, unless the chat server is just not there. -/
theorem gateSpec_of_no_session {error : StBridgeError} (hblank : isBlank self.handle = false)
    (hsession : E m .ensureSession = .error error) :
    GateSpec lib E self command m (E.run (gate lib self command).run m).1 := by
  have hadmits : ¬ Admits lib E self command m := by simp [Admits, hsession]
  have hprobe : E.run (probe lib self).run m =
      (if error.code = .stConnectFailed ∨ error.code = .stRequestTimeout then
          .ok (self.statusWithoutConnector false)
        else .error error, E.after .ensureSession m) := by
    unfold probe
    rw [hblank, if_neg (by simp)]
    refine (E.run_bind m _ _).trans ?_
    rw [run_ask, show (E.handle .ensureSession m).1 = .error error from hsession]
    dsimp only
    split <;> rfl
  by_cases hcode : error.code = .stConnectFailed ∨ error.code = .stRequestTimeout
  · rw [if_pos hcode] at hprobe
    rw [run_gate hprobe]
    refine gateSpec_of_not_fits (not_fits_statusWithoutConnector false) hadmits ?_
    rintro ⟨-, error', herror', hconnect, htimeout, -⟩
    cases hsession.symm.trans herror'
    exact hcode.elim hconnect htimeout
  · rw [if_neg hcode] at hprobe
    rw [gate_eq, run, Fallible.interpret_bind_error _ hprobe]
    refine ⟨hadmits, fun hstate => ?_, ?_⟩
    · exact ⟨hblank, error, hsession, fun h => hcode (.inl h), fun h => hcode (.inr h), hstate⟩
    · rintro ⟨-, error', herror', -, -, hstate⟩
      cases hsession.symm.trans herror'
      exact hstate

variable (lib E self command) in
/-- **The outcome of the checks.** -/
theorem gate_result (m : SoleMoment) :
    GateSpec lib E self command m (E.run (gate lib self command).run m).1 := by
  cases hblank : isBlank self.handle with
  | true =>
    have hprobe : E.run (probe lib self).run m = (.ok (self.statusWithoutConnector false), m) := by
      unfold probe
      rw [hblank]
      rfl
    rw [run_gate hprobe]
    exact gateSpec_of_not_fits (not_fits_statusWithoutConnector false) (by simp [Admits, hblank])
      (by simp [RefusedUnapplied, hblank])
  | false =>
    cases hsession : E m .ensureSession with
    | error error => exact gateSpec_of_no_session hblank hsession
    | ok session =>
      cases hclient : self.connector with
      | none => exact gateSpec_of_no_connector hblank hsession hclient
      | some client => exact gateSpec_of_connector hblank hsession hclient

end Gate

/-! ## The write -/

section Write

variable {lib : Primitives} {E : Surroundings} {self : ReqwestStBackend} {command : BackendCommand}

/-- What was done stays done. -/
theorem Surroundings.hoare_did {α : Type} {P : (c : Call) → c.Reply → Prop} (p : BridgeTask α) :
    Hoare E.handle (fun m => m.Did () P) p fun _ m => m.Did () P := by
  have huses : p.Uses fun _ => True := by
    induction p with
    | ret a => trivial
    | call c k ih => exact ⟨trivial, ih⟩
  refine (hoare_of_uses huses p.ends_true fun c _ m hm => ?_).mono fun _ _ h => h.1
  exact hm.after

/-- **The outcome of a write**: the command was admitted and its mutation sent; or it was not sent,
and the error says "not applied" exactly when the command was admitted or the session had failed
so. -/
theorem hoare_write {R : SoleMoment → Prop} (hR : Enduring R) (m : SoleMoment) :
    Hoare E.handle (fun m' => m' = m ∧ R m') (write lib self command).run fun r m' =>
      (Admits lib E self command m ∧ m'.Did () (Sends command.operationId)) ∨
        (R m' ∧ ∃ e, r = .error e ∧ (e.commitState = .notApplied ↔
          Admits lib E self command m ∨ RefusedUnapplied E self m)) := by
  have hsends : ∀ request : ConnectorRequest, request.mutates = some command.operationId →
      Hoare E.handle R (do
        let sent ← ask (.http request)
        Fallible.ofExcept (ConnectorClient.verdict lib command sent) : StTask StCommitResult).run
        fun _ m' => m'.Did () (Sends command.operationId) := by
    intro request hrequest
    refine Hoare.liftBind (M := fun _ m' => m'.Did () (Sends command.operationId)) ?_ fun sent => ?_
    · exact hoare_perform fun m' _ => Moment.did_after_self hrequest
    · exact hoare_did _
  rw [write_eq]
  unfold admission
  rw [bind_assoc]
  refine Hoare.tryBind (M := fun _ m' => R m' ∧ Admits lib E self command m) ?_ fun client => ?_
  · rintro m' ⟨rfl, hm'⟩
    have hkeep := (hoare_calm (E := E) hR ((uses_gate lib self command).imp
      fun _ h => h.calm) (Program.ends_true _) m' hm').1
    have hresult := gate_result lib E self command m'
    unfold run at hresult
    generalize Program.interpret E.handle (gate lib self command).run m' = out at hkeep hresult
    obtain ⟨r, m''⟩ := out
    cases r with
    | ok client => exact ⟨hkeep, hresult⟩
    | error e =>
      obtain ⟨hadmits, hstate⟩ := hresult
      exact .inr ⟨hkeep, e, rfl, hstate.trans (or_iff_right hadmits).symm⟩
  · refine Hoare.tryBind (M := fun request m' => R m' ∧ Admits lib E self command m ∧
      request.mutates = some command.operationId) ?_ fun request => ?_
    · rintro m' ⟨hm', hadmits⟩
      have hprepared := hoare_calm (E := E) hR
        ((ConnectorClient.uses_prepare lib client _).imp fun _ h => h.calm)
        (ConnectorClient.ends_prepare_order lib client command) m' hm'
      generalize Program.interpret E.handle
        (client.prepare lib (ConnectorClient.order lib command)).run m' = out at hprepared
      obtain ⟨r, m''⟩ := out
      obtain ⟨hkeep, hends⟩ := hprepared
      cases r with
      | ok request => exact ⟨hkeep, hadmits, hends⟩
      | error e => exact .inr ⟨hkeep, e, rfl, fun _ => .inl hadmits, fun _ => hends⟩
    · rintro m' ⟨hm', hadmits, hrequest⟩
      exact .inl ⟨hadmits, hsends request hrequest m' hm'⟩

end Write

/-! ## The row around the write -/

section Row

variable {E : Surroundings} {id : String}

/-- The row of the operation waits for the outcome of a write that was not sent yet. -/
def Awaits (id : String) (m : SoleMoment) : Prop :=
  (∃ r, m.world.ledger.operation? id = some r ∧ r.status = .committing ∧
    r.commitState = .notStarted) ∧ ¬ m.Did () (Sends id)

/-- Not having sent anything survives statements. -/
theorem unaffected_not_sends : Unaffected fun m => ¬ m.Did () (Sends id) := by
  intro m c r w hc hm
  rw [Moment.did_after]
  rintro (hdid | ⟨-, hsends⟩)
  · exact hm hdid
  · rcases hc with hcalm | ⟨s, rfl⟩
    · exact hcalm.not_sends id hsends
    · cases hsends

theorem enduring_awaits : Enduring (Awaits id) :=
  (enduring_world fun w => ∃ r, w.ledger.operation? id = some r ∧ r.status = .committing ∧
    r.commitState = .notStarted).and unaffected_not_sends.enduring

/-- The rule for an update of a row that waits: it is won. -/
theorem hoare_update_of_awaits (u : OperationUpdate) (expectedFrom expectedTo : String)
    (state : OperationCommitState) (hguard : ∀ db r, r.status = .committing →
      r.commitState = .notStarted → u.guard db r = true)
    (hset : ∀ now r, (u.set now r).commitState = state) :
    Hoare E.handle (Awaits id) (applyUpdate u id expectedFrom expectedTo).run fun _ m =>
      (∃ r, m.world.ledger.operation? id = some r ∧ r.commitState = state) ∧
        ¬ m.Did () (Sends id) := by
  refine (hoare_applyUpdate u id expectedFrom expectedTo (Awaits id) (fun _ => False)
    (fun _ m => (∃ r, m.world.ledger.operation? id = some r ∧ r.commitState = state) ∧
      ¬ m.Did () (Sends id)) enduring_awaits (fun row => ?_) ?_ ?_).mono ?_
  · exact (enduring_world fun w => ∃ r, w.ledger.operation? id = some r ∧
      r.commitState = state).and unaffected_not_sends.enduring
  · rintro m now r ⟨-, hunsent⟩ hr hg
    exact ⟨⟨_, Ledger.operation?_update_of_guard hr hg, hset now r⟩,
      unaffected_not_sends.sql hunsent⟩
  · rintro m now ⟨⟨r, hr, hstatus, hstate⟩, -⟩ hlost
    have hfalse := hlost r hr
    rw [hguard _ r hstatus hstate] at hfalse
    cases hfalse
  · rintro r m (⟨row, hwon, -⟩ | ⟨hfalse, -⟩)
    · exact hwon
    · exact hfalse.elim

theorem hoare_recordUnknown :
    Hoare E.handle (Awaits id) (OperationCoordinator.recordUnknown id).run fun _ m =>
      m.world.Unknown id ∧ ¬ m.Did () (Sends id) := by
  unfold OperationCoordinator.recordUnknown
  refine Hoare.attemptBind (M := fun _ m => m.world.Unknown id ∧ ¬ m.Did () (Sends id)) ?_
    fun r => ?_
  · refine hoare_update_of_awaits .commitUnknown _ _ .unknown (fun db r hstatus hstate => ?_)
      fun _ _ => rfl
    simp [OperationUpdate.guard, hstatus, hstate]
  · cases r <;> exact hoare_ret fun _ h => h

theorem hoare_recordNotApplied (summary : String) (error : StBridgeError) :
    Hoare E.handle (Awaits id) (OperationCoordinator.recordNotApplied id summary error).run
      fun _ m => ¬ m.world.Unknown id := by
  unfold OperationCoordinator.recordNotApplied
  refine Hoare.attemptBind (M := fun _ m => ¬ m.world.Unknown id) ?_ fun r => ?_
  · refine (hoare_update_of_awaits (.failed _ _ _ _ .notApplied) _ _ .notApplied
      (fun db r hstatus hstate => ?_) fun _ _ => rfl).mono ?_
    · simp [OperationUpdate.guard, hstatus, hstate]
    · rintro _ m ⟨⟨r, hr, hstate⟩, -⟩ ⟨r', hr', hunknown⟩
      obtain rfl : r = r' := Option.some.inj (hr.symm.trans hr')
      rw [hstate] at hunknown
      cases hunknown
  · cases r <;> exact hoare_ret fun _ h => h

end Row

/-! ## The live call -/

section Live

variable {lib : Primitives} {E : Surroundings} {runtime : Runtime} {command : BackendCommand}

/-- A live call writes, unless it is a commit with an invalid fence. -/
theorem live_cases (lib : Primitives) (self : OperationCoordinator) (command : BackendCommand) :
    (∃ c e, command = .commit c ∧ c.fence.isValid = false ∧ self.live lib command = throw e) ∨
      ((∀ c, command = .commit c → c.fence.isValid = true) ∧ ∃ summaries,
        self.live lib command = self.perform lib command.operationId command summaries
          (OperationCoordinator.recordApplied lib command.operationId)) := by
  cases command with
  | createChat c => exact .inr ⟨fun _ h => (nomatch h), OperationCoordinator.createSummaries, rfl⟩
  | commit c =>
    cases hfence : c.fence.isValid with
    | false =>
      refine .inl ⟨c, unknownCommitError c.operationId, rfl, hfence, ?_⟩
      simp [OperationCoordinator.live, OperationCoordinator.commit, hfence]
    | true =>
      refine .inr ⟨fun c' h => ?_, OperationCoordinator.commitSummaries, ?_⟩
      · cases h
        exact hfence
      · simp [OperationCoordinator.live, OperationCoordinator.commit, hfence,
          BackendCommand.operationId]

/-- What a write comes to, by whether it is cleared: admitted, or refused as not applied. A cleared
write is sent, or recorded as not applied; any other one is recorded as unknown. -/
def Outcome (id : String) (cleared : Prop) (m : SoleMoment) : Prop :=
  (cleared ∧ m.Did () (Sends id)) ∨ (cleared ∧ ¬ m.world.Unknown id) ∨
    (¬ cleared ∧ m.world.Unknown id ∧ ¬ m.Did () (Sends id))

/-- What the backend has made of a command: it was sent; or it was not, and the error tells whether
it is cleared. -/
def Answered (id : String) (cleared : Prop) (r : StResult StCommitResult) (m : SoleMoment) : Prop :=
  (cleared ∧ m.Did () (Sends id)) ∨
    (Awaits id m ∧ ∃ e, r = .error e ∧ (e.commitState = .notApplied ↔ cleared))

variable {applied : StCommitResult → StTask StCommitResult}

variable {summaries : OperationCoordinator.Summaries} {id : String}

theorem hoare_recordOutcome {cleared : Prop} {r : StResult StCommitResult} :
    Hoare E.handle (Answered id cleared r)
      (OperationCoordinator.recordOutcome lib id summaries applied r).run
      fun _ => Outcome id cleared := by
  rintro m (⟨hcleared, hsent⟩ | ⟨hawaits, e, rfl, hstate⟩)
  · exact .inl ⟨hcleared, hoare_did _ m hsent⟩
  · unfold OperationCoordinator.recordOutcome
    by_cases hunapplied : e.commitState = .notApplied
    · dsimp only
      rw [if_pos hunapplied]
      exact .inr (.inl ⟨hstate.mp hunapplied, hoare_recordNotApplied _ e m hawaits⟩)
    · dsimp only
      rw [if_neg hunapplied]
      exact .inr (.inr ⟨fun h => hunapplied (hstate.mpr h), hoare_recordUnknown m hawaits⟩)

theorem awaits_invoke (h : Awaits id m) :
    Awaits id (E.after (.invoke id command) m) := by
  refine ⟨h.1, ?_⟩
  show ¬ (m.after () (.invoke id command) () m.world).Did () (Sends id)
  rw [Moment.did_after]
  rintro (hdid | ⟨-, hsends⟩)
  · exact h.2 hdid
  · cases hsends

theorem interpret_markCommitting {r : AppResult BridgeOperationRecord}
    (h : E.run (OperationStore.markCommitting id).run m = (r, m')) :
    Program.interpret E.handle (OperationCoordinator.markCommitting id).run m =
      (r.mapError (bridgeErrorFromApp id), m') := by
  unfold OperationCoordinator.markCommitting
  rw [Fallible.run_mapError, Program.interpret_bind, show Program.interpret E.handle
    (OperationStore.markCommitting id).run m = (r, m') from h]
  rfl

variable (lib runtime) in
/-- What a write comes to once its row was won. -/
theorem outcome_of_won {record : BridgeOperationRecord}
    (hwon : E.run (OperationStore.markCommitting command.operationId).run m = (.ok record, m'))
    (hawaits : Awaits command.operationId m') :
    Outcome command.operationId (Admits lib E runtime.backend command (E.atBackend command m) ∨
        RefusedUnapplied E runtime.backend (E.atBackend command m))
      (E.run ((runtime.coordinator lib).perform lib command.operationId command summaries
        applied).run m).2 := by
  have hback : E.atBackend command m = E.after (.invoke command.operationId command) m' := by
    rw [atBackend, hwon]
  have hinvoke : Hoare E.handle (fun s => s = m' ∧ Awaits command.operationId s)
      ((runtime.coordinator lib).invoke command.operationId command)
      (Answered command.operationId (Admits lib E runtime.backend command (E.atBackend command m) ∨
        RefusedUnapplied E runtime.backend (E.atBackend command m))) := by
    refine Hoare.bind (M := fun _ s => s = E.atBackend command m ∧ Awaits command.operationId s) ?_
      fun _ => (hoare_write enduring_awaits _).mono fun r s hs =>
        hs.imp (And.imp_left .inl) id
    refine hoare_perform fun s hs => ?_
    obtain ⟨rfl, hs⟩ := hs
    exact ⟨hback.symm, awaits_invoke hs⟩
  unfold run OperationCoordinator.perform
  rw [Fallible.interpret_bind_ok _ (interpret_markCommitting hwon)]
  exact hinvoke.liftBind (fun r => hoare_recordOutcome) m' ⟨rfl, hawaits⟩

theorem run_perform_of_lost {e : AppError}
    (hlost : E.run (OperationStore.markCommitting command.operationId).run m = (.error e, m')) :
    (E.run ((runtime.coordinator lib).perform lib command.operationId command summaries
      applied).run m).2 = m' := by
  unfold run OperationCoordinator.perform
  rw [Fallible.interpret_bind_error _ (interpret_markCommitting hlost)]

/-- **Exactly when an unknown write was sent**: a live call records its operation as unknown without
having sent the mutation exactly if it gets as far as the backend, and the backend neither admits
the command nor meets a session that failed as "not applied". -/
theorem unknown_only_if_sent_iff (lib : Primitives) (E : Surroundings) (w : World)
    (runtime : Runtime) (command : BackendCommand) :
    UnknownOnlyIfSent w command.operationId
        (E.run ((runtime.coordinator lib).live lib command).run ⟨w, []⟩).2 ↔
      (Reaches w command →
        Admits lib E runtime.backend command (E.atBackend command ⟨w, []⟩) ∨
          RefusedUnapplied E runtime.backend (E.atBackend command ⟨w, []⟩)) := by
  rcases live_cases lib (runtime.coordinator lib) command with
    ⟨c, e, rfl, hfence, hlive⟩ | ⟨hfence, summaries, hlive⟩
  · -- the call ends before it does anything
    rw [hlive]
    refine ⟨fun _ hreaches => ?_, fun _ hunknown => .inl hunknown⟩
    rw [hreaches.1 c rfl] at hfence
    cases hfence
  · rw [hlive]
    have hsilent : ¬ (⟨w, []⟩ : SoleMoment).Did () (Sends command.operationId) := by
      rintro ⟨e, he, -⟩
      cases he
    have hmark := hoare_markCommitting (E := E) command.operationId w
      unaffected_not_sends ⟨w, []⟩ ⟨rfl, hsilent⟩
    obtain ⟨r, m', hrun⟩ : ∃ r m', E.run
        (OperationStore.markCommitting command.operationId).run ⟨w, []⟩ = (r, m') := ⟨_, _, rfl⟩
    unfold run at hrun
    rw [hrun] at hmark
    cases r with
    | error e =>
      rw [run_perform_of_lost hrun]
      refine ⟨fun _ hreaches => absurd hreaches.2 hmark.1, fun _ hunknown => .inl ?_⟩
      obtain ⟨r', hr', hstate⟩ := hunknown
      obtain ⟨r, hr, hsame⟩ := hmark.2 r' hr'
      exact ⟨r, hr, hsame.symm.trans hstate⟩
    | ok record =>
      obtain ⟨hwinnable, hawaits⟩ := hmark
      have hbefore : ¬ w.Unknown command.operationId := by
        rintro ⟨r, hr, hunknown⟩
        obtain ⟨r', hr', -, hstate, -⟩ := hwinnable
        obtain rfl : r = r' := Option.some.inj (hr.symm.trans hr')
        rw [hstate] at hunknown
        cases hunknown
      rcases outcome_of_won lib runtime hrun hawaits with
        ⟨hcleared, hsent⟩ | ⟨hcleared, hknown⟩ | ⟨hrefused, hunknown, hunsent⟩
      · exact ⟨fun _ _ => hcleared, fun _ _ => .inr hsent⟩
      · exact ⟨fun _ _ => hcleared, fun _ hunknown => absurd hunknown hknown⟩
      · refine ⟨fun h => absurd (h hunknown) ?_, fun h => absurd (h ⟨hfence, hwinnable⟩) hrefused⟩
        rintro (h | h)
        · exact hbefore h
        · exact hunsent h

/-- The row of the operation records it as unknown. -/
def World.isUnknown (w : World) (id : String) : Bool :=
  (w.ledger.operation? id).any (·.commitState == .unknown)

theorem World.isUnknown_iff {w : World} : w.isUnknown id = true ↔ w.Unknown id := by
  simp [World.isUnknown, World.Unknown, Option.any_eq_true]

/-- A run after which an operation is unknown that was not so before, and whose mutation was not
sent. -/
theorem not_unknownOnlyIfSent {w : World} (hbefore : w.isUnknown id = false)
    (hafter : m.world.isUnknown id = true)
    (hunsent : m.trace.all (fun e => e.call.mutation? != some id) = true) :
    ¬ UnknownOnlyIfSent w id m := by
  intro h
  rcases h (World.isUnknown_iff.mp hafter) with hunknown | ⟨e, he, -, hsends⟩
  · rw [World.isUnknown_iff.mpr hunknown] at hbefore
    cases hbefore
  · have hne := List.all_eq_true.mp hunsent e he
    rw [show Call.mutation? e.call = some id from hsends] at hne
    simp at hne

/-- Surroundings with a session, and a Connector that is ready to write. -/
def readySurroundings : Surroundings := fun m c =>
  (serve (answering readyAnswer) c m.world).1

/-- The world in which the sample operation is generated. -/
def generatedWorld : World :=
  Pool.runInTurn (OperationCall.body Primitives.plain) (serve (answering readyAnswer))
    .start Sample.prepare

/-- A backend whose configured mode does not write. -/
def disabledRuntime : Runtime := ⟨{ Sample.backend with mode := .disabled }, none, none⟩

/-- **A refused write is recorded as unknown**: the configured mode does not write, so that nothing
is sent, and yet the operation is recorded as unknown. -/
theorem disabled_backend_unknown :
    ¬ UnknownOnlyIfSent generatedWorld "op-1"
      (readySurroundings.run ((disabledRuntime.coordinator readyLibrary).live
        readyLibrary (.commit ⟨"op-1", Sample.locator, "sha", "integrity",
          Sample.mutation, Sample.fence⟩)).run ⟨generatedWorld, []⟩).2 := by
  refine not_unknownOnlyIfSent ?_ ?_ ?_
  · decide +kernel
  · decide +kernel
  · decide +kernel

end Live

end ImBridge
