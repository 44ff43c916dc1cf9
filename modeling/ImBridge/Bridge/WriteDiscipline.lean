import ImBridge.Bridge.Interleavings

/-!
# The discipline of the writes

A row is won once, by moving it from `generated` to `committing`, and only the winner invokes the
backend for it and sends its mutation. This is the invariant `WriteOnce`; it holds whatever the
surroundings do.

Under a condition on the steps of a run more can be said. When the Connector says that a mutation
was not applied only if it was not (`Candid`), the row of a mutation that it has received or applied
waits for its outcome or records it (`Truthful`). The one discipline serves both: its second part is
asked for only if the condition is candid.

## Main definitions

* `OperationCall.Legit`, `EarlyFailure`, `Candid`, `Prompt`: the conditions on the steps of a run
* `WriteOnce`, `Truthful`: the invariants
* `MayWrite`, `MayRecord`: the calls that an agent may make
* `writeDiscipline`: the discipline

## Main results

* `WriteOnce.keep`, `Truthful.keep`: permitted calls keep the invariants
* `WriteOnce.wins_of_mutation`: who sends a mutation has won its row
* `steady_settled`, `steady_clear`, `steady_notApplied`, `steady_applied`: what the winner of a row
  can rely on
-/

namespace ImBridge

open Interleaving

/-! ## Conditions on the steps of a run -/

/-- The functions of the store that come before a write or after its record. -/
def StoreCall.IsEarly : StoreCall → Bool
  | markCommitting _ | markCommittedWithState .. | markConflict .. | markFailedWithState ..
  | markCommitUnknown _ => false
  | _ => true

/-- The row of an operation is moved through its write by the coordinator only. -/
def OperationCall.Legit (lib : Primitives) : OperationCall → Prop
  | store call => call.IsEarly = true
  | j => j.Addressed lib

theorem OperationCall.Legit.addressed {lib : Primitives} {j : OperationCall} (h : j.Legit lib) :
    j.Addressed lib := by
  cases j with
  | store call => trivial
  | _ => exact h

/-- The call is one of the live path. -/
def OperationCall.IsLive : OperationCall → Bool
  | commit .. | create .. => true
  | _ => false

/-- A condition on the steps of a run. -/
abbrev StepCondition := Agent → BridgeMoment → (c : Call) → c.Reply → World → Prop

/-- A failed generation is settled only while no write of its operation is under way. -/
def EarlyFailure (a : Agent) (m : BridgeMoment) (c : Call) : Prop :=
  ∀ u id now, c = .sql (.updateOperation u id now) → a.2.settles? = some id → m.world.Unwritten id

/-- The condition rules out all calls but the legitimate ones, failed generations of operations that
are being written, and an answer to a mutation that says it was not applied when it is on its way or
applied. -/
structure Candid (lib : Primitives) (cond : StepCondition) : Prop where
  legit : ∀ a m c r w, cond a m c r w → a.2.Legit lib
  early : ∀ a m c r w, cond a m c r w → EarlyFailure a m c
  answer : ∀ a m request response w id, cond a m (.http request) (.ok response) w →
    request.mutates = some id → response.SaysNotApplied lib → w.Clear id

/-- The condition also rules out a journal that claims an application that was not, and a live call
that finds its row neither generated nor ended, or cannot move it for a fault of the storage. -/
structure Prompt (cond : StepCondition) : Prop where
  journal : ∀ a m id journal w, cond a m (.journalLookup id) (.ok (some journal)) w →
    journal.status = .applied → m.world.connector journal.operationId = .applied
  live : ∀ a m id now (r : Except SqlError ℕ) w, a.2.IsLive = true →
    cond a m (.sql (.updateOperation .committing id now)) r w →
      m.world.Dead id ∨ ∃ row, m.world.ledger.operation? id = some row ∧
        row.status = .generated ∧ r ≠ .error .other

/-! ## The invariants -/

/-- Which mutation an agent sends. -/
def Sends (id : String) (c : Call) (_ : c.Reply) : Prop := c.mutation? = some id

/-- The backend is invoked so. -/
def Invokes (id : String) (command : BackendCommand) (c : Call) (_ : c.Reply) : Prop :=
  c = .invoke id command

/-- **Every row is won once, and written by its winner only.** -/
structure WriteOnce (lib : Primitives) (m : BridgeMoment) : Prop where
  winner : ∀ id t u, m.Did t (Wins id) → m.Did u (Wins id) → t = u
  past : ∀ id t, m.Did t (Wins id) → m.world.Past id
  invoked : ∀ id command t, m.Did t (Invokes id command) →
    m.Did t (Wins id) ∧ t.2.writes? = some id ∧ (t.2.Addressed lib → command.operationId = id)
  sent : ∀ id t, m.Did t (Sends id) →
    ∃ id' command, m.Did t (Invokes id' command) ∧ command.operationId = id
  invokedOnce : m.EachOnce fun c => Call.isInvoke c = true
  sentOnce : m.EachOnce fun c => Call.isMutation c = true

/-- **What the Connector has, the ledger accounts for.** -/
structure Truthful (lib : Primitives) (m : BridgeMoment) : Prop where
  legit : ∀ e ∈ m.trace, e.agent.2.Legit lib
  consistent : m.world.ledger.Consistent
  sent : ∀ id, m.world.connector id ≠ .idle → ∃ t, m.Did t (Sends id)
  settled : ∀ id, m.world.connector id = .received ∨ m.world.connector id = .applied →
    m.world.Settled id

/-! ## The permitted calls -/

/-- Statements keep the ledger consistent; the backend is invoked by the winner of the row, once;
and a mutation is sent for what the backend was invoked with, once. -/
def MayWrite (lib : Primitives) (t : Agent) (m : BridgeMoment) : Call → Prop
  | .sql s => s.Permitted
  | .invoke id command => m.Did t (Wins id) ∧ (¬ m.Did t fun c _ => Call.isInvoke c = true) ∧
      t.2.writes? = some id ∧ (t.2.Addressed lib → command.operationId = id)
  | .http request => ∀ id, request.mutates = some id →
      (¬ m.Did t fun c _ => Call.isMutation c = true) ∧
        ∃ id' command, m.Did t (Invokes id' command) ∧ command.operationId = id
  | _ => True

/-- A failure is that of a generation, or is recorded by the winner when the Connector has nothing
to apply; a mutation is sent
while the row waits for its outcome; and under a prompt condition a write is recorded by the winner,
or when it was applied. -/
def MayRecord (cond : StepCondition) (t : Agent) (m : BridgeMoment) : Call → Prop
  | .sql (.updateOperation (.conflict _) _ _) => False
  | .sql (.updateOperation (.failed _ _ _ _ state) id _) =>
      (t.2.settles? = some id ∧ state ≠ .applied) ∨ (m.Did t (Wins id) ∧ m.world.Clear id)
  | .sql (.updateOperation (.committed ..) id _) =>
      Prompt cond → m.Did t (Wins id) ∨ m.world.connector id = .applied
  | .http request => ∀ id, request.mutates = some id → m.world.Settled id
  | _ => True

theorem Call.Calm.mayWrite {lib : Primitives} {t : Agent} {m : BridgeMoment} {c : Call}
    (hc : c.Calm) : MayWrite lib t m c := by
  cases c with
  | sql s => cases s <;> trivial
  | http request =>
    intro id hid
    rw [show request.mutates = none from hc] at hid
    cases hid
  | invoke id command => exact hc.elim
  | _ => trivial

theorem Call.Calm.mayRecord {cond : StepCondition} {t : Agent} {m : BridgeMoment} {c : Call}
    (hc : c.Calm) : MayRecord cond t m c := by
  cases c with
  | sql s => cases s <;> trivial
  | http request =>
    intro id hid
    rw [show request.mutates = none from hc] at hid
    cases hid
  | _ => trivial

/-! ## Preservation of `WriteOnce` -/

variable {id : String}

section WriteOnce

variable {lib : Primitives} {m : BridgeMoment} {t : Agent} {c : Call} {r : c.Reply} {w : World}

/-- A row is won only if nobody has won it before. -/
theorem WriteOnce.first_win (h : WriteOnce lib m) (hwins : Wins id c r) (he : Effect m.world c r w)
    (u : Agent) : ¬ m.Did u (Wins id) := by
  intro hu
  cases hwins with
  | intro now =>
    -- a won row is past `generated`, which the guard asks for
    obtain ⟨row, hrow, hg, -⟩ := Effect.update_won he
    obtain ⟨row', hrow', hpast⟩ := h.past id u hu
    rw [hrow] at hrow'
    cases hrow'
    simp only [OperationUpdate.guard, Bool.and_eq_true, beq_iff_eq] at hg
    rw [hg.1] at hpast
    cases hpast

theorem Wins.past_after (hwins : Wins id c r) (he : Effect m.world c r w) : w.Past id := by
  cases hwins with
  | intro now =>
    obtain ⟨row, -, -, hrow⟩ := Effect.update_won he
    exact ⟨_, hrow, rfl⟩

theorem Call.isInvoke_of_invokes {command : BackendCommand} (h : Invokes id command c r) :
    c.isInvoke = true := by
  rw [show c = .invoke id command from h]
  rfl

theorem Call.isMutation_of_sends (h : Sends id c r) : c.isMutation = true := by
  rw [Call.isMutation, show c.mutation? = some id from h]
  rfl

/-- **Permitted calls keep the writes unique.** -/
theorem WriteOnce.keep (h : WriteOnce lib m) (hmay : MayWrite lib t m c)
    (he : Effect m.world c r w) : WriteOnce lib (m.after t c r w) := by
  constructor
  · intro id u v hu hv
    rw [Moment.did_after] at hu hv
    rcases hu with hu | ⟨rfl, hu⟩ <;> rcases hv with hv | ⟨rfl, hv⟩
    · exact h.winner id u v hu hv
    · exact absurd hu (h.first_win hv he u)
    · exact absurd hv (h.first_win hu he v)
    · rfl
  · intro id u hu
    rw [Moment.did_after] at hu
    rcases hu with hu | ⟨rfl, hu⟩
    · exact he.past (h.past id u hu)
    · exact hu.past_after he
  · intro id command u hu
    rw [Moment.did_after] at hu
    rcases hu with hu | ⟨rfl, hu⟩
    · obtain ⟨hwins, hrest⟩ := h.invoked id command u hu
      exact ⟨hwins.after, hrest⟩
    · obtain rfl : c = .invoke id command := hu
      obtain ⟨hwins, -, hrest⟩ := hmay
      exact ⟨hwins.after, hrest⟩
  · intro id u hu
    rw [Moment.did_after] at hu
    rcases hu with hu | ⟨rfl, hu⟩
    · obtain ⟨id', command, hinvoked, hcommand⟩ := h.sent id u hu
      exact ⟨id', command, hinvoked.after, hcommand⟩
    · cases c with
      | http request =>
        obtain ⟨-, id', command, hinvoked, hcommand⟩ := hmay id hu
        exact ⟨id', command, hinvoked.after, hcommand⟩
      | _ => cases hu
  · refine h.invokedOnce.after fun hc => ?_
    cases c with
    | invoke id command => exact hmay.2.1
    | _ => cases hc
  · refine h.sentOnce.after fun hc => ?_
    cases c with
    | http request =>
      obtain ⟨id, hid⟩ := Option.isSome_iff_exists.mp hc
      exact (hmay id hid).1
    | _ => cases hc

/-- Who sends a mutation has won its row, if the command is addressed to its own operation. -/
theorem WriteOnce.wins_of_mutation (h : WriteOnce lib m) {id id' : String} {u : Agent}
    {command : BackendCommand} (hu : u.2.Addressed lib) (hinvoked : m.Did u (Invokes id' command))
    (hcommand : command.operationId = id) : m.Did u (Wins id) := by
  obtain ⟨hwins, -, haddressed⟩ := h.invoked id' command u hinvoked
  rw [← hcommand, haddressed hu]
  exact hwins

theorem WriteOnce.drifted (h : WriteOnce lib m) (hd : Drift m.world w) :
    WriteOnce lib (m.drifted w) := by
  refine ⟨h.winner, fun id u hu => ?_, h.invoked, h.sent, h.invokedOnce, h.sentOnce⟩
  obtain ⟨row, hrow, hpast⟩ := h.past id u hu
  refine ⟨row, ?_, hpast⟩
  rw [← hrow]
  exact congrArg (·.operation? id) hd.ledger

end WriteOnce

/-! ## Preservation of `Truthful` -/

section Truthful

variable {lib : Primitives} {cond : StepCondition} {m : BridgeMoment} {t : Agent} {c : Call}
  {r : c.Reply} {w : World}

/-- A row that the Connector may apply a mutation for is not failed by a permitted call. -/
theorem MayRecord.settled (hmay : MayRecord cond t m c) (he : Effect m.world c r w)
    (hearly : EarlyFailure t m c) (hsettled : m.world.Settled id)
    (hfailed : m.Did t (Wins id) → ¬ m.world.Clear id) : w.Settled id := by
  refine he.settled hsettled ?_ ?_
  · rintro summary now rfl
    exact hmay
  · rintro stage code summary retryable state now rfl
    rcases hmay with ⟨hsettles, -⟩ | ⟨hwins, hclear⟩
    · exact hearly _ id now rfl hsettles
    · exact absurd hclear (hfailed hwins)

theorem World.not_clear (h : w.connector id = .received ∨ w.connector id = .applied) :
    ¬ w.Clear id := by
  rintro (hc | hc) <;> rw [hc] at h <;> simp at h

/-- **Permitted calls of a candid run keep the ledger truthful.** -/
theorem Truthful.keep (h : Truthful lib m) (hlegit : t.2.Legit lib) (hearly : EarlyFailure t m c)
    (hwrite : MayWrite lib t m c) (hrecord : MayRecord cond t m c) (he : Effect m.world c r w) :
    Truthful lib (m.after t c r w) := by
  constructor
  · exact List.forall_mem_append.mpr ⟨h.legit, List.forall_mem_singleton.mpr hlegit⟩
  · show w.ledger.Consistent
    rcases he.ledger with ⟨s, rfl, hw⟩ | hw
    · rw [hw]
      exact h.consistent.exec hwrite
    · rw [hw]
      exact h.consistent
  · intro id hid
    by_cases hc : c.mutation? = some id
    · exact ⟨t, Moment.did_after_self hc⟩
    · have hsame := he.connector_of_ne hc
      obtain ⟨u, hu⟩ := h.sent id fun hidle => hid (hsame.trans hidle)
      exact ⟨u, hu.after⟩
  · intro id hid
    by_cases hc : c.mutation? = some id
    · -- the mutation was sent while its row was waiting, and sending it does not touch the row
      cases c with
      | http request =>
        refine he.settled (hrecord id hc) ?_ ?_
        · exact fun _ _ hne => by cases hne
        · exact fun _ _ _ _ _ _ hne => by cases hne
      | _ => cases hc
    · have hsame := he.connector_of_ne hc
      have hold : m.world.connector id = .received ∨ m.world.connector id = .applied := by
        rw [← hsame]
        exact hid
      exact hrecord.settled he hearly (h.settled id hold) fun _ => World.not_clear hold

theorem World.Settled.of_ledger {w' : World} (h : w.Settled id) (hw : w'.ledger = w.ledger) :
    w'.Settled id := by
  rw [World.Settled, hw]
  exact h

theorem Truthful.drifted (h : Truthful lib m) (hd : Drift m.world w) :
    Truthful lib (m.drifted w) := by
  refine ⟨h.legit, ?_, fun id hid => ?_, fun id hid => ?_⟩
  · show w.ledger.Consistent
    rw [hd.ledger]
    exact h.consistent
  · rcases hd.connector id with hsame | ⟨hreceived, -⟩
    · exact h.sent id fun hidle => hid (hsame.trans hidle)
    · exact h.sent id (by simp [hreceived])
  · have hsettled : m.world.Settled id := by
      rcases hd.connector id with hsame | ⟨hreceived, -⟩
      · refine h.settled id ?_
        rw [← hsame]
        exact hid
      · exact h.settled id (.inl hreceived)
    exact hsettled.of_ledger hd.ledger

end Truthful

/-! ## The discipline -/

/-- **The discipline of the writes**, for runs whose steps satisfy a condition. -/
def writeDiscipline (lib : Primitives) (cond : StepCondition) :
    Discipline ((bridgeSemantics Agent).restrict cond) where
  inv m := WriteOnce lib m ∧ (Candid lib cond → Truthful lib m)
  may t m c := MayWrite lib t m c ∧ (Candid lib cond → t.2.Legit lib → MayRecord cond t m c)
  keep t m c r w hinv hmay he := by
    refine ⟨hinv.1.keep hmay.1 he.1, fun hcandid => ?_⟩
    have hlegit := hcandid.legit t m c r w he.2
    exact (hinv.2 hcandid).keep hlegit (hcandid.early t m c r w he.2) hmay.1
      (hmay.2 hcandid hlegit) he.1
  keep_drift m w hinv hd :=
    ⟨hinv.1.drifted hd, fun hcandid => (hinv.2 hcandid).drifted hd⟩

section Discipline

variable {lib : Primitives} {cond : StepCondition} {t : Agent} {id : String}

theorem permits_calm : (writeDiscipline lib cond).Permits Call.Calm where
  may _ _ _ hc := ⟨hc.mayWrite, fun _ _ => hc.mayRecord⟩
  world _ _ _ _ _ hc he := he.1.of_calm hc

/-- The invariant at the start of a run. -/
theorem writeDiscipline_start (w : World)
    (hw : Candid lib cond → w.ledger.Consistent ∧ ∀ id, w.connector id = .idle) :
    (writeDiscipline lib cond).inv ⟨w, []⟩ := by
  have hnone : ∀ (t : Agent) (P : (c : Call) → c.Reply → Prop),
      ¬ (⟨w, []⟩ : BridgeMoment).Did t P := by
    rintro t P ⟨e, he, -⟩
    cases he
  refine ⟨?_, fun hcandid => ?_⟩
  · constructor
    · exact fun id t u ht => absurd ht (hnone t _)
    · exact fun id t ht => absurd ht (hnone t _)
    · exact fun id command t ht => absurd ht (hnone t _)
    · exact fun id t ht => absurd ht (hnone t _)
    · exact List.Pairwise.nil
    · exact List.Pairwise.nil
  · obtain ⟨hconsistent, hidle⟩ := hw hcandid
    refine ⟨fun e he => absurd he List.not_mem_nil, hconsistent, fun id hid => ?_, fun id hid => ?_⟩
    · exact absurd (hidle id) hid
    · rw [show (⟨w, []⟩ : BridgeMoment).world.connector id = .idle from hidle id] at hid
      simp at hid

variable {m : BridgeMoment} (hinv : (writeDiscipline lib cond).inv m)
include hinv

/-- What the winner has not sent, the Connector has not got. -/
theorem idle_of_unsent (hcandid : Candid lib cond) (hwins : m.Did t (Wins id))
    (hunsent : ¬ m.Did t fun c _ => Call.isMutation c = true) : m.world.connector id = .idle := by
  by_contra hne
  obtain ⟨u, hu⟩ := (hinv.2 hcandid).sent id hne
  -- whoever sent it has won the row, and so is the winner
  have hlegit : u.2.Legit lib := by
    obtain ⟨e, he, heu, -⟩ := hu
    rw [← heu]
    exact (hinv.2 hcandid).legit e he
  obtain ⟨id', command, hinvoked, hcommand⟩ := hinv.1.sent id u hu
  have hwon := hinv.1.wins_of_mutation hlegit.addressed hinvoked hcommand
  obtain rfl := hinv.1.winner id t u hwins hwon
  exact hunsent (hu.imp fun c r hsends => Call.isMutation_of_sends hsends)

/-! ## Steady assertions -/

/-- An agent that sends the mutation of an operation has won it, in a candid run. -/
theorem wins_of_sends {u : Agent} {c : Call} (hmay : (writeDiscipline lib cond).may u m c)
    (hlegit : u.2.Legit lib) (hc : c.mutation? = some id) :
    m.Did u (Wins id) ∧ ¬ m.Did u fun c _ => Call.isMutation c = true := by
  cases c with
  | http request =>
    obtain ⟨hunsent, id', command, hinvoked, hcommand⟩ := hmay.1 id hc
    exact ⟨hinv.1.wins_of_mutation hlegit.addressed hinvoked hcommand, hunsent⟩
  | _ => cases hc

omit hinv

theorem steady_dead : (writeDiscipline lib cond).Steady Call.Calm t fun m => m.world.Dead id := by
  refine ⟨fun m m' ho hm => ?_, fun m c r hc hm => hm⟩
  cases ho with
  | call u c r w hu hinv hmay he => exact he.1.dead hm
  | drift w hinv hd =>
    show w.Dead id
    rw [World.Dead, hd.ledger]
    exact hm

theorem steady_confirmed {json : String} :
    (writeDiscipline lib cond).Steady Call.Calm t fun m => m.world.Confirmed id json := by
  refine ⟨fun m m' ho hm => ?_, fun m c r hc hm => hm⟩
  cases ho with
  | call u c r w hu hinv hmay he => exact he.1.confirmed hm
  | drift w hinv hd =>
    show w.Confirmed id json
    rw [World.Confirmed, hd.ledger]
    exact hm

variable (hcandid : Candid lib cond)
include hcandid

/-- The row that an agent has won waits for its outcome until the agent fails it. -/
theorem steady_settled :
    (writeDiscipline lib cond).Steady Call.Calm t
      fun m => m.Did t (Wins id) ∧ m.world.Settled id := by
  refine ⟨fun m m' ho hm => ?_, fun m c r hc hm => ⟨hm.1.after, hm.2⟩⟩
  obtain ⟨hwins, hsettled⟩ := hm
  cases ho with
  | call u c r w hu hinv hmay he =>
    refine ⟨hwins.after, ?_⟩
    have hrecord := hmay.2 hcandid (hcandid.legit _ _ _ _ _ he.2)
    exact hrecord.settled he.1 (hcandid.early _ _ _ _ _ he.2) hsettled fun hwon =>
      absurd (hinv.1.winner id u t hwon hwins) hu
  | drift w hinv hd => exact ⟨hwins, hsettled.of_ledger hd.ledger⟩

theorem clear_of_other {m m' : BridgeMoment} (ho : (writeDiscipline lib cond).Other t m m')
    (hwins : m.Did t (Wins id)) (hclear : m.world.Clear id) : m'.world.Clear id := by
  cases ho with
  | call u c r w hu hinv hmay he =>
    have hne : c.mutation? ≠ some id := by
      intro hc
      have hwon := (wins_of_sends hinv hmay (hcandid.legit _ _ _ _ _ he.2) hc).1
      exact hu (hinv.1.winner id u t hwon hwins)
    show w.Clear id
    rw [World.Clear, he.1.connector_of_ne hne]
    exact hclear
  | drift w hinv hd => exact Drift.clear hd hclear

/-- What the Connector has refused, or has not got from the winner, it does not apply later. -/
theorem steady_clear :
    (writeDiscipline lib cond).Steady Call.Calm t
      fun m => m.Did t (Wins id) ∧ m.world.Clear id :=
  ⟨fun m m' ho hm => ⟨Discipline.stable_did m m' ho hm.1, clear_of_other hcandid ho hm.1 hm.2⟩,
    fun _ _ _ _ hm => ⟨hm.1.after, hm.2⟩⟩

theorem steady_notApplied (hprompt : Prompt cond) :
    (writeDiscipline lib cond).Steady Call.Calm t
      fun m => m.Did t (Wins id) ∧ m.world.Clear id ∧ m.world.NotApplied id := by
  refine ⟨fun m m' ho hm => ?_, fun m c r hc hm => ⟨hm.1.after, hm.2⟩⟩
  obtain ⟨hwins, hclear, hnot⟩ := hm
  refine ⟨Discipline.stable_did m m' ho hwins, clear_of_other hcandid ho hwins hclear, ?_⟩
  cases ho with
  | call u c r w hu hinv hmay he =>
    have hrecord := hmay.2 hcandid (hcandid.legit _ _ _ _ _ he.2)
    have hother : ¬ m.Did u (Wins id) := fun hwon => hu (hinv.1.winner id u t hwon hwins)
    refine he.1.notApplied hnot ?_ ?_
    · rintro json expected now rfl
      rcases hrecord hprompt with hwon | happlied
      · exact hother hwon
      · exact World.not_clear (.inr happlied) hclear
    · rintro stage code summary retryable now rfl
      rcases hrecord with ⟨-, hstate⟩ | ⟨hwon, -⟩
      · exact hstate rfl
      · exact hother hwon
  | drift w hinv hd =>
    show w.NotApplied id
    rw [World.NotApplied, hd.ledger]
    exact hnot

/-- An applied mutation stays applied. -/
theorem steady_applied :
    (writeDiscipline lib cond).Steady Call.Calm t
      fun m => m.world.connector id = .applied := by
  refine ⟨fun m m' ho hm => ?_, fun m c r hc hm => hm⟩
  cases ho with
  | call u c r w hu hinv hmay he =>
    have hne : c.mutation? ≠ some id := by
      intro hc
      obtain ⟨hwon, hunsent⟩ := wins_of_sends hinv hmay (hcandid.legit _ _ _ _ _ he.2) hc
      rw [idle_of_unsent hinv hcandid hwon hunsent] at hm
      cases hm
    exact (he.1.connector_of_ne hne).trans hm
  | drift w hinv hd =>
    rcases Drift.connector hd id with hsame | ⟨hreceived, -⟩
    · exact hsame.trans hm
    · rw [hm] at hreceived
      cases hreceived

end Discipline

end ImBridge
