import ImBridge.Bridge.WriteSpecs

/-!
# At most one write

Over any interleaving of the calls on operations, with tasks lost and started again at any point,
the backend is invoked at most once for an operation, and the Connector gets at most one mutation
request for it, whatever it answers.

## Main results

* `at_most_once_write`: at most one invocation and one request per operation
-/

namespace ImBridge

open Interleaving

section Count

variable {lib : Primitives} {m : BridgeMoment}

theorem invokes_of_call {id : String} {c : Call} {r : c.Reply} (h : c.invokes id = true) :
    ∃ command, Invokes id command c r := by
  cases c with
  | invoke id' command =>
    obtain rfl : id' = id := by simpa [Call.invokes] using h
    exact ⟨command, rfl⟩
  | _ => cases h

variable (h : WriteOnce lib m)
include h

/-- An agent that sends a mutation was invoked with a command for it. -/
theorem WriteOnce.invoked_of_isMutation {e : Event bridgeCalls Agent} (he : e ∈ m.trace)
    (hc : Call.isMutation e.call = true) :
    ∃ id command, m.Did e.agent (Invokes id command) ∧
      Call.mutation? e.call = some command.operationId := by
  obtain ⟨id, hid⟩ := Option.isSome_iff_exists.mp hc
  obtain ⟨id', command, hinvoked, hcommand⟩ := h.sent id e.agent ⟨e, he, rfl, hid⟩
  refine ⟨id', command, hinvoked, ?_⟩
  rw [hcommand]
  exact hid

theorem WriteOnce.count_invokes (id : String) :
    m.trace.countP (fun e => Call.invokes id e.call) ≤ 1 := by
  have hwins : ∀ e ∈ m.trace, Call.invokes id e.call = true → m.Did e.agent (Wins id) := by
    intro e he hc
    obtain ⟨command, hinvokes⟩ := invokes_of_call (r := e.reply) hc
    exact (h.invoked id command e.agent ⟨e, he, rfl, hinvokes⟩).1
  refine h.invokedOnce.countP_le_one ?_ ?_
  · intro e _ hc
    obtain ⟨command, hinvokes⟩ := invokes_of_call (r := e.reply) hc
    exact Call.isInvoke_of_invokes hinvokes
  · intro e he e' he' hc hc'
    exact h.winner id _ _ (hwins e he hc) (hwins e' he' hc')

/-- The calls on one operation send one mutation between them. -/
theorem WriteOnce.count_requests (id : String) :
    m.trace.countP (fun e => e.agent.2.writes? == some id && Call.isMutation e.call) ≤ 1 := by
  have hwins : ∀ e ∈ m.trace, (e.agent.2.writes? == some id && Call.isMutation e.call) = true →
      m.Did e.agent (Wins id) := by
    intro e he hp
    rw [Bool.and_eq_true, beq_iff_eq] at hp
    obtain ⟨id', command, hinvoked, -⟩ := h.invoked_of_isMutation he hp.2
    obtain ⟨hwon, hwrites, -⟩ := h.invoked id' command e.agent hinvoked
    rw [hp.1] at hwrites
    rw [Option.some.inj hwrites]
    exact hwon
  refine h.sentOnce.countP_le_one ?_ ?_
  · intro e _ hp
    rw [Bool.and_eq_true] at hp
    exact hp.2
  · intro e he e' he' hp hp'
    exact h.winner id _ _ (hwins e he hp) (hwins e' he' hp')

/-- The Connector gets one mutation for an operation, if commands are addressed to their own. -/
theorem WriteOnce.count_mutations (haddressed : ∀ e ∈ m.trace, e.agent.2.Addressed lib)
    (id : String) :
    m.trace.countP (fun e => Call.mutation? e.call == some id) ≤ 1 := by
  have hwins : ∀ e ∈ m.trace, (Call.mutation? e.call == some id) = true →
      m.Did e.agent (Wins id) := by
    intro e he hp
    rw [beq_iff_eq] at hp
    obtain ⟨id', command, hinvoked, hcommand⟩ := h.sent id e.agent ⟨e, he, rfl, hp⟩
    exact h.wins_of_mutation (haddressed e he) hinvoked hcommand
  refine h.sentOnce.countP_le_one ?_ ?_
  · intro e _ hp
    rw [beq_iff_eq] at hp
    exact Call.isMutation_of_sends (r := e.reply) hp
  · intro e he e' he' hp hp'
    exact h.winner id _ _ (hwins e he hp) (hwins e' he' hp')

end Count

/-- **At most one write**: in every interleaving, from any state, the backend is invoked at most
once for an operation; a call sends no more mutation requests than it makes invocations; the calls
on one operation send at most one between them; and the Connector gets at most one that names the
operation, if replays of created chats are addressed to the operation they are stored with. -/
theorem at_most_once_write {lib : Primitives} {w : World}
    {P : Pool bridgeCalls World OperationCall.Out}
    (h : Pool.Reachable (bridgeSemantics Agent) (OperationCall.body lib) w P) :
    (∀ id, P.moment.trace.countP (fun e => Call.invokes id e.call) ≤ 1) ∧
    (∀ i, P.moment.trace.countP (fun e => e.agent.1 == i && Call.isMutation e.call) ≤
      P.moment.trace.countP fun e => e.agent.1 == i && Call.isInvoke e.call) ∧
    (∀ id, P.moment.trace.countP
      (fun e => e.agent.2.writes? == some id && Call.isMutation e.call) ≤ 1) ∧
    ((∀ e ∈ P.moment.trace, e.agent.2.Addressed lib) →
      ∀ id, P.moment.trace.countP (fun e => Call.mutation? e.call == some id) ≤ 1) := by
  -- no condition on the steps, so nothing candid is asked for
  have hnever : ¬ Candid lib fun _ _ _ _ _ => True := by
    intro hcandid
    have hlegit : (OperationCall.store (.markCommitUnknown "")).Legit lib :=
      hcandid.legit (0, .store (.markCommitUnknown "")) ⟨World.start, []⟩ .nowRfc3339 ""
        World.start trivial
    cases hlegit
  have hreach : Pool.Reachable ((bridgeSemantics Agent).restrict fun _ _ _ _ _ => True)
      (OperationCall.body lib) w P :=
    h.mono (fun _ _ _ _ _ he => ⟨he, trivial⟩) fun _ _ hd => hd
  have hstart : (writeDiscipline lib fun _ _ _ _ _ => True).inv ⟨w, []⟩ :=
    writeDiscipline_start w fun hcandid => absurd hcandid hnever
  have honce : WriteOnce lib P.moment :=
    (Discipline.sound (fun j i => operation_verified j i) hstart hreach).inv.1
  refine ⟨honce.count_invokes, fun i => ?_, honce.count_requests, honce.count_mutations⟩
  -- a task is one agent, which sends at most once, and only what it was invoked with
  have hle : P.moment.trace.countP (fun e => e.agent.1 == i && Call.isMutation e.call) ≤ 1 := by
    refine honce.sentOnce.countP_le_one ?_ ?_
    · intro e _ hp
      rw [Bool.and_eq_true] at hp
      exact hp.2
    · intro e he e' he' hp hp'
      rw [Bool.and_eq_true, beq_iff_eq] at hp hp'
      exact h.agent_eq he he' (hp.1.trans hp'.1.symm)
  rcases Nat.eq_zero_or_pos
    (P.moment.trace.countP fun e => e.agent.1 == i && Call.isMutation e.call) with hzero | hpos
  · rw [hzero]
    exact Nat.zero_le _
  · obtain ⟨e, he, hp⟩ := List.countP_pos_iff.mp hpos
    rw [Bool.and_eq_true, beq_iff_eq] at hp
    obtain ⟨id, command, ⟨e', he', hagent, hinvokes⟩, -⟩ := honce.invoked_of_isMutation he hp.2
    refine Nat.le_trans hle (List.countP_pos_iff.mpr ⟨e', he', ?_⟩)
    rw [Bool.and_eq_true, beq_iff_eq, hagent]
    exact ⟨hp.1, Call.isInvoke_of_invokes hinvokes⟩

/-- An operation that is committed twice, and applied by the Connector. -/
theorem at_most_once_write_twice : ∃ P : Pool bridgeCalls World OperationCall.Out,
    Pool.Reachable (bridgeSemantics Agent)
      (OperationCall.body readyLibrary) World.start P ∧
    P.tasks.map (·.1) = Sample.prepare ++ [Sample.commit ⟨Sample.backend, none, none⟩,
      Sample.commit ⟨Sample.backend, none, none⟩] ∧
    P.moment.world.connector "op-1" = .applied ∧
    P.moment.trace.countP (fun e => Call.invokes "op-1" e.call) ≤ 1 := by
  obtain ⟨P, hP, htasks, hw, -⟩ := Pool.exists_reachable_runs (bridgeSemantics Agent)
    (OperationCall.body readyLibrary) (serve (answering readyAnswer))
    (fun _ m c => serve_effect _ m.world c) World.start
    (Sample.prepare ++ [Sample.commit ⟨Sample.backend, none, none⟩,
      Sample.commit ⟨Sample.backend, none, none⟩])
  refine ⟨P, hP, htasks, ?_, (at_most_once_write hP).1 "op-1"⟩
  rw [hw]
  decide +kernel

end ImBridge
