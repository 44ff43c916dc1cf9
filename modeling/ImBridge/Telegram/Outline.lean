import ImBridge.Telegram.InboxRuns

/-!
# The outline of a poller

A poller is verified by what is known before it has its offset, while it may ask with an offset,
once it has an answer, and when it leaves. The parts that write to the inbox lead from one to the
next; for the rest of the poller it is enough that calls of no concern to the inbox change nothing.

## Main definitions

* `Kept`: parts of a poller that have nothing to do with the inbox keep the assertion
* `PollerOutline`: the assertions, and the parts that lead from one to the next

## Main results

* `PollerOutline.triple_pollTelegramBot`: the whole poller follows the outline
-/

namespace ImBridge

open Interleaving Discipline

/-- The updates of an answer to `getUpdates`. -/
def Poll.updates : Poll → List Json
  | .answered success payload =>
    if success && (payload.get "ok").bind Json.asBool == some true then
      ((payload.get "result").bind Json.asArray).getD []
    else []
  | _ => []

variable {χ : Signature} {A W : Type} {sem : Semantics (pollerCalls χ) A W}

/-- Parts of a poller that have nothing to do with the inbox keep the assertion. -/
structure Kept (D : Discipline sem) (t : A) (R : Moment (pollerCalls χ) A W → Prop) : Prop where
  stable : D.Stable t R
  triple : ∀ {α : Type} {p : PollerProgram χ α}, p.Uses PollerCall.Plain →
    D.Triple t R p fun _ => R

section Kept

variable {D : Discipline sem} {t : A} {R S : Moment (pollerCalls χ) A W → Prop}

theorem Kept.ask (h : Kept D t R) {c : PollerCall χ} (hc : c.Plain) :
    D.Triple t R (askPoller c) fun _ => R := h.triple (uses_askPoller hc)

end Kept

/-- **The outline of a poller**: `B` holds before it has its offset, `R` while it may ask with an
offset, `Q` once it has an answer, `E` when it leaves, and `Z` after that. -/
structure PollerOutline (D : Discipline sem) (t : A) (lib : Primitives) (app : UpdateHandler χ)
    (botId : String) (guard : PollerOwnershipGuard) (B E Z : Moment (pollerCalls χ) A W → Prop)
    (R : ℤ → Moment (pollerCalls χ) A W → Prop)
    (Q : Poll → ℤ → Moment (pollerCalls χ) A W → Prop) : Prop where
  before : Kept D t B
  ready : ∀ offset, Kept D t (R offset)
  asked : ∀ poll offset, Kept D t (Q poll offset)
  stable_exit : D.Stable t E
  stable_done : D.Stable t Z
  exit_of_before : ∀ m, B m → E m
  exit_of_ready : ∀ offset m, R offset m → E m
  ready_of_asked : ∀ poll offset m, Q poll offset m → R offset m
  done_of_exit : ∀ m, E m → Z m
  select : D.Triple t B (askPoller (.inbox (.selectOffset botId))) fun r m =>
    Fallible.onResult (fun offset => R (offset.getD 0) m) (fun _ => E m) r
  startup : ∀ offset, D.Triple t (R offset) (recoverStartupUpdates lib app botId guard).run
    fun _ => R offset
  due : ∀ offset, D.Triple t (R offset) (recoverDueUpdates lib app botId guard) fun _ => R offset
  poll : ∀ offset, D.Triple t (R offset) (askPoller (.getUpdates botId offset)) (Q · offset)
  batch : ∀ poll offset, D.Triple t (Q poll offset) (takeBatch lib botId poll.updates offset) R
  exit : D.Triple t E (finalizePollerExit botId guard) fun _ => Z

namespace PollerOutline

variable {D : Discipline sem} {t : A} {lib : Primitives} {app : UpdateHandler χ} {botId : String}
  {guard : PollerOwnershipGuard} {B E Z : Moment (pollerCalls χ) A W → Prop}
  {R : ℤ → Moment (pollerCalls χ) A W → Prop} {Q : Poll → ℤ → Moment (pollerCalls χ) A W → Prop}
  (O : PollerOutline D t lib app botId guard B E Z R Q)
include O

theorem triple_leave (offset : ℤ) {α : Type} (a : α) : D.Triple t (R offset) (.ret a) fun _ => E :=
  triple_ret O.stable_exit fun m _ => O.exit_of_ready offset m

/-- A request is made with an offset that may be sent, and its answer is stored. -/
theorem triple_pollUpdates (offset : ℤ) :
    D.Triple t (R offset) (pollUpdates lib botId offset) fun next m =>
      next.elim (E m) fun offset' => R offset' m := by
  refine triple_bind (O.poll offset) fun poll => ?_
  have hready : ∀ offset', D.Triple t (R offset') (.ret (some offset')) fun next m =>
      next.elim (E m) fun offset' => R offset' m := fun offset' =>
    triple_ret (O.ready offset').stable fun _ _ h => h
  -- without updates the poller asks again from the same offset
  have hagain : ∀ message, D.Triple t (Q poll offset)
      (do askPoller (χ := χ) (.setPollError botId message); return some offset)
      fun next m => next.elim (E m) fun offset' => R offset' m := fun message =>
    triple_bind ((O.asked poll offset).ask trivial) fun _ =>
      (hready offset).given fun m _ => O.ready_of_asked poll offset m
  cases poll with
  | cancelled =>
    refine triple_ret O.stable_exit fun m _ h => ?_
    exact O.exit_of_ready offset m (O.ready_of_asked _ _ m h)
  | requestFailed | invalidJson => exact hagain _
  | answered success payload =>
    have hbatch := O.batch (.answered success payload) offset
    dsimp only
    split
    · rename_i hok
      rw [Poll.updates, if_pos hok] at hbatch
      refine triple_bind ((O.asked _ offset).ask trivial) fun _ => ?_
      exact triple_bind hbatch hready
    · exact hagain _

theorem triple_pollRound (offset : ℤ) :
    D.Triple t (R offset) (pollRound lib app botId guard offset) fun next m =>
      next.elim (E m) fun offset' => R offset' m := by
  have hleave : D.Triple t (R offset) (.ret none) fun next m =>
      next.elim (E m) fun offset' => R offset' m :=
    triple_ret O.stable_exit fun m _ => O.exit_of_ready offset m
  have howner : D.Triple t (R offset) (stillOwner guard) fun _ => R offset :=
    (O.ready offset).triple (uses_stillOwner fun _ hc => hc.plain)
  refine triple_bind ((O.ready offset).ask trivial) fun cancelled => ?_
  cases cancelled with
  | true => exact hleave
  | false =>
    refine triple_bind howner fun owner => ?_
    cases owner with
    | false => exact hleave
    | true =>
      refine triple_bind ((O.ready offset).triple
        (uses_recoverDueOperations fun _ hc => hc.plain)) fun _ => ?_
      refine triple_bind (O.due offset) fun _ => ?_
      refine triple_bind howner fun owner => ?_
      cases owner with
      | false => exact hleave
      | true => exact O.triple_pollUpdates offset

/-- The loop: each round leaves an offset that may be sent in the next one. -/
theorem triple_pollLoop (rounds : ℕ) (offset : ℤ) :
    D.Triple t (R offset) (pollLoop lib app botId guard rounds offset) fun _ => E := by
  induction rounds generalizing offset with
  | zero => exact O.triple_leave offset _
  | succ rounds ih =>
    refine triple_bind (O.triple_pollRound offset) fun next => ?_
    cases next with
    | none => exact triple_ret O.stable_exit fun _ _ h => h
    | some offset' => exact ih offset'

theorem triple_pollFrom (rounds : ℕ) (offset : ℤ) :
    D.Triple t (R offset) (pollFrom lib app botId guard rounds offset) fun _ => Z := by
  refine triple_bind ((O.ready offset).triple (uses_ofHandler (fun _ hc => hc.plain) _)) fun _ => ?_
  refine triple_bind (O.startup offset) fun _ => ?_
  refine triple_bind (O.triple_pollLoop rounds offset) fun left => ?_
  cases left with
  | false => exact triple_ret O.stable_done fun m _ => O.done_of_exit m
  | true => exact triple_bind O.exit fun _ => triple_ret O.stable_done fun _ _ h => h

/-- **The whole poller follows the outline.** -/
theorem triple_pollTelegramBot (rounds : ℕ) :
    D.Triple t B (pollTelegramBot lib app botId guard rounds) fun _ => Z := by
  refine triple_bind (O.before.ask trivial) fun base => ?_
  cases base with
  | error e => exact triple_ret O.stable_done fun m _ h => O.done_of_exit m (O.exit_of_before m h)
  | ok _ =>
    refine triple_bind (O.before.ask trivial) fun client => ?_
    cases client with
    | error message =>
      refine triple_bind (O.exit.given fun m _ => O.exit_of_before m) fun r => ?_
      cases r <;> exact triple_ret O.stable_done fun _ _ h => h
    | ok _ =>
      refine triple_bind (O.before.triple (uses_configureOrReport fun _ hc => hc.plain)) fun _ => ?_
      refine triple_bind O.select fun r => ?_
      cases r with
      | error e => exact triple_ret O.stable_done fun m _ => O.done_of_exit m
      | ok offset => exact O.triple_pollFrom rounds _

end PollerOutline

end ImBridge
