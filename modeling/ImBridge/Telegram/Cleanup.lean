import ImBridge.Sequential
import ImBridge.Telegram.PollerEnd
import ImBridge.Telegram.Starts

/-!
# What is left of a poller

Pollers and failed starts leave nothing behind, whatever the other tasks of the process do, unless
the registry keeps their runtime without their knowledge. There is one exception: a poller that ends
because the configured address of Telegram is refused, or because its offset cannot be read, returns
without giving anything back. Stopping the bot does not clean up after a poller that has returned,
so its row counts as running until the process ends.

## Main definitions

* `botPost`: what is known of a task that has returned

## Main results

* `triple_botJob`: every task keeps the rules
* `poller_cleanup`: what is left of pollers that have ended, and of starts that have failed
* `poller_left_behind`: a bot that cannot be started again
-/

namespace ImBridge

open Interleaving

variable {χ : Signature} {lib : Primitives} {app : UpdateHandler χ} {me : String → Json}

/-- What is known of a task that has returned. -/
def botPost : (j : BotJob) → ℕ → j.Out → BotMoment χ → Prop
  | .start botId secretId, i, r, m =>
    Fallible.onResult (fun _ => True) (fun _ => Abandoned (i, .start botId secretId) m) r
  | .stop .., _, _, _ => True
  | .poller g rounds, i, r, m => r ≠ none → PollerEnded (i, .poller g rounds) g m

/-- Every task keeps the rules. -/
theorem triple_botJob (j : BotJob) (i : ℕ) :
    (botDiscipline me χ).Triple (i, j) (fun m => m.Silent (i, j)) (BotJob.body lib app j)
      (botPost j i) := by
  cases j with
  | start botId secretId => exact triple_startBot rfl
  | stop botId disable => exact triple_stopBot.given fun _ _ _ => trivial
  | poller g rounds => exact triple_pollerTask_ended rfl

theorem botInv_start (registry : MemoryPollerRegistry) :
    BotInv (χ := χ) ⟨BotWorld.start registry, []⟩ := by
  refine ⟨⟨nofun, nofun, nofun, nofun, nofun, nofun, nofun, fun n id h => ?_, nofun⟩,
    fun _ _ => rfl, fun _ _ => ⟨nofun, nofun⟩⟩
  simp [BotWorld.start, BotWorld.holdings, MemoryPollerRegistry.runtimeBinding] at h

/-- **What is left of a poller**: nothing, exactly if it did not end because the address of Telegram
was refused or its offset could not be read. And nothing is left of a start that has failed. In both
cases the registry is taken not to have made the binding without an answer, and to have got the
release. -/
theorem poller_cleanup {registry : MemoryPollerRegistry}
    {P : Pool (pollerCalls χ) BotWorld BotJob.Out}
    (hP : Pool.Reachable (botSemantics me χ) (BotJob.body lib app) (BotWorld.start registry) P) :
    (∀ i g rounds result, P.Returned i (.poller g rounds) (some result) →
      g.runtimeInstanceId ∉ P.moment.world.astray →
        (Cleaned g.runtimeInstanceId P.moment.world ↔
          ¬ EndedEarly (i, .poller g rounds) P.moment)) ∧
    ∀ i botId secretId e, P.Returned i (.start botId secretId) (.error e) →
      ∀ id, (id, (i, .start botId secretId)) ∈ P.moment.world.issued →
        id ∉ P.moment.world.astray →
          Delisted id P.moment.world ∧ (∀ n, P.moment.world.holdings.bound n ≠ some id) ∧
            (P.moment.world.lifecycle id = .starting ∨ P.moment.world.lifecycle id = .stopped) := by
  have hverified : (botDiscipline me χ).Verified botPost P :=
    Discipline.sound (fun j i => triple_botJob j i) (botInv_start registry) hP
  refine ⟨fun i g rounds result hi hserved => ?_, fun i botId secretId e hi id hid hserved => ?_⟩
  · rcases hverified.returned hi nofun with ⟨hpolling, hearly⟩ | ⟨hfinal, hearly⟩
    · -- it still polls, as far as the tables say
      refine iff_of_false (fun hclean => ?_) (not_not.mpr hearly)
      exact hpolling.not_delisted hverified.inv hclean.toDelisted
    · exact iff_of_true (hfinal.cleaned hserved) hearly
  · have habandoned : Abandoned (i, .start botId secretId) P.moment := hverified.returned hi
    obtain ⟨-, hdelisted, hunbound, hlife⟩ := habandoned id hid
    exact ⟨hdelisted, hunbound.resolve_right hserved, hlife⟩

/-! ## A poller that gives nothing back -/

section LeftBehind

/-- Two bots, both owned by the bridge. -/
def sampleRegistry : MemoryPollerRegistry where
  records := ((∅ : Finmap fun _ : ℤ => PollerOwnershipRecord).insert 7 ⟨7, .rustBridge, 2⟩).insert 8
    ⟨8, .rustBridge, 2⟩
  runtimeBindings := ∅
  bootstrapped := true

/-- The bot behind the token `seven` has the numeric id 7, every other one the numeric id 8. -/
def sampleMe (token : String) : Json := .object [("id", .int (if token = "seven" then 7 else 8))]

/-- The guard of the first runtime, for the row `bot`. -/
def firstGuard : PollerOwnershipGuard := ⟨7, .rustBridge, 2, "bot", "r"⟩

abbrev startSeven : BotJob := .start "bot" (some "seven")

/-- The pool after the moves. -/
def botsAfter (moves : List (Move BotJob Bool)) :
    Option (Pool (pollerCalls noCalls) BotWorld BotJob.Out) :=
  (Pool.start (.start sampleRegistry)).follow
    (fun refused t m c => botAct sampleMe refused t m.world c) (BotJob.body .plain silentHandler)
    moves

theorem reachable_of_botsAfter {moves : List (Move BotJob Bool)}
    {P : Pool (pollerCalls noCalls) BotWorld BotJob.Out} (h : botsAfter moves = some P) :
    Pool.Reachable (botSemantics sampleMe noCalls) (BotJob.body .plain silentHandler)
      (.start sampleRegistry) P :=
  Pool.steps_of_follow (fun _ _ _ _ _ _ hact => botAct_effect hact) h

/-- The bot is started, and its poller has its signal. -/
def started : List (Move BotJob Bool) :=
  .spawn startSeven :: List.replicate 17 (.exec 0 false) ++
    [.spawn (.poller firstGuard 0), .exec 1 false]

/-- The poller cannot read its offset; the bot is stopped, and started again. -/
def unreadOffset : List (Move BotJob Bool) :=
  started ++ List.replicate 4 (.exec 1 false) ++ .spawn (.stop "bot" true) ::
    List.replicate 4 (.exec 2 false) ++ [.spawn startSeven, .exec 3 false, .exec 3 false]

/-- The bot is started twice at a time; the second start finds its numeric id taken, and the poller
of the first one has its signal. -/
def startedTwice : List (Move BotJob Bool) :=
  [.spawn startSeven, .spawn startSeven] ++
    List.replicate 2 (.exec 0 false) ++ List.replicate 2 (.exec 1 false) ++
    List.replicate 15 (.exec 0 false) ++ List.replicate 5 (.exec 1 false) ++
    [.spawn (.poller firstGuard 0), .exec 2 false]

/-- The poller has no client, and gives back what it holds. -/
def refusedClient : List (Move BotJob Bool) :=
  startedTwice ++ [.exec 2 false, .exec 2 true] ++ List.replicate 6 (.exec 2 false)

/-- What the poller, the stop and the second start have returned. -/
def unreadResults (P : Pool (pollerCalls noCalls) BotWorld BotJob.Out) :
    Option (Option (AppResult Unit)) × Option (AppResult Unit) × Option (AppResult Unit) :=
  (P.returned? 1 (.poller firstGuard 0), P.returned? 2 (.stop "bot" true), P.returned? 3 startSeven)

/-- **A poller ends and its bot cannot be started again**, even after it was stopped: the offset
could not be read. -/
theorem poller_left_behind :
    ∃ P : Pool (pollerCalls noCalls) BotWorld BotJob.Out,
      Pool.Reachable (botSemantics sampleMe noCalls) (BotJob.body .plain silentHandler)
        (.start sampleRegistry) P ∧
      P.Returned 1 (.poller firstGuard 0) (some (.error .database)) ∧
      P.Returned 2 (.stop "bot" true) (.error .database) ∧
      P.Returned 3 startSeven (.error (.conflict "BOT_ALREADY_RUNNING" "Bot 已在运行")) := by
  have hrun : (botsAfter unreadOffset).map unreadResults =
      some (some (some (.error .database)), some (.error .database),
        some (.error (.conflict "BOT_ALREADY_RUNNING" "Bot 已在运行"))) := by
    decide +kernel
  obtain ⟨P, hP, hresults⟩ := Option.map_eq_some_iff.mp hrun
  simp only [unreadResults, Prod.mk.injEq] at hresults
  obtain ⟨hpoller, hstop, hagain⟩ := hresults
  exact ⟨P, reachable_of_botsAfter hP, Pool.returned_of_returned? hpoller,
    Pool.returned_of_returned? hstop, Pool.returned_of_returned? hagain⟩

/-- What the poller and the second start have returned; and whether the start has drawn a runtime,
no poller has ended early, and the registry keeps nothing. -/
def refusedResults (P : Pool (pollerCalls noCalls) BotWorld BotJob.Out) :
    Option (Option (AppResult Unit)) × Option (AppResult Unit) × Bool :=
  (P.returned? 2 (.poller firstGuard 0), P.returned? 1 startSeven,
    ("rr", (1, startSeven)) ∈ P.moment.world.issued ∧
      (∀ e ∈ P.moment.trace, ¬ e.call.endsEarly e.reply) ∧
      P.moment.world.astray = [])

/-- A poller that gives back what it holds, and a start that fails. -/
theorem poller_cleanup_refused :
    ∃ P : Pool (pollerCalls noCalls) BotWorld BotJob.Out,
      P.Returned 2 (.poller firstGuard 0)
        (some (.error (.badGateway "TELEGRAM_REQUEST_FAILED" "no client"))) ∧
      Cleaned "r" P.moment.world ∧
      P.Returned 1 startSeven (.error (.conflict "BOT_NUMERIC_ID_ALREADY_RUNNING"
        "该 Telegram Bot (numeric ID) 已在运行")) ∧
      ("rr", (1, startSeven)) ∈ P.moment.world.issued ∧ Delisted "rr" P.moment.world ∧
      (∀ n, P.moment.world.holdings.bound n ≠ some "rr") := by
  have hrun : (botsAfter refusedClient).map refusedResults =
      some (some (some (.error (.badGateway "TELEGRAM_REQUEST_FAILED" "no client"))),
        some (.error (.conflict "BOT_NUMERIC_ID_ALREADY_RUNNING"
          "该 Telegram Bot (numeric ID) 已在运行")), true) := by
    decide +kernel
  obtain ⟨P, hP, hresults⟩ := Option.map_eq_some_iff.mp hrun
  simp only [refusedResults, Prod.mk.injEq, decide_eq_true_eq] at hresults
  obtain ⟨hpoller, hstart, hdrawn, hevents, hastray⟩ := hresults
  have hpoller := Pool.returned_of_returned? hpoller
  have hstart := Pool.returned_of_returned? hstart
  obtain ⟨hcleaned, hfailed⟩ := poller_cleanup (reachable_of_botsAfter hP)
  have hserved : ∀ id, id ∉ P.moment.world.astray := fun id => by
    rw [hastray]
    exact List.not_mem_nil
  obtain ⟨hdelisted, hunbound, -⟩ := hfailed 1 _ _ _ hstart "rr" hdrawn (hserved _)
  refine ⟨P, hpoller, (hcleaned 2 firstGuard 0 _ hpoller (hserved _)).mpr ?_, hstart, hdrawn,
    hdelisted, hunbound⟩
  rintro ⟨e, he, -, hearly⟩
  exact hevents e he hearly

end LeftBehind

end ImBridge
