import ImBridge.Telegram.BotDiscipline

/-!
# Giving back what a runtime holds

`finalize_poller_exit`, made for a runtime that belongs to the task that makes it: whatever the
other tasks do meanwhile, the guard is stopped afterwards, and the runtime is neither among the
active bots nor in the table of runtimes, nor bound in the registry unless the registry was
unavailable.

## Main definitions

* `Cleaned`: nothing is left of a runtime
* `Unbound`: the runtime is not bound, unless it went astray
* `Placed`: a runtime belongs to the task, and its guard names its place
* `Finalized`: what `finalize_poller_exit` reaches

## Main results

* `triple_finalizePollerExit_cleaned`: nothing is left of a runtime that was finalized
-/

namespace ImBridge

open Interleaving Discipline BotWorld

variable {χ : Signature} {me : String → Json} {t : BotTask} {g : PollerOwnershipGuard}

/-- The runtime has no place in the tables. -/
structure Delisted (id : String) (w : BotWorld) : Prop where
  active : ∀ n botId, w.holdings.active n ≠ some (botId, id)
  runtime : ∀ botId g, g.runtimeInstanceId = id → w.holdings.runtime botId ≠ some g

/-- **Nothing is left of the runtime**: its guard is stopped, it is not bound in the registry, and
it has no place in the tables. -/
structure Cleaned (id : String) (w : BotWorld) : Prop extends Delisted id w where
  stopped : w.lifecycle id = .stopped
  unbound : ∀ n, w.holdings.bound n ≠ some id

/-- The runtime of the guard belongs to the task, and has the place that the guard names. -/
def Placed (t : BotTask) (g : PollerOwnershipGuard) (m : BotMoment χ) : Prop :=
  m.world.holdings.Own t g.runtimeInstanceId ∧ ∃ s, m.world.stage g.runtimeInstanceId = some s ∧
    s.numericBotId = g.numericBotId ∧ s.botId = g.internalBotId

variable {m m' : BotMoment χ} {id : String}

theorem LeftToRuntime.own (h : LeftToRuntime t id m m') (hown : m.world.holdings.Own t id) :
    m'.world.holdings.Own t id := by
  unfold Holdings.Own at hown ⊢
  rw [h.kept.stage]
  exact hown.imp (fun hi => ⟨(h.issued id).mpr hi.1, hi.2⟩) fun hg => hg

theorem LeftToRuntime.placed (h : LeftToRuntime t g.runtimeInstanceId m m')
    (hplaced : Placed t g m) : Placed t g m' := by
  obtain ⟨hown, s, hs, hplace⟩ := hplaced
  exact ⟨h.own hown, s, h.kept.stage.trans hs, hplace⟩

theorem LeftToRuntime.delisted (h : LeftToRuntime t id m m') (hd : Delisted id m.world) :
    Delisted id m'.world :=
  ⟨fun n botId hactive => hd.active n botId ((h.kept.active n botId).mp hactive),
    fun botId g hg hruntime => hd.runtime botId g hg (h.kept.runtime botId g hg hruntime)⟩

/-- What survives what the others leave to a placed runtime is stable. -/
theorem stable_placed {Q : BotMoment χ → Prop}
    (hQ : ∀ m m', BotInv m → LeftToRuntime t g.runtimeInstanceId m m' → Q m → Q m') :
    (botDiscipline me χ).Stable t fun m => Placed t g m ∧ Q m :=
  stable_of_leftToRuntime g.runtimeInstanceId (fun _ h => h.1.1) fun m m' hinv hl h =>
    ⟨hl.placed h.1, hQ m m' hinv hl h.2⟩

/-! ## The steps of the exit -/

variable {m : BotMoment χ} {w : BotWorld}

theorem placed_of_holdings {c : PollerCall χ} {r : c.Reply} (hplaced : Placed t g m)
    (hstage : w.holdings.stage = m.world.holdings.stage)
    (hissued : w.holdings.issued = m.world.holdings.issued) : Placed t g (m.after t c r w) := by
  obtain ⟨hown, s, hs, hplace⟩ := hplaced
  refine ⟨?_, s, (congrFun hstage _).trans hs, hplace⟩
  rw [Moment.after_world]
  unfold Holdings.Own at hown ⊢
  rwa [hstage, hissued]

/-- The guard drains, or is stopped already. -/
def Drains (id : String) (m : BotMoment χ) : Prop :=
  m.world.lifecycle id = .draining ∨ m.world.lifecycle id = .stopped

theorem LeftToRuntime.drains (h : LeftToRuntime t id m m') (hd : Drains id m) : Drains id m' := by
  rcases h.lifecycle with heq | ⟨-, hdrain⟩
  · rwa [Drains, heq]
  · rcases hd with hd | hd
    · rw [hd] at hdrain
      exact .inl (Except.ok.inj hdrain).symm
    · rw [hd] at hdrain
      cases hdrain

theorem LeftToRuntime.stopped (h : LeftToRuntime t id m m') (hs : m.world.lifecycle id = .stopped) :
    m'.world.lifecycle id = .stopped := by
  rcases h.lifecycle with heq | ⟨-, hdrain⟩
  · exact heq.trans hs
  · rw [hs] at hdrain
    cases hdrain

theorem triple_beginDraining :
    (botDiscipline me χ).Triple t (Placed t g) (askPoller (.beginDraining g.runtimeInstanceId))
      fun _ m => Placed t g m ∧ Drains g.runtimeInstanceId m := by
  refine triple_perform ?_ (fun m _ h => ⟨h.1, trivial⟩) (fun m r w _ h he => ?_)
    fun _ => stable_placed fun _ _ _ hl h => hl.drains h
  · exact stable_of_leftToRuntime g.runtimeInstanceId (fun _ h => h.1) fun _ _ _ hl h => hl.placed h
  · obtain ⟨-, rfl⟩ := he
    refine ⟨placed_of_holdings h ?_ ?_, ?_⟩
    · rw [holdings_setLifecycle]
    · rw [holdings_setLifecycle]
    · rw [Drains, Moment.after_world]
      cases hlife : m.world.lifecycle g.runtimeInstanceId <;>
        simp [setLifecycle, PollerLifecycle.beginDraining, hlife]

theorem triple_markStopped :
    (botDiscipline me χ).Triple t (fun m => Placed t g m ∧ Drains g.runtimeInstanceId m)
      (askPoller (.markStopped g.runtimeInstanceId))
      fun _ m => Placed t g m ∧ m.world.lifecycle g.runtimeInstanceId = .stopped := by
  refine triple_perform (stable_placed fun _ _ _ hl h => hl.drains h)
    (fun m _ h => ⟨h.1.1, trivial⟩) (fun m r w _ h he => ?_)
    fun _ => stable_placed fun _ _ _ hl h => hl.stopped h
  obtain ⟨-, rfl⟩ := he
  refine ⟨placed_of_holdings h.1 ?_ ?_, ?_⟩
  · rw [holdings_setLifecycle]
  · rw [holdings_setLifecycle]
  · rcases h.2 with hlife | hlife <;>
      simp [setLifecycle, PollerLifecycle.markStopped, hlife]

/-- The runtime is not bound, unless the registry keeps it without its task's knowledge. -/
def Unbound (id : String) (w : BotWorld) : Prop :=
  (∀ n, w.holdings.bound n ≠ some id) ∨ id ∈ w.astray

theorem LeftToRuntime.unbound (h : LeftToRuntime t id m m') (hu : Unbound id m.world) :
    Unbound id m'.world :=
  hu.imp (fun hb n hn => hb n (h.kept.bound n hn)) (h.astray id)

theorem Unbound.of_eq {w' : BotWorld} (hu : Unbound id w) (hastray : w'.astray = w.astray)
    (hbound : w'.holdings.bound = w.holdings.bound) : Unbound id w' := by
  unfold Unbound
  rwa [hastray, hbound]

/-- A served release leaves no binding of the runtime. -/
theorem unbound_of_release (hv : w.holdings.Valid) {s : RuntimeStage}
    (hs : w.holdings.stage id = some s) (n : ℤ) :
    { w with registry := (w.registry.releaseRuntime s.numericBotId id).2 }.holdings.bound n ≠
      some id := by
  intro hn
  by_cases hpos : 0 < s.numericBotId
  · simp only [holdings, MemoryPollerRegistry.runtimeBinding_releaseRuntime hpos] at hn
    obtain ⟨binding, hb, hid⟩ := Option.map_eq_some_iff.mp hn
    split at hb
    · obtain ⟨-, hne⟩ := Option.filter_eq_some_iff.mp hb
      exact (of_decide_eq_true hne) hid
    · -- a binding of the runtime stands under its own numeric id
      rename_i hne
      have hbound : w.holdings.bound n = some id := by simp [holdings, hb, hid]
      obtain ⟨-, s', hs', hn'⟩ := hv.bound n id hbound
      cases hs.symm.trans hs'
      exact hne hn'.symm
  · rw [MemoryPollerRegistry.releaseRuntime_of_nonpos (Int.not_lt.mp hpos)] at hn
    obtain ⟨hpos', s', hs', hn'⟩ := hv.bound n id hn
    cases hs.symm.trans hs'
    omega

theorem triple_releaseRuntime :
    (botDiscipline me χ).Triple t
      (fun m => Placed t g m ∧ m.world.lifecycle g.runtimeInstanceId = .stopped)
      (releaseRuntime g) fun _ m => Placed t g m ∧
        m.world.lifecycle g.runtimeInstanceId = .stopped ∧ Unbound g.runtimeInstanceId m.world := by
  have hpre : (botDiscipline me χ).Stable t fun m =>
      Placed t g m ∧ m.world.lifecycle g.runtimeInstanceId = .stopped :=
    stable_placed fun _ _ _ hl h => hl.stopped h
  have hpost : (botDiscipline me χ).Stable t fun m => Placed t g m ∧
      m.world.lifecycle g.runtimeInstanceId = .stopped ∧ Unbound g.runtimeInstanceId m.world :=
    stable_placed fun _ _ _ hl h => ⟨hl.stopped h.1, hl.unbound h.2⟩
  refine triple_call (fun lifecycle m => (Placed t g m ∧
    m.world.lifecycle g.runtimeInstanceId = .stopped) ∧ lifecycle = .stopped) hpre
    (fun _ _ _ => ⟨trivial, trivial⟩) (fun m r w _ h he => ?_) fun lifecycle => ?_
  · obtain ⟨rfl, rfl⟩ := he
    exact ⟨⟨placed_of_holdings h.1 rfl rfl, h.2⟩, h.2⟩
  · cases lifecycle with
    | starting | running | draining => exact fun _ _ h => nomatch h.2
    | stopped =>
      refine triple_perform (hpre.and (stable_const _))
        (fun _ _ _ => ⟨trivial, trivial⟩) (fun m r w hinv h he => ?_) fun _ => hpost
      obtain ⟨⟨hplaced, hstopped⟩, -⟩ := h
      rcases he with ⟨-, rfl⟩ | ⟨rfl, rfl⟩
      · refine ⟨placed_of_holdings hplaced rfl rfl, hstopped, .inl fun n => ?_⟩
        obtain ⟨-, s, hs, hn, -⟩ := hplaced
        rw [Moment.after_world, ← hn]
        exact unbound_of_release hinv.valid hs n
      · exact ⟨placed_of_holdings hplaced rfl rfl, hstopped, .inr List.mem_cons_self⟩

/-- The runtime is not among the active bots any more. -/
theorem triple_releaseActive {Q : BotMoment χ → Prop}
    (hQ : ∀ m m', BotInv m → LeftToRuntime t g.runtimeInstanceId m m' → Q m → Q m')
    (hrelease : ∀ (m : BotMoment χ) (c : PollerCall χ) (r : c.Reply) (w : BotWorld),
      w.issued = m.world.issued → w.astray = m.world.astray →
        w.holdings.bound = m.world.holdings.bound →
        w.holdings.runtime = m.world.holdings.runtime → w.lifecycle = m.world.lifecycle →
          Q m → Q (m.after t c r w)) :
    (botDiscipline me χ).Triple t (fun m => Placed t g m ∧ Q m)
      (askPoller (.releaseActive g.numericBotId g.internalBotId g.runtimeInstanceId))
      fun _ m => Placed t g m ∧ Q m ∧
        ∀ n botId, m.world.holdings.active n ≠ some (botId, g.runtimeInstanceId) := by
  refine triple_perform (stable_placed hQ) (fun m _ h => ⟨h.1, trivial⟩)
    (fun m r w hinv h he => ?_) fun _ => stable_placed fun m m' hinv hl h => ⟨hQ m m' hinv hl h.1,
      fun n botId hactive => h.2 n botId ((hl.kept.active n botId).mp hactive)⟩
  obtain ⟨⟨hown, s, hs, hn, hb⟩, hq⟩ := h
  cases he
  obtain ⟨hln, hlb, -⟩ := s.leave_place
  have hstage : Function.update m.world.stage g.runtimeInstanceId
      ((m.world.stage g.runtimeInstanceId).map RuntimeStage.leave) g.runtimeInstanceId =
        some s.leave := by
    rw [Function.update_self, hs]
    rfl
  refine ⟨⟨?_, s.leave, hstage, hln.trans hn, hlb.trans hb⟩, ?_, fun n botId hactive => ?_⟩
  · -- the runtime still belongs to the task
    rcases hown with ⟨hissued, hnone | ⟨n, botId, hclaimed⟩⟩ | ⟨g', hbegun | hleaving⟩
    · cases hs.symm.trans hnone
    · cases hs.symm.trans hclaimed
      exact .inl ⟨hissued, .inr ⟨n, botId, hstage⟩⟩
    · cases hs.symm.trans hbegun
      exact .inr ⟨g', .inr hstage⟩
    · cases hs.symm.trans hleaving
      exact .inr ⟨g', .inr hstage⟩
  · exact hrelease m _ _ _ rfl rfl rfl rfl rfl hq
  · rw [Moment.after_world, holdings_leave, holdings_setStage,
      holdings_setActive, map_filter_active] at hactive
    obtain ⟨hactive, hne⟩ := update_filter_eq_some.mp hactive
    obtain ⟨s', hs', hn', hb'⟩ := hinv.valid.active n botId _ hactive
    cases hs.symm.trans hs'
    refine of_decide_eq_true (hne (hn'.symm.trans hn)) ?_
    rw [← hb', hb]

theorem triple_removeRuntime :
    (botDiscipline me χ).Triple t (fun m => Placed t g m ∧
        (m.world.lifecycle g.runtimeInstanceId = .stopped ∧ Unbound g.runtimeInstanceId m.world) ∧
        ∀ n botId, m.world.holdings.active n ≠ some (botId, g.runtimeInstanceId))
      (askPoller (.removeRuntime g.internalBotId g.runtimeInstanceId))
      fun _ m => Placed t g m ∧ m.world.lifecycle g.runtimeInstanceId = .stopped ∧
        Unbound g.runtimeInstanceId m.world ∧ Delisted g.runtimeInstanceId m.world := by
  refine triple_perform (stable_placed fun _ _ _ hl h => ⟨⟨hl.stopped h.1.1,
      hl.unbound h.1.2⟩, fun n botId hactive => h.2 n botId ((hl.kept.active n botId).mp hactive)⟩)
    (fun m _ h => ⟨h.2.2, trivial⟩) (fun m r w hinv h he => ?_)
    fun _ => stable_placed fun _ _ _ hl h => ⟨hl.stopped h.1, hl.unbound h.2.1, hl.delisted h.2.2⟩
  obtain ⟨hplaced, ⟨hstopped, hunbound⟩, hinactive⟩ := h
  obtain ⟨-, rfl⟩ := he
  refine ⟨placed_of_holdings hplaced ?_ ?_, hstopped, ?_, ?_, fun botId g' hg' hruntime => ?_⟩
  · rw [holdings_setRuntime]
  · rw [holdings_setRuntime]
  · exact hunbound.of_eq rfl rfl
  · rw [Moment.after_world, holdings_setRuntime]
    exact hinactive
  · rw [Moment.after_world, holdings_setRuntime, map_filter_runtime] at hruntime
    obtain ⟨hruntime, hne⟩ := update_filter_eq_some.mp hruntime
    obtain ⟨s', hs', -, hb'⟩ := hinv.valid.runtime botId g' hruntime
    obtain ⟨-, s, hs, -, hb⟩ := hplaced
    rw [hg'] at hs'
    cases hs.symm.trans hs'
    exact of_decide_eq_true (hne (hb'.symm.trans hb)) hg'

/-- The runtime was finalized. -/
def Finalized (t : BotTask) (g : PollerOwnershipGuard) (m : BotMoment χ) : Prop :=
  Placed t g m ∧ m.world.lifecycle g.runtimeInstanceId = .stopped ∧
    Unbound g.runtimeInstanceId m.world ∧ Delisted g.runtimeInstanceId m.world

theorem stable_finalized : (botDiscipline me χ).Stable t (Finalized t g) :=
  stable_placed fun _ _ _ hl h => ⟨hl.stopped h.1, hl.unbound h.2.1, hl.delisted h.2.2⟩

theorem Finalized.cleaned (h : Finalized t g m) (hr : g.runtimeInstanceId ∉ m.world.astray) :
    Cleaned g.runtimeInstanceId m.world :=
  ⟨h.2.2.2, h.2.1, h.2.2.1.resolve_right hr⟩

/-- **Nothing is left of a runtime that was finalized**, except for its binding when it went
astray. -/
theorem triple_finalizePollerExit_cleaned :
    (botDiscipline me χ).Triple t (Placed t g) (finalizePollerExit g.internalBotId g)
      fun _ m => Finalized t g m := by
  refine triple_bind triple_beginDraining fun drained => ?_
  refine triple_bind triple_markStopped fun stopped => ?_
  refine triple_bind triple_releaseRuntime fun released => ?_
  refine triple_bind (triple_releaseActive
    (fun _ _ _ hl h => ⟨hl.stopped h.1, hl.unbound h.2⟩) fun m c r w _ hastray hbound _ hlife h =>
      ⟨(congrFun hlife _).trans h.1, h.2.of_eq hastray hbound⟩) fun _ => ?_
  refine triple_bind triple_removeRuntime fun _ => ?_
  exact triple_ret stable_finalized fun _ _ h => h

end ImBridge
