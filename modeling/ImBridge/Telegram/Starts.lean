import ImBridge.Telegram.PollerExit

/-!
# Starting a bot, verified

A start reads its token, finds its row without a runtime, learns the numeric id of the bot behind
the token and claims it, and from then on has a runtime of its own until its poller is spawned. When
a step of it fails, it leaves nothing of the runtime behind.

## Main definitions

* `Underway`: a start that has found its row without a runtime
* `Claimed`: a start whose runtime has its numeric id
* `Abandoned`: nothing is left of the runtimes that a start has drawn

## Main results

* `triple_startBot`: a start keeps the rules, and leaves nothing behind when it fails
* `triple_stopBot`: so does stopping a bot
-/

namespace ImBridge

open Interleaving Discipline Fallible

variable {χ : Signature} {me : String → Json} {t : BotTask}

/-- **Nothing is left of what a start has drawn**, except for a binding that went astray. A runtime
that never got a guard has the lifecycle of one that is still to be started. -/
def Abandoned (t : BotTask) (m : BotMoment χ) : Prop :=
  ∀ id, (id, t) ∈ m.world.holdings.issued → m.world.holdings.Own t id ∧
    Delisted id m.world ∧ Unbound id m.world ∧
      (m.world.lifecycle id = .starting ∨ m.world.lifecycle id = .stopped)

/-- The task has drawn no runtime. -/
def Unissued (t : BotTask) (m : BotMoment χ) : Prop := ∀ id, (id, t) ∉ m.world.holdings.issued

variable {m : BotMoment χ}

theorem Unissued.abandoned (h : Unissued t m) : Abandoned t m :=
  fun id hid => absurd hid (h id)

theorem stable_abandoned : (botDiscipline me χ).Stable t (Abandoned t) := by
  intro m m' ho h id hid
  obtain ⟨hown, hd, hu, hlife⟩ := h id (((LeftToTask.of_other ho).issued id).mp hid)
  have hl := LeftToRuntime.of_other hown ho
  refine ⟨hl.own hown, hl.delisted hd, hl.unbound hu, ?_⟩
  rcases hl.lifecycle with heq | ⟨⟨botId, g, hg, hid'⟩, -⟩
  · rwa [heq]
  · exact absurd hg (hd.runtime botId g hid')

theorem BotInv.unissued (hinv : BotInv m) (hs : m.Silent t) : Unissued t m :=
  (hinv.silent t hs).1

/-! ## Before the claim -/

/-- The start has read its token and found its row without a runtime. -/
structure Underway (t : BotTask) (botId token : String) (m : BotMoment χ) : Prop where
  unissued : Unissued t m
  token : m.world.token t = some token
  starting : (t, botId) ∈ m.world.starting

variable {m m' : BotMoment χ}

theorem LeftToTask.unissued (h : LeftToTask t m m') (hu : Unissued t m) :
    Unissued t m' :=
  fun id hid => hu id ((h.issued id).mp hid)

theorem stable_underway {botId token : String} :
    (botDiscipline me χ).Stable t (Underway t botId token) :=
  stable_of_leftToTask fun _ _ hl h =>
    ⟨hl.unissued h.unissued, hl.token.trans h.token, (hl.starting botId).mpr h.starting⟩

theorem triple_botToken (secretId : Option String) :
    (botDiscipline me χ).Triple t (fun m => m.Silent t) (botToken secretId).run fun r m =>
      onResult (fun token => Unissued t m ∧ m.world.token t = some token)
        (fun _ => Abandoned t m) r := by
  cases secretId with
  | none => exact triple_ret stable_abandoned fun m hinv h => (hinv.unissued h).abandoned
  | some secretId =>
    refine triple_tryBind (M := fun raw m => Unissued t m ∧
      m.world.token t = fromUtf8 raw) ?_ (fun _ => stable_abandoned) fun raw => ?_
    · refine triple_perform stable_silent
        (fun m hinv h => ⟨trivial, (hinv.silent t h).2⟩) (fun m r w hinv h he => ?_) fun r => ?_
      · cases he
        have hu : Unissued t m := hinv.unissued h
        cases r with
        | error e => exact Unissued.abandoned hu
        | ok raw => exact ⟨hu, Function.update_self ..⟩
      · cases r with
        | error e => exact stable_abandoned
        | ok raw => exact stable_of_leftToTask fun _ _ hl h =>
            ⟨hl.unissued h.1, hl.token.trans h.2⟩
    · split
      · exact triple_ret stable_abandoned fun _ _ h => h.1.abandoned
      · rename_i token htoken
        refine triple_ret (stable_of_leftToTask fun _ _ hl h =>
          ⟨hl.unissued h.1, hl.token.trans h.2⟩) fun _ _ h => ⟨h.1, h.2.trans htoken⟩

theorem triple_identifyBot {botId token : String} :
    (botDiscipline me χ).Triple t (Underway t botId token) (identifyBot token).run fun r m =>
      onResult (fun n => Underway t botId token m ∧ parseNumericBotId (me token) = .ok n)
        (fun _ => Abandoned t m) r := by
  have hleave : ∀ {ε α : Type} {m : BotMoment χ} {c : PollerCall χ} {r : c.Reply}
      (result : Except ε α), Underway t botId token m →
      onResult (fun _ => Underway t botId token (m.after t c r (m.world.leaveOn t result)))
        (fun _ => Abandoned t (m.after t c r (m.world.leaveOn t result))) result := by
    intro ε α m c r result h
    cases result with
    | ok a => exact ⟨h.unissued, h.token, h.starting⟩
    | error e => exact Unissued.abandoned h.unissued
  have hstable : ∀ {ε α : Type} (result : Except ε α), (botDiscipline me χ).Stable t fun m =>
      onResult (fun _ => Underway t botId token m) (fun _ => Abandoned t m) result := by
    intro ε α result
    cases result with
    | ok _ => exact stable_underway
    | error _ => exact stable_abandoned
  refine triple_liftBind (M := fun r m =>
    onResult (fun _ => Underway t botId token m) (fun _ => Abandoned t m) r) ?_
    fun client => ?_
  · refine triple_perform stable_underway (fun m _ h => ⟨trivial, h.unissued⟩)
      (fun m r w _ h he => ?_) hstable
    cases he
    exact hleave r h
  cases client with
  | error message => exact triple_ret stable_abandoned fun _ _ h => h
  | ok _ =>
    refine triple_tryBind (M := fun _ => Underway t botId token) ?_
      (fun _ => stable_abandoned) fun _ => ?_
    · refine triple_perform stable_underway (fun m _ h => ⟨trivial, h.unissued⟩)
        (fun m r w _ h he => ?_) hstable
      cases he
      exact hleave r h
    refine triple_tryBind (M := fun answer m => answer = me token ∧
      onResult (fun _ => Underway t botId token m) (fun _ => Abandoned t m)
        (parseNumericBotId (me token))) ?_ (fun _ => stable_abandoned) fun answer => ?_
    · refine triple_perform stable_underway (fun m _ h => ⟨trivial, h.unissued⟩)
        (fun m r w _ h he => ?_) fun r => ?_
      · rcases he with ⟨rfl, rfl⟩ | ⟨e, rfl, rfl⟩
        · exact ⟨rfl, hleave _ h⟩
        · exact Unissued.abandoned h.unissued
      · cases r with
        | error _ => exact stable_abandoned
        | ok answer => exact (stable_const _).and (hstable _)
    · rintro m hinv ⟨rfl, h⟩
      rw [run_ofExcept]
      cases hparse : parseNumericBotId (me token) with
      | error e =>
        rw [hparse] at h
        exact fun m' hr _ => stable_abandoned.rely hr h
      | ok n =>
        rw [hparse] at h
        exact fun m' hr _ => ⟨stable_underway.rely hr h, rfl⟩

/-! ## The claim -/

/-- **The runtime of the start has its numeric id.** -/
structure Claimed (t : BotTask) (n : ℤ) (botId id : String) (w : BotWorld) : Prop where
  issued : (id, t) ∈ w.issued
  stage : w.stage id = some (.claimed n botId)
  active : w.holdings.active n = some (botId, id)
  starting : (t, botId) ∈ w.starting

/-- The runtime has no guard yet, and is not in the table of runtimes; nor is it bound, unless the
registry keeps it. -/
structure Guardless (id : String) (w : BotWorld) : Prop where
  unbound : Unbound id w
  runtime : ∀ botId g, g.runtimeInstanceId = id → w.holdings.runtime botId ≠ some g
  lifecycle : w.lifecycle id = .starting

section Claim

variable {n : ℤ} {botId id : String}

theorem Claimed.own {w : BotWorld} (h : Claimed t n botId id w) : w.holdings.Own t id :=
  .inl ⟨h.issued, .inr ⟨n, botId, h.stage⟩⟩

theorem Claimed.placed (h : Claimed t n botId id m.world) (epoch : ℕ) :
    Placed t ⟨n, .rustBridge, epoch, botId, id⟩ m :=
  ⟨h.own, _, h.stage, rfl, rfl⟩

theorem LeftToRuntime.claimed (hl : LeftToRuntime t id m m') (h : Claimed t n botId id m.world) :
    Claimed t n botId id m'.world :=
  ⟨(hl.issued id).mpr h.issued, hl.kept.stage.trans h.stage, (hl.kept.active n botId).mpr h.active,
    (hl.starting botId).mpr h.starting⟩

theorem LeftToRuntime.guardless (hl : LeftToRuntime t id m m') (h : Guardless id m.world) :
    Guardless id m'.world := by
  refine ⟨hl.unbound h.unbound,
    fun botId g hg hruntime => h.runtime botId g hg (hl.kept.runtime botId g hg hruntime), ?_⟩
  rcases hl.lifecycle with heq | ⟨⟨botId, g, hruntime, hg⟩, -⟩
  · exact heq.trans h.lifecycle
  · exact absurd hruntime (h.runtime botId g hg)

theorem stable_claimed : (botDiscipline me χ).Stable t fun m => Claimed t n botId id m.world :=
  stable_of_leftToRuntime id (fun _ h => h.own) fun _ _ _ hl h => hl.claimed h

theorem stable_claimed_guardless :
    (botDiscipline me χ).Stable t fun m => Claimed t n botId id m.world ∧ Guardless id m.world :=
  stable_of_leftToRuntime id (fun _ h => h.1.own) fun _ _ _ hl h =>
    ⟨hl.claimed h.1, hl.guardless h.2⟩

/-- A call that leaves the world as it is keeps what is stable. -/
theorem triple_same (R : BotWorld → Prop) (c : PollerCall χ)
    (hR : (botDiscipline me χ).Stable t fun m => R m.world)
    (hmay : ∀ m : BotMoment χ, R m.world → BotMay me t m c)
    (hsame : ∀ w r w', BotEffect me t w c r w' → w' = w) :
    (botDiscipline me χ).Triple t (fun m => R m.world) (askPoller c) fun _ m => R m.world := by
  refine triple_perform hR (fun m _ h => hmay m h) (fun m r w _ h he => ?_) fun _ => hR
  rw [Moment.after_world, hsame _ _ _ he]
  exact h

/-- A refused claim leaves nothing behind. -/
theorem triple_rejectClaim {α : Type} {message : String} {Q : α → BotMoment χ → Prop} :
    (botDiscipline me χ).Triple t
      (fun m => Claimed t n botId id m.world ∧ Guardless id m.world)
      (rejectClaim n botId id message : PollerTask χ α).run fun r m =>
        onResult (fun a => Q a m) (fun _ => Abandoned t m) r := by
  refine triple_liftBind (M := fun _ m => Placed t ⟨n, .rustBridge, 0, botId, id⟩ m ∧
    ((id, t) ∈ m.world.issued ∧ Guardless id m.world) ∧
      ∀ n' botId', m.world.holdings.active n' ≠ some (botId', id)) ?_ fun _ => ?_
  · refine (triple_releaseActive (fun _ _ _ hl h => ⟨(hl.issued id).mpr h.1, hl.guardless h.2⟩)
      fun m c r w hissued hastray hbound hruntime hlife h => ?_).given
      fun m _ h => ⟨h.1.placed 0, h.1.issued, h.2⟩
    refine ⟨?_, ?_, ?_, ?_⟩
    · rw [Moment.after_world, hissued]
      exact h.1
    · exact h.2.unbound.of_eq hastray hbound
    · rw [Moment.after_world, hruntime]
      exact h.2.runtime
    · rw [Moment.after_world, hlife]
      exact h.2.lifecycle
  · refine triple_ret stable_abandoned fun m hinv h id' hid' => ?_
    obtain ⟨hplaced, ⟨hissued, hguardless⟩, hinactive⟩ := h
    cases hinv.valid.single id' id t hid' hissued
    exact ⟨hplaced.1, ⟨hinactive, hguardless.runtime⟩, hguardless.unbound,
      .inl hguardless.lifecycle⟩

theorem triple_ownershipEpoch :
    (botDiscipline me χ).Triple t (fun m => Claimed t n botId id m.world ∧ Guardless id m.world)
      (ownershipEpoch n botId id).run fun r m =>
        onResult (fun _ => Claimed t n botId id m.world ∧ Guardless id m.world)
          (fun _ => Abandoned t m) r := by
  refine triple_liftBind (triple_same (fun w => Claimed t n botId id w ∧ Guardless id w)
    (.getOwnership n) stable_claimed_guardless (fun _ _ => ⟨trivial, trivial⟩)
    fun w r w' he => he.2) fun r => ?_
  rcases r with e | (_ | record)
  · exact triple_rejectClaim
  · exact triple_rejectClaim
  · exact triple_ret stable_claimed_guardless fun _ _ h => h

theorem triple_claimBinding (epoch : ℕ) :
    (botDiscipline me χ).Triple t (fun m => Claimed t n botId id m.world ∧ Guardless id m.world)
      (claimBinding n botId id epoch).run fun r m =>
        onResult (fun guard => guard = ⟨n, .rustBridge, epoch, botId, id⟩ ∧
          Claimed t n botId id m.world) (fun _ => Abandoned t m) r := by
  refine triple_liftBind (triple_same (fun w => Claimed t n botId id w ∧ Guardless id w)
    (.assertCanStart n .rustBridge epoch) stable_claimed_guardless (fun _ _ => ⟨trivial, trivial⟩)
    fun w r w' he => he.2) fun r => ?_
  cases r with
  | error e => exact triple_rejectClaim
  | ok _ =>
    refine triple_liftBind (M := fun r m => Claimed t n botId id m.world ∧
      ((∃ e, r = .error e) → Guardless id m.world)) ?_ fun r => ?_
    · refine triple_perform stable_claimed_guardless
        (fun m _ h => ⟨⟨h.1.issued, botId, h.1.stage⟩, trivial⟩) (fun m r w _ h he => ?_)
          fun r => ?_
      · obtain ⟨⟨hissued, hstage, hactive, hstarting⟩, hguardless⟩ := h
        rcases he with ⟨rfl, rfl⟩ | ⟨rfl, rfl | ⟨-, rfl⟩⟩
        · refine ⟨⟨hissued, hstage, hactive, hstarting⟩, ?_⟩
          rintro ⟨e, he⟩
          -- a refused claim leaves the registry as it is
          rcases m.world.registry.claimRuntime_cases n ⟨botId, id, epoch, .running⟩ with
            ⟨e', hrefused⟩ | ⟨-, hok⟩
          · rw [Moment.after_world, hrefused]
            exact hguardless
          · rw [hok] at he
            cases he
        · exact ⟨⟨hissued, hstage, hactive, hstarting⟩, fun _ => hguardless⟩
        · exact ⟨⟨hissued, hstage, hactive, hstarting⟩, fun _ =>
            ⟨.inr List.mem_cons_self, hguardless.runtime, hguardless.lifecycle⟩⟩
      · exact stable_of_leftToRuntime id (fun _ h => h.1.own) fun _ _ _ hl h =>
          ⟨hl.claimed h.1, fun he => hl.guardless (h.2 he)⟩
    cases r with
    | error e =>
      exact triple_rejectClaim.given fun _ _ h => ⟨h.1, h.2 ⟨e, rfl⟩⟩
    | ok _ =>
      refine triple_liftBind (M := fun _ m => Claimed t n botId id m.world) ?_ fun _ => ?_
      · refine triple_perform (stable_of_leftToRuntime id (fun _ h => h.1.own)
          fun _ _ _ hl h => ⟨hl.claimed h.1, fun he => nomatch he⟩)
          (fun _ _ _ => ⟨trivial, trivial⟩) (fun m r w _ h he => ?_) fun _ => stable_claimed
        cases he
        obtain ⟨hissued, hstage, hactive, hstarting⟩ := h.1
        refine ⟨hissued, hstage, ?_, hstarting⟩
        rw [Moment.after_world, BotWorld.holdings_setActive, Option.map_map]
        exact (Function.update_self ..).trans hactive
      refine triple_liftBind (M := fun _ m => Claimed t n botId id m.world) ?_ fun _ => ?_
      · refine triple_perform stable_claimed (fun _ _ h => ⟨h.own, trivial⟩)
          (fun m r w _ h he => ?_) fun _ => stable_claimed
        cases he
        exact ⟨h.issued, h.stage, h.active, h.starting⟩
      exact triple_ret ((stable_const _).and stable_claimed)
        fun _ _ h => ⟨rfl, h⟩

/-- The start has drawn its runtime. -/
structure Drawn (t : BotTask) (botId token id : String) (w : BotWorld) : Prop where
  issued : (id, t) ∈ w.issued
  stage : w.stage id = none
  token : w.token t = some token
  starting : (t, botId) ∈ w.starting
  guardless : Guardless id w

variable {token : String}

theorem Drawn.own {w : BotWorld} (h : Drawn t botId token id w) :
    w.holdings.Own t id :=
  .inl ⟨h.issued, .inl h.stage⟩

theorem stable_drawn :
    (botDiscipline me χ).Stable t fun m => Drawn t botId token id m.world :=
  stable_of_leftToRuntime id (fun _ h => h.own) fun _ _ _ hl h =>
    ⟨(hl.issued id).mpr h.issued, hl.kept.stage.trans h.stage, hl.token.trans h.token,
      (hl.starting botId).mpr h.starting, hl.guardless h.guardless⟩

/-- A runtime that was drawn just now has no place. -/
theorem guardless_of_fresh (hinv : BotInv m) (hfresh : ∀ u, (id, u) ∉ m.world.issued) :
    m.world.stage id = none ∧ Guardless id m.world := by
  have hstage : m.world.stage id = none := by
    cases hs : m.world.stage id with
    | none => rfl
    | some s =>
      obtain ⟨u, hu⟩ := hinv.valid.staged id s hs
      exact absurd hu (hfresh u)
  refine ⟨hstage, .inl fun n hn => ?_, fun botId g hg hruntime => ?_, hinv.unborn id hfresh⟩
  · obtain ⟨-, s, hs, -⟩ := hinv.valid.bound n id hn
    cases hs.symm.trans hstage
  · obtain ⟨s, hs, -⟩ := hinv.valid.runtime botId g hruntime
    rw [hg] at hs
    cases hs.symm.trans hstage

theorem triple_newRuntimeInstanceId (ht : ∃ botId secretId, t.2 = .start botId secretId) :
    (botDiscipline me χ).Triple t (Underway t botId token) (askPoller .newRuntimeInstanceId)
      fun id m => Drawn t botId token id m.world := by
  refine triple_perform stable_underway (fun m _ h => ⟨⟨ht, h.unissued⟩, trivial⟩)
    (fun m id w hinv h he => ?_) fun id => stable_drawn
  obtain ⟨hfresh, rfl⟩ := he
  obtain ⟨hstage, hunbound, hruntime, hlife⟩ := guardless_of_fresh hinv hfresh
  exact ⟨List.mem_cons_self, hstage, h.token, h.starting, hunbound, hruntime, hlife⟩

theorem triple_insertActive (hparse : parseNumericBotId (me token) = .ok n) :
    (botDiscipline me χ).Triple t (fun m => Drawn t botId token id m.world)
      (askPoller (.insertActive n botId id 1)) fun r m =>
        if r then Claimed t n botId id m.world ∧ Guardless id m.world else Abandoned t m := by
  refine triple_perform stable_drawn
    (fun m _ h => ⟨⟨h.issued, h.stage⟩, h.starting, token, h.token, hparse⟩)
    (fun m r w hinv h he => ?_) fun r => ?_
  · obtain ⟨-, rfl⟩ := he
    cases r with
    | true =>
      refine ⟨⟨h.issued, Function.update_self .., ?_, h.starting⟩, h.guardless.unbound,
        h.guardless.runtime, h.guardless.lifecycle⟩
      rw [Moment.after_world, if_pos rfl, BotWorld.holdings_setStage, BotWorld.holdings_setActive]
      exact Function.update_self ..
    | false =>
      intro id' hid'
      cases hinv.valid.single id' id t hid' h.issued
      refine ⟨h.own, ⟨fun n' botId' hactive => ?_, h.guardless.runtime⟩,
        h.guardless.unbound, .inl h.guardless.lifecycle⟩
      obtain ⟨s, hs, -⟩ := hinv.valid.active n' botId' _ hactive
      cases hs.symm.trans h.stage
  · cases r with
    | true => exact stable_claimed_guardless
    | false => exact stable_abandoned

theorem triple_claimNumericBot (ht : ∃ botId secretId, t.2 = .start botId secretId)
    (hparse : parseNumericBotId (me token) = .ok n) :
    (botDiscipline me χ).Triple t (Underway t botId token) (claimNumericBot n botId).run fun r m =>
      onResult (fun guard => guard.numericBotId = n ∧ guard.internalBotId = botId ∧
        Claimed t n botId guard.runtimeInstanceId m.world) (fun _ => Abandoned t m) r := by
  unfold claimNumericBot
  split
  · exact triple_ret stable_abandoned fun _ _ h => h.unissued.abandoned
  · refine triple_liftBind (triple_newRuntimeInstanceId ht) fun id => ?_
    refine triple_liftBind (triple_insertActive hparse) fun inserted => ?_
    cases inserted with
    | false => exact triple_ret stable_abandoned fun _ _ h => h
    | true =>
      refine triple_liftBind (triple_same
        (fun w => Claimed t n botId id w ∧ Guardless id w) .hasRegistry stable_claimed_guardless
        (fun _ _ => ⟨trivial, trivial⟩) fun w r w' he => he) fun registered => ?_
      cases registered with
      | false => exact triple_rejectClaim
      | true =>
        refine triple_tryBind triple_ownershipEpoch (fun _ => stable_abandoned)
          fun epoch => ?_
        refine (triple_claimBinding epoch).mono fun r m _ h => ?_
        cases r with
        | error e => exact h
        | ok guard =>
          obtain ⟨rfl, hclaimed⟩ := h
          exact ⟨rfl, rfl, hclaimed⟩

end Claim

/-! ## Starting and stopping -/

section Start

variable {botId token : String} {guard : PollerOwnershipGuard}

theorem triple_launchPoller (hbot : guard.internalBotId = botId) :
    (botDiscipline me χ).Triple t
      (fun m => Claimed t guard.numericBotId botId guard.runtimeInstanceId m.world)
      (launchPoller botId token guard).run fun r m =>
        onResult (fun _ => True) (fun _ => Abandoned t m) r := by
  subst hbot
  refine triple_liftBind (M := fun _ m =>
    (guard.runtimeInstanceId, t) ∈ m.world.issued ∧
      (t, guard.internalBotId) ∈ m.world.starting) ?_ fun _ => ?_
  · refine triple_perform stable_claimed
      (fun m _ h => ⟨⟨h.issued, h.stage, h.active⟩, trivial⟩) (fun m r w _ h he => ?_)
      fun _ => stable_of_leftToTask fun _ _ hl h => ⟨(hl.issued _).mpr h.1, (hl.starting _).mpr h.2⟩
    cases he
    exact ⟨h.issued, h.starting⟩
  -- from here on the start may be dropped, and then makes no further call
  refine triple_liftBind (M := fun _ m =>
    (guard.runtimeInstanceId, t) ∈ m.world.issued) ?_ fun _ => ?_
  · refine triple_perform
      (stable_of_leftToTask fun _ _ hl h => ⟨(hl.issued _).mpr h.1, (hl.starting _).mpr h.2⟩)
      (fun m _ h => ⟨⟨h.1, rfl⟩, h.2⟩) (fun m r w _ h he => ?_)
      fun _ => stable_of_leftToTask fun _ _ hl h => (hl.issued _).mpr h
    obtain ⟨-, rfl⟩ := he
    exact h.1
  refine triple_liftBind (M := fun r _ => r = .ok ()) ?_ fun r => ?_
  · refine triple_perform (stable_of_leftToTask fun _ _ hl h => (hl.issued _).mpr h)
      (fun m _ h => ⟨h, trivial⟩) (fun m r w _ h he => ?_) fun _ => stable_const _
    obtain ⟨-, -, rfl, -⟩ := he
    rfl
  · cases r with
    | ok _ => exact triple_ret stable_true fun _ _ _ => trivial
    | error _ => exact fun _ _ h => nomatch h

/-- A start that cannot be recorded gives back its runtime. -/
theorem triple_finalize_start (hbot : guard.internalBotId = botId) :
    (botDiscipline me χ).Triple t
      (fun m => Claimed t guard.numericBotId botId guard.runtimeInstanceId m.world)
      (finalizePollerExit botId guard) fun _ m => Abandoned t m := by
  subst hbot
  have huses : (finalizePollerExit guard.internalBotId guard).Uses fun _ : PollerCall χ => True :=
    uses_finalizePollerExit (fun _ _ => trivial) trivial
  have hissued : (botDiscipline me χ).Stable t fun m =>
      (guard.runtimeInstanceId, t) ∈ m.world.issued :=
    stable_of_leftToTask fun _ _ hl h => (hl.issued _).mpr h
  refine (triple_finalizePollerExit_cleaned.frame huses hissued
    fun c _ m r w _ h he => (BotEffect.step he).issued_mono h).weaken
    (fun m _ h => ⟨⟨h.own, _, h.stage, rfl, rfl⟩, h.issued⟩) fun _ m hinv h id hid => ?_
  obtain ⟨⟨hplaced, hstopped, hunbound, hdelisted⟩, hmine⟩ := h
  cases hinv.valid.single id _ t hid hmine
  exact ⟨hplaced.1, hdelisted, hunbound, .inr hstopped⟩

/-- **A start keeps the rules, and leaves nothing behind when it fails.** -/
theorem triple_startBot {secretId : Option String} (ht : t.2 = .start botId secretId) :
    (botDiscipline me χ).Triple t (fun m => m.Silent t) (startBot botId secretId).run fun r m =>
      onResult (fun _ => True) (fun _ => Abandoned t m) r := by
  refine triple_tryBind (triple_botToken secretId) (fun _ => stable_abandoned)
    fun token => ?_
  refine triple_liftBind (M := fun running m =>
    if running then Abandoned t m else Underway t botId token m) ?_ fun running => ?_
  · refine triple_perform
      (stable_of_leftToTask fun _ _ hl h => ⟨hl.unissued h.1, hl.token.trans h.2⟩)
      (fun _ _ _ => ⟨trivial, trivial⟩) (fun m r w _ h he => ?_) fun r => ?_
    · obtain ⟨-, rfl⟩ := he
      cases r with
      | true => exact Unissued.abandoned h.1
      | false => exact ⟨h.1, h.2, List.mem_cons_self⟩
    · cases r with
      | true => exact stable_abandoned
      | false => exact stable_underway
  cases running with
  | true => exact triple_ret stable_abandoned fun _ _ h => h
  | false =>
    refine triple_tryBind triple_identifyBot (fun _ => stable_abandoned) fun n => ?_
    intro m hinv h
    refine triple_tryBind (triple_claimNumericBot ⟨botId, secretId, ht⟩ h.2)
      (fun _ => stable_abandoned) (fun guard => ?_) m hinv h.1
    rintro m hinv ⟨rfl, hbot, hclaimed⟩
    refine triple_liftBind (triple_same
      (fun w => Claimed t guard.numericBotId botId guard.runtimeInstanceId w)
      (.setDesiredEnabled botId true) stable_claimed (fun _ _ => ⟨trivial, trivial⟩)
      fun w r w' he => he) (fun r => ?_) m hinv hclaimed
    cases r with
    | error e =>
      refine triple_attemptBind (triple_finalize_start hbot) fun _ => ?_
      exact triple_ret stable_abandoned fun _ _ h => h
    | ok _ => exact triple_launchPoller hbot

/-- Stopping a bot keeps the rules. -/
theorem triple_stopBot {disable : Bool} :
    (botDiscipline me χ).Triple t (fun _ => True) (stopBot botId disable) fun _ _ => True := by
  have hask : ∀ {c : PollerCall χ}, (∀ m, BotMay me t m c) →
      (botDiscipline me χ).Triple t (fun _ => True) (askPoller c) fun _ _ => True := fun hmay =>
    triple_perform stable_true (fun m _ _ => hmay m) (fun _ _ _ _ _ _ => trivial)
      fun _ => stable_true
  have hret : ∀ {α : Type} (a : α), (botDiscipline me χ).Triple t (fun _ => True)
      (.ret a : PollerProgram χ α) fun _ _ => True := fun a =>
    triple_ret stable_true fun _ _ _ => trivial
  have hjoin : ∀ guard, (botDiscipline me χ).Triple t (fun _ => True) (joinPoller botId guard)
      fun _ _ => True := by
    intro guard
    -- pollers do not panic
    refine triple_call (fun r _ => ∃ result, r = .returned result)
      stable_true (fun _ _ _ => ⟨trivial, trivial⟩) (fun m r w _ _ he => he.1) fun r => ?_
    cases r with
    | returned result => exact (hret _).weaken (fun _ _ _ => trivial) fun _ _ _ _ => trivial
    | panicked message => exact fun _ _ ⟨_, h⟩ => nomatch h
  have hstop : (botDiscipline me χ).Triple t (fun _ => True) (stopPoller botId)
    fun _ _ => True := by
    refine triple_bind (hask fun _ => ⟨trivial, trivial⟩) fun r => ?_
    rcases r with e | (_ | ⟨guard, waits⟩)
    · exact hret _
    · exact hret _
    · refine triple_bind (hask fun _ => ⟨trivial, trivial⟩) fun _ => ?_
      cases waits with
      | true => exact triple_bind (hjoin guard) fun _ => hret _
      | false => exact hret _
  refine triple_bind hstop fun stopped => ?_
  obtain ⟨stopped, goesOn⟩ := stopped
  dsimp only
  split
  · exact triple_bind (hask fun _ => ⟨trivial, trivial⟩) fun _ => hret _
  · exact hret _

end Start

end ImBridge
