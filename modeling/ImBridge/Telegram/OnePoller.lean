import ImBridge.Telegram.Cleanup

/-!
# One poller for each bot

A start finds its row without a runtime long before it enters one, and in between it only has the
numeric id of its bot. So two starts of one row that have read the tokens of two bots both go on,
and the poller of the first is no longer in the table of runtimes once the second is entered. If a
start that finds its row without a runtime has read the token of the same bot as all other starts of
the row that are on their way, then there is one poller for each numeric id and for each row, and it
is the one in the table of runtimes.

## Main definitions

* `Running`: a poller has its signal and has not given back its numeric id
* `SameBot`: the starts of a row that are on their way agree on the bot
* `Holdings.Separate`: what keeps the runtimes of a row apart

## Main results

* `Holdings.Separate.step`: permitted calls keep the runtimes of a row apart
* `one_poller_per_bot`: one poller for each numeric id and each row
* `two_pollers_for_one_row`: two starts of one row, with the tokens of two bots
-/

namespace ImBridge

open Interleaving Function

variable {χ : Signature} {lib : Primitives} {app : UpdateHandler χ} {me : String → Json}

/-- A runtime in this stage has to be in the table of runtimes. -/
def RuntimeStage.Listed : RuntimeStage → Prop
  | entered _ | signalled _ | begun .. => True
  | claimed .. | spawned _ | dropped _ | leaving .. => False

variable {s : RuntimeStage}

theorem RuntimeStage.Listed.guard (h : s.Listed) : ∃ g, s.guard? = some g := by
  cases s <;> first | exact h.elim | exact ⟨_, rfl⟩

theorem RuntimeStage.Listed.holds (h : s.Listed) : s.Holds := by
  cases s <;> first | exact h.elim | exact trivial

/-- The task that polls in this stage, or gives back what it holds. -/
def RuntimeStage.poller? : RuntimeStage → Option (PollerOwnershipGuard × BotTask)
  | begun g t | leaving g t => some (g, t)
  | claimed .. | spawned _ | entered _ | signalled _ | dropped _ => none

theorem RuntimeStage.poller?_leave (s : RuntimeStage) : s.leave.poller? = s.poller? := by
  cases s <;> rfl

variable {c : PollerCall χ}

namespace Holdings

/-- What Telegram says of the bot whose token the task has read. -/
def identity (me : String → Json) (h : Holdings) (t : BotTask) : Option Json := (h.token t).map me

/-- **What keeps the runtimes of a row apart**: the starts of a row that are on their way have read
tokens of one bot, which is also the bot of every runtime that the row has; and a runtime that has
its numeric id is in the table of runtimes, or on its way there. -/
structure Separate (me : String → Json) (h : Holdings) : Prop where
  agree : ∀ t u botId, (t, botId) ∈ h.starting → (u, botId) ∈ h.starting →
    h.identity me t = h.identity me u
  rival : ∀ t n botId id, (t, botId) ∈ h.starting → h.active n = some (botId, id) →
    ∃ answer, h.identity me t = some answer ∧ parseNumericBotId answer = .ok n
  listed : ∀ id s, h.stage id = some s → s.Listed → h.runtime s.botId = s.guard?
  pending : ∀ n botId id, h.active n = some (botId, id) →
    (∃ s, h.stage id = some s ∧ s.Listed) ∨ ∃ u, (id, u) ∈ h.issued ∧ (u, botId) ∈ h.starting
  polls : ∀ id s g t, h.stage id = some s → s.poller? = some (g, t) →
    ∃ rounds, t.2 = .poller g rounds

variable {h h' : Holdings} {t : BotTask} {id : String}

/-- A runtime moves on without entering the table of runtimes or leaving it. -/
theorem Separate.setStage (hk : h.Separate me) {s s' : RuntimeStage} (hs : h.stage id = some s)
    (hlisted : s'.Listed ↔ s.Listed) (hb : s'.botId = s.botId)
    (hg : s.Listed → s'.guard? = s.guard?)
    (hpolls : ∀ g t, s'.poller? = some (g, t) → ∃ rounds, t.2 = .poller g rounds) :
    Separate me { h with stage := update h.stage id (some s') } := by
  obtain ⟨hagree, hrival, hlist, hpending, hpoll⟩ := hk
  refine ⟨hagree, hrival, ?_, ?_, ?_⟩ <;> simp only [update_apply] <;> grind

variable {g : PollerOwnershipGuard}

theorem Separate.not_issued (hv : h.Valid) (hk : h.Separate me) (hs : h.stage id = some s)
    (ht : s.poller? = some (g, t)) (id' : String) :
    (id', t) ∉ h.issued := by
  intro hid
  obtain ⟨rounds, hjob⟩ := hk.polls id s g t hs ht
  obtain ⟨botId, secretId, hjob'⟩ := hv.starter id' t hid
  cases hjob.symm.trans hjob'

theorem mem_leave_starting {u : BotTask} {botId : String} :
    (u, botId) ∈ (h.leave t).starting ↔ (u, botId) ∈ h.starting ∧ u ≠ t := by
  simp [leave]

/-- A start ends that has no runtime with a numeric id, except for those in the table. -/
theorem Separate.leave (hk : h.Separate me)
    (ht : ∀ n botId id, (id, t) ∈ h.issued → h.active n = some (botId, id) →
      ∃ s, h.stage id = some s ∧ s.Listed) : (h.leave t).Separate me := by
  refine ⟨fun u v botId hu hv => ?_, fun u n botId id hu hactive => ?_, hk.listed,
    fun n botId id hactive => ?_, hk.polls⟩
  · exact hk.agree u v botId (mem_leave_starting.mp hu).1 (mem_leave_starting.mp hv).1
  · exact hk.rival u n botId id (mem_leave_starting.mp hu).1 hactive
  · rcases hk.pending n botId id hactive with hl | ⟨u, hissued, hu⟩
    · exact .inl hl
    · by_cases heq : u = t
      · subst heq
        exact .inl (ht n botId id hissued hactive)
      · exact .inr ⟨u, hissued, mem_leave_starting.mpr ⟨hu, heq⟩⟩

variable (hv : h.Valid)
include hv

variable (hk : h.Separate me)
include hk

/-- A start that finds its row without a runtime agrees with the others of the row. -/
theorem Separate.check {botId : String} (hnone : h.runtime botId = none)
    (hsame : ∀ u, (u, botId) ∈ h.starting → h.identity me u = h.identity me t) :
    Separate me { h with starting := (t, botId) :: h.starting } := by
  refine ⟨fun u u' botId' hu hu' => ?_, fun u n botId' id hu hactive => ?_, hk.listed,
    fun n botId' id hactive => ?_, hk.polls⟩
  · rcases List.mem_cons.mp hu with heq | hmem <;> rcases List.mem_cons.mp hu' with heq' | hmem'
    · rw [(Prod.mk.inj heq).1, (Prod.mk.inj heq').1]
    · obtain ⟨rfl, rfl⟩ := Prod.mk.inj heq
      exact (hsame u' hmem').symm
    · obtain ⟨rfl, rfl⟩ := Prod.mk.inj heq'
      exact hsame u hmem
    · exact hk.agree u u' botId' hmem hmem'
  · rcases List.mem_cons.mp hu with hu | hu
    · obtain ⟨rfl, rfl⟩ := Prod.mk.inj hu
      -- no runtime of the row is in the table, so the one with the numeric id is on its way
      rcases hk.pending n _ id hactive with ⟨s, hs, hl⟩ | ⟨v, -, hv'⟩
      · obtain ⟨s', hs', -, hb⟩ := hv.active n _ id hactive
        cases hs.symm.trans hs'
        have hruntime := hk.listed id s hs hl
        obtain ⟨g, hg⟩ := hl.guard
        rw [hb, hnone, hg] at hruntime
        cases hruntime
      · obtain ⟨answer, hanswer, hparse⟩ := hk.rival v n _ id hv' hactive
        exact ⟨answer, (hsame v hv').symm.trans hanswer, hparse⟩
    · exact hk.rival u n botId' id hu hactive
  · refine (hk.pending n botId' id hactive).imp_right ?_
    rintro ⟨u, hissued, hu⟩
    exact ⟨u, hissued, List.mem_cons_of_mem _ hu⟩

omit hv in
theorem Separate.claim {n : ℤ} {botId token : String} (hissued : (id, t) ∈ h.issued)
    (hstage : h.stage id = none) (hstarting : (t, botId) ∈ h.starting)
    (htoken : h.token t = some token) (hparse : parseNumericBotId (me token) = .ok n) :
    Separate me
      { h with active := update h.active n (some (botId, id))
               stage := update h.stage id (some (.claimed n botId)) } := by
  have hidentity : h.identity me t = some (me token) := by rw [identity, htoken, Option.map_some]
  obtain ⟨hagree, hrival, hlist, hpending, hpoll⟩ := hk
  refine ⟨hagree, fun u n' botId' id' hu hactive => ?_, ?_, ?_, ?_⟩
  · rcases update_some_eq_some hactive with ⟨rfl, heq⟩ | ⟨-, hactive⟩
    · cases heq
      exact ⟨me token, (hagree u t _ hu hstarting).trans hidentity, hparse⟩
    · exact hrival u n' botId' id' hu hactive
  all_goals
    simp only [update_apply]
    grind [RuntimeStage.Listed, RuntimeStage.poller?]

/-- **A runtime is entered**: it is the only one of its row, since its start and the others of the
row agree on the bot, and the bot has one runtime with its numeric id. -/
theorem Separate.enter (hissued : (g.runtimeInstanceId, t) ∈ h.issued)
    (hstarting : (t, g.internalBotId) ∈ h.starting)
    (hstage : h.stage g.runtimeInstanceId = some (.spawned g)) :
    Separate me (Holdings.leave
      { h with runtime := update h.runtime g.internalBotId (some g)
               stage := update h.stage g.runtimeInstanceId (some (.entered g)) } t) := by
  refine Separate.leave ⟨hk.agree, hk.rival, fun id s hs hl => ?_, fun n botId id hactive => ?_,
    fun id s g' u hs hu => ?_⟩ fun n botId id hid hactive => ?_
  · rcases update_some_eq_some hs with ⟨-, rfl⟩ | ⟨hne, hs⟩
    · exact update_self ..
    · have hother : s.botId ≠ g.internalBotId := by
        intro hb
        have hactive := hv.held id s hs hl.holds
        rw [hb] at hactive
        have hown := hv.held _ _ hstage trivial
        obtain ⟨a, ha, hn⟩ := hk.rival t _ _ _ hstarting hactive
        obtain ⟨a', ha', hn'⟩ := hk.rival t _ _ _ hstarting hown
        cases ha.symm.trans ha'
        rw [Except.ok.inj (hn.symm.trans hn')] at hactive
        exact hne (Prod.mk.inj (Option.some.inj (hactive.symm.trans hown))).2
      exact (update_of_ne hother ..).trans (hk.listed id s hs hl)
  · have hpending := hk.pending n botId id hactive
    simp only [update_apply]
    grind [RuntimeStage.Listed]
  · have hpolls := hk.polls id
    simp only [update_apply] at hs
    grind [RuntimeStage.poller?]
  · cases hv.single id _ t hid hissued
    exact ⟨.entered g, update_self .., trivial⟩

/-- A runtime gives back its numeric id, and leaves the table of runtimes next. -/
theorem Separate.release (hown : h.Own t id) (hs : h.stage id = some s) :
    Separate me (Holdings.leave
      { h with active := update h.active s.numericBotId
                ((h.active s.numericBotId).filter (· ≠ (s.botId, id)))
               stage := update h.stage id (some s.leave) } t) := by
  -- no numeric id is left to the runtime
  have hgone : ∀ n botId, update h.active s.numericBotId
      ((h.active s.numericBotId).filter (· ≠ (s.botId, id))) n ≠ some (botId, id) := by
    intro n botId hactive
    obtain ⟨hactive, hne⟩ := update_filter_eq_some.mp hactive
    obtain ⟨s', hs', rfl, rfl⟩ := hv.active n botId id hactive
    cases hs.symm.trans hs'
    exact of_decide_eq_true (hne rfl) rfl
  refine Separate.leave ⟨hk.agree, fun u n botId id' hu hactive => ?_, fun id' s' hs' hl => ?_,
    fun n botId id' hactive => ?_, fun id' s' g u hs' hu => ?_⟩ fun n botId id' hid hactive => ?_
  · exact hk.rival u n botId id' hu (update_filter_eq_some.mp hactive).1
  · rcases update_some_eq_some hs' with ⟨-, rfl⟩ | ⟨-, hs'⟩
    · exact absurd hl.holds (hown.not_holds_leave hs)
    · exact hk.listed id' s' hs' hl
  · have hne : id' ≠ id := by
      rintro rfl
      exact hgone n botId hactive
    refine (hk.pending n botId id' (update_filter_eq_some.mp hactive).1).imp_left ?_
    rintro ⟨s', hs', hl⟩
    exact ⟨s', (update_of_ne hne ..).trans hs', hl⟩
  · rcases update_some_eq_some hs' with ⟨-, rfl⟩ | ⟨-, hs'⟩
    · exact hk.polls id s g u hs (s.poller?_leave.symm.trans hu)
    · exact hk.polls id' s' g u hs' hu
  · rcases hown with ⟨hissued, -⟩ | ⟨g, hpolls⟩
    · cases hv.single id' id t hid hissued
      exact absurd hactive (hgone n botId)
    · -- the poller that gives back the id has drawn no runtime
      rcases hpolls with hpolls | hpolls
      · exact absurd hid (hk.not_issued hv hpolls rfl id')
      · exact absurd hid (hk.not_issued hv hpolls rfl id')

/-- A runtime without a numeric id leaves the table of runtimes. -/
theorem Separate.remove (botId : String) (hgone : ∀ n botId, h.active n ≠ some (botId, id)) :
    Separate me
      { h with runtime := update h.runtime botId
                ((h.runtime botId).filter (·.runtimeInstanceId ≠ id)) } := by
  refine ⟨hk.agree, hk.rival, fun id' s hs hl => ?_, hk.pending, hk.polls⟩
  obtain ⟨g, hg⟩ := hl.guard
  have hruntime := hk.listed id' s hs hl
  rw [hg] at hruntime ⊢
  refine update_filter_eq_some.mpr ⟨hruntime, fun _ => decide_eq_true ?_⟩
  intro hid
  rw [hv.named id' s g hs hg] at hid
  subst hid
  exact hgone _ _ (hv.held _ s hs hl.holds)

/-- **Permitted calls keep the runtimes of a row apart**, if starts agree when they find their row
without a runtime. -/
theorem Separate.step (hmay : h.May t c) (hstart : h.MayStart me t c)
    (hsame : ∀ botId, c = .isRunning botId → h.runtime botId = none → ∀ u, (u, botId) ∈ h.starting →
      h.identity me u = h.identity me t) (hs : h.Step t c h') : h'.Separate me := by
  cases hs with
  | keep => exact hk
  | read secretId token =>
    have hidentity : ∀ u botId, (u, botId) ∈ h.starting →
        identity me { h with token := update h.token t token } u = h.identity me u := by
      intro u botId hu
      have hne : u ≠ t := by
        rintro rfl
        exact hstart botId hu
      exact congrArg (Option.map me) (update_of_ne hne ..)
    refine ⟨fun u u' botId hu hu' => ?_, fun u n botId id hu hactive => ?_, hk.listed, hk.pending,
      hk.polls⟩
    · rw [hidentity u botId hu, hidentity u' botId hu']
      exact hk.agree u u' botId hu hu'
    · rw [hidentity u botId hu]
      exact hk.rival u n botId id hu hactive
  | check botId hnone => exact hk.check hv hnone (hsame botId rfl hnone)
  | fail c hc =>
    -- the start has no runtime yet, or one without a place
    refine hk.leave fun n botId id hid hactive => ?_
    cases c with
    | insertActive n' botId' id' epoch =>
      cases hv.single id id' t hid hmay.1
      obtain ⟨s, hs, -⟩ := hv.active n botId _ hactive
      cases hs.symm.trans hmay.2
    | buildClient | telegramApiBase | getMe token => exact absurd hid (hstart id)
    | _ => exact hc.elim
  | issue id hfresh =>
    refine ⟨hk.agree, hk.rival, hk.listed, fun n botId id' hactive => ?_, hk.polls⟩
    refine (hk.pending n botId id' hactive).imp_right ?_
    rintro ⟨u, hissued, hu⟩
    exact ⟨u, List.mem_cons_of_mem _ hissued, hu⟩
  | claim n botId id epoch hnone =>
    obtain ⟨hstarting, token, htoken, hparse⟩ := hstart
    exact hk.claim hmay.1 hmay.2 hstarting htoken hparse
  | release n botId id =>
    obtain ⟨hown, s, hs, rfl, rfl⟩ := hmay
    rw [hs]
    exact hk.release hv hown hs
  | bind n binding hpos | unbind n id => exact ⟨hk.agree, hk.rival, hk.listed, hk.pending, hk.polls⟩
  | spawn botId token guard => exact hk.setStage hmay.2.1 .rfl rfl False.elim nofun
  | enter botId guard hstage =>
    obtain ⟨hissued, rfl⟩ := hmay
    exact hk.enter hv hissued hstart hstage
  | signal id guard hstage => exact hk.setStage hstage .rfl rfl (fun _ => rfl) nofun
  | begin id guard rounds hjob hstage =>
    refine hk.setStage hstage .rfl rfl (fun _ => rfl) fun g u hu => ?_
    cases hu
    exact ⟨rounds, hjob⟩
  | letGo id guard rounds hjob hstage =>
    refine hk.setStage hstage .rfl rfl False.elim fun g u hu => ?_
    cases hu
    exact ⟨rounds, hjob⟩
  | remove botId id => exact hk.remove hv botId hmay

omit hk

/-- A poller that has begun is moved on only by giving back its numeric id. -/
theorem Step.begun {u : BotTask} (hmay : h.May u c) (hs : h.Step u c h')
    (hbegun : h.stage id = some (.begun g t)) :
    h'.stage id = some (.begun g t) ∨ ∃ n botId id', c = .releaseActive n botId id' ∧ u = t := by
  have hown : h.Own t id := .inr ⟨g, .inl hbegun⟩
  by_cases hu : u = t
  · cases hs with
    | claim n botId id' epoch hnone =>
      refine .inl ((update_of_ne ?_ ..).trans hbegun)
      rintro rfl
      cases hbegun.symm.trans hmay.2
    | release n botId id' => exact .inr ⟨n, botId, id', rfl, hu⟩
    | spawn botId token guard =>
      refine .inl ((update_of_ne ?_ ..).trans hbegun)
      rintro rfl
      cases hbegun.symm.trans hmay.2.1
    | enter botId guard hstage | signal id' guard hstage | begin id' guard rounds hjob hstage
    | letGo id' guard rounds hjob hstage =>
      exact .inl ((update_of_ne (hown.ne_of_waits hstage trivial).symm ..).trans hbegun)
    | _ => exact .inl hbegun
  · exact .inl ((KeptFor.of_step hv hown hu hmay hs).stage.trans hbegun)

end Holdings

/-! ## Pollers that run -/

/-- The task gets its signal. -/
def begins (t : BotTask) : Event (pollerCalls χ) BotTask → Bool
  | ⟨u, .awaitStart _, true⟩ => u = t
  | _ => false

/-- The task gives back its numeric id; all that it does then is leave the table of runtimes. -/
def givesBack (t : BotTask) : Event (pollerCalls χ) BotTask → Bool
  | ⟨u, .releaseActive .., _⟩ => u = t
  | _ => false

/-- **A poller runs**: it has its signal, and has not given back its numeric id. -/
def Running (t : BotTask) (m : BotMoment χ) : Prop :=
  (∃ e ∈ m.trace, begins t e = true) ∧ ∀ e ∈ m.trace, givesBack t e = false

instance (t : BotTask) (m : BotMoment χ) : Decidable (Running t m) := by
  unfold Running
  infer_instance

/-- A start that finds its row without a runtime has read the token of the same bot as the starts of
the row that are on their way. -/
def SameBot (me : String → Json) (t : BotTask) (m : BotMoment χ) :
    (c : PollerCall χ) → c.Reply → Prop
  | .isRunning botId, false => ∀ u, (u, botId) ∈ m.world.starting →
      m.world.holdings.identity me u = m.world.holdings.identity me t
  | _, _ => True

/-- The runs in which all starts agree so. -/
def agreedSemantics (me : String → Json) (χ : Signature) :
    Semantics (pollerCalls χ) BotTask BotWorld :=
  (botSemantics me χ).restrict fun t m c r _ => SameBot me t m c r

/-- The runtimes of a row are kept apart, and a poller that runs is in its stage. -/
structure Orderly (me : String → Json) (m : BotMoment χ) : Prop where
  separate : m.world.holdings.Separate me
  stage : ∀ t, Running t m → ∃ g id, m.world.stage id = some (.begun g t)

variable {w : BotWorld} {m : BotMoment χ}

theorem Running.of_after {t u : BotTask} {r : c.Reply} (h : Running t (m.after u c r w)) :
    givesBack t ⟨u, c, r⟩ = false ∧ (Running t m ∨ begins t ⟨u, c, r⟩ = true) := by
  obtain ⟨⟨e, he, hbegins⟩, hback⟩ := h
  rw [Moment.after_trace] at he hback
  refine ⟨hback _ (List.mem_append_right _ List.mem_cons_self), ?_⟩
  rcases List.mem_append.mp he with he | he
  · exact .inl ⟨⟨e, he, hbegins⟩, fun e he => hback e (List.mem_append_left _ he)⟩
  · rw [List.mem_singleton.mp he] at hbegins
    exact .inr hbegins

theorem Orderly.after {t : BotTask} {r : c.Reply} (hinv : BotInv m) (hmay : BotMay me t m c)
    (he : (agreedSemantics me χ).effect t m c r w) (h : Orderly me m) :
    Orderly me (m.after t c r w) := by
  obtain ⟨he, hsame⟩ := he
  have hstep := BotEffect.step he
  refine ⟨h.separate.step hinv.valid hmay.1 hmay.2 (fun botId hc hnone => ?_) hstep,
    fun u hu => ?_⟩
  · subst hc
    obtain ⟨hreply, -⟩ := he
    rw [Option.map_eq_none_iff.mp hnone] at hreply
    subst hreply
    exact hsame
  · obtain ⟨hback, hrunning | hbegins⟩ := hu.of_after
    · obtain ⟨g, id, hstage⟩ := h.stage u hrunning
      rcases hstep.begun hinv.valid hmay.1 hstage with hkept | ⟨n, botId, id', rfl, rfl⟩
      · exact ⟨g, id, hkept⟩
      · exact absurd hback (by simp [givesBack])
    · -- the poller begins with this call
      unfold begins at hbegins
      split at hbegins
      · rename_i id heq
        cases heq
        obtain ⟨g, rounds, -, ⟨-, -, rfl⟩ | ⟨-, hfalse, -⟩⟩ := he
        · cases of_decide_eq_true hbegins
          exact ⟨g, id, update_self ..⟩
        · cases hfalse
      · cases hbegins

theorem Orderly.drifted (hd : BotDrift m.world w) (h : Orderly me m) :
    Orderly me (m.drifted w) := by
  cases hd with
  | drop id guard hspawned =>
    refine ⟨h.separate.setStage hspawned .rfl rfl False.elim nofun, fun t ht => ?_⟩
    obtain ⟨g, id', hstage⟩ := h.stage t ht
    refine ⟨g, id', (update_of_ne ?_ ..).trans hstage⟩
    rintro rfl
    cases hstage.symm.trans hspawned
  | records registry hbindings =>
    refine ⟨?_, h.stage⟩
    obtain ⟨hagree, hrival, hlisted, hpending, hpolls⟩ := h.separate
    exact ⟨hagree, hrival, hlisted, hpending, hpolls⟩

theorem orderly_start (registry : MemoryPollerRegistry) :
    Orderly (χ := χ) me ⟨BotWorld.start registry, []⟩ := by
  refine ⟨⟨nofun, nofun, nofun, nofun, fun _ _ _ _ hs => nomatch hs⟩, ?_⟩
  rintro t ⟨⟨e, he, -⟩, -⟩
  cases he

/-- **One poller for each bot**: pollers that run for one numeric id or for one row are one, and the
table of runtimes has its guard. -/
theorem one_poller_per_bot {registry : MemoryPollerRegistry}
    {P : Pool (pollerCalls χ) BotWorld BotJob.Out}
    (hP : Pool.Reachable (agreedSemantics me χ) (BotJob.body lib app) (BotWorld.start registry) P) :
    (∀ i g rounds i' g' rounds', Running (i, .poller g rounds) P.moment →
      Running (i', .poller g' rounds') P.moment →
        g.numericBotId = g'.numericBotId ∨ g.internalBotId = g'.internalBotId →
          (i, BotJob.poller g rounds) = (i', .poller g' rounds')) ∧
    ∀ i g rounds, Running (i, .poller g rounds) P.moment →
      (P.moment.world.runtime g.internalBotId).map BotRuntime.ownershipGuard = some g := by
  have hspec : ∀ j i, ((botDiscipline me χ).restrict fun t m c r _ => SameBot me t m c r).Triple
      (i, j) (fun m => m.Silent (i, j)) (BotJob.body lib app j) (botPost j i) :=
    fun j i => (triple_botJob j i).restrict
  have hinv := (Discipline.sound hspec (botInv_start registry) hP).inv
  have horderly : Orderly me P.moment := by
    exact Discipline.preserved (K := Orderly me) hspec (botInv_start registry)
      Relation.ReflTransGen.refl hP (fun t m c r w hinv hmay he h => h.after hinv hmay he)
      (fun m w _ hd h => h.drifted hd) (orderly_start registry)
  have hbegun : ∀ {i g rounds}, Running (i, .poller g rounds) P.moment →
      P.moment.world.stage g.runtimeInstanceId = some (.begun g (i, .poller g rounds)) := by
    intro i g rounds hrunning
    obtain ⟨g', id, hstage⟩ := horderly.stage _ hrunning
    obtain ⟨_, hjob⟩ := horderly.separate.polls id _ g' _ hstage rfl
    cases hjob
    rwa [hinv.valid.named id _ g hstage rfl]
  have hlisted : ∀ {i g rounds}, Running (i, .poller g rounds) P.moment →
      P.moment.world.holdings.runtime g.internalBotId = some g :=
    fun hrunning => horderly.separate.listed _ _ (hbegun hrunning) trivial
  refine ⟨fun i g rounds i' g' rounds' hi hi' hshared => ?_, fun i g rounds hi => hlisted hi⟩
  have hid : g.runtimeInstanceId = g'.runtimeInstanceId := by
    rcases hshared with hn | hb
    · -- the numeric id has one runtime
      have hactive : P.moment.world.holdings.active g.numericBotId = _ :=
        hinv.valid.held _ _ (hbegun hi) trivial
      rw [hn] at hactive
      have hactive' := hactive.symm.trans (hinv.valid.held _ _ (hbegun hi') trivial)
      exact (Prod.mk.inj (Option.some.inj hactive')).2
    · have hruntime := hlisted hi
      rw [hb] at hruntime
      rw [Option.some.inj (hruntime.symm.trans (hlisted hi'))]
  have hstage := hbegun hi
  rw [hid] at hstage
  have hsame := Option.some.inj (hstage.symm.trans (hbegun hi'))
  injection hsame

/-! ## Two starts of one row -/

section TwoStarts

/-- The guard of the second runtime, for the same row. -/
def secondGuard : PollerOwnershipGuard := ⟨8, .rustBridge, 2, "bot", "rr"⟩

/-- Two starts of one row find it without a runtime, with the tokens of two bots, and both pollers
get their signal. -/
def twoStarts : List (Move BotJob Bool) :=
  [.spawn startSeven, .spawn (.start "bot" (some "eight")), .exec 0 false, .exec 0 false,
    .exec 1 false, .exec 1 false] ++
  List.replicate 15 (.exec 0 false) ++ List.replicate 15 (.exec 1 false) ++
  [.spawn (.poller firstGuard 0), .spawn (.poller secondGuard 0), .exec 2 false, .exec 3 false]

/-- **Two pollers run for one row**, and the table of runtimes has only the second. -/
theorem two_pollers_for_one_row :
    ∃ P : Pool (pollerCalls noCalls) BotWorld BotJob.Out,
      Pool.Reachable (botSemantics sampleMe noCalls) (BotJob.body .plain silentHandler)
        (.start sampleRegistry) P ∧
      Running (2, .poller firstGuard 0) P.moment ∧ Running (3, .poller secondGuard 0) P.moment ∧
      firstGuard.internalBotId = "bot" ∧ secondGuard.internalBotId = "bot" ∧
      (P.moment.world.runtime "bot").map BotRuntime.ownershipGuard = some secondGuard := by
  have hrun : (botsAfter twoStarts).map (fun P =>
    (decide (Running (2, .poller firstGuard 0) P.moment),
      decide (Running (3, .poller secondGuard 0) P.moment),
      (P.moment.world.runtime "bot").map BotRuntime.ownershipGuard)) =
        some (true, true, some secondGuard) := by
    decide +kernel
  obtain ⟨P, hP, hresults⟩ := Option.map_eq_some_iff.mp hrun
  simp only [Prod.mk.injEq, decide_eq_true_eq] at hresults
  obtain ⟨hfirst, hsecond, hruntime⟩ := hresults
  exact ⟨P, reachable_of_botsAfter hP, hfirst, hsecond, rfl, rfl, hruntime⟩

/-- The starts that are on their way have read the token that the start that checks its row has. -/
def tokensAgree (t : BotTask) (w : BotWorld) : PollerCall noCalls → Bool
  | .isRunning _ => decide (∀ u ∈ w.starting, w.token u.1 = w.token t)
  | _ => true

/-- The effects of calls, when the starts of a row have read the same token. -/
def agreedAct (refused : Bool) (t : BotTask) (m : BotMoment noCalls) (c : PollerCall noCalls) :
    Option (c.Reply × BotWorld) :=
  if tokensAgree t m.world c then botAct sampleMe refused t m.world c else none

theorem agreedAct_effect {refused : Bool} {t : BotTask} {m : BotMoment noCalls}
    {c : PollerCall noCalls} {r : c.Reply} (h : agreedAct refused t m c = some (r, w)) :
    (agreedSemantics sampleMe noCalls).effect t m c r w := by
  unfold agreedAct at h
  split at h
  · rename_i hsame
    refine ⟨botAct_effect h, ?_⟩
    change SameBot sampleMe t m c r
    unfold SameBot
    split
    · exact fun u hu => congrArg (Option.map sampleMe) (of_decide_eq_true hsame _ hu)
    · trivial
  · cases h

/-- A row is started twice at a time, with the same token: the poller that runs is the one in the
table of runtimes. -/
theorem one_poller_per_bot_started :
    ∃ P : Pool (pollerCalls noCalls) BotWorld BotJob.Out,
      P.tasks.map (·.1) = [startSeven, startSeven, .poller firstGuard 0] ∧
      Running (2, .poller firstGuard 0) P.moment ∧
      (P.moment.world.runtime "bot").map BotRuntime.ownershipGuard = some firstGuard := by
  have hrun : ((Pool.start (.start sampleRegistry)).follow agreedAct
      (BotJob.body .plain silentHandler) startedTwice).map
        (fun P => (P.tasks.map (·.1), decide (Running (2, .poller firstGuard 0) P.moment))) =
          some ([startSeven, startSeven, .poller firstGuard 0], true) := by
    decide +kernel
  obtain ⟨P, hP, hresults⟩ := Option.map_eq_some_iff.mp hrun
  obtain ⟨htasks, hrunning⟩ := Prod.mk.inj hresults
  have hrunning := of_decide_eq_true hrunning
  have hreachable : Pool.Reachable (agreedSemantics sampleMe noCalls)
      (BotJob.body .plain silentHandler) (.start sampleRegistry) P :=
    Pool.steps_of_follow (fun _ _ _ _ _ _ hact => agreedAct_effect hact) hP
  exact ⟨P, htasks, hrunning, (one_poller_per_bot hreachable).2 2 firstGuard 0 hrunning⟩

end TwoStarts

end ImBridge
