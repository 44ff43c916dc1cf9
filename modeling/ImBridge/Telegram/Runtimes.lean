import ImBridge.Telegram.BotRuns

/-!
# What a runtime holds

Every place that a runtime has, in the table of active bots, in the table of runtimes and in the
registry, is accounted for by its stage: the stage names the numeric id and the row, and a runtime
whose poller is spawned and does not leave yet has its numeric id. A runtime belongs to one task at
a time: to the start that drew its identity until its poller is spawned, and to the poller from its
signal on. Only this task may move the runtime on, so that what it holds is left alone by all
others, except that its entry in the table of runtimes may be replaced.

## Main definitions

* `Holdings.Valid`: the places that runtimes have agree with their stages
* `Holdings.May`: what tasks may do to the places of runtimes
* `Holdings.Own`: a runtime belongs to a task
* `KeptFor`: what the others leave to a runtime

## Main results

* `Holdings.Valid.step`: permitted calls keep the places in agreement
* `Holdings.KeptFor.of_step`: the others leave a runtime that belongs to a task alone
-/

namespace ImBridge

open Interleaving Function

variable {χ : Signature} {me : String → Json}

section Entries

variable {κ β : Type} [DecidableEq κ] {f : κ → Option β} {k k' : κ} {b b' : β}

/-- An entry after one entry was set is that one, or was there before. -/
theorem update_some_eq_some (h : update f k (some b) k' = some b') :
    (k' = k ∧ b' = b) ∨ (k' ≠ k ∧ f k' = some b') := by
  by_cases heq : k' = k
  · subst heq
    rw [update_self] at h
    exact .inl ⟨rfl, (Option.some.inj h).symm⟩
  · rw [update_of_ne heq] at h
    exact .inr ⟨heq, h⟩

/-- An entry after one entry was taken, if it did not pass, was there before and is not that one. -/
theorem update_filter_eq_some {p : β → Bool} :
    update f k ((f k).filter p) k' = some b ↔ f k' = some b ∧ (k' = k → p b = true) := by
  by_cases heq : k' = k
  · subst heq
    rw [update_self, Option.filter_eq_some_iff]
    exact and_congr_right fun _ => ⟨fun h _ => h, fun h => h rfl⟩
  · rw [update_of_ne heq]
    exact ⟨fun h => ⟨h, fun h' => absurd h' heq⟩, fun h => h.1⟩

end Entries

/-- A runtime in this stage has its numeric id. -/
def RuntimeStage.Holds : RuntimeStage → Prop
  | spawned _ | entered _ | signalled _ | dropped _ | begun .. => True
  | claimed .. | leaving .. => False

/-- The poller of a runtime in this stage is spawned, and has not been let in yet. -/
def RuntimeStage.Waits : RuntimeStage → Prop
  | spawned _ | entered _ | signalled _ | dropped _ => True
  | claimed .. | begun .. | leaving .. => False

theorem RuntimeStage.leave_place (s : RuntimeStage) :
    s.leave.numericBotId = s.numericBotId ∧ s.leave.botId = s.botId ∧
      s.leave.guard? = s.guard? := by
  cases s <;> exact ⟨rfl, rfl, rfl⟩

namespace Holdings

/-- **The places that runtimes have agree with their stages.** -/
structure Valid (h : Holdings) : Prop where
  unique : ∀ id t u, (id, t) ∈ h.issued → (id, u) ∈ h.issued → t = u
  single : ∀ id id' t, (id, t) ∈ h.issued → (id', t) ∈ h.issued → id = id'
  starter : ∀ id t, (id, t) ∈ h.issued → ∃ botId secretId, t.2 = .start botId secretId
  staged : ∀ id s, h.stage id = some s → ∃ t, (id, t) ∈ h.issued
  named : ∀ id s g, h.stage id = some s → s.guard? = some g → g.runtimeInstanceId = id
  active : ∀ n botId id, h.active n = some (botId, id) →
    ∃ s, h.stage id = some s ∧ s.numericBotId = n ∧ s.botId = botId
  runtime : ∀ botId g, h.runtime botId = some g →
    ∃ s, h.stage g.runtimeInstanceId = some s ∧ s.guard? = some g ∧ s.botId = botId
  bound : ∀ n id, h.bound n = some id → 0 < n ∧ ∃ s, h.stage id = some s ∧ s.numericBotId = n
  held : ∀ id s, h.stage id = some s → s.Holds → h.active s.numericBotId = some (s.botId, id)

/-- **The runtime belongs to the task**: it has drawn it and not spawned its poller yet, or it is
its poller. -/
def Own (h : Holdings) (t : BotTask) (id : String) : Prop :=
  ((id, t) ∈ h.issued ∧ (h.stage id = none ∨ ∃ n botId, h.stage id = some (.claimed n botId))) ∨
    ∃ g, h.stage id = some (.begun g t) ∨ h.stage id = some (.leaving g t)

/-- When a task may make a call, as far as the places of runtimes are concerned. -/
def May (h : Holdings) (t : BotTask) : PollerCall χ → Prop
  | .newRuntimeInstanceId =>
    (∃ botId secretId, t.2 = .start botId secretId) ∧ ∀ id, (id, t) ∉ h.issued
  | .insertActive _ _ id _ => (id, t) ∈ h.issued ∧ h.stage id = none
  | .releaseActive n botId id =>
    h.Own t id ∧ ∃ s, h.stage id = some s ∧ s.numericBotId = n ∧ s.botId = botId
  | .claimRuntime n binding =>
    (binding.runtimeInstanceId, t) ∈ h.issued ∧
      ∃ botId, h.stage binding.runtimeInstanceId = some (.claimed n botId)
  | .newLifecycle id _ | .beginDraining id | .markStopped id => h.Own t id
  | .spawnPoller _ _ g =>
    (g.runtimeInstanceId, t) ∈ h.issued ∧
      h.stage g.runtimeInstanceId = some (.claimed g.numericBotId g.internalBotId) ∧
        h.active g.numericBotId = some (g.internalBotId, g.runtimeInstanceId)
  | .insertRuntime botId g => (g.runtimeInstanceId, t) ∈ h.issued ∧ botId = g.internalBotId
  | .sendStart id => (id, t) ∈ h.issued
  | .removeRuntime _ id => ∀ n botId, h.active n ≠ some (botId, id)
  | _ => True

variable {h h' : Holdings} {t : BotTask} {id : String}

/-! ## Permitted calls keep the places in agreement -/

variable (hv : h.Valid)
include hv

/-- A runtime moves on to a stage of the same place. -/
theorem Valid.setStage {s s' : RuntimeStage} (hs : h.stage id = some s)
    (hn : s'.numericBotId = s.numericBotId) (hb : s'.botId = s.botId)
    (hguard : ∀ g, s.guard? = some g → s'.guard? = some g)
    (hnamed : ∀ g, s'.guard? = some g → g.runtimeInstanceId = id)
    (hheld : s'.Holds → h.active s.numericBotId = some (s.botId, id)) :
    { h with stage := update h.stage id (some s') }.Valid := by
  obtain ⟨hunique, hsingle, hstarter, hstaged, hnames, hactive, hruntime, hbound, hholds⟩ := hv
  constructor <;> simp only [update_apply] <;> grind

/-- A runtime that does not hold its numeric id any more gives it back. -/
theorem Valid.releaseActive (n : ℤ) (botId : String) (hid : ∀ s, h.stage id = some s → ¬ s.Holds) :
    { h with
      active := update h.active n ((h.active n).filter (· ≠ (botId, id))) }.Valid := by
  refine ⟨hv.unique, hv.single, hv.starter, hv.staged, hv.named, fun n' botId' id' hactive => ?_,
    hv.runtime, hv.bound, fun id' s hs hholds => ?_⟩
  · exact hv.active n' botId' id' (update_filter_eq_some.mp hactive).1
  · refine update_filter_eq_some.mpr ⟨hv.held id' s hs hholds, fun _ => decide_eq_true ?_⟩
    intro heq
    cases heq
    exact hid s hs hholds

variable {s : RuntimeStage}

theorem Valid.setRuntime {g : PollerOwnershipGuard} (hs : h.stage g.runtimeInstanceId = some s)
    (hg : s.guard? = some g) {botId : String} (hb : s.botId = botId) :
    { h with runtime := update h.runtime botId (some g) }.Valid := by
  refine ⟨hv.unique, hv.single, hv.starter, hv.staged, hv.named, hv.active,
    fun botId' g' hruntime => ?_, hv.bound, hv.held⟩
  rcases update_some_eq_some hruntime with ⟨rfl, rfl⟩ | ⟨-, hruntime⟩
  · exact ⟨s, hs, hg, hb⟩
  · exact hv.runtime botId' g' hruntime

theorem Valid.issue (hstart : ∃ botId secretId, t.2 = .start botId secretId)
    (hnone : ∀ id, (id, t) ∉ h.issued) (hfresh : ∀ u, (id, u) ∉ h.issued) :
    { h with issued := (id, t) :: h.issued }.Valid := by
  refine ⟨fun id' a b ha hb => ?_, fun id₁ id₂ a h₁ h₂ => ?_, fun id' a ha => ?_,
    fun id' s hs => ?_, hv.named, hv.active, hv.runtime, hv.bound, hv.held⟩
  · grind [hv.unique]
  · grind [hv.single]
  · grind [hv.starter]
  · grind [hv.staged]

theorem Valid.claim (hissued : (id, t) ∈ h.issued) (hstage : h.stage id = none) {n : ℤ}
    (hnone : h.active n = none) (botId : String) :
    { h with active := update h.active n (some (botId, id))
             stage := update h.stage id (some (.claimed n botId)) }.Valid := by
  obtain ⟨hunique, hsingle, hstarter, hstaged, hnames, hactive, hruntime, hbound, hholds⟩ := hv
  have hplace : (RuntimeStage.claimed n botId).numericBotId = n ∧
    (RuntimeStage.claimed n botId).botId = botId := ⟨rfl, rfl⟩
  constructor <;> simp only [update_apply] <;> grind [RuntimeStage.Holds, RuntimeStage.guard?]

omit hv in
/-- The stage of a runtime that belongs to a task, after it has given back its numeric id. -/
theorem Own.not_holds_leave (hown : h.Own t id) (hs : h.stage id = some s) :
    ¬ s.leave.Holds := by
  unfold Own at hown
  grind [RuntimeStage.leave, RuntimeStage.Holds]

theorem Valid.leave (t : BotTask) : (h.leave t).Valid :=
  ⟨hv.unique, hv.single, hv.starter, hv.staged, hv.named, hv.active, hv.runtime, hv.bound, hv.held⟩

variable {c : PollerCall χ}

/-- **Permitted calls keep the places in agreement.** -/
theorem Valid.step (hmay : h.May t c) (hs : h.Step t c h') :
    h'.Valid := by
  cases hs with
  | keep => exact hv
  | read secretId token | check botId hnone =>
    exact ⟨hv.unique, hv.single, hv.starter, hv.staged, hv.named, hv.active, hv.runtime, hv.bound,
      hv.held⟩
  | fail _ hc => exact hv.leave t
  | issue id hfresh => exact hv.issue hmay.1 hmay.2 hfresh
  | claim n botId id epoch hnone => exact hv.claim hmay.1 hmay.2 hnone botId
  | release n botId id =>
    obtain ⟨hown, s, hs, hn, hb⟩ := hmay
    obtain ⟨hln, hlb, hlg⟩ := s.leave_place
    -- once its stage is left, the runtime needs its numeric id no more
    have hleft := hv.setStage hs hln hlb (fun g hg => hlg.trans hg)
      (fun g hg => hv.named id s g hs (hlg.symm.trans hg))
      (fun hholds => absurd hholds (hown.not_holds_leave hs))
    rw [hs]
    refine (hleft.releaseActive n botId fun s' hs' => ?_).leave t
    rcases update_some_eq_some hs' with ⟨-, rfl⟩ | ⟨hne, -⟩
    · exact hown.not_holds_leave hs
    · exact absurd rfl hne
  | bind n binding hpos =>
    obtain ⟨-, botId, hstage⟩ := hmay
    refine ⟨hv.unique, hv.single, hv.starter, hv.staged, hv.named, hv.active, hv.runtime,
      fun n' id' hbound => ?_, hv.held⟩
    rcases update_some_eq_some hbound with ⟨rfl, rfl⟩ | ⟨-, hbound⟩
    · exact ⟨hpos, _, hstage, rfl⟩
    · exact hv.bound n' id' hbound
  | unbind n id =>
    exact ⟨hv.unique, hv.single, hv.starter, hv.staged, hv.named, hv.active, hv.runtime,
      fun n' id' hbound => hv.bound n' id' (update_filter_eq_some.mp hbound).1, hv.held⟩
  | spawn botId token guard =>
    obtain ⟨-, hstage, hactive⟩ := hmay
    exact hv.setStage hstage rfl rfl (fun _ hg => nomatch hg) (fun g hg => by cases hg; rfl)
      fun _ => hactive
  | enter botId guard hstage =>
    obtain ⟨-, rfl⟩ := hmay
    have hnext : Valid { h with
        stage := update h.stage guard.runtimeInstanceId (some (.entered guard)) } :=
      hv.setStage hstage rfl rfl (fun _ hg => hg) (fun g hg => by cases hg; rfl)
        fun _ => hv.held _ _ hstage trivial
    exact (hnext.setRuntime (update_self ..) rfl rfl).leave t
  | signal id guard hstage | begin id guard rounds hjob hstage =>
    exact hv.setStage hstage rfl rfl (fun _ hg => hg) (fun g hg => hv.named id _ g hstage hg)
      fun _ => hv.held _ _ hstage trivial
  | letGo id guard rounds hjob hstage =>
    exact hv.setStage hstage rfl rfl (fun _ hg => hg)
      (fun g hg => hv.named id _ g hstage hg) False.elim
  | remove botId id =>
    exact ⟨hv.unique, hv.single, hv.starter, hv.staged, hv.named, hv.active,
      fun botId' g hruntime => hv.runtime botId' g (update_filter_eq_some.mp hruntime).1,
      hv.bound, hv.held⟩

/-! ## A runtime that belongs to a task -/

variable {u : BotTask}

theorem Own.unique (ht : h.Own t id) (hu : h.Own u id) : t = u := by
  have hunique := hv.unique id t u
  unfold Own at ht hu
  grind

omit hv

/-- No poller that waits for its signal belongs to a task. -/
theorem Own.ne_of_waits (hown : h.Own t id) {id' : String} (hs : h.stage id' = some s)
    (hwaits : s.Waits) : id' ≠ id := by
  unfold Own at hown
  grind [RuntimeStage.Waits]

/-- **What the others leave to a runtime**: its stage and its numeric id; the rest of its places can
only become fewer. -/
structure KeptFor (id : String) (h h' : Holdings) : Prop where
  stage : h'.stage id = h.stage id
  active : ∀ n botId, h'.active n = some (botId, id) ↔ h.active n = some (botId, id)
  runtime : ∀ botId g, g.runtimeInstanceId = id → h'.runtime botId = some g →
    h.runtime botId = some g
  bound : ∀ n, h'.bound n = some id → h.bound n = some id

theorem KeptFor.refl (id : String) (h : Holdings) : h.KeptFor id h :=
  ⟨rfl, fun _ _ => .rfl, fun _ _ _ hg => hg, fun _ hn => hn⟩

theorem KeptFor.setStage {id' : String} (hne : id' ≠ id) (s : Option RuntimeStage) :
    h.KeptFor id { h with stage := update h.stage id' s } :=
  ⟨update_of_ne hne.symm .., fun _ _ => .rfl, fun _ _ _ hg => hg, fun _ hn => hn⟩

/-- The others leave a runtime that belongs to a task alone. -/
theorem KeptFor.of_step (hv : h.Valid) (hown : h.Own t id) (hu : u ≠ t) (hmay : h.May u c)
    (hs : h.Step u c h') : h.KeptFor id h' := by
  -- a task moves only runtimes that are its own, and those that wait for their poller
  have hapart : ∀ {id'}, h.Own u id' → id' ≠ id := by
    rintro id' hown' rfl
    exact hu (hown'.unique hv hown)
  cases hs with
  | keep => exact .refl id h
  | read secretId token | check botId hnone | fail _ hc | issue id' hfresh =>
    exact ⟨rfl, fun _ _ => .rfl, fun _ _ _ hg => hg, fun _ hn => hn⟩
  | claim n botId id' epoch hnone =>
    have hne := hapart (.inl ⟨hmay.1, .inl hmay.2⟩)
    constructor <;> simp only [update_apply] <;> grind
  | release n botId id' =>
    have hne := hapart hmay.1
    refine ⟨update_of_ne hne.symm .., fun n' botId' => ?_, fun _ _ _ hg => hg,
      fun _ hn => hn⟩
    refine update_filter_eq_some.trans (and_iff_left fun _ => decide_eq_true ?_)
    exact fun heq => hne (Prod.mk.inj heq).2.symm
  | bind n binding hpos =>
    obtain ⟨hissued, botId, hstage⟩ := hmay
    have hne := hapart (.inl ⟨hissued, .inr ⟨n, botId, hstage⟩⟩)
    constructor <;> simp only [update_apply] <;> grind
  | unbind n id' =>
    exact ⟨rfl, fun _ _ => .rfl, fun _ _ _ hg => hg, fun _ hn => (update_filter_eq_some.mp hn).1⟩
  | spawn botId token guard =>
    exact .setStage (hapart (.inl ⟨hmay.1, .inr ⟨_, _, hmay.2.1⟩⟩)) _
  | enter botId guard hstage =>
    have hne := hown.ne_of_waits hstage trivial
    constructor <;> simp only [leave, update_apply] <;> grind
  | signal id' guard hstage | begin id' guard rounds hjob hstage
  | letGo id' guard rounds hjob hstage => exact .setStage (hown.ne_of_waits hstage trivial) _
  | remove botId id' =>
    exact ⟨rfl, fun _ _ => .rfl, fun _ _ _ hg => (update_filter_eq_some.mp hg).1, fun _ hn => hn⟩

theorem Step.issued_mono (hs : h.Step t c h') {id : String} (hu : (id, u) ∈ h.issued) :
    (id, u) ∈ h'.issued := by
  cases hs with
  | issue id' hfresh => exact List.mem_cons_of_mem _ hu
  | _ => exact hu

theorem Own.issued (hv : h.Valid) (hown : h.Own t id) : ∃ u, (id, u) ∈ h.issued := by
  rcases hown with ⟨hissued, -⟩ | ⟨g, hs | hs⟩
  · exact ⟨t, hissued⟩
  · exact hv.staged id _ hs
  · exact hv.staged id _ hs

/-- The others leave a task its identities, its token and its start. -/
theorem Step.others (hs : h.Step u c h') (hu : u ≠ t) :
    (∀ id, (id, t) ∈ h'.issued ↔ (id, t) ∈ h.issued) ∧
      (∀ botId, (t, botId) ∈ h'.starting ↔ (t, botId) ∈ h.starting) ∧ h'.token t = h.token t := by
  have hleave : ∀ botId, (t, botId) ∈ (h.leave u).starting ↔ (t, botId) ∈ h.starting := by
    intro botId
    simp [leave, hu.symm]
  cases hs with
  | read secretId token => exact ⟨fun _ => .rfl, fun _ => .rfl, update_of_ne hu.symm ..⟩
  | check botId hnone =>
    refine ⟨fun _ => .rfl, fun botId' => ?_, rfl⟩
    simp [hu.symm]
  | issue id hfresh =>
    refine ⟨fun id' => ?_, fun _ => .rfl, rfl⟩
    simp [hu.symm]
  | fail _ hc | release n botId id | enter botId guard hstage => exact ⟨fun _ => .rfl, hleave, rfl⟩
  | _ => exact ⟨fun _ => .rfl, fun _ => .rfl, rfl⟩

end Holdings

end ImBridge
