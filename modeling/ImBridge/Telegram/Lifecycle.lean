import ImBridge.Telegram.Ownership

/-!
# Processing the updates of the inbox

The parts of a poller that write to the rows of updates, verified against everything that other
tasks may do meanwhile. A task processes only updates that it has: the poller between batches, and
the task of a group those of its group. What happens when a claim fails matters for processed
updates only, and these runs leave out that such a claim fails.

## Main definitions

* `ClaimAnswered`, `answeredSemantics`: a claim of a processed update does not fail
* `lifecycleDiscipline`: what tasks may do
* `LeftAlone`: what the others leave alone
* `Tenure`: an update is with the task

## Main results

* `stable_of_leftAlone`: what survives that, survives the others
* `Tenure.triple_processOrFail`: a task may process an update that it has
* `triple_recoverStartupUpdates`, `triple_takeBatch_idle`: trying again, and a batch with its groups
-/

namespace ImBridge

open Interleaving Discipline Fallible

variable {χ : Signature} {unixepoch : String → Option ℤ} {lib : Primitives} {botId : String}

/-- A claim of an update that is processed already does not fail. -/
def ClaimAnswered (botId : String) (m : JobMoment χ) : (c : PollerCall χ) → c.Reply → Prop
  | .inbox (.changeUpdate .claim bot updateId _), r => bot = botId →
      (∃ row, m.world.db.update? botId updateId = some row ∧ row.status = .processed) →
        ∃ claimed, r = .ok claimed
  | _, _ => True

/-- The runs of pollers in which such claims do not fail. -/
def answeredSemantics (unixepoch : String → Option ℤ) (χ : Signature) (botId : String) :
    Semantics (pollerCalls χ) JobTask JobWorld :=
  (inboxSemantics unixepoch χ botId).restrict fun _ m c r _ => ClaimAnswered botId m c r

/-- **The discipline of the inbox**, for the tasks of the present process. -/
def lifecycleDiscipline (unixepoch : String → Option ℤ) (χ : Signature) {lib : Primitives}
    (botId : String) (hlib : lib.KeepsUpdates) :
    Discipline (answeredSemantics unixepoch χ botId) where
  inv := LifecycleInv lib botId
  may t m c := t.2.process = m.world.process → LifecycleMay lib botId t m c
  keep _ _ _ _ _ hinv hmay he := hinv.after hlib (hmay he.1.1) he.1.2
  keep_drift _ _ hinv hd := hinv.drifted hd

/-- A task lives as long as its process. -/
def answeredLifetime (unixepoch : String → Option ℤ) (χ : Signature) (botId : String)
    (t : JobTask) : Lifetime unixepoch (answeredSemantics unixepoch χ botId) t :=
  processLifetime t fun _ _ _ _ he => he.1

/-! ## What the others leave alone -/

variable {m : JobMoment χ} {c : PollerCall χ}

section Stable

variable {hlib : lib.KeepsUpdates} {t : JobTask} {R : JobMoment χ → Prop}

/-- What the others leave alone: the transaction of a task, its updates and their rows, and the
groups, which only the poller makes. -/
structure LeftAlone (lib : Primitives) (botId : String) (t : JobTask)
    (m m' : JobMoment χ) : Prop where
  tx : m'.world.tx t = m.world.tx t
  poller : m'.world.poller = some t ↔ m.world.poller = some t
  idle : Idle t m.world → Idle t m'.world
  held : ∀ group, (t, group) ∈ m.world.running → (t, group) ∈ m'.world.running
  shares : m.world.poller = some t → ∀ share ∈ m'.world.shares, share ∈ m.world.shares
  rows : ∀ updateId, Owns t updateId m.world →
    m'.world.db.update? botId updateId = m.world.db.update? botId updateId ∨
      ∃ row, m.world.db.update? botId updateId = none ∧
        m'.world.db.update? botId updateId = some row ∧ row.Fresh lib

theorem LeftAlone.of_call {u : JobTask} {r : c.Reply} {w : JobWorld}
    (hinv : LifecycleInv lib botId m) (hu : u ≠ t) (hmay : LifecycleMay lib botId u m c)
    (he : InboxEffect unixepoch u m.world c r w) :
    LeftAlone lib botId t m (m.after u c r w) := by
  have hrows : ∀ updateId, Owns t updateId m.world →
      w.db.update? botId updateId = m.world.db.update? botId updateId ∨
        ∃ row, m.world.db.update? botId updateId = none ∧
          w.db.update? botId updateId = some row ∧ row.Fresh lib := fun updateId howns =>
    (hmay.row he updateId).of_not_owns fun h => hu (h.unique hinv.apart howns)
  have htx := he.inversion.2.1 t hu.symm
  have hidle : ∀ w' : JobWorld, Idle t w' ↔ w'.poller = some t ∧ w'.groups = [] ∧ w'.running = [] :=
    fun _ => ⟨fun h => ⟨h.poller, h.groups, h.running⟩, fun h => ⟨h.1, h.2.1, h.2.2⟩⟩
  -- only the poller makes groups
  have hspawn : ∀ updates, c = .spawnGroup updates → m.world.poller = some u := by
    rintro updates rfl
    exact hmay.1
  have hroster := he.roster
  clear hmay he hinv
  cases hroster with
  | keep | start | spawn | take | finish | remove =>
    constructor <;> simp only [Moment.after_world, hidle, InboxWorld.shares] <;>
      grind [List.append_eq_nil_iff]

/-- An assertion that survives this is stable for as long as the task lives. -/
theorem stable_of_leftAlone (hR : ∀ m m', LeftAlone lib botId t m m' → R m → R m') :
    (lifecycleDiscipline unixepoch χ botId hlib).Stable t
      ((answeredLifetime unixepoch χ botId t).Within R) := by
  rintro m m' hother (hdead | ⟨halive, hRm⟩)
  · left
    cases hother with
    | call u c r w hu hm hmay he => exact lt_of_lt_of_eq hdead he.1.2.inversion.1.symm
    | drift w hm hd =>
      cases hd with
      | restart => exact Nat.lt_succ_of_lt hdead
      | others db hupdates hoffset => exact hdead
  · cases hother with
    | call u c r w hu hm hmay he =>
      refine .inr ⟨he.1.2.inversion.1.trans halive, hR m _ ?_ hRm⟩
      exact .of_call hm hu (hmay he.1.1) he.1.2
    | drift w hm hd =>
      cases hd with
      | restart => exact .inl (Nat.lt_succ_of_le halive.ge)
      | others db hupdates hoffset =>
        refine .inr ⟨halive, hR m _ ?_ hRm⟩
        exact ⟨rfl, Iff.rfl, fun h => ⟨h.poller, h.groups, h.running⟩, fun _ h => h,
          fun _ _ h => h, fun id _ => .inl (hupdates id)⟩

end Stable

/-! ## The rules for calls -/

section Calls

variable {hlib : lib.KeepsUpdates} {t : JobTask} {R : JobWorld → Prop}

/-- The assertion survives what the others do. -/
def Calm (χ : Signature) (lib : Primitives) (botId : String) (t : JobTask)
    (R : JobWorld → Prop) : Prop :=
  ∀ m m' : JobMoment χ, LeftAlone lib botId t m m' → R m.world → R m'.world

/-- The assertion holds for as long as the task lives. -/
def Holds (unixepoch : String → Option ℤ) (χ : Signature) (botId : String) (t : JobTask)
    (R : JobWorld → Prop) : JobMoment χ → Prop :=
  (answeredLifetime unixepoch χ botId t).Within fun m => R m.world

/-- The program takes `R` to `S`, for as long as the task lives. -/
abbrev Leads (unixepoch : String → Option ℤ) (χ : Signature) (botId : String)
    (hlib : lib.KeepsUpdates) (t : JobTask) (R : JobWorld → Prop) {α : Type} (p : PollerProgram χ α)
    (S : α → JobWorld → Prop) : Prop :=
  (lifecycleDiscipline unixepoch χ botId hlib).Triple t (Holds unixepoch χ botId t R) p fun a =>
    Holds unixepoch χ botId t (S a)

/-- The same for a program that may fail, and then takes `R` to `E`. -/
abbrev LeadsOr (unixepoch : String → Option ℤ) (χ : Signature) (botId : String)
    (hlib : lib.KeepsUpdates) (t : JobTask) (R : JobWorld → Prop) {ε α : Type}
    (p : PollerProgram χ (Except ε α)) (S : α → JobWorld → Prop) (E : JobWorld → Prop) : Prop :=
  (lifecycleDiscipline unixepoch χ botId hlib).Triple t (Holds unixepoch χ botId t R) p fun r m =>
    onResult (fun a => Holds unixepoch χ botId t (S a) m)
      (fun _ => Holds unixepoch χ botId t E m) r

theorem Holds.imp {R' : JobWorld → Prop} (h : Holds unixepoch χ botId t R m)
    (himp : R m.world → R' m.world) : Holds unixepoch χ botId t R' m :=
  Lifetime.Within.imp h himp

theorem Calm.stable (hR : Calm χ lib botId t R) :
    (lifecycleDiscipline unixepoch χ botId hlib).Stable t (Holds unixepoch χ botId t R) :=
  stable_of_leftAlone hR

theorem calm_true : Calm χ lib botId t fun _ => True := fun _ _ _ h => h

theorem Calm.and {R' : JobWorld → Prop} (hR : Calm χ lib botId t R)
    (hR' : Calm χ lib botId t R') : Calm χ lib botId t fun w => R w ∧ R' w :=
  fun m m' hu h => ⟨hR m m' hu h.1, hR' m m' hu h.2⟩

theorem calm_idle : Calm χ lib botId t (Idle t) := fun _ _ hu h => hu.idle h

theorem calm_held (group : List (ℤ × Json)) :
    Calm χ lib botId t fun w => (t, group) ∈ w.running := fun _ _ hu h => hu.held group h

theorem PollerCall.Plain.lifecycleMay (hc : c.Plain) (m : JobMoment χ) :
    LifecycleMay lib botId t m c := by
  cases c <;> first | exact hc.elim | trivial

/-- A part that has nothing to do with the inbox keeps what is known of it. -/
theorem Calm.triple_plain (hR : Calm χ lib botId t R) {α : Type} {p : PollerProgram χ α}
    (hp : p.Uses PollerCall.Plain) : Leads unixepoch χ botId hlib t R p fun _ => R := by
  refine (triple_of_uses hp (Program.ends_true p) hR.stable ?_).mono fun _ _ _ h => h.1
  intro c hc m hm hRm
  refine ⟨fun _ => hc.lifecycleMay m, fun r w he => ?_⟩
  obtain ⟨hdead, halive, heffect⟩ := (answeredLifetime unixepoch χ botId t).effect m c r w he
  rcases hRm with hd | ⟨-, hRm⟩
  · exact absurd hd hdead
  · exact .inr ⟨halive, (heffect.eq_of_plain hc).symm ▸ hRm⟩

/-- A statement on the inbox: it takes effect, or it fails and nothing has happened. -/
theorem triple_statement {s : InboxStatement} {S : s.Rows → JobWorld → Prop}
    {E : JobWorld → Prop} (hR : Calm χ lib botId t R)
    (hS : ∀ rows, Calm χ lib botId t (S rows)) (hE : Calm χ lib botId t E)
    (hexec : ∀ db, ∃ rows, (s.exec unixepoch db).1 = .ok rows)
    (hmay : ∀ m : JobMoment χ, R m.world → LifecycleMay lib botId t m (.inbox s : PollerCall χ))
    (hok : ∀ (m : JobMoment χ) rows,
      LifecycleInv lib botId m → R m.world → (s.exec unixepoch m.world.db).1 = .ok rows →
        S rows { m.world with db := (s.exec unixepoch m.world.db).2 })
    (herror : ∀ m : JobMoment χ,
      R m.world → ClaimAnswered botId m (.inbox s : PollerCall χ) (.error .other) → E m.world) :
    LeadsOr unixepoch χ botId hlib t R (askPoller (.inbox s)) S E := by
  refine triple_perform hR.stable (fun m hm hpre hprocess => ?_)
    (fun m r w hm hpre he => ?_) fun r => ?_
  · rcases hpre with hdead | ⟨-, hRm⟩
    · exact absurd hdead hprocess.not_lt
    · exact hmay m hRm
  · obtain ⟨hdead, halive, -⟩ := (answeredLifetime unixepoch χ botId t).effect m _ r w he
    obtain ⟨⟨-, heffect⟩, hanswered⟩ := he
    rcases hpre with hd | ⟨-, hRm⟩
    · exact absurd hd hdead
    · rcases heffect with ⟨rfl, rfl⟩ | ⟨rfl, rfl⟩
      · obtain ⟨rows, hrows⟩ := hexec m.world.db
        rw [hrows]
        exact .inr ⟨halive, hok m rows hm hRm hrows⟩
      · exact .inr ⟨halive, herror m hRm hanswered⟩
  · cases r with
    | ok rows => exact (hS rows).stable
    | error e => exact hE.stable

/-- The same, when a failure of the statement is a failure of the task. -/
theorem triple_inboxSql {s : InboxStatement} {S : s.Rows → JobWorld → Prop} {E : JobWorld → Prop}
    (hS : ∀ rows, Calm χ lib botId t (S rows)) (hE : Calm χ lib botId t E)
    (h : LeadsOr unixepoch χ botId hlib t R (askPoller (.inbox s)) S E) :
    LeadsOr unixepoch χ botId hlib t R (inboxSql s).run S E := by
  refine triple_bind h fun r => ?_
  cases r with
  | ok rows => exact triple_ret (hS rows).stable fun _ _ h => h
  | error e => exact triple_ret hE.stable fun _ _ h => h

/-- A task that has ended with its process makes no call. -/
theorem safe_of_dead {α : Type} {S : α → JobWorld → Prop} (p : PollerProgram χ α)
    (hdead : Holds unixepoch χ botId t (fun _ => False) m) :
    (lifecycleDiscipline unixepoch χ botId hlib).Safe t
      (fun a => Holds unixepoch χ botId t (S a)) p m := by
  have hstable : (lifecycleDiscipline unixepoch χ botId hlib).Stable t
      (Holds unixepoch χ botId t fun _ => False) := Calm.stable fun _ _ _ h => h
  cases p with
  | ret a => exact fun m' hr _ => Holds.imp (hstable.rely hr hdead) False.elim
  | call c k =>
    intro m' hr _
    rcases hstable.rely hr hdead with hd | ⟨-, hfalse⟩
    · refine ⟨fun hprocess => absurd hd hprocess.not_lt, fun r w he => ?_⟩
      exact absurd hd ((answeredLifetime unixepoch χ botId t).effect m' c r w he).1
    · exact hfalse.elim

/-- What does not depend on the world may be assumed. -/
theorem triple_assume {φ : Prop} {α : Type} {p : PollerProgram χ α} {S : α → JobWorld → Prop}
    (h : φ → Leads unixepoch χ botId hlib t R p S) :
    Leads unixepoch χ botId hlib t (fun w => R w ∧ φ) p S := by
  rintro m hm (hdead | ⟨halive, hRm, hφ⟩)
  · exact safe_of_dead p (.inl hdead)
  · exact h hφ m hm (.inr ⟨halive, hRm⟩)

end Calls

/-! ## Processing an update -/

section Process

variable {hlib : lib.KeepsUpdates} {t : JobTask} {app : UpdateHandler χ}
  {guard : PollerOwnershipGuard} {B : JobWorld → Prop} {updateId : ℤ}

/-- The update is with the task for as long as `B` holds, which does not depend on the tables. -/
structure Tenure (χ : Signature) (lib : Primitives) (botId : String) (t : JobTask)
    (B : JobWorld → Prop) (updateId : ℤ) : Prop where
  calm : Calm χ lib botId t B
  owns : ∀ w, B w → Owns t updateId w
  frame : ∀ w db, B w → B { w with db }

theorem tenure_idle (updateId : ℤ) : Tenure χ lib botId t (Idle t) updateId where
  calm := calm_idle
  owns _ h := .inl h
  frame _ _ h := ⟨h.poller, h.groups, h.running⟩

theorem tenure_held {group : List (ℤ × Json)} {p : ℤ × Json} (hp : p ∈ group) :
    Tenure χ lib botId t (fun w => (t, group) ∈ w.running) p.1 where
  calm := calm_held group
  owns _ h := .inr ⟨group, h, List.mem_map_of_mem hp⟩
  frame _ _ h := h

/-- The row of the update is not processed. -/
def NotProcessed (botId : String) (updateId : ℤ) (w : JobWorld) : Prop :=
  ∀ row, w.db.update? botId updateId = some row → row.status ≠ .processed

def Processing (botId : String) (updateId : ℤ) (w : JobWorld) : Prop :=
  ∃ row, w.db.update? botId updateId = some row ∧ row.status = .processing

theorem Processing.notProcessed {w : JobWorld} (h : Processing botId updateId w) :
    NotProcessed botId updateId w := by
  obtain ⟨row, hrow, hstatus⟩ := h
  intro row' hrow'
  obtain rfl : row = row' := Option.some.inj (hrow.symm.trans hrow')
  rw [hstatus]
  exact nofun

namespace Tenure

variable (T : Tenure χ lib botId t B updateId)
include T

theorem calm_notProcessed : Calm χ lib botId t fun w => B w ∧ NotProcessed botId updateId w := by
  rintro m m' hu ⟨hB, hnot⟩
  refine ⟨T.calm m m' hu hB, fun row hrow => ?_⟩
  rcases hu.rows updateId (T.owns _ hB) with hkeep | ⟨row', -, hnew, hfresh⟩
  · exact hnot row (hkeep.symm.trans hrow)
  · obtain rfl : row' = row := Option.some.inj (hnew.symm.trans hrow)
    rw [hfresh.status]
    exact nofun

theorem calm_processing : Calm χ lib botId t fun w => B w ∧ Processing botId updateId w := by
  rintro m m' hu ⟨hB, row, hrow, hstatus⟩
  refine ⟨T.calm m m' hu hB, row, ?_, hstatus⟩
  rcases hu.rows updateId (T.owns _ hB) with hkeep | ⟨row', hnone, -⟩
  · exact hkeep.trans hrow
  · exact absurd (hnone.symm.trans hrow) nofun

/-- A claim that is won leaves the update in processing; one that fails finds it unprocessed. -/
theorem triple_claim (now : String) :
    LeadsOr unixepoch χ botId hlib t B (inboxSql (.changeUpdate .claim botId updateId now)).run
      (fun claimed w => B w ∧ (claimed ≠ 0 → Processing botId updateId w))
      fun w => B w ∧ NotProcessed botId updateId w := by
  have hcalm : ∀ claimed : ℕ, Calm χ lib botId t
      fun w => B w ∧ (claimed ≠ 0 → Processing botId updateId w) := by
    intro claimed
    by_cases hzero : claimed = 0
    · simpa only [hzero, ne_eq, not_true_eq_false, false_implies, and_true] using T.calm
    · simpa only [ne_eq, hzero, not_false_eq_true, true_implies] using T.calm_processing
  refine triple_inboxSql hcalm T.calm_notProcessed (triple_statement T.calm hcalm
    T.calm_notProcessed (fun db => ⟨_, rfl⟩) (fun m hB => ⟨rfl, T.owns _ hB, trivial⟩)
    (fun m claimed _ hB hreply => ⟨T.frame _ _ hB, fun hne => ?_⟩) fun m hB hanswered => ?_)
  · rcases Inbox.exec_changeUpdate_cases unixepoch .claim now with
      ⟨row, -, -, -, hset⟩ | ⟨hzero, -⟩
    · exact ⟨_, hset, rfl⟩
    · exact absurd (Except.ok.inj (hreply.symm.trans hzero)) hne
  · refine ⟨hB, fun row hrow hstatus => ?_⟩
    obtain ⟨claimed, hclaimed⟩ := hanswered rfl ⟨row, hrow, hstatus⟩
    cases hclaimed

theorem triple_markUpdateProcessed :
    LeadsOr unixepoch χ botId hlib t (fun w => B w ∧ Processing botId updateId w)
      (markUpdateProcessed botId updateId).run (fun _ => B)
      fun w => B w ∧ NotProcessed botId updateId w := by
  refine triple_liftBind
    (T.calm_processing.triple_plain (uses_askPoller trivial)) fun now => ?_
  refine triple_tryBind (triple_inboxSql (fun _ => T.calm) T.calm_notProcessed
    (triple_statement T.calm_processing (fun _ => T.calm) T.calm_notProcessed
      (fun db => ⟨_, rfl⟩) (fun m h => ⟨rfl, T.owns _ h.1, trivial⟩)
      (fun m _ _ h _ => T.frame _ _ h.1) fun m h _ => ⟨h.1, h.2.notProcessed⟩))
    (fun _ => T.calm_notProcessed.stable) fun _ => ?_
  exact triple_ret T.calm.stable fun _ _ h => h

theorem triple_processAndDeliver (update : Json) :
    LeadsOr unixepoch χ botId hlib t B (processAndDeliver app botId updateId update guard).run
      (fun _ => B) fun w => B w ∧ NotProcessed botId updateId w := by
  refine triple_liftBind (T.calm.triple_plain (uses_askPoller trivial)) fun now => ?_
  refine triple_tryBind (T.triple_claim now) (fun _ => T.calm_notProcessed.stable)
    fun claimed => ?_
  by_cases hzero : claimed = 0
  · rw [if_pos hzero]
    exact triple_ret T.calm.stable fun m _ h => Holds.imp h And.left
  · rw [if_neg hzero]
    -- from here on the update is in processing, and only this task has it
    have hclaimed : ∀ m, Holds unixepoch χ botId t
        (fun w => B w ∧ (claimed ≠ 0 → Processing botId updateId w)) m →
        Holds unixepoch χ botId t (fun w => B w ∧ Processing botId updateId w) m := fun m h =>
      Holds.imp h fun h => ⟨h.1, h.2 hzero⟩
    cases hchat : chatIdOf update with
    | none =>
      exact T.triple_markUpdateProcessed.given fun m _ h => hclaimed m h
    | some chatId =>
      refine triple_tryBind ((T.calm_processing.triple_plain
        (uses_ofHandler (fun _ hc => hc.plain) _)).weaken (fun m _ h => hclaimed m h)
        fun r m _ h => ?_) (fun _ => T.calm_notProcessed.stable)
        fun _ => T.triple_markUpdateProcessed
      cases r with
      | ok _ => exact h
      | error e =>
        rw [onResult_error, onResult_error]
        exact Holds.imp h fun h => ⟨h.1, h.2.notProcessed⟩

/-- **A task that has an update may process it.** -/
theorem triple_processOrFail (update : Json) :
    Leads unixepoch χ botId hlib t B (processOrFail app botId updateId update guard)
      fun _ => B := by
  refine triple_bind (T.triple_processAndDeliver update) fun r => ?_
  cases r with
  | ok _ => exact triple_ret T.calm.stable fun _ _ h => h
  | error e =>
    refine triple_bind (T.calm_notProcessed.triple_plain (uses_askPoller trivial))
      fun now => ?_
    refine triple_bind (triple_statement T.calm_notProcessed (fun _ => T.calm) T.calm
      (fun db => ⟨_, rfl⟩) (fun m h => ⟨rfl, T.owns _ h.1, h.2⟩)
      (fun m _ _ h _ => T.frame _ _ h.1) fun m h _ => h.1) fun r => ?_
    refine triple_ret T.calm.stable fun m _ h => ?_
    cases r <;> exact h

end Tenure

/-- The task of a group. -/
theorem triple_processGroup {group updates : List (ℤ × Json)} (hsub : updates ⊆ group) :
    Leads unixepoch χ botId hlib t (fun w => (t, group) ∈ w.running)
      (processGroup app botId guard updates) fun _ w => (t, group) ∈ w.running := by
  induction updates with
  | nil => exact triple_ret (calm_held group).stable fun _ _ h => h
  | cons p updates ih =>
    obtain ⟨hp, hrest⟩ := List.cons_subset.mp hsub
    exact triple_bind ((tenure_held hp).triple_processOrFail p.2) fun _ => ih hrest

theorem triple_recoverUpdate {updateId : ℤ} {raw : Bytes} (hraw : (lib.parseJson raw).isSome) :
    Leads unixepoch χ botId hlib t (Idle t) (recoverUpdate lib app botId guard updateId raw).run
      fun _ => Idle t := by
  refine triple_liftBind (calm_idle.triple_plain (uses_assertValid fun _ hc => hc.plain))
    fun r => ?_
  cases r with
  | error e => exact triple_ret calm_idle.stable fun _ _ h => h
  | ok _ =>
    obtain ⟨update, hupdate⟩ := Option.isSome_iff_exists.mp hraw
    rw [hupdate]
    have hrun : Leads unixepoch χ botId hlib t (Idle t)
        (processOrFail app botId updateId update guard) fun _ => Idle t :=
      (tenure_idle updateId).triple_processOrFail update
    exact triple_bind hrun fun _ =>
      triple_ret calm_idle.stable fun _ _ h => h

theorem triple_recoverUpdates {rows : List (ℤ × Bytes)}
    (hrows : ∀ row ∈ rows, (lib.parseJson row.2).isSome) :
    Leads unixepoch χ botId hlib t (Idle t) (recoverUpdates lib app botId guard rows).run
      fun _ => Idle t := by
  induction rows with
  | nil => exact triple_ret calm_idle.stable fun _ _ h => h
  | cons row rows ih =>
    refine triple_tryBind ((triple_recoverUpdate
      (hrows row List.mem_cons_self)).mono fun r m _ h => ?_)
      (fun _ => calm_idle.stable) fun _ => ih fun row' h => hrows row' (List.mem_cons_of_mem _ h)
    cases r <;> exact h

/-- The rows that are tried again are rows of the inbox, which can be read. -/
theorem triple_recoverPendingUpdates :
    Leads unixepoch χ botId hlib t (Idle t) (recoverPendingUpdates lib app botId guard).run
      fun _ => Idle t := by
  refine triple_liftBind (calm_idle.triple_plain (uses_askPoller trivial))
    fun nowUnix => ?_
  have hcalm : ∀ rows : List (ℤ × Bytes), Calm χ lib botId t fun w =>
      Idle t w ∧ ∀ row ∈ rows, (lib.parseJson row.2).isSome := fun rows =>
    calm_idle.and fun _ _ _ h => h
  refine triple_tryBind (triple_inboxSql hcalm calm_idle (triple_statement calm_idle
    hcalm calm_idle (fun db => ⟨_, rfl⟩) (fun _ _ => trivial) (fun m rows hm hidle hrows => ?_)
    fun _ h _ => h)) (fun _ => calm_idle.stable) fun rows => triple_assume triple_recoverUpdates
  refine ⟨hidle, fun row hrow => ?_⟩
  obtain rfl := Except.ok.inj hrows
  obtain ⟨r, hr, rfl⟩ := List.mem_map.mp hrow
  obtain ⟨hmem, hpending⟩ :=
    List.mem_filter.mp ((List.mem_insertionSort _).mp (List.mem_of_mem_take hr))
  have hbot : r.is botId r.updateId = true := by
    simp only [InboxStatement.isPending, Bool.and_eq_true, beq_iff_eq] at hpending
    simp [UpdateRow.is, hpending.1.1.1]
  have hfound : m.world.db.update? botId r.updateId = some r :=
    (Relational.Table.find?_eq_some_iff (Inbox.pins_is botId r.updateId) _).mpr ⟨hmem, hbot⟩
  exact (hm.counted r.updateId r hfound).2.2

theorem triple_recoverStartupUpdates :
    Leads unixepoch χ botId hlib t (Idle t) (recoverStartupUpdates lib app botId guard).run
      fun _ => Idle t := by
  refine triple_liftBind (calm_idle.triple_plain (uses_askPoller trivial))
    fun now => ?_
  refine triple_tryBind (triple_inboxSql (fun _ => calm_idle) calm_idle
    (triple_statement calm_idle (fun _ => calm_idle) calm_idle (fun db => ⟨_, rfl⟩)
      (fun _ h => h) (fun m _ _ h _ => ⟨h.poller, h.groups, h.running⟩) fun _ h _ => h))
    (fun _ => calm_idle.stable) fun _ => triple_recoverPendingUpdates

theorem triple_recoverDueUpdates :
    Leads unixepoch χ botId hlib t (Idle t) (recoverDueUpdates lib app botId guard)
      fun _ => Idle t := by
  refine triple_bind (calm_idle.triple_plain (uses_askPoller trivial)) fun due => ?_
  cases due with
  | false => exact triple_ret calm_idle.stable fun _ _ h => h
  | true =>
    exact triple_bind triple_recoverPendingUpdates fun _ =>
      triple_ret calm_idle.stable fun _ _ h => h

end Process

/-! ## Batches and their groups -/

section Batch

variable {hlib : lib.KeepsUpdates} {t : JobTask}

/-- Updates with one id are in one group. -/
def OneGroupEach (persisted : List (ℤ × Json)) : Prop :=
  ∀ p ∈ persisted, ∀ q ∈ persisted, p.1 = q.1 → groupOf p.1 p.2 = groupOf q.1 q.2

/-- The groups of a batch have no update in common. -/
theorem pairwise_groupUpdates {persisted : List (ℤ × Json)} (h : OneGroupEach persisted) :
    (groupUpdates persisted).Pairwise fun g g' =>
      List.Disjoint (g.map Prod.fst) (g'.map Prod.fst) := by
  unfold groupUpdates
  rw [List.pairwise_map]
  refine List.Pairwise.imp_of_mem ?_ (List.nodup_dedup _)
  intro key key' _ _ hne id hid hid'
  obtain ⟨p, hp, rfl⟩ := List.mem_map.mp hid
  obtain ⟨q, hq, hpq⟩ := List.mem_map.mp hid'
  rw [List.mem_insertionSort, List.mem_filter, decide_eq_true_eq] at hp hq
  exact hne (hp.2.symm.trans ((h p hp.1 q hq.1 hpq.symm).trans hq.2))

/-- Two updates of a stored batch with one id have one text, so they belong to one chat. -/
theorem oneGroupEach_of_stored {updates : List Json} {persisted : List (ℤ × Json)} {db : Inbox}
    (hlib : lib.KeepsUpdates) (hwaiting : ToProcess updates persisted)
    (hstored : ∀ update ∈ updates, Stored lib botId db update) : OneGroupEach persisted := by
  intro p hp q hq hpq
  obtain ⟨-, -, row, hrow, htext⟩ := hstored p.2 (hwaiting p hp).1 p.1 (hwaiting p hp).2
  obtain ⟨-, -, row', hrow', htext'⟩ := hstored q.2 (hwaiting q hq).1 q.1 (hwaiting q hq).2
  rw [← hpq] at hrow'
  obtain rfl : row = row' := Option.some.inj (hrow.symm.trans hrow')
  unfold groupOf
  rw [hlib.chat p.2 q.2 (htext.symm.trans htext'), hpq]

/-- A call of the task that changes its surroundings. -/
theorem triple_askHolds {R : JobWorld → Prop} {S : c.Reply → JobWorld → Prop}
    (hR : Calm χ lib botId t R) (hS : ∀ r, Calm χ lib botId t (S r))
    (hmay : ∀ m : JobMoment χ, R m.world → LifecycleMay lib botId t m c)
    (h : ∀ (m : JobMoment χ) r w, R m.world → InboxEffect unixepoch t m.world c r w → S r w) :
    Leads unixepoch χ botId hlib t R (askPoller c) S := by
  refine Lifetime.triple_ask hR.stable (fun r => (hS r).stable) (fun m _ hpre hprocess => ?_)
    fun m r w _ hRm he => h m r w hRm he
  rcases hpre with hdead | ⟨-, hRm⟩
  · exact absurd hdead hprocess.not_lt
  · exact hmay m hRm

/-- The poller is handing out the groups of a batch, and these are all the groups there are. -/
def HandingOut (t : JobTask) (spawned : List (List (ℤ × Json))) (w : JobWorld) : Prop :=
  w.poller = some t ∧ ∀ share ∈ w.shares, ∃ group ∈ spawned, share = group.map Prod.fst

theorem calm_handingOut (spawned : List (List (ℤ × Json))) :
    Calm χ lib botId t (HandingOut t spawned) :=
  fun _ _ hu h => ⟨hu.poller.mpr h.1, fun share hshare => h.2 share (hu.shares h.1 share hshare)⟩

theorem triple_spawnGroups (spawned groups : List (List (ℤ × Json)))
    (hapart : (spawned ++ groups).Pairwise fun g g' =>
      List.Disjoint (g.map Prod.fst) (g'.map Prod.fst)) :
    Leads unixepoch χ botId hlib t (HandingOut t spawned) (spawnGroups groups) fun _ =>
      HandingOut t (spawned ++ groups) := by
  induction groups generalizing spawned with
  | nil =>
    refine triple_ret (calm_handingOut _).stable fun _ _ h => ?_
    rwa [List.append_nil]
  | cons group groups ih =>
    have hnext := hapart
    rw [List.append_cons] at hnext ⊢
    refine triple_bind (triple_askHolds (calm_handingOut spawned)
      (fun _ => calm_handingOut (spawned ++ [group])) (fun m h => ⟨h.1, ?_⟩)
      fun m r w h he => ?_) fun _ => ih _ hnext
    · -- every group there is was handed out before, so it is apart from this one
      intro share hshare
      obtain ⟨g, hg, rfl⟩ := h.2 share hshare
      exact (List.pairwise_append.mp hapart).2.2 g hg group List.mem_cons_self
    · cases he
      refine ⟨h.1, fun share hshare => ?_⟩
      rw [InboxWorld.shares, List.map_append, ← List.append_assoc, List.mem_append] at hshare
      rcases hshare with hold | hnew
      · obtain ⟨g, hg, heq⟩ := h.2 share hold
        exact ⟨g, List.mem_append_left _ hg, heq⟩
      · exact ⟨group, List.mem_append_right _ List.mem_cons_self, List.mem_singleton.mp hnew⟩

/-- While a batch is stored, there is no group. -/
theorem batchFrame_idle :
    BatchFrame (answeredLifetime unixepoch χ botId t)
      (lifecycleDiscipline unixepoch χ botId hlib) fun m => Idle t m.world where
  stable P := stable_of_leftAlone fun m m' hu h => ⟨hu.tx ▸ h.1, hu.idle h.2⟩
  keep m c r w hc he _ h := by
    cases he.roster with
    | keep _ hpoller hgroups hrunning =>
      exact ⟨hpoller.trans h.poller, hgroups.trans h.groups, hrunning.trans h.running⟩
    | start | spawn | take | finish | remove => exact hc.elim
  may m c hc hne _ := by
    cases c <;> first | exact hc.elim | exact absurd rfl hne | trivial

theorem triple_takeBatch_idle (updates : List Json) (offset : ℤ) :
    Leads unixepoch χ botId hlib t (Idle t) (takeBatch lib botId updates offset)
      fun _ => Idle t := by
  refine triple_bind (batchFrame_idle.triple_persistUpdateBatch
    (G := fun persisted _ m => Idle t m.world ∧ OneGroupEach persisted)
    (fun persisted _ => stable_of_leftAlone fun _ _ hu h => ⟨hu.idle h.1, h.2⟩)
    (fun m hm h hprocess copy htx => ?_) fun m w persisted hm h he hwaiting hafter => ?_) ?_
  · rcases h with hdead | ⟨-, hcopy, -⟩
    · exact absurd hdead hprocess.not_lt
    · rw [htx] at hcopy
      exact ⟨hcopy.kept, hcopy.fresh⟩
  · refine ⟨?_, oneGroupEach_of_stored hlib hwaiting hafter.stored⟩
    rcases he with ⟨start, copy, -, -, -, rfl⟩ | ⟨hr, -⟩
    · exact ⟨h.poller, h.groups, h.running⟩
    · cases hr
  · rintro ⟨persisted, offset'⟩
    cases persisted with
    | error e => exact triple_ret calm_idle.stable fun _ _ h => h.2
    | ok persisted =>
      refine triple_assume fun hone => ?_
      refine triple_bind ((triple_spawnGroups [] _
        (pairwise_groupUpdates hone)).given fun m _ h => Holds.imp h fun h => ?_) fun _ => ?_
      · refine ⟨h.poller, fun share hshare => ?_⟩
        rw [InboxWorld.shares, h.groups, h.running] at hshare
        exact absurd hshare List.not_mem_nil
      · refine triple_bind (triple_askHolds (calm_handingOut _) (fun _ => calm_idle)
          (fun _ _ => trivial) fun m r w h he => ?_) fun _ =>
          triple_ret calm_idle.stable fun _ _ h => h
        obtain ⟨hgroups, hrunning, rfl⟩ := he
        exact ⟨h.1, hgroups, hrunning⟩

end Batch

end ImBridge
