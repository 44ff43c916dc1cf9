import ImBridge.Domain.JsonText
import ImBridge.Sequential
import ImBridge.Interleaving.Schedule
import ImBridge.Telegram.Lifecycle
import ImBridge.Telegram.Outline

/-!
# The life of an update in the inbox

An update is claimed, handled and marked as processed, or it fails and is tried again, three times
at most. Attempts are counted right in every run. A processed update stays processed as long as no
claim fails for reasons of its own when the update is processed already: the task then records a
failure with the update, whatever its state.

## Main definitions

* `ProcessedAfter`: an update is processed, after so many claims
* `scripted`: replies and effects by a schedule

## Main results

* `triple_pollerJob_lifecycle`: every task keeps the discipline of the inbox
* `inbox_lifecycle`: attempts are counted, and processed updates stay processed, if such claims
  do not fail
* `processed_update_claimed_again`: otherwise a processed update can be handled again
-/

namespace ImBridge

open Interleaving Discipline

variable {χ : Signature} {unixepoch : String → Option ℤ} {lib : Primitives} {botId : String}

/-! ## The poller -/

section Poller

variable {hlib : lib.KeepsUpdates} {t : JobTask} {app : UpdateHandler χ}
  {guard : PollerOwnershipGuard}

/-- The task is not the poller, or leaves no group behind. -/
def Leaving (t : JobTask) (w : JobWorld) : Prop :=
  w.poller = some t → Idle t w

theorem calm_leaving : Calm χ lib botId t (Leaving t) :=
  fun _ _ hu h hpoller => hu.idle (h (hu.poller.mp hpoller))

theorem triple_finalizePollerExit_leaving :
    Leads unixepoch χ botId hlib t (Leaving t) (finalizePollerExit botId guard)
      fun _ _ => True := by
  refine triple_bind (calm_leaving.triple_plain (uses_askPoller trivial)) fun _ => ?_
  refine triple_bind (calm_leaving.triple_plain (uses_askPoller trivial)) fun _ => ?_
  refine triple_bind (calm_leaving.triple_plain
    (uses_releaseRuntime fun _ hc => hc.plain)) fun _ => ?_
  refine triple_bind (calm_leaving.triple_plain (uses_askPoller trivial)) fun _ => ?_
  refine triple_bind (triple_askHolds calm_leaving (fun _ => calm_true)
    (fun _ h => h) fun _ _ _ _ _ => trivial) fun _ => ?_
  exact triple_ret calm_true.stable fun _ _ h => h

theorem Calm.kept {R : JobWorld → Prop} (hR : Calm χ lib botId t R) :
    Kept (lifecycleDiscipline unixepoch χ botId hlib) t (Holds unixepoch χ botId t R) where
  stable := hR.stable
  triple := hR.triple_plain

/-- Between its batches a poller has all updates to itself. -/
theorem outline_idle :
    PollerOutline (lifecycleDiscipline unixepoch χ botId hlib) t lib app botId guard
      (Holds unixepoch χ botId t (Idle t)) (Holds unixepoch χ botId t (Leaving t))
      (Holds unixepoch χ botId t fun _ => True) (fun _ => Holds unixepoch χ botId t (Idle t))
      fun _ _ => Holds unixepoch χ botId t (Idle t) where
  before := calm_idle.kept
  ready _ := calm_idle.kept
  asked _ _ := calm_idle.kept
  stable_exit := calm_leaving.stable
  stable_done := calm_true.stable
  exit_of_before _ h := Holds.imp h fun h _ => h
  exit_of_ready _ _ h := Holds.imp h fun h _ => h
  ready_of_asked _ _ _ h := h
  done_of_exit _ h := Holds.imp h fun _ => trivial
  select := triple_statement calm_idle (fun _ => calm_idle) calm_leaving (fun _ => ⟨_, rfl⟩)
    (fun _ _ => trivial) (fun _ _ _ h _ => h) fun _ h _ _ => h
  startup _ := triple_recoverStartupUpdates
  due _ := triple_recoverDueUpdates
  poll _ := triple_askHolds calm_idle (fun _ => calm_idle) (fun _ _ => trivial)
    fun _ _ _ h he => he ▸ h
  batch poll offset := triple_takeBatch_idle poll.updates offset
  exit := triple_finalizePollerExit_leaving

/-- The task of a poller, from the signal to start on. -/
theorem triple_pollerTask_idle (rounds : ℕ) :
    (lifecycleDiscipline unixepoch χ botId hlib).Triple t (fun m => m.Silent t)
      (pollerTask lib app botId guard rounds)
      fun _ => Holds unixepoch χ botId t fun _ => True := by
  have hstart : (lifecycleDiscipline unixepoch χ botId hlib).Triple t (fun m => m.Silent t)
      (askPoller (.awaitStart guard.runtimeInstanceId)) fun started =>
        Holds unixepoch χ botId t (if started then Idle t else Leaving t) := by
    refine triple_perform stable_silent (fun _ _ _ _ => trivial)
      (fun m started w hm h he => ?_) fun started => ?_
    · refine .inr ⟨((answeredLifetime unixepoch χ botId t).effect m _ started w he).2.1, ?_⟩
      rcases he.1.2 with ⟨rfl, hnone, rfl⟩ | ⟨rfl, rfl⟩
      · exact ⟨rfl, (hm.idle hnone).1, (hm.idle hnone).2⟩
      · -- the poller has made a call, this task has not
        intro hpoller
        obtain ⟨e, he, hagent⟩ := hm.started t hpoller
        exact absurd hagent (h e he)
    · cases started with
      | true => exact calm_idle.stable
      | false => exact calm_leaving.stable
  refine triple_bind hstart fun started => ?_
  cases started with
  | true => exact outline_idle.triple_pollTelegramBot rounds
  | false =>
    refine triple_bind triple_finalizePollerExit_leaving fun _ => ?_
    exact triple_ret calm_true.stable fun _ _ h => h

theorem triple_groupTask :
    (lifecycleDiscipline unixepoch χ botId hlib).Triple t (fun _ => True)
      (groupTask app botId guard) fun _ => Holds unixepoch χ botId t fun _ => True := by
  have htake : (lifecycleDiscipline unixepoch χ botId hlib).Triple t (fun _ => True)
      (askPoller .takeGroup) fun group =>
        Holds unixepoch χ botId t fun w => (t, group) ∈ w.running := by
    refine triple_perform stable_true (fun _ _ _ _ => trivial)
      (fun m group w hm _ he => ?_) fun group => (calm_held group).stable
    refine .inr ⟨((answeredLifetime unixepoch χ botId t).effect m _ group w he).2.1, ?_⟩
    obtain ⟨before, after, -, rfl⟩ := he.1.2
    exact List.mem_cons_self
  refine triple_bind htake fun group => ?_
  refine triple_bind (triple_processGroup (List.Subset.refl group)) fun _ => ?_
  exact triple_askHolds (calm_held group) (fun _ => calm_true) (fun _ _ => trivial)
    fun _ _ _ _ _ => trivial

/-- Every task keeps the discipline of the inbox. -/
theorem triple_pollerJob_lifecycle (j : PollerJob) (i : ℕ) :
    (lifecycleDiscipline unixepoch χ botId hlib).Triple (i, j) (fun m => m.Silent (i, j))
      (j.body lib app botId) fun _ _ => True := by
  cases j with
  | poller process guard rounds =>
    exact (triple_pollerTask_idle rounds).mono fun _ _ _ _ => trivial
  | group process guard =>
    exact triple_groupTask.weaken (fun _ _ _ => trivial) fun _ _ _ _ => trivial

end Poller

/-! ## The life of an update -/

/-- The update is processed, after so many claims. -/
def ProcessedAfter (botId : String) (updateId : ℤ) (n : ℕ) (m : JobMoment χ) : Prop :=
  claims botId updateId m.trace = n ∧
    ∃ row, m.world.db.update? botId updateId = some row ∧ row.status = .processed

variable {w : JobWorld} {t : JobTask}

/-- No permitted call takes a processed update up again. -/
theorem RowLife.processed {updateId : ℤ} {before after : Option UpdateRow} {claimed : Bool}
    (h : RowLife lib t updateId w before after claimed) {row : UpdateRow} (hrow : before = some row)
    (hstatus : row.status = .processed) :
    claimed = false ∧ ∃ row', after = some row' ∧ row'.status = .processed := by
  subst hrow
  cases h with
  | keep => exact ⟨rfl, row, rfl, hstatus⟩
  | claim _ now howns hguard => simp [UpdateChange.guard, hstatus] at hguard
  | process _ now howns => exact ⟨rfl, _, rfl, rfl⟩
  | fail _ code now howns hne => exact absurd hstatus hne
  | reset _ now hidle hprocessing => exact absurd (hstatus.symm.trans hprocessing) (by simp)

theorem ProcessedAfter.after {updateId : ℤ} {n : ℕ} {m : JobMoment χ} {c : PollerCall χ}
    {r : c.Reply} (h : ProcessedAfter botId updateId n m) (hmay : LifecycleMay lib botId t m c)
    (he : InboxEffect unixepoch t m.world c r w) :
    ProcessedAfter botId updateId n (m.after t c r w) := by
  obtain ⟨hclaims, row, hrow, hstatus⟩ := h
  obtain ⟨hclaimed, hafter⟩ := (hmay.row he updateId).processed hrow hstatus
  refine ⟨?_, hafter⟩
  rw [Moment.after_trace, claims_append, hclaimed]
  exact hclaims

/-- **The life of an update**, in every run of pollers that began with no update of the bot and in
which no claim of a processed update fails: its attempts are the claims that were won, and at most
three; and once it is processed it stays so and is not claimed again. -/
theorem inbox_lifecycle (hlib : lib.KeepsUpdates) {app : UpdateHandler χ} {db : Inbox}
    (hdb : ∀ updateId, db.update? botId updateId = none)
    {P Q : Pool (pollerCalls χ) JobWorld PollerJob.Out}
    (hP : Pool.Reachable (answeredSemantics unixepoch χ botId) (PollerJob.body lib app botId)
      (.start db) P)
    (hPQ : Relation.ReflTransGen
      (Pool.Step (answeredSemantics unixepoch χ botId) (PollerJob.body lib app botId)) P Q)
    {updateId : ℤ} {row : UpdateRow} (hrow : P.moment.world.db.update? botId updateId = some row) :
    (row.attemptCount = claims botId updateId P.moment.trace ∧ row.attemptCount ≤ 3) ∧
      (row.status = .processed → claims botId updateId Q.moment.trace =
          claims botId updateId P.moment.trace ∧
        ∃ row', Q.moment.world.db.update? botId updateId = some row' ∧
          row'.status = .processed) := by
  have hinit : LifecycleInv (χ := χ) lib botId ⟨.start db, []⟩ :=
    ⟨fun updateId row h => absurd ((hdb updateId).symm.trans h) nofun, fun _ _ => rfl,
      List.Pairwise.nil, fun _ => ⟨rfl, rfl⟩, nofun⟩
  have hverified : (lifecycleDiscipline unixepoch χ botId hlib).Verified
      (fun _ _ _ _ => True) P :=
    sound (fun j i => triple_pollerJob_lifecycle j i) hinit hP
  obtain ⟨hcount, hle, -⟩ := hverified.inv.counted updateId row hrow
  refine ⟨⟨hcount, hle⟩, fun hstatus => ?_⟩
  refine preserved (D := lifecycleDiscipline unixepoch χ botId hlib)
    (K := ProcessedAfter botId updateId (claims botId updateId P.moment.trace))
    (fun j i => triple_pollerJob_lifecycle j i) hinit hP hPQ
    (fun t m c r w _ hmay he h => h.after (hmay he.1.1) he.1.2) (fun m w _ hd h => ?_)
    ⟨rfl, row, hrow, hstatus⟩
  cases hd with
  | restart => exact h
  | others db' hupdates hoffset =>
    obtain ⟨hclaims, row', hrow', hstatus'⟩ := h
    exact ⟨hclaims, row', (hupdates updateId).trans hrow', hstatus'⟩

/-! ## A failure after the end -/

section Again

/-- The calls of a run in which statements fail when the schedule says so. -/
def scripted (poll : Poll) (fails : Bool) (t : JobTask) (m : JobMoment noCalls) :
    (c : PollerCall noCalls) → Option (c.Reply × JobWorld) := fun c =>
  let w := m.world
  if t.2.process = w.process then
    match c with
    | .inbox s =>
      if fails then some (.error .other, w)
      else some ((s.exec (fun _ => none) w.db).1, { w with db := (s.exec (fun _ => none) w.db).2 })
    | .beginTx => some (.ok (), w.setTx t (some (w.db, w.db)))
    | .inTx s => (w.tx t).map fun tx =>
        ((s.exec (fun _ => none) tx.2).1, w.setTx t (some (tx.1, (s.exec (fun _ => none) tx.2).2)))
    | .commitTx => (w.tx t).bind fun tx =>
        if w.db = tx.1 then some (.ok (), { w.setTx t none with db := tx.2 }) else none
    | .awaitStart _ => if w.poller = none then some (true, { w with poller := some t }) else none
    | .spawnGroup updates => some ((), { w with groups := w.groups ++ [updates] })
    | .takeGroup => w.groups.head?.map fun group =>
        (group, { w with groups := w.groups.tail, running := (t, group) :: w.running })
    | .finishGroup | .joinGroups | .removeRuntime .. => none
    | c => some (quietReply poll c, w)
  else none

theorem scripted_effect {poll : Poll} {fails : Bool} {m : JobMoment noCalls}
    {c : PollerCall noCalls} {r : c.Reply} (h : scripted poll fails t m c = some (r, w)) :
    (inboxSemantics (fun _ => none) noCalls botId).effect t m c r w := by
  unfold scripted at h
  dsimp only at h
  split at h
  case isFalse => cases h
  case isTrue hprocess =>
    refine ⟨hprocess, ?_⟩
    split at h
    case h_1 s =>
      split at h
      · cases h
        exact .inr ⟨rfl, rfl⟩
      · cases h
        exact .inl ⟨rfl, rfl⟩
    case h_2 =>
      cases h
      exact .inl ⟨rfl, rfl⟩
    case h_3 s =>
      obtain ⟨⟨start, copy⟩, htx, heq⟩ := Option.map_eq_some_iff.mp h
      cases heq
      exact .inl ⟨start, copy, htx, rfl, rfl⟩
    case h_4 =>
      obtain ⟨⟨start, copy⟩, htx, heq⟩ := Option.bind_eq_some_iff.mp h
      split at heq
      · rename_i hdb
        cases heq
        exact .inl ⟨start, copy, htx, hdb, rfl, rfl⟩
      · cases heq
    case h_5 id =>
      split at h
      · rename_i hnone
        cases h
        exact .inl ⟨rfl, hnone, rfl⟩
      · cases h
    case h_6 updates =>
      cases h
      rfl
    case h_7 =>
      obtain ⟨group, hgroup, heq⟩ := Option.map_eq_some_iff.mp h
      cases heq
      exact ⟨[], m.world.groups.tail, (List.cons_head?_tail hgroup).symm, rfl⟩
    case h_8 => cases h
    case h_9 => cases h
    case h_10 => cases h
    case h_11 hinbox hbegin hin hcommit hawait hspawn htake hfinish hjoin hremove =>
      cases h
      cases c <;> first | rfl | grind

/-- A run without failures. -/
theorem scripted_answered {poll : Poll} {m : JobMoment noCalls} {c : PollerCall noCalls}
    {r : c.Reply} (h : scripted poll false t m c = some (r, w)) :
    ClaimAnswered botId m c r := by
  unfold ClaimAnswered
  split
  · intro _ _
    unfold scripted at h
    dsimp only at h
    split at h
    · cases h
      exact ⟨_, rfl⟩
    · cases h
  · trivial

/-- An update of a chat. -/
def repeatedUpdate : Json :=
  .object [("update_id", .int 5), ("message", .object [("chat", .object [("id", .int 7)])])]

/-- A chat as the sign of its number and as many zeros. -/
def chatKey : Option ℤ → Bytes
  | none => []
  | some chatId => (if chatId < 0 then 1 else 2) :: List.replicate chatId.natAbs 0

theorem chatKey_inj {chat chat' : Option ℤ} (h : chatKey chat = chatKey chat') : chat = chat' := by
  rcases chat with - | chatId <;> rcases chat' with - | chatId' <;> simp [chatKey] at h ⊢
  obtain ⟨hsign, habs⟩ := h
  split at hsign <;> split at hsign <;> first | omega | cases hsign

theorem chatKey_ne (chat : Option ℤ) (rest : Bytes) : chatKey chat ≠ 123 :: rest := by
  unfold chatKey
  split
  · simp
  · split <;> simp

/-- A library that knows the text of that update, and stores others as the chats they belong to. -/
def chatLibrary : Primitives :=
  { Primitives.plain with
    parseJson := fun bytes =>
      some (if bytes = utf8 repeatedUpdate.text then repeatedUpdate else .null)
    renderJson := fun update =>
      if update.text = repeatedUpdate.text ∧ chatIdOf update = some 7 then utf8 update.text
      else chatKey (chatIdOf update) }

theorem keepsUpdates_chatLibrary : chatLibrary.KeepsUpdates where
  reads _ := rfl
  chat update update' h := by
    have htext : utf8 repeatedUpdate.text = 123 :: (utf8 repeatedUpdate.text).tail := by
      decide +kernel
    simp only [chatLibrary] at h
    grind [chatKey_inj, chatKey_ne]

/-- An answer with the update three times. -/
def repeatedPoll : Poll :=
  .answered true (.object
    [("ok", .bool true), ("result", .array [repeatedUpdate, repeatedUpdate, repeatedUpdate])])

def sampleGuard : PollerOwnershipGuard := ⟨1, .rustBridge, 1, "bot", "runtime"⟩

/-- The poller stores the batch, and the task of its group processes the first update. -/
def firstTime : List (Move PollerJob Bool) :=
  .spawn (.poller 0 sampleGuard 1) :: List.replicate 27 (.exec 0 false) ++
    .spawn (.group 0 sampleGuard) :: List.replicate 5 (.exec 1 false)

/-- The claim of the second update fails, and the third one is claimed. -/
def secondTime : List (Move PollerJob Bool) :=
  [.exec 1 false, .exec 1 true, .exec 1 false, .exec 1 false, .exec 1 false, .exec 1 false]

/-- The pool after the moves, from an empty inbox. -/
def poolAfter (moves : List (Move PollerJob Bool)) :
    Option (Pool (pollerCalls noCalls) JobWorld PollerJob.Out) :=
  (Pool.start (.start .empty)).follow (scripted repeatedPoll)
    (PollerJob.body chatLibrary silentHandler "bot") moves

/-- The state of the update and its claims in that pool. -/
def updateAfter (moves : List (Move PollerJob Bool)) : Option (Option UpdateStatus × ℕ) :=
  (poolAfter moves).map fun P =>
    ((P.moment.world.db.update? "bot" 5).map (·.status), claims "bot" 5 P.moment.trace)

theorem updateAfter_firstTime : updateAfter firstTime = some (some .processed, 1) := by
  decide +kernel

theorem updateAfter_secondTime :
    updateAfter (firstTime ++ secondTime) = some (some .processing, 2) := by
  decide +kernel

/-- **A processed update is claimed and handled again.** The batch has the update several times; the
claim of one that is processed already fails, and the failure is recorded with the update. -/
theorem processed_update_claimed_again :
    ∃ P Q : Pool (pollerCalls noCalls) (InboxWorld (ℕ × PollerJob)) PollerJob.Out,
      Pool.Reachable (inboxSemantics (fun _ => none) noCalls "bot")
        (PollerJob.body chatLibrary silentHandler "bot") (.start .empty) P ∧
      Relation.ReflTransGen (Pool.Step (inboxSemantics (fun _ => none) noCalls "bot")
        (PollerJob.body chatLibrary silentHandler "bot")) P Q ∧
      (P.moment.world.db.update? "bot" 5).map (·.status) = some .processed ∧
      (Q.moment.world.db.update? "bot" 5).map (·.status) = some .processing ∧
      claims "bot" 5 P.moment.trace < claims "bot" 5 Q.moment.trace := by
  obtain ⟨P, hP, hsummary⟩ := Option.map_eq_some_iff.mp updateAfter_firstTime
  obtain ⟨Q, hQ, hsummary'⟩ := Option.map_eq_some_iff.mp updateAfter_secondTime
  have hPQ : P.follow (scripted repeatedPoll) (PollerJob.body chatLibrary silentHandler "bot")
      secondTime = some Q := by
    rw [poolAfter, Pool.follow_append] at hQ
    rw [poolAfter] at hP
    rwa [hP] at hQ
  obtain ⟨hstatus, hclaims⟩ := Prod.mk.inj hsummary
  obtain ⟨hstatus', hclaims'⟩ := Prod.mk.inj hsummary'
  refine ⟨P, Q, Pool.steps_of_follow (fun _ _ _ _ _ _ h => scripted_effect h) hP,
    Pool.steps_of_follow (fun _ _ _ _ _ _ h => scripted_effect h) hPQ, hstatus, hstatus', ?_⟩
  rw [hclaims, hclaims']
  exact Nat.lt_succ_self 1

/-- Without failures the update stays as it is. -/
theorem inbox_lifecycle_once :
    ∃ (P : Pool (pollerCalls noCalls) (InboxWorld (ℕ × PollerJob)) PollerJob.Out)
      (row : UpdateRow), P.moment.world.db.update? "bot" 5 = some row ∧ row.status = .processed ∧
        row.attemptCount = claims "bot" 5 P.moment.trace ∧ row.attemptCount ≤ 3 := by
  have hrun : ((Pool.start (.start .empty)).follow (fun _ : Bool => scripted repeatedPoll false)
      (PollerJob.body chatLibrary silentHandler "bot") firstTime).map
        (fun P => (P.moment.world.db.update? "bot" 5).map (·.status)) = some (some .processed) := by
    decide +kernel
  obtain ⟨P, hP, hstatus⟩ := Option.map_eq_some_iff.mp hrun
  obtain ⟨row, hrow, hprocessed⟩ := Option.map_eq_some_iff.mp hstatus
  have hact : ∀ (_ : Bool) t m c r w, scripted repeatedPoll false t m c = some (r, w) →
      (answeredSemantics (fun _ => none) noCalls "bot").effect t m c r w :=
    fun _ _ _ _ _ _ h => ⟨scripted_effect h, scripted_answered h⟩
  have hreach : Pool.Reachable (answeredSemantics (fun _ => none) noCalls "bot")
      (PollerJob.body chatLibrary silentHandler "bot") (.start .empty) P :=
    Pool.steps_of_follow hact hP
  obtain ⟨hcount, hle⟩ := (inbox_lifecycle keepsUpdates_chatLibrary (fun _ => rfl) hreach .refl
    hrow).1
  exact ⟨P, row, hrow, hprocessed, hcount, hle⟩

end Again

end ImBridge
