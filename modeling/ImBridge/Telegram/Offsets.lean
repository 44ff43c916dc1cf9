import ImBridge.Telegram.Batches
import ImBridge.Telegram.Outline

/-!
# No update is lost

Telegram forgets an update once a poller asks with an offset past it. So an offset may only be sent
when everything before it is in the inbox. Storing a batch is all or nothing, and the offset of the
poller moves with it; across crashes and restarts the poller goes on from the offset in the tables,
which was written in the transaction that stored the updates.

## Main definitions

* `Sendable`: the offset is not past the updates in the inbox
* `lastPoll`: the last request of a task and the updates it was answered with
* `offsetDiscipline`: what pollers may do for no update to be lost

## Main results

* `persistUpdateBatch_runs`: storing a batch, by a task that is alone
* `no_lost_update`: the same, and what follows for every interleaving of pollers and restarts
-/

namespace ImBridge

open Interleaving Discipline

variable {χ : Signature} {unixepoch : String → Option ℤ} {lib : Primitives} {botId : String}

/-! ## A task that is alone -/

variable {updates : List Json}

section Alone

/-- A task that is alone lives forever. -/
def aloneLifetime (unixepoch : String → Option ℤ) (χ : Signature) :
    Lifetime unixepoch (inboxAlone unixepoch χ) () where
  alive _ := True
  dead _ := False
  effect _ _ _ _ he := ⟨id, trivial, he⟩

theorem stable_alone (R : Moment (pollerCalls χ) Unit (InboxWorld Unit) → Prop) :
    (free (inboxAlone unixepoch χ)).Stable () R :=
  (solitary_inboxAlone unixepoch).stable _ R

theorem batchFrame_alone (db : Inbox) :
    BatchFrame (aloneLifetime unixepoch χ) (free _) fun m => m.world.db = db where
  stable _ := stable_alone _
  keep _ _ _ _ _ _ hw hdb := hw.trans hdb
  may _ _ _ _ := trivial

theorem persistUpdateBatch_runs {offset : ℤ} {m m' : Moment (pollerCalls χ) Unit (InboxWorld Unit)}
    {r : AppResult (List (ℤ × Json)) × ℤ}
    (h : Runs (inboxAlone unixepoch χ) () (persistUpdateBatch lib botId updates offset) m r m') :
    Fallible.onResult
      (fun _ => r.2 = nextOffset offset updates ∧
        AfterBatch lib botId updates offset m.world.db m'.world.db)
      (fun _ => r.2 = offset ∧ m'.world.db = m.world.db) r.1 := by
  have hpost := ((batchFrame_alone m.world.db).triple_persistUpdateBatch
    (G := fun _ o m' => o = nextOffset offset updates ∧
      AfterBatch lib botId updates offset m.world.db m'.world.db) (fun _ _ => stable_alone _)
    (fun _ _ _ => trivial) fun m₁ w _ _ hdb _ _ hcopy => ⟨rfl, hdb ▸ hcopy⟩).runs trivial
    (.inr ⟨trivial, rfl⟩) h
  obtain ⟨result, offset'⟩ := r
  cases result with
  | ok persisted =>
    rcases hpost with hdead | ⟨-, hok⟩
    · exact hdead.elim
    · exact hok
  | error e =>
    rcases hpost with ⟨hoffset, hdead | ⟨-, herr⟩⟩
    · exact hdead.elim
    · exact ⟨hoffset, herr⟩

end Alone

/-! ## What pollers may do -/

section Trace

variable {A : Type} [DecidableEq A]

/-- The offset that was sent with a request for updates, and the updates of the answer. -/
def polled : Event (pollerCalls χ) A → Option (ℤ × List Json)
  | ⟨_, .getUpdates _ offset, r⟩ => some (offset, Poll.updates r)
  | _ => none

/-- The last request of the task. -/
def lastPoll (t : A) (trace : List (Event (pollerCalls χ) A)) : Option (ℤ × List Json) :=
  trace.foldl (fun last e => if e.agent = t then (polled e).or last else last) none

/-- With this event the task goes on from `offset`: it has committed, or asks with another
offset. -/
def MovesOn (offset : ℤ) : Event (pollerCalls χ) A → Prop
  | ⟨_, .commitTx, r⟩ => r = .ok ()
  | ⟨_, .getUpdates _ offset', _⟩ => offset' ≠ offset
  | _ => False

theorem lastPoll_append (t : A) (trace : List (Event (pollerCalls χ) A))
    (e : Event (pollerCalls χ) A) :
    lastPoll t (trace ++ [e]) =
      if e.agent = t then (polled e).or (lastPoll t trace) else lastPoll t trace := by
  rw [lastPoll, List.foldl_append]
  rfl

theorem lastPoll_of_silent {t : A} {trace : List (Event (pollerCalls χ) A)}
    (h : ∀ e ∈ trace, e.agent ≠ t) : lastPoll t trace = none := by
  induction trace using List.reverseRecOn with
  | nil => rfl
  | append_singleton trace e ih =>
    rw [lastPoll_append, if_neg (h e (by simp))]
    exact ih fun e' he' => h e' (by simp [he'])

end Trace

/-- The offset is not past what is in the inbox, or not past the one that was there initially. -/
def Sendable (botId : String) (initial : ℤ) (db : Inbox) (offset : ℤ) : Prop :=
  offset ≤ initial ∨ ∃ updateId row, db.update? botId updateId = some row ∧ offset ≤ updateId + 1

section Sendable

variable {initial offset offset' : ℤ} {db db' : Inbox}

variable (h : Sendable botId initial db offset)
include h

theorem Sendable.grows (hgrows : db.Grows botId db') :
    Sendable botId initial db' offset := by
  rcases h with hle | ⟨updateId, row, hrow, hle⟩
  · exact .inl hle
  · obtain ⟨row', hrow', -⟩ := hgrows updateId row hrow
    exact .inr ⟨updateId, row', hrow', hle⟩

theorem Sendable.max (h' : Sendable botId initial db offset') :
    Sendable botId initial db (Max.max offset offset') := by
  rcases le_total offset offset' with hle | hle
  · rwa [max_eq_right hle]
  · rwa [max_eq_left hle]

theorem Sendable.nextOffset (hstored : ∀ update ∈ updates, Stored lib botId db update) :
    Sendable botId initial db (nextOffset offset updates) := by
  induction updates generalizing offset with
  | nil => exact h
  | cons update updates ih =>
    have hrest : ∀ u ∈ updates, Stored lib botId db u := fun u hu =>
      hstored u (List.mem_cons_of_mem _ hu)
    cases hid : updateIdOf update with
    | none =>
      rw [nextOffset_cons_none hid]
      exact ih h hrest
    | some updateId =>
      rw [nextOffset_cons_some hid]
      obtain ⟨-, -, row, hrow, -⟩ := hstored update List.mem_cons_self updateId hid
      exact ih (h.max (.inr ⟨updateId, row, hrow, le_rfl⟩)) hrest

end Sendable

/-- Every offset that was sent is covered by the inbox, the durable one is, and so are the updates
of every batch that a task has moved on from. -/
structure OffsetInv (lib : Primitives) (botId : String) (initial : ℤ) (m : JobMoment χ) : Prop where
  durable : Sendable botId initial m.world.db ((m.world.db.offset? botId).getD 0)
  sent : ∀ e ∈ m.trace, ∀ offset batch, polled e = some (offset, batch) →
    Sendable botId initial m.world.db offset
  moved : ∀ before e after, m.trace = before ++ e :: after → ∀ offset batch,
    lastPoll e.agent before = some (offset, batch) → MovesOn offset e →
      ∀ update ∈ batch, Stored lib botId m.world.db update

/-- What a poller may do: it asks with an offset that is covered, having stored the batch before if
the offset has moved, and it commits a copy that has everything the tables have, and the batch. -/
def OffsetMay (lib : Primitives) (botId : String) (initial : ℤ) (t : JobTask) (m : JobMoment χ) :
    PollerCall χ → Prop
  | .getUpdates _ offset => Sendable botId initial m.world.db offset ∧
      ∀ offset' batch, lastPoll t m.trace = some (offset', batch) → offset ≠ offset' →
        ∀ update ∈ batch, Stored lib botId m.world.db update
  | .commitTx => ∀ copy, m.world.tx t = some (m.world.db, copy) →
      m.world.db.Grows botId copy ∧ Sendable botId initial copy ((copy.offset? botId).getD 0) ∧
        ∀ offset batch, lastPoll t m.trace = some (offset, batch) →
          ∀ update ∈ batch, Stored lib botId copy update
  | .inbox s => ∀ nextOffset now, s ≠ .upsertOffset botId nextOffset now
  | _ => True

section Keep

variable {initial : ℤ} {t : JobTask} {m : JobMoment χ}
  {w : JobWorld} {c : PollerCall χ} {r : c.Reply}

/-- A permitted call keeps what is in the inbox, and the durable offset covered. -/
theorem OffsetMay.grows (hmay : OffsetMay lib botId initial t m c)
    (he : InboxEffect unixepoch t m.world c r w)
    (hinv : Sendable botId initial m.world.db ((m.world.db.offset? botId).getD 0)) :
    m.world.db.Grows botId w.db ∧ Sendable botId initial w.db ((w.db.offset? botId).getD 0) := by
  rcases he.inversion.2.2 with hdb | ⟨s, rfl, hdb⟩ | ⟨rfl, htx⟩
  · rw [hdb]
    exact ⟨.refl _, hinv⟩
  · have hgrows : m.world.db.Grows botId (s.exec unixepoch m.world.db).2 := Inbox.grows_exec s
    rw [hdb, Inbox.offset?_exec hmay]
    exact ⟨hgrows, hinv.grows hgrows⟩
  · obtain ⟨hgrows, hdurable, -⟩ := hmay w.db htx
    exact ⟨hgrows, hdurable⟩

/-- After a permitted call that moves the task on, the batch before it is stored. -/
theorem OffsetMay.stored {offset : ℤ} {batch : List Json}
    (hmay : OffsetMay lib botId initial t m c) (he : InboxEffect unixepoch t m.world c r w)
    (hlast : lastPoll t m.trace = some (offset, batch))
    (hmoves : MovesOn offset (⟨t, c, r⟩ : JobEvent χ)) :
    ∀ update ∈ batch, Stored lib botId w.db update := by
  unfold MovesOn at hmoves
  split at hmoves
  case h_1 a r' heq =>
    cases heq
    subst hmoves
    rcases he with ⟨start, copy, htx, hdb, -, rfl⟩ | ⟨hr, -⟩
    · subst hdb
      exact (hmay copy htx).2.2 offset batch hlast
    · cases hr
  case h_2 a b offset' r' heq =>
    cases heq
    cases he
    exact hmay.2 offset batch hlast hmoves
  case h_3 => exact hmoves.elim

theorem OffsetInv.after (hinv : OffsetInv lib botId initial m)
    (hmay : OffsetMay lib botId initial t m c) (he : InboxEffect unixepoch t m.world c r w) :
    OffsetInv lib botId initial (m.after t c r w) := by
  obtain ⟨hgrows, hdurable⟩ := hmay.grows he hinv.durable
  refine ⟨hdurable, fun e hmem offset batch hpolled => ?_, ?_⟩
  · rcases List.mem_append.mp hmem with hold | hnew
    · exact (hinv.sent e hold offset batch hpolled).grows hgrows
    · -- the new event is a request with an offset that is covered
      obtain rfl := List.mem_singleton.mp hnew
      unfold polled at hpolled
      split at hpolled
      case h_1 a b offset' r' heq =>
        cases heq
        cases hpolled
        exact hmay.1.grows hgrows
      case h_2 => cases hpolled
  · intro before e after htrace offset batch hlast hmoves
    rcases List.eq_nil_or_concat after with rfl | ⟨after, e', rfl⟩
    · obtain ⟨rfl, he'⟩ := List.append_inj' htrace rfl
      cases he'
      exact hmay.stored he hlast hmoves
    · rw [List.concat_eq_append, ← List.cons_append, ← List.append_assoc] at htrace
      obtain ⟨htrace, -⟩ := List.append_inj' htrace rfl
      intro update hu
      exact (hinv.moved before e after htrace offset batch hlast hmoves update hu).grows hgrows

theorem OffsetInv.drifted (hinv : OffsetInv lib botId initial m)
    (hd : InboxDrift botId m.world w) : OffsetInv lib botId initial (m.drifted w) := by
  have hgrows : m.world.db.Grows botId w.db ∧ w.db.offset? botId = m.world.db.offset? botId := by
    cases hd with
    | restart => exact ⟨.refl _, rfl⟩
    | others db hupdates hoffset => exact ⟨.of_eq hupdates, hoffset⟩
  refine ⟨?_, fun e hmem offset batch hpolled => ?_,
    fun before e after htrace offset batch hl hm => ?_⟩
  · rw [Moment.drifted_world, hgrows.2]
    exact hinv.durable.grows hgrows.1
  · exact (hinv.sent e hmem offset batch hpolled).grows hgrows.1
  · intro update hu
    exact (hinv.moved before e after htrace offset batch hl hm update hu).grows hgrows.1

end Keep

/-- **The discipline of offsets**, for the tasks of the present process. -/
def offsetDiscipline (unixepoch : String → Option ℤ) (χ : Signature) (lib : Primitives)
    (botId : String) (initial : ℤ) : Discipline (inboxSemantics unixepoch χ botId) where
  inv := OffsetInv lib botId initial
  may t m c := t.2.process = m.world.process → OffsetMay lib botId initial t m c
  keep _ _ _ _ _ hinv hmay he := hinv.after (hmay he.1) he.2
  keep_drift _ _ hinv hd := hinv.drifted hd

/-- A task lives as long as its process. -/
def pollerLifetime (unixepoch : String → Option ℤ) (χ : Signature) (botId : String)
    (t : JobTask) : Lifetime unixepoch (inboxSemantics unixepoch χ botId) t :=
  processLifetime t fun _ _ _ _ he => he

/-! ## The parts of a poller -/

section Parts

variable {initial offset : ℤ} {t : JobTask} {guard : PollerOwnershipGuard} {app : UpdateHandler χ}
  {R : JobMoment χ → Prop}

/-- What the steps of the others do not disturb: the transaction of the task, what it knows to be
in the inbox, and its last request. -/
theorem stable_within
    (hR : ∀ m m', m'.world.tx t = m.world.tx t → m.world.db.Grows botId m'.world.db →
      lastPoll t m'.trace = lastPoll t m.trace → R m → R m') :
    (offsetDiscipline unixepoch χ lib botId initial).Stable t
      ((pollerLifetime unixepoch χ botId t).Within R) := by
  rintro m m' hother (hdead | ⟨halive, hRm⟩)
  · left
    cases hother with
    | call u c r w hu hm hmay he =>
      rw [Moment.after_world, show (pollerLifetime unixepoch χ botId t).dead w ↔
        t.2.process < w.process from Iff.rfl, he.2.inversion.1]
      exact hdead
    | drift w hm hd =>
      cases hd with
      | restart => exact Nat.lt_succ_of_lt hdead
      | others db hupdates hoffset => exact hdead
  · cases hother with
    | call u c r w hu hm hmay he =>
      right
      obtain ⟨hprocess, htx, -⟩ := he.2.inversion
      refine ⟨hprocess.trans halive, hR m _ (htx t hu.symm) ?_ ?_ hRm⟩
      · exact (hmay he.1).grows he.2 hm.durable |>.1
      · rw [Moment.after_trace, lastPoll_append, if_neg hu]
    | drift w hm hd =>
      cases hd with
      | restart => exact .inl (Nat.lt_succ_of_le halive.ge)
      | others db hupdates hoffset => exact .inr ⟨halive, hR m _ rfl (.of_eq hupdates) rfl hRm⟩

/-- Calls that neither ask for updates nor change offsets. -/
def PollerCall.Harmless (botId : String) : PollerCall χ → Prop
  | .getUpdates .. | .commitTx => False
  | .inbox s => ∀ nextOffset now, s ≠ .upsertOffset botId nextOffset now
  | _ => True

variable {c : PollerCall χ}

theorem PollerCall.Plain.harmless (hc : c.Plain) : c.Harmless botId := by
  cases c <;> first | exact hc.elim | trivial

theorem PollerCall.Harmless.polled (hc : c.Harmless botId) (r : c.Reply) :
    ImBridge.polled (⟨t, c, r⟩ : JobEvent χ) = none := by
  cases c <;> first | exact hc.elim | rfl

theorem PollerCall.Harmless.may (hc : c.Harmless botId) (m : JobMoment χ) :
    OffsetMay lib botId initial t m c := by
  cases c <;> first | exact hc.elim | exact hc

/-- Knowledge of the inbox and of the last request of the task, which is never lost again. -/
def Lasts (botId : String) (t : JobTask) (R : JobMoment χ → Prop) : Prop :=
  ∀ m m', m.world.db.Grows botId m'.world.db → lastPoll t m'.trace = lastPoll t m.trace →
    R m → R m'

theorem Lasts.stable (hR : Lasts botId t R) :
    (offsetDiscipline unixepoch χ lib botId initial).Stable t
      ((pollerLifetime unixepoch χ botId t).Within R) :=
  stable_within fun m m' _ hgrows hlast hRm => hR m m' hgrows hlast hRm

theorem Lasts.after (hR : Lasts botId t R) (hc : c.Harmless botId) {r : c.Reply} {w : JobWorld}
    {m : JobMoment χ} (hm : OffsetInv lib botId initial m)
    (he : InboxEffect unixepoch t m.world c r w) (hRm : R m) :
    R (m.after t c r w) := by
  have hmay : OffsetMay lib botId initial t m c := hc.may m
  refine hR m _ (hmay.grows he hm.durable).1 ?_ hRm
  rw [Moment.after_trace, lastPoll_append, hc.polled, Option.none_or, ite_self]

/-- A part that makes only harmless calls keeps what is known. -/
theorem Lasts.triple (hR : Lasts botId t R) {α : Type} {p : PollerProgram χ α}
    (hp : p.Uses (PollerCall.Harmless botId)) :
    (offsetDiscipline unixepoch χ lib botId initial).Triple t
      ((pollerLifetime unixepoch χ botId t).Within R) p
      fun _ => (pollerLifetime unixepoch χ botId t).Within R := by
  refine (triple_of_uses hp (Program.ends_true p) hR.stable ?_).mono fun _ _ _ h => h.1
  intro c hc m hm hRm
  refine ⟨fun _ => hc.may m, fun r w he => ?_⟩
  obtain ⟨hdead, halive, heffect⟩ := (pollerLifetime unixepoch χ botId t).effect m c r w he
  rcases hRm with hd | ⟨-, hRm⟩
  · exact absurd hd hdead
  · exact .inr ⟨halive, hR.after hc hm heffect hRm⟩

theorem lasts_true : Lasts (χ := χ) botId t fun _ => True := fun _ _ _ _ h => h

theorem lasts_lastPoll (last : Option (ℤ × List Json)) :
    Lasts (χ := χ) botId t fun m => lastPoll t m.trace = last :=
  fun _ _ _ hlast h => hlast.trans h

/-- The offset may be sent. -/
theorem lasts_may (offset : ℤ) :
    Lasts (χ := χ) botId t fun m =>
      OffsetMay lib botId initial t m (.getUpdates botId offset) := by
  rintro m m' hgrows hlast ⟨hsend, hstored⟩
  refine ⟨hsend.grows hgrows, fun offset' batch hl hne update hu => ?_⟩
  exact (hstored offset' batch (hlast ▸ hl) hne update hu).grows hgrows

theorem lasts_asked (updates : List Json) (offset : ℤ) :
    Lasts (χ := χ) botId t fun m => Sendable botId initial m.world.db offset ∧
      lastPoll t m.trace = some (offset, updates) :=
  fun _ _ hgrows hlast h => ⟨h.1.grows hgrows, hlast.trans h.2⟩

/-- While a batch is stored, the request that it is the answer to stays the last one. -/
theorem batchFrame_asked (updates : List Json) (offset : ℤ) :
    BatchFrame (pollerLifetime unixepoch χ botId t)
      (offsetDiscipline unixepoch χ lib botId initial) fun m =>
        Sendable botId initial m.world.db offset ∧ lastPoll t m.trace = some (offset, updates) where
  stable P := stable_within fun m m' htx hgrows hlast h =>
    ⟨htx ▸ h.1, h.2.1.grows hgrows, hlast.trans h.2.2⟩
  keep m c r w hc _ hw h := by
    have hpolled : polled (⟨t, c, r⟩ : JobEvent χ) = none := by
      cases c <;> first | exact hc.elim | rfl
    refine ⟨by rw [Moment.after_world, hw]; exact h.1, ?_⟩
    rw [Moment.after_trace, lastPoll_append, hpolled, Option.none_or, ite_self]
    exact h.2
  may m c hc hne _ := by
    cases c <;> first | exact hc.elim | exact absurd rfl hne | trivial

variable {db db' : Inbox} (h : AfterBatch lib botId updates offset db db')
include h

/-- The tables after the batch cover the next offset. -/
theorem AfterBatch.sendable (hoffset : Sendable botId initial db offset) :
    Sendable botId initial db' (nextOffset offset updates) :=
  (hoffset.grows h.grows).nextOffset h.stored

theorem AfterBatch.sendable_durable (hoffset : Sendable botId initial db offset)
    (hdurable : Sendable botId initial db ((db.offset? botId).getD 0)) :
    Sendable botId initial db' ((db'.offset? botId).getD 0) := by
  have hnext := h.sendable hoffset
  rw [h.durable]
  cases hd : db.offset? botId with
  | none => exact hnext
  | some durable =>
    rw [hd] at hdurable
    exact (hdurable.grows h.grows).max hnext

omit h

/-- The same offset may be sent again. -/
theorem may_of_asked {m : JobMoment χ} (hsend : Sendable botId initial m.world.db offset)
    (hlast : lastPoll t m.trace = some (offset, updates)) :
    OffsetMay lib botId initial t m (.getUpdates botId offset) := by
  refine ⟨hsend, fun offset' batch hl hne => ?_⟩
  rw [hlast] at hl
  cases hl
  exact absurd rfl hne

theorem triple_takeBatch (updates : List Json) :
    (offsetDiscipline unixepoch χ lib botId initial).Triple t
      ((pollerLifetime unixepoch χ botId t).Within fun m =>
        Sendable botId initial m.world.db offset ∧ lastPoll t m.trace = some (offset, updates))
      (takeBatch lib botId updates offset) fun offset' =>
        (pollerLifetime unixepoch χ botId t).Within fun m =>
          OffsetMay lib botId initial t m (.getUpdates botId offset') := by
  refine triple_bind ((batchFrame_asked updates offset).triple_persistUpdateBatch
    (G := fun _ offset' m => OffsetMay lib botId initial t m (.getUpdates botId offset'))
    (fun _ offset' => (lasts_may offset').stable) (fun m hm h halive copy htx => ?_)
    fun m w _ hm h _ _ hafter => ?_) ?_
  · -- the copy that may be committed has the batch
    rcases h with hdead | ⟨-, hcopy, hsend, hlast⟩
    · exact absurd hdead halive.not_lt
    · rw [htx] at hcopy
      refine ⟨hcopy.grows, hcopy.sendable_durable hsend hm.durable, fun offset' batch hl => ?_⟩
      rw [hlast] at hl
      cases hl
      exact hcopy.stored
  · refine ⟨hafter.sendable h.1, fun offset' batch hl _ => ?_⟩
    rw [Moment.after_trace, lastPoll_append, if_pos rfl] at hl
    cases h.2.symm.trans hl
    exact hafter.stored
  · rintro ⟨persisted, offset'⟩
    cases persisted with
    | error e =>
      refine triple_ret (lasts_may offset').stable fun m _ h => ?_
      obtain ⟨rfl, h⟩ := h
      exact h.imp fun h => may_of_asked h.1 h.2
    | ok persisted =>
      have hspawn : (spawnGroups (χ := χ) (groupUpdates persisted)).Uses
          (PollerCall.Harmless botId) := by
        induction groupUpdates persisted with
        | nil => exact Program.uses_ret _
        | cons group groups ih => exact Program.uses_bind (uses_askPoller trivial) fun _ => ih
      refine triple_bind ((lasts_may offset').triple hspawn) fun _ => ?_
      refine triple_bind ((lasts_may offset').triple (uses_askPoller trivial))
        fun _ => ?_
      exact triple_ret (lasts_may offset').stable fun _ _ h => h

theorem Lasts.kept (hR : Lasts botId t R) :
    Kept (offsetDiscipline unixepoch χ lib botId initial) t
      ((pollerLifetime unixepoch χ botId t).Within R) where
  stable := hR.stable
  triple hp := hR.triple (hp.imp fun _ hc => hc.harmless)

/-- A request is made with an offset that may be sent. -/
theorem triple_getUpdates :
    (offsetDiscipline unixepoch χ lib botId initial).Triple t
      ((pollerLifetime unixepoch χ botId t).Within fun m =>
        OffsetMay lib botId initial t m (.getUpdates botId offset))
      (askPoller (.getUpdates botId offset)) fun poll =>
        (pollerLifetime unixepoch χ botId t).Within fun m =>
          Sendable botId initial m.world.db offset ∧
            lastPoll t m.trace = some (offset, poll.updates) := by
  refine Lifetime.triple_ask (lasts_may offset).stable (fun r => (lasts_asked _ offset).stable)
    (fun m _ h halive => ?_) fun m r w _ h he => ?_
  · rcases h with hdead | ⟨-, h⟩
    · exact absurd hdead halive.not_lt
    · exact h
  · cases he
    refine ⟨h.1, ?_⟩
    rw [Moment.after_trace, lastPoll_append, if_pos rfl]
    rfl

/-- The durable offset, which the poller starts from, is covered. -/
theorem triple_selectOffset :
    (offsetDiscipline unixepoch χ lib botId initial).Triple t
      ((pollerLifetime unixepoch χ botId t).Within fun m => lastPoll t m.trace = none)
      (askPoller (.inbox (.selectOffset botId))) fun r m => Fallible.onResult
        (fun offset => (pollerLifetime unixepoch χ botId t).Within (fun m =>
          OffsetMay lib botId initial t m (.getUpdates botId (offset.getD 0))) m)
        (fun _ => (pollerLifetime unixepoch χ botId t).Within (fun _ => True) m) r := by
  refine (Lifetime.triple_ask (c := .inbox (.selectOffset botId)) (S := fun r m => ∀ offset,
    r = .ok offset → OffsetMay lib botId initial t m (.getUpdates botId (offset.getD 0)))
    (lasts_lastPoll none).stable (fun r => Lasts.stable ?_) (fun m _ _ _ => nofun)
    fun m r w hm hlast he => ?_).mono fun r m _ h => ?_
  · exact fun m m' hg hl h offset hr => lasts_may _ m m' hg hl (h offset hr)
  · intro offset hr
    subst hr
    rcases he with ⟨hr, rfl⟩ | ⟨hr, -⟩
    · cases hr
      refine ⟨hm.durable, fun offset' batch hl => ?_⟩
      rw [Moment.after_trace, lastPoll_append, if_pos rfl] at hl
      exact absurd (hlast.symm.trans hl) nofun
    · cases hr
  · cases r with
    | ok offset =>
      rw [Fallible.onResult_ok]
      exact h.imp fun h => h offset rfl
    | error e =>
      rw [Fallible.onResult_error]
      exact h.imp fun _ => trivial

/-- Nothing more is asked for at the end. -/
theorem triple_finalizePollerExit (hR : Lasts botId t R) :
    (offsetDiscipline unixepoch χ lib botId initial).Triple t
      ((pollerLifetime unixepoch χ botId t).Within R) (finalizePollerExit botId guard)
      fun _ => (pollerLifetime unixepoch χ botId t).Within fun _ => True :=
  (hR.triple (uses_finalizePollerExit (fun _ hc => hc.plain.harmless) trivial)).mono
    fun _ _ _ h => h.imp fun _ => trivial

/-- A poller asks with offsets that may be sent. -/
theorem outline_offsets :
    PollerOutline (offsetDiscipline unixepoch χ lib botId initial) t lib app botId guard
      ((pollerLifetime unixepoch χ botId t).Within fun m => lastPoll t m.trace = none)
      ((pollerLifetime unixepoch χ botId t).Within fun _ => True)
      ((pollerLifetime unixepoch χ botId t).Within fun _ => True)
      (fun offset => (pollerLifetime unixepoch χ botId t).Within fun m =>
        OffsetMay lib botId initial t m (.getUpdates botId offset))
      fun poll offset => (pollerLifetime unixepoch χ botId t).Within fun m =>
        Sendable botId initial m.world.db offset ∧
          lastPoll t m.trace = some (offset, poll.updates) where
  before := (lasts_lastPoll none).kept
  ready offset := (lasts_may offset).kept
  asked poll offset := (lasts_asked poll.updates offset).kept
  stable_exit := lasts_true.stable
  stable_done := lasts_true.stable
  exit_of_before _ h := h.imp fun _ => trivial
  exit_of_ready _ _ h := h.imp fun _ => trivial
  ready_of_asked _ _ _ h := h.imp fun h => may_of_asked h.1 h.2
  done_of_exit _ h := h
  select := triple_selectOffset
  startup offset := (lasts_may offset).triple (uses_recoverStartupUpdates
    (fun _ hc => hc.plain.harmless) (fun _ _ _ _ _ => nofun) (fun _ _ _ => nofun)
      fun _ _ _ => nofun)
  due offset := (lasts_may offset).triple (uses_recoverDueUpdates
    (fun _ hc => hc.plain.harmless) (fun _ _ _ _ _ => nofun) fun _ _ _ => nofun)
  poll _ := triple_getUpdates
  batch poll _ := triple_takeBatch poll.updates
  exit := triple_finalizePollerExit lasts_true

/-- The task of a poller, which has made no request when it starts. -/
theorem triple_pollerTask (rounds : ℕ) :
    (offsetDiscipline unixepoch χ lib botId initial).Triple t (fun m => m.Silent t)
      (pollerTask lib app botId guard rounds)
      fun _ => (pollerLifetime unixepoch χ botId t).Within fun _ => True := by
  have hsilent : (offsetDiscipline unixepoch χ lib botId initial).Stable t
      fun m => lastPoll t m.trace = none := by
    intro m m' hother hlast
    cases hother with
    | call u c r w hu hm hmay he => rwa [Moment.after_trace, lastPoll_append, if_neg hu]
    | drift w hm hd => exact hlast
  have hstart : (offsetDiscipline unixepoch χ lib botId initial).Triple t
      (fun m => lastPoll t m.trace = none) (askPoller (.awaitStart guard.runtimeInstanceId))
      fun _ => (pollerLifetime unixepoch χ botId t).Within fun m => lastPoll t m.trace = none := by
    refine triple_perform hsilent (fun _ _ _ _ => trivial) (fun m r w hm hlast he => ?_)
      fun _ => (lasts_lastPoll none).stable
    refine .inr ⟨((pollerLifetime unixepoch χ botId t).effect m _ r w he).2.1, ?_⟩
    change lastPoll t (m.trace ++ [_]) = none
    rw [lastPoll_append, if_pos rfl]
    exact hlast
  refine (triple_bind hstart fun started => ?_).given fun m _ h => lastPoll_of_silent h
  cases started with
  | true => exact outline_offsets.triple_pollTelegramBot rounds
  | false =>
    refine triple_bind (triple_finalizePollerExit (lasts_lastPoll none)) fun _ => ?_
    exact triple_ret lasts_true.stable fun _ _ h => h

theorem uses_groupTask : (groupTask app botId guard).Uses (PollerCall.Harmless botId) := by
  refine Program.uses_bind (uses_askPoller trivial) fun updates => ?_
  refine Program.uses_bind (uses_processGroup (fun _ hc => hc.plain.harmless)
    (fun _ _ _ _ _ => nofun) updates) fun _ => ?_
  exact uses_askPoller trivial

/-- Every task of a poller keeps the discipline. -/
theorem triple_pollerJob (j : PollerJob) (i : ℕ) :
    (offsetDiscipline unixepoch χ lib botId initial).Triple (i, j) (fun m => m.Silent (i, j))
      (j.body lib app botId) fun _ _ => True := by
  cases j with
  | poller process guard rounds =>
    exact (triple_pollerTask rounds).mono fun _ _ _ _ => trivial
  | group process guard =>
    refine (triple_of_uses uses_groupTask (Program.ends_true _)
      stable_true fun c hc m _ _ => ?_).weaken (fun _ _ _ => trivial)
      fun _ _ _ _ => trivial
    exact ⟨fun _ => hc.may m, fun _ _ _ => trivial⟩

end Parts

/-! ## No update is lost -/

/-- **No update is lost.** Storing a batch leaves everything as it was when it fails, and otherwise
has stored every update of the batch with an id and moved the offset past exactly these, to at most
the durable one; a batch with an id that is negative or has no successor is refused. In every
interleaving of pollers, with crashes and restarts, no offset was ever sent that is past what is in
the inbox, and the updates of a batch from which a poller moved on are in the inbox. -/
theorem no_lost_update (unixepoch : String → Option ℤ) (lib : Primitives) (app : UpdateHandler χ)
    (botId : String) :
    (∀ updates offset m result offset' m',
      Runs (inboxAlone unixepoch χ) () (persistUpdateBatch lib botId updates offset) m
        (result, offset') m' →
      (∀ e, result = .error e → m'.world.db = m.world.db ∧ offset' = offset) ∧
      (∀ persisted, result = .ok persisted →
        (∀ update ∈ updates, Stored lib botId m'.world.db update) ∧
          offset' = nextOffset offset updates ∧
            ∃ durable, m'.world.db.offset? botId = some durable ∧ offset' ≤ durable) ∧
      ((∃ update ∈ updates, ∃ updateId, updateIdOf update = some updateId ∧
        (updateId < 0 ∨ updateId = 2 ^ 63 - 1)) → ∃ e, result = .error e)) ∧
    (∀ w P, Pool.Reachable (inboxSemantics unixepoch χ botId) (PollerJob.body lib app botId) w P →
      (∀ t offset poll, (⟨t, .getUpdates botId offset, poll⟩ :
          Event (pollerCalls χ) (ℕ × PollerJob)) ∈ P.moment.trace →
        Sendable botId ((w.db.offset? botId).getD 0) P.moment.world.db offset) ∧
      (∀ before e after offset batch, P.moment.trace = before ++ e :: after →
        lastPoll e.agent before = some (offset, batch) → MovesOn offset e →
          ∀ update ∈ batch, Stored lib botId P.moment.world.db update)) := by
  refine ⟨fun updates offset m result offset' m' h => ?_, fun w P h => ?_⟩
  · have hruns := persistUpdateBatch_runs h
    cases result with
    | error e =>
      exact ⟨fun _ _ => ⟨hruns.2, hruns.1⟩, nofun, fun _ => ⟨e, rfl⟩⟩
    | ok persisted =>
      obtain ⟨hoffset, hafter⟩ := hruns
      refine ⟨nofun, fun _ _ => ⟨hafter.stored, hoffset, _, hafter.durable, ?_⟩, ?_⟩
      · rw [show offset' = nextOffset offset updates from hoffset]
        cases m.world.db.offset? botId with
        | none => exact le_rfl
        | some durable => exact le_max_right _ _
      · rintro ⟨update, hu, updateId, hid, hbad⟩
        obtain ⟨hnonneg, hlt, -⟩ := hafter.stored update hu updateId hid
        omega
  · have hinit : OffsetInv (χ := χ) lib botId ((w.db.offset? botId).getD 0) ⟨w, []⟩ :=
      ⟨.inl le_rfl, fun e he => absurd he List.not_mem_nil, fun before e after h => by simp at h⟩
    have hverified : (offsetDiscipline unixepoch χ lib botId ((w.db.offset? botId).getD 0)).Verified
        (fun _ _ _ _ => True) P :=
      sound (fun j i => triple_pollerJob j i) hinit h
    have hinv := hverified.inv
    refine ⟨fun t offset poll hmem => hinv.sent _ hmem offset _ rfl, ?_⟩
    exact fun before e after offset batch htrace => hinv.moved before e after htrace offset batch

end ImBridge
