import ImBridge.Telegram.InboxRuns

/-!
# Storing a batch of updates

The transaction of `persist_update_batch`, verified for any semantics in which a task has the inbox
calls: either it fails and the tables are as they were, or it commits a copy that has every update
of the batch and an offset past all of them. What the surroundings leave alone meanwhile is a
parameter, so that the same proof serves a task that is alone and a poller among others.

## Main definitions

* `updateIdOf`, `nextOffset`: the ids of a batch, and the offset after it
* `Stored`, `Batched`: an update is in the inbox; the tables after a batch
* `Lifetime`, `Lifetime.Within`: when a task makes calls, and what holds while it does

## Main results

* `Inbox.grows_exec`: no statement removes an update or changes its text
* `BatchFrame.triple_persistTransaction`: the transaction stores the batch or does nothing
* `BatchFrame.triple_persistUpdateBatch`: the offset of the caller moves with it
-/

namespace ImBridge

open Interleaving Discipline Fallible

/-! ## The inbox after a batch -/

/-- The id of an update, if it fits into 64 bits. -/
def updateIdOf (update : Json) : Option ℤ := (update.get "update_id").bind Json.asI64

/-- The offset after the updates: the maximum of the old one and one more than every id. -/
def nextOffset (offset : ℤ) (updates : List Json) : ℤ :=
  ((updates.filterMap updateIdOf).map (· + 1)).foldl max offset

/-- Every update of `db` is in `db'`, with the same text. -/
def Inbox.Grows (botId : String) (db db' : Inbox) : Prop :=
  ∀ updateId row, db.update? botId updateId = some row →
    ∃ row', db'.update? botId updateId = some row' ∧ row'.rawUpdateJson = row.rawUpdateJson

/-- The update is in the inbox, if it has an id. -/
def Stored (lib : Primitives) (botId : String) (db : Inbox) (update : Json) : Prop :=
  ∀ updateId, updateIdOf update = some updateId →
    0 ≤ updateId ∧ updateId + 1 < 2 ^ 63 ∧
      ∃ row, db.update? botId updateId = some row ∧ row.rawUpdateJson = lib.renderJson update

/-- The row of an update that nobody has claimed yet. -/
structure UpdateRow.Fresh (lib : Primitives) (row : UpdateRow) : Prop where
  status : row.status = .received
  attemptCount : row.attemptCount = 0
  text : ∃ update, row.rawUpdateJson = lib.renderJson update

/-- The tables `copy`, made from `start`, after the updates of a batch. -/
structure Batched (lib : Primitives) (botId : String) (start : Inbox) (updates : List Json)
    (durable : Option ℤ) (copy : Inbox) : Prop where
  kept : ∀ updateId row, start.update? botId updateId = some row →
    copy.update? botId updateId = some row
  fresh : ∀ updateId row, copy.update? botId updateId = some row →
    start.update? botId updateId = some row ∨
      (start.update? botId updateId = none ∧ row.Fresh lib)
  stored : ∀ update ∈ updates, Stored lib botId copy update
  durable : copy.offset? botId = durable

/-- The updates of the batch that are to be processed, with their ids. -/
def ToProcess (updates : List Json) (persisted : List (ℤ × Json)) : Prop :=
  ∀ p ∈ persisted, p.2 ∈ updates ∧ updateIdOf p.2 = some p.1

/-- The tables that the transaction of a batch commits. -/
def AfterBatch (lib : Primitives) (botId : String) (updates : List Json) (offset : ℤ)
    (start copy : Inbox) : Prop :=
  Batched lib botId start updates
    (some (((start.offset? botId).map (max · (nextOffset offset updates))).getD
      (nextOffset offset updates))) copy

variable {update : Json}

section Inbox

variable {unixepoch : String → Option ℤ} {lib : Primitives} {botId : String} {db db' db'' : Inbox}

theorem Inbox.Grows.refl (db : Inbox) : db.Grows botId db := fun _ row h => ⟨row, h, rfl⟩

theorem Inbox.Grows.of_eq (h : ∀ updateId, db'.update? botId updateId = db.update? botId updateId) :
    db.Grows botId db' := by
  intro updateId row hrow
  exact ⟨row, (h updateId).trans hrow, rfl⟩

theorem Inbox.grows_exec (s : InboxStatement) : db.Grows botId (s.exec unixepoch db).2 := by
  intro updateId row hrow
  have hstep : Inbox.RowStep s botId updateId (db.update? botId updateId)
      ((s.exec unixepoch db).2.update? botId updateId) := Inbox.rowStep_exec s
  rw [hrow] at hstep
  generalize (s.exec unixepoch db).2.update? botId updateId = after at hstep
  cases hstep with
  | keep => exact ⟨row, rfl, rfl⟩
  | change u _ now hs hguard => exact ⟨_, rfl, UpdateChange.set_rawUpdateJson ..⟩

theorem Stored.grows (h : Stored lib botId db update) (hgrows : db.Grows botId db') :
    Stored lib botId db' update := by
  intro updateId hid
  obtain ⟨hnonneg, hlt, row, hrow, hraw⟩ := h updateId hid
  obtain ⟨row', hrow', hraw'⟩ := hgrows updateId row hrow
  exact ⟨hnonneg, hlt, row', hrow', hraw'.trans hraw⟩

theorem Batched.start (db : Inbox) : Batched lib botId db [] (db.offset? botId) db :=
  ⟨fun _ _ h => h, fun _ _ h => .inl h, nofun, rfl⟩

section Batched

variable {updates : List Json} {durable : Option ℤ} (h : Batched lib botId db updates durable db')
include h

theorem Batched.grows : db.Grows botId db' :=
  fun updateId row hrow => ⟨row, h.kept updateId row hrow, rfl⟩

/-- One more update of the batch is in the tables. -/
theorem Batched.snoc (hstored : Stored lib botId db' update) :
    Batched lib botId db (updates ++ [update]) durable db' :=
  ⟨h.kept, h.fresh, List.forall_mem_append.mpr ⟨h.stored, List.forall_mem_singleton.mpr hstored⟩,
    h.durable⟩

/-- An update that is not in the tables yet is put there. -/
theorem Batched.insert {updateId : ℤ} {rawSha256 now : String}
    (hnone : db'.update? botId updateId = none)
    (hok : ((InboxStatement.insertUpdate botId updateId (lib.renderJson update) rawSha256 now).exec
      unixepoch db').1 = .ok ()) :
    Batched lib botId db updates durable
      ((InboxStatement.insertUpdate botId updateId (lib.renderJson update) rawSha256 now).exec
        unixepoch db').2 ∧
    ∃ row, ((InboxStatement.insertUpdate botId updateId (lib.renderJson update) rawSha256 now).exec
      unixepoch db').2.update? botId updateId = some row ∧
        row.rawUpdateJson = lib.renderJson update := by
  have hupdate := Inbox.update?_exec_insertUpdate hok
  have hrow := (hupdate updateId).trans (if_pos rfl)
  refine ⟨⟨fun id row hid => ?_, fun id row hid => ?_, fun u hu => ?_, ?_⟩, _, hrow, rfl⟩
  · have hne : id ≠ updateId := by
      rintro rfl
      exact absurd (hnone.symm.trans (h.kept id row hid)) nofun
    rw [hupdate, if_neg hne]
    exact h.kept id row hid
  · rw [hupdate] at hid
    split at hid
    · -- the new row, which was not in the tables at the start either
      rename_i heq
      subst heq
      cases hid
      refine .inr ⟨?_, rfl, rfl, update, rfl⟩
      cases hstart : db.update? botId id with
      | none => rfl
      | some row => exact absurd (hnone.symm.trans (h.kept id row hstart)) nofun
    · exact h.fresh id row hid
  · exact (h.stored u hu).grows (Inbox.grows_exec _)
  · refine (Inbox.offset?_exec fun nextOffset now => ?_).trans h.durable
    exact nofun

theorem Batched.upsertOffset (nextOffset : ℤ) (now : String) :
    Batched lib botId db updates (some ((durable.map (max · nextOffset)).getD nextOffset))
      ((InboxStatement.upsertOffset botId nextOffset now).exec unixepoch db').2 := by
  have hupdate : ∀ updateId, ((InboxStatement.upsertOffset botId nextOffset now).exec unixepoch
      db').2.update? botId updateId = db'.update? botId updateId := fun updateId => by
    simp only [InboxStatement.exec]
    split <;> rfl
  refine ⟨fun updateId row hrow => ?_, fun updateId row hrow => ?_, fun update hu => ?_, ?_⟩
  · rw [hupdate]
    exact h.kept updateId row hrow
  · rw [hupdate] at hrow
    exact h.fresh updateId row hrow
  · exact (h.stored update hu).grows (Inbox.grows_exec _)
  · rw [Inbox.offset?_exec_upsertOffset, h.durable]

end Batched

end Inbox

section Offsets

variable {offset updateId : ℤ} {update : Json} {updates : List Json}

variable {persisted : List (ℤ × Json)} (h : ToProcess updates persisted)
include h

theorem ToProcess.snoc (update : Json) : ToProcess (updates ++ [update]) persisted :=
  fun p hp => ⟨List.mem_append_left _ (h p hp).1, (h p hp).2⟩

theorem ToProcess.append (hmem : update ∈ updates) (hid : updateIdOf update = some updateId) :
    ToProcess updates (persisted ++ [(updateId, update)]) :=
  List.forall_mem_append.mpr ⟨h, List.forall_mem_singleton.mpr ⟨hmem, hid⟩⟩

omit h

theorem nextOffset_cons_none (h : updateIdOf update = none) :
    nextOffset offset (update :: updates) = nextOffset offset updates := by
  simp [nextOffset, h]

theorem nextOffset_cons_some (h : updateIdOf update = some updateId) :
    nextOffset offset (update :: updates) = nextOffset (max offset (updateId + 1)) updates := by
  simp [nextOffset, h]

end Offsets

/-! ## Tasks and their lifetimes -/

section Lifetime

variable {χ : Signature} {A : Type} [DecidableEq A] {unixepoch : String → Option ℤ}
  {sem : Semantics (pollerCalls χ) A (InboxWorld A)} {t : A}

/-- When a task makes calls: only while it is alive, and its calls act on the inbox. -/
structure Lifetime (unixepoch : String → Option ℤ)
    (sem : Semantics (pollerCalls χ) A (InboxWorld A)) (t : A) where
  alive : InboxWorld A → Prop
  dead : InboxWorld A → Prop
  effect : ∀ m c r w, sem.effect t m c r w →
    ¬ dead m.world ∧ alive w ∧ InboxEffect unixepoch t m.world c r w

namespace Lifetime

variable (L : Lifetime unixepoch sem t) {D : Discipline sem}

/-- The assertion holds for as long as the task lives. -/
def Within (R : Moment (pollerCalls χ) A (InboxWorld A) → Prop)
    (m : Moment (pollerCalls χ) A (InboxWorld A)) : Prop :=
  L.dead m.world ∨ (L.alive m.world ∧ R m)

variable {L} {R R' : Moment (pollerCalls χ) A (InboxWorld A) → Prop}

theorem Within.imp {m : Moment (pollerCalls χ) A (InboxWorld A)} (h : L.Within R m)
    (himp : R m → R' m) : L.Within R' m :=
  h.imp_right fun ⟨halive, hR⟩ => ⟨halive, himp hR⟩

/-- The call rule: what matters is the effect of the call while the task lives. -/
theorem triple_ask {c : PollerCall χ} {S : c.Reply → Moment (pollerCalls χ) A (InboxWorld A) → Prop}
    (hR : D.Stable t (L.Within R)) (hS : ∀ r, D.Stable t (L.Within (S r)))
    (hmay : ∀ m, D.inv m → L.Within R m → D.may t m c)
    (h : ∀ m r w, D.inv m → R m → InboxEffect unixepoch t m.world c r w → S r (m.after t c r w)) :
    D.Triple t (L.Within R) (askPoller c) fun r => L.Within (S r) := by
  refine triple_perform hR hmay (fun m r w hm hpre he => ?_) hS
  obtain ⟨hdead, halive, heffect⟩ := L.effect m c r w he
  rcases hpre with hd | ⟨-, hRm⟩
  · exact absurd hd hdead
  · exact .inr ⟨halive, h m r w hm hRm heffect⟩

end Lifetime

/-- A task whose calls are made in its own process lives as long as that. -/
def processLifetime {sem : Semantics (pollerCalls χ) JobTask JobWorld}
    (t : JobTask) (h : ∀ m c r w, sem.effect t m c r w →
      t.2.process = m.world.process ∧ InboxEffect unixepoch t m.world c r w) :
    Lifetime unixepoch sem t where
  alive w := w.process = t.2.process
  dead w := t.2.process < w.process
  effect m c r w he := by
    obtain ⟨hprocess, heffect⟩ := h m c r w he
    refine ⟨?_, heffect.inversion.1.trans hprocess.symm, heffect⟩
    rw [hprocess]
    exact lt_irrefl _

omit [DecidableEq A] in
theorem triple_txStep {D : Discipline sem} {α : Type} {p : PollerProgram χ (Except SqlError α)}
    {pre R : Moment (pollerCalls χ) A (InboxWorld A) → Prop}
    {Q : α → Moment (pollerCalls χ) A (InboxWorld A) → Prop}
    (hp : D.Triple t pre p fun r m => onResult (fun a => Q a m) (fun _ => R m) r)
    (hQ : ∀ a, D.Stable t (Q a)) (hR : D.Stable t R) :
    D.Triple t pre (txStep p).run fun r m =>
      onResult (fun a => Q a m) (fun _ => R m) r := by
  refine triple_bind hp fun r => ?_
  cases r with
  | ok a => exact triple_ret (hQ a) fun _ _ h => h
  | error e => exact triple_ret hR fun _ _ h => h

end Lifetime

/-! ## The transaction -/

/-- The calls with which a batch is stored. -/
def PollerCall.OfBatch {χ : Signature} : PollerCall χ → Prop
  | .nowRfc3339 | .beginTx | .inTx _ | .commitTx => True
  | _ => False

/-- The transaction is open, and its tables are so. -/
def TxHas (P : Inbox → Inbox → Prop) : Option (Inbox × Inbox) → Prop
  | some (start, copy) => P start copy
  | none => False

theorem TxHas.imp {P Q : Inbox → Inbox → Prop} {tx : Option (Inbox × Inbox)} (h : TxHas P tx)
    (himp : ∀ start copy, P start copy → Q start copy) : TxHas Q tx := by
  cases tx with
  | none => exact h
  | some copies => exact himp copies.1 copies.2 h

section Transaction

variable {χ : Signature} {A : Type} [DecidableEq A] {unixepoch : String → Option ℤ}
  {sem : Semantics (pollerCalls χ) A (InboxWorld A)} {t : A}

/-- What the surroundings leave alone while a task stores a batch: its transaction, and the
assertion `F`, which does not depend on the transaction. -/
structure BatchFrame (L : Lifetime unixepoch sem t) (D : Discipline sem)
    (F : Moment (pollerCalls χ) A (InboxWorld A) → Prop) : Prop where
  stable : ∀ P : Option (Inbox × Inbox) → Prop,
    D.Stable t (L.Within fun m => P (m.world.tx t) ∧ F m)
  keep : ∀ m c r w, PollerCall.OfBatch c → InboxEffect unixepoch t m.world c r w →
    w.db = m.world.db → F m → F (m.after t c r w)
  may : ∀ m c, PollerCall.OfBatch c → c ≠ .commitTx → D.may t m c

namespace BatchFrame

variable {L : Lifetime unixepoch sem t} {D : Discipline sem}
  {F : Moment (pollerCalls χ) A (InboxWorld A) → Prop} (hF : BatchFrame L D F)
include hF

theorem stable_frame : D.Stable t (L.Within F) := by
  have h := hF.stable fun _ => True
  simpa only [true_and] using h

theorem triple_nowRfc3339 :
    D.Triple t (L.Within F) (askPoller .nowRfc3339) fun _ => L.Within F := by
  refine Lifetime.triple_ask hF.stable_frame (fun _ => hF.stable_frame)
    (fun m _ _ => hF.may m .nowRfc3339 trivial nofun) fun m r w _ hFm he => ?_
  exact hF.keep m .nowRfc3339 r w trivial he (congrArg InboxWorld.db he) hFm

/-- The transaction begins with a copy of the tables. -/
theorem triple_beginTx :
    D.Triple t (L.Within F) (txStep (askPoller .beginTx)).run fun r m =>
      onResult
        (fun _ => L.Within (fun m => TxHas (fun start copy => copy = start) (m.world.tx t) ∧ F m) m)
        (fun _ => L.Within F m) r := by
  refine triple_txStep ?_ (fun _ => hF.stable _) hF.stable_frame
  refine (Lifetime.triple_ask (c := .beginTx) (S := fun r m => onResult
    (fun _ => TxHas (fun start copy => copy = start) (m.world.tx t) ∧ F m) (fun _ => F m) r)
    hF.stable_frame (fun r => ?_) (fun m _ _ => hF.may m .beginTx trivial nofun) ?_).mono ?_
  · cases r with
    | ok a => exact hF.stable _
    | error e => exact hF.stable_frame
  · intro m r w _ hFm he
    have hdb : w.db = m.world.db := by rcases he with ⟨-, rfl⟩ | ⟨-, rfl⟩ <;> rfl
    have hFm' := hF.keep m .beginTx r w trivial he hdb hFm
    rcases he with ⟨rfl, rfl⟩ | ⟨rfl, rfl⟩
    · refine ⟨?_, hFm'⟩
      simp [TxHas]
    · exact hFm'
  · intro r m _ h
    cases r <;> exact h

/-- A statement of the transaction works on the copy. -/
theorem triple_inTx {s : InboxStatement} {P : Inbox → Inbox → Prop}
    {Q : s.Rows → Inbox → Inbox → Prop}
    (h : ∀ start copy rows, P start copy → (s.exec unixepoch copy).1 = .ok rows →
      Q rows start (s.exec unixepoch copy).2) :
    D.Triple t (L.Within fun m => TxHas P (m.world.tx t) ∧ F m)
      (txStep (askPoller (.inTx s))).run fun r m =>
        onResult
          (fun rows => L.Within (fun m => TxHas (Q rows) (m.world.tx t) ∧ F m) m)
          (fun _ => L.Within F m) r := by
  refine triple_txStep ?_ (fun _ => hF.stable _) hF.stable_frame
  refine (Lifetime.triple_ask (c := .inTx s) (S := fun r m => onResult
    (fun rows => TxHas (Q rows) (m.world.tx t) ∧ F m) (fun _ => F m) r)
    (hF.stable _) (fun r => ?_) (fun m _ _ => hF.may m (.inTx s) trivial nofun) ?_).mono ?_
  · cases r with
    | ok a => exact hF.stable _
    | error e => exact hF.stable_frame
  · rintro m r w - ⟨hP, hFm⟩ he
    have hdb : w.db = m.world.db := by
      rcases he with ⟨start, copy, -, -, rfl⟩ | ⟨-, rfl⟩ <;> rfl
    have hFm' := hF.keep m (.inTx s) r w trivial he hdb hFm
    rcases he with ⟨start, copy, htx, hr, rfl⟩ | ⟨rfl, rfl⟩
    · rw [htx] at hP
      cases r with
      | ok rows =>
        refine ⟨?_, hFm'⟩
        simpa [TxHas] using h start copy rows hP hr.symm
      | error e => exact hFm'
    · exact hFm'
  · intro r m _ h
    cases r <;> exact h

variable {lib : Primitives} {botId : String}

/-- One update is stored on top of those before it. -/
theorem triple_persistUpdate {done : List Json} {updateId : ℤ} {now : String} :
    D.Triple t
      (L.Within fun m => TxHas (fun start copy =>
        Batched lib botId start done (start.offset? botId) copy) (m.world.tx t) ∧ F m)
      (persistUpdate lib botId updateId update now).run fun r m =>
        onResult
          (fun _ => L.Within (fun m => TxHas (fun start copy =>
            Batched lib botId start done (start.offset? botId) copy ∧
              ∃ row, copy.update? botId updateId = some row ∧
                row.rawUpdateJson = lib.renderJson update) (m.world.tx t) ∧ F m) m)
          (fun _ => L.Within F m) r := by
  refine triple_tryBind (hF.triple_inTx (Q := fun existing start copy =>
    Batched lib botId start done (start.offset? botId) copy ∧
      copy.update? botId updateId = existing) ?_) (fun _ => hF.stable_frame) fun existing => ?_
  · rintro start copy existing hcopy hr
    refine ⟨hcopy, ?_⟩
    simpa [InboxStatement.exec] using hr
  · cases existing with
    | some row =>
      dsimp only
      split
      · exact triple_ret hF.stable_frame fun m _ h => h.imp And.right
      · -- the text of the row is the text of the update
        rename_i hsame
        rw [not_or, not_not] at hsame
        refine triple_ret (hF.stable _) fun m _ h => ?_
        rw [onResult_ok]
        refine h.imp fun hm => ⟨hm.1.imp ?_, hm.2⟩
        exact fun start copy hcopy => ⟨hcopy.1, row, hcopy.2, hsame.1⟩
    | none =>
      refine triple_tryBind (hF.triple_inTx (Q := fun _ start copy =>
        Batched lib botId start done (start.offset? botId) copy ∧
          ∃ row, copy.update? botId updateId = some row ∧
            row.rawUpdateJson = lib.renderJson update) ?_) (fun _ => hF.stable_frame)
        fun _ => triple_ret (hF.stable _) fun m _ h => h
      rintro start copy rows ⟨hcopy, hnone⟩ hr
      exact hcopy.insert hnone hr

/-- The updates of a list are stored one after the other, on top of those before them. -/
theorem triple_persistUpdates (updates done : List Json) {now : String}
    {persisted : List (ℤ × Json)} {offset : ℤ} (hpersisted : ToProcess done persisted) :
    D.Triple t
      (L.Within fun m => TxHas (fun start copy =>
        Batched lib botId start done (start.offset? botId) copy) (m.world.tx t) ∧ F m)
      (persistUpdates lib botId now updates persisted offset).run fun r m =>
        onResult
          (fun a => L.Within (fun m => TxHas (fun start copy =>
            Batched lib botId start (done ++ updates) (start.offset? botId) copy ∧
              ToProcess (done ++ updates) a.1 ∧ a.2 = nextOffset offset updates)
                (m.world.tx t) ∧ F m) m)
          (fun _ => L.Within F m) r := by
  -- the induction is on the updates that are left; `done` are those before them
  induction updates generalizing done persisted offset with
  | nil =>
    refine triple_ret (hF.stable _) fun m _ h => ?_
    rw [onResult_ok, List.append_nil]
    exact h.imp fun ⟨htx, hFm⟩ => ⟨htx.imp fun start copy hcopy => ⟨hcopy, hpersisted, rfl⟩, hFm⟩
  | cons update updates ih =>
    rw [List.append_cons]
    have hsnoc : ToProcess (done ++ [update]) persisted := hpersisted.snoc update
    cases hid : updateIdOf update with
    | none =>
      have hrun : persistUpdates (χ := χ) lib botId now (update :: updates) persisted offset =
          persistUpdates lib botId now updates persisted offset := by
        rw [persistUpdates, show (update.get "update_id").bind Json.asI64 = none from hid]
      rw [hrun, nextOffset_cons_none hid]
      refine (ih (done ++ [update]) hsnoc).given fun m _ h => ?_
      refine h.imp fun ⟨htx, hFm⟩ => ⟨htx.imp fun start copy hcopy => ?_, hFm⟩
      exact hcopy.snoc fun updateId h => absurd (hid.symm.trans h) nofun
    | some updateId =>
      rw [persistUpdates, show (update.get "update_id").bind Json.asI64 = some updateId from hid,
        nextOffset_cons_some hid]
      dsimp only
      by_cases hneg : updateId < 0
      · rw [if_pos hneg]
        exact triple_ret hF.stable_frame fun m _ h => h.imp And.right
      · rw [if_neg hneg]
        refine triple_tryBind hF.triple_persistUpdate (fun _ => hF.stable_frame)
          fun waits => ?_
        by_cases hover : 2 ^ 63 ≤ updateId + 1
        · rw [if_pos hover]
          exact triple_ret hF.stable_frame fun m _ h => h.imp And.right
        · rw [if_neg hover]
          have hnext : ToProcess (done ++ [update])
              (if waits then persisted ++ [(updateId, update)] else persisted) := by
            split
            · exact hsnoc.append (List.mem_append_right _ List.mem_cons_self) hid
            · exact hsnoc
          refine (ih (done ++ [update]) hnext).given fun m _ h => ?_
          refine h.imp fun ⟨htx, hFm⟩ => ⟨htx.imp fun start copy hcopy => ?_, hFm⟩
          refine hcopy.1.snoc fun id h => ?_
          obtain rfl : updateId = id := Option.some.inj (hid.symm.trans h)
          exact ⟨by omega, by omega, hcopy.2⟩

/-- The commit puts the copy in the place of the tables, if those are still the ones it was made
from. -/
theorem triple_commitTx {P : Inbox → Inbox → Prop}
    {G : Moment (pollerCalls χ) A (InboxWorld A) → Prop} (hG : D.Stable t (L.Within G))
    (hmay : ∀ m, D.inv m → L.Within (fun m => TxHas P (m.world.tx t) ∧ F m) m →
      D.may t m .commitTx)
    (hcommit : ∀ m w, D.inv m → F m →
      InboxEffect unixepoch t m.world (.commitTx : PollerCall χ) (.ok ()) w →
        P m.world.db w.db → G (m.after t (.commitTx : PollerCall χ) (.ok ()) w)) :
    D.Triple t (L.Within fun m => TxHas P (m.world.tx t) ∧ F m)
      (txStep (askPoller .commitTx)).run fun r m =>
        onResult (fun _ => L.Within G m) (fun _ => L.Within F m) r := by
  refine triple_txStep ?_ (fun _ => hG) hF.stable_frame
  refine (Lifetime.triple_ask (c := .commitTx)
    (S := fun r m => onResult (fun _ => G m) (fun _ => F m) r)
    (hF.stable _) (fun r => ?_) hmay ?_).mono ?_
  · cases r with
    | ok a => exact hG
    | error e => exact hF.stable_frame
  · rintro m r w hm ⟨hP, hFm⟩ he
    cases r with
    | ok u =>
      refine hcommit m w hm hFm he ?_
      rcases he with ⟨start, copy, htx, hdb, -, rfl⟩ | ⟨hr, -⟩
      · rw [htx] at hP
        exact hdb ▸ hP
      · cases hr
    | error e =>
      refine hF.keep m .commitTx _ w trivial he ?_ hFm
      rcases he with ⟨start, copy, -, -, hr, -⟩ | ⟨-, rfl⟩
      · cases hr
      · rfl
  · intro r m _ h
    cases r <;> exact h

variable {updates : List Json} {offset : ℤ}
  {G : List (ℤ × Json) → ℤ → Moment (pollerCalls χ) A (InboxWorld A) → Prop}
  (hG : ∀ persisted offset', D.Stable t (L.Within (G persisted offset')))
  (hmay : ∀ m, D.inv m → L.Within (fun m =>
    TxHas (AfterBatch lib botId updates offset) (m.world.tx t) ∧ F m) m → D.may t m .commitTx)
  (hcommit : ∀ m w persisted, D.inv m → F m →
    InboxEffect unixepoch t m.world (.commitTx : PollerCall χ) (.ok ()) w →
      ToProcess updates persisted → AfterBatch lib botId updates offset m.world.db w.db →
        G persisted (nextOffset offset updates) (m.after t (.commitTx : PollerCall χ) (.ok ()) w))
include hG hmay hcommit

/-- **The transaction stores the batch or does nothing.** When it commits, the tables with the batch
take the place of those it began with; when it fails, nothing has happened. -/
theorem triple_persistTransaction :
    D.Triple t (L.Within F) (persistTransaction lib botId updates offset).run fun r m =>
      onResult (fun a => L.Within (G a.1 a.2) m) (fun _ => L.Within F m) r := by
  refine triple_liftBind hF.triple_nowRfc3339 fun now => ?_
  refine triple_tryBind hF.triple_beginTx (fun _ => hF.stable_frame) fun _ => ?_
  refine triple_tryBind ((hF.triple_persistUpdates updates []
    fun p hp => absurd hp List.not_mem_nil).given fun m _ h => ?_) (fun _ => hF.stable_frame) ?_
  · refine h.imp fun ⟨htx, hFm⟩ => ⟨htx.imp fun start copy hcopy => ?_, hFm⟩
    rw [hcopy]
    exact Batched.start start
  rintro ⟨persisted, candidateOffset⟩
  rw [List.nil_append]
  refine triple_tryBind (hF.triple_inTx (Q := fun _ start copy =>
    (ToProcess updates persisted ∧ candidateOffset = nextOffset offset updates) ∧
      AfterBatch lib botId updates offset start copy) ?_) (fun _ => hF.stable_frame) fun _ => ?_
  · rintro start copy rows ⟨hcopy, hwaiting, rfl⟩ -
    exact ⟨⟨hwaiting, rfl⟩, hcopy.upsertOffset _ now⟩
  refine triple_tryBind (hF.triple_commitTx (hG persisted candidateOffset)
    (fun m hm h => ?_) fun m w hm hFm he h => ?_) (fun _ => hF.stable_frame)
    fun _ => triple_ret (hG persisted candidateOffset) fun _ _ h => h
  · exact hmay m hm (h.imp fun ⟨htx, hFm⟩ => ⟨htx.imp fun _ _ hcopy => hcopy.2, hFm⟩)
  · rw [h.1.2]
    exact hcommit m w persisted hm hFm he h.1.1 h.2

/-- The offset of the caller moves only when the batch is stored. -/
theorem triple_persistUpdateBatch :
    D.Triple t (L.Within F) (persistUpdateBatch lib botId updates offset) fun r m =>
      onResult (fun persisted => L.Within (G persisted r.2) m)
        (fun _ => r.2 = offset ∧ L.Within F m) r.1 := by
  refine triple_bind (hF.triple_persistTransaction hG hmay hcommit) fun r => ?_
  cases r with
  | ok a => exact triple_ret (hG a.1 a.2) fun _ _ h => h
  | error e =>
    exact triple_ret ((stable_const _).and hF.stable_frame)
      fun _ _ h => ⟨rfl, h⟩

end BatchFrame

end Transaction

end ImBridge
