import ImBridge.Bridge.Ledger

/-!
# The inbox of Telegram updates

The table of updates that Telegram has handed over, with the state of their processing, and the
table of offsets from which the next updates are asked for. Each statement of the poller on them is
atomic; a transaction works on a copy that takes the place of the tables when it commits.

## Main definitions

* `UpdateRow`, `OffsetRow`, `Inbox`: the tables `telegram_updates` and `telegram_bot_offsets`
* `InboxStatement`, `InboxStatement.exec`: the statements and their effect

## Main results

* `Inbox.rowStep_exec`: what a statement does to the row of an update
* `Inbox.offset?_exec`, `Inbox.offset?_exec_upsertOffset`: the offset after a statement
-/

namespace ImBridge

open Relational

inductive UpdateStatus
  | received
  | processing
  | processed
  | failed
  deriving DecidableEq, Repr

structure UpdateRow where
  botId : String
  updateId : ℤ
  rawUpdateJson : Bytes
  rawUpdateSha256 : Option String
  status : UpdateStatus
  attemptCount : ℕ
  errorSummary : Option String
  receivedAt : String
  updatedAt : String
  deriving DecidableEq

/-- The primary key (`bot_id`, `update_id`). -/
def UpdateRow.Clash (r s : UpdateRow) : Prop := r.botId = s.botId ∧ r.updateId = s.updateId

instance : DecidableRel UpdateRow.Clash := fun _ _ => inferInstanceAs (Decidable (_ ∧ _))

structure OffsetRow where
  botId : String
  nextOffset : ℤ
  updatedAt : String
  deriving DecidableEq

def OffsetRow.Clash (r s : OffsetRow) : Prop := r.botId = s.botId

instance : DecidableRel OffsetRow.Clash := fun _ _ => inferInstanceAs (Decidable (_ = _))

structure Inbox where
  updates : Table UpdateRow UpdateRow.Clash
  offsets : Table OffsetRow OffsetRow.Clash
  deriving DecidableEq

/-- The row is the one of this update. -/
def UpdateRow.is (botId : String) (updateId : ℤ) (r : UpdateRow) : Bool :=
  r.botId == botId && r.updateId == updateId

namespace Inbox

def empty : Inbox := ⟨.empty, .empty⟩

/-- The row of the update. -/
def update? (db : Inbox) (botId : String) (updateId : ℤ) : Option UpdateRow :=
  db.updates.rows.find? (UpdateRow.is botId updateId)

/-- The durable offset of the bot. -/
def offset? (db : Inbox) (botId : String) : Option ℤ :=
  (db.offsets.rows.find? (·.botId == botId)).map (·.nextOffset)

end Inbox

/-! ## The statements -/

/-- The updates of rows of `telegram_updates`. -/
inductive UpdateChange
  | claim
  | process
  | fail (code : String)
  | reset
  | quarantine
  deriving DecidableEq

namespace UpdateChange

/-- The `SET` clause. -/
def set (u : UpdateChange) (now : String) (r : UpdateRow) : UpdateRow :=
  match u with
  | claim => { r with status := .processing, attemptCount := r.attemptCount + 1, updatedAt := now }
  | process => { r with status := .processed, updatedAt := now }
  | fail code => { r with status := .failed, errorSummary := some code, updatedAt := now }
  | reset => { r with status := .received, updatedAt := now }
  | quarantine => { r with status := .failed, attemptCount := 3
                           errorSummary := some "TELEGRAM_INBOX_JSON_INVALID", updatedAt := now }

/-- What the `WHERE` clause asks of a row besides its key. -/
def guard (u : UpdateChange) (r : UpdateRow) : Bool :=
  match u with
  | claim => (r.status == .received || r.status == .failed) && decide (r.attemptCount < 3)
  | process => true
  | fail _ => true
  | reset => r.status == .processing
  | quarantine => r.status == .received || r.status == .failed

@[simp] theorem set_botId (u : UpdateChange) (now : String) (r : UpdateRow) :
    (u.set now r).botId = r.botId := by
  cases u <;> rfl

@[simp] theorem set_updateId (u : UpdateChange) (now : String) (r : UpdateRow) :
    (u.set now r).updateId = r.updateId := by
  cases u <;> rfl

@[simp] theorem set_rawUpdateJson (u : UpdateChange) (now : String) (r : UpdateRow) :
    (u.set now r).rawUpdateJson = r.rawUpdateJson := by
  cases u <;> rfl

def change (u : UpdateChange) (now : String) : Table.Change UpdateRow UpdateRow.Clash where
  set := u.set now
  left r s := by simp only [UpdateRow.Clash, set_botId, set_updateId]
  right r s := by simp only [UpdateRow.Clash, set_botId, set_updateId]

end UpdateChange

inductive InboxStatement
  | selectOffset (botId : String)
  | selectUpdate (botId : String) (updateId : ℤ)
  | insertUpdate (botId : String) (updateId : ℤ) (rawJson : Bytes) (rawSha256 now : String)
  | upsertOffset (botId : String) (nextOffset : ℤ) (now : String)
  | changeUpdate (u : UpdateChange) (botId : String) (updateId : ℤ) (now : String)
  | resetProcessing (botId now : String)
  | selectPending (botId : String) (nowUnix : ℤ)
  deriving DecidableEq

namespace InboxStatement

/-- What a statement answers: the rows it selects, or how many it changed. -/
@[reducible] def Rows : InboxStatement → Type
  | selectOffset _ => Option ℤ
  | selectUpdate .. => Option UpdateRow
  | insertUpdate .. => Unit
  | upsertOffset .. => Unit
  | changeUpdate .. => ℕ
  | resetProcessing .. => ℕ
  | selectPending .. => List (ℤ × Bytes)

abbrev Reply (s : InboxStatement) := Except SqlError s.Rows

/-- The row that `persist_update_batch` inserts. -/
def newUpdate (botId : String) (updateId : ℤ) (rawJson : Bytes) (rawSha256 now : String) :
    UpdateRow :=
  { botId, updateId, rawUpdateJson := rawJson, rawUpdateSha256 := some rawSha256
    status := .received, attemptCount := 0, errorSummary := none, receivedAt := now
    updatedAt := now }

/-- `next_offset = MAX(next_offset, excluded.next_offset)`. -/
def raiseOffset (nextOffset : ℤ) (now : String) : Table.Change OffsetRow OffsetRow.Clash where
  set r := { r with nextOffset := max r.nextOffset nextOffset, updatedAt := now }
  left _ _ := Iff.rfl
  right _ _ := Iff.rfl

/-- The row waits for another attempt: none was made yet, or the pause after the last one, of two
and then of four seconds, is over. -/
def isPending (unixepoch : String → Option ℤ) (botId : String) (nowUnix : ℤ) (r : UpdateRow) :
    Bool :=
  r.botId == botId && (r.status == .received || r.status == .failed) &&
    decide (r.attemptCount < 3) && (r.attemptCount == 0 || decide
      ((unixepoch r.updatedAt).getD 0 + (if r.attemptCount ≤ 1 then 2 else 4) ≤ nowUnix))

/-- The effect of a statement that does not fail for reasons outside the tables. The database
reads times by `unixepoch`. -/
def exec (unixepoch : String → Option ℤ) : (s : InboxStatement) → Inbox → s.Reply × Inbox
  | selectOffset botId, db => (.ok (db.offset? botId), db)
  | selectUpdate botId updateId, db => (.ok (db.update? botId updateId), db)
  | insertUpdate botId updateId rawJson rawSha256 now, db =>
    match db.updates.insert? (newUpdate botId updateId rawJson rawSha256 now) with
    | some updates => (.ok (), { db with updates })
    | none => (.error .uniqueViolation, db)
  | upsertOffset botId nextOffset now, db =>
    match db.offsets.insert? ⟨botId, nextOffset, now⟩ with
    | some offsets => (.ok (), { db with offsets })
    | none =>
      (.ok (), { db with offsets := db.offsets.update (·.botId == botId)
                                      (raiseOffset nextOffset now) })
  | changeUpdate u botId updateId now, db =>
    let p := fun r => r.is botId updateId && u.guard r
    (.ok (db.updates.affected p), { db with updates := db.updates.update p (u.change now) })
  | resetProcessing botId now, db =>
    let p := fun r : UpdateRow => r.botId == botId && UpdateChange.reset.guard r
    (.ok (db.updates.affected p),
      { db with updates := db.updates.update p (UpdateChange.reset.change now) })
  | selectPending botId nowUnix, db =>
    (.ok ((((db.updates.rows.filter (isPending unixepoch botId nowUnix)).insertionSort
      fun r s => r.updateId ≤ s.updateId).take 100).map
        fun r => (r.updateId, r.rawUpdateJson)), db)

end InboxStatement

/-! ## What a statement does to one row -/

namespace Inbox

variable {unixepoch : String → Option ℤ} {db : Inbox} {botId : String} {updateId : ℤ}

theorem pins_is (botId : String) (updateId : ℤ) :
    Table.Pins UpdateRow.Clash (UpdateRow.is botId updateId) := by
  intro r s hr hs
  simp only [UpdateRow.is, Bool.and_eq_true, beq_iff_eq] at hr hs
  exact ⟨hr.1.trans hs.1.symm, hr.2.trans hs.2.symm⟩

theorem pins_botId (botId : String) : Table.Pins OffsetRow.Clash (·.botId == botId) := by
  intro r s hr hs
  simp only [beq_iff_eq] at hr hs
  exact hr.trans hs.symm

theorem update?_change (u : UpdateChange) (now : String) (p : UpdateRow → Bool) :
    ({ db with updates := db.updates.update p (u.change now) } : Inbox).update? botId updateId =
      (db.update? botId updateId).map ((u.change now).on p) := by
  refine Table.find?_update fun r => ?_
  simp only [UpdateRow.is, UpdateChange.change, UpdateChange.set_botId, UpdateChange.set_updateId]

theorem update?_insert {r : UpdateRow} {updates : Table UpdateRow UpdateRow.Clash}
    (h : db.updates.insert? r = some updates) :
    ({ db with updates } : Inbox).update? botId updateId =
      if r.is botId updateId then some r else db.update? botId updateId := by
  obtain ⟨hrows, hfree⟩ := Table.insert?_eq_some h
  unfold update?
  rw [hrows, List.find?_append]
  by_cases his : r.is botId updateId = true
  · -- the new row does not clash, so there was none
    have hnone : db.updates.rows.find? (UpdateRow.is botId updateId) = none := by
      rw [List.find?_eq_none]
      intro s hs hsis
      exact hfree s hs (pins_is botId updateId s r hsis his)
    rw [hnone, if_pos his]
    simp [his]
  · rw [if_neg his]
    simp [his]

/-- The rows after an insertion that was not refused. -/
theorem update?_exec_insertUpdate {rawJson : Bytes} {rawSha256 now : String}
    (h : ((InboxStatement.insertUpdate botId updateId rawJson rawSha256 now).exec unixepoch db).1 =
      .ok ()) (id : ℤ) :
    ((InboxStatement.insertUpdate botId updateId rawJson rawSha256 now).exec unixepoch
      db).2.update? botId id =
        if id = updateId then some (InboxStatement.newUpdate botId updateId rawJson rawSha256 now)
        else db.update? botId id := by
  simp only [InboxStatement.exec] at h ⊢
  split
  · rename_i updates hinsert
    rw [update?_insert hinsert]
    refine if_congr ?_ rfl rfl
    simp only [UpdateRow.is, InboxStatement.newUpdate, beq_self_eq_true, Bool.true_and, beq_iff_eq]
    exact eq_comm
  · rename_i hinsert
    simp [hinsert] at h

/-- What a statement can do to the row of an update. -/
inductive RowStep (s : InboxStatement) (botId : String) (updateId : ℤ) :
    Option UpdateRow → Option UpdateRow → Prop
  | keep (row : Option UpdateRow) : RowStep s botId updateId row row
  | insert (rawJson : Bytes) (rawSha256 now : String)
      (hs : s = .insertUpdate botId updateId rawJson rawSha256 now) :
      RowStep s botId updateId none
        (some (InboxStatement.newUpdate botId updateId rawJson rawSha256 now))
  | change (u : UpdateChange) (r : UpdateRow) (now : String)
      (hs : s = .changeUpdate u botId updateId now ∨
        (u = .reset ∧ s = .resetProcessing botId now)) (hguard : u.guard r = true) :
      RowStep s botId updateId (some r) (some (u.set now r))

/-- **What a statement does to the row of an update.** -/
theorem rowStep_exec (s : InboxStatement) :
    RowStep s botId updateId (db.update? botId updateId)
      ((s.exec unixepoch db).2.update? botId updateId) := by
  cases s with
  | selectOffset bot | selectUpdate bot id | selectPending bot nowUnix => exact .keep _
  | insertUpdate bot id rawJson rawSha256 now =>
    simp only [InboxStatement.exec]
    cases h : db.updates.insert? (InboxStatement.newUpdate bot id rawJson rawSha256 now) with
    | none => exact .keep _
    | some updates =>
      rw [update?_insert h]
      split
      · rename_i his
        simp only [UpdateRow.is, InboxStatement.newUpdate, Bool.and_eq_true, beq_iff_eq] at his
        obtain ⟨rfl, rfl⟩ := his
        have hnone : db.update? bot id = none := by
          refine List.find?_eq_none.mpr fun r hr hris => ?_
          exact (Table.insert?_eq_some h).2 r hr
            (pins_is bot id r _ hris (by simp [UpdateRow.is, InboxStatement.newUpdate]))
        rw [hnone]
        exact .insert rawJson rawSha256 now rfl
      · exact .keep _
  | upsertOffset bot nextOffset now =>
    simp only [InboxStatement.exec]
    split
    · exact .keep _
    · exact .keep _
  | changeUpdate u bot id now =>
    simp only [InboxStatement.exec, update?_change]
    cases hrow : db.update? botId updateId with
    | none => exact .keep _
    | some r =>
      rw [Option.map_some, Table.Change.on]
      split
      · rename_i hp
        rw [Bool.and_eq_true] at hp
        have his := List.find?_some hrow
        simp only [UpdateRow.is, Bool.and_eq_true, beq_iff_eq] at his hp
        obtain ⟨rfl, rfl⟩ := his
        obtain ⟨⟨rfl, rfl⟩, hguard⟩ := hp
        exact .change u r now (.inl rfl) hguard
      · exact .keep _
  | resetProcessing bot now =>
    simp only [InboxStatement.exec, update?_change]
    cases hrow : db.update? botId updateId with
    | none => exact .keep _
    | some r =>
      rw [Option.map_some, Table.Change.on]
      split
      · rename_i hp
        have his := List.find?_some hrow
        simp only [UpdateRow.is, Bool.and_eq_true, beq_iff_eq] at his hp
        obtain ⟨rfl, rfl⟩ := his
        obtain ⟨rfl, hguard⟩ := hp
        exact .change .reset r now (.inr ⟨rfl, rfl⟩) hguard
      · exact .keep _

variable (unixepoch) in
/-- A change of one update: its row passed the guard and was set, or nothing happened. -/
theorem exec_changeUpdate_cases (u : UpdateChange) (now : String) :
    (∃ r, db.update? botId updateId = some r ∧ u.guard r = true ∧
      ((InboxStatement.changeUpdate u botId updateId now).exec unixepoch db).1 = .ok 1 ∧
      ((InboxStatement.changeUpdate u botId updateId now).exec unixepoch db).2.update? botId
        updateId = some (u.set now r)) ∨
    (((InboxStatement.changeUpdate u botId updateId now).exec unixepoch db).1 = .ok 0 ∧
      ((InboxStatement.changeUpdate u botId updateId now).exec unixepoch db).2.update? botId
        updateId = db.update? botId updateId) := by
  have hle := Table.affected_le_one (pins_is botId updateId) db.updates
    (p := fun r => r.is botId updateId && u.guard r) fun r h => (Bool.and_eq_true_iff.mp h).1
  have hone := Table.affected_eq_one_iff (pins_is botId updateId) db.updates
    (p := fun r => r.is botId updateId && u.guard r) fun r h => (Bool.and_eq_true_iff.mp h).1
  simp only [InboxStatement.exec, update?_change, Except.ok.injEq]
  by_cases haffected : db.updates.affected (fun r => r.is botId updateId && u.guard r) = 1
  · obtain ⟨r, hr, hp⟩ := hone.mp haffected
    refine .inl ⟨r, hr, (Bool.and_eq_true_iff.mp hp).2, haffected, ?_⟩
    rw [show db.update? botId updateId = some r from hr, Option.map_some, Table.Change.on,
      if_pos hp]
    rfl
  · refine .inr ⟨Nat.lt_one_iff.mp (lt_of_le_of_ne hle haffected), ?_⟩
    cases hrow : db.update? botId updateId with
    | none => rfl
    | some r =>
      rw [Option.map_some, Table.Change.on, if_neg]
      exact fun hp => haffected (hone.mpr ⟨r, hrow, hp⟩)

theorem update?_exec_changeUpdate_of_ne (u : UpdateChange) (now : String) {id : ℤ}
    (hne : id ≠ updateId) :
    ((InboxStatement.changeUpdate u botId updateId now).exec unixepoch db).2.update? botId id =
      db.update? botId id := by
  simp only [InboxStatement.exec, update?_change]
  cases hrow : db.update? botId id with
  | none => rfl
  | some r =>
    have his := List.find?_some hrow
    simp only [UpdateRow.is, Bool.and_eq_true, beq_iff_eq] at his
    rw [Option.map_some, Table.Change.on, if_neg]
    simp [UpdateRow.is, his, hne]

variable (unixepoch) in
theorem update?_exec_resetProcessing (bot now : String) :
    ((InboxStatement.resetProcessing bot now).exec unixepoch db).2.update? botId updateId =
        db.update? botId updateId ∨
      ∃ r, db.update? botId updateId = some r ∧ r.status = .processing ∧
        ((InboxStatement.resetProcessing bot now).exec unixepoch db).2.update? botId updateId =
          some (UpdateChange.reset.set now r) := by
  simp only [InboxStatement.exec, update?_change]
  cases hrow : db.update? botId updateId with
  | none => exact .inl rfl
  | some r =>
    rw [Option.map_some, Table.Change.on]
    split
    · rename_i hp
      refine .inr ⟨r, rfl, ?_, rfl⟩
      simpa [UpdateChange.guard] using (Bool.and_eq_true_iff.mp hp).2
    · exact .inl rfl

/-! ## The offsets -/

theorem offset?_exec_upsertOffset (nextOffset : ℤ) (now : String) :
    ((InboxStatement.upsertOffset botId nextOffset now).exec unixepoch db).2.offset? botId =
      some (((db.offset? botId).map (max · nextOffset)).getD nextOffset) := by
  simp only [InboxStatement.exec]
  cases h : db.offsets.insert? ⟨botId, nextOffset, now⟩ with
  | some offsets =>
    obtain ⟨hrows, hfree⟩ := Table.insert?_eq_some h
    have hnone : db.offsets.rows.find? (·.botId == botId) = none := by
      refine List.find?_eq_none.mpr fun r hr hris => ?_
      exact hfree r hr (pins_botId botId r _ hris (by simp))
    simp [offset?, hrows, List.find?_append, hnone]
  | none =>
    -- an insertion that is refused clashes with a row of its own bot
    obtain ⟨r, hr, hclash⟩ := Table.insert?_eq_none h
    have hrow := (Table.find?_eq_some_iff (pins_botId botId) db.offsets).mpr
      ⟨hr, beq_iff_eq.mpr hclash⟩
    simp only [offset?, Table.find?_update (p := (·.botId == botId)) (q := (·.botId == botId))
      (f := InboxStatement.raiseOffset nextOffset now) fun r => rfl, hrow]
    simp only [Option.map_some, Table.Change.on, beq_iff_eq.mpr hclash, if_true, Option.getD_some]
    rfl

/-- Only an upsert for the bot changes its offset. -/
theorem offset?_exec {s : InboxStatement}
    (hs : ∀ nextOffset now, s ≠ .upsertOffset botId nextOffset now) :
    (s.exec unixepoch db).2.offset? botId = db.offset? botId := by
  cases s with
  | upsertOffset bot nextOffset now =>
    have hbot : bot ≠ botId := fun h => hs nextOffset now (by rw [h])
    simp only [InboxStatement.exec]
    cases h : db.offsets.insert? ⟨bot, nextOffset, now⟩ with
    | some offsets =>
      simp [offset?, (Table.insert?_eq_some h).1, List.find?_append, hbot]
    | none =>
      simp only [offset?, Table.find?_update (p := (·.botId == bot)) (q := (·.botId == botId))
        (f := InboxStatement.raiseOffset nextOffset now) fun r => rfl]
      cases hrow : db.offsets.rows.find? (·.botId == botId) with
      | none => rfl
      | some r =>
        have hris := List.find?_some hrow
        simp only [beq_iff_eq] at hris
        simp [Table.Change.on, hris, Ne.symm hbot]
  | insertUpdate bot id rawJson rawSha256 now =>
    simp only [InboxStatement.exec]
    split <;> rfl
  | selectOffset bot => rfl
  | selectUpdate bot id => rfl
  | changeUpdate u bot id now => rfl
  | resetProcessing bot now => rfl
  | selectPending bot nowUnix => rfl

end Inbox

end ImBridge
