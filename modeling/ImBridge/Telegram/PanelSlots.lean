import ImBridge.Telegram.PanelStore

/-!
# Saving the place of a panel

An account has one active panel for a bot in a chat: saving a new one retires the others of that
account. The database admits one active panel for a bot in a chat, whatever the account is, so the
panel of one account keeps out those of all others.

## Main definitions

* `PanelStore.retired`: a place after those of an account were retired
* `PanelStore.Saved`, `PanelStore.KeepsOthers`: what saving a place is for
* `PanelStore.Storable`: the places that can be saved

## Main results

* `PanelStore.exists_run_upsertSlot`, `PanelStore.mem_of_run_upsertSlot`: when a row can be put into
  the table, and the table after it
* `PanelStore.save_slot_per_account`: when saving a place does what it is for
* `PanelStore.save_slot_other_account`: two accounts that use one bot in one chat
-/

namespace ImBridge

namespace PanelStore

open Relational PanelTx

variable {slot : PanelSlot} {row r : SlotRow} {db db' : PanelDb}

theorem clash_symm (r s : SlotRow) (h : r.Clash s) : s.Clash r := by
  rcases h with h | ⟨hr, hs, hbot, hchat⟩
  · exact .inl h.symm
  · exact .inr ⟨hs, hr, hbot.symm, hchat.symm⟩

/-! ## Retiring places -/

/-- A place after the other ones of the account were retired. -/
def retired (slot : PanelSlot) : SlotRow → SlotRow :=
  Table.onRow (retires slot) fun r => { r with active := false }

@[simp] theorem retired_panelId : (retired slot r).panelId = r.panelId := by
  unfold retired Table.onRow
  split <;> rfl

@[simp] theorem retired_accountId : (retired slot r).accountId = r.accountId := by
  unfold retired Table.onRow
  split <;> rfl

@[simp] theorem retired_numericBotId : (retired slot r).numericBotId = r.numericBotId := by
  unfold retired Table.onRow
  split <;> rfl

@[simp] theorem retired_chatId : (retired slot r).chatId = r.chatId := by
  unfold retired Table.onRow
  split <;> rfl

theorem retired_active :
    (retired slot r).active = true ↔ r.active = true ∧ retires slot r = false := by
  unfold retired Table.onRow
  cases h : retires slot r <;> simp

theorem retired_of_accountId_ne (h : r.accountId ≠ slot.accountId) : retired slot r = r := by
  have hnot : retires slot r = false := by simp [retires, h]
  simp [retired, Table.onRow, hnot]

/-- Retiring places is never refused. -/
theorem exists_run_retire (slot : PanelSlot) (db : PanelDb) :
    ∃ slots, (assignSlots (retires slot) fun r => { r with active := false }).run db =
      .ok ((), { db with slots }) ∧ slots.rows = db.slots.rows.map (retired slot) := by
  have hclash : ∀ r s : SlotRow, (retired slot r).Clash (retired slot s) → r.Clash s := by
    intro r s h
    rcases h with h | ⟨hr, hs, hbot, hchat⟩
    · exact .inl (by simpa using h)
    · simp only [retired_numericBotId, retired_chatId] at hbot hchat
      exact .inr ⟨(retired_active.mp hr).1, (retired_active.mp hs).1, hbot, hchat⟩
  obtain ⟨slots, hslots⟩ := Table.exists_assign? (t := db.slots) hclash
  refine ⟨slots, ?_, Table.assign?_eq_some hslots⟩
  simp [assignSlots, StateT.run, hslots]

/-! ## Putting a row into the table -/

theorem run_upsertSlot (row : SlotRow) (db : PanelDb) :
    (upsertSlot row).run db = match db.slot? row.panelId with
      | none => (insertSlot row).run db
      | some _ => (assignSlots (·.panelId == row.panelId) fun _ => row).run db := by
  simp only [upsertSlot, StateT.run_bind, StateT.run_get]
  change StateT.run (match db.slot? row.panelId with
    | none => insertSlot row
    | some _ => assignSlots (·.panelId == row.panelId) fun _ => row) db = _
  split <;> rfl

/-- **When a row can be put into the table**: if it clashes with no row of another panel. -/
theorem exists_run_upsertSlot :
    (∃ db', (upsertSlot row).run db = .ok ((), db')) ↔
      ∀ s ∈ db.slots.rows, s.panelId ≠ row.panelId → ¬ s.Clash row := by
  rw [run_upsertSlot]
  cases hrow : db.slot? row.panelId with
  | none =>
    have hne : ∀ s ∈ db.slots.rows, s.panelId ≠ row.panelId := by
      intro s hs heq
      exact List.find?_eq_none.mp hrow s hs (by simpa using heq)
    simp only [insertSlot, StateT.run]
    cases hinsert : db.slots.insert? row with
    | none =>
      obtain ⟨s, hs, hclash⟩ := Table.insert?_eq_none hinsert
      simp only [reduceCtorEq, exists_false, false_iff]
      exact fun h => h s hs (hne s hs) hclash
    | some slots =>
      simp only [Except.ok.injEq, Prod.mk.injEq, true_and, exists_eq', true_iff]
      exact fun s hs _ => (Table.insert?_eq_some hinsert).2 s hs
  | some r =>
    have hmem := (Table.find?_eq_some_iff (pins_panelId row.panelId) db.slots).mp hrow
    have hassign := Table.exists_assign?_const (t := db.slots) (x := row) clash_symm
      (pins_panelId row.panelId) ⟨r, hmem⟩
    simp only [beq_eq_false_iff_ne] at hassign
    rw [← hassign]
    simp only [assignSlots, StateT.run]
    cases db.slots.assign? (·.panelId == row.panelId) fun _ => row with
    | none => simp
    | some slots => simp

/-- The table once a row was put into it. -/
theorem mem_of_run_upsertSlot (h : (upsertSlot row).run db = .ok ((), db')) :
    r ∈ db'.slots.rows ↔ r = row ∨ (r ∈ db.slots.rows ∧ r.panelId ≠ row.panelId) := by
  rw [run_upsertSlot] at h
  cases hrow : db.slot? row.panelId with
  | none =>
    have hne : ∀ s ∈ db.slots.rows, s.panelId ≠ row.panelId := by
      intro s hs heq
      exact List.find?_eq_none.mp hrow s hs (by simpa using heq)
    simp only [hrow, insertSlot, StateT.run] at h
    cases hinsert : db.slots.insert? row with
    | none => simp [hinsert] at h
    | some slots =>
      simp only [hinsert, Except.ok.injEq, Prod.mk.injEq, true_and] at h
      subst h
      rw [(Table.insert?_eq_some hinsert).1, List.mem_append, List.mem_singleton]
      grind
  | some first =>
    have hfirst := (Table.find?_eq_some_iff (pins_panelId row.panelId) db.slots).mp hrow
    simp only [hrow, assignSlots, StateT.run] at h
    cases hassign : db.slots.assign? (·.panelId == row.panelId) fun _ => row with
    | none => simp [hassign] at h
    | some slots =>
      simp only [hassign, Except.ok.injEq, Prod.mk.injEq, true_and] at h
      subst h
      rw [Table.assign?_eq_some hassign, List.mem_map]
      constructor
      · rintro ⟨s, hs, rfl⟩
        unfold Table.onRow
        split
        · exact .inl rfl
        · rename_i hne
          exact .inr ⟨hs, by simpa using hne⟩
      · rintro (rfl | ⟨hr, hne⟩)
        · exact ⟨first, hfirst.1, by simp [Table.onRow, hfirst.2]⟩
        · exact ⟨r, hr, by simp [Table.onRow, hne]⟩

/-! ## Saving a place -/

/-- The place is stored, and is the only active one of the account for the bot in the chat. -/
def Saved (slot : PanelSlot) (db : PanelDb) : Prop :=
  slotRow slot slot.revision.toNat ∈ db.slots.rows ∧
    ∀ r ∈ db.slots.rows, r.active = true → r.accountId = slot.accountId →
      r.numericBotId = slot.numericBotId → r.chatId = slot.chatId →
        r = slotRow slot slot.revision.toNat

/-- The places of the accounts other than this one are the same. -/
def KeepsOthers (accountId : String) (db db' : PanelDb) : Prop :=
  ∀ r : SlotRow, r.accountId ≠ accountId → (r ∈ db'.slots.rows ↔ r ∈ db.slots.rows)

/-- The revision is an integer of the database, and no other account has the panel or an active
panel for the bot in the chat. -/
def Storable (slot : PanelSlot) (db : PanelDb) : Prop :=
  slot.revision.toNat < 2 ^ 63 ∧ ∀ r ∈ db.slots.rows, r.accountId ≠ slot.accountId →
    r.panelId ≠ slot.panelId ∧
      ¬(r.active = true ∧ r.numericBotId = slot.numericBotId ∧ r.chatId = slot.chatId)

instance (slot : PanelSlot) (db : PanelDb) : Decidable (Storable slot db) :=
  inferInstanceAs (Decidable (_ ∧ ∀ r ∈ db.slots.rows, _))

/-- Saving an active place retires the other ones of the account and then puts in its row. -/
theorem run_saveSlot_eq_ok (hactive : slot.active = true) :
    (saveSlot slot).run db = .ok ((), db') ↔ slot.revision.toNat < 2 ^ 63 ∧ ∃ slots,
      slots.rows = db.slots.rows.map (retired slot) ∧
        (upsertSlot (slotRow slot slot.revision.toNat)).run { db with slots } = .ok ((), db') := by
  obtain ⟨slots, hretire, hrows⟩ := exists_run_retire slot db
  have hunique : ∀ slots', slots'.rows = db.slots.rows.map (retired slot) → slots' = slots :=
    fun slots' h => Table.ext (h.trans hrows.symm)
  simp only [saveSlot, hactive, if_true]
  rw [Transaction.run_bind_eq_ok]
  constructor
  · rintro ⟨u, db₁, hrun, h⟩
    rw [hretire] at hrun
    cases hrun
    obtain ⟨revision, hrevision, hupsert⟩ := Transaction.run_lift_bind_eq_ok.mp h
    unfold encodeRevision at hrevision
    split at hrevision
    · rename_i hlt
      cases hrevision
      exact ⟨hlt, slots, hrows, hupsert⟩
    · cases hrevision
  · rintro ⟨hlt, slots', hrows', hupsert⟩
    rw [hunique slots' hrows'] at hupsert
    refine ⟨(), _, hretire, Transaction.run_lift_bind_eq_ok.mpr ⟨slot.revision.toNat, ?_, hupsert⟩⟩
    rw [encodeRevision, if_pos hlt]

/-- **When saving a place does what it is for**: if no other account has the panel or an active one
for the bot in the chat. -/
theorem save_slot_per_account (db : PanelDb) (slot : PanelSlot) (hactive : slot.active = true) :
    (∃ db', (saveSlot slot).commit db = (.ok (), db') ∧ Saved slot db' ∧
      KeepsOthers slot.accountId db db') ↔ Storable slot db := by
  constructor
  · rintro ⟨db', hcommit, -, hothers⟩
    have hrun : (saveSlot slot).run db = .ok ((), db') := by
      have hok := Transaction.run_eq_ok_of_commit (congrArg Prod.fst hcommit)
      rwa [hcommit] at hok
    obtain ⟨hlt, slots, hrows, hupsert⟩ := (run_saveSlot_eq_ok hactive).mp hrun
    refine ⟨hlt, fun r hr haccount => ?_⟩
    have hmem := mem_of_run_upsertSlot (r := r) hupsert
    have hpanel : r.panelId ≠ slot.panelId := by
      -- the row that was put in has another account
      rcases hmem.mp ((hothers r haccount).mpr hr) with rfl | ⟨-, hne⟩
      · exact absurd rfl haccount
      · exact hne
    refine ⟨hpanel, fun ⟨hr', hbot, hchat⟩ => ?_⟩
    have hfree := exists_run_upsertSlot.mp ⟨db', hupsert⟩ r
      (by rw [hrows]; exact List.mem_map.mpr ⟨r, hr, retired_of_accountId_ne haccount⟩) hpanel
    exact hfree (.inr ⟨hr', hactive, hbot, hchat⟩)
  · rintro ⟨hlt, hfree⟩
    obtain ⟨slots, -, hrows⟩ := exists_run_retire slot db
    have hclash : ∀ s ∈ slots.rows, s.panelId ≠ slot.panelId →
        ¬ s.Clash (slotRow slot slot.revision.toNat) := by
      intro s hs hpanel hclash
      rw [hrows, List.mem_map] at hs
      obtain ⟨r, hr, rfl⟩ := hs
      rcases hclash with heq | ⟨hr', -, hbot, hchat⟩
      · exact hpanel heq
      · simp only [retired_panelId, retired_numericBotId, retired_chatId] at hpanel hbot hchat
        obtain ⟨hactive', hkept⟩ := retired_active.mp hr'
        by_cases haccount : r.accountId = slot.accountId
        · -- an active place of the account is retired
          have hretires : retires slot r = true := by
            simp [retires, haccount, hactive', hpanel]
            exact ⟨hbot, hchat⟩
          rw [hretires] at hkept
          cases hkept
        · exact (hfree r hr haccount).2 ⟨hactive', hbot, hchat⟩
    have hput : ∃ db', (upsertSlot (slotRow slot slot.revision.toNat)).run { db with slots } =
        .ok ((), db') := exists_run_upsertSlot.mpr hclash
    obtain ⟨db', hupsert⟩ := hput
    have hrun := (run_saveSlot_eq_ok hactive).mpr ⟨hlt, slots, hrows, hupsert⟩
    refine ⟨db', by rw [Transaction.commit, hrun], ⟨?_, ?_⟩, ?_⟩
    · exact (mem_of_run_upsertSlot hupsert).mpr (.inl rfl)
    · intro r hr hr' haccount hbot hchat
      rcases (mem_of_run_upsertSlot hupsert).mp hr with rfl | ⟨hmem, hpanel⟩
      · rfl
      · exact absurd (.inr ⟨hr', hactive, hbot, hchat⟩) (hclash r hmem hpanel)
    · intro r haccount
      rw [mem_of_run_upsertSlot hupsert, hrows, List.mem_map]
      constructor
      · rintro (rfl | ⟨⟨s, hs, rfl⟩, -⟩)
        · exact absurd rfl haccount
        · rw [retired_of_accountId_ne (by simpa using haccount)]
          exact hs
      · intro hr
        exact .inr ⟨⟨r, hr, retired_of_accountId_ne haccount⟩, (hfree r hr haccount).1⟩

/-- The active home panel of an account, for one bot in one chat. -/
def homeSlot (panelId accountId : String) : PanelSlot :=
  { panelId, accountId, numericBotId := 7, chatId := -100, messageId := 1, kind := .home
    revision := 0, active := true, expiresAtUnix := 600 }

/-- An older place of the account, and a place of another account in another chat. -/
def usedDb : PanelDb :=
  ((saveSlot { homeSlot "panel-2" "bob" with chatId := -200 }).commit
    ((saveSlot (homeSlot "panel-0" "alice")).commit PanelDb.empty).2).2

/-- The older place makes room for the new one, and that of the other account stays. -/
theorem save_slot_per_account_first :
    usedDb.slots.rows.map (fun r => (r.accountId, r.chatId, r.active)) =
        [("alice", -100, true), ("bob", -200, true)] ∧
      ∃ db', (saveSlot (homeSlot "panel-1" "alice")).commit usedDb = (.ok (), db') ∧
        Saved (homeSlot "panel-1" "alice") db' ∧ KeepsOthers "alice" usedDb db' :=
  ⟨by decide +kernel,
    (save_slot_per_account usedDb (homeSlot "panel-1" "alice") rfl).mpr (by decide +kernel)⟩

/-- **Two accounts that use one bot in one chat**: the second one cannot save its panel. -/
theorem save_slot_other_account :
    ((saveSlot (homeSlot "panel-2" "bob")).commit
      ((saveSlot (homeSlot "panel-1" "alice")).commit PanelDb.empty).2).1 = .error .database := by
  decide +kernel

end PanelStore

end ImBridge
