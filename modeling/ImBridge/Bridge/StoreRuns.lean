import ImBridge.Bridge.Interleavings
import ImBridge.Interleaving.Hoare

/-!
# The store in a run of its own

A task that runs alone sees the tables change only by its own statements. A guarded update then has
two outcomes: the row of the operation passes the guard, is set and read back; or nothing happens
and the update is reported as a lost race.

## Main definitions

* `SoleMoment`: the moments of such a run
* `Enduring`, `Unaffected`: the assertion survives calls that change nothing, and statements too
* `OperationRow.Readable`, `World.Winnable`: the row stands for a record, and can be won

## Main results

* `Surroundings.hoare_calm`: a task that only makes such calls keeps an enduring assertion
* `Surroundings.hoare_applyUpdate`: the two outcomes of a guarded update
* `Surroundings.hoare_markCommitting`: a row is won exactly if it is there to be won
-/

namespace ImBridge

open Interleaving OperationStore

/-- The moments of a run of one task. -/
abbrev SoleMoment := Moment bridgeCalls Unit World

/-! ## Enduring assertions -/

/-- The assertion survives calm calls, whatever the replies to them. -/
def Enduring (R : SoleMoment → Prop) : Prop :=
  ∀ (m : SoleMoment) (c : Call) (r : c.Reply), c.Calm → R m → R (m.after () c r m.world)

section Enduring

variable {R R' : SoleMoment → Prop} {P : (c : Call) → c.Reply → Prop}

theorem enduring_world (P : World → Prop) : Enduring fun m => P m.world := fun _ _ _ _ h => h

theorem Enduring.and (h : Enduring R) (h' : Enduring R') : Enduring fun m => R m ∧ R' m :=
  fun m c r hc hm => ⟨h m c r hc hm.1, h' m c r hc hm.2⟩

end Enduring

/-- The assertion is one about the history: it survives calm calls and statements, whatever these do
to the tables. -/
def Unaffected (R : SoleMoment → Prop) : Prop :=
  ∀ (m : SoleMoment) (c : Call) (r : c.Reply) (w : World), (c.Calm ∨ ∃ s, c = .sql s) → R m →
    R (m.after () c r w)

variable {R : SoleMoment → Prop}

theorem Unaffected.enduring (h : Unaffected R) : Enduring R :=
  fun m c r hc hm => h m c r m.world (.inl hc) hm

theorem Unaffected.sql (h : Unaffected R) {E : Surroundings} {s : Statement} {m : SoleMoment}
    (hm : R m) : R (E.handle (.sql s) m).2 :=
  h m (.sql s) _ _ (.inr ⟨s, rfl⟩) hm

variable {c : Call}

/-- No mutation is sent by a calm call. -/
theorem Call.Calm.not_sends (h : c.Calm) (id : String) : c.mutation? ≠ some id := by
  intro hsends
  have hmutation := h.isMutation
  rw [Call.isMutation, hsends] at hmutation
  cases hmutation

namespace Surroundings

variable {E : Surroundings} {α : Type}

theorem settle_calm {w : World} (r : c.Reply) (hc : c.Calm) : (settle w c r).2 = w := by
  cases c with
  | sql s => cases s <;> first | rfl | cases hc
  | vaultPut scope kind plaintext => exact hc.elim
  | vaultGet secretId => cases r <;> rfl
  | _ => rfl

theorem handle_calm (hc : c.Calm) (m : SoleMoment) :
    (E.handle c m).2 = m.after () c (E.handle c m).1 m.world := by
  simp only [handle, settle_calm _ hc]

/-- A calm call keeps an enduring assertion. -/
theorem Enduring.handle (hR : Enduring R) (hc : c.Calm) {m : SoleMoment} (hm : R m) :
    R (E.handle c m).2 := by
  rw [handle_calm hc]
  exact hR m c _ hc hm

/-- **A task whose calls are calm keeps an enduring assertion.** -/
theorem hoare_calm {S : α → Prop} {p : BridgeTask α} (hR : Enduring R) (hp : p.Uses Call.Calm)
    (he : p.Ends S) : Hoare E.handle R p fun a m => R m ∧ S a :=
  hoare_of_uses hp he fun _ hc _ hm => Enduring.handle hR hc hm

theorem hoare_ask (hR : Enduring R) (hc : c.Calm) :
    Hoare E.handle R (ask c) fun _ m => R m :=
  hoare_perform fun _ hm => Enduring.handle hR hc hm

end Surroundings

/-! ## Guarded updates -/

/-- The row stands for a record. -/
def OperationRow.Readable (r : OperationRow) : Prop := ∃ record, r.intoRecord = .ok record

variable {r : OperationRow}

theorem OperationRow.readable_iff :
    r.Readable ↔ (∃ payload, mapPayload r.operationPayloadCiphertext r.operationPayloadNonce
      r.operationPayloadKeyVersion = .ok payload) ∧ 0 ≤ r.attemptCount ∧
        r.attemptCount < 2 ^ 32 := by
  unfold Readable intoRecord
  cases mapPayload r.operationPayloadCiphertext r.operationPayloadNonce
      r.operationPayloadKeyVersion with
  | error e =>
    constructor
    · rintro ⟨record, h⟩
      cases h
    · rintro ⟨⟨payload, h⟩, -⟩
      cases h
  | ok payload =>
    by_cases hcount : 0 ≤ r.attemptCount ∧ r.attemptCount < 2 ^ 32
    · exact ⟨fun _ => ⟨⟨payload, rfl⟩, hcount⟩, fun _ => ⟨_, if_pos hcount⟩⟩
    · constructor
      · rintro ⟨record, h⟩
        rw [show (Except.ok payload >>= _ : AppResult BridgeOperationRecord) = _
          from if_neg hcount] at h
        cases h
      · exact fun h => absurd h.2 hcount

/-- Whatever an update sets, the row reads as well as before. -/
theorem OperationUpdate.readable_set {u : OperationUpdate} {now : String} (h : r.Readable) :
    (u.set now r).Readable := by
  rw [OperationRow.readable_iff] at h ⊢
  cases u with
  | generated payload digest =>
    refine ⟨⟨some payload, ?_⟩, h.2⟩
    have hversion : payload.keyVersion.toNat < 2 ^ 32 := payload.keyVersion.toNat_lt
    simp only [OperationUpdate.set, mapPayload, dif_pos payload.nonce.property]
    rw [if_pos (by omega)]
    simp
  | _ => exact h

/-- Only a payload makes a row that did not read as a record do so. -/
theorem OperationUpdate.readable_of_set {now : String}
    (h : (OperationUpdate.committing.set now r).Readable) : r.Readable := by
  rw [OperationRow.readable_iff] at h ⊢
  exact h

/-- An update that no row passes changes nothing. -/
theorem Ledger.exec_update_of_lost {db : Ledger} {u : OperationUpdate} {id now : String}
    (h : ∀ r, db.operation? id = some r → u.guard db r = false) :
    (Statement.updateOperation u id now).exec db = (.ok (0 : ℕ), db) := by
  have hnone : ∀ r ∈ db.operations.rows, (r.id == id && u.guard db r) = false := by
    intro r hr
    by_cases hid : r.id = id
    · have hfind : db.operation? id = some r :=
        (Relational.Table.find?_eq_some_iff (pins_id id) db.operations).mpr ⟨hr, by simpa using hid⟩
      rw [h r hfind, Bool.and_false]
    · simp [hid]
  have haffected : db.operations.affected (fun r => r.id == id && u.guard db r) = 0 :=
    List.countP_eq_zero.mpr fun r hr => by simp [hnone r hr]
  have hsame : db.operations.update (fun r => r.id == id && u.guard db r) (u.change now) =
      db.operations := Relational.Table.update_of_forall_not hnone
  simp only [Statement.exec, haffected, hsame]

namespace Surroundings

variable {E : Surroundings} {id : String}

/-- The statement as it takes effect: the tables answer for themselves. -/
theorem handle_sql (s : Statement) (m : SoleMoment) : E.handle (.sql s) m =
    ((s.exec m.world.ledger).1, m.after () (.sql s) (s.exec m.world.ledger).1
      { m.world with ledger := (s.exec m.world.ledger).2 }) := rfl

/-- The rule for statements. -/
theorem hoare_sql {s : Statement} {pre : SoleMoment → Prop}
    {post : AppResult s.Rows → SoleMoment → Prop}
    (h : ∀ m, pre m → post ((s.exec m.world.ledger).1.mapError fun _ => .database)
      (E.handle (.sql s) m).2) : Hoare E.handle pre (sql s).run post :=
  h

/-- A row that is read is the one that is there. -/
theorem hoare_getOperation {row : OperationRow} (hR : Enduring R) :
    Hoare E.handle (fun m => R m ∧ m.world.ledger.operation? id = some row) (getOperation id).run
      fun result m => R m ∧ result = row.intoRecord.map some := by
  intro m hm
  have hread : Program.interpret E.handle (sql (.selectOperation id)).run m =
      (.ok (some row), m.after () (.sql (.selectOperation id)) (.ok (some row)) m.world) := by
    show ((Except.ok (m.world.ledger.operation? id) : AppResult _),
      m.after () (.sql (.selectOperation id)) (.ok (m.world.ledger.operation? id)) m.world) = _
    rw [hm.2]
  have hrest : ∀ m', Program.interpret E.handle
      (Fallible.ofExcept row.intoRecord >>= fun record => pure (some record) :
        AppTask (Option BridgeOperationRecord)).run m' = (row.intoRecord.map some, m') := by
    intro m'
    rw [Fallible.run_bind, Fallible.run_ofExcept]
    cases row.intoRecord <;> rfl
  unfold getOperation
  rw [Fallible.interpret_bind_ok _ hread, hrest]
  exact ⟨hR m (.sql (.selectOperation id)) (.ok (some row)) rfl hm.1, rfl⟩

/-- A row that was changed is read back. -/
theorem hoare_assertCas {row : OperationRow} {expectedFrom expectedTo : String} (hR : Enduring R) :
    Hoare E.handle (fun m => R m ∧ m.world.ledger.operation? id = some row)
      (assertCas 1 id expectedFrom expectedTo).run
      fun result m => R m ∧ result = row.intoRecord := by
  unfold assertCas
  rw [if_neg (by simp)]
  refine Hoare.tryBind (M := fun found m =>
    ∃ record, found = some record ∧ R m ∧ .ok record = row.intoRecord) ?_ fun found => ?_
  · refine (hoare_getOperation hR).mono fun result m h => ?_
    obtain ⟨hm, rfl⟩ := h
    cases hrecord : row.intoRecord with
    | ok record => exact ⟨record, rfl, hm, rfl⟩
    | error e => exact ⟨hm, rfl⟩
  · rintro m ⟨record, rfl, hm, hrecord⟩
    exact ⟨hm, hrecord⟩

/-- What a lost race is reported as. -/
def casConflict (id expectedFrom expectedTo : String) : AppError :=
  .conflict "BRIDGE_OPERATION_CAS_CONFLICT"
    s!"operation {id} rejected transition {expectedFrom} -> {expectedTo}"

/-- **The two outcomes of a guarded update**: the row passes the guard, and the answer is what it
now reads as; or nothing has changed, and the race is reported as lost. -/
theorem hoare_applyUpdate (u : OperationUpdate) (id expectedFrom expectedTo : String)
    (pre lost : SoleMoment → Prop) (won : OperationRow → SoleMoment → Prop) (hpre : Enduring pre)
    (hwon : ∀ row, Enduring (won row))
    (hwins : ∀ m now r, pre m → m.world.ledger.operation? id = some r →
      u.guard m.world.ledger r = true →
        won (u.set now r) (E.handle (.sql (.updateOperation u id now)) m).2)
    (hloses : ∀ (m : SoleMoment) now, pre m → (∀ r, m.world.ledger.operation? id = some r →
      u.guard m.world.ledger r = false) →
        lost (m.after () (.sql (.updateOperation u id now)) (.ok (0 : ℕ)) m.world)) :
    Hoare E.handle pre (applyUpdate u id expectedFrom expectedTo).run fun result m =>
      (∃ row, won row m ∧ result = row.intoRecord) ∨
        (lost m ∧ result = .error (casConflict id expectedFrom expectedTo)) := by
  refine Hoare.liftBind (M := fun _ => pre) (hoare_ask hpre trivial) fun now => ?_
  refine Hoare.tryBind (M := fun affected m =>
    (affected = 1 ∧ ∃ row, won row m ∧ m.world.ledger.operation? id = some row) ∨
      (affected = 0 ∧ lost m)) ?_ fun affected => ?_
  · refine hoare_sql fun m hm => ?_
    by_cases hguard : ∃ r, m.world.ledger.operation? id = some r ∧ u.guard m.world.ledger r = true
    · obtain ⟨r, hr, hg⟩ := hguard
      have hone := (Ledger.exec_update_eq_one_iff m.world.ledger u id now).mpr ⟨r, hr, hg⟩
      rw [hone]
      exact .inl ⟨rfl, u.set now r, hwins m now r hm hr hg, Ledger.operation?_update_of_guard hr hg⟩
    · have hfalse : ∀ r, m.world.ledger.operation? id = some r →
          u.guard m.world.ledger r = false := by
        intro r hr
        by_contra hg
        exact hguard ⟨r, hr, Bool.eq_true_of_not_eq_false hg⟩
      rw [handle_sql, Ledger.exec_update_of_lost hfalse]
      exact .inr ⟨rfl, hloses m now hm hfalse⟩
  · rintro m (⟨rfl, row, hrow, hread⟩ | ⟨rfl, hlost⟩)
    · obtain ⟨hm, hresult⟩ := hoare_assertCas (hwon row) m ⟨hrow, hread⟩
      exact .inl ⟨row, hm, hresult⟩
    · exact .inr ⟨hlost, rfl⟩

end Surroundings

/-! ## Winning a row -/

/-- The row of the operation can be won: it is generated, and well formed. -/
def World.Winnable (w : World) (id : String) : Prop :=
  ∃ r, w.ledger.operation? id = some r ∧ r.status = .generated ∧ r.commitState = .notStarted ∧
    r.Readable

/-- **A row is won exactly if it is there to be won.** -/
theorem Surroundings.hoare_markCommitting {E : Surroundings} (id : String) (w : World)
    (hR : Unaffected R) :
    Hoare E.handle (fun m => m.world = w ∧ R m) (OperationStore.markCommitting id).run fun r m =>
      Fallible.onResult
        (fun _ => w.Winnable id ∧ (∃ row, m.world.ledger.operation? id = some row ∧
          row.status = .committing ∧ row.commitState = .notStarted) ∧ R m)
        (fun _ => ¬ w.Winnable id ∧ ∀ row', m.world.ledger.operation? id = some row' →
          ∃ row, w.ledger.operation? id = some row ∧ row'.commitState = row.commitState) r := by
  refine (hoare_applyUpdate .committing id "generated" "committing" (fun m => m.world = w ∧ R m)
    (fun m => m.world = w ∧ ¬ w.Winnable id)
    (fun row' m => (∃ row, w.ledger.operation? id = some row ∧ row.commitState = .notStarted) ∧
      (w.Winnable id ↔ row'.Readable) ∧ (m.world.ledger.operation? id = some row' ∧
        row'.status = .committing ∧ row'.commitState = .notStarted) ∧ R m)
    ((enduring_world (· = w)).and hR.enduring) (fun row' => ?_) ?_ ?_).mono ?_
  · exact (enduring_world fun _ => _).and ((enduring_world fun _ => _).and
      ((enduring_world fun w' => w'.ledger.operation? id = some row' ∧
        row'.status = .committing ∧ row'.commitState = .notStarted).and hR.enduring))
  · rintro m now row ⟨rfl, hm⟩ hrow hg
    have hread :
        ((Statement.updateOperation .committing id now).exec m.world.ledger).2.operation? id
        = some (OperationUpdate.committing.set now row) := Ledger.operation?_update_of_guard hrow hg
    simp only [OperationUpdate.guard, Bool.and_eq_true, beq_iff_eq] at hg
    refine ⟨⟨row, hrow, hg.2⟩, ⟨?_, fun hreadable => ?_⟩, ⟨hread, rfl, hg.2⟩, hR.sql hm⟩
    · rintro ⟨row', hrow', -, -, hreadable⟩
      obtain rfl : row = row' := Option.some.inj (hrow.symm.trans hrow')
      exact OperationUpdate.readable_set hreadable
    · exact ⟨row, hrow, hg.1, hg.2, OperationUpdate.readable_of_set hreadable⟩
  · rintro m now ⟨rfl, -⟩ hlost
    refine ⟨rfl, ?_⟩
    rintro ⟨row, hrow, hstatus, hstate, -⟩
    have hguard := hlost row hrow
    simp [OperationUpdate.guard, hstatus, hstate] at hguard
  · rintro r m (⟨row', ⟨⟨row, hrow, hbefore⟩, hreadable, hrow', hm⟩, rfl⟩ | ⟨⟨rfl, hlost⟩, rfl⟩)
    · cases hrecord : row'.intoRecord with
      | ok record => exact ⟨hreadable.mpr ⟨record, hrecord⟩, ⟨row', hrow'⟩, hm⟩
      | error e =>
        -- the row was won, but does not read as a record
        refine ⟨fun hw => ?_, fun row'' hrow'' => ⟨row, hrow, ?_⟩⟩
        · obtain ⟨record, hok⟩ := hreadable.mp hw
          rw [hrecord] at hok
          cases hok
        · obtain rfl : row' = row'' := Option.some.inj (hrow'.1.symm.trans hrow'')
          rw [hrow'.2.2, hbefore]
    · exact ⟨hlost, fun row hrow => ⟨row, hrow, rfl⟩⟩

end ImBridge
