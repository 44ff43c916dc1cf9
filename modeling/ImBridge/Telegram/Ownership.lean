import ImBridge.Telegram.Batches

/-!
# Who works on an update

While the groups of a batch are processed, each update of the batch is in exactly one group, and
each group is with one task. Between batches the poller has all updates to itself. So a row of the
inbox is only ever written by the task that the update is with, and what that task knows about the
row stays true.

## Main definitions

* `Idle`, `Owns`: the poller has all updates to itself; a task has an update
* `claims`: how often an update was claimed
* `LifecycleInv`, `LifecycleMay`: the invariant of the inbox, and what a task may do
* `RowLife`: what a permitted call does to the row of an update

## Main results

* `Owns.unique`: an update is with one task
* `LifecycleMay.row`: a permitted call does one of these things to a row
* `LifecycleInv.after`, `LifecycleInv.drifted`: the invariant is kept
-/

namespace ImBridge

open Interleaving

/-- The updates that tasks work on, or that wait for a task, by their groups. -/
def InboxWorld.shares {A : Type} (w : InboxWorld A) : List (List ℤ) :=
  w.running.map (fun p => p.2.map Prod.fst) ++ w.groups.map fun group => group.map Prod.fst

/-- The task is the poller, and there is no group. -/
structure Idle {A : Type} (t : A) (w : InboxWorld A) : Prop where
  poller : w.poller = some t
  groups : w.groups = []
  running : w.running = []

/-- The update is with the task: in its group, or with the poller when there is no group. -/
def Owns {A : Type} (t : A) (updateId : ℤ) (w : InboxWorld A) : Prop :=
  Idle t w ∨ ∃ group, (t, group) ∈ w.running ∧ updateId ∈ group.map Prod.fst

variable {updateId : ℤ}

theorem Owns.unique {A : Type} {t u : A} {w : InboxWorld A} (hw : w.shares.Pairwise List.Disjoint)
    (ht : Owns t updateId w) (hu : Owns u updateId w) :
    t = u := by
  rcases ht with ht | ⟨group, hmem, hid⟩
  · rcases hu with hu | ⟨group', hmem', -⟩
    · exact Option.some.inj (ht.poller.symm.trans hu.poller)
    · rw [ht.running] at hmem'
      exact absurd hmem' List.not_mem_nil
  · rcases hu with hu | ⟨group', hmem', hid'⟩
    · rw [hu.running] at hmem
      exact absurd hmem List.not_mem_nil
    · -- two groups with the update would have to be disjoint
      by_contra hne
      have hrunning := List.pairwise_map.mp (List.pairwise_append.mp hw).1
      have hsymm : Std.Symm fun a b : A × List (ℤ × Json) =>
          (a.2.map Prod.fst).Disjoint (b.2.map Prod.fst) := ⟨fun _ _ h => h.symm⟩
      exact hrunning.forall hmem hmem' (fun heq => hne (congrArg Prod.fst heq)) hid hid'

/-! ## Claims -/

section Claims

variable {χ : Signature} {A : Type}

/-- The event is a claim of the update, and was won. -/
def isClaim (botId : String) (updateId : ℤ) : Event (pollerCalls χ) A → Bool
  | ⟨_, .inbox (.changeUpdate .claim bot id _), r⟩ =>
    bot == botId && id == updateId &&
      match r with
      | .ok claimed => claimed != 0
      | .error _ => false
  | _ => false

/-- How often the update was claimed. -/
def claims (botId : String) (updateId : ℤ) (trace : List (Event (pollerCalls χ) A)) : ℕ :=
  trace.countP (isClaim botId updateId)

theorem claims_append (botId : String) (updateId : ℤ) (trace : List (Event (pollerCalls χ) A))
    (e : Event (pollerCalls χ) A) :
    claims botId updateId (trace ++ [e]) =
      claims botId updateId trace + if isClaim botId updateId e then 1 else 0 := by
  rw [claims, List.countP_append, List.countP_singleton]
  rfl

end Claims

/-! ## What tasks may do -/

section May

variable {χ : Signature} (lib : Primitives) (botId : String)

/-- The invariant of the inbox: attempts are the claims that were won, and no more than three; a row
can be read again; no two groups have an update in common, and without a poller there is none. -/
structure LifecycleInv (m : JobMoment χ) : Prop where
  counted : ∀ updateId row, m.world.db.update? botId updateId = some row →
    row.attemptCount = claims botId updateId m.trace ∧ row.attemptCount ≤ 3 ∧
      (lib.parseJson row.rawUpdateJson).isSome
  unclaimed : ∀ updateId, m.world.db.update? botId updateId = none →
    claims botId updateId m.trace = 0
  apart : m.world.shares.Pairwise List.Disjoint
  idle : m.world.poller = none → m.world.groups = [] ∧ m.world.running = []
  started : ∀ t, m.world.poller = some t → ∃ e ∈ m.trace, e.agent = t

/-- What a task may do to the row of an update that it has. -/
def UpdateChange.Allowed (u : UpdateChange) (row : Option UpdateRow) : Prop :=
  match u with
  | .claim | .process => True
  | .fail _ => ∀ r, row = some r → r.status ≠ .processed
  | .reset | .quarantine => False

/-- What a task may do: it writes only to the rows of the updates that it has. -/
def LifecycleMay (t : JobTask) (m : JobMoment χ) :
    PollerCall χ → Prop
  | .inbox s =>
    match s with
    | .changeUpdate u bot updateId _ => bot = botId ∧ Owns t updateId m.world ∧
        u.Allowed (m.world.db.update? botId updateId)
    | .resetProcessing .. => Idle t m.world
    | .insertUpdate .. => False
    | _ => True
  | .commitTx => ∀ copy, m.world.tx t = some (m.world.db, copy) →
      (∀ updateId row, m.world.db.update? botId updateId = some row →
        copy.update? botId updateId = some row) ∧
      ∀ updateId row, copy.update? botId updateId = some row →
        m.world.db.update? botId updateId = some row ∨
          (m.world.db.update? botId updateId = none ∧ row.Fresh lib)
  | .spawnGroup updates => m.world.poller = some t ∧
      ∀ share ∈ m.world.shares, List.Disjoint share (updates.map Prod.fst)
  | .removeRuntime .. => m.world.poller = some t → Idle t m.world
  | _ => True

end May

/-- **What a permitted call does to the row of an update**, and whether it is a claim of it. -/
inductive RowLife {A : Type} (lib : Primitives) (t : A) (updateId : ℤ) (w : InboxWorld A) :
    Option UpdateRow → Option UpdateRow → Bool → Prop
  | keep (row : Option UpdateRow) : RowLife lib t updateId w row row false
  | fresh (r : UpdateRow) (h : r.Fresh lib) : RowLife lib t updateId w none (some r) false
  | claim (r : UpdateRow) (now : String) (howns : Owns t updateId w)
      (hguard : UpdateChange.claim.guard r = true) :
      RowLife lib t updateId w (some r) (some (UpdateChange.claim.set now r)) true
  | process (r : UpdateRow) (now : String) (howns : Owns t updateId w) :
      RowLife lib t updateId w (some r) (some (UpdateChange.process.set now r)) false
  | fail (r : UpdateRow) (code now : String) (howns : Owns t updateId w)
      (h : r.status ≠ .processed) :
      RowLife lib t updateId w (some r) (some ((UpdateChange.fail code).set now r)) false
  | reset (r : UpdateRow) (now : String) (hidle : Idle t w) (h : r.status = .processing) :
      RowLife lib t updateId w (some r) (some (UpdateChange.reset.set now r)) false

section Row

variable {χ : Signature} {unixepoch : String → Option ℤ} {lib : Primitives} {botId : String}
  {t : JobTask} {m : JobMoment χ} {w : JobWorld} {c : PollerCall χ} {r : c.Reply}

theorem isClaim_claim (updateId : ℤ) (now : String) :
    isClaim botId updateId (⟨t, .inbox (.changeUpdate .claim botId updateId now), .ok 1⟩ :
      JobEvent χ) = true := by
  simp [isClaim]

theorem isClaim_zero (u : UpdateChange) (updateId : ℤ) (now : String) :
    isClaim botId updateId (⟨t, .inbox (.changeUpdate u botId updateId now), .ok 0⟩ :
      JobEvent χ) = false := by
  cases u <;> simp [isClaim]

theorem isClaim_of_ne {u : UpdateChange} {updateId id : ℤ} {now : String} {r : Except SqlError ℕ}
    (hne : id ≠ updateId) :
    isClaim botId updateId (⟨t, .inbox (.changeUpdate u botId id now), r⟩ :
      JobEvent χ) = false := by
  cases u <;> simp [isClaim, hne]

theorem isClaim_error (s : InboxStatement) (updateId : ℤ) :
    isClaim botId updateId (⟨t, .inbox s, .error .other⟩ :
      JobEvent χ) = false := by
  cases s with
  | changeUpdate u bot id now => cases u <;> simp [isClaim]
  | _ => rfl

theorem isClaim_of_not_inbox (hc : ∀ s, c ≠ .inbox s) (updateId : ℤ) :
    isClaim botId updateId (⟨t, c, r⟩ : JobEvent χ) = false := by
  cases c <;> first | rfl | exact absurd rfl (hc _)

/-- A statement that a task may run on the inbox. -/
theorem LifecycleMay.row_inbox {s : InboxStatement} {r : s.Reply}
    (hmay : LifecycleMay lib botId t m (.inbox s : PollerCall χ))
    (he : InboxEffect unixepoch t m.world (.inbox s : PollerCall χ) r w) (updateId : ℤ) :
    RowLife lib t updateId m.world (m.world.db.update? botId updateId)
      (w.db.update? botId updateId)
      (isClaim botId updateId (⟨t, .inbox s, r⟩ : JobEvent χ)) := by
  rcases he with ⟨rfl, rfl⟩ | ⟨rfl, rfl⟩
  · cases s with
    | insertUpdate bot id rawJson rawSha256 now => exact hmay.elim
    | selectOffset bot | selectUpdate bot id | selectPending bot nowUnix => exact .keep _
    | upsertOffset bot nextOffset now =>
      simp only [InboxStatement.exec]
      split <;> exact .keep _
    | resetProcessing bot now =>
      rcases Inbox.update?_exec_resetProcessing unixepoch bot now with
        hkeep | ⟨row, hrow, hstatus, hset⟩
      · rw [hkeep]
        exact .keep _
      · rw [hrow, hset]
        exact .reset row now hmay hstatus
    | changeUpdate u bot id now =>
      obtain ⟨rfl, howns, hallowed⟩ := hmay
      by_cases hid : updateId = id
      · subst hid
        rcases Inbox.exec_changeUpdate_cases unixepoch u now with
          ⟨row, hrow, hguard, hreply, hset⟩ | ⟨hreply, hkeep⟩
        · rw [hreply, hset, hrow]
          rw [hrow] at hallowed
          cases u with
          | claim =>
            rw [isClaim_claim]
            exact .claim row now howns hguard
          | process => exact .process row now howns
          | fail code => exact .fail row code now howns (hallowed row rfl)
          | reset | quarantine => exact hallowed.elim
        · rw [hreply, hkeep, isClaim_zero]
          exact .keep _
      · rw [Inbox.update?_exec_changeUpdate_of_ne u now hid, isClaim_of_ne (Ne.symm hid)]
        exact .keep _
  · -- a statement that fails has no effect, and is no claim
    rw [isClaim_error]
    exact .keep _

/-- **A permitted call does one of these things to the row of an update.** -/
theorem LifecycleMay.row (hmay : LifecycleMay lib botId t m c)
    (he : InboxEffect unixepoch t m.world c r w) (updateId : ℤ) :
    RowLife lib t updateId m.world (m.world.db.update? botId updateId)
      (w.db.update? botId updateId)
      (isClaim botId updateId (⟨t, c, r⟩ : JobEvent χ)) := by
  by_cases hinbox : ∃ s, c = .inbox s
  · obtain ⟨s, rfl⟩ := hinbox
    exact hmay.row_inbox he updateId
  · have hnot : ∀ s, c ≠ .inbox s := fun s hs => hinbox ⟨s, hs⟩
    rw [isClaim_of_not_inbox hnot]
    rcases he.inversion.2.2 with hdb | ⟨s, hs, -⟩ | ⟨rfl, htx⟩
    · rw [hdb]
      exact .keep _
    · exact absurd hs (hnot s)
    · -- the committed copy has the rows of the tables, and new ones that are fresh
      obtain ⟨hkept, hfresh⟩ := hmay w.db htx
      cases hrow : m.world.db.update? botId updateId with
      | some row =>
        rw [hkept updateId row hrow]
        exact .keep _
      | none =>
        cases hrow' : w.db.update? botId updateId with
        | none => exact .keep _
        | some row =>
          rcases hfresh updateId row hrow' with hold | ⟨-, hnew⟩
          · exact absurd (hrow.symm.trans hold) nofun
          · exact .fresh row hnew

/-- The text of an update can be read again, and says which chat it belongs to. -/
structure Primitives.KeepsUpdates (lib : Primitives) : Prop where
  reads : ∀ update, (lib.parseJson (lib.renderJson update)).isSome
  chat : ∀ update update', lib.renderJson update = lib.renderJson update' →
    chatIdOf update = chatIdOf update'

/-- Only new rows appear for updates that the task does not have. -/
theorem RowLife.of_not_owns {w : JobWorld} {claimed : Bool} {before after : Option UpdateRow}
    (h : RowLife lib t updateId w before after claimed) (hother : ¬ Owns t updateId w) :
    after = before ∨ ∃ row, before = none ∧ after = some row ∧ row.Fresh lib := by
  cases h with
  | keep => exact .inl rfl
  | fresh row hfresh => exact .inr ⟨row, rfl, rfl, hfresh⟩
  | claim _ _ h | process _ _ h | fail _ _ _ h => exact absurd h hother
  | reset _ _ h => exact absurd (.inl h) hother

/-- A row that is counted stays counted. -/
theorem RowLife.counted {w : JobWorld} {n : ℕ} {claimed : Bool} {before after : Option UpdateRow}
    (h : RowLife lib t updateId w before after claimed) (hlib : lib.KeepsUpdates)
    (hnone : before = none → n = 0)
    (hsome : ∀ row, before = some row → row.attemptCount = n ∧ row.attemptCount ≤ 3 ∧ (lib.parseJson
      row.rawUpdateJson).isSome) :
    (after = none → n + (if claimed then 1 else 0) = 0) ∧
      ∀ row, after = some row → row.attemptCount = n + (if claimed then 1 else 0) ∧
        row.attemptCount ≤ 3 ∧ (lib.parseJson row.rawUpdateJson).isSome := by
  cases h with
  | keep => exact ⟨hnone, hsome⟩
  | fresh r hfresh =>
    refine ⟨nofun, ?_⟩
    rintro row ⟨⟩
    obtain ⟨update, htext⟩ := hfresh.text
    rw [hfresh.attemptCount, hnone rfl, htext]
    exact ⟨rfl, Nat.zero_le _, hlib.reads update⟩
  | claim r now howns hguard =>
    refine ⟨nofun, ?_⟩
    rintro row ⟨⟩
    obtain ⟨hcount, -, hreads⟩ := hsome r rfl
    have hlt : r.attemptCount < 3 := by
      have := (Bool.and_eq_true_iff.mp hguard).2
      simpa using this
    exact ⟨congrArg (· + 1) hcount, hlt, hreads⟩
  | process r now howns | fail r code now howns hstatus | reset r now hidle hstatus =>
    refine ⟨nofun, ?_⟩
    rintro row ⟨⟩
    exact hsome r rfl

/-- The groups stay apart, and there is none without a poller. -/
theorem LifecycleMay.roster (hmay : LifecycleMay lib botId t m c)
    (he : InboxEffect unixepoch t m.world c r w) (hinv : LifecycleInv lib botId m) :
    w.shares.Pairwise List.Disjoint ∧
      (w.poller = none → w.groups = [] ∧ w.running = []) ∧
      ∀ u, w.poller = some u → m.world.poller = some u ∨ u = t := by
  have hidle := hinv.idle
  cases he.roster with
  | keep _ hpoller hgroups hrunning =>
    rw [InboxWorld.shares, hgroups, hrunning, hpoller]
    exact ⟨hinv.apart, hidle, fun u hu => .inl hu⟩
  | start id hnone hpoller hgroups hrunning =>
    rw [InboxWorld.shares, hgroups, hrunning, hpoller]
    exact ⟨hinv.apart, nofun, fun u hu => .inr (Option.some.inj hu).symm⟩
  | spawn updates hpoller hgroups hrunning =>
    obtain ⟨hself, hapart⟩ := hmay
    rw [InboxWorld.shares, hgroups, hrunning, hpoller, List.map_append, ← List.append_assoc]
    refine ⟨List.pairwise_append.mpr ⟨hinv.apart, List.pairwise_singleton _ _, ?_⟩,
      fun h => absurd (hself.symm.trans h) nofun, fun u hu => .inl hu⟩
    intro share hshare last hlast
    rw [List.mem_singleton.mp hlast]
    exact hapart share hshare
  | take updates before after hpoller hmem hgroups hrunning =>
    rw [hpoller]
    refine ⟨?_, fun h => ?_, fun u hu => .inl hu⟩
    · -- the group only moves from the groups that wait to those with a task
      refine (List.Perm.pairwise_iff (fun h => List.Disjoint.symm h) ?_).mp hinv.apart
      rw [InboxWorld.shares, InboxWorld.shares, hmem, hgroups, hrunning, List.map_append,
        List.map_cons, List.map_cons, List.map_append, List.cons_append, ← List.append_assoc,
        ← List.append_assoc]
      exact List.perm_middle
    · rw [(hidle h).1] at hmem
      exact absurd hmem (by simp)
  | finish hpoller hgroups hrunning =>
    rw [InboxWorld.shares, hgroups, hrunning, hpoller]
    refine ⟨hinv.apart.sublist ?_, fun h => ?_, fun u hu => .inl hu⟩
    · exact List.Sublist.append (List.filter_sublist.map _) (List.Sublist.refl _)
    · rw [(hidle h).2]
      exact ⟨(hidle h).1, rfl⟩
  | remove bot id hpoller hgroups hrunning =>
    rw [InboxWorld.shares, hgroups, hrunning, hpoller]
    refine ⟨hinv.apart, ?_, ?_⟩
    · split
      · rename_i hself
        exact fun _ => ⟨(hmay hself).groups, (hmay hself).running⟩
      · exact hidle
    · intro u hu
      split at hu
      · cases hu
      · exact .inl hu

theorem LifecycleInv.after (hlib : lib.KeepsUpdates) (hinv : LifecycleInv lib botId m)
    (hmay : LifecycleMay lib botId t m c) (he : InboxEffect unixepoch t m.world c r w) :
    LifecycleInv lib botId (m.after t c r w) := by
  have hcounted : ∀ updateId, _ := fun updateId => (hmay.row he updateId).counted hlib
    (hinv.unclaimed updateId) (hinv.counted updateId)
  obtain ⟨hapart, hidle, hstarted⟩ := hmay.roster he hinv
  refine ⟨fun updateId row hrow => ?_, fun updateId hrow => ?_, hapart, hidle, fun u hu => ?_⟩
  · rw [Moment.after_trace, claims_append]
    exact (hcounted updateId).2 row hrow
  · rw [Moment.after_trace, claims_append]
    exact (hcounted updateId).1 hrow
  · rcases hstarted u hu with hold | rfl
    · obtain ⟨e, hmem, hagent⟩ := hinv.started u hold
      exact ⟨e, List.mem_append_left _ hmem, hagent⟩
    · exact ⟨_, List.mem_append_right _ (List.mem_singleton.mpr rfl), rfl⟩

theorem LifecycleInv.drifted (hinv : LifecycleInv lib botId m)
    (hd : InboxDrift botId m.world w) : LifecycleInv lib botId (m.drifted w) := by
  cases hd with
  | restart =>
    exact ⟨hinv.counted, hinv.unclaimed, List.Pairwise.nil, fun _ => ⟨rfl, rfl⟩, nofun⟩
  | others db hupdates hoffset =>
    refine ⟨fun updateId row hrow => ?_, fun updateId hrow => ?_, hinv.apart, hinv.idle,
      hinv.started⟩
    · exact hinv.counted updateId row ((hupdates updateId).symm.trans hrow)
    · exact hinv.unclaimed updateId ((hupdates updateId).symm.trans hrow)

end Row

end ImBridge
