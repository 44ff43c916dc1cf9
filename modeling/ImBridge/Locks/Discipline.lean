import Mathlib.Data.List.Nodup
import ImBridge.Encoding.Separated
import ImBridge.Interleaving.Past
import ImBridge.Interleaving.RelyGuarantee
import ImBridge.Locks.LockTable

/-!
# Who may change the table of locks

While someone has the mutex of the table, the entries are theirs and nobody gets a new reference, so
the references to a lock only become fewer. What the owner of the mutex has seen of an idle lock
stays true until the mutex is given back.

## Main definitions

* `LockWorld.Inv`: what holds of the table and the references at all times
* `LockCall.May`, `LockTable.discipline`: when a caller may change the entries
* `LockWorld.Calm`, `LockTable.Owned`: what the others do to the owner of the mutex, and the
  assertions that survive it

## Main results

* `LockWorld.Inv.effect`: what is permitted keeps the invariant
* `LockWorld.calm_of_effect`: the others leave the owner of the mutex in peace
* `LockTable.triple_owned`: the rule for a call of the owner
-/

namespace ImBridge

open Interleaving

variable {e : LockEntry}

namespace LockWorld

variable {capacity : ℕ} {w w' : LockWorld} {t u : LockAgent} {key : String}

/-- The entries have different keys and different locks, and are no more than the capacity. Every
reference belongs to one who asked for a key, and is one to the lock in the entry of that key.
Everyone has one reference at most, and a lock one holder. -/
structure Inv (capacity : ℕ) (w : LockWorld) : Prop where
  keys : (w.entries.map Prod.fst).Nodup
  locks : (w.entries.map (·.2.lock)).Nodup
  bounded : w.entries.length ≤ capacity
  linked : ∀ r ∈ w.refs, ∃ key e, r.agent.2 = .hold key ∧ (key, e) ∈ w.entries ∧ e.lock = r.lock
  agents : (w.refs.map (·.agent)).Nodup
  exclusive : ∀ r ∈ w.refs, ∀ r' ∈ w.refs, r.stage = .holding → r'.stage = .holding →
    r.lock = r'.lock → r = r'

/-- There is no reference to the lock of the key outside of the table. -/
def Idle (w : LockWorld) (key : String) : Prop :=
  ∀ e, (key, e) ∈ w.entries → ∀ r ∈ w.refs, r.lock ≠ e.lock

/-- The agent has no reference. -/
def NoRef (w : LockWorld) (t : LockAgent) : Prop := ∀ r ∈ w.refs, r.agent ≠ t

/-- The key has an entry, or there is room for one. -/
def Room (capacity : ℕ) (w : LockWorld) (key : String) : Prop :=
  key ∈ w.entries.map Prod.fst ∨ w.entries.length < capacity

/-- The key has no entry, and every entry is in use: there is someone who waits for its lock, holds
it, or is just dropping it. -/
structure Full (w : LockWorld) (key : String) : Prop where
  absent : key ∉ w.entries.map Prod.fst
  inUse : ∀ e ∈ w.entries, ∃ r ∈ w.refs, r.lock = e.2.lock

/-! ## The entries -/

theorem isSome_lookup_iff :
    (w.entries.lookup key).isSome = true ↔ key ∈ w.entries.map Prod.fst := by
  rw [List.lookup_isSome_iff, List.mem_map]
  exact exists_congr fun e => and_congr_right fun _ => by rw [beq_iff_eq, eq_comm]

variable (h : w.Inv capacity)
include h

/-- A key has one entry. -/
theorem Inv.lookup_iff :
    w.entries.lookup key = some e ↔ (key, e) ∈ w.entries :=
  Encoding.lookup_eq_some_iff_mem h.keys

theorem Inv.eq_of_mem {e e' : LockEntry} (he : (key, e) ∈ w.entries) (he' : (key, e') ∈ w.entries) :
    e = e' :=
  Option.some.inj ((h.lookup_iff.mpr he).symm.trans (h.lookup_iff.mpr he'))

theorem Inv.eq_of_agent {r r' : LockRef} (hr : r ∈ w.refs) (hr' : r' ∈ w.refs)
    (heq : r.agent = r'.agent) : r = r' :=
  List.inj_on_of_nodup_map h.agents hr hr' heq

/-- The table has one reference to each of its locks. -/
theorem Inv.strongCount_eq (he : (key, e) ∈ w.entries) :
    w.strongCount e.lock = 1 + w.refs.countP (·.lock == e.lock) := by
  have hone : w.entries.countP (·.2.lock == e.lock) = (w.entries.map (·.2.lock)).count e.lock := by
    rw [List.count, List.countP_map]
    rfl
  rw [strongCount, hone, List.count_eq_one_of_mem h.locks (List.mem_map_of_mem he)]

/-- The count that is read for a key with an entry. -/
theorem Inv.count_eq {n : ℕ} (he : (key, e) ∈ w.entries)
    (hn : n = ((w.entries.lookup key).map fun e => w.strongCount e.lock).getD 0) :
    n = 1 + w.refs.countP (·.lock == e.lock) := by
  rw [hn, h.lookup_iff.mpr he, ← h.strongCount_eq he]
  rfl

/-- A lock with one reference is idle: that one is the one of the table. -/
theorem Inv.idle_of_count {n : ℕ} (hle : n ≤ 1)
    (hn : n = ((w.entries.lookup key).map fun e => w.strongCount e.lock).getD 0) : w.Idle key := by
  intro e he r hr hlock
  have hcount := h.count_eq he hn
  have hpos : 0 < w.refs.countP (·.lock == e.lock) :=
    List.countP_pos_iff.mpr ⟨r, hr, beq_iff_eq.mpr hlock⟩
  omega

/-- A lock with another number of references is in use. -/
theorem Inv.inUse_of_count {n : ℕ} (hne : n ≠ 1)
    (hn : n = ((w.entries.lookup key).map fun e => w.strongCount e.lock).getD 0)
    (he : (key, e) ∈ w.entries) : ∃ r ∈ w.refs, r.lock = e.lock := by
  have hcount := h.count_eq he hn
  have hpos : 0 < w.refs.countP (·.lock == e.lock) := by omega
  obtain ⟨r, hr, hlock⟩ := List.countP_pos_iff.mp hpos
  exact ⟨r, hr, beq_iff_eq.mp hlock⟩

end LockWorld

/-! ## Who may do what -/

/-- When a caller may make a call: the entries are changed by the owner of the mutex, an entry is
removed when it is idle, one is added when there is room, and a reference is taken by one who has
none and asked for the key. -/
def LockCall.May (capacity : ℕ) (t : LockAgent) (w : LockWorld) : LockCall → Prop
  | remove key => w.owner = some t ∧ w.Idle key
  | orInsert key _ => w.owner = some t ∧ w.Room capacity key
  | setLastUsed .. => w.owner = some t
  | cloneLock key => w.owner = some t ∧ t.2 = .hold key ∧ w.NoRef t
  | unlockEntries => w.owner = some t
  | _ => True

variable {c : LockCall}

namespace LockWorld

variable {capacity : ℕ} {w w' : LockWorld} {t u : LockAgent} {key : String}

variable (h : w.Inv capacity)
include h

theorem Inv.remove (hidle : w.Idle key) :
    Inv capacity { w with entries := w.entries.filter (·.1 != key) } where
  keys := h.keys.sublist (List.filter_sublist.map _)
  locks := h.locks.sublist (List.filter_sublist.map _)
  bounded := Nat.le_trans (List.length_filter_le _ _) h.bounded
  linked r hr := by
    obtain ⟨k, e, hk, he, hlock⟩ := h.linked r hr
    refine ⟨k, e, hk, List.mem_filter.mpr ⟨he, ?_⟩, hlock⟩
    -- the entry of a reference is not idle
    by_contra hkey
    obtain rfl : k = key := by simpa using hkey
    exact hidle e he r hr hlock.symm
  agents := h.agents
  exclusive := h.exclusive

theorem Inv.insert (habsent : key ∉ w.entries.map Prod.fst) (hroom : w.entries.length < capacity)
    {lock now : ℕ} (hfresh : ∀ e ∈ w.entries, e.2.lock ≠ lock) :
    Inv capacity { w with entries := w.entries ++ [(key, ⟨lock, now⟩)] } where
  keys := by
    rw [List.map_append, List.nodup_append]
    refine ⟨h.keys, List.nodup_singleton _, fun k hk k' hk' heq => habsent ?_⟩
    rw [List.map_singleton, List.mem_singleton] at hk'
    rwa [heq, hk'] at hk
  locks := by
    rw [List.map_append, List.nodup_append]
    refine ⟨h.locks, List.nodup_singleton _, fun l hl l' hl' heq => ?_⟩
    rw [List.map_singleton, List.mem_singleton] at hl'
    obtain ⟨e, he, rfl⟩ := List.mem_map.mp hl
    exact hfresh e he (heq.trans hl')
  bounded := by
    rw [List.length_append, List.length_singleton]
    omega
  linked r hr := by
    obtain ⟨k, e, hk, he, hlock⟩ := h.linked r hr
    exact ⟨k, e, hk, List.mem_append_left _ he, hlock⟩
  agents := h.agents
  exclusive := h.exclusive

omit h in
theorem map_setLastUsed {β : Type} (now : ℕ) (f : String × LockEntry → β)
    (hf : ∀ e : String × LockEntry, f (e.1, { e.2 with lastUsed := now }) = f e) :
    (w.setLastUsed key now).entries.map f = w.entries.map f := by
  rw [setLastUsed, List.map_map]
  refine List.map_congr_left fun e _ => ?_
  by_cases hk : e.1 = key
  · simp [hk, ← hf e]
  · simp [hk]

omit h in
/-- An entry may have another time then, and has the same lock. -/
theorem exists_mem_setLastUsed (now : ℕ) {k : String} {e : LockEntry} (he : (k, e) ∈ w.entries) :
    ∃ e', (k, e') ∈ (w.setLastUsed key now).entries ∧ e'.lock = e.lock := by
  have hmem := List.mem_map_of_mem (f := fun e : String × LockEntry => (e.1, e.2.lock)) he
  rw [← map_setLastUsed now (fun e => (e.1, e.2.lock)) fun _ => rfl] at hmem
  obtain ⟨⟨k', e'⟩, he', heq⟩ := List.mem_map.mp hmem
  obtain ⟨rfl, hlock⟩ := Prod.mk.inj heq
  exact ⟨e', he', hlock⟩

theorem Inv.setLastUsed (now : ℕ) : Inv capacity (w.setLastUsed key now) where
  keys := by
    rw [map_setLastUsed now Prod.fst fun _ => rfl]
    exact h.keys
  locks := by
    rw [map_setLastUsed now (·.2.lock) fun _ => rfl]
    exact h.locks
  bounded := by
    rw [LockWorld.setLastUsed, List.length_map]
    exact h.bounded
  linked r hr := by
    obtain ⟨k, e, hk, he, hlock⟩ := h.linked r hr
    obtain ⟨e', he', hlock'⟩ := exists_mem_setLastUsed now he
    exact ⟨k, e', hk, he', hlock'.trans hlock⟩
  agents := h.agents
  exclusive := h.exclusive

theorem Inv.clone (hkey : t.2 = .hold key) (hnone : w.NoRef t) (he : (key, e) ∈ w.entries) :
    Inv capacity { w with refs := w.refs ++ [⟨t, e.lock, .waiting⟩] } where
  keys := h.keys
  locks := h.locks
  bounded := h.bounded
  linked := List.forall_mem_append.mpr ⟨h.linked,
    List.forall_mem_singleton.mpr ⟨key, e, hkey, he, rfl⟩⟩
  agents := by
    rw [List.map_append, List.nodup_append]
    refine ⟨h.agents, List.nodup_singleton _, fun a ha a' ha' heq => ?_⟩
    obtain ⟨r, hr, rfl⟩ := List.mem_map.mp ha
    rw [List.map_singleton, List.mem_singleton] at ha'
    exact hnone r hr (heq.trans ha')
  exclusive r hr r' hr' hold hold' heq := by
    have hold₀ := h.exclusive
    grind

variable {stage : RefStage}

omit h in
theorem mem_setStage {r' : LockRef} :
    r' ∈ (w.setStage t stage).refs ↔ ∃ r ∈ w.refs,
      r' = if r.agent = t then { r with stage } else r := by
  simp only [LockWorld.setStage, List.mem_map, eq_comm]

omit h in
/-- What a reference is one to, and whose it is, does not change with its stage. -/
theorem of_mem_setStage {r' : LockRef} (h : r' ∈ (w.setStage t stage).refs) :
    ∃ r ∈ w.refs, r.agent = r'.agent ∧ r.lock = r'.lock ∧
      (r'.stage = r.stage ∨ (r.agent = t ∧ r'.stage = stage)) := by
  obtain ⟨r, hr, rfl⟩ := mem_setStage.mp h
  by_cases ht : r.agent = t
  · exact ⟨r, hr, by simp [ht], by simp [ht], .inr ⟨ht, by simp [ht]⟩⟩
  · exact ⟨r, hr, by simp [ht], by simp [ht], .inl (by simp [ht])⟩

/-- References of the same agents to the same locks, where nobody becomes a second holder. -/
theorem Inv.setStage
    (hstage : stage = .holding → ∀ r ∈ w.refs, r.agent = t → ∀ r' ∈ w.refs, r'.stage = .holding →
      r'.lock ≠ r.lock) :
    Inv capacity (w.setStage t stage) where
  keys := h.keys
  locks := h.locks
  bounded := h.bounded
  linked r hr := by
    obtain ⟨r₀, hr₀, hagent, hlock, -⟩ := of_mem_setStage hr
    obtain ⟨k, e, hk, he, hlock'⟩ := h.linked r₀ hr₀
    exact ⟨k, e, hagent ▸ hk, he, hlock'.trans hlock⟩
  agents := by
    have hsame : (w.setStage t stage).refs.map (·.agent) = w.refs.map (·.agent) := by
      rw [LockWorld.setStage, List.map_map]
      refine List.map_congr_left fun r _ => ?_
      by_cases ht : r.agent = t <;> simp [ht]
    rw [hsame]
    exact h.agents
  exclusive r hr r' hr' hold hold' heq := by
    obtain ⟨r₀, hr₀, rfl⟩ := mem_setStage.mp hr
    obtain ⟨r₁, hr₁, rfl⟩ := mem_setStage.mp hr'
    have hexclusive := h.exclusive r₀ hr₀ r₁ hr₁
    have hagent := h.eq_of_agent hr₀ hr₁
    grind

theorem Inv.dropRef :
    Inv capacity { w with refs := w.refs.filter (·.agent != t) } where
  keys := h.keys
  locks := h.locks
  bounded := h.bounded
  linked r hr := h.linked r (List.mem_filter.mp hr).1
  agents := h.agents.sublist (List.filter_sublist.map _)
  exclusive r hr r' hr' := h.exclusive r (List.mem_filter.mp hr).1 r' (List.mem_filter.mp hr').1

theorem Inv.setOwner (owner : Option LockAgent) :
    Inv capacity { w with owner } :=
  ⟨h.keys, h.locks, h.bounded, h.linked, h.agents, h.exclusive⟩

variable {r : c.Reply}

/-- **What is permitted keeps the invariant.** -/
theorem Inv.effect (hmay : c.May capacity t w) (he : c.Effect t w r w') :
    w'.Inv capacity := by
  match c, r, he with
  | .lockEntries, .granted, ⟨_, heq⟩ | .unlockEntries, _, heq =>
    rw [heq]
    exact h.setOwner _
  | .lockEntries, .cancelled, heq =>
    rw [heq]
    exact h
  | .instantNow, _, heq | .keys, _, heq | .containsKey _, _, heq | .len, _, heq
  | .strongCount _, _, heq | .lastUsed _, _, heq =>
    rw [heq.2]
    exact h
  | .remove key, _, heq =>
    rw [heq]
    exact h.remove hmay.2
  | .orInsert key now, _, heq =>
    simp only [LockCall.Effect] at heq
    split at heq
    · rw [heq]
      exact h
    · rename_i habsent
      obtain ⟨lock, hfresh, -, rfl⟩ := heq
      have habsent : key ∉ w.entries.map Prod.fst := fun hkey =>
        habsent (isSome_lookup_iff.mpr hkey)
      exact h.insert habsent (hmay.2.resolve_left habsent) hfresh
  | .setLastUsed key now, _, heq =>
    rw [heq]
    exact h.setLastUsed now
  | .cloneLock key, _, ⟨e, hlookup, heq⟩ =>
    rw [heq]
    exact h.clone hmay.2.1 hmay.2.2 (h.lookup_iff.mp hlookup)
  | .lockOwned, .granted, ⟨r, hr, hagent, hfree, heq⟩ =>
    rw [heq]
    refine h.setStage fun _ r₀ hr₀ hagent₀ => ?_
    -- the agent has this reference only
    rw [h.eq_of_agent hr₀ hr (hagent₀.trans hagent.symm)]
    exact hfree
  | .lockOwned, .cancelled, heq | .unlock, _, heq =>
    rw [heq]
    exact h.setStage nofun
  | .dropRef, _, heq =>
    rw [heq]
    exact h.dropRef

omit h

/-- What the owner of the mutex finds after steps of the others: the same entries, and references
that were there before. -/
structure Calm (t : LockAgent) (w w' : LockWorld) : Prop where
  owner : w'.owner = some t
  entries : w'.entries = w.entries
  refs : ∀ r' ∈ w'.refs, ∃ r ∈ w.refs, r.agent = r'.agent ∧ r.lock = r'.lock

theorem Calm.refl (h : w.owner = some t) : Calm t w w := ⟨h, rfl, fun r hr => ⟨r, hr, rfl, rfl⟩⟩

/-- **The others leave the owner of the mutex in peace.** -/
theorem calm_of_effect (h : w.owner = some t) (hne : u ≠ t) (hmay : c.May capacity u w)
    (he : c.Effect u w r w') : Calm t w w' := by
  cases c <;> simp only [LockCall.Effect, LockCall.May] at he hmay <;> constructor <;>
    grind [of_mem_setStage, LockWorld.setStage]

/-- Nobody gets a reference for another one. -/
theorem NoRef.effect (h : w.NoRef t) (hne : u ≠ t) (he : c.Effect u w r w') :
    w'.NoRef t := by
  unfold NoRef at *
  cases c <;> simp only [LockCall.Effect] at he <;>
    grind [of_mem_setStage, LockWorld.setLastUsed]

theorem Calm.noRef (h : Calm t w w') (hnone : w.NoRef u) : w'.NoRef u := by
  intro r' hr'
  obtain ⟨r, hr, hagent, -⟩ := h.refs r' hr'
  exact hagent ▸ hnone r hr

theorem Calm.idle (h : Calm t w w') (hidle : w.Idle key) : w'.Idle key := by
  intro e he r' hr'
  obtain ⟨r, hr, -, hlock⟩ := h.refs r' hr'
  rw [h.entries] at he
  exact hlock ▸ hidle e he r hr

end LockWorld

namespace LockTable

/-! ## The discipline -/

/-- The invariant, and who may do what. Nobody has a reference before the first call. -/
def discipline (capacity : ℕ) : Discipline lockSemantics.recorded where
  inv m := m.world.now.Inv capacity ∧ ∀ a, m.Silent a → m.world.now.NoRef a
  may t m c := c.May capacity t m.world.now
  keep t m c r w hm hmay he := by
    refine ⟨hm.1.effect hmay he.1, fun a ha => ?_⟩
    have hsilent : m.Silent a := fun e hmem => ha e (List.mem_append_left _ hmem)
    have hne : t ≠ a := ha ⟨t, c, r⟩ (List.mem_append_right _ List.mem_cons_self)
    exact (hm.2 a hsilent).effect hne he.1
  keep_drift m w hm hd := by
    obtain ⟨⟨clock, -, hnow⟩, -⟩ := hd
    simp only [Moment.drifted_world, hnow]
    exact ⟨⟨hm.1.keys, hm.1.locks, hm.1.bounded, hm.1.linked, hm.1.agents, hm.1.exclusive⟩, hm.2⟩

/-- An assertion of the one who has the mutex, which calm steps keep. -/
structure Owned (t : LockAgent) (R : Recorded LockWorld → Prop) : Prop where
  owner : ∀ w, R w → w.now.owner = some t
  calm : ∀ w w', R w → w.now.Calm t w'.now → w'.past = w.now :: w.past → R w'

section Rules

variable {capacity : ℕ} {t : LockAgent} {key : String} {R : Recorded LockWorld → Prop}

/-- What a task needs to know about the table, and what is known about it in the end. -/
abbrev Holds (capacity : ℕ) (t : LockAgent) {α : Type} (R : Recorded LockWorld → Prop)
    (task : LockTask α) (S : α → Recorded LockWorld → Prop) : Prop :=
  (discipline capacity).Triple t (fun m => R m.world) task fun a m => S a m.world

theorem Owned.stable (h : Owned t R) : (discipline capacity).Stable t fun m => R m.world := by
  intro m m' hother hm
  have howner := h.owner _ hm
  cases hother with
  | call u c r w hu hinv hmay he =>
    exact h.calm _ w hm (LockWorld.calm_of_effect howner hu hmay he.1) he.2
  | drift w hinv hd =>
    obtain ⟨⟨clock, -, hnow⟩, hpast⟩ := hd
    refine h.calm _ w hm ?_ hpast
    rw [hnow]
    exact ⟨howner, rfl, fun r hr => ⟨r, hr, rfl, rfl⟩⟩

/-- Reading keeps the assertion. -/
theorem Owned.same (h : Owned t R) {w w' : Recorded LockWorld} (hw : R w) (hsame : w'.now = w.now)
    (hpast : w'.past = w.now :: w.past) : R w' := by
  refine h.calm w w' hw ?_ hpast
  rw [hsame]
  exact .refl (h.owner w hw)

theorem Owned.imp {p : Prop} (h : Owned t R) {S : Recorded LockWorld → Prop}
    (hS : p → Owned t fun w => R w ∧ S w) : Owned t fun w => R w ∧ (p → S w) where
  owner w hw := h.owner w hw.1
  calm w w' hw hcalm hpast :=
    ⟨h.calm w w' hw.1 hcalm hpast, fun hp => ((hS hp).calm w w' ⟨hw.1, hw.2 hp⟩ hcalm hpast).2⟩

/-- **The rule for a call of the one who has the mutex.** -/
theorem triple_owned {S : c.Reply → Recorded LockWorld → Prop} (hR : Owned t R)
    (hmay : ∀ w, R w → c.May capacity t w.now) (hS : ∀ r, Owned t (S r))
    (h : ∀ w r w', w.now.Inv capacity → R w → c.Effect t w.now r w'.now → w'.past = w.now :: w.past
      → S r w') :
    Holds capacity t R (ask c) S :=
  Discipline.triple_perform hR.stable (fun _ _ hm => hmay _ hm)
    (fun m r w hinv hm he => h m.world r w hinv.1 hm he.1 he.2) fun r => (hS r).stable

/-- The one who has the mutex, and no reference. -/
def Critical (t : LockAgent) (w : Recorded LockWorld) : Prop :=
  w.now.owner = some t ∧ w.now.NoRef t

theorem owned_critical : Owned t (Critical t) :=
  ⟨fun _ h => h.1, fun _ _ h hcalm _ => ⟨hcalm.owner, hcalm.noRef h.2⟩⟩

theorem owned_idle : Owned t fun w => Critical t w ∧ w.now.Idle key :=
  ⟨fun _ h => h.1.1, fun w w' h hcalm hpast =>
    ⟨owned_critical.calm w w' h.1 hcalm hpast, hcalm.idle h.2⟩⟩

/-- Only the one who has the mutex changes the entries. -/
theorem Owned.and_entries (hR : Owned t R) (S : List (String × LockEntry) → Prop) :
    Owned t fun w => R w ∧ S w.now.entries where
  owner w h := hR.owner w h.1
  calm w w' h hcalm hpast := by
    refine ⟨hR.calm w w' h.1 hcalm hpast, ?_⟩
    rw [hcalm.entries]
    exact h.2

theorem Critical.same {w w' : Recorded LockWorld} (h : Critical t w) (heq : w'.now = w.now) :
    Critical t w' := by
  unfold Critical
  rw [heq]
  exact h

end Rules

end LockTable

end ImBridge
