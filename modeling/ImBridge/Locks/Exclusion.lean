import ImBridge.Interleaving.Schedule
import ImBridge.Locks.Discipline

/-!
# At most one guard for each key

The table is verified against all that other callers may do. An entry is removed only when its lock
was seen with one reference, and of the locks that were seen with more, each had a reference when
the search for an idle entry began. So a caller that is refused has found no idle entry because
there was none.

## Main definitions

* `LockTable.Searching`: the state of a search for an idle entry
* `LockTable.SeenFull`: at an earlier time the key had no entry, and every entry was in use

## Main results

* `LockTable.triple_acquire`: a request that is refused has seen the table full
* `lock_table_contract`: one guard for each key, no entry in use is lost, the capacity is kept, and
  requests are refused for lack of room only
-/

namespace ImBridge

open Interleaving Discipline

variable {c : LockCall}

namespace LockTable

section Rules

variable {capacity : ℕ} {t : LockAgent} {key : String} {R : Recorded LockWorld → Prop}

/-! ## The table -/

/-- The reading of a count: one reference only means that the entry is idle. -/
theorem triple_strongCount :
    Holds capacity t (Critical t) (ask (.strongCount key))
      fun n w => Critical t w ∧ (n ≤ 1 → w.now.Idle key) := by
  refine triple_owned owned_critical (fun _ _ => trivial)
    (fun n => owned_critical.imp fun _ => owned_idle) ?_
  rintro w n w' hinv hw ⟨hn, hsame⟩ -
  refine ⟨hw.same hsame, fun hle => ?_⟩
  rw [hsame]
  exact hinv.idle_of_count hle hn

/-- The calls that only read. -/
def Reads : LockCall → Prop
  | .instantNow | .keys | .containsKey _ | .len | .strongCount _ | .lastUsed _ => True
  | _ => False

/-- A call that reads keeps an assertion of the owner. -/
theorem triple_reading (hR : Owned t R) (hc : Reads c) : Holds capacity t R (ask c) fun _ => R := by
  refine triple_owned hR (fun w _ => ?_) (fun _ => hR) fun w r w' _ hw he hpast => ?_
  · cases c <;> trivial
  · cases c <;> first | exact hR.same hw he.2 hpast | exact hc.elim

theorem triple_remove :
    Holds capacity t (fun w => Critical t w ∧ w.now.Idle key) (ask (.remove key))
      fun _ => Critical t := by
  refine triple_owned owned_idle (fun w hw => ⟨hw.1.1, hw.2⟩) (fun _ => owned_critical) ?_
  intro w _ w' _ hw he _
  unfold Critical
  rw [he]
  exact hw.1

variable (self : LockTable) (now : ℕ)

theorem triple_expire :
    Holds capacity t (Critical t) (self.expire now key) fun _ => Critical t := by
  refine triple_bind triple_strongCount fun n => ?_
  by_cases hn : 1 < n
  · rw [if_pos hn]
    exact triple_ret owned_critical.stable fun _ _ hm => hm.1
  · rw [if_neg hn]
    -- the count was one, and nobody gets a reference before the entry is removed
    have hidle : Holds capacity t (fun w => Critical t w ∧ w.now.Idle key) (ask (.lastUsed key))
        fun _ w => Critical t w ∧ w.now.Idle key :=
      triple_reading owned_idle trivial
    refine triple_bind (hidle.given fun m _ hm => ⟨hm.1, hm.2 (Nat.not_lt.mp hn)⟩)
      fun lastUsed => ?_
    split
    · exact triple_ret owned_critical.stable fun _ _ hm => hm.1
    · exact triple_remove

theorem triple_retain :
    Holds capacity t (Critical t) (self.retain now) fun _ => Critical t :=
  triple_bind (triple_reading owned_critical trivial) fun keys =>
      triple_forM owned_critical.stable (fun _ => triple_expire self now) keys

/-! ## The search for an idle entry -/

/-- The world at which the search began: the entries were the same, every reference of now was
there, and if nothing was found so far then the entries that were looked at were in use. -/
structure Began (t : LockAgent) (done : List String) (best : Option (String × ℕ))
    (w v : LockWorld) : Prop where
  owner : v.owner = some t
  entries : v.entries = w.entries
  refs : ∀ r ∈ w.refs, ∃ r' ∈ v.refs, r'.lock = r.lock
  inUse : best = none → ∀ key ∈ done, ∀ e, (key, e) ∈ v.entries → ∃ r ∈ v.refs, r.lock = e.lock

/-- In the middle of the search among all keys: what was found is an idle entry. -/
structure Searching (t : LockAgent) (key : String) (all done : List String)
    (best : Option (String × ℕ)) (w : Recorded LockWorld) : Prop where
  critical : Critical t w
  absent : key ∉ w.now.entries.map Prod.fst
  all : w.now.entries.map Prod.fst ⊆ all
  found : ∀ k n, best = some (k, n) → w.now.Idle k ∧ k ∈ w.now.entries.map Prod.fst
  began : ∃ v ∈ w.past, Began t done best w.now v

variable {all done : List String} {best : Option (String × ℕ)}

theorem owned_searching : Owned t (Searching t key all done best) where
  owner _ h := h.critical.1
  calm w w' h hcalm hpast := by
    obtain ⟨v, hv, hbegan⟩ := h.began
    refine ⟨owned_critical.calm w w' h.critical hcalm hpast, ?_, ?_, fun k n hbest => ?_, v, ?_, ?_⟩
    · rw [hcalm.entries]
      exact h.absent
    · rw [hcalm.entries]
      exact h.all
    · rw [hcalm.entries]
      exact ⟨hcalm.idle (h.found k n hbest).1, (h.found k n hbest).2⟩
    · rw [hpast]
      exact List.mem_cons_of_mem _ hv
    · refine ⟨hbegan.owner, hbegan.entries.trans hcalm.entries.symm, fun r hr => ?_, hbegan.inUse⟩
      obtain ⟨r₁, hr₁, -, hlock₁⟩ := hcalm.refs r hr
      obtain ⟨r₂, hr₂, hlock₂⟩ := hbegan.refs r₁ hr₁
      exact ⟨r₂, hr₂, hlock₂.trans hlock₁⟩

variable {w : Recorded LockWorld} (h : Searching t key all done best w)
include h

variable {k : String}

/-- An entry that is in use was in use when the search began. -/
theorem Searching.skip (hk : ∀ e, (k, e) ∈ w.now.entries → ∃ r ∈ w.now.refs, r.lock = e.lock) :
    Searching t key all (done ++ [k]) best w := by
  obtain ⟨v, hv, hbegan⟩ := h.began
  refine ⟨h.critical, h.absent, h.all, h.found, v, hv, hbegan.owner, hbegan.entries, hbegan.refs,
    ?_⟩
  intro hnone k' hk' e he
  rcases List.mem_append.mp hk' with hk' | hk'
  · exact hbegan.inUse hnone k' hk' e he
  · obtain rfl := List.mem_singleton.mp hk'
    rw [hbegan.entries] at he
    obtain ⟨r, hr, hlock⟩ := hk e he
    obtain ⟨r', hr', hlock'⟩ := hbegan.refs r hr
    exact ⟨r', hr', hlock'.trans hlock⟩

/-- Something was found, so the entries that are in use no longer matter. -/
theorem Searching.take {n : ℕ} (hk : w.now.Idle k ∧ k ∈ w.now.entries.map Prod.fst)
    (done' : List String) :
    Searching t key all done' (some (k, n)) w := by
  obtain ⟨v, hv, hbegan⟩ := h.began
  refine ⟨h.critical, h.absent, h.all, fun k' n' hbest => ?_, v, hv, hbegan.owner, hbegan.entries,
    hbegan.refs, nofun⟩
  obtain ⟨rfl, -⟩ := Prod.mk.inj (Option.some.inj hbest)
  exact hk

omit h

/-- An idle entry was found just now. -/
def Candidate (t : LockAgent) (key : String) (all done : List String)
    (best : Option (String × ℕ)) (k : String) (w : Recorded LockWorld) : Prop :=
  Searching t key all done best w ∧ w.now.Idle k ∧ k ∈ w.now.entries.map Prod.fst

theorem owned_candidate : Owned t (Candidate t key all done best k) where
  owner _ h := h.1.critical.1
  calm w w' h hcalm hpast := by
    refine ⟨owned_searching.calm w w' h.1 hcalm hpast, hcalm.idle h.2.1, ?_⟩
    rw [hcalm.entries]
    exact h.2.2

/-- What a count says about the entry. -/
def Counted (t : LockAgent) (key : String) (all done : List String) (best : Option (String × ℕ))
    (k : String) (n : ℕ) (w : Recorded LockWorld) : Prop :=
  if n = 1 then Candidate t key all done best k w else Searching t key all (done ++ [k]) best w

theorem owned_counted {n : ℕ} : Owned t (Counted t key all done best k n) := by
  unfold Counted
  by_cases hn : n = 1
  · simp only [if_pos hn]
    exact owned_candidate
  · simp only [if_neg hn]
    exact owned_searching

theorem triple_count (k : String) :
    Holds capacity t (Searching t key all done best) (ask (.strongCount k))
      (Counted t key all done best k) := by
  refine triple_owned owned_searching (fun _ _ => trivial) (fun n => owned_counted) ?_
  rintro w n w' hinv hw ⟨hn, hsame⟩ hpast
  have hw' : Searching t key all done best w' := owned_searching.same hw hsame hpast
  rw [← hsame] at hinv hn
  unfold Counted
  by_cases hone : n = 1
  · rw [if_pos hone]
    refine ⟨hw', hinv.idle_of_count (Nat.le_of_eq hone) hn, ?_⟩
    -- a key without an entry would count nothing
    rw [← LockWorld.isSome_lookup_iff]
    by_contra hnone
    rw [Option.not_isSome_iff_eq_none.mp hnone] at hn
    exact Nat.one_ne_zero (hone.symm.trans hn)
  · rw [if_neg hone]
    exact hw'.skip fun e he => hinv.inUse_of_count hone hn he

theorem triple_olderIdle (k : String) :
    Holds capacity t (Searching t key all done best) (olderIdle best k)
      (Searching t key all (done ++ [k])) := by
  refine triple_bind (triple_count k) fun n => ?_
  by_cases hn : n = 1
  · simp only [Counted, if_pos hn]
    refine triple_bind (triple_reading owned_candidate trivial)
      fun lastUsed => ?_
    cases best with
    | none => exact triple_ret owned_searching.stable fun _ _ hm => hm.1.take hm.2 _
    | some best =>
      refine triple_ret owned_searching.stable fun m _ hm => ?_
      by_cases hlt : lastUsed < best.2
      · rw [if_pos hlt]
        exact hm.1.take hm.2 _
      · rw [if_neg hlt]
        exact hm.1.take (hm.1.found _ _ rfl) _
  · simp only [Counted, if_neg hn]
    exact triple_ret owned_searching.stable fun _ _ hm => hm

/-- The owner of the mutex and the key, which has no entry. -/
def Missing (t : LockAgent) (key : String) (w : Recorded LockWorld) : Prop :=
  Critical t w ∧ key ∉ w.now.entries.map Prod.fst

theorem owned_missing : Owned t (Missing t key) :=
  owned_critical.and_entries fun entries => key ∉ entries.map Prod.fst

/-- The search begins. -/
theorem triple_keys :
    Holds capacity t (Missing t key) (ask .keys) fun all => Searching t key all [] none := by
  refine triple_owned owned_missing (fun _ _ => trivial) (fun all => owned_searching) ?_
  rintro w all w' - hw ⟨hperm, hsame⟩ hpast
  refine ⟨hw.1.same hsame, ?_, ?_, nofun, w.now, ?_, hw.1.1, ?_, ?_, ?_⟩
  · rw [hsame]
    exact hw.2
  · rw [hsame]
    exact hperm.symm.subset
  · rw [hpast]
    exact List.mem_cons_self
  · rw [hsame]
  · rw [hsame]
    exact fun r hr => ⟨r, hr, rfl⟩
  · exact fun _ k hk => absurd hk List.not_mem_nil

theorem triple_oldestIdle :
    Holds capacity t (Missing t key) oldestIdle
      fun best w => ∃ all, Searching t key all all best w := by
  refine triple_bind triple_keys fun all => ?_
  have hfold := triple_foldlM
    (J := fun done best (m : Moment lockCalls LockAgent (Recorded LockWorld)) =>
      Searching t key all done best m.world) (D := discipline capacity) (t := t)
    (fun _ _ => owned_searching.stable) (fun _ k _ => triple_olderIdle k) [] all none
  exact hfold.mono fun _ _ _ hm => ⟨all, hm⟩

/-- The table was once seen full by the agent, while it had the mutex. -/
def SeenFull (t : LockAgent) (key : String) (w : Recorded LockWorld) : Prop :=
  ∃ v ∈ w.past, v.owner = some t ∧ v.Full key

/-- **A search that finds nothing has seen the table full.** -/
theorem Searching.seenFull {w : Recorded LockWorld} (h : Searching t key all all none w) :
    SeenFull t key w := by
  obtain ⟨v, hv, hbegan⟩ := h.began
  refine ⟨v, hv, hbegan.owner, ?_, fun e he => ?_⟩
  · rw [hbegan.entries]
    exact h.absent
  · refine hbegan.inUse rfl e.1 (h.all ?_) e.2 he
    rw [← hbegan.entries]
    exact List.mem_map_of_mem he

theorem SeenFull.past {w w' : Recorded LockWorld} (h : SeenFull t key w)
    (hpast : w'.past = w.now :: w.past) : SeenFull t key w' := by
  obtain ⟨v, hv, hfull⟩ := h
  refine ⟨v, ?_, hfull⟩
  rw [hpast]
  exact List.mem_cons_of_mem _ hv

theorem stable_seenFull {u : LockAgent} :
    (discipline capacity).Stable u fun m => SeenFull t key m.world := by
  intro m m' hother hm
  cases hother with
  | call v c r w hu hinv hmay he => exact hm.past he.2
  | drift w hinv hd => exact hm.past hd.2

theorem owned_seenFull : Owned t fun w => Critical t w ∧ SeenFull t key w where
  owner _ h := h.1.1
  calm w w' h hcalm hpast := ⟨owned_critical.calm w w' h.1 hcalm hpast, h.2.past hpast⟩

/-! ## Requests -/

/-- The owner of the mutex and the key, which has an entry or finds room for one. -/
def Ready (capacity : ℕ) (t : LockAgent) (key : String) (w : Recorded LockWorld) : Prop :=
  Critical t w ∧ w.now.Room capacity key

theorem owned_ready : Owned t (Ready capacity t key) :=
  owned_critical.and_entries fun entries => key ∈ entries.map Prod.fst ∨ entries.length < capacity

/-- What the owner of the mutex knows when the key has its entry or not. -/
def Looked (capacity : ℕ) (t : LockAgent) (key : String) (found : Bool) (w : Recorded LockWorld) :
    Prop :=
  if found then Ready capacity t key w else Missing t key w

theorem triple_containsKey :
    Holds capacity t (Critical t) (ask (.containsKey key)) (Looked capacity t key) := by
  refine triple_owned owned_critical (fun _ _ => trivial) (fun found => ?_) ?_
  · cases found with
    | false => exact owned_missing
    | true => exact owned_ready
  · rintro w found w' - hw ⟨hfound, hsame⟩ -
    rw [← hsame] at hfound
    cases hf : found with
    | true => exact ⟨hw.same hsame, .inl (LockWorld.isSome_lookup_iff.mp (hfound.symm.trans hf))⟩
    | false =>
      refine ⟨hw.same hsame, fun hkey => ?_⟩
      have hsome := LockWorld.isSome_lookup_iff.mpr hkey
      rw [← hfound, hf] at hsome
      cases hsome

/-- The length that is read decides whether there is room. -/
theorem triple_len :
    Holds capacity t (Missing t key) (ask .len)
      fun n w => Missing t key w ∧ (n < capacity → w.now.Room capacity key) := by
  refine triple_owned owned_missing (fun _ _ => trivial)
    (fun n => owned_missing.imp fun hn => ?_) ?_
  · exact owned_missing.and_entries fun entries =>
      key ∈ entries.map Prod.fst ∨ entries.length < capacity
  · rintro w n w' - hw ⟨hn, hsame⟩ hpast
    refine ⟨owned_missing.same hw hsame hpast, fun hlt => .inr ?_⟩
    rw [hsame, ← hn]
    exact hlt

/-- An idle entry makes room. -/
theorem triple_evict {victim : String} :
    Holds capacity t
      (fun w => (Critical t w ∧ w.now.Idle victim) ∧ victim ∈ w.now.entries.map Prod.fst)
      (ask (.remove victim)) fun _ => Ready capacity t key := by
  refine triple_owned (owned_idle.and_entries fun entries => victim ∈ entries.map Prod.fst)
    (fun w hw => ⟨hw.1.1.1, hw.1.2⟩) (fun _ => owned_ready) fun w _ w' hinv hw he _ => ?_
  unfold Ready Critical LockWorld.Room
  rw [he]
  refine ⟨hw.1.1, .inr (Nat.lt_of_lt_of_le ?_ hinv.bounded)⟩
  -- the entry of the victim is gone
  obtain ⟨e, hmem, hkey⟩ := List.mem_map.mp hw.2
  exact List.length_filter_lt_length_iff_exists.mpr ⟨e, hmem, by simp [hkey]⟩

/-- Whether there is room: if not, the table was full. -/
def Decided (capacity : ℕ) (t : LockAgent) (key : String) (room : Bool) (w : Recorded LockWorld) :
    Prop :=
  if room then Ready capacity t key w else Critical t w ∧ SeenFull t key w

theorem triple_makeRoom :
    Holds self.capacity t (Critical t) (self.makeRoom key) (Decided self.capacity t key) := by
  refine triple_bind triple_containsKey fun found => ?_
  cases found with
  | true => exact triple_ret owned_ready.stable fun _ _ hm => hm
  | false =>
    refine triple_bind triple_len fun n => ?_
    by_cases hn : n < self.capacity
    · rw [if_pos hn]
      exact triple_ret owned_ready.stable fun _ _ hm => ⟨hm.1.1, hm.2 hn⟩
    · rw [if_neg hn]
      refine triple_bind (triple_oldestIdle.given fun _ _ hm => hm.1) fun best => ?_
      cases best with
      | none =>
        refine triple_ret owned_seenFull.stable fun m _ hm => ?_
        obtain ⟨all, hsearch⟩ := hm
        exact ⟨hsearch.critical, hsearch.seenFull⟩
      | some best =>
        refine triple_bind (triple_evict.given fun m _ hm => ?_)
          fun _ => triple_ret owned_ready.stable fun _ _ hm => hm
        obtain ⟨all, hsearch⟩ := hm
        obtain ⟨hidle, hmem⟩ := hsearch.found best.1 best.2 rfl
        exact ⟨⟨hsearch.critical, hidle⟩, hmem⟩

/-- The owner of the mutex. -/
theorem owned_owner : Owned t fun w => w.now.owner = some t :=
  ⟨fun _ h => h, fun _ _ _ hcalm _ => hcalm.owner⟩

/-- The owner of the mutex, with no reference, and the key, which has an entry. -/
def Present (t : LockAgent) (key : String) (w : Recorded LockWorld) : Prop :=
  Critical t w ∧ key ∈ w.now.entries.map Prod.fst

theorem owned_present : Owned t (Present t key) :=
  owned_critical.and_entries fun entries => key ∈ entries.map Prod.fst

theorem triple_orInsert :
    Holds capacity t (Ready capacity t key) (ask (.orInsert key now)) fun _ => Present t key := by
  refine triple_owned owned_ready (fun w hw => ⟨hw.1.1, hw.2⟩) (fun _ => owned_present) ?_
  intro w _ w' _ hw he hpast
  simp only [LockCall.Effect] at he
  split at he
  · rename_i hfound
    exact owned_present.same ⟨hw.1, LockWorld.isSome_lookup_iff.mp hfound⟩ he hpast
  · obtain ⟨lock, -, -, hnow⟩ := he
    unfold Present Critical
    rw [hnow]
    exact ⟨hw.1, List.mem_map.mpr ⟨_, List.mem_append_right _ List.mem_cons_self, rfl⟩⟩

theorem triple_setLastUsed :
    Holds capacity t (Present t key) (ask (.setLastUsed key now)) fun _ => Present t key := by
  refine triple_owned owned_present (fun w hw => hw.1.1) (fun _ => owned_present) ?_
  intro w _ w' _ hw he _
  unfold Present Critical
  rw [he, LockWorld.map_setLastUsed now Prod.fst fun _ => rfl]
  exact hw

theorem triple_cloneLock (ht : t.2 = .hold key) :
    Holds capacity t (Present t key) (ask (.cloneLock key)) fun _ w => w.now.owner = some t := by
  refine triple_owned owned_present (fun w hw => ⟨hw.1.1, ht, hw.1.2⟩) (fun _ => owned_owner) ?_
  rintro w _ w' - hw ⟨e, -, hnow⟩ -
  rw [hnow]
  exact hw.1.1

theorem triple_claim (ht : t.2 = .hold key) (now : ℕ) :
    Holds capacity t (Ready capacity t key) (claim key now) fun _ w => w.now.owner = some t :=
  triple_bind (triple_orInsert now) fun _ =>
    triple_bind (triple_setLastUsed now) fun _ => triple_cloneLock ht

/-- The mutex is given back. -/
theorem triple_unlockEntries {S : Recorded LockWorld → Prop} (hR : Owned t R)
    (hS : (discipline capacity).Stable t fun m => S m.world)
    (h : ∀ w w' : Recorded LockWorld, R w → w'.past = w.now :: w.past → S w') :
    Holds capacity t R (ask .unlockEntries) fun _ => S :=
  triple_perform hR.stable (fun _ _ hm => hR.owner _ hm)
    (fun m _ w _ hm he => h m.world w hm he.2) fun _ => hS

/-- A call that is always permitted. -/
theorem triple_free (hmay : ∀ w, c.May capacity t w) :
    Holds capacity t (fun _ => True) (ask c) fun _ _ => True :=
  triple_perform stable_true (fun _ _ _ => hmay _)
    (fun _ _ _ _ _ _ => trivial) fun _ => stable_true

theorem triple_lockOwned :
    Holds capacity t (fun _ => True) lockOwned fun result _ => result ≠ .atCapacity := by
  refine triple_bind (triple_free fun _ => trivial) fun outcome => ?_
  cases outcome with
  | granted => exact triple_ret (stable_const _) fun _ _ _ => nofun
  | cancelled =>
    exact triple_bind (triple_free fun _ => trivial) fun _ =>
      triple_ret (stable_const _) fun _ _ _ => nofun

/-- A refusal has a reason: there is no capacity at all, or the table was seen full. -/
def Excused (capacity : ℕ) (t : LockAgent) (key : String) (result : AcquireEnd)
    (w : Recorded LockWorld) : Prop :=
  result = .atCapacity → capacity = 0 ∨ SeenFull t key w

theorem stable_excused {result : AcquireEnd} :
    (discipline capacity).Stable t fun m => Excused capacity t key result m.world :=
  fun m m' hother hm hresult =>
    (hm hresult).imp id fun hseen => stable_seenFull m m' hother hseen

theorem triple_acquireLocked (ht : t.2 = .hold key) :
    Holds self.capacity t (Critical t) (self.acquireLocked key) (Excused self.capacity t key) := by
  refine triple_bind (triple_reading owned_critical trivial) fun now => ?_
  refine triple_bind (triple_retain self now) fun _ => ?_
  refine triple_bind (triple_makeRoom self) fun room => ?_
  cases room with
  | true =>
    refine triple_bind (triple_claim ht now) fun _ => ?_
    refine triple_bind (triple_unlockEntries (S := fun _ => True) owned_owner
      stable_true fun _ _ _ _ => trivial) fun _ => ?_
    exact triple_lockOwned.mono fun _ _ _ hne hresult => absurd hresult hne
  | false =>
    refine triple_bind (triple_unlockEntries (S := SeenFull t key) owned_seenFull
      stable_seenFull fun _ _ hw hpast => hw.2.past hpast) fun _ => ?_
    exact triple_ret stable_excused fun _ _ hm _ => .inr hm

/-- The first call: the mutex is granted, or the caller is dropped. -/
theorem triple_lockEntries :
    (discipline capacity).Triple t (fun m => m.Silent t) (ask .lockEntries)
      fun outcome m => outcome = .granted → Critical t m.world := by
  refine triple_perform stable_silent (fun _ _ _ => trivial) ?_ fun outcome => ?_
  · rintro m outcome w hinv hm he rfl
    obtain ⟨⟨-, hnow⟩, -⟩ := he
    show w.now.owner = some t ∧ w.now.NoRef t
    rw [hnow]
    exact ⟨rfl, hinv.2 t hm⟩
  · exact fun m m' hother hm hgranted => owned_critical.stable m m' hother (hm hgranted)

/-- **A request that is refused has seen the table full.** -/
theorem triple_acquire (ht : t.2 = .hold key) :
    (discipline self.capacity).Triple t (fun m => m.Silent t) (self.acquire key)
      fun result m => Excused self.capacity t key result m.world := by
  unfold LockTable.acquire
  by_cases hzero : self.capacity = 0
  · rw [if_pos hzero]
    exact triple_ret stable_excused fun _ _ _ _ => .inl hzero
  · rw [if_neg hzero]
    refine triple_bind triple_lockEntries fun outcome => ?_
    cases outcome with
    | granted =>
      exact (triple_acquireLocked self ht).given fun _ _ hm => hm rfl
    | cancelled => exact triple_ret stable_excused fun _ _ _ => nofun

theorem triple_hold (ht : t.2 = .hold key) :
    (discipline self.capacity).Triple t (fun m => m.Silent t) (self.hold key)
      fun result m => Excused self.capacity t key result m.world := by
  refine triple_bind (triple_acquire self ht) fun result => ?_
  cases result with
  | guard =>
    have hdrop : Holds self.capacity t (fun _ => True) dropGuard fun _ _ => True :=
      triple_bind (triple_free fun _ => trivial) fun _ => triple_free fun _ => trivial
    exact triple_bind (hdrop.given fun _ _ _ => trivial) fun _ =>
      triple_ret stable_excused fun _ _ _ => nofun
  | atCapacity | cancelled => exact triple_ret stable_excused fun _ _ hm => hm

/-- What is done with the mutex and leaves it with its owner. -/
theorem triple_withEntries {α : Type} {task : LockTask α}
    (h : Holds capacity t (Critical t) task fun _ => Critical t) :
    (discipline capacity).Triple t (fun m => m.Silent t) (withEntries task)
      fun _ _ => True := by
  refine triple_bind triple_lockEntries fun outcome => ?_
  cases outcome with
  | granted =>
    refine triple_bind (h.given fun _ _ hm => hm rfl) fun a => ?_
    exact triple_bind (triple_unlockEntries (S := fun _ => True) owned_critical
      stable_true fun _ _ _ _ => trivial) fun _ =>
        triple_ret stable_true fun _ _ _ => trivial
  | cancelled => exact triple_ret stable_true fun _ _ _ => trivial

theorem triple_prune :
    (discipline capacity).Triple t (fun m => m.Silent t) self.prune fun _ _ => True := by
  refine triple_withEntries ?_
  refine triple_bind (triple_reading owned_critical trivial) fun now => ?_
  refine triple_bind (triple_reading owned_critical trivial) fun before => ?_
  refine triple_bind (triple_retain self now) fun _ => ?_
  exact triple_bind (triple_reading owned_critical trivial) fun after =>
      triple_ret owned_critical.stable fun _ _ hm => hm

theorem triple_countActive (keys : List String) :
    Holds capacity t (Critical t) (countActive keys) fun _ => Critical t := by
  refine triple_foldlM (J := fun _ _ m => Critical t m.world)
    (fun _ _ => owned_critical.stable) (fun _ key n => ?_) [] keys 0
  exact triple_bind (triple_reading owned_critical trivial) fun count =>
      triple_ret owned_critical.stable fun _ _ hm => hm

/-- What a caller knows when its call has returned. -/
def lockPost (capacity : ℕ) : (j : LockJob) → ℕ → j.Out →
    Moment lockCalls LockAgent (Recorded LockWorld) → Prop
  | .hold key, i, result, m => Excused capacity (i, .hold key) key result m.world
  | _, _, _, _ => True

theorem triple_body (j : LockJob) (i : ℕ) :
    (discipline self.capacity).Triple (i, j) (fun m => m.Silent (i, j)) (self.body j)
      (lockPost self.capacity j i) := by
  cases j with
  | hold key => exact triple_hold self rfl
  | prune => exact triple_prune self
  | len | contains key =>
    exact triple_withEntries (triple_reading owned_critical trivial)
  | activeCount =>
    exact triple_withEntries (triple_bind
      (triple_reading owned_critical trivial) triple_countActive)

end Rules

end LockTable

/-! ## The contract -/

section Contract

open LockTable

variable {self : LockTable} {clock : ℕ} {P Q : LockPool}

theorem inv_empty (capacity clock : ℕ) : (discipline capacity).inv ⟨⟨.empty clock, []⟩, []⟩ :=
  ⟨⟨.nil, .nil, Nat.zero_le _, nofun, .nil, nofun⟩, fun _ _ => nofun⟩

/-- Every run of the table is recorded by a verified one. -/
theorem exists_verified (h : Pool.Reachable lockSemantics self.body (.empty clock) P) :
    ∃ R : Pool lockCalls (Recorded LockWorld) LockJob.Out, R.current = P ∧
      Pool.OnTheWay lockSemantics self.body (.empty clock) P R.moment.world.past ∧
      (discipline self.capacity).Verified (lockPost self.capacity) R := by
  obtain ⟨R, hR, hcurrent, hway⟩ := h.exists_recorded
  exact ⟨R, hcurrent, hway, sound (triple_body self) (inv_empty _ _) hR⟩

variable {capacity : ℕ}

/-- Two guards for one key are one guard. -/
theorem LockWorld.Inv.eq_of_holding {w : LockWorld} (h : w.Inv capacity) {key : String}
    {r r' : LockRef} (hr : r ∈ w.refs) (hr' : r' ∈ w.refs) (hstage : r.stage = .holding)
    (hstage' : r'.stage = .holding) (hkey : r.agent.2 = .hold key) (hkey' : r'.agent.2 = .hold key)
    : r = r' := by
  obtain ⟨k, e, hk, he, hlock⟩ := h.linked r hr
  obtain ⟨k', e', hk', he', hlock'⟩ := h.linked r' hr'
  obtain rfl := LockJob.hold.inj (hk.symm.trans hkey)
  obtain rfl := LockJob.hold.inj (hk'.symm.trans hkey')
  -- both are references to the lock in the one entry of the key
  obtain rfl := h.eq_of_mem he he'
  exact h.exclusive r hr r' hr' hstage hstage' (hlock.symm.trans hlock')

/-- The guards for a key. -/
def LockWorld.guards (w : LockWorld) (key : String) : List LockRef :=
  w.refs.filter fun r => r.stage = .holding ∧ r.agent.2 = .hold key

theorem LockWorld.Inv.length_guards {w : LockWorld} (h : w.Inv capacity) (key : String) :
    (w.guards key).length ≤ 1 := by
  have hnodup : (w.guards key).Nodup := h.agents.of_map.sublist List.filter_sublist
  have hmem : ∀ r ∈ w.guards key, r ∈ w.refs ∧ r.stage = .holding ∧ r.agent.2 = .hold key := by
    intro r hr
    simpa [LockWorld.guards] using hr
  match hguards : w.guards key with
  | [] => exact Nat.zero_le _
  | [_] => exact Nat.le_refl _
  | r :: r' :: rest =>
    exfalso
    rw [hguards] at hnodup hmem
    obtain ⟨hr, hstage, hkey⟩ := hmem r (by simp)
    obtain ⟨hr', hstage', hkey'⟩ := hmem r' (by simp)
    rw [List.nodup_cons] at hnodup
    rw [h.eq_of_holding hr hr' hstage hstage' hkey hkey'] at hnodup
    exact hnodup.1 List.mem_cons_self

/-- An entry that is in use stays, with its lock. -/
theorem exists_entry_of_used {w w' : LockWorld} {t : LockAgent} (hmay : c.May capacity t w)
    {r : c.Reply} (he : c.Effect t w r w') {key : String} {e : LockEntry}
    (hkey : (key, e) ∈ w.entries) (hused : ∃ r ∈ w.refs, r.lock = e.lock) :
    ∃ e', (key, e') ∈ w'.entries ∧ e'.lock = e.lock := by
  cases c with
  | setLastUsed k now =>
    rw [he]
    exact LockWorld.exists_mem_setLastUsed now hkey
  | _ =>
    simp only [LockCall.Effect, LockCall.May, LockWorld.Idle] at he hmay
    grind [LockWorld.setStage]

/-- The same for a step of the table. -/
theorem exists_lookup_of_step (h : Pool.Reachable lockSemantics self.body (.empty clock) P)
    (hs : Pool.Step lockSemantics self.body P Q) {key : String} {e : LockEntry}
    (hkey : P.moment.world.entries.lookup key = some e)
    (hused : ∃ r ∈ P.moment.world.refs, r.lock = e.lock) :
    ∃ e', Q.moment.world.entries.lookup key = some e' ∧ e'.lock = e.lock := by
  obtain ⟨R, rfl, -, hverified⟩ := exists_verified h
  cases hs with
  | spawn m ts j | crash m ts i j c k hi => exact ⟨e, hkey, rfl⟩
  | drift m ts w hd =>
    obtain ⟨now, -, rfl⟩ := hd
    exact ⟨e, hkey, rfl⟩
  | exec m ts i j c k r w hi he =>
    have hinv := hverified.inv.1
    have hmay := (hverified.safe i j _ hi _ .refl hverified.inv).1
    obtain ⟨e', he', hlock⟩ := exists_entry_of_used hmay he (hinv.lookup_iff.mp hkey) hused
    exact ⟨e', (hinv.effect hmay he).lookup_iff.mpr he', hlock⟩

/-- **The contract of the table**, in every run and at every time: there is at most one guard for
each key, an entry that is in use is kept with its lock by every step, the capacity is kept, and a
request is refused only if there is no capacity at all or if, while it had the mutex, the key had no
entry and every entry was in use. -/
theorem lock_table_contract (h : Pool.Reachable lockSemantics self.body (.empty clock) P) :
    (∀ key, (P.moment.world.guards key).length ≤ 1) ∧
    (∀ Q, Pool.Step lockSemantics self.body P Q → ∀ key e,
      P.moment.world.entries.lookup key = some e → (∃ r ∈ P.moment.world.refs, r.lock = e.lock) →
        ∃ e', Q.moment.world.entries.lookup key = some e' ∧ e'.lock = e.lock) ∧
    P.moment.world.entries.length ≤ self.capacity ∧
    ∀ i key, P.Returned i (.hold key) .atCapacity → self.capacity = 0 ∨
      ∃ Q, Pool.Reachable lockSemantics self.body (.empty clock) Q ∧
        Relation.ReflTransGen (Pool.Step lockSemantics self.body) Q P ∧
        Q.moment.world.owner = some (i, .hold key) ∧ Q.moment.world.Full key := by
  refine ⟨?_, fun Q hs key e => exists_lookup_of_step h hs, ?_, fun i key hreturned => ?_⟩
  all_goals obtain ⟨R, rfl, hway, hverified⟩ := exists_verified h
  · exact hverified.inv.1.length_guards
  · exact hverified.inv.1.bounded
  · have hreturned : R.Returned i (.hold key) .atCapacity := hreturned
    have hexcused : Excused self.capacity (i, .hold key) key .atCapacity R.moment.world :=
      hverified.returned hreturned
    refine (hexcused rfl).imp id ?_
    -- the world that was seen is the one of a pool on the way
    rintro ⟨v, hv, howner, hfull⟩
    obtain ⟨Q, hQ, hsteps, rfl⟩ := hway v hv
    exact ⟨Q, hQ, hsteps, howner, hfull⟩

/-! ## A full table -/

/-- The effect of a call, with the given address for a new lock; waits end when they can. -/
def LockCall.act (address : ℕ) (t : LockAgent) (w : LockWorld) :
    (c : LockCall) → Option (c.Reply × LockWorld)
  | lockEntries => if w.owner = none then some (.granted, { w with owner := some t }) else none
  | unlockEntries => some ((), { w with owner := none })
  | instantNow => some (w.clock, w)
  | keys => some (w.entries.map Prod.fst, w)
  | containsKey key => some ((w.entries.lookup key).isSome, w)
  | len => some (w.entries.length, w)
  | strongCount key =>
      some (((w.entries.lookup key).map fun e => w.strongCount e.lock).getD 0, w)
  | lastUsed key => some (((w.entries.lookup key).map (·.lastUsed)).getD 0, w)
  | remove key => some ((), { w with entries := w.entries.filter (·.1 != key) })
  | orInsert key now =>
      if (w.entries.lookup key).isSome then some ((), w)
      else if (∀ e ∈ w.entries, e.2.lock ≠ address) ∧ ∀ r ∈ w.refs, r.lock ≠ address then
        some ((), { w with entries := w.entries ++ [(key, ⟨address, now⟩)] })
      else none
  | setLastUsed key now => some ((), w.setLastUsed key now)
  | cloneLock key => (w.entries.lookup key).map fun e =>
      ((), { w with refs := w.refs ++ [⟨t, e.lock, .waiting⟩] })
  | lockOwned =>
      match w.refs.find? (·.agent == t) with
      | some r =>
        if ∀ r' ∈ w.refs, r'.stage = .holding → r'.lock ≠ r.lock then
          some (.granted, w.setStage t .holding)
        else none
      | none => none
  | unlock => some ((), w.setStage t .leaving)
  | dropRef => some ((), { w with refs := w.refs.filter (·.agent != t) })

theorem LockCall.effect_of_act {address : ℕ} {t : LockAgent} {w w' : LockWorld} {r : c.Reply}
    (h : c.act address t w = some (r, w')) : c.Effect t w r w' := by
  match c with
  | .lockEntries =>
    simp only [act] at h
    split at h
    · rename_i hfree
      cases h
      exact ⟨hfree, rfl⟩
    · cases h
  | .unlockEntries | .remove _ | .setLastUsed .. | .unlock | .dropRef =>
    cases h
    rfl
  | .instantNow | .containsKey _ | .len | .strongCount _ | .lastUsed _ =>
    cases h
    exact ⟨rfl, rfl⟩
  | .keys =>
    cases h
    exact ⟨.refl _, rfl⟩
  | .orInsert key now =>
    simp only [act] at h
    simp only [Effect]
    split at h
    · rename_i hfound
      cases h
      rw [if_pos hfound]
    · rename_i hmissing
      rw [if_neg hmissing]
      split at h
      · rename_i hfresh
        cases h
        exact ⟨address, hfresh.1, hfresh.2, rfl⟩
      · cases h
  | .cloneLock key =>
    obtain ⟨e, hlookup, heq⟩ := Option.map_eq_some_iff.mp h
    cases heq
    exact ⟨e, hlookup, rfl⟩
  | .lockOwned =>
    simp only [act] at h
    split at h
    · rename_i ref hfind
      split at h
      · rename_i hfree
        cases h
        have hagent : (ref.agent == t) = true :=
          List.find?_some (p := fun r : LockRef => r.agent == t) hfind
        exact ⟨ref, List.mem_of_find?_eq_some hfind, eq_of_beq hagent, hfree, rfl⟩
      · cases h
    · cases h

/-- One caller gets its lock, and then another one asks for a second. -/
def twoRequests : List (Move LockJob ℕ) :=
  [.spawn (.hold "a"), .spawn (.hold "b")] ++ List.replicate 10 (.exec 0 0) ++
    List.replicate 9 (.exec 1 0)

/-- A table for one lock refuses the second while the first is held. -/
theorem lock_table_contract_full :
    ∃ P : LockPool, Pool.Reachable lockSemantics (LockTable.mk 1 60).body (.empty 0) P ∧
      P.Returned 1 (.hold "b") .atCapacity ∧ (P.moment.world.guards "a").length = 1 ∧
      ∃ Q, Pool.Reachable lockSemantics (LockTable.mk 1 60).body (.empty 0) Q ∧
        Q.moment.world.Full "b" := by
  have hrun : ((Pool.start (.empty 0)).follow
      (fun address t m (c : LockCall) => c.act address t m.world) (LockTable.mk 1 60).body
      twoRequests).map (fun P => (P.returned? 1 (.hold "b"), (P.moment.world.guards "a").length)) =
        some (some .atCapacity, 1) := by
    decide +kernel
  obtain ⟨P, hP, hresult⟩ := Option.map_eq_some_iff.mp hrun
  obtain ⟨hreturned, hguards⟩ := Prod.mk.inj hresult
  have hreachable : Pool.Reachable lockSemantics (LockTable.mk 1 60).body (.empty 0) P :=
    Pool.steps_of_follow (fun _ _ _ _ _ _ hact => LockCall.effect_of_act hact) hP
  have hreturned := Pool.returned_of_returned? hreturned
  obtain ⟨Q, hQ, -, -, hfull⟩ :=
    ((lock_table_contract hreachable).2.2.2 1 "b" hreturned).resolve_left Nat.one_ne_zero
  exact ⟨P, hreachable, hreturned, hguards, Q, hQ, hfull⟩

end Contract

end ImBridge
