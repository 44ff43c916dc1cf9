import Mathlib.Data.List.Pairwise
import Mathlib.Tactic.Push
import Mathlib.Tactic.Tauto

/-!
# Tables with uniqueness constraints

A table is a list of rows of which no two clash, where the clash relation states the uniqueness
constraints: two rows with one primary key clash, and so do two rows with one value of any other
unique key. An insertion that would break a constraint is refused, and so is an update; an update
that only sets columns that no constraint is about never is.

## Main definitions

* `Table R clash`: the tables
* `Table.insert?`, `Table.update`, `Table.assign?`, `Table.delete`: the statements that change a
  table
* `Table.affected`: how many rows an update changes
* `Table.Pins clash q`: at most one row of a table satisfies `q`

## Main results

* `Table.find?_eq_some_iff`: the row a unique key selects
* `Table.find?_update`, `Table.find?_insert?`, `Table.find?_delete`: selection by a unique key after
  a change
* `Table.affected_eq_one_iff`: an update guarded by a unique key changes one row or none
* `Table.exists_assign?_const`: when a row can be put in the place of another
-/

namespace Relational

/-- A list of rows of which no two clash. -/
@[ext] structure Table (R : Type) (clash : R → R → Prop) where
  rows : List R
  apart : rows.Pairwise fun r s => ¬ clash r s

namespace Table

variable {R : Type} {clash : R → R → Prop}

instance [DecidableEq R] : DecidableEq (Table R clash) := fun _ _ =>
  decidable_of_iff _ Table.ext_iff.symm

def empty : Table R clash := ⟨[], List.Pairwise.nil⟩

/-- The table with one more row, unless that row clashes with one that is there. -/
def insert? [DecidableRel clash] (t : Table R clash) (r : R) : Option (Table R clash) :=
  if h : ∀ s ∈ t.rows, ¬ clash s r then
    some ⟨t.rows ++ [r], List.pairwise_append.mpr
      ⟨t.apart, List.pairwise_singleton _ _, fun s hs r' hr' => by
        rw [List.mem_singleton.mp hr']; exact h s hs⟩⟩
  else none

/-- Setting columns that the constraints are not about. -/
structure Change (R : Type) (clash : R → R → Prop) where
  set : R → R
  left : ∀ r s, clash (set r) s ↔ clash r s
  right : ∀ r s, clash s (set r) ↔ clash s r

/-- What an update makes of a row. -/
def Change.on (f : Change R clash) (p : R → Bool) (r : R) : R := if p r then f.set r else r

theorem Change.on_clash (f : Change R clash) (p : R → Bool) (r s : R) :
    clash (f.on p r) (f.on p s) ↔ clash r s := by
  unfold on
  split <;> split <;> simp [f.left, f.right]

/-- The table with the change made to the rows that satisfy `p`. -/
def update (t : Table R clash) (p : R → Bool) (f : Change R clash) : Table R clash where
  rows := t.rows.map (f.on p)
  apart := List.pairwise_map.mpr (t.apart.imp fun h => by rwa [f.on_clash])

/-- What an update that sets any columns makes of a row. -/
def onRow (p : R → Bool) (f : R → R) (r : R) : R := if p r then f r else r

/-- The table with `f` applied to the rows that satisfy `p`, unless rows would clash then. -/
def assign? [DecidableRel clash] (t : Table R clash) (p : R → Bool) (f : R → R) :
    Option (Table R clash) :=
  if h : (t.rows.map (onRow p f)).Pairwise fun r s => ¬ clash r s then some ⟨_, h⟩ else none

/-- The number of rows an update changes. -/
def affected (t : Table R clash) (p : R → Bool) : ℕ := t.rows.countP p

/-- The table without the rows that satisfy `p`. -/
def delete (t : Table R clash) (p : R → Bool) : Table R clash :=
  ⟨t.rows.filter fun r => !p r, t.apart.filter _⟩

/-- Two rows satisfying `q` clash, so that a table has at most one. -/
def Pins (clash : R → R → Prop) (q : R → Bool) : Prop := ∀ r s, q r = true → q s = true → clash r s

section Pins

variable {q p : R → Bool} (hq : Pins clash q)
include hq

variable (t : Table R clash)

theorem eq_of_pins {r s : R} (hr : r ∈ t.rows) (hs : s ∈ t.rows) (hqr : q r = true)
    (hqs : q s = true) : r = s := by
  by_contra hne
  obtain ⟨rows, apart⟩ := t
  induction rows with
  | nil => exact absurd hr List.not_mem_nil
  | cons x xs ih =>
    rw [List.pairwise_cons] at apart
    rcases List.mem_cons.mp hr with hrx | hrxs
    · rcases List.mem_cons.mp hs with hsx | hsxs
      · exact hne (hrx.trans hsx.symm)
      · exact apart.1 s hsxs (hq _ _ (hrx ▸ hqr) hqs)
    · rcases List.mem_cons.mp hs with hsx | hsxs
      · exact apart.1 r hrxs (hq _ _ (hsx ▸ hqs) hqr)
      · exact ih apart.2 hrxs hsxs

/-- A unique key selects the row that has it. -/
theorem find?_eq_some_iff {r : R} :
    t.rows.find? q = some r ↔ r ∈ t.rows ∧ q r = true := by
  constructor
  · exact fun h => ⟨List.mem_of_find?_eq_some h, List.find?_some h⟩
  · rintro ⟨hr, hqr⟩
    cases hf : t.rows.find? q with
    | none => exact absurd hqr (List.find?_eq_none.mp hf r hr)
    | some s =>
      rw [eq_of_pins hq t (List.mem_of_find?_eq_some hf) hr (List.find?_some hf) hqr]

theorem countP_le_one : t.rows.countP q ≤ 1 := by
  obtain ⟨rows, apart⟩ := t
  induction rows with
  | nil => simp
  | cons x xs ih =>
    rw [List.pairwise_cons] at apart
    rw [List.countP_cons]
    split
    · rename_i hx
      have hzero : xs.countP q = 0 :=
        List.countP_eq_zero.mpr fun s hs hqs => apart.1 s hs (hq _ _ hx hqs)
      omega
    · simpa using ih apart.2

theorem affected_le_one (hp : ∀ r, p r = true → q r = true) :
    t.affected p ≤ 1 :=
  Nat.le_trans (List.countP_mono_left fun r _ h => hp r h) (countP_le_one hq t)

/-- **A guarded update changes one row or none**: one when the row the key selects passes the
guard. -/
theorem affected_eq_one_iff (hp : ∀ r, p r = true → q r = true) :
    t.affected p = 1 ↔ ∃ r, t.rows.find? q = some r ∧ p r = true := by
  have hle := affected_le_one hq t hp
  constructor
  · intro h
    obtain ⟨r, hr, hpr⟩ := List.countP_pos_iff.mp (show 0 < t.rows.countP p by
      unfold affected at h; omega)
    exact ⟨r, (find?_eq_some_iff hq t).mpr ⟨hr, hp r hpr⟩, hpr⟩
  · rintro ⟨r, hf, hpr⟩
    have hpos : 0 < t.affected p := List.countP_pos_iff.mpr ⟨r, List.mem_of_find?_eq_some hf, hpr⟩
    omega

end Pins

/-- The row a unique key selects, unless it was deleted. -/
theorem find?_delete {q : R → Bool} (hq : Pins clash q) (t : Table R clash) (p : R → Bool) :
    (t.delete p).rows.find? q = (t.rows.find? q).filter fun r => !p r := by
  ext r
  rw [Option.filter_eq_some_iff, find?_eq_some_iff hq t, find?_eq_some_iff hq (t.delete p)]
  simp only [delete, List.mem_filter]
  tauto

variable {t : Table R clash} {f : Change R clash}

theorem mem_update {p : R → Bool} {s : R} :
    s ∈ (t.update p f).rows ↔ ∃ r ∈ t.rows, f.on p r = s := List.mem_map

/-- Selection by columns that the update does not set. -/
theorem find?_update {p q : R → Bool} (hq : ∀ r, q (f.set r) = q r) :
    (t.update p f).rows.find? q = (t.rows.find? q).map (f.on p) := by
  have hon : q ∘ f.on p = q := by
    funext r
    simp only [Function.comp_apply, Change.on]
    split
    · exact hq r
    · rfl
  simp only [update, List.find?_map, hon]

/-- An update that no row satisfies the condition of. -/
theorem update_of_forall_not {p : R → Bool} (h : ∀ r ∈ t.rows, p r = false) :
    t.update p f = t := by
  have hrows : t.rows.map (f.on p) = t.rows := by
    conv_rhs => rw [← List.map_id t.rows]
    refine List.map_congr_left fun r hr => ?_
    simp [Change.on, h r hr]
  obtain ⟨rows, apart⟩ := t
  simp only [update, hrows]

theorem insert?_eq_some [DecidableRel clash] {t t' : Table R clash} {r : R}
    (h : t.insert? r = some t') : t'.rows = t.rows ++ [r] ∧ ∀ s ∈ t.rows, ¬ clash s r := by
  unfold insert? at h
  split at h
  · rename_i hfree
    cases h
    exact ⟨rfl, hfree⟩
  · cases h

theorem insert?_eq_none [DecidableRel clash] {r : R} (h : t.insert? r = none) :
    ∃ s ∈ t.rows, clash s r := by
  unfold insert? at h
  split at h
  · cases h
  · rename_i hclash
    push Not at hclash
    exact hclash

/-- The rows that were there stay selected after an insertion. -/
theorem find?_insert? [DecidableRel clash] {t t' : Table R clash} {r s : R} {q : R → Bool}
    (h : t.insert? r = some t') (hs : t.rows.find? q = some s) : t'.rows.find? q = some s := by
  rw [(insert?_eq_some h).1, List.find?_append, hs]
  rfl

section Assign

variable [DecidableRel clash] {t t' : Table R clash} {p : R → Bool} {f : R → R}

theorem assign?_eq_some (h : t.assign? p f = some t') : t'.rows = t.rows.map (onRow p f) := by
  unfold assign? at h
  split at h
  · cases h
    rfl
  · cases h

/-- An update that makes no two rows clash is not refused. -/
theorem exists_assign? (h : ∀ r s, clash (onRow p f r) (onRow p f s) → clash r s) :
    ∃ t', t.assign? p f = some t' := by
  have hapart : (t.rows.map (onRow p f)).Pairwise fun r s => ¬ clash r s :=
    List.pairwise_map.mpr (t.apart.imp fun hrs hclash => hrs (h _ _ hclash))
  unfold assign?
  rw [dif_pos hapart]
  exact ⟨_, rfl⟩

/-- **When a row can be put in the place of another**: if it clashes with no row but that one. -/
theorem exists_assign?_const {x : R} (hsymm : ∀ r s, clash r s → clash s r) (hp : Pins clash p)
    (hrow : ∃ r ∈ t.rows, p r = true) :
    (∃ t', t.assign? p (fun _ => x) = some t') ↔
      ∀ s ∈ t.rows, p s = false → ¬ clash s x := by
  unfold assign?
  constructor
  · rintro ⟨t', h⟩ s hs hps hclash
    split at h
    · rename_i hapart
      obtain ⟨r, hr, hpr⟩ := hrow
      rw [List.pairwise_map] at hapart
      have hne : s ≠ r := by
        rintro rfl
        rw [hpr] at hps
        cases hps
      have : Std.Symm fun r s => ¬ clash (onRow p (fun _ => x) r) (onRow p (fun _ => x) s) :=
        ⟨fun _ _ hab hba => hab (hsymm _ _ hba)⟩
      have hsr := hapart.forall hs hr hne
      simp only [onRow, hps, hpr] at hsr
      exact hsr hclash
    · cases h
  · intro hfree
    have hapart : (t.rows.map (onRow p fun _ => x)).Pairwise fun r s => ¬ clash r s := by
      rw [List.pairwise_map]
      refine t.apart.imp_of_mem fun {r s} hr hs hrs => ?_
      cases hpr : p r with
      | true =>
        cases hps : p s with
        | true => exact absurd (hp r s hpr hps) hrs
        | false =>
          simp only [onRow, hpr, hps]
          exact fun hclash => hfree s hs hps (hsymm _ _ hclash)
      | false =>
        cases hps : p s with
        | true =>
          simp only [onRow, hpr, hps]
          exact hfree r hr hpr
        | false =>
          simp only [onRow, hpr, hps]
          exact hrs
    rw [dif_pos hapart]
    exact ⟨_, rfl⟩

end Assign

end Table

end Relational
