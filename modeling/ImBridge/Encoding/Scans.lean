import Mathlib.Data.List.Nodup

/-!
# Scans of numbered lists

Two scans of the same list, with different tests, find the same element or not. The elements have
numbers that are all different, so that it is enough to look at the numbers.

## Main results

* `find?_number_iff`: when a scan finds a given element
* `eraseP_eq_filter_iff`: when a scan removes the element with a given number
* `countP_le_of_getElem?`: counting where one list has the property only if the other one has
-/

namespace Encoding

variable {α β : Type*} {f : α → β} {p : α → Bool} {l before after : List α} {x : α}

/-- A scan finds an element if the element passes and those before it do not. -/
theorem find?_number_iff (hnodup : ((before ++ x :: after).map f).Nodup) :
    ((before ++ x :: after).find? p).map f = some (f x) ↔
      p x = true ∧ ∀ y ∈ before, p y = false := by
  constructor
  · intro h
    obtain ⟨y, hfind, hnumber⟩ := Option.map_eq_some_iff.mp h
    have hy := List.mem_of_find?_eq_some hfind
    obtain rfl : y = x := List.inj_on_of_nodup_map hnodup hy (by simp) hnumber
    refine ⟨List.find?_some hfind, fun z hz => ?_⟩
    -- a hit before the element would be the one that is found
    by_contra hpz
    rw [List.find?_append] at hfind
    cases hbefore : before.find? p with
    | none => exact hpz (by simpa using List.find?_eq_none.mp hbefore z hz)
    | some w =>
      rw [hbefore, Option.some_or, Option.some.injEq] at hfind
      subst hfind
      rw [List.map_append, List.map_cons, List.nodup_append] at hnodup
      exact hnodup.2.2 _ (List.mem_map_of_mem (List.mem_of_find?_eq_some hbefore)) _
        List.mem_cons_self rfl
  · rintro ⟨hx, hbefore⟩
    have hnone : before.find? p = none := by
      rw [List.find?_eq_none]
      intro y hy
      simp [hbefore y hy]
    rw [List.find?_append, hnone, Option.none_or, List.find?_cons_of_pos hx, Option.map_some]

theorem countP_le_of_getElem? {l' : List α}
    (h : ∀ (i : ℕ) y, l'[i]? = some y → p y = true → ∃ x, l[i]? = some x ∧ p x = true) :
    l'.countP p ≤ l.countP p := by
  induction l' generalizing l with
  | nil => simp
  | cons y l' ih =>
    have htail : l'.countP p ≤ l.tail.countP p := by
      refine ih fun i z hz hpz => ?_
      obtain ⟨x, hx, hpx⟩ := h (i + 1) z (by simpa using hz) hpz
      exact ⟨x, by rwa [List.getElem?_tail], hpx⟩
    by_cases hy : p y = true
    · obtain ⟨x, hx, hpx⟩ := h 0 y rfl hy
      cases l with
      | nil => simp at hx
      | cons x' l =>
        obtain rfl : x' = x := by simpa using hx
        rw [List.countP_cons_of_pos hy, List.countP_cons_of_pos hpx]
        exact Nat.succ_le_succ htail
    · rw [List.countP_cons_of_neg hy]
      exact Nat.le_trans htail (List.tail_sublist l).countP_le

variable [DecidableEq β]

theorem filter_number_eq_self {i : β} (h : i ∉ l.map f) : l.filter (f · ≠ i) = l := by
  rw [List.filter_eq_self]
  intro y hy
  simpa using fun hi : f y = i => h (hi ▸ List.mem_map_of_mem hy)

/-- A scan removes the element with a number if it finds that element; or else if it finds none and
the number does not occur. -/
theorem eraseP_eq_filter_iff (hnodup : (l.map f).Nodup) {i : β} :
    l.eraseP p = l.filter (f · ≠ i) ↔
      (l.find? p).map f = some i ∨ (l.find? p = none ∧ i ∉ l.map f) := by
  induction l with
  | nil => simp
  | cons y l ih =>
    rw [List.map_cons, List.nodup_cons] at hnodup
    by_cases hy : p y = true
    · rw [List.eraseP_cons_of_pos hy, List.find?_cons_of_pos hy]
      by_cases hi : f y = i
      · subst hi
        rw [List.filter_cons_of_neg (by simp), filter_number_eq_self hnodup.1]
        simp
      · refine iff_of_false (fun h => hnodup.1 (List.mem_map_of_mem ?_)) (by simp [hi])
        rw [h, List.filter_cons_of_pos (by simpa using hi)]
        exact List.mem_cons_self
    · rw [List.eraseP_cons_of_neg hy, List.find?_cons_of_neg hy]
      by_cases hi : f y = i
      · -- the element stays, although it has the number
        subst hi
        refine iff_of_false (fun h => hnodup.1 (List.mem_map_of_mem ?_)) ?_
        · rw [List.filter_cons_of_neg (by simp), filter_number_eq_self hnodup.1] at h
          rw [← h]
          exact List.mem_cons_self
        · rintro (h | ⟨-, h⟩)
          · obtain ⟨z, hz, hnumber⟩ := Option.map_eq_some_iff.mp h
            exact hnodup.1 (hnumber ▸ List.mem_map_of_mem (List.mem_of_find?_eq_some hz))
          · exact h (by simp)
      · rw [List.filter_cons_of_pos (by simpa using hi), List.cons.injEq, ih hnodup.2]
        simp [Ne.symm hi]

end Encoding
