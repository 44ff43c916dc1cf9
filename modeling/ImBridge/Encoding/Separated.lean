import Mathlib.Algebra.GroupWithZero.Nat
import Mathlib.Data.List.Basic

/-!
# Texts with separators

A text that is joined from parts by a separator can be taken apart again when it is known how many
separators each part has. Splitting at every separator gives the parts back only if they have none.

## Main results

* `append_cons_inj`, `append_cons_inj_right`: a separator after, or before, as many others
* `length_splitOn`, `not_mem_of_mem_splitOn`: the parts of a text
* `count_intercalate`: the separators of a joined text
* `lookup_eq_some_iff_mem`: lists of pairs as maps
-/

namespace Encoding

variable {α : Type} [DecidableEq α] {c : α}

/-- **A separator that comes after as many others** in two equal texts is the same one. -/
theorem append_cons_inj {a a' b b' : List α} (hcount : a.count c = a'.count c)
    (h : a ++ c :: b = a' ++ c :: b') : a = a' ∧ b = b' := by
  induction a generalizing a' with
  | nil =>
    cases a' with
    | nil => simpa using h
    | cons x a' =>
      -- the text on the right would have a separator before its first one
      obtain ⟨rfl, -⟩ := List.cons.inj h
      simp at hcount
  | cons x a ih =>
    cases a' with
    | nil =>
      obtain ⟨rfl, -⟩ := List.cons.inj h
      simp at hcount
    | cons y a' =>
      obtain ⟨rfl, htail⟩ := List.cons.inj h
      obtain ⟨rfl, rfl⟩ := ih (by simpa [List.count_cons] using hcount) htail
      exact ⟨rfl, rfl⟩

/-- A separator that comes before as many others in two equal texts is the same one. -/
theorem append_cons_inj_right {a a' b b' : List α} (hcount : b.count c = b'.count c)
    (h : a ++ c :: b = a' ++ c :: b') : a = a' ∧ b = b' := by
  refine append_cons_inj ?_ h
  have htotal := congrArg (List.count c) h
  simpa [List.count_append, hcount] using htotal

theorem splitOn_cons (x : α) (l : List α) :
    (x :: l).splitOn c =
      if x = c then [] :: l.splitOn c else (l.splitOn c).modifyHead (List.cons x) := by
  simp only [List.splitOn_eq_splitOnP, List.splitOnP_cons_eq_if_modifyHead, beq_iff_eq]

/-- A text has one part more than separators. -/
theorem length_splitOn (l : List α) : (l.splitOn c).length = l.count c + 1 := by
  induction l with
  | nil => simp
  | cons x l ih =>
    rw [splitOn_cons]
    split
    · rename_i hx
      simp [hx, ih]
    · rename_i hx
      simp [ih, hx]

/-- The parts of a text have no separators. -/
theorem not_mem_of_mem_splitOn {l part : List α} (h : part ∈ l.splitOn c) : c ∉ part := by
  induction l generalizing part with
  | nil =>
    simp only [List.splitOn_nil, List.mem_singleton] at h
    simp [h]
  | cons x l ih =>
    rw [splitOn_cons] at h
    split at h
    · rcases List.mem_cons.mp h with rfl | h
      · simp
      · exact ih h
    · rename_i hx
      cases hparts : l.splitOn c with
      | nil => simp [hparts] at h
      | cons first parts =>
        rw [hparts, List.modifyHead_cons] at h
        rcases List.mem_cons.mp h with rfl | h
        · have hfirst : c ∉ first := ih (by simp [hparts])
          simp [hfirst, Ne.symm hx]
        · exact ih (by simp [hparts, h])

omit [DecidableEq α] in
theorem mem_intercalate_of_mem {a : α} {sep part : List α} {parts : List (List α)}
    (hpart : part ∈ parts) (ha : a ∈ part) : a ∈ sep.intercalate parts := by
  induction parts with
  | nil => cases hpart
  | cons first parts ih =>
    cases parts with
    | nil =>
      obtain rfl := List.mem_singleton.mp hpart
      simpa using ha
    | cons next parts =>
      rw [List.intercalate_cons_cons, List.mem_append]
      rcases List.mem_cons.mp hpart with rfl | hpart
      · exact .inl (List.mem_append_left _ ha)
      · exact .inr (ih hpart)

omit [DecidableEq α] in
theorem mem_of_mem_intercalate {a : α} {sep : List α} {parts : List (List α)}
    (h : a ∈ sep.intercalate parts) : a ∈ sep ∨ ∃ part ∈ parts, a ∈ part := by
  induction parts with
  | nil => simp [List.intercalate] at h
  | cons part parts ih =>
    cases parts with
    | nil => exact .inr ⟨part, List.mem_cons_self, by simpa using h⟩
    | cons next parts =>
      rw [List.intercalate_cons_cons, List.mem_append, List.mem_append] at h
      rcases h with (h | h) | h
      · exact .inr ⟨part, List.mem_cons_self, h⟩
      · exact .inl h
      · exact (ih h).imp_right fun ⟨p, hp, hmem⟩ => ⟨p, List.mem_cons_of_mem _ hp, hmem⟩

/-- The separators of a joined text: those between its parts, and those in them. -/
theorem count_intercalate (part : List α) (parts : List (List α)) :
    (List.intercalate [c] (part :: parts)).count c =
      parts.length + ((part :: parts).map (List.count c)).sum := by
  induction parts generalizing part with
  | nil => simp [List.intercalate]
  | cons next parts ih =>
    rw [List.intercalate_cons_cons, List.count_append, List.count_append, ih]
    simp
    omega

omit [DecidableEq α] in
theorem eq_of_map_eq {β : Type} {f : α → β} {l l' : List α}
    (hf : ∀ x ∈ l, ∀ y ∈ l', f x = f y → x = y) (h : l.map f = l'.map f) : l = l' := by
  induction l generalizing l' with
  | nil => exact (List.map_eq_nil_iff.mp h.symm).symm
  | cons x l ih =>
    cases l' with
    | nil => cases h
    | cons y l' =>
      obtain ⟨hxy, htail⟩ := List.cons.inj h
      rw [hf x List.mem_cons_self y List.mem_cons_self hxy,
        ih (fun x hx y hy => hf x (List.mem_cons_of_mem _ hx) y (List.mem_cons_of_mem _ hy)) htail]

omit [DecidableEq α] in
/-- The value of a key that occurs once. -/
theorem lookup_eq_some_iff_mem {β : Type} [BEq α] [LawfulBEq α] {l : List (α × β)}
    (h : (l.map Prod.fst).Nodup) {k : α} {v : β} : l.lookup k = some v ↔ (k, v) ∈ l := by
  induction l with
  | nil => simp
  | cons pair l ih =>
    obtain ⟨k', v'⟩ := pair
    rw [List.map_cons, List.nodup_cons] at h
    cases hk : k == k' with
    | true =>
      obtain rfl := eq_of_beq hk
      have hfree : (k, v) ∉ l := fun hmem => h.1 (List.mem_map.mpr ⟨_, hmem, rfl⟩)
      simp [hfree, eq_comm]
    | false =>
      rw [List.lookup_cons, hk, ih h.2]
      simp [ne_of_beq_false hk]

end Encoding
