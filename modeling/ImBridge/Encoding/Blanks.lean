import Mathlib.Data.List.Basic

/-!
# Texts up to blanks

Rewriting a text may add blanks and take blanks away while everything else stays, in its order. What
stays are the solid elements of the text, that is those that are not blank.

## Main definitions

* `solid`: the elements that are not blank

## Main results

* `solid_dropWhile`, `solid_trimEnd`: trimming keeps the solid elements
* `solid_intercalate`: so does putting blanks between the parts of a text
-/

namespace Encoding

variable {α : Type*} (blank : α → Bool)

/-- The elements that are not blank, in their order. -/
def solid (l : List α) : List α := l.filter fun a => !blank a

variable {blank} {l l₁ l₂ : List α}

@[simp]
theorem solid_nil : solid blank [] = [] := rfl

@[simp]
theorem solid_append : solid blank (l₁ ++ l₂) = solid blank l₁ ++ solid blank l₂ :=
  List.filter_append ..

theorem solid_cons (a : α) : solid blank (a :: l) = solid blank [a] ++ solid blank l := by
  rw [← solid_append, List.singleton_append]

theorem solid_cons_of_blank {a : α} (h : blank a = true) :
    solid blank (a :: l) = solid blank l := by
  simp [solid, h]

theorem solid_reverse : solid blank l.reverse = (solid blank l).reverse := List.filter_reverse ..

theorem solid_eq_nil_iff : solid blank l = [] ↔ l.all blank = true := by
  simp [solid, List.filter_eq_nil_iff]

theorem solid_dropWhile : solid blank (l.dropWhile blank) = solid blank l := by
  induction l with
  | nil => rfl
  | cons a l ih =>
    by_cases ha : blank a = true
    · rw [List.dropWhile_cons_of_pos ha, ih, solid_cons_of_blank ha]
    · rw [List.dropWhile_cons_of_neg ha]

theorem solid_trimEnd : solid blank (l.reverse.dropWhile blank).reverse = solid blank l := by
  rw [solid_reverse, solid_dropWhile, solid_reverse, List.reverse_reverse]

theorem solid_flatMap {f : List α → List α} (hf : ∀ part, solid blank (f part) = solid blank part)
    (parts : List (List α)) : solid blank (parts.flatMap f) = solid blank parts.flatten := by
  induction parts with
  | nil => rfl
  | cons part parts ih => simp [ih, hf]

/-- What stands between the parts does not matter if it is blank. -/
theorem solid_intercalate {sep : List α} (hsep : sep.all blank = true) (parts : List (List α)) :
    solid blank (sep.intercalate parts) = solid blank parts.flatten := by
  have hnil : solid blank sep = [] := solid_eq_nil_iff.mpr hsep
  induction parts with
  | nil => rfl
  | cons part parts ih =>
    cases parts with
    | nil => simp
    | cons next parts =>
      rw [List.intercalate_cons_cons, solid_append, solid_append, hnil, ih, List.append_nil,
        List.flatten_cons (l := part), solid_append]

end Encoding
