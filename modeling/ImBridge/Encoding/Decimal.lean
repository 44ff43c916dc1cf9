import Mathlib.Algebra.GroupWithZero.Nat
import Mathlib.Data.Char
import Mathlib.Data.List.DropRight
import Mathlib.Data.List.Lex
import Mathlib.Order.Lattice

/-!
# Decimal digits and the lexicographic order

Numbers written with a fixed number of digits are ordered as their texts are. Once the zeros at the
end are left out, as in a decimal fraction, this still holds as long as neither text begins with the
other one.

## Main definitions

* `pad w n`: the last `w` decimal digits of `n`, most significant first
* `fraction w n`: these digits without the zeros at the end

## Main results

* `pad_append_lt_iff`: texts that begin with numbers of the same width
* `fraction_append_lt_iff`: fractions of which neither begins with the other one
* `le_of_fraction_prefix`: a fraction that begins with another one is not smaller
-/

namespace Encoding

/-! ## The lexicographic order -/

section Lexicographic

variable {α : Type}

theorem append_lt_append_iff [LT α] {a b : List α} (h : a.length = b.length) (x y : List α) :
    a ++ x < b ++ y ↔ a < b ∨ (a = b ∧ x < y) := by
  induction a generalizing b with
  | nil =>
    obtain rfl := List.length_eq_zero_iff.mp h.symm
    simp
  | cons c a ih =>
    cases b with
    | nil => simp at h
    | cons d b =>
      simp only [List.cons_append, List.cons_lt_cons_iff, List.cons.injEq,
        ih (Nat.succ.inj h)]
      tauto

theorem append_left_lt_iff [LinearOrder α] (p x y : List α) : p ++ x < p ++ y ↔ x < y := by
  rw [append_lt_append_iff rfl]
  simp

/-- Two lists of which neither begins with the other one part at some place. -/
theorem exists_parting {x y : List α} (hxy : ¬ x <+: y) (hyx : ¬ y <+: x) :
    ∃ p a b x' y', a ≠ b ∧ x = p ++ a :: x' ∧ y = p ++ b :: y' := by
  induction x generalizing y with
  | nil => exact absurd List.nil_prefix hxy
  | cons a x ih =>
    cases y with
    | nil => exact absurd List.nil_prefix hyx
    | cons b y =>
      by_cases hab : a = b
      · subst hab
        rw [List.cons_prefix_cons] at hxy hyx
        obtain ⟨p, c, d, x', y', hcd, rfl, rfl⟩ :=
          ih (fun h => hxy ⟨rfl, h⟩) (fun h => hyx ⟨rfl, h⟩)
        exact ⟨a :: p, c, d, x', y', hcd, rfl, rfl⟩
      · exact ⟨[], a, b, x, y, hab, rfl, rfl⟩

/-- What comes after the place at which two lists part does not matter. -/
theorem append_lt_append_of_parting [LinearOrder α] {x y : List α} (hxy : ¬ x <+: y)
    (hyx : ¬ y <+: x) (u v : List α) : x ++ u < y ++ v ↔ x < y := by
  obtain ⟨p, a, b, x', y', hab, rfl, rfl⟩ := exists_parting hxy hyx
  simp only [List.append_assoc, List.cons_append, append_left_lt_iff, List.cons_lt_cons_iff, hab,
    false_and, or_false]

end Lexicographic

/-! ## Numbers of a fixed width -/

/-- The last `w` decimal digits of `n`, most significant first. -/
def pad : ℕ → ℕ → List Char
  | 0, _ => []
  | w + 1, n => pad w (n / 10) ++ [Nat.digitChar (n % 10)]

@[simp] theorem length_pad (w n : ℕ) : (pad w n).length = w := by
  induction w generalizing n with
  | zero => rfl
  | succ w ih => simp [pad, ih]

theorem digitChar_lt_iff {a b : ℕ} (ha : a < 10) (hb : b < 10) :
    Nat.digitChar a < Nat.digitChar b ↔ a < b := by
  have hall : ∀ a < 10, ∀ b < 10, Nat.digitChar a < Nat.digitChar b ↔ a < b := by decide
  exact hall a ha b hb

theorem digitChar_inj {a b : ℕ} (ha : a < 10) (hb : b < 10)
    (h : Nat.digitChar a = Nat.digitChar b) : a = b := by
  have hall : ∀ a < 10, ∀ b < 10, Nat.digitChar a = Nat.digitChar b → a = b := by decide
  exact hall a ha b hb h

/-- The characters of a number are digits. -/
theorem mem_pad {w n : ℕ} {c : Char} (h : c ∈ pad w n) : '0' ≤ c ∧ c ≤ '9' := by
  induction w generalizing n with
  | zero => simp [pad] at h
  | succ w ih =>
    rcases List.mem_append.mp h with h | h
    · exact ih h
    · have hdigit : ∀ d < 10, '0' ≤ Nat.digitChar d ∧ Nat.digitChar d ≤ '9' := by decide
      rw [List.mem_singleton.mp h]
      exact hdigit _ (Nat.mod_lt _ (by omega))

variable {w m n : ℕ}

theorem pad_inj (hm : m < 10 ^ w) (hn : n < 10 ^ w) (h : pad w m = pad w n) : m = n := by
  induction w generalizing m n with
  | zero => omega
  | succ w ih =>
    rw [Nat.pow_succ] at hm hn
    obtain ⟨hhigh, hlow⟩ := List.append_inj h (by simp)
    have hdiv := ih (by omega) (by omega) hhigh
    have hmod := digitChar_inj (Nat.mod_lt m (by omega)) (Nat.mod_lt n (by omega))
      (List.singleton_inj.mp hlow)
    omega

theorem pad_lt_iff (hm : m < 10 ^ w) (hn : n < 10 ^ w) : pad w m < pad w n ↔ m < n := by
  induction w generalizing m n with
  | zero => simp [pad]; omega
  | succ w ih =>
    rw [Nat.pow_succ] at hm hn
    simp only [pad]
    rw [append_lt_append_iff (by simp), ih (by omega) (by omega), List.cons_lt_cons_iff,
      digitChar_lt_iff (Nat.mod_lt m (by omega)) (Nat.mod_lt n (by omega))]
    constructor
    · rintro (hlt | ⟨heq, hlt | ⟨-, hnil⟩⟩)
      · omega
      · have := pad_inj (by omega) (by omega) heq
        omega
      · exact absurd hnil (List.not_lt_nil _)
    · intro hlt
      by_cases hdiv : m / 10 = n / 10
      · exact .inr ⟨by rw [hdiv], .inl (by omega)⟩
      · exact .inl (by omega)

/-- **Texts that begin with numbers of the same width** are ordered by these numbers first. -/
theorem pad_append_lt_iff (hm : m < 10 ^ w) (hn : n < 10 ^ w) (x y : List Char) :
    pad w m ++ x < pad w n ++ y ↔ m < n ∨ (m = n ∧ x < y) := by
  rw [append_lt_append_iff (by simp), pad_lt_iff hm hn]
  refine or_congr_right (and_congr_left fun _ => ⟨pad_inj hm hn, ?_⟩)
  rintro rfl
  rfl

/-! ## Fractions -/

/-- The last `w` decimal digits of `n` without the zeros at the end. -/
def fraction (w n : ℕ) : List Char := (pad w n).rdropWhile (· == '0')

theorem fraction_append_zeros (w n : ℕ) :
    fraction w n ++ List.replicate (w - (fraction w n).length) '0' = pad w n := by
  have hsplit : fraction w n ++ (pad w n).rtakeWhile (· == '0') = pad w n :=
    List.rdropWhile_append_rtakeWhile
  have hzeros : (pad w n).rtakeWhile (· == '0') =
      List.replicate ((pad w n).rtakeWhile (· == '0')).length '0' :=
    List.eq_replicate_of_mem fun c hc => by simpa using List.mem_rtakeWhile_imp hc
  have hlength := congrArg List.length hsplit
  rw [List.length_append, length_pad] at hlength
  rw [hzeros] at hsplit
  rwa [show w - (fraction w n).length = ((pad w n).rtakeWhile (· == '0')).length by omega]

theorem mem_fraction {w n : ℕ} {c : Char} (h : c ∈ fraction w n) : '0' ≤ c ∧ c ≤ '9' :=
  mem_pad ((List.rdropWhile_prefix _ _).subset h)

theorem not_lt_zeros {x : List Char} (h : ∀ c ∈ x, '0' ≤ c) :
    ¬ x < List.replicate x.length '0' := by
  induction x with
  | nil => simp
  | cons c x ih =>
    rw [List.length_cons, List.replicate_succ, List.cons_lt_cons_iff]
    rintro (hlt | ⟨-, hlt⟩)
    · exact absurd (h c List.mem_cons_self) (not_le.mpr hlt)
    · exact ih (fun d hd => h d (List.mem_cons_of_mem _ hd)) hlt

/-- **A fraction that begins with another one is not smaller.** -/
theorem le_of_fraction_prefix (hm : m < 10 ^ w) (hn : n < 10 ^ w)
    (h : fraction w m <+: fraction w n) : m ≤ n := by
  by_contra hlt
  have hpad := (pad_lt_iff hn hm).mpr (not_le.mp hlt)
  obtain ⟨rest, hrest⟩ := h
  have hlength := congrArg List.length (fraction_append_zeros w n)
  rw [← fraction_append_zeros w m, ← fraction_append_zeros w n, ← hrest, List.append_assoc,
    append_left_lt_iff] at hpad
  rw [← hrest] at hlength
  simp only [List.length_append, List.length_replicate, length_pad] at hlength
  -- what follows the common digits would be smaller than zeros
  refine not_lt_zeros (x := rest ++ List.replicate
    (w - (fraction w m ++ rest).length) '0') (fun c hc => ?_) ?_
  · rcases List.mem_append.mp hc with hc | hc
    · exact (mem_fraction (hrest ▸ List.mem_append_right _ hc)).1
    · rw [(List.mem_replicate.mp hc).2]
  · convert hpad using 2
    simp only [List.length_append, List.length_replicate]
    omega

/-- **Fractions of which neither begins with the other one** are ordered as their texts are. -/
theorem fraction_append_lt_iff (hm : m < 10 ^ w) (hn : n < 10 ^ w)
    (hmn : ¬ fraction w m <+: fraction w n) (hnm : ¬ fraction w n <+: fraction w m)
    (x y : List Char) : fraction w m ++ x < fraction w n ++ y ↔ m < n := by
  rw [append_lt_append_of_parting hmn hnm, ← pad_lt_iff hm hn, ← fraction_append_zeros w m,
    ← fraction_append_zeros w n, append_lt_append_of_parting hmn hnm]

/-- Numbers with the same fraction are the same. -/
theorem fraction_inj (hm : m < 10 ^ w) (hn : n < 10 ^ w) (h : fraction w m = fraction w n) :
    m = n :=
  pad_inj hm hn (by rw [← fraction_append_zeros w m, ← fraction_append_zeros w n, h])

end Encoding
