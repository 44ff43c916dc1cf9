import Mathlib.Data.String.Basic

/-!
# Sizes of texts

The number of bytes of a text in UTF-8, in terms of its characters.

## Main results

* `length_le_utf8ByteSize`, `utf8ByteSize_le`, `utf8ByteSize_of_ascii`: bounds by the number of
  characters
-/

namespace Encoding

theorem utf8ByteSize_eq (s : String) : s.utf8ByteSize = String.utf8Len s.toList := by
  rw [← String.utf8ByteSize_ofList, String.ofList_toList]

/-- A character has at most four bytes. -/
theorem utf8ByteSize_le (s : String) : s.utf8ByteSize ≤ 4 * s.toList.length := by
  rw [utf8ByteSize_eq]
  induction s.toList with
  | nil => simp [String.utf8Len]
  | cons c cs ih =>
    have hc := c.utf8Size_le_four
    simp only [String.utf8Len, List.length_cons]
    omega

/-- A character has at least one byte. -/
theorem length_le_utf8ByteSize (s : String) : s.toList.length ≤ s.utf8ByteSize := by
  rw [utf8ByteSize_eq]
  induction s.toList with
  | nil => simp
  | cons c cs ih =>
    have hc := c.utf8Size_pos
    simp only [String.utf8Len, List.length_cons]
    omega

theorem utf8Size_eq_one {c : Char} (h : c.toNat < 128) : c.utf8Size = 1 := by
  rw [Char.utf8Size_eq_one_iff, UInt32.le_iff_toNat_le]
  change c.toNat ≤ 127
  omega

/-- An ASCII character has one byte. -/
theorem utf8ByteSize_of_ascii {s : String} (h : ∀ c ∈ s.toList, c.toNat < 128) :
    s.utf8ByteSize = s.toList.length := by
  rw [utf8ByteSize_eq]
  revert h
  induction s.toList with
  | nil => simp [String.utf8Len]
  | cons c cs ih =>
    intro h
    have hc := utf8Size_eq_one (h c (by simp))
    have hcs := ih fun c hc => h c (List.mem_cons_of_mem _ hc)
    simp only [String.utf8Len, List.length_cons]
    omega

end Encoding
