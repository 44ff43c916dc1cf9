import ImBridge.Encoding.Utf8
import Mathlib.Data.List.Induction
import Mathlib.Data.List.TakeWhile
import Mathlib.Logic.Relation

/-!
# Slices of texts

Texts as lists of characters, addressed by the offsets of their UTF-8 bytes. A text can be cut only
between characters: an offset that is inside a character or past the end is refused, with `none`.

## Main definitions

* `split?`, `slice?`: cutting a text
* `replaceRange?`, `replaceRanges?`: replacing a part of a text, or several from the last to the
  first
* `offsetOf?`: the offset of the first place that is searched for
* `IsBoundary`: the offsets at which a text can be cut
* `Separate`: parts of a text one after the other
* `Replaced`: a part of a text is replaced

## Main results

* `split?_eq_some`, `replaceRange?_append`: cutting and replacing in terms of characters
* `exists_replaceRanges?`: parts one after the other can be replaced
-/

namespace Encoding

open String (utf8Len)

/-! ## Cutting -/

/-- The text before and after an offset. -/
def split? : List Char → ℕ → Option (List Char × List Char)
  | text, 0 => some ([], text)
  | [], _ + 1 => none
  | c :: text, n + 1 =>
    if c.utf8Size ≤ n + 1 then
      (split? text (n + 1 - c.utf8Size)).map fun parts => (c :: parts.1, parts.2)
    else none

/-- The text from an offset on. -/
def sliceFrom? (text : List Char) (start : ℕ) : Option (List Char) :=
  (split? text start).map (·.2)

/-- The text before an offset. -/
def sliceTo? (text : List Char) (stop : ℕ) : Option (List Char) :=
  (split? text stop).map (·.1)

/-- The text between two offsets. -/
def slice? (text : List Char) (start stop : ℕ) : Option (List Char) :=
  if start ≤ stop then do
    sliceTo? (← sliceFrom? text start) (stop - start)
  else none

/-- The text with another one in place of the part between two offsets. -/
def replaceRange? (new : List Char) (text : List Char) (range : ℕ × ℕ) : Option (List Char) :=
  if range.1 ≤ range.2 then do
    return (← sliceTo? text range.1) ++ new ++ (← sliceFrom? text range.2)
  else none

/-- The text with these parts replaced, from the last to the first. -/
def replaceRanges? (new : List Char) (text : List Char) (ranges : List (ℕ × ℕ)) :
    Option (List Char) :=
  ranges.reverse.foldlM (replaceRange? new) text

variable (a b : List Char)

theorem split?_append : split? (a ++ b) (utf8Len a) = some (a, b) := by
  induction a with
  | nil => cases b <;> rfl
  | cons c a ih =>
    have hpos := c.utf8Size_pos
    obtain ⟨n, hn⟩ : ∃ n, utf8Len (c :: a) = n + 1 :=
      Nat.exists_eq_succ_of_ne_zero (by simp; omega)
    have hrest : n + 1 - c.utf8Size = utf8Len a := by
      rw [← hn]
      simp
    have hle : c.utf8Size ≤ n + 1 := by
      rw [← hn]
      simp
    rw [hn, List.cons_append, split?, if_pos hle, hrest, ih]
    rfl

variable {n : ℕ}

/-- **A text is cut between characters.** -/
theorem split?_eq_some {text a b : List Char} :
    split? text n = some (a, b) ↔ text = a ++ b ∧ utf8Len a = n := by
  constructor
  · fun_induction split? text n generalizing a b with
    | case1 text =>
      intro h
      cases h
      exact ⟨rfl, rfl⟩
    | case2 n =>
      intro h
      cases h
    | case3 c text n hle ih =>
      intro h
      obtain ⟨parts, hparts, hab⟩ := Option.map_eq_some_iff.mp h
      cases hab
      obtain ⟨htext, hsize⟩ := ih hparts
      refine ⟨by rw [htext]; rfl, ?_⟩
      simp only [String.utf8Len_cons]
      omega
    | case4 c text n hle =>
      intro h
      cases h
  · rintro ⟨rfl, rfl⟩
    exact split?_append a b

theorem sliceFrom?_append : sliceFrom? (a ++ b) (utf8Len a) = some b := by
  rw [sliceFrom?, split?_append]
  rfl

theorem sliceTo?_append : sliceTo? (a ++ b) (utf8Len a) = some a := by
  rw [sliceTo?, split?_append]
  rfl

theorem slice?_append (a m b : List Char) :
    slice? (a ++ (m ++ b)) (utf8Len a) (utf8Len (a ++ m)) = some m := by
  have hsize : utf8Len (a ++ m) - utf8Len a = utf8Len m := by
    rw [String.utf8Len_append]
    omega
  rw [slice?, if_pos (by simp), sliceFrom?_append, hsize]
  exact sliceTo?_append m b

theorem replaceRange?_append (new a m b : List Char) :
    replaceRange? new (a ++ (m ++ b)) (utf8Len a, utf8Len (a ++ m)) = some (a ++ new ++ b) := by
  have hfrom : sliceFrom? (a ++ (m ++ b)) (utf8Len (a ++ m)) = some b := by
    rw [← List.append_assoc]
    exact sliceFrom?_append (a ++ m) b
  rw [replaceRange?, if_pos (by simp), sliceTo?_append, hfrom]
  rfl

/-! ## Boundaries -/

/-- The text can be cut here. -/
def IsBoundary (text : List Char) (n : ℕ) : Prop := ∃ a b, text = a ++ b ∧ utf8Len a = n

theorem isBoundary_append : IsBoundary (a ++ b) (utf8Len a) := ⟨a, b, rfl, rfl⟩

variable {text : List Char}

/-- Two cuts of a text, in order. -/
theorem exists_between {a b x y : List Char} (h : a ++ b = x ++ y) (hle : utf8Len a ≤ utf8Len x) :
    ∃ m, x = a ++ m ∧ b = m ++ y := by
  rcases List.append_eq_append_iff.mp h with ⟨m, hx, hb⟩ | ⟨m, ha, hy⟩
  · exact ⟨m, hx, hb⟩
  · -- then `m` has no bytes
    have hm : m = [] := by
      rw [ha, String.utf8Len_append] at hle
      exact String.utf8Len_eq_zero.mp (by omega)
    subst hm
    exact ⟨[], by simpa using ha.symm, by simpa using hy.symm⟩

/-- The boundaries of a text after its start. -/
theorem isBoundary_append_iff {a b : List Char} :
    IsBoundary (a ++ b) (utf8Len a + n) ↔ IsBoundary b n := by
  constructor
  · rintro ⟨x, y, htext, hsize⟩
    obtain ⟨m, rfl, rfl⟩ := exists_between htext (by omega)
    rw [String.utf8Len_append] at hsize
    exact ⟨m, y, rfl, by omega⟩
  · rintro ⟨x, y, rfl, rfl⟩
    exact ⟨a ++ x, y, (List.append_assoc _ _ _).symm, String.utf8Len_append _ _⟩

/-! ## Searching -/

/-- The offset of the first place at which the rest of the text is as searched for. -/
def offsetOf? (p : List Char → Bool) : List Char → Option ℕ
  | [] => none
  | c :: text => if p (c :: text) then some 0 else (offsetOf? p text).map (c.utf8Size + ·)

theorem exists_of_offsetOf? {p : List Char → Bool} (h : offsetOf? p text = some n) :
    ∃ a b, text = a ++ b ∧ utf8Len a = n ∧ p b = true := by
  induction text generalizing n with
  | nil => cases h
  | cons c text ih =>
    rw [offsetOf?] at h
    split at h
    · rename_i hp
      cases h
      exact ⟨[], c :: text, rfl, rfl, hp⟩
    · obtain ⟨k, hk, rfl⟩ := Option.map_eq_some_iff.mp h
      obtain ⟨a, b, rfl, rfl, hp⟩ := ih hk
      exact ⟨c :: a, b, rfl, by simp [Nat.add_comm], hp⟩

/-- The first character of the rest is one of these. -/
def startsWithChar (p : Char → Bool) (text : List Char) : Bool := text.head?.any p

/-- What is before the first of some characters. -/
theorem offsetOf?_startsWithChar (p : Char → Bool) (text : List Char) :
    (offsetOf? (startsWithChar p) text).getD (utf8Len text) =
      utf8Len (text.takeWhile fun c => !p c) := by
  induction text with
  | nil => rfl
  | cons c text ih =>
    by_cases hc : p c = true
    · simp [offsetOf?, startsWithChar, hc]
    · have hstart : startsWithChar p (c :: text) = false := by simpa [startsWithChar] using hc
      rw [offsetOf?, hstart, List.takeWhile_cons_of_pos (by simpa using hc), String.utf8Len_cons,
        String.utf8Len_cons, ← ih]
      cases offsetOf? (startsWithChar p) text with
      | none => rfl
      | some n => simp [Nat.add_comm]

/-! ## Bytes -/

/-- The UTF-8 bytes of a text. -/
def bytesOf (text : List Char) : List UInt8 := text.flatMap String.utf8EncodeChar

/-- All bytes of a character with several bytes have their highest bit set. -/
theorem le_of_mem_utf8EncodeChar {c : Char} (hc : 127 < c.val.toNat) {b : UInt8}
    (h : b ∈ String.utf8EncodeChar c) : 128 ≤ b.toNat := by
  have hofNat : ∀ n, 128 ≤ n → n < 256 → 128 ≤ (UInt8.ofNat n).toNat := by
    intro n hn hlt
    rw [UInt8.toNat_ofNat', Nat.mod_eq_of_lt hlt]
    exact hn
  unfold String.utf8EncodeChar at h
  dsimp only at h
  rw [if_neg (by omega)] at h
  split_ifs at h <;> simp only [List.mem_cons, List.not_mem_nil, or_false] at h
  · rcases h with rfl | rfl <;> exact hofNat _ (by omega) (by omega)
  · rcases h with rfl | rfl | rfl <;> exact hofNat _ (by omega) (by omega)
  · rcases h with rfl | rfl | rfl | rfl <;> exact hofNat _ (by omega) (by omega)

theorem utf8EncodeChar_of_ascii {c : Char} {b : UInt8} (h : (String.utf8EncodeChar c)[n]? = some b)
    (hb : b.toNat < 128) : n = 0 := by
  by_cases hc : 127 < c.val.toNat
  · have hle := le_of_mem_utf8EncodeChar hc (List.mem_of_getElem? h)
    omega
  · have hlt := (List.getElem?_eq_some_iff.mp h).1
    rw [String.utf8EncodeChar, if_pos (by omega)] at hlt
    simpa using hlt

/-- The offset of an ASCII byte is a boundary. -/
theorem isBoundary_of_ascii {b : UInt8} (h : (bytesOf text)[n]? = some b) (hb : b.toNat < 128) :
    IsBoundary text n := by
  induction text generalizing n with
  | nil => cases h
  | cons c text ih =>
    rw [bytesOf, List.flatMap_cons] at h
    by_cases hn : n < (String.utf8EncodeChar c).length
    · rw [List.getElem?_append_left hn] at h
      rw [utf8EncodeChar_of_ascii h hb]
      exact isBoundary_append [] _
    · rw [List.getElem?_append_right (by omega)] at h
      rw [String.length_utf8EncodeChar] at h hn
      have hrest := ih h
      have hsize : n = utf8Len [c] + (n - c.utf8Size) := by
        simp only [String.utf8Len_cons, String.utf8Len_nil]
        omega
      rw [hsize]
      exact (isBoundary_append_iff (a := [c])).mpr hrest

/-! ## Parts one after the other -/

/-- The ranges of parts of a text, one after the other, each of them as `P` says. -/
inductive Separate (P : List Char → Prop) : List Char → List (ℕ × ℕ) → Prop
  | nil (text : List Char) : Separate P text []
  | snoc {a m : List Char} {ranges : List (ℕ × ℕ)} (h : Separate P a ranges) (hm : P m)
      (b : List Char) :
    Separate P (a ++ (m ++ b)) (ranges ++ [(utf8Len a, utf8Len (a ++ m))])

/-- A part of the text is replaced, as `P` says of it and of the text after it. -/
def Replaced (new : List Char) (P : List Char → List Char → Prop) (text text' : List Char) : Prop :=
  ∃ a m b, P m b ∧ text = a ++ (m ++ b) ∧ text' = a ++ new ++ b

variable {P : List Char → Prop}

theorem Separate.append {a : List Char} {ranges : List (ℕ × ℕ)} (h : Separate P a ranges)
    (b : List Char) : Separate P (a ++ b) ranges := by
  cases h with
  | nil => exact .nil _
  | @snoc a m ranges h hm c =>
    rw [List.append_assoc, List.append_assoc]
    exact h.snoc hm (c ++ b)

theorem replaceRanges?_cons (new text : List Char) (range : ℕ × ℕ) (later : List (ℕ × ℕ)) :
    replaceRanges? new text (range :: later) =
      (replaceRanges? new text later).bind fun text => replaceRange? new text range := by
  rw [replaceRanges?, List.reverse_cons, List.foldlM_append]
  exact bind_congr fun _ => List.foldlM_cons.trans (bind_pure _)

theorem replaceRanges?_snoc (new text : List Char) (ranges : List (ℕ × ℕ)) (range : ℕ × ℕ) :
    replaceRanges? new text (ranges ++ [range]) =
      (replaceRange? new text range).bind fun text => replaceRanges? new text ranges := by
  rw [replaceRanges?, List.reverse_append]
  rfl

/-- **Parts one after the other can be replaced.** -/
theorem exists_replaceRanges? (new : List Char) {ranges : List (ℕ × ℕ)}
    (h : Separate P text ranges) :
    ∃ result, replaceRanges? new text ranges = some result ∧
      Relation.ReflTransGen (Replaced new fun m _ => P m) text result := by
  -- a later part that was replaced leaves the text before it as it was
  induction ranges using List.reverseRecOn generalizing text with
  | nil => exact ⟨text, rfl, .refl⟩
  | append_singleton ranges range ih =>
    generalize hranges : ranges ++ [range] = all at h
    cases h with
    | nil => simp at hranges
    | @snoc a m _ h hm b =>
      obtain ⟨rfl, hrange⟩ := List.append_inj' hranges rfl
      cases hrange
      rw [replaceRanges?_snoc, replaceRange?_append, List.append_assoc]
      obtain ⟨result, hresult, hsteps⟩ := ih (h.append (new ++ b))
      exact ⟨result, hresult, .head ⟨a, m, b, hm, rfl, by simp⟩ hsteps⟩

end Encoding
