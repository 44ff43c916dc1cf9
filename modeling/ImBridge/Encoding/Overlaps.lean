import ImBridge.Encoding.Slices
import Mathlib.Algebra.BigOperators.Group.List.Basic
import Mathlib.Algebra.Order.Ring.Int

/-!
# Replacing parts that overlap

Several parts of a text are replaced, from the last to the first, by offsets of the text as it was.
Two parts that overlap have the same end here. Once an inner part is replaced, the end of the outer
one is an offset of a text with another length: there has to be room for it.

## Main definitions

* `Nested`: ranges of parts, of which two that overlap have the same end
* `surplus`: how much longer parts are than what replaces them
* `HasRoom`: the text without the surplus of the later parts reaches to the end of each part

## Main results

* `hasRoom_of_replaceRanges?`: parts that can be replaced have room
* `hasRoom_of_apart`: parts that do not overlap have room
* `exists_replaceRanges?_of_hasRoom`: parts that have room can be replaced, if only characters of
  one byte follow those that overlap
-/

namespace Encoding

open String (utf8Len)

/-! ## Ranges that overlap -/

/-- The ranges are those of parts of the text, in order, of which two that overlap have the same
end. -/
structure Nested (text : List Char) (ranges : List (ℕ × ℕ)) : Prop where
  part : ∀ range ∈ ranges, ∃ a m b, text = a ++ (m ++ b) ∧ range = (utf8Len a, utf8Len (a ++ m))
  ordered : ranges.Pairwise fun r r' => r.1 < r'.1 ∧ (r.2 = r'.2 ∨ r.2 ≤ r'.1)

theorem Nested.tail {text : List Char} {range : ℕ × ℕ} {later : List (ℕ × ℕ)}
    (h : Nested text (range :: later)) : Nested text later where
  part r hr := h.part r (List.mem_cons_of_mem _ hr)
  ordered := h.ordered.of_cons

theorem Nested.le {text : List Char} {ranges : List (ℕ × ℕ)} (h : Nested text ranges)
    {range : ℕ × ℕ} (hrange : range ∈ ranges) : range.2 ≤ utf8Len text := by
  obtain ⟨a, m, b, rfl, rfl⟩ := h.part range hrange
  rw [← List.append_assoc, String.utf8Len_append (a ++ m)]
  exact Nat.le_add_right _ _

/-- How much longer the parts are than what replaces them, all taken together. -/
def surplus (new : List Char) (ranges : List (ℕ × ℕ)) : ℤ :=
  (ranges.map fun range => (range.2 : ℤ) - range.1 - utf8Len new).sum

/-- The end of each part is inside the text without the surplus of the parts that start after it. -/
def HasRoom (new text : List Char) (ranges : List (ℕ × ℕ)) : Prop :=
  ∀ range ∈ ranges,
    (range.2 : ℤ) + surplus new (ranges.filter fun later => range.1 < later.1) ≤ utf8Len text

section Room

variable {new text : List Char} {range : ℕ × ℕ} {later : List (ℕ × ℕ)}

/-- There is room for the parts one by one. -/
theorem hasRoom_cons (h : Nested text (range :: later)) :
    HasRoom new text (range :: later) ↔
      (range.2 : ℤ) + surplus new later ≤ utf8Len text ∧ HasRoom new text later := by
  have hlt : ∀ r ∈ later, range.1 < r.1 := fun r hr => ((List.pairwise_cons.mp h.ordered).1 r hr).1
  have hself : (range :: later).filter (fun r => range.1 < r.1) = later := by
    rw [List.filter_cons_of_neg (by simp), List.filter_eq_self]
    simpa using hlt
  have hrest : ∀ r ∈ later, (range :: later).filter (fun r' => r.1 < r'.1) =
      later.filter fun r' => r.1 < r'.1 := by
    intro r hr
    exact List.filter_cons_of_neg (by simpa using (hlt r hr).le)
  rw [HasRoom, List.forall_mem_cons, hself]
  refine and_congr_right fun _ => forall₂_congr fun r hr => ?_
  rw [hrest r hr]

/-- Parts that do not overlap leave room from any place before them on. -/
theorem surplus_le {ranges : List (ℕ × ℕ)} (h : Nested text ranges)
    (hapart : ranges.Pairwise fun r r' => r.2 ≤ r'.1) {n : ℕ} (hn : ∀ r ∈ ranges, n ≤ r.1)
    (hle : n ≤ utf8Len text) : (n : ℤ) + surplus new ranges ≤ utf8Len text := by
  induction ranges generalizing n with
  | nil => simpa [surplus] using hle
  | cons range later ih =>
    have hrest := ih h.tail hapart.of_cons (List.pairwise_cons.mp hapart).1 (h.le (by simp))
    have hstart := hn range (by simp)
    simp only [surplus, List.map_cons, List.sum_cons] at hrest ⊢
    omega

theorem hasRoom_of_apart {ranges : List (ℕ × ℕ)} (h : Nested text ranges)
    (hapart : ranges.Pairwise fun r r' => r.2 ≤ r'.1) : HasRoom new text ranges := by
  induction ranges with
  | nil => exact nofun
  | cons range later ih =>
    refine (hasRoom_cons h).mpr ⟨?_, ih h.tail hapart.of_cons⟩
    exact surplus_le h.tail hapart.of_cons (List.pairwise_cons.mp hapart).1 (h.le (by simp))

/-! ## What is replaced -/

theorem utf8Len_of_replaceRange? {result : List Char}
    (h : replaceRange? new text range = some result) :
    range.2 ≤ utf8Len text ∧
      (utf8Len result : ℤ) = utf8Len text - ((range.2 : ℤ) - range.1 - utf8Len new) := by
  rw [replaceRange?] at h
  split_ifs at h with hle
  rw [sliceTo?, sliceFrom?] at h
  cases hstart : split? text range.1 with
  | none => simp [hstart] at h
  | some start =>
    cases hstop : split? text range.2 with
    | none => simp [hstop] at h
    | some stop =>
      simp only [hstart, hstop, Option.map_some, Option.bind_eq_bind, Option.bind_some,
        Option.pure_def, Option.some.injEq] at h
      obtain ⟨hstart, hbefore⟩ := split?_eq_some.mp hstart
      obtain ⟨hstop, hafter⟩ := split?_eq_some.mp hstop
      have htext := congrArg utf8Len hstop
      rw [String.utf8Len_append] at htext
      rw [← h]
      simp only [String.utf8Len_append]
      omega

/-- The length of the text once the parts are replaced. -/
theorem utf8Len_of_replaceRanges? {ranges : List (ℕ × ℕ)} {result : List Char}
    (h : replaceRanges? new text ranges = some result) :
    (utf8Len result : ℤ) = utf8Len text - surplus new ranges := by
  induction ranges generalizing result with
  | nil =>
    cases h
    simp [surplus]
  | cons range later ih =>
    rw [replaceRanges?_cons] at h
    obtain ⟨current, hcurrent, h⟩ := Option.bind_eq_some_iff.mp h
    rw [(utf8Len_of_replaceRange? h).2, ih hcurrent]
    simp only [surplus, List.map_cons, List.sum_cons]
    omega

/-- **Parts that can be replaced have room.** -/
theorem hasRoom_of_replaceRanges? {ranges : List (ℕ × ℕ)} (h : Nested text ranges)
    {result : List Char} (hresult : replaceRanges? new text ranges = some result) :
    HasRoom new text ranges := by
  induction ranges generalizing result with
  | nil => exact nofun
  | cons range later ih =>
    rw [replaceRanges?_cons] at hresult
    obtain ⟨current, hcurrent, hresult⟩ := Option.bind_eq_some_iff.mp hresult
    refine (hasRoom_cons h).mpr ⟨?_, ih h.tail hcurrent⟩
    have hlength := utf8Len_of_replaceRanges? hcurrent
    have hstop := (utf8Len_of_replaceRange? hresult).1
    omega

/-! ## Parts that can be replaced -/

/-- A text of characters with one byte can be cut everywhere. -/
theorem exists_split_of_single {text : List Char} (h : ∀ c ∈ text, c.utf8Size = 1) {n : ℕ}
    (hn : n ≤ utf8Len text) : ∃ a b, text = a ++ b ∧ utf8Len a = n := by
  induction text generalizing n with
  | nil => exact ⟨[], [], rfl, (Nat.le_zero.mp hn).symm⟩
  | cons c text ih =>
    cases n with
    | zero => exact ⟨[], c :: text, rfl, rfl⟩
    | succ n =>
      have hc : c.utf8Size = 1 := h c (by simp)
      have hle : n ≤ utf8Len text := by
        rw [String.utf8Len_cons] at hn
        omega
      obtain ⟨a, b, rfl, rfl⟩ := ih (fun c hc => h c (List.mem_cons_of_mem _ hc)) hle
      exact ⟨c :: a, b, rfl, by rw [String.utf8Len_cons, hc]⟩

/-- Only characters of one byte follow parts inside which others start. -/
def SingleAfter (text : List Char) (ranges : List (ℕ × ℕ)) : Prop :=
  ranges.Pairwise fun r r' => r'.1 < r.2 →
    ∀ a b, text = a ++ b → utf8Len a = r.2 → ∀ c ∈ b, c.utf8Size = 1

/-- The text once a part and all after it are replaced: it is as it was up to the part, and the
characters from there on have one byte or were after the part. -/
def Remains (text : List Char) (range : ℕ × ℕ) (current : List Char) : Prop :=
  ∃ a m b rest, text = a ++ (m ++ b) ∧ range = (utf8Len a, utf8Len (a ++ m)) ∧
    current = a ++ rest ∧ ∀ c ∈ rest, c.utf8Size = 1 ∨ c ∈ b

variable (hnew : ∀ c ∈ new, c.utf8Size = 1)
include hnew

/-- A part is replaced up to the end of which the text is as it was. -/
theorem remains_of_apart {a m b rest : List Char} (htext : text = a ++ (m ++ b))
    (hrest : ∀ c ∈ rest, c.utf8Size = 1 ∨ c ∈ b) :
    ∃ result, replaceRange? new (a ++ (m ++ rest)) (utf8Len a, utf8Len (a ++ m)) = some result ∧
      Remains text (utf8Len a, utf8Len (a ++ m)) result := by
  refine ⟨_, replaceRange?_append new a m rest, a, m, b, new ++ rest, htext, rfl, by simp, ?_⟩
  exact List.forall_mem_append.mpr ⟨fun c hc => .inl (hnew c hc), hrest⟩

/-- One part more is replaced. -/
theorem exists_replaceRange? (h : Nested text (range :: later))
    (hsingle : SingleAfter text (range :: later)) {current : List Char}
    (hroom : range.2 ≤ utf8Len current) (hnil : later = [] → current = text)
    (hremains : ∀ inner after, later = inner :: after → Remains text inner current) :
    ∃ result, replaceRange? new current range = some result ∧ Remains text range result := by
  obtain ⟨a, m, b, htext, rfl⟩ := h.part range (by simp)
  cases later with
  | nil =>
    obtain rfl := hnil rfl
    rw [htext]
    exact remains_of_apart hnew rfl fun c hc => .inr hc
  | cons inner after =>
    obtain ⟨a', m', b', rest, htext', hinner, rfl, hrest⟩ := hremains inner after rfl
    obtain ⟨hlt, horder⟩ := (List.pairwise_cons.mp h.ordered).1 inner (by simp)
    have hafter := (List.pairwise_cons.mp hsingle).1 inner (by simp)
    rw [hinner] at hlt horder hafter
    by_cases hle : utf8Len (a ++ m) ≤ utf8Len a'
    · -- the part ends before the next one starts
      have hsame := htext.symm.trans htext'
      rw [← List.append_assoc] at hsame
      obtain ⟨y, rfl, rfl⟩ := exists_between hsame hle
      rw [List.append_assoc, List.append_assoc]
      refine remains_of_apart hnew htext fun c hc => ?_
      rcases List.mem_append.mp hc with hc | hc
      · exact .inr (by simp [hc])
      · exact (hrest c hc).imp_right fun hb => by simp [hb]
    · -- the next part starts inside it and has the same end, with single bytes from there on
      have hstop := horder.resolve_right hle
      obtain ⟨x, rfl, -⟩ := exists_between (htext.symm.trans htext') hlt.le
      have hb' := hafter (by omega) (a ++ x ++ m') b' (by simp [htext']) hstop.symm
      have hall : ∀ c ∈ rest, c.utf8Size = 1 := fun c hc => (hrest c hc).elim id (hb' c)
      obtain ⟨u, v, rfl, hu⟩ := exists_split_of_single hall
        (n := utf8Len (a ++ m) - utf8Len (a ++ x)) (by
          rw [String.utf8Len_append (a ++ x)] at hroom
          omega)
      have hend : utf8Len (a ++ m) = utf8Len (a ++ (x ++ u)) := by
        rw [← List.append_assoc, String.utf8Len_append (a ++ x)]
        omega
      refine ⟨a ++ new ++ v, ?_, a, m, b, new ++ v, htext, rfl, by simp, ?_⟩
      · rw [hend, List.append_assoc a x, ← List.append_assoc x u]
        exact replaceRange?_append new a (x ++ u) v
      · intro c hc
        rcases List.mem_append.mp hc with hc | hc
        · exact .inl (hnew c hc)
        · exact .inl (hall c (by simp [hc]))

/-- **Parts that have room can be replaced**, if only characters of one byte follow those inside
which others start. -/
theorem exists_replaceRanges?_of_hasRoom {ranges : List (ℕ × ℕ)} (h : Nested text ranges)
    (hroom : HasRoom new text ranges) (hsingle : SingleAfter text ranges) :
    ∃ result, replaceRanges? new text ranges = some result := by
  -- along with what remains of the text once the first of the parts is replaced
  suffices hall : ∃ result, replaceRanges? new text ranges = some result ∧
      (ranges = [] → result = text) ∧
      ∀ range later, ranges = range :: later → Remains text range result by
    obtain ⟨result, hresult, -⟩ := hall
    exact ⟨result, hresult⟩
  induction ranges with
  | nil => exact ⟨text, rfl, fun _ => rfl, nofun⟩
  | cons range later ih =>
    obtain ⟨hstop, hlater⟩ := (hasRoom_cons h).mp hroom
    obtain ⟨current, hcurrent, hnil, hremains⟩ := ih h.tail hlater hsingle.of_cons
    have hlength := utf8Len_of_replaceRanges? hcurrent
    obtain ⟨result, hresult, hremains⟩ :=
      exists_replaceRange? hnew h hsingle (by omega) hnil hremains
    refine ⟨result, ?_, nofun, ?_⟩
    · rw [replaceRanges?_cons, hcurrent]
      exact hresult
    · rintro _ _ ⟨rfl, rfl⟩
      exact hremains

end Room

end Encoding
