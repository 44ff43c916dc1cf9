import ImBridge.Domain.Text
import ImBridge.Encoding.Blanks
import Mathlib.Data.List.DropRight

/-!
# Splitting texts into messages

A text that is too long for one message is split, if possible at a blank line or at the end of a
line. Lengths are counted in UTF-16 units. Nothing comes of a split when the loop does not come to
an end, which happens when single units are asked for: half of one unit is none, so that an empty
chunk counts as long enough.

## Main definitions

* `splitText`: the chunks of a text

## Main results

* `splitText_isSome`: chunks of two units or more are found for every text
* `splitLoop_spec`: the chunks that are found are short and lose nothing but white space
* `splitLoop_one`: single units are found only where there is at most one
* `split_text_contract`: when a text is split as it should be
-/

namespace ImBridge

open Encoding

/-- The UTF-16 units of a character. -/
def utf16Len (c : Char) : ℕ := if c.toNat < 0x10000 then 1 else 2

def utf16Count (s : List Char) : ℕ := (s.map utf16Len).sum

/-- How many characters fit into so many units. -/
def fittingChars (maxLength : ℕ) : List Char → ℕ
  | [] => 0
  | c :: rest =>
    if maxLength < utf16Len c then 0 else fittingChars (maxLength - utf16Len c) rest + 1

/-- The last blank line of the text, or else the last end of a line, or else its end. -/
def breakPoint (maxLength : ℕ) (head : List Char) : ℕ :=
  let paragraph := (rfind ['\n', '\n'] head).getD 0
  if utf16Count (head.take paragraph) < maxLength / 2 then (rfind ['\n'] head).getD head.length
  else paragraph

/-- Where the rest of a text that is too long is split. -/
def splitPoint (maxLength : ℕ) (remaining : List Char) : ℕ :=
  -- a character that does not fit is a chunk of its own
  let head := remaining.take (max 1 (fittingChars maxLength remaining))
  let split := breakPoint maxLength head
  if utf16Count (head.take split) < maxLength / 2 then head.length else split

/-- The chunks of the rest of the text, if there are at most so many rounds. -/
def splitLoop (maxLength : ℕ) : ℕ → List Char → Option (List String)
  | 0, _ => none
  | rounds + 1, remaining =>
    if utf16Count remaining ≤ maxLength then
      some (if remaining = [] then [] else [String.ofList remaining])
    else
      let split := splitPoint maxLength remaining
      let chunk := remaining.take split
      let rest := (remaining.drop split).dropWhile isWhitespace
      (splitLoop maxLength rounds rest).map fun chunks =>
        if chunk.all isWhitespace then chunks
        else String.ofList (chunk.reverse.dropWhile isWhitespace).reverse :: chunks

/-- `split_text`; nothing when its loop does not come to an end. Every round but those that go on
forever takes a character, so that no loop needs more rounds than this. -/
def splitText (text : String) (maxLength : ℕ) : Option (List String) :=
  let maxLength := max maxLength 1
  if utf16Count text.toList ≤ maxLength then some [text]
  else splitLoop maxLength (text.toList.length + 1) text.toList

/-! ## The loop ends -/

variable {remaining : List Char} {maxLength : ℕ}

theorem splitPoint_pos (hmax : 2 ≤ maxLength) (hne : remaining ≠ []) :
    0 < splitPoint maxLength remaining := by
  have hhalf : 0 < maxLength / 2 := by omega
  have hlength : 0 < remaining.length := List.length_pos_iff.mpr hne
  simp only [splitPoint]
  split
  · rw [List.length_take]
    omega
  · -- a split that takes nothing takes too little
    rename_i henough
    refine Nat.pos_of_ne_zero fun hzero => henough ?_
    rw [hzero]
    simpa [utf16Count] using hhalf

theorem splitLoop_isSome (hmax : 2 ≤ maxLength) {rounds : ℕ} (hrounds : remaining.length < rounds) :
    (splitLoop maxLength rounds remaining).isSome := by
  induction rounds generalizing remaining with
  | zero => omega
  | succ rounds ih =>
    unfold splitLoop
    split
    · rfl
    · rename_i hlong
      have hne : remaining ≠ [] := by
        rintro rfl
        simp [utf16Count] at hlong
      have hpos := splitPoint_pos hmax hne
      have hlength : 0 < remaining.length := List.length_pos_iff.mpr hne
      rw [Option.isSome_map]
      refine ih (Nat.lt_of_le_of_lt (List.dropWhile_sublist _).length_le ?_)
      rw [List.length_drop]
      omega

/-- **Chunks of two units or more are found for every text.** -/
theorem splitText_isSome (hmax : 2 ≤ maxLength) (text : String) :
    (splitText text maxLength).isSome := by
  unfold splitText
  have hmax' : max maxLength 1 = maxLength := by omega
  simp only [hmax']
  split
  · rfl
  · exact splitLoop_isSome hmax (Nat.lt_succ_self _)

/-! ## What the chunks hold -/

@[simp]
theorem utf16Count_nil : utf16Count [] = 0 := rfl

@[simp]
theorem utf16Count_cons (c : Char) (s : List Char) :
    utf16Count (c :: s) = utf16Len c + utf16Count s := by
  simp [utf16Count]

theorem utf16Len_pos (c : Char) : 0 < utf16Len c := by
  unfold utf16Len
  split <;> decide

theorem utf16Len_le_two (c : Char) : utf16Len c ≤ 2 := by
  unfold utf16Len
  split <;> decide

theorem utf16Count_le_of_sublist {s t : List Char} (h : s.Sublist t) :
    utf16Count s ≤ utf16Count t := by
  induction h with
  | slnil => rfl
  | cons c _ ih =>
    rw [utf16Count_cons]
    omega
  | cons_cons c _ ih =>
    rw [utf16Count_cons, utf16Count_cons]
    omega

theorem utf16Count_take_fittingChars (maxLength : ℕ) (s : List Char) :
    utf16Count (s.take (fittingChars maxLength s)) ≤ maxLength := by
  induction s generalizing maxLength with
  | nil => simp
  | cons c s ih =>
    unfold fittingChars
    split
    · simp
    · rename_i hfits
      have hrest := ih (maxLength - utf16Len c)
      rw [List.take_succ_cons, utf16Count_cons]
      omega

/-- The part of the text in which a split is looked for is short: as many characters as fit, or a
single one. -/
theorem utf16Count_head_le (maxLength : ℕ) (remaining : List Char) :
    utf16Count (remaining.take (max 1 (fittingChars maxLength remaining))) ≤ max maxLength 2 := by
  by_cases hfits : 1 ≤ fittingChars maxLength remaining
  · rw [max_eq_right hfits]
    exact (utf16Count_take_fittingChars maxLength remaining).trans (le_max_left _ _)
  · rw [max_eq_left (by omega)]
    cases remaining with
    | nil => simp
    | cons c rest => simpa using (utf16Len_le_two c).trans (le_max_right maxLength 2)

theorem rfind_le {pattern s : List Char} {i : ℕ} (h : rfind pattern s = some i) :
    i ≤ s.length := by
  induction s generalizing i with
  | nil => simp [rfind] at h
  | cons c s ih =>
    unfold rfind at h
    split at h
    · rename_i j hj
      obtain rfl := Option.some.inj h
      simpa using ih hj
    · split at h
      · obtain rfl := Option.some.inj h
        exact Nat.zero_le _
      · simp at h

theorem breakPoint_le (maxLength : ℕ) (head : List Char) :
    breakPoint maxLength head ≤ head.length := by
  unfold breakPoint
  dsimp only
  split
  · cases hfind : rfind ['\n'] head with
    | none => simp
    | some i => simpa using rfind_le hfind
  · cases hfind : rfind ['\n', '\n'] head with
    | none => simp
    | some i => simpa using rfind_le hfind

/-- What is split off is a part of the text that is short. -/
theorem utf16Count_take_splitPoint (maxLength : ℕ) (remaining : List Char) :
    utf16Count (remaining.take (splitPoint maxLength remaining)) ≤ max maxLength 2 := by
  have hle : splitPoint maxLength remaining ≤ max 1 (fittingChars maxLength remaining) := by
    have hlength : (remaining.take (max 1 (fittingChars maxLength remaining))).length ≤
        max 1 (fittingChars maxLength remaining) := List.length_take_le _ _
    unfold splitPoint
    dsimp only
    split
    · exact hlength
    · exact (breakPoint_le _ _).trans hlength
  refine (utf16Count_le_of_sublist ?_).trans (utf16Count_head_le maxLength remaining)
  rw [← min_eq_left hle, ← List.take_take]
  exact List.take_sublist _ _

/-- The characters of a list of strings, one after the other. -/
def joinChars (chunks : List String) : List Char := chunks.flatMap String.toList

/-- A text was split into short chunks, and nothing but white space was lost. -/
structure SplitsInto (maxLength : ℕ) (text : List Char) (chunks : List String) : Prop where
  short : ∀ chunk ∈ chunks, utf16Count chunk.toList ≤ max maxLength 2
  solid : solid isWhitespace (joinChars chunks) = solid isWhitespace text

theorem SplitsInto.single {text : String} (h : utf16Count text.toList ≤ maxLength) :
    SplitsInto maxLength text.toList [text] where
  short chunk hchunk := by
    obtain rfl := List.mem_singleton.mp hchunk
    exact h.trans (le_max_left _ _)
  solid := by simp [joinChars]

variable {chunks : List String}

/-- One round: the chunk that is split off, in front of the chunks of the rest. -/
theorem SplitsInto.round {maxLength split : ℕ}
    (hshort : utf16Count (remaining.take split) ≤ max maxLength 2)
    (h : SplitsInto maxLength ((remaining.drop split).dropWhile isWhitespace) chunks) :
    SplitsInto maxLength remaining
      (if (remaining.take split).all isWhitespace then chunks
       else String.ofList ((remaining.take split).reverse.dropWhile isWhitespace).reverse ::
         chunks) := by
  have hrest : Encoding.solid isWhitespace (joinChars chunks) =
      Encoding.solid isWhitespace (remaining.drop split) := by
    rw [h.solid, solid_dropWhile]
  have htext : Encoding.solid isWhitespace remaining =
      Encoding.solid isWhitespace (remaining.take split) ++
        Encoding.solid isWhitespace (remaining.drop split) := by
    rw [← solid_append, List.take_append_drop]
  split
  · rename_i hblank
    refine ⟨h.short, ?_⟩
    rw [htext, solid_eq_nil_iff.mpr hblank, hrest, List.nil_append]
  · constructor
    · intro chunk hchunk
      rcases List.mem_cons.mp hchunk with rfl | hchunk
      · rw [String.toList_ofList]
        refine (utf16Count_le_of_sublist ?_).trans hshort
        simpa using (List.dropWhile_sublist isWhitespace
          (l := (remaining.take split).reverse)).reverse
      · exact h.short chunk hchunk
    · rw [joinChars, List.flatMap_cons, String.toList_ofList, solid_append, solid_trimEnd, htext]
      exact congrArg _ hrest

theorem splitLoop_spec {maxLength rounds : ℕ}
    (h : splitLoop maxLength rounds remaining = some chunks) :
    SplitsInto maxLength remaining chunks := by
  induction rounds generalizing remaining chunks with
  | zero => simp [splitLoop] at h
  | succ rounds ih =>
    unfold splitLoop at h
    split at h
    · rename_i hfits
      obtain rfl := Option.some.inj h
      split
      · rename_i hempty
        subst hempty
        exact ⟨by simp, rfl⟩
      · have hsingle : utf16Count (String.ofList remaining).toList ≤ maxLength := by
          simpa using hfits
        simpa using SplitsInto.single hsingle
    · obtain ⟨rest, hrest, rfl⟩ := Option.map_eq_some_iff.mp h
      exact (ih hrest).round (utf16Count_take_splitPoint maxLength remaining)

theorem splitText_spec {text : String} (hmax : 1 ≤ maxLength)
    (h : splitText text maxLength = some chunks) : SplitsInto maxLength text.toList chunks := by
  unfold splitText at h
  rw [max_eq_left hmax] at h
  dsimp only at h
  split at h
  · rename_i hfits
    obtain rfl := Option.some.inj h
    exact .single hfits
  · exact splitLoop_spec h

/-! ## Single units -/

theorem fittingChars_one_le (s : List Char) : fittingChars 1 s ≤ 1 := by
  cases s with
  | nil => simp [fittingChars]
  | cons c s =>
    unfold fittingChars
    split
    · exact Nat.zero_le _
    · have hpos := utf16Len_pos c
      have hnone : fittingChars (1 - utf16Len c) s = 0 := by
        cases s with
        | nil => rfl
        | cons d s =>
          have hd := utf16Len_pos d
          rw [fittingChars, if_pos (by omega)]
      omega

/-- A single character has no blank line in it, and half of one unit is none, so that nothing is
split off. -/
theorem splitPoint_one (remaining : List Char) : splitPoint 1 remaining = 0 := by
  have hhead : remaining.take (max 1 (fittingChars 1 remaining)) = remaining.take 1 := by
    rw [max_eq_left (fittingChars_one_le remaining)]
  have hparagraph : rfind ['\n', '\n'] (remaining.take 1) = none := by
    cases remaining with
    | nil => rfl
    | cons c rest => simp [rfind, List.isPrefixOf]
  have hbreak : breakPoint 1 (remaining.take 1) = 0 := by
    simp [breakPoint, hparagraph]
  simp [splitPoint, hhead, hbreak]

theorem splitLoop_one_succ (rounds : ℕ) (remaining : List Char) :
    splitLoop 1 (rounds + 1) remaining =
      if utf16Count remaining ≤ 1 then
        some (if remaining = [] then [] else [String.ofList remaining])
      else splitLoop 1 rounds (remaining.dropWhile isWhitespace) := by
  simp [splitLoop, splitPoint_one]

/-- **Single units are found only where there is at most one**: otherwise the loop goes on forever
with a text that it does not change. -/
theorem splitLoop_one (h : 1 < utf16Count (remaining.dropWhile isWhitespace)) (rounds : ℕ) :
    splitLoop 1 rounds remaining = none := by
  induction rounds generalizing remaining with
  | zero => rfl
  | succ rounds ih =>
    have hlong := h.trans_le (utf16Count_le_of_sublist (List.dropWhile_sublist isWhitespace))
    rw [splitLoop_one_succ, if_neg (by omega)]
    refine ih ?_
    rwa [List.dropWhile_idempotent]

theorem splitText_one_isSome_iff (text : String) :
    (splitText text 1).isSome ↔ utf16Count (text.toList.dropWhile isWhitespace) ≤ 1 := by
  have htrim := utf16Count_le_of_sublist (List.dropWhile_sublist isWhitespace (l := text.toList))
  unfold splitText
  dsimp only
  rw [max_self]
  split
  · rename_i hfits
    exact iff_of_true rfl (htrim.trans hfits)
  · rename_i hlong
    by_cases hone : utf16Count (text.toList.dropWhile isWhitespace) ≤ 1
    · refine iff_of_true ?_ hone
      cases htext : text.toList with
      | nil => simp [htext] at hlong
      | cons c rest =>
        rw [htext] at hlong hone
        rw [List.length_cons, splitLoop_one_succ, if_neg hlong, splitLoop_one_succ, if_pos hone]
        rfl
    · refine iff_of_false ?_ hone
      rw [splitLoop_one (by omega)]
      simp

/-- **When a text is split as it should be**: chunks are found, they are short, and nothing but
white space is lost, unless single units are asked for where there are more. -/
theorem split_text_contract (text : String) {maxLength : ℕ} (hmax : 1 ≤ maxLength) :
    (∃ chunks, splitText text maxLength = some chunks ∧
      (∀ chunk ∈ chunks, utf16Count chunk.toList ≤ max maxLength 2) ∧
      solid isWhitespace (joinChars chunks) = solid isWhitespace text.toList) ↔
    2 ≤ maxLength ∨ utf16Count (text.toList.dropWhile isWhitespace) ≤ 1 := by
  have hspec : (∃ chunks, splitText text maxLength = some chunks ∧
      (∀ chunk ∈ chunks, utf16Count chunk.toList ≤ max maxLength 2) ∧
      solid isWhitespace (joinChars chunks) = solid isWhitespace text.toList) ↔
      (splitText text maxLength).isSome := by
    constructor
    · rintro ⟨chunks, hchunks, -⟩
      simp [hchunks]
    · intro h
      obtain ⟨chunks, hchunks⟩ := Option.isSome_iff_exists.mp h
      have hsplits := splitText_spec hmax hchunks
      exact ⟨chunks, hchunks, hsplits.short, hsplits.solid⟩
  rw [hspec]
  by_cases htwo : 2 ≤ maxLength
  · exact iff_of_true (splitText_isSome htwo text) (.inl htwo)
  · obtain rfl : maxLength = 1 := by omega
    rw [splitText_one_isSome_iff]
    simp

theorem split_text_contract_lines : ∃ chunks, splitText "one\n\ntwo" 6 = some chunks ∧
    (∀ chunk ∈ chunks, utf16Count chunk.toList ≤ max 6 2) ∧
    solid isWhitespace (joinChars chunks) = solid isWhitespace "one\n\ntwo".toList :=
  (split_text_contract "one\n\ntwo" (by decide)).mpr (.inl (by decide))

/-- Two characters are never split into single units, however long the loop goes on. -/
theorem single_units_never_end :
    splitText "ab" 1 = none ∧ ∀ rounds, splitLoop 1 rounds ['a', 'b'] = none :=
  ⟨by decide +kernel, splitLoop_one (by decide)⟩

end ImBridge
