import ImBridge.Domain.Text
import ImBridge.Encoding.Blanks
import Mathlib.Data.List.DropRight
import Mathlib.Data.List.SplitBy

/-!
# The texts of a chat

What a model reads and what it replies are rewritten before they are stored: line ends are unified,
lines trimmed, runs of newlines shortened, the name in front of a reply is removed and rule lines
and list markers get lines of their own. The model is on lists of characters.

## Main definitions

* `normalizeModelInputText`: the text as the model gets it
* `Normal`: the texts that are left as they are
* `normalizeAssistantReply`: a reply as it is stored
* `sanitizeCompression`: a compressed text as it is stored
* `OnlyLabels`: the compressed texts that have nothing but labels

## Main results

* `normalizeModelInputText_normal_form`: rewriting a text twice is rewriting it once
* `normalizeModelInputText_eq_self_iff`: its fixed points
* `reply_text_preserved`: only a name in front of a reply is lost
* `solid_stripSpeaker_eq_nil_iff`, `solid_sanitizeCompression_eq_nil_iff`: the texts of which
  nothing is left
-/

namespace ImBridge

open Encoding

/-- `str::replace` for a pattern `first :: more`. The number counts the characters that still belong
to the last occurrence. -/
def replaceFrom (first : Char) (more new : List Char) : ℕ → List Char → List Char
  | _, [] => []
  | k + 1, _ :: rest => replaceFrom first more new k rest
  | 0, c :: rest =>
    if c = first ∧ more <+: rest then new ++ replaceFrom first more new more.length rest
    else c :: replaceFrom first more new 0 rest

def isSpaceOrTab (c : Char) : Bool := c = ' ' || c = '\t'

def trimLineEnds (text : List Char) : List Char :=
  ['\n'].intercalate ((text.splitOn '\n').map (List.rdropWhile isSpaceOrTab))

/-- The number is the length of the run of newlines read so far. -/
def collapseNewlines : ℕ → List Char → List Char
  | _, [] => []
  | run, c :: rest =>
    if c = '\n' then
      if run + 1 ≤ 2 then c :: collapseNewlines (run + 1) rest
      else collapseNewlines (run + 1) rest
    else c :: collapseNewlines 0 rest

def normalizeModelInputText (input : List Char) : List Char :=
  let normalized := replaceFrom '\r' [] ['\n'] 0 (replaceFrom '\r' ['\n'] ['\n'] 0 input)
  trimText (collapseNewlines 0 (trimLineEnds normalized))

/-! ## The steps -/

variable {first c : Char} {more new text : List Char}

theorem solid_replaceFrom
    (hnew : solid isWhitespace new = solid isWhitespace (first :: more)) (k : ℕ) :
    solid isWhitespace (replaceFrom first more new k text) =
      solid isWhitespace (text.drop k) := by
  induction text generalizing k with
  | nil => simp [replaceFrom]
  | cons c rest ih =>
    cases k with
    | succ k => simpa [replaceFrom] using ih k
    | zero =>
      rw [replaceFrom, List.drop_zero]
      split
      case isTrue h =>
        obtain ⟨rfl, tail, rfl⟩ := h
        rw [solid_append, hnew, ih, List.drop_left, ← solid_append, List.cons_append]
      case isFalse =>
        rw [solid_cons, ih, List.drop_zero, ← solid_cons]

theorem replaceFrom_of_notMem (h : first ∉ text) : replaceFrom first more new 0 text = text := by
  induction text with
  | nil => rfl
  | cons c rest ih =>
    rw [List.mem_cons, not_or] at h
    rw [replaceFrom, if_neg (fun hhit => h.1 hhit.1.symm), ih h.2]

theorem notMem_replaceFrom (h : first ∉ new) : first ∉ replaceFrom first [] new 0 text := by
  induction text with
  | nil => simp [replaceFrom]
  | cons c rest ih =>
    rw [replaceFrom]
    split
    case isTrue => simp [h, ih]
    case isFalse hc => simpa [ih, eq_comm] using hc

theorem notMem_of_mem_splitOn {line : List Char} (h : line ∈ text.splitOn c) : c ∉ line := by
  induction text generalizing line with
  | nil => simp_all
  | cons d rest ih =>
    rw [List.splitOn_cons_eq_if_modifyHead] at h
    obtain ⟨first, lines, hlines⟩ := List.exists_cons_of_ne_nil (List.splitOn_ne_nil c rest)
    rw [hlines] at h ih
    split at h
    case isTrue =>
      rcases List.mem_cons.mp h with rfl | h
      · exact List.not_mem_nil
      · exact ih h
    case isFalse hd =>
      rcases List.mem_cons.mp h with rfl | h
      · have hfirst := ih List.mem_cons_self
        rw [List.mem_cons, not_or]
        exact ⟨fun heq => hd (by simp [heq]), hfirst⟩
      · exact ih (List.mem_cons_of_mem _ h)

theorem rdropWhile_cons (p : Char → Bool) :
    (c :: text).rdropWhile p =
      if p c ∧ text.rdropWhile p = [] then [] else c :: text.rdropWhile p := by
  rw [List.rdropWhile, List.reverse_cons, List.dropWhile_append]
  by_cases hnil : text.rdropWhile p = []
  · have htext : text.reverse.dropWhile p = [] := List.reverse_eq_nil_iff.mp hnil
    by_cases hc : p c <;> simp [hnil, htext, hc]
  · have htext : text.reverse.dropWhile p ≠ [] := fun h => hnil (List.reverse_eq_nil_iff.mpr h)
    simp [htext, List.rdropWhile]

/-- A blank is removed if a newline or the end of the text follows what is left. -/
theorem trimLineEnds_cons :
    trimLineEnds (c :: text) =
      if isSpaceOrTab c ∧ (trimLineEnds text).head?.all (· == '\n') then trimLineEnds text
      else c :: trimLineEnds text := by
  obtain ⟨line, lines, hlines⟩ := List.exists_cons_of_ne_nil (List.splitOn_ne_nil '\n' text)
  have hline : '\n' ∉ line := notMem_of_mem_splitOn (hlines ▸ List.mem_cons_self)
  rw [trimLineEnds, trimLineEnds, List.splitOn_cons_eq_if_modifyHead, hlines]
  by_cases hc : c = '\n'
  · simp [hc, isSpaceOrTab, List.intercalate_cons_cons]
  -- the newlines that follow the first line are not in it
  have hhead : (['\n'].intercalate ((line :: lines).map (List.rdropWhile isSpaceOrTab))).head?.all
      (· == '\n') ↔ line.rdropWhile isSpaceOrTab = [] := by
    cases hrest : line.rdropWhile isSpaceOrTab with
    | nil => cases lines <;> simp [hrest, List.intercalate_cons_cons]
    | cons d rest =>
      have hd : d ∈ line := (List.rdropWhile_prefix ..).subset (hrest ▸ List.mem_cons_self)
      have hne : d ≠ '\n' := fun h => hline (h ▸ hd)
      cases lines <;> simp [hrest, hne, List.intercalate_cons_cons]
  simp only [hhead]
  rw [if_neg (by simpa using hc), List.modifyHead_cons, List.map_cons, rdropWhile_cons]
  split
  case isTrue h => simp [h]
  case isFalse => cases lines <;> simp [List.intercalate_cons_cons]

theorem isWhitespace_of_isSpaceOrTab (h : isSpaceOrTab c) : isWhitespace c = true := by
  obtain rfl | rfl : c = ' ' ∨ c = '\t' := by simpa [isSpaceOrTab] using h
  all_goals rfl

theorem solid_trimLineEnds : solid isWhitespace (trimLineEnds text) = solid isWhitespace text := by
  induction text with
  | nil => rfl
  | cons c text ih =>
    rw [trimLineEnds_cons]
    split
    case isTrue h => rw [ih, solid_cons_of_blank (isWhitespace_of_isSpaceOrTab h.1)]
    case isFalse => rw [solid_cons, ih, ← solid_cons]

variable (run : ℕ)

theorem solid_collapseNewlines :
    solid isWhitespace (collapseNewlines run text) = solid isWhitespace text := by
  induction text generalizing run with
  | nil => rfl
  | cons c text ih =>
    rw [collapseNewlines]
    split_ifs with hc
    · rw [solid_cons, ih, ← solid_cons]
    · rw [ih, hc, solid_cons_of_blank rfl]
    · rw [solid_cons, ih, ← solid_cons]

/-! ## Normal texts -/

/-- **Normal texts**: no carriage return, no three newlines in a row, no line that ends in a space
or a tab, be it before a newline or at the end, and no white space at either end. -/
structure Normal (text : List Char) : Prop where
  noReturn : '\r' ∉ text
  noTriple : ¬['\n', '\n', '\n'] <:+: text
  noBlankEnd : ∀ c, isSpaceOrTab c → ¬[c, '\n'] <:+: text ∧ text.getLast? ≠ some c
  head : ∀ c ∈ text.head?, isWhitespace c = false
  last : ∀ c ∈ text.getLast?, isWhitespace c = false

theorem trimLineEnds_sublist : (trimLineEnds text).Sublist text := by
  induction text with
  | nil => exact List.Sublist.slnil
  | cons c text ih =>
    rw [trimLineEnds_cons]
    split
    · exact ih.cons c
    · exact ih.cons_cons c

theorem trimLineEnds_noBlankEnd (hc : isSpaceOrTab c) : ¬[c, '\n'] <:+: trimLineEnds text := by
  induction text with
  | nil => simp [trimLineEnds]
  | cons d text ih =>
    rw [trimLineEnds_cons]
    split
    case isTrue => exact ih
    case isFalse h =>
      rw [List.infix_cons_iff, not_or]
      refine ⟨?_, ih⟩
      rw [List.cons_prefix_cons]
      rintro ⟨rfl, tail, htail⟩
      exact h ⟨hc, by simp [← htail]⟩

theorem trimLineEnds_eq_self
    (h : ∀ c, isSpaceOrTab c → ¬[c, '\n'] <:+: text ∧ text.getLast? ≠ some c) :
    trimLineEnds text = text := by
  induction text with
  | nil => rfl
  | cons c text ih =>
    have htext : trimLineEnds text = text := by
      refine ih fun d hd => ⟨fun hin => (h d hd).1 (hin.trans (List.suffix_cons ..).isInfix), ?_⟩
      exact fun hlast => (h d hd).2 (by simp [List.getLast?_cons, hlast])
    rw [trimLineEnds_cons, htext, if_neg]
    rintro ⟨hc, hhead⟩
    cases text with
    | nil => exact (h c hc).2 rfl
    | cons d text =>
      obtain rfl : d = '\n' := by simpa using hhead
      exact (h c hc).1 ⟨[], text, rfl⟩

theorem collapseNewlines_sublist : (collapseNewlines run text).Sublist text := by
  induction text generalizing run with
  | nil => exact List.Sublist.slnil
  | cons c text ih =>
    rw [collapseNewlines]
    split_ifs
    · exact (ih _).cons_cons c
    · exact (ih _).cons c
    · exact (ih _).cons_cons c

theorem collapseNewlines_noBlankEnd (hc : isSpaceOrTab c) (h : ¬[c, '\n'] <:+: text) (run : ℕ) :
    ¬[c, '\n'] <:+: collapseNewlines run text := by
  have hne : c ≠ '\n' := by
    rintro rfl
    simp [isSpaceOrTab] at hc
  induction text generalizing run with
  | nil => simp [collapseNewlines]
  | cons d text ih =>
    rw [List.infix_cons_iff, not_or] at h
    rw [collapseNewlines]
    split_ifs with hd
    · simpa [List.infix_cons_iff, hd, hne] using ih h.2 (run + 1)
    · exact ih h.2 (run + 1)
    · rw [List.infix_cons_iff, not_or]
      refine ⟨?_, ih h.2 0⟩
      -- what follows a character that is kept starts as it did
      rw [List.cons_prefix_cons] at h ⊢
      rintro ⟨rfl, hhead⟩
      refine h.1 ⟨rfl, ?_⟩
      cases text with
      | nil => simp [collapseNewlines] at hhead
      | cons e text =>
        rw [collapseNewlines] at hhead
        split_ifs at hhead with he he'
        · simp [he]
        · omega
        · exact absurd (List.cons_prefix_cons.mp hhead).1.symm he

/-- The newlines read before count as well, at most two of them. -/
theorem collapseNewlines_noTriple :
    ¬['\n', '\n', '\n'] <:+: List.replicate (min run 2) '\n' ++ collapseNewlines run text := by
  induction text generalizing run with
  | nil =>
    intro h
    have hlength := h.length_le
    rw [collapseNewlines, List.append_nil, List.length_replicate] at hlength
    exact absurd (hlength.trans (min_le_right run 2)) (by decide)
  | cons c text ih =>
    rw [collapseNewlines]
    split_ifs with hc hrun
    · have := ih (run + 1)
      rw [min_eq_left hrun, List.replicate_succ', List.append_assoc] at this
      rwa [min_eq_left (by omega), hc]
    · have := ih (run + 1)
      rwa [min_eq_right (by omega)] at this ⊢
    · obtain h | h | h : min run 2 = 0 ∨ min run 2 = 1 ∨ min run 2 = 2 := by omega
      all_goals simpa [h, List.replicate, List.infix_cons_iff, hc, eq_comm] using ih 0

theorem collapseNewlines_eq_self (h : ¬['\n', '\n', '\n'] <:+: List.replicate run '\n' ++ text) :
    collapseNewlines run text = text := by
  induction text generalizing run with
  | nil => rfl
  | cons c text ih =>
    rw [collapseNewlines]
    split_ifs with hc hrun
    · rw [ih (run + 1)]
      rw [hc] at h
      rwa [List.replicate_succ', List.append_assoc]
    · obtain ⟨k, rfl⟩ : ∃ k, run = k + 2 := ⟨run - 2, by omega⟩
      exact absurd ⟨List.replicate k '\n', text, by simp [List.replicate_add, hc]⟩ h
    · rw [ih 0]
      exact fun hin => h (hin.trans ((List.suffix_cons ..).trans (List.suffix_append ..)).isInfix)

theorem isInfix_trimText : trimText text <:+: text :=
  (List.rdropWhile_prefix ..).isInfix.trans (List.dropWhile_suffix ..).isInfix

theorem last_rdropWhile {p : Char → Bool} (h : c ∈ (text.rdropWhile p).getLast?) : p c = false := by
  have hhead := List.head?_dropWhile_not p text.reverse
  rw [List.rdropWhile, List.getLast?_reverse, Option.mem_def] at h
  rwa [h] at hhead

theorem head_trimText (h : c ∈ (trimText text).head?) : isWhitespace c = false := by
  have hhead := List.head?_dropWhile_not isWhitespace text
  obtain ⟨tail, htail⟩ := List.rdropWhile_prefix isWhitespace (text.dropWhile isWhitespace)
  rw [trimText, Option.mem_def] at h
  rwa [← htail, List.head?_append, h, Option.some_or] at hhead

theorem normal_normalizeModelInputText : Normal (normalizeModelInputText text) where
  noReturn h := by
    have hmem := (trimLineEnds_sublist.subset
      ((collapseNewlines_sublist 0).subset (isInfix_trimText.subset h)))
    exact notMem_replaceFrom (by simp) hmem
  noTriple h := collapseNewlines_noTriple 0 (h.trans isInfix_trimText)
  noBlankEnd c hc := by
    refine ⟨fun h => collapseNewlines_noBlankEnd hc (trimLineEnds_noBlankEnd hc) 0
      (h.trans isInfix_trimText), fun h => ?_⟩
    have hspace := isWhitespace_of_isSpaceOrTab hc
    rw [last_rdropWhile h] at hspace
    cases hspace
  head _ h := head_trimText h
  last _ h := last_rdropWhile h

namespace Normal

variable (h : Normal text)
include h

theorem trimText_eq_self : trimText text = text := by
  have hdrop : text.dropWhile isWhitespace = text := by
    cases text with
    | nil => rfl
    | cons c rest => exact List.dropWhile_cons_of_neg (by simp [h.head c rfl])
  rw [trimText, hdrop, List.rdropWhile_eq_self_iff]
  intro hne
  simp [h.last _ (List.getLast?_eq_some_getLast hne)]

theorem normalizeModelInputText_eq_self : normalizeModelInputText text = text := by
  rw [normalizeModelInputText, replaceFrom_of_notMem h.noReturn, replaceFrom_of_notMem h.noReturn,
    trimLineEnds_eq_self h.noBlankEnd, collapseNewlines_eq_self 0 h.noTriple, h.trimText_eq_self]

end Normal

/-- **The normal form.** Rewriting a text a second time changes nothing, and what is rewritten is
normal. -/
theorem normalizeModelInputText_normal_form (input : List Char) :
    normalizeModelInputText (normalizeModelInputText input) = normalizeModelInputText input ∧
      Normal (normalizeModelInputText input) := by
  have h : Normal (normalizeModelInputText input) := normal_normalizeModelInputText
  exact ⟨h.normalizeModelInputText_eq_self, h⟩

/-- The texts that are left as they are are the normal ones, so every normal text is the normal form
of some text. -/
theorem normalizeModelInputText_eq_self_iff (text : List Char) :
    normalizeModelInputText text = text ↔ Normal text := by
  constructor
  · intro h
    rw [← h]
    exact normal_normalizeModelInputText
  · exact Normal.normalizeModelInputText_eq_self

/-! ## Replies -/

def shouldReformat (text : List Char) : Bool :=
  if 8 ≤ text.count '\n' then false
  else
    120 ≤ (String.ofList text).utf8ByteSize || containsText "━━━━━━" (String.ofList text) ||
      containsText "──────" (String.ofList text) || "①②③④⑤⑥⑦⑧「」『』".toList.any text.contains

/-- The name in front of a reply, with the colon that follows it. -/
def speakerPrefixes (characterName : List Char) : List (List Char) :=
  ["：", ":", " :", " ："].map (characterName ++ ·.toList)

def stripSpeaker (characterName text : List Char) : List Char :=
  match (speakerPrefixes characterName).find? (·.isPrefixOf text) with
  | some speaker => (text.drop speaker.length).dropWhile isWhitespace
  | none => text

/-- The while loop takes the text apart into its runs of equal characters. -/
def regexLiteReplace (input : List Char) : List Char :=
  let out := (input.splitBy (· == ·)).flatMap fun run =>
    if run.head?.any (fun ch => ch = '━' || ch = '─') ∧ 6 ≤ run.length then '\n' :: run ++ ['\n']
    else run
  "①②③④⑤⑥⑦⑧".toList.foldl (fun out marker => replaceFrom marker [] ['\n', marker] 0 out) out

/-- `str::lines`. The carriage return it also removes is white space that `trim` removes. -/
def textLines (text : List Char) : List (List Char) :=
  let parts := text.splitOn '\n'
  if parts.getLast? = some [] then parts.dropLast else parts

def reformat (text : List Char) : List Char :=
  trimText (replaceFrom '\n' ['\n', '\n'] ['\n', '\n'] 0
    (['\n'].intercalate ((textLines (regexLiteReplace text)).map trimText)))

def normalizeAssistantReply (characterName input : List Char) : List Char :=
  let text := normalizeModelInputText input
  if text = [] then text
  else
    let text := stripSpeaker characterName text
    if shouldReformat text then reformat text else text

theorem solid_trimText : solid isWhitespace (trimText text) = solid isWhitespace text := by
  rw [trimText, List.rdropWhile, solid_trimEnd, solid_dropWhile]

theorem solid_normalizeModelInputText :
    solid isWhitespace (normalizeModelInputText text) = solid isWhitespace text := by
  rw [normalizeModelInputText, solid_trimText, solid_collapseNewlines, solid_trimLineEnds,
    solid_replaceFrom (by rfl), List.drop_zero, solid_replaceFrom (by rfl), List.drop_zero]

theorem solid_regexLiteReplace :
    solid isWhitespace (regexLiteReplace text) = solid isWhitespace text := by
  have hmarkers (markers out : List Char) :
      solid isWhitespace (markers.foldl
        (fun out marker => replaceFrom marker [] ['\n', marker] 0 out) out) =
      solid isWhitespace out := by
    induction markers generalizing out with
    | nil => rfl
    | cons marker markers ih =>
      rw [List.foldl_cons, ih, solid_replaceFrom (solid_cons_of_blank rfl), List.drop_zero]
  rw [regexLiteReplace, hmarkers, solid_flatMap, List.flatten_splitBy]
  intro run
  split
  · rw [List.cons_append, solid_cons_of_blank rfl, solid_append, solid_cons_of_blank rfl, solid_nil,
      List.append_nil]
  · rfl

theorem solid_textLines :
    solid isWhitespace (textLines text).flatten = solid isWhitespace text := by
  have hlines : (textLines text).flatten = (text.splitOn '\n').flatten := by
    rw [textLines]
    split
    case isTrue h =>
      obtain ⟨parts, hparts⟩ := List.getLast?_eq_some_iff.mp h
      simp [hparts]
    case isFalse => rfl
  have hnewline : ['\n'].all isWhitespace = true := by decide
  rw [hlines, ← solid_intercalate hnewline, List.intercalate_splitOn]

theorem solid_reformat : solid isWhitespace (reformat text) = solid isWhitespace text := by
  rw [reformat, solid_trimText, solid_replaceFrom (by rfl), List.drop_zero, solid_intercalate rfl,
    ← List.flatMap_def, solid_flatMap fun _ => solid_trimText, solid_textLines,
    solid_regexLiteReplace]

theorem solid_normalizeAssistantReply (characterName input : List Char) :
    solid isWhitespace (normalizeAssistantReply characterName input) =
      solid isWhitespace (stripSpeaker characterName (normalizeModelInputText input)) := by
  by_cases hnil : normalizeModelInputText input = []
  · rw [normalizeAssistantReply, if_pos hnil, hnil, stripSpeaker]
    split <;> simp
  · rw [normalizeAssistantReply, if_neg hnil]
    dsimp only
    split
    · rw [solid_reformat]
    · rfl

/-- **A reply keeps its text.** What is not white space is stored in its order, except for at most
one name in front of the reply: the first characters of the text, as it stands after the line ends
have been rewritten. -/
theorem reply_text_preserved (characterName input : List Char) :
    solid isWhitespace (normalizeAssistantReply characterName input) = solid isWhitespace input ∨
      ∃ speaker ∈ speakerPrefixes characterName, speaker <+: normalizeModelInputText input ∧
        ∃ lead rest, input = lead ++ rest ∧ solid isWhitespace lead = solid isWhitespace speaker ∧
          solid isWhitespace (normalizeAssistantReply characterName input) =
            solid isWhitespace rest := by
  have hout := solid_normalizeAssistantReply characterName input
  rw [stripSpeaker] at hout
  split at hout
  case h_1 speaker hfind =>
    have hspeaker := List.mem_of_find?_eq_some hfind
    have hfront := List.find?_some hfind
    rw [List.isPrefixOf_iff_prefix] at hfront
    refine .inr ⟨speaker, hspeaker, hfront, ?_⟩
    obtain ⟨rest, hrest⟩ := hfront
    have hinput : solid isWhitespace input =
        solid isWhitespace speaker ++ solid isWhitespace rest := by
      rw [← solid_append, hrest, solid_normalizeModelInputText]
    obtain ⟨lead, rest', rfl, hlead, hrest'⟩ := List.filter_eq_append_iff.mp hinput
    refine ⟨lead, rest', rfl, hlead, ?_⟩
    rw [hout, solid_dropWhile, ← hrest, List.drop_left]
    exact hrest'.symm
  case h_2 => exact .inl (hout.trans solid_normalizeModelInputText)

/-! ## Texts of which nothing is left -/

theorem isBlank_iff (s : String) : isBlank s = true ↔ solid isWhitespace s.toList = [] :=
  solid_eq_nil_iff.symm

/-- Of the prefixes at most one stands in front of a text. -/
theorem eq_of_speakerPrefixes {characterName speaker speaker' : List Char}
    (h : speaker ∈ speakerPrefixes characterName) (h' : speaker' ∈ speakerPrefixes characterName)
    (hfront : speaker <+: speaker') : speaker = speaker' := by
  obtain ⟨colon, hcolon, rfl⟩ := List.mem_map.mp h
  obtain ⟨colon', hcolon', rfl⟩ := List.mem_map.mp h'
  rw [List.prefix_append_right_inj] at hfront
  have hone : ∀ colon ∈ ["：", ":", " :", " ："], ∀ colon' ∈ ["：", ":", " :", " ："],
      colon.toList <+: colon'.toList → colon = colon' := by decide +kernel
  rw [hone colon hcolon colon' hcolon' hfront]

/-- Nothing is left of a normal text if it is the name alone. -/
theorem solid_stripSpeaker_eq_nil_iff {characterName : List Char} (h : Normal text)
    (hne : solid isWhitespace text ≠ []) :
    solid isWhitespace (stripSpeaker characterName text) = [] ↔
      text ∈ speakerPrefixes characterName := by
  rw [stripSpeaker]
  split
  case h_1 speaker hfind =>
    have hspeaker := List.mem_of_find?_eq_some hfind
    have hfront := List.find?_some hfind
    obtain ⟨rest, rfl⟩ := List.isPrefixOf_iff_prefix.mp hfront
    rw [solid_dropWhile, List.drop_left, solid_eq_nil_iff]
    constructor
    · intro hrest
      -- a normal text does not end in white space, so there is no rest
      rcases List.eq_nil_or_concat rest with rfl | ⟨init, c, rfl⟩
      · rwa [List.append_nil]
      · have hlast := h.last c (by simp)
        simp [hlast] at hrest
    · intro hmem
      have heq := eq_of_speakerPrefixes hspeaker hmem (List.prefix_append ..)
      rw [List.self_eq_append_right.mp heq]
      rfl
  case h_2 hfind =>
    refine iff_of_false hne fun hmem => ?_
    simpa using List.find?_eq_none.mp hfind text hmem

/-! ## Compressed texts -/

def compressionLabels : List (List Char) :=
  ["【压缩版】", "压缩版：", "压缩后：", "摘要：", "Summary:", "Compressed:"].map String.toList

def stripFence (text : List Char) : List Char :=
  if "```".toList <+: text then
    let body := ((text.drop 3).dropWhile fun c => c.isAlphanum || c = '-').dropWhile (· = '\n')
    match rfind "```".toList body with
    | some stop => body.take stop
    | none => body
  else text

def stripLabel (cleaned label : List Char) : List Char :=
  if label <+: cleaned then trimText (cleaned.drop label.length) else cleaned

def sanitizeCompression (text : List Char) : List Char :=
  trimText (compressionLabels.foldl stripLabel (stripFence (trimText text)))

/-- The text has nothing but some of the labels, in their order, and white space after them. -/
def OnlyLabels : List (List Char) → List Char → Prop
  | [], text => text.all isWhitespace = true
  | label :: labels, text =>
    OnlyLabels labels text ∨ ∃ rest, text = label ++ rest ∧ OnlyLabels labels (trimText rest)

theorem OnlyLabels.front {labels : List (List Char)} (h : OnlyLabels labels text) :
    text.all isWhitespace = true ∨ ∃ label ∈ labels, label <+: text := by
  induction labels with
  | nil => exact .inl h
  | cons label labels ih =>
    rcases h with h | ⟨rest, rfl, -⟩
    · exact (ih h).imp_right fun ⟨label, hmem, hfront⟩ =>
        ⟨label, List.mem_cons_of_mem _ hmem, hfront⟩
    · exact .inr ⟨label, List.mem_cons_self, List.prefix_append ..⟩

/-- Labels of which none starts with another one are stripped for what they are. -/
theorem solid_foldl_stripLabel_eq_nil_iff {labels : List (List Char)}
    (hapart : labels.Pairwise fun label label' => ¬label <+: label' ∧ ¬label' <+: label)
    (hsolid : ∀ label ∈ labels, label.all isWhitespace = false) :
    solid isWhitespace (labels.foldl stripLabel text) = [] ↔ OnlyLabels labels text := by
  induction labels generalizing text with
  | nil => exact solid_eq_nil_iff
  | cons label labels ih =>
    obtain ⟨hlabel, hapart⟩ := List.pairwise_cons.mp hapart
    rw [List.foldl_cons, ih hapart fun l hl => hsolid l (List.mem_cons_of_mem _ hl), stripLabel]
    split
    case isTrue hfront =>
      obtain ⟨rest, rfl⟩ := hfront
      rw [List.drop_left]
      refine ⟨fun h => .inr ⟨rest, rfl, h⟩, ?_⟩
      rintro (h | ⟨rest', heq, h⟩)
      · -- a label that is not stripped here would have to start like another one
        rcases h.front with hblank | ⟨label', hmem, hfront⟩
        · rw [List.all_append, hsolid label List.mem_cons_self] at hblank
          cases hblank
        · have hor := List.prefix_or_prefix_of_prefix (List.prefix_append label rest) hfront
          exact (hor.elim (hlabel label' hmem).1 (hlabel label' hmem).2).elim
      · rwa [List.append_cancel_left heq]
    case isFalse hfront =>
      refine ⟨.inl, ?_⟩
      rintro (h | ⟨rest, rfl, -⟩)
      · exact h
      · exact absurd (List.prefix_append ..) hfront

/-- Nothing is left of a compressed text if it has nothing but labels, in a code fence or not. -/
theorem solid_sanitizeCompression_eq_nil_iff :
    solid isWhitespace (sanitizeCompression text) = [] ↔
      OnlyLabels compressionLabels (stripFence (trimText text)) := by
  rw [sanitizeCompression, solid_trimText]
  exact solid_foldl_stripLabel_eq_nil_iff (by decide +kernel) (by decide +kernel)

end ImBridge
