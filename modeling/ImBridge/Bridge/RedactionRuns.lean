import ImBridge.Bridge.Redaction

/-!
# Passes of the redaction that return

The passes that replace credentials and tokens return on every text: all their offsets are
boundaries, and each round of their loops leaves less of the text to be searched. What they replace
is followed by a character that no path starts with, or is a token.

## Main definitions

* `mayBePath`: how the text of a path starts
* `Redacts`: some parts of a text are replaced, of which each is a token or is not followed by a
  path

## Main results

* `exists_redactKeyValue`, `exists_redactUrlUserinfo`, `exists_redactTokenLike`: each pass returns
* `exists_redactCredentials`: so do they one after the other
-/

namespace ImBridge

open Encoding
open String (utf8Len)

namespace Redaction

/-! ## Parts that are replaced -/

/-- A path starts like this: with a drive, with two backslashes or with one of the roots. -/
def mayBePath (rest : Bytes) : Bool :=
  isDrivePath rest || [92, 92].isPrefixOf rest || isUnixPath rest

/-- A run of characters that is long enough for a token. -/
structure IsToken (part : Text) : Prop where
  long : 32 ≤ utf8Len part
  chars : ∀ c ∈ part, isTokenChar c = true

/-- The part is a token, unless no path starts after it. -/
def Harmless (part after : Text) : Prop := mayBePath (bytesOf after) = true → IsToken part

/-- Parts of the text are replaced one by one. -/
def Redacts : Text → Text → Prop := Relation.ReflTransGen (Replaced redacted Harmless)

theorem head_of_mayBePath {rest : Bytes} (h : mayBePath rest = true) :
    ∃ b, rest.head? = some b ∧ (isAlphabeticByte b || isSlash b) = true := by
  simp only [mayBePath, Bool.or_eq_true] at h
  rcases h with (hdrive | hunc) | hunix
  · unfold isDrivePath at hdrive
    split at hdrive
    · rename_i drive slash rest
      exact ⟨drive, rfl, by simp [(Bool.and_eq_true_iff.mp hdrive).1]⟩
    · cases hdrive
  · obtain ⟨server, rfl⟩ := List.isPrefixOf_iff_prefix.mp hunc
    exact ⟨92, rfl, rfl⟩
  · -- all roots start with a slash
    have hroots : ∀ root ∈ unixRoots, ∃ rest, bytesOf root.toList = 47 :: rest := by
      intro root hroot
      simp only [unixRoots, List.mem_cons, List.not_mem_nil, or_false] at hroot
      rcases hroot with rfl | rfl | rfl | rfl | rfl | rfl | rfl | rfl <;> exact ⟨_, rfl⟩
    obtain ⟨root, hroot, hprefixed⟩ := List.any_eq_true.mp hunix
    obtain ⟨start, hstart⟩ := hroots root hroot
    obtain ⟨tail, rfl⟩ := List.isPrefixOf_iff_prefix.mp hprefixed
    exact ⟨47, by rw [hstart]; rfl, rfl⟩

theorem isPathByte_cases {b : UInt8} (h : (isAlphabeticByte b || isSlash b) = true) :
    (65 ≤ b.toNat ∧ b.toNat ≤ 90) ∨ (97 ≤ b.toNat ∧ b.toNat ≤ 122) ∨ b.toNat = 47 ∨
      b.toNat = 92 := by
  simpa only [isAlphabeticByte, isSlash, Bool.or_eq_true, Bool.and_eq_true, decide_eq_true_eq,
    UInt8.le_iff_toNat_le, ← UInt8.toNat_inj, UInt8.reduceToNat, or_assoc] using h

/-- The first character of a path is a letter or a slash. -/
theorem toNat_of_mayBePath {c : Char} {text : Text} (h : mayBePath (bytesOf (c :: text)) = true) :
    (65 ≤ c.toNat ∧ c.toNat ≤ 90) ∨ (97 ≤ c.toNat ∧ c.toNat ≤ 122) ∨ c.toNat = 47 ∨
      c.toNat = 92 := by
  obtain ⟨b, hb, hpath⟩ := head_of_mayBePath h
  have hcases := isPathByte_cases hpath
  have hmem : b ∈ String.utf8EncodeChar c := by
    rw [bytesOf, List.flatMap_cons, List.head?_append_of_ne_nil] at hb
    · exact List.mem_of_head? hb
    · exact List.ne_nil_of_length_pos (by rw [String.length_utf8EncodeChar]; exact c.utf8Size_pos)
  have hascii : c.val.toNat ≤ 127 := by
    by_contra hlt
    have hle := le_of_mem_utf8EncodeChar (by omega) hmem
    omega
  rw [String.utf8EncodeChar, if_pos hascii, List.mem_singleton] at hmem
  have hb : b.toNat = c.toNat := by
    rw [hmem, UInt8.toNat_ofNat', Nat.mod_eq_of_lt (by omega)]
    rfl
  rwa [hb] at hcases

/-- The text is at its end, or goes on with a character that ends a path. -/
def Ended (text : Text) : Prop := ∀ c ∈ text.head?, isPathEnd c = true

/-- No path starts with a character that ends one. -/
theorem mayBePath_of_ended {text : Text} (h : Ended text) : mayBePath (bytesOf text) = false := by
  by_contra hpath
  rw [Bool.not_eq_false] at hpath
  cases text with
  | nil => cases hpath
  | cons c text =>
    have hpath := toNat_of_mayBePath hpath
    have hend := h c rfl
    simp only [isPathEnd, isWhitespace, Bool.or_eq_true, Bool.and_eq_true, decide_eq_true_eq,
      List.contains_eq_mem, List.mem_cons, List.not_mem_nil, or_false] at hend
    rcases hend with hspace | hend
    · omega
    · rcases hend with rfl | rfl | rfl | rfl | rfl | rfl | rfl | rfl | rfl <;> simp at hpath

theorem harmless_of_ended (part : Text) {after : Text} (h : Ended after) : Harmless part after := by
  intro hpath
  rw [mayBePath_of_ended h] at hpath
  cases hpath

theorem ended_dropWhile {p : Char → Bool} (hp : ∀ c, p c = true → isPathEnd c = true)
    (text : Text) :
    Ended (text.dropWhile fun c => !p c) := by
  intro c hc
  have hnot := List.head?_dropWhile_not (fun c => !p c) text
  rw [Option.mem_def.mp hc] at hnot
  exact hp c (by simpa using hnot)

theorem isPathEnd_of_isValueEnd {c : Char} (h : isValueEnd c = true) : isPathEnd c = true := by
  simp only [isValueEnd, isPathEnd, Bool.or_eq_true, List.contains_eq_mem, decide_eq_true_eq,
    List.mem_cons, List.not_mem_nil, or_false] at h ⊢
  tauto

/-! ## Characters of one byte -/

theorem utf8Size_asciiLowercase (c : Char) : (asciiLowercase c).utf8Size = c.utf8Size := by
  unfold asciiLowercase
  split
  · rename_i h
    have hle : c.toNat ≤ 90 := h.2
    have hlower : ∀ n < 91, (Char.ofNat (n + 32)).utf8Size = 1 := by decide
    rw [hlower c.toNat (by omega), utf8Size_eq_one (by omega)]
  · rfl

theorem utf8Len_map_asciiLowercase (text : Text) :
    utf8Len (text.map asciiLowercase) = utf8Len text := by
  induction text with
  | nil => rfl
  | cons c text ih => simp [utf8Size_asciiLowercase, ih]

theorem utf8Size_of_isQuote {c : Char} (h : isQuote c = true) : c.utf8Size = 1 := by
  rcases (by simpa [isQuote] using h : c = '"' ∨ c = '\'') with rfl | rfl <;> rfl

theorem utf8Size_of_isValueEnd {c : Char} (h : isValueEnd c = true)
    (hspace : isWhitespace c = false) :
    c.utf8Size = 1 := by
  simp only [isValueEnd, hspace, Bool.false_or, List.contains_eq_mem, decide_eq_true_eq] at h
  simp only [List.mem_cons, List.not_mem_nil, or_false] at h
  rcases h with rfl | rfl | rfl | rfl | rfl | rfl | rfl | rfl <;> rfl

/-! ## Offsets of values -/

theorem findFrom_append (p : Char → Bool) (a b : Text) :
    findFrom p (a ++ b) (utf8Len a) = some (utf8Len (a ++ b.takeWhile fun c => !p c)) := by
  rw [findFrom, sliceFrom?_append, String.utf8Len_append a (List.takeWhile _ _),
    ← offsetOf?_startsWithChar, String.utf8Len_append, Option.bind_eq_bind, Option.bind_some]
  cases offsetOf? (startsWithChar p) b with
  | none => rfl
  | some relative => rfl

variable (a b : Text)

theorem skipWhitespace_append :
    ∃ m c, b = m ++ c ∧ skipWhitespace (a ++ b) (utf8Len a) = some (utf8Len (a ++ m)) ∧
      c.head?.all (fun x => !isWhitespace x) = true := by
  refine ⟨b.takeWhile isWhitespace, b.dropWhile isWhitespace, ?_, ?_, ?_⟩
  · exact List.takeWhile_append_dropWhile.symm
  · rw [skipWhitespace, sliceFrom?_append, String.utf8Len_append]
    rfl
  · have h := List.head?_dropWhile_not isWhitespace b
    cases hhead : (b.dropWhile isWhitespace).head? with
    | none => rfl
    | some x => simpa [hhead] using h

theorem skipQuote_append :
    (∃ quote c, b = quote :: c ∧ isQuote quote = true ∧
      skipQuote (a ++ b) (utf8Len a) = some (utf8Len (a ++ [quote]), some quote)) ∨
    skipQuote (a ++ b) (utf8Len a) = some (utf8Len a, none) := by
  rw [skipQuote, sliceFrom?_append]
  cases b with
  | nil => exact .inr rfl
  | cons quote c =>
    by_cases hquote : isQuote quote = true
    · refine .inl ⟨quote, c, rfl, hquote, ?_⟩
      simp [Option.filter, hquote]
    · exact .inr (by simp [Option.filter, hquote])

theorem scanUnquotedEnd_append :
    scanUnquotedEnd (a ++ b) (utf8Len a) =
      some (utf8Len (a ++ b.takeWhile fun c => !isValueEnd c)) := by
  rw [scanUnquotedEnd, sliceFrom?_append, String.utf8Len_append]
  rfl

theorem scanLineEnd_append :
    scanLineEnd (a ++ b) (utf8Len a) =
      some (utf8Len (a ++ b.takeWhile fun c => !(c = '\r' || c = '\n' : Bool))) :=
  findFrom_append _ a b

variable {text : Text}

theorem exists_of_closingQuote {quote : Char} {escaped : Bool} {n : ℕ}
    (h : closingQuote quote escaped text = some n) :
    ∃ m c, text = m ++ quote :: c ∧ utf8Len m = n := by
  induction text generalizing escaped n with
  | nil => cases h
  | cons x text ih =>
    -- the quote is found in the rest of the text, or is the first character
    have hlater : ∀ escaped, (closingQuote quote escaped text).map (x.utf8Size + ·) = some n →
        ∃ m c, x :: text = m ++ quote :: c ∧ utf8Len m = n := by
      intro escaped h
      obtain ⟨k, hk, rfl⟩ := Option.map_eq_some_iff.mp h
      obtain ⟨m, c, rfl, rfl⟩ := ih hk
      exact ⟨x :: m, c, rfl, by simp [Nat.add_comm]⟩
    rw [closingQuote] at h
    split_ifs at h with hescaped hback hquote
    · exact hlater _ h
    · exact hlater _ h
    · cases h
      exact ⟨[], text, by rw [hquote]; rfl, rfl⟩
    · exact hlater _ h

theorem scanQuotedEnd_append (quote : Char) :
    ∃ m c, b = m ++ c ∧ scanQuotedEnd (a ++ b) (utf8Len a) quote = some (utf8Len (a ++ m)) ∧
      c.head?.all (· = quote) = true := by
  rw [scanQuotedEnd, sliceFrom?_append]
  simp only [Option.bind_eq_bind, Option.bind_some]
  cases hquote : closingQuote quote false b with
  | none => exact ⟨b, [], by simp, rfl, rfl⟩
  | some n =>
    obtain ⟨m, c, rfl, rfl⟩ := exists_of_closingQuote hquote
    exact ⟨m, quote :: c, rfl, congrArg some (String.utf8Len_append a m).symm, by simp⟩

theorem skipKeyQuote_append :
    ∃ m c, b = m ++ c ∧ skipKeyQuote (a ++ b) (utf8Len a) = some (utf8Len (a ++ m)) := by
  rw [skipKeyQuote]
  rcases skipQuote_append a b with ⟨quote, c, rfl, -, hquote⟩ | hnone
  · obtain ⟨m, d, rfl, hskip, -⟩ := skipWhitespace_append (a ++ [quote]) c
    refine ⟨quote :: m, d, rfl, ?_⟩
    rw [hquote, List.append_cons a quote (m ++ d), List.append_cons a quote m]
    exact hskip
  · rw [hnone]
    exact ⟨[], b, rfl, by rw [List.append_nil]; rfl⟩

/-- A value that is not quoted does not start with white space. -/
theorem locateValueStart_append :
    locateValueStart (a ++ b) (utf8Len a) = some none ∨
    ∃ m c quote, b = m ++ c ∧
      locateValueStart (a ++ b) (utf8Len a) = some (some (utf8Len (a ++ m), quote)) ∧
      (∀ x, quote = some x → isQuote x = true) ∧
      (quote = none → c.head?.all (fun x => !isWhitespace x) = true) := by
  obtain ⟨m₁, c₁, rfl, hspace, -⟩ := skipWhitespace_append a b
  rw [locateValueStart, hspace, ← List.append_assoc]
  obtain ⟨m₂, c₂, rfl, hquote⟩ := skipKeyQuote_append (a ++ m₁) c₁
  simp only [Option.bind_eq_bind, Option.bind_some]
  rw [hquote, ← List.append_assoc, Option.bind_some, sliceFrom?_append, Option.bind_some]
  cases c₂ with
  | nil => exact .inl rfl
  | cons delimiter c₃ =>
    simp only [List.head?_cons]
    split_ifs with hdelimiter
    · -- the delimiter is followed by white space, and by a quote if the value is quoted
      have hsize : utf8Len (a ++ m₁ ++ m₂) + delimiter.utf8Size =
          utf8Len (a ++ m₁ ++ m₂ ++ [delimiter]) := by
        rw [String.utf8Len_append _ [delimiter]]
        simp
      rw [hsize, List.append_cons]
      obtain ⟨m₃, c₄, rfl, hvalue, hhead⟩ :=
        skipWhitespace_append (a ++ m₁ ++ m₂ ++ [delimiter]) c₃
      rw [hvalue, ← List.append_assoc, Option.bind_some]
      rcases skipQuote_append (a ++ m₁ ++ m₂ ++ [delimiter] ++ m₃) c₄ with
        ⟨quote, c, rfl, hisQuote, h⟩ | h
      · refine .inr ⟨m₁ ++ (m₂ ++ (delimiter :: (m₃ ++ [quote]))), c, some quote, by simp, ?_,
        ?_, ?_⟩
        · rw [h]
          simp
        · intro x hx
          cases hx
          exact hisQuote
        · intro hx
          cases hx
      · refine .inr ⟨m₁ ++ (m₂ ++ (delimiter :: m₃)), c₄, none, by simp, ?_, ?_, fun _ => hhead⟩
        · rw [h]
          simp
        · intro x hx
          cases hx
    · exact .inl rfl

theorem authorizationValueEnd_append (a m b : Text) :
    ∃ m' c, b = m' ++ c ∧
      authorizationValueEnd (a ++ (m ++ b)) (utf8Len a) (utf8Len (a ++ m)) =
        some (utf8Len (a ++ (m ++ m'))) ∧ (m' = [] ∨ Ended c) := by
  rw [authorizationValueEnd, slice?_append]
  simp only [Option.bind_eq_bind, Option.bind_some]
  split_ifs with hscheme
  · exact ⟨[], b, rfl, by rw [List.append_nil]; rfl, .inl rfl⟩
  · rw [← List.append_assoc]
    obtain ⟨m₁, c₁, rfl, hspace, -⟩ := skipWhitespace_append (a ++ m) b
    rw [hspace, ← List.append_assoc, Option.bind_some, scanUnquotedEnd_append, Option.bind_some]
    split_ifs with hlt
    · refine ⟨m₁ ++ c₁.takeWhile fun c => !isValueEnd c, c₁.dropWhile fun c => !isValueEnd c,
      ?_, ?_, .inr (ended_dropWhile (fun c => isPathEnd_of_isValueEnd) c₁)⟩
      · rw [List.append_assoc, List.takeWhile_append_dropWhile]
      · simp
    · exact ⟨[], m₁ ++ c₁, rfl, by simp, .inl rfl⟩

/-- The first character of the text has one byte. -/
def StartsSingle (text : Text) : Prop := ∀ x ∈ text.head?, x.utf8Size = 1

/-- What ends a value has one byte, unless it is white space. -/
theorem startsSingle_dropWhile {p : Char → Bool} {b : Text}
    (hp : ∀ x, isWhitespace x = false → p x = true → x.utf8Size = 1)
    (hspace : b.head?.all (fun x => !isWhitespace x) = true)
    (htake : (b.takeWhile fun c => !p c) = []) : StartsSingle (b.dropWhile fun c => !p c) := by
  cases b with
  | nil => exact nofun
  | cons x b =>
    have hx : p x = true := by
      by_contra hx
      rw [List.takeWhile_cons_of_pos (by simpa using hx)] at htake
      cases htake
    rw [List.dropWhile_cons_of_neg (by simpa using hx)]
    intro y hy
    cases hy
    exact hp x (by simpa using hspace) hx

/-- A value is followed by what ends a path, and a place at which there is no value by a character
of one byte. -/
theorem scanValueEnd_append (key : String) (a b : Text) {quote : Option Char}
    (hquote : ∀ x, quote = some x → isQuote x = true)
    (hspace : quote = none → b.head?.all (fun x => !isWhitespace x) = true) :
    ∃ m c, b = m ++ c ∧ scanValueEnd (a ++ b) key (utf8Len a) quote = some (utf8Len (a ++ m)) ∧
      Ended c ∧ (m = [] → StartsSingle c) := by
  cases quote with
  | some quote =>
    obtain ⟨m, c, rfl, hend, hhead⟩ := scanQuotedEnd_append a b quote
    have hx : ∀ x ∈ c.head?, isQuote x = true := by
      intro x hx
      have hx' : x = quote := by simpa [Option.mem_def.mp hx] using hhead
      exact hx' ▸ hquote quote rfl
    refine ⟨m, c, rfl, hend, fun x hmem => ?_, fun _ x hmem => utf8Size_of_isQuote (hx x hmem)⟩
    rcases (by simpa [isQuote] using hx x hmem : x = '"' ∨ x = '\'') with rfl | rfl <;> rfl
  | none =>
    have hsplit : ∀ p : Char → Bool, b = b.takeWhile p ++ b.dropWhile p := fun p =>
      List.takeWhile_append_dropWhile.symm
    have hended : Ended (b.dropWhile fun c => !isValueEnd c) :=
      ended_dropWhile (fun c => isPathEnd_of_isValueEnd) b
    have hvalue : (b.takeWhile fun c => !isValueEnd c) = [] →
        StartsSingle (b.dropWhile fun c => !isValueEnd c) :=
      startsSingle_dropWhile (fun x hx hend => utf8Size_of_isValueEnd hend hx) (hspace rfl)
    rw [scanValueEnd]
    split_ifs with hcookie hauthorization
    · refine ⟨_, _, hsplit _, scanLineEnd_append a b, ended_dropWhile (fun x hx => ?_) b,
        startsSingle_dropWhile (fun x _ hx => ?_) (hspace rfl)⟩
      all_goals rcases (by simpa using hx : x = '\r' ∨ x = '\n') with rfl | rfl <;> rfl
    · rw [scanUnquotedEnd_append, Option.bind_eq_bind, Option.bind_some]
      obtain ⟨m, c, hdrop, hend, hrest⟩ := authorizationValueEnd_append a
        (b.takeWhile fun c => !isValueEnd c) (b.dropWhile fun c => !isValueEnd c)
      rw [← hsplit] at hend
      refine ⟨(b.takeWhile fun c => !isValueEnd c) ++ m, c, ?_, hend, ?_, fun hnil => ?_⟩
      · rw [List.append_assoc, ← hdrop]
        exact hsplit _
      · refine hrest.elim (fun hm => ?_) id
        rw [hm, List.nil_append] at hdrop
        exact hdrop ▸ hended
      · -- without a scheme there are no credentials after it
        obtain ⟨htake, rfl⟩ := List.append_eq_nil_iff.mp hnil
        rw [List.nil_append] at hdrop
        rw [← hdrop]
        exact hvalue htake
    · rw [scanUnquotedEnd_append, Option.bind_eq_bind, Option.bind_some]
      exact ⟨_, _, hsplit _, rfl, hended, hvalue⟩

/-! ## Values of sensitive keys -/

theorem isKeyBoundary_append (a k b : Text) :
    ∃ result, isKeyBoundary (a ++ (k ++ b)) (utf8Len a) (utf8Len (a ++ k)) = some result := by
  have hfrom : sliceFrom? (a ++ (k ++ b)) (utf8Len (a ++ k)) = some b := by
    rw [← List.append_assoc]
    exact sliceFrom?_append (a ++ k) b
  rw [isKeyBoundary, sliceTo?_append, hfrom]
  exact ⟨_, rfl⟩

variable {key : String}

theorem exists_of_findCaseInsensitive {n : ℕ} (h : findCaseInsensitive text key = some n) :
    ∃ a k b, text = a ++ (k ++ b) ∧ utf8Len a = n ∧ utf8Len k = utf8Len key.toList := by
  obtain ⟨a', rest', htext, hsize, hstart⟩ := exists_of_offsetOf? h
  obtain ⟨a, rest, rfl, rfl, rfl⟩ := List.map_eq_append_iff.mp htext
  obtain ⟨b', hb'⟩ := List.isPrefixOf_iff_prefix.mp hstart
  obtain ⟨k, b, rfl, hk, -⟩ := List.map_eq_append_iff.mp hb'.symm
  refine ⟨a, k, b, rfl, ?_, ?_⟩
  · rw [← hsize, utf8Len_map_asciiLowercase]
  · rw [← utf8Len_map_asciiLowercase, hk, utf8Len_map_asciiLowercase]

/-- The search goes on at a boundary with less of the text left, or past the end. -/
theorem redactValue_append (key : String) (a b : Text) :
    ∃ a' b' n, redactValue (a ++ b) key (utf8Len a) = some (a' ++ b', n) ∧
      Redacts (a ++ b) (a' ++ b') ∧ utf8Len b' ≤ utf8Len b ∧
      (n = utf8Len a' ∨ utf8Len (a' ++ b') ≤ n) := by
  rw [redactValue]
  rcases locateValueStart_append a b with hnone | ⟨m, c, quote, rfl, hsome, hquote, hspace⟩
  · rw [hnone]
    exact ⟨a, b, _, rfl, .refl, le_rfl, .inl rfl⟩
  · rw [hsome, ← List.append_assoc]
    simp only [Option.bind_eq_bind, Option.bind_some]
    obtain ⟨v, d, rfl, hend, hended, hsingle⟩ := scanValueEnd_append key (a ++ m) c hquote hspace
    rw [hend, Option.bind_some]
    split_ifs with hle
    · -- there is no value, and the character after its place has one byte
      have hv : v = [] := by
        rw [String.utf8Len_append (a ++ m)] at hle
        exact String.utf8Len_eq_zero.mp (by omega)
      subst hv
      cases d with
      | nil => exact ⟨a ++ m, [], _, rfl, .refl, Nat.zero_le _, .inr (by simp)⟩
      | cons x d =>
        have hx := hsingle rfl x rfl
        refine ⟨a ++ m ++ [x], d, utf8Len (a ++ m) + 1, by simp, by simpa using .refl, ?_, .inl ?_⟩
        · simp only [String.utf8Len_append, List.nil_append, String.utf8Len_cons]
          omega
        · rw [String.utf8Len_append (a ++ m), String.utf8Len_cons, hx]
          rfl
    · rw [replaceRange?_append]
      refine ⟨a ++ m ++ redacted, d, _, rfl, ?_, ?_, .inl (String.utf8Len_append _ _).symm⟩
      · exact .single ⟨a ++ m, v, d, harmless_of_ended v hended, rfl, rfl⟩
      · simp only [String.utf8Len_append]
        omega

variable {rounds : ℕ}

theorem redactKeyValueFrom_of_le (key : String) {offset : ℕ} (h : utf8Len text ≤ offset) :
    redactKeyValueFrom key (rounds + 1) text offset = some text := by
  rw [redactKeyValueFrom, if_neg (by omega)]
  rfl

/-- With a round for each byte that is left to be searched, the loop returns. -/
theorem exists_redactKeyValueFrom (hkey : 0 < utf8Len key.toList) {a b : Text}
    (hrounds : utf8Len b < rounds) :
    ∃ text, redactKeyValueFrom key rounds (a ++ b) (utf8Len a) = some text ∧
      Redacts (a ++ b) text := by
  induction rounds generalizing a b with
  | zero => omega
  | succ rounds ih =>
    by_cases hoffset : utf8Len a < utf8Len (a ++ b)
    · rw [redactKeyValueFrom, if_pos hoffset, sliceFrom?_append, Option.bind_eq_bind,
        Option.bind_some]
      cases hfind : findCaseInsensitive b key with
      | none => exact ⟨_, rfl, .refl⟩
      | some n =>
        obtain ⟨x, k, z, rfl, rfl, hk⟩ := exists_of_findCaseInsensitive hfind
        obtain ⟨result, hresult⟩ := isKeyBoundary_append (a ++ x) k z
        have hleft : utf8Len z < rounds := by
          simp only [String.utf8Len_append] at hrounds
          omega
        have hstart : utf8Len a + utf8Len x = utf8Len (a ++ x) := (String.utf8Len_append a x).symm
        have hend : utf8Len (a ++ x) + utf8Len key.toList = utf8Len (a ++ x ++ k) := by
          rw [String.utf8Len_append (a ++ x), hk]
        rw [← List.append_assoc]
        simp only [hstart, hend, hresult, Option.bind_eq_bind, Option.bind_some]
        rw [← List.append_assoc]
        cases result with
        | false => exact ih hleft
        | true =>
          obtain ⟨a', b', n, hvalue, hsteps, hle, hn⟩ := redactValue_append key (a ++ x ++ k) z
          rw [if_pos rfl, hvalue, Option.bind_some]
          rcases hn with rfl | hn
          · obtain ⟨text, htext, hrest⟩ := ih (a := a') (b := b') (by omega)
            exact ⟨text, htext, hsteps.trans hrest⟩
          · obtain ⟨rest, rfl⟩ := Nat.exists_eq_succ_of_ne_zero (by omega : rounds ≠ 0)
            exact ⟨_, redactKeyValueFrom_of_le key hn, hsteps⟩
    · exact ⟨_, redactKeyValueFrom_of_le key (by omega), .refl⟩

/-- **Replacing the values of a key returns.** -/
theorem exists_redactKeyValue (hkey : 0 < utf8Len key.toList) (text : Text) :
    ∃ result, redactKeyValue text key = some result ∧ Redacts text result :=
  exists_redactKeyValueFrom (a := []) hkey (Nat.lt_succ_self _)

/-! ## Credentials in URLs -/

theorem redactAuthority_append :
    ∃ a' b', redactAuthority (a ++ b) (utf8Len a) = some (a' ++ b', utf8Len a') ∧
      Redacts (a ++ b) (a' ++ b') ∧ utf8Len b' ≤ utf8Len b := by
  -- the authority, and what is after it
  obtain ⟨m, c, rfl, hend⟩ : ∃ m c, b = m ++ c ∧
      findFrom isAuthorityEnd (a ++ b) (utf8Len a) = some (utf8Len (a ++ m)) :=
    ⟨_, _, List.takeWhile_append_dropWhile.symm, findFrom_append _ a b⟩
  have hnext : ∃ a' b', some (a ++ (m ++ c), utf8Len (a ++ m)) = some (a' ++ b', utf8Len a') ∧
      Redacts (a ++ (m ++ c)) (a' ++ b') ∧ utf8Len b' ≤ utf8Len (m ++ c) :=
    ⟨a ++ m, c, by simp, by simpa using .refl, by simp⟩
  rw [redactAuthority, hend, Option.bind_eq_bind, Option.bind_some, slice?_append,
    Option.bind_eq_bind, Option.bind_some]
  cases hat : offsetOf? (startsWithChar (· = '@')) m with
  | none => exact hnext
  | some n =>
    obtain ⟨u, v, rfl, rfl, hstart⟩ := exists_of_offsetOf? hat
    dsimp only
    split_ifs with hlt
    · cases v with
      | nil => cases hstart
      | cons x v =>
        have hx : x = '@' := by simpa [startsWithChar] using hstart
        subst hx
        refine ⟨a ++ redacted ++ ['@'], v ++ c, ?_, ?_, ?_⟩
        · rw [← String.utf8Len_append, List.append_assoc u, replaceRange?_append,
            String.utf8Len_append (a ++ redacted), String.utf8Len_append]
          simp
          rfl
        · refine .single ⟨a, u, '@' :: (v ++ c), fun hpath => ?_, by simp, by simp⟩
          have hat := toNat_of_mayBePath hpath
          simp at hat
        · simp only [String.utf8Len_append, String.utf8Len_cons]
          omega
    · exact hnext

theorem exists_redactUrlUserinfoFrom {a b : Text} (hrounds : utf8Len b < rounds) :
    ∃ text, redactUrlUserinfoFrom rounds (a ++ b) (utf8Len a) = some text ∧
      Redacts (a ++ b) text := by
  induction rounds generalizing a b with
  | zero => omega
  | succ rounds ih =>
    rw [redactUrlUserinfoFrom, sliceFrom?_append, Option.bind_eq_bind, Option.bind_some]
    split_ifs with hoffset
    · cases hfind : offsetOf? ("://".toList.isPrefixOf ·) b with
      | none => exact ⟨_, rfl, .refl⟩
      | some n =>
        obtain ⟨x, rest, rfl, rfl, hstart⟩ := exists_of_offsetOf? hfind
        obtain ⟨z, rfl⟩ := List.isPrefixOf_iff_prefix.mp hstart
        have hscheme : utf8Len "://".toList = 3 := rfl
        have hauthority : utf8Len a + utf8Len x + 3 = utf8Len (a ++ x ++ "://".toList) := by
          rw [String.utf8Len_append (a ++ x), String.utf8Len_append, hscheme]
        obtain ⟨a', b', hnext, hsteps, hle⟩ := redactAuthority_append (a ++ x ++ "://".toList) z
        simp only [hauthority]
        rw [← List.append_assoc, ← List.append_assoc, hnext, Option.bind_eq_bind,
          Option.bind_some]
        obtain ⟨text, htext, hrest⟩ := ih (a := a') (b := b') (by
          simp only [String.utf8Len_append, hscheme] at hrounds
          omega)
        exact ⟨text, htext, hsteps.trans hrest⟩
    · exact ⟨_, rfl, .refl⟩

/-- **Replacing the credentials in URLs returns.** -/
theorem exists_redactUrlUserinfo (text : Text) :
    ∃ result, redactUrlUserinfo text = some result ∧ Redacts text result :=
  exists_redactUrlUserinfoFrom (a := []) (Nat.lt_succ_self _)

/-! ## Tokens -/

/-- The tokens found in the text so far are one after the other, before the one that goes on. -/
def TokenScan.Fits (scan : TokenScan) (text : Text) : Prop :=
  ∃ a m, text = a ++ m ∧ Separate IsToken a scan.ranges ∧
    ∀ start ∈ scan.tokenStart, start = utf8Len a ∧ ∀ c ∈ m, isTokenChar c = true

variable {scan : TokenScan} {text : Text} (h : scan.Fits text)
include h

/-- A character that is in no token ends the one that goes on. -/
theorem TokenScan.Fits.separate {c : Char} (hc : isTokenChar c = false) :
    Separate IsToken text (scan.next (utf8Len text) c).ranges := by
  obtain ⟨a, m, rfl, hranges, hstart⟩ := h
  rw [next, if_neg (by simp [hc])]
  cases htoken : scan.tokenStart with
  | none => exact hranges.append m
  | some start =>
    obtain ⟨rfl, hchars⟩ := hstart start htoken
    dsimp only
    split_ifs with hlong
    · have htoken : IsToken m := ⟨by simpa using hlong.1, hchars⟩
      simpa using hranges.snoc htoken []
    · exact hranges.append m

theorem TokenScan.Fits.next (c : Char) :
    (scan.next (utf8Len text) c).Fits (text ++ [c]) := by
  cases hc : isTokenChar c with
  | false =>
    refine ⟨text ++ [c], [], by simp, (h.separate hc).append [c], ?_⟩
    rw [TokenScan.next, if_neg (by simp [hc])]
    cases htoken : scan.tokenStart with
    | none => simp [htoken]
    | some start => exact nofun
  | true =>
    obtain ⟨a, m, rfl, hranges, hstart⟩ := h
    rw [TokenScan.next, if_pos hc]
    cases htoken : scan.tokenStart with
    | none =>
      refine ⟨a ++ m, [c], rfl, hranges.append m, fun start hs => ⟨(Option.some.inj hs).symm, ?_⟩⟩
      simpa using hc
    | some start =>
      obtain ⟨rfl, hchars⟩ := hstart start htoken
      refine ⟨a, m ++ [c], by simp, hranges, fun start hs => ⟨?_, ?_⟩⟩
      · exact (Option.some.inj hs).symm
      · simpa [or_imp, forall_and, hc] using hchars

omit h

theorem separate_scanTokens {scan : TokenScan} {a : Text} (h : scan.Fits a) (b : Text) :
    Separate IsToken (a ++ b) (scanTokens scan (utf8Len a) b).ranges := by
  induction b generalizing scan a with
  | nil =>
    rw [scanTokens, List.append_nil]
    exact h.separate rfl
  | cons c b ih =>
    have hsize : utf8Len a + c.utf8Size = utf8Len (a ++ [c]) := by simp
    rw [scanTokens, hsize, List.append_cons]
    exact ih (h.next c)

/-- **Replacing tokens returns.** -/
theorem exists_redactTokenLike (text : Text) :
    ∃ result, redactTokenLike text = some result ∧ Redacts text result := by
  have hfits : ({} : TokenScan).Fits [] := ⟨[], [], rfl, .nil _, nofun⟩
  obtain ⟨result, hresult, hsteps⟩ :=
    exists_replaceRanges? redacted (separate_scanTokens hfits text)
  refine ⟨result, hresult, Relation.ReflTransGen.mono ?_ _ _ hsteps⟩
  rintro _ _ ⟨a, m, b, htoken, rfl, rfl⟩
  exact ⟨a, m, b, fun _ => htoken, rfl, rfl⟩

end Redaction

open Redaction

theorem exists_foldlM_redactKeyValue {keys : List String}
    (hkeys : ∀ key ∈ keys, 0 < utf8Len key.toList) (text : Text) :
    ∃ result, keys.foldlM redactKeyValue text = some result ∧ Redacts text result := by
  induction keys generalizing text with
  | nil => exact ⟨text, rfl, .refl⟩
  | cons key keys ih =>
    obtain ⟨next, hnext, hsteps⟩ := exists_redactKeyValue (hkeys key (by simp)) text
    obtain ⟨result, hresult, hrest⟩ :=
      ih (fun key hkey => hkeys key (List.mem_cons_of_mem _ hkey)) next
    rw [List.foldlM_cons, hnext]
    exact ⟨result, hresult, hsteps.trans hrest⟩

/-- **The passes before that for paths return.** -/
theorem exists_redactCredentials (input : Text) :
    ∃ text, redactCredentials input = some text ∧ Redacts input text := by
  have hkeys : ∀ key ∈ sensitiveKeys, 0 < utf8Len key.toList := by decide
  obtain ⟨keyless, hkeyless, hkeys⟩ := exists_foldlM_redactKeyValue hkeys input
  obtain ⟨userless, huserless, husers⟩ := exists_redactUrlUserinfo keyless
  obtain ⟨text, htext, htokens⟩ := exists_redactTokenLike userless
  rw [redactCredentials, hkeyless, Option.bind_eq_bind, Option.bind_some, huserless]
  exact ⟨text, htext, (hkeys.trans husers).trans htokens⟩

end ImBridge
