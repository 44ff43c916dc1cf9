import ImBridge.Bridge.RedactionRuns
import ImBridge.Encoding.Overlaps

/-!
# Paths in error texts

A path reaches from where it starts to the next white space or punctuation, whether or not another
path starts on the way. Paths are replaced from the last to the first by the offsets of the text as
it was before, so that the end of a path with another one inside it is not where it was any more.

## Main definitions

* `PathsHaveRoom`: the text reaches to the end of each path, once the paths after it are replaced
* `AsciiAfterNested`: only ASCII characters follow a path with another one inside
* `Apart`: something ends a path between any two places at which paths may start

## Main results

* `nested_paths`: the ranges of paths, of which two that overlap have the same end
* `pathsFit_of_apart`: paths that are apart have room, and none is inside another
* `apart_of_redacts`: paths that are apart stay so when credentials are replaced
* `redaction_returns`: when a detail is redacted without a panic
* `redaction_panics`: a detail with two paths at which the bridge panics
-/

namespace ImBridge

open Encoding
open String (utf8Len)

namespace Redaction

/-! ## Where paths start -/

variable {index : ℕ}

theorem mayBePath_of_startsPath {bytes : Bytes} (h : startsPath bytes index = true) :
    mayBePath (bytes.drop index) = true := by
  obtain ⟨hpath, -⟩ := Bool.and_eq_true_iff.mp h
  simp only [Bool.or_eq_true] at hpath
  simp only [mayBePath, Bool.or_eq_true]
  refine hpath.imp_left fun hpath => hpath.imp_right fun hunc => ?_
  unfold isUncPath at hunc
  split at hunc
  · rename_i server hdrop
    rw [hdrop]
    rfl
  · cases hunc

variable {text : Text}

theorem isBoundary_of_mem_pathStarts (h : index ∈ pathStarts text) :
    IsBoundary text index := by
  obtain ⟨b, hb, hpath⟩ :=
    head_of_mayBePath (mayBePath_of_startsPath (List.mem_filter.mp h).2)
  rw [List.head?_drop] at hb
  have hcases := isPathByte_cases hpath
  exact isBoundary_of_ascii hb (by omega)

theorem pairwise_pathStarts (text : Text) : (pathStarts text).Pairwise (· < ·) :=
  (List.pairwise_lt_range).filter _

/-! ## The ranges of paths -/

/-- Where the path ends that starts at the index. -/
def pathStop (text : Text) (index : ℕ) : ℕ := (pathEnd text index).getD 0

/-- The end of the path that starts after `a`. -/
theorem pathEnd_append (a b : Text) :
    pathEnd (a ++ b) (utf8Len a) = some (utf8Len (a ++ b.takeWhile fun c => !isPathEnd c)) :=
  findFrom_append isPathEnd a b

theorem pathStop_append (a b : Text) :
    pathStop (a ++ b) (utf8Len a) = utf8Len (a ++ b.takeWhile fun c => !isPathEnd c) := by
  rw [pathStop, pathEnd_append]
  rfl

theorem pathEnd_eq (h : IsBoundary text index) :
    pathEnd text index = some (pathStop text index) := by
  obtain ⟨a, b, rfl, rfl⟩ := h
  rw [pathStop_append, pathEnd_append]

/-- A path ends where one that starts inside it ends, or before the next one starts. -/
theorem pathStop_cases {index' : ℕ} (hlt : index < index')
    (hindex : IsBoundary text index) (hindex' : IsBoundary text index') :
    pathStop text index = pathStop text index' ∨ pathStop text index ≤ index' := by
  obtain ⟨a, b, rfl, rfl⟩ := hindex
  obtain ⟨a', b', htext, rfl⟩ := hindex'
  obtain ⟨x, rfl, rfl⟩ := exists_between htext hlt.le
  rw [pathStop_append, htext, pathStop_append, List.takeWhile_append]
  split_ifs with hall
  · exact .inl (by rw [List.append_assoc])
  · right
    have hle : utf8Len (x.takeWhile fun c => !isPathEnd c) ≤ utf8Len x :=
      String.utf8Len_le_of_prefix (List.takeWhile_prefix _)
    simp only [String.utf8Len_append]
    omega

/-- The paths of the text. -/
def paths (text : Text) : List (ℕ × ℕ) :=
  (pathStarts text).map fun index => (index, pathStop text index)

theorem pathRanges_eq (text : Text) : pathRanges text = some (paths text) := by
  have hmap : ∀ indices : List ℕ, (∀ index ∈ indices, index ∈ pathStarts text) →
      (indices.mapM fun index => do return (index, ← pathEnd text index)) =
        some (indices.map fun index => (index, pathStop text index)) := by
    intro indices
    induction indices with
    | nil => exact fun _ => rfl
    | cons index indices ih =>
      intro hmem
      have hend := pathEnd_eq (isBoundary_of_mem_pathStarts (hmem index (by simp)))
      have hrest := ih fun i hi => hmem i (List.mem_cons_of_mem _ hi)
      rw [List.mapM_cons, hend, hrest]
      rfl
  exact hmap _ fun _ h => h

/-- **The ranges of paths**, of which two that overlap have the same end. -/
theorem nested_paths (text : Text) : Nested text (paths text) where
  part range hrange := by
    obtain ⟨index, hindex, rfl⟩ := List.mem_map.mp hrange
    obtain ⟨a, b, rfl, rfl⟩ := isBoundary_of_mem_pathStarts hindex
    refine ⟨a, b.takeWhile fun c => !isPathEnd c, b.dropWhile fun c => !isPathEnd c, ?_, ?_⟩
    · rw [List.takeWhile_append_dropWhile]
    · rw [pathStop_append]
  ordered := by
    rw [paths, List.pairwise_map]
    refine (pairwise_pathStarts text).imp_of_mem fun hindex hindex' hlt => ⟨hlt, ?_⟩
    exact pathStop_cases hlt (isBoundary_of_mem_pathStarts hindex)
      (isBoundary_of_mem_pathStarts hindex')

/-! ## Paths that fit -/

/-- How much longer the paths that start after the index are than what replaces them. -/
def pathSurplus (text : Text) (index : ℕ) : ℤ :=
  (((pathStarts text).filter (index < ·)).map fun later =>
    (pathStop text later : ℤ) - later - utf8Len pathRedacted).sum

/-- The text without the surplus of the paths after it reaches to the end of each path. -/
def PathsHaveRoom (text : Text) : Prop :=
  ∀ index ∈ pathStarts text, (pathStop text index : ℤ) + pathSurplus text index ≤ utf8Len text

/-- Only ASCII characters follow a path inside which another one starts. -/
def AsciiAfterNested (text : Text) : Prop :=
  ∀ index ∈ pathStarts text, ∀ inner ∈ pathStarts text, index < inner →
    inner < pathStop text index →
      ∀ a b, text = a ++ b → utf8Len a = pathStop text index → ∀ c ∈ b, c.utf8Size = 1

theorem hasRoom_paths (text : Text) :
    HasRoom pathRedacted text (paths text) ↔ PathsHaveRoom text := by
  simp only [HasRoom, PathsHaveRoom, paths, surplus, pathSurplus, List.forall_mem_map,
    List.filter_map, List.map_map, Function.comp_def]

/-- Paths that are replaced have room. -/
theorem pathsHaveRoom_of_redactSensitivePaths {result : Text}
    (h : redactSensitivePaths text = some result) : PathsHaveRoom text := by
  rw [redactSensitivePaths, pathRanges_eq] at h
  exact (hasRoom_paths text).mp (hasRoom_of_replaceRanges? (nested_paths text) h)

/-- Paths that have room are replaced, if there are only ASCII characters to cut. -/
theorem exists_redactSensitivePaths (hroom : PathsHaveRoom text) (hascii : AsciiAfterNested text) :
    ∃ result, redactSensitivePaths text = some result := by
  have hnew : ∀ c ∈ pathRedacted, c.utf8Size = 1 := by
    have hall : (pathRedacted.all fun c => c.utf8Size == 1) = true := by rfl
    simpa using hall
  rw [redactSensitivePaths, pathRanges_eq]
  refine exists_replaceRanges?_of_hasRoom hnew (nested_paths text)
    ((hasRoom_paths text).mpr hroom) ?_
  rw [SingleAfter, paths, List.pairwise_map]
  exact (pairwise_pathStarts text).imp_of_mem fun hindex hinner hlt =>
    hascii _ hindex _ hinner hlt

/-! ## Paths that are apart -/

/-- A path may start between the two texts, or a token ends there. -/
def MayStart (before after : Text) : Prop :=
  mayBePath (bytesOf after) = true ∧
    (isPathBoundary (bytesOf before) (bytesOf before).length = true ∨
      ∃ start token, before = start ++ token ∧ IsToken token)

/-- Between any two places at which paths may start there is something that ends a path. -/
def Apart (text : Text) : Prop :=
  ∀ a x b, text = a ++ (x ++ b) → x ≠ [] → MayStart a (x ++ b) → MayStart (a ++ x) b →
    ∃ c ∈ x, isPathEnd c = true

theorem bytesOf_append (a b : Text) : bytesOf (a ++ b) = bytesOf a ++ bytesOf b :=
  List.flatMap_append

theorem length_bytesOf (text : Text) : (bytesOf text).length = utf8Len text := by
  induction text with
  | nil => rfl
  | cons c text ih =>
    rw [bytesOf, List.flatMap_cons, List.length_append, String.length_utf8EncodeChar,
      String.utf8Len_cons, ← ih, Nat.add_comm]
    rfl

theorem isPathBoundary_length (bytes : Bytes) :
    isPathBoundary bytes bytes.length =
      bytes.getLast?.all fun b => !isAlphanumericByte b && b ≠ 95 && !isSlash b := by
  rw [isPathBoundary, List.getLast?_eq_getElem?]
  cases bytes with
  | nil => rfl
  | cons b bytes => simp

/-- Paths start where they may. -/
theorem mayStart_of_mem_pathStarts {a b : Text} (h : utf8Len a ∈ pathStarts (a ++ b)) :
    MayStart a b := by
  have hstart := (List.mem_filter.mp h).2
  have hpath := mayBePath_of_startsPath hstart
  have hboundary := (Bool.and_eq_true_iff.mp hstart).2
  rw [← length_bytesOf, bytesOf_append] at hpath hboundary
  rw [List.drop_left] at hpath
  refine ⟨hpath, .inl ?_⟩
  rw [isPathBoundary] at hboundary ⊢
  rcases Nat.eq_zero_or_pos (bytesOf a).length with hzero | hpos
  · simp [hzero]
  · rwa [List.getElem?_append_left (by omega)] at hboundary

/-- **Paths that are apart fit.** -/
theorem pathsFit_of_apart (h : Apart text) : PathsHaveRoom text ∧ AsciiAfterNested text := by
  have hstop : ∀ index ∈ pathStarts text, ∀ inner ∈ pathStarts text, index < inner →
      pathStop text index ≤ inner := by
    intro index hindex inner hinner hlt
    obtain ⟨a, b, htext, rfl⟩ := isBoundary_of_mem_pathStarts hindex
    obtain ⟨a', b', htext', rfl⟩ := isBoundary_of_mem_pathStarts hinner
    obtain ⟨x, rfl, rfl⟩ := exists_between (htext.symm.trans htext') hlt.le
    obtain ⟨c, hc, hend⟩ := h a x b' htext (by rintro rfl; simp at hlt)
      (mayStart_of_mem_pathStarts (htext ▸ hindex)) (mayStart_of_mem_pathStarts (htext' ▸ hinner))
    rw [htext, pathStop_append, List.takeWhile_append, if_neg]
    · have hle : utf8Len (x.takeWhile fun c => !isPathEnd c) ≤ utf8Len x :=
        String.utf8Len_le_of_prefix (List.takeWhile_prefix _)
      simp only [String.utf8Len_append]
      omega
    · intro hlength
      have hall := List.takeWhile_eq_self_iff.mp
        ((List.takeWhile_prefix _).eq_of_length hlength) c hc
      simp [hend] at hall
  refine ⟨(hasRoom_paths text).mp (hasRoom_of_apart (nested_paths text) ?_), ?_⟩
  · rw [paths, List.pairwise_map]
    exact (pairwise_pathStarts text).imp_of_mem fun hindex hinner hlt => hstop _ hindex _ hinner hlt
  · intro index hindex inner hinner hlt hinside
    exact absurd (hstop index hindex inner hinner hlt) (by omega)

/-! ## Credentials that are replaced -/

theorem isDrivePath_iff {rest : Bytes} :
    isDrivePath rest = true ↔ ∃ drive slash tail, rest = drive :: 58 :: slash :: tail ∧
      isAlphabeticByte drive = true ∧ isSlash slash = true := by
  constructor
  · intro h
    unfold isDrivePath at h
    split at h
    · exact ⟨_, _, _, rfl, Bool.and_eq_true_iff.mp h⟩
    · cases h
  · rintro ⟨drive, slash, tail, rfl, hdrive, hslash⟩
    exact Bool.and_eq_true_iff.mpr ⟨hdrive, hslash⟩

/-- The byte is in no start of a path. -/
def NoPathByte (y : UInt8) : Prop := (isAlphabeticByte y || isSlash y || y = 58) = false

theorem prefix_of_notMem {p z w : Bytes} {y : UInt8} (h : p <+: z ++ y :: w) (hy : y ∉ p) :
    p <+: z := by
  rcases List.prefix_or_prefix_of_prefix h (List.prefix_append z (y :: w)) with hp | ⟨t, rfl⟩
  · exact hp
  · have ht := (List.prefix_append_right_inj z).mp h
    cases t with
    | nil => simp
    | cons b t =>
      obtain ⟨rfl, -⟩ := List.cons_prefix_cons.mp ht
      simp at hy

/-- The start of a path ends before a byte that is in none. -/
theorem mayBePath_of_noPathByte {z w : Bytes} {y : UInt8} (h : mayBePath (z ++ y :: w) = true)
    (hy : NoPathByte y) (w' : Bytes) : mayBePath (z ++ w') = true := by
  simp only [NoPathByte, Bool.or_eq_false_iff, decide_eq_false_iff_not] at hy
  obtain ⟨⟨halpha, hslash⟩, hcolon⟩ := hy
  have hpre : ∀ p : Bytes, (∀ b ∈ p, (isAlphabeticByte b || isSlash b) = true) →
      p.isPrefixOf (z ++ y :: w) = true → p.isPrefixOf (z ++ w') = true := by
    intro p hp hpz
    have hz := prefix_of_notMem (List.isPrefixOf_iff_prefix.mp hpz) fun hmem => by
      have hbyte := hp y hmem
      rw [halpha, hslash] at hbyte
      cases hbyte
    exact List.isPrefixOf_iff_prefix.mpr (hz.trans (List.prefix_append z w'))
  simp only [mayBePath, Bool.or_eq_true] at h ⊢
  rcases h with (hdrive | hunc) | hunix
  · refine .inl (.inl ?_)
    obtain ⟨drive, slash, tail, heq, hletter, hslash'⟩ := isDrivePath_iff.mp hdrive
    rcases z with _ | ⟨d, _ | ⟨colon, _ | ⟨s, z⟩⟩⟩
    · obtain ⟨rfl, -⟩ := List.cons.inj heq
      rw [halpha] at hletter
      cases hletter
    · exact absurd (List.cons.inj (List.cons.inj heq).2).1 hcolon
    · obtain ⟨rfl, -⟩ := List.cons.inj (List.cons.inj (List.cons.inj heq).2).2
      rw [hslash] at hslash'
      cases hslash'
    · simp only [List.cons_append, List.cons.injEq] at heq
      obtain ⟨rfl, rfl, rfl, -⟩ := heq
      exact isDrivePath_iff.mpr ⟨d, s, z ++ w', rfl, hletter, hslash'⟩
  · exact .inl (.inr (hpre _ (by decide +kernel) hunc))
  · obtain ⟨root, hroot, hstart⟩ := List.any_eq_true.mp hunix
    have hroots : ∀ root ∈ unixRoots, ∀ b ∈ bytesOf root.toList,
        (isAlphabeticByte b || isSlash b) = true := by decide +kernel
    exact .inr (List.any_eq_true.mpr ⟨root, hroot, hpre _ (hroots root hroot) hstart⟩)

/-- No path starts in what replaces a credential. -/
theorem not_mayBePath_redacted {r r' : Text} (h : redacted = r ++ r') (hr' : r' ≠ []) (b : Text) :
    mayBePath (bytesOf (r' ++ b)) = false := by
  have hlast : ∀ k < 10, redacted.drop k = (redacted.drop k).dropLast ++ [']'] ∧
      mayBePath (bytesOf (redacted.drop k).dropLast) = false := by decide +kernel
  have hdrop : redacted.drop r.length = r' := by rw [h, List.drop_left]
  have hlength : r.length < 10 := by
    have hsize := congrArg List.length h
    have hpos := List.length_pos_of_ne_nil hr'
    have hten : redacted.length = 10 := rfl
    rw [List.length_append, hten] at hsize
    omega
  obtain ⟨hsplit, hpath⟩ := hlast r.length hlength
  rw [hdrop] at hsplit hpath
  by_contra hmay
  rw [Bool.not_eq_false, hsplit, List.append_assoc, bytesOf_append] at hmay
  have hstart := mayBePath_of_noPathByte (y := 93) hmay rfl []
  rw [List.append_nil, hpath] at hstart
  cases hstart

/-- After what replaces a credential, paths start where they did before. -/
theorem MayStart.of_redacted {a m z b : Text} (h : MayStart (a ++ redacted ++ z) b)
    (hharmless : Harmless m (z ++ b)) : MayStart (a ++ m ++ z) b := by
  obtain ⟨hpath, hbefore⟩ := h
  refine ⟨hpath, ?_⟩
  by_cases hz : z = []
  · subst hz
    exact .inr ⟨a, m, by simp, hharmless hpath⟩
  · rcases hbefore with hboundary | ⟨start, token, hsplit, htoken⟩
    · left
      have hne : bytesOf z ≠ [] := by
        intro hnil
        have hsize := length_bytesOf z
        rw [hnil] at hsize
        exact hz (String.utf8Len_eq_zero.mp hsize.symm)
      rw [isPathBoundary_length, bytesOf_append, List.getLast?_append_of_ne_nil _ hne]
        at hboundary ⊢
      exact hboundary
    · -- the token is in the text after what replaces the credential
      rcases List.append_eq_append_iff.mp hsplit with ⟨t, -, rfl⟩ | ⟨t, hstart, rfl⟩
      · exact .inr ⟨a ++ m ++ t, token, by simp, htoken⟩
      · have hmem : t = [] := by
          by_contra hne
          have hlast : t.getLast? = some ']' := by
            have hall := congrArg List.getLast? hstart
            rw [List.getLast?_append_of_ne_nil _ hne,
              List.getLast?_append_of_ne_nil _ (by decide)] at hall
            exact hall.symm
          have hchar := htoken.chars ']' (by simp [List.mem_of_getLast? hlast])
          cases hchar
        subst hmem
        exact .inr ⟨a ++ m, z, rfl, htoken⟩

/-- Paths that are apart stay so when a credential is replaced. -/
theorem Apart.replaced {text' : Text} (h : Apart text)
    (hstep : Replaced redacted Harmless text text') : Apart text' := by
  obtain ⟨a, m, b, hharmless, rfl, rfl⟩ := hstep
  intro p x q hsplit hx hfirst hsecond
  rw [← List.append_assoc, List.append_assoc a] at hsplit
  -- the second path starts after the replacement, and the first one after it or before its end
  have hafter : ∀ y, p ++ x = a ++ redacted ++ y → b = y ++ q → ∃ c ∈ x, isPathEnd c = true := by
    rintro y hpx rfl
    have hboth : ∀ z, p = a ++ redacted ++ z → y = z ++ x → ∃ c ∈ x, isPathEnd c = true := by
      rintro z rfl rfl
      have hharmless' : Harmless m (z ++ (x ++ q)) := by simpa using hharmless
      refine h (a ++ m ++ z) x q (by simp) hx (hfirst.of_redacted hharmless') ?_
      rw [List.append_assoc] at hsecond ⊢
      exact hsecond.of_redacted hharmless
    rcases List.append_eq_append_iff.mp hpx with ⟨z, hz, rfl⟩ | ⟨z, hp, hy⟩
    · by_cases hnil : z = []
      · subst hnil
        exact hboth [] (by simpa using hz.symm) (by simp)
      · have hlast : z.getLast? = some ']' := by
          have hall := congrArg List.getLast? hz
          rw [List.getLast?_append_of_ne_nil _ hnil,
            List.getLast?_append_of_ne_nil _ (by decide)] at hall
          exact hall.symm
        exact ⟨']', by simp [List.mem_of_getLast? hlast], rfl⟩
    · exact hboth z hp hy
  rcases List.append_eq_append_iff.mp hsplit with ⟨y, hpx, hrest⟩ | ⟨y, rfl, rfl⟩
  · rcases List.append_eq_append_iff.mp hrest with ⟨y', rfl, rfl⟩ | ⟨r, hr, rfl⟩
    · exact hafter y' (by rw [hpx, List.append_assoc]) rfl
    · by_cases hnil : r = []
      · subst hnil
        rw [List.append_nil] at hr
        exact hafter [] (by rw [hpx, ← hr, List.append_nil]) rfl
      · -- no path starts in the replacement
        have hpath := hsecond.1
        rw [not_mayBePath_redacted hr hnil] at hpath
        cases hpath
  · -- both start before the replacement
    have hbefore : ∀ z : Text, mayBePath (bytesOf (z ++ (redacted ++ b))) = true →
        mayBePath (bytesOf (z ++ (m ++ b))) = true := by
      intro z hpath
      rw [bytesOf_append] at hpath ⊢
      exact mayBePath_of_noPathByte (y := 91) hpath rfl _
    refine h p x (y ++ (m ++ b)) (by simp) hx ⟨?_, hfirst.2⟩ ⟨hbefore y hsecond.1, hsecond.2⟩
    have hpath := hfirst.1
    rw [← List.append_assoc] at hpath ⊢
    exact hbefore (x ++ y) hpath

theorem apart_of_redacts {result : Text} (hsteps : Redacts text result) (h : Apart text) :
    Apart result := by
  induction hsteps with
  | refl => exact h
  | tail _ hstep ih => exact ih.replaced hstep

end Redaction

open Redaction

/-- **When a detail is redacted.** Blank details are not shown. For others the passes for
credentials return, and that for paths returns only if there is room for the paths in the text that
is left, and whenever there is, if no character of several bytes follows nested paths. Details in
which paths are apart are always redacted. -/
theorem redaction_returns (input : String) :
    ∃ text, redactCredentials input.toList = some text ∧
      (AsciiAfterNested text → ((∃ detail, redactDetail input = some detail) ↔
        isBlank input = true ∨ PathsHaveRoom text)) ∧
      ((∃ detail, redactDetail input = some detail) → isBlank input = true ∨ PathsHaveRoom text) ∧
      (Apart input.toList → ∃ detail, redactDetail input = some detail) := by
  obtain ⟨text, htext, hsteps⟩ := exists_redactCredentials input.toList
  have henough : AsciiAfterNested text → isBlank input = true ∨ PathsHaveRoom text →
      ∃ detail, redactDetail input = some detail := by
    intro hascii h
    rw [redactDetail]
    split_ifs with hblank
    · exact ⟨none, rfl⟩
    · obtain ⟨result, hresult⟩ := exists_redactSensitivePaths (h.resolve_left hblank) hascii
      rw [htext, Option.bind_eq_bind, Option.bind_some, hresult]
      exact ⟨_, rfl⟩
  have hneeded : (∃ detail, redactDetail input = some detail) →
      isBlank input = true ∨ PathsHaveRoom text := by
    rintro ⟨detail, hdetail⟩
    rw [redactDetail] at hdetail
    split_ifs at hdetail with hblank
    · exact .inl hblank
    · rw [htext, Option.bind_eq_bind, Option.bind_some] at hdetail
      obtain ⟨result, hresult, -⟩ := Option.bind_eq_some_iff.mp hdetail
      exact .inr (pathsHaveRoom_of_redactSensitivePaths hresult)
  refine ⟨text, htext, fun hascii => ⟨hneeded, henough hascii⟩, hneeded, fun h => ?_⟩
  obtain ⟨hroom, hascii⟩ := pathsFit_of_apart (apart_of_redacts hsteps h)
  exact henough hascii (.inr hroom)

/-- **A path inside another one**: the second path is longer than its replacement, and the end of
the first one is past the end of the text then. -/
theorem redaction_panics : redactDetail "/srv/a:/home/user/application.db" = none := by
  decide +kernel

end ImBridge
