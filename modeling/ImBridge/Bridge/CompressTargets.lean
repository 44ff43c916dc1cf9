import ImBridge.Bridge.LastTurn

/-!
# The targets of a compression

The replies that are compressed are those with enough messages after them. The boundary is found
from the end of the chat, and the replies before it are taken from its start. Once they are
compressed there is nothing left to compress: a reply that is compressed is marked, and it cannot
make others older than they are.

## Main definitions

* `counts`: the messages that are counted from the end of the chat
* `isTarget`: the replies that can be compressed
* `Patched`: a chat after patches of its lines

## Main results

* `all_keepFrom_iff`: a message is before the boundary if enough messages come after it
* `mem_compressTargets`: the targets
* `compress_targets_contract`: what the targets are, and that no target is left
-/

namespace ImBridge

open Encoding

namespace StOps

variable {chat chat' : List Json}

/-- The messages that are counted: those that are shown and not of the system. -/
def counts (item : Json) : Bool := !isSystem item && visibleText item ≠ ""

/-- The replies that can be compressed. -/
def isTarget (item : Json) : Bool :=
  isReply item && isVisible item && !isDigest item && !isCompressed item

/-! ## The boundary -/

theorem length_filter_zipIdx (chat : List Json) (n : ℕ) :
    (((chat.zipIdx n).reverse.filter fun entry => counts entry.1).length) = chat.countP counts := by
  rw [← List.countP_eq_length_filter, List.countP_reverse, ← List.zipIdx_map_fst n chat,
    List.countP_map, List.zipIdx_map_fst]
  rfl

theorem lt_of_mem_zipIdx {n : ℕ} {entry : Json × ℕ}
    (h : entry ∈ ((chat.zipIdx n).reverse.filter fun entry => counts entry.1)) :
    n ≤ entry.2 ∧ entry.2 < n + chat.length := by
  have hmem := List.mem_reverse.mp (List.mem_filter.mp h).1
  exact ⟨List.le_snd_of_mem_zipIdx hmem, List.snd_lt_add_of_mem_zipIdx hmem⟩

variable {item : Json}

/-- **A message is before the boundary if enough messages come after it.** -/
theorem all_keepFrom_iff {before after : List Json} (hchat : chat = before ++ item :: after)
    (hitem : counts item = true) :
    (keepFrom chat).all (before.length < ·) = true ↔ compressKeepRecent ≤ after.countP counts := by
  have hcount := length_filter_zipIdx after (before.length + 1)
  have hlater : ∀ entry ∈ ((after.zipIdx (before.length + 1)).reverse.filter fun entry =>
      counts entry.1), before.length < entry.2 := fun entry hentry => (lt_of_mem_zipIdx hentry).1
  have hearlier : ∀ entry ∈ (before.zipIdx.reverse.filter fun entry => counts entry.1),
      entry.2 < before.length := fun entry hentry => by
    simpa using (lt_of_mem_zipIdx hentry).2
  have hzip : chat.zipIdx.reverse.filter (fun entry => counts entry.1) =
      (((after.zipIdx (before.length + 1)).reverse.filter fun entry => counts entry.1) ++
        (item, before.length) :: (before.zipIdx.reverse.filter fun entry => counts entry.1)) := by
    rw [hchat, List.zipIdx_append]
    simp [hitem]
  have hkeep : keepFrom chat = (((chat.zipIdx.reverse.filter fun entry =>
      counts entry.1).take compressKeepRecent).getLast?).map Prod.snd := rfl
  rw [hkeep, hzip, ← hcount]
  generalize ((after.zipIdx (before.length + 1)).reverse.filter fun entry => counts entry.1) = later
    at hlater
  generalize (before.zipIdx.reverse.filter fun entry => counts entry.1) = earlier at hearlier
  by_cases henough : compressKeepRecent ≤ later.length
  · -- the boundary is one of the later messages
    refine iff_of_true ?_ henough
    rw [List.take_append_of_le_length henough]
    cases hlast : (later.take compressKeepRecent).getLast? with
    | none => rfl
    | some entry =>
      have hmem := (List.take_sublist _ _).subset (List.mem_of_getLast? hlast)
      simpa using hlater entry hmem
  · -- the boundary is the message itself or one before it
    refine iff_of_false ?_ henough
    obtain ⟨k, hk⟩ : ∃ k, compressKeepRecent - later.length = k + 1 :=
      ⟨compressKeepRecent - later.length - 1, by omega⟩
    rw [List.take_append, List.take_of_length_le (by omega), hk, List.take_succ_cons,
      List.getLast?_append_cons]
    cases hlast : ((item, before.length) :: earlier.take k).getLast? with
    | none => simp at hlast
    | some entry =>
      have hle : entry.2 ≤ before.length := by
        rcases List.mem_cons.mp (List.mem_of_getLast? hlast) with rfl | hmem
        · exact Nat.le_refl _
        · exact (hearlier entry ((List.take_sublist _ _).subset hmem)).le
      simpa using hle

/-! ## The targets -/

theorem counts_of_isTarget (h : isTarget item = true) : counts item = true := by
  simp only [isTarget, isReply, isVisible, Bool.and_eq_true] at h
  simp only [counts, Bool.and_eq_true]
  exact ⟨h.1.1.1.1, h.1.1.2⟩

/-- The lines of the chat that are compressed, with their indexes. -/
def targetLines (chat : List Json) : List (Json × ℕ) :=
  chat.zipIdx.filter fun entry =>
    1 ≤ entry.2 && (keepFrom chat).all (entry.2 < ·) && !isUser entry.1 && !isSystem entry.1 &&
      visibleText entry.1 ≠ "" && !isDigest entry.1 && !isCompressed entry.1

theorem mem_targetLines {i : ℕ} :
    (item, i) ∈ targetLines chat ↔ chat[i]? = some item ∧ 1 ≤ i ∧ isTarget item = true ∧
      compressKeepRecent ≤ (chat.drop (i + 1)).countP counts := by
  rw [targetLines, List.mem_filter, List.mem_zipIdx_iff_getElem?]
  refine and_congr_right fun (hitem : chat[i]? = some item) => ?_
  -- the test splits into the place of the line and what the line is
  have hsplit : (decide (1 ≤ i) && (keepFrom chat).all (i < ·) && !isUser item && !isSystem item &&
      visibleText item ≠ "" && !isDigest item && !isCompressed item) = true ↔
      1 ≤ i ∧ isTarget item = true ∧ (keepFrom chat).all (i < ·) = true := by
    simp only [isTarget, isReply, isVisible, Bool.and_eq_true, decide_eq_true_eq]
    constructor
    · rintro ⟨⟨⟨⟨⟨⟨hpos, hkeep⟩, huser⟩, hsystem⟩, htext⟩, hdigest⟩, hmarked⟩
      exact ⟨hpos, ⟨⟨⟨⟨hsystem, huser⟩, htext⟩, hdigest⟩, hmarked⟩, hkeep⟩
    · rintro ⟨hpos, ⟨⟨⟨⟨hsystem, huser⟩, htext⟩, hdigest⟩, hmarked⟩, hkeep⟩
      exact ⟨⟨⟨⟨⟨⟨hpos, hkeep⟩, huser⟩, hsystem⟩, htext⟩, hdigest⟩, hmarked⟩
  rw [hsplit]
  refine and_congr_right fun _ => and_congr_right fun htarget => ?_
  obtain ⟨hlt, hget⟩ := List.getElem?_eq_some_iff.mp hitem
  have hchat : chat = chat.take i ++ item :: chat.drop (i + 1) := by
    rw [← hget, List.cons_getElem_drop_succ, List.take_append_drop]
  have hboundary := all_keepFrom_iff hchat (counts_of_isTarget htarget)
  rwa [List.length_take_of_le hlt.le] at hboundary

variable (lib : Primitives)

theorem compressTargets_eq :
    compressTargets lib chat = (targetLines chat).map fun entry =>
      (entry.2 % 2 ^ 32, messageSha256 lib entry.1, visibleText entry.1) := rfl

theorem index_lt_of_mem_targetLines {entry : Json × ℕ} (h : entry ∈ targetLines chat) :
    entry.2 < chat.length :=
  (List.getElem?_eq_some_iff.mp (mem_targetLines.mp h).1).1

/-- The targets come in the order of the chat. -/
theorem pairwise_compressTargets (hsize : chat.length < 2 ^ 32) :
    (compressTargets lib chat).Pairwise fun first second => first.1 < second.1 := by
  have hindexes : chat.zipIdx.Pairwise fun first second => first.2 < second.2 := by
    rw [← List.pairwise_map (f := Prod.snd) (R := (· < ·)), List.zipIdx_map_snd]
    exact List.pairwise_lt_range'
  rw [compressTargets_eq, List.pairwise_map]
  refine (hindexes.sublist List.filter_sublist).imp_of_mem fun hfirst hsecond h => ?_
  have hfirst := (index_lt_of_mem_targetLines hfirst).trans hsize
  have hsecond := (index_lt_of_mem_targetLines hsecond).trans hsize
  rwa [Nat.mod_eq_of_lt hfirst, Nat.mod_eq_of_lt hsecond]

/-! ## Compressing -/

/-- The lines have been patched as told: the text, and what is shown and marked in its place. The
lines without a patch are unchanged. -/
structure Patched (patches : List StMessagePatch) (chat chat' : List Json) : Prop where
  length_eq : chat'.length = chat.length
  unchanged : ∀ i : ℕ, (∀ patch ∈ patches, patch.index ≠ i) → chat'[i]? = chat[i]?
  patched : ∀ patch ∈ patches, ∀ line, chat'[patch.index]? = some line →
    (∀ mes, patch.mes = some mes → line.get "mes" = some (.string mes)) ∧
    ∀ told, patch.extra = some told → ∃ extra, line.get "extra" = some extra ∧
      (∀ shown, told.displayText = some shown → extra.get "display_text" = some (.string shown)) ∧
      ∀ mark, told.compressed = some mark → extra.get "compressed" = some (.bool mark)

/-- The patches for the targets, with a compressed text for each. -/
def compressPatches (lib : Primitives) (text : PromptText) (texts : ℕ → String)
    (chat : List Json) : List StMessagePatch :=
  (compressTargets lib chat).map fun (index, expectedSha256, _) =>
    compressPatch text index expectedSha256 (texts index)

theorem mem_compressTargets (hsize : chat.length < 2 ^ 32) {target : ℕ × String × String} :
    target ∈ compressTargets lib chat ↔ ∃ item, (item, target.1) ∈ targetLines chat ∧
      target.2 = (messageSha256 lib item, visibleText item) := by
  rw [compressTargets_eq, List.mem_map]
  constructor
  · rintro ⟨⟨item, i⟩, hmem, rfl⟩
    have hi := (index_lt_of_mem_targetLines hmem).trans hsize
    exact ⟨item, by rwa [Nat.mod_eq_of_lt hi], rfl⟩
  · rintro ⟨item, hmem, htarget⟩
    have hi := (index_lt_of_mem_targetLines hmem).trans hsize
    exact ⟨(item, target.1), hmem, Prod.ext (Nat.mod_eq_of_lt hi) htarget.symm⟩

section Patched

variable {lib : Primitives} {text : PromptText} {texts : ℕ → String}

/-- The lines with a patch are the targets. -/
theorem exists_patch_iff (hsize : chat.length < 2 ^ 32) {i : ℕ} :
    (∃ patch ∈ compressPatches lib text texts chat, patch.index = i) ↔
      ∃ item, (item, i) ∈ targetLines chat := by
  constructor
  · rintro ⟨patch, hpatch, rfl⟩
    obtain ⟨target, htarget, rfl⟩ := List.mem_map.mp hpatch
    obtain ⟨item, hitem, -⟩ := (mem_compressTargets lib hsize).mp htarget
    exact ⟨item, hitem⟩
  · rintro ⟨item, hitem⟩
    have htarget : (i, messageSha256 lib item, visibleText item) ∈ compressTargets lib chat :=
      (mem_compressTargets lib hsize).mpr ⟨item, hitem, rfl⟩
    exact ⟨_, List.mem_map_of_mem htarget, rfl⟩

variable (h : Patched (compressPatches lib text texts chat) chat chat')
include h

variable (hsize : chat.length < 2 ^ 32)
include hsize

/-- A line with a patch is marked. -/
theorem Patched.isCompressed_of_mem {item line : Json} {i : ℕ}
    (hitem : (item, i) ∈ targetLines chat) (hline : chat'[i]? = some line) :
    isCompressed line = true := by
  obtain ⟨patch, hpatch, rfl⟩ := (exists_patch_iff hsize).mpr ⟨item, hitem⟩
  obtain ⟨-, hextra⟩ := h.patched patch hpatch line hline
  obtain ⟨target, -, rfl⟩ := List.mem_map.mp hpatch
  obtain ⟨extra, hget, -, hmark⟩ := hextra _ rfl
  simp [isCompressed, hget, hmark true rfl, Json.asBool]

theorem Patched.getElem?_of_not_mem {i : ℕ} (hi : ∀ item, (item, i) ∉ targetLines chat) :
    chat'[i]? = chat[i]? := by
  refine h.unchanged i fun patch hpatch hindex => ?_
  obtain ⟨item, hitem⟩ := (exists_patch_iff hsize).mp ⟨patch, hpatch, hindex⟩
  exact hi item hitem

/-- What is counted after a patch was counted before it: the lines with a patch were counted. -/
theorem Patched.countP_le (n : ℕ) :
    (chat'.drop n).countP counts ≤ (chat.drop n).countP counts := by
  refine countP_le_of_getElem? fun i line hline hcounts => ?_
  rw [List.getElem?_drop] at hline ⊢
  by_cases htarget : ∃ item, (item, n + i) ∈ targetLines chat
  · obtain ⟨item, hitem⟩ := htarget
    obtain ⟨hget, -, hkind, -⟩ := mem_targetLines.mp hitem
    exact ⟨item, hget, counts_of_isTarget hkind⟩
  · rw [h.getElem?_of_not_mem hsize (not_exists.mp htarget)] at hline
    exact ⟨line, hline, hcounts⟩

/-- Once the targets are compressed no target is left. -/
theorem Patched.targetLines_eq_nil : targetLines chat' = [] := by
  rw [List.eq_nil_iff_forall_not_mem]
  rintro ⟨line, i⟩ hmem
  obtain ⟨hline, hpos, hkind, henough⟩ := mem_targetLines.mp hmem
  have hmarked : isCompressed line = false := by
    simp only [isTarget, Bool.and_eq_true, Bool.not_eq_true'] at hkind
    exact hkind.2
  by_cases htarget : ∃ item, (item, i) ∈ targetLines chat
  · obtain ⟨item, hitem⟩ := htarget
    rw [h.isCompressed_of_mem hsize hitem hline] at hmarked
    simp at hmarked
  · -- the line is as it was, and no more messages come after it: it was a target before
    rw [h.getElem?_of_not_mem hsize (not_exists.mp htarget)] at hline
    have hbefore := henough.trans (h.countP_le hsize (i + 1))
    exact htarget ⟨line, mem_targetLines.mpr ⟨hline, hpos, hkind, hbefore⟩⟩

end Patched

end StOps

open StOps

/-- **The targets of a compression.** They are in the order of the chat and after its header; each
is a reply that is neither a digest nor compressed, with enough messages after it; and once they are
compressed none is left, whatever the compressed texts are. -/
theorem compress_targets_contract (lib : Primitives) {chat : List Json}
    (hsize : chat.length < 2 ^ 32) :
    (compressTargets lib chat).Pairwise (fun first second => first.1 < second.1) ∧
    (∀ target ∈ compressTargets lib chat, 1 ≤ target.1 ∧ ∃ item, chat[target.1]? = some item ∧
      isUser item = false ∧ isSystem item = false ∧ isDigest item = false ∧
      isCompressed item = false ∧
      15 ≤ (chat.drop (target.1 + 1)).countP
        (fun later => !isSystem later && visibleText later ≠ "") ∧
      target.2.1 = lib.sha256Hex (lib.renderJson item) ∧ target.2.2 = visibleText item) ∧
    ∀ (text : PromptText) (texts : ℕ → String) (chat' : List Json),
      Patched (compressPatches lib text texts chat) chat chat' →
        compressTargets lib chat' = [] := by
  refine ⟨pairwise_compressTargets lib hsize, fun target htarget => ?_,
    fun text texts chat' h => ?_⟩
  · obtain ⟨item, hmem, htexts⟩ := (mem_compressTargets lib hsize).mp htarget
    obtain ⟨hget, hpos, hkind, henough⟩ := mem_targetLines.mp hmem
    simp only [isTarget, isReply, Bool.and_eq_true, Bool.not_eq_true'] at hkind
    obtain ⟨⟨⟨⟨hsystem, huser⟩, -⟩, hdigest⟩, hmarked⟩ := hkind
    rw [htexts]
    exact ⟨hpos, item, hget, huser, hsystem, hdigest, hmarked, henough, rfl, rfl⟩
  · rw [compressTargets_eq, Patched.targetLines_eq_nil h hsize, List.map_nil]

/-- A reply with fifteen messages after it, before and after its compression. -/
theorem compress_targets_contract_sixteen :
    let chat := List.replicate 17 (chatLine false "hi")
    let compressed := Json.object [("mes", .string "h"),
      ("extra", .object [("display_text", .string "h"), ("compressed", .bool true)])]
    (compressTargets Primitives.plain chat).map Prod.fst = [1] ∧
      compressTargets Primitives.plain (chat.set 1 compressed) = [] := by
  intro chat compressed
  have hone : (compressTargets Primitives.plain chat).map Prod.fst = [1] := by decide +kernel
  have hsize : chat.length < 2 ^ 32 := by simp [chat]
  refine ⟨hone, (compress_targets_contract Primitives.plain hsize).2.2 plainText (fun _ => "h") _
    ⟨by simp, fun i hi => ?_, fun patch hpatch line hline => ?_⟩⟩
  · have hne : 1 ≠ i := by
      obtain ⟨target, htarget, hindex⟩ := List.mem_map.mp (hone ▸ List.mem_cons_self : 1 ∈ _)
      exact hindex ▸ hi _ (List.mem_map_of_mem htarget)
    rw [List.getElem?_set_ne hne]
  · obtain ⟨target, htarget, rfl⟩ := List.mem_map.mp hpatch
    have hindex : target.1 = 1 := by
      simpa [hone] using List.mem_map_of_mem (f := Prod.fst) htarget
    obtain rfl : compressed = line := by simpa [compressPatch, hindex, chat] using hline
    simp [compressPatch, plainText, compressed, Json.get, List.lookup_cons]

end ImBridge
