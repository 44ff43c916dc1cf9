import ImBridge.Bridge.StOps
import ImBridge.Encoding.Scans
import ImBridge.Sequential

/-!
# The last turn of a chat

Several scans look for the last turn of a chat, each with a test of its own: undoing and replacing
take the last reply and the question before it, whatever they say; the prompt of a regeneration
leaves out the last reply that it would show; and the query for the last turn shows the last
question and the last reply that say something, wherever they stand.

## Main definitions

* `undoMutation`, `getLastTurn`: undoing the last turn, and the query for it
* `shownLines`: the lines that the query shows
* `historyLines`, `keptLines`, `digestLine`: the lines that a prompt shows, those of them that a
  regeneration keeps, and the digest
* `LeftOut`: the regeneration leaves out a line and no other

## Main results

* `exists_of_lastDialogueIndexes`: the last turn in the chat
* `getLastTurn_eq`, `promptMessages_regenerate`: what the query and the prompt say about their lines
* `regeneration_leaves_out_reply`: when the prompt leaves out the reply that is replaced
* `query_shows_undone_turn`: when the query shows the turn that is undone
-/

namespace ImBridge

open Encoding Interleaving

namespace StOps

/-! ## Undoing and showing the last turn -/

def lastTurnHashes (lib : Primitives) (messages : List Json) : Option (String × String) :=
  (lastDialogueIndexes messages).map fun (user, assistant) =>
    (messageSha256 lib (messages.getD user .null),
      messageSha256 lib (messages.getD assistant .null))

def undoMutation (lib : Primitives) (snapshot : StChatSnapshot) : Option StMutation :=
  (lastTurnHashes lib snapshot.parsedChat).map fun (userSha, assistantSha) =>
    .undoLastTurn userSha assistantSha

def isVisible (item : Json) : Bool := visibleText item ≠ ""

/-- A message of the user. -/
def isQuestion (item : Json) : Bool := !isSystem item && isUser item

/-- A message of a character. -/
def isReply (item : Json) : Bool := !isSystem item && !isUser item

/-- A message as the query shows it: the speaker, and the text in a line of its own. -/
def shownMessage (item : Json) : String :=
  ((item.get "name").bind Json.asStr).getD "" ++ "\n" ++ visibleText item

/-- The loop of the query, from the end of the chat. It keeps something of the first question and of
the first reply, and stops when it has both. -/
def scanTurn {α β : Type} (line : α → Json) (shown : α → β) :
    List α → Option β → Option β → Option β × Option β
  | [], user, assistant => (user, assistant)
  | entry :: rest, user, assistant =>
    if isSystem (line entry) then scanTurn line shown rest user assistant
    else if visibleText (line entry) = "" then scanTurn line shown rest user assistant
    else
      let user := if isUser (line entry) then user.or (some (shown entry)) else user
      let assistant :=
        if isUser (line entry) then assistant else assistant.or (some (shown entry))
      if user.isSome ∧ assistant.isSome then (user, assistant)
      else scanTurn line shown rest user assistant

/-- The view of the last turn. -/
structure LastTurnView where
  user : Option String
  assistant : Option String
  tailFingerprint : Option String

def getLastTurn (snapshot : StChatSnapshot) : LastTurnView :=
  let (user, assistant) := scanTurn id shownMessage snapshot.parsedChat.reverse none none
  { user, assistant, tailFingerprint := some snapshot.sourceSha256 }

/-- The lines that the query shows. -/
def shownLines (parsedChat : List Json) : Option ℕ × Option ℕ :=
  scanTurn Prod.fst Prod.snd parsedChat.zipIdx.reverse none none

/-! ## Lines of a chat -/

variable {chat : List Json} {user assistant : ℕ}

theorem nodup_zipIdx (chat : List Json) : (chat.zipIdx.map Prod.snd).Nodup := by
  rw [List.zipIdx_map_snd]
  exact List.nodup_range'

/-- A line stands where its index says. -/
theorem eq_of_zipIdx_eq {before after : List (Json × ℕ)} {item : Json} {i : ℕ}
    (h : chat.zipIdx = before ++ (item, i) :: after) :
    chat[i]? = some item ∧ after.map Prod.fst = chat.drop (i + 1) := by
  have hi : before.length = i := by
    have hget := congrArg (·[before.length]?) h
    simp only [List.getElem?_zipIdx, List.getElem?_append_right (Nat.le_refl _), Nat.sub_self,
      List.getElem?_cons_zero, Option.map_eq_some_iff] at hget
    obtain ⟨_, -, hpair⟩ := hget
    simpa using (Prod.mk.inj hpair).2
  have hchat : chat = before.map Prod.fst ++ item :: after.map Prod.fst := by
    rw [← List.zipIdx_map_fst 0 chat, h, List.map_append, List.map_cons]
  subst hi
  rw [hchat]
  constructor
  · simp
  · rw [List.drop_append, List.drop_of_length_le (by simp)]
    simp

theorem not_isQuestion_of_isReply {item : Json} (h : isReply item = true) :
    isQuestion item = false := by
  rw [isReply, Bool.and_eq_true_iff, Bool.not_eq_true', Bool.not_eq_true'] at h
  rw [isQuestion, h.2, Bool.and_false]

theorem findTurn_cons_some (item : Json) (index : ℕ) (lines : List (Json × ℕ)) (reply : ℕ) :
    findTurn ((item, index) :: lines) (some reply) =
      if isQuestion item then some (index, reply) else findTurn lines (some reply) := by
  rw [findTurn, isQuestion]
  cases isSystem item <;> cases isUser item <;> rfl

theorem findTurn_cons_none (item : Json) (index : ℕ) (lines : List (Json × ℕ)) :
    findTurn ((item, index) :: lines) none =
      findTurn lines (if isReply item then some index else none) := by
  rw [findTurn, isReply]
  cases isSystem item <;> cases isUser item <;> rfl

variable {lines : List (Json × ℕ)}

/-- From the reply on backwards: the first question. -/
theorem findTurn_some {reply : ℕ} (h : findTurn lines (some reply) = some (user, assistant)) :
    reply = assistant ∧ ∃ before item after, lines = before ++ (item, user) :: after ∧
      isQuestion item = true ∧ ∀ entry ∈ before, isQuestion entry.1 = false := by
  induction lines with
  | nil => simp [findTurn] at h
  | cons entry lines ih =>
    obtain ⟨item, index⟩ := entry
    rw [findTurn_cons_some] at h
    split at h
    · rename_i hquestion
      obtain ⟨rfl, rfl⟩ := Prod.mk.inj (Option.some.inj h)
      exact ⟨rfl, [], item, lines, rfl, hquestion, by simp⟩
    · rename_i hquestion
      obtain ⟨hreply, before, item', after, rfl, hitem', hbefore⟩ := ih h
      refine ⟨hreply, (item, index) :: before, item', after, rfl, hitem', ?_⟩
      exact List.forall_mem_cons.mpr ⟨by simpa using hquestion, hbefore⟩

/-- From the end backwards: the first reply, and then the first question. -/
theorem findTurn_none (h : findTurn lines none = some (user, assistant)) :
    ∃ after item before, lines = after ++ (item, assistant) :: before ∧ isReply item = true ∧
      (∀ entry ∈ after, isReply entry.1 = false) ∧
      findTurn before (some assistant) = some (user, assistant) := by
  induction lines with
  | nil => simp [findTurn] at h
  | cons entry lines ih =>
    obtain ⟨item, index⟩ := entry
    rw [findTurn_cons_none] at h
    split at h
    · rename_i hreply
      obtain ⟨rfl, -⟩ := findTurn_some h
      exact ⟨[], item, lines, rfl, hreply, by simp, h⟩
    · rename_i hreply
      obtain ⟨after, item', before, rfl, hitem', hafter, hturn⟩ := ih h
      refine ⟨(item, index) :: after, item', before, rfl, hitem', ?_, hturn⟩
      exact List.forall_mem_cons.mpr ⟨by simpa using hreply, hafter⟩

/-- The last turn of a chat: the last reply, and the last question before it. -/
structure TurnAt (chat : List Json) (user assistant : ℕ) (question reply : Json)
    (first between rest : List (Json × ℕ)) : Prop where
  zipIdx : chat.zipIdx =
    first ++ (question, user) :: (between ++ (reply, assistant) :: rest)
  header : 1 ≤ first.length
  question : isQuestion question = true
  reply : isReply reply = true
  between : ∀ entry ∈ between, isQuestion entry.1 = false
  rest : ∀ entry ∈ rest, isReply entry.1 = false

/-- **The last turn in the chat.** -/
theorem exists_of_lastDialogueIndexes (h : lastDialogueIndexes chat = some (user, assistant)) :
    ∃ question reply first between rest,
      TurnAt chat user assistant question reply first between rest := by
  obtain ⟨after, reply, before, hlines, hreply, hafter, hturn⟩ := findTurn_none h
  obtain ⟨-, between, question, first, rfl, hquestion, hbetween⟩ := findTurn_some hturn
  refine ⟨question, reply, chat.zipIdx.take 1 ++ first.reverse, between.reverse, after.reverse, ?_,
    ?_, hquestion, hreply, by simpa using hbetween, by simpa using hafter⟩
  rotate_left
  · -- the header stands before all of them
    have hlength := congrArg List.length hlines
    simp at hlength ⊢
    omega
  have hdrop : chat.zipIdx.drop 1 =
      (after ++ (reply, assistant) :: (between ++ (question, user) :: first)).reverse := by
    rw [← hlines, List.reverse_reverse]
  calc chat.zipIdx = chat.zipIdx.take 1 ++ chat.zipIdx.drop 1 := (List.take_append_drop 1 _).symm
    _ = _ := by
      rw [hdrop]
      simp

namespace TurnAt

variable {question reply : Json} {first between rest : List (Json × ℕ)}

variable (h : TurnAt chat user assistant question reply first between rest)
include h

theorem getElem?_user :
    chat[user]? = some question :=
  (eq_of_zipIdx_eq h.zipIdx).1

theorem zipIdx' :
    chat.zipIdx = (first ++ (question, user) :: between) ++ (reply, assistant) :: rest := by
  rw [h.zipIdx]
  simp

theorem getElem?_assistant :
    chat[assistant]? = some reply :=
  (eq_of_zipIdx_eq h.zipIdx').1

theorem drop_assistant :
    rest.map Prod.fst = chat.drop (assistant + 1) :=
  (eq_of_zipIdx_eq h.zipIdx').2

end TurnAt

/-! ## What the query shows -/

/-- A scan that stops early keeps the same as two scans to the end. -/
theorem scanTurn_eq {α β : Type} (line : α → Json) (shown : α → β) (entries : List α)
    (user assistant : Option β) :
    scanTurn line shown entries user assistant =
      (user.or ((entries.find? fun e => isQuestion (line e) && isVisible (line e)).map shown),
        assistant.or ((entries.find? fun e => isReply (line e) && isVisible (line e)).map
          shown)) := by
  induction entries generalizing user assistant with
  | nil => simp [scanTurn]
  | cons entry entries ih =>
    unfold scanTurn
    by_cases hsystem : isSystem (line entry) = true
    · rw [if_pos hsystem, ih, List.find?_cons_of_neg (by simp [isQuestion, hsystem]),
        List.find?_cons_of_neg (by simp [isReply, hsystem])]
    rw [if_neg hsystem]
    by_cases hblank : visibleText (line entry) = ""
    · rw [if_pos hblank, ih, List.find?_cons_of_neg (by simp [isVisible, hblank]),
        List.find?_cons_of_neg (by simp [isVisible, hblank])]
    rw [if_neg hblank]
    by_cases huser : isUser (line entry) = true
    · -- a question
      rw [List.find?_cons_of_pos (by simp [isQuestion, isVisible, hsystem, huser, hblank]),
        List.find?_cons_of_neg (by simp [isReply, huser])]
      simp only [huser, if_true, ih]
      cases user <;> cases assistant <;> simp
    · rw [List.find?_cons_of_neg (by simp [isQuestion, huser]),
        List.find?_cons_of_pos (by simp [isReply, isVisible, hsystem, huser, hblank])]
      simp only [huser, ih]
      cases user <;> cases assistant <;> simp

theorem shownLines_eq (chat : List Json) :
    shownLines chat =
      ((chat.zipIdx.reverse.find? fun e => isQuestion e.1 && isVisible e.1).map Prod.snd,
        (chat.zipIdx.reverse.find? fun e => isReply e.1 && isVisible e.1).map Prod.snd) := by
  rw [shownLines, scanTurn_eq, Option.none_or, Option.none_or]

/-- A scan of the lines with their indexes finds the line that a scan of the lines finds. -/
theorem find?_reverse_eq (p : Json → Bool) (chat : List Json) :
    chat.reverse.find? p =
      ((chat.zipIdx.reverse.find? fun e => p e.1).map Prod.snd).map fun i => chat.getD i .null := by
  have hreverse : chat.reverse = chat.zipIdx.reverse.map Prod.fst := by
    rw [List.map_reverse, List.zipIdx_map_fst]
  rw [Option.map_map, hreverse, List.find?_map]
  refine Option.map_congr fun e he => ?_
  have hmem := List.mem_reverse.mp (List.mem_of_find?_eq_some he)
  obtain ⟨item, i⟩ := e
  rw [List.mem_zipIdx_iff_getElem?] at hmem
  simp [List.getD_eq_getElem?_getD, hmem]

/-- **What the query says about its lines.** -/
theorem getLastTurn_eq (snapshot : StChatSnapshot) :
    getLastTurn snapshot =
      let shown := fun i => shownMessage (snapshot.parsedChat.getD i .null)
      { user := (shownLines snapshot.parsedChat).1.map shown
        assistant := (shownLines snapshot.parsedChat).2.map shown
        tailFingerprint := some snapshot.sourceSha256 } := by
  simp only [getLastTurn, scanTurn_eq, shownLines_eq, Option.none_or, id_eq, find?_reverse_eq,
    Option.map_map]
  rfl

theorem nodup_reverse_zipIdx (h : chat.zipIdx.reverse = lines) :
    (lines.map Prod.snd).Nodup := by
  rw [← h, List.map_reverse, List.nodup_reverse]
  exact nodup_zipIdx chat

/-- The query shows the turn if both of its lines say something and no question after it does. -/
theorem TurnAt.shownLines_iff {question reply : Json} {first between rest : List (Json × ℕ)}
    (h : TurnAt chat user assistant question reply first between rest) :
    shownLines chat = (some user, some assistant) ↔
      isVisible question = true ∧ isVisible reply = true ∧
        ∀ line ∈ chat.drop (assistant + 1), isQuestion line = true → isVisible line = false := by
  have hreply : chat.zipIdx.reverse = rest.reverse ++ (reply, assistant) ::
      (between.reverse ++ (question, user) :: first.reverse) := by
    rw [h.zipIdx]
    simp
  have hquestion : chat.zipIdx.reverse = (rest.reverse ++ (reply, assistant) :: between.reverse) ++
      (question, user) :: first.reverse := by
    rw [h.zipIdx]
    simp
  have hassistant : (chat.zipIdx.reverse.find? fun e => isReply e.1 && isVisible e.1).map Prod.snd =
      some assistant ↔ isVisible reply = true := by
    rw [hreply, find?_number_iff (nodup_reverse_zipIdx hreply)]
    constructor
    · rintro ⟨hpass, -⟩
      exact (Bool.and_eq_true_iff.mp hpass).2
    · intro hvisible
      refine ⟨by simp [h.reply, hvisible], fun entry hentry => ?_⟩
      simp [h.rest entry (List.mem_reverse.mp hentry)]
  have huser : (chat.zipIdx.reverse.find? fun e => isQuestion e.1 && isVisible e.1).map Prod.snd =
      some user ↔ isVisible question = true ∧
        ∀ entry ∈ rest, isQuestion entry.1 = true → isVisible entry.1 = false := by
    rw [hquestion, find?_number_iff (nodup_reverse_zipIdx hquestion)]
    constructor
    · rintro ⟨hpass, hbefore⟩
      refine ⟨(Bool.and_eq_true_iff.mp hpass).2, fun entry hentry hquestion => ?_⟩
      simpa [hquestion] using hbefore entry (by simp [hentry])
    · rintro ⟨hvisible, hrest⟩
      refine ⟨by simp [h.question, hvisible], fun entry hentry => ?_⟩
      rcases List.mem_append.mp hentry with hentry | hentry
      · cases hq : isQuestion entry.1 with
        | false => rfl
        | true => simp [hrest entry (List.mem_reverse.mp hentry) hq]
      · rcases List.mem_cons.mp hentry with rfl | hentry
        · simp [not_isQuestion_of_isReply h.reply]
        · simp [h.between entry (List.mem_reverse.mp hentry)]
  have hafter : (∀ line ∈ chat.drop (assistant + 1),
      isQuestion line = true → isVisible line = false) ↔
      ∀ entry ∈ rest, isQuestion entry.1 = true → isVisible entry.1 = false := by
    rw [← h.drop_assistant]
    exact List.forall_mem_map
  rw [shownLines_eq, Prod.mk.injEq, hassistant, huser, hafter, and_assoc]
  exact and_congr_right fun _ => and_comm

theorem getD_of_getElem? {i : ℕ} {line : Json} (h : chat[i]? = some line) :
    chat.getD i .null = line := by
  rw [List.getD_eq_getElem?_getD, h, Option.getD_some]

/-! ## What the prompt of a regeneration shows -/

/-- The lines that a prompt shows of the chat, unless they are too old. -/
def isShown (item : Json) : Bool := visibleText item ≠ "" && !isDigest item && !isSystem item

def historyLines (parsedChat : List Json) : List (Json × ℕ) :=
  (parsedChat.zipIdx.drop 1).filter fun entry => isShown entry.1

/-- The lines that are left when the last reply among them is dropped. -/
def keptLines (parsedChat : List Json) : List (Json × ℕ) :=
  ((historyLines parsedChat).reverse.eraseP fun entry => !isUser entry.1).reverse

/-- The line with the digest that a prompt shows. -/
def digestLine (parsedChat : List Json) : Option (Json × ℕ) :=
  ((parsedChat.zipIdx.drop 1).filter fun entry =>
    visibleText entry.1 ≠ "" && isDigest entry.1).getLast?

/-- The prompt with a digest and some lines of the chat. -/
def promptOf (text : PromptText) (character : StCharacterSummary) (userName : String)
    (digest : Option Json) (lines : List Json) (extraUser : Option String) : List StPromptMessage :=
  [{ role := "system", content := text.buildSystemPrompt character userName, name := none }] ++
    (digest.map fun item =>
      { role := "system", content := text.normalizeModelInputText (visibleText item), name := none :
        StPromptMessage }).toList ++
    (lines.drop (lines.length - recentLimit)).map (historyMessage text character userName) ++
    (extraUser.map fun extra =>
      { role := "user", content := text.normalizeModelInputText extra, name := some userName :
        StPromptMessage }).toList

variable {text : PromptText} {character : StCharacterSummary} {userName : String}

theorem drop_one_eq (chat : List Json) : chat.drop 1 = (chat.zipIdx.drop 1).map Prod.fst := by
  rw [List.map_drop, List.zipIdx_map_fst]

theorem history_eq (chat : List Json) :
    history text character userName chat =
      (historyLines chat).map fun entry => historyMessage text character userName entry.1 := by
  rw [history, drop_one_eq, List.filter_map, List.map_map]
  rfl

theorem dropLastAssistant_history (chat : List Json) :
    dropLastAssistant (history text character userName chat) =
      (keptLines chat).map fun entry => historyMessage text character userName entry.1 := by
  have hrole : ((fun message : StPromptMessage => message.role == "assistant") ∘
      fun entry : Json × ℕ => historyMessage text character userName entry.1) =
        fun entry => !isUser entry.1 := by
    funext entry
    simp only [Function.comp_apply, historyMessage]
    cases isUser entry.1 <;> rfl
  rw [dropLastAssistant, history_eq, ← List.map_reverse, List.eraseP_map, hrole, ← List.map_reverse]
  rfl

theorem digestMessage_eq (chat : List Json) :
    digestMessage text chat = ((digestLine chat).map Prod.fst).map fun item =>
      { role := "system", content := text.normalizeModelInputText (visibleText item),
        name := none } := by
  rw [digestMessage, digestLine, drop_one_eq, List.filter_map, List.getLast?_map]
  rfl

/-- **What the prompt of a regeneration says about its lines.** -/
theorem promptMessages_regenerate (text : PromptText) (character : StCharacterSummary)
    (userName : String) (chat : List Json) (extraUser : Option String) :
    promptMessages text character userName chat extraUser true =
      promptOf text character userName ((digestLine chat).map Prod.fst)
        ((keptLines chat).map Prod.fst) extraUser := by
  rw [promptMessages, promptOf, if_pos rfl, dropLastAssistant_history, digestMessage_eq]
  simp only [List.map_drop, List.map_map, List.length_map]
  rfl

/-- The prompt of a regeneration leaves out the line with the index, and no other that it would
show. -/
structure LeftOut (parsedChat : List Json) (index : ℕ) : Prop where
  kept : keptLines parsedChat = (historyLines parsedChat).filter (·.2 ≠ index)
  digest : (digestLine parsedChat).map Prod.snd ≠ some index

theorem nodup_historyLines (chat : List Json) : ((historyLines chat).map Prod.snd).Nodup := by
  have hsublist : (historyLines chat).Sublist chat.zipIdx :=
    List.filter_sublist.trans (List.drop_sublist 1 _)
  exact (nodup_zipIdx chat).sublist (hsublist.map Prod.snd)

theorem keptLines_eq_filter_iff (chat : List Json) (i : ℕ) :
    keptLines chat = (historyLines chat).filter (·.2 ≠ i) ↔
      ((historyLines chat).reverse.find? fun e => !isUser e.1).map Prod.snd = some i ∨
        ((∀ e ∈ historyLines chat, isUser e.1 = true) ∧ ∀ e ∈ historyLines chat, e.2 ≠ i) := by
  have hnodup : ((historyLines chat).reverse.map Prod.snd).Nodup := by
    rw [List.map_reverse, List.nodup_reverse]
    exact nodup_historyLines chat
  have hnone : (historyLines chat).reverse.find? (fun e => !isUser e.1) = none ↔
      ∀ e ∈ historyLines chat, isUser e.1 = true := by
    simp [List.find?_eq_none]
  have hindex : i ∉ (historyLines chat).reverse.map Prod.snd ↔
      ∀ e ∈ historyLines chat, e.2 ≠ i := by
    rw [List.map_reverse, List.mem_reverse, List.mem_map]
    constructor
    · rintro h e he rfl
      exact h ⟨e, he, rfl⟩
    · rintro h ⟨e, he, hi⟩
      exact h e he hi
  have hscan : (historyLines chat).reverse.eraseP (fun e => !isUser e.1) =
      (historyLines chat).reverse.filter (fun e => e.2 ≠ i) ↔ _ := eraseP_eq_filter_iff hnodup
  rw [hnone, hindex] at hscan
  rw [keptLines, ← hscan, List.filter_reverse, List.reverse_eq_iff]

namespace TurnAt

variable {question reply : Json} {first between rest : List (Json × ℕ)}

variable (h : TurnAt chat user assistant question reply first between rest)
include h

theorem drop_one :
    chat.zipIdx.drop 1 =
      (first.drop 1 ++ (question, user) :: between) ++ (reply, assistant) :: rest := by
  rw [h.zipIdx, List.drop_append_of_le_length h.header]
  simp

theorem mem_historyLines :
    (∃ item, (item, assistant) ∈ historyLines chat) ↔ isShown reply = true := by
  constructor
  · rintro ⟨item, hmem⟩
    obtain ⟨hmem, hshown⟩ := List.mem_filter.mp hmem
    have hitem := List.mem_zipIdx_iff_getElem?.mp ((List.drop_sublist 1 _).subset hmem)
    rw [h.getElem?_assistant] at hitem
    rwa [Option.some.inj hitem]
  · intro hshown
    refine ⟨reply, List.mem_filter.mpr ⟨?_, hshown⟩⟩
    rw [h.drop_one]
    simp

/-- The scan of the prompt finds the reply if it would show it. -/
theorem find?_reply_iff :
    ((historyLines chat).reverse.find? fun e => !isUser e.1).map Prod.snd = some assistant ↔
      isShown reply = true := by
  constructor
  · intro hfind
    obtain ⟨⟨item, index⟩, he, hindex⟩ := Option.map_eq_some_iff.mp hfind
    subst hindex
    exact h.mem_historyLines.mp ⟨item, List.mem_reverse.mp (List.mem_of_find?_eq_some he)⟩
  · intro hshown
    have hfilter : ((reply, assistant) :: rest).filter (fun e => isShown e.1) =
        (reply, assistant) :: rest.filter fun e => isShown e.1 :=
      List.filter_cons_of_pos hshown
    have hlines : (historyLines chat).reverse =
        (rest.filter fun e => isShown e.1).reverse ++ (reply, assistant) ::
          ((first.drop 1 ++ (question, user) :: between).filter fun e => isShown e.1).reverse := by
      rw [historyLines, h.drop_one, List.filter_append, hfilter, List.reverse_append,
        List.reverse_cons, List.append_assoc, List.singleton_append]
    have hnodup : ((historyLines chat).reverse.map Prod.snd).Nodup := by
      rw [List.map_reverse, List.nodup_reverse]
      exact nodup_historyLines chat
    have hreply := Bool.and_eq_true_iff.mp h.reply
    rw [hlines] at hnodup ⊢
    rw [find?_number_iff hnodup]
    refine ⟨hreply.2, fun entry hentry => ?_⟩
    -- what is shown after the reply is no reply, so that it is a question
    obtain ⟨hrest, hentryShown⟩ := List.mem_filter.mp (List.mem_reverse.mp hentry)
    have hsystem := (Bool.and_eq_true_iff.mp hentryShown).2
    have hnot := h.rest entry hrest
    rw [isReply, hsystem, Bool.true_and] at hnot
    exact hnot

/-- The reply is left out if the prompt would show it; or else if the prompt shows no reply at all,
and not the reply as the digest. -/
theorem leftOut_iff :
    LeftOut chat assistant ↔ isShown reply = true ∨
      ((∀ entry ∈ historyLines chat, isUser entry.1 = true) ∧
        (digestLine chat).map Prod.snd ≠ some assistant) := by
  constructor
  · rintro ⟨hkept, hdigest⟩
    rcases (keptLines_eq_filter_iff chat assistant).mp hkept with hfind | ⟨hall, -⟩
    · exact .inl (h.find?_reply_iff.mp hfind)
    · exact .inr ⟨hall, hdigest⟩
  · rintro (hshown | ⟨hall, hdigest⟩)
    · refine ⟨(keptLines_eq_filter_iff chat assistant).mpr
        (.inl (h.find?_reply_iff.mpr hshown)), ?_⟩
      -- what is shown is not a digest
      intro hdigest
      obtain ⟨⟨item, index⟩, hline, hindex⟩ := Option.map_eq_some_iff.mp hdigest
      subst hindex
      obtain ⟨hmem, htext⟩ := List.mem_filter.mp (List.mem_of_getLast? hline)
      have hitem := List.mem_zipIdx_iff_getElem?.mp ((List.drop_sublist 1 _).subset hmem)
      rw [h.getElem?_assistant] at hitem
      obtain rfl := Option.some.inj hitem
      have hnot := (Bool.and_eq_true_iff.mp (Bool.and_eq_true_iff.mp hshown).1).2
      rw [(Bool.and_eq_true_iff.mp htext).2] at hnot
      simp at hnot
    · by_cases hshown : isShown reply = true
      · exact ⟨(keptLines_eq_filter_iff chat assistant).mpr (.inl (h.find?_reply_iff.mpr hshown)),
          hdigest⟩
      · refine ⟨(keptLines_eq_filter_iff chat assistant).mpr (.inr ⟨hall, ?_⟩), hdigest⟩
        rintro ⟨item, index⟩ hmem rfl
        exact hshown (h.mem_historyLines.mp ⟨item, hmem⟩)

end TurnAt

end StOps

open StOps

/-- A line of a chat. -/
def chatLine (isUser : Bool) (mes : String) : Json :=
  .object [("is_user", .bool isUser), ("mes", .string mes)]

/-- **When the prompt leaves out the reply that is replaced**: if it would show that reply, or if it
shows no reply at all and not that one as the digest. -/
theorem regeneration_leaves_out_reply (lib : Primitives) (text : PromptText)
    (snapshot : StChatSnapshot) (characterName assistantText : String) :
    (replaceAssistantMutation lib text snapshot characterName assistantText).Ends fun result =>
      ∀ mutation, result = some mutation → ∃ user assistant reply message,
        lastDialogueIndexes snapshot.parsedChat = some (user, assistant) ∧
        snapshot.parsedChat[assistant]? = some reply ∧
        mutation = .replaceLastAssistant (messageSha256 lib reply) message ∧
        (∀ character userName,
          promptMessages text character userName snapshot.parsedChat none true =
            promptOf text character userName ((digestLine snapshot.parsedChat).map Prod.fst)
              ((keptLines snapshot.parsedChat).map Prod.fst) none) ∧
        (LeftOut snapshot.parsedChat assistant ↔ isShown reply = true ∨
          ((∀ entry ∈ historyLines snapshot.parsedChat, isUser entry.1 = true) ∧
            (digestLine snapshot.parsedChat).map Prod.snd ≠ some assistant)) := by
  unfold replaceAssistantMutation
  cases hturn : lastDialogueIndexes snapshot.parsedChat with
  | none =>
    intro mutation hmutation
    simp at hmutation
  | some turn =>
    obtain ⟨user, assistant⟩ := turn
    obtain ⟨question, reply, first, between, rest, hat⟩ := exists_of_lastDialogueIndexes hturn
    refine Program.ends_bind (Program.ends_true _) fun message _ mutation hmutation => ?_
    refine ⟨user, assistant, reply, message, rfl, hat.getElem?_assistant, ?_,
      fun character userName => promptMessages_regenerate text character userName _ none,
      hat.leftOut_iff⟩
    rw [← Option.some.inj hmutation, getD_of_getElem? hat.getElem?_assistant]

/-- Functions that leave texts as they are. -/
def plainText : PromptText := ⟨fun _ _ => "", id, fun _ => id, id, ""⟩

/-- The last reply is empty: it is replaced, but the prompt leaves out the reply before it. -/
theorem other_reply_left_out :
    let chat := [chatLine false "", chatLine true "hello", chatLine false "hi", chatLine false " "]
    lastDialogueIndexes chat = some (1, 3) ∧
      (historyLines chat).map Prod.snd = [1, 2] ∧ (keptLines chat).map Prod.snd = [1] ∧
      (promptMessages plainText ⟨"", "", "", "", "", "", ""⟩ "me" chat none true).map (·.content) =
        ["", "hello"] := by
  decide +kernel

/-- **When the query shows the turn that is undone**: if both of its messages say something, and no
question after them does. -/
theorem query_shows_undone_turn (lib : Primitives) (snapshot : StChatSnapshot)
    {mutation : StMutation} (h : undoMutation lib snapshot = some mutation) :
    ∃ user assistant question reply,
      lastDialogueIndexes snapshot.parsedChat = some (user, assistant) ∧
      snapshot.parsedChat[user]? = some question ∧ snapshot.parsedChat[assistant]? = some reply ∧
      mutation = .undoLastTurn (messageSha256 lib question) (messageSha256 lib reply) ∧
      getLastTurn snapshot =
        { user := (shownLines snapshot.parsedChat).1.map fun i =>
            shownMessage (snapshot.parsedChat.getD i .null)
          assistant := (shownLines snapshot.parsedChat).2.map fun i =>
            shownMessage (snapshot.parsedChat.getD i .null)
          tailFingerprint := some snapshot.sourceSha256 } ∧
      (shownLines snapshot.parsedChat = (some user, some assistant) ↔
        isVisible question = true ∧ isVisible reply = true ∧
          ∀ line ∈ snapshot.parsedChat.drop (assistant + 1),
            isQuestion line = true → isVisible line = false) := by
  rw [undoMutation, lastTurnHashes, Option.map_map] at h
  obtain ⟨⟨user, assistant⟩, hturn, rfl⟩ := Option.map_eq_some_iff.mp h
  obtain ⟨question, reply, first, between, rest, hat⟩ := exists_of_lastDialogueIndexes hturn
  refine ⟨user, assistant, question, reply, hturn, hat.getElem?_user, hat.getElem?_assistant, ?_,
    getLastTurn_eq snapshot, hat.shownLines_iff⟩
  simp only [Function.comp_apply, getD_of_getElem? hat.getElem?_user,
    getD_of_getElem? hat.getElem?_assistant]

/-- A chat of one turn. -/
def helloSnapshot : StChatSnapshot :=
  ⟨⟨"", "", "", ""⟩, [chatLine false "", chatLine true "hello", chatLine false "hi"], "", "", 0, 0⟩

theorem query_shows_undone_turn_hello :
    shownLines helloSnapshot.parsedChat = (some 1, some 2) := by
  obtain ⟨user, assistant, question, reply, hturn, huser, hassistant, -, -, hiff⟩ :=
    query_shows_undone_turn Primitives.plain helloSnapshot rfl
  have hlast : lastDialogueIndexes helloSnapshot.parsedChat = some (1, 2) := by decide +kernel
  cases hlast.symm.trans hturn
  cases huser
  cases hassistant
  exact hiff.mpr (by decide +kernel)

/-- A question without a reply: it is shown as the question of the last reply. -/
theorem other_question_shown : let chat :=
      [chatLine false "", chatLine true "one", chatLine false "two", chatLine true "three"]
    lastDialogueIndexes chat = some (1, 2) ∧ shownLines chat = (some 3, some 2) ∧
      (getLastTurn ⟨⟨"", "", "", ""⟩, chat, "", "", 0, 0⟩).user = some "\nthree" := by
  decide +kernel

end ImBridge
