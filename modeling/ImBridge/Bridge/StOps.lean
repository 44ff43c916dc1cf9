import ImBridge.System

/-!
# Operations on chats

What the engine reads from a chat and what it asks the backend to write: the last turn, the prompt,
the targets of a compression, and the mutations made of them.

The texts of prompts and replies are rewritten by functions of their own; they are collected in
`PromptText`, since nothing here depends on what they do.

## Main definitions

* `PromptText`: the functions that rewrite texts
* `messageSha256`, `mutationDigest`: the hashes by which messages and mutations are known
* `lastDialogueIndexes`: the last turn of a chat
* `promptMessages`: the prompt
* `appendMutation`, `replaceAssistantMutation`, `compressTargets`, `compressPatch`: the mutations
-/

namespace ImBridge

open Interleaving

/-- The functions that rewrite the texts of prompts and replies. -/
structure PromptText where
  buildSystemPrompt : StCharacterSummary → String → String
  normalizeModelInputText : String → String
  normalizeAssistantReply : String → String → String
  sanitizeCompression : String → String
  compressionSystemPrompt : String

namespace StOps

def recentLimit : ℕ := 24

def compressKeepRecent : ℕ := 15

def messageSha256 (lib : Primitives) (value : Json) : String := lib.sha256Hex (lib.renderJson value)

/-- The hash of a mutation as it is encoded, or of an empty object if it cannot be. -/
def mutationDigest (lib : Primitives) (mutation : StMutation) : String :=
  lib.sha256Hex ((lib.encodeMutation mutation).getD (utf8 "\x7b\x7d"))

def isSystem (item : Json) : Bool := (item.get "is_system").bind Json.asBool == some true

def isUser (item : Json) : Bool := (item.get "is_user").bind Json.asBool == some true

def visibleText (item : Json) : String :=
  let displayed := ((item.get "extra").bind fun extra => extra.get "display_text").bind Json.asStr
  trim ((displayed.or ((item.get "mes").bind Json.asStr)).getD "")

/-- From the end of a chat backwards: the last reply, and then the message it replies to. -/
def findTurn : List (Json × ℕ) → Option ℕ → Option (ℕ × ℕ)
  | [], _ => none
  | (item, index) :: rest, assistant =>
    if isSystem item then findTurn rest assistant
    else match assistant with
      | none => if isUser item then findTurn rest none else findTurn rest (some index)
      | some reply => if isUser item then some (index, reply) else findTurn rest (some reply)

/-- The indexes of the last message of the user and of the reply to it; the first line is the
header. -/
def lastDialogueIndexes (messages : List Json) : Option (ℕ × ℕ) :=
  findTurn (messages.zipIdx.drop 1).reverse none

/-! ## Prompts -/

/-- A line of the chat in the prompt. -/
def historyMessage (text : PromptText) (character : StCharacterSummary) (userName : String)
    (item : Json) : StPromptMessage :=
  let named := ((item.get "name").bind Json.asStr).filter (· ≠ "")
  { role := if isUser item then "user" else "assistant"
    content := text.normalizeModelInputText (visibleText item)
    name := some (named.getD (if isUser item then userName else character.name)) }

def isDigest (item : Json) : Bool := startsWith "[CompressionDigest]" (visibleText item)

/-- The lines of the chat that the prompt shows. -/
def history (text : PromptText) (character : StCharacterSummary) (userName : String)
    (parsedChat : List Json) : List StPromptMessage :=
  ((parsedChat.drop 1).filter fun item =>
    visibleText item ≠ "" && !isDigest item && !isSystem item).map
      (historyMessage text character userName)

/-- The last compression digest of the chat. -/
def digestMessage (text : PromptText) (parsedChat : List Json) : Option StPromptMessage :=
  ((parsedChat.drop 1).filter fun item => visibleText item ≠ "" && isDigest item).getLast?.map
    fun item =>
      { role := "system", content := text.normalizeModelInputText (visibleText item), name := none }

/-- The list without its last message of the assistant. -/
def dropLastAssistant (messages : List StPromptMessage) : List StPromptMessage :=
  (messages.reverse.eraseP (·.role == "assistant")).reverse

def promptMessages (text : PromptText) (character : StCharacterSummary) (userName : String)
    (parsedChat : List Json) (extraUser : Option String) (dropAssistant : Bool) :
    List StPromptMessage :=
  let all := history text character userName parsedChat
  let kept := if dropAssistant then dropLastAssistant all else all
  [{ role := "system", content := text.buildSystemPrompt character userName, name := none }] ++
    (digestMessage text parsedChat).toList ++
    kept.drop (kept.length - recentLimit) ++
    (extraUser.map fun extra =>
      { role := "user", content := text.normalizeModelInputText extra, name := some userName :
        StPromptMessage }).toList

/-! ## Mutations -/

def chatMessage (name : String) (isUser : Bool) (text : String) : BridgeTask StChatMessage := do
  return { name := name, isUser := isUser, mes := text, sendDate := some (← ask .nowRfc3339),
           extra := [] }

def appendMutation (text : PromptText) (userName characterName userText assistantText : String) :
    BridgeTask StMutation := do
  let userMessage ← chatMessage userName true userText
  let assistantMessage ← chatMessage characterName false
    (text.normalizeAssistantReply characterName assistantText)
  return .appendTurn userMessage assistantMessage

def replaceAssistantMutation (lib : Primitives) (text : PromptText) (snapshot : StChatSnapshot)
    (characterName assistantText : String) : BridgeTask (Option StMutation) := do
  match lastDialogueIndexes snapshot.parsedChat with
  | none => return none
  | some (_, assistant) =>
    let message ← chatMessage characterName false
      (text.normalizeAssistantReply characterName assistantText)
    return some (.replaceLastAssistant
      (messageSha256 lib (snapshot.parsedChat.getD assistant .null)) message)

/-- The index of the oldest of the messages that are kept as they are. -/
def keepFrom (parsedChat : List Json) : Option ℕ :=
  (((parsedChat.zipIdx.reverse.filter fun entry =>
    !isSystem entry.1 && visibleText entry.1 ≠ "").take compressKeepRecent).getLast?).map Prod.snd

def isCompressed (item : Json) : Bool :=
  ((item.get "extra").bind fun extra => (extra.get "compressed").bind Json.asBool) == some true

/-- The replies to compress: index, hash and text of each. -/
def compressTargets (lib : Primitives) (parsedChat : List Json) : List (ℕ × String × String) :=
  (parsedChat.zipIdx.filter fun entry =>
    1 ≤ entry.2 && (keepFrom parsedChat).all (entry.2 < ·) && !isUser entry.1 &&
      !isSystem entry.1 && visibleText entry.1 ≠ "" && !isDigest entry.1 &&
      !isCompressed entry.1).map
    fun entry => (entry.2 % 2 ^ 32, messageSha256 lib entry.1, visibleText entry.1)

def compressPatch (text : PromptText) (index : ℕ) (expectedSha256 compressed : String) :
    StMessagePatch :=
  let cleaned := text.sanitizeCompression compressed
  { index := index
    expectedMessageSha256 := expectedSha256
    mes := some cleaned
    extra := some { displayText := some cleaned, compressed := some true } }

end StOps

end ImBridge
