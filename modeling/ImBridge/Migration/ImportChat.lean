import ImBridge.Migration.ChatTables

/-!
# The import of a chat

A chat is a file of lines: a header, and one line for each message. The import writes a conversation
with its archive, and for each line that is JSON a message in the order of the lines. All of it is
one transaction.

## Main definitions

* `JsonLibrary`: the JSON library on texts
* `fileName`, `parentFileName`: the names of a file and of its directory
* `LegacyChatFile`, `ImportChat.importChat`: a chat and its import
* `ImportChat.MessageContent`, `ImportChat.contentOf`: what is kept of a message, and what a line
  gives

## Main results

* `ImportChat.messages_importLines`: the messages of the lines, one after the other
* `ImportChat.messagesOf_importChat`: the messages of an imported conversation
-/

namespace ImBridge

open Relational Transaction

/-- The JSON library on texts. -/
structure JsonLibrary where
  fromStr : String → Option Json
  toText : Json → String

/-! ## Paths -/

/-- The parts of a path. -/
inductive PathPart
  | root
  | cur
  | parent
  | normal (name : String)
  deriving DecidableEq

/-- The part that a piece between two separators stands for; a single dot counts only at the start
of a path. -/
def pathPart (first : Bool) (piece : List Char) : Option PathPart :=
  if piece = [] then none
  else if piece = ['.'] then (if first then some .cur else none)
  else if piece = ['.', '.'] then some .parent
  else some (.normal (String.ofList piece))

def pathParts (path : String) : List PathPart :=
  match path.toList.splitOn '/' with
  | [] => []
  | first :: pieces =>
    (if first = [] ∧ pieces ≠ [] then [.root] else (pathPart true first).toList) ++
      pieces.filterMap (pathPart false)

/-- The last part of the path, if it is a name. -/
def fileName (path : String) : Option String :=
  match (pathParts path).reverse with
  | .normal name :: _ => some name
  | _ => none

/-- The last part of the parent of the path, if it is a name. -/
def parentFileName (path : String) : Option String :=
  match (pathParts path).reverse with
  | .root :: _ => none
  | _ :: .normal name :: _ => some name
  | _ => none

/-! ## The import -/

/-- A chat of a legacy source; its path is a text. -/
structure LegacyChatFile where
  characterDir : String
  path : String
  lines : List String
  deriving DecidableEq

/-- What an import works with: where the conversation goes, the source, the time, and the new ids in
the order they are asked for. -/
structure ChatImport where
  workspaceId : String
  accountId : String
  handle : String
  chat : LegacyChatFile
  checksum : String
  now : String
  newId : ℕ → String

/-- How far an import has come. -/
structure ImportCursor where
  count : ℕ
  sequence : ℤ
  ordinal : ℤ
  currentTurn : Option (String × Bool)
  nextId : ℕ

namespace ImportChat

variable (lib : JsonLibrary)

def header (chat : LegacyChatFile) : Json :=
  (chat.lines.head?.bind lib.fromStr).getD (.object [])

def wantedName (chat : LegacyChatFile) : String :=
  (((header lib chat).get "character_name").bind Json.asStr).getD chat.characterDir

/-- The character with the wanted name, or else the last one. -/
def chooseCharacter (wantedName : String) (characters : List CharacterRow) :
    AppResult CharacterRow :=
  match characters.find? (·.displayName == wantedName) with
  | some character => .ok character
  | none =>
    match characters.getLast? with
    | some character => .ok character
    | none => .error (.badRequest "CHARACTER_REQUIRED" "no character available for chat import")

def classification (chat : LegacyChatFile) : Classification :=
  if containsText ".pre_compress_" ((fileName chat.path).getD "") then .preCompressBackup
  else .primary

/-- A flag of a line; what is not a boolean counts as false. -/
def flag (raw : Json) (key : String) : Bool := ((raw.get key).bind Json.asBool).getD false

def role (raw : Json) : MessageRole :=
  if flag raw "is_system" then .system else if flag raw "is_user" then .user else .assistant

def original (raw : Json) : String := ((raw.get "mes").bind Json.asStr).getD ""

def prompt (raw : Json) : Option String := (raw.pointer ["extra", "display_text"]).bind Json.asStr

variable (x : ChatImport)

/-- The id of the conversation is the first new one, and the one of the archive the second. -/
def conversationId : String := x.newId 0

/-- A new turn of the conversation. -/
def startTurn (cursor : ImportCursor) : ChatTx (String × ImportCursor) := do
  let turnId := x.newId cursor.nextId
  ChatTx.insertTurn
    { id := turnId, conversationId := conversationId x, ordinal := cursor.ordinal + 1
      status := .pending, createdBy := x.accountId, activeAssistantMessageId := none
      createdAt := x.now, updatedAt := x.now }
  return (turnId, { cursor with ordinal := cursor.ordinal + 1, nextId := cursor.nextId + 1 })

/-- The turn of a message: a message of the user starts one, and the first reply joins it. -/
def turnOf (role : MessageRole) (cursor : ImportCursor) : ChatTx (Option String × ImportCursor) :=
  match role with
  | .system => return (none, cursor)
  | .user => do
    let (turnId, cursor) ← startTurn x cursor
    return (some turnId, { cursor with currentTurn := some (turnId, false) })
  | .assistant =>
    match cursor.currentTurn with
    | some (turnId, false) =>
      return (some turnId, { cursor with currentTurn := some (turnId, true) })
    | _ => do
      let (turnId, cursor) ← startTurn x cursor
      return (some turnId, { cursor with currentTurn := some (turnId, true) })

/-- The message of a line. -/
def messageRow (raw : Json) (turnId : Option String) (cursor : ImportCursor) : MessageRow where
  id := x.newId cursor.nextId
  conversationId := conversationId x
  turnId := turnId
  sequence := cursor.sequence
  role := role raw
  contentOriginal := original raw
  promptContent := prompt raw
  status := .active
  metadataJson := lib.toText raw
  sourceRawJson := some (lib.toText raw)
  sourceKind := some "st_jsonl"
  createdAt := x.now

/-- A reply completes its turn. -/
def finishTurn (row : MessageRow) : ChatTx Unit :=
  match row.role, row.turnId with
  | .assistant, some turnId => ChatTx.completeTurn turnId row.id x.now
  | _, _ => pure ()

def importMessage (cursor : ImportCursor) (raw : Json) : ChatTx ImportCursor := do
  let cursor := { cursor with sequence := cursor.sequence + 1 }
  let (turnId, cursor) ← turnOf x (role raw) cursor
  let row := messageRow lib x raw turnId cursor
  ChatTx.insertMessage row
  finishTurn x row
  return { cursor with count := cursor.count + 1, nextId := cursor.nextId + 1 }

/-- Lines that are not JSON are skipped. -/
def importLine (cursor : ImportCursor) (line : String) : ChatTx ImportCursor :=
  match lib.fromStr line with
  | some raw => importMessage lib x cursor raw
  | none => return cursor

/-- The rows of the conversation itself. -/
def importConversation (character : CharacterRow) : ChatTx Unit := do
  let title := (((header lib x.chat).get "character_name").bind Json.asStr).getD
    character.displayName
  ChatTx.insertConversation
    { id := conversationId x, workspaceId := x.workspaceId, characterId := character.id, title
      promptProfile := "legacy_bridge_v1", revision := 0
      archived := classification x.chat != .primary, legacyLocator := some x.chat.path
      createdAt := x.now, updatedAt := x.now }
  ChatTx.insertArchive
    { id := x.newId 1, conversationId := conversationId x, sourceHandle := x.handle
      sourcePath := x.chat.path, sourceChecksum := x.checksum
      rawHeaderJson := lib.toText (header lib x.chat), classification := classification x.chat
      importedAt := x.now }

/-- The messages of all lines after the header. -/
def importLines (lines : List String) (cursor : ImportCursor) : ChatTx ImportCursor :=
  lines.foldlM (importLine lib x) cursor

/-- The transaction of an import, which returns the id of the conversation and the number of its
messages. -/
def importRows (character : CharacterRow) : ChatTx (String × ℕ) := do
  importConversation lib x character
  let cursor ← importLines lib x (x.chat.lines.drop 1) ⟨0, 0, 0, none, 2⟩
  ChatTx.updateConversation (conversationId x) cursor.ordinal x.now
  return (conversationId x, cursor.count)

def importChat : ChatTx (String × ℕ) := do
  let db ← get
  let character ← liftM (chooseCharacter (wantedName lib x.chat) (db.charactersOf x.workspaceId))
  importRows lib x character

end ImportChat

/-! ## The messages of an import -/

namespace ImportChat

/-- What the export reads of a message. -/
structure MessageContent where
  role : MessageRole
  contentOriginal : String
  promptContent : Option String
  sourceRawJson : Option String

/-- What is kept of a message. -/
def content (r : MessageRow) : MessageContent :=
  ⟨r.role, r.contentOriginal, r.promptContent, r.sourceRawJson⟩

/-- What a line gives. -/
def contentOf (lib : JsonLibrary) (raw : Json) : MessageContent :=
  ⟨role raw, original raw, prompt raw, some (lib.toText raw)⟩

variable {lib : JsonLibrary} {x : ChatImport} {db db' : ChatDb} {cursor cursor' : ImportCursor}

theorem run_startTurn {turnId : String}
    (h : (startTurn x cursor).run db = .ok ((turnId, cursor'), db')) :
    ChatTx.KeepsChats db db' ∧ cursor'.sequence = cursor.sequence := by
  obtain ⟨u, db₁, hinsert, hreturn⟩ := run_bind_eq_ok.mp h
  obtain ⟨heq, rfl⟩ := run_pure_eq_ok.mp hreturn
  cases heq
  exact ⟨ChatTx.keepsChats_insertTurn hinsert, rfl⟩

theorem run_turnOf {role : MessageRole} {turnId : Option String}
    (h : (turnOf x role cursor).run db = .ok ((turnId, cursor'), db')) :
    ChatTx.KeepsChats db db' ∧ cursor'.sequence = cursor.sequence := by
  -- a new turn, with whatever is remembered of it
  have hstart : ∀ (replied : Bool), (startTurn x cursor >>= fun p => (pure (some p.1,
      { p.2 with currentTurn := some (p.1, replied) }) : ChatTx (Option String × ImportCursor))).run
        db = .ok ((turnId, cursor'), db') →
      ChatTx.KeepsChats db db' ∧ cursor'.sequence = cursor.sequence := by
    intro replied h
    obtain ⟨⟨id, cursor₁⟩, db₁, hrun, hreturn⟩ := run_bind_eq_ok.mp h
    obtain ⟨heq, rfl⟩ := run_pure_eq_ok.mp hreturn
    cases heq
    obtain ⟨hkeeps, hsequence⟩ := run_startTurn hrun
    exact ⟨hkeeps, hsequence⟩
  have hsame : ∀ {p : Option String × ImportCursor}, p.2.sequence = cursor.sequence →
      (pure p : ChatTx (Option String × ImportCursor)).run db = .ok ((turnId, cursor'), db') →
        ChatTx.KeepsChats db db' ∧ cursor'.sequence = cursor.sequence := by
    intro p hp h
    obtain ⟨heq, rfl⟩ := run_pure_eq_ok.mp h
    rw [← heq] at hp
    exact ⟨.refl _, hp⟩
  match role with
  | .system => exact hsame rfl h
  | .user => exact hstart false h
  | .assistant =>
    simp only [turnOf] at h
    split at h
    · exact hsame rfl h
    · exact hstart true h

theorem keepsChats_finishTurn {row : MessageRow} {u : Unit}
    (h : (finishTurn x row).run db = .ok (u, db')) : ChatTx.KeepsChats db db' := by
  unfold finishTurn at h
  split at h
  · exact ChatTx.keepsChats_completeTurn h
  · obtain ⟨-, rfl⟩ := run_pure_eq_ok.mp h
    exact .refl _

/-- One message is added, with the next number. -/
theorem run_importMessage {raw : Json}
    (h : (importMessage lib x cursor raw).run db = .ok (cursor', db')) :
    cursor'.sequence = cursor.sequence + 1 ∧ db'.archives = db.archives ∧
      ∃ row, db'.messages.rows = db.messages.rows ++ [row] ∧ content row = contentOf lib raw ∧
        row.conversationId = conversationId x ∧ row.status = .active ∧
          row.sequence = cursor.sequence + 1 := by
  obtain ⟨⟨turnId, cursor₁⟩, db₁, hturn, hrest⟩ := run_bind_eq_ok.mp h
  obtain ⟨u₁, db₂, hinsert, hrest⟩ := run_bind_eq_ok.mp hrest
  obtain ⟨u₂, db₃, hfinish, hreturn⟩ := run_bind_eq_ok.mp hrest
  obtain ⟨rfl, rfl⟩ := run_pure_eq_ok.mp hreturn
  obtain ⟨⟨harchives₁, hmessages₁⟩, hsequence⟩ := run_turnOf hturn
  obtain ⟨hmessages₂, harchives₂⟩ := ChatTx.run_insertMessage hinsert
  obtain ⟨harchives₃, hmessages₃⟩ := keepsChats_finishTurn hfinish
  have hcursor : cursor₁.sequence = cursor.sequence + 1 := hsequence
  refine ⟨hcursor, harchives₃.trans (harchives₂.trans harchives₁),
    messageRow lib x raw turnId cursor₁, ?_, rfl, rfl, rfl, hcursor⟩
  rw [hmessages₃, hmessages₂, hmessages₁]

/-- **The messages of the lines, one after the other.** -/
theorem messages_importLines {lines : List String}
    (h : (importLines lib x lines cursor).run db = .ok (cursor', db')) :
    db'.archives = db.archives ∧ ∃ rows, db'.messages.rows = db.messages.rows ++ rows ∧
      rows.map content = (lines.filterMap lib.fromStr).map (contentOf lib) ∧
      (∀ r ∈ rows, r.conversationId = conversationId x ∧ r.status = .active ∧
        cursor.sequence < r.sequence) ∧
      rows.Pairwise fun r s => r.sequence < s.sequence := by
  induction lines generalizing cursor db with
  | nil =>
    obtain ⟨-, rfl⟩ := run_pure_eq_ok.mp h
    exact ⟨rfl, [], (List.append_nil _).symm, rfl, fun r hr => absurd hr List.not_mem_nil, .nil⟩
  | cons line lines ih =>
    rw [importLines, List.foldlM_cons] at h
    obtain ⟨cursor₁, db₁, hline, hrest⟩ := run_bind_eq_ok.mp h
    obtain ⟨harchives, rows, hrows, hcontent, hall, hpairwise⟩ := ih hrest
    cases hjson : lib.fromStr line with
    | none =>
      -- the line is skipped
      simp only [importLine, hjson] at hline
      obtain ⟨rfl, rfl⟩ := run_pure_eq_ok.mp hline
      refine ⟨harchives, rows, hrows, ?_, hall, hpairwise⟩
      rw [List.filterMap_cons_none hjson]
      exact hcontent
    | some raw =>
      simp only [importLine, hjson] at hline
      obtain ⟨hsequence, harchives₁, row, hrow, hrowContent, hid, hactive, hrowSequence⟩ :=
        run_importMessage hline
      refine ⟨harchives.trans harchives₁, row :: rows, ?_, ?_, ?_, ?_⟩
      · rw [hrows, hrow, List.append_assoc]
        rfl
      · rw [List.filterMap_cons_some hjson, List.map_cons, List.map_cons, hrowContent, hcontent]
      · intro r hr
        rcases List.mem_cons.mp hr with rfl | hr
        · exact ⟨hid, hactive, by omega⟩
        · obtain ⟨hrid, hractive, hrsequence⟩ := hall r hr
          exact ⟨hrid, hractive, by omega⟩
      · refine List.pairwise_cons.mpr ⟨fun r hr => ?_, hpairwise⟩
        have := (hall r hr).2.2
        omega

/-- **The messages of an imported conversation** are those of its lines, in their order. -/
theorem messagesOf_importChat {id : String} {count : ℕ}
    (h : (importChat lib x).run db = .ok ((id, count), db')) :
    id = conversationId x ∧ ((db'.messagesOf id).map content =
      ((x.chat.lines.drop 1).filterMap lib.fromStr).map (contentOf lib)) ∧
        ∀ r ∈ db'.messagesOf id, r.status = .active := by
  obtain ⟨character, hchoose, hrows⟩ :=
    run_lift_bind_eq_ok.mp (run_get_bind_eq_ok.mp h)
  obtain ⟨u₁, db₁, hconversation, hrest⟩ := run_bind_eq_ok.mp hrows
  obtain ⟨cursor, db₂, hlines, hrest⟩ := run_bind_eq_ok.mp hrest
  obtain ⟨u₂, db₃, hupdate, hreturn⟩ := run_bind_eq_ok.mp hrest
  obtain ⟨heq, rfl⟩ := run_pure_eq_ok.mp hreturn
  cases heq
  obtain ⟨u₃, db₀, hinsert, harchive⟩ := run_bind_eq_ok.mp hconversation
  obtain ⟨hnew, -, hmessages₀⟩ := ChatTx.run_insertConversation hinsert
  obtain ⟨-, hmessages₁⟩ := ChatTx.run_insertArchive harchive
  obtain ⟨-, rows, hmessages₂, hcontent, hall, hpairwise⟩ := messages_importLines hlines
  obtain ⟨-, hmessages₃⟩ := ChatTx.keepsChats_updateConversation hupdate
  -- no message can refer to a conversation that is not there
  have hold : db.messages.rows.filter (·.conversationId == conversationId x) = [] := by
    refine List.filter_eq_nil_iff.mpr fun m hm heq => ?_
    obtain ⟨c, hc, hid⟩ := db.messageLinked m hm
    exact hnew c hc (hid.trans (eq_of_beq heq))
  have hmine : rows.filter (·.conversationId == conversationId x) = rows := by
    refine List.filter_eq_self.mpr fun r hr => ?_
    rw [(hall r hr).1]
    exact beq_self_eq_true _
  have hmessages : db'.messagesOf (conversationId x) = rows := by
    rw [ChatDb.messagesOf, hmessages₃, hmessages₂, hmessages₁, hmessages₀, List.filter_append, hold,
      hmine, List.nil_append]
    exact List.Pairwise.insertionSort_eq (hpairwise.imp fun hlt => Int.le_of_lt hlt)
  rw [hmessages]
  exact ⟨rfl, hcontent, fun r hr => (hall r hr).2.1⟩

end ImportChat

end ImBridge
