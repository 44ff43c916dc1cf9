import Mathlib.Data.List.Sort
import ImBridge.Bridge.Errors
import ImBridge.Relational.Table
import ImBridge.Relational.Transaction

/-!
# The tables of characters and conversations

Conversations belong to a character, and archives and messages to a conversation; the tables carry
these references, so that a row that refers to nothing cannot be inserted.

## Main definitions

* `CharacterRow`, `ConversationRow`, `ArchiveRow`, `TurnRow`, `MessageRow`: the rows of
  `characters`, `conversations`, `legacy_chat_archives`, `turns` and `messages`
* `ChatDb`: the tables with their references
* `ChatTx.insertConversation` to `ChatTx.updateConversation`: the statements of an import
* `ChatDb.charactersOf`, `ChatDb.messagesOf`: what is selected from them, in its order
-/

namespace ImBridge

open Relational

/-! ## Rows -/

structure CharacterRow where
  id : String
  workspaceId : String
  displayName : String
  currentRevisionId : Option String
  archived : Bool
  createdAt : String
  updatedAt : String
  deriving DecidableEq

def CharacterRow.Clash (r s : CharacterRow) : Prop := r.id = s.id

structure ConversationRow where
  id : String
  workspaceId : String
  characterId : String
  title : String
  promptProfile : String
  revision : ℤ
  archived : Bool
  legacyLocator : Option String
  createdAt : String
  updatedAt : String
  deriving DecidableEq

def ConversationRow.Clash (r s : ConversationRow) : Prop := r.id = s.id

instance : DecidableRel ConversationRow.Clash := fun r s =>
  inferInstanceAs (Decidable (r.id = s.id))

inductive Classification
  | primary
  | preCompressBackup
  | other
  deriving DecidableEq, Repr

structure ArchiveRow where
  id : String
  conversationId : String
  sourceHandle : String
  sourcePath : String
  sourceChecksum : String
  rawHeaderJson : String
  classification : Classification
  importedAt : String
  deriving DecidableEq

def ArchiveRow.Clash (r s : ArchiveRow) : Prop := r.id = s.id

instance : DecidableRel ArchiveRow.Clash := fun r s => inferInstanceAs (Decidable (r.id = s.id))

inductive TurnStatus
  | pending
  | complete
  | failed
  | revoked
  deriving DecidableEq, Repr

structure TurnRow where
  id : String
  conversationId : String
  ordinal : ℤ
  status : TurnStatus
  createdBy : String
  activeAssistantMessageId : Option String
  createdAt : String
  updatedAt : String
  deriving DecidableEq

/-- The primary key `id`, and `(conversation_id, ordinal)`. -/
def TurnRow.Clash (r s : TurnRow) : Prop :=
  r.id = s.id ∨ (r.conversationId = s.conversationId ∧ r.ordinal = s.ordinal)

instance : DecidableRel TurnRow.Clash := fun _ _ => inferInstanceAs (Decidable (_ ∨ _))

inductive MessageRole
  | system
  | user
  | assistant
  deriving DecidableEq, Repr

inductive MessageStatus
  | active
  | revoked
  | superseded
  deriving DecidableEq, Repr

structure MessageRow where
  id : String
  conversationId : String
  turnId : Option String
  sequence : ℤ
  role : MessageRole
  contentOriginal : String
  promptContent : Option String
  status : MessageStatus
  metadataJson : String
  sourceRawJson : Option String
  sourceKind : Option String
  createdAt : String
  deriving DecidableEq

/-- The primary key `id`, and `(conversation_id, sequence)`. -/
def MessageRow.Clash (r s : MessageRow) : Prop :=
  r.id = s.id ∨ (r.conversationId = s.conversationId ∧ r.sequence = s.sequence)

instance : DecidableRel MessageRow.Clash := fun _ _ => inferInstanceAs (Decidable (_ ∨ _))

/-! ## Tables -/

/-- The tables, with the references from conversations to characters, and from archives and messages
to conversations. -/
structure ChatDb where
  characters : Table CharacterRow CharacterRow.Clash
  conversations : Table ConversationRow ConversationRow.Clash
  archives : Table ArchiveRow ArchiveRow.Clash
  turns : Table TurnRow TurnRow.Clash
  messages : Table MessageRow MessageRow.Clash
  conversationLinked : ∀ c ∈ conversations.rows, ∃ r ∈ characters.rows, r.id = c.characterId
  archiveLinked : ∀ a ∈ archives.rows, ∃ c ∈ conversations.rows, c.id = a.conversationId
  messageLinked : ∀ m ∈ messages.rows, ∃ c ∈ conversations.rows, c.id = m.conversationId

namespace ChatDb

def empty : ChatDb where
  characters := .empty
  conversations := .empty
  archives := .empty
  turns := .empty
  messages := .empty
  conversationLinked := fun _ h => absurd h List.not_mem_nil
  archiveLinked := fun _ h => absurd h List.not_mem_nil
  messageLinked := fun _ h => absurd h List.not_mem_nil

/-- The characters of a workspace by their names. -/
def charactersOf (db : ChatDb) (workspaceId : String) : List CharacterRow :=
  (db.characters.rows.filter (·.workspaceId == workspaceId)).insertionSort
    fun r s => r.displayName ≤ s.displayName

/-- The messages of a conversation in their sequence. -/
def messagesOf (db : ChatDb) (conversationId : String) : List MessageRow :=
  (db.messages.rows.filter (·.conversationId == conversationId)).insertionSort
    fun r s => r.sequence ≤ s.sequence

/-- The first archive of a conversation. -/
def archiveOf (db : ChatDb) (conversationId : String) : Option ArchiveRow :=
  ((db.archives.rows.filter (·.conversationId == conversationId)).insertionSort
    fun r s => r.importedAt ≤ s.importedAt).head?

end ChatDb

/-! ## Statements -/

/-- Transactions on these tables. -/
abbrev ChatTx (α : Type) := Transaction ChatDb AppError α

namespace ChatTx

def insertConversation (row : ConversationRow) : ChatTx Unit := fun db =>
  if hlinked : ∃ r ∈ db.characters.rows, r.id = row.characterId then
    match h : db.conversations.insert? row with
    | none => .error .database
    | some conversations => .ok ((), { db with
        conversations
        conversationLinked := fun c hc => by
          rw [(Table.insert?_eq_some h).1, List.mem_append, List.mem_singleton] at hc
          rcases hc with hc | rfl
          · exact db.conversationLinked c hc
          · exact hlinked
        archiveLinked := fun a ha => by
          obtain ⟨c, hc, hid⟩ := db.archiveLinked a ha
          rw [(Table.insert?_eq_some h).1]
          exact ⟨c, List.mem_append_left _ hc, hid⟩
        messageLinked := fun m hm => by
          obtain ⟨c, hc, hid⟩ := db.messageLinked m hm
          rw [(Table.insert?_eq_some h).1]
          exact ⟨c, List.mem_append_left _ hc, hid⟩ })
  else .error .database

def insertArchive (row : ArchiveRow) : ChatTx Unit := fun db =>
  if hlinked : ∃ c ∈ db.conversations.rows, c.id = row.conversationId then
    match h : db.archives.insert? row with
    | none => .error .database
    | some archives => .ok ((), { db with
        archives
        archiveLinked := fun a ha => by
          rw [(Table.insert?_eq_some h).1, List.mem_append, List.mem_singleton] at ha
          rcases ha with ha | rfl
          · exact db.archiveLinked a ha
          · exact hlinked })
  else .error .database

def insertTurn (row : TurnRow) : ChatTx Unit := fun db =>
  match db.turns.insert? row with
  | none => .error .database
  | some turns => .ok ((), { db with turns })

def insertMessage (row : MessageRow) : ChatTx Unit := fun db =>
  if hlinked : ∃ c ∈ db.conversations.rows, c.id = row.conversationId then
    match h : db.messages.insert? row with
    | none => .error .database
    | some messages => .ok ((), { db with
        messages
        messageLinked := fun m hm => by
          rw [(Table.insert?_eq_some h).1, List.mem_append, List.mem_singleton] at hm
          rcases hm with hm | rfl
          · exact db.messageLinked m hm
          · exact hlinked })
  else .error .database

/-- `SET status = 'complete', active_assistant_message_id = ?, updated_at = ?`. -/
def setComplete (messageId now : String) : Table.Change TurnRow TurnRow.Clash where
  set r :=
    { r with status := .complete, activeAssistantMessageId := some messageId, updatedAt := now }
  left _ _ := Iff.rfl
  right _ _ := Iff.rfl

def completeTurn (turnId messageId now : String) : ChatTx Unit := fun db =>
  .ok ((), { db with turns := db.turns.update (·.id == turnId) (setComplete messageId now) })

/-- `SET revision = ?, updated_at = ?`. -/
def setRevision (revision : ℤ) (now : String) :
    Table.Change ConversationRow ConversationRow.Clash where
  set r := { r with revision, updatedAt := now }
  left _ _ := Iff.rfl
  right _ _ := Iff.rfl

/-- The update of a revision leaves the id and the character alone. -/
theorem on_setRevision (revision : ℤ) (now : String) (p : ConversationRow → Bool)
    (c : ConversationRow) : ((setRevision revision now).on p c).id = c.id ∧
      ((setRevision revision now).on p c).characterId = c.characterId := by
  unfold Table.Change.on
  split <;> exact ⟨rfl, rfl⟩

def updateConversation (conversationId : String) (revision : ℤ) (now : String) : ChatTx Unit :=
  fun db =>
    let change := setRevision revision now
    have hlinked : ∀ {id : String}, (∃ c ∈ db.conversations.rows, c.id = id) →
        ∃ c ∈ (db.conversations.update (·.id == conversationId) change).rows, c.id = id := by
      rintro id ⟨c, hc, rfl⟩
      exact ⟨_, Table.mem_update.mpr ⟨c, hc, rfl⟩, (on_setRevision _ _ _ c).1⟩
    .ok ((), { db with
      conversations := db.conversations.update (·.id == conversationId) change
      conversationLinked := fun c' hc' => by
        obtain ⟨c, hc, rfl⟩ := Table.mem_update.mp hc'
        rw [(on_setRevision _ _ _ c).2]
        exact db.conversationLinked c hc
      archiveLinked := fun a ha => hlinked (db.archiveLinked a ha)
      messageLinked := fun m hm => hlinked (db.messageLinked m hm) })

/-! ### What the statements leave alone -/

section Specs

variable {db db' : ChatDb} {u : Unit}

/-- The archives and messages are as before. -/
def KeepsChats (db db' : ChatDb) : Prop :=
  db'.archives = db.archives ∧ db'.messages = db.messages

theorem KeepsChats.refl (db : ChatDb) : KeepsChats db db := ⟨rfl, rfl⟩

theorem keepsChats_insertTurn {row : TurnRow} (h : (insertTurn row).run db = .ok (u, db')) :
    KeepsChats db db' := by
  simp only [insertTurn, StateT.run] at h
  split at h
  · cases h
  · cases h
    exact .refl _

theorem keepsChats_completeTurn {turnId messageId now : String}
    (h : (completeTurn turnId messageId now).run db = .ok (u, db')) : KeepsChats db db' := by
  cases h
  exact .refl _

theorem keepsChats_updateConversation {conversationId : String} {revision : ℤ} {now : String}
    (h : (updateConversation conversationId revision now).run db = .ok (u, db')) :
    KeepsChats db db' := by
  cases h
  exact .refl _

/-- A conversation that is inserted is new. -/
theorem run_insertConversation {row : ConversationRow}
    (h : (insertConversation row).run db = .ok (u, db')) :
    (∀ c ∈ db.conversations.rows, c.id ≠ row.id) ∧ KeepsChats db db' := by
  simp only [insertConversation, StateT.run] at h
  split at h
  · split at h
    · cases h
    · rename_i hinsert
      cases h
      exact ⟨(Table.insert?_eq_some hinsert).2, .refl _⟩
  · cases h

theorem run_insertArchive {row : ArchiveRow} (h : (insertArchive row).run db = .ok (u, db')) :
    db'.archives.rows = db.archives.rows ++ [row] ∧ db'.messages = db.messages := by
  simp only [insertArchive, StateT.run] at h
  split at h
  · split at h
    · cases h
    · rename_i hinsert
      cases h
      exact ⟨(Table.insert?_eq_some hinsert).1, rfl⟩
  · cases h

theorem run_insertMessage {row : MessageRow} (h : (insertMessage row).run db = .ok (u, db')) :
    db'.messages.rows = db.messages.rows ++ [row] ∧ db'.archives = db.archives := by
  simp only [insertMessage, StateT.run] at h
  split at h
  · split at h
    · cases h
    · rename_i hinsert
      cases h
      exact ⟨(Table.insert?_eq_some hinsert).1, rfl⟩
  · cases h

end Specs

end ChatTx

end ImBridge
