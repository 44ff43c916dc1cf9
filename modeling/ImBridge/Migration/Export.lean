import Mathlib.Data.List.Dedup
import ImBridge.Domain.JsonText
import ImBridge.Interleaving.Alone
import ImBridge.Migration.ImportChat

/-!
# The export of a workspace

The export writes one file for each conversation: its header and its active messages, a line each.
The file is named after the path that the conversation was imported from, or else after its title
and id. The names are made safe for file systems, and a file that is there already is overwritten,
so two conversations with the same path, or with paths that become the same, end in one file.

## Main definitions

* `safePathComponent`, `ExportRow.target`: the directory and the name of a file
* `Export.exportLines`, `Export.exportWorkspace`: the lines of a conversation, and the export
* `exportSemantics`: the tables and the output directory, with calls that may fail
* `HoldsChat`: a text with the header of a conversation, and a line for each active message
* `ExportedWhole`: there is one file for each conversation, which holds it

## Main results

* `runs_exportWorkspace`: the files that an export writes, one after the other
* `export_loses_nothing`: the export is whole exactly if the files of the conversations are apart
* `reimported_chat_overwritten`: a chat that was imported twice is exported once
-/

namespace ImBridge

open Interleaving

/-! ## Names -/

/-- The characters that are replaced. -/
def isUnsafeChar (c : Char) : Bool :=
  c == '<' || c == '>' || c == ':' || c == '"' || c == '/' || c == '\\' || c == '|' || c == '?' ||
    c == '*' || c.toNat ≤ 0x1f

def safePathComponent (value : String) : String :=
  let sanitized := String.ofList (value.toList.map fun c => if isUnsafeChar c then '_' else c)
  let sanitized := trimMatches '.' (trim sanitized)
  if sanitized = "" ∨ sanitized = "." ∨ sanitized = ".." then "unnamed" else sanitized

/-- A conversation as the export reads it, with the name of its character. -/
structure ExportRow where
  id : String
  title : String
  legacyLocator : Option String
  characterName : String
  deriving DecidableEq

/-- A directory below the output directory, and a file in it. -/
abbrev ExportPath := String × String

namespace ExportRow

def filename (r : ExportRow) : String :=
  match r.legacyLocator.bind fileName with
  | some name => safePathComponent name
  | none => safePathComponent r.title ++ "-" ++ r.id ++ ".jsonl"

def characterDir (r : ExportRow) : String :=
  match r.legacyLocator.bind parentFileName with
  | some name => safePathComponent name
  | none => safePathComponent r.characterName

def target (r : ExportRow) : ExportPath := (r.characterDir, r.filename)

end ExportRow

/-- The conversations of a workspace, each with the name of its character. -/
def ChatDb.exportRows (db : ChatDb) (workspaceId : String) : List ExportRow :=
  (db.conversations.rows.filter (·.workspaceId == workspaceId)).filterMap fun c =>
    (db.characters.rows.find? (·.id == c.characterId)).map fun character =>
      ⟨c.id, c.title, c.legacyLocator, character.displayName⟩

/-! ## Lines -/

/-- The object with the field set: in its place, or else at the end. -/
def setField (key : String) (value : Json) : List (String × Json) → List (String × Json)
  | [] => [(key, value)]
  | (k, v) :: fields =>
    if k = key then (k, value) :: fields else (k, v) :: setField key value fields

theorem lookup_setField (key k : String) (value : Json) (fields : List (String × Json)) :
    (setField key value fields).lookup k = if k = key then some value else fields.lookup k := by
  induction fields with
  | nil =>
    by_cases h : k = key
    · simp [setField, h]
    · simp [setField, h, List.lookup_cons, beq_false_of_ne h]
  | cons field fields ih =>
    obtain ⟨k', v'⟩ := field
    simp only [setField]
    by_cases hkey : k' = key
    · subst hkey
      by_cases h : k = k'
      · simp [h]
      · simp [h, List.lookup_cons, beq_false_of_ne h]
    · rw [if_neg hkey, List.lookup_cons, List.lookup_cons, ih]
      by_cases h : k = k'
      · subst h
        simp [hkey]
      · simp [beq_false_of_ne h]

namespace Export

variable (lib : JsonLibrary)

/-- The object of a message: what it was imported from, with its text and flags. -/
def exportObject (c : ImportChat.MessageContent) : Json :=
  match (c.sourceRawJson.bind lib.fromStr).getD (.object []) with
  | .object fields =>
    let fields := setField "mes" (.string (c.promptContent.getD c.contentOriginal)) fields
    let fields := setField "is_user" (.bool (c.role == .user)) fields
    .object (setField "is_system" (.bool (c.role == .system)) fields)
  | value => value

/-- The object of a message, if that was imported from an object or not at all. -/
theorem get_exportObject {c : ImportChat.MessageContent} {fields : List (String × Json)}
    (h : (c.sourceRawJson.bind lib.fromStr).getD (.object []) = .object fields) :
    (∃ fields', exportObject lib c = .object fields') ∧
      (exportObject lib c).get "mes" = some (.string (c.promptContent.getD c.contentOriginal)) ∧
      (exportObject lib c).get "is_user" = some (.bool (c.role == .user)) ∧
      (exportObject lib c).get "is_system" = some (.bool (c.role == .system)) ∧
      ∀ key, key ≠ "mes" → key ≠ "is_user" → key ≠ "is_system" →
        (exportObject lib c).get key = Json.get (.object fields) key := by
  unfold exportObject
  rw [h]
  refine ⟨⟨_, rfl⟩, ?_, ?_, ?_, fun key hmes huser hsystem => ?_⟩
  · simp [Json.get, lookup_setField]
  · simp [Json.get, lookup_setField]
  · simp [Json.get, lookup_setField]
  · simp [Json.get, lookup_setField, hmes, huser, hsystem]

/-- The header of the archive, or else a new one. -/
def headerObject (archive : Option ArchiveRow) (newId title : String) : Json :=
  (archive.bind fun a => lib.fromStr a.rawHeaderJson).getD
    (.object [("chat_metadata", .object [("integrity", .string newId)]),
      ("character_name", .string title)])

/-- The header and the active messages, a line each. -/
def exportLines (archive : Option ArchiveRow) (messages : List MessageRow) (newId title : String) :
    List String :=
  lib.toText (headerObject lib archive newId title) ::
    (messages.filter (·.status == .active)).map fun m =>
      lib.toText (exportObject lib (ImportChat.content m))

def fileText (lines : List String) : String := String.intercalate "\n" lines ++ "\n"

end Export

/-! ## The export -/

/-- The calls of an export: on the tables, on the output directory, and for a new id. -/
inductive ExportCall
  | createDirAll (dir : Option String)
  | selectConversations (workspaceId : String)
  | selectArchive (conversationId : String)
  | selectMessages (conversationId : String)
  | newId
  | write (path : ExportPath) (text : String)

@[reducible] def ExportCall.Reply : ExportCall → Type
  | createDirAll _ => AppResult Unit
  | selectConversations _ => AppResult (List ExportRow)
  | selectArchive _ => AppResult (Option ArchiveRow)
  | selectMessages _ => AppResult (List MessageRow)
  | newId => String
  | write .. => AppResult Unit

abbrev exportCalls : Signature := ⟨ExportCall, ExportCall.Reply⟩

abbrev ExportTask (α : Type) := Fallible exportCalls AppError α

/-- The tables, and the files below the output directory. -/
structure ExportWorld where
  db : ChatDb
  files : List (ExportPath × String)

/-- The files after one is written, in the place of one with the same path. -/
def writeFile (files : List (ExportPath × String)) (file : ExportPath × String) :
    List (ExportPath × String) :=
  files.filter (·.1 != file.1) ++ [file]

/-- What a call may reply and do. The conversations come in any order. A call that fails may leave
any files behind. -/
def ExportCall.Effect (w : ExportWorld) : (c : ExportCall) → c.Reply → ExportWorld → Prop
  | createDirAll _, .ok _, w' => w' = w
  | selectConversations workspaceId, .ok rows, w' =>
      rows.Perm (w.db.exportRows workspaceId) ∧ w' = w
  | selectArchive conversationId, .ok archive, w' =>
      archive = w.db.archiveOf conversationId ∧ w' = w
  | selectMessages conversationId, .ok messages, w' =>
      messages = w.db.messagesOf conversationId ∧ w' = w
  | newId, _, w' => w' = w
  | write path text, .ok _, w' => w' = { w with files := writeFile w.files (path, text) }
  | createDirAll _, .error _, w' | selectConversations _, .error _, w'
  | selectArchive _, .error _, w' | selectMessages _, .error _, w'
  | write .., .error _, w' => w'.db = w.db

def exportSemantics (A : Type) : Semantics exportCalls A ExportWorld where
  effect _ m c r w := c.Effect m.world r w
  drift _ _ := False

namespace Export

variable (lib : JsonLibrary)

/-- Makes the call and returns its reply. -/
def ask (c : ExportCall) : Program exportCalls c.Reply := Program.perform (σ := exportCalls) c

def createDirAll (dir : Option String) : ExportTask Unit := ExceptT.mk (ask (.createDirAll dir))

def write (path : ExportPath) (text : String) : ExportTask Unit :=
  ExceptT.mk (ask (.write path text))

def exportConversation (row : ExportRow) : ExportTask Unit := do
  let archive ← (ExceptT.mk (ask (.selectArchive row.id)) : ExportTask (Option ArchiveRow))
  let messages ← (ExceptT.mk (ask (.selectMessages row.id)) : ExportTask (List MessageRow))
  let newId ← ask .newId
  createDirAll (some row.characterDir)
  write row.target (fileText (exportLines lib archive messages newId row.title))

def exportWorkspace (workspaceId : String) : ExportTask ℕ := do
  createDirAll none
  let rows ← (ExceptT.mk (ask (.selectConversations workspaceId)) : ExportTask (List ExportRow))
  rows.foldlM (fun count row => do exportConversation lib row; return count + 1) 0

end Export

/-! ## Files that are written one after the other -/

section Files

variable {files writes : List (ExportPath × String)}

theorem nodup_writeFile (h : (files.map Prod.fst).Nodup) (file : ExportPath × String) :
    ((writeFile files file).map Prod.fst).Nodup := by
  rw [writeFile, List.map_append, List.nodup_append]
  refine ⟨h.sublist (List.filter_sublist.map _), List.nodup_singleton _, ?_⟩
  intro p hp q hq
  obtain ⟨f, hf, rfl⟩ := List.mem_map.mp hp
  have hne := (List.mem_filter.mp hf).2
  rw [List.map_singleton, List.mem_singleton] at hq
  rw [hq]
  simpa using hne

/-- No two files have one path, and every path was there or is written. -/
theorem paths_foldl_writeFile (h : (files.map Prod.fst).Nodup) :
    ((writes.foldl writeFile files).map Prod.fst).Nodup ∧
      ∀ p ∈ (writes.foldl writeFile files).map Prod.fst,
        p ∈ files.map Prod.fst ∨ p ∈ writes.map Prod.fst := by
  induction writes generalizing files with
  | nil => exact ⟨h, fun p hp => .inl hp⟩
  | cons file writes ih =>
    obtain ⟨hnodup, hpaths⟩ := ih (nodup_writeFile h file)
    refine ⟨hnodup, fun p hp => ?_⟩
    rcases hpaths p hp with hp | hp
    · rw [writeFile, List.map_append, List.mem_append] at hp
      rcases hp with hp | hp
      · exact .inl ((List.filter_sublist.map _).subset hp)
      · refine .inr ?_
        rw [List.map_cons, List.mem_cons]
        exact .inl (List.mem_singleton.mp hp)
    · exact .inr (List.mem_cons_of_mem _ hp)

/-- Files that are apart are all there. -/
theorem foldl_writeFile_of_nodup (h : ((files ++ writes).map Prod.fst).Nodup) :
    writes.foldl writeFile files = files ++ writes := by
  induction writes generalizing files with
  | nil => exact (List.append_nil files).symm
  | cons file writes ih =>
    have hkept : files.filter (·.1 != file.1) = files := by
      refine List.filter_eq_self.mpr fun f hf => ?_
      rw [List.map_append, List.nodup_append] at h
      have hne := h.2.2 f.1 (List.mem_map_of_mem hf) file.1 (List.mem_map_of_mem List.mem_cons_self)
      simpa using hne
    rw [List.foldl_cons, writeFile, hkept, ih (by simpa using h), List.append_assoc]
    rfl

/-- **As many files as writes only if the writes are apart.** -/
theorem nodup_of_length_foldl_writeFile
    (h : (writes.foldl writeFile []).length = writes.length) : (writes.map Prod.fst).Nodup := by
  obtain ⟨hnodup, hpaths⟩ := @paths_foldl_writeFile [] writes List.nodup_nil
  have hsubset : (writes.foldl writeFile []).map Prod.fst ⊆ (writes.map Prod.fst).dedup := by
    intro p hp
    rcases hpaths p hp with hp | hp
    · exact absurd hp List.not_mem_nil
    · exact List.mem_dedup.mpr hp
  have hle := (List.subperm_of_subset hnodup hsubset).length_le
  rw [List.length_map, h] at hle
  rw [← List.dedup_eq_self]
  refine (List.dedup_sublist _).eq_of_length_le ?_
  rw [List.length_map]
  exact hle

end Files

/-! ## What an export writes -/

section Runs

variable {lib : JsonLibrary} {A : Type} {t : A} {m m' : Moment exportCalls A ExportWorld}

/-- The text of the file of a conversation. -/
def exportText (lib : JsonLibrary) (db : ChatDb) (newId : String) (row : ExportRow) : String :=
  Export.fileText
    (Export.exportLines lib (db.archiveOf row.id) (db.messagesOf row.id) newId row.title)

theorem runs_exportConversation {row : ExportRow} {u : Unit}
    (h : Runs (exportSemantics A) t (Export.exportConversation lib row).run m (.ok u) m') :
    m'.world.db = m.world.db ∧ ∃ newId, m'.world.files =
      writeFile m.world.files (row.target, exportText lib m.world.db newId row) := by
  obtain ⟨archive, m₁, harchive, h⟩ := Fallible.runs_bind_ok h
  obtain ⟨w₁, ⟨rfl, rfl⟩, rfl⟩ := Runs.of_perform harchive
  obtain ⟨messages, m₂, hmessages, h⟩ := Fallible.runs_bind_ok h
  obtain ⟨w₂, ⟨rfl, rfl⟩, rfl⟩ := Runs.of_perform hmessages
  obtain ⟨newId, m₃, hid, h⟩ := Fallible.runs_lift_bind h
  obtain ⟨w₃, rfl, rfl⟩ := Runs.of_perform hid
  obtain ⟨u₁, m₄, hdir, hwrite⟩ := Fallible.runs_bind_ok h
  obtain ⟨w₄, rfl, rfl⟩ := Runs.of_perform hdir
  obtain ⟨w₅, rfl, rfl⟩ := Runs.of_perform hwrite
  exact ⟨rfl, newId, rfl⟩

/-- A file is the one of a conversation: it has its path and its text. -/
def IsFileOf (lib : JsonLibrary) (db : ChatDb) (row : ExportRow) (file : ExportPath × String) :
    Prop :=
  file.1 = row.target ∧ ∃ newId, file.2 = exportText lib db newId row

theorem runs_exportRows {rows : List ExportRow} {count n : ℕ}
    (h : Runs (exportSemantics A) t (rows.foldlM (fun count row => do
      Export.exportConversation lib row; return count + 1) count : ExportTask ℕ).run m (.ok n) m') :
    n = count + rows.length ∧ ∃ writes,
      List.Forall₂ (IsFileOf lib m.world.db) rows writes ∧
        m'.world.files = writes.foldl writeFile m.world.files := by
  induction rows generalizing count m with
  | nil =>
    cases h
    exact ⟨rfl, [], .nil, rfl⟩
  | cons row rows ih =>
    rw [List.foldlM_cons] at h
    obtain ⟨count₁, m₁, hrow, hrest⟩ := Fallible.runs_bind_ok h
    obtain ⟨u, m₂, hconversation, hreturn⟩ := Fallible.runs_bind_ok hrow
    cases hreturn
    obtain ⟨hdb, newId, hfiles⟩ := runs_exportConversation hconversation
    obtain ⟨hn, writes, hwrites, hfiles'⟩ := ih hrest
    rw [hdb] at hwrites
    refine ⟨?_, (row.target, exportText lib m.world.db newId row) :: writes,
      .cons ⟨rfl, newId, rfl⟩ hwrites, ?_⟩
    · rw [hn, List.length_cons]
      omega
    · rw [hfiles', hfiles, List.foldl_cons]

/-- **The files that an export writes, one after the other.** -/
theorem runs_exportWorkspace {workspaceId : String} {n : ℕ}
    (h : Runs (exportSemantics A) t (Export.exportWorkspace lib workspaceId).run m (.ok n) m') :
    ∃ rows writes, rows.Perm (m.world.db.exportRows workspaceId) ∧ n = rows.length ∧
      List.Forall₂ (IsFileOf lib m.world.db) rows writes ∧
        m'.world.files = writes.foldl writeFile m.world.files := by
  obtain ⟨u, m₁, hdir, h⟩ := Fallible.runs_bind_ok h
  obtain ⟨w₁, rfl, rfl⟩ := Runs.of_perform hdir
  obtain ⟨rows, m₂, hselect, h⟩ := Fallible.runs_bind_ok h
  obtain ⟨w₂, ⟨hrows, rfl⟩, rfl⟩ := Runs.of_perform hselect
  obtain ⟨hn, writes, hwrites, hfiles⟩ := runs_exportRows h
  exact ⟨rows, writes, hrows, by rw [hn, Nat.zero_add], hwrites, hfiles⟩

end Runs

/-! ## Whole exports -/

namespace ChatDb

/-- The conversations of a workspace. -/
def conversationsOf (db : ChatDb) (workspaceId : String) : List ConversationRow :=
  db.conversations.rows.filter (·.workspaceId == workspaceId)

/-- A conversation as the export reads it. -/
def exportRow (db : ChatDb) (c : ConversationRow) : ExportRow where
  id := c.id
  title := c.title
  legacyLocator := c.legacyLocator
  characterName := ((db.characters.rows.find? (·.id == c.characterId)).map (·.displayName)).getD ""

/-- Every conversation has a character, so the export reads all of them. -/
theorem exportRows_eq (db : ChatDb) (workspaceId : String) :
    db.exportRows workspaceId = (db.conversationsOf workspaceId).map db.exportRow := by
  rw [exportRows, conversationsOf, ← List.filterMap_eq_map]
  refine List.filterMap_congr fun c hc => ?_
  obtain ⟨r, hr, hid⟩ := db.conversationLinked c (List.mem_filter.mp hc).1
  have hfound : (db.characters.rows.find? (·.id == c.characterId)).isSome = true := by
    rw [List.find?_isSome]
    exact ⟨r, hr, beq_iff_eq.mpr hid⟩
  obtain ⟨character, hcharacter⟩ := Option.isSome_iff_exists.mp hfound
  simp [exportRow, hcharacter]

end ChatDb

/-- The header of a conversation: that of its archive, or else one with its title. -/
def IsHeader (lib : JsonLibrary) (db : ChatDb) (c : ConversationRow) (v : Json) : Prop :=
  ((db.archiveOf c.id).bind fun a => lib.fromStr a.rawHeaderJson) = some v ∨
    ((db.archiveOf c.id).bind fun a => lib.fromStr a.rawHeaderJson) = none ∧
      v.get "character_name" = some (.string c.title)

/-- These are the active messages of a conversation, in the order of the sequence. -/
structure ActiveMessages (db : ChatDb) (conversationId : String) (messages : List MessageRow) :
    Prop where
  mem : ∀ m, m ∈ messages ↔
    m ∈ db.messages.rows ∧ m.conversationId = conversationId ∧ m.status = .active
  ordered : messages.Pairwise fun m m' => m.sequence < m'.sequence

/-- The value is what the message was imported from, or an empty object; an object has the text and
the flags of the message in it. -/
def SaysMessage (lib : JsonLibrary) (m : MessageRow) (v : Json) : Prop :=
  ∃ source, (m.sourceRawJson.bind lib.fromStr).getD (.object []) = source ∧
    ((∀ fields, source ≠ .object fields) → v = source) ∧
    ∀ fields, source = .object fields →
      v.get "mes" = some (.string (m.promptContent.getD m.contentOriginal)) ∧
      v.get "is_user" = some (.bool (m.role == .user)) ∧
      v.get "is_system" = some (.bool (m.role == .system)) ∧
      ∀ key, key ≠ "mes" → key ≠ "is_user" → key ≠ "is_system" → v.get key = source.get key

/-- **The text holds a conversation**: its header line, and then a line for each active message in
the order of the sequence. -/
def HoldsChat (lib : JsonLibrary) (db : ChatDb) (c : ConversationRow) (text : String) : Prop :=
  ∃ header messages values, IsHeader lib db c header ∧ ActiveMessages db c.id messages ∧
    List.Forall₂ (SaysMessage lib) messages values ∧
    text = String.join ((header :: values).map fun v => lib.toText v ++ "\n")

/-- The directory has `n` files, no two with one path, and one for each conversation of the
workspace, which holds it. -/
def ExportedWhole (lib : JsonLibrary) (db : ChatDb) (workspaceId : String) (n : ℕ)
    (files : List (ExportPath × String)) : Prop :=
  (db.conversationsOf workspaceId).length = n ∧ files.length = n ∧ (files.map Prod.fst).Nodup ∧
    ∃ path : ConversationRow → ExportPath,
      (∀ c ∈ db.conversationsOf workspaceId, ∀ c' ∈ db.conversationsOf workspaceId,
        path c = path c' → c = c') ∧
      ∀ c ∈ db.conversationsOf workspaceId, ∃ text,
        (path c, text) ∈ files ∧ HoldsChat lib db c text

/-- The files of the conversations are apart: no two of them have one directory and one name. -/
def ChatDb.TargetsApart (db : ChatDb) (workspaceId : String) : Prop :=
  ((db.conversationsOf workspaceId).map fun c => (db.exportRow c).target).Nodup

section Whole

variable {lib : JsonLibrary} {db : ChatDb} {workspaceId : String}

theorem isHeader_headerObject (c : ConversationRow) (newId : String) :
    IsHeader lib db c (Export.headerObject lib (db.archiveOf c.id) newId c.title) := by
  unfold IsHeader Export.headerObject
  cases (db.archiveOf c.id).bind fun a => lib.fromStr a.rawHeaderJson with
  | none => exact .inr ⟨rfl, rfl⟩
  | some v => exact .inl rfl

theorem saysMessage_exportObject (m : MessageRow) :
    SaysMessage lib m (Export.exportObject lib (ImportChat.content m)) := by
  refine ⟨_, rfl, fun hsource => ?_, fun fields hsource => ?_⟩
  · unfold Export.exportObject
    split
    · rename_i fields hfields
      exact absurd hfields (hsource fields)
    · rfl
  · obtain ⟨-, hget⟩ := Export.get_exportObject lib (c := ImportChat.content m) hsource
    rw [hsource]
    exact hget

/-- The messages that are selected are those of the conversation, and no two have one sequence. -/
theorem activeMessages_messagesOf (db : ChatDb) (conversationId : String) :
    ActiveMessages db conversationId
      ((db.messagesOf conversationId).filter (·.status == .active)) where
  mem m := by
    simp only [ChatDb.messagesOf, List.mem_filter, List.mem_insertionSort, beq_iff_eq, and_assoc]
  ordered := by
    have hsorted : (db.messagesOf conversationId).Pairwise fun m m' => m.sequence ≤ m'.sequence :=
      List.pairwise_insertionSort _ _
    have hapart : (db.messagesOf conversationId).Pairwise fun m m' => ¬ m.Clash m' := by
      refine ((List.perm_insertionSort _ _).pairwise_iff fun h hclash => ?_).mpr
        (db.messages.apart.filter _)
      exact h (hclash.imp Eq.symm fun h => ⟨h.1.symm, h.2.symm⟩)
    refine ((hsorted.and hapart).imp_of_mem fun hm hm' h => ?_).filter _
    simp only [ChatDb.messagesOf, List.mem_insertionSort, List.mem_filter, beq_iff_eq] at hm hm'
    exact lt_of_le_of_ne h.1 fun heq => h.2 (.inr ⟨hm.2.trans hm'.2.symm, heq⟩)

theorem fileText_eq_join (line : String) (lines : List String) :
    Export.fileText (line :: lines) = String.join ((line :: lines).map (· ++ "\n")) := by
  unfold Export.fileText
  induction lines generalizing line with
  | nil => simp [String.join_cons]
  | cons next lines ih =>
    rw [String.intercalate_cons_cons, String.append_assoc, ih]
    simp only [List.map_cons, String.join_cons]

theorem holdsChat_exportText (c : ConversationRow) (newId : String) :
    HoldsChat lib db c (exportText lib db newId (db.exportRow c)) := by
  refine ⟨_, _, _, isHeader_headerObject c newId, activeMessages_messagesOf db c.id,
    List.forall₂_map_right_iff.mpr (List.forall₂_same.mpr
      fun m _ => saysMessage_exportObject m), ?_⟩
  rw [exportText, Export.exportLines, fileText_eq_join, List.map_cons, List.map_cons, List.map_map,
    List.map_map]
  rfl

variable {rows : List ExportRow} {writes : List (ExportPath × String)}
  (h : List.Forall₂ (IsFileOf lib db) rows writes)
include h

/-- The paths of the files are those of the conversations. -/
theorem map_fst_of_forall₂ :
    writes.map Prod.fst = rows.map ExportRow.target := by
  induction h with
  | nil => rfl
  | cons hfile _ ih => rw [List.map_cons, List.map_cons, hfile.1, ih]

theorem exists_file_of_forall₂ {row : ExportRow} (hrow : row ∈ rows) :
    ∃ newId, (row.target, exportText lib db newId row) ∈ writes := by
  induction h with
  | nil => exact absurd hrow List.not_mem_nil
  | @cons r file rows writes hfile _ ih =>
    rcases List.mem_cons.mp hrow with rfl | hrow
    · obtain ⟨hpath, newId, htext⟩ := hfile
      exact ⟨newId, List.mem_cons.mpr (.inl (Prod.ext hpath.symm htext.symm))⟩
    · obtain ⟨newId, hmem⟩ := ih hrow
      exact ⟨newId, List.mem_cons_of_mem _ hmem⟩

omit h

/-- **The export loses nothing exactly if the files of the conversations are apart.** -/
theorem export_loses_nothing {A : Type} {t : A} {m' : Moment exportCalls A ExportWorld} {n : ℕ}
    (h : Runs (exportSemantics A) t (Export.exportWorkspace lib workspaceId).run ⟨⟨db, []⟩, []⟩
      (.ok n) m') :
    ExportedWhole lib db workspaceId n m'.world.files ↔ db.TargetsApart workspaceId := by
  obtain ⟨rows, writes, hperm, hn, hwrites, hfiles⟩ := runs_exportWorkspace h
  have hrows : rows.Perm ((db.conversationsOf workspaceId).map db.exportRow) := by
    rw [← ChatDb.exportRows_eq]
    exact hperm
  have hlength : writes.length = n := by rw [hn, hwrites.length_eq]
  have hapart : db.TargetsApart workspaceId ↔ (writes.map Prod.fst).Nodup := by
    rw [map_fst_of_forall₂ hwrites, (hrows.map ExportRow.target).nodup_iff, List.map_map]
    rfl
  have hfiles : m'.world.files = writes.foldl writeFile [] := hfiles
  rw [hapart]
  constructor
  · rintro ⟨-, hcount, -, -⟩
    refine nodup_of_length_foldl_writeFile ?_
    rw [← hfiles, hcount, hlength]
  · intro hnodup
    -- no write has replaced another one
    have hall : m'.world.files = writes := by
      rw [hfiles]
      exact @foldl_writeFile_of_nodup [] writes hnodup
    rw [hall]
    refine ⟨?_, hlength, hnodup, fun c => (db.exportRow c).target, ?_, ?_⟩
    · rw [hn, hrows.length_eq, List.length_map]
    · intro c hc c' hc' heq
      exact List.inj_on_of_nodup_map (hapart.mpr hnodup) hc hc' heq
    · intro c hc
      obtain ⟨newId, hfile⟩ :=
        exists_file_of_forall₂ hwrites (hrows.mem_iff.mpr (List.mem_map_of_mem hc))
      exact ⟨_, hfile, holdsChat_exportText c newId⟩

end Whole

/-! ## A chat that was imported twice -/

section Reimport

theorem exists_ok_of_map_eq_ok {ε α β : Type} {e : Except ε α} {f : α → β} {b : β}
    (h : e.map f = .ok b) : ∃ a, e = .ok a ∧ f a = b := by
  cases e with
  | error _ => cases h
  | ok a => exact ⟨a, rfl, Except.ok.inj h⟩

/-- The calls of an export, none of which fails, as a handler. -/
def ExportCall.act (c : ExportCall) (w : ExportWorld) : c.Reply × ExportWorld :=
  match c with
  | .createDirAll _ => (.ok (), w)
  | .selectConversations workspaceId => (.ok (w.db.exportRows workspaceId), w)
  | .selectArchive conversationId => (.ok (w.db.archiveOf conversationId), w)
  | .selectMessages conversationId => (.ok (w.db.messagesOf conversationId), w)
  | .newId => ("id", w)
  | .write path text => (.ok (), { w with files := writeFile w.files (path, text) })

theorem ExportCall.effect_act (c : ExportCall) (w : ExportWorld) :
    c.Effect w (c.act w).1 (c.act w).2 := by
  cases c with
  | createDirAll _ => exact rfl
  | selectConversations _ => exact ⟨.refl _, rfl⟩
  | selectArchive _ | selectMessages _ => exact ⟨rfl, rfl⟩
  | newId => exact rfl
  | write _ _ => exact rfl

/-- An export on its own, from an empty directory. -/
def exportAlone (lib : JsonLibrary) (workspaceId : String) (db : ChatDb) :
    AppResult ℕ × Moment exportCalls Unit ExportWorld :=
  (Export.exportWorkspace lib workspaceId).run.interpret
    (fun (c : ExportCall) m => ((c.act m.world).1,
      m.after () c (c.act m.world).1 (c.act m.world).2)) ⟨⟨db, []⟩, []⟩

theorem runs_exportAlone (lib : JsonLibrary) (workspaceId : String) (db : ChatDb) :
    Runs (exportSemantics Unit) () (Export.exportWorkspace lib workspaceId).run ⟨⟨db, []⟩, []⟩
      (exportAlone lib workspaceId db).1 (exportAlone lib workspaceId db).2 :=
  runs_interpret (fun c m => ⟨(c.act m.world).2, ExportCall.effect_act c m.world, rfl⟩) _ _

def chatHeader : Json :=
  .object [("user_name", .string "User"), ("character_name", .string "Seraphina")]

/-- The line of a message. -/
def messageLine (name : String) (isUser : Bool) (mes : String) : Json :=
  .object [("name", .string name), ("is_user", .bool isUser), ("is_system", .bool false),
    ("mes", .string mes)]

def userLine : Json := messageLine "User" true "Hello"

def characterLine : Json := messageLine "Seraphina" false "Welcome"

def nextLine : Json := messageLine "User" true "Where am I?"

/-- A JSON library that reads these values. -/
def JsonLibrary.reading (known : List Json) : JsonLibrary where
  fromStr := Json.readFrom known
  toText := Json.text

def chatLines : JsonLibrary := .reading [chatHeader, userLine, characterLine, nextLine]

def seraphina : CharacterRow :=
  { id := "character", workspaceId := "workspace", displayName := "Seraphina"
    currentRevisionId := none, archived := false, createdAt := "2026-01-01T00:00:00Z"
    updatedAt := "2026-01-01T00:00:00Z" }

/-- One character, and no conversation. -/
def seraphinaDb : ChatDb :=
  { ChatDb.empty with
    characters := ⟨[seraphina], List.pairwise_singleton _ _⟩
    conversationLinked := fun _ h => absurd h List.not_mem_nil }

/-- The import of a file with the given lines. -/
def chatImport (name file : String) (lines : List Json) : ChatImport where
  workspaceId := "workspace"
  accountId := "alice"
  handle := "alice"
  chat := { characterDir := "Seraphina", path := "/data/alice/chats/Seraphina/" ++ file
            lines := lines.map Json.text }
  checksum := name
  now := "2026-01-02T00:00:00Z"
  newId n := name ++ "-" ++ toString n

/-- The tables after two chats were imported, from these files; the second has a message more. -/
def importedDb (first second : String) : AppResult ChatDb := do
  let (_, db) ← (ImportChat.importChat chatLines
    (chatImport "first" first [chatHeader, userLine, characterLine])).run seraphinaDb
  let (_, db) ← (ImportChat.importChat chatLines
    (chatImport "second" second [chatHeader, userLine, characterLine, nextLine])).run db
  return db

/-- **A chat that was imported twice is exported once**: the export reports two conversations, and
leaves one file. -/
theorem reimported_chat_overwritten : ∃ db, importedDb "chat.jsonl" "chat.jsonl" = .ok db ∧
    ∃ m', Runs (exportSemantics Unit) () (Export.exportWorkspace chatLines "workspace").run
        ⟨⟨db, []⟩, []⟩ (.ok 2) m' ∧
      ¬ ExportedWhole chatLines db "workspace" 2 m'.world.files := by
  have hexport : ((importedDb "chat.jsonl" "chat.jsonl").map fun db =>
      ((exportAlone chatLines "workspace" db).1,
        (exportAlone chatLines "workspace" db).2.world.files.length)) = .ok (.ok 2, 1) := by
    decide +kernel
  obtain ⟨db, hdb, hexport⟩ := exists_ok_of_map_eq_ok hexport
  obtain ⟨hcount, hfiles⟩ := Prod.mk.inj hexport
  refine ⟨db, hdb, (exportAlone chatLines "workspace" db).2, ?_, fun hwhole => ?_⟩
  · have hruns := runs_exportAlone chatLines "workspace" db
    rw [hcount] at hruns
    exact hruns
  · have htwo := hwhole.2.1
    omega

/-- Two chats from two files, with five messages, are exported. -/
theorem export_loses_nothing_two : ∃ db, importedDb "monday.jsonl" "tuesday.jsonl" = .ok db ∧
    db.messages.rows.length = 5 ∧
    ∃ m', Runs (exportSemantics Unit) () (Export.exportWorkspace chatLines "workspace").run
        ⟨⟨db, []⟩, []⟩ (.ok 2) m' ∧
      ExportedWhole chatLines db "workspace" 2 m'.world.files := by
  have hexport : ((importedDb "monday.jsonl" "tuesday.jsonl").map fun db =>
      ((exportAlone chatLines "workspace" db).1, db.messages.rows.length,
        (db.conversationsOf "workspace").map fun c => (db.exportRow c).target)) =
          .ok (.ok 2, 5, [("Seraphina", "monday.jsonl"), ("Seraphina", "tuesday.jsonl")]) := by
    decide +kernel
  obtain ⟨db, hdb, hexport⟩ := exists_ok_of_map_eq_ok hexport
  obtain ⟨hcount, hexport⟩ := Prod.mk.inj hexport
  obtain ⟨hmessages, htargets⟩ := Prod.mk.inj hexport
  have hruns := runs_exportAlone chatLines "workspace" db
  rw [hcount] at hruns
  refine ⟨db, hdb, hmessages, _, hruns, (export_loses_nothing hruns).mpr ?_⟩
  rw [ChatDb.TargetsApart, htargets]
  decide

end Reimport

end ImBridge
